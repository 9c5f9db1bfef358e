import WavLpddr.GroupSchedule
import WavLpddr.SequenceLoop

/-!
# The packets of the loops

From the records of its groups a loop fills, timestamp by timestamp, the phases that
the groups cover.  Its packets are those from its first timestamp to the end of the
last group.
-/

namespace WavLpddr

open PacketGroupInfo TxPacketBuffer

/-- The first timestamp whose packet starts at or after a DRAM cycle. -/
def packetsEnd (cycles stop : Nat) : Nat := (stop + cycles - 1) / cycles

theorem lt_packetsEnd {ratio : WddrFreqRatio} (supported : ratio.Supported) (time stop : Nat) :
    time < packetsEnd ratio.cycles stop ↔ time * ratio.cycles < stop := by
  unfold packetsEnd
  rcases supported.cycles_eq with width | width <;> rw [width] <;> omega

/-- Every packet holds a cycle, so there are no more packets than cycles. -/
theorem packetsEnd_le {ratio : WddrFreqRatio} (supported : ratio.Supported) (stop : Nat) :
    packetsEnd ratio.cycles stop ≤ stop := by
  unfold packetsEnd
  rcases supported.cycles_eq with width | width <;> rw [width] <;> omega

/-- The packets up to the end hold every phase before the cycle. -/
theorem le_packetsEnd_mul {ratio : WddrFreqRatio} (supported : ratio.Supported) (stop : Nat) :
    2 * stop ≤ packetsEnd ratio.cycles stop * (2 * ratio.cycles) := by
  have beyond := mt (lt_packetsEnd supported (packetsEnd ratio.cycles stop) stop).mpr
    (Nat.lt_irrefl _)
  rw [Nat.mul_left_comm]
  omega

theorem div_mul_phases_le (ratio : WddrFreqRatio) (start : Nat) :
    start / ratio.cycles * (2 * ratio.cycles) ≤ 2 * start := by
  have := Nat.div_mul_le_self start ratio.cycles
  rw [Nat.mul_left_comm]
  omega

/-- Set the write enable. -/
def enableWrdata (_ : Nat) (phase : TxDataPhase) : TxDataPhase := { phase with wrdataEn := 1 }

/-- Drive a phase with the data of both byte lanes. -/
def driveWrdata (cs : Chipselect) (data : CommandData) (start position : Nat)
    (phase : TxDataPhase) : TxDataPhase :=
  { phase with
    wrdataCs := cs.high.setWidth 2
    dq0Wrdata := data 0 (position - start)
    dq1Wrdata := data 1 (position - start) }

/-- Set the read enable and its chip select. -/
def enableRddata (cs : Chipselect) (_ : Nat) (phase : TxDataPhase) : TxDataPhase :=
  { phase with rddataEn := 1, rddataCs := cs.high.setWidth 2 }

namespace PacketGroupInfo

/-- Phases remain while the timestamp lies before the end of the group. -/
theorem phaseRemaining_groupAt_ne_zero_iff (dfiTsStart : BitVec 16) {cycles start length : Nat}
    (nonempty : 0 < length) (fits : 2 * length < 2 ^ 16) (time : Nat) :
    (groupAt dfiTsStart cycles start length time).phaseRemaining ≠ 0 ↔
      time * cycles < start + length := by
  have remaining : (groupAt dfiTsStart cycles start length time).phaseRemaining.toNat =
      2 * (length - (time * cycles - start)) :=
    (BitVec.toNat_ofNat _ _).trans (Nat.mod_eq_of_lt (by omega))
  rw [Ne, ← BitVec.toNat_inj, remaining]
  change ¬ _ = 0 ↔ _
  omega

/-- A whole packet of phases remains while the timestamp lies before the last one that
the group fills up. -/
theorem phasesPerPacket_le_groupAt_iff (dfiTsStart : BitVec 16) {ratio : WddrFreqRatio}
    (supported : ratio.Supported) {first length time : Nat} (fits : 2 * length < 2 ^ 16)
    (after : first ≤ time) (before : time < first + length / ratio.cycles) :
    (ratio.cyclesPerPacket <<< 1).setWidth 16 ≤
        (groupAt dfiTsStart ratio.cycles (first * ratio.cycles) length (time + 1)).phaseRemaining ↔
      time + 1 < first + length / ratio.cycles := by
  have packet : ((ratio.cyclesPerPacket <<< 1).setWidth 16 : BitVec 16).toNat =
      2 * ratio.cycles := by
    rcases supported with rfl | rfl <;> rfl
  have remaining : (groupAt dfiTsStart ratio.cycles (first * ratio.cycles) length
        (time + 1)).phaseRemaining.toNat =
      2 * (length - ((time + 1) * ratio.cycles - first * ratio.cycles)) :=
    (BitVec.toNat_ofNat _ _).trans (Nat.mod_eq_of_lt (by omega))
  rw [BitVec.le_def, packet, remaining]
  clear remaining packet
  rcases supported.cycles_eq with width | width <;> rw [width] at before ⊢ <;> omega

section Bodies

variable {dfiTsStart : BitVec 16} {ratio : WddrFreqRatio} (supported : ratio.Supported)
  {start length time : Nat} (long : ratio.cycles ≤ length) (fits : 2 * length < 2 ^ 16)
  (starts : dfiTsStart.toNat ≤ time ↔ start < (time + 1) * ratio.cycles)
  {packet : DfiTxPacket} (sent : packet.time.toNat = time)
include supported long fits starts sent

theorem fillWrdataEnPacket_when :
    (if (groupAt dfiTsStart ratio.cycles start length time).dfiTsStart ≤ packet.time then
        fillWrdataEnPacket ratio.cyclesPerPacket packet
          (groupAt dfiTsStart ratio.cycles start length time)
      else (packet, groupAt dfiTsStart ratio.cycles start length time)) =
      (packet.drive enableWrdata (2 * ratio.cycles) (2 * start) (2 * (start + length)) time,
        groupAt dfiTsStart ratio.cycles start length (time + 1)) :=
  fillPacket_when (fun _ _ => rfl) supported long fits starts 0 sent fun _ _ _ _ _ _ _ => rfl

/-- The data of a burst are put in order, the first phase of the group first. -/
theorem fillWrdataPacket_when (cs : Chipselect) (data : CommandData) :
    (if (groupAt dfiTsStart ratio.cycles start length time).dfiTsStart ≤ packet.time then
        fillWrdataPacket cs data ratio.cyclesPerPacket (BitVec.ofNat 16 (2 * length)) packet
          (groupAt dfiTsStart ratio.cycles start length time)
      else (packet, groupAt dfiTsStart ratio.cycles start length time)) =
      (packet.drive (driveWrdata cs data (2 * start)) (2 * ratio.cycles) (2 * start)
          (2 * (start + length)) time,
        groupAt dfiTsStart ratio.cycles start length (time + 1)) := by
  apply fillPacket_when (fun _ _ => rfl) supported long fits starts _ sent
  intro cycle half inCycle after before inside ends
  have offset : BitVec.ofNat 16 (2 * length) -
        BitVec.ofNat 16 (2 * (length - (time * ratio.cycles - start))) +
      BitVec.ofNat 16 (2 * (cycle - max start (time * ratio.cycles))) =
        BitVec.ofNat 16 (2 * (cycle - start)) := by
    rw [BitVec.ofNat_sub_ofNat_of_le _ _ (by omega) (by omega), ← BitVec.ofNat_add]
    congr 1
    omega
  have index : (BitVec.ofNat 16 (2 * (cycle - start))).toNat + half =
      2 * cycle + half - 2 * start := by
    rw [BitVec.toNat_ofNat, Nat.mod_eq_of_lt (by omega)]
    omega
  rw [offset]
  simp only [index]
  rfl

/-- Data that are constant over a packet are put into every phase. -/
theorem fillWrdataPacket_held (cs : Chipselect) {data : CommandData} {level : Nat → BitVec 8}
    (held : ∀ lane index, index < 2 * ratio.cycles → data lane index = level lane) :
    (if (groupAt dfiTsStart ratio.cycles start length time).dfiTsStart ≤ packet.time then
        fillWrdataPacket cs data ratio.cyclesPerPacket
          (groupAt dfiTsStart ratio.cycles start length time).phaseRemaining packet
          (groupAt dfiTsStart ratio.cycles start length time)
      else (packet, groupAt dfiTsStart ratio.cycles start length time)) =
      (packet.drive (driveWrdata cs (fun lane _ => level lane) 0) (2 * ratio.cycles)
          (2 * start) (2 * (start + length)) time,
        groupAt dfiTsStart ratio.cycles start length (time + 1)) := by
  apply fillPacket_when (fun _ _ => rfl) supported long fits starts _ sent
  intro cycle half inCycle after before inside ends
  have next := Nat.add_one_mul time ratio.cycles
  have offset : (groupAt dfiTsStart ratio.cycles start length time).phaseRemaining -
        BitVec.ofNat 16 (2 * (length - (time * ratio.cycles - start))) +
      BitVec.ofNat 16 (2 * (cycle - max start (time * ratio.cycles))) =
        BitVec.ofNat 16 (2 * (cycle - max start (time * ratio.cycles))) := by
    unfold groupAt
    rw [BitVec.sub_self, BitVec.zero_add]
  have index : (BitVec.ofNat 16 (2 * (cycle - max start (time * ratio.cycles)))).toNat + half <
      2 * ratio.cycles := by
    rw [BitVec.toNat_ofNat, Nat.mod_eq_of_lt (by omega)]
    omega
  rw [offset]
  simp only [held _ _ index]
  rfl

end Bodies

/-- A read is filled from the first packet on, which holds the start of its group. -/
theorem fillRddataPacket_groupAt (cs : Chipselect) (dfiTsStart : BitVec 16)
    {ratio : WddrFreqRatio} (supported : ratio.Supported) {start length time : Nat}
    (long : ratio.cycles ≤ length) (fits : 2 * length < 2 ^ 16)
    (started : start < (time + 1) * ratio.cycles) (packet : DfiTxPacket) :
    fillRddataPacket cs ratio.cyclesPerPacket packet
        (groupAt dfiTsStart ratio.cycles start length time) =
      (packet.drive (enableRddata cs) (2 * ratio.cycles) (2 * start) (2 * (start + length)) time,
        groupAt dfiTsStart ratio.cycles start length (time + 1)) :=
  fillPacket_groupAt (fun _ _ => rfl) dfiTsStart supported long fits started 0 packet
    fun _ _ _ _ _ _ _ => rfl

end PacketGroupInfo

/-- The packet of the write FIFO loop at a timestamp, from the first cycles and the lengths
of its groups. -/
def wrfifoPacketAt (ratio : WddrFreqRatio) (cs : Chipselect) (data : CommandData)
    (enable enableLength start length time : Nat) : DfiTxPacket :=
  ((ckePacket (BitVec.ofNat 16 time)).drive enableWrdata (2 * ratio.cycles) (2 * enable)
      (2 * (enable + enableLength)) time).drive
    (driveWrdata cs data (2 * start)) (2 * ratio.cycles) (2 * start) (2 * (start + length)) time

/-- A burst of a length as DRAM cycles. -/
def BurstLength.cycles : BurstLength → Nat
  | bl16 => 8
  | bl32 => 16

theorem BurstLength.phases_eq (burstLength : BurstLength) :
    burstLength.phases = BitVec.ofNat 16 (2 * burstLength.cycles) := by
  cases burstLength <;> rfl

section Loops

variable {ratio : WddrFreqRatio} (supported : ratio.Supported)
include supported

/-- The write FIFO loop from its first timestamp on. -/
theorem loopTrace_wrfifo (burstLength : BurstLength) (cs : Chipselect) (data : CommandData)
    {enableStart dataStart : BitVec 16} {enable start first : Nat}
    (enableStarts : ∀ time, first ≤ time →
      (enableStart.toNat ≤ time ↔ enable < (time + 1) * ratio.cycles))
    (dataStarts : ∀ time, first ≤ time →
      (dataStart.toNat ≤ time ↔ start < (time + 1) * ratio.cycles))
    (early : first * ratio.cycles ≤ enable)
    (fits : max (enable + (burstLength.cycles + 2)) (start + burstLength.cycles) < 2 ^ 16) :
    let last := packetsEnd ratio.cycles
      (max (enable + (burstLength.cycles + 2)) (start + burstLength.cycles))
    loopTrace ckePacket (fillWrfifo ratio.cyclesPerPacket burstLength cs data) wrfifoRemains
        loopFuel (BitVec.ofNat 16 first)
        (groupAt enableStart ratio.cycles enable (burstLength.cycles + 2) first,
          groupAt dataStart ratio.cycles start burstLength.cycles first) =
      ((List.Ico first last).map (wrfifoPacketAt ratio cs data enable (burstLength.cycles + 2)
          start burstLength.cycles),
        some (groupAt enableStart ratio.cycles enable (burstLength.cycles + 2) last,
          groupAt dataStart ratio.cycles start burstLength.cycles last)) := by
  intro last
  have short : burstLength.cycles ≤ 16 := by cases burstLength <;> decide
  have dataLong : ratio.cycles ≤ burstLength.cycles := by
    rcases supported with rfl | rfl <;> cases burstLength <;> decide
  have enableLong : ratio.cycles ≤ burstLength.cycles + 2 := by omega
  have dataFits : 2 * burstLength.cycles < 2 ^ 16 := by omega
  have enableFits : 2 * (burstLength.cycles + 2) < 2 ^ 16 := by omega
  have positive : 0 < ratio.cycles := by rcases supported with rfl | rfl <;> decide
  have bound : ∀ time, time < last ↔ time * ratio.cycles <
      max (enable + (burstLength.cycles + 2)) (start + burstLength.cycles) :=
    fun time => lt_packetsEnd supported time _
  apply loopTrace_eq_map fun time =>
    (groupAt enableStart ratio.cycles enable (burstLength.cycles + 2) time,
      groupAt dataStart ratio.cycles start burstLength.cycles time)
  · intro time after before
    have inTime := Nat.le_mul_of_pos_right time positive
    have inGroups := (bound time).mp before
    have sent : (ckePacket (BitVec.ofNat 16 time)).time.toNat = time :=
      (BitVec.toNat_ofNat _ _).trans (Nat.mod_eq_of_lt (by omega))
    have enabled := fillWrdataEnPacket_when supported enableLong enableFits
      (enableStarts time after) sent
    have sentLater : ((ckePacket (BitVec.ofNat 16 time)).drive enableWrdata (2 * ratio.cycles)
        (2 * enable) (2 * (enable + (burstLength.cycles + 2))) time).time.toNat = time := sent
    have filled := fillWrdataPacket_when supported dataLong dataFits (dataStarts time after)
      sentLater cs data
    unfold fillWrfifo
    dsimp only
    rw [enabled]
    dsimp only
    rw [BurstLength.phases_eq, filled]
    rfl
  · intro time after before
    rw [wrfifoRemains, bound, Bool.or_eq_true, decide_eq_true_eq, decide_eq_true_eq,
      phaseRemaining_groupAt_ne_zero_iff _ (by omega) enableFits,
      phaseRemaining_groupAt_ne_zero_iff _ (by omega) dataFits]
    omega
  · rw [bound]
    omega
  · have few := packetsEnd_le supported
      (max (enable + (burstLength.cycles + 2)) (start + burstLength.cycles))
    have fuel : loopFuel = 2 ^ 26 := rfl
    omega

/-- The read loop from the timestamp that holds the first cycle of its group. -/
theorem loopTrace_read (burstLength : BurstLength) (cs : Chipselect) (dfiTsStart : BitVec 16)
    {start first : Nat} (early : first * ratio.cycles ≤ start)
    (started : start < (first + 1) * ratio.cycles)
    (fits : start + burstLength.cycles < 2 ^ 16) :
    let last := packetsEnd ratio.cycles (start + burstLength.cycles)
    loopTrace ckePacket (fillRddataPacket cs ratio.cyclesPerPacket) (·.phaseRemaining ≠ 0)
        loopFuel (BitVec.ofNat 16 first)
        (groupAt dfiTsStart ratio.cycles start burstLength.cycles first) =
      ((List.Ico first last).map fun time =>
          (ckePacket (BitVec.ofNat 16 time)).drive (enableRddata cs) (2 * ratio.cycles)
            (2 * start) (2 * (start + burstLength.cycles)) time,
        some (groupAt dfiTsStart ratio.cycles start burstLength.cycles last)) := by
  intro last
  have short : burstLength.cycles ≤ 16 := by cases burstLength <;> decide
  have long : ratio.cycles ≤ burstLength.cycles := by
    rcases supported with rfl | rfl <;> cases burstLength <;> decide
  have positive : 0 < ratio.cycles := by rcases supported with rfl | rfl <;> decide
  have bound : ∀ time, time < last ↔ time * ratio.cycles < start + burstLength.cycles :=
    fun time => lt_packetsEnd supported time _
  apply loopTrace_eq_map fun time => groupAt dfiTsStart ratio.cycles start burstLength.cycles time
  · intro time after _
    have inPacket : start < (time + 1) * ratio.cycles :=
      started.trans_le (Nat.mul_le_mul_right _ (Nat.succ_le_succ after))
    exact fillRddataPacket_groupAt cs dfiTsStart supported long (by omega) inPacket _
  · intro time _ _
    rw [bound, decide_eq_true_eq,
      phaseRemaining_groupAt_ne_zero_iff _ (by omega) (by omega)]
  · rw [bound]
    omega
  · have few := packetsEnd_le supported (start + burstLength.cycles)
    have fuel : loopFuel = 2 ^ 26 := rfl
    omega

/-- The packet of the command bus training loop at a timestamp. -/
def cbtPacketAt (ratio : WddrFreqRatio) (cs : Chipselect) (level : Nat → BitVec 8)
    (start length enable time : Nat) : DfiTxPacket :=
  ((ckPacket (BitVec.ofNat 16 time)).drive (driveWrdata cs (fun lane _ => level lane) 0)
      (2 * ratio.cycles) (2 * start) (2 * (start + length)) time).drive
    enableWrdata (2 * ratio.cycles) (2 * enable) (2 * (enable + 2)) time

/-- The command bus training loop stops when less than a packet of data remains. -/
theorem loopTrace_cbt (cs : Chipselect) {data : CommandData} {level : Nat → BitVec 8}
    (held : ∀ lane index, index < 2 * ratio.cycles → data lane index = level lane)
    {dataStart enableStart : BitVec 16} {length enable first : Nat}
    (dataStarts : ∀ time, first ≤ time →
      (dataStart.toNat ≤ time ↔ first * ratio.cycles < (time + 1) * ratio.cycles))
    (enableStarts : ∀ time, first ≤ time →
      (enableStart.toNat ≤ time ↔ enable < (time + 1) * ratio.cycles))
    (long : ratio.cycles ≤ length) (fits : 2 * length < 2 ^ 16)
    (inTime : (first + length) * ratio.cycles < 2 ^ 16) :
    let last := first + length / ratio.cycles
    loopTrace ckPacket (fillCbt ratio.cyclesPerPacket cs data)
        (fun groups => (ratio.cyclesPerPacket <<< 1).setWidth 16 ≤ groups.1.phaseRemaining)
        loopFuel (BitVec.ofNat 16 first)
        (groupAt dataStart ratio.cycles (first * ratio.cycles) length first,
          groupAt enableStart ratio.cycles enable 2 first) =
      ((List.Ico first last).map (cbtPacketAt ratio cs level (first * ratio.cycles) length enable),
        some (groupAt dataStart ratio.cycles (first * ratio.cycles) length last,
          groupAt enableStart ratio.cycles enable 2 last)) := by
  intro last
  have positive : 0 < ratio.cycles := by rcases supported with rfl | rfl <;> decide
  have enableLong : ratio.cycles ≤ 2 := by rcases supported with rfl | rfl <;> decide
  have enableFits : 2 * 2 < 2 ^ 16 := by decide
  have inside := Nat.le_mul_of_pos_right (first + length) positive
  have quotient := Nat.div_le_self length ratio.cycles
  apply loopTrace_eq_map fun time =>
    (groupAt dataStart ratio.cycles (first * ratio.cycles) length time,
      groupAt enableStart ratio.cycles enable 2 time)
  · intro time after before
    have sent : (ckPacket (BitVec.ofNat 16 time)).time.toNat = time :=
      (BitVec.toNat_ofNat _ _).trans (Nat.mod_eq_of_lt (by omega))
    have filled := fillWrdataPacket_held supported long fits (dataStarts time after) sent cs held
    have sentLater : ((ckPacket (BitVec.ofNat 16 time)).drive
        (driveWrdata cs (fun lane _ => level lane) 0) (2 * ratio.cycles)
        (2 * (first * ratio.cycles)) (2 * (first * ratio.cycles + length)) time).time.toNat =
          time := sent
    have enabled := fillWrdataEnPacket_when supported enableLong enableFits
      (enableStarts time after) sentLater
    unfold fillCbt
    dsimp only
    rw [filled]
    dsimp only
    rw [enabled]
    rfl
  · intro time after before
    rw [decide_eq_true_eq]
    exact phasesPerPacket_le_groupAt_iff _ supported fits after before
  · have := Nat.div_pos long positive
    omega
  · have fuel : loopFuel = 2 ^ 26 := rfl
    omega

end Loops

end WavLpddr
