import WavLpddr.DramSequence

/-!
# What a group fills at each timestamp

A group starts at a DRAM cycle and lasts for a number of cycles.  Its record at a
DFI timestamp follows from these two numbers, and filling the packet of that
timestamp puts exactly the phases of the group that fall into the packet.
-/

namespace WavLpddr

/-- How many DRAM cycles a packet holds. -/
def WddrFreqRatio.cycles (ratio : WddrFreqRatio) : Nat := 1 <<< ratio.shift

theorem WddrFreqRatio.cycles_pos (ratio : WddrFreqRatio) : 0 < ratio.cycles := by
  cases ratio <;> decide

/-- The ratios that the packet layout supports. -/
def WddrFreqRatio.Supported (ratio : WddrFreqRatio) : Prop :=
  ratio = .ratio1to1 ∨ ratio = .ratio1to2

theorem WddrFreqRatio.Supported.cycles_eq {ratio : WddrFreqRatio} (supported : ratio.Supported) :
    ratio.cycles = 1 ∨ ratio.cycles = 2 := by
  rcases supported with rfl | rfl
  · exact Or.inl rfl
  · exact Or.inr rfl

theorem toNat_cyclesPerPacket (ratio : WddrFreqRatio) :
    ratio.cyclesPerPacket.toNat = ratio.cycles := by
  cases ratio <;> rfl

/-- Update the data phases of one packet that lie in a window of phases, counted from the
start of time. -/
def DfiTxPacket.drive (update : Nat → TxDataPhase → TxDataPhase)
    (phases start stop time : Nat) (packet : DfiTxPacket) : DfiTxPacket :=
  { packet with
    data := fun phase =>
      if phase < phases ∧ start ≤ time * phases + phase ∧ time * phases + phase < stop then
        update (time * phases + phase) (packet.data phase)
      else packet.data phase }

namespace PacketGroupInfo

/-- The record of a group of `length` DRAM cycles from cycle `start` on when the packet of a
timestamp is to be filled. -/
def groupAt (dfiTsStart : BitVec 16) (cycles start length time : Nat) : PacketGroupInfo where
  dfiTsStart := dfiTsStart
  cycleOffset := BitVec.ofNat 16 (if time * cycles ≤ start then start % cycles else 0)
  phaseRemaining := BitVec.ofNat 16 (2 * (length - (time * cycles - start)))

/-- The record of such a group when a cycle counts `1 <<< shft` phases. -/
def recordAt (shft : Nat) (dfiTsStart : BitVec 16) (cycles start length time : Nat) :
    PacketGroupInfo where
  dfiTsStart := dfiTsStart
  cycleOffset := BitVec.ofNat 16 (if time * cycles ≤ start then start % cycles else 0)
  phaseRemaining := BitVec.ofNat 16 (1 <<< shft * (length - (time * cycles - start)))

theorem groupAt_eq_recordAt : groupAt = recordAt dataPhasePerCycShft := rfl

/-- The bits of a mask from the number of cycles and the offset. -/
theorem mask_bits : ∀ count ≤ 4, ∀ offset < 4, ∀ bit < 2,
    ((((((1 : Word) <<< BitVec.ofNat 16 count) - 1).setWidth 8 : BitVec 8).setWidth 32 <<<
        ((BitVec.ofNat 16 offset).setWidth 8 : BitVec 8)) &&&
      ((((1 : Word) <<< BitVec.ofNat 16 count) - 1).setWidth 8 : BitVec 8).setWidth 32).getLsbD
        bit = decide (offset ≤ bit ∧ bit < count) := by
  decide +kernel

/-- The mask of a record whose numbers are known. -/
theorem getLsbD_determineGroupMask (shft : Nat) (dfiTsStart : BitVec 16)
    {cyclesPerPacket : BitVec 8} {offset remaining : Nat} (few : cyclesPerPacket.toNat ≤ 4)
    (inPacket : offset < 4) (fits : 1 <<< shft * remaining < 2 ^ 16) {bit : Nat}
    (compiled : bit < 2) :
    ((determineGroupMask ⟨dfiTsStart, BitVec.ofNat 16 offset,
      BitVec.ofNat 16 (1 <<< shft * remaining)⟩ cyclesPerPacket shft).1).getLsbD bit =
        decide (offset ≤ bit ∧ bit < min cyclesPerPacket.toNat remaining) := by
  have positive : 0 < 1 <<< shft := Nat.one_shiftLeft shft ▸ Nat.two_pow_pos shft
  have lessRemaining := Nat.le_mul_of_pos_left remaining positive
  have shifted : BitVec.ofNat 16 (1 <<< shft * remaining) >>> shft = BitVec.ofNat 16 remaining := by
    apply BitVec.eq_of_toNat_eq
    rw [BitVec.toNat_ushiftRight, BitVec.toNat_ofNat, BitVec.toNat_ofNat,
      Nat.mod_eq_of_lt fits, Nat.mod_eq_of_lt (by omega), Nat.shiftRight_eq_div_pow,
      Nat.one_shiftLeft, Nat.mul_div_cancel_left _ (Nat.two_pow_pos shft)]
  have clipped : (if cyclesPerPacket.setWidth 16 < BitVec.ofNat 16 remaining then
        cyclesPerPacket.setWidth 16 else BitVec.ofNat 16 remaining) =
      BitVec.ofNat 16 (min cyclesPerPacket.toNat remaining) := by
    have small := cyclesPerPacket.isLt
    have widened : (cyclesPerPacket.setWidth 16).toNat = cyclesPerPacket.toNat := by
      rw [BitVec.toNat_setWidth, Nat.mod_eq_of_lt (by omega)]
    have counted : (BitVec.ofNat 16 remaining).toNat = remaining := by
      rw [BitVec.toNat_ofNat, Nat.mod_eq_of_lt (by omega)]
    simp only [BitVec.lt_def, widened, counted]
    split
    · rename_i less
      rw [Nat.min_eq_left less.le]
      apply BitVec.eq_of_toNat_eq
      rw [widened, BitVec.toNat_ofNat, Nat.mod_eq_of_lt (by omega)]
    · rename_i less
      rw [Nat.min_eq_right (by omega)]
  have count : min cyclesPerPacket.toNat remaining ≤ 4 := (Nat.min_le_left _ _).trans few
  rw [← mask_bits _ count offset inPacket bit compiled]
  simp only [determineGroupMask, shifted, clipped]

/-- The phases of a DRAM cycle are updated, and no other part of the packet. -/
theorem putPhases_eq (update : Nat → TxDataPhase → TxDataPhase) (cycle : Nat)
    (packet : DfiTxPacket) :
    putPhases update cycle packet =
      { packet with
        data := fun phase =>
          if phase / 2 = cycle then update (phase % 2) (packet.data phase)
          else packet.data phase } := by
  unfold putPhases DfiTxPacket.updateData
  congr 1
  funext phase
  dsimp only
  by_cases second : phase = 2 * cycle + 1
  · subst second
    have half : (2 * cycle + 1) / 2 = cycle := by omega
    have odd : (2 * cycle + 1) % 2 = 1 := by omega
    have apart : 2 * cycle + 1 ≠ 2 * cycle := by omega
    rw [Function.update_self, if_pos half, odd, Function.update_of_ne apart]
  · rw [Function.update_of_ne second]
    by_cases first : phase = 2 * cycle
    · subst first
      have half : 2 * cycle / 2 = cycle := by omega
      have even : 2 * cycle % 2 = 0 := by omega
      rw [Function.update_self, if_pos half, even]
    · rw [Function.update_of_ne first, if_neg (by omega)]

section Fill

variable {put : Nat → BitVec 16 → DfiTxPacket → DfiTxPacket}
  {update : BitVec 16 → Nat → TxDataPhase → TxDataPhase}

/-- One block of a fill function. -/
theorem fillCycle_eq (puts : ∀ cycle offset, put cycle offset = putPhases (update offset) cycle)
    (mask : Word) (packet : DfiTxPacket) (groupInfo : PacketGroupInfo) (offset : BitVec 16)
    (cycle : Nat) :
    fillCycle mask put (packet, groupInfo, offset) cycle =
      ({ packet with
          data := fun phase =>
            if phase / 2 = cycle ∧ mask.getLsbD cycle = true then
              update offset (phase % 2) (packet.data phase)
            else packet.data phase },
        { groupInfo with
          phaseRemaining :=
            groupInfo.phaseRemaining - (if mask.getLsbD cycle then 2 else 0) },
        offset + (if mask.getLsbD cycle then 2 else 0)) := by
  unfold fillCycle
  dsimp only
  cases mask.getLsbD cycle with
  | true => simp only [puts, putPhases_eq, and_true, if_true]
  | false => simp

/-- The mask of the packet of a timestamp selects the cycles of the group. -/
theorem getLsbD_mask_recordAt (shft : Nat) (dfiTsStart : BitVec 16) {ratio : WddrFreqRatio}
    (supported : ratio.Supported) {start length time : Nat} (long : ratio.cycles ≤ length)
    (fits : 1 <<< shft * length < 2 ^ 16) (started : start < (time + 1) * ratio.cycles)
    {bit : Nat} (compiled : bit < 2) :
    ((recordAt shft dfiTsStart ratio.cycles start length time).determineGroupMask
      ratio.cyclesPerPacket shft).1.getLsbD bit =
        decide (bit < ratio.cycles ∧ start ≤ time * ratio.cycles + bit ∧
          time * ratio.cycles + bit < start + length) := by
  have few : ratio.cyclesPerPacket.toNat ≤ 4 := by
    rcases supported with rfl | rfl <;> decide
  have offset : (if time * ratio.cycles ≤ start then start % ratio.cycles else 0) < 4 := by
    rcases supported.cycles_eq with width | width <;> rw [width] <;> split <;> omega
  have less : 1 <<< shft * (length - (time * ratio.cycles - start)) < 2 ^ 16 :=
    (Nat.mul_le_mul_left _ (Nat.sub_le _ _)).trans_lt fits
  rw [recordAt, getLsbD_determineGroupMask shft dfiTsStart few offset less compiled,
    toNat_cyclesPerPacket]
  rcases supported.cycles_eq with width | width <;> rw [width] at started long ⊢ <;>
    rw [decide_eq_decide] <;> split <;> omega

/-- The phases that remain after the packet of a timestamp. -/
theorem phaseRemaining_next {ratio : WddrFreqRatio} (supported : ratio.Supported)
    {start length time : Nat} (long : ratio.cycles ≤ length) (fits : 2 * length < 2 ^ 16)
    (started : start < (time + 1) * ratio.cycles) :
    (BitVec.ofNat 16 (2 * (length - (time * ratio.cycles - start))) -
        if 0 < ratio.cycles ∧ start ≤ time * ratio.cycles ∧
          time * ratio.cycles < start + length then 2 else 0) -
      (if 1 < ratio.cycles ∧ start ≤ time * ratio.cycles + 1 ∧
        time * ratio.cycles + 1 < start + length then 2 else 0) =
      BitVec.ofNat 16 (2 * (length - ((time + 1) * ratio.cycles - start))) := by
  have lifted : ∀ condition : Prop, [Decidable condition] →
      (if condition then (2 : BitVec 16) else 0) =
        BitVec.ofNat 16 (if condition then 2 else 0) := by
    intro condition _
    split <;> rfl
  rw [lifted, lifted]
  rcases supported.cycles_eq with width | width <;> rw [width] at started long ⊢ <;>
    rw [BitVec.ofNat_sub_ofNat_of_le _ _ (by split <;> decide) (by split <;> omega),
      BitVec.ofNat_sub_ofNat_of_le _ _ (by split <;> decide)
        (by split <;> split <;> omega)] <;>
    congr 1 <;> split <;> split <;> omega

/-- The phases of the first cycle of a packet are put before those of the second, if the
window holds the first cycle. -/
theorem secondOffset_eq {cycles start length time : Nat} (inWindow : 1 < cycles ∧
      start ≤ time * cycles + 1 ∧ time * cycles + 1 < start + length) :
    (if 0 < cycles ∧ start ≤ time * cycles ∧ time * cycles < start + length then
        (2 : BitVec 16) else 0) =
      BitVec.ofNat 16 (2 * (time * cycles + 1 - max start (time * cycles))) := by
  by_cases earlier : start ≤ time * cycles
  · rw [if_pos (by omega), Nat.max_eq_right earlier, Nat.add_sub_cancel_left]
    rfl
  · rw [if_neg (by omega), Nat.max_eq_left (by omega),
      (by omega : time * cycles + 1 - start = 0)]
    rfl

/-- The phases of a packet that a window drives are those of the cycles it covers. -/
theorem phase_inWindow_iff {cycles start length time phase cycle : Nat}
    (turn : phase / 2 = cycle) :
    (phase < 2 * cycles ∧ 2 * start ≤ time * (2 * cycles) + phase ∧
        time * (2 * cycles) + phase < 2 * (start + length)) ↔
      cycle < cycles ∧ start ≤ time * cycles + cycle ∧
        time * cycles + cycle < start + length := by
  rw [Nat.mul_left_comm time 2 cycles]
  omega

/-- Filling the packet of a timestamp, from the record of the group at that timestamp. -/
theorem fillPacket_groupAt
    (puts : ∀ cycle offset, put cycle offset = putPhases (update offset) cycle)
    (dfiTsStart : BitVec 16) {ratio : WddrFreqRatio} (supported : ratio.Supported)
    {start length time : Nat} (long : ratio.cycles ≤ length) (fits : 2 * length < 2 ^ 16)
    (started : start < (time + 1) * ratio.cycles) (phaseLength : BitVec 16)
    (packet : DfiTxPacket) {drives : Nat → TxDataPhase → TxDataPhase}
    (agrees : ∀ cycle half, half < 2 → start ≤ cycle → cycle < start + length →
      time * ratio.cycles ≤ cycle → cycle < (time + 1) * ratio.cycles →
      update (phaseLength - BitVec.ofNat 16 (2 * (length - (time * ratio.cycles - start))) +
        BitVec.ofNat 16 (2 * (cycle - max start (time * ratio.cycles)))) half =
          drives (2 * cycle + half)) :
    fillPacket put ratio.cyclesPerPacket phaseLength packet
        (groupAt dfiTsStart ratio.cycles start length time) =
      (packet.drive drives (2 * ratio.cycles) (2 * start) (2 * (start + length)) time,
        groupAt dfiTsStart ratio.cycles start length (time + 1)) := by
  have bits := fun (bit : Nat) (compiled : bit < 2) =>
    getLsbD_mask_recordAt dataPhasePerCycShft dfiTsStart supported long fits started compiled
  have next : (time + 1) * ratio.cycles = time * ratio.cycles + ratio.cycles :=
    Nat.add_one_mul ..
  have position : ∀ {phase cycle : Nat}, phase / 2 = cycle →
      2 * (time * ratio.cycles + cycle) + phase % 2 = time * (2 * ratio.cycles) + phase := by
    intro phase cycle turn
    rw [Nat.mul_left_comm time 2 ratio.cycles]
    omega
  unfold fillPacket
  dsimp only [compiledCycles]
  rw [List.foldl_cons, List.foldl_cons, List.foldl_nil, fillCycle_eq puts, fillCycle_eq puts,
    groupAt_eq_recordAt, bits 0 (by omega), bits 1 (by omega), ← groupAt_eq_recordAt]
  simp only [determineGroupMask, groupAt, decide_eq_true_eq, Nat.add_zero]
  rw [phaseRemaining_next supported long fits started,
    if_neg (Nat.not_le.mpr started : ¬ (time + 1) * ratio.cycles ≤ start)]
  refine congrArg₂ Prod.mk ?_ rfl
  unfold DfiTxPacket.drive
  congr 1
  funext phase
  by_cases second : phase / 2 = 1
  · rw [if_neg (by omega : ¬ (phase / 2 = 0 ∧ _))]
    by_cases inWindow : 1 < ratio.cycles ∧ start ≤ time * ratio.cycles + 1 ∧
        time * ratio.cycles + 1 < start + length
    · have value := agrees (time * ratio.cycles + 1) (phase % 2) (Nat.mod_lt _ (by decide))
        inWindow.2.1 inWindow.2.2 (Nat.le_succ _) (by omega)
      rw [if_pos ⟨second, inWindow⟩, if_pos ((phase_inWindow_iff second).mpr inWindow),
        secondOffset_eq inWindow, value, position second]
    · rw [if_neg (fun both => inWindow both.2), if_neg (mt (phase_inWindow_iff second).mp inWindow)]
  · rw [if_neg (fun both => second both.1)]
    by_cases first : phase / 2 = 0
    · by_cases inWindow : 0 < ratio.cycles ∧ start ≤ time * ratio.cycles ∧
          time * ratio.cycles < start + length
      · have value := agrees (time * ratio.cycles) (phase % 2) (Nat.mod_lt _ (by decide))
          inWindow.2.1 inWindow.2.2 (Nat.le_refl _) (by omega)
        rw [Nat.max_eq_right inWindow.2.1, Nat.sub_self] at value
        rw [if_pos ⟨first, inWindow⟩, if_pos ((phase_inWindow_iff first).mpr inWindow),
          ← position first, Nat.add_zero, ← value]
        exact congrArg (fun offset => update offset _ _) (BitVec.add_zero _).symm
      · rw [if_neg (fun both => inWindow both.2),
          if_neg (mt (phase_inWindow_iff first).mp inWindow)]
    · have outside : ¬ phase < 2 * ratio.cycles := by
        rcases supported.cycles_eq with width | width <;> rw [width] <;> omega
      rw [if_neg (fun both => first both.1), if_neg (fun both => outside both.1)]

/-- A group that has not started when a packet ends is left as it is. -/
theorem groupAt_succ_of_le (dfiTsStart : BitVec 16) {cycles start time : Nat} (length : Nat)
    (later : (time + 1) * cycles ≤ start) :
    groupAt dfiTsStart cycles start length (time + 1) =
      groupAt dfiTsStart cycles start length time := by
  have next := Nat.add_one_mul time cycles
  unfold groupAt
  rw [if_pos later, if_pos (by omega), Nat.sub_eq_zero_of_le later,
    Nat.sub_eq_zero_of_le (by omega : time * cycles ≤ start)]

theorem drive_of_le (drives : Nat → TxDataPhase → TxDataPhase) {cycles start time : Nat}
    (stop : Nat) (packet : DfiTxPacket) (later : (time + 1) * cycles ≤ start) :
    packet.drive drives (2 * cycles) (2 * start) stop time = packet := by
  have next := Nat.add_one_mul time cycles
  have phases : time * (2 * cycles) = 2 * (time * cycles) := Nat.mul_left_comm ..
  unfold DfiTxPacket.drive
  rw [phases]
  congr 1
  funext phase
  exact if_neg (by omega)

/-- A loop fills the packet of a timestamp from the record of the group at that timestamp,
once the group has started. -/
theorem fillPacket_when
    (puts : ∀ cycle offset, put cycle offset = putPhases (update offset) cycle)
    {dfiTsStart : BitVec 16} {ratio : WddrFreqRatio} (supported : ratio.Supported)
    {start length time : Nat} (long : ratio.cycles ≤ length) (fits : 2 * length < 2 ^ 16)
    (starts : dfiTsStart.toNat ≤ time ↔ start < (time + 1) * ratio.cycles)
    (phaseLength : BitVec 16) {packet : DfiTxPacket} (sent : packet.time.toNat = time)
    {drives : Nat → TxDataPhase → TxDataPhase}
    (agrees : ∀ cycle half, half < 2 → start ≤ cycle → cycle < start + length →
      time * ratio.cycles ≤ cycle → cycle < (time + 1) * ratio.cycles →
      update (phaseLength - BitVec.ofNat 16 (2 * (length - (time * ratio.cycles - start))) +
        BitVec.ofNat 16 (2 * (cycle - max start (time * ratio.cycles)))) half =
          drives (2 * cycle + half)) :
    (if (groupAt dfiTsStart ratio.cycles start length time).dfiTsStart ≤ packet.time then
        fillPacket put ratio.cyclesPerPacket phaseLength packet
          (groupAt dfiTsStart ratio.cycles start length time)
      else (packet, groupAt dfiTsStart ratio.cycles start length time)) =
      (packet.drive drives (2 * ratio.cycles) (2 * start) (2 * (start + length)) time,
        groupAt dfiTsStart ratio.cycles start length (time + 1)) := by
  have test : (groupAt dfiTsStart ratio.cycles start length time).dfiTsStart ≤ packet.time ↔
      start < (time + 1) * ratio.cycles := by
    rw [BitVec.le_def, sent, ← starts]
    rfl
  by_cases started : start < (time + 1) * ratio.cycles
  · rw [if_pos (test.mpr started)]
    exact fillPacket_groupAt puts dfiTsStart supported long fits started phaseLength packet agrees
  · rw [if_neg (mt test.mp started), groupAt_succ_of_le dfiTsStart length (Nat.not_lt.mp started),
      drive_of_le drives _ packet (Nat.not_lt.mp started)]

end Fill

theorem toNat_ushiftRight_shift (ratio : WddrFreqRatio) (dramClkCycles : BitVec 16) :
    (dramClkCycles >>> ratio.shift).toNat = dramClkCycles.toNat / ratio.cycles := by
  rw [BitVec.toNat_ushiftRight, Nat.shiftRight_eq_div_pow]
  cases ratio <;> rfl

/-- The first DRAM cycle of a DFI timestamp. -/
theorem toNat_initialDramOffset (ratio : WddrFreqRatio) (tsLastPacket : BitVec 16) :
    ((tsLastPacket + 1) <<< ratio.shift).toNat =
      (tsLastPacket.toNat + 1) * ratio.cycles % 2 ^ 16 := by
  cases ratio with
  | ratio1to1 =>
      change ((tsLastPacket + 1) <<< 0).toNat = (tsLastPacket.toNat + 1) * 1 % 2 ^ 16
      bv_omega
  | ratio1to2 =>
      change ((tsLastPacket + 1) <<< 1).toNat = (tsLastPacket.toNat + 1) * 2 % 2 ^ 16
      bv_omega
  | ratio1to4 =>
      change ((tsLastPacket + 1) <<< 2).toNat = (tsLastPacket.toNat + 1) * 4 % 2 ^ 16
      bv_omega

/-- The cycle of a group is cut to eight bits. -/
theorem toNat_dramClk (ratio : WddrFreqRatio) (latency : BitVec 8)
    (enableOffset tsLastPacket : BitVec 16) :
    (((tsLastPacket + 1) <<< ratio.shift + caClkLen + latency.setWidth 16 +
        enableOffset).setWidth 8 : BitVec 8).toNat =
      ((tsLastPacket.toNat + 1) * ratio.cycles + 3 + latency.toNat + enableOffset.toNat) %
        256 := by
  have small := latency.isLt
  have three : caClkLen.toNat = 3 := rfl
  rw [BitVec.toNat_setWidth, BitVec.toNat_add, BitVec.toNat_add, BitVec.toNat_add,
    toNat_initialDramOffset, BitVec.toNat_setWidth, three]
  omega

section Create

variable {ratio : WddrFreqRatio} (supported : ratio.Supported) (dramClkCycles : BitVec 16)
include supported

/-- The cycles that a new record skips in its first packet. -/
theorem cycleOffset_createPacketGroupInfo (phaseLength : BitVec 16) :
    (createPacketGroupInfo ratio dramClkCycles phaseLength).cycleOffset =
      BitVec.ofNat 16 (dramClkCycles.toNat % ratio.cycles) := by
  apply BitVec.eq_of_toNat_eq
  have small := dramClkCycles.isLt
  rcases supported with rfl | rfl
  · change (dramClkCycles &&& BitVec.ofNat 16 0).toNat =
      (BitVec.ofNat 16 (dramClkCycles.toNat % 1)).toNat
    rw [Nat.mod_one, BitVec.and_zero]
  · change (dramClkCycles &&& 1).toNat = (BitVec.ofNat 16 (dramClkCycles.toNat % 2)).toNat
    rw [BitVec.toNat_and, BitVec.toNat_ofNat, Nat.mod_eq_of_lt (by omega)]
    exact Nat.and_one_is_mod _

/-- A new record is the record of its group at any timestamp up to the start.  A loop that
begins later fills the group from its first packet on, past the same offset. -/
theorem createPacketGroupInfo_eq_recordAt (shft : Nat) {start length time : Nat}
    (aligned : start % ratio.cycles = dramClkCycles.toNat % ratio.cycles)
    (early : time * ratio.cycles ≤ start) :
    createPacketGroupInfo ratio dramClkCycles (BitVec.ofNat 16 (1 <<< shft * length)) =
      recordAt shft (dramClkCycles >>> ratio.shift) ratio.cycles start length time := by
  have offset := cycleOffset_createPacketGroupInfo supported dramClkCycles
    (BitVec.ofNat 16 (1 <<< shft * length))
  unfold recordAt
  rw [if_pos early, Nat.sub_eq_zero_of_le early, Nat.sub_zero, aligned, ← offset]
  rfl

theorem createPacketGroupInfo_eq {start length time : Nat}
    (aligned : start % ratio.cycles = dramClkCycles.toNat % ratio.cycles)
    (early : time * ratio.cycles ≤ start) :
    createPacketGroupInfo ratio dramClkCycles (BitVec.ofNat 16 (2 * length)) =
      groupAt (dramClkCycles >>> ratio.shift) ratio.cycles start length time :=
  createPacketGroupInfo_eq_recordAt supported dramClkCycles dataPhasePerCycShft aligned early

/-- The record of a group whose first cycle is known. -/
theorem createPacketGroupInfo_of_toNat {start length time : Nat}
    (first : dramClkCycles.toNat = start) (early : time * ratio.cycles ≤ start) :
    createPacketGroupInfo ratio dramClkCycles (BitVec.ofNat 16 (2 * length)) =
      groupAt (BitVec.ofNat 16 (start / ratio.cycles)) ratio.cycles start length time := by
  have timestamp : dramClkCycles >>> ratio.shift = BitVec.ofNat 16 (start / ratio.cycles) := by
    rw [← first, ← toNat_ushiftRight_shift, BitVec.ofNat_toNat, BitVec.setWidth_eq]
  rw [← timestamp]
  exact createPacketGroupInfo_eq supported dramClkCycles (by rw [first]) early

omit dramClkCycles in
theorem ofNat_div_le_iff {start : Nat} (fits : start < 2 ^ 16) (time : Nat) :
    (BitVec.ofNat 16 (start / ratio.cycles)).toNat ≤ time ↔
      start < (time + 1) * ratio.cycles := by
  have quotient := Nat.div_le_self start ratio.cycles
  rw [BitVec.toNat_ofNat, Nat.mod_eq_of_lt (by omega)]
  rcases supported.cycles_eq with width | width <;> rw [width] <;> omega

end Create

end PacketGroupInfo

end WavLpddr
