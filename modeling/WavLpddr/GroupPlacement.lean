import WavLpddr.Lib.Intervals
import WavLpddr.SequencePackets

/-!
# Where a group is placed

A fill function is applied to the packets of consecutive timestamps, from the one that holds
the first cycle of its group on.  The record counts down by the cycles that were marked, and
the packets are marked at exactly the cycles of the group, in order.  Command frames and data
differ in how many phases a cycle counts and in what the cycle receives.
-/

namespace WavLpddr

namespace PacketGroupInfo

/-- The block of a fill function for one DRAM cycle that counts `1 <<< shft` phases. -/
def fillUnit (shft : Nat) (mask : Word) (put : Nat → BitVec 16 → DfiTxPacket → DfiTxPacket)
    (state : FillState) (cycle : Nat) : FillState :=
  if mask.getLsbD cycle then
    (put cycle state.2.2 state.1,
      { state.2.1 with
        phaseRemaining := state.2.1.phaseRemaining - BitVec.ofNat 16 (1 <<< shft) },
      state.2.2 + BitVec.ofNat 16 (1 <<< shft))
  else state

/-- What the fill functions for commands and for data have in common. -/
def fillUnits (shft : Nat) (put : Nat → BitVec 16 → DfiTxPacket → DfiTxPacket)
    (cyclesPerPacket : BitVec 8) (phaseLength : BitVec 16) (packet : DfiTxPacket)
    (groupInfo : PacketGroupInfo) : DfiTxPacket × PacketGroupInfo :=
  let masked := groupInfo.determineGroupMask cyclesPerPacket shft
  let filled := compiledCycles.foldl (fillUnit shft masked.1 put)
    (packet, masked.2, phaseLength - masked.2.phaseRemaining)
  (filled.1, filled.2.1)

theorem fillPacket_eq_fillUnits :
    fillPacket = fillUnits dataPhasePerCycShft := rfl

/-- Put the frame of a command at an offset on a DRAM cycle. -/
def putFrame (command : Nat → CommandFrame) (cycle : Nat) (offset : BitVec 16)
    (packet : DfiTxPacket) : DfiTxPacket :=
  packet.fillFrame (2 * cycle) (command offset.toNat)

theorem fillAddressPacket_eq_fillUnits (command : Nat → CommandFrame) :
    fillAddressPacket command = fillUnits cmdPhasePerCycShft (putFrame command) := rfl

/-- The DRAM cycles of the packet of a timestamp that lie in a window. -/
def windowCycles (cycles start length time : Nat) : List Nat :=
  (Intervals.block cycles time).filter fun cycle => start ≤ cycle ∧ cycle < start + length

/-- Mark the DRAM cycles of a packet that lie in a window, in order: the first one of the
window is the cycle with number 0. -/
def markPacket (mark : Nat → Nat → DfiTxPacket → DfiTxPacket) (cycles start length time : Nat)
    (packet : DfiTxPacket) : DfiTxPacket :=
  (windowCycles cycles start length time).foldl
    (fun packet cycle => mark (cycle - start) (cycle - time * cycles) packet) packet

/-- A packet is marked at no more than its two compiled cycles. -/
theorem markPacket_eq (mark : Nat → Nat → DfiTxPacket → DfiTxPacket) {ratio : WddrFreqRatio}
    (supported : ratio.Supported) (start length time : Nat) (packet : DfiTxPacket) :
    markPacket mark ratio.cycles start length time packet =
      compiledCycles.foldl (fun packet cycle =>
        if cycle < ratio.cycles ∧ start ≤ time * ratio.cycles + cycle ∧
            time * ratio.cycles + cycle < start + length then
          mark (time * ratio.cycles + cycle - start) cycle packet
        else packet) packet := by
  unfold markPacket windowCycles
  rw [Intervals.block_eq_map, List.foldl_filter, List.foldl_map]
  rcases supported.cycles_eq with width | width <;> rw [width]
  · simp [compiledCycles, List.range_succ]
  · simp [compiledCycles, List.range_succ]

/-- The packets of consecutive timestamps hold the cycles of a window in order. -/
theorem flatMap_windowCycles {cycles start first : Nat} (length count : Nat)
    (early : first * cycles ≤ start) :
    (List.Ico first (first + count)).flatMap (windowCycles cycles start length) =
      List.Ico start (min ((first + count) * cycles) (start + length)) := by
  have covered : (List.Ico first (first + count)).flatMap (windowCycles cycles start length) =
      ((List.Ico first (first + count)).flatMap (Intervals.block cycles)).filter
        fun cycle => start ≤ cycle ∧ cycle < start + length :=
    (List.filter_flatMap ..).symm
  rw [covered, Intervals.flatMap_block cycles first (Nat.le_add_right first count),
    Intervals.filter_Ico (fun cycle _ _ => decide_eq_true_iff), Nat.max_eq_right early]

/-- A packet after a window holds none of its cycles. -/
theorem windowCycles_of_le {cycles start length time : Nat}
    (ended : start + length ≤ time * cycles) : windowCycles cycles start length time = [] := by
  refine List.filter_eq_nil_iff.mpr fun cycle inBlock => ?_
  have late := (List.Ico.mem.mp inBlock).1
  simp only [decide_eq_true_eq]
  omega

section Step

variable {shft : Nat} {put : Nat → BitVec 16 → DfiTxPacket → DfiTxPacket}

theorem fillUnit_eq (mask : Word) (packet : DfiTxPacket) (groupInfo : PacketGroupInfo)
    (offset : BitVec 16) (cycle : Nat) :
    fillUnit shft mask put (packet, groupInfo, offset) cycle =
      (if mask.getLsbD cycle then put cycle offset packet else packet,
        { groupInfo with
          phaseRemaining := groupInfo.phaseRemaining -
            BitVec.ofNat 16 (1 <<< shft * (mask.getLsbD cycle).toNat) },
        offset + BitVec.ofNat 16 (1 <<< shft * (mask.getLsbD cycle).toNat)) := by
  unfold fillUnit
  cases mask.getLsbD cycle <;> simp

/-- The phases that remain after the packet of a timestamp. -/
theorem phaseRemaining_recordAt_next {ratio : WddrFreqRatio} (supported : ratio.Supported)
    {start length time : Nat} (long : ratio.cycles ≤ length)
    (started : start < (time + 1) * ratio.cycles) {first second : Bool}
    (isFirst : first = decide (0 < ratio.cycles ∧ start ≤ time * ratio.cycles ∧
      time * ratio.cycles < start + length))
    (isSecond : second = decide (1 < ratio.cycles ∧ start ≤ time * ratio.cycles + 1 ∧
      time * ratio.cycles + 1 < start + length)) :
    BitVec.ofNat 16 (1 <<< shft * (length - (time * ratio.cycles - start))) -
        BitVec.ofNat 16 (1 <<< shft * first.toNat) -
          BitVec.ofNat 16 (1 <<< shft * second.toNat) =
      BitVec.ofNat 16 (1 <<< shft * (length - ((time + 1) * ratio.cycles - start))) := by
  have taken : length - (time * ratio.cycles - start) =
      length - ((time + 1) * ratio.cycles - start) + second.toNat + first.toNat := by
    rw [isFirst, isSecond]
    simp only [Bool.toNat, Bool.cond_decide]
    rcases supported.cycles_eq with width | width <;> rw [width] at started long ⊢ <;>
      split <;> split <;> omega
  rw [taken, Nat.mul_add, Nat.mul_add, BitVec.ofNat_add, BitVec.ofNat_add, BitVec.add_sub_cancel,
    BitVec.add_sub_cancel]

variable (shft put) in
/-- Filling the packet of a timestamp, from the record of the group at that timestamp. -/
theorem fillUnits_recordAt (dfiTsStart : BitVec 16) {ratio : WddrFreqRatio}
    (supported : ratio.Supported) {start length time : Nat} (long : ratio.cycles ≤ length)
    (fits : 1 <<< shft * length < 2 ^ 16) (started : start < (time + 1) * ratio.cycles)
    (phaseLength : BitVec 16) (packet : DfiTxPacket)
    {mark : Nat → Nat → DfiTxPacket → DfiTxPacket}
    (agrees : ∀ index cycle, index < length →
      put cycle (phaseLength - BitVec.ofNat 16 (1 <<< shft * length) +
        BitVec.ofNat 16 (1 <<< shft * index)) = mark index cycle) :
    fillUnits shft put ratio.cyclesPerPacket phaseLength packet
        (recordAt shft dfiTsStart ratio.cycles start length time) =
      (markPacket mark ratio.cycles start length time packet,
        recordAt shft dfiTsStart ratio.cycles start length (time + 1)) := by
  have bits := fun (bit : Nat) (compiled : bit < 2) =>
    getLsbD_mask_recordAt shft dfiTsStart supported long fits started compiled
  have next : (time + 1) * ratio.cycles = time * ratio.cycles + ratio.cycles :=
    Nat.add_one_mul ..
  -- the value put on a cycle follows from how many cycles of the packet came before it
  have value : ∀ taken index cycle, index < length →
      taken + length = length - (time * ratio.cycles - start) + index →
      put cycle (phaseLength - BitVec.ofNat 16 (1 <<< shft *
          (length - (time * ratio.cycles - start))) + BitVec.ofNat 16 (1 <<< shft * taken)) =
        mark index cycle := by
    intro taken index cycle inGroup sum
    rw [← agrees index cycle inGroup]
    have scaled := congrArg (fun value => BitVec.ofNat 16 (1 <<< shft * value)) sum
    simp only [Nat.mul_add, BitVec.ofNat_add] at scaled
    congr 1
    grind
  unfold fillUnits
  dsimp only [compiledCycles]
  rw [List.foldl_cons, List.foldl_cons, List.foldl_nil, fillUnit_eq, fillUnit_eq,
    bits 0 (by omega), bits 1 (by omega)]
  simp only [determineGroupMask, recordAt, Nat.add_zero]
  rw [phaseRemaining_recordAt_next supported long started rfl rfl,
    if_neg (Nat.not_le.mpr started : ¬ (time + 1) * ratio.cycles ≤ start)]
  refine congrArg₂ Prod.mk ?_ rfl
  rw [markPacket_eq mark supported]
  dsimp only [compiledCycles]
  rw [List.foldl_cons, List.foldl_cons, List.foldl_nil]
  simp only [decide_eq_true_eq, Nat.add_zero]
  have first : 0 < ratio.cycles ∧ start ≤ time * ratio.cycles ∧
      time * ratio.cycles < start + length →
      put 0 (phaseLength - BitVec.ofNat 16 (1 <<< shft *
        (length - (time * ratio.cycles - start)))) = mark (time * ratio.cycles - start) 0 := by
    intro inWindow
    have placed := value 0 (time * ratio.cycles - start) 0 (by omega) (by omega)
    rwa [Nat.mul_zero, BitVec.add_zero] at placed
  have second : 1 < ratio.cycles ∧ start ≤ time * ratio.cycles + 1 ∧
      time * ratio.cycles + 1 < start + length →
      put 1 (phaseLength - BitVec.ofNat 16 (1 <<< shft *
          (length - (time * ratio.cycles - start))) +
        BitVec.ofNat 16 (1 <<< shft * (decide (0 < ratio.cycles ∧
          start ≤ time * ratio.cycles ∧ time * ratio.cycles < start + length)).toNat)) =
        mark (time * ratio.cycles + 1 - start) 1 := by
    intro inWindow
    apply value _ _ 1 (by omega)
    simp only [Bool.toNat, Bool.cond_decide]
    split <;> omega
  split
  · rename_i inWindow
    rw [second inWindow]
    split
    · rw [first ‹_›]
    · rfl
  · split
    · rw [first ‹_›]
    · rfl

omit put in
/-- The count of the phases that remain, which never wraps. -/
theorem toNat_phaseRemaining_recordAt (dfiTsStart : BitVec 16) {cycles start length time : Nat}
    (fits : 1 <<< shft * length < 2 ^ 16) :
    (recordAt shft dfiTsStart cycles start length time).phaseRemaining.toNat =
      1 <<< shft * (length - (time * cycles - start)) := by
  have less := (Nat.mul_le_mul_left (1 <<< shft)
    (Nat.sub_le length (time * cycles - start))).trans_lt fits
  change (BitVec.ofNat 16 _).toNat = _
  rw [BitVec.toNat_ofNat, Nat.mod_eq_of_lt less]

/-- A group that is complete stays as it is. -/
theorem recordAt_succ_of_le (dfiTsStart : BitVec 16) {cycles start length time : Nat}
    (positive : 0 < length) (ended : start + length ≤ time * cycles) :
    recordAt shft dfiTsStart cycles start length (time + 1) =
      recordAt shft dfiTsStart cycles start length time := by
  have next := Nat.add_one_mul time cycles
  unfold recordAt
  rw [if_neg (by omega), if_neg (by omega), (by omega : length - (time * cycles - start) = 0),
    (by omega : length - ((time + 1) * cycles - start) = 0)]

end Step

/-- The group of a fill function, with what its cycles receive. -/
inductive GroupFill
  | address (command : Nat → CommandFrame)
  | wrdataEn
  | wrdata (cs : Chipselect) (data : CommandData)
  | rddata (cs : Chipselect)

namespace GroupFill

/-- The phases of a DRAM cycle, as a shift. -/
def shft : GroupFill → Nat
  | address _ => cmdPhasePerCycShft
  | _ => dataPhasePerCycShft

/-- The fill function of a group. -/
def fillPacket (cyclesPerPacket : BitVec 8) (phaseLength : BitVec 16) :
    GroupFill → DfiTxPacket → PacketGroupInfo → DfiTxPacket × PacketGroupInfo
  | address command => fillAddressPacket command cyclesPerPacket phaseLength
  | wrdataEn => fillWrdataEnPacket cyclesPerPacket
  | wrdata cs data => fillWrdataPacket cs data cyclesPerPacket phaseLength
  | rddata cs => fillRddataPacket cs cyclesPerPacket

/-- What a DRAM cycle of a packet receives as the cycle of a group with a number. -/
def mark (number cycle : Nat) (packet : DfiTxPacket) : GroupFill → DfiTxPacket
  | address command => packet.fillFrame (2 * cycle) (command number)
  | wrdataEn => putPhases (fun _ phase => { phase with wrdataEn := 1 }) cycle packet
  | wrdata cs data =>
      putPhases (fun half phase =>
        { phase with
          wrdataCs := cs.high.setWidth 2
          dq0Wrdata := data 0 (2 * number + half)
          dq1Wrdata := data 1 (2 * number + half) }) cycle packet
  | rddata cs =>
      putPhases (fun _ phase =>
        { phase with rddataEn := 1, rddataCs := cs.high.setWidth 2 }) cycle packet

/-- Fill the packets of consecutive timestamps, one after the other. -/
def fillPackets (fill : GroupFill) (cyclesPerPacket : BitVec 8) (phaseLength : BitVec 16) :
    List DfiTxPacket → PacketGroupInfo → List DfiTxPacket × PacketGroupInfo
  | [], groupInfo => ([], groupInfo)
  | packet :: packets, groupInfo =>
      let filled := fill.fillPacket cyclesPerPacket phaseLength packet groupInfo
      let rest := fill.fillPackets cyclesPerPacket phaseLength packets filled.2
      (filled.1 :: rest.1, rest.2)

/-- The offset of a cycle of a group in the frames or the data of the group. -/
theorem toNat_groupOffset {shft length number : Nat} (fits : 1 <<< shft * length < 2 ^ 16)
    (inGroup : number < length) :
    (BitVec.ofNat 16 (1 <<< shft * length) - BitVec.ofNat 16 (1 <<< shft * length) +
      BitVec.ofNat 16 (1 <<< shft * number)).toNat = 1 <<< shft * number := by
  have small := (Nat.mul_le_mul_left (1 <<< shft) inGroup.le).trans_lt fits
  rw [BitVec.sub_self, BitVec.zero_add, BitVec.toNat_ofNat, Nat.mod_eq_of_lt small]

theorem putFrame_eq_mark (command : Nat → CommandFrame) {offset : BitVec 16} {number : Nat}
    (placed : offset.toNat = 1 * number) (cycle : Nat) :
    putFrame command cycle offset = fun packet => mark number cycle packet (address command) := by
  unfold putFrame mark
  rw [placed, Nat.one_mul]

theorem putWrdata_eq_mark (cs : Chipselect) (data : CommandData) {offset : BitVec 16}
    {number : Nat} (placed : offset.toNat = 2 * number) (cycle : Nat) :
    putWrdata cs data cycle offset = fun packet => mark number cycle packet (wrdata cs data) := by
  unfold putWrdata mark
  rw [placed]

section Run

variable (fill : GroupFill) {ratio : WddrFreqRatio} (supported : ratio.Supported)
  {start length time : Nat} (long : ratio.cycles ≤ length)
  (fits : 1 <<< fill.shft * length < 2 ^ 16)
include supported long fits

/-- A fill function marks the cycles of the group that fall into the packet. -/
theorem fillPacket_recordAt (dfiTsStart : BitVec 16)
    (started : start < (time + 1) * ratio.cycles) (packet : DfiTxPacket) :
    fill.fillPacket ratio.cyclesPerPacket (BitVec.ofNat 16 (1 <<< fill.shft * length)) packet
        (recordAt fill.shft dfiTsStart ratio.cycles start length time) =
      (markPacket (fun number cycle packet => fill.mark number cycle packet) ratio.cycles start
          length time packet,
        recordAt fill.shft dfiTsStart ratio.cycles start length (time + 1)) := by
  cases fill with
  | address command =>
      rw [fillPacket, fillAddressPacket_eq_fillUnits]
      exact fillUnits_recordAt cmdPhasePerCycShft (putFrame command) dfiTsStart supported long fits
        started _ packet fun number cycle inGroup =>
          putFrame_eq_mark command (toNat_groupOffset fits inGroup) cycle
  | wrdataEn =>
      rw [fillPacket, fillWrdataEnPacket, fillPacket_eq_fillUnits]
      exact fillUnits_recordAt dataPhasePerCycShft putWrdataEn dfiTsStart supported long fits
        started _ packet fun number cycle inGroup => rfl
  | wrdata cs data =>
      rw [fillPacket, fillWrdataPacket, fillPacket_eq_fillUnits]
      exact fillUnits_recordAt dataPhasePerCycShft (putWrdata cs data) dfiTsStart supported long
        fits started _ packet fun number cycle inGroup =>
          putWrdata_eq_mark cs data (toNat_groupOffset fits inGroup) cycle
  | rddata cs =>
      rw [fillPacket, fillRddataPacket, fillPacket_eq_fillUnits]
      exact fillUnits_recordAt dataPhasePerCycShft (putRddata cs) dfiTsStart supported long fits
        started _ packet fun number cycle inGroup => rfl

/-- A packet after the group stays as it is, and so does the group. -/
theorem fillPacket_recordAt_of_le (dfiTsStart : BitVec 16)
    (past : start + length ≤ time * ratio.cycles) (packet : DfiTxPacket) :
    fill.fillPacket ratio.cyclesPerPacket (BitVec.ofNat 16 (1 <<< fill.shft * length)) packet
        (recordAt fill.shft dfiTsStart ratio.cycles start length time) =
      (packet, recordAt fill.shft dfiTsStart ratio.cycles start length time) := by
  have positive := ratio.cycles_pos
  have started : start < (time + 1) * ratio.cycles := by
    rw [Nat.add_one_mul]
    omega
  rw [fillPacket_recordAt fill supported long fits dfiTsStart started packet,
    recordAt_succ_of_le _ (positive.trans_le long) past]
  unfold markPacket
  rw [windowCycles_of_le past, List.foldl_nil]

/-- The run of a fill function over consecutive packets. -/
theorem fillPackets_recordAt (dfiTsStart : BitVec 16)
    (started : start < (time + 1) * ratio.cycles) (packets : List DfiTxPacket) :
    fill.fillPackets ratio.cyclesPerPacket (BitVec.ofNat 16 (1 <<< fill.shft * length)) packets
        (recordAt fill.shft dfiTsStart ratio.cycles start length time) =
      (packets.mapIdx fun index packet =>
          markPacket (fun number cycle packet => fill.mark number cycle packet) ratio.cycles
            start length (time + index) packet,
        recordAt fill.shft dfiTsStart ratio.cycles start length (time + packets.length)) := by
  induction packets generalizing time with
  | nil => rfl
  | cons packet packets inductionHypothesis =>
      have next : start < (time + 1 + 1) * ratio.cycles :=
        started.trans_le (Nat.mul_le_mul_right _ (Nat.le_succ _))
      unfold fillPackets
      dsimp only
      rw [fillPacket_recordAt fill supported long fits dfiTsStart started packet,
        inductionHypothesis next, List.mapIdx_cons]
      simp only [List.length_cons, Nat.add_zero, Nat.add_assoc, Nat.add_comm 1]

/-- A group is filled from its first cycle on, in order and without a gap, over however many
packets are filled; once no phase remains, every cycle is marked and no packet is changed. -/
theorem fillPackets_createPacketGroupInfo (dramClkCycles : BitVec 16)
    (packets : List DfiTxPacket) :
    let start := dramClkCycles.toNat
    let first := (dramClkCycles >>> ratio.shift).toNat
    let phaseLength := BitVec.ofNat 16 (1 <<< fill.shft * length)
    let filled := fill.fillPackets ratio.cyclesPerPacket phaseLength packets
      (createPacketGroupInfo ratio dramClkCycles phaseLength)
    let marked := (List.Ico first (first + packets.length)).flatMap
      (windowCycles ratio.cycles start length)
    (filled.1 = packets.mapIdx fun index packet =>
        markPacket (fun number cycle packet => fill.mark number cycle packet) ratio.cycles start
          length (first + index) packet) ∧
      marked = List.Ico start (start + marked.length) ∧
      filled.2.phaseRemaining.toNat + 1 <<< fill.shft * marked.length =
        1 <<< fill.shft * length ∧
      (filled.2.phaseRemaining = 0 ↔
        start + length ≤ (first + packets.length) * ratio.cycles) ∧
      (filled.2.phaseRemaining = 0 →
        marked = List.Ico start (start + length) ∧
          ∀ packet, fill.fillPacket ratio.cyclesPerPacket phaseLength packet filled.2 =
            (packet, filled.2)) := by
  intro start first phaseLength filled marked
  have positive := ratio.cycles_pos
  have quotient : first = start / ratio.cycles := toNat_ushiftRight_shift ratio dramClkCycles
  have early : first * ratio.cycles ≤ start := quotient ▸ Nat.div_mul_le_self _ _
  have started : start < (first + 1) * ratio.cycles := by
    rw [quotient, Nat.mul_comm]
    exact Nat.lt_mul_div_succ start positive
  have run : filled = _ :=
    (congrArg (fill.fillPackets ratio.cyclesPerPacket phaseLength packets)
      (createPacketGroupInfo_eq_recordAt supported dramClkCycles fill.shft rfl early)).trans
        (fillPackets_recordAt fill supported long fits (dramClkCycles >>> ratio.shift) started
          packets)
  have covered : marked =
      List.Ico start (min ((first + packets.length) * ratio.cycles) (start + length)) :=
    flatMap_windowCycles length packets.length early
  have counted : marked.length =
      min ((first + packets.length) * ratio.cycles) (start + length) - start := by
    rw [covered, List.Ico.length]
  have remaining : filled.2.phaseRemaining.toNat =
      1 <<< fill.shft * (length - ((first + packets.length) * ratio.cycles - start)) := by
    rw [run]
    exact toNat_phaseRemaining_recordAt _ fits
  have unit : 0 < 1 <<< fill.shft := Nat.one_shiftLeft fill.shft ▸ Nat.two_pow_pos fill.shft
  have ended : filled.2.phaseRemaining = 0 ↔
      start + length ≤ (first + packets.length) * ratio.cycles := by
    rw [← BitVec.toNat_inj, remaining]
    change _ = 0 ↔ _
    rw [Nat.mul_eq_zero]
    omega
  refine ⟨by rw [run], ?_, ?_, ended, fun complete => ⟨?_, fun packet => ?_⟩⟩
  · rw [covered, Intervals.Ico_add_length]
  · rw [remaining, counted, ← Nat.mul_add]
    congr 1
    omega
  · rw [covered, Nat.min_eq_right (ended.mp complete)]
  · rw [run]
    exact fillPacket_recordAt_of_le fill supported long fits _ (ended.mp complete) packet

end Run

/-- Three cycles of write data from cycle 5 on take two packets of two cycles. -/
theorem fillPackets_createPacketGroupInfo_five :
    ((wrdata .cs0 fun _ index => BitVec.ofNat 8 index).fillPackets 2 6 [.zero, .zero]
      (createPacketGroupInfo .ratio1to2 5 6)).2.phaseRemaining = 0 :=
  (fillPackets_createPacketGroupInfo (wrdata .cs0 fun _ index => BitVec.ofNat 8 index)
    (Or.inr rfl : WddrFreqRatio.ratio1to2.Supported) (by decide : 2 ≤ 3) (by decide) 5
    [.zero, .zero]).2.2.2.1.mpr (by decide)

end GroupFill

end PacketGroupInfo

end WavLpddr
