import WavLpddr.GroupSchedule
import WavLpddr.SequenceLoop

/-!
# The loops of the builders end

Filling a packet from a group never adds work to the group, and takes some off it
while phases remain.  A group that waits for its first timestamp waits one turn less
after every turn.  Hence every loop ends within its fuel, whatever the ratio, the
widths and the last timestamp of the buffer are.
-/

namespace WavLpddr

namespace PacketGroupInfo

/-- The phases come in pairs, and the offset lies in one packet. -/
structure Regular (groupInfo : PacketGroupInfo) : Prop where
  paired : groupInfo.phaseRemaining.toNat % 2 = 0
  inPacket : groupInfo.cycleOffset.toNat < 4

/-- How many turns a group needs at most once it has started. -/
def work (groupInfo : PacketGroupInfo) : Nat :=
  groupInfo.phaseRemaining.toNat / 2 + if groupInfo.cycleOffset = 0 then 0 else 1

theorem regular_createPacketGroupInfo (ratio : WddrFreqRatio) (dramClkCycles : BitVec 16)
    {phaseLength : BitVec 16} (paired : phaseLength.toNat % 2 = 0) :
    (createPacketGroupInfo ratio dramClkCycles phaseLength).Regular := by
  refine ⟨paired, ?_⟩
  have masked : (createPacketGroupInfo ratio dramClkCycles phaseLength).cycleOffset.toNat ≤
      (1 <<< ratio.shift - 1 : BitVec 16).toNat := Nat.and_le_right
  refine masked.trans_lt ?_
  cases ratio <;> decide

theorem work_createPacketGroupInfo_le (ratio : WddrFreqRatio)
    (dramClkCycles phaseLength : BitVec 16) :
    (createPacketGroupInfo ratio dramClkCycles phaseLength).work ≤ phaseLength.toNat / 2 + 1 :=
  Nat.add_le_add_left (by split <;> decide) _

/-- What a fill function leaves of a group depends only on the mask. -/
theorem fillPacket_group (put : Nat → BitVec 16 → DfiTxPacket → DfiTxPacket)
    (cyclesPerPacket : BitVec 8) (phaseLength : BitVec 16) (packet : DfiTxPacket)
    (groupInfo : PacketGroupInfo) :
    let mask := (groupInfo.determineGroupMask cyclesPerPacket dataPhasePerCycShft).1
    (fillPacket put cyclesPerPacket phaseLength packet groupInfo).2 =
      { groupInfo with
        cycleOffset := 0
        phaseRemaining := groupInfo.phaseRemaining - (if mask.getLsbD 0 then 2 else 0) -
          (if mask.getLsbD 1 then 2 else 0) } := by
  intro mask
  have cycleGroup : ∀ (state : FillState) (cycle : Nat),
      (fillCycle mask put state cycle).2.1 =
        { state.2.1 with
          phaseRemaining := state.2.1.phaseRemaining - if mask.getLsbD cycle then 2 else 0 } := by
    intro state cycle
    unfold fillCycle
    dsimp only
    split <;> simp
  unfold fillPacket
  dsimp only [compiledCycles, List.foldl_cons, List.foldl_nil]
  rw [cycleGroup, cycleGroup]
  rfl

/-- Taking off the phases of the selected cycles. -/
theorem sub_pairs (phases : BitVec 16) (first second : Bool)
    (enough : 2 * (first.toNat + second.toNat) ≤ phases.toNat) :
    phases - (if first then 2 else 0) - (if second then 2 else 0) =
      BitVec.ofNat 16 (phases.toNat - 2 * (first.toNat + second.toNat)) := by
  have small := phases.isLt
  apply BitVec.eq_of_toNat_eq
  cases first <;> cases second <;> simp at enough ⊢ <;> bv_omega

section Fill

variable (put : Nat → BitVec 16 → DfiTxPacket → DfiTxPacket) {cyclesPerPacket : BitVec 8}
  (few : cyclesPerPacket.toNat ≤ 4) (phaseLength : BitVec 16) (packet : DfiTxPacket)
  {groupInfo : PacketGroupInfo} (regular : groupInfo.Regular)
include few regular

/-- The mask of a regular group. -/
theorem getLsbD_mask_regular {bit : Nat} (compiled : bit < 2) :
    (groupInfo.determineGroupMask cyclesPerPacket dataPhasePerCycShft).1.getLsbD bit =
      decide (groupInfo.cycleOffset.toNat ≤ bit ∧
        bit < min cyclesPerPacket.toNat (groupInfo.phaseRemaining.toNat / 2)) := by
  have paired := regular.paired
  have small := groupInfo.phaseRemaining.isLt
  have pairs : 1 <<< dataPhasePerCycShft * (groupInfo.phaseRemaining.toNat / 2) =
      groupInfo.phaseRemaining.toNat := by
    have two : 1 <<< dataPhasePerCycShft = 2 := rfl
    rw [two]
    omega
  have bits := getLsbD_determineGroupMask dataPhasePerCycShft groupInfo.dfiTsStart few
    regular.inPacket (pairs ▸ small) compiled
  rwa [pairs, BitVec.ofNat_toNat, BitVec.setWidth_eq, BitVec.ofNat_toNat,
    BitVec.setWidth_eq] at bits

/-- Filling takes whole cycles off the phases that remain. -/
theorem fillPacket_takes :
    ∃ taken, taken ≤ groupInfo.phaseRemaining.toNat / 2 ∧
      (groupInfo.phaseRemaining ≠ 0 → groupInfo.cycleOffset = 0 → 0 < cyclesPerPacket.toNat →
        0 < taken) ∧
      (fillPacket put cyclesPerPacket phaseLength packet groupInfo).2 =
        { groupInfo with
          cycleOffset := 0
          phaseRemaining := BitVec.ofNat 16 (groupInfo.phaseRemaining.toNat - 2 * taken) } := by
  have first := getLsbD_mask_regular few regular (by decide : 0 < 2)
  have second := getLsbD_mask_regular few regular (by decide : 1 < 2)
  have enough : (decide (groupInfo.cycleOffset.toNat ≤ 0 ∧
        0 < min cyclesPerPacket.toNat (groupInfo.phaseRemaining.toNat / 2))).toNat +
      (decide (groupInfo.cycleOffset.toNat ≤ 1 ∧
        1 < min cyclesPerPacket.toNat (groupInfo.phaseRemaining.toNat / 2))).toNat ≤
      groupInfo.phaseRemaining.toNat / 2 := by
    simp only [Bool.toNat, Bool.cond_decide]
    split <;> split <;> omega
  refine ⟨_, enough, ?_, ?_⟩
  · intro remains aligned positive
    have nonzero : groupInfo.phaseRemaining.toNat ≠ 0 := by
      intro none
      exact remains (BitVec.eq_of_toNat_eq none)
    have paired := regular.paired
    have atZero : groupInfo.cycleOffset.toNat ≤ 0 := by
      rw [aligned]
      exact Nat.le_refl 0
    have selected : groupInfo.cycleOffset.toNat ≤ 0 ∧
        0 < min cyclesPerPacket.toNat (groupInfo.phaseRemaining.toNat / 2) := by omega
    rw [decide_eq_true selected]
    exact Nat.lt_add_right _ Nat.one_pos
  · rw [fillPacket_group, first, second, sub_pairs _ _ _ (by omega)]

/-- Filling keeps a group regular. -/
theorem regular_fillPacket :
    (fillPacket put cyclesPerPacket phaseLength packet groupInfo).2.Regular := by
  obtain ⟨taken, enough, -, filled⟩ := fillPacket_takes put few phaseLength packet regular
  have paired := regular.paired
  have small := groupInfo.phaseRemaining.isLt
  rw [filled]
  refine ⟨?_, Nat.zero_lt_succ 3⟩
  change (BitVec.ofNat 16 _).toNat % 2 = 0
  rw [BitVec.toNat_ofNat]
  omega

/-- Filling adds no work, and takes some off while phases remain. -/
theorem work_fillPacket (positive : 0 < cyclesPerPacket.toNat) :
    (fillPacket put cyclesPerPacket phaseLength packet groupInfo).2.work ≤ groupInfo.work ∧
      (groupInfo.phaseRemaining ≠ 0 →
        (fillPacket put cyclesPerPacket phaseLength packet groupInfo).2.work <
          groupInfo.work) := by
  obtain ⟨taken, enough, takes, filled⟩ := fillPacket_takes put few phaseLength packet regular
  have small := groupInfo.phaseRemaining.isLt
  have left : (fillPacket put cyclesPerPacket phaseLength packet groupInfo).2.work =
      groupInfo.phaseRemaining.toNat / 2 - taken := by
    rw [filled, work, if_pos rfl]
    change (BitVec.ofNat 16 _).toNat / 2 + 0 = _
    rw [BitVec.toNat_ofNat]
    omega
  rw [left, work]
  refine ⟨by omega, fun remains => ?_⟩
  split
  · rename_i aligned
    have := takes remains aligned positive
    omega
  · omega

/-- A group that is used up stays used up. -/
theorem phaseRemaining_fillPacket (none : groupInfo.phaseRemaining = 0) :
    (fillPacket put cyclesPerPacket phaseLength packet groupInfo).2.phaseRemaining = 0 := by
  obtain ⟨taken, enough, -, filled⟩ := fillPacket_takes put few phaseLength packet regular
  rw [filled, none]
  exact congrArg (BitVec.ofNat 16) (Nat.zero_sub _)

end Fill

/-- A group is filled once its first timestamp is reached. -/
theorem dfiTsStart_fillPacket (put : Nat → BitVec 16 → DfiTxPacket → DfiTxPacket)
    (cyclesPerPacket : BitVec 8) (phaseLength : BitVec 16) (packet : DfiTxPacket)
    (groupInfo : PacketGroupInfo) :
    (fillPacket put cyclesPerPacket phaseLength packet groupInfo).2.dfiTsStart =
      groupInfo.dfiTsStart := by
  rw [fillPacket_group]

/-- The turns for the work of a group, each with a whole round of timestamps, and the turns
until its first timestamp. -/
def waiting (time : BitVec 16) (groupInfo : PacketGroupInfo) : Nat :=
  groupInfo.work * 2 ^ 17 +
    if groupInfo.phaseRemaining = 0 then 0 else (groupInfo.dfiTsStart - time).toNat

theorem waiting_lt (time : BitVec 16) (groupInfo : PacketGroupInfo) :
    waiting time groupInfo < groupInfo.work * 2 ^ 17 + 2 ^ 16 := by
  have wait := (groupInfo.dfiTsStart - time).isLt
  unfold waiting
  split <;> omega

/-- What a turn of a loop does to a group: it waits for its timestamp, or is filled. -/
inductive Turn (time : BitVec 16) (before after : PacketGroupInfo) : Prop
  | waits (early : time < before.dfiTsStart) (same : after = before)
  | fills (keeps : before.Regular → after.Regular)
      (sameStart : after.dfiTsStart = before.dfiTsStart)
      (noMore : after.work ≤ before.work)
      (less : before.phaseRemaining ≠ 0 → after.work < before.work)
      (stays : before.phaseRemaining = 0 → after.phaseRemaining = 0)

/-- A turn leaves no more to wait for, and less while phases remain. -/
theorem Turn.waiting_le {time : BitVec 16} {before after : PacketGroupInfo}
    (turn : Turn time before after) :
    waiting (time + 1) after ≤ waiting time before ∧
      (after.phaseRemaining ≠ 0 → waiting (time + 1) after < waiting time before) := by
  unfold waiting
  cases turn with
  | waits early same =>
      rw [same]
      by_cases none : before.phaseRemaining = 0
      · rw [if_pos none, if_pos none]
        exact ⟨Nat.le_refl _, fun remains => absurd none remains⟩
      · have closer : (before.dfiTsStart - (time + 1)).toNat <
            (before.dfiTsStart - time).toNat := by
          bv_omega
        rw [if_neg none, if_neg none]
        omega
  | fills keeps sameStart noMore less stays =>
      have wait := (after.dfiTsStart - (time + 1)).isLt
      by_cases none : before.phaseRemaining = 0
      · rw [if_pos none, if_pos (stays none)]
        exact ⟨by omega, fun remains => absurd (stays none) remains⟩
      · have := less none
        split <;> omega

theorem turn_fillPacket (put : Nat → BitVec 16 → DfiTxPacket → DfiTxPacket)
    {cyclesPerPacket : BitVec 8} (positive : 0 < cyclesPerPacket.toNat)
    (few : cyclesPerPacket.toNat ≤ 4) (phaseLength : BitVec 16) (packet : DfiTxPacket)
    {groupInfo : PacketGroupInfo} (regular : groupInfo.Regular) (time : BitVec 16) :
    Turn time groupInfo (fillPacket put cyclesPerPacket phaseLength packet groupInfo).2 := by
  obtain ⟨noMore, less⟩ := work_fillPacket put few phaseLength packet regular positive
  refine .fills (fun _ => regular_fillPacket put few phaseLength packet regular)
    (dfiTsStart_fillPacket ..) noMore less
    (phaseRemaining_fillPacket put few phaseLength packet regular)

/-- A group that is filled from its first timestamp on takes a turn. -/
theorem turn_fillPacket_when (put : Nat → BitVec 16 → DfiTxPacket → DfiTxPacket)
    {cyclesPerPacket : BitVec 8} (positive : 0 < cyclesPerPacket.toNat)
    (few : cyclesPerPacket.toNat ≤ 4) (phaseLength : BitVec 16) {packet : DfiTxPacket}
    {time : BitVec 16} (sent : packet.time = time) {groupInfo : PacketGroupInfo}
    (regular : groupInfo.Regular) :
    Turn time groupInfo
      (if groupInfo.dfiTsStart ≤ packet.time then
        fillPacket put cyclesPerPacket phaseLength packet groupInfo
      else (packet, groupInfo)).2 := by
  split
  · exact turn_fillPacket put positive few phaseLength packet regular _
  · rename_i early
    rw [sent, BitVec.not_le] at early
    exact .waits early rfl

theorem Turn.regular {time : BitVec 16} {before after : PacketGroupInfo}
    (turn : Turn time before after) (regular : before.Regular) : after.Regular := by
  cases turn with
  | waits early same => exact same ▸ regular
  | fills keeps sameStart noMore less stays => exact keeps regular

/-- The timestamp of a packet is not changed by filling it. -/
theorem time_fillPacket (put : Nat → BitVec 16 → DfiTxPacket → DfiTxPacket)
    (keeps : ∀ cycle offset packet, (put cycle offset packet).time = packet.time)
    (cyclesPerPacket : BitVec 8) (phaseLength : BitVec 16) (packet : DfiTxPacket)
    (groupInfo : PacketGroupInfo) :
    (fillPacket put cyclesPerPacket phaseLength packet groupInfo).1.time = packet.time :=
  fillPacket_keeps (motive := fun filled => filled.time = packet.time)
    (fun _ _ _ _ _ same => (keeps ..).trans same) rfl

theorem time_fillPacket_when (put : Nat → BitVec 16 → DfiTxPacket → DfiTxPacket)
    (keeps : ∀ cycle offset packet, (put cycle offset packet).time = packet.time)
    (cyclesPerPacket : BitVec 8) (phaseLength : BitVec 16) (packet : DfiTxPacket)
    (groupInfo : PacketGroupInfo) :
    (if groupInfo.dfiTsStart ≤ packet.time then
      fillPacket put cyclesPerPacket phaseLength packet groupInfo
    else (packet, groupInfo)).1.time = packet.time := by
  split
  · exact time_fillPacket put keeps ..
  · rfl

end PacketGroupInfo

open PacketGroupInfo TxPacketBuffer

theorem WddrFreqRatio.cyclesPerPacket_pos (ratio : WddrFreqRatio) :
    0 < ratio.cyclesPerPacket.toNat := by
  cases ratio <;> decide

theorem WddrFreqRatio.cyclesPerPacket_le (ratio : WddrFreqRatio) :
    ratio.cyclesPerPacket.toNat ≤ 4 := by
  cases ratio <;> decide

section Wrfifo

variable (ratio : WddrFreqRatio) (burstLength : BurstLength) (cs : Chipselect)
  (data : CommandData)

theorem time_fillWrfifo (packet : DfiTxPacket) (groups : WrGroups) :
    (fillWrfifo ratio.cyclesPerPacket burstLength cs data packet groups).1.time =
      packet.time := by
  unfold fillWrfifo
  dsimp only
  exact (time_fillPacket_when (putWrdata cs data) (fun _ _ _ => rfl) ..).trans
    (time_fillPacket_when putWrdataEn (fun _ _ _ => rfl) ..)

theorem regular_wrfifoGroups (dramCfg : DramFreqCfg) (tsLastPacket : BitVec 16)
    (wrdataEnOffset : BitVec 16) :
    let groups := wrfifoGroups dramCfg tsLastPacket burstLength wrdataEnOffset
    (groups.1.Regular ∧ groups.2.Regular) ∧ groups.1.work + groups.2.work ≤ 2 ^ 8 := by
  have enablePaired : (burstLength.phases + 4).toNat % 2 = 0 := by cases burstLength <;> rfl
  have dataPaired : burstLength.phases.toNat % 2 = 0 := by cases burstLength <;> rfl
  have short : (burstLength.phases + 4).toNat + burstLength.phases.toNat ≤ 2 ^ 7 := by
    cases burstLength <;> decide
  refine ⟨⟨regular_createPacketGroupInfo _ _ enablePaired,
    regular_createPacketGroupInfo _ _ dataPaired⟩, ?_⟩
  calc
    _ ≤ ((burstLength.phases + 4).toNat / 2 + 1) + (burstLength.phases.toNat / 2 + 1) :=
      Nat.add_le_add (work_createPacketGroupInfo_le ..) (work_createPacketGroupInfo_le ..)
    _ ≤ 2 ^ 8 := by omega

/-- Both groups of a write FIFO sequence take a turn with every packet. -/
theorem turn_fillWrfifo (packet : DfiTxPacket) {groups : WrGroups}
    (regular : groups.1.Regular ∧ groups.2.Regular) :
    Turn packet.time groups.1
        (fillWrfifo ratio.cyclesPerPacket burstLength cs data packet groups).2.1 ∧
      Turn packet.time groups.2
        (fillWrfifo ratio.cyclesPerPacket burstLength cs data packet groups).2.2 := by
  have positive := ratio.cyclesPerPacket_pos
  have few := ratio.cyclesPerPacket_le
  constructor
  · exact turn_fillPacket_when putWrdataEn positive few 0 rfl regular.1
  · have sent : (if groups.1.dfiTsStart ≤ packet.time then
        fillWrdataEnPacket ratio.cyclesPerPacket packet groups.1
      else (packet, groups.1)).1.time = packet.time :=
      time_fillPacket_when putWrdataEn (fun _ _ _ => rfl) ..
    exact turn_fillPacket_when (putWrdata cs data) positive few burstLength.phases sent regular.2

/-- The write FIFO loop ends. -/
theorem loopTrace_wrfifo_ends {groups : WrGroups} (time : BitVec 16)
    (regular : groups.1.Regular ∧ groups.2.Regular)
    (short : groups.1.work + groups.2.work ≤ 2 ^ 8) :
    ∃ final, (loopTrace ckePacket (fillWrfifo ratio.cyclesPerPacket burstLength cs data)
      wrfifoRemains loopFuel time groups).2 = some final := by
  apply loopTrace_ends (fun time groups => waiting time groups.1 + waiting time groups.2)
    (fun groups => groups.1.Regular ∧ groups.2.Regular)
  · intro time groups regular
    obtain ⟨first, second⟩ := turn_fillWrfifo ratio burstLength cs data (ckePacket time) regular
    exact ⟨first.regular regular.1, second.regular regular.2⟩
  · intro time groups regular remains
    obtain ⟨first, second⟩ := turn_fillWrfifo ratio burstLength cs data (ckePacket time) regular
    obtain ⟨firstNoMore, firstLess⟩ := first.waiting_le
    obtain ⟨secondNoMore, secondLess⟩ := second.waiting_le
    rw [wrfifoRemains, Bool.or_eq_true, decide_eq_true_eq, decide_eq_true_eq] at remains
    rw [time_ckePacket] at firstNoMore firstLess secondNoMore secondLess
    rcases remains with firstRemains | secondRemains
    · have := firstLess firstRemains
      omega
    · have := secondLess secondRemains
      omega
  · exact regular
  · have first := waiting_lt time groups.1
    have second := waiting_lt time groups.2
    have fuel : loopFuel = 2 ^ 26 := rfl
    omega

end Wrfifo

/-- A loop that fills a single group from its first packet on ends. -/
theorem loopTrace_fillPacket_ends {fresh : BitVec 16 → DfiTxPacket}
    (put : Nat → BitVec 16 → DfiTxPacket → DfiTxPacket) {cyclesPerPacket : BitVec 8}
    (positive : 0 < cyclesPerPacket.toNat) (few : cyclesPerPacket.toNat ≤ 4)
    (phaseLength : BitVec 16) {groupInfo : PacketGroupInfo} (time : BitVec 16)
    (regular : groupInfo.Regular) :
    ∃ final, (loopTrace fresh (fillPacket put cyclesPerPacket phaseLength)
      (·.phaseRemaining ≠ 0) loopFuel time groupInfo).2 = some final := by
  apply loopTrace_ends (fun _ => work) Regular
  · intro time groupInfo regular
    exact regular_fillPacket put few phaseLength _ regular
  · intro time groupInfo regular remains
    have remained : groupInfo.phaseRemaining ≠ 0 := by
      intro none
      exact of_decide_eq_true remains
        (phaseRemaining_fillPacket put few phaseLength _ regular none)
    exact (work_fillPacket put few phaseLength _ regular positive).2 remained
  · exact regular
  · have small := groupInfo.phaseRemaining.isLt
    have fuel : loopFuel = 2 ^ 26 := rfl
    unfold work
    split <;> omega

section Cbt

variable (ratio : WddrFreqRatio) (cs : Chipselect) (data : CommandData)

theorem time_fillCbt (packet : DfiTxPacket) (groups : CbtGroups) :
    (fillCbt ratio.cyclesPerPacket cs data packet groups).1.time = packet.time := by
  unfold fillCbt
  dsimp only
  exact (time_fillPacket_when putWrdataEn (fun _ _ _ => rfl) ..).trans
    (time_fillPacket_when (putWrdata cs data) (fun _ _ _ => rfl) ..)

/-- The phases of the data cover the enable and two packets more. -/
theorem cbtPhases_eq (dramCfg : DramFreqCfg) (tsLastPacket : BitVec 16) :
    (cbtGroups dramCfg tsLastPacket).1.phaseRemaining =
      BitVec.ofNat 16 (2 * (dramCfg.tShTrain.toNat + 2 * dramCfg.ratio.cycles + 2)) := by
  have small := dramCfg.tShTrain.isLt
  have width : (dramCfg.ratio.cyclesPerPacket.setWidth 16 : BitVec 16) =
      BitVec.ofNat 16 dramCfg.ratio.cycles := by
    cases dramCfg.ratio <;> rfl
  have few : dramCfg.ratio.cycles ≤ 4 := by cases dramCfg.ratio <;> decide
  change ((dramCfg.tShTrain.setWidth 16 + dramCfg.ratio.cyclesPerPacket.setWidth 16 <<< 1) <<< 1 +
    4 : BitVec 16) = _
  have four : (4 : BitVec 16).toNat = 4 := rfl
  rw [width]
  apply BitVec.eq_of_toNat_eq
  simp only [four, BitVec.toNat_add, BitVec.toNat_shiftLeft, BitVec.toNat_setWidth,
    BitVec.toNat_ofNat, Nat.shiftLeft_eq]
  omega

theorem regular_cbtGroups (dramCfg : DramFreqCfg) (tsLastPacket : BitVec 16) :
    (cbtGroups dramCfg tsLastPacket).1.Regular ∧
      (cbtGroups dramCfg tsLastPacket).1.work ≤ 2 ^ 8 + 2 ^ 7 := by
  have small := dramCfg.tShTrain.isLt
  have few : dramCfg.ratio.cycles ≤ 4 := by cases dramCfg.ratio <;> decide
  have phases : (cbtGroups dramCfg tsLastPacket).1.phaseRemaining.toNat =
      2 * (dramCfg.tShTrain.toNat + 2 * dramCfg.ratio.cycles + 2) := by
    rw [cbtPhases_eq, BitVec.toNat_ofNat, Nat.mod_eq_of_lt (by omega)]
  have work := work_createPacketGroupInfo_le dramCfg.ratio
    ((tsLastPacket + 1) <<< dramCfg.ratio.shift + dramCfg.ratio.cyclesPerPacket.setWidth 16)
    (cbtGroups dramCfg tsLastPacket).1.phaseRemaining
  refine ⟨regular_createPacketGroupInfo _ _ (phases ▸ Nat.mul_mod_right 2 _), ?_⟩
  refine Nat.le_trans work ?_
  rw [phases]
  omega

/-- The group of the data takes a turn with every packet. -/
theorem turn_fillCbt (packet : DfiTxPacket) {groups : CbtGroups}
    (regular : groups.1.Regular) :
    Turn packet.time groups.1 (fillCbt ratio.cyclesPerPacket cs data packet groups).2.1 :=
  turn_fillPacket_when (putWrdata cs data) ratio.cyclesPerPacket_pos ratio.cyclesPerPacket_le
    groups.1.phaseRemaining rfl regular

/-- The command bus training loop ends. -/
theorem loopTrace_cbt_ends {groups : CbtGroups} (time : BitVec 16)
    (regular : groups.1.Regular) (short : groups.1.work ≤ 2 ^ 8 + 2 ^ 7) :
    ∃ final, (loopTrace ckPacket (fillCbt ratio.cyclesPerPacket cs data)
      (fun groups => (ratio.cyclesPerPacket <<< 1).setWidth 16 ≤ groups.1.phaseRemaining)
      loopFuel time groups).2 = some final := by
  apply loopTrace_ends (fun time groups => waiting time groups.1)
    (fun groups => groups.1.Regular)
  · intro time groups regular
    exact (turn_fillCbt ratio cs data (ckPacket time) regular).regular regular
  · intro time groups regular remains
    have turn := turn_fillCbt ratio cs data (ckPacket time) regular
    apply turn.waiting_le.2
    intro none
    rw [decide_eq_true_eq, none] at remains
    revert remains
    cases ratio <;> decide
  · exact regular
  · have started := waiting_lt time groups.1
    have fuel : loopFuel = 2 ^ 26 := rfl
    omega

end Cbt

end WavLpddr
