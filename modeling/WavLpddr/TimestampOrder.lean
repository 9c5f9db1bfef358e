import WavLpddr.CbtTiming
import WavLpddr.Lib.Outcome
import WavLpddr.Lib.TransitionSystem
import WavLpddr.MrwRoundTrip
import WavLpddr.PacketTimes
import WavLpddr.ReadSchedule
import WavLpddr.WriteFifo

/-!
# Buffers whose packets are in order

A builder fills an empty buffer, and reads of the FIFO are appended.  Every packet is sent
after the one before it as long as no offset of a builder vanishes when it is cut to its
width.  Which offsets vanish can be told from the timings and the last timestamp.
-/

namespace WavLpddr

open Attempts PacketGroupInfo TxPacketBuffer

/-- The last timestamp after the frames of a command that are allocated. -/
def commandEnd (ratio : WddrFreqRatio) (buffer : TxPacketBuffer) : Nat :=
  buffer.tsLastPacket.toNat + granted buffer.fails (maxCommandFrames >>> ratio.shift)

theorem take_addressPackets (ratio : WddrFreqRatio) (command : Nat → CommandFrame)
    {count remaining : Nat} (few : count ≤ remaining) (phaseOffset : Nat) (time : BitVec 16) :
    (addressPackets ratio command remaining phaseOffset time).take count =
      addressPackets ratio command count phaseOffset time := by
  induction count generalizing remaining phaseOffset time with
  | zero => rfl
  | succ count inductionHypothesis =>
      obtain ⟨more, rfl⟩ : ∃ more, remaining = more + 1 := ⟨remaining - 1, by omega⟩
      rw [addressPackets, addressPackets, List.take_succ_cons, inductionHypothesis (by omega)]

section Command

variable {before after : TxPacketBuffer} {ratio : WddrFreqRatio}
  {command : Nat → CommandFrame}
  (attempted : Attempted before after (commandPackets ratio command before.tsLastPacket))
include attempted

/-- Where the frames of a command end, whether or not all of them are allocated. -/
theorem tsLastPacket_command (fits : before.tsLastPacket.toNat + maxCommandFrames < 2 ^ 16) :
    after.tsLastPacket.toNat = commandEnd ratio before := by
  have few : granted before.fails (maxCommandFrames >>> ratio.shift) ≤
      maxCommandFrames >>> ratio.shift := granted_le _
  have frames : maxCommandFrames >>> ratio.shift ≤ maxCommandFrames := Nat.shiftRight_le _ _
  unfold commandEnd
  rw [attempted.tsLastPacket, commandPackets, length_addressPackets, take_addressPackets _ _ few,
    lastTime_addressPackets, BitVec.toNat_add, BitVec.toNat_ofNat]
  omega

end Command

theorem rising_commandPackets (ratio : WddrFreqRatio) (command : Nat → CommandFrame)
    {tsLastPacket : BitVec 16} (fits : tsLastPacket.toNat + maxCommandFrames < 2 ^ 16) :
    Rising tsLastPacket (commandPackets ratio command tsLastPacket) := by
  have frames : maxCommandFrames >>> ratio.shift ≤ maxCommandFrames := Nat.shiftRight_le _ _
  have positive : 0 < maxCommandFrames := by decide
  have next : (1 + tsLastPacket).toNat = tsLastPacket.toNat + 1 := by bv_omega
  exact (rising_addressPackets ratio command _ 0 (by omega) (by omega)).1

section Builders

variable (dramCfg : DramFreqCfg) {buffer after : TxPacketBuffer} {result : WddrReturn}

/-- The timestamp at which the loop of a read is to begin. -/
theorem toNat_rddataGroup (tsLastPacket : BitVec 16) (burstLength : BurstLength)
    (rddataEnOffset : BitVec 16) :
    (rddataGroup dramCfg tsLastPacket burstLength rddataEnOffset).dfiTsStart.toNat =
      readStart dramCfg rddataEnOffset tsLastPacket % 256 / dramCfg.ratio.cycles := by
  refine (toNat_ushiftRight_shift dramCfg.ratio _).trans ?_
  rw [BitVec.toNat_setWidth_of_le (by decide), toNat_dramClk]
  rfl

/-- A read keeps the order if its loop begins after its command. -/
theorem orders_read {burstLength : BurstLength} {cs : Chipselect} {rddataEnOffset : BitVec 16}
    {command : Nat → CommandFrame}
    (prepares : (readPlan dramCfg burstLength cs rddataEnOffset command
      buffer.tsLastPacket).Prepares buffer result after)
    (inTime : commandEnd dramCfg.ratio buffer <
      readStart dramCfg rddataEnOffset buffer.tsLastPacket % 256 / dramCfg.ratio.cycles) :
    Orders buffer after := by
  have begins := toNat_rddataGroup dramCfg buffer.tsLastPacket burstLength rddataEnOffset
  have small : readStart dramCfg rddataEnOffset buffer.tsLastPacket % 256 /
      dramCfg.ratio.cycles < 256 :=
    (Nat.div_le_self _ _).trans_lt (Nat.mod_lt _ (by decide))
  have early : buffer.tsLastPacket.toNat ≤ commandEnd dramCfg.ratio buffer :=
    Nat.le_add_right _ _
  have four : maxCommandFrames = 4 := rfl
  have fits : buffer.tsLastPacket.toNat + maxCommandFrames < 2 ^ 16 := by omega
  have paired : burstLength.phases.toNat % 2 = 0 := by cases burstLength <;> rfl
  have short : burstLength.phases.toNat / 2 + 1 ≤ 17 := by cases burstLength <;> decide
  have regular : (rddataGroup dramCfg buffer.tsLastPacket burstLength rddataEnOffset).Regular :=
    regular_createPacketGroupInfo _ _ paired
  have work : (rddataGroup dramCfg buffer.tsLastPacket burstLength rddataEnOffset).work ≤ 17 :=
    (work_createPacketGroupInfo_le _ _ _).trans short
  apply prepares.orders 17 (rising_commandPackets dramCfg.ratio command fits)
  · intro start time later inTime
    obtain ⟨rises, bounded⟩ := rising_loopTrace_fillPacket later (putRddata cs)
      (fun _ _ _ => rfl) dramCfg.ratio.cyclesPerPacket_pos dramCfg.ratio.cyclesPerPacket_le 0
      regular (by omega)
    exact ⟨rises, fun packet listed => (bounded packet listed).trans (by omega)⟩
  · intro commanded attempted
    have ends := tsLastPacket_command attempted fits
    have difference : ((rddataGroup dramCfg buffer.tsLastPacket burstLength
        rddataEnOffset).dfiTsStart - commanded.tsLastPacket).toNat =
          readStart dramCfg rddataEnOffset buffer.tsLastPacket % 256 / dramCfg.ratio.cycles -
            commandEnd dramCfg.ratio buffer := by
      rw [BitVec.toNat_sub_of_le (by rw [BitVec.le_def, begins, ends]; exact inTime.le), begins,
        ends]
    change 0 < ((rddataGroup dramCfg buffer.tsLastPacket burstLength
      rddataEnOffset).dfiTsStart - commanded.tsLastPacket).toNat ∧ commanded.tsLastPacket.toNat +
        ((rddataGroup dramCfg buffer.tsLastPacket burstLength rddataEnOffset).dfiTsStart -
          commanded.tsLastPacket).toNat + 17 + 1 < 2 ^ 16
    rw [difference, ends]
    omega

/-- The timestamps at which the groups of a write FIFO sequence start. -/
theorem toNat_wrfifoGroups (tsLastPacket : BitVec 16) (burstLength : BurstLength)
    (wrdataEnOffset : BitVec 16) :
    (wrfifoGroups dramCfg tsLastPacket burstLength wrdataEnOffset).1.dfiTsStart.toNat =
        wrdataEnStart dramCfg wrdataEnOffset tsLastPacket % 256 / dramCfg.ratio.cycles ∧
      (wrfifoGroups dramCfg tsLastPacket burstLength wrdataEnOffset).2.dfiTsStart.toNat <
        256 := by
  constructor
  · refine (toNat_ushiftRight_shift dramCfg.ratio _).trans ?_
    rw [BitVec.toNat_setWidth_of_le (by decide), toNat_dramClk]
    rfl
  · refine ((toNat_ushiftRight_shift dramCfg.ratio _).le.trans
      (Nat.div_le_self _ _)).trans_lt ?_
    rw [BitVec.toNat_setWidth_of_le (by decide)]
    exact BitVec.isLt _

/-- A write FIFO sequence keeps the order if its offset does not vanish. -/
theorem orders_wrfifo {burstLength : BurstLength} {cs : Chipselect} {wrdataEnOffset : BitVec 16}
    {data : CommandData}
    (prepares : (wrfifoPlan dramCfg burstLength cs wrdataEnOffset data
      buffer.tsLastPacket).Prepares buffer result after)
    (early : buffer.tsLastPacket.toNat < 2 ^ 15)
    (inTime : wrdataEnStart dramCfg wrdataEnOffset buffer.tsLastPacket % 256 /
      dramCfg.ratio.cycles ≠ commandEnd dramCfg.ratio buffer % 256) :
    Orders buffer after := by
  have four : maxCommandFrames = 4 := rfl
  have fits : buffer.tsLastPacket.toNat + maxCommandFrames < 2 ^ 16 := by omega
  have commandSmall : commandEnd dramCfg.ratio buffer ≤ buffer.tsLastPacket.toNat + 4 :=
    Nat.add_le_add_left ((granted_le _).trans (Nat.shiftRight_le _ _)) _
  obtain ⟨regular, work⟩ := regular_wrfifoGroups burstLength dramCfg buffer.tsLastPacket
    wrdataEnOffset
  obtain ⟨begins, startSmall⟩ :=
    toNat_wrfifoGroups dramCfg buffer.tsLastPacket burstLength wrdataEnOffset
  have small : wrdataEnStart dramCfg wrdataEnOffset buffer.tsLastPacket % 256 /
      dramCfg.ratio.cycles < 256 :=
    (Nat.div_le_self _ _).trans_lt (Nat.mod_lt _ (by decide))
  apply prepares.orders 1024 (rising_commandPackets dramCfg.ratio _ fits)
  · intro start time later inTime
    have first := ahead_le time (wrfifoGroups dramCfg buffer.tsLastPacket burstLength
      wrdataEnOffset).1
    have second := ahead_le time (wrfifoGroups dramCfg buffer.tsLastPacket burstLength
      wrdataEnOffset).2
    obtain ⟨rises, bounded⟩ := rising_loopTrace_wrfifo later dramCfg.ratio burstLength cs data
      regular (by omega)
    exact ⟨rises, fun packet listed => (bounded packet listed).trans (by omega)⟩
  · intro commanded attempted
    have ends := tsLastPacket_command attempted fits
    have cut : (((wrfifoGroups dramCfg buffer.tsLastPacket burstLength
        wrdataEnOffset).1.dfiTsStart - commanded.tsLastPacket).setWidth 8 : BitVec 8).toNat =
          (2 ^ 16 - commandEnd dramCfg.ratio buffer +
            wrdataEnStart dramCfg wrdataEnOffset buffer.tsLastPacket % 256 /
              dramCfg.ratio.cycles) % 256 := by
      rw [BitVec.toNat_setWidth, BitVec.toNat_sub, begins, ends]
      omega
    change 0 < ((((wrfifoGroups dramCfg buffer.tsLastPacket burstLength
      wrdataEnOffset).1.dfiTsStart - commanded.tsLastPacket).setWidth 8 : BitVec 8).setWidth 16 :
        BitVec 16).toNat ∧ commanded.tsLastPacket.toNat + ((((wrfifoGroups dramCfg
          buffer.tsLastPacket burstLength wrdataEnOffset).1.dfiTsStart -
            commanded.tsLastPacket).setWidth 8 : BitVec 8).setWidth 16 : BitVec 16).toNat +
              1024 + 1 < 2 ^ 16
    rw [BitVec.toNat_setWidth_of_le (by decide), cut, ends]
    omega

theorem orders_wrlvl
    (prepares : (wrlvlPlan dramCfg buffer.tsLastPacket).Prepares buffer result after)
    (early : buffer.tsLastPacket.toNat < 2 ^ 15) : Orders buffer after := by
  have regular : (wrlvlGroup dramCfg buffer.tsLastPacket).Regular :=
    regular_createPacketGroupInfo _ _ rfl
  have work : (wrlvlGroup dramCfg buffer.tsLastPacket).work ≤ 3 :=
    work_createPacketGroupInfo_le _ _ _
  apply prepares.orders 3 (rising_nil _)
  · intro start time later inTime
    obtain ⟨rises, bounded⟩ := rising_loopTrace_fillPacket later putWrdataEn (fun _ _ _ => rfl)
      (by decide : 0 < (4 : BitVec 8).toNat) (by decide) 0 regular (by omega)
    exact ⟨rises, fun packet listed => (bounded packet listed).trans (by omega)⟩
  · intro commanded attempted
    have same : commanded.tsLastPacket = buffer.tsLastPacket := attempted.tsLastPacket
    change 0 < (1 : BitVec 16).toNat ∧
      commanded.tsLastPacket.toNat + (1 : BitVec 16).toNat + 3 + 1 < 2 ^ 16
    rw [same]
    have one : (1 : BitVec 16).toNat = 1 := rfl
    omega

/-- A wait of command bus training in DFI cycles, from its DRAM cycles. -/
def cbtWait (ratio : WddrFreqRatio) (dramCycles : Int) : Int := dramCycles / ratio.cycles + 1

/-- The eight bits of a wait. -/
theorem cut_eq_zero_iff {value : Word} (dramCycles : Int) (isValue : value.toInt = dramCycles)
    (ratio : WddrFreqRatio) :
    ((value.sshiftRight ratio.shift + 1).setWidth 8 : BitVec 8).toNat = 0 ↔
      cbtWait ratio dramCycles % 256 = 0 := by
  have shifted : (value.sshiftRight ratio.shift).toInt = dramCycles / ratio.cycles := by
    rw [BitVec.toInt_sshiftRight, isValue, Int.shiftRight_eq_div_pow]
    cases ratio <;> rfl
  have sign := BitVec.toInt_eq_toNat_cond (value.sshiftRight ratio.shift)
  have one : (1 : Word).toNat = 1 := rfl
  unfold cbtWait
  rw [← shifted, sign, BitVec.toNat_setWidth, BitVec.toNat_add, one]
  split <;> omega

end Builders

section Cbt

variable {dramCfg : DramFreqCfg} {cs : Chipselect} {vrefSetting commandAddress : BitVec 8}
  {buffer after : TxPacketBuffer} {result : WddrReturn}

theorem dfiTsStart_cbtGroups : (cbtGroups dramCfg 1).1.dfiTsStart = 3 := by
  change ((1 + 1 : BitVec 16) <<< dramCfg.ratio.shift +
    dramCfg.ratio.cyclesPerPacket.setWidth 16) >>> dramCfg.ratio.shift = 3
  cases dramCfg.ratio <;> rfl

/-- The loop begins at the third timestamp, even if the first packet is refused. -/
theorem orders_cbtFilled {started looped : TxPacketBuffer} (fresh : buffer.tsLastPacket = 1)
    (filled : CbtFilled dramCfg cs vrefSetting buffer started looped) :
    Orders buffer looped ∧ looped.tsLastPacket.toNat < 2 ^ 10 := by
  have first := filled.first
  have turns := filled.turns
  rw [fresh] at first turns
  have startedTs : started.tsLastPacket = 1 ∨ started.tsLastPacket = 2 := by
    rw [tsLastPacket_single first, fresh, time_ckPacket]
    split
    · exact Or.inl rfl
    · exact Or.inr rfl
  have time : cbtOffset dramCfg 1 started.tsLastPacket + started.tsLastPacket = 3 ∧
      started.tsLastPacket.toNat < (3 : BitVec 16).toNat := by
    unfold cbtOffset
    rw [dfiTsStart_cbtGroups]
    rcases startedTs with same | same <;> rw [same] <;> decide
  obtain ⟨regular, work⟩ := regular_cbtGroups dramCfg 1
  have ahead := ahead_le 3 (cbtGroups dramCfg 1).1
  have three : (3 : BitVec 16).toNat = 3 := rfl
  rw [dfiTsStart_cbtGroups] at ahead
  rw [time.1] at turns
  obtain ⟨rises, bounded⟩ := rising_loopTrace_cbt time.2 dramCfg.ratio cs
    (cbtData (dramCfg.ratio.cyclesPerPacket <<< 1) vrefSetting) regular (by omega)
  refine ⟨(first.orders_single ?_).trans (turns.orders rises), ?_⟩
  · rw [fresh]
    decide
  · have ends := turns.tsLastPacket_le (by omega) bounded
    omega

theorem toNat_cbtHoldOffset_eq_zero_iff :
    (cbtHoldOffset dramCfg).toNat = 0 ↔
      cbtWait dramCfg.ratio (dramCfg.tShTrain.toNat + dramCfg.phyWrEn.toNat) % 256 = 0 := by
  apply cut_eq_zero_iff
  have := dramCfg.tShTrain.isLt
  have := dramCfg.phyWrEn.isLt
  rw [BitVec.toInt_eq_toNat_cond, BitVec.toNat_add, BitVec.toNat_setWidth_of_le (by decide),
    BitVec.toNat_setWidth_of_le (by decide)]
  split <;> omega

theorem toNat_cbtPatternOffset_eq_zero_iff :
    (cbtPatternOffset dramCfg).toNat = 0 ↔
      cbtWait dramCfg.ratio (dramCfg.tVrefCaLong.toNat - dramCfg.tShTrain.toNat) % 256 = 0 := by
  apply cut_eq_zero_iff
  have := dramCfg.tShTrain.isLt
  have := dramCfg.tVrefCaLong.isLt
  rw [BitVec.toInt_eq_toNat_cond, BitVec.toNat_sub, BitVec.toNat_setWidth_of_le (by decide),
    BitVec.toNat_setWidth_of_le (by decide)]
  split <;> omega

/-- Neither wait of command bus training vanishes. -/
def CbtWaitsMove (dramCfg : DramFreqCfg) : Prop :=
  cbtWait dramCfg.ratio (dramCfg.tShTrain.toNat + dramCfg.phyWrEn.toNat) % 256 ≠ 0 ∧
    cbtWait dramCfg.ratio (dramCfg.tVrefCaLong.toNat - dramCfg.tShTrain.toNat) % 256 ≠ 0

/-- A packet after an offset of eight bits. -/
theorem orders_cut {before after : TxPacketBuffer} (timeOffset : BitVec 8)
    {packet : DfiTxPacket} (attempted : Attempted before after [packet])
    (sent : packet.time = timeOffset.setWidth 16 + before.tsLastPacket)
    (moves : timeOffset.toNat ≠ 0) (early : before.tsLastPacket.toNat < 2 ^ 15) :
    Orders before after ∧ after.tsLastPacket.toNat ≤ before.tsLastPacket.toNat + 255 := by
  have small := timeOffset.isLt
  have time : packet.time.toNat = timeOffset.toNat + before.tsLastPacket.toNat := by
    rw [sent, BitVec.toNat_add, BitVec.toNat_setWidth_of_le (by decide),
      Nat.mod_eq_of_lt (by omega)]
  refine ⟨attempted.orders_single (by omega), attempted.tsLastPacket_le (by omega) ?_⟩
  intro other listed
  rw [List.mem_singleton.mp listed]
  omega

/-- Command bus training on an empty buffer keeps the order if both its waits move on. -/
theorem orders_cbt (fresh : buffer.tsLastPacket = 1)
    (prepares : CbtPrepares dramCfg cs vrefSetting commandAddress buffer result after)
    (move : CbtWaitsMove dramCfg) : Orders buffer after := by
  have holds := mt toNat_cbtHoldOffset_eq_zero_iff.mp move.1
  have waits := mt toNat_cbtPatternOffset_eq_zero_iff.mp move.2
  cases prepares with
  | refused filled stopped => exact (orders_cbtFilled fresh filled).1
  | unsent filled completes hold failed pattern =>
      obtain ⟨looped, loopEnds⟩ := orders_cbtFilled fresh filled
      obtain ⟨held, -⟩ := orders_cut _ hold rfl holds (by omega)
      exact (looped.trans held).trans ⟨_, _, pattern, rising_nil _⟩
  | succeeds filled completes hold allocated pattern ended last =>
      obtain ⟨looped, loopEnds⟩ := orders_cbtFilled fresh filled
      obtain ⟨held, holdEnds⟩ := orders_cut _ hold rfl holds (by omega)
      have patternAttempted := Attempted.cons allocated pattern (Attempted.nil pattern.sound)
      obtain ⟨sent, patternEnds⟩ := orders_cut _ patternAttempted rfl waits (by omega)
      obtain ⟨next, endEnds⟩ := orders_cut 1 ended rfl (by decide) (by omega)
      obtain ⟨after, -⟩ := orders_cut 2 last rfl (by decide) (by omega)
      exact (((looped.trans held).trans sent).trans next).trans after

end Cbt

section MrwUpdate

/-- Packets were appended in order, and the last timestamp moved on by no more than a
span. -/
def Advances (span : Nat) (before after : TxPacketBuffer) : Prop :=
  Orders before after ∧ after.tsLastPacket.toNat ≤ before.tsLastPacket.toNat + span

theorem Advances.trans {before middle after : TxPacketBuffer} {span more : Nat}
    (first : Advances span before middle) (second : Advances more middle after) :
    Advances (span + more) before after := by
  refine ⟨first.1.trans second.1, ?_⟩
  have firstEnds := first.2
  have secondEnds := second.2
  omega

theorem advances_createCke {buffer : TxPacketBuffer} (sound : buffer.Sound)
    (fits : buffer.tsLastPacket.toNat + 1 < 2 ^ 16) :
    Advances 1 buffer (buffer.createCkePacketSequence 1).2 := by
  have attempted := creates_createCkePacketSequence.attempted 1 sound
  have next : (1 + buffer.tsLastPacket).toNat = buffer.tsLastPacket.toNat + 1 := by bv_omega
  refine ⟨attempted.orders_single ?_, attempted.tsLastPacket_le (Nat.le_succ _) ?_⟩
  · rw [time_ckePacket, next]
    exact Nat.lt_succ_self _
  · intro packet listed
    rw [List.mem_singleton.mp listed, time_ckePacket, next]

variable (ratio : WddrFreqRatio)

/-- The packets of a write, and the one after it. -/
theorem advances_write (rank : Nat) {update : BitVec 8 × BitVec 8 × BitVec 16}
    (moves : 0 < update.2.2.toNat) {buffer : TxPacketBuffer} (sound : buffer.Sound)
    (fits : buffer.tsLastPacket.toNat + (update.2.2.toNat + commandLength ratio) < 2 ^ 16) :
    Advances (update.2.2.toNat + commandLength ratio) buffer
      ((buffer.dramCreateMrwPacketSequence ratio rank update.1 update.2.1
        update.2.2).2.createCkePacketSequence 1).2 := by
  have some_frames := commandLength_pos ratio
  have attempted := attempted_dramCreateAddressPackets ratio
    (createWriteModeRegisterCommand rank update.1 update.2.1) (commandLength ratio) 0 update.2.2
    sound
  have time : (update.2.2 + buffer.tsLastPacket).toNat =
      update.2.2.toNat + buffer.tsLastPacket.toNat := by
    rw [BitVec.toNat_add, Nat.mod_eq_of_lt (by omega)]
  obtain ⟨rises, bounded⟩ := rising_addressPackets ratio
    (createWriteModeRegisterCommand rank update.1 update.2.1) (commandLength ratio) 0
    (by omega : buffer.tsLastPacket.toNat < (update.2.2 + buffer.tsLastPacket).toNat) (by omega)
  rw [time] at bounded
  have ends : (buffer.dramCreateMrwPacketSequence ratio rank update.1 update.2.1
      update.2.2).2.tsLastPacket.toNat ≤
        update.2.2.toNat + buffer.tsLastPacket.toNat + commandLength ratio - 1 :=
    attempted.tsLastPacket_le (by omega) bounded
  have command : Advances (update.2.2.toNat + commandLength ratio - 1) buffer
      (buffer.dramCreateMrwPacketSequence ratio rank update.1 update.2.1 update.2.2).2 :=
    ⟨attempted.orders rises, ends.trans (by omega)⟩
  have whole := command.trans (advances_createCke attempted.sound (by omega))
  rwa [Nat.sub_add_cancel (by omega)] at whole

/-- Updates take the sum of their times. -/
theorem advances_updates {updates : List (Nat × BitVec 8 × BitVec 8 × BitVec 16)}
    (move : ∀ update ∈ updates, 0 < update.2.2.2.toNat) {buffer : TxPacketBuffer}
    (sound : buffer.Sound)
    (fits : buffer.tsLastPacket.toNat +
      writesSpan ratio (updates.map fun update => askedWrite update.1 update.2) < 2 ^ 16) :
    Advances (writesSpan ratio (updates.map fun update => askedWrite update.1 update.2)) buffer
      (updates.foldl (fun buffer update =>
        ((buffer.dramCreateMrwPacketSequence ratio update.1 update.2.1 update.2.2.1
          update.2.2.2).2.createCkePacketSequence 1).2) buffer) := by
  induction updates generalizing buffer with
  | nil => exact ⟨⟨0, [], .refl sound, rising_nil _⟩, Nat.le_refl _⟩
  | cons update rest inductionHypothesis =>
      rw [List.map_cons, writesSpan_cons] at fits ⊢
      have wait : (askedWrite update.1 update.2).1 = update.2.2.2.toNat := rfl
      have first := advances_write ratio update.1 (move update List.mem_cons_self) sound
        (by omega)
      have firstEnds := first.2
      exact first.trans (inductionHypothesis
        (fun other listed => move other (List.mem_cons_of_mem _ listed)) first.1.sound (by omega))

/-- Every update waits if the one of VREF does. -/
theorem moves_rankedUpdates {newCfg : DramFreqCfg} (moves : newCfg.tVrefCaLong ≠ 0) :
    ∀ update ∈ rankedUpdates newCfg, 0 < update.2.2.2.toNat := by
  have settles : 0 < newCfg.tVrefCaLong.toNat := by
    apply Nat.pos_of_ne_zero
    exact fun zero => moves (BitVec.eq_of_toNat_eq zero)
  intro update listed
  obtain ⟨rank, -, inRank⟩ := List.mem_flatMap.mp listed
  obtain ⟨triple, isUpdate, rfl⟩ := List.mem_map.mp inRank
  simp only [mrwUpdates, List.mem_cons, List.not_mem_nil, or_false] at isUpdate
  rcases isUpdate with rfl | rfl | rfl | rfl | rfl
  all_goals first | exact settles | exact Nat.zero_lt_succ 9

/-- A mode-register update keeps the order if it waits for VREF at all and fits into the
time. -/
theorem orders_mrwUpdate {newCfg : DramFreqCfg} {buffer : TxPacketBuffer} (sound : buffer.Sound)
    (moves : newCfg.tVrefCaLong ≠ 0)
    (fits : buffer.tsLastPacket.toNat + 1 + writesSpan ratio (updateWrites newCfg) < 2 ^ 16) :
    Orders buffer (buffer.dramPrepareMrwUpdate ratio newCfg) := by
  have first := advances_createCke sound (by omega)
  have firstEnds := first.2
  have updated := advances_updates ratio (moves_rankedUpdates moves) first.1.sound
    (by rw [askedWrites]; omega)
  rw [dramPrepareMrwUpdate_eq]
  exact first.1.trans updated.1

end MrwUpdate

/-- No offset of a call vanishes when it is cut. -/
def SequenceCall.InTime (dramCfg : DramFreqCfg) (buffer : TxPacketBuffer) : SequenceCall → Prop
  | wrfifo _ _ wrdataEnOffset _ =>
      wrdataEnStart dramCfg wrdataEnOffset buffer.tsLastPacket % 256 / dramCfg.ratio.cycles ≠
        commandEnd dramCfg.ratio buffer % 256
  | rddq _ _ rddataEnOffset | rdfifo _ _ rddataEnOffset =>
      commandEnd dramCfg.ratio buffer <
        readStart dramCfg rddataEnOffset buffer.tsLastPacket % 256 / dramCfg.ratio.cycles
  | wrlvl => True
  | cbt _ _ _ => CbtWaitsMove dramCfg

def BuilderCall.InTime (dramCfg : DramFreqCfg) (buffer : TxPacketBuffer) : BuilderCall → Prop
  | mrwUpdate newCfg => newCfg.tVrefCaLong ≠ 0
  | sequence call => call.InTime dramCfg buffer

/-- The packets that a call intends to send end before the time wraps. -/
def SequenceCall.Fits (dramCfg : DramFreqCfg) (buffer : TxPacketBuffer) : SequenceCall → Prop
  | wrfifo burstLength _ wrdataEnOffset _ =>
      packetsEnd dramCfg.ratio.cycles
        (wrdataStart dramCfg wrdataEnOffset buffer.tsLastPacket + burstLength.cycles) < 2 ^ 16
  | rddq burstLength _ rddataEnOffset | rdfifo burstLength _ rddataEnOffset =>
      packetsEnd dramCfg.ratio.cycles
        (readStart dramCfg rddataEnOffset buffer.tsLastPacket + burstLength.cycles) < 2 ^ 16
  | wrlvl => True
  | cbt _ _ _ =>
      cbtEnd dramCfg + cbtWait dramCfg.ratio (dramCfg.tShTrain.toNat + dramCfg.phyWrEn.toNat) +
        cbtWait dramCfg.ratio (dramCfg.tVrefCaLong.toNat - dramCfg.tShTrain.toNat) + 2 < 2 ^ 16

def BuilderCall.Fits (dramCfg : DramFreqCfg) (buffer : TxPacketBuffer) : BuilderCall → Prop
  | mrwUpdate newCfg => 2 + writesSpan dramCfg.ratio (updateWrites newCfg) < 2 ^ 16
  | sequence call => call.Fits dramCfg buffer

/-- A use of a packet buffer. -/
inductive BufferUse
  | build (call : BuilderCall)
  | rdfifo (burstLength : BurstLength) (cs : Chipselect) (rddataEnOffset : BitVec 16)

namespace BufferUse

def call : BufferUse → BuilderCall
  | build call => call
  | rdfifo burstLength cs rddataEnOffset => .sequence (.rdfifo burstLength cs rddataEnOffset)

/-- A builder fills an empty buffer, reads of the FIFO are appended. -/
def step (dramCfg : DramFreqCfg) : BufferUse → TxPacketBuffer → Option TxPacketBuffer
  | build call, buffer =>
      if buffer.list = [] then (call.run dramCfg buffer).toOption else none
  | rdfifo burstLength cs rddataEnOffset, buffer =>
      ((rdfifo burstLength cs rddataEnOffset).call.run dramCfg buffer).toOption

end BufferUse

/-- Empty packet buffers and what is put into them. -/
def prepareSystem (dramCfg : DramFreqCfg) : TransitionSystem TxPacketBuffer BufferUse where
  initial buffer := buffer.list = [] ∧ buffer.tsLastPacket = 1
  step := BufferUse.step dramCfg

/-- Every packet is sent after the one before it, and the last timestamp is that of the last
one. -/
structure InOrder (buffer : TxPacketBuffer) : Prop where
  increasing : (buffer.packets.map (·.time.toNat)).Pairwise (· < ·)
  last : buffer.tsLastPacket = lastTime 1 buffer.packets

/-- The last timestamp depends only on the timestamps. -/
theorem lastTime_congr (start : BitVec 16) {packets others : List DfiTxPacket}
    (times : packets.map (·.time) = others.map (·.time)) :
    lastTime start packets = lastTime start others := by
  induction packets generalizing start others with
  | nil =>
      obtain rfl : others = [] := List.map_eq_nil_iff.mp times.symm
      rfl
  | cons packet rest inductionHypothesis =>
      cases others with
      | nil => cases times
      | cons other others =>
          obtain ⟨sameTime, sameTimes⟩ := List.cons.inj times
          change lastTime packet.time rest = lastTime other.time others
          rw [show packet.time = other.time from sameTime]
          exact inductionHypothesis other.time sameTimes

section Runs

variable (dramCfg : DramFreqCfg) {buffer mirror : TxPacketBuffer}

theorem SequenceCall.orders_rdfifo (burstLength : BurstLength) (cs : Chipselect)
    (rddataEnOffset : BitVec 16) (sound : buffer.Sound)
    (inTime : (rdfifo burstLength cs rddataEnOffset).InTime dramCfg buffer) :
    ∃ result after, (rdfifo burstLength cs rddataEnOffset).run dramCfg buffer =
      .ok (result, after) ∧ Orders buffer after := by
  obtain ⟨result, after, prepares, ran⟩ :=
    prepares_read dramCfg burstLength cs rddataEnOffset (createRdfifoCommand cs) sound
  exact ⟨result, after, ran, orders_read dramCfg prepares inTime⟩

/-- A call on an empty buffer keeps the order. -/
theorem SequenceCall.orders_run (call : SequenceCall) (sound : buffer.Sound)
    (fresh : buffer.tsLastPacket = 1) (inTime : call.InTime dramCfg buffer) :
    ∃ result after, call.run dramCfg buffer = .ok (result, after) ∧ Orders buffer after := by
  have early : buffer.tsLastPacket.toNat < 2 ^ 15 := by rw [fresh]; decide
  cases call with
  | wrfifo burstLength cs wrdataEnOffset data =>
      obtain ⟨result, after, prepares, ran⟩ :=
        prepares_wrfifo dramCfg burstLength cs wrdataEnOffset data sound
      exact ⟨result, after, ran, orders_wrfifo dramCfg prepares early inTime⟩
  | rddq burstLength cs rddataEnOffset =>
      obtain ⟨result, after, prepares, ran⟩ :=
        prepares_read dramCfg burstLength cs rddataEnOffset (createRddqCommand cs) sound
      exact ⟨result, after, ran, orders_read dramCfg prepares inTime⟩
  | rdfifo burstLength cs rddataEnOffset =>
      exact orders_rdfifo dramCfg burstLength cs rddataEnOffset sound inTime
  | wrlvl =>
      obtain ⟨result, after, prepares, ran⟩ := prepares_wrlvl dramCfg sound
      exact ⟨result, after, ran, orders_wrlvl dramCfg prepares early⟩
  | cbt cs vrefSetting commandAddress =>
      obtain ⟨result, after, prepares, ran⟩ :=
        prepares_cbt dramCfg cs vrefSetting commandAddress sound
      exact ⟨result, after, ran, orders_cbt fresh prepares inTime⟩

/-- The packets of a buffer over zeroed memory rise from the first timestamp. -/
structure Ordered (buffer : TxPacketBuffer) : Prop where
  sound : buffer.Sound
  rises : Rising 1 buffer.packets
  last : buffer.tsLastPacket = lastTime 1 buffer.packets

theorem Ordered.step {after : TxPacketBuffer} (ordered : Ordered buffer)
    (orders : Orders buffer after) : Ordered after := by
  refine ⟨orders.sound, ?_, ?_⟩
  · obtain ⟨asked, new, appended, rises⟩ := orders
    rw [appended.packets, rising_append_iff, ← ordered.last]
    exact ⟨ordered.rises, rises⟩
  · obtain ⟨asked, new, appended, rises⟩ := orders
    rw [appended.packets, lastTime_append, ← ordered.last, appended.tsLastPacket]

section Agree

variable (agree : Agree [] buffer mirror)
include agree

theorem inTime_mirror {call : SequenceCall} (inTime : call.InTime dramCfg buffer) :
    call.InTime dramCfg mirror := by
  cases call with
  | wrlvl => trivial
  | cbt cs vrefSetting commandAddress => exact inTime
  | _ =>
      unfold SequenceCall.InTime commandEnd at inTime ⊢
      rw [agree.tsLastPacket, agree.fails] at inTime
      exact inTime

/-- The timestamp of an empty buffer in order is the first one. -/
theorem fresh_mirror (ordered : Ordered mirror) (empty : buffer.list = []) :
    mirror.tsLastPacket = 1 := by
  have same : mirror.list = [] := agree.list.symm.trans empty
  rw [ordered.last, TxPacketBuffer.packets, same]
  rfl

/-- A sequence that keeps the order over zeroed memory leaves the buffer in agreement with an
ordered one. -/
theorem agree_sequence {call : SequenceCall} (ordered : Ordered mirror)
    (orders : ∃ result after, call.run dramCfg mirror = .ok (result, after) ∧
      Orders mirror after)
    {next : TxPacketBuffer} (ran : (BuilderCall.sequence call).run dramCfg buffer = .ok next) :
    ∃ mirrorNext, Agree [] next mirrorNext ∧ Ordered mirrorNext := by
  obtain ⟨result, mirrorNext, mirrorRan, orders⟩ := orders
  obtain ⟨after, bufferRan, agreeAfter⟩ := agree_run dramCfg agree call mirrorRan
  change (call.run dramCfg buffer).map (·.2) = .ok next at ran
  rw [bufferRan] at ran
  cases ran
  exact ⟨mirrorNext, agreeAfter, ordered.step orders⟩

/-- A builder on an empty buffer leaves it in agreement with an ordered one. -/
theorem agree_build (call : BuilderCall) (ordered : Ordered mirror) (empty : buffer.list = [])
    (fits : call.Fits dramCfg buffer) (inTime : call.InTime dramCfg buffer) {next : TxPacketBuffer}
    (ran : call.run dramCfg buffer = .ok next) :
    ∃ mirrorNext, Agree [] next mirrorNext ∧ Ordered mirrorNext := by
  have fresh := fresh_mirror agree ordered empty
  cases call with
  | mrwUpdate newCfg =>
      have one : mirror.tsLastPacket.toNat = 1 := by rw [fresh]; rfl
      cases ran
      refine ⟨mirror.dramPrepareMrwUpdate dramCfg.ratio newCfg,
        agree.dramPrepareMrwUpdate dramCfg.ratio newCfg, ordered.step ?_⟩
      apply orders_mrwUpdate dramCfg.ratio ordered.sound inTime
      rw [one]
      exact fits
  | sequence call =>
      exact agree_sequence dramCfg agree ordered
        (call.orders_run dramCfg ordered.sound fresh (inTime_mirror dramCfg agree inTime)) ran

/-- Every use of a buffer leaves it in agreement with an ordered one. -/
theorem agree_step {use : BufferUse} (ordered : Ordered mirror)
    (fits : use.call.Fits dramCfg buffer) (inTime : use.call.InTime dramCfg buffer)
    {next : TxPacketBuffer}
    (taken : use.step dramCfg buffer = some next) :
    ∃ mirrorNext, Agree [] next mirrorNext ∧ Ordered mirrorNext := by
  cases use with
  | build call =>
      change (if buffer.list = [] then (call.run dramCfg buffer).toOption else none) =
        some next at taken
      split at taken
      · rename_i empty
        exact agree_build dramCfg agree call ordered empty fits inTime
          (Outcome.ok_of_toOption taken)
      · cases taken
  | rdfifo burstLength cs rddataEnOffset =>
      exact agree_sequence dramCfg agree ordered
        (SequenceCall.orders_rdfifo dramCfg burstLength cs rddataEnOffset ordered.sound
          (inTime_mirror dramCfg agree inTime))
        (Outcome.ok_of_toOption taken)

omit dramCfg in
/-- The timestamps of a buffer are those of the one it agrees with. -/
theorem inOrder_of_agree (ordered : Ordered mirror) : InOrder buffer := by
  have times : buffer.packets.map (·.time) = mirror.packets.map (·.time) := by
    unfold TxPacketBuffer.packets
    rw [agree.list, List.nil_append, List.map_map, List.map_map]
    exact List.map_congr_left agree.times
  have numbers := congrArg (List.map BitVec.toNat) times
  rw [List.map_map, List.map_map] at numbers
  constructor
  · exact numbers ▸ ordered.rises.pairwise
  · rw [agree.tsLastPacket, ordered.last]
    exact lastTime_congr 1 times.symm

end Agree

/-- Every run whose offsets do not vanish leaves its packets in order. -/
theorem inOrder_of_inTime
    (reachable : (prepareSystem dramCfg).ReachableWhere
      (fun use buffer => use.call.Fits dramCfg buffer ∧ use.call.InTime dramCfg buffer) buffer) :
    InOrder buffer := by
  have agrees : ∃ mirror, Agree [] buffer mirror ∧ Ordered mirror := by
    refine reachable.invariant (motive := fun buffer => ∃ mirror, Agree [] buffer mirror ∧
      Ordered mirror) ?_ ?_
    · intro buffer starts
      have agree := buffer.agree_mirror
      rw [starts.1] at agree
      exact ⟨buffer.mirror, agree, buffer.sound_mirror, rising_nil 1, starts.2⟩
    · intro use buffer next _ met taken agrees
      obtain ⟨mirror, agree, ordered⟩ := agrees
      exact agree_step dramCfg agree ordered met.1 met.2 taken
  obtain ⟨mirror, agree, ordered⟩ := agrees
  exact inOrder_of_agree agree ordered

end Runs

instance (dramCfg : DramFreqCfg) (buffer : TxPacketBuffer) (call : SequenceCall) :
    Decidable (call.Fits dramCfg buffer) :=
  match call with
  | .wrfifo .. | .rddq .. | .rdfifo .. => inferInstanceAs (Decidable (_ < _))
  | .wrlvl => inferInstanceAs (Decidable True)
  | .cbt .. => inferInstanceAs (Decidable (_ < _))

instance (dramCfg : DramFreqCfg) (buffer : TxPacketBuffer) (call : SequenceCall) :
    Decidable (call.InTime dramCfg buffer) :=
  match call with
  | .wrfifo .. => inferInstanceAs (Decidable (_ ≠ _))
  | .rddq .. | .rdfifo .. => inferInstanceAs (Decidable (_ < _))
  | .wrlvl => inferInstanceAs (Decidable True)
  | .cbt .. => inferInstanceAs (Decidable (_ ∧ _))

instance (dramCfg : DramFreqCfg) (buffer : TxPacketBuffer) (call : BuilderCall) :
    Decidable (call.Fits dramCfg buffer) :=
  match call with
  | .mrwUpdate _ => inferInstanceAs (Decidable (_ < _))
  | .sequence call => inferInstanceAs (Decidable (call.Fits dramCfg buffer))

instance (dramCfg : DramFreqCfg) (buffer : TxPacketBuffer) (call : BuilderCall) :
    Decidable (call.InTime dramCfg buffer) :=
  match call with
  | .mrwUpdate _ => inferInstanceAs (Decidable (_ ≠ _))
  | .sequence call => inferInstanceAs (Decidable (call.InTime dramCfg buffer))

/-- A write FIFO sequence and two reads of it. -/
def writeAndReads : List BufferUse :=
  [.build (.sequence (.wrfifo .bl16 .cs0 4 fun _ => BitVec.ofNat 8)), .rdfifo .bl16 .cs0 4,
    .rdfifo .bl16 .cs0 4]

theorem exists_writeAndReads :
    ((prepareSystem (plainCfg .ratio1to2)).execWhere (fun use buffer =>
      use.call.Fits (plainCfg .ratio1to2) buffer ∧ use.call.InTime (plainCfg .ratio1to2) buffer)
      writeAndReads heapBuffer).isSome := by
  decide +kernel

theorem inOrder_writeAndReads :
    InOrder (((prepareSystem (plainCfg .ratio1to2)).execWhere (fun use buffer =>
      use.call.Fits (plainCfg .ratio1to2) buffer ∧ use.call.InTime (plainCfg .ratio1to2) buffer)
      writeAndReads heapBuffer).get exists_writeAndReads) :=
  inOrder_of_inTime (plainCfg .ratio1to2) (TransitionSystem.ReachableWhere.execWhere
    (.initial ⟨rfl, rfl⟩) (Option.some_get exists_writeAndReads).symm)

/-- An offset of 250 cycles: the 256 cycles until the data are cut to none. -/
theorem not_inOrder :
    ¬ ∀ (dramCfg : DramFreqCfg) (buffer : TxPacketBuffer), 1 ≤ dramCfg.phyWrLat.toNat →
      1 ≤ dramCfg.phyRdEn.toNat →
      (prepareSystem dramCfg).ReachableWhere
        (fun use buffer => use.call.Fits dramCfg buffer) buffer →
      InOrder buffer := by
  intro all
  have check : (match (prepareSystem (plainCfg .ratio1to1)).execWhere
      (fun use buffer => use.call.Fits (plainCfg .ratio1to1) buffer)
      [.build (.sequence (.rddq .bl16 .cs0 250))] heapBuffer with
      | some buffer => decide ((buffer.packets.map (·.time.toNat)).Pairwise (· < ·))
      | none => true) = false := by
    decide +kernel
  split at check
  · rename_i buffer ran
    have reachable : (prepareSystem (plainCfg .ratio1to1)).ReachableWhere
        (fun use buffer => use.call.Fits (plainCfg .ratio1to1) buffer) buffer :=
      TransitionSystem.ReachableWhere.execWhere (.initial ⟨rfl, rfl⟩) ran
    have inOrder := all _ buffer (by decide) (by decide) reachable
    exact of_decide_eq_false check inOrder.increasing
  · cases check

end WavLpddr
