import WavLpddr.DramCycles
import WavLpddr.SequenceBuilders

/-!
# The phases that the packets of a sequence use

At a ratio of 1:1 a packet has two phases, at 1:2 four.  The builders leave the phases
beyond these alone, apart from write leveling, which fills four phases whatever the
ratio is.
-/

namespace WavLpddr

open Attempts PacketGroupInfo TxPacketBuffer

/-- No data, chip select or address from some phase on. -/
def DfiTxPacket.QuietFrom (phases : Nat) (packet : DfiTxPacket) : Prop :=
  ∀ phase, phases ≤ phase → packet.data phase = DfiTxPacket.zero.data phase ∧
    (packet.ca phase).cs = 0 ∧ (packet.ca phase).address = 0

section Quiet

variable {phases : Nat} {packet : DfiTxPacket}

theorem quiet_ckPacket (phases : Nat) (time : BitVec 16) : (ckPacket time).QuietFrom phases :=
  fun phase _ => ⟨rfl, idle_ckPacket time phase⟩

theorem quiet_ckePacket (phases : Nat) (time : BitVec 16) : (ckePacket time).QuietFrom phases :=
  fun phase _ => ⟨rfl, idle_ckePacket time phase⟩

/-- Changing phases below leaves a packet quiet. -/
theorem DfiTxPacket.QuietFrom.updateCa {phase : Nat} (quiet : packet.QuietFrom phases)
    (below : phase < phases) (update : TxCaPhase → TxCaPhase) :
    (packet.updateCa phase update).QuietFrom phases := by
  intro other after
  have apart : other ≠ phase := by omega
  rw [DfiTxPacket.updateCa]
  dsimp only
  rw [Function.update_of_ne apart]
  exact quiet other after

theorem DfiTxPacket.QuietFrom.updateData {phase : Nat} (quiet : packet.QuietFrom phases)
    (below : phase < phases) (update : TxDataPhase → TxDataPhase) :
    (packet.updateData phase update).QuietFrom phases := by
  intro other after
  have apart : other ≠ phase := by omega
  rw [DfiTxPacket.updateData]
  dsimp only
  rw [Function.update_of_ne apart]
  exact quiet other after

theorem DfiTxPacket.QuietFrom.fillFrame {phase : Nat} (quiet : packet.QuietFrom phases)
    (below : phase + 1 < phases) (frame : CommandFrame) :
    (packet.fillFrame phase frame).QuietFrom phases := by
  unfold DfiTxPacket.fillFrame
  exact (quiet.updateCa (Nat.lt_of_succ_lt below) _).updateCa below _

/-- The bits of a mask before it is shifted. -/
theorem baseMask_bits : ∀ count ≤ 4, ∀ bit < 2,
    ((((1 : Word) <<< BitVec.ofNat 16 count - 1).setWidth 8 : BitVec 8).setWidth 32).getLsbD bit =
      decide (bit < count) := by
  decide +kernel

/-- A fill function reaches only the cycles of the packet. -/
theorem getLsbD_mask_lt {cyclesPerPacket : BitVec 8} (few : cyclesPerPacket.toNat ≤ 4)
    (groupInfo : PacketGroupInfo) {cycle : Nat} (compiled : cycle ∈ compiledCycles)
    (selected : (groupInfo.determineGroupMask cyclesPerPacket dataPhasePerCycShft).1.getLsbD
      cycle = true) : cycle < cyclesPerPacket.toNat := by
  have inPacket : cycle < 2 := by
    rcases List.mem_pair.mp compiled with rfl | rfl <;> decide
  have widened : (cyclesPerPacket.setWidth 16).toNat = cyclesPerPacket.toNat := by
    have := cyclesPerPacket.isLt
    rw [BitVec.toNat_setWidth, Nat.mod_eq_of_lt (by omega)]
  have clipped : (if cyclesPerPacket.setWidth 16 < groupInfo.phaseRemaining >>> dataPhasePerCycShft
      then cyclesPerPacket.setWidth 16
      else groupInfo.phaseRemaining >>> dataPhasePerCycShft).toNat ≤ cyclesPerPacket.toNat := by
    split
    · exact widened.le
    · rename_i noMore
      rw [BitVec.not_lt, BitVec.le_def, widened] at noMore
      exact noMore
  unfold determineGroupMask at selected
  rw [BitVec.getLsbD_and, Bool.and_eq_true] at selected
  have base := baseMask_bits _ (clipped.trans few) cycle inPacket
  rw [BitVec.ofNat_toNat, BitVec.setWidth_eq] at base
  exact (of_decide_eq_true (base.symm.trans selected.2)).trans_le clipped

theorem DfiTxPacket.QuietFrom.fillPacket {cyclesPerPacket : BitVec 8}
    (few : cyclesPerPacket.toNat ≤ 4) (quiet : packet.QuietFrom (2 * cyclesPerPacket.toNat))
    {put : Nat → BitVec 16 → DfiTxPacket → DfiTxPacket}
    {update : BitVec 16 → Nat → TxDataPhase → TxDataPhase}
    (puts : ∀ cycle offset, put cycle offset = putPhases (update offset) cycle)
    (phaseLength : BitVec 16) (groupInfo : PacketGroupInfo) :
    (PacketGroupInfo.fillPacket put cyclesPerPacket phaseLength packet groupInfo).1.QuietFrom
      (2 * cyclesPerPacket.toNat) := by
  apply fillPacket_keeps _ quiet
  intro cycle compiled selected offset packet quiet
  have below := getLsbD_mask_lt few groupInfo compiled selected
  rw [puts]
  exact (quiet.updateData (by omega) _).updateData (by omega) _

end Quiet

namespace TxPacketBuffer

/-- Only packets that satisfy a predicate were appended. -/
def Extends (good : DfiTxPacket → Prop) (before after : TxPacketBuffer) : Prop :=
  ∃ asked new, Appends before after asked new ∧ ∀ packet ∈ new, good packet

section Extends

variable {good : DfiTxPacket → Prop} {before middle after : TxPacketBuffer}

theorem Extends.trans (first : Extends good before middle) (second : Extends good middle after) :
    Extends good before after := by
  obtain ⟨asked, new, appended, allGood⟩ := first
  obtain ⟨more, later, appendedMore, laterGood⟩ := second
  refine ⟨_, _, appended.trans appendedMore, fun packet listed => ?_⟩
  exact (List.mem_append.mp listed).elim (allGood packet) (laterGood packet)

theorem Extends.sound (extended : Extends good before after) : after.Sound := by
  obtain ⟨asked, new, appended, -⟩ := extended
  exact appended.sound

theorem Attempted.extends {packets : List DfiTxPacket}
    (attempted : Attempted before after packets) (allGood : ∀ packet ∈ packets, good packet) :
    Extends good before after :=
  ⟨_, _, attempted, fun packet listed => allGood packet (List.mem_of_mem_take listed)⟩

theorem Attempted.extends_single {packet : DfiTxPacket}
    (attempted : Attempted before after [packet]) (isGood : good packet) :
    Extends good before after :=
  attempted.extends fun _ listed => (List.mem_singleton.mp listed) ▸ isGood

/-- The packets of a builder that ends with a CKE packet. -/
theorem Plan.Prepares.extends {plan : Plan} {result : WddrReturn}
    (prepares : plan.Prepares before result after) (cke : ∀ time, good (ckePacket time))
    (frames : ∀ packet ∈ plan.frames, good packet)
    (turns : ∀ time, ∀ packet ∈ plan.turns time, good packet) : Extends good before after := by
  have followed : ∀ {commanded delayed looped}, plan.Followed before commanded delayed looped →
      Extends good before looped := by
    intro commanded delayed looped followed
    have gap : ∀ packet ∈ gapPackets (plan.offset commanded.tsLastPacket)
        commanded.tsLastPacket, good packet := by
      intro packet listed
      unfold gapPackets at listed
      split at listed
      · exact List.mem_singleton.mp listed ▸ cke _
      · exact absurd listed List.not_mem_nil
    exact ((followed.frames.extends frames).trans (followed.gap.extends gap)).trans
      (followed.turns.extends (turns _))
  cases prepares with
  | refused isFollowed stopped => exact followed isFollowed
  | succeeds isFollowed completes ended =>
      exact (followed isFollowed).trans (ended.extends_single (cke _))

/-- The packets of command bus training. -/
theorem CbtPrepares.extends {dramCfg : DramFreqCfg} {cs : Chipselect}
    {vrefSetting commandAddress : BitVec 8} {result : WddrReturn}
    (prepares : CbtPrepares dramCfg cs vrefSetting commandAddress before result after)
    (ck : ∀ time, good (ckPacket time))
    (turns : ∀ tsLastPacket time,
      ∀ packet ∈ cbtTurns dramCfg cs vrefSetting tsLastPacket time, good packet)
    (pattern : ∀ time, good (cbtPatternPacket cs commandAddress time)) :
    Extends good before after := by
  have filled : ∀ {started looped}, CbtFilled dramCfg cs vrefSetting before started looped →
      Extends good before looped := fun filled =>
    (filled.first.extends_single (ck _)).trans (filled.turns.extends (turns _ _))
  cases prepares with
  | refused isFilled stopped => exact filled isFilled
  | unsent isFilled completes hold refused unsent =>
      exact ((filled isFilled).trans (hold.extends_single (ck _))).trans
        ⟨_, _, unsent, fun _ listed => absurd listed List.not_mem_nil⟩
  | succeeds isFilled completes hold allocated sent ended last =>
      have held := (filled isFilled).trans (hold.extends_single (ck _))
      have sentPattern := held.trans
        ⟨_, _, sent, fun packet listed => List.mem_singleton.mp listed ▸ pattern _⟩
      exact (sentPattern.trans (ended.extends_single (ck _))).trans (last.extends_single (ck _))

end Extends

end TxPacketBuffer

section Builders

open TxPacketBuffer

variable (ratio : WddrFreqRatio)

theorem quiet_addressPacket (command : Nat → CommandFrame) (phaseOffset : Nat)
    (time : BitVec 16) :
    (addressPacket ratio command phaseOffset time).QuietFrom (2 * ratio.cycles) := by
  have positive := ratio.cycles_pos
  have quiet := quiet_ckePacket (2 * ratio.cycles) time
  unfold addressPacket DfiTxPacket.fillFrames
  split
  · rename_i half
    subst half
    exact (quiet.fillFrame (by decide) _).fillFrame (by decide) _
  · exact quiet.fillFrame (by omega) _

theorem quiet_addressPackets (command : Nat → CommandFrame) (remaining phaseOffset : Nat)
    (time : BitVec 16) :
    ∀ packet ∈ addressPackets ratio command remaining phaseOffset time,
      packet.QuietFrom (2 * ratio.cycles) := by
  induction remaining generalizing phaseOffset time with
  | zero => exact fun packet listed => absurd listed List.not_mem_nil
  | succ remaining inductionHypothesis =>
      intro packet listed
      rcases List.mem_cons.mp listed with rfl | later
      · exact quiet_addressPacket ratio command phaseOffset time
      · exact inductionHypothesis _ _ packet later

variable {ratio} {packet : DfiTxPacket}

theorem DfiTxPacket.QuietFrom.fillGroup (quiet : packet.QuietFrom (2 * ratio.cycles))
    (put : Nat → BitVec 16 → DfiTxPacket → DfiTxPacket)
    {update : BitVec 16 → Nat → TxDataPhase → TxDataPhase}
    (puts : ∀ cycle offset, put cycle offset = putPhases (update offset) cycle)
    (phaseLength : BitVec 16) (groupInfo : PacketGroupInfo) :
    (PacketGroupInfo.fillPacket put ratio.cyclesPerPacket phaseLength packet groupInfo).1.QuietFrom
      (2 * ratio.cycles) := by
  rw [← toNat_cyclesPerPacket] at quiet ⊢
  exact quiet.fillPacket ratio.cyclesPerPacket_le puts phaseLength groupInfo

theorem DfiTxPacket.QuietFrom.fillGroup_when (quiet : packet.QuietFrom (2 * ratio.cycles))
    (put : Nat → BitVec 16 → DfiTxPacket → DfiTxPacket)
    {update : BitVec 16 → Nat → TxDataPhase → TxDataPhase}
    (puts : ∀ cycle offset, put cycle offset = putPhases (update offset) cycle)
    (phaseLength : BitVec 16) (groupInfo : PacketGroupInfo) :
    (if groupInfo.dfiTsStart ≤ packet.time then
      PacketGroupInfo.fillPacket put ratio.cyclesPerPacket phaseLength packet groupInfo
    else (packet, groupInfo)).1.QuietFrom (2 * ratio.cycles) := by
  split
  · exact quiet.fillGroup put puts phaseLength groupInfo
  · exact quiet

theorem quiet_cbtPatternPacket (ratio : WddrFreqRatio) (cs : Chipselect)
    (commandAddress : BitVec 8) (time : BitVec 16) :
    (cbtPatternPacket cs commandAddress time).QuietFrom (2 * ratio.cycles) := by
  have positive := ratio.cycles_pos
  exact (quiet_ckPacket _ time).fillFrame (by omega) _

variable (dramCfg : DramFreqCfg)

theorem quiet_wrfifoPlan (burstLength : BurstLength) (cs : Chipselect)
    (wrdataEnOffset : BitVec 16) (data : CommandData) (tsLastPacket time : BitVec 16) :
    ∀ packet ∈ (wrfifoPlan dramCfg burstLength cs wrdataEnOffset data tsLastPacket).turns time,
      packet.QuietFrom (2 * dramCfg.ratio.cycles) := by
  apply forall_loopTrace
  intro time groups
  have enabled := (quiet_ckePacket (2 * dramCfg.ratio.cycles) time).fillGroup_when putWrdataEn
    (fun _ _ => rfl) 0 groups.1
  exact enabled.fillGroup_when (putWrdata cs data) (fun _ _ => rfl) burstLength.phases groups.2

theorem quiet_readPlan (burstLength : BurstLength) (cs : Chipselect)
    (rddataEnOffset : BitVec 16) (command : Nat → CommandFrame) (tsLastPacket time : BitVec 16) :
    ∀ packet ∈ (readPlan dramCfg burstLength cs rddataEnOffset command tsLastPacket).turns time,
      packet.QuietFrom (2 * dramCfg.ratio.cycles) := by
  apply forall_loopTrace
  intro time group
  exact (quiet_ckePacket (2 * dramCfg.ratio.cycles) time).fillGroup (putRddata cs)
    (fun _ _ => rfl) 0 group

theorem quiet_cbtTurns (cs : Chipselect) (vrefSetting : BitVec 8)
    (tsLastPacket time : BitVec 16) :
    ∀ packet ∈ cbtTurns dramCfg cs vrefSetting tsLastPacket time,
      packet.QuietFrom (2 * dramCfg.ratio.cycles) := by
  apply forall_loopTrace
  intro time groups
  have filled := (quiet_ckPacket (2 * dramCfg.ratio.cycles) time).fillGroup_when
    (putWrdata cs (cbtData (dramCfg.ratio.cyclesPerPacket <<< 1) vrefSetting)) (fun _ _ => rfl)
    groups.1.phaseRemaining groups.1
  exact filled.fillGroup_when putWrdataEn (fun _ _ => rfl) 0 groups.2

theorem extends_createCke {buffer : TxPacketBuffer} (timeOffset : BitVec 16)
    (sound : buffer.Sound) (phases : Nat) :
    Extends (·.QuietFrom phases) buffer (buffer.createCkePacketSequence timeOffset).2 :=
  (creates_createCkePacketSequence.attempted timeOffset sound).extends_single
    (quiet_ckePacket phases _)

/-- The packets of the mode-register update. -/
theorem extends_dramPrepareMrwUpdate (ratio : WddrFreqRatio) (newCfg : DramFreqCfg)
    {buffer : TxPacketBuffer} (sound : buffer.Sound) :
    Extends (·.QuietFrom (2 * ratio.cycles)) buffer
      (buffer.dramPrepareMrwUpdate ratio newCfg) := by
  have folds : ∀ {Index : Type} {body : TxPacketBuffer → Index → TxPacketBuffer}
      (indices : List Index) {buffer : TxPacketBuffer}, buffer.Sound →
      (∀ index {buffer : TxPacketBuffer}, buffer.Sound →
        Extends (·.QuietFrom (2 * ratio.cycles)) buffer (body buffer index)) →
      Extends (·.QuietFrom (2 * ratio.cycles)) buffer (indices.foldl body buffer) := by
    intro Index body indices buffer sound step
    induction indices generalizing buffer with
    | nil => exact ⟨0, [], .refl sound, fun _ listed => absurd listed List.not_mem_nil⟩
    | cons index rest inductionHypothesis =>
        exact (step index sound).trans (inductionHypothesis (step index sound).sound)
  have first := extends_createCke 1 sound (2 * ratio.cycles)
  refine first.trans (folds _ first.sound fun rank _ sound => folds _ sound ?_)
  intro update buffer sound
  have command := (attempted_dramCreateAddressPackets ratio
    (createWriteModeRegisterCommand rank update.1 update.2.1)
    (maxCommandFrames >>> ratio.shift) 0 update.2.2 sound).extends
      (quiet_addressPackets ratio _ _ 0 _)
  exact command.trans (extends_createCke 1 command.sound _)

end Builders

section Leveling

open TxPacketBuffer

variable (dramCfg : DramFreqCfg)

/-- The packet of write leveling: the enable is set in four phases. -/
def wrlvlPacket (time : BitVec 16) : DfiTxPacket :=
  { ckePacket time with
    data := fun phase =>
      if phase < 4 then { DfiTxPacket.zero.data phase with wrdataEn := 1 }
      else DfiTxPacket.zero.data phase }

theorem wrlvlGroup_eq (supported : dramCfg.ratio.Supported) (tsLastPacket : BitVec 16) :
    wrlvlGroup dramCfg tsLastPacket =
      ⟨(wrlvlGroup dramCfg tsLastPacket).dfiTsStart, 0, 4⟩ := by
  have aligned : ((tsLastPacket + 1) <<< dramCfg.ratio.shift &&&
      (1 <<< dramCfg.ratio.shift - 1 : BitVec 16)) = 0 := by
    apply BitVec.eq_of_toNat_eq
    rcases supported with ratio | ratio <;> rw [ratio]
    · exact congrArg BitVec.toNat (BitVec.and_zero)
    · change ((tsLastPacket + 1) <<< 1 &&& 1).toNat = 0
      rw [BitVec.toNat_and, BitVec.toNat_shiftLeft]
      change _ &&& 1 = 0
      rw [Nat.and_one_is_mod, Nat.shiftLeft_eq]
      omega
  unfold wrlvlGroup createPacketGroupInfo
  rw [aligned]

/-- All phases of the enable are filled into one packet. -/
theorem fill_wrlvl (dfiTsStart time : BitVec 16) :
    fillWrdataEnPacket 4 (ckePacket time) ⟨dfiTsStart, 0, 4⟩ =
      (wrlvlPacket time, ⟨dfiTsStart, 0, 0⟩) := by
  have mask : (determineGroupMask ⟨dfiTsStart, 0, 4⟩ 4 dataPhasePerCycShft).1 = 3 :=
    (by decide +kernel : (determineGroupMask ⟨0, 0, 4⟩ 4 dataPhasePerCycShft).1 = 3)
  have puts : ∀ cycle offset, putWrdataEn cycle offset =
      putPhases (fun _ phase => { phase with wrdataEn := 1 }) cycle := fun _ _ => rfl
  unfold fillWrdataEnPacket PacketGroupInfo.fillPacket
  dsimp only [compiledCycles]
  rw [List.foldl_cons, List.foldl_cons, List.foldl_nil, mask, fillCycle_eq puts,
    fillCycle_eq puts]
  have first : (3 : Word).getLsbD 0 = true := by decide
  have second : (3 : Word).getLsbD 1 = true := by decide
  have left : (4 - 2 - 2 : BitVec 16) = 0 := by decide
  have zeroData : (ckePacket time).data = DfiTxPacket.zero.data := rfl
  simp only [first, second, and_true, if_true, zeroData]
  refine Prod.ext ?_ (congrArg (PacketGroupInfo.mk dfiTsStart 0) left)
  unfold wrlvlPacket
  dsimp only
  congr 1
  funext phase
  by_cases isSecond : phase / 2 = 1
  · have notFirst : ¬ phase / 2 = 0 := by omega
    have inside : phase < 4 := by omega
    simp only [if_pos isSecond, if_neg notFirst, if_pos inside]
  · by_cases isFirst : phase / 2 = 0
    · have inside : phase < 4 := by omega
      simp only [if_neg isSecond, if_pos isFirst, if_pos inside]
    · have outside : ¬ phase < 4 := by omega
      simp only [if_neg isSecond, if_neg isFirst, if_neg outside]

/-- The loop of write leveling takes one turn. -/
theorem wrlvlPlan_turns (supported : dramCfg.ratio.Supported) (tsLastPacket time : BitVec 16) :
    (wrlvlPlan dramCfg tsLastPacket).turns time = [wrlvlPacket time] := by
  have fuel : loopFuel = (2 ^ 26 - 1) + 1 := rfl
  change (loopTrace ckePacket (fillWrdataEnPacket 4) (·.phaseRemaining ≠ 0) loopFuel time
    (wrlvlGroup dramCfg tsLastPacket)).1 = _
  rw [wrlvlGroup_eq dramCfg supported, fuel, loopTrace, fill_wrlvl]
  rfl

/-- Nothing is attempted before the loop of write leveling. -/
theorem wrlvlPlan_followed (supported : dramCfg.ratio.Supported)
    {before commanded delayed looped : TxPacketBuffer}
    (followed : (wrlvlPlan dramCfg before.tsLastPacket).Followed before commanded delayed
      looped) : Attempted before looped [wrlvlPacket (1 + before.tsLastPacket)] := by
  have frames : Appends before commanded 0 [] := followed.frames
  have gap : Appends commanded delayed 0 [] := followed.gap
  have start := frames.trans gap
  have sameFails : delayed.fails = before.fails := by
    funext further
    rw [start.fails, Nat.zero_add]
  have sameTime : delayed.tsLastPacket = before.tsLastPacket := start.tsLastPacket
  have turns : Attempted delayed looped
      ((wrlvlPlan dramCfg before.tsLastPacket).turns (1 + delayed.tsLastPacket)) := followed.turns
  rw [wrlvlPlan_turns dramCfg supported, sameTime, Attempted, sameFails] at turns
  have both := start.trans turns
  rwa [Nat.zero_add] at both

/-- What write leveling appends. -/
theorem wrlvl_appends (supported : dramCfg.ratio.Supported) {before after : TxPacketBuffer}
    {result : WddrReturn}
    (prepares : (wrlvlPlan dramCfg before.tsLastPacket).Prepares before result after) :
    ∃ asked rest, (∀ packet ∈ rest, ∃ time, packet = ckePacket time) ∧
      Appends before after asked
        ((if before.fails 0 then [] else [wrlvlPacket (1 + before.tsLastPacket)]) ++ rest) := by
  have first : ∀ {looped}, Attempted before looped [wrlvlPacket (1 + before.tsLastPacket)] →
      Appends before looped 1
        (if before.fails 0 then [] else [wrlvlPacket (1 + before.tsLastPacket)]) := by
    intro looped attempted
    rw [Attempted, List.length_singleton, asked_of_le_one (Nat.le_refl 1)] at attempted
    cases failed : before.fails 0 <;> simpa [granted, failed] using attempted
  cases prepares with
  | refused followed stopped =>
      refine ⟨1, [], fun _ listed => absurd listed List.not_mem_nil, ?_⟩
      rw [List.append_nil]
      exact first (wrlvlPlan_followed dramCfg supported followed)
  | @succeeds commanded delayed looped after followed completes ended =>
      refine ⟨_, _, fun packet listed => ?_,
        (first (wrlvlPlan_followed dramCfg supported followed)).trans ended⟩
      exact ⟨_, List.mem_singleton.mp (List.mem_of_mem_take listed)⟩

/-- The enable of write leveling at a ratio of 1:2. -/
theorem phasesWhere_wrlvl (time : BitVec 16) {rest : List DfiTxPacket}
    (plain : ∀ packet ∈ rest, ∃ time, packet = ckePacket time) :
    phasesWhere .ratio1to2 (·.wrdataEn = 1) (wrlvlPacket time :: rest) =
      List.Ico (2 * (time.toNat * 2)) (2 * (time.toNat * 2 + 2)) := by
  have unselected : selectPhases .ratio1to2 (·.wrdataEn = 1) rest = [] := by
    apply selectPhases_eq_nil
    intro packet listed phase
    obtain ⟨time, rfl⟩ := plain packet listed
    rfl
  have enabled : ∀ phase < 4, ((wrlvlPacket time).data phase).wrdataEn = 1 := by
    intro phase inside
    change (if phase < 4 then _ else _ : TxDataPhase).wrdataEn = 1
    rw [if_pos inside]
  have all : selectPhases .ratio1to2 (·.wrdataEn = 1) [wrlvlPacket time] =
      (wrlvlPacket time).dataStream .ratio1to2 := by
    rw [selectPhases, dataStream, List.flatMap_singleton, List.filter_eq_self]
    intro entry inPacket
    obtain ⟨phase, inRange, rfl⟩ := List.mem_map.mp inPacket
    exact decide_eq_true (enabled phase (List.mem_range.mp inRange))
  have whole := Intervals.block_eq_map 4 time.toNat
  rw [phasesWhere, ← List.singleton_append, selectPhases_append, unselected, List.append_nil, all,
    DfiTxPacket.dataStream, List.map_map]
  refine whole.symm.trans ?_
  rw [Intervals.block]
  congr 1 <;> omega

end Leveling

/-- What the packets of a call do: they use no more phases than the ratio has, and write
leveling sets its enable for two DRAM cycles, from the DFI cycle after the last packet on. -/
structure UsesPhases (ratio : WddrFreqRatio) (call : BuilderCall)
    (before after : TxPacketBuffer) : Prop where
  quiet : ∀ packet ∈ after.packets.drop before.list.length, packet.QuietFrom (2 * ratio.cycles)
  leveled : call = .sequence .wrlvl →
    phasesWhere ratio (·.wrdataEn = 1) (after.packets.drop before.list.length) =
      List.Ico (2 * ((1 + before.tsLastPacket).toNat * ratio.cycles))
        (2 * ((1 + before.tsLastPacket).toNat * ratio.cycles + 2))

section Calls

open TxPacketBuffer

variable (dramCfg : DramFreqCfg) {buffer : TxPacketBuffer} (sound : buffer.Sound)
include sound

/-- The other builders use only the phases of the ratio. -/
theorem quiet_run {call : SequenceCall} (other : call ≠ .wrlvl) :
    ∃ result after, call.run dramCfg buffer = .ok (result, after) ∧
      Extends (·.QuietFrom (2 * dramCfg.ratio.cycles)) buffer after := by
  have cke := quiet_ckePacket (2 * dramCfg.ratio.cycles)
  have frames := fun command => quiet_addressPackets dramCfg.ratio command
    (maxCommandFrames >>> dramCfg.ratio.shift) 0 (1 + buffer.tsLastPacket)
  cases call with
  | wrfifo burstLength cs wrdataEnOffset data =>
      obtain ⟨result, after, prepares, ran⟩ :=
        prepares_wrfifo dramCfg burstLength cs wrdataEnOffset data sound
      exact ⟨result, after, ran, prepares.extends cke (frames _)
        (quiet_wrfifoPlan dramCfg burstLength cs wrdataEnOffset data _)⟩
  | rddq burstLength cs rddataEnOffset =>
      obtain ⟨result, after, prepares, ran⟩ :=
        prepares_read dramCfg burstLength cs rddataEnOffset (createRddqCommand cs) sound
      exact ⟨result, after, ran, prepares.extends cke (frames _)
        (quiet_readPlan dramCfg burstLength cs rddataEnOffset _ _)⟩
  | rdfifo burstLength cs rddataEnOffset =>
      obtain ⟨result, after, prepares, ran⟩ :=
        prepares_read dramCfg burstLength cs rddataEnOffset (createRdfifoCommand cs) sound
      exact ⟨result, after, ran, prepares.extends cke (frames _)
        (quiet_readPlan dramCfg burstLength cs rddataEnOffset _ _)⟩
  | wrlvl => exact absurd rfl other
  | cbt cs vrefSetting commandAddress =>
      obtain ⟨result, after, prepares, ran⟩ :=
        prepares_cbt dramCfg cs vrefSetting commandAddress sound
      exact ⟨result, after, ran, prepares.extends (quiet_ckPacket _)
        (quiet_cbtTurns dramCfg cs vrefSetting)
        (quiet_cbtPatternPacket dramCfg.ratio cs commandAddress)⟩

omit sound in
/-- Write leveling keeps to the phases and the cycles exactly at a ratio of 1:2, if it gets its
packet. -/
theorem usesPhases_wrlvl_iff (supported : dramCfg.ratio.Supported) {after : TxPacketBuffer}
    {result : WddrReturn}
    (prepares : (wrlvlPlan dramCfg buffer.tsLastPacket).Prepares buffer result after) :
    UsesPhases dramCfg.ratio (.sequence .wrlvl) buffer after ↔
      dramCfg.ratio = .ratio1to2 ∧ buffer.fails 0 = false := by
  obtain ⟨asked, rest, plain, appends⟩ := wrlvl_appends dramCfg supported prepares
  have new := appends.drop_packets
  have unselected : ∀ ratio, phasesWhere ratio (·.wrdataEn = 1) rest = [] := by
    intro ratio
    rw [phasesWhere, selectPhases_eq_nil, List.map_nil]
    intro packet listed phase
    obtain ⟨time, rfl⟩ := plain packet listed
    rfl
  constructor
  · intro uses
    have quiet := uses.quiet
    have leveled := uses.leveled rfl
    rw [new] at quiet leveled
    cases failed : buffer.fails 0 with
    | true =>
        rw [failed] at leveled
        have length := congrArg List.length ((unselected dramCfg.ratio).symm.trans leveled)
        rw [List.length_nil, List.Ico.length] at length
        omega
    | false =>
        refine ⟨supported.resolve_left ?_, rfl⟩
        intro single
        have listed : wrlvlPacket (1 + buffer.tsLastPacket) ∈
            (if buffer.fails 0 then [] else [wrlvlPacket (1 + buffer.tsLastPacket)]) ++ rest := by
          simp [failed]
        have second := (quiet _ listed 2 (by rw [single]; decide)).1
        have enabled : (1 : BitVec 1) = 0 := congrArg TxDataPhase.wrdataEn second
        exact absurd enabled (by decide)
  · rintro ⟨half, succeeds⟩
    rw [succeeds] at new
    have new : after.packets.drop buffer.list.length =
        wrlvlPacket (1 + buffer.tsLastPacket) :: rest := new
    refine ⟨?_, fun _ => ?_⟩
    · rw [new, half]
      intro packet listed
      rcases List.mem_cons.mp listed with rfl | later
      · intro phase outside
        exact ⟨if_neg (Nat.not_lt.mpr outside), idle_ckePacket _ phase⟩
      · obtain ⟨time, rfl⟩ := plain packet later
        exact quiet_ckePacket _ time
    · rw [new, half]
      exact phasesWhere_wrlvl _ plain

/-- Over zeroed memory the packets of a call use the phases of the ratio exactly if the call
is not write leveling, or the ratio is 1:2 and its packet is allocated. -/
theorem usesPhases_iff (supported : dramCfg.ratio.Supported) (call : BuilderCall) :
    ∃ after, call.run dramCfg buffer = .ok after ∧
      (UsesPhases dramCfg.ratio call buffer after ↔
        (call = .sequence .wrlvl → dramCfg.ratio = .ratio1to2 ∧ buffer.fails 0 = false)) := by
  have others : ∀ {after}, call ≠ .sequence .wrlvl →
      Extends (·.QuietFrom (2 * dramCfg.ratio.cycles)) buffer after →
        (UsesPhases dramCfg.ratio call buffer after ↔
          (call = .sequence .wrlvl → dramCfg.ratio = .ratio1to2 ∧ buffer.fails 0 = false)) := by
    rintro after other ⟨asked, new, appends, quiet⟩
    refine ⟨fun _ leveling => absurd leveling other, fun _ => ⟨?_, fun leveling =>
      absurd leveling other⟩⟩
    rw [appends.drop_packets]
    exact quiet
  cases call with
  | mrwUpdate newCfg =>
      exact ⟨_, rfl, others (fun same => by cases same)
        (extends_dramPrepareMrwUpdate dramCfg.ratio newCfg sound)⟩
  | sequence call =>
      by_cases leveling : call = .wrlvl
      · subst leveling
        obtain ⟨result, after, prepares, ran⟩ := prepares_wrlvl dramCfg sound
        refine ⟨after, congrArg (Except.map Prod.snd) ran, ?_⟩
        rw [usesPhases_wrlvl_iff dramCfg supported prepares]
        exact ⟨fun uses _ => uses, fun uses => uses rfl⟩
      · obtain ⟨result, after, ran, quiet⟩ := quiet_run dramCfg sound leveling
        refine ⟨after, congrArg (Except.map Prod.snd) ran, others ?_ quiet⟩
        intro same
        exact leveling (BuilderCall.sequence.inj same)

end Calls

/-- A read over the heap at a ratio of 1:1. -/
theorem usesPhases_iff_read :
    ∃ after, (BuilderCall.sequence (.rddq .bl16 .cs0 4)).run (plainCfg .ratio1to1) heapBuffer =
        .ok after ∧
      (UsesPhases .ratio1to1 (.sequence (.rddq .bl16 .cs0 4)) heapBuffer after ↔
        (BuilderCall.sequence (.rddq .bl16 .cs0 4) = .sequence .wrlvl →
          WddrFreqRatio.ratio1to1 = .ratio1to2 ∧ heapBuffer.fails 0 = false)) :=
  usesPhases_iff (plainCfg .ratio1to1) sound_heapBuffer (Or.inl rfl)
    (.sequence (.rddq .bl16 .cs0 4))

/-- At a ratio of 1:1 write leveling sets its enable in phases that do not exist. -/
theorem not_usesPhases_wrlvl :
    ¬ ∀ (dramCfg : DramFreqCfg) (call : BuilderCall) (buffer after : TxPacketBuffer),
      dramCfg.ratio.Supported → buffer.Sound → call.run dramCfg buffer = .ok after →
        UsesPhases dramCfg.ratio call buffer after := by
  intro all
  have check : (match (BuilderCall.sequence .wrlvl).run (plainCfg .ratio1to1) heapBuffer with
      | .ok after => decide ((after.packets.map fun packet =>
          (packet.data 2).wrdataEn) = [1, 0])
      | .error _ => false) = true := by
    decide +kernel
  split at check
  · rename_i after ran
    have enabled := of_decide_eq_true check
    have quiet := (all _ _ _ _ (Or.inl rfl) sound_heapBuffer ran).quiet
    cases packets : after.packets with
    | nil =>
        rw [packets] at enabled
        cases enabled
    | cons packet rest =>
        rw [packets] at enabled quiet
        have second := (quiet packet List.mem_cons_self 2 (by decide)).1
        have set : (packet.data 2).wrdataEn = 1 := (List.cons.inj enabled).1
        rw [second] at set
        exact absurd set (by decide)
  · cases check

end WavLpddr
