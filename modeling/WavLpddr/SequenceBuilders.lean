import WavLpddr.SequenceTermination

/-!
# What a builder attempts

A builder asks for packets in several parts.  Each part stops at its first failure; only
a failure in the loop stops the builder.  The builders that end with a CKE packet
have one shape: the frames of a command, a packet that fills a gap, the loop, and the
last packet.  Command bus training has a shape of its own.
-/

namespace WavLpddr

open Attempts PacketGroupInfo

namespace TxPacketBuffer

instance (buffer : TxPacketBuffer) (packets : List DfiTxPacket) :
    Decidable (AllGranted buffer packets) :=
  inferInstanceAs (Decidable (granted buffer.fails packets.length = packets.length))

theorem Attempted.sound {before after : TxPacketBuffer} {packets : List DfiTxPacket}
    (attempted : Attempted before after packets) : after.Sound :=
  Appends.sound attempted

section Loop

variable {Groups : Type} {fresh : BitVec 16 → DfiTxPacket}
  {fill : DfiTxPacket → Groups → DfiTxPacket × Groups} {again : Groups → Bool}
  {create : BitVec 16 → TxPacketBuffer → Option PacketPtr × TxPacketBuffer}

/-- A loop that ends asks for its packets, and returns an error exactly if one is refused. -/
theorem packetLoop_ends (freshTime : ∀ time, (fresh time).time = time)
    (keepsTime : ∀ packet groups, (fill packet groups).1.time = packet.time)
    (creates : Creates create fresh) (fuel : Nat) (timeOffset : BitVec 16) (groups : Groups)
    {buffer : TxPacketBuffer} (sound : buffer.Sound) {final : Groups}
    (ends : (loopTrace fresh fill again fuel (timeOffset + buffer.tsLastPacket) groups).2 =
      some final) :
    let asks := (loopTrace fresh fill again fuel (timeOffset + buffer.tsLastPacket) groups).1
    ∃ stopped after,
      packetLoop create fill again fuel timeOffset groups buffer =
        .ok (if AllGranted buffer asks then .wddrSuccess else .wddrError, stopped, after) ∧
      Attempted buffer after asks ∧ (AllGranted buffer asks → stopped = final) := by
  intro asks
  obtain ⟨succeeds, refuses⟩ :=
    packetLoop_attempted freshTime keepsTime creates fuel timeOffset groups sound
  by_cases all : AllGranted buffer asks
  · obtain ⟨after, attempted, looped⟩ := succeeds all
    rw [ends] at looped
    exact ⟨final, after, by rw [looped, if_pos all], attempted, fun _ => rfl⟩
  · obtain ⟨stopped, after, attempted, looped⟩ := refuses all
    exact ⟨stopped, after, by rw [looped, if_neg all], attempted, fun granted => absurd granted all⟩

end Loop

/-- The packet that fills a gap. -/
def gapPackets (timeOffset tsLastPacket : BitVec 16) : List DfiTxPacket :=
  if 1 < timeOffset then [ckePacket (1 + tsLastPacket)] else []

/-- The offset that is left after a gap. -/
def gapOffset (timeOffset : BitVec 16) : BitVec 16 :=
  if 1 < timeOffset then timeOffset - 1 else timeOffset

theorem fillGap_fst (timeOffset : BitVec 16) (buffer : TxPacketBuffer) :
    (buffer.fillGap timeOffset).1 = gapOffset timeOffset := by
  unfold fillGap gapOffset
  split <;> rfl

theorem attempted_fillGap (timeOffset : BitVec 16) {buffer : TxPacketBuffer}
    (sound : buffer.Sound) :
    Attempted buffer (buffer.fillGap timeOffset).2
      (gapPackets timeOffset buffer.tsLastPacket) := by
  unfold fillGap gapPackets
  split
  · exact creates_createCkePacketSequence.attempted 1 sound
  · exact Attempted.nil sound

/-- What a builder that ends with a CKE packet asks for: the packets of its command, and,
after a gap that follows from the last timestamp, the packets of its loop from a timestamp
on. -/
structure Plan where
  frames : List DfiTxPacket
  offset : BitVec 16 → BitVec 16
  turns : BitVec 16 → List DfiTxPacket

/-- A builder followed its plan, apart from the packet at the end. -/
structure Plan.Followed (plan : Plan) (before commanded delayed looped : TxPacketBuffer) :
    Prop where
  frames : Attempted before commanded plan.frames
  gap : Attempted commanded delayed
    (gapPackets (plan.offset commanded.tsLastPacket) commanded.tsLastPacket)
  turns : Attempted delayed looped
    (plan.turns (gapOffset (plan.offset commanded.tsLastPacket) + delayed.tsLastPacket))

/-- The loop got all its packets. -/
def Plan.Completes (plan : Plan) (commanded delayed : TxPacketBuffer) : Prop :=
  AllGranted delayed
    (plan.turns (gapOffset (plan.offset commanded.tsLastPacket) + delayed.tsLastPacket))

/-- What a builder makes of its plan: only its loop decides about the result. -/
inductive Plan.Prepares (plan : Plan) (before : TxPacketBuffer) :
    WddrReturn → TxPacketBuffer → Prop
  | succeeds {commanded delayed looped after : TxPacketBuffer}
      (followed : plan.Followed before commanded delayed looped)
      (completes : plan.Completes commanded delayed)
      (ended : Attempted looped after [ckePacket (1 + looped.tsLastPacket)]) :
      Prepares plan before .wddrSuccess after
  | refused {commanded delayed looped : TxPacketBuffer}
      (followed : plan.Followed before commanded delayed looped)
      (stopped : ¬ plan.Completes commanded delayed) : Prepares plan before .wddrError looped

section Prepares

variable {Groups : Type} {fill : DfiTxPacket → Groups → DfiTxPacket × Groups}
  {again : Groups → Bool}

/-- The last two parts of a builder: the loop, and the CKE packet after its success. -/
theorem prepares_of_loop (plan : Plan) {groups : Groups}
    (turns : plan.turns = fun time => (loopTrace ckePacket fill again loopFuel time groups).1)
    (ends : ∀ time, ∃ final,
      (loopTrace ckePacket fill again loopFuel time groups).2 = some final)
    (keepsTime : ∀ packet groups, (fill packet groups).1.time = packet.time)
    {before commanded delayed : TxPacketBuffer} (frames : Attempted before commanded plan.frames)
    (gap : Attempted commanded delayed
      (gapPackets (plan.offset commanded.tsLastPacket) commanded.tsLastPacket)) :
    ∃ result after, plan.Prepares before result after ∧
      (packetLoop createCkePacketSequence fill again loopFuel
          (gapOffset (plan.offset commanded.tsLastPacket)) groups delayed >>=
        fun looped => pure (endWithCke looped)) = Except.ok (result, after) := by
  obtain ⟨final, final_eq⟩ :=
    ends (gapOffset (plan.offset commanded.tsLastPacket) + delayed.tsLastPacket)
  obtain ⟨stopped, looped, looped_eq, attempted, -⟩ := packetLoop_ends time_ckePacket keepsTime
    creates_createCkePacketSequence loopFuel _ groups gap.sound final_eq
  have followed : plan.Followed before commanded delayed looped :=
    ⟨frames, gap, by rw [turns]; exact attempted⟩
  have same : plan.Completes commanded delayed ↔ AllGranted delayed
      (loopTrace ckePacket fill again loopFuel
        (gapOffset (plan.offset commanded.tsLastPacket) + delayed.tsLastPacket) groups).1 := by
    rw [Plan.Completes, turns]
  rw [looped_eq]
  by_cases completes : plan.Completes commanded delayed
  · refine ⟨.wddrSuccess, (looped.createCkePacketSequence 1).2, .succeeds followed completes
      (creates_createCkePacketSequence.attempted 1 attempted.sound), ?_⟩
    rw [if_pos (same.mp completes)]
    rfl
  · refine ⟨.wddrError, looped, .refused followed completes, ?_⟩
    rw [if_neg (mt same.mpr completes)]
    rfl

end Prepares

section Plans

/-- The frames of a command, one DFI cycle after the last packet. -/
def commandPackets (ratio : WddrFreqRatio) (command : Nat → CommandFrame)
    (tsLastPacket : BitVec 16) : List DfiTxPacket :=
  addressPackets ratio command (maxCommandFrames >>> ratio.shift) 0 (1 + tsLastPacket)

theorem attempted_dramCreateAddressPacketSequence (ratio : WddrFreqRatio)
    (command : Nat → CommandFrame) {buffer : TxPacketBuffer} (sound : buffer.Sound) :
    Attempted buffer (buffer.dramCreateAddressPacketSequence ratio command 1).2
      (commandPackets ratio command buffer.tsLastPacket) :=
  attempted_dramCreateAddressPackets ratio command _ 0 1 sound

variable (dramCfg : DramFreqCfg)

def readPlan (burstLength : BurstLength) (cs : Chipselect) (rddataEnOffset : BitVec 16)
    (command : Nat → CommandFrame) (tsLastPacket : BitVec 16) : Plan where
  frames := commandPackets dramCfg.ratio command tsLastPacket
  offset := fun last =>
    (rddataGroup dramCfg tsLastPacket burstLength rddataEnOffset).dfiTsStart - last
  turns := fun time =>
    (loopTrace ckePacket (fillRddataPacket cs dramCfg.ratio.cyclesPerPacket)
      (·.phaseRemaining ≠ 0) loopFuel time
      (rddataGroup dramCfg tsLastPacket burstLength rddataEnOffset)).1

theorem prepares_read (burstLength : BurstLength) (cs : Chipselect)
    (rddataEnOffset : BitVec 16) (command : Nat → CommandFrame) {buffer : TxPacketBuffer}
    (sound : buffer.Sound) :
    ∃ result after,
      (readPlan dramCfg burstLength cs rddataEnOffset command buffer.tsLastPacket).Prepares
        buffer result after ∧
      buffer.dramPrepareReadSequence dramCfg burstLength cs rddataEnOffset command =
        .ok (result, after) := by
  have paired : burstLength.phases.toNat % 2 = 0 := by cases burstLength <;> rfl
  have regular : (rddataGroup dramCfg buffer.tsLastPacket burstLength rddataEnOffset).Regular :=
    regular_createPacketGroupInfo _ _ paired
  have frames := attempted_dramCreateAddressPacketSequence dramCfg.ratio command sound
  have prepared := prepares_of_loop
    (readPlan dramCfg burstLength cs rddataEnOffset command buffer.tsLastPacket) rfl
    (fun time => loopTrace_fillPacket_ends (putRddata cs) dramCfg.ratio.cyclesPerPacket_pos
      dramCfg.ratio.cyclesPerPacket_le 0 time regular)
    (fun packet groups => time_fillPacket (putRddata cs) (fun _ _ _ => rfl) _ 0 packet groups)
    frames (attempted_fillGap _ frames.sound)
  rw [← fillGap_fst] at prepared
  exact prepared

def wrfifoPlan (burstLength : BurstLength) (cs : Chipselect) (wrdataEnOffset : BitVec 16)
    (data : CommandData) (tsLastPacket : BitVec 16) : Plan where
  frames := commandPackets dramCfg.ratio (createWrfifoCommand cs) tsLastPacket
  offset := fun last =>
    (((wrfifoGroups dramCfg tsLastPacket burstLength wrdataEnOffset).1.dfiTsStart -
      last).setWidth 8 : BitVec 8).setWidth 16
  turns := fun time =>
    (loopTrace ckePacket (fillWrfifo dramCfg.ratio.cyclesPerPacket burstLength cs data)
      wrfifoRemains loopFuel time
      (wrfifoGroups dramCfg tsLastPacket burstLength wrdataEnOffset)).1

theorem prepares_wrfifo (burstLength : BurstLength) (cs : Chipselect)
    (wrdataEnOffset : BitVec 16) (data : CommandData) {buffer : TxPacketBuffer}
    (sound : buffer.Sound) :
    ∃ result after,
      (wrfifoPlan dramCfg burstLength cs wrdataEnOffset data buffer.tsLastPacket).Prepares
        buffer result after ∧
      buffer.dramPrepareWrfifoSequence dramCfg burstLength cs wrdataEnOffset data =
        .ok (result, after) := by
  have regular := regular_wrfifoGroups burstLength dramCfg buffer.tsLastPacket wrdataEnOffset
  have frames := attempted_dramCreateAddressPacketSequence dramCfg.ratio
    (createWrfifoCommand cs) sound
  have prepared := prepares_of_loop
    (wrfifoPlan dramCfg burstLength cs wrdataEnOffset data buffer.tsLastPacket) rfl
    (fun time => loopTrace_wrfifo_ends dramCfg.ratio burstLength cs data time regular.1
      regular.2)
    (time_fillWrfifo dramCfg.ratio burstLength cs data)
    frames (attempted_fillGap _ frames.sound)
  rw [← fillGap_fst] at prepared
  exact prepared

def wrlvlGroup (tsLastPacket : BitVec 16) : PacketGroupInfo :=
  createPacketGroupInfo dramCfg.ratio ((tsLastPacket + 1) <<< dramCfg.ratio.shift) 4

/-- Write leveling sends no command and leaves no gap. -/
def wrlvlPlan (tsLastPacket : BitVec 16) : Plan where
  frames := []
  offset := fun _ => 1
  turns := fun time =>
    (loopTrace ckePacket (fillWrdataEnPacket 4) (·.phaseRemaining ≠ 0) loopFuel time
      (wrlvlGroup dramCfg tsLastPacket)).1

theorem prepares_wrlvl {buffer : TxPacketBuffer} (sound : buffer.Sound) :
    ∃ result after,
      (wrlvlPlan dramCfg buffer.tsLastPacket).Prepares buffer result after ∧
      buffer.dramPrepareWrlvlSequence dramCfg = .ok (result, after) := by
  have regular : (wrlvlGroup dramCfg buffer.tsLastPacket).Regular :=
    regular_createPacketGroupInfo _ _ rfl
  exact prepares_of_loop (wrlvlPlan dramCfg buffer.tsLastPacket) rfl
    (fun time => loopTrace_fillPacket_ends putWrdataEn (by decide) (by decide) 0 time regular)
    (fun packet groups => time_fillPacket putWrdataEn (fun _ _ _ => rfl) 4 0 packet groups)
    (Attempted.nil sound) (Attempted.nil sound)

end Plans

section Cbt

variable (dramCfg : DramFreqCfg) (cs : Chipselect) (vrefSetting commandAddress : BitVec 8)

/-- The offset of the loop after a last timestamp, cut to 8 bits. -/
def cbtOffset (tsLastPacket last : BitVec 16) : BitVec 16 :=
  (((cbtGroups dramCfg tsLastPacket).1.dfiTsStart - last).setWidth 8 : BitVec 8).setWidth 16

/-- The packets of the loop of command bus training from a timestamp on. -/
def cbtTurns (tsLastPacket time : BitVec 16) : List DfiTxPacket :=
  (loopTrace ckPacket
    (fillCbt dramCfg.ratio.cyclesPerPacket cs
      (cbtData (dramCfg.ratio.cyclesPerPacket <<< 1) vrefSetting))
    (fun groups => (dramCfg.ratio.cyclesPerPacket <<< 1).setWidth 16 ≤ groups.1.phaseRemaining)
    loopFuel time (cbtGroups dramCfg tsLastPacket)).1

/-- The packet with the CA pattern. -/
def cbtPatternPacket (time : BitVec 16) : DfiTxPacket :=
  (ckPacket time).fillFrame 0 ⟨cs.high, commandAddress⟩

/-- The first packet of command bus training and its loop. -/
structure CbtFilled (before started looped : TxPacketBuffer) : Prop where
  first : Attempted before started [ckPacket (1 + before.tsLastPacket)]
  turns : Attempted started looped (cbtTurns dramCfg cs vrefSetting before.tsLastPacket
    (cbtOffset dramCfg before.tsLastPacket started.tsLastPacket + started.tsLastPacket))

def CbtCompletes (before started : TxPacketBuffer) : Prop :=
  AllGranted started (cbtTurns dramCfg cs vrefSetting before.tsLastPacket
    (cbtOffset dramCfg before.tsLastPacket started.tsLastPacket + started.tsLastPacket))

/-- What command bus training attempts: its loop and the packet with the CA pattern decide
about the result. -/
inductive CbtPrepares (before : TxPacketBuffer) : WddrReturn → TxPacketBuffer → Prop
  | succeeds {started looped held sent next after : TxPacketBuffer}
      (filled : CbtFilled dramCfg cs vrefSetting before started looped)
      (completes : CbtCompletes dramCfg cs vrefSetting before started)
      (hold : Attempted looped held
        [ckPacket ((cbtHoldOffset dramCfg).setWidth 16 + looped.tsLastPacket)])
      (allocated : held.fails 0 = false)
      (pattern : Appends held sent 1 [cbtPatternPacket cs commandAddress
        ((cbtPatternOffset dramCfg).setWidth 16 + held.tsLastPacket)])
      (ended : Attempted sent next [ckPacket (1 + sent.tsLastPacket)])
      (last : Attempted next after [ckPacket (2 + next.tsLastPacket)]) :
      CbtPrepares before .wddrSuccess after
  | unsent {started looped held after : TxPacketBuffer}
      (filled : CbtFilled dramCfg cs vrefSetting before started looped)
      (completes : CbtCompletes dramCfg cs vrefSetting before started)
      (hold : Attempted looped held
        [ckPacket ((cbtHoldOffset dramCfg).setWidth 16 + looped.tsLastPacket)])
      (refused : held.fails 0 = true) (pattern : Appends held after 1 []) :
      CbtPrepares before .wddrError after
  | refused {started looped : TxPacketBuffer}
      (filled : CbtFilled dramCfg cs vrefSetting before started looped)
      (stopped : ¬ CbtCompletes dramCfg cs vrefSetting before started) :
      CbtPrepares before .wddrError looped

/-- The packets after the loop. -/
theorem prepares_endCbt {before started looped : TxPacketBuffer}
    (filled : CbtFilled dramCfg cs vrefSetting before started looped)
    (completes : CbtCompletes dramCfg cs vrefSetting before started) (groups : CbtGroups) :
    ∃ result after,
      CbtPrepares dramCfg cs vrefSetting commandAddress before result after ∧
      endCbt dramCfg cs commandAddress (.wddrSuccess, groups, looped) = (result, after) := by
  have hold := creates_createCkPacketSequence.attempted ((cbtHoldOffset dramCfg).setWidth 16)
    filled.turns.sound
  rcases creates_createCkPacketSequence ((cbtPatternOffset dramCfg).setWidth 16) _ hold.sound with
    ⟨failed, after, refused, appended⟩ | ⟨succeeds, item, after, listed, created⟩
  · refine ⟨.wddrError, after, .unsent filled completes hold failed appended, ?_⟩
    simp only [endCbt, refused]
  · have pattern := created.filled (cbtPatternPacket cs commandAddress _) rfl
    have ended := creates_createCkPacketSequence.attempted 1 pattern.sound
    have last := creates_createCkPacketSequence.attempted 2 ended.sound
    have same : after.updatePacket item (·.fillFrame 0 ⟨cs.high, commandAddress⟩) =
        after.updatePacket item fun _ => cbtPatternPacket cs commandAddress
          ((cbtPatternOffset dramCfg).setWidth 16 +
            (looped.createCkPacketSequence
              ((cbtHoldOffset dramCfg).setWidth 16)).2.tsLastPacket) := by
      simp only [updatePacket, created.contents, cbtPatternPacket]
    refine ⟨.wddrSuccess, _, .succeeds filled completes hold succeeds pattern ended last, ?_⟩
    simp only [endCbt, listed, same]

theorem prepares_cbt {buffer : TxPacketBuffer} (sound : buffer.Sound) :
    ∃ result after,
      CbtPrepares dramCfg cs vrefSetting commandAddress buffer result after ∧
      buffer.dramPrepareCbtSequence dramCfg cs vrefSetting commandAddress =
        .ok (result, after) := by
  have first := creates_createCkPacketSequence.attempted 1 sound
  have regular := regular_cbtGroups dramCfg buffer.tsLastPacket
  obtain ⟨final, ends⟩ := loopTrace_cbt_ends dramCfg.ratio cs
    (cbtData (dramCfg.ratio.cyclesPerPacket <<< 1) vrefSetting)
    (cbtOffset dramCfg buffer.tsLastPacket (buffer.createCkPacketSequence 1).2.tsLastPacket +
      (buffer.createCkPacketSequence 1).2.tsLastPacket) regular.1 regular.2
  obtain ⟨stopped, looped, looped_eq, turns, -⟩ := packetLoop_ends time_ckPacket
    (time_fillCbt dramCfg.ratio cs (cbtData (dramCfg.ratio.cyclesPerPacket <<< 1) vrefSetting))
    creates_createCkPacketSequence loopFuel _ _ first.sound ends
  have filled : CbtFilled dramCfg cs vrefSetting buffer _ looped := ⟨first, turns⟩
  have run : buffer.dramPrepareCbtSequence dramCfg cs vrefSetting commandAddress =
      (do
        let looped ← Except.ok _
        pure (endCbt dramCfg cs commandAddress looped)) :=
    congrArg (· >>= fun looped => pure (endCbt dramCfg cs commandAddress looped)) looped_eq
  rw [run]
  by_cases completes : CbtCompletes dramCfg cs vrefSetting buffer
      (buffer.createCkPacketSequence 1).2
  · obtain ⟨result, after, prepares, ended⟩ :=
      prepares_endCbt dramCfg cs vrefSetting commandAddress filled completes stopped
    refine ⟨result, after, prepares, ?_⟩
    unfold CbtCompletes cbtTurns at completes
    rw [if_pos completes]
    exact congrArg Except.ok ended
  · refine ⟨.wddrError, looped, .refused filled completes, ?_⟩
    unfold CbtCompletes cbtTurns at completes
    rw [if_neg completes]
    rfl

end Cbt

end TxPacketBuffer

/-- Timings of one DRAM clock at a ratio. -/
def plainCfg (ratio : WddrFreqRatio) : DramFreqCfg where
  ratio := ratio
  tVrefCaLong := 1
  mr1 := 0
  mr2 := 0
  mr11 := 0
  mr12 := 0
  mr14 := 0
  phyWrLat := 1
  phyWrEn := 1
  phyRdEn := 1
  tShTrain := 1

end WavLpddr
