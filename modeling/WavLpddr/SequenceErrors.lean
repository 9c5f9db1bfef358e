import WavLpddr.BufferAgreement

/-!
# Whether a builder reports what is missing

A builder checks some of its allocations.  It returns success if none of these fails, so
the success tells that the sequence is complete exactly if the other allocations
succeed, too.
-/

namespace WavLpddr

open Attempts

namespace TxPacketBuffer

/-- Every packet that was asked for in between has been listed. -/
def Complete (before after : TxPacketBuffer) : Prop :=
  after.list.length + before.attempts = before.list.length + after.attempts

/-- The attempts of a call, counted from its first one: those whose result decides about
the result of the call, and those whose result is ignored. -/
structure CallAttempts where
  checked : List Nat
  ignored : List Nat

/-- A checked attempt fails, or none of the ignored ones does. -/
def CallAttempts.Reports (attempts : CallAttempts) (fails : Nat → Bool) : Prop :=
  (∃ attempt ∈ attempts.checked, fails attempt = true) ∨
    ∀ attempt ∈ attempts.ignored, fails attempt = false

section Counts

variable {before after : TxPacketBuffer} {packets : List DfiTxPacket}

theorem Attempted.length_list (attempted : Attempted before after packets) :
    after.list.length = before.list.length + granted before.fails packets.length := by
  rw [Appends.length_list attempted, List.length_take,
    Nat.min_eq_left (granted_le packets.length)]

theorem Attempted.attempts (attempted : Attempted before after packets) :
    after.attempts = before.attempts + asked before.fails packets.length :=
  Appends.attempts attempted

theorem Attempted.fails_eq (attempted : Attempted before after packets) (further : Nat) :
    after.fails further = before.fails (asked before.fails packets.length + further) :=
  Appends.fails attempted further

theorem Attempted.tsLastPacket (attempted : Attempted before after packets) :
    after.tsLastPacket = lastTime before.tsLastPacket
      (packets.take (granted before.fails packets.length)) :=
  Appends.tsLastPacket attempted

end Counts

namespace Plan

variable (plan : Plan) (fails : Nat → Bool) (tsLastPacket : BitVec 16)

/-- The last timestamp after the command. -/
def commandTs : BitVec 16 :=
  lastTime tsLastPacket (plan.frames.take (granted fails plan.frames.length))

/-- How many packets are to fill the gap after the command. -/
def gapLength : Nat :=
  (gapPackets (plan.offset (plan.commandTs fails tsLastPacket))
    (plan.commandTs fails tsLastPacket)).length

/-- The attempts before the loop. -/
def loopStart : Nat :=
  asked fails plan.frames.length + plan.gapLength fails tsLastPacket

/-- The timestamp at which the loop begins. -/
def loopTime : BitVec 16 :=
  let commandTs := plan.commandTs fails tsLastPacket
  let delayed := if plan.gapLength fails tsLastPacket = 0 ∨
      fails (asked fails plan.frames.length) then commandTs else 1 + commandTs
  gapOffset (plan.offset commandTs) + delayed

def loopEnd : Nat :=
  plan.loopStart fails tsLastPacket + (plan.turns (plan.loopTime fails tsLastPacket)).length

/-- Only the attempts of the loop are checked. -/
def callAttempts : CallAttempts where
  checked := List.Ico (plan.loopStart fails tsLastPacket) (plan.loopEnd fails tsLastPacket)
  ignored := List.range (plan.loopStart fails tsLastPacket) ++
    [plan.loopEnd fails tsLastPacket]

theorem length_gapPackets_le (timeOffset tsLastPacket : BitVec 16) :
    (gapPackets timeOffset tsLastPacket).length ≤ 1 := by
  unfold gapPackets
  split
  · exact Nat.le_refl 1
  · exact Nat.zero_le 1

namespace Followed

variable {plan} {before commanded delayed looped : TxPacketBuffer}
  (followed : plan.Followed before commanded delayed looped)
include followed

theorem commandTs_eq : commanded.tsLastPacket = plan.commandTs before.fails before.tsLastPacket :=
  followed.frames.tsLastPacket

theorem length_gap :
    (gapPackets (plan.offset commanded.tsLastPacket) commanded.tsLastPacket).length =
      plan.gapLength before.fails before.tsLastPacket := by
  rw [gapLength, followed.commandTs_eq]

theorem fails_delayed (further : Nat) :
    delayed.fails further =
      before.fails (plan.loopStart before.fails before.tsLastPacket + further) := by
  rw [followed.gap.fails_eq, asked_of_le_one (length_gapPackets_le _ _), followed.length_gap,
    followed.frames.fails_eq, loopStart, Nat.add_assoc]

/-- The loop begins at the timestamp that follows from the refused allocations. -/
theorem loopTime_eq :
    gapOffset (plan.offset commanded.tsLastPacket) + delayed.tsLastPacket =
      plan.loopTime before.fails before.tsLastPacket := by
  have first : commanded.fails 0 = before.fails (asked before.fails plan.frames.length) :=
    followed.frames.fails_eq 0
  have length := followed.length_gap
  rw [loopTime, followed.gap.tsLastPacket, ← first, ← length, ← followed.commandTs_eq]
  congr 1
  unfold gapPackets
  split
  · cases failed : commanded.fails 0 <;> simp [granted, failed]
  · rfl

/-- The attempts before the loop succeed if the command and the gap got their packets. -/
theorem forall_lt_loopStart_iff :
    (∀ attempt < plan.loopStart before.fails before.tsLastPacket,
        before.fails attempt = false) ↔
      AllGranted before plan.frames ∧ AllGranted commanded
        (gapPackets (plan.offset commanded.tsLastPacket) commanded.tsLastPacket) := by
  rw [AllGranted, AllGranted, ← forall_lt_asked_iff, granted_eq_iff, followed.length_gap,
    loopStart]
  constructor
  · intro all
    refine ⟨fun attempt inFrames => all attempt (by omega), fun attempt inGap => ?_⟩
    rw [followed.frames.fails_eq]
    exact all _ (by omega)
  · rintro ⟨frames, gap⟩ attempt inPlan
    by_cases inFrames : attempt < asked before.fails plan.frames.length
    · exact frames attempt inFrames
    · have later := gap (attempt - asked before.fails plan.frames.length) (by omega)
      rwa [followed.frames.fails_eq, Nat.add_sub_cancel' (Nat.not_lt.mp inFrames)] at later

/-- The loop gets all its packets if none of the checked attempts fails. -/
theorem completes_iff :
    plan.Completes commanded delayed ↔
      ∀ attempt ∈ (plan.callAttempts before.fails before.tsLastPacket).checked,
        before.fails attempt = false := by
  rw [Completes, followed.loopTime_eq, AllGranted, granted_eq_iff]
  simp only [callAttempts, List.Ico.mem, loopEnd, followed.fails_delayed]
  constructor
  · rintro all attempt ⟨after, inLoop⟩
    have inside := all (attempt - plan.loopStart before.fails before.tsLastPacket) (by omega)
    rwa [Nat.add_sub_cancel' after] at inside
  · intro all turn inLoop
    exact all _ ⟨by omega, by omega⟩

/-- The sequence is complete if every part got its packets. -/
theorem complete_iff {after : TxPacketBuffer} {last : DfiTxPacket}
    (ended : Attempted looped after [last]) :
    Complete before after ↔
      ((AllGranted before plan.frames ∧ AllGranted commanded
        (gapPackets (plan.offset commanded.tsLastPacket) commanded.tsLastPacket)) ∧
      plan.Completes commanded delayed) ∧ looped.fails 0 = false := by
  have single : looped.fails 0 = false ↔ AllGranted looped [last] := by
    rw [AllGranted, granted_eq_iff]
    simp
  rw [single, Completes, Complete, ended.length_list, ended.attempts,
    followed.turns.length_list, followed.turns.attempts, followed.gap.length_list,
    followed.gap.attempts, followed.frames.length_list, followed.frames.attempts]
  unfold AllGranted
  simp only [← asked_eq_granted_iff]
  have frames : granted before.fails plan.frames.length ≤ asked before.fails _ :=
    granted_le_asked _
  have gap : granted commanded.fails (gapPackets (plan.offset commanded.tsLastPacket)
      commanded.tsLastPacket).length ≤ asked commanded.fails _ := granted_le_asked _
  have turns : granted delayed.fails (plan.turns (gapOffset (plan.offset commanded.tsLastPacket) +
      delayed.tsLastPacket)).length ≤ asked delayed.fails _ := granted_le_asked _
  have atEnd : granted looped.fails [last].length ≤ asked looped.fails _ := granted_le_asked _
  omega

end Followed

/-- What a call returns tells that its sequence is complete. -/
theorem Prepares.complete_iff {plan : Plan} {before after : TxPacketBuffer}
    {result : WddrReturn} (prepares : plan.Prepares before result after) :
    (result = .wddrSuccess → Complete before after) ↔
      (plan.callAttempts before.fails before.tsLastPacket).Reports before.fails := by
  cases prepares with
  | refused followed stopped =>
      have failed := mt followed.completes_iff.mpr stopped
      push Not at failed
      obtain ⟨attempt, checked, fails⟩ := failed
      refine ⟨fun _ => Or.inl ⟨attempt, checked, Bool.eq_true_of_not_eq_false fails⟩, ?_⟩
      exact fun _ isSuccess => absurd isSuccess (by decide)
  | @succeeds commanded delayed looped after followed completes ended =>
      have last : looped.fails 0 =
          before.fails (plan.loopEnd before.fails before.tsLastPacket) := by
        rw [followed.turns.fails_eq, asked_of_granted completes, Nat.add_zero,
          followed.fails_delayed, followed.loopTime_eq]
        rfl
      have none := followed.completes_iff.mp completes
      have reports : (plan.callAttempts before.fails before.tsLastPacket).Reports before.fails ↔
          (∀ attempt < plan.loopStart before.fails before.tsLastPacket,
            before.fails attempt = false) ∧ looped.fails 0 = false := by
        rw [last]
        constructor
        · rintro (⟨attempt, checked, failed⟩ | all)
          · exact absurd (none attempt checked) (by simp [failed])
          · refine ⟨fun attempt early => all attempt ?_, all _ ?_⟩
            · exact List.mem_append_left _ (List.mem_range.mpr early)
            · exact List.mem_append_right _ (List.mem_singleton_self _)
        · rintro ⟨early, atEnd⟩
          refine Or.inr fun attempt ignored => ?_
          rcases List.mem_append.mp ignored with inPlan | isLast
          · exact early attempt (List.mem_range.mp inPlan)
          · exact List.mem_singleton.mp isLast ▸ atEnd
      rw [reports, followed.forall_lt_loopStart_iff, followed.complete_iff ended]
      simp [completes]

end Plan

section Single

variable {before after : TxPacketBuffer} {packet : DfiTxPacket}
  (attempted : Attempted before after [packet])
include attempted

theorem fails_single (further : Nat) : after.fails further = before.fails (1 + further) := by
  rw [attempted.fails_eq, List.length_singleton, asked_of_le_one (Nat.le_refl 1)]

theorem attempts_single : after.attempts = before.attempts + 1 := by
  rw [attempted.attempts, List.length_singleton, asked_of_le_one (Nat.le_refl 1)]

theorem length_list_single :
    after.list.length = before.list.length + if before.fails 0 then 0 else 1 := by
  rw [attempted.length_list]
  rfl

theorem tsLastPacket_single :
    after.tsLastPacket = if before.fails 0 then before.tsLastPacket else packet.time := by
  rw [attempted.tsLastPacket]
  cases failed : before.fails 0 <;> simp [granted, failed]

end Single

section Cbt

variable (dramCfg : DramFreqCfg) (cs : Chipselect) (vrefSetting commandAddress : BitVec 8)

/-- The packets of the loop of command bus training. -/
def cbtLoop (fails : Nat → Bool) (tsLastPacket : BitVec 16) : List DfiTxPacket :=
  let started := if fails 0 then tsLastPacket else 1 + tsLastPacket
  cbtTurns dramCfg cs vrefSetting tsLastPacket (cbtOffset dramCfg tsLastPacket started + started)

/-- The attempts of the loop and the one for the CA pattern are checked. -/
def cbtAttempts (fails : Nat → Bool) (tsLastPacket : BitVec 16) : CallAttempts :=
  let turns := (cbtLoop dramCfg cs vrefSetting fails tsLastPacket).length
  { checked := List.Ico 1 (1 + turns) ++ [turns + 2]
    ignored := [0, turns + 1, turns + 3, turns + 4] }

variable {dramCfg cs vrefSetting commandAddress} {before after : TxPacketBuffer}
  {result : WddrReturn}

theorem CbtFilled.loop_eq {started looped : TxPacketBuffer}
    (filled : CbtFilled dramCfg cs vrefSetting before started looped) :
    cbtTurns dramCfg cs vrefSetting before.tsLastPacket
        (cbtOffset dramCfg before.tsLastPacket started.tsLastPacket + started.tsLastPacket) =
      cbtLoop dramCfg cs vrefSetting before.fails before.tsLastPacket := by
  rw [tsLastPacket_single filled.first]
  rfl

/-- The attempts after a loop that got all its packets. -/
theorem CbtFilled.fails_looped {started looped : TxPacketBuffer}
    (filled : CbtFilled dramCfg cs vrefSetting before started looped)
    (completes : CbtCompletes dramCfg cs vrefSetting before started) (further : Nat) :
    looped.fails further = before.fails
      ((cbtLoop dramCfg cs vrefSetting before.fails before.tsLastPacket).length + 1 +
        further) := by
  rw [filled.turns.fails_eq, asked_of_granted completes, filled.loop_eq,
    fails_single filled.first]
  congr 1
  omega

theorem CbtFilled.completes_iff {started looped : TxPacketBuffer}
    (filled : CbtFilled dramCfg cs vrefSetting before started looped) :
    CbtCompletes dramCfg cs vrefSetting before started ↔
      ∀ attempt ∈ List.Ico 1
          (1 + (cbtLoop dramCfg cs vrefSetting before.fails before.tsLastPacket).length),
        before.fails attempt = false := by
  rw [CbtCompletes, AllGranted, granted_eq_iff, filled.loop_eq]
  simp only [List.Ico.mem, fails_single filled.first]
  constructor
  · rintro all attempt ⟨after, inLoop⟩
    have inside := all (attempt - 1) (by omega)
    rwa [Nat.add_sub_cancel' after] at inside
  · intro all turn inLoop
    exact all _ ⟨by omega, by omega⟩

/-- A packet is listed exactly if its allocation succeeds. -/
theorem indicator_eq (failed : Bool) :
    (if failed then 0 else 1) ≤ 1 ∧ ((if failed then 0 else 1) = 1 ↔ failed = false) := by
  cases failed <;> simp

/-- The sequence is complete if the packets around the loop and the pattern are listed. -/
theorem CbtFilled.complete_iff {started looped held sent next : TxPacketBuffer}
    {holdPacket patternPacket endPacket lastPacket : DfiTxPacket}
    (filled : CbtFilled dramCfg cs vrefSetting before started looped)
    (completes : CbtCompletes dramCfg cs vrefSetting before started)
    (hold : Attempted looped held [holdPacket]) (pattern : Appends held sent 1 [patternPacket])
    (ended : Attempted sent next [endPacket]) (last : Attempted next after [lastPacket]) :
    Complete before after ↔
      before.fails 0 = false ∧ looped.fails 0 = false ∧ sent.fails 0 = false ∧
        next.fails 0 = false := by
  have turns := filled.turns.length_list
  have turnAttempts := filled.turns.attempts
  rw [show granted _ _ = _ from completes] at turns
  rw [asked_of_granted completes] at turnAttempts
  have first := indicator_eq (before.fails 0)
  have holding := indicator_eq (looped.fails 0)
  have ending := indicator_eq (sent.fails 0)
  have atLast := indicator_eq (next.fails 0)
  rw [Complete, length_list_single last, attempts_single last, length_list_single ended,
    attempts_single ended, pattern.length_list, pattern.attempts, length_list_single hold,
    attempts_single hold, turns, turnAttempts, length_list_single filled.first,
    attempts_single filled.first, List.length_singleton, ← first.2, ← holding.2, ← ending.2,
    ← atLast.2]
  omega

theorem CbtPrepares.complete_iff
    (prepares : CbtPrepares dramCfg cs vrefSetting commandAddress before result after) :
    (result = .wddrSuccess → Complete before after) ↔
      (cbtAttempts dramCfg cs vrefSetting before.fails before.tsLastPacket).Reports
        before.fails := by
  have noSuccess : WddrReturn.wddrError ≠ .wddrSuccess := by decide
  cases prepares with
  | @refused started looped filled stopped =>
      have failed := mt filled.completes_iff.mpr stopped
      push Not at failed
      obtain ⟨attempt, inLoop, fails⟩ := failed
      refine ⟨fun _ => Or.inl ⟨attempt, ?_, Bool.eq_true_of_not_eq_false fails⟩, ?_⟩
      · exact List.mem_append_left _ inLoop
      · exact fun _ isSuccess => absurd isSuccess noSuccess
  | @unsent started looped held after filled completes hold refused pattern =>
      refine ⟨fun _ => Or.inl ⟨_, List.mem_append_right _ (List.mem_singleton_self _), ?_⟩, ?_⟩
      · rw [fails_single hold, filled.fails_looped completes] at refused
        exact refused
      · exact fun _ isSuccess => absurd isSuccess noSuccess
  | @succeeds started looped held sent next after filled completes hold allocated pattern ended
      last =>
      have loopNone := filled.completes_iff.mp completes
      have patternFails := (fails_single hold 0).trans (filled.fails_looped completes (1 + 0))
      have endFails := ((pattern.fails 0).trans (fails_single hold (1 + 0))).trans
        (filled.fails_looped completes (1 + (1 + 0)))
      have lastFails := (fails_single ended 0).trans (((pattern.fails (1 + 0)).trans
        (fails_single hold _)).trans (filled.fails_looped completes _))
      have reports : (cbtAttempts dramCfg cs vrefSetting before.fails before.tsLastPacket).Reports
            before.fails ↔
          before.fails 0 = false ∧ looped.fails 0 = false ∧ sent.fails 0 = false ∧
            next.fails 0 = false := by
        rw [filled.fails_looped completes 0, endFails, lastFails]
        constructor
        · rintro (⟨attempt, checked, failed⟩ | all)
          · rcases List.mem_append.mp checked with inLoop | isPattern
            · exact absurd (loopNone attempt inLoop) (by simp [failed])
            · rw [List.mem_singleton.mp isPattern] at failed
              exact absurd (patternFails.symm.trans allocated) (by simp [failed])
          · simpa [cbtAttempts] using all
        · intro none
          exact Or.inr (by simpa [cbtAttempts] using none)
      rw [reports, filled.complete_iff completes hold pattern ended last]
      simp

end Cbt

theorem Agree.complete_iff {earlier : List PacketPtr} {buffer mirror after mirrorAfter :
      TxPacketBuffer} (before : Agree earlier buffer mirror)
    (agree : Agree earlier after mirrorAfter) :
    Complete buffer after ↔ Complete mirror mirrorAfter := by
  rw [Complete, Complete, before.list, before.attempts, agree.list, agree.attempts,
    List.length_append, List.length_append]
  omega

end TxPacketBuffer

open TxPacketBuffer

namespace SequenceCall

variable (dramCfg : DramFreqCfg)

/-- The attempts of a call, from the allocations that fail and the last timestamp. -/
def attempts (fails : Nat → Bool) (tsLastPacket : BitVec 16) : SequenceCall → CallAttempts
  | wrfifo burstLength cs wrdataEnOffset data =>
      (wrfifoPlan dramCfg burstLength cs wrdataEnOffset data tsLastPacket).callAttempts fails
        tsLastPacket
  | rddq burstLength cs rddataEnOffset =>
      (readPlan dramCfg burstLength cs rddataEnOffset (createRddqCommand cs)
        tsLastPacket).callAttempts fails tsLastPacket
  | rdfifo burstLength cs rddataEnOffset =>
      (readPlan dramCfg burstLength cs rddataEnOffset (createRdfifoCommand cs)
        tsLastPacket).callAttempts fails tsLastPacket
  | wrlvl => (wrlvlPlan dramCfg tsLastPacket).callAttempts fails tsLastPacket
  | cbt cs vrefSetting _ => cbtAttempts dramCfg cs vrefSetting fails tsLastPacket

/-- A builder over zeroed memory reports what is missing exactly if an attempt that it
checks fails or none of the others does. -/
theorem complete_iff_of_sound (call : SequenceCall) {buffer : TxPacketBuffer}
    (sound : buffer.Sound) :
    ∃ result after, call.run dramCfg buffer = .ok (result, after) ∧
      ((result = .wddrSuccess → Complete buffer after) ↔
        (call.attempts dramCfg buffer.fails buffer.tsLastPacket).Reports buffer.fails) := by
  cases call with
  | wrfifo burstLength cs wrdataEnOffset data =>
      obtain ⟨result, after, prepares, ran⟩ :=
        prepares_wrfifo dramCfg burstLength cs wrdataEnOffset data sound
      exact ⟨result, after, ran, prepares.complete_iff⟩
  | rddq burstLength cs rddataEnOffset =>
      obtain ⟨result, after, prepares, ran⟩ :=
        prepares_read dramCfg burstLength cs rddataEnOffset (createRddqCommand cs) sound
      exact ⟨result, after, ran, prepares.complete_iff⟩
  | rdfifo burstLength cs rddataEnOffset =>
      obtain ⟨result, after, prepares, ran⟩ :=
        prepares_read dramCfg burstLength cs rddataEnOffset (createRdfifoCommand cs) sound
      exact ⟨result, after, ran, prepares.complete_iff⟩
  | wrlvl =>
      obtain ⟨result, after, prepares, ran⟩ := prepares_wrlvl dramCfg sound
      exact ⟨result, after, ran, prepares.complete_iff⟩
  | cbt cs vrefSetting commandAddress =>
      obtain ⟨result, after, prepares, ran⟩ :=
        prepares_cbt dramCfg cs vrefSetting commandAddress sound
      exact ⟨result, after, ran, prepares.complete_iff⟩

/-- A builder returns, and its success tells that every packet was added exactly if an
allocation that it checks fails or all those that it does not check succeed. -/
theorem success_tells_complete_iff (call : SequenceCall) (buffer : TxPacketBuffer) :
    ∃ result after, call.run dramCfg buffer = .ok (result, after) ∧
      ((result = .wddrSuccess → Complete buffer after) ↔
        (call.attempts dramCfg buffer.fails buffer.tsLastPacket).Reports buffer.fails) := by
  obtain ⟨result, mirrorAfter, mirrorRan, reports⟩ :=
    call.complete_iff_of_sound dramCfg buffer.sound_mirror
  obtain ⟨after, ran, agree⟩ := agree_run dramCfg buffer.agree_mirror call mirrorRan
  refine ⟨result, after, ran, ?_⟩
  rw [buffer.agree_mirror.complete_iff agree, reports, buffer.agree_mirror.fails]
  rfl

/-- A storage with room for all but the last packet: the read succeeds without it. -/
theorem not_success_tells_complete :
    ¬ ∀ (dramCfg : DramFreqCfg) (call : SequenceCall) (buffer after : TxPacketBuffer),
      call.run dramCfg buffer = .ok (.wddrSuccess, after) → Complete buffer after := by
  intro all
  have check : (match (rddq .bl16 .cs0 4).run (plainCfg .ratio1to1) (storageBuffer 13) with
      | .ok (result, after) =>
          decide (result = .wddrSuccess ∧ after.list.length = 13 ∧ after.attempts = 14)
      | .error _ => false) = true := by
    decide +kernel
  split at check
  · rename_i result after ran
    obtain ⟨rfl, listed, asked⟩ := of_decide_eq_true check
    have complete := all _ _ _ _ ran
    rw [Complete, listed, asked] at complete
    exact absurd complete (by decide)
  · cases check

end SequenceCall

end WavLpddr
