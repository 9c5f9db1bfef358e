import WavLpddr.Queue

/-!
# Answers to a preparation

A preparation is answered SUCCESS whenever its machine was asked.  The answer is
right when the machine is in its preparing state, and wrong while a switch is
pending, where the request is dropped.  An invalid frequency is caught by an
assertion, which stops the firmware, and by nothing when assertions are not
compiled in.
-/

namespace WavLpddr

open EventMachine TransitionSystem

section Answers

variable [KernelIo]

/-- A switch to the frequency is prepared, and the controller may start it. -/
structure Fw.SwitchPrepared (freqId : UInt8) (fw : Fw) : Prop where
  inPrep : fw.fsw = .prep
  next : ∃ vcoId, fw.wddr.pll.pVcoNext = some vcoId ∧ (fw.wddr.pll.vco vcoId).freqId = freqId
  prepDone : prepDone fw.wddr.fsw
  initStart : fw.wddr.irq.enabled .initStart = true

/-- What a refused preparation leaves alone. -/
structure Fw.SwitchUntouched (before after : Fw) : Prop where
  fsw : after.fsw = before.fsw
  dfi : after.dfi = before.dfi
  pll : after.wddr.pll = before.wddr.pll
  switch : after.wddr.fsw = before.wddr.fsw
  phy : after.wddr.phy = before.wddr.phy
  dfich : after.wddr.dfich = before.wddr.dfich

omit [KernelIo] in
theorem Fw.SwitchUntouched.refl (fw : Fw) : fw.SwitchUntouched fw :=
  ⟨rfl, rfl, rfl, rfl, rfl, rfl⟩

theorem Wddr.prepDone_announced (wddr : Wddr) : prepDone wddr.announced.fsw := by
  simp only [Wddr.announced, Wddr.onIrq_fsw, Wddr.onFsw_fsw, prepDone_setPostWorkDone]
  exact (prepDone_setPrepDone _ true).mpr rfl

theorem Wddr.initStart_announced (wddr : Wddr) :
    wddr.announced.irq.enabled .initStart = true := by
  simp [Wddr.announced, Irq.enableIrq]

variable [Device]

theorem Fw.prepared_pVcoNext (freqId : UInt8) (current : VcoIndex) (fw : Fw) :
    (fw.prepared freqId current).wddr.pll.pVcoNext = some current.spare := by
  simp [Fw.prepared, Wddr.announced, Wddr.preparedFor]

theorem Fw.switchPrepared_prepared (freqId : UInt8) (current : VcoIndex) (fw : Fw) :
    (fw.prepared freqId current).SwitchPrepared freqId where
  inPrep := rfl
  next := by
    refine ⟨current.spare, fw.prepared_pVcoNext freqId current, ?_⟩
    simp [Fw.prepared, Wddr.announced, Wddr.preparedFor]
  prepDone := Wddr.prepDone_announced _
  initStart := Wddr.initStart_announced _

end Answers

section Handling

variable [Platform]

/-- The answer to a preparation says whether the switch was prepared. -/
def PrepAnswerSound (fw : Fw) (freqId : UInt8) : Prop :=
  ∀ response after, handleFswEvent .prep (.ofFreqId freqId) fw = .ok (response, after) →
    (response = .success → after.SwitchPrepared freqId) ∧
      (response ≠ .success → fw.SwitchUntouched after)

/-- A preparation that is answered SUCCESS and not made: the switch is pending, or nothing
checks the frequency. -/
def Fw.DropsPrep (fw : Fw) (freqId : UInt8) : Prop :=
  fw.Running ∧ fw.dfi ≠ .ctrlUpd ∧
    (fw.fsw = .pending ∨
      (fw.wddr.table.validFreq freqId = false ∧ BuildConfig.configAssert = false))

instance (fw : Fw) (freqId : UInt8) : Decidable (fw.DropsPrep freqId) :=
  inferInstanceAs (Decidable (_ ∧ _ ∧ _))

omit [Platform] in
/-- The prepared VCO never carries an invalid frequency. -/
theorem Fw.not_switchPrepared_of_invalid [KernelIo] {fw : Fw} {current : VcoIndex} {freqId : UInt8}
    (sound : fw.wddr.Sound current) (invalid : fw.wddr.table.validFreq freqId = false) :
    ¬ fw.SwitchPrepared freqId := by
  rintro ⟨-, ⟨vcoId, next, isFreq⟩, -, -⟩
  have valid := sound.nextFreq vcoId next
  rw [isFreq, invalid] at valid
  cases valid

/-- The preparation of a switch is dropped exactly while one is pending or unchecked. -/
theorem prepAnswerSound_iff_of_sound {fw : Fw} {current : VcoIndex} (freqId : UInt8)
    (device : fw.DeviceSound current) (lines : fw.LinesSound) :
    PrepAnswerSound fw freqId ↔ ¬ fw.DropsPrep freqId := by
  have handler := handleFswEvent_eq .prep (.ofFreqId freqId) fw
  constructor
  · rintro sound ⟨running, admitted, drops⟩
    rw [Fw.guarded, if_neg (not_not_intro running), if_neg admitted] at handler
    cases state : fw.fsw with
    | error => exact lines.fswOrdinary state
    | pending =>
        simp only [Fw.fswTransition, state] at handler
        have prepared := ((sound _ _ handler).1 rfl).inPrep
        rw [state] at prepared
        cases prepared
    | prep =>
        obtain ⟨invalid, unchecked⟩ : fw.wddr.table.validFreq freqId = false ∧
            BuildConfig.configAssert = false := by simpa [state] using drops
        simp only [Fw.fswTransition, state, MsgData.freqId_ofFreqId,
          Fw.prepareSwitch_of_invalid invalid, unchecked] at handler
        have prepared := (sound _ _ handler).1 rfl
        have stillInvalid : fw.unprepared.wddr.table.validFreq freqId = false := invalid
        exact Fw.not_switchPrepared_of_invalid (Fw.sound_unprepared device.sound) stillInvalid
          prepared
  · intro kept response after ran
    rw [handler] at ran
    rcases Fw.guarded_ok ran with ⟨refusal, rfl⟩ | ⟨running, admitted, rfl, step⟩
    · exact ⟨fun success => absurd (success ▸ refusal) Fw.refusal_ne_success, fun _ => .refl after⟩
    · refine ⟨fun _ => ?_, fun notSuccess => absurd rfl notSuccess⟩
      cases state : fw.fsw with
      | error => exact absurd state lines.fswOrdinary
      | pending => exact absurd ⟨running, admitted, .inl state⟩ kept
      | prep =>
          simp only [Fw.fswTransition, state, MsgData.freqId_ofFreqId] at step
          rcases Fw.eq_of_prepareSwitch device.sound step with
            ⟨-, rfl⟩ | ⟨invalid, unchecked, -⟩
          · exact fw.switchPrepared_prepared freqId current
          · exact absurd ⟨running, admitted, .inr ⟨invalid, unchecked⟩⟩ kept

end Handling

namespace Sys

section Reachable

variable [Platform]

/-- In every reachable state the answer to a preparation is right exactly when the request
is not dropped. -/
theorem prepAnswerSound_iff {sys : Sys} (reachable : system.Reachable sys) (freqId : UInt8) :
    PrepAnswerSound sys.fw freqId ↔ ¬ sys.fw.DropsPrep freqId := by
  obtain ⟨current, device⟩ := deviceSound_of_reachable reachable
  exact prepAnswerSound_iff_of_sound freqId device (linesSound_of_reachable reachable)

end Reachable

section HostMessages

variable [Platform]

/-- Handling an invalid preparation refuses it and leaves the switch alone, and the host's
task does not take the answer for a success. -/
def RejectsInvalidPrep (sys : Sys) : Prop :=
  ∀ msg, sys.fwTask = .process msg → msg.Is .prep →
    sys.fw.wddr.table.validFreq msg.data.freqId = false →
    ∃ response after, processMessage msg sys.fw = .ok (some response, after) ∧
      sys.fw.SwitchUntouched after ∧
        ∀ call tries, afterResponse call tries response ≠ .inr true

/-- An invalid preparation is handled only while the firmware does not run or waits for a
controller update. -/
def RefusesInvalid : StepCondition Sys Label := fun label sys =>
  ¬ Handles label sys fun msg => msg.Is .prep ∧
    sys.fw.wddr.table.validFreq msg.data.freqId = false ∧ sys.fw.Running ∧ sys.fw.dfi ≠ .ctrlUpd

instance (label : Label) (sys : Sys) : Decidable (RefusesInvalid label sys) :=
  inferInstanceAs (Decidable (¬ _))

/-- What no message of the host can do. -/
structure HostSafe (sys : Sys) : Prop where
  noAssertion : sys.fault ≠ some (.assertion .fswPrepareSwitchHandler)
  noTableIndex : sys.fault ≠ some .tableIndex
  rejects : sys.RejectsInvalidPrep

theorem processMessage_prep {msg : FwMsg} (isPrep : msg.Is .prep) (fw : Fw) :
    processMessage msg fw =
      (fun done => (some done.1, done.2)) <$>
        fw.guarded (fw.dfi = .ctrlUpd) (fw.fswTransition .prep msg.data) := by
  have decoded := FwPhyEvent.ofCode?_eq_some_iff.mpr isPrep
  rw [processMessage_eq, decoded]
  rfl

omit [Platform] in
theorem not_pass_of_ne_success {response : FwResponse} (notSuccess : response ≠ .success)
    (call : FirmwareCall) (tries : Nat) : afterResponse call tries response ≠ .inr true := by
  cases response with
  | success => exact absurd rfl notSuccess
  | failure => simp [afterResponse]
  | retry =>
      simp only [afterResponse]
      split <;> simp

/-- In every reachable state an invalid preparation is rejected exactly when the firmware
does not run or waits for a controller update. -/
theorem rejectsInvalidPrep_iff {sys : Sys} (reachable : system.Reachable sys) :
    sys.RejectsInvalidPrep ↔ RefusesInvalid .process sys := by
  have lines := linesSound_of_reachable reachable
  constructor
  · intro rejects handles
    obtain ⟨msg, -, task, isPrep, invalid, running, admitted⟩ := exists_of_handles handles
    obtain ⟨response, after, ran, -, denied⟩ := rejects msg task isPrep invalid
    rw [processMessage_prep isPrep, Fw.guarded, if_neg (not_not_intro running),
      if_neg admitted] at ran
    have accepted : response = .success := by
      cases step : sys.fw.fswTransition .prep msg.data with
      | error fault =>
          rw [step] at ran
          cases ran
      | ok next =>
          rw [step] at ran
          cases ran
          rfl
    subst accepted
    exact denied (.prepSwitch 0) 0 rfl
  · intro refuses msg task isPrep invalid
    have refusal : ¬ (sys.fw.Running ∧ sys.fw.dfi ≠ .ctrlUpd) := fun handled =>
      refuses ((handles_process task).mpr ⟨isPrep, invalid, handled⟩)
    have handler := processMessage_prep isPrep sys.fw
    rw [Fw.guarded] at handler
    by_cases running : sys.fw.Running
    · have updating : sys.fw.dfi = .ctrlUpd := not_not.mp fun other => refusal ⟨running, other⟩
      rw [if_neg (not_not_intro running), if_pos updating] at handler
      exact ⟨.retry, sys.fw, handler, .refl _, not_pass_of_ne_success (by simp)⟩
    · rw [if_pos running] at handler
      exact ⟨.failure, sys.fw, handler, .refl _, not_pass_of_ne_success (by simp)⟩

theorem noAssertion_of_reachableWhere {sys : Sys}
    (reachable : system.ReachableWhere RefusesInvalid sys) :
    sys.fault ≠ some (.assertion .fswPrepareSwitchHandler) := by
  apply reachable.invariant
    (motive := fun sys => sys.fault ≠ some (.assertion .fswPrepareSwitchHandler))
  · rintro _ ⟨table, reset, hw, timerStarts, -, -, rfl⟩
    simp [started]
  · intro label sys next before refuses taken _ stopped
    rcases fault_of_taken before.reachable taken stopped with
      calibration | full | ⟨-, rfl, msg, task, isPrep, prepares⟩
    · cases calibration
    · cases full
    · apply refuses
      rw [handles_process task]
      exact ⟨isPrep, prepares.invalid, prepares.running, prepares.admitted⟩

theorem noTableIndex_of_reachable {sys : Sys} (reachable : system.Reachable sys) :
    sys.fault ≠ some .tableIndex := by
  apply reachable.invariant (motive := fun sys => sys.fault ≠ some .tableIndex)
  · rintro _ ⟨table, reset, hw, timerStarts, -, -, rfl⟩
    simp [started]
  · intro label sys next before _ taken _ stopped
    rcases fault_of_taken before taken stopped with calibration | full | ⟨unprepared, -⟩
    · cases calibration
    · cases full
    · cases unprepared

/-- As long as invalid preparations only meet a firmware that refuses them, messages of the
host do no harm. -/
theorem hostSafe_of_reachableWhere {sys : Sys}
    (reachable : system.ReachableWhere RefusesInvalid sys)
    (refuses : RefusesInvalid .process sys) : sys.HostSafe where
  noAssertion := noAssertion_of_reachableWhere reachable
  noTableIndex := noTableIndex_of_reachable reachable.reachable
  rejects := (rejectsInvalidPrep_iff reachable.reachable).mpr refuses

end HostMessages

/-- After boot a preparation is answered correctly. -/
theorem prepAnswerSound_booted :
    @PrepAnswerSound referencePlatform (after bootRun bootRun_possible).fw 1 :=
  (@prepAnswerSound_iff referencePlatform _ (reachable_after _) 1).mpr (by decide +kernel)

/-- A switch is pending. -/
def pendingState : Sys :=
  after (bootRun ++ prepRun 0 ++ initStartIrq ++ handleNext) (by decide +kernel)

/-- A preparation during the switch is answered SUCCESS and dropped. -/
theorem not_prepAnswerSound_pending :
    referenceSystem.Reachable pendingState ∧
      ¬ @PrepAnswerSound referencePlatform pendingState.fw 1 := by
  constructor
  · exact reachable_after _
  · intro sound
    let := referencePlatform
    have prepared := (sound .success _ rfl).1 rfl
    exact absurd prepared.inPrep (by decide +kernel)

/-- The firmware has received a preparation of frequency 7 while it waits for the end of a
controller update that began during the boot. -/
def updatingPrepRun : List Label :=
  hostBoot ++ [.receive, .raise .ctrlupdReqAssertion, .isr .ctrlupdReq .null none [],
    .process, .main] ++ handleNext ++ hostPrep 7 ++ [.receive]

/-- A preparation of a valid frequency does no harm, nor does one that is refused. -/
theorem hostSafe_prepared :
    @HostSafe referencePlatform
      (afterWhere RefusesInvalid (bootRun ++ prepRun 3) (by decide +kernel)) ∧
    @HostSafe referencePlatform
      (afterWhere RefusesInvalid updatingPrepRun (by decide +kernel)) ∧
    @HostSafe referencePlatform
      (afterWhere RefusesInvalid (updatingPrepRun ++ [.process]) (by decide +kernel)) :=
  ⟨@hostSafe_of_reachableWhere referencePlatform _ (reachable_afterWhere _) (by decide +kernel),
    @hostSafe_of_reachableWhere referencePlatform _ (reachable_afterWhere _) (by decide +kernel),
    @hostSafe_of_reachableWhere referencePlatform _ (reachable_afterWhere _) (by decide +kernel)⟩

/-- A preparation of frequency 7 was handled. -/
def stoppedState : Sys :=
  after (bootRun ++ hostPrep 7 ++ handleNext) (by decide +kernel)

/-- One message of the host stops the firmware at an assertion. -/
theorem not_hostSafe_stopped :
    referenceSystem.Reachable stoppedState ∧ ¬ @HostSafe referencePlatform stoppedState := by
  constructor
  · exact reachable_after _
  · intro safe
    let := referencePlatform
    exact safe.noAssertion (by decide +kernel)

end Sys

end WavLpddr
