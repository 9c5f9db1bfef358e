import WavLpddr.HostOrder

/-!
# A boot that was answered SUCCESS

A boot that fails sets the error bit, and nothing clears it.  The host may boot again, and
a second boot can succeed and make the firmware ready with the error bit still set; every
event of the two machines is then rejected.
-/

namespace WavLpddr

open EventMachine TransitionSystem

section Handlers

variable [KernelIo] [BuildConfig] [Device]

/-- `wddr_boot` succeeds with the options of the message. -/
def Fw.deviceBoots (data : MsgData) (fw : Fw) : Bool :=
  match data with
  | .startCfg calibrate trainDram =>
      match fw.wddr.wddrBoot fw.hw (startBootCfg calibrate trainDram) with
      | .ok (.wddrSuccess, _) => true
      | _ => false
  | _ => false

theorem Fw.deviceBoots_of_ok {fw : Fw} {data : MsgData} {calibrate trainDram : Bool}
    {booted : WddrReturn × Wddr} (options : data = .startCfg calibrate trainDram)
    (boots : fw.wddr.wddrBoot fw.hw (startBootCfg calibrate trainDram) = .ok booted)
    (succeeded : booted.1 = .wddrSuccess) : fw.deviceBoots data = true := by
  obtain ⟨ret, wddr⟩ := booted
  obtain rfl : ret = .wddrSuccess := succeeded
  rw [options]
  simp only [Fw.deviceBoots, boots]

/-- A firmware that is ready met no error, as long as no boot succeeds after one. -/
theorem Handled.errorClear {data : MsgData} {fw after : Fw} {event : FwPhyEvent}
    {response : FwResponse} {current : VcoIndex} (ran : Handled data fw event response after)
    (device : fw.DeviceSound current) (errorClear : fw.ready = true → fw.error = false)
    (clean : event = .boot → fw.ready = false → fw.deviceBoots data = true →
      fw.timerStarts = true → fw.error = false)
    (ready : after.ready = true) : after.error = false := by
  cases ran with
  | refused => exact errorClear ready
  | start notReady boots options =>
      obtain ⟨succeeded, starts, ended⟩ := Fw.finishStart_of_ready notReady ready
      rw [ended]
      exact clean rfl notReady (Fw.deviceBoots_of_ok options boots succeeded) starts
  | dfi _ running _ step => exact step.frame.error.trans running.2
  | fsw _ running _ step => exact (step.frame device.sound).error.trans running.2

end Handlers

namespace Sys

section Boots

variable [Platform]

/-- When the host takes the firmware for booted, it is ready and met no error, and neither
of its machines rejects an event. -/
structure UsableWhenReady (sys : Sys) : Prop where
  ready : sys.app = .ready → sys.fw.ready = true
  noError : sys.app = .ready → sys.fw.error = false
  dfiAdmits : sys.app = .ready → ∀ event data after,
    handleDfiEvent event data sys.fw ≠ .ok (.failure, after)
  fswAdmits : sys.app = .ready → ∀ event data after,
    handleFswEvent event data sys.fw ≠ .ok (.failure, after)

/-- No boot that starts after an error boots the device and starts the timer. -/
def BootsClean : StepCondition Sys Label := fun label sys =>
  ¬ Handles label sys fun msg => msg.Is .boot ∧ sys.fw.ready = false ∧ sys.fw.error = true ∧
    sys.fw.deviceBoots msg.data = true ∧ sys.fw.timerStarts = true

instance (label : Label) (sys : Sys) : Decidable (BootsClean label sys) :=
  inferInstanceAs (Decidable (¬ _))

theorem errorClear_of_reachableWhere {sys : Sys}
    (reachable : system.ReachableWhere BootsClean sys) :
    sys.fw.ready = true → sys.fw.error = false := by
  apply reachable.invariant (motive := fun sys => sys.fw.ready = true → sys.fw.error = false)
  · rintro _ ⟨table, reset, hw, timerStarts, -, -, rfl⟩ ready
    cases ready
  · intro label sys next before clean taken errorClear ready
    by_cases isProcess : label = .process
    · subst isProcess
      obtain ⟨current, device⟩ := deviceSound_of_reachable before.reachable
      obtain ⟨msg, task, step⟩ := processStep_of_taken taken
      cases step with
      | unknown => exact errorClear ready
      | failed => exact errorClear ready
      | answered decoded ran =>
          rw [answered_fw] at ready ⊢
          apply ran.errorClear device errorClear _ ready
          rintro rfl notReady boots starts
          by_contra notClear
          apply clean
          rw [handles_process task]
          exact ⟨FwPhyEvent.ofCode?_eq_some_iff.mp decoded, notReady,
            Bool.eq_true_of_not_eq_false notClear, boots, starts⟩
    · have same := sameControl_of_taken taken isProcess
      rw [same.ready] at ready
      rw [same.error]
      exact errorClear ready

/-- As long as no boot succeeds after an error, the firmware that the host takes for booted is
usable. -/
theorem usableWhenReady_of_reachableWhere {sys : Sys}
    (reachable : system.ReachableWhere BootsClean sys) : sys.UsableWhenReady := by
  have facts := (hostSound_of_reachable reachable.reachable).facts
  have running : sys.app = .ready → sys.fw.Running := fun isReady =>
    ⟨facts.app isReady, errorClear_of_reachableWhere reachable (facts.app isReady)⟩
  have admits : ∀ (waits : Prop) [Decidable waits] (step : Except Fault Fw) after,
      sys.app = .ready → sys.fw.guarded waits step ≠ .ok (.failure, after) := by
    intro waits _ step after isReady ran
    rcases Fw.guarded_ok ran with ⟨refusal, -⟩ | ⟨-, -, success, -⟩
    · unfold Fw.refusal at refusal
      rw [if_neg (not_not_intro (running isReady))] at refusal
      split at refusal <;> cases refusal
    · cases success
  constructor
  · exact facts.app
  · exact fun isReady => (running isReady).2
  · intro isReady event data after
    rw [handleDfiEvent_eq]
    exact admits _ _ after isReady
  · intro isReady event data after
    rw [handleFswEvent_eq]
    exact admits _ _ after isReady

end Boots

/-- After a boot the firmware is usable. -/
theorem usableWhenReady_booted :
    @UsableWhenReady referencePlatform
      (afterWhere (@BootsClean referencePlatform) bootRun (by decide +kernel)) :=
  @usableWhenReady_of_reachableWhere referencePlatform _ (reachable_afterWhere _)

/-- The first boot fails because the timer does not start, and the host boots again. -/
def rebootedState : Sys :=
  after ([.report referenceHw false] ++ bootRun ++ [.report referenceHw true] ++ bootRun)
    (by decide +kernel)

/-- The second boot is answered SUCCESS and leaves the error bit set. -/
theorem not_usableWhenReady_rebooted :
    referenceSystem.Reachable rebootedState ∧
      ¬ @UsableWhenReady referencePlatform rebootedState := by
  constructor
  · exact reachable_after _
  · intro usable
    let := referencePlatform
    exact absurd (usable.noError (by decide +kernel)) (by decide +kernel)

end Sys

end WavLpddr
