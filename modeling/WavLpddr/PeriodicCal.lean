import WavLpddr.OneShot

/-!
# The grant that the periodic calibration waits for

The calibration task waits for `phyMstrEvent` once its request was answered SUCCESS.  A
request that the idle DFI machine takes is followed by a grant or an abort, and both
complete the event.  A request that finds the machine busy is ignored and answered
SUCCESS all the same.
-/

namespace WavLpddr

open EventMachine TransitionSystem

section Steps

variable [KernelIo] [BuildConfig]

theorem DfiStep.completes {data : MsgData} {fw after : Fw} {event : FwPhyEvent}
    (periodic : BuildConfig.configCalPeriodic = true) (step : DfiStep data fw event after)
    (pending : fw.dfi = .phyMstrPending) :
    after.dfi = .phyMstrPending ∨ after.phyMstrEvent = true := by
  cases step with
  | ignored => exact .inl pending
  | phymstrAck =>
      right
      simp [Fw.enterPhyMstr, Fw.completePhyMstr, periodic]
  | phymstrAbort =>
      right
      simp [Fw.abortPhyMstr, Fw.completePhyMstr, periodic]
  | phymstrReq idle => simp [pending] at idle
  | phyupdReq idle => simp [pending] at idle
  | ctrlupdAssert idle => simp [pending] at idle
  | phymstrExit granted => simp [pending] at granted
  | phyupdAck updating => simp [pending] at updating
  | phyupdAbort updating => simp [pending] at updating
  | ctrlupdDeassert updating => simp [pending] at updating

/-- Starting a switch aborts the request and completes the event. -/
theorem Fw.enterPending_completes {fw : Fw} (periodic : BuildConfig.configCalPeriodic = true)
    (pending : fw.dfi = .phyMstrPending) : fw.enterPending.phyMstrEvent = true := by
  have released : fw.enterPending.phyMstrEvent = fw.beforeRelease.phyMstrEvent := rfl
  rw [released, Fw.beforeRelease, pending]
  simp [Fw.abortPhyMstr, Fw.completePhyMstr, periodic]

variable [Device]

theorem FswStep.completes {data : MsgData} {fw after : Fw} {event : FwPhyEvent}
    {current : VcoIndex} (periodic : BuildConfig.configCalPeriodic = true)
    (step : FswStep data fw event after) (device : fw.DeviceSound current)
    (pending : fw.dfi = .phyMstrPending) :
    after.dfi = .phyMstrPending ∨ after.phyMstrEvent = true := by
  cases step with
  | ignored => exact .inl pending
  | prep inPrep prepared =>
      rcases Fw.eq_of_prepareSwitch device.sound prepared with ⟨-, rfl⟩ | ⟨-, -, rfl⟩
      · exact .inl ((fw.prepared_dfi _ _).trans pending)
      · exact .inl pending
  | initStart => exact .inr (fw.enterPending_completes periodic pending)
  | pllLock => exact .inl pending

/-- A handler leaves a request that waits for its grant waiting, or completes the event. -/
theorem Handled.completes {data : MsgData} {fw after : Fw} {event : FwPhyEvent}
    {response : FwResponse} {current : VcoIndex}
    (periodic : BuildConfig.configCalPeriodic = true)
    (ran : Handled data fw event response after) (device : fw.DeviceSound current)
    (pending : fw.dfi = .phyMstrPending) :
    after.dfi = .phyMstrPending ∨ after.phyMstrEvent = true := by
  cases ran with
  | refused => exact .inl pending
  | start => exact .inl ((fw.finishStart_frame _).2.2.trans pending)
  | dfi _ _ _ step => exact step.completes periodic pending
  | fsw _ _ _ step => exact step.completes periodic device pending

end Steps

namespace Sys

section Requests

variable [Platform]

/-- From the state on, the DFI machine waits for the grant until the event is complete. -/
def WaitsForGrant (sys : Sys) : Prop :=
  sys.fw.dfi = .phyMstrPending ∧
    ∀ labels final, system.exec labels sys = some final → final.fw.dfi ≠ .phyMstrPending →
      ∃ first middle, first <+: labels ∧ system.exec first sys = some middle ∧
        middle.fw.phyMstrEvent = true

/-- A master request in hand that is answered SUCCESS is taken by the idle machine, which
then waits for the grant. -/
def RequestHonoured (sys : Sys) : Prop :=
  ∀ msg, sys.fwTask = .process msg → msg.Is .phymstrReq →
    ∀ next, system.step .process sys = some next →
      (∃ after, processMessage msg sys.fw = .ok (some .success, after)) →
        sys.fw.dfi = .idle ∧ next.WaitsForGrant

/-- A master request in hand that the running firmware's DFI machine ignores. -/
def IgnoresRequest (sys : Sys) : Prop :=
  Handles .process sys fun msg => msg.Is .phymstrReq ∧ sys.fault = none ∧ sys.fw.Running ∧
    sys.fw.fsw ≠ .pending ∧ sys.fw.dfi ≠ .idle

instance (sys : Sys) : Decidable sys.IgnoresRequest :=
  inferInstanceAs (Decidable (Handles _ _ _))

theorem completes_of_taken {label : Label} {sys next : Sys}
    (periodic : BuildConfig.configCalPeriodic = true) (reachable : system.Reachable sys)
    (pending : sys.fw.dfi = .phyMstrPending) (taken : system.step label sys = some next) :
    next.fw.dfi = .phyMstrPending ∨ next.fw.phyMstrEvent = true := by
  by_cases isProcess : label = .process
  · subst isProcess
    obtain ⟨current, device⟩ := deviceSound_of_reachable reachable
    obtain ⟨msg, -, step⟩ := processStep_of_taken taken
    cases step with
    | unknown => exact .inl pending
    | failed => exact .inl pending
    | answered _ ran =>
        rw [answered_fw]
        exact ran.completes periodic device pending
  · exact .inl ((sameControl_of_taken taken isProcess).dfi.trans pending)

theorem waitsForGrant_of_pending {sys : Sys}
    (periodic : BuildConfig.configCalPeriodic = true) (reachable : system.Reachable sys)
    (pending : sys.fw.dfi = .phyMstrPending) : sys.WaitsForGrant := by
  refine ⟨pending, fun labels final run left => ?_⟩
  exact reachable.exec_until
    (fun _ _ _ before waiting taken => completes_of_taken periodic before waiting taken)
    pending run left

theorem processMessage_phymstrReq {msg : FwMsg} {fw : Fw} {req : DfiPhymstrReq}
    (isRequest : msg.Is .phymstrReq) (carries : msg.data = .phymstrReq req)
    (running : fw.Running) (admitted : fw.fsw ≠ .pending) :
    processMessage msg fw = .ok (some .success,
      if fw.dfi = .idle then fw.enterPhyMstrPending req else fw) := by
  rw [processMessage_ok_iff isRequest]
  change fw.guarded (fw.fsw = .pending) (fw.dfiTransition .phymstrReq msg.data) = _
  rw [Fw.guarded, if_neg (not_not_intro running), if_neg admitted, carries]
  cases state : fw.dfi <;> simp [Fw.dfiTransition, state, MsgData.toPhymstrReq]

theorem taken_of_processed {sys : Sys} {msg : FwMsg} {response : FwResponse} {after : Fw}
    (healthy : sys.fault = none) (task : sys.fwTask = .process msg)
    (ran : processMessage msg sys.fw = .ok (some response, after)) :
    system.step .process sys = some (sys.answered msg response after) := by
  change (if sys.fault.isSome then none else sys.stepProcess) = _
  simp only [healthy, Option.isSome_none, Bool.false_eq_true, if_false, stepProcess, task]
  rw [processed_of_ok ran]

/-- Only a running firmware outside a switch answers a master request SUCCESS. -/
theorem accepts_of_success {msg : FwMsg} {fw after : Fw} (isRequest : msg.Is .phymstrReq)
    (ran : processMessage msg fw = .ok (some .success, after)) :
    fw.Running ∧ fw.fsw ≠ .pending := by
  rw [processMessage_ok_iff isRequest] at ran
  rcases Fw.guarded_ok ran with ⟨refusal, -⟩ | ⟨running, admitted, -⟩
  · exact absurd refusal Fw.refusal_ne_success
  · exact ⟨running, admitted⟩

/-- In every reachable state a master request that is answered SUCCESS is honoured exactly
when the DFI machine does not ignore it. -/
theorem requestHonoured_iff {sys : Sys} (periodic : BuildConfig.configCalPeriodic = true)
    (reachable : system.Reachable sys) : sys.RequestHonoured ↔ ¬ sys.IgnoresRequest := by
  have carries : ∀ msg, sys.fwTask = .process msg → msg.Is .phymstrReq →
      ∃ req, msg.data = .phymstrReq req := fun msg task isRequest =>
    (posted_of_reachable reachable msg (mem_inFlight_of_task task)).carries
      (FwPhyEvent.ofCode?_eq_some_iff.mpr isRequest)
  constructor
  · intro honoured ignores
    obtain ⟨msg, -, task, isRequest, healthy, running, admitted, busy⟩ :=
      exists_of_handles ignores
    obtain ⟨req, data⟩ := carries msg task isRequest
    have ran := processMessage_phymstrReq isRequest data running admitted
    exact busy (honoured msg task isRequest _ (taken_of_processed healthy task ran)
      ⟨_, ran⟩).1
  · rintro notIgnored msg task isRequest next taken ⟨after, ran⟩
    obtain ⟨healthy, -⟩ := stepRunning_of_taken taken
    obtain ⟨running, admitted⟩ := accepts_of_success isRequest ran
    have idle : sys.fw.dfi = .idle := by
      by_contra busy
      exact notIgnored ((handles_process task).mpr
        ⟨isRequest, healthy, running, admitted, busy⟩)
    refine ⟨idle, waitsForGrant_of_pending periodic (.step reachable trivial taken) ?_⟩
    obtain ⟨req, data⟩ := carries msg task isRequest
    have entered := processMessage_phymstrReq isRequest data running admitted
    rw [if_pos idle] at entered
    have same := taken_of_processed healthy task entered
    rw [taken, Option.some.injEq] at same
    rw [same, answered_fw]
    rfl

end Requests

/-- A master request is in hand while the DFI machine is idle. -/
theorem requestHonoured_idle :
    @RequestHonoured referencePlatform
      (after (bootRun ++ [.cal, .cal, .cal, .cal, .receive]) (by decide +kernel)) :=
  (@requestHonoured_iff referencePlatform _ rfl (reachable_after _)).mpr (by decide +kernel)

/-- A master request is in hand after the timer's update request was taken. -/
def ignoredRequestState : Sys :=
  after (bootRun ++ [.cal, .cal, .cal] ++ [.timerExpire, .timerSend] ++ [.cal] ++
    handleNext ++ [.receive]) (by decide +kernel)

/-- The master request is answered SUCCESS and ignored. -/
theorem not_requestHonoured_ignored :
    referenceSystem.Reachable ignoredRequestState ∧
      ¬ @RequestHonoured referencePlatform ignoredRequestState := by
  constructor
  · exact reachable_after _
  · intro honoured
    let := referencePlatform
    have task : ignoredRequestState.fwTask = .process phymstrReqMsg := by decide +kernel
    have ran := processMessage_phymstrReq (rfl : phymstrReqMsg.Is .phymstrReq) rfl
      (by decide +kernel : ignoredRequestState.fw.Running) (by decide +kernel)
    have taken := taken_of_processed (by decide +kernel) task ran
    have idle := (honoured _ task rfl _ taken ⟨_, ran⟩).1
    exact absurd idle (by decide +kernel)

end Sys

end WavLpddr
