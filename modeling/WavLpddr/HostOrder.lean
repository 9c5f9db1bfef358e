import WavLpddr.Queue

/-!
# What the host's task and the interrupts can rely on

The host only asks for a preparation after a boot was answered SUCCESS, and the boot
disables the interrupt of controller updates.  A controller update that was reported
before therefore stands in front of every preparation, and once a switch is under way
the DFI machine is not in its update state and will not enter it.
-/

namespace WavLpddr

open EventMachine TransitionSystem

/-- The call that the host's task is making. -/
def MainTask.call? : MainTask → Option FirmwareCall
  | .receive => none
  | .clear call => some call
  | .send call _ => some call
  | .wait call _ => some call

section Handlers

variable [KernelIo] [BuildConfig] [Device]

theorem Handled.ready {data : MsgData} {fw after : Fw} {event : FwPhyEvent}
    {response : FwResponse} {current : VcoIndex} (ran : Handled data fw event response after)
    (device : fw.DeviceSound current) (ready : fw.ready = true) : after.ready = true := by
  cases ran with
  | refused => exact ready
  | start notReady => simp [ready] at notReady
  | dfi _ _ _ step => exact step.frame.ready.trans ready
  | fsw _ _ _ step => exact (step.frame device.sound).ready.trans ready

/-- The error bit is set by a failing boot only. -/
theorem Handled.running {data : MsgData} {fw after : Fw} {event : FwPhyEvent}
    {response : FwResponse} {current : VcoIndex} (ran : Handled data fw event response after)
    (device : fw.DeviceSound current) (running : fw.Running) : after.Running := by
  cases ran with
  | refused => exact running
  | start notReady => simp [running.1] at notReady
  | dfi _ _ _ step =>
      exact ⟨step.frame.ready.trans running.1, step.frame.error.trans running.2⟩
  | fsw _ _ _ step =>
      have frame := step.frame device.sound
      exact ⟨frame.ready.trans running.1, frame.error.trans running.2⟩

/-- Only a firmware that is ready answers SUCCESS. -/
theorem Handled.ready_of_success {data : MsgData} {fw after : Fw} {event : FwPhyEvent}
    {response : FwResponse} {current : VcoIndex} (ran : Handled data fw event response after)
    (device : fw.DeviceSound current) (success : response = .success) : after.ready = true := by
  cases ran with
  | @refused event _ refusal => exact absurd (success ▸ refusal) (event.refusal_ne_success fw)
  | start notReady boots =>
      unfold Fw.finishStart at success ⊢
      split at success
      · cases success
      · split at success
        · rename_i succeeded starts
          rw [if_neg succeeded, if_pos starts]
        · cases success
  | dfi _ running _ step => exact step.frame.ready.trans running.1
  | fsw _ running _ step => exact (step.frame device.sound).ready.trans running.1

theorem Handled.updateIrq {data : MsgData} {fw after : Fw} {event : FwPhyEvent}
    {response : FwResponse} {current : VcoIndex} (ran : Handled data fw event response after)
    (device : fw.DeviceSound current)
    (disabled : fw.ready = true → fw.wddr.irq.enabled .ctrlupdReq = false)
    (ready : after.ready = true) : after.wddr.irq.enabled .ctrlupdReq = false := by
  cases ran with
  | refused => exact disabled ready
  | start notReady =>
      obtain ⟨-, -, ended⟩ := Fw.finishStart_of_ready notReady ready
      rw [ended]
      simp [Wddr.released, Irq.disableIrq]
  | dfi _ running _ step =>
      rw [step.frame.enabled .ctrlupdReq (by simp) (by simp)]
      exact disabled running.1
  | fsw _ running _ step =>
      rw [(step.frame device.sound).enabled .ctrlupdReq (by simp) (by simp) (by simp)]
      exact disabled running.1

theorem Handled.dfi_ne_ctrlUpd {data : MsgData} {fw after : Fw} {event : FwPhyEvent}
    {response : FwResponse} {current : VcoIndex} (ran : Handled data fw event response after)
    (device : fw.DeviceSound current) (admitted : fw.dfi ≠ .ctrlUpd)
    (notUpdate : event ≠ .ctrlupdAssert) : after.dfi ≠ .ctrlUpd := by
  cases ran with
  | refused => exact admitted
  | start =>
      rw [(fw.finishStart_frame _).2.2]
      exact admitted
  | dfi _ _ _ step =>
      cases step with
      | ignored => exact admitted
      | ctrlupdAssert => exact absurd rfl notUpdate
      | phyupdAck updating finished =>
          obtain ⟨update, rfl⟩ := Fw.eq_of_finishPhyUpd finished
          simp
      | _ =>
          simp [Fw.enterPhyMstrPending, Fw.enterPhyUpd, Fw.enterPhyMstr, Fw.abortPhyMstr,
            Fw.exitPhyMstr, Fw.abortPhyUpd, Fw.exitCtrlUpd]
  | fsw _ _ _ step =>
      cases step with
      | ignored => exact admitted
      | prep inPrep prepared =>
          rcases Fw.eq_of_prepareSwitch device.sound prepared with ⟨-, rfl⟩ | ⟨-, -, rfl⟩
          · rw [Fw.prepared_dfi]
            exact admitted
          · exact admitted
      | initStart =>
          have released : fw.enterPending.dfi = fw.beforeRelease.dfi := rfl
          rw [released, fw.beforeRelease_dfi]
          split
          · simp
          · exact admitted
      | pllLock => exact admitted

end Handlers

namespace Sys

variable [Platform]

/-- What the host's task relies on when it sends and when it reads an answer. -/
structure HostFacts (sys : Sys) : Prop where
  app : sys.app = .ready → sys.fw.ready = true
  calling : ∀ freqId, sys.main.call? = some (.prepSwitch freqId) → sys.fw.ready = true
  answer : (sys.notified .main).pending = true → (sys.notified .main).value = .success →
    sys.fw.ready = true

/-- The host's task, the update interrupt and the order of the queue. -/
structure HostSound (sys : Sys) : Prop where
  facts : sys.HostFacts
  posted : ∀ msg ∈ sys.inFlight, msg.Is .prep → sys.fw.ready = true
  updateIrq : sys.fw.ready = true → sys.fw.wddr.irq.enabled .ctrlupdReq = false
  ordered : sys.inFlight.Pairwise fun earlier later =>
    earlier.Is .prep → ¬ later.Is .ctrlupdAssert

theorem ready_of_taken {label : Label} {sys next : Sys} (reachable : system.Reachable sys)
    (taken : system.step label sys = some next) (ready : sys.fw.ready = true) :
    next.fw.ready = true := by
  by_cases isProcess : label = .process
  · subst isProcess
    obtain ⟨current, device⟩ := deviceSound_of_reachable reachable
    obtain ⟨msg, -, step⟩ := processStep_of_taken taken
    cases step with
    | unknown => exact ready
    | failed => exact ready
    | answered _ ran =>
        rw [answered_fw]
        exact ran.ready device ready
  · exact (sameControl_of_taken taken isProcess).ready.trans ready

/-- A message arrives with an event that only a line reports while the line is enabled. -/
theorem Arrives.interruptible {sys : Sys} {label : Label} {msg : FwMsg} {event : FwPhyEvent}
    (arrives : Arrives sys label msg) (isEvent : msg.Is event)
    (fromIrq : event ∉ [.boot, .prep, .phymstrReq, .phymstrExit, .phyupdReq]) :
    ∃ line data xSender late, label = .isr line data xSender late ∧ event ∈ line.events ∧
      sys.fw.interruptible line = true := by
  have differs : ∀ other : FwPhyEvent, other ∈ [FwPhyEvent.boot, .prep, .phymstrReq,
      .phymstrExit, .phyupdReq] → other.code ≠ event.code := by
    intro other listed same
    have decoded := congrArg FwPhyEvent.ofCode? same
    rw [FwPhyEvent.ofCode?_code, FwPhyEvent.ofCode?_code, Option.some.injEq] at decoded
    exact fromIrq (decoded ▸ listed)
  cases arrives with
  | sent sends =>
      exfalso
      cases sends with
      | @main call tries sending =>
          cases call with
          | start => exact differs .boot (by simp) isEvent
          | prepSwitch => exact differs .prep (by simp) isEvent
      | calRequest => exact differs .phymstrReq (by simp) isEvent
      | calExit => exact differs .phymstrExit (by simp) isEvent
      | timer => exact differs .phyupdReq (by simp) isEvent
  | @reported line data xSender late isIsr interruptible reports =>
      exact ⟨line, data, xSender, late, isIsr, reports.mem_events isEvent, interruptible⟩

/-- A controller update is reported only before the firmware is ready. -/
theorem HostSound.not_ready_of_update {sys : Sys} {label : Label} {msg : FwMsg}
    (host : sys.HostSound) (arrives : Arrives sys label msg) (isUpdate : msg.Is .ctrlupdAssert) :
    sys.fw.ready = false := by
  obtain ⟨line, -, -, -, -, listed, interruptible⟩ :=
    arrives.interruptible isUpdate (by decide)
  obtain rfl : line = .ctrlupdReq := IrqLine.eq_of_mem_events listed (by decide)
  have enabled : sys.fw.wddr.irq.enabled .ctrlupdReq = true := by
    simp only [Fw.interruptible, Bool.and_eq_true] at interruptible
    exact interruptible.1
  cases ready : sys.fw.ready with
  | false => rfl
  | true =>
      rw [host.updateIrq ready] at enabled
      cases enabled

theorem Arrives.calling {sys : Sys} {label : Label} {msg : FwMsg}
    (arrives : Arrives sys label msg) (isPrep : msg.Is .prep) :
    ∃ freqId, sys.main.call? = some (.prepSwitch freqId) := by
  cases arrives with
  | sent sends =>
      cases sends with
      | @main call tries sending =>
          cases call with
          | start =>
              have isBoot : FwPhyEvent.boot.code = FwPhyEvent.prep.code := isPrep
              exact absurd isBoot (by decide)
          | prepSwitch freqId => exact ⟨freqId, by rw [sending]; rfl⟩
      | calRequest => exact absurd isPrep (by decide)
      | calExit => exact absurd isPrep (by decide)
      | timer => exact absurd isPrep (by decide)
  | @reported line _ _ _ _ _ reports =>
      exact absurd (reports.mem_events isPrep) (IrqLine.notMem_events _ (by decide))

theorem HostSound.ordered_of_taken {label : Label} {sys next : Sys} (host : sys.HostSound)
    (reachable : system.Reachable sys) (taken : system.step label sys = some next) :
    next.inFlight.Pairwise fun earlier later => earlier.Is .prep → ¬ later.Is .ctrlupdAssert := by
  by_cases isProcess : label = .process
  · subst isProcess
    obtain ⟨current, device⟩ := deviceSound_of_reachable reachable
    obtain ⟨msg, task, step⟩ := processStep_of_taken taken
    have ordered := host.ordered
    rcases step.inFlight device with removed | ⟨-, same⟩
    · rw [inFlight, task] at ordered
      rw [removed]
      exact (List.pairwise_cons.mp ordered).2
    · rw [same]
      exact ordered
  · rcases inFlight_of_other taken isProcess with same | ⟨last, arrives, added⟩
    · rw [same]
      exact host.ordered
    · rw [added]
      apply List.pairwise_append.mpr
      refine ⟨host.ordered, List.pairwise_singleton _ _, ?_⟩
      intro earlier listed later isLast isPrep isUpdate
      rw [List.mem_singleton] at isLast
      subst isLast
      have ready := host.posted earlier listed isPrep
      rw [host.not_ready_of_update arrives isUpdate] at ready
      cases ready

theorem HostSound.posted_of_taken {label : Label} {sys next : Sys} (host : sys.HostSound)
    (reachable : system.Reachable sys) (taken : system.step label sys = some next) :
    ∀ msg ∈ next.inFlight, msg.Is .prep → next.fw.ready = true := by
  intro msg listed isPrep
  apply ready_of_taken reachable taken
  rcases mem_inFlight_of_taken reachable taken listed with earlier | ⟨-, arrives⟩
  · exact host.posted msg earlier isPrep
  · obtain ⟨freqId, calling⟩ := arrives.calling isPrep
    exact host.facts.calling freqId calling

theorem HostSound.updateIrq_of_taken {label : Label} {sys next : Sys} (host : sys.HostSound)
    (reachable : system.Reachable sys) (taken : system.step label sys = some next)
    (ready : next.fw.ready = true) : next.fw.wddr.irq.enabled .ctrlupdReq = false := by
  by_cases isProcess : label = .process
  · subst isProcess
    obtain ⟨current, device⟩ := deviceSound_of_reachable reachable
    obtain ⟨msg, -, step⟩ := processStep_of_taken taken
    cases step with
    | unknown => exact host.updateIrq ready
    | failed => exact host.updateIrq ready
    | answered _ ran =>
        rw [answered_fw] at ready ⊢
        exact ran.updateIrq device host.updateIrq ready
  · have effect := (otherStep_of_taken taken isProcess).effect
    rw [effect.sameControl.ready] at ready
    have disabled := host.updateIrq ready
    cases enabled : next.fw.wddr.irq.enabled .ctrlupdReq with
    | false => rfl
    | true =>
        rw [effect.shrinks.enabled _ enabled] at disabled
        cases disabled

omit [Platform] in
/-- What `__send_fw_msg` makes of a response. -/
theorem afterResponse_cases (call : FirmwareCall) (tries : Nat) (value : FwResponse) :
    (∃ again, afterResponse call tries value = .inl (.send call again)) ∨
      (∃ passed, afterResponse call tries value = .inr passed ∧
        (passed = true → value = .success)) := by
  cases value with
  | success => exact .inr ⟨true, rfl, fun _ => rfl⟩
  | failure => exact .inr ⟨false, rfl, fun passed => nomatch passed⟩
  | retry =>
      by_cases last : tries - 1 = 0
      · exact .inr ⟨false, by simp [afterResponse, last], fun passed => nomatch passed⟩
      · exact .inl ⟨tries - 1, by simp [afterResponse, last]⟩

/-- A call that returns is over or made again, and only SUCCESS makes the application ready. -/
theorem resume_host (call : FirmwareCall) (tries : Nat) (value : FwResponse) (sys : Sys) :
    ((sys.resume call tries value).main.call? = none ∨
        (sys.resume call tries value).main.call? = some call) ∧
      ((sys.resume call tries value).app = .ready → sys.app = .ready ∨
        (value = .success ∧ ∃ calibrate trainDram, call = .start calibrate trainDram)) ∧
      (sys.resume call tries value).notified = sys.notified := by
  unfold resume
  rcases afterResponse_cases call tries value with ⟨again, retried⟩ | ⟨passed, returned, success⟩
  · simp only [retried]
    exact ⟨.inr rfl, .inl, trivial⟩
  · simp only [returned]
    refine ⟨.inl rfl, ?_, trivial⟩
    intro ready
    cases call with
    | start calibrate trainDram =>
        cases passed with
        | true => exact .inr ⟨success rfl, calibrate, trainDram, rfl⟩
        | false => exact .inl ready
    | prepSwitch freqId =>
        cases passed with
        | true => exact .inl ready
        | false => cases ready

omit [Platform] in
theorem HostFacts.of_frame {before after : Sys} (facts : before.HostFacts)
    (ready : before.fw.ready = true → after.fw.ready = true) (main : after.main = before.main)
    (app : after.app = before.app) (notified : after.notified .main = before.notified .main) :
    after.HostFacts where
  app isReady := ready (facts.app (app ▸ isReady))
  calling freqId calls := ready (facts.calling freqId (main ▸ calls))
  answer pending success := by
    rw [notified] at pending success
    exact ready (facts.answer pending success)

/-- A call that returns with an answer the firmware gave. -/
theorem HostFacts.resume {sys : Sys} (facts : sys.HostFacts) {call : FirmwareCall} {tries : Nat}
    {value : FwResponse} (calls : sys.main.call? = some call)
    (answered : value = .success → (∃ calibrate trainDram, call = .start calibrate trainDram) →
      sys.fw.ready = true) : (sys.resume call tries value).HostFacts := by
  obtain ⟨main, app, notified⟩ := resume_host call tries value sys
  constructor
  · intro isReady
    rw [resume_fw]
    rcases app isReady with wasReady | ⟨success, isStart⟩
    · exact facts.app wasReady
    · exact answered success isStart
  · intro freqId callsAfter
    rw [resume_fw]
    rcases main with none | same
    · rw [none] at callsAfter
      cases callsAfter
    · rw [same] at callsAfter
      exact facts.calling freqId (calls.trans callsAfter)
  · intro pending success
    rw [resume_fw]
    rw [notified] at pending success
    exact facts.answer pending success

theorem HostFacts.hostMessage {sys next : Sys} {req : Message} (facts : sys.HostFacts)
    (taken : sys.stepHostMessage req = some next) : next.HostFacts := by
  unfold stepHostMessage at taken
  split at taken
  · split at taken
    · rename_i call isCall
      rw [← Option.some.inj taken]
      refine ⟨facts.app, ?_, facts.answer⟩
      intro freqId calls
      obtain rfl : call = .prepSwitch freqId := Option.some.inj calls
      unfold handleMessage at isCall
      split at isCall
      · dsimp only at isCall
        split at isCall
        · rename_i isReady
          exact facts.app isReady
        · cases isCall
      · repeat' split at isCall
        all_goals cases isCall
    · rw [← Option.some.inj taken]
      exact facts.of_frame id rfl rfl rfl
  · cases taken

omit [Platform] in
theorem HostFacts.clear {sys : Sys} (facts : sys.HostFacts) :
    (sys.clearNotification .main).HostFacts where
  app := facts.app
  calling := facts.calling
  answer pending := by simp [clearNotification] at pending

theorem HostFacts.mainStep {sys next : Sys} (facts : sys.HostFacts)
    (taken : sys.stepMain = some next) : next.HostFacts := by
  unfold stepMain at taken
  split at taken
  · cases taken
  · rename_i call clearing
    rw [← Option.some.inj taken]
    refine ⟨facts.app, ?_, facts.clear.answer⟩
    intro freqId calls
    exact facts.calling freqId (by rw [clearing]; exact calls)
  · rename_i call tries sending
    obtain ⟨middle, isSent, same⟩ := Option.map_eq_some_iff.mp taken
    have kept : sys.fw.ready = true → middle.fw.ready = true := by
      rw [eq_of_send isSent]
      exact (Fw.sameControl_sendToBack _ _).ready.trans
    rw [← same]
    refine ⟨?_, ?_, ?_⟩
    · intro isReady
      rw [eq_of_send isSent] at isReady
      exact kept (facts.app isReady)
    · intro freqId calls
      exact kept (facts.calling freqId (by rw [sending]; exact calls))
    · intro pending success
      rw [eq_of_send isSent] at pending success
      exact kept (facts.answer pending success)
  · rename_i call tries waiting
    split at taken
    · rename_i pending
      rw [← Option.some.inj taken]
      apply facts.clear.resume
      · change sys.main.call? = some call
        rw [waiting]
        rfl
      · intro success _
        exact facts.answer pending success
    · cases taken

/-- Only the wait of a preparation runs out. -/
theorem HostFacts.mainTimeout {sys next : Sys} (facts : sys.HostFacts)
    (taken : sys.stepMainTimeout = some next) : next.HostFacts := by
  unfold stepMainTimeout at taken
  split at taken
  · rename_i call tries waiting
    split at taken
    · rename_i timesOut
      rw [← Option.some.inj taken]
      apply facts.resume
      · rw [waiting]
        rfl
      · rintro _ ⟨calibrate, trainDram, rfl⟩
        simp [FirmwareCall.timesOut] at timesOut
    · cases taken
  · cases taken

theorem HostFacts.processed {sys next : Sys} {msg : FwMsg} (facts : sys.HostFacts)
    (reachable : system.Reachable sys) (step : ProcessStep sys msg next) : next.HostFacts := by
  obtain ⟨current, device⟩ := deviceSound_of_reachable reachable
  cases step with
  | unknown => exact facts.of_frame id rfl rfl rfl
  | failed => exact facts.of_frame id rfl rfl rfl
  | answered _ ran =>
      have kept := ran.ready device
      constructor
      · intro isReady
        rw [answered_app] at isReady
        rw [answered_fw]
        exact kept (facts.app isReady)
      · intro freqId calls
        rw [answered_main] at calls
        rw [answered_fw]
        exact kept (facts.calling freqId calls)
      · intro pending success
        rw [answered_notified] at pending success
        rw [answered_fw]
        split at pending
        · rename_i sentByMain
          rw [if_pos sentByMain] at success
          exact ran.ready_of_success device success
        · rename_i sentByOther
          rw [if_neg sentByOther] at success
          exact kept (facts.answer pending success)

theorem HostFacts.of_taken {label : Label} {sys next : Sys} (facts : sys.HostFacts)
    (reachable : system.Reachable sys) (taken : system.step label sys = some next) :
    next.HostFacts := by
  by_cases isProcess : label = .process
  · subst isProcess
    obtain ⟨msg, -, step⟩ := processStep_of_taken taken
    exact facts.processed reachable step
  · cases isHost : isHostStep label with
    | false =>
        obtain ⟨main, app, notified⟩ := (otherStep_of_taken taken isProcess).host isHost
        exact facts.of_frame (ready_of_taken reachable taken) main app notified
    | true =>
        obtain ⟨-, running⟩ := stepRunning_of_taken taken
        cases label with
        | hostMessage req => exact facts.hostMessage running
        | main => exact facts.mainStep running
        | mainTimeout => exact facts.mainTimeout running
        | _ => cases isHost

theorem hostSound_of_reachable {sys : Sys} (reachable : system.Reachable sys) :
    sys.HostSound := by
  apply reachable.invariant (motive := fun sys => sys.HostSound)
  · rintro _ ⟨table, reset, hw, timerStarts, -, -, rfl⟩
    refine ⟨⟨?_, ?_, ?_⟩, ?_, ?_, ?_⟩
    · exact fun isReady => nomatch isReady
    · exact fun freqId calls => nomatch calls
    · exact fun pending => nomatch pending
    · exact fun msg listed => nomatch listed
    · exact fun ready => nomatch ready
    · exact List.Pairwise.nil
  · intro label sys next before _ taken host
    exact ⟨host.facts.of_taken before taken, host.posted_of_taken before taken,
      host.updateIrq_of_taken before taken, host.ordered_of_taken before taken⟩

/-- The firmware can carry out a switch: it runs, the DFI machine is not in its update state,
and no controller update is on its way. -/
structure SwitchOpen (sys : Sys) : Prop where
  running : sys.fw.Running
  admitted : sys.fw.dfi ≠ .ctrlUpd
  noUpdate : ∀ msg ∈ sys.inFlight, ¬ msg.Is .ctrlupdAssert

theorem SwitchOpen.of_taken {label : Label} {sys next : Sys} (isOpen : sys.SwitchOpen)
    (reachable : system.Reachable sys) (taken : system.step label sys = some next) :
    next.SwitchOpen := by
  have host := hostSound_of_reachable reachable
  have noUpdate : ∀ msg ∈ next.inFlight, ¬ msg.Is .ctrlupdAssert := by
    intro msg listed isUpdate
    rcases mem_inFlight_of_taken reachable taken listed with earlier | ⟨-, arrives⟩
    · exact isOpen.noUpdate msg earlier isUpdate
    · have notReady := host.not_ready_of_update arrives isUpdate
      rw [isOpen.running.1] at notReady
      cases notReady
  by_cases isProcess : label = .process
  · subst isProcess
    obtain ⟨current, device⟩ := deviceSound_of_reachable reachable
    obtain ⟨msg, task, step⟩ := processStep_of_taken taken
    cases step with
    | unknown => exact ⟨isOpen.running, isOpen.admitted, noUpdate⟩
    | failed => exact ⟨isOpen.running, isOpen.admitted, noUpdate⟩
    | answered decoded ran =>
        refine ⟨?_, ?_, noUpdate⟩
        · rw [answered_fw]
          exact ran.running device isOpen.running
        · rw [answered_fw]
          apply ran.dfi_ne_ctrlUpd device isOpen.admitted
          rintro rfl
          exact isOpen.noUpdate msg (mem_inFlight_of_task task)
            (FwPhyEvent.ofCode?_eq_some_iff.mp decoded)
  · have same := sameControl_of_taken taken isProcess
    refine ⟨?_, ?_, noUpdate⟩
    · rw [Fw.Running, same.ready, same.error]
      exact isOpen.running
    · rw [same.dfi]
      exact isOpen.admitted

end Sys

end WavLpddr
