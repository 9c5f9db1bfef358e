import WavLpddr.ServiceLog

/-!
# What the log of a run says

The log of the queue is a run of the mailbox.  It follows that messages are served exactly
once and in the order of their posts, that every notification holds the last answer to its
task, that the two machines are where the served messages lead them, and that an event that
was told to wait is taken after the one that ends the wait.
-/

namespace WavLpddr

open EventMachine TransitionSystem Mailbox

namespace Sys

section Runs

variable [Platform]

/-- The firmware together with the log of its queue. -/
abbrev logged : TransitionSystem (Sys × List (Entry FwMsg FwResponse)) Label :=
  recorded system logs

variable {label : Label} {sys next : Sys} {msg : FwMsg}

/-- Only interrupts and the timer offer a message to a full queue. -/
theorem lost_of_taken (taken : system.step label sys = some next)
    (lost : Entry.lost msg ∈ logs label sys) :
    (∃ line, IrqLine.Reports line msg) ∨ (msg = phyupdReqMsg ∧
      (BuildConfig.configAssert = true →
        next.fault = some (.assertion .dfiPhyupdTimerCallback))) := by
  obtain ⟨-, running⟩ := stepRunning_of_taken taken
  have offered : sys.offer label = some msg ∧ ¬ sys.fw.mq.length < msgQueueLen := by
    unfold logs at lost
    split at lost
    · simp at lost
    · split at lost
      · simp at lost
      · split at lost <;> simp at lost
    · split at lost
      · simp at lost
      · rename_i offered isOffered
        split at lost
        · simp at lost
        · rename_i full
          obtain rfl : msg = offered := by simpa using lost
          exact ⟨isOffered, full⟩
  obtain ⟨isOffered, full⟩ := offered
  cases label with
  | main =>
      change sys.stepMain = some next at running
      cases task : sys.main with
      | send call tries => simp [stepMain, task, send, full] at running
      | _ => simp [offer, task] at isOffered
  | cal =>
      change sys.stepCal = some next at running
      cases task : sys.cal with
      | send => simp [stepCal, task, send, full] at running
      | sendExit => simp [stepCal, task, send, full] at running
      | _ => simp [offer, task] at isOffered
  | timerSend =>
      right
      refine ⟨(Option.some.inj isOffered).symm, fun asserts => ?_⟩
      simp only [stepRunning, stepTimerSend] at running
      split at running
      · cases running
      · have stopped : configASSERT .dfiPhyupdTimerCallback
            (decide (sys.fw.mq.length < msgQueueLen)) =
              .error (.assertion .dfiPhyupdTimerCallback) := by
          simp [configASSERT, asserts, full]
        rw [stopped] at running
        rw [← Option.some.inj running]
  | isr line data xSender late => exact .inl ⟨line, Fw.reports_of_report isOffered⟩
  | _ => cases isOffered

/-- What the log says about the messages. -/
structure Delivered (pair : Sys × List (Entry FwMsg FwResponse)) : Prop where
  served : arrivals pair.2 = (services pair.2).map Prod.fst ++ pair.1.inFlight
  bounded : pair.1.fw.mq.length ≤ msgQueueLen
  lost : ∀ msg, Entry.lost msg ∈ pair.2 → (∃ line, IrqLine.Reports line msg) ∨
    (msg = phyupdReqMsg ∧ (BuildConfig.configAssert = true →
      pair.1.fault = some (.assertion .dfiPhyupdTimerCallback)))

/-- Along every run the messages are served in the order of their posts, and none of them is
lost but a report of an interrupt or a message of the timer. -/
theorem delivered_of_reachable {pair : Sys × List (Entry FwMsg FwResponse)}
    (reachable : logged.Reachable pair) : Delivered pair := by
  obtain ⟨start, isStart, ran⟩ := mailboxRefinement.exec_of_reachable reachable
  constructor
  · have arrived := arrivals_of_exec isStart ran
    change _ = _ ++ pair.1.mailbox.waiting at arrived
    rwa [waiting_mailbox] at arrived
  · exact length_queue_le (mailboxRefinement.reachable_view reachable.of_monitored)
  · apply reachable.invariant (motive := fun pair => ∀ msg, Entry.lost msg ∈ pair.2 →
      (∃ line, IrqLine.Reports line msg) ∨ (msg = phyupdReqMsg ∧
        (BuildConfig.configAssert = true →
          pair.1.fault = some (.assertion .dfiPhyupdTimerCallback))))
    · rintro ⟨sys, log⟩ ⟨-, rfl⟩ msg lost
      simp at lost
    · rintro label ⟨sys, log⟩ pair before - taken earlier msg lost
      obtain ⟨next, moved, rfl⟩ := Option.map_eq_some_iff.mp taken
      rcases List.mem_append.mp lost with wasLost | isLost
      · rcases earlier msg wasLost with reported | ⟨isTimer, stops⟩
        · exact .inl reported
        · refine .inr ⟨isTimer, fun asserts => ?_⟩
          obtain ⟨healthy, -⟩ := stepRunning_of_taken moved
          rw [stops asserts] at healthy
          cases healthy
      · exact lost_of_taken moved isLost

/-- What the log says about the answers. -/
structure Answered (pair : Sys × List (Entry FwMsg FwResponse)) : Prop where
  control : (Protocol.system.exec (services pair.2) Protocol.start).map Protocol.control =
    some pair.1.fw.control
  told : ∀ task, (pair.1.notified task).value =
    (Protocol.lastAnswer task (services pair.2)).getD .success

/-- Along every run the state machines and the answers are those of the protocol, for the
messages in the order of their posts. -/
theorem answered_of_reachable {pair : Sys × List (Entry FwMsg FwResponse)}
    (reachable : logged.Reachable pair) : Answered pair := by
  obtain ⟨start, ⟨-, -, isStart⟩, ran⟩ := mailboxRefinement.exec_of_reachable reachable
  have served := (exec_waiting ran).2
  rw [isStart] at served
  change Protocol.system.exec (services pair.2) Protocol.start =
    some pair.1.mailbox.server at served
  constructor
  · rw [served]
    rfl
  · exact Protocol.told_of_exec served

/-- The two machines of a reachable state agree with each other. -/
theorem control_sound_of_reachable (reachable : system.Reachable sys) :
    sys.fw.control.Sound :=
  Protocol.sound_of_reachable
    (reachable_server (mailboxRefinement.reachable_view reachable))

end Runs

section Released

variable [Platform] {sys : Sys} {event : FwPhyEvent} {data : MsgData}

theorem refusal_of_handled {response : FwResponse} {after : Fw} {fw : Fw}
    (ran : Handled data fw event response after) (waits : response = .retry) :
    fw.control.refusal event = some .retry := by
  cases ran with
  | refused refusal => rw [Fw.refusal_control, refusal, waits]
  | @start calibrate trainDram booted notReady boots =>
      have answered := fw.booted_finishStart booted
      rw [waits] at answered
      cases answered
  | dfi => cases waits
  | fsw => cases waits

/-- The event that ends a wait is taken and cannot fail. -/
theorem handled_releasing {fw : Fw} (waits : fw.control.refusal event = some .retry)
    (free : fw.control.refusal (Control.releasing event) = none) :
    ∃ after, handled (Control.releasing event) .null fw = .ok (.success, after) := by
  obtain ⟨running, ⟨isDfi, pending⟩ | ⟨isFsw, updating⟩⟩ := Control.waits_of_retry waits
  · rw [Control.releasing, if_pos isDfi] at free ⊢
    obtain ⟨ready, healthy, notUpdating⟩ := Control.guard_eq_none
      ((Control.refusal_of_fsw rfl).symm.trans free)
    have isRunning : fw.Running := ⟨ready, healthy⟩
    have admitted : fw.dfi ≠ .ctrlUpd := of_decide_eq_false notUpdating
    have taken : fw.fswTransition .pllLock .null = .ok fw.finishSwitch := by
      change fw.fsw = .pending at pending
      simp [Fw.fswTransition, pending]
    refine ⟨fw.finishSwitch, ?_⟩
    change fw.guarded (fw.dfi = .ctrlUpd) _ = _
    rw [Fw.guarded, if_neg (not_not_intro isRunning), if_neg admitted, taken]
    rfl
  · have notDfi : event.kind ≠ .dfi := by simp [isFsw]
    rw [Control.releasing, if_neg notDfi] at free ⊢
    obtain ⟨ready, healthy, notPending⟩ := Control.guard_eq_none
      ((Control.refusal_of_dfi rfl).symm.trans free)
    have isRunning : fw.Running := ⟨ready, healthy⟩
    have admitted : fw.fsw ≠ .pending := of_decide_eq_false notPending
    have taken : fw.dfiTransition .ctrlupdDeassert .null = .ok fw.exitCtrlUpd := by
      change fw.dfi = .ctrlUpd at updating
      simp [Fw.dfiTransition, updating]
    refine ⟨fw.exitCtrlUpd, ?_⟩
    change fw.guarded (fw.fsw = .pending) _ = _
    rw [Fw.guarded, if_neg (not_not_intro isRunning), if_neg admitted, taken]
    rfl

/-- When an event is told to try again, the message that ends its wait would succeed, and then
the event is taken.  Whether that message comes is for the PLL and the controller. -/
theorem retry_released (reachable : system.Reachable sys) {same : Fw}
    (retried : eventHandlers event event data sys.fw = .ok (.retry, same)) :
    ∃ after, eventHandlers (Control.releasing event) (Control.releasing event) .null sys.fw =
        .ok (.success, after) ∧
      ∀ response next, eventHandlers event event data after = .ok (response, next) →
        response = .success := by
  have sound := control_sound_of_reachable reachable
  rw [eventHandlers_eq] at retried
  have waits := refusal_of_handled (handled_of_ok retried) rfl
  obtain ⟨free, taken⟩ := sound.released waits
  obtain ⟨after, released⟩ := handled_releasing waits free
  refine ⟨after, by rw [eventHandlers_eq]; exact released, ?_⟩
  intro response next again
  rw [eventHandlers_eq] at again
  have control : after.control = sys.fw.control.next (Control.releasing event) := by
    have served := (handled_of_ok released).serves
    rw [Control.serve, free] at served
    have notBoot : (Control.releasing event).kind ≠ .boot := by
      unfold Control.releasing
      split <;> simp [FwPhyEvent.kind]
    simpa [notBoot] using served.symm
  rw [← control] at taken
  cases handled_of_ok again with
  | refused refusal =>
      rw [after.refusal_control, refusal] at taken
      cases taken
  | start =>
      obtain ⟨-, ⟨isDfi, -⟩ | ⟨isFsw, -⟩⟩ := Control.waits_of_retry waits
      · cases isDfi
      · cases isFsw
  | dfi => rfl
  | fsw => rfl

/-- A pending switch makes the DFI events wait. -/
theorem retried_of_pending {fw : Fw} (running : fw.Running) (pending : fw.fsw = .pending)
    (isDfi : event.kind = .dfi) :
    eventHandlers event event data fw = .ok (.retry, fw) := by
  rw [eventHandlers_eq]
  simp only [handled, isDfi]
  rw [Fw.guarded, if_neg (not_not_intro running), if_pos pending]

end Released

/-- The state after a run of the reference system, with the log of the queue. -/
def loggedAfter (labels : List Label)
    (possible : ((observedReference (fun label sys record =>
      record ++ @logs referencePlatform label sys) []).execWhere (fun _ _ => True) labels
        (referenceStart, [])).isSome) : Sys × List (Entry FwMsg FwResponse) :=
  observedAfterWhere _ [] (fun _ _ => True) labels possible

theorem reachable_loggedAfter {labels : List Label}
    (possible : ((observedReference (fun label sys record =>
      record ++ @logs referencePlatform label sys) []).execWhere (fun _ _ => True) labels
        (referenceStart, [])).isSome) :
    (@logged referencePlatform).Reachable (loggedAfter labels possible) :=
  reachable_observedAfterWhere possible

/-- A switch is pending, and the request of the timer waits behind it. -/
def waitingRun : List Label :=
  bootRun ++ prepRun 0 ++ initStartIrq ++ handleNext ++ [.timerExpire, .timerSend]

theorem delivered_waitingRun :
    let := referencePlatform
    Delivered (loggedAfter waitingRun (by decide +kernel)) :=
  @delivered_of_reachable referencePlatform _ (reachable_loggedAfter _)

theorem answered_waitingRun : Answered (loggedAfter waitingRun (by decide +kernel)) :=
  @answered_of_reachable referencePlatform _ (reachable_loggedAfter _)

def waitingState : Sys := after waitingRun (by decide +kernel)

theorem retry_released_waitingState :
    let := referencePlatform
    ∃ after, eventHandlers .pllLock .pllLock .null waitingState.fw = .ok (.success, after) ∧
      ∀ response next, eventHandlers .phyupdReq .phyupdReq .null after = .ok (response, next) →
        response = .success :=
  @retry_released referencePlatform waitingState .phyupdReq .null (reachable_after _) _
    (@retried_of_pending referencePlatform .phyupdReq .null waitingState.fw
      (by decide +kernel) (by decide +kernel) rfl)

end Sys

end WavLpddr
