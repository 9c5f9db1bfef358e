import WavLpddr.Faults
import WavLpddr.RequestLines

/-!
# Messages in flight

The message in hand and the queue behind it are one sequence.  Handling a message
removes it from the front, and every other step leaves the sequence alone or adds
one message at the end.  An interrupt that reports a one-shot event disables its
own line, and no step but the handling of a message enables one.
-/

namespace WavLpddr

open EventMachine TransitionSystem

/-- The events that the handler of a line reports. -/
def IrqLine.events : IrqLine → List FwPhyEvent
  | .initStart => [.initStart]
  | .initComplete => [.initComplete]
  | .pll => [.pllLossLock, .pllLock, .pllInitLock]
  | .ctrlupdReq => [.ctrlupdAssert, .ctrlupdDeassert]
  | .phyupdAck => [.phyupdAck]
  | .phymstrAck => [.phymstrAck]

/-- The lines whose handler disables them. -/
def IrqLine.oneShot : IrqLine → Bool
  | .initStart | .initComplete | .phyupdAck | .phymstrAck => true
  | _ => false

/-- A message from the handler of a line.  Only the PLL's handler leaves the data and the
sender to chance. -/
structure IrqLine.Reports (line : IrqLine) (msg : FwMsg) : Prop where
  event : ∃ event ∈ line.events, msg.event = event.code
  blank : line ≠ .pll → msg.data = .null ∧ msg.xSender = none

theorem IrqLine.Reports.notify {line : IrqLine} {event : FwPhyEvent}
    (listed : event ∈ line.events) : line.Reports ⟨event.code, .null, none⟩ :=
  ⟨⟨event, listed, rfl⟩, fun _ => ⟨rfl, rfl⟩⟩

/-- Each event is reported by one line. -/
theorem IrqLine.eq_of_mem_events {line other : IrqLine} {event : FwPhyEvent}
    (listed : event ∈ line.events) (own : event ∈ other.events) : line = other := by
  have apart : ∀ shared ∈ line.events, shared ∈ other.events → line = other := by
    cases line <;> cases other <;> decide
  exact apart event listed own

/-- No line reports an event that a task sends. -/
theorem IrqLine.notMem_events {line : IrqLine} : ∀ event ∈ [FwPhyEvent.boot, .prep,
    .phymstrReq, .phymstrExit, .phyupdReq], event ∉ line.events := by
  cases line <;> decide

/-- A message with the event of a line comes from that line. -/
theorem IrqLine.Reports.mem_events {line : IrqLine} {msg : FwMsg} {event : FwPhyEvent}
    (reports : line.Reports msg) (isEvent : msg.Is event) : event ∈ line.events := by
  obtain ⟨reported, listed, isCode⟩ := reports.event
  have same : FwPhyEvent.ofCode? reported.code = FwPhyEvent.ofCode? event.code := by
    rw [← isCode, ← isEvent]
  rw [FwPhyEvent.ofCode?_code, FwPhyEvent.ofCode?_code, Option.some.injEq] at same
  exact same ▸ listed

/-- The interrupts that can be taken do not grow. -/
structure Irq.Shrinks (before after : Irq) : Prop where
  mask : after.mask = before.mask
  enabled : ∀ line, after.enabled line = true → before.enabled line = true

theorem Irq.Shrinks.refl (irq : Irq) : irq.Shrinks irq := ⟨rfl, fun _ on => on⟩

theorem Irq.Shrinks.armed {before after : Irq} (shrinks : before.Shrinks after)
    (armed : after.armed = true) : before.armed = true := by
  simp only [Irq.armed, Bool.and_eq_true, shrinks.mask] at armed ⊢
  exact ⟨shrinks.enabled _ armed.1, armed.2⟩

theorem Irq.shrinks_disable (line : IrqLine) (irq : Irq) : irq.Shrinks (irq.disableIrq line) where
  mask := rfl
  enabled other on := by
    by_cases same : other = line
    · simp [Irq.disableIrq, same] at on
    · simpa [Irq.disableIrq, same] using on

namespace Fw

theorem sendToBack_mq (msg : FwMsg) (fw : Fw) :
    (fw.sendToBack msg).mq =
      if fw.mq.length < msgQueueLen then fw.mq ++ [msg] else fw.mq := by
  unfold sendToBack
  split <;> rfl

@[simp]
theorem sendToBack_wddr (msg : FwMsg) (fw : Fw) : (fw.sendToBack msg).wddr = fw.wddr := by
  unfold sendToBack
  split <;> rfl

/-- What one step adds to a queue. -/
def Adds (before after : List FwMsg) (allowed : FwMsg → Prop) : Prop :=
  after = before ∨ ∃ msg, allowed msg ∧ after = before ++ [msg]

theorem adds_sendToBack {allowed : FwMsg → Prop} {msg : FwMsg} (isAllowed : allowed msg)
    (fw : Fw) : Adds fw.mq (fw.sendToBack msg).mq allowed := by
  rw [sendToBack_mq]
  split
  · exact .inr ⟨msg, isAllowed, rfl⟩
  · exact .inl rfl

theorem mem_events_of_pllEvent {status : Word} {event : FwPhyEvent}
    (reported : pllEvent status = some event) : event ∈ IrqLine.events .pll := by
  unfold pllEvent at reported
  split at reported
  · simp [IrqLine.events, ← Option.some.inj reported]
  · split at reported
    · simp [IrqLine.events, ← Option.some.inj reported]
    · split at reported
      · simp [IrqLine.events, ← Option.some.inj reported]
      · cases reported

theorem adds_runIsr (line : IrqLine) (data : MsgData) (xSender : Option TaskHandle)
    (late : List CtrlupdEdge) (fw : Fw) :
    Adds fw.mq (fw.runIsr line data xSender late).mq line.Reports := by
  cases line with
  | pll =>
      unfold runIsr pllIrqHandler
      dsimp only
      split
      · rename_i event reported
        have reports : IrqLine.Reports .pll ⟨event.code, data, xSender⟩ :=
          ⟨⟨event, mem_events_of_pllEvent reported, rfl⟩, fun notPll => absurd rfl notPll⟩
        exact adds_sendToBack reports { fw with wddr := fw.wddr.onPll Pll.clearStatusInt }
      · exact .inl rfl
  | ctrlupdReq =>
      unfold runIsr handleDfiCtrlupdReqIrq
      dsimp only
      split
      · exact adds_sendToBack (.notify (by simp [IrqLine.events])) _
      · split
        · exact adds_sendToBack (.notify (by simp [IrqLine.events])) _
        · exact .inl rfl
  | _ => exact adds_sendToBack (.notify (by simp [IrqLine.events])) _

theorem shrinks_runIsr (line : IrqLine) (data : MsgData) (xSender : Option TaskHandle)
    (late : List CtrlupdEdge) (fw : Fw) :
    fw.wddr.irq.Shrinks (fw.runIsr line data xSender late).wddr.irq := by
  have oneShot : ∀ line source event,
      fw.wddr.irq.Shrinks (Fw.handleOneShotIrq line source event fw).wddr.irq := by
    intro line source event
    have disabled := Irq.shrinks_disable line fw.wddr.irq
    simp only [Fw.handleOneShotIrq, Fw.notifyIsr, sendToBack_wddr]
    exact ⟨rfl, disabled.enabled⟩
  cases line with
  | pll =>
      unfold runIsr pllIrqHandler
      dsimp only
      split
      · rw [sendToBack_wddr]
        exact .refl _
      · exact .refl _
  | ctrlupdReq =>
      have cleared : fw.wddr.irq.Shrinks (fw.wddr.irq.clear Irq.ctrlupdSources) :=
        ⟨rfl, fun _ on => on⟩
      rw [runIsr_late]
      unfold runIsr handleDfiCtrlupdReqIrq
      dsimp only
      split
      · rw [Fw.notifyIsr, sendToBack_wddr]
        exact cleared
      · split
        · rw [Fw.notifyIsr, sendToBack_wddr]
          exact cleared
        · exact cleared
  | _ => exact oneShot _ _ _

theorem disabled_runIsr {line : IrqLine} (oneShot : line.oneShot = true) (data : MsgData)
    (xSender : Option TaskHandle) (late : List CtrlupdEdge) (fw : Fw) :
    (fw.runIsr line data xSender late).wddr.irq.enabled line = false := by
  cases line <;> first
    | (simp [IrqLine.oneShot] at oneShot; done)
    | simp [runIsr, handleInitStartIrq, handleInitCompleteIrq, handleDfiPhyupdAckIrq,
        handleDfiPhymstrAckIrq, handleOneShotIrq, Fw.notifyIsr, onIrq, Irq.clear, Irq.disableIrq]

end Fw

namespace Sys

variable [Platform]

/-- The message in hand and those behind it. -/
def inFlight (sys : Sys) : List FwMsg :=
  match sys.fwTask with
  | .receive => sys.fw.mq
  | .process msg => msg :: sys.fw.mq

/-- The messages that a step may add. -/
inductive Arrives (sys : Sys) (label : Label) (msg : FwMsg) : Prop
  | sent (sends : Sends sys label msg)
  | reported {line : IrqLine} {data : MsgData} {xSender : Option TaskHandle}
      {late : List CtrlupdEdge} (isIsr : label = .isr line data xSender late)
      (interruptible : sys.fw.interruptible line = true)
      (reports : line.Reports msg)

theorem FwEffect.adds {sys : Sys} {label : Label} {after : Fw} (effect : FwEffect sys label after)
    (notReceive : label ≠ .receive) : Fw.Adds sys.fw.mq after.mq (Arrives sys label) := by
  cases effect with
  | received => exact absurd rfl notReceive
  | sent sends => exact Fw.adds_sendToBack (.sent sends) sys.fw
  | isr interruptible =>
      rename_i line data xSender late
      rcases Fw.adds_runIsr line data xSender late sys.fw with same | ⟨msg, reports, added⟩
      · exact .inl same
      · exact .inr ⟨msg, .reported rfl interruptible reports, added⟩
  | _ => exact .inl rfl

theorem FwEffect.shrinks {sys : Sys} {label : Label} {after : Fw}
    (effect : FwEffect sys label after) : sys.fw.wddr.irq.Shrinks after.wddr.irq := by
  cases effect with
  | sent =>
      rw [Fw.sendToBack_wddr]
      exact .refl _
  | calibrated ran =>
      obtain ⟨zqcal, cmn, rfl⟩ := Wddr.eq_of_wddrIocalCalibrate ran
      exact .refl _
  | isr => exact Fw.shrinks_runIsr _ _ _ _ _
  | raised => exact ⟨rfl, fun _ on => on⟩
  | _ => exact .refl _

/-- A step other than the handling of a message adds at most one message. -/
theorem inFlight_of_other {label : Label} {sys next : Sys}
    (taken : system.step label sys = some next) (notProcess : label ≠ .process) :
    Fw.Adds sys.inFlight next.inFlight (Arrives sys label) := by
  have other := otherStep_of_taken taken notProcess
  by_cases isReceive : label = .receive
  · subst isReceive
    obtain ⟨-, taken⟩ := stepRunning_of_taken taken
    simp only [stepRunning, stepReceive] at taken
    split at taken
    · rename_i msg rest waiting queued
      left
      rw [← Option.some.inj taken]
      simp [inFlight, waiting, queued]
    · cases taken
  · have sameTask := other.fwTask isReceive
    have adds := other.effect.adds isReceive
    unfold inFlight
    rw [sameTask]
    cases sys.fwTask with
    | receive => exact adds
    | process msg =>
        rcases adds with same | ⟨last, arrives, added⟩
        · left
          simp [same]
        · right
          exact ⟨last, arrives, by simp [added]⟩

theorem ProcessStep.inFlight {sys next : Sys} {msg : FwMsg} {current : VcoIndex}
    (device : sys.fw.DeviceSound current) (step : ProcessStep sys msg next) :
    next.inFlight = sys.fw.mq ∨ (next.fault.isSome ∧ next.inFlight = sys.inFlight) := by
  cases step with
  | unknown => exact .inl rfl
  | failed =>
      right
      exact ⟨rfl, rfl⟩
  | answered _ ran =>
      left
      unfold Sys.inFlight
      simp [ran.mq device]

/-- The messages of the program: a call, a request of the periodic calibration, one of the
timer, or a report of an interrupt. -/
inductive Posted (msg : FwMsg) : Prop
  | call (call : FirmwareCall) (isCall : msg = call.msg)
  | calRequest (isRequest : msg = phymstrReqMsg)
  | calExit (isExit : msg = phymstrExitMsg)
  | timer (isTimer : msg = phyupdReqMsg)
  | irq (line : IrqLine) (reports : line.Reports msg)

theorem Arrives.posted {sys : Sys} {label : Label} {msg : FwMsg}
    (arrives : Arrives sys label msg) : Posted msg := by
  cases arrives with
  | sent sends =>
      cases sends with
      | main => exact .call _ rfl
      | calRequest => exact .calRequest rfl
      | calExit => exact .calExit rfl
      | timer => exact .timer rfl
  | reported _ _ reports => exact .irq _ reports

/-- A message is in flight in the next state only if it was before or has just arrived. -/
theorem mem_inFlight_of_taken {label : Label} {sys next : Sys} {msg : FwMsg}
    (reachable : system.Reachable sys) (taken : system.step label sys = some next)
    (listed : msg ∈ next.inFlight) :
    msg ∈ sys.inFlight ∨ (label ≠ .process ∧ Arrives sys label msg) := by
  by_cases isProcess : label = .process
  · subst isProcess
    obtain ⟨current, device⟩ := deviceSound_of_reachable reachable
    obtain ⟨handledMsg, task, step⟩ := processStep_of_taken taken
    left
    rcases step.inFlight device with removed | ⟨-, same⟩
    · rw [removed] at listed
      simp [inFlight, task, listed]
    · rwa [same] at listed
  · rcases inFlight_of_other taken isProcess with same | ⟨last, arrives, added⟩
    · left
      rwa [same] at listed
    · rw [added, List.mem_append, List.mem_singleton] at listed
      rcases listed with earlier | rfl
      · exact .inl earlier
      · exact .inr ⟨isProcess, arrives⟩

theorem posted_of_reachable {sys : Sys} (reachable : system.Reachable sys) :
    ∀ msg ∈ sys.inFlight, Posted msg := by
  apply reachable.invariant (motive := fun sys => ∀ msg ∈ sys.inFlight, Posted msg)
  · rintro _ ⟨table, reset, hw, timerStarts, -, -, rfl⟩ msg listed
    simp [inFlight, started] at listed
  · intro label sys next before _ taken posted msg listed
    rcases mem_inFlight_of_taken before taken listed with earlier | ⟨-, arrives⟩
    · exact posted msg earlier
    · exact arrives.posted

omit [Platform] in
/-- Every message carries what its handler follows. -/
theorem Posted.carries {msg : FwMsg} (posted : Posted msg) {event : FwPhyEvent}
    (decoded : FwPhyEvent.ofCode? msg.event = some event) : event.carries msg.data := by
  cases posted with
  | call call isCall =>
      subst isCall
      cases call with
      | start calibrate trainDram =>
          obtain rfl : FwPhyEvent.boot = event := by simpa [FirmwareCall.msg] using decoded
          exact ⟨calibrate, trainDram, rfl⟩
      | prepSwitch freqId =>
          obtain rfl : FwPhyEvent.prep = event := by simpa [FirmwareCall.msg] using decoded
          trivial
  | calRequest isRequest =>
      subst isRequest
      obtain rfl : FwPhyEvent.phymstrReq = event := by simpa [phymstrReqMsg] using decoded
      exact ⟨Sys.calRequest, rfl⟩
  | calExit isExit =>
      subst isExit
      obtain rfl : FwPhyEvent.phymstrExit = event := by simpa [phymstrExitMsg] using decoded
      trivial
  | timer isTimer =>
      subst isTimer
      obtain rfl : FwPhyEvent.phyupdReq = event := by simpa [phyupdReqMsg] using decoded
      trivial
  | irq line reports =>
      obtain ⟨reported, listed, isCode⟩ := reports.event
      obtain rfl : reported = event := by simpa [isCode] using decoded
      cases line <;> simp only [IrqLine.events, List.mem_cons, List.not_mem_nil, or_false]
        at listed
      all_goals rcases listed with rfl | rfl | rfl <;> trivial

omit [Platform] in
theorem mem_inFlight_of_task {sys : Sys} {msg : FwMsg} (task : sys.fwTask = .process msg) :
    msg ∈ sys.inFlight := by
  simp [inFlight, task]

/-- The message in hand asks for a preparation that fails its assertion. -/
def PreparesInvalid (sys : Sys) : Prop :=
  ∃ msg, sys.fwTask = .process msg ∧ msg.Is .prep ∧ sys.fw.PreparesInvalid msg.data.freqId

/-- How a run can end: the impedance calibration fails, the timer finds the queue full, or
a preparation is asked for an invalid frequency. -/
theorem fault_of_taken {label : Label} {sys next : Sys} {fault : Fault}
    (reachable : system.Reachable sys) (taken : system.step label sys = some next)
    (stopped : next.fault = some fault) :
    fault = .assertion .wddrIocalCalibrate ∨ fault = .assertion .dfiPhyupdTimerCallback ∨
      (fault = .assertion .fswPrepareSwitchHandler ∧ label = .process ∧ sys.PreparesInvalid) := by
  by_cases isProcess : label = .process
  · subst isProcess
    obtain ⟨current, device⟩ := deviceSound_of_reachable reachable
    obtain ⟨healthy, -⟩ := stepRunning_of_taken taken
    obtain ⟨msg, task, step⟩ := processStep_of_taken taken
    cases step with
    | unknown => simp [healthy] at stopped
    | answered => simp [healthy] at stopped
    | failed decoded ran =>
        obtain rfl := Option.some.inj stopped
        cases handlerFault_of_error device ran with
        | calibration => exact .inl rfl
        | badData lacks =>
            have posted := posted_of_reachable reachable msg (mem_inFlight_of_task task)
            exact absurd (posted.carries decoded) lacks
        | unprepared isPrep prepares asserts =>
            subst isPrep
            have isPrep := FwPhyEvent.ofCode?_eq_some_iff.mp decoded
            exact .inr (.inr ⟨rfl, rfl, msg, task, isPrep, prepares⟩)
  · rcases (otherStep_of_taken taken isProcess).fault fault stopped with calibration | full
    · exact .inl calibration
    · exact .inr (.inl full)

end Sys

end WavLpddr
