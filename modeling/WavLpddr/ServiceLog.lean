import WavLpddr.Protocol
import WavLpddr.Queue

/-!
# The firmware serves its messages in order

Every step of the firmware is a run of a mailbox whose server is the protocol.  A message that
a task posts is served exactly once and in the order of the posts, its sender is told the
answer, and the two machines move as the protocol says, whatever the tasks, the timer and the
interrupts do in between.  Only a report of an interrupt, or the timer's message when no
assertion stops it, can find the queue full.
-/

namespace WavLpddr

open EventMachine TransitionSystem Mailbox

namespace Fw

/-- What the answers to messages depend on. -/
def control (fw : Fw) : Control := ⟨fw.ready, fw.error, fw.fsw, fw.dfi⟩

theorem guard_control (fw : Fw) (waits : Prop) [Decidable waits] :
    fw.control.guard waits = fw.refusal waits := by
  by_cases running : fw.Running
  · have isRunning : (fw.ready && !fw.error) = true := by
      simp [running.1, running.2]
    rw [refusal, if_neg (not_not_intro running), Control.guard]
    exact (if_pos isRunning).trans (by simp)
  · have notRunning : (fw.ready && !fw.error) ≠ true := by
      intro isRunning
      simp only [Bool.and_eq_true, Bool.not_eq_true'] at isRunning
      exact running isRunning
    rw [refusal, if_pos running, Control.guard]
    exact if_neg notRunning

theorem refusal_control (event : FwPhyEvent) (fw : Fw) :
    fw.control.refusal event = event.refusal fw := by
  unfold Control.refusal FwPhyEvent.refusal
  cases event.kind with
  | boot => rfl
  | lp => rfl
  | dfi => exact fw.guard_control _
  | fsw => exact fw.guard_control _

end Fw

theorem DfiState.next_of_unmatched {state : DfiState} {event : FwPhyEvent}
    (unmatched : state.takes event = false) : state.next event = state := by
  cases state <;> cases event <;> first | rfl | simp [DfiState.takes] at unmatched

theorem FswState.next_of_unmatched {state : FswState} {event : FwPhyEvent}
    (unmatched : state.takes event = false) : state.next event = state := by
  cases state <;> cases event <;> first | rfl | simp [FswState.takes] at unmatched

section Serves

variable [KernelIo] [BuildConfig] {data : MsgData} {fw after : Fw} {event : FwPhyEvent}

theorem DfiStep.dfi_eq (step : DfiStep data fw event after) :
    after.dfi = fw.dfi.next event := by
  cases step with
  | ignored unmatched => exact (DfiState.next_of_unmatched unmatched).symm
  | phymstrReq idle => rw [idle]; rfl
  | phyupdReq idle => rw [idle]; rfl
  | ctrlupdAssert idle entered =>
      obtain ⟨zqcal, phy, rfl⟩ := Fw.eq_of_enterCtrlUpd entered
      rw [idle]
      rfl
  | phymstrAck pending => rw [pending]; rfl
  | phymstrAbort pending => rw [pending]; rfl
  | phymstrExit granted => rw [granted]; rfl
  | phyupdAck updating finished =>
      obtain ⟨update, rfl⟩ := Fw.eq_of_finishPhyUpd finished
      rw [updating]
      rfl
  | phyupdAbort updating => rw [updating]; rfl
  | ctrlupdDeassert updating => rw [updating]; rfl

theorem DfiStep.control_eq (step : DfiStep data fw event after) (isDfi : event.kind = .dfi) :
    after.control = fw.control.next event := by
  have frame := step.frame
  simp only [Fw.control, Control.next, isDfi, frame.ready, frame.error, frame.fsw, step.dfi_eq]

theorem Fw.dfi_enterPending (fw : Fw) : fw.enterPending.dfi = fw.dfi.withdrawn := by
  change fw.beforeRelease.dfi = _
  unfold beforeRelease
  cases state : fw.dfi
  case phyUpd => rfl
  case phyMstrPending => rfl
  all_goals exact state

variable [Device]

theorem Fw.eq_prep_of_prepareSwitch {freqId : UInt8}
    (prepared : fw.prepareSwitch freqId = .ok after) :
    ∃ wddr, after = { fw with wddr := wddr, fsw := .prep } := by
  unfold Fw.prepareSwitch at prepared
  cases ran : (fw.wddr.onIrq (Irq.disableIrq .initStart)).wddrPrepSwitch freqId
      fw.hw.currentMsr.other with
  | error fault => simp [ran, bind, Except.bind] at prepared
  | ok done =>
      rw [ran] at prepared
      simp only [bind, Except.bind, pure, Except.pure] at prepared
      split at prepared
      · cases prepared
      · cases prepared
        exact ⟨_, rfl⟩

theorem FswStep.control_eq (step : FswStep data fw event after) (isFsw : event.kind = .fsw) :
    after.control = fw.control.next event := by
  cases step with
  | ignored unmatched =>
      have noStart : ¬ (fw.fsw = .prep ∧ event = .initStart) := by
        rintro ⟨inPrep, rfl⟩
        simp [inPrep, FswState.takes] at unmatched
      have kept : fw.control.next event =
          { fw.control with fsw := fw.fsw.next event, dfi := fw.dfi } := by
        rw [Control.next, isFsw]
        exact congrArg _ (if_neg noStart)
      rw [kept, FswState.next_of_unmatched unmatched]
      rfl
  | prep inPrep prepared =>
      obtain ⟨wddr, rfl⟩ := Fw.eq_prep_of_prepareSwitch prepared
      simp [Fw.control, Control.next, FwPhyEvent.kind, inPrep, FswState.next]
  | initStart inPrep =>
      have frame := fw.fswFrame_enterPending
      have pending : fw.enterPending.fsw = .pending := rfl
      simp [Fw.control, Control.next, FwPhyEvent.kind, inPrep, FswState.next, frame.ready,
        frame.error, fw.dfi_enterPending, pending]
  | pllLock pending =>
      have notPrep : fw.fsw ≠ .prep := by simp [pending]
      have finished : fw.finishSwitch.control = { fw.control with fsw := .prep } := rfl
      rw [finished]
      simp [Fw.control, Control.next, FwPhyEvent.kind, pending, FswState.next]

omit [BuildConfig] [Device] in
theorem Fw.booted_finishStart (booted : WddrReturn × Wddr) (fw : Fw) :
    fw.control.booted (fw.finishStart booted).1 =
      some (fw.finishStart booted).2.control := by
  unfold Fw.finishStart
  split
  · rfl
  · split <;> rfl

/-- Handling an event is a step of the protocol. -/
theorem Handled.serves {response : FwResponse} (ran : Handled data fw event response after) :
    fw.control.serve event response = some after.control := by
  cases ran with
  | refused refusal =>
      rw [Control.serve, fw.refusal_control, refusal]
      exact if_pos rfl
  | start notReady boots =>
      have free : fw.control.refusal .boot = none := by
        simp [Control.refusal, FwPhyEvent.kind, Fw.control, notReady]
      rw [Control.serve, free]
      exact (if_pos rfl).trans (fw.booted_finishStart _)
  | dfi isDfi running admitted step =>
      have free : fw.control.refusal event = none := by
        rw [Control.refusal_of_dfi isDfi]
        change fw.control.guard (fw.fsw = .pending) = none
        rw [fw.guard_control, Fw.refusal, if_neg (not_not_intro running), if_neg admitted]
      rw [Control.serve, free, step.control_eq isDfi]
      simp [isDfi]
  | fsw isFsw running admitted step =>
      have free : fw.control.refusal event = none := by
        rw [Control.refusal_of_fsw isFsw]
        change fw.control.guard (fw.dfi = .ctrlUpd) = none
        rw [fw.guard_control, Fw.refusal, if_neg (not_not_intro running), if_neg admitted]
      rw [Control.serve, free, step.control_eq isFsw]
      simp [isFsw]

end Serves

namespace Fw

/-- The message that the handler of a line reports. -/
def report (line : IrqLine) (data : MsgData) (xSender : Option TaskHandle) (fw : Fw) :
    Option FwMsg :=
  let blank (event : FwPhyEvent) : FwMsg := ⟨event.code, .null, none⟩
  match line with
  | .initStart => some (blank .initStart)
  | .initComplete => some (blank .initComplete)
  | .pll => (pllEvent fw.wddr.pll.statusInt).map fun event => ⟨event.code, data, xSender⟩
  | .ctrlupdReq =>
      if fw.wddr.irq.status .ctrlupdReqAssertion then some (blank .ctrlupdAssert)
      else if fw.wddr.irq.status .ctrlupdReqDeassertion then some (blank .ctrlupdDeassert)
      else none
  | .phyupdAck => some (blank .phyupdAck)
  | .phymstrAck => some (blank .phymstrAck)

/-- The queue after a message was offered to it. -/
def offered : Option FwMsg → List FwMsg → List FwMsg
  | none, mq => mq
  | some msg, mq => if mq.length < msgQueueLen then mq ++ [msg] else mq

variable {line : IrqLine} {data : MsgData} {xSender : Option TaskHandle}

theorem mq_runIsr (line : IrqLine) (data : MsgData) (xSender : Option TaskHandle)
    (late : List CtrlupdEdge) (fw : Fw) :
    (fw.runIsr line data xSender late).mq = offered (fw.report line data xSender) fw.mq := by
  cases line with
  | pll =>
      unfold runIsr pllIrqHandler report
      dsimp only
      split
      · rename_i event reported
        rw [sendToBack_mq, reported]
        rfl
      · rename_i nothing
        rw [nothing]
        rfl
  | ctrlupdReq =>
      unfold runIsr handleDfiCtrlupdReqIrq report
      dsimp only
      split
      · exact sendToBack_mq _ _
      · split
        · exact sendToBack_mq _ _
        · rfl
  | _ => exact sendToBack_mq _ _

theorem reports_of_report {fw : Fw} {msg : FwMsg}
    (reported : fw.report line data xSender = some msg) : line.Reports msg := by
  unfold report at reported
  cases line with
  | pll =>
      obtain ⟨event, isEvent, rfl⟩ := Option.map_eq_some_iff.mp reported
      exact ⟨⟨event, mem_events_of_pllEvent isEvent, rfl⟩, fun notPll => absurd rfl notPll⟩
  | ctrlupdReq =>
      dsimp only at reported
      split at reported
      · exact Option.some.inj reported ▸ .notify (by simp [IrqLine.events])
      · split at reported
        · exact Option.some.inj reported ▸ .notify (by simp [IrqLine.events])
        · cases reported
  | _ => exact Option.some.inj reported ▸ .notify (by simp [IrqLine.events])

end Fw

/-- The message that the task works on. -/
def FirmwareTask.hand : FirmwareTask → Option FwMsg
  | .receive => none
  | .process msg => some msg

namespace Sys

/-- The message that a step offers to the queue. -/
def offer (label : Label) (sys : Sys) : Option FwMsg :=
  match label with
  | .main =>
      match sys.main with
      | .send call _ => some call.msg
      | _ => none
  | .cal =>
      match sys.cal with
      | .send => some phymstrReqMsg
      | .sendExit => some phymstrExitMsg
      | _ => none
  | .timerSend => some phyupdReqMsg
  | .isr line data xSender _ => sys.fw.report line data xSender
  | _ => none

section Offers

variable [Platform] {label : Label} {sys next : Sys}

theorem mq_of_main (taken : sys.stepMain = some next) :
    next.fw.mq = Fw.offered (sys.offer .main) sys.fw.mq := by
  unfold stepMain at taken
  unfold offer
  cases task : sys.main with
  | receive => simp [task] at taken
  | clear call =>
      simp only [task, Option.some.injEq] at taken
      rw [← taken]
      rfl
  | send call tries =>
      simp only [task] at taken
      obtain ⟨middle, isSent, rfl⟩ := Option.map_eq_some_iff.mp taken
      rw [eq_of_send isSent]
      exact Fw.sendToBack_mq _ _
  | wait call tries =>
      simp only [task] at taken
      split at taken
      · rw [← Option.some.inj taken, resume_fw]
        rfl
      · cases taken

theorem mq_of_cal (taken : sys.stepCal = some next) :
    next.fw.mq = Fw.offered (sys.offer .cal) sys.fw.mq := by
  unfold stepCal at taken
  unfold offer
  split at taken
  · cases task : sys.cal with
    | send =>
        simp only [task] at taken
        obtain ⟨middle, isSent, rfl⟩ := Option.map_eq_some_iff.mp taken
        rw [eq_of_send isSent]
        exact Fw.sendToBack_mq _ _
    | sendExit =>
        simp only [task] at taken
        obtain ⟨middle, isSent, rfl⟩ := Option.map_eq_some_iff.mp taken
        rw [eq_of_send isSent]
        exact Fw.sendToBack_mq _ _
    | waitResponse =>
        simp only [task] at taken
        split at taken
        · rw [← Option.some.inj taken]
          rfl
        · cases taken
    | waitCompletion =>
        simp only [task] at taken
        split at taken
        · rw [← Option.some.inj taken]
          rfl
        · cases taken
    | _ =>
        simp only [task, Option.some.injEq] at taken
        rw [← taken]
        rfl
  · cases taken

theorem mq_of_timerSend (taken : sys.stepTimerSend = some next) :
    next.fw.mq = Fw.offered (some phyupdReqMsg) sys.fw.mq := by
  unfold stepTimerSend at taken
  split at taken
  · cases taken
  · split at taken
    · rename_i fault full
      rw [← Option.some.inj taken]
      have noRoom : ¬ sys.fw.mq.length < msgQueueLen := by
        intro room
        rw [decide_eq_true room, configASSERT_true] at full
        cases full
      exact (if_neg noRoom).symm
    · rw [← Option.some.inj taken]
      exact Fw.sendToBack_mq _ _

theorem mq_of_isr {line : IrqLine} {data : MsgData} {xSender : Option TaskHandle}
    {late : List CtrlupdEdge} (taken : sys.stepIsr line data xSender late = some next) :
    next.fw.mq = Fw.offered (sys.fw.report line data xSender) sys.fw.mq := by
  unfold stepIsr at taken
  split at taken
  · rw [← Option.some.inj taken]
    exact Fw.mq_runIsr line data xSender late sys.fw
  · cases taken

/-- The steps that touch the queue. -/
def usesQueue : Label → Bool
  | .receive | .process | .main | .cal | .timerSend | .isr _ _ _ _ => true
  | _ => false

theorem FwEffect.mq_eq {after : Fw} (effect : FwEffect sys label after)
    (aside : usesQueue label = false) : after.mq = sys.fw.mq := by
  cases effect with
  | received => cases aside
  | sent sends => cases sends <;> cases aside
  | isr => cases aside
  | _ => rfl

/-- What a step does to the queue, apart from receiving and handling a message. -/
theorem mq_of_taken (taken : system.step label sys = some next) (notReceive : label ≠ .receive)
    (notProcess : label ≠ .process) :
    next.fw.mq = Fw.offered (sys.offer label) sys.fw.mq := by
  have effect := (otherStep_of_taken taken notProcess).effect
  obtain ⟨-, running⟩ := stepRunning_of_taken taken
  cases label with
  | receive => exact absurd rfl notReceive
  | process => exact absurd rfl notProcess
  | main => exact mq_of_main running
  | cal => exact mq_of_cal running
  | timerSend => exact mq_of_timerSend running
  | isr line data xSender late => exact mq_of_isr running
  | _ => exact effect.mq_eq rfl

@[simp]
theorem resume_notified (call : FirmwareCall) (tries : Nat) (value : FwResponse) (sys : Sys) :
    (sys.resume call tries value).notified = sys.notified := by
  unfold resume
  split <;> rfl

/-- A task reads its notification, or forgets an old one. -/
inductive Clears (sys : Sys) : Label → TaskHandle → Prop
  | main (clearing : ∀ call tries, sys.main ≠ .send call tries) : Clears sys .main .main
  | cal (clearing : sys.cal = .clear ∨ sys.cal = .waitResponse) : Clears sys .cal .periodicCal

/-- What a step other than the handling of a message does to a notification. -/
def Keeps (sys : Sys) (label : Label) (next : Sys) : Prop :=
  ∀ task, next.notified task = sys.notified task ∨
    (Clears sys label task ∧ next.notified task = { sys.notified task with pending := false })

omit [Platform] in
theorem Keeps.of_eq (same : next.notified = sys.notified) : Keeps sys label next :=
  fun _ => .inl (congrFun same _)

omit [Platform] in
theorem Keeps.of_clear {cleared : TaskHandle} (clears : Clears sys label cleared)
    (same : next.notified = (sys.clearNotification cleared).notified) : Keeps sys label next := by
  intro task
  rw [same]
  by_cases own : task = cleared
  · subst own
    exact .inr ⟨clears, by simp [clearNotification]⟩
  · exact .inl (by simp [clearNotification, own])

theorem keeps_of_main (taken : sys.stepMain = some next) : Keeps sys .main next := by
  unfold stepMain at taken
  cases task : sys.main with
  | receive => simp [task] at taken
  | clear call =>
      simp only [task, Option.some.injEq] at taken
      exact .of_clear (.main (by simp [task])) (by rw [← taken])
  | send call tries =>
      simp only [task] at taken
      obtain ⟨middle, isSent, rfl⟩ := Option.map_eq_some_iff.mp taken
      exact .of_eq (by rw [eq_of_send isSent]; rfl)
  | wait call tries =>
      simp only [task] at taken
      split at taken
      · have isNext := Option.some.inj taken
        exact .of_clear (.main (by simp [task])) (by rw [← isNext, resume_notified])
      · cases taken

theorem keeps_of_cal (taken : sys.stepCal = some next) : Keeps sys .cal next := by
  unfold stepCal at taken
  split at taken
  · cases task : sys.cal with
    | clear =>
        simp only [task, Option.some.injEq] at taken
        exact .of_clear (.cal (.inl task)) (by rw [← taken])
    | send =>
        simp only [task] at taken
        obtain ⟨middle, isSent, rfl⟩ := Option.map_eq_some_iff.mp taken
        exact .of_eq (by rw [eq_of_send isSent]; rfl)
    | sendExit =>
        simp only [task] at taken
        obtain ⟨middle, isSent, rfl⟩ := Option.map_eq_some_iff.mp taken
        exact .of_eq (by rw [eq_of_send isSent]; rfl)
    | waitResponse =>
        simp only [task] at taken
        split at taken
        · have isNext := Option.some.inj taken
          exact .of_clear (.cal (.inr task)) (by rw [← isNext])
        · cases taken
    | waitCompletion =>
        simp only [task] at taken
        split at taken
        · exact .of_eq (by rw [← Option.some.inj taken])
        · cases taken
    | _ =>
        simp only [task, Option.some.injEq] at taken
        subst taken
        exact .of_eq rfl
  · cases taken

theorem keeps_of_taken (taken : system.step label sys = some next)
    (notProcess : label ≠ .process) : Keeps sys label next := by
  obtain ⟨-, running⟩ := stepRunning_of_taken taken
  cases label with
  | process => exact absurd rfl notProcess
  | main => exact keeps_of_main running
  | cal => exact keeps_of_cal running
  | receive =>
      simp only [stepRunning, stepReceive] at running
      split at running
      · exact Option.some.inj running ▸ .of_eq rfl
      · cases running
  | hostMessage req =>
      simp only [stepRunning, stepHostMessage] at running
      split at running
      · split at running <;> exact Option.some.inj running ▸ .of_eq rfl
      · cases running
  | mainTimeout =>
      simp only [stepRunning, stepMainTimeout] at running
      split at running
      · split at running
        · exact .of_eq (by rw [← Option.some.inj running, resume_notified])
        · cases running
      · cases running
  | timerExpire =>
      simp only [stepRunning, stepTimerExpire] at running
      split at running
      · split at running <;> exact Option.some.inj running ▸ .of_eq rfl
      · cases running
  | timerSend =>
      simp only [stepRunning, stepTimerSend] at running
      split at running
      · cases running
      · split at running <;> exact Option.some.inj running ▸ .of_eq rfl
  | isr line data xSender late =>
      simp only [stepRunning, stepIsr] at running
      split at running
      · exact Option.some.inj running ▸ .of_eq rfl
      · cases running
  | _ => exact Option.some.inj running ▸ .of_eq rfl

/-- Only the handling of a message changes the value of a notification. -/
theorem value_of_taken (taken : system.step label sys = some next)
    (notProcess : label ≠ .process) (task : TaskHandle) :
    (next.notified task).value = (sys.notified task).value := by
  rcases keeps_of_taken taken notProcess task with same | ⟨-, cleared⟩
  · rw [same]
  · rw [cleared]

end Offers

/-- Every message in flight reports an event. -/
theorem Posted.decodes {msg : FwMsg} (posted : Posted msg) :
    ∃ event, FwPhyEvent.ofCode? msg.event = some event := by
  cases posted with
  | call call isCall =>
      subst isCall
      cases call <;> exact ⟨_, FwPhyEvent.ofCode?_code _⟩
  | calRequest isRequest =>
      subst isRequest
      exact ⟨_, FwPhyEvent.ofCode?_code _⟩
  | calExit isExit =>
      subst isExit
      exact ⟨_, FwPhyEvent.ofCode?_code _⟩
  | timer isTimer =>
      subst isTimer
      exact ⟨_, FwPhyEvent.ofCode?_code _⟩
  | irq line reports =>
      obtain ⟨event, -, isCode⟩ := reports.event
      exact ⟨event, FwPhyEvent.ofCode?_eq_some_iff.mpr isCode⟩

section Refines

variable [Platform]

/-- What a step leaves in the log of the queue. -/
def logs (label : Label) (sys : Sys) : List (Entry FwMsg FwResponse) :=
  match label with
  | .receive => (sys.fw.mq.head?.map Entry.taken).toList
  | .process =>
      match sys.fwTask with
      | .receive => []
      | .process msg =>
          match processMessage msg sys.fw with
          | .ok (some response, _) => [.served msg response]
          | _ => []
  | label =>
      match sys.offer label with
      | none => []
      | some msg => if sys.fw.mq.length < msgQueueLen then [.posted msg] else [.lost msg]

/-- The firmware as its tasks and interrupts see it. -/
def mailbox (sys : Sys) : Mailbox.State FwMsg Protocol where
  queue := sys.fw.mq
  hand := sys.fwTask.hand
  server := ⟨sys.fw.control, fun task => (sys.notified task).value⟩

/-- The queue of the firmware with the protocol behind it. -/
abbrev mailboxSystem :
    TransitionSystem (Mailbox.State FwMsg Protocol) (Entry FwMsg FwResponse) :=
  Mailbox.system msgQueueLen (fun protocol => protocol = Protocol.start) Protocol.serve

omit [Platform] in
theorem waiting_mailbox (sys : Sys) : sys.mailbox.waiting = sys.inFlight := by
  unfold Mailbox.State.waiting mailbox inFlight FirmwareTask.hand
  cases sys.fwTask <;> rfl

variable {label : Label} {sys next : Sys}

theorem exec_logs_receive (taken : system.step .receive sys = some next) :
    mailboxSystem.exec (logs .receive sys) sys.mailbox = some next.mailbox := by
  obtain ⟨-, running⟩ := stepRunning_of_taken taken
  simp only [stepRunning, stepReceive] at running
  split at running
  · rename_i msg rest free queued
    have isLogged : logs .receive sys = [.taken msg] := by
      simp [logs, queued]
    rw [isLogged, exec_singleton, ← Option.some.inj running]
    apply step_taken.mpr
    refine ⟨⟨?_, ?_⟩, ?_⟩
    · simp [mailbox, free, FirmwareTask.hand]
    · simp [mailbox, queued]
    · simp [mailbox, queued, FirmwareTask.hand, Fw.control]
  · cases running

theorem serve_answered {msg : FwMsg} {event : FwPhyEvent} {response : FwResponse} {after : Fw}
    (decoded : FwPhyEvent.ofCode? msg.event = some event)
    (ran : Handled msg.data sys.fw event response after) :
    Protocol.serve (msg, response) sys.mailbox.server =
      some (sys.answered msg response after).mailbox.server := by
  have served : sys.mailbox.server.control.serve event response = some after.control :=
    ran.serves
  have told : Protocol.tell msg.xSender response sys.mailbox.server.told =
      (sys.answered msg response after).mailbox.server.told := by
    funext task
    unfold Protocol.tell
    simp only [mailbox, answered_notified]
    cases sender : msg.xSender with
    | none => simp
    | some own =>
        by_cases same : own = task
        · simp [same]
        · simp [same, Function.update_of_ne (Ne.symm same)]
  simp only [Protocol.serve, decoded, Option.bind_some, served, Option.map_some, told]
  simp [mailbox]

/-- What the handling of the message in hand leaves in the log: nothing if it stops at a fault. -/
inductive LoggedStep (sys : Sys) : List (Entry FwMsg FwResponse) → Sys → Prop
  | stopped {fault : Fault} : LoggedStep sys [] { sys with fault := some fault }
  | answered {msg : FwMsg} {event : FwPhyEvent} {response : FwResponse} {after : Fw}
      (task : sys.fwTask = .process msg) (decoded : FwPhyEvent.ofCode? msg.event = some event)
      (ran : Handled msg.data sys.fw event response after) :
      LoggedStep sys [.served msg response] (sys.answered msg response after)

theorem loggedStep_of_taken (reachable : system.Reachable sys)
    (taken : system.step .process sys = some next) : LoggedStep sys (logs .process sys) next := by
  obtain ⟨-, running⟩ := stepRunning_of_taken taken
  simp only [stepRunning, stepProcess] at running
  cases task : sys.fwTask with
  | receive => simp [task] at running
  | process msg =>
      simp only [task, Option.some.injEq] at running
      have posted := posted_of_reachable reachable msg (mem_inFlight_of_task task)
      obtain ⟨event, decoded⟩ := posted.decodes
      cases ran : handled event msg.data sys.fw with
      | error fault =>
          have stopped : processMessage msg sys.fw = .error fault := by
            simp [processMessage_eq, decoded, ran, Functor.map, Except.map]
          have nothing : logs .process sys = [] := by
            simp [logs, task, stopped]
          rw [nothing, ← running, processed_of_error stopped]
          exact .stopped
      | ok done =>
          obtain ⟨response, after⟩ := done
          have answered : processMessage msg sys.fw = .ok (some response, after) := by
            simp [processMessage_eq, decoded, ran, Functor.map, Except.map]
          have isLogged : logs .process sys = [.served msg response] := by
            simp [logs, task, answered]
          rw [isLogged, ← running, processed_of_ok answered]
          exact .answered task decoded (handled_of_ok ran)

theorem exec_logs_process (reachable : system.Reachable sys)
    (taken : system.step .process sys = some next) :
    mailboxSystem.exec (logs .process sys) sys.mailbox = some next.mailbox := by
  obtain ⟨current, device⟩ := deviceSound_of_reachable reachable
  have step := loggedStep_of_taken reachable taken
  generalize logs .process sys = log at step ⊢
  cases step with
  | stopped => exact exec_nil _ _
  | answered task decoded ran =>
      rw [exec_singleton]
      apply step_served.mpr
      refine ⟨by simp [mailbox, task, FirmwareTask.hand], _, serve_answered decoded ran, ?_⟩
      simp [mailbox, ran.mq device, FirmwareTask.hand]

/-- Only the handling of a message serves one. -/
theorem services_logs_of_ne (notProcess : label ≠ .process) :
    services (logs label sys) = [] := by
  unfold logs
  split
  · cases sys.fw.mq <;> rfl
  · exact absurd rfl notProcess
  · split
    · rfl
    · split <;> rfl

/-- A message that is offered is posted, or lost in a full queue. -/
theorem exec_logs_other (taken : system.step label sys = some next)
    (notReceive : label ≠ .receive) (notProcess : label ≠ .process) :
    mailboxSystem.exec (logs label sys) sys.mailbox = some next.mailbox := by
  have other := otherStep_of_taken taken notProcess
  have control := other.effect.sameControl
  have sameControl : next.fw.control = sys.fw.control := by
    simp only [Fw.control, control.ready, control.error, control.fsw, control.dfi]
  have after : next.mailbox =
      { sys.mailbox with queue := Fw.offered (sys.offer label) sys.fw.mq } := by
    simp only [mailbox, mq_of_taken taken notReceive notProcess, other.fwTask notReceive,
      sameControl, value_of_taken taken notProcess]
  have isLogged : logs label sys =
      match sys.offer label with
      | none => []
      | some msg => if sys.fw.mq.length < msgQueueLen then [.posted msg] else [.lost msg] := by
    cases label with
    | receive => exact absurd rfl notReceive
    | process => exact absurd rfl notProcess
    | _ => rfl
  rw [isLogged, after]
  cases offered : sys.offer label with
  | none => rfl
  | some msg =>
      dsimp only [Fw.offered]
      split
      · rename_i room
        rw [exec_singleton]
        exact step_posted.mpr ⟨room, rfl⟩
      · rename_i full
        rw [exec_singleton]
        exact step_lost.mpr ⟨Nat.not_lt.mp full, rfl⟩

/-- The firmware is a mailbox with the protocol behind it. -/
def mailboxRefinement : Refinement (system : TransitionSystem Sys Label) mailboxSystem logs where
  view := mailbox
  starts := by
    rintro _ ⟨table, reset, hw, timerStarts, -, -, rfl⟩
    exact ⟨rfl, rfl, rfl⟩
  steps label sys next reachable taken := by
    by_cases isReceive : label = .receive
    · subst isReceive
      exact exec_logs_receive taken
    · by_cases isProcess : label = .process
      · subst isProcess
        exact exec_logs_process reachable taken
      · exact exec_logs_other taken isReceive isProcess

end Refines

end Sys

end WavLpddr
