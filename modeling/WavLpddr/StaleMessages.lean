import WavLpddr.InterruptCauses

/-!
# The uninitialised message of the PLL's handler

The handler sets only the event of its message, so that the data and the sender are what
the stack held.  The data is never read.  The sender is: when it is not null, the firmware
task notifies it.  As long as it is null, two runs that differ only in what the stack held
go through the same states.
-/

namespace WavLpddr

open EventMachine TransitionSystem

/-- The message reports an event of the PLL. -/
def FwMsg.FromPll (msg : FwMsg) : Prop := ∃ event ∈ IrqLine.events .pll, msg.Is event

instance (msg : FwMsg) : Decidable msg.FromPll :=
  inferInstanceAs (Decidable (∃ event ∈ IrqLine.events .pll, msg.Is event))

/-- The message without the data that the PLL's handler leaves in it. -/
def FwMsg.blank (msg : FwMsg) : FwMsg :=
  if msg.FromPll then { msg with data := .null } else msg

@[simp]
theorem FwMsg.blank_event (msg : FwMsg) : msg.blank.event = msg.event := by
  unfold FwMsg.blank
  split <;> rfl

@[simp]
theorem FwMsg.blank_xSender (msg : FwMsg) : msg.blank.xSender = msg.xSender := by
  unfold FwMsg.blank
  split <;> rfl

theorem FwMsg.blank_of_null {msg : FwMsg} (isNull : msg.data = .null) : msg.blank = msg := by
  unfold FwMsg.blank
  split
  · rw [← isNull]
  · rfl

theorem FwMsg.blank_of_not {msg : FwMsg} (other : ¬ msg.FromPll) : msg.blank = msg :=
  if_neg other

namespace Fw

/-- The firmware with other messages in its queue. -/
def withMq (mq : List FwMsg) (fw : Fw) : Fw := { fw with mq := mq }

@[simp]
theorem withMq_wddr (mq : List FwMsg) (fw : Fw) : (fw.withMq mq).wddr = fw.wddr := rfl

@[simp]
theorem withMq_hw (mq : List FwMsg) (fw : Fw) : (fw.withMq mq).hw = fw.hw := rfl

@[simp]
theorem withMq_fsw (mq : List FwMsg) (fw : Fw) : (fw.withMq mq).fsw = fw.fsw := rfl

@[simp]
theorem withMq_dfi (mq : List FwMsg) (fw : Fw) : (fw.withMq mq).dfi = fw.dfi := rfl

@[simp]
theorem withMq_ready (mq : List FwMsg) (fw : Fw) : (fw.withMq mq).ready = fw.ready := rfl

@[simp]
theorem withMq_mq (mq : List FwMsg) (fw : Fw) : (fw.withMq mq).mq = mq := rfl

section Independence

variable [KernelIo] [BuildConfig]

theorem dfiTransition_withMq (event : FwPhyEvent) (data : MsgData) (mq : List FwMsg) (fw : Fw) :
    (fw.withMq mq).dfiTransition event data = withMq mq <$> fw.dfiTransition event data := by
  unfold dfiTransition
  rw [withMq_dfi]
  split
  · cases data.toPhymstrReq <;> rfl
  · rfl
  · simp only [enterCtrlUpd, withMq_wddr, withMq_hw]
    cases fw.wddr.wddrIocalCalibrate fw.hw with
    | error fault => rfl
    | ok wddr =>
        simp only [bind, Except.bind]
        cases wddr.wddrIocalUpdatePhy fw.hw <;> rfl
  · rfl
  · rfl
  · rfl
  · simp only [finishPhyUpd, withMq_wddr, withMq_hw]
    cases fw.wddr.wddrIocalUpdatePhy fw.hw <;> rfl
  · rfl
  · rfl
  · rfl

theorem enterPending_withMq (mq : List FwMsg) (fw : Fw) :
    (fw.withMq mq).enterPending = fw.enterPending.withMq mq := by
  have released : (fw.withMq mq).beforeRelease = fw.beforeRelease.withMq mq := by
    unfold beforeRelease
    rw [withMq_dfi]
    split <;> rfl
  unfold enterPending
  rw [released]
  rfl

variable [Device]

theorem fswTransition_withMq (event : FwPhyEvent) (data : MsgData) (mq : List FwMsg) (fw : Fw) :
    (fw.withMq mq).fswTransition event data = withMq mq <$> fw.fswTransition event data := by
  unfold fswTransition
  rw [withMq_fsw]
  split
  · simp only [prepareSwitch, withMq_wddr, withMq_hw]
    cases (fw.wddr.onIrq (Irq.disableIrq .initStart)).wddrPrepSwitch data.freqId
        fw.hw.currentMsr.other with
    | error fault => rfl
    | ok prepared =>
        simp only [bind, Except.bind]
        cases configASSERT .fswPrepareSwitchHandler (prepared.1 = .wddrSuccess) <;> rfl
  · rw [enterPending_withMq]
    rfl
  · rfl
  · rfl

omit [KernelIo] [BuildConfig] [Device] in
theorem guarded_withMq {waits : Prop} [Decidable waits] {step : Except Fault Fw}
    (mq : List FwMsg) (fw : Fw) :
    (fw.withMq mq).guarded waits (withMq mq <$> step) =
      (fun done => (done.1, done.2.withMq mq)) <$> fw.guarded waits step := by
  have sameRunning : (fw.withMq mq).Running ↔ fw.Running := Iff.rfl
  unfold guarded
  simp only [sameRunning]
  split
  · rfl
  · split
    · rfl
    · cases step <;> rfl

omit [BuildConfig] [Device] in
theorem finishStart_withMq (booted : WddrReturn × Wddr) (mq : List FwMsg) (fw : Fw) :
    (fw.withMq mq).finishStart booted =
      ((fw.finishStart booted).1, (fw.finishStart booted).2.withMq mq) := by
  have sameTimer : (fw.withMq mq).timerStarts = fw.timerStarts := rfl
  unfold finishStart
  rw [sameTimer]
  split
  · rfl
  · split <;> rfl

theorem handled_withMq (event : FwPhyEvent) (data : MsgData) (mq : List FwMsg) (fw : Fw) :
    handled event data (fw.withMq mq) =
      (fun done => (done.1, done.2.withMq mq)) <$> handled event data fw := by
  unfold handled
  split
  · cases data with
    | startCfg calibrate trainDram =>
        rw [handleStartEvent_eq, handleStartEvent_eq]
        by_cases ready : fw.ready = true
        · simp only [withMq_ready, ready, if_true]
          rfl
        · simp only [withMq_ready, withMq_wddr, withMq_hw, ready]
          cases fw.wddr.wddrBoot fw.hw (startBootCfg calibrate trainDram) with
          | error fault => rfl
          | ok booted => exact congrArg Except.ok (finishStart_withMq booted mq fw)
    | word value => rfl
    | phymstrReq req => rfl
  · rfl
  · rw [dfiTransition_withMq, guarded_withMq]
    rfl
  · rw [fswTransition_withMq, guarded_withMq]
    rfl

variable [Engine]

/-- Handling a message does not look at the queue. -/
theorem processMessage_withMq (msg : FwMsg) (mq : List FwMsg) (fw : Fw) :
    processMessage msg (fw.withMq mq) =
      (fun done => (done.1, done.2.withMq mq)) <$> processMessage msg fw := by
  rw [processMessage_eq, processMessage_eq]
  cases FwPhyEvent.ofCode? msg.event with
  | none => rfl
  | some event =>
      dsimp only
      rw [handled_withMq]
      cases handled event msg.data fw <;> rfl

theorem mq_of_processMessage {msg : FwMsg} {fw after : Fw} {response : Option FwResponse}
    (ran : processMessage msg fw = .ok (response, after)) : after.mq = fw.mq := by
  have again := processMessage_withMq msg fw.mq fw
  have same : fw.withMq fw.mq = fw := rfl
  rw [same, ran] at again
  have sameAfter : after = after.withMq fw.mq := congrArg Prod.snd (Except.ok.inj again)
  rw [sameAfter, withMq_mq]

theorem processMessage_blank (msg : FwMsg) (fw : Fw) :
    processMessage msg.blank fw = processMessage msg fw := by
  unfold FwMsg.blank
  split
  · rename_i fromPll
    obtain ⟨event, listed, isEvent⟩ := fromPll
    have decoded := FwPhyEvent.ofCode?_eq_some_iff.mpr isEvent
    rw [processMessage_eq, processMessage_eq, decoded]
    simp only [IrqLine.events, List.mem_cons, List.not_mem_nil, or_false] at listed
    rcases listed with rfl | rfl | rfl
    all_goals
      simp only [handled, FwPhyEvent.kind, Fw.fswTransition]
      cases fw.fsw <;> rfl
  · rfl

theorem answered_of_fromPll {msg : FwMsg} (fromPll : msg.FromPll) (fw : Fw) :
    ∃ response after, processMessage msg fw = .ok (some response, after) := by
  obtain ⟨event, listed, isEvent⟩ := fromPll
  have decoded := FwPhyEvent.ofCode?_eq_some_iff.mpr isEvent
  have ordinary : ∃ after, fw.fswTransition event msg.data = .ok after := by
    simp only [IrqLine.events, List.mem_cons, List.not_mem_nil, or_false] at listed
    rcases listed with rfl | rfl | rfl
    all_goals
      simp only [Fw.fswTransition]
      cases fw.fsw <;> exact ⟨_, rfl⟩
  have kind : event.kind = .fsw := by
    simp only [IrqLine.events, List.mem_cons, List.not_mem_nil, or_false] at listed
    rcases listed with rfl | rfl | rfl <;> rfl
  obtain ⟨after, stepped⟩ := ordinary
  have ran : handled event msg.data fw =
      fw.guarded (fw.dfi = .ctrlUpd) (.ok after) := by
    rw [handled, kind, ← stepped]
  rw [processMessage_eq, decoded]
  dsimp only
  rw [ran]
  unfold Fw.guarded
  split
  · exact ⟨_, _, rfl⟩
  · split
    · exact ⟨_, _, rfl⟩
    · exact ⟨_, _, rfl⟩

end Independence

theorem sendToBack_withMq [KernelIo] (msg : FwMsg) (fw : Fw) :
    (fw.withMq (fw.mq.map FwMsg.blank)).sendToBack msg.blank =
      (fw.sendToBack msg).withMq ((fw.sendToBack msg).mq.map FwMsg.blank) := by
  unfold sendToBack
  simp only [withMq_mq, List.length_map]
  split
  · simp [withMq]
  · rfl

theorem notifyIsr_withMq [KernelIo] (event : FwPhyEvent) (fw : Fw) :
    (fw.withMq (fw.mq.map FwMsg.blank)).notifyIsr event =
      (fw.notifyIsr event).withMq ((fw.notifyIsr event).mq.map FwMsg.blank) := by
  have isBlank : FwMsg.blank ⟨event.code, .null, none⟩ = ⟨event.code, .null, none⟩ :=
    FwMsg.blank_of_null rfl
  have sent := sendToBack_withMq ⟨event.code, .null, none⟩ fw
  rw [isBlank] at sent
  exact sent

end Fw

/-- The step with a blank stack. -/
def Label.blank : Label → Label
  | .isr line _ _ late => .isr line .null none late
  | label => label

/-- The stack holds a null sender when the PLL's handler runs. -/
def Label.SenderNull : Label → Prop
  | .isr .pll _ xSender _ => xSender = none
  | _ => True

instance : (label : Label) → Decidable label.SenderNull
  | .isr .pll _ xSender _ => inferInstanceAs (Decidable (xSender = none))
  | .isr .initStart _ _ _ | .isr .initComplete _ _ _ | .isr .ctrlupdReq _ _ _
  | .isr .phyupdAck _ _ _ | .isr .phymstrAck _ _ _ | .receive | .process | .hostMessage _ | .main
  | .mainTimeout | .cal
  | .timerExpire | .timerSend | .raise _ | .pllStatus _ | .report _ _ => .isTrue trivial

def FirmwareTask.blank : FirmwareTask → FirmwareTask
  | .receive => .receive
  | .process msg => .process msg.blank

namespace Sys

/-- The state without the data that the PLL's handler left in its messages. -/
def blank (sys : Sys) : Sys :=
  { sys with
    fw := sys.fw.withMq (sys.fw.mq.map FwMsg.blank)
    fwTask := sys.fwTask.blank }

/-- The notification that the firmware task sends after it handled a message. -/
def notification [Platform] (msg : FwMsg) (fw : Fw) : Option (TaskHandle × FwResponse) :=
  match msg.xSender, processMessage msg fw with
  | some task, .ok (some response, _) => some (task, response)
  | _, _ => none

section Lockstep

variable [Platform]

/-- What the firmware task sends is what a task is notified of. -/
theorem processed_notified (msg : FwMsg) (sys : Sys) :
    (sys.processed msg (processMessage msg sys.fw)).notified =
      match notification msg sys.fw with
      | some (task, response) => Function.update sys.notified task ⟨response, true⟩
      | none => sys.notified := by
  unfold processed notification
  cases processMessage msg sys.fw with
  | error fault => cases msg.xSender <;> rfl
  | ok done =>
      obtain ⟨response, after⟩ := done
      cases msg.xSender <;> cases response <;> rfl

theorem send_blank {msg : FwMsg} (isNull : msg.blank = msg) (sys : Sys) :
    sys.blank.send msg = (sys.send msg).map blank := by
  have sent := Fw.sendToBack_withMq msg sys.fw
  rw [isNull] at sent
  unfold send
  simp only [blank, Fw.withMq_mq, List.length_map]
  split
  · rw [sent]
    rfl
  · rfl

omit [Platform] in
theorem call_blank (call : FirmwareCall) : call.msg.blank = call.msg := by
  apply FwMsg.blank_of_not
  rintro ⟨event, listed, isEvent⟩
  cases call with
  | start =>
      have isBoot : event = .boot := FwMsg.Is.eq isEvent rfl
      simp [isBoot, IrqLine.events] at listed
  | prepSwitch =>
      have isPrep : event = .prep := FwMsg.Is.eq isEvent rfl
      simp [isPrep, IrqLine.events] at listed

omit [Platform] in
theorem stepReceive_blank (sys : Sys) :
    sys.blank.stepReceive = sys.stepReceive.map blank := by
  unfold stepReceive
  cases task : sys.fwTask with
  | process msg => simp [blank, task, FirmwareTask.blank]
  | receive =>
      cases queue : sys.fw.mq with
      | nil => simp [blank, task, queue, FirmwareTask.blank]
      | cons msg rest =>
          simp [blank, task, queue, FirmwareTask.blank, Fw.withMq]

theorem stepProcess_blank (sys : Sys) :
    sys.blank.stepProcess = sys.stepProcess.map blank := by
  unfold stepProcess
  cases task : sys.fwTask with
  | receive => simp [blank, task, FirmwareTask.blank]
  | process msg =>
      have blankTask : sys.blank.fwTask = .process msg.blank := by
        simp only [blank, task, FirmwareTask.blank]
      have ran : processMessage msg.blank sys.blank.fw =
          (fun done => (done.1, done.2.withMq (sys.fw.mq.map FwMsg.blank))) <$>
            processMessage msg sys.fw := by
        rw [Fw.processMessage_blank]
        exact Fw.processMessage_withMq msg _ sys.fw
      rw [blankTask]
      dsimp only
      rw [Option.map_some, Option.some.injEq, ran]
      cases outcome : processMessage msg sys.fw with
      | error fault => simp [processed, blank, task, Functor.map, Except.map]
      | ok done =>
          obtain ⟨response, after⟩ := done
          have sameMq := Fw.mq_of_processMessage outcome
          simp only [processed, Functor.map, Except.map, FwMsg.blank_xSender]
          cases msg.xSender <;> cases response <;>
            simp [blank, notify, FirmwareTask.blank, Fw.withMq, sameMq]

omit [Platform] in
theorem runIsr_blank [KernelIo] {line : IrqLine} {data : MsgData} {xSender : Option TaskHandle}
    {late : List CtrlupdEdge} (fw : Fw) (null : (Label.isr line data xSender late).SenderNull) :
    (fw.withMq (fw.mq.map FwMsg.blank)).runIsr line .null none late =
      (fw.runIsr line data xSender late).withMq
        ((fw.runIsr line data xSender late).mq.map FwMsg.blank) := by
  have oneShot : ∀ line source event,
      Fw.handleOneShotIrq line source event (fw.withMq (fw.mq.map FwMsg.blank)) =
        (Fw.handleOneShotIrq line source event fw).withMq
          ((Fw.handleOneShotIrq line source event fw).mq.map FwMsg.blank) := by
    intro line source event
    exact Fw.notifyIsr_withMq event
      ((fw.onIrq (Irq.disableIrq line)).onIrq (Irq.clear [source]))
  cases line with
  | pll =>
      obtain rfl : xSender = none := null
      simp only [Fw.runIsr, Fw.pllIrqHandler, Fw.withMq_wddr]
      cases reported : Fw.pllEvent fw.wddr.pll.statusInt with
      | none => rfl
      | some event =>
          have isBlank : FwMsg.blank ⟨event.code, data, none⟩ = ⟨event.code, .null, none⟩ :=
            if_pos ⟨event, Fw.mem_events_of_pllEvent reported, rfl⟩
          dsimp only
          rw [← isBlank]
          exact Fw.sendToBack_withMq _ { fw with wddr := fw.wddr.onPll Pll.clearStatusInt }
  | ctrlupdReq =>
      have sent := fun event => Fw.notifyIsr_withMq event
        (fw.onIrq (Irq.clear Irq.ctrlupdSources))
      rw [Fw.runIsr_late _ _ _ late fw, Fw.runIsr_late]
      simp only [Fw.runIsr, Fw.handleDfiCtrlupdReqIrq, Fw.withMq_wddr]
      by_cases asserted : fw.wddr.irq.status .ctrlupdReqAssertion = true
      · simp only [asserted, if_true]
        exact sent .ctrlupdAssert
      · by_cases deasserted : fw.wddr.irq.status .ctrlupdReqDeassertion = true
        · simp only [asserted, deasserted, if_true]
          exact sent .ctrlupdDeassert
        · simp only [asserted, deasserted]
          rfl
  | initStart => exact oneShot _ _ _
  | initComplete => exact oneShot _ _ _
  | phyupdAck => exact oneShot _ _ _
  | phymstrAck => exact oneShot _ _ _

theorem resume_blank (call : FirmwareCall) (tries : Nat) (value : FwResponse) (sys : Sys) :
    sys.blank.resume call tries value = (sys.resume call tries value).blank := by
  unfold resume
  have sameApp : sys.blank.app = sys.app := rfl
  rw [sameApp]
  cases afterResponse call tries value <;> rfl

theorem stepHostMessage_blank (req : Message) (sys : Sys) :
    sys.blank.stepHostMessage req = (sys.stepHostMessage req).map blank := by
  have sameMain : sys.blank.main = sys.main := rfl
  have sameApp : sys.blank.app = sys.app := rfl
  unfold stepHostMessage
  rw [sameMain, sameApp]
  cases sys.main with
  | receive => cases handleMessage req sys.app <;> rfl
  | _ => rfl

theorem stepMain_blank (sys : Sys) : sys.blank.stepMain = sys.stepMain.map blank := by
  have sameMain : sys.blank.main = sys.main := rfl
  unfold stepMain
  rw [sameMain]
  cases sys.main with
  | receive => rfl
  | clear call => rfl
  | send call tries =>
      dsimp only
      rw [send_blank (call_blank call)]
      cases sys.send call.msg <;> rfl
  | wait call tries =>
      have sameNotified : sys.blank.notified = sys.notified := rfl
      dsimp only
      rw [sameNotified]
      split
      · exact congrArg some (resume_blank call tries _ (sys.clearNotification .main))
      · rfl

theorem stepMainTimeout_blank (sys : Sys) :
    sys.blank.stepMainTimeout = sys.stepMainTimeout.map blank := by
  have sameMain : sys.blank.main = sys.main := rfl
  have sameNotified : sys.blank.notified = sys.notified := rfl
  unfold stepMainTimeout
  rw [sameMain]
  cases sys.main with
  | wait call tries =>
      dsimp only
      rw [sameNotified]
      split
      · exact congrArg some (resume_blank call tries _ sys)
      · rfl
  | _ => rfl

theorem stepCal_blank (sys : Sys) : sys.blank.stepCal = sys.stepCal.map blank := by
  have sameCal : sys.blank.cal = sys.cal := rfl
  have sameDfi : sys.blank.fw.dfi = sys.fw.dfi := rfl
  have sameEvent : sys.blank.fw.phyMstrEvent = sys.fw.phyMstrEvent := rfl
  have sameNotified : sys.blank.notified = sys.notified := rfl
  have request : phymstrReqMsg.blank = phymstrReqMsg := FwMsg.blank_of_not (by decide)
  have exit : phymstrExitMsg.blank = phymstrExitMsg := FwMsg.blank_of_not (by decide)
  unfold stepCal
  rw [sameCal, sameDfi, sameEvent, sameNotified, send_blank request, send_blank exit]
  split
  · cases sys.cal with
    | send => cases sys.send phymstrReqMsg <;> rfl
    | sendExit => cases sys.send phymstrExitMsg <;> rfl
    | waitResponse =>
        dsimp only
        split <;> rfl
    | waitCompletion =>
        dsimp only
        split <;> rfl
    | _ => rfl
  · rfl

theorem stepTimerExpire_blank (sys : Sys) :
    sys.blank.stepTimerExpire = sys.stepTimerExpire.map blank := by
  have sameTimer : sys.blank.fw.timer = sys.fw.timer := rfl
  have sameTask : sys.blank.timerTask = sys.timerTask := rfl
  have sameCalibration : sys.blank.fw.wddr.wddrIocalCalibrate sys.blank.fw.hw =
      sys.fw.wddr.wddrIocalCalibrate sys.fw.hw := rfl
  unfold stepTimerExpire
  rw [sameTimer, sameTask, sameCalibration]
  split
  · cases sys.fw.wddr.wddrIocalCalibrate sys.fw.hw <;> rfl
  · rfl

theorem stepTimerSend_blank (sys : Sys) :
    sys.blank.stepTimerSend = sys.stepTimerSend.map blank := by
  have sameTask : sys.blank.timerTask = sys.timerTask := rfl
  have sameLength : sys.blank.fw.mq.length = sys.fw.mq.length := List.length_map FwMsg.blank
  have request : phyupdReqMsg.blank = phyupdReqMsg := FwMsg.blank_of_not (by decide)
  have sent := Fw.sendToBack_withMq phyupdReqMsg sys.fw
  rw [request] at sent
  unfold stepTimerSend
  rw [sameTask, sameLength]
  cases sys.timerTask with
  | idle => rfl
  | send =>
      dsimp only
      cases configASSERT .dfiPhyupdTimerCallback (sys.fw.mq.length < msgQueueLen) with
      | error fault => rfl
      | ok done =>
          change some { sys.blank.withFw (Fw.sendToBack phyupdReqMsg
            (sys.fw.withMq (sys.fw.mq.map FwMsg.blank))) with timerTask := .idle } = _
          rw [sent]
          rfl

theorem stepIsr_blank {line : IrqLine} {data : MsgData} {xSender : Option TaskHandle}
    {late : List CtrlupdEdge} (sys : Sys)
    (null : (Label.isr line data xSender late).SenderNull) :
    sys.blank.stepIsr line .null none late =
      (sys.stepIsr line data xSender late).map blank := by
  have sameInterrupt : sys.blank.fw.interruptible line = sys.fw.interruptible line := by
    cases line <;> rfl
  unfold stepIsr
  rw [sameInterrupt]
  split
  · have ran := runIsr_blank sys.fw null
    change some (sys.blank.withFw (Fw.runIsr line .null none late
      (sys.fw.withMq (sys.fw.mq.map FwMsg.blank)))) = _
    rw [ran]
    rfl
  · rfl

theorem step_blank {label : Label} (null : label.SenderNull) (sys : Sys) :
    system.step label.blank sys.blank = (system.step label sys).map blank := by
  have sameFault : sys.blank.fault = sys.fault := rfl
  change (if sys.blank.fault.isSome then none else stepRunning label.blank sys.blank) =
    (if sys.fault.isSome then none else stepRunning label sys).map blank
  rw [sameFault]
  split
  · rfl
  · cases label with
    | receive => exact stepReceive_blank sys
    | process => exact stepProcess_blank sys
    | hostMessage req => exact stepHostMessage_blank req sys
    | main => exact stepMain_blank sys
    | mainTimeout => exact stepMainTimeout_blank sys
    | cal => exact stepCal_blank sys
    | timerExpire => exact stepTimerExpire_blank sys
    | timerSend => exact stepTimerSend_blank sys
    | isr line data xSender late => exact stepIsr_blank sys null
    | raise source => rfl
    | pllStatus causes => rfl
    | report hw timerStarts => rfl

/-- Runs with null senders go alike whatever the stack held. -/
theorem exec_blank {labels : List Label} (null : ∀ label ∈ labels, label.SenderNull)
    (sys : Sys) :
    system.exec (labels.map Label.blank) sys.blank = (system.exec labels sys).map blank := by
  induction labels generalizing sys with
  | nil => rfl
  | cons label rest inductionHypothesis =>
      rw [List.map_cons, exec_cons, exec_cons, step_blank (null label List.mem_cons_self)]
      cases system.step label sys with
      | none => rfl
      | some next =>
          exact inductionHypothesis
            (fun other listed => null other (List.mem_cons_of_mem label listed)) next

/-- The message that the PLL's handler queues, from what the stack held. -/
def pllMsg (event : FwPhyEvent) (stale : MsgData × Option TaskHandle) : FwMsg :=
  ⟨event.code, stale.1, stale.2⟩

/-- The message that the handler queues for a status word has the same effect whatever the
stack held, and nobody is notified. -/
def StaleBlind (status : Word) (first second : MsgData × Option TaskHandle) (sys : Sys) : Prop :=
  ∀ event, Fw.pllEvent status = some event →
    sys.processed (pllMsg event first) (processMessage (pllMsg event first) sys.fw) =
        sys.processed (pllMsg event second) (processMessage (pllMsg event second) sys.fw) ∧
      notification (pllMsg event first) sys.fw = none ∧
        notification (pllMsg event second) sys.fw = none

/-- A message of the PLL notifies its sender, whoever that is. -/
theorem notification_eq_none_iff {msg : FwMsg} (fromPll : msg.FromPll) (fw : Fw) :
    notification msg fw = none ↔ msg.xSender = none := by
  obtain ⟨response, after, ran⟩ := Fw.answered_of_fromPll fromPll fw
  unfold notification
  rw [ran]
  cases msg.xSender <;> simp

/-- What the stack held makes no difference exactly when the handler reports nothing or the
sender is null. -/
theorem staleBlind_iff (status : Word) (first second : MsgData × Option TaskHandle)
    (sys : Sys) : StaleBlind status first second sys ↔
      Fw.pllEvent status = none ∨ (first.2 = none ∧ second.2 = none) := by
  unfold StaleBlind
  cases reported : Fw.pllEvent status with
  | none => simp
  | some event =>
      have listed := Fw.mem_events_of_pllEvent reported
      have fromPll : ∀ stale, (pllMsg event stale).FromPll := fun stale => ⟨event, listed, rfl⟩
      constructor
      · intro blind
        obtain ⟨-, notFirst, notSecond⟩ := blind event rfl
        right
        exact ⟨(notification_eq_none_iff (fromPll first) sys.fw).mp notFirst,
          (notification_eq_none_iff (fromPll second) sys.fw).mp notSecond⟩
      · rintro (nothing | ⟨nullFirst, nullSecond⟩) other isEvent
        · cases nothing
        · obtain rfl := Option.some.inj isEvent
          have sameBlank : (pllMsg event first).blank = (pllMsg event second).blank := by
            rw [FwMsg.blank, FwMsg.blank, if_pos (fromPll first), if_pos (fromPll second)]
            simp only [pllMsg, nullFirst, nullSecond]
          have sameRun : processMessage (pllMsg event first) sys.fw =
              processMessage (pllMsg event second) sys.fw := by
            rw [← Fw.processMessage_blank, sameBlank, Fw.processMessage_blank]
          refine ⟨?_, (notification_eq_none_iff (fromPll first) sys.fw).mpr nullFirst,
            (notification_eq_none_iff (fromPll second) sys.fw).mpr nullSecond⟩
          rw [sameRun]
          unfold processed
          simp only [pllMsg, nullFirst, nullSecond]

theorem sender_of_fromPll {sys : Sys}
    (reachable : system.ReachableWhere (fun label _ => label.SenderNull) sys) :
    ∀ msg ∈ sys.inFlight, msg.FromPll → msg.xSender = none := by
  apply reachable.invariant (motive := fun sys =>
    ∀ msg ∈ sys.inFlight, msg.FromPll → msg.xSender = none)
  · rintro _ ⟨table, reset, hw, timerStarts, -, -, rfl⟩ msg listed
    cases listed
  · intro label sys next before null taken noSender msg listed fromPll
    obtain ⟨event, isPll, isEvent⟩ := fromPll
    rcases mem_inFlight_of_taken before.reachable taken listed with earlier | ⟨-, arrives⟩
    · exact noSender msg earlier ⟨event, isPll, isEvent⟩
    · obtain ⟨line, data, xSender, late, rfl, reported, -⟩ := arrives.interruptible isEvent
        fun sent => IrqLine.notMem_events event sent isPll
      obtain rfl : line = .pll := IrqLine.eq_of_mem_events reported isPll
      obtain rfl : xSender = none := null
      obtain ⟨-, rfl⟩ := isr_of_taken taken
      have added : Fw.Adds sys.fw.mq (sys.fw.runIsr .pll data none late).mq
          fun msg => msg.xSender = none := by
        unfold Fw.runIsr Fw.pllIrqHandler
        dsimp only
        split
        · rename_i event _
          have isNull : (fun msg : FwMsg => msg.xSender = none) ⟨event.code, data, none⟩ := rfl
          exact Fw.adds_sendToBack isNull
            { sys.fw with wddr := sys.fw.wddr.onPll Pll.clearStatusInt }
        · exact .inl rfl
      rcases added with same | ⟨last, isNull, queue⟩
      · rw [inFlight_withFw (same.trans (List.append_nil sys.fw.mq).symm),
          List.append_nil] at listed
        exact noSender msg listed ⟨event, isPll, isEvent⟩
      · rw [inFlight_withFw queue, List.mem_append, List.mem_singleton] at listed
        rcases listed with earlier | rfl
        · exact noSender msg earlier ⟨event, isPll, isEvent⟩
        · exact isNull

/-- The PLL's interrupts depend on what the stack held exactly through the sender.  Two runs
with null senders that differ only in what the stack held go alike, and no message of the
PLL notifies a task. -/
theorem stale_messages_blind :
    (∀ (status : Word) (first second : MsgData × Option TaskHandle) (sys : Sys),
      StaleBlind status first second sys ↔
        Fw.pllEvent status = none ∨ (first.2 = none ∧ second.2 = none)) ∧
    ∀ first second : List Label, first.map Label.blank = second.map Label.blank →
      (∀ label ∈ first, label.SenderNull) → (∀ label ∈ second, label.SenderNull) →
      ∀ start, system.initial start → ∀ final, system.exec first start = some final →
        (∃ other, system.exec second start = some other ∧ other.blank = final.blank) ∧
          ∀ msg, final.fwTask = .process msg → msg.FromPll →
            notification msg final.fw = none := by
  refine ⟨staleBlind_iff, ?_⟩
  intro first second alike nullFirst nullSecond start starts final run
  constructor
  · have firstBlank := exec_blank nullFirst start
    have secondBlank := exec_blank nullSecond start
    rw [← alike, firstBlank, run] at secondBlank
    obtain ⟨other, otherRun, same⟩ := Option.map_eq_some_iff.mp secondBlank.symm
    exact ⟨other, otherRun, same⟩
  · intro msg task fromPll
    have reachable := ReachableWhere.exec_of_forall nullFirst (.initial starts) run
    rw [notification_eq_none_iff fromPll]
    exact sender_of_fromPll reachable msg (mem_inFlight_of_task task) fromPll

end Lockstep

/-- The lock of the PLL is reported with stale data. -/
def staleDataRun (data : MsgData) : List Label :=
  bootRun ++ prepRun 0 ++ initStartIrq ++ handleNext ++
    [.pllStatus ddrMvpPllCoreStatusIntCoreLocked.mask, .isr .pll data none [], .receive]

/-- Two runs that differ in the stale data of the lock's message. -/
theorem stale_messages_blind_lock :
    ∃ other, referenceSystem.exec (staleDataRun .null) referenceStart = some other ∧
      other.blank = (after (staleDataRun (.word 7)) (by decide +kernel)).blank :=
  ((@stale_messages_blind referencePlatform).2 (staleDataRun (.word 7)) (staleDataRun .null)
    rfl (by decide +kernel) (by decide +kernel) referenceStart initial_referenceStart _
    (Option.some_get _).symm).1

/-- The lock of a pending switch notifies the task that a stale pointer names. -/
theorem not_staleBlind_pending :
    referenceSystem.Reachable pendingState ∧
      ¬ @StaleBlind referencePlatform ddrMvpPllCoreStatusIntCoreLocked.mask (.null, none)
        (.null, some .main) pendingState := by
  constructor
  · exact reachable_after _
  · intro blind
    let := referencePlatform
    obtain ⟨-, -, silent⟩ := blind .pllLock (by decide +kernel)
    exact absurd silent (by decide +kernel)

end Sys

end WavLpddr
