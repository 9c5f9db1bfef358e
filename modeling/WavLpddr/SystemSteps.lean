import WavLpddr.DeviceInvariant
import WavLpddr.Processing
import WavLpddr.System

/-!
# What a step of the system can do

A step of the firmware task handles one message; every other step leaves the state
machines, the switch bookkeeping and the request lines alone.
-/

namespace WavLpddr

open EventMachine TransitionSystem

section Frame

variable [KernelIo]

/-- The state machines and what they control of the device agree. -/
structure Fw.SameControl (before after : Fw) : Prop where
  ready : after.ready = before.ready
  error : after.error = before.error
  fsw : after.fsw = before.fsw
  dfi : after.dfi = before.dfi
  device : Wddr.Similar before.wddr after.wddr
  lines : after.wddr.dfi = before.wddr.dfi
  switch : after.wddr.fsw = before.wddr.fsw

theorem Fw.SameControl.refl (fw : Fw) : fw.SameControl fw :=
  ⟨rfl, rfl, rfl, rfl, .refl fw.wddr, rfl, rfl⟩

theorem Fw.SameControl.trans {first second third : Fw} (earlier : first.SameControl second)
    (later : second.SameControl third) : first.SameControl third where
  ready := later.ready.trans earlier.ready
  error := later.error.trans earlier.error
  fsw := later.fsw.trans earlier.fsw
  dfi := later.dfi.trans earlier.dfi
  device := earlier.device.trans later.device
  lines := later.lines.trans earlier.lines
  switch := later.switch.trans earlier.switch

theorem Fw.sameControl_sendToBack (msg : FwMsg) (fw : Fw) :
    fw.SameControl (fw.sendToBack msg) := by
  unfold Fw.sendToBack
  split
  · exact ⟨rfl, rfl, rfl, rfl, .refl fw.wddr, rfl, rfl⟩
  · exact .refl fw

theorem Fw.sameControl_onIrq (update : Irq → Irq) (fw : Fw) :
    fw.SameControl (fw.onIrq update) :=
  ⟨rfl, rfl, rfl, rfl, ⟨.refl _, rfl, rfl, rfl⟩, rfl, rfl⟩

theorem Fw.sameControl_statusInt (status : Word) (fw : Fw) :
    fw.SameControl
      { fw with wddr := fw.wddr.onPll fun pll => { pll with statusInt := status } } :=
  ⟨rfl, rfl, rfl, rfl, ⟨⟨rfl, rfl, rfl, rfl, rfl, fun _ => Iff.rfl⟩, rfl, rfl, rfl⟩, rfl, rfl⟩

theorem Fw.sameControl_runIsr (line : IrqLine) (data : MsgData) (xSender : Option TaskHandle)
    (late : List CtrlupdEdge) (fw : Fw) :
    fw.SameControl (fw.runIsr line data xSender late) := by
  have oneShot : ∀ line source event,
      fw.SameControl (Fw.handleOneShotIrq line source event fw) := by
    intro line source event
    have disabled := Fw.sameControl_onIrq (Irq.disableIrq line) fw
    have cleared := Fw.sameControl_onIrq (Irq.clear [source])
      (fw.onIrq (Irq.disableIrq line))
    exact (disabled.trans cleared).trans (Fw.sameControl_sendToBack _ _)
  cases line with
  | initStart => exact oneShot _ _ _
  | initComplete => exact oneShot _ _ _
  | phyupdAck => exact oneShot _ _ _
  | phymstrAck => exact oneShot _ _ _
  | pll =>
      have cleared := Fw.sameControl_statusInt
        (fw.wddr.pll.statusInt &&& ~~~fw.wddr.pll.statusInt) fw
      unfold Fw.runIsr Fw.pllIrqHandler
      dsimp only
      split
      · exact cleared.trans (Fw.sameControl_sendToBack _ _)
      · exact cleared
  | ctrlupdReq =>
      have cleared := (Fw.sameControl_onIrq (Irq.raiseEdges late) fw).trans
        (Fw.sameControl_onIrq (Irq.clear Irq.ctrlupdSources) _)
      unfold Fw.runIsr Fw.handleDfiCtrlupdReqIrq
      dsimp only
      split
      · exact cleared.trans (Fw.sameControl_sendToBack _ _)
      · split
        · exact cleared.trans (Fw.sameControl_sendToBack _ _)
        · exact cleared

theorem Fw.sameControl_iocalCalibrate [BuildConfig] {fw : Fw} {wddr : Wddr}
    (calibrated : fw.wddr.wddrIocalCalibrate fw.hw = .ok wddr) :
    fw.SameControl { fw with wddr := wddr } := by
  obtain ⟨zqcal, cmn, rfl⟩ := Wddr.eq_of_wddrIocalCalibrate calibrated
  exact ⟨rfl, rfl, rfl, rfl,
    ⟨.refl _, rfl, rfl, rfl⟩, rfl, rfl⟩

end Frame

namespace Sys

/-- The firmware task after it answered a message. -/
def answered (msg : FwMsg) (response : FwResponse) (after : Fw) (sys : Sys) : Sys :=
  match msg.xSender with
  | some task => ({ sys with fw := after, fwTask := .receive } : Sys).notify task response
  | none => { sys with fw := after, fwTask := .receive }

section Answered

variable (msg : FwMsg) (response : FwResponse) (after : Fw) (sys : Sys)

@[simp]
theorem answered_fw : (sys.answered msg response after).fw = after := by
  unfold answered
  split <;> rfl

@[simp]
theorem answered_fwTask : (sys.answered msg response after).fwTask = .receive := by
  unfold answered
  split <;> rfl

@[simp]
theorem answered_main : (sys.answered msg response after).main = sys.main := by
  unfold answered
  split <;> rfl

@[simp]
theorem answered_app : (sys.answered msg response after).app = sys.app := by
  unfold answered
  split <;> rfl

@[simp]
theorem answered_fault : (sys.answered msg response after).fault = sys.fault := by
  unfold answered
  split <;> rfl

theorem answered_notified (task : TaskHandle) :
    (sys.answered msg response after).notified task =
      if msg.xSender = some task then ⟨response, true⟩ else sys.notified task := by
  unfold answered
  split
  · rename_i sender sent
    simp only [notify, Function.update_apply, sent, Option.some.injEq]
    by_cases same : task = sender
    · simp [same]
    · simp [same, Ne.symm same]
  · rename_i nobody
    simp [nobody]

end Answered

section ProcessStep

variable [Platform]

/-- What the firmware task can do with the message it received. -/
inductive ProcessStep (sys : Sys) (msg : FwMsg) : Sys → Prop
  | unknown (undecoded : FwPhyEvent.ofCode? msg.event = none) :
      ProcessStep sys msg { sys with fwTask := .receive }
  | failed {event : FwPhyEvent} {fault : Fault}
      (decoded : FwPhyEvent.ofCode? msg.event = some event)
      (stopped : handled event msg.data sys.fw = .error fault) :
      ProcessStep sys msg { sys with fault := some fault }
  | answered {event : FwPhyEvent} {response : FwResponse} {after : Fw}
      (decoded : FwPhyEvent.ofCode? msg.event = some event)
      (ran : Handled msg.data sys.fw event response after) :
      ProcessStep sys msg (sys.answered msg response after)

theorem stepRunning_of_taken {label : Label} {sys next : Sys}
    (taken : system.step label sys = some next) :
    sys.fault = none ∧ sys.stepRunning label = some next := by
  change (if sys.fault.isSome then none else stepRunning label sys) = some next at taken
  cases fault : sys.fault with
  | none =>
      simp only [fault, Option.isSome_none, Bool.false_eq_true, if_false] at taken
      exact ⟨rfl, taken⟩
  | some fault' => simp [fault] at taken

theorem processed_of_error {msg : FwMsg} {sys : Sys} {fault : Fault}
    (stopped : processMessage msg sys.fw = .error fault) :
    sys.processed msg (processMessage msg sys.fw) = { sys with fault := some fault } := by
  rw [stopped]
  rfl

theorem processed_of_ok {msg : FwMsg} {sys : Sys} {response : FwResponse} {after : Fw}
    (ran : processMessage msg sys.fw = .ok (some response, after)) :
    sys.processed msg (processMessage msg sys.fw) = sys.answered msg response after := by
  rw [ran]
  unfold processed answered
  cases msg.xSender <;> rfl

theorem processStep_of_taken {sys next : Sys} (taken : system.step .process sys = some next) :
    ∃ msg, sys.fwTask = .process msg ∧ ProcessStep sys msg next := by
  obtain ⟨-, taken⟩ := stepRunning_of_taken taken
  change sys.stepProcess = some next at taken
  unfold stepProcess at taken
  cases task : sys.fwTask with
  | receive => simp [task] at taken
  | process msg =>
      refine ⟨msg, rfl, ?_⟩
      simp only [task, Option.some.injEq] at taken
      have processing := processMessage_eq msg sys.fw
      cases decoded : FwPhyEvent.ofCode? msg.event with
      | none =>
          simp only [decoded] at processing
          rw [processing] at taken
          have unknown : ProcessStep sys msg _ := .unknown decoded
          have same : sys.processed msg (.ok (none, sys.fw)) =
              { sys with fwTask := .receive } := by
            unfold processed
            cases msg.xSender <;> rfl
          rw [← taken, same]
          exact unknown
      | some event =>
          simp only [decoded] at processing
          cases ran : handled event msg.data sys.fw with
          | error fault =>
              rw [ran] at processing
              rw [← taken, processed_of_error processing]
              exact .failed decoded ran
          | ok done =>
              rw [ran] at processing
              rw [← taken, processed_of_ok processing]
              exact .answered decoded (handled_of_ok ran)

end ProcessStep

section OtherSteps

variable [Platform]

@[simp]
theorem resume_fw (call : FirmwareCall) (tries : Nat) (value : FwResponse) (sys : Sys) :
    (sys.resume call tries value).fw = sys.fw := by
  unfold resume
  split <;> rfl

/-- The messages that a step may put into the queue, apart from interrupts. -/
inductive Sends (sys : Sys) : Label → FwMsg → Prop
  | main {call : FirmwareCall} {tries : Nat} (sending : sys.main = .send call tries) :
      Sends sys .main call.msg
  | calRequest (sending : sys.cal = .send) : Sends sys .cal phymstrReqMsg
  | calExit (sending : sys.cal = .sendExit) : Sends sys .cal phymstrExitMsg
  | timer (sending : sys.timerTask = .send) : Sends sys .timerSend phyupdReqMsg

/-- What a step can do to the firmware, apart from handling a message. -/
inductive FwEffect (sys : Sys) : Label → Fw → Prop
  | kept {label : Label} (notReceive : label ≠ .receive) : FwEffect sys label sys.fw
  | received {msg : FwMsg} {rest : List FwMsg} (queued : sys.fw.mq = msg :: rest) :
      FwEffect sys .receive { sys.fw with mq := rest }
  | sent {label : Label} {msg : FwMsg} (sends : Sends sys label msg) :
      FwEffect sys label (sys.fw.sendToBack msg)
  | forgot : FwEffect sys .cal { sys.fw with phyMstrEvent := false }
  | calibrated {wddr : Wddr} (ran : sys.fw.wddr.wddrIocalCalibrate sys.fw.hw = .ok wddr) :
      FwEffect sys .timerExpire { sys.fw with wddr := wddr }
  | isr {line : IrqLine} {data : MsgData} {xSender : Option TaskHandle}
      {late : List CtrlupdEdge} (interruptible : sys.fw.interruptible line = true) :
      FwEffect sys (.isr line data xSender late) (sys.fw.runIsr line data xSender late)
  | raised {source : DdrIrq} : FwEffect sys (.raise source) (sys.fw.onIrq (Irq.raise source))
  | latched {causes : Word} : FwEffect sys (.pllStatus causes)
      { sys.fw with
        wddr := sys.fw.wddr.onPll fun pll => { pll with statusInt := pll.statusInt ||| causes } }
  | reported {hw : HwStatus} {timerStarts : Bool} :
      FwEffect sys (.report hw timerStarts) { sys.fw with hw := hw, timerStarts := timerStarts }

/-- The steps of the task that serves the host. -/
def isHostStep : Label → Bool
  | .hostMessage _ | .main | .mainTimeout => true
  | _ => false

/-- What a step other than the handling of a message does to the whole system. -/
structure OtherStep (sys : Sys) (label : Label) (next : Sys) : Prop where
  effect : FwEffect sys label next.fw
  fwTask : label ≠ .receive → next.fwTask = sys.fwTask
  host : isHostStep label = false →
    next.main = sys.main ∧ next.app = sys.app ∧ next.notified .main = sys.notified .main
  cal : label ≠ .cal → next.cal = sys.cal
  fault : ∀ fault, next.fault = some fault →
    fault = .assertion .wddrIocalCalibrate ∨ fault = .assertion .dfiPhyupdTimerCallback

omit [Platform] in
theorem eq_of_send {msg : FwMsg} {sys next : Sys} (sent : sys.send msg = some next) :
    next = sys.withFw (sys.fw.sendToBack msg) := by
  unfold send at sent
  split at sent
  · exact (Option.some.inj sent).symm
  · cases sent

theorem OtherStep.of_host {sys next : Sys} {label : Label} (isHost : isHostStep label = true)
    (healthy : sys.fault = none) (effect : FwEffect sys label next.fw)
    (fwTask : next.fwTask = sys.fwTask) (cal : next.cal = sys.cal)
    (fault : next.fault = sys.fault) : OtherStep sys label next where
  effect := effect
  fwTask _ := fwTask
  host other := by simp [isHost] at other
  cal _ := cal
  fault stopped failed := by simp [fault, healthy] at failed

theorem OtherStep.of_withFw {sys : Sys} {label : Label} {fw : Fw} (healthy : sys.fault = none)
    (effect : FwEffect sys label fw) : OtherStep sys label (sys.withFw fw) where
  effect := effect
  fwTask _ := rfl
  host _ := ⟨rfl, rfl, rfl⟩
  cal _ := rfl
  fault stopped failed := by simp [withFw, healthy] at failed

theorem OtherStep.of_cal {sys next : Sys} (healthy : sys.fault = none)
    (effect : FwEffect sys .cal next.fw) (fwTask : next.fwTask = sys.fwTask)
    (main : next.main = sys.main) (app : next.app = sys.app)
    (notified : next.notified .main = sys.notified .main) (fault : next.fault = sys.fault) :
    OtherStep sys .cal next where
  effect := effect
  fwTask _ := fwTask
  host _ := ⟨main, app, notified⟩
  cal notCal := absurd rfl notCal
  fault stopped failed := by simp [fault, healthy] at failed

@[simp]
theorem resume_frame (call : FirmwareCall) (tries : Nat) (value : FwResponse) (sys : Sys) :
    (sys.resume call tries value).fwTask = sys.fwTask ∧
      (sys.resume call tries value).cal = sys.cal ∧
        (sys.resume call tries value).fault = sys.fault := by
  unfold resume
  split <;> exact ⟨rfl, rfl, rfl⟩

theorem otherStep_of_main {sys next : Sys} (healthy : sys.fault = none)
    (taken : sys.stepMain = some next) : OtherStep sys .main next := by
  unfold stepMain at taken
  split at taken
  · cases taken
  · rw [← Option.some.inj taken]
    exact .of_host rfl healthy (.kept (by simp)) rfl rfl rfl
  · rename_i call tries sending
    obtain ⟨middle, isSent, same⟩ := Option.map_eq_some_iff.mp taken
    rw [← same, eq_of_send isSent]
    exact .of_host rfl healthy (.sent (.main sending)) rfl rfl rfl
  · rename_i call tries waiting
    split at taken
    · obtain ⟨fwTask, cal, fault⟩ := resume_frame call tries (sys.notified .main).value
        (sys.clearNotification .main)
      rw [← Option.some.inj taken]
      apply OtherStep.of_host rfl healthy _ fwTask cal fault
      rw [resume_fw]
      exact .kept (by simp)
    · cases taken

theorem otherStep_of_cal {sys next : Sys} (healthy : sys.fault = none)
    (taken : sys.stepCal = some next) : OtherStep sys .cal next := by
  unfold stepCal at taken
  split at taken
  · split at taken
    case h_2 =>
      rw [← Option.some.inj taken]
      exact .of_cal healthy .forgot rfl rfl rfl rfl rfl
    case h_4 sending =>
      obtain ⟨middle, isSent, same⟩ := Option.map_eq_some_iff.mp taken
      rw [← same, eq_of_send isSent]
      exact .of_cal healthy (.sent (.calRequest sending)) rfl rfl rfl rfl rfl
    case h_8 sending =>
      obtain ⟨middle, isSent, same⟩ := Option.map_eq_some_iff.mp taken
      rw [← same, eq_of_send isSent]
      exact .of_cal healthy (.sent (.calExit sending)) rfl rfl rfl rfl rfl
    case h_3 | h_5 | h_6 =>
      first
      | split at taken
        · rw [← Option.some.inj taken]
          exact .of_cal healthy (.kept (by simp)) rfl rfl rfl (by simp [clearNotification]) rfl
        · cases taken
      | rw [← Option.some.inj taken]
        exact .of_cal healthy (.kept (by simp)) rfl rfl rfl (by simp [clearNotification]) rfl
    all_goals
      rw [← Option.some.inj taken]
      exact .of_cal healthy (.kept (by simp)) rfl rfl rfl rfl rfl
  · cases taken

theorem otherStep_of_timerExpire {sys next : Sys} (healthy : sys.fault = none)
    (taken : sys.stepTimerExpire = some next) : OtherStep sys .timerExpire next := by
  unfold stepTimerExpire at taken
  split at taken
  · have ends := sys.fw.wddr.wddrIocalCalibrate_ends sys.fw.hw
    split at taken
    · rename_i fault stopped
      rw [← Option.some.inj taken]
      refine ⟨.kept (by simp), fun _ => rfl, fun _ => ⟨rfl, rfl, rfl⟩, fun _ => rfl, ?_⟩
      rintro _ ⟨⟩
      exact .inl (ends.allowed_of_error stopped)
    · rename_i wddr calibrated
      rw [← Option.some.inj taken]
      refine ⟨.calibrated calibrated, fun _ => rfl, fun _ => ⟨rfl, rfl, rfl⟩, fun _ => rfl, ?_⟩
      intro fault stopped
      simp [withFw, healthy] at stopped
  · cases taken

theorem otherStep_of_timerSend {sys next : Sys} (healthy : sys.fault = none)
    (taken : sys.stepTimerSend = some next) : OtherStep sys .timerSend next := by
  unfold stepTimerSend at taken
  split at taken
  · cases taken
  · rename_i sending
    split at taken
    · rename_i fault full
      rw [← Option.some.inj taken]
      refine ⟨.kept (by simp), fun _ => rfl, fun _ => ⟨rfl, rfl, rfl⟩, fun _ => rfl, ?_⟩
      rintro _ ⟨⟩
      unfold configASSERT at full
      split at full
      · exact .inr (Except.error.inj full).symm
      · cases full
    · rw [← Option.some.inj taken]
      refine ⟨.sent (.timer sending), fun _ => rfl, fun _ => ⟨rfl, rfl, rfl⟩, fun _ => rfl, ?_⟩
      intro fault stopped
      simp [withFw, healthy] at stopped

/-- What every step but the handling of a message does. -/
theorem otherStep_of_taken {label : Label} {sys next : Sys}
    (taken : system.step label sys = some next) (notProcess : label ≠ .process) :
    OtherStep sys label next := by
  obtain ⟨healthy, taken⟩ := stepRunning_of_taken taken
  cases label with
  | process => exact absurd rfl notProcess
  | receive =>
      simp only [stepRunning, stepReceive] at taken
      split at taken
      · rename_i msg rest task queued
        rw [← Option.some.inj taken]
        refine ⟨.received queued, fun other => absurd rfl other, fun _ => ⟨rfl, rfl, rfl⟩,
          fun _ => rfl, ?_⟩
        intro fault stopped
        simp [healthy] at stopped
      · cases taken
  | hostMessage req =>
      simp only [stepRunning, stepHostMessage] at taken
      split at taken
      · split at taken
        · rw [← Option.some.inj taken]
          exact .of_host rfl healthy (.kept (by simp)) rfl rfl rfl
        · rw [← Option.some.inj taken]
          exact .of_host rfl healthy (.kept (by simp)) rfl rfl rfl
      · cases taken
  | main => exact otherStep_of_main healthy taken
  | mainTimeout =>
      simp only [stepRunning, stepMainTimeout] at taken
      split at taken
      · rename_i call tries waiting
        split at taken
        · obtain ⟨fwTask, cal, fault⟩ := resume_frame call tries (sys.notified .main).value sys
          rw [← Option.some.inj taken]
          apply OtherStep.of_host rfl healthy _ fwTask cal fault
          rw [resume_fw]
          exact .kept (by simp)
        · cases taken
      · cases taken
  | cal => exact otherStep_of_cal healthy taken
  | timerExpire => exact otherStep_of_timerExpire healthy taken
  | timerSend => exact otherStep_of_timerSend healthy taken
  | isr line data xSender late =>
      simp only [stepRunning, stepIsr] at taken
      split at taken
      · rename_i interruptible
        rw [← Option.some.inj taken]
        exact .of_withFw healthy (.isr interruptible)
      · cases taken
  | raise source =>
      rw [← Option.some.inj taken]
      exact .of_withFw healthy .raised
  | pllStatus causes =>
      rw [← Option.some.inj taken]
      exact .of_withFw healthy .latched
  | report hw timerStarts =>
      rw [← Option.some.inj taken]
      exact .of_withFw healthy .reported

theorem FwEffect.sameControl {sys : Sys} {label : Label} {after : Fw}
    (effect : FwEffect sys label after) : sys.fw.SameControl after := by
  cases effect with
  | kept => exact .refl _
  | received => exact ⟨rfl, rfl, rfl, rfl, .refl _, rfl, rfl⟩
  | sent => exact Fw.sameControl_sendToBack _ _
  | forgot => exact ⟨rfl, rfl, rfl, rfl, .refl _, rfl, rfl⟩
  | calibrated ran => exact Fw.sameControl_iocalCalibrate ran
  | isr => exact Fw.sameControl_runIsr _ _ _ _ _
  | raised => exact Fw.sameControl_onIrq _ _
  | latched => exact Fw.sameControl_statusInt _ _
  | reported => exact ⟨rfl, rfl, rfl, rfl, .refl _, rfl, rfl⟩

theorem sameControl_of_taken {label : Label} {sys next : Sys}
    (taken : system.step label sys = some next) (notProcess : label ≠ .process) :
    sys.fw.SameControl next.fw :=
  (otherStep_of_taken taken notProcess).effect.sameControl

end OtherSteps

end Sys

end WavLpddr
