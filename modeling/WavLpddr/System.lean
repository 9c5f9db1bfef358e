import WavLpddr.Interrupts
import WavLpddr.Lib.TransitionSystem
import WavLpddr.PllBookkeeping
import WavLpddr.WddrMain

/-!
# The firmware as a transition system

The firmware task, the main task, the periodic calibration task, the timer and
the interrupt handlers interleave.  The firmware task has the highest priority and
its handlers do not block, so a handler is one step: interrupts that arrive while
it runs are taken before it, when its message has already been received, or after
it.  An interrupt handler is one step as well, and its label has what the controller does
while it runs.  A fault stops everything.
-/

namespace WavLpddr

/-- The firmware task waits for a message or has received one. -/
inductive FirmwareTask
  | receive
  | process (msg : FwMsg)
deriving DecidableEq

/-- Where `firmwarePeriodicCalTask` is. -/
inductive CalTask
  | delay | initCompletion | clear | send | waitResponse | waitCompletion | checkPhyMstr
  | sendExit
deriving DecidableEq, Repr

/-- The timer callback calibrates before it sends. -/
inductive TimerTask
  | idle | send
deriving DecidableEq, Repr

/-- A task's notification value, and whether it was not yet read. -/
structure Notification where
  value : FwResponse
  pending : Bool
deriving DecidableEq

/-- The state of the whole firmware. -/
structure Sys where
  fw : Fw
  fwTask : FirmwareTask
  main : MainTask
  app : AppState
  /-- The last response sent to the host. -/
  response : Message
  cal : CalTask
  timerTask : TimerTask
  notified : TaskHandle → Notification
  fault : Option Fault

/-- What happens next. -/
inductive Label
  | receive
  | process
  | hostMessage (req : Message)
  | main
  | mainTimeout
  | cal
  | timerExpire
  | timerSend
  | isr (line : IrqLine) (data : MsgData) (xSender : Option TaskHandle)
      (late : List CtrlupdEdge)
  | raise (source : DdrIrq)
  | pllStatus (causes : Word)
  | report (hw : HwStatus) (timerStarts : Bool)

namespace Sys

/-- Continue with a new firmware state. -/
def withFw (sys : Sys) (fw : Fw) : Sys := { sys with fw := fw }

/-- `xTaskNotify` with `eSetValueWithOverwrite` -/
def notify (task : TaskHandle) (response : FwResponse) (sys : Sys) : Sys :=
  { sys with notified := Function.update sys.notified task ⟨response, true⟩ }

/-- `xTaskNotifyWait` marks the notification as read. -/
def clearNotification (task : TaskHandle) (sys : Sys) : Sys :=
  { sys with
    notified := Function.update sys.notified task
      { sys.notified task with pending := false } }

/-- The firmware task after its handler ran. -/
def processed (msg : FwMsg) (sys : Sys) (outcome : Except Fault (Option FwResponse × Fw)) :
    Sys :=
  match outcome with
  | .error fault => { sys with fault := some fault }
  | .ok (response, fw) =>
      let sys := { sys with fw := fw, fwTask := .receive }
      match msg.xSender, response with
      | some task, some response => sys.notify task response
      | _, _ => sys

/-- The request of the periodic calibration task. -/
def calRequest : DfiPhymstrReq where
  type := 0
  csState := 0
  stateSel := 1

def phymstrReqMsg : FwMsg :=
  ⟨FwPhyEvent.phymstrReq.code, .phymstrReq calRequest, some .periodicCal⟩

def phymstrExitMsg : FwMsg :=
  ⟨FwPhyEvent.phymstrExit.code, .phymstrReq calRequest, none⟩

/-- The message of the PHYUPD timer, of type `DFI_PHYUPD_TYPE_0`. -/
def phyupdReqMsg : FwMsg :=
  ⟨FwPhyEvent.phyupdReq.code, .word 0, none⟩

/-- `fw_phy_task_notify` waits until the queue has room. -/
def send (msg : FwMsg) (sys : Sys) : Option Sys :=
  if sys.fw.mq.length < msgQueueLen then some (sys.withFw (sys.fw.sendToBack msg)) else none

section Steps

variable [Platform]

def stepReceive (sys : Sys) : Option Sys :=
  match sys.fwTask, sys.fw.mq with
  | .receive, msg :: rest =>
      some { sys with fw := { sys.fw with mq := rest }, fwTask := .process msg }
  | _, _ => none

def stepProcess (sys : Sys) : Option Sys :=
  match sys.fwTask with
  | .process msg => some (sys.processed msg (processMessage msg sys.fw))
  | .receive => none

def stepHostMessage (req : Message) (sys : Sys) : Option Sys :=
  match sys.main with
  | .receive =>
      match handleMessage req sys.app with
      | .inl call => some { sys with main := .clear call }
      | .inr response => some { sys with response := response }
  | _ => none

/-- `handle_message` with the response value that `__send_fw_msg` read. -/
def resume (call : FirmwareCall) (tries : Nat) (value : FwResponse) (sys : Sys) : Sys :=
  match afterResponse call tries value with
  | .inl task => { sys with main := task }
  | .inr passed =>
      let (app, response) := finishMessage call passed sys.app
      { sys with main := .receive, app := app, response := response }

def stepMain (sys : Sys) : Option Sys :=
  match sys.main with
  | .receive => none
  | .clear call =>
      some { sys.clearNotification .main with main := .send call call.tryCount }
  | .send call tries =>
      (sys.send call.msg).map fun sys => { sys with main := .wait call tries }
  | .wait call tries =>
      if (sys.notified .main).pending then
        some ((sys.clearNotification .main).resume call tries (sys.notified .main).value)
      else none

/-- The bounded wait runs out and reads the value that is there. -/
def stepMainTimeout (sys : Sys) : Option Sys :=
  match sys.main with
  | .wait call tries =>
      if call.timesOut && !(sys.notified .main).pending then
        some (sys.resume call tries (sys.notified .main).value)
      else none
  | _ => none

def stepCal (sys : Sys) : Option Sys :=
  if BuildConfig.configCalPeriodic then
    match sys.cal with
    | .delay =>
        some { sys with cal := if sys.fw.dfi = .idle then .initCompletion else .delay }
    | .initCompletion =>
        some { sys.withFw { sys.fw with phyMstrEvent := false } with cal := .clear }
    | .clear => some { sys.clearNotification .periodicCal with cal := .send }
    | .send => (sys.send phymstrReqMsg).map fun sys => { sys with cal := .waitResponse }
    | .waitResponse =>
        if (sys.notified .periodicCal).pending then
          some { sys.clearNotification .periodicCal with
            cal := if (sys.notified .periodicCal).value = .success then .waitCompletion
              else .delay }
        else none
    | .waitCompletion =>
        if sys.fw.phyMstrEvent then some { sys with cal := .checkPhyMstr } else none
    | .checkPhyMstr =>
        some { sys with cal := if sys.fw.dfi = .phyMstr then .sendExit else .delay }
    | .sendExit => (sys.send phymstrExitMsg).map fun sys => { sys with cal := .delay }
  else none

/-- The timer calibrates the impedance, whose failure is fatal. -/
def stepTimerExpire (sys : Sys) : Option Sys :=
  if sys.fw.timer = .running ∧ sys.timerTask = .idle then
    match sys.fw.wddr.wddrIocalCalibrate sys.fw.hw with
    | .error fault => some { sys with fault := some fault }
    | .ok wddr => some { sys.withFw { sys.fw with wddr := wddr } with timerTask := .send }
  else none

/-- The message is sent without waiting, and a full queue is fatal. -/
def stepTimerSend (sys : Sys) : Option Sys :=
  match sys.timerTask with
  | .idle => none
  | .send =>
      match configASSERT .dfiPhyupdTimerCallback (sys.fw.mq.length < msgQueueLen) with
      | .error fault => some { sys with fault := some fault }
      | .ok () => some { sys.withFw (sys.fw.sendToBack phyupdReqMsg) with timerTask := .idle }

def stepIsr (line : IrqLine) (data : MsgData) (xSender : Option TaskHandle)
    (late : List CtrlupdEdge) (sys : Sys) : Option Sys :=
  if sys.fw.interruptible line then some (sys.withFw (sys.fw.runIsr line data xSender late))
  else none

/-- One step of the running firmware. -/
def stepRunning : Label → Sys → Option Sys
  | .receive, sys => sys.stepReceive
  | .process, sys => sys.stepProcess
  | .hostMessage req, sys => sys.stepHostMessage req
  | .main, sys => sys.stepMain
  | .mainTimeout, sys => sys.stepMainTimeout
  | .cal, sys => sys.stepCal
  | .timerExpire, sys => sys.stepTimerExpire
  | .timerSend, sys => sys.stepTimerSend
  | .isr line data xSender late, sys => sys.stepIsr line data xSender late
  | .raise source, sys => some (sys.withFw (sys.fw.onIrq (Irq.raise source)))
  | .pllStatus causes, sys =>
      some (sys.withFw { sys.fw with
        wddr := sys.fw.wddr.onPll fun pll => { pll with statusInt := pll.statusInt ||| causes } })
  | .report hw timerStarts, sys =>
      some (sys.withFw { sys.fw with hw := hw, timerStarts := timerStarts })

/-- A fault stops everything. -/
def step (label : Label) (sys : Sys) : Option Sys :=
  if sys.fault.isSome then none else sys.stepRunning label

/-- The device before `wddr_init`: both PHY VCOs disabled and no DFI request driven. -/
structure ResetWddr (wddr : Wddr) : Prop where
  vcosDisabled : ∀ vcoId, vcoId ≠ .mcu → ¬ wddr.pll.vcoEnabled vcoId
  phyupd : wddr.dfi ⟨.ddrDfiPhyupdIfCfg, []⟩ = ddrDfiPhyupdIfCfgPor
  phymstr : wddr.dfi ⟨.ddrDfiPhymstrIfCfg, []⟩ = ddrDfiPhymstrIfCfgPor

/-- After `fw_phy_task_init`, with every task at its start. -/
def started (table : WddrTable) (reset : Wddr) (hw : HwStatus) (timerStarts : Bool) : Sys where
  fw :=
    { ready := false
      error := false
      fsw := .prep
      dfi := .idle
      phyMstrEvent := false
      mq := []
      timer := .stopped
      wddr := reset.wddrInit table
      hw := hw
      timerStarts := timerStarts }
  fwTask := .receive
  main := .receive
  app := .idle
  response := ⟨0, 0⟩
  cal := .delay
  timerTask := .idle
  notified := fun _ => ⟨.success, false⟩
  fault := none

/-- The firmware as a transition system. -/
def system : TransitionSystem Sys Label where
  initial sys := ∃ table reset hw timerStarts, ValidTable table ∧ ResetWddr reset ∧
    sys = started table reset hw timerStarts
  step := step

end Steps

section Handles

/-- The step handles a message with the property. -/
def Handles (label : Label) (sys : Sys) (property : FwMsg → Prop) : Prop :=
  match label, sys.fwTask with
  | .process, .process msg => property msg
  | _, _ => False

instance (label : Label) (sys : Sys) (property : FwMsg → Prop) [DecidablePred property] :
    Decidable (Handles label sys property) := by
  unfold Handles
  split
  · exact inferInstance
  · exact inferInstance

theorem handles_process {sys : Sys} {property : FwMsg → Prop} {msg : FwMsg}
    (task : sys.fwTask = .process msg) : Handles .process sys property ↔ property msg := by
  simp only [Handles, task]

theorem exists_of_handles {label : Label} {sys : Sys} {property : FwMsg → Prop}
    (handles : Handles label sys property) :
    ∃ msg, label = .process ∧ sys.fwTask = .process msg ∧ property msg := by
  unfold Handles at handles
  split at handles
  · rename_i msg task
    exact ⟨msg, rfl, task, handles⟩
  · exact absurd handles not_false

end Handles

section Reference

/-- Impedance comparators that flip in the middle of their range. -/
def referenceHw : HwStatus where
  currentMsr := .msr0
  fllBandStatus _ _ := 0
  zqcal _ _ code := code < 8
  sensamp _ _ _ _ _ _ := false
  heapFails _ := false

/-- The device with all registers at zero. -/
def referenceReset : Wddr where
  isBooted := false
  fswMode := .sw
  pll :=
    { base := 0
      vco := fun _ => ⟨0, 0, 0⟩
      pVcoCurrent := none
      pVcoNext := none
      pVcoPrev := none
      regs := fun _ => 0
      statusInt := 0 }
  phy := ⟨fun _ _ _ => 0, fun _ _ => 0, fun _ => 0⟩
  dfich := ⟨fun _ => 0, [], []⟩
  dfi _ := 0
  fsw _ := 0
  ctrl _ := 0
  table := referenceTable
  dramCfg := 0
  irq := ⟨fun _ => false, fun _ => false, fun _ => false, fun _ => false⟩

/-- The system on the reference platform. -/
abbrev referenceSystem : TransitionSystem Sys Label := @system referencePlatform

/-- Its start on the reference device. -/
def referenceStart : Sys :=
  @started referencePlatform referenceTable referenceReset referenceHw true

theorem initial_referenceStart : referenceSystem.initial referenceStart := by
  let := referencePlatform
  refine ⟨_, _, _, _, validTable_referenceTable, ⟨?_, rfl, rfl⟩, rfl⟩
  intro vcoId _
  cases vcoId <;> decide

/-- The state that a run from the reference start ends in. -/
def after (labels : List Label)
    (possible : (referenceSystem.exec labels referenceStart).isSome) : Sys :=
  (referenceSystem.exec labels referenceStart).get possible

theorem reachable_after {labels : List Label}
    (possible : (referenceSystem.exec labels referenceStart).isSome) :
    referenceSystem.Reachable (after labels possible) :=
  TransitionSystem.Reachable.exec (.initial initial_referenceStart)
    (Option.some_get possible).symm

/-- The state that a run under a condition ends in. -/
def afterWhere (condition : TransitionSystem.StepCondition Sys Label)
    [∀ label sys, Decidable (condition label sys)] (labels : List Label)
    (possible : (referenceSystem.execWhere condition labels referenceStart).isSome) : Sys :=
  (referenceSystem.execWhere condition labels referenceStart).get possible

theorem reachable_afterWhere {condition : TransitionSystem.StepCondition Sys Label}
    [∀ label sys, Decidable (condition label sys)] {labels : List Label}
    (possible : (referenceSystem.execWhere condition labels referenceStart).isSome) :
    referenceSystem.ReachableWhere condition (afterWhere condition labels possible) :=
  TransitionSystem.ReachableWhere.execWhere (.initial initial_referenceStart)
    (Option.some_get possible).symm

section Observed

variable {Ghost : Type} (observe : Label → Sys → Ghost → Ghost) (start : Ghost)

/-- The reference system with an observer. -/
abbrev observedReference : TransitionSystem (Sys × Ghost) Label :=
  TransitionSystem.monitored referenceSystem start observe

variable (condition : TransitionSystem.StepCondition (Sys × Ghost) Label)
  [∀ label pair, Decidable (condition label pair)]

/-- The observed state that a run under a condition ends in. -/
def observedAfterWhere (labels : List Label)
    (possible : ((observedReference observe start).execWhere condition labels
      (referenceStart, start)).isSome) : Sys × Ghost :=
  ((observedReference observe start).execWhere condition labels
    (referenceStart, start)).get possible

variable {observe start condition}

theorem reachable_observedAfterWhere {labels : List Label}
    (possible : ((observedReference observe start).execWhere condition labels
      (referenceStart, start)).isSome) :
    (observedReference observe start).ReachableWhere condition
      (observedAfterWhere observe start condition labels possible) :=
  TransitionSystem.ReachableWhere.execWhere (.initial ⟨initial_referenceStart, rfl⟩)
    (Option.some_get possible).symm

end Observed

/-- A request of the host whose message reaches the queue. -/
def hostCall (id data : Word) : List Label := [.hostMessage ⟨id, data⟩, .main, .main]

def hostBoot : List Label := hostCall 0x00010000 0

def hostPrep (freqId : UInt8) : List Label :=
  hostCall messageWddrFreqPrepReq (freqId.toBitVec.setWidth 32)

/-- The firmware task handles its next message. -/
def handleNext : List Label := [.receive, .process]

/-- Boot without calibration, up to the response to the host. -/
def bootRun : List Label := hostBoot ++ handleNext ++ [.main]

theorem bootRun_possible : (referenceSystem.exec bootRun referenceStart).isSome := by
  decide +kernel

/-- A preparation up to the response to the host. -/
def prepRun (freqId : UInt8) : List Label := hostPrep freqId ++ handleNext ++ [.main]

/-- The controller starts the switch, and its interrupt is taken. -/
def initStartIrq : List Label := [.raise .initStart, .isr .initStart .null none []]

/-- The PLL locks, and its interrupt is taken. -/
def pllLockIrq : List Label :=
  [.pllStatus ddrMvpPllCoreStatusIntCoreLocked.mask, .isr .pll .null none []]

end Reference

end Sys

end WavLpddr
