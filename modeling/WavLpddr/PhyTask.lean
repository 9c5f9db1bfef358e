import WavLpddr.Wddr

/-!
# The firmware task

Messages are handled one at a time.  Two state machines share the manager: one
follows the frequency switch and one the DFI update and master requests.  Each
handler first checks that the firmware runs and that the other machine does not
stand in the way, and reports what its machine made of the event.
-/

namespace WavLpddr

/-- `fw_phy_event_t` -/
inductive FwPhyEvent
  | boot | prep | phyupdReq | phymstrReq | phymstrExit | initStart | initComplete
  | pllInitLock | pllLock | pllLossLock | phymstrAck | phymstrAbort | phyupdAck
  | phyupdAbort | ctrlupdAssert | ctrlupdDeassert | lpDataReq | lpCtrlReq
deriving DecidableEq, Repr

namespace FwPhyEvent

/-- The events in the order of their codes. -/
def all : List FwPhyEvent :=
  [boot, prep, phyupdReq, phymstrReq, phymstrExit, initStart, initComplete, pllInitLock,
    pllLock, pllLossLock, phymstrAck, phymstrAbort, phyupdAck, phyupdAbort, ctrlupdAssert,
    ctrlupdDeassert, lpDataReq, lpCtrlReq]

def code (event : FwPhyEvent) : UInt8 := UInt8.ofNat event.ctorIdx

/-- The event with a code, unless the code is out of bounds. -/
def ofCode? (code : UInt8) : Option FwPhyEvent := all[code.toNat]?

@[simp]
theorem ofCode?_code (event : FwPhyEvent) : ofCode? event.code = some event := by
  cases event <;> rfl

theorem code_get : ∀ index : Fin all.length, index.val = (all.get index).code.toNat := by
  decide

theorem ofCode?_eq_some_iff {code : UInt8} {event : FwPhyEvent} :
    ofCode? code = some event ↔ code = event.code := by
  constructor
  · intro decoded
    obtain ⟨inRange, rfl⟩ := List.getElem?_eq_some_iff.mp decoded
    exact UInt8.toNat_inj.mp (code_get ⟨code.toNat, inRange⟩)
  · rintro rfl
    exact ofCode?_code event

end FwPhyEvent

/-- `fw_response_t` -/
inductive FwResponse
  | success | failure | retry
deriving DecidableEq, Repr

/-- What the `data` pointer of a message stands for: a value cast to a pointer, or
one of the two structures that messages point to. -/
inductive MsgData
  | word (value : Word)
  | startCfg (calibrate trainDram : Bool)
  | phymstrReq (req : DfiPhymstrReq)
deriving DecidableEq

namespace MsgData

def null : MsgData := .word 0

/-- The pointer cast back to the value it was made from. -/
def toWord : MsgData → Word
  | .word value => value
  | _ => 0

/-- The pointer cast to the 8-bit frequency id it was made from. -/
def freqId (data : MsgData) : UInt8 := ⟨data.toWord.setWidth 8⟩

def ofFreqId (freqId : UInt8) : MsgData := .word (freqId.toBitVec.setWidth 32)

@[simp]
theorem freqId_ofFreqId (freq : UInt8) : (ofFreqId freq).freqId = freq := by
  simp [ofFreqId, freqId, toWord]

/-- The request that the pointer points to. -/
def toPhymstrReq : MsgData → Except Fault DfiPhymstrReq
  | .phymstrReq req => .ok req
  | _ => .error .nullPointer

/-- The start configuration that the pointer points to. -/
def toStartCfg : MsgData → Except Fault (Bool × Bool)
  | .startCfg calibrate trainDram => .ok (calibrate, trainDram)
  | _ => .error .nullPointer

end MsgData

/-- The tasks that a message may name as its sender.  `other` stands for any other
value of the pointer. -/
inductive TaskHandle
  | main | periodicCal | other
deriving DecidableEq, Repr

/-- `fw_msg_t` -/
structure FwMsg where
  event : UInt8
  data : MsgData
  xSender : Option TaskHandle
deriving DecidableEq

/-- The message reports an event. -/
def FwMsg.Is (event : FwPhyEvent) (msg : FwMsg) : Prop := msg.event = event.code

instance (event : FwPhyEvent) (msg : FwMsg) : Decidable (msg.Is event) :=
  inferInstanceAs (Decidable (_ = _))

/-- A message reports one event. -/
theorem FwMsg.Is.eq {msg : FwMsg} {first second : FwPhyEvent} (isFirst : msg.Is first)
    (isSecond : msg.Is second) : first = second := by
  have decoded := FwPhyEvent.ofCode?_eq_some_iff.mpr isFirst
  rw [FwPhyEvent.ofCode?_eq_some_iff.mpr isSecond, Option.some.injEq] at decoded
  exact decoded.symm

/-- The states of the frequency switch machine. -/
inductive FswState
  | prep | pending | error
deriving DecidableEq, Repr

/-- The states of the DFI machine. -/
inductive DfiState
  | idle | phyMstrPending | phyMstr | phyUpd | ctrlUpd | error
deriving DecidableEq, Repr

/-- The PHYUPD timer. -/
inductive TimerState
  | stopped | running | deleted
deriving DecidableEq, Repr

/-- `fw_manager`, its queue and timer, the device it manages, and what the hardware
and the kernel report next. -/
structure Fw where
  ready : Bool
  error : Bool
  fsw : FswState
  dfi : DfiState
  /-- Whether `phyMstrEvent` is complete. -/
  phyMstrEvent : Bool
  mq : List FwMsg
  timer : TimerState
  wddr : Wddr
  hw : HwStatus
  /-- Whether the next `xTimerStart` is accepted. -/
  timerStarts : Bool

/-- `MSG_QUEUE_LEN` -/
def msgQueueLen : Nat := 0x10

/-- What a handler does to the firmware. -/
abbrev FwM := StateT Fw (Except Fault)

namespace FwM

/-- Update the device. -/
def onWddr (update : Wddr → Wddr) : FwM Unit :=
  modify fun fw => { fw with wddr := update fw.wddr }

/-- Run a device operation that reads the hardware's reports. -/
def runWddr (operation : HwStatus → Wddr → Except Fault Wddr) : FwM Unit := fun fw => do
  let wddr ← operation fw.hw fw.wddr
  pure ((), { fw with wddr := wddr })

/-- Stop at a failing assertion. -/
def assert [BuildConfig] (site : AssertSite) (condition : Bool) : FwM Unit := fun fw => do
  configASSERT site condition
  pure ((), fw)

end FwM

open FwM

section Handlers

variable [KernelIo] [BuildConfig]

/-- Entry of the error state. -/
def errorEntryHandler (_event : FwPhyEvent) (_data : MsgData) : FwM Unit := do
  modify fun fw => { fw with error := true }
  assert .errorEntryHandler false

/-- `vComplete(&fw_manager.phyMstrEvent)`, compiled in with periodic calibration. -/
def completePhyMstrEvent : FwM Unit :=
  if BuildConfig.configCalPeriodic then modify fun fw => { fw with phyMstrEvent := true }
  else pure ()

def dfiPhymstrPendingEntryHandler (_event : FwPhyEvent) (data : MsgData) : FwM Unit := do
  let req ← liftM data.toPhymstrReq
  onWddr (Wddr.onDfi (dfiPhymstrReqAssertRegIf req))
  onWddr (Wddr.onIrq (Irq.enableIrq .phymstrAck))

def dfiPhymstrAbort (_event : FwPhyEvent) (_data : MsgData) : FwM Unit := do
  onWddr (Wddr.onIrq (Irq.disableIrq .phymstrAck))
  onWddr (Wddr.onDfi dfiPhymstrReqDeassertRegIf)
  completePhyMstrEvent

def dfiPhymstrEnterHandler (_event : FwPhyEvent) (_data : MsgData) : FwM Unit :=
  completePhyMstrEvent

def dfiPhymstrExitHandler (_event : FwPhyEvent) (_data : MsgData) : FwM Unit :=
  onWddr (Wddr.onDfi dfiPhymstrReqDeassertRegIf)

def dfiCtrlupdEntryHandler (_event : FwPhyEvent) (_data : MsgData) : FwM Unit := do
  runWddr fun hw wddr => wddr.wddrIocalCalibrate hw
  runWddr fun hw wddr => wddr.wddrIocalUpdatePhy hw
  onWddr (Wddr.onDfi dfiCtrlupdDeassertAckRegIf)

def dfiPhyupdEntryHandler (_event : FwPhyEvent) (data : MsgData) : FwM Unit := do
  onWddr (Wddr.onDfi (dfiPhyupdReqAssertRegIf data.toWord))
  onWddr (Wddr.onIrq (Irq.enableIrq .phyupdAck))

def dfiPhyupdUpdate (_event : FwPhyEvent) (_data : MsgData) : FwM Unit := do
  runWddr fun hw wddr => wddr.wddrIocalUpdatePhy hw
  onWddr (Wddr.onDfi dfiPhyupdReqDeassertRegIf)

def dfiPhyupdAbort (_event : FwPhyEvent) (_data : MsgData) : FwM Unit := do
  onWddr (Wddr.onIrq (Irq.disableIrq .phyupdAck))
  onWddr (Wddr.onDfi dfiPhyupdReqDeassertRegIf)

/-- The DFI state tables. -/
def dfiMachine : EventMachine.Machine Fw Fault DfiState FwPhyEvent MsgData where
  entry
    | .idle =>
        { transitions :=
            [⟨.phymstrReq, none, .phyMstrPending⟩,
              ⟨.phyupdReq, none, .phyUpd⟩,
              ⟨.ctrlupdAssert, none, .ctrlUpd⟩]
          entryAction := none
          exitAction := none }
    | .phyMstrPending =>
        { transitions :=
            [⟨.phymstrAck, none, .phyMstr⟩,
              ⟨.phymstrAbort, some dfiPhymstrAbort, .idle⟩]
          entryAction := some dfiPhymstrPendingEntryHandler
          exitAction := none }
    | .phyMstr =>
        { transitions := [⟨.phymstrExit, none, .idle⟩]
          entryAction := some dfiPhymstrEnterHandler
          exitAction := some dfiPhymstrExitHandler }
    | .phyUpd =>
        { transitions :=
            [⟨.phyupdAck, some dfiPhyupdUpdate, .idle⟩,
              ⟨.phyupdAbort, some dfiPhyupdAbort, .idle⟩]
          entryAction := some dfiPhyupdEntryHandler
          exitAction := none }
    | .ctrlUpd =>
        { transitions := [⟨.ctrlupdDeassert, none, .idle⟩]
          entryAction := some dfiCtrlupdEntryHandler
          exitAction := none }
    | .error =>
        { transitions := []
          entryAction := some errorEntryHandler
          exitAction := none }
  errorState := .error
  currentState := Fw.dfi
  setCurrentState state fw := { fw with dfi := state }

variable [Device] [EventMachine.Engine]

open EventMachine.Engine (handleEvent)

def fswPrepareSwitchHandler (_event : FwPhyEvent) (data : MsgData) : FwM Unit := do
  let freqId := data.freqId
  onWddr (Wddr.onIrq (Irq.disableIrq .initStart))
  let fw ← get
  let nextMsr := fw.hw.currentMsr.other
  let (ret, wddr) ← liftM (fw.wddr.wddrPrepSwitch freqId nextMsr)
  set { fw with wddr := wddr }
  assert .fswPrepareSwitchHandler (ret = .wddrSuccess)
  onWddr (Wddr.onFsw (fswCtrlSetPrepDoneRegIf true))
  onWddr (Wddr.onFsw (fswCtrlSetPostWorkDoneRegIf false false))
  onWddr (Wddr.onIrq (Irq.enableIrq .initStart))

/-- The result of the VCO switch is ignored. -/
def fswPostSwitchHandler (_event : FwPhyEvent) (_data : MsgData) : FwM Unit := do
  onWddr (Wddr.onPll fun pll => (pll.pllSwitchVco false).2)
  onWddr (Wddr.onPll Pll.pllDisableVco)
  onWddr (Wddr.onPll (Pll.pllSetLockInterruptState false))
  onWddr (Wddr.onFsw (fswCtrlSetPostWorkDoneRegIf false true))
  onWddr (Wddr.onFsw (fswCtrlSetPostWorkDoneRegIf false false))
  onWddr (Wddr.onFsw (fswCtrlSetPrepDoneRegIf false))
  onWddr (Wddr.onFsw (fswCtrlSetMsrToggleEnRegIf true))
  onWddr (Wddr.onFsw (fswCtrlSetVcoToggleEnRegIf true))

/-- `fsw_pending_entry_handler` up to the release of `init_complete`.  The waits for
`init_start` and `init_complete` are taken to return. -/
def fswPendingBeforeRelease : FwM Unit := do
  onWddr (Wddr.onDfi (dfiSetInitCompleteOvrRegIf true true))
  onWddr (Wddr.onFsw (fswCtrlSetPostWorkDoneRegIf true false))
  onWddr (Wddr.onDfich DfiChannel.dfiBufferSendPackets)
  onWddr (Wddr.onDfich DfiChannel.dfiBufferDisable)
  let fw ← get
  if fw.dfi = .phyUpd then do
    let _ ← handleEvent dfiMachine .phyupdAbort .null
    assert .fswPendingEntryHandler ((← get).dfi = .idle)
  else if fw.dfi = .phyMstrPending then do
    let _ ← handleEvent dfiMachine .phymstrAbort .null
    assert .fswPendingEntryHandler ((← get).dfi = .idle)

/-- The release of the `init_complete` override. -/
def fswPendingRelease : FwM Unit :=
  onWddr (Wddr.onDfi (dfiSetInitCompleteOvrRegIf false true))

def fswPendingEntryHandler (_event : FwPhyEvent) (_data : MsgData) : FwM Unit := do
  fswPendingBeforeRelease
  fswPendingRelease
  onWddr (Wddr.onPll (Pll.pllSetLockInterruptState true))

/-- The frequency switch state tables. -/
def fswMachine : EventMachine.Machine Fw Fault FswState FwPhyEvent MsgData where
  entry
    | .prep =>
        { transitions :=
            [⟨.prep, some fswPrepareSwitchHandler, .prep⟩,
              ⟨.initStart, none, .pending⟩]
          entryAction := none
          exitAction := none }
    | .pending =>
        { transitions := [⟨.pllLock, some fswPostSwitchHandler, .prep⟩]
          entryAction := some fswPendingEntryHandler
          exitAction := none }
    | .error =>
        { transitions := []
          entryAction := some errorEntryHandler
          exitAction := none }
  errorState := .error
  currentState := Fw.fsw
  setCurrentState state fw := { fw with fsw := state }

/-- What the handlers report after their machine handled an event. -/
def responseOf (ret : EventMachine.HandleEventRet) : FwResponse :=
  if ret = .errorStateReached then .failure else .success

/-- A BOOT message.  The options are compiled from the build's configuration. -/
def handleStartEvent (_event : FwPhyEvent) (data : MsgData) : FwM FwResponse := do
  let (calibrate, trainDram) ← liftM data.toStartCfg
  let bootCfg := wddrBootConfigNone
  let bootCfg := if calibrate then
      let bootCfg := updateBootOption bootCfg wddrBootOptionPllCal
        BuildConfig.configCalibratePll
      let bootCfg := updateBootOption bootCfg wddrBootOptionSaCal
        BuildConfig.configCalibrateSa
      updateBootOption bootCfg wddrBootOptionZqcalCal BuildConfig.configCalibrateZqcal
    else bootCfg
  let bootCfg := if trainDram then
      updateBootOption bootCfg wddrBootOptionTrainDram BuildConfig.configDramTrain
    else bootCfg
  let fw ← get
  if fw.ready then pure .failure
  else do
    let (ret, wddr) ← liftM (fw.wddr.wddrBoot fw.hw bootCfg)
    set { fw with wddr := wddr }
    if ret ≠ .wddrSuccess then do
      modify fun fw => { fw with error := true }
      pure .failure
    else do
      onWddr (Wddr.onDfi (dfiCtrlupdAckOverrideRegIf true false))
      onWddr (Wddr.onIrq (Irq.disableIrq .ctrlupdReq))
      onWddr (Wddr.onPll (Pll.pllSetLossLockInterruptState true))
      if fw.timerStarts then do
        modify fun fw => { fw with timer := .running, ready := true }
        pure .success
      else do
        modify fun fw => { fw with timer := .deleted, error := true }
        pure .failure

/-- DFI events wait until a switch completes. -/
def handleDfiEvent (event : FwPhyEvent) (data : MsgData) : FwM FwResponse := do
  let fw ← get
  if !fw.ready || fw.error then pure .failure
  else if fw.fsw = .pending then pure .retry
  else responseOf <$> handleEvent dfiMachine event data

/-- Switch events wait until a controller update completes. -/
def handleFswEvent (event : FwPhyEvent) (data : MsgData) : FwM FwResponse := do
  let fw ← get
  if !fw.ready || fw.error then pure .failure
  else if fw.dfi = .ctrlUpd then pure .retry
  else responseOf <$> handleEvent fswMachine event data

/-- Not supported. -/
def handleLpEvent (_event : FwPhyEvent) (_data : MsgData) : FwM FwResponse :=
  pure .failure

/-- `event_handlers` -/
def eventHandlers : FwPhyEvent → FwPhyEvent → MsgData → FwM FwResponse
  | .boot => handleStartEvent
  | .prep => handleFswEvent
  | .phyupdReq => handleDfiEvent
  | .phymstrReq => handleDfiEvent
  | .phymstrExit => handleDfiEvent
  | .initStart => handleFswEvent
  | .initComplete => handleFswEvent
  | .pllInitLock => handleFswEvent
  | .pllLock => handleFswEvent
  | .pllLossLock => handleFswEvent
  | .phymstrAck => handleDfiEvent
  | .phymstrAbort => handleDfiEvent
  | .phyupdAck => handleDfiEvent
  | .phyupdAbort => handleDfiEvent
  | .ctrlupdAssert => handleDfiEvent
  | .ctrlupdDeassert => handleDfiEvent
  | .lpDataReq => handleLpEvent
  | .lpCtrlReq => handleLpEvent

/-- The body of the firmware task's loop after a message was received: the answer,
unless the event is out of bounds. -/
def processMessage (msg : FwMsg) : FwM (Option FwResponse) :=
  match FwPhyEvent.ofCode? msg.event with
  | none => pure none
  | some event => some <$> eventHandlers event event msg.data

end Handlers

end WavLpddr
