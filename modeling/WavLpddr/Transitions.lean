import WavLpddr.Interrupts
import WavLpddr.PllBookkeeping

/-!
# What the state machines do with an event

Every event moves a machine along one row of its table or is ignored.  Each row is
given here as one function on the firmware's state, and the dispatcher's laws show
that handling an event applies that function.
-/

namespace WavLpddr

open FwM EventMachine
open EventMachine.Engine (handleEvent)

namespace Fw

/-- Update the device. -/
def onWddr (update : Wddr → Wddr) (fw : Fw) : Fw := { fw with wddr := update fw.wddr }

variable [KernelIo] [BuildConfig]

/-- `phyMstrEvent` is completed when it is compiled in. -/
def completePhyMstr (fw : Fw) : Fw :=
  { fw with phyMstrEvent := fw.phyMstrEvent || BuildConfig.configCalPeriodic }

def enterPhyMstrPending (req : DfiPhymstrReq) (fw : Fw) : Fw :=
  { fw with
    wddr := fw.wddr.onDfi (dfiPhymstrReqAssertRegIf req)
      |>.onIrq (Irq.enableIrq .phymstrAck)
    dfi := .phyMstrPending }

def abortPhyMstr (fw : Fw) : Fw :=
  { fw.completePhyMstr with
    wddr := fw.wddr.onIrq (Irq.disableIrq .phymstrAck)
      |>.onDfi dfiPhymstrReqDeassertRegIf
    dfi := .idle }

def enterPhyMstr (fw : Fw) : Fw := { fw.completePhyMstr with dfi := .phyMstr }

def exitPhyMstr (fw : Fw) : Fw :=
  { fw with wddr := fw.wddr.onDfi dfiPhymstrReqDeassertRegIf, dfi := .idle }

def enterPhyUpd (type : Word) (fw : Fw) : Fw :=
  { fw with
    wddr := fw.wddr.onDfi (dfiPhyupdReqAssertRegIf type)
      |>.onIrq (Irq.enableIrq .phyupdAck)
    dfi := .phyUpd }

def finishPhyUpd (fw : Fw) : Except Fault Fw := do
  let wddr ← fw.wddr.wddrIocalUpdatePhy fw.hw
  pure { fw with wddr := wddr.onDfi dfiPhyupdReqDeassertRegIf, dfi := .idle }

def abortPhyUpd (fw : Fw) : Fw :=
  { fw with
    wddr := fw.wddr.onIrq (Irq.disableIrq .phyupdAck)
      |>.onDfi dfiPhyupdReqDeassertRegIf
    dfi := .idle }

def enterCtrlUpd (fw : Fw) : Except Fault Fw := do
  let wddr ← fw.wddr.wddrIocalCalibrate fw.hw
  let wddr ← wddr.wddrIocalUpdatePhy fw.hw
  pure { fw with wddr := wddr.onDfi dfiCtrlupdDeassertAckRegIf, dfi := .ctrlUpd }

def exitCtrlUpd (fw : Fw) : Fw := { fw with dfi := .idle }

/-- The DFI machine's step. -/
def dfiTransition (event : FwPhyEvent) (data : MsgData) (fw : Fw) : Except Fault Fw :=
  match fw.dfi, event with
  | .idle, .phymstrReq => fw.enterPhyMstrPending <$> data.toPhymstrReq
  | .idle, .phyupdReq => .ok (fw.enterPhyUpd data.toWord)
  | .idle, .ctrlupdAssert => fw.enterCtrlUpd
  | .phyMstrPending, .phymstrAck => .ok fw.enterPhyMstr
  | .phyMstrPending, .phymstrAbort => .ok fw.abortPhyMstr
  | .phyMstr, .phymstrExit => .ok fw.exitPhyMstr
  | .phyUpd, .phyupdAck => fw.finishPhyUpd
  | .phyUpd, .phyupdAbort => .ok fw.abortPhyUpd
  | .ctrlUpd, .ctrlupdDeassert => .ok fw.exitCtrlUpd
  | _, _ => .ok fw

/-- `fsw_pending_entry_handler` up to the check of the DFI machine. -/
def sendPrepared (fw : Fw) : Fw :=
  fw.onWddr fun wddr => wddr.onDfi (dfiSetInitCompleteOvrRegIf true true)
    |>.onFsw (fswCtrlSetPostWorkDoneRegIf true false)
    |>.onDfich DfiChannel.dfiBufferSendPackets
    |>.onDfich DfiChannel.dfiBufferDisable

/-- `fsw_pending_entry_handler` up to the release of `init_complete`. -/
def beforeRelease (fw : Fw) : Fw :=
  match fw.dfi with
  | .phyUpd => fw.sendPrepared.abortPhyUpd
  | .phyMstrPending => fw.sendPrepared.abortPhyMstr
  | _ => fw.sendPrepared

def enterPending (fw : Fw) : Fw :=
  { fw.beforeRelease.onWddr fun wddr =>
      wddr.onDfi (dfiSetInitCompleteOvrRegIf false true)
        |>.onPll (Pll.pllSetLockInterruptState true) with
    fsw := .pending }

def finishSwitch (fw : Fw) : Fw :=
  { fw with
    wddr := fw.wddr.onPll (Pll.switchAndDisable false)
      |>.onPll (Pll.pllSetLockInterruptState false)
      |>.onFsw (fswCtrlSetPostWorkDoneRegIf false true)
      |>.onFsw (fswCtrlSetPostWorkDoneRegIf false false)
      |>.onFsw (fswCtrlSetPrepDoneRegIf false)
      |>.onFsw (fswCtrlSetMsrToggleEnRegIf true)
      |>.onFsw (fswCtrlSetVcoToggleEnRegIf true)
    fsw := .prep }

variable [Device]

def prepareSwitch (freqId : UInt8) (fw : Fw) : Except Fault Fw := do
  let (ret, wddr) ← (fw.wddr.onIrq (Irq.disableIrq .initStart)).wddrPrepSwitch freqId
    fw.hw.currentMsr.other
  configASSERT .fswPrepareSwitchHandler (ret = .wddrSuccess)
  pure { fw with
    wddr := wddr.onFsw (fswCtrlSetPrepDoneRegIf true)
      |>.onFsw (fswCtrlSetPostWorkDoneRegIf false false)
      |>.onIrq (Irq.enableIrq .initStart)
    fsw := .prep }

/-- The frequency switch machine's step. -/
def fswTransition (event : FwPhyEvent) (data : MsgData) (fw : Fw) : Except Fault Fw :=
  match fw.fsw, event with
  | .prep, .prep => fw.prepareSwitch data.freqId
  | .prep, .initStart => .ok fw.enterPending
  | .pending, .pllLock => .ok fw.finishSwitch
  | _, _ => .ok fw

end Fw

section Handlers

theorem FwM.bind_eq {First Second : Type} (first : FwM First) (next : First → FwM Second)
    (fw : Fw) : (first >>= next) fw = first fw >>= fun done => next done.1 done.2 := rfl

theorem FwM.map_eq {First Second : Type} (change : First → Second) (first : FwM First)
    (fw : Fw) :
    (change <$> first) fw = (fun done => (change done.1, done.2)) <$> first fw := by
  cases ran : first fw <;> simp only [Functor.map, StateT.map, ran] <;> rfl

theorem FwM.liftM_eq {Value : Type} (value : Except Fault Value) (fw : Fw) :
    (liftM value : FwM Value) fw = value >>= fun value => .ok (value, fw) := rfl

theorem Fault.ok_bind {First Second : Type} (value : First)
    (next : First → Except Fault Second) : (Except.ok value >>= next) = next value := rfl

variable [BuildConfig]

theorem completePhyMstrEvent_eq (fw : Fw) :
    completePhyMstrEvent fw = .ok ((), fw.completePhyMstr) := by
  unfold completePhyMstrEvent Fw.completePhyMstr
  cases BuildConfig.configCalPeriodic with
  | false =>
      simp only [Bool.or_false]
      rfl
  | true =>
      simp only [Bool.or_true]
      rfl

variable [KernelIo] {event : FwPhyEvent} {data : MsgData} {fw : Fw}

omit [BuildConfig] in
theorem dfiPhymstrPendingEntryHandler_eq :
    dfiPhymstrPendingEntryHandler event data fw =
      (fun req => ((), fw.onWddr fun wddr =>
        wddr.onDfi (dfiPhymstrReqAssertRegIf req)
          |>.onIrq (Irq.enableIrq .phymstrAck))) <$> data.toPhymstrReq := by
  cases data <;> rfl

theorem dfiPhymstrAbort_eq :
    dfiPhymstrAbort event data fw =
      .ok ((), (fw.onWddr fun wddr => wddr.onIrq (Irq.disableIrq .phymstrAck)
        |>.onDfi dfiPhymstrReqDeassertRegIf).completePhyMstr) := by
  simp only [dfiPhymstrAbort, FwM.bind_eq]
  exact completePhyMstrEvent_eq _

theorem dfiCtrlupdEntryHandler_eq :
    dfiCtrlupdEntryHandler event data fw = (do
      let wddr ← fw.wddr.wddrIocalCalibrate fw.hw
      let wddr ← wddr.wddrIocalUpdatePhy fw.hw
      pure ((), fw.onWddr fun _ => wddr.onDfi dfiCtrlupdDeassertAckRegIf)) := by
  simp only [dfiCtrlupdEntryHandler, FwM.bind_eq, FwM.runWddr]
  cases fw.wddr.wddrIocalCalibrate fw.hw with
  | error fault => rfl
  | ok wddr =>
      simp only [bind, Except.bind, pure, Except.pure]
      cases wddr.wddrIocalUpdatePhy fw.hw <;> rfl

omit [BuildConfig] in
theorem dfiPhyupdUpdate_eq :
    dfiPhyupdUpdate event data fw =
      (fun wddr => ((), fw.onWddr fun _ => wddr.onDfi dfiPhyupdReqDeassertRegIf)) <$>
        fw.wddr.wddrIocalUpdatePhy fw.hw := by
  simp only [dfiPhyupdUpdate, FwM.bind_eq, FwM.runWddr]
  cases fw.wddr.wddrIocalUpdatePhy fw.hw <;> rfl

end Handlers

section DfiMachine

variable [KernelIo] [BuildConfig] {event : FwPhyEvent} {data : MsgData} {fw : Fw}

theorem dfiTransition_of_unmatched (unmatched : dfiMachine.matching event fw = none) :
    fw.dfiTransition event data = .ok fw := by
  cases state : fw.dfi <;> cases event <;>
    first
    | (simp [Machine.matching, dfiMachine, state] at unmatched; done)
    | simp [Fw.dfiTransition, state]

/-- Every row leads to another state, which is neither final nor the error state. -/
theorem dfi_row_ordinary {row} (matched : dfiMachine.matching event fw = some row) :
    row.nextState ≠ dfiMachine.errorState ∧
      (dfiMachine.entry row.nextState).transitions ≠ [] ∧
      dfiMachine.RunsAllActions (dfiMachine.currentState fw) row := by
  cases state : fw.dfi <;> cases event <;>
    simp [Machine.matching, dfiMachine, state] at matched
  all_goals subst matched
  all_goals simp [dfiMachine, Machine.RunsAllActions, state]

theorem dfi_take_of_matched {row} (matched : dfiMachine.matching event fw = some row) :
    dfiMachine.take fw.dfi row event data fw =
      (fun after => (HandleEventRet.stateChanged, after)) <$> fw.dfiTransition event data := by
  cases state : fw.dfi <;> cases event <;>
    simp [Machine.matching, dfiMachine, state] at matched
  all_goals subst matched
  all_goals simp only [Machine.take, dfiMachine, Fw.dfiTransition, state, runAction_none,
    runAction_some, pure_bind]
  case idle.phymstrReq =>
    rw [FwM.bind_eq, dfiPhymstrPendingEntryHandler_eq]
    cases data.toPhymstrReq <;> rfl
  case idle.ctrlupdAssert =>
    rw [FwM.bind_eq, dfiCtrlupdEntryHandler_eq, Fw.enterCtrlUpd]
    cases fw.wddr.wddrIocalCalibrate fw.hw with
    | error fault => rfl
    | ok wddr =>
        simp only [bind, Except.bind]
        cases wddr.wddrIocalUpdatePhy fw.hw <;> rfl
  case phyUpd.phyupdAck =>
    rw [FwM.bind_eq, dfiPhyupdUpdate_eq, Fw.finishPhyUpd]
    cases fw.wddr.wddrIocalUpdatePhy fw.hw <;> rfl
  case phyMstrPending.phymstrAck =>
    rw [FwM.bind_eq, dfiPhymstrEnterHandler, completePhyMstrEvent_eq]
    rfl
  case phyMstrPending.phymstrAbort =>
    rw [FwM.bind_eq, dfiPhymstrAbort_eq]
    rfl
  all_goals rfl

/-- Dispatching an event to the DFI machine makes its step and never reports the
error state. -/
theorem handleEvent_dfiMachine [Engine] (event : FwPhyEvent) (data : MsgData) (fw : Fw) :
    ∃ ret, ret ≠ HandleEventRet.errorStateReached ∧
      handleEvent dfiMachine event data fw =
        (fun after => (ret, after)) <$> fw.dfiTransition event data := by
  cases matched : dfiMachine.matching event fw with
  | none =>
      refine ⟨.noStateChange, by simp, ?_⟩
      rw [Engine.handleEvent_unmatched _ _ _ _ matched, dfiTransition_of_unmatched matched]
      rfl
  | some row =>
      obtain ⟨ordinary, notFinal, runsAll⟩ := dfi_row_ordinary matched
      refine ⟨.stateChanged, by simp, ?_⟩
      rw [Engine.handleEvent_matched _ _ _ _ _ matched ordinary notFinal runsAll]
      exact dfi_take_of_matched matched

end DfiMachine

section FswMachine

variable [KernelIo] [BuildConfig] [Engine] {event : FwPhyEvent} {data : MsgData} {fw : Fw}

/-- Aborting a request from within the other machine. -/
theorem nestedAbort_eq (abort : FwPhyEvent) {after : Fw}
    (aborted : fw.dfiTransition abort .null = .ok after) (idle : after.dfi = .idle) :
    (do
      let _ ← handleEvent dfiMachine abort .null
      let fw ← get
      FwM.assert .fswPendingEntryHandler (fw.dfi = .idle) : FwM Unit) fw =
        .ok ((), after) := by
  obtain ⟨ret, -, handled⟩ := handleEvent_dfiMachine abort .null fw
  rw [aborted] at handled
  rw [FwM.bind_eq, handled]
  change FwM.assert .fswPendingEntryHandler (decide (after.dfi = .idle)) after = _
  rw [idle, FwM.assert, decide_eq_true rfl, configASSERT_true]
  rfl

theorem fswPendingBeforeRelease_eq (fw : Fw) :
    fswPendingBeforeRelease fw = .ok ((), fw.beforeRelease) := by
  have sameDfi : fw.sendPrepared.dfi = fw.dfi := rfl
  have start : fswPendingBeforeRelease fw =
      (do
        let fw ← get
        if fw.dfi = .phyUpd then do
          let _ ← handleEvent dfiMachine .phyupdAbort .null
          FwM.assert .fswPendingEntryHandler ((← get).dfi = .idle)
        else if fw.dfi = .phyMstrPending then do
          let _ ← handleEvent dfiMachine .phymstrAbort .null
          FwM.assert .fswPendingEntryHandler ((← get).dfi = .idle) : FwM Unit)
      fw.sendPrepared := rfl
  rw [start, FwM.bind_eq]
  change (if fw.sendPrepared.dfi = .phyUpd then _
    else if fw.sendPrepared.dfi = .phyMstrPending then _ else _ : FwM Unit) fw.sendPrepared = _
  rw [sameDfi, Fw.beforeRelease]
  cases state : fw.dfi
  case phyUpd =>
    have aborted : fw.sendPrepared.dfiTransition .phyupdAbort .null =
        .ok fw.sendPrepared.abortPhyUpd := by
      simp only [Fw.dfiTransition, sameDfi, state]
    exact nestedAbort_eq .phyupdAbort aborted rfl
  case phyMstrPending =>
    have aborted : fw.sendPrepared.dfiTransition .phymstrAbort .null =
        .ok fw.sendPrepared.abortPhyMstr := by
      simp only [Fw.dfiTransition, sameDfi, state]
    exact nestedAbort_eq .phymstrAbort aborted rfl
  all_goals rfl

theorem fswPendingEntryHandler_eq :
    fswPendingEntryHandler event data fw =
      .ok ((), { fw.enterPending with fsw := fw.beforeRelease.fsw }) := by
  rw [fswPendingEntryHandler, FwM.bind_eq, fswPendingBeforeRelease_eq]
  rfl

variable [Device]

omit [Engine] in
theorem fswPrepareSwitchHandler_eq (inPrep : fw.fsw = .prep) :
    fswPrepareSwitchHandler event data fw =
      (fun after => ((), after)) <$> fw.prepareSwitch data.freqId := by
  have disabled : FwM.onWddr (Wddr.onIrq (Irq.disableIrq .initStart)) fw =
      .ok ((), fw.onWddr (Wddr.onIrq (Irq.disableIrq .initStart))) := rfl
  simp only [fswPrepareSwitchHandler, FwM.bind_eq, disabled, Fault.ok_bind]
  rw [Fw.prepareSwitch, ← inPrep]
  change (liftM ((fw.wddr.onIrq (Irq.disableIrq .initStart)).wddrPrepSwitch data.freqId
    fw.hw.currentMsr.other) : FwM _) _ >>= _ = _
  rw [FwM.liftM_eq]
  cases (fw.wddr.onIrq (Irq.disableIrq .initStart)).wddrPrepSwitch data.freqId
      fw.hw.currentMsr.other with
  | error fault => rfl
  | ok prepared =>
      simp only [Fault.ok_bind]
      change FwM.assert _ _ _ >>= _ = _
      rw [FwM.assert]
      cases (configASSERT .fswPrepareSwitchHandler (prepared.1 = .wddrSuccess) :
        Except Fault Unit) <;> rfl

theorem fswTransition_of_unmatched (unmatched : fswMachine.matching event fw = none) :
    fw.fswTransition event data = .ok fw := by
  cases state : fw.fsw <;> cases event <;>
    first
    | (simp [Machine.matching, fswMachine, state] at unmatched; done)
    | simp [Fw.fswTransition, state]

/-- A PREP returns to its own state, which has neither entry nor exit action. -/
theorem fsw_row_ordinary {row} (matched : fswMachine.matching event fw = some row) :
    row.nextState ≠ fswMachine.errorState ∧
      (fswMachine.entry row.nextState).transitions ≠ [] ∧
      fswMachine.RunsAllActions (fswMachine.currentState fw) row := by
  cases state : fw.fsw <;> cases event <;>
    simp [Machine.matching, fswMachine, state] at matched
  all_goals subst matched
  all_goals simp [fswMachine, Machine.RunsAllActions, state]

theorem fsw_take_of_matched {row} (matched : fswMachine.matching event fw = some row) :
    ∃ ret, ret ≠ HandleEventRet.errorStateReached ∧
      fswMachine.take fw.fsw row event data fw =
        (fun after => (ret, after)) <$> fw.fswTransition event data := by
  cases state : fw.fsw <;> cases event <;>
    simp [Machine.matching, fswMachine, state] at matched
  all_goals subst matched
  case prep.prep =>
    refine ⟨.stateLoopSelf, by simp, ?_⟩
    simp only [Machine.take, fswMachine, Fw.fswTransition, state, runAction_none,
      runAction_some, pure_bind]
    rw [FwM.bind_eq, fswPrepareSwitchHandler_eq state, Fw.prepareSwitch]
    cases (fw.wddr.onIrq (Irq.disableIrq .initStart)).wddrPrepSwitch data.freqId
        fw.hw.currentMsr.other with
    | error fault => rfl
    | ok prepared =>
        simp only [bind, Except.bind, pure, Except.pure, Functor.map, Except.map]
        cases (configASSERT .fswPrepareSwitchHandler (prepared.1 = .wddrSuccess) :
          Except Fault Unit) <;> rfl
  case prep.initStart =>
    refine ⟨.stateChanged, by simp, ?_⟩
    simp only [Machine.take, fswMachine, Fw.fswTransition, state, runAction_none,
      runAction_some, pure_bind]
    rw [FwM.bind_eq, fswPendingEntryHandler_eq]
    rfl
  case pending.pllLock =>
    refine ⟨.stateChanged, by simp, ?_⟩
    simp only [Machine.take, fswMachine, Fw.fswTransition, state, runAction_none,
      runAction_some, pure_bind]
    rfl

/-- Dispatching an event to the switch machine makes its step and never reports the
error state. -/
theorem handleEvent_fswMachine (event : FwPhyEvent) (data : MsgData) (fw : Fw) :
    ∃ ret, ret ≠ HandleEventRet.errorStateReached ∧
      handleEvent fswMachine event data fw =
        (fun after => (ret, after)) <$> fw.fswTransition event data := by
  cases matched : fswMachine.matching event fw with
  | none =>
      refine ⟨.noStateChange, by simp, ?_⟩
      rw [Engine.handleEvent_unmatched _ _ _ _ matched, fswTransition_of_unmatched matched]
      rfl
  | some row =>
      obtain ⟨ordinary, notFinal, runsAll⟩ := fsw_row_ordinary matched
      rw [Engine.handleEvent_matched _ _ _ _ _ matched ordinary notFinal runsAll]
      exact fsw_take_of_matched matched

end FswMachine

end WavLpddr
