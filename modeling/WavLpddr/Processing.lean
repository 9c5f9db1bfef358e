import WavLpddr.Transitions

/-!
# What the firmware task does with a message

A message is refused, retried or makes one step of one of the two machines; only
BOOT works outside the machines.  The answer is SUCCESS exactly when a machine was
asked, whether or not it had a row for the event.
-/

namespace WavLpddr

open EventMachine
open EventMachine.Engine (handleEvent)

/-- The handler that an event is given to. -/
inductive EventKind
  | boot | dfi | fsw | lp
deriving DecidableEq, Repr

def FwPhyEvent.kind : FwPhyEvent → EventKind
  | boot => .boot
  | prep | initStart | initComplete | pllInitLock | pllLock | pllLossLock => .fsw
  | lpDataReq | lpCtrlReq => .lp
  | _ => .dfi

/-- The firmware was booted and met no error. -/
def Fw.Running (fw : Fw) : Prop := fw.ready = true ∧ fw.error = false

instance (fw : Fw) : Decidable fw.Running := inferInstanceAs (Decidable (_ ∧ _))

/-- The check of the status bits at the head of the handlers. -/
theorem Fw.not_running_iff (fw : Fw) : (!fw.ready || fw.error) = true ↔ ¬ fw.Running := by
  unfold Fw.Running
  cases fw.ready <;> cases fw.error <;> simp

/-- An event that must wait is retried, and only a running firmware takes it. -/
def Fw.guarded (fw : Fw) (waits : Prop) [Decidable waits] (step : Except Fault Fw) :
    Except Fault (FwResponse × Fw) :=
  if ¬ fw.Running then .ok (.failure, fw)
  else if waits then .ok (.retry, fw)
  else (fun after => (.success, after)) <$> step

/-- The answer to an event that its machine does not see. -/
def Fw.refusal (waits : Prop) [Decidable waits] (fw : Fw) : Option FwResponse :=
  if ¬ fw.Running then some .failure
  else if waits then some .retry
  else none

theorem Fw.refusal_eq_retry_iff {fw : Fw} {waits : Prop} [Decidable waits] :
    fw.refusal waits = some .retry ↔ fw.Running ∧ waits := by
  unfold Fw.refusal
  by_cases running : fw.Running <;> by_cases waiting : waits <;> simp [running, waiting]

theorem Fw.refusal_ne_success {fw : Fw} {waits : Prop} [Decidable waits] :
    fw.refusal waits ≠ some .success := by
  unfold Fw.refusal
  by_cases running : fw.Running <;> by_cases waiting : waits <;> simp [running, waiting]

theorem Fw.refusal_isSome {fw : Fw} {waits : Prop} [Decidable waits] {response : FwResponse}
    (refused : fw.refusal waits = some response) : ¬ fw.Running ∨ waits := by
  by_contra other
  rw [not_or, not_not] at other
  simp [Fw.refusal, other.1, other.2] at refused

/-- Either nothing happens and the answer is a refusal, or the step is made. -/
theorem Fw.guarded_ok {fw after : Fw} {waits : Prop} [Decidable waits] {step : Except Fault Fw}
    {response : FwResponse} (ran : fw.guarded waits step = .ok (response, after)) :
    (fw.refusal waits = some response ∧ after = fw) ∨
      (fw.Running ∧ ¬ waits ∧ response = .success ∧ step = .ok after) := by
  unfold Fw.guarded at ran
  unfold Fw.refusal
  split at ran
  · rename_i stopped
    left
    cases ran
    exact ⟨if_pos stopped, rfl⟩
  · split at ran
    · rename_i running waiting
      left
      cases ran
      exact ⟨by rw [if_neg running, if_pos waiting], rfl⟩
    · rename_i running admitted
      right
      cases step with
      | error fault => cases ran
      | ok next =>
          cases ran
          exact ⟨not_not.mp running, admitted, rfl, rfl⟩

theorem Fw.guarded_error {fw : Fw} {waits : Prop} [Decidable waits] {step : Except Fault Fw}
    {fault : Fault} (failed : fw.guarded waits step = .error fault) :
    fw.Running ∧ ¬ waits ∧ step = .error fault := by
  unfold Fw.guarded at failed
  split at failed
  · cases failed
  · split at failed
    · cases failed
    · rename_i running admitted
      cases step with
      | error fault =>
          cases failed
          exact ⟨not_not.mp running, admitted, rfl⟩
      | ok next => cases failed

/-- The answer to an event that is not given to a machine. -/
def FwPhyEvent.refusal (event : FwPhyEvent) (fw : Fw) : Option FwResponse :=
  match event.kind with
  | .boot => if fw.ready then some .failure else none
  | .lp => some .failure
  | .dfi => fw.refusal (fw.fsw = .pending)
  | .fsw => fw.refusal (fw.dfi = .ctrlUpd)

theorem FwPhyEvent.refusal_ne_success (event : FwPhyEvent) (fw : Fw) :
    event.refusal fw ≠ some .success := by
  unfold FwPhyEvent.refusal
  split
  · split <;> simp
  · simp
  · exact Fw.refusal_ne_success
  · exact Fw.refusal_ne_success

theorem responseOf_eq_success {ret : HandleEventRet} (ordinary : ret ≠ .errorStateReached) :
    responseOf ret = .success := by
  simp [responseOf, ordinary]

section Answers

variable [KernelIo] [BuildConfig] [Engine] {event : FwPhyEvent} {data : MsgData} {fw : Fw}

omit [KernelIo] [BuildConfig] [Engine] in
theorem map_responseOf {handled : FwM HandleEventRet} {ret : HandleEventRet}
    {outcome : Except Fault Fw} (ordinary : ret ≠ .errorStateReached)
    (ran : handled fw = (fun after => (ret, after)) <$> outcome) :
    (responseOf <$> handled) fw = (fun after => (FwResponse.success, after)) <$> outcome := by
  rw [FwM.map_eq, ran]
  cases outcome with
  | error fault => rfl
  | ok after =>
      simp only [Functor.map, Except.map]
      rw [responseOf_eq_success ordinary]

theorem handleDfiEvent_eq (event : FwPhyEvent) (data : MsgData) (fw : Fw) :
    handleDfiEvent event data fw =
      fw.guarded (fw.fsw = .pending) (fw.dfiTransition event data) := by
  obtain ⟨ret, ordinary, handled⟩ := handleEvent_dfiMachine event data fw
  change (if (!fw.ready || fw.error) = true then pure .failure
    else if fw.fsw = .pending then pure .retry
    else responseOf <$> handleEvent dfiMachine event data : FwM FwResponse) fw = _
  simp only [Fw.not_running_iff, Fw.guarded]
  split
  · rfl
  · split
    · rfl
    · exact map_responseOf ordinary handled

variable [Device]

theorem handleFswEvent_eq (event : FwPhyEvent) (data : MsgData) (fw : Fw) :
    handleFswEvent event data fw =
      fw.guarded (fw.dfi = .ctrlUpd) (fw.fswTransition event data) := by
  obtain ⟨ret, ordinary, handled⟩ := handleEvent_fswMachine event data fw
  change (if (!fw.ready || fw.error) = true then pure .failure
    else if fw.dfi = .ctrlUpd then pure .retry
    else responseOf <$> handleEvent fswMachine event data : FwM FwResponse) fw = _
  simp only [Fw.not_running_iff, Fw.guarded]
  split
  · rfl
  · split
    · rfl
    · exact map_responseOf ordinary handled

/-- The handler of a message in terms of the machines' steps. -/
def handled (event : FwPhyEvent) (data : MsgData) (fw : Fw) :
    Except Fault (FwResponse × Fw) :=
  match event.kind with
  | .boot => handleStartEvent event data fw
  | .lp => .ok (.failure, fw)
  | .dfi => fw.guarded (fw.fsw = .pending) (fw.dfiTransition event data)
  | .fsw => fw.guarded (fw.dfi = .ctrlUpd) (fw.fswTransition event data)

theorem eventHandlers_eq (event : FwPhyEvent) (data : MsgData) (fw : Fw) :
    eventHandlers event event data fw = handled event data fw := by
  cases event <;> first
    | rfl
    | exact handleDfiEvent_eq _ data fw
    | exact handleFswEvent_eq _ data fw

theorem processMessage_eq (msg : FwMsg) (fw : Fw) :
    processMessage msg fw =
      match FwPhyEvent.ofCode? msg.event with
      | none => .ok (none, fw)
      | some event => (fun done => (some done.1, done.2)) <$> handled event msg.data fw := by
  cases decoded : FwPhyEvent.ofCode? msg.event with
  | none =>
      simp only [processMessage, decoded]
      rfl
  | some event =>
      simp only [processMessage, decoded]
      rw [FwM.map_eq, eventHandlers_eq]

end Answers

section Start

variable [KernelIo] [BuildConfig]

/-- The boot options of a BOOT message. -/
def startBootCfg (calibrate trainDram : Bool) : WddrBootCfg :=
  let bootCfg := wddrBootConfigNone
  let bootCfg := if calibrate then
      let bootCfg := updateBootOption bootCfg wddrBootOptionPllCal
        BuildConfig.configCalibratePll
      let bootCfg := updateBootOption bootCfg wddrBootOptionSaCal
        BuildConfig.configCalibrateSa
      updateBootOption bootCfg wddrBootOptionZqcalCal BuildConfig.configCalibrateZqcal
    else bootCfg
  if trainDram then
    updateBootOption bootCfg wddrBootOptionTrainDram BuildConfig.configDramTrain
  else bootCfg

/-- What follows a successful boot of the device. -/
def Wddr.released (wddr : Wddr) : Wddr :=
  wddr.onDfi (dfiCtrlupdAckOverrideRegIf true false)
    |>.onIrq (Irq.disableIrq .ctrlupdReq)
    |>.onPll (Pll.pllSetLossLockInterruptState true)

/-- The end of a BOOT, from what the boot of the device returned. -/
def Fw.finishStart (fw : Fw) (booted : WddrReturn × Wddr) : FwResponse × Fw :=
  if booted.1 ≠ .wddrSuccess then (.failure, { fw with wddr := booted.2, error := true })
  else if fw.timerStarts then
    (.success, { fw with wddr := booted.2.released, timer := .running, ready := true })
  else (.failure, { fw with wddr := booted.2.released, timer := .deleted, error := true })

omit [BuildConfig] in
/-- The end of a BOOT makes the firmware ready only when the device booted and the timer
starts. -/
theorem Fw.finishStart_of_ready {fw : Fw} {booted : WddrReturn × Wddr}
    (notReady : fw.ready = false) (ready : (fw.finishStart booted).2.ready = true) :
    booted.1 = .wddrSuccess ∧ fw.timerStarts = true ∧ (fw.finishStart booted).2 =
      { fw with wddr := booted.2.released, timer := .running, ready := true } := by
  unfold Fw.finishStart at ready ⊢
  split at ready
  · simp [notReady] at ready
  · rename_i succeeded
    rw [if_neg succeeded]
    split at ready
    · rename_i starts
      rw [if_pos starts]
      exact ⟨not_not.mp succeeded, starts, rfl⟩
    · simp [notReady] at ready

variable [Device]

theorem handleStartEvent_eq (event : FwPhyEvent) (calibrate trainDram : Bool) (fw : Fw) :
    handleStartEvent event (.startCfg calibrate trainDram) fw =
      if fw.ready then .ok (.failure, fw)
      else fw.finishStart <$> fw.wddr.wddrBoot fw.hw (startBootCfg calibrate trainDram) := by
  change (if fw.ready = true then pure FwResponse.failure
    else liftM (fw.wddr.wddrBoot fw.hw (startBootCfg calibrate trainDram)) >>= _ :
      FwM FwResponse) fw = _
  split
  · rfl
  · rw [FwM.bind_eq, FwM.liftM_eq]
    cases fw.wddr.wddrBoot fw.hw (startBootCfg calibrate trainDram) with
    | error fault => rfl
    | ok booted =>
        simp only [Fault.ok_bind, Functor.map, Except.map, Fw.finishStart]
        by_cases failed : booted.1 ≠ .wddrSuccess
        · simp only [if_pos failed]
          rfl
        · simp only [if_neg failed]
          cases starts : fw.timerStarts with
          | false =>
              simp only [Bool.false_eq_true, if_false]
              rfl
          | true =>
              simp only [if_true]
              rfl

end Start

section Steps

variable [KernelIo] [BuildConfig]

/-- The DFI machine has a row for the event. -/
def DfiState.takes : DfiState → FwPhyEvent → Bool
  | .idle, .phymstrReq | .idle, .phyupdReq | .idle, .ctrlupdAssert => true
  | .phyMstrPending, .phymstrAck | .phyMstrPending, .phymstrAbort => true
  | .phyMstr, .phymstrExit => true
  | .phyUpd, .phyupdAck | .phyUpd, .phyupdAbort => true
  | .ctrlUpd, .ctrlupdDeassert => true
  | _, _ => false

/-- The frequency switch machine has a row for the event. -/
def FswState.takes : FswState → FwPhyEvent → Bool
  | .prep, .prep | .prep, .initStart | .pending, .pllLock => true
  | _, _ => false

/-- The steps of the DFI machine. -/
inductive DfiStep (data : MsgData) (fw : Fw) : FwPhyEvent → Fw → Prop
  | ignored {event : FwPhyEvent} (unmatched : fw.dfi.takes event = false) :
      DfiStep data fw event fw
  | phymstrReq {req : DfiPhymstrReq} (idle : fw.dfi = .idle) :
      DfiStep data fw .phymstrReq (fw.enterPhyMstrPending req)
  | phyupdReq (idle : fw.dfi = .idle) :
      DfiStep data fw .phyupdReq (fw.enterPhyUpd data.toWord)
  | ctrlupdAssert {after : Fw} (idle : fw.dfi = .idle) (entered : fw.enterCtrlUpd = .ok after) :
      DfiStep data fw .ctrlupdAssert after
  | phymstrAck (pending : fw.dfi = .phyMstrPending) :
      DfiStep data fw .phymstrAck fw.enterPhyMstr
  | phymstrAbort (pending : fw.dfi = .phyMstrPending) :
      DfiStep data fw .phymstrAbort fw.abortPhyMstr
  | phymstrExit (granted : fw.dfi = .phyMstr) : DfiStep data fw .phymstrExit fw.exitPhyMstr
  | phyupdAck {after : Fw} (updating : fw.dfi = .phyUpd) (finished : fw.finishPhyUpd = .ok after) :
      DfiStep data fw .phyupdAck after
  | phyupdAbort (updating : fw.dfi = .phyUpd) : DfiStep data fw .phyupdAbort fw.abortPhyUpd
  | ctrlupdDeassert (updating : fw.dfi = .ctrlUpd) :
      DfiStep data fw .ctrlupdDeassert fw.exitCtrlUpd

theorem dfiStep_of_ok {event : FwPhyEvent} {data : MsgData} {fw after : Fw}
    (taken : fw.dfiTransition event data = .ok after) : DfiStep data fw event after := by
  unfold Fw.dfiTransition at taken
  split at taken
  case h_1 idle =>
    cases request : data.toPhymstrReq with
    | error fault => simp [request, Functor.map, Except.map] at taken
    | ok req =>
        simp only [request, Functor.map, Except.map, Except.ok.injEq] at taken
        exact taken ▸ .phymstrReq idle
  case h_2 idle => exact Except.ok.inj taken ▸ .phyupdReq idle
  case h_3 idle => exact .ctrlupdAssert idle taken
  case h_4 pending => exact Except.ok.inj taken ▸ .phymstrAck pending
  case h_5 pending => exact Except.ok.inj taken ▸ .phymstrAbort pending
  case h_6 granted => exact Except.ok.inj taken ▸ .phymstrExit granted
  case h_7 updating => exact .phyupdAck updating taken
  case h_8 updating => exact Except.ok.inj taken ▸ .phyupdAbort updating
  case h_9 updating => exact Except.ok.inj taken ▸ .ctrlupdDeassert updating
  case h_10 event _ _ _ _ _ _ _ _ _ _ _ =>
    have unmatched : fw.dfi.takes event = false := by
      unfold DfiState.takes
      split <;> simp_all
    exact Except.ok.inj taken ▸ .ignored unmatched

variable [Device]

/-- The steps of the frequency switch machine. -/
inductive FswStep (data : MsgData) (fw : Fw) : FwPhyEvent → Fw → Prop
  | ignored {event : FwPhyEvent} (unmatched : fw.fsw.takes event = false) :
      FswStep data fw event fw
  | prep {after : Fw} (inPrep : fw.fsw = .prep)
      (prepared : fw.prepareSwitch data.freqId = .ok after) : FswStep data fw .prep after
  | initStart (inPrep : fw.fsw = .prep) : FswStep data fw .initStart fw.enterPending
  | pllLock (pending : fw.fsw = .pending) : FswStep data fw .pllLock fw.finishSwitch

theorem fswStep_of_ok {event : FwPhyEvent} {data : MsgData} {fw after : Fw}
    (taken : fw.fswTransition event data = .ok after) : FswStep data fw event after := by
  unfold Fw.fswTransition at taken
  split at taken
  case h_1 inPrep => exact .prep inPrep taken
  case h_2 inPrep => exact Except.ok.inj taken ▸ .initStart inPrep
  case h_3 pending => exact Except.ok.inj taken ▸ .pllLock pending
  case h_4 event _ _ _ _ _ =>
    have unmatched : fw.fsw.takes event = false := by
      unfold FswState.takes
      split <;> simp_all
    exact Except.ok.inj taken ▸ .ignored unmatched

/-- What handling an event can do. -/
inductive Handled (data : MsgData) (fw : Fw) : FwPhyEvent → FwResponse → Fw → Prop
  | refused {event : FwPhyEvent} {response : FwResponse}
      (refusal : event.refusal fw = some response) : Handled data fw event response fw
  | start {calibrate trainDram : Bool} {booted : WddrReturn × Wddr}
      (notReady : fw.ready = false)
      (boots : fw.wddr.wddrBoot fw.hw (startBootCfg calibrate trainDram) = .ok booted)
      (options : data = .startCfg calibrate trainDram) :
      Handled data fw .boot (fw.finishStart booted).1 (fw.finishStart booted).2
  | dfi {event : FwPhyEvent} {after : Fw} (kind : event.kind = .dfi) (running : fw.Running)
      (admitted : fw.fsw ≠ .pending) (step : DfiStep data fw event after) :
      Handled data fw event .success after
  | fsw {event : FwPhyEvent} {after : Fw} (kind : event.kind = .fsw) (running : fw.Running)
      (admitted : fw.dfi ≠ .ctrlUpd) (step : FswStep data fw event after) :
      Handled data fw event .success after

theorem handled_of_ok {event : FwPhyEvent} {data : MsgData} {fw after : Fw}
    {response : FwResponse} (ran : handled event data fw = .ok (response, after)) :
    Handled data fw event response after := by
  unfold handled at ran
  split at ran
  case h_1 kind =>
    have isBoot : event = .boot := by
      cases event <;> first | rfl | cases kind
    subst isBoot
    cases data with
    | startCfg calibrate trainDram =>
        rw [handleStartEvent_eq] at ran
        cases ready : fw.ready with
        | true =>
            rw [ready] at ran
            cases ran
            exact .refused (if_pos ready)
        | false =>
            simp only [ready, Bool.false_eq_true, if_false] at ran
            cases boots : fw.wddr.wddrBoot fw.hw (startBootCfg calibrate trainDram) with
            | error fault => simp [boots, Functor.map, Except.map] at ran
            | ok booted =>
                simp only [boots, Functor.map, Except.map, Except.ok.injEq] at ran
                have started : Handled (.startCfg calibrate trainDram) fw .boot
                    (fw.finishStart booted).1 (fw.finishStart booted).2 := .start ready boots rfl
                rw [ran] at started
                exact started
    | word value => cases ran
    | phymstrReq req => cases ran
  case h_2 kind =>
    cases ran
    exact .refused (by rw [FwPhyEvent.refusal, kind])
  case h_3 kind =>
    rcases Fw.guarded_ok ran with ⟨refusal, rfl⟩ | ⟨running, admitted, rfl, step⟩
    · exact .refused (by rw [FwPhyEvent.refusal, kind]; exact refusal)
    · exact .dfi kind running admitted (dfiStep_of_ok step)
  case h_4 kind =>
    rcases Fw.guarded_ok ran with ⟨refusal, rfl⟩ | ⟨running, admitted, rfl, step⟩
    · exact .refused (by rw [FwPhyEvent.refusal, kind]; exact refusal)
    · exact .fsw kind running admitted (fswStep_of_ok step)

end Steps

end WavLpddr
