import WavLpddr.Acknowledge
import WavLpddr.HostOrder

/-!
# Updates of the PHY under a grant

The controller grants an update by acknowledging the request that is asserted.  The
acknowledgement is latched, and the latch is cleared only when its interrupt is taken.
An acknowledgement of a request that was withdrawn may therefore be reported for the
next one.
-/

namespace WavLpddr

open EventMachine TransitionSystem

section Handlers

variable [KernelIo] [BuildConfig]

/-- No step of the DFI machine touches the latched sources. -/
theorem DfiStep.status {data : MsgData} {fw after : Fw} {event : FwPhyEvent}
    (step : DfiStep data fw event after) : after.wddr.irq.status = fw.wddr.irq.status := by
  cases step with
  | ctrlupdAssert idle entered =>
      obtain ⟨zqcal, phy, rfl⟩ := Fw.eq_of_enterCtrlUpd entered
      rfl
  | phyupdAck updating finished =>
      obtain ⟨update, rfl⟩ := Fw.eq_of_finishPhyUpd finished
      rfl
  | _ => rfl

/-- The DFI machine waits for an update only after it took the request. -/
theorem DfiStep.of_phyUpd {data : MsgData} {fw after : Fw} {event : FwPhyEvent}
    (step : DfiStep data fw event after) (updating : after.dfi = .phyUpd) :
    fw.dfi = .phyUpd ∨ (event = .phyupdReq ∧ fw.dfi = .idle) := by
  cases step with
  | ignored => exact .inl updating
  | phyupdReq idle => exact .inr ⟨rfl, idle⟩
  | ctrlupdAssert idle entered =>
      obtain ⟨zqcal, phy, rfl⟩ := Fw.eq_of_enterCtrlUpd entered
      cases updating
  | phyupdAck wasUpdating => exact .inl wasUpdating
  | phyupdAbort wasUpdating => exact .inl wasUpdating
  | _ => cases updating

theorem Fw.enterPending_ne_phyUpd (fw : Fw) : fw.enterPending.dfi ≠ .phyUpd := by
  have released : fw.enterPending.dfi = fw.beforeRelease.dfi := rfl
  rw [released, fw.beforeRelease_dfi]
  split
  · simp
  · rename_i notRequesting
    exact (not_or.mp notRequesting).1

variable [Device]

/-- A message that leaves the DFI machine waiting for an update found it waiting or
requests the update; in both cases the latched sources stay. -/
theorem Handled.of_phyUpd {data : MsgData} {fw after : Fw} {event : FwPhyEvent}
    {response : FwResponse} {current : VcoIndex} (ran : Handled data fw event response after)
    (device : fw.DeviceSound current) (lines : fw.LinesSound) (updating : after.dfi = .phyUpd) :
    (fw.dfi = .phyUpd ∨
        (event = .phyupdReq ∧ fw.Running ∧ fw.fsw ≠ .pending ∧ fw.dfi = .idle)) ∧
      after.wddr.irq.status = fw.wddr.irq.status := by
  cases ran with
  | refused => exact ⟨.inl updating, rfl⟩
  | start notReady =>
      have resting := lines.resting fun running => by simp [running.1] at notReady
      rw [(fw.finishStart_frame _).2.2, resting.2] at updating
      cases updating
  | dfi _ running admitted step =>
      refine ⟨?_, step.status⟩
      rcases step.of_phyUpd updating with waiting | ⟨isReq, idle⟩
      · exact .inl waiting
      · exact .inr ⟨isReq, running, admitted, idle⟩
  | fsw _ _ _ step =>
      cases step with
      | ignored => exact ⟨.inl updating, rfl⟩
      | prep inPrep prepared =>
          rcases Fw.eq_of_prepareSwitch device.sound prepared with ⟨-, rfl⟩ | ⟨-, -, rfl⟩
          · rw [Fw.prepared_dfi] at updating
            exact ⟨.inl updating, rfl⟩
          · exact ⟨.inl updating, rfl⟩
      | initStart => exact absurd updating fw.enterPending_ne_phyUpd
      | pllLock => exact ⟨.inl updating, rfl⟩

end Handlers

namespace Sys

section Grants

variable [Platform]

/-- The DFI machine takes the message in hand, which asks for an update. -/
def RequestsUpdate (label : Label) (sys : Sys) : Prop :=
  Handles label sys fun msg =>
    msg.Is .phyupdReq ∧ sys.fw.Running ∧ sys.fw.fsw ≠ .pending ∧ sys.fw.dfi = .idle

instance (label : Label) (sys : Sys) : Decidable (RequestsUpdate label sys) :=
  inferInstanceAs (Decidable (Handles _ _ _))

/-- The firmware task is about to run `dfi_phyupd_update`. -/
def UpdatesPhy (sys : Sys) : Prop :=
  Handles .process sys fun msg =>
    msg.Is .phyupdAck ∧ sys.fw.Running ∧ sys.fw.fsw ≠ .pending ∧ sys.fw.dfi = .phyUpd

instance (sys : Sys) : Decidable sys.UpdatesPhy :=
  inferInstanceAs (Decidable (Handles _ _ _))

/-- The controller acknowledges. -/
def isAcknowledge : Label → Bool
  | .raise .phyupdAck => true
  | _ => false

/-- Whether the request that is asserted was acknowledged since it was asserted. -/
def observeGrant (label : Label) (sys : Sys) (granted : Bool) : Bool :=
  if RequestsUpdate label sys then false
  else granted || (isAcknowledge label && decide (phyupdAsserted sys.fw.wddr.dfi))

/-- The system with the observer of the grants. -/
abbrev grantObserved : TransitionSystem (Sys × Bool) Label :=
  monitored system false observeGrant

/-- The PHY is updated only under a current grant. -/
def UpdatesGranted (pair : Sys × Bool) : Prop :=
  pair.1.UpdatesPhy → pair.2 = true

/-- An update is requested only while no acknowledgement is latched or in the queue. -/
def RequestsFresh : StepCondition (Sys × Bool) Label := fun label pair =>
  RequestsUpdate label pair.1 →
    pair.1.fw.wddr.irq.status .phyupdAck = false ∧
      ∀ msg ∈ pair.1.fw.mq, ¬ msg.Is .phyupdAck

instance (label : Label) (pair : Sys × Bool) : Decidable (RequestsFresh label pair) :=
  inferInstanceAs (Decidable (_ → _ ∧ _))

/-- An acknowledgement is on its way to the firmware task. -/
def Acknowledged (sys : Sys) : Prop :=
  sys.fw.wddr.irq.status .phyupdAck = true ∨ ∃ msg ∈ sys.inFlight, msg.Is .phyupdAck

/-- While an update is awaited, an acknowledgement on its way is its grant. -/
def GrantsCurrent (pair : Sys × Bool) : Prop :=
  pair.1.fw.dfi = .phyUpd → pair.1.Acknowledged → pair.2 = true

omit [Platform] in
theorem Irq.latched_of_raise {source : DdrIrq} {irq : Irq}
    (latched : (irq.raise source).status .phyupdAck = true) :
    irq.status .phyupdAck = true ∨ isAcknowledge (.raise source) = true := by
  cases source with
  | phyupdAck => exact .inr rfl
  | _ => exact .inl (by simpa [Irq.raise, Function.update] using latched)

omit [Platform] in
theorem latched_of_runIsr [KernelIo] {line : IrqLine} {data : MsgData}
    {xSender : Option TaskHandle} {late : List CtrlupdEdge} {fw : Fw}
    (latched : (fw.runIsr line data xSender late).wddr.irq.status .phyupdAck = true) :
    fw.wddr.irq.status .phyupdAck = true := by
  have cleared : ∀ sources : List DdrIrq, ∀ irq : Irq,
      (irq.clear sources).status .phyupdAck = true → irq.status .phyupdAck = true := by
    intro sources irq latched
    unfold Irq.clear at latched
    dsimp only at latched
    split at latched
    · cases latched
    · exact latched
  cases line with
  | pll =>
      unfold Fw.runIsr Fw.pllIrqHandler at latched
      dsimp only at latched
      split at latched
      · rwa [Fw.sendToBack_wddr] at latched
      · exact latched
  | ctrlupdReq =>
      rw [Fw.runIsr_late] at latched
      unfold Fw.runIsr Fw.handleDfiCtrlupdReqIrq at latched
      dsimp only at latched
      split at latched
      · rw [Fw.notifyIsr, Fw.sendToBack_wddr] at latched
        exact cleared _ _ latched
      · split at latched
        · rw [Fw.notifyIsr, Fw.sendToBack_wddr] at latched
          exact cleared _ _ latched
        · exact cleared _ _ latched
  | initStart | initComplete | phyupdAck | phymstrAck =>
      simp only [Fw.runIsr, Fw.handleInitStartIrq, Fw.handleInitCompleteIrq,
        Fw.handleDfiPhyupdAckIrq, Fw.handleDfiPhymstrAckIrq, Fw.handleOneShotIrq, Fw.notifyIsr,
        Fw.sendToBack_wddr] at latched
      exact cleared _ _ latched

/-- An acknowledgement that is latched was latched before or is raised by this step. -/
theorem FwEffect.acknowledge {sys : Sys} {label : Label} {after : Fw}
    (effect : FwEffect sys label after) (latched : after.wddr.irq.status .phyupdAck = true) :
    sys.fw.wddr.irq.status .phyupdAck = true ∨ isAcknowledge label = true := by
  cases effect with
  | sent =>
      rw [Fw.sendToBack_wddr] at latched
      exact .inl latched
  | calibrated ran =>
      obtain ⟨zqcal, cmn, rfl⟩ := Wddr.eq_of_wddrIocalCalibrate ran
      exact .inl latched
  | isr => exact .inl (latched_of_runIsr latched)
  | raised => exact Irq.latched_of_raise latched
  | _ => exact .inl latched

theorem Arrives.latched {sys : Sys} {label : Label} {msg : FwMsg}
    (arrives : Arrives sys label msg) (isAck : msg.Is .phyupdAck) :
    sys.fw.wddr.irq.status .phyupdAck = true := by
  obtain ⟨line, data, xSender, late, -, listed, interruptible⟩ :=
    arrives.interruptible isAck (by decide)
  obtain rfl : line = .phyupdAck := IrqLine.eq_of_mem_events listed (by decide)
  simp only [Fw.interruptible, Bool.and_eq_true, Irq.pending, Irq.sources, List.any_cons,
    List.any_nil, Bool.or_false] at interruptible
  exact interruptible.2.1

/-- A step that is not the handling of a message delivers only acknowledgements that were
on their way, or a new one of the controller. -/
theorem acknowledged_of_other {label : Label} {sys next : Sys}
    (reachable : system.Reachable sys) (taken : system.step label sys = some next)
    (notProcess : label ≠ .process) (acknowledged : next.Acknowledged) :
    sys.Acknowledged ∨ isAcknowledge label = true := by
  rcases acknowledged with latched | ⟨msg, listed, isAck⟩
  · rcases (otherStep_of_taken taken notProcess).effect.acknowledge latched with earlier | raised
    · exact .inl (.inl earlier)
    · exact .inr raised
  · left
    rcases mem_inFlight_of_taken reachable taken listed with earlier | ⟨-, arrives⟩
    · exact .inr ⟨msg, earlier, isAck⟩
    · exact .inl (arrives.latched isAck)

theorem observeGrant_kept {label : Label} {sys : Sys} {granted : Bool}
    (notRequest : ¬ RequestsUpdate label sys) (wasGranted : granted = true) :
    observeGrant label sys granted = true := by
  rw [observeGrant, if_neg notRequest, wasGranted, Bool.true_or]

theorem grantsCurrent_of_process {sys next : Sys} {granted : Bool}
    (reachable : system.Reachable sys) (fresh : RequestsFresh .process (sys, granted))
    (current : GrantsCurrent (sys, granted)) (taken : system.step .process sys = some next) :
    GrantsCurrent (next, observeGrant .process sys granted) := by
  intro updating acknowledged
  obtain ⟨vco, device⟩ := deviceSound_of_reachable reachable
  obtain ⟨msg, task, step⟩ := processStep_of_taken taken
  have notRequest : sys.fw.dfi = .phyUpd → ¬ RequestsUpdate .process sys := by
    intro waiting request
    obtain ⟨-, -, -, -, -, -, idle⟩ := exists_of_handles request
    rw [waiting] at idle
    cases idle
  have kept : sys.fw.dfi = .phyUpd → sys.Acknowledged →
      observeGrant .process sys granted = true := fun waiting before =>
    observeGrant_kept (notRequest waiting) (current waiting before)
  -- What stands behind the message in hand was in flight before.
  have behind : (sys.fw.wddr.irq.status .phyupdAck = true ∨
      ∃ other ∈ sys.fw.mq, other.Is .phyupdAck) → sys.Acknowledged := by
    rintro (latched | ⟨other, listed, isAck⟩)
    · exact .inl latched
    · refine .inr ⟨other, ?_, isAck⟩
      rw [inFlight, task]
      exact List.mem_cons_of_mem msg listed
  cases step with
  | unknown => exact kept updating (behind acknowledged)
  | failed => exact kept updating acknowledged
  | answered decoded ran =>
      change (sys.answered _ _ _).fw.dfi = .phyUpd at updating
      rw [answered_fw] at updating
      obtain ⟨found, sameStatus⟩ :=
        ran.of_phyUpd device (linesSound_of_reachable reachable) updating
      have remaining : sys.fw.wddr.irq.status .phyupdAck = true ∨
          ∃ other ∈ sys.fw.mq, other.Is .phyupdAck := by
        rcases acknowledged with latched | ⟨other, listed, isAck⟩
        · left
          rwa [answered_fw, sameStatus] at latched
        · right
          simp only [inFlight, answered_fwTask, answered_fw, ran.mq device] at listed
          exact ⟨other, listed, isAck⟩
      rcases found with waiting | ⟨isReq, running, admitted, idle⟩
      · exact kept waiting (behind remaining)
      · exfalso
        subst isReq
        have request : RequestsUpdate .process sys := (handles_process task).mpr
          ⟨FwPhyEvent.ofCode?_eq_some_iff.mp decoded, running, admitted, idle⟩
        obtain ⟨notLatched, noneQueued⟩ := fresh request
        rcases remaining with latched | ⟨other, listed, isAck⟩
        · change sys.fw.wddr.irq.status .phyupdAck = false at notLatched
          rw [notLatched] at latched
          cases latched
        · exact noneQueued other listed isAck

theorem grantsCurrent_of_reachableWhere {pair : Sys × Bool}
    (reachable : grantObserved.ReachableWhere RequestsFresh pair) : GrantsCurrent pair := by
  apply reachable.invariant (motive := GrantsCurrent)
  · rintro ⟨sys, granted⟩ ⟨⟨table, reset, hw, timerStarts, -, -, rfl⟩, -⟩ updating
    cases updating
  · rintro label ⟨sys, granted⟩ next before fresh taken current
    obtain ⟨moved, stepped, rfl⟩ := Option.map_eq_some_iff.mp taken
    have reachable := before.of_monitored
    by_cases isProcess : label = .process
    · subst isProcess
      exact grantsCurrent_of_process reachable fresh current stepped
    · intro updating acknowledged
      have waiting : sys.fw.dfi = .phyUpd :=
        (sameControl_of_taken stepped isProcess).dfi.symm.trans updating
      have notRequest : ¬ RequestsUpdate label sys := by
        intro request
        obtain ⟨-, rfl, -⟩ := exists_of_handles request
        exact isProcess rfl
      rcases acknowledged_of_other reachable stepped isProcess acknowledged with
        earlier | raised
      · exact observeGrant_kept notRequest (current waiting earlier)
      · have asserted := (linesSound_of_reachable reachable).lines.phyupd.mpr waiting
        change observeGrant label sys granted = true
        rw [observeGrant, if_neg notRequest, raised, decide_eq_true asserted]
        exact Bool.or_true granted

/-- As long as no acknowledgement is left over when an update is requested, every update
of the PHY was granted. -/
theorem updatesGranted_of_reachableWhere {pair : Sys × Bool}
    (reachable : grantObserved.ReachableWhere RequestsFresh pair) : UpdatesGranted pair := by
  intro updates
  obtain ⟨msg, -, task, isAck, -, -, waiting⟩ := exists_of_handles updates
  exact grantsCurrent_of_reachableWhere reachable waiting
    (.inr ⟨msg, mem_inFlight_of_task task, isAck⟩)

end Grants

/-- The observed state that a run from the reference start ends in, under a condition. -/
def grantedAfter (condition : StepCondition (Sys × Bool) Label)
    [∀ label pair, Decidable (condition label pair)] (labels : List Label)
    (possible : ((observedReference (@observeGrant referencePlatform) false).execWhere
      condition labels (referenceStart, false)).isSome) : Sys × Bool :=
  observedAfterWhere (@observeGrant referencePlatform) false condition labels possible

theorem reachable_grantedAfter {condition : StepCondition (Sys × Bool) Label}
    [∀ label pair, Decidable (condition label pair)] {labels : List Label}
    (possible : ((observedReference (@observeGrant referencePlatform) false).execWhere
      condition labels (referenceStart, false)).isSome) :
    (@grantObserved referencePlatform).ReachableWhere condition
      (grantedAfter condition labels possible) :=
  reachable_observedAfterWhere possible

/-- The update that the timer asked for is granted. -/
theorem updatesGranted_acknowledged :
    UpdatesGranted
      (grantedAfter RequestsFresh (bootRun ++ timerRequest ++ handleNext ++ phyupdAckIrq ++
        [.receive]) (by decide +kernel)) :=
  @updatesGranted_of_reachableWhere referencePlatform _ (reachable_grantedAfter _)

/-- A request is acknowledged while the handler of INIT_START withdraws it.  Its interrupt
is disabled, and the next request enables it with the acknowledgement still latched. -/
def staleGrantState : Sys × Bool :=
  grantedAfter (fun _ _ => True)
    (bootRun ++ prepRun 0 ++ timerRequest ++ handleNext ++ initStartIrq ++
      [.receive, .raise .phyupdAck, .process] ++ pllLockIrq ++ handleNext ++ timerRequest ++
      handleNext ++ [.isr .phyupdAck .null none [], .receive]) (by decide +kernel)

/-- The next request is updated although it was not acknowledged. -/
theorem not_updatesGranted_stale :
    (@grantObserved referencePlatform).Reachable staleGrantState ∧
      ¬ UpdatesGranted staleGrantState := by
  constructor
  · exact reachable_grantedAfter _
  · intro granted
    have updates : staleGrantState.1.UpdatesPhy := by decide +kernel
    exact absurd (granted updates) (by decide +kernel)

end Sys

end WavLpddr
