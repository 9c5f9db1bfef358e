import WavLpddr.Acknowledge
import WavLpddr.HostOrder

/-!
# Controller updates

The interrupt of controller updates is enabled when the device is initialised and
disabled at the end of a boot.  An update that the controller begins in between is
handled after the boot, when its end is no longer reported.
-/

namespace WavLpddr

open EventMachine TransitionSystem

section Handlers

variable [KernelIo]

theorem Fw.LinesSound.updating {fw : Fw} (lines : fw.LinesSound) (updating : fw.dfi = .ctrlUpd) :
    fw.Running ∧ fw.fsw ≠ .pending := by
  constructor
  · by_contra notRunning
    simp [lines.resting notRunning] at updating
  · intro pending
    rcases lines.pending pending with idle | granted
    · simp [updating] at idle
    · simp [updating] at granted

variable [BuildConfig] [Device]

theorem Handled.ctrlupdDeassert {data : MsgData} {fw after : Fw} {response : FwResponse}
    (ran : Handled data fw .ctrlupdDeassert response after) (lines : fw.LinesSound)
    (updating : fw.dfi = .ctrlUpd) : after = fw.exitCtrlUpd := by
  obtain ⟨running, admitted⟩ := lines.updating updating
  cases ran with
  | refused refusal =>
      rcases Fw.refusal_isSome refusal with notRunning | pending
      · exact absurd running notRunning
      · exact absurd pending admitted
  | dfi _ _ _ step =>
      cases step with
      | ignored unmatched => simp [updating, DfiState.takes] at unmatched
      | ctrlupdDeassert => rfl
  | fsw kind => cases kind

/-- The DFI machine is in its update state after a message only if it was before and the
message does not end the update, or the message begins one. -/
theorem Handled.of_ctrlUpd {data : MsgData} {fw after : Fw} {event : FwPhyEvent}
    {response : FwResponse} {current : VcoIndex} (ran : Handled data fw event response after)
    (device : fw.DeviceSound current) (lines : fw.LinesSound) (updating : after.dfi = .ctrlUpd) :
    (fw.dfi = .ctrlUpd ∧ event ≠ .ctrlupdDeassert) ∨
      (event = .ctrlupdAssert ∧ fw.Running ∧ fw.fsw ≠ .pending ∧ fw.dfi = .idle) := by
  by_cases wasUpdating : fw.dfi = .ctrlUpd
  · left
    refine ⟨wasUpdating, ?_⟩
    rintro rfl
    rw [ran.ctrlupdDeassert lines wasUpdating] at updating
    cases updating
  · right
    have isAssert : event = .ctrlupdAssert := by
      by_contra other
      exact ran.dfi_ne_ctrlUpd device wasUpdating other updating
    subst isAssert
    cases ran with
    | refused => exact absurd updating wasUpdating
    | dfi _ running admitted step =>
        cases step with
        | ignored => exact absurd updating wasUpdating
        | ctrlupdAssert idle => exact ⟨rfl, running, admitted, idle⟩
    | fsw kind => cases kind

end Handlers

namespace Sys

section Updates

variable [Platform]

/-- An update that is in progress can end: its interrupt is enabled, or its end was
reported. -/
def UpdateEnds (sys : Sys) : Prop :=
  sys.fw.dfi = .ctrlUpd → sys.fw.wddr.irq.enabled .ctrlupdReq = true ∨
    ∃ msg ∈ sys.inFlight, msg.Is .ctrlupdDeassert

/-- An update that the DFI machine begins has its end in the queue. -/
def UpdatesPaired : StepCondition Sys Label := fun label sys =>
  (Handles label sys fun msg => msg.Is .ctrlupdAssert ∧ sys.fw.Running ∧
    sys.fw.fsw ≠ .pending ∧ sys.fw.dfi = .idle) →
  ∃ msg ∈ sys.fw.mq, msg.Is .ctrlupdDeassert

instance (label : Label) (sys : Sys) : Decidable (UpdatesPaired label sys) :=
  inferInstanceAs (Decidable (_ → _))

theorem updateEnds_of_process {sys next : Sys} (reachable : system.Reachable sys)
    (paired : UpdatesPaired .process sys)
    (ends : sys.fw.dfi = .ctrlUpd → ∃ msg ∈ sys.inFlight, msg.Is .ctrlupdDeassert)
    (taken : system.step .process sys = some next) (updating : next.fw.dfi = .ctrlUpd) :
    ∃ msg ∈ next.inFlight, msg.Is .ctrlupdDeassert := by
  obtain ⟨current, device⟩ := deviceSound_of_reachable reachable
  obtain ⟨msg, task, step⟩ := processStep_of_taken taken
  have behind : ∀ {waiting}, waiting ∈ sys.inFlight → waiting.Is .ctrlupdDeassert →
      ¬ msg.Is .ctrlupdDeassert → ∃ msg ∈ sys.fw.mq, msg.Is .ctrlupdDeassert := by
    intro waiting listed isEnd other
    rw [inFlight, task] at listed
    rcases List.mem_cons.mp listed with rfl | queued
    · exact absurd isEnd other
    · exact ⟨waiting, queued, isEnd⟩
  cases step with
  | unknown undecoded =>
      obtain ⟨waiting, listed, isEnd⟩ := ends updating
      apply behind listed isEnd
      intro isOther
      rw [FwPhyEvent.ofCode?_eq_some_iff.mpr isOther] at undecoded
      cases undecoded
  | failed => exact ends updating
  | answered decoded ran =>
      rw [answered_fw] at updating
      have remaining : ∃ msg ∈ sys.fw.mq, msg.Is .ctrlupdDeassert := by
        rcases ran.of_ctrlUpd device (linesSound_of_reachable reachable) updating with
          ⟨wasUpdating, notEnd⟩ | ⟨isAssert, running, admitted, idle⟩
        · obtain ⟨waiting, listed, isEnd⟩ := ends wasUpdating
          apply behind listed isEnd
          intro isDeassert
          rw [FwPhyEvent.ofCode?_eq_some_iff.mpr isDeassert, Option.some.injEq] at decoded
          exact notEnd decoded.symm
        · apply paired
          rw [handles_process task]
          exact ⟨FwPhyEvent.ofCode?_eq_some_iff.mp (isAssert ▸ decoded), running, admitted, idle⟩
      simpa only [inFlight, answered_fwTask, answered_fw, ran.mq device] using remaining

/-- As long as the DFI machine begins only updates whose end was reported, the end of the
update in progress is in flight. -/
theorem updateEnds_of_reachableWhere {sys : Sys}
    (reachable : system.ReachableWhere UpdatesPaired sys) : sys.UpdateEnds := by
  suffices ends : sys.fw.dfi = .ctrlUpd → ∃ msg ∈ sys.inFlight, msg.Is .ctrlupdDeassert from
    fun updating => .inr (ends updating)
  apply reachable.invariant (motive := fun sys =>
    sys.fw.dfi = .ctrlUpd → ∃ msg ∈ sys.inFlight, msg.Is .ctrlupdDeassert)
  · rintro _ ⟨table, reset, hw, timerStarts, -, -, rfl⟩ updating
    cases updating
  · intro label sys next before paired taken ends updating
    by_cases isProcess : label = .process
    · subst isProcess
      exact updateEnds_of_process before.reachable paired ends taken updating
    · have wasUpdating := (sameControl_of_taken taken isProcess).dfi.symm.trans updating
      obtain ⟨msg, listed, isEnd⟩ := ends wasUpdating
      rcases inFlight_of_other taken isProcess with same | ⟨last, -, added⟩
      · exact ⟨msg, same ▸ listed, isEnd⟩
      · exact ⟨msg, added ▸ List.mem_append_left _ listed, isEnd⟩

end Updates

/-- The controller begins an update, and its interrupt is taken. -/
def ctrlupdAssertIrq : List Label :=
  [.raise .ctrlupdReqAssertion, .isr .ctrlupdReq .null none []]

/-- The controller ends an update, and its interrupt is taken. -/
def ctrlupdDeassertIrq : List Label :=
  [.raise .ctrlupdReqDeassertion, .isr .ctrlupdReq .null none []]

/-- The controller begins and ends an update during the boot. -/
theorem updateEnds_paired :
    (afterWhere UpdatesPaired (hostBoot ++ [.receive] ++ ctrlupdAssertIrq ++
        ctrlupdDeassertIrq ++ [.process, .main] ++ handleNext) (by decide +kernel)).UpdateEnds :=
  @updateEnds_of_reachableWhere referencePlatform _ (reachable_afterWhere _)

/-- The controller begins an update during the boot. -/
def wedgedState : Sys :=
  after (hostBoot ++ [.receive] ++ ctrlupdAssertIrq ++ [.process, .main] ++ handleNext)
    (by decide +kernel)

/-- The DFI machine is in its update state, whose end will not be reported. -/
theorem not_updateEnds_wedged :
    referenceSystem.Reachable wedgedState ∧ wedgedState.app = .ready ∧
      ¬ wedgedState.UpdateEnds := by
  refine ⟨reachable_after _, by decide +kernel, ?_⟩
  intro ends
  rcases ends (by decide +kernel) with enabled | ⟨msg, listed, -⟩
  · exact absurd enabled (by decide +kernel)
  · have empty : wedgedState.inFlight = [] := by decide +kernel
    rw [empty] at listed
    cases listed

end Sys

end WavLpddr
