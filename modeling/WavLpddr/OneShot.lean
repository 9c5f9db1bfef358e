import WavLpddr.SwitchMoves

/-!
# Events that are reported once

An event that a machine cannot take because of the other machine is answered RETRY, and
the answer goes to the sender.  Interrupts, the timer and the end of a calibration have
none, so their events are lost.
-/

namespace WavLpddr

open EventMachine TransitionSystem

/-- The event of the message is given to the handler of its kind. -/
def FwMsg.IsKind (kind : EventKind) (msg : FwMsg) : Prop :=
  (FwPhyEvent.ofCode? msg.event).map FwPhyEvent.kind = some kind

instance (kind : EventKind) (msg : FwMsg) : Decidable (msg.IsKind kind) :=
  inferInstanceAs (Decidable (_ = _))

section Answers

variable [KernelIo] [BuildConfig]

omit [KernelIo] [BuildConfig] in
/-- RETRY is due to the other machine. -/
theorem FwPhyEvent.refusal_eq_retry_iff {event : FwPhyEvent} {fw : Fw} :
    event.refusal fw = some .retry ↔
      fw.Running ∧ ((event.kind = .dfi ∧ fw.fsw = .pending) ∨
        (event.kind = .fsw ∧ fw.dfi = .ctrlUpd)) := by
  unfold FwPhyEvent.refusal
  cases event.kind with
  | boot => cases fw.ready <;> simp
  | lp => simp
  | dfi => simp [Fw.refusal_eq_retry_iff]
  | fsw => simp [Fw.refusal_eq_retry_iff]

omit [BuildConfig] in
theorem Fw.finishStart_ne_retry (booted : WddrReturn × Wddr) (fw : Fw) :
    (fw.finishStart booted).1 ≠ .retry := by
  unfold Fw.finishStart
  split
  · simp
  · split <;> simp

variable [Device]

/-- A RETRY is a refusal. -/
theorem Handled.refusal_of_retry {data : MsgData} {fw after : Fw} {event : FwPhyEvent}
    {response : FwResponse} (ran : Handled data fw event response after)
    (retries : response = .retry) : event.refusal fw = some .retry ∧ after = fw := by
  cases ran with
  | refused refusal => exact ⟨retries ▸ refusal, rfl⟩
  | start => exact absurd retries (fw.finishStart_ne_retry _)
  | dfi => cases retries
  | fsw => cases retries

/-- The handlers answer RETRY exactly when the other machine stands in the way. -/
theorem handled_retry_iff {event : FwPhyEvent} {data : MsgData} {fw after : Fw} :
    handled event data fw = .ok (.retry, after) ↔
      event.refusal fw = some .retry ∧ after = fw := by
  constructor
  · intro ran
    exact (handled_of_ok ran).refusal_of_retry rfl
  · rintro ⟨refusal, rfl⟩
    obtain ⟨running, waits⟩ := FwPhyEvent.refusal_eq_retry_iff.mp refusal
    unfold handled
    rcases waits with ⟨kind, pending⟩ | ⟨kind, updating⟩
    · rw [kind]
      simp only [Fw.guarded, running, pending, not_true, if_true, if_false]
    · rw [kind]
      simp only [Fw.guarded, running, updating, not_true, if_true, if_false]

variable [Engine]

theorem processMessage_ok_iff {msg : FwMsg} {event : FwPhyEvent} (isEvent : msg.Is event)
    {fw after : Fw} {response : FwResponse} :
    processMessage msg fw = .ok (some response, after) ↔
      handled event msg.data fw = .ok (response, after) := by
  have decoded := FwPhyEvent.ofCode?_eq_some_iff.mpr isEvent
  rw [processMessage_eq, decoded]
  dsimp only
  cases handled event msg.data fw with
  | error fault => simp [Functor.map, Except.map]
  | ok done => simp [Functor.map, Except.map, Prod.ext_iff]

end Answers

namespace Sys

section Loss

variable [Platform]

/-- The message in hand is not lost. -/
structure NoLoss (sys : Sys) : Prop where
  exit : ∀ msg, sys.fwTask = .process msg → msg.Is .phymstrExit → sys.fw.dfi = .phyMstr →
    ∃ response after, processMessage msg sys.fw = .ok (some response, after) ∧
      after.dfi = .idle ∧ ¬ phymstrAsserted after.wddr.dfi
  start : ∀ msg, sys.fwTask = .process msg → msg.Is .initStart →
    ∃ response after, processMessage msg sys.fw = .ok (some response, after) ∧
      sys.fw.fsw = .prep ∧ after.fsw = .pending
  retry : ∀ msg, sys.fwTask = .process msg → msg.xSender = none →
    ∀ after, processMessage msg sys.fw ≠ .ok (some .retry, after)

/-- A message without a sender meets the other machine in its way, or INIT_START is reported
while a switch is pending. -/
def LosesOneShot (sys : Sys) : Prop :=
  Handles .process sys fun msg => sys.fw.Running ∧
    ((msg.xSender = none ∧ ((msg.IsKind .dfi ∧ sys.fw.fsw = .pending) ∨
        (msg.IsKind .fsw ∧ sys.fw.dfi = .ctrlUpd))) ∨
      (msg.Is .initStart ∧ sys.fw.fsw = .pending))

instance (sys : Sys) : Decidable sys.LosesOneShot :=
  inferInstanceAs (Decidable (Handles _ _ _))

theorem processMessage_retry_iff {msg : FwMsg} {fw after : Fw} :
    processMessage msg fw = .ok (some .retry, after) ↔
      (fw.Running ∧ ((msg.IsKind .dfi ∧ fw.fsw = .pending) ∨
        (msg.IsKind .fsw ∧ fw.dfi = .ctrlUpd))) ∧ after = fw := by
  unfold FwMsg.IsKind
  cases decoded : FwPhyEvent.ofCode? msg.event with
  | none =>
      rw [processMessage_eq, decoded]
      simp
  | some event =>
      have isEvent : msg.Is event := FwPhyEvent.ofCode?_eq_some_iff.mp decoded
      rw [processMessage_ok_iff isEvent, handled_retry_iff, FwPhyEvent.refusal_eq_retry_iff]
      simp

omit [Platform] in
theorem Posted.sender_of_exit {msg : FwMsg} (posted : Posted msg) (isExit : msg.Is .phymstrExit) :
    msg.xSender = none := by
  cases posted with
  | call call isCall =>
      subst isCall
      cases call with
      | start =>
          have isBoot : FwPhyEvent.boot.code = FwPhyEvent.phymstrExit.code := isExit
          exact absurd isBoot (by decide)
      | prepSwitch =>
          have isPrep : FwPhyEvent.prep.code = FwPhyEvent.phymstrExit.code := isExit
          exact absurd isPrep (by decide)
  | calRequest isRequest =>
      subst isRequest
      exact absurd isExit (by decide)
  | calExit isExit =>
      subst isExit
      rfl
  | timer isTimer =>
      subst isTimer
      rfl
  | irq line reports =>
      exact absurd (reports.mem_events isExit) (IrqLine.notMem_events _ (by decide))

/-- The granted master request ends with its EXIT unless a switch is pending. -/
theorem processMessage_exit {msg : FwMsg} {fw : Fw} (isExit : msg.Is .phymstrExit)
    (running : fw.Running) (admitted : fw.fsw ≠ .pending) (granted : fw.dfi = .phyMstr) :
    processMessage msg fw = .ok (some .success, fw.exitPhyMstr) := by
  rw [processMessage_ok_iff isExit]
  change fw.guarded (fw.fsw = .pending) (fw.dfiTransition .phymstrExit msg.data) = _
  rw [Fw.guarded, if_neg (not_not_intro running), if_neg admitted]
  simp only [Fw.dfiTransition, granted]
  rfl

/-- A switch starts with its INIT_START. -/
theorem processMessage_initStart {msg : FwMsg} {fw : Fw} (isStart : msg.Is .initStart)
    (running : fw.Running) (admitted : fw.dfi ≠ .ctrlUpd) (inPrep : fw.fsw = .prep) :
    processMessage msg fw = .ok (some .success, fw.enterPending) := by
  rw [processMessage_ok_iff isStart]
  change fw.guarded (fw.dfi = .ctrlUpd) (fw.fswTransition .initStart msg.data) = _
  rw [Fw.guarded, if_neg (not_not_intro running), if_neg admitted]
  simp only [Fw.fswTransition, inPrep]
  rfl

/-- INIT_START in hand finds the firmware able to carry out the switch. -/
theorem switchOpen_of_initStart {sys : Sys} {msg : FwMsg} (reachable : system.Reachable sys)
    (task : sys.fwTask = .process msg) (isStart : msg.Is .initStart) : sys.SwitchOpen := by
  apply switchOpen_of_starting reachable
  right; left
  rw [starts_of_task task, if_pos isStart]
  omega

/-- In every reachable state the message in hand is lost exactly when the other machine
stands in its way and nobody is told, or when INIT_START meets a pending switch. -/
theorem noLoss_iff {sys : Sys} (reachable : system.Reachable sys) :
    sys.NoLoss ↔ ¬ sys.LosesOneShot := by
  have lines := linesSound_of_reachable reachable
  constructor
  · rintro kept loses
    obtain ⟨msg, -, task, running, noSender | ⟨isStart, pending⟩⟩ := exists_of_handles loses
    · exact kept.retry msg task noSender.1 sys.fw
        (processMessage_retry_iff.mpr ⟨⟨running, noSender.2⟩, rfl⟩)
    · obtain ⟨_, _, -, inPrep, -⟩ := kept.start msg task isStart
      rw [pending] at inPrep
      cases inPrep
  · intro kept
    have keeps : ∀ msg, sys.fwTask = .process msg → _ := fun msg task loses =>
      kept ((handles_process task).mpr loses)
    constructor
    · intro msg task isExit granted
      have noSender := (posted_of_reachable reachable msg
        (mem_inFlight_of_task task)).sender_of_exit isExit
      have running : sys.fw.Running := by
        by_contra notRunning
        simp [lines.resting notRunning] at granted
      have admitted : sys.fw.fsw ≠ .pending := by
        intro pending
        have isDfi : msg.IsKind .dfi := by
          rw [FwMsg.IsKind, FwPhyEvent.ofCode?_eq_some_iff.mpr isExit]
          rfl
        exact keeps msg task ⟨running, .inl ⟨noSender, .inl ⟨isDfi, pending⟩⟩⟩
      refine ⟨_, _, processMessage_exit isExit running admitted granted, rfl, ?_⟩
      have idle : LinesMatch sys.fw.exitPhyMstr.wddr.dfi .idle :=
        lines.lines.phymstrDeassert (.inr granted)
      exact idle.not_phymstr (by simp) (by simp)
    · intro msg task isStart
      have isOpen := switchOpen_of_initStart reachable task isStart
      have inPrep : sys.fw.fsw = .prep := by
        cases state : sys.fw.fsw with
        | prep => rfl
        | pending => exact (keeps msg task ⟨isOpen.running, .inr ⟨isStart, state⟩⟩).elim
        | error => exact absurd state lines.fswOrdinary
      exact ⟨_, _, processMessage_initStart isStart isOpen.running isOpen.admitted inPrep,
        inPrep, rfl⟩
    · intro msg task noSender after retried
      obtain ⟨⟨running, waits⟩, -⟩ := processMessage_retry_iff.mp retried
      exact keeps msg task ⟨running, .inl ⟨noSender, waits⟩⟩

end Loss

/-- The calibration task ends its grant. -/
def exitRun : List Label := [.cal, .cal, .cal, .cal]

/-- The EXIT of a granted request is in hand. -/
theorem noLoss_exit :
    @NoLoss referencePlatform
      (after (bootRun ++ grantedRun ++ exitRun ++ [.receive]) (by decide +kernel)) :=
  (@noLoss_iff referencePlatform _ (reachable_after _)).mpr (by decide +kernel)

/-- The EXIT of a granted request is in hand while a switch is pending. -/
def lostExitState : Sys :=
  after (bootRun ++ prepRun 0 ++ grantedRun ++ initStartIrq ++ exitRun ++ handleNext ++
    [.receive]) (by decide +kernel)

/-- The EXIT is dropped, and the request stays asserted. -/
theorem not_noLoss_lostExit :
    referenceSystem.Reachable lostExitState ∧ ¬ @NoLoss referencePlatform lostExitState := by
  constructor
  · exact reachable_after _
  · intro kept
    let := referencePlatform
    have task : lostExitState.fwTask = .process phymstrExitMsg := by decide +kernel
    have granted : lostExitState.fw.dfi = .phyMstr := by decide +kernel
    have retried : processMessage phymstrExitMsg lostExitState.fw =
        .ok (some .retry, lostExitState.fw) :=
      processMessage_retry_iff.mpr ⟨by decide +kernel, rfl⟩
    obtain ⟨response, after, ran, idle, -⟩ := kept.exit _ task rfl granted
    rw [retried] at ran
    obtain ⟨-, rfl⟩ := Prod.ext_iff.mp (Except.ok.inj ran)
    rw [granted] at idle
    cases idle

end Sys

end WavLpddr
