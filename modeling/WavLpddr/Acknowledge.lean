import WavLpddr.Queue

/-!
# The request lines and their acknowledge interrupts

An acknowledge interrupt is enabled with its request and disabled when it is taken or the
request is aborted.  An acknowledgement that was reported for an aborted request may
still be in the queue; when it completes the next request, that request's interrupt stays
enabled.
-/

namespace WavLpddr

open EventMachine TransitionSystem

/-- Acknowledge interrupts are enabled only while their request waits. -/
structure Fw.AckSound (fw : Fw) : Prop where
  phyupd : fw.wddr.irq.enabled .phyupdAck = true → fw.dfi = .phyUpd
  phymstr : fw.wddr.irq.enabled .phymstrAck = true → fw.dfi = .phyMstrPending

/-- An acknowledgement that ends the wait of a request was reported for that request: the
interrupt that reported it is disabled. -/
def Fw.FreshAck (fw : Fw) (event : FwPhyEvent) : Prop :=
  (event = .phyupdAck → fw.dfi = .phyUpd → fw.wddr.irq.enabled .phyupdAck = false) ∧
    (event = .phymstrAck → fw.dfi = .phyMstrPending →
      fw.wddr.irq.enabled .phymstrAck = false)

instance (fw : Fw) (event : FwPhyEvent) : Decidable (fw.FreshAck event) :=
  inferInstanceAs (Decidable ((_ → _) ∧ (_ → _)))

section Handlers

theorem Fw.AckSound.disabled {fw : Fw} (sound : fw.AckSound) {state : DfiState}
    (inState : fw.dfi = state) :
    (state ≠ .phyUpd → fw.wddr.irq.enabled .phyupdAck = false) ∧
      (state ≠ .phyMstrPending → fw.wddr.irq.enabled .phymstrAck = false) := by
  subst inState
  constructor
  · intro other
    exact Bool.eq_false_iff.mpr fun enabled => other (sound.phyupd enabled)
  · intro other
    exact Bool.eq_false_iff.mpr fun enabled => other (sound.phymstr enabled)

theorem Fw.ackSound_of_disabled {fw : Fw} (phyupd : fw.wddr.irq.enabled .phyupdAck = false)
    (phymstr : fw.wddr.irq.enabled .phymstrAck = false) : fw.AckSound := by
  constructor
  · rw [phyupd]
    exact fun enabled => nomatch enabled
  · rw [phymstr]
    exact fun enabled => nomatch enabled

theorem Fw.AckSound.of_same {before after : Fw} (sound : before.AckSound)
    (dfi : after.dfi = before.dfi)
    (phyupd : after.wddr.irq.enabled .phyupdAck = true →
      before.wddr.irq.enabled .phyupdAck = true)
    (phymstr : after.wddr.irq.enabled .phymstrAck = true →
      before.wddr.irq.enabled .phymstrAck = true) : after.AckSound where
  phyupd enabled := dfi.trans (sound.phyupd (phyupd enabled))
  phymstr enabled := dfi.trans (sound.phymstr (phymstr enabled))

variable [KernelIo] [BuildConfig]

theorem Fw.AckSound.abortPhyMstr {fw : Fw} (sound : fw.AckSound)
    (pending : fw.dfi = .phyMstrPending) : fw.abortPhyMstr.AckSound := by
  have disabled := sound.disabled pending
  apply Fw.ackSound_of_disabled
  · simpa [Fw.abortPhyMstr, Irq.disableIrq] using disabled.1 (by simp)
  · simp [Fw.abortPhyMstr, Irq.disableIrq]

omit [BuildConfig] in
theorem Fw.AckSound.abortPhyUpd {fw : Fw} (sound : fw.AckSound)
    (updating : fw.dfi = .phyUpd) : fw.abortPhyUpd.AckSound := by
  have disabled := sound.disabled updating
  apply Fw.ackSound_of_disabled
  · simp [Fw.abortPhyUpd, Irq.disableIrq]
  · simpa [Fw.abortPhyUpd, Irq.disableIrq] using disabled.2 (by simp)

theorem DfiStep.ackSound {data : MsgData} {fw after : Fw} {event : FwPhyEvent}
    (step : DfiStep data fw event after) (sound : fw.AckSound) (fresh : fw.FreshAck event) :
    after.AckSound := by
  cases step with
  | ignored => exact sound
  | phymstrReq idle =>
      have disabled := sound.disabled idle
      constructor
      · intro enabled
        simp [Fw.enterPhyMstrPending, Irq.enableIrq, disabled] at enabled
      · exact fun _ => rfl
  | phyupdReq idle =>
      have disabled := sound.disabled idle
      constructor
      · exact fun _ => rfl
      · intro enabled
        simp [Fw.enterPhyUpd, Irq.enableIrq, disabled] at enabled
  | ctrlupdAssert idle entered =>
      obtain ⟨zqcal, phy, rfl⟩ := Fw.eq_of_enterCtrlUpd entered
      have disabled := sound.disabled idle
      exact Fw.ackSound_of_disabled (disabled.1 (by simp)) (disabled.2 (by simp))
  | phymstrAck pending =>
      have disabled := sound.disabled pending
      exact Fw.ackSound_of_disabled (disabled.1 (by simp)) (fresh.2 rfl pending)
  | phymstrAbort pending => exact sound.abortPhyMstr pending
  | phymstrExit granted =>
      have disabled := sound.disabled granted
      exact Fw.ackSound_of_disabled (disabled.1 (by simp)) (disabled.2 (by simp))
  | phyupdAck updating finished =>
      obtain ⟨update, rfl⟩ := Fw.eq_of_finishPhyUpd finished
      have disabled := sound.disabled updating
      exact Fw.ackSound_of_disabled (fresh.1 rfl updating) (disabled.2 (by simp))
  | phyupdAbort updating => exact sound.abortPhyUpd updating
  | ctrlupdDeassert updating =>
      have disabled := sound.disabled updating
      exact Fw.ackSound_of_disabled (disabled.1 (by simp)) (disabled.2 (by simp))

theorem Fw.AckSound.enterPending {fw : Fw} (sound : fw.AckSound) :
    fw.enterPending.AckSound := by
  have sent : fw.sendPrepared.AckSound := sound.of_same rfl id id
  have released : fw.beforeRelease.AckSound := by
    unfold Fw.beforeRelease
    split
    · rename_i updating
      exact sent.abortPhyUpd updating
    · rename_i pending
      exact sent.abortPhyMstr pending
    · exact sent
  exact released.of_same rfl id id

variable [Device]

omit [BuildConfig] in
/-- A preparation enables no other interrupt than that of the switch request. -/
theorem Fw.enabled_prepared (freqId : UInt8) (current : VcoIndex) (fw : Fw) {line : IrqLine}
    (notStart : line ≠ .initStart) :
    (fw.prepared freqId current).wddr.irq.enabled line = fw.wddr.irq.enabled line := by
  simp [Fw.prepared, Wddr.announced, Wddr.preparedFor, Irq.enableIrq, Irq.disableIrq, notStart]

omit [BuildConfig] [Device] in
theorem Fw.enabled_unprepared (fw : Fw) {line : IrqLine} (notStart : line ≠ .initStart) :
    fw.unprepared.wddr.irq.enabled line = fw.wddr.irq.enabled line := by
  simp [Fw.unprepared, Wddr.announced, Irq.enableIrq, Irq.disableIrq, notStart]

theorem FswStep.ackSound {data : MsgData} {fw after : Fw} {event : FwPhyEvent}
    {current : VcoIndex} (step : FswStep data fw event after) (sound : fw.AckSound)
    (device : fw.DeviceSound current) : after.AckSound := by
  cases step with
  | ignored => exact sound
  | prep inPrep prepared =>
      rcases Fw.eq_of_prepareSwitch device.sound prepared with ⟨-, rfl⟩ | ⟨-, -, rfl⟩
      · apply sound.of_same (fw.prepared_dfi _ _)
        · rw [fw.enabled_prepared _ _ (by simp)]
          exact id
        · rw [fw.enabled_prepared _ _ (by simp)]
          exact id
      · have sameDfi : fw.unprepared.dfi = fw.dfi := rfl
        apply sound.of_same sameDfi
        · rw [fw.enabled_unprepared (by simp)]
          exact id
        · rw [fw.enabled_unprepared (by simp)]
          exact id
  | initStart inPrep => exact sound.enterPending
  | pllLock pending => exact sound.of_same rfl id id

omit [BuildConfig] [Device] in
/-- BOOT is taken with both interrupts disabled and leaves them so. -/
theorem Fw.AckSound.finishStart {fw : Fw} {current : VcoIndex} {booted : WddrReturn × Wddr}
    (sound : fw.AckSound) (ends : Wddr.BootEnds fw.wddr current booted) :
    (fw.finishStart booted).2.AckSound := by
  have dfi := (fw.finishStart_frame booted).2.2
  have enabled : ∀ line, line ≠ .initStart → line ≠ .initComplete → line ≠ .ctrlupdReq →
      (fw.finishStart booted).2.wddr.irq.enabled line = fw.wddr.irq.enabled line := by
    intro line notStart notComplete notUpdate
    have released : booted.2.released.irq.enabled line = booted.2.irq.enabled line := by
      simp [Wddr.released, Irq.disableIrq, notUpdate]
    unfold Fw.finishStart
    rcases ends with ⟨succeeded, handed, -⟩ | ⟨failed, quiet, -⟩
    · have kept := released.trans (handed.otherIrqs line notStart notComplete)
      rw [if_neg (not_not_intro succeeded)]
      split
      · exact kept
      · exact kept
    · rw [if_pos failed]
      exact congrArg (fun irq => irq.enabled line) quiet.irq
  apply sound.of_same dfi
  · rw [enabled .phyupdAck (by simp) (by simp) (by simp)]
    exact id
  · rw [enabled .phymstrAck (by simp) (by simp) (by simp)]
    exact id

theorem Handled.ackSound {data : MsgData} {fw after : Fw} {event : FwPhyEvent}
    {response : FwResponse} {current : VcoIndex} (ran : Handled data fw event response after)
    (sound : fw.AckSound) (device : fw.DeviceSound current)
    (fresh : fw.Running → fw.fsw ≠ .pending → fw.FreshAck event) : after.AckSound := by
  cases ran with
  | refused => exact sound
  | start notReady boots =>
      have aligned := fun isBooted => device.aligned isBooted notReady
      have ends := (Wddr.wddrBoot_ends device.sound aligned fw.hw _).good_of_ok boots
      exact sound.finishStart ends
  | dfi _ running admitted step => exact step.ackSound sound (fresh running admitted)
  | fsw _ _ _ step => exact step.ackSound sound device

end Handlers

namespace Sys

section Requests

variable [Platform]

/-- The request lines, the acknowledge interrupts and the states they belong to. -/
structure RequestsSound (sys : Sys) : Prop where
  phyupd : phyupdAsserted sys.fw.wddr.dfi ↔ sys.fw.dfi = .phyUpd
  phymstr : phymstrAsserted sys.fw.wddr.dfi ↔
    sys.fw.dfi = .phyMstrPending ∨ sys.fw.dfi = .phyMstr
  exclusive : ¬ (phyupdAsserted sys.fw.wddr.dfi ∧ phymstrAsserted sys.fw.wddr.dfi)
  phyupdAck : sys.fw.wddr.irq.enabled .phyupdAck = true → sys.fw.dfi = .phyUpd
  phymstrAck : sys.fw.wddr.irq.enabled .phymstrAck = true → sys.fw.dfi = .phyMstrPending
  pending : sys.fw.fsw = .pending → sys.fw.dfi = .idle ∨ sys.fw.dfi = .phyMstr

/-- An acknowledgement that the DFI machine takes is handled with its interrupt disabled. -/
def AcksFresh : StepCondition Sys Label := fun label sys =>
  ¬ Handles label sys fun msg => sys.fw.Running ∧ sys.fw.fsw ≠ .pending ∧
    ((msg.Is .phyupdAck ∧ sys.fw.dfi = .phyUpd ∧
        sys.fw.wddr.irq.enabled .phyupdAck = true) ∨
      (msg.Is .phymstrAck ∧ sys.fw.dfi = .phyMstrPending ∧
        sys.fw.wddr.irq.enabled .phymstrAck = true))

instance (label : Label) (sys : Sys) : Decidable (AcksFresh label sys) :=
  inferInstanceAs (Decidable (¬ _))

omit [Platform] in
theorem AcksFresh.freshAck {sys : Sys} {msg : FwMsg} {event : FwPhyEvent}
    (fresh : AcksFresh .process sys) (task : sys.fwTask = .process msg)
    (decoded : FwPhyEvent.ofCode? msg.event = some event) (running : sys.fw.Running)
    (admitted : sys.fw.fsw ≠ .pending) : sys.fw.FreshAck event := by
  have isEvent : msg.Is event := FwPhyEvent.ofCode?_eq_some_iff.mp decoded
  unfold AcksFresh at fresh
  rw [handles_process task] at fresh
  constructor
  · rintro rfl updating
    apply Bool.eq_false_iff.mpr
    intro enabled
    exact fresh ⟨running, admitted, .inl ⟨isEvent, updating, enabled⟩⟩
  · rintro rfl pending
    apply Bool.eq_false_iff.mpr
    intro enabled
    exact fresh ⟨running, admitted, .inr ⟨isEvent, pending, enabled⟩⟩

theorem ackSound_of_reachableWhere {sys : Sys}
    (reachable : system.ReachableWhere AcksFresh sys) : sys.fw.AckSound := by
  apply reachable.invariant (motive := fun sys => sys.fw.AckSound)
  · rintro _ ⟨table, reset, hw, timerStarts, -, -, rfl⟩
    have disabled := (Wddr.wddrInit_irq reset table).2
    exact Fw.ackSound_of_disabled disabled.1 disabled.2
  · intro label sys next before fresh taken sound
    by_cases isProcess : label = .process
    · subst isProcess
      obtain ⟨current, device⟩ := deviceSound_of_reachable before.reachable
      obtain ⟨msg, task, step⟩ := processStep_of_taken taken
      cases step with
      | unknown => exact sound
      | failed => exact sound
      | answered decoded ran =>
          rw [answered_fw]
          exact ran.ackSound sound device fun running admitted =>
            fresh.freshAck task decoded running admitted
    · have effect := (otherStep_of_taken taken isProcess).effect
      exact sound.of_same effect.sameControl.dfi (effect.shrinks.enabled _)
        (effect.shrinks.enabled _)

/-- As long as no stale acknowledgement ends a request, the lines and the acknowledge
interrupts follow the DFI machine. -/
theorem requestsSound_of_reachableWhere {sys : Sys}
    (reachable : system.ReachableWhere AcksFresh sys) : sys.RequestsSound := by
  have lines := linesSound_of_reachable reachable.reachable
  have acks := ackSound_of_reachableWhere reachable
  exact ⟨lines.lines.phyupd, lines.lines.phymstr, lines.lines.exclusive, acks.phyupd,
    acks.phymstr, lines.pending⟩

end Requests

/-- The timer asks for an update. -/
def timerRequest : List Label := [.timerExpire, .timerSend]

/-- The controller acknowledges the update, and its interrupt is taken. -/
def phyupdAckIrq : List Label := [.raise .phyupdAck, .isr .phyupdAck .null none []]

/-- An update request waits for the controller. -/
theorem requestsSound_updating :
    @RequestsSound referencePlatform
      (afterWhere AcksFresh (bootRun ++ timerRequest ++ handleNext) (by decide +kernel)) :=
  @requestsSound_of_reachableWhere referencePlatform _ (reachable_afterWhere _)

/-- A request is aborted with its acknowledgement in the queue, and the next request is
completed by it. -/
def staleAckState : Sys :=
  after (bootRun ++ prepRun 0 ++ hostPrep 1 ++ initStartIrq ++ handleNext ++ handleNext ++
    pllLockIrq ++ timerRequest ++ initStartIrq ++ pllLockIrq ++ timerRequest ++ handleNext ++
    handleNext ++ phyupdAckIrq ++ handleNext ++ handleNext ++ handleNext ++ handleNext)
    (by decide +kernel)

/-- The acknowledge interrupt stays enabled while the DFI machine is idle. -/
theorem not_requestsSound_staleAck :
    referenceSystem.Reachable staleAckState ∧
      ¬ @RequestsSound referencePlatform staleAckState := by
  constructor
  · exact reachable_after _
  · intro sound
    let := referencePlatform
    exact absurd (sound.phyupdAck (by decide +kernel)) (by decide +kernel)

end Sys

end WavLpddr
