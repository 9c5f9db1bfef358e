import WavLpddr.HostOrder
import WavLpddr.PrepAnswer

/-!
# What a step does to a switch

A preparation arms the switch request, its interrupt puts INIT_START into the queue and
disarms it, INIT_START makes the switch pending and the PLL's lock completes it.  Every
other step leaves the handshake alone.
-/

namespace WavLpddr

open EventMachine TransitionSystem

section Frames

variable [KernelIo]

/-- What belongs to the handshake of a switch agrees, and the request is not armed. -/
structure Fw.SameSwitch (before after : Fw) : Prop where
  fsw : after.fsw = before.fsw
  pVcoNext : after.wddr.pll.pVcoNext = before.wddr.pll.pVcoNext
  prepDone : prepDone after.wddr.fsw ↔ prepDone before.wddr.fsw
  armed : after.wddr.irq.armed = true → before.wddr.irq.armed = true

theorem Fw.SameSwitch.refl (fw : Fw) : fw.SameSwitch fw :=
  ⟨rfl, rfl, Iff.rfl, fun armed => armed⟩

omit [KernelIo] in
theorem Irq.armed_congr {before after : Irq} (mask : after.mask = before.mask)
    (enabled : after.enabled .initStart = before.enabled .initStart) :
    after.armed = before.armed := by
  simp [Irq.armed, mask, enabled]

theorem Fw.DfiFrame.sameSwitch {before after : Fw} (frame : before.DfiFrame after) :
    before.SameSwitch after where
  fsw := frame.fsw
  pVcoNext := by rw [frame.pll]
  prepDone := by rw [frame.switch]
  armed armed := by
    rwa [Irq.armed_congr frame.mask (frame.enabled .initStart (by simp) (by simp))] at armed

omit [KernelIo] in
/-- A handler that disables the switch request leaves it disarmed. -/
theorem Irq.not_armed_of_disabled {irq : Irq} (disabled : irq.enabled .initStart = false) :
    irq.armed = false := by
  simp [Irq.armed, disabled]

theorem Irq.armed_of_interruptible {fw : Fw} (interruptible : fw.interruptible .initStart = true) :
    fw.wddr.irq.armed = true := by
  simp only [Fw.interruptible, Bool.and_eq_true, Irq.pending, Irq.sources, List.any_cons,
    List.any_nil, Bool.or_false] at interruptible
  simp [Irq.armed, interruptible]

variable [BuildConfig]

theorem Fw.armed_enterPending (fw : Fw) :
    fw.enterPending.wddr.irq.armed = fw.wddr.irq.armed := by
  have frame := fw.fswFrame_enterPending
  have released : fw.enterPending.wddr.irq = fw.beforeRelease.wddr.irq := rfl
  have sent : fw.sendPrepared.wddr.irq = fw.wddr.irq := rfl
  apply Irq.armed_congr frame.mask
  rw [released, ← sent]
  unfold Fw.beforeRelease
  split
  · exact fw.sendPrepared.dfiFrame_abortPhyUpd.enabled .initStart (by simp) (by simp)
  · exact fw.sendPrepared.dfiFrame_abortPhyMstr.enabled .initStart (by simp) (by simp)
  · rfl

theorem Fw.prepDone_enterPending (fw : Fw) :
    prepDone fw.enterPending.wddr.fsw ↔ prepDone fw.wddr.fsw := by
  have released : fw.enterPending.wddr.fsw = fw.beforeRelease.wddr.fsw := rfl
  have sent : fw.sendPrepared.wddr.fsw =
      fswCtrlSetPostWorkDoneRegIf true false fw.wddr.fsw := rfl
  have kept : fw.beforeRelease.wddr.fsw = fw.sendPrepared.wddr.fsw := by
    unfold Fw.beforeRelease
    split
    · exact fw.sendPrepared.dfiFrame_abortPhyUpd.switch
    · exact fw.sendPrepared.dfiFrame_abortPhyMstr.switch
    · rfl
  rw [released, kept, sent, prepDone_setPostWorkDone]

theorem Fw.pVcoNext_enterPending (fw : Fw) :
    fw.enterPending.wddr.pll.pVcoNext = fw.wddr.pll.pVcoNext := by
  rw [fw.enterPending_pll]
  rfl

omit [BuildConfig] in
theorem Fw.armed_finishSwitch (fw : Fw) :
    fw.finishSwitch.wddr.irq.armed = fw.wddr.irq.armed := rfl

end Frames

namespace Sys

variable [Platform]

/-- The INIT_START messages in flight. -/
def starts (sys : Sys) : Nat := sys.inFlight.countP fun msg => msg.Is .initStart

/-- The step takes the interrupt of the switch request. -/
def isSwitchIrq : Label → Bool
  | .isr .initStart _ _ _ => true
  | _ => false

/-- What a step does to a switch. -/
inductive SwitchMove (sys : Sys) (label : Label) (next : Sys) : Prop
  | kept (notIrq : isSwitchIrq label = false)
      (same : sys.fw.SameSwitch next.fw) (starts : next.starts = sys.starts)
  | started (isIrq : isSwitchIrq label = true) (same : sys.fw.SameSwitch next.fw)
      (wasArmed : sys.fw.wddr.irq.armed = true) (disarmed : next.fw.wddr.irq.armed = false)
      (starts : next.starts = sys.starts + if sys.fw.mq.length < msgQueueLen then 1 else 0)
  | booted (isProcess : label = .process) (notReady : sys.fw.ready = false)
      (fsw : next.fw.fsw = sys.fw.fsw)
      (armed : sys.fw.wddr.irq.armed = false → next.fw.wddr.irq.armed = false)
      (starts : next.starts = sys.starts)
  | missed (isStart : Handles label sys (FwMsg.Is .initStart)) (same : next.fw = sys.fw)
      (reason : ¬ sys.fw.Running ∨ sys.fw.dfi = .ctrlUpd ∨ sys.fw.fsw ≠ .prep)
      (starts : next.starts + 1 = sys.starts)
  | prepared {msg : FwMsg} {current : VcoIndex} (isProcess : label = .process)
      (task : sys.fwTask = .process msg) (isPrep : msg.Is .prep) (running : sys.fw.Running)
      (admitted : sys.fw.dfi ≠ .ctrlUpd) (inPrep : sys.fw.fsw = .prep)
      (valid : sys.fw.wddr.table.validFreq msg.data.freqId = true)
      (becomes : next.fw = sys.fw.prepared msg.data.freqId current)
      (starts : next.starts = sys.starts)
  | unchecked {msg : FwMsg} (isProcess : label = .process)
      (task : sys.fwTask = .process msg) (isPrep : msg.Is .prep) (running : sys.fw.Running)
      (admitted : sys.fw.dfi ≠ .ctrlUpd) (inPrep : sys.fw.fsw = .prep)
      (invalid : sys.fw.wddr.table.validFreq msg.data.freqId = false)
      (notAsserted : BuildConfig.configAssert = false)
      (becomes : next.fw = sys.fw.unprepared) (starts : next.starts = sys.starts)
  | entered (isStart : Handles label sys (FwMsg.Is .initStart)) (running : sys.fw.Running)
      (admitted : sys.fw.dfi ≠ .ctrlUpd) (inPrep : sys.fw.fsw = .prep)
      (becomes : next.fw = sys.fw.enterPending) (starts : next.starts + 1 = sys.starts)
  | finished (isLock : Handles label sys (FwMsg.Is .pllLock)) (running : sys.fw.Running)
      (pending : sys.fw.fsw = .pending) (becomes : next.fw = sys.fw.finishSwitch)
      (starts : next.starts = sys.starts)

omit [Platform] in
theorem starts_of_task {sys : Sys} {msg : FwMsg} (task : sys.fwTask = .process msg) :
    sys.starts = sys.fw.mq.countP (fun msg => msg.Is .initStart) +
      if msg.Is .initStart then 1 else 0 := by
  simp only [starts, inFlight, task, List.countP_cons, decide_eq_true_eq]

omit [Platform] in
/-- A preparation that is handled leaves the INIT_START messages behind it. -/
theorem starts_of_prep {sys : Sys} {msg : FwMsg} (task : sys.fwTask = .process msg)
    (isPrep : msg.Is .prep) :
    sys.starts = sys.fw.mq.countP fun msg => msg.Is .initStart := by
  have notStart : ¬ msg.Is .initStart := by
    intro isStart
    have same : FwPhyEvent.prep.code = FwPhyEvent.initStart.code := isPrep.symm.trans isStart
    exact absurd same (by decide)
  rw [starts_of_task task, if_neg notStart, Nat.add_zero]

omit [Platform] in
theorem starts_answered {sys : Sys} {msg : FwMsg} {event : FwPhyEvent} {response : FwResponse}
    {after : Fw} (task : sys.fwTask = .process msg)
    (decoded : FwPhyEvent.ofCode? msg.event = some event) (sameMq : after.mq = sys.fw.mq) :
    sys.starts = (sys.answered msg response after).starts +
      if event = .initStart then 1 else 0 := by
  have isEvent : msg.Is .initStart ↔ event = .initStart := by
    rw [FwMsg.Is, ← FwPhyEvent.ofCode?_eq_some_iff, decoded, Option.some.injEq]
  rw [starts_of_task task]
  simp only [isEvent]
  simp [starts, inFlight, sameMq]

theorem switchMove_answered {sys : Sys} {msg : FwMsg} {event : FwPhyEvent}
    {response : FwResponse} {after : Fw} {current : VcoIndex}
    (device : sys.fw.DeviceSound current) (task : sys.fwTask = .process msg)
    (decoded : FwPhyEvent.ofCode? msg.event = some event)
    (ran : Handled msg.data sys.fw event response after) :
    SwitchMove sys .process (sys.answered msg response after) := by
  have starts : sys.starts = (sys.answered msg response after).starts +
      if event = .initStart then 1 else 0 := starts_answered task decoded (ran.mq device)
  have isEvent := FwPhyEvent.ofCode?_eq_some_iff.mp decoded
  have unmoved : event ≠ .initStart → sys.fw.SameSwitch after →
      SwitchMove sys .process (sys.answered msg response after) := by
    intro notStart same
    rw [if_neg notStart] at starts
    exact .kept rfl (by rw [answered_fw]; exact same) starts.symm
  have missed : event = .initStart → after = sys.fw →
      (¬ sys.fw.Running ∨ sys.fw.dfi = .ctrlUpd ∨ sys.fw.fsw ≠ .prep) →
      SwitchMove sys .process (sys.answered msg response after) := by
    intro isStart same reason
    rw [if_pos isStart] at starts
    exact .missed ((handles_process task).mpr (isStart ▸ isEvent)) (by rw [answered_fw, same])
      reason starts.symm
  cases ran with
  | refused refusal =>
      by_cases isStart : event = .initStart
      · subst isStart
        apply missed rfl rfl
        rcases Fw.refusal_isSome refusal with notRunning | updating
        · exact .inl notRunning
        · exact .inr (.inl updating)
      · exact unmoved isStart (.refl _)
  | @start calibrate trainDram booted notReady boots =>
      have aligned := fun isBooted => device.aligned isBooted notReady
      have ends := (Wddr.wddrBoot_ends device.sound aligned sys.fw.hw _).good_of_ok boots
      refine .booted rfl notReady ?_ ?_ (by simpa using starts.symm)
      · rw [answered_fw]
        exact (sys.fw.finishStart_frame _).2.1
      · rw [answered_fw]
        intro notArmed
        unfold Fw.finishStart
        rcases ends with ⟨succeeded, handed, -⟩ | ⟨failed, quiet, -⟩
        · have bootedNotArmed := handed.notArmed notArmed
          have released : booted.2.released.irq.armed = booted.2.irq.armed :=
            Irq.armed_congr rfl (by simp [Wddr.released, Irq.disableIrq])
          rw [if_neg (not_not_intro succeeded)]
          split
          · exact released.trans bootedNotArmed
          · exact released.trans bootedNotArmed
        · rw [if_pos failed]
          exact quiet.irq ▸ notArmed
  | dfi kind _ _ step =>
      apply unmoved _ step.frame.sameSwitch
      rintro rfl
      cases kind
  | fsw _ running admitted step =>
      cases step with
      | ignored unmatched =>
          by_cases isStart : event = .initStart
          · apply missed isStart rfl
            right; right
            intro inPrep
            simp [isStart, inPrep, FswState.takes] at unmatched
          · exact unmoved isStart (.refl _)
      | prep inPrep prepared =>
          have sameStarts := starts.symm
          rcases Fw.eq_of_prepareSwitch device.sound prepared with
            ⟨valid, becomes⟩ | ⟨invalid, notAsserted, becomes⟩
          · exact .prepared rfl task isEvent running admitted inPrep valid
              (by rw [answered_fw, becomes]) sameStarts
          · exact .unchecked rfl task isEvent running admitted inPrep invalid notAsserted
              (by rw [answered_fw, becomes]) sameStarts
      | initStart inPrep =>
          exact .entered ((handles_process task).mpr isEvent) running admitted inPrep
            (answered_fw _ _ _ _) starts.symm
      | pllLock pending =>
          exact .finished ((handles_process task).mpr isEvent) running pending
            (answered_fw _ _ _ _) starts.symm

theorem Arrives.initStart {sys : Sys} {label : Label} {msg : FwMsg}
    (arrives : Arrives sys label msg) (isStart : msg.Is .initStart) :
    isSwitchIrq label = true ∧ sys.fw.wddr.irq.armed = true := by
  obtain ⟨line, data, xSender, late, isIsr, listed, interruptible⟩ :=
    arrives.interruptible isStart (by decide)
  obtain rfl : line = .initStart := IrqLine.eq_of_mem_events listed (by decide)
  subst isIsr
  exact ⟨rfl, Irq.armed_of_interruptible interruptible⟩

theorem starts_of_adds {sys next : Sys} {label : Label}
    (adds : Fw.Adds sys.inFlight next.inFlight (Arrives sys label))
    (notIrq : isSwitchIrq label = false) :
    next.starts = sys.starts := by
  rcases adds with same | ⟨last, arrives, added⟩
  · rw [starts, same, starts]
  · have notStart : ¬ last.Is .initStart := by
      intro isStart
      rw [(arrives.initStart isStart).1] at notIrq
      cases notIrq
    rw [starts, added, List.countP_append, List.countP_singleton]
    simp [starts, notStart]

theorem isr_of_taken {line : IrqLine} {data : MsgData} {xSender : Option TaskHandle}
    {late : List CtrlupdEdge} {sys next : Sys}
    (taken : system.step (.isr line data xSender late) sys = some next) :
    sys.fw.interruptible line = true ∧
      next = sys.withFw (sys.fw.runIsr line data xSender late) := by
  obtain ⟨-, taken⟩ := stepRunning_of_taken taken
  simp only [stepRunning, stepIsr] at taken
  split at taken
  · rename_i interruptible
    exact ⟨interruptible, (Option.some.inj taken).symm⟩
  · cases taken

omit [Platform] in
theorem starts_runIsr [KernelIo] (data : MsgData) (xSender : Option TaskHandle)
    (late : List CtrlupdEdge) (sys : Sys) :
    (sys.withFw (sys.fw.runIsr .initStart data xSender late)).starts =
      sys.starts + if sys.fw.mq.length < msgQueueLen then 1 else 0 := by
  have reported : (sys.fw.runIsr .initStart data xSender late).mq =
      if sys.fw.mq.length < msgQueueLen then
        sys.fw.mq ++ [⟨FwPhyEvent.initStart.code, .null, none⟩] else sys.fw.mq :=
    Fw.sendToBack_mq _ _
  have isStart : FwMsg.Is .initStart ⟨FwPhyEvent.initStart.code, .null, none⟩ := rfl
  have flight : (sys.withFw (sys.fw.runIsr .initStart data xSender late)).inFlight =
      if sys.fw.mq.length < msgQueueLen then
        sys.inFlight ++ [⟨FwPhyEvent.initStart.code, .null, none⟩] else sys.inFlight := by
    unfold inFlight withFw
    dsimp only
    rw [reported]
    by_cases room : sys.fw.mq.length < msgQueueLen
    · simp only [if_pos room]
      cases sys.fwTask <;> rfl
    · simp only [if_neg room]
  rw [starts, flight]
  split
  · rw [List.countP_append, List.countP_singleton, decide_eq_true isStart, starts]
    rfl
  · rfl

/-- What every step does to a switch. -/
theorem switchMove_of_taken {label : Label} {sys next : Sys}
    (reachable : system.Reachable sys) (taken : system.step label sys = some next) :
    SwitchMove sys label next := by
  by_cases isProcess : label = .process
  · subst isProcess
    obtain ⟨current, device⟩ := deviceSound_of_reachable reachable
    obtain ⟨msg, task, step⟩ := processStep_of_taken taken
    cases step with
    | unknown undecoded =>
        refine .kept rfl (.refl _) ?_
        have notStart : ¬ msg.Is .initStart := by
          intro isStart
          rw [FwPhyEvent.ofCode?_eq_some_iff.mpr isStart] at undecoded
          cases undecoded
        rw [starts_of_task task, if_neg notStart]
        rfl
    | failed => exact .kept rfl (.refl _) rfl
    | answered decoded ran => exact switchMove_answered device task decoded ran
  · have other := otherStep_of_taken taken isProcess
    have control := other.effect.sameControl
    have same : sys.fw.SameSwitch next.fw :=
      ⟨control.fsw, control.device.vcos.pVcoNext, by rw [control.switch],
        other.effect.shrinks.armed⟩
    cases irq : isSwitchIrq label with
    | false =>
        exact .kept irq same (starts_of_adds (inFlight_of_other taken isProcess) irq)
    | true =>
        obtain ⟨data, xSender, late, rfl⟩ :
            ∃ data xSender late, label = .isr .initStart data xSender late := by
          unfold isSwitchIrq at irq
          split at irq
          · exact ⟨_, _, _, rfl⟩
          · cases irq
        obtain ⟨interruptible, rfl⟩ := isr_of_taken taken
        have wasArmed := Irq.armed_of_interruptible interruptible
        have disarmed := Irq.not_armed_of_disabled (Fw.disabled_runIsr rfl data xSender late sys.fw)
        exact .started rfl same wasArmed disarmed (starts_runIsr data xSender late sys)

/-- A switch is under way or may be started. -/
def SwitchStarting (sys : Sys) : Prop :=
  sys.fw.wddr.irq.armed = true ∨ 0 < sys.starts ∨ sys.fw.fsw = .pending

theorem not_starting_of_initial {sys : Sys} (starts : system.initial sys) :
    ¬ sys.SwitchStarting := by
  obtain ⟨table, reset, hw, timerStarts, -, -, rfl⟩ := starts
  rintro (armed | started | pending)
  · change (reset.wddrInit table).irq.armed = true at armed
    rw [(Wddr.wddrInit_irq reset table).1] at armed
    cases armed
  · exact absurd started (Nat.lt_irrefl 0)
  · cases pending

/-- A preparation that its machine takes finds the way free: no controller update can stand
behind it. -/
theorem switchOpen_of_prep {sys : Sys} {msg : FwMsg} (reachable : system.Reachable sys)
    (task : sys.fwTask = .process msg) (isPrep : msg.Is .prep) (running : sys.fw.Running)
    (admitted : sys.fw.dfi ≠ .ctrlUpd) : sys.SwitchOpen := by
  refine ⟨running, admitted, ?_⟩
  have ordered := (hostSound_of_reachable reachable).ordered
  intro other listed isUpdate
  rw [inFlight, task] at ordered listed
  rcases List.mem_cons.mp listed with rfl | behind
  · have same : FwPhyEvent.prep.code = FwPhyEvent.ctrlupdAssert.code :=
      isPrep.symm.trans isUpdate
    exact absurd same (by decide)
  · exact (List.pairwise_cons.mp ordered).1 other behind isPrep isUpdate

/-- While a switch is under way or may be started, the firmware can carry it out. -/
theorem switchOpen_of_starting {sys : Sys} (reachable : system.Reachable sys)
    (starting : sys.SwitchStarting) : sys.SwitchOpen := by
  revert starting
  apply reachable.invariant (motive := fun sys => sys.SwitchStarting → sys.SwitchOpen)
  · exact fun sys starts starting => absurd starting (not_starting_of_initial starts)
  · intro label sys next before _ taken inductionHypothesis starting
    suffices isOpen : sys.SwitchOpen from isOpen.of_taken before taken
    cases switchMove_of_taken before taken with
    | kept _ same starts =>
        apply inductionHypothesis
        rcases starting with armed | started | pending
        · exact .inl (same.armed armed)
        · exact .inr (.inl (starts ▸ started))
        · exact .inr (.inr (same.fsw ▸ pending))
    | started _ _ wasArmed => exact inductionHypothesis (.inl wasArmed)
    | booted _ notReady fsw armed starts =>
        have notStarting : ¬ sys.SwitchStarting := by
          intro starting
          have ready := (inductionHypothesis starting).running.1
          simp [notReady] at ready
        simp only [SwitchStarting, not_or, Bool.not_eq_true] at notStarting
        obtain ⟨notArmed, noStart, notPending⟩ := notStarting
        rcases starting with nextArmed | started | pending
        · rw [armed notArmed] at nextArmed
          cases nextArmed
        · rw [starts] at started
          exact absurd started noStart
        · rw [fsw] at pending
          exact absurd pending notPending
    | missed isStart same reason starts =>
        apply inductionHypothesis
        right; left
        omega
    | prepared _ task isPrep running admitted =>
        exact switchOpen_of_prep before task isPrep running admitted
    | unchecked _ task isPrep running admitted =>
        exact switchOpen_of_prep before task isPrep running admitted
    | entered isStart running admitted inPrep becomes starts =>
        apply inductionHypothesis
        right; left
        omega
    | finished _ _ pending => exact inductionHypothesis (.inr (.inr pending))

end Sys

end WavLpddr
