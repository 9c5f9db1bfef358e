import WavLpddr.ControllerUpdate
import WavLpddr.OneShot

/-!
# Causes of an interrupt

A handler clears every cause that is latched and reports the first that it found.  Nothing
is lost exactly when it clears at most one cause, which it found, and the queue has room for
the event.  In a run where this holds of every interrupt, a lock that is observed completes
the pending switch, and a controller update that is begun and ended leaves the DFI machine
where it was.
-/

namespace WavLpddr

open EventMachine TransitionSystem

namespace Fw

/-- The causes in a status word of the PLL, as the events that report them. -/
def pllCauses (status : Word) : List FwPhyEvent :=
  ([(ddrMvpPllCoreStatusIntLossOfLock, FwPhyEvent.pllLossLock),
    (ddrMvpPllCoreStatusIntCoreLocked, FwPhyEvent.pllLock),
    (ddrMvpPllCoreStatusIntInitialSwitchDone, FwPhyEvent.pllInitLock)].filter
      fun cause => status &&& cause.1.mask ≠ 0).map Prod.snd

/-- The causes that the handler of a line finds, as the events that report them. -/
def causes (line : IrqLine) (fw : Fw) : List FwPhyEvent :=
  match line with
  | .pll => pllCauses fw.wddr.pll.statusInt
  | line =>
      (((Irq.sources line).zip line.events).filter
        fun cause => fw.wddr.irq.status cause.1).map Prod.snd

/-- The causes that it clears, with those that were latched after it looked. -/
def clearedCauses (line : IrqLine) (late : List CtrlupdEdge) (fw : Fw) : List FwPhyEvent :=
  (fw.onIrq (Irq.raiseEdges late)).causes line

/-- Every cause that the handler clears is reported. -/
def ReportsCauses (line : IrqLine) (data : MsgData) (xSender : Option TaskHandle)
    (late : List CtrlupdEdge) (fw : Fw) : Prop :=
  ∀ event ∈ fw.clearedCauses line late,
    ∃ msg ∈ (fw.runIsr line data xSender late).mq.drop fw.mq.length, msg.Is event

/-- At most one cause is latched by the time the handler clears, it was latched when the
handler looked, and the queue has room for its event. -/
def CausesApart (line : IrqLine) (late : List CtrlupdEdge) (fw : Fw) : Prop :=
  (fw.clearedCauses line late).length ≤ 1 ∧
    (∀ event ∈ fw.clearedCauses line late, event ∈ fw.causes line) ∧
      (fw.clearedCauses line late ≠ [] → fw.mq.length < msgQueueLen)

instance (line : IrqLine) (late : List CtrlupdEdge) (fw : Fw) :
    Decidable (fw.CausesApart line late) :=
  inferInstanceAs (Decidable (_ ∧ _ ∧ (_ → _)))

theorem nodup_causes (line : IrqLine) (fw : Fw) : (fw.causes line).Nodup := by
  cases line with
  | pll =>
      have distinct : IrqLine.events .pll |>.Nodup := by decide
      exact distinct.sublist (List.filter_sublist.map Prod.snd)
  | initStart | initComplete | ctrlupdReq | phyupdAck | phymstrAck =>
      simp only [causes]
      apply List.Nodup.sublist (List.filter_sublist.map Prod.snd)
      decide

theorem pllEvent_eq (status : Word) : pllEvent status = (pllCauses status).head? := by
  unfold pllEvent pllCauses
  by_cases lossOfLock : status &&& ddrMvpPllCoreStatusIntLossOfLock.mask = 0 <;>
    by_cases coreLocked : status &&& ddrMvpPllCoreStatusIntCoreLocked.mask = 0 <;>
    by_cases switchDone : status &&& ddrMvpPllCoreStatusIntInitialSwitchDone.mask = 0 <;>
    simp only [List.filter_cons, List.filter_nil, lossOfLock, coreLocked, switchDone, ne_eq,
      not_true, not_false_eq_true, decide_true, decide_false, if_true, if_false,
      Bool.false_eq_true, List.map_cons, List.map_nil, List.head?_cons, List.head?_nil]

/-- The hardware only adds to the latches. -/
theorem status_raiseEdges {source : DdrIrq} {irq : Irq} (latched : irq.status source = true)
    (edges : List CtrlupdEdge) : (irq.raiseEdges edges).status source = true := by
  induction edges generalizing irq with
  | nil => exact latched
  | cons edge rest inductionHypothesis =>
      apply inductionHypothesis
      unfold Irq.raise
      by_cases same : source = edge.source
      · simp [same]
      · simp [Function.update_of_ne same, latched]

/-- What the handler finds it clears. -/
theorem causes_sublist (line : IrqLine) (late : List CtrlupdEdge) (fw : Fw) :
    (fw.causes line).Sublist (fw.clearedCauses line late) := by
  cases line with
  | pll => exact .refl _
  | initStart | initComplete | ctrlupdReq | phyupdAck | phymstrAck =>
      apply List.Sublist.map
      exact List.monotone_filter_right _ fun _ latched => status_raiseEdges latched late

theorem status_raiseEdges_of_notMem {source : DdrIrq} (other : source ∉ Irq.ctrlupdSources)
    (edges : List CtrlupdEdge) (irq : Irq) :
    (irq.raiseEdges edges).status source = irq.status source := by
  induction edges generalizing irq with
  | nil => rfl
  | cons edge rest inductionHypothesis =>
      have differs : source ≠ edge.source := by
        rintro rfl
        cases edge <;> exact other (by decide)
      exact (inductionHypothesis _).trans (Function.update_of_ne differs _ _)

/-- Only the handler of controller updates may clear what it did not find. -/
theorem clearedCauses_of_ne {line : IrqLine} (other : line ≠ .ctrlupdReq)
    (late : List CtrlupdEdge) (fw : Fw) : fw.clearedCauses line late = fw.causes line := by
  cases line with
  | ctrlupdReq => exact absurd rfl other
  | pll => rfl
  | initStart | initComplete | phyupdAck | phymstrAck =>
      apply congrArg (List.map Prod.snd)
      apply List.filter_congr
      intro cause listed
      obtain rfl := List.mem_singleton.mp listed
      exact status_raiseEdges_of_notMem (by decide) late fw.wddr.irq

/-- The handler reports the first of the causes, when the queue has room. -/
theorem runIsr_mq_of_cause {line : IrqLine} {fw : Fw} {event : FwPhyEvent}
    {others : List FwPhyEvent} (latched : fw.causes line = event :: others) (data : MsgData)
    (xSender : Option TaskHandle) (late : List CtrlupdEdge) :
    ∃ msg, msg.Is event ∧ (fw.runIsr line data xSender late).mq =
      if fw.mq.length < msgQueueLen then fw.mq ++ [msg] else fw.mq := by
  have oneShot : ∀ source own, IrqLine.events line = [own] → Irq.sources line = [source] →
      own = event := by
    intro source own isEvents isSources
    have isCauses : fw.causes line =
        ([(source, own)].filter fun cause => fw.wddr.irq.status cause.1).map Prod.snd := by
      cases line <;> simp_all [causes, IrqLine.events, Irq.sources]
    rw [isCauses] at latched
    cases status : fw.wddr.irq.status source <;> simp [status] at latched
    exact latched.1
  cases line with
  | pll =>
      have isEvent : pllEvent fw.wddr.pll.statusInt = some event := by
        change pllCauses _ = _ at latched
        rw [pllEvent_eq, latched]
        rfl
      refine ⟨⟨event.code, data, xSender⟩, rfl, ?_⟩
      simp only [runIsr, pllIrqHandler, isEvent]
      exact sendToBack_mq _ _
  | ctrlupdReq =>
      refine ⟨⟨event.code, .null, none⟩, rfl, ?_⟩
      simp only [runIsr, handleDfiCtrlupdReqIrq]
      cases asserted : fw.wddr.irq.status .ctrlupdReqAssertion with
      | true =>
          simp [causes, Irq.sources, IrqLine.events, asserted] at latched
          rw [if_pos rfl, ← latched.1]
          exact sendToBack_mq _ _
      | false =>
          cases deasserted : fw.wddr.irq.status .ctrlupdReqDeassertion with
          | true =>
              simp [causes, Irq.sources, IrqLine.events, asserted, deasserted] at latched
              rw [if_neg Bool.false_ne_true, if_pos rfl, ← latched.1]
              exact sendToBack_mq _ _
          | false => simp [causes, Irq.sources, IrqLine.events, asserted, deasserted] at latched
  | initStart | initComplete | phyupdAck | phymstrAck =>
      obtain rfl := oneShot _ _ rfl rfl
      exact ⟨⟨_, .null, none⟩, rfl, sendToBack_mq _ _⟩

/-- A handler of controller updates that finds nothing reports nothing. -/
theorem runIsr_mq_of_none {fw : Fw} (nothing : fw.causes .ctrlupdReq = []) (data : MsgData)
    (xSender : Option TaskHandle) (late : List CtrlupdEdge) :
    (fw.runIsr .ctrlupdReq data xSender late).mq = fw.mq := by
  simp only [runIsr, handleDfiCtrlupdReqIrq]
  cases asserted : fw.wddr.irq.status .ctrlupdReqAssertion <;>
    cases deasserted : fw.wddr.irq.status .ctrlupdReqDeassertion <;>
    simp [causes, Irq.sources, IrqLine.events, asserted, deasserted] at nothing
  rfl

/-- A cause that is cleared and reported is the first that the handler found. -/
theorem causes_of_reported {line : IrqLine} {data : MsgData} {xSender : Option TaskHandle}
    {late : List CtrlupdEdge} {fw : Fw} {event : FwPhyEvent}
    (cleared : event ∈ fw.clearedCauses line late)
    (reported : ∃ msg ∈ (fw.runIsr line data xSender late).mq.drop fw.mq.length,
      msg.Is event) :
    (∃ others, fw.causes line = event :: others) ∧ fw.mq.length < msgQueueLen := by
  obtain ⟨reporting, listed, isEvent⟩ := reported
  cases found : fw.causes line with
  | nil =>
      exfalso
      by_cases isUpdate : line = .ctrlupdReq
      · subst isUpdate
        rw [runIsr_mq_of_none found, List.drop_length] at listed
        cases listed
      · rw [clearedCauses_of_ne isUpdate, found] at cleared
        cases cleared
  | cons first others =>
      obtain ⟨msg, isFirst, queue⟩ := runIsr_mq_of_cause found data xSender late
      have room : fw.mq.length < msgQueueLen := by
        by_contra full
        rw [queue, if_neg full, List.drop_length] at listed
        cases listed
      rw [queue, if_pos room, List.drop_left, List.mem_singleton] at listed
      obtain rfl := isFirst.eq (listed ▸ isEvent)
      exact ⟨⟨others, rfl⟩, room⟩

/-- A cause that is cleared alone is all that the handler found. -/
theorem CausesApart.alone {line : IrqLine} {late : List CtrlupdEdge} {fw : Fw}
    {event : FwPhyEvent} (apart : fw.CausesApart line late)
    (cleared : event ∈ fw.clearedCauses line late) :
    fw.causes line = [event] ∧ fw.mq.length < msgQueueLen := by
  obtain ⟨single, found, room⟩ := apart
  have short := (fw.causes_sublist line late).length_le.trans single
  have listed := found event cleared
  refine ⟨?_, room (List.ne_nil_of_mem cleared)⟩
  cases latched : fw.causes line with
  | nil => simp [latched] at listed
  | cons first others =>
      rw [latched] at short listed
      obtain rfl : others = [] := List.length_eq_zero_iff.mp (by simpa using short)
      rw [List.mem_singleton.mp listed]

/-- No cause is lost exactly when at most one is cleared, it was found and the queue has
room. -/
theorem reportsCauses_iff (line : IrqLine) (data : MsgData) (xSender : Option TaskHandle)
    (late : List CtrlupdEdge) (fw : Fw) :
    fw.ReportsCauses line data xSender late ↔ fw.CausesApart line late := by
  constructor
  · intro reported
    have first := fun event cleared => causes_of_reported cleared (reported event cleared)
    refine ⟨?_, ?_, ?_⟩
    · have distinct := (fw.onIrq (Irq.raiseEdges late)).nodup_causes line
      change (fw.clearedCauses line late).Nodup at distinct
      cases cleared : fw.clearedCauses line late with
      | nil => simp
      | cons event others =>
          rw [cleared] at distinct first
          cases others with
          | nil => simp
          | cons other rest =>
              obtain ⟨⟨_, found⟩, -⟩ := first event List.mem_cons_self
              obtain ⟨⟨_, again⟩, -⟩ := first other (by simp)
              obtain rfl : event = other := (List.cons.inj (found.symm.trans again)).1
              simp at distinct
    · intro event cleared
      obtain ⟨⟨others, found⟩, -⟩ := first event cleared
      exact found ▸ List.mem_cons_self
    · intro some
      obtain ⟨event, cleared⟩ := List.exists_mem_of_ne_nil _ some
      exact (first event cleared).2
  · intro apart event cleared
    obtain ⟨found, room⟩ := apart.alone cleared
    obtain ⟨msg, isEvent, queue⟩ := runIsr_mq_of_cause found data xSender late
    rw [queue, if_pos room, List.drop_left]
    exact ⟨msg, List.mem_singleton_self msg, isEvent⟩

end Fw

/-- Whether an update is in progress once the messages were handled. -/
def leftUpdating (updating : Bool) (msgs : List FwMsg) : Bool :=
  msgs.foldl (fun updating msg =>
    if msg.Is .ctrlupdAssert then true
    else if msg.Is .ctrlupdDeassert then false
    else updating) updating

theorem leftUpdating_cons (updating : Bool) (msg : FwMsg) (msgs : List FwMsg) :
    leftUpdating updating (msg :: msgs) =
      leftUpdating (if msg.Is .ctrlupdAssert then true
        else if msg.Is .ctrlupdDeassert then false else updating) msgs := rfl

theorem leftUpdating_append (updating : Bool) (msgs : List FwMsg) (last : FwMsg) :
    leftUpdating updating (msgs ++ [last]) =
      if last.Is .ctrlupdAssert then true
      else if last.Is .ctrlupdDeassert then false
      else leftUpdating updating msgs := by
  rw [leftUpdating, List.foldl_append]
  rfl

/-- Messages that end an update that is in progress leave none in progress. -/
theorem leftUpdating_of_true {msgs : List FwMsg} (ended : leftUpdating true msgs = false)
    (updating : Bool) : leftUpdating updating msgs = false := by
  induction msgs generalizing updating with
  | nil => cases ended
  | cons msg rest inductionHypothesis =>
      rw [leftUpdating_cons] at ended ⊢
      split
      · rename_i isAssert
        rwa [if_pos isAssert] at ended
      · rename_i notAssert
        rw [if_neg notAssert] at ended
        split
        · rename_i isDeassert
          rwa [if_pos isDeassert] at ended
        · rename_i notDeassert
          rw [if_neg notDeassert] at ended
          exact inductionHypothesis ended updating

/-- Only the report of its end ends an update. -/
theorem exists_deassert_of_leftUpdating {msgs : List FwMsg}
    (ended : leftUpdating true msgs = false) : ∃ msg ∈ msgs, msg.Is .ctrlupdDeassert := by
  induction msgs with
  | nil => cases ended
  | cons msg rest inductionHypothesis =>
      by_cases isDeassert : msg.Is .ctrlupdDeassert
      · exact ⟨msg, List.mem_cons_self, isDeassert⟩
      · have restEnds : leftUpdating true rest = false := by
          rw [leftUpdating_cons, if_neg isDeassert] at ended
          simpa using ended
        obtain ⟨waiting, listed, isEnd⟩ := inductionHypothesis restEnds
        exact ⟨waiting, List.mem_cons_of_mem msg listed, isEnd⟩

section Handlers

variable [KernelIo] [BuildConfig] [Device]

theorem Handled.pllLock {data : MsgData} {fw after : Fw} {response : FwResponse}
    (ran : Handled data fw .pllLock response after) (running : fw.Running)
    (admitted : fw.dfi ≠ .ctrlUpd) (pending : fw.fsw = .pending) : after = fw.finishSwitch := by
  cases ran with
  | refused refusal =>
      rcases Fw.refusal_isSome refusal with notRunning | updating
      · exact absurd running notRunning
      · exact absurd updating admitted
  | dfi kind => cases kind
  | fsw _ _ _ step =>
      cases step with
      | ignored unmatched => simp [pending, FswState.takes] at unmatched
      | pllLock => rfl

end Handlers

namespace Sys

/-- What the handlers of the PLL and of controller updates have cleared. -/
structure Causes where
  /-- A lock was found since the pending switch was started. -/
  lock : Bool
  /-- The update that was begun last was not ended. -/
  updating : Bool
  /-- Where the DFI machine was when it began the last update. -/
  origin : DfiState
deriving DecidableEq

section Runs

variable [Platform]

/-- The interrupt handler of the step clears the cause. -/
def finds (line : IrqLine) (event : FwPhyEvent) (sys : Sys) : Label → Bool
  | .isr taken _ _ late => decide (taken = line ∧ event ∈ sys.fw.clearedCauses line late)
  | _ => false

def observeCauses (label : Label) (sys : Sys) (seen : Causes) : Causes where
  lock := decide (sys.fw.fsw = .pending) && (seen.lock || sys.finds .pll .pllLock label)
  updating :=
    if sys.finds .ctrlupdReq .ctrlupdDeassert label then false
    else seen.updating || sys.finds .ctrlupdReq .ctrlupdAssert label
  origin :=
    if Handles label sys fun msg => msg.Is .ctrlupdAssert ∧ sys.fw.Running ∧
        sys.fw.fsw ≠ .pending ∧ sys.fw.dfi ≠ .ctrlUpd then sys.fw.dfi
    else seen.origin

/-- The system with the observer of the causes. -/
abbrev causeObserved : TransitionSystem (Sys × Causes) Label :=
  monitored system ⟨false, false, .idle⟩ observeCauses

/-- Every interrupt clears at most one cause, which it found, and there is room in the queue
for its event. -/
def OneCause : StepCondition (Sys × Causes) Label := fun label pair =>
  match label with
  | .isr line _ _ late => pair.1.fw.CausesApart line late
  | _ => True

instance (label : Label) (pair : Sys × Causes) : Decidable (OneCause label pair) :=
  match label with
  | .isr line _ _ late => inferInstanceAs (Decidable (pair.1.fw.CausesApart line late))
  | .receive | .process | .hostMessage _ | .main | .mainTimeout | .cal | .timerExpire
  | .timerSend | .raise _ | .pllStatus _ | .report _ _ => .isTrue trivial

/-- What was found takes effect. -/
structure CausesTaken (pair : Sys × Causes) : Prop where
  /-- A lock that was found for the pending switch is on its way. -/
  lock : pair.2.lock = true → pair.1.fw.fsw = .pending →
    ∃ msg ∈ pair.1.inFlight, msg.Is .pllLock
  /-- It completes the switch. -/
  completes : ∀ msg, pair.1.fwTask = .process msg → msg.Is .pllLock →
    pair.1.fw.fsw = .pending → ∃ after,
      processMessage msg pair.1.fw = .ok (some .success, after) ∧ after.fsw = .prep
  /-- The end of an update that was begun and ended is on its way. -/
  update : pair.2.updating = false → pair.1.fw.dfi = .ctrlUpd →
    ∃ msg ∈ pair.1.inFlight, msg.Is .ctrlupdDeassert
  /-- It takes the DFI machine back to where it was. -/
  returns : ∀ msg, pair.1.fwTask = .process msg → msg.Is .ctrlupdDeassert →
    pair.1.fw.dfi = .ctrlUpd → ∃ after,
      processMessage msg pair.1.fw = .ok (some .success, after) ∧ after.dfi = pair.2.origin

omit [Platform] in
/-- What the observer has found and has not yet seen take effect. -/
structure CausesKept (pair : Sys × Causes) : Prop where
  lock : pair.2.lock = true → pair.1.fw.fsw = .pending →
    ∃ msg ∈ pair.1.inFlight, msg.Is .pllLock
  update : pair.2.updating = false →
    leftUpdating (decide (pair.1.fw.dfi = .ctrlUpd)) pair.1.inFlight = false
  origin : pair.1.fw.dfi = .ctrlUpd → pair.2.origin = .idle

omit [Platform] in
theorem inFlight_withFw {sys : Sys} {fw : Fw} {added : List FwMsg}
    (queue : fw.mq = sys.fw.mq ++ added) : (sys.withFw fw).inFlight = sys.inFlight ++ added := by
  unfold inFlight withFw
  cases sys.fwTask <;> simp [queue]

theorem inFlight_of_cause {line : IrqLine} {data : MsgData} {xSender : Option TaskHandle}
    {late : List CtrlupdEdge} {sys next : Sys} {event : FwPhyEvent}
    (taken : system.step (.isr line data xSender late) sys = some next)
    (apart : sys.fw.CausesApart line late)
    (cleared : event ∈ sys.fw.clearedCauses line late) :
    ∃ msg, msg.Is event ∧ next.inFlight = sys.inFlight ++ [msg] := by
  obtain ⟨-, rfl⟩ := isr_of_taken taken
  obtain ⟨alone, room⟩ := apart.alone cleared
  obtain ⟨msg, isEvent, queue⟩ := Fw.runIsr_mq_of_cause alone data xSender late
  rw [if_pos room] at queue
  exact ⟨msg, isEvent, inFlight_withFw queue⟩

omit [Platform] in
theorem updateCause_of_interruptible [KernelIo] {fw : Fw}
    (interruptible : fw.interruptible .ctrlupdReq = true) (late : List CtrlupdEdge) :
    .ctrlupdAssert ∈ fw.clearedCauses .ctrlupdReq late ∨
      .ctrlupdDeassert ∈ fw.clearedCauses .ctrlupdReq late := by
  have cleared := (fw.causes_sublist .ctrlupdReq late).subset
  simp only [Fw.interruptible, Bool.and_eq_true, Irq.pending, Irq.sources, List.any_cons,
    List.any_nil, Bool.or_false, Bool.or_eq_true] at interruptible
  rcases interruptible.2 with ⟨asserted, -⟩ | ⟨deasserted, -⟩
  · left
    apply cleared
    simp [Fw.causes, Irq.sources, IrqLine.events, asserted]
  · right
    apply cleared
    cases asserted : fw.wddr.irq.status .ctrlupdReqAssertion <;>
      simp [Fw.causes, Irq.sources, IrqLine.events, asserted, deasserted]

omit [Platform] in
theorem finds_process (line : IrqLine) (event : FwPhyEvent) (sys : Sys) :
    sys.finds line event .process = false := rfl

omit [Platform] in
theorem exists_of_finds {line : IrqLine} {event : FwPhyEvent} {sys : Sys} {label : Label}
    (found : sys.finds line event label = true) :
    ∃ data xSender late, label = .isr line data xSender late ∧
      event ∈ sys.fw.clearedCauses line late := by
  unfold finds at found
  split at found
  · rename_i data xSender late
    obtain ⟨rfl, listed⟩ := of_decide_eq_true found
    exact ⟨data, xSender, late, rfl, listed⟩
  · cases found

theorem mem_inFlight_of_process {sys next : Sys} {msg waiting : FwMsg} {current : VcoIndex}
    (device : sys.fw.DeviceSound current) (task : sys.fwTask = .process msg)
    (step : ProcessStep sys msg next) (listed : waiting ∈ sys.inFlight) :
    waiting = msg ∨ waiting ∈ next.inFlight := by
  rcases step.inFlight device with removed | ⟨-, same⟩
  · rw [inFlight, task] at listed
    rw [removed]
    exact List.mem_cons.mp listed
  · exact .inr (same ▸ listed)

/-- A lock that was found stays in flight until the switch is complete. -/
theorem CausesKept.lock_of_taken {label : Label} {sys next : Sys} {seen : Causes}
    (kept : CausesKept (sys, seen)) (reachable : system.Reachable sys)
    (apart : OneCause label (sys, seen)) (taken : system.step label sys = some next)
    (found : (observeCauses label sys seen).lock = true) (pendingAfter : next.fw.fsw = .pending) :
    ∃ msg ∈ next.inFlight, msg.Is .pllLock := by
  simp only [observeCauses, Bool.and_eq_true, decide_eq_true_eq, Bool.or_eq_true] at found
  obtain ⟨pending, found⟩ := found
  by_cases isProcess : label = .process
  · subst isProcess
    rw [finds_process, Bool.false_eq_true, or_false] at found
    obtain ⟨waiting, listed, isLock⟩ := kept.lock found pending
    obtain ⟨current, device⟩ := deviceSound_of_reachable reachable
    obtain ⟨msg, task, step⟩ := processStep_of_taken taken
    rcases mem_inFlight_of_process device task step listed with rfl | remains
    · exfalso
      cases step with
      | unknown undecoded =>
          rw [FwPhyEvent.ofCode?_eq_some_iff.mpr isLock] at undecoded
          cases undecoded
      | failed decoded stopped =>
          obtain rfl := FwMsg.Is.eq (FwPhyEvent.ofCode?_eq_some_iff.mp decoded) isLock
          have isOpen := switchOpen_of_starting reachable (.inr (.inr pending))
          simp [handled, FwPhyEvent.kind, Fw.guarded, isOpen.running, isOpen.admitted,
            Fw.fswTransition, pending, Functor.map, Except.map] at stopped
      | answered decoded ran =>
          obtain rfl := FwMsg.Is.eq (FwPhyEvent.ofCode?_eq_some_iff.mp decoded) isLock
          have isOpen := switchOpen_of_starting reachable (.inr (.inr pending))
          rw [answered_fw, ran.pllLock isOpen.running isOpen.admitted pending] at pendingAfter
          cases pendingAfter
    · exact ⟨waiting, remains, isLock⟩
  · rcases found with earlier | now
    · obtain ⟨waiting, listed, isLock⟩ := kept.lock earlier pending
      rcases inFlight_of_other taken isProcess with same | ⟨last, -, added⟩
      · exact ⟨waiting, same ▸ listed, isLock⟩
      · exact ⟨waiting, added ▸ List.mem_append_left _ listed, isLock⟩
    · obtain ⟨data, xSender, late, rfl, listed⟩ := exists_of_finds now
      obtain ⟨msg, isLock, added⟩ := inFlight_of_cause taken apart listed
      exact ⟨msg, added ▸ List.mem_append_right _ (List.mem_singleton_self msg), isLock⟩

/-- Handling a message moves the DFI machine no further than the reports say. -/
theorem CausesKept.update_of_process {sys next : Sys} {seen : Causes}
    (kept : CausesKept (sys, seen)) (reachable : system.Reachable sys)
    (taken : system.step .process sys = some next) (ended : seen.updating = false) :
    leftUpdating (decide (next.fw.dfi = .ctrlUpd)) next.inFlight = false := by
  have before := kept.update ended
  obtain ⟨current, device⟩ := deviceSound_of_reachable reachable
  obtain ⟨msg, task, step⟩ := processStep_of_taken taken
  cases step with
  | failed => exact before
  | unknown undecoded =>
      have other : ∀ event, ¬ msg.Is event := by
        intro event isEvent
        rw [FwPhyEvent.ofCode?_eq_some_iff.mpr isEvent] at undecoded
        cases undecoded
      simp only [inFlight, task, leftUpdating_cons, if_neg (other _)] at before
      exact before
  | @answered event response after decoded ran =>
      have isEvent : msg.Is event := FwPhyEvent.ofCode?_eq_some_iff.mp decoded
      simp only [inFlight, task, leftUpdating_cons] at before
      simp only [inFlight, answered_fwTask, answered_fw, ran.mq device]
      by_cases updating : after.dfi = .ctrlUpd
      · rw [decide_eq_true updating]
        rcases ran.of_ctrlUpd device (linesSound_of_reachable reachable) updating with
          ⟨wasUpdating, notEnd⟩ | ⟨rfl, -⟩
        · have notDeassert : ¬ msg.Is .ctrlupdDeassert := fun isEnd => notEnd (isEvent.eq isEnd)
          rw [if_neg notDeassert, decide_eq_true wasUpdating, ite_self] at before
          exact before
        · rwa [if_pos isEvent] at before
      · rw [decide_eq_false updating]
        cases start : (if msg.Is .ctrlupdAssert then true
            else if msg.Is .ctrlupdDeassert then false
            else decide (sys.fw.dfi = .ctrlUpd)) with
        | false => rwa [start] at before
        | true =>
            rw [start] at before
            exact leftUpdating_of_true before false

/-- Once an update was begun and ended, the messages in flight leave none in progress. -/
theorem CausesKept.update_of_taken {label : Label} {sys next : Sys} {seen : Causes}
    (kept : CausesKept (sys, seen)) (reachable : system.Reachable sys)
    (apart : OneCause label (sys, seen)) (taken : system.step label sys = some next)
    (ended : (observeCauses label sys seen).updating = false) :
    leftUpdating (decide (next.fw.dfi = .ctrlUpd)) next.inFlight = false := by
  by_cases isProcess : label = .process
  · subst isProcess
    simp only [observeCauses, finds_process, Bool.false_eq_true, if_false, Bool.or_false] at ended
    exact kept.update_of_process reachable taken ended
  · rw [(sameControl_of_taken taken isProcess).dfi]
    by_cases isUpdate : ∃ data xSender late, label = .isr .ctrlupdReq data xSender late
    · obtain ⟨data, xSender, late, rfl⟩ := isUpdate
      have found := updateCause_of_interruptible (isr_of_taken taken).1 late
      by_cases deasserted : FwPhyEvent.ctrlupdDeassert ∈ sys.fw.clearedCauses .ctrlupdReq late
      · obtain ⟨msg, isEnd, added⟩ := inFlight_of_cause taken apart deasserted
        have notAssert : ¬ msg.Is .ctrlupdAssert := by
          intro isAssert
          cases isAssert.eq isEnd
        rw [added, leftUpdating_append, if_neg notAssert, if_pos isEnd]
      · have asserted := found.resolve_right deasserted
        simp [observeCauses, finds, deasserted, asserted] at ended
    · have notFound : ∀ event, sys.finds .ctrlupdReq event label = false := by
        intro event
        by_contra found
        obtain ⟨data, xSender, late, isIsr, -⟩ :=
          exists_of_finds (Bool.eq_true_of_not_eq_false found)
        exact isUpdate ⟨data, xSender, late, isIsr⟩
      simp only [observeCauses, notFound, Bool.false_eq_true, if_false, Bool.or_false] at ended
      have before := kept.update ended
      rcases inFlight_of_other taken isProcess with same | ⟨last, arrives, added⟩
      · rwa [same]
      · have otherEvent : ∀ event ∈ IrqLine.events .ctrlupdReq, ¬ last.Is event := by
          intro event listed isEvent
          obtain ⟨line, data, xSender, late, isIsr, reported, -⟩ :=
            arrives.interruptible isEvent fun sent => IrqLine.notMem_events event sent listed
          obtain rfl : line = .ctrlupdReq := IrqLine.eq_of_mem_events reported listed
          exact isUpdate ⟨data, xSender, late, isIsr⟩
        rw [added, leftUpdating_append, if_neg (otherEvent _ (by decide)),
          if_neg (otherEvent _ (by decide))]
        exact before

theorem CausesKept.origin_of_taken {label : Label} {sys next : Sys} {seen : Causes}
    (kept : CausesKept (sys, seen)) (reachable : system.Reachable sys)
    (taken : system.step label sys = some next) (updating : next.fw.dfi = .ctrlUpd) :
    (observeCauses label sys seen).origin = .idle := by
  have unmoved : sys.fw.dfi = .ctrlUpd → (observeCauses label sys seen).origin = .idle := by
    intro wasUpdating
    have notBegun : ¬ Handles label sys fun msg => msg.Is .ctrlupdAssert ∧ sys.fw.Running ∧
        sys.fw.fsw ≠ .pending ∧ sys.fw.dfi ≠ .ctrlUpd := by
      intro begins
      obtain ⟨-, -, -, -, -, -, other⟩ := exists_of_handles begins
      exact other wasUpdating
    simp only [observeCauses, if_neg notBegun]
    exact kept.origin wasUpdating
  by_cases isProcess : label = .process
  · subst isProcess
    obtain ⟨current, device⟩ := deviceSound_of_reachable reachable
    obtain ⟨msg, task, step⟩ := processStep_of_taken taken
    cases step with
    | unknown => exact unmoved updating
    | failed => exact unmoved updating
    | answered decoded ran =>
        rw [answered_fw] at updating
        rcases ran.of_ctrlUpd device (linesSound_of_reachable reachable) updating with
          ⟨wasUpdating, -⟩ | ⟨rfl, running, admitted, idle⟩
        · exact unmoved wasUpdating
        · have begins : Handles .process sys fun msg => msg.Is .ctrlupdAssert ∧
              sys.fw.Running ∧ sys.fw.fsw ≠ .pending ∧ sys.fw.dfi ≠ .ctrlUpd := by
            rw [handles_process task]
            exact ⟨FwPhyEvent.ofCode?_eq_some_iff.mp decoded, running, admitted, by simp [idle]⟩
          simp only [observeCauses, if_pos begins]
          exact idle
  · exact unmoved ((sameControl_of_taken taken isProcess).dfi.symm.trans updating)

theorem causesKept_of_reachableWhere {pair : Sys × Causes}
    (reachable : causeObserved.ReachableWhere OneCause pair) : CausesKept pair := by
  apply reachable.invariant (motive := CausesKept)
  · rintro ⟨sys, seen⟩ ⟨⟨table, reset, hw, timerStarts, -, -, rfl⟩, rfl⟩
    refine ⟨?_, fun _ => rfl, ?_⟩
    · exact fun found => nomatch found
    · exact fun updating => nomatch updating
  · rintro label ⟨sys, seen⟩ next before apart taken kept
    obtain ⟨moved, stepped, rfl⟩ := Option.map_eq_some_iff.mp taken
    have reachable := before.of_monitored
    exact ⟨kept.lock_of_taken reachable apart stepped,
      kept.update_of_taken reachable apart stepped, kept.origin_of_taken reachable stepped⟩

theorem processMessage_pllLock {msg : FwMsg} {fw : Fw} (isLock : msg.Is .pllLock)
    (running : fw.Running) (admitted : fw.dfi ≠ .ctrlUpd) (pending : fw.fsw = .pending) :
    processMessage msg fw = .ok (some .success, fw.finishSwitch) := by
  rw [processMessage_ok_iff isLock]
  change fw.guarded (fw.dfi = .ctrlUpd) (fw.fswTransition .pllLock msg.data) = _
  rw [Fw.guarded, if_neg (not_not_intro running), if_neg admitted]
  simp only [Fw.fswTransition, pending]
  rfl

theorem processMessage_ctrlupdDeassert {msg : FwMsg} {fw : Fw} (isEnd : msg.Is .ctrlupdDeassert)
    (running : fw.Running) (admitted : fw.fsw ≠ .pending) (updating : fw.dfi = .ctrlUpd) :
    processMessage msg fw = .ok (some .success, fw.exitCtrlUpd) := by
  rw [processMessage_ok_iff isEnd]
  change fw.guarded (fw.fsw = .pending) (fw.dfiTransition .ctrlupdDeassert msg.data) = _
  rw [Fw.guarded, if_neg (not_not_intro running), if_neg admitted]
  simp only [Fw.dfiTransition, updating]
  rfl

theorem causesTaken_of_reachableWhere {pair : Sys × Causes}
    (reachable : causeObserved.ReachableWhere OneCause pair) : CausesTaken pair := by
  obtain ⟨sys, seen⟩ := pair
  have kept := causesKept_of_reachableWhere reachable
  have lines := linesSound_of_reachable reachable.of_monitored
  constructor
  · exact kept.lock
  · intro msg task isLock pending
    have isOpen := switchOpen_of_starting reachable.of_monitored (.inr (.inr pending))
    exact ⟨_, processMessage_pllLock isLock isOpen.running isOpen.admitted pending, rfl⟩
  · intro ended updating
    have left := kept.update ended
    rw [decide_eq_true updating] at left
    exact exists_deassert_of_leftUpdating left
  · intro msg task isEnd updating
    obtain ⟨running, admitted⟩ := lines.updating updating
    exact ⟨_, processMessage_ctrlupdDeassert isEnd running admitted updating,
      (kept.origin updating).symm⟩

/-- A handler loses no cause exactly when it clears at most one, which it found, and the
queue has room.  In a run of such interrupts every lock completes its switch and every
update that was begun and ended leaves the DFI machine where it was. -/
theorem causes_reported :
    (∀ (line : IrqLine) (data : MsgData) (xSender : Option TaskHandle)
      (late : List CtrlupdEdge) (fw : Fw),
      fw.ReportsCauses line data xSender late ↔ fw.CausesApart line late) ∧
    ∀ pair : Sys × Causes, causeObserved.ReachableWhere OneCause pair → CausesTaken pair :=
  ⟨Fw.reportsCauses_iff, fun _ reachable => causesTaken_of_reachableWhere reachable⟩

end Runs

/-- The observed state that a run from the reference start ends in, under a condition. -/
def causesAfter (condition : StepCondition (Sys × Causes) Label)
    [∀ label pair, Decidable (condition label pair)] (labels : List Label)
    (possible : ((observedReference observeCauses ⟨false, false, .idle⟩).execWhere
      condition labels (referenceStart, ⟨false, false, .idle⟩)).isSome) : Sys × Causes :=
  observedAfterWhere observeCauses ⟨false, false, .idle⟩ condition labels possible

theorem reachable_causesAfter {condition : StepCondition (Sys × Causes) Label}
    [∀ label pair, Decidable (condition label pair)] {labels : List Label}
    (possible : ((observedReference observeCauses ⟨false, false, .idle⟩).execWhere
      condition labels (referenceStart, ⟨false, false, .idle⟩)).isSome) :
    (@causeObserved referencePlatform).ReachableWhere condition
      (causesAfter condition labels possible) :=
  reachable_observedAfterWhere possible

/-- A switch is pending when the PLL locks. -/
theorem causes_reported_lock :
    @CausesTaken referencePlatform (causesAfter OneCause
      (bootRun ++ prepRun 0 ++ initStartIrq ++ handleNext ++ pllLockIrq) (by decide +kernel)) :=
  (@causes_reported referencePlatform).2 _ (reachable_causesAfter _)

/-- The PLL loses its lock and locks again before its interrupt is taken. -/
def coincidingState : Sys × Causes :=
  causesAfter (fun _ _ => True)
    (bootRun ++ prepRun 0 ++ initStartIrq ++ handleNext ++
      [.pllStatus (ddrMvpPllCoreStatusIntLossOfLock.mask |||
        ddrMvpPllCoreStatusIntCoreLocked.mask)]) (by decide +kernel)

/-- The loss of the lock was handled, and nothing is in flight. -/
def stuckState : Sys × Causes :=
  causesAfter (fun _ _ => True)
    (bootRun ++ prepRun 0 ++ initStartIrq ++ handleNext ++
      [.pllStatus (ddrMvpPllCoreStatusIntLossOfLock.mask |||
        ddrMvpPllCoreStatusIntCoreLocked.mask), .isr .pll .null none []] ++ handleNext)
    (by decide +kernel)

/-- The controller begins an update before the firmware is booted. -/
def begunState : Sys × Causes :=
  causesAfter (fun _ _ => True) [.raise .ctrlupdReqAssertion] (by decide +kernel)

/-- The lock is cleared without being reported, and the switch stays pending.  The end of an
update is cleared as well when it comes between the handler's two accesses. -/
theorem not_causes_reported_coinciding :
    ((@causeObserved referencePlatform).Reachable coincidingState ∧
      ¬ coincidingState.1.fw.ReportsCauses .pll .null none []) ∧
    ((@causeObserved referencePlatform).Reachable stuckState ∧
      ¬ @CausesTaken referencePlatform stuckState) ∧
    (@causeObserved referencePlatform).Reachable begunState ∧
      ((@causeObserved referencePlatform).step (.isr .ctrlupdReq .null none [.deassertion])
        begunState).isSome ∧
      begunState.1.fw.causes .ctrlupdReq = [.ctrlupdAssert] ∧ begunState.1.fw.mq = [] ∧
      ¬ begunState.1.fw.ReportsCauses .ctrlupdReq .null none [.deassertion] := by
  refine ⟨⟨reachable_causesAfter _, ?_⟩, ⟨reachable_causesAfter _, ?_⟩,
    reachable_causesAfter _, by decide +kernel, by decide +kernel, by decide +kernel, ?_⟩
  · rw [Fw.reportsCauses_iff]
    decide +kernel
  · intro taken
    let := referencePlatform
    obtain ⟨msg, listed, -⟩ := taken.lock (by decide +kernel) (by decide +kernel)
    have empty : stuckState.1.inFlight = [] := by decide +kernel
    rw [empty] at listed
    cases listed
  · rw [Fw.reportsCauses_iff]
    decide +kernel

end Sys

end WavLpddr
