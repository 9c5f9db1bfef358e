import WavLpddr.DeviceRuns
import WavLpddr.Lib.Mailbox

/-!
# The protocol of the firmware task

What the firmware task answers depends on four values only: whether it was booted, whether it
met an error, and the states of its two machines.  This file states the protocol without the
device behind it, and proves that the two machines never wait for each other.
-/

namespace WavLpddr

open TransitionSystem

/-- The row that a state of the DFI machine has for an event. -/
def DfiState.next : DfiState → FwPhyEvent → DfiState
  | .idle, .phymstrReq => .phyMstrPending
  | .idle, .phyupdReq => .phyUpd
  | .idle, .ctrlupdAssert => .ctrlUpd
  | .phyMstrPending, .phymstrAck => .phyMstr
  | .phyMstrPending, .phymstrAbort => .idle
  | .phyMstr, .phymstrExit => .idle
  | .phyUpd, .phyupdAck => .idle
  | .phyUpd, .phyupdAbort => .idle
  | .ctrlUpd, .ctrlupdDeassert => .idle
  | state, _ => state

/-- A switch withdraws a request that is not yet granted, and an update. -/
def DfiState.withdrawn : DfiState → DfiState
  | .phyMstrPending => .idle
  | .phyUpd => .idle
  | state => state

/-- The row that a state of the switch machine has for an event. -/
def FswState.next : FswState → FwPhyEvent → FswState
  | .prep, .initStart => .pending
  | .pending, .pllLock => .prep
  | state, _ => state

/-- What the answers of the firmware task depend on. -/
structure Control where
  ready : Bool
  error : Bool
  fsw : FswState
  dfi : DfiState
deriving DecidableEq, Repr

namespace Control

def start : Control where
  ready := false
  error := false
  fsw := .prep
  dfi := .idle

variable (control : Control) (event : FwPhyEvent)

/-- The answer to an event of one machine, unless the machine takes it. -/
def guard (waits : Bool) : Option FwResponse :=
  if control.ready && !control.error then if waits then some .retry else none
  else some .failure

/-- The answer to an event that no machine sees: FAILURE for good, or RETRY for now. -/
def refusal : Option FwResponse :=
  match event.kind with
  | .boot => if control.ready then some .failure else none
  | .lp => some .failure
  | .dfi => control.guard (control.fsw = .pending)
  | .fsw => control.guard (control.dfi = .ctrlUpd)

/-- The step of the machine that takes the event. -/
def next : Control :=
  match event.kind with
  | .dfi => { control with dfi := control.dfi.next event }
  | .fsw =>
      { control with
        fsw := control.fsw.next event
        dfi := if control.fsw = .prep ∧ event = .initStart then control.dfi.withdrawn
          else control.dfi }
  | _ => control

/-- The end of a BOOT. -/
def booted : FwResponse → Option Control
  | .success => some { control with ready := true }
  | .failure => some { control with error := true }
  | .retry => none

/-- The control after an event was answered, unless the answer is out of order. -/
def serve (event : FwPhyEvent) (answer : FwResponse) : Option Control :=
  match control.refusal event with
  | some refused => if answer = refused then some control else none
  | none =>
      if event.kind = .boot then control.booted answer
      else if answer = .success then some (control.next event)
      else none

/-- What holds between two messages: a pending switch leaves no update and no request open,
and before the boot both machines are at rest. -/
structure Sound : Prop where
  pending : control.fsw = .pending → control.dfi = .idle ∨ control.dfi = .phyMstr
  resting : control.ready = false → control.fsw = .prep ∧ control.dfi = .idle
  ordinary : control.fsw ≠ .error ∧ control.dfi ≠ .error

theorem sound_start : Sound start where
  pending isPending := nomatch isPending
  resting _ := ⟨rfl, rfl⟩
  ordinary := ⟨by simp [start], by simp [start]⟩

end Control

theorem DfiState.next_ne_error {state : DfiState} (ordinary : state ≠ .error)
    (event : FwPhyEvent) : state.next event ≠ .error := by
  cases state <;> cases event <;> first | exact absurd rfl ordinary | simp [DfiState.next]

theorem FswState.next_ne_error {state : FswState} (ordinary : state ≠ .error)
    (event : FwPhyEvent) : state.next event ≠ .error := by
  cases state <;> cases event <;> first | exact absurd rfl ordinary | simp [FswState.next]

theorem DfiState.withdrawn_cases {state : DfiState} (ordinary : state ≠ .error)
    (admitted : state ≠ .ctrlUpd) : state.withdrawn = .idle ∨ state.withdrawn = .phyMstr := by
  cases state <;> first
    | exact absurd rfl ordinary
    | exact absurd rfl admitted
    | simp [DfiState.withdrawn]

theorem FswState.next_eq_pending {state : FswState} {event : FwPhyEvent}
    (isPending : state.next event = .pending) :
    state = .pending ∨ (state = .prep ∧ event = .initStart) := by
  cases state <;> cases event <;> simp [FswState.next] at isPending ⊢

namespace Control

variable {control after : Control} {event : FwPhyEvent} {answer : FwResponse}

theorem guard_eq_none {waits : Bool} (taken : control.guard waits = none) :
    control.ready = true ∧ control.error = false ∧ waits = false := by
  unfold guard at taken
  split at taken
  · rename_i running
    split at taken
    · cases taken
    · rename_i free
      simp only [Bool.and_eq_true, Bool.not_eq_true'] at running
      exact ⟨running.1, running.2, by simpa using free⟩
  · cases taken

/-- A machine takes an event only after the boot and when the other one is not in its way. -/
theorem admitted_of_refusal (free : control.refusal event = none) (notBoot : event.kind ≠ .boot) :
    control.ready = true ∧ (event.kind = .dfi ∧ control.fsw ≠ .pending ∨
      event.kind = .fsw ∧ control.dfi ≠ .ctrlUpd) := by
  unfold refusal at free
  split at free
  case h_1 isBoot => exact absurd isBoot notBoot
  case h_2 => cases free
  case h_3 isDfi =>
    obtain ⟨ready, -, admitted⟩ := guard_eq_none free
    exact ⟨ready, .inl ⟨isDfi, of_decide_eq_false admitted⟩⟩
  case h_4 isFsw =>
    obtain ⟨ready, -, admitted⟩ := guard_eq_none free
    exact ⟨ready, .inr ⟨isFsw, of_decide_eq_false admitted⟩⟩

theorem Sound.next (sound : control.Sound) (free : control.refusal event = none)
    (notBoot : event.kind ≠ .boot) : (control.next event).Sound := by
  obtain ⟨ready, ⟨isDfi, admitted⟩ | ⟨isFsw, admitted⟩⟩ := admitted_of_refusal free notBoot
  · have same : control.next event = { control with dfi := control.dfi.next event } := by
      rw [Control.next, isDfi]
    rw [same]
    refine ⟨fun isPending => absurd isPending admitted, ?_, ?_⟩
    · intro notReady
      rw [ready] at notReady
      cases notReady
    · exact ⟨sound.ordinary.1, DfiState.next_ne_error sound.ordinary.2 event⟩
  · have same : control.next event =
        { control with
          fsw := control.fsw.next event
          dfi := if control.fsw = .prep ∧ event = .initStart then control.dfi.withdrawn
            else control.dfi } := by
      rw [Control.next, isFsw]
    rw [same]
    have settled := DfiState.withdrawn_cases sound.ordinary.2 admitted
    refine ⟨fun isPending => ?_, ?_, ?_⟩
    · rcases FswState.next_eq_pending isPending with wasPending | starts
      · have notPrep : ¬ (control.fsw = .prep ∧ event = .initStart) := by
          rintro ⟨inPrep, -⟩
          rw [wasPending] at inPrep
          cases inPrep
        simpa only [if_neg notPrep] using sound.pending wasPending
      · simpa only [if_pos starts] using settled
    · intro notReady
      rw [ready] at notReady
      cases notReady
    · refine ⟨FswState.next_ne_error sound.ordinary.1 event, ?_⟩
      dsimp only
      split
      · rcases settled with isIdle | isMaster
        · simp [isIdle]
        · simp [isMaster]
      · exact sound.ordinary.2

theorem Sound.booted (sound : control.Sound) (ended : control.booted answer = some after) :
    after.Sound := by
  cases answer with
  | success =>
      obtain rfl := Option.some.inj ended
      refine ⟨sound.pending, ?_, sound.ordinary⟩
      rintro ⟨⟩
  | failure =>
      obtain rfl := Option.some.inj ended
      exact ⟨sound.pending, sound.resting, sound.ordinary⟩
  | retry => cases ended

theorem Sound.serve (sound : control.Sound) (served : control.serve event answer = some after) :
    after.Sound := by
  unfold Control.serve at served
  split at served
  · split at served
    · exact Option.some.inj served ▸ sound
    · cases served
  · rename_i free
    split at served
    · exact sound.booted served
    · rename_i notBoot
      split at served
      · exact Option.some.inj served ▸ sound.next free notBoot
      · cases served

/-- The event that ends what an event was told to wait for. -/
def releasing (event : FwPhyEvent) : FwPhyEvent :=
  if event.kind = .dfi then .pllLock else .ctrlupdDeassert

theorem refusal_of_dfi (isDfi : event.kind = .dfi) :
    control.refusal event = control.guard (control.fsw = .pending) := by
  rw [refusal, isDfi]

theorem refusal_of_fsw (isFsw : event.kind = .fsw) :
    control.refusal event = control.guard (control.dfi = .ctrlUpd) := by
  rw [refusal, isFsw]

theorem guard_eq_retry {waits : Bool} (told : control.guard waits = some .retry) :
    (control.ready && !control.error) = true ∧ waits = true := by
  unfold guard at told
  split at told
  · rename_i running
    split at told
    · rename_i isWaiting
      exact ⟨running, isWaiting⟩
    · cases told
  · cases told

theorem guard_of_running {waits : Bool} (running : (control.ready && !control.error) = true)
    (free : waits = false) : control.guard waits = none := by
  rw [guard, if_pos running, free]
  rfl

/-- Only a switch or a controller update makes an event wait. -/
theorem waits_of_retry (waits : control.refusal event = some .retry) :
    (control.ready && !control.error) = true ∧
      (event.kind = .dfi ∧ control.fsw = .pending ∨
        event.kind = .fsw ∧ control.dfi = .ctrlUpd) := by
  unfold refusal at waits
  split at waits
  case h_1 => split at waits <;> cases waits
  case h_2 => cases waits
  case h_3 isDfi =>
    obtain ⟨running, pending⟩ := guard_eq_retry waits
    exact ⟨running, .inl ⟨isDfi, of_decide_eq_true pending⟩⟩
  case h_4 isFsw =>
    obtain ⟨running, updating⟩ := guard_eq_retry waits
    exact ⟨running, .inr ⟨isFsw, of_decide_eq_true updating⟩⟩

/-- The machines do not wait for each other: the event that ends the wait is taken, and after
it the event that had to wait. -/
theorem Sound.released (sound : control.Sound) (waits : control.refusal event = some .retry) :
    control.refusal (releasing event) = none ∧
      (control.next (releasing event)).refusal event = none := by
  obtain ⟨running, ⟨isDfi, isPending⟩ | ⟨isFsw, updating⟩⟩ := waits_of_retry waits
  · have notUpdating : control.dfi ≠ .ctrlUpd := by
      rcases sound.pending isPending with isIdle | isMaster
      · simp [isIdle]
      · simp [isMaster]
    have switched : (control.next .pllLock).fsw ≠ .pending := by
      simp [Control.next, FwPhyEvent.kind, isPending, FswState.next]
    rw [releasing, if_pos isDfi, refusal_of_fsw rfl, refusal_of_dfi isDfi]
    exact ⟨guard_of_running running (decide_eq_false notUpdating),
      guard_of_running running (decide_eq_false switched)⟩
  · have notPending : control.fsw ≠ .pending := by
      intro isPending
      rcases sound.pending isPending with isIdle | isMaster
      · simp [isIdle] at updating
      · simp [isMaster] at updating
    have ended : (control.next .ctrlupdDeassert).dfi ≠ .ctrlUpd := by
      simp [Control.next, FwPhyEvent.kind, updating, DfiState.next]
    have notDfi : event.kind ≠ .dfi := by simp [isFsw]
    rw [releasing, if_neg notDfi, refusal_of_dfi rfl, refusal_of_fsw isFsw]
    exact ⟨guard_of_running running (decide_eq_false notPending),
      guard_of_running running (decide_eq_false ended)⟩

end Control

/-- The control, and what each task was told last. -/
structure Protocol where
  control : Control
  told : TaskHandle → FwResponse

namespace Protocol

def start : Protocol := ⟨Control.start, fun _ => .success⟩

/-- The sender of a message is told the answer. -/
def tell (sender : Option TaskHandle) (answer : FwResponse)
    (told : TaskHandle → FwResponse) : TaskHandle → FwResponse :=
  match sender with
  | some task => Function.update told task answer
  | none => told

/-- The protocol after a message was answered, unless the answer is out of order. -/
def serve : Mailbox.Serve FwMsg FwResponse Protocol := fun (msg, answer) protocol =>
  (FwPhyEvent.ofCode? msg.event).bind fun event =>
    (protocol.control.serve event answer).map fun control =>
      ⟨control, tell msg.xSender answer protocol.told⟩

/-- The protocol as a machine that answers messages. -/
abbrev system : TransitionSystem Protocol (FwMsg × FwResponse) :=
  Mailbox.serverSystem (fun protocol => protocol = start) serve

theorem sound_of_reachable {protocol : Protocol} (reachable : system.Reachable protocol) :
    protocol.control.Sound := by
  apply reachable.invariant (motive := fun protocol => protocol.control.Sound)
  · rintro _ rfl
    exact Control.sound_start
  · rintro ⟨msg, answer⟩ protocol next _ _ served sound
    obtain ⟨event, -, served⟩ := Option.bind_eq_some_iff.mp served
    obtain ⟨control, answered, rfl⟩ := Option.map_eq_some_iff.mp served
    exact sound.serve answered

/-- The last answer to a message of the task, if there was one. -/
def lastAnswer (task : TaskHandle) (services : List (FwMsg × FwResponse)) : Option FwResponse :=
  ((services.filter fun service => service.1.xSender = some task).getLast?).map Prod.snd

theorem lastAnswer_append (task : TaskHandle) (services : List (FwMsg × FwResponse))
    (msg : FwMsg) (answer : FwResponse) :
    lastAnswer task (services ++ [(msg, answer)]) =
      if msg.xSender = some task then some answer else lastAnswer task services := by
  unfold lastAnswer
  rw [List.filter_append]
  by_cases own : msg.xSender = some task
  · simp [own]
  · simp [own]

/-- Every task was told the last answer to its messages. -/
theorem told_of_exec {services : List (FwMsg × FwResponse)} {final : Protocol}
    (ran : system.exec services start = some final) (task : TaskHandle) :
    final.told task = (lastAnswer task services).getD .success := by
  induction services using List.reverseRecOn generalizing final with
  | nil =>
      obtain rfl : start = final := Option.some.inj ran
      rfl
  | append_singleton earlier last inductionHypothesis =>
      obtain ⟨msg, answer⟩ := last
      rw [exec_append, Option.bind_eq_some_iff] at ran
      obtain ⟨middle, ranEarlier, served⟩ := ran
      rw [exec_singleton] at served
      obtain ⟨event, -, served⟩ := Option.bind_eq_some_iff.mp served
      obtain ⟨control, -, rfl⟩ := Option.map_eq_some_iff.mp served
      have earlierTold := inductionHypothesis ranEarlier
      rw [lastAnswer_append]
      unfold tell
      cases sender : msg.xSender with
      | none => simpa [sender] using earlierTold
      | some own =>
          by_cases same : own = task
          · simp [same]
          · simpa [same, Function.update_of_ne (Ne.symm same)] using earlierTold

end Protocol

end WavLpddr
