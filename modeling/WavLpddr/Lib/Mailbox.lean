import WavLpddr.Lib.Refinement

/-!
# A server behind a bounded queue

Messages are posted into a queue of limited capacity, taken from it one at a time, and served
by a state machine that answers.  A message that finds the queue full is lost.  Every run
serves the messages in the order in which they were posted and none of them twice, and the
server's state depends on the messages and answers only.
-/

namespace Mailbox

variable (Msg Answer Server : Type*)

/-- What happens at a mailbox. -/
inductive Entry
  | posted (msg : Msg)
  | lost (msg : Msg)
  | taken (msg : Msg)
  | served (msg : Msg) (answer : Answer)
deriving DecidableEq

/-- The queue, the message in hand and the server. -/
structure State where
  queue : List Msg
  hand : Option Msg
  server : Server

variable {Msg Answer Server}

namespace Entry

/-- The message that an entry brought into the queue. -/
def arrival : Entry Msg Answer → Option Msg
  | posted msg => some msg
  | _ => none

/-- The message that an entry served, and its answer. -/
def service : Entry Msg Answer → Option (Msg × Answer)
  | served msg answer => some (msg, answer)
  | _ => none

end Entry

section Logs

variable (log : List (Entry Msg Answer))

def arrivals : List Msg := log.filterMap Entry.arrival

def services : List (Msg × Answer) := log.filterMap Entry.service

variable (entry : Entry Msg Answer)

theorem arrivals_cons : arrivals (entry :: log) = entry.arrival.toList ++ arrivals log := by
  cases entry <;> rfl

theorem services_cons : services (entry :: log) = entry.service.toList ++ services log := by
  cases entry <;> rfl

end Logs

/-- A machine that answers messages, or refuses an answer. -/
abbrev Serve (Msg Answer Server : Type*) := Msg × Answer → Server → Option Server

section System

variable [DecidableEq Msg] (capacity : Nat) (starts : Server → Prop)
  (serve : Serve Msg Answer Server)

def step : Entry Msg Answer → State Msg Server → Option (State Msg Server)
  | .posted msg, state =>
      if state.queue.length < capacity then some { state with queue := state.queue ++ [msg] }
      else none
  | .lost _, state => if state.queue.length < capacity then none else some state
  | .taken msg, state =>
      if state.hand = none ∧ state.queue.head? = some msg then
        some { state with queue := state.queue.tail, hand := some msg }
      else none
  | .served msg answer, state =>
      if state.hand = some msg then
        (serve (msg, answer) state.server).map fun server =>
          { state with hand := none, server := server }
      else none

/-- The mailbox as a transition system whose labels are its entries. -/
def system : TransitionSystem (State Msg Server) (Entry Msg Answer) where
  initial state := state.queue = [] ∧ state.hand = none ∧ starts state.server
  step := step capacity serve

/-- The server alone. -/
def serverSystem : TransitionSystem Server (Msg × Answer) where
  initial := starts
  step := serve

end System

/-- The messages that are not yet served. -/
def State.waiting (state : State Msg Server) : List Msg := state.hand.toList ++ state.queue

section Runs

variable [DecidableEq Msg] {capacity : Nat} {starts : Server → Prop}
  {serve : Serve Msg Answer Server} {state final : State Msg Server}

@[simp]
theorem step_posted {msg : Msg} :
    (system capacity starts serve).step (.posted msg) state = some final ↔
      state.queue.length < capacity ∧ { state with queue := state.queue ++ [msg] } = final := by
  simp only [system, step, Option.ite_none_right_eq_some, Option.some.injEq]

@[simp]
theorem step_lost {msg : Msg} :
    (system capacity starts serve).step (.lost msg) state = some final ↔
    capacity ≤ state.queue.length ∧ state = final := by
  simp only [system, step, Option.ite_none_left_eq_some, Option.some.injEq, Nat.not_lt]

@[simp]
theorem step_taken {msg : Msg} :
    (system capacity starts serve).step (.taken msg) state = some final ↔
      (state.hand = none ∧ state.queue.head? = some msg) ∧
        { state with queue := state.queue.tail, hand := some msg } = final := by
  simp only [system, step, Option.ite_none_right_eq_some, Option.some.injEq]

@[simp]
theorem step_served {msg : Msg} {answer : Answer} :
    (system capacity starts serve).step (.served msg answer) state = some final ↔
      state.hand = some msg ∧ ∃ server, serve (msg, answer) state.server = some server ∧
        { state with hand := none, server := server } = final := by
  simp only [system, step, Option.ite_none_right_eq_some, Option.map_eq_some_iff]

/-- What one entry does to the messages waiting and to the server. -/
theorem step_waiting {entry : Entry Msg Answer}
    (taken : (system capacity starts serve).step entry state = some final) :
    state.waiting ++ entry.arrival.toList =
        entry.service.toList.map Prod.fst ++ final.waiting ∧
      (serverSystem starts serve).exec entry.service.toList state.server =
        some final.server := by
  cases entry with
  | posted msg =>
      obtain ⟨-, rfl⟩ := step_posted.mp taken
      exact ⟨by simp [Entry.arrival, Entry.service, State.waiting], rfl⟩
  | lost msg =>
      obtain ⟨-, rfl⟩ := step_lost.mp taken
      exact ⟨by simp [Entry.arrival, Entry.service], rfl⟩
  | taken msg =>
      obtain ⟨⟨empty, isHead⟩, rfl⟩ := step_taken.mp taken
      obtain ⟨rest, queued⟩ := List.head?_eq_some_iff.mp isHead
      exact ⟨by simp [Entry.arrival, Entry.service, State.waiting, empty, queued], rfl⟩
  | served msg answer =>
      obtain ⟨inHand, server, answered, rfl⟩ := step_served.mp taken
      refine ⟨by simp [Entry.arrival, Entry.service, State.waiting, inHand], ?_⟩
      change (serverSystem starts serve).exec [(msg, answer)] state.server = some server
      rw [TransitionSystem.exec_singleton]
      exact answered

/-- Along a run the messages posted are those served, in this order, and those waiting. -/
theorem exec_waiting {log : List (Entry Msg Answer)}
    (ran : (system capacity starts serve).exec log state = some final) :
    state.waiting ++ arrivals log = (services log).map Prod.fst ++ final.waiting ∧
      (serverSystem starts serve).exec (services log) state.server = some final.server := by
  induction log generalizing state with
  | nil =>
      obtain rfl : state = final := Option.some.inj ran
      exact ⟨by simp [arrivals, services], rfl⟩
  | cons entry rest inductionHypothesis =>
      rw [TransitionSystem.exec_cons, Option.bind_eq_some_iff] at ran
      obtain ⟨middle, taken, remaining⟩ := ran
      obtain ⟨firstWaiting, firstServed⟩ := step_waiting taken
      obtain ⟨laterWaiting, laterServed⟩ := inductionHypothesis remaining
      rw [arrivals_cons, services_cons]
      constructor
      · calc
          state.waiting ++ (entry.arrival.toList ++ arrivals rest) =
              (state.waiting ++ entry.arrival.toList) ++ arrivals rest := by
            rw [List.append_assoc]
          _ = entry.service.toList.map Prod.fst ++ (middle.waiting ++ arrivals rest) := by
            rw [firstWaiting, List.append_assoc]
          _ = (entry.service.toList ++ services rest).map Prod.fst ++ final.waiting := by
            rw [laterWaiting, List.map_append, List.append_assoc]
      · rw [TransitionSystem.exec_append, firstServed, Option.bind_some]
        exact laterServed

/-- A mailbox that starts empty has served the first of the messages posted to it. -/
theorem arrivals_of_exec {log : List (Entry Msg Answer)}
    (isStart : (system capacity starts serve).initial state)
    (ran : (system capacity starts serve).exec log state = some final) :
    arrivals log = (services log).map Prod.fst ++ final.waiting := by
  obtain ⟨empty, free, -⟩ := isStart
  have waiting := (exec_waiting ran).1
  simpa [State.waiting, empty, free] using waiting

/-- The queue never holds more than its capacity. -/
theorem length_queue_le (reachable : (system capacity starts serve).Reachable state) :
    state.queue.length ≤ capacity := by
  apply reachable.invariant (motive := fun state => state.queue.length ≤ capacity)
  · rintro state ⟨empty, -, -⟩
    simp [empty]
  · intro entry state next _ _ taken fits
    cases entry with
    | posted msg =>
        obtain ⟨room, rfl⟩ := step_posted.mp taken
        rw [List.length_append, List.length_singleton]
        exact room
    | lost msg =>
        obtain ⟨-, rfl⟩ := step_lost.mp taken
        exact fits
    | taken msg =>
        obtain ⟨-, rfl⟩ := step_taken.mp taken
        rw [List.length_tail]
        omega
    | served msg answer =>
        obtain ⟨-, server, -, rfl⟩ := step_served.mp taken
        exact fits

/-- The server of a reachable mailbox is a reachable server. -/
theorem reachable_server (reachable : (system capacity starts serve).Reachable state) :
    (serverSystem starts serve).Reachable state.server := by
  induction reachable with
  | initial isInitial => exact .initial isInitial.2.2
  | step _ _ taken inductionHypothesis =>
      exact inductionHypothesis.exec (step_waiting taken).2

end Runs

end Mailbox
