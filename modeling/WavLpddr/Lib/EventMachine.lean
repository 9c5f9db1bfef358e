import Mathlib.Logic.Basic

/-!
# Event-driven state machines with actions

A machine is a table of states, each with transitions keyed by an event and
with optional entry and exit actions.  Handling an event runs effects in the
surrounding program state and may fail.  The engine that walks the table is a
parameter: `Engine` states what a client relies on, and nothing else is known
about it.  The last section gives one engine that meets these laws.
-/

namespace EventMachine

/-- Result codes of handling one event. -/
inductive HandleEventRet
  | errArg
  | errorStateReached
  | stateChanged
  | stateLoopSelf
  | noStateChange
  | finalStateReached
deriving DecidableEq, Repr

variable (State Error Name Event Payload : Type)

/-- An action receives the event and its payload. -/
abbrev Action := Event → Payload → StateT State (Except Error) Unit

/-- One row of a state's transition table. -/
structure Transition where
  eventType : Event
  action : Option (Action State Error Event Payload)
  nextState : Name

/-- One state of the machine. -/
structure StateEntry where
  transitions : List (Transition State Error Name Event Payload)
  entryAction : Option (Action State Error Event Payload)
  exitAction : Option (Action State Error Event Payload)

/-- A machine table together with the place where its current state is kept. -/
structure Machine where
  entry : Name → StateEntry State Error Name Event Payload
  errorState : Name
  currentState : State → Name
  setCurrentState : Name → State → State

variable {State Error Name Event Payload : Type}

/-- Run an action that may be absent. -/
def runAction (action : Option (Action State Error Event Payload))
    (event : Event) (payload : Payload) : StateT State (Except Error) Unit :=
  match action with
  | none => pure ()
  | some run => run event payload

@[simp]
theorem runAction_none (event : Event) (payload : Payload) :
    (runAction none event payload : StateT State (Except Error) Unit) = pure () := rfl

@[simp]
theorem runAction_some (action : Action State Error Event Payload)
    (event : Event) (payload : Payload) :
    runAction (some action) event payload = action event payload := rfl

namespace Machine

variable [DecidableEq Name] [DecidableEq Event]
  (machine : Machine State Error Name Event Payload)

/-- The first row of the current state that matches the event. -/
def matching (event : Event) (state : State) :
    Option (Transition State Error Name Event Payload) :=
  (machine.entry (machine.currentState state)).transitions.find?
    fun transition => transition.eventType = event

/-- A row that leaves its state runs all of its actions.  A row that returns to
its own state is covered when that state has neither entry nor exit action. -/
def RunsAllActions (source : Name)
    (transition : Transition State Error Name Event Payload) : Prop :=
  transition.nextState ≠ source ∨
    ((machine.entry source).entryAction = none ∧
      (machine.entry source).exitAction = none)

/-- Exit action, transition action, entry action, and only then the new current
state. -/
def take (source : Name) (transition : Transition State Error Name Event Payload)
    (event : Event) (payload : Payload) :
    StateT State (Except Error) HandleEventRet := do
  runAction (machine.entry source).exitAction event payload
  runAction transition.action event payload
  runAction (machine.entry transition.nextState).entryAction event payload
  modify (machine.setCurrentState transition.nextState)
  pure (if transition.nextState = source then .stateLoopSelf else .stateChanged)

end Machine

/-- What a client relies on from the code that dispatches events. -/
class Engine where
  handleEvent : {State Error Name Event Payload : Type} → [DecidableEq Name] →
    [DecidableEq Event] → Machine State Error Name Event Payload → Event → Payload →
    StateT State (Except Error) HandleEventRet
  /-- An event that no row of the current state matches changes nothing. -/
  handleEvent_unmatched : ∀ {State Error Name Event Payload : Type}
    [DecidableEq Name] [DecidableEq Event]
    (machine : Machine State Error Name Event Payload) (event : Event)
    (payload : Payload) (state : State),
    machine.matching event state = none →
    handleEvent machine event payload state = .ok (.noStateChange, state)
  /-- A matching row to an ordinary, non-final state is taken. -/
  handleEvent_matched : ∀ {State Error Name Event Payload : Type}
    [DecidableEq Name] [DecidableEq Event]
    (machine : Machine State Error Name Event Payload) (event : Event)
    (payload : Payload) (state : State)
    (transition : Transition State Error Name Event Payload),
    machine.matching event state = some transition →
    transition.nextState ≠ machine.errorState →
    (machine.entry transition.nextState).transitions ≠ [] →
    machine.RunsAllActions (machine.currentState state) transition →
    handleEvent machine event payload state =
      machine.take (machine.currentState state) transition event payload state

section Reference

variable [DecidableEq Name] [DecidableEq Event]

/-- A straightforward engine: rows that return to their own state skip the exit
and entry actions. -/
def dispatch (machine : Machine State Error Name Event Payload)
    (event : Event) (payload : Payload) :
    StateT State (Except Error) HandleEventRet := fun state =>
  match machine.matching event state with
  | none => .ok (.noStateChange, state)
  | some transition =>
      let source := machine.currentState state
      if transition.nextState = source then
        (do
          runAction transition.action event payload
          modify (machine.setCurrentState transition.nextState)
          pure HandleEventRet.stateLoopSelf : StateT State (Except Error) _) state
      else
        machine.take source transition event payload state

/-- The straightforward engine meets the laws. -/
@[reducible]
def dispatchEngine : Engine where
  handleEvent := dispatch
  handleEvent_unmatched machine event payload state unmatched := by
    simp [dispatch, unmatched]
  handleEvent_matched machine event payload state transition matched _ _ runsAll := by
    simp only [dispatch, matched]
    by_cases same : transition.nextState = machine.currentState state
    · have noActions : (machine.entry (machine.currentState state)).entryAction = none ∧
          (machine.entry (machine.currentState state)).exitAction = none := by
        rcases runsAll with different | absent
        · exact absurd same different
        · exact absent
      simp [Machine.take, same, noActions.1, noActions.2]
    · simp [same]

end Reference

end EventMachine
