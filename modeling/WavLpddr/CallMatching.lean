import WavLpddr.StaleMessages

/-!
# Calls of the firmware and their answers

A call clears the notification of its task, sends its message and takes the next
notification for the answer.  A wait that runs out takes the value that is there, and the
message of a call that gave up may be answered while a later call waits.  A call passes
because of its own message as long as neither happens with SUCCESS.
-/

namespace WavLpddr

open EventMachine TransitionSystem

/-- The message is sent by a call. -/
def FwMsg.IsCall (msg : FwMsg) : Prop := msg.Is .boot ∨ msg.Is .prep

instance (msg : FwMsg) : Decidable msg.IsCall := inferInstanceAs (Decidable (_ ∨ _))

/-- The call has cleared the notification and not returned. -/
def MainTask.Waiting : MainTask → Prop
  | .send _ _ | .wait _ _ => True
  | _ => False

instance : (task : MainTask) → Decidable task.Waiting
  | .send _ _ | .wait _ _ => .isTrue trivial
  | .receive | .clear _ => .isFalse id

namespace Sys

/-- The calls of the main task, numbered in their order. -/
structure Calls where
  current : Nat
  /-- The calls that sent the messages in flight, in the order of the messages. -/
  senders : List Nat
  /-- A message of the current call was answered SUCCESS. -/
  answered : Bool
deriving DecidableEq

section Matching

variable [Platform]

/-- The step handles the message of the current call and answers SUCCESS. -/
def AnswersCall (label : Label) (sys : Sys) (calls : Calls) : Prop :=
  Handles label sys fun msg => msg.IsCall ∧ calls.senders.head? = some calls.current ∧
    notification msg sys.fw = some (.main, .success)

instance (label : Label) (sys : Sys) (calls : Calls) :
    Decidable (AnswersCall label sys calls) :=
  inferInstanceAs (Decidable (Handles _ _ _))

def observeCalls (label : Label) (sys : Sys) (calls : Calls) : Calls :=
  match label, sys.main with
  | .hostMessage _, .receive => ⟨calls.current + 1, calls.senders, false⟩
  | .main, .send _ _ => { calls with senders := calls.senders ++ [calls.current] }
  | label, _ =>
      { calls with
        senders := if Handles label sys FwMsg.IsCall then calls.senders.tail else calls.senders
        answered := calls.answered || decide (AnswersCall label sys calls) }

/-- The system with the observer of the calls. -/
abbrev callObserved : TransitionSystem (Sys × Calls) Label :=
  monitored system ⟨0, [], false⟩ observeCalls

/-- The step lets `__send_fw_msg` return `pdPASS`. -/
def Passes (label : Label) (sys : Sys) : Prop :=
  match label, sys.main with
  | .main, .wait call tries =>
      (sys.notified .main).pending = true ∧
        afterResponse call tries (sys.notified .main).value = .inr true
  | .mainTimeout, .wait call tries =>
      (call.timesOut = true ∧ (sys.notified .main).pending = false) ∧
        afterResponse call tries (sys.notified .main).value = .inr true
  | _, _ => False

instance (label : Label) (sys : Sys) : Decidable (Passes label sys) :=
  match label, task : sys.main with
  | .main, .wait call tries => decidable_of_iff
      ((sys.notified .main).pending = true ∧
        afterResponse call tries (sys.notified .main).value = .inr true)
      (by simp only [Passes, task])
  | .mainTimeout, .wait call tries => decidable_of_iff
      ((call.timesOut = true ∧ (sys.notified .main).pending = false) ∧
        afterResponse call tries (sys.notified .main).value = .inr true)
      (by simp only [Passes, task])
  | .main, .receive | .main, .clear _ | .main, .send _ _ | .mainTimeout, .receive
  | .mainTimeout, .clear _ | .mainTimeout, .send _ _ =>
      .isFalse (by simp only [Passes, task, not_false_eq_true])
  | .receive, _ | .process, _ | .hostMessage _, _ | .cal, _ | .timerExpire, _ | .timerSend, _
  | .isr _ _ _ _, _ | .raise _, _ | .pllStatus _, _ | .report _ _, _ => .isFalse id

/-- A call passes only after one of its own messages was answered SUCCESS. -/
def CallsMatch (label : Label) (pair : Sys × Calls) : Prop :=
  Passes label pair.1 → pair.2.answered = true

/-- No wait runs out on a SUCCESS that was left behind, and no other message is answered
SUCCESS to the task of a call that waits. -/
def AnswersOwn : StepCondition (Sys × Calls) Label := fun label pair =>
  (label = .mainTimeout → (pair.1.notified .main).value ≠ .success) ∧
    ((Handles label pair.1 fun msg => pair.1.main.Waiting ∧
        notification msg pair.1.fw = some (.main, .success)) →
      AnswersCall label pair.1 pair.2)

instance (label : Label) (pair : Sys × Calls) : Decidable (AnswersOwn label pair) :=
  have : Decidable (label = .mainTimeout → (pair.1.notified .main).value ≠ .success) :=
    match label with
    | .mainTimeout => decidable_of_iff ((pair.1.notified .main).value ≠ .success)
        ⟨fun differs _ => differs, fun differs => differs rfl⟩
    | .receive | .process | .hostMessage _ | .main | .cal | .timerExpire | .timerSend
    | .isr _ _ _ _ | .raise _ | .pllStatus _ | .report _ _ => .isTrue nofun
  inferInstanceAs (Decidable (_ ∧ (_ → _)))

/-- A SUCCESS that waits to be read by a call is the answer to one of its messages. -/
def AnswerKept (pair : Sys × Calls) : Prop :=
  pair.1.main.Waiting → pair.1.notified .main = ⟨.success, true⟩ → pair.2.answered = true

/-- A step that does not handle a message and does not belong to the main task. -/
theorem observeCalls_other {label : Label} {sys : Sys} {calls : Calls}
    (notProcess : label ≠ .process) (notHost : isHostStep label = false) :
    observeCalls label sys calls = calls := by
  have noHandles : ∀ property, ¬ Handles label sys property := by
    intro property handles
    obtain ⟨-, rfl, -⟩ := exists_of_handles handles
    exact notProcess rfl
  have noAnswer : ¬ AnswersCall label sys calls := noHandles _
  cases label <;> first
    | (simp [isHostStep] at notHost; done)
    | simp [observeCalls, noHandles, noAnswer]

theorem observeCalls_process (sys : Sys) (calls : Calls) :
    observeCalls .process sys calls =
      { calls with
        senders := if Handles .process sys FwMsg.IsCall then calls.senders.tail
          else calls.senders
        answered := calls.answered || decide (AnswersCall .process sys calls) } := rfl

theorem notified_of_process {sys next : Sys} (taken : system.step .process sys = some next) :
    next.notified .main = sys.notified .main ∨
      ∃ msg response, sys.fwTask = .process msg ∧
        notification msg sys.fw = some (.main, response) ∧
        next.notified .main = ⟨response, true⟩ := by
  obtain ⟨-, taken⟩ := stepRunning_of_taken taken
  change sys.stepProcess = some next at taken
  unfold stepProcess at taken
  cases task : sys.fwTask with
  | receive => simp [task] at taken
  | process msg =>
      simp only [task, Option.some.injEq] at taken
      have notified := processed_notified msg sys
      rw [taken] at notified
      cases sent : notification msg sys.fw with
      | none =>
          left
          simp only [notified, sent]
      | some told =>
          obtain ⟨receiver, response⟩ := told
          by_cases isMain : receiver = .main
          · subst isMain
            right
            exact ⟨msg, response, rfl, sent, by simp [notified, sent]⟩
          · left
            simp [notified, sent, Ne.symm isMain]

theorem main_of_process {sys next : Sys} (taken : system.step .process sys = some next) :
    next.main = sys.main := by
  obtain ⟨msg, -, step⟩ := processStep_of_taken taken
  cases step with
  | unknown => rfl
  | failed => rfl
  | answered => exact answered_main _ _ _ _

theorem answerKept_of_process {sys next : Sys} {calls : Calls}
    (own : AnswersOwn .process (sys, calls)) (kept : AnswerKept (sys, calls))
    (taken : system.step .process sys = some next) :
    AnswerKept (next, observeCalls .process sys calls) := by
  intro waiting success
  change next.main.Waiting at waiting
  rw [main_of_process taken] at waiting
  rw [observeCalls_process]
  change (calls.answered || decide (AnswersCall .process sys calls)) = true
  rw [Bool.or_eq_true, decide_eq_true_eq]
  rcases notified_of_process taken with same | ⟨msg, response, task, sent, notified⟩
  · left
    exact kept waiting (same.symm.trans success)
  · right
    obtain rfl : response = .success := congrArg Notification.value (notified.symm.trans success)
    exact own.2 ((handles_process task).mpr ⟨waiting, sent⟩)

theorem answerKept_of_host {label : Label} {sys next : Sys} {calls : Calls}
    (isHost : isHostStep label = true) (kept : AnswerKept (sys, calls))
    (taken : system.step label sys = some next) :
    AnswerKept (next, observeCalls label sys calls) := by
  obtain ⟨-, taken⟩ := stepRunning_of_taken taken
  intro waiting success
  change next.main.Waiting at waiting
  change next.notified .main = _ at success
  cases label with
  | hostMessage req =>
      exfalso
      simp only [stepRunning, stepHostMessage] at taken
      split at taken
      · rename_i receiving
        split at taken
        · rw [← Option.some.inj taken] at waiting
          exact waiting
        · rw [← Option.some.inj taken, receiving] at waiting
          exact waiting
      · cases taken
  | main =>
      simp only [stepRunning, stepMain] at taken
      split at taken
      · cases taken
      · rw [← Option.some.inj taken] at success
        simp [clearNotification] at success
      · rename_i call tries sending
        obtain ⟨middle, isSent, same⟩ := Option.map_eq_some_iff.mp taken
        rw [← same, eq_of_send isSent] at success
        have sends : sys.main.Waiting := by
          rw [sending]
          trivial
        simpa only [observeCalls, sending] using kept sends success
      · split at taken
        · rw [← Option.some.inj taken, (resume_host _ _ _ _).2.2] at success
          simp [clearNotification] at success
        · cases taken
  | mainTimeout =>
      exfalso
      simp only [stepRunning, stepMainTimeout] at taken
      split at taken
      · split at taken
        · rename_i timesOut
          rw [← Option.some.inj taken, (resume_host _ _ _ _).2.2] at success
          simp [success] at timesOut
        · cases taken
      · cases taken
  | _ => cases isHost

theorem answerKept_of_reachableWhere {pair : Sys × Calls}
    (reachable : callObserved.ReachableWhere AnswersOwn pair) : AnswerKept pair := by
  apply reachable.invariant (motive := AnswerKept)
  · rintro ⟨sys, calls⟩ ⟨⟨table, reset, hw, timerStarts, -, -, rfl⟩, -⟩ waiting
    exact waiting.elim
  · rintro label ⟨sys, calls⟩ next before own taken kept
    obtain ⟨moved, stepped, rfl⟩ := Option.map_eq_some_iff.mp taken
    by_cases isProcess : label = .process
    · subst isProcess
      exact answerKept_of_process own kept stepped
    · cases isHost : isHostStep label with
      | true => exact answerKept_of_host isHost kept stepped
      | false =>
          obtain ⟨main, -, notified⟩ := (otherStep_of_taken stepped isProcess).host isHost
          intro waiting success
          rw [observeCalls_other isProcess isHost]
          exact kept (main ▸ waiting) (notified ▸ success)

omit [Platform] in
theorem success_of_pass {call : FirmwareCall} {tries : Nat} {value : FwResponse}
    (passed : afterResponse call tries value = .inr true) : value = .success := by
  by_contra other
  exact not_pass_of_ne_success other call tries passed

omit [Platform] in
theorem AnswerKept.callsMatch {pair : Sys × Calls} {label : Label} (kept : AnswerKept pair)
    (inTime : label = .mainTimeout → (pair.1.notified .main).value ≠ .success) :
    CallsMatch label pair := by
  intro passes
  unfold Passes at passes
  split at passes
  · rename_i call tries waiting
    obtain ⟨pending, passed⟩ := passes
    have success := success_of_pass passed
    have notified : pair.1.notified .main = ⟨.success, true⟩ := by
      rw [← success, ← pending]
    apply kept _ notified
    rw [waiting]
    trivial
  · exact absurd (success_of_pass passes.2) (inTime rfl)
  · exact passes.elim

/-- As long as no SUCCESS is left behind and no other message is answered SUCCESS to a task
that waits, a call passes only because of its own message. -/
theorem callsMatch_of_reachableWhere {pair : Sys × Calls} {label : Label}
    (reachable : callObserved.ReachableWhere AnswersOwn pair) (own : AnswersOwn label pair) :
    CallsMatch label pair :=
  (answerKept_of_reachableWhere reachable).callsMatch own.1

theorem Arrives.sending {sys : Sys} {label : Label} {msg : FwMsg}
    (arrives : Arrives sys label msg) (isCall : msg.IsCall) :
    label = .main ∧ ∃ call tries, sys.main = .send call tries := by
  cases arrives with
  | sent sends =>
      cases sends with
      | main sending => exact ⟨rfl, _, _, sending⟩
      | calRequest => exact absurd isCall (by decide)
      | calExit => exact absurd isCall (by decide)
      | timer => exact absurd isCall (by decide)
  | @reported line _ _ _ _ _ reports =>
      rcases isCall with isBoot | isPrep
      · exact absurd (reports.mem_events isBoot) (IrqLine.notMem_events _ (by decide))
      · exact absurd (reports.mem_events isPrep) (IrqLine.notMem_events _ (by decide))

omit [Platform] in
theorem isCall_msg (call : FirmwareCall) : call.msg.IsCall := by
  cases call with
  | start => exact .inl rfl
  | prepSwitch => exact .inr rfl

theorem inFlight_of_sending {sys next : Sys} {call : FirmwareCall} {tries : Nat}
    (taken : system.step .main sys = some next) (sending : sys.main = .send call tries) :
    next.inFlight = sys.inFlight ++ [call.msg] := by
  obtain ⟨-, taken⟩ := stepRunning_of_taken taken
  simp only [stepRunning, stepMain, sending] at taken
  obtain ⟨middle, isSent, same⟩ := Option.map_eq_some_iff.mp taken
  unfold send at isSent
  split at isSent
  · rename_i room
    have queue : (sys.fw.sendToBack call.msg).mq = sys.fw.mq ++ [call.msg] := by
      rw [Fw.sendToBack_mq, if_pos room]
    rw [← same, ← Option.some.inj isSent]
    exact inFlight_withFw queue
  · cases isSent

theorem senders_of_process {sys next : Sys} {calls : Calls} (reachable : system.Reachable sys)
    (taken : system.step .process sys = some next) (healthy : next.fault = none)
    (known : calls.senders.length = sys.inFlight.countP fun msg => msg.IsCall) :
    (observeCalls .process sys calls).senders.length =
      next.inFlight.countP fun msg => msg.IsCall := by
  obtain ⟨current, device⟩ := deviceSound_of_reachable reachable
  obtain ⟨msg, task, step⟩ := processStep_of_taken taken
  have removed : next.inFlight = sys.fw.mq := by
    rcases step.inFlight device with removed | ⟨stopped, -⟩
    · exact removed
    · simp [healthy] at stopped
  rw [observeCalls_process, removed]
  simp only [handles_process task]
  simp only [inFlight, task, List.countP_cons] at known
  by_cases isCall : msg.IsCall
  · simp only [isCall, decide_true, if_true] at known ⊢
    rw [List.length_tail, known]
    omega
  · simpa [isCall] using known

/-- The observer knows the call of every message that a call sent, until the firmware
stops. -/
theorem senders_length {pair : Sys × Calls} (reachable : callObserved.Reachable pair)
    (healthy : pair.1.fault = none) :
    pair.2.senders.length = pair.1.inFlight.countP fun msg => msg.IsCall := by
  revert healthy
  apply reachable.invariant (motive := fun pair => pair.1.fault = none →
    pair.2.senders.length = pair.1.inFlight.countP fun msg => msg.IsCall)
  · rintro ⟨sys, calls⟩ ⟨⟨table, reset, hw, timerStarts, -, -, rfl⟩, rfl⟩ -
    rfl
  · rintro label ⟨sys, calls⟩ next before - taken known healthy
    obtain ⟨moved, stepped, rfl⟩ := Option.map_eq_some_iff.mp taken
    have known := known (stepRunning_of_taken stepped).1
    by_cases isProcess : label = .process
    · subst isProcess
      exact senders_of_process before.of_monitored stepped healthy known
    · by_cases isSending : label = .main ∧ ∃ call tries, sys.main = .send call tries
      · obtain ⟨rfl, call, tries, sending⟩ := isSending
        simp only [inFlight_of_sending stepped sending, observeCalls, sending,
          List.length_append, List.countP_append, List.countP_singleton, decide_eq_true_eq,
          isCall_msg, if_true, List.length_singleton]
        exact congrArg (· + 1) known
      · have notHandles : ¬ Handles label sys FwMsg.IsCall := by
          intro handles
          obtain ⟨-, rfl, -⟩ := exists_of_handles handles
          exact isProcess rfl
        have sameSenders : (observeCalls label sys calls).senders = calls.senders := by
          unfold observeCalls
          split
          · rfl
          · rename_i sending
            exact absurd ⟨rfl, _, _, sending⟩ isSending
          · exact if_neg notHandles
        change (observeCalls label sys calls).senders.length = moved.inFlight.countP _
        rw [sameSenders]
        rcases inFlight_of_other stepped isProcess with same | ⟨last, arrives, added⟩
        · rw [same]
          exact known
        · have notCall : ¬ last.IsCall := fun isCall => isSending (arrives.sending isCall)
          rw [added, List.countP_append, List.countP_singleton]
          simpa [notCall] using known

/-- No wait runs out, and the stack holds a null sender when the PLL's handler runs. -/
def Prompt : StepCondition Sys Label := fun label _ => label ≠ .mainTimeout ∧ label.SenderNull

/-- The message of a call is in flight only while the call waits for its answer. -/
structure CallAwaited (pair : Sys × Calls) : Prop where
  single : pair.2.senders ≠ [] → pair.2.senders = [pair.2.current] ∧
    (∃ call tries, pair.1.main = .wait call tries) ∧ (pair.1.notified .main).pending = false
  cleared : ∀ call tries, pair.1.main = .send call tries →
    (pair.1.notified .main).pending = false

omit [Platform] in
theorem CallAwaited.none_sent {pair : Sys × Calls} (awaited : CallAwaited pair)
    (notWaiting : ∀ call tries, pair.1.main = .wait call tries →
      (pair.1.notified .main).pending = true) : pair.2.senders = [] := by
  by_contra some
  obtain ⟨-, ⟨call, tries, waiting⟩, unread⟩ := awaited.single some
  rw [notWaiting call tries waiting] at unread
  cases unread

theorem sender_of_notification {msg : FwMsg} {fw : Fw} {task : TaskHandle}
    {response : FwResponse} (told : notification msg fw = some (task, response)) :
    msg.xSender = some task := by
  unfold notification at told
  split at told
  · rename_i sender _ _ isSender _
    rw [isSender]
    exact congrArg some (congrArg Prod.fst (Option.some.inj told))
  · cases told

omit [Platform] in
/-- Without stale senders only a call's message names the main task. -/
theorem Posted.isCall {msg : FwMsg} (posted : Posted msg)
    (noSender : msg.FromPll → msg.xSender = none) (toMain : msg.xSender = some .main) :
    msg.IsCall := by
  cases posted with
  | call call isCall => exact isCall ▸ isCall_msg call
  | calRequest isRequest =>
      subst isRequest
      cases toMain
  | calExit isExit =>
      subst isExit
      cases toMain
  | timer isTimer =>
      subst isTimer
      cases toMain
  | irq line reports =>
      exfalso
      by_cases isPll : line = .pll
      · subst isPll
        rw [noSender reports.event] at toMain
        cases toMain
      · rw [(reports.blank isPll).2] at toMain
        cases toMain

/-- What the main task is told answers a message that a call sent. -/
theorem isCall_of_told {pair : Sys × Calls}
    (reachable : callObserved.ReachableWhere (fun label pair => Prompt label pair.1) pair)
    (healthy : pair.1.fault = none) {msg : FwMsg} {response : FwResponse}
    (task : pair.1.fwTask = .process msg)
    (told : notification msg pair.1.fw = some (.main, response)) :
    msg.IsCall ∧ pair.2.senders ≠ [] := by
  have listed := mem_inFlight_of_task task
  have null : system.ReachableWhere (fun label _ => label.SenderNull) pair.1 :=
    reachable.of_monitored_where.mono fun _ _ prompt => prompt.2
  have isCall : msg.IsCall := (posted_of_reachable null.reachable msg listed).isCall
    (sender_of_fromPll null msg listed) (sender_of_notification told)
  refine ⟨isCall, fun none => ?_⟩
  have known := senders_length reachable.reachable healthy
  rw [none, List.length_nil, eq_comm, List.countP_eq_zero] at known
  exact known msg listed (decide_eq_true isCall)

theorem CallAwaited.of_process {sys next : Sys} {calls : Calls}
    (awaited : CallAwaited (sys, calls))
    (isCall : ∀ msg response, sys.fwTask = .process msg →
      notification msg sys.fw = some (.main, response) → msg.IsCall ∧ calls.senders ≠ [])
    (taken : system.step .process sys = some next) :
    CallAwaited (next, observeCalls .process sys calls) := by
  have sameMain := main_of_process taken
  have notified : next.notified .main = sys.notified .main ∨
      (Handles .process sys FwMsg.IsCall ∧ calls.senders ≠ []) := by
    rcases notified_of_process taken with same | ⟨msg, response, task, told, -⟩
    · exact .inl same
    · obtain ⟨own, some⟩ := isCall msg response task told
      exact .inr ⟨(handles_process task).mpr own, some⟩
  rw [observeCalls_process]
  constructor
  · intro some
    dsimp only at some ⊢
    rw [sameMain]
    split at some
    · -- the only message in flight was handled
      exfalso
      have before : calls.senders ≠ [] := fun none => some (by rw [none]; rfl)
      rw [(awaited.single before).1] at some
      exact some rfl
    · rename_i notHandled
      rw [if_neg notHandled, notified.resolve_right fun handles => notHandled handles.1]
      exact awaited.single some
  · intro call tries sending
    dsimp only at sending ⊢
    rw [sameMain] at sending
    rcases notified with same | ⟨-, some⟩
    · rw [same]
      exact awaited.cleared call tries sending
    · obtain ⟨-, ⟨other, left, waiting⟩, -⟩ := awaited.single some
      rw [sending] at waiting
      cases waiting

theorem CallAwaited.of_host {label : Label} {sys next : Sys} {calls : Calls}
    (awaited : CallAwaited (sys, calls)) (isHost : isHostStep label = true)
    (inTime : label ≠ .mainTimeout) (taken : system.step label sys = some next) :
    CallAwaited (next, observeCalls label sys calls) := by
  obtain ⟨-, taken⟩ := stepRunning_of_taken taken
  cases label with
  | hostMessage req =>
      simp only [stepRunning, stepHostMessage] at taken
      split at taken
      · rename_i receiving
        have none := awaited.none_sent (fun call tries waiting => by simp [receiving] at waiting)
        have observed : observeCalls (.hostMessage req) sys calls =
            ⟨calls.current + 1, calls.senders, false⟩ := by
          simp only [observeCalls, receiving]
        rw [observed]
        refine ⟨fun some => absurd none some, ?_⟩
        split at taken
        · rw [← Option.some.inj taken]
          intro call tries sending
          cases sending
        · rw [← Option.some.inj taken]
          intro call tries sending
          cases receiving.symm.trans sending
      · cases taken
  | main =>
      simp only [stepRunning, stepMain] at taken
      split at taken
      · cases taken
      · rename_i call clearing
        have none := awaited.none_sent (fun call tries waiting => by simp [clearing] at waiting)
        have observed : (observeCalls .main sys calls).senders = calls.senders := by
          simp [observeCalls, clearing, Handles]
        rw [← Option.some.inj taken]
        exact ⟨fun some => absurd (observed.trans none) some,
          fun _ _ _ => by simp [clearNotification]⟩
      · rename_i call tries sending
        have none := awaited.none_sent (fun call tries waiting => by simp [sending] at waiting)
        have unread := awaited.cleared call tries sending
        have observed : observeCalls .main sys calls =
            { calls with senders := [calls.current] } := by
          have isNone : calls.senders = [] := none
          simp only [observeCalls, sending, isNone, List.nil_append]
        obtain ⟨middle, isSent, same⟩ := Option.map_eq_some_iff.mp taken
        rw [observed, ← same, eq_of_send isSent]
        refine ⟨fun _ => ⟨rfl, ⟨call, tries, rfl⟩, unread⟩, fun other left again => ?_⟩
        cases again
      · rename_i call tries waiting
        split at taken
        · rename_i pending
          have none := awaited.none_sent (fun _ _ _ => pending)
          have observed : (observeCalls .main sys calls).senders = calls.senders := by
            simp [observeCalls, waiting, Handles]
          rw [← Option.some.inj taken]
          refine ⟨fun some => absurd (observed.trans none) some, fun _ _ _ => ?_⟩
          dsimp only
          rw [(resume_host _ _ _ _).2.2]
          simp [clearNotification]
        · cases taken
  | mainTimeout => exact absurd rfl inTime
  | _ => cases isHost

theorem callAwaited_of_reachableWhere {pair : Sys × Calls}
    (reachable : callObserved.ReachableWhere (fun label pair => Prompt label pair.1) pair) :
    CallAwaited pair := by
  apply reachable.invariant (motive := CallAwaited)
  · rintro ⟨sys, calls⟩ ⟨⟨table, reset, hw, timerStarts, -, -, rfl⟩, rfl⟩
    exact ⟨fun some => absurd rfl some, nofun⟩
  · rintro label ⟨sys, calls⟩ next before prompt taken awaited
    obtain ⟨moved, stepped, rfl⟩ := Option.map_eq_some_iff.mp taken
    have healthy := (stepRunning_of_taken stepped).1
    by_cases isProcess : label = .process
    · subst isProcess
      exact awaited.of_process (fun _ _ task told => isCall_of_told before healthy task told)
        stepped
    · cases isHost : isHostStep label with
      | true => exact awaited.of_host isHost prompt.1 stepped
      | false =>
          obtain ⟨main, -, notified⟩ := (otherStep_of_taken stepped isProcess).host isHost
          rw [observeCalls_other isProcess isHost]
          constructor
          · dsimp only
            rw [main, notified]
            exact awaited.single
          · dsimp only
            rw [main, notified]
            exact awaited.cleared

/-- Where no wait runs out and no sender is stale, only the current call is answered. -/
theorem answersOwn_of_prompt {pair next : Sys × Calls} {label : Label}
    (reachable : callObserved.ReachableWhere (fun label pair => Prompt label pair.1) pair)
    (prompt : Prompt label pair.1) (taken : callObserved.step label pair = some next) :
    AnswersOwn label pair := by
  obtain ⟨moved, stepped, -⟩ := Option.map_eq_some_iff.mp taken
  refine ⟨fun timeout => absurd timeout prompt.1, fun handles => ?_⟩
  obtain ⟨msg, rfl, task, -, told⟩ := exists_of_handles handles
  obtain ⟨isCall, some⟩ :=
    isCall_of_told reachable (stepRunning_of_taken stepped).1 task told
  obtain ⟨own, -⟩ := (callAwaited_of_reachableWhere reachable).single some
  exact (handles_process task).mpr ⟨isCall, by rw [own]; rfl, told⟩

/-- In every run in which no wait runs out and the PLL's messages have null senders, a call
passes only because of its own message. -/
theorem callsMatch_of_prompt {pair : Sys × Calls} {label : Label}
    (reachable : callObserved.ReachableWhere (fun label pair => Prompt label pair.1) pair)
    (prompt : Prompt label pair.1) : CallsMatch label pair :=
  (answerKept_of_reachableWhere (reachable.weaken fun _ _ _ before prompt taken =>
    answersOwn_of_prompt before prompt taken)).callsMatch
      fun timeout => absurd timeout prompt.1

end Matching

/-- The observed state that a run from the reference start ends in, under a condition. -/
def callsAfter (condition : StepCondition (Sys × Calls) Label)
    [∀ label pair, Decidable (condition label pair)] (labels : List Label)
    (possible : ((observedReference (@observeCalls referencePlatform) ⟨0, [], false⟩).execWhere
      condition labels (referenceStart, ⟨0, [], false⟩)).isSome) : Sys × Calls :=
  observedAfterWhere (@observeCalls referencePlatform) ⟨0, [], false⟩ condition labels possible

theorem reachable_callsAfter {condition : StepCondition (Sys × Calls) Label}
    [∀ label pair, Decidable (condition label pair)] {labels : List Label}
    (possible : ((observedReference (@observeCalls referencePlatform) ⟨0, [], false⟩).execWhere
      condition labels (referenceStart, ⟨0, [], false⟩)).isSome) :
    (@callObserved referencePlatform).ReachableWhere condition
      (callsAfter condition labels possible) :=
  reachable_observedAfterWhere possible

/-- A preparation was handled while its call waits. -/
theorem callsMatch_prepared :
    CallsMatch .main
      (callsAfter (@AnswersOwn referencePlatform) (bootRun ++ hostPrep 0 ++ handleNext)
        (by decide +kernel)) :=
  @callsMatch_of_reachableWhere referencePlatform _ .main (reachable_callsAfter _)
    (by decide +kernel)

/-- A preparation was sent and is not handled. -/
def unhandledState : Sys × Calls :=
  callsAfter (fun _ _ => True) (bootRun ++ hostPrep 0) (by decide +kernel)

/-- When the wait runs out, the SUCCESS that answered the boot passes for the answer. -/
theorem not_callsMatch_unhandled :
    (@callObserved referencePlatform).Reachable unhandledState ∧
      ¬ CallsMatch .mainTimeout unhandledState := by
  constructor
  · exact reachable_callsAfter _
  · intro answered
    exact absurd (answered (by decide +kernel)) (by decide +kernel)

end Sys

end WavLpddr
