import WavLpddr.CallMatching
import WavLpddr.Lib.Quiescence
import WavLpddr.ServiceRuns

/-!
# The tasks come to rest

The firmware task and the main task have finitely much to do before something new arrives.
Every step of theirs uses up a part of the messages in the queue and of the tries of the call
that is being served, and as long as a task waits for an answer, a message of its own is in
flight.  So the two tasks never wait for each other, and the host is answered after boundedly
many steps, in whichever order the tasks take them.
-/

namespace WavLpddr

open EventMachine TransitionSystem

/-- How many steps a call needs at most before it returns. -/
def MainTask.rank : MainTask → Nat
  | .receive => 0
  | .wait _ tries => 2 * tries + 1
  | .send _ tries => 2 * tries + 2
  | .clear call => 2 * call.tryCount + 3

/-- The tries that remain are at most those of the call. -/
def MainTask.Bounded : MainTask → Prop
  | .send call tries => tries ≤ call.tryCount
  | .wait call tries => tries ≤ call.tryCount
  | _ => True

theorem FirmwareCall.tryCount_le (call : FirmwareCall) : call.tryCount ≤ 3 := by
  cases call <;> simp [tryCount]

theorem MainTask.Bounded.rank_le {task : MainTask} (bounded : task.Bounded) : task.rank ≤ 9 := by
  cases task with
  | receive => exact Nat.zero_le _
  | clear call =>
      have few := call.tryCount_le
      simp only [MainTask.rank]
      omega
  | send call tries =>
      have few := call.tryCount_le
      change tries ≤ call.tryCount at bounded
      simp only [MainTask.rank]
      omega
  | wait call tries =>
      have few := call.tryCount_le
      change tries ≤ call.tryCount at bounded
      simp only [MainTask.rank]
      omega

/-- The steps that the firmware task and the main task take without the passing of time. -/
def Label.IsTaskStep : Label → Prop
  | .receive | .process | .main => True
  | _ => False

/-- The steps of the two tasks, and the end of a bounded wait. -/
def Label.IsTaskStepOrTimeout : Label → Prop
  | .mainTimeout => True
  | label => label.IsTaskStep

theorem Label.IsTaskStep.orTimeout {label : Label} (isTask : label.IsTaskStep) :
    label.IsTaskStepOrTimeout := by
  cases label with
  | mainTimeout => trivial
  | _ => exact isTask

namespace Sys

/-- What the two tasks have left to do. -/
def work (sys : Sys) : Nat :=
  3 * sys.main.rank + 2 * sys.fw.mq.length + (if sys.fwTask = .receive then 0 else 1) +
    if sys.fault.isSome then 0 else 1

/-- A call with all its tries, a full queue, a message in hand and the fault. -/
def maxWork : Nat := 3 * 9 + 2 * msgQueueLen + 2

/-- The task waits for the answer to its message. -/
def Awaits (sys : Sys) : TaskHandle → Prop
  | .main => ∃ call tries, sys.main = .wait call tries
  | .periodicCal => sys.cal = .waitResponse
  | .other => False

/-- A task that waits was answered, or its message is in flight. -/
def AnswerDue (sys : Sys) : Prop :=
  ∀ task, sys.Awaits task →
    (sys.notified task).pending = true ∨ ∃ msg ∈ sys.inFlight, msg.xSender = some task

variable [Platform] {label : Label} {sys next : Sys}

/-- A call that returns is over or has a try less. -/
theorem resume_main (call : FirmwareCall) (tries : Nat) (value : FwResponse) (sys : Sys) :
    (sys.resume call tries value).main = .receive ∨
      (tries ≠ 0 ∧ (sys.resume call tries value).main = .send call (tries - 1)) := by
  cases value with
  | success => exact .inl rfl
  | failure => exact .inl rfl
  | retry =>
      unfold resume afterResponse
      by_cases last : tries - 1 = 0
      · left
        rw [if_pos last]
      · right
        rw [if_neg last]
        exact ⟨by omega, rfl⟩

theorem bounded_resume {call : FirmwareCall} {tries : Nat} (few : tries ≤ call.tryCount)
    (value : FwResponse) (sys : Sys) : (sys.resume call tries value).main.Bounded := by
  rcases resume_main call tries value sys with ended | ⟨-, again⟩
  · rw [ended]
    trivial
  · rw [again]
    change tries - 1 ≤ call.tryCount
    omega

theorem rank_resume (call : FirmwareCall) (tries : Nat) (value : FwResponse) (sys : Sys) :
    (sys.resume call tries value).main.rank < (MainTask.wait call tries).rank := by
  rcases resume_main call tries value sys with ended | ⟨more, again⟩
  · rw [ended]
    simp [MainTask.rank]
  · rw [again]
    simp only [MainTask.rank]
    omega

theorem main_of_taken (taken : system.step label sys = some next)
    (aside : isHostStep label = false) : next.main = sys.main := by
  by_cases isProcess : label = .process
  · subst isProcess
    exact main_of_process taken
  · exact ((otherStep_of_taken taken isProcess).host aside).1

theorem bounded_of_reachable (reachable : system.Reachable sys) : sys.main.Bounded := by
  apply reachable.invariant (motive := fun sys => sys.main.Bounded)
  · rintro _ ⟨table, reset, hw, timerStarts, -, -, rfl⟩
    trivial
  · intro label sys next _ _ taken bounded
    cases isHost : isHostStep label with
    | false => exact main_of_taken taken isHost ▸ bounded
    | true =>
        obtain ⟨-, running⟩ := stepRunning_of_taken taken
        cases label with
        | hostMessage req =>
            simp only [stepRunning, stepHostMessage] at running
            split at running
            · rename_i waiting
              split at running
              · rw [← Option.some.inj running]
                trivial
              · rw [← Option.some.inj running]
                exact bounded
            · cases running
        | main =>
            simp only [stepRunning, stepMain] at running
            split at running
            · cases running
            · rw [← Option.some.inj running]
              exact Nat.le_refl _
            · rename_i call tries sending
              obtain ⟨middle, -, rfl⟩ := Option.map_eq_some_iff.mp running
              rw [sending] at bounded
              exact bounded
            · rename_i call tries waiting
              rw [waiting] at bounded
              split at running
              · rw [← Option.some.inj running]
                exact bounded_resume bounded _ _
              · cases running
        | mainTimeout =>
            simp only [stepRunning, stepMainTimeout] at running
            split at running
            · rename_i call tries waiting
              rw [waiting] at bounded
              split at running
              · rw [← Option.some.inj running]
                exact bounded_resume bounded _ _
              · cases running
            · cases running
        | _ => cases isHost

/-- A reachable state has at most this much to do. -/
theorem work_le (reachable : system.Reachable sys) : sys.work ≤ maxWork := by
  have few := (bounded_of_reachable reachable).rank_le
  have short : sys.fw.mq.length ≤ msgQueueLen :=
    Mailbox.length_queue_le (mailboxRefinement.reachable_view reachable)
  unfold work maxWork
  split <;> split <;> omega

theorem work_of_receive (taken : system.step .receive sys = some next) :
    next.work < sys.work := by
  obtain ⟨healthy, running⟩ := stepRunning_of_taken taken
  simp only [stepRunning, stepReceive] at running
  split at running
  · rename_i msg rest free queued
    rw [← Option.some.inj running]
    simp only [work, healthy, free, queued, List.length_cons]
    simp
    omega
  · cases running

theorem work_of_process (reachable : system.Reachable sys)
    (taken : system.step .process sys = some next) : next.work < sys.work := by
  obtain ⟨current, device⟩ := deviceSound_of_reachable reachable
  obtain ⟨healthy, -⟩ := stepRunning_of_taken taken
  obtain ⟨msg, task, step⟩ := processStep_of_taken taken
  have busy : sys.fwTask ≠ .receive := by simp [task]
  cases step with
  | unknown =>
      simp only [work, healthy, if_neg busy]
      simp
  | failed =>
      simp only [work, healthy, if_neg busy]
      simp
  | answered decoded ran =>
      simp only [work, healthy, if_neg busy, answered_main, answered_fw, answered_fwTask,
        answered_fault, ran.mq device]
      simp

theorem work_resume {call : FirmwareCall} {tries : Nat} (waiting : sys.main = .wait call tries)
    (value : FwResponse) : (sys.resume call tries value).work < sys.work := by
  have smaller := rank_resume call tries value sys
  obtain ⟨fwTask, -, fault⟩ := resume_frame call tries value sys
  simp only [work, resume_fw, fwTask, fault, waiting]
  omega

theorem work_of_main (taken : system.step .main sys = some next) : next.work < sys.work := by
  obtain ⟨healthy, running⟩ := stepRunning_of_taken taken
  simp only [stepRunning, stepMain] at running
  cases task : sys.main with
  | receive => simp [task] at running
  | clear call =>
      simp only [task, Option.some.injEq] at running
      rw [← running]
      simp only [work, task, MainTask.rank, clearNotification]
      omega
  | send call tries =>
      simp only [task] at running
      obtain ⟨middle, isSent, rfl⟩ := Option.map_eq_some_iff.mp running
      have grown : (sys.fw.sendToBack call.msg).mq.length ≤ sys.fw.mq.length + 1 := by
        rw [Fw.sendToBack_mq]
        split
        · simp
        · omega
      rw [eq_of_send isSent]
      simp only [work, task, MainTask.rank, withFw]
      omega
  | wait call tries =>
      simp only [task] at running
      split at running
      · have waiting : (sys.clearNotification .main).main = .wait call tries := task
        exact Option.some.inj running ▸ work_resume waiting _
      · cases running

theorem work_of_mainTimeout (taken : system.step .mainTimeout sys = some next) :
    next.work < sys.work := by
  obtain ⟨-, running⟩ := stepRunning_of_taken taken
  simp only [stepRunning, stepMainTimeout] at running
  split at running
  · rename_i call tries waiting
    split at running
    · exact Option.some.inj running ▸ work_resume waiting _
    · cases running
  · cases running

/-- Every step of the two tasks leaves less to do. -/
theorem work_decreases :
    Decreases (system : TransitionSystem Sys Label) Label.IsTaskStepOrTimeout work := by
  intro label sys next reachable isTask taken
  cases label with
  | receive => exact work_of_receive taken
  | process => exact work_of_process reachable taken
  | main => exact work_of_main taken
  | mainTimeout => exact work_of_mainTimeout taken
  | _ => cases isTask

omit [Platform] in
/-- A message that was sent is in flight. -/
theorem mem_inFlight_of_send {msg : FwMsg} (sent : sys.send msg = some next) :
    msg ∈ next.inFlight := by
  unfold send at sent
  split at sent
  · rename_i room
    rw [← Option.some.inj sent]
    have queued : msg ∈ (sys.fw.sendToBack msg).mq := by
      rw [Fw.sendToBack_mq, if_pos room]
      simp
    unfold inFlight withFw
    cases sys.fwTask with
    | receive => exact queued
    | process other => exact List.mem_cons_of_mem other queued
  · cases sent

omit [Platform] in
theorem answered_cal (msg : FwMsg) (response : FwResponse) (after : Fw) (sys : Sys) :
    (sys.answered msg response after).cal = sys.cal := by
  unfold answered
  split <;> rfl

theorem awaits_of_main (running : sys.stepMain = some next) (awaits : next.Awaits .main) :
    ∃ msg ∈ next.inFlight, msg.xSender = some .main := by
  obtain ⟨call, tries, waiting⟩ := awaits
  unfold stepMain at running
  cases task : sys.main with
  | receive => simp [task] at running
  | clear other =>
      simp only [task, Option.some.injEq] at running
      rw [← running] at waiting
      cases waiting
  | send other left =>
      simp only [task] at running
      obtain ⟨middle, isSent, rfl⟩ := Option.map_eq_some_iff.mp running
      have listed : other.msg ∈ middle.inFlight := mem_inFlight_of_send isSent
      exact ⟨other.msg, listed, by cases other <;> rfl⟩
  | wait other left =>
      simp only [task] at running
      split at running
      · rw [← Option.some.inj running] at waiting
        rcases resume_main other left (sys.notified .main).value
          (sys.clearNotification .main) with ended | ⟨-, again⟩
        · rw [ended] at waiting
          cases waiting
        · rw [again] at waiting
          cases waiting
      · cases running

theorem awaits_of_mainTimeout (running : sys.stepMainTimeout = some next) :
    ¬ next.Awaits .main := by
  rintro ⟨call, tries, waiting⟩
  unfold stepMainTimeout at running
  split at running
  · rename_i other left _
    split at running
    · rw [← Option.some.inj running] at waiting
      rcases resume_main other left (sys.notified .main).value sys with ended | ⟨-, again⟩
      · rw [ended] at waiting
        cases waiting
      · rw [again] at waiting
        cases waiting
    · cases running
  · cases running

theorem awaits_of_hostMessage {req : Message} (running : sys.stepHostMessage req = some next) :
    ¬ next.Awaits .main := by
  rintro ⟨call, tries, waiting⟩
  unfold stepHostMessage at running
  split at running
  · rename_i idle
    split at running
    · rw [← Option.some.inj running] at waiting
      cases waiting
    · rw [← Option.some.inj running] at waiting
      rw [show sys.main = .wait call tries from waiting] at idle
      cases idle
  · cases running

theorem awaits_of_cal (running : sys.stepCal = some next) (awaits : next.Awaits .periodicCal) :
    ∃ msg ∈ next.inFlight, msg.xSender = some .periodicCal := by
  change next.cal = .waitResponse at awaits
  unfold stepCal at running
  split at running
  · cases task : sys.cal with
    | send =>
        simp only [task] at running
        obtain ⟨middle, isSent, rfl⟩ := Option.map_eq_some_iff.mp running
        have listed : phymstrReqMsg ∈ middle.inFlight := mem_inFlight_of_send isSent
        exact ⟨phymstrReqMsg, listed, rfl⟩
    | sendExit =>
        simp only [task] at running
        obtain ⟨middle, isSent, rfl⟩ := Option.map_eq_some_iff.mp running
        cases awaits
    | waitCompletion =>
        simp only [task] at running
        split at running
        · rw [← Option.some.inj running] at awaits
          cases awaits
        · cases running
    | waitResponse =>
        simp only [task] at running
        split at running
        · rw [← Option.some.inj running] at awaits
          dsimp only at awaits
          split at awaits <;> cases awaits
        · cases running
    | initCompletion =>
        simp only [task, Option.some.injEq] at running
        rw [← running] at awaits
        cases awaits
    | clear =>
        simp only [task, Option.some.injEq] at running
        rw [← running] at awaits
        cases awaits
    | delay =>
        simp only [task, Option.some.injEq] at running
        rw [← running] at awaits
        dsimp only at awaits
        split at awaits <;> cases awaits
    | checkPhyMstr =>
        simp only [task, Option.some.injEq] at running
        rw [← running] at awaits
        dsimp only at awaits
        split at awaits <;> cases awaits
  · cases running

/-- A task that waits has waited before and reads the same, or has just sent its message. -/
theorem awaits_of_taken (taken : system.step label sys = some next)
    (notProcess : label ≠ .process) {task : TaskHandle} (awaits : next.Awaits task) :
    (sys.Awaits task ∧ next.notified task = sys.notified task) ∨
      ∃ msg ∈ next.inFlight, msg.xSender = some task := by
  have other := otherStep_of_taken taken notProcess
  have keeps := keeps_of_taken taken notProcess task
  obtain ⟨-, running⟩ := stepRunning_of_taken taken
  cases task with
  | main =>
      cases isHost : isHostStep label with
      | false =>
          obtain ⟨sameMain, -, sameNotified⟩ := other.host isHost
          obtain ⟨call, tries, waiting⟩ := awaits
          exact .inl ⟨⟨call, tries, sameMain ▸ waiting⟩, sameNotified⟩
      | true =>
          cases label with
          | hostMessage req => exact absurd awaits (awaits_of_hostMessage running)
          | main => exact .inr (awaits_of_main running awaits)
          | mainTimeout => exact absurd awaits (awaits_of_mainTimeout running)
          | _ => cases isHost
  | periodicCal =>
      by_cases isCal : label = .cal
      · subst isCal
        exact .inr (awaits_of_cal running awaits)
      · have sameCal := other.cal isCal
        left
        refine ⟨sameCal.symm.trans awaits, ?_⟩
        rcases keeps with same | ⟨clears, -⟩
        · exact same
        · cases clears
          exact absurd rfl isCal
  | other => exact absurd awaits not_false

theorem answerDue_of_reachable (reachable : system.Reachable sys) : sys.AnswerDue := by
  apply reachable.invariant (motive := AnswerDue)
  · rintro _ ⟨table, reset, hw, timerStarts, -, -, rfl⟩ task awaits
    cases task with
    | main =>
        obtain ⟨call, tries, waiting⟩ := awaits
        cases waiting
    | periodicCal => cases awaits
    | other => exact absurd awaits not_false
  · intro label sys next before _ taken due task awaits
    by_cases isProcess : label = .process
    · subst isProcess
      obtain ⟨current, device⟩ := deviceSound_of_reachable before
      obtain ⟨msg, isHand, step⟩ := processStep_of_taken taken
      cases step with
      | unknown undecoded =>
          obtain ⟨event, decoded⟩ :=
            (posted_of_reachable before msg (mem_inFlight_of_task isHand)).decodes
          rw [decoded] at undecoded
          cases undecoded
      | failed => exact due task (by cases task <;> exact awaits)
      | answered decoded ran =>
          rename_i event response after
          have sameAwaits : sys.Awaits task := by
            cases task with
            | main =>
                obtain ⟨call, tries, waiting⟩ := awaits
                exact ⟨call, tries, by simpa using waiting⟩
            | periodicCal =>
                change (sys.answered msg response after).cal = .waitResponse at awaits
                rwa [answered_cal] at awaits
            | other => exact awaits
          rw [answered_notified]
          by_cases own : msg.xSender = some task
          · left
            rw [if_pos own]
          · rw [if_neg own]
            rcases due task sameAwaits with pending | ⟨due, listed, isOwn⟩
            · exact .inl pending
            · right
              refine ⟨due, ?_, isOwn⟩
              have inQueue : due ∈ sys.fw.mq := by
                rcases List.mem_cons.mp (by simpa [inFlight, isHand] using listed) with
                  rfl | inQueue
                · exact absurd isOwn own
                · exact inQueue
              simpa [inFlight, ran.mq device] using inQueue
    · rcases awaits_of_taken taken isProcess awaits with ⟨waited, same⟩ | sent
      · rw [same]
        rcases due task waited with pending | ⟨msg, listed, isOwn⟩
        · exact .inl pending
        · right
          refine ⟨msg, ?_, isOwn⟩
          rcases inFlight_of_other taken isProcess with kept | ⟨last, -, added⟩
          · exact kept ▸ listed
          · exact added ▸ List.mem_append_left _ listed
      · exact .inr sent

/-- Nothing is in flight, the host is answered, and an answer to the periodic calibration is
there to be read. -/
structure Settled (sys : Sys) : Prop where
  inFlight : sys.inFlight = []
  main : sys.main = .receive
  cal : sys.cal = .waitResponse → (sys.notified .periodicCal).pending = true

theorem stepRunning_of_stuck (healthy : sys.fault = none)
    (stuck : system.step label sys = none) : sys.stepRunning label = none := by
  change (if sys.fault.isSome then none else stepRunning label sys) = none at stuck
  simpa [healthy] using stuck

/-- The two tasks rest only when they are done. -/
theorem settled_of_atRest (reachable : system.Reachable sys) (healthy : sys.fault = none)
    (atRest : (system : TransitionSystem Sys Label).AtRest Label.IsTaskStep sys) :
    sys.Settled := by
  have stuck : ∀ label : Label, label.IsTaskStep → sys.stepRunning label = none :=
    fun label isTask => stepRunning_of_stuck healthy (atRest label isTask)
  have free : sys.fwTask = .receive := by
    cases task : sys.fwTask with
    | receive => rfl
    | process msg =>
        have ready := stuck .process trivial
        simp [stepRunning, stepProcess, task] at ready
  have empty : sys.fw.mq = [] := by
    cases queue : sys.fw.mq with
    | nil => rfl
    | cons msg rest =>
        have ready := stuck .receive trivial
        simp [stepRunning, stepReceive, free, queue] at ready
  have nothing : sys.inFlight = [] := by
    simp [Sys.inFlight, free, empty]
  have answered : ∀ task, sys.Awaits task → (sys.notified task).pending = true := by
    intro task awaits
    rcases answerDue_of_reachable reachable task awaits with pending | ⟨msg, listed, -⟩
    · exact pending
    · rw [nothing] at listed
      cases listed
  refine ⟨nothing, ?_, fun waits => answered .periodicCal waits⟩
  have ready := stuck .main trivial
  cases task : sys.main with
  | receive => rfl
  | clear call => simp [stepRunning, stepMain, task] at ready
  | send call tries =>
      have room : sys.fw.mq.length < msgQueueLen := by simp [empty, msgQueueLen]
      simp [stepRunning, stepMain, task, send, room] at ready
  | wait call tries =>
      have pending := answered .main ⟨call, tries, task⟩
      simp [stepRunning, stepMain, task, pending] at ready

/-- What the two tasks do before anything new arrives, in whichever order they take their
steps. -/
structure Settles (sys : Sys) : Prop where
  bounded : ∀ labels final, (∀ label ∈ labels, Label.IsTaskStepOrTimeout label) →
    system.exec labels sys = some final → labels.length ≤ maxWork
  rests : ∃ labels final, (∀ label ∈ labels, Label.IsTaskStep label) ∧
    system.exec labels sys = some final ∧ AtRest system Label.IsTaskStep final
  settled : ∀ labels final, (∀ label ∈ labels, Label.IsTaskStepOrTimeout label) →
    system.exec labels sys = some final → AtRest system Label.IsTaskStep final →
      final.fault = none → final.Settled

/-- From every reachable state the two tasks stop after boundedly many steps, and then the
firmware has met a fault or the host is answered and nothing is in flight. -/
theorem settles_of_reachable (reachable : system.Reachable sys) : sys.Settles where
  bounded labels final all run := by
    have few := work_decreases.length_le all reachable run
    have little := work_le reachable
    omega
  rests := (work_decreases.mono fun _ => Label.IsTaskStep.orTimeout).exists_atRest reachable
  settled labels final _ run atRest healthy :=
    settled_of_atRest (reachable.exec run) healthy atRest

end Sys

/-- The call of the host is in flight with a request of the timer while a switch is pending. -/
theorem Sys.settles_calling :
    @Sys.Settles referencePlatform
      (Sys.after (Sys.bootRun ++ Sys.prepRun 0 ++ Sys.initStartIrq ++ Sys.handleNext ++
        Sys.hostPrep 1 ++ [.timerExpire, .timerSend]) (by decide +kernel)) :=
  @Sys.settles_of_reachable referencePlatform _ (Sys.reachable_after _)

end WavLpddr
