import WavLpddr.PreparedSwitch

/-!
# The prepared configuration during a switch

From the interrupt of the switch request on, the prepared bank, the DFI FIFO and the
prepared VCO must not change until the switch is complete.  The switch machine refuses
preparations only from INIT_START on, so a preparation that is handled while INIT_START
still waits behind it changes all three.
-/

namespace WavLpddr

open EventMachine TransitionSystem

/-- What was prepared is the same. -/
structure Fw.SamePrepared (before after : Fw) : Prop where
  bank : after.wddr.phy = before.wddr.phy
  fifo : after.wddr.dfich = before.wddr.dfich
  next : after.wddr.pll.pVcoNext = before.wddr.pll.pVcoNext
  regs : after.wddr.pll.regs = before.wddr.pll.regs
  vco : ∀ vcoId, before.wddr.pll.pVcoNext = some vcoId →
    after.wddr.pll.vco vcoId = before.wddr.pll.vco vcoId

theorem Fw.SamePrepared.refl (fw : Fw) : fw.SamePrepared fw :=
  ⟨rfl, rfl, rfl, rfl, fun _ _ => rfl⟩

theorem Fw.samePrepared_unprepared [KernelIo] (fw : Fw) : fw.SamePrepared fw.unprepared := by
  constructor
  all_goals simp [Fw.unprepared, Wddr.announced]

instance [KernelIo] (fw : Fw) : Decidable fw.HoldsSwitch :=
  decidable_of_iff (fw.wddr.pll.pVcoNext.isSome ∧ prepDone fw.wddr.fsw)
    ⟨fun holds => ⟨holds.1, holds.2⟩, fun holds => ⟨holds.next, holds.prepDone⟩⟩

namespace Sys

section Frozen

variable [Platform]

/-- Whether a prepared switch was started and is not complete. -/
def observeSwitch (label : Label) (sys : Sys) (started : Bool) : Bool :=
  if isSwitchIrq label then started || decide sys.fw.HoldsSwitch
  else
    started && !decide (Handles label sys fun msg =>
      msg.Is .pllLock ∧ sys.fw.Running ∧ sys.fw.fsw = .pending)

/-- The system with the observer of the switch. -/
abbrev observedSystem : TransitionSystem (Sys × Bool) Label :=
  monitored system false observeSwitch

/-- No preparation in hand changes what a started switch uses. -/
def FrozenSound (pair : Sys × Bool) : Prop :=
  pair.2 = true → ∀ msg, pair.1.fwTask = .process msg → msg.Is .prep →
    ∀ response after, processMessage msg pair.1.fw = .ok (response, after) →
      pair.1.fw.SamePrepared after

/-- The switch machine prepares only while no INIT_START waits, and the interrupt of the
switch request finds room in the queue. -/
def PrepsFirst : StepCondition (Sys × Bool) Label := fun label pair =>
  (¬ Handles label pair.1 fun msg => msg.Is .prep ∧ pair.1.fw.Running ∧
    pair.1.fw.dfi ≠ .ctrlUpd ∧ pair.1.fw.fsw = .prep ∧
      pair.1.fw.wddr.table.validFreq msg.data.freqId = true ∧
        ∃ queued ∈ pair.1.fw.mq, queued.Is .initStart) ∧
    (isSwitchIrq label = true → pair.1.fw.mq.length < msgQueueLen)

instance (label : Label) (pair : Sys × Bool) : Decidable (PrepsFirst label pair) :=
  inferInstanceAs (Decidable (¬ _ ∧ (_ → _)))

/-- A started switch is pending, or its INIT_START is in flight. -/
def StartedInFlight (pair : Sys × Bool) : Prop :=
  pair.2 = true → 0 < pair.1.starts ∨ pair.1.fw.fsw = .pending

theorem startedInFlight_of_move {label : Label} {sys next : Sys} {started : Bool}
    (reachable : system.Reachable sys) (first : PrepsFirst label (sys, started))
    (inFlight : StartedInFlight (sys, started)) (move : SwitchMove sys label next) :
    StartedInFlight (next, observeSwitch label sys started) := by
  intro observed
  have before : isSwitchIrq label = false → 0 < sys.starts ∨ sys.fw.fsw = .pending := by
    intro notIrq
    unfold observeSwitch at observed
    rw [notIrq, if_neg Bool.false_ne_true, Bool.and_eq_true] at observed
    exact inFlight observed.1
  have notIrq_of_handles : ∀ {property}, Handles label sys property →
      isSwitchIrq label = false := by
    intro property handles
    obtain ⟨-, rfl, -⟩ := exists_of_handles handles
    rfl
  cases move with
  | kept notIrq same starts =>
      rcases before notIrq with inQueue | pending
      · exact .inl (starts ▸ inQueue)
      · exact .inr (same.fsw.trans pending)
  | started isIrq same wasArmed disarmed starts =>
      have room := first.2 isIrq
      rw [if_pos room] at starts
      left
      change 0 < next.starts
      omega
  | booted isProcess notReady fsw armed starts =>
      exfalso
      have starting : sys.SwitchStarting := .inr (before (isProcess ▸ rfl))
      have ready := (switchOpen_of_starting reachable starting).running.1
      simp [notReady] at ready
  | missed isStart same reason starts =>
      have starting : sys.SwitchStarting := .inr (.inl (by omega))
      have isOpen := switchOpen_of_starting reachable starting
      have lines := linesSound_of_reachable reachable
      right
      change next.fw.fsw = .pending
      rw [same]
      rcases reason with notRunning | updating | notPrep
      · exact absurd isOpen.running notRunning
      · exact absurd updating isOpen.admitted
      · cases state : sys.fw.fsw with
        | prep => exact absurd state notPrep
        | pending => rfl
        | error => exact absurd state lines.fswOrdinary
  | prepared isProcess _ _ _ _ inPrep _ _ starts =>
      rcases before (isProcess ▸ rfl) with inQueue | pending
      · exact .inl (starts ▸ inQueue)
      · simp [inPrep] at pending
  | unchecked isProcess _ _ _ _ inPrep _ _ _ starts =>
      rcases before (isProcess ▸ rfl) with inQueue | pending
      · exact .inl (starts ▸ inQueue)
      · simp [inPrep] at pending
  | entered _ _ _ _ becomes =>
      right
      change next.fw.fsw = .pending
      rw [becomes]
      rfl
  | finished isLock running pending =>
      exfalso
      obtain ⟨msg, rfl, task, isLock⟩ := exists_of_handles isLock
      have completes : Handles .process sys fun msg =>
          msg.Is .pllLock ∧ sys.fw.Running ∧ sys.fw.fsw = .pending :=
        (handles_process task).mpr ⟨isLock, running, pending⟩
      simp [observeSwitch, isSwitchIrq, completes] at observed

theorem startedInFlight_of_reachableWhere {pair : Sys × Bool}
    (reachable : observedSystem.ReachableWhere PrepsFirst pair) : StartedInFlight pair := by
  apply reachable.invariant (motive := StartedInFlight)
  · rintro pair ⟨-, notStarted⟩ started
    rw [notStarted] at started
    cases started
  · rintro label ⟨sys, started⟩ next before first taken inFlight
    obtain ⟨moved, stepped, rfl⟩ := Option.map_eq_some_iff.mp taken
    have reachable := before.of_monitored
    exact startedInFlight_of_move reachable first inFlight
      (switchMove_of_taken reachable stepped)

/-- A preparation that the machine does not make changes nothing that was prepared. -/
theorem samePrepared_of_processed {fw after : Fw} {msg : FwMsg} {response : Option FwResponse}
    {current : VcoIndex} (device : fw.DeviceSound current) (isPrep : msg.Is .prep)
    (unmade : ¬ (fw.Running ∧ fw.dfi ≠ .ctrlUpd ∧ fw.fsw = .prep ∧
      fw.wddr.table.validFreq msg.data.freqId = true))
    (ran : processMessage msg fw = .ok (response, after)) : fw.SamePrepared after := by
  rw [processMessage_prep isPrep] at ran
  cases answer : fw.guarded (fw.dfi = .ctrlUpd) (fw.fswTransition .prep msg.data) with
  | error fault =>
      rw [answer] at ran
      cases ran
  | ok done =>
      rw [answer] at ran
      obtain ⟨answered, final⟩ := done
      obtain rfl : final = after := congrArg Prod.snd (Except.ok.inj ran)
      rcases Fw.guarded_ok answer with ⟨-, rfl⟩ | ⟨running, admitted, -, step⟩
      · exact .refl final
      · cases fswStep_of_ok step with
        | ignored => exact .refl fw
        | prep inPrep prepared =>
            rcases Fw.eq_of_prepareSwitch device.sound prepared with ⟨valid, -⟩ | ⟨-, -, rfl⟩
            · exact absurd ⟨running, admitted, inPrep, valid⟩ unmade
            · exact fw.samePrepared_unprepared

/-- As long as the switch machine prepares before INIT_START is reported, a started switch
keeps its configuration. -/
theorem frozenSound_of_reachableWhere {pair : Sys × Bool}
    (reachable : observedSystem.ReachableWhere PrepsFirst pair)
    (first : PrepsFirst .process pair) : FrozenSound pair := by
  obtain ⟨sys, started⟩ := pair
  intro isStarted msg task isPrep response after ran
  obtain ⟨current, device⟩ := deviceSound_of_reachable reachable.of_monitored
  apply samePrepared_of_processed device isPrep _ ran
  rintro ⟨running, admitted, inPrep, valid⟩
  rcases startedInFlight_of_reachableWhere reachable isStarted with inQueue | pending
  · change 0 < sys.starts at inQueue
    rw [starts_of_prep task isPrep, List.countP_pos_iff] at inQueue
    obtain ⟨queued, listed, isStart⟩ := inQueue
    apply first.1
    rw [handles_process task]
    exact ⟨isPrep, running, admitted, inPrep, valid, queued, listed,
      of_decide_eq_true isStart⟩
  · change sys.fw.fsw = .pending at pending
    change sys.fw.fsw = .prep at inPrep
    rw [inPrep] at pending
    cases pending

end Frozen

/-- The observed state that a run from the reference start ends in, under a condition. -/
def observedAfter (condition : StepCondition (Sys × Bool) Label)
    [∀ label pair, Decidable (condition label pair)] (labels : List Label)
    (possible : ((observedReference (@observeSwitch referencePlatform) false).execWhere
      condition labels (referenceStart, false)).isSome) : Sys × Bool :=
  observedAfterWhere (@observeSwitch referencePlatform) false condition labels possible

theorem reachable_observedAfter {condition : StepCondition (Sys × Bool) Label}
    [∀ label pair, Decidable (condition label pair)] {labels : List Label}
    (possible : ((observedReference (@observeSwitch referencePlatform) false).execWhere
      condition labels (referenceStart, false)).isSome) :
    (@observedSystem referencePlatform).ReachableWhere condition
      (observedAfter condition labels possible) :=
  reachable_observedAfterWhere possible

/-- A preparation that is handled during the switch changes nothing. -/
theorem frozenSound_pending :
    @FrozenSound referencePlatform
      (observedAfter PrepsFirst (bootRun ++ prepRun 0 ++ initStartIrq ++ hostPrep 1 ++
        handleNext ++ [.receive]) (by decide +kernel)) :=
  @frozenSound_of_reachableWhere referencePlatform _ (reachable_observedAfter _)
    (by decide +kernel)

/-- INIT_START waits behind a second preparation. -/
def overtakingState : Sys × Bool :=
  observedAfter (fun _ _ => True)
    (bootRun ++ prepRun 0 ++ hostPrep 1 ++ initStartIrq ++ [.receive]) (by decide +kernel)

/-- The second preparation changes the VCO of the started switch. -/
theorem not_frozenSound_overtaking :
    (@observedSystem referencePlatform).Reachable overtakingState ∧
      ¬ @FrozenSound referencePlatform overtakingState := by
  constructor
  · exact reachable_observedAfter _
  · intro sound
    let := referencePlatform
    have frozen := sound (by decide +kernel) _ rfl (by decide +kernel) _ _ rfl
    have sameVco := congrArg VcoDev.freqId (frozen.vco .phy2 (by decide +kernel))
    exact absurd sameVco (by decide +kernel)

end Sys

end WavLpddr
