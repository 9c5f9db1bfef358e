import WavLpddr.SwitchMoves

/-!
# A pending switch was prepared

At most one request for a switch is on its way: it is armed, it waits in the queue as
INIT_START, or it is pending.  A preparation that is handled while INIT_START waits
behind it arms a second one, whose switch finds nothing prepared.
-/

namespace WavLpddr

open EventMachine TransitionSystem

/-- A VCO to switch to is prepared, and the hardware was told so. -/
structure Fw.HoldsSwitch [KernelIo] (fw : Fw) : Prop where
  next : fw.wddr.pll.pVcoNext.isSome
  prepDone : prepDone fw.wddr.fsw

section Preparing

variable [KernelIo]

theorem Fw.HoldsSwitch.of_same {before after : Fw} (holds : before.HoldsSwitch)
    (same : before.SameSwitch after) : after.HoldsSwitch :=
  ⟨same.pVcoNext ▸ holds.next, same.prepDone.mpr holds.prepDone⟩

theorem Fw.HoldsSwitch.enterPending [BuildConfig] {fw : Fw} (holds : fw.HoldsSwitch) :
    fw.enterPending.HoldsSwitch := by
  constructor
  · rw [fw.pVcoNext_enterPending]
    exact holds.next
  · exact fw.prepDone_enterPending.mpr holds.prepDone

theorem Fw.holdsSwitch_prepared [Device] (freqId : UInt8) (current : VcoIndex) (fw : Fw) :
    (fw.prepared freqId current).HoldsSwitch := by
  constructor
  · rw [fw.prepared_pVcoNext]
    rfl
  · exact Wddr.prepDone_announced _

/-- An unchecked preparation announces what was prepared before. -/
theorem Fw.holdsSwitch_unprepared {fw : Fw} (next : fw.wddr.pll.pVcoNext.isSome) :
    fw.unprepared.HoldsSwitch := by
  refine ⟨?_, Wddr.prepDone_announced _⟩
  simpa [Fw.unprepared, Wddr.announced] using next

end Preparing

namespace Sys

section Requests

variable [Platform]

/-- A pending switch has its VCO, and the switch to it succeeds. -/
structure PendingPrepared (sys : Sys) : Prop where
  next : sys.fw.fsw = .pending → ∃ vcoId, sys.fw.wddr.pll.pVcoNext = some vcoId
  prepDone : sys.fw.fsw = .pending → prepDone sys.fw.wddr.fsw
  switches : sys.fw.fsw = .pending → (sys.fw.wddr.pll.pllSwitchVco false).1 = .wddrSuccess

/-- The switch machine handles a preparation only while no INIT_START waits behind it, and
an unchecked one only when a VCO is prepared. -/
def PrepsAlone : StepCondition Sys Label := fun label sys =>
  ¬ Handles label sys fun msg => msg.Is .prep ∧ sys.fw.Running ∧ sys.fw.dfi ≠ .ctrlUpd ∧
    sys.fw.fsw = .prep ∧
      ((∃ queued ∈ sys.fw.mq, queued.Is .initStart) ∨
        (sys.fw.wddr.table.validFreq msg.data.freqId = false ∧
          BuildConfig.configAssert = false ∧ sys.fw.wddr.pll.pVcoNext = none))

instance (label : Label) (sys : Sys) : Decidable (PrepsAlone label sys) :=
  inferInstanceAs (Decidable (¬ _))

/-- The requests for a switch: armed, waiting in the queue, or pending. -/
def requests (sys : Sys) : Nat :=
  (if sys.fw.wddr.irq.armed then 1 else 0) + sys.starts +
    if sys.fw.fsw = .pending then 1 else 0

/-- There is at most one request, and its switch was prepared. -/
structure HandshakeSound (sys : Sys) : Prop where
  single : sys.requests ≤ 1
  prepared : 0 < sys.requests → sys.fw.HoldsSwitch

omit [Platform] in
theorem starting_iff_requests {sys : Sys} : sys.SwitchStarting ↔ 0 < sys.requests := by
  unfold SwitchStarting requests
  constructor
  · rintro (armed | started | pending)
    · rw [if_pos armed]
      omega
    · omega
    · rw [if_pos pending]
      omega
  · intro requested
    by_cases armed : sys.fw.wddr.irq.armed = true
    · exact .inl armed
    · by_cases pending : sys.fw.fsw = .pending
      · exact .inr (.inr pending)
      · rw [if_neg armed, if_neg pending] at requested
        right; left
        omega

/-- Nothing else is requested once a preparation is armed. -/
theorem HandshakeSound.of_armed {sys next : Sys} (noStarts : sys.starts = 0)
    (starts : next.starts = sys.starts) (inPrep : next.fw.fsw = .prep)
    (holds : next.fw.HoldsSwitch) : next.HandshakeSound := by
  refine ⟨?_, fun _ => holds⟩
  have notPending : next.fw.fsw ≠ .pending := by simp [inPrep]
  unfold requests
  rw [if_neg notPending]
  split <;> omega

theorem HandshakeSound.of_le {sys next : Sys} (sound : sys.HandshakeSound)
    (fewer : next.requests ≤ sys.requests)
    (holds : sys.fw.HoldsSwitch → next.fw.HoldsSwitch) : next.HandshakeSound where
  single := fewer.trans sound.single
  prepared requested := holds (sound.prepared (lt_of_lt_of_le requested fewer))

theorem PrepsAlone.starts_eq_zero {label : Label} {sys : Sys} {msg : FwMsg}
    (alone : PrepsAlone label sys) (isProcess : label = .process)
    (task : sys.fwTask = .process msg) (isPrep : msg.Is .prep) (running : sys.fw.Running)
    (admitted : sys.fw.dfi ≠ .ctrlUpd) (inPrep : sys.fw.fsw = .prep) : sys.starts = 0 := by
  rw [starts_of_prep task isPrep, List.countP_eq_zero]
  intro queued listed isStart
  apply alone
  rw [isProcess, handles_process task]
  exact ⟨isPrep, running, admitted, inPrep, .inl ⟨queued, listed, of_decide_eq_true isStart⟩⟩

theorem handshakeSound_of_move {label : Label} {sys next : Sys}
    (reachable : system.Reachable sys) (alone : PrepsAlone label sys)
    (sound : sys.HandshakeSound) (move : SwitchMove sys label next) : next.HandshakeSound := by
  cases move with
  | kept _ same starts =>
      apply sound.of_le _ fun holds => holds.of_same same
      unfold requests
      rw [same.fsw, starts]
      cases armed : next.fw.wddr.irq.armed with
      | false =>
          rw [if_neg Bool.false_ne_true]
          omega
      | true => rw [same.armed armed]
  | started isIsr same wasArmed disarmed starts =>
      apply sound.of_le _ fun holds => holds.of_same same
      unfold requests
      rw [same.fsw, starts, wasArmed, disarmed, if_pos rfl, if_neg Bool.false_ne_true]
      split <;> omega
  | booted _ notReady fsw armed starts =>
      have notStarting : ¬ sys.SwitchStarting := by
        intro starting
        have ready := (switchOpen_of_starting reachable starting).running.1
        simp [notReady] at ready
      have notRequested : next.requests = 0 := by
        simp only [SwitchStarting, not_or, Bool.not_eq_true] at notStarting
        obtain ⟨notArmed, noStart, notPending⟩ := notStarting
        unfold requests
        rw [armed notArmed, fsw, if_neg notPending, if_neg Bool.false_ne_true, starts]
        omega
      exact ⟨by omega, fun requested => by omega⟩
  | missed isStart same reason starts =>
      apply sound.of_le _ fun holds => same ▸ holds
      unfold requests
      rw [same]
      omega
  | prepared isProcess task isPrep running admitted inPrep valid becomes starts =>
      have noStarts := alone.starts_eq_zero isProcess task isPrep running admitted inPrep
      apply HandshakeSound.of_armed noStarts starts
      · rw [becomes, Fw.prepared_fsw]
      · rw [becomes]
        exact Fw.holdsSwitch_prepared _ _ _
  | unchecked isProcess task isPrep running admitted inPrep invalid notAsserted becomes starts =>
      have noStarts := alone.starts_eq_zero isProcess task isPrep running admitted inPrep
      have someNext : sys.fw.wddr.pll.pVcoNext.isSome := by
        rw [Option.isSome_iff_ne_none]
        intro noNext
        apply alone
        rw [isProcess, handles_process task]
        exact ⟨isPrep, running, admitted, inPrep, .inr ⟨invalid, notAsserted, noNext⟩⟩
      apply HandshakeSound.of_armed noStarts starts
      · rw [becomes]
        rfl
      · rw [becomes]
        exact Fw.holdsSwitch_unprepared someNext
  | entered isStart running admitted inPrep becomes starts =>
      apply sound.of_le _ fun holds => becomes ▸ holds.enterPending
      unfold requests
      rw [becomes, inPrep, sys.fw.armed_enterPending]
      have isPending : sys.fw.enterPending.fsw = .pending := rfl
      simp only [isPending, if_true, reduceCtorEq, if_false]
      omega
  | finished isLock running pending becomes starts =>
      have single := sound.single
      have notRequested : next.requests = 0 := by
        unfold requests at single ⊢
        have inPrep : sys.fw.finishSwitch.fsw = .prep := rfl
        rw [becomes, sys.fw.armed_finishSwitch, inPrep, starts]
        rw [if_pos pending] at single
        simp only [reduceCtorEq, if_false]
        omega
      exact ⟨by omega, fun requested => by omega⟩

theorem handshakeSound_of_reachableWhere {sys : Sys}
    (reachable : system.ReachableWhere PrepsAlone sys) : sys.HandshakeSound := by
  apply reachable.invariant (motive := fun sys => sys.HandshakeSound)
  · intro sys starts
    have notRequested : ¬ 0 < sys.requests := fun requested =>
      not_starting_of_initial starts (starting_iff_requests.mpr requested)
    exact ⟨by omega, fun requested => absurd requested notRequested⟩
  · intro label sys next before alone taken sound
    exact handshakeSound_of_move before.reachable alone sound
      (switchMove_of_taken before.reachable taken)

/-- As long as no preparation overtakes INIT_START, a pending switch was prepared. -/
theorem pendingPrepared_of_reachableWhere {sys : Sys}
    (reachable : system.ReachableWhere PrepsAlone sys) : sys.PendingPrepared := by
  have holds : sys.fw.fsw = .pending → sys.fw.HoldsSwitch := fun pending =>
    (handshakeSound_of_reachableWhere reachable).prepared
      (starting_iff_requests.mp (.inr (.inr pending)))
  have next : sys.fw.fsw = .pending → ∃ vcoId, sys.fw.wddr.pll.pVcoNext = some vcoId :=
    fun pending => Option.isSome_iff_exists.mp (holds pending).next
  refine ⟨next, fun pending => (holds pending).prepDone, ?_⟩
  intro pending
  obtain ⟨vcoId, isNext⟩ := next pending
  rw [Pll.pllSwitchVco, isNext]

end Requests

/-- A switch is pending after its preparation. -/
theorem pendingPrepared_pending :
    @PendingPrepared referencePlatform
      (afterWhere (@PrepsAlone referencePlatform)
        (bootRun ++ prepRun 0 ++ initStartIrq ++ handleNext) (by decide +kernel)) :=
  @pendingPrepared_of_reachableWhere referencePlatform _ (reachable_afterWhere _)

/-- A second preparation overtakes INIT_START, and its switch follows the first. -/
def overtakenState : Sys :=
  after (bootRun ++ prepRun 0 ++ hostPrep 1 ++ initStartIrq ++ handleNext ++ [.main] ++
    handleNext ++ pllLockIrq ++ initStartIrq ++ handleNext ++ handleNext) (by decide +kernel)

/-- The second switch is pending with nothing prepared. -/
theorem not_pendingPrepared_overtaken :
    referenceSystem.Reachable overtakenState ∧
      ¬ @PendingPrepared referencePlatform overtakenState := by
  constructor
  · exact reachable_after _
  · intro prepared
    let := referencePlatform
    have switches := prepared.switches (by decide +kernel)
    exact absurd switches (by decide +kernel)

end Sys

end WavLpddr
