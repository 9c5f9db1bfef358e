import WavLpddr.DramFollows
import WavLpddr.Lib.Staging
import WavLpddr.ServiceLog

/-!
# The frequency that was asked for last

The frequency is a setting that a PREP stages and that the end of a switch commits; a BOOT sets
it to the boot frequency.  The firmware refines this: whatever the tasks, the timer and the
interrupts do in between, the PLL runs the frequency that was staged last before the last
commit, and its prepared VCO has the frequency that was staged since.
-/

namespace WavLpddr

open EventMachine Mailbox Staging TransitionSystem

namespace Pll

variable [KernelIo] {pll : Pll} {current : VcoIndex}

/-- The frequencies of the VCO in use and of the prepared one. -/
def freqSlots (pll : Pll) : Slots UInt8 where
  active := pll.pVcoCurrent.map fun vcoId => (pll.vco vcoId).freqId
  staged := pll.pVcoNext.map fun vcoId => (pll.vco vcoId).freqId

theorem SameVcos.freqSlots {other : Pll} (same : SameVcos pll other) :
    other.freqSlots = pll.freqSlots := by
  simp only [Pll.freqSlots, same.vco, same.pVcoCurrent, same.pVcoNext]

omit [KernelIo] in
theorem active_freqSlots {freqId : UInt8} :
    pll.freqSlots.active = some freqId ↔ pll.pllGetCurrentFreq = .ok freqId := by
  unfold freqSlots pllGetCurrentFreq
  cases pll.pVcoCurrent with
  | none => simp
  | some onVco => simp

theorem freqSlots_prepareVco (settled : pll.Settled current) (freqId : UInt8)
    (cfg : PllFreqCfg) :
    (pll.prepareVco freqId cfg current.spare).freqSlots = pll.freqSlots.after (.stage freqId) := by
  have sameCurrent : (pll.prepareVco freqId cfg current.spare).pVcoCurrent = some current :=
    (settled.prepare freqId cfg).pVcoCurrent
  have kept : (pll.prepareVco freqId cfg current.spare).vco current = pll.vco current :=
    prepareVco_vco_of_ne freqId cfg _ current.spare_ne.symm
  simp only [freqSlots, Slots.after, sameCurrent, settled.pVcoCurrent, prepareVco_pVcoNext,
    Option.map_some, kept, prepareVco_freqId_self]

theorem freqSlots_switchAndDisable (settled : pll.Settled current) (isSwSwitch : Bool) :
    (pll.switchAndDisable isSwSwitch).freqSlots = pll.freqSlots.after .commit := by
  cases prepared : pll.pVcoNext with
  | none =>
      rw [switchAndDisable_of_unprepared settled prepared]
      simp only [freqSlots, Slots.after, prepared, Option.map_none, Option.none_or]
  | some next =>
      obtain ⟨-, sameVco, onNext, cleared, -⟩ := switchAndDisable_pointers prepared isSwSwitch
      simp only [freqSlots, Slots.after, sameVco, onNext, cleared, prepared, Option.map_some,
        Option.map_none, Option.some_or]

end Pll

namespace Fw

/-- The frequencies of a running firmware. -/
def freqSlots (fw : Fw) : Slots UInt8 :=
  if fw.Running then fw.wddr.pll.freqSlots else .empty

/-- What an answered event does to the frequency.  A boot after an error leaves the firmware
stopped, and events that a machine has no row for do nothing. -/
def freqMove (event : FwPhyEvent) (data : MsgData) (answer : FwResponse) (fw : Fw) :
    Option (Move UInt8) :=
  match event, answer with
  | .boot, .success => if fw.error then none else some (.reset wddrPhyBootFreq)
  | .prep, .success =>
      if fw.fsw = .prep ∧ fw.wddr.table.validFreq data.freqId = true then
        some (.stage data.freqId)
      else none
  | .pllLock, .success => if fw.fsw = .pending then some .commit else none
  | _, _ => none

variable {fw after : Fw} {event : FwPhyEvent} {data : MsgData} {answer : FwResponse}

theorem freqSlots_of_running (running : fw.Running) : fw.freqSlots = fw.wddr.pll.freqSlots :=
  if_pos running

theorem freqSlots_of_not_running (stopped : ¬ fw.Running) : fw.freqSlots = .empty :=
  if_neg stopped

theorem freqMove_of_refusal (refused : event.refusal fw = some answer) :
    fw.freqMove event data answer = none := by
  have notSuccess : answer ≠ .success := fun success =>
    event.refusal_ne_success fw (success ▸ refused)
  unfold freqMove
  split
  · exact absurd rfl notSuccess
  · exact absurd rfl notSuccess
  · exact absurd rfl notSuccess
  · rfl

/-- Events of the DFI machine do not touch the frequency. -/
theorem freqMove_of_dfi (isDfi : event.kind = .dfi) : fw.freqMove event data answer = none := by
  unfold freqMove
  split
  · cases isDfi
  · cases isDfi
  · cases isDfi
  · rfl

theorem freqMove_of_unmatched (unmatched : fw.fsw.takes event = false) (isFsw : event.kind = .fsw) :
    fw.freqMove event data answer = none := by
  unfold freqMove
  split
  · cases isFsw
  · apply if_neg
    rintro ⟨inPrep, -⟩
    simp [inPrep, FswState.takes] at unmatched
  · apply if_neg
    intro pending
    simp [pending, FswState.takes] at unmatched
  · rfl

section Steps

variable [KernelIo]

theorem freqSlots_of_same (ready : after.ready = fw.ready) (error : after.error = fw.error)
    (vcos : Pll.SameVcos fw.wddr.pll after.wddr.pll) : after.freqSlots = fw.freqSlots := by
  have sameRunning : after.Running ↔ fw.Running := by rw [Running, Running, ready, error]
  by_cases running : fw.Running
  · rw [freqSlots_of_running running, freqSlots_of_running (sameRunning.mpr running),
      vcos.freqSlots]
  · rw [freqSlots_of_not_running running,
      freqSlots_of_not_running fun later => running (sameRunning.mp later)]

variable {current : VcoIndex}

theorem freqSlots_prepared (running : fw.Running) (device : fw.wddr.Sound current) [Device]
    (freqId : UInt8) :
    (fw.prepared freqId current).freqSlots = fw.freqSlots.after (.stage freqId) := by
  have frame := fw.fswFrame_prepared freqId current
  have stillRunning : (fw.prepared freqId current).Running :=
    ⟨frame.ready.trans running.1, frame.error.trans running.2⟩
  rw [freqSlots_of_running running, freqSlots_of_running stillRunning, fw.prepared_pll]
  exact Pll.freqSlots_prepareVco device.settled _ _

theorem freqSlots_finishSwitch (running : fw.Running) (device : fw.wddr.Sound current) :
    fw.finishSwitch.freqSlots = fw.freqSlots.after .commit := by
  have frame := fw.fswFrame_finishSwitch
  have stillRunning : fw.finishSwitch.Running :=
    ⟨frame.ready.trans running.1, frame.error.trans running.2⟩
  have layout : (fw.wddr.pll.switchAndDisable false).Layout := by
    cases prepared : fw.wddr.pll.pVcoNext with
    | some next => exact (device.settled.switchAndDisable prepared false).layout
    | none =>
        rw [Pll.switchAndDisable_of_unprepared device.settled prepared]
        exact device.settled.layout
  have masked :=
    (Pll.setInterruptState_same layout ddrMvpPllCoreStatusIntEnCoreLockedIntEn false).freqSlots
  rw [freqSlots_of_running running, freqSlots_of_running stillRunning, fw.finishSwitch_pll]
  exact masked.trans (Pll.freqSlots_switchAndDisable device.settled false)

variable [BuildConfig]

/-- The steps of the switch machine move the frequency as they are answered. -/
theorem freqSlots_of_fswStep [Device] (running : fw.Running) (device : fw.wddr.Sound current)
    (isFsw : event.kind = .fsw) (step : FswStep data fw event after) :
    after.freqSlots = (fw.freqMove event data .success).toList.foldl Slots.after fw.freqSlots := by
  cases step with
  | ignored unmatched =>
      rw [freqMove_of_unmatched unmatched isFsw]
      rfl
  | prep inPrep prepared =>
      rcases eq_of_prepareSwitch device prepared with ⟨valid, rfl⟩ | ⟨invalid, -, rfl⟩
      · have move : fw.freqMove .prep data .success = some (.stage data.freqId) :=
          if_pos ⟨inPrep, valid⟩
        rw [move]
        exact freqSlots_prepared running device data.freqId
      · have noMove : fw.freqMove .prep data .success = none :=
          if_neg fun both => by simp [invalid] at both
        rw [noMove]
        exact freqSlots_of_same rfl rfl (.refl _)
  | initStart inPrep =>
      have frame := fw.fswFrame_enterPending
      have same : Pll.SameVcos fw.wddr.pll fw.enterPending.wddr.pll := by
        rw [fw.enterPending_pll]
        exact Pll.setInterruptState_same device.settled.layout _ _
      exact freqSlots_of_same frame.ready frame.error same
  | pllLock pending =>
      have move : fw.freqMove .pllLock data .success = some .commit := if_pos pending
      rw [move]
      exact freqSlots_finishSwitch running device

/-- A boot that ends well sets the frequency to the boot frequency. -/
theorem freqSlots_finishStart [Device] {booted : WddrReturn × Wddr} {bootCfg : WddrBootCfg}
    (device : fw.DeviceSound current) (fresh : fw.BeforeBoot) (notReady : fw.ready = false)
    (boots : fw.wddr.wddrBoot fw.hw bootCfg = .ok booted) :
    (fw.finishStart booted).2.freqSlots =
      (fw.freqMove .boot data (fw.finishStart booted).1).toList.foldl Slots.after
        fw.freqSlots := by
  have empty : fw.freqSlots = .empty := freqSlots_of_not_running fun running => by
    simp [Running, notReady] at running
  have noNext : booted.2.pll.pVcoNext = none :=
    (Wddr.staysUnprepared_wddrBoot _ _ (fresh.unprepared notReady)).good_of_ok boots
  have aligned := fun isBooted => device.aligned isBooted notReady
  have ends := (Wddr.wddrBoot_ends device.sound aligned fw.hw bootCfg).good_of_ok boots
  rw [empty]
  unfold finishStart
  split
  · exact freqSlots_of_not_running fun running => Bool.false_ne_true running.2.symm
  · rename_i succeeded
    have success : booted.1 = .wddrSuccess := not_not.mp succeeded
    split
    · by_cases failed : fw.error = true
      · have noMove : fw.freqMove .boot data .success = none := if_pos failed
        rw [noMove]
        exact freqSlots_of_not_running fun running => by
          have notError : fw.error = false := running.2
          simp [failed] at notError
      · have healthy : fw.error = false := eq_false_of_ne_true failed
        have move : fw.freqMove .boot data .success = some (.reset wddrPhyBootFreq) :=
          if_neg failed
        have runs : booted.2.RunsBoot := by
          apply Wddr.runsBoot_of_wddrBoot device.sound (fresh.notBooted notReady healthy)
          rw [← success]
          exact boots
        have sound : booted.2.Sound .phy1 := by
          rcases ends with ⟨-, -, sound⟩ | ⟨notSuccess, -⟩
          · exact sound
          · exact absurd success notSuccess
        have isRunning : Running
            { fw with wddr := booted.2.released, timer := .running, ready := true } :=
          ⟨rfl, healthy⟩
        have onBoot := Pll.active_freqSlots.mpr runs
        have nothing : booted.2.pll.freqSlots.staged = none := by
          simp only [Pll.freqSlots, noNext, Option.map_none]
        rw [move]
        calc
          _ = booted.2.released.pll.freqSlots := freqSlots_of_running isRunning
          _ = booted.2.pll.freqSlots := (Wddr.similar_released sound).vcos.freqSlots
          _ = ⟨some wddrPhyBootFreq, none⟩ := congrArg₂ Slots.mk onBoot nothing
    · exact freqSlots_of_not_running fun running => Bool.false_ne_true running.2.symm

/-- Every answered event moves the frequency of the firmware as it does that of the plan. -/
theorem freqSlots_of_handled [Device] (device : fw.DeviceSound current) (fresh : fw.BeforeBoot)
    (ran : Handled data fw event answer after) :
    after.freqSlots = (fw.freqMove event data answer).toList.foldl Slots.after fw.freqSlots := by
  cases ran with
  | refused refusal =>
      rw [freqMove_of_refusal refusal]
      rfl
  | start notReady boots => exact freqSlots_finishStart device fresh notReady boots
  | dfi isDfi running admitted step =>
      have frame := step.frame
      rw [freqMove_of_dfi isDfi]
      exact freqSlots_of_same frame.ready frame.error frame.similar.vcos
  | fsw isFsw running admitted step => exact freqSlots_of_fswStep running device.sound isFsw step

end Steps

end Fw

namespace Sys

section Runs

variable [Platform]

/-- The moves of the frequency that a step makes, by the message that it serves. -/
def freqMoves (label : Label) (sys : Sys) : List (Move UInt8) :=
  (services (logs label sys)).flatMap fun (msg, answer) =>
    ((FwPhyEvent.ofCode? msg.event).bind fun event =>
      sys.fw.freqMove event msg.data answer).toList

/-- The firmware refines the plan of the frequency. -/
def freqRefinement : Refinement (system : TransitionSystem Sys Label) Staging.system freqMoves where
  view sys := sys.fw.freqSlots
  starts := by
    rintro _ ⟨table, reset, hw, timerStarts, -, -, rfl⟩
    exact Fw.freqSlots_of_not_running fun running => Bool.false_ne_true running.1
  steps label sys next reachable taken := by
    rw [Staging.exec_eq, Option.some.injEq, eq_comm]
    by_cases isProcess : label = .process
    · subst isProcess
      obtain ⟨current, device⟩ := deviceSound_of_reachable reachable
      have step := loggedStep_of_taken reachable taken
      unfold freqMoves
      generalize logs .process sys = log at step ⊢
      cases step with
      | stopped => rfl
      | @answered msg event response after task decoded ran =>
          have moves : (services [Entry.served msg response]).flatMap
              (fun (msg, answer) => ((FwPhyEvent.ofCode? msg.event).bind fun event =>
                sys.fw.freqMove event msg.data answer).toList) =
                  (sys.fw.freqMove event msg.data response).toList := by
            simp [services, Entry.service, decoded]
          rw [moves, answered_fw]
          exact Fw.freqSlots_of_handled device (beforeBoot_of_reachable reachable) ran
    · have same := (otherStep_of_taken taken isProcess).effect.sameControl
      have noMoves : freqMoves label sys = [] := by
        rw [freqMoves, services_logs_of_ne isProcess, List.flatMap_nil]
      rw [noMoves]
      exact Fw.freqSlots_of_same same.ready same.error same.device.vcos

/-- The firmware together with the moves of its frequency. -/
abbrev freqRecorded : TransitionSystem (Sys × List (Move UInt8)) Label :=
  recorded system freqMoves

/-- The PLL is where the moves lead: it runs what was staged last before the last commit, and
nothing that was not asked for. -/
structure FollowsPlan (pair : Sys × List (Move UInt8)) : Prop where
  slots : pair.1.fw.freqSlots = pair.2.foldl Slots.after .empty
  committed : ∀ earlier freqId later, pair.2 = earlier ++ .stage freqId :: .commit :: later →
    (∀ move ∈ later, move.IsStage) → pair.1.fw.wddr.pll.pllGetCurrentFreq = .ok freqId
  asked : pair.1.fw.Running → ∃ freqId, pair.1.fw.wddr.pll.pllGetCurrentFreq = .ok freqId ∧
    (.reset freqId ∈ pair.2 ∨ .stage freqId ∈ pair.2)

/-- Along every run the PLL follows the plan of the frequency. -/
theorem followsPlan_of_reachable {pair : Sys × List (Move UInt8)}
    (reachable : freqRecorded.Reachable pair) : FollowsPlan pair := by
  obtain ⟨start, isEmpty, ran⟩ := freqRefinement.exec_of_reachable reachable
  obtain rfl : start = .empty := isEmpty
  rw [Staging.exec_eq, Option.some.injEq] at ran
  have slots : pair.2.foldl Slots.after .empty = pair.1.fw.freqSlots := ran
  refine ⟨slots.symm, ?_, ?_⟩
  · intro earlier freqId later recorded stages
    have isActive : pair.1.fw.freqSlots.active = some freqId := by
      rw [← slots, recorded]
      exact active_of_committed stages _
    have running : pair.1.fw.Running := by
      by_contra stopped
      rw [Fw.freqSlots_of_not_running stopped] at isActive
      cases isActive
    rw [Fw.freqSlots_of_running running] at isActive
    exact Pll.active_freqSlots.mp isActive
  · intro running
    obtain ⟨current, device⟩ := deviceSound_of_reachable reachable.of_monitored
    have onVco : pair.1.fw.wddr.pll.pllGetCurrentFreq =
        .ok (pair.1.fw.wddr.pll.vco current).freqId := by
      rw [Pll.pllGetCurrentFreq, device.sound.settled.pVcoCurrent]
    refine ⟨_, onVco, (mem_of_run slots).1 _ ?_⟩
    rw [Fw.freqSlots_of_running running]
    exact Pll.active_freqSlots.mpr onVco

end Runs

/-- The state after a run of the reference system, with the moves of its frequency. -/
def freqAfter (labels : List Label)
    (possible : ((observedReference (fun label sys record =>
      record ++ @freqMoves referencePlatform label sys) []).execWhere (fun _ _ => True) labels
        (referenceStart, [])).isSome) : Sys × List (Move UInt8) :=
  observedAfterWhere _ [] (fun _ _ => True) labels possible

/-- The second switch was not completed: frequency 0 runs, and frequency 1 is staged. -/
theorem followsPlan_secondSwitch :
    let pair := freqAfter secondSwitch (by decide +kernel)
    pair.2 = [.reset 0, .stage 0, .commit, .stage 1] ∧ FollowsPlan pair :=
  ⟨by decide +kernel,
    @followsPlan_of_reachable referencePlatform _ (reachable_observedAfterWhere _)⟩

end Sys

end WavLpddr
