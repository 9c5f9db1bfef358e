import WavLpddr.PllBookkeeping

/-!
# Runs of calls on the PLL

The firmware boots the PLL, calibrates it, prepares switches as often as it
likes, and switches, each switch being followed at once by the disabling of the
VCO left.  A monitor remembers the last frequency prepared and the one prepared
when the last successful switch was made.
-/

namespace WavLpddr

/-- The calls made on the PLL device. -/
inductive PllCall
  | boot
  | calibrateVco (status : VcoIndex → Word) (cfg : PllFreqCfg)
  | prepareVcoSwitch (freqId : UInt8) (cfg : PllFreqCfg)
  | switchVco (isSwSwitch : Bool)
  | disableVco

/-- A PLL and whether a switch was just made. -/
structure PllSession where
  pll : Pll
  switching : Bool

/-- What the monitor remembers. -/
structure FreqLog where
  lastPrepared : Option UInt8
  running : Option UInt8

namespace PllSession

open Pll

variable [KernelIo]

/-- One call.  After a switch the next call disables the VCO left. -/
def call : PllCall → PllSession → Option PllSession
  | .boot, ⟨pll, false⟩ => some ⟨pll.pllBoot, false⟩
  | .calibrateVco status cfg, ⟨pll, false⟩ => some ⟨(pll.pllCalibrateVco status cfg).2, false⟩
  | .prepareVcoSwitch freqId cfg, ⟨pll, false⟩ =>
      (pll.pllPrepareVcoSwitch freqId cfg).toOption.map fun pll => ⟨pll, false⟩
  | .switchVco isSwSwitch, ⟨pll, false⟩ => some ⟨(pll.pllSwitchVco isSwSwitch).2, true⟩
  | .disableVco, ⟨pll, true⟩ => some ⟨pll.pllDisableVco, false⟩
  | _, _ => none

/-- Sessions start after `pll_init` and `pll_boot` with both PHY VCOs disabled. -/
def system : TransitionSystem PllSession PllCall where
  initial session := ∃ reset : Pll, (∀ vcoId, vcoId ≠ .mcu → ¬ reset.vcoEnabled vcoId) ∧
    session = ⟨(reset.pllInit wddrMemoryMapPll).pllBoot, false⟩
  step := call

def observe : PllCall → PllSession → FreqLog → FreqLog
  | .prepareVcoSwitch freqId _, _, log => { log with lastPrepared := some freqId }
  | .switchVco isSwSwitch, session, log =>
      match (session.pll.pllSwitchVco isSwSwitch).1 with
      | .wddrSuccess => { log with running := log.lastPrepared }
      | _ => log
  | _, _, log => log

/-- The firmware only prepares frequencies of its table. -/
def PreparesTableFreq : PllCall → PllSession × FreqLog → Prop
  | .prepareVcoSwitch freqId _, _ => freqId.toNat < wddrPhyFreqNum
  | _, _ => True

/-- Sessions with their monitor. -/
abbrev monitoredSystem : TransitionSystem (PllSession × FreqLog) PllCall :=
  TransitionSystem.monitored system ⟨none, none⟩ observe

/-- The frequency ids of the VCOs in use are those the monitor remembers. -/
structure Tracked (pll : Pll) (log : FreqLog) : Prop where
  next : ∀ vcoId, pll.pVcoNext = some vcoId →
    log.lastPrepared = some (pll.vco vcoId).freqId
  current : ∀ vcoId, vcoId ≠ .mcu → pll.pVcoCurrent = some vcoId →
    log.running = some (pll.vco vcoId).freqId
  onMcu : pll.pVcoCurrent = some .mcu → log.running = none
  inTable : ∀ freqId, log.lastPrepared = some freqId → freqId.toNat < wddrPhyFreqNum
  runningInTable : ∀ freqId, log.running = some freqId → freqId.toNat < wddrPhyFreqNum

/-- Between calls the PLL is settled; after a switch it is one step away. -/
structure Consistent (session : PllSession) (log : FreqLog) : Prop where
  tracked : Tracked session.pll log
  settled : session.switching = false → ∃ current, session.pll.Settled current
  switched : session.switching = true → ∃ (before : Pll) (current : VcoIndex) (isSwSwitch : Bool),
    before.Settled current ∧ session.pll = (before.pllSwitchVco isSwSwitch).2

theorem Tracked.of_same {pll other : Pll} {log : FreqLog} (tracked : Tracked pll log)
    (same : SameVcos pll other) : Tracked other log where
  next vcoId prepared := by
    rw [same.vco]
    exact tracked.next vcoId (same.pVcoNext ▸ prepared)
  current vcoId onPhy onVco := by
    rw [same.vco]
    exact tracked.current vcoId onPhy (same.pVcoCurrent ▸ onVco)
  onMcu onMcu := tracked.onMcu (same.pVcoCurrent ▸ onMcu)
  inTable := tracked.inTable
  runningInTable := tracked.runningInTable

theorem Tracked.prepare {pll : Pll} {log : FreqLog} {current : VcoIndex} {freqId : UInt8}
    (tracked : Tracked pll log) (settled : pll.Settled current) (cfg : PllFreqCfg)
    (valid : freqId.toNat < wddrPhyFreqNum) :
    Tracked (pll.prepareVco freqId cfg current.spare)
      { log with lastPrepared := some freqId } := by
  constructor
  · intro vcoId prepared
    rw [prepareVco_pVcoNext, Option.some.injEq] at prepared
    rw [← prepared, prepareVco_freqId_self]
  · intro vcoId onPhy onVco
    rw [prepareVco_pVcoCurrent] at onVco
    have isCurrent : vcoId = current :=
      Option.some.inj (onVco.symm.trans settled.pVcoCurrent)
    have different : vcoId ≠ current.spare := isCurrent ▸ current.spare_ne.symm
    rw [prepareVco_vco_of_ne freqId cfg _ different]
    exact tracked.current vcoId onPhy onVco
  · rw [prepareVco_pVcoCurrent]
    exact tracked.onMcu
  · intro freq last
    rw [← Option.some.inj last]
    exact valid
  · exact tracked.runningInTable

theorem Tracked.switch {pll : Pll} {log : FreqLog} {current : VcoIndex} (switching : Bool)
    (tracked : Tracked pll log) (settled : pll.Settled current) (isSwSwitch : Bool) :
    Tracked (pll.pllSwitchVco isSwSwitch).2
      (observe (.switchVco isSwSwitch) ⟨pll, switching⟩ log) := by
  cases prepared : pll.pVcoNext with
  | none => simpa [pllSwitchVco, observe, prepared] using tracked
  | some next =>
      obtain ⟨-, sameVco, onNext, cleared, -⟩ := pllSwitchVco_pointers prepared isSwSwitch
      have onPhy : next ≠ .mcu :=
        settled.pVcoNext next prepared ▸ current.spare_ne_mcu
      have logged : observe (.switchVco isSwSwitch) ⟨pll, switching⟩ log =
          { log with running := log.lastPrepared } := by
        simp [observe, pllSwitchVco, prepared]
      rw [logged]
      constructor
      · intro vcoId preparedAfter
        rw [cleared] at preparedAfter
        cases preparedAfter
      · intro vcoId _ onVco
        have same : next = vcoId := Option.some.inj (onNext.symm.trans onVco)
        rw [sameVco, ← same]
        exact tracked.next next prepared
      · intro onMcu
        exact absurd (Option.some.inj (onNext.symm.trans onMcu)) onPhy
      · exact tracked.inTable
      · exact tracked.inTable

theorem Tracked.disable {pll : Pll} {log : FreqLog} (tracked : Tracked pll log) :
    Tracked pll.pllDisableVco log := by
  obtain ⟨-, sameVco, sameCurrent, sameNext, -⟩ := pllDisableVco_pointers pll
  constructor
  · rw [sameVco, sameNext]
    exact tracked.next
  · rw [sameVco, sameCurrent]
    exact tracked.current
  · rw [sameCurrent]
    exact tracked.onMcu
  · exact tracked.inTable
  · exact tracked.runningInTable

/-- Switching and disabling from a settled PLL settles it again. -/
theorem Settled.exists_switchAndDisable {pll : Pll} {current : VcoIndex}
    (settled : pll.Settled current) (isSwSwitch : Bool) :
    ∃ after, (pll.switchAndDisable isSwSwitch).Settled after := by
  cases prepared : pll.pVcoNext with
  | none =>
      rw [switchAndDisable_of_unprepared settled prepared]
      exact ⟨current, settled⟩
  | some next => exact ⟨next, settled.switchAndDisable prepared isSwSwitch⟩

theorem consistent_initial {pair : PllSession × FreqLog}
    (starts : monitoredSystem.initial pair) : Consistent pair.1 pair.2 := by
  obtain ⟨⟨reset, disabled, started⟩, logged⟩ := starts
  rw [started, logged]
  have settled := settled_pllInit_pllBoot disabled
  constructor
  · constructor
    · intro vcoId prepared
      cases prepared
    · intro vcoId onPhy onVco
      have onMcu : VcoIndex.mcu = vcoId := Option.some.inj onVco
      exact absurd onMcu.symm onPhy
    · exact fun _ => rfl
    · rintro freqId ⟨⟩
    · rintro freqId ⟨⟩
  · exact fun _ => ⟨.mcu, settled⟩
  · rintro ⟨⟩

theorem consistent_call {invocation : PllCall} {session next : PllSession} {log : FreqLog}
    (known : PreparesTableFreq invocation (session, log))
    (taken : call invocation session = some next) (consistent : Consistent session log) :
    Consistent next (observe invocation session log) := by
  obtain ⟨pll, switching⟩ := session
  cases switching with
  | true =>
      obtain ⟨before, current, isSwSwitch, settled, switched⟩ := consistent.switched rfl
      cases invocation with
      | disableVco =>
          obtain rfl : _ = next := Option.some.inj taken
          have disabled : pll.pllDisableVco = before.switchAndDisable isSwSwitch :=
            congrArg pllDisableVco switched
          have settles := Settled.exists_switchAndDisable settled isSwSwitch
          rw [← disabled] at settles
          exact ⟨consistent.tracked.disable, fun _ => settles, by rintro ⟨⟩⟩
      | _ => exact absurd taken (by simp [call])
  | false =>
      obtain ⟨current, settled⟩ := consistent.settled rfl
      cases invocation with
      | boot =>
          obtain rfl : _ = next := Option.some.inj taken
          have noEffect : pll.pllBoot = pll := by
            simp [pllBoot, show pll.pVcoCurrent = some current from settled.pVcoCurrent]
          exact ⟨by rw [noEffect]; exact consistent.tracked,
            fun _ => ⟨current, by rw [noEffect]; exact settled⟩, by rintro ⟨⟩⟩
      | calibrateVco status cfg =>
          obtain rfl : _ = next := Option.some.inj taken
          have same := pllCalibrateVco_same settled.layout status cfg
          exact ⟨consistent.tracked.of_same same, fun _ => ⟨current, settled.of_same same⟩,
            by rintro ⟨⟩⟩
      | prepareVcoSwitch freqId cfg =>
          simp only [call, pllPrepareVcoSwitch_eq settled.layout settled.pVcoCurrent,
            Except.toOption, Option.map_some, Option.some.injEq] at taken
          subst taken
          exact ⟨consistent.tracked.prepare settled cfg known,
            fun _ => ⟨current, settled.prepare freqId cfg⟩, by rintro ⟨⟩⟩
      | switchVco isSwSwitch =>
          obtain rfl : _ = next := Option.some.inj taken
          exact ⟨consistent.tracked.switch _ settled isSwSwitch, by rintro ⟨⟩,
            fun _ => ⟨pll, current, isSwSwitch, settled, rfl⟩⟩
      | disableVco => exact absurd taken (by simp [call])

theorem consistent_of_reachable {pair : PllSession × FreqLog}
    (reachable : monitoredSystem.ReachableWhere PreparesTableFreq pair) :
    Consistent pair.1 pair.2 := by
  apply reachable.invariant (motive := fun pair => Consistent pair.1 pair.2)
  · exact fun _ => consistent_initial
  · intro invocation pair next _ known taken consistent
    obtain ⟨session, moved, same⟩ := Option.map_eq_some_iff.mp taken
    subst same
    exact consistent_call known moved consistent

end PllSession

end WavLpddr
