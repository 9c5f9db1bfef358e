import WavLpddr.RequestLines
import WavLpddr.VcoRuns

/-!
# The VCO bookkeeping

What the calls on the PLL promise in any order the firmware issues them, and what the
firmware relies on: the running frequency is in the table, and the boot ends on PHY VCO 1.
-/

namespace WavLpddr

open TransitionSystem Outcome

section Settled

variable [KernelIo]

namespace Pll

theorem Settled.next_ne {pll : Pll} {current vcoId : VcoIndex} (settled : pll.Settled current)
    (prepared : pll.pVcoNext = some vcoId) : vcoId ≠ .mcu ∧ pll.pVcoCurrent ≠ some vcoId := by
  obtain rfl := settled.pVcoNext vcoId prepared
  refine ⟨current.spare_ne_mcu, ?_⟩
  rw [settled.pVcoCurrent]
  intro same
  exact current.spare_ne (Option.some.inj same).symm

theorem Settled.enabled_iff {pll : Pll} {current vcoId : VcoIndex}
    (settled : pll.Settled current) (unprepared : pll.pVcoNext = none)
    (currentOnPhy : current ≠ .mcu) (onPhy : vcoId ≠ .mcu) :
    pll.vcoEnabled vcoId ↔ vcoId = current := by
  constructor
  · intro enabled
    rcases settled.othersDisabled vcoId onPhy enabled with isCurrent | prepared
    · exact isCurrent
    · rw [unprepared] at prepared
      cases prepared
  · rintro rfl
    exact settled.currentEnabled currentOnPhy

theorem switchAndDisable_pVcoNext (isSwSwitch : Bool) (pll : Pll) :
    (pll.switchAndDisable isSwSwitch).pVcoNext = none := by
  cases prepared : pll.pVcoNext with
  | none =>
      obtain ⟨-, -, -, sameNext, -⟩ := pllDisableVco_pointers (pll.pllSwitchVco isSwSwitch).2
      rw [switchAndDisable, sameNext]
      simp only [pllSwitchVco, prepared]
  | some next => exact (switchAndDisable_pointers prepared isSwSwitch).2.2.2.1

theorem Settled.prepare_regs {pll : Pll} {current : VcoIndex} (settled : pll.Settled current)
    (freqId : UInt8) (cfg : PllFreqCfg) {addr : Word} (listed : addr ∈ vcoAddrs current) :
    (pll.prepareVco freqId cfg current.spare).regs addr = pll.regs addr := by
  apply prepareVco_regs_of_not_mem freqId cfg current.spare settled.layout
  · exact vcoAddrs_disjoint current.spare_ne.symm _ listed
  · rintro rfl
    exact coreOverrides_not_mem_vcoAddrs current listed

end Pll

end Settled

namespace PllSession

open Pll

section Calls

variable [KernelIo]

/-- The promises of the calls in one state of a session. -/
structure BookkeepingSound (session : PllSession) (log : FreqLog) : Prop where
  /-- The prepared VCO is a PHY VCO other than the current one. -/
  next : ∀ vcoId, session.pll.pVcoNext = some vcoId →
    vcoId ≠ .mcu ∧ session.pll.pVcoCurrent ≠ some vcoId
  /-- A preparation leaves the current VCO alone. -/
  prepare : session.switching = false → ∀ freqId cfg, ∃ after current,
    call (.prepareVcoSwitch freqId cfg) session = some after ∧
      session.pll.pVcoCurrent = some current ∧ after.pll.pVcoCurrent = some current ∧
      after.pll.vco current = session.pll.vco current ∧
      (∀ addr ∈ vcoAddrs current, after.pll.regs addr = session.pll.regs addr) ∧
      (current ≠ .mcu → after.pll.vcoEnabled current)
  /-- A switch and the disabling of the VCO left forget both, and leave one PHY VCO on. -/
  switch : ∀ isSwSwitch middle after, call (.switchVco isSwSwitch) session = some middle →
    call .disableVco middle = some after →
      after.pll.pVcoNext = none ∧ after.pll.pVcoPrev = none ∧
        ∀ current, after.pll.pVcoCurrent = some current → current ≠ .mcu →
          ∀ vcoId, vcoId ≠ .mcu → (after.pll.vcoEnabled vcoId ↔ vcoId = current)
  /-- The current VCO runs at the frequency prepared before the last switch. -/
  running : ∀ vcoId, vcoId ≠ .mcu → session.pll.pVcoCurrent = some vcoId →
    log.running = some (session.pll.vco vcoId).freqId ∧
      (session.pll.vco vcoId).freqId.toNat < wddrPhyFreqNum

/-- The prepared VCO is never the current one, and none is prepared right after a switch. -/
theorem Consistent.next_ne {session : PllSession} {log : FreqLog}
    (consistent : Consistent session log) {vcoId : VcoIndex}
    (prepared : session.pll.pVcoNext = some vcoId) :
    vcoId ≠ .mcu ∧ session.pll.pVcoCurrent ≠ some vcoId := by
  cases switching : session.switching with
  | false =>
      obtain ⟨current, settled⟩ := consistent.settled switching
      exact settled.next_ne prepared
  | true =>
      obtain ⟨before, current, isSwSwitch, settled, switched⟩ := consistent.switched switching
      have cleared : (before.pllSwitchVco isSwSwitch).2.pVcoNext = none := by
        cases wasPrepared : before.pVcoNext with
        | none => simp only [pllSwitchVco, wasPrepared]
        | some next => exact (pllSwitchVco_pointers wasPrepared isSwSwitch).2.2.2.1
      rw [switched, cleared] at prepared
      cases prepared

theorem Consistent.bookkeepingSound {session : PllSession} {log : FreqLog}
    (consistent : Consistent session log) : BookkeepingSound session log := by
  obtain ⟨pll, switching⟩ := session
  constructor
  · exact fun vcoId prepared => consistent.next_ne prepared
  · rintro rfl freqId cfg
    obtain ⟨current, settled⟩ := consistent.settled rfl
    have prepares := pllPrepareVcoSwitch_eq settled.layout settled.pVcoCurrent freqId cfg
    have after := settled.prepare freqId cfg
    refine ⟨⟨pll.prepareVco freqId cfg current.spare, false⟩, current, ?_,
      settled.pVcoCurrent, after.pVcoCurrent, ?_, ?_, after.currentEnabled⟩
    · simp only [call, prepares]
      rfl
    · exact prepareVco_vco_of_ne freqId cfg _ current.spare_ne.symm
    · exact fun addr listed => settled.prepare_regs freqId cfg listed
  · intro isSwSwitch middle after switched disabled
    cases switching with
    | true => cases switched
    | false =>
        obtain rfl := Option.some.inj switched
        obtain rfl := Option.some.inj disabled
        obtain ⟨current, settled⟩ := consistent.settled rfl
        obtain ⟨last, settledLast⟩ := Settled.exists_switchAndDisable settled isSwSwitch
        have noNext := switchAndDisable_pVcoNext isSwSwitch pll
        refine ⟨noNext, settledLast.pVcoPrev, ?_⟩
        intro vcoId onVco currentOnPhy other onPhy
        obtain rfl : last = vcoId := Option.some.inj (settledLast.pVcoCurrent.symm.trans onVco)
        exact settledLast.enabled_iff noNext currentOnPhy onPhy
  · intro vcoId onPhy onVco
    have logged := consistent.tracked.current vcoId onPhy onVco
    exact ⟨logged, consistent.tracked.runningInTable _ logged⟩

end Calls

instance (invocation : PllCall) (pair : PllSession × FreqLog) :
    Decidable (PreparesTableFreq invocation pair) := by
  unfold PreparesTableFreq
  split
  · exact inferInstance
  · exact inferInstance

end PllSession

namespace Sys

section Frequencies

variable [Platform]

/-- What the firmware relies on when it boots the device and updates the PHY. -/
structure VcoSound (sys : Sys) : Prop where
  /-- The loop of the boot ends on PHY VCO 1. -/
  boots : sys.fw.ready = false → ∀ hw bootCfg,
    sys.fw.wddr.wddrBoot hw bootCfg ≠ .error .nonTermination ∧
      sys.fw.wddr.wddrBoot hw bootCfg ≠ .error .tableIndex
  /-- The update of the PHY reads the table inside its bounds. -/
  updates : sys.fw.ready = true → ∀ hw, ∃ freqId after,
    sys.fw.wddr.pll.pllGetCurrentFreq = .ok freqId ∧ freqId.toNat < wddrPhyFreqNum ∧
      sys.fw.wddr.wddrIocalUpdatePhy hw = .ok after

theorem vcoSound_of_reachable {sys : Sys} (reachable : system.Reachable sys) :
    sys.VcoSound := by
  obtain ⟨current, device⟩ := deviceSound_of_reachable reachable
  constructor
  · intro notReady hw bootCfg
    have aligned := fun isBooted => device.aligned isBooted notReady
    have ends := Wddr.wddrBoot_ends device.sound aligned hw bootCfg
    constructor
    · intro stopped
      cases ends.allowed_of_error stopped
    · intro stopped
      cases ends.allowed_of_error stopped
  · intro ready hw
    have onPhy := device.current_ne_mcu ready
    have valid := device.sound.currentFreq onPhy
    have running : sys.fw.wddr.pll.pllGetCurrentFreq =
        .ok (sys.fw.wddr.pll.vco current).freqId := by
      rw [Pll.pllGetCurrentFreq, device.sound.settled.pVcoCurrent]
    have ends : Ends (sys.fw.wddr.wddrIocalUpdatePhy hw) (fun _ => False) _ :=
      Wddr.wddrIocalUpdatePhy_ends device.sound onPhy hw
    cases updated : sys.fw.wddr.wddrIocalUpdatePhy hw with
    | error fault => exact (ends.allowed_of_error updated).elim
    | ok after => exact ⟨_, after, running, WddrTable.toNat_lt_of_validFreq valid, rfl⟩

/-- The VCO bookkeeping along every run of calls, and what the firmware relies on along
every run of the firmware. -/
theorem bookkeepingSound_of_reachable {pair : PllSession × FreqLog} {sys : Sys}
    (calls : PllSession.monitoredSystem.ReachableWhere PllSession.PreparesTableFreq pair)
    (reachable : system.Reachable sys) :
    PllSession.BookkeepingSound pair.1 pair.2 ∧ sys.VcoSound :=
  ⟨(PllSession.consistent_of_reachable calls).bookkeepingSound, vcoSound_of_reachable reachable⟩

end Frequencies

/-- The calls on the reference PLL. -/
abbrev referenceCalls : TransitionSystem (PllSession × FreqLog) PllCall :=
  @PllSession.monitoredSystem referencePlatform.toKernelIo

/-- The reference PLL after `pll_init` and `pll_boot`. -/
def referenceSession : PllSession where
  pll := @Pll.pllBoot referencePlatform.toKernelIo
    (@Pll.pllInit referencePlatform.toKernelIo wddrMemoryMapPll referenceReset.pll)
  switching := false

/-- The PLL was prepared twice, switched and prepared again. -/
def switchedSession : PllSession × FreqLog :=
  (referenceCalls.execWhere PllSession.PreparesTableFreq
    [.prepareVcoSwitch 0 default, .prepareVcoSwitch 1 default, .switchVco true, .disableVco,
      .prepareVcoSwitch 2 default] (referenceSession, ⟨none, none⟩)).get (by decide +kernel)

theorem reachable_switchedSession :
    referenceCalls.ReachableWhere PllSession.PreparesTableFreq switchedSession := by
  have starts : referenceCalls.initial (referenceSession, ⟨none, none⟩) := by
    refine ⟨⟨referenceReset.pll, ?_, rfl⟩, rfl⟩
    intro vcoId _
    cases vcoId <;> decide
  exact ReachableWhere.execWhere (.initial starts) (Option.some_get _).symm

/-- The bookkeeping after a switch and another preparation. -/
theorem bookkeepingSound_switched :
    @PllSession.BookkeepingSound referencePlatform.toKernelIo switchedSession.1
        switchedSession.2 ∧
      @VcoSound referencePlatform (after bootRun bootRun_possible) :=
  @bookkeepingSound_of_reachable referencePlatform _ _ reachable_switchedSession
    (reachable_after _)

end Sys

end WavLpddr
