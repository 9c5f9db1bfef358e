import WavLpddr.VcoInvariant

/-!
# The VCO that boot leaves

Boot calibrates on the VCO of the MCU, switches to the boot frequency and aligns the VCOs by
further switches to it.  Whatever it returns, no VCO stays prepared; when it succeeds for the
first time, the PLL runs the boot frequency.
-/

namespace WavLpddr

open Outcome RegisterFile TransitionSystem

namespace Pll

variable [KernelIo]

theorem pVcoNext_calibrateVco (status : Word) (vcoId : VcoIndex) (state : PllFreqCfg × Pll) :
    (calibrateVco status vcoId state).2.pVcoNext = state.2.pVcoNext := rfl

theorem pVcoNext_pllCalibrateVco (status : VcoIndex → Word) (cfg : PllFreqCfg) (pll : Pll) :
    (pll.pllCalibrateVco status cfg).2.pVcoNext = pll.pVcoNext := by
  have either : ∀ onPhyVco : Bool, (if onPhyVco then (cfg, pll) else
      VcoIndex.phyVcos.foldl (fun state vcoId => calibrateVco (status vcoId) vcoId state)
        (cfg, pll)).2.pVcoNext = pll.pVcoNext := by
    intro onPhyVco
    cases onPhyVco with
    | true => rfl
    | false =>
        simp only [Bool.false_eq_true, if_false, VcoIndex.phyVcos, List.foldl_cons,
          List.foldl_nil, pVcoNext_calibrateVco]
  exact either _

theorem pVcoNext_pllBoot (pll : Pll) : pll.pllBoot.pVcoNext = pll.pVcoNext := by
  unfold pllBoot
  split
  · rfl
  · rfl

end Pll

namespace Wddr

variable [KernelIo] {wddr : Wddr}

theorem pVcoNext_wddrInit (reset : Wddr) (table : WddrTable) :
    (reset.wddrInit table).pll.pVcoNext = none := by
  rw [wddrInit_pll, Pll.pVcoNext_pllBoot]
  rfl

/-- What returns a device with the same PLL. -/
def KeepsPll (wddr : Wddr) {Value : Type} (outcome : Except Fault Value)
    (device : Value → Wddr) : Prop :=
  Ends outcome (fun _ => True) fun value => (device value).pll = wddr.pll

theorem keepsPll_wddrConfigurePhy (freqId : UInt8) (msr : WddrMsr) :
    wddr.KeepsPll (wddr.wddrConfigurePhy freqId msr) id := by
  apply Ends.bind_of_forall
  intro cfg
  exact Ends.pure rfl

theorem keepsPll_wddrIocalUpdatePhy (hw : HwStatus) :
    wddr.KeepsPll (wddr.wddrIocalUpdatePhy hw) id := by
  apply Ends.bind_of_forall
  intro freqId
  apply Ends.bind_of_forall
  intro cfg
  exact Ends.pure rfl

theorem keepsPll_wddrBootTrain (hw : HwStatus) (bootCfg : WddrBootCfg) :
    wddr.KeepsPll (wddr.wddrBootTrain hw bootCfg) Prod.snd := by
  apply Ends.bind_of_forall
  intro cfg
  have channels := propagateErrors_induction (motive := Untouched wddr)
    (fun channel state untouched => untouched.trans (untouched_senseAmpChannel hw
      (getBootOption bootCfg wddrBootOptionSaCal) cfg channel))
    (List.range wddrPhyChannelNum) (.refl wddr)
  split
  · rename_i returned
    rw [returned] at channels
    apply Ends.pure
    split
    · exact channels.pll
    · exact channels.pll
  · rename_i returned
    rw [returned] at channels
    exact Ends.pure channels.pll

/-- What returns a device without a prepared VCO when none was prepared before. -/
def StaysUnprepared (wddr : Wddr) {Value : Type} (outcome : Except Fault Value)
    (device : Value → Wddr) : Prop :=
  wddr.pll.pVcoNext = none →
    Ends outcome (fun _ => True) fun value => (device value).pll.pVcoNext = none

omit [KernelIo] in
theorem KeepsPll.staysUnprepared {Value : Type} {outcome : Except Fault Value}
    {device : Value → Wddr} (keeps : wddr.KeepsPll outcome device) :
    wddr.StaysUnprepared outcome device :=
  fun unprepared => Ends.mono keeps fun _ same => (congrArg Pll.pVcoNext same).trans unprepared

theorem staysUnprepared_bootPllCal (hw : HwStatus) (bootCfg : WddrBootCfg) :
    wddr.StaysUnprepared (wddr.bootPllCal hw bootCfg) id := by
  intro unprepared
  unfold bootPllCal
  split
  · change Ends _ (fun _ => True) fun after : Wddr => after.pll.pVcoNext = none
    refine Ends.foldlM _ unprepared fun state freqId _ kept => ?_
    apply Ends.bind_of_forall
    intro cfg
    exact Ends.pure ((Pll.pVcoNext_pllCalibrateVco _ _ _).trans kept)
  · exact Ends.pure unprepared

/-- The PLL runs the boot frequency. -/
def RunsBoot (wddr : Wddr) : Prop := wddr.pll.pllGetCurrentFreq = .ok wddrPhyBootFreq

omit [KernelIo] in
theorem RunsBoot.of_keepsPll {Value : Type} {outcome : Except Fault Value}
    {device : Value → Wddr} (runs : wddr.RunsBoot) (keeps : wddr.KeepsPll outcome device) :
    Ends outcome (fun _ => True) fun value => (device value).RunsBoot :=
  Ends.mono keeps fun _ same => (congrArg Pll.pllGetCurrentFreq same).trans runs

variable [BuildConfig]

theorem keepsPll_bootZqcalCal (hw : HwStatus) (bootCfg : WddrBootCfg) :
    wddr.KeepsPll (wddr.bootZqcalCal hw bootCfg) id := by
  unfold bootZqcalCal
  split
  · have calibrates : wddr.KeepsPll (wddr.wddrIocalCalibrate hw) id := by
      apply Ends.bind_of_forall
      intro _
      exact Ends.pure rfl
    apply Ends.bind calibrates
    intro calibrated same
    exact (keepsPll_wddrIocalUpdatePhy hw).mono fun _ later => later.trans same
  · exact Ends.pure rfl

/-- A software switch leaves no VCO prepared. -/
theorem staysUnprepared_wddrSwFreqSwitch (freqId : UInt8) (msr : WddrMsr) :
    wddr.StaysUnprepared (wddr.wddrSwFreqSwitch freqId msr) Prod.snd := by
  intro unprepared
  unfold wddrSwFreqSwitch
  split
  · exact Ends.pure unprepared
  · apply Ends.bind_of_forall
    intro cfg
    apply Ends.bind_of_forall
    intro pll
    apply Ends.bind_of_forall
    intro nextVco
    apply Ends.bind_of_forall
    intro _
    exact Ends.pure (pll.switchAndDisable_pVcoNext true)

/-- Before boot ends a software switch runs its frequency. -/
theorem wddrSwFreqSwitch_running {current : VcoIndex} (sound : wddr.Sound current)
    (notBooted : wddr.isBooted = false) (freqId : UInt8) (msr : WddrMsr) :
    Ends (wddr.wddrSwFreqSwitch freqId msr) (fun _ => True) fun done =>
      done.2.pll.pllGetCurrentFreq = .ok freqId := by
  have prepares := fun cfg => Pll.pllPrepareVcoSwitch_eq sound.settled.layout
    sound.settled.pVcoCurrent freqId cfg
  rw [wddrSwFreqSwitch, if_neg (by simp [notBooted])]
  apply Ends.bind_of_forall
  intro cfg
  have prepared : Ends (wddr.pll.pllPrepareVcoSwitch freqId cfg.pll) (fun _ => True)
      fun pll => pll = wddr.pll.prepareVco freqId cfg.pll current.spare := by
    rw [prepares]
    exact Ends.ok rfl
  apply prepared.bind
  rintro _ rfl
  apply Ends.bind_of_forall
  intro nextVco
  apply Ends.bind_of_forall
  intro _
  apply Ends.pure
  have prepared : (wddr.pll.prepareVco freqId cfg.pll current.spare).pVcoNext =
      some current.spare := Pll.prepareVco_pVcoNext freqId cfg.pll current.spare
  obtain ⟨-, sameVco, onNext, -⟩ := Pll.switchAndDisable_pointers prepared true
  change (Pll.switchAndDisable true _).pllGetCurrentFreq = _
  rw [Pll.pllGetCurrentFreq, onNext, sameVco]
  exact congrArg Except.ok (Pll.prepareVco_freqId_self _ _ _)

theorem staysUnprepared_alignVco (fuel : Nat) :
    wddr.StaysUnprepared (wddr.alignVco fuel) id := by
  induction fuel generalizing wddr with
  | zero => exact fun _ => trivial
  | succ fuel inductionHypothesis =>
      intro unprepared
      apply Ends.bind_of_forall
      intro currentVcoId
      split
      · exact Ends.pure unprepared
      · apply (staysUnprepared_wddrSwFreqSwitch wddrPhyBootFreq .msr0 unprepared).bind
        intro switched kept
        exact inductionHypothesis kept

theorem runsBoot_alignVco (fuel : Nat) {current : VcoIndex} (sound : wddr.Sound current)
    (notBooted : wddr.isBooted = false) (runs : wddr.RunsBoot) :
    Ends (wddr.alignVco fuel) (fun _ => True) RunsBoot := by
  induction fuel generalizing wddr current with
  | zero => trivial
  | succ fuel inductionHypothesis =>
      apply Ends.bind_of_forall
      intro currentVcoId
      split
      · exact Ends.pure runs
      · have switches : Ends (wddr.wddrSwFreqSwitch wddrPhyBootFreq .msr0) (fun _ => True) _ :=
          wddrSwFreqSwitch_ends sound sound.table.bootFreq .msr0
        have both := switches.and (wddrSwFreqSwitch_running sound notBooted wddrPhyBootFreq .msr0)
        apply both.allowAny.bind
        rintro ⟨ret, switched⟩ ⟨⟨quiet, soundSwitched⟩, running⟩
        exact inductionHypothesis soundSwitched (quiet.isBooted.trans notBooted) running

variable [Device]

theorem staysUnprepared_wddrBootSetup (hw : HwStatus) (bootCfg : WddrBootCfg) :
    wddr.StaysUnprepared (wddr.wddrBootSetup hw bootCfg) id := by
  intro unprepared
  unfold wddrBootSetup
  apply (staysUnprepared_bootPllCal hw bootCfg unprepared).bind
  intro calibrated keptCalibrated
  refine Ends.bind (staysUnprepared_wddrSwFreqSwitch wddrPhyBootFreq .msr0 ?_) ?_
  · exact keptCalibrated
  rintro ⟨ret, switched⟩ keptSwitched
  apply Ends.bind_of_forall
  intro cfg
  refine Ends.bind ((keepsPll_wddrConfigurePhy wddrPhyBootFreq .msr0).staysUnprepared ?_) ?_
  · exact keptSwitched
  intro configured keptConfigured
  refine Ends.bind ((keepsPll_bootZqcalCal hw bootCfg).staysUnprepared ?_) ?_
  · exact keptConfigured
  intro last keptLast
  exact Ends.pure keptLast

/-- A boot leaves no VCO prepared. -/
theorem staysUnprepared_wddrBoot (hw : HwStatus) (bootCfg : WddrBootCfg) :
    wddr.StaysUnprepared (wddr.wddrBoot hw bootCfg) Prod.snd := by
  intro unprepared
  apply (staysUnprepared_wddrBootSetup hw bootCfg unprepared).bind
  intro started keptStarted
  apply ((keepsPll_wddrBootTrain hw bootCfg).staysUnprepared keptStarted).bind
  rintro ⟨ret, trained⟩ keptTrained
  cases ret with
  | wddrSuccess =>
      have finishes : trained.StaysUnprepared (trained.wddrBootFinish hw) id := by
        intro unprepared
        refine Ends.bind (staysUnprepared_alignVco 4 ?_) ?_
        · exact unprepared
        intro aligned same
        have handed := (similar_fswSwitchToDfiMode aligned).vcos.pVcoNext
        exact Ends.pure (handed.trans same)
      apply (finishes keptTrained).bind
      intro last same
      exact Ends.pure same
  | _ => exact Ends.pure keptTrained

/-- The first part of boot switches to the boot frequency. -/
theorem runsBoot_wddrBootSetup {current : VcoIndex} (sound : wddr.Sound current)
    (notBooted : wddr.isBooted = false) (hw : HwStatus) (bootCfg : WddrBootCfg) :
    Ends (wddr.wddrBootSetup hw bootCfg) (fun _ => True) RunsBoot := by
  unfold wddrBootSetup
  have calibrates : Ends (wddr.bootPllCal hw bootCfg) (fun _ => True) _ :=
    bootPllCal_ends sound hw bootCfg
  apply calibrates.bind
  rintro calibrated ⟨quietCalibrated, soundCalibrated⟩
  have overridden := calibrated.untouched_onPhy (forRange wddrPhyChannelNum fun channel phy =>
    { phy with ca := Function.update phy.ca channel (overrideCsCke (phy.ca channel)) })
  have stillNotBooted := (quietCalibrated.trans overridden.quiet).isBooted.trans notBooted
  refine Ends.bind (wddrSwFreqSwitch_running (overridden.sound soundCalibrated) stillNotBooted
    wddrPhyBootFreq .msr0) ?_
  rintro ⟨ret, switched⟩ runsSwitched
  apply Ends.bind_of_forall
  intro cfg
  refine Ends.bind (RunsBoot.of_keepsPll ?_
    (keepsPll_wddrConfigurePhy wddrPhyBootFreq .msr0)) ?_
  · exact runsSwitched
  intro configured runsConfigured
  refine Ends.bind (RunsBoot.of_keepsPll ?_ (keepsPll_bootZqcalCal hw bootCfg)) ?_
  · exact runsConfigured
  intro last runsLast
  exact Ends.pure runsLast

/-- The last part of boot ends at the boot frequency. -/
theorem runsBoot_wddrBootFinish {current : VcoIndex} (sound : wddr.Sound current)
    (notBooted : wddr.isBooted = false) (hw : HwStatus) (runs : wddr.RunsBoot) :
    Ends (wddr.wddrBootFinish hw) (fun _ => True) RunsBoot := by
  unfold wddrBootFinish
  have soundPrimed := ((wddr.untouched_onDfich fun dfich =>
    (dfich.dfiBufferFillAndSendPackets (primePackets hw.heapFails)).2.dfiBufferDisable).trans
      (untouched_onPhy _ wddrClearFifoAllChannels)).sound sound
  refine Ends.bind (runsBoot_alignVco 4 soundPrimed notBooted runs) ?_
  intro aligned runsAligned
  have handed : aligned.fswSwitchToDfiMode.pll = aligned.pll := by
    unfold fswSwitchToDfiMode
    split
    · rfl
    · simp only [onFsw, onDfi, onIrq]
  exact Ends.pure ((congrArg Pll.pllGetCurrentFreq handed).trans runsAligned)

/-- The first successful boot leaves the PLL at the boot frequency. -/
theorem runsBoot_of_wddrBoot {current : VcoIndex} {after : Wddr} (sound : wddr.Sound current)
    (notBooted : wddr.isBooted = false) {hw : HwStatus} {bootCfg : WddrBootCfg}
    (booted : wddr.wddrBoot hw bootCfg = .ok (.wddrSuccess, after)) : after.RunsBoot := by
  have ends : Ends (wddr.wddrBoot hw bootCfg) (fun _ => True) fun done =>
      done.1 = .wddrSuccess → done.2.RunsBoot := by
    unfold wddrBoot
    have setup := (wddrBootSetup_ends sound hw bootCfg).and
      (runsBoot_wddrBootSetup sound notBooted hw bootCfg)
    apply setup.allowAny.bind
    rintro started ⟨⟨quietStarted, soundStarted⟩, runsStarted⟩
    have trains : Ends (started.wddrBootTrain hw bootCfg) (fun _ => True) _ :=
      wddrBootTrain_ends soundStarted hw bootCfg
    apply trains.bind
    rintro ⟨ret, trained⟩ untouched
    cases ret with
    | wddrSuccess =>
        have notBooted' := (quietStarted.trans untouched.quiet).isBooted.trans notBooted
        have runsTrained : trained.RunsBoot :=
          (congrArg Pll.pllGetCurrentFreq untouched.pll).trans runsStarted
        apply (runsBoot_wddrBootFinish (untouched.sound soundStarted) notBooted' hw
          runsTrained).bind
        intro last runsLast
        exact Ends.pure fun _ => runsLast
    | _ => exact Ends.pure fun success => by cases success
  exact ends.good_of_ok booted rfl

end Wddr

/-- Before a boot has succeeded no VCO is prepared, and only an error leaves a booted device
behind. -/
structure Fw.BeforeBoot (fw : Fw) : Prop where
  unprepared : fw.ready = false → fw.wddr.pll.pVcoNext = none
  notBooted : fw.ready = false → fw.error = false → fw.wddr.isBooted = false

section Runs

variable [KernelIo]

omit [KernelIo] in
theorem Fw.BeforeBoot.of_ready {fw : Fw} (ready : fw.ready = true) : fw.BeforeBoot :=
  ⟨fun notReady => by simp [ready] at notReady, fun notReady => by simp [ready] at notReady⟩

theorem Fw.BeforeBoot.of_sameControl {before after : Fw} (fresh : before.BeforeBoot)
    (same : before.SameControl after) : after.BeforeBoot where
  unprepared notReady :=
    same.device.vcos.pVcoNext.trans (fresh.unprepared (same.ready ▸ notReady))
  notBooted notReady healthy :=
    same.device.isBooted.trans (fresh.notBooted (same.ready ▸ notReady) (same.error ▸ healthy))

/-- A boot leaves no VCO prepared, and it ends ready or with an error. -/
theorem Fw.pVcoNext_finishStart [BuildConfig] [Device] {fw : Fw}
    {booted : WddrReturn × Wddr} {bootCfg : WddrBootCfg} (unprepared : fw.wddr.pll.pVcoNext = none)
    (boots : fw.wddr.wddrBoot fw.hw bootCfg = .ok booted) :
    (fw.finishStart booted).2.wddr.pll.pVcoNext = none := by
  have noNext : booted.2.pll.pVcoNext = none :=
    (Wddr.staysUnprepared_wddrBoot _ _ unprepared).good_of_ok boots
  unfold Fw.finishStart
  split
  · exact noNext
  · split
    · exact noNext
    · exact noNext

theorem Fw.finishStart_ready_or_error (fw : Fw) (booted : WddrReturn × Wddr) :
    (fw.finishStart booted).2.ready = true ∨ (fw.finishStart booted).2.error = true := by
  unfold Fw.finishStart
  split
  · exact .inr rfl
  · split
    · exact .inl rfl
    · exact .inr rfl

end Runs

namespace Sys

variable [Platform]

theorem beforeBoot_of_taken {sys next : Sys} {label : Label} (reachable : system.Reachable sys)
    (fresh : sys.fw.BeforeBoot) (taken : system.step label sys = some next) :
    next.fw.BeforeBoot := by
  by_cases isProcess : label = .process
  · subst isProcess
    obtain ⟨current, device⟩ := deviceSound_of_reachable reachable
    obtain ⟨msg, -, step⟩ := processStep_of_taken taken
    cases step with
    | unknown => exact fresh
    | failed => exact fresh
    | answered _ ran =>
        rw [answered_fw]
        cases ran with
        | refused => exact fresh
        | @start _ _ booted notReady boots =>
            have unprepared := Fw.pVcoNext_finishStart (fresh.unprepared notReady) boots
            refine ⟨fun _ => unprepared, fun stillNotReady healthy => ?_⟩
            rcases sys.fw.finishStart_ready_or_error booted with isReady | isError
            · simp [isReady] at stillNotReady
            · simp [isError] at healthy
        | dfi _ running _ step => exact .of_ready (step.frame.ready.trans running.1)
        | fsw _ running _ step =>
            exact .of_ready ((step.frame device.sound).ready.trans running.1)
  · exact fresh.of_sameControl (otherStep_of_taken taken isProcess).effect.sameControl

theorem beforeBoot_of_reachable {sys : Sys} (reachable : system.Reachable sys) :
    sys.fw.BeforeBoot := by
  apply reachable.invariant (motive := fun sys => sys.fw.BeforeBoot)
  · rintro sys ⟨table, reset, hw, timerStarts, -, -, rfl⟩
    exact ⟨fun _ => Wddr.pVcoNext_wddrInit _ _, fun _ _ => rfl⟩
  · exact fun _ _ _ before _ taken fresh => beforeBoot_of_taken before fresh taken

end Sys

end WavLpddr
