import WavLpddr.DfiFifo
import WavLpddr.Lib.Outcome
import WavLpddr.PllBookkeeping
import WavLpddr.Wddr

/-!
# What holds of the device between two operations

The PLL is settled, and the frequencies of the VCO in use and of the prepared one
are valid, so that every later access of the frequency table is in range.  The
operations of the device keep this, boot brings the PLL to PHY VCO 1 in a bounded
number of switches, and only the impedance calibration can fail fatally.
-/

namespace WavLpddr

open RegisterFile Outcome

variable [KernelIo]

namespace Wddr

/-- The device between two operations, running on `current`. -/
structure Sound (wddr : Wddr) (current : VcoIndex) : Prop where
  table : ValidTable wddr.table
  dramCfg : wddr.dramCfg = wddrPhyBootFreq
  settled : wddr.pll.Settled current
  currentFreq : current ≠ .mcu → wddr.table.validFreq (wddr.pll.vco current).freqId = true
  nextFreq : ∀ next, wddr.pll.pVcoNext = some next →
    wddr.table.validFreq (wddr.pll.vco next).freqId = true
  booted : wddr.isBooted = true → current ≠ .mcu

/-- What the steps of boot leave alone before the hand-over to the DFI. -/
structure Quiet (before after : Wddr) : Prop where
  isBooted : after.isBooted = before.isBooted
  fswMode : after.fswMode = before.fswMode
  irq : after.irq = before.irq
  dfi : after.dfi = before.dfi
  dramCfg : after.dramCfg = before.dramCfg
  valid : after.table.valid = before.table.valid

omit [KernelIo] in
theorem Quiet.refl (wddr : Wddr) : Quiet wddr wddr := ⟨rfl, rfl, rfl, rfl, rfl, rfl⟩

omit [KernelIo] in
theorem Quiet.trans {first second third : Wddr} (earlier : Quiet first second)
    (later : Quiet second third) : Quiet first third where
  isBooted := later.isBooted.trans earlier.isBooted
  fswMode := later.fswMode.trans earlier.fswMode
  irq := later.irq.trans earlier.irq
  dfi := later.dfi.trans earlier.dfi
  dramCfg := later.dramCfg.trans earlier.dramCfg
  valid := later.valid.trans earlier.valid

/-- What soundness is about agrees between the two. -/
structure Similar (before after : Wddr) : Prop where
  vcos : Pll.SameVcos before.pll after.pll
  isBooted : after.isBooted = before.isBooted
  dramCfg : after.dramCfg = before.dramCfg
  valid : after.table.valid = before.table.valid

theorem Similar.refl (wddr : Wddr) : Similar wddr wddr :=
  ⟨.refl _, rfl, rfl, rfl⟩

theorem Similar.trans {first second third : Wddr} (earlier : Similar first second)
    (later : Similar second third) : Similar first third where
  vcos := earlier.vcos.trans later.vcos
  isBooted := later.isBooted.trans earlier.isBooted
  dramCfg := later.dramCfg.trans earlier.dramCfg
  valid := later.valid.trans earlier.valid

theorem similar_onIrq (update : Irq → Irq) (wddr : Wddr) :
    Similar wddr (wddr.onIrq update) :=
  ⟨.refl _, rfl, rfl, rfl⟩

theorem similar_onFsw (update : FswRegs → FswRegs) (wddr : Wddr) :
    Similar wddr (wddr.onFsw update) :=
  ⟨.refl _, rfl, rfl, rfl⟩

theorem Sound.of_similar {before after : Wddr} {current : VcoIndex}
    (sound : before.Sound current) (similar : Similar before after) : after.Sound current where
  table freqId filled := by
    rw [similar.valid]
    exact sound.table freqId filled
  dramCfg := similar.dramCfg.trans sound.dramCfg
  settled := sound.settled.of_same similar.vcos
  currentFreq onPhy := by
    rw [WddrTable.validFreq_of_valid_eq similar.valid, similar.vcos.vco]
    exact sound.currentFreq onPhy
  nextFreq next prepared := by
    rw [WddrTable.validFreq_of_valid_eq similar.valid, similar.vcos.vco]
    exact sound.nextFreq next (similar.vcos.pVcoNext ▸ prepared)
  booted isBooted := sound.booted (similar.isBooted ▸ isBooted)

/-- The PLL and what boot leaves alone are the same. -/
structure Untouched (before after : Wddr) : Prop where
  pll : after.pll = before.pll
  quiet : Quiet before after

omit [KernelIo] in
theorem Untouched.refl (wddr : Wddr) : Untouched wddr wddr := ⟨rfl, .refl wddr⟩

omit [KernelIo] in
theorem Untouched.trans {first second third : Wddr} (earlier : Untouched first second)
    (later : Untouched second third) : Untouched first third :=
  ⟨later.pll.trans earlier.pll, earlier.quiet.trans later.quiet⟩

theorem Untouched.similar {before after : Wddr} (untouched : Untouched before after) :
    Similar before after where
  vcos := by
    rw [untouched.pll]
    exact .refl _
  isBooted := untouched.quiet.isBooted
  dramCfg := untouched.quiet.dramCfg
  valid := untouched.quiet.valid

section Operations

variable {wddr : Wddr} {current : VcoIndex} {allowed : Fault → Prop}

omit [KernelIo] in
theorem freqAt_ends {freqId : UInt8} (valid : wddr.table.validFreq freqId = true) :
    Ends (wddr.table.freqAt freqId) allowed fun cfg => cfg = wddr.table.freq freqId.toNat := by
  rw [WddrTable.freqAt_of_valid valid]
  exact Ends.ok rfl

omit [KernelIo] in
theorem untouched_onPhy (wddr : Wddr) (update : PhyRegs → PhyRegs) :
    Untouched wddr (wddr.onPhy update) :=
  ⟨rfl, rfl, rfl, rfl, rfl, rfl, rfl⟩

omit [KernelIo] in
theorem untouched_onCmn (wddr : Wddr) (update : CmnRegs → CmnRegs) :
    Untouched wddr (wddr.onCmn update) :=
  ⟨rfl, rfl, rfl, rfl, rfl, rfl, rfl⟩

omit [KernelIo] in
theorem untouched_onFsw (wddr : Wddr) (update : FswRegs → FswRegs) :
    Untouched wddr (wddr.onFsw update) :=
  ⟨rfl, rfl, rfl, rfl, rfl, rfl, rfl⟩

omit [KernelIo] in
theorem untouched_onDfich (wddr : Wddr) (update : DfiChannel → DfiChannel) :
    Untouched wddr (wddr.onDfich update) :=
  ⟨rfl, rfl, rfl, rfl, rfl, rfl, rfl⟩

theorem wddrConfigurePhy_ends {freqId : UInt8} (valid : wddr.table.validFreq freqId = true)
    (msr : WddrMsr) :
    Ends (wddr.wddrConfigurePhy freqId msr) allowed (Untouched wddr) := by
  apply (freqAt_ends valid).bind
  intro cfg _
  exact Ends.pure ⟨rfl, rfl, rfl, rfl, rfl, rfl, rfl⟩

/-- The impedance update reads the table at the frequency of the running VCO. -/
theorem wddrIocalUpdatePhy_ends (sound : wddr.Sound current) (onPhy : current ≠ .mcu)
    (hw : HwStatus) : Ends (wddr.wddrIocalUpdatePhy hw) allowed (Untouched wddr) := by
  have running : wddr.pll.pllGetCurrentFreq = .ok (wddr.pll.vco current).freqId := by
    rw [Pll.pllGetCurrentFreq, sound.settled.pVcoCurrent]
  unfold wddrIocalUpdatePhy
  rw [running]
  apply (freqAt_ends (sound.currentFreq onPhy)).bind
  intro cfg _
  exact Ends.pure (untouched_onPhy _ _)

/-- The only assertion that depends on the hardware. -/
def CalibrationFault (fault : Fault) : Prop := fault = .assertion .wddrIocalCalibrate

theorem wddrIocalCalibrate_ends [BuildConfig] (wddr : Wddr) (hw : HwStatus) :
    Ends (wddr.wddrIocalCalibrate hw) CalibrationFault (Untouched wddr) := by
  unfold wddrIocalCalibrate
  obtain ⟨ret, zqcal, cmn⟩ := cmnZqcalCalibrate hw.zqcal (wddr.table.common.zqcal, wddr.phy.cmn)
  have asserted : Ends (configASSERT .wddrIocalCalibrate (ret = .wddrSuccess))
      CalibrationFault fun _ => True := by
    simp only [configASSERT]
    split
    · exact rfl
    · exact trivial
  apply asserted.bind
  intro _ _
  exact Ends.pure ⟨rfl, rfl, rfl, rfl, rfl, rfl, rfl⟩

/-- The calibration changes the table's codes and the common block only. -/
theorem eq_of_wddrIocalCalibrate [BuildConfig] {hw : HwStatus} {after : Wddr}
    (calibrated : wddr.wddrIocalCalibrate hw = .ok after) :
    ∃ zqcal cmn, after = { wddr with
      table := { wddr.table with common := { wddr.table.common with zqcal := zqcal } }
      phy := { wddr.phy with cmn := cmn } } := by
  unfold wddrIocalCalibrate at calibrated
  simp only [configASSERT] at calibrated
  split at calibrated
  · cases calibrated
  · exact ⟨_, _, (Except.ok.inj calibrated).symm⟩

theorem eq_of_wddrIocalUpdatePhy {hw : HwStatus} {after : Wddr}
    (updated : wddr.wddrIocalUpdatePhy hw = .ok after) :
    ∃ update, after = wddr.onPhy update := by
  unfold wddrIocalUpdatePhy at updated
  cases freq : wddr.pll.pllGetCurrentFreq with
  | error fault => simp [freq, bind, Except.bind] at updated
  | ok freqId =>
      cases found : wddr.table.freqAt freqId with
      | error fault => simp [freq, found, bind, Except.bind] at updated
      | ok cfg =>
          simp only [freq, found, bind, Except.bind, pure, Except.pure, Except.ok.injEq]
            at updated
          exact ⟨_, updated.symm⟩

end Operations

section Switch

variable {wddr : Wddr} {current : VcoIndex} {allowed : Fault → Prop}

/-- The PLL of a sound device was moved on. -/
theorem Sound.withPll (sound : wddr.Sound current) {pll : Pll} {next : VcoIndex}
    (settled : pll.Settled next)
    (currentFreq : next ≠ .mcu → wddr.table.validFreq (pll.vco next).freqId = true)
    (nextFreq : ∀ other, pll.pVcoNext = some other →
      wddr.table.validFreq (pll.vco other).freqId = true)
    (booted : wddr.isBooted = true → next ≠ .mcu) :
    ({ wddr with pll := pll } : Wddr).Sound next :=
  ⟨sound.table, sound.dramCfg, settled, currentFreq, nextFreq, booted⟩

theorem Sound.pllPrepare (sound : wddr.Sound current) {freqId : UInt8}
    (valid : wddr.table.validFreq freqId = true) (cfg : PllFreqCfg) :
    ({ wddr with pll := wddr.pll.prepareVco freqId cfg current.spare } : Wddr).Sound
      current := by
  refine sound.withPll (sound.settled.prepare freqId cfg) ?_ ?_ sound.booted
  · intro onPhy
    have kept : (wddr.pll.prepareVco freqId cfg current.spare).vco current =
        wddr.pll.vco current :=
      Pll.prepareVco_vco_of_ne freqId cfg _ current.spare_ne.symm
    simpa only [kept] using sound.currentFreq onPhy
  · intro next prepared
    have isSpare : current.spare = next := by
      simpa only [Pll.prepareVco_pVcoNext, Option.some.injEq] using prepared
    simpa only [← isSpare, Pll.prepareVco_freqId_self] using valid

theorem Sound.pllSwitch (sound : wddr.Sound current) {next : VcoIndex}
    (prepared : wddr.pll.pVcoNext = some next) (isSwSwitch : Bool) :
    ({ wddr with pll := wddr.pll.switchAndDisable isSwSwitch } : Wddr).Sound next := by
  obtain ⟨-, sameVco, -, cleared, -⟩ := Pll.switchAndDisable_pointers prepared isSwSwitch
  refine sound.withPll (sound.settled.switchAndDisable prepared isSwSwitch) ?_ ?_ ?_
  · intro _
    simpa only [sameVco] using sound.nextFreq next prepared
  · intro other preparedAfter
    simp only [cleared, reduceCtorEq] at preparedAfter
  · intro _
    rw [sound.settled.pVcoNext next prepared]
    exact current.spare_ne_mcu

theorem Untouched.sound {before after : Wddr} (untouched : Untouched before after)
    (sound : before.Sound current) : after.Sound current :=
  sound.of_similar untouched.similar

variable [Device]

/-- The device with a switch prepared, while `current` is in use. -/
def preparedFor (freqId : UInt8) (msr : WddrMsr) (current : VcoIndex) (wddr : Wddr) : Wddr :=
  let cfg := wddr.table.freq freqId.toNat
  let ratio := (wddr.table.freq wddrPhyBootFreq.toNat).dram.ratio
  { wddr with
    phy := configurePhyRegs msr wddr.table.common cfg wddr.phy
    dfich := wddr.dfich.prepare msr cfg.dfi (mrwUpdatePackets ratio cfg.dram)
    pll := wddr.pll.prepareVco freqId cfg.pll current.spare }

theorem wddrPrepSwitch_of_valid (sound : wddr.Sound current) {freqId : UInt8}
    (valid : wddr.table.validFreq freqId = true) (msr : WddrMsr) :
    wddr.wddrPrepSwitch freqId msr =
      .ok (.wddrSuccess, wddr.preparedFor freqId msr current) := by
  have chosen := WddrTable.freqAt_of_valid valid
  have running : wddr.table.freqAt wddr.dramCfg =
      .ok (wddr.table.freq wddrPhyBootFreq.toNat) := by
    rw [sound.dramCfg]
    exact WddrTable.freqAt_of_valid sound.table.bootFreq
  have prepared := Pll.pllPrepareVcoSwitch_eq sound.settled.layout sound.settled.pVcoCurrent
    freqId (wddr.table.freq freqId.toNat).pll
  simp only [wddrPrepSwitch, wddrConfigurePhy, wddrPrepFreqSwitchMrwUpdate, onDfich, valid,
    chosen, running, prepared, if_true, bind, Except.bind, pure, Except.pure]
  rfl

omit [KernelIo] [Device] in
theorem wddrPrepSwitch_of_invalid [KernelIo] [Device] {freqId : UInt8}
    (invalid : wddr.table.validFreq freqId = false) (msr : WddrMsr) :
    wddr.wddrPrepSwitch freqId msr = .ok (.wddrError, wddr) := by
  simp [wddrPrepSwitch, invalid, pure, Except.pure]

theorem Sound.preparedFor (sound : wddr.Sound current) {freqId : UInt8}
    (valid : wddr.table.validFreq freqId = true) (msr : WddrMsr) :
    (wddr.preparedFor freqId msr current).Sound current :=
  (sound.pllPrepare valid (wddr.table.freq freqId.toNat).pll).of_similar
    ⟨.refl _, rfl, rfl, rfl⟩

end Switch

section SwSwitch

variable [BuildConfig] {wddr : Wddr} {current : VcoIndex} {allowed : Fault → Prop}

/-- The VCO that a software switch ends on. -/
def afterSwSwitch (wddr : Wddr) (current : VcoIndex) : VcoIndex :=
  if wddr.isBooted then current else current.spare

theorem pllGetNextVco_prepared (sound : wddr.Sound current) (freqId : UInt8)
    (cfg : PllFreqCfg) :
    (wddr.pll.prepareVco freqId cfg current.spare).pllGetNextVco = .ok current.spare.id := by
  have layout := Pll.prepareVco_layout freqId cfg current.spare sound.settled.layout
  simp only [Pll.pllGetNextVco, Pll.prepareVco_pVcoNext, Option.isSome_some, configASSERT_true,
    bind, Except.bind]
  rw [layout.vcoId]

/-- A software switch is refused once the device is booted, and otherwise ends on the
spare VCO. -/
theorem wddrSwFreqSwitch_ends (sound : wddr.Sound current) {freqId : UInt8}
    (valid : wddr.table.validFreq freqId = true) (msr : WddrMsr) :
    Ends (wddr.wddrSwFreqSwitch freqId msr) allowed fun done =>
      Quiet wddr done.2 ∧ done.2.Sound (wddr.afterSwSwitch current) := by
  unfold wddrSwFreqSwitch afterSwSwitch
  by_cases isBooted : wddr.isBooted = true
  · rw [if_pos isBooted, if_pos isBooted]
    exact Ends.pure ⟨.refl wddr, sound⟩
  · rw [if_neg isBooted, if_neg isBooted]
    have prepared := fun cfg => Pll.pllPrepareVcoSwitch_eq sound.settled.layout
      sound.settled.pVcoCurrent freqId cfg
    have named : (current.spare.id ≠ Pll.undefinedVcoId) := by cases current <;> decide
    have found : Ends ((wddr.onFsw (fswCtrlSetMsrToggleEnRegIf false)).table.freqAt freqId)
        allowed fun cfg => cfg = wddr.table.freq freqId.toNat := freqAt_ends valid
    apply found.bind
    intro cfg _
    have prepares : Ends (wddr.pll.pllPrepareVcoSwitch freqId cfg.pll) allowed
        fun pll => pll = wddr.pll.prepareVco freqId cfg.pll current.spare := by
      rw [prepared]
      exact Ends.ok rfl
    apply prepares.bind
    rintro _ rfl
    rw [pllGetNextVco_prepared sound]
    simp only [bind, Except.bind, decide_eq_true named, configASSERT_true]
    apply Ends.pure
    have next : (wddr.pll.prepareVco freqId cfg.pll current.spare).pVcoNext =
        some current.spare := Pll.prepareVco_pVcoNext freqId cfg.pll _
    have switched := (sound.pllPrepare valid cfg.pll).pllSwitch next true
    constructor
    · constructor <;> simp only [onFsw]
    · apply switched.of_similar
      simp only [onFsw]
      exact ⟨.refl _, rfl, rfl, rfl⟩

/-- The alignment loop needs at most one switch once a PHY VCO runs. -/
theorem alignVco_ends (fuel : Nat) (sound : wddr.Sound current) (onPhy : current ≠ .mcu)
    (aligned : wddr.isBooted = true → current = .phy1) :
    Ends (wddr.alignVco (fuel + 2)) allowed fun after =>
      Quiet wddr after ∧ after.Sound .phy1 := by
  have running : ∀ {wddr : Wddr} {current : VcoIndex}, wddr.Sound current →
      wddr.pll.pllGetCurrentVco = .ok current.id := by
    intro wddr current sound
    rw [Pll.pllGetCurrentVco, sound.settled.pVcoCurrent]
    exact congrArg Except.ok (sound.settled.layout.vcoId current)
  have stops : ∀ (fuel : Nat) (wddr : Wddr), wddr.Sound .phy1 →
      wddr.alignVco (fuel + 1) = .ok wddr := by
    intro fuel wddr sound
    simp only [alignVco, running sound, bind, Except.bind, if_true]
    rfl
  cases current with
  | mcu => exact absurd rfl onPhy
  | phy1 =>
      rw [stops (fuel + 1) wddr sound]
      exact Ends.ok ⟨.refl wddr, sound⟩
  | phy2 =>
      have notBooted : wddr.isBooted ≠ true := fun isBooted => by
        cases aligned isBooted
      have other : VcoIndex.phy2.id ≠ VcoIndex.phy1.id := by decide
      have switched : Ends (wddr.wddrSwFreqSwitch wddrPhyBootFreq .msr0) allowed _ :=
        wddrSwFreqSwitch_ends sound sound.table.bootFreq .msr0
      rw [alignVco, running sound]
      simp only [bind, Except.bind, if_neg other]
      apply switched.bind
      intro done ends
      obtain ⟨quiet, soundAfter⟩ := ends
      rw [afterSwSwitch, if_neg notBooted] at soundAfter
      rw [stops fuel done.2 soundAfter]
      exact Ends.ok ⟨quiet, soundAfter⟩

end SwSwitch

section Boot

variable {wddr : Wddr} {current : VcoIndex} {allowed : Fault → Prop}

theorem calibrateFreq_ends (sound : wddr.Sound current) (hw : HwStatus) {freqId : UInt8}
    (valid : wddr.table.validFreq freqId = true) :
    Ends (wddr.calibrateFreq hw freqId) allowed fun after =>
      Quiet wddr after ∧ after.Sound current := by
  unfold calibrateFreq
  apply (freqAt_ends valid).bind
  intro cfg _
  have same := Pll.pllCalibrateVco_same sound.settled.layout (hw.fllBandStatus freqId) cfg.pll
  apply Ends.pure
  exact ⟨⟨rfl, rfl, rfl, rfl, rfl, rfl⟩, sound.of_similar ⟨same, rfl, rfl, rfl⟩⟩

theorem untouched_senseAmpByte (hw : HwStatus) (calibrate : Bool) (rxGb : RxGbCfg)
    (channel byte : Nat) :
    Untouched wddr (wddr.senseAmpByte hw calibrate rxGb channel byte).2 := by
  unfold senseAmpByte
  dsimp only
  split
  · exact ⟨rfl, rfl, rfl, rfl, rfl, rfl, rfl⟩
  · exact ⟨rfl, rfl, rfl, rfl, rfl, rfl, rfl⟩

theorem untouched_senseAmpChannel (hw : HwStatus) (calibrate : Bool) (cfg : WddrFreqCfg)
    (channel : Nat) : Untouched wddr (wddr.senseAmpChannel hw calibrate cfg channel).2 := by
  have bytes := propagateErrors_induction (motive := Untouched wddr)
    (fun byte state untouched => untouched.trans (untouched_senseAmpByte hw calibrate
      ((cfg.channel channel).dq byte).rx.gearbox channel byte))
    (List.range wddrPhyDqByteNum) (wddr.untouched_onPhy (wddrSetChipSelectRegIf channel 0 true))
  unfold senseAmpChannel
  dsimp only
  split
  · rename_i returned
    rw [returned] at bytes
    exact bytes.trans (untouched_onPhy _ _)
  · rename_i returned
    rw [returned] at bytes
    exact bytes

theorem wddrBootTrain_ends (sound : wddr.Sound current) (hw : HwStatus)
    (bootCfg : WddrBootCfg) :
    Ends (wddr.wddrBootTrain hw bootCfg) allowed fun done => Untouched wddr done.2 := by
  unfold wddrBootTrain
  apply (freqAt_ends sound.table.bootFreq).bind
  intro cfg _
  have channels := propagateErrors_induction (motive := Untouched wddr)
    (fun channel state untouched => untouched.trans (untouched_senseAmpChannel hw
      (getBootOption bootCfg wddrBootOptionSaCal) cfg channel))
    (List.range wddrPhyChannelNum) (.refl wddr)
  split
  · rename_i returned
    rw [returned] at channels
    apply Ends.pure
    split
    · exact channels
    · exact channels
  · rename_i returned
    rw [returned] at channels
    exact Ends.pure channels

theorem bootPllCal_ends (sound : wddr.Sound current) (hw : HwStatus)
    (bootCfg : WddrBootCfg) :
    Ends (wddr.bootPllCal hw bootCfg) allowed fun after =>
      Quiet wddr after ∧ after.Sound current := by
  unfold bootPllCal
  split
  · apply Ends.foldlM _ ⟨Quiet.refl wddr, sound⟩
    intro state freqId listed kept
    obtain ⟨index, inRange, rfl⟩ := List.mem_map.mp listed
    have filled : (UInt8.ofNat index).toNat < wddrPhyValidFreqNum := by
      have bound : index < wddrPhyValidFreqNum := List.mem_range.mp inRange
      have four : wddrPhyValidFreqNum = 4 := rfl
      rw [UInt8.toNat_ofNat']
      omega
    apply (calibrateFreq_ends kept.2 hw (kept.2.table.validFreq filled)).mono
    intro after ends
    exact ⟨kept.1.trans ends.1, ends.2⟩
  · exact Ends.pure ⟨Quiet.refl wddr, sound⟩

variable [BuildConfig]

theorem bootZqcalCal_ends (sound : wddr.Sound current) (onPhy : current ≠ .mcu)
    (hw : HwStatus) (bootCfg : WddrBootCfg) :
    Ends (wddr.bootZqcalCal hw bootCfg) CalibrationFault (Untouched wddr) := by
  unfold bootZqcalCal
  split
  · apply (wddr.wddrIocalCalibrate_ends hw).bind
    intro calibrated untouched
    apply (wddrIocalUpdatePhy_ends (untouched.sound sound) onPhy hw).mono
    intro updated
    exact untouched.trans
  · exact Ends.pure (.refl wddr)

omit [BuildConfig] in
theorem afterSwSwitch_ne_mcu (sound : wddr.Sound current) :
    wddr.afterSwSwitch current ≠ .mcu := by
  unfold afterSwSwitch
  split
  · rename_i isBooted
    exact sound.booted isBooted
  · exact current.spare_ne_mcu

omit [KernelIo] [BuildConfig] in
theorem Quiet.afterSwSwitch {before after : Wddr} (quiet : Quiet before after) :
    after.afterSwSwitch current = before.afterSwSwitch current := by
  rw [Wddr.afterSwSwitch, Wddr.afterSwSwitch, quiet.isBooted]

variable [Device]

theorem wddrBootSetup_ends (sound : wddr.Sound current) (hw : HwStatus)
    (bootCfg : WddrBootCfg) :
    Ends (wddr.wddrBootSetup hw bootCfg) CalibrationFault fun after =>
      Quiet wddr after ∧ after.Sound (wddr.afterSwSwitch current) := by
  have onPhy : wddr.afterSwSwitch current ≠ .mcu := afterSwSwitch_ne_mcu sound
  unfold wddrBootSetup
  apply (bootPllCal_ends sound hw bootCfg).bind
  rintro calibrated ⟨quietCalibrated, soundCalibrated⟩
  have overridden := calibrated.untouched_onPhy (forRange wddrPhyChannelNum fun channel phy =>
    { phy with ca := Function.update phy.ca channel (overrideCsCke (phy.ca channel)) })
  have quietOverridden := quietCalibrated.trans overridden.quiet
  have soundOverridden := overridden.sound soundCalibrated
  apply (wddrSwFreqSwitch_ends soundOverridden soundOverridden.table.bootFreq .msr0).bind
  rintro ⟨_, switched⟩ ⟨quietSwitched, soundSwitched⟩
  rw [quietOverridden.afterSwSwitch] at soundSwitched
  apply (freqAt_ends soundSwitched.table.bootFreq).bind
  intro cfg _
  have readied := ((switched.untouched_onPhy (forRange wddrPhyChannelNum
    fun channel => channelEnable channel true (cfg.channel channel))).trans
      (untouched_onPhy _ wddrClearFifoAllChannels)).trans (untouched_onFsw _ fswCspSyncRegIf)
  have soundReadied := readied.sound soundSwitched
  apply (wddrConfigurePhy_ends soundReadied.table.bootFreq .msr0).bind
  intro configured untouched
  have flushed := (untouched.trans (configured.untouched_onDfich fun dfich =>
    (dfich.dfiBufferFillAndSendPackets flushPackets).2.dfiBufferDisable)).trans
      (untouched_onPhy _ wddrClearFifoAllChannels)
  apply (bootZqcalCal_ends (flushed.sound soundReadied) onPhy hw bootCfg).bind
  intro last untouchedLast
  have atEnd := ((readied.trans flushed).trans untouchedLast).trans (untouched_onCmn _
    (cmnVrefSetCodeRegIf .msr0 (cfg.vref.code.setWidth 32)))
  have quietEnd := (quietOverridden.trans quietSwitched).trans atEnd.quiet
  exact Ends.pure ⟨quietEnd, atEnd.sound soundSwitched⟩

/-- What the hand-over to the DFI keeps of the interface and the interrupts. -/
structure HandedOver (before after : Wddr) : Prop where
  isBooted : after.isBooted = true
  lines : SameLines before.dfi after.dfi
  otherIrqs : ∀ line, line ≠ .initStart → line ≠ .initComplete →
    after.irq.enabled line = before.irq.enabled line
  notArmed : before.irq.armed = false → after.irq.armed = false

omit [BuildConfig] [Device] in
theorem HandedOver.of_quiet {before middle after : Wddr} (handed : HandedOver middle after)
    (quiet : Quiet before middle) : HandedOver before after where
  isBooted := handed.isBooted
  lines := quiet.dfi ▸ handed.lines
  otherIrqs := quiet.irq ▸ handed.otherIrqs
  notArmed := quiet.irq ▸ handed.notArmed

omit [BuildConfig] [Device] in
theorem fswSwitchToDfiMode_handedOver (wddr : Wddr) :
    HandedOver wddr { wddr.fswSwitchToDfiMode with isBooted := true } := by
  unfold fswSwitchToDfiMode
  split
  · exact ⟨rfl, ⟨Iff.rfl, Iff.rfl⟩, fun _ _ _ => rfl, fun unarmed => unarmed⟩
  · have complete := sameLines_initComplete wddr.dfi false false
    have start := sameLines_initStart (dfiSetInitCompleteOvrRegIf false false wddr.dfi)
      false false
    constructor
    · rfl
    · simpa using ⟨start.1.trans complete.1, start.2.trans complete.2⟩
    · intro line notStart notComplete
      simp [Irq.setMask, Irq.clear, Irq.disableIrq, notStart, notComplete]
    · intro _
      simp [Irq.armed, Irq.setMask, Irq.clear, Irq.disableIrq]

omit [BuildConfig] [Device] in
theorem similar_fswSwitchToDfiMode (wddr : Wddr) : Similar wddr wddr.fswSwitchToDfiMode := by
  unfold fswSwitchToDfiMode
  split
  · exact .refl wddr
  · constructor
    · simpa using (Similar.refl wddr).vcos
    · simp
    · simp
    · simp

/-- The last part of boot ends on PHY VCO 1. -/
theorem wddrBootFinish_ends (sound : wddr.Sound current) (onPhy : current ≠ .mcu)
    (aligned : wddr.isBooted = true → current = .phy1) (hw : HwStatus) :
    Ends (wddr.wddrBootFinish hw) allowed fun after =>
      HandedOver wddr after ∧ after.Sound .phy1 := by
  unfold wddrBootFinish
  have primed := (wddr.untouched_onDfich fun dfich =>
    (dfich.dfiBufferFillAndSendPackets (primePackets hw.heapFails)).2.dfiBufferDisable).trans
      (untouched_onPhy _ wddrClearFifoAllChannels)
  have alignedPrimed := fun isBooted => aligned (primed.quiet.isBooted ▸ isBooted)
  apply (alignVco_ends 2 (primed.sound sound) onPhy alignedPrimed).bind
  rintro last ⟨quietLast, soundLast⟩
  have quiet := primed.quiet.trans quietLast
  have handed := fswSwitchToDfiMode_handedOver last
  have soundDfi := soundLast.of_similar (similar_fswSwitchToDfiMode last)
  apply Ends.pure
  constructor
  · exact handed.of_quiet quiet
  · exact ⟨soundDfi.table, soundDfi.dramCfg, soundDfi.settled, soundDfi.currentFreq,
      soundDfi.nextFreq, fun _ => by decide⟩

/-- What boot leaves: the device running on PHY VCO 1 under the control of the DFI, or
what it was apart from the PLL and the PHY. -/
def BootEnds (before : Wddr) (current : VcoIndex) (done : WddrReturn × Wddr) : Prop :=
  (done.1 = .wddrSuccess ∧ HandedOver before done.2 ∧ done.2.Sound .phy1) ∨
    (done.1 ≠ .wddrSuccess ∧ Quiet before done.2 ∧
      done.2.Sound (before.afterSwSwitch current))

theorem wddrBoot_ends (sound : wddr.Sound current)
    (aligned : wddr.isBooted = true → current = .phy1) (hw : HwStatus)
    (bootCfg : WddrBootCfg) :
    Ends (wddr.wddrBoot hw bootCfg) CalibrationFault (BootEnds wddr current) := by
  unfold wddrBoot
  apply (wddrBootSetup_ends sound hw bootCfg).bind
  rintro started ⟨quietStarted, soundStarted⟩
  apply (wddrBootTrain_ends soundStarted hw bootCfg).bind
  rintro ⟨ret, trained⟩ untouched
  have quiet := quietStarted.trans untouched.quiet
  have soundTrained := untouched.sound soundStarted
  have onPhy : wddr.afterSwSwitch current ≠ .mcu := afterSwSwitch_ne_mcu sound
  have alignedTrained : trained.isBooted = true → wddr.afterSwSwitch current = .phy1 := by
    intro isBooted
    rw [quiet.isBooted] at isBooted
    rw [afterSwSwitch, if_pos isBooted]
    exact aligned isBooted
  cases ret
  case wddrSuccess =>
    apply (wddrBootFinish_ends soundTrained onPhy alignedTrained hw).bind
    rintro last ⟨handed, soundLast⟩
    refine Ends.pure (.inl ⟨rfl, ?_, soundLast⟩)
    exact handed.of_quiet quiet
  all_goals exact Ends.pure (.inr ⟨by simp, quiet, soundTrained⟩)

end Boot

section Init

variable (reset : Wddr) (table : WddrTable)

theorem wddrInit_pll :
    (reset.wddrInit table).pll = (reset.pll.pllInit wddrMemoryMapPll).pllBoot := by
  simp [wddrInit]

theorem wddrInit_dfi : (reset.wddrInit table).dfi = reset.dfi := by
  simp [wddrInit]

/-- The switch request is masked, and the acknowledge interrupts are disabled. -/
theorem wddrInit_irq :
    (reset.wddrInit table).irq.armed = false ∧
      (reset.wddrInit table).irq.enabled .phyupdAck = false ∧
      (reset.wddrInit table).irq.enabled .phymstrAck = false := by
  simp [wddrInit, Irq.armed, Irq.setMask, Irq.setSticky, Irq.requestIrq,
    Irq.enableIrq, Irq.disableIrq]

variable {reset table}

theorem sound_wddrInit
    (disabled : ∀ vcoId, vcoId ≠ .mcu → ¬ reset.pll.vcoEnabled vcoId)
    (valid : ValidTable table) : (reset.wddrInit table).Sound .mcu := by
  have settled := Pll.settled_pllInit_pllBoot disabled
  constructor
  · exact valid
  · rfl
  · rw [wddrInit_pll]
    exact settled
  · intro onPhy
    exact absurd rfl onPhy
  · intro next prepared
    rw [wddrInit_pll] at prepared
    cases prepared
  · intro isBooted
    exact absurd isBooted (by simp [wddrInit])

end Init

end Wddr

end WavLpddr
