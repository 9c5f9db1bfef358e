import WavLpddr.BankFollows

/-!
# The settings of the VCOs

The VCO in use and the prepared one hold the settings of their frequencies: preparing them once
more would change none of their registers.  Calibration moves the settings in the table, but
only while the MCU's VCO clocks the PHY.
-/

namespace WavLpddr

open RegisterFile Function Outcome TransitionSystem

section Registers

variable [KernelIo] {vco : VcoDev}

/-- What a preparation sets in the registers of a VCO. -/
def vcoSettings (vco : VcoDev) (vcoCfg : VcoCfg) (regs : PllRegs) : PllRegs :=
  vcoSetBandRegIf vco vcoCfg.band vcoCfg.fine true
    (vcoSetIntFracRegIf vco vcoCfg.intComp vcoCfg.propGain
      (vcoSetPostDivRegIf vco vcoCfg.postDiv (vcoSetEnableRegIf vco true regs)))

/-- The registers of a VCO, from its base. -/
def vcoBlock (base : Word) : Set Word := {addr | ∃ offset ∈ vcoOffsets, addr = base + offset}

omit [KernelIo] in
theorem mem_vcoBlock {base offset : Word} (listed : offset ∈ vcoOffsets) :
    base + offset ∈ vcoBlock base :=
  ⟨offset, listed, rfl⟩

theorem vcoSettings_overwrites (vco : VcoDev) :
    Overwrites (vcoBlock vco.base) (vcoSettings vco) := by
  have enable : Overwrites (vcoBlock vco.base)
      fun (_ : VcoCfg) regs => vcoSetEnableRegIf vco true regs :=
    .modifyReg (mem_vcoBlock (by decide)) (wordOverwrites_updateRegField
      (wordOverwrites_updateRegField .id ddrMvpPllVco0ControlVco0Ena _) _ _)
  have postDiv : Overwrites (vcoBlock vco.base)
      fun (vcoCfg : VcoCfg) regs => vcoSetPostDivRegIf vco vcoCfg.postDiv regs :=
    .whenever (.modifyReg (mem_vcoBlock (by decide))
      (wordOverwrites_updateRegField .id ddrMvpPllVco1ControlVco1PostDiv _))
  have intFrac : Overwrites (vcoBlock vco.base)
      fun (vcoCfg : VcoCfg) regs => vcoSetIntFracRegIf vco vcoCfg.intComp vcoCfg.propGain regs :=
    .thenModifyReg (.write (mem_vcoBlock (by decide)) _) (mem_vcoBlock (by decide))
      (wordOverwrites_updateRegField .id ddrMvpPllVco0IntFracSettingsVco0Int _)
  have band : Overwrites (vcoBlock vco.base)
      fun (vcoCfg : VcoCfg) regs => vcoSetBandRegIf vco vcoCfg.band vcoCfg.fine true regs :=
    .write (mem_vcoBlock (by decide)) _
  exact band.comp (intFrac.comp (postDiv.comp enable))

theorem vcoSettings_rewrites (vco : VcoDev) :
    Rewrites (vcoBlock vco.base) (vcoSettings vco) :=
  .of_overwrites (vcoSettings_overwrites vco)

namespace Pll

/-- The VCO holds the settings: setting them once more changes nothing. -/
def VcoHolds (vcoCfg : VcoCfg) (vcoId : VcoIndex) (pll : Pll) : Prop :=
  IsFixedPt (vcoSettings (pll.vco vcoId) vcoCfg) pll.regs

variable {pll : Pll} {vcoId : VcoIndex} {vcoCfg : VcoCfg}

omit [KernelIo] in
theorem Layout.vcoBlock_eq (layout : pll.Layout) (vcoId : VcoIndex) :
    vcoBlock (pll.vco vcoId).base = {addr | addr ∈ vcoAddrs vcoId} := by
  ext addr
  simp [vcoBlock, vcoAddrs, layout.vcoBase, eq_comm]

/-- The settings are written at the base, for the id. -/
theorem vcoSettings_congr {first second : VcoDev} (base : second.base = first.base)
    (vcoId : second.vcoId = first.vcoId) (vcoCfg : VcoCfg) :
    vcoSettings second vcoCfg = vcoSettings first vcoCfg := by
  funext regs
  simp only [vcoSettings, vcoSetBandRegIf, vcoSetIntFracRegIf, vcoSetPostDivRegIf,
    vcoSetEnableRegIf, base, vcoId]

/-- Whether a VCO holds settings is seen from its registers. -/
theorem VcoHolds.of_eqOn {before after : Pll} (holds : before.VcoHolds vcoCfg vcoId)
    (layout : before.Layout) (base : (after.vco vcoId).base = (before.vco vcoId).base)
    (sameId : (after.vco vcoId).vcoId = (before.vco vcoId).vcoId)
    (same : ∀ addr ∈ vcoAddrs vcoId, after.regs addr = before.regs addr) :
    after.VcoHolds vcoCfg vcoId := by
  have confined := (vcoSettings_rewrites (before.vco vcoId)).confined vcoCfg
  unfold VcoHolds
  rw [vcoSettings_congr base sameId]
  apply confined.isFixedPt_of_eqOn holds
  rw [layout.vcoBlock_eq]
  exact same

/-- A prepared VCO holds its settings. -/
theorem vcoHolds_prepareVco (layout : pll.Layout) (freqId : UInt8) (cfg : PllFreqCfg) :
    (pll.prepareVco freqId cfg vcoId).VcoHolds (cfg.vcoCfg vcoId.cfgIndex) vcoId := by
  let settings := vcoSettings (pll.vco vcoId) (cfg.vcoCfg vcoId.cfgIndex)
  have set : (pll.onRegs settings).VcoHolds (cfg.vcoCfg vcoId.cfgIndex) vcoId :=
    (vcoSettings_rewrites (pll.vco vcoId)).isFixedPt _ _
  apply set.of_eqOn (layout.of_same rfl rfl)
  · simp [prepareVco]
  · simp [prepareVco]
  · intro addr inside
    have notSelection : addr ≠ pll.base + ddrMvpPllCoreOverridesAdr := by
      rintro rfl
      rw [layout.base] at inside
      exact coreOverrides_not_mem_vcoAddrs vcoId inside
    simp only [prepareVco, pllSetVcoSelRegIf, onRegs, modifyReg_apply, if_neg notSelection]
    rfl

/-- A switch leaves the settings of the VCO that it moves to. -/
theorem switchAndDisable_regs {current next : VcoIndex} (settled : pll.Settled current)
    (prepared : pll.pVcoNext = some next) (isSwSwitch : Bool) {addr : Word}
    (inside : addr ∈ vcoAddrs next) :
    (pll.switchAndDisable isSwSwitch).regs addr = pll.regs addr := by
  obtain ⟨sameBase, sameVco, -, -, left⟩ := pllSwitchVco_pointers prepared isSwSwitch
  have different : next ≠ current := settled.pVcoNext next prepared ▸ current.spare_ne
  have notSwitch : addr ≠ pll.base + ddrMvpPllCoreSwtichVcoAdr := by
    rintro rfl
    rw [settled.layout.base] at inside
    exact coreSwitch_not_mem_vcoAddrs next inside
  rw [switchAndDisable, pllDisableVco_regs_of_not_mem (settled.layout.of_same sameBase sameVco)
    (left.trans settled.pVcoCurrent) (vcoAddrs_disjoint different addr inside),
    pllSwitchVco_regs_of_ne prepared isSwSwitch notSwitch]

end Pll

end Registers

section Device

variable [KernelIo] {wddr : Wddr} {current : VcoIndex}

/-- The VCO holds the settings of its frequency. -/
def Wddr.HoldsFreq (vcoId : VcoIndex) (wddr : Wddr) : Prop :=
  wddr.pll.VcoHolds
    ((wddr.table.freq (wddr.pll.vco vcoId).freqId.toNat).pll.vcoCfg vcoId.cfgIndex) vcoId

/-- The PHY VCO in use and the prepared one hold the settings of their frequencies. -/
structure Wddr.VcosHold (wddr : Wddr) : Prop where
  current : ∀ vcoId, wddr.pll.pVcoCurrent = some vcoId → vcoId ≠ .mcu → wddr.HoldsFreq vcoId
  next : ∀ vcoId, wddr.pll.pVcoNext = some vcoId → wddr.HoldsFreq vcoId

/-- The VCOs, their registers and the frequencies of the table are the same. -/
structure Wddr.KeepsVcos (before after : Wddr) : Prop where
  vcos : Pll.SameVcos before.pll after.pll
  regs : ∀ vcoId, ∀ addr ∈ vcoAddrs vcoId, after.pll.regs addr = before.pll.regs addr
  freq : after.table.freq = before.table.freq

namespace Wddr

theorem KeepsVcos.of_eq {before after : Wddr} (pll : after.pll = before.pll)
    (freq : after.table.freq = before.table.freq) : KeepsVcos before after where
  vcos := by
    rw [pll]
    exact .refl _
  regs _ _ _ := by rw [pll]
  freq := freq

theorem KeepsVcos.refl (wddr : Wddr) : KeepsVcos wddr wddr := .of_eq rfl rfl

theorem KeepsVcos.trans {first second third : Wddr} (earlier : KeepsVcos first second)
    (later : KeepsVcos second third) : KeepsVcos first third where
  vcos := earlier.vcos.trans later.vcos
  regs vcoId addr inside := (later.regs vcoId addr inside).trans (earlier.regs vcoId addr inside)
  freq := later.freq.trans earlier.freq

section Updates

variable (wddr : Wddr)

theorem keepsVcos_onPhy (update : PhyRegs → PhyRegs) : KeepsVcos wddr (wddr.onPhy update) :=
  .of_eq rfl rfl

theorem keepsVcos_onCmn (update : CmnRegs → CmnRegs) : KeepsVcos wddr (wddr.onCmn update) :=
  .of_eq rfl rfl

theorem keepsVcos_onFsw (update : FswRegs → FswRegs) : KeepsVcos wddr (wddr.onFsw update) :=
  .of_eq rfl rfl

theorem keepsVcos_onDfich (update : DfiChannel → DfiChannel) :
    KeepsVcos wddr (wddr.onDfich update) :=
  .of_eq rfl rfl

theorem keepsVcos_wddrConfigurePhy (freqId : UInt8) (msr : WddrMsr) :
    Ends (wddr.wddrConfigurePhy freqId msr) (fun _ => True) (KeepsVcos wddr) := by
  apply Ends.bind_of_forall
  intro cfg
  exact Ends.pure (.of_eq rfl rfl)

end Updates

/-- The registers of a VCO, its frequency and the table decide whether it holds its settings. -/
theorem HoldsFreq.of_same {before after : Wddr} {vcoId : VcoIndex} (holds : before.HoldsFreq vcoId)
    (layout : before.pll.Layout) (vco : after.pll.vco vcoId = before.pll.vco vcoId)
    (regs : ∀ addr ∈ vcoAddrs vcoId, after.pll.regs addr = before.pll.regs addr)
    (freq : after.table.freq = before.table.freq) : after.HoldsFreq vcoId := by
  rw [HoldsFreq, freq, vco]
  exact Pll.VcoHolds.of_eqOn holds layout (congrArg VcoDev.base vco) (congrArg VcoDev.vcoId vco)
    regs

theorem VcosHold.of_keeps {before after : Wddr} (hold : before.VcosHold)
    (layout : before.pll.Layout) (keeps : KeepsVcos before after) : after.VcosHold where
  current vcoId onVco onPhy :=
    (hold.current vcoId (keeps.vcos.pVcoCurrent ▸ onVco) onPhy).of_same layout
      (congrFun keeps.vcos.vco vcoId) (keeps.regs vcoId) keeps.freq
  next vcoId prepared :=
    (hold.next vcoId (keeps.vcos.pVcoNext ▸ prepared)).of_same layout
      (congrFun keeps.vcos.vco vcoId) (keeps.regs vcoId) keeps.freq

/-- A preparation sets the spare VCO and leaves the current one alone. -/
theorem VcosHold.prepare (hold : wddr.VcosHold) (settled : wddr.pll.Settled current)
    (freqId : UInt8) :
    ({ wddr with
      pll := wddr.pll.prepareVco freqId (wddr.table.freq freqId.toNat).pll current.spare } :
        Wddr).VcosHold where
  current vcoId onVco onPhy := by
    rw [Pll.prepareVco_pVcoCurrent] at onVco
    obtain rfl := Option.some.inj (settled.pVcoCurrent.symm.trans onVco)
    refine (hold.current _ onVco onPhy).of_same settled.layout ?_ ?_ rfl
    · exact Pll.prepareVco_vco_of_ne _ _ _ current.spare_ne.symm
    · exact fun addr inside => settled.prepare_regs freqId _ inside
  next vcoId prepared := by
    rw [Pll.prepareVco_pVcoNext] at prepared
    obtain rfl := Option.some.inj prepared
    rw [HoldsFreq, Pll.prepareVco_freqId_self]
    exact Pll.vcoHolds_prepareVco settled.layout freqId _

/-- A switch moves to the prepared VCO with its settings. -/
theorem VcosHold.switch {next : VcoIndex} (hold : wddr.VcosHold)
    (settled : wddr.pll.Settled current) (prepared : wddr.pll.pVcoNext = some next)
    (isSwSwitch : Bool) :
    ({ wddr with pll := wddr.pll.switchAndDisable isSwSwitch } : Wddr).VcosHold := by
  obtain ⟨-, sameVco, onNext, cleared, -⟩ := Pll.switchAndDisable_pointers prepared isSwSwitch
  constructor
  · intro vcoId onVco _
    obtain rfl := Option.some.inj (onNext.symm.trans onVco)
    refine (hold.next next prepared).of_same settled.layout (congrFun sameVco next) ?_ rfl
    exact fun addr inside => Pll.switchAndDisable_regs settled prepared isSwSwitch inside
  · intro vcoId stillPrepared
    exact absurd (cleared.symm.trans stillPrepared) (by simp)

/-- Before the first switch no PHY VCO has to hold anything. -/
theorem vcosHold_of_mcu (onMcu : wddr.pll.pVcoCurrent = some .mcu)
    (unprepared : wddr.pll.pVcoNext = none) : wddr.VcosHold where
  current vcoId onVco onPhy := by
    obtain rfl := Option.some.inj (onMcu.symm.trans onVco)
    exact absurd rfl onPhy
  next vcoId prepared := absurd (unprepared.symm.trans prepared) (by simp)

section Boot

/-- Calibrating a frequency moves its settings in the table, but only before the first
switch. -/
theorem vcosHold_calibrateFreq (sound : wddr.Sound current) (unprepared : wddr.pll.pVcoNext = none)
    (hold : wddr.VcosHold) (hw : HwStatus) (freqId : UInt8) :
    Ends (wddr.calibrateFreq hw freqId) (fun _ => True) fun after =>
      after.pll.pVcoNext = none ∧ after.VcosHold := by
  have sameNext := Pll.pVcoNext_pllCalibrateVco (hw.fllBandStatus freqId)
    (wddr.table.freq freqId.toNat).pll wddr.pll
  have same := Pll.pllCalibrateVco_same sound.settled.layout (hw.fllBandStatus freqId)
    (wddr.table.freq freqId.toNat).pll
  unfold calibrateFreq
  apply (freqAt_reads wddr.table freqId).bind
  rintro _ rfl
  cases calibrated : wddr.pll.pllCalibrateVco (hw.fllBandStatus freqId)
      (wddr.table.freq freqId.toNat).pll with
  | mk pllCfg pll =>
      rw [calibrated] at sameNext same
      simp only
      apply Ends.pure
      refine ⟨sameNext.trans unprepared, ?_⟩
      by_cases onMcu : current = .mcu
      · subst onMcu
        exact vcosHold_of_mcu (same.pVcoCurrent.trans sound.settled.pVcoCurrent)
          (sameNext.trans unprepared)
      · -- The calibration returns what it was given, and the table is written back.
        have notMcu : (current.id != VcoIndex.mcu.id) = true := by
          rw [bne_iff_ne]
          exact fun sameId => onMcu (VcoIndex.id_injective sameId)
        simp only [Pll.pllCalibrateVco, sound.settled.pVcoCurrent, sound.settled.layout.vcoId,
          notMcu, if_true, Prod.mk.injEq] at calibrated
        obtain ⟨rfl, rfl⟩ := calibrated
        apply hold.of_keeps sound.settled.layout
        exact .of_eq rfl (Function.update_eq_self _ _)

theorem vcosHold_bootPllCal (sound : wddr.Sound current) (unprepared : wddr.pll.pVcoNext = none)
    (hold : wddr.VcosHold) (hw : HwStatus) (bootCfg : WddrBootCfg) :
    Ends (wddr.bootPllCal hw bootCfg) (fun _ => True) VcosHold := by
  unfold bootPllCal
  split
  · let kept (state : Wddr) := state.Sound current ∧ state.pll.pVcoNext = none ∧ state.VcosHold
    have starts : kept wddr := ⟨sound, unprepared, hold⟩
    refine (Ends.foldlM _ starts ?_).mono fun _ ends => ends.2.2
    rintro state freqId listed ⟨soundState, unpreparedState, holdState⟩
    obtain ⟨index, inRange, rfl⟩ := List.mem_map.mp listed
    have filled : (UInt8.ofNat index).toNat < wddrPhyValidFreqNum := by
      have bound : index < wddrPhyValidFreqNum := List.mem_range.mp inRange
      have four : wddrPhyValidFreqNum = 4 := rfl
      rw [UInt8.toNat_ofNat']
      omega
    have sounds : Ends (state.calibrateFreq hw (UInt8.ofNat index)) (fun _ => True) _ :=
      calibrateFreq_ends soundState hw (soundState.table.validFreq filled)
    have turn := sounds.and
      (vcosHold_calibrateFreq soundState unpreparedState holdState hw (UInt8.ofNat index))
    exact turn.allowAny.mono fun after ends => ⟨ends.1.2, ends.2⟩
  · exact Ends.pure hold

section Switches

variable [BuildConfig]

/-- A software switch prepares the spare VCO and moves to it. -/
theorem vcosHold_wddrSwFreqSwitch (sound : wddr.Sound current) (hold : wddr.VcosHold)
    (freqId : UInt8) (msr : WddrMsr) :
    Ends (wddr.wddrSwFreqSwitch freqId msr) (fun _ => True) fun done => done.2.VcosHold := by
  unfold wddrSwFreqSwitch
  split
  · exact Ends.pure hold
  · apply (freqAt_reads _ freqId).bind
    rintro _ rfl
    have prepares := Pll.pllPrepareVcoSwitch_eq sound.settled.layout sound.settled.pVcoCurrent
      freqId (wddr.table.freq freqId.toNat).pll
    have prepared : Ends (wddr.pll.pllPrepareVcoSwitch freqId
        (wddr.table.freq freqId.toNat).pll) (fun _ => True) fun pll =>
          pll = wddr.pll.prepareVco freqId (wddr.table.freq freqId.toNat).pll current.spare := by
      rw [prepares]
      exact Ends.ok rfl
    apply prepared.bind
    rintro _ rfl
    apply Ends.bind_of_forall
    intro nextVco
    apply Ends.bind_of_forall
    intro _
    apply Ends.pure
    have switched := (hold.prepare sound.settled freqId).switch
      (sound.settled.prepare freqId (wddr.table.freq freqId.toNat).pll)
      (Pll.prepareVco_pVcoNext freqId _ current.spare) true
    refine switched.of_keeps ?_ (.of_eq rfl rfl)
    have settled := (sound.settled.prepare freqId
      (wddr.table.freq freqId.toNat).pll).switchAndDisable
        (Pll.prepareVco_pVcoNext freqId _ current.spare) true
    exact settled.layout

theorem vcosHold_alignVco (fuel : Nat) (sound : wddr.Sound current) (hold : wddr.VcosHold) :
    Ends (wddr.alignVco fuel) (fun _ => True) fun after =>
      after.pll.Layout ∧ after.VcosHold := by
  induction fuel generalizing wddr current with
  | zero => trivial
  | succ fuel inductionHypothesis =>
      unfold alignVco
      apply Ends.bind_of_forall
      intro currentVcoId
      split
      · exact Ends.pure ⟨sound.settled.layout, hold⟩
      · have switches : Ends (wddr.wddrSwFreqSwitch wddrPhyBootFreq .msr0) (fun _ => True) _ :=
          wddrSwFreqSwitch_ends sound sound.table.bootFreq .msr0
        have runs := switches.and (vcosHold_wddrSwFreqSwitch sound hold wddrPhyBootFreq .msr0)
        apply runs.allowAny.bind
        rintro ⟨ret, switched⟩ ⟨⟨-, soundSwitched⟩, holdSwitched⟩
        exact inductionHypothesis soundSwitched holdSwitched

variable {hw : HwStatus}

/-- Between the first switch and the sense amplifiers nothing touches the VCOs. -/
theorem keepsVcos_bootZqcalCal (bootCfg : WddrBootCfg) :
    Ends (wddr.bootZqcalCal hw bootCfg) (fun _ => True) (KeepsVcos wddr) := by
  unfold bootZqcalCal
  split
  · cases calibrated : wddr.wddrIocalCalibrate hw with
    | error fault => trivial
    | ok between =>
        have keeps : KeepsVcos wddr between := by
          obtain ⟨zqcal, cmn, rfl⟩ := eq_of_wddrIocalCalibrate calibrated
          exact .of_eq rfl rfl
        change Ends (between.wddrIocalUpdatePhy hw) _ _
        apply Ends.bind_of_forall
        intro freqId
        apply Ends.bind_of_forall
        intro cfg
        exact Ends.pure (keeps.trans (.of_eq rfl rfl))
  · exact Ends.pure (.refl wddr)

omit [BuildConfig] in
theorem keepsVcos_senseAmpByte (hw : HwStatus) (calibrate : Bool) (rxGb : RxGbCfg)
    (channel byte : Nat) :
    KeepsVcos wddr (wddr.senseAmpByte hw calibrate rxGb channel byte).2 := by
  cases returned : wddr.senseAmpByte hw calibrate rxGb channel byte with
  | mk ret after =>
      have untouched := wddr.untouched_senseAmpByte hw calibrate rxGb channel byte
      rw [returned] at untouched
      exact .of_eq untouched.pll (senseAmpByte_table returned).2.1

omit [BuildConfig] in
theorem keepsVcos_senseAmpChannel (hw : HwStatus) (calibrate : Bool) (cfg : WddrFreqCfg)
    (channel : Nat) :
    KeepsVcos wddr (wddr.senseAmpChannel hw calibrate cfg channel).2 := by
  have forced : KeepsVcos wddr (wddr.onPhy (wddrSetChipSelectRegIf channel 0 true)) :=
    .of_eq rfl rfl
  have bytes := propagateErrors_induction (motive := KeepsVcos wddr)
    (fun byte state keeps => keeps.trans (keepsVcos_senseAmpByte hw calibrate
      ((cfg.channel channel).dq byte).rx.gearbox channel byte))
    (List.range wddrPhyDqByteNum) forced
  unfold senseAmpChannel
  dsimp only
  split
  · rename_i returned
    rw [returned] at bytes
    exact bytes.trans (.of_eq rfl rfl)
  · rename_i returned
    rw [returned] at bytes
    exact bytes

omit [BuildConfig] in
theorem keepsVcos_wddrBootTrain (bootCfg : WddrBootCfg) :
    Ends (wddr.wddrBootTrain hw bootCfg) (fun _ => True) fun done => KeepsVcos wddr done.2 := by
  unfold wddrBootTrain
  apply Ends.bind_of_forall
  intro cfg
  have channels := propagateErrors_induction (motive := KeepsVcos wddr)
    (fun channel state keeps => keeps.trans (keepsVcos_senseAmpChannel hw
      (getBootOption bootCfg wddrBootOptionSaCal) cfg channel))
    (List.range wddrPhyChannelNum) (.refl wddr)
  split
  · rename_i returned
    rw [returned] at channels
    apply Ends.pure
    split
    · exact channels
    · exact channels
  · rename_i returned
    rw [returned] at channels
    exact Ends.pure channels

variable [Device]

theorem vcosHold_wddrBootSetup (sound : wddr.Sound current)
    (unprepared : wddr.pll.pVcoNext = none) (hold : wddr.VcosHold) (bootCfg : WddrBootCfg) :
    Ends (wddr.wddrBootSetup hw bootCfg) (fun _ => True) VcosHold := by
  have sounds : Ends (wddr.bootPllCal hw bootCfg) (fun _ => True) _ :=
    bootPllCal_ends sound hw bootCfg
  have calibrates := sounds.and (vcosHold_bootPllCal sound unprepared hold hw bootCfg)
  unfold wddrBootSetup
  apply calibrates.allowAny.bind
  rintro calibrated ⟨⟨-, soundCalibrated⟩, holdCalibrated⟩
  have overridden := calibrated.untouched_onPhy (forRange wddrPhyChannelNum fun channel phy =>
    { phy with ca := Function.update phy.ca channel (overrideCsCke (phy.ca channel)) })
  have soundOverridden := overridden.sound soundCalibrated
  have holdOverridden := holdCalibrated.of_keeps soundCalibrated.settled.layout
    (.of_eq overridden.pll rfl)
  have switches : Ends _ (fun _ => True) _ :=
    wddrSwFreqSwitch_ends soundOverridden soundOverridden.table.bootFreq .msr0
  have runs := switches.and
    (vcosHold_wddrSwFreqSwitch soundOverridden holdOverridden wddrPhyBootFreq .msr0)
  apply runs.allowAny.bind
  rintro ⟨ret, switched⟩ ⟨⟨-, soundSwitched⟩, holdSwitched⟩
  apply Ends.bind_of_forall
  intro cfg
  have readied := ((keepsVcos_onPhy switched (forRange wddrPhyChannelNum
    fun channel => channelEnable channel true (cfg.channel channel))).trans
      (keepsVcos_onPhy _ wddrClearFifoAllChannels)).trans (keepsVcos_onFsw _ fswCspSyncRegIf)
  refine (keepsVcos_wddrConfigurePhy _ wddrPhyBootFreq .msr0).bind ?_
  intro configured keepsConfigured
  have flushed := (keepsVcos_onDfich configured fun dfich =>
    (dfich.dfiBufferFillAndSendPackets flushPackets).2.dfiBufferDisable).trans
      (keepsVcos_onPhy _ wddrClearFifoAllChannels)
  refine (keepsVcos_bootZqcalCal bootCfg).bind ?_
  intro last keepsLast
  apply Ends.pure
  have keeps := (((readied.trans keepsConfigured).trans flushed).trans keepsLast).trans
    (keepsVcos_onCmn _ (cmnVrefSetCodeRegIf .msr0 (cfg.vref.code.setWidth 32)))
  exact holdSwitched.of_keeps soundSwitched.settled.layout keeps

omit [BuildConfig] [Device] in
theorem keepsVcos_fswSwitchToDfiMode (wddr : Wddr) : KeepsVcos wddr wddr.fswSwitchToDfiMode := by
  unfold fswSwitchToDfiMode
  split
  · exact .refl wddr
  · apply KeepsVcos.of_eq
    · simp only [onFsw, onDfi, onIrq]
    · simp only [onFsw, onDfi, onIrq]

theorem vcosHold_wddrBootFinish (sound : wddr.Sound current) (hold : wddr.VcosHold) :
    Ends (wddr.wddrBootFinish hw) (fun _ => True) VcosHold := by
  have primed := (keepsVcos_onDfich wddr fun dfich =>
    (dfich.dfiBufferFillAndSendPackets (primePackets hw.heapFails)).2.dfiBufferDisable).trans
      (keepsVcos_onPhy _ wddrClearFifoAllChannels)
  have untouched := (wddr.untouched_onDfich fun dfich =>
    (dfich.dfiBufferFillAndSendPackets (primePackets hw.heapFails)).2.dfiBufferDisable).trans
      (untouched_onPhy _ wddrClearFifoAllChannels)
  have holdPrimed := hold.of_keeps sound.settled.layout primed
  unfold wddrBootFinish
  refine (vcosHold_alignVco 4 (untouched.sound sound) holdPrimed).bind ?_
  rintro aligned ⟨layout, holdAligned⟩
  have handed := keepsVcos_fswSwitchToDfiMode aligned
  have booted : KeepsVcos aligned.fswSwitchToDfiMode
      { aligned.fswSwitchToDfiMode with isBooted := true } := .of_eq rfl rfl
  exact Ends.pure (holdAligned.of_keeps layout (handed.trans booted))

/-- A boot leaves the VCOs with their settings, whether it succeeds or not. -/
theorem vcosHold_wddrBoot (sound : wddr.Sound current) (unprepared : wddr.pll.pVcoNext = none)
    (hold : wddr.VcosHold) (bootCfg : WddrBootCfg) :
    Ends (wddr.wddrBoot hw bootCfg) (fun _ => True) fun done => done.2.VcosHold := by
  unfold wddrBoot
  have setup := (wddrBootSetup_ends sound hw bootCfg).and
    (vcosHold_wddrBootSetup sound unprepared hold bootCfg)
  apply setup.allowAny.bind
  rintro started ⟨⟨-, soundStarted⟩, holdStarted⟩
  have trains : Ends (started.wddrBootTrain hw bootCfg) (fun _ => True) _ :=
    wddrBootTrain_ends soundStarted hw bootCfg
  apply (trains.and (keepsVcos_wddrBootTrain bootCfg)).allowAny.bind
  rintro ⟨ret, trained⟩ ⟨untouched, keeps⟩
  have holdTrained := holdStarted.of_keeps soundStarted.settled.layout keeps
  cases ret with
  | wddrSuccess =>
      apply (vcosHold_wddrBootFinish (untouched.sound soundStarted) holdTrained).bind
      intro last holdLast
      exact Ends.pure holdLast
  | _ => exact Ends.pure holdTrained

end Switches

end Boot

end Wddr

end Device

section Firmware

theorem Fw.regs_runIsr (line : IrqLine) (data : MsgData) (xSender : Option TaskHandle)
    (late : List CtrlupdEdge) (fw : Fw) :
    (fw.runIsr line data xSender late).wddr.pll.regs = fw.wddr.pll.regs := by
  cases line with
  | pll =>
      unfold runIsr pllIrqHandler
      dsimp only
      split
      · rw [sendToBack_wddr]
        rfl
      · rfl
  | ctrlupdReq =>
      unfold runIsr handleDfiCtrlupdReqIrq
      dsimp only
      split
      · rw [notifyIsr, sendToBack_wddr]
        rfl
      · split
        · rw [notifyIsr, sendToBack_wddr]
          rfl
        · rfl
  | _ =>
      simp only [runIsr, handleInitStartIrq, handleInitCompleteIrq, handleDfiPhyupdAckIrq,
        handleDfiPhymstrAckIrq, handleOneShotIrq, notifyIsr, sendToBack_wddr]
      rfl

variable [KernelIo]

/-- The interrupt enables lie outside of the VCOs. -/
theorem Wddr.keepsVcos_setInterruptState {wddr : Wddr} (layout : wddr.pll.Layout)
    (field : RegField) (enable : Bool) :
    wddr.KeepsVcos (wddr.onPll (Pll.setInterruptState field enable)) where
  vcos := Pll.setInterruptState_same layout field enable
  regs vcoId addr inside := by
    have notEnables : addr ≠ wddr.pll.base + ddrMvpPllCoreStatusIntEnAdr := by
      rintro rfl
      rw [layout.base] at inside
      exact Pll.statusIntEn_not_mem_vcoAddrs vcoId inside
    simp only [onPll, Pll.setInterruptState, Pll.onRegs, modifyReg_apply, if_neg notEnables]
  freq := rfl

variable [BuildConfig] {fw : Fw} {current : VcoIndex}

theorem Fw.vcosHold_enterPending (sound : fw.wddr.Sound current) (hold : fw.wddr.VcosHold) :
    fw.enterPending.wddr.VcosHold := by
  have same : Wddr.SameBank .msr0 fw.wddr fw.enterPending.wddr := fw.sameBank_enterPending
  have unmasked : fw.wddr.KeepsVcos (fw.wddr.onPll (Pll.pllSetLockInterruptState true)) :=
    Wddr.keepsVcos_setInterruptState sound.settled.layout _ true
  have entered : Wddr.KeepsVcos (fw.wddr.onPll (Pll.pllSetLockInterruptState true))
      fw.enterPending.wddr := .of_eq fw.enterPending_pll same.freq
  exact hold.of_keeps sound.settled.layout (unmasked.trans entered)

omit [BuildConfig] in
theorem Wddr.BootEnds.layout {before : Wddr} {done : WddrReturn × Wddr}
    (ends : Wddr.BootEnds before current done) : done.2.pll.Layout := by
  rcases ends with ⟨-, -, sound⟩ | ⟨-, -, sound⟩
  · exact sound.settled.layout
  · exact sound.settled.layout

omit [BuildConfig] in
/-- The end of a switch goes to the prepared VCO, or stays when none is prepared. -/
theorem Fw.vcosHold_finishSwitch (sound : fw.wddr.Sound current) (hold : fw.wddr.VcosHold) :
    fw.finishSwitch.wddr.VcosHold := by
  have moved : (fw.wddr.onPll (Pll.switchAndDisable false)).VcosHold ∧
      (fw.wddr.pll.switchAndDisable false).Layout := by
    cases prepared : fw.wddr.pll.pVcoNext with
    | some next =>
        exact ⟨hold.switch sound.settled prepared false,
          (sound.settled.switchAndDisable prepared false).layout⟩
    | none =>
        have stays := Pll.switchAndDisable_of_unprepared sound.settled prepared false
        rw [stays, Wddr.onPll, stays]
        exact ⟨hold, sound.settled.layout⟩
  have masked : Wddr.KeepsVcos (fw.wddr.onPll (Pll.switchAndDisable false))
      ((fw.wddr.onPll (Pll.switchAndDisable false)).onPll
        (Pll.pllSetLockInterruptState false)) :=
    Wddr.keepsVcos_setInterruptState moved.2 _ false
  have finished : Wddr.KeepsVcos
      ((fw.wddr.onPll (Pll.switchAndDisable false)).onPll (Pll.pllSetLockInterruptState false))
      fw.finishSwitch.wddr := .of_eq rfl rfl
  exact moved.1.of_keeps moved.2 (masked.trans finished)

end Firmware

namespace Sys

section Runs

variable [Platform]

theorem FwEffect.keepsVcos {sys : Sys} {label : Label} {after : Fw}
    (effect : FwEffect sys label after) : sys.fw.wddr.KeepsVcos after.wddr where
  vcos := effect.sameControl.device.vcos
  regs _ addr _ := by
    have regs : after.wddr.pll.regs = sys.fw.wddr.pll.regs := by
      cases effect with
      | sent => rw [Fw.sendToBack_wddr]
      | calibrated ran =>
          obtain ⟨zqcal, cmn, rfl⟩ := Wddr.eq_of_wddrIocalCalibrate ran
          rfl
      | isr => exact Fw.regs_runIsr _ _ _ _ _
      | _ => rfl
    rw [regs]
  freq := effect.sameUpdate.freq

theorem vcosHold_answered {sys : Sys} {msg : FwMsg} {event : FwPhyEvent} {response : FwResponse}
    {after : Fw} {current : VcoIndex} (hold : sys.fw.wddr.VcosHold)
    (device : sys.fw.DeviceSound current) (fresh : sys.fw.BeforeBoot)
    (ran : Handled msg.data sys.fw event response after) : after.wddr.VcosHold := by
  have layout := device.sound.settled.layout
  cases ran with
  | refused => exact hold
  | @start calibrate trainDram booted notReady boots =>
      have holdBooted : booted.2.VcosHold :=
        (Wddr.vcosHold_wddrBoot device.sound (fresh.unprepared notReady) hold _).good_of_ok boots
      have aligned := fun isBooted => device.aligned isBooted notReady
      have ends := (Wddr.wddrBoot_ends device.sound aligned sys.fw.hw _).good_of_ok boots
      have keeps : booted.2.KeepsVcos (sys.fw.finishStart booted).2.wddr := by
        let driven := (booted.2.onDfi (dfiCtrlupdAckOverrideRegIf true false)).onIrq
          (Irq.disableIrq .ctrlupdReq)
        have layoutDriven : driven.pll.Layout := ends.layout
        have drives : booted.2.KeepsVcos driven := .of_eq rfl rfl
        have released : booted.2.KeepsVcos booted.2.released :=
          drives.trans (Wddr.keepsVcos_setInterruptState layoutDriven _ true)
        unfold Fw.finishStart
        split
        · exact .refl _
        · split
          · exact released
          · exact released
      exact holdBooted.of_keeps ends.layout keeps
  | dfi kind running admitted step =>
      exact hold.of_keeps layout (.of_eq step.frame.pll step.sameUpdate.freq)
  | fsw kind running admitted step =>
      cases step with
      | ignored => exact hold
      | prep inPrep prepared =>
          rcases Fw.eq_of_prepareSwitch device.sound prepared with ⟨-, rfl⟩ | ⟨-, -, rfl⟩
          · have settled := device.sound.settled
            have prepares := hold.prepare settled msg.data.freqId
            refine prepares.of_keeps (settled.prepare msg.data.freqId _).layout ?_
            apply Wddr.KeepsVcos.of_eq
            · exact sys.fw.prepared_pll _ _
            · exact congrArg WddrTable.freq (sys.fw.prepared_table _ _)
          · apply hold.of_keeps layout
            apply Wddr.KeepsVcos.of_eq
            · rfl
            · exact sys.fw.sameUpdate_unprepared.freq
      | initStart inPrep => exact Fw.vcosHold_enterPending device.sound hold
      | pllLock pending => exact Fw.vcosHold_finishSwitch device.sound hold

theorem vcosHold_of_taken {sys next : Sys} {label : Label} (reachable : system.Reachable sys)
    (hold : sys.fw.wddr.VcosHold) (taken : system.step label sys = some next) :
    next.fw.wddr.VcosHold := by
  obtain ⟨current, device⟩ := deviceSound_of_reachable reachable
  by_cases isProcess : label = .process
  · subst isProcess
    obtain ⟨msg, -, step⟩ := processStep_of_taken taken
    cases step with
    | unknown => exact hold
    | failed => exact hold
    | answered _ ran =>
        rw [answered_fw]
        exact vcosHold_answered hold device (beforeBoot_of_reachable reachable) ran
  · exact hold.of_keeps device.sound.settled.layout
      (otherStep_of_taken taken isProcess).effect.keepsVcos

/-- Along every run the PHY VCO in use and the prepared one hold the settings of their
frequencies. -/
theorem vcosHold_of_reachable {sys : Sys} (reachable : system.Reachable sys) :
    sys.fw.wddr.VcosHold := by
  apply reachable.invariant (motive := fun sys => sys.fw.wddr.VcosHold)
  · rintro sys ⟨table, reset, hw, timerStarts, valid, isReset, rfl⟩
    have onMcu := (Wddr.sound_wddrInit isReset.vcosDisabled valid).settled.pVcoCurrent
    exact Wddr.vcosHold_of_mcu onMcu (Wddr.pVcoNext_wddrInit _ _)
  · exact fun _ _ _ before _ taken hold => vcosHold_of_taken before hold taken

end Runs

/-- After a second preparation the reference PLL has both VCOs set. -/
theorem vcosHold_secondSwitch :
    let := referencePlatform
    (after secondSwitch (by decide +kernel)).fw.wddr.VcosHold :=
  @vcosHold_of_reachable referencePlatform _ (reachable_after _)

end Sys

end WavLpddr
