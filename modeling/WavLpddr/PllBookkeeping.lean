import WavLpddr.Lib.TransitionSystem
import WavLpddr.Pll

/-!
# Which VCO runs, which is prepared

Between two calls the PLL runs on one VCO and may have prepared the spare PHY
VCO for the next switch.  The firmware always issues a switch together with the
disabling of the VCO it leaves, so between calls no previous VCO is pending.
This file follows the pointers, the enable bits and the frequency ids through
every sequence of calls that the firmware makes.
-/

namespace WavLpddr

open RegisterFile

/-- The register offsets of one VCO's block. -/
def vcoOffsets : List Word := [0x0, 0x4, 0x8, 0xc, 0x10, 0x14, 0x18, 0x1c, 0x20]

/-- The register addresses of one VCO. -/
def vcoAddrs (vcoId : VcoIndex) : List Word :=
  vcoOffsets.map fun offset => wddrMemoryMapPll + vcoBaseAddr vcoId + offset

theorem vcoAddrs_disjoint : ∀ {first second : VcoIndex}, first ≠ second →
    ∀ addr ∈ vcoAddrs first, addr ∉ vcoAddrs second := by
  intro first second different
  cases first <;> cases second <;> first
    | exact absurd rfl different
    | simp [vcoAddrs, vcoOffsets, wddrMemoryMapPll, vcoBaseAddr, ddrMvpPllVco0BandAdr,
        ddrMvpPllVco1BandAdr, ddrMvpPllVco2BandAdr]

theorem coreOverrides_not_mem_vcoAddrs (vcoId : VcoIndex) :
    wddrMemoryMapPll + ddrMvpPllCoreOverridesAdr ∉ vcoAddrs vcoId := by
  cases vcoId <;> decide

theorem coreSwitch_not_mem_vcoAddrs (vcoId : VcoIndex) :
    wddrMemoryMapPll + ddrMvpPllCoreSwtichVcoAdr ∉ vcoAddrs vcoId := by
  cases vcoId <;> decide

theorem mem_vcoAddrs {offset : Word} (listed : offset ∈ vcoOffsets) (vcoId : VcoIndex) :
    wddrMemoryMapPll + vcoBaseAddr vcoId + offset ∈ vcoAddrs vcoId :=
  List.mem_map_of_mem listed

/-- The PHY VCO that is free while `current` is in use. -/
def VcoIndex.spare : VcoIndex → VcoIndex
  | mcu => phy1
  | phy1 => phy2
  | phy2 => phy1

theorem VcoIndex.spare_ne (current : VcoIndex) : current.spare ≠ current := by
  cases current <;> decide

theorem VcoIndex.spare_ne_mcu (current : VcoIndex) : current.spare ≠ mcu := by
  cases current <;> decide

namespace Pll

/-- Where `pll_init` puts the device and its VCOs. -/
structure Layout (pll : Pll) : Prop where
  base : pll.base = wddrMemoryMapPll
  vcoBase : ∀ vcoId, (pll.vco vcoId).base = wddrMemoryMapPll + vcoBaseAddr vcoId
  vcoId : ∀ vcoId, (pll.vco vcoId).vcoId = vcoId.id

/-- The address is not in the VCO's block. -/
def AvoidsVco (vco : VcoDev) (addr : Word) : Prop :=
  ∀ offset ∈ vcoOffsets, addr ≠ vco.base + offset

theorem Layout.avoidsVco {pll : Pll} (layout : pll.Layout) {vcoId : VcoIndex} {addr : Word}
    (outside : addr ∉ vcoAddrs vcoId) : AvoidsVco (pll.vco vcoId) addr := by
  intro offset listed same
  apply outside
  rw [same, layout.vcoBase]
  exact mem_vcoAddrs listed vcoId

theorem Layout.controlAddr {pll : Pll} (layout : pll.Layout) (vcoId : VcoIndex) :
    (pll.vco vcoId).base + vcoControlOffset =
      wddrMemoryMapPll + vcoBaseAddr vcoId + vcoControlOffset := by
  rw [layout.vcoBase]

theorem control_mem_vcoAddrs (vcoId : VcoIndex) :
    wddrMemoryMapPll + vcoBaseAddr vcoId + vcoControlOffset ∈ vcoAddrs vcoId :=
  mem_vcoAddrs (by decide) vcoId

theorem Layout.of_same {pll other : Pll} (layout : pll.Layout)
    (sameBase : other.base = pll.base) (sameVco : other.vco = pll.vco) : other.Layout where
  base := sameBase.trans layout.base
  vcoBase := sameVco ▸ layout.vcoBase
  vcoId := sameVco ▸ layout.vcoId

theorem Layout.find_spare {pll : Pll} (layout : pll.Layout) (current : VcoIndex) :
    (VcoIndex.phyVcos.find? fun vcoId => vcoId.id != (pll.vco current).vcoId) =
      some current.spare := by
  rw [layout.vcoId]
  cases current <;> rfl

variable [KernelIo]

/-- The enable bit of a VCO. -/
def vcoEnabled (pll : Pll) (vcoId : VcoIndex) : Prop :=
  getRegField (pll.regs (wddrMemoryMapPll + vcoBaseAddr vcoId + vcoControlOffset))
    ddrMvpPllVco0ControlVco0Ena = 1

instance (pll : Pll) (vcoId : VcoIndex) : Decidable (pll.vcoEnabled vcoId) :=
  inferInstanceAs (Decidable (_ = _))

/-- The state of the PLL between two calls. -/
structure Settled (pll : Pll) (current : VcoIndex) : Prop where
  layout : pll.Layout
  pVcoCurrent : pll.pVcoCurrent = some current
  pVcoPrev : pll.pVcoPrev = none
  pVcoNext : ∀ next, pll.pVcoNext = some next → next = current.spare
  currentEnabled : current ≠ .mcu → pll.vcoEnabled current
  nextEnabled : ∀ next, pll.pVcoNext = some next → pll.vcoEnabled next
  othersDisabled : ∀ vcoId, vcoId ≠ .mcu → pll.vcoEnabled vcoId →
    vcoId = current ∨ pll.pVcoNext = some vcoId

section VcoFrames

variable {vco : VcoDev} {addr : Word}

theorem vcoSetBandRegIf_of_avoids (avoids : AvoidsVco vco addr) (band fine : BitVec 8)
    (mux : Bool) (regs : PllRegs) :
    vcoSetBandRegIf vco band fine mux regs addr = regs addr := by
  have different := avoids vcoBandOffset (by decide)
  simp [vcoSetBandRegIf, different]

theorem vcoSetIntFracRegIf_of_avoids (avoids : AvoidsVco vco addr)
    (intComp propGain : BitVec 8) (regs : PllRegs) :
    vcoSetIntFracRegIf vco intComp propGain regs addr = regs addr := by
  have notPropGain := avoids vcoPropGainOffset (by decide)
  have notIntFrac := avoids vcoIntFracSettingsOffset (by decide)
  simp [vcoSetIntFracRegIf, modifyReg_apply, notPropGain, notIntFrac]

theorem vcoSetPostDivRegIf_of_avoids (avoids : AvoidsVco vco addr) (postDiv : BitVec 8)
    (regs : PllRegs) : vcoSetPostDivRegIf vco postDiv regs addr = regs addr := by
  have different := avoids vcoControlOffset (by decide)
  unfold vcoSetPostDivRegIf whenever
  split
  · simp [modifyReg_apply, different]
  · rfl

theorem vcoSetEnableRegIf_of_avoids (avoids : AvoidsVco vco addr) (enable : Bool)
    (regs : PllRegs) : vcoSetEnableRegIf vco enable regs addr = regs addr := by
  have different := avoids vcoControlOffset (by decide)
  simp [vcoSetEnableRegIf, modifyReg_apply, different]

theorem vcoSetFllEnableRegIf_of_avoids (avoids : AvoidsVco vco addr) (enable : Bool)
    (regs : PllRegs) : vcoSetFllEnableRegIf vco enable regs addr = regs addr := by
  have different := avoids vcoFllControl1Offset (by decide)
  simp [vcoSetFllEnableRegIf, modifyReg_apply, different]

theorem getEna_setEnable (vco : VcoDev) (enable : Bool) (regs : PllRegs) :
    getRegField (vcoSetEnableRegIf vco enable regs (vco.base + vcoControlOffset))
      ddrMvpPllVco0ControlVco0Ena = boolWord enable := by
  simp only [vcoSetEnableRegIf, modifyReg_apply, if_true]
  rw [getRegField_updateRegField_of_disjoint _ _ _ _ (by decide),
    getRegField_updateRegField _ _ _ (by cases enable <;> decide)]

theorem getEna_setPostDiv (vco : VcoDev) (postDiv : BitVec 8) (regs : PllRegs) :
    getRegField (vcoSetPostDivRegIf vco postDiv regs (vco.base + vcoControlOffset))
      ddrMvpPllVco0ControlVco0Ena =
        getRegField (regs (vco.base + vcoControlOffset)) ddrMvpPllVco0ControlVco0Ena := by
  unfold vcoSetPostDivRegIf whenever
  split
  · rw [modifyReg_apply, if_pos rfl,
      getRegField_updateRegField_of_disjoint _ _ _ _ (by decide)]
  · rfl

/-- The remaining settings of a VCO lie outside its control register. -/
theorem control_of_setIntFrac_setBand (vco : VcoDev) (intComp propGain band fine : BitVec 8)
    (mux : Bool) (regs : PllRegs) :
    vcoSetBandRegIf vco band fine mux (vcoSetIntFracRegIf vco intComp propGain regs)
      (vco.base + vcoControlOffset) = regs (vco.base + vcoControlOffset) := by
  have notBand : vco.base + vcoControlOffset ≠ vco.base + vcoBandOffset := by
    simp [vcoControlOffset, vcoBandOffset, ddrMvpPllVco0ControlAdr, ddrMvpPllVco0BandAdr]
  have notPropGain : vco.base + vcoControlOffset ≠ vco.base + vcoPropGainOffset := by
    simp [vcoControlOffset, vcoPropGainOffset, ddrMvpPllVco0ControlAdr,
      ddrMvpPllVco0BandAdr, ddrMvpPllVco0PropGainsAdr]
  have notIntFrac :
      vco.base + vcoControlOffset ≠ vco.base + vcoIntFracSettingsOffset := by
    simp [vcoControlOffset, vcoIntFracSettingsOffset, ddrMvpPllVco0ControlAdr,
      ddrMvpPllVco0BandAdr, ddrMvpPllVco0IntFracSettingsAdr]
  simp [vcoSetBandRegIf, vcoSetIntFracRegIf, modifyReg_apply, notBand, notPropGain,
    notIntFrac]

end VcoFrames

/-- What decides whether a PLL is settled agrees between the two. -/
structure SameVcos (pll other : Pll) : Prop where
  base : other.base = pll.base
  vco : other.vco = pll.vco
  pVcoCurrent : other.pVcoCurrent = pll.pVcoCurrent
  pVcoNext : other.pVcoNext = pll.pVcoNext
  pVcoPrev : other.pVcoPrev = pll.pVcoPrev
  enabled : ∀ vcoId, other.vcoEnabled vcoId ↔ pll.vcoEnabled vcoId

theorem SameVcos.refl (pll : Pll) : SameVcos pll pll :=
  ⟨rfl, rfl, rfl, rfl, rfl, fun _ => Iff.rfl⟩

theorem Settled.of_same {pll other : Pll} {current : VcoIndex}
    (settled : pll.Settled current) (same : SameVcos pll other) : other.Settled current where
  layout := settled.layout.of_same same.base same.vco
  pVcoCurrent := same.pVcoCurrent.trans settled.pVcoCurrent
  pVcoPrev := same.pVcoPrev.trans settled.pVcoPrev
  pVcoNext next prepared := settled.pVcoNext next (same.pVcoNext ▸ prepared)
  currentEnabled onPhy := (same.enabled _).mpr (settled.currentEnabled onPhy)
  nextEnabled next prepared :=
    (same.enabled _).mpr (settled.nextEnabled next (same.pVcoNext ▸ prepared))
  othersDisabled vcoId onPhy enabled := by
    rw [same.pVcoNext]
    exact settled.othersDisabled vcoId onPhy ((same.enabled _).mp enabled)

/-- Changing registers outside the VCO blocks keeps everything about the VCOs. -/
theorem sameVcos_onRegs (pll : Pll) (update : PllRegs → PllRegs)
    (frame : ∀ vcoId, ∀ addr ∈ vcoAddrs vcoId, update pll.regs addr = pll.regs addr) :
    SameVcos pll (pll.onRegs update) where
  base := rfl
  vco := rfl
  pVcoCurrent := rfl
  pVcoNext := rfl
  pVcoPrev := rfl
  enabled vcoId := by
    have unchanged := frame vcoId _ (control_mem_vcoAddrs vcoId)
    simp only [vcoEnabled, onRegs, unchanged]

section Prepare

variable {pll : Pll} {current : VcoIndex}

theorem pllPrepareVcoSwitch_eq (layout : pll.Layout)
    (onCurrent : pll.pVcoCurrent = some current) (freqId : UInt8) (cfg : PllFreqCfg) :
    pll.pllPrepareVcoSwitch freqId cfg = .ok (pll.prepareVco freqId cfg current.spare) := by
  rw [pllPrepareVcoSwitch, onCurrent]
  simp only [layout.find_spare]

variable (freqId : UInt8) (cfg : PllFreqCfg) (vcoId : VcoIndex)

theorem prepareVco_regs_of_not_mem (layout : pll.Layout) {addr : Word}
    (outside : addr ∉ vcoAddrs vcoId)
    (notSelection : addr ≠ wddrMemoryMapPll + ddrMvpPllCoreOverridesAdr) :
    (pll.prepareVco freqId cfg vcoId).regs addr = pll.regs addr := by
  have avoids := layout.avoidsVco outside
  simp only [prepareVco, pllSetVcoSelRegIf, onRegs]
  rw [modifyReg_apply, if_neg (layout.base ▸ notSelection),
    vcoSetBandRegIf_of_avoids avoids, vcoSetIntFracRegIf_of_avoids avoids,
    vcoSetPostDivRegIf_of_avoids avoids, vcoSetEnableRegIf_of_avoids avoids]

theorem prepareVco_vcoEnabled_self (layout : pll.Layout) :
    (pll.prepareVco freqId cfg vcoId).vcoEnabled vcoId := by
  have notSelection : (pll.vco vcoId).base + vcoControlOffset ≠
      pll.base + ddrMvpPllCoreOverridesAdr := by
    rw [layout.controlAddr, layout.base]
    intro same
    exact coreOverrides_not_mem_vcoAddrs vcoId (same ▸ control_mem_vcoAddrs vcoId)
  simp only [vcoEnabled, prepareVco, pllSetVcoSelRegIf, onRegs]
  rw [← layout.controlAddr, modifyReg_apply, if_neg notSelection,
    control_of_setIntFrac_setBand, getEna_setPostDiv, getEna_setEnable]
  rfl

theorem prepareVco_vcoEnabled_of_ne (layout : pll.Layout) {other : VcoIndex}
    (different : other ≠ vcoId) :
    (pll.prepareVco freqId cfg vcoId).vcoEnabled other ↔ pll.vcoEnabled other := by
  unfold vcoEnabled
  rw [prepareVco_regs_of_not_mem freqId cfg vcoId layout]
  · exact vcoAddrs_disjoint different _ (control_mem_vcoAddrs other)
  · intro same
    exact coreOverrides_not_mem_vcoAddrs other (same ▸ control_mem_vcoAddrs other)

theorem prepareVco_layout (layout : pll.Layout) :
    (pll.prepareVco freqId cfg vcoId).Layout where
  base := by simpa [prepareVco, pllSetVcoSelRegIf] using layout.base
  vcoBase other := by
    by_cases same : other = vcoId
    · subst same
      simpa [prepareVco, pllSetVcoSelRegIf, onRegs] using layout.vcoBase other
    · simpa [prepareVco, pllSetVcoSelRegIf, onRegs, same] using layout.vcoBase other
  vcoId other := by
    by_cases same : other = vcoId
    · subst same
      simpa [prepareVco, pllSetVcoSelRegIf, onRegs] using layout.vcoId other
    · simpa [prepareVco, pllSetVcoSelRegIf, onRegs, same] using layout.vcoId other

@[simp]
theorem prepareVco_pVcoCurrent :
    (pll.prepareVco freqId cfg vcoId).pVcoCurrent = pll.pVcoCurrent := by
  simp [prepareVco, pllSetVcoSelRegIf]

@[simp]
theorem prepareVco_pVcoNext :
    (pll.prepareVco freqId cfg vcoId).pVcoNext = some vcoId := by
  simp [prepareVco, pllSetVcoSelRegIf]

@[simp]
theorem prepareVco_pVcoPrev :
    (pll.prepareVco freqId cfg vcoId).pVcoPrev = pll.pVcoPrev := by
  simp [prepareVco, pllSetVcoSelRegIf]

@[simp]
theorem prepareVco_freqId_self :
    ((pll.prepareVco freqId cfg vcoId).vco vcoId).freqId = freqId := by
  simp [prepareVco]

theorem prepareVco_vco_of_ne {other : VcoIndex} (different : other ≠ vcoId) :
    (pll.prepareVco freqId cfg vcoId).vco other = pll.vco other := by
  simp [prepareVco, pllSetVcoSelRegIf, onRegs, different]

/-- Preparing the spare VCO, over an earlier preparation or not. -/
theorem Settled.prepare (settled : pll.Settled current) :
    (pll.prepareVco freqId cfg current.spare).Settled current where
  layout := prepareVco_layout freqId cfg _ settled.layout
  pVcoCurrent := (prepareVco_pVcoCurrent freqId cfg _).trans settled.pVcoCurrent
  pVcoPrev := (prepareVco_pVcoPrev freqId cfg _).trans settled.pVcoPrev
  pVcoNext next prepared := by
    rw [prepareVco_pVcoNext] at prepared
    exact (Option.some.inj prepared).symm
  currentEnabled onPhy :=
    (prepareVco_vcoEnabled_of_ne freqId cfg _ settled.layout current.spare_ne.symm).mpr
      (settled.currentEnabled onPhy)
  nextEnabled next prepared := by
    rw [prepareVco_pVcoNext] at prepared
    have isSpare : current.spare = next := Option.some.inj prepared
    subst isSpare
    exact prepareVco_vcoEnabled_self freqId cfg _ settled.layout
  othersDisabled other onPhy enabled := by
    by_cases isSpare : other = current.spare
    · right
      rw [isSpare, prepareVco_pVcoNext]
    · have enabledBefore :=
        (prepareVco_vcoEnabled_of_ne freqId cfg _ settled.layout isSpare).mp enabled
      rcases settled.othersDisabled other onPhy enabledBefore with isCurrent | wasNext
      · exact Or.inl isCurrent
      · exact absurd (settled.pVcoNext other wasNext) isSpare

end Prepare

section SwitchAndDisable

variable {pll : Pll} {current next : VcoIndex}

/-- A switch and the disabling of the VCO it leaves, as they are always issued. -/
def switchAndDisable (isSwSwitch : Bool) (pll : Pll) : Pll :=
  (pll.pllSwitchVco isSwSwitch).2.pllDisableVco

/-- Disabling touches only the block of the VCO just left. -/
theorem pllDisableVco_regs_of_not_mem (layout : pll.Layout) {prev : VcoIndex}
    (left : pll.pVcoPrev = some prev) {addr : Word} (outside : addr ∉ vcoAddrs prev) :
    pll.pllDisableVco.regs addr = pll.regs addr := by
  have avoids := layout.avoidsVco outside
  simp only [pllDisableVco, left, onRegs]
  split
  · exact vcoSetEnableRegIf_of_avoids avoids _ _
  · exact (vcoSetBandRegIf_of_avoids avoids _ _ _ _).trans
      (vcoSetFllEnableRegIf_of_avoids avoids _ _)

theorem pllDisableVco_not_vcoEnabled (layout : pll.Layout) {prev : VcoIndex}
    (left : pll.pVcoPrev = some prev) (onPhy : prev ≠ .mcu) :
    ¬ pll.pllDisableVco.vcoEnabled prev := by
  have notMcu : (pll.vco prev).vcoId ≠ VcoIndex.mcu.id := by
    rw [layout.vcoId]
    exact fun same => onPhy (VcoIndex.id_injective same)
  simp only [vcoEnabled, pllDisableVco, left, if_pos notMcu, onRegs]
  rw [← layout.controlAddr, getEna_setEnable]
  decide

theorem pllDisableVco_pointers (pll : Pll) :
    pll.pllDisableVco.base = pll.base ∧ pll.pllDisableVco.vco = pll.vco ∧
      pll.pllDisableVco.pVcoCurrent = pll.pVcoCurrent ∧
      pll.pllDisableVco.pVcoNext = pll.pVcoNext ∧ pll.pllDisableVco.pVcoPrev = none := by
  unfold pllDisableVco
  cases left : pll.pVcoPrev with
  | none => exact ⟨rfl, rfl, rfl, rfl, left⟩
  | some prev =>
      dsimp only
      split
      · exact ⟨rfl, rfl, rfl, rfl, rfl⟩
      · exact ⟨rfl, rfl, rfl, rfl, rfl⟩

theorem switchAndDisable_of_unprepared (settled : pll.Settled current)
    (unprepared : pll.pVcoNext = none) (isSwSwitch : Bool) :
    pll.switchAndDisable isSwSwitch = pll := by
  simp only [switchAndDisable, pllSwitchVco, unprepared, pllDisableVco, settled.pVcoPrev]

theorem pllSwitchVco_regs_of_ne (prepared : pll.pVcoNext = some next) (isSwSwitch : Bool)
    {addr : Word} (notSwitch : addr ≠ pll.base + ddrMvpPllCoreSwtichVcoAdr) :
    (pll.pllSwitchVco isSwSwitch).2.regs addr = pll.regs addr := by
  cases isSwSwitch with
  | false => simp [pllSwitchVco, prepared]
  | true => simp [pllSwitchVco, prepared, pllSwitchVcoRegIf, onRegs, notSwitch]

theorem pllSwitchVco_pointers (prepared : pll.pVcoNext = some next) (isSwSwitch : Bool) :
    (pll.pllSwitchVco isSwSwitch).2.base = pll.base ∧
      (pll.pllSwitchVco isSwSwitch).2.vco = pll.vco ∧
      (pll.pllSwitchVco isSwSwitch).2.pVcoCurrent = some next ∧
      (pll.pllSwitchVco isSwSwitch).2.pVcoNext = none ∧
      (pll.pllSwitchVco isSwSwitch).2.pVcoPrev = pll.pVcoCurrent := by
  cases isSwSwitch <;> simp [pllSwitchVco, prepared, pllSwitchVcoRegIf, onRegs]

/-- The switch and the disabling together clear the enable bit of the VCO left
and keep all others. -/
theorem switchAndDisable_vcoEnabled_of_ne (settled : pll.Settled current)
    (prepared : pll.pVcoNext = some next) (isSwSwitch : Bool) {other : VcoIndex}
    (different : other ≠ current) :
    (pll.switchAndDisable isSwSwitch).vcoEnabled other ↔ pll.vcoEnabled other := by
  obtain ⟨sameBase, sameVco, -, -, left⟩ := pllSwitchVco_pointers prepared isSwSwitch
  have layout := settled.layout.of_same sameBase sameVco
  have outside := vcoAddrs_disjoint different _ (control_mem_vcoAddrs other)
  have notSwitch : wddrMemoryMapPll + vcoBaseAddr other + vcoControlOffset ≠
      pll.base + ddrMvpPllCoreSwtichVcoAdr := by
    intro same
    rw [settled.layout.base] at same
    exact coreSwitch_not_mem_vcoAddrs other (same ▸ control_mem_vcoAddrs other)
  unfold vcoEnabled switchAndDisable
  rw [pllDisableVco_regs_of_not_mem layout (left.trans settled.pVcoCurrent) outside,
    pllSwitchVco_regs_of_ne prepared isSwSwitch notSwitch]

theorem switchAndDisable_not_vcoEnabled (settled : pll.Settled current)
    (prepared : pll.pVcoNext = some next) (isSwSwitch : Bool) (onPhy : current ≠ .mcu) :
    ¬ (pll.switchAndDisable isSwSwitch).vcoEnabled current := by
  obtain ⟨sameBase, sameVco, -, -, left⟩ := pllSwitchVco_pointers prepared isSwSwitch
  exact pllDisableVco_not_vcoEnabled (settled.layout.of_same sameBase sameVco)
    (left.trans settled.pVcoCurrent) onPhy

theorem switchAndDisable_pointers (prepared : pll.pVcoNext = some next) (isSwSwitch : Bool) :
    (pll.switchAndDisable isSwSwitch).base = pll.base ∧
      (pll.switchAndDisable isSwSwitch).vco = pll.vco ∧
      (pll.switchAndDisable isSwSwitch).pVcoCurrent = some next ∧
      (pll.switchAndDisable isSwSwitch).pVcoNext = none ∧
      (pll.switchAndDisable isSwSwitch).pVcoPrev = none := by
  obtain ⟨sameBase, sameVco, onNext, cleared, -⟩ := pllSwitchVco_pointers prepared isSwSwitch
  obtain ⟨sameBase', sameVco', same, sameNext, noPrev⟩ :=
    pllDisableVco_pointers (pll.pllSwitchVco isSwSwitch).2
  exact ⟨sameBase'.trans sameBase, sameVco'.trans sameVco, same.trans onNext,
    sameNext.trans cleared, noPrev⟩

/-- A prepared switch makes the prepared VCO the current and only one. -/
theorem Settled.switchAndDisable (settled : pll.Settled current)
    (prepared : pll.pVcoNext = some next) (isSwSwitch : Bool) :
    (pll.switchAndDisable isSwSwitch).Settled next := by
  obtain ⟨sameBase, sameVco, onNext, cleared, noPrev⟩ :=
    switchAndDisable_pointers prepared isSwSwitch
  have isSpare := settled.pVcoNext next prepared
  have different : next ≠ current := isSpare ▸ current.spare_ne
  constructor
  · exact settled.layout.of_same sameBase sameVco
  · exact onNext
  · exact noPrev
  · intro other preparedAfter
    rw [cleared] at preparedAfter
    exact absurd preparedAfter (by simp)
  · intro _
    exact (switchAndDisable_vcoEnabled_of_ne settled prepared isSwSwitch different).mpr
      (settled.nextEnabled next prepared)
  · intro other preparedAfter
    rw [cleared] at preparedAfter
    exact absurd preparedAfter (by simp)
  · intro other onPhy enabled
    left
    by_cases wasCurrent : other = current
    · subst wasCurrent
      exact absurd enabled
        (switchAndDisable_not_vcoEnabled settled prepared isSwSwitch onPhy)
    · have enabledBefore :=
        (switchAndDisable_vcoEnabled_of_ne settled prepared isSwSwitch wasCurrent).mp enabled
      rcases settled.othersDisabled other onPhy enabledBefore with isCurrent | wasNext
      · exact absurd isCurrent wasCurrent
      · exact Option.some.inj (wasNext.symm.trans prepared)

end SwitchAndDisable

section Calibrate

omit [KernelIo] in
theorem control_ne_settings (target written : VcoIndex) :
    ∀ offset ∈ [vcoFllControl1Offset, vcoFllControl2Offset, vcoBandOffset],
      wddrMemoryMapPll + vcoBaseAddr target + vcoControlOffset ≠
        wddrMemoryMapPll + vcoBaseAddr written + offset := by
  intro offset listed
  simp only [List.mem_cons, List.not_mem_nil, or_false] at listed
  rcases listed with rfl | rfl | rfl <;> cases target <;> cases written <;> decide

variable {pll : Pll} (layout : pll.Layout)
include layout

theorem fllControl1_control (written target : VcoIndex) (band fine threshold : BitVec 8)
    (regs : PllRegs) :
    vcoSetFllControl1RegIf (pll.vco written) band fine threshold regs
      (wddrMemoryMapPll + vcoBaseAddr target + vcoControlOffset) =
        regs (wddrMemoryMapPll + vcoBaseAddr target + vcoControlOffset) := by
  have different := control_ne_settings target written vcoFllControl1Offset (by simp)
  rw [vcoSetFllControl1RegIf, modifyReg_apply, layout.vcoBase, if_neg different]

theorem fllControl2_control (written target : VcoIndex) (refclk range : BitVec 8)
    (count : BitVec 16) (regs : PllRegs) :
    vcoSetFllControl2RegIf (pll.vco written) refclk range count regs
      (wddrMemoryMapPll + vcoBaseAddr target + vcoControlOffset) =
        regs (wddrMemoryMapPll + vcoBaseAddr target + vcoControlOffset) := by
  have different := control_ne_settings target written vcoFllControl2Offset (by simp)
  rw [vcoSetFllControl2RegIf, modifyReg_apply, layout.vcoBase, if_neg different]

theorem fllEnable_control (written target : VcoIndex) (enable : Bool) (regs : PllRegs) :
    vcoSetFllEnableRegIf (pll.vco written) enable regs
      (wddrMemoryMapPll + vcoBaseAddr target + vcoControlOffset) =
        regs (wddrMemoryMapPll + vcoBaseAddr target + vcoControlOffset) := by
  have different := control_ne_settings target written vcoFllControl1Offset (by simp)
  rw [vcoSetFllEnableRegIf, modifyReg_apply, layout.vcoBase, if_neg different]

theorem setBand_control (written target : VcoIndex) (band fine : BitVec 8) (mux : Bool)
    (regs : PllRegs) :
    vcoSetBandRegIf (pll.vco written) band fine mux regs
      (wddrMemoryMapPll + vcoBaseAddr target + vcoControlOffset) =
        regs (wddrMemoryMapPll + vcoBaseAddr target + vcoControlOffset) := by
  have different := control_ne_settings target written vcoBandOffset (by simp)
  rw [vcoSetBandRegIf, layout.vcoBase, write_apply, if_neg different]

omit layout in
theorem calibrateVco_same (state : PllFreqCfg × Pll) (layout : state.2.Layout) (status : Word)
    (vcoId : VcoIndex) : SameVcos state.2 (calibrateVco status vcoId state).2 where
  base := by simp [calibrateVco]
  vco := by simp [calibrateVco]
  pVcoCurrent := by simp [calibrateVco]
  pVcoNext := by simp [calibrateVco]
  pVcoPrev := by simp [calibrateVco]
  enabled target := by
    simp only [vcoEnabled, calibrateVco, onRegs]
    rw [fllEnable_control layout, fllEnable_control layout, fllControl1_control layout,
      fllControl2_control layout]

omit [KernelIo] layout in
theorem SameVcos.trans [KernelIo] {first second third : Pll} (earlier : SameVcos first second)
    (later : SameVcos second third) : SameVcos first third where
  base := later.base.trans earlier.base
  vco := later.vco.trans earlier.vco
  pVcoCurrent := later.pVcoCurrent.trans earlier.pVcoCurrent
  pVcoNext := later.pVcoNext.trans earlier.pVcoNext
  pVcoPrev := later.pVcoPrev.trans earlier.pVcoPrev
  enabled target := (later.enabled target).trans (earlier.enabled target)

theorem pllCalibrateVco_same (status : VcoIndex → Word) (cfg : PllFreqCfg) :
    SameVcos pll (pll.pllCalibrateVco status cfg).2 := by
  have first := calibrateVco_same (cfg, pll) layout (status .phy1) .phy1
  have layoutAfter := layout.of_same first.base first.vco
  have second := calibrateVco_same _ layoutAfter (status .phy2) .phy2
  have either : ∀ onPhyVco : Bool, SameVcos pll (if onPhyVco then (cfg, pll) else
      VcoIndex.phyVcos.foldl (fun state vcoId => calibrateVco (status vcoId) vcoId state)
        (cfg, pll)).2 := by
    intro onPhyVco
    cases onPhyVco with
    | true => exact .refl _
    | false => exact first.trans second
  exact either _

end Calibrate

section Boot

omit [KernelIo] in
theorem statusIntEn_not_mem_vcoAddrs (vcoId : VcoIndex) :
    wddrMemoryMapPll + ddrMvpPllCoreStatusIntEnAdr ∉ vcoAddrs vcoId := by
  cases vcoId <;> decide

theorem setInterruptState_same {pll : Pll} (layout : pll.Layout) (field : RegField)
    (enable : Bool) : SameVcos pll (pll.setInterruptState field enable) := by
  apply sameVcos_onRegs
  intro vcoId addr inside
  rw [modifyReg_apply, if_neg]
  rintro rfl
  rw [layout.base] at inside
  exact statusIntEn_not_mem_vcoAddrs vcoId inside

theorem pllInit_layout (pll : Pll) : (pll.pllInit wddrMemoryMapPll).Layout :=
  ⟨rfl, fun _ => rfl, fun _ => rfl⟩

theorem pllInit_vcoEnabled (pll : Pll) (vcoId : VcoIndex) :
    (pll.pllInit wddrMemoryMapPll).vcoEnabled vcoId ↔ pll.vcoEnabled vcoId := by
  have different : wddrMemoryMapPll + vcoBaseAddr vcoId + vcoControlOffset ≠
      wddrMemoryMapPll + ddrMvpPllCoreStatusIntEnAdr := by
    intro same
    exact statusIntEn_not_mem_vcoAddrs vcoId (same ▸ control_mem_vcoAddrs vcoId)
  simp only [vcoEnabled, pllInit, clearStatusInt, onRegs, modifyReg_apply, if_neg different]

theorem pllBoot_vcoEnabled {pll : Pll} (layout : pll.Layout) (vcoId : VcoIndex) :
    pll.pllBoot.vcoEnabled vcoId ↔ pll.vcoEnabled vcoId := by
  have different : wddrMemoryMapPll + vcoBaseAddr vcoId + vcoControlOffset ≠
      wddrMemoryMapPll + ddrMvpPllCoreOverridesAdr := by
    intro same
    exact coreOverrides_not_mem_vcoAddrs vcoId (same ▸ control_mem_vcoAddrs vcoId)
  unfold pllBoot
  split
  · exact Iff.rfl
  · simp only [vcoEnabled, pllSetVcoSelRegIf, pllResetRegIf, onRegs, modifyReg_apply,
      layout.base, if_neg different]
    rw [fllControl1_control layout, fllControl2_control layout, setBand_control layout]

theorem settled_pllInit_pllBoot {pll : Pll}
    (disabled : ∀ vcoId, vcoId ≠ .mcu → ¬ pll.vcoEnabled vcoId) :
    (pll.pllInit wddrMemoryMapPll).pllBoot.Settled .mcu where
  layout := ⟨rfl, fun _ => rfl, fun _ => rfl⟩
  pVcoCurrent := rfl
  pVcoPrev := rfl
  pVcoNext next prepared := by cases prepared
  currentEnabled onPhy := absurd rfl onPhy
  nextEnabled next prepared := by cases prepared
  othersDisabled vcoId onPhy enabled := by
    rw [pllBoot_vcoEnabled (pllInit_layout pll), pllInit_vcoEnabled] at enabled
    exact absurd enabled (disabled vcoId onPhy)

end Boot

end Pll

end WavLpddr
