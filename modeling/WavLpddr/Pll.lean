import WavLpddr.Registers
import WavLpddr.Table

/-!
# The PLL and its VCOs

One VCO clocks the MCU and two clock the PHY.  The device keeps pointers to the
VCO in use, to the one prepared for the next switch and to the one just left.
The registers are addressed as the driver does it, by a VCO's base address and
an offset.
-/

namespace WavLpddr

open RegisterFile

/-- `vco_index_t` -/
inductive VcoIndex
  | mcu
  | phy1
  | phy2
deriving DecidableEq, Repr

namespace VcoIndex

def id : VcoIndex → UInt8
  | mcu => 0
  | phy1 => 1
  | phy2 => 2

/-- The loop range from `VCO_INDEX_PHY_START` to `VCO_INDEX_PHY_END`. -/
def phyVcos : List VcoIndex := [phy1, phy2]

/-- The entry of `pll_freq_cfg_t.vco_cfg` for a PHY VCO. -/
def cfgIndex : VcoIndex → Nat
  | mcu => 0
  | phy1 => 0
  | phy2 => 1

theorem id_injective {first second : VcoIndex} (same : first.id = second.id) :
    first = second := by
  cases first <;> cases second <;> first | rfl | exact absurd same (by decide)

end VcoIndex

/-- `vco_dev_t` -/
structure VcoDev where
  base : Word
  vcoId : UInt8
  freqId : UInt8

/-- The PLL's registers by address. -/
abbrev PllRegs := Registers Word 32

/-- `pll_dev_t` together with the block it drives.  A pointer to one of the
`vco` entries is kept as the entry's index. -/
structure Pll where
  base : Word
  vco : VcoIndex → VcoDev
  pVcoCurrent : Option VcoIndex
  pVcoNext : Option VcoIndex
  pVcoPrev : Option VcoIndex
  regs : PllRegs
  /-- `CORE_STATUS_INT`, whose bits are cleared by writing ones. -/
  statusInt : Word

/-- `WDDR_MEMORY_MAP_PLL` -/
def wddrMemoryMapPll : Word := 0x98000

def undefinedFreqId : UInt8 := 255

/-- `VCO0_BASE_ADDR`, `VCO1_BASE_ADDR` and `VCO2_BASE_ADDR` -/
def vcoBaseAddr : VcoIndex → Word
  | .mcu => ddrMvpPllVco0BandAdr
  | .phy1 => ddrMvpPllVco1BandAdr
  | .phy2 => ddrMvpPllVco2BandAdr

def vcoBandOffset : Word := ddrMvpPllVco0BandAdr - ddrMvpPllVco0BandAdr

def vcoPropGainOffset : Word := ddrMvpPllVco0PropGainsAdr - ddrMvpPllVco0BandAdr

def vcoIntFracSettingsOffset : Word :=
  ddrMvpPllVco0IntFracSettingsAdr - ddrMvpPllVco0BandAdr

def vcoControlOffset : Word := ddrMvpPllVco0ControlAdr - ddrMvpPllVco0BandAdr

def vcoFllControl1Offset : Word := ddrMvpPllVco0FllControl1Adr - ddrMvpPllVco0BandAdr

def vcoFllControl2Offset : Word := ddrMvpPllVco0FllControl2Adr - ddrMvpPllVco0BandAdr

/-- A C byte passed to a field. -/
def byteWord (value : BitVec 8) : Word := value.setWidth 32

section VcoDriver

variable [KernelIo]

def vcoSetBandRegIf (vco : VcoDev) (band fine : BitVec 8) (mux : Bool)
    (regs : PllRegs) : PllRegs :=
  let regVal := updateRegField 0 ddrMvpPllVco0BandVco0BandMux (boolWord mux)
  let regVal := updateRegField regVal ddrMvpPllVco0BandVco0Band (byteWord band)
  let regVal := updateRegField regVal ddrMvpPllVco0BandVco0FineMux (boolWord mux)
  let regVal := updateRegField regVal ddrMvpPllVco0BandVco0Fine (byteWord fine)
  regs |> write (vco.base + vcoBandOffset) regVal

def vcoSetIntFracRegIf (vco : VcoDev) (intComp propGain : BitVec 8)
    (regs : PllRegs) : PllRegs :=
  regs
  |> write (vco.base + vcoPropGainOffset)
      (updateRegField 0 ddrMvpPllVco0PropGainsVco0PropGain (byteWord propGain))
  |> modifyReg (vco.base + vcoIntFracSettingsOffset) (fun regVal =>
      updateRegField regVal ddrMvpPllVco0IntFracSettingsVco0Int (byteWord intComp))

/-- The MCU VCO has no post divider. -/
def vcoSetPostDivRegIf (vco : VcoDev) (postDiv : BitVec 8) (regs : PllRegs) : PllRegs :=
  regs |> whenever (vco.vcoId ≠ VcoIndex.mcu.id)
    (modifyReg (vco.base + vcoControlOffset) fun regVal =>
      updateRegField regVal ddrMvpPllVco1ControlVco1PostDiv (byteWord postDiv))

def vcoSetFllControl1RegIf (vco : VcoDev)
    (bandStart fineStart lockCountThreshold : BitVec 8) (regs : PllRegs) : PllRegs :=
  regs |> modifyReg (vco.base + vcoFllControl1Offset) (fun regVal =>
    let regVal := updateRegField regVal ddrMvpPllVco0FllControl1Vco0BandStart
      (byteWord bandStart)
    let regVal := updateRegField regVal ddrMvpPllVco0FllControl1Vco0FineStart
      (byteWord fineStart)
    updateRegField regVal ddrMvpPllVco0FllControl1Vco0LockedCountThreshold
      (byteWord lockCountThreshold))

def vcoSetFllControl2RegIf (vco : VcoDev) (fllRefclkCount fllRange : BitVec 8)
    (fllVcoCountTarget : BitVec 16) (regs : PllRegs) : PllRegs :=
  regs |> modifyReg (vco.base + vcoFllControl2Offset) (fun regVal =>
    let regVal := updateRegField regVal ddrMvpPllVco0FllControl2Vco0FllRefclkCount
      (byteWord fllRefclkCount)
    let regVal := updateRegField regVal ddrMvpPllVco0FllControl2Vco0FllVcoCountTarget
      (fllVcoCountTarget.setWidth 32)
    updateRegField regVal ddrMvpPllVco0FllControl2Vco0FllRange (byteWord fllRange))

def vcoSetFllEnableRegIf (vco : VcoDev) (enable : Bool) (regs : PllRegs) : PllRegs :=
  regs |> modifyReg (vco.base + vcoFllControl1Offset) (fun regVal =>
    updateRegField regVal ddrMvpPllVco0FllControl1Vco0FllEnable (boolWord enable))

def vcoSetEnableRegIf (vco : VcoDev) (enable : Bool) (regs : PllRegs) : PllRegs :=
  regs |> modifyReg (vco.base + vcoControlOffset) (fun regVal =>
    let regVal := updateRegField regVal ddrMvpPllVco0ControlVco0Ena (boolWord enable)
    updateRegField regVal ddrMvpPllVco0ControlVco0EnaMux 1)

end VcoDriver

namespace Pll

/-- Run a driver function on the PLL's registers. -/
def onRegs (update : PllRegs → PllRegs) (pll : Pll) : Pll :=
  { pll with regs := update pll.regs }

section OnRegs

variable (update : PllRegs → PllRegs) (pll : Pll)

@[simp]
theorem onRegs_base : (pll.onRegs update).base = pll.base := rfl

@[simp]
theorem onRegs_vco : (pll.onRegs update).vco = pll.vco := rfl

@[simp]
theorem onRegs_pVcoCurrent : (pll.onRegs update).pVcoCurrent = pll.pVcoCurrent := rfl

@[simp]
theorem onRegs_pVcoNext : (pll.onRegs update).pVcoNext = pll.pVcoNext := rfl

@[simp]
theorem onRegs_pVcoPrev : (pll.onRegs update).pVcoPrev = pll.pVcoPrev := rfl

@[simp]
theorem onRegs_regs : (pll.onRegs update).regs = update pll.regs := rfl

end OnRegs

variable [KernelIo]

def pllResetRegIf (pll : Pll) : Pll :=
  pll.onRegs (modifyReg (pll.base + ddrMvpPllCoreOverridesAdr) fun regVal =>
    let regVal := updateRegField regVal ddrMvpPllCoreOverridesCoreResetMux 1
    updateRegField regVal ddrMvpPllCoreOverridesCoreReset 0)

def pllSetVcoSelRegIf (vcoId : VcoIndex) (pll : Pll) : Pll :=
  pll.onRegs (modifyReg (pll.base + ddrMvpPllCoreOverridesAdr) fun regVal =>
    let regVal := updateRegField regVal ddrMvpPllCoreOverridesCoreVcoSelMux 1
    updateRegField regVal ddrMvpPllCoreOverridesCoreVcoSel (vcoId.id.toBitVec.setWidth 32))

def pllSwitchVcoRegIf (pll : Pll) : Pll :=
  pll.onRegs (write (pll.base + ddrMvpPllCoreSwtichVcoAdr)
    (updateRegField 0 ddrMvpPllCoreSwtichVcoCoreSwitchVco 1))

/-- Enable or disable one PLL interrupt source. -/
def setInterruptState (field : RegField) (enable : Bool) (pll : Pll) : Pll :=
  pll.onRegs (modifyReg (pll.base + ddrMvpPllCoreStatusIntEnAdr) fun regVal =>
    updateRegField regVal field (boolWord enable))

def pllSetLossLockInterruptState : Bool → Pll → Pll :=
  setInterruptState ddrMvpPllCoreStatusIntEnLossOfLockIntEn

def pllSetLockInterruptState : Bool → Pll → Pll :=
  setInterruptState ddrMvpPllCoreStatusIntEnCoreLockedIntEn

/-- A read of the latched causes that is written back to clear them. -/
def clearStatusInt (pll : Pll) : Pll :=
  { pll with statusInt := pll.statusInt &&& ~~~pll.statusInt }

/-- `pll_init`.  The readback loop ends at once, since the register holds what
was written; registering the interrupt belongs to the caller's model. -/
def pllInit (base : Word) (pll : Pll) : Pll :=
  let pll : Pll := { pll with
    vco := fun index =>
      { base := base + vcoBaseAddr index
        vcoId := index.id
        freqId := undefinedFreqId }
    pVcoCurrent := none
    pVcoNext := none
    pVcoPrev := none
    base := base }
  let setAll (enable : Bool) (pll : Pll) : Pll :=
    pll.onRegs (modifyReg (pll.base + ddrMvpPllCoreStatusIntEnAdr) fun regVal =>
      let regVal := updateRegField regVal
        ddrMvpPllCoreStatusIntEnInitialSwitchDoneIntEn (boolWord enable)
      let regVal := updateRegField regVal ddrMvpPllCoreStatusIntEnCoreLockedIntEn
        (boolWord enable)
      updateRegField regVal ddrMvpPllCoreStatusIntEnLossOfLockIntEn (boolWord enable))
  setAll false (setAll true pll).clearStatusInt

def mcuBand : BitVec 8 := 0x3

def mcuBandFine : BitVec 8 := 0x1F

def pllBoot (pll : Pll) : Pll :=
  if pll.pVcoCurrent.isSome then pll
  else
    let vco := pll.vco .mcu
    let pll := { pll with pVcoCurrent := some .mcu }
    let pll := pll.onRegs (vcoSetBandRegIf vco mcuBand mcuBandFine true)
    let pll := pll.onRegs (vcoSetFllControl2RegIf vco 63 2 320)
    let pll := pll.onRegs (vcoSetFllControl1RegIf vco mcuBand mcuBandFine 2)
    (pll.pllSetVcoSelRegIf .mcu).pllResetRegIf

/-- The body of the search in `pll_prepare_vco_switch` for the VCO it stops at. -/
def prepareVco (freqId : UInt8) (cfg : PllFreqCfg) (vcoId : VcoIndex) (pll : Pll) :
    Pll :=
  let vcoCfg := cfg.vcoCfg vcoId.cfgIndex
  let vco := pll.vco vcoId
  let pll := pll.onRegs (vcoSetEnableRegIf vco true)
  let pll := pll.onRegs (vcoSetPostDivRegIf vco vcoCfg.postDiv)
  let pll := pll.onRegs (vcoSetIntFracRegIf vco vcoCfg.intComp vcoCfg.propGain)
  let pll := pll.onRegs (vcoSetBandRegIf vco vcoCfg.band vcoCfg.fine true)
  let pll := pll.pllSetVcoSelRegIf vcoId
  { pll with
    pVcoNext := some vcoId
    vco := Function.update pll.vco vcoId { vco with freqId := freqId } }

/-- The first PHY VCO that is not the current one is free. -/
def pllPrepareVcoSwitch (freqId : UInt8) (cfg : PllFreqCfg) (pll : Pll) :
    Except Fault Pll :=
  match pll.pVcoCurrent with
  | none => .error .nullPointer
  | some current =>
      match VcoIndex.phyVcos.find? fun vcoId => vcoId.id != (pll.vco current).vcoId with
      | none => .ok pll
      | some vcoId => .ok (pll.prepareVco freqId cfg vcoId)

def pllSwitchVco (isSwSwitch : Bool) (pll : Pll) : WddrReturn × Pll :=
  match pll.pVcoNext with
  | none => (.wddrError, pll)
  | some next =>
      let pll := if isSwSwitch then pll.pllSwitchVcoRegIf else pll
      (.wddrSuccess,
        { pll with
          pVcoPrev := pll.pVcoCurrent
          pVcoCurrent := some next
          pVcoNext := none })

def pllDisableVco (pll : Pll) : Pll :=
  match pll.pVcoPrev with
  | none => pll
  | some prev =>
      let vco := pll.vco prev
      let pll :=
        if vco.vcoId ≠ VcoIndex.mcu.id then pll.onRegs (vcoSetEnableRegIf vco false)
        else
          let pll := pll.onRegs (vcoSetFllEnableRegIf vco true)
          pll.onRegs (vcoSetBandRegIf vco mcuBand mcuBandFine false)
      { pll with pVcoPrev := none }

/-- One turn of the calibration loop.  The wait for the FLL ends when it reports
lock; `status` is the band status read afterwards. -/
def calibrateVco (status : Word) (vcoId : VcoIndex) (state : PllFreqCfg × Pll) :
    PllFreqCfg × Pll :=
  let vcoCfg := state.1.vcoCfg vcoId.cfgIndex
  let pll := state.2
  let vco := pll.vco vcoId
  let pll := pll.onRegs (vcoSetFllControl2RegIf vco vcoCfg.fllRefclkCount
    vcoCfg.fllRange vcoCfg.fllVcoCountTarget)
  let pll := pll.onRegs (vcoSetFllControl1RegIf vco vcoCfg.band vcoCfg.fine
    vcoCfg.lockCountThreshold)
  let pll := pll.onRegs (vcoSetFllEnableRegIf vco true)
  let pll := pll.onRegs (vcoSetFllEnableRegIf vco false)
  let vcoCfg := { vcoCfg with
    band := (getRegField status ddrMvpPllVco0FllBandStatusVco0BandStatus).setWidth 8
    fine := (getRegField status ddrMvpPllVco0FllBandStatusVco0FineStatus).setWidth 8 }
  ({ vcoCfg := Function.update state.1.vcoCfg vcoId.cfgIndex vcoCfg }, pll)

/-- Calibration only runs before the PLL has left the MCU VCO. -/
def pllCalibrateVco (status : VcoIndex → Word) (cfg : PllFreqCfg) (pll : Pll) :
    PllFreqCfg × Pll :=
  let onPhyVco := match pll.pVcoCurrent with
    | none => false
    | some current => (pll.vco current).vcoId != VcoIndex.mcu.id
  if onPhyVco then (cfg, pll)
  else VcoIndex.phyVcos.foldl (fun state vcoId => calibrateVco (status vcoId) vcoId state)
    (cfg, pll)

def pllGetCurrentVco (pll : Pll) : Except Fault UInt8 :=
  match pll.pVcoCurrent with
  | none => .error .nullPointer
  | some current => .ok (pll.vco current).vcoId

def undefinedVcoId : UInt8 := 255

def pllGetNextVco [BuildConfig] (pll : Pll) : Except Fault UInt8 := do
  configASSERT .pllGetNextVco pll.pVcoNext.isSome
  match pll.pVcoNext with
  | none => .ok undefinedVcoId
  | some next => .ok (pll.vco next).vcoId

def pllGetCurrentFreq (pll : Pll) : Except Fault UInt8 :=
  match pll.pVcoCurrent with
  | none => .error .nullPointer
  | some current => .ok (pll.vco current).freqId

end Pll

end WavLpddr
