import WavLpddr.ConfigurePhy

/-!
# The common block

Reference voltages, bias current and clock gating are set up once at
initialisation.  Impedance calibration searches, for each output level, the
pull-down and then the pull-up code at which the comparator flips.
-/

namespace WavLpddr

open RegisterFile

variable [KernelIo]

inductive VrefState
  | disabled | hiz | enabled

def cmnVrefSetStateRegIf (msr : WddrMsr) (state : VrefState) (cmnReg : CmnRegs) :
    CmnRegs :=
  cmnReg |> modifyReg ⟨.ddrCmnVrefCfg, [msr.index]⟩ (fun regVal =>
    match state with
    | .disabled =>
        let regVal := updateRegField regVal ddrCmnVrefM0CfgEn 0
        updateRegField regVal ddrCmnVrefM0CfgHiz 0
    | .enabled =>
        let regVal := updateRegField regVal ddrCmnVrefM0CfgEn 1
        updateRegField regVal ddrCmnVrefM0CfgHiz 0
    | .hiz =>
        let regVal := updateRegField regVal ddrCmnVrefM0CfgEn 0
        updateRegField regVal ddrCmnVrefM0CfgHiz 1)

def cmnIbiasSetStateRegIf (enable : Bool) (cmnReg : CmnRegs) : CmnRegs :=
  cmnReg |> modifyReg ⟨.ddrCmnIbiasCfg, []⟩ (fun regVal =>
    updateRegField regVal ddrCmnIbiasCfgEn (boolWord enable))

def cmnEnable (cmnReg : CmnRegs) : CmnRegs :=
  cmnReg
  |> cmnVrefSetStateRegIf .msr0 .enabled
  |> cmnVrefSetStateRegIf .msr1 .enabled
  |> cmnIbiasSetStateRegIf true

/-- The setters of `DDR_CMN_CLK_CTRL_CFG`, which differ in the field. -/
def cmnClkCtrlSetRegIf (field : RegField) (enable : Bool) (cmnReg : CmnRegs) : CmnRegs :=
  cmnReg |> modifyReg ⟨.ddrCmnClkCtrlCfg, []⟩ (fun regVal =>
    updateRegField regVal field (boolWord enable))

def cmnClkCtrlSetPll0DivClkRstRegIf := cmnClkCtrlSetRegIf ddrCmnClkCtrlCfgPll0DivClkRst

def cmnClkCtrlSetGfcmEnRegIf := cmnClkCtrlSetRegIf ddrCmnClkCtrlCfgGfcmEn

def cmnClkCtrlSetPll0DivClkEnRegIf := cmnClkCtrlSetRegIf ddrCmnClkCtrlCfgPll0DivClkEn

section Zqcal

inductive ZqcalMode
  | pullUp | pullDown
deriving DecidableEq

/-- What the impedance comparator reports for each code under test. -/
abbrev ZqcalComparator := ZqcalVoh → ZqcalMode → Nat → Bool

def zqcalPcalCodeMin : Nat := 0

def zqcalPcalCodeMax : Nat := 0x3f

def zqcalNcalCodeMin : Nat := 0

def zqcalNcalCodeMax : Nat := 0x1f

def ZqcalMode.value : ZqcalMode → Word
  | pullUp => 0
  | pullDown => 1

/-- The setters of `DDR_CMN_ZQCAL_CFG`, which differ in the field. -/
def cmnZqcalSetRegIf (field : RegField) (value : Word) (cmnReg : CmnRegs) : CmnRegs :=
  cmnReg |> modifyReg ⟨.ddrCmnZqcalCfg, []⟩ (fun regVal => updateRegField regVal field value)

def cmnZqcalSetStateRegIf (enabled : Bool) : CmnRegs → CmnRegs :=
  cmnZqcalSetRegIf ddrCmnZqcalCfgCalEn (boolWord enabled)

def cmnZqcalSetModeRegIf (mode : ZqcalMode) : CmnRegs → CmnRegs :=
  cmnZqcalSetRegIf ddrCmnZqcalCfgPdSel mode.value

def cmnZqcalSetCodeRegIf (mode : ZqcalMode) (code : Nat) : CmnRegs → CmnRegs :=
  cmnZqcalSetRegIf
    (match mode with
    | .pullUp => ddrCmnZqcalCfgPcal
    | .pullDown => ddrCmnZqcalCfgNcal) (BitVec.ofNat 32 code)

def cmnZqcalSetVohRegIf (voh : ZqcalVoh) : CmnRegs → CmnRegs :=
  cmnZqcalSetRegIf ddrCmnZqcalCfgVol0p6Sel
    (match voh with
    | .voh0p5 => 0
    | .voh0p6 => 1)

/-- The search of `zqcal_calibrate_common`; `fuel` codes beyond `code` remain. -/
def zqcalSearch (output : Nat → Bool) (mode : ZqcalMode) : Nat → Nat → CmnRegs →
    Nat × CmnRegs
  | 0, code, cmnReg => (code, cmnZqcalSetCodeRegIf mode code cmnReg)
  | fuel + 1, code, cmnReg =>
      let cmnReg := cmnZqcalSetCodeRegIf mode code cmnReg
      if output code then zqcalSearch output mode fuel (code + 1) cmnReg
      else (code, cmnReg)

def zqcalCalibrateCommon (output : Nat → Bool) (mode : ZqcalMode) (maxCode code : Nat)
    (cmnReg : CmnRegs) : Nat × CmnRegs :=
  zqcalSearch output mode (maxCode - code) code (cmnZqcalSetModeRegIf mode cmnReg)

/-- The common registers and the calibrated codes. -/
abbrev ZqcalState := ZqcalCfg × CmnRegs

def zqcalCalibrateVoh (comparator : ZqcalComparator) (voh : ZqcalVoh) (state : ZqcalState) :
    WddrReturn × ZqcalState :=
  let cmnReg := cmnZqcalSetVohRegIf voh state.2
  let (nCode, cmnReg) := zqcalCalibrateCommon (comparator voh .pullDown) .pullDown
    zqcalNcalCodeMax zqcalNcalCodeMin cmnReg
  if nCode = zqcalNcalCodeMin then (.wddrErrorZqcalNcalAtMin, state.1, cmnReg)
  else if nCode = zqcalNcalCodeMax then (.wddrErrorZqcalNcalAtMax, state.1, cmnReg)
  else
    let (pCode, cmnReg) := zqcalCalibrateCommon (comparator voh .pullUp) .pullUp
      zqcalPcalCodeMax zqcalPcalCodeMin cmnReg
    if pCode = zqcalPcalCodeMin then (.wddrErrorZqcalPcalAtMin, state.1, cmnReg)
    else if pCode = zqcalPcalCodeMax then (.wddrErrorZqcalPcalAtMax, state.1, cmnReg)
    else
      let codes := Function.update (Function.update (state.1 voh) .nCal (BitVec.ofNat 8 nCode))
        .pCal (BitVec.ofNat 8 pCode)
      (.wddrSuccess, Function.update state.1 voh codes, cmnReg)

def cmnZqcalCalibrate (comparator : ZqcalComparator) (state : ZqcalState) :
    WddrReturn × ZqcalState :=
  let cmnReg := cmnZqcalSetStateRegIf true state.2
  let (ret, cfg, cmnReg) :=
    propagateErrors (zqcalCalibrateVoh comparator) [.voh0p5, .voh0p6] (state.1, cmnReg)
  (ret, cfg, cmnZqcalSetStateRegIf false cmnReg)

end Zqcal

end WavLpddr
