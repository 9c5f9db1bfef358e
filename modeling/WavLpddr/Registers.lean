import WavLpddr.Kernel
import WavLpddr.Lib.RegisterFile

/-!
# Register layout

The register structures overlaid on the PHY's address map, restricted to the
registers that the modelled code accesses, and the fields it updates.  A
register array is addressed by its name and its list of indices, outermost
first; the first index of a banked register is the mode-set bank.
-/

namespace WavLpddr

/-- One register of a structure of register arrays. -/
structure ArrayReg (Name : Type) where
  name : Name
  index : List Nat
deriving DecidableEq

/-- The registers with one of the listed names in one bank. -/
def bankOf {Name : Type} (names : List Name) (msr : WddrMsr) : Set (ArrayReg Name) :=
  {reg | reg.name ∈ names ∧ reg.index.head? = some msr.index}

theorem mem_bankOf {Name : Type} {names : List Name} {msr : WddrMsr} {name : Name}
    {rest : List Nat} (listed : name ∈ names) :
    (⟨name, msr.index :: rest⟩ : ArrayReg Name) ∈ bankOf names msr :=
  ⟨listed, rfl⟩

theorem disjoint_bankOf {Name : Type} {first second : List Name} {msr : WddrMsr}
    (apart : ∀ name ∈ first, name ∉ second) :
    Disjoint (bankOf first msr) (bankOf second msr) :=
  Set.disjoint_left.mpr fun reg inFirst inSecond =>
    apart reg.name inFirst.1 inSecond.1

theorem bankOf_union {Name : Type} (first second : List Name) (msr : WddrMsr) :
    bankOf first msr ∪ bankOf second msr = bankOf (first ++ second) msr := by
  ext reg
  simp only [bankOf, Set.mem_union, Set.mem_ofPred_eq, List.mem_append]
  tauto

theorem wordOverwrites_updateRegField [KernelIo] {Config : Type*}
    {update : Config → Word → Word} (overwrites : RegisterFile.WordOverwrites update)
    (field : RegField) (value : Config → Word) :
    RegisterFile.WordOverwrites fun config word =>
      updateRegField (update config word) field (value config) := by
  simpa only [updateRegField_eq] using overwrites.insert field value

inductive DqRegName
  | ddrDqTopCfg | ddrDqDqRxCfg | ddrDqDqRxSaCfg | ddrDqDqTxEgressAnaCfg
  | ddrDqDqTxEgressDigCfg | ddrDqDqTxOdrPiCfg | ddrDqDqTxQdrPi0Cfg | ddrDqDqTxDdrPi0Cfg
  | ddrDqDqTxPiRtCfg | ddrDqDqTxRtCfg | ddrDqDqTxSdrCfg | ddrDqDqTxSdrXSelCfg
  | ddrDqDqTxSdrFcDlyCfg | ddrDqDqTxDdrCfg | ddrDqDqTxDdrXSelCfg | ddrDqDqTxQdrCfg
  | ddrDqDqTxQdrXSelCfg | ddrDqDqTxLpdeCfg | ddrDqDqTxIoCfg | ddrDqDqsRxCfg
  | ddrDqDqsRxSdrLpdeCfg | ddrDqDqsRxRenPiCfg | ddrDqDqsRxRcsPiCfg | ddrDqDqsRxRdqsPi0Cfg
  | ddrDqDqsRxIoCfg | ddrDqDqsRxIoCmnCfg | ddrDqDqsRxSaCmnCfg | ddrDqDqsTxCfg
  | ddrDqDqsTxEgressAnaCfg | ddrDqDqsTxEgressDigCfg | ddrDqDqsTxOdrPiCfg
  | ddrDqDqsTxQdrPi0Cfg | ddrDqDqsTxDdrPi0Cfg | ddrDqDqsTxPiRtCfg | ddrDqDqsTxSdrPiCfg
  | ddrDqDqsTxDfiPiCfg | ddrDqDqsTxRtCfg | ddrDqDqsTxSdrCfg | ddrDqDqsTxSdrXSelCfg
  | ddrDqDqsTxSdrFcDlyCfg | ddrDqDqsTxDdrCfg | ddrDqDqsTxDdrXSelCfg | ddrDqDqsTxQdrCfg
  | ddrDqDqsTxQdrXSelCfg | ddrDqDqsTxLpdeCfg | ddrDqDqsTxIoCfg | ddrDqDqsTxIoCmnCfg
deriving DecidableEq

abbrev DqRegs := RegisterFile.Registers (ArrayReg DqRegName) 32

inductive CaRegName
  | ddrCaTopCfg | ddrCaDqRxCfg | ddrCaDqTxEgressAnaCfg | ddrCaDqTxEgressDigCfg
  | ddrCaDqTxOdrPiCfg | ddrCaDqTxQdrPi0Cfg | ddrCaDqTxDdrPi0Cfg | ddrCaDqTxPiRtCfg
  | ddrCaDqTxRtCfg | ddrCaDqTxSdrCfg | ddrCaDqTxSdrXSelCfg | ddrCaDqTxSdrFcDlyCfg
  | ddrCaDqTxDdrCfg | ddrCaDqTxDdrXSelCfg | ddrCaDqTxQdrCfg | ddrCaDqTxQdrXSelCfg
  | ddrCaDqTxLpdeCfg | ddrCaDqTxIoCfg | ddrCaDqsRxCfg | ddrCaDqsRxSdrLpdeCfg
  | ddrCaDqsTxCfg | ddrCaDqsTxEgressAnaCfg | ddrCaDqsTxEgressDigCfg | ddrCaDqsTxOdrPiCfg
  | ddrCaDqsTxQdrPi0Cfg | ddrCaDqsTxDdrPi0Cfg | ddrCaDqsTxPiRtCfg | ddrCaDqsTxSdrPiCfg
  | ddrCaDqsTxDfiPiCfg | ddrCaDqsTxRtCfg | ddrCaDqsTxSdrCfg | ddrCaDqsTxSdrXSelCfg
  | ddrCaDqsTxSdrFcDlyCfg | ddrCaDqsTxDdrCfg | ddrCaDqsTxDdrXSelCfg | ddrCaDqsTxQdrCfg
  | ddrCaDqsTxQdrXSelCfg | ddrCaDqsTxLpdeCfg | ddrCaDqsTxIoCfg | ddrCaDqsTxIoCmnCfg
deriving DecidableEq

abbrev CaRegs := RegisterFile.Registers (ArrayReg CaRegName) 32

inductive CmnRegName
  | ddrCmnVrefCfg | ddrCmnZqcalCfg | ddrCmnIbiasCfg | ddrCmnClkCtrlCfg
deriving DecidableEq

abbrev CmnRegs := RegisterFile.Registers (ArrayReg CmnRegName) 32

inductive DfichRegName
  | ddrDfichTop1Cfg | ddrDfichIgDataCfg | ddrDfichWrcCfg | ddrDfichWrcctrlCfg
  | ddrDfichCkctrlCfg | ddrDfichRctrlCfg | ddrDfichWctrlCfg | ddrDfichWenctrlCfg
  | ddrDfichWckctrlCfg | ddrDfichWrdCfg | ddrDfichRddCfg | ddrDfichCtrl1Cfg
  | ddrDfichCtrl2Cfg | ddrDfichCtrl3Cfg | ddrDfichCtrl4Cfg | ddrDfichCtrl5Cfg
deriving DecidableEq

abbrev DfichRegs := RegisterFile.Registers (ArrayReg DfichRegName) 32

inductive DfiRegName
  | ddrDfiStatusIfCfg | ddrDfiCtrlupdIfCfg | ddrDfiPhyupdIfCfg | ddrDfiPhymstrIfCfg
deriving DecidableEq

abbrev DfiRegs := RegisterFile.Registers (ArrayReg DfiRegName) 32

inductive FswRegName
  | ddrFswCtrlCfg | ddrFswCsp1Cfg
deriving DecidableEq

abbrev FswRegs := RegisterFile.Registers (ArrayReg FswRegName) 32

inductive CtrlRegName
  | ddrCtrlClkCfg
deriving DecidableEq

abbrev CtrlRegs := RegisterFile.Registers (ArrayReg CtrlRegName) 32

section Dq

def ddrDqTopCfgWcsSwOvr : RegField := ⟨0x1, 0⟩
def ddrDqTopCfgWcsSwOvrVal : RegField := ⟨0x2, 1⟩
def ddrDqTopCfgRcsSwOvr : RegField := ⟨0x4, 2⟩
def ddrDqTopCfgRcsSwOvrVal : RegField := ⟨0x8, 3⟩
def ddrDqTopCfgFifoClr : RegField := ⟨0x100, 8⟩
def ddrDqDqRxM0CfgRgbMode : RegField := ⟨0x7, 0⟩
def ddrDqDqRxM0CfgFgbMode : RegField := ⟨0xf0, 4⟩
def ddrDqDqRxM1CfgRgbMode : RegField := ⟨0x7, 0⟩
def ddrDqDqRxM1CfgFgbMode : RegField := ⟨0xf0, 4⟩
def ddrDqDqRxSaM0R0Cfg0CalCode0 : RegField := ⟨0xf, 0⟩
def ddrDqDqRxSaM0R0Cfg0CalCode90 : RegField := ⟨0xf0, 4⟩
def ddrDqDqRxSaM0R0Cfg0CalCode180 : RegField := ⟨0xf00, 8⟩
def ddrDqDqRxSaM0R0Cfg0CalCode270 : RegField := ⟨0xf000, 12⟩
def ddrDqDqRxSaM0R0Cfg0CalDir0 : RegField := ⟨0x10000, 16⟩
def ddrDqDqRxSaM0R0Cfg0CalDir90 : RegField := ⟨0x20000, 17⟩
def ddrDqDqRxSaM0R0Cfg0CalDir180 : RegField := ⟨0x40000, 18⟩
def ddrDqDqRxSaM0R0Cfg0CalDir270 : RegField := ⟨0x80000, 19⟩
def ddrDqDqTxOdrPiM0R0CfgEn : RegField := ⟨0x4000, 14⟩
def ddrDqDqTxOdrPiM1R0CfgCode : RegField := ⟨0x3f, 0⟩
def ddrDqDqTxOdrPiM1R0CfgGear : RegField := ⟨0x3c0, 6⟩
def ddrDqDqTxOdrPiM1R0CfgXcpl : RegField := ⟨0x3c00, 10⟩
def ddrDqDqTxOdrPiM1R0CfgEn : RegField := ⟨0x4000, 14⟩
def ddrDqDqTxQdrPi0M0R0CfgEn : RegField := ⟨0x4000, 14⟩
def ddrDqDqTxQdrPi0M1R0CfgCode : RegField := ⟨0x3f, 0⟩
def ddrDqDqTxQdrPi0M1R0CfgGear : RegField := ⟨0x3c0, 6⟩
def ddrDqDqTxQdrPi0M1R0CfgXcpl : RegField := ⟨0x3c00, 10⟩
def ddrDqDqTxQdrPi0M1R0CfgEn : RegField := ⟨0x4000, 14⟩
def ddrDqDqTxDdrPi0M0R0CfgEn : RegField := ⟨0x4000, 14⟩
def ddrDqDqTxDdrPi0M1R0CfgCode : RegField := ⟨0x3f, 0⟩
def ddrDqDqTxDdrPi0M1R0CfgGear : RegField := ⟨0x3c0, 6⟩
def ddrDqDqTxDdrPi0M1R0CfgXcpl : RegField := ⟨0x3c00, 10⟩
def ddrDqDqTxDdrPi0M1R0CfgEn : RegField := ⟨0x4000, 14⟩
def ddrDqDqTxPiRtM0R0CfgEn : RegField := ⟨0x4000, 14⟩
def ddrDqDqTxPiRtM1R0CfgCode : RegField := ⟨0x3f, 0⟩
def ddrDqDqTxPiRtM1R0CfgGear : RegField := ⟨0x3c0, 6⟩
def ddrDqDqTxPiRtM1R0CfgXcpl : RegField := ⟨0x3c00, 10⟩
def ddrDqDqTxPiRtM1R0CfgEn : RegField := ⟨0x4000, 14⟩
def ddrDqDqTxLpdeM0R0Cfg0CtrlBin : RegField := ⟨0x3f, 0⟩
def ddrDqDqTxLpdeM0R0Cfg0Gear : RegField := ⟨0xc0, 6⟩
def ddrDqDqTxLpdeM0R0Cfg0En : RegField := ⟨0x100, 8⟩
def ddrDqDqTxLpdeM1R0Cfg0CtrlBin : RegField := ⟨0x3f, 0⟩
def ddrDqDqTxLpdeM1R0Cfg0Gear : RegField := ⟨0xc0, 6⟩
def ddrDqDqTxLpdeM1R0Cfg0En : RegField := ⟨0x100, 8⟩
def ddrDqDqTxIoM1Cfg0OvrdSel : RegField := ⟨0x7, 0⟩
def ddrDqDqTxIoM1Cfg0OvrdVal : RegField := ⟨0x8, 3⟩
def ddrDqDqTxIoM1Cfg0SwOvr : RegField := ⟨0x20, 5⟩
def ddrDqDqTxIoM1Cfg0TxImpd : RegField := ⟨0x1c0, 6⟩
def ddrDqDqTxIoM1Cfg0RxImpd : RegField := ⟨0xe00, 9⟩
def ddrDqDqsRxM0CfgRgbMode : RegField := ⟨0x7, 0⟩
def ddrDqDqsRxM0CfgFgbMode : RegField := ⟨0xf0, 4⟩
def ddrDqDqsRxM0CfgWckMode : RegField := ⟨0x100, 8⟩
def ddrDqDqsRxM0CfgPreFilterSel : RegField := ⟨0x3000, 12⟩
def ddrDqDqsRxM1CfgRgbMode : RegField := ⟨0x7, 0⟩
def ddrDqDqsRxM1CfgFgbMode : RegField := ⟨0xf0, 4⟩
def ddrDqDqsRxM1CfgWckMode : RegField := ⟨0x100, 8⟩
def ddrDqDqsRxM1CfgPreFilterSel : RegField := ⟨0x3000, 12⟩
def ddrDqDqsRxSdrLpdeM1R0CfgCtrlBin : RegField := ⟨0x3f, 0⟩
def ddrDqDqsRxSdrLpdeM1R0CfgGear : RegField := ⟨0xc0, 6⟩
def ddrDqDqsRxSdrLpdeM1R0CfgEn : RegField := ⟨0x100, 8⟩
def ddrDqDqsRxRenPiM0R0CfgEn : RegField := ⟨0x4000, 14⟩
def ddrDqDqsRxRenPiM1R0CfgCode : RegField := ⟨0x3f, 0⟩
def ddrDqDqsRxRenPiM1R0CfgGear : RegField := ⟨0x3c0, 6⟩
def ddrDqDqsRxRenPiM1R0CfgXcpl : RegField := ⟨0x3c00, 10⟩
def ddrDqDqsRxRenPiM1R0CfgEn : RegField := ⟨0x4000, 14⟩
def ddrDqDqsRxRcsPiM0R0CfgEn : RegField := ⟨0x4000, 14⟩
def ddrDqDqsRxRcsPiM1R0CfgCode : RegField := ⟨0x3f, 0⟩
def ddrDqDqsRxRcsPiM1R0CfgGear : RegField := ⟨0x3c0, 6⟩
def ddrDqDqsRxRcsPiM1R0CfgXcpl : RegField := ⟨0x3c00, 10⟩
def ddrDqDqsRxRcsPiM1R0CfgEn : RegField := ⟨0x4000, 14⟩
def ddrDqDqsRxRdqsPi0M0R0CfgEn : RegField := ⟨0x4000, 14⟩
def ddrDqDqsRxRdqsPi0M1R0CfgCode : RegField := ⟨0x3f, 0⟩
def ddrDqDqsRxRdqsPi0M1R0CfgGear : RegField := ⟨0x3c0, 6⟩
def ddrDqDqsRxRdqsPi0M1R0CfgXcpl : RegField := ⟨0x3c00, 10⟩
def ddrDqDqsRxRdqsPi0M1R0CfgEn : RegField := ⟨0x4000, 14⟩
def ddrDqDqsRxIoM1R0Cfg0DlyCtrlC : RegField := ⟨0xff, 0⟩
def ddrDqDqsRxIoM1R0Cfg0DlyCtrlT : RegField := ⟨0xff00, 8⟩
def ddrDqDqsRxIoCmnM1R0CfgCalPC : RegField := ⟨0xf, 0⟩
def ddrDqDqsRxIoCmnM1R0CfgCalPT : RegField := ⟨0xf0, 4⟩
def ddrDqDqsRxIoCmnM1R0CfgCalNC : RegField := ⟨0xf00, 8⟩
def ddrDqDqsRxIoCmnM1R0CfgCalNT : RegField := ⟨0xf000, 12⟩
def ddrDqDqsRxIoCmnM1R0CfgFbEn : RegField := ⟨0x70000, 16⟩
def ddrDqDqsRxIoCmnM1R0CfgDcpathEn : RegField := ⟨0x80000, 19⟩
def ddrDqDqsRxIoCmnM1R0CfgSeMode : RegField := ⟨0x400000, 22⟩
def ddrDqDqsRxSaCmnCfgOvrEn0180 : RegField := ⟨0x1, 0⟩
def ddrDqDqsRxSaCmnCfgCalEn0180 : RegField := ⟨0x2, 1⟩
def ddrDqDqsRxSaCmnCfgSwOvr : RegField := ⟨0x10, 4⟩
def ddrDqDqsTxM1CfgTgbMode : RegField := ⟨0x7, 0⟩
def ddrDqDqsTxM1CfgWgbMode : RegField := ⟨0xf0, 4⟩
def ddrDqDqsTxM1CfgCk2wckRatio : RegField := ⟨0x300, 8⟩
def ddrDqDqsTxOdrPiM0R0CfgEn : RegField := ⟨0x4000, 14⟩
def ddrDqDqsTxOdrPiM1R0CfgCode : RegField := ⟨0x3f, 0⟩
def ddrDqDqsTxOdrPiM1R0CfgGear : RegField := ⟨0x3c0, 6⟩
def ddrDqDqsTxOdrPiM1R0CfgXcpl : RegField := ⟨0x3c00, 10⟩
def ddrDqDqsTxOdrPiM1R0CfgEn : RegField := ⟨0x4000, 14⟩
def ddrDqDqsTxQdrPi0M0R0CfgEn : RegField := ⟨0x4000, 14⟩
def ddrDqDqsTxQdrPi0M1R0CfgCode : RegField := ⟨0x3f, 0⟩
def ddrDqDqsTxQdrPi0M1R0CfgGear : RegField := ⟨0x3c0, 6⟩
def ddrDqDqsTxQdrPi0M1R0CfgXcpl : RegField := ⟨0x3c00, 10⟩
def ddrDqDqsTxQdrPi0M1R0CfgEn : RegField := ⟨0x4000, 14⟩
def ddrDqDqsTxDdrPi0M0R0CfgEn : RegField := ⟨0x4000, 14⟩
def ddrDqDqsTxDdrPi0M1R0CfgCode : RegField := ⟨0x3f, 0⟩
def ddrDqDqsTxDdrPi0M1R0CfgGear : RegField := ⟨0x3c0, 6⟩
def ddrDqDqsTxDdrPi0M1R0CfgXcpl : RegField := ⟨0x3c00, 10⟩
def ddrDqDqsTxDdrPi0M1R0CfgEn : RegField := ⟨0x4000, 14⟩
def ddrDqDqsTxPiRtM0R0CfgEn : RegField := ⟨0x4000, 14⟩
def ddrDqDqsTxPiRtM1R0CfgCode : RegField := ⟨0x3f, 0⟩
def ddrDqDqsTxPiRtM1R0CfgGear : RegField := ⟨0x3c0, 6⟩
def ddrDqDqsTxPiRtM1R0CfgXcpl : RegField := ⟨0x3c00, 10⟩
def ddrDqDqsTxPiRtM1R0CfgEn : RegField := ⟨0x4000, 14⟩
def ddrDqDqsTxSdrPiM0R0CfgGear : RegField := ⟨0x3c0, 6⟩
def ddrDqDqsTxSdrPiM0R0CfgXcpl : RegField := ⟨0x3c00, 10⟩
def ddrDqDqsTxSdrPiM0R0CfgEn : RegField := ⟨0x4000, 14⟩
def ddrDqDqsTxDfiPiM0R0CfgGear : RegField := ⟨0x3c0, 6⟩
def ddrDqDqsTxDfiPiM0R0CfgXcpl : RegField := ⟨0x3c00, 10⟩
def ddrDqDqsTxDfiPiM0R0CfgEn : RegField := ⟨0x4000, 14⟩
def ddrDqDqsTxLpdeM0R0Cfg0CtrlBin : RegField := ⟨0x3f, 0⟩
def ddrDqDqsTxLpdeM0R0Cfg0Gear : RegField := ⟨0xc0, 6⟩
def ddrDqDqsTxLpdeM0R0Cfg0En : RegField := ⟨0x100, 8⟩
def ddrDqDqsTxIoM1Cfg0OvrdSel : RegField := ⟨0x7, 0⟩
def ddrDqDqsTxIoM1Cfg0OvrdValC : RegField := ⟨0x8, 3⟩
def ddrDqDqsTxIoM1Cfg0OvrdValT : RegField := ⟨0x10, 4⟩
def ddrDqDqsTxIoM1Cfg0SwOvr : RegField := ⟨0x20, 5⟩
def ddrDqDqsTxIoM1Cfg0TxImpd : RegField := ⟨0x1c0, 6⟩
def ddrDqDqsTxIoM1Cfg0RxImpd : RegField := ⟨0xe00, 9⟩
def ddrDqDqsTxIoCmnM0R0CfgNcal : RegField := ⟨0x1f, 0⟩
def ddrDqDqsTxIoCmnM0R0CfgPcal : RegField := ⟨0x7e0, 5⟩
def ddrDqDqsTxIoCmnM1R0CfgNcal : RegField := ⟨0x1f, 0⟩
def ddrDqDqsTxIoCmnM1R0CfgPcal : RegField := ⟨0x7e0, 5⟩
def ddrDqDqsTxIoCmnM1R0CfgSeMode : RegField := ⟨0x2000, 13⟩

end Dq

section Ca

def ddrCaTopCfgWcsSwOvr : RegField := ⟨0x1, 0⟩
def ddrCaTopCfgWcsSwOvrVal : RegField := ⟨0x2, 1⟩
def ddrCaTopCfgRcsSwOvr : RegField := ⟨0x4, 2⟩
def ddrCaTopCfgRcsSwOvrVal : RegField := ⟨0x8, 3⟩
def ddrCaTopCfgFifoClr : RegField := ⟨0x100, 8⟩
def ddrCaDqRxM1CfgRgbMode : RegField := ⟨0x7, 0⟩
def ddrCaDqRxM1CfgFgbMode : RegField := ⟨0xf0, 4⟩
def ddrCaDqTxOdrPiM0R0CfgEn : RegField := ⟨0x4000, 14⟩
def ddrCaDqTxOdrPiM1R0CfgCode : RegField := ⟨0x3f, 0⟩
def ddrCaDqTxOdrPiM1R0CfgGear : RegField := ⟨0x3c0, 6⟩
def ddrCaDqTxOdrPiM1R0CfgXcpl : RegField := ⟨0x3c00, 10⟩
def ddrCaDqTxOdrPiM1R0CfgEn : RegField := ⟨0x4000, 14⟩
def ddrCaDqTxQdrPi0M0R0CfgEn : RegField := ⟨0x4000, 14⟩
def ddrCaDqTxQdrPi0M1R0CfgCode : RegField := ⟨0x3f, 0⟩
def ddrCaDqTxQdrPi0M1R0CfgGear : RegField := ⟨0x3c0, 6⟩
def ddrCaDqTxQdrPi0M1R0CfgXcpl : RegField := ⟨0x3c00, 10⟩
def ddrCaDqTxQdrPi0M1R0CfgEn : RegField := ⟨0x4000, 14⟩
def ddrCaDqTxDdrPi0M0R0CfgEn : RegField := ⟨0x4000, 14⟩
def ddrCaDqTxDdrPi0M1R0CfgCode : RegField := ⟨0x3f, 0⟩
def ddrCaDqTxDdrPi0M1R0CfgGear : RegField := ⟨0x3c0, 6⟩
def ddrCaDqTxDdrPi0M1R0CfgXcpl : RegField := ⟨0x3c00, 10⟩
def ddrCaDqTxDdrPi0M1R0CfgEn : RegField := ⟨0x4000, 14⟩
def ddrCaDqTxPiRtM0R0CfgEn : RegField := ⟨0x4000, 14⟩
def ddrCaDqTxPiRtM1R0CfgCode : RegField := ⟨0x3f, 0⟩
def ddrCaDqTxPiRtM1R0CfgGear : RegField := ⟨0x3c0, 6⟩
def ddrCaDqTxPiRtM1R0CfgXcpl : RegField := ⟨0x3c00, 10⟩
def ddrCaDqTxPiRtM1R0CfgEn : RegField := ⟨0x4000, 14⟩
def ddrCaDqTxIoM0Cfg0OvrdSel : RegField := ⟨0x7, 0⟩
def ddrCaDqTxIoM0Cfg0OvrdVal : RegField := ⟨0x8, 3⟩
def ddrCaDqTxIoM0Cfg0SwOvr : RegField := ⟨0x20, 5⟩
def ddrCaDqTxIoM0Cfg0TxImpd : RegField := ⟨0x1c0, 6⟩
def ddrCaDqTxIoM0Cfg0RxImpd : RegField := ⟨0xe00, 9⟩
def ddrCaDqTxIoM1Cfg0OvrdSel : RegField := ⟨0x7, 0⟩
def ddrCaDqTxIoM1Cfg0OvrdVal : RegField := ⟨0x8, 3⟩
def ddrCaDqTxIoM1Cfg0SwOvr : RegField := ⟨0x20, 5⟩
def ddrCaDqTxIoM1Cfg0TxImpd : RegField := ⟨0x1c0, 6⟩
def ddrCaDqTxIoM1Cfg0RxImpd : RegField := ⟨0xe00, 9⟩
def ddrCaDqTxLpdeM0R0Cfg0CtrlBin : RegField := ⟨0x3f, 0⟩
def ddrCaDqTxLpdeM0R0Cfg0Gear : RegField := ⟨0xc0, 6⟩
def ddrCaDqTxLpdeM0R0Cfg0En : RegField := ⟨0x100, 8⟩
def ddrCaDqsRxM1CfgRgbMode : RegField := ⟨0x7, 0⟩
def ddrCaDqsRxM1CfgFgbMode : RegField := ⟨0xf0, 4⟩
def ddrCaDqsRxM1CfgWckMode : RegField := ⟨0x100, 8⟩
def ddrCaDqsRxM1CfgPreFilterSel : RegField := ⟨0x3000, 12⟩
def ddrCaDqsRxSdrLpdeM1R0CfgCtrlBin : RegField := ⟨0x3f, 0⟩
def ddrCaDqsRxSdrLpdeM1R0CfgGear : RegField := ⟨0xc0, 6⟩
def ddrCaDqsRxSdrLpdeM1R0CfgEn : RegField := ⟨0x100, 8⟩
def ddrCaDqsTxM1CfgTgbMode : RegField := ⟨0x7, 0⟩
def ddrCaDqsTxM1CfgWgbMode : RegField := ⟨0xf0, 4⟩
def ddrCaDqsTxM1CfgCk2wckRatio : RegField := ⟨0x300, 8⟩
def ddrCaDqsTxOdrPiM0R0CfgEn : RegField := ⟨0x4000, 14⟩
def ddrCaDqsTxOdrPiM1R0CfgCode : RegField := ⟨0x3f, 0⟩
def ddrCaDqsTxOdrPiM1R0CfgGear : RegField := ⟨0x3c0, 6⟩
def ddrCaDqsTxOdrPiM1R0CfgXcpl : RegField := ⟨0x3c00, 10⟩
def ddrCaDqsTxOdrPiM1R0CfgEn : RegField := ⟨0x4000, 14⟩
def ddrCaDqsTxQdrPi0M0R0CfgEn : RegField := ⟨0x4000, 14⟩
def ddrCaDqsTxQdrPi0M1R0CfgCode : RegField := ⟨0x3f, 0⟩
def ddrCaDqsTxQdrPi0M1R0CfgGear : RegField := ⟨0x3c0, 6⟩
def ddrCaDqsTxQdrPi0M1R0CfgXcpl : RegField := ⟨0x3c00, 10⟩
def ddrCaDqsTxQdrPi0M1R0CfgEn : RegField := ⟨0x4000, 14⟩
def ddrCaDqsTxDdrPi0M0R0CfgEn : RegField := ⟨0x4000, 14⟩
def ddrCaDqsTxDdrPi0M1R0CfgCode : RegField := ⟨0x3f, 0⟩
def ddrCaDqsTxDdrPi0M1R0CfgGear : RegField := ⟨0x3c0, 6⟩
def ddrCaDqsTxDdrPi0M1R0CfgXcpl : RegField := ⟨0x3c00, 10⟩
def ddrCaDqsTxDdrPi0M1R0CfgEn : RegField := ⟨0x4000, 14⟩
def ddrCaDqsTxPiRtM0R0CfgEn : RegField := ⟨0x4000, 14⟩
def ddrCaDqsTxPiRtM1R0CfgCode : RegField := ⟨0x3f, 0⟩
def ddrCaDqsTxPiRtM1R0CfgGear : RegField := ⟨0x3c0, 6⟩
def ddrCaDqsTxPiRtM1R0CfgXcpl : RegField := ⟨0x3c00, 10⟩
def ddrCaDqsTxPiRtM1R0CfgEn : RegField := ⟨0x4000, 14⟩
def ddrCaDqsTxSdrPiM0R0CfgEn : RegField := ⟨0x4000, 14⟩
def ddrCaDqsTxSdrPiM1R0CfgGear : RegField := ⟨0x3c0, 6⟩
def ddrCaDqsTxSdrPiM1R0CfgXcpl : RegField := ⟨0x3c00, 10⟩
def ddrCaDqsTxSdrPiM1R0CfgEn : RegField := ⟨0x4000, 14⟩
def ddrCaDqsTxDfiPiM0R0CfgEn : RegField := ⟨0x4000, 14⟩
def ddrCaDqsTxDfiPiM1R0CfgGear : RegField := ⟨0x3c0, 6⟩
def ddrCaDqsTxDfiPiM1R0CfgXcpl : RegField := ⟨0x3c00, 10⟩
def ddrCaDqsTxDfiPiM1R0CfgEn : RegField := ⟨0x4000, 14⟩
def ddrCaDqsTxLpdeM0R0Cfg0CtrlBin : RegField := ⟨0x3f, 0⟩
def ddrCaDqsTxLpdeM0R0Cfg0Gear : RegField := ⟨0xc0, 6⟩
def ddrCaDqsTxLpdeM0R0Cfg0En : RegField := ⟨0x100, 8⟩
def ddrCaDqsTxIoM1Cfg0OvrdSel : RegField := ⟨0x7, 0⟩
def ddrCaDqsTxIoM1Cfg0OvrdValC : RegField := ⟨0x8, 3⟩
def ddrCaDqsTxIoM1Cfg0OvrdValT : RegField := ⟨0x10, 4⟩
def ddrCaDqsTxIoM1Cfg0SwOvr : RegField := ⟨0x20, 5⟩
def ddrCaDqsTxIoM1Cfg0TxImpd : RegField := ⟨0x1c0, 6⟩
def ddrCaDqsTxIoM1Cfg0RxImpd : RegField := ⟨0xe00, 9⟩
def ddrCaDqsTxIoCmnM0R0CfgNcal : RegField := ⟨0x1f, 0⟩
def ddrCaDqsTxIoCmnM0R0CfgPcal : RegField := ⟨0x7e0, 5⟩
def ddrCaDqsTxIoCmnM1R0CfgNcal : RegField := ⟨0x1f, 0⟩
def ddrCaDqsTxIoCmnM1R0CfgPcal : RegField := ⟨0x7e0, 5⟩
def ddrCaDqsTxIoCmnM1R0CfgSeMode : RegField := ⟨0x2000, 13⟩

end Ca

section Cmn

def ddrCmnVrefM0CfgCtrl : RegField := ⟨0xff, 0⟩
def ddrCmnVrefM0CfgEn : RegField := ⟨0x200, 9⟩
def ddrCmnVrefM0CfgHiz : RegField := ⟨0x400, 10⟩
def ddrCmnVrefM0CfgPwr : RegField := ⟨0x1800, 11⟩
def ddrCmnZqcalCfgNcal : RegField := ⟨0x1f, 0⟩
def ddrCmnZqcalCfgCalEn : RegField := ⟨0x20, 5⟩
def ddrCmnZqcalCfgPdSel : RegField := ⟨0x40, 6⟩
def ddrCmnZqcalCfgVol0p6Sel : RegField := ⟨0x80, 7⟩
def ddrCmnZqcalCfgPcal : RegField := ⟨0x3f00, 8⟩
def ddrCmnIbiasCfgEn : RegField := ⟨0x1, 0⟩
def ddrCmnClkCtrlCfgPll0DivClkRst : RegField := ⟨0x2, 1⟩
def ddrCmnClkCtrlCfgPll0DivClkEn : RegField := ⟨0x4, 2⟩
def ddrCmnClkCtrlCfgGfcmEn : RegField := ⟨0x8, 3⟩

end Cmn

section Dfi

def ddrDfiStatusIfCfgSwReqOvr : RegField := ⟨0x1, 0⟩
def ddrDfiStatusIfCfgSwReqVal : RegField := ⟨0x2, 1⟩
def ddrDfiStatusIfCfgSwAckOvr : RegField := ⟨0x4, 2⟩
def ddrDfiStatusIfCfgSwAckVal : RegField := ⟨0x8, 3⟩
def ddrDfiCtrlupdIfCfgSwAckOvr : RegField := ⟨0x4, 2⟩
def ddrDfiCtrlupdIfCfgSwAckVal : RegField := ⟨0x8, 3⟩
def ddrDfiCtrlupdIfCfgSwEvent1Ovr : RegField := ⟨0x40, 6⟩
def ddrDfiCtrlupdIfCfgSwEvent1Val : RegField := ⟨0x80, 7⟩
def ddrDfiPhyupdIfCfgSwReqOvr : RegField := ⟨0x1, 0⟩
def ddrDfiPhyupdIfCfgSwReqVal : RegField := ⟨0x2, 1⟩
def ddrDfiPhyupdIfCfgSwEventOvr : RegField := ⟨0x10, 4⟩
def ddrDfiPhyupdIfCfgSwEventVal : RegField := ⟨0x20, 5⟩
def ddrDfiPhyupdIfCfgSwType : RegField := ⟨0x300, 8⟩
def ddrDfiPhyupdIfCfgPor : Word := 0x0
def ddrDfiPhymstrIfCfgSwReqOvr : RegField := ⟨0x1, 0⟩
def ddrDfiPhymstrIfCfgSwReqVal : RegField := ⟨0x2, 1⟩
def ddrDfiPhymstrIfCfgSwEventOvr : RegField := ⟨0x10, 4⟩
def ddrDfiPhymstrIfCfgSwEventVal : RegField := ⟨0x20, 5⟩
def ddrDfiPhymstrIfCfgSwStateSel : RegField := ⟨0x40, 6⟩
def ddrDfiPhymstrIfCfgSwCsState : RegField := ⟨0x180, 7⟩
def ddrDfiPhymstrIfCfgSwType : RegField := ⟨0x600, 9⟩
def ddrDfiPhymstrIfCfgPor : Word := 0x0

end Dfi

section Dfich

def ddrDfichTop1CfgTsEnable : RegField := ⟨0x1, 0⟩
def ddrDfichTop1CfgTsReset : RegField := ⟨0x2, 1⟩
def ddrDfichTop1CfgWdataClr : RegField := ⟨0x10, 4⟩
def ddrDfichTop1CfgWdataHold : RegField := ⟨0x20, 5⟩
def ddrDfichTop1CfgWdataEnable : RegField := ⟨0x40, 6⟩
def ddrDfichTop1CfgWdataUpdate : RegField := ⟨0x80, 7⟩
def ddrDfichTop1CfgRdataClr : RegField := ⟨0x100, 8⟩
def ddrDfichTop1CfgRdataEnable : RegField := ⟨0x200, 9⟩
def ddrDfichTop1CfgRdataUpdate : RegField := ⟨0x400, 10⟩
def ddrDfichTop1CfgBufMode : RegField := ⟨0x1000, 12⟩
def ddrDfichTop1CfgBufClkEn : RegField := ⟨0x2000, 13⟩
def ddrDfichWrcM0CfgPipeEn : RegField := ⟨0x1, 0⟩
def ddrDfichWrcM0CfgPostGbFcDly : RegField := ⟨0x30, 4⟩
def ddrDfichWrcM0CfgGbMode : RegField := ⟨0xf000, 12⟩
def ddrDfichWrcctrlM0CfgPipeEn : RegField := ⟨0x1, 0⟩
def ddrDfichWrcctrlM0CfgPostGbFcDly : RegField := ⟨0x30, 4⟩
def ddrDfichWrcctrlM0CfgGbMode : RegField := ⟨0xf000, 12⟩
def ddrDfichCkctrlM0CfgPipeEn : RegField := ⟨0x1, 0⟩
def ddrDfichCkctrlM0CfgPostGbFcDly : RegField := ⟨0x30, 4⟩
def ddrDfichCkctrlM0CfgGbMode : RegField := ⟨0xf000, 12⟩
def ddrDfichRctrlM0CfgPipeEn : RegField := ⟨0x1, 0⟩
def ddrDfichRctrlM0CfgPostGbFcDly : RegField := ⟨0x70, 4⟩
def ddrDfichRctrlM0CfgGbMode : RegField := ⟨0xf000, 12⟩
def ddrDfichWctrlM0CfgPipeEn : RegField := ⟨0x1, 0⟩
def ddrDfichWctrlM0CfgPostGbFcDly : RegField := ⟨0x70, 4⟩
def ddrDfichWctrlM0CfgGbMode : RegField := ⟨0xf000, 12⟩
def ddrDfichWenctrlM0CfgPipeEn : RegField := ⟨0x1, 0⟩
def ddrDfichWenctrlM0CfgPostGbFcDly : RegField := ⟨0xf0, 4⟩
def ddrDfichWenctrlM0CfgGbMode : RegField := ⟨0xf000, 12⟩
def ddrDfichWckctrlM0CfgPipeEn : RegField := ⟨0x1, 0⟩
def ddrDfichWckctrlM0CfgPostGbFcDly : RegField := ⟨0x70, 4⟩
def ddrDfichWckctrlM0CfgGbMode : RegField := ⟨0xf000, 12⟩
def ddrDfichWrdM0CfgPipeEn : RegField := ⟨0x1, 0⟩
def ddrDfichWrdM0CfgPostGbFcDly : RegField := ⟨0x30, 4⟩
def ddrDfichWrdM0CfgGbMode : RegField := ⟨0xf000, 12⟩
def ddrDfichRddM0CfgGbMode : RegField := ⟨0xf, 0⟩

end Dfich

section Fsw

def ddrFswCtrlCfgVcoSelOvr : RegField := ⟨0x1, 0⟩
def ddrFswCtrlCfgVcoSelOvrVal : RegField := ⟨0x6, 1⟩
def ddrFswCtrlCfgVcoToggleEn : RegField := ⟨0x10, 4⟩
def ddrFswCtrlCfgMsrToggleEn : RegField := ⟨0x20, 5⟩
def ddrFswCtrlCfgMsrOvr : RegField := ⟨0x40, 6⟩
def ddrFswCtrlCfgMsrOvrVal : RegField := ⟨0x80, 7⟩
def ddrFswCtrlCfgPrepDone : RegField := ⟨0x100, 8⟩
def ddrFswCtrlCfgPstworkDone : RegField := ⟨0x200, 9⟩
def ddrFswCtrlCfgPstworkDoneOvr : RegField := ⟨0x400, 10⟩
def ddrFswCsp1CfgReqOvr : RegField := ⟨0x1, 0⟩
def ddrFswCsp1CfgReqOvrVal : RegField := ⟨0x8, 3⟩
def ddrFswCsp1CfgClkDisableOvrVal : RegField := ⟨0x100, 8⟩
def ddrFswCsp1CfgReqCompleteStaClr : RegField := ⟨0x200, 9⟩

end Fsw

section Ctrl

def ddrCtrlClkCfgPllClkEn : RegField := ⟨0x1, 0⟩
def ddrCtrlClkCfgMcuGfmSel : RegField := ⟨0x4, 2⟩

end Ctrl

section MvpPll

def ddrMvpPllCoreOverridesCoreReset : RegField := ⟨0x1, 0⟩
def ddrMvpPllCoreOverridesCoreResetMux : RegField := ⟨0x2, 1⟩
def ddrMvpPllCoreOverridesCoreVcoSel : RegField := ⟨0xc, 2⟩
def ddrMvpPllCoreOverridesCoreVcoSelMux : RegField := ⟨0x10, 4⟩
def ddrMvpPllCoreOverridesAdr : Word := 0x0
def ddrMvpPllCoreSwtichVcoCoreSwitchVco : RegField := ⟨0x1, 0⟩
def ddrMvpPllCoreSwtichVcoAdr : Word := 0x4
def ddrMvpPllCoreStatusIntLossOfLock : RegField := ⟨0x1, 0⟩
def ddrMvpPllCoreStatusIntCoreLocked : RegField := ⟨0x2, 1⟩
def ddrMvpPllCoreStatusIntInitialSwitchDone : RegField := ⟨0x4, 2⟩
def ddrMvpPllCoreStatusIntEnLossOfLockIntEn : RegField := ⟨0x1, 0⟩
def ddrMvpPllCoreStatusIntEnCoreLockedIntEn : RegField := ⟨0x2, 1⟩
def ddrMvpPllCoreStatusIntEnInitialSwitchDoneIntEn : RegField := ⟨0x4, 2⟩
def ddrMvpPllCoreStatusIntEnAdr : Word := 0x14
def ddrMvpPllVco0BandVco0Band : RegField := ⟨0x3f, 0⟩
def ddrMvpPllVco0BandVco0BandMux : RegField := ⟨0x40, 6⟩
def ddrMvpPllVco0BandVco0Fine : RegField := ⟨0x3f00, 8⟩
def ddrMvpPllVco0BandVco0FineMux : RegField := ⟨0x4000, 14⟩
def ddrMvpPllVco0BandAdr : Word := 0x18
def ddrMvpPllVco0ControlVco0Ena : RegField := ⟨0x1, 0⟩
def ddrMvpPllVco0ControlVco0EnaMux : RegField := ⟨0x2, 1⟩
def ddrMvpPllVco0ControlAdr : Word := 0x1c
def ddrMvpPllVco0FllControl1Vco0FllEnable : RegField := ⟨0x1, 0⟩
def ddrMvpPllVco0FllControl1Vco0BandStart : RegField := ⟨0xfc, 2⟩
def ddrMvpPllVco0FllControl1Vco0FineStart : RegField := ⟨0x3f00, 8⟩
def ddrMvpPllVco0FllControl1Vco0LockedCountThreshold : RegField := ⟨0x780000, 19⟩
def ddrMvpPllVco0FllControl1Adr : Word := 0x20
def ddrMvpPllVco0FllControl2Vco0FllRefclkCount : RegField := ⟨0xff, 0⟩
def ddrMvpPllVco0FllControl2Vco0FllVcoCountTarget : RegField := ⟨0xffff00, 8⟩
def ddrMvpPllVco0FllControl2Vco0FllRange : RegField := ⟨0x1f000000, 24⟩
def ddrMvpPllVco0FllControl2Adr : Word := 0x24
def ddrMvpPllVco0FllBandStatusVco0BandStatus : RegField := ⟨0x3f, 0⟩
def ddrMvpPllVco0FllBandStatusVco0FineStatus : RegField := ⟨0x3f000, 12⟩
def ddrMvpPllVco0IntFracSettingsVco0Int : RegField := ⟨0x1ff, 0⟩
def ddrMvpPllVco0IntFracSettingsAdr : Word := 0x34
def ddrMvpPllVco0PropGainsVco0PropGain : RegField := ⟨0x1f, 0⟩
def ddrMvpPllVco0PropGainsAdr : Word := 0x38
def ddrMvpPllVco1BandAdr : Word := 0x3c
def ddrMvpPllVco1ControlVco1PostDiv : RegField := ⟨0x18, 3⟩
def ddrMvpPllVco2BandAdr : Word := 0x64

end MvpPll

end WavLpddr
