import WavLpddr.ConfigurePhy
import WavLpddr.Lib.Footprint

/-!
# The bounds of the register arrays

The preparation of a frequency indexes the register arrays with the bank, the rank and the
slice.  Each of its functions is confined to registers that exist, for the slices that its
callers loop over.
-/

namespace WavLpddr

open RegisterFile

/-- The registers of arrays with these dimensions. -/
def Existing {Name : Type} (dims : Name → List Nat) : Set (ArrayReg Name) :=
  {reg | List.Forall₂ (· < ·) reg.index (dims reg.name)}

def DqRegName.dims : DqRegName → List Nat
  | .ddrDqTopCfg | .ddrDqDqsRxSaCmnCfg => []
  | .ddrDqDqRxCfg | .ddrDqDqsRxCfg | .ddrDqDqsTxCfg => [2]
  | .ddrDqDqTxOdrPiCfg | .ddrDqDqTxQdrPi0Cfg | .ddrDqDqTxDdrPi0Cfg | .ddrDqDqTxPiRtCfg
  | .ddrDqDqTxRtCfg | .ddrDqDqsRxSdrLpdeCfg | .ddrDqDqsRxRenPiCfg | .ddrDqDqsRxRcsPiCfg
  | .ddrDqDqsRxRdqsPi0Cfg | .ddrDqDqsRxIoCmnCfg | .ddrDqDqsTxOdrPiCfg
  | .ddrDqDqsTxQdrPi0Cfg | .ddrDqDqsTxDdrPi0Cfg | .ddrDqDqsTxPiRtCfg
  | .ddrDqDqsTxSdrPiCfg | .ddrDqDqsTxDfiPiCfg | .ddrDqDqsTxRtCfg | .ddrDqDqsTxIoCfg
  | .ddrDqDqsTxIoCmnCfg => [2, 2]
  | .ddrDqDqTxEgressAnaCfg | .ddrDqDqTxEgressDigCfg | .ddrDqDqTxIoCfg
  | .ddrDqDqsTxEgressAnaCfg | .ddrDqDqsTxEgressDigCfg => [2, 9]
  | .ddrDqDqsRxIoCfg | .ddrDqDqsTxLpdeCfg => [2, 2, 2]
  | .ddrDqDqRxSaCfg | .ddrDqDqTxSdrCfg | .ddrDqDqTxSdrXSelCfg | .ddrDqDqTxSdrFcDlyCfg
  | .ddrDqDqTxDdrCfg | .ddrDqDqTxDdrXSelCfg | .ddrDqDqTxQdrCfg | .ddrDqDqTxQdrXSelCfg
  | .ddrDqDqTxLpdeCfg | .ddrDqDqsTxSdrCfg | .ddrDqDqsTxSdrXSelCfg
  | .ddrDqDqsTxSdrFcDlyCfg | .ddrDqDqsTxDdrCfg | .ddrDqDqsTxDdrXSelCfg
  | .ddrDqDqsTxQdrCfg | .ddrDqDqsTxQdrXSelCfg => [2, 2, 9]

def CaRegName.dims : CaRegName → List Nat
  | .ddrCaTopCfg => []
  | .ddrCaDqRxCfg | .ddrCaDqsRxCfg | .ddrCaDqsTxCfg => [2]
  | .ddrCaDqTxOdrPiCfg | .ddrCaDqTxQdrPi0Cfg | .ddrCaDqTxDdrPi0Cfg | .ddrCaDqTxPiRtCfg
  | .ddrCaDqTxRtCfg | .ddrCaDqsRxSdrLpdeCfg | .ddrCaDqsTxOdrPiCfg | .ddrCaDqsTxQdrPi0Cfg
  | .ddrCaDqsTxDdrPi0Cfg | .ddrCaDqsTxPiRtCfg | .ddrCaDqsTxSdrPiCfg | .ddrCaDqsTxDfiPiCfg
  | .ddrCaDqsTxRtCfg | .ddrCaDqsTxIoCmnCfg => [2, 2]
  | .ddrCaDqTxEgressAnaCfg | .ddrCaDqTxEgressDigCfg | .ddrCaDqTxIoCfg => [2, 11]
  | .ddrCaDqsTxEgressAnaCfg | .ddrCaDqsTxEgressDigCfg | .ddrCaDqsTxIoCfg => [2, 1]
  | .ddrCaDqTxSdrCfg | .ddrCaDqTxSdrXSelCfg | .ddrCaDqTxSdrFcDlyCfg | .ddrCaDqTxDdrCfg
  | .ddrCaDqTxDdrXSelCfg | .ddrCaDqTxQdrCfg | .ddrCaDqTxQdrXSelCfg
  | .ddrCaDqTxLpdeCfg => [2, 2, 11]
  | .ddrCaDqsTxSdrCfg | .ddrCaDqsTxSdrXSelCfg | .ddrCaDqsTxSdrFcDlyCfg | .ddrCaDqsTxDdrCfg
  | .ddrCaDqsTxDdrXSelCfg | .ddrCaDqsTxQdrCfg | .ddrCaDqsTxQdrXSelCfg
  | .ddrCaDqsTxLpdeCfg => [2, 2, 1]

def CmnRegName.dims : CmnRegName → List Nat
  | .ddrCmnVrefCfg => [2]
  | .ddrCmnZqcalCfg | .ddrCmnIbiasCfg | .ddrCmnClkCtrlCfg => []

def DfichRegName.dims : DfichRegName → List Nat
  | .ddrDfichTop1Cfg | .ddrDfichIgDataCfg => []
  | .ddrDfichWrcCfg | .ddrDfichWrcctrlCfg | .ddrDfichCkctrlCfg | .ddrDfichRctrlCfg
  | .ddrDfichWctrlCfg | .ddrDfichWenctrlCfg | .ddrDfichWckctrlCfg | .ddrDfichWrdCfg
  | .ddrDfichRddCfg | .ddrDfichCtrl1Cfg | .ddrDfichCtrl2Cfg | .ddrDfichCtrl3Cfg
  | .ddrDfichCtrl4Cfg | .ddrDfichCtrl5Cfg => [2]

theorem WddrMsr.index_lt (msr : WddrMsr) : msr.index < 2 := by
  cases msr <;> decide

section Indices

variable {Name : Type} {dims : Name → List Nat} {name : Name} (msr : WddrMsr)
  {rank bit slices : Nat}

theorem bankReg_mem (shape : dims name = [2]) :
    (⟨name, [msr.index]⟩ : ArrayReg Name) ∈ Existing dims := by
  rw [Existing, Set.mem_ofPred_eq, shape]
  exact .cons msr.index_lt .nil

theorem rankReg_mem (inRank : rank < wddrPhyRank) (shape : dims name = [2, 2]) :
    (⟨name, [msr.index, rank]⟩ : ArrayReg Name) ∈ Existing dims := by
  rw [Existing, Set.mem_ofPred_eq, shape]
  exact .cons msr.index_lt (.cons inRank .nil)

theorem sliceReg_mem (inSlices : bit < slices) (shape : dims name = [2, slices]) :
    (⟨name, [msr.index, bit]⟩ : ArrayReg Name) ∈ Existing dims := by
  rw [Existing, Set.mem_ofPred_eq, shape]
  exact .cons msr.index_lt (.cons inSlices .nil)

theorem bitReg_mem (inRank : rank < wddrPhyRank) (inSlices : bit < slices)
    (shape : dims name = [2, 2, slices]) :
    (⟨name, [msr.index, rank, bit]⟩ : ArrayReg Name) ∈ Existing dims := by
  rw [Existing, Set.mem_ofPred_eq, shape]
  exact .cons msr.index_lt (.cons inRank (.cons inSlices .nil))

end Indices

variable [KernelIo] (msr : WddrMsr)

section DqByte

theorem rxPathDq_existing (cfg : DqRxPathFreqCfg) (commonCfg : DqRxPathCommonCfg) :
    Confined (Existing DqRegName.dims) (rxPathDqBlockFreqSwitchPrep msr cfg commonCfg) := by
  refine .forRange fun rank inRank => ?_
  refine .thenWrite ?_ (bankReg_mem msr (by rfl)) _
  refine .thenWrite ?_ (bankReg_mem msr (by rfl)) _
  refine .thenWrite ?_ (bitReg_mem msr inRank (by decide : 1 < 2) (by rfl)) _
  refine .thenModifyReg ?_ (rankReg_mem msr inRank (by rfl)) _
  repeat refine .thenWrite ?_ (rankReg_mem msr inRank (by rfl)) _
  exact .id

theorem txPathDqRank_existing (zqcal : ZqcalCfg) (cfg : DqTxPathFreqCfg) :
    Confined (Existing DqRegName.dims) (txPathDqRankPrep msr zqcal cfg) := by
  refine .forRange fun rank inRank => ?_
  repeat refine .thenWrite ?_ (rankReg_mem msr inRank (by rfl)) _
  exact .id

theorem txBitPipelineDq_existing {bitIndex : Nat} (inSlices : bitIndex < wddrPhyDqSliceNum)
    (cfg : DqTxPathFreqCfg) :
    Confined (Existing DqRegName.dims) (txBitPipelinePrepDq msr bitIndex cfg) := by
  refine .forRange fun rank inRank => ?_
  repeat refine .thenWrite ?_ (bitReg_mem msr inRank inSlices (by rfl)) _
  exact .id

/-- Only the slices with a driver have a delay element. -/
theorem txBitPipelineDqs_existing {bitIndex : Nat} (inSlices : bitIndex < wddrPhyDqsSliceNum)
    (cfg : DqTxPathFreqCfg) :
    Confined (Existing DqRegName.dims) (txBitPipelinePrepDqs msr bitIndex cfg) := by
  refine .forRange fun rank inRank => ?_
  refine .thenWriteWhenever ?_ (fun driven => bitReg_mem msr inRank driven (by rfl)) _
  repeat refine .thenWrite ?_ (bitReg_mem msr inRank inSlices (by rfl)) _
  exact .id

theorem txDqSlices_existing (cfg : DqTxPathFreqCfg) (regVal : Word) :
    Confined (Existing DqRegName.dims) (txDqSlicesPrep msr cfg regVal) := by
  refine .forRange fun bitIndex inSlices => ?_
  repeat refine .thenWrite ?_ (sliceReg_mem msr inSlices (by rfl)) _
  exact txBitPipelineDq_existing msr inSlices cfg

theorem txDqsSlices_existing (cfg : DqTxPathFreqCfg) (regVal : Word) :
    Confined (Existing DqRegName.dims) (txDqsSlicesPrep msr cfg regVal) := by
  refine .forRange fun bitIndex inSlices => ?_
  refine .thenWriteWhenever ?_ (fun driven => sliceReg_mem msr driven (by rfl)) _
  repeat refine .thenWrite ?_ (sliceReg_mem msr inSlices (by rfl)) _
  exact txBitPipelineDqs_existing msr inSlices cfg

/-- The driver words come from slice 0. -/
theorem dqBlockFreqSwitchPrep_existing (zqcal : ZqcalCfg) (cfg : DqPathFreqCfg)
    (commonCfg : DqRxPathCommonCfg) :
    Confined (Existing DqRegName.dims) (dqBlockFreqSwitchPrep msr zqcal cfg commonCfg) := by
  have firstDq : (⟨.ddrDqDqTxIoCfg, [msr.index, 0]⟩ : ArrayReg DqRegName) ∈
      Existing DqRegName.dims := sliceReg_mem msr (by decide : 0 < 9) rfl
  have firstDqs : (⟨.ddrDqDqsTxIoCfg, [msr.index, 0]⟩ : ArrayReg DqRegName) ∈
      Existing DqRegName.dims := sliceReg_mem msr (by decide : 0 < 2) rfl
  have dqSlices := Confined.read firstDq fun value =>
    txDqSlices_existing msr cfg.tx (dqDriverWord cfg.tx.dqDriver value)
  have dqsSlices := Confined.read firstDqs fun value =>
    txDqsSlices_existing msr cfg.tx (dqsDriverWord cfg.tx.dqsDriver value)
  have gearbox : Confined (Existing DqRegName.dims) (txDqsGearboxPrep msr cfg.tx) :=
    .write (bankReg_mem msr (by rfl)) _
  exact (rxPathDq_existing msr cfg.rx commonCfg).comp
    (gearbox.comp (dqsSlices.comp (dqSlices.comp (txPathDqRank_existing msr zqcal cfg.tx))))

end DqByte

section CaBlock

theorem rxPathCa_existing (cfg : CaRxPathFreqCfg) :
    Confined (Existing CaRegName.dims) (rxPathCaBlockFreqSwitchPrep msr cfg) := by
  refine .forRange fun rank inRank => ?_
  refine .thenWrite ?_ (bankReg_mem msr (by rfl)) _
  refine .thenWrite ?_ (bankReg_mem msr (by rfl)) _
  exact .write (rankReg_mem msr inRank (by rfl)) _

theorem txPathCaRank_existing (zqcal : ZqcalCfg) (cfg : CaTxPathFreqCfg) :
    Confined (Existing CaRegName.dims) (txPathCaRankPrep msr zqcal cfg) := by
  refine .forRange fun rank inRank => ?_
  repeat refine .thenWrite ?_ (rankReg_mem msr inRank (by rfl)) _
  exact .id

theorem txBitPipelineCa_existing {bitIndex : Nat} (inSlices : bitIndex < wddrPhyCaSliceNum)
    (cfg : CaTxPathFreqCfg) :
    Confined (Existing CaRegName.dims) (txBitPipelinePrepCa msr bitIndex cfg) := by
  refine .forRange fun rank inRank => ?_
  repeat refine .thenWrite ?_ (bitReg_mem msr inRank inSlices (by rfl)) _
  exact .id

theorem txBitPipelineCk_existing {bitIndex : Nat} (inSlices : bitIndex < wddrPhyCkSliceNum)
    (cfg : CaTxPathFreqCfg) :
    Confined (Existing CaRegName.dims) (txBitPipelinePrepCk msr bitIndex cfg) := by
  refine .forRange fun rank inRank => ?_
  repeat refine .thenWrite ?_ (bitReg_mem msr inRank inSlices (by rfl)) _
  exact .id

theorem txCaSlices_existing (cfg : CaTxPathFreqCfg) (regVal : Word) :
    Confined (Existing CaRegName.dims) (txCaSlicesPrep msr cfg regVal) := by
  refine .forRange fun bitIndex inSlices => ?_
  repeat refine .thenWrite ?_ (sliceReg_mem msr inSlices (by rfl)) _
  exact txBitPipelineCa_existing msr inSlices cfg

theorem txCkSlices_existing (cfg : CaTxPathFreqCfg) (regVal : Word) :
    Confined (Existing CaRegName.dims) (txCkSlicesPrep msr cfg regVal) := by
  refine .forRange fun bitIndex inSlices => ?_
  repeat refine .thenWrite ?_ (sliceReg_mem msr inSlices (by rfl)) _
  exact txBitPipelineCk_existing msr inSlices cfg

theorem caBlockFreqSwitchPrep_existing (zqcal : ZqcalCfg) (cfg : CaPathFreqCfg) :
    Confined (Existing CaRegName.dims) (caBlockFreqSwitchPrep msr zqcal cfg) := by
  have firstCa : (⟨.ddrCaDqTxIoCfg, [msr.index, 0]⟩ : ArrayReg CaRegName) ∈
      Existing CaRegName.dims := sliceReg_mem msr (by decide : 0 < 11) rfl
  have firstCk : (⟨.ddrCaDqsTxIoCfg, [msr.index, 0]⟩ : ArrayReg CaRegName) ∈
      Existing CaRegName.dims := sliceReg_mem msr (by decide : 0 < 1) rfl
  have caSlices := Confined.read firstCa fun value =>
    txCaSlices_existing msr cfg.tx (caDriverWord cfg.tx.caDriver value)
  have ckSlices := Confined.read firstCk fun value =>
    txCkSlices_existing msr cfg.tx (ckDriverWord cfg.tx.ckDriver value)
  have gearbox : Confined (Existing CaRegName.dims) (txCkGearboxPrep msr cfg.tx) :=
    .write (bankReg_mem msr (by rfl)) _
  exact (rxPathCa_existing msr cfg.rx).comp
    (gearbox.comp (ckSlices.comp (caSlices.comp (txPathCaRank_existing msr zqcal cfg.tx))))

end CaBlock

section CommonAndDfi

theorem commonBlockFreqSwitchPrep_existing (cfg : VrefCfg) :
    Confined (Existing CmnRegName.dims) (commonBlockFreqSwitchPrep msr cfg) := by
  have vref : (⟨.ddrCmnVrefCfg, [msr.index]⟩ : ArrayReg CmnRegName) ∈
      Existing CmnRegName.dims := bankReg_mem msr rfl
  have code : Confined (Existing CmnRegName.dims)
      (cmnVrefSetCodeRegIf msr (cfg.code.setWidth 32)) := .modifyReg vref _
  have pwrMode : Confined (Existing CmnRegName.dims)
      (cmnVrefSetPwrModeRegIf msr cfg.powerMode) := .modifyReg vref _
  exact pwrMode.comp code

theorem dfiFreqSwitchPrep_existing (cfg : DfiFreqCfg) :
    Confined (Existing DfichRegName.dims) (dfiFreqSwitchPrep msr cfg) := by
  have pipe : ∀ {name : DfichRegName} {postGbFcDly gbMode pipeEn : RegField} (part : DfiPipeCfg),
      name.dims = [2] → Confined (Existing DfichRegName.dims)
        (dfiSetPipeCfgRegIf name postGbFcDly gbMode pipeEn msr part) :=
    fun _ shape => .modifyReg (bankReg_mem msr shape) _
  repeat refine .thenWrite ?_ (bankReg_mem msr (by rfl)) _
  refine (pipe cfg.wenctrl (by rfl)).comp ?_
  refine (pipe cfg.wrc (by rfl)).comp ?_
  refine (pipe cfg.wckctrl (by rfl)).comp ?_
  refine .thenModifyReg ?_ (bankReg_mem msr (by rfl)) _
  refine (pipe cfg.rctrl (by rfl)).comp ?_
  refine (pipe cfg.wctrl (by rfl)).comp ?_
  refine (pipe cfg.ckctrl (by rfl)).comp ?_
  refine (pipe cfg.wrcctrl (by rfl)).comp ?_
  exact pipe cfg.wrd (by rfl)

end CommonAndDfi

end WavLpddr
