import WavLpddr.DqPrep

/-!
# Preparing the CA block for a frequency switch

The command/address block follows the DQ byte's pattern: plain writes from the
table, and for the CA and CK drivers one word computed from slice 0 and written
to every slice.
-/

namespace WavLpddr

open RegisterFile

variable [KernelIo]

def rxPathCaBlockFreqSwitchPrep (msr : WddrMsr) (cfg : CaRxPathFreqCfg)
    (caReg : CaRegs) : CaRegs :=
  forRange wddrPhyRank (fun rank caReg => caReg
    |> write ⟨.ddrCaDqsRxSdrLpdeCfg, [msr.index, rank]⟩
        (lpdeCfgWord ddrCaDqsRxSdrLpdeM1R0CfgGear ddrCaDqsRxSdrLpdeM1R0CfgCtrlBin
          ddrCaDqsRxSdrLpdeM1R0CfgEn (cfg.sdrLpde rank))
    |> write ⟨.ddrCaDqsRxCfg, [msr.index]⟩
        (let regVal := updateRegField 0 ddrCaDqsRxM1CfgRgbMode cfg.gearbox.dataMode.value
        let regVal := updateRegField regVal ddrCaDqsRxM1CfgFgbMode
          cfg.gearbox.fifoMode.value
        let regVal := updateRegField regVal ddrCaDqsRxM1CfgWckMode
          cfg.gearbox.wckMode.value
        updateRegField regVal ddrCaDqsRxM1CfgPreFilterSel
          (cfg.gearbox.preFilterSel.setWidth 32))
    |> write ⟨.ddrCaDqRxCfg, [msr.index]⟩
        (let regVal := updateRegField 0 ddrCaDqRxM1CfgRgbMode cfg.gearbox.dataMode.value
        updateRegField regVal ddrCaDqRxM1CfgFgbMode cfg.gearbox.fifoMode.value)) caReg

def txBitPipelinePrepCa (msr : WddrMsr) (bitIndex : Nat) (cfg : CaTxPathFreqCfg)
    (caReg : CaRegs) : CaRegs :=
  forRange wddrPhyRank (fun rank caReg =>
    let pipeline := (cfg.ca rank).pipeline
    caReg
    |> write ⟨.ddrCaDqTxSdrFcDlyCfg, [msr.index, rank, bitIndex]⟩
        (pipeline.sdr.fcDelay.setWidth 32)
    |> write ⟨.ddrCaDqTxSdrCfg, [msr.index, rank, bitIndex]⟩
        (pipeline.sdr.pipeEn.setWidth 32)
    |> write ⟨.ddrCaDqTxSdrXSelCfg, [msr.index, rank, bitIndex]⟩ pipeline.sdr.xSel
    |> write ⟨.ddrCaDqTxDdrCfg, [msr.index, rank, bitIndex]⟩
        (pipeline.ddr.pipeEn.setWidth 32)
    |> write ⟨.ddrCaDqTxDdrXSelCfg, [msr.index, rank, bitIndex]⟩ pipeline.ddr.xSel
    |> write ⟨.ddrCaDqTxQdrCfg, [msr.index, rank, bitIndex]⟩
        (pipeline.qdr.pipeEn.setWidth 32)
    |> write ⟨.ddrCaDqTxQdrXSelCfg, [msr.index, rank, bitIndex]⟩ pipeline.qdr.xSel
    -- The source uses the DQ byte's field macros here.
    |> write ⟨.ddrCaDqTxLpdeCfg, [msr.index, rank, bitIndex]⟩
        (lpdeCfgWord ddrDqDqTxLpdeM0R0Cfg0Gear ddrDqDqTxLpdeM0R0Cfg0CtrlBin
          ddrDqDqTxLpdeM0R0Cfg0En ((cfg.ca rank).lpde bitIndex))) caReg

def txBitPipelinePrepCk (msr : WddrMsr) (bitIndex : Nat) (cfg : CaTxPathFreqCfg)
    (caReg : CaRegs) : CaRegs :=
  forRange wddrPhyRank (fun rank caReg =>
    let pipeline := (cfg.ck rank).pipeline
    caReg
    |> write ⟨.ddrCaDqsTxSdrFcDlyCfg, [msr.index, rank, bitIndex]⟩
        (pipeline.sdr.fcDelay.setWidth 32)
    |> write ⟨.ddrCaDqsTxSdrCfg, [msr.index, rank, bitIndex]⟩
        (pipeline.sdr.pipeEn.setWidth 32)
    |> write ⟨.ddrCaDqsTxSdrXSelCfg, [msr.index, rank, bitIndex]⟩ pipeline.sdr.xSel
    |> write ⟨.ddrCaDqsTxDdrCfg, [msr.index, rank, bitIndex]⟩
        (pipeline.ddr.pipeEn.setWidth 32)
    |> write ⟨.ddrCaDqsTxDdrXSelCfg, [msr.index, rank, bitIndex]⟩ pipeline.ddr.xSel
    |> write ⟨.ddrCaDqsTxQdrCfg, [msr.index, rank, bitIndex]⟩
        (pipeline.qdr.pipeEn.setWidth 32)
    |> write ⟨.ddrCaDqsTxQdrXSelCfg, [msr.index, rank, bitIndex]⟩ pipeline.qdr.xSel
    |> write ⟨.ddrCaDqsTxLpdeCfg, [msr.index, rank, bitIndex]⟩
        (lpdeCfgWord ddrDqDqTxLpdeM1R0Cfg0Gear ddrDqDqTxLpdeM1R0Cfg0CtrlBin
          ddrDqDqTxLpdeM1R0Cfg0En ((cfg.ck rank).lpde bitIndex))) caReg

/-- The per-rank registers of `tx_path_ca_block_freq_switch_prep`. -/
def txPathCaRankPrep (msr : WddrMsr) (zqcal : ZqcalCfg) (cfg : CaTxPathFreqCfg)
    (caReg : CaRegs) : CaRegs :=
  forRange wddrPhyRank (fun rank caReg =>
    let ca := cfg.ca rank
    let ck := cfg.ck rank
    caReg
    |> write ⟨.ddrCaDqTxRtCfg, [msr.index, rank]⟩ (ca.rt.pipeEn.setWidth 32)
    |> write ⟨.ddrCaDqTxOdrPiCfg, [msr.index, rank]⟩
        (piCfgWord ddrCaDqTxOdrPiM1R0CfgCode ddrCaDqTxOdrPiM1R0CfgGear
          ddrCaDqTxOdrPiM1R0CfgXcpl ddrCaDqTxOdrPiM1R0CfgEn ca.pi.odr)
    |> write ⟨.ddrCaDqTxQdrPi0Cfg, [msr.index, rank]⟩
        (piCfgWord ddrCaDqTxQdrPi0M1R0CfgCode ddrCaDqTxQdrPi0M1R0CfgGear
          ddrCaDqTxQdrPi0M1R0CfgXcpl ddrCaDqTxQdrPi0M1R0CfgEn ca.pi.qdr)
    |> write ⟨.ddrCaDqTxDdrPi0Cfg, [msr.index, rank]⟩
        (piCfgWord ddrCaDqTxDdrPi0M1R0CfgCode ddrCaDqTxDdrPi0M1R0CfgGear
          ddrCaDqTxDdrPi0M1R0CfgXcpl ddrCaDqTxDdrPi0M1R0CfgEn ca.pi.ddr)
    |> write ⟨.ddrCaDqTxPiRtCfg, [msr.index, rank]⟩
        (piCfgWord ddrCaDqTxPiRtM1R0CfgCode ddrCaDqTxPiRtM1R0CfgGear
          ddrCaDqTxPiRtM1R0CfgXcpl ddrCaDqTxPiRtM1R0CfgEn ca.pi.rt)
    |> write ⟨.ddrCaDqsTxRtCfg, [msr.index, rank]⟩ (ck.rt.pipeEn.setWidth 32)
    |> write ⟨.ddrCaDqsTxOdrPiCfg, [msr.index, rank]⟩
        (piCfgWord ddrCaDqsTxOdrPiM1R0CfgCode ddrCaDqsTxOdrPiM1R0CfgGear
          ddrCaDqsTxOdrPiM1R0CfgXcpl ddrCaDqsTxOdrPiM1R0CfgEn ck.pi.odr)
    |> write ⟨.ddrCaDqsTxQdrPi0Cfg, [msr.index, rank]⟩
        (piCfgWord ddrCaDqsTxQdrPi0M1R0CfgCode ddrCaDqsTxQdrPi0M1R0CfgGear
          ddrCaDqsTxQdrPi0M1R0CfgXcpl ddrCaDqsTxQdrPi0M1R0CfgEn ck.pi.qdr)
    -- The CK DDR interpolator is programmed from the CA entry.
    |> write ⟨.ddrCaDqsTxDdrPi0Cfg, [msr.index, rank]⟩
        (piCfgWord ddrCaDqsTxDdrPi0M1R0CfgCode ddrCaDqsTxDdrPi0M1R0CfgGear
          ddrCaDqsTxDdrPi0M1R0CfgXcpl ddrCaDqsTxDdrPi0M1R0CfgEn ca.pi.ddr)
    |> write ⟨.ddrCaDqsTxPiRtCfg, [msr.index, rank]⟩
        (piCfgWord ddrCaDqsTxPiRtM1R0CfgCode ddrCaDqsTxPiRtM1R0CfgGear
          ddrCaDqsTxPiRtM1R0CfgXcpl ddrCaDqsTxPiRtM1R0CfgEn ck.pi.rt)
    |> write ⟨.ddrCaDqsTxSdrPiCfg, [msr.index, rank]⟩
        (matchPiCfgWord ddrCaDqsTxSdrPiM1R0CfgGear ddrCaDqsTxSdrPiM1R0CfgXcpl
          ddrCaDqsTxSdrPiM1R0CfgEn ck.pi.sdr)
    |> write ⟨.ddrCaDqsTxDfiPiCfg, [msr.index, rank]⟩
        (matchPiCfgWord ddrCaDqsTxDfiPiM1R0CfgGear ddrCaDqsTxDfiPiM1R0CfgXcpl
          ddrCaDqsTxDfiPiM1R0CfgEn ck.pi.dfi)
    |> write ⟨.ddrCaDqsTxIoCmnCfg, [msr.index, rank]⟩
        (let code := zqcal ck.driver.code
        let regVal := updateRegField 0 ddrCaDqsTxIoCmnM1R0CfgNcal
          ((code .nCal).setWidth 32)
        let regVal := updateRegField regVal ddrCaDqsTxIoCmnM1R0CfgPcal
          ((code .pCal).setWidth 32)
        updateRegField regVal ddrCaDqsTxIoCmnM1R0CfgSeMode ck.driver.mode.value)) caReg

/-- The driver word of the CA slices, from the old word of slice 0. -/
def caDriverWord (driver : DriverCfg) (regVal : Word) : Word :=
  let regVal := updateRegField regVal ddrCaDqTxIoM1Cfg0OvrdSel
    (driver.override.sel.setWidth 32)
  let regVal := updateRegField regVal ddrCaDqTxIoM1Cfg0OvrdVal
    (driver.override.valT.setWidth 32)
  let regVal := updateRegField regVal ddrCaDqTxIoM1Cfg0TxImpd driver.txImpd.value
  let regVal := updateRegField regVal ddrCaDqTxIoM1Cfg0RxImpd driver.rxImpd.value
  updateRegField regVal ddrCaDqTxIoM1Cfg0SwOvr 0

/-- The driver word of the CK slices, from the old word of slice 0. -/
def ckDriverWord (driver : DriverCfg) (regVal : Word) : Word :=
  let regVal := updateRegField regVal ddrCaDqsTxIoM1Cfg0OvrdSel
    (driver.override.sel.setWidth 32)
  let regVal := updateRegField regVal ddrCaDqsTxIoM1Cfg0OvrdValT
    (driver.override.valT.setWidth 32)
  let regVal := updateRegField regVal ddrCaDqsTxIoM1Cfg0OvrdValC
    (driver.override.valC.setWidth 32)
  let regVal := updateRegField regVal ddrCaDqsTxIoM1Cfg0TxImpd driver.txImpd.value
  let regVal := updateRegField regVal ddrCaDqsTxIoM1Cfg0RxImpd driver.rxImpd.value
  updateRegField regVal ddrCaDqsTxIoM1Cfg0SwOvr 0

/-- The CA slice loop, for the driver word computed before it. -/
def txCaSlicesPrep (msr : WddrMsr) (cfg : CaTxPathFreqCfg) (regVal : Word)
    (caReg : CaRegs) : CaRegs :=
  forRange wddrPhyCaSliceNum (fun bitIndex caReg => caReg
    |> txBitPipelinePrepCa msr bitIndex cfg
    |> write ⟨.ddrCaDqTxIoCfg, [msr.index, bitIndex]⟩ regVal
    |> write ⟨.ddrCaDqTxEgressDigCfg, [msr.index, bitIndex]⟩ cfg.egress.digMode.value
    |> write ⟨.ddrCaDqTxEgressAnaCfg, [msr.index, bitIndex]⟩
        cfg.egress.anaMode.value) caReg

/-- The CK slice loop, for the driver word computed before it. -/
def txCkSlicesPrep (msr : WddrMsr) (cfg : CaTxPathFreqCfg) (regVal : Word)
    (caReg : CaRegs) : CaRegs :=
  forRange wddrPhyCkSliceNum (fun bitIndex caReg => caReg
    |> txBitPipelinePrepCk msr bitIndex cfg
    |> write ⟨.ddrCaDqsTxIoCfg, [msr.index, bitIndex]⟩ regVal
    |> write ⟨.ddrCaDqsTxEgressDigCfg, [msr.index, bitIndex]⟩ cfg.egress.digMode.value
    |> write ⟨.ddrCaDqsTxEgressAnaCfg, [msr.index, bitIndex]⟩
        cfg.egress.anaMode.value) caReg

def txCkGearboxPrep (msr : WddrMsr) (cfg : CaTxPathFreqCfg) (caReg : CaRegs) : CaRegs :=
  caReg
  |> write ⟨.ddrCaDqsTxCfg, [msr.index]⟩
      (let regVal := updateRegField 0 ddrCaDqsTxM1CfgTgbMode cfg.gearbox.dataMode.value
      let regVal := updateRegField regVal ddrCaDqsTxM1CfgWgbMode
        cfg.gearbox.writeMode.value
      updateRegField regVal ddrCaDqsTxM1CfgCk2wckRatio
        (cfg.gearbox.ck2wckRatio.setWidth 32))

def txPathCaBlockFreqSwitchPrep (msr : WddrMsr) (zqcal : ZqcalCfg)
    (cfg : CaTxPathFreqCfg) (caReg : CaRegs) : CaRegs :=
  let caReg := txPathCaRankPrep msr zqcal cfg caReg
  let caReg := txCaSlicesPrep msr cfg
    (caDriverWord cfg.caDriver (caReg ⟨.ddrCaDqTxIoCfg, [msr.index, 0]⟩)) caReg
  let caReg := txCkSlicesPrep msr cfg
    (ckDriverWord cfg.ckDriver (caReg ⟨.ddrCaDqsTxIoCfg, [msr.index, 0]⟩)) caReg
  txCkGearboxPrep msr cfg caReg

def caBlockFreqSwitchPrep (msr : WddrMsr) (zqcal : ZqcalCfg) (cfg : CaPathFreqCfg)
    (caReg : CaRegs) : CaRegs :=
  caReg
  |> txPathCaBlockFreqSwitchPrep msr zqcal cfg.tx
  |> rxPathCaBlockFreqSwitchPrep msr cfg.rx

section Rewrites

def txCaRankNames : List CaRegName :=
  [.ddrCaDqTxRtCfg, .ddrCaDqTxOdrPiCfg, .ddrCaDqTxQdrPi0Cfg, .ddrCaDqTxDdrPi0Cfg,
    .ddrCaDqTxPiRtCfg, .ddrCaDqsTxRtCfg, .ddrCaDqsTxOdrPiCfg, .ddrCaDqsTxQdrPi0Cfg,
    .ddrCaDqsTxDdrPi0Cfg, .ddrCaDqsTxPiRtCfg, .ddrCaDqsTxSdrPiCfg, .ddrCaDqsTxDfiPiCfg,
    .ddrCaDqsTxIoCmnCfg]

def txCaSliceNames : List CaRegName :=
  [.ddrCaDqTxSdrFcDlyCfg, .ddrCaDqTxSdrCfg, .ddrCaDqTxSdrXSelCfg, .ddrCaDqTxDdrCfg,
    .ddrCaDqTxDdrXSelCfg, .ddrCaDqTxQdrCfg, .ddrCaDqTxQdrXSelCfg, .ddrCaDqTxLpdeCfg,
    .ddrCaDqTxIoCfg, .ddrCaDqTxEgressDigCfg, .ddrCaDqTxEgressAnaCfg]

def txCkSliceNames : List CaRegName :=
  [.ddrCaDqsTxSdrFcDlyCfg, .ddrCaDqsTxSdrCfg, .ddrCaDqsTxSdrXSelCfg, .ddrCaDqsTxDdrCfg,
    .ddrCaDqsTxDdrXSelCfg, .ddrCaDqsTxQdrCfg, .ddrCaDqsTxQdrXSelCfg,
    .ddrCaDqsTxLpdeCfg, .ddrCaDqsTxIoCfg, .ddrCaDqsTxEgressDigCfg,
    .ddrCaDqsTxEgressAnaCfg]

def rxCaNames : List CaRegName :=
  [.ddrCaDqsRxSdrLpdeCfg, .ddrCaDqsRxCfg, .ddrCaDqRxCfg]

theorem rxPathCa_overwrites (msr : WddrMsr) :
    Overwrites (bankOf rxCaNames msr)
      fun (cfg : CaRxPathFreqCfg) caReg => rxPathCaBlockFreqSwitchPrep msr cfg caReg := by
  refine .forRange fun rank _ => ?_
  repeat refine .thenWrite ?_ (mem_bankOf (by decide)) _
  exact .id

theorem txPathCaRank_overwrites (msr : WddrMsr) :
    Overwrites (bankOf txCaRankNames msr)
      fun (cfg : ZqcalCfg × CaTxPathFreqCfg) caReg =>
        txPathCaRankPrep msr cfg.1 cfg.2 caReg := by
  refine .forRange fun rank _ => ?_
  repeat refine .thenWrite ?_ (mem_bankOf (by decide)) _
  exact .id

theorem txBitPipelineCa_overwrites (msr : WddrMsr) (bitIndex : Nat) :
    Overwrites (bankOf txCaSliceNames msr)
      fun (cfg : CaTxPathFreqCfg) caReg =>
        txBitPipelinePrepCa msr bitIndex cfg caReg := by
  refine .forRange fun rank _ => ?_
  repeat refine .thenWrite ?_ (mem_bankOf (by decide)) _
  exact .id

theorem txBitPipelineCk_overwrites (msr : WddrMsr) (bitIndex : Nat) :
    Overwrites (bankOf txCkSliceNames msr)
      fun (cfg : CaTxPathFreqCfg) caReg =>
        txBitPipelinePrepCk msr bitIndex cfg caReg := by
  refine .forRange fun rank _ => ?_
  repeat refine .thenWrite ?_ (mem_bankOf (by decide)) _
  exact .id

/-- The bit pipeline of a CA slice leaves the driver registers alone. -/
theorem txBitPipelinePrepCa_driver (msr : WddrMsr) (bitIndex : Nat)
    (cfg : CaTxPathFreqCfg) (index : List Nat) (caReg : CaRegs) :
    txBitPipelinePrepCa msr bitIndex cfg caReg ⟨.ddrCaDqTxIoCfg, index⟩ =
      caReg ⟨.ddrCaDqTxIoCfg, index⟩ :=
  forRange_observe (fun regs : CaRegs => regs ⟨.ddrCaDqTxIoCfg, index⟩)
    (fun _ _ => by simp) caReg

theorem txBitPipelinePrepCk_driver (msr : WddrMsr) (bitIndex : Nat)
    (cfg : CaTxPathFreqCfg) (index : List Nat) (caReg : CaRegs) :
    txBitPipelinePrepCk msr bitIndex cfg caReg ⟨.ddrCaDqsTxIoCfg, index⟩ =
      caReg ⟨.ddrCaDqsTxIoCfg, index⟩ :=
  forRange_observe (fun regs : CaRegs => regs ⟨.ddrCaDqsTxIoCfg, index⟩)
    (fun _ _ => by simp) caReg

theorem caDriverWord_overwrites :
    WordOverwrites fun cfg : CaTxPathFreqCfg => caDriverWord cfg.caDriver := by
  repeat refine wordOverwrites_updateRegField ?_ _ _
  exact .id

theorem ckDriverWord_overwrites :
    WordOverwrites fun cfg : CaTxPathFreqCfg => ckDriverWord cfg.ckDriver := by
  repeat refine wordOverwrites_updateRegField ?_ _ _
  exact .id

theorem txCaSlices_overwrites (msr : WddrMsr) :
    Overwrites (bankOf txCaSliceNames msr)
      fun (cfg : CaTxPathFreqCfg × Word) caReg =>
        txCaSlicesPrep msr cfg.1 cfg.2 caReg := by
  refine .forRange fun bitIndex _ => ?_
  refine .thenWrite ?_ (mem_bankOf (by decide)) _
  refine .thenWrite ?_ (mem_bankOf (by decide)) _
  refine .thenWrite ?_ (mem_bankOf (by decide)) _
  exact (txBitPipelineCa_overwrites msr bitIndex).comap Prod.fst

theorem txCkSlices_overwrites (msr : WddrMsr) :
    Overwrites (bankOf txCkSliceNames msr)
      fun (cfg : CaTxPathFreqCfg × Word) caReg =>
        txCkSlicesPrep msr cfg.1 cfg.2 caReg := by
  refine .forRange fun bitIndex _ => ?_
  refine .thenWrite ?_ (mem_bankOf (by decide)) _
  refine .thenWrite ?_ (mem_bankOf (by decide)) _
  refine .thenWrite ?_ (mem_bankOf (by decide)) _
  exact (txBitPipelineCk_overwrites msr bitIndex).comap Prod.fst

/-- Slice 0 of the CA driver receives the broadcast word and keeps it. -/
theorem txCaSlicesPrep_driver (msr : WddrMsr) (cfg : CaTxPathFreqCfg) (word : Word)
    (caReg : CaRegs) :
    txCaSlicesPrep msr cfg word caReg ⟨.ddrCaDqTxIoCfg, [msr.index, 0]⟩ = word := by
  refine forRange_at (fun regs : CaRegs => regs ⟨.ddrCaDqTxIoCfg, [msr.index, 0]⟩)
    (by decide : 0 < wddrPhyCaSliceNum) ?_ ?_ caReg
  · intro regs
    simp
  · intro bitIndex regs laterSlice
    simp [Ne.symm laterSlice, txBitPipelinePrepCa_driver]

theorem txCkSlicesPrep_driver (msr : WddrMsr) (cfg : CaTxPathFreqCfg) (word : Word)
    (caReg : CaRegs) :
    txCkSlicesPrep msr cfg word caReg ⟨.ddrCaDqsTxIoCfg, [msr.index, 0]⟩ = word := by
  refine forRange_at (fun regs : CaRegs => regs ⟨.ddrCaDqsTxIoCfg, [msr.index, 0]⟩)
    (by decide : 0 < wddrPhyCkSliceNum) ?_ ?_ caReg
  · intro regs
    simp
  · intro bitIndex regs laterSlice
    simp [Ne.symm laterSlice, txBitPipelinePrepCk_driver]

/-- The CA slice loop together with the word it broadcasts. -/
theorem txCaSlices_rewrites (msr : WddrMsr) :
    Rewrites (bankOf txCaSliceNames msr) fun (cfg : CaTxPathFreqCfg) caReg =>
      txCaSlicesPrep msr cfg
        (caDriverWord cfg.caDriver (caReg ⟨.ddrCaDqTxIoCfg, [msr.index, 0]⟩)) caReg := by
  have broadcast := Rewrites.of_broadcast _ _ _ (mem_bankOf (by decide))
    caDriverWord_overwrites (txCaSlices_overwrites msr) (txCaSlicesPrep_driver msr)
  exact broadcast

/-- The CK slice loop together with the word it broadcasts. -/
theorem txCkSlices_rewrites (msr : WddrMsr) :
    Rewrites (bankOf txCkSliceNames msr) fun (cfg : CaTxPathFreqCfg) caReg =>
      txCkSlicesPrep msr cfg
        (ckDriverWord cfg.ckDriver (caReg ⟨.ddrCaDqsTxIoCfg, [msr.index, 0]⟩)) caReg := by
  have broadcast := Rewrites.of_broadcast _ _ _ (mem_bankOf (by decide))
    ckDriverWord_overwrites (txCkSlices_overwrites msr) (txCkSlicesPrep_driver msr)
  exact broadcast

/-- The registers of one bank that preparing the CA block touches. -/
def caNames : List CaRegName :=
  (((txCaRankNames ++ txCaSliceNames) ++ txCkSliceNames) ++ [.ddrCaDqsTxCfg]) ++ rxCaNames

/-- Preparing the CA block for one frequency and then for another leaves what
preparing it for the second alone leaves. -/
theorem caBlockFreqSwitchPrep_rewrites (msr : WddrMsr) :
    Rewrites (bankOf caNames msr)
      fun (cfg : ZqcalCfg × CaPathFreqCfg) caReg =>
        caBlockFreqSwitchPrep msr cfg.1 cfg.2 caReg := by
  have ranks := (Rewrites.of_overwrites (txPathCaRank_overwrites msr)).comap
    fun cfg : ZqcalCfg × CaPathFreqCfg => (cfg.1, cfg.2.tx)
  have caSlices := (txCaSlices_rewrites msr).comap
    fun cfg : ZqcalCfg × CaPathFreqCfg => cfg.2.tx
  have ckSlices := (txCkSlices_rewrites msr).comap
    fun cfg : ZqcalCfg × CaPathFreqCfg => cfg.2.tx
  have gearbox : Rewrites (bankOf [.ddrCaDqsTxCfg] msr)
      fun (cfg : ZqcalCfg × CaPathFreqCfg) caReg => txCkGearboxPrep msr cfg.2.tx caReg :=
    Rewrites.of_overwrites (Overwrites.write (mem_bankOf (by decide)) _)
  have receive := (Rewrites.of_overwrites (rxPathCa_overwrites msr)).comap
    fun cfg : ZqcalCfg × CaPathFreqCfg => cfg.2.rx
  simp only [caNames, ← bankOf_union]
  exact receive.comp
    (gearbox.comp
      (ckSlices.comp
        (caSlices.comp ranks (disjoint_bankOf (by decide)))
        (by rw [bankOf_union]; exact disjoint_bankOf (by decide)))
      (by simp only [bankOf_union]; exact disjoint_bankOf (by decide)))
    (by simp only [bankOf_union]; exact disjoint_bankOf (by decide))

end Rewrites

end WavLpddr
