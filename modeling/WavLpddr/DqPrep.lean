import WavLpddr.Registers
import WavLpddr.Table

/-!
# Preparing a DQ byte for a frequency switch

The DQ byte's transmit and receive registers of one bank are written from the
frequency table.  Most registers are written outright; the receiver register
and the two driver registers keep their remaining bits.  The driver registers
of all slices receive the word computed from slice 0.
-/

namespace WavLpddr

open RegisterFile

variable [KernelIo]

/-- The value written to a phase-interpolator register. -/
def piCfgWord (code gear xcpl en : RegField) (pi : PiCfg) : Word :=
  let regVal := updateRegField 0 code (pi.code.setWidth 32)
  let regVal := updateRegField regVal gear (pi.gear.setWidth 32)
  let regVal := updateRegField regVal xcpl (pi.xcpl.setWidth 32)
  updateRegField regVal en 1

/-- The value written to a phase interpolator that has no code. -/
def matchPiCfgWord (gear xcpl en : RegField) (pi : PiCfg) : Word :=
  let regVal := updateRegField 0 gear (pi.gear.setWidth 32)
  let regVal := updateRegField regVal xcpl (pi.xcpl.setWidth 32)
  updateRegField regVal en 1

/-- The value written to a delay-element register. -/
def lpdeCfgWord (gear ctrlBin en : RegField) (lpde : LpdeCfg) : Word :=
  let regVal := updateRegField 0 gear (lpde.gear.setWidth 32)
  let regVal := updateRegField regVal ctrlBin (lpde.delay.setWidth 32)
  updateRegField regVal en 1

def rxPathDqBlockFreqSwitchPrep (msr : WddrMsr) (cfg : DqRxPathFreqCfg)
    (commonCfg : DqRxPathCommonCfg) (dqReg : DqRegs) : DqRegs :=
  forRange wddrPhyRank (fun rank dqReg => dqReg
    |> write ⟨.ddrDqDqsRxRenPiCfg, [msr.index, rank]⟩
        (piCfgWord ddrDqDqsRxRenPiM1R0CfgCode ddrDqDqsRxRenPiM1R0CfgGear
          ddrDqDqsRxRenPiM1R0CfgXcpl ddrDqDqsRxRenPiM1R0CfgEn (cfg.dqs rank).pi.ren)
    |> write ⟨.ddrDqDqsRxRcsPiCfg, [msr.index, rank]⟩
        (piCfgWord ddrDqDqsRxRcsPiM1R0CfgCode ddrDqDqsRxRcsPiM1R0CfgGear
          ddrDqDqsRxRcsPiM1R0CfgXcpl ddrDqDqsRxRcsPiM1R0CfgEn (cfg.dqs rank).pi.rcs)
    |> write ⟨.ddrDqDqsRxRdqsPi0Cfg, [msr.index, rank]⟩
        (piCfgWord ddrDqDqsRxRdqsPi0M1R0CfgCode ddrDqDqsRxRdqsPi0M1R0CfgGear
          ddrDqDqsRxRdqsPi0M1R0CfgXcpl ddrDqDqsRxRdqsPi0M1R0CfgEn
          (cfg.dqs rank).pi.rdqs)
    |> write ⟨.ddrDqDqsRxSdrLpdeCfg, [msr.index, rank]⟩
        (lpdeCfgWord ddrDqDqsRxSdrLpdeM1R0CfgGear ddrDqDqsRxSdrLpdeM1R0CfgCtrlBin
          ddrDqDqsRxSdrLpdeM1R0CfgEn (cfg.dqs rank).sdrLpde)
    -- The receiver register keeps the bits that are not configured here.
    |> modifyReg ⟨.ddrDqDqsRxIoCmnCfg, [msr.index, rank]⟩ (fun regVal =>
        let code := (commonCfg.receiver rank).code
        let receiver := (cfg.dqs rank).receiver
        let regVal := updateRegField regVal ddrDqDqsRxIoCmnM1R0CfgCalPC
          ((code .pSide .cSide).setWidth 32)
        let regVal := updateRegField regVal ddrDqDqsRxIoCmnM1R0CfgCalPT
          ((code .pSide .tSide).setWidth 32)
        let regVal := updateRegField regVal ddrDqDqsRxIoCmnM1R0CfgCalNC
          ((code .nSide .cSide).setWidth 32)
        let regVal := updateRegField regVal ddrDqDqsRxIoCmnM1R0CfgCalNT
          ((code .nSide .tSide).setWidth 32)
        let regVal := updateRegField regVal ddrDqDqsRxIoCmnM1R0CfgFbEn
          (receiver.feedbackResistor.setWidth 32)
        let regVal := updateRegField regVal ddrDqDqsRxIoCmnM1R0CfgSeMode
          receiver.mode.value
        updateRegField regVal ddrDqDqsRxIoCmnM1R0CfgDcpathEn receiver.pathState.value)
    |> write ⟨.ddrDqDqsRxIoCfg, [msr.index, rank, 1]⟩
        (let rxDelay := (cfg.dqs rank).receiver.rxDelay
        let regVal := updateRegField 0 ddrDqDqsRxIoM1R0Cfg0DlyCtrlT
          ((rxDelay .tSide).setWidth 32)
        updateRegField regVal ddrDqDqsRxIoM1R0Cfg0DlyCtrlC ((rxDelay .cSide).setWidth 32))
    |> write ⟨.ddrDqDqsRxCfg, [msr.index]⟩
        (let regVal := updateRegField 0 ddrDqDqsRxM1CfgRgbMode cfg.gearbox.dataMode.value
        let regVal := updateRegField regVal ddrDqDqsRxM1CfgFgbMode
          cfg.gearbox.fifoMode.value
        let regVal := updateRegField regVal ddrDqDqsRxM1CfgWckMode
          cfg.gearbox.wckMode.value
        updateRegField regVal ddrDqDqsRxM1CfgPreFilterSel
          (cfg.gearbox.preFilterSel.setWidth 32))
    |> write ⟨.ddrDqDqRxCfg, [msr.index]⟩
        (let regVal := updateRegField 0 ddrDqDqRxM1CfgRgbMode cfg.gearbox.dataMode.value
        updateRegField regVal ddrDqDqRxM1CfgFgbMode cfg.gearbox.fifoMode.value)) dqReg

def txBitPipelinePrepDq (msr : WddrMsr) (bitIndex : Nat) (cfg : DqTxPathFreqCfg)
    (dqReg : DqRegs) : DqRegs :=
  forRange wddrPhyRank (fun rank dqReg =>
    let pipeline := (cfg.dq rank).pipeline
    dqReg
    |> write ⟨.ddrDqDqTxSdrFcDlyCfg, [msr.index, rank, bitIndex]⟩
        (pipeline.sdr.fcDelay.setWidth 32)
    |> write ⟨.ddrDqDqTxSdrCfg, [msr.index, rank, bitIndex]⟩
        (pipeline.sdr.pipeEn.setWidth 32)
    |> write ⟨.ddrDqDqTxSdrXSelCfg, [msr.index, rank, bitIndex]⟩ pipeline.sdr.xSel
    |> write ⟨.ddrDqDqTxDdrCfg, [msr.index, rank, bitIndex]⟩
        (pipeline.ddr.pipeEn.setWidth 32)
    |> write ⟨.ddrDqDqTxDdrXSelCfg, [msr.index, rank, bitIndex]⟩ pipeline.ddr.xSel
    |> write ⟨.ddrDqDqTxQdrCfg, [msr.index, rank, bitIndex]⟩
        (pipeline.qdr.pipeEn.setWidth 32)
    |> write ⟨.ddrDqDqTxQdrXSelCfg, [msr.index, rank, bitIndex]⟩ pipeline.qdr.xSel
    |> write ⟨.ddrDqDqTxLpdeCfg, [msr.index, rank, bitIndex]⟩
        (lpdeCfgWord ddrDqDqTxLpdeM0R0Cfg0Gear ddrDqDqTxLpdeM0R0Cfg0CtrlBin
          ddrDqDqTxLpdeM0R0Cfg0En ((cfg.dq rank).lpde bitIndex))) dqReg

def txBitPipelinePrepDqs (msr : WddrMsr) (bitIndex : Nat) (cfg : DqTxPathFreqCfg)
    (dqReg : DqRegs) : DqRegs :=
  forRange wddrPhyRank (fun rank dqReg =>
    let pipeline := (cfg.dqs rank).pipeline bitIndex
    dqReg
    |> write ⟨.ddrDqDqsTxSdrFcDlyCfg, [msr.index, rank, bitIndex]⟩
        (pipeline.sdr.fcDelay.setWidth 32)
    |> write ⟨.ddrDqDqsTxSdrCfg, [msr.index, rank, bitIndex]⟩
        (pipeline.sdr.pipeEn.setWidth 32)
    |> write ⟨.ddrDqDqsTxSdrXSelCfg, [msr.index, rank, bitIndex]⟩ pipeline.sdr.xSel
    |> write ⟨.ddrDqDqsTxDdrCfg, [msr.index, rank, bitIndex]⟩
        (pipeline.ddr.pipeEn.setWidth 32)
    |> write ⟨.ddrDqDqsTxDdrXSelCfg, [msr.index, rank, bitIndex]⟩ pipeline.ddr.xSel
    |> write ⟨.ddrDqDqsTxQdrCfg, [msr.index, rank, bitIndex]⟩
        (pipeline.qdr.pipeEn.setWidth 32)
    |> write ⟨.ddrDqDqsTxQdrXSelCfg, [msr.index, rank, bitIndex]⟩ pipeline.qdr.xSel
    |> whenever (bitIndex < wddrPhyDqsTxrxSliceNum)
        (write ⟨.ddrDqDqsTxLpdeCfg, [msr.index, rank, bitIndex]⟩
          (lpdeCfgWord ddrDqDqsTxLpdeM0R0Cfg0Gear ddrDqDqsTxLpdeM0R0Cfg0CtrlBin
            ddrDqDqsTxLpdeM0R0Cfg0En ((cfg.dqs rank).lpde bitIndex)))) dqReg

/-- The per-rank registers of `tx_path_dq_block_freq_switch_prep`. -/
def txPathDqRankPrep (msr : WddrMsr) (zqcal : ZqcalCfg) (cfg : DqTxPathFreqCfg)
    (dqReg : DqRegs) : DqRegs :=
  forRange wddrPhyRank (fun rank dqReg =>
    let dq := cfg.dq rank
    let dqs := cfg.dqs rank
    dqReg
    |> write ⟨.ddrDqDqTxRtCfg, [msr.index, rank]⟩ (dq.rt.pipeEn.setWidth 32)
    |> write ⟨.ddrDqDqTxOdrPiCfg, [msr.index, rank]⟩
        (piCfgWord ddrDqDqTxOdrPiM1R0CfgCode ddrDqDqTxOdrPiM1R0CfgGear
          ddrDqDqTxOdrPiM1R0CfgXcpl ddrDqDqTxOdrPiM1R0CfgEn dq.pi.odr)
    |> write ⟨.ddrDqDqTxQdrPi0Cfg, [msr.index, rank]⟩
        (piCfgWord ddrDqDqTxQdrPi0M1R0CfgCode ddrDqDqTxQdrPi0M1R0CfgGear
          ddrDqDqTxQdrPi0M1R0CfgXcpl ddrDqDqTxQdrPi0M1R0CfgEn dq.pi.qdr)
    |> write ⟨.ddrDqDqTxDdrPi0Cfg, [msr.index, rank]⟩
        (piCfgWord ddrDqDqTxDdrPi0M1R0CfgCode ddrDqDqTxDdrPi0M1R0CfgGear
          ddrDqDqTxDdrPi0M1R0CfgXcpl ddrDqDqTxDdrPi0M1R0CfgEn dq.pi.ddr)
    |> write ⟨.ddrDqDqTxPiRtCfg, [msr.index, rank]⟩
        (piCfgWord ddrDqDqTxPiRtM1R0CfgCode ddrDqDqTxPiRtM1R0CfgGear
          ddrDqDqTxPiRtM1R0CfgXcpl ddrDqDqTxPiRtM1R0CfgEn dq.pi.rt)
    |> write ⟨.ddrDqDqsTxRtCfg, [msr.index, rank]⟩ (dqs.rt.pipeEn.setWidth 32)
    |> write ⟨.ddrDqDqsTxOdrPiCfg, [msr.index, rank]⟩
        (piCfgWord ddrDqDqsTxOdrPiM1R0CfgCode ddrDqDqsTxOdrPiM1R0CfgGear
          ddrDqDqsTxOdrPiM1R0CfgXcpl ddrDqDqsTxOdrPiM1R0CfgEn dqs.pi.odr)
    |> write ⟨.ddrDqDqsTxQdrPi0Cfg, [msr.index, rank]⟩
        (piCfgWord ddrDqDqsTxQdrPi0M1R0CfgCode ddrDqDqsTxQdrPi0M1R0CfgGear
          ddrDqDqsTxQdrPi0M1R0CfgXcpl ddrDqDqsTxQdrPi0M1R0CfgEn dqs.pi.qdr)
    |> write ⟨.ddrDqDqsTxDdrPi0Cfg, [msr.index, rank]⟩
        (piCfgWord ddrDqDqsTxDdrPi0M1R0CfgCode ddrDqDqsTxDdrPi0M1R0CfgGear
          ddrDqDqsTxDdrPi0M1R0CfgXcpl ddrDqDqsTxDdrPi0M1R0CfgEn dqs.pi.ddr)
    |> write ⟨.ddrDqDqsTxPiRtCfg, [msr.index, rank]⟩
        (piCfgWord ddrDqDqsTxPiRtM1R0CfgCode ddrDqDqsTxPiRtM1R0CfgGear
          ddrDqDqsTxPiRtM1R0CfgXcpl ddrDqDqsTxPiRtM1R0CfgEn dqs.pi.rt)
    |> write ⟨.ddrDqDqsTxSdrPiCfg, [msr.index, rank]⟩
        (matchPiCfgWord ddrDqDqsTxSdrPiM0R0CfgGear ddrDqDqsTxSdrPiM0R0CfgXcpl
          ddrDqDqsTxSdrPiM0R0CfgEn dqs.pi.sdr)
    |> write ⟨.ddrDqDqsTxDfiPiCfg, [msr.index, rank]⟩
        (matchPiCfgWord ddrDqDqsTxDfiPiM0R0CfgGear ddrDqDqsTxDfiPiM0R0CfgXcpl
          ddrDqDqsTxDfiPiM0R0CfgEn dqs.pi.dfi)
    |> write ⟨.ddrDqDqsTxIoCmnCfg, [msr.index, rank]⟩
        (let code := zqcal dqs.driver.code
        let regVal := updateRegField 0 ddrDqDqsTxIoCmnM1R0CfgNcal
          ((code .nCal).setWidth 32)
        let regVal := updateRegField regVal ddrDqDqsTxIoCmnM1R0CfgPcal
          ((code .pCal).setWidth 32)
        updateRegField regVal ddrDqDqsTxIoCmnM1R0CfgSeMode dqs.driver.mode.value)) dqReg

/-- The driver word of the DQ slices, from the old word of slice 0. -/
def dqDriverWord (driver : DriverCfg) (regVal : Word) : Word :=
  let regVal := updateRegField regVal ddrDqDqTxIoM1Cfg0OvrdSel
    (driver.override.sel.setWidth 32)
  let regVal := updateRegField regVal ddrDqDqTxIoM1Cfg0OvrdVal
    (driver.override.valT.setWidth 32)
  let regVal := updateRegField regVal ddrDqDqTxIoM1Cfg0TxImpd driver.txImpd.value
  let regVal := updateRegField regVal ddrDqDqTxIoM1Cfg0RxImpd driver.rxImpd.value
  updateRegField regVal ddrDqDqTxIoM1Cfg0SwOvr 0

/-- The driver word of the DQS slices, from the old word of slice 0. -/
def dqsDriverWord (driver : DriverCfg) (regVal : Word) : Word :=
  let regVal := updateRegField regVal ddrDqDqsTxIoM1Cfg0OvrdSel
    (driver.override.sel.setWidth 32)
  let regVal := updateRegField regVal ddrDqDqsTxIoM1Cfg0OvrdValT
    (driver.override.valT.setWidth 32)
  let regVal := updateRegField regVal ddrDqDqsTxIoM1Cfg0OvrdValC
    (driver.override.valC.setWidth 32)
  let regVal := updateRegField regVal ddrDqDqsTxIoM1Cfg0TxImpd driver.txImpd.value
  let regVal := updateRegField regVal ddrDqDqsTxIoM1Cfg0RxImpd driver.rxImpd.value
  updateRegField regVal ddrDqDqsTxIoM1Cfg0SwOvr 0

/-- The DQ slice loop, for the driver word computed before it. -/
def txDqSlicesPrep (msr : WddrMsr) (cfg : DqTxPathFreqCfg) (regVal : Word)
    (dqReg : DqRegs) : DqRegs :=
  forRange wddrPhyDqSliceNum (fun bitIndex dqReg => dqReg
    |> txBitPipelinePrepDq msr bitIndex cfg
    |> write ⟨.ddrDqDqTxIoCfg, [msr.index, bitIndex]⟩ regVal
    |> write ⟨.ddrDqDqTxEgressDigCfg, [msr.index, bitIndex]⟩ cfg.egress.digMode.value
    |> write ⟨.ddrDqDqTxEgressAnaCfg, [msr.index, bitIndex]⟩
        cfg.egress.anaMode.value) dqReg

/-- The DQS slice loop, for the driver word computed before it. -/
def txDqsSlicesPrep (msr : WddrMsr) (cfg : DqTxPathFreqCfg) (regVal : Word)
    (dqReg : DqRegs) : DqRegs :=
  forRange wddrPhyDqsSliceNum (fun bitIndex dqReg => dqReg
    |> txBitPipelinePrepDqs msr bitIndex cfg
    |> write ⟨.ddrDqDqsTxEgressDigCfg, [msr.index, bitIndex]⟩ cfg.egress.digMode.value
    |> write ⟨.ddrDqDqsTxEgressAnaCfg, [msr.index, bitIndex]⟩ cfg.egress.anaMode.value
    |> whenever (bitIndex < wddrPhyDqsTxrxSliceNum)
        (write ⟨.ddrDqDqsTxIoCfg, [msr.index, bitIndex]⟩ regVal)) dqReg

def txDqsGearboxPrep (msr : WddrMsr) (cfg : DqTxPathFreqCfg) (dqReg : DqRegs) : DqRegs :=
  dqReg
  |> write ⟨.ddrDqDqsTxCfg, [msr.index]⟩
      (let regVal := updateRegField 0 ddrDqDqsTxM1CfgTgbMode cfg.gearbox.dataMode.value
      let regVal := updateRegField regVal ddrDqDqsTxM1CfgWgbMode
        cfg.gearbox.writeMode.value
      updateRegField regVal ddrDqDqsTxM1CfgCk2wckRatio
        (cfg.gearbox.ck2wckRatio.setWidth 32))

def txPathDqBlockFreqSwitchPrep (msr : WddrMsr) (zqcal : ZqcalCfg)
    (cfg : DqTxPathFreqCfg) (dqReg : DqRegs) : DqRegs :=
  let dqReg := txPathDqRankPrep msr zqcal cfg dqReg
  let dqReg := txDqSlicesPrep msr cfg
    (dqDriverWord cfg.dqDriver (dqReg ⟨.ddrDqDqTxIoCfg, [msr.index, 0]⟩)) dqReg
  let dqReg := txDqsSlicesPrep msr cfg
    (dqsDriverWord cfg.dqsDriver (dqReg ⟨.ddrDqDqsTxIoCfg, [msr.index, 0]⟩)) dqReg
  txDqsGearboxPrep msr cfg dqReg

def dqBlockFreqSwitchPrep (msr : WddrMsr) (zqcal : ZqcalCfg) (cfg : DqPathFreqCfg)
    (commonCfg : DqRxPathCommonCfg) (dqReg : DqRegs) : DqRegs :=
  dqReg
  |> txPathDqBlockFreqSwitchPrep msr zqcal cfg.tx
  |> rxPathDqBlockFreqSwitchPrep msr cfg.rx commonCfg

section Rewrites

def txDqRankNames : List DqRegName :=
  [.ddrDqDqTxRtCfg, .ddrDqDqTxOdrPiCfg, .ddrDqDqTxQdrPi0Cfg, .ddrDqDqTxDdrPi0Cfg,
    .ddrDqDqTxPiRtCfg, .ddrDqDqsTxRtCfg, .ddrDqDqsTxOdrPiCfg, .ddrDqDqsTxQdrPi0Cfg,
    .ddrDqDqsTxDdrPi0Cfg, .ddrDqDqsTxPiRtCfg, .ddrDqDqsTxSdrPiCfg, .ddrDqDqsTxDfiPiCfg,
    .ddrDqDqsTxIoCmnCfg]

def txDqSliceNames : List DqRegName :=
  [.ddrDqDqTxSdrFcDlyCfg, .ddrDqDqTxSdrCfg, .ddrDqDqTxSdrXSelCfg, .ddrDqDqTxDdrCfg,
    .ddrDqDqTxDdrXSelCfg, .ddrDqDqTxQdrCfg, .ddrDqDqTxQdrXSelCfg, .ddrDqDqTxLpdeCfg,
    .ddrDqDqTxIoCfg, .ddrDqDqTxEgressDigCfg, .ddrDqDqTxEgressAnaCfg]

def txDqsSliceNames : List DqRegName :=
  [.ddrDqDqsTxSdrFcDlyCfg, .ddrDqDqsTxSdrCfg, .ddrDqDqsTxSdrXSelCfg, .ddrDqDqsTxDdrCfg,
    .ddrDqDqsTxDdrXSelCfg, .ddrDqDqsTxQdrCfg, .ddrDqDqsTxQdrXSelCfg,
    .ddrDqDqsTxLpdeCfg, .ddrDqDqsTxIoCfg, .ddrDqDqsTxEgressDigCfg,
    .ddrDqDqsTxEgressAnaCfg]

def rxDqNames : List DqRegName :=
  [.ddrDqDqsRxRenPiCfg, .ddrDqDqsRxRcsPiCfg, .ddrDqDqsRxRdqsPi0Cfg,
    .ddrDqDqsRxSdrLpdeCfg, .ddrDqDqsRxIoCmnCfg, .ddrDqDqsRxIoCfg, .ddrDqDqsRxCfg,
    .ddrDqDqRxCfg]

theorem rxPathDq_overwrites (msr : WddrMsr) :
    Overwrites (bankOf rxDqNames msr)
      fun (cfg : DqRxPathFreqCfg × DqRxPathCommonCfg) dqReg =>
        rxPathDqBlockFreqSwitchPrep msr cfg.1 cfg.2 dqReg := by
  refine .forRange fun rank _ => ?_
  repeat refine .thenWrite ?_ (mem_bankOf (by decide)) _
  refine .thenModifyReg ?_ (mem_bankOf (by decide)) ?_
  · repeat refine .thenWrite ?_ (mem_bankOf (by decide)) _
    exact .id
  · repeat refine wordOverwrites_updateRegField ?_ _ _
    exact .id

theorem txPathDqRank_overwrites (msr : WddrMsr) :
    Overwrites (bankOf txDqRankNames msr)
      fun (cfg : ZqcalCfg × DqTxPathFreqCfg) dqReg =>
        txPathDqRankPrep msr cfg.1 cfg.2 dqReg := by
  refine .forRange fun rank _ => ?_
  repeat refine .thenWrite ?_ (mem_bankOf (by decide)) _
  exact .id

theorem txBitPipelineDq_overwrites (msr : WddrMsr) (bitIndex : Nat) :
    Overwrites (bankOf txDqSliceNames msr)
      fun (cfg : DqTxPathFreqCfg) dqReg =>
        txBitPipelinePrepDq msr bitIndex cfg dqReg := by
  refine .forRange fun rank _ => ?_
  repeat refine .thenWrite ?_ (mem_bankOf (by decide)) _
  exact .id

theorem txBitPipelineDqs_overwrites (msr : WddrMsr) (bitIndex : Nat) :
    Overwrites (bankOf txDqsSliceNames msr)
      fun (cfg : DqTxPathFreqCfg) dqReg =>
        txBitPipelinePrepDqs msr bitIndex cfg dqReg := by
  refine .forRange fun rank _ => ?_
  refine .thenWriteWhenever ?_ (fun _ => mem_bankOf (by decide)) _
  repeat refine .thenWrite ?_ (mem_bankOf (by decide)) _
  exact .id

/-- The bit pipeline of a DQ slice leaves the driver registers alone. -/
theorem txBitPipelinePrepDq_driver (msr : WddrMsr) (bitIndex : Nat)
    (cfg : DqTxPathFreqCfg) (index : List Nat) (dqReg : DqRegs) :
    txBitPipelinePrepDq msr bitIndex cfg dqReg ⟨.ddrDqDqTxIoCfg, index⟩ =
      dqReg ⟨.ddrDqDqTxIoCfg, index⟩ :=
  forRange_observe (fun regs : DqRegs => regs ⟨.ddrDqDqTxIoCfg, index⟩)
    (fun _ _ => by simp) dqReg

theorem txBitPipelinePrepDqs_driver (msr : WddrMsr) (bitIndex : Nat)
    (cfg : DqTxPathFreqCfg) (index : List Nat) (dqReg : DqRegs) :
    txBitPipelinePrepDqs msr bitIndex cfg dqReg ⟨.ddrDqDqsTxIoCfg, index⟩ =
      dqReg ⟨.ddrDqDqsTxIoCfg, index⟩ :=
  forRange_observe (fun regs : DqRegs => regs ⟨.ddrDqDqsTxIoCfg, index⟩)
    (fun _ _ => by simp [whenever, ite_apply]) dqReg

theorem dqDriverWord_overwrites :
    WordOverwrites fun cfg : DqTxPathFreqCfg => dqDriverWord cfg.dqDriver := by
  repeat refine wordOverwrites_updateRegField ?_ _ _
  exact .id

theorem dqsDriverWord_overwrites :
    WordOverwrites fun cfg : DqTxPathFreqCfg => dqsDriverWord cfg.dqsDriver := by
  repeat refine wordOverwrites_updateRegField ?_ _ _
  exact .id

theorem txDqSlices_overwrites (msr : WddrMsr) :
    Overwrites (bankOf txDqSliceNames msr)
      fun (cfg : DqTxPathFreqCfg × Word) dqReg =>
        txDqSlicesPrep msr cfg.1 cfg.2 dqReg := by
  refine .forRange fun bitIndex _ => ?_
  refine .thenWrite ?_ (mem_bankOf (by decide)) _
  refine .thenWrite ?_ (mem_bankOf (by decide)) _
  refine .thenWrite ?_ (mem_bankOf (by decide)) _
  exact (txBitPipelineDq_overwrites msr bitIndex).comap Prod.fst

theorem txDqsSlices_overwrites (msr : WddrMsr) :
    Overwrites (bankOf txDqsSliceNames msr)
      fun (cfg : DqTxPathFreqCfg × Word) dqReg =>
        txDqsSlicesPrep msr cfg.1 cfg.2 dqReg := by
  refine .forRange fun bitIndex _ => ?_
  refine .thenWriteWhenever ?_ (fun _ => mem_bankOf (by decide)) _
  refine .thenWrite ?_ (mem_bankOf (by decide)) _
  refine .thenWrite ?_ (mem_bankOf (by decide)) _
  exact (txBitPipelineDqs_overwrites msr bitIndex).comap Prod.fst

/-- Slice 0 of the DQ driver receives the broadcast word and keeps it. -/
theorem txDqSlicesPrep_driver (msr : WddrMsr) (cfg : DqTxPathFreqCfg) (word : Word)
    (dqReg : DqRegs) :
    txDqSlicesPrep msr cfg word dqReg ⟨.ddrDqDqTxIoCfg, [msr.index, 0]⟩ = word := by
  refine forRange_at (fun regs : DqRegs => regs ⟨.ddrDqDqTxIoCfg, [msr.index, 0]⟩)
    (by decide : 0 < wddrPhyDqSliceNum) ?_ ?_ dqReg
  · intro regs
    simp
  · intro bitIndex regs laterSlice
    simp [Ne.symm laterSlice, txBitPipelinePrepDq_driver]

theorem txDqsSlicesPrep_driver (msr : WddrMsr) (cfg : DqTxPathFreqCfg) (word : Word)
    (dqReg : DqRegs) :
    txDqsSlicesPrep msr cfg word dqReg ⟨.ddrDqDqsTxIoCfg, [msr.index, 0]⟩ = word := by
  refine forRange_at (fun regs : DqRegs => regs ⟨.ddrDqDqsTxIoCfg, [msr.index, 0]⟩)
    (by decide : 0 < wddrPhyDqsSliceNum) ?_ ?_ dqReg
  · intro regs
    simp [whenever, wddrPhyDqsTxrxSliceNum]
  · intro bitIndex regs laterSlice
    by_cases driven : bitIndex < wddrPhyDqsTxrxSliceNum
    · simp [whenever, driven, Ne.symm laterSlice, txBitPipelinePrepDqs_driver]
    · simp [whenever, driven, txBitPipelinePrepDqs_driver]

/-- The DQ slice loop together with the word it broadcasts. -/
theorem txDqSlices_rewrites (msr : WddrMsr) :
    Rewrites (bankOf txDqSliceNames msr) fun (cfg : DqTxPathFreqCfg) dqReg =>
      txDqSlicesPrep msr cfg
        (dqDriverWord cfg.dqDriver (dqReg ⟨.ddrDqDqTxIoCfg, [msr.index, 0]⟩)) dqReg := by
  have broadcast := Rewrites.of_broadcast _ _ _ (mem_bankOf (by decide))
    dqDriverWord_overwrites (txDqSlices_overwrites msr) (txDqSlicesPrep_driver msr)
  exact broadcast

/-- The DQS slice loop together with the word it broadcasts. -/
theorem txDqsSlices_rewrites (msr : WddrMsr) :
    Rewrites (bankOf txDqsSliceNames msr) fun (cfg : DqTxPathFreqCfg) dqReg =>
      txDqsSlicesPrep msr cfg
        (dqsDriverWord cfg.dqsDriver (dqReg ⟨.ddrDqDqsTxIoCfg, [msr.index, 0]⟩))
        dqReg := by
  have broadcast := Rewrites.of_broadcast _ _ _ (mem_bankOf (by decide))
    dqsDriverWord_overwrites (txDqsSlices_overwrites msr) (txDqsSlicesPrep_driver msr)
  exact broadcast

/-- The registers of one bank that preparing a DQ byte touches. -/
def dqNames : List DqRegName :=
  (((txDqRankNames ++ txDqSliceNames) ++ txDqsSliceNames) ++ [.ddrDqDqsTxCfg]) ++ rxDqNames

/-- Preparing a DQ byte for one frequency and then for another leaves what
preparing it for the second alone leaves. -/
theorem dqBlockFreqSwitchPrep_rewrites (msr : WddrMsr) :
    Rewrites (bankOf dqNames msr)
      fun (cfg : ZqcalCfg × DqPathFreqCfg × DqRxPathCommonCfg) dqReg =>
        dqBlockFreqSwitchPrep msr cfg.1 cfg.2.1 cfg.2.2 dqReg := by
  have ranks := (Rewrites.of_overwrites (txPathDqRank_overwrites msr)).comap
    fun cfg : ZqcalCfg × DqPathFreqCfg × DqRxPathCommonCfg => (cfg.1, cfg.2.1.tx)
  have dqSlices := (txDqSlices_rewrites msr).comap
    fun cfg : ZqcalCfg × DqPathFreqCfg × DqRxPathCommonCfg => cfg.2.1.tx
  have dqsSlices := (txDqsSlices_rewrites msr).comap
    fun cfg : ZqcalCfg × DqPathFreqCfg × DqRxPathCommonCfg => cfg.2.1.tx
  have gearbox : Rewrites (bankOf [.ddrDqDqsTxCfg] msr)
      fun (cfg : ZqcalCfg × DqPathFreqCfg × DqRxPathCommonCfg) dqReg =>
        txDqsGearboxPrep msr cfg.2.1.tx dqReg :=
    Rewrites.of_overwrites (Overwrites.write (mem_bankOf (by decide)) _)
  have receive := (Rewrites.of_overwrites (rxPathDq_overwrites msr)).comap
    fun cfg : ZqcalCfg × DqPathFreqCfg × DqRxPathCommonCfg => (cfg.2.1.rx, cfg.2.2)
  simp only [dqNames, ← bankOf_union]
  exact receive.comp
    (gearbox.comp
      (dqsSlices.comp
        (dqSlices.comp ranks (disjoint_bankOf (by decide)))
        (by rw [bankOf_union]; exact disjoint_bankOf (by decide)))
      (by simp only [bankOf_union]; exact disjoint_bankOf (by decide)))
    (by simp only [bankOf_union]; exact disjoint_bankOf (by decide))

end Rewrites

end WavLpddr
