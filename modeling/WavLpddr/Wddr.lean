import Mathlib.Tactic.Simps.Basic
import WavLpddr.Channel
import WavLpddr.Cmn
import WavLpddr.DfiBuffer
import WavLpddr.DfiInterface
import WavLpddr.FswCtrl
import WavLpddr.Pll

/-!
# The WDDR device

Initialisation, boot, preparation of a frequency switch, the software switch and
the impedance update.  The device record holds the drivers' own state together
with the blocks they drive and the interrupt controller.  What the hardware
reports is an input of each operation.
-/

namespace WavLpddr

open RegisterFile

/-- The interrupt lines with a handler in the modelled code. -/
inductive IrqLine
  | initStart | initComplete | pll | ctrlupdReq | phyupdAck | phymstrAck
deriving DecidableEq, Repr

/-- The sources with a bit in the fast-interrupt registers. -/
inductive DdrIrq
  | initStart | initComplete | ctrlupdReqAssertion | ctrlupdReqDeassertion
  | phyupdAck | phymstrAck
deriving DecidableEq, Repr

/-- The interrupt controller.  A register with one bit for each source is kept as
a function of the source. -/
structure Irq where
  enabled : IrqLine → Bool
  /-- `WAV_MCU_IRQ_FAST_MSK_CFG` -/
  mask : DdrIrq → Bool
  /-- `WAV_MCU_IRQ_FAST_STICKY_CFG` -/
  sticky : DdrIrq → Bool
  /-- `WAV_MCU_IRQ_FAST_STA` -/
  status : DdrIrq → Bool

namespace Irq

def setMask (value : Bool) (sources : List DdrIrq) (irq : Irq) : Irq :=
  { irq with mask := fun source => if source ∈ sources then value else irq.mask source }

def setSticky (sources : List DdrIrq) (irq : Irq) : Irq :=
  { irq with sticky := fun source => if source ∈ sources then true else irq.sticky source }

/-- A write of the clear register and the write of zero that follows it. -/
def clear (sources : List DdrIrq) (irq : Irq) : Irq :=
  { irq with status := fun source => if source ∈ sources then false else irq.status source }

def enableIrq (line : IrqLine) (irq : Irq) : Irq :=
  { irq with enabled := Function.update irq.enabled line true }

def disableIrq (line : IrqLine) (irq : Irq) : Irq :=
  { irq with enabled := Function.update irq.enabled line false }

/-- The switch request can interrupt. -/
def armed (irq : Irq) : Bool := irq.enabled .initStart && !irq.mask .initStart

/-- Registering a handler also enables the line. -/
def requestIrq (line : IrqLine) (irq : Irq) : Irq :=
  irq.enableIrq line

end Irq

/-- `fsw_dev_t.mode` -/
inductive FswMode
  | sw | dfi
deriving DecidableEq, Repr

/-- `wddr_dev_t`, the blocks it drives and the interrupt controller. -/
structure Wddr where
  isBooted : Bool
  fswMode : FswMode
  pll : Pll
  phy : PhyRegs
  dfich : DfiChannel
  dfi : DfiRegs
  fsw : FswRegs
  ctrl : CtrlRegs
  table : WddrTable
  /-- The frequency whose table entry `dram.cfg` points to. -/
  dramCfg : UInt8
  irq : Irq

/-- What the hardware reports to the operations. -/
structure HwStatus where
  /-- `DDR_FSW_CTRL_STA.CMN_MSR` -/
  currentMsr : WddrMsr
  /-- The band status after calibrating a VCO for a frequency. -/
  fllBandStatus : UInt8 → VcoIndex → Word
  zqcal : ZqcalComparator
  /-- The sense-amplifier comparators, by channel, byte, slice and amplifier. -/
  sensamp : Nat → Nat → Nat → SensampIndex → SaComparator
  /-- Heap exhaustion while the priming packets are allocated. -/
  heapFails : Nat → Bool

section Options

variable [KernelIo]

/-- `wddr_boot_cfg_t` -/
abbrev WddrBootCfg := Word

def wddrBootConfigNone : WddrBootCfg := 0

def wddrBootOptionPllCal : RegField := ⟨0x1, 0⟩

def wddrBootOptionZqcalCal : RegField := ⟨0x2, 1⟩

def wddrBootOptionSaCal : RegField := ⟨0x4, 2⟩

def wddrBootOptionTrainDram : RegField := ⟨0x8, 3⟩

def updateBootOption (cfg : WddrBootCfg) (option : RegField) (value : Bool) : WddrBootCfg :=
  updateRegField cfg option (boolWord value)

def getBootOption (cfg : WddrBootCfg) (option : RegField) : Bool :=
  getRegField cfg option != 0

end Options

namespace Wddr

/-- Run an update on the DDR blocks of the PHY. -/
@[simps -fullyApplied]
def onPhy (update : PhyRegs → PhyRegs) (wddr : Wddr) : Wddr :=
  { wddr with phy := update wddr.phy }

@[simps -fullyApplied]
def onCmn (update : CmnRegs → CmnRegs) (wddr : Wddr) : Wddr :=
  { wddr with phy := { wddr.phy with cmn := update wddr.phy.cmn } }

@[simps -fullyApplied]
def onFsw (update : FswRegs → FswRegs) (wddr : Wddr) : Wddr :=
  { wddr with fsw := update wddr.fsw }

@[simps -fullyApplied]
def onDfi (update : DfiRegs → DfiRegs) (wddr : Wddr) : Wddr :=
  { wddr with dfi := update wddr.dfi }

@[simps -fullyApplied]
def onDfich (update : DfiChannel → DfiChannel) (wddr : Wddr) : Wddr :=
  { wddr with dfich := update wddr.dfich }

@[simps -fullyApplied]
def onPll (update : Pll → Pll) (wddr : Wddr) : Wddr :=
  { wddr with pll := update wddr.pll }

@[simps -fullyApplied]
def onIrq (update : Irq → Irq) (wddr : Wddr) : Wddr :=
  { wddr with irq := update wddr.irq }

section Init

variable [KernelIo]

@[simps -fullyApplied]
def fswInit (wddr : Wddr) : Wddr :=
  { wddr with
    fswMode := .sw
    irq := wddr.irq
      |>.setMask true [.initStart, .initComplete]
      |>.requestIrq .initStart
      |>.requestIrq .initComplete
      |>.setSticky [.initStart, .initComplete] }

def dfiFifoSetWdataHoldRegIf (enable : Bool) : DfiChannel → DfiChannel :=
  DfiChannel.modifyTop1 fun regVal =>
    updateRegField regVal ddrDfichTop1CfgWdataHold (boolWord enable)

@[simps -fullyApplied]
def dfiInit (wddr : Wddr) : Wddr :=
  { wddr with
    dfich := dfiFifoSetWdataHoldRegIf true wddr.dfich
    irq := wddr.irq
      |>.requestIrq .phymstrAck
      |>.requestIrq .phyupdAck
      |>.requestIrq .ctrlupdReq
      |>.disableIrq .phymstrAck
      |>.disableIrq .phyupdAck
      |>.setSticky [.phyupdAck, .phymstrAck, .ctrlupdReqAssertion, .ctrlupdReqDeassertion] }

/-- `wddr_init`.  The register pointers it computes are the blocks of the record. -/
def wddrInit (table : WddrTable) (wddr : Wddr) : Wddr :=
  let wddr := wddr.fswInit
  let wddr := wddr.onPll (Pll.pllInit wddrMemoryMapPll)
  let wddr := wddr.onIrq (Irq.requestIrq .pll)
  let wddr := wddr.onCmn cmnEnable
  let wddr := wddr.onPll Pll.pllBoot
  let wddr := { wddr with
    ctrl := wddr.ctrl
      |> ctrlClkSetPllClkEnRegIf true
      |> ctrlClkSetMcuGfmSelRegIf .pllVco0 }
  let wddr := wddr.onCmn (cmnClkCtrlSetPll0DivClkRstRegIf false)
  let wddr := wddr.onCmn (cmnClkCtrlSetGfcmEnRegIf true)
  let wddr := wddr.onFsw (fswCspSetClkDisableOverValRegIf false)
  let wddr := wddr.onCmn (cmnClkCtrlSetPll0DivClkEnRegIf true)
  let wddr := { wddr with isBooted := false, table := table }
  let wddr := wddr.dfiInit
  { wddr with dramCfg := wddrPhyBootFreq }

end Init

section PrepSwitch

variable [KernelIo] [Device]

/-- `wddr_configure_phy` -/
def wddrConfigurePhy (freqId : UInt8) (msr : WddrMsr) (wddr : Wddr) : Except Fault Wddr := do
  let cfg ← wddr.table.freqAt freqId
  pure { wddr with
    phy := configurePhyRegs msr wddr.table.common cfg wddr.phy
    dfich := { wddr.dfich with regs := dfiFreqSwitchPrep msr cfg.dfi wddr.dfich.regs } }

/-- The packets are laid out at the ratio of the entry that `dram.cfg` points to,
and what the FIFO returns is ignored. -/
def wddrPrepFreqSwitchMrwUpdate (dramCfg : DramFreqCfg) (wddr : Wddr) :
    Except Fault Wddr := do
  let current ← wddr.table.freqAt wddr.dramCfg
  pure (wddr.onDfich fun dfich =>
    (dfich.dfiBufferFillPackets (mrwUpdatePackets current.dram.ratio dramCfg)).2)

def wddrPrepSwitch (freqId : UInt8) (msr : WddrMsr) (wddr : Wddr) :
    Except Fault (WddrReturn × Wddr) :=
  if wddr.table.validFreq freqId then do
    let wddr ← wddr.wddrConfigurePhy freqId msr
    let cfg ← wddr.table.freqAt freqId
    let wddr ← wddr.wddrPrepFreqSwitchMrwUpdate cfg.dram
    let pll ← wddr.pll.pllPrepareVcoSwitch freqId cfg.pll
    pure (.wddrSuccess, { wddr with pll := pll })
  else pure (.wddrError, wddr)

end PrepSwitch

section Iocal

variable [KernelIo]

/-- The two driver codes of one channel and rank, for `wddr_iocal_update_phy`. -/
def iocalUpdateRank (msr : WddrMsr) (zqcal : ZqcalCfg) (cfg : ChannelFreqCfg)
    (channel rank : Nat) (phy : PhyRegs) : PhyRegs :=
  { phy with
    ca := Function.update phy.ca channel
      (caDqsDriverSetCodeRegIf msr rank (zqcal (cfg.ca.tx.ck rank).driver.code)
        (phy.ca channel))
    dq := Function.update phy.dq channel
      (forRange wddrPhyDqByteNum (fun byte bytes =>
        Function.update bytes byte
          (dqDqsDriverSetCodeRegIf msr rank
            (zqcal ((cfg.dq byte).tx.dqs rank).driver.code) (bytes byte)))
        (phy.dq channel)) }

/-- `wddr_iocal_update_phy` indexes the table with the running VCO's frequency. -/
def wddrIocalUpdatePhy (hw : HwStatus) (wddr : Wddr) : Except Fault Wddr := do
  let freqId ← wddr.pll.pllGetCurrentFreq
  let cfg ← wddr.table.freqAt freqId
  pure (wddr.onPhy (forRange wddrPhyChannelNum fun channel =>
    forRange wddrPhyRank fun rank =>
      iocalUpdateRank hw.currentMsr wddr.table.common.zqcal (cfg.channel channel) channel
        rank))

def wddrIocalCalibrate [BuildConfig] (hw : HwStatus) (wddr : Wddr) : Except Fault Wddr := do
  let (ret, zqcal, cmn) := cmnZqcalCalibrate hw.zqcal (wddr.table.common.zqcal, wddr.phy.cmn)
  configASSERT .wddrIocalCalibrate (ret = .wddrSuccess)
  pure { wddr with
    table := { wddr.table with common := { wddr.table.common with zqcal := zqcal } }
    phy := { wddr.phy with cmn := cmn } }

end Iocal

section Boot

variable [KernelIo] [BuildConfig]

/-- `wddr_sw_freq_switch`.  The wait for the PLL to be ready is taken to return. -/
def wddrSwFreqSwitch (freqId : UInt8) (msr : WddrMsr) (wddr : Wddr) :
    Except Fault (WddrReturn × Wddr) :=
  if wddr.isBooted then pure (.wddrError, wddr)
  else do
    let wddr := wddr.onFsw (fswCtrlSetMsrToggleEnRegIf false)
    let cfg ← wddr.table.freqAt freqId
    let pll ← wddr.pll.pllPrepareVcoSwitch freqId cfg.pll
    let nextVco ← pll.pllGetNextVco
    configASSERT .wddrSwFreqSwitch (nextVco ≠ Pll.undefinedVcoId)
    let wddr := wddr.onFsw (fswCtrlSetMsrVcoOvrValRegIf msr nextVco)
    let wddr := wddr.onFsw (fswCtrlSetMsrVcoOvrRegIf true)
    let pll := (pll.pllSwitchVco true).2
    let wddr := wddr.onFsw (fswCtrlSetMsrToggleEnRegIf true)
    pure (.wddrSuccess, { wddr with pll := pll.pllDisableVco })

/-- The loop at the end of `wddr_boot` that switches until PHY VCO 1 runs. -/
def alignVco : Nat → Wddr → Except Fault Wddr
  | 0, _ => .error .nonTermination
  | fuel + 1, wddr => do
      let currentVcoId ← wddr.pll.pllGetCurrentVco
      if currentVcoId = VcoIndex.phy1.id then pure wddr
      else
        let (_, wddr) ← wddr.wddrSwFreqSwitch wddrPhyBootFreq .msr0
        alignVco fuel wddr

/-- `fsw_switch_to_dfi_mode`.  The wait for `init_start` to be low is taken to
return. -/
def fswSwitchToDfiMode (wddr : Wddr) : Wddr :=
  if wddr.fswMode = .dfi then wddr
  else
    let wddr := wddr.onFsw (fswCtrlSetMsrVcoOvrValRegIf .msr0 VcoIndex.phy1.id)
    let wddr := wddr.onFsw (fswCtrlSetMsrVcoOvrRegIf false)
    let wddr := wddr.onDfi (dfiSetInitCompleteOvrRegIf false false)
    let wddr := wddr.onDfi (dfiSetInitStartOvrRegIf false false)
    let wddr := wddr.onIrq fun irq => irq
      |>.disableIrq .initStart
      |>.disableIrq .initComplete
      |>.setMask false [.initStart, .initComplete]
      |>.clear [.initStart, .initComplete]
    { wddr with fswMode := .dfi }

/-- One turn of the loop that calibrates all frequencies. -/
def calibrateFreq (hw : HwStatus) (wddr : Wddr) (freqId : UInt8) : Except Fault Wddr := do
  let cfg ← wddr.table.freqAt freqId
  let (pllCfg, pll) := wddr.pll.pllCalibrateVco (hw.fllBandStatus freqId) cfg.pll
  pure { wddr with
    pll := pll
    table := { wddr.table with
      freq := Function.update wddr.table.freq freqId.toNat { cfg with pll := pllCfg } } }

/-- Set the receive gearboxes of one byte for bank 0. -/
def setRxGb (channel byte : Nat) (cfg : RxGbCfg) (wddr : Wddr) : Wddr :=
  wddr.onPhy fun phy =>
    { phy with
      dq := Function.update phy.dq channel (Function.update (phy.dq channel) byte
        (dqDqsRxGbSetModeRegIf .msr0 cfg
          (dqDqRxGbSetModeRegIf .msr0 cfg (phy.dq channel byte)))) }

/-- One byte's turn of the sense-amplifier loop.  On an error the gearboxes keep
their calibration settings. -/
def senseAmpByte (hw : HwStatus) (calibrate : Bool) (rxGb : RxGbCfg) (channel byte : Nat)
    (wddr : Wddr) : WddrReturn × Wddr :=
  let wddr := wddr.setRxGb channel byte calibrationRxGb
  let rx := wddr.table.common.dqRx channel byte
  let (ret, sa, dqReg) := channelRxSaDqbyteConfigure (hw.sensamp channel byte) calibrate
    (rx.sa, wddr.phy.dq channel byte)
  let wddr := { wddr with
    table := { wddr.table with
      common := { wddr.table.common with
        dqRx := Function.update wddr.table.common.dqRx channel
          (Function.update (wddr.table.common.dqRx channel) byte { rx with sa := sa }) } }
    phy := { wddr.phy with
      dq := Function.update wddr.phy.dq channel
        (Function.update (wddr.phy.dq channel) byte dqReg) } }
  match ret with
  | .wddrSuccess => (.wddrSuccess, wddr.setRxGb channel byte rxGb)
  | failure => (failure, wddr)

/-- One channel's turn of the sense-amplifier loop.  On an error the chip select
stays overridden. -/
def senseAmpChannel (hw : HwStatus) (calibrate : Bool) (cfg : WddrFreqCfg) (channel : Nat)
    (wddr : Wddr) : WddrReturn × Wddr :=
  let wddr := wddr.onPhy (wddrSetChipSelectRegIf channel 0 true)
  match propagateErrors (fun byte =>
      senseAmpByte hw calibrate ((cfg.channel channel).dq byte).rx.gearbox channel byte)
    (List.range wddrPhyDqByteNum) wddr with
  | (.wddrSuccess, wddr) =>
      (.wddrSuccess, wddr.onPhy (wddrSetChipSelectRegIf channel 0 false))
  | (failure, wddr) => (failure, wddr)

/-- Training is supplied by the product; the repository's own version succeeds. -/
def wddrTrain (wddr : Wddr) : WddrReturn × Wddr :=
  (.wddrSuccess, wddr)

variable [Device]

/-- `wddr_dfi_buffer_flush` -/
def wddrDfiBufferFlush (wddr : Wddr) : Wddr :=
  wddr.onDfich fun dfich =>
    (dfich.dfiBufferFillAndSendPackets flushPackets).2.dfiBufferDisable

/-- `wddr_dfi_buffer_prime` -/
def wddrDfiBufferPrime (hw : HwStatus) (wddr : Wddr) : Wddr :=
  wddr.onDfich fun dfich =>
    (dfich.dfiBufferFillAndSendPackets (primePackets hw.heapFails)).2.dfiBufferDisable

/-- The calibration of all frequencies, when the options ask for it. -/
def bootPllCal (hw : HwStatus) (bootCfg : WddrBootCfg) (wddr : Wddr) : Except Fault Wddr :=
  if getBootOption bootCfg wddrBootOptionPllCal then
    ((List.range wddrPhyValidFreqNum).map UInt8.ofNat).foldlM (calibrateFreq hw) wddr
  else pure wddr

/-- The impedance calibration, when the options ask for it. -/
def bootZqcalCal (hw : HwStatus) (bootCfg : WddrBootCfg) (wddr : Wddr) : Except Fault Wddr :=
  if getBootOption bootCfg wddrBootOptionZqcalCal then do
    let wddr ← wddr.wddrIocalCalibrate hw
    wddr.wddrIocalUpdatePhy hw
  else pure wddr

/-- The part of `wddr_boot` up to the sense amplifiers: calibrate the VCOs, bring
the PHY to the boot frequency and flush it. -/
def wddrBootSetup (hw : HwStatus) (bootCfg : WddrBootCfg) (wddr : Wddr) :
    Except Fault Wddr := do
  let wddr ← wddr.bootPllCal hw bootCfg
  let wddr := wddr.onPhy (forRange wddrPhyChannelNum fun channel phy =>
    { phy with ca := Function.update phy.ca channel (overrideCsCke (phy.ca channel)) })
  -- The result of the switch is ignored.
  let (_, wddr) ← wddr.wddrSwFreqSwitch wddrPhyBootFreq .msr0
  let cfg ← wddr.table.freqAt wddrPhyBootFreq
  let wddr := wddr.onPhy (forRange wddrPhyChannelNum fun channel =>
    channelEnable channel true (cfg.channel channel))
  let wddr := wddr.onPhy wddrClearFifoAllChannels
  let wddr := wddr.onFsw fswCspSyncRegIf
  let wddr ← wddr.wddrConfigurePhy wddrPhyBootFreq .msr0
  let wddr := wddr.wddrDfiBufferFlush
  let wddr := wddr.onPhy wddrClearFifoAllChannels
  let wddr ← wddr.bootZqcalCal hw bootCfg
  pure (wddr.onCmn (cmnVrefSetCodeRegIf .msr0 (cfg.vref.code.setWidth 32)))

/-- The part of `wddr_boot` that can fail: sense amplifiers and training. -/
def wddrBootTrain (hw : HwStatus) (bootCfg : WddrBootCfg) (wddr : Wddr) :
    Except Fault (WddrReturn × Wddr) := do
  let cfg ← wddr.table.freqAt wddrPhyBootFreq
  match propagateErrors
      (senseAmpChannel hw (getBootOption bootCfg wddrBootOptionSaCal) cfg)
      (List.range wddrPhyChannelNum) wddr with
  | (.wddrSuccess, wddr) =>
      pure (if getBootOption bootCfg wddrBootOptionTrainDram then wddr.wddrTrain
        else (.wddrSuccess, wddr))
  | (failure, wddr) => pure (failure, wddr)

/-- The part of `wddr_boot` after training: prime the buffer, end on PHY VCO 1 and
hand over to the DFI. -/
def wddrBootFinish (hw : HwStatus) (wddr : Wddr) : Except Fault Wddr := do
  let wddr := wddr.wddrDfiBufferPrime hw
  let wddr := wddr.onPhy wddrClearFifoAllChannels
  let wddr ← wddr.alignVco 4
  pure { wddr.fswSwitchToDfiMode with isBooted := true }

def wddrBoot (hw : HwStatus) (bootCfg : WddrBootCfg) (wddr : Wddr) :
    Except Fault (WddrReturn × Wddr) := do
  let wddr ← wddr.wddrBootSetup hw bootCfg
  let (ret, wddr) ← wddr.wddrBootTrain hw bootCfg
  match ret with
  | .wddrSuccess => do pure (.wddrSuccess, ← wddr.wddrBootFinish hw)
  | failure => pure (failure, wddr)

end Boot

end Wddr

end WavLpddr
