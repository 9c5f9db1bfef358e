import WavLpddr.ConfigurePhy

/-!
# The channel device

What `wddr_boot` does to a channel beyond the frequency-switch preparation: the
phase interpolators and delay elements of both banks are enabled, the CS and CKE
drivers are overridden, the chip select is forced, and the sense amplifiers are
searched against their comparators.
-/

namespace WavLpddr

open RegisterFile

/-- The word of the `pi_cfg_t` union, its fields packed from the low end. -/
def PiCfg.val (pi : PiCfg) : Word :=
  pi.code.setWidth 32 ||| (pi.gear.setWidth 32 <<< 6) ||| (pi.xcpl.setWidth 32 <<< 10)

/-- The word of the `lpde_cfg_t` union. -/
def LpdeCfg.val (lpde : LpdeCfg) : Word :=
  lpde.delay.setWidth 32 ||| (lpde.gear.setWidth 32 <<< 6)

section PhaseInterpolators

variable [KernelIo]

/-- The phase-interpolator setters, which differ in the register and its enable
field. -/
def piSetCfgRegIf {Name : Type} [DecidableEq Name] (name : Name) (en : RegField)
    (msr : WddrMsr) (rank : Nat) (enable : Bool) (cfg : PiCfg)
    (regs : Registers (ArrayReg Name) 32) : Registers (ArrayReg Name) 32 :=
  regs |> write ⟨name, [msr.index, rank]⟩ (updateRegField cfg.val en (boolWord enable))

/-- The delay-element setters of one slice.  The source updates the enable field
of a local value and then writes the unmodified configuration. -/
def lpdeSetCfgRegIf {Name : Type} [DecidableEq Name] (name : Name)
    (msr : WddrMsr) (rank bit : Nat) (_enable : Bool) (cfg : LpdeCfg)
    (regs : Registers (ArrayReg Name) 32) : Registers (ArrayReg Name) 32 :=
  regs |> write ⟨name, [msr.index, rank, bit]⟩ cfg.val

def lpdeRxSdrSetCfgRegIf {Name : Type} [DecidableEq Name] (name : Name)
    (msr : WddrMsr) (rank : Nat) (_enable : Bool) (cfg : LpdeCfg)
    (regs : Registers (ArrayReg Name) 32) : Registers (ArrayReg Name) 32 :=
  regs |> write ⟨name, [msr.index, rank]⟩ cfg.val

def dqDqPiOdrSetCfgRegIf := piSetCfgRegIf DqRegName.ddrDqDqTxOdrPiCfg ddrDqDqTxOdrPiM0R0CfgEn

def dqDqPiQdrSetCfgRegIf :=
  piSetCfgRegIf DqRegName.ddrDqDqTxQdrPi0Cfg ddrDqDqTxQdrPi0M0R0CfgEn

def dqDqPiDdrSetCfgRegIf :=
  piSetCfgRegIf DqRegName.ddrDqDqTxDdrPi0Cfg ddrDqDqTxDdrPi0M0R0CfgEn

def dqDqPiRtSetCfgRegIf := piSetCfgRegIf DqRegName.ddrDqDqTxPiRtCfg ddrDqDqTxPiRtM0R0CfgEn

def dqDqLpdeSetCfgRegIf := lpdeSetCfgRegIf DqRegName.ddrDqDqTxLpdeCfg

def dqDqsPiOdrSetCfgRegIf :=
  piSetCfgRegIf DqRegName.ddrDqDqsTxOdrPiCfg ddrDqDqsTxOdrPiM0R0CfgEn

def dqDqsPiQdrSetCfgRegIf :=
  piSetCfgRegIf DqRegName.ddrDqDqsTxQdrPi0Cfg ddrDqDqsTxQdrPi0M0R0CfgEn

def dqDqsPiDdrSetCfgRegIf :=
  piSetCfgRegIf DqRegName.ddrDqDqsTxDdrPi0Cfg ddrDqDqsTxDdrPi0M0R0CfgEn

def dqDqsPiRtSetCfgRegIf := piSetCfgRegIf DqRegName.ddrDqDqsTxPiRtCfg ddrDqDqsTxPiRtM0R0CfgEn

def dqDqsPiSdrSetCfgRegIf :=
  piSetCfgRegIf DqRegName.ddrDqDqsTxSdrPiCfg ddrDqDqsTxSdrPiM0R0CfgEn

def dqDqsPiDfiSetCfgRegIf :=
  piSetCfgRegIf DqRegName.ddrDqDqsTxDfiPiCfg ddrDqDqsTxDfiPiM0R0CfgEn

def dqDqsLpdeSetCfgRegIf := lpdeSetCfgRegIf DqRegName.ddrDqDqsTxLpdeCfg

def dqDqsPiRenSetCfgRegIf :=
  piSetCfgRegIf DqRegName.ddrDqDqsRxRenPiCfg ddrDqDqsRxRenPiM0R0CfgEn

def dqDqsPiRcsSetCfgRegIf :=
  piSetCfgRegIf DqRegName.ddrDqDqsRxRcsPiCfg ddrDqDqsRxRcsPiM0R0CfgEn

def dqDqsPiRdqsSetCfgRegIf :=
  piSetCfgRegIf DqRegName.ddrDqDqsRxRdqsPi0Cfg ddrDqDqsRxRdqsPi0M0R0CfgEn

def dqDqsLpdeRxSdrSetCfgRegIf := lpdeRxSdrSetCfgRegIf DqRegName.ddrDqDqsRxSdrLpdeCfg

def caDqPiOdrSetCfgRegIf := piSetCfgRegIf CaRegName.ddrCaDqTxOdrPiCfg ddrCaDqTxOdrPiM0R0CfgEn

def caDqPiQdrSetCfgRegIf :=
  piSetCfgRegIf CaRegName.ddrCaDqTxQdrPi0Cfg ddrCaDqTxQdrPi0M0R0CfgEn

def caDqPiDdrSetCfgRegIf :=
  piSetCfgRegIf CaRegName.ddrCaDqTxDdrPi0Cfg ddrCaDqTxDdrPi0M0R0CfgEn

def caDqPiRtSetCfgRegIf := piSetCfgRegIf CaRegName.ddrCaDqTxPiRtCfg ddrCaDqTxPiRtM0R0CfgEn

def caDqLpdeSetCfgRegIf := lpdeSetCfgRegIf CaRegName.ddrCaDqTxLpdeCfg

def caDqsPiOdrSetCfgRegIf :=
  piSetCfgRegIf CaRegName.ddrCaDqsTxOdrPiCfg ddrCaDqsTxOdrPiM0R0CfgEn

def caDqsPiQdrSetCfgRegIf :=
  piSetCfgRegIf CaRegName.ddrCaDqsTxQdrPi0Cfg ddrCaDqsTxQdrPi0M0R0CfgEn

def caDqsPiDdrSetCfgRegIf :=
  piSetCfgRegIf CaRegName.ddrCaDqsTxDdrPi0Cfg ddrCaDqsTxDdrPi0M0R0CfgEn

def caDqsPiRtSetCfgRegIf := piSetCfgRegIf CaRegName.ddrCaDqsTxPiRtCfg ddrCaDqsTxPiRtM0R0CfgEn

def caDqsPiSdrSetCfgRegIf :=
  piSetCfgRegIf CaRegName.ddrCaDqsTxSdrPiCfg ddrCaDqsTxSdrPiM0R0CfgEn

def caDqsPiDfiSetCfgRegIf :=
  piSetCfgRegIf CaRegName.ddrCaDqsTxDfiPiCfg ddrCaDqsTxDfiPiM0R0CfgEn

def caDqsLpdeSetCfgRegIf := lpdeSetCfgRegIf CaRegName.ddrCaDqsTxLpdeCfg

def caDqsLpdeRxSdrSetCfgRegIf := lpdeRxSdrSetCfgRegIf CaRegName.ddrCaDqsRxSdrLpdeCfg

end PhaseInterpolators

section ChannelEnable

variable [KernelIo]

/-- The part of `channel_enable` for one DQ byte. -/
def dqByteEnable (msr : WddrMsr) (rank : Nat) (enable : Bool) (cfg : DqPathFreqCfg)
    (dqReg : DqRegs) : DqRegs :=
  let dq := cfg.tx.dq rank
  let dqs := cfg.tx.dqs rank
  let rx := cfg.rx.dqs rank
  dqReg
  |> dqDqPiOdrSetCfgRegIf msr rank enable dq.pi.odr
  |> dqDqPiQdrSetCfgRegIf msr rank enable dq.pi.qdr
  |> dqDqPiDdrSetCfgRegIf msr rank enable dq.pi.ddr
  |> dqDqPiRtSetCfgRegIf msr rank enable dq.pi.rt
  |> forRange wddrPhyDqSliceNum (fun bit =>
      dqDqLpdeSetCfgRegIf msr rank bit enable (dq.lpde bit))
  |> dqDqsPiOdrSetCfgRegIf msr rank enable dqs.pi.odr
  |> dqDqsPiQdrSetCfgRegIf msr rank enable dqs.pi.qdr
  |> dqDqsPiDdrSetCfgRegIf msr rank enable dqs.pi.ddr
  |> dqDqsPiRtSetCfgRegIf msr rank enable dqs.pi.rt
  |> dqDqsPiSdrSetCfgRegIf msr rank enable dqs.pi.sdr
  |> dqDqsPiDfiSetCfgRegIf msr rank enable dqs.pi.dfi
  |> forRange wddrPhyDqsTxrxSliceNum (fun bit =>
      dqDqsLpdeSetCfgRegIf msr rank bit enable (dqs.lpde bit))
  |> dqDqsPiRenSetCfgRegIf msr rank enable rx.pi.ren
  |> dqDqsPiRcsSetCfgRegIf msr rank enable rx.pi.rcs
  |> dqDqsPiRdqsSetCfgRegIf msr rank enable rx.pi.rdqs
  |> dqDqsLpdeRxSdrSetCfgRegIf msr rank enable rx.sdrLpde

/-- The part of `channel_enable` for the CA block. -/
def caBlockEnable (msr : WddrMsr) (rank : Nat) (enable : Bool) (cfg : CaPathFreqCfg)
    (caReg : CaRegs) : CaRegs :=
  let ca := cfg.tx.ca rank
  let ck := cfg.tx.ck rank
  caReg
  |> caDqPiOdrSetCfgRegIf msr rank enable ca.pi.odr
  |> caDqPiQdrSetCfgRegIf msr rank enable ca.pi.qdr
  |> caDqPiDdrSetCfgRegIf msr rank enable ca.pi.ddr
  |> caDqPiRtSetCfgRegIf msr rank enable ca.pi.rt
  |> forRange wddrPhyCaSliceNum (fun bit =>
      caDqLpdeSetCfgRegIf msr rank bit enable (ca.lpde bit))
  |> caDqsPiOdrSetCfgRegIf msr rank enable ck.pi.odr
  |> caDqsPiQdrSetCfgRegIf msr rank enable ck.pi.qdr
  |> caDqsPiDdrSetCfgRegIf msr rank enable ck.pi.ddr
  |> caDqsPiRtSetCfgRegIf msr rank enable ck.pi.rt
  |> caDqsPiSdrSetCfgRegIf msr rank enable ck.pi.sdr
  |> caDqsPiDfiSetCfgRegIf msr rank enable ck.pi.dfi
  |> forRange wddrPhyCkSliceNum (fun bit =>
      caDqsLpdeSetCfgRegIf msr rank bit enable (ck.lpde bit))
  |> caDqsLpdeRxSdrSetCfgRegIf msr rank enable (cfg.rx.sdrLpde rank)

/-- The loop over the banks, `for (msr = WDDR_MSR_0; msr <= WDDR_MSR_1; msr++)`. -/
def forMsr {State : Type} (body : WddrMsr → State → State) (state : State) : State :=
  body .msr1 (body .msr0 state)

/-- `channel_enable` on channel `channel`. -/
def channelEnable (channel : Nat) (enable : Bool) (cfg : ChannelFreqCfg)
    (phy : PhyRegs) : PhyRegs :=
  forRange wddrPhyRank (fun rank => forMsr fun msr phy =>
    { phy with
      dq := Function.update phy.dq channel
        (forRange wddrPhyDqByteNum (fun byte bytes =>
          Function.update bytes byte
            (dqByteEnable msr rank enable (cfg.dq byte) (bytes byte))) (phy.dq channel))
      ca := Function.update phy.ca channel
        (caBlockEnable msr rank enable cfg.ca (phy.ca channel)) }) phy

end ChannelEnable

section Drivers

variable [KernelIo]

def caDqDriverSetImpedanceRegIf (msr : WddrMsr) (bit : Nat) (tx rx : DriverImpedance)
    (caReg : CaRegs) : CaRegs :=
  caReg |> modifyReg ⟨.ddrCaDqTxIoCfg, [msr.index, bit]⟩ (fun regVal =>
    let regVal := updateRegField regVal ddrCaDqTxIoM0Cfg0TxImpd tx.value
    updateRegField regVal ddrCaDqTxIoM0Cfg0RxImpd rx.value)

def caDqDriverSetOeRegIf (msr : WddrMsr) (bit : Nat) (enable : Bool) (caReg : CaRegs) :
    CaRegs :=
  caReg |> modifyReg ⟨.ddrCaDqTxIoCfg, [msr.index, bit]⟩ (fun regVal =>
    updateRegField regVal ddrCaDqTxIoM0Cfg0SwOvr (boolWord enable))

def caDqDriverSetOverrideRegIf (msr : WddrMsr) (bit : Nat) (sel : BitVec 3)
    (valT : BitVec 1) (caReg : CaRegs) : CaRegs :=
  caReg |> modifyReg ⟨.ddrCaDqTxIoCfg, [msr.index, bit]⟩ (fun regVal =>
    let regVal := updateRegField regVal ddrCaDqTxIoM0Cfg0OvrdSel (sel.setWidth 32)
    updateRegField regVal ddrCaDqTxIoM0Cfg0OvrdVal (valT.setWidth 32))

/-- The CA slices that carry CS and CKE. -/
def caSliceCsCke : List Nat := [7, 8, 9, 10]

/-- The driver settings that force CS and CKE low during boot. -/
def bootDriverCfg : DriverCfg where
  txImpd := .ohm240
  rxImpd := .hiz
  override :=
    { sel := (DriverImpedance.ohm240.value).setWidth 3
      valT := 0
      valC := 0 }

/-- One channel's turn of the CS/CKE override loop of `wddr_boot`. -/
def overrideCsCke (caReg : CaRegs) : CaRegs :=
  let cfg := bootDriverCfg
  let caReg := caSliceCsCke.foldl (fun caReg bit =>
    caDqDriverSetImpedanceRegIf .msr0 bit cfg.txImpd cfg.rxImpd caReg) caReg
  let caReg := caSliceCsCke.foldl (fun caReg bit =>
    caDqDriverSetOverrideRegIf .msr0 bit cfg.override.sel cfg.override.valT caReg) caReg
  caSliceCsCke.foldl (fun caReg bit => caDqDriverSetOeRegIf .msr0 bit true caReg) caReg

/-- The two driver-code setters, which differ in the register and its fields. -/
def driverSetCodeRegIf {Name : Type} [DecidableEq Name] (name : Name)
    (ncal pcal : RegField) (msr : WddrMsr) (rank : Nat) (code : PnCal → BitVec 8)
    (regs : Registers (ArrayReg Name) 32) : Registers (ArrayReg Name) 32 :=
  regs |> modifyReg ⟨name, [msr.index, rank]⟩ (fun regVal =>
    let regVal := updateRegField regVal ncal ((code .nCal).setWidth 32)
    updateRegField regVal pcal ((code .pCal).setWidth 32))

def caDqsDriverSetCodeRegIf := driverSetCodeRegIf CaRegName.ddrCaDqsTxIoCmnCfg
  ddrCaDqsTxIoCmnM0R0CfgNcal ddrCaDqsTxIoCmnM0R0CfgPcal

def dqDqsDriverSetCodeRegIf := driverSetCodeRegIf DqRegName.ddrDqDqsTxIoCmnCfg
  ddrDqDqsTxIoCmnM0R0CfgNcal ddrDqDqsTxIoCmnM0R0CfgPcal

end Drivers

section Top

variable [KernelIo]

/-- The two chip-select setters: the rank first, then the override, both computed
from one reading of the register. -/
def topSetChipSelectRegIf {Name : Type} [DecidableEq Name] (name : Name)
    (wcsVal rcsVal wcs rcs : RegField) (rankSel : Word) (override : Bool)
    (regs : Registers (ArrayReg Name) 32) : Registers (ArrayReg Name) 32 :=
  let regVal := regs ⟨name, []⟩
  let regVal := updateRegField regVal wcsVal rankSel
  let regVal := updateRegField regVal rcsVal rankSel
  let regs := write ⟨name, []⟩ regVal regs
  let regVal := updateRegField regVal wcs (boolWord override)
  let regVal := updateRegField regVal rcs (boolWord override)
  write ⟨name, []⟩ regVal regs

def caTopSetChipSelectRegIf := topSetChipSelectRegIf CaRegName.ddrCaTopCfg
  ddrCaTopCfgWcsSwOvrVal ddrCaTopCfgRcsSwOvrVal ddrCaTopCfgWcsSwOvr ddrCaTopCfgRcsSwOvr

def dqTopSetChipSelectRegIf := topSetChipSelectRegIf DqRegName.ddrDqTopCfg
  ddrDqTopCfgWcsSwOvrVal ddrDqTopCfgRcsSwOvrVal ddrDqTopCfgWcsSwOvr ddrDqTopCfgRcsSwOvr

/-- The two FIFO-clear pulses. -/
def topClearFifoRegIf {Name : Type} [DecidableEq Name] (name : Name) (fifoClr : RegField)
    (regs : Registers (ArrayReg Name) 32) : Registers (ArrayReg Name) 32 :=
  let regVal := updateRegField (regs ⟨name, []⟩) fifoClr 1
  let regs := write ⟨name, []⟩ regVal regs
  write ⟨name, []⟩ (updateRegField regVal fifoClr 0) regs

def caTopClearFifoRegIf := topClearFifoRegIf CaRegName.ddrCaTopCfg ddrCaTopCfgFifoClr

def dqTopClearFifoRegIf := topClearFifoRegIf DqRegName.ddrDqTopCfg ddrDqTopCfgFifoClr

/-- Apply updates to the CA block and to both DQ bytes of a channel. -/
def onChannel (channel : Nat) (ca : CaRegs → CaRegs) (dq : DqRegs → DqRegs)
    (phy : PhyRegs) : PhyRegs :=
  { phy with
    ca := Function.update phy.ca channel (ca (phy.ca channel))
    dq := Function.update phy.dq channel
      (Function.update (Function.update (phy.dq channel) 0 (dq (phy.dq channel 0))) 1
        (dq (phy.dq channel 1))) }

def wddrClearFifoRegIf (channel : Nat) : PhyRegs → PhyRegs :=
  onChannel channel caTopClearFifoRegIf dqTopClearFifoRegIf

def wddrSetChipSelectRegIf (channel : Nat) (rank : Word) (override : Bool) :
    PhyRegs → PhyRegs :=
  onChannel channel (caTopSetChipSelectRegIf rank override)
    (dqTopSetChipSelectRegIf rank override)

def wddrClearFifoAllChannels : PhyRegs → PhyRegs :=
  forRange wddrPhyChannelNum wddrClearFifoRegIf

end Top

section RxGearbox

variable [KernelIo]

def dqDqRxGbSetModeRegIf (msr : WddrMsr) (cfg : RxGbCfg) (dqReg : DqRegs) : DqRegs :=
  dqReg |> modifyReg ⟨.ddrDqDqRxCfg, [msr.index]⟩ (fun regVal =>
    let regVal := updateRegField regVal ddrDqDqRxM0CfgRgbMode cfg.dataMode.value
    updateRegField regVal ddrDqDqRxM0CfgFgbMode cfg.fifoMode.value)

def dqDqsRxGbSetModeRegIf (msr : WddrMsr) (cfg : RxGbCfg) (dqReg : DqRegs) : DqRegs :=
  dqReg |> modifyReg ⟨.ddrDqDqsRxCfg, [msr.index]⟩ (fun regVal =>
    let regVal := updateRegField regVal ddrDqDqsRxM0CfgRgbMode cfg.dataMode.value
    let regVal := updateRegField regVal ddrDqDqsRxM0CfgFgbMode cfg.fifoMode.value
    let regVal := updateRegField regVal ddrDqDqsRxM0CfgWckMode cfg.wckMode.value
    updateRegField regVal ddrDqDqsRxM0CfgPreFilterSel (cfg.preFilterSel.setWidth 32))

/-- The receive gearbox during sense-amplifier calibration. -/
def calibrationRxGb : RxGbCfg where
  dataMode := .dgb2to1Ir
  fifoMode := .fgb2to2
  wckMode := .mode0
  preFilterSel := 0

end RxGearbox

section SenseAmp

variable [KernelIo]

/-- `sensamp_index_t` -/
inductive SensampIndex
  | sa0 | sa180 | sa90 | sa270
deriving DecidableEq

namespace SensampIndex

/-- The sense amplifiers of the DDR configuration, `sa_index < WDDR_PHY_CFG`. -/
def ddr : List SensampIndex := [sa0, sa180]

def index : SensampIndex → Nat
  | sa0 => 0
  | sa180 => 1
  | sa90 => 2
  | sa270 => 3

def calDir : SensampIndex → RegField
  | sa0 => ddrDqDqRxSaM0R0Cfg0CalDir0
  | sa180 => ddrDqDqRxSaM0R0Cfg0CalDir180
  | sa90 => ddrDqDqRxSaM0R0Cfg0CalDir90
  | sa270 => ddrDqDqRxSaM0R0Cfg0CalDir270

def calCode : SensampIndex → RegField
  | sa0 => ddrDqDqRxSaM0R0Cfg0CalCode0
  | sa180 => ddrDqDqRxSaM0R0Cfg0CalCode180
  | sa90 => ddrDqDqRxSaM0R0Cfg0CalCode90
  | sa270 => ddrDqDqRxSaM0R0Cfg0CalCode270

end SensampIndex

def wavSaMinCalCode : Nat := 0

def wavSaMaxCalCode : Nat := 31

def wavSaMidCalCode : Nat := (wavSaMaxCalCode - wavSaMinCalCode + 1) / 2

def dqDqSaClearCalCodeRegIf (msr : WddrMsr) (rank bit : Nat) (dqReg : DqRegs) : DqRegs :=
  dqReg |> write ⟨.ddrDqDqRxSaCfg, [msr.index, rank, bit]⟩ 0

def dqDqSaSetCalCodeRegIf (msr : WddrMsr) (rank bit : Nat) (saIndex : SensampIndex)
    (code : Nat) (dqReg : DqRegs) : DqRegs :=
  let calDir := boolWord (decide (wavSaMidCalCode ≤ code))
  let calCode :=
    if code < wavSaMidCalCode then wavSaMidCalCode - (code + 1) else code - wavSaMidCalCode
  dqReg |> modifyReg ⟨.ddrDqDqRxSaCfg, [msr.index, rank, bit]⟩ (fun regVal =>
    let regVal := updateRegField regVal saIndex.calDir calDir
    updateRegField regVal saIndex.calCode (BitVec.ofNat 32 calCode))

inductive SensampState
  | dynamic | enabled | calEnabled

/-- The state of all sense amplifiers of a byte.  The remaining fields of the
register belong to the QDR configuration. -/
def dqDqsSaCmnSetStateRegIf (state : SensampState) (dqReg : DqRegs) : DqRegs :=
  dqReg |> modifyReg ⟨.ddrDqDqsRxSaCmnCfg, []⟩ (fun regVal =>
    match state with
    | .enabled =>
        let regVal := updateRegField regVal ddrDqDqsRxSaCmnCfgOvrEn0180 1
        let regVal := updateRegField regVal ddrDqDqsRxSaCmnCfgCalEn0180 0
        updateRegField regVal ddrDqDqsRxSaCmnCfgSwOvr 1
    | .dynamic =>
        let regVal := updateRegField regVal ddrDqDqsRxSaCmnCfgOvrEn0180 0
        let regVal := updateRegField regVal ddrDqDqsRxSaCmnCfgCalEn0180 0
        updateRegField regVal ddrDqDqsRxSaCmnCfgSwOvr 0
    | .calEnabled =>
        let regVal := updateRegField regVal ddrDqDqsRxSaCmnCfgCalEn0180 1
        let regVal := updateRegField regVal ddrDqDqsRxSaCmnCfgOvrEn0180 1
        updateRegField regVal ddrDqDqsRxSaCmnCfgSwOvr 1)

/-- The two searches for one sense amplifier. -/
inductive SaSearch
  | up | down
deriving DecidableEq

/-- What one sense amplifier reports for the code under test.  A search tries a code at
most once, so this is any sequence of readings. -/
abbrev SaComparator := SaSearch → Nat → Bool

variable (status : SaComparator) (bit : Nat) (saIndex : SensampIndex)

/-- The upward search, `fuel` codes from `calCode` on.  Without a break it leaves
the code one past the last one tried. -/
def searchUp : Nat → Nat → DqRegs → Option Nat × DqRegs
  | 0, calCode, dqReg => (some calCode, dqReg)
  | fuel + 1, calCode, dqReg =>
      let dqReg := dqDqSaSetCalCodeRegIf .msr0 0 bit saIndex calCode dqReg
      let val := status .up calCode
      if calCode = wavSaMinCalCode ∧ val = false then (none, dqReg)
      else if calCode = wavSaMaxCalCode ∧ val = true then (none, dqReg)
      else if val = false then (some calCode, dqReg)
      else searchUp fuel (calCode + 1) dqReg

/-- The downward search from `calCode`. -/
def searchDown : Nat → DqRegs → Option Nat × DqRegs
  | 0, dqReg =>
      let dqReg := dqDqSaSetCalCodeRegIf .msr0 0 bit saIndex 0 dqReg
      if status .down 0 = false then (none, dqReg) else (some 0, dqReg)
  | calCode + 1, dqReg =>
      let dqReg := dqDqSaSetCalCodeRegIf .msr0 0 bit saIndex (calCode + 1) dqReg
      let val := status .down (calCode + 1)
      if calCode + 1 = wavSaMaxCalCode ∧ val = true then (none, dqReg)
      else if val = true then (some (calCode + 1), dqReg)
      else searchDown calCode dqReg

/-- The two searches for one sense amplifier: the average code, or no result. -/
def calibrateSa (dqReg : DqRegs) : Option Nat × DqRegs :=
  let dqReg := dqDqSaClearCalCodeRegIf .msr0 0 bit dqReg
  match searchUp status bit saIndex (wavSaMaxCalCode + 1) wavSaMinCalCode dqReg with
  | (none, dqReg) => (none, dqReg)
  | (some codeUp, dqReg) =>
      match searchDown status bit saIndex wavSaMaxCalCode dqReg with
      | (none, dqReg) => (none, dqReg)
      | (some codeDown, dqReg) => (some ((codeDown + codeUp) / 2), dqReg)

omit status bit saIndex

/-- Write a sense amplifier's code for both ranks and both banks. -/
def updateSa (bit : Nat) (saIndex : SensampIndex) (code : Nat) (dqReg : DqRegs) :
    DqRegs :=
  forRange wddrPhyRank (fun rank dqReg => dqReg
    |> dqDqSaSetCalCodeRegIf .msr0 rank bit saIndex code
    |> dqDqSaSetCalCodeRegIf .msr1 rank bit saIndex code) dqReg

/-- The registers and the calibration codes of one byte. -/
abbrev SensampByte := SensampDqbyteCommonCfg × DqRegs

/-- One turn of the inner loop of `__sensamp_dqbyte_configure`. -/
def sensampConfigure (status : Nat → SensampIndex → SaComparator) (calibrate : Bool)
    (bit : Nat) (saIndex : SensampIndex) (state : SensampByte) : WddrReturn × SensampByte :=
  if calibrate then
    match calibrateSa (status bit saIndex) bit saIndex state.2 with
    | (none, dqReg) => (.wddrError, state.1, dqReg)
    | (some code, dqReg) =>
        let data := Function.update state.1 bit
          (Function.update (state.1 bit) saIndex.index (BitVec.ofNat 8 code))
        (.wddrSuccess, data, updateSa bit saIndex (data bit saIndex.index).toNat dqReg)
  else
    (.wddrSuccess, state.1,
      updateSa bit saIndex (state.1 bit saIndex.index).toNat state.2)

/-- `__sensamp_dqbyte_configure` -/
def sensampDqbyteConfigure (status : Nat → SensampIndex → SaComparator) (calibrate : Bool)
    (state : SensampByte) : WddrReturn × SensampByte :=
  propagateErrors (fun (bit, saIndex) => sensampConfigure status calibrate bit saIndex)
    ((List.range wddrPhyDqSliceNum).flatMap fun bit => SensampIndex.ddr.map (bit, ·)) state

/-- An error leaves the sense amplifiers in the calibration state. -/
def channelRxSaDqbyteConfigure (status : Nat → SensampIndex → SaComparator)
    (calibrate : Bool) (state : SensampByte) : WddrReturn × SensampByte :=
  let dqReg := dqDqsSaCmnSetStateRegIf .calEnabled state.2
  match sensampDqbyteConfigure status calibrate (state.1, dqReg) with
  | (.wddrSuccess, state) =>
      (.wddrSuccess, state.1, dqDqsSaCmnSetStateRegIf .dynamic state.2)
  | (failure, state) => (failure, state)

end SenseAmp

end WavLpddr
