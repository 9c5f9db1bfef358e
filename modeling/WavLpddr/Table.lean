import WavLpddr.Kernel

/-!
# The configuration table

The frequency table holds, for every frequency, the values that the preparation
functions program into the PHY, and a frequency-independent part that boot-time
calibration fills in.  Array members are functions of their index.  The
`driver.code` member of a driver configuration is a pointer into the common
impedance codes, so the model keeps which entry it points to.
-/

namespace WavLpddr

/-- `WDDR_PHY_FREQ_NUM` -/
def wddrPhyFreqNum : Nat := 4

def wddrPhyValidFreqNum : Nat := 4

def wddrPhyBootFreq : UInt8 := 0

def wddrPhyChannelNum : Nat := 2

def wddrPhyDqByteNum : Nat := 2

def wddrPhyRank : Nat := 2

def wddrPhyDqSliceNum : Nat := 9

def wddrPhyDqsSliceNum : Nat := 9

def wddrPhyDqsTxrxSliceNum : Nat := 2

def wddrPhyCaSliceNum : Nat := 11

def wddrPhyCkSliceNum : Nat := 1

structure PiCfg where
  code : BitVec 6
  gear : BitVec 4
  xcpl : BitVec 1

structure LpdeCfg where
  delay : BitVec 6
  gear : BitVec 3

structure RxPiCfg where
  rcs : PiCfg
  ren : PiCfg
  rdqs : PiCfg

structure TxPiCfg where
  odr : PiCfg
  qdr : PiCfg
  ddr : PiCfg
  rt : PiCfg
  sdr : PiCfg
  dfi : PiCfg

structure SdrPipelineCfg where
  xSel : Word
  fcDelay : BitVec 16
  pipeEn : BitVec 16

/-- `ddr_pipeline_cfg_t` and `qdr_pipeline_cfg_t` -/
structure DdrPipelineCfg where
  xSel : Word
  pipeEn : BitVec 16

structure PipelineBitCfg where
  sdr : SdrPipelineCfg
  ddr : DdrPipelineCfg
  qdr : DdrPipelineCfg

structure RtPipelineCfg where
  pipeEn : BitVec 16

inductive EgressDigMode
  | sdr | ddr2to1 | qdr2to1 | odr2to1 | qdr4to1 | odr4to1 | bscan

def EgressDigMode.value : EgressDigMode → Word
  | sdr => 1
  | ddr2to1 => 2
  | qdr2to1 => 4
  | odr2to1 => 8
  | qdr4to1 => 16
  | odr4to1 => 32
  | bscan => 64

inductive EgressAnaMode
  | bypass | ddr2to1 | qdr2to1 | odr2to1 | qdr4to1 | odr4to1

def EgressAnaMode.value : EgressAnaMode → Word
  | bypass => 1
  | ddr2to1 => 2
  | qdr2to1 => 4
  | odr2to1 => 8
  | qdr4to1 => 16
  | odr4to1 => 32

structure EgressBitCfg where
  digMode : EgressDigMode
  anaMode : EgressAnaMode

inductive GbDataMode
  | dgb1to1Hf | dgb2to1Hf | dgb2to1Ir | dgb4to1Lf | dgb4to1Hf | dgb4to1Ir
  | dgb8to1Lf | dgb8to1Hf

def GbDataMode.value (mode : GbDataMode) : Word := BitVec.ofNat 32 mode.ctorIdx

inductive GbWriteMode
  | wgb1to1 | wgb2to1 | wgb4to1 | wgb8to1 | wgb2to2 | wgb4to2 | wgb8to2
  | wgb4to4 | wgb8to4 | wgb8to8 | wgb16to8

def GbWriteMode.value (mode : GbWriteMode) : Word := BitVec.ofNat 32 mode.ctorIdx

inductive GbFifoMode
  | fgb1to1 | fgb1to2 | fgb1to4 | fgb1to8 | fgb2to2 | fgb2to4 | fgb2to8
  | fgb4to4 | fgb4to8 | fgb8to8 | fgb8to16

def GbFifoMode.value (mode : GbFifoMode) : Word := BitVec.ofNat 32 mode.ctorIdx

inductive GbWckMode
  | mode0 | mode1

def GbWckMode.value (mode : GbWckMode) : Word := BitVec.ofNat 32 mode.ctorIdx

structure RxGbCfg where
  dataMode : GbDataMode
  fifoMode : GbFifoMode
  wckMode : GbWckMode
  preFilterSel : BitVec 8

structure TxGbCfg where
  dataMode : GbDataMode
  writeMode : GbWriteMode
  ck2wckRatio : BitVec 8

inductive DriverMode
  | diff | se

def DriverMode.value (mode : DriverMode) : Word := BitVec.ofNat 32 mode.ctorIdx

inductive DriverImpedance
  | hiz | ohm240 | ohm120 | ohm80 | ohm60 | ohm48 | ohm40

def DriverImpedance.value (impedance : DriverImpedance) : Word :=
  BitVec.ofNat 32 impedance.ctorIdx

/-- `zqcal_voh_t` -/
inductive ZqcalVoh
  | voh0p5 | voh0p6
deriving DecidableEq

/-- `zqcal_pn_cal_t` and `driver_pn_side_t`, which use the same indices. -/
inductive PnCal
  | pCal | nCal
deriving DecidableEq

/-- `zqcal_cfg_t.code` -/
abbrev ZqcalCfg := ZqcalVoh → PnCal → BitVec 8

structure DriverCmnCfg where
  mode : DriverMode
  /-- The row of the common impedance codes that `code` points to. -/
  code : ZqcalVoh

structure DriverOverride where
  sel : BitVec 3
  valT : BitVec 1
  valC : BitVec 1

structure DriverCfg where
  txImpd : DriverImpedance
  rxImpd : DriverImpedance
  override : DriverOverride

inductive ReceiverMode
  | diff | se

def ReceiverMode.value (mode : ReceiverMode) : Word := BitVec.ofNat 32 mode.ctorIdx

inductive ReceiverPathState
  | ac | dc

def ReceiverPathState.value (state : ReceiverPathState) : Word :=
  BitVec.ofNat 32 state.ctorIdx

inductive ReceiverTcSide
  | tSide | cSide

inductive ReceiverPnSide
  | pSide | nSide

structure ReceiverFreqCfg where
  feedbackResistor : BitVec 8
  mode : ReceiverMode
  pathState : ReceiverPathState
  rxDelay : ReceiverTcSide → BitVec 16

structure ReceiverCommonCfg where
  code : ReceiverPnSide → ReceiverTcSide → BitVec 8

/-- `sensamp_dqbyte_common_cfg_t`: one code for each slice and sense amp. -/
abbrev SensampDqbyteCommonCfg := Nat → Nat → BitVec 8

structure DqRxRankCfg where
  receiver : ReceiverFreqCfg
  pi : RxPiCfg
  sdrLpde : LpdeCfg

structure DqRxPathFreqCfg where
  dqs : Nat → DqRxRankCfg
  gearbox : RxGbCfg

structure DqRxPathCommonCfg where
  sa : SensampDqbyteCommonCfg
  receiver : Nat → ReceiverCommonCfg

structure DqsTxRankCfg where
  pipeline : Nat → PipelineBitCfg
  pi : TxPiCfg
  driver : DriverCmnCfg
  lpde : Nat → LpdeCfg
  rt : RtPipelineCfg

structure DqTxRankCfg where
  lpde : Nat → LpdeCfg
  pi : TxPiCfg
  pipeline : PipelineBitCfg
  rt : RtPipelineCfg

structure DqTxPathFreqCfg where
  dqs : Nat → DqsTxRankCfg
  dq : Nat → DqTxRankCfg
  dqDriver : DriverCfg
  dqsDriver : DriverCfg
  gearbox : TxGbCfg
  egress : EgressBitCfg

structure DqPathFreqCfg where
  tx : DqTxPathFreqCfg
  rx : DqRxPathFreqCfg

structure CaRxPathFreqCfg where
  sdrLpde : Nat → LpdeCfg
  gearbox : RxGbCfg

structure CaTxRankCfg where
  lpde : Nat → LpdeCfg
  pipeline : PipelineBitCfg
  pi : TxPiCfg
  rt : RtPipelineCfg

structure CkTxRankCfg where
  pipeline : PipelineBitCfg
  pi : TxPiCfg
  driver : DriverCmnCfg
  lpde : Nat → LpdeCfg
  rt : RtPipelineCfg

structure CaTxPathFreqCfg where
  ca : Nat → CaTxRankCfg
  ck : Nat → CkTxRankCfg
  caDriver : DriverCfg
  ckDriver : DriverCfg
  gearbox : TxGbCfg
  egress : EgressBitCfg

structure CaPathFreqCfg where
  tx : CaTxPathFreqCfg
  rx : CaRxPathFreqCfg

inductive VrefPwrMode
  | mode0 | mode1 | mode2 | mode3

def VrefPwrMode.value (mode : VrefPwrMode) : Word := BitVec.ofNat 32 mode.ctorIdx

structure VrefCfg where
  powerMode : VrefPwrMode
  code : BitVec 16

structure DfiPipeCfg where
  pipeEn : BitVec 4
  postGbFcDly : BitVec 4
  gbMode : BitVec 4

structure DfiPadenPextCfg where
  wrd : Word
  wck : Word
  rd : Word

structure DfiFreqCfg where
  padenPext : DfiPadenPextCfg
  clkenPext : Word
  ovrTraffic : Word
  ckctrl : DfiPipeCfg
  wckctrl : DfiPipeCfg
  wctrl : DfiPipeCfg
  wenctrl : DfiPipeCfg
  wrcctrl : DfiPipeCfg
  wrc : DfiPipeCfg
  wrd : DfiPipeCfg
  rctrl : DfiPipeCfg
  rdd : DfiPipeCfg

/-- `wddr_freq_ratio_t` -/
inductive WddrFreqRatio
  | ratio1to1 | ratio1to2 | ratio1to4
deriving DecidableEq, Repr

/-- The ratio as the shift the code uses it as. -/
def WddrFreqRatio.shift (ratio : WddrFreqRatio) : Nat := ratio.ctorIdx

structure DramFreqCfg where
  ratio : WddrFreqRatio
  tVrefCaLong : BitVec 16
  mr1 : BitVec 8
  mr2 : BitVec 8
  mr11 : BitVec 8
  mr12 : BitVec 8
  mr14 : BitVec 8
  phyWrLat : BitVec 8
  phyWrEn : BitVec 8
  phyRdEn : BitVec 8
  tShTrain : BitVec 8

structure VcoCfg where
  band : BitVec 8
  fine : BitVec 8
  propGain : BitVec 8
  intComp : BitVec 8
  postDiv : BitVec 8
  fllRefclkCount : BitVec 8
  fllRange : BitVec 8
  lockCountThreshold : BitVec 8
  fllVcoCountTarget : BitVec 16

/-- `pll_freq_cfg_t`: the two PHY VCOs' settings for one frequency. -/
structure PllFreqCfg where
  vcoCfg : Nat → VcoCfg

structure ChannelFreqCfg where
  dq : Nat → DqPathFreqCfg
  ca : CaPathFreqCfg

structure WddrFreqCfg where
  channel : Nat → ChannelFreqCfg
  dfi : DfiFreqCfg
  dram : DramFreqCfg
  pll : PllFreqCfg
  vref : VrefCfg

structure WddrCommonCfg where
  /-- The receive path of each channel and DQ byte. -/
  dqRx : Nat → Nat → DqRxPathCommonCfg
  zqcal : ZqcalCfg

/-- `wddr_table_t` -/
structure WddrTable where
  freq : Nat → WddrFreqCfg
  common : WddrCommonCfg
  valid : Nat → Bool

namespace WddrTable

/-- The check at the head of `wddr_prep_switch`: in range and marked valid. -/
def validFreq (table : WddrTable) (freqId : UInt8) : Bool :=
  freqId.toNat < wddrPhyFreqNum && table.valid freqId.toNat

/-- An access `table->cfg.freq[freq_id]`.  An index out of range or an entry
that is not valid is a fault of the access. -/
def freqAt (table : WddrTable) (freqId : UInt8) : Except Fault WddrFreqCfg :=
  if table.validFreq freqId then .ok (table.freq freqId.toNat)
  else .error .tableIndex

theorem freqAt_of_valid {table : WddrTable} {freqId : UInt8}
    (valid : table.validFreq freqId = true) :
    table.freqAt freqId = .ok (table.freq freqId.toNat) := by
  simp [freqAt, valid]

theorem toNat_lt_of_validFreq {table : WddrTable} {freqId : UInt8}
    (valid : table.validFreq freqId = true) :
    freqId.toNat < wddrPhyFreqNum := by
  simp only [validFreq, Bool.and_eq_true, decide_eq_true_eq] at valid
  exact valid.1

theorem validFreq_of_valid_eq {table other : WddrTable} (same : other.valid = table.valid)
    (freqId : UInt8) : other.validFreq freqId = table.validFreq freqId := by
  simp only [validFreq, same]

end WddrTable

/-- `WDDR_FREQ_VALID_TABLE`: the frequencies of the table are marked valid. -/
def ValidTable (table : WddrTable) : Prop :=
  ∀ freqId, freqId < wddrPhyValidFreqNum → table.valid freqId = true

theorem ValidTable.validFreq {table : WddrTable} (valid : ValidTable table) {freqId : UInt8}
    (filled : freqId.toNat < wddrPhyValidFreqNum) : table.validFreq freqId = true := by
  have marked := valid freqId.toNat filled
  simp only [WddrTable.validFreq, marked, Bool.and_true, decide_eq_true_eq]
  exact filled

theorem ValidTable.bootFreq {table : WddrTable} (valid : ValidTable table) :
    table.validFreq wddrPhyBootFreq = true :=
  valid.validFreq (by decide)

deriving instance Inhabited for PiCfg, LpdeCfg, RxPiCfg, TxPiCfg, SdrPipelineCfg,
  DdrPipelineCfg, PipelineBitCfg, RtPipelineCfg, EgressDigMode, EgressAnaMode, EgressBitCfg,
  GbDataMode, GbWriteMode, GbFifoMode, GbWckMode, RxGbCfg, TxGbCfg, DriverMode,
  DriverImpedance, ZqcalVoh, DriverCmnCfg, DriverOverride, DriverCfg, ReceiverMode,
  ReceiverPathState, ReceiverFreqCfg, ReceiverCommonCfg, DqRxRankCfg, DqRxPathFreqCfg,
  DqRxPathCommonCfg, DqsTxRankCfg, DqTxRankCfg, DqTxPathFreqCfg, DqPathFreqCfg,
  CaRxPathFreqCfg, CaTxRankCfg, CkTxRankCfg, CaTxPathFreqCfg, CaPathFreqCfg, VrefPwrMode,
  VrefCfg, DfiPipeCfg, DfiPadenPextCfg, DfiFreqCfg, WddrFreqRatio, DramFreqCfg, VcoCfg,
  PllFreqCfg, ChannelFreqCfg, WddrFreqCfg, WddrCommonCfg, WddrTable

/-- A table whose entries are all alike and marked valid. -/
def referenceTable : WddrTable :=
  { (default : WddrTable) with valid := fun freqId => freqId < wddrPhyValidFreqNum }

theorem validTable_referenceTable : ValidTable referenceTable := by
  intro freqId filled
  simpa [referenceTable] using filled

end WavLpddr
