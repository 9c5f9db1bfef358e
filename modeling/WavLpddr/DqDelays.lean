import WavLpddr.DelayWords
import WavLpddr.Lib.Footprint

/-!
# The delay elements of a DQ byte

Each register of a phase interpolator or a delay line belongs to one entry of the frequency
table.  Boot writes them for both banks and both ranks, a frequency switch for its bank.
-/

namespace WavLpddr

open RegisterFile

/-- The delay elements of a DQ byte. -/
inductive DqDelay
  | dqOdr | dqQdr | dqDdr | dqRt
  | dqLpde (bit : Nat)
  | dqsOdr | dqsQdr | dqsDdr | dqsRt | dqsSdr | dqsDfi
  | dqsLpde (bit : Nat)
  | rxRen | rxRcs | rxRdqs | rxSdrLpde

namespace DqDelay

/-- The slice exists. -/
def Present : DqDelay → Prop
  | .dqLpde bit => bit < wddrPhyDqSliceNum
  | .dqsLpde bit => bit < wddrPhyDqsTxrxSliceNum
  | _ => True

def reg (msr : WddrMsr) (rank : Nat) : DqDelay → ArrayReg DqRegName
  | .dqOdr => ⟨.ddrDqDqTxOdrPiCfg, [msr.index, rank]⟩
  | .dqQdr => ⟨.ddrDqDqTxQdrPi0Cfg, [msr.index, rank]⟩
  | .dqDdr => ⟨.ddrDqDqTxDdrPi0Cfg, [msr.index, rank]⟩
  | .dqRt => ⟨.ddrDqDqTxPiRtCfg, [msr.index, rank]⟩
  | .dqLpde bit => ⟨.ddrDqDqTxLpdeCfg, [msr.index, rank, bit]⟩
  | .dqsOdr => ⟨.ddrDqDqsTxOdrPiCfg, [msr.index, rank]⟩
  | .dqsQdr => ⟨.ddrDqDqsTxQdrPi0Cfg, [msr.index, rank]⟩
  | .dqsDdr => ⟨.ddrDqDqsTxDdrPi0Cfg, [msr.index, rank]⟩
  | .dqsRt => ⟨.ddrDqDqsTxPiRtCfg, [msr.index, rank]⟩
  | .dqsSdr => ⟨.ddrDqDqsTxSdrPiCfg, [msr.index, rank]⟩
  | .dqsDfi => ⟨.ddrDqDqsTxDfiPiCfg, [msr.index, rank]⟩
  | .dqsLpde bit => ⟨.ddrDqDqsTxLpdeCfg, [msr.index, rank, bit]⟩
  | .rxRen => ⟨.ddrDqDqsRxRenPiCfg, [msr.index, rank]⟩
  | .rxRcs => ⟨.ddrDqDqsRxRcsPiCfg, [msr.index, rank]⟩
  | .rxRdqs => ⟨.ddrDqDqsRxRdqsPi0Cfg, [msr.index, rank]⟩
  | .rxSdrLpde => ⟨.ddrDqDqsRxSdrLpdeCfg, [msr.index, rank]⟩

/-- The element's entry of the table. -/
def entry (cfg : DqPathFreqCfg) (rank : Nat) : DqDelay → DelayEntry
  | .dqOdr => .pi (cfg.tx.dq rank).pi.odr
  | .dqQdr => .pi (cfg.tx.dq rank).pi.qdr
  | .dqDdr => .pi (cfg.tx.dq rank).pi.ddr
  | .dqRt => .pi (cfg.tx.dq rank).pi.rt
  | .dqLpde bit => .lpde ((cfg.tx.dq rank).lpde bit)
  | .dqsOdr => .pi (cfg.tx.dqs rank).pi.odr
  | .dqsQdr => .pi (cfg.tx.dqs rank).pi.qdr
  | .dqsDdr => .pi (cfg.tx.dqs rank).pi.ddr
  | .dqsRt => .pi (cfg.tx.dqs rank).pi.rt
  | .dqsSdr => .matchPi (cfg.tx.dqs rank).pi.sdr
  | .dqsDfi => .matchPi (cfg.tx.dqs rank).pi.dfi
  | .dqsLpde bit => .lpde ((cfg.tx.dqs rank).lpde bit)
  | .rxRen => .pi (cfg.rx.dqs rank).pi.ren
  | .rxRcs => .pi (cfg.rx.dqs rank).pi.rcs
  | .rxRdqs => .pi (cfg.rx.dqs rank).pi.rdqs
  | .rxSdrLpde => .lpde (cfg.rx.dqs rank).sdrLpde

/-- The fields of the element's register, with the values of its entry. -/
def fields (cfg : DqPathFreqCfg) (rank : Nat) : DqDelay → FieldValues
  | .dqOdr => piFields ddrDqDqTxOdrPiM1R0CfgCode ddrDqDqTxOdrPiM1R0CfgGear
      ddrDqDqTxOdrPiM1R0CfgXcpl ddrDqDqTxOdrPiM1R0CfgEn (cfg.tx.dq rank).pi.odr
  | .dqQdr => piFields ddrDqDqTxQdrPi0M1R0CfgCode ddrDqDqTxQdrPi0M1R0CfgGear
      ddrDqDqTxQdrPi0M1R0CfgXcpl ddrDqDqTxQdrPi0M1R0CfgEn (cfg.tx.dq rank).pi.qdr
  | .dqDdr => piFields ddrDqDqTxDdrPi0M1R0CfgCode ddrDqDqTxDdrPi0M1R0CfgGear
      ddrDqDqTxDdrPi0M1R0CfgXcpl ddrDqDqTxDdrPi0M1R0CfgEn (cfg.tx.dq rank).pi.ddr
  | .dqRt => piFields ddrDqDqTxPiRtM1R0CfgCode ddrDqDqTxPiRtM1R0CfgGear
      ddrDqDqTxPiRtM1R0CfgXcpl ddrDqDqTxPiRtM1R0CfgEn (cfg.tx.dq rank).pi.rt
  | .dqLpde bit => lpdeFields ddrDqDqTxLpdeM0R0Cfg0CtrlBin ddrDqDqTxLpdeM0R0Cfg0Gear
      ddrDqDqTxLpdeM0R0Cfg0En ((cfg.tx.dq rank).lpde bit)
  | .dqsOdr => piFields ddrDqDqsTxOdrPiM1R0CfgCode ddrDqDqsTxOdrPiM1R0CfgGear
      ddrDqDqsTxOdrPiM1R0CfgXcpl ddrDqDqsTxOdrPiM1R0CfgEn (cfg.tx.dqs rank).pi.odr
  | .dqsQdr => piFields ddrDqDqsTxQdrPi0M1R0CfgCode ddrDqDqsTxQdrPi0M1R0CfgGear
      ddrDqDqsTxQdrPi0M1R0CfgXcpl ddrDqDqsTxQdrPi0M1R0CfgEn (cfg.tx.dqs rank).pi.qdr
  | .dqsDdr => piFields ddrDqDqsTxDdrPi0M1R0CfgCode ddrDqDqsTxDdrPi0M1R0CfgGear
      ddrDqDqsTxDdrPi0M1R0CfgXcpl ddrDqDqsTxDdrPi0M1R0CfgEn (cfg.tx.dqs rank).pi.ddr
  | .dqsRt => piFields ddrDqDqsTxPiRtM1R0CfgCode ddrDqDqsTxPiRtM1R0CfgGear
      ddrDqDqsTxPiRtM1R0CfgXcpl ddrDqDqsTxPiRtM1R0CfgEn (cfg.tx.dqs rank).pi.rt
  | .dqsSdr => matchPiFields ddrDqDqsTxSdrPiM0R0CfgGear ddrDqDqsTxSdrPiM0R0CfgXcpl
      ddrDqDqsTxSdrPiM0R0CfgEn (cfg.tx.dqs rank).pi.sdr
  | .dqsDfi => matchPiFields ddrDqDqsTxDfiPiM0R0CfgGear ddrDqDqsTxDfiPiM0R0CfgXcpl
      ddrDqDqsTxDfiPiM0R0CfgEn (cfg.tx.dqs rank).pi.dfi
  | .dqsLpde bit => lpdeFields ddrDqDqsTxLpdeM0R0Cfg0CtrlBin ddrDqDqsTxLpdeM0R0Cfg0Gear
      ddrDqDqsTxLpdeM0R0Cfg0En ((cfg.tx.dqs rank).lpde bit)
  | .rxRen => piFields ddrDqDqsRxRenPiM1R0CfgCode ddrDqDqsRxRenPiM1R0CfgGear
      ddrDqDqsRxRenPiM1R0CfgXcpl ddrDqDqsRxRenPiM1R0CfgEn (cfg.rx.dqs rank).pi.ren
  | .rxRcs => piFields ddrDqDqsRxRcsPiM1R0CfgCode ddrDqDqsRxRcsPiM1R0CfgGear
      ddrDqDqsRxRcsPiM1R0CfgXcpl ddrDqDqsRxRcsPiM1R0CfgEn (cfg.rx.dqs rank).pi.rcs
  | .rxRdqs => piFields ddrDqDqsRxRdqsPi0M1R0CfgCode ddrDqDqsRxRdqsPi0M1R0CfgGear
      ddrDqDqsRxRdqsPi0M1R0CfgXcpl ddrDqDqsRxRdqsPi0M1R0CfgEn (cfg.rx.dqs rank).pi.rdqs
  | .rxSdrLpde => lpdeFields ddrDqDqsRxSdrLpdeM1R0CfgCtrlBin ddrDqDqsRxSdrLpdeM1R0CfgGear
      ddrDqDqsRxSdrLpdeM1R0CfgEn (cfg.rx.dqs rank).sdrLpde

/-- The masks of a kind are the same in all of its registers. -/
theorem fields_eq (cfg : DqPathFreqCfg) (rank : Nat) (element : DqDelay) :
    element.fields cfg rank = (element.entry cfg rank).fields := by
  cases element <;> rfl

end DqDelay

section Setters

variable {Name : Type} [DecidableEq Name] {name other : Name} {msr : WddrMsr}
  {rank count : Nat} {enable : Bool} {index : List Nat} {lpde : Nat → LpdeCfg}
  (regs : Registers (ArrayReg Name) 32)

theorem write_of_name_ne (different : other ≠ name) {index written : List Nat} (value : Word) :
    write ⟨name, written⟩ value regs ⟨other, index⟩ = regs ⟨other, index⟩ :=
  write_of_ne (fun same => different (congrArg ArrayReg.name same)) value regs

theorem piSet_self [KernelIo] (en : RegField) (pi : PiCfg) :
    piSetCfgRegIf name en msr rank enable pi regs ⟨name, [msr.index, rank]⟩ =
      updateRegField pi.val en (boolWord enable) :=
  write_self _ _ regs

theorem piSet_of_ne [KernelIo] (different : other ≠ name) (en : RegField) (pi : PiCfg) :
    piSetCfgRegIf name en msr rank enable pi regs ⟨other, index⟩ = regs ⟨other, index⟩ :=
  write_of_name_ne regs different _

theorem lpdeRxSdr_of_ne (different : other ≠ name) (cfg : LpdeCfg) :
    lpdeRxSdrSetCfgRegIf name msr rank enable cfg regs ⟨other, index⟩ = regs ⟨other, index⟩ :=
  write_of_name_ne regs different _

omit [DecidableEq Name] in
theorem outside_bank {Config : Type} {names : List Name}
    {update : Config → Registers (ArrayReg Name) 32 → Registers (ArrayReg Name) 32}
    (overwrites : Overwrites (bankOf names msr) update) (notListed : other ∉ names)
    (config : Config) : update config regs ⟨other, index⟩ = regs ⟨other, index⟩ :=
  (Rewrites.of_overwrites overwrites).outside config regs _ fun inside => notListed inside.1

theorem lpdeLoop_self {bit : Nat} (inRange : bit < count) :
    forRange count (fun bit => lpdeSetCfgRegIf name msr rank bit enable (lpde bit)) regs
      ⟨name, [msr.index, rank, bit]⟩ = (lpde bit).val := by
  refine forRange_at (fun regs : Registers (ArrayReg Name) 32 =>
    regs ⟨name, [msr.index, rank, bit]⟩) inRange ?_ ?_ regs
  · intro state
    exact write_self _ _ state
  · intro earlier state different
    apply write_of_ne
    simpa using Ne.symm different

theorem lpdeLoop_of_ne (different : other ≠ name) :
    forRange count (fun bit => lpdeSetCfgRegIf name msr rank bit enable (lpde bit)) regs
      ⟨other, index⟩ = regs ⟨other, index⟩ :=
  forRange_observe (fun regs : Registers (ArrayReg Name) 32 => regs ⟨other, index⟩)
    (fun _ state => write_of_name_ne state different _) regs

end Setters

section Boot

variable [KernelIo] (msr : WddrMsr) (rank : Nat)

/-- What boot writes for an element of a DQ byte. -/
theorem dqByteEnable_reg (cfg : DqPathFreqCfg) {element : DqDelay} (present : element.Present)
    (dqReg : DqRegs) :
    dqByteEnable msr rank true cfg dqReg (element.reg msr rank) =
      (element.entry cfg rank).bootWord := by
  simp only [dqByteEnable, dqDqPiOdrSetCfgRegIf, dqDqPiQdrSetCfgRegIf, dqDqPiDdrSetCfgRegIf,
    dqDqPiRtSetCfgRegIf, dqDqLpdeSetCfgRegIf, dqDqsPiOdrSetCfgRegIf, dqDqsPiQdrSetCfgRegIf,
    dqDqsPiDdrSetCfgRegIf, dqDqsPiRtSetCfgRegIf, dqDqsPiSdrSetCfgRegIf,
    dqDqsPiDfiSetCfgRegIf, dqDqsLpdeSetCfgRegIf, dqDqsPiRenSetCfgRegIf,
    dqDqsPiRcsSetCfgRegIf, dqDqsPiRdqsSetCfgRegIf, dqDqsLpdeRxSdrSetCfgRegIf]
  cases element
  case dqLpde bit =>
    simp (disch := decide) only [DqDelay.reg, piSet_of_ne, lpdeLoop_of_ne, lpdeRxSdr_of_ne]
    exact lpdeLoop_self _ present
  case dqsLpde bit =>
    simp (disch := decide) only [DqDelay.reg, piSet_of_ne, lpdeRxSdr_of_ne]
    exact lpdeLoop_self _ present
  case rxSdrLpde => exact write_self _ _ _
  all_goals
    simp (disch := decide) only [DqDelay.reg, piSet_of_ne, lpdeLoop_of_ne, lpdeRxSdr_of_ne,
      piSet_self]
    rfl

/-- The registers of one bank and rank. -/
def rankRegs {Name : Type} : Set (ArrayReg Name) :=
  {reg | reg.index.take 2 = [msr.index, rank]}

omit [KernelIo] in
theorem mem_rankRegs {Name : Type} {name : Name} {rest : List Nat} :
    (⟨name, msr.index :: rank :: rest⟩ : ArrayReg Name) ∈ rankRegs msr rank := rfl

theorem dqByteEnable_confined (enable : Bool) (cfg : DqPathFreqCfg) :
    Confined (rankRegs msr rank) (dqByteEnable msr rank enable cfg) := by
  -- The loops over the slices are unrolled.
  repeat refine .thenWrite ?_ (mem_rankRegs msr rank) _
  exact .id

end Boot

section Switch

variable [KernelIo] (msr : WddrMsr) {rank : Nat}

section Parts

variable {name : DqRegName} {index : List Nat} (dqReg : DqRegs)

theorem rxPathDq_of_notMem (notListed : name ∉ rxDqNames) (cfg : DqRxPathFreqCfg)
    (commonCfg : DqRxPathCommonCfg) :
    rxPathDqBlockFreqSwitchPrep msr cfg commonCfg dqReg ⟨name, index⟩ = dqReg ⟨name, index⟩ :=
  outside_bank dqReg (rxPathDq_overwrites msr) notListed (cfg, commonCfg)

theorem txDqsGearbox_of_ne (different : name ≠ .ddrDqDqsTxCfg) (cfg : DqTxPathFreqCfg) :
    txDqsGearboxPrep msr cfg dqReg ⟨name, index⟩ = dqReg ⟨name, index⟩ :=
  write_of_name_ne dqReg different _

theorem txDqsSlices_of_notMem (notListed : name ∉ txDqsSliceNames) (cfg : DqTxPathFreqCfg)
    (regVal : Word) :
    txDqsSlicesPrep msr cfg regVal dqReg ⟨name, index⟩ = dqReg ⟨name, index⟩ :=
  outside_bank dqReg (txDqsSlices_overwrites msr) notListed (cfg, regVal)

theorem txDqSlices_of_notMem (notListed : name ∉ txDqSliceNames) (cfg : DqTxPathFreqCfg)
    (regVal : Word) :
    txDqSlicesPrep msr cfg regVal dqReg ⟨name, index⟩ = dqReg ⟨name, index⟩ :=
  outside_bank dqReg (txDqSlices_overwrites msr) notListed (cfg, regVal)

end Parts

/-- The bit pipeline writes the delay line of its slice, for every rank. -/
theorem txBitPipelinePrepDq_lpde (inRank : rank < wddrPhyRank) (bit : Nat)
    (cfg : DqTxPathFreqCfg) (dqReg : DqRegs) :
    txBitPipelinePrepDq msr bit cfg dqReg ⟨.ddrDqDqTxLpdeCfg, [msr.index, rank, bit]⟩ =
      (DelayEntry.lpde ((cfg.dq rank).lpde bit)).switchWord := by
  refine forRange_at (fun regs : DqRegs => regs _) inRank ?_ ?_ dqReg
  · intro state
    exact write_self _ _ _
  · intro other state different
    simp [Ne.symm different]

theorem txBitPipelinePrepDq_lpde_of_ne {bit other : Nat} (different : other ≠ bit)
    (cfg : DqTxPathFreqCfg) (dqReg : DqRegs) :
    txBitPipelinePrepDq msr other cfg dqReg ⟨.ddrDqDqTxLpdeCfg, [msr.index, rank, bit]⟩ =
      dqReg ⟨.ddrDqDqTxLpdeCfg, [msr.index, rank, bit]⟩ := by
  refine forRange_observe (fun regs : DqRegs => regs _) ?_ dqReg
  intro index state
  simp [Ne.symm different]

theorem txBitPipelinePrepDqs_lpde (inRank : rank < wddrPhyRank) {bit : Nat}
    (driven : bit < wddrPhyDqsTxrxSliceNum) (cfg : DqTxPathFreqCfg) (dqReg : DqRegs) :
    txBitPipelinePrepDqs msr bit cfg dqReg ⟨.ddrDqDqsTxLpdeCfg, [msr.index, rank, bit]⟩ =
      (DelayEntry.lpde ((cfg.dqs rank).lpde bit)).switchWord := by
  refine forRange_at (fun regs : DqRegs => regs _) inRank ?_ ?_ dqReg
  · intro state
    simp only [whenever, driven, if_true]
    exact write_self _ _ _
  · intro other state different
    simp [whenever, driven, Ne.symm different]

theorem txBitPipelinePrepDqs_lpde_of_ne {bit other : Nat} (different : other ≠ bit)
    (cfg : DqTxPathFreqCfg) (dqReg : DqRegs) :
    txBitPipelinePrepDqs msr other cfg dqReg ⟨.ddrDqDqsTxLpdeCfg, [msr.index, rank, bit]⟩ =
      dqReg ⟨.ddrDqDqsTxLpdeCfg, [msr.index, rank, bit]⟩ := by
  refine forRange_observe (fun regs : DqRegs => regs _) ?_ dqReg
  intro index state
  simp [whenever, ite_apply, Ne.symm different]

/-- What a frequency switch writes for an element of a DQ byte. -/
theorem dqBlockFreqSwitchPrep_reg (inRank : rank < wddrPhyRank) (zqcal : ZqcalCfg)
    (cfg : DqPathFreqCfg) (commonCfg : DqRxPathCommonCfg) {element : DqDelay}
    (present : element.Present) (dqReg : DqRegs) :
    dqBlockFreqSwitchPrep msr zqcal cfg commonCfg dqReg (element.reg msr rank) =
      (element.entry cfg rank).switchWord := by
  simp only [dqBlockFreqSwitchPrep, txPathDqBlockFreqSwitchPrep]
  cases element
  case dqLpde bit =>
    simp (disch := decide) only [DqDelay.reg, rxPathDq_of_notMem, txDqsGearbox_of_ne,
      txDqsSlices_of_notMem]
    refine forRange_at (fun regs : DqRegs => regs _) present ?_ ?_ _
    · intro state
      simpa [DqDelay.entry] using txBitPipelinePrepDq_lpde msr inRank bit cfg.tx state
    · intro other state different
      simpa using txBitPipelinePrepDq_lpde_of_ne msr different cfg.tx state
  case dqsLpde bit =>
    simp (disch := decide) only [DqDelay.reg, rxPathDq_of_notMem, txDqsGearbox_of_ne]
    have driven : bit < wddrPhyDqsTxrxSliceNum := present
    have inSlices : bit < wddrPhyDqsSliceNum := driven.trans (by decide)
    refine forRange_at (fun regs : DqRegs => regs _) inSlices ?_ ?_ _
    · intro state
      simpa [DqDelay.entry, whenever, driven] using
        txBitPipelinePrepDqs_lpde msr inRank driven cfg.tx state
    · intro other state different
      simpa [whenever, ite_apply] using
        txBitPipelinePrepDqs_lpde_of_ne msr different cfg.tx state
  case rxRen | rxRcs | rxRdqs | rxSdrLpde =>
    refine forRange_at (fun regs : DqRegs => regs _) inRank ?_ ?_ _
    · intro state
      simp [DqDelay.reg, modifyReg_apply]
      rfl
    · intro other state different
      simp [DqDelay.reg, modifyReg_apply, Ne.symm different]
  all_goals
    simp (disch := decide) only [DqDelay.reg, rxPathDq_of_notMem, txDqsGearbox_of_ne,
      txDqsSlices_of_notMem, txDqSlices_of_notMem]
    refine forRange_at (fun regs : DqRegs => regs _) inRank ?_ ?_ _
    · intro state
      simp
      rfl
    · intro other state different
      simp [Ne.symm different]

end Switch

end WavLpddr
