import WavLpddr.DqDelays

/-!
# The delay elements of the CA block

The CA block follows the DQ byte, but a frequency switch takes one interpolator of CK from
the entry of CA.
-/

namespace WavLpddr

open RegisterFile

inductive CaDelay
  | caOdr | caQdr | caDdr | caRt
  | caLpde (bit : Nat)
  | ckOdr | ckQdr | ckDdr | ckRt | ckSdr | ckDfi
  | ckLpde (bit : Nat)
  | rxSdrLpde

namespace CaDelay

/-- The slice exists. -/
def Present : CaDelay → Prop
  | .caLpde bit => bit < wddrPhyCaSliceNum
  | .ckLpde bit => bit < wddrPhyCkSliceNum
  | _ => True

def reg (msr : WddrMsr) (rank : Nat) : CaDelay → ArrayReg CaRegName
  | .caOdr => ⟨.ddrCaDqTxOdrPiCfg, [msr.index, rank]⟩
  | .caQdr => ⟨.ddrCaDqTxQdrPi0Cfg, [msr.index, rank]⟩
  | .caDdr => ⟨.ddrCaDqTxDdrPi0Cfg, [msr.index, rank]⟩
  | .caRt => ⟨.ddrCaDqTxPiRtCfg, [msr.index, rank]⟩
  | .caLpde bit => ⟨.ddrCaDqTxLpdeCfg, [msr.index, rank, bit]⟩
  | .ckOdr => ⟨.ddrCaDqsTxOdrPiCfg, [msr.index, rank]⟩
  | .ckQdr => ⟨.ddrCaDqsTxQdrPi0Cfg, [msr.index, rank]⟩
  | .ckDdr => ⟨.ddrCaDqsTxDdrPi0Cfg, [msr.index, rank]⟩
  | .ckRt => ⟨.ddrCaDqsTxPiRtCfg, [msr.index, rank]⟩
  | .ckSdr => ⟨.ddrCaDqsTxSdrPiCfg, [msr.index, rank]⟩
  | .ckDfi => ⟨.ddrCaDqsTxDfiPiCfg, [msr.index, rank]⟩
  | .ckLpde bit => ⟨.ddrCaDqsTxLpdeCfg, [msr.index, rank, bit]⟩
  | .rxSdrLpde => ⟨.ddrCaDqsRxSdrLpdeCfg, [msr.index, rank]⟩

/-- The element's own entry of the table. -/
def entry (cfg : CaPathFreqCfg) (rank : Nat) : CaDelay → DelayEntry
  | .caOdr => .pi (cfg.tx.ca rank).pi.odr
  | .caQdr => .pi (cfg.tx.ca rank).pi.qdr
  | .caDdr => .pi (cfg.tx.ca rank).pi.ddr
  | .caRt => .pi (cfg.tx.ca rank).pi.rt
  | .caLpde bit => .lpde ((cfg.tx.ca rank).lpde bit)
  | .ckOdr => .pi (cfg.tx.ck rank).pi.odr
  | .ckQdr => .pi (cfg.tx.ck rank).pi.qdr
  | .ckDdr => .pi (cfg.tx.ck rank).pi.ddr
  | .ckRt => .pi (cfg.tx.ck rank).pi.rt
  | .ckSdr => .matchPi (cfg.tx.ck rank).pi.sdr
  | .ckDfi => .matchPi (cfg.tx.ck rank).pi.dfi
  | .ckLpde bit => .lpde ((cfg.tx.ck rank).lpde bit)
  | .rxSdrLpde => .lpde (cfg.rx.sdrLpde rank)

/-- The entry that a frequency switch reads. -/
def switchEntry (cfg : CaPathFreqCfg) (rank : Nat) : CaDelay → DelayEntry
  | .ckDdr => .pi (cfg.tx.ca rank).pi.ddr
  | element => element.entry cfg rank

/-- The fields of the element's register, with the values of its own entry. -/
def fields (cfg : CaPathFreqCfg) (rank : Nat) : CaDelay → FieldValues
  | .caOdr => piFields ddrCaDqTxOdrPiM1R0CfgCode ddrCaDqTxOdrPiM1R0CfgGear
      ddrCaDqTxOdrPiM1R0CfgXcpl ddrCaDqTxOdrPiM1R0CfgEn (cfg.tx.ca rank).pi.odr
  | .caQdr => piFields ddrCaDqTxQdrPi0M1R0CfgCode ddrCaDqTxQdrPi0M1R0CfgGear
      ddrCaDqTxQdrPi0M1R0CfgXcpl ddrCaDqTxQdrPi0M1R0CfgEn (cfg.tx.ca rank).pi.qdr
  | .caDdr => piFields ddrCaDqTxDdrPi0M1R0CfgCode ddrCaDqTxDdrPi0M1R0CfgGear
      ddrCaDqTxDdrPi0M1R0CfgXcpl ddrCaDqTxDdrPi0M1R0CfgEn (cfg.tx.ca rank).pi.ddr
  | .caRt => piFields ddrCaDqTxPiRtM1R0CfgCode ddrCaDqTxPiRtM1R0CfgGear
      ddrCaDqTxPiRtM1R0CfgXcpl ddrCaDqTxPiRtM1R0CfgEn (cfg.tx.ca rank).pi.rt
  | .caLpde bit => lpdeFields ddrCaDqTxLpdeM0R0Cfg0CtrlBin ddrCaDqTxLpdeM0R0Cfg0Gear
      ddrCaDqTxLpdeM0R0Cfg0En ((cfg.tx.ca rank).lpde bit)
  | .ckOdr => piFields ddrCaDqsTxOdrPiM1R0CfgCode ddrCaDqsTxOdrPiM1R0CfgGear
      ddrCaDqsTxOdrPiM1R0CfgXcpl ddrCaDqsTxOdrPiM1R0CfgEn (cfg.tx.ck rank).pi.odr
  | .ckQdr => piFields ddrCaDqsTxQdrPi0M1R0CfgCode ddrCaDqsTxQdrPi0M1R0CfgGear
      ddrCaDqsTxQdrPi0M1R0CfgXcpl ddrCaDqsTxQdrPi0M1R0CfgEn (cfg.tx.ck rank).pi.qdr
  | .ckDdr => piFields ddrCaDqsTxDdrPi0M1R0CfgCode ddrCaDqsTxDdrPi0M1R0CfgGear
      ddrCaDqsTxDdrPi0M1R0CfgXcpl ddrCaDqsTxDdrPi0M1R0CfgEn (cfg.tx.ck rank).pi.ddr
  | .ckRt => piFields ddrCaDqsTxPiRtM1R0CfgCode ddrCaDqsTxPiRtM1R0CfgGear
      ddrCaDqsTxPiRtM1R0CfgXcpl ddrCaDqsTxPiRtM1R0CfgEn (cfg.tx.ck rank).pi.rt
  | .ckSdr => matchPiFields ddrCaDqsTxSdrPiM1R0CfgGear ddrCaDqsTxSdrPiM1R0CfgXcpl
      ddrCaDqsTxSdrPiM1R0CfgEn (cfg.tx.ck rank).pi.sdr
  | .ckDfi => matchPiFields ddrCaDqsTxDfiPiM1R0CfgGear ddrCaDqsTxDfiPiM1R0CfgXcpl
      ddrCaDqsTxDfiPiM1R0CfgEn (cfg.tx.ck rank).pi.dfi
  | .ckLpde bit => lpdeFields ddrCaDqsTxLpdeM0R0Cfg0CtrlBin ddrCaDqsTxLpdeM0R0Cfg0Gear
      ddrCaDqsTxLpdeM0R0Cfg0En ((cfg.tx.ck rank).lpde bit)
  | .rxSdrLpde => lpdeFields ddrCaDqsRxSdrLpdeM1R0CfgCtrlBin ddrCaDqsRxSdrLpdeM1R0CfgGear
      ddrCaDqsRxSdrLpdeM1R0CfgEn (cfg.rx.sdrLpde rank)

theorem fields_eq (cfg : CaPathFreqCfg) (rank : Nat) (element : CaDelay) :
    element.fields cfg rank = (element.entry cfg rank).fields := by
  cases element <;> rfl

end CaDelay

variable [KernelIo] (msr : WddrMsr) {rank : Nat}

section Boot

variable (rank)

theorem caBlockEnable_reg (cfg : CaPathFreqCfg) {element : CaDelay} (present : element.Present)
    (caReg : CaRegs) :
    caBlockEnable msr rank true cfg caReg (element.reg msr rank) =
      (element.entry cfg rank).bootWord := by
  simp only [caBlockEnable, caDqPiOdrSetCfgRegIf, caDqPiQdrSetCfgRegIf, caDqPiDdrSetCfgRegIf,
    caDqPiRtSetCfgRegIf, caDqLpdeSetCfgRegIf, caDqsPiOdrSetCfgRegIf, caDqsPiQdrSetCfgRegIf,
    caDqsPiDdrSetCfgRegIf, caDqsPiRtSetCfgRegIf, caDqsPiSdrSetCfgRegIf,
    caDqsPiDfiSetCfgRegIf, caDqsLpdeSetCfgRegIf, caDqsLpdeRxSdrSetCfgRegIf]
  cases element
  case caLpde bit =>
    simp (disch := decide) only [CaDelay.reg, piSet_of_ne, lpdeLoop_of_ne, lpdeRxSdr_of_ne]
    exact lpdeLoop_self _ present
  case ckLpde bit =>
    simp (disch := decide) only [CaDelay.reg, lpdeRxSdr_of_ne]
    exact lpdeLoop_self _ present
  case rxSdrLpde => exact write_self _ _ _
  all_goals
    simp (disch := decide) only [CaDelay.reg, piSet_of_ne, lpdeLoop_of_ne, lpdeRxSdr_of_ne,
      piSet_self]
    rfl

theorem caBlockEnable_confined (enable : Bool) (cfg : CaPathFreqCfg) :
    Confined (rankRegs msr rank) (caBlockEnable msr rank enable cfg) := by
  repeat refine .thenWrite ?_ (mem_rankRegs msr rank) _
  exact .id

end Boot

section Switch

section Parts

variable {name : CaRegName} {index : List Nat} (caReg : CaRegs)

theorem rxPathCa_of_notMem (notListed : name ∉ rxCaNames) (cfg : CaRxPathFreqCfg) :
    rxPathCaBlockFreqSwitchPrep msr cfg caReg ⟨name, index⟩ = caReg ⟨name, index⟩ :=
  outside_bank caReg (rxPathCa_overwrites msr) notListed cfg

theorem txCkGearbox_of_ne (different : name ≠ .ddrCaDqsTxCfg) (cfg : CaTxPathFreqCfg) :
    txCkGearboxPrep msr cfg caReg ⟨name, index⟩ = caReg ⟨name, index⟩ :=
  write_of_name_ne caReg different _

theorem txCkSlices_of_notMem (notListed : name ∉ txCkSliceNames) (cfg : CaTxPathFreqCfg)
    (regVal : Word) :
    txCkSlicesPrep msr cfg regVal caReg ⟨name, index⟩ = caReg ⟨name, index⟩ :=
  outside_bank caReg (txCkSlices_overwrites msr) notListed (cfg, regVal)

theorem txCaSlices_of_notMem (notListed : name ∉ txCaSliceNames) (cfg : CaTxPathFreqCfg)
    (regVal : Word) :
    txCaSlicesPrep msr cfg regVal caReg ⟨name, index⟩ = caReg ⟨name, index⟩ :=
  outside_bank caReg (txCaSlices_overwrites msr) notListed (cfg, regVal)

end Parts

theorem txBitPipelinePrepCa_lpde (inRank : rank < wddrPhyRank) (bit : Nat)
    (cfg : CaTxPathFreqCfg) (caReg : CaRegs) :
    txBitPipelinePrepCa msr bit cfg caReg ⟨.ddrCaDqTxLpdeCfg, [msr.index, rank, bit]⟩ =
      (DelayEntry.lpde ((cfg.ca rank).lpde bit)).switchWord := by
  refine forRange_at (fun regs : CaRegs => regs _) inRank ?_ ?_ caReg
  · intro state
    exact write_self _ _ _
  · intro other state different
    simp [Ne.symm different]

theorem txBitPipelinePrepCa_lpde_of_ne {bit other : Nat} (different : other ≠ bit)
    (cfg : CaTxPathFreqCfg) (caReg : CaRegs) :
    txBitPipelinePrepCa msr other cfg caReg ⟨.ddrCaDqTxLpdeCfg, [msr.index, rank, bit]⟩ =
      caReg ⟨.ddrCaDqTxLpdeCfg, [msr.index, rank, bit]⟩ := by
  refine forRange_observe (fun regs : CaRegs => regs _) ?_ caReg
  intro index state
  simp [Ne.symm different]

theorem txBitPipelinePrepCk_lpde (inRank : rank < wddrPhyRank) (bit : Nat)
    (cfg : CaTxPathFreqCfg) (caReg : CaRegs) :
    txBitPipelinePrepCk msr bit cfg caReg ⟨.ddrCaDqsTxLpdeCfg, [msr.index, rank, bit]⟩ =
      (DelayEntry.lpde ((cfg.ck rank).lpde bit)).switchWord := by
  refine forRange_at (fun regs : CaRegs => regs _) inRank ?_ ?_ caReg
  · intro state
    exact write_self _ _ _
  · intro other state different
    simp [Ne.symm different]

theorem txBitPipelinePrepCk_lpde_of_ne {bit other : Nat} (different : other ≠ bit)
    (cfg : CaTxPathFreqCfg) (caReg : CaRegs) :
    txBitPipelinePrepCk msr other cfg caReg ⟨.ddrCaDqsTxLpdeCfg, [msr.index, rank, bit]⟩ =
      caReg ⟨.ddrCaDqsTxLpdeCfg, [msr.index, rank, bit]⟩ := by
  refine forRange_observe (fun regs : CaRegs => regs _) ?_ caReg
  intro index state
  simp [Ne.symm different]

theorem caBlockFreqSwitchPrep_reg (inRank : rank < wddrPhyRank) (zqcal : ZqcalCfg)
    (cfg : CaPathFreqCfg) {element : CaDelay} (present : element.Present) (caReg : CaRegs) :
    caBlockFreqSwitchPrep msr zqcal cfg caReg (element.reg msr rank) =
      (element.switchEntry cfg rank).switchWord := by
  simp only [caBlockFreqSwitchPrep, txPathCaBlockFreqSwitchPrep]
  cases element
  case caLpde bit =>
    simp (disch := decide) only [CaDelay.reg, rxPathCa_of_notMem, txCkGearbox_of_ne,
      txCkSlices_of_notMem]
    refine forRange_at (fun regs : CaRegs => regs _) present ?_ ?_ _
    · intro state
      simpa [CaDelay.switchEntry, CaDelay.entry] using
        txBitPipelinePrepCa_lpde msr inRank bit cfg.tx state
    · intro other state different
      simpa using txBitPipelinePrepCa_lpde_of_ne msr different cfg.tx state
  case ckLpde bit =>
    simp (disch := decide) only [CaDelay.reg, rxPathCa_of_notMem, txCkGearbox_of_ne]
    refine forRange_at (fun regs : CaRegs => regs _) present ?_ ?_ _
    · intro state
      simpa [CaDelay.switchEntry, CaDelay.entry] using
        txBitPipelinePrepCk_lpde msr inRank bit cfg.tx state
    · intro other state different
      simpa using txBitPipelinePrepCk_lpde_of_ne msr different cfg.tx state
  case rxSdrLpde =>
    refine forRange_at (fun regs : CaRegs => regs _) inRank ?_ ?_ _
    · intro state
      simp [CaDelay.reg]
      rfl
    · intro other state different
      simp [CaDelay.reg, Ne.symm different]
  all_goals
    simp (disch := decide) only [CaDelay.reg, rxPathCa_of_notMem, txCkGearbox_of_ne,
      txCkSlices_of_notMem, txCaSlices_of_notMem]
    refine forRange_at (fun regs : CaRegs => regs _) inRank ?_ ?_ _
    · intro state
      simp
      rfl
    · intro other state different
      simp [Ne.symm different]

end Switch

end WavLpddr
