import WavLpddr.RegisterBounds
import WavLpddr.BootOverrides

/-!
# Preparing leaves the active bank alone

The registers that a preparation can reach form one file, over both channels, their DQ bytes,
the common block and the DFI.  A preparation for the next bank is an update of this file that
changes no register of the bank in use and accesses only registers that exist.
-/

namespace WavLpddr

open RegisterFile Outcome

/-- A register of a block that a preparation programs. -/
inductive PhyReg
  | dq (channel byte : Nat) (reg : ArrayReg DqRegName)
  | ca (channel : Nat) (reg : ArrayReg CaRegName)
  | cmn (reg : ArrayReg CmnRegName)
  | dfich (reg : ArrayReg DfichRegName)

namespace PhyReg

/-- The index into the register array. -/
def index : PhyReg → List Nat
  | .dq _ _ reg => reg.index
  | .ca _ reg => reg.index
  | .cmn reg => reg.index
  | .dfich reg => reg.index

/-- The register exists. -/
def Present : PhyReg → Prop
  | .dq channel byte reg =>
      channel < wddrPhyChannelNum ∧ byte < wddrPhyDqByteNum ∧ reg ∈ Existing DqRegName.dims
  | .ca channel reg => channel < wddrPhyChannelNum ∧ reg ∈ Existing CaRegName.dims
  | .cmn reg => reg ∈ Existing CmnRegName.dims
  | .dfich reg => reg ∈ Existing DfichRegName.dims

/-- The register is one of the bank. -/
def InBank (msr : WddrMsr) (reg : PhyReg) : Prop := reg.index.head? = some msr.index

theorem not_inBank_other {msr : WddrMsr} {reg : PhyReg} (active : reg.InBank msr) :
    ¬ reg.InBank msr.other := by
  intro next
  have same : msr.index = msr.other.index := Option.some.inj (active.symm.trans next)
  cases msr <;> cases same

end PhyReg

/-- The contents of the blocks. -/
abbrev PhyFile := Registers PhyReg 32

/-- The DDR blocks of a file. -/
def phyOf (file : PhyFile) : PhyRegs where
  dq channel byte reg := file (.dq channel byte reg)
  ca channel reg := file (.ca channel reg)
  cmn reg := file (.cmn reg)

def dfichOf (file : PhyFile) : DfichRegs := fun reg => file (.dfich reg)

/-- The blocks as one file. -/
def toFile (phy : PhyRegs) (dfich : DfichRegs) : PhyFile
  | .dq channel byte reg => phy.dq channel byte reg
  | .ca channel reg => phy.ca channel reg
  | .cmn reg => phy.cmn reg
  | .dfich reg => dfich reg

namespace Wddr

def file (wddr : Wddr) : PhyFile := toFile wddr.phy wddr.dfich.regs

/-- The device with other register contents. -/
def setFile (file : PhyFile) (wddr : Wddr) : Wddr :=
  { wddr with
    phy := phyOf file
    dfich := { wddr.dfich with regs := dfichOf file } }

end Wddr

/-- An update of the registers that prepares the bank which is not in use. -/
structure PreparesNextBank (hw : HwStatus) (update : PhyFile → PhyFile) : Prop where
  active : ∀ file reg, reg.InBank hw.currentMsr → update file reg = file reg
  present : Confined {reg | reg.Present} update

section Blocks

variable [KernelIo] (msr : WddrMsr)

/-- The registers of a block's bank. -/
def bankRegs {Name : Type} (dims : Name → List Nat) : Set (ArrayReg Name) :=
  {reg | reg.index.head? = some msr.index ∧ reg ∈ Existing dims}

omit [KernelIo] in
/-- A family that rewrites one bank and stays within the arrays. -/
theorem confined_bankRegs {Config Name : Type} {dims : Name → List Nat} {names : List Name}
    {update : Config → Registers (ArrayReg Name) 32 → Registers (ArrayReg Name) 32}
    (rewrites : Rewrites (bankOf names msr) update) (config : Config)
    (existing : Confined (Existing dims) (update config)) :
    Confined (bankRegs msr dims) (update config) :=
  ((rewrites.confined config).inter existing).mono fun _ inside => ⟨inside.1.2, inside.2⟩

theorem dqBlock_confined (zqcal : ZqcalCfg) (cfg : DqPathFreqCfg)
    (commonCfg : DqRxPathCommonCfg) :
    Confined (bankRegs msr DqRegName.dims) (dqBlockFreqSwitchPrep msr zqcal cfg commonCfg) :=
  confined_bankRegs msr (dqBlockFreqSwitchPrep_rewrites msr) (zqcal, cfg, commonCfg)
    (dqBlockFreqSwitchPrep_existing msr zqcal cfg commonCfg)

theorem caBlock_confined (zqcal : ZqcalCfg) (cfg : CaPathFreqCfg) :
    Confined (bankRegs msr CaRegName.dims) (caBlockFreqSwitchPrep msr zqcal cfg) :=
  confined_bankRegs msr (caBlockFreqSwitchPrep_rewrites msr) (zqcal, cfg)
    (caBlockFreqSwitchPrep_existing msr zqcal cfg)

theorem commonBlock_confined (cfg : VrefCfg) :
    Confined (bankRegs msr CmnRegName.dims) (commonBlockFreqSwitchPrep msr cfg) :=
  confined_bankRegs msr (.of_overwrites (commonBlockFreqSwitchPrep_overwrites msr)) cfg
    (commonBlockFreqSwitchPrep_existing msr cfg)

theorem dfi_confined (cfg : DfiFreqCfg) :
    Confined (bankRegs msr DfichRegName.dims) (dfiFreqSwitchPrep msr cfg) :=
  confined_bankRegs msr (.of_overwrites (dfiFreqSwitchPrep_overwrites msr)) cfg
    (dfiFreqSwitchPrep_existing msr cfg)

/-- `wddr_configure_phy` on the register file. -/
def configureFile (common : WddrCommonCfg) (cfg : WddrFreqCfg) (file : PhyFile) : PhyFile :=
  toFile (configurePhyRegs msr common cfg (phyOf file))
    (dfiFreqSwitchPrep msr cfg.dfi (dfichOf file))

/-- The registers that exist in the bank. -/
def presentIn : Set PhyReg := {reg | reg.InBank msr ∧ reg.Present}

theorem configureFile_confined (common : WddrCommonCfg) (cfg : WddrFreqCfg) :
    Confined (presentIn msr) (configureFile msr common cfg) where
  outside file reg notInside := by
    cases reg with
    | dq channel byte reg =>
        simp only [configureFile, toFile, configurePhyRegs_dq]
        split
        · rename_i inside
          apply (dqBlock_confined msr _ _ _).outside
          exact fun member => notInside ⟨member.1, inside.1, inside.2, member.2⟩
        · rfl
    | ca channel reg =>
        simp only [configureFile, toFile, configurePhyRegs_ca]
        split
        · rename_i inside
          apply (caBlock_confined msr _ _).outside
          exact fun member => notInside ⟨member.1, inside, member.2⟩
        · rfl
    | cmn reg => exact (commonBlock_confined msr cfg.vref).outside _ reg notInside
    | dfich reg => exact (dfi_confined msr cfg.dfi).outside _ reg notInside
  within first second agree reg inside := by
    cases reg with
    | dq channel byte reg =>
        obtain ⟨inBank, inChannels, inBytes, existing⟩ := inside
        simp only [configureFile, toFile, configurePhyRegs_dq,
          if_pos (And.intro inChannels inBytes)]
        refine (dqBlock_confined msr _ _ _).within _ _ ?_ ⟨inBank, existing⟩
        exact fun other member => agree ⟨member.1, inChannels, inBytes, member.2⟩
    | ca channel reg =>
        obtain ⟨inBank, inChannels, existing⟩ := inside
        simp only [configureFile, toFile, configurePhyRegs_ca, if_pos inChannels]
        refine (caBlock_confined msr _ _).within _ _ ?_ ⟨inBank, existing⟩
        exact fun other member => agree ⟨member.1, inChannels, member.2⟩
    | cmn reg =>
        refine (commonBlock_confined msr cfg.vref).within _ _ ?_ inside
        exact fun other member => agree member
    | dfich reg =>
        refine (dfi_confined msr cfg.dfi).within _ _ ?_ inside
        exact fun other member => agree member

end Blocks

section Fifo

/-- The registers behind which the FIFO sits. -/
def fifoRegs : Set (ArrayReg DfichRegName) := {dfichTop1, dfichIgData}

namespace DfiChannel

/-- The FIFO and its registers are the same. -/
structure SameFifo (first second : DfiChannel) : Prop where
  regs : Set.EqOn first.regs second.regs fifoRegs
  loaded : first.loaded = second.loaded
  ingress : first.ingress = second.ingress

variable {first second : DfiChannel}

theorem SameFifo.top1 (same : SameFifo first second) :
    first.regs dfichTop1 = second.regs dfichTop1 := same.regs (.inl rfl)

theorem SameFifo.igData (same : SameFifo first second) :
    first.regs dfichIgData = second.regs dfichIgData := same.regs (.inr rfl)

theorem SameFifo.write (same : SameFifo first second) (key : ArrayReg DfichRegName)
    (value : Word) :
    SameFifo { first with regs := RegisterFile.write key value first.regs }
      { second with regs := RegisterFile.write key value second.regs } := by
  refine ⟨fun member inside => ?_, same.loaded, same.ingress⟩
  simp only [write_apply, same.regs inside]

variable [KernelIo]

theorem SameFifo.writeTop1 (same : SameFifo first second) (value : Word) :
    SameFifo (first.writeTop1 value) (second.writeTop1 value) := by
  have written := same.write dfichTop1 value
  refine ⟨written.regs, ?_, ?_⟩
  · simp only [DfiChannel.writeTop1, same.top1, same.igData, same.loaded, same.ingress]
  · simp only [DfiChannel.writeTop1, same.top1, same.igData, same.loaded, same.ingress]

theorem SameFifo.dfiFifoEnableClockRegIf (same : SameFifo first second) :
    SameFifo first.dfiFifoEnableClockRegIf second.dfiFifoEnableClockRegIf := by
  simp only [DfiChannel.dfiFifoEnableClockRegIf, same.top1]
  exact (same.writeTop1 _).writeTop1 _

theorem SameFifo.foldl_loadWord (same : SameFifo first second) (words : List Word)
    (regVal : Word) :
    (words.foldl loadWord (regVal, first)).1 = (words.foldl loadWord (regVal, second)).1 ∧
      SameFifo (words.foldl loadWord (regVal, first)).2
        (words.foldl loadWord (regVal, second)).2 := by
  induction words generalizing first second regVal with
  | nil => exact ⟨rfl, same⟩
  | cons word rest inductionHypothesis =>
      rw [List.foldl_cons, List.foldl_cons]
      exact inductionHypothesis ((same.write dfichIgData word).writeTop1 _) _

variable [Device]

theorem SameFifo.dfiFifoWriteIgRegIf (same : SameFifo first second) (data : List Word) :
    (first.dfiFifoWriteIgRegIf data).1 = (second.dfiFifoWriteIgRegIf data).1 ∧
      SameFifo (first.dfiFifoWriteIgRegIf data).2 (second.dfiFifoWriteIgRegIf data).2 := by
  unfold DfiChannel.dfiFifoWriteIgRegIf
  rw [same.ingress]
  split
  · exact ⟨rfl, same⟩
  · obtain ⟨sameVal, sameLoaded⟩ :=
      same.foldl_loadWord data.reverse (first.regs dfichTop1)
    simp only [← same.top1, ← sameVal, true_and]
    exact sameLoaded.writeTop1 _

theorem SameFifo.dfiBufferWriteLoop (same : SameFifo first second)
    (packets : List DfiTxPacket) :
    SameFifo (dfiBufferWriteLoop packets first).2 (dfiBufferWriteLoop packets second).2 := by
  induction packets generalizing first second with
  | nil => exact same
  | cons packet rest inductionHypothesis =>
      obtain ⟨sameRet, sameAfter⟩ := same.dfiFifoWriteIgRegIf packet.rawData
      unfold DfiChannel.dfiBufferWriteLoop
      generalize first.dfiFifoWriteIgRegIf packet.rawData = firstDone at sameRet sameAfter
      generalize second.dfiFifoWriteIgRegIf packet.rawData = secondDone at sameRet sameAfter
      obtain ⟨ret, firstAfter⟩ := firstDone
      obtain ⟨_, secondAfter⟩ := secondDone
      cases sameRet
      cases ret with
      | dfiSuccess => exact inductionHypothesis sameAfter
      | dfiError => exact sameAfter
      | dfiErrorFifoFull => exact sameAfter
      | dfiErrorFifoEmpty => exact sameAfter

theorem SameFifo.dfiBufferFillPackets (same : SameFifo first second)
    (packets : List DfiTxPacket) :
    SameFifo (first.dfiBufferFillPackets packets).2
      (second.dfiBufferFillPackets packets).2 := by
  have enabled := same.dfiFifoEnableClockRegIf
  unfold DfiChannel.dfiBufferFillPackets DfiChannel.dfiBufferWritePackets dfiBufferEnable
  split
  · exact enabled
  · exact enabled.dfiBufferWriteLoop packets

/-- Filling the FIFO accesses its two registers. -/
theorem fill_confined {packets : List DfiTxPacket} (nonempty : packets ≠ [])
    (channel : DfiChannel) :
    Confined fifoRegs fun regs =>
      (({ channel with regs := regs } : DfiChannel).dfiBufferFillPackets packets).2.regs where
  outside regs key notInside := by
    have filled := dfiBufferFillPackets_filled nonempty { channel with regs := regs }
    exact filled.others key (fun same => notInside (.inl same)) fun same => notInside (.inr same)
  within first second agree := by
    have same : SameFifo { channel with regs := first } { channel with regs := second } :=
      ⟨agree, rfl, rfl⟩
    exact (same.dfiBufferFillPackets packets).regs

end DfiChannel

end Fifo

section Prepare

variable [KernelIo] [Device]

/-- The registers of the FIFO in the file. -/
def fifoFile : Set PhyReg := {reg | ∃ fifoReg ∈ fifoRegs, reg = .dfich fifoReg}

/-- Filling the FIFO, on the register file. -/
def fillFile (packets : List DfiTxPacket) (channel : DfiChannel) (file : PhyFile) : PhyFile :=
  toFile (phyOf file)
    (({ channel with regs := dfichOf file } : DfiChannel).dfiBufferFillPackets packets).2.regs

theorem fillFile_confined {packets : List DfiTxPacket} (nonempty : packets ≠ [])
    (channel : DfiChannel) : Confined fifoFile (fillFile packets channel) where
  outside file reg notInside := by
    cases reg with
    | dq channel byte reg => rfl
    | ca channel reg => rfl
    | cmn reg => rfl
    | dfich reg =>
        apply (DfiChannel.fill_confined nonempty channel).outside
        exact fun inside => notInside ⟨reg, inside, rfl⟩
  within first second agree := by
    rintro _ ⟨fifoReg, inside, rfl⟩
    refine (DfiChannel.fill_confined nonempty channel).within _ _ ?_ inside
    exact fun other member => agree ⟨other, member, rfl⟩

omit [KernelIo] [Device] in
/-- What is confined to the other bank and the FIFO leaves the active bank alone. -/
theorem preparesNextBank_of_confined {hw : HwStatus} {update : PhyFile → PhyFile}
    (confined : Confined (presentIn hw.currentMsr.other ∪ fifoFile) update) :
    PreparesNextBank hw update where
  active file reg inBank := by
    apply confined.outside
    rintro (⟨inOther, -⟩ | ⟨fifoReg, rfl | rfl, rfl⟩)
    · exact PhyReg.not_inBank_other inBank inOther
    · cases inBank
    · cases inBank
  present := by
    apply confined.mono
    rintro _ (⟨-, present⟩ | ⟨fifoReg, rfl | rfl, rfl⟩)
    · exact present
    · exact .nil
    · exact .nil

namespace Wddr

variable {wddr : Wddr} {freqId : UInt8}

omit [Device] in
theorem wddrConfigurePhy_setFile (valid : wddr.table.validFreq freqId = true) (msr : WddrMsr)
    (file : PhyFile) :
    (wddr.setFile file).wddrConfigurePhy freqId msr =
      .ok (wddr.setFile
        (configureFile msr wddr.table.common (wddr.table.freq freqId.toNat) file)) := by
  have chosen : (wddr.setFile file).table.freqAt freqId =
      .ok (wddr.table.freq freqId.toNat) := WddrTable.freqAt_of_valid valid
  simp only [wddrConfigurePhy, chosen, bind, Except.bind]
  rfl

/-- The packets of a preparation. -/
def switchPackets (freqId : UInt8) (wddr : Wddr) : List DfiTxPacket :=
  mrwUpdatePackets (wddr.table.freq wddr.dramCfg.toNat).dram.ratio
    (wddr.table.freq freqId.toNat).dram

/-- `wddr_prep_switch` configures the PHY and fills the FIFO. -/
theorem wddrPrepSwitch_file (valid : wddr.table.validFreq freqId = true) (msr : WddrMsr)
    (file : PhyFile) {ret : WddrReturn} {after : Wddr}
    (returned : (wddr.setFile file).wddrPrepSwitch freqId msr = .ok (ret, after)) :
    after.file = fillFile (wddr.switchPackets freqId) wddr.dfich
      (configureFile msr wddr.table.common (wddr.table.freq freqId.toNat) file) := by
  have fills : ∀ configured : Wddr, Ends (configured.wddrPrepFreqSwitchMrwUpdate
      (wddr.table.freq freqId.toNat).dram) (fun _ => True) fun filled =>
        filled.file = fillFile (mrwUpdatePackets
          (configured.table.freq configured.dramCfg.toNat).dram.ratio
          (wddr.table.freq freqId.toNat).dram) configured.dfich configured.file := by
    intro configured
    unfold wddrPrepFreqSwitchMrwUpdate
    refine (freqAt_reads configured.table configured.dramCfg).bind ?_
    rintro _ rfl
    exact Ends.pure rfl
  have ends : Ends ((wddr.setFile file).wddrPrepSwitch freqId msr) (fun _ => True)
      fun done => done.2.file = fillFile (wddr.switchPackets freqId) wddr.dfich
        (configureFile msr wddr.table.common (wddr.table.freq freqId.toNat) file) := by
    have stillValid : (wddr.setFile file).table.validFreq freqId = true := valid
    unfold wddrPrepSwitch
    rw [if_pos stillValid, wddrConfigurePhy_setFile valid]
    refine (freqAt_reads wddr.table freqId).bind ?_
    rintro _ rfl
    refine (fills _).bind fun filled sameFile => ?_
    refine Ends.bind_of_forall fun pll => ?_
    exact Ends.pure sameFile
  exact ends.good_of_ok returned

/-- Preparing a valid frequency leaves the active bank alone and stays within the arrays. -/
theorem preparesNextBank (hw : HwStatus) (valid : wddr.table.validFreq freqId = true) :
    (∃ update, PreparesNextBank hw update ∧ ∀ file,
      (wddr.setFile file).wddrConfigurePhy freqId hw.currentMsr.other =
        .ok (wddr.setFile (update file))) ∧
    ∃ update, PreparesNextBank hw update ∧ ∀ file ret after,
      (wddr.setFile file).wddrPrepSwitch freqId hw.currentMsr.other = .ok (ret, after) →
        after.file = update file := by
  have configures := configureFile_confined hw.currentMsr.other wddr.table.common
    (wddr.table.freq freqId.toNat)
  have fills : Confined fifoFile (fillFile (wddr.switchPackets freqId) wddr.dfich) :=
    fillFile_confined (mrwUpdatePackets_ne_nil _ _) wddr.dfich
  have configuresBoth := configures.mono
    (Set.subset_union_left : _ ⊆ presentIn hw.currentMsr.other ∪ fifoFile)
  constructor
  · exact ⟨_, preparesNextBank_of_confined configuresBoth,
      wddrConfigurePhy_setFile valid hw.currentMsr.other⟩
  · exact ⟨_, preparesNextBank_of_confined ((fills.mono Set.subset_union_right).comp
      configuresBoth), fun file ret after => wddrPrepSwitch_file valid hw.currentMsr.other file⟩

end Wddr

end Prepare

/-- The reference device prepares bank 1 while bank 0 is in use. -/
theorem preparesNextBank_reference :
    let := referencePlatform
    (Wddr.referenceInit.wddrPrepSwitch 1 .msr1).toOption.map Prod.fst = some .wddrSuccess ∧
    (∃ update, PreparesNextBank Sys.referenceHw update ∧ ∀ file,
      (Wddr.referenceInit.setFile file).wddrConfigurePhy 1 .msr1 =
        .ok (Wddr.referenceInit.setFile (update file))) ∧
    ∃ update, PreparesNextBank Sys.referenceHw update ∧ ∀ file ret after,
      (Wddr.referenceInit.setFile file).wddrPrepSwitch 1 .msr1 = .ok (ret, after) →
        after.file = update file := by
  let := referencePlatform
  refine ⟨by decide +kernel, ?_⟩
  exact Wddr.preparesNextBank Sys.referenceHw
    (by decide : Wddr.referenceInit.table.validFreq 1 = true)

end WavLpddr
