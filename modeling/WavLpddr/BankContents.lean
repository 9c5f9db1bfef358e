import WavLpddr.BankFrame
import WavLpddr.ImpedanceUpdate

/-!
# What a bank holds

A bank holds a frequency when `wddr_configure_phy` would change nothing in it, with some
impedance codes.  What leaves the bank's registers alone keeps this, a preparation of the bank
establishes it, and the impedance update keeps it: it agrees with configuring the whole bank
anew.
-/

namespace WavLpddr

open RegisterFile Function Outcome

section Configured

variable [KernelIo] {msr : WddrMsr} {common : WddrCommonCfg} {cfg : WddrFreqCfg}

/-- The DDR blocks are as `wddr_configure_phy` leaves them, block by block. -/
structure BlocksHold (msr : WddrMsr) (common : WddrCommonCfg) (cfg : WddrFreqCfg)
    (phy : PhyRegs) : Prop where
  dq : ∀ channel < wddrPhyChannelNum, ∀ byte < wddrPhyDqByteNum,
    IsFixedPt (dqBlockFreqSwitchPrep msr common.zqcal ((cfg.channel channel).dq byte)
      (common.dqRx channel byte)) (phy.dq channel byte)
  ca : ∀ channel < wddrPhyChannelNum,
    IsFixedPt (caBlockFreqSwitchPrep msr common.zqcal (cfg.channel channel).ca) (phy.ca channel)
  cmn : IsFixedPt (commonBlockFreqSwitchPrep msr cfg.vref) phy.cmn

theorem blocksHold_iff {phy : PhyRegs} :
    BlocksHold msr common cfg phy ↔ IsFixedPt (configurePhyRegs msr common cfg) phy := by
  constructor
  · intro holds
    apply PhyRegs.ext
    · funext channel byte
      rw [configurePhyRegs_dq]
      split
      · rename_i inside
        exact holds.dq channel inside.1 byte inside.2
      · rfl
    · funext channel
      rw [configurePhyRegs_ca]
      split
      · rename_i inside
        exact holds.ca channel inside
      · rfl
    · exact holds.cmn
  · intro fixed
    constructor
    · intro channel inChannels byte inBytes
      have entry := congrFun (congrFun (congrArg PhyRegs.dq fixed) channel) byte
      rwa [configurePhyRegs_dq, if_pos ⟨inChannels, inBytes⟩] at entry
    · intro channel inChannels
      have entry := congrFun (congrArg PhyRegs.ca fixed) channel
      rwa [configurePhyRegs_ca, if_pos inChannels] at entry
    · exact congrArg PhyRegs.cmn fixed

/-- With the old codes in place the update agrees with a configuration. -/
theorem BlocksHold.iocalUpdateRegs_eq {phy : PhyRegs} (holds : BlocksHold msr common cfg phy)
    (zqcal : ZqcalCfg) :
    iocalUpdateRegs msr zqcal cfg phy =
      configurePhyRegs msr { common with zqcal := zqcal } cfg phy := by
  apply PhyRegs.ext
  · funext channel byte
    rw [iocalUpdateRegs_dq, configurePhyRegs_dq]
    split
    · rename_i inside
      exact (dqBlock_putBy msr _ _).update_eq (holds.dq channel inside.1 byte inside.2)
    · rfl
  · funext channel
    rw [iocalUpdateRegs_ca, configurePhyRegs_ca]
    split
    · rename_i inside
      exact (caBlock_putBy msr _).update_eq (holds.ca channel inside)
    · rfl
  · rw [iocalUpdateRegs_cmn, configurePhyRegs_cmn]
    exact holds.cmn.symm

end Configured

namespace Wddr

/-- The device with other impedance codes in its table. -/
def withCodes (zqcal : ZqcalCfg) (wddr : Wddr) : Wddr :=
  { wddr with
    table := { wddr.table with common := { wddr.table.common with zqcal := zqcal } } }

variable [KernelIo] {wddr : Wddr} {freqId : UInt8} {msr : WddrMsr}

/-- The bank holds a frequency: configuring it once more, with some impedance codes, changes
nothing. -/
def Programmed (freqId : UInt8) (msr : WddrMsr) (wddr : Wddr) : Prop :=
  ∃ zqcal, (wddr.withCodes zqcal).wddrConfigurePhy freqId msr = .ok (wddr.withCodes zqcal)

/-- The bank holds a frequency with the impedance codes. -/
structure Holds (zqcal : ZqcalCfg) (freqId : UInt8) (msr : WddrMsr) (wddr : Wddr) : Prop where
  valid : wddr.table.validFreq freqId = true
  blocks : BlocksHold msr { wddr.table.common with zqcal := zqcal }
    (wddr.table.freq freqId.toNat) wddr.phy
  dfich : IsFixedPt (dfiFreqSwitchPrep msr (wddr.table.freq freqId.toNat).dfi) wddr.dfich.regs

/-- `wddr_configure_phy` for an entry of the table. -/
def configured (freqId : UInt8) (msr : WddrMsr) (wddr : Wddr) : Wddr :=
  let cfg := wddr.table.freq freqId.toNat
  { wddr with
    phy := configurePhyRegs msr wddr.table.common cfg wddr.phy
    dfich := { wddr.dfich with regs := dfiFreqSwitchPrep msr cfg.dfi wddr.dfich.regs } }

theorem wddrConfigurePhy_of_valid (valid : wddr.table.validFreq freqId = true) :
    wddr.wddrConfigurePhy freqId msr = .ok (wddr.configured freqId msr) := by
  simp only [wddrConfigurePhy, WddrTable.freqAt_of_valid valid, bind, Except.bind]
  rfl

theorem validFreq_of_configured {after : Wddr}
    (configures : wddr.wddrConfigurePhy freqId msr = .ok after) :
    wddr.table.validFreq freqId = true := by
  unfold wddrConfigurePhy WddrTable.freqAt at configures
  split at configures
  · assumption
  · cases configures

theorem configured_eq_self_iff :
    wddr.configured freqId msr = wddr ↔
      IsFixedPt (configurePhyRegs msr wddr.table.common (wddr.table.freq freqId.toNat))
          wddr.phy ∧
        IsFixedPt (dfiFreqSwitchPrep msr (wddr.table.freq freqId.toNat).dfi)
          wddr.dfich.regs := by
  constructor
  · intro same
    have phy : (wddr.configured freqId msr).phy = wddr.phy := by rw [same]
    have regs : (wddr.configured freqId msr).dfich.regs = wddr.dfich.regs := by rw [same]
    exact ⟨phy, regs⟩
  · rintro ⟨phy, regs⟩
    rw [configured, phy, regs]

theorem programmed_iff_exists_holds :
    wddr.Programmed freqId msr ↔ ∃ zqcal, wddr.Holds zqcal freqId msr := by
  apply exists_congr
  intro zqcal
  constructor
  · intro configures
    have valid := validFreq_of_configured configures
    have succeeds : (wddr.withCodes zqcal).wddrConfigurePhy freqId msr = .ok _ :=
      wddrConfigurePhy_of_valid valid
    rw [succeeds] at configures
    obtain ⟨phy, regs⟩ := configured_eq_self_iff.mp (Except.ok.inj configures)
    exact ⟨valid, blocksHold_iff.mpr phy, regs⟩
  · rintro ⟨valid, blocks, regs⟩
    have succeeds : (wddr.withCodes zqcal).wddrConfigurePhy freqId msr = .ok _ :=
      wddrConfigurePhy_of_valid valid
    rw [succeeds]
    apply congrArg Except.ok
    exact configured_eq_self_iff.mpr ⟨blocksHold_iff.mp blocks, regs⟩

/-- A configured bank holds its frequency. -/
theorem holds_configured (valid : wddr.table.validFreq freqId = true) :
    (wddr.configured freqId msr).Holds wddr.table.common.zqcal freqId msr where
  valid := valid
  blocks := by
    have absorbed : IsFixedPt
        (configurePhyRegs msr wddr.table.common (wddr.table.freq freqId.toNat))
        (wddr.configured freqId msr).phy :=
      configurePhyRegs_absorbs msr wddr.table.common _ _ wddr.phy
    exact blocksHold_iff.mpr absorbed
  dfich := (Rewrites.of_overwrites (dfiFreqSwitchPrep_overwrites msr)).isFixedPt _ _

/-- The bank's registers, and what the table says about them, are the same. -/
structure SameBank (msr : WddrMsr) (before after : Wddr) : Prop where
  dq : ∀ channel < wddrPhyChannelNum, ∀ byte < wddrPhyDqByteNum,
    Set.EqOn (after.phy.dq channel byte) (before.phy.dq channel byte) (bankOf dqNames msr)
  ca : ∀ channel < wddrPhyChannelNum,
    Set.EqOn (after.phy.ca channel) (before.phy.ca channel) (bankOf caNames msr)
  cmn : Set.EqOn after.phy.cmn before.phy.cmn (bankOf [.ddrCmnVrefCfg] msr)
  dfich : Set.EqOn after.dfich.regs before.dfich.regs (bankOf dfichNames msr)
  freq : after.table.freq = before.table.freq
  valid : after.table.valid = before.table.valid
  receiver : ∀ channel byte, (after.table.common.dqRx channel byte).receiver =
    (before.table.common.dqRx channel byte).receiver

omit [KernelIo] in
theorem SameBank.refl (msr : WddrMsr) (wddr : Wddr) : SameBank msr wddr wddr where
  dq _ _ _ _ := Set.eqOn_refl _ _
  ca _ _ := Set.eqOn_refl _ _
  cmn := Set.eqOn_refl _ _
  dfich := Set.eqOn_refl _ _
  freq := rfl
  valid := rfl
  receiver _ _ := rfl

omit [KernelIo] in
theorem SameBank.trans {first second third : Wddr} (earlier : SameBank msr first second)
    (later : SameBank msr second third) : SameBank msr first third where
  dq channel inChannels byte inBytes :=
    (later.dq channel inChannels byte inBytes).trans (earlier.dq channel inChannels byte inBytes)
  ca channel inChannels := (later.ca channel inChannels).trans (earlier.ca channel inChannels)
  cmn := later.cmn.trans earlier.cmn
  dfich := later.dfich.trans earlier.dfich
  freq := later.freq.trans earlier.freq
  valid := later.valid.trans earlier.valid
  receiver channel byte := (later.receiver channel byte).trans (earlier.receiver channel byte)

/-- Of the byte's calibration only the receivers matter. -/
theorem dqBlockFreqSwitchPrep_receiver {zqcal : ZqcalCfg} {cfg : DqPathFreqCfg}
    {first second : DqRxPathCommonCfg} (same : first.receiver = second.receiver) :
    dqBlockFreqSwitchPrep msr zqcal cfg first = dqBlockFreqSwitchPrep msr zqcal cfg second := by
  funext dqReg
  simp only [dqBlockFreqSwitchPrep, rxPathDqBlockFreqSwitchPrep, same]

/-- Whether a bank holds a frequency is seen from the bank. -/
theorem Holds.of_sameBank {zqcal : ZqcalCfg} {before after : Wddr}
    (holds : before.Holds zqcal freqId msr) (same : SameBank msr before after) :
    after.Holds zqcal freqId msr where
  valid := (WddrTable.validFreq_of_valid_eq same.valid freqId).trans holds.valid
  blocks := by
    constructor
    · intro channel inChannels byte inBytes
      rw [same.freq, dqBlockFreqSwitchPrep_receiver (same.receiver channel byte)]
      have confined := (dqBlockFreqSwitchPrep_rewrites msr).confined (zqcal,
        ((before.table.freq freqId.toNat).channel channel).dq byte,
        before.table.common.dqRx channel byte)
      exact confined.isFixedPt_of_eqOn (holds.blocks.dq channel inChannels byte inBytes)
        (same.dq channel inChannels byte inBytes)
    · intro channel inChannels
      rw [same.freq]
      have confined := (caBlockFreqSwitchPrep_rewrites msr).confined (zqcal,
        ((before.table.freq freqId.toNat).channel channel).ca)
      exact confined.isFixedPt_of_eqOn (holds.blocks.ca channel inChannels)
        (same.ca channel inChannels)
    · rw [same.freq]
      have confined := (Rewrites.of_overwrites
        (commonBlockFreqSwitchPrep_overwrites msr)).confined
          (before.table.freq freqId.toNat).vref
      exact confined.isFixedPt_of_eqOn holds.blocks.cmn same.cmn
  dfich := by
    rw [same.freq]
    have confined := (Rewrites.of_overwrites (dfiFreqSwitchPrep_overwrites msr)).confined
      (before.table.freq freqId.toNat).dfi
    exact confined.isFixedPt_of_eqOn holds.dfich same.dfich

theorem Programmed.of_sameBank {before after : Wddr} (programmed : before.Programmed freqId msr)
    (same : SameBank msr before after) : after.Programmed freqId msr := by
  obtain ⟨zqcal, holds⟩ := programmed_iff_exists_holds.mp programmed
  exact programmed_iff_exists_holds.mpr ⟨zqcal, holds.of_sameBank same⟩

omit [KernelIo] in
theorem not_mem_bankOf_other {Name : Type} {reg : ArrayReg Name} {names others : List Name}
    (inOther : reg ∈ bankOf names msr.other) : reg ∉ bankOf others msr := by
  intro inBank
  have same : msr.index = msr.other.index := Option.some.inj (inBank.2.symm.trans inOther.2)
  cases msr <;> cases same

/-- Configuring one bank leaves the other one alone. -/
theorem sameBank_configured : SameBank msr.other wddr (wddr.configured freqId msr) where
  dq channel inChannels byte inBytes reg inOther := by
    simp only [configured, configurePhyRegs_dq, if_pos (And.intro inChannels inBytes)]
    exact (dqBlockFreqSwitchPrep_rewrites msr).outside (_, _, _) _ reg
      (not_mem_bankOf_other inOther)
  ca channel inChannels reg inOther := by
    simp only [configured, configurePhyRegs_ca, if_pos inChannels]
    exact (caBlockFreqSwitchPrep_rewrites msr).outside (_, _) _ reg
      (not_mem_bankOf_other inOther)
  cmn reg inOther :=
    (Rewrites.of_overwrites (commonBlockFreqSwitchPrep_overwrites msr)).outside _ _ reg
      (not_mem_bankOf_other inOther)
  dfich reg inOther :=
    (Rewrites.of_overwrites (dfiFreqSwitchPrep_overwrites msr)).outside _ _ reg
      (not_mem_bankOf_other inOther)
  freq := rfl
  valid := rfl
  receiver _ _ := rfl

end Wddr

section Fifo

namespace DfiChannel

/-- Of the registers only those of the FIFO may differ. -/
def OutsideFifo (before after : DfiChannel) : Prop :=
  Set.EqOn after.regs before.regs fifoRegsᶜ

theorem OutsideFifo.refl (channel : DfiChannel) : OutsideFifo channel channel :=
  Set.eqOn_refl _ _

theorem OutsideFifo.trans {first second third : DfiChannel} (earlier : OutsideFifo first second)
    (later : OutsideFifo second third) : OutsideFifo first third :=
  Set.EqOn.trans later earlier

theorem bankOf_subset_outsideFifo (msr : WddrMsr) : bankOf dfichNames msr ⊆ fifoRegsᶜ := by
  rintro reg inBank (rfl | rfl)
  · exact top1_not_mem_bank msr inBank
  · exact igData_not_mem_bank msr inBank

theorem outsideFifo_write {key : ArrayReg DfichRegName} (inFifo : key ∈ fifoRegs) (value : Word)
    (channel : DfiChannel) :
    OutsideFifo channel { channel with regs := write key value channel.regs } := by
  intro other outside
  apply write_of_ne
  rintro rfl
  exact outside inFifo

variable [KernelIo]

theorem outsideFifo_writeTop1 (value : Word) (channel : DfiChannel) :
    OutsideFifo channel (channel.writeTop1 value) :=
  outsideFifo_write (.inl rfl) value channel

theorem outsideFifo_dfiBufferEnable (channel : DfiChannel) :
    OutsideFifo channel channel.dfiBufferEnable :=
  (outsideFifo_writeTop1 _ channel).trans (outsideFifo_writeTop1 _ _)

theorem outsideFifo_dfiBufferSendPackets (channel : DfiChannel) :
    OutsideFifo channel channel.dfiBufferSendPackets :=
  (outsideFifo_writeTop1 _ channel).trans (outsideFifo_writeTop1 _ _)

theorem outsideFifo_dfiBufferDisable (channel : DfiChannel) :
    OutsideFifo channel channel.dfiBufferDisable :=
  outsideFifo_writeTop1 _ channel

theorem outsideFifo_foldl_loadWord (words : List Word) (regVal : Word) (channel : DfiChannel) :
    OutsideFifo channel (words.foldl loadWord (regVal, channel)).2 := by
  induction words generalizing regVal channel with
  | nil => exact .refl channel
  | cons word rest inductionHypothesis =>
      have held := outsideFifo_write (.inr rfl) word channel
      rw [List.foldl_cons]
      exact (held.trans (outsideFifo_writeTop1 _ _)).trans (inductionHypothesis _ _)

variable [Device]

theorem outsideFifo_dfiFifoWriteIgRegIf (data : List Word) (channel : DfiChannel) :
    OutsideFifo channel (channel.dfiFifoWriteIgRegIf data).2 := by
  unfold dfiFifoWriteIgRegIf
  split
  · exact .refl channel
  · exact (outsideFifo_foldl_loadWord _ _ channel).trans (outsideFifo_writeTop1 _ _)

theorem outsideFifo_dfiBufferWriteLoop (packets : List DfiTxPacket) (channel : DfiChannel) :
    OutsideFifo channel (dfiBufferWriteLoop packets channel).2 := by
  induction packets generalizing channel with
  | nil => exact .refl channel
  | cons packet rest inductionHypothesis =>
      have written := outsideFifo_dfiFifoWriteIgRegIf packet.rawData channel
      unfold dfiBufferWriteLoop
      split
      · rename_i returned
        rw [returned] at written
        exact written.trans (inductionHypothesis _)
      · rename_i returned
        rw [returned] at written
        exact written

theorem outsideFifo_dfiBufferFillPackets (packets : List DfiTxPacket) (channel : DfiChannel) :
    OutsideFifo channel (channel.dfiBufferFillPackets packets).2 := by
  have enabled := outsideFifo_dfiBufferEnable channel
  unfold dfiBufferFillPackets dfiBufferWritePackets
  split
  · exact enabled
  · exact enabled.trans (outsideFifo_dfiBufferWriteLoop packets _)

theorem outsideFifo_dfiBufferFillAndSendPackets (packets : List DfiTxPacket)
    (channel : DfiChannel) :
    OutsideFifo channel (channel.dfiBufferFillAndSendPackets packets).2 := by
  have filled := outsideFifo_dfiBufferFillPackets packets channel
  unfold dfiBufferFillAndSendPackets
  split
  · rename_i returned
    rw [returned] at filled
    exact filled.trans (outsideFifo_dfiBufferSendPackets _)
  · rename_i returned
    rw [returned] at filled
    exact filled

end DfiChannel

end Fifo

section Calibration

variable [KernelIo]

/-- The other registers of the common block. -/
def ZqcalState.Outside (before after : ZqcalState) : Prop :=
  ∀ reg : ArrayReg CmnRegName, reg.name ≠ .ddrCmnZqcalCfg → after.2 reg = before.2 reg

theorem cmnZqcalSetRegIf_of_ne {reg : ArrayReg CmnRegName} (other : reg.name ≠ .ddrCmnZqcalCfg)
    (field : RegField) (value : Word) (cmnReg : CmnRegs) :
    cmnZqcalSetRegIf field value cmnReg reg = cmnReg reg := by
  have different : reg ≠ ⟨.ddrCmnZqcalCfg, []⟩ := fun same => other (congrArg ArrayReg.name same)
  rw [cmnZqcalSetRegIf, modifyReg_apply, if_neg different]

theorem zqcalSearch_of_ne {reg : ArrayReg CmnRegName} (other : reg.name ≠ .ddrCmnZqcalCfg)
    (output : Nat → Bool) (mode : ZqcalMode) (fuel code : Nat) (cmnReg : CmnRegs) :
    (zqcalSearch output mode fuel code cmnReg).2 reg = cmnReg reg := by
  induction fuel generalizing code cmnReg with
  | zero => exact cmnZqcalSetRegIf_of_ne other _ _ _
  | succ fuel inductionHypothesis =>
      have tried : cmnZqcalSetCodeRegIf mode code cmnReg reg = cmnReg reg :=
        cmnZqcalSetRegIf_of_ne other _ _ _
      unfold zqcalSearch
      dsimp only
      split
      · exact (inductionHypothesis _ _).trans tried
      · exact tried

theorem zqcalCalibrateVoh_outside (comparator : ZqcalComparator) (voh : ZqcalVoh)
    (state : ZqcalState) :
    ZqcalState.Outside state (zqcalCalibrateVoh comparator voh state).2 := by
  intro reg other
  have searched : ∀ output mode maxCode code cmnReg,
      (zqcalCalibrateCommon output mode maxCode code cmnReg).2 reg = cmnReg reg := by
    intro output mode maxCode code cmnReg
    exact (zqcalSearch_of_ne other _ _ _ _ _).trans (cmnZqcalSetRegIf_of_ne other _ _ _)
  have started : cmnZqcalSetVohRegIf voh state.2 reg = state.2 reg :=
    cmnZqcalSetRegIf_of_ne other _ _ _
  unfold zqcalCalibrateVoh
  dsimp only
  split
  · exact (searched _ _ _ _ _).trans started
  · split
    · exact (searched _ _ _ _ _).trans started
    · split
      · exact ((searched _ _ _ _ _).trans (searched _ _ _ _ _)).trans started
      · split
        · exact ((searched _ _ _ _ _).trans (searched _ _ _ _ _)).trans started
        · exact ((searched _ _ _ _ _).trans (searched _ _ _ _ _)).trans started

/-- The calibration writes its own register alone. -/
theorem cmnZqcalCalibrate_outside (comparator : ZqcalComparator) (state : ZqcalState) :
    ZqcalState.Outside state (cmnZqcalCalibrate comparator state).2 := by
  have starts : ZqcalState.Outside state (state.1, cmnZqcalSetStateRegIf true state.2) :=
    fun reg other => cmnZqcalSetRegIf_of_ne other _ _ _
  have turns := propagateErrors_induction (motive := ZqcalState.Outside state)
    (fun voh later kept reg other =>
      (zqcalCalibrateVoh_outside comparator voh later reg other).trans (kept reg other))
    [.voh0p5, .voh0p6] starts
  intro reg other
  exact (cmnZqcalSetRegIf_of_ne other _ _ _).trans (turns reg other)

end Calibration

namespace Wddr

variable [KernelIo] {wddr : Wddr} {freqId : UInt8} {msr : WddrMsr}

omit [KernelIo] in
theorem sameBank_onDfich {update : DfiChannel → DfiChannel}
    (outside : DfiChannel.OutsideFifo wddr.dfich (update wddr.dfich)) :
    SameBank msr wddr (wddr.onDfich update) :=
  { SameBank.refl msr wddr with
    dfich := Set.EqOn.mono (DfiChannel.bankOf_subset_outsideFifo msr) outside }

theorem sameBank_of_wddrIocalCalibrate [BuildConfig] {hw : HwStatus} {after : Wddr}
    (calibrated : wddr.wddrIocalCalibrate hw = .ok after) : SameBank msr wddr after := by
  have outside := cmnZqcalCalibrate_outside hw.zqcal (wddr.table.common.zqcal, wddr.phy.cmn)
  unfold wddrIocalCalibrate at calibrated
  simp only [configASSERT] at calibrated
  split at calibrated
  · cases calibrated
  · obtain rfl := Except.ok.inj calibrated
    refine { SameBank.refl msr wddr with cmn := ?_ }
    intro reg inBank
    apply outside
    intro isZqcal
    exact absurd (isZqcal ▸ inBank.1) (by decide)

/-- `wddr_iocal_update_phy` agrees with configuring the bank in use anew, when the bank holds
the running frequency. -/
theorem wddrIocalUpdatePhy_eq {hw : HwStatus}
    (running : wddr.pll.pllGetCurrentFreq = .ok freqId)
    (programmed : wddr.Programmed freqId hw.currentMsr) :
    wddr.wddrIocalUpdatePhy hw = wddr.wddrConfigurePhy freqId hw.currentMsr := by
  obtain ⟨zqcal, holds⟩ := programmed_iff_exists_holds.mp programmed
  rw [wddrConfigurePhy_of_valid holds.valid]
  simp only [wddrIocalUpdatePhy, running, WddrTable.freqAt_of_valid holds.valid, bind,
    Except.bind]
  apply congrArg Except.ok
  have blocks := holds.blocks.iocalUpdateRegs_eq wddr.table.common.zqcal
  have dfich := holds.dfich
  change { wddr with phy := iocalUpdateRegs _ _ _ _ } = configured _ _ _
  rw [blocks, configured, dfich]

section Prepared

variable [Device]

/-- The packets of a preparation go into the FIFO. -/
theorem sameBank_configured_preparedFor {bank : WddrMsr} (current : VcoIndex) :
    SameBank bank (wddr.configured freqId msr) (wddr.preparedFor freqId msr current) :=
  { SameBank.refl bank (wddr.configured freqId msr) with
    dfich := Set.EqOn.mono (DfiChannel.bankOf_subset_outsideFifo bank)
      (DfiChannel.outsideFifo_dfiBufferFillPackets _ (wddr.configured freqId msr).dfich) }

/-- A prepared bank holds its frequency, and the other bank is left alone. -/
theorem programmed_preparedFor (valid : wddr.table.validFreq freqId = true)
    (current : VcoIndex) : (wddr.preparedFor freqId msr current).Programmed freqId msr := by
  have configured : (wddr.configured freqId msr).Holds _ freqId msr := holds_configured valid
  exact programmed_iff_exists_holds.mpr
    ⟨_, configured.of_sameBank (sameBank_configured_preparedFor current)⟩

theorem sameBank_preparedFor (current : VcoIndex) :
    SameBank msr.other wddr (wddr.preparedFor freqId msr current) :=
  sameBank_configured.trans (sameBank_configured_preparedFor current)

end Prepared

end Wddr

end WavLpddr
