import WavLpddr.BankContents
import WavLpddr.BootVco

/-!
# The bank that boot leaves

Boot configures bank 0 for the boot frequency and then works on the PHY: it flushes and primes
the FIFO, calibrates the impedances and sets the sense amplifiers up behind overridden chip
selects and gearboxes.  When it succeeds the bank still holds the boot frequency, and the PLL
runs it.
-/

namespace WavLpddr

open RegisterFile Function Outcome

section Tops

variable [KernelIo] {wddr : Wddr} {msr : WddrMsr}

omit [KernelIo] in
/-- Updates of the top registers of a channel leave its banks alone. -/
theorem Wddr.sameBank_onChannel {ca : CaRegs → CaRegs} {dq : DqRegs → DqRegs}
    (caTop : ∀ regs, ∀ reg : ArrayReg CaRegName, reg.name ≠ .ddrCaTopCfg → ca regs reg = regs reg)
    (dqTop : ∀ regs, ∀ reg : ArrayReg DqRegName, reg.name ≠ .ddrDqTopCfg → dq regs reg = regs reg)
    (channel : Nat) : SameBank msr wddr (wddr.onPhy (onChannel channel ca dq)) := by
  refine { SameBank.refl msr wddr with dq := ?_, ca := ?_ }
  · intro other _ byte inBytes reg inBank
    have notTop : reg.name ≠ .ddrDqTopCfg := fun isTop =>
      absurd (isTop ▸ inBank.1) (by decide)
    by_cases same : other = channel
    · subst same
      simp only [onPhy, onChannel_dq _ _ _ _ inBytes]
      exact dqTop _ reg notTop
    · simp only [onPhy, (sameChannel_onChannel same ca dq wddr.phy).dq]
  · intro other _ reg inBank
    have notTop : reg.name ≠ .ddrCaTopCfg := fun isTop =>
      absurd (isTop ▸ inBank.1) (by decide)
    by_cases same : other = channel
    · subst same
      simp only [onPhy, onChannel, Function.update_self]
      exact caTop _ reg notTop
    · simp only [onPhy, (sameChannel_onChannel same ca dq wddr.phy).ca]

theorem Wddr.sameBank_setChipSelect (channel : Nat) (rank : Word) (override : Bool) :
    SameBank msr wddr (wddr.onPhy (wddrSetChipSelectRegIf channel rank override)) :=
  sameBank_onChannel (fun regs _ other => topSetChipSelectRegIf_of_ne other rank override regs)
    (fun regs _ other => topSetChipSelectRegIf_of_ne other rank override regs) channel

theorem Wddr.sameBank_clearFifo :
    SameBank msr wddr (wddr.onPhy wddrClearFifoAllChannels) := by
  refine forRange_induction (motive := fun phy => SameBank msr wddr { wddr with phy := phy })
    (SameBank.refl msr wddr) ?_
  intro channel phy _ same
  have cleared : SameBank msr { wddr with phy := phy }
      (({ wddr with phy := phy } : Wddr).onPhy (wddrClearFifoRegIf channel)) :=
    sameBank_onChannel (fun regs _ other => topClearFifoRegIf_of_ne other _ regs)
      (fun regs _ other => topClearFifoRegIf_of_ne other _ regs) channel
  exact same.trans cleared

end Tops

section SenseAmplifiers

variable [KernelIo]

theorem dqDqsSaCmnSetStateRegIf_of_ne {reg : ArrayReg DqRegName}
    (other : reg.name ≠ .ddrDqDqsRxSaCmnCfg) (state : SensampState) (dqReg : DqRegs) :
    dqDqsSaCmnSetStateRegIf state dqReg reg = dqReg reg := by
  have different : reg ≠ ⟨.ddrDqDqsRxSaCmnCfg, []⟩ := fun same =>
    other (congrArg ArrayReg.name same)
  rw [dqDqsSaCmnSetStateRegIf, modifyReg_apply, if_neg different]

/-- Configuring the sense amplifiers of a byte writes their registers alone. -/
theorem channelRxSaDqbyteConfigure_of_ne (status : Nat → SensampIndex → SaComparator)
    (calibrate : Bool) (state : SensampByte) {reg : ArrayReg DqRegName}
    (notSa : reg.name ≠ .ddrDqDqRxSaCfg) (notCmn : reg.name ≠ .ddrDqDqsRxSaCmnCfg) :
    (channelRxSaDqbyteConfigure status calibrate state).2.2 reg = state.2 reg := by
  have apart : ∀ bit, ∀ msr rank, reg ≠ saCfg msr rank bit := fun bit msr rank same =>
    notSa (congrArg ArrayReg.name same)
  let kept (later : SensampByte) : Prop := later.2 reg = state.2 reg
  have starts : kept (state.1, dqDqsSaCmnSetStateRegIf .calEnabled state.2) :=
    dqDqsSaCmnSetStateRegIf_of_ne notCmn .calEnabled state.2
  have turns := propagateErrors_induction (motive := kept)
    (fun turn later same =>
      ((sensampConfigure_frame status calibrate turn.1 turn.2 later).regs reg
        (apart turn.1)).trans same)
    ((List.range wddrPhyDqSliceNum).flatMap fun bit => SensampIndex.ddr.map (bit, ·)) starts
  unfold channelRxSaDqbyteConfigure sensampDqbyteConfigure
  dsimp only
  split
  · rename_i later returned
    rw [returned] at turns
    exact (dqDqsSaCmnSetStateRegIf_of_ne notCmn .dynamic later.2).trans turns
  · rename_i returned
    rw [returned] at turns
    exact turns

/-- The two words of the receive gearboxes. -/
def dqRxGbWord (cfg : RxGbCfg) (regVal : Word) : Word :=
  let regVal := updateRegField regVal ddrDqDqRxM0CfgRgbMode cfg.dataMode.value
  updateRegField regVal ddrDqDqRxM0CfgFgbMode cfg.fifoMode.value

def dqsRxGbWord (cfg : RxGbCfg) (regVal : Word) : Word :=
  let regVal := updateRegField regVal ddrDqDqsRxM0CfgRgbMode cfg.dataMode.value
  let regVal := updateRegField regVal ddrDqDqsRxM0CfgFgbMode cfg.fifoMode.value
  let regVal := updateRegField regVal ddrDqDqsRxM0CfgWckMode cfg.wckMode.value
  updateRegField regVal ddrDqDqsRxM0CfgPreFilterSel (cfg.preFilterSel.setWidth 32)

theorem dqRxGbWord_overwrites : WordOverwrites dqRxGbWord := by
  repeat refine wordOverwrites_updateRegField ?_ _ _
  exact .id

theorem dqsRxGbWord_overwrites : WordOverwrites dqsRxGbWord := by
  repeat refine wordOverwrites_updateRegField ?_ _ _
  exact .id

/-- A preparation leaves the words of its own gearbox configuration. -/
theorem dqBlockFreqSwitchPrep_gearboxes (msr : WddrMsr) (zqcal : ZqcalCfg) (cfg : DqPathFreqCfg)
    (commonCfg : DqRxPathCommonCfg) (dqReg : DqRegs) :
    let prepared := dqBlockFreqSwitchPrep msr zqcal cfg commonCfg dqReg
    prepared ⟨.ddrDqDqRxCfg, [msr.index]⟩ = dqRxGbWord cfg.rx.gearbox 0 ∧
      prepared ⟨.ddrDqDqsRxCfg, [msr.index]⟩ = dqsRxGbWord cfg.rx.gearbox 0 := by
  have two : wddrPhyRank = 2 := rfl
  simp only [dqBlockFreqSwitchPrep, rxPathDqBlockFreqSwitchPrep, two, forRange_succ]
  constructor
  · exact write_self _ _ _
  · rw [write_of_ne (by simp), write_self]
    rfl

/-- Setting both gearboxes of a byte, register by register. -/
theorem setMode_apply (cfg : RxGbCfg) (dqReg : DqRegs) (reg : ArrayReg DqRegName) :
    dqDqsRxGbSetModeRegIf .msr0 cfg (dqDqRxGbSetModeRegIf .msr0 cfg dqReg) reg =
      if reg = ⟨.ddrDqDqsRxCfg, [0]⟩ then dqsRxGbWord cfg (dqReg reg)
      else if reg = ⟨.ddrDqDqRxCfg, [0]⟩ then dqRxGbWord cfg (dqReg reg)
      else dqReg reg := by
  simp only [dqDqsRxGbSetModeRegIf, dqDqRxGbSetModeRegIf, modifyReg_apply, WddrMsr.index]
  by_cases isDqs : reg = ⟨.ddrDqDqsRxCfg, [0]⟩
  · subst isDqs
    simp [dqsRxGbWord]
  · by_cases isDq : reg = ⟨.ddrDqDqRxCfg, [0]⟩
    · subst isDq
      simp [dqRxGbWord]
    · simp [isDqs, isDq]

/-- The gearboxes are set for calibration, the amplifiers are configured, and the gearboxes are
set back: the byte holds what it held. -/
theorem eqOn_restored_gearboxes {zqcal : ZqcalCfg} {cfg : DqPathFreqCfg}
    {commonCfg : DqRxPathCommonCfg} {dqReg between : DqRegs}
    (fixed : IsFixedPt (dqBlockFreqSwitchPrep .msr0 zqcal cfg commonCfg) dqReg)
    (same : ∀ reg : ArrayReg DqRegName, reg.name ≠ .ddrDqDqRxSaCfg →
      reg.name ≠ .ddrDqDqsRxSaCmnCfg →
      between reg = dqDqsRxGbSetModeRegIf .msr0 calibrationRxGb
        (dqDqRxGbSetModeRegIf .msr0 calibrationRxGb dqReg) reg) :
    Set.EqOn (dqDqsRxGbSetModeRegIf .msr0 cfg.rx.gearbox
      (dqDqRxGbSetModeRegIf .msr0 cfg.rx.gearbox between)) dqReg (bankOf dqNames .msr0) := by
  obtain ⟨dqHeld, dqsHeld⟩ := dqBlockFreqSwitchPrep_gearboxes .msr0 zqcal cfg commonCfg dqReg
  rw [fixed] at dqHeld dqsHeld
  intro reg inBank
  have notSa : reg.name ≠ .ddrDqDqRxSaCfg := fun isSa => absurd (isSa ▸ inBank.1) (by decide)
  have notCmn : reg.name ≠ .ddrDqDqsRxSaCmnCfg := fun isCmn =>
    absurd (isCmn ▸ inBank.1) (by decide)
  have calibrated := same reg notSa notCmn
  rw [setMode_apply] at calibrated ⊢
  split
  · rename_i isDqs
    rw [if_pos isDqs] at calibrated
    have held : dqReg reg = dqsRxGbWord cfg.rx.gearbox 0 := isDqs ▸ dqsHeld
    rw [calibrated, held, dqsRxGbWord_overwrites.absorbs, dqsRxGbWord_overwrites.absorbs]
  · rename_i notDqs
    rw [if_neg notDqs] at calibrated
    split
    · rename_i isDq
      rw [if_pos isDq] at calibrated
      have held : dqReg reg = dqRxGbWord cfg.rx.gearbox 0 := isDq ▸ dqHeld
      rw [calibrated, held, dqRxGbWord_overwrites.absorbs, dqRxGbWord_overwrites.absorbs]
    · rename_i notDq
      rw [calibrated, if_neg notDq]

end SenseAmplifiers

namespace Wddr

variable [KernelIo] {wddr after : Wddr} {zqcal : ZqcalCfg} {hw : HwStatus} {calibrate : Bool}

/-- What one byte's turn leaves alone outside of the byte's registers and codes. -/
theorem senseAmpByte_table {rxGb : RxGbCfg} {channel byte : Nat} {ret : WddrReturn}
    (returned : wddr.senseAmpByte hw calibrate rxGb channel byte = (ret, after)) :
    after.dfich = wddr.dfich ∧ after.table.freq = wddr.table.freq ∧
      after.table.valid = wddr.table.valid ∧ ∀ other otherByte,
        (after.table.common.dqRx other otherByte).receiver =
          (wddr.table.common.dqRx other otherByte).receiver := by
  have receivers : ∀ (sa : SensampDqbyteCommonCfg) other otherByte,
      (Function.update wddr.table.common.dqRx channel
        (Function.update (wddr.table.common.dqRx channel) byte
          { wddr.table.common.dqRx channel byte with sa := sa }) other otherByte).receiver =
        (wddr.table.common.dqRx other otherByte).receiver := by
    intro sa other otherByte
    by_cases sameChannel : other = channel
    · subst sameChannel
      rw [Function.update_self]
      by_cases sameByte : otherByte = byte
      · subst sameByte
        rw [Function.update_self]
      · rw [Function.update_of_ne sameByte]
    · rw [Function.update_of_ne sameChannel]
  unfold senseAmpByte at returned
  dsimp only at returned
  split at returned
  · cases returned
    exact ⟨rfl, rfl, rfl, receivers _⟩
  · cases returned
    exact ⟨rfl, rfl, rfl, receivers _⟩

theorem sameBank_of_senseAmpByte {channel byte : Nat}
    (holds : wddr.Holds zqcal wddrPhyBootFreq .msr0) (inChannels : channel < wddrPhyChannelNum)
    (inBytes : byte < wddrPhyDqByteNum)
    (returned : wddr.senseAmpByte hw calibrate
      (((wddr.table.freq wddrPhyBootFreq.toNat).channel channel).dq byte).rx.gearbox channel byte =
        (.wddrSuccess, after)) :
    SameBank .msr0 wddr after := by
  obtain ⟨sameRet, samePhy⟩ := senseAmpByte_spec hw calibrate
    (((wddr.table.freq wddrPhyBootFreq.toNat).channel channel).dq byte).rx.gearbox channel byte wddr
  rw [returned] at sameRet samePhy
  rw [← sameRet, restoredRegs, if_pos rfl] at samePhy
  obtain ⟨dfich, freq, valid, receiver⟩ := senseAmpByte_table returned
  constructor
  · intro other inOther otherByte inOtherBytes
    rw [samePhy]
    by_cases sameChannel : other = channel
    · subst sameChannel
      by_cases sameByte : otherByte = byte
      · subst sameByte
        simp only [setByte, Function.update_self]
        apply eqOn_restored_gearboxes (holds.blocks.dq _ inChannels _ inBytes)
        intro reg notSa notCmn
        exact channelRxSaDqbyteConfigure_of_ne _ _ _ notSa notCmn
      · simp only [setByte, Function.update_self, Function.update_of_ne sameByte]
        exact Set.eqOn_refl _ _
    · simp only [setByte, Function.update_of_ne sameChannel]
      exact Set.eqOn_refl _ _
  · intro other _
    rw [samePhy]
    exact Set.eqOn_refl _ _
  · rw [samePhy]
    exact Set.eqOn_refl _ _
  · rw [dfich]
    exact Set.eqOn_refl _ _
  · exact freq
  · exact valid
  · exact receiver

theorem sameBank_of_senseAmpChannel {channel : Nat} {cfg : WddrFreqCfg}
    (holds : wddr.Holds zqcal wddrPhyBootFreq .msr0)
    (isCfg : cfg = wddr.table.freq wddrPhyBootFreq.toNat)
    (inChannels : channel < wddrPhyChannelNum)
    (returned : wddr.senseAmpChannel hw calibrate cfg channel = (.wddrSuccess, after)) :
    SameBank .msr0 wddr after := by
  have forced : SameBank .msr0 wddr (wddr.onPhy (wddrSetChipSelectRegIf channel 0 true)) :=
    sameBank_setChipSelect channel 0 true
  unfold senseAmpChannel at returned
  dsimp only at returned
  split at returned
  · rename_i looped bytes
    cases returned
    have turns : SameBank .msr0 wddr looped := by
      refine propagateErrors_success_induction (motive := SameBank .msr0 wddr) ?_ forced bytes
      intro byte listed state next same turned
      rw [isCfg, ← same.freq] at turned
      exact same.trans (sameBank_of_senseAmpByte (holds.of_sameBank same) inChannels
        (List.mem_range.mp listed) turned)
    exact turns.trans (sameBank_setChipSelect channel 0 false)
  · rename_i failed _
    cases returned
    exact absurd rfl failed

/-- The sense amplifiers and the training leave the bank as it was when they succeed. -/
theorem sameBank_wddrBootTrain (holds : wddr.Holds zqcal wddrPhyBootFreq .msr0)
    (bootCfg : WddrBootCfg) :
    Ends (wddr.wddrBootTrain hw bootCfg) (fun _ => True) fun done =>
      done.1 = .wddrSuccess → SameBank .msr0 wddr done.2 := by
  unfold wddrBootTrain
  refine (freqAt_reads wddr.table wddrPhyBootFreq).bind ?_
  rintro cfg rfl
  split
  · rename_i looped returned
    have turns : SameBank .msr0 wddr looped := by
      refine propagateErrors_success_induction (motive := SameBank .msr0 wddr) ?_
        (.refl _ _) returned
      intro channel listed state next same turned
      exact same.trans (sameBank_of_senseAmpChannel (holds.of_sameBank same)
        (congrFun same.freq _).symm (List.mem_range.mp listed) turned)
    apply Ends.pure
    intro _
    split
    · exact turns
    · exact turns
  · rename_i failed _
    exact Ends.pure fun success => absurd success failed

/-- Bank 0 holds the boot frequency, and the PLL runs it. -/
structure AtBoot (wddr : Wddr) : Prop where
  programmed : wddr.Programmed wddrPhyBootFreq .msr0
  running : wddr.pll.pllGetCurrentFreq = .ok wddrPhyBootFreq

theorem AtBoot.of_sameBank {before after : Wddr} (atBoot : before.AtBoot)
    (same : SameBank .msr0 before after) (pll : after.pll = before.pll) : after.AtBoot where
  programmed := atBoot.programmed.of_sameBank same
  running := by
    rw [pll]
    exact atBoot.running

omit [KernelIo] in
theorem sameBank_of_same {before after : Wddr} (phy : after.phy = before.phy)
    (dfich : after.dfich = before.dfich) (table : after.table = before.table) {msr : WddrMsr} :
    SameBank msr before after := by
  constructor <;> simp [phy, dfich, table, Set.eqOn_refl]

section Switches

variable [BuildConfig] {current : VcoIndex}

/-- A software switch leaves the banks alone. -/
theorem sameBank_wddrSwFreqSwitch (freqId : UInt8) (msr bank : WddrMsr) :
    Ends (wddr.wddrSwFreqSwitch freqId msr) (fun _ => True) fun done =>
      SameBank bank wddr done.2 := by
  unfold wddrSwFreqSwitch
  split
  · exact Ends.pure (.refl _ _)
  · apply Ends.bind_of_forall
    intro cfg
    apply Ends.bind_of_forall
    intro pll
    apply Ends.bind_of_forall
    intro nextVco
    apply Ends.bind_of_forall
    intro _
    apply Ends.pure
    apply sameBank_of_same
    · simp only [onFsw]
    · simp only [onFsw]
    · simp only [onFsw]

/-- The alignment ends at the boot frequency when it starts there. -/
theorem atBoot_alignVco (fuel : Nat) (sound : wddr.Sound current)
    (notBooted : wddr.isBooted = false) (atBoot : wddr.AtBoot) :
    Ends (wddr.alignVco fuel) (fun _ => True) AtBoot := by
  induction fuel generalizing wddr current with
  | zero => trivial
  | succ fuel inductionHypothesis =>
      unfold alignVco
      apply Ends.bind_of_forall
      intro currentVcoId
      split
      · exact Ends.pure atBoot
      · have switches : Ends (wddr.wddrSwFreqSwitch wddrPhyBootFreq .msr0) (fun _ => True) _ :=
          wddrSwFreqSwitch_ends sound sound.table.bootFreq .msr0
        have runs := switches.and ((wddrSwFreqSwitch_running sound notBooted wddrPhyBootFreq
          .msr0).and (sameBank_wddrSwFreqSwitch wddrPhyBootFreq .msr0 .msr0))
        apply runs.allowAny.bind
        rintro ⟨ret, switched⟩ ⟨⟨quiet, soundSwitched⟩, running, same⟩
        apply inductionHypothesis soundSwitched (quiet.isBooted.trans notBooted)
        exact ⟨atBoot.programmed.of_sameBank same, running⟩

end Switches

section Setup

/-- Bank 0 holds the boot frequency, and the entries of the table are still the given ones. -/
structure BootsFrom (freq : Nat → WddrFreqCfg) (wddr : Wddr) : Prop where
  atBoot : wddr.AtBoot
  freq : wddr.table.freq = freq

theorem bootsFrom_wddrConfigurePhy (valid : wddr.table.validFreq wddrPhyBootFreq = true)
    (running : wddr.pll.pllGetCurrentFreq = .ok wddrPhyBootFreq) :
    Ends (wddr.wddrConfigurePhy wddrPhyBootFreq .msr0) (fun _ => True)
      (BootsFrom wddr.table.freq) := by
  rw [wddrConfigurePhy_of_valid valid]
  apply Ends.ok
  exact ⟨⟨programmed_iff_exists_holds.mpr ⟨_, holds_configured valid⟩, running⟩, rfl⟩

/-- The code of the reference voltage is there already. -/
theorem cmnVrefSetCodeRegIf_eq_self {msr : WddrMsr} {cfg : VrefCfg} {cmnReg : CmnRegs}
    (fixed : IsFixedPt (commonBlockFreqSwitchPrep msr cfg) cmnReg) :
    cmnVrefSetCodeRegIf msr (cfg.code.setWidth 32) cmnReg = cmnReg := by
  have word := congrFun fixed ⟨.ddrCmnVrefCfg, [msr.index]⟩
  simp only [commonBlockFreqSwitchPrep, cmnVrefSetPwrModeRegIf, cmnVrefSetCodeRegIf, modifyReg,
    write_self, updateRegField_eq] at word
  funext reg
  simp only [cmnVrefSetCodeRegIf, modifyReg_apply, updateRegField_eq]
  split
  · rename_i isVref
    subst isVref
    ext position inside
    have apart := BitFields.Field.getElem_of_disjoint
      (by decide : ddrCmnVrefM0CfgCtrl.mask &&& ddrCmnVrefM0CfgPwr.mask = 0) position inside
    have bit := congrArg (fun value : Word => value[position]) word
    simp only [BitFields.Field.getElem_insert] at bit ⊢
    cases inCode : ddrCmnVrefM0CfgCtrl.mask[position] with
    | false => simp
    | true =>
        have outside : ddrCmnVrefM0CfgPwr.mask[position] = false := by
          simpa [inCode] using apart
        simpa [inCode, outside] using bit
  · rfl

theorem bootsFrom_onCmn {freq : Nat → WddrFreqCfg} (boots : wddr.BootsFrom freq) :
    (wddr.onCmn (cmnVrefSetCodeRegIf .msr0
      ((freq wddrPhyBootFreq.toNat).vref.code.setWidth 32))).AtBoot := by
  obtain ⟨codes, holds⟩ := programmed_iff_exists_holds.mp boots.atBoot.programmed
  have fixed := holds.blocks.cmn
  rw [boots.freq] at fixed
  have same := cmnVrefSetCodeRegIf_eq_self fixed
  refine boots.atBoot.of_sameBank ?_ rfl
  apply sameBank_of_same
  · rw [onCmn, same]
  · rfl
  · rfl

variable [BuildConfig]

/-- The impedance calibration of a boot keeps the bank. -/
theorem bootsFrom_bootZqcalCal (onBank0 : hw.currentMsr = .msr0) (bootCfg : WddrBootCfg)
    (atBoot : wddr.AtBoot) :
    Ends (wddr.bootZqcalCal hw bootCfg) (fun _ => True) (BootsFrom wddr.table.freq) := by
  unfold bootZqcalCal
  split
  · cases calibrated : wddr.wddrIocalCalibrate hw with
    | error fault => trivial
    | ok between =>
        have same : SameBank .msr0 wddr between := sameBank_of_wddrIocalCalibrate calibrated
        have pll : between.pll = wddr.pll := by
          obtain ⟨codes, cmn, rfl⟩ := eq_of_wddrIocalCalibrate calibrated
          rfl
        have atBetween := atBoot.of_sameBank same pll
        have programmed : between.Programmed wddrPhyBootFreq hw.currentMsr := by
          rw [onBank0]
          exact atBetween.programmed
        obtain ⟨codes, holds⟩ := programmed_iff_exists_holds.mp programmed
        change Ends (between.wddrIocalUpdatePhy hw) _ _
        rw [wddrIocalUpdatePhy_eq atBetween.running programmed, onBank0, ← same.freq]
        exact bootsFrom_wddrConfigurePhy holds.valid atBetween.running
  · exact Ends.pure ⟨atBoot, rfl⟩

variable [Device] {current : VcoIndex}

omit [BuildConfig] in
theorem sameBank_fillAndSend {msr : WddrMsr} (packets : List DfiTxPacket) :
    SameBank msr wddr (wddr.onDfich fun dfich =>
      (dfich.dfiBufferFillAndSendPackets packets).2.dfiBufferDisable) :=
  sameBank_onDfich ((DfiChannel.outsideFifo_dfiBufferFillAndSendPackets packets wddr.dfich).trans
    (DfiChannel.outsideFifo_dfiBufferDisable _))

/-- The first part of boot configures bank 0 for the boot frequency. -/
theorem atBoot_wddrBootSetup (sound : wddr.Sound current) (notBooted : wddr.isBooted = false)
    (onBank0 : hw.currentMsr = .msr0) (bootCfg : WddrBootCfg) :
    Ends (wddr.wddrBootSetup hw bootCfg) (fun _ => True) AtBoot := by
  unfold wddrBootSetup
  have calibrates : Ends (wddr.bootPllCal hw bootCfg) (fun _ => True) _ :=
    bootPllCal_ends sound hw bootCfg
  apply calibrates.bind
  rintro calibrated ⟨quietCalibrated, soundCalibrated⟩
  have overridden := calibrated.untouched_onPhy (forRange wddrPhyChannelNum fun channel phy =>
    { phy with ca := Function.update phy.ca channel (overrideCsCke (phy.ca channel)) })
  have soundOverridden := overridden.sound soundCalibrated
  have stillNotBooted := (quietCalibrated.trans overridden.quiet).isBooted.trans notBooted
  have switches : Ends _ (fun _ => True) _ :=
    wddrSwFreqSwitch_ends soundOverridden soundOverridden.table.bootFreq .msr0
  have runs := switches.and
    (wddrSwFreqSwitch_running soundOverridden stillNotBooted wddrPhyBootFreq .msr0)
  apply runs.allowAny.bind
  rintro ⟨ret, switched⟩ ⟨⟨-, soundSwitched⟩, running⟩
  have found : Ends (switched.table.freqAt wddrPhyBootFreq) (fun _ => True) _ :=
    freqAt_ends soundSwitched.table.bootFreq
  apply found.bind
  rintro _ rfl
  refine (bootsFrom_wddrConfigurePhy ?_ ?_).bind ?_
  · exact soundSwitched.table.bootFreq
  · exact running
  intro configured atConfigured
  have flushed := atConfigured.atBoot.of_sameBank
    ((sameBank_fillAndSend flushPackets).trans sameBank_clearFifo) rfl
  refine (bootsFrom_bootZqcalCal onBank0 bootCfg flushed).bind ?_
  intro last boots
  have entries : last.table.freq = switched.table.freq := boots.freq.trans atConfigured.freq
  exact Ends.pure (bootsFrom_onCmn ⟨boots.atBoot, entries⟩)

/-- The last part of boot keeps the bank and ends at the boot frequency. -/
theorem atBoot_wddrBootFinish (sound : wddr.Sound current) (notBooted : wddr.isBooted = false)
    (atBoot : wddr.AtBoot) : Ends (wddr.wddrBootFinish hw) (fun _ => True) AtBoot := by
  unfold wddrBootFinish
  have primed := atBoot.of_sameBank
    ((sameBank_fillAndSend (primePackets hw.heapFails)).trans sameBank_clearFifo) rfl
  have soundPrimed := ((wddr.untouched_onDfich fun dfich =>
    (dfich.dfiBufferFillAndSendPackets (primePackets hw.heapFails)).2.dfiBufferDisable).trans
      (untouched_onPhy _ wddrClearFifoAllChannels)).sound sound
  refine (atBoot_alignVco 4 soundPrimed notBooted primed).bind ?_
  intro aligned atAligned
  have handed : aligned.fswSwitchToDfiMode.phy = aligned.phy ∧
      aligned.fswSwitchToDfiMode.dfich = aligned.dfich ∧
      aligned.fswSwitchToDfiMode.table = aligned.table ∧
      aligned.fswSwitchToDfiMode.pll = aligned.pll := by
    unfold fswSwitchToDfiMode
    split
    · exact ⟨rfl, rfl, rfl, rfl⟩
    · simp only [onFsw, onDfi, onIrq, and_self]
  obtain ⟨phy, dfich, table, pll⟩ := handed
  refine Ends.pure (atAligned.of_sameBank (sameBank_of_same ?_ ?_ ?_) ?_)
  · exact phy
  · exact dfich
  · exact table
  · exact pll

/-- A successful boot leaves bank 0 with the boot frequency, which the PLL runs. -/
theorem atBoot_of_wddrBoot (sound : wddr.Sound current) (notBooted : wddr.isBooted = false)
    (onBank0 : hw.currentMsr = .msr0) {bootCfg : WddrBootCfg}
    (booted : wddr.wddrBoot hw bootCfg = .ok (.wddrSuccess, after)) : after.AtBoot := by
  have ends : Ends (wddr.wddrBoot hw bootCfg) (fun _ => True) fun done =>
      done.1 = .wddrSuccess → done.2.AtBoot := by
    unfold wddrBoot
    have setup := (wddrBootSetup_ends sound hw bootCfg).and
      (atBoot_wddrBootSetup sound notBooted onBank0 bootCfg)
    apply setup.allowAny.bind
    rintro started ⟨⟨quietStarted, soundStarted⟩, atStarted⟩
    obtain ⟨codes, holds⟩ := programmed_iff_exists_holds.mp atStarted.programmed
    have trains : Ends (started.wddrBootTrain hw bootCfg) (fun _ => True) _ :=
      wddrBootTrain_ends soundStarted hw bootCfg
    apply (trains.and (sameBank_wddrBootTrain holds bootCfg)).allowAny.bind
    rintro ⟨ret, trained⟩ ⟨untouched, same⟩
    cases ret with
    | wddrSuccess =>
        have atTrained := atStarted.of_sameBank (same rfl) untouched.pll
        have notBooted' := (quietStarted.trans untouched.quiet).isBooted.trans notBooted
        apply (atBoot_wddrBootFinish (untouched.sound soundStarted) notBooted' atTrained).bind
        intro last atLast
        exact Ends.pure fun _ => atLast
    | _ => exact Ends.pure fun success => by cases success
  exact ends.good_of_ok booted rfl

end Setup

end Wddr

end WavLpddr
