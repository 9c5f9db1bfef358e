import WavLpddr.DeviceInvariant
import WavLpddr.SenseAmpTable
import WavLpddr.System

/-!
# The overrides of a boot

To configure the sense amplifiers, boot forces the chip select of a channel, sets
the receive gearboxes of a byte for calibration and takes its amplifiers out of
the dynamic state.  Each of these is undone on the way out of its loop, so a
comparator that the calibration does not accept leaves all three behind.
-/

namespace WavLpddr

open RegisterFile BitFields Outcome

section Channels

theorem onChannel_dq (ca : CaRegs → CaRegs) (dq : DqRegs → DqRegs) (channel : Nat)
    (phy : PhyRegs) {byte : Nat} (inChannel : byte < wddrPhyDqByteNum) :
    (onChannel channel ca dq phy).dq channel byte = dq (phy.dq channel byte) := by
  have two : wddrPhyDqByteNum = 2 := rfl
  have bytes : byte = 0 ∨ byte = 1 := by omega
  rcases bytes with rfl | rfl <;> simp [onChannel]

/-- The registers of one channel are the same. -/
structure SameChannel (channel : Nat) (before after : PhyRegs) : Prop where
  ca : after.ca channel = before.ca channel
  dq : after.dq channel = before.dq channel

theorem SameChannel.trans {channel : Nat} {first second third : PhyRegs}
    (earlier : SameChannel channel first second) (later : SameChannel channel second third) :
    SameChannel channel first third :=
  ⟨later.ca.trans earlier.ca, later.dq.trans earlier.dq⟩

theorem sameChannel_onChannel {channel other : Nat} (different : other ≠ channel)
    (ca : CaRegs → CaRegs) (dq : DqRegs → DqRegs) (phy : PhyRegs) :
    SameChannel other phy (onChannel channel ca dq phy) :=
  ⟨Function.update_of_ne different _ _, Function.update_of_ne different _ _⟩

end Channels

section Registers

variable [KernelIo]

/-- The chip select of a block is not overridden. -/
def Released {Name : Type} (name : Name) (wcs rcs : RegField)
    (regs : Registers (ArrayReg Name) 32) : Prop :=
  getRegField (regs ⟨name, []⟩) wcs = 0 ∧ getRegField (regs ⟨name, []⟩) rcs = 0

def CaReleased (caReg : CaRegs) : Prop :=
  Released .ddrCaTopCfg ddrCaTopCfgWcsSwOvr ddrCaTopCfgRcsSwOvr caReg

def DqReleased (dqReg : DqRegs) : Prop :=
  Released .ddrDqTopCfg ddrDqTopCfgWcsSwOvr ddrDqTopCfgRcsSwOvr dqReg

/-- The sense amplifiers of a byte are in the dynamic state. -/
def SaDynamic (dqReg : DqRegs) : Prop :=
  let regVal := dqReg ⟨.ddrDqDqsRxSaCmnCfg, []⟩
  getRegField regVal ddrDqDqsRxSaCmnCfgOvrEn0180 = 0 ∧
    getRegField regVal ddrDqDqsRxSaCmnCfgCalEn0180 = 0 ∧
    getRegField regVal ddrDqDqsRxSaCmnCfgSwOvr = 0

/-- The receive gearboxes of bank 0 hold the values of a configuration. -/
structure RxGbHolds (cfg : RxGbCfg) (dqReg : DqRegs) : Prop where
  dqDataMode : getRegField (dqReg ⟨.ddrDqDqRxCfg, [0]⟩) ddrDqDqRxM0CfgRgbMode =
    cfg.dataMode.value
  dqFifoMode : getRegField (dqReg ⟨.ddrDqDqRxCfg, [0]⟩) ddrDqDqRxM0CfgFgbMode =
    cfg.fifoMode.value
  dqsDataMode : getRegField (dqReg ⟨.ddrDqDqsRxCfg, [0]⟩) ddrDqDqsRxM0CfgRgbMode =
    cfg.dataMode.value
  dqsFifoMode : getRegField (dqReg ⟨.ddrDqDqsRxCfg, [0]⟩) ddrDqDqsRxM0CfgFgbMode =
    cfg.fifoMode.value
  wckMode : getRegField (dqReg ⟨.ddrDqDqsRxCfg, [0]⟩) ddrDqDqsRxM0CfgWckMode =
    cfg.wckMode.value
  -- The table's value is wider than the field.
  preFilterSel : getRegField (dqReg ⟨.ddrDqDqsRxCfg, [0]⟩) ddrDqDqsRxM0CfgPreFilterSel =
    ddrDqDqsRxM0CfgPreFilterSel.cut (cfg.preFilterSel.setWidth 32)

section TopRegister

variable {Name : Type} [DecidableEq Name] {name : Name} {wcsVal rcsVal wcs rcs : RegField}

/-- The chip select is released again by switching its override off. -/
theorem released_setChipSelect (apart : wcs.mask &&& rcs.mask = 0) (rankSel : Word)
    (regs : Registers (ArrayReg Name) 32) :
    Released name wcs rcs
      (topSetChipSelectRegIf name wcsVal rcsVal wcs rcs rankSel false regs) := by
  simp only [Released, topSetChipSelectRegIf, write_self, boolWord, Bool.false_eq_true, if_false]
  constructor
  · rw [getRegField_updateRegField_of_disjoint _ _ _ _ apart, getRegField_updateRegField_cut,
      Field.cut_zero]
  · rw [getRegField_updateRegField_cut, Field.cut_zero]

theorem wcs_setChipSelect (apart : wcs.mask &&& rcs.mask = 0) (rankSel : Word)
    (regs : Registers (ArrayReg Name) 32) :
    getRegField
        (topSetChipSelectRegIf name wcsVal rcsVal wcs rcs rankSel true regs ⟨name, []⟩) wcs =
      wcs.cut 1 := by
  simp only [topSetChipSelectRegIf, write_self, boolWord, if_true]
  rw [getRegField_updateRegField_of_disjoint _ _ _ _ apart, getRegField_updateRegField_cut]

theorem Released.clearFifo {fifoClr : RegField} {regs : Registers (ArrayReg Name) 32}
    (released : Released name wcs rcs regs) (wcsApart : wcs.mask &&& fifoClr.mask = 0)
    (rcsApart : rcs.mask &&& fifoClr.mask = 0) :
    Released name wcs rcs (topClearFifoRegIf name fifoClr regs) := by
  simp only [Released, topClearFifoRegIf, write_self,
    getRegField_updateRegField_of_disjoint _ _ _ _ wcsApart,
    getRegField_updateRegField_of_disjoint _ _ _ _ rcsApart]
  exact released

theorem topSetChipSelectRegIf_of_ne {reg : ArrayReg Name} (other : reg.name ≠ name)
    (rankSel : Word) (override : Bool) (regs : Registers (ArrayReg Name) 32) :
    topSetChipSelectRegIf name wcsVal rcsVal wcs rcs rankSel override regs reg = regs reg := by
  have different : reg ≠ ⟨name, []⟩ := fun same => other (congrArg ArrayReg.name same)
  simp only [topSetChipSelectRegIf, write_of_ne different]

theorem topClearFifoRegIf_of_ne {reg : ArrayReg Name} (other : reg.name ≠ name)
    (fifoClr : RegField) (regs : Registers (ArrayReg Name) 32) :
    topClearFifoRegIf name fifoClr regs reg = regs reg := by
  have different : reg ≠ ⟨name, []⟩ := fun same => other (congrArg ArrayReg.name same)
  simp only [topClearFifoRegIf, write_of_ne different]

end TopRegister

theorem saDynamic_setState (dqReg : DqRegs) :
    SaDynamic (dqDqsSaCmnSetStateRegIf .dynamic dqReg) := by
  simp (disch := decide) only [SaDynamic, dqDqsSaCmnSetStateRegIf, modifyReg_apply, if_true,
    getRegField_updateRegField_of_disjoint, getRegField_updateRegField_cut, Field.cut_zero,
    and_self]

/-- The values of the gearbox modes fit into their fields. -/
theorem rxGbHolds_setMode (cfg : RxGbCfg) (dqReg : DqRegs) :
    RxGbHolds cfg
      (dqDqsRxGbSetModeRegIf .msr0 cfg (dqDqRxGbSetModeRegIf .msr0 cfg dqReg)) := by
  obtain ⟨dataMode, fifoMode, wckMode, preFilterSel⟩ := cfg
  constructor <;>
    simp (disch := decide) [dqDqsRxGbSetModeRegIf, dqDqRxGbSetModeRegIf, modifyReg_apply,
      WddrMsr.index, getRegField_updateRegField_of_disjoint, getRegField_updateRegField_cut]
  · cases dataMode <;> decide
  · cases fifoMode <;> decide
  · cases dataMode <;> decide
  · cases fifoMode <;> decide
  · cases wckMode <;> decide

/-- A byte is as boot wants to leave it. -/
structure ByteRestored (cfg : RxGbCfg) (dqReg : DqRegs) : Prop where
  senseAmps : SaDynamic dqReg
  gearboxes : RxGbHolds cfg dqReg

/-- Only the top register of the byte may have changed. -/
theorem ByteRestored.of_top {cfg : RxGbCfg} {before after : DqRegs}
    (restored : ByteRestored cfg before)
    (same : ∀ reg : ArrayReg DqRegName, reg.name ≠ .ddrDqTopCfg → after reg = before reg) :
    ByteRestored cfg after := by
  have senseAmps := same ⟨.ddrDqDqsRxSaCmnCfg, []⟩ (by decide)
  have dqGearbox := same ⟨.ddrDqDqRxCfg, [0]⟩ (by decide)
  have dqsGearbox := same ⟨.ddrDqDqsRxCfg, [0]⟩ (by decide)
  constructor
  · simpa only [SaDynamic, senseAmps] using restored.senseAmps
  · have held := restored.gearboxes
    constructor <;> simp only [dqGearbox, dqsGearbox, held.dqDataMode, held.dqFifoMode,
      held.dqsDataMode, held.dqsFifoMode, held.wckMode, held.preFilterSel]

/-- A channel is as boot wants to leave it. -/
structure ChannelRestored (cfg : ChannelFreqCfg) (channel : Nat) (phy : PhyRegs) : Prop where
  ca : CaReleased (phy.ca channel)
  dq : ∀ byte, byte < wddrPhyDqByteNum → DqReleased (phy.dq channel byte)
  bytes : ∀ byte, byte < wddrPhyDqByteNum →
    ByteRestored (cfg.dq byte).rx.gearbox (phy.dq channel byte)

theorem ChannelRestored.of_same {cfg : ChannelFreqCfg} {channel : Nat}
    {before after : PhyRegs} (restored : ChannelRestored cfg channel before)
    (same : SameChannel channel before after) : ChannelRestored cfg channel after := by
  constructor
  · simpa only [same.ca] using restored.ca
  · simpa only [same.dq] using restored.dq
  · simpa only [same.dq] using restored.bytes

theorem ChannelRestored.clearFifo {cfg : ChannelFreqCfg} {channel : Nat} {phy : PhyRegs}
    (restored : ChannelRestored cfg channel phy) :
    ChannelRestored cfg channel (wddrClearFifoAllChannels phy) := by
  refine forRange_induction (motive := ChannelRestored cfg channel) restored ?_
  intro cleared state _ held
  by_cases same : channel = cleared
  · subst same
    constructor
    · simp only [wddrClearFifoRegIf, onChannel, Function.update_self]
      exact held.ca.clearFifo (by decide) (by decide)
    · intro byte inChannel
      rw [wddrClearFifoRegIf, onChannel_dq _ _ _ _ inChannel]
      exact (held.dq byte inChannel).clearFifo (by decide) (by decide)
    · intro byte inChannel
      rw [wddrClearFifoRegIf, onChannel_dq _ _ _ _ inChannel]
      exact (held.bytes byte inChannel).of_top fun reg other =>
        topClearFifoRegIf_of_ne other _ _
  · exact held.of_same (sameChannel_onChannel same _ _ _)

end Registers

namespace Wddr

section SenseAmps

variable [KernelIo]

/-- Replace the registers of one byte. -/
def setByte (channel byte : Nat) (dqReg : DqRegs) (phy : PhyRegs) : PhyRegs :=
  { phy with
    dq := Function.update phy.dq channel (Function.update (phy.dq channel) byte dqReg) }

/-- The registers of a byte with its gearboxes set for calibration. -/
def calibratingRegs (channel byte : Nat) (wddr : Wddr) : DqRegs :=
  dqDqsRxGbSetModeRegIf .msr0 calibrationRxGb
    (dqDqRxGbSetModeRegIf .msr0 calibrationRxGb (wddr.phy.dq channel byte))

/-- The configuration of the amplifiers of one byte. -/
def senseAmpOutcome (hw : HwStatus) (calibrate : Bool) (channel byte : Nat) (wddr : Wddr) :
    WddrReturn × SensampByte :=
  channelRxSaDqbyteConfigure (hw.sensamp channel byte) calibrate
    ((wddr.table.common.dqRx channel byte).sa, wddr.calibratingRegs channel byte)

/-- The gearboxes are set back after a success. -/
def restoredRegs (rxGb : RxGbCfg) (ret : WddrReturn) (dqReg : DqRegs) : DqRegs :=
  if ret = .wddrSuccess then
    dqDqsRxGbSetModeRegIf .msr0 rxGb (dqDqRxGbSetModeRegIf .msr0 rxGb dqReg)
  else dqReg

theorem senseAmpByte_spec (hw : HwStatus) (calibrate : Bool) (rxGb : RxGbCfg)
    (channel byte : Nat) (wddr : Wddr) :
    let outcome := wddr.senseAmpOutcome hw calibrate channel byte
    let done := wddr.senseAmpByte hw calibrate rxGb channel byte
    done.1 = outcome.1 ∧
      done.2.phy = setByte channel byte (restoredRegs rxGb outcome.1 outcome.2.2) wddr.phy := by
  dsimp only
  unfold senseAmpByte senseAmpOutcome setRxGb
  simp only [onPhy, Function.update_self, Function.update_idem, calibratingRegs]
  split
  · rename_i success
    simp only [success, setByte, restoredRegs, if_true, and_self]
  · rename_i failed
    simp only [setByte, restoredRegs, if_neg failed, and_self]

theorem exists_setByte_of_senseAmpByte {hw : HwStatus} {calibrate : Bool} {rxGb : RxGbCfg}
    {channel byte : Nat} {ret : WddrReturn} {wddr after : Wddr}
    (returned : wddr.senseAmpByte hw calibrate rxGb channel byte = (ret, after)) :
    ∃ dqReg, after.phy = setByte channel byte dqReg wddr.phy := by
  have samePhy := (senseAmpByte_spec hw calibrate rxGb channel byte wddr).2
  rw [returned] at samePhy
  exact ⟨_, samePhy⟩

theorem byteRestored_of_senseAmpByte {hw : HwStatus} {calibrate : Bool} {rxGb : RxGbCfg}
    {channel byte : Nat} {wddr after : Wddr}
    (returned : wddr.senseAmpByte hw calibrate rxGb channel byte = (.wddrSuccess, after)) :
    ByteRestored rxGb (after.phy.dq channel byte) := by
  obtain ⟨sameRet, samePhy⟩ := senseAmpByte_spec hw calibrate rxGb channel byte wddr
  rw [returned] at sameRet samePhy
  have configured : wddr.senseAmpOutcome hw calibrate channel byte =
      (.wddrSuccess, (wddr.senseAmpOutcome hw calibrate channel byte).2) :=
    Prod.ext sameRet.symm rfl
  obtain ⟨slices, -, done⟩ := channelRxSaDqbyteConfigure_returned configured
  have regs : after.phy.dq channel byte = dqDqsRxGbSetModeRegIf .msr0 rxGb
      (dqDqRxGbSetModeRegIf .msr0 rxGb (dqDqsSaCmnSetStateRegIf .dynamic slices.2)) := by
    rw [samePhy, ← sameRet]
    simp only [setByte, Function.update_self, restoredRegs, if_true, done]
  rw [regs]
  constructor
  · exact saDynamic_setState slices.2
  · exact rxGbHolds_setMode rxGb _

theorem senseAmpByte_success_iff (hw : HwStatus) (calibrate : Bool) (rxGb : RxGbCfg)
    (channel byte : Nat) (wddr : Wddr) :
    (wddr.senseAmpByte hw calibrate rxGb channel byte).1 = .wddrSuccess ↔
      (calibrate = true → ∀ bit, bit < wddrPhyDqSliceNum → ∀ saIndex ∈ SensampIndex.ddr,
        (hw.sensamp channel byte bit saIndex).Accepted) := by
  rw [(senseAmpByte_spec hw calibrate rxGb channel byte wddr).1]
  exact channelRxSaDqbyteConfigure_success_iff _ _ _

/-- The bytes of a channel, between forcing its chip select and releasing it. -/
def senseAmpBytes (hw : HwStatus) (calibrate : Bool) (cfg : WddrFreqCfg) (channel : Nat)
    (wddr : Wddr) : WddrReturn × Wddr :=
  propagateErrors (fun byte =>
      senseAmpByte hw calibrate ((cfg.channel channel).dq byte).rx.gearbox channel byte)
    (List.range wddrPhyDqByteNum)
    (wddr.onPhy (wddrSetChipSelectRegIf channel 0 true))

theorem senseAmpChannel_fst (hw : HwStatus) (calibrate : Bool) (cfg : WddrFreqCfg)
    (channel : Nat) (wddr : Wddr) :
    (wddr.senseAmpChannel hw calibrate cfg channel).1 =
      (wddr.senseAmpBytes hw calibrate cfg channel).1 := by
  unfold senseAmpChannel senseAmpBytes
  dsimp only
  split
  · rename_i returned
    rw [returned]
  · rename_i returned
    rw [returned]

/-- The bytes leave the CA block and the other channels alone. -/
theorem senseAmpBytes_frame (hw : HwStatus) (calibrate : Bool) (cfg : WddrFreqCfg)
    (channel : Nat) (wddr : Wddr) :
    let forced := wddrSetChipSelectRegIf channel 0 true wddr.phy
    let done := (wddr.senseAmpBytes hw calibrate cfg channel).2
    done.phy.ca = forced.ca ∧
      ∀ other, other ≠ channel → SameChannel other forced done.phy := by
  refine propagateErrors_induction (motive := fun state : Wddr =>
    state.phy.ca = (wddrSetChipSelectRegIf channel 0 true wddr.phy).ca ∧ ∀ other,
      other ≠ channel → SameChannel other (wddrSetChipSelectRegIf channel 0 true wddr.phy)
        state.phy) ?_ _ ⟨rfl, fun _ _ => ⟨rfl, rfl⟩⟩
  rintro byte state ⟨sameCa, others⟩
  generalize turned : state.senseAmpByte hw calibrate
    ((cfg.channel channel).dq byte).rx.gearbox channel byte = done
  obtain ⟨ret, after⟩ := done
  obtain ⟨dqReg, samePhy⟩ := exists_setByte_of_senseAmpByte turned
  simp only [samePhy]
  refine ⟨sameCa, fun other different => (others other different).trans ⟨rfl, ?_⟩⟩
  exact Function.update_of_ne different _ _

/-- The channels that are not configured stay as they are. -/
theorem senseAmpChannel_frame (hw : HwStatus) (calibrate : Bool) (cfg : WddrFreqCfg)
    {channel other : Nat} (different : other ≠ channel) (wddr : Wddr) :
    SameChannel other wddr.phy (wddr.senseAmpChannel hw calibrate cfg channel).2.phy := by
  have forced := sameChannel_onChannel different (caTopSetChipSelectRegIf 0 true)
    (dqTopSetChipSelectRegIf 0 true) wddr.phy
  have bytes := forced.trans
    ((senseAmpBytes_frame hw calibrate cfg channel wddr).2 other different)
  unfold senseAmpChannel
  dsimp only
  unfold senseAmpBytes at bytes
  split
  · rename_i returned
    rw [returned] at bytes
    exact bytes.trans (sameChannel_onChannel different _ _ _)
  · rename_i returned
    rw [returned] at bytes
    exact bytes

theorem channelRestored_of_senseAmpChannel {hw : HwStatus} {calibrate : Bool}
    {cfg : WddrFreqCfg} {channel : Nat} {wddr after : Wddr}
    (returned : wddr.senseAmpChannel hw calibrate cfg channel = (.wddrSuccess, after)) :
    ChannelRestored (cfg.channel channel) channel after.phy := by
  unfold senseAmpChannel at returned
  dsimp only at returned
  split at returned
  · rename_i looped bytes
    cases returned
    have restored := propagateErrors_establishes
      (fun byte (state : Wddr) => ByteRestored ((cfg.channel channel).dq byte).rx.gearbox
        (state.phy.dq channel byte))
      (fun byte before done turned => byteRestored_of_senseAmpByte turned)
      (fun byte other before done different turned held => by
        obtain ⟨dqReg, samePhy⟩ := exists_setByte_of_senseAmpByte turned
        simpa only [samePhy, setByte, Function.update_self,
          Function.update_of_ne different] using held) bytes
    constructor
    · simp only [onPhy, wddrSetChipSelectRegIf, onChannel, Function.update_self]
      exact released_setChipSelect (by decide) 0 _
    · intro byte inChannel
      simp only [onPhy, wddrSetChipSelectRegIf, onChannel_dq _ _ _ _ inChannel]
      exact released_setChipSelect (by decide) 0 _
    · intro byte inChannel
      simp only [onPhy, wddrSetChipSelectRegIf, onChannel_dq _ _ _ _ inChannel]
      exact (restored byte (List.mem_range.mpr inChannel)).of_top fun reg other =>
        topSetChipSelectRegIf_of_ne other 0 false _
  · rename_i failed _
    cases returned
    exact absurd rfl failed

/-- A channel that is not configured keeps its chip select forced. -/
theorem forced_of_senseAmpChannel {hw : HwStatus} {calibrate : Bool} {cfg : WddrFreqCfg}
    {channel : Nat} {ret : WddrReturn} {wddr after : Wddr} (failed : ret ≠ .wddrSuccess)
    (returned : wddr.senseAmpChannel hw calibrate cfg channel = (ret, after)) :
    ¬ CaReleased (after.phy.ca channel) := by
  have sameCa := (senseAmpBytes_frame hw calibrate cfg channel wddr).1
  unfold senseAmpBytes at sameCa
  unfold senseAmpChannel at returned
  dsimp only at returned sameCa
  split at returned
  · cases returned
    exact absurd rfl failed
  · rename_i bytes
    cases returned
    rw [bytes] at sameCa
    intro released
    have off : getRegField (after.phy.ca channel ⟨.ddrCaTopCfg, []⟩) ddrCaTopCfgWcsSwOvr = 0 :=
      released.1
    have on : getRegField (after.phy.ca channel ⟨.ddrCaTopCfg, []⟩) ddrCaTopCfgWcsSwOvr =
        ddrCaTopCfgWcsSwOvr.cut 1 := by
      rw [sameCa]
      simp only [wddrSetChipSelectRegIf, onChannel, Function.update_self]
      exact wcs_setChipSelect (by decide) 0 _
    exact absurd (on.symm.trans off) (by decide)

/-- The sense-amplifier loop of a boot. -/
def senseAmpChannels (hw : HwStatus) (calibrate : Bool) (cfg : WddrFreqCfg) (wddr : Wddr) :
    WddrReturn × Wddr :=
  propagateErrors (senseAmpChannel hw calibrate cfg) (List.range wddrPhyChannelNum) wddr

theorem channelsRestored_of_senseAmpChannels {hw : HwStatus} {calibrate : Bool}
    {cfg : WddrFreqCfg} {wddr after : Wddr}
    (returned : wddr.senseAmpChannels hw calibrate cfg = (.wddrSuccess, after)) :
    ∀ channel, channel < wddrPhyChannelNum →
      ChannelRestored (cfg.channel channel) channel after.phy := by
  have restored := propagateErrors_establishes
    (fun channel (state : Wddr) => ChannelRestored (cfg.channel channel) channel state.phy)
    (fun channel before done turned => channelRestored_of_senseAmpChannel turned)
    (fun channel other before done different turned held => by
      have same := senseAmpChannel_frame hw calibrate cfg different before
      rw [turned] at same
      exact held.of_same same) returned
  exact fun channel inRange => restored channel (List.mem_range.mpr inRange)

theorem exists_forced_of_senseAmpChannels {hw : HwStatus} {calibrate : Bool}
    {cfg : WddrFreqCfg} {ret : WddrReturn} {wddr after : Wddr} (failed : ret ≠ .wddrSuccess)
    (returned : wddr.senseAmpChannels hw calibrate cfg = (ret, after)) :
    ∃ channel, channel < wddrPhyChannelNum ∧ ¬ CaReleased (after.phy.ca channel) := by
  obtain ⟨channel, listed, before, stopped⟩ :=
    exists_failing_of_propagateErrors failed returned
  exact ⟨channel, List.mem_range.mp listed, forced_of_senseAmpChannel failed stopped⟩

end SenseAmps

end Wddr

/-- Every comparator that boot calibrates is accepted. -/
def HwStatus.SenseAmpsAccepted [KernelIo] (hw : HwStatus) (bootCfg : WddrBootCfg) : Prop :=
  getBootOption bootCfg wddrBootOptionSaCal = true →
    ∀ channel, channel < wddrPhyChannelNum → ∀ byte, byte < wddrPhyDqByteNum →
      ∀ bit, bit < wddrPhyDqSliceNum → ∀ saIndex ∈ SensampIndex.ddr,
        (hw.sensamp channel byte bit saIndex).Accepted

namespace Wddr

section Outcomes

/-- The channels' configurations in the table are the same. -/
def SameCfgs (before after : Wddr) : Prop :=
  ∀ freqId, (after.table.freq freqId).channel = (before.table.freq freqId).channel

theorem SameCfgs.trans {first second third : Wddr} (earlier : SameCfgs first second)
    (later : SameCfgs second third) : SameCfgs first third :=
  fun freqId => (later freqId).trans (earlier freqId)

/-- What a returning access reads. -/
theorem freqAt_reads (table : WddrTable) (freqId : UInt8) :
    Ends (table.freqAt freqId) (fun _ => True) fun cfg => cfg = table.freq freqId.toNat := by
  unfold WddrTable.freqAt
  split
  · exact Ends.ok rfl
  · trivial

end Outcomes

section Boot

variable [Platform]

theorem senseAmpBytes_success_iff (hw : HwStatus) (calibrate : Bool) (cfg : WddrFreqCfg)
    (channel : Nat) (wddr : Wddr) :
    (wddr.senseAmpBytes hw calibrate cfg channel).1 = .wddrSuccess ↔
      ∀ byte ∈ List.range wddrPhyDqByteNum, calibrate = true →
        ∀ bit, bit < wddrPhyDqSliceNum → ∀ saIndex ∈ SensampIndex.ddr,
          (hw.sensamp channel byte bit saIndex).Accepted :=
  propagateErrors_fst_eq_success
    (fun byte state => senseAmpByte_success_iff hw calibrate
      ((cfg.channel channel).dq byte).rx.gearbox channel byte state) _ _

theorem senseAmpChannels_success_iff (hw : HwStatus) (bootCfg : WddrBootCfg)
    (cfg : WddrFreqCfg) (wddr : Wddr) :
    (wddr.senseAmpChannels hw (getBootOption bootCfg wddrBootOptionSaCal) cfg).1 =
      .wddrSuccess ↔ hw.SenseAmpsAccepted bootCfg := by
  have channels := propagateErrors_fst_eq_success
    (fun channel state => (congrArg (· = WddrReturn.wddrSuccess)
      (senseAmpChannel_fst hw (getBootOption bootCfg wddrBootOptionSaCal) cfg channel
        state)).to_iff.trans (senseAmpBytes_success_iff hw _ cfg channel state))
    (List.range wddrPhyChannelNum) wddr
  rw [senseAmpChannels, channels]
  simp only [List.mem_range]
  constructor
  · intro accepted calibrated channel inRange byte inChannel
    exact accepted channel inRange byte inChannel calibrated
  · intro accepted channel inRange byte inChannel calibrated
    exact accepted calibrated channel inRange byte inChannel

/-- Nothing that boot overrode is left: the chip select is released, the amplifiers of
every byte that changed are dynamic, and the gearboxes of bank 0 hold the table's values. -/
structure OverridesUndone (before after : Wddr) : Prop where
  chipSelectCa : ∀ channel, channel < wddrPhyChannelNum → CaReleased (after.phy.ca channel)
  chipSelectDq : ∀ channel, channel < wddrPhyChannelNum → ∀ byte, byte < wddrPhyDqByteNum →
    DqReleased (after.phy.dq channel byte)
  senseAmps : ∀ channel, channel < wddrPhyChannelNum → ∀ byte, byte < wddrPhyDqByteNum →
    after.phy.dq channel byte ⟨.ddrDqDqsRxSaCmnCfg, []⟩ ≠
      before.phy.dq channel byte ⟨.ddrDqDqsRxSaCmnCfg, []⟩ →
    SaDynamic (after.phy.dq channel byte)
  gearboxes : ∀ channel, channel < wddrPhyChannelNum → ∀ byte, byte < wddrPhyDqByteNum →
    RxGbHolds
      (((before.table.freq wddrPhyBootFreq.toNat).channel channel).dq byte).rx.gearbox
      (after.phy.dq channel byte)

theorem wddrSwFreqSwitch_keeps (freqId : UInt8) (msr : WddrMsr) (wddr : Wddr) :
    Ends (wddr.wddrSwFreqSwitch freqId msr) (fun _ => True) fun done =>
      done.2.table = wddr.table ∧ done.2.phy = wddr.phy := by
  unfold wddrSwFreqSwitch
  split
  · exact Ends.pure ⟨rfl, rfl⟩
  · refine Ends.bind_of_forall fun cfg => ?_
    refine Ends.bind_of_forall fun pll => ?_
    refine Ends.bind_of_forall fun nextVco => ?_
    refine Ends.bind_of_forall fun _ => ?_
    apply Ends.pure
    simp only [onFsw, and_self]

theorem alignVco_keeps (fuel : Nat) (wddr : Wddr) :
    Ends (wddr.alignVco fuel) (fun _ => True) fun after => after.phy = wddr.phy := by
  induction fuel generalizing wddr with
  | zero => trivial
  | succ fuel inductionHypothesis =>
      unfold alignVco
      refine Ends.bind_of_forall fun currentVcoId => ?_
      split
      · exact Ends.pure rfl
      · refine (wddrSwFreqSwitch_keeps wddrPhyBootFreq .msr0 wddr).bind ?_
        rintro ⟨_, switched⟩ ⟨-, samePhy⟩
        apply (inductionHypothesis switched).mono
        intro after same
        exact same.trans samePhy

theorem calibrateFreq_sameCfgs (hw : HwStatus) (wddr : Wddr) (freqId : UInt8) :
    Ends (wddr.calibrateFreq hw freqId) (fun _ => True) (SameCfgs wddr) := by
  unfold calibrateFreq
  refine (freqAt_reads wddr.table freqId).bind ?_
  rintro _ rfl
  apply Ends.pure
  intro other
  by_cases same : other = freqId.toNat
  · subst same
    simp only [Function.update_self]
  · simp only [Function.update_of_ne same]

theorem bootPllCal_sameCfgs (hw : HwStatus) (bootCfg : WddrBootCfg) (wddr : Wddr) :
    Ends (wddr.bootPllCal hw bootCfg) (fun _ => True) (SameCfgs wddr) := by
  unfold bootPllCal
  split
  · apply Ends.foldlM
    · exact fun _ => rfl
    · intro state freqId _ same
      exact (calibrateFreq_sameCfgs hw state freqId).mono fun after => same.trans
  · exact Ends.pure fun _ => rfl

theorem bootZqcalCal_sameCfgs (hw : HwStatus) (bootCfg : WddrBootCfg) (wddr : Wddr) :
    Ends (wddr.bootZqcalCal hw bootCfg) (fun _ => True) (SameCfgs wddr) := by
  unfold bootZqcalCal
  split
  · have calibrates : Ends (wddr.wddrIocalCalibrate hw) (fun _ => True) (SameCfgs wddr) := by
      unfold wddrIocalCalibrate
      refine Ends.bind_of_forall fun _ => ?_
      exact Ends.pure fun _ => rfl
    apply calibrates.bind
    intro calibrated same
    unfold wddrIocalUpdatePhy
    refine Ends.bind_of_forall fun freqId => ?_
    refine Ends.bind_of_forall fun cfg => ?_
    exact Ends.pure same
  · exact Ends.pure fun _ => rfl

theorem wddrConfigurePhy_table (freqId : UInt8) (msr : WddrMsr) (wddr : Wddr) :
    Ends (wddr.wddrConfigurePhy freqId msr) (fun _ => True) fun after =>
      after.table = wddr.table := by
  unfold wddrConfigurePhy
  exact Ends.bind_of_forall fun _ => Ends.pure rfl

theorem wddrBootSetup_sameCfgs (hw : HwStatus) (bootCfg : WddrBootCfg) (wddr : Wddr) :
    Ends (wddr.wddrBootSetup hw bootCfg) (fun _ => True) (SameCfgs wddr) := by
  unfold wddrBootSetup
  apply (bootPllCal_sameCfgs hw bootCfg wddr).bind
  intro calibrated same
  apply (wddrSwFreqSwitch_keeps wddrPhyBootFreq .msr0 _).bind
  rintro ⟨_, switched⟩ ⟨sameTable, -⟩
  have sameSwitched : SameCfgs wddr switched := by
    intro freqId
    rw [sameTable]
    exact same freqId
  apply Ends.bind_of_forall
  intro cfg
  apply (wddrConfigurePhy_table wddrPhyBootFreq .msr0 _).bind
  intro configured sameConfigured
  have flushed : (configured.wddrDfiBufferFlush.onPhy wddrClearFifoAllChannels).table =
      switched.table := sameConfigured
  apply (bootZqcalCal_sameCfgs hw bootCfg _).bind
  intro last sameLast
  have sameLast : SameCfgs switched last := by
    intro freqId
    rw [sameLast freqId, flushed]
  exact Ends.pure (sameSwitched.trans sameLast)

/-- The loop returns what boot returns, and boot trains and finishes only on success. -/
theorem wddrBootTrain_restores (hw : HwStatus) (bootCfg : WddrBootCfg) (wddr : Wddr) :
    Ends (wddr.wddrBootTrain hw bootCfg) (fun _ => True) fun done =>
      (done.1 = .wddrSuccess ∧ hw.SenseAmpsAccepted bootCfg ∧
        ∀ channel, channel < wddrPhyChannelNum → ChannelRestored
          ((wddr.table.freq wddrPhyBootFreq.toNat).channel channel) channel done.2.phy) ∨
      (done.1 ≠ .wddrSuccess ∧ ¬ hw.SenseAmpsAccepted bootCfg ∧
        ∃ channel, channel < wddrPhyChannelNum ∧ ¬ CaReleased (done.2.phy.ca channel)) := by
  unfold wddrBootTrain
  refine (freqAt_reads wddr.table wddrPhyBootFreq).bind ?_
  rintro cfg rfl
  have accepted := senseAmpChannels_success_iff hw bootCfg
    (wddr.table.freq wddrPhyBootFreq.toNat) wddr
  unfold senseAmpChannels at accepted
  split
  · rename_i looped returned
    rw [returned] at accepted
    have restored := channelsRestored_of_senseAmpChannels returned
    apply Ends.pure
    left
    unfold wddrTrain
    split
    · exact ⟨rfl, accepted.mp rfl, restored⟩
    · exact ⟨rfl, accepted.mp rfl, restored⟩
  · rename_i ret looped failed returned
    rw [returned] at accepted
    have notSuccess : ret ≠ .wddrSuccess := failed
    exact Ends.pure (.inr ⟨notSuccess, fun holds => notSuccess (accepted.mpr holds),
      exists_forced_of_senseAmpChannels notSuccess returned⟩)

/-- The end of boot clears the FIFOs and leaves the PHY otherwise alone. -/
theorem wddrBootFinish_phy (hw : HwStatus) (wddr : Wddr) :
    Ends (wddr.wddrBootFinish hw) (fun _ => True) fun after =>
      after.phy = wddrClearFifoAllChannels wddr.phy := by
  unfold wddrBootFinish
  refine (alignVco_keeps 4 _).bind fun aligned same => ?_
  have handedOver : aligned.fswSwitchToDfiMode.phy = aligned.phy := by
    unfold fswSwitchToDfiMode
    split
    · rfl
    · simp only [onFsw, onDfi, onIrq]
  exact Ends.pure (handedOver.trans same)

/-- What boot returns tells which of its two ends was reached. -/
theorem wddrBoot_restores (hw : HwStatus) (bootCfg : WddrBootCfg) (wddr : Wddr) :
    Ends (wddr.wddrBoot hw bootCfg) (fun _ => True) fun done =>
      (hw.SenseAmpsAccepted bootCfg ∧ ∀ channel, channel < wddrPhyChannelNum →
        ChannelRestored ((wddr.table.freq wddrPhyBootFreq.toNat).channel channel) channel
          done.2.phy) ∨
      (¬ hw.SenseAmpsAccepted bootCfg ∧
        ∃ channel, channel < wddrPhyChannelNum ∧ ¬ CaReleased (done.2.phy.ca channel)) := by
  unfold wddrBoot
  refine (wddrBootSetup_sameCfgs hw bootCfg wddr).bind fun started sameCfgs => ?_
  refine (wddrBootTrain_restores hw bootCfg started).bind ?_
  rintro ⟨ret, trained⟩ (⟨success, accepted, restored⟩ | ⟨failed, rejected, forced⟩)
  · cases success
    refine (wddrBootFinish_phy hw trained).bind fun last finished => ?_
    refine Ends.pure (.inl ⟨accepted, fun channel inRange => ?_⟩)
    rw [finished, ← sameCfgs]
    exact (restored channel inRange).clearFifo
  · cases ret
    case wddrSuccess => exact absurd rfl failed
    all_goals exact Ends.pure (.inr ⟨rejected, forced⟩)

/-- Whatever boot returns, its overrides are undone exactly when every comparator that it
calibrates is accepted. -/
theorem overridesUndone_iff {hw : HwStatus} {bootCfg : WddrBootCfg} {wddr after : Wddr}
    {ret : WddrReturn} (returned : wddr.wddrBoot hw bootCfg = .ok (ret, after)) :
    wddr.OverridesUndone after ↔ hw.SenseAmpsAccepted bootCfg := by
  rcases (wddrBoot_restores hw bootCfg wddr).good_of_ok returned with
    ⟨accepted, restored⟩ | ⟨rejected, channel, inRange, forced⟩
  · refine iff_of_true ⟨?_, ?_, ?_, ?_⟩ accepted
    · exact fun channel inRange => (restored channel inRange).ca
    · exact fun channel inRange => (restored channel inRange).dq
    · intro channel inRange byte inChannel _
      exact ((restored channel inRange).bytes byte inChannel).senseAmps
    · intro channel inRange byte inChannel
      exact ((restored channel inRange).bytes byte inChannel).gearboxes
  · refine iff_of_false ?_ rejected
    intro undone
    exact forced (undone.chipSelectCa channel inRange)

end Boot

section Reference

/-- Boot on the reference platform. -/
def referenceBoot (hw : HwStatus) (bootCfg : WddrBootCfg) (wddr : Wddr) :
    Except Fault (WddrReturn × Wddr) :=
  @wddrBoot referencePlatform.toKernelIo referencePlatform.toBuildConfig
    referencePlatform.toDevice hw bootCfg wddr

/-- The reference device after its initialisation. -/
def referenceInit : Wddr :=
  @wddrInit referencePlatform.toKernelIo referenceTable Sys.referenceReset

/-- All comparators read the same. -/
def comparing (comparator : SaComparator) : HwStatus :=
  { Sys.referenceHw with sensamp := fun _ _ _ _ => comparator }

/-- Comparators that flip in the middle are calibrated, and nothing is left. -/
theorem overridesUndone_middle :
    ∃ after, referenceBoot (comparing (flipsAt 16 0 .sa0)) 0x4 referenceInit =
        .ok (.wddrSuccess, after) ∧
      @OverridesUndone referencePlatform referenceInit after := by
  let := referencePlatform
  have returns : (referenceBoot (comparing (flipsAt 16 0 .sa0)) 0x4 referenceInit).toOption.map
      Prod.fst = some .wddrSuccess := by
    decide +kernel
  cases returned : referenceBoot (comparing (flipsAt 16 0 .sa0)) 0x4 referenceInit with
  | error fault =>
      rw [returned] at returns
      cases returns
  | ok done =>
      obtain ⟨ret, after⟩ := done
      rw [returned] at returns
      cases returns
      refine ⟨after, rfl, (overridesUndone_iff returned).mpr ?_⟩
      exact fun _ channel _ byte _ bit _ saIndex _ =>
        (stops_flipsAt (by decide) 0 .sa0).accepted

/-- Comparators that never flip leave the chip select forced. -/
theorem not_overridesUndone_stuck :
    ¬ ∀ hw bootCfg wddr ret after, referenceBoot hw bootCfg wddr = .ok (ret, after) →
      @OverridesUndone referencePlatform wddr after := by
  let := referencePlatform
  intro undone
  have forced : (referenceBoot (comparing fun _ _ => false) 0x4 referenceInit).toOption.map
      (fun done => getRegField (done.2.phy.ca 0 ⟨.ddrCaTopCfg, []⟩) ddrCaTopCfgWcsSwOvr) =
        some 1 := by
    decide +kernel
  cases returned : referenceBoot (comparing fun _ _ => false) 0x4 referenceInit with
  | error fault =>
      rw [returned] at forced
      cases forced
  | ok done =>
      obtain ⟨ret, after⟩ := done
      have released := (undone _ _ _ ret after returned).chipSelectCa 0 (by decide)
      rw [returned] at forced
      have on : (1 : Word) = 0 := (Option.some.inj forced).symm.trans released.1
      exact absurd on (by decide)

end Reference

end Wddr

end WavLpddr
