import WavLpddr.CaDelays

/-!
# Boot and switch of the delay elements

Boot enables the delay elements of a channel with `channel_enable`, and a frequency switch
programs them again.  The two agree on every phase interpolator but one, and on the delay
lines whose gear has its top bit set.
-/

namespace WavLpddr

open RegisterFile

/-- The delay elements of a channel. -/
inductive ChannelDelay
  | dq (byte : Nat) (element : DqDelay)
  | ca (element : CaDelay)

namespace ChannelDelay

def Present : ChannelDelay → Prop
  | .dq byte element => byte < wddrPhyDqByteNum ∧ element.Present
  | .ca element => element.Present

/-- The word of the element's register. -/
def word (phy : PhyRegs) (channel : Nat) (msr : WddrMsr) (rank : Nat) : ChannelDelay → Word
  | .dq byte element => phy.dq channel byte (element.reg msr rank)
  | .ca element => phy.ca channel (element.reg msr rank)

def fields (cfg : ChannelFreqCfg) (rank : Nat) : ChannelDelay → FieldValues
  | .dq byte element => element.fields (cfg.dq byte) rank
  | .ca element => element.fields cfg.ca rank

/-- The entries that both paths program alike. -/
def Alike (cfg : ChannelFreqCfg) (rank : Nat) : ChannelDelay → Prop
  | .dq byte element => (element.entry (cfg.dq byte) rank).Alike
  | .ca .ckDdr => (cfg.ca.tx.ca rank).pi.ddr = (cfg.ca.tx.ck rank).pi.ddr
  | .ca element => (element.entry cfg.ca rank).Alike

end ChannelDelay

section Turns

variable {Name : Type} {msr other : WddrMsr} {rank : Nat} {reg : ArrayReg Name}

theorem DqDelay.reg_mem (element : DqDelay) : element.reg msr rank ∈ rankRegs msr rank := by
  cases element <;> rfl

theorem CaDelay.reg_mem (element : CaDelay) : element.reg msr rank ∈ rankRegs msr rank := by
  cases element <;> rfl

theorem notMem_rankRegs {otherRank : Nat} (inside : reg ∈ rankRegs msr rank)
    (different : other ≠ msr ∨ otherRank ≠ rank) : reg ∉ rankRegs other otherRank := by
  intro alsoInside
  have same : [msr.index, rank] = [other.index, otherRank] := inside.symm.trans alsoInside
  obtain ⟨sameMsr, rfl⟩ : msr.index = other.index ∧ rank = otherRank := by simpa using same
  cases msr <;> cases other <;> simp_all [WddrMsr.index]

/-- After a turn for every bank and rank, a register holds what its own turn wrote. -/
theorem turns_reg {turn : WddrMsr → Nat → Registers (ArrayReg Name) 32 →
      Registers (ArrayReg Name) 32}
    (confined : ∀ msr rank, Confined (rankRegs msr rank) (turn msr rank))
    (inRank : rank < wddrPhyRank) (inside : reg ∈ rankRegs msr rank) {value : Word}
    (own : ∀ regs, turn msr rank regs reg = value) (regs : Registers (ArrayReg Name) 32) :
    forRange wddrPhyRank (fun rank => forMsr fun msr => turn msr rank) regs reg = value := by
  refine forRange_at (fun regs : Registers (ArrayReg Name) 32 => regs reg) inRank ?_ ?_ regs
  · intro state
    cases msr with
    | msr0 =>
        have later := (confined .msr1 rank).outside (turn .msr0 rank state) reg
          (notMem_rankRegs inside (.inl (by decide)))
        exact later.trans (own state)
    | msr1 => exact own _
  · intro otherRank state different
    have untouched : ∀ other regs, turn other otherRank regs reg = regs reg := fun other regs =>
      (confined other otherRank).outside regs reg (notMem_rankRegs inside (.inr different))
    exact (untouched .msr1 _).trans (untouched .msr0 state)

end Turns

section Boot

variable [KernelIo] (channel : Nat) (enable : Bool) (cfg : ChannelFreqCfg) (phy : PhyRegs)

/-- A DQ byte sees the turns of its own. -/
theorem channelEnable_dq {byte : Nat} (inByte : byte < wddrPhyDqByteNum) :
    (channelEnable channel enable cfg phy).dq channel byte =
      forRange wddrPhyRank
        (fun rank => forMsr fun msr => dqByteEnable msr rank enable (cfg.dq byte))
        (phy.dq channel byte) := by
  refine forRange_map (fun phy : PhyRegs => phy.dq channel byte) ?_ phy
  intro rank state
  simp only [forMsr, Function.update_self, forRange_update, inByte, if_true]

theorem channelEnable_ca :
    (channelEnable channel enable cfg phy).ca channel =
      forRange wddrPhyRank
        (fun rank => forMsr fun msr => caBlockEnable msr rank enable cfg.ca)
        (phy.ca channel) := by
  refine forRange_map (fun phy : PhyRegs => phy.ca channel) ?_ phy
  intro rank state
  simp only [forMsr, Function.update_self]

end Boot

section Agreement

variable [KernelIo] {channel rank : Nat} (inChannel : channel < wddrPhyChannelNum)
  (inRank : rank < wddrPhyRank) (msr : WddrMsr) (common : WddrCommonCfg) (cfg : WddrFreqCfg)
  (boot switch : PhyRegs)

include inChannel inRank

theorem dqDelay_holdAlike_iff {byte : Nat} (inByte : byte < wddrPhyDqByteNum)
    {element : DqDelay} (present : element.Present) :
    HoldAlike (element.fields ((cfg.channel channel).dq byte) rank)
        ((channelEnable channel true (cfg.channel channel) boot).dq channel byte
          (element.reg msr rank))
        ((configurePhyRegs msr common cfg switch).dq channel byte (element.reg msr rank)) ↔
      (element.entry ((cfg.channel channel).dq byte) rank).Alike := by
  have bootReg := turns_reg
    (fun msr rank => dqByteEnable_confined msr rank true ((cfg.channel channel).dq byte))
    inRank element.reg_mem (dqByteEnable_reg msr rank _ present) (boot.dq channel byte)
  have switchReg := dqBlockFreqSwitchPrep_reg msr inRank common.zqcal
    ((cfg.channel channel).dq byte) (common.dqRx channel byte) present
    (switch.dq channel byte)
  rw [channelEnable_dq channel true _ boot inByte, bootReg, configurePhyRegs_dq,
    if_pos ⟨inChannel, inByte⟩, switchReg, DqDelay.fields_eq]
  exact DelayEntry.holdAlike_iff _

theorem caDelay_holdAlike_iff {element : CaDelay} (present : element.Present) :
    HoldAlike (element.fields (cfg.channel channel).ca rank)
        ((channelEnable channel true (cfg.channel channel) boot).ca channel
          (element.reg msr rank))
        ((configurePhyRegs msr common cfg switch).ca channel (element.reg msr rank)) ↔
      (ChannelDelay.ca element).Alike (cfg.channel channel) rank := by
  have bootReg := turns_reg
    (fun msr rank => caBlockEnable_confined msr rank true (cfg.channel channel).ca)
    inRank element.reg_mem (caBlockEnable_reg msr rank _ present) (boot.ca channel)
  have switchReg := caBlockFreqSwitchPrep_reg msr inRank common.zqcal
    (cfg.channel channel).ca present (switch.ca channel)
  rw [channelEnable_ca, bootReg, configurePhyRegs_ca, if_pos inChannel, switchReg,
    CaDelay.fields_eq]
  cases element
  case ckDdr => exact holdAlike_pi_iff _ _
  all_goals exact DelayEntry.holdAlike_iff _

/-- Boot and switch program a delay element alike, from its own entry and enabled, exactly
when its entry is one of those that both paths program alike. -/
theorem bootSwitchDelay_iff {element : ChannelDelay} (present : element.Present) :
    HoldAlike (element.fields (cfg.channel channel) rank)
        (element.word (channelEnable channel true (cfg.channel channel) boot) channel msr rank)
        (element.word (configurePhyRegs msr common cfg switch) channel msr rank) ↔
      element.Alike (cfg.channel channel) rank := by
  cases element with
  | dq byte element =>
      exact dqDelay_holdAlike_iff inChannel inRank msr common cfg boot switch present.1
        present.2
  | ca element =>
      exact caDelay_holdAlike_iff inChannel inRank msr common cfg boot switch present

end Agreement

/-- A table for the delay line of CK's receiver with a gear that reaches the enable bit. -/
def gearedCfg : WddrFreqCfg :=
  { (default : WddrFreqCfg) with
    channel := fun _ =>
      { (default : ChannelFreqCfg) with
        ca :=
          { (default : CaPathFreqCfg) with
            rx := { (default : CaRxPathFreqCfg) with sdrLpde := fun _ => ⟨15, 4⟩ } } } }

/-- The delay line is programmed alike, from its own entry and enabled. -/
theorem bootSwitchDelay_geared :
    let := referencePlatform.toKernelIo
    let phy : PhyRegs := ⟨fun _ _ _ => 0, fun _ _ => 0, fun _ => 0⟩
    HoldAlike ((ChannelDelay.ca .rxSdrLpde).fields (gearedCfg.channel 1) 0)
      ((ChannelDelay.ca .rxSdrLpde).word (channelEnable 1 true (gearedCfg.channel 1) phy)
        1 .msr1 0)
      ((ChannelDelay.ca .rxSdrLpde).word (configurePhyRegs .msr1 default gearedCfg phy)
        1 .msr1 0) := by
  let := referencePlatform.toKernelIo
  let phy : PhyRegs := ⟨fun _ _ _ => 0, fun _ _ => 0, fun _ => 0⟩
  have present : (ChannelDelay.ca .rxSdrLpde).Present := trivial
  have alike : (ChannelDelay.ca .rxSdrLpde).Alike (gearedCfg.channel 1) 0 := by
    change (4 : BitVec 3).getLsbD 2 = true
    decide
  exact (bootSwitchDelay_iff (by decide) (by decide) .msr1 default gearedCfg phy phy
    present).mpr alike

/-- The entry of CA's interpolator differs from that of CK, and no gear reaches the enable
bit. -/
def slippedCfg : WddrFreqCfg :=
  { (default : WddrFreqCfg) with
    channel := fun _ =>
      { (default : ChannelFreqCfg) with
        ca :=
          { (default : CaPathFreqCfg) with
            tx :=
              { (default : CaTxPathFreqCfg) with
                ca := fun _ =>
                  { (default : CaTxRankCfg) with
                    pi := { (default : TxPiCfg) with ddr := ⟨1, 0, 0⟩ } } } } } }

/-- Boot leaves the delay line disabled, and a switch takes CK's interpolator from CA. -/
theorem not_bootSwitchDelay_slipped :
    let := referencePlatform.toKernelIo
    let phy : PhyRegs := ⟨fun _ _ _ => 0, fun _ _ => 0, fun _ => 0⟩
    let boot := channelEnable 0 true (slippedCfg.channel 0) phy
    let switch := configurePhyRegs .msr0 default slippedCfg phy
    (¬ HoldAlike ((ChannelDelay.ca .rxSdrLpde).fields (slippedCfg.channel 0) 0)
      ((ChannelDelay.ca .rxSdrLpde).word boot 0 .msr0 0)
      ((ChannelDelay.ca .rxSdrLpde).word switch 0 .msr0 0)) ∧
    ¬ HoldAlike ((ChannelDelay.ca .ckDdr).fields (slippedCfg.channel 0) 0)
      ((ChannelDelay.ca .ckDdr).word boot 0 .msr0 0)
      ((ChannelDelay.ca .ckDdr).word switch 0 .msr0 0) := by
  unfold HoldAlike
  decide +kernel

end WavLpddr
