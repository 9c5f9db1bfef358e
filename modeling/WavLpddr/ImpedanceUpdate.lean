import WavLpddr.Lib.Footprint
import WavLpddr.Wddr

/-!
# Updating the impedance codes

The impedance codes reach one register of a block for each rank, beside a mode bit.  The
update writes the codes of these registers alone.  On a block that was prepared with old codes
it leaves what preparing the block with the new ones leaves.
-/

namespace WavLpddr

open RegisterFile BitFields Function

section Codes

variable {Name : Type}

/-- A register that holds the impedance codes of one rank, and its fields. -/
structure CodeReg (Name : Type) where
  name : Name
  ncal : RegField
  pcal : RegField
  seMode : RegField
  apart : (ncal.mask ||| pcal.mask) &&& seMode.mask = 0

def caCodeReg : CodeReg CaRegName where
  name := .ddrCaDqsTxIoCmnCfg
  ncal := ddrCaDqsTxIoCmnM0R0CfgNcal
  pcal := ddrCaDqsTxIoCmnM0R0CfgPcal
  seMode := ddrCaDqsTxIoCmnM1R0CfgSeMode
  apart := by decide

def dqCodeReg : CodeReg DqRegName where
  name := .ddrDqDqsTxIoCmnCfg
  ncal := ddrDqDqsTxIoCmnM0R0CfgNcal
  pcal := ddrDqDqsTxIoCmnM0R0CfgPcal
  seMode := ddrDqDqsTxIoCmnM1R0CfgSeMode
  apart := by decide

namespace CodeReg

/-- The register of a rank. -/
def key (reg : CodeReg Name) (msr : WddrMsr) (rank : Nat) : ArrayReg Name :=
  ⟨reg.name, [msr.index, rank]⟩

/-- The registers of all ranks. -/
def ranks (reg : CodeReg Name) (msr : WddrMsr) : Set (ArrayReg Name) :=
  {other | ∃ rank < wddrPhyRank, other = reg.key msr rank}

theorem bankOf_subset_compl {reg : CodeReg Name} {msr : WddrMsr} {names : List Name}
    (unlisted : reg.name ∉ names) : bankOf names msr ⊆ (reg.ranks msr)ᶜ := by
  rintro _ inBank ⟨rank, -, rfl⟩
  exact unlisted inBank.1

theorem key_ne {reg : CodeReg Name} {msr : WddrMsr} {first second : Nat}
    (different : first ≠ second) : reg.key msr first ≠ reg.key msr second := by
  intro same
  apply different
  simpa [key] using same

variable [KernelIo]

/-- The word that a preparation computes for the register of a driver. -/
def word (reg : CodeReg Name) (zqcal : ZqcalCfg) (driver : DriverCmnCfg) : Word :=
  let code := zqcal driver.code
  let regVal := updateRegField 0 reg.ncal ((code .nCal).setWidth 32)
  let regVal := updateRegField regVal reg.pcal ((code .pCal).setWidth 32)
  updateRegField regVal reg.seMode driver.mode.value

/-- The codes are replaced under the mode bit. -/
theorem updateRegField_word (reg : CodeReg Name) (old new : ZqcalCfg) (driver : DriverCmnCfg) :
    updateRegField
        (updateRegField (reg.word old driver) reg.ncal ((new driver.code .nCal).setWidth 32))
        reg.pcal ((new driver.code .pCal).setWidth 32) =
      reg.word new driver := by
  simp only [word, updateRegField_eq]
  ext position inside
  have separate := Field.getElem_of_disjoint reg.apart position inside
  simp only [Field.getElem_insert]
  cases inMode : reg.seMode.mask[position] with
  | true =>
      have outside : reg.ncal.mask[position] = false ∧ reg.pcal.mask[position] = false := by
        simpa [inMode] using separate
      simp [outside.1, outside.2]
  | false =>
      cases inPcal : reg.pcal.mask[position] with
      | true => simp
      | false =>
          cases inNcal : reg.ncal.mask[position] with
          | true => simp
          | false => simp

variable [DecidableEq Name]

/-- Write the codes of all ranks. -/
def update (reg : CodeReg Name) (msr : WddrMsr) (driver : Nat → DriverCmnCfg)
    (zqcal : ZqcalCfg) (regs : Registers (ArrayReg Name) 32) :
    Registers (ArrayReg Name) 32 :=
  forRange wddrPhyRank (fun rank =>
    driverSetCodeRegIf reg.name reg.ncal reg.pcal msr rank (zqcal (driver rank).code)) regs

/-- A preparation that puts the codes into the registers of the ranks and uses them nowhere
else. -/
structure PutBy (reg : CodeReg Name) (msr : WddrMsr) (driver : Nat → DriverCmnCfg)
    (prep : ZqcalCfg → Registers (ArrayReg Name) 32 → Registers (ArrayReg Name) 32) : Prop where
  codes : ∀ zqcal regs, ∀ rank < wddrPhyRank,
    prep zqcal regs (reg.key msr rank) = reg.word zqcal (driver rank)
  others : ∀ first second regs,
    Set.EqOn (prep first regs) (prep second regs) (reg.ranks msr)ᶜ

variable {reg : CodeReg Name} {msr : WddrMsr} {driver : Nat → DriverCmnCfg}
  {prep : ZqcalCfg → Registers (ArrayReg Name) 32 → Registers (ArrayReg Name) 32}
  {names : List Name}

/-- The loop over the ranks whose body ends with the write of the codes. -/
theorem PutBy.forRange
    {rest : Nat → Registers (ArrayReg Name) 32 → Registers (ArrayReg Name) 32}
    (confined : ∀ rank, Confined (bankOf names msr) (rest rank)) (unlisted : reg.name ∉ names) :
    reg.PutBy msr driver fun zqcal regs => RegisterFile.forRange wddrPhyRank (fun rank regs =>
      write (reg.key msr rank) (reg.word zqcal (driver rank)) (rest rank regs)) regs where
  codes zqcal regs rank inRange := by
    refine forRange_at (fun regs => regs (reg.key msr rank)) inRange ?_ ?_ regs
    · exact fun state => write_self _ _ _
    · intro other state different
      rw [write_of_ne (key_ne different.symm)]
      apply (confined other).outside
      exact fun inBank => bankOf_subset_compl unlisted inBank ⟨rank, inRange, rfl⟩
  others first second regs := by
    have upTo : ∀ count ≤ wddrPhyRank, Set.EqOn
        (RegisterFile.forRange count (fun rank regs =>
          write (reg.key msr rank) (reg.word first (driver rank)) (rest rank regs)) regs)
        (RegisterFile.forRange count (fun rank regs =>
          write (reg.key msr rank) (reg.word second (driver rank)) (rest rank regs)) regs)
        (reg.ranks msr)ᶜ := by
      intro count bound
      induction count with
      | zero => exact Set.eqOn_refl _ _
      | succ count inductionHypothesis =>
          have rests := ((confined count).mono (bankOf_subset_compl unlisted)).within _ _
            (inductionHypothesis (Nat.le_of_succ_le bound))
          intro other outside
          have different : other ≠ reg.key msr count := fun same =>
            outside ⟨count, Nat.lt_of_succ_le bound, same⟩
          rw [forRange_succ, forRange_succ, write_of_ne different, write_of_ne different]
          exact rests outside
    exact upTo wddrPhyRank le_rfl

omit [DecidableEq Name] in
/-- What comes after the codes leaves their registers alone. -/
theorem PutBy.thenConfined {after : Registers (ArrayReg Name) 32 → Registers (ArrayReg Name) 32}
    (puts : reg.PutBy msr driver prep) (confined : Confined (bankOf names msr) after)
    (unlisted : reg.name ∉ names) :
    reg.PutBy msr driver fun zqcal regs => after (prep zqcal regs) where
  codes zqcal regs rank inRange := by
    have outside : reg.key msr rank ∉ bankOf names msr := fun inBank =>
      bankOf_subset_compl unlisted inBank ⟨rank, inRange, rfl⟩
    rw [confined.outside _ _ outside]
    exact puts.codes zqcal regs rank inRange
  others first second regs :=
    (confined.mono (bankOf_subset_compl unlisted)).within _ _ (puts.others first second regs)

theorem update_key (zqcal : ZqcalCfg) (regs : Registers (ArrayReg Name) 32) {rank : Nat}
    (inRange : rank < wddrPhyRank) :
    reg.update msr driver zqcal regs (reg.key msr rank) =
      updateRegField
        (updateRegField (regs (reg.key msr rank)) reg.ncal
          ((zqcal (driver rank).code .nCal).setWidth 32))
        reg.pcal ((zqcal (driver rank).code .pCal).setWidth 32) := by
  have two : wddrPhyRank = 2 := rfl
  have differ : reg.key msr 0 ≠ reg.key msr 1 := key_ne Nat.zero_ne_one
  obtain rfl | rfl : rank = 0 ∨ rank = 1 := by omega
  · simp [update, two, forRange_succ, driverSetCodeRegIf, modifyReg_apply, key]
  · simp [update, two, forRange_succ, driverSetCodeRegIf, modifyReg_apply, key]

theorem update_of_not_mem (zqcal : ZqcalCfg) (regs : Registers (ArrayReg Name) 32)
    {other : ArrayReg Name} (outside : other ∉ reg.ranks msr) :
    reg.update msr driver zqcal regs other = regs other := by
  refine forRange_induction (motive := fun state : Registers (ArrayReg Name) 32 =>
    state other = regs other) rfl ?_
  intro rank state inRange same
  have different : other ≠ ⟨reg.name, [msr.index, rank]⟩ := fun isRank =>
    outside ⟨rank, inRange, isRank⟩
  rw [driverSetCodeRegIf, modifyReg_apply, if_neg different]
  exact same

/-- On a block that was prepared with old codes the update is a preparation with the new
ones. -/
theorem PutBy.update_eq (puts : reg.PutBy msr driver prep) {old new : ZqcalCfg}
    {regs : Registers (ArrayReg Name) 32} (fixed : IsFixedPt (prep old) regs) :
    reg.update msr driver new regs = prep new regs := by
  funext other
  by_cases inRanks : other ∈ reg.ranks msr
  · obtain ⟨rank, inRange, rfl⟩ := inRanks
    have held : regs (reg.key msr rank) = reg.word old (driver rank) := by
      rw [← puts.codes old regs rank inRange, fixed]
    rw [update_key new regs inRange, held, updateRegField_word,
      puts.codes new regs rank inRange]
  · rw [update_of_not_mem new regs inRanks]
    calc
      regs other = prep old regs other := (congrFun fixed other).symm
      _ = prep new regs other := puts.others old new regs inRanks

end CodeReg

end Codes

section Blocks

variable [KernelIo] (msr : WddrMsr)

theorem txPathDqRank_putBy (cfg : DqTxPathFreqCfg) :
    dqCodeReg.PutBy msr (fun rank => (cfg.dqs rank).driver)
      fun zqcal dqReg => txPathDqRankPrep msr zqcal cfg dqReg := by
  have unlisted : dqCodeReg.name ∉ txDqRankNames.erase .ddrDqDqsTxIoCmnCfg := by decide
  refine .forRange (fun rank => ?_) unlisted
  repeat refine .thenWrite ?_ (mem_bankOf (by decide)) _
  exact .id

/-- The codes of a DQ byte. -/
theorem dqBlock_putBy (cfg : DqPathFreqCfg) (commonCfg : DqRxPathCommonCfg) :
    dqCodeReg.PutBy msr (fun rank => (cfg.tx.dqs rank).driver)
      fun zqcal dqReg => dqBlockFreqSwitchPrep msr zqcal cfg commonCfg dqReg := by
  have ranks := txPathDqRank_putBy msr cfg.tx
  have dqSlices := ranks.thenConfined ((txDqSlices_rewrites msr).confined cfg.tx) (by decide)
  have dqsSlices := dqSlices.thenConfined ((txDqsSlices_rewrites msr).confined cfg.tx)
    (by decide)
  have gearbox : Confined (bankOf [.ddrDqDqsTxCfg] msr) (txDqsGearboxPrep msr cfg.tx) :=
    .write (mem_bankOf (by decide)) _
  have receive := (Rewrites.of_overwrites (rxPathDq_overwrites msr)).confined
    (cfg.rx, commonCfg)
  exact (dqsSlices.thenConfined gearbox (by decide)).thenConfined receive (by decide)

theorem txPathCaRank_putBy (cfg : CaTxPathFreqCfg) :
    caCodeReg.PutBy msr (fun rank => (cfg.ck rank).driver)
      fun zqcal caReg => txPathCaRankPrep msr zqcal cfg caReg := by
  have unlisted : caCodeReg.name ∉ txCaRankNames.erase .ddrCaDqsTxIoCmnCfg := by decide
  refine .forRange (fun rank => ?_) unlisted
  repeat refine .thenWrite ?_ (mem_bankOf (by decide)) _
  exact .id

/-- The codes of the CA block. -/
theorem caBlock_putBy (cfg : CaPathFreqCfg) :
    caCodeReg.PutBy msr (fun rank => (cfg.tx.ck rank).driver)
      fun zqcal caReg => caBlockFreqSwitchPrep msr zqcal cfg caReg := by
  have ranks := txPathCaRank_putBy msr cfg.tx
  have caSlices := ranks.thenConfined ((txCaSlices_rewrites msr).confined cfg.tx) (by decide)
  have ckSlices := caSlices.thenConfined ((txCkSlices_rewrites msr).confined cfg.tx)
    (by decide)
  have gearbox : Confined (bankOf [.ddrCaDqsTxCfg] msr) (txCkGearboxPrep msr cfg.tx) :=
    .write (mem_bankOf (by decide)) _
  have receive := (Rewrites.of_overwrites (rxPathCa_overwrites msr)).confined cfg.rx
  exact (ckSlices.thenConfined gearbox (by decide)).thenConfined receive (by decide)

/-- `wddr_iocal_update_phy` on the DDR blocks. -/
def iocalUpdateRegs (zqcal : ZqcalCfg) (cfg : WddrFreqCfg) (phy : PhyRegs) : PhyRegs :=
  forRange wddrPhyChannelNum (fun channel => forRange wddrPhyRank fun rank =>
    Wddr.iocalUpdateRank msr zqcal (cfg.channel channel) channel rank) phy

theorem iocalUpdateRegs_cmn (zqcal : ZqcalCfg) (cfg : WddrFreqCfg) (phy : PhyRegs) :
    (iocalUpdateRegs msr zqcal cfg phy).cmn = phy.cmn := by
  have perChannel : ∀ channel (state : PhyRegs),
      (forRange wddrPhyRank (fun rank =>
        Wddr.iocalUpdateRank msr zqcal (cfg.channel channel) channel rank) state).cmn =
      state.cmn := by
    intro channel state
    apply forRange_observe PhyRegs.cmn
    exact fun _ _ => rfl
  apply forRange_observe PhyRegs.cmn
  exact perChannel

theorem iocalUpdateRegs_ca (zqcal : ZqcalCfg) (cfg : WddrFreqCfg) (phy : PhyRegs)
    (channel : Nat) :
    (iocalUpdateRegs msr zqcal cfg phy).ca channel =
      if channel < wddrPhyChannelNum then
        caCodeReg.update msr (fun rank => ((cfg.channel channel).ca.tx.ck rank).driver) zqcal
          (phy.ca channel)
      else phy.ca channel := by
  have perChannel : ∀ channel (state : PhyRegs),
      (forRange wddrPhyRank (fun rank =>
        Wddr.iocalUpdateRank msr zqcal (cfg.channel channel) channel rank) state).ca =
      Function.update state.ca channel
        (caCodeReg.update msr (fun rank => ((cfg.channel channel).ca.tx.ck rank).driver) zqcal
          (state.ca channel)) := by
    intro channel state
    exact (forRange_map PhyRegs.ca (fun _ _ => rfl) state).trans
      (forRange_update_entry _ _ _ _)
  have channels : (iocalUpdateRegs msr zqcal cfg phy).ca =
      forRange wddrPhyChannelNum (fun channel ca => Function.update ca channel
        (caCodeReg.update msr (fun rank => ((cfg.channel channel).ca.tx.ck rank).driver) zqcal
          (ca channel))) phy.ca := by
    apply forRange_map PhyRegs.ca
    exact perChannel
  exact (congrFun channels channel).trans (forRange_update
    (fun channel => caCodeReg.update msr
      (fun rank => ((cfg.channel channel).ca.tx.ck rank).driver) zqcal) _ _ _)

theorem iocalUpdateRegs_dq (zqcal : ZqcalCfg) (cfg : WddrFreqCfg) (phy : PhyRegs)
    (channel byte : Nat) :
    (iocalUpdateRegs msr zqcal cfg phy).dq channel byte =
      if channel < wddrPhyChannelNum ∧ byte < wddrPhyDqByteNum then
        dqCodeReg.update msr
          (fun rank => (((cfg.channel channel).dq byte).tx.dqs rank).driver) zqcal
          (phy.dq channel byte)
      else phy.dq channel byte := by
  let setRank (channel rank byte : Nat) : DqRegs → DqRegs :=
    dqDqsDriverSetCodeRegIf msr rank
      (zqcal (((cfg.channel channel).dq byte).tx.dqs rank).driver.code)
  let setBytes (channel rank : Nat) (bytes : Nat → DqRegs) : Nat → DqRegs :=
    forRange wddrPhyDqByteNum (fun byte bytes =>
      Function.update bytes byte (setRank channel rank byte (bytes byte))) bytes
  have perChannel : ∀ channel (state : PhyRegs),
      (forRange wddrPhyRank (fun rank =>
        Wddr.iocalUpdateRank msr zqcal (cfg.channel channel) channel rank) state).dq =
      Function.update state.dq channel
        (forRange wddrPhyRank (setBytes channel) (state.dq channel)) := by
    intro channel state
    exact (forRange_map PhyRegs.dq (fun _ _ => rfl) state).trans
      (forRange_update_entry _ _ _ _)
  have channels : (iocalUpdateRegs msr zqcal cfg phy).dq =
      forRange wddrPhyChannelNum (fun channel dq => Function.update dq channel
        (forRange wddrPhyRank (setBytes channel) (dq channel))) phy.dq := by
    apply forRange_map PhyRegs.dq
    exact perChannel
  have entry := (congrFun channels channel).trans (forRange_update
    (fun channel => forRange wddrPhyRank (setBytes channel)) _ _ _)
  have perByte : ∀ bytes : Nat → DqRegs,
      forRange wddrPhyRank (setBytes channel) bytes byte =
        forRange wddrPhyRank (fun rank dqReg =>
          if byte < wddrPhyDqByteNum then setRank channel rank byte dqReg else dqReg)
          (bytes byte) := by
    intro bytes
    apply forRange_map (fun bytes : Nat → DqRegs => bytes byte)
    exact fun rank bytes => forRange_update (setRank channel rank) _ _ _
  refine (congrFun entry byte).trans ?_
  by_cases inChannels : channel < wddrPhyChannelNum
  · rw [if_pos inChannels, perByte]
    by_cases inBytes : byte < wddrPhyDqByteNum
    · simp only [if_pos inBytes, if_pos (And.intro inChannels inBytes)]
      rfl
    · simp only [inBytes, and_false, if_false]
      exact forRange_observe (fun dqReg : DqRegs => dqReg) (fun _ _ => rfl) _
  · rw [if_neg inChannels, if_neg fun both => inChannels both.1]

end Blocks

end WavLpddr
