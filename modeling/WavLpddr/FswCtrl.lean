import WavLpddr.Registers

/-!
# Frequency-switch and clock control registers

The frequency-switch controller is told which bank and VCO to select, whether a
switch has been prepared, and whether the work after a switch is done.
-/

namespace WavLpddr

open RegisterFile

variable [KernelIo]

/-- Update fields of `DDR_FSW_CTRL_CFG` from one reading of it. -/
def modifyFswCtrlCfg (update : Word → Word) (fswReg : FswRegs) : FswRegs :=
  fswReg |> modifyReg ⟨.ddrFswCtrlCfg, []⟩ update

def fswCtrlSetMsrVcoOvrValRegIf (msr : WddrMsr) (vcoId : UInt8) : FswRegs → FswRegs :=
  modifyFswCtrlCfg fun regVal =>
    let regVal := updateRegField regVal ddrFswCtrlCfgMsrOvrVal (BitVec.ofNat 32 msr.index)
    updateRegField regVal ddrFswCtrlCfgVcoSelOvrVal (vcoId.toBitVec.setWidth 32)

def fswCtrlSetMsrVcoOvrRegIf (enable : Bool) : FswRegs → FswRegs :=
  modifyFswCtrlCfg fun regVal =>
    let regVal := updateRegField regVal ddrFswCtrlCfgVcoSelOvr (boolWord enable)
    updateRegField regVal ddrFswCtrlCfgMsrOvr (boolWord enable)

def fswCtrlSetMsrToggleEnRegIf (enable : Bool) : FswRegs → FswRegs :=
  modifyFswCtrlCfg fun regVal =>
    updateRegField regVal ddrFswCtrlCfgMsrToggleEn (boolWord enable)

def fswCtrlSetVcoToggleEnRegIf (enable : Bool) : FswRegs → FswRegs :=
  modifyFswCtrlCfg fun regVal =>
    updateRegField regVal ddrFswCtrlCfgVcoToggleEn (boolWord enable)

def fswCtrlSetPrepDoneRegIf (done : Bool) : FswRegs → FswRegs :=
  modifyFswCtrlCfg fun regVal => updateRegField regVal ddrFswCtrlCfgPrepDone (boolWord done)

def fswCtrlSetPostWorkDoneRegIf (override done : Bool) : FswRegs → FswRegs :=
  modifyFswCtrlCfg fun regVal =>
    let regVal := updateRegField regVal ddrFswCtrlCfgPstworkDone (boolWord done)
    updateRegField regVal ddrFswCtrlCfgPstworkDoneOvr (boolWord override)

/-- What the controller reads as prepared. -/
def prepDone (fswReg : FswRegs) : Prop :=
  getRegField (fswReg ⟨.ddrFswCtrlCfg, []⟩) ddrFswCtrlCfgPrepDone = 1

instance (fswReg : FswRegs) : Decidable (prepDone fswReg) :=
  inferInstanceAs (Decidable (_ = _))

def fswCspSetClkDisableOverValRegIf (enable : Bool) (fswReg : FswRegs) : FswRegs :=
  fswReg |> modifyReg ⟨.ddrFswCsp1Cfg, []⟩ (fun regVal =>
    updateRegField regVal ddrFswCsp1CfgClkDisableOvrVal (boolWord enable))

/-- The synchronisation pulse.  Every write continues from the value of the one
before it; the wait between the first two ends when the request completes. -/
def fswCspSyncRegIf (fswReg : FswRegs) : FswRegs :=
  let regVal := fswReg ⟨.ddrFswCsp1Cfg, []⟩
  let regVal := updateRegField regVal ddrFswCsp1CfgReqOvr 1
  let regVal := updateRegField regVal ddrFswCsp1CfgReqOvrVal 1
  let fswReg := write ⟨.ddrFswCsp1Cfg, []⟩ regVal fswReg
  let regVal := updateRegField regVal ddrFswCsp1CfgReqOvrVal 0
  let regVal := updateRegField regVal ddrFswCsp1CfgReqCompleteStaClr 1
  let fswReg := write ⟨.ddrFswCsp1Cfg, []⟩ regVal fswReg
  let regVal := updateRegField regVal ddrFswCsp1CfgReqOvr 0
  let regVal := updateRegField regVal ddrFswCsp1CfgReqCompleteStaClr 0
  write ⟨.ddrFswCsp1Cfg, []⟩ regVal fswReg

section Ctrl

def ctrlClkSetPllClkEnRegIf (enable : Bool) (ctrlReg : CtrlRegs) : CtrlRegs :=
  ctrlReg |> modifyReg ⟨.ddrCtrlClkCfg, []⟩ (fun regVal =>
    updateRegField regVal ddrCtrlClkCfgPllClkEn (boolWord enable))

/-- `clk_mcu_gfm_sel_t` -/
inductive ClkMcuGfmSel
  | refclk | pllVco0

def ClkMcuGfmSel.value : ClkMcuGfmSel → Word
  | refclk => 0
  | pllVco0 => 1

def ctrlClkSetMcuGfmSelRegIf (sel : ClkMcuGfmSel) (ctrlReg : CtrlRegs) : CtrlRegs :=
  ctrlReg |> modifyReg ⟨.ddrCtrlClkCfg, []⟩ (fun regVal =>
    updateRegField regVal ddrCtrlClkCfgMcuGfmSel sel.value)

end Ctrl

section PrepDone

variable (fswReg : FswRegs)

omit [KernelIo] in
@[simp]
theorem modifyFswCtrlCfg_self (update : Word → Word) :
    modifyFswCtrlCfg update fswReg ⟨.ddrFswCtrlCfg, []⟩ =
      update (fswReg ⟨.ddrFswCtrlCfg, []⟩) := by
  simp [modifyFswCtrlCfg, modifyReg]

theorem prepDone_setPrepDone (done : Bool) :
    prepDone (fswCtrlSetPrepDoneRegIf done fswReg) ↔ done = true := by
  unfold prepDone fswCtrlSetPrepDoneRegIf
  rw [modifyFswCtrlCfg_self, getRegField_updateRegField _ _ _ (by cases done <;> decide)]
  cases done <;> decide

@[simp]
theorem prepDone_setPostWorkDone (override done : Bool) :
    prepDone (fswCtrlSetPostWorkDoneRegIf override done fswReg) ↔ prepDone fswReg := by
  unfold prepDone fswCtrlSetPostWorkDoneRegIf
  rw [modifyFswCtrlCfg_self, getRegField_updateRegField_of_disjoint _ _ _ _ (by decide),
    getRegField_updateRegField_of_disjoint _ _ _ _ (by decide)]

@[simp]
theorem prepDone_setMsrToggleEn (enable : Bool) :
    prepDone (fswCtrlSetMsrToggleEnRegIf enable fswReg) ↔ prepDone fswReg := by
  unfold prepDone fswCtrlSetMsrToggleEnRegIf
  rw [modifyFswCtrlCfg_self, getRegField_updateRegField_of_disjoint _ _ _ _ (by decide)]

@[simp]
theorem prepDone_setVcoToggleEn (enable : Bool) :
    prepDone (fswCtrlSetVcoToggleEnRegIf enable fswReg) ↔ prepDone fswReg := by
  unfold prepDone fswCtrlSetVcoToggleEnRegIf
  rw [modifyFswCtrlCfg_self, getRegField_updateRegField_of_disjoint _ _ _ _ (by decide)]

end PrepDone

end WavLpddr
