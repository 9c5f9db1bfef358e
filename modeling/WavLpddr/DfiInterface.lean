import WavLpddr.Registers

/-!
# The DFI interface registers

Software drives the update and master requests, the update acknowledge and
`init_complete` by overriding the hardware's signals.  A request line is
asserted when its override and its value are both set.  The waits for a status
signal are taken to return.
-/

namespace WavLpddr

open RegisterFile

variable [KernelIo]

/-- Update fields of one register and write it. -/
def modifyDfi (name : DfiRegName) (update : Word → Word) (dfiReg : DfiRegs) : DfiRegs :=
  dfiReg |> modifyReg ⟨name, []⟩ update

def dfiSetInitCompleteOvrRegIf (override val : Bool) (dfiReg : DfiRegs) : DfiRegs :=
  dfiReg
  |> modifyDfi .ddrDfiStatusIfCfg (fun regVal =>
      updateRegField regVal ddrDfiStatusIfCfgSwAckVal (boolWord val))
  |> modifyDfi .ddrDfiStatusIfCfg (fun regVal =>
      updateRegField regVal ddrDfiStatusIfCfgSwAckOvr (boolWord override))

def dfiSetInitStartOvrRegIf (override val : Bool) (dfiReg : DfiRegs) : DfiRegs :=
  dfiReg
  |> modifyDfi .ddrDfiStatusIfCfg (fun regVal =>
      updateRegField regVal ddrDfiStatusIfCfgSwReqVal (boolWord val))
  |> modifyDfi .ddrDfiStatusIfCfg (fun regVal =>
      updateRegField regVal ddrDfiStatusIfCfgSwReqOvr (boolWord override))

/-- `dfi_phymstr_req_t` -/
structure DfiPhymstrReq where
  type : BitVec 2
  csState : BitVec 2
  stateSel : BitVec 1
deriving DecidableEq

def dfiPhymstrReqAssertRegIf (req : DfiPhymstrReq) (dfiReg : DfiRegs) : DfiRegs :=
  dfiReg
  |> modifyDfi .ddrDfiPhymstrIfCfg (fun regVal =>
      let regVal := updateRegField regVal ddrDfiPhymstrIfCfgSwType (req.type.setWidth 32)
      let regVal := updateRegField regVal ddrDfiPhymstrIfCfgSwCsState
        (req.csState.setWidth 32)
      let regVal := updateRegField regVal ddrDfiPhymstrIfCfgSwStateSel
        (req.stateSel.setWidth 32)
      updateRegField regVal ddrDfiPhymstrIfCfgSwReqOvr 1)
  |> modifyDfi .ddrDfiPhymstrIfCfg (fun regVal =>
      updateRegField regVal ddrDfiPhymstrIfCfgSwReqVal 1)

/-- The request is withdrawn with an event pulse. -/
def dfiPhymstrReqDeassertRegIf (dfiReg : DfiRegs) : DfiRegs :=
  dfiReg
  |> modifyDfi .ddrDfiPhymstrIfCfg (fun regVal =>
      updateRegField regVal ddrDfiPhymstrIfCfgSwReqVal 0)
  |> modifyDfi .ddrDfiPhymstrIfCfg (fun regVal =>
      updateRegField regVal ddrDfiPhymstrIfCfgSwEventOvr 1)
  |> modifyDfi .ddrDfiPhymstrIfCfg (fun regVal =>
      updateRegField regVal ddrDfiPhymstrIfCfgSwEventVal 1)
  |> modifyDfi .ddrDfiPhymstrIfCfg (fun regVal =>
      let regVal := updateRegField regVal ddrDfiPhymstrIfCfgSwReqOvr 0
      let regVal := updateRegField regVal ddrDfiPhymstrIfCfgSwType 0
      let regVal := updateRegField regVal ddrDfiPhymstrIfCfgSwCsState 0
      updateRegField regVal ddrDfiPhymstrIfCfgSwStateSel 0)
  |> modifyDfi .ddrDfiPhymstrIfCfg (fun regVal =>
      updateRegField regVal ddrDfiPhymstrIfCfgSwEventVal 0)
  |> modifyDfi .ddrDfiPhymstrIfCfg (fun regVal =>
      updateRegField regVal ddrDfiPhymstrIfCfgSwEventOvr 0)

def dfiCtrlupdDeassertAckRegIf (dfiReg : DfiRegs) : DfiRegs :=
  dfiReg
  |> modifyDfi .ddrDfiCtrlupdIfCfg (fun regVal =>
      updateRegField regVal ddrDfiCtrlupdIfCfgSwAckVal 0)
  |> modifyDfi .ddrDfiCtrlupdIfCfg (fun regVal =>
      updateRegField regVal ddrDfiCtrlupdIfCfgSwEvent1Ovr 1)
  |> modifyDfi .ddrDfiCtrlupdIfCfg (fun regVal =>
      updateRegField regVal ddrDfiCtrlupdIfCfgSwEvent1Val 1)
  |> modifyDfi .ddrDfiCtrlupdIfCfg (fun regVal =>
      updateRegField regVal ddrDfiCtrlupdIfCfgSwAckOvr 1)
  |> modifyDfi .ddrDfiCtrlupdIfCfg (fun regVal =>
      updateRegField regVal ddrDfiCtrlupdIfCfgSwEvent1Val 0)
  |> modifyDfi .ddrDfiCtrlupdIfCfg (fun regVal =>
      updateRegField regVal ddrDfiCtrlupdIfCfgSwEvent1Ovr 0)
  |> modifyDfi .ddrDfiCtrlupdIfCfg (fun regVal =>
      updateRegField regVal ddrDfiCtrlupdIfCfgSwAckOvr 0)

def dfiCtrlupdAckOverrideRegIf (override val : Bool) (dfiReg : DfiRegs) : DfiRegs :=
  dfiReg
  |> modifyDfi .ddrDfiCtrlupdIfCfg (fun regVal =>
      updateRegField regVal ddrDfiCtrlupdIfCfgSwAckVal (boolWord val))
  |> modifyDfi .ddrDfiCtrlupdIfCfg (fun regVal =>
      updateRegField regVal ddrDfiCtrlupdIfCfgSwAckOvr (boolWord override))

def dfiPhyupdReqAssertRegIf (type : Word) (dfiReg : DfiRegs) : DfiRegs :=
  dfiReg
  |> modifyDfi .ddrDfiPhyupdIfCfg (fun regVal =>
      let regVal := updateRegField regVal ddrDfiPhyupdIfCfgSwType type
      updateRegField regVal ddrDfiPhyupdIfCfgSwReqOvr 1)
  |> modifyDfi .ddrDfiPhyupdIfCfg (fun regVal =>
      updateRegField regVal ddrDfiPhyupdIfCfgSwReqVal 1)

def dfiPhyupdReqDeassertRegIf (dfiReg : DfiRegs) : DfiRegs :=
  dfiReg
  |> modifyDfi .ddrDfiPhyupdIfCfg (fun regVal =>
      updateRegField regVal ddrDfiPhyupdIfCfgSwReqVal 0)
  |> modifyDfi .ddrDfiPhyupdIfCfg (fun regVal =>
      updateRegField regVal ddrDfiPhyupdIfCfgSwEventOvr 1)
  |> modifyDfi .ddrDfiPhyupdIfCfg (fun regVal =>
      updateRegField regVal ddrDfiPhyupdIfCfgSwEventVal 1)
  |> modifyDfi .ddrDfiPhyupdIfCfg (fun regVal =>
      updateRegField regVal ddrDfiPhyupdIfCfgSwReqOvr 0)
  |> modifyDfi .ddrDfiPhyupdIfCfg (fun regVal =>
      updateRegField regVal ddrDfiPhyupdIfCfgSwEventVal 0)
  |> modifyDfi .ddrDfiPhyupdIfCfg (fun regVal =>
      updateRegField regVal ddrDfiPhyupdIfCfgSwEventOvr 0)

section RequestLines

/-- A request line as the controller sees it. -/
def lineAsserted (name : DfiRegName) (ovr val : RegField) (dfiReg : DfiRegs) : Prop :=
  getRegField (dfiReg ⟨name, []⟩) ovr = 1 ∧ getRegField (dfiReg ⟨name, []⟩) val = 1

instance (name : DfiRegName) (ovr val : RegField) (dfiReg : DfiRegs) :
    Decidable (lineAsserted name ovr val dfiReg) :=
  inferInstanceAs (Decidable (_ ∧ _))

def phyupdAsserted : DfiRegs → Prop :=
  lineAsserted .ddrDfiPhyupdIfCfg ddrDfiPhyupdIfCfgSwReqOvr ddrDfiPhyupdIfCfgSwReqVal

def phymstrAsserted : DfiRegs → Prop :=
  lineAsserted .ddrDfiPhymstrIfCfg ddrDfiPhymstrIfCfgSwReqOvr ddrDfiPhymstrIfCfgSwReqVal

instance (dfiReg : DfiRegs) : Decidable (phyupdAsserted dfiReg) :=
  inferInstanceAs (Decidable (lineAsserted _ _ _ _))

instance (dfiReg : DfiRegs) : Decidable (phymstrAsserted dfiReg) :=
  inferInstanceAs (Decidable (lineAsserted _ _ _ _))

variable (dfiReg : DfiRegs)

omit [KernelIo] in
@[simp]
theorem modifyDfi_self (name : DfiRegName) (update : Word → Word) :
    modifyDfi name update dfiReg ⟨name, []⟩ = update (dfiReg ⟨name, []⟩) := by
  simp [modifyDfi, modifyReg]

/-- An update of another register leaves a line alone. -/
theorem lineAsserted_modifyDfi_of_ne {target other : DfiRegName} (different : target ≠ other)
    (ovr val : RegField) (update : Word → Word) :
    lineAsserted target ovr val (modifyDfi other update dfiReg) ↔
      lineAsserted target ovr val dfiReg := by
  have unchanged : modifyDfi other update dfiReg ⟨target, []⟩ = dfiReg ⟨target, []⟩ := by
    simp [modifyDfi, modifyReg, different]
  simp only [lineAsserted, unchanged]

@[simp]
theorem phyupdAsserted_modifyDfi {other : DfiRegName} (different : .ddrDfiPhyupdIfCfg ≠ other)
    (update : Word → Word) :
    phyupdAsserted (modifyDfi other update dfiReg) ↔ phyupdAsserted dfiReg :=
  lineAsserted_modifyDfi_of_ne dfiReg different _ _ update

@[simp]
theorem phymstrAsserted_modifyDfi {other : DfiRegName}
    (different : .ddrDfiPhymstrIfCfg ≠ other) (update : Word → Word) :
    phymstrAsserted (modifyDfi other update dfiReg) ↔ phymstrAsserted dfiReg :=
  lineAsserted_modifyDfi_of_ne dfiReg different _ _ update

theorem phyupdAsserted_assert (type : Word) :
    phyupdAsserted (dfiPhyupdReqAssertRegIf type dfiReg) := by
  constructor
  · simp only [dfiPhyupdReqAssertRegIf, modifyDfi_self]
    rw [getRegField_updateRegField_of_disjoint _ _ _ _ (by decide),
      getRegField_updateRegField _ _ _ (by decide)]
  · simp only [dfiPhyupdReqAssertRegIf, modifyDfi_self]
    rw [getRegField_updateRegField _ _ _ (by decide)]

theorem phymstrAsserted_assert (req : DfiPhymstrReq) :
    phymstrAsserted (dfiPhymstrReqAssertRegIf req dfiReg) := by
  constructor
  · simp only [dfiPhymstrReqAssertRegIf, modifyDfi_self]
    rw [getRegField_updateRegField_of_disjoint _ _ _ _ (by decide),
      getRegField_updateRegField _ _ _ (by decide)]
  · simp only [dfiPhymstrReqAssertRegIf, modifyDfi_self]
    rw [getRegField_updateRegField _ _ _ (by decide)]

/-- The value of the line is cleared first, and no later write sets it again. -/
theorem not_phyupdAsserted_deassert :
    ¬ phyupdAsserted (dfiPhyupdReqDeassertRegIf dfiReg) := by
  rintro ⟨-, on⟩
  simp only [dfiPhyupdReqDeassertRegIf, modifyDfi_self] at on
  rw [getRegField_updateRegField_of_disjoint _ _ _ _ (by decide),
    getRegField_updateRegField_of_disjoint _ _ _ _ (by decide),
    getRegField_updateRegField_of_disjoint _ _ _ _ (by decide),
    getRegField_updateRegField_of_disjoint _ _ _ _ (by decide),
    getRegField_updateRegField_of_disjoint _ _ _ _ (by decide),
    getRegField_updateRegField _ _ _ (by decide)] at on
  exact absurd on (by decide)

theorem not_phymstrAsserted_deassert :
    ¬ phymstrAsserted (dfiPhymstrReqDeassertRegIf dfiReg) := by
  rintro ⟨-, on⟩
  simp only [dfiPhymstrReqDeassertRegIf, modifyDfi_self] at on
  rw [getRegField_updateRegField_of_disjoint _ _ _ _ (by decide),
    getRegField_updateRegField_of_disjoint _ _ _ _ (by decide),
    getRegField_updateRegField_of_disjoint _ _ _ _ (by decide),
    getRegField_updateRegField_of_disjoint _ _ _ _ (by decide),
    getRegField_updateRegField_of_disjoint _ _ _ _ (by decide),
    getRegField_updateRegField_of_disjoint _ _ _ _ (by decide),
    getRegField_updateRegField_of_disjoint _ _ _ _ (by decide),
    getRegField_updateRegField_of_disjoint _ _ _ _ (by decide),
    getRegField_updateRegField _ _ _ (by decide)] at on
  exact absurd on (by decide)

section Frames

/-! Each interface drives its own register. -/

@[simp]
theorem phymstrAsserted_phyupdAssert (type : Word) :
    phymstrAsserted (dfiPhyupdReqAssertRegIf type dfiReg) ↔ phymstrAsserted dfiReg := by
  simp [dfiPhyupdReqAssertRegIf]

@[simp]
theorem phymstrAsserted_phyupdDeassert :
    phymstrAsserted (dfiPhyupdReqDeassertRegIf dfiReg) ↔ phymstrAsserted dfiReg := by
  simp [dfiPhyupdReqDeassertRegIf]

@[simp]
theorem phyupdAsserted_phymstrAssert (req : DfiPhymstrReq) :
    phyupdAsserted (dfiPhymstrReqAssertRegIf req dfiReg) ↔ phyupdAsserted dfiReg := by
  simp [dfiPhymstrReqAssertRegIf]

@[simp]
theorem phyupdAsserted_phymstrDeassert :
    phyupdAsserted (dfiPhymstrReqDeassertRegIf dfiReg) ↔ phyupdAsserted dfiReg := by
  simp [dfiPhymstrReqDeassertRegIf]

/-- Neither line changes. -/
def SameLines (before after : DfiRegs) : Prop :=
  (phyupdAsserted after ↔ phyupdAsserted before) ∧
    (phymstrAsserted after ↔ phymstrAsserted before)

theorem sameLines_initComplete (override val : Bool) :
    SameLines dfiReg (dfiSetInitCompleteOvrRegIf override val dfiReg) := by
  constructor <;> simp [dfiSetInitCompleteOvrRegIf]

theorem sameLines_initStart (override val : Bool) :
    SameLines dfiReg (dfiSetInitStartOvrRegIf override val dfiReg) := by
  constructor <;> simp [dfiSetInitStartOvrRegIf]

theorem sameLines_ctrlupdAckOverride (override val : Bool) :
    SameLines dfiReg (dfiCtrlupdAckOverrideRegIf override val dfiReg) := by
  constructor <;> simp [dfiCtrlupdAckOverrideRegIf]

theorem sameLines_ctrlupdDeassertAck :
    SameLines dfiReg (dfiCtrlupdDeassertAckRegIf dfiReg) := by
  constructor <;> simp [dfiCtrlupdDeassertAckRegIf]

end Frames

end RequestLines

end WavLpddr
