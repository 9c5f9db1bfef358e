import WavLpddr.Channel

/-!
# The words of the delay elements

Boot writes a phase interpolator from the packed word of its table entry and sets the enable
bit in it.  It writes a delay line from the packed word alone, where the top bit of the gear
lies on the enable bit.  A frequency switch assembles the words field by field.
-/

namespace WavLpddr

open RegisterFile BitFields

/-- Fields of a register and the values that the table has for them. -/
abbrev FieldValues := List (RegField × Word)

def piFields (code gear xcpl en : RegField) (pi : PiCfg) : FieldValues :=
  [(code, pi.code.setWidth 32), (gear, pi.gear.setWidth 32), (xcpl, pi.xcpl.setWidth 32), (en, 1)]

/-- An interpolator that has no code. -/
def matchPiFields (gear xcpl en : RegField) (pi : PiCfg) : FieldValues :=
  [(gear, pi.gear.setWidth 32), (xcpl, pi.xcpl.setWidth 32), (en, 1)]

def lpdeFields (ctrlBin gear en : RegField) (lpde : LpdeCfg) : FieldValues :=
  [(ctrlBin, lpde.delay.setWidth 32), (gear, lpde.gear.setWidth 32), (en, 1)]

/-- Both words hold the values of the table, cut to the widths of the fields. -/
def HoldAlike [KernelIo] (fields : FieldValues) (boot switch : Word) : Prop :=
  ∀ part ∈ fields, getRegField boot part.1 = getRegField switch part.1 ∧
    getRegField switch part.1 = part.1.cut part.2

/-- A table entry, by the kind of its register. -/
inductive DelayEntry
  | pi (cfg : PiCfg)
  | matchPi (cfg : PiCfg)
  | lpde (cfg : LpdeCfg)

/-- The top bit of the gear is set. -/
def LpdeCfg.Enabling (lpde : LpdeCfg) : Prop := lpde.gear.getLsbD 2 = true

namespace DelayEntry

/-- All registers of a kind have the same layout. -/
def fields : DelayEntry → FieldValues
  | .pi cfg => piFields ddrDqDqTxOdrPiM1R0CfgCode ddrDqDqTxOdrPiM1R0CfgGear
      ddrDqDqTxOdrPiM1R0CfgXcpl ddrDqDqTxOdrPiM1R0CfgEn cfg
  | .matchPi cfg => matchPiFields ddrDqDqTxOdrPiM1R0CfgGear ddrDqDqTxOdrPiM1R0CfgXcpl
      ddrDqDqTxOdrPiM1R0CfgEn cfg
  | .lpde cfg => lpdeFields ddrDqDqTxLpdeM0R0Cfg0CtrlBin ddrDqDqTxLpdeM0R0Cfg0Gear
      ddrDqDqTxLpdeM0R0Cfg0En cfg

/-- Both paths program the entry alike. -/
def Alike : DelayEntry → Prop
  | .pi _ | .matchPi _ => True
  | .lpde cfg => cfg.Enabling

variable [KernelIo]

/-- What boot writes. -/
def bootWord : DelayEntry → Word
  | .pi cfg | .matchPi cfg => updateRegField cfg.val ddrDqDqTxOdrPiM1R0CfgEn 1
  | .lpde cfg => cfg.val

/-- What a frequency switch writes. -/
def switchWord : DelayEntry → Word
  | .pi cfg => piCfgWord ddrDqDqTxOdrPiM1R0CfgCode ddrDqDqTxOdrPiM1R0CfgGear
      ddrDqDqTxOdrPiM1R0CfgXcpl ddrDqDqTxOdrPiM1R0CfgEn cfg
  | .matchPi cfg => matchPiCfgWord ddrDqDqTxOdrPiM1R0CfgGear ddrDqDqTxOdrPiM1R0CfgXcpl
      ddrDqDqTxOdrPiM1R0CfgEn cfg
  | .lpde cfg => lpdeCfgWord ddrDqDqTxLpdeM0R0Cfg0Gear ddrDqDqTxLpdeM0R0Cfg0CtrlBin
      ddrDqDqTxLpdeM0R0Cfg0En cfg

end DelayEntry

section Packed

/-- The union packs the three fields of an interpolator. -/
theorem piVal_packed : ∀ (code : BitVec 6) (gear : BitVec 4) (xcpl : BitVec 1),
    PiCfg.val ⟨code, gear, xcpl⟩ =
      ddrDqDqTxOdrPiM1R0CfgXcpl.insert
        (ddrDqDqTxOdrPiM1R0CfgGear.insert
          (ddrDqDqTxOdrPiM1R0CfgCode.insert 0 (code.setWidth 32)) (gear.setWidth 32))
        (xcpl.setWidth 32) := by
  decide +kernel

/-- The gear of a delay line reaches into the enable bit. -/
theorem lpdeVal_packed : ∀ (delay : BitVec 6) (gear : BitVec 3),
    LpdeCfg.val ⟨delay, gear⟩ =
      ddrDqDqTxLpdeM0R0Cfg0En.insert
        (ddrDqDqTxLpdeM0R0Cfg0CtrlBin.insert
          (ddrDqDqTxLpdeM0R0Cfg0Gear.insert 0 (gear.setWidth 32)) (delay.setWidth 32))
        (gear.setWidth 32 >>> 2) := by
  decide +kernel

theorem en_cut_gear : ∀ gear : BitVec 3,
    ddrDqDqTxLpdeM0R0Cfg0En.cut (gear.setWidth 32 >>> 2) = ddrDqDqTxLpdeM0R0Cfg0En.cut 1 ↔
      gear.getLsbD 2 = true := by
  decide

variable [KernelIo]

/-- Of an interpolator, boot and switch write the same word. -/
theorem piBootWord_eq (pi : PiCfg) :
    updateRegField pi.val ddrDqDqTxOdrPiM1R0CfgEn 1 = piCfgWord ddrDqDqTxOdrPiM1R0CfgCode
      ddrDqDqTxOdrPiM1R0CfgGear ddrDqDqTxOdrPiM1R0CfgXcpl ddrDqDqTxOdrPiM1R0CfgEn pi := by
  simp only [piCfgWord, updateRegField_eq]
  rw [← piVal_packed]

theorem holdAlike_cons {field : RegField} {value : Word} {rest : FieldValues}
    {boot switch : Word} :
    HoldAlike ((field, value) :: rest) boot switch ↔
      (getRegField boot field = getRegField switch field ∧
        getRegField switch field = field.cut value) ∧ HoldAlike rest boot switch := by
  simp only [HoldAlike, List.forall_mem_cons]

theorem holdAlike_nil {boot switch : Word} : HoldAlike [] boot switch := by
  simp [HoldAlike]

omit [KernelIo] in
theorem setWidth_inj {narrow : Nat} (fits : narrow ≤ 32) {first second : BitVec narrow}
    (same : first.setWidth 32 = second.setWidth 32) : first = second := by
  have back := congrArg (BitVec.setWidth narrow) same
  rwa [BitVec.setWidth_setWidth_of_le _ fits, BitVec.setWidth_setWidth_of_le _ fits,
    BitVec.setWidth_eq, BitVec.setWidth_eq] at back

omit [KernelIo] in
theorem piFields_fit :
    (∀ code : BitVec 6, ddrDqDqTxOdrPiM1R0CfgCode.cut (code.setWidth 32) = code.setWidth 32) ∧
    (∀ gear : BitVec 4, ddrDqDqTxOdrPiM1R0CfgGear.cut (gear.setWidth 32) = gear.setWidth 32) ∧
    ∀ xcpl : BitVec 1, ddrDqDqTxOdrPiM1R0CfgXcpl.cut (xcpl.setWidth 32) = xcpl.setWidth 32 := by
  decide

/-- An interpolator that is switched from another entry. -/
theorem holdAlike_pi_iff (own other : PiCfg) :
    HoldAlike (DelayEntry.pi own).fields (DelayEntry.pi own).bootWord
      (DelayEntry.pi other).switchWord ↔ other = own := by
  constructor
  · intro alike
    simp only [DelayEntry.fields, piFields, DelayEntry.switchWord, holdAlike_cons] at alike
    simp (disch := decide) only [piCfgWord, getRegField_updateRegField_of_disjoint,
      getRegField_updateRegField_cut, piFields_fit.1, piFields_fit.2.1, piFields_fit.2.2]
      at alike
    obtain ⟨⟨-, sameCode⟩, ⟨-, sameGear⟩, ⟨-, sameXcpl⟩, -⟩ := alike
    have code := setWidth_inj (by decide) sameCode
    have gear := setWidth_inj (by decide) sameGear
    have xcpl := setWidth_inj (by decide) sameXcpl
    cases own
    cases other
    cases code
    cases gear
    cases xcpl
    rfl
  · rintro rfl
    simp only [DelayEntry.bootWord, piBootWord_eq, DelayEntry.switchWord, DelayEntry.fields,
      piFields, holdAlike_cons, holdAlike_nil]
    simp (disch := decide) only [piCfgWord, getRegField_updateRegField_of_disjoint,
      getRegField_updateRegField_cut, and_self]

theorem DelayEntry.holdAlike_iff (entry : DelayEntry) :
    HoldAlike entry.fields entry.bootWord entry.switchWord ↔ entry.Alike := by
  cases entry with
  | pi cfg => exact (holdAlike_pi_iff cfg cfg).trans (iff_of_true rfl trivial)
  | matchPi cfg =>
      refine iff_of_true ?_ trivial
      simp only [bootWord, piBootWord_eq, switchWord, fields, matchPiFields, holdAlike_cons,
        holdAlike_nil]
      simp (disch := decide) only [piCfgWord, matchPiCfgWord,
        getRegField_updateRegField_of_disjoint, getRegField_updateRegField_cut, and_self]
  | lpde cfg =>
      obtain ⟨delay, gear⟩ := cfg
      simp only [bootWord, lpdeVal_packed, switchWord, fields, lpdeFields, holdAlike_cons,
        holdAlike_nil, ← updateRegField_eq]
      simp (disch := decide) only [lpdeCfgWord, getRegField_updateRegField_of_disjoint,
        getRegField_updateRegField_cut, and_self, true_and, and_true]
      exact en_cut_gear gear

end Packed

end WavLpddr
