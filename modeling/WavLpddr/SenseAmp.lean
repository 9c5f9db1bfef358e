import Mathlib.Data.Nat.SuccPred
import Mathlib.Order.Nat
import Mathlib.Order.SuccPred.Archimedean
import WavLpddr.Channel
import WavLpddr.Lib.Extremes

/-!
# Sense-amplifier calibration

A calibration searches the codes of one sense amplifier from both ends and keeps
the average of where the searches stop.  A code is stored as a direction and a
magnitude; the amplifiers of a slice share one register, each with its own bits.
-/

namespace WavLpddr

open RegisterFile BitFields Extremes

namespace SaComparator

/-- The searches of an amplifier stop at these codes. -/
structure Stops (status : SaComparator) (codeUp codeDown : Nat) : Prop where
  up : IsLeast {code | status .up code = false} codeUp
  upInside : wavSaMinCalCode < codeUp ∧ codeUp ≤ wavSaMaxCalCode
  down : IsGreatest {code | code ≤ wavSaMaxCalCode ∧ status .down code = true} codeDown
  downInside : codeDown < wavSaMaxCalCode

/-- Both searches find a change of the reading between the end codes. -/
def Accepted (status : SaComparator) : Prop :=
  status .up wavSaMinCalCode = true ∧
    (∃ code, code ≤ wavSaMaxCalCode ∧ status .up code = false) ∧
    (∃ code, code ≤ wavSaMaxCalCode ∧ status .down code = true) ∧
    status .down wavSaMaxCalCode = false

variable {status : SaComparator} {codeUp codeDown : Nat}

theorem Stops.average_le (stops : status.Stops codeUp codeDown) :
    (codeDown + codeUp) / 2 ≤ wavSaMaxCalCode := by
  have upInside := stops.upInside.2
  have downInside := stops.downInside
  omega

theorem Stops.accepted (stops : status.Stops codeUp codeDown) : status.Accepted := by
  refine ⟨?_, ⟨codeUp, stops.upInside.2, stops.up.1⟩, ⟨codeDown, stops.down.1⟩, ?_⟩
  · by_contra notHigh
    have least := stops.up.2 (Bool.eq_false_of_not_eq_true notHigh)
    exact absurd stops.upInside.1 (Nat.not_lt.mpr least)
  · by_contra notLow
    have greatest := stops.down.2 ⟨Nat.le_refl wavSaMaxCalCode, Bool.eq_true_of_not_eq_false notLow⟩
    exact absurd stops.downInside (Nat.not_lt.mpr greatest)

theorem Accepted.stops (accepted : status.Accepted) :
    ∃ codeUp codeDown, status.Stops codeUp codeDown := by
  obtain ⟨high, ⟨low, lowInside, lowReads⟩, someHigh, last⟩ := accepted
  have someLow : ∃ code, status .up code = false := ⟨low, lowReads⟩
  obtain ⟨codeDown, greatest⟩ := BddAbove.exists_isGreatest_of_nonempty
    (S := {code | code ≤ wavSaMaxCalCode ∧ status .down code = true})
    ⟨wavSaMaxCalCode, fun _ listed => listed.1⟩ someHigh
  refine ⟨Nat.find someLow, codeDown, Nat.isLeast_find someLow, ⟨?_, ?_⟩, greatest, ?_⟩
  · apply Nat.pos_of_ne_zero
    intro first
    have reads := Nat.find_spec someLow
    rw [first] at reads
    exact absurd high (by rw [show wavSaMinCalCode = 0 from rfl, reads]; decide)
  · exact (Nat.find_le lowReads).trans lowInside
  · apply Nat.lt_of_le_of_ne greatest.1.1
    intro same
    have reads := greatest.1.2
    rw [same, last] at reads
    cases reads

theorem accepted_iff_stops :
    status.Accepted ↔ ∃ codeUp codeDown, status.Stops codeUp codeDown :=
  ⟨Accepted.stops, fun ⟨_, _, stops⟩ => stops.accepted⟩

end SaComparator

/-- The register of one slice's sense amplifiers. -/
abbrev saCfg (msr : WddrMsr) (rank bit : Nat) : ArrayReg DqRegName :=
  ⟨.ddrDqDqRxSaCfg, [msr.index, rank, bit]⟩

namespace SensampIndex

/-- The bits of the register that belong to an amplifier. -/
def bits (saIndex : SensampIndex) : Word := saIndex.calDir.mask ||| saIndex.calCode.mask

theorem calDir_disjoint {saIndex other : SensampIndex} (different : saIndex ≠ other) :
    saIndex.calDir.mask &&& other.bits = 0 := by
  cases saIndex <;> cases other <;> first | decide | exact absurd rfl different

theorem calCode_disjoint {saIndex other : SensampIndex} (different : saIndex ≠ other) :
    saIndex.calCode.mask &&& other.bits = 0 := by
  cases saIndex <;> cases other <;> first | decide | exact absurd rfl different

variable [KernelIo]

/-- The word that setting a code writes over `word`: the direction and the magnitude. -/
def codeWord (saIndex : SensampIndex) (code : Nat) (word : Word) : Word :=
  let calCode :=
    if code < wavSaMidCalCode then wavSaMidCalCode - (code + 1) else code - wavSaMidCalCode
  updateRegField
    (updateRegField word saIndex.calDir (boolWord (decide (wavSaMidCalCode ≤ code))))
    saIndex.calCode (BitVec.ofNat 32 calCode)

/-- The direction and code fields of an amplifier. -/
def fieldsOf (saIndex : SensampIndex) (word : Word) : Word × Word :=
  (getRegField word saIndex.calDir, getRegField word saIndex.calCode)

/-- The code that a direction and a magnitude stand for. -/
def decoded (fields : Word × Word) : Nat :=
  if fields.1 = 0 then wavSaMidCalCode - (fields.2.toNat + 1)
  else wavSaMidCalCode + fields.2.toNat

/-- The code that a register holds for an amplifier. -/
def codeOf (saIndex : SensampIndex) (word : Word) : Nat := decoded (saIndex.fieldsOf word)

theorem codeOf_codeWord (saIndex : SensampIndex) {code : Nat}
    (inside : code ≤ wavSaMaxCalCode) (word : Word) :
    saIndex.codeOf (saIndex.codeWord code word) = code := by
  have magnitudeFits : ∀ magnitude < 16,
      ((BitVec.ofNat 32 magnitude <<< saIndex.calCode.shift) &&& saIndex.calCode.mask) >>>
        saIndex.calCode.shift = BitVec.ofNat 32 magnitude := by
    cases saIndex <;> decide
  have directionFits : ∀ positive,
      ((boolWord positive <<< saIndex.calDir.shift) &&& saIndex.calDir.mask) >>>
        saIndex.calDir.shift = boolWord positive := by
    cases saIndex <;> decide
  have apart : saIndex.calDir.mask &&& saIndex.calCode.mask = 0 := by
    cases saIndex <;> decide
  have middle : wavSaMidCalCode = 16 := rfl
  have last : wavSaMaxCalCode = 31 := rfl
  simp only [codeOf, fieldsOf, codeWord]
  rw [getRegField_updateRegField_of_disjoint _ _ _ _ apart,
    getRegField_updateRegField _ _ _ (directionFits _)]
  by_cases negative : code < wavSaMidCalCode
  · have magnitude : wavSaMidCalCode - (code + 1) < 16 := by omega
    rw [if_pos negative, getRegField_updateRegField _ _ _ (magnitudeFits _ magnitude)]
    simp only [decoded, boolWord, Nat.not_le.mpr negative, BitVec.toNat_ofNat, decide_false,
      Bool.false_eq_true, if_true, if_false]
    omega
  · have magnitude : code - wavSaMidCalCode < 16 := by omega
    rw [if_neg negative, getRegField_updateRegField _ _ _ (magnitudeFits _ magnitude)]
    simp only [decoded, boolWord, Nat.not_lt.mp negative, BitVec.toNat_ofNat, decide_true,
      if_true, BitVec.reduceEq, if_false]
    omega

/-- A cleared register holds the code just below the middle. -/
theorem codeOf_zero (saIndex : SensampIndex) : saIndex.codeOf 0 = wavSaMidCalCode - 1 := by
  simp only [codeOf, fieldsOf, getRegField_eq]
  cases saIndex <;> decide

/-- The code stands for its two fields. -/
theorem codeOf_eq_iff (saIndex : SensampIndex) (first second : Word) :
    saIndex.codeOf first = saIndex.codeOf second ↔
      saIndex.fieldsOf first = saIndex.fieldsOf second := by
  have magnitude : ∀ word, (getRegField word saIndex.calCode).toNat < 16 := by
    intro word
    have bound := saIndex.calCode.toNat_extract_le word
    rw [getRegField_eq]
    cases saIndex <;> exact Nat.lt_of_le_of_lt bound (by decide)
  have direction : ∀ word,
      getRegField word saIndex.calDir = 0 ∨ getRegField word saIndex.calDir = 1 := by
    intro word
    rw [getRegField_eq]
    cases saIndex with
    | sa0 => exact Field.extract_of_single _ 16 (by decide) (by decide) word
    | sa90 => exact Field.extract_of_single _ 17 (by decide) (by decide) word
    | sa180 => exact Field.extract_of_single _ 18 (by decide) (by decide) word
    | sa270 => exact Field.extract_of_single _ 19 (by decide) (by decide) word
  have middle : wavSaMidCalCode = 16 := rfl
  have firstBound := magnitude first
  have secondBound := magnitude second
  constructor
  · intro same
    simp only [codeOf, decoded, fieldsOf] at same ⊢
    rcases direction first with firstDir | firstDir <;>
      rcases direction second with secondDir | secondDir <;>
      simp only [firstDir, secondDir, if_true, BitVec.reduceEq, if_false] at same ⊢
    · have equal : (getRegField first saIndex.calCode).toNat =
          (getRegField second saIndex.calCode).toNat := by omega
      rw [BitVec.eq_of_toNat_eq equal]
    · omega
    · omega
    · have equal : (getRegField first saIndex.calCode).toNat =
          (getRegField second saIndex.calCode).toNat := by omega
      rw [BitVec.eq_of_toNat_eq equal]
  · intro same
    simp only [codeOf, same]

/-- Setting a code changes the amplifier's own bits only. -/
theorem sameUpTo_codeWord (saIndex : SensampIndex) (code : Nat) (word : Word) :
    Field.SameUpTo saIndex.bits word (saIndex.codeWord code word) := by
  have dirWithin : saIndex.calDir.mask &&& ~~~saIndex.bits = 0 := by
    cases saIndex <;> decide
  have codeWithin : saIndex.calCode.mask &&& ~~~saIndex.bits = 0 := by
    cases saIndex <;> decide
  simp only [codeWord, updateRegField_eq]
  exact (Field.SameUpTo.insert_self _ dirWithin word _).trans
    (Field.SameUpTo.insert_self _ codeWithin _ _)

/-- The bits of one amplifier do not matter for another one's code. -/
theorem codeOf_eq_of_sameUpTo {saIndex other : SensampIndex} (different : saIndex ≠ other)
    {first second : Word} (same : Field.SameUpTo other.bits first second) :
    saIndex.codeOf first = saIndex.codeOf second := by
  simp only [codeOf, fieldsOf, getRegField_eq, same.extract_eq _ (calDir_disjoint different),
    same.extract_eq _ (calCode_disjoint different)]

end SensampIndex

section Searches

variable [KernelIo] {status : SaComparator} {bit : Nat} {saIndex : SensampIndex}

theorem searchUp_of_low {fuel calCode : Nat} (reading : status .up calCode = false)
    (dqReg : DqRegs) :
    (searchUp status bit saIndex (fuel + 1) calCode dqReg).1 =
      if calCode = wavSaMinCalCode then none else some calCode := by
  simp only [searchUp, reading, Bool.false_eq_true, and_true, and_false, if_false, if_true]
  split
  · rfl
  · rfl

theorem searchUp_of_high {fuel calCode : Nat} (reading : status .up calCode = true)
    (dqReg : DqRegs) :
    searchUp status bit saIndex (fuel + 1) calCode dqReg =
      if calCode = wavSaMaxCalCode then
        (none, dqDqSaSetCalCodeRegIf .msr0 0 bit saIndex calCode dqReg)
      else searchUp status bit saIndex fuel (calCode + 1)
        (dqDqSaSetCalCodeRegIf .msr0 0 bit saIndex calCode dqReg) := by
  simp only [searchUp, reading, Bool.true_eq_false, and_true, and_false, if_false]

/-- The upward search, begun at `calCode`, stops at the first low reading. -/
theorem searchUp_eq_some {fuel calCode codeUp : Nat}
    (inRange : calCode + fuel = wavSaMaxCalCode) (dqReg : DqRegs) :
    (searchUp status bit saIndex (fuel + 1) calCode dqReg).1 = some codeUp ↔
      IsLeast {code | calCode ≤ code ∧ status .up code = false} codeUp ∧
        wavSaMinCalCode < codeUp ∧ codeUp ≤ wavSaMaxCalCode := by
  induction fuel generalizing calCode dqReg with
  | zero =>
      cases reading : status .up calCode with
      | false =>
          rw [searchUp_of_low reading, isLeast_of_holds reading]
          grind [wavSaMinCalCode]
      | true =>
          have last : calCode = wavSaMaxCalCode := inRange
          rw [searchUp_of_high reading, if_pos last, isLeast_succ (by simp [reading])]
          constructor
          · exact fun found => nomatch found
          · rintro ⟨least, inside⟩
            have after : calCode + 1 ≤ codeUp := least.1.1
            omega
  | succ fuel inductionHypothesis =>
      cases reading : status .up calCode with
      | false =>
          rw [searchUp_of_low reading, isLeast_of_holds reading]
          grind [wavSaMinCalCode]
      | true =>
          have notLast : calCode ≠ wavSaMaxCalCode := by omega
          rw [searchUp_of_high reading, if_neg notLast, isLeast_succ (by simp [reading])]
          exact inductionHypothesis (by omega) _

theorem searchDown_of_high {calCode : Nat} (reading : status .down calCode = true)
    (dqReg : DqRegs) :
    (searchDown status bit saIndex calCode dqReg).1 =
      if calCode = wavSaMaxCalCode then none else some calCode := by
  cases calCode with
  | zero => simp [searchDown, reading, wavSaMaxCalCode]
  | succ calCode =>
      simp only [searchDown, reading, and_true, if_true]
      split
      · rfl
      · rfl

theorem searchDown_of_low {calCode : Nat} (reading : status .down (calCode + 1) = false)
    (dqReg : DqRegs) :
    searchDown status bit saIndex (calCode + 1) dqReg =
      searchDown status bit saIndex calCode
        (dqDqSaSetCalCodeRegIf .msr0 0 bit saIndex (calCode + 1) dqReg) := by
  simp only [searchDown, reading, Bool.false_eq_true, and_false, if_false]

theorem searchDown_eq_some {calCode codeDown : Nat} (inRange : calCode ≤ wavSaMaxCalCode)
    (dqReg : DqRegs) :
    (searchDown status bit saIndex calCode dqReg).1 = some codeDown ↔
      IsGreatest {code | code ≤ calCode ∧ status .down code = true} codeDown ∧
        codeDown < wavSaMaxCalCode := by
  induction calCode generalizing dqReg with
  | zero =>
      cases reading : status .down 0 with
      | true =>
          rw [searchDown_of_high reading, isGreatest_of_holds reading]
          grind [wavSaMaxCalCode]
      | false =>
          constructor
          · exact fun found => by simp [searchDown, reading] at found
          · rintro ⟨greatest, -⟩
            have atZero : codeDown = 0 := Nat.le_zero.mp greatest.1.1
            have high := greatest.1.2
            rw [atZero, reading] at high
            cases high
  | succ calCode inductionHypothesis =>
      cases reading : status .down (calCode + 1) with
      | true =>
          rw [searchDown_of_high reading, isGreatest_of_holds reading]
          grind [wavSaMaxCalCode]
      | false =>
          rw [searchDown_of_low reading, isGreatest_succ (by simp [reading])]
          exact inductionHypothesis (by omega) _

/-- Both searches in terms of where they stop. -/
theorem searches_eq_some {codeUp codeDown : Nat} (first second : DqRegs) :
    (searchUp status bit saIndex (wavSaMaxCalCode + 1) wavSaMinCalCode first).1 = some codeUp ∧
        (searchDown status bit saIndex wavSaMaxCalCode second).1 = some codeDown ↔
      status.Stops codeUp codeDown := by
  have fromStart : {code | wavSaMinCalCode ≤ code ∧ status .up code = false} =
      {code | status .up code = false} := by
    ext code
    exact ⟨fun listed => listed.2, fun low => ⟨Nat.zero_le code, low⟩⟩
  have inRange : wavSaMinCalCode + wavSaMaxCalCode = wavSaMaxCalCode := rfl
  rw [searchUp_eq_some inRange, searchDown_eq_some (Nat.le_refl _), fromStart]
  constructor
  · rintro ⟨⟨least, inside⟩, greatest, below⟩
    exact ⟨least, inside, greatest, below⟩
  · intro stops
    exact ⟨⟨stops.up, stops.upInside⟩, stops.down, stops.downInside⟩

/-- A calibration returns the average of where its searches stop. -/
theorem calibrateSa_eq_some {code : Nat} (dqReg : DqRegs) :
    (calibrateSa status bit saIndex dqReg).1 = some code ↔
      ∃ codeUp codeDown, status.Stops codeUp codeDown ∧ code = (codeDown + codeUp) / 2 := by
  unfold calibrateSa
  dsimp only
  generalize upward : searchUp status bit saIndex (wavSaMaxCalCode + 1) wavSaMinCalCode
    (dqDqSaClearCalCodeRegIf .msr0 0 bit dqReg) = found
  obtain ⟨stopUp, upRegs⟩ := found
  generalize downward : searchDown status bit saIndex wavSaMaxCalCode upRegs = foundDown
  obtain ⟨stopDown, downRegs⟩ := foundDown
  have stops : ∀ codeUp codeDown, stopUp = some codeUp ∧ stopDown = some codeDown ↔
      status.Stops codeUp codeDown := by
    intro codeUp codeDown
    rw [← searches_eq_some (dqDqSaClearCalCodeRegIf .msr0 0 bit dqReg) upRegs, upward, downward]
  cases stopUp with
  | none =>
      constructor
      · exact fun found => nomatch found
      · rintro ⟨codeUp, codeDown, both, -⟩
        exact nomatch ((stops codeUp codeDown).mpr both).1
  | some codeUp =>
      simp only [downward]
      cases stopDown with
      | none =>
          constructor
          · exact fun found => nomatch found
          · rintro ⟨codeUp, codeDown, both, -⟩
            exact nomatch ((stops codeUp codeDown).mpr both).2
      | some codeDown =>
          constructor
          · intro found
            exact ⟨codeUp, codeDown, (stops codeUp codeDown).mp ⟨rfl, rfl⟩,
              (Option.some.inj found).symm⟩
          · rintro ⟨otherUp, otherDown, both, average⟩
            obtain ⟨sameUp, sameDown⟩ := (stops otherUp otherDown).mpr both
            cases sameUp
            cases sameDown
            rw [average]

end Searches

section Registers

/-- The update changes one slice's register in bank 0 of rank 0 only, and there only the
bits of one amplifier. -/
structure SaConfined (bit : Nat) (saIndex : SensampIndex) (before after : DqRegs) : Prop where
  others : ∀ reg, reg ≠ saCfg .msr0 0 bit → after reg = before reg
  own : Field.SameUpTo saIndex.bits (before (saCfg .msr0 0 bit)) (after (saCfg .msr0 0 bit))

variable {bit : Nat} {saIndex : SensampIndex}

theorem SaConfined.refl (dqReg : DqRegs) : SaConfined bit saIndex dqReg dqReg :=
  ⟨fun _ _ => rfl, .refl _ _⟩

theorem SaConfined.trans {first second third : DqRegs}
    (earlier : SaConfined bit saIndex first second)
    (later : SaConfined bit saIndex second third) : SaConfined bit saIndex first third :=
  ⟨fun reg other => (later.others reg other).trans (earlier.others reg other),
    earlier.own.trans later.own⟩

variable [KernelIo]

theorem dqDqSaSetCalCodeRegIf_eq (msr : WddrMsr) (rank bit : Nat) (saIndex : SensampIndex)
    (code : Nat) :
    dqDqSaSetCalCodeRegIf msr rank bit saIndex code =
      modifyReg (saCfg msr rank bit) (saIndex.codeWord code) := rfl

theorem SaConfined.set (code : Nat) (dqReg : DqRegs) :
    SaConfined bit saIndex dqReg (dqDqSaSetCalCodeRegIf .msr0 0 bit saIndex code dqReg) := by
  rw [dqDqSaSetCalCodeRegIf_eq]
  constructor
  · intro reg other
    rw [modifyReg_apply, if_neg other]
  · rw [modifyReg_apply, if_pos rfl]
    exact saIndex.sameUpTo_codeWord code _

variable {status : SaComparator}

theorem SaConfined.searchUp (fuel calCode : Nat) (dqReg : DqRegs) :
    SaConfined bit saIndex dqReg
      (WavLpddr.searchUp status bit saIndex fuel calCode dqReg).2 := by
  induction fuel generalizing calCode dqReg with
  | zero => exact .refl dqReg
  | succ fuel inductionHypothesis =>
      have here : SaConfined bit saIndex dqReg _ := .set calCode dqReg
      unfold WavLpddr.searchUp
      dsimp only
      split
      · exact here
      · split
        · exact here
        · split
          · exact here
          · exact here.trans (inductionHypothesis (calCode + 1) _)

theorem SaConfined.searchDown (calCode : Nat) (dqReg : DqRegs) :
    SaConfined bit saIndex dqReg
      (WavLpddr.searchDown status bit saIndex calCode dqReg).2 := by
  induction calCode generalizing dqReg with
  | zero =>
      unfold WavLpddr.searchDown
      dsimp only
      split
      · exact .set 0 dqReg
      · exact .set 0 dqReg
  | succ calCode inductionHypothesis =>
      have here : SaConfined bit saIndex dqReg _ := .set (calCode + 1) dqReg
      unfold WavLpddr.searchDown
      dsimp only
      split
      · exact here
      · split
        · exact here
        · exact here.trans (inductionHypothesis _)

/-- After a calibration the register of the slice holds at most the amplifier under test. -/
theorem calibrateSa_confined (status : SaComparator) (dqReg : DqRegs) :
    SaConfined bit saIndex (dqDqSaClearCalCodeRegIf .msr0 0 bit dqReg)
      (calibrateSa status bit saIndex dqReg).2 := by
  unfold calibrateSa
  dsimp only
  have upward : SaConfined bit saIndex _ (searchUp status bit saIndex _ _ _).2 :=
    .searchUp (wavSaMaxCalCode + 1) wavSaMinCalCode (dqDqSaClearCalCodeRegIf .msr0 0 bit dqReg)
  split
  · rename_i found
    rw [found] at upward
    exact upward
  · rename_i codeUp upRegs found
    rw [found] at upward
    have downward : SaConfined bit saIndex _ (searchDown status bit saIndex _ _).2 :=
      .searchDown wavSaMaxCalCode upRegs
    split
    · rename_i foundDown
      rw [foundDown] at downward
      exact upward.trans downward
    · rename_i foundDown
      rw [foundDown] at downward
      exact upward.trans downward

theorem updateSa_saCfg (bit : Nat) (saIndex : SensampIndex) (code : Nat) (dqReg : DqRegs)
    (msr : WddrMsr) {rank : Nat} (inside : rank < wddrPhyRank) :
    updateSa bit saIndex code dqReg (saCfg msr rank bit) =
      saIndex.codeWord code (dqReg (saCfg msr rank bit)) := by
  have two : wddrPhyRank = 1 + 1 := rfl
  have ranks : rank = 0 ∨ rank = 1 := by omega
  simp only [updateSa, two, forRange_succ, forRange_zero, dqDqSaSetCalCodeRegIf_eq]
  rcases ranks with rfl | rfl <;> cases msr <;>
    simp [modifyReg_apply, WddrMsr.index]

theorem updateSa_of_ne {bit : Nat} {reg : ArrayReg DqRegName}
    (other : ∀ msr rank, reg ≠ saCfg msr rank bit) (saIndex : SensampIndex) (code : Nat)
    (dqReg : DqRegs) : updateSa bit saIndex code dqReg reg = dqReg reg :=
  forRange_observe (fun regs : DqRegs => regs reg)
    (fun rank regs => by
      simp only [dqDqSaSetCalCodeRegIf_eq, modifyReg_apply, if_neg (other _ rank)]) dqReg

theorem codeOf_updateSa (bit : Nat) (saIndex : SensampIndex) {code : Nat}
    (inside : code ≤ wavSaMaxCalCode) (dqReg : DqRegs) (msr : WddrMsr) {rank : Nat}
    (inRanks : rank < wddrPhyRank) :
    saIndex.codeOf (updateSa bit saIndex code dqReg (saCfg msr rank bit)) = code := by
  rw [updateSa_saCfg bit saIndex code dqReg msr inRanks, saIndex.codeOf_codeWord inside]

theorem codeOf_updateSa_of_ne (bit : Nat) {saIndex other : SensampIndex}
    (different : other ≠ saIndex) (code : Nat) (dqReg : DqRegs) (msr : WddrMsr) {rank : Nat}
    (inRanks : rank < wddrPhyRank) :
    other.codeOf (updateSa bit saIndex code dqReg (saCfg msr rank bit)) =
      other.codeOf (dqReg (saCfg msr rank bit)) := by
  rw [updateSa_saCfg bit saIndex code dqReg msr inRanks]
  exact (SensampIndex.codeOf_eq_of_sameUpTo different
    (saIndex.sameUpTo_codeWord code (dqReg (saCfg msr rank bit)))).symm

end Registers

end WavLpddr
