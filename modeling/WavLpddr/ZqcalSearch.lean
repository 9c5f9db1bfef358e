import WavLpddr.Cmn
import WavLpddr.Lib.Extremes
import WavLpddr.Lib.Loops

/-!
# Impedance calibration

Each search goes up from the lowest code until the comparator reads zero or the codes are
exhausted.  A level whose two codes lie strictly between the ends gets both; at the first level
that fails the calibration stops, and the calibration is switched off in any case.
-/

namespace WavLpddr

open RegisterFile Extremes

variable [KernelIo]

section Search

variable (output : Nat → Bool) (mode : ZqcalMode)

/-- A turn of the loop of `zqcal_calibrate_common`; the code that is kept lags behind the one
that is tested next. -/
def zqcalTurn (maxCode : BitVec 8) (state : BitVec 8 × CmnRegs) :
    (BitVec 8 × CmnRegs) ⊕ (BitVec 8 × CmnRegs) :=
  let (tmpCode, cmnReg) := state
  let cmnReg := cmnZqcalSetCodeRegIf mode tmpCode.toNat cmnReg
  let zqval := output tmpCode.toNat
  let code := tmpCode
  let tmpCode := tmpCode + 1
  if zqval = true ∧ tmpCode ≤ maxCode then .inl (tmpCode, cmnReg) else .inr (code, cmnReg)

/-- The code at which the search stops: the least one with output zero, or the last one. -/
theorem zqcalSearch_isLeast (fuel code : Nat) (cmnReg : CmnRegs) :
    IsLeast {tested | code ≤ tested ∧ (output tested = false ∨ tested = code + fuel)}
      (zqcalSearch output mode fuel code cmnReg).1 := by
  induction fuel generalizing code cmnReg with
  | zero => exact (isLeast_of_holds (Or.inr rfl)).mpr rfl
  | succ fuel inductionHypothesis =>
      cases reading : output code with
      | false =>
          rw [isLeast_of_holds (Or.inl reading)]
          simp [zqcalSearch, reading]
      | true =>
          have notHere : ¬ (output code = false ∨ code = code + (fuel + 1)) := by
            simp [reading]
          have rest := inductionHypothesis (code + 1) (cmnZqcalSetCodeRegIf mode code cmnReg)
          rw [Nat.add_assoc, Nat.add_comm 1 fuel] at rest
          rw [isLeast_succ notHere]
          simpa [zqcalSearch, reading] using rest

/-- The loop over machine codes ends with what the search gives. -/
theorem leaves_zqcalSearch {maxCode : BitVec 8} (fits : maxCode.toNat < 255) (fuel : Nat)
    (code : BitVec 8) (within : code.toNat + fuel = maxCode.toNat) (cmnReg : CmnRegs) :
    ∃ found, found.toNat = (zqcalSearch output mode fuel code.toNat cmnReg).1 ∧
      Loops.Leaves (zqcalTurn output mode maxCode) (code, cmnReg)
        (found, (zqcalSearch output mode fuel code.toNat cmnReg).2) := by
  have advanced : (code + 1).toNat = code.toNat + 1 := by
    bv_omega
  induction fuel generalizing code cmnReg with
  | zero =>
      refine ⟨code, rfl, Loops.Leaves.exit ?_⟩
      have last : ¬ code + 1 ≤ maxCode := by
        rw [BitVec.le_def, advanced]
        omega
      exact if_neg fun more => last more.2
  | succ fuel inductionHypothesis =>
      cases reading : output code.toNat with
      | false =>
          have low : ¬ output code.toNat = true := by simp [reading]
          refine ⟨code, by simp [zqcalSearch, reading], Loops.Leaves.exit ?_⟩
          refine (if_neg fun more => low more.1).trans ?_
          simp [zqcalSearch, reading]
      | true =>
          have more : code + 1 ≤ maxCode := by
            rw [BitVec.le_def, advanced]
            omega
          obtain ⟨found, same, leaves⟩ := inductionHypothesis (code + 1) (by omega)
            (cmnZqcalSetCodeRegIf mode code.toNat cmnReg) (by bv_omega)
          rw [advanced] at same leaves
          refine ⟨found, by simpa [zqcalSearch, reading] using same,
            Loops.Leaves.turn (if_pos ⟨reading, more⟩) ?_⟩
          simpa [zqcalSearch, reading] using leaves

end Search

/-- The last code of a mode. -/
def zqcalCodeMax : ZqcalMode → Nat
  | .pullUp => zqcalPcalCodeMax
  | .pullDown => zqcalNcalCodeMax

/-- The codes that a calibration searches: the least one with output zero, or the last one. -/
def ZqcalSearched (comparator : ZqcalComparator) (code : ZqcalVoh → ZqcalMode → Nat) : Prop :=
  ∀ voh mode, IsLeast {tested | comparator voh mode tested = false ∨ tested = zqcalCodeMax mode}
    (code voh mode)

/-- Both codes of a level lie strictly between the ends. -/
def ZqcalInside (code : ZqcalMode → Nat) : Prop :=
  ∀ mode, 0 < code mode ∧ code mode < zqcalCodeMax mode

/-- The table entries of a level. -/
def zqcalEntry (code : ZqcalMode → Nat) : PnCal → BitVec 8
  | .pCal => BitVec.ofNat 8 (code .pullUp)
  | .nCal => BitVec.ofNat 8 (code .pullDown)

section Calibrate

variable {comparator : ZqcalComparator} {code : ZqcalVoh → ZqcalMode → Nat}

omit [KernelIo] in
theorem exists_zqcalSearched (comparator : ZqcalComparator) :
    ∃ code, ZqcalSearched comparator code := by
  let := referencePlatform.toKernelIo
  refine ⟨fun voh mode => (zqcalSearch (comparator voh mode) mode (zqcalCodeMax mode) 0
    fun _ => 0).1, fun voh mode => ?_⟩
  simpa using zqcalSearch_isLeast (comparator voh mode) mode (zqcalCodeMax mode) 0 fun _ => 0

/-- Every search finds the code of its level and mode, whatever the registers hold. -/
theorem zqcalCalibrateCommon_fst (searched : ZqcalSearched comparator code) (voh : ZqcalVoh)
    (mode : ZqcalMode) (cmnReg : CmnRegs) :
    (zqcalCalibrateCommon (comparator voh mode) mode (zqcalCodeMax mode) 0 cmnReg).1 =
      code voh mode := by
  have least := zqcalSearch_isLeast (comparator voh mode) mode (zqcalCodeMax mode) 0
    (cmnZqcalSetModeRegIf mode cmnReg)
  simp only [Nat.zero_le, Nat.zero_add, true_and] at least
  exact least.unique (searched voh mode)

/-- The loop of each search ends with the code of its level and mode. -/
theorem leaves_zqcalCalibrateCommon (searched : ZqcalSearched comparator code) (voh : ZqcalVoh)
    (mode : ZqcalMode) (cmnReg : CmnRegs) :
    Loops.Leaves (zqcalTurn (comparator voh mode) mode (BitVec.ofNat 8 (zqcalCodeMax mode)))
      (0, cmnZqcalSetModeRegIf mode cmnReg)
      (BitVec.ofNat 8 (code voh mode), (zqcalCalibrateCommon (comparator voh mode) mode
        (zqcalCodeMax mode) 0 cmnReg).2) := by
  have fits : (BitVec.ofNat 8 (zqcalCodeMax mode)).toNat < 255 := by
    cases mode <;> decide
  have within : (0 : BitVec 8).toNat + zqcalCodeMax mode =
      (BitVec.ofNat 8 (zqcalCodeMax mode)).toNat := by
    cases mode <;> decide
  obtain ⟨found, same, leaves⟩ := leaves_zqcalSearch (comparator voh mode) mode fits
    (zqcalCodeMax mode) 0 within (cmnZqcalSetModeRegIf mode cmnReg)
  have value : found.toNat = code voh mode :=
    same.trans (zqcalCalibrateCommon_fst searched voh mode cmnReg)
  rw [← value, BitVec.ofNat_toNat, BitVec.setWidth_eq]
  exact leaves

/-- A level with both codes inside the ends gets both. -/
theorem zqcalCalibrateVoh_accepted (searched : ZqcalSearched comparator code) {voh : ZqcalVoh}
    (inside : ZqcalInside (code voh)) (state : ZqcalState) :
    (zqcalCalibrateVoh comparator voh state).1 = .wddrSuccess ∧
      (zqcalCalibrateVoh comparator voh state).2.1 =
        Function.update state.1 voh (zqcalEntry (code voh)) := by
  have nCode := zqcalCalibrateCommon_fst searched voh .pullDown
  have pCode := zqcalCalibrateCommon_fst searched voh .pullUp
  have nInside := inside .pullDown
  have pInside := inside .pullUp
  simp only [zqcalCodeMax] at nCode pCode nInside pInside
  have entry : Function.update (Function.update (state.1 voh) .nCal
      (BitVec.ofNat 8 (code voh .pullDown))) .pCal (BitVec.ofNat 8 (code voh .pullUp)) =
        zqcalEntry (code voh) := by
    funext pn
    cases pn <;> rfl
  simp only [zqcalCalibrateVoh, zqcalNcalCodeMin, zqcalPcalCodeMin, nCode, pCode,
    nInside.1.ne', nInside.2.ne, pInside.1.ne', pInside.2.ne, if_false, entry, and_self]

/-- A level with a code at an end fails, and the table stays as it is. -/
theorem zqcalCalibrateVoh_refused (searched : ZqcalSearched comparator code) {voh : ZqcalVoh}
    (outside : ¬ ZqcalInside (code voh)) (state : ZqcalState) :
    (zqcalCalibrateVoh comparator voh state).1 ≠ .wddrSuccess ∧
      (zqcalCalibrateVoh comparator voh state).2.1 = state.1 := by
  have nCode := zqcalCalibrateCommon_fst searched voh .pullDown
  have pCode := zqcalCalibrateCommon_fst searched voh .pullUp
  have nLast := (searched voh .pullDown).2 (Or.inr rfl)
  have pLast := (searched voh .pullUp).2 (Or.inr rfl)
  simp only [zqcalCodeMax] at nCode pCode nLast pLast
  simp only [zqcalCalibrateVoh, zqcalNcalCodeMin, zqcalPcalCodeMin, nCode, pCode]
  -- one of the four comparisons with an end code holds
  split
  · simp
  · split
    · simp
    · split
      · simp
      · split
        · simp
        · refine absurd (fun mode => ?_) outside
          cases mode <;> simp only [zqcalCodeMax] <;> omega

/-- The calibration ends for every comparator.  Each code searched is the least one with output
zero, or the last one; the levels before the first one with a code at an end get both of their
codes, no other entry changes, success means that there is no such level, and the calibration
is off afterwards. -/
theorem cmnZqcalCalibrate_spec (comparator : ZqcalComparator) (state : ZqcalState) :
    ∃ code, ZqcalSearched comparator code ∧
      (∀ voh mode cmnReg,
        Loops.Leaves (zqcalTurn (comparator voh mode) mode (BitVec.ofNat 8 (zqcalCodeMax mode)))
          (0, cmnZqcalSetModeRegIf mode cmnReg)
          (BitVec.ofNat 8 (code voh mode), (zqcalCalibrateCommon (comparator voh mode) mode
            (zqcalCodeMax mode) 0 cmnReg).2)) ∧
      let result := cmnZqcalCalibrate comparator state
      (result.1 = .wddrSuccess ↔ ∀ voh, ZqcalInside (code voh)) ∧
        (∃ earlier later, [.voh0p5, .voh0p6] = earlier ++ later ∧
          (result.1 = .wddrSuccess ↔ later = []) ∧
          (∀ passing ∈ earlier, ZqcalInside (code passing)) ∧
          (∀ failing ∈ later.head?, ¬ ZqcalInside (code failing)) ∧
          ∀ voh, result.2.1 voh =
            if voh ∈ earlier then zqcalEntry (code voh) else state.1 voh) ∧
        getRegField (result.2.2 ⟨.ddrCmnZqcalCfg, []⟩) ddrCmnZqcalCfgCalEn = 0 := by
  obtain ⟨code, searched⟩ := exists_zqcalSearched comparator
  refine ⟨code, searched, leaves_zqcalCalibrateCommon searched, ?_⟩
  obtain ⟨success, earlier, later, split, passing, failing, complete, entries⟩ :=
    propagateErrors_updates (fun state : ZqcalState => state.1) (fun voh => zqcalEntry (code voh))
      (fun voh state inside => zqcalCalibrateVoh_accepted searched inside state)
      (fun voh state outside => zqcalCalibrateVoh_refused searched outside state)
      [.voh0p5, .voh0p6] (state.1, cmnZqcalSetStateRegIf true state.2)
  refine ⟨success.trans ⟨fun inside voh => inside voh ?_, fun inside voh _ => inside voh⟩,
    ⟨earlier, later, split, complete, passing, failing, entries⟩, ?_⟩
  · cases voh <;> simp
  · simp only [cmnZqcalCalibrate, cmnZqcalSetStateRegIf, cmnZqcalSetRegIf, modifyReg, write_self]
    exact getRegField_updateRegField _ _ _ (by decide)

end Calibrate

end WavLpddr
