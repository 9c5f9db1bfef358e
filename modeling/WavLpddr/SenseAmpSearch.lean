import WavLpddr.Lib.Loops
import WavLpddr.SenseAmpTable

/-!
# Sense-amplifier calibration for any comparator

The searches for one amplifier run over eight-bit codes.  Neither counter leaves the range of
codes: the upward loop returns at the last code, and at code zero the downward one returns
before its counter is decreased.  Over a byte the table gets the averages of all pairs before
the first one whose comparator is not accepted.
-/

namespace WavLpddr

open Extremes

variable [KernelIo]

section Turns

variable (status : SaComparator) (bit : Nat) (saIndex : SensampIndex)

/-- A turn of the upward loop. -/
def searchUpTurn (state : BitVec 8 × DqRegs) :
    (BitVec 8 × DqRegs) ⊕ (Option (BitVec 8) × DqRegs) :=
  let (calCode, dqReg) := state
  if calCode.toNat ≤ wavSaMaxCalCode then
    let dqReg := dqDqSaSetCalCodeRegIf .msr0 0 bit saIndex calCode.toNat dqReg
    let val := status .up calCode.toNat
    if calCode.toNat = wavSaMinCalCode ∧ val = false then .inr (none, dqReg)
    else if calCode.toNat = wavSaMaxCalCode ∧ val = true then .inr (none, dqReg)
    else if val = false then .inr (some calCode, dqReg)
    else .inl (calCode + 1, dqReg)
  else .inr (some calCode, dqReg)

/-- A turn of the downward loop, which compares its counter before it decreases it. -/
def searchDownTurn (state : BitVec 8 × DqRegs) :
    (BitVec 8 × DqRegs) ⊕ (Option (BitVec 8) × DqRegs) :=
  let (calCode, dqReg) := state
  let dqReg := dqDqSaSetCalCodeRegIf .msr0 0 bit saIndex calCode.toNat dqReg
  let val := status .down calCode.toNat
  if calCode.toNat = wavSaMinCalCode ∧ val = false then .inr (none, dqReg)
  else if calCode.toNat = wavSaMaxCalCode ∧ val = true then .inr (none, dqReg)
  else if val = true then .inr (some calCode, dqReg)
  else if wavSaMinCalCode < calCode.toNat then .inl (calCode - 1, dqReg)
  else .inr (some (calCode - 1), dqReg)

/-- The upward loop ends with what the search gives, so its counter does not wrap. -/
theorem leaves_searchUp (fuel : Nat) (calCode : BitVec 8)
    (within : calCode.toNat + fuel = wavSaMaxCalCode + 1) (dqReg : DqRegs) :
    ∃ found : Option (BitVec 8),
      found.map BitVec.toNat = (searchUp status bit saIndex fuel calCode.toNat dqReg).1 ∧
      Loops.Leaves (searchUpTurn status bit saIndex) (calCode, dqReg)
        (found, (searchUp status bit saIndex fuel calCode.toNat dqReg).2) := by
  have last : wavSaMaxCalCode = 31 := rfl
  induction fuel generalizing calCode dqReg with
  | zero =>
      refine ⟨some calCode, rfl, Loops.Leaves.exit ?_⟩
      exact if_neg (by omega)
  | succ fuel inductionHypothesis =>
      have inRange : calCode.toNat ≤ wavSaMaxCalCode := by omega
      unfold searchUp
      dsimp only
      split
      · rename_i refused
        refine ⟨none, rfl, Loops.Leaves.exit ?_⟩
        exact (if_pos inRange).trans (if_pos refused)
      · rename_i notFirst
        split
        · rename_i refused
          refine ⟨none, rfl, Loops.Leaves.exit ?_⟩
          exact (if_pos inRange).trans ((if_neg notFirst).trans (if_pos refused))
        · rename_i notLast
          split
          · rename_i low
            refine ⟨some calCode, rfl, Loops.Leaves.exit ?_⟩
            exact (if_pos inRange).trans
              ((if_neg notFirst).trans ((if_neg notLast).trans (if_pos low)))
          · rename_i high
            have advanced : (calCode + 1).toNat = calCode.toNat + 1 := by
              bv_omega
            obtain ⟨found, same, leaves⟩ := inductionHypothesis (calCode + 1) (by omega)
              (dqDqSaSetCalCodeRegIf .msr0 0 bit saIndex calCode.toNat dqReg)
            rw [advanced] at same leaves
            refine ⟨found, same, Loops.Leaves.turn ?_ leaves⟩
            exact (if_pos inRange).trans
              ((if_neg notFirst).trans ((if_neg notLast).trans (if_neg high)))

/-- The downward loop ends with what the search gives: at code zero it returns before the
counter is decreased. -/
theorem leaves_searchDown (calCode : BitVec 8) (dqReg : DqRegs) :
    ∃ found : Option (BitVec 8),
      found.map BitVec.toNat = (searchDown status bit saIndex calCode.toNat dqReg).1 ∧
      Loops.Leaves (searchDownTurn status bit saIndex) (calCode, dqReg)
        (found, (searchDown status bit saIndex calCode.toNat dqReg).2) := by
  generalize isCode : calCode.toNat = code
  induction code generalizing calCode dqReg with
  | zero =>
      cases reading : status .down 0 with
      | false =>
          refine ⟨none, by simp [searchDown, reading], Loops.Leaves.exit ?_⟩
          simp [searchDownTurn, searchDown, isCode, reading, wavSaMinCalCode]
      | true =>
          refine ⟨some calCode, by simp [searchDown, reading, isCode], Loops.Leaves.exit ?_⟩
          simp [searchDownTurn, searchDown, isCode, reading, wavSaMinCalCode, wavSaMaxCalCode]
  | succ code inductionHypothesis =>
      have notFirst : ¬ (code + 1 = wavSaMinCalCode ∧ status .down (code + 1) = false) :=
        fun first => absurd first.1 (Nat.succ_ne_zero code)
      have turn := searchDownTurn.eq_1 status bit saIndex calCode dqReg
      simp only [isCode, if_neg notFirst] at turn
      unfold searchDown
      dsimp only
      split
      · rename_i refused
        exact ⟨none, rfl, Loops.Leaves.exit (turn.trans (if_pos refused))⟩
      · rename_i notLast
        rw [if_neg notLast] at turn
        split
        · rename_i high
          refine ⟨some calCode, congrArg some isCode, Loops.Leaves.exit ?_⟩
          exact turn.trans (if_pos high)
        · rename_i low
          have more : wavSaMinCalCode < code + 1 := Nat.succ_pos code
          rw [if_neg low, if_pos more] at turn
          have decreased : (calCode - 1).toNat = code := by
            bv_omega
          obtain ⟨found, same, leaves⟩ := inductionHypothesis (calCode - 1)
            (dqDqSaSetCalCodeRegIf .msr0 0 bit saIndex (code + 1) dqReg) decreased
          exact ⟨found, same, Loops.Leaves.turn turn leaves⟩

end Turns

/-- The comparator of an amplifier whose reading depends on the code only, as both searches see
it. -/
def readsCode (reading : Nat → Bool) : SaComparator := fun _ code => reading code

/-- Both loops over machine codes end with what the searches over unbounded codes give. -/
def SearchesEnd (status : SaComparator) (bit : Nat) (saIndex : SensampIndex) (dqReg : DqRegs) :
    Prop :=
  (∃ found : Option (BitVec 8),
    found.map BitVec.toNat =
      (searchUp status bit saIndex (wavSaMaxCalCode + 1) wavSaMinCalCode dqReg).1 ∧
    Loops.Leaves (searchUpTurn status bit saIndex) (0, dqReg)
      (found, (searchUp status bit saIndex (wavSaMaxCalCode + 1) wavSaMinCalCode dqReg).2)) ∧
  ∃ found : Option (BitVec 8),
    found.map BitVec.toNat = (searchDown status bit saIndex wavSaMaxCalCode dqReg).1 ∧
    Loops.Leaves (searchDownTurn status bit saIndex) (31, dqReg)
      (found, (searchDown status bit saIndex wavSaMaxCalCode dqReg).2)

theorem searchesEnd (status : SaComparator) (bit : Nat) (saIndex : SensampIndex)
    (dqReg : DqRegs) : SearchesEnd status bit saIndex dqReg :=
  ⟨leaves_searchUp status bit saIndex (wavSaMaxCalCode + 1) 0 rfl dqReg,
    leaves_searchDown status bit saIndex 31 dqReg⟩

section Byte

variable (reading : Nat → SensampIndex → Nat → Bool)

/-- The amplifiers of a byte, in the order in which they are calibrated. -/
def dqbyteAmplifiers : List (Nat × SensampIndex) :=
  (List.range wddrPhyDqSliceNum).flatMap fun bit => SensampIndex.ddr.map (bit, ·)

omit [KernelIo] in
/-- Between a first reading of one and a last reading of zero both searches stop. -/
theorem accepted_readsCode_iff (reading : Nat → Bool) :
    (readsCode reading).Accepted ↔
      reading wavSaMinCalCode = true ∧ reading wavSaMaxCalCode = false := by
  unfold SaComparator.Accepted readsCode
  constructor
  · rintro ⟨first, -, -, last⟩
    exact ⟨first, last⟩
  · rintro ⟨first, last⟩
    exact ⟨first, ⟨wavSaMaxCalCode, Nat.le_refl _, last⟩,
      ⟨wavSaMinCalCode, Nat.zero_le _, first⟩, last⟩

/-- The entry of an amplifier in the table. -/
def tableCode (state : SensampByte) (amplifier : Nat × SensampIndex) : BitVec 8 :=
  state.1 amplifier.1 amplifier.2.index

/-- The average of the least code that reads zero and the last one that reads one. -/
def IsAverage (reading : Nat → Bool) (code : BitVec 8) : Prop :=
  ∃ codeUp codeDown, IsLeast {code | reading code = false} codeUp ∧
    IsGreatest {code | code ≤ wavSaMaxCalCode ∧ reading code = true} codeDown ∧
    code.toNat = (codeUp + codeDown) / 2

omit [KernelIo] in
theorem SensampIndex.index_injective : Function.Injective SensampIndex.index := by
  intro first second
  cases first <;> cases second <;> simp [SensampIndex.index]

variable {status : Nat → SensampIndex → SaComparator} {bit : Nat} {saIndex : SensampIndex}

omit [KernelIo] in
/-- The average of where the two searches stop is a code. -/
theorem isAverage_of_stops {reading : Nat → Bool} {codeUp codeDown : Nat}
    (stops : (readsCode reading).Stops codeUp codeDown) :
    IsAverage reading (BitVec.ofNat 8 ((codeDown + codeUp) / 2)) ∧
      (BitVec.ofNat 8 ((codeDown + codeUp) / 2)).toNat ≤ wavSaMaxCalCode := by
  have inside := stops.average_le
  have last : wavSaMaxCalCode = 31 := rfl
  have value : (BitVec.ofNat 8 ((codeDown + codeUp) / 2)).toNat = (codeUp + codeDown) / 2 := by
    rw [BitVec.toNat_ofNat, Nat.mod_eq_of_lt (by omega), Nat.add_comm]
  refine ⟨⟨codeUp, codeDown, stops.up, stops.down, value⟩, ?_⟩
  rw [value, Nat.add_comm]
  exact inside

omit [KernelIo] in
/-- Each amplifier that is accepted has an average of where its searches stop. -/
theorem exists_averages (reading : Nat → SensampIndex → Nat → Bool) :
    ∃ code : Nat × SensampIndex → Nat, ∀ amplifier,
      (readsCode (reading amplifier.1 amplifier.2)).Accepted → ∃ codeUp codeDown,
        (readsCode (reading amplifier.1 amplifier.2)).Stops codeUp codeDown ∧
          code amplifier = (codeDown + codeUp) / 2 := by
  have average : ∀ amplifier : Nat × SensampIndex, ∃ code : Nat,
      (readsCode (reading amplifier.1 amplifier.2)).Accepted → ∃ codeUp codeDown,
        (readsCode (reading amplifier.1 amplifier.2)).Stops codeUp codeDown ∧
          code = (codeDown + codeUp) / 2 := by
    intro amplifier
    by_cases accepted : (readsCode (reading amplifier.1 amplifier.2)).Accepted
    · obtain ⟨codeUp, codeDown, stops⟩ := accepted.stops
      exact ⟨_, fun _ => ⟨codeUp, codeDown, stops, rfl⟩⟩
    · exact ⟨0, fun holds => absurd holds accepted⟩
  choose code isAverage using average
  exact ⟨code, isAverage⟩

/-- An amplifier whose searches stop gets the average as its entry. -/
theorem sensampConfigure_accepted {codeUp codeDown : Nat}
    (stops : (status bit saIndex).Stops codeUp codeDown) (state : SensampByte) :
    (sensampConfigure status true bit saIndex state).1 = .wddrSuccess ∧
      tableCode (sensampConfigure status true bit saIndex state).2 =
        Function.update (tableCode state) (bit, saIndex)
          (BitVec.ofNat 8 ((codeDown + codeUp) / 2)) := by
  have found : (calibrateSa (status bit saIndex) bit saIndex state.2).1 =
      some ((codeDown + codeUp) / 2) :=
    (calibrateSa_eq_some state.2).mpr ⟨codeUp, codeDown, stops, rfl⟩
  unfold sensampConfigure
  rw [if_pos rfl]
  split
  · rename_i failed
    rw [failed] at found
    cases found
  · rename_i code dqReg returned
    obtain rfl : code = (codeDown + codeUp) / 2 := by
      rw [returned] at found
      exact Option.some.inj found
    refine ⟨rfl, ?_⟩
    funext ⟨otherBit, other⟩
    unfold tableCode
    by_cases sameBit : otherBit = bit
    · subst sameBit
      by_cases same : other = saIndex
      · subst same
        simp
      · have apart : other.index ≠ saIndex.index := fun equal =>
          same (SensampIndex.index_injective equal)
        simp [same, apart]
    · simp [sameBit]

/-- An amplifier whose comparator is not accepted fails, and the table stays as it is. -/
theorem sensampConfigure_refused (refused : ¬ (status bit saIndex).Accepted)
    (state : SensampByte) :
    (sensampConfigure status true bit saIndex state).1 = .wddrError ∧
      tableCode (sensampConfigure status true bit saIndex state).2 = tableCode state := by
  unfold sensampConfigure
  rw [if_pos rfl]
  split
  · exact ⟨rfl, rfl⟩
  · rename_i code dqReg returned
    obtain ⟨codeUp, codeDown, stops, -⟩ :=
      (calibrateSa_eq_some state.2).mp (congrArg Prod.fst returned)
    exact absurd stops.accepted refused

/-- Calibrating a byte ends for every comparator, without a wrap of a code.  The amplifiers
before the first one whose end codes do not read one and zero get the average of where their
searches stop, no other entry changes, and success means that there is no such amplifier. -/
theorem sensampDqbyteConfigure_spec (state : SensampByte) :
    let status := fun bit saIndex => readsCode (reading bit saIndex)
    let result := sensampDqbyteConfigure status true state
    let passes := fun amplifier : Nat × SensampIndex =>
      reading amplifier.1 amplifier.2 wavSaMinCalCode = true ∧
        reading amplifier.1 amplifier.2 wavSaMaxCalCode = false
    (∀ bit saIndex dqReg, SearchesEnd (status bit saIndex) bit saIndex dqReg) ∧
      (result.1 = .wddrSuccess ↔ ∀ amplifier ∈ dqbyteAmplifiers, passes amplifier) ∧
      (result.1 = .wddrSuccess ∨ result.1 = .wddrError) ∧
      ∃ earlier later, dqbyteAmplifiers = earlier ++ later ∧
        (result.1 = .wddrSuccess ↔ later = []) ∧
        (∀ passing ∈ earlier, passes passing) ∧
        (∀ failing ∈ later.head?, ¬ passes failing) ∧
        (∀ amplifier ∈ earlier,
          IsAverage (reading amplifier.1 amplifier.2) (tableCode result.2 amplifier) ∧
            (tableCode result.2 amplifier).toNat ≤ wavSaMaxCalCode) ∧
        ∀ amplifier ∉ earlier, tableCode result.2 amplifier = tableCode state amplifier := by
  intro status result passes
  have accepts : ∀ amplifier : Nat × SensampIndex,
      (status amplifier.1 amplifier.2).Accepted ↔ passes amplifier :=
    fun amplifier => accepted_readsCode_iff (reading amplifier.1 amplifier.2)
  obtain ⟨code, isAverage⟩ := exists_averages reading
  let turn := fun amplifier : Nat × SensampIndex =>
    sensampConfigure status true amplifier.1 amplifier.2
  have run : result = propagateErrors turn dqbyteAmplifiers state := rfl
  have accepted : ∀ amplifier before, passes amplifier →
      (turn amplifier before).1 = .wddrSuccess ∧
        tableCode (turn amplifier before).2 =
          Function.update (tableCode before) amplifier (BitVec.ofNat 8 (code amplifier)) := by
    intro amplifier before passed
    obtain ⟨codeUp, codeDown, stops, same⟩ := isAverage amplifier ((accepts amplifier).mpr passed)
    rw [same]
    exact sensampConfigure_accepted stops before
  have refused : ∀ amplifier before, ¬ passes amplifier →
      (turn amplifier before).1 = .wddrError ∧
        tableCode (turn amplifier before).2 = tableCode before :=
    fun amplifier before failed =>
      sensampConfigure_refused (mt (accepts amplifier).mp failed) before
  obtain ⟨success, earlier, later, split, passing, failing, complete, entries⟩ :=
    propagateErrors_updates tableCode (fun amplifier => BitVec.ofNat 8 (code amplifier)) accepted
      (fun amplifier before failed => by
        obtain ⟨error, kept⟩ := refused amplifier before failed
        exact ⟨by simp [error], kept⟩)
      dqbyteAmplifiers state
  refine ⟨fun bit saIndex dqReg => searchesEnd (status bit saIndex) bit saIndex dqReg,
    success, ?_, earlier, later, split, complete, passing, failing, ?_, ?_⟩
  · by_cases succeeded : result.1 = .wddrSuccess
    · exact Or.inl succeeded
    · obtain ⟨amplifier, -, before, stopped⟩ :=
        exists_failing_of_propagateErrors succeeded run.symm
      have failed : ¬ passes amplifier := by
        intro passed
        have passing := (accepted amplifier before passed).1
        rw [stopped] at passing
        exact succeeded passing
      have error := (refused amplifier before failed).1
      rw [stopped] at error
      exact Or.inr error
  · intro amplifier calibrated
    obtain ⟨codeUp, codeDown, stops, same⟩ :=
      isAverage amplifier ((accepts amplifier).mpr (passing amplifier calibrated))
    have entry : tableCode result.2 amplifier = BitVec.ofNat 8 ((codeDown + codeUp) / 2) := by
      rw [← same]
      exact (entries amplifier).trans (if_pos calibrated)
    rw [entry]
    exact isAverage_of_stops stops
  · intro amplifier notCalibrated
    exact (entries amplifier).trans (if_neg notCalibrated)

end Byte

end WavLpddr
