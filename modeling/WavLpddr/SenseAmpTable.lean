import WavLpddr.SenseAmp

/-!
# Sense-amplifier registers and the table

The calibration of an amplifier clears the register that it shares with the other
amplifier of its slice, in bank 0 of rank 0.  The code of the first amplifier,
already written, survives there only when it is the code of a cleared register.
-/

namespace WavLpddr

open RegisterFile BitFields

section Slices

/-- The update changes the registers and the codes of one slice only. -/
structure SliceFrame (bit : Nat) (before after : SensampByte) : Prop where
  data : ∀ other, other ≠ bit → after.1 other = before.1 other
  regs : ∀ reg, (∀ msr rank, reg ≠ saCfg msr rank bit) → after.2 reg = before.2 reg

theorem SliceFrame.refl (bit : Nat) (state : SensampByte) : SliceFrame bit state state :=
  ⟨fun _ _ => rfl, fun _ _ => rfl⟩

theorem SliceFrame.trans {bit : Nat} {first second third : SensampByte}
    (earlier : SliceFrame bit first second) (later : SliceFrame bit second third) :
    SliceFrame bit first third :=
  ⟨fun other different => (later.data other different).trans (earlier.data other different),
    fun reg different => (later.regs reg different).trans (earlier.regs reg different)⟩

variable [KernelIo] {status : Nat → SensampIndex → SaComparator} {calibrate : Bool}
  {bit : Nat} {saIndex : SensampIndex} {state after : SensampByte}

theorem calibrateSa_of_ne (comparator : SaComparator) (saIndex : SensampIndex)
    {reg : ArrayReg DqRegName} (other : ∀ msr rank, reg ≠ saCfg msr rank bit)
    (dqReg : DqRegs) : (calibrateSa comparator bit saIndex dqReg).2 reg = dqReg reg :=
  ((calibrateSa_confined comparator dqReg).others reg (other .msr0 0)).trans
    (write_of_ne (other .msr0 0) 0 dqReg)

theorem sensampConfigure_frame (status : Nat → SensampIndex → SaComparator)
    (calibrate : Bool) (bit : Nat) (saIndex : SensampIndex) (state : SensampByte) :
    SliceFrame bit state (sensampConfigure status calibrate bit saIndex state).2 := by
  unfold sensampConfigure
  split
  · split
    · rename_i dqReg failed
      refine ⟨fun _ _ => rfl, fun reg other => ?_⟩
      have kept := calibrateSa_of_ne (status bit saIndex) saIndex other state.2
      rw [failed] at kept
      exact kept
    · rename_i code dqReg found
      constructor
      · exact fun other different => Function.update_of_ne different _ _
      · intro reg other
        have kept := calibrateSa_of_ne (status bit saIndex) saIndex other state.2
        rw [found] at kept
        exact (updateSa_of_ne other saIndex _ dqReg).trans kept
  · exact ⟨fun _ _ => rfl, fun reg other => updateSa_of_ne other saIndex _ state.2⟩

/-- The turns of one slice. -/
def sliceConfigure (status : Nat → SensampIndex → SaComparator) (calibrate : Bool)
    (bit : Nat) : SensampByte → WddrReturn × SensampByte :=
  propagateErrors (sensampConfigure status calibrate bit) SensampIndex.ddr

theorem sensampDqbyteConfigure_eq (state : SensampByte) :
    sensampDqbyteConfigure status calibrate state =
      propagateErrors (sliceConfigure status calibrate) (List.range wddrPhyDqSliceNum)
        state :=
  propagateErrors_flatMap _ _ state

theorem sliceConfigure_frame {ret : WddrReturn}
    (returned : sliceConfigure status calibrate bit state = (ret, after)) :
    SliceFrame bit state after := by
  have framed : SliceFrame bit state (sliceConfigure status calibrate bit state).2 :=
    propagateErrors_induction
      (fun saIndex between framed =>
        framed.trans (sensampConfigure_frame status calibrate bit saIndex between))
      SensampIndex.ddr (.refl bit state)
  rw [returned] at framed
  exact framed

/-- A calibrated turn: the searches stop, and the average is saved and written. -/
theorem sensampConfigure_calibrated
    (returned : sensampConfigure status true bit saIndex state = (.wddrSuccess, after)) :
    ∃ codeUp codeDown searched, (status bit saIndex).Stops codeUp codeDown ∧
      SaConfined bit saIndex (dqDqSaClearCalCodeRegIf .msr0 0 bit state.2) searched ∧
      (after.1 bit saIndex.index).toNat = (codeDown + codeUp) / 2 ∧
      (∀ index, index ≠ saIndex.index → after.1 bit index = state.1 bit index) ∧
      after.2 = updateSa bit saIndex ((codeDown + codeUp) / 2) searched := by
  simp only [sensampConfigure, if_true] at returned
  split at returned
  · cases returned
  · rename_i code searched found
    have confined : SaConfined bit saIndex _ _ :=
      calibrateSa_confined (status bit saIndex) state.2
    rw [found] at confined
    obtain ⟨codeUp, codeDown, stops, rfl⟩ :=
      (calibrateSa_eq_some state.2).mp (congrArg Prod.fst found)
    cases returned
    have saved : (BitVec.ofNat 8 ((codeDown + codeUp) / 2)).toNat = (codeDown + codeUp) / 2 := by
      have inside := stops.average_le
      have last : wavSaMaxCalCode = 31 := rfl
      rw [BitVec.toNat_ofNat]
      omega
    refine ⟨codeUp, codeDown, searched, stops, confined, ?_, ?_, ?_⟩
    · simp only [Function.update_self, saved]
    · intro index different
      simp only [Function.update_self, Function.update_of_ne different]
    · simp only [Function.update_self, saved]

/-- All banks and ranks of a slice hold the codes of the table. -/
def Encoded (state : SensampByte) (bit : Nat) : Prop :=
  ∀ saIndex ∈ SensampIndex.ddr, ∀ msr rank, rank < wddrPhyRank →
    saIndex.codeOf (state.2 (saCfg msr rank bit)) = (state.1 bit saIndex.index).toNat

/-- What the calibration of another amplifier leaves of a code: bank 0 of rank 0 is
cleared. -/
theorem codeOf_searched {other : SensampIndex} (different : other ≠ saIndex)
    {dqReg searched : DqRegs}
    (confined : SaConfined bit saIndex (dqDqSaClearCalCodeRegIf .msr0 0 bit dqReg) searched)
    (msr : WddrMsr) (rank : Nat) :
    other.codeOf (searched (saCfg msr rank bit)) =
      if msr = .msr0 ∧ rank = 0 then wavSaMidCalCode - 1
      else other.codeOf (dqReg (saCfg msr rank bit)) := by
  split
  · rename_i cleared
    obtain ⟨rfl, rfl⟩ := cleared
    have kept := SensampIndex.codeOf_eq_of_sameUpTo different confined.own
    rw [← kept, dqDqSaClearCalCodeRegIf, write_self, SensampIndex.codeOf_zero]
  · rename_i notCleared
    have otherReg : saCfg msr rank bit ≠ saCfg .msr0 0 bit := by
      intro same
      cases msr <;> simp [WddrMsr.index] at same
      exact notCleared ⟨rfl, same⟩
    rw [confined.others _ otherReg, dqDqSaClearCalCodeRegIf, write_of_ne otherReg]

/-- What a calibration makes of a slice: its codes are in range, and the registers hold
them exactly when the first amplifier's average is the code of a cleared register. -/
def SliceCalibrated (status : Nat → SensampIndex → SaComparator) (bit : Nat)
    (state : SensampByte) : Prop :=
  ∃ codeUp codeDown, (status bit .sa0).Stops codeUp codeDown ∧
    (∀ saIndex ∈ SensampIndex.ddr, (state.1 bit saIndex.index).toNat ≤ wavSaMaxCalCode) ∧
    (Encoded state bit ↔ (codeDown + codeUp) / 2 = wavSaMidCalCode - 1)

/-- The second amplifier is programmed everywhere, the first one everywhere but in the
register that the second calibration cleared. -/
theorem sliceConfigure_calibrated
    (returned : sliceConfigure status true bit state = (.wddrSuccess, after)) :
    SliceCalibrated status bit after := by
  obtain ⟨between, first, later⟩ := propagateErrors_cons_success.mp returned
  obtain ⟨last, second, done⟩ := propagateErrors_cons_success.mp later
  cases done
  obtain ⟨codeUp, codeDown, searched, stops, -, saved, -, regs⟩ :=
    sensampConfigure_calibrated first
  obtain ⟨codeUp', codeDown', searched', stops', confined', saved', kept', regs'⟩ :=
    sensampConfigure_calibrated second
  have firstCode : (after.1 bit SensampIndex.sa0.index).toNat = (codeDown + codeUp) / 2 :=
    (congrArg BitVec.toNat (kept' 0 (by decide))).trans saved
  have secondHeld : ∀ msr rank, rank < wddrPhyRank →
      SensampIndex.sa180.codeOf (after.2 (saCfg msr rank bit)) =
        (after.1 bit SensampIndex.sa180.index).toNat := by
    intro msr rank inRanks
    rw [regs', saved']
    exact codeOf_updateSa bit .sa180 stops'.average_le searched' msr inRanks
  have firstHeld : ∀ msr rank, rank < wddrPhyRank →
      SensampIndex.sa0.codeOf (after.2 (saCfg msr rank bit)) =
        if msr = .msr0 ∧ rank = 0 then wavSaMidCalCode - 1 else (codeDown + codeUp) / 2 := by
    intro msr rank inRanks
    have different : SensampIndex.sa0 ≠ .sa180 := by decide
    have written := codeOf_updateSa bit .sa0 stops.average_le searched msr inRanks
    rw [regs', codeOf_updateSa_of_ne bit different _ searched' msr inRanks,
      codeOf_searched different confined' msr rank, regs, written]
  refine ⟨codeUp, codeDown, stops, ?_, ?_⟩
  · intro saIndex listed
    rcases List.mem_pair.mp listed with rfl | rfl
    · rw [firstCode]
      exact stops.average_le
    · rw [saved']
      exact stops'.average_le
  · constructor
    · intro encoded
      have here := encoded .sa0 (by decide) .msr0 0 (by decide)
      rw [firstHeld .msr0 0 (by decide), firstCode] at here
      exact here.symm
    · intro centred saIndex listed msr rank inRanks
      rcases List.mem_pair.mp listed with rfl | rfl
      · rw [firstHeld msr rank inRanks, firstCode, centred]
        exact ite_self _
      · exact secondHeld msr rank inRanks

/-- The registers of a slice hold the table's codes when these are in range. -/
def SliceProgrammed (bit : Nat) (state : SensampByte) : Prop :=
  (∀ saIndex ∈ SensampIndex.ddr, (state.1 bit saIndex.index).toNat ≤ wavSaMaxCalCode) →
    Encoded state bit

theorem sliceConfigure_programmed (state : SensampByte) :
    SliceProgrammed bit (sliceConfigure status false bit state).2 := by
  intro codes saIndex listed msr rank inRanks
  have turns : (sliceConfigure status false bit state).2 =
      (state.1, updateSa bit .sa180 (state.1 bit SensampIndex.sa180.index).toNat
        (updateSa bit .sa0 (state.1 bit SensampIndex.sa0.index).toNat state.2)) := rfl
  rw [turns] at codes ⊢
  have first := codes .sa0 (by decide)
  have second := codes .sa180 (by decide)
  rcases List.mem_pair.mp listed with rfl | rfl
  · have different : SensampIndex.sa0 ≠ .sa180 := by decide
    rw [codeOf_updateSa_of_ne bit different _ _ msr inRanks]
    exact codeOf_updateSa bit .sa0 first state.2 msr inRanks
  · exact codeOf_updateSa bit .sa180 second _ msr inRanks

end Slices

section Bytes

variable [KernelIo] {status : Nat → SensampIndex → SaComparator} {calibrate : Bool}
  {state after : SensampByte}

/-- A slice of which nothing changed holds the same codes. -/
theorem Encoded.of_frame {index bit : Nat} (different : bit ≠ index)
    (framed : SliceFrame index state after) : Encoded after bit ↔ Encoded state bit := by
  have otherReg : ∀ msr rank, after.2 (saCfg msr rank bit) = state.2 (saCfg msr rank bit) := by
    intro msr rank
    apply framed.regs
    intro other otherRank same
    cases msr <;> cases other <;> simp [WddrMsr.index] at same <;> exact different same.2
  simp only [Encoded, framed.data bit different, otherReg]

theorem sensampConfigure_success_iff (status : Nat → SensampIndex → SaComparator)
    (calibrate : Bool) (bit : Nat) (saIndex : SensampIndex) (state : SensampByte) :
    (sensampConfigure status calibrate bit saIndex state).1 = .wddrSuccess ↔
      (calibrate = true → (status bit saIndex).Accepted) := by
  cases calibrate with
  | false => simp [sensampConfigure]
  | true =>
      have found : (calibrateSa (status bit saIndex) bit saIndex state.2).1.isSome ↔
          (status bit saIndex).Accepted := by
        rw [SaComparator.accepted_iff_stops, Option.isSome_iff_exists]
        constructor
        · rintro ⟨code, returned⟩
          obtain ⟨codeUp, codeDown, stops, -⟩ := (calibrateSa_eq_some state.2).mp returned
          exact ⟨codeUp, codeDown, stops⟩
        · rintro ⟨codeUp, codeDown, stops⟩
          exact ⟨_, (calibrateSa_eq_some state.2).mpr ⟨codeUp, codeDown, stops, rfl⟩⟩
      simp only [sensampConfigure, if_true, forall_const, ← found]
      split
      · rename_i failed
        simp [failed]
      · rename_i returned
        simp [returned]

theorem sliceConfigure_success_iff (status : Nat → SensampIndex → SaComparator)
    (calibrate : Bool) (bit : Nat) (state : SensampByte) :
    (sliceConfigure status calibrate bit state).1 = .wddrSuccess ↔
      ∀ saIndex ∈ SensampIndex.ddr, calibrate = true → (status bit saIndex).Accepted :=
  propagateErrors_fst_eq_success (sensampConfigure_success_iff status calibrate bit)
    SensampIndex.ddr state

/-- A byte is configured unless a calibration does not accept a comparator. -/
theorem channelRxSaDqbyteConfigure_success_iff (status : Nat → SensampIndex → SaComparator)
    (calibrate : Bool) (state : SensampByte) :
    (channelRxSaDqbyteConfigure status calibrate state).1 = .wddrSuccess ↔
      (calibrate = true → ∀ bit, bit < wddrPhyDqSliceNum → ∀ saIndex ∈ SensampIndex.ddr,
        (status bit saIndex).Accepted) := by
  have slices := propagateErrors_fst_eq_success (sliceConfigure_success_iff status calibrate)
    (List.range wddrPhyDqSliceNum) (state.1, dqDqsSaCmnSetStateRegIf .calEnabled state.2)
  have outcome : (channelRxSaDqbyteConfigure status calibrate state).1 =
      (propagateErrors (sliceConfigure status calibrate) (List.range wddrPhyDqSliceNum)
        (state.1, dqDqsSaCmnSetStateRegIf .calEnabled state.2)).1 := by
    simp only [channelRxSaDqbyteConfigure, sensampDqbyteConfigure_eq]
    split
    · rename_i returned
      rw [returned]
    · rename_i returned
      rw [returned]
  rw [outcome, slices]
  simp only [List.mem_range]
  exact ⟨fun all calibrating bit inByte saIndex listed =>
      all bit inByte saIndex listed calibrating,
    fun all bit inByte saIndex listed calibrating =>
      all calibrating bit inByte saIndex listed⟩

theorem encoded_setState (mode : SensampState) (state : SensampByte) (bit : Nat) :
    Encoded (state.1, dqDqsSaCmnSetStateRegIf mode state.2) bit ↔ Encoded state bit := by
  have otherReg : ∀ msr rank, dqDqsSaCmnSetStateRegIf mode state.2 (saCfg msr rank bit) =
      state.2 (saCfg msr rank bit) := by
    intro msr rank
    rw [dqDqsSaCmnSetStateRegIf, modifyReg_apply, if_neg (by simp)]
  simp only [Encoded, otherReg]

/-- A successful configuration is one of the slices between two state changes. -/
theorem channelRxSaDqbyteConfigure_returned
    (returned : channelRxSaDqbyteConfigure status calibrate state = (.wddrSuccess, after)) :
    ∃ slices, propagateErrors (sliceConfigure status calibrate)
        (List.range wddrPhyDqSliceNum)
        (state.1, dqDqsSaCmnSetStateRegIf .calEnabled state.2) = (.wddrSuccess, slices) ∧
      after = (slices.1, dqDqsSaCmnSetStateRegIf .dynamic slices.2) := by
  simp only [channelRxSaDqbyteConfigure, sensampDqbyteConfigure_eq] at returned
  split at returned
  · rename_i slices configured
    cases returned
    exact ⟨slices, configured, rfl⟩
  · rename_i failed _
    cases returned
    exact absurd rfl failed

theorem channelRxSaDqbyteConfigure_calibrated
    (returned : channelRxSaDqbyteConfigure status true state = (.wddrSuccess, after))
    {bit : Nat} (inByte : bit < wddrPhyDqSliceNum) : SliceCalibrated status bit after := by
  obtain ⟨slices, configured, rfl⟩ := channelRxSaDqbyteConfigure_returned returned
  have calibrated : ∀ bit ∈ List.range wddrPhyDqSliceNum, SliceCalibrated status bit slices := by
    refine propagateErrors_establishes (SliceCalibrated status) ?_ ?_ configured
    · intro index before slice turned
      exact sliceConfigure_calibrated turned
    · intro index other before slice different turned held
      have framed := sliceConfigure_frame turned
      simpa only [SliceCalibrated, framed.data other different,
        Encoded.of_frame different framed] using held
  simpa only [SliceCalibrated, encoded_setState] using
    calibrated bit (List.mem_range.mpr inByte)

theorem channelRxSaDqbyteConfigure_programmed
    (status : Nat → SensampIndex → SaComparator) {table : SensampDqbyteCommonCfg}
    (dqReg : DqRegs)
    (codes : ∀ bit, bit < wddrPhyDqSliceNum → ∀ saIndex ∈ SensampIndex.ddr,
      (table bit saIndex.index).toNat ≤ wavSaMaxCalCode) :
    ∃ programmed,
      channelRxSaDqbyteConfigure status false (table, dqReg) = (.wddrSuccess, programmed) ∧
      programmed.1 = table ∧
      ∀ bit, bit < wddrPhyDqSliceNum → Encoded programmed bit := by
  have success :=
    (channelRxSaDqbyteConfigure_success_iff status false (table, dqReg)).mpr (by simp)
  obtain ⟨programmed, returned⟩ :
      ∃ programmed, channelRxSaDqbyteConfigure status false (table, dqReg) =
        (.wddrSuccess, programmed) := ⟨_, Prod.ext success rfl⟩
  obtain ⟨slices, configured, rfl⟩ := channelRxSaDqbyteConfigure_returned returned
  have sameTable : (propagateErrors (sliceConfigure status false)
      (List.range wddrPhyDqSliceNum)
      (table, dqDqsSaCmnSetStateRegIf .calEnabled dqReg)).2.1 = table :=
    propagateErrors_induction (motive := fun slices : SensampByte => slices.1 = table)
      (fun _ between same => same) (List.range wddrPhyDqSliceNum) rfl
  rw [configured] at sameTable
  have encoded : ∀ bit ∈ List.range wddrPhyDqSliceNum, SliceProgrammed bit slices := by
    refine propagateErrors_establishes SliceProgrammed ?_ ?_ configured
    · intro bit before slice turned
      have programmed : SliceProgrammed bit (sliceConfigure status false bit before).2 :=
        sliceConfigure_programmed before
      rw [turned] at programmed
      exact programmed
    · intro index other before slice different turned held
      have framed := sliceConfigure_frame turned
      simpa only [SliceProgrammed, framed.data other different,
        Encoded.of_frame different framed] using held
  refine ⟨_, returned, sameTable, fun bit inByte => (encoded_setState _ _ bit).mpr ?_⟩
  apply encoded bit (List.mem_range.mpr inByte)
  rw [sameTable]
  exact codes bit inByte

/-- The fields of all calibrated amplifiers of a slice are the same. -/
def SameSaFields (first second : DqRegs) (bit : Nat) : Prop :=
  ∀ saIndex ∈ SensampIndex.ddr, ∀ msr rank, rank < wddrPhyRank →
    saIndex.fieldsOf (first (saCfg msr rank bit)) =
      saIndex.fieldsOf (second (saCfg msr rank bit))

theorem sameSaFields_iff_encoded {other : SensampByte} {bit : Nat}
    (sameTable : other.1 = state.1) (encoded : Encoded other bit) :
    SameSaFields state.2 other.2 bit ↔ Encoded state bit := by
  simp only [SameSaFields, Encoded, ← SensampIndex.codeOf_eq_iff]
  constructor
  · intro same saIndex listed msr rank inRanks
    rw [same saIndex listed msr rank inRanks, encoded saIndex listed msr rank inRanks, sameTable]
  · intro held saIndex listed msr rank inRanks
    rw [held saIndex listed msr rank inRanks, encoded saIndex listed msr rank inRanks, sameTable]

/-- In every slice the codes at which the searches of the first amplifier stop lie around
the middle: they add up to 30 or 31. -/
def FirstCentred (status : Nat → SensampIndex → SaComparator) : Prop :=
  ∀ bit, bit < wddrPhyDqSliceNum → ∃ codeUp codeDown,
    (status bit .sa0).Stops codeUp codeDown ∧
      (codeUp + codeDown = 30 ∨ codeUp + codeDown = 31)

/-- A calibration leaves the registers equal to the table, and equal to those that
programming the resulting table leaves, exactly when the first amplifier of every slice is
centred. -/
theorem encoded_iff_firstCentred (status : Nat → SensampIndex → SaComparator)
    {state after : SensampByte} (dqReg : DqRegs)
    (returned : channelRxSaDqbyteConfigure status true state = (.wddrSuccess, after)) :
    ((∀ bit, bit < wddrPhyDqSliceNum → Encoded after bit) ↔ FirstCentred status) ∧
      ((∀ bit, bit < wddrPhyDqSliceNum → SameSaFields after.2
          (channelRxSaDqbyteConfigure status false (after.1, dqReg)).2.2 bit) ↔
        FirstCentred status) := by
  have calibrated := fun bit (inByte : bit < wddrPhyDqSliceNum) =>
    channelRxSaDqbyteConfigure_calibrated returned inByte
  have encoded : (∀ bit, bit < wddrPhyDqSliceNum → Encoded after bit) ↔
      FirstCentred status := by
    apply forall₂_congr
    intro bit inByte
    obtain ⟨codeUp, codeDown, stops, -, held⟩ := calibrated bit inByte
    rw [held]
    have middle : wavSaMidCalCode = 16 := rfl
    constructor
    · intro average
      exact ⟨codeUp, codeDown, stops, by omega⟩
    · rintro ⟨otherUp, otherDown, others, centred⟩
      have sameUp : codeUp = otherUp := stops.up.unique others.up
      have sameDown : codeDown = otherDown := stops.down.unique others.down
      omega
  have codes : ∀ bit, bit < wddrPhyDqSliceNum → ∀ saIndex ∈ SensampIndex.ddr,
      (after.1 bit saIndex.index).toNat ≤ wavSaMaxCalCode := by
    intro bit inByte
    obtain ⟨_, _, _, inRange, _⟩ := calibrated bit inByte
    exact inRange
  obtain ⟨programmed, again, sameTable, held⟩ :=
    channelRxSaDqbyteConfigure_programmed status dqReg codes
  refine ⟨encoded, (forall₂_congr fun bit inByte => ?_).trans encoded⟩
  rw [again]
  exact sameSaFields_iff_encoded sameTable (held bit inByte)

end Bytes

section Reference

/-- Comparators without noise that flip at one code. -/
def flipsAt (code : Nat) : Nat → SensampIndex → SaComparator :=
  fun _ _ _ tested => tested < code

theorem stops_flipsAt {code : Nat} (inside : 0 < code ∧ code ≤ wavSaMaxCalCode) (bit : Nat)
    (saIndex : SensampIndex) : (flipsAt code bit saIndex).Stops code (code - 1) := by
  constructor
  · constructor
    · simp [flipsAt]
    · intro tested low
      simpa [flipsAt] using low
  · exact inside
  · constructor
    · simp only [Set.mem_ofPred_eq, flipsAt, decide_eq_true_eq]
      omega
    · rintro tested ⟨-, high⟩
      simp only [flipsAt, decide_eq_true_eq] at high
      omega
  · omega

/-- The byte after calibrating comparators that flip at `code`. -/
def calibratedByte (code : Nat) : SensampByte :=
  (@channelRxSaDqbyteConfigure referencePlatform.toKernelIo (flipsAt code) true
    (fun _ _ => 0, fun _ => 0)).2

theorem calibratedByte_returned (code : Nat) (inside : 0 < code ∧ code ≤ wavSaMaxCalCode) :
    @channelRxSaDqbyteConfigure referencePlatform.toKernelIo (flipsAt code) true
      (fun _ _ => 0, fun _ => 0) = (.wddrSuccess, calibratedByte code) := by
  let := referencePlatform
  have success := (channelRxSaDqbyteConfigure_success_iff (flipsAt code) true
    (fun _ _ => 0, fun _ => 0)).mpr
    fun _ bit _ saIndex _ => (stops_flipsAt inside bit saIndex).accepted
  exact Prod.ext success rfl

/-- Comparators that flip in the middle: the first and the last slice. -/
theorem encoded_middle :
    @Encoded referencePlatform.toKernelIo (calibratedByte 16) 0 ∧
      @Encoded referencePlatform.toKernelIo (calibratedByte 16) 8 := by
  let := referencePlatform
  have middle := encoded_iff_firstCentred (flipsAt 16) (fun _ => 0)
    (calibratedByte_returned 16 (by decide))
  have encoded := middle.1.mpr fun bit _ =>
    ⟨16, 15, stops_flipsAt (by decide) bit .sa0, Or.inr rfl⟩
  exact ⟨encoded 0 (by decide), encoded 8 (by decide)⟩

/-- Comparators that flip above the middle. -/
theorem not_encoded_offset :
    ¬ ∀ status state after,
      @channelRxSaDqbyteConfigure referencePlatform.toKernelIo status true state =
          (.wddrSuccess, after) →
        ∀ bit, bit < wddrPhyDqSliceNum → @Encoded referencePlatform.toKernelIo after bit := by
  let := referencePlatform
  intro encoded
  have held := encoded (flipsAt 20) _ _ (calibratedByte_returned 20 (by decide)) 0 (by decide)
    .sa0 (by decide) .msr0 0 (by decide)
  exact absurd held (by decide +kernel)

end Reference

end WavLpddr
