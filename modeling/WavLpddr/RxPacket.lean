import WavLpddr.Lib.Loops
import WavLpddr.PacketGroup

/-!
# Comparing received data

A received packet holds the data words of four byte lanes.  Training compares the words of one
lane, packet by packet, with the bytes it expects; a mask selects the even phases, the odd ones
or both.
-/

namespace WavLpddr

/-- `wddr_dq_byte_t` -/
inductive WddrDqByte
  | byte0 | byte1
deriving DecidableEq, Repr

/-- The byte lane as an index. -/
def WddrDqByte.lane (dqByte : WddrDqByte) : Nat := dqByte.ctorIdx

/-- `packet_data_mask_t` -/
inductive PacketDataMask
  | even | odd | both
deriving DecidableEq, Repr

def PacketDataMask.value : PacketDataMask → BitVec 8
  | even => 1
  | odd => 2
  | both => 1 ||| 2

/-- `dfi_rx_packet_t`, as its raw words. -/
abbrev DfiRxPacket := Nat → Word

namespace DfiRxPacket

/-- The words of a received packet: 4 lanes of 8 words of 10 bits, the command path and the
time take 53 bytes. -/
def sizeWords : Nat := 14

/-- A bit field of the packed descriptor. -/
def bitField (rawData : DfiRxPacket) (offset width : Nat) : BitVec width :=
  let bits := DfiTxPacket.packBits
    ((List.range sizeWords).map fun word => (32, (rawData word).toNat))
  BitVec.ofNat width (bits / 2 ^ offset)

/-- The field `dq<lane>_dfi_rddata_w<word>`.  The descriptor starts with lane 3 and word 7; the
inversion bit and the valid bit of a word follow its data. -/
def rddata (rawData : DfiRxPacket) (lane word : Nat) : BitVec 8 :=
  rawData.bitField (10 * (8 * (3 - lane) + (7 - word))) 8

end DfiRxPacket

/-- `extract_packet_data`: entries that are not extracted keep what they held. -/
def extractPacketData (packet : DfiRxPacket) (dqByte : WddrDqByte) (phases : BitVec 8)
    (dataPacket : Nat → BitVec 8) : Nat → BitVec 8 :=
  let word := fun index => if dqByte = .byte0 then packet.rddata 0 index else packet.rddata 1 index
  let dataPacket := Function.update (Function.update dataPacket 0 (word 0)) 1 (word 1)
  if phases = 4 then Function.update (Function.update dataPacket 2 (word 2)) 3 (word 3)
  else dataPacket

/-- A turn of the loop of `compare_received_data`. -/
def compareTurn (received expected : Nat → BitVec 8) (phases stepSize i : BitVec 8) :
    BitVec 8 ⊕ Bool :=
  if i < phases then
    if expected i.toNat ≠ received i.toNat then .inr false else .inl (i + stepSize)
  else .inr true

/-- `compare_received_data`, if its loop ends while its counter takes each value once. -/
def compareReceivedData (received expected : Nat → BitVec 8) (phases : BitVec 8)
    (dataMask : PacketDataMask) : Option Bool :=
  let stepSize := if dataMask = .both then 1 else 2
  let i := if dataMask.value &&& PacketDataMask.even.value ≠ 0 then 0 else 1
  Loops.iterate (compareTurn received expected phases stepSize) 256 i

section Compare

variable (buffer : Nat → DfiRxPacket) (expected : CommandData) (dqByte : WddrDqByte)
  (dataMask : PacketDataMask) (phases : BitVec 8)

/-- The loop over the packets that remain: it stops at the first one that differs. -/
def comparePackets : (remaining ii : Nat) → Bool → (Nat → BitVec 8) → Option Bool
  | 0, _, same, _ => some same
  | remaining + 1, ii, _, dataPacket => do
      let dataPacket := extractPacketData (buffer ii) dqByte phases dataPacket
      let same ← compareReceivedData dataPacket
        (fun i => expected dqByte.lane (ii * phases.toNat + i)) phases dataMask
      if !same then return same
      comparePackets remaining (ii + 1) same dataPacket

/-- `dfi_rx_packet_buffer_data_compare`, from what its scratch array holds at first. -/
def dfiRxPacketBufferDataCompare (num : BitVec 8) (dataPacket : Nat → BitVec 8) : Option Bool :=
  comparePackets buffer expected dqByte dataMask phases num.toNat 0 false dataPacket

end Compare

/-- The phases that a mask selects. -/
def PacketDataMask.Selects : PacketDataMask → Nat → Prop
  | even, phase => phase % 2 = 0
  | odd, phase => phase % 2 = 1
  | both, _ => True

/-- The selected phases of one packet hold the expected bytes. -/
def PhasesMatch (received expected : Nat → BitVec 8) (phases : Nat)
    (dataMask : PacketDataMask) : Prop :=
  ∀ i < phases, dataMask.Selects i → received i = expected i

/-- The counter of the comparison steps from one selected phase to the next. -/
theorem PacketDataMask.step (dataMask : PacketDataMask) :
    let step := if dataMask = .both then 1 else 2
    0 < step ∧ step ≤ 2 ∧ ∀ phase, dataMask.Selects phase →
      dataMask.Selects (phase + step) ∧
        ∀ between, phase < between → between < phase + step → ¬ dataMask.Selects between := by
  cases dataMask with
  | even =>
      refine ⟨by decide, by decide, fun phase selected => ⟨?_, fun between _ _ => ?_⟩⟩ <;>
        simp only [Selects, reduceCtorEq, if_false] at * <;> omega
  | odd =>
      refine ⟨by decide, by decide, fun phase selected => ⟨?_, fun between _ _ => ?_⟩⟩ <;>
        simp only [Selects, reduceCtorEq, if_false] at * <;> omega
  | both =>
      refine ⟨by decide, by decide, fun phase _ => ⟨trivial, fun between after before => ?_⟩⟩
      simp only [if_true] at before
      omega

/-- The comparison of one packet ends and tells whether its selected phases match. -/
theorem compareReceivedData_eq (received expected : Nat → BitVec 8) {phases : BitVec 8}
    (few : phases.toNat < 255) (dataMask : PacketDataMask) :
    ∃ same, compareReceivedData received expected phases dataMask = some same ∧
      (same = true ↔ PhasesMatch received expected phases.toNat dataMask) := by
  obtain ⟨positive, small, steps⟩ := dataMask.step
  have stepSize : ((if dataMask = .both then 1 else 2 : BitVec 8)).toNat =
      if dataMask = .both then 1 else 2 := by
    split <;> rfl
  -- the phases before the counter match, and the counter is at a selected phase
  refine Loops.iterate_of_measure
    (fun i : BitVec 8 => dataMask.Selects i.toNat ∧
      ∀ phase < i.toNat, dataMask.Selects phase → received phase = expected phase)
    (fun same => (same = true ↔ PhasesMatch received expected phases.toNat dataMask))
    (fun i => 255 - i.toNat) ?_ ?_ ?_
  · rintro i ⟨selected, matched⟩
    unfold compareTurn
    by_cases inside : i < phases
    · have less : i.toNat < phases.toNat := inside
      have advanced : (i + if dataMask = .both then 1 else 2).toNat =
          i.toNat + if dataMask = .both then 1 else 2 := by
        rw [BitVec.toNat_add, stepSize, Nat.mod_eq_of_lt (by omega)]
      rw [if_pos inside]
      by_cases same : expected i.toNat = received i.toNat
      · refine Or.inl ⟨_, if_neg (not_not.mpr same), ⟨?_, ?_⟩, ?_⟩
        · rw [advanced]
          exact (steps _ selected).1
        · intro phase before isSelected
          rw [advanced] at before
          rcases Nat.lt_trichotomy phase i.toNat with earlier | rfl | later
          · exact matched phase earlier isSelected
          · exact same.symm
          · exact absurd isSelected ((steps _ selected).2 phase later before)
        · simp only [advanced]
          omega
      · refine Or.inr ⟨false, if_pos same, ?_⟩
        simp only [Bool.false_eq_true, false_iff]
        exact fun all => same (all i.toNat less selected).symm
    · rw [if_neg inside]
      refine Or.inr ⟨true, rfl, iff_of_true rfl fun phase before isSelected => ?_⟩
      have notLess : ¬ i.toNat < phases.toNat := inside
      exact matched phase (by omega) isSelected
  · cases dataMask with
    | even => exact ⟨rfl, fun phase before _ => absurd before (Nat.not_lt_zero _)⟩
    | odd =>
        refine ⟨rfl, fun phase before isSelected => ?_⟩
        have first : phase < 1 := before
        have odd : phase % 2 = 1 := isSelected
        omega
    | both => exact ⟨trivial, fun phase before _ => absurd before (Nat.not_lt_zero _)⟩
  · exact Nat.lt_of_le_of_lt (Nat.sub_le _ _) (by decide)

/-- The scratch array holds the words of the lane for every phase that is compared. -/
theorem extractPacketData_of_lt (packet : DfiRxPacket) (dqByte : WddrDqByte) {phases : BitVec 8}
    (supported : phases = 2 ∨ phases = 4) (dataPacket : Nat → BitVec 8) {i : Nat}
    (inPacket : i < phases.toNat) :
    extractPacketData packet dqByte phases dataPacket i = packet.rddata dqByte.lane i := by
  have word : ∀ index, (if dqByte = .byte0 then packet.rddata 0 index else packet.rddata 1 index) =
      packet.rddata dqByte.lane index := by
    intro index
    cases dqByte <;> rfl
  unfold extractPacketData
  simp only [word]
  rcases supported with rfl | rfl
  · have cases : i = 0 ∨ i = 1 := by
      have two : i < 2 := inPacket
      omega
    rcases cases with rfl | rfl <;> simp
  · have cases : i = 0 ∨ i = 1 ∨ i = 2 ∨ i = 3 := by
      have four : i < 4 := inPacket
      omega
    rcases cases with rfl | rfl | rfl | rfl <;> simp

section Compare

variable {phases : BitVec 8}

/-- The selected phases of a packet hold the bytes expected for its place in the buffer. -/
def PacketMatches (buffer : Nat → DfiRxPacket) (expected : CommandData) (dqByte : WddrDqByte)
    (dataMask : PacketDataMask) (phases : Nat) (ii : Nat) : Prop :=
  ∀ i < phases, dataMask.Selects i →
    (buffer ii).rddata dqByte.lane i = expected dqByte.lane (ii * phases + i)

/-- The comparison from a packet on: all that remain have to match, and if none remains the
result so far stands. -/
theorem comparePackets_eq (buffer : Nat → DfiRxPacket) (expected : CommandData)
    (dqByte : WddrDqByte) (dataMask : PacketDataMask) (supported : phases = 2 ∨ phases = 4)
    (remaining ii : Nat) (before : Bool) (dataPacket : Nat → BitVec 8) :
    ∃ same, comparePackets buffer expected dqByte dataMask phases remaining ii before dataPacket =
        some same ∧
      (same = true ↔ (remaining = 0 → before = true) ∧ ∀ later < remaining,
        PacketMatches buffer expected dqByte dataMask phases.toNat (ii + later)) := by
  induction remaining generalizing ii before dataPacket with
  | zero => exact ⟨before, rfl, by simp⟩
  | succ remaining inductionHypothesis =>
      have few : phases.toNat < 255 := by
        rcases supported with rfl | rfl <;> decide
      obtain ⟨same, compared, meaning⟩ := compareReceivedData_eq
        (extractPacketData (buffer ii) dqByte phases dataPacket)
        (fun i => expected dqByte.lane (ii * phases.toNat + i)) few dataMask
      have isMatch : same = true ↔
          PacketMatches buffer expected dqByte dataMask phases.toNat ii := by
        rw [meaning]
        refine forall_congr' fun i => forall₂_congr fun inPacket _ => ?_
        rw [extractPacketData_of_lt (buffer ii) dqByte supported dataPacket inPacket]
      rw [comparePackets, compared, Nat.forall_lt_succ_left]
      cases same with
      | false =>
          refine ⟨false, rfl, ?_⟩
          simp only [Bool.false_eq_true, false_iff] at isMatch ⊢
          exact fun all => isMatch all.2.1
      | true =>
          obtain ⟨rest, compared, meaning⟩ := inductionHypothesis (ii + 1) true
            (extractPacketData (buffer ii) dqByte phases dataPacket)
          refine ⟨rest, compared, ?_⟩
          rw [meaning]
          simp only [Nat.add_zero, isMatch.mp rfl, implies_true, true_and, Nat.add_right_comm ii 1,
            reduceCtorEq, false_implies, Nat.add_assoc]

theorem dfiRxPacketBufferDataCompare_eq (buffer : Nat → DfiRxPacket) (expected : CommandData)
    (dqByte : WddrDqByte) (dataMask : PacketDataMask) (supported : phases = 2 ∨ phases = 4)
    {num : BitVec 8} (positive : 0 < num.toNat) (dataPacket : Nat → BitVec 8) :
    ∃ same, dfiRxPacketBufferDataCompare buffer expected dqByte dataMask phases num dataPacket =
        some same ∧
      (same = true ↔ ∀ ii < num.toNat,
        PacketMatches buffer expected dqByte dataMask phases.toNat ii) := by
  obtain ⟨same, compared, meaning⟩ := comparePackets_eq buffer expected dqByte dataMask
    supported num.toNat 0 false dataPacket
  refine ⟨same, compared, ?_⟩
  rw [meaning, and_iff_right fun none => absurd none positive.ne']
  simp only [Nat.zero_add]

end Compare

/-- For every content of the buffer and of the scratch array the comparison ends, and the
result is set exactly if each selected phase of each packet holds the expected byte.  Nothing
else that the buffer, the expected data or the scratch array hold changes the result. -/
theorem dfiRxPacketBufferDataCompare_iff (buffer : Nat → DfiRxPacket) (expected : CommandData)
    (dqByte : WddrDqByte) (dataMask : PacketDataMask) {phases : BitVec 8}
    (supported : phases = 2 ∨ phases = 4) {num : BitVec 8} (positive : 0 < num.toNat)
    (dataPacket : Nat → BitVec 8) :
    ∃ same, dfiRxPacketBufferDataCompare buffer expected dqByte dataMask phases num dataPacket =
        some same ∧
      (same = true ↔ ∀ ii < num.toNat, ∀ i < phases.toNat, dataMask.Selects i →
        (buffer ii).rddata dqByte.lane i = expected dqByte.lane (ii * phases.toNat + i)) ∧
      ∀ otherBuffer otherExpected otherPacket,
        (∀ ii < num.toNat, ∀ i < phases.toNat, dataMask.Selects i →
          (otherBuffer ii).rddata dqByte.lane i = (buffer ii).rddata dqByte.lane i ∧
            otherExpected dqByte.lane (ii * phases.toNat + i) =
              expected dqByte.lane (ii * phases.toNat + i)) →
        dfiRxPacketBufferDataCompare otherBuffer otherExpected dqByte dataMask phases num
          otherPacket = some same := by
  obtain ⟨same, compared, meaning⟩ := dfiRxPacketBufferDataCompare_eq buffer expected dqByte
    dataMask supported positive dataPacket
  refine ⟨same, compared, meaning, fun otherBuffer otherExpected otherPacket agree => ?_⟩
  obtain ⟨other, otherCompared, otherMeaning⟩ := dfiRxPacketBufferDataCompare_eq otherBuffer
    otherExpected dqByte dataMask supported positive otherPacket
  have equal : same = other := by
    rw [Bool.eq_iff_iff, meaning, otherMeaning]
    refine forall₂_congr fun ii inBuffer => forall₂_congr fun i inPacket =>
      forall_congr' fun selected => ?_
    obtain ⟨sameWord, sameByte⟩ := agree ii inBuffer i inPacket selected
    rw [sameWord, sameByte]
  rw [otherCompared, equal]

section Reference

/-- Packets with different words. -/
def stripedBuffer (ii : Nat) : DfiRxPacket :=
  fun word => BitVec.ofNat 32 (0x01234567 * (ii + 1) + 0x11111111 * word)

/-- What is expected of two phases a packet: the even ones as they are, the odd ones inverted. -/
def stripedExpected : CommandData := fun lane phase =>
  let byte := (stripedBuffer (phase / 2)).rddata lane (phase % 2)
  if phase % 2 = 0 then byte else ~~~byte

/-- Three packets agree at their even phases, and a mask of the even phases hides the odd
ones. -/
theorem dfiRxPacketBufferDataCompare_striped :
    stripedExpected 1 0 ≠ stripedExpected 1 2 ∧
      dfiRxPacketBufferDataCompare stripedBuffer stripedExpected .byte1 .even 2 3
        (fun _ => 0xFF) = some true ∧
      dfiRxPacketBufferDataCompare stripedBuffer stripedExpected .byte1 .both 2 3
        (fun _ => 0xFF) = some false := by
  have supported : (2 : BitVec 8) = 2 ∨ (2 : BitVec 8) = 4 := Or.inl rfl
  have positive : 0 < (3 : BitVec 8).toNat := by decide
  obtain ⟨even, evenRun, evenMeaning, -⟩ := dfiRxPacketBufferDataCompare_iff stripedBuffer
    stripedExpected .byte1 .even supported positive fun _ => 0xFF
  obtain ⟨both, bothRun, bothMeaning, -⟩ := dfiRxPacketBufferDataCompare_iff stripedBuffer
    stripedExpected .byte1 .both supported positive fun _ => 0xFF
  refine ⟨by decide, ?_, ?_⟩
  · have matched : even = true := by
      rw [evenMeaning]
      intro ii _ i inPacket selected
      have small : i < 2 := inPacket
      have isEven : i % 2 = 0 := selected
      obtain rfl : i = 0 := by omega
      have place : (ii * 2 + 0) / 2 = ii ∧ (ii * 2 + 0) % 2 = 0 := by omega
      change _ = stripedExpected 1 (ii * 2 + 0)
      simp only [stripedExpected, place, if_true]
      rfl
    rw [evenRun, matched]
  · have differs : both = false := by
      rw [← Bool.not_eq_true, bothMeaning]
      intro all
      exact absurd (all 0 (by decide) 1 (by decide) trivial) (by decide)
    rw [bothRun, differs]

end Reference

end WavLpddr
