import Mathlib.Data.BitVec
import Mathlib.Order.Defs.PartialOrder

/-!
# Bit fields of hardware words

A control word packs several fields, each a mask and a shift.  Inserting a
field replaces the bits under its mask and keeps all others; extracting it
reads them back.  This file fixes both operations and the algebra that a
sequence of field updates obeys, for words of any width.
-/

namespace BitFields

/-- A field of a `width`-bit word. -/
structure Field (width : Nat) where
  mask : BitVec width
  shift : Nat
deriving DecidableEq, Repr

namespace Field

variable {width : Nat}

/-- Replace the bits of `word` under the mask by those of the shifted value. -/
def insert (field : Field width) (word value : BitVec width) : BitVec width :=
  (word &&& ~~~field.mask) ||| ((value <<< field.shift) &&& field.mask)

/-- Read the bits under the mask, moved down to bit zero. -/
def extract (field : Field width) (word : BitVec width) : BitVec width :=
  (word &&& field.mask) >>> field.shift

@[simp]
theorem getElem_insert (field : Field width) (word value : BitVec width)
    (position : Nat) (inside : position < width) :
    (field.insert word value)[position] =
      if field.mask[position] then (value <<< field.shift)[position]
      else word[position] := by
  cases masked : field.mask[position] <;> simp [insert, masked]

/-- Disjoint masks never share a set bit. -/
theorem getElem_of_disjoint {first second : BitVec width}
    (disjoint : first &&& second = 0)
    (position : Nat) (inside : position < width) :
    (first[position] && second[position]) = false := by
  rw [← BitVec.getElem_and]
  simp [disjoint]

theorem extract_insert_of_disjoint (target other : Field width)
    (disjoint : target.mask &&& other.mask = 0)
    (word value : BitVec width) :
    target.extract (other.insert word value) = target.extract word := by
  have masked : other.insert word value &&& target.mask = word &&& target.mask := by
    ext position inside
    have separate := getElem_of_disjoint disjoint position inside
    cases targetMasked : target.mask[position] <;>
      cases otherMasked : other.mask[position] <;>
      simp_all
  rw [extract, masked, extract]

/-- The part of a value that fits into the field. -/
def cut (field : Field width) (value : BitVec width) : BitVec width :=
  ((value <<< field.shift) &&& field.mask) >>> field.shift

@[simp]
theorem cut_zero (field : Field width) : field.cut 0 = 0 := by
  simp [cut]

/-- Reading a field right after inserting into it yields the value cut to the
field. -/
theorem extract_insert (field : Field width) (word value : BitVec width) :
    field.extract (field.insert word value) = field.cut value := by
  have masked : field.insert word value &&& field.mask =
      (value <<< field.shift) &&& field.mask := by
    ext position inside
    cases fieldMasked : field.mask[position] <;> simp [fieldMasked]
  rw [extract, masked, cut]

theorem toNat_extract_le (field : Field width) (word : BitVec width) :
    (field.extract word).toNat ≤ (field.mask >>> field.shift).toNat := by
  simp only [extract, BitVec.toNat_ushiftRight, BitVec.toNat_and, Nat.shiftRight_eq_div_pow]
  exact Nat.div_le_div_right Nat.and_le_right

/-- A field of a single bit reads as zero or one. -/
theorem extract_of_single (field : Field width) (bit : Nat)
    (single : field.mask = BitVec.twoPow width bit)
    (lowest : field.mask >>> field.shift = 1) (word : BitVec width) :
    field.extract word = 0 ∨ field.extract word = 1 := by
  rw [extract, single, BitVec.and_twoPow]
  split
  · right
    rwa [single] at lowest
  · left
    simp

section UpTo

/-- Two words that agree outside the given bits. -/
def SameUpTo (bits first second : BitVec width) : Prop :=
  first &&& ~~~bits = second &&& ~~~bits

namespace SameUpTo

variable {bits first second third : BitVec width}

theorem refl (bits word : BitVec width) : SameUpTo bits word word := rfl

theorem symm (same : SameUpTo bits first second) : SameUpTo bits second first :=
  Eq.symm same

theorem trans (earlier : SameUpTo bits first second) (later : SameUpTo bits second third) :
    SameUpTo bits first third :=
  Eq.trans earlier later

/-- An insertion into a field within the given bits. -/
theorem insert_self (field : Field width) (within : field.mask &&& ~~~bits = 0)
    (word value : BitVec width) : SameUpTo bits word (field.insert word value) := by
  unfold SameUpTo
  ext position inside
  have separate := getElem_of_disjoint within position inside
  cases masked : field.mask[position] <;> simp_all

theorem insert (same : SameUpTo bits first second) (field : Field width)
    (value : BitVec width) :
    SameUpTo bits (field.insert first value) (field.insert second value) := by
  unfold SameUpTo at same ⊢
  ext position inside
  have agree : (first &&& ~~~bits)[position] = (second &&& ~~~bits)[position] := by
    rw [same]
  simp only [BitVec.getElem_and, BitVec.getElem_not, getElem_insert] at agree ⊢
  split
  · rfl
  · exact agree

/-- A field outside the given bits reads the same. -/
theorem extract_eq (same : SameUpTo bits first second) (field : Field width)
    (disjoint : field.mask &&& bits = 0) : field.extract first = field.extract second := by
  have masked : first &&& field.mask = second &&& field.mask := by
    ext position inside
    have separate := getElem_of_disjoint disjoint position inside
    have agree : (first &&& ~~~bits)[position] = (second &&& ~~~bits)[position] :=
      congrArg (fun word => word[position]) same
    simp only [BitVec.getElem_and, BitVec.getElem_not] at agree ⊢
    cases inField : field.mask[position] <;> simp_all
  rw [extract, masked, extract]

end SameUpTo

end UpTo

end Field

end BitFields
