import Mathlib.Data.Fin.Tuple.Basic
import Mathlib.Logic.Equiv.Fin.Basic
import Mathlib.Tactic.Ring

/-!
# Layouts of packed values

A layout places the values of a type in a fixed number of bits, so that every pattern of these
bits stands for one value.  Layouts are put together from bit fields: one after the other, in
arrays, and along an equivalence that names the parts.  A layout whose width is a multiple of
the word size is also a way to write values as words.
-/

/-- The values of a type as the numbers below a power of two. -/
structure Layout (Value : Type*) where
  width : Nat
  encode : Value → Nat
  decode : Nat → Value
  encode_lt : ∀ value, encode value < 2 ^ width
  decode_encode : ∀ value, decode (encode value) = value
  encode_decode : ∀ bits < 2 ^ width, encode (decode bits) = bits

namespace Layout

variable {First Second Value : Type*}

/-- A number in front of another one. -/
theorem concat_lt {low high lowWidth highWidth : Nat} (lowFits : low < 2 ^ lowWidth)
    (highFits : high < 2 ^ highWidth) :
    low + 2 ^ lowWidth * high < 2 ^ (lowWidth + highWidth) :=
  calc low + 2 ^ lowWidth * high
      < 2 ^ lowWidth + 2 ^ lowWidth * high := Nat.add_lt_add_right lowFits _
    _ = 2 ^ lowWidth * (high + 1) := by ring
    _ ≤ 2 ^ lowWidth * 2 ^ highWidth := Nat.mul_le_mul_left _ highFits
    _ = 2 ^ (lowWidth + highWidth) := (pow_add _ _ _).symm

theorem concat_mod {low width : Nat} (fits : low < 2 ^ width) (high : Nat) :
    (low + 2 ^ width * high) % 2 ^ width = low := by
  rw [Nat.add_mul_mod_self_left, Nat.mod_eq_of_lt fits]

theorem concat_div {low width : Nat} (fits : low < 2 ^ width) (high : Nat) :
    (low + 2 ^ width * high) / 2 ^ width = high := by
  rw [Nat.add_mul_div_left _ _ (Nat.two_pow_pos width), Nat.div_eq_of_lt fits, Nat.zero_add]

/-- A single field. -/
def bits (width : Nat) : Layout (BitVec width) where
  width := width
  encode := BitVec.toNat
  decode := BitVec.ofNat width
  encode_lt := BitVec.isLt
  decode_encode value := by rw [BitVec.ofNat_toNat, BitVec.setWidth_eq]
  encode_decode _ fits := Nat.mod_eq_of_lt fits

/-- Two layouts one after the other, the first at the least significant end. -/
def prod (first : Layout First) (second : Layout Second) : Layout (First × Second) where
  width := first.width + second.width
  encode pair := first.encode pair.1 + 2 ^ first.width * second.encode pair.2
  decode bits := (first.decode (bits % 2 ^ first.width), second.decode (bits / 2 ^ first.width))
  encode_lt pair := concat_lt (first.encode_lt pair.1) (second.encode_lt pair.2)
  decode_encode pair := by
    have fits := first.encode_lt pair.1
    rw [concat_mod fits, concat_div fits, first.decode_encode, second.decode_encode]
  encode_decode bits fits := by
    have low : bits % 2 ^ first.width < 2 ^ first.width := Nat.mod_lt _ (Nat.two_pow_pos _)
    have high : bits / 2 ^ first.width < 2 ^ second.width :=
      Nat.div_lt_of_lt_mul (by rwa [← pow_add])
    rw [first.encode_decode _ low, second.encode_decode _ high, Nat.mod_add_div]

/-- The same bits for values that are named in another way. -/
def map (layout : Layout First) (equiv : First ≃ Value) : Layout Value where
  width := layout.width
  encode value := layout.encode (equiv.symm value)
  decode bits := equiv (layout.decode bits)
  encode_lt value := layout.encode_lt _
  decode_encode value := by rw [layout.decode_encode, Equiv.apply_symm_apply]
  encode_decode bits fits := by rw [Equiv.symm_apply_apply, layout.encode_decode bits fits]

/-- An array, its first element at the least significant end. -/
def array (element : Layout Value) : (count : Nat) → Layout (Fin count → Value)
  | 0 =>
      { width := 0
        encode := fun _ => 0
        decode := fun _ => Fin.elim0
        encode_lt := fun _ => Nat.one_pos
        decode_encode := fun _ => funext fun index => index.elim0
        encode_decode := fun _ fits => (Nat.lt_one_iff.mp fits).symm }
  | count + 1 => (element.prod (array element count)).map (Fin.consEquiv fun _ => Value)

@[simp]
theorem width_bits (width : Nat) : (bits width).width = width := rfl

@[simp]
theorem width_prod (first : Layout First) (second : Layout Second) :
    (first.prod second).width = first.width + second.width := rfl

@[simp]
theorem width_map (layout : Layout First) (equiv : First ≃ Value) :
    (layout.map equiv).width = layout.width := rfl

@[simp]
theorem width_array (element : Layout Value) (count : Nat) :
    (element.array count).width = count * element.width := by
  induction count with
  | zero => exact (Nat.zero_mul _).symm
  | succ count inductionHypothesis =>
      change element.width + (element.array count).width = _
      rw [inductionHypothesis]
      ring

section Pack

/-- Fields in a list, as width and value, the first at the least significant end. -/
def pack (fields : List (Nat × Nat)) : Nat :=
  fields.foldr (fun field rest => field.2 % 2 ^ field.1 + 2 ^ field.1 * rest) 0

/-- The bits that fields take. -/
def packWidth (fields : List (Nat × Nat)) : Nat := (fields.map Prod.fst).sum

@[simp]
theorem pack_nil : pack [] = 0 := rfl

theorem pack_cons (field : Nat × Nat) (rest : List (Nat × Nat)) :
    pack (field :: rest) = field.2 % 2 ^ field.1 + 2 ^ field.1 * pack rest := rfl

theorem packWidth_cons (field : Nat × Nat) (rest : List (Nat × Nat)) :
    packWidth (field :: rest) = field.1 + packWidth rest :=
  List.sum_cons

theorem pack_append (first second : List (Nat × Nat)) :
    pack (first ++ second) = pack first + 2 ^ packWidth first * pack second := by
  induction first with
  | nil => simp [packWidth]
  | cons field rest inductionHypothesis =>
      rw [List.cons_append, pack_cons, inductionHypothesis, pack_cons, packWidth_cons]
      ring

/-- The fields of the list are those of the layout. -/
structure Lists (layout : Layout Value) (fields : Value → List (Nat × Nat)) : Prop where
  width : ∀ value, packWidth (fields value) = layout.width
  pack : ∀ value, Layout.pack (fields value) = layout.encode value

variable {layout : Layout Value} {fields : Value → List (Nat × Nat)}

/-- The last field of a list. -/
theorem lists_last (width : Nat) : (bits width).Lists fun value => [(width, value.toNat)] where
  width _ := Nat.add_zero _
  pack value := by
    change value.toNat % 2 ^ width + 2 ^ width * 0 = value.toNat
    rw [Nat.mul_zero, Nat.add_zero, Nat.mod_eq_of_lt value.isLt]

/-- A field before others. -/
theorem Lists.cons (lists : layout.Lists fields) (width : Nat) :
    ((bits width).prod layout).Lists fun pair =>
      (width, pair.1.toNat) :: fields pair.2 where
  width pair := by rw [packWidth_cons, lists.width, width_prod, width_bits]
  pack pair := by
    change pair.1.toNat % 2 ^ width + 2 ^ width * Layout.pack (fields pair.2) = _
    rw [Nat.mod_eq_of_lt pair.1.isLt, lists.pack]
    rfl

theorem Lists.map (lists : layout.Lists fields) {Named : Type*} (equiv : Value ≃ Named) :
    (layout.map equiv).Lists fun value => fields (equiv.symm value) where
  width _ := lists.width _
  pack _ := lists.pack _

theorem Lists.append {other : Layout Second} {otherFields : Second → List (Nat × Nat)}
    (lists : layout.Lists fields) (otherLists : other.Lists otherFields) :
    (layout.prod other).Lists fun pair => fields pair.1 ++ otherFields pair.2 where
  width pair := by
    rw [packWidth, List.map_append, List.sum_append]
    exact congrArg₂ _ (lists.width _) (otherLists.width _)
  pack pair := by
    rw [pack_append, lists.width, lists.pack, otherLists.pack]
    rfl

/-- The fields of the elements in turn. -/
theorem Lists.array (lists : layout.Lists fields) (count : Nat) :
    (layout.array count).Lists fun values => (List.ofFn values).flatMap fields := by
  induction count with
  | zero => exact ⟨fun _ => rfl, fun _ => rfl⟩
  | succ count inductionHypothesis =>
      have more := (lists.append inductionHypothesis).map (Fin.consEquiv fun _ => Value)
      constructor
      · intro values
        rw [List.ofFn_succ, List.flatMap_cons]
        exact more.width values
      · intro values
        rw [List.ofFn_succ, List.flatMap_cons]
        exact more.pack values

end Pack

section Words

variable {size : Nat}

/-- A number cut into words, the least significant first. -/
def cut (size count bits : Nat) : List (BitVec size) :=
  (List.range count).map fun word => BitVec.ofNat size (bits / 2 ^ (size * word))

/-- The number that words stand for. -/
def join : List (BitVec size) → Nat
  | [] => 0
  | word :: rest => word.toNat + 2 ^ size * join rest

theorem length_cut (size count bits : Nat) : (cut size count bits).length = count := by
  rw [cut, List.length_map, List.length_range]

theorem cut_succ (size count bits : Nat) :
    cut size (count + 1) bits = BitVec.ofNat size bits :: cut size count (bits / 2 ^ size) := by
  rw [cut, List.range_succ_eq_map, List.map_cons, List.map_map, Nat.mul_zero, pow_zero,
    Nat.div_one]
  congr 1
  apply List.map_congr_left
  intro word _
  rw [Function.comp_apply, Nat.succ_eq_add_one, Nat.mul_add_one, Nat.add_comm, pow_add,
    Nat.div_div_eq_div_mul]

theorem join_lt (words : List (BitVec size)) : join words < 2 ^ (size * words.length) := by
  induction words with
  | nil => exact Nat.one_pos
  | cons word rest inductionHypothesis =>
      have concat := concat_lt word.isLt inductionHypothesis
      rwa [List.length_cons, Nat.mul_add_one, Nat.add_comm (size * _)]

theorem join_cut {count bits : Nat} (fits : bits < 2 ^ (size * count)) :
    join (cut size count bits) = bits := by
  induction count generalizing bits with
  | zero => exact (Nat.lt_one_iff.mp fits).symm
  | succ count inductionHypothesis =>
      have higher : bits / 2 ^ size < 2 ^ (size * count) := by
        apply Nat.div_lt_of_lt_mul
        rwa [← pow_add, Nat.add_comm, ← Nat.mul_add_one]
      rw [cut_succ, join, inductionHypothesis higher, BitVec.toNat_ofNat, Nat.mod_add_div]

theorem cut_join (words : List (BitVec size)) : cut size words.length (join words) = words := by
  induction words with
  | nil => rfl
  | cons word rest inductionHypothesis =>
      have low : BitVec.ofNat size (word.toNat + 2 ^ size * join rest) = word := by
        apply BitVec.eq_of_toNat_eq
        rw [BitVec.toNat_ofNat, concat_mod word.isLt]
      rw [List.length_cons, cut_succ, join, low, concat_div word.isLt, inductionHypothesis]

variable (layout : Layout Value)

/-- A value as words. -/
def toWords (size count : Nat) (value : Value) : List (BitVec size) :=
  cut size count (layout.encode value)

/-- The value that words stand for. -/
def ofWords (words : List (BitVec size)) : Value := layout.decode (join words)

variable {layout} {count : Nat}

theorem ofWords_toWords (whole : layout.width = size * count) (value : Value) :
    layout.ofWords (layout.toWords size count value) = value := by
  have fits := layout.encode_lt value
  rw [whole] at fits
  rw [ofWords, toWords, join_cut fits, layout.decode_encode]

theorem toWords_ofWords {words : List (BitVec size)} (whole : layout.width = size * words.length) :
    layout.toWords size words.length (layout.ofWords words) = words := by
  have fits := join_lt words
  rw [← whole] at fits
  rw [toWords, ofWords, layout.encode_decode _ fits, cut_join]

end Words

end Layout
