import Mathlib.Data.Set.BooleanAlgebra
import Mathlib.Data.Set.Function
import Mathlib.Logic.Function.Basic
import Mathlib.Order.CompletePartialOrder
import WavLpddr.Lib.BitFields

/-!
# Register files and families of updates that forget earlier updates

A driver programs a block of registers with plain writes and with
read-modify-writes of fields.  A *family* of such updates is indexed by the
configuration being programmed.  When every member of the family overwrites
exactly the same bits, programming one configuration and then another leaves
what the second alone would leave.

Two closure principles are provided.  `Overwrites` describes updates by a fixed
mask of overwritten bits and is closed under arbitrary sequencing and loops.
`Rewrites` only asks for the absorption law together with locality, so it also
covers updates that copy the kept bits of one register to others; it is closed
under sequencing of parts with disjoint supports.
-/

namespace RegisterFile

/-- The contents of a block of `width`-bit registers. -/
abbrev Registers (Key : Type*) (width : Nat) := Key → BitVec width

section Operations

variable {Key : Type*} [DecidableEq Key] {width : Nat}

/-- Write one register. -/
def write (key : Key) (value : BitVec width)
    (regs : Registers Key width) : Registers Key width :=
  Function.update regs key value

@[simp]
theorem write_self (key : Key) (value : BitVec width)
    (regs : Registers Key width) : write key value regs key = value := by
  simp [write]

theorem write_apply (key other : Key) (value : BitVec width)
    (regs : Registers Key width) :
    write key value regs other = if other = key then value else regs other := by
  simp [write, Function.update_apply]

@[simp]
theorem write_of_ne {key other : Key} (different : other ≠ key)
    (value : BitVec width) (regs : Registers Key width) :
    write key value regs other = regs other := by
  simp [write, different]

/-- Read a register, compute a new value from it, and write that back. -/
def modifyReg (key : Key) (update : BitVec width → BitVec width)
    (regs : Registers Key width) : Registers Key width :=
  write key (update (regs key)) regs

theorem modifyReg_apply (key other : Key) (update : BitVec width → BitVec width)
    (regs : Registers Key width) :
    modifyReg key update regs other =
      if other = key then update (regs key) else regs other :=
  write_apply key other _ regs

end Operations

section Loops

variable {State : Type*}

/-- A statement guarded by `if`. -/
def whenever (condition : Prop) [Decidable condition] (body : State → State)
    (state : State) : State :=
  if condition then body state else state

/-- The counting loop `for (i = 0; i < count; i++)`. -/
def forRange (count : Nat) (body : Nat → State → State) (start : State) : State :=
  (List.range count).foldl (fun state index => body index state) start

@[simp]
theorem forRange_zero (body : Nat → State → State) (start : State) :
    forRange 0 body start = start := rfl

theorem forRange_succ (count : Nat) (body : Nat → State → State) (start : State) :
    forRange (count + 1) body start = body count (forRange count body start) := by
  simp [forRange, List.range_succ]

/-- A loop preserves what each of its iterations preserves. -/
theorem forRange_induction {motive : State → Prop} {count : Nat}
    {body : Nat → State → State} {start : State} (base : motive start)
    (step : ∀ index state, index < count → motive state →
      motive (body index state)) :
    motive (forRange count body start) := by
  induction count with
  | zero => exact base
  | succ count inductionHypothesis =>
      rw [forRange_succ]
      exact step count _ (Nat.lt_succ_self count)
        (inductionHypothesis fun index state bound =>
          step index state (Nat.lt_succ_of_lt bound))

/-- An observation that no iteration changes is the same after the loop. -/
theorem forRange_observe {Value : Type*} (observe : State → Value) {count : Nat}
    {body : Nat → State → State}
    (unchanged : ∀ index state, observe (body index state) = observe state)
    (start : State) : observe (forRange count body start) = observe start :=
  forRange_induction (motive := fun state => observe state = observe start) rfl
    fun index state _ same => (unchanged index state).trans same

/-- What one iteration establishes and no other one changes holds after the loop. -/
theorem forRange_at {Value : Type*} (observe : State → Value) {count here : Nat}
    {body : Nat → State → State} {value : Value} (inRange : here < count)
    (establishes : ∀ state, observe (body here state) = value)
    (keeps : ∀ index state, index ≠ here → observe (body index state) = observe state)
    (start : State) : observe (forRange count body start) = value := by
  induction count with
  | zero => exact absurd inRange (Nat.not_lt_zero here)
  | succ count inductionHypothesis =>
      rw [forRange_succ]
      by_cases last : here = count
      · subst last
        exact establishes _
      · rw [keeps count _ (Ne.symm last)]
        exact inductionHypothesis (by omega)

/-- What is observed of a loop is the loop of what is observed of its body. -/
theorem forRange_map {Value : Type*} (observe : State → Value) {count : Nat}
    {body : Nat → State → State} {observed : Nat → Value → Value}
    (commutes : ∀ index state, observe (body index state) = observed index (observe state))
    (start : State) :
    observe (forRange count body start) = forRange count observed (observe start) := by
  induction count with
  | zero => rfl
  | succ count inductionHypothesis =>
      rw [forRange_succ, forRange_succ, commutes, inductionHypothesis]

/-- A loop that updates entry `index` in iteration `index` updates exactly the
entries below its bound. -/
theorem forRange_update {Value : Type*} (update : Nat → Value → Value)
    (count : Nat) (start : Nat → Value) (entry : Nat) :
    forRange count
        (fun index state =>
          Function.update state index (update index (state index))) start entry =
      if entry < count then update entry (start entry) else start entry := by
  induction count generalizing entry with
  | zero => simp
  | succ count inductionHypothesis =>
      rw [forRange_succ]
      by_cases last : entry = count
      · subst last
        simp [inductionHypothesis]
      · have bound : entry < count + 1 ↔ entry < count := by omega
        simp [last, inductionHypothesis, bound]

/-- A loop whose iterations all update the same entry. -/
theorem forRange_update_entry {Index Value : Type*} [DecidableEq Index]
    (body : Nat → Value → Value) (count : Nat) (start : Index → Value) (entry : Index) :
    forRange count
        (fun index state => Function.update state entry (body index (state entry))) start =
      Function.update start entry (forRange count body (start entry)) := by
  induction count with
  | zero => simp
  | succ count inductionHypothesis =>
      rw [forRange_succ, forRange_succ, inductionHypothesis]
      simp

end Loops

section Words

variable {Config : Type*} {width : Nat}

/-- A family of word updates that all overwrite the bits of `mask` with bits
that do not depend on the old word. -/
structure WordMaskedBy (mask : BitVec width)
    (update : Config → BitVec width → BitVec width) : Prop where
  kept : ∀ config word position (inside : position < width),
    mask[position] = false → (update config word)[position] = word[position]
  fixed : ∀ config first second position (inside : position < width),
    mask[position] = true →
      (update config first)[position] = (update config second)[position]

/-- Some mask describes the family. -/
def WordOverwrites (update : Config → BitVec width → BitVec width) : Prop :=
  ∃ mask, WordMaskedBy mask update

namespace WordOverwrites

theorem const (value : Config → BitVec width) :
    WordOverwrites fun config _ => value config :=
  ⟨BitVec.allOnes width,
    { kept := by simp
      fixed := by simp }⟩

theorem id : WordOverwrites fun (_ : Config) (word : BitVec width) => word :=
  ⟨0,
    { kept := by simp
      fixed := by simp }⟩

/-- Inserting a field extends the overwritten bits by the field's mask. -/
theorem insert (field : BitFields.Field width)
    {update : Config → BitVec width → BitVec width}
    (overwrites : WordOverwrites update) (value : Config → BitVec width) :
    WordOverwrites fun config word =>
      field.insert (update config word) (value config) := by
  obtain ⟨mask, masked⟩ := overwrites
  refine ⟨mask ||| field.mask, ?_, ?_⟩
  · intro config word position inside unmasked
    have parts : mask[position] = false ∧ field.mask[position] = false := by
      simpa using unmasked
    simp [parts.2, masked.kept config word position inside parts.1]
  · intro config first second position inside isMasked
    by_cases inField : field.mask[position] = true
    · simp [inField]
    · have inMask : mask[position] = true := by
        simpa [inField] using isMasked
      simp [inField, masked.fixed config first second position inside inMask]

/-- The later of two members of the family decides. -/
theorem absorbs {update : Config → BitVec width → BitVec width}
    (overwrites : WordOverwrites update) (first last : Config)
    (word : BitVec width) :
    update last (update first word) = update last word := by
  obtain ⟨mask, masked⟩ := overwrites
  ext position inside
  cases isMasked : mask[position] with
  | true => exact masked.fixed last _ _ position inside isMasked
  | false =>
      rw [masked.kept last _ position inside isMasked,
        masked.kept first _ position inside isMasked,
        masked.kept last _ position inside isMasked]

end WordOverwrites

end Words

section Families

variable {Config Key : Type*} {width : Nat}

/-- One family overwrites the bits `mask key` of every register `key`. -/
structure MaskedBy (mask : Key → BitVec width)
    (update : Config → Registers Key width → Registers Key width) : Prop where
  kept : ∀ config regs key position (inside : position < width),
    (mask key)[position] = false →
      (update config regs key)[position] = (regs key)[position]
  fixed : ∀ config first second key position (inside : position < width),
    (mask key)[position] = true →
      (update config first key)[position] = (update config second key)[position]

/-- The family overwrites a fixed set of bits, all inside `support`. -/
def Overwrites (support : Set Key)
    (update : Config → Registers Key width → Registers Key width) : Prop :=
  ∃ mask, (∀ key, key ∉ support → mask key = 0) ∧ MaskedBy mask update

namespace Overwrites

variable {support : Set Key}
  {update after : Config → Registers Key width → Registers Key width}

theorem id : Overwrites support
    fun (_ : Config) (regs : Registers Key width) => regs :=
  ⟨fun _ => 0, fun _ _ => rfl,
    { kept := by simp
      fixed := by simp }⟩

/-- Sequencing two families overwrites the union of their bits. -/
theorem comp (second : Overwrites support after)
    (first : Overwrites support update) :
    Overwrites support fun config regs => after config (update config regs) := by
  obtain ⟨firstMask, firstOutside, firstMasked⟩ := first
  obtain ⟨secondMask, secondOutside, secondMasked⟩ := second
  refine ⟨fun key => firstMask key ||| secondMask key, ?_, ?_, ?_⟩
  · intro key outside
    simp [firstOutside key outside, secondOutside key outside]
  · intro config regs key position inside unmasked
    have parts : (firstMask key)[position] = false ∧
        (secondMask key)[position] = false := by
      simpa using unmasked
    rw [secondMasked.kept config _ key position inside parts.2,
      firstMasked.kept config regs key position inside parts.1]
  · intro config regs other key position inside isMasked
    by_cases inSecond : (secondMask key)[position] = true
    · exact secondMasked.fixed config _ _ key position inside inSecond
    · have keptBySecond : (secondMask key)[position] = false := by
        simpa using inSecond
      have inFirst : (firstMask key)[position] = true := by
        simpa [keptBySecond] using isMasked
      rw [secondMasked.kept config _ key position inside keptBySecond,
        secondMasked.kept config _ key position inside keptBySecond]
      exact firstMasked.fixed config regs other key position inside inFirst

/-- A loop over families overwrites what its iterations overwrite. -/
theorem forRange {count : Nat}
    {body : Config → Nat → Registers Key width → Registers Key width}
    (each : ∀ index, index < count →
      Overwrites support fun config => body config index) :
    Overwrites support fun config regs =>
      RegisterFile.forRange count (body config) regs := by
  induction count with
  | zero => exact id
  | succ count inductionHypothesis =>
      simp only [forRange_succ]
      exact (each count (Nat.lt_succ_self count)).comp
        (inductionHypothesis fun index bound =>
          each index (Nat.lt_succ_of_lt bound))

/-- A guarded statement overwrites what its body overwrites, when the guard does
not depend on the configuration. -/
theorem whenever {condition : Prop} [Decidable condition]
    (body : Overwrites support update) :
    Overwrites support fun config regs =>
      RegisterFile.whenever condition (update config) regs := by
  by_cases holds : condition
  · simpa [RegisterFile.whenever, holds] using body
  · simpa [RegisterFile.whenever, holds] using id

section Statements

variable [DecidableEq Key]

/-- Updating one register of the support by a family of word updates. -/
theorem modifyReg {key : Key} (inside : key ∈ support)
    {wordUpdate : Config → BitVec width → BitVec width}
    (overwrites : WordOverwrites wordUpdate) :
    Overwrites support fun config regs =>
      RegisterFile.modifyReg key (wordUpdate config) regs := by
  obtain ⟨mask, masked⟩ := overwrites
  refine ⟨fun other => if other = key then mask else 0, ?_, ?_, ?_⟩
  · intro other outside
    have different : other ≠ key := fun same => outside (same ▸ inside)
    simp [different]
  · intro config regs other position bound unmasked
    by_cases same : other = key
    · subst same
      simpa [modifyReg_apply] using masked.kept config (regs other) position bound
        (by simpa using unmasked)
    · simp [modifyReg_apply, same]
  · intro config first second other position bound isMasked
    by_cases same : other = key
    · subst same
      simpa [modifyReg_apply] using
        masked.fixed config (first other) (second other) position bound
          (by simpa using isMasked)
    · simp [same] at isMasked

/-- Writing one register of the support with a configured value. -/
theorem write {key : Key} (inside : key ∈ support)
    (value : Config → BitVec width) :
    Overwrites support fun config regs =>
      RegisterFile.write key (value config) regs :=
  modifyReg inside (WordOverwrites.const value)

theorem thenWrite {key : Key} (first : Overwrites support update)
    (inside : key ∈ support) (value : Config → BitVec width) :
    Overwrites support fun config regs =>
      RegisterFile.write key (value config) (update config regs) :=
  (write inside value).comp first

theorem thenModifyReg {key : Key} (first : Overwrites support update)
    (inside : key ∈ support)
    {wordUpdate : Config → BitVec width → BitVec width}
    (overwrites : WordOverwrites wordUpdate) :
    Overwrites support fun config regs =>
      RegisterFile.modifyReg key (wordUpdate config) (update config regs) :=
  (modifyReg inside overwrites).comp first

theorem thenWriteWhenever {key : Key} {condition : Prop} [Decidable condition]
    (first : Overwrites support update)
    (inside : condition → key ∈ support) (value : Config → BitVec width) :
    Overwrites support fun config regs =>
      RegisterFile.whenever condition (RegisterFile.write key (value config))
        (update config regs) := by
  by_cases holds : condition
  · simpa [RegisterFile.whenever, holds] using thenWrite first (inside holds) value
  · simpa [RegisterFile.whenever, holds] using first

end Statements

/-- Reading the configuration through a projection keeps the bits fixed. -/
theorem comap {Source : Type*} (overwrites : Overwrites support update)
    (project : Source → Config) :
    Overwrites support fun source => update (project source) := by
  obtain ⟨mask, outside, masked⟩ := overwrites
  exact ⟨mask, outside,
    { kept := fun source => masked.kept (project source)
      fixed := fun source => masked.fixed (project source) }⟩

end Overwrites

/-- The family touches only `support`, computes it from `support` alone, and its
later member absorbs an earlier one. -/
structure Rewrites (support : Set Key)
    (update : Config → Registers Key width → Registers Key width) : Prop where
  outside : ∀ config regs key, key ∉ support → update config regs key = regs key
  within : ∀ config first second, Set.EqOn first second support →
    Set.EqOn (update config first) (update config second) support
  absorbs : ∀ first last regs,
    update last (update first regs) = update last regs

namespace Rewrites

variable {support other : Set Key}
  {update after : Config → Registers Key width → Registers Key width}

/-- Families with a fixed mask absorb. -/
theorem of_overwrites (overwrites : Overwrites support update) :
    Rewrites support update := by
  obtain ⟨mask, outsideMask, masked⟩ := overwrites
  refine ⟨?_, ?_, ?_⟩
  · intro config regs key outside
    ext position inside
    exact masked.kept config regs key position inside (by
      simp [outsideMask key outside])
  · intro config first second agree key inSupport
    ext position inside
    cases isMasked : (mask key)[position] with
    | true => exact masked.fixed config first second key position inside isMasked
    | false =>
        rw [masked.kept config first key position inside isMasked,
          masked.kept config second key position inside isMasked,
          agree inSupport]
  · intro first last regs
    funext key
    ext position inside
    cases isMasked : (mask key)[position] with
    | true => exact masked.fixed last _ _ key position inside isMasked
    | false =>
        rw [masked.kept last _ key position inside isMasked,
          masked.kept first regs key position inside isMasked,
          masked.kept last regs key position inside isMasked]

/-- Parts with disjoint supports can be programmed one after the other. -/
theorem comp (second : Rewrites other after) (first : Rewrites support update)
    (disjoint : Disjoint support other) :
    Rewrites (support ∪ other) fun config regs =>
      after config (update config regs) := by
  have notOther : ∀ {key}, key ∈ support → key ∉ other := fun inSupport inOther =>
    Set.disjoint_left.mp disjoint inSupport inOther
  have notSupport : ∀ {key}, key ∈ other → key ∉ support :=
    fun inOther inSupport => notOther inSupport inOther
  refine ⟨?_, ?_, ?_⟩
  · intro config regs key outside
    rw [Set.mem_union, not_or] at outside
    rw [second.outside config _ key outside.2,
      first.outside config regs key outside.1]
  · intro config regs regs' agree key inUnion
    rcases inUnion with inSupport | inOther
    · rw [second.outside config _ key (notOther inSupport),
        second.outside config _ key (notOther inSupport)]
      exact first.within config regs regs'
        (agree.mono Set.subset_union_left) inSupport
    · apply second.within config _ _ ?_ inOther
      intro member inside
      rw [first.outside config regs member (notSupport inside),
        first.outside config regs' member (notSupport inside)]
      exact agree (Or.inr inside)
  · intro earlier later regs
    funext key
    by_cases inSupport : key ∈ support
    · calc
        after later (update later (after earlier (update earlier regs))) key =
            update later (after earlier (update earlier regs)) key :=
          second.outside later _ key (notOther inSupport)
        _ = update later (update earlier regs) key :=
          first.within later _ _ (fun member inside =>
            second.outside earlier _ member (notOther inside)) inSupport
        _ = update later regs key := by rw [first.absorbs]
        _ = after later (update later regs) key :=
          (second.outside later _ key (notOther inSupport)).symm
    · by_cases inOther : key ∈ other
      · calc
          after later (update later (after earlier (update earlier regs))) key =
              after later (after earlier (update earlier regs)) key :=
            second.within later _ _ (fun member inside =>
              first.outside later _ member (notSupport inside)) inOther
          _ = after later (update earlier regs) key := by rw [second.absorbs]
          _ = after later (update later regs) key :=
            second.within later _ _ (fun member inside => by
              rw [first.outside earlier regs member (notSupport inside),
                first.outside later regs member (notSupport inside)]) inOther
      · simp only [first.outside _ _ key inSupport, second.outside _ _ key inOther]

/-- Reading the configuration through a projection keeps the laws. -/
theorem comap {Source : Type*} (rewrites : Rewrites support update)
    (project : Source → Config) :
    Rewrites support fun source => update (project source) where
  outside source := rewrites.outside (project source)
  within source := rewrites.within (project source)
  absorbs first last := rewrites.absorbs (project first) (project last)

/-- A family whose configuration is completed by the kept bits of one register
absorbs, provided the register receives the completing word. -/
theorem of_broadcast (source : Key)
    (wordUpdate : Config → BitVec width → BitVec width)
    (body : Config × BitVec width → Registers Key width → Registers Key width)
    (inSupport : source ∈ support) (wordOverwrites : WordOverwrites wordUpdate)
    (overwrites : Overwrites support body)
    (received : ∀ config word regs, body (config, word) regs source = word) :
    Rewrites support fun config regs =>
      body (config, wordUpdate config (regs source)) regs := by
  have rewrites := of_overwrites overwrites
  refine ⟨?_, ?_, ?_⟩
  · intro config regs key outside
    exact rewrites.outside _ regs key outside
  · intro config first second agree
    simp only [agree inSupport]
    exact rewrites.within _ first second agree
  · intro first last regs
    simp only [received, wordOverwrites.absorbs first last]
    exact rewrites.absorbs _ _ regs

end Rewrites

end Families

end RegisterFile
