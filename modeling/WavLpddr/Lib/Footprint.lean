import Mathlib.Dynamics.FixedPoints.Defs
import WavLpddr.Lib.RegisterFile

/-!
# Footprints of register programs

A program is confined to a set of registers when it writes none outside of the set and
computes what it writes from registers of the set alone.  The rules follow the statements of
a program.  A program that is confined to two sets is confined to what they share, and
whether it changes anything depends on its set alone.
-/

namespace RegisterFile

variable {Key : Type*} {width : Nat}

/-- The program accesses only registers in `support`. -/
structure Confined (support : Set Key)
    (program : Registers Key width → Registers Key width) : Prop where
  outside : ∀ regs key, key ∉ support → program regs key = regs key
  within : ∀ first second, Set.EqOn first second support →
    Set.EqOn (program first) (program second) support

theorem Rewrites.confined {Config : Type*} {support : Set Key}
    {update : Config → Registers Key width → Registers Key width}
    (rewrites : Rewrites support update) (config : Config) :
    Confined support (update config) :=
  ⟨rewrites.outside config, rewrites.within config⟩

/-- After a program that absorbs itself there is nothing left to do. -/
theorem Rewrites.isFixedPt {Config : Type*} {support : Set Key}
    {update : Config → Registers Key width → Registers Key width}
    (rewrites : Rewrites support update) (config : Config) (regs : Registers Key width) :
    Function.IsFixedPt (update config) (update config regs) :=
  rewrites.absorbs config config regs

namespace Confined

variable {support other : Set Key} {program after : Registers Key width → Registers Key width}

theorem id : Confined support fun regs : Registers Key width => regs :=
  ⟨fun _ _ _ => rfl, fun _ _ agree => agree⟩

theorem comp (second : Confined support after) (first : Confined support program) :
    Confined support fun regs => after (program regs) where
  outside regs key notInside :=
    (second.outside _ key notInside).trans (first.outside regs key notInside)
  within regs regs' agree := second.within _ _ (first.within regs regs' agree)

/-- Whether a program changes anything is seen from its footprint. -/
theorem isFixedPt_of_eqOn (confined : Confined support program)
    {first second : Registers Key width} (fixed : Function.IsFixedPt program first)
    (agree : Set.EqOn second first support) : Function.IsFixedPt program second := by
  funext key
  by_cases inside : key ∈ support
  · calc
      program second key = program first key := confined.within second first agree inside
      _ = first key := congrFun fixed key
      _ = second key := (agree inside).symm
  · exact confined.outside second key inside

theorem forRange {count : Nat} {body : Nat → Registers Key width → Registers Key width}
    (each : ∀ index, index < count → Confined support (body index)) :
    Confined support fun regs => RegisterFile.forRange count body regs := by
  induction count with
  | zero => exact id
  | succ count inductionHypothesis =>
      simp only [forRange_succ]
      exact (each count (Nat.lt_succ_self count)).comp
        (inductionHypothesis fun index bound => each index (Nat.lt_succ_of_lt bound))

theorem whenever {condition : Prop} [Decidable condition]
    (body : condition → Confined support program) :
    Confined support fun regs => RegisterFile.whenever condition program regs := by
  by_cases holds : condition
  · simpa [RegisterFile.whenever, holds] using body holds
  · simpa [RegisterFile.whenever, holds] using id

/-- What is computed from a register of the support. -/
theorem read {key : Key} (inside : key ∈ support)
    {body : BitVec width → Registers Key width → Registers Key width}
    (each : ∀ value, Confined support (body value)) :
    Confined support fun regs => body (regs key) regs where
  outside regs := (each (regs key)).outside regs
  within first second agree := by
    simp only [agree inside]
    exact (each (second key)).within first second agree

/-- A program that is confined to a part. -/
theorem mono (confined : Confined support program) (subset : support ⊆ other) :
    Confined other program where
  outside regs key notInside :=
    confined.outside regs key fun inside => notInside (subset inside)
  within first second agree key inOther := by
    by_cases inside : key ∈ support
    · exact confined.within first second (agree.mono subset) inside
    · rw [confined.outside first key inside, confined.outside second key inside]
      exact agree inOther

open scoped Classical in
/-- Two footprints: the values outside of either one do not matter. -/
theorem inter (first : Confined support program) (second : Confined other program) :
    Confined (support ∩ other) program where
  outside regs key notInside := by
    by_cases inside : key ∈ support
    · exact second.outside regs key fun inOther => notInside ⟨inside, inOther⟩
    · exact first.outside regs key inside
  within regs regs' agree key inside := by
    -- This file agrees with one on the first footprint and with the other on the second.
    let mixed : Registers Key width := fun key => if key ∈ support then regs key else regs' key
    have sameFirst : Set.EqOn regs mixed support := fun member inSupport =>
      (if_pos inSupport).symm
    have sameSecond : Set.EqOn mixed regs' other := by
      intro member inOther
      by_cases inSupport : member ∈ support
      · exact (if_pos inSupport).trans (agree ⟨inSupport, inOther⟩)
      · exact if_neg inSupport
    calc
      program regs key = program mixed key := first.within regs mixed sameFirst inside.1
      _ = program regs' key := second.within mixed regs' sameSecond inside.2

section Statements

variable [DecidableEq Key]

theorem write {key : Key} (inside : key ∈ support) (value : BitVec width) :
    Confined support fun regs => RegisterFile.write key value regs where
  outside regs other notInside := by
    apply write_of_ne
    rintro rfl
    exact notInside inside
  within first second agree member inSupport := by
    simp only [write_apply, agree inSupport]

theorem modifyReg {key : Key} (inside : key ∈ support)
    (update : BitVec width → BitVec width) :
    Confined support fun regs => RegisterFile.modifyReg key update regs :=
  read inside fun value => write inside (update value)

theorem thenWrite {key : Key} (first : Confined support program) (inside : key ∈ support)
    (value : BitVec width) :
    Confined support fun regs => RegisterFile.write key value (program regs) :=
  (write inside value).comp first

theorem thenModifyReg {key : Key} (first : Confined support program) (inside : key ∈ support)
    (update : BitVec width → BitVec width) :
    Confined support fun regs => RegisterFile.modifyReg key update (program regs) :=
  (modifyReg inside update).comp first

theorem thenWriteWhenever {key : Key} {condition : Prop} [Decidable condition]
    (first : Confined support program) (inside : condition → key ∈ support)
    (value : BitVec width) :
    Confined support fun regs =>
      RegisterFile.whenever condition (RegisterFile.write key value) (program regs) :=
  (whenever fun holds => write (inside holds) value).comp first

end Statements

end Confined

end RegisterFile
