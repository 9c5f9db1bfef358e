import WavLpddr.Lib.BitFields
import WavLpddr.Lib.EventMachine

/-!
# The kernel, the build and the device beneath the firmware

The firmware is linked against a kernel whose sources are not part of the
repository, is configured by Kconfig symbols, and runs on a device with a
packet FIFO.  Each of these is a parameter of the model.  What the firmware
relies on is recorded as a law of the parameter and nothing more is assumed.
-/

namespace WavLpddr

/-- A memory-mapped 32-bit register value. -/
abbrev Word := BitVec 32

/-- A register field, as generated into the `*_csr.h` headers by `__MSK` and
`__SHFT`. -/
abbrev RegField := BitFields.Field 32

/-- `kernel/io.h`: the two field macros every driver is written with. -/
class KernelIo where
  updateRegField : Word → RegField → Word → Word
  getRegField : Word → RegField → Word
  updateRegField_eq : ∀ reg field value,
    updateRegField reg field value = field.insert reg value
  getRegField_eq : ∀ reg field, getRegField reg field = field.extract reg

export KernelIo (updateRegField getRegField updateRegField_eq getRegField_eq)

section Fields

variable [KernelIo]

/-- A field reads back the part of a value that fits into it. -/
theorem getRegField_updateRegField_cut (reg : Word) (field : RegField) (value : Word) :
    getRegField (updateRegField reg field value) field = field.cut value := by
  rw [updateRegField_eq, getRegField_eq, BitFields.Field.extract_insert]

theorem getRegField_updateRegField (reg : Word) (field : RegField) (value : Word)
    (fits : ((value <<< field.shift) &&& field.mask) >>> field.shift = value) :
    getRegField (updateRegField reg field value) field = value :=
  (getRegField_updateRegField_cut reg field value).trans fits

theorem getRegField_updateRegField_of_disjoint (reg : Word) (target other : RegField)
    (value : Word) (disjoint : target.mask &&& other.mask = 0) :
    getRegField (updateRegField reg other value) target = getRegField reg target := by
  rw [updateRegField_eq, getRegField_eq, getRegField_eq,
    BitFields.Field.extract_insert_of_disjoint target other disjoint]

end Fields

/-- The build options that select code in the modelled functions. -/
class BuildConfig where
  /-- `configASSERT` calls `vAssertCalled` instead of expanding to nothing. -/
  configAssert : Bool
  /-- `CONFIG_CAL_PERIODIC` -/
  configCalPeriodic : Bool
  /-- `CONFIG_CALIBRATE_PLL` -/
  configCalibratePll : Bool
  /-- `CONFIG_CALIBRATE_SA` -/
  configCalibrateSa : Bool
  /-- `CONFIG_CALIBRATE_ZQCAL` -/
  configCalibrateZqcal : Bool
  /-- `CONFIG_DRAM_TRAIN` -/
  configDramTrain : Bool

/-- What varies between devices: how many packets the ingress FIFO holds. -/
class Device where
  ingressFifoDepth : Nat

/-- The messages and version numbers that `messages_general.h` and the build supply
to `handle_message`. -/
class GeneralMessages where
  mcuBootReq : Word
  mcuBootResp : Word
  mcuBootRespStatus : RegField
  mcuBootRespCode : RegField
  fwVerReq : Word
  fwVerResp : Word
  fwVerRespMajor : RegField
  fwVersionMajor : Word
  fwVersionMinor : Word
  fwVersionPatch : Word
  hwVerReq : Word
  hwVerResp : Word
  hwVerRespMajor : RegField
  hwVerRespMinor : RegField

/-- Everything the modelled code is parametrised by. -/
class Platform extends KernelIo, EventMachine.Engine, BuildConfig, Device, GeneralMessages

/-- `wddr_return_t` -/
inductive WddrReturn
  | wddrSuccess
  | wddrError
  | wddrErrorNotValidFreq
  | wddrErrorDfiPacketFifoFull
  | wddrErrorDfiPacketFifoEmpty
  | wddrErrorZqcalPcalAtMin
  | wddrErrorZqcalPcalAtMax
  | wddrErrorZqcalNcalAtMin
  | wddrErrorZqcalNcalAtMax
deriving DecidableEq, Repr

/-- Run a body for each index in turn and return at the first failure, as
`PROPAGATE_ERROR` inside a loop does. -/
def propagateErrors {Index State : Type} (body : Index → State → WddrReturn × State) :
    List Index → State → WddrReturn × State
  | [], state => (.wddrSuccess, state)
  | index :: rest, state =>
      match body index state with
      | (.wddrSuccess, state) => propagateErrors body rest state
      | (failure, state) => (failure, state)

section PropagateErrors

variable {Index State : Type} {body : Index → State → WddrReturn × State}

/-- What each iteration keeps, a loop that stops at the first failure keeps. -/
theorem propagateErrors_induction {motive : State → Prop}
    (turn : ∀ index state, motive state → motive (body index state).2)
    (indices : List Index) {start : State} (holds : motive start) :
    motive (propagateErrors body indices start).2 := by
  induction indices generalizing start with
  | nil => exact holds
  | cons index rest inductionHypothesis =>
      have holdsAfter := turn index start holds
      unfold propagateErrors
      split
      · rename_i returned
        rw [returned] at holdsAfter
        exact inductionHypothesis holdsAfter
      · rename_i returned
        rw [returned] at holdsAfter
        exact holdsAfter

/-- A successful run, taken apart at its first iteration. -/
theorem propagateErrors_cons_success {index : Index} {rest : List Index}
    {state after : State} :
    propagateErrors body (index :: rest) state = (.wddrSuccess, after) ↔
      ∃ between, body index state = (.wddrSuccess, between) ∧
        propagateErrors body rest between = (.wddrSuccess, after) := by
  constructor
  · intro returned
    unfold propagateErrors at returned
    split at returned
    · rename_i between first
      exact ⟨between, first, returned⟩
    · rename_i failure between failed first
      cases returned
      exact absurd rfl failed
  · rintro ⟨between, first, later⟩
    simp only [propagateErrors, first, later]

/-- What each successful iteration keeps, a successful loop keeps. -/
theorem propagateErrors_success_induction {motive : State → Prop} {indices : List Index}
    {start after : State}
    (turn : ∀ index ∈ indices, ∀ state next, motive state →
      body index state = (.wddrSuccess, next) → motive next)
    (holds : motive start) (returned : propagateErrors body indices start = (.wddrSuccess, after)) :
    motive after := by
  induction indices generalizing start with
  | nil =>
      cases returned
      exact holds
  | cons index rest inductionHypothesis =>
      obtain ⟨between, first, later⟩ := propagateErrors_cons_success.mp returned
      have holdsNow := turn index List.mem_cons_self start between holds first
      apply inductionHypothesis _ holdsNow later
      intro other inRest
      exact turn other (List.mem_cons_of_mem index inRest)

theorem propagateErrors_append (first second : List Index) (state : State) :
    propagateErrors body (first ++ second) state =
      match propagateErrors body first state with
      | (.wddrSuccess, between) => propagateErrors body second between
      | (failure, between) => (failure, between) := by
  induction first generalizing state with
  | nil => rfl
  | cons index rest inductionHypothesis =>
      simp only [List.cons_append, propagateErrors]
      split
      · exact inductionHypothesis _
      · rename_i failure between failed returned
        split
        · rename_i after success
          cases success
          exact absurd rfl failed
        · rename_i same
          exact same

theorem propagateErrors_flatMap {Outer : Type} (inner : Outer → List Index)
    (outer : List Outer) (state : State) :
    propagateErrors body (outer.flatMap inner) state =
      propagateErrors (fun part => propagateErrors body (inner part)) outer state := by
  induction outer generalizing state with
  | nil => rfl
  | cons part rest inductionHypothesis =>
      rw [List.flatMap_cons, propagateErrors_append, propagateErrors]
      split
      · exact inductionHypothesis _
      · rfl

theorem propagateErrors_fst_eq_success {passes : Index → Prop}
    (turn : ∀ index state, (body index state).1 = .wddrSuccess ↔ passes index)
    (indices : List Index) (state : State) :
    (propagateErrors body indices state).1 = .wddrSuccess ↔
      ∀ index ∈ indices, passes index := by
  induction indices generalizing state with
  | nil => simp [propagateErrors]
  | cons index rest inductionHypothesis =>
      rw [List.forall_mem_cons, ← turn index state, propagateErrors]
      split
      · rename_i between first
        rw [inductionHypothesis between, first]
        simp
      · rename_i failure between failed first
        have notSuccess : failure ≠ .wddrSuccess := failed
        simp [first, notSuccess]

/-- What one iteration establishes and the other ones keep holds of every index after a
successful loop. -/
theorem propagateErrors_establishes (holds : Index → State → Prop)
    (establishes : ∀ index state after,
      body index state = (.wddrSuccess, after) → holds index after)
    (keeps : ∀ index other state after, other ≠ index →
      body index state = (.wddrSuccess, after) → holds other state → holds other after)
    {indices : List Index} {start after : State}
    (returned : propagateErrors body indices start = (.wddrSuccess, after)) :
    ∀ index ∈ indices, holds index after := by
  have kept : ∀ {rest : List Index} {other : Index} {state : State},
      propagateErrors body rest state = (.wddrSuccess, after) → holds other state →
        holds other after := by
    intro rest other state later held
    induction rest generalizing state with
    | nil =>
        cases later
        exact held
    | cons index rest inductionHypothesis =>
        obtain ⟨between, first, later⟩ := propagateErrors_cons_success.mp later
        refine inductionHypothesis later ?_
        by_cases same : other = index
        · exact same ▸ establishes index state between first
        · exact keeps index other state between same first held
  induction indices generalizing start with
  | nil => exact fun _ listed => nomatch listed
  | cons index rest inductionHypothesis =>
      obtain ⟨between, first, later⟩ := propagateErrors_cons_success.mp returned
      intro other listed
      rcases List.mem_cons.mp listed with rfl | inRest
      · exact kept later (establishes other start between first)
      · exact inductionHypothesis later other inRest

/-- A failing loop ends with the iteration that failed. -/
theorem exists_failing_of_propagateErrors {ret : WddrReturn} {indices : List Index}
    {start after : State} (failed : ret ≠ .wddrSuccess)
    (returned : propagateErrors body indices start = (ret, after)) :
    ∃ index ∈ indices, ∃ before, body index before = (ret, after) := by
  induction indices generalizing start with
  | nil =>
      cases returned
      exact absurd rfl failed
  | cons index rest inductionHypothesis =>
      unfold propagateErrors at returned
      split at returned
      · obtain ⟨failing, listed, before, stopped⟩ := inductionHypothesis returned
        exact ⟨failing, List.mem_cons_of_mem index listed, before, stopped⟩
      · rename_i first
        exact ⟨index, List.mem_cons_self, start, first.trans returned⟩

/-- If each iteration updates the entry of its own index, or fails and leaves all entries, the
loop updates the entries up to the first index that fails. -/
theorem propagateErrors_updates {Entry : Type} [DecidableEq Index] (entry : State → Index → Entry)
    (target : Index → Entry) {passes : Index → Prop}
    (accepted : ∀ index state, passes index → (body index state).1 = .wddrSuccess ∧
      entry (body index state).2 = Function.update (entry state) index (target index))
    (refused : ∀ index state, ¬ passes index → (body index state).1 ≠ .wddrSuccess ∧
      entry (body index state).2 = entry state)
    (indices : List Index) (start : State) :
    ((propagateErrors body indices start).1 = .wddrSuccess ↔ ∀ index ∈ indices, passes index) ∧
      ∃ earlier later, indices = earlier ++ later ∧ (∀ index ∈ earlier, passes index) ∧
        (∀ failing ∈ later.head?, ¬ passes failing) ∧
        ((propagateErrors body indices start).1 = .wddrSuccess ↔ later = []) ∧
        ∀ index, entry (propagateErrors body indices start).2 index =
          if index ∈ earlier then target index else entry start index := by
  have turn : ∀ index state, (body index state).1 = .wddrSuccess ↔ passes index :=
    fun index state => ⟨fun succeeded => by_contra fun failed =>
      (refused index state failed).1 succeeded, fun passed => (accepted index state passed).1⟩
  refine ⟨propagateErrors_fst_eq_success turn indices start, ?_⟩
  induction indices generalizing start with
  | nil =>
      refine ⟨[], [], rfl, by simp, by simp, ?_, ?_⟩
      · simp [propagateErrors]
      · simp [propagateErrors]
  | cons index rest inductionHypothesis =>
      by_cases passed : passes index
      · obtain ⟨succeeded, updated⟩ := accepted index start passed
        obtain ⟨earlier, later, split, passing, failing, success, entries⟩ :=
          inductionHypothesis (body index start).2
        have turned : propagateErrors body (index :: rest) start =
            propagateErrors body rest (body index start).2 := by
          rw [propagateErrors, ← Prod.eta (body index start), succeeded]
        refine ⟨index :: earlier, later, by rw [split, List.cons_append],
          List.forall_mem_cons.mpr ⟨passed, passing⟩, failing, by rw [turned, success], ?_⟩
        intro other
        rw [turned, entries, updated]
        by_cases inEarlier : other ∈ earlier
        · rw [if_pos inEarlier, if_pos (List.mem_cons_of_mem index inEarlier)]
        · rw [if_neg inEarlier]
          by_cases same : other = index
          · rw [same, Function.update_self, if_pos List.mem_cons_self]
          · rw [Function.update_of_ne same, if_neg (by simp [same, inEarlier])]
      · obtain ⟨failed, kept⟩ := refused index start passed
        have stopped : propagateErrors body (index :: rest) start = body index start := by
          unfold propagateErrors
          split
          · rename_i succeeded
            exact absurd (congrArg Prod.fst succeeded) failed
          · rename_i failure
            exact failure.symm
        refine ⟨[], index :: rest, rfl, by simp, by simpa using passed, ?_, ?_⟩
        · rw [stopped]
          exact iff_of_false failed (List.cons_ne_nil _ _)
        · intro other
          rw [stopped, kept, if_neg List.not_mem_nil]

end PropagateErrors

/-- `wddr_msr_t`: the two banks of mode-set registers. -/
inductive WddrMsr
  | msr0
  | msr1
deriving DecidableEq, Repr

namespace WddrMsr

/-- The bank as an array index. -/
def index : WddrMsr → Nat
  | msr0 => 0
  | msr1 => 1

/-- The bank that is not `msr`. -/
def other : WddrMsr → WddrMsr
  | msr0 => msr1
  | msr1 => msr0

end WddrMsr

/-- A C truth value stored into a register field. -/
def boolWord (value : Bool) : Word :=
  if value then 1 else 0

/-- The places where a failing `configASSERT` stops the firmware. -/
inductive AssertSite
  | errorEntryHandler
  | fswPrepareSwitchHandler
  | fswPendingEntryHandler
  | dfiPhyupdTimerCallback
  | wddrIocalCalibrate
  | wddrSwFreqSwitch
  | pllGetNextVco
deriving DecidableEq, Repr

/-- Ways a run of the firmware can go wrong. -/
inductive Fault
  /-- `vAssertCalled` was entered, which shuts the firmware down. -/
  | assertion (site : AssertSite)
  /-- A null pointer was followed. -/
  | nullPointer
  /-- The frequency table was indexed out of range or at an invalid entry. -/
  | tableIndex
  /-- A loop did not end within the steps the model allows it. -/
  | nonTermination
deriving DecidableEq, Repr

/-- `configASSERT(condition)` -/
def configASSERT [BuildConfig] (site : AssertSite) (condition : Bool) :
    Except Fault Unit :=
  if BuildConfig.configAssert && !condition then .error (.assertion site) else .ok ()

section ConfigAssert

variable [BuildConfig] {site : AssertSite}

@[simp]
theorem configASSERT_true : configASSERT site true = .ok () := by
  simp [configASSERT]

end ConfigAssert

/-- A platform on which concrete runs are evaluated: field macros as masked
updates, the straightforward event dispatcher, assertions and periodic
calibration compiled in, no boot-time calibration, a FIFO of 64 packets, and some
numbering of the general messages. -/
@[reducible]
def referencePlatform : Platform where
  updateRegField reg field value := field.insert reg value
  getRegField reg field := field.extract reg
  updateRegField_eq _ _ _ := rfl
  getRegField_eq _ _ := rfl
  toEngine := EventMachine.dispatchEngine
  configAssert := true
  configCalPeriodic := true
  configCalibratePll := false
  configCalibrateSa := false
  configCalibrateZqcal := false
  configDramTrain := false
  ingressFifoDepth := 64
  mcuBootReq := 0x00010000
  mcuBootResp := 0x00010001
  mcuBootRespStatus := ⟨0xff, 0⟩
  mcuBootRespCode := ⟨0xff00, 8⟩
  fwVerReq := 0x00010002
  fwVerResp := 0x00010003
  fwVerRespMajor := ⟨0xff, 0⟩
  fwVersionMajor := 1
  fwVersionMinor := 0
  fwVersionPatch := 0
  hwVerReq := 0x00010004
  hwVerResp := 0x00010005
  hwVerRespMajor := ⟨0xff, 0⟩
  hwVerRespMinor := ⟨0xff00, 8⟩

end WavLpddr
