import Mathlib.Tactic.IntervalCases
import WavLpddr.DramSequence

/-!
# Commands decoded from their frames

A command takes one or two halves of two frames each.  In a half the chip select is high
with the first frame, which carries the operation code on CA[4:0], and low with the second
one.  Decoding the four frames of a command gives back its arguments, except for the highest
bit of a bank address, which the mask of the write frame drops.
-/

namespace WavLpddr

section Frames

variable (cs : Chipselect)

/-- The pins of a write's first frame. -/
def wr1Pins (bl : BurstLength) : BitVec 8 :=
  let bl : BitVec 8 := if bl = .bl32 then 1 else 0
  0b000100 ||| (bl <<< 5)

/-- `create_write_frame` -/
def createWriteFrame (bankAddress columnAddress ap : BitVec 8) (bl : BurstLength) :
    Nat → CommandFrame
  | 0 => ⟨cs.high, wr1Pins bl⟩
  | 1 => ⟨0, ((0x3 : BitVec 8) &&& bankAddress) ||| ((columnAddress &&& 0x80) >>> 3) ||| (ap <<< 5)⟩
  | 2 => ⟨cs.high, 0b010010 ||| ((columnAddress &&& 0x40) >>> 1)⟩
  | 3 => ⟨0, columnAddress &&& 0x3F⟩
  | _ => ⟨0, 0⟩

/-- `create_mode_register_read_frame` -/
def createModeRegisterReadFrame (modeAddress : BitVec 8) : Nat → CommandFrame
  | 0 => ⟨cs.high, 0b001110⟩
  | 1 => ⟨0, modeAddress &&& 0x3F⟩
  | 2 => ⟨cs.high, 0b010010⟩
  | 3 => ⟨0, 0⟩
  | _ => ⟨0, 0⟩

/-- The frames of the commands that take one half, which differ in its pins. -/
def createSingleFrame (caPins : BitVec 8) : Nat → CommandFrame
  | 0 => ⟨cs.high, caPins⟩
  | _ => ⟨0, 0⟩

/-- `create_self_refresh_entry_frame` -/
def createSelfRefreshEntryFrame : Nat → CommandFrame := createSingleFrame cs 0b011000

/-- `create_self_refresh_exit_frame` -/
def createSelfRefreshExitFrame : Nat → CommandFrame := createSingleFrame cs 0b010100

/-- `create_refresh_all_banks_frame` -/
def createRefreshAllBanksFrame : Nat → CommandFrame := createSingleFrame cs 0b101000

def createWriteCommand (bl : BurstLength) (bankAddress columnAddress ap : BitVec 8) :
    Nat → CommandFrame :=
  createWriteFrame cs bankAddress columnAddress ap bl

/-- As for a write, a mode register beyond the last one leaves the zeroed command. -/
def createReadModeRegisterCommand (modeRegister : BitVec 8) : Nat → CommandFrame :=
  if modeRegisterNumMax < modeRegister then fun _ => ⟨0, 0⟩
  else createModeRegisterReadFrame cs modeRegister

def createSelfRefreshEntryCommand : Nat → CommandFrame := createSelfRefreshEntryFrame cs

def createSelfRefreshExitCommand : Nat → CommandFrame := createSelfRefreshExitFrame cs

def createRefreshAllBanksCommand : Nat → CommandFrame := createRefreshAllBanksFrame cs

end Frames

/-- A mode register that exists. -/
abbrev ModeRegister := {modeRegister : BitVec 8 // modeRegister ≤ modeRegisterNumMax}

/-- A call of one of the constructors, with arguments in their ranges: BA[2:0], C[9:2] and
the auto precharge flag. -/
inductive CommandCall
  | write (bl : BurstLength) (bankAddress : BitVec 3) (columnAddress : BitVec 8) (ap : BitVec 1)
  | writeModeRegister (modeRegister : ModeRegister) (op : BitVec 8)
  | readModeRegister (modeRegister : ModeRegister)
  | wrfifo
  | rdfifo
  | rddq
  | selfRefreshEntry
  | selfRefreshExit
  | refreshAllBanks
deriving DecidableEq

/-- The frames of a call for a chip. -/
def CommandCall.frames (cs : Chipselect) : CommandCall → Nat → CommandFrame
  | write bl bankAddress columnAddress ap =>
      createWriteCommand cs bl (bankAddress.setWidth 8) columnAddress (ap.setWidth 8)
  | writeModeRegister modeRegister op =>
      createWriteModeRegisterCommand cs.ctorIdx modeRegister op
  | readModeRegister modeRegister => createReadModeRegisterCommand cs modeRegister
  | wrfifo => createWrfifoCommand cs
  | rdfifo => createRdfifoCommand cs
  | rddq => createRddqCommand cs
  | selfRefreshEntry => createSelfRefreshEntryCommand cs
  | selfRefreshExit => createSelfRefreshExitCommand cs
  | refreshAllBanks => createRefreshAllBanksCommand cs

section Decode

/-- One half of a command: the operation code on CA[4:0] and CA[5] while the chip select is
high, and CA[5:0] while it is low. -/
structure HalfCommand where
  cs : Chipselect
  opcode : BitVec 5
  last : BitVec 1
  low : BitVec 6
deriving DecidableEq

/-- The chip that a frame selects. -/
def CommandFrame.chip? (frame : CommandFrame) : Option Chipselect :=
  if frame.cs = 1 then some .cs0 else if frame.cs = 2 then some .cs1 else none

/-- The half of two frames.  The chip select is low with the second one. -/
def halfCommand? (first second : CommandFrame) : Option HalfCommand :=
  if second.cs = 0 ∧ first.caPins < 0x40 ∧ second.caPins < 0x40 then
    first.chip?.map fun cs =>
      ⟨cs, first.caPins.setWidth 5, first.caPins.extractLsb' 5 1, second.caPins.setWidth 6⟩
  else none

/-- The commands that take one half. -/
def singleCommand? (half : HalfCommand) : Option CommandCall :=
  if half.low ≠ 0 then none
  else if half.opcode = 0b11000 ∧ half.last = 0 then some .selfRefreshEntry
  else if half.opcode = 0b10100 ∧ half.last = 0 then some .selfRefreshExit
  else if half.opcode = 0b01000 ∧ half.last = 1 then some .refreshAllBanks
  else none

/-- The multi-purpose commands by OP[5:0]. -/
def mpcCommand? (op : BitVec 6) : Option CommandCall :=
  if op = 0b000111 then some .wrfifo
  else if op = 0b000001 then some .rdfifo
  else if op = 0b000011 then some .rddq
  else none

/-- A mode register from MA[5:0]. -/
def modeRegister? (address : BitVec 6) : Option ModeRegister :=
  if known : address.setWidth 8 ≤ modeRegisterNumMax then some ⟨address.setWidth 8, known⟩
  else none

/-- The commands that take two halves: WRITE-1, MRW-1, MRR-1 or MPC, and CAS-2 or MRW-2. -/
def doubleCommand? (first second : HalfCommand) : Option CommandCall :=
  if second.opcode = 0b10110 then
    if first.opcode = 0b00110 then
      (modeRegister? first.low).map (.writeModeRegister · (first.last ++ second.last ++ second.low))
    else none
  else if second.opcode = 0b10010 then
    if first.opcode = 0b00100 then
      some (.write (if first.last = 1 then .bl32 else .bl16) (first.low.setWidth 3)
        (first.low.extractLsb' 4 1 ++ second.last ++ second.low) (first.low.extractLsb' 5 1))
    else if second.last ++ second.low ≠ 0 then none
    else if first.opcode = 0b01110 ∧ first.last = 0 then
      (modeRegister? first.low).map .readModeRegister
    else if first.opcode = 0b00000 ∧ first.last = 1 then mpcCommand? first.low
    else none
  else none

/-- The chip and the command of four frames.  After a command of one half no chip is
selected. -/
def decodeFrames (frames : Nat → CommandFrame) : Option (Chipselect × CommandCall) := do
  let first ← halfCommand? (frames 0) (frames 1)
  if frames 2 = ⟨0, 0⟩ ∧ frames 3 = ⟨0, 0⟩ then
    (singleCommand? first).map (first.cs, ·)
  else
    let second ← halfCommand? (frames 2) (frames 3)
    if second.cs = first.cs then (doubleCommand? first second).map (first.cs, ·)
    else none

section Pins

/-- Pins without the upper two bits. -/
theorem caPins_lt {pins : BitVec 8} (sixth : pins.getLsbD 6 = false)
    (seventh : pins.getLsbD 7 = false) : pins < 0x40 := by
  have low : pins = pins &&& 0x3F := by
    ext index small
    interval_cases index <;> simp_all
  have masked : pins.toNat &&& 63 ≤ 63 := Nat.and_le_right
  rw [low, BitVec.lt_def, BitVec.toNat_and]
  change pins.toNat &&& 63 < 64
  omega

theorem halfCommand?_eq (cs : Chipselect) {first second : BitVec 8} (firstFits : first < 0x40)
    (secondFits : second < 0x40) :
    halfCommand? ⟨cs.high, first⟩ ⟨0, second⟩ =
      some ⟨cs, first.setWidth 5, first.extractLsb' 5 1, second.setWidth 6⟩ := by
  have chip : CommandFrame.chip? ⟨cs.high, first⟩ = some cs := by cases cs <;> rfl
  rw [halfCommand?, if_pos ⟨rfl, firstFits, secondFits⟩, chip]
  rfl

/-- Two bits and the six below them. -/
theorem append_bits (value : BitVec 8) :
    value.extractLsb' 7 1 ++ value.extractLsb' 6 1 ++ value.setWidth 6 = value := by
  apply BitVec.eq_of_getLsbD_eq
  intro index small
  rw [BitVec.getLsbD_append, BitVec.getLsbD_append]
  interval_cases index <;> simp

/-- A pin that carries a bit of an argument, and the operation code beside it. -/
theorem low_setWidth (value : BitVec 8) :
    (value &&& 0x3F) < 0x40 ∧ (value &&& 0x3F).setWidth 6 = value.setWidth 6 := by
  constructor
  · exact caPins_lt (by simp) (by simp)
  · ext index small
    interval_cases index <;> simp

theorem mrw1_pins (op : BitVec 8) :
    let pins := mrw1CaPins ||| ((op &&& 0x80) >>> 2)
    pins < 0x40 ∧ pins.setWidth 5 = 0b00110 ∧ pins.extractLsb' 5 1 = op.extractLsb' 7 1 := by
  refine ⟨caPins_lt (by simp [mrw1CaPins]) (by simp [mrw1CaPins]), ?_, ?_⟩
  · ext index small
    interval_cases index <;> simp [mrw1CaPins]
  · ext index small
    interval_cases index
    simp [mrw1CaPins]

theorem second_pins (opcode : BitVec 5) (value : BitVec 8) :
    let pins := opcode.setWidth 8 ||| ((value &&& 0x40) >>> 1)
    pins < 0x40 ∧ pins.setWidth 5 = opcode ∧ pins.extractLsb' 5 1 = value.extractLsb' 6 1 := by
  refine ⟨caPins_lt (by simp) (by simp), ?_, ?_⟩
  · ext index small
    interval_cases index <;> simp
  · ext index small
    interval_cases index
    simp

theorem address_pins (bankAddress : BitVec 3) (columnAddress : BitVec 8) (ap : BitVec 1) :
    let pins := ((0x3 : BitVec 8) &&& bankAddress.setWidth 8) |||
      ((columnAddress &&& 0x80) >>> 3) ||| (ap.setWidth 8 <<< 5)
    pins < 0x40 ∧ (pins.setWidth 6).setWidth 3 = bankAddress &&& 0b011 ∧
      (pins.setWidth 6).extractLsb' 4 1 = columnAddress.extractLsb' 7 1 ∧
      (pins.setWidth 6).extractLsb' 5 1 = ap := by
  refine ⟨caPins_lt (by simp) (by simp), ?_, ?_, ?_⟩
  · ext index small
    interval_cases index <;> simp
  · ext index small
    interval_cases index
    simp
  · ext index small
    interval_cases index
    simp

end Pins

theorem Chipselect.high_ne_zero (cs : Chipselect) : cs.high ≠ 0 := by
  cases cs <;> decide

/-- The half of a command with one of them. -/
theorem decodeFrames_single (cs : Chipselect) {pins : BitVec 8} (fits : pins < 0x40) :
    decodeFrames (createSingleFrame cs pins) =
      (singleCommand? ⟨cs, pins.setWidth 5, pins.extractLsb' 5 1, 0⟩).map (cs, ·) := by
  have half : halfCommand? (createSingleFrame cs pins 0) (createSingleFrame cs pins 1) =
      some ⟨cs, pins.setWidth 5, pins.extractLsb' 5 1, 0⟩ :=
    halfCommand?_eq cs fits (by decide : (0 : BitVec 8) < 0x40)
  have deselected : createSingleFrame cs pins 2 = ⟨0, 0⟩ ∧ createSingleFrame cs pins 3 = ⟨0, 0⟩ :=
    ⟨rfl, rfl⟩
  rw [decodeFrames, half, Option.bind_eq_bind, Option.bind_some, if_pos deselected]

/-- The halves of a command with two of them. -/
theorem decodeFrames_double (cs : Chipselect) {frames : Nat → CommandFrame}
    {first second third fourth : BitVec 8} (isFirst : frames 0 = ⟨cs.high, first⟩)
    (isSecond : frames 1 = ⟨0, second⟩) (isThird : frames 2 = ⟨cs.high, third⟩)
    (isFourth : frames 3 = ⟨0, fourth⟩) (firstFits : first < 0x40) (secondFits : second < 0x40)
    (thirdFits : third < 0x40) (fourthFits : fourth < 0x40) :
    decodeFrames frames =
      (doubleCommand? ⟨cs, first.setWidth 5, first.extractLsb' 5 1, second.setWidth 6⟩
        ⟨cs, third.setWidth 5, third.extractLsb' 5 1, fourth.setWidth 6⟩).map (cs, ·) := by
  have selected : ¬ (frames 2 = ⟨0, 0⟩ ∧ frames 3 = ⟨0, 0⟩) := by
    rintro ⟨deselected, -⟩
    rw [isThird, CommandFrame.mk.injEq] at deselected
    exact cs.high_ne_zero deselected.1
  rw [decodeFrames, isFirst, isSecond, halfCommand?_eq cs firstFits secondFits,
    Option.bind_eq_bind, Option.bind_some, if_neg selected, isThird, isFourth,
    halfCommand?_eq cs thirdFits fourthFits, Option.bind_some, if_pos rfl]

section Halves

variable (cs : Chipselect) (low : BitVec 6)

theorem doubleCommand?_write (last next : BitVec 1) (column : BitVec 6) :
    doubleCommand? ⟨cs, 0b00100, last, low⟩ ⟨cs, 0b10010, next, column⟩ =
      some (.write (if last = 1 then .bl32 else .bl16) (low.setWidth 3)
        (low.extractLsb' 4 1 ++ next ++ column) (low.extractLsb' 5 1)) := by
  simp [doubleCommand?]

theorem doubleCommand?_writeModeRegister (last next : BitVec 1) (rest : BitVec 6) :
    doubleCommand? ⟨cs, 0b00110, last, low⟩ ⟨cs, 0b10110, next, rest⟩ =
      (modeRegister? low).map (.writeModeRegister · (last ++ next ++ rest)) :=
  (if_pos rfl).trans (if_pos rfl)

theorem doubleCommand?_readModeRegister :
    doubleCommand? ⟨cs, 0b01110, 0, low⟩ ⟨cs, 0b10010, 0, 0⟩ =
      (modeRegister? low).map .readModeRegister := by
  simp [doubleCommand?]

end Halves

theorem modeRegister?_setWidth (modeRegister : ModeRegister) :
    modeRegister? ((modeRegister.1).setWidth 6) = some modeRegister := by
  have known : modeRegister.1.toNat ≤ 40 := modeRegister.2
  have whole : (modeRegister.1.setWidth 6).setWidth 8 = modeRegister.1 := by
    apply BitVec.eq_of_toNat_eq
    rw [BitVec.toNat_setWidth, BitVec.toNat_setWidth]
    omega
  unfold modeRegister?
  rw [dif_pos (by rw [whole]; exact modeRegister.2)]
  exact congrArg some (Subtype.ext whole)

end Decode

section RoundTrip

/-- A call with BA2 cleared. -/
def CommandCall.withoutBa2 : CommandCall → CommandCall
  | write bl bankAddress columnAddress ap => write bl (bankAddress &&& 0b011) columnAddress ap
  | call => call

theorem decodeFrames_write (cs : Chipselect) (bl : BurstLength) (bankAddress : BitVec 3)
    (columnAddress : BitVec 8) (ap : BitVec 1) :
    decodeFrames (CommandCall.frames cs (.write bl bankAddress columnAddress ap)) =
      some (cs, .write bl (bankAddress &&& 0b011) columnAddress ap) := by
  obtain ⟨secondFits, bank, highest, flag⟩ := address_pins bankAddress columnAddress ap
  obtain ⟨thirdFits, cas2, next⟩ := second_pins 0b10010 columnAddress
  obtain ⟨fourthFits, column⟩ := low_setWidth columnAddress
  obtain ⟨firstFits, wr1, length⟩ : wr1Pins bl < 0x40 ∧
      (wr1Pins bl).setWidth 5 = (0b00100 : BitVec 5) ∧
      (if (wr1Pins bl).extractLsb' 5 1 = 1 then BurstLength.bl32 else .bl16) = bl := by
    cases bl <;> decide
  rw [decodeFrames_double cs rfl rfl rfl rfl firstFits secondFits thirdFits fourthFits, wr1, cas2,
    next, column, doubleCommand?_write, length, bank, highest, flag, append_bits]
  rfl

theorem decodeFrames_writeModeRegister (cs : Chipselect) (modeRegister : ModeRegister)
    (op : BitVec 8) :
    decodeFrames (CommandCall.frames cs (.writeModeRegister modeRegister op)) =
      some (cs, .writeModeRegister modeRegister op) := by
  obtain ⟨firstFits, mrw1, highest⟩ := mrw1_pins op
  obtain ⟨secondFits, register⟩ := low_setWidth modeRegister.1
  obtain ⟨thirdFits, mrw2, next⟩ := second_pins 0b10110 op
  obtain ⟨fourthFits, rest⟩ := low_setWidth op
  have frames : CommandCall.frames cs (.writeModeRegister modeRegister op) =
      createModeRegisterWriteFrame cs.ctorIdx modeRegister op :=
    if_neg (BitVec.not_lt.mpr modeRegister.2)
  rw [frames, decodeFrames_double cs (by cases cs <;> rfl) rfl (by cases cs <;> rfl) rfl firstFits
    secondFits thirdFits fourthFits, mrw1, mrw2, highest, register, next, rest,
    doubleCommand?_writeModeRegister, modeRegister?_setWidth, append_bits]
  rfl

theorem decodeFrames_readModeRegister (cs : Chipselect) (modeRegister : ModeRegister) :
    decodeFrames (CommandCall.frames cs (.readModeRegister modeRegister)) =
      some (cs, .readModeRegister modeRegister) := by
  obtain ⟨secondFits, register⟩ := low_setWidth modeRegister.1
  have frames : CommandCall.frames cs (.readModeRegister modeRegister) =
      createModeRegisterReadFrame cs modeRegister :=
    if_neg (BitVec.not_lt.mpr modeRegister.2)
  have decoded := (decodeFrames_double cs rfl rfl rfl rfl (by decide) secondFits (by decide)
    (by decide) : decodeFrames (createModeRegisterReadFrame cs modeRegister) = _)
  rw [register] at decoded
  rw [frames, decoded]
  refine (congrArg (Option.map _) (doubleCommand?_readModeRegister cs _)).trans ?_
  rw [modeRegister?_setWidth]
  rfl

/-- The frames of a call decode to its chip and to the call without BA2. -/
theorem decodeFrames_eq (cs : Chipselect) (call : CommandCall) :
    decodeFrames (call.frames cs) = some (cs, call.withoutBa2) := by
  cases call with
  | write bl bankAddress columnAddress ap =>
      exact decodeFrames_write cs bl bankAddress columnAddress ap
  | writeModeRegister modeRegister op => exact decodeFrames_writeModeRegister cs modeRegister op
  | readModeRegister modeRegister => exact decodeFrames_readModeRegister cs modeRegister
  | wrfifo => cases cs <;> rfl
  | rdfifo => cases cs <;> rfl
  | rddq => cases cs <;> rfl
  | selfRefreshEntry => exact decodeFrames_single cs (by decide)
  | selfRefreshExit => exact decodeFrames_single cs (by decide)
  | refreshAllBanks => exact decodeFrames_single cs (by decide)

/-- Two commands that are the same on the bus. -/
def SameFrames (first second : Nat → CommandFrame) : Prop :=
  ∀ index, index < maxCommandFrames → first index = second index

theorem SameFrames.decodeFrames_eq {first second : Nat → CommandFrame}
    (same : SameFrames first second) : decodeFrames first = decodeFrames second := by
  unfold decodeFrames
  rw [same 0 (by decide), same 1 (by decide), same 2 (by decide), same 3 (by decide)]

/-- The frames do not depend on BA2. -/
theorem frames_withoutBa2 (cs : Chipselect) (call : CommandCall) :
    call.withoutBa2.frames cs = call.frames cs := by
  cases call with
  | write bl bankAddress columnAddress ap =>
      have masked : 0x3 &&& (bankAddress &&& 0b011).setWidth 8 =
          (0x3 &&& bankAddress.setWidth 8 : BitVec 8) := by
        ext index small
        interval_cases index <;> simp
      funext index
      match index with
      | 1 =>
          change CommandFrame.mk 0 (_ ||| _ ||| _) = CommandFrame.mk 0 (_ ||| _ ||| _)
          rw [masked]
      | 0 | 2 | 3 | _ + 4 => rfl
  | _ => rfl

theorem sameFrames_iff {cs other : Chipselect} {first second : CommandCall} :
    SameFrames (first.frames cs) (second.frames other) ↔
      cs = other ∧ first.withoutBa2 = second.withoutBa2 := by
  constructor
  · intro same
    have decoded := same.decodeFrames_eq
    rw [decodeFrames_eq, decodeFrames_eq, Option.some.injEq, Prod.mk.injEq] at decoded
    exact decoded
  · rintro ⟨rfl, same⟩ index -
    rw [← frames_withoutBa2 cs first, same, frames_withoutBa2]

/-- The call has no bank address or one below four. -/
def CommandCall.LowBank : CommandCall → Prop
  | write _ bankAddress _ _ => bankAddress < 4
  | _ => True

theorem withoutBa2_eq_self_iff (call : CommandCall) : call.withoutBa2 = call ↔ call.LowBank := by
  cases call with
  | write bl bankAddress columnAddress ap =>
      have masked : ∀ bank : BitVec 3, bank &&& 0b011 = bank ↔ bank < 4 := by decide
      change CommandCall.write .. = CommandCall.write .. ↔ _
      rw [CommandCall.write.injEq]
      simp only [true_and, and_true]
      exact masked bankAddress
  | _ => exact iff_of_true rfl trivial

/-- The frames of a call decode to its arguments exactly when its bank is below four, and two
calls have the same frames exactly when they differ at most in BA2. -/
theorem decodesToArguments_iff (cs : Chipselect) (call : CommandCall) :
    (decodeFrames (call.frames cs) = some (cs, call) ↔ call.LowBank) ∧
      ∀ other otherCall, SameFrames (call.frames cs) (CommandCall.frames other otherCall) ↔
        cs = other ∧ call.withoutBa2 = otherCall.withoutBa2 := by
  refine ⟨?_, fun other otherCall => sameFrames_iff⟩
  rw [decodeFrames_eq, ← withoutBa2_eq_self_iff, Option.some.injEq, Prod.mk.injEq]
  exact and_iff_right rfl

/-- A write to bank four is read as one to bank zero. -/
theorem not_decodesToArguments :
    ¬ ∀ cs call, decodeFrames (CommandCall.frames cs call) = some (cs, call) := by
  intro decodes
  have read := decodes .cs0 (.write .bl16 4 0 0)
  exact absurd read (by decide)

end RoundTrip

end WavLpddr
