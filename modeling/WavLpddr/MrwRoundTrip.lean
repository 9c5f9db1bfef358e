import Mathlib.Tactic.IntervalCases
import WavLpddr.CompleteSequences

/-!
# A mode-register update read back

The packets of an update are read as the DRAM reads them: every command is a write of a
mode register with the chips that both its halves select, the register and the operand.
What is read is what the configuration asked for, at the times it asked for.
-/

namespace WavLpddr

open Attempts TxPacketBuffer

section Decode

/-- A write of a mode register as the DRAM understands it. -/
structure ModeRegisterWrite where
  cs : BitVec 2
  register : BitVec 6
  op : BitVec 8
deriving DecidableEq

/-- The write of four frames: MRW-1 with OP[7], the register, MRW-2 with OP[6], and the rest
of the operand.  Both halves select the same chips. -/
def modeRegisterWrite? : List CaFrame → Option ModeRegisterWrite
  | [first, second, third, fourth] =>
      if first.address &&& 0x5F = 0b00110 ∧ third.address &&& 0x5F = 0b10110 ∧
          second.address < 0x40 ∧ fourth.address < 0x40 ∧
          second.cs = 0 ∧ third.cs = first.cs ∧ fourth.cs = 0 then
        some ⟨first.cs, second.address.setWidth 6, first.address.extractLsb' 5 1 ++
          third.address.extractLsb' 5 1 ++ fourth.address.setWidth 6⟩
      else none
  | _ => none

/-- A command that is a write, and the cycle at which it starts. -/
def DramCommand.write? (command : DramCommand) : Option (Nat × ModeRegisterWrite) :=
  (modeRegisterWrite? command.frames).map fun write => (command.cycle, write)

/-- The writes that the DRAM sees.  There are none if something else is sent. -/
def sentWrites (ratio : WddrFreqRatio) (packets : List DfiTxPacket) :
    Option (List (Nat × ModeRegisterWrite)) :=
  (dramCommands (caStream ratio packets)).bind fun commands => commands.mapM DramCommand.write?

/-- A write that the DRAM sees selects the chips that some phase of the packets selects. -/
theorem cs_of_sentWrites {ratio : WddrFreqRatio} {packets : List DfiTxPacket}
    {writes : List (Nat × ModeRegisterWrite)} (sent : sentWrites ratio packets = some writes) :
    ∀ write ∈ writes, ∃ packet ∈ packets, ∃ phase, (packet.ca phase).cs = write.2.cs := by
  rw [sentWrites, Option.bind_eq_some_iff] at sent
  obtain ⟨commands, decoded, read⟩ := sent
  intro write listed
  obtain ⟨command, inCommands, isWrite⟩ := Outcome.mem_of_mapM read write listed
  rw [DramCommand.write?, Option.map_eq_some_iff] at isWrite
  obtain ⟨payload, readPayload, rfl⟩ := isWrite
  unfold modeRegisterWrite? at readPayload
  split at readPayload
  · rename_i first second third fourth frames
    split at readPayload
    · obtain rfl := Option.some.inj readPayload
      have inCommand : first ∈ command.frames := by
        rw [frames]
        exact List.mem_cons_self
      obtain ⟨cycle, inStream, sampled⟩ :=
        frame_of_dramCommands decoded command inCommands first inCommand
      obtain ⟨packet, inPackets, inPacket⟩ := List.mem_flatMap.mp inStream
      obtain ⟨index, -, rfl⟩ := List.mem_map.mp inPacket
      unfold CaCycle.frame? at sampled
      split at sampled
      · exact ⟨packet, inPackets, 2 * index, congrArg CaFrame.cs (Option.some.inj sampled)⟩
      · cases sampled
    · cases readPayload
  · cases readPayload

/-- Idle packets before the others do not show. -/
theorem sentWrites_idle {ratio : WddrFreqRatio} {idle : List DfiTxPacket}
    (allIdle : ∀ packet ∈ idle, ∀ phase,
      (packet.ca phase).cs = 0 ∧ (packet.ca phase).address = 0) (rest : List DfiTxPacket) :
    sentWrites ratio (idle ++ rest) = sentWrites ratio rest := by
  rw [sentWrites, caStream_append, dramCommands_idle (idle_caStream allIdle)]
  rfl

/-- An operand is put together from the bits that the frames carry. -/
theorem op_frames (op : BitVec 8) :
    ((mrw1CaPins ||| ((op &&& 0x80) >>> 2)).setWidth 7 : BitVec 7).extractLsb' 5 1 ++
      ((mrw2CaPins ||| ((op &&& 0x40) >>> 1)).setWidth 7 : BitVec 7).extractLsb' 5 1 ++
        ((op &&& 0x3F).setWidth 7 : BitVec 7).setWidth 6 = op := by
  apply BitVec.eq_of_getLsbD_eq
  intro index small
  rw [BitVec.getLsbD_append, BitVec.getLsbD_append]
  interval_cases index <;> simp [mrw1CaPins, mrw2CaPins]

/-- The bit of the operand in the first frame of a half is outside the operation code. -/
theorem opcode_frames (op : BitVec 8) :
    ((mrw1CaPins ||| ((op &&& 0x80) >>> 2)).setWidth 7 : BitVec 7) &&& 0x5F = 0b00110 ∧
      ((mrw2CaPins ||| ((op &&& 0x40) >>> 1)).setWidth 7 : BitVec 7) &&& 0x5F = 0b10110 := by
  constructor <;>
  · ext index small
    interval_cases index <;> simp [mrw1CaPins, mrw2CaPins]

/-- A field of six bits leaves the last address bit alone. -/
theorem setWidth_masked_lt (value : BitVec 8) :
    ((value &&& 0x3F).setWidth 7 : BitVec 7) < 0x40 := by
  have masked : value.toNat &&& 63 ≤ 63 := Nat.and_le_right
  rw [BitVec.lt_def, BitVec.toNat_setWidth, BitVec.toNat_and]
  change (value.toNat &&& 63) % 2 ^ 7 < 64
  omega

theorem setWidth_masked (value : BitVec 8) :
    ((value &&& 0x3F).setWidth 7 : BitVec 7).setWidth 6 = value.setWidth 6 := by
  ext index small
  interval_cases index <;> simp

/-- The chip select of a rank in two bits. -/
theorem chipSelect (rank : Nat) :
    ((1 <<< rank : Nat) : BitVec 8).setWidth 2 = (1 : BitVec 2) <<< rank := by
  apply BitVec.eq_of_toNat_eq
  rw [BitVec.toNat_setWidth, BitVec.toNat_shiftLeft]
  exact Nat.mod_mod_of_dvd _ (by decide)

theorem modeRegisterWrite?_command (rank : Nat) {register : BitVec 8}
    (known : register ≤ modeRegisterNumMax) (op : BitVec 8) :
    modeRegisterWrite? (commandFrames (createWriteModeRegisterCommand rank register op)) =
      some ⟨(1 : BitVec 2) <<< rank, register.setWidth 6, op⟩ := by
  obtain ⟨firstOpcode, secondOpcode⟩ := opcode_frames op
  rw [createWriteModeRegisterCommand, if_neg (BitVec.not_lt.mpr known)]
  refine (if_pos ⟨firstOpcode, secondOpcode, setWidth_masked_lt register, setWidth_masked_lt op,
    rfl, rfl, rfl⟩).trans ?_
  rw [← setWidth_masked register]
  exact congrArg some (congr (congrArg₂ ModeRegisterWrite.mk (chipSelect rank) rfl) (op_frames op))

/-- The first frame of a write is not idle. -/
theorem command_selects (rank : Nat) {register : BitVec 8}
    (known : register ≤ modeRegisterNumMax) (op : BitVec 8) :
    (createWriteModeRegisterCommand rank register op 0).ca ≠ ⟨0, 0⟩ := by
  rw [createWriteModeRegisterCommand, if_neg (BitVec.not_lt.mpr known)]
  intro idle
  have opcode : (createModeRegisterWriteFrame rank register op 0).ca.address &&& 0x5F = 0b00110 :=
    (opcode_frames op).1
  rw [idle] at opcode
  exact absurd opcode (by decide)

end Decode

section Packets

variable (ratio : WddrFreqRatio) (rank : Nat) (update : BitVec 8 × BitVec 8 × BitVec 16)

/-- The packets of a command. -/
def commandLength : Nat := maxCommandFrames >>> ratio.shift

/-- The packets of a write, the first one a wait after the last timestamp, and the packet
after them. -/
def writePackets (tsLastPacket : BitVec 16) : List DfiTxPacket :=
  addressPackets ratio (createWriteModeRegisterCommand rank update.1 update.2.1)
      (commandLength ratio) 0 (update.2.2 + tsLastPacket) ++
    [ckePacket (BitVec.ofNat 16 (commandLength ratio) + (update.2.2 + tsLastPacket))]

theorem commandLength_pos : 0 < commandLength ratio := by
  cases ratio <;> decide

theorem length_writePackets (tsLastPacket : BitVec 16) :
    (writePackets ratio rank update tsLastPacket).length = commandLength ratio + 1 := by
  rw [writePackets, List.length_append, length_addressPackets]
  rfl

/-- The last timestamp of packets does not depend on the one before them. -/
theorem lastTime_of_ne_nil {packets : List DfiTxPacket} (nonempty : packets ≠ [])
    (first second : BitVec 16) : lastTime first packets = lastTime second packets := by
  cases packets with
  | nil => exact absurd rfl nonempty
  | cons packet rest => rfl

/-- The packet after a write is sent when the write ends. -/
theorem lastTime_write (tsLastPacket : BitVec 16) :
    1 + lastTime tsLastPacket
        (addressPackets ratio (createWriteModeRegisterCommand rank update.1 update.2.1)
          (commandLength ratio) 0 (update.2.2 + tsLastPacket)) =
      BitVec.ofNat 16 (commandLength ratio) + (update.2.2 + tsLastPacket) := by
  have nonempty : addressPackets ratio
      (createWriteModeRegisterCommand rank update.1 update.2.1) (commandLength ratio) 0
        (update.2.2 + tsLastPacket) ≠ [] := by
    rw [← List.length_pos_iff, length_addressPackets]
    exact commandLength_pos ratio
  have previous : update.2.2 + tsLastPacket = 1 + (update.2.2 + tsLastPacket - 1) := by bv_omega
  rw [lastTime_of_ne_nil nonempty tsLastPacket (update.2.2 + tsLastPacket - 1)]
  conv in addressPackets _ _ _ _ _ => rw [previous]
  rw [lastTime_addressPackets]
  bv_omega

variable {ratio rank update}

/-- The turn of the loop over the updates appends the packets of a write. -/
theorem appends_write {buffer : TxPacketBuffer} (sound : buffer.Sound)
    (all : AllGranted buffer (writePackets ratio rank update buffer.tsLastPacket)) :
    Appends buffer
      ((buffer.dramCreateMrwPacketSequence ratio rank update.1 update.2.1
        update.2.2).2.createCkePacketSequence 1).2
      (writePackets ratio rank update buffer.tsLastPacket).length
      (writePackets ratio rank update buffer.tsLastPacket) := by
  have attempted := attempted_dramCreateAddressPackets ratio
    (createWriteModeRegisterCommand rank update.1 update.2.1) (commandLength ratio) 0 update.2.2
    sound
  have command : Appends buffer
      (buffer.dramCreateMrwPacketSequence ratio rank update.1 update.2.1 update.2.2).2 _ _ :=
    attempted.appends_of_granted all.left
  have next := creates_createCkePacketSequence.attempted 1 command.sound
  rw [command.tsLastPacket, lastTime_write] at next
  exact command.append (next.appends_of_granted (all.right command))

variable (ratio) in
/-- The packets of writes in turn. -/
def updatePackets : List (Nat × BitVec 8 × BitVec 8 × BitVec 16) → BitVec 16 →
    List DfiTxPacket
  | [], _ => []
  | (rank, update) :: rest, tsLastPacket =>
      writePackets ratio rank update tsLastPacket ++ updatePackets rest
        (BitVec.ofNat 16 (commandLength ratio) + (update.2.2 + tsLastPacket))

theorem length_updatePackets (updates : List (Nat × BitVec 8 × BitVec 8 × BitVec 16))
    (tsLastPacket : BitVec 16) :
    (updatePackets ratio updates tsLastPacket).length =
      updates.length * (commandLength ratio + 1) := by
  induction updates generalizing tsLastPacket with
  | nil => exact (Nat.zero_mul _).symm
  | cons update rest inductionHypothesis =>
      rw [updatePackets, List.length_append, length_writePackets, inductionHypothesis,
        List.length_cons, Nat.succ_mul, Nat.add_comm]

/-- The loops over the ranks and the updates append the packets of the writes. -/
theorem appends_updates (updates : List (Nat × BitVec 8 × BitVec 8 × BitVec 16))
    {buffer : TxPacketBuffer} (sound : buffer.Sound)
    (all : AllGranted buffer (updatePackets ratio updates buffer.tsLastPacket)) :
    Appends buffer
      (updates.foldl (fun buffer update =>
        ((buffer.dramCreateMrwPacketSequence ratio update.1 update.2.1 update.2.2.1
          update.2.2.2).2.createCkePacketSequence 1).2) buffer)
      (updatePackets ratio updates buffer.tsLastPacket).length
      (updatePackets ratio updates buffer.tsLastPacket) := by
  induction updates generalizing buffer with
  | nil => exact Appends.refl sound
  | cons update rest inductionHypothesis =>
      have write := appends_write sound all.left
      have later := all.right write
      have ends := write.tsLastPacket
      rw [writePackets, lastTime_append, lastTime_cons, lastTime_nil, time_ckePacket] at ends
      rw [← ends] at later
      have more := inductionHypothesis write.sound later
      rw [updatePackets, ← ends]
      exact write.append more

end Packets

section Sent

variable {ratio : WddrFreqRatio}

/-- Where writes start that each wait some DFI cycles after the packet before them, the first
one after a timestamp. -/
def writeStarts (ratio : WddrFreqRatio) : List (Nat × ModeRegisterWrite) → Nat →
    List (Nat × ModeRegisterWrite)
  | [], _ => []
  | (wait, write) :: rest, last =>
      (last + wait, write) :: writeStarts ratio rest (last + wait + commandLength ratio)

/-- The timestamps of the packets of the writes, each with the packet after it. -/
def writeTimes (ratio : WddrFreqRatio) : List (Nat × ModeRegisterWrite) → Nat → List Nat
  | [], _ => []
  | (wait, _) :: rest, last =>
      List.Ico (last + wait) (last + wait + commandLength ratio + 1) ++
        writeTimes ratio rest (last + wait + commandLength ratio)

/-- The write that an update of a rank asks for. -/
def askedWrite (rank : Nat) (update : BitVec 8 × BitVec 8 × BitVec 16) :
    Nat × ModeRegisterWrite :=
  (update.2.2.toNat, ⟨(1 : BitVec 2) <<< rank, update.1.setWidth 6, update.2.1⟩)

/-- The DFI cycles that writes take. -/
def writesSpan (ratio : WddrFreqRatio) (writes : List (Nat × ModeRegisterWrite)) : Nat :=
  (writes.map fun write => write.1 + commandLength ratio).sum

/-- A write with its packet before other packets is read first. -/
theorem sentWrites_writePackets (supported : ratio.Supported) (rank : Nat)
    {update : BitVec 8 × BitVec 8 × BitVec 16} (known : update.1 ≤ modeRegisterNumMax)
    {tsLastPacket : BitVec 16}
    (fits : tsLastPacket.toNat + update.2.2.toNat + commandLength ratio < 2 ^ 16)
    (rest : List DfiTxPacket) :
    sentWrites ratio (writePackets ratio rank update tsLastPacket ++ rest) =
      (sentWrites ratio rest).map fun writes =>
        ((tsLastPacket.toNat + update.2.2.toNat) * ratio.cycles, (askedWrite rank update).2) ::
          writes := by
  have starts : (update.2.2 + tsLastPacket).toNat = tsLastPacket.toNat + update.2.2.toNat := by
    rw [BitVec.toNat_add, Nat.mod_eq_of_lt (by omega), Nat.add_comm]
  have idle : ∀ cycle ∈ caStream ratio [ckePacket (BitVec.ofNat 16 (commandLength ratio) +
      (update.2.2 + tsLastPacket))], cycle.Idle := by
    apply idle_caStream
    intro packet listed
    rw [List.mem_singleton.mp listed]
    exact idle_ckePacket _
  have read : DramCommand.write? ⟨(tsLastPacket.toNat + update.2.2.toNat) * ratio.cycles,
      commandFrames (createWriteModeRegisterCommand rank update.1 update.2.1)⟩ =
        some ((tsLastPacket.toNat + update.2.2.toNat) * ratio.cycles,
          (askedWrite rank update).2) := by
    rw [DramCommand.write?, modeRegisterWrite?_command rank known]
    rfl
  have commands := dramCommands_command (command_selects rank known update.2.1)
    ((tsLastPacket.toNat + update.2.2.toNat) * ratio.cycles) (caStream ratio [ckePacket
      (BitVec.ofNat 16 (commandLength ratio) + (update.2.2 + tsLastPacket))] ++
        caStream ratio rest)
  rw [dramCommands_idle idle] at commands
  have whole := caStream_command supported
    (createWriteModeRegisterCommand rank update.1 update.2.1) (by rw [starts]; exact fits.le)
  rw [starts] at whole
  unfold sentWrites
  rw [writePackets, List.append_assoc, caStream_append, caStream_append, commandLength, whole]
  refine (congrArg (Option.bind · _) commands).trans ?_
  cases dramCommands (caStream ratio rest) with
  | none => rfl
  | some later =>
      change List.mapM DramCommand.write? (_ :: later) = _
      rw [List.mapM_cons, read]
      change _ = (later.mapM DramCommand.write?).map _
      cases later.mapM DramCommand.write? <;> rfl

/-- The packets of a command are sent in consecutive DFI cycles. -/
theorem times_addressPackets (command : Nat → CommandFrame) (remaining phaseOffset : Nat)
    {time : BitVec 16} (fits : time.toNat + remaining ≤ 2 ^ 16) :
    (addressPackets ratio command remaining phaseOffset time).map (·.time.toNat) =
      List.Ico time.toNat (time.toNat + remaining) := by
  induction remaining generalizing phaseOffset time with
  | zero => exact (List.Ico.self_empty).symm
  | succ remaining inductionHypothesis =>
      rw [addressPackets, List.map_cons, time_addressPacket,
        List.Ico.eq_cons (Nat.lt_add_of_pos_right remaining.succ_pos)]
      cases remaining with
      | zero => exact congrArg _ List.Ico.self_empty.symm
      | succ more =>
          have next : (time + 1).toNat = time.toNat + 1 := by bv_omega
          rw [inductionHypothesis _ (by omega), next]
          congr 2
          omega

theorem writesSpan_cons (write : Nat × ModeRegisterWrite)
    (rest : List (Nat × ModeRegisterWrite)) :
    writesSpan ratio (write :: rest) = write.1 + commandLength ratio + writesSpan ratio rest :=
  rfl

/-- Where the packet after a write is sent. -/
theorem toNat_writeEnd {wait tsLastPacket : BitVec 16}
    (fits : tsLastPacket.toNat + wait.toNat + commandLength ratio < 2 ^ 16) :
    (BitVec.ofNat 16 (commandLength ratio) + (wait + tsLastPacket)).toNat =
      tsLastPacket.toNat + wait.toNat + commandLength ratio := by
  rw [BitVec.toNat_add, BitVec.toNat_add, BitVec.toNat_ofNat]
  omega

theorem times_writePackets {rank : Nat} {update : BitVec 8 × BitVec 8 × BitVec 16}
    {tsLastPacket : BitVec 16}
    (fits : tsLastPacket.toNat + update.2.2.toNat + commandLength ratio < 2 ^ 16) :
    (writePackets ratio rank update tsLastPacket).map (·.time.toNat) =
      List.Ico (tsLastPacket.toNat + update.2.2.toNat)
        (tsLastPacket.toNat + update.2.2.toNat + commandLength ratio + 1) := by
  have starts : (update.2.2 + tsLastPacket).toNat = tsLastPacket.toNat + update.2.2.toNat := by
    rw [BitVec.toNat_add, Nat.mod_eq_of_lt (by omega), Nat.add_comm]
  rw [writePackets, List.map_append, List.map_singleton, time_ckePacket, toNat_writeEnd fits,
    times_addressPackets _ _ _ (by omega), starts, List.Ico.succ_top (Nat.le_add_right _ _)]

section Updates

variable {updates : List (Nat × BitVec 8 × BitVec 8 × BitVec 16)} {tsLastPacket : BitVec 16}
  (fits : tsLastPacket.toNat +
    writesSpan ratio (updates.map fun update => askedWrite update.1 update.2) < 2 ^ 16)
include fits

/-- The packets of the updates are read as the writes that were asked for. -/
theorem sentWrites_updatePackets (supported : ratio.Supported)
    (known : ∀ update ∈ updates, update.2.1 ≤ modeRegisterNumMax) :
    sentWrites ratio (updatePackets ratio updates tsLastPacket) =
      some ((writeStarts ratio (updates.map fun update => askedWrite update.1 update.2)
        tsLastPacket.toNat).map fun start => (start.1 * ratio.cycles, start.2)) := by
  induction updates generalizing tsLastPacket with
  | nil => rfl
  | cons update rest inductionHypothesis =>
      rw [List.map_cons, writesSpan_cons] at fits
      have wait : (askedWrite update.1 update.2).1 = update.2.2.2.toNat := rfl
      rw [updatePackets, sentWrites_writePackets supported update.1
        (known update List.mem_cons_self) (by omega),
        inductionHypothesis (by rw [toNat_writeEnd (by omega)]; omega) fun other listed =>
          known other (List.mem_cons_of_mem _ listed), toNat_writeEnd (by omega)]
      rfl

theorem times_updatePackets :
    (updatePackets ratio updates tsLastPacket).map (·.time.toNat) =
      writeTimes ratio (updates.map fun update => askedWrite update.1 update.2)
        tsLastPacket.toNat := by
  induction updates generalizing tsLastPacket with
  | nil => rfl
  | cons update rest inductionHypothesis =>
      rw [List.map_cons, writesSpan_cons] at fits
      have wait : (askedWrite update.1 update.2).1 = update.2.2.2.toNat := rfl
      rw [updatePackets, List.map_append, times_writePackets (by omega),
        inductionHypothesis (by rw [toNat_writeEnd (by omega)]; omega),
        toNat_writeEnd (by omega)]
      rfl

end Updates

end Sent

section Update

variable {ratio : WddrFreqRatio} {newCfg : DramFreqCfg}

/-- What an update asks a rank to write, and how many DFI cycles each write waits after the
packet before it. -/
def rankWrites (newCfg : DramFreqCfg) (rank : Nat) : List (Nat × ModeRegisterWrite) :=
  [(10, ⟨(1 : BitVec 2) <<< rank, 1, newCfg.mr1⟩),
    (10, ⟨(1 : BitVec 2) <<< rank, 2, newCfg.mr2⟩),
    (10, ⟨(1 : BitVec 2) <<< rank, 11, newCfg.mr11⟩),
    (10, ⟨(1 : BitVec 2) <<< rank, 12, newCfg.mr12⟩),
    (newCfg.tVrefCaLong.toNat, ⟨(1 : BitVec 2) <<< rank, 14, newCfg.mr14⟩)]

def updateWrites (newCfg : DramFreqCfg) : List (Nat × ModeRegisterWrite) :=
  rankWrites newCfg 0 ++ rankWrites newCfg 1

/-- The updates of all ranks in turn. -/
def rankedUpdates (newCfg : DramFreqCfg) : List (Nat × BitVec 8 × BitVec 8 × BitVec 16) :=
  (List.range wddrPhyRank).flatMap fun rank => (mrwUpdates newCfg).map fun update => (rank, update)

theorem dramPrepareMrwUpdate_eq (ratio : WddrFreqRatio) (newCfg : DramFreqCfg)
    (buffer : TxPacketBuffer) :
    buffer.dramPrepareMrwUpdate ratio newCfg =
      (rankedUpdates newCfg).foldl (fun buffer update =>
        ((buffer.dramCreateMrwPacketSequence ratio update.1 update.2.1 update.2.2.1
          update.2.2.2).2.createCkePacketSequence 1).2) (buffer.createCkePacketSequence 1).2 := by
  rw [rankedUpdates, List.foldl_flatMap]
  rfl

theorem askedWrites (newCfg : DramFreqCfg) :
    (rankedUpdates newCfg).map (fun update => askedWrite update.1 update.2) =
      updateWrites newCfg := rfl

/-- The mode registers of an update exist. -/
theorem known_rankedUpdates :
    ∀ update ∈ rankedUpdates newCfg, update.2.1 ≤ modeRegisterNumMax := by
  intro update listed
  obtain ⟨rank, -, inRank⟩ := List.mem_flatMap.mp listed
  obtain ⟨triple, isUpdate, rfl⟩ := List.mem_map.mp inRank
  simp only [mrwUpdates, List.mem_cons, List.not_mem_nil, or_false] at isUpdate
  rcases isUpdate with rfl | rfl | rfl | rfl | rfl
  all_goals
    dsimp only
    decide

/-- The packets of an update on an empty buffer. -/
def wholeUpdate (ratio : WddrFreqRatio) (newCfg : DramFreqCfg) : List DfiTxPacket :=
  [ckePacket 2] ++ updatePackets ratio (rankedUpdates newCfg) 2

theorem length_wholeUpdate :
    (wholeUpdate ratio newCfg).length = 1 + 10 * (commandLength ratio + 1) := by
  rw [wholeUpdate, List.length_append, length_updatePackets]
  rfl

theorem appends_mrwUpdate {buffer : TxPacketBuffer} (sound : buffer.Sound)
    (fresh : buffer.tsLastPacket = 1) (all : AllGranted buffer (wholeUpdate ratio newCfg)) :
    Appends buffer (buffer.dramPrepareMrwUpdate ratio newCfg)
      (wholeUpdate ratio newCfg).length (wholeUpdate ratio newCfg) := by
  have first := creates_createCkePacketSequence.attempted 1 sound
  rw [fresh] at first
  have started : Appends buffer _ _ [ckePacket 2] := first.appends_of_granted all.left
  have ends : (buffer.createCkePacketSequence 1).2.tsLastPacket = 2 := started.tsLastPacket
  have later := all.right started
  rw [← ends] at later
  have updated := appends_updates (rankedUpdates newCfg) started.sound later
  rw [ends] at updated
  rw [dramPrepareMrwUpdate_eq]
  exact started.append updated

/-- CKE and DCE are held while the writes are sent. -/
theorem holdsClock_updatePackets (updates : List (Nat × BitVec 8 × BitVec 8 × BitVec 16))
    (tsLastPacket : BitVec 16) :
    ∀ packet ∈ updatePackets ratio updates tsLastPacket, packet.HoldsClock := by
  induction updates generalizing tsLastPacket with
  | nil => exact fun packet listed => absurd listed List.not_mem_nil
  | cons update rest inductionHypothesis =>
      intro packet listed
      rcases List.mem_append.mp listed with inWrite | later
      · rcases List.mem_append.mp inWrite with inCommand | isNext
        · exact holdsClock_addressPackets ratio _ _ 0 _ packet inCommand
        · rw [List.mem_singleton.mp isNext]
          exact holdsClock_ckePacket _
      · exact inductionHypothesis _ packet later

/-- The storage of the update has room for its packets. -/
theorem allGranted_mrwUpdateBuffer {packets : List DfiTxPacket} (few : packets.length ≤ 56) :
    AllGranted mrwUpdateBuffer packets := by
  apply granted_eq_iff.mpr
  intro attempt inPackets
  change decide (56 ≤ 0 + attempt) = false
  rw [decide_eq_false_iff_not]
  omega

/-- What the packets of an update send: its writes, each a wait after the packet before it,
and nothing else. -/
structure UpdateSent (ratio : WddrFreqRatio) (newCfg : DramFreqCfg)
    (packets : List DfiTxPacket) : Prop where
  writes : sentWrites ratio packets = some ((writeStarts ratio (updateWrites newCfg) 2).map
    fun start => (start.1 * ratio.cycles, start.2))
  times : packets.map (·.time.toNat) = 2 :: writeTimes ratio (updateWrites newCfg) 2
  clock : ∀ packet ∈ packets, packet.HoldsClock
  count : packets.length = if ratio = .ratio1to2 then 31 else 51

theorem updateSent_wholeUpdate (supported : ratio.Supported)
    (fits : 2 + writesSpan ratio (updateWrites newCfg) < 2 ^ 16) :
    UpdateSent ratio newCfg (wholeUpdate ratio newCfg) where
  writes := by
    have idle : ∀ packet ∈ [ckePacket 2], ∀ phase,
        (packet.ca phase).cs = 0 ∧ (packet.ca phase).address = 0 := by
      intro packet listed
      rw [List.mem_singleton.mp listed]
      exact idle_ckePacket 2
    rw [wholeUpdate, sentWrites_idle idle]
    exact sentWrites_updatePackets (by rw [askedWrites]; exact fits) supported
      known_rankedUpdates
  times := by
    rw [wholeUpdate, List.map_append, times_updatePackets (by rw [askedWrites]; exact fits)]
    rfl
  clock := by
    intro packet listed
    rcases List.mem_append.mp listed with isFirst | inWrites
    · rw [List.mem_singleton.mp isFirst]
      exact holdsClock_ckePacket 2
    · exact holdsClock_updatePackets _ _ packet inWrites
  count := by
    rw [length_wholeUpdate]
    rcases supported with rfl | rfl <;> rfl

/-- The storage has room for the update. -/
theorem appends_mrwUpdateBuffer (ratio : WddrFreqRatio) (newCfg : DramFreqCfg) :
    Appends mrwUpdateBuffer (mrwUpdateBuffer.dramPrepareMrwUpdate ratio newCfg)
      (wholeUpdate ratio newCfg).length (wholeUpdate ratio newCfg) := by
  have frames : commandLength ratio ≤ 4 := Nat.shiftRight_le _ _
  have few : (wholeUpdate ratio newCfg).length ≤ 56 := by
    rw [length_wholeUpdate]
    omega
  exact appends_mrwUpdate (TxPacketBuffer.sound_of_empty rfl fun _ => rfl) rfl
    (allGranted_mrwUpdateBuffer few)

theorem mrwUpdatePackets_eq (ratio : WddrFreqRatio) (newCfg : DramFreqCfg) :
    mrwUpdatePackets ratio newCfg = wholeUpdate ratio newCfg := by
  have packets := (appends_mrwUpdateBuffer ratio newCfg).packets
  have started : mrwUpdateBuffer.packets = [] := rfl
  rwa [started, List.nil_append] at packets

/-- The packets of a mode-register update send what the configuration asks for. -/
theorem updateSent_dramPrepareMrwUpdate (supported : ratio.Supported) (newCfg : DramFreqCfg)
    (fits : 2 + writesSpan ratio (updateWrites newCfg) < 2 ^ 16) :
    let after := mrwUpdateBuffer.dramPrepareMrwUpdate ratio newCfg
    UpdateSent ratio newCfg after.packets ∧ after.attempts = after.packets.length ∧
      after.packets.length ≤ 64 := by
  have sent := updateSent_wholeUpdate supported fits
  have packets : (mrwUpdateBuffer.dramPrepareMrwUpdate ratio newCfg).packets =
      wholeUpdate ratio newCfg := mrwUpdatePackets_eq ratio newCfg
  have attempts := (appends_mrwUpdateBuffer ratio newCfg).attempts
  have started : mrwUpdateBuffer.attempts = 0 := rfl
  rw [started, Nat.zero_add] at attempts
  dsimp only
  rw [packets]
  refine ⟨sent, attempts, ?_⟩
  rw [sent.count]
  split
  · omega
  · omega

theorem updateSent_plain :
    let after := mrwUpdateBuffer.dramPrepareMrwUpdate .ratio1to2 (plainCfg .ratio1to2)
    UpdateSent .ratio1to2 (plainCfg .ratio1to2) after.packets ∧
      after.attempts = after.packets.length ∧ after.packets.length ≤ 64 :=
  updateSent_dramPrepareMrwUpdate (Or.inr rfl) (plainCfg .ratio1to2) (by decide)

end Update

end WavLpddr
