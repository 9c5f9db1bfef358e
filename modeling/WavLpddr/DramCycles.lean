import WavLpddr.GroupSchedule
import WavLpddr.Lib.Intervals
import WavLpddr.Lib.Outcome
import WavLpddr.SequenceLoop

/-!
# Packets read DRAM cycle by DRAM cycle

The DRAM sees the packets as a stream of phases, two to a DRAM cycle, each at a position
that follows from the timestamp of its packet and the ratio.  Data are read from the
stream phase by phase.  Commands are read from it cycle by cycle: one starts at a cycle that
is not idle and takes this and the three cycles that follow it immediately.
-/

namespace WavLpddr

open Intervals

section Data

/-- A phase that carries anything but the write enable. -/
def TxDataPhase.driven (phase : TxDataPhase) : Bool :=
  { phase with wrdataEn := 0 } ≠ DfiTxPacket.zero.data 0

theorem TxDataPhase.driven_zero (phase : Nat) :
    (DfiTxPacket.zero.data phase).driven = false :=
  (by decide : (DfiTxPacket.zero.data 0).driven = false)

/-- The data phases of a packet and their positions. -/
def DfiTxPacket.dataStream (ratio : WddrFreqRatio) (packet : DfiTxPacket) :
    List (Nat × TxDataPhase) :=
  (List.range (2 * ratio.cycles)).map fun phase =>
    (packet.time.toNat * (2 * ratio.cycles) + phase, packet.data phase)

/-- The data phases that the DRAM sees. -/
def dataStream (ratio : WddrFreqRatio) (packets : List DfiTxPacket) : List (Nat × TxDataPhase) :=
  packets.flatMap (·.dataStream ratio)

/-- The phases of the stream that are selected. -/
def selectPhases (ratio : WddrFreqRatio) (selected : TxDataPhase → Bool)
    (packets : List DfiTxPacket) : List (Nat × TxDataPhase) :=
  (dataStream ratio packets).filter fun entry => selected entry.2

/-- The positions of the phases that are selected. -/
def phasesWhere (ratio : WddrFreqRatio) (selected : TxDataPhase → Bool)
    (packets : List DfiTxPacket) : List Nat :=
  (selectPhases ratio selected packets).map (·.1)

variable {ratio : WddrFreqRatio} {selected : TxDataPhase → Bool}

theorem selectPhases_append (first second : List DfiTxPacket) :
    selectPhases ratio selected (first ++ second) =
      selectPhases ratio selected first ++ selectPhases ratio selected second := by
  rw [selectPhases, dataStream, List.flatMap_append, List.filter_append]
  rfl

/-- Packets without a selected phase do not show. -/
theorem selectPhases_eq_nil {packets : List DfiTxPacket}
    (quiet : ∀ packet ∈ packets, ∀ phase, selected (packet.data phase) = false) :
    selectPhases ratio selected packets = [] := by
  rw [selectPhases, List.filter_eq_nil_iff]
  intro entry inStream
  obtain ⟨packet, listed, inPacket⟩ := List.mem_flatMap.mp inStream
  obtain ⟨phase, -, rfl⟩ := List.mem_map.mp inPacket
  simp [quiet packet listed phase]

/-- The stream of packets at consecutive timestamps. -/
theorem dataStream_Ico {packetAt : Nat → DfiTxPacket} {first last : Nat}
    (times : ∀ time, first ≤ time → time < last → (packetAt time).time.toNat = time)
    (ordered : first ≤ last) :
    dataStream ratio ((List.Ico first last).map packetAt) =
      (List.Ico (first * (2 * ratio.cycles)) (last * (2 * ratio.cycles))).map fun position =>
        (position, (packetAt (position / (2 * ratio.cycles))).data
          (position % (2 * ratio.cycles))) := by
  rw [← flatMap_block _ _ ordered, dataStream, List.flatMap_map, List.map_flatMap]
  apply List.flatMap_congr
  intro time inside
  rw [List.Ico.mem] at inside
  rw [DfiTxPacket.dataStream, block_eq_map, List.map_map, times time inside.1 inside.2]
  apply List.map_congr_left
  intro phase inPacket
  have small := List.mem_range.mp inPacket
  have width : 0 < 2 * ratio.cycles := Nat.zero_lt_of_lt small
  have quotient : (time * (2 * ratio.cycles) + phase) / (2 * ratio.cycles) = time := by
    rw [Nat.mul_comm, Nat.mul_add_div width, Nat.div_eq_of_lt small, Nat.add_zero]
  have remainder : (time * (2 * ratio.cycles) + phase) % (2 * ratio.cycles) = phase := by
    rw [Nat.mul_comm, Nat.mul_add_mod, Nat.mod_eq_of_lt small]
  simp only [Function.comp_apply, quotient, remainder]

/-- The phases of packets at consecutive timestamps that are selected in a window. -/
theorem selectPhases_Ico {packetAt : Nat → DfiTxPacket} {first last start stop : Nat}
    (times : ∀ time, first ≤ time → time < last → (packetAt time).time.toNat = time)
    (ordered : first ≤ last)
    (window : ∀ position, first * (2 * ratio.cycles) ≤ position →
      position < last * (2 * ratio.cycles) →
      (selected ((packetAt (position / (2 * ratio.cycles))).data
          (position % (2 * ratio.cycles))) = true ↔ start ≤ position ∧ position < stop))
    (after : first * (2 * ratio.cycles) ≤ start) (before : stop ≤ last * (2 * ratio.cycles)) :
    selectPhases ratio selected ((List.Ico first last).map packetAt) =
      (List.Ico start stop).map fun position =>
        (position, (packetAt (position / (2 * ratio.cycles))).data
          (position % (2 * ratio.cycles))) := by
  rw [selectPhases, dataStream_Ico times ordered, List.filter_map]
  congr 1
  exact filter_window window after before

/-- The phase of a packet at a position, after the phases of a window were updated. -/
theorem DfiTxPacket.data_drive (update : Nat → TxDataPhase → TxDataPhase) {phases : Nat}
    (positive : 0 < phases) (start stop position : Nat) (packet : DfiTxPacket) :
    (packet.drive update phases start stop (position / phases)).data (position % phases) =
      if start ≤ position ∧ position < stop then
        update position (packet.data (position % phases))
      else packet.data (position % phases) := by
  have inPacket := Nat.mod_lt position positive
  unfold DfiTxPacket.drive
  dsimp only
  rw [Nat.div_add_mod']
  simp only [inPacket, true_and]

end Data

section Commands

/-- The command phases of one DRAM cycle. -/
structure CaCycle where
  cycle : Nat
  first : TxCaPhase
  second : TxCaPhase
deriving DecidableEq

/-- The command cycles of a packet. -/
def DfiTxPacket.caStream (ratio : WddrFreqRatio) (packet : DfiTxPacket) : List CaCycle :=
  (List.range ratio.cycles).map fun cycle =>
    ⟨packet.time.toNat * ratio.cycles + cycle, packet.ca (2 * cycle), packet.ca (2 * cycle + 1)⟩

/-- The command cycles that the DRAM sees. -/
def caStream (ratio : WddrFreqRatio) (packets : List DfiTxPacket) : List CaCycle :=
  packets.flatMap (·.caStream ratio)

/-- What the DRAM samples in one cycle. -/
structure CaFrame where
  cs : BitVec 2
  address : BitVec 7
deriving DecidableEq

/-- A cycle is sampled if the chip select is held over both phases and the address is driven
on the first one only. -/
def CaCycle.frame? (cycle : CaCycle) : Option CaFrame :=
  if cycle.second.cs = cycle.first.cs ∧ cycle.second.address = 0 then
    some ⟨cycle.first.cs, cycle.first.address⟩
  else none

/-- No chip is selected and no address bit is driven. -/
def CaCycle.Idle (cycle : CaCycle) : Prop := cycle.frame? = some ⟨0, 0⟩

instance (cycle : CaCycle) : Decidable cycle.Idle :=
  inferInstanceAs (Decidable (_ = _))

/-- A command of four frames and the cycle of the first one. -/
structure DramCommand where
  cycle : Nat
  frames : List CaFrame
deriving DecidableEq

/-- The commands of a stream.  There are none if a command is cut off or interrupted, or if a
cycle of it cannot be sampled. -/
def dramCommands : List CaCycle → Option (List DramCommand)
  | [] => some []
  | cycle :: rest =>
      if cycle.Idle then dramCommands rest
      else
        match rest with
        | second :: third :: fourth :: later => do
            let frames ← [cycle, second, third, fourth].mapM CaCycle.frame?
            if [second.cycle, third.cycle, fourth.cycle] =
                [cycle.cycle + 1, cycle.cycle + 2, cycle.cycle + 3] then
              let commands ← dramCommands later
              pure (⟨cycle.cycle, frames⟩ :: commands)
            else none
        | _ => none

/-- Idle cycles before the others do not show. -/
theorem dramCommands_idle {idle : List CaCycle} (allIdle : ∀ cycle ∈ idle, cycle.Idle)
    (rest : List CaCycle) : dramCommands (idle ++ rest) = dramCommands rest := by
  induction idle with
  | nil => rfl
  | cons cycle later inductionHypothesis =>
      rw [List.cons_append, dramCommands.eq_def]
      dsimp only
      rw [if_pos (allIdle cycle List.mem_cons_self)]
      exact inductionHypothesis fun other listed => allIdle other (List.mem_cons_of_mem _ listed)

/-- The frames of a decoded command were sampled from cycles of the stream. -/
theorem frame_of_dramCommands {cycles : List CaCycle} {commands : List DramCommand}
    (decoded : dramCommands cycles = some commands) :
    ∀ command ∈ commands, ∀ frame ∈ command.frames, ∃ cycle ∈ cycles,
      cycle.frame? = some frame := by
  induction cycles using dramCommands.induct generalizing commands with
  | case1 =>
      obtain rfl : [] = commands := Option.some.inj decoded
      exact fun command listed => absurd listed List.not_mem_nil
  | case2 cycle rest isIdle inductionHypothesis =>
      rw [dramCommands.eq_def] at decoded
      dsimp only at decoded
      rw [if_pos isIdle] at decoded
      intro command listed frame inCommand
      obtain ⟨other, inRest, sampled⟩ := inductionHypothesis decoded command listed frame inCommand
      exact ⟨other, List.mem_cons_of_mem _ inRest, sampled⟩
  | case3 cycle busy second third fourth later inductionHypothesis =>
      rw [dramCommands, if_neg busy, Option.bind_eq_bind, Option.bind_eq_some_iff] at decoded
      obtain ⟨frames, readFrames, decoded⟩ := decoded
      split at decoded
      · rw [Option.bind_eq_bind, Option.bind_eq_some_iff] at decoded
        obtain ⟨rest, decodedLater, joined⟩ := decoded
        obtain rfl : ⟨cycle.cycle, frames⟩ :: rest = commands := Option.some.inj joined
        intro command listed frame inCommand
        rcases List.mem_cons.mp listed with rfl | inRest
        · obtain ⟨other, inFour, sampled⟩ := Outcome.mem_of_mapM readFrames frame inCommand
          exact ⟨other, List.mem_append_left later inFour, sampled⟩
        · obtain ⟨other, inLater, sampled⟩ :=
            inductionHypothesis decodedLater command inRest frame inCommand
          exact ⟨other, List.mem_append_right [cycle, second, third, fourth] inLater, sampled⟩
      · cases decoded
  | case4 cycle rest busy short =>
      rw [dramCommands.eq_def] at decoded
      dsimp only at decoded
      rw [if_neg busy] at decoded
      split at decoded
      · exact absurd rfl (short _ _ _ _)
      · cases decoded

/-- A frame as the DRAM samples it. -/
def CommandFrame.ca (frame : CommandFrame) : CaFrame :=
  ⟨frame.cs.setWidth 2, frame.caPins.setWidth 7⟩

/-- The cycle that carries a frame while CKE and DCE are held. -/
def CommandFrame.cycle (number : Nat) (frame : CommandFrame) : CaCycle :=
  ⟨number, ⟨frame.ca.address, TxPacketBuffer.dfiPackCkeVal, frame.ca.cs, 1⟩,
    ⟨0, TxPacketBuffer.dfiPackCkeVal, frame.ca.cs, 1⟩⟩

theorem frame?_cycle (number : Nat) (frame : CommandFrame) :
    (frame.cycle number).frame? = some frame.ca :=
  if_pos ⟨rfl, rfl⟩

/-- The frames of a command. -/
def commandFrames (command : Nat → CommandFrame) : List CaFrame :=
  (List.range maxCommandFrames).map fun index => (command index).ca

/-- A command whose first frame selects a chip is decoded. -/
theorem dramCommands_command {command : Nat → CommandFrame} (selects : (command 0).ca ≠ ⟨0, 0⟩)
    (number : Nat) (rest : List CaCycle) :
    dramCommands ((List.range maxCommandFrames).map (fun index =>
        (command index).cycle (number + index)) ++ rest) =
      (dramCommands rest).map fun commands =>
        ⟨number, commandFrames command⟩ :: commands := by
  have busy : ¬ ((command 0).cycle number).Idle := by
    rw [CaCycle.Idle, frame?_cycle, Option.some.injEq]
    exact selects
  have frames : [(command 0).cycle number, (command 1).cycle (number + 1),
      (command 2).cycle (number + 2), (command 3).cycle (number + 3)].mapM CaCycle.frame? =
        some (commandFrames command) := by
    simp only [List.mapM_cons, List.mapM_nil, frame?_cycle]
    rfl
  change dramCommands ((command 0).cycle number :: (command 1).cycle (number + 1) ::
    (command 2).cycle (number + 2) :: (command 3).cycle (number + 3) :: rest) = _
  rw [dramCommands, if_neg busy, frames]
  refine (if_pos rfl).trans ?_
  cases dramCommands rest <;> rfl

theorem caStream_append (ratio : WddrFreqRatio) (first second : List DfiTxPacket) :
    caStream ratio (first ++ second) = caStream ratio first ++ caStream ratio second :=
  List.flatMap_append

theorem caStream_cons (ratio : WddrFreqRatio) (packet : DfiTxPacket)
    (rest : List DfiTxPacket) :
    caStream ratio (packet :: rest) = packet.caStream ratio ++ caStream ratio rest :=
  List.flatMap_cons

theorem caStream_addressPacket {ratio : WddrFreqRatio} (supported : ratio.Supported)
    (command : Nat → CommandFrame) (phaseOffset : Nat) (time : BitVec 16) :
    (addressPacket ratio command phaseOffset time).caStream ratio =
      (List.range ratio.cycles).map fun index =>
        (command (phaseOffset + index)).cycle (time.toNat * ratio.cycles + index) := by
  rcases supported with rfl | rfl <;> rfl

theorem framesPerPacket_eq {ratio : WddrFreqRatio} (supported : ratio.Supported) :
    framesPerPacket ratio = ratio.cycles := by
  rcases supported with rfl | rfl <;> rfl

/-- The packets of a command carry its frames at consecutive cycles. -/
theorem caStream_addressPackets {ratio : WddrFreqRatio} (supported : ratio.Supported)
    (command : Nat → CommandFrame) (remaining phaseOffset : Nat) {time : BitVec 16}
    (fits : time.toNat + remaining ≤ 2 ^ 16) :
    caStream ratio (addressPackets ratio command remaining phaseOffset time) =
      (List.range (remaining * ratio.cycles)).map fun index =>
        (command (phaseOffset + index)).cycle (time.toNat * ratio.cycles + index) := by
  induction remaining generalizing phaseOffset time with
  | zero => rw [Nat.zero_mul]; rfl
  | succ remaining inductionHypothesis =>
      rw [addressPackets, caStream_cons, caStream_addressPacket supported, Nat.succ_mul,
        Nat.add_comm (remaining * _), List.range_add, List.map_append, List.map_map]
      congr 1
      cases remaining with
      | zero => rw [Nat.zero_mul]; rfl
      | succ more =>
          have next : (time + 1).toNat = time.toNat + 1 := by bv_omega
          rw [inductionHypothesis _ (by omega), framesPerPacket_eq supported, next]
          apply List.map_congr_left
          intro index _
          rw [Function.comp_apply, Nat.add_one_mul, Nat.add_assoc, Nat.add_assoc]

/-- The frames of a whole command. -/
theorem caStream_command {ratio : WddrFreqRatio} (supported : ratio.Supported)
    (command : Nat → CommandFrame) {time : BitVec 16}
    (fits : time.toNat + (maxCommandFrames >>> ratio.shift) ≤ 2 ^ 16) :
    caStream ratio (addressPackets ratio command (maxCommandFrames >>> ratio.shift) 0 time) =
      (List.range maxCommandFrames).map fun index =>
        (command index).cycle (time.toNat * ratio.cycles + index) := by
  have whole : (maxCommandFrames >>> ratio.shift) * ratio.cycles = maxCommandFrames := by
    rcases supported with rfl | rfl <;> rfl
  rw [caStream_addressPackets supported command _ 0 fits, whole]
  simp only [Nat.zero_add]

/-- Packets without a command are idle cycles. -/
theorem idle_caStream {ratio : WddrFreqRatio} {packets : List DfiTxPacket}
    (idle : ∀ packet ∈ packets, ∀ phase,
      (packet.ca phase).cs = 0 ∧ (packet.ca phase).address = 0) :
    ∀ cycle ∈ caStream ratio packets, cycle.Idle := by
  intro cycle inStream
  obtain ⟨packet, listed, inPacket⟩ := List.mem_flatMap.mp inStream
  obtain ⟨index, -, rfl⟩ := List.mem_map.mp inPacket
  have first := idle packet listed (2 * index)
  have second := idle packet listed (2 * index + 1)
  simp [CaCycle.Idle, CaCycle.frame?, first, second]

end Commands

end WavLpddr
