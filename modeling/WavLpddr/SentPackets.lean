import WavLpddr.MrwRatio
import WavLpddr.PacketFormat

/-!
# What the DRAM receives from the FIFO

The hardware holds a packet as the words that were loaded for it.  Read back by the format of
the descriptor, the packets in the FIFO show the DRAM the same cycles as those that the
firmware built.  The DRAM keeps what was last written to each mode register of each rank.
-/

namespace WavLpddr

open TxPacketBuffer

namespace DfiTxPacket

/-- The packets read back from the words of others. -/
def received (packets : List DfiTxPacket) : List DfiTxPacket :=
  packets.map fun packet => ofRawData packet.rawData

/-- The DRAM sees the cycles of the packets that were written. -/
theorem caStream_received (ratio : WddrFreqRatio) (packets : List DfiTxPacket) :
    WavLpddr.caStream ratio (received packets) = WavLpddr.caStream ratio packets := by
  have few : 2 * ratio.cycles ≤ packetMaxNumPhases := by cases ratio <;> decide
  rw [WavLpddr.caStream, WavLpddr.caStream, received, List.flatMap_map]
  apply List.flatMap_congr
  intro packet _
  apply List.map_congr_left
  intro cycle inPacket
  have early := List.mem_range.mp inPacket
  rw [time_ofRawData, ca_ofRawData packet (by omega : 2 * cycle < packetMaxNumPhases),
    ca_ofRawData packet (by omega : 2 * cycle + 1 < packetMaxNumPhases)]

/-- The DRAM sees the data phases of the packets that were written. -/
theorem dataStream_received (ratio : WddrFreqRatio) (packets : List DfiTxPacket) :
    WavLpddr.dataStream ratio (received packets) = WavLpddr.dataStream ratio packets := by
  have few : 2 * ratio.cycles ≤ packetMaxNumPhases := by cases ratio <;> decide
  rw [WavLpddr.dataStream, WavLpddr.dataStream, received, List.flatMap_map]
  apply List.flatMap_congr
  intro packet _
  apply List.map_congr_left
  intro phase inPacket
  have early := List.mem_range.mp inPacket
  rw [time_ofRawData, data_ofRawData packet (by omega : phase < packetMaxNumPhases)]

theorem sentWrites_received (ratio : WddrFreqRatio) (packets : List DfiTxPacket) :
    sentWrites ratio (received packets) = sentWrites ratio packets := by
  rw [sentWrites, caStream_received, sentWrites]

end DfiTxPacket

/-- The packets in the FIFO, from the words that were loaded last to first. -/
def DfiChannel.queuedPackets (channel : DfiChannel) : List DfiTxPacket :=
  channel.ingress.map fun words => DfiTxPacket.ofRawData words.reverse

theorem DfiChannel.queuedPackets_of_ingress {channel : DfiChannel} {packets : List DfiTxPacket}
    (holds : channel.ingress = packets.map loadOrder) :
    channel.queuedPackets = DfiTxPacket.received packets := by
  rw [queuedPackets, holds, List.map_map, DfiTxPacket.received]
  apply List.map_congr_left
  intro packet _
  rw [Function.comp_apply, loadOrder, List.reverse_reverse]

/-- Through the registers of the FIFO the hardware receives the descriptors of the packets,
in their order, and sends the DRAM the commands and the data of the packets. -/
theorem DfiChannel.queuedPackets_dfiBufferFillPackets [KernelIo] [Device]
    {packets : List DfiTxPacket} (nonempty : packets ≠ [])
    (fits : packets.length ≤ Device.ingressFifoDepth) (channel : DfiChannel)
    (ratio : WddrFreqRatio) :
    let queued := (channel.dfiBufferFillPackets packets).2.queuedPackets
    queued.map DfiTxPacket.desc = packets.map DfiTxPacket.desc ∧
      caStream ratio queued = caStream ratio packets ∧
      dataStream ratio queued = dataStream ratio packets := by
  intro queued
  have filled := dfiBufferFillPackets_filled nonempty channel
  have holds : (channel.dfiBufferFillPackets packets).2.ingress = packets.map loadOrder := by
    rw [filled.ingress, List.take_of_length_le fits]
  have received : queued = DfiTxPacket.received packets := queuedPackets_of_ingress holds
  rw [received]
  refine ⟨?_, DfiTxPacket.caStream_received ratio packets,
    DfiTxPacket.dataStream_received ratio packets⟩
  rw [DfiTxPacket.received, List.map_map]
  apply List.map_congr_left
  intro packet _
  exact packet.desc_ofRawData

/-- A write of MR13, and a packet with data. -/
def commandAndData : List DfiTxPacket :=
  writePackets .ratio1to2 0 (0xD, 0x41, 15) 1 ++ [{ DfiTxPacket.ones with time := 40 }]

/-- The DRAM receives the command and the data. -/
theorem DfiChannel.queuedPackets_dfiBufferFillPackets_command :
    let := referencePlatform
    let channel : DfiChannel := ⟨fun _ => 0x5A5A5A5A, [7], [[1, 2]]⟩
    let queued := (channel.dfiBufferFillPackets commandAndData).2.queuedPackets
    queued.map DfiTxPacket.desc = commandAndData.map DfiTxPacket.desc ∧
      caStream .ratio1to2 queued = caStream .ratio1to2 commandAndData ∧
      dataStream .ratio1to2 queued = dataStream .ratio1to2 commandAndData :=
  @queuedPackets_dfiBufferFillPackets referencePlatform.toKernelIo referencePlatform.toDevice
    commandAndData (by simp [commandAndData]) (by decide) _ _

/-- The mode registers of the ranks. -/
abbrev ModeRegisters := Nat → BitVec 6 → BitVec 8

/-- The ranks that a write selects store its operand. -/
def ModeRegisterWrite.store (write : ModeRegisterWrite) (modes : ModeRegisters) :
    ModeRegisters := fun rank register =>
  if write.cs.getLsbD rank && register == write.register then write.op else modes rank register

namespace ModeRegisters

theorem store_of_ne {cs : BitVec 2} {register written : BitVec 6} (other : register ≠ written)
    (op : BitVec 8) (modes : ModeRegisters) (rank : Nat) :
    (ModeRegisterWrite.mk cs written op).store modes rank register = modes rank register := by
  rw [ModeRegisterWrite.store, beq_false_of_ne other, Bool.and_false,
    if_neg Bool.false_ne_true]

theorem store_self (register : BitVec 6) (op : BitVec 8) (modes : ModeRegisters) :
    (ModeRegisterWrite.mk 1 register op).store modes 0 register = op := by
  have selected : (1 : BitVec 2).getLsbD 0 = true := rfl
  rw [ModeRegisterWrite.store, selected, beq_self_eq_true, Bool.and_self, if_pos rfl]

/-- A write leaves the ranks alone that it does not select. -/
theorem store_of_not_selected {write : ModeRegisterWrite} {rank : Nat}
    (notSelected : write.cs.getLsbD rank = false) (modes : ModeRegisters) :
    write.store modes rank = modes rank := by
  funext register
  rw [ModeRegisterWrite.store, notSelected, Bool.false_and, if_neg Bool.false_ne_true]

/-- The registers after the DRAM saw packets.  Packets that it cannot read as writes write
nothing. -/
def receive (ratio : WddrFreqRatio) (packets : List DfiTxPacket) (modes : ModeRegisters) :
    ModeRegisters :=
  match sentWrites ratio packets with
  | some writes => writes.foldl (fun modes write => write.2.store modes) modes
  | none => modes

/-- A rank holds the registers of a frequency. -/
structure Follows (modes : ModeRegisters) (cfg : DramFreqCfg) (rank : Nat) : Prop where
  mr1 : modes rank 1 = cfg.mr1
  mr2 : modes rank 2 = cfg.mr2
  mr11 : modes rank 11 = cfg.mr11
  mr12 : modes rank 12 = cfg.mr12
  mr14 : modes rank 14 = cfg.mr14

/-- The registers that a frequency determines. -/
def governed : List (BitVec 6) := [1, 2, 11, 12, 14]

theorem map_writeStarts (ratio : WddrFreqRatio) (writes : List (Nat × ModeRegisterWrite))
    (last : Nat) : (writeStarts ratio writes last).map (·.2) = writes.map (·.2) := by
  induction writes generalizing last with
  | nil => rfl
  | cons write rest inductionHypothesis =>
      rw [writeStarts, List.map_cons, List.map_cons, inductionHypothesis]

/-- The writes of an update, one after the other. -/
theorem receive_of_updateSent {ratio : WddrFreqRatio} {cfg : DramFreqCfg}
    {packets : List DfiTxPacket}
    (sent : sentWrites ratio packets = some ((writeStarts ratio (updateWrites cfg) 2).map
      fun start => (start.1 * ratio.cycles, start.2))) (modes : ModeRegisters) :
    receive ratio packets modes =
      ((updateWrites cfg).map (·.2)).foldl (fun modes write => write.store modes) modes := by
  rw [receive, sent, ← map_writeStarts ratio (updateWrites cfg) 2, List.foldl_map]
  exact List.foldl_map

/-- An update reaches both ranks. -/
theorem follows_update (cfg : DramFreqCfg) (modes : ModeRegisters) {rank : Nat}
    (ranked : rank < wddrPhyRank) :
    Follows (((updateWrites cfg).map (·.2)).foldl (fun modes write => write.store modes) modes)
      cfg rank := by
  have isRank : rank = 0 ∨ rank = 1 := by
    have two : wddrPhyRank = 2 := rfl
    omega
  rcases isRank with rfl | rfl
  all_goals constructor
  all_goals simp [updateWrites, rankWrites, ModeRegisterWrite.store]

/-- Writes of other registers leave a register alone. -/
theorem foldl_store_of_ne {register : BitVec 6} {writes : List ModeRegisterWrite}
    (others : ∀ write ∈ writes, write.register ≠ register) (modes : ModeRegisters)
    (rank : Nat) :
    writes.foldl (fun modes write => write.store modes) modes rank register =
      modes rank register := by
  induction writes generalizing modes with
  | nil => rfl
  | cons write rest inductionHypothesis =>
      have differs : register ≠ write.register := (others write List.mem_cons_self).symm
      rw [List.foldl_cons, inductionHypothesis fun other listed =>
        others other (List.mem_cons_of_mem write listed)]
      exact store_of_ne differs write.op modes rank

/-- An update writes the registers that a frequency determines, and no others. -/
theorem register_mem_governed (cfg : DramFreqCfg) :
    ∀ write ∈ (updateWrites cfg).map (·.2), write.register ∈ governed := by
  intro write listed
  have inRegisters := List.mem_map_of_mem (f := ModeRegisterWrite.register) listed
  have registers : ((updateWrites cfg).map (·.2)).map ModeRegisterWrite.register =
      governed ++ governed := rfl
  rw [registers, List.mem_append, or_self] at inRegisters
  exact inRegisters

/-- An update leaves the other registers alone. -/
theorem update_of_not_mem (cfg : DramFreqCfg) (modes : ModeRegisters) (rank : Nat)
    {register : BitVec 6} (other : register ∉ governed) :
    (((updateWrites cfg).map (·.2)).foldl (fun modes write => write.store modes) modes) rank
      register = modes rank register := by
  apply foldl_store_of_ne
  rintro write listed rfl
  exact other (register_mem_governed cfg write listed)

end ModeRegisters

section Update

variable [Device] {wddr : Wddr} {ratio : WddrFreqRatio} {cfg : DramFreqCfg}

/-- The FIFO has room for the packets of an update. -/
theorem Wddr.HoldsUpdate.queuedPackets (holds : wddr.HoldsUpdate ratio cfg)
    (deep : 64 ≤ Device.ingressFifoDepth) :
    wddr.dfich.queuedPackets = DfiTxPacket.received (wholeUpdate ratio cfg) := by
  apply DfiChannel.queuedPackets_of_ingress
  have frames : commandLength ratio ≤ 4 := Nat.shiftRight_le _ _
  have fits : (wholeUpdate ratio cfg).length ≤ Device.ingressFifoDepth := by
    rw [length_wholeUpdate]
    omega
  rw [holds, mrwUpdatePackets_eq, List.take_of_length_le fits]

/-- The words in the FIFO are the writes that the configuration asks for. -/
theorem Wddr.HoldsUpdate.sentWrites (holds : wddr.HoldsUpdate ratio cfg)
    (deep : 64 ≤ Device.ingressFifoDepth) (supported : ratio.Supported)
    (fits : 2 + writesSpan ratio (updateWrites cfg) < 2 ^ 16) :
    WavLpddr.sentWrites ratio wddr.dfich.queuedPackets =
      some ((writeStarts ratio (updateWrites cfg) 2).map
        fun start => (start.1 * ratio.cycles, start.2)) := by
  rw [holds.queuedPackets deep, DfiTxPacket.sentWrites_received]
  exact (updateSent_wholeUpdate supported fits).writes

/-- A rank that receives the update follows the configuration. -/
theorem Wddr.HoldsUpdate.follows (holds : wddr.HoldsUpdate ratio cfg)
    (deep : 64 ≤ Device.ingressFifoDepth) (supported : ratio.Supported)
    (fits : 2 + writesSpan ratio (updateWrites cfg) < 2 ^ 16) (modes : ModeRegisters)
    {rank : Nat} (ranked : rank < wddrPhyRank) :
    (modes.receive ratio wddr.dfich.queuedPackets).Follows cfg rank := by
  rw [ModeRegisters.receive_of_updateSent (holds.sentWrites deep supported fits)]
  exact ModeRegisters.follows_update cfg modes ranked

end Update

end WavLpddr
