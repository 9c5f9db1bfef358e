import WavLpddr.DfiFifo
import WavLpddr.Lib.Loops

/-!
# Packets reach the ingress FIFO in order

Filling the FIFO is a sequence of loads and pushes: each word of a packet goes through the
data register with one toggle of the enable bit, and one toggle of the update bit pushes the
packet.  The loop runs over a list of packets whose cursor moves on before the result of a
write is known; it stops at the end of the list or at the first packet that does not fit.
-/

namespace WavLpddr

open RegisterFile BitFields

namespace DfiChannel

section Filling

variable [KernelIo] [Device]

/-- A turn of the loop of `dfi_buffer_write_packets`, at a list that is not empty. -/
def writePacketsTurn :
    List DfiTxPacket × DfiChannel → (List DfiTxPacket × DfiChannel) ⊕ (DfiReturn × DfiChannel)
  | ([], channel) => .inr (.dfiError, channel)
  | (packet :: next, channel) =>
      let written := channel.dfiFifoWriteIgRegIf packet.rawData
      if next ≠ [] ∧ written.1 = .dfiSuccess then .inl (next, written.2) else .inr written

/-- The loop of `dfi_buffer_write_packets` ends, with what the recursion over the list gives. -/
theorem leaves_dfiBufferWriteLoop {packets : List DfiTxPacket} (nonempty : packets ≠ [])
    (channel : DfiChannel) :
    Loops.Leaves writePacketsTurn (packets, channel) (dfiBufferWriteLoop packets channel) := by
  induction packets generalizing channel with
  | nil => exact absurd rfl nonempty
  | cons packet next inductionHypothesis =>
      rw [dfiBufferWriteLoop, dfiFifoWriteIgRegIf_eq]
      by_cases full : channel.ingress.length = Device.ingressFifoDepth
      · rw [if_pos full]
        apply Loops.Leaves.exit
        simp [writePacketsTurn, dfiFifoWriteIgRegIf_eq, full]
      · rw [if_neg full]
        by_cases last : next = []
        · subst last
          apply Loops.Leaves.exit
          simp [writePacketsTurn, dfiFifoWriteIgRegIf_eq, full, dfiBufferWriteLoop]
        · refine Loops.Leaves.turn ?_ (inductionHypothesis last (channel.loadAndPush packet))
          simp [writePacketsTurn, dfiFifoWriteIgRegIf_eq, full, last]

/-- Packets that fit are sent. -/
theorem dfiBufferFillAndSendPackets_success {packets : List DfiTxPacket}
    (nonempty : packets ≠ []) (fits : packets.length ≤ Device.ingressFifoDepth)
    (channel : DfiChannel) :
    (channel.dfiBufferFillAndSendPackets packets).1 = .dfiSuccess := by
  unfold dfiBufferFillAndSendPackets
  rw [dfiBufferFillPackets_loaded nonempty, if_pos fits]

/-- Filling pushes the packets that fit, in list order and each with its words from the last to
the first, whatever the registers and the FIFO held.  It succeeds exactly if all packets fit;
otherwise the FIFO is reported full and nothing is sent. -/
theorem dfiBufferFillPackets_pushes {packets : List DfiTxPacket} (nonempty : packets ≠ [])
    (channel : DfiChannel) :
    let cleared := channel.dfiFifoEnableClockRegIf
    let pushed := packets.take Device.ingressFifoDepth
    let filled := channel.dfiBufferFillPackets packets
    Loops.Leaves writePacketsTurn (packets, cleared) filled ∧
      filled.2 = pushed.foldl loadAndPush cleared ∧
      filled.2.ingress = pushed.map (fun packet => packet.rawData.reverse) ∧
      filled.2.loaded = [] ∧
      SameHandshake (cleared.regs dfichTop1) (filled.2.regs dfichTop1) ∧
      (filled.1 = .dfiSuccess ↔ pushed = packets) ∧
      (filled.1 ≠ .dfiSuccess → filled.1 = .dfiErrorFifoFull ∧
        channel.dfiBufferFillAndSendPackets packets = filled) := by
  intro cleared pushed filled
  have armed : cleared = _ := dfiFifoEnableClockRegIf_eq channel
  have loop := dfiBufferFillPackets_loaded nonempty channel
  have left := dfiBufferFillPackets_filled nonempty channel
  have result : filled.1 =
      if packets.length ≤ Device.ingressFifoDepth then .dfiSuccess else .dfiErrorFifoFull :=
    congrArg Prod.fst loop
  refine ⟨?_, congrArg Prod.snd loop, left.ingress, left.loaded, ?_, ?_, fun failed => ?_⟩
  · rw [show filled = _ from dfiBufferFillPackets_eq nonempty channel]
    exact leaves_dfiBufferWriteLoop nonempty cleared
  · rw [armed]
    simpa only [write_self] using left.top1
  · rw [result, List.take_eq_self_iff]
    split <;> simp [*]
  · have full : filled.1 = .dfiErrorFifoFull := by
      rw [result] at failed ⊢
      exact if_neg fun fits => failed (if_pos fits)
    refine ⟨full, ?_⟩
    unfold dfiBufferFillAndSendPackets
    cases run : channel.dfiBufferFillPackets packets with
    | mk ret after =>
        obtain rfl : ret = .dfiErrorFifoFull := by
          rw [← full]
          exact (congrArg Prod.fst run).symm
        exact run.symm

end Filling

/-- Packets that differ in their timestamps. -/
def numberedPackets (count : Nat) : List DfiTxPacket :=
  (List.range count).map fun time => { DfiTxPacket.ones with time := BitVec.ofNat 16 time }

/-- Of 65 packets a FIFO of 64 gets the first ones, whatever was left in it. -/
theorem dfiBufferFillPackets_pushes_numbered :
    let := referencePlatform
    let channel : DfiChannel := ⟨fun _ => 0x5A5A5A5A, [7], [[1, 2]]⟩
    let few := channel.dfiBufferFillPackets (numberedPackets 3)
    let many := channel.dfiBufferFillPackets (numberedPackets 65)
    (few.1 = .dfiSuccess ∧
      few.2.ingress = (numberedPackets 3).map fun packet => packet.rawData.reverse) ∧
    many.1 = .dfiErrorFifoFull ∧
      many.2.ingress = (numberedPackets 64).map fun packet => packet.rawData.reverse := by
  intro platform channel few many
  have count : ∀ count, (numberedPackets count).length = count := by
    simp [numberedPackets]
  have some : ∀ more, numberedPackets (more + 1) ≠ [] := by
    intro more
    simp [← List.length_pos_iff, count]
  have fits : (numberedPackets 3).take Device.ingressFifoDepth = numberedPackets 3 :=
    List.take_of_length_le (by rw [count]; decide)
  have firstOnes : (numberedPackets 65).take Device.ingressFifoDepth = numberedPackets 64 := by
    rw [numberedPackets, ← List.map_take, List.take_range]
    rfl
  have fewPushes := @dfiBufferFillPackets_pushes referencePlatform.toKernelIo
    referencePlatform.toDevice (numberedPackets 3) (some 2) channel
  have manyPushes := @dfiBufferFillPackets_pushes referencePlatform.toKernelIo
    referencePlatform.toDevice (numberedPackets 65) (some 64) channel
  obtain ⟨-, -, fewIngress, -, -, success, -⟩ := fewPushes
  obtain ⟨-, -, manyIngress, -, -, allPushed, failure⟩ := manyPushes
  refine ⟨⟨success.mpr fits, ?_⟩, (failure fun succeeded => ?_).1, ?_⟩
  · rw [fits] at fewIngress
    exact fewIngress
  · have same := congrArg List.length (firstOnes.symm.trans (allPushed.mp succeeded))
    rw [count, count] at same
    exact absurd same (by decide)
  · rw [firstOnes] at manyIngress
    exact manyIngress

end DfiChannel

end WavLpddr
