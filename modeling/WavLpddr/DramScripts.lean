import WavLpddr.DramDevice
import WavLpddr.IngressFifo

/-!
# What the DRAM device sends

Every operation of the DRAM device fills a buffer with idle packets and writes of mode
registers and sends it.  Such a script appends its packets one after the other, and the DRAM
reads exactly the writes of the script.
-/

namespace WavLpddr

open Attempts TxPacketBuffer

/-- What is appended to a buffer, a wait after the packet before it: a packet with the clock
off or on, or the packets of a write and the one after them. -/
inductive Sending
  | ck (wait : BitVec 16)
  | cke (wait : BitVec 16)
  | write (rank : Nat) (update : BitVec 8 × BitVec 8 × BitVec 16)
deriving DecidableEq

namespace Sending

variable (ratio : WddrFreqRatio)

def build (buffer : TxPacketBuffer) : Sending → TxPacketBuffer
  | ck wait => (buffer.createCkPacketSequence wait).2
  | cke wait => (buffer.createCkePacketSequence wait).2
  | write rank update =>
      ((buffer.dramCreateMrwPacketSequence ratio rank update.1 update.2.1
        update.2.2).2.createCkePacketSequence 1).2

/-- The packets after a timestamp. -/
def packets (last : BitVec 16) : Sending → List DfiTxPacket
  | ck wait => [ckPacket (wait + last)]
  | cke wait => [ckePacket (wait + last)]
  | write rank update => writePackets ratio rank update last

/-- The timestamp of the last packet. -/
def ends (last : BitVec 16) : Sending → BitVec 16
  | ck wait => wait + last
  | cke wait => wait + last
  | write _ update => BitVec.ofNat 16 (commandLength ratio) + (update.2.2 + last)

/-- How many packets there are. -/
def count : Sending → Nat
  | ck _ => 1
  | cke _ => 1
  | write _ _ => commandLength ratio + 1

/-- The DFI cycles that it takes. -/
def span : Sending → Nat
  | ck wait => wait.toNat
  | cke wait => wait.toNat
  | write _ update => update.2.2.toNat + commandLength ratio

/-- The write that is asked for. -/
def asked : Sending → Option ModeRegisterWrite
  | write rank update => some (askedWrite rank update).2
  | _ => none

/-- The mode register exists. -/
def Known : Sending → Prop
  | write _ update => update.1 ≤ modeRegisterNumMax
  | _ => True

instance (item : Sending) : Decidable item.Known :=
  match item with
  | ck _ => isTrue trivial
  | cke _ => isTrue trivial
  | write _ update => inferInstanceAs (Decidable (update.1 ≤ modeRegisterNumMax))

variable {ratio}

theorem appends_build (item : Sending) {buffer : TxPacketBuffer} (sound : buffer.Sound)
    (all : AllGranted buffer (item.packets ratio buffer.tsLastPacket)) :
    Appends buffer (build ratio buffer item) (item.packets ratio buffer.tsLastPacket).length
      (item.packets ratio buffer.tsLastPacket) := by
  cases item with
  | ck wait =>
      exact (creates_createCkPacketSequence.attempted wait sound).appends_of_granted all
  | cke wait =>
      exact (creates_createCkePacketSequence.attempted wait sound).appends_of_granted all
  | write rank update => exact appends_write sound all

theorem lastTime_packets (item : Sending) (last : BitVec 16) :
    lastTime last (item.packets ratio last) = item.ends ratio last := by
  cases item with
  | ck wait => rfl
  | cke wait => rfl
  | write rank update =>
      change lastTime last (writePackets ratio rank update last) = _
      rw [writePackets, lastTime_append, lastTime_cons, lastTime_nil, time_ckePacket]
      rfl

theorem length_packets (item : Sending) (last : BitVec 16) :
    (item.packets ratio last).length = item.count ratio := by
  cases item with
  | ck wait => rfl
  | cke wait => rfl
  | write rank update => exact length_writePackets ratio rank update last

theorem count_pos (ratio : WddrFreqRatio) (item : Sending) : 0 < item.count ratio := by
  cases item <;> exact Nat.succ_pos _

theorem toNat_ends {item : Sending} {last : BitVec 16}
    (fits : last.toNat + item.span ratio < 2 ^ 16) :
    (item.ends ratio last).toNat = last.toNat + item.span ratio := by
  cases item with
  | ck wait =>
      simp only [ends, span] at fits ⊢
      rw [BitVec.toNat_add]
      omega
  | cke wait =>
      simp only [ends, span] at fits ⊢
      rw [BitVec.toNat_add]
      omega
  | write rank update =>
      simp only [ends, span] at fits ⊢
      rw [toNat_writeEnd (by omega)]
      omega

end Sending

namespace Script

variable (ratio : WddrFreqRatio)

def build (script : List Sending) (buffer : TxPacketBuffer) : TxPacketBuffer :=
  script.foldl (Sending.build ratio) buffer

def packets : List Sending → BitVec 16 → List DfiTxPacket
  | [], _ => []
  | item :: rest, last => item.packets ratio last ++ packets rest (item.ends ratio last)

def count (script : List Sending) : Nat := (script.map (Sending.count ratio)).sum

def span (script : List Sending) : Nat := (script.map (Sending.span ratio)).sum

/-- The writes of a script in their order. -/
def writes (script : List Sending) : List ModeRegisterWrite := script.filterMap Sending.asked

variable {ratio} {script : List Sending} {last : BitVec 16}

theorem length_packets (script : List Sending) (last : BitVec 16) :
    (packets ratio script last).length = count ratio script := by
  induction script generalizing last with
  | nil => rfl
  | cons item rest inductionHypothesis =>
      rw [packets, List.length_append, item.length_packets, inductionHypothesis]
      rfl

/-- A script whose packets are all allocated appends them. -/
theorem appends_build (script : List Sending) {buffer : TxPacketBuffer} (sound : buffer.Sound)
    (all : AllGranted buffer (packets ratio script buffer.tsLastPacket)) :
    Appends buffer (build ratio script buffer)
      (packets ratio script buffer.tsLastPacket).length
      (packets ratio script buffer.tsLastPacket) := by
  induction script generalizing buffer with
  | nil => exact Appends.refl sound
  | cons item rest inductionHypothesis =>
      have first := item.appends_build sound all.left
      have later := all.right first
      have ends := first.tsLastPacket
      rw [item.lastTime_packets] at ends
      rw [← ends] at later
      have more := inductionHypothesis first.sound later
      rw [packets, ← ends]
      exact first.append more

/-- The DRAM reads the writes of a script, and nothing else. -/
theorem sentWrites_packets (supported : ratio.Supported)
    (known : ∀ item ∈ script, item.Known) (fits : last.toNat + span ratio script < 2 ^ 16) :
    ∃ sent, sentWrites ratio (packets ratio script last) = some sent ∧
      sent.map Prod.snd = writes script := by
  induction script generalizing last with
  | nil => exact ⟨[], rfl, rfl⟩
  | cons item rest inductionHypothesis =>
      have shares : span ratio (item :: rest) = item.span ratio + span ratio rest := rfl
      rw [shares] at fits
      have ends := @Sending.toNat_ends ratio item last (by omega)
      have inTime : (item.ends ratio last).toNat + span ratio rest < 2 ^ 16 := by omega
      obtain ⟨later, isLater, laterWrites⟩ := inductionHypothesis
        (fun other listed => known other (List.mem_cons_of_mem item listed)) inTime
      rw [packets]
      cases item with
      | ck wait =>
          refine ⟨later, ?_, laterWrites⟩
          rw [← isLater]
          apply sentWrites_idle
          intro packet listed
          rw [List.mem_singleton.mp listed]
          exact idle_ckPacket _
      | cke wait =>
          refine ⟨later, ?_, laterWrites⟩
          rw [← isLater]
          apply sentWrites_idle
          intro packet listed
          rw [List.mem_singleton.mp listed]
          exact idle_ckePacket _
      | write rank update =>
          have isKnown : update.1 ≤ modeRegisterNumMax := known _ List.mem_cons_self
          have inTime : last.toNat + update.2.2.toNat + commandLength ratio < 2 ^ 16 := by
            have own : (Sending.write rank update).span ratio =
              update.2.2.toNat + commandLength ratio := rfl
            omega
          have read := sentWrites_writePackets supported rank isKnown inTime
            (packets ratio rest ((Sending.write rank update).ends ratio last))
          rw [isLater] at read
          refine ⟨_, read, ?_⟩
          rw [List.map_cons, laterWrites]
          rfl

/-- The registers of the ranks after a script. -/
theorem receive_packets (supported : ratio.Supported) (known : ∀ item ∈ script, item.Known)
    (fits : last.toNat + span ratio script < 2 ^ 16) (modes : ModeRegisters) :
    modes.receive ratio (packets ratio script last) =
      (writes script).foldl (fun modes write => write.store modes) modes := by
  obtain ⟨sent, isSent, isAsked⟩ := sentWrites_packets supported known fits
  rw [ModeRegisters.receive, isSent, ← isAsked, List.foldl_map]

theorem count_pos (nonempty : script ≠ []) : 0 < count ratio script := by
  obtain ⟨item, rest, rfl⟩ := List.exists_cons_of_ne_nil nonempty
  exact Nat.add_pos_left (item.count_pos ratio) _

/-- The packets of a script are allocated, fit into the FIFO and are read as they are meant. -/
structure Delivered [Device] (ratio : WddrFreqRatio) (heapFails : Nat → Bool)
    (script : List Sending) : Prop where
  supported : ratio.Supported
  granted : ∀ attempt < count ratio script, heapFails attempt = false
  room : count ratio script ≤ Device.ingressFifoDepth
  inTime : 1 + span ratio script < 2 ^ 16

end Script

/-- A buffer after `dfi_tx_packet_buffer_init`. -/
theorem sound_init (heapFails : Nat → Bool) :
    (dfiTxPacketBufferInit (fun _ => .zero) heapFails).Sound :=
  sound_of_empty rfl fun _ => rfl

namespace DramSession

/-- What a session has in common with one that differs in what was sent. -/
structure SameCopies (before after : DramSession) : Prop where
  mr13 : after.mr13 = before.mr13
  cfg : after.cfg = before.cfg
  cfgs : after.cfgs = before.cfgs

theorem SameCopies.current {before after : DramSession} (same : before.SameCopies after) :
    after.current = before.current := by
  rw [DramSession.current, same.cfgs, same.cfg, DramSession.current]

variable [KernelIo] [Device]

theorem sameCopies_transmit (heapFails : Nat → Bool) (build : TxPacketBuffer → TxPacketBuffer)
    (session : DramSession) : session.SameCopies (session.transmit heapFails build) := by
  unfold transmit
  dsimp only
  split <;> exact ⟨rfl, rfl, rfl⟩

/-- The ranks receive the writes of a script that is delivered. -/
theorem modes_transmit {session : DramSession} {heapFails : Nat → Bool} {script : List Sending}
    (nonempty : script ≠ []) (known : ∀ item ∈ script, item.Known)
    (delivered : Script.Delivered session.current.ratio heapFails script) :
    (session.transmit heapFails (Script.build session.current.ratio script)).modes =
      (Script.writes script).foldl (fun modes write => write.store modes) session.modes := by
  have count := @Script.length_packets session.current.ratio script 1
  have fresh : (dfiTxPacketBufferInit (fun _ => .zero) heapFails).tsLastPacket = 1 := rfl
  have built := (@Script.appends_build session.current.ratio script _
    (sound_init heapFails) (Attempts.granted_eq_iff.mpr fun attempt inside => by
      rw [fresh, count] at inside
      exact (congrArg heapFails (Nat.zero_add attempt)).trans
        (delivered.granted attempt inside))).packets
  have empty : (dfiTxPacketBufferInit (fun _ => .zero) heapFails).packets = [] := rfl
  rw [empty, List.nil_append, fresh] at built
  have some : Script.packets session.current.ratio script 1 ≠ [] := by
    rw [← List.length_pos_iff, count]
    exact Script.count_pos nonempty
  have fits : (Script.packets session.current.ratio script 1).length ≤
      Device.ingressFifoDepth := by
    rw [count]
    exact delivered.room
  have sent := DfiChannel.dfiBufferFillAndSendPackets_success some fits session.channel
  unfold transmit
  dsimp only
  rw [built]
  split
  · have inTime : (1 : BitVec 16).toNat + Script.span session.current.ratio script < 2 ^ 16 :=
      delivered.inTime
    exact Script.receive_packets delivered.supported known inTime session.modes
  · rename_i ret channel notSent run
    rw [run] at sent
    exact absurd sent notSent

end DramSession

end WavLpddr
