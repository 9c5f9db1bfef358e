import WavLpddr.Lib.Attempts
import WavLpddr.Packet

/-!
# What building a sequence appends

In a sound buffer the listed items are distinct, were handed out by an allocator,
and the storage that is left is zero.  On such a buffer creating a packet appends
one packet with known contents or, when the allocation fails, nothing; filling the
packet just created changes only that packet.  The sequences of the builders are
composed from these two facts.
-/

namespace WavLpddr

open Attempts

/-- The DCE fields and the time of a new packet. -/
def DfiTxPacket.stampCk (time : BitVec 16) (packet : DfiTxPacket) : DfiTxPacket :=
  { TxPacketBuffer.compiledPhases.foldl (fun packet phase =>
      packet.updateCa phase fun ca => { ca with dce := 1 }) packet with
    time := time }

def DfiTxPacket.stampCke (packet : DfiTxPacket) : DfiTxPacket :=
  TxPacketBuffer.compiledPhases.foldl (fun packet phase =>
    packet.updateCa phase fun ca => { ca with cke := TxPacketBuffer.dfiPackCkeVal }) packet

/-- What updates of command phases do not touch stays the same. -/
theorem DfiTxPacket.observe_foldl_updateCa {Observed : Type} (observe : TxCaPhase → Observed)
    (update : TxCaPhase → TxCaPhase) (keeps : ∀ phase, observe (update phase) = observe phase)
    (updated : List Nat) (packet : DfiTxPacket) (phase : Nat) :
    observe ((updated.foldl (fun packet phase => packet.updateCa phase update) packet).ca phase) =
      observe (packet.ca phase) := by
  induction updated generalizing packet with
  | nil => rfl
  | cons first rest inductionHypothesis =>
      rw [List.foldl_cons, inductionHypothesis]
      change observe (Function.update packet.ca first _ phase) = _
      by_cases isFirst : phase = first
      · rw [isFirst, Function.update_self, keeps]
      · rw [Function.update_of_ne isFirst]

theorem DfiTxPacket.data_foldl_updateCa (update : TxCaPhase → TxCaPhase) (updated : List Nat)
    (packet : DfiTxPacket) :
    (updated.foldl (fun packet phase => packet.updateCa phase update) packet).data =
      packet.data := by
  induction updated generalizing packet with
  | nil => rfl
  | cons first rest inductionHypothesis => exact inductionHypothesis (packet.updateCa first update)

/-- A zeroed packet with its DCE fields and its time. -/
def ckPacket (time : BitVec 16) : DfiTxPacket := DfiTxPacket.zero.stampCk time

/-- A packet that also holds CKE. -/
def ckePacket (time : BitVec 16) : DfiTxPacket := (ckPacket time).stampCke

@[simp]
theorem time_ckPacket (time : BitVec 16) : (ckPacket time).time = time := rfl

@[simp]
theorem time_ckePacket (time : BitVec 16) : (ckePacket time).time = time := rfl

theorem idle_ckPacket (time : BitVec 16) (phase : Nat) :
    ((ckPacket time).ca phase).cs = 0 ∧ ((ckPacket time).ca phase).address = 0 :=
  Prod.mk.inj (DfiTxPacket.observe_foldl_updateCa (fun phase => (phase.cs, phase.address))
    (fun phase => { phase with dce := 1 }) (fun _ => rfl) TxPacketBuffer.compiledPhases .zero phase)

theorem idle_ckePacket (time : BitVec 16) (phase : Nat) :
    ((ckePacket time).ca phase).cs = 0 ∧ ((ckePacket time).ca phase).address = 0 := by
  have stamped := Prod.mk.inj (DfiTxPacket.observe_foldl_updateCa
    (fun phase => (phase.cs, phase.address))
    (fun phase => { phase with cke := TxPacketBuffer.dfiPackCkeVal }) (fun _ => rfl)
    TxPacketBuffer.compiledPhases (ckPacket time) phase)
  exact ⟨stamped.1.trans (idle_ckPacket time phase).1,
    stamped.2.trans (idle_ckPacket time phase).2⟩

/-- The time of the last of some packets, or the given time when there are none. -/
def lastTime (start : BitVec 16) (packets : List DfiTxPacket) : BitVec 16 :=
  packets.foldl (fun _ packet => packet.time) start

@[simp]
theorem lastTime_nil (start : BitVec 16) : lastTime start [] = start := rfl

@[simp]
theorem lastTime_append (start : BitVec 16) (first second : List DfiTxPacket) :
    lastTime start (first ++ second) = lastTime (lastTime start first) second :=
  List.foldl_append

@[simp]
theorem lastTime_cons (start : BitVec 16) (packet : DfiTxPacket) (rest : List DfiTxPacket) :
    lastTime start (packet :: rest) = lastTime packet.time rest := rfl

namespace TxPacketBuffer

section Memory

variable {memory : PacketPtr → DfiTxPacket} {items : List PacketPtr} {item : PacketPtr}

/-- A write behind an unlisted pointer is not seen. -/
theorem map_update_of_notMem (unlisted : item ∉ items) (packet : DfiTxPacket) :
    items.map (Function.update memory item packet) = items.map memory := by
  apply List.map_congr_left
  intro other listed
  apply Function.update_of_ne
  rintro rfl
  exact unlisted listed

end Memory

/-- Whether the allocation after a number of further attempts fails. -/
def fails (buffer : TxPacketBuffer) (further : Nat) : Bool :=
  match buffer.pool with
  | some storage => storage.len.toNat ≤ storage.index.toNat + further
  | none => buffer.heapFails (buffer.attempts + further)

/-- An allocator has handed out the item. -/
def HandedOut (buffer : TxPacketBuffer) : PacketPtr → Prop
  | .storage slot => ∀ storage, buffer.pool = some storage → slot < storage.index.toNat
  | .heap block => block < buffer.attempts

/-- The items are distinct and handed out, and the storage left is zero. -/
structure Sound (buffer : TxPacketBuffer) : Prop where
  nodup : buffer.list.Nodup
  handedOut : ∀ item ∈ buffer.list, buffer.HandedOut item
  zeroed : ∀ storage, buffer.pool = some storage →
    ∀ slot, storage.index.toNat ≤ slot → buffer.memory (.storage slot) = .zero

/-- An empty buffer is sound over zeroed memory. -/
theorem sound_of_empty {buffer : TxPacketBuffer} (empty : buffer.list = [])
    (zeroed : ∀ item, buffer.memory item = .zero) : buffer.Sound where
  nodup := by
    rw [empty]
    exact List.nodup_nil
  handedOut item listed := by
    rw [empty] at listed
    exact absurd listed List.not_mem_nil
  zeroed _ _ _ _ := zeroed _

/-- What an operation appends to a sound buffer: how many allocations it asks for, and
the packets it lists. -/
structure Appends (before after : TxPacketBuffer) (asked : Nat) (new : List DfiTxPacket) :
    Prop where
  packets : after.packets = before.packets ++ new
  tsLastPacket : after.tsLastPacket = lastTime before.tsLastPacket new
  attempts : after.attempts = before.attempts + asked
  fails : ∀ further, after.fails further = before.fails (asked + further)
  sound : after.Sound

theorem Appends.refl {buffer : TxPacketBuffer} (sound : buffer.Sound) :
    Appends buffer buffer 0 [] :=
  ⟨(List.append_nil _).symm, rfl, rfl, fun further => by rw [Nat.zero_add], sound⟩

theorem Appends.trans {first second third : TxPacketBuffer} {asked more : Nat}
    {new later : List DfiTxPacket} (appended : Appends first second asked new)
    (appendedMore : Appends second third more later) :
    Appends first third (asked + more) (new ++ later) where
  packets := by rw [appendedMore.packets, appended.packets, List.append_assoc]
  tsLastPacket := by rw [appendedMore.tsLastPacket, appended.tsLastPacket, lastTime_append]
  attempts := by rw [appendedMore.attempts, appended.attempts, Nat.add_assoc]
  fails further := by rw [appendedMore.fails, appended.fails, Nat.add_assoc]
  sound := appendedMore.sound

theorem length_packets (buffer : TxPacketBuffer) : buffer.packets.length = buffer.list.length :=
  List.length_map _

theorem Appends.length_list {before after : TxPacketBuffer} {asked : Nat}
    {new : List DfiTxPacket} (appended : Appends before after asked new) :
    after.list.length = before.list.length + new.length := by
  rw [← length_packets, appended.packets, List.length_append, length_packets]

theorem Appends.drop_packets {before after : TxPacketBuffer} {asked : Nat}
    {new : List DfiTxPacket} (appended : Appends before after asked new) :
    after.packets.drop before.list.length = new := by
  rw [appended.packets, ← length_packets, List.drop_left]

/-- Only the last of two changes of a packet's contents counts. -/
theorem updatePacket_updatePacket (buffer : TxPacketBuffer) (item : PacketPtr)
    (first second : DfiTxPacket → DfiTxPacket) :
    (buffer.updatePacket item first).updatePacket item second =
      buffer.updatePacket item fun packet => second (first packet) := by
  simp [updatePacket]

/-- What an allocation leaves: the new item is unlisted and zero. -/
structure Allocated (before after : TxPacketBuffer) (item : PacketPtr) : Prop where
  list : after.list = before.list
  tsLastPacket : after.tsLastPacket = before.tsLastPacket
  attempts : after.attempts = before.attempts + 1
  fails : ∀ further, after.fails further = before.fails (1 + further)
  zero : after.memory item = .zero
  others : ∀ other, other ≠ item → after.memory other = before.memory other
  unlisted : item ∉ before.list
  handedOut : ∀ other ∈ before.list ++ [item], after.HandedOut other
  zeroed : ∀ storage, after.pool = some storage → ∀ slot, storage.index.toNat ≤ slot →
    PacketPtr.storage slot ≠ item ∧ after.memory (.storage slot) = .zero

/-- A failed allocation changes nothing but the count of attempts. -/
theorem createPacket_failed {buffer : TxPacketBuffer} (failed : buffer.fails 0 = true) :
    buffer.createPacket = (none, { buffer with attempts := buffer.attempts + 1 }) := by
  unfold fails at failed
  unfold createPacket
  cases pooled : buffer.pool with
  | none =>
      rw [pooled] at failed
      exact if_pos failed
  | some storage =>
      rw [pooled] at failed
      have full : ¬ storage.index < storage.len := by
        simpa [BitVec.lt_def] using failed
      exact if_neg full

theorem pool_eq_some_iff {buffer : TxPacketBuffer} {storage : PacketStorage} :
    buffer.pool = some storage ↔ buffer.storage = some storage ∧ storage.hasPackets = true :=
  Option.filter_eq_some_iff

/-- The index of a storage that is not used up does not wrap. -/
theorem toNat_index_add_one {storage : PacketStorage} (free : storage.index < storage.len) :
    (storage.index + 1).toNat = storage.index.toNat + 1 := by
  rw [BitVec.lt_def] at free
  have := storage.len.isLt
  rw [BitVec.toNat_add, Nat.mod_eq_of_lt]
  · rfl
  · change storage.index.toNat + 1 < 2 ^ 8
    omega

/-- A block of the heap is new and zeroed. -/
theorem allocated_heap {buffer : TxPacketBuffer} (sound : buffer.Sound)
    (pooled : buffer.pool = none) :
    Allocated buffer
      { buffer with
        attempts := buffer.attempts + 1
        memory := Function.update buffer.memory (.heap buffer.attempts) .zero
        heapBlocks := buffer.heapBlocks ++ [buffer.attempts] }
      (.heap buffer.attempts) where
  list := rfl
  tsLastPacket := rfl
  attempts := rfl
  fails further := by
    simp only [fails, pool] at pooled ⊢
    rw [pooled]
    exact congrArg buffer.heapFails (Nat.add_assoc ..)
  zero := Function.update_self ..
  others other different := Function.update_of_ne different _ _
  unlisted listed := Nat.lt_irrefl _ (sound.handedOut _ listed)
  handedOut := by
    intro other listed
    rcases List.mem_append.mp listed with earlier | last
    · have handedOut := sound.handedOut other earlier
      cases other with
      | storage slot => exact handedOut
      | heap block => exact Nat.lt_succ_of_lt handedOut
    · obtain rfl := List.mem_singleton.mp last
      exact Nat.lt_succ_self _
  zeroed storage isPool := absurd (pooled.symm.trans isPool) (by simp)

/-- A slot of the storage was not handed out and is still zero. -/
theorem allocated_storage {buffer : TxPacketBuffer} (sound : buffer.Sound)
    {storage : PacketStorage} (pooled : buffer.pool = some storage)
    (free : storage.index < storage.len) :
    Allocated buffer
      { buffer with
        attempts := buffer.attempts + 1
        storage := some { storage with index := storage.index + 1 } }
      (.storage storage.index.toNat) := by
  have next := toNat_index_add_one free
  have poolAfter : ({ buffer with
      attempts := buffer.attempts + 1
      storage := some { storage with index := storage.index + 1 } } : TxPacketBuffer).pool =
        some { storage with index := storage.index + 1 } :=
    pool_eq_some_iff.mpr ⟨rfl, (pool_eq_some_iff.mp pooled).2⟩
  refine ⟨rfl, rfl, rfl, ?_, sound.zeroed storage pooled _ (Nat.le_refl _), fun _ _ => rfl, ?_,
    ?_, ?_⟩
  · intro further
    simp only [fails, poolAfter, pooled, next, Nat.add_assoc]
  · intro listed
    exact Nat.lt_irrefl _ (sound.handedOut _ listed storage pooled)
  · intro other listed
    rcases List.mem_append.mp listed with earlier | last
    · have handedOut := sound.handedOut other earlier
      cases other with
      | storage slot =>
          intro present isPool
          obtain rfl := Option.some.inj (poolAfter.symm.trans isPool)
          have inside := handedOut storage pooled
          change slot < (storage.index + 1).toNat
          omega
      | heap block => exact Nat.lt_succ_of_lt handedOut
    · obtain rfl := List.mem_singleton.mp last
      intro present isPool
      obtain rfl := Option.some.inj (poolAfter.symm.trans isPool)
      change _ < (storage.index + 1).toNat
      omega
  · intro present isPool slot later
    obtain rfl := Option.some.inj (poolAfter.symm.trans isPool)
    change (storage.index + 1).toNat ≤ slot at later
    refine ⟨?_, sound.zeroed storage pooled slot (by omega)⟩
    rintro same
    have := PacketPtr.storage.inj same
    omega

theorem createPacket_allocated {buffer : TxPacketBuffer} (sound : buffer.Sound)
    (succeeds : buffer.fails 0 = false) :
    ∃ item after, buffer.createPacket = (some item, after) ∧ Allocated buffer after item := by
  unfold fails at succeeds
  unfold createPacket
  cases pooled : buffer.pool with
  | none =>
      rw [pooled] at succeeds
      exact ⟨_, _, if_neg (by simpa using succeeds), allocated_heap sound pooled⟩
  | some storage =>
      rw [pooled] at succeeds
      have free : storage.index < storage.len := by
        simpa [BitVec.lt_def] using succeeds
      exact ⟨_, _, if_pos free, allocated_storage sound pooled free⟩

/-- The buffer after a new item with some contents was listed. -/
def listItem (buffer : TxPacketBuffer) (item : PacketPtr) (packet : DfiTxPacket) :
    TxPacketBuffer :=
  { buffer.updatePacket item fun _ => packet with
    tsLastPacket := packet.time
    list := buffer.list ++ [item] }

theorem Allocated.appends {before after : TxPacketBuffer} {item : PacketPtr}
    (allocated : Allocated before after item) (sound : before.Sound) (packet : DfiTxPacket) :
    Appends before (after.listItem item packet) 1 [packet] where
  packets := by
    have unlisted := allocated.unlisted
    have same : before.list.map after.memory = before.list.map before.memory := by
      apply List.map_congr_left
      intro other listed
      apply allocated.others
      rintro rfl
      exact unlisted listed
    change (after.list ++ [item]).map (Function.update after.memory item packet) = _
    rw [allocated.list, List.map_append, map_update_of_notMem unlisted, same, List.map_singleton,
      Function.update_self]
    rfl
  tsLastPacket := rfl
  attempts := allocated.attempts
  fails := allocated.fails
  sound := {
    nodup := by
      change (after.list ++ [item]).Nodup
      rw [allocated.list]
      exact List.concat_eq_append ▸ sound.nodup.concat allocated.unlisted
    handedOut := by
      change ∀ other ∈ after.list ++ [item], after.HandedOut other
      rw [allocated.list]
      exact allocated.handedOut
    zeroed := by
      intro storage isPool slot later
      obtain ⟨different, zero⟩ := allocated.zeroed storage isPool slot later
      exact (Function.update_of_ne different _ _).trans zero }

/-- An item was created: it holds the fresh packet, and filling it appends what it is
filled with. -/
structure Created (before after : TxPacketBuffer) (item : PacketPtr) (fresh : DfiTxPacket) :
    Prop where
  contents : after.memory item = fresh
  filled : ∀ packet : DfiTxPacket, packet.time = fresh.time →
    Appends before (after.updatePacket item fun _ => packet) 1 [packet]

theorem Created.appends {before after : TxPacketBuffer} {item : PacketPtr}
    {fresh : DfiTxPacket} (created : Created before after item fresh) :
    Appends before after 1 [fresh] := by
  have filled := created.filled fresh rfl
  have same : (after.updatePacket item fun _ => fresh) = after := by
    rw [updatePacket, ← created.contents, Function.update_eq_self]
  rwa [same] at filled

/-- What a creating function does: it fails with the allocation, or it lists a fresh packet
the given time after the last one. -/
def Creates (create : BitVec 16 → TxPacketBuffer → Option PacketPtr × TxPacketBuffer)
    (fresh : BitVec 16 → DfiTxPacket) : Prop :=
  ∀ (timeOffset : BitVec 16) (before : TxPacketBuffer), before.Sound →
    (before.fails 0 = true ∧
      ∃ after, create timeOffset before = (none, after) ∧ Appends before after 1 []) ∨
    (before.fails 0 = false ∧
      ∃ item after, create timeOffset before = (some item, after) ∧
        Created before after item (fresh (timeOffset + before.tsLastPacket)))

/-- A failed attempt appends nothing. -/
theorem appends_attempt {buffer : TxPacketBuffer} (sound : buffer.Sound)
    (failed : buffer.fails 0 = true) :
    Appends buffer { buffer with attempts := buffer.attempts + 1 } 1 [] where
  packets := (List.append_nil _).symm
  tsLastPacket := rfl
  attempts := rfl
  fails further := by
    have samePool : ({ buffer with attempts := buffer.attempts + 1 } : TxPacketBuffer).pool =
        buffer.pool := rfl
    simp only [fails, samePool] at failed ⊢
    cases pooled : buffer.pool with
    | none => exact congrArg buffer.heapFails (Nat.add_assoc ..)
    | some storage =>
        -- A storage that is used up stays used up.
        rw [pooled] at failed
        have full : storage.len.toNat ≤ storage.index.toNat := by simpa using failed
        simp only [decide_eq_decide]
        omega
  sound := {
    nodup := sound.nodup
    handedOut := by
      intro item listed
      have handedOut := sound.handedOut item listed
      cases item with
      | storage slot => exact handedOut
      | heap block => exact Nat.lt_succ_of_lt handedOut
    zeroed := sound.zeroed }

theorem creates_createCkPacketSequence : Creates createCkPacketSequence ckPacket := by
  intro timeOffset before sound
  cases failed : before.fails 0 with
  | true =>
      left
      refine ⟨rfl, { before with attempts := before.attempts + 1 }, ?_,
        appends_attempt sound failed⟩
      simp only [createCkPacketSequence, createPacket_failed failed]
  | false =>
      right
      obtain ⟨item, after, creates, allocated⟩ := createPacket_allocated sound failed
      have stamped : before.createCkPacketSequence timeOffset =
          (some item, after.listItem item (ckPacket (timeOffset + before.tsLastPacket))) := by
        simp only [createCkPacketSequence, creates, allocated.tsLastPacket, listItem,
          updatePacket, allocated.zero]
        rfl
      refine ⟨rfl, item, _, stamped, Function.update_self .., ?_⟩
      intro packet sameTime
      have appended := allocated.appends sound packet
      rw [listItem, sameTime] at appended
      rw [listItem]
      simpa [updatePacket] using appended

theorem creates_createCkePacketSequence : Creates createCkePacketSequence ckePacket := by
  intro timeOffset before sound
  rcases creates_createCkPacketSequence timeOffset before sound with
    ⟨failed, after, refused, appended⟩ | ⟨succeeds, item, after, listed, created⟩
  · left
    exact ⟨failed, after, by simp only [createCkePacketSequence, refused], appended⟩
  · right
    refine ⟨succeeds, item, after.updatePacket item DfiTxPacket.stampCke, ?_, ?_, ?_⟩
    · simp only [createCkePacketSequence, listed]
      rfl
    · rw [ckePacket, ← created.contents]
      exact Function.update_self ..
    · intro packet sameTime
      rw [updatePacket_updatePacket]
      exact created.filled packet sameTime

end TxPacketBuffer

/-- An empty buffer that takes zeroed packets from the heap. -/
def heapBuffer : TxPacketBuffer :=
  TxPacketBuffer.dfiTxPacketBufferInit (fun _ => .zero) (fun _ => false)

/-- An empty buffer over a zeroed storage. -/
def storageBuffer (len : BitVec 8) : TxPacketBuffer :=
  { heapBuffer with storage := some { hasPackets := true, index := 0, len := len } }

theorem sound_heapBuffer : heapBuffer.Sound := TxPacketBuffer.sound_of_empty rfl fun _ => rfl

end WavLpddr
