import WavLpddr.BufferHistory

/-!
# Where packets come from and go back to

Creating a packet takes it from the heap unless there is a storage with packets;
freeing gives packets back to the heap only if there is no storage at all.  The
accounts are kept in every history in which no packets are freed over a storage
whose packets pointer is null.
-/

namespace WavLpddr

open TxPacketBuffer

namespace TxPacketBuffer

/-- How many of the listed items are slots of a storage. -/
def slotsListed (buffer : TxPacketBuffer) : Nat :=
  buffer.list.countP fun
    | .storage _ => true
    | .heap _ => false

/-- Every packet was given back to the allocator it came from: no heap block is left, and the
index of the storage went back by the number of its slots, without an underflow. -/
structure Returned (before after : TxPacketBuffer) : Prop where
  heap : after.heapBlocks = []
  index : ∀ storage, before.storage = some storage →
    ∃ present, after.storage = some present ∧
      present.index.toNat + before.slotsListed = storage.index.toNat

end TxPacketBuffer

/-- What a step of a history promises. -/
structure Accounted (op : BufferOp) (before after : TxPacketBuffer) : Prop where
  refused : op.created before = some none →
    after.list = before.list ∧ after.tsLastPacket = before.tsLastPacket ∧
      after.storage = before.storage
  pooled : ∀ storage, after.pool = some storage →
    storage.index.toNat = after.list.length ∧ after.list.Nodup ∧
      ∀ item ∈ after.list, ∃ slot < storage.len.toNat, item = .storage slot
  freed : op = .free →
    after.list = [] ∧ after.tsLastPacket = 1 ∧ Returned before after

/-- No packets are freed over a storage whose packets pointer is null. -/
def KeepsAllocators (op : BufferOp) (before : TxPacketBuffer) : Prop :=
  op = .free → (∃ storage, before.storage = some storage ∧ storage.hasPackets = false) →
    before.list = []

section Blocks

variable {stamp : DfiTxPacket → DfiTxPacket} {buffer after : TxPacketBuffer}

theorem TxPacketBuffer.ListsBlocks.create {item : Option PacketPtr} (lists : buffer.ListsBlocks)
    (outcome : CreateOutcome stamp buffer after item) : after.ListsBlocks := by
  cases outcome with
  | refused list tsLastPacket storage memory heapBlocks =>
      rw [ListsBlocks, pool_congr storage, list, heapBlocks]
      exact lists
  | slot pooled free list storageAfter memory heapBlocks =>
      rw [ListsBlocks, pool_slot pooled storageAfter, heapBlocks]
      refine ⟨fun unpooled => absurd unpooled (by simp), fun _ => lists.2 ?_⟩
      rw [pooled]
      exact Option.some_ne_none _
  | block unpooled list storage memory heapBlocks =>
      rw [ListsBlocks, pool_congr storage, list, heapBlocks, lists.1 unpooled, List.map_append]
      exact ⟨fun _ => rfl, fun pooled => absurd unpooled pooled⟩

theorem pool_eq_none_of_null {storage : PacketStorage} (present : buffer.storage = some storage)
    (null : storage.hasPackets = false) : buffer.pool = none := by
  rw [pool, present]
  exact if_neg (by simp [null])

theorem TxPacketBuffer.ListsBlocks.free (lists : buffer.ListsBlocks)
    (keeps : KeepsAllocators .free buffer) :
    buffer.dfiTxPacketBufferFree.list = [] ∧ buffer.dfiTxPacketBufferFree.heapBlocks = [] := by
  cases stored : buffer.storage with
  | none =>
      have unpooled : buffer.pool = none := by rw [pool, stored]; rfl
      exact foldl_freeItem_heap stored (lists.1 unpooled) rfl
  | some storage =>
      rw [free_storage stored]
      refine ⟨rfl, ?_⟩
      cases hasPackets : storage.hasPackets with
      | true =>
          have pooled := pool_eq_some_iff.mpr ⟨stored, hasPackets⟩
          exact lists.2 (pooled ▸ Option.some_ne_none storage)
      | false =>
          have empty := keeps rfl ⟨storage, stored, hasPackets⟩
          have blocks := lists.1 (pool_eq_none_of_null stored hasPackets)
          exact List.map_eq_nil_iff.mp (blocks.symm.trans empty)

theorem TxPacketBuffer.ListsBlocks.step {op : BufferOp} (lists : buffer.ListsBlocks)
    (keeps : KeepsAllocators op buffer) (taken : op.step buffer = some after) :
    after.ListsBlocks := by
  cases op with
  | createCk timeOffset =>
      obtain rfl := Option.some.inj taken
      exact lists.create (createCkPacketSequence_outcome timeOffset buffer)
  | createCke timeOffset =>
      obtain rfl := Option.some.inj taken
      exact lists.create (createCkePacketSequence_outcome timeOffset buffer)
  | fill item update =>
      obtain ⟨-, filled⟩ := Option.ite_none_right_eq_some.mp taken
      obtain rfl := Option.some.inj filled
      exact lists
  | free =>
      obtain rfl := Option.some.inj taken
      obtain ⟨list, heapBlocks⟩ := lists.free keeps
      rw [ListsBlocks, list, heapBlocks]
      exact ⟨fun _ => rfl, fun _ => rfl⟩

/-- The heap blocks are listed as long as no packets are freed over a null packets pointer. -/
theorem listsBlocks_of_reachable (reachable : bufferSystem.ReachableWhere KeepsAllocators buffer) :
    buffer.ListsBlocks := by
  refine reachable.invariant ?_ ?_
  · rintro _ ⟨memory, heapFails, storage, unused, rfl⟩
    exact ⟨fun _ => rfl, fun _ => rfl⟩
  · intro op before next _ keeps taken lists
    exact lists.step keeps taken

end Blocks

section Steps

variable {op : BufferOp} {before after : TxPacketBuffer}

theorem refused_unchanged (taken : op.step before = some after)
    (refused : op.created before = some none) :
    after.list = before.list ∧ after.tsLastPacket = before.tsLastPacket ∧
      after.storage = before.storage := by
  have unchanged : ∀ {stamp} {created : Option PacketPtr × TxPacketBuffer},
      CreateOutcome stamp before created.2 created.1 → created.1 = none →
        created.2.list = before.list ∧ created.2.tsLastPacket = before.tsLastPacket ∧
          created.2.storage = before.storage := by
    intro stamp created outcome isNone
    rw [isNone] at outcome
    cases outcome with
    | refused list tsLastPacket storage memory heapBlocks => exact ⟨list, tsLastPacket, storage⟩
  cases op with
  | createCk timeOffset =>
      obtain rfl := Option.some.inj taken
      exact unchanged (createCkPacketSequence_outcome timeOffset before) (Option.some.inj refused)
  | createCke timeOffset =>
      obtain rfl := Option.some.inj taken
      exact unchanged (createCkePacketSequence_outcome timeOffset before) (Option.some.inj refused)
  | fill item update => cases refused
  | free => cases refused

theorem pooled_of_listsSlots (lists : after.ListsSlots) {storage : PacketStorage}
    (isPool : after.pool = some storage) :
    storage.index.toNat = after.list.length ∧ after.list.Nodup ∧
      ∀ item ∈ after.list, ∃ slot < storage.len.toNat, item = .storage slot := by
  obtain ⟨list, inside⟩ := lists storage isPool
  rw [list]
  refine ⟨(length_slotsBelow _).symm, ?_, ?_⟩
  · exact List.nodup_range.map fun _ _ same => PacketPtr.storage.inj same
  · intro item listed
    obtain ⟨slot, below, rfl⟩ := List.mem_map.mp listed
    exact ⟨slot, (List.mem_range.mp below).trans_le (BitVec.le_def.mp inside), rfl⟩

theorem slotsListed_of_slots {index : Nat} (list : before.list = slotsBelow index) :
    before.slotsListed = index := by
  rw [slotsListed, list, slotsBelow, List.countP_map]
  exact (List.countP_eq_length.mpr fun _ _ => rfl).trans (List.length_range)

/-- Freeing gives every packet back. -/
theorem returned_free (slots : before.ListsSlots) (blocks : before.ListsBlocks)
    (keeps : KeepsAllocators .free before) : Returned before before.dfiTxPacketBufferFree := by
  refine ⟨(blocks.free keeps).2, ?_⟩
  intro storage stored
  rw [free_storage stored]
  refine ⟨_, rfl, ?_⟩
  cases hasPackets : storage.hasPackets with
  | true =>
      have list := (slots storage (pool_eq_some_iff.mpr ⟨stored, hasPackets⟩)).1
      rw [slotsListed_of_slots list, list, length_slotsBelow, BitVec.ofNat_toNat,
        BitVec.setWidth_eq, BitVec.sub_self]
      exact Nat.zero_add _
  | false =>
      have empty := keeps rfl ⟨storage, stored, hasPackets⟩
      rw [slotsListed, empty]
      exact congrArg BitVec.toNat (BitVec.sub_zero storage.index)

/-- In a history that frees no packets over a null packets pointer, the accounts of a further
step are kept exactly if that step does not do so either. -/
theorem accounted_iff (reachable : bufferSystem.ReachableWhere KeepsAllocators before)
    (taken : op.step before = some after) :
    Accounted op before after ↔ KeepsAllocators op before := by
  have slots := listsSlots_of_reachable reachable.reachable
  have blocks := listsBlocks_of_reachable reachable
  constructor
  · rintro accounted rfl ⟨storage, stored, null⟩
    obtain rfl := Option.some.inj taken
    have left := (accounted.freed rfl).2.2.heap
    rw [free_storage stored] at left
    rw [blocks.1 (pool_eq_none_of_null stored null), left]
    rfl
  · intro keeps
    refine ⟨refused_unchanged taken, fun storage => pooled_of_listsSlots (slots.step taken), ?_⟩
    rintro rfl
    obtain rfl := Option.some.inj taken
    exact ⟨(blocks.free keeps).1, rfl, returned_free slots blocks keeps⟩

end Steps

theorem freshBuffer_heapBuffer : FreshBuffer heapBuffer :=
  ⟨_, _, none, fun _ isSome => absurd isSome (by simp), rfl⟩

/-- A packet from the heap is given back. -/
theorem accounted_iff_heap :
    Accounted .free (heapBuffer.createCkPacketSequence 1).2
        (heapBuffer.createCkPacketSequence 1).2.dfiTxPacketBufferFree ↔
      KeepsAllocators .free (heapBuffer.createCkPacketSequence 1).2 :=
  have taken : bufferSystem.step (.createCk 1) heapBuffer =
      some (heapBuffer.createCkPacketSequence 1).2 := rfl
  accounted_iff
    (.step (.initial freshBuffer_heapBuffer) (fun isFree => BufferOp.noConfusion isFree) taken)
    rfl

/-- An empty buffer over a storage whose packets pointer is null. -/
def nullBuffer : TxPacketBuffer :=
  { heapBuffer with storage := some { hasPackets := false, index := 0, len := 1 } }

theorem freshBuffer_nullBuffer : FreshBuffer nullBuffer := by
  refine ⟨_, _, some { hasPackets := false, index := 0, len := 1 }, ?_, rfl⟩
  rintro _ isSome hasPackets
  obtain rfl := Option.some.inj isSome
  cases hasPackets

/-- A packet that is freed over a null packets pointer stays allocated. -/
theorem not_accounted_null :
    ¬ ∀ (op : BufferOp) (before after : TxPacketBuffer), bufferSystem.Reachable before →
      op.step before = some after → Accounted op before after := by
  intro all
  have taken : bufferSystem.step (.createCk 1) nullBuffer =
      some (nullBuffer.createCkPacketSequence 1).2 := rfl
  have reachable : bufferSystem.Reachable (nullBuffer.createCkPacketSequence 1).2 :=
    .step (.initial freshBuffer_nullBuffer) trivial taken
  have left := ((all .free _ _ reachable rfl).freed rfl).2.2.heap
  exact absurd left (by decide +kernel)

end WavLpddr
