import WavLpddr.Lib.TransitionSystem
import WavLpddr.PacketLog

/-!
# Histories of a packet buffer

A buffer is used by creating packets, filling listed packets in place, and freeing the
list.  What the list and the allocators hold follows from how packets are allocated:
over a storage the listed items are its first slots in order; otherwise they are the
allocated heap blocks, as long as freeing gives heap blocks back to the heap.
-/

namespace WavLpddr

open TxPacketBuffer

/-- An operation on a packet buffer. -/
inductive BufferOp
  | createCk (timeOffset : BitVec 16)
  | createCke (timeOffset : BitVec 16)
  | fill (item : PacketPtr) (update : DfiTxPacket → DfiTxPacket)
  | free

namespace BufferOp

/-- Only a listed packet is filled. -/
def step : BufferOp → TxPacketBuffer → Option TxPacketBuffer
  | createCk timeOffset, buffer => some (buffer.createCkPacketSequence timeOffset).2
  | createCke timeOffset, buffer => some (buffer.createCkePacketSequence timeOffset).2
  | fill item update, buffer =>
      if item ∈ buffer.list then some (buffer.updatePacket item update) else none
  | free, buffer => some buffer.dfiTxPacketBufferFree

/-- What an operation returns, when it creates a packet. -/
def created : BufferOp → TxPacketBuffer → Option (Option PacketPtr)
  | createCk timeOffset, buffer => some (buffer.createCkPacketSequence timeOffset).1
  | createCke timeOffset, buffer => some (buffer.createCkePacketSequence timeOffset).1
  | _, _ => none

end BufferOp

/-- A buffer after `dfi_tx_packet_buffer_init` and the setting of its storage pointer.  The
packets of a storage are not in use yet. -/
def FreshBuffer (buffer : TxPacketBuffer) : Prop :=
  ∃ memory heapFails storage,
    (∀ present, storage = some present → present.hasPackets = true → present.index = 0) ∧
    buffer = { dfiTxPacketBufferInit memory heapFails with storage := storage }

/-- A buffer and what is done with it. -/
def bufferSystem : TransitionSystem TxPacketBuffer BufferOp where
  initial := FreshBuffer
  step := BufferOp.step

namespace TxPacketBuffer

/-- The slots of a storage up to an index. -/
def slotsBelow (index : Nat) : List PacketPtr := (List.range index).map .storage

/-- The listed items are the slots of the storage that are in use. -/
def ListsSlots (buffer : TxPacketBuffer) : Prop :=
  ∀ storage, buffer.pool = some storage →
    buffer.list = slotsBelow storage.index.toNat ∧ storage.index ≤ storage.len

/-- Without packets in a storage the listed items are the allocated heap blocks; otherwise no
block is allocated. -/
def ListsBlocks (buffer : TxPacketBuffer) : Prop :=
  (buffer.pool = none → buffer.list = buffer.heapBlocks.map .heap) ∧
    (buffer.pool ≠ none → buffer.heapBlocks = [])

section Create

/-- What creating a packet does to the list and the allocators, from what it writes into the
packet. -/
inductive CreateOutcome (stamp : DfiTxPacket → DfiTxPacket) (buffer after : TxPacketBuffer) :
    Option PacketPtr → Prop
  | refused (list : after.list = buffer.list)
      (tsLastPacket : after.tsLastPacket = buffer.tsLastPacket)
      (storage : after.storage = buffer.storage) (memory : after.memory = buffer.memory)
      (heapBlocks : after.heapBlocks = buffer.heapBlocks) :
      CreateOutcome stamp buffer after none
  | slot {storage : PacketStorage} (pooled : buffer.pool = some storage)
      (free : storage.index < storage.len)
      (list : after.list = buffer.list ++ [.storage storage.index.toNat])
      (storageAfter : after.storage = some { storage with index := storage.index + 1 })
      (memory : after.memory = Function.update buffer.memory (.storage storage.index.toNat)
        (stamp (buffer.memory (.storage storage.index.toNat))))
      (heapBlocks : after.heapBlocks = buffer.heapBlocks) :
      CreateOutcome stamp buffer after (some (.storage storage.index.toNat))
  | block {block : Nat} (unpooled : buffer.pool = none)
      (list : after.list = buffer.list ++ [.heap block])
      (storage : after.storage = buffer.storage)
      (memory : after.memory = Function.update buffer.memory (.heap block) (stamp .zero))
      (heapBlocks : after.heapBlocks = buffer.heapBlocks ++ [block]) :
      CreateOutcome stamp buffer after (some (.heap block))

theorem createCkPacketSequence_outcome (timeOffset : BitVec 16) (buffer : TxPacketBuffer) :
    CreateOutcome (·.stampCk (timeOffset + buffer.tsLastPacket)) buffer
      (buffer.createCkPacketSequence timeOffset).2
      (buffer.createCkPacketSequence timeOffset).1 := by
  unfold createCkPacketSequence createPacket
  cases pooled : buffer.pool with
  | none =>
      by_cases failed : buffer.heapFails buffer.attempts
      · simp only [if_pos failed]
        exact .refused rfl rfl rfl rfl rfl
      · simp only [if_neg failed]
        refine .block pooled rfl rfl ?_ rfl
        simp only [updatePacket, Function.update_self, Function.update_idem]
        rfl
  | some storage =>
      by_cases free : storage.index < storage.len
      · simp only [if_pos free]
        exact .slot pooled free rfl rfl rfl rfl
      · simp only [if_neg free]
        exact .refused rfl rfl rfl rfl rfl

theorem createCkePacketSequence_outcome (timeOffset : BitVec 16) (buffer : TxPacketBuffer) :
    CreateOutcome (fun packet => (packet.stampCk (timeOffset + buffer.tsLastPacket)).stampCke)
      buffer (buffer.createCkePacketSequence timeOffset).2
      (buffer.createCkePacketSequence timeOffset).1 := by
  have outcome := createCkPacketSequence_outcome timeOffset buffer
  unfold createCkePacketSequence
  cases created : buffer.createCkPacketSequence timeOffset with
  | mk found after =>
      rw [created] at outcome
      cases outcome with
      | refused list tsLastPacket storage memory heapBlocks =>
          exact .refused list tsLastPacket storage memory heapBlocks
      | slot pooled free list storageAfter memory heapBlocks =>
          refine .slot pooled free list storageAfter ?_ heapBlocks
          dsimp only at memory
          simp only [updatePacket, memory, Function.update_self, Function.update_idem]
          rfl
      | block unpooled list storage memory heapBlocks =>
          refine .block unpooled list storage ?_ heapBlocks
          dsimp only at memory
          simp only [updatePacket, memory, Function.update_self, Function.update_idem]
          rfl

end Create

section Free

/-- Freeing does not make up a storage. -/
theorem foldl_freeItem_none {buffer : TxPacketBuffer} (noStorage : buffer.storage = none)
    (items : List PacketPtr) : (items.foldl freeItem buffer).storage = none := by
  induction items generalizing buffer with
  | nil => exact noStorage
  | cons item rest inductionHypothesis =>
      apply inductionHypothesis
      cases item <;> simp [freeItem, noStorage]

/-- Without a storage the items are unlinked and their blocks given back. -/
theorem foldl_freeItem_heap {buffer : TxPacketBuffer} {blocks : List Nat}
    (noStorage : buffer.storage = none) (list : buffer.list = blocks.map .heap)
    (heapBlocks : buffer.heapBlocks = blocks) :
    (buffer.list.foldl freeItem buffer).list = [] ∧
      (buffer.list.foldl freeItem buffer).heapBlocks = [] := by
  rw [list]
  induction blocks generalizing buffer with
  | nil => exact ⟨list, heapBlocks⟩
  | cons block rest inductionHypothesis =>
      rw [List.map_cons, List.foldl_cons]
      have freed : buffer.freeItem (.heap block) =
          { buffer with list := rest.map .heap, heapBlocks := rest } := by
        simp [freeItem, noStorage, list, heapBlocks]
      rw [freed]
      exact inductionHypothesis noStorage rfl rfl

/-- With a storage the items are unlinked and the index goes back once for each of them. -/
theorem foldl_freeItem_storage {buffer : TxPacketBuffer} {storage : PacketStorage}
    (present : buffer.storage = some storage) {items : List PacketPtr}
    (list : buffer.list = items) :
    buffer.list.foldl freeItem buffer =
      { buffer with
        list := []
        storage := some
          { storage with index := storage.index - BitVec.ofNat 8 items.length } } := by
  rw [list]
  induction items generalizing buffer storage with
  | nil =>
      have unchanged : storage.index - BitVec.ofNat 8 0 = storage.index := BitVec.sub_zero _
      rw [List.foldl_nil, List.length_nil, unchanged, ← present, ← list]
  | cons item rest inductionHypothesis =>
      have freed : buffer.freeItem item =
          { buffer with
            list := rest
            storage := some { storage with index := storage.index - 1 } } := by
        simp [freeItem, present, list]
      have next : storage.index - 1 - BitVec.ofNat 8 rest.length =
          storage.index - BitVec.ofNat 8 (rest.length + 1) := by
        rw [BitVec.ofNat_add]
        bv_omega
      rw [List.foldl_cons, freed, inductionHypothesis rfl rfl, List.length_cons, ← next]

end Free

section Slots

variable {stamp : DfiTxPacket → DfiTxPacket} {buffer after : TxPacketBuffer}

theorem pool_congr (same : after.storage = buffer.storage) : after.pool = buffer.pool := by
  unfold pool
  rw [same]

theorem slotsBelow_succ (index : Nat) :
    slotsBelow (index + 1) = slotsBelow index ++ [.storage index] := by
  rw [slotsBelow, List.range_succ, List.map_append]
  rfl

/-- The storage after a slot was handed out. -/
theorem pool_slot {storage : PacketStorage} (pooled : buffer.pool = some storage)
    (storageAfter : after.storage = some { storage with index := storage.index + 1 }) :
    after.pool = some { storage with index := storage.index + 1 } :=
  pool_eq_some_iff.mpr ⟨storageAfter, (pool_eq_some_iff.mp pooled).2⟩

theorem ListsSlots.create {item : Option PacketPtr} (lists : buffer.ListsSlots)
    (outcome : CreateOutcome stamp buffer after item) : after.ListsSlots := by
  intro present isPool
  cases outcome with
  | refused list tsLastPacket storage memory heapBlocks =>
      rw [list]
      exact lists present ((pool_congr storage).symm.trans isPool)
  | @slot storage pooled free list storageAfter memory heapBlocks =>
      obtain rfl := Option.some.inj ((pool_slot pooled storageAfter).symm.trans isPool)
      have next := toNat_index_add_one free
      refine ⟨?_, ?_⟩
      · change after.list = slotsBelow (storage.index + 1).toNat
        rw [list, (lists storage pooled).1, next, slotsBelow_succ]
      · change storage.index + 1 ≤ storage.len
        rw [BitVec.le_def, next]
        exact BitVec.lt_def.mp free
  | block unpooled list storage memory heapBlocks =>
      rw [pool_congr storage, unpooled] at isPool
      cases isPool

/-- Freeing takes the index of the storage back to its start. -/
theorem free_storage {storage : PacketStorage} (present : buffer.storage = some storage) :
    buffer.dfiTxPacketBufferFree =
      { buffer with
        tsLastPacket := 1
        list := []
        storage := some { storage with
          index := storage.index - BitVec.ofNat 8 buffer.list.length } } := by
  rw [dfiTxPacketBufferFree, foldl_freeItem_storage present rfl]

theorem length_slotsBelow (index : Nat) : (slotsBelow index).length = index := by
  rw [slotsBelow, List.length_map, List.length_range]

theorem ListsSlots.free (lists : buffer.ListsSlots) :
    buffer.dfiTxPacketBufferFree.ListsSlots := by
  intro present isPool
  cases stored : buffer.storage with
  | none =>
      have noStorage : buffer.dfiTxPacketBufferFree.storage = none :=
        foldl_freeItem_none stored buffer.list
      rw [pool, noStorage] at isPool
      cases isPool
  | some storage =>
      rw [free_storage stored] at isPool ⊢
      obtain ⟨isStorage, hasPackets⟩ := pool_eq_some_iff.mp isPool
      obtain rfl := Option.some.inj isStorage
      have used := (lists storage (pool_eq_some_iff.mpr ⟨stored, hasPackets⟩)).1
      have index : storage.index - BitVec.ofNat 8 buffer.list.length = 0 := by
        rw [used, length_slotsBelow, BitVec.ofNat_toNat, BitVec.setWidth_eq, BitVec.sub_self]
        rfl
      refine ⟨?_, ?_⟩
      · change [] = slotsBelow (storage.index - BitVec.ofNat 8 buffer.list.length).toNat
        rw [index]
        rfl
      · change storage.index - BitVec.ofNat 8 buffer.list.length ≤ storage.len
        rw [index]
        exact BitVec.le_def.mpr (Nat.zero_le _)

theorem ListsSlots.step {op : BufferOp} (lists : buffer.ListsSlots)
    (taken : op.step buffer = some after) : after.ListsSlots := by
  cases op with
  | createCk timeOffset =>
      obtain rfl := Option.some.inj taken
      exact lists.create (createCkPacketSequence_outcome timeOffset buffer)
  | createCke timeOffset =>
      obtain rfl := Option.some.inj taken
      exact lists.create (createCkePacketSequence_outcome timeOffset buffer)
  | fill item update =>
      obtain ⟨-, filled⟩ := Option.ite_none_right_eq_some.mp taken
      obtain rfl := Option.some.inj filled
      exact lists
  | free =>
      obtain rfl := Option.some.inj taken
      exact lists.free

/-- In every history the items listed over a storage are its slots in use. -/
theorem listsSlots_of_reachable (reachable : bufferSystem.Reachable buffer) :
    buffer.ListsSlots := by
  refine reachable.invariant ?_ ?_
  · rintro _ ⟨memory, heapFails, storage, unused, rfl⟩ present isPool
    obtain ⟨isStorage, hasPackets⟩ := pool_eq_some_iff.mp isPool
    have index := unused present isStorage hasPackets
    rw [index]
    exact ⟨rfl, BitVec.le_def.mpr (Nat.zero_le _)⟩
  · intro op before next _ _ taken lists
    exact lists.step taken

end Slots

end TxPacketBuffer

end WavLpddr
