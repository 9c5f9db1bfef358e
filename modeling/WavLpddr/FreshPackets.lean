import WavLpddr.BufferHistory

/-!
# What a new packet holds

A packet from the heap is zeroed when it is allocated.  A packet from a storage is
handed out as it is, so it holds what the last packet in its slot held when the list was
freed.  A history records this beside the buffer.
-/

namespace WavLpddr

open TxPacketBuffer

/-- Only the padding and the fields that are cleared here may be set in a clean packet. -/
def DfiTxPacket.Clean (clear : TxCaPhase → TxCaPhase) (packet : DfiTxPacket) : Prop :=
  packet.padding = 0 ∧
    ∀ phase < 8, packet.data phase = DfiTxPacket.zero.data phase ∧
      clear (packet.ca phase) = DfiTxPacket.zero.ca phase

/-- The DCE field may be set. -/
def clearDce (phase : TxCaPhase) : TxCaPhase := { phase with dce := 0 }

/-- The DCE and CKE fields may be set. -/
def clearDceCke (phase : TxCaPhase) : TxCaPhase := { phase with dce := 0, cke := 0 }

/-- A buffer, and what the packets in the slots of its storage held when they were last
freed. -/
structure BufferHistory where
  buffer : TxPacketBuffer
  left : Nat → DfiTxPacket

namespace BufferHistory

/-- Freeing the list leaves its packets in their slots. -/
def leave (history : BufferHistory) : BufferOp → Nat → DfiTxPacket
  | .free => fun slot =>
      if .storage slot ∈ history.buffer.list then history.buffer.memory (.storage slot)
      else history.left slot
  | _ => history.left

/-- The storage was zeroed once, before the buffer was used. -/
def Zeroed (history : BufferHistory) : Prop :=
  FreshBuffer history.buffer ∧
    ∀ slot, history.buffer.memory (.storage slot) = .zero ∧ history.left slot = .zero

end BufferHistory

/-- Buffers together with what was left in their slots. -/
def historySystem : TransitionSystem BufferHistory BufferOp where
  initial := BufferHistory.Zeroed
  step op history := (op.step history.buffer).map fun after =>
    { buffer := after, left := history.leave op }

namespace BufferHistory

/-- The slots that are not in use hold what was left in them. -/
structure Tracks (history : BufferHistory) : Prop where
  slots : history.buffer.ListsSlots
  unused : ∀ storage, history.buffer.pool = some storage →
    ∀ slot, storage.index.toNat ≤ slot →
      history.buffer.memory (.storage slot) = history.left slot

variable {history : BufferHistory} {after : TxPacketBuffer}
  {stamp : DfiTxPacket → DfiTxPacket}

theorem Tracks.create {item : Option PacketPtr} (tracks : history.Tracks)
    (outcome : CreateOutcome stamp history.buffer after item) :
    Tracks { buffer := after, left := history.left } := by
  refine ⟨tracks.slots.create outcome, ?_⟩
  intro present isPool slot later
  cases outcome with
  | refused list tsLastPacket storage memory heapBlocks =>
      rw [pool_congr storage] at isPool
      exact (congrFun memory _).trans (tracks.unused present isPool slot later)
  | @slot storage pooled free list storageAfter memory heapBlocks =>
      obtain rfl := Option.some.inj ((pool_slot pooled storageAfter).symm.trans isPool)
      have next := toNat_index_add_one free
      change (storage.index + 1).toNat ≤ slot at later
      have apart : PacketPtr.storage slot ≠ .storage storage.index.toNat := by
        intro same
        have := PacketPtr.storage.inj same
        omega
      change after.memory (.storage slot) = history.left slot
      rw [memory, Function.update_of_ne apart]
      exact tracks.unused storage pooled slot (by omega)
  | block unpooled list storage memory heapBlocks =>
      rw [pool_congr storage, unpooled] at isPool
      cases isPool

theorem mem_slotsBelow {index slot : Nat} :
    PacketPtr.storage slot ∈ slotsBelow index ↔ slot < index := by
  simp [slotsBelow]

theorem Tracks.free (tracks : history.Tracks) :
    Tracks { buffer := history.buffer.dfiTxPacketBufferFree, left := history.leave .free } := by
  refine ⟨tracks.slots.free, ?_⟩
  intro present isPool slot _
  cases stored : history.buffer.storage with
  | none =>
      have noStorage : history.buffer.dfiTxPacketBufferFree.storage = none :=
        foldl_freeItem_none stored history.buffer.list
      change history.buffer.dfiTxPacketBufferFree.pool = some present at isPool
      rw [pool, noStorage] at isPool
      cases isPool
  | some storage =>
      change history.buffer.dfiTxPacketBufferFree.pool = some present at isPool
      rw [free_storage stored] at isPool
      obtain ⟨isStorage, hasPackets⟩ := pool_eq_some_iff.mp isPool
      obtain rfl := Option.some.inj isStorage
      have pooled := pool_eq_some_iff.mpr ⟨stored, hasPackets⟩
      have list := (tracks.slots storage pooled).1
      have sameMemory : history.buffer.dfiTxPacketBufferFree.memory = history.buffer.memory := by
        rw [free_storage stored]
      change history.buffer.dfiTxPacketBufferFree.memory (.storage slot) = history.leave .free slot
      rw [sameMemory, leave, list]
      dsimp only
      split
      · rfl
      · rename_i unused
        exact tracks.unused storage pooled slot (by rwa [mem_slotsBelow, not_lt] at unused)

theorem Tracks.fill {item : PacketPtr} {update : DfiTxPacket → DfiTxPacket}
    (tracks : history.Tracks) (listed : item ∈ history.buffer.list) :
    Tracks { buffer := history.buffer.updatePacket item update, left := history.left } := by
  refine ⟨tracks.slots, ?_⟩
  intro storage isPool slot later
  have isPool : history.buffer.pool = some storage := isPool
  have apart : PacketPtr.storage slot ≠ item := by
    rintro rfl
    rw [(tracks.slots storage isPool).1, mem_slotsBelow] at listed
    omega
  exact (Function.update_of_ne apart _ _).trans (tracks.unused storage isPool slot later)

theorem tracks_of_reachable (reachable : historySystem.Reachable history) : history.Tracks := by
  refine reachable.invariant ?_ ?_
  · rintro history ⟨isFresh, zeroed⟩
    refine ⟨listsSlots_of_reachable (.initial isFresh), fun storage _ slot _ => ?_⟩
    rw [(zeroed slot).1, (zeroed slot).2]
  · intro op before next _ _ taken tracks
    obtain ⟨after, stepped, rfl⟩ := Option.map_eq_some_iff.mp taken
    cases op with
    | createCk timeOffset =>
        obtain rfl := Option.some.inj stepped
        exact tracks.create (createCkPacketSequence_outcome timeOffset before.buffer)
    | createCke timeOffset =>
        obtain rfl := Option.some.inj stepped
        exact tracks.create (createCkePacketSequence_outcome timeOffset before.buffer)
    | fill item update =>
        obtain ⟨listed, filled⟩ := Option.ite_none_right_eq_some.mp stepped
        obtain rfl := Option.some.inj filled
        exact tracks.fill listed
    | free =>
        obtain rfl := Option.some.inj stepped
        exact tracks.free

/-- A created packet is clean exactly if nothing but the cleared fields was left in its
slot. -/
theorem Tracks.clean_iff {clear : TxCaPhase → TxCaPhase} {item : PacketPtr}
    (tracks : history.Tracks) (outcome : CreateOutcome stamp history.buffer after (some item))
    (stamps : ∀ packet : DfiTxPacket, (stamp packet).Clean clear ↔ packet.Clean clear)
    (zero : DfiTxPacket.zero.Clean clear) :
    (after.memory item).Clean clear ↔
      ∀ storage, history.buffer.pool = some storage →
        (history.left storage.index.toNat).Clean clear := by
  cases outcome with
  | @slot storage pooled free list storageAfter memory heapBlocks =>
      rw [memory, Function.update_self, stamps,
        tracks.unused storage pooled _ (Nat.le_refl _), pooled]
      simp
  | block unpooled list storage memory heapBlocks =>
      rw [memory, Function.update_self, stamps, unpooled]
      simpa using zero

end BufferHistory

section Stamps

variable {clear update : TxCaPhase → TxCaPhase}

theorem padding_foldl_updateCa (update : TxCaPhase → TxCaPhase) (updated : List Nat)
    (packet : DfiTxPacket) :
    (updated.foldl (fun packet phase => packet.updateCa phase update) packet).padding =
      packet.padding := by
  induction updated generalizing packet with
  | nil => rfl
  | cons first rest inductionHypothesis => exact inductionHypothesis (packet.updateCa first update)

/-- Updating cleared fields only leaves a packet as clean as it is. -/
theorem clean_foldl_updateCa (keeps : ∀ phase, clear (update phase) = clear phase)
    (phases : List Nat) (packet : DfiTxPacket) :
    (phases.foldl (fun packet phase => packet.updateCa phase update) packet).Clean clear ↔
      packet.Clean clear := by
  have ca := DfiTxPacket.observe_foldl_updateCa clear update keeps phases packet
  have data := DfiTxPacket.data_foldl_updateCa update phases packet
  have padding := padding_foldl_updateCa update phases packet
  rw [DfiTxPacket.Clean, DfiTxPacket.Clean, padding, data]
  simp only [ca]

theorem clean_stampCk (keeps : ∀ phase : TxCaPhase, clear { phase with dce := 1 } = clear phase)
    (time : BitVec 16) (packet : DfiTxPacket) :
    (packet.stampCk time).Clean clear ↔ packet.Clean clear :=
  clean_foldl_updateCa keeps compiledPhases packet

theorem clean_stampCke
    (keeps : ∀ phase : TxCaPhase, clear { phase with cke := dfiPackCkeVal } = clear phase)
    (packet : DfiTxPacket) : packet.stampCke.Clean clear ↔ packet.Clean clear :=
  clean_foldl_updateCa keeps compiledPhases packet

end Stamps

/-- In every history a new packet is clean exactly if it comes from the heap, or what was
left in its slot since the storage was zeroed is clean. -/
theorem created_clean_iff {history : BufferHistory}
    (reachable : historySystem.Reachable history) (timeOffset : BitVec 16) {item : PacketPtr}
    {after : TxPacketBuffer} :
    (history.buffer.createCkPacketSequence timeOffset = (some item, after) →
      ((after.memory item).Clean clearDce ↔
        ∀ storage, history.buffer.pool = some storage →
          (history.left storage.index.toNat).Clean clearDce)) ∧
    (history.buffer.createCkePacketSequence timeOffset = (some item, after) →
      ((after.memory item).Clean clearDceCke ↔
        ∀ storage, history.buffer.pool = some storage →
          (history.left storage.index.toNat).Clean clearDceCke)) := by
  have tracks := BufferHistory.tracks_of_reachable reachable
  constructor
  · intro created
    have outcome := createCkPacketSequence_outcome timeOffset history.buffer
    rw [created] at outcome
    exact tracks.clean_iff outcome (clean_stampCk (fun _ => rfl) _)
      ⟨rfl, fun _ _ => ⟨rfl, rfl⟩⟩
  · intro created
    have outcome := createCkePacketSequence_outcome timeOffset history.buffer
    rw [created] at outcome
    refine tracks.clean_iff outcome (fun packet => ?_) ⟨rfl, fun _ _ => ⟨rfl, rfl⟩⟩
    rw [clean_stampCke (fun _ => rfl), clean_stampCk (fun _ => rfl)]

section Reference

instance (clear : TxCaPhase → TxCaPhase) (packet : DfiTxPacket) :
    Decidable (packet.Clean clear) :=
  inferInstanceAs (Decidable (_ ∧ ∀ phase < 8, _))

/-- A buffer over a zeroed storage of two packets. -/
def pairHistory : BufferHistory where
  buffer :=
    { dfiTxPacketBufferInit (fun _ => .zero) (fun _ => false) with
      storage := some { hasPackets := true, index := 0, len := 2 } }
  left _ := .zero

theorem zeroed_pairHistory : pairHistory.Zeroed := by
  refine ⟨⟨_, _, some { hasPackets := true, index := 0, len := 2 }, ?_, rfl⟩,
    fun _ => ⟨rfl, rfl⟩⟩
  rintro _ isSome _
  exact (Option.some.inj isSome) ▸ rfl

/-- Both packets were used, the first one for a command, and freed. -/
def reuse : List BufferOp :=
  [.createCk 1, .createCk 1, .fill (.storage 0) (·.fillFrame 0 ⟨1, 0⟩), .free]

/-- The history that operations end in. -/
def historyAfter (ops : List BufferOp)
    (possible : (historySystem.exec ops pairHistory).isSome) : BufferHistory :=
  (historySystem.exec ops pairHistory).get possible

theorem reachable_historyAfter {ops : List BufferOp}
    (possible : (historySystem.exec ops pairHistory).isSome) :
    historySystem.Reachable (historyAfter ops possible) :=
  .exec (.initial zeroed_pairHistory) (Option.some_get possible).symm

/-- The packet in the slot of the command still has its chip select, the one after it is
clean. -/
theorem created_clean_reused :
    let first := historyAfter reuse (by decide +kernel)
    let second := historyAfter (reuse ++ [.createCk 1]) (by decide +kernel)
    ((first.buffer.createCkPacketSequence 1).1 = some (.storage 0) ∧
      ¬ ((first.buffer.createCkPacketSequence 1).2.memory (.storage 0)).Clean clearDce) ∧
    (second.buffer.createCkPacketSequence 1).1 = some (.storage 1) ∧
      ((second.buffer.createCkPacketSequence 1).2.memory (.storage 1)).Clean clearDce := by
  intro first second
  have firstCreated : first.buffer.createCkPacketSequence 1 =
      (some (.storage 0), (first.buffer.createCkPacketSequence 1).2) :=
    Prod.ext (by decide +kernel) rfl
  have secondCreated : second.buffer.createCkPacketSequence 1 =
      (some (.storage 1), (second.buffer.createCkPacketSequence 1).2) :=
    Prod.ext (by decide +kernel) rfl
  have firstIff := (created_clean_iff (reachable_historyAfter _) 1).1 firstCreated
  have secondIff := (created_clean_iff (reachable_historyAfter _) 1).1 secondCreated
  refine ⟨⟨congrArg Prod.fst firstCreated, fun clean => ?_⟩, congrArg Prod.fst secondCreated,
    secondIff.mpr ?_⟩
  · have pool : first.buffer.pool = some { hasPackets := true, index := 0, len := 2 } := rfl
    have unclean : ¬ (first.left 0).Clean clearDce := by decide +kernel
    exact unclean (firstIff.mp clean _ pool)
  · intro storage isPool
    obtain rfl : { hasPackets := true, index := 1, len := 2 } = storage :=
      Option.some.inj isPool
    have clean : (second.left 1).Clean clearDce := by decide +kernel
    exact clean

/-- A chip select of a packet that was freed is still set in the next packet. -/
theorem not_created_clean :
    ¬ ∀ (history : BufferHistory) (timeOffset : BitVec 16) (item : PacketPtr)
      (after : TxPacketBuffer), historySystem.Reachable history →
        history.buffer.createCkPacketSequence timeOffset = (some item, after) →
          (after.memory item).Clean clearDce := by
  intro all
  let history := historyAfter reuse (by decide +kernel)
  have created : history.buffer.createCkPacketSequence 1 =
      (some (.storage 0), (history.buffer.createCkPacketSequence 1).2) :=
    Prod.ext (by decide +kernel) rfl
  have unclean : ¬ ((history.buffer.createCkPacketSequence 1).2.memory
      (.storage 0)).Clean clearDce := by decide +kernel
  exact unclean (all history 1 (.storage 0) _ (reachable_historyAfter _) created)

end Reference

end WavLpddr
