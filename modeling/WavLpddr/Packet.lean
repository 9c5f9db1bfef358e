import WavLpddr.Table

/-!
# DFI packets and the mode-register update sequence

A transmit packet describes one DFI clock cycle: for each of its eight phases
the data-path and the command-path signals, and the time at which it is sent.
Packets are collected in a buffer that takes them from a caller's storage or
from the heap.  This file also builds the sequence of mode-register writes that
a frequency switch sends to the DRAM.
-/

namespace WavLpddr

/-- The data-path fields of one phase, in the order of `dfi_tx_packet_desc_t`. -/
structure TxDataPhase where
  dq3Wrdata : BitVec 8
  dq3WrdataMask : BitVec 1
  dq2Wrdata : BitVec 8
  dq2WrdataMask : BitVec 1
  dq1Wrdata : BitVec 8
  dq1WrdataMask : BitVec 1
  dq0Wrdata : BitVec 8
  dq0WrdataMask : BitVec 1
  wrdataCs : BitVec 2
  parityIn : BitVec 1
  wrdataEn : BitVec 1
  wckCs : BitVec 2
  wckEn : BitVec 1
  wckToggle : BitVec 2
  rddataCs : BitVec 2
  rddataEn : BitVec 1
deriving DecidableEq

/-- The command-path fields of one phase. -/
structure TxCaPhase where
  address : BitVec 7
  cke : BitVec 2
  cs : BitVec 2
  dce : BitVec 1
deriving DecidableEq

/-- `dfi_tx_packet_t`, with the padding that completes its last word. -/
structure DfiTxPacket where
  data : Nat → TxDataPhase
  ca : Nat → TxCaPhase
  time : BitVec 16
  padding : BitVec 16

namespace DfiTxPacket

/-- All words zero. -/
def zero : DfiTxPacket where
  data _ := ⟨0, 0, 0, 0, 0, 0, 0, 0, 0, 0, 0, 0, 0, 0, 0, 0⟩
  ca _ := ⟨0, 0, 0, 0⟩
  time := 0
  padding := 0

/-- All words one, as `memset(packet, 0xFF, sizeof(dfi_tx_packet_t))` leaves it. -/
def ones : DfiTxPacket where
  data _ := ⟨-1, -1, -1, -1, -1, -1, -1, -1, -1, -1, -1, -1, -1, -1, -1, -1⟩
  ca _ := ⟨-1, -1, -1, -1⟩
  time := -1
  padding := -1

/-- Bit fields as width and value, the first at the least significant end. -/
def packBits (fields : List (Nat × Nat)) : Nat :=
  fields.foldr (fun field rest => field.2 % 2 ^ field.1 + 2 ^ field.1 * rest) 0

def dataFields (phase : TxDataPhase) : List (Nat × Nat) :=
  [(8, phase.dq3Wrdata.toNat), (1, phase.dq3WrdataMask.toNat),
    (8, phase.dq2Wrdata.toNat), (1, phase.dq2WrdataMask.toNat),
    (8, phase.dq1Wrdata.toNat), (1, phase.dq1WrdataMask.toNat),
    (8, phase.dq0Wrdata.toNat), (1, phase.dq0WrdataMask.toNat),
    (2, phase.wrdataCs.toNat), (1, phase.parityIn.toNat), (1, phase.wrdataEn.toNat),
    (2, phase.wckCs.toNat), (1, phase.wckEn.toNat), (2, phase.wckToggle.toNat),
    (2, phase.rddataCs.toNat), (1, phase.rddataEn.toNat)]

def caFields (phase : TxCaPhase) : List (Nat × Nat) :=
  [(7, phase.address.toNat), (2, phase.cke.toNat), (2, phase.cs.toNat),
    (1, phase.dce.toNat)]

/-- `TX_PACKET_SIZE_WORDS` -/
def sizeWords : Nat := 16

/-- `raw_data`: the packed descriptor, phase 7 first, read as 32-bit words. -/
def rawData (packet : DfiTxPacket) : List Word :=
  let phases := (List.range 8).reverse
  let bits := packBits (phases.flatMap (fun phase => dataFields (packet.data phase)) ++
    phases.flatMap (fun phase => caFields (packet.ca phase)) ++
    [(16, packet.time.toNat), (16, packet.padding.toNat)])
  (List.range sizeWords).map fun word => BitVec.ofNat 32 (bits / 2 ^ (32 * word))

def updateData (packet : DfiTxPacket) (phase : Nat)
    (update : TxDataPhase → TxDataPhase) : DfiTxPacket :=
  { packet with data := Function.update packet.data phase (update (packet.data phase)) }

def updateCa (packet : DfiTxPacket) (phase : Nat)
    (update : TxCaPhase → TxCaPhase) : DfiTxPacket :=
  { packet with ca := Function.update packet.ca phase (update (packet.ca phase)) }

end DfiTxPacket

/-- Where a packet item lives. -/
inductive PacketPtr
  | storage (slot : Nat)
  | heap (block : Nat)
deriving DecidableEq

/-- `packet_storage_t`, apart from the packets themselves. -/
structure PacketStorage where
  /-- `packets` is not a null pointer. -/
  hasPackets : Bool
  index : BitVec 8
  len : BitVec 8

/-- A transmit packet buffer and the memory its items live in. -/
structure TxPacketBuffer where
  tsLastPacket : BitVec 16
  list : List PacketPtr
  storage : Option PacketStorage
  memory : PacketPtr → DfiTxPacket
  /-- The heap blocks that are allocated.  A block is named after the attempt that
  allocated it. -/
  heapBlocks : List Nat
  /-- How often `create_packet` was called. -/
  attempts : Nat
  /-- Whether the heap has no block for an attempt. -/
  heapFails : Nat → Bool

namespace TxPacketBuffer

/-- `dfi_tx_packet_buffer_init` -/
def dfiTxPacketBufferInit (memory : PacketPtr → DfiTxPacket) (heapFails : Nat → Bool) :
    TxPacketBuffer where
  tsLastPacket := 1
  list := []
  storage := none
  memory := memory
  heapBlocks := []
  attempts := 0
  heapFails := heapFails

/-- The listed packets, head first. -/
def packets (buffer : TxPacketBuffer) : List DfiTxPacket :=
  buffer.list.map buffer.memory

/-- Change one packet in place. -/
def updatePacket (buffer : TxPacketBuffer) (item : PacketPtr)
    (update : DfiTxPacket → DfiTxPacket) : TxPacketBuffer :=
  { buffer with memory := Function.update buffer.memory item (update (buffer.memory item)) }

/-- The storage, when packets are taken from it. -/
def pool (buffer : TxPacketBuffer) : Option PacketStorage :=
  buffer.storage.filter (·.hasPackets)

/-- A packet of the storage is handed out as it is; a heap packet is zeroed. -/
def createPacket (buffer : TxPacketBuffer) : Option PacketPtr × TxPacketBuffer :=
  let attempt := buffer.attempts
  let asked := { buffer with attempts := attempt + 1 }
  match buffer.pool with
  | some storage =>
      if storage.index < storage.len then
        (some (.storage storage.index.toNat),
          { asked with storage := some { storage with index := storage.index + 1 } })
      else (none, asked)
  | none =>
      if buffer.heapFails attempt then (none, asked)
      else
        (some (.heap attempt),
          { asked with
            memory := Function.update buffer.memory (.heap attempt) .zero
            heapBlocks := buffer.heapBlocks ++ [attempt] })

/-- One turn of the loop that frees the list: only the storage pointer decides where
the packet goes back to. -/
def freeItem (buffer : TxPacketBuffer) (item : PacketPtr) : TxPacketBuffer :=
  let unlinked := { buffer with list := buffer.list.erase item }
  match buffer.storage, item with
  | none, .heap block => { unlinked with heapBlocks := buffer.heapBlocks.erase block }
  | none, .storage _ => unlinked
  | some storage, _ =>
      { unlinked with storage := some { storage with index := storage.index - 1 } }

def dfiTxPacketBufferFree (buffer : TxPacketBuffer) : TxPacketBuffer :=
  { buffer.list.foldl freeItem buffer with tsLastPacket := 1 }

/-- The phases compiled in at a maximal ratio of 1:2. -/
def compiledPhases : List Nat := [0, 1, 2, 3]

def createCkPacketSequence (timeOffset : BitVec 16) (buffer : TxPacketBuffer) :
    Option PacketPtr × TxPacketBuffer :=
  match buffer.createPacket with
  | (none, buffer) => (none, buffer)
  | (some item, buffer) =>
      let timeOffset := timeOffset + buffer.tsLastPacket
      let buffer := buffer.updatePacket item fun packet =>
        { compiledPhases.foldl (fun packet phase =>
            packet.updateCa phase fun ca => { ca with dce := 1 }) packet with
          time := timeOffset }
      (some item,
        { buffer with tsLastPacket := timeOffset, list := buffer.list ++ [item] })

/-- `DFI_PACK_CKE_VAL` -/
def dfiPackCkeVal : BitVec 2 := BitVec.ofNat 2 (wddrPhyRank * 2 - 1)

def createCkePacketSequence (timeOffset : BitVec 16) (buffer : TxPacketBuffer) :
    Option PacketPtr × TxPacketBuffer :=
  match buffer.createCkPacketSequence timeOffset with
  | (none, buffer) => (none, buffer)
  | (some item, buffer) =>
      (some item, buffer.updatePacket item fun packet =>
        compiledPhases.foldl (fun packet phase =>
          packet.updateCa phase fun ca => { ca with cke := dfiPackCkeVal }) packet)

end TxPacketBuffer

/-- `command_frame_t` -/
structure CommandFrame where
  cs : BitVec 8
  caPins : BitVec 8
deriving DecidableEq

/-- `MAX_COMMAND_FRAMES` -/
def maxCommandFrames : Nat := 4

def mrw1CaPins : BitVec 8 := 0b000110

def mrw2CaPins : BitVec 8 := 0b010110

def modeRegisterNumMax : BitVec 8 := 0x28

def createModeRegisterWriteFrame (cs : Nat) (modeAddress op : BitVec 8) :
    Nat → CommandFrame
  | 0 => ⟨1 <<< cs, mrw1CaPins ||| ((op &&& 0x80) >>> 2)⟩
  | 1 => ⟨0, modeAddress &&& 0x3F⟩
  | 2 => ⟨1 <<< cs, mrw2CaPins ||| ((op &&& 0x40) >>> 1)⟩
  | 3 => ⟨0, op &&& 0x3F⟩
  | _ => ⟨0, 0⟩

/-- A mode register beyond the last one leaves the zeroed command unchanged. -/
def createWriteModeRegisterCommand (cs : Nat) (modeRegister op : BitVec 8) :
    Nat → CommandFrame :=
  if modeRegisterNumMax < modeRegister then fun _ => ⟨0, 0⟩
  else createModeRegisterWriteFrame cs modeRegister op

/-- Put one command frame on a pair of phases. -/
def DfiTxPacket.fillFrame (packet : DfiTxPacket) (phase : Nat) (frame : CommandFrame) :
    DfiTxPacket :=
  let packet := packet.updateCa phase fun ca =>
    { ca with cs := frame.cs.setWidth 2, address := frame.caPins.setWidth 7 }
  packet.updateCa (phase + 1) fun ca => { ca with cs := frame.cs.setWidth 2 }

namespace TxPacketBuffer

/-- The loop of `dram_create_address_packet_sequence` over the remaining packets. -/
def dramCreateAddressPackets (ratio : WddrFreqRatio) (command : Nat → CommandFrame) :
    Nat → Nat → BitVec 16 → TxPacketBuffer → WddrReturn × TxPacketBuffer
  | 0, _, _, buffer => (.wddrSuccess, buffer)
  | remaining + 1, phaseOffset, timeOffset, buffer =>
      match buffer.createCkePacketSequence timeOffset with
      | (none, buffer) => (.wddrError, buffer)
      | (some item, buffer) =>
          let buffer := buffer.updatePacket item (·.fillFrame 0 (command phaseOffset))
          let phaseOffset := phaseOffset + 1
          if ratio = .ratio1to2 then
            let buffer := buffer.updatePacket item (·.fillFrame 2 (command phaseOffset))
            dramCreateAddressPackets ratio command remaining (phaseOffset + 1) 1 buffer
          else
            dramCreateAddressPackets ratio command remaining phaseOffset 1 buffer

def dramCreateAddressPacketSequence (ratio : WddrFreqRatio)
    (command : Nat → CommandFrame) (timeOffset : BitVec 16) (buffer : TxPacketBuffer) :
    WddrReturn × TxPacketBuffer :=
  dramCreateAddressPackets ratio command (maxCommandFrames >>> ratio.shift) 0 timeOffset
    buffer

def dramCreateMrwPacketSequence (ratio : WddrFreqRatio) (cs : Nat)
    (modeRegister op : BitVec 8) (timeOffset : BitVec 16) (buffer : TxPacketBuffer) :
    WddrReturn × TxPacketBuffer :=
  buffer.dramCreateAddressPacketSequence ratio
    (createWriteModeRegisterCommand cs modeRegister op) timeOffset

/-- The mode registers updated for a frequency: number, value and wait. -/
def mrwUpdates (dramCfg : DramFreqCfg) : List (BitVec 8 × BitVec 8 × BitVec 16) :=
  [(0x01, dramCfg.mr1, 10), (0x02, dramCfg.mr2, 10), (0x0B, dramCfg.mr11, 10),
    (0x0C, dramCfg.mr12, 10), (0x0E, dramCfg.mr14, dramCfg.tVrefCaLong)]

/-- The results of the individual sequences are ignored, as in the source. -/
def dramPrepareMrwUpdate (ratio : WddrFreqRatio) (dramCfg : DramFreqCfg)
    (buffer : TxPacketBuffer) : TxPacketBuffer :=
  let buffer := (buffer.createCkePacketSequence 1).2
  (List.range wddrPhyRank).foldl (fun buffer rank =>
    (mrwUpdates dramCfg).foldl (fun buffer update =>
      let buffer := (buffer.dramCreateMrwPacketSequence ratio rank update.1 update.2.1
        update.2.2).2
      (buffer.createCkePacketSequence 1).2) buffer) buffer

end TxPacketBuffer

/-- The buffer of `wddr_prep_freq_switch_mrw_update`, over the shared pool that is
zeroed first. -/
def mrwUpdateBuffer : TxPacketBuffer :=
  { TxPacketBuffer.dfiTxPacketBufferInit (fun _ => .zero) (fun _ => false) with
    storage := some { hasPackets := true, index := 0, len := 56 } }

/-- The packets that `wddr_prep_freq_switch_mrw_update` builds.  They depend only on
the running ratio and on the new configuration. -/
def mrwUpdatePackets (ratio : WddrFreqRatio) (dramCfg : DramFreqCfg) :
    List DfiTxPacket :=
  (mrwUpdateBuffer.dramPrepareMrwUpdate ratio dramCfg).packets

section Growth

namespace TxPacketBuffer

/-! Building a sequence only appends to the list. -/

theorem list_createPacket (buffer : TxPacketBuffer) :
    buffer.createPacket.2.list = buffer.list := by
  dsimp only [createPacket]
  split <;> split <;> rfl

theorem prefix_createCkPacketSequence (timeOffset : BitVec 16) (buffer : TxPacketBuffer) :
    buffer.list <+: (buffer.createCkPacketSequence timeOffset).2.list := by
  have same := buffer.list_createPacket
  unfold createCkPacketSequence
  split
  · rename_i created
    rw [created] at same
    rw [same]
  · rename_i created
    rw [created] at same
    rw [← same]
    exact List.prefix_append _ _

theorem prefix_createCkePacketSequence (timeOffset : BitVec 16) (buffer : TxPacketBuffer) :
    buffer.list <+: (buffer.createCkePacketSequence timeOffset).2.list := by
  have grows := buffer.prefix_createCkPacketSequence timeOffset
  unfold createCkePacketSequence
  split
  · rename_i created
    rwa [created] at grows
  · rename_i created
    rwa [created] at grows

theorem prefix_dramCreateAddressPackets (ratio : WddrFreqRatio)
    (command : Nat → CommandFrame) (remaining phaseOffset : Nat) (timeOffset : BitVec 16)
    (buffer : TxPacketBuffer) :
    buffer.list <+:
      (dramCreateAddressPackets ratio command remaining phaseOffset timeOffset buffer).2.list := by
  induction remaining generalizing phaseOffset timeOffset buffer with
  | zero => exact List.prefix_rfl
  | succ remaining inductionHypothesis =>
      have grows := buffer.prefix_createCkePacketSequence timeOffset
      unfold dramCreateAddressPackets
      split
      · rename_i created
        rwa [created] at grows
      · rename_i created
        rw [created] at grows
        dsimp only
        split
        · exact grows.trans (inductionHypothesis _ _ (updatePacket (updatePacket _ _ _) _ _))
        · exact grows.trans (inductionHypothesis _ _ (updatePacket _ _ _))

/-- A loop whose turns only append only appends. -/
theorem prefix_foldl {Index : Type} {body : TxPacketBuffer → Index → TxPacketBuffer}
    (grows : ∀ buffer index, buffer.list <+: (body buffer index).list)
    (indices : List Index) (buffer : TxPacketBuffer) :
    buffer.list <+: (indices.foldl body buffer).list := by
  induction indices generalizing buffer with
  | nil => exact List.prefix_rfl
  | cons index rest inductionHypothesis =>
      exact (grows buffer index).trans (inductionHypothesis (body buffer index))

theorem prefix_dramPrepareMrwUpdate (ratio : WddrFreqRatio) (dramCfg : DramFreqCfg)
    (buffer : TxPacketBuffer) :
    (buffer.createCkePacketSequence 1).2.list <+:
      (buffer.dramPrepareMrwUpdate ratio dramCfg).list := by
  apply prefix_foldl
  intro buffer rank
  apply prefix_foldl
  intro buffer update
  exact (prefix_dramCreateAddressPackets _ _ _ _ _ buffer).trans
    (prefix_createCkePacketSequence 1 _)

end TxPacketBuffer

/-- The first packet of the sequence fits into the storage. -/
theorem mrwUpdatePackets_ne_nil (ratio : WddrFreqRatio) (dramCfg : DramFreqCfg) :
    mrwUpdatePackets ratio dramCfg ≠ [] := by
  intro empty
  have grows := mrwUpdateBuffer.prefix_dramPrepareMrwUpdate ratio dramCfg
  rw [List.map_eq_nil_iff.mp empty, List.prefix_nil] at grows
  exact absurd grows (by decide)

end Growth

/-- The packets that `wddr_dfi_buffer_prime` sends. -/
def primePackets (heapFails : Nat → Bool) : List DfiTxPacket :=
  let buffer := TxPacketBuffer.dfiTxPacketBufferInit (fun _ => .zero) heapFails
  let buffer := (buffer.createCkePacketSequence 1).2
  (buffer.createCkePacketSequence 10).2.packets

/-- The packets that `wddr_dfi_buffer_flush` sends: every signal but the chip
selects set, and an empty packet. -/
def flushPackets : List DfiTxPacket :=
  let noSelect := (List.range 8).foldl (fun (packet : DfiTxPacket) phase =>
    packet.updateData phase fun data => { data with wrdataCs := 0, rddataCs := 0 })
    DfiTxPacket.ones
  [{ noSelect with time := 0x1 }, { DfiTxPacket.zero with time := 0x10 }]

end WavLpddr
