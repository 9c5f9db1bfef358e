import WavLpddr.Lib.Layout
import WavLpddr.Packet

/-!
# The format of transmit packets

The descriptor of a transmit packet is a packed structure whose words go to the FIFO.  Its
fields fill these words without a gap, so that a packet can be read back from the words and
every sixteen words are those of one packet.
-/

namespace WavLpddr

/-- The phases of a descriptor. -/
abbrev packetMaxNumPhases : Nat := 8

/-- `dfi_tx_packet_desc_t`, with the padding that completes its last word. -/
structure DfiTxPacketDesc where
  data : Fin packetMaxNumPhases → TxDataPhase
  ca : Fin packetMaxNumPhases → TxCaPhase
  time : BitVec 16
  padding : BitVec 16

namespace DfiTxPacketDesc

open Layout

/-- The fields of a data phase in their order. -/
def dataPhaseEquiv :
    BitVec 8 × BitVec 1 × BitVec 8 × BitVec 1 × BitVec 8 × BitVec 1 × BitVec 8 × BitVec 1 ×
      BitVec 2 × BitVec 1 × BitVec 1 × BitVec 2 × BitVec 1 × BitVec 2 × BitVec 2 × BitVec 1 ≃
        TxDataPhase where
  toFun
    | (dq3, mask3, dq2, mask2, dq1, mask1, dq0, mask0, wrdataCs, parityIn, wrdataEn, wckCs,
        wckEn, wckToggle, rddataCs, rddataEn) =>
        ⟨dq3, mask3, dq2, mask2, dq1, mask1, dq0, mask0, wrdataCs, parityIn, wrdataEn, wckCs,
          wckEn, wckToggle, rddataCs, rddataEn⟩
  invFun phase :=
    (phase.dq3Wrdata, phase.dq3WrdataMask, phase.dq2Wrdata, phase.dq2WrdataMask,
      phase.dq1Wrdata, phase.dq1WrdataMask, phase.dq0Wrdata, phase.dq0WrdataMask,
      phase.wrdataCs, phase.parityIn, phase.wrdataEn, phase.wckCs, phase.wckEn,
      phase.wckToggle, phase.rddataCs, phase.rddataEn)
  left_inv _ := rfl
  right_inv _ := rfl

def dataPhase : Layout TxDataPhase :=
  ((bits 8).prod <| (bits 1).prod <| (bits 8).prod <| (bits 1).prod <| (bits 8).prod <|
    (bits 1).prod <| (bits 8).prod <| (bits 1).prod <| (bits 2).prod <| (bits 1).prod <|
      (bits 1).prod <| (bits 2).prod <| (bits 1).prod <| (bits 2).prod <| (bits 2).prod <|
        bits 1).map dataPhaseEquiv

theorem lists_dataPhase : dataPhase.Lists DfiTxPacket.dataFields :=
  (((((((((((((((((lists_last 1).cons 2).cons 2).cons 1).cons 2).cons 1).cons 1).cons 2).cons
    1).cons 8).cons 1).cons 8).cons 1).cons 8).cons 1).cons 8).map dataPhaseEquiv)

/-- The fields of a command phase in their order. -/
def caPhaseEquiv : BitVec 7 × BitVec 2 × BitVec 2 × BitVec 1 ≃ TxCaPhase where
  toFun | (address, cke, cs, dce) => ⟨address, cke, cs, dce⟩
  invFun phase := (phase.address, phase.cke, phase.cs, phase.dce)
  left_inv _ := rfl
  right_inv _ := rfl

def caPhase : Layout TxCaPhase :=
  ((bits 7).prod <| (bits 2).prod <| (bits 2).prod <| bits 1).map caPhaseEquiv

theorem lists_caPhase : caPhase.Lists DfiTxPacket.caFields :=
  ((((lists_last 1).cons 2).cons 2).cons 7).map caPhaseEquiv

/-- Phases from the last one to the first. -/
def phasesEquiv (Phase : Type) :
    (Fin packetMaxNumPhases → Phase) ≃ (Fin packetMaxNumPhases → Phase) :=
  Equiv.arrowCongr Fin.revPerm (Equiv.refl Phase)

/-- The parts of a descriptor in their order. -/
def descEquiv :
    (Fin packetMaxNumPhases → TxDataPhase) × (Fin packetMaxNumPhases → TxCaPhase) ×
      BitVec 16 × BitVec 16 ≃ DfiTxPacketDesc where
  toFun | (data, ca, time, padding) => ⟨data, ca, time, padding⟩
  invFun desc := (desc.data, desc.ca, desc.time, desc.padding)
  left_inv _ := rfl
  right_inv _ := rfl

/-- The descriptor: the data phases, the command phases, the time and the padding. -/
def layout : Layout DfiTxPacketDesc :=
  (((dataPhase.array _).map (phasesEquiv _)).prod <|
    ((caPhase.array _).map (phasesEquiv _)).prod <| (bits 16).prod <| bits 16).map descEquiv

/-- The fields fill the words. -/
theorem width_layout : layout.width = 32 * DfiTxPacket.sizeWords := by
  simp only [layout, dataPhase, caPhase, width_map, width_prod, width_array, width_bits]
  rfl

/-- The fields of a descriptor, as width and value. -/
def fields (desc : DfiTxPacketDesc) : List (Nat × Nat) :=
  (List.ofFn fun index => desc.data (Fin.rev index)).flatMap DfiTxPacket.dataFields ++
    ((List.ofFn fun index => desc.ca (Fin.rev index)).flatMap DfiTxPacket.caFields ++
      [(16, desc.time.toNat), (16, desc.padding.toNat)])

theorem lists_layout : layout.Lists fields :=
  (((lists_dataPhase.array _).map (phasesEquiv _)).append <|
    ((lists_caPhase.array _).map (phasesEquiv _)).append <|
      (lists_last 16).cons 16).map descEquiv

end DfiTxPacketDesc

namespace DfiTxPacket

/-- The fields of a packet that its descriptor has. -/
def desc (packet : DfiTxPacket) : DfiTxPacketDesc where
  data phase := packet.data phase
  ca phase := packet.ca phase
  time := packet.time
  padding := packet.padding

/-- The packet of a descriptor, without the phases that it lacks. -/
def ofDesc (desc : DfiTxPacketDesc) : DfiTxPacket where
  data phase :=
    if present : phase < packetMaxNumPhases then desc.data ⟨phase, present⟩
    else zero.data phase
  ca phase :=
    if present : phase < packetMaxNumPhases then desc.ca ⟨phase, present⟩ else zero.ca phase
  time := desc.time
  padding := desc.padding

/-- The packet that words describe. -/
def ofRawData (words : List Word) : DfiTxPacket := ofDesc (DfiTxPacketDesc.layout.ofWords words)

@[simp]
theorem desc_ofDesc (desc : DfiTxPacketDesc) : (ofDesc desc).desc = desc := by
  obtain ⟨data, ca, time, padding⟩ := desc
  simp [ofDesc, DfiTxPacket.desc]

/-- The words are those of the descriptor. -/
theorem rawData_eq (packet : DfiTxPacket) :
    packet.rawData = DfiTxPacketDesc.layout.toWords 32 sizeWords packet.desc := by
  have fields : packBits (((List.range 8).reverse.flatMap fun phase =>
        dataFields (packet.data phase)) ++
      ((List.range 8).reverse.flatMap fun phase => caFields (packet.ca phase)) ++
      [(16, packet.time.toNat), (16, packet.padding.toNat)]) =
        Layout.pack packet.desc.fields := rfl
  rw [Layout.toWords, ← DfiTxPacketDesc.lists_layout.pack, ← fields]
  rfl

theorem length_rawData (packet : DfiTxPacket) : packet.rawData.length = sizeWords := by
  rw [rawData_eq, Layout.toWords, Layout.length_cut]

/-- The descriptor is read back from the words. -/
theorem desc_ofRawData (packet : DfiTxPacket) : (ofRawData packet.rawData).desc = packet.desc := by
  rw [ofRawData, desc_ofDesc, rawData_eq,
    Layout.ofWords_toWords DfiTxPacketDesc.width_layout]

/-- Words of a packet are the words of what they describe. -/
theorem rawData_ofRawData {words : List Word} (whole : words.length = sizeWords) :
    (ofRawData words).rawData = words := by
  have width : DfiTxPacketDesc.layout.width = 32 * words.length := by
    rw [whole, DfiTxPacketDesc.width_layout]
  rw [rawData_eq, ofRawData, desc_ofDesc, ← whole, Layout.toWords_ofWords width]

/-- The format loses nothing and admits everything: a packet has the words of its descriptor,
which is read back from them, and any words of this number are those of what they describe. -/
theorem rawData_format :
    (∀ packet : DfiTxPacket, packet.rawData.length = sizeWords ∧
      (ofRawData packet.rawData).desc = packet.desc) ∧
    ∀ words : { words : List Word // words.length = sizeWords },
      (ofRawData words.1).rawData = words.1 :=
  ⟨fun packet => ⟨length_rawData packet, desc_ofRawData packet⟩,
    fun words => rawData_ofRawData words.2⟩

theorem data_ofRawData (packet : DfiTxPacket) {phase : Nat}
    (present : phase < packetMaxNumPhases) :
    (ofRawData packet.rawData).data phase = packet.data phase :=
  congrFun (congrArg DfiTxPacketDesc.data (desc_ofRawData packet)) ⟨phase, present⟩

theorem ca_ofRawData (packet : DfiTxPacket) {phase : Nat}
    (present : phase < packetMaxNumPhases) :
    (ofRawData packet.rawData).ca phase = packet.ca phase :=
  congrFun (congrArg DfiTxPacketDesc.ca (desc_ofRawData packet)) ⟨phase, present⟩

theorem time_ofRawData (packet : DfiTxPacket) :
    (ofRawData packet.rawData).time = packet.time :=
  congrArg DfiTxPacketDesc.time (desc_ofRawData packet)

end DfiTxPacket

end WavLpddr
