import WavLpddr.Packet

/-!
# Packet groups

A group is a run of DRAM cycles that carry write data, its enable or a read
enable.  A group record counts the phases still to be filled and the cycles to
skip in the first packet; the fill functions take from it the phases of one packet
at a time.
-/

namespace WavLpddr

/-- `chipselect_t` -/
inductive Chipselect
  | cs0 | cs1
deriving DecidableEq, Repr

/-- `CS_HIGH << cs` -/
def Chipselect.high (cs : Chipselect) : BitVec 8 := 1 <<< cs.ctorIdx

/-- `burst_length_t` -/
inductive BurstLength
  | bl16 | bl32
deriving DecidableEq, Repr

def BurstLength.phases : BurstLength → BitVec 16
  | bl16 => 16
  | bl32 => 32

/-- `command_data_t.dq`: the data of each byte lane.  No mask is used. -/
abbrev CommandData := Nat → Nat → BitVec 8

/-- `MAX_DATA_SIZE` -/
def maxDataSize : Nat := 32

/-- The copy of `create_data_frame`, clipped to the size of the frame. -/
def createDataFrame (data : CommandData) (dqByte : Nat) (src : List (BitVec 8))
    (offset : Nat) : CommandData :=
  let offset := min offset maxDataSize
  let len := min src.length (maxDataSize - offset)
  Function.update data dqByte fun index =>
    if offset ≤ index ∧ index < offset + len then src.getD (index - offset) 0
    else data dqByte index

/-- `packet_group_info_t` -/
structure PacketGroupInfo where
  dfiTsStart : BitVec 16
  cycleOffset : BitVec 16
  phaseRemaining : BitVec 16
deriving DecidableEq

def createPacketGroupInfo (ratio : WddrFreqRatio) (dramClkCycles phaseLength : BitVec 16) :
    PacketGroupInfo where
  dfiTsStart := dramClkCycles >>> ratio.shift
  cycleOffset := dramClkCycles &&& (1 <<< ratio.shift - 1)
  phaseRemaining := phaseLength

/-- `CMD_PHASE_PER_CYC_SHFT` -/
def cmdPhasePerCycShft : Nat := 0

/-- `DATA_PHASE_PER_CYC_SHFT` -/
def dataPhasePerCycShft : Nat := 1

namespace PacketGroupInfo

/-- The offset counts for one mask only. -/
def determineGroupMask (groupInfo : PacketGroupInfo) (cyclesPerPacket : BitVec 8)
    (phasesPerCycleShft : Nat) : Word × PacketGroupInfo :=
  let cyclesRemaining := groupInfo.phaseRemaining >>> phasesPerCycleShft
  let cycleOffset : BitVec 8 := groupInfo.cycleOffset.setWidth 8
  let cyclesRemaining :=
    if cyclesPerPacket.setWidth 16 < cyclesRemaining then cyclesPerPacket.setWidth 16
    else cyclesRemaining
  let baseMask : BitVec 8 := ((1 : Word) <<< cyclesRemaining - 1).setWidth 8
  ((baseMask.setWidth 32 <<< cycleOffset) &&& baseMask.setWidth 32,
    { groupInfo with cycleOffset := 0 })

/-- The DRAM cycles whose phases are compiled in at a maximal ratio of 1:2. -/
def compiledCycles : List Nat := [0, 1]

/-- The state of a fill function: the packet, the group and the data offset. -/
abbrev FillState := DfiTxPacket × PacketGroupInfo × BitVec 16

/-- The block of a fill function for one DRAM cycle of the packet. -/
def fillCycle (mask : Word) (put : Nat → BitVec 16 → DfiTxPacket → DfiTxPacket)
    (state : FillState) (cycle : Nat) : FillState :=
  let (packet, groupInfo, offset) := state
  if mask.getLsbD cycle then
    (put cycle offset packet,
      { groupInfo with phaseRemaining := groupInfo.phaseRemaining - 2 }, offset + 2)
  else state

/-- What the fill functions for data have in common: take the mask of the packet, and
for each of its cycles put the two phases at the running data offset. -/
def fillPacket (put : Nat → BitVec 16 → DfiTxPacket → DfiTxPacket)
    (cyclesPerPacket : BitVec 8) (phaseLength : BitVec 16) (packet : DfiTxPacket)
    (groupInfo : PacketGroupInfo) : DfiTxPacket × PacketGroupInfo :=
  let (mask, groupInfo) := groupInfo.determineGroupMask cyclesPerPacket dataPhasePerCycShft
  let dataOffset := phaseLength - groupInfo.phaseRemaining
  let filled := compiledCycles.foldl (fillCycle mask put) (packet, groupInfo, dataOffset)
  (filled.1, filled.2.1)

/-- Set both data phases of a DRAM cycle. -/
def putPhases (update : Nat → TxDataPhase → TxDataPhase) (cycle : Nat)
    (packet : DfiTxPacket) : DfiTxPacket :=
  (packet.updateData (2 * cycle) (update 0)).updateData (2 * cycle + 1) (update 1)

def putWrdataEn (cycle : Nat) (_ : BitVec 16) : DfiTxPacket → DfiTxPacket :=
  putPhases (fun _ phase => { phase with wrdataEn := 1 }) cycle

def putWrdata (cs : Chipselect) (data : CommandData) (cycle : Nat) (offset : BitVec 16) :
    DfiTxPacket → DfiTxPacket :=
  putPhases (fun half phase =>
    { phase with
      wrdataCs := cs.high.setWidth 2
      dq0Wrdata := data 0 (offset.toNat + half)
      dq1Wrdata := data 1 (offset.toNat + half) }) cycle

def putRddata (cs : Chipselect) (cycle : Nat) (_ : BitVec 16) : DfiTxPacket → DfiTxPacket :=
  putPhases (fun _ phase => { phase with rddataEn := 1, rddataCs := cs.high.setWidth 2 })
    cycle

/-- `fill_wrdata_en_packet` -/
def fillWrdataEnPacket (cyclesPerPacket : BitVec 8) (packet : DfiTxPacket)
    (groupInfo : PacketGroupInfo) : DfiTxPacket × PacketGroupInfo :=
  fillPacket putWrdataEn cyclesPerPacket 0 packet groupInfo

def fillWrdataPacket (cs : Chipselect) (data : CommandData) (cyclesPerPacket : BitVec 8)
    (phaseLength : BitVec 16) (packet : DfiTxPacket) (groupInfo : PacketGroupInfo) :
    DfiTxPacket × PacketGroupInfo :=
  fillPacket (putWrdata cs data) cyclesPerPacket phaseLength packet groupInfo

def fillRddataPacket (cs : Chipselect) (cyclesPerPacket : BitVec 8) (packet : DfiTxPacket)
    (groupInfo : PacketGroupInfo) : DfiTxPacket × PacketGroupInfo :=
  fillPacket (putRddata cs) cyclesPerPacket 0 packet groupInfo

/-- The block of `fill_address_packet` for one DRAM cycle of the packet. -/
def fillAddressCycle (mask : Word) (command : Nat → CommandFrame) (state : FillState)
    (cycle : Nat) : FillState :=
  let (packet, groupInfo, phaseOffset) := state
  if mask.getLsbD cycle then
    (packet.fillFrame (2 * cycle) (command phaseOffset.toNat),
      { groupInfo with phaseRemaining := groupInfo.phaseRemaining - 1 }, phaseOffset + 1)
  else state

/-- A command counts one phase to a DRAM cycle. -/
def fillAddressPacket (command : Nat → CommandFrame) (cyclesPerPacket : BitVec 8)
    (phaseLength : BitVec 16) (packet : DfiTxPacket) (groupInfo : PacketGroupInfo) :
    DfiTxPacket × PacketGroupInfo :=
  let (mask, groupInfo) := groupInfo.determineGroupMask cyclesPerPacket cmdPhasePerCycShft
  let phaseOffset := phaseLength - groupInfo.phaseRemaining
  let filled := compiledCycles.foldl (fillAddressCycle mask command)
    (packet, groupInfo, phaseOffset)
  (filled.1, filled.2.1)

/-- Every part of a packet that the selected cycles keep is kept by a fill function. -/
theorem fillPacket_keeps {motive : DfiTxPacket → Prop}
    {put : Nat → BitVec 16 → DfiTxPacket → DfiTxPacket} {cyclesPerPacket : BitVec 8}
    {phaseLength : BitVec 16} {packet : DfiTxPacket} {groupInfo : PacketGroupInfo}
    (keeps : ∀ cycle ∈ compiledCycles,
      (groupInfo.determineGroupMask cyclesPerPacket dataPhasePerCycShft).1.getLsbD cycle = true →
        ∀ offset packet, motive packet → motive (put cycle offset packet))
    (holds : motive packet) :
    motive (fillPacket put cyclesPerPacket phaseLength packet groupInfo).1 := by
  have step : ∀ (state : FillState), motive state.1 → ∀ cycle ∈ compiledCycles,
      motive (fillCycle (groupInfo.determineGroupMask cyclesPerPacket dataPhasePerCycShft).1
        put state cycle).1 := by
    intro state before cycle compiled
    unfold fillCycle
    dsimp only
    split
    · exact keeps cycle compiled ‹_› _ _ before
    · exact before
  unfold fillPacket
  dsimp only
  exact List.foldlRecOn (motive := fun state : FillState => motive state.1) _ _ holds step

end PacketGroupInfo

end WavLpddr
