import WavLpddr.PacketGroup

/-!
# The training sequences for the DRAM

Each builder appends the packets of one sequence to a buffer: the frames of a
command, filler packets that keep the clocks running, and a loop that fills packets
from groups until these are used up.  The widths of the locals are those of the
source; which allocations are checked is as in the source, too.
-/

namespace WavLpddr

open PacketGroupInfo

/-- `create_mpc_frame` -/
def createMpcFrame (cs : Chipselect) (op : BitVec 8) : Nat → CommandFrame
  | 0 => ⟨cs.high, 0b100000⟩
  | 1 => ⟨0, op &&& 0x3F⟩
  | 2 => ⟨cs.high, 0b010010⟩
  | 3 => ⟨0, 0⟩
  | _ => ⟨0, 0⟩

def createWrfifoCommand (cs : Chipselect) : Nat → CommandFrame := createMpcFrame cs 0b000111

def createRdfifoCommand (cs : Chipselect) : Nat → CommandFrame := createMpcFrame cs 0b000001

def createRddqCommand (cs : Chipselect) : Nat → CommandFrame := createMpcFrame cs 0b000011

/-- `CA_CLK_LEN` -/
def caClkLen : BitVec 16 := 3

/-- `1 << ratio` -/
def WddrFreqRatio.cyclesPerPacket (ratio : WddrFreqRatio) : BitVec 8 := 1 <<< ratio.shift

/-- More turns than any loop of a builder takes. -/
def loopFuel : Nat := 2 ^ 26

namespace TxPacketBuffer

/-- The loops of the builders: create a packet, fill it from the groups, and go on at
the next timestamp while the groups ask for it. -/
def packetLoop {Groups : Type}
    (create : BitVec 16 → TxPacketBuffer → Option PacketPtr × TxPacketBuffer)
    (fill : DfiTxPacket → Groups → DfiTxPacket × Groups) (again : Groups → Bool) :
    Nat → BitVec 16 → Groups → TxPacketBuffer →
      Except Fault (WddrReturn × Groups × TxPacketBuffer)
  | 0, _, _, _ => .error .nonTermination
  | fuel + 1, timeOffset, groups, buffer =>
      match create timeOffset buffer with
      | (none, buffer) => .ok (.wddrError, groups, buffer)
      | (some item, buffer) =>
          let filled := fill (buffer.memory item) groups
          let buffer := buffer.updatePacket item fun _ => filled.1
          if again filled.2 then packetLoop create fill again fuel 1 filled.2 buffer
          else .ok (.wddrSuccess, filled.2, buffer)

/-- If enough delay is required, insert a CKE packet to keep the clocks cycling. -/
def fillGap (timeOffset : BitVec 16) (buffer : TxPacketBuffer) : BitVec 16 × TxPacketBuffer :=
  if 1 < timeOffset then (timeOffset - 1, (buffer.createCkePacketSequence 1).2)
  else (timeOffset, buffer)

/-- The CKE packet at the end of a sequence, after a loop that succeeded. -/
def endWithCke {Groups : Type} (looped : WddrReturn × Groups × TxPacketBuffer) :
    WddrReturn × TxPacketBuffer :=
  match looped with
  | (.wddrSuccess, _, buffer) => (.wddrSuccess, (buffer.createCkePacketSequence 1).2)
  | (failure, _, buffer) => (failure, buffer)

section Wrfifo

/-- The groups of the write enable and of the write data. -/
abbrev WrGroups := PacketGroupInfo × PacketGroupInfo

/-- The body of the loop of `dram_prepare_wrfifo_sequence`. -/
def fillWrfifo (cyclesPerPacket : BitVec 8) (burstLength : BurstLength) (cs : Chipselect)
    (data : CommandData) (packet : DfiTxPacket) (groups : WrGroups) : DfiTxPacket × WrGroups :=
  let (wrdataEnInfo, wrdataInfo) := groups
  let (packet, wrdataEnInfo) :=
    if wrdataEnInfo.dfiTsStart ≤ packet.time then
      fillWrdataEnPacket cyclesPerPacket packet wrdataEnInfo
    else (packet, wrdataEnInfo)
  let (packet, wrdataInfo) :=
    if wrdataInfo.dfiTsStart ≤ packet.time then
      fillWrdataPacket cs data cyclesPerPacket burstLength.phases packet wrdataInfo
    else (packet, wrdataInfo)
  (packet, wrdataEnInfo, wrdataInfo)

def wrfifoRemains (groups : WrGroups) : Bool :=
  groups.1.phaseRemaining ≠ 0 || groups.2.phaseRemaining ≠ 0

/-- The groups of a write FIFO sequence, from clocks that are cut to 8 bits. -/
def wrfifoGroups (dramCfg : DramFreqCfg) (tsLastPacket : BitVec 16)
    (burstLength : BurstLength) (wrdataEnOffset : BitVec 16) : WrGroups :=
  let initialDramOffset := (tsLastPacket + 1) <<< dramCfg.ratio.shift
  let wrdataEnDramClk : BitVec 8 := (initialDramOffset + caClkLen +
    dramCfg.phyWrLat.setWidth 16 + wrdataEnOffset).setWidth 8
  let wrdataDramClk : BitVec 8 := wrdataEnDramClk + dramCfg.phyWrEn
  (createPacketGroupInfo dramCfg.ratio (wrdataEnDramClk.setWidth 16) (burstLength.phases + 4),
    createPacketGroupInfo dramCfg.ratio (wrdataDramClk.setWidth 16) burstLength.phases)

/-- The loop of `dram_prepare_wrfifo_sequence`, and what comes before it.  What the
command frames and the filler return is ignored. -/
def wrfifoLoop (dramCfg : DramFreqCfg) (burstLength : BurstLength) (cs : Chipselect)
    (wrdataEnOffset : BitVec 16) (data : CommandData) (buffer : TxPacketBuffer) :
    Except Fault (WddrReturn × WrGroups × TxPacketBuffer) :=
  let groups := wrfifoGroups dramCfg buffer.tsLastPacket burstLength wrdataEnOffset
  let buffer := (buffer.dramCreateAddressPacketSequence dramCfg.ratio
    (createWrfifoCommand cs) 1).2
  let timeOffset : BitVec 8 := (groups.1.dfiTsStart - buffer.tsLastPacket).setWidth 8
  let (timeOffset, buffer) := buffer.fillGap (timeOffset.setWidth 16)
  packetLoop createCkePacketSequence
    (fillWrfifo dramCfg.ratio.cyclesPerPacket burstLength cs data) wrfifoRemains loopFuel
    timeOffset groups buffer

def dramPrepareWrfifoSequence (dramCfg : DramFreqCfg) (burstLength : BurstLength)
    (cs : Chipselect) (wrdataEnOffset : BitVec 16) (data : CommandData)
    (buffer : TxPacketBuffer) : Except Fault (WddrReturn × TxPacketBuffer) := do
  let looped ← buffer.wrfifoLoop dramCfg burstLength cs wrdataEnOffset data
  pure (endWithCke looped)

end Wrfifo

section Read

/-- The group of a read sequence, from a clock that is cut to 8 bits. -/
def rddataGroup (dramCfg : DramFreqCfg) (tsLastPacket : BitVec 16) (burstLength : BurstLength)
    (rddataEnOffset : BitVec 16) : PacketGroupInfo :=
  let initialDramOffset := (tsLastPacket + 1) <<< dramCfg.ratio.shift
  let rddataDramClk : BitVec 8 := (initialDramOffset + caClkLen +
    dramCfg.phyRdEn.setWidth 16 + rddataEnOffset).setWidth 8
  createPacketGroupInfo dramCfg.ratio (rddataDramClk.setWidth 16) burstLength.phases

def dramPrepareReadSequence (dramCfg : DramFreqCfg) (burstLength : BurstLength)
    (cs : Chipselect) (rddataEnOffset : BitVec 16) (command : Nat → CommandFrame)
    (buffer : TxPacketBuffer) : Except Fault (WddrReturn × TxPacketBuffer) := do
  let rddataInfo := rddataGroup dramCfg buffer.tsLastPacket burstLength rddataEnOffset
  let buffer := (buffer.dramCreateAddressPacketSequence dramCfg.ratio command 1).2
  let timeOffset := rddataInfo.dfiTsStart - buffer.tsLastPacket
  let (timeOffset, buffer) := buffer.fillGap timeOffset
  let looped ← packetLoop createCkePacketSequence
    (fillRddataPacket cs dramCfg.ratio.cyclesPerPacket) (·.phaseRemaining ≠ 0) loopFuel
    timeOffset rddataInfo buffer
  pure (endWithCke looped)

def dramPrepareRddqSequence (dramCfg : DramFreqCfg) (burstLength : BurstLength)
    (cs : Chipselect) (rddataEnOffset : BitVec 16) (buffer : TxPacketBuffer) :
    Except Fault (WddrReturn × TxPacketBuffer) :=
  buffer.dramPrepareReadSequence dramCfg burstLength cs rddataEnOffset (createRddqCommand cs)

def dramPrepareRdfifoSequence (dramCfg : DramFreqCfg) (burstLength : BurstLength)
    (cs : Chipselect) (rddataEnOffset : BitVec 16) (buffer : TxPacketBuffer) :
    Except Fault (WddrReturn × TxPacketBuffer) :=
  buffer.dramPrepareReadSequence dramCfg burstLength cs rddataEnOffset (createRdfifoCommand cs)

end Read

/-- Four cycles are filled into a packet whatever the ratio is. -/
def dramPrepareWrlvlSequence (dramCfg : DramFreqCfg) (buffer : TxPacketBuffer) :
    Except Fault (WddrReturn × TxPacketBuffer) := do
  let initialDramClk := (buffer.tsLastPacket + 1) <<< dramCfg.ratio.shift
  let wrdataEnInfo := createPacketGroupInfo dramCfg.ratio initialDramClk 4
  let looped ← packetLoop createCkePacketSequence (fillWrdataEnPacket 4)
    (·.phaseRemaining ≠ 0) loopFuel 1 wrdataEnInfo buffer
  pure (endWithCke looped)

section Cbt

/-- The groups of the data and of the enable in `dram_prepare_cbt_sequence`. -/
abbrev CbtGroups := PacketGroupInfo × PacketGroupInfo

def cbtGroups (dramCfg : DramFreqCfg) (tsLastPacket : BitVec 16) : CbtGroups :=
  let cyclesPerPacket : BitVec 16 := dramCfg.ratio.cyclesPerPacket.setWidth 16
  let initialDramOffset := (tsLastPacket + 1) <<< dramCfg.ratio.shift
  let dramClk := initialDramOffset + cyclesPerPacket
  let tShTrain : BitVec 16 := dramCfg.tShTrain.setWidth 16
  let wrdataPhases := ((tShTrain + cyclesPerPacket <<< 1) <<< 1) + 4
  (createPacketGroupInfo dramCfg.ratio dramClk wrdataPhases,
    createPacketGroupInfo dramCfg.ratio (dramClk + tShTrain) 4)

/-- The body of the loop of `dram_prepare_cbt_sequence`.  Using the remaining phases as
the length keeps the data offset at zero. -/
def fillCbt (cyclesPerPacket : BitVec 8) (cs : Chipselect) (data : CommandData)
    (packet : DfiTxPacket) (groups : CbtGroups) : DfiTxPacket × CbtGroups :=
  let (wrdataInfo, wrdataEnInfo) := groups
  let (packet, wrdataInfo) :=
    if wrdataInfo.dfiTsStart ≤ packet.time then
      fillWrdataPacket cs data cyclesPerPacket wrdataInfo.phaseRemaining packet wrdataInfo
    else (packet, wrdataInfo)
  let (packet, wrdataEnInfo) :=
    if wrdataEnInfo.dfiTsStart ≤ packet.time then
      fillWrdataEnPacket cyclesPerPacket packet wrdataEnInfo
    else (packet, wrdataEnInfo)
  (packet, wrdataInfo, wrdataEnInfo)

/-- The data that hold the VREF setting on the DQ pins of byte 0. -/
def cbtData (phasesPerPacket : BitVec 8) (vrefSetting : BitVec 8) : CommandData :=
  createDataFrame (fun _ _ => 0) 0 (List.replicate phasesPerPacket.toNat vrefSetting) 0

/-- The offset of the hold packet, cut to 8 bits. -/
def cbtHoldOffset (dramCfg : DramFreqCfg) : BitVec 8 :=
  ((((dramCfg.tShTrain.setWidth 32 : Word) + dramCfg.phyWrEn.setWidth 32).sshiftRight
    dramCfg.ratio.shift) + 1).setWidth 8

/-- The offset of the packet with the CA pattern, cut to 8 bits. -/
def cbtPatternOffset (dramCfg : DramFreqCfg) : BitVec 8 :=
  ((((dramCfg.tVrefCaLong.setWidth 32 : Word) - dramCfg.tShTrain.setWidth 32).sshiftRight
    dramCfg.ratio.shift) + 1).setWidth 8

/-- The packets after the loop of `dram_prepare_cbt_sequence`: only the one with the CA
pattern is checked. -/
def endCbt (dramCfg : DramFreqCfg) (cs : Chipselect) (commandAddress : BitVec 8)
    (looped : WddrReturn × CbtGroups × TxPacketBuffer) : WddrReturn × TxPacketBuffer :=
  match looped with
  | (.wddrSuccess, _, buffer) =>
      let buffer := (buffer.createCkPacketSequence ((cbtHoldOffset dramCfg).setWidth 16)).2
      match buffer.createCkPacketSequence ((cbtPatternOffset dramCfg).setWidth 16) with
      | (none, buffer) => (.wddrError, buffer)
      | (some item, buffer) =>
          let buffer := buffer.updatePacket item (·.fillFrame 0 ⟨cs.high, commandAddress⟩)
          let buffer := (buffer.createCkPacketSequence 1).2
          (.wddrSuccess, (buffer.createCkPacketSequence 2).2)
  | (failure, _, buffer) => (failure, buffer)

def dramPrepareCbtSequence (dramCfg : DramFreqCfg) (cs : Chipselect)
    (vrefSetting commandAddress : BitVec 8) (buffer : TxPacketBuffer) :
    Except Fault (WddrReturn × TxPacketBuffer) := do
  let cyclesPerPacket := dramCfg.ratio.cyclesPerPacket
  let data := cbtData (cyclesPerPacket <<< 1) vrefSetting
  let groups := cbtGroups dramCfg buffer.tsLastPacket
  let buffer := (buffer.createCkPacketSequence 1).2
  let timeOffset : BitVec 8 := (groups.1.dfiTsStart - buffer.tsLastPacket).setWidth 8
  let looped ← packetLoop createCkPacketSequence (fillCbt cyclesPerPacket cs data)
    (fun groups => (cyclesPerPacket <<< 1).setWidth 16 ≤ groups.1.phaseRemaining) loopFuel
    (timeOffset.setWidth 16) groups buffer
  pure (endCbt dramCfg cs commandAddress looped)

end Cbt

end TxPacketBuffer

/-- A call of a builder that returns whether it succeeded. -/
inductive SequenceCall
  | wrfifo (burstLength : BurstLength) (cs : Chipselect) (wrdataEnOffset : BitVec 16)
      (data : CommandData)
  | rddq (burstLength : BurstLength) (cs : Chipselect) (rddataEnOffset : BitVec 16)
  | rdfifo (burstLength : BurstLength) (cs : Chipselect) (rddataEnOffset : BitVec 16)
  | wrlvl
  | cbt (cs : Chipselect) (vrefSetting commandAddress : BitVec 8)

def SequenceCall.run (dramCfg : DramFreqCfg) (buffer : TxPacketBuffer) :
    SequenceCall → Except Fault (WddrReturn × TxPacketBuffer)
  | wrfifo burstLength cs wrdataEnOffset data =>
      buffer.dramPrepareWrfifoSequence dramCfg burstLength cs wrdataEnOffset data
  | rddq burstLength cs rddataEnOffset =>
      buffer.dramPrepareRddqSequence dramCfg burstLength cs rddataEnOffset
  | rdfifo burstLength cs rddataEnOffset =>
      buffer.dramPrepareRdfifoSequence dramCfg burstLength cs rddataEnOffset
  | wrlvl => buffer.dramPrepareWrlvlSequence dramCfg
  | cbt cs vrefSetting commandAddress =>
      buffer.dramPrepareCbtSequence dramCfg cs vrefSetting commandAddress

/-- A call of any of the builders, also of the one for a frequency switch. -/
inductive BuilderCall
  | mrwUpdate (newCfg : DramFreqCfg)
  | sequence (call : SequenceCall)

/-- The buffer after a call. -/
def BuilderCall.run (dramCfg : DramFreqCfg) (buffer : TxPacketBuffer) :
    BuilderCall → Except Fault TxPacketBuffer
  | mrwUpdate newCfg => .ok (buffer.dramPrepareMrwUpdate dramCfg.ratio newCfg)
  | sequence call => (call.run dramCfg buffer).map (·.2)

end WavLpddr
