import WavLpddr.ConfigurePhy
import WavLpddr.Packet

/-!
# The DFI channel and its packet FIFO

Software writes a packet word by word into a data register and toggles one bit
of the top register for each word and another for each packet.  The hardware
reacts to the toggles; the model keeps the words loaded so far and the packets
in the ingress FIFO.  The clear pulse empties both.
-/

namespace WavLpddr

open RegisterFile

/-- The DFI channel block: its registers and the ingress FIFO behind them. -/
structure DfiChannel where
  regs : DfichRegs
  /-- Words loaded for the packet being assembled, oldest first. -/
  loaded : List Word
  /-- Packets in the ingress FIFO, each as the words loaded for it. -/
  ingress : List (List Word)

/-- The single top configuration register. -/
abbrev dfichTop1 : ArrayReg DfichRegName := ⟨.ddrDfichTop1Cfg, []⟩

abbrev dfichIgData : ArrayReg DfichRegName := ⟨.ddrDfichIgDataCfg, []⟩

inductive DfiReturn
  | dfiSuccess
  | dfiError
  | dfiErrorFifoFull
  | dfiErrorFifoEmpty
deriving DecidableEq, Repr

namespace DfiChannel

section Hardware

variable [KernelIo]

/-- A write of the top register and the hardware's reaction to it. -/
def writeTop1 (value : Word) (channel : DfiChannel) : DfiChannel :=
  let old := channel.regs dfichTop1
  let toggled (field : RegField) : Bool := getRegField old field != getRegField value field
  let loaded := if toggled ddrDfichTop1CfgWdataEnable then
      channel.loaded ++ [channel.regs dfichIgData]
    else channel.loaded
  let pushed := if toggled ddrDfichTop1CfgWdataUpdate then
      (channel.ingress ++ [loaded], [])
    else (channel.ingress, loaded)
  let cleared := getRegField value ddrDfichTop1CfgWdataClr != 0
  { regs := write dfichTop1 value channel.regs
    ingress := if cleared then [] else pushed.1
    loaded := if cleared then [] else pushed.2 }

end Hardware

variable [KernelIo]

/-- Read the top register, update fields of it, and write it back. -/
def modifyTop1 (update : Word → Word) (channel : DfiChannel) : DfiChannel :=
  channel.writeTop1 (update (channel.regs dfichTop1))

/-- The clear pulse: both writes come from one reading of the register. -/
def dfiFifoEnableClockRegIf (channel : DfiChannel) : DfiChannel :=
  let regVal := channel.regs dfichTop1
  let regVal := updateRegField regVal ddrDfichTop1CfgBufClkEn 1
  let regVal := updateRegField regVal ddrDfichTop1CfgTsReset 1
  let regVal := updateRegField regVal ddrDfichTop1CfgRdataClr 1
  let regVal := updateRegField regVal ddrDfichTop1CfgWdataClr 1
  let channel := channel.writeTop1 regVal
  let regVal := updateRegField regVal ddrDfichTop1CfgTsReset 0
  let regVal := updateRegField regVal ddrDfichTop1CfgRdataClr 0
  let regVal := updateRegField regVal ddrDfichTop1CfgWdataClr 0
  channel.writeTop1 regVal

def dfiFifoSetModeRegIf (enable : Bool) (channel : DfiChannel) : DfiChannel :=
  channel.modifyTop1 fun regVal =>
    let regVal := updateRegField regVal ddrDfichTop1CfgBufMode (boolWord enable)
    updateRegField regVal ddrDfichTop1CfgTsEnable (boolWord enable)

/-- Sending blocks until the hardware has drained the ingress FIFO. -/
def dfiFifoSendPacketsRegIf (channel : DfiChannel) : DfiChannel :=
  let channel := channel.dfiFifoSetModeRegIf true
  let channel := { channel with ingress := [] }
  channel.modifyTop1 fun regVal => updateRegField regVal ddrDfichTop1CfgTsEnable 0

/-- One turn of the load loop: put a word into the data register and toggle the
enable bit of the value last written. -/
def loadWord (state : Word × DfiChannel) (word : Word) : Word × DfiChannel :=
  let channel := { state.2 with regs := write dfichIgData word state.2.regs }
  let enBit := getRegField state.1 ddrDfichTop1CfgWdataEnable ^^^ 1
  let regVal := updateRegField state.1 ddrDfichTop1CfgWdataEnable enBit
  (regVal, channel.writeTop1 regVal)

/-- The words are loaded from the last to the first, then the packet is pushed. -/
def dfiFifoWriteIgRegIf [Device] (data : List Word) (channel : DfiChannel) :
    DfiReturn × DfiChannel :=
  if channel.ingress.length = Device.ingressFifoDepth then (.dfiErrorFifoFull, channel)
  else
    let loaded := data.reverse.foldl loadWord (channel.regs dfichTop1, channel)
    let updBit := getRegField loaded.1 ddrDfichTop1CfgWdataUpdate ^^^ 1
    let regVal := updateRegField loaded.1 ddrDfichTop1CfgWdataUpdate updBit
    (.dfiSuccess, loaded.2.writeTop1 regVal)

/-- `dfi_buffer_enable` -/
def dfiBufferEnable (channel : DfiChannel) : DfiChannel :=
  channel.dfiFifoEnableClockRegIf

/-- `dfi_buffer_disable` -/
def dfiBufferDisable (channel : DfiChannel) : DfiChannel :=
  channel.dfiFifoSetModeRegIf false

/-- The write loop stops at the first packet that does not fit. -/
def dfiBufferWriteLoop [Device] : List DfiTxPacket → DfiChannel → DfiReturn × DfiChannel
  | [], channel => (.dfiSuccess, channel)
  | packet :: rest, channel =>
      match channel.dfiFifoWriteIgRegIf packet.rawData with
      | (.dfiSuccess, channel) => dfiBufferWriteLoop rest channel
      | (failure, channel) => (failure, channel)

def dfiBufferWritePackets [Device] (packets : List DfiTxPacket) (channel : DfiChannel) :
    DfiReturn × DfiChannel :=
  if packets.isEmpty then (.dfiError, channel)
  else dfiBufferWriteLoop packets channel

def dfiBufferFillPackets [Device] (packets : List DfiTxPacket) (channel : DfiChannel) :
    DfiReturn × DfiChannel :=
  channel.dfiBufferEnable.dfiBufferWritePackets packets

/-- `dfi_buffer_send_packets` -/
def dfiBufferSendPackets (channel : DfiChannel) : DfiChannel :=
  channel.dfiFifoSendPacketsRegIf

def dfiBufferFillAndSendPackets [Device] (packets : List DfiTxPacket)
    (channel : DfiChannel) : DfiReturn × DfiChannel :=
  match channel.dfiBufferFillPackets packets with
  | (.dfiSuccess, channel) => (.dfiSuccess, channel.dfiBufferSendPackets)
  | (failure, channel) => (failure, channel)

end DfiChannel

end WavLpddr
