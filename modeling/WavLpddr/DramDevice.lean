import WavLpddr.SentPackets

/-!
# The DRAM device

The device keeps a copy of MR13 and points into the frequency table.  Training switches modes
of the DRAM through MR13, whose bits belong to different operations; an operation changes its
bits of the copy and sends the whole copy.  Enabling write levelling sets a bit of the `mr2` of
the entry that is pointed to, and a new reference voltage replaces its `mr14`.  What the ranks
hold follows from the packets that are sent.
-/

namespace WavLpddr

open TxPacketBuffer

def vrcgMsk : BitVec 8 := 1 <<< 3

def cbtMsk : BitVec 8 := 1 <<< 0

def fspWrShft : Nat := 6

def fspWrMsk : BitVec 8 := 1 <<< fspWrShft

def fspOpShft : Nat := 7

def fspOpMsk : BitVec 8 := 1 <<< fspOpShft

def wrlvlMsk : BitVec 8 := 1 <<< 7

/-- `dram_dev_t` whose pointer is an index of `cfgs`, the channel that it sends through, and the
mode registers of the ranks. -/
structure DramSession where
  mr13 : BitVec 8
  cfg : Nat
  cfgs : Nat → DramFreqCfg
  channel : DfiChannel
  modes : ModeRegisters

namespace DramSession

/-- The configuration that the pointer leads to. -/
def current (session : DramSession) : DramFreqCfg := session.cfgs session.cfg

/-- Change the configuration that the pointer leads to. -/
def onCfg (update : DramFreqCfg → DramFreqCfg) (session : DramSession) : DramSession :=
  { session with cfgs := Function.update session.cfgs session.cfg (update session.current) }

/-- Change the copy of MR13. -/
def setMr13 (mr13 : BitVec 8) (session : DramSession) : DramSession :=
  { session with mr13 := mr13 }

def dramFrequencySet (cfg : Nat) (session : DramSession) : DramSession :=
  { session with cfg := cfg }

def dramInit (cfg : Nat) (session : DramSession) : DramSession :=
  (session.setMr13 0).dramFrequencySet cfg

section Operations

variable [KernelIo] [Device]

/-- Build packets in a fresh buffer, fill the FIFO with them and send them.  If the FIFO is full
nothing is sent, and the caller is not told. -/
def transmit (heapFails : Nat → Bool) (build : TxPacketBuffer → TxPacketBuffer)
    (session : DramSession) : DramSession :=
  let packets := (build (dfiTxPacketBufferInit (fun _ => .zero) heapFails)).packets
  match session.channel.dfiBufferFillAndSendPackets packets with
  | (.dfiSuccess, channel) =>
      { session with
        channel := channel
        modes := session.modes.receive session.current.ratio packets }
  | (_, channel) => { session with channel := channel }

variable (heapFails : Nat → Bool)

def dramPowerDown (session : DramSession) : DramSession :=
  session.transmit heapFails fun buffer =>
    let buffer := (buffer.createCkPacketSequence 1).2
    (buffer.createCkPacketSequence 10).2

def dramIdle (session : DramSession) : DramSession :=
  session.transmit heapFails fun buffer =>
    let buffer := (buffer.createCkPacketSequence 1).2
    (buffer.createCkePacketSequence 30).2

/-- The writes are sent at the ratio of the previous configuration. -/
def dramFrequencyInit (cfg : Nat) (session : DramSession) : DramSession :=
  (session.transmit heapFails fun buffer =>
    buffer.dramPrepareMrwUpdate session.current.ratio (session.cfgs cfg)).dramFrequencySet cfg

def dramCbtEnter (session : DramSession) : DramSession :=
  let session := session.setMr13 (session.mr13 ||| cbtMsk)
  session.transmit heapFails fun buffer =>
    let buffer :=
      (buffer.dramCreateMrwPacketSequence session.current.ratio 0 0xD session.mr13 15).2
    let buffer := (buffer.createCkePacketSequence 1).2
    (buffer.createCkPacketSequence 15).2

def dramCbtExit (session : DramSession) : DramSession :=
  let session := session.setMr13 (session.mr13 &&& ~~~cbtMsk)
  session.transmit heapFails fun buffer =>
    let buffer := (buffer.createCkPacketSequence 15).2
    let buffer := (buffer.createCkePacketSequence 1).2
    let buffer := (buffer.dramCreateMrwPacketSequence session.current.ratio 0 0xD session.mr13
      session.current.tVrefCaLong).2
    (buffer.createCkePacketSequence 1).2

/-- Only the first rank is written. -/
def dramWriteModeRegister (modeRegister op : BitVec 8) (session : DramSession) : DramSession :=
  session.transmit heapFails fun buffer =>
    let buffer :=
      (buffer.dramCreateMrwPacketSequence session.current.ratio 0 modeRegister op 1).2
    (buffer.createCkePacketSequence 1).2

def dramWriteModeRegister13 (mr13 : BitVec 8) (session : DramSession) : DramSession :=
  (session.setMr13 mr13).dramWriteModeRegister heapFails 0xD mr13

def dramWriteModeRegister14 (mr14 : BitVec 8) (session : DramSession) : DramSession :=
  (session.onCfg fun cfg => { cfg with mr14 := mr14 }).dramWriteModeRegister heapFails 0xE mr14

def dramWriteModeRegister2 (mr2 : BitVec 8) (session : DramSession) : DramSession :=
  (session.onCfg fun cfg => { cfg with mr2 := mr2 }).dramWriteModeRegister heapFails 0x2 mr2

def dramSetFspWr (fsp : BitVec 8) (session : DramSession) : DramSession :=
  let mr13 := session.mr13 &&& ~~~fspWrMsk
  let mr13 := mr13 ||| fsp <<< fspWrShft
  (session.setMr13 mr13).dramWriteModeRegister13 heapFails mr13

def dramSetFspOp (fsp : BitVec 8) (session : DramSession) : DramSession :=
  let mr13 := session.mr13 &&& (~~~fspOpMsk &&& ~~~fspWrMsk)
  let mr13 := mr13 ||| (fsp <<< fspOpShft ||| fsp <<< fspWrShft)
  (session.setMr13 mr13).dramWriteModeRegister13 heapFails mr13

def dramSetDqVref (vrefSetting : BitVec 8) (session : DramSession) : DramSession :=
  session.dramWriteModeRegister14 heapFails vrefSetting

def dramWrlvlEnable (session : DramSession) : DramSession :=
  let session := session.onCfg fun cfg => { cfg with mr2 := cfg.mr2 ||| wrlvlMsk }
  session.dramWriteModeRegister2 heapFails session.current.mr2

def dramWrlvlDisable (session : DramSession) : DramSession :=
  let session := session.onCfg fun cfg => { cfg with mr2 := cfg.mr2 &&& ~~~wrlvlMsk }
  session.dramWriteModeRegister2 heapFails session.current.mr2

def dramVrcgEnable (session : DramSession) : DramSession :=
  let mr13 := session.mr13 ||| vrcgMsk
  (session.setMr13 mr13).dramWriteModeRegister13 heapFails mr13

def dramVrcgDisable (session : DramSession) : DramSession :=
  let mr13 := session.mr13 &&& ~~~vrcgMsk
  (session.setMr13 mr13).dramWriteModeRegister13 heapFails mr13

end Operations

end DramSession

/-- A call that changes MR13. -/
inductive Mr13Call
  | cbtEnter
  | cbtExit
  | setFspWr (fsp : BitVec 8)
  | setFspOp (fsp : BitVec 8)
  | vrcgEnable
  | vrcgDisable
  | writeModeRegister13 (mr13 : BitVec 8)
deriving DecidableEq

/-- A call of the device that sends packets. -/
inductive DramCall
  | mr13 (call : Mr13Call)
  | powerDown
  | idle
  | frequencyInit (cfg : Nat)
  | writeModeRegister14 (mr14 : BitVec 8)
  | writeModeRegister2 (mr2 : BitVec 8)
  | setDqVref (vrefSetting : BitVec 8)
  | wrlvlEnable
  | wrlvlDisable
deriving DecidableEq

/-- A call that changes MR13, with the attempts at which the heap has no block. -/
structure Mr13Step where
  call : Mr13Call
  heapFails : Nat → Bool

/-- A call with the attempts at which the heap has no block. -/
structure DramStep where
  call : DramCall
  heapFails : Nat → Bool

section Run

variable [KernelIo] [Device]

def Mr13Step.run (step : Mr13Step) (session : DramSession) : DramSession :=
  match step.call with
  | .cbtEnter => session.dramCbtEnter step.heapFails
  | .cbtExit => session.dramCbtExit step.heapFails
  | .setFspWr fsp => session.dramSetFspWr step.heapFails fsp
  | .setFspOp fsp => session.dramSetFspOp step.heapFails fsp
  | .vrcgEnable => session.dramVrcgEnable step.heapFails
  | .vrcgDisable => session.dramVrcgDisable step.heapFails
  | .writeModeRegister13 mr13 => session.dramWriteModeRegister13 step.heapFails mr13

/-- Calls that change MR13 in turn. -/
def DramSession.runMr13 (steps : List Mr13Step) (session : DramSession) : DramSession :=
  steps.foldl (fun session step => step.run session) session

def DramStep.run (step : DramStep) (session : DramSession) : DramSession :=
  match step.call with
  | .mr13 call => Mr13Step.run ⟨call, step.heapFails⟩ session
  | .powerDown => session.dramPowerDown step.heapFails
  | .idle => session.dramIdle step.heapFails
  | .frequencyInit cfg => session.dramFrequencyInit step.heapFails cfg
  | .writeModeRegister14 mr14 => session.dramWriteModeRegister14 step.heapFails mr14
  | .writeModeRegister2 mr2 => session.dramWriteModeRegister2 step.heapFails mr2
  | .setDqVref vrefSetting => session.dramSetDqVref step.heapFails vrefSetting
  | .wrlvlEnable => session.dramWrlvlEnable step.heapFails
  | .wrlvlDisable => session.dramWrlvlDisable step.heapFails

end Run

end WavLpddr
