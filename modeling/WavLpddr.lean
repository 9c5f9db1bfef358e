import WavLpddr.Lib.BitFields
import WavLpddr.Lib.RegisterFile
import WavLpddr.Lib.TransitionSystem
import WavLpddr.Lib.EventMachine
import WavLpddr.Kernel
import WavLpddr.Registers
import WavLpddr.Table
import WavLpddr.DqPrep
import WavLpddr.CaPrep
import WavLpddr.ConfigurePhy
import WavLpddr.Packet
import WavLpddr.DfiBuffer
import WavLpddr.DfiFifo
import WavLpddr.Pll
import WavLpddr.PllBookkeeping
import WavLpddr.VcoRuns
import WavLpddr.Channel
import WavLpddr.Cmn
import WavLpddr.FswCtrl
import WavLpddr.DfiInterface
import WavLpddr.Wddr
import WavLpddr.PhyTask
import WavLpddr.Interrupts
import WavLpddr.WddrMain
import WavLpddr.System
import WavLpddr.Transitions
import WavLpddr.Processing
import WavLpddr.DeviceInvariant
import WavLpddr.SystemSteps
import WavLpddr.DeviceRuns
import WavLpddr.LastPrepWins
import WavLpddr.RequestLines
import WavLpddr.Faults
import WavLpddr.Queue
import WavLpddr.HostOrder
import WavLpddr.SwitchMoves
import WavLpddr.PreparedSwitch
import WavLpddr.FrozenSwitch
import WavLpddr.Acknowledge
import WavLpddr.OneShot
import WavLpddr.PeriodicCal
import WavLpddr.VcoInvariant
import WavLpddr.ControllerUpdate
import WavLpddr.GrantedUpdates
import WavLpddr.InterruptCauses
import WavLpddr.StaleMessages
import WavLpddr.CallMatching
import WavLpddr.UsableBoot
import WavLpddr.SenseAmp
import WavLpddr.SenseAmpTable
import WavLpddr.BootOverrides
import WavLpddr.Lib.Footprint
import WavLpddr.RegisterBounds
import WavLpddr.BankFrame
import WavLpddr.DelayWords
import WavLpddr.CaDelays
import WavLpddr.BootSwitchDelays
import WavLpddr.Lib.Attempts
import WavLpddr.PacketLog
import WavLpddr.DramSequence
import WavLpddr.GroupSchedule
import WavLpddr.Lib.Intervals
import WavLpddr.SequenceLoop
import WavLpddr.SequencePackets
import WavLpddr.SequenceTermination
import WavLpddr.SequenceBuilders
import WavLpddr.BufferAgreement
import WavLpddr.SequenceErrors
import WavLpddr.BufferHistory
import WavLpddr.FreshPackets
import WavLpddr.PacketAccounting
import WavLpddr.DramCycles
import WavLpddr.SequencePhases
import WavLpddr.CompleteSequences
import WavLpddr.ReadSchedule
import WavLpddr.WriteFifo
import WavLpddr.CbtTiming
import WavLpddr.PacketTimes
import WavLpddr.TimestampOrder
import WavLpddr.MrwRatio
import WavLpddr.CommandDecode
import WavLpddr.GroupPlacement
import WavLpddr.RxPacket
import WavLpddr.IngressFifo
import WavLpddr.EgressFifo
import WavLpddr.ZqcalSearch
import WavLpddr.SenseAmpSearch
import WavLpddr.HostResponses
import WavLpddr.Lib.Layout
import WavLpddr.PacketFormat
import WavLpddr.SentPackets
import WavLpddr.DramDevice
import WavLpddr.DramScripts
import WavLpddr.Mr13Shadow
import WavLpddr.BootVco
import WavLpddr.DramFollows
import WavLpddr.Lib.Mailbox
import WavLpddr.Protocol
import WavLpddr.ServiceLog
import WavLpddr.ServiceRuns
import WavLpddr.Lib.Quiescence
import WavLpddr.Progress
import WavLpddr.ImpedanceUpdate
import WavLpddr.BankContents
import WavLpddr.BootBank
import WavLpddr.BankFollows
import WavLpddr.VcoSettings
import WavLpddr.FrequencyPlan
import WavLpddr.DramMirror
