import ClassicPlatform.Lib.ByteLanes
import ClassicPlatform.Lib.Machine
import ClassicPlatform.Com.Signal
import ClassicPlatform.Com.Counter
import ClassicPlatform.Com.RoundTrip
import ClassicPlatform.Com.Isolation
import ClassicPlatform.CanTp.Types
import ClassicPlatform.CanTp.Transmitter
import ClassicPlatform.CanTp.Receiver
import ClassicPlatform.CanTp.TransmitAccounting
import ClassicPlatform.CanTp.ReceiveBytes
import ClassicPlatform.CanTp.ReceiveSessions
import ClassicPlatform.Lib.Credit
import ClassicPlatform.CanTp.Segmentation
import ClassicPlatform.CanTp.Network
import ClassicPlatform.CanTp.Sending
import ClassicPlatform.CanTp.Receiving
import ClassicPlatform.CanTp.Handshake
import ClassicPlatform.CanTp.BlockAgreement
import ClassicPlatform.CanTp.Transfer
import ClassicPlatform.Lib.SList
import ClassicPlatform.Os.Counters
import ClassicPlatform.Os.Registration
import ClassicPlatform.Lib.Timer
import ClassicPlatform.Os.CounterSteps
import ClassicPlatform.Os.AlarmTiming
import ClassicPlatform.Os.TableTiming
import ClassicPlatform.Os.TableSteps
import ClassicPlatform.Os.TableRestart
import ClassicPlatform.Os.TableSuccession
import ClassicPlatform.Os.Kernel
import ClassicPlatform.Lib.Queue
import ClassicPlatform.Os.KernelSteps
import ClassicPlatform.Os.TaskStates
import ClassicPlatform.Os.Activations
import ClassicPlatform.Os.ResourceStacks
import ClassicPlatform.Os.Preemption
import ClassicPlatform.Os.SchedulingOrder
import ClassicPlatform.Os.PriorityCeiling
import ClassicPlatform.Os.ForcedRelease
import ClassicPlatform.Os.GroupExclusion
import ClassicPlatform.Lib.Sweep
import ClassicPlatform.WdgM.Manager
import ClassicPlatform.WdgM.Cycle
import ClassicPlatform.WdgM.Modes
import ClassicPlatform.WdgM.Violations
import ClassicPlatform.WdgM.ProgramFlow
import ClassicPlatform.WdgM.Escalation
import ClassicPlatform.WdgM.FirstExpired
import ClassicPlatform.Lib.Buffer
import ClassicPlatform.NvM.Types
import ClassicPlatform.NvM.DriveBlock
import ClassicPlatform.NvM.MainFunction
import ClassicPlatform.NvM.Drives
import ClassicPlatform.NvM.Orderly
import ClassicPlatform.NvM.Services
import ClassicPlatform.NvM.OwnData
import ClassicPlatform.NvM.Watching
import ClassicPlatform.NvM.MultiBlock
import ClassicPlatform.NvM.Completion
import ClassicPlatform.NvM.Fulfilment
import ClassicPlatform.NvM.Retries
import ClassicPlatform.NvM.Redundancy
import ClassicPlatform.Lib.Progress
import ClassicPlatform.Lib.Eviction
import ClassicPlatform.Lib.Renumber
import ClassicPlatform.Lib.Slots
import ClassicPlatform.Dem.Types
import ClassicPlatform.Dem.Debounce
import ClassicPlatform.Dem.Indicators
import ClassicPlatform.Dem.Candidates
import ClassicPlatform.Dem.Data
import ClassicPlatform.Dem.Memory
import ClassicPlatform.Dem.Events
import ClassicPlatform.Dem.Unrepeated
import ClassicPlatform.Dem.Replay
import ClassicPlatform.Dem.Displacement
import ClassicPlatform.Dem.Timestamps
import ClassicPlatform.Dem.StatusBits
import ClassicPlatform.SecOC.Module
import ClassicPlatform.SecOC.Processing
import ClassicPlatform.StbM.TimeBase
import ClassicPlatform.E2E.StateMachine
