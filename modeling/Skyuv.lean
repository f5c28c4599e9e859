import Skyuv.Lib.TransitionSystem
import Skyuv.Lib.Trace
import Skyuv.Lib.Ledger
import Skyuv.Lib.LinkedQueue
import Skyuv.Lib.Custody
import Skyuv.Lib.LockTable
import Skyuv.Socket.Types
import Skyuv.Socket.SocketId
import Skyuv.Socket.SlotTable
import Skyuv.Socket.Entry
import Skyuv.Socket.Handlers
import Skyuv.Socket.Runtime
import Skyuv.Socket.Life
import Skyuv.Socket.Simulation
import Skyuv.Socket.Outcome
import Skyuv.Socket.Invariant
import Skyuv.Socket.Steps
import Skyuv.Socket.Calls
import Skyuv.Socket.UdpDial
import Skyuv.Socket.CloseOnce
import Skyuv.Socket.Ending
import Skyuv.Socket.Terminal
import Skyuv.Socket.AfterClose
import Skyuv.Socket.WriteOrder
import Skyuv.Socket.Drain
import Skyuv.Socket.Buffers
import Skyuv.Socket.Lifetime
import Skyuv.Socket.Shutdown
import Skyuv.Socket.Exit
import Skyuv.Socket.Accept
import Skyuv.Socket.Info
import Skyuv.Socket.ReadGating
import Skyuv.Socket.Backpressure
import Skyuv.Socket.CommandQueue
import Skyuv.Socket.Server
import Skyuv.Socket.EventQueue
import Skyuv.Socket.UdpAddress
import Skyuv.Socket.ExternalFd
import Skyuv.Client.Runtime
import Skyuv.Client.Protocol
import Skyuv.Client.Callbacks
import Skyuv.Client.Commands
import Skyuv.Client.Completion
import Skyuv.Client.Stream
import Skyuv.Client.Readiness
import Skyuv.Client.Select
import Skyuv.Client.Handshake
import Skyuv.Platform.Daemon
import Skyuv.Platform.PidCalls
import Skyuv.Platform.PidFile
import Skyuv.Platform.StalePid
import Skyuv.Socket.Reports
import Skyuv.Socket.Tally
import Skyuv.Socket.Traffic
import Skyuv.Socket.SendBuffers
import Skyuv.Client.Ids
import Skyuv.Client.WriteShutdown
import Skyuv.Client.Stdin
import Skyuv.Client.StdinQueue
import Skyuv.Client.StdinLines
import Skyuv.Platform.PidState
import Skyuv.Platform.Mkdir
import Skyuv.Platform.MkdirTree
import Skyuv.Runtime.Config
import Skyuv.Runtime.Include
import Skyuv.Lib.ByteMemory
import Skyuv.Memory.WindowsHeap
import Skyuv.Memory.HeapRuns
import Skyuv.Platform.Clock
import Skyuv.Socket.PumpList
