import Lorawan.Library.Execution
import Lorawan.Library.Components
import Lorawan.Library.Interleaving
import Lorawan.Library.Concealment
import Lorawan.Library.Registers
import Lorawan.Library.RecordTable
import Lorawan.Library.Registry
import Lorawan.Library.Mailbox
import Lorawan.Library.LinkedList
import Lorawan.Library.RequestBatch
import Lorawan.Library.BitFields
import Lorawan.Library.LinearCongruential
import Lorawan.Library.Truncation
import Lorawan.Library.UnitConversion
import Lorawan.Library.WrappingClock
import Lorawan.Mac
import Lorawan.Configuration.Activation
import Lorawan.Configuration.History
import Lorawan.Sockets.Ports
import Lorawan.Sockets.Api
import Lorawan.Sockets.System
import Lorawan.Sockets.Table
import Lorawan.Sockets.Exclusivity
import Lorawan.Sockets.Identifiers
import Lorawan.Sockets.Owned
import Lorawan.Sockets.OwnershipMap
import Lorawan.Sockets.Registration
import Lorawan.Sockets.FailedBind
import Lorawan.Sockets.IndependentBinds
import Lorawan.Sockets.Preemption
import Lorawan.Sockets.Undisturbed
import Lorawan.Sockets.Contributions
import Lorawan.Sockets.Atomicity
import Lorawan.Sockets.PreemptedBinds
import Lorawan.Sockets.Creation
import Lorawan.Sockets.LinkedSockets
import Lorawan.Sockets.NumberedSockets
import Lorawan.Sockets.Events
import Lorawan.Sockets.Conservation
import Lorawan.Sockets.Integrity
import Lorawan.Sockets.Liveness
import Lorawan.Sockets.ReceiveResult
import Lorawan.Sockets.ReceiveTimeout
import Lorawan.Sockets.Sending
import Lorawan.Multicast.Api
import Lorawan.Multicast.Pool
import Lorawan.Multicast.Keyed
import Lorawan.Multicast.LinkingMac
import Lorawan.Multicast.Ownership
import Lorawan.Multicast.FailedAdd
import Lorawan.Timers.Api
import Lorawan.Timers.OneShot
import Lorawan.Timers.Refinement
import Lorawan.Timers.Independent
import Lorawan.Timers.RunningFlag
import Lorawan.Timers.Delays
import Lorawan.Timers.Units
import Lorawan.Timers.Misuse
import Lorawan.Timers.Deadlines
import Lorawan.Radio.Sx126xBus
import Lorawan.Radio.Sx126xBoard
import Lorawan.Radio.Sx126xFrames
import Lorawan.Radio.Sx126xRefinement
import Lorawan.Radio.Sx126xCommands
import Lorawan.Radio.Sx1276Power
import Lorawan.Radio.Sx1272Power
import Lorawan.Interrupts.Api
import Lorawan.Interrupts.Routing
import Lorawan.Interrupts.RadioLines
import Lorawan.Gpio.Api
import Lorawan.Gpio.Objects
import Lorawan.Radio.AntennaSwitch
import Lorawan.Utilities.Random
import Lorawan.Utilities.Rounding
import Lorawan.Utilities.ReverseCopy
import Lorawan.Board.EventQueue
import Lorawan.Board.Composition
import Lorawan.Application.Threads
import Lorawan.Application.Soundness
import Lorawan.Application.Safety
import Lorawan.Application.Printing
import Lorawan.Application.Startup
