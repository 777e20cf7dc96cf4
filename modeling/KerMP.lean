import KerMP.Lib.PyValue
import KerMP.BuildSync
import KerMP.Lib.Base64
import KerMP.Lib.Coro
import KerMP.Lib.Dict
import KerMP.Protocol
import KerMP.Travel
import KerMP.Compatibility
import KerMP.Readiness
import KerMP.Routing
import KerMP.Session
import KerMP.Host.State
import KerMP.Host.Runtime
import KerMP.Host.Net
import KerMP.Host.Game
import KerMP.Host.System
import KerMP.Client
import KerMP.ViewUpdates
import KerMP.Host.Steps
import KerMP.Host.Handlers
import KerMP.Host.Pass
import KerMP.Host.Authority
import KerMP.Host.ZoneBarrier
import KerMP.Host.Handshake
import KerMP.Controllers
import KerMP.BuildLease
import KerMP.SaveTransfer
import KerMP.Lib.Segment
import KerMP.ClientSteps
import KerMP.SavedSlots
import KerMP.Lib.Dumps
import KerMP.Lines
import KerMP.Host.Outcome
import KerMP.Host.Aborts
import KerMP.Host.ViewBatch
import KerMP.Lib.Observe
import KerMP.Host.Membership
import KerMP.Sequences
import KerMP.Host.Order
import KerMP.BuildStream
import KerMP.Game.BuildAdapter
import KerMP.Host.Broadcast
import KerMP.SessionMembers
import KerMP.Host.Commit
import KerMP.Host.Relay
import KerMP.Host.Heralds
import KerMP.Host.Announced
import KerMP.Host.Stamps
import KerMP.AfterTravel
import KerMP.Game.TravelHooks
import KerMP.Lib.Moments
import KerMP.Host.LockState
import KerMP.Lib.Double
import KerMP.Lib.Loads
import KerMP.Lib.RoundTrip
import KerMP.WireEnvelopes
import KerMP.Cancellation
import KerMP.CoreReadiness
import KerMP.BuildData
import KerMP.Host.GameClock
import KerMP.Host.Heard
import KerMP.Host.RequestStatus
import KerMP.PendingBuild
import KerMP.Lib.PosixPath
import KerMP.SavePaths
import KerMP.SaveBackups
import KerMP.Host.BuildRefusal
import KerMP.Host.TravelRequest
import KerMP.LeaseId
import KerMP.AbortedSave
import KerMP.Lib.Prefixes
import KerMP.PartialFiles
import KerMP.EnvelopeShape
import KerMP.LocalBridge
import KerMP.Game.SimsBuildAdapter
import KerMP.Game.Definitions
import KerMP.Game.Deliveries
import KerMP.Host.OwnReadiness
import KerMP.DialogHistory
import KerMP.Reconnect
import KerMP.Game.ContourDelta
import KerMP.Lib.Tally
import KerMP.Game.ViewFilter
import KerMP.Lib.Cells
import KerMP.Game.Transportable
import KerMP.Game.ActiveSim
import KerMP.Game.CancelRequest
import KerMP.Game.NativeCommands
import KerMP.Game.CommandProxy
import KerMP.Game.TracePatches
import KerMP.Lib.Deque
import KerMP.CaptureQueue
import KerMP.Lib.Streams
import KerMP.Host.Delivery
import KerMP.Host.Stream
import KerMP.Host.Prompt
import KerMP.Host.Operations
import KerMP.Host.Told
import KerMP.Forwarding
import KerMP.Game.Applied
import KerMP.Replication
import KerMP.Host.Told
import KerMP.Host.Proposals
import KerMP.Attendance
import KerMP.LockAgreement
import KerMP.TravelAgreement
import KerMP.ViewReplication
