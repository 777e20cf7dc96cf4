/-
Messages between the sidecars and between a sidecar and its game (`kermp/protocol.py`, `kermp/bridge.py`).

`MessageType` lists the types of the protocol, then the types only the local bridge uses, then every other string: a
peer may send any type. An `Envelope` carries a payload (any JSON value) and the id of its sender; a `BridgeEvent` is
what a game sends to its sidecar. The `sent_at` time of an envelope is read nowhere and left out.
-/
import KerMP.Lib.PyValue

namespace KerMP

open Py

def MAX_GAME_MESSAGE_BYTES : ℕ := 2 * 1024 * 1024

inductive MessageType where
  | hello | welcome | error | ping | pong | ack | compatibility | readiness
  | saveManifest | saveBegin | saveChunk | saveEnd | saveAck | saveError
  | clockState | clockRequestSpeed | clockRequestPause | clockResync
  | commandRequest | commandAccepted | commandRejected | commandResult
  | dialogOpen | dialogResponse | dialogCancel
  | travelRequest | travelPropose | travelReady | travelCommit | travelZoneReady | travelResume | travelAbort
  | travelViewBatch
  | buildLockRequest | buildLockState | buildOperation | buildApply | buildLockRelease
  | buildNativeRequest | buildNativeResult | buildNativeReject
  | snapshotRequest | snapshot | simSelect | simSelectionState | simState
  | interactionRequest | interactionAccepted | interactionRejected | interactionQueued | interactionStarted
  | interactionFinished | interactionCancel
  | interactionCommand | interactionCommandAccepted | interactionCommandRejected
  | gameRawMessage
  /-- types of the local bridge -/
  | gameHello | simulationAuthority | simsState | sidecarWelcome | sidecarError | travelPrepare
  | other (s : String)
deriving DecidableEq, Repr

namespace MessageType

/-- the string on the wire -/
def value : MessageType → String
  | hello => "hello"
  | welcome => "welcome"
  | error => "error"
  | ping => "ping"
  | pong => "pong"
  | ack => "ack"
  | compatibility => "compatibility"
  | readiness => "readiness"
  | saveManifest => "save.manifest"
  | saveBegin => "save.begin"
  | saveChunk => "save.chunk"
  | saveEnd => "save.end"
  | saveAck => "save.ack"
  | saveError => "save.error"
  | clockState => "clock.state"
  | clockRequestSpeed => "clock.request_speed"
  | clockRequestPause => "clock.request_pause"
  | clockResync => "clock.resync"
  | commandRequest => "command.request"
  | commandAccepted => "command.accepted"
  | commandRejected => "command.rejected"
  | commandResult => "command.result"
  | dialogOpen => "dialog.open"
  | dialogResponse => "dialog.response"
  | dialogCancel => "dialog.cancel"
  | travelRequest => "travel.request"
  | travelPropose => "travel.propose"
  | travelReady => "travel.ready"
  | travelCommit => "travel.commit"
  | travelZoneReady => "travel.zone_ready"
  | travelResume => "travel.resume"
  | travelAbort => "travel.abort"
  | travelViewBatch => "travel.view_batch"
  | buildLockRequest => "build.lock_request"
  | buildLockState => "build.lock_state"
  | buildOperation => "build.operation"
  | buildApply => "build.apply"
  | buildLockRelease => "build.lock_release"
  | buildNativeRequest => "build.native.request"
  | buildNativeResult => "build.native.result"
  | buildNativeReject => "build.native.reject"
  | snapshotRequest => "snapshot.request"
  | snapshot => "snapshot"
  | simSelect => "sim.select"
  | simSelectionState => "sim.selection_state"
  | simState => "sim.state"
  | interactionRequest => "interaction.request"
  | interactionAccepted => "interaction.accepted"
  | interactionRejected => "interaction.rejected"
  | interactionQueued => "interaction.queued"
  | interactionStarted => "interaction.started"
  | interactionFinished => "interaction.finished"
  | interactionCancel => "interaction.cancel"
  | interactionCommand => "interaction.command"
  | interactionCommandAccepted => "interaction.command_accepted"
  | interactionCommandRejected => "interaction.command_rejected"
  | gameRawMessage => "game.raw_message"
  | gameHello => "game.hello"
  | simulationAuthority => "simulation.authority"
  | simsState => "sims.state"
  | sidecarWelcome => "sidecar.welcome"
  | sidecarError => "sidecar.error"
  | travelPrepare => "travel.prepare"
  | other s => s

end MessageType

structure Envelope where
  type : MessageType
  payload : Json
  senderId : String
  messageId : Json
  seq : Json
deriving DecidableEq

/-- `Envelope.make`; `messageId` is the uuid it draws -/
def Envelope.make (type : MessageType) (payload : Json) (senderId : String) (seq : Option ℤ) (messageId : String) :
    Envelope :=
  ⟨type, payload, senderId, .str messageId, match seq with | some n => .int n | none => .null⟩

/-- an event from the game to its sidecar, or from the sidecar to its game -/
structure BridgeEvent where
  type : MessageType
  payload : Json
deriving DecidableEq

/-- the n-th uuid a process draws; all are distinct -/
def uuid4 (n : ℕ) : String := String.ofList ('u' :: List.replicate n 'i')

theorem uuid4_inj {m n : ℕ} (h : uuid4 m = uuid4 n) : m = n := by
  have h' := congrArg String.toList h
  simpa [uuid4] using congrArg List.length h'

end KerMP
