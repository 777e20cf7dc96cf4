/-
Client connections of the host (`KerMPHost._dispatch`, `_handle_conn` of `kermp/net.py`).

`dispatch` handles one envelope of an accepted player: one definition for each type it knows, everything else goes to
`onNetworkMessage` as it is (`dispatchOther`). A connection is handled line by line: `handleHello` for its first line,
`handleLine` for every later one, `finish` for the `finally` block that both end in when the connection is over.
-/
import KerMP.Host.Runtime

namespace KerMP.Host

open Py Coop
open Coro hiding pure get modify

/-! ## Dispatch -/

def valueOrKey : Exc → Bool
  | .valueError _ | .keyError _ => true
  | _ => false

/-- `env.payload.items()` filtered by the fields a client may set -/
def allowedFields (payload : Json) : Except Exc (List (String × Json)) :=
  match payload with
  | .obj kvs => .ok (kvs.filter fun p => ["save_bytes_received", "save_total_bytes", "save_hash", "bridge_connected",
      "zone_ready", "simulation_authority_ready", "error"].contains p.1)
  | j => .error (.attributeError ("'" ++ j.typeName ++ "' object has no attribute 'items'"))

/-- `{"player_id": player, **readiness.snapshot()}` -/
def readinessPayload (player : String) (r : PlayerReadiness) : Except Exc Json := do
  return .obj (("player_id", .str player) :: (← r.snapshot))

def dispatchPing (sender : String) (messageId : Json) : HostM Unit :=
  sendPeer sender .pong (.val (.obj [("echo", messageId)])) none

/-- set the fields and tell everybody -/
def announceReadiness (sender : String) (fields : List (String × Json)) : HostM Unit := do
  let readiness ← updateReadiness sender fields
  let payload ← ofExcept (readinessPayload sender readiness)
  broadcast .readiness (.val payload)

def dispatchReadiness (sender : String) (payload : Json) : HostM Unit :=
  catching valueOrKey
    (do
      let fields ← ofExcept (allowedFields payload)
      announceReadiness sender fields)
    fun exc => sendError sender exc.str

def dispatchSaveAck (sender : String) (payload : Json) : HostM Unit :=
  catching valueOrKey
    (do
      let hash ← ofExcept (strField payload "sha256")
      let total ← ofExcept (intField payload "total_bytes" 0)
      announceReadiness sender [("save_hash", .str hash), ("save_bytes_received", .int total),
        ("save_total_bytes", .int total)])
    fun exc => sendError sender exc.str

def dispatchSaveError (sender : String) (payload : Json) : HostM Unit := do
  let reason ← ofExcept (payload.getD "reason" (.str "unknown"))
  announceReadiness sender [("error", .str ("save_sync:" ++ reason.toStr))]

def dispatchClockSpeed (sender : String) (payload : Json) : HostM Unit := do
  let speed ← ofExcept (intField payload "speed" 0)
  if speed ∉ [0, 1, 2, 3] then sendError sender "invalid_clock_speed"
  else do
    let clock ← setClock fun c => ⟨c.sequence + 1, speed, speed = 0⟩
    broadcast .clockState (.val (.obj clock.toJson))

def dispatchClockPause (payload : Json) : HostM Unit := do
  let paused ← ofExcept (payload.get "paused")
  let clock ← setClock fun c => ⟨c.sequence + 1, if paused.truthy then 0 else max 1 c.speed, paused.truthy⟩
  broadcast .clockState (.val (.obj clock.toJson))

def dispatchClockResync (sender : String) : HostM Unit := do
  let h ← Coro.get
  sendPeer sender .clockState (.val (.obj h.session.clock.toJson)) none

def dispatchCommandRequest (sender : String) (payload : Json) : HostM Unit :=
  catching Exc.isValueError
    (do
      let family ← ofExcept (payload.get "family")
      let arg ← ofExcept (do HostSession.dictOrEmpty (← payload.get "payload"))
      let requestId ← ofExcept (payload.get "request_id")
      let uuid ← drawUuid
      let result ← dispatchCommand sender family.toStr arg requestId uuid
      broadcast .commandResult (.val result))
    fun exc => sendError sender exc.str

def dispatchDialogResponse (sender : String) (payload : Json) : HostM Unit :=
  catching Exc.isValueError
    (do
      let dialogId ← ofExcept (payload.get "dialog_id")
      let response ← ofExcept (do HostSession.dictOrEmpty (← payload.get "response"))
      let result ← respondDialog sender dialogId.toStr response
      broadcast .dialogResponse (.val result))
    fun exc => sendError sender exc.str

/-- `self.session.snapshot()` -/
def takeSnapshot : HostM Json := do
  let now ← readClock
  let h ← Coro.get
  ofExcept (h.session.snapshot now)

def dispatchSnapshotRequest (sender : String) : HostM Unit := do
  let h ← Coro.get
  ifSome (h.peers.lookup sender) fun _ => do
    let snapshot ← takeSnapshot
    sendPeer sender .snapshot (.val snapshot) (some h.seq)

/-- `build.lock.owner_id if build.lock else None` -/
def lockOwner : HostM Json := do
  let h ← Coro.get
  pure (BuildAuthority.strOrNull h.session.build.ownerId)

def dispatchBuildLockRequest (sender : String) : HostM Unit := do
  let granted ← requestLock sender
  let owner ← lockOwner
  broadcastPeers .buildLockState (.val (.obj [("owner_id", owner),
    ("granted_to", if granted then .str sender else .null)]))

def dispatchSimSelect (sender : String) (payload : Json) : HostM Unit := do
  let state ← (do
    let simId ← ofExcept (payload.get "sim_id")
    selectSim sender simId.toStr : HostM Json).attempt
  match state with
  | .ok state => broadcast .simSelectionState (.val state)
  | .error (.valueError m) => sendError sender m
  | .error e => .raise e

def dispatchSimState (payload : Json) : HostM Unit := do
  let sims ← ofExcept (do ((← payload.get "sims").or (.arr [])).iter)
  updateSims sims
  let snapshot ← takeSnapshot
  broadcast .simState (.val snapshot)

def dispatchInteractionRequest (sender : String) (payload : Json) : HostM Unit := do
  let request ← (do
    let requestId ← ofExcept (payload.get "request_id")
    let fields ← ofExcept payload.toDict
    validateInteraction requestId sender fields : HostM String).attempt
  match request with
  | .ok rid => broadcast .interactionAccepted (.request rid)
  | .error (.valueError m) => sendError sender m
  | .error e => .raise e

/-- check a native command and keep it with its request -/
def acceptCommand (player : String) (payload : Json) : HostM String := do
  let command ← ofExcept (do HostSession.dictOrEmpty (← payload.get "command"))
  let requestId ← ofExcept (payload.get "request_id")
  let fields ← ofExcept payload.toDict
  let rid ← validateInteraction requestId player
    (Json.setField fields "affordance_id" (Json.field command "affordance_id" .null))
  setRequestField rid "command" (.obj command)
  pure rid

def dispatchInteractionCommand (sender : String) (payload : Json) : HostM Unit := do
  let request ← (acceptCommand sender payload).attempt
  match request with
  | .ok rid => broadcast .interactionCommandAccepted (.request rid)
  | .error (.valueError m) | .error (.typeError m) => sendError sender m
  | .error e => .raise e

/-- the request to cancel: by its own id, else the one with the payload's interaction id -/
def cancelTarget (payload : Json) : HostM Json := do
  let requestId ← ofExcept (payload.get "request_id")
  let interactionId ← ofExcept (payload.get "interaction_id")
  let h ← Coro.get
  pure (if !requestId.truthy && interactionId.truthy then h.session.requestOfInteraction interactionId else requestId)

def dispatchInteractionCancel (sender : String) (payload : Json) : HostM Unit := do
  let request ← (do
    let requestId ← cancelTarget payload
    let fields ← ofExcept payload.toDict
    cancelInteraction requestId sender fields : HostM Json).attempt
  match request with
  | .ok request => broadcast .interactionCancel (.val request)
  | .error (.valueError m) => sendError sender m
  | .error e => .raise e

def dispatchBuildLockRelease (sender : String) : HostM Unit := do
  let _ ← releaseLock sender
  broadcastPeers .buildLockState (.val (.obj [("owner_id", .null)]))

def refusedBuild : Exc → Bool
  | .permissionError _ | .keyError _ | .typeError _ => true
  | _ => false

def buildApply (op : BuildOperation) : Json :=
  .obj [("op_seq", .int op.seq), ("player_id", .str op.playerId), ("op", .str op.op), ("data", .obj op.data)]

def submitFrom (player : String) (payload : Json) : HostM BuildOperation := do
  let op ← ofExcept (payload.item "op")
  let data ← ofExcept (do (← payload.getD "data" (.obj [])).toDict)
  submit player op.toStr data

/-- a ValueError of the validation is not caught here: it ends the connection -/
def dispatchBuildOperation (sender : String) (payload : Json) : HostM Unit := do
  let op ← (submitFrom sender payload).attempt
  match op with
  | .ok op => broadcast .buildApply (.val (buildApply op))
  | .error e => if refusedBuild e then sendError sender e.str else .raise e

/-- `on_message`: the envelope goes to the runtime as it came -/
def dispatchOther (sender : String) (type : MessageType) (payload : Json) : HostM Unit := do
  emit (.passed sender type payload)
  onNetworkMessage type (.val payload) sender

/-- `_dispatch` -/
def dispatch (env : Envelope) : HostM Unit :=
  match env.type with
  | .ping => dispatchPing env.senderId env.messageId
  | .readiness => dispatchReadiness env.senderId env.payload
  | .saveAck => dispatchSaveAck env.senderId env.payload
  | .saveError => dispatchSaveError env.senderId env.payload
  | .clockRequestSpeed => dispatchClockSpeed env.senderId env.payload
  | .clockRequestPause => dispatchClockPause env.payload
  | .clockResync => dispatchClockResync env.senderId
  | .commandRequest => dispatchCommandRequest env.senderId env.payload
  | .dialogResponse => dispatchDialogResponse env.senderId env.payload
  | .snapshotRequest => dispatchSnapshotRequest env.senderId
  | .buildLockRequest => dispatchBuildLockRequest env.senderId
  | .simSelect => dispatchSimSelect env.senderId env.payload
  | .simState => dispatchSimState env.payload
  | .interactionRequest => dispatchInteractionRequest env.senderId env.payload
  | .interactionCommand => dispatchInteractionCommand env.senderId env.payload
  | .interactionCancel => dispatchInteractionCancel env.senderId env.payload
  | .buildLockRelease => dispatchBuildLockRelease env.senderId
  | .buildOperation => dispatchBuildOperation env.senderId env.payload
  | type => dispatchOther env.senderId type env.payload

/-! ## Connections -/

/-- what a connection's reader yields: a line, decoded or not, or the end of the stream -/
inductive Recv where
  | line (env : Except Exc Envelope)
  | eof

/-- the `finally` block: by player id, if a hello gave one -/
def finish (conn : ℕ) (player : Option String) : HostM Unit := do
  ifSome player fun player => if player = "" then pure () else drop player
  closeWriter conn
  setStage conn .ended

/-- write an error to the connection itself, which has no peer -/
def refuse (conn : ℕ) (player reason : String) : HostM Unit := do
  let messageId ← drawUuid
  write player conn .error (.val (.obj [("reason", .str reason)])) none messageId
  drain

/-- `CompatibilityManifest.from_dict(...)`, which must name the player -/
def readManifest (player : String) (payload : Json) : Except Exc CompatibilityManifest := do
  let fields ← HostSession.dictOrEmpty (← payload.get "manifest")
  let manifest ← CompatibilityManifest.fromDict fields
  if manifest.playerId.pyEq (.str player) then return manifest
  else .error (.valueError "manifest_player_id_mismatch")

def welcomePayload (h : Host) (now : ℕ) (player : String) : Except Exc Json := do
  let snapshot ← h.session.snapshot now
  let reasons ← ((h.session.players.lookup player).elim (Json.arr []) fun p => p.readiness.compatibilityReasons).iter
  return .obj [("session_name", .str h.session.sessionName), ("session_id", .str h.session.sessionId),
    ("host_id", .str h.playerId), ("players", .arr (h.session.players.values.map fun p => .str p.displayName)),
    ("snapshot", snapshot), ("host_manifest", h.manifest.toDict),
    ("compatibility_reasons", .arr reasons)]

def welcome (conn : ℕ) (player : String) : HostM Unit := do
  let now ← readClock
  let h ← Coro.get
  let payload ← ofExcept (welcomePayload h now player)
  let messageId ← drawUuid
  write player conn .welcome (.val payload) none messageId
  drain

/-- the try block up to the loop over lines; answers whether the player was accepted -/
def greet (conn : ℕ) (hello : Envelope) : HostM Bool := do
  let player := hello.senderId
  let name ← ofExcept (do return (((← hello.payload.get "display_name").or (.str "Player")).toStr))
  let h ← Coro.get
  if player ∈ h.peers ∨ player = h.playerId then do
    refuse conn player "duplicate_player_id"
    pure false
  else
    match readManifest player hello.payload with
    | .error (.valueError m) | .error (.typeError m) => do
      refuse conn player ("invalid_manifest:" ++ m)
      pure false
    | .error e => .raise e
    | .ok manifest => do
      join player name manifest conn
      welcome conn player
      pure true

/-- the sender id of a hello -/
def helloPlayer : Recv → Option String
  | .line (.ok hello) => if hello.type = .hello then some hello.senderId else none
  | _ => none

/-- the first message must be a hello -/
def firstMessage (conn : ℕ) : Recv → HostM Bool
  | .line (.ok hello) => if hello.type = .hello then greet conn hello else pure false
  | _ => pure false

/-- the first line of a connection; whatever is raised, the `finally` block runs -/
def handleHello (conn : ℕ) (r : Recv) : HostM Unit := do
  setStage conn .busy
  let accepted ← (firstMessage conn r).attempt
  match accepted, helloPlayer r with
  | .ok true, some player => setStage conn (.idle player)
  | _, player => finish conn player

/-- `env.seq is not None and env.seq <= peer.last_seq` -/
def staleSeq (seq lastSeq : Json) : Except Exc Bool := if seq = .null then .ok false else seq.pyLe lastSeq

def handleEnvelope (player : String) (env : Envelope) : HostM Unit := do
  if env.senderId ≠ player then sendError player "sender_id_mismatch"
  else do
    let h ← Coro.get
    match h.peers.lookup player with
    | none => dispatch env
    | some peer => do
      let stale ← ofExcept (staleSeq env.seq peer.lastSeq)
      if stale then pure ()
      else do
        if env.seq = .null then pure () else setLastSeq player env.seq
        dispatch env

/-- a later line of an accepted player's connection -/
def handleLine (conn : ℕ) (player : String) (r : Recv) : HostM Unit := do
  setStage conn .busy
  match r with
  | .line (.ok env) => do
    let handled ← (handleEnvelope player env).attempt
    match handled with
    | .ok _ => setStage conn (.idle player)
    | .error _ => finish conn (some player)
  | _ => finish conn (some player)

end KerMP.Host
