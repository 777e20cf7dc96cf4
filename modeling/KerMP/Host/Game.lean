/-
Events of the host's own game (`HostRuntime._on_game_event` of `kermp/runtime.py`): one definition for each kind of
event, and `onGameEvent` that chooses.
-/
import KerMP.Lib.Base64
import KerMP.Host.Net

namespace KerMP.Host

open Py Coop
open Coro hiding pure get modify
open Travel (TravelTxn TravelCoordinator)

def hostId : HostM String := do
  let h ← Coro.get
  pure h.playerId

/-- the host's own readiness changed: tell the peers -/
def announceHostReadiness (readiness : PlayerReadiness) : HostM Unit := do
  let me ← hostId
  let payload ← ofExcept (readinessPayload me readiness)
  broadcastPeers .readiness (.val payload)

def gameHello : HostM Unit := do
  let me ← hostId
  let readiness ← updateReadiness me [("bridge_connected", .bool true)]
  forward .sidecarWelcome (.val (.obj [("role", .str "host"), ("player_id", .str me), ("protocol_version", .int 1)]))
  announceHostReadiness readiness

def gameAuthority : HostM Unit := do
  let me ← hostId
  let readiness ← updateReadiness me [("bridge_connected", .bool true), ("simulation_authority_ready", .bool true)]
  announceHostReadiness readiness

def gameClock (payload : Json) : HostM Unit := do
  let state ← ofExcept (HostSession.dictOrEmpty payload)
  let h ← Coro.get
  let speed ← ofExcept (Json.field state "speed" (.int h.session.clock.speed)).toInt
  if speed ∉ [0, 1, 2, 3] then pure ()
  else do
    let clock ← setClock fun c => ⟨c.sequence + 1, speed, speed = 0⟩
    broadcastPeers .clockState (.val (.obj clock.toJson))

/-- the id and the bytes of a raw message -/
def readRawMessage (payload : Json) : Except Exc (ℤ × Base64.Bytes) := do
  let msgId ← (← payload.item "msg_id").toInt
  let raw ← Base64.b64decode (← payload.item "payload_b64").toStr
  require (raw.length ≤ MAX_GAME_MESSAGE_BYTES) (.valueError "payload_too_large")
  return (msgId, raw)

/-- the epoch a raw message is stamped with: that of a travel under way -/
def activeEpoch (c : TravelCoordinator) : Option ℤ :=
  match c.current with
  | some t => if t.phase.finished then none else some t.epoch
  | none => none

def rawPayload (msgId : ℤ) (sequence : ℕ) (raw : Base64.Bytes) (epoch : Option ℤ) : Json :=
  .obj ([("msg_id", .int msgId), ("sequence", .int sequence), ("payload_b64", .str (Base64.b64encode raw))] ++
    match epoch with
    | some e => [("epoch", .int e)]
    | none => [])

/-- count the message; answers with its sequence number -/
def nextGameSequence (msgId : ℤ) (size : ℕ) : HostM ℕ :=
  call fun h => (h.gameSequence + 1,
    { h with gameSequence := h.gameSequence + 1, viewUpdatesSent := h.viewUpdatesSent + 1,
             lastViewUpdateSize := size, lastViewUpdateMsgId := some msgId })

def gameRawMessage (payload : Json) : HostM Unit := do
  match readRawMessage payload with
  | .error exc => forward .error (.val (.obj [("reason", .str ("raw_message_invalid:" ++ exc.str))]))
  | .ok (msgId, raw) => do
    let sequence ← nextGameSequence msgId raw.length
    let h ← Coro.get
    broadcastPeers .gameRawMessage (.val (rawPayload msgId sequence raw (activeEpoch h.session.travel)))

def setBatchOpen (b : Bool) : HostM Unit := Coro.modify fun h => { h with travelBatchOpen := b }

def gameViewBatch (payload : Json) : HostM Unit := do
  let epoch ← ofExcept (intField payload "epoch" 0)
  let h ← Coro.get
  ifSome h.session.travel.current fun active =>
    if active.epoch ≠ epoch then pure ()
    else do
      let kind ← ofExcept (payload.getD "kind" (.str ""))
      let kind := kind.toStr.toLower
      setBatchOpen (kind = "begin")
      let out := viewBatch active kind
      if kind = "begin" then forward .travelViewBatch (.val out) else pure ()
      broadcastPeers .travelViewBatch (.val out)
      if kind = "end" then forward .travelViewBatch (.val out) else pure ()

def gameSimSelect (payload : Json) : HostM Unit := do
  let me ← hostId
  let state ← (do
    let simId ← ofExcept (payload.get "sim_id")
    selectSim me simId.toStr : HostM Json).attempt
  match state with
  | .ok state => broadcast .simSelectionState (.val state)
  | .error (.valueError m) => forward .error (.val (.obj [("reason", .str m)]))
  | .error e => .raise e

/-- `payload.setdefault(key, v)` -/
def setDefault (fields : List (String × Json)) (key : String) (v : Json) : List (String × Json) :=
  if (fields.lookup key).isSome then fields else Json.setField fields key v

/-- the game refuses to hear a request that did not pass -/
def rejectToGame (type : MessageType) (fields : List (String × Json)) (reason : String) : HostM Unit :=
  forward type (.val (.obj [("request_id", Json.field fields "request_id" .null), ("reason", .str reason)]))

/-- hand the host's own accepted request to its game, then announce it to the peers -/
def announceRequest (type accepted rejected : MessageType) (rid : String) : HostM Unit := do
  let delivered ← bridgeSend type (.request rid)
  if delivered then broadcastPeers accepted (.request rid)
  else do
    let h ← Coro.get
    let failure ← ofExcept (failureOf (h.resolve (.request rid)))
    broadcastPeers rejected (.val failure)

def gameInteractionRequest (payload : Json) : HostM Unit := do
  let me ← hostId
  let fields ← ofExcept payload.toDict
  let fields := setDefault fields "player_id" (.str me)
  let request ← (validateInteraction (Json.field fields "request_id" .null) me fields).attempt
  match request with
  | .ok rid => announceRequest .interactionRequest .interactionAccepted .interactionRejected rid
  | .error (.valueError m) => rejectToGame .interactionRejected fields m
  | .error e => .raise e

def gameInteractionCommand (payload : Json) : HostM Unit := do
  let me ← hostId
  let fields ← ofExcept payload.toDict
  let fields := setDefault fields "player_id" (.str me)
  let request ← (acceptCommand me (.obj fields)).attempt
  match request with
  | .ok rid => announceRequest .interactionCommand .interactionCommandAccepted .interactionCommandRejected rid
  | .error (.valueError m) | .error (.typeError m) => rejectToGame .interactionCommandRejected fields m
  | .error e => .raise e

def gameInteractionCancel (payload : Json) : HostM Unit := do
  let me ← hostId
  let fields ← ofExcept payload.toDict
  let request ← (do
    let requestId ← cancelTarget (.obj fields)
    cancelInteraction requestId me fields : HostM Json).attempt
  match request with
  | .ok request => do
    forward .interactionCancel (.val request)
    broadcastPeers .interactionCancel (.val request)
  | .error (.valueError m) => rejectToGame .interactionRejected fields m
  | .error e => .raise e

/-- an operation the host's game captured and already applied -/
def gameBuildApply (op : BuildOperation) : Json :=
  .obj [("op_seq", .int op.seq), ("op_id", Json.field op.data "op_id" .null), ("player_id", .str op.playerId),
    ("op", .str op.op), ("data", .obj op.data)]

def refusedGameBuild : Exc → Bool
  | .permissionError _ | .valueError _ | .typeError _ => true
  | _ => false

def submitFromGame (player : String) (payload : Json) : HostM BuildOperation := do
  let op ← ofExcept (payload.get "op")
  let data ← ofExcept (do HostSession.dictOrEmpty (← payload.get "data"))
  submit player op.toStr data

/-- the operation is not echoed to the host's game -/
def gameBuildOperation (payload : Json) : HostM Unit := do
  let me ← hostId
  let granted ← requestLockNoting me fun authority now => [.offered payload authority now]
  if !granted then do
    let owner ← lockOwner
    forward .buildLockState (.val (.obj [("owner_id", owner)]))
  else do
    let op ← (submitFromGame me payload).attempt
    match op with
    | .ok op => broadcastPeers .buildApply (.val (gameBuildApply op))
    | .error e =>
      if refusedGameBuild e then forward .error (.val (.obj [("reason", .str e.str)])) else .raise e

def announceLock (payload : Json) : HostM Unit := do
  forward .buildLockState (.val payload)
  broadcastPeers .buildLockState (.val payload)

def gameBuildLockRequest : HostM Unit := do
  let me ← hostId
  let granted ← requestLock me
  let owner ← lockOwner
  announceLock (.obj [("owner_id", owner), ("granted_to", if granted then .str me else .null)])

def gameBuildLockRelease : HostM Unit := do
  let me ← hostId
  let _ ← releaseLock me
  let owner ← lockOwner
  announceLock (.obj [("owner_id", owner)])

def gameSimState (payload : Json) : HostM Unit := do
  let sims ← ofExcept (do (← payload.getD "sims" (.arr [])).iter)
  updateSims sims
  let snapshot ← takeSnapshot
  broadcastPeers .simState (.val snapshot)

/-- `type.rsplit('.', 1)[-1]` -/
def lastWord (type : String) : String := String.ofList ((type.toList.reverse.takeWhile (· ≠ '.')).reverse)

/-- a lifecycle notice of the game: kept with its request, and passed on -/
def gameLifecycle (type : MessageType) (payload : Json) : HostM Unit := do
  let rid ← ofExcept (strField payload "request_id")
  let h ← Coro.get
  if rid ∈ h.session.interactionRequests then do
    setRequestField rid "status" (.str (lastWord type.value))
    let interactionId ← ofExcept (payload.get "interaction_id")
    if interactionId = .null then pure () else setRequestField rid "interaction_id" (.str interactionId.toStr)
  else pure ()
  broadcastPeers type (.val payload)

def onGameEvent (event : BridgeEvent) : HostM Unit :=
  match event.type with
  | .gameHello => gameHello
  | .simulationAuthority => gameAuthority
  | .clockState => gameClock event.payload
  | .gameRawMessage => gameRawMessage event.payload
  | .travelViewBatch => gameViewBatch event.payload
  | .simSelect => gameSimSelect event.payload
  | .interactionRequest => gameInteractionRequest event.payload
  | .interactionCommand => gameInteractionCommand event.payload
  | .interactionCancel => gameInteractionCancel event.payload
  | .travelRequest => do startTravel event.payload (← hostId)
  | .travelReady => do travelReady (← hostId) event.payload
  | .travelZoneReady => do travelZoneReady (← hostId) event.payload
  | .travelAbort => travelAbort event.payload "game_abort"
  | .buildOperation => gameBuildOperation event.payload
  | .buildLockRequest => gameBuildLockRequest
  | .buildLockRelease => gameBuildLockRelease
  | .simsState | .simState => gameSimState event.payload
  | .interactionAccepted | .interactionRejected | .interactionCommandAccepted | .interactionCommandRejected
  | .interactionQueued | .interactionStarted | .interactionFinished => gameLifecycle event.type event.payload
  | _ => pure ()

end KerMP.Host
