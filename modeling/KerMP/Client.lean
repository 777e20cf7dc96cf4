/-
The client sidecar (`ClientRuntime` of `kermp/runtime.py`, `KerMPClient.send` and `listen` of `kermp/net.py`).

Its handlers are programs over the state `Client`, suspended where a send to the host is drained. Envelopes from the
host are handled one at a time (`listen`); events of the game and `mark_local_zone_loaded` calls come in between. The
while loop of `_flush_build` is run one iteration at a time: an iteration that ends puts its loop back in `flushes`,
and the event `flush` goes on with it, which is the same as draining later.

`log`, newest first, records the sends to the game and to the host, and as notes a captured build operation, an accepted
travel proposal and the end of a view batch of the current epoch.
-/
import KerMP.Lib.Coro
import KerMP.Protocol
import KerMP.SaveSync

namespace KerMP

open Py Coop
open Coro hiding pure get modify

namespace Client

inductive Out where
  | bridge (delivered : Bool) (type : MessageType) (payload : Json)
  | sent (env : Envelope)
  /-- the game hands in a build operation -/
  | captured (payload : Json)
  /-- a proposal with a newer epoch is taken up -/
  | proposed (epoch : ℤ)
  /-- the view batch of the current epoch has ended -/
  | batchEnd (epoch : ℤ)
deriving DecidableEq

/-- the loop over envelopes of the host -/
inductive Listen where
  | idle
  | busy
  | dead
deriving DecidableEq

/-- who runs a `_flush_build` loop -/
inductive Flush where
  | net
  | game
deriving DecidableEq

/-- a buffered view update: the fields of its payload -/
abbrev Item := List (String × Json)

end Client

open Client in
structure Client where
  playerId : String
  pendingBuild : List Json
  ownsBuildLock : Bool
  viewUpdatesReceived : ℕ
  lastViewUpdateSize : ℕ
  lastViewUpdateMsgId : Option ℤ
  lastGameSequence : ℤ
  travelEpoch : ℤ
  bufferViewUpdates : Bool
  bufferedViewUpdates : List Item
  maxBufferedViewUpdates : ℕ
  travelBatchComplete : Bool
  localZoneLoaded : Bool
  saveReceiver : Option SaveReceiver
  disk : Disk
  listening : Listen
  flushes : List Flush
  uuids : ℕ
  log : List Out

namespace Client

/-- the environment's answer: did it succeed, and the time of day -/
structure Answer where
  ok : Bool
  seconds : ℕ
deriving DecidableEq, Repr

instance : Inhabited Answer := ⟨⟨true, 0⟩⟩

abbrev ClientM := Coro Client Answer Exc

/-- a client that has just connected -/
def init (playerId : String) (disk : Disk) : Client where
  playerId
  pendingBuild := []
  ownsBuildLock := false
  viewUpdatesReceived := 0
  lastViewUpdateSize := 0
  lastViewUpdateMsgId := none
  lastGameSequence := 0
  travelEpoch := 0
  bufferViewUpdates := false
  bufferedViewUpdates := []
  maxBufferedViewUpdates := 256
  travelBatchComplete := false
  localZoneLoaded := false
  saveReceiver := none
  disk
  listening := .idle
  flushes := []
  uuids := 0
  log := []

def note (c : Client) (o : Out) : Client := { c with log := o :: c.log }

/-! ## Sends -/

def bridgeSend (type : MessageType) (payload : Json) : ClientM Unit := do
  let a ← askEnv
  Coro.modify fun c => c.note (.bridge a.ok type payload)

def sidecarError (reason : String) : ClientM Unit := bridgeSend .sidecarError (.obj [("reason", .str reason)])

/-- `KerMPClient.send`, up to its drain -/
def posted (c : Client) (type : MessageType) (payload : Json) : Client :=
  { c with uuids := c.uuids + 1 }.note (.sent (Envelope.make type (payload.or (.obj [])) c.playerId none (uuid4 c.uuids)))

/-- `await self.client.send(...)` -/
def send (type : MessageType) (payload : Json) : ClientM Unit := do
  Coro.modify fun c => c.posted type payload
  let a ← suspend
  if a.ok then pure () else .raise (.osError "Connection lost")

def intField (payload : Json) (key : String) (dflt : ℤ) : Except Exc ℤ := do (← payload.getD key (.int dflt)).toInt

/-! ## View updates -/

/-- the key of `sorted(..., key=lambda item: int(item.get('sequence', 0)))`; what is buffered has an int there -/
def itemSequence (item : Item) : ℤ :=
  match (Json.field item "sequence" (.int 0)).toInt with
  | .ok n => n
  | .error _ => 0

def sortItems (items : List Item) : List Item := items.mergeSort fun a b => itemSequence a ≤ itemSequence b

/-- `_apply_game_message`: raises before the send when the payload has no id -/
def applyGameMessage (payload : Json) : ClientM Unit := do
  let raw ← ofExcept (do Base64.b64decode (← payload.item "payload_b64").toStr)
  Coro.modify fun c => { c with viewUpdatesReceived := c.viewUpdatesReceived + 1, lastViewUpdateSize := raw.length }
  let msgId ← ofExcept (do (← payload.item "msg_id").toInt)
  Coro.modify fun c => { c with lastViewUpdateMsgId := some msgId }
  bridgeSend .gameRawMessage payload

def applyAll : List Item → ClientM Unit
  | [] => pure ()
  | item :: rest => do
    applyGameMessage (.obj item)
    applyAll rest

/-- hand out what is buffered and stop buffering (`_finish_local_travel`, and the same in `travel.resume`) -/
def finishLocalTravel : ClientM Unit := do
  let c ← Coro.get
  applyAll (sortItems c.bufferedViewUpdates)
  Coro.modify fun c => { c with bufferedViewUpdates := [], bufferViewUpdates := false }

/-- the checks on the text of a raw message -/
def checkRaw (payload : Json) : Except Exc Unit := do
  let raw ← Base64.b64decode (← payload.item "payload_b64").toStr
  require (raw.length ≤ MAX_GAME_MESSAGE_BYTES) (.valueError "payload_too_large")

/-- why a raw message of this epoch is refused, if it is -/
def epochRefusal (c : Client) (epoch : Json) : Except Exc (Option String) :=
  if c.travelEpoch ≠ 0 ∧ epoch = .null then .ok (some "missing_travel_epoch")
  else if epoch ≠ .null ∧ c.travelEpoch ≠ 0 then do
    let e ← epoch.toInt
    return if e ≠ c.travelEpoch then some "stale_travel_epoch" else none
  else .ok none

def setLastSequence (n : ℤ) : ClientM Unit := Coro.modify fun c => { c with lastGameSequence := n }

def bufferItem (item : Item) : ClientM Unit :=
  Coro.modify fun c => { c with bufferedViewUpdates := sortItems (c.bufferedViewUpdates ++ [item]) }

/-- a raw message of an acceptable epoch -/
def takeRaw (sequence : ℤ) (payload : Json) : ClientM Unit := do
  setLastSequence sequence
  let c ← Coro.get
  if c.bufferViewUpdates then
    if c.maxBufferedViewUpdates ≤ c.bufferedViewUpdates.length then sidecarError "view_update_buffer_full"
    else do
      let item ← ofExcept payload.toDict
      bufferItem item
  else applyGameMessage payload

def onRawMessage (payload : Json) : ClientM Unit := do
  let sequence ← ofExcept (intField payload "sequence" 0)
  let c ← Coro.get
  if sequence ≤ c.lastGameSequence then pure ()
  else
    match checkRaw payload with
    | .error exc => sidecarError ("raw_message_invalid:" ++ exc.str)
    | .ok _ => do
      let epoch ← ofExcept (payload.get "epoch")
      let refusal ← ofExcept (c.epochRefusal epoch)
      match refusal with
      | some reason => sidecarError reason
      | none => takeRaw sequence payload

def beginBatch : ClientM Unit :=
  Coro.modify fun c => { c with bufferViewUpdates := true, travelBatchComplete := false, bufferedViewUpdates := [] }

def endBatch : ClientM Unit := do
  Coro.modify fun c => { c with travelBatchComplete := true }.note (.batchEnd c.travelEpoch)
  let c ← Coro.get
  if c.localZoneLoaded then finishLocalTravel else pure ()

def onViewBatch (payload : Json) : ClientM Unit := do
  let epoch ← ofExcept (intField payload "epoch" (-1))
  let c ← Coro.get
  if epoch ≠ c.travelEpoch then sidecarError "stale_travel_epoch"
  else do
    let kind ← ofExcept (payload.getD "kind" (.str ""))
    let kind := kind.toStr.toLower
    if kind = "begin" then beginBatch
    else if kind = "end" then endBatch
    else pure ()
    bridgeSend .travelViewBatch payload

/-- the state after an accepted proposal -/
def propose (epoch : ℤ) : ClientM Unit :=
  Coro.modify fun c =>
    { c with travelEpoch := epoch, localZoneLoaded := false, travelBatchComplete := false, bufferViewUpdates := true,
             bufferedViewUpdates := [] }.note (.proposed epoch)

def onPropose (payload : Json) : ClientM Unit := do
  let incoming ← ofExcept (intField payload "epoch" 0)
  let c ← Coro.get
  if incoming ≤ c.travelEpoch then pure ()
  else do
    propose incoming
    bridgeSend .travelPrepare payload

def onResume (payload : Json) : ClientM Unit := do
  let epoch ← ofExcept (intField payload "epoch" (-1))
  let c ← Coro.get
  if epoch = c.travelEpoch ∧ c.travelBatchComplete = true then finishLocalTravel else pure ()
  bridgeSend .travelResume payload

/-- `mark_local_zone_loaded` -/
def markLocalZoneLoaded (epoch : ℤ) : ClientM Unit := do
  let c ← Coro.get
  if epoch ≠ c.travelEpoch then pure ()
  else do
    Coro.modify fun c => { c with localZoneLoaded := true }
    if c.travelBatchComplete then finishLocalTravel else pure ()

/-! ## Build operations -/

def setListening (l : Listen) : ClientM Unit := Coro.modify fun c => { c with listening := l }

/-- what comes after a `_flush_build` loop: the envelope is handled, or the game's event is -/
def flushDone : Flush → ClientM Unit
  | .net => setListening .idle
  | .game => pure ()

def again (f : Flush) : ClientM Unit := Coro.modify fun c => { c with flushes := f :: c.flushes }

def setPending (l : List Json) : ClientM Unit := Coro.modify fun c => { c with pendingBuild := l }

/-- one iteration of the loop, up to the next test of its condition -/
def flushBuild (f : Flush) : ClientM Unit := do
  let c ← Coro.get
  match c.pendingBuild with
  | payload :: rest =>
    if c.ownsBuildLock then do
      setPending rest
      send .buildOperation payload
      again f
    else flushDone f
  | [] => flushDone f

def setOwnsBuildLock (b : Bool) : ClientM Unit := Coro.modify fun c => { c with ownsBuildLock := b }

/-- answers whether the queue is to be flushed -/
def onLockState (payload : Json) : ClientM Bool := do
  let c ← Coro.get
  let owner ← ofExcept (payload.get "owner_id")
  let owns := owner.pyEq (.str c.playerId)
  setOwnsBuildLock owns
  bridgeSend .buildLockState payload
  pure owns

/-! ## Saves -/

def setSave (r : Option SaveReceiver) : ClientM Unit := Coro.modify fun c => { c with saveReceiver := r }

/-- a call on the disk that raises before it changes anything -/
def onDisk {α : Type} (f : Disk → Except Exc (α × Disk)) : ClientM α :=
  tryCall fun c =>
    match f c.disk with
    | .ok (a, d) => (.ok a, { c with disk := d })
    | .error e => (.error e, c)

def saveProgress (r : SaveReceiver) : ClientM Unit :=
  send .readiness (.obj [("save_total_bytes", .int r.total), ("save_bytes_received", .int r.received)])

def saveFailed (exc : Exc) : ClientM Unit := send .saveError (.obj [("reason", .str exc.str)])

/-- the transfer under way, or the error for a message that needs one -/
def activeSave : ClientM SaveReceiver := do
  let c ← Coro.get
  match c.saveReceiver with
  | some r => pure r
  | none => .raise (.valueError "save_transfer_not_started")

def onSaveManifest (payload : Json) : ClientM Unit := do
  let r ← (do
    let r ← onDisk (SaveReceiver.create payload)
    setSave (some r)
    saveProgress r : ClientM Unit).attempt
  match r with
  | .ok _ => pure ()
  | .error e => if e.isValueError then saveFailed e else .raise e

def onSaveChunk (payload : Json) : ClientM Unit := do
  let r ← (do
    let r ← activeSave
    let data ← ofExcept (do Base64.b64decode (← payload.getD "payload_b64" (.str "")).toStr)
    let index ← ofExcept (intField payload "index" (-1))
    let r ← onDisk fun d => r.writeChunk d index data
    setSave (some r)
    saveProgress r : ClientM Unit).attempt
  match r with
  | .ok _ => pure ()
  | .error e => do
    Coro.modify fun c => { c with disk := match c.saveReceiver with | some r => r.abort c.disk | none => c.disk }
    saveFailed e

def pathJson (p : SavePath) : Json := .str ("/".intercalate p)

def onSaveEnd (sha256 : Base64.Bytes → String) (payload : Json) : ClientM Unit :=
  andFinally
    (do
      let a ← askEnv
      let done ← (do
        let r ← activeSave
        let sessionId ← ofExcept (payload.get "session_id")
        let backup ← tryCall fun c =>
          let f := r.finalize sha256 c.disk (sessionId.or (.str "unknown")).toStr a.seconds
          (f.1, { c with disk := f.2 })
        send .saveAck (.obj [("slot_id", .str r.slotId), ("sha256", .str r.expectedHash), ("total_bytes", .int r.total),
          ("path", pathJson r.finalPath), ("backup_created", .bool backup.isSome)]) : ClientM Unit).attempt
      match done with
      | .ok _ => pure ()
      | .error e => saveFailed e)
    (setSave none)

/-! ## Events -/

inductive Event where
  /-- a line of the host, decoded or not -/
  | net (env : Except Exc Envelope)
  | game (event : BridgeEvent)
  /-- a call of `mark_local_zone_loaded` -/
  | zoneLoaded (epoch : ℤ)
  /-- go on with a `_flush_build` loop -/
  | flush (f : Flush)

/-- `_on_network_message`; answers whether a `_flush_build` follows -/
def onNetworkMessage (sha256 : Base64.Bytes → String) (env : Envelope) : ClientM Bool := do
  match env.type with
  | .saveManifest => onSaveManifest env.payload; pure false
  | .saveChunk => onSaveChunk env.payload; pure false
  | .saveEnd => onSaveEnd sha256 env.payload; pure false
  | .gameRawMessage => onRawMessage env.payload; pure false
  | .travelViewBatch => onViewBatch env.payload; pure false
  | .travelPropose => onPropose env.payload; pure false
  | .travelResume => onResume env.payload; pure false
  | .travelCommit | .travelAbort => bridgeSend env.type env.payload; pure false
  | .buildLockState => onLockState env.payload
  | .buildApply | .clockState | .simState | .simSelectionState | .interactionAccepted | .interactionRejected
  | .interactionCommandAccepted | .interactionCommandRejected | .interactionQueued | .interactionStarted
  | .interactionFinished | .interactionCancel => bridgeSend env.type env.payload; pure false
  | .error => bridgeSend .sidecarError env.payload; pure false
  | _ => pure false

/-- one turn of `listen`: what is raised ends it -/
def listen (sha256 : Base64.Bytes → String) (r : Except Exc Envelope) : ClientM Unit := do
  setListening .busy
  let flush ← (do
    let env ← ofExcept r
    let flush ← onNetworkMessage sha256 env
    if flush then flushBuild .net else setListening .idle : ClientM Unit).attempt
  match flush with
  | .ok _ => pure ()
  | .error _ => setListening .dead

def sidecarWelcome (playerId : String) : Json :=
  .obj [("role", .str "client"), ("player_id", .str playerId), ("protocol_version", .int 1)]

def sendReadiness (authority : Bool) : ClientM Unit :=
  send .readiness (.obj [("bridge_connected", .bool true), ("simulation_authority_ready", .bool authority)])

def onSims (payload : Json) : ClientM Unit := do
  let sims ← ofExcept (do ((← payload.get "sims").or (.arr [])).iter)
  send .simState (.obj [("sims", .arr sims)])
  let active ← ofExcept (payload.get "active_sim_id")
  if active == .null || active.pyEq (.str "") || active.pyEq (.int 0) || active.pyEq (.str "0") then pure ()
  else send .simSelect (.obj [("sim_id", .str active.toStr), ("local", .bool true)])

def onBuildOperation (payload : Json) : ClientM Unit := do
  Coro.modify fun c => { c with pendingBuild := c.pendingBuild ++ [payload] }.note (.captured payload)
  let c ← Coro.get
  if c.ownsBuildLock then flushBuild .game else send .buildLockRequest (.obj [])

/-- `_on_game_event` -/
def onGameEvent (event : BridgeEvent) : ClientM Unit := do
  match event.type with
  | .gameHello => do
    let c ← Coro.get
    bridgeSend .sidecarWelcome (sidecarWelcome c.playerId)
    sendReadiness false
  | .simulationAuthority => do
    let status ← ofExcept (event.payload.or (.obj [])).toDict
    let role := Json.field status "role" .null
    sendReadiness (role.pyEq (.str "client") && (Json.field status "installed" .null).truthy)
  | .clockRequestSpeed | .clockRequestPause | .travelRequest | .simSelect | .interactionRequest | .interactionCommand
  | .interactionCancel | .travelReady | .travelZoneReady => send event.type event.payload
  | .simsState | .simState => onSims event.payload
  | .buildOperation => onBuildOperation event.payload
  | .buildLockRequest => send .buildLockRequest (.obj [])
  | .buildLockRelease => do
    setOwnsBuildLock false
    send .buildLockRelease (.obj [])
  | _ => pure ()

/-- the loop of `f` goes on; what a send raises ends the envelope's handling, or the game event's -/
def resumeFlush (f : Flush) : ClientM Unit := do
  Coro.modify fun c => { c with flushes := c.flushes.erase f }
  let r ← (flushBuild f).attempt
  match r, f with
  | .error _, .net => setListening .dead
  | _, _ => pure ()

def handle (sha256 : Base64.Bytes → String) : Event → ClientM Unit
  | .net r => listen sha256 r
  | .game event => onGameEvent event
  | .zoneLoaded epoch => markLocalZoneLoaded epoch
  | .flush f => resumeFlush f

def enabled (c : Client) : Event → Bool
  | .net _ => c.listening = .idle
  | .flush f => c.flushes.contains f
  | .game _ | .zoneLoaded _ => true

abbrev Run := Pool Client Answer Exc Event

abbrev ClientAct := Act Answer Event

def runFrom (sha256 : Base64.Bytes → String) (c : Run) (acts : List ClientAct) : Run :=
  Pool.run (handle sha256) enabled c acts

end Client

end KerMP
