/-
Broadcasts, travel and the host's half of message handling (`KerMPHost.broadcast`, `_drop`, `_send_error` of
`kermp/net.py`; `HostRuntime._on_network_message`, `_start_travel`, `_travel_ready`, `_travel_zone_ready` of
`kermp/runtime.py`).

A broadcast iterates over the dict of peers and awaits each write. Python raises when the dict's size has changed at
the next step of the iteration; with as many joins as departures it leaves open which entries are still visited, and
here it is the remaining old ones. `broadcastPeers` is `broadcast` with `include_host=False`.

`onNetworkMessage` serves two callers: the host's own broadcasts with `include_host=True`, and every client envelope
that `dispatch` does not handle.
-/
import KerMP.Host.State

namespace KerMP.Host

open Py Coop
open Coro hiding pure get modify
open Travel (TravelTxn)

/-! ## Broadcast -/

/-- `payload or {}` -/
def Payload.orEmpty : Payload → Payload
  | .val j => .val (j.or (.obj []))
  | p => p

/-- what an iteration over the peers does before each step and at its end -/
def checkSize (type : MessageType) (seq size : ℕ) : HostM Unit := do
  let h ← Coro.get
  if h.peers.size = size then pure ()
  else do
    emit (.cut type seq)
    .raise (.runtimeError "dictionary changed size during iteration")

/-- the loop of a broadcast; answers with the peers whose write failed -/
def writeEach (type : MessageType) (payload : Payload) (seq : ℕ) (messageId : String) (size : ℕ) :
    List String → HostM (List String)
  | [] => do
    checkSize type seq size
    return []
  | pid :: rest => do
    checkSize type seq size
    let h ← Coro.get
    match h.peers.lookup pid with
    | none => writeEach type payload seq messageId size rest
    | some peer =>
      write pid peer.conn type payload (some seq) messageId
      let a ← suspend
      let dead ← writeEach type payload seq messageId size rest
      return if a.ok then dead else pid :: dead

/-- `_drop` -/
def drop (player : String) : HostM Unit := do
  let peer ← depart player
  ifSome peer fun peer => closeWriter peer.conn

def dropAll : List String → HostM Unit
  | [] => pure ()
  | pid :: rest => do
    drop pid
    dropAll rest

def broadcastPeers (type : MessageType) (payload : Payload) : HostM Unit := do
  let seq ← nextSeq
  let messageId ← drawUuid
  let h ← Coro.get
  emit (.sending type (h.resolve payload.orEmpty) seq h.session.travel.current)
  let dead ← writeEach type payload.orEmpty seq messageId h.peers.size h.peers.keys
  dropAll dead

/-- write one message to a peer, if it is still there, and wait for the socket -/
def sendPeer (player : String) (type : MessageType) (payload : Payload) (seq : Option ℕ) : HostM Unit := do
  let h ← Coro.get
  ifSome (h.peers.lookup player) fun peer => do
    let messageId ← drawUuid
    write player peer.conn type payload.orEmpty seq messageId
    drain

/-- `_send_error` -/
def sendError (player reason : String) : HostM Unit :=
  sendPeer player .error (.val (.obj [("reason", .str reason)])) none

/-! ## Reading a payload -/

/-- `int(payload.get(key, dflt))` -/
def intField (payload : Json) (key : String) (dflt : ℤ) : Except Exc ℤ := do (← payload.getD key (.int dflt)).toInt

/-- `str(payload.get(key) or "")` -/
def strField (payload : Json) (key : String) : Except Exc String := do return ((← payload.get key).or (.str "")).toStr

/-- `failure = dict(request)`, updated with the reason -/
def failureOf (request : Json) : Except Exc Json := do
  let fields ← request.toDict
  return .obj (Json.setField (Json.setField (Json.setField fields "status" (.str "rejected"))
    "resolve_stage" (.str "host_game_bridge")) "reason" (.str "host_game_bridge_disconnected"))

/-! ## Travel -/

def startTravel (payload : Json) (requestedBy : String) : HostM Unit := do
  let zoneId ← ofExcept (strField payload "zone_id")
  let actors ← ofExcept (do (← payload.getD "actor_ids" (.arr [])).iter)
  if zoneId = "" then pure ()
  else do
    let uuid ← drawUuid
    let txn ← propose zoneId (actors.map Json.toStr) uuid
    let out : Json := .obj [("txn_id", .str txn.txnId), ("epoch", .int txn.epoch), ("zone_id", .str txn.zoneId),
      ("actor_ids", .arr (txn.actorIds.map .str)), ("requested_by", .str requestedBy)]
    let _ ← bridgeSend .travelPrepare (.val out)
    broadcastPeers .travelPropose (.val out)

def viewBatch (txn : TravelTxn) (kind : String) : Json :=
  .obj [("txn_id", .str txn.txnId), ("epoch", .int txn.epoch), ("kind", .str kind)]

def commitPayload (txn : TravelTxn) : Json :=
  .obj [("txn_id", .str txn.txnId), ("epoch", .int txn.epoch), ("zone_id", .str txn.zoneId),
    ("actor_ids", .arr (txn.actorIds.map .str))]

def resumePayload (txnId : String) (epoch : ℤ) : Json := .obj [("txn_id", .str txnId), ("epoch", .int epoch)]

/-- the first barrier is met -/
def announceCommit (txnId : String) : HostM Unit := do
  let h ← Coro.get
  match h.session.travel.current with
  | none => .raise .assertionError
  | some txn => do
    broadcastPeers .travelViewBatch (.val (viewBatch txn "begin"))
    let _ ← bridgeSend .travelViewBatch (.val (viewBatch txn "begin"))
    let _ ← bridgeSend .travelCommit (.val (commitPayload txn))
    broadcastPeers .travelCommit (.val (commitPayload txn))
    beginZoneWait txnId

/-- the second barrier is met -/
def announceResume (txnId : String) (epoch : ℤ) : HostM Unit := do
  let _ ← bridgeSend .travelResume (.val (resumePayload txnId epoch))
  broadcastPeers .travelResume (.val (resumePayload txnId epoch))

/-- an unknown transaction is ignored -/
def unknownTxn : Exc → Bool
  | .keyError _ => true
  | _ => false

def travelReady (player : String) (payload : Json) : HostM Unit := do
  let txnId ← ofExcept (strField payload "txn_id")
  if txnId = "" then pure ()
  else do
    let commit ← catching unknownTxn
      (do
        let epoch ← ofExcept (intField payload "epoch" (-1))
        markReady player txnId epoch)
      fun _ => pure false
    if commit then announceCommit txnId else pure ()

/-- the acknowledgement of a zone, for the current transaction's epoch only; answers with the epoch to resume -/
def acknowledgeZone (player txnId : String) (payload : Json) : HostM (Option ℤ) := do
  let h ← Coro.get
  match h.session.travel.current with
  | none => pure none
  | some expected => do
    let epoch ← ofExcept (intField payload "epoch" (-1))
    if epoch ≠ expected.epoch then pure none
    else do
      emit (.zoneReady player payload (some expected))
      let resume ← markZoneReady player txnId epoch
      pure (if resume then some expected.epoch else none)

def travelZoneReady (player : String) (payload : Json) : HostM Unit := do
  let txnId ← ofExcept (strField payload "txn_id")
  if txnId = "" then pure ()
  else do
    let resume ← catching unknownTxn (acknowledgeZone player txnId payload) fun _ => pure none
    ifSome resume fun epoch => announceResume txnId epoch

/-- `travel.abort` from a game or a participant, with the reason to give when the payload has none -/
def travelAbort (payload : Json) (dfltReason : String) : HostM Unit := do
  let h ← Coro.get
  ifSome h.session.travel.current fun txn => do
    let epoch ← ofExcept (intField payload "epoch" (-1))
    if epoch = txn.epoch then do
      abort txn.txnId
      let reason ← ofExcept (payload.getD "reason" (.str dfltReason))
      broadcastPeers .travelAbort (.val (.obj [("txn_id", .str txn.txnId), ("epoch", .int txn.epoch),
        ("reason", reason)]))
    else pure ()

/-! ## Messages for the host's game -/

/-- `bridge.send` whose answer is not looked at -/
def forward (type : MessageType) (payload : Payload) : HostM Unit := do
  let _ ← bridgeSend type payload

/-- hand an accepted request to the game, and tell the peers if the game is not there -/
def forwardAccepted (type rejected : MessageType) (payload : Payload) : HostM Unit := do
  let delivered ← bridgeSend type payload
  if delivered then pure ()
  else do
    let h ← Coro.get
    let failure ← ofExcept (failureOf (h.resolve payload))
    broadcastPeers rejected (.val failure)

def onNetworkMessage (type : MessageType) (payload : Payload) (sender : String) : HostM Unit := do
  let h ← Coro.get
  match type with
  | .travelRequest => startTravel (h.resolve payload) sender
  | .travelReady => travelReady sender (h.resolve payload)
  | .travelZoneReady => travelZoneReady sender (h.resolve payload)
  | .travelAbort => travelAbort (h.resolve payload) "participant_abort"
  | .clockState => forward .clockState payload
  | .buildApply => forward .buildApply payload
  | .simSelectionState | .simState => forward type payload
  | .interactionAccepted => forwardAccepted .interactionRequest .interactionRejected payload
  | .interactionCommandAccepted => forwardAccepted .interactionCommand .interactionCommandRejected payload
  | .interactionCancel => forward .interactionCancel payload
  | .interactionRejected | .interactionQueued | .interactionStarted | .interactionFinished
  | .interactionCommandRejected | .error => forward type payload
  | _ => pure ()

/-- `broadcast` with `include_host=True` -/
def broadcast (type : MessageType) (payload : Payload) : HostM Unit := do
  broadcastPeers type payload
  let h ← Coro.get
  onNetworkMessage type payload.orEmpty h.playerId

end KerMP.Host
