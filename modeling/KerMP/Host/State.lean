/-
The host process: its state, what it does to the outside, and the atomic steps its handlers are made of
(`KerMPHost` of `kermp/net.py`, `HostRuntime` of `kermp/runtime.py`).

A handler is a program `HostM α` over the state `Host`. It is suspended where the source awaits a socket (`drain`,
`waitClosed`); whether a write or a bridge send succeeds, and how far the clock has moved at a reading, is the
environment's answer.

- `log`, newest first, records what the outside sees (bridge sends, writes, closed connections) and, as notes for the
  properties, the decisive moments of a handler: a broadcast starting, its loop over the peers cut short by a changed
  number of peers, a barrier met, an arrival, a departure, an acknowledgement, an operation reaching the build
  authority, a request accepted, an envelope passed on unchecked.
- A validated request is one dict, referenced from the session and from every message about it: a `Payload.request`
  is looked up when the message is written.
-/
import KerMP.Lib.Coro
import KerMP.Session
import KerMP.Protocol

namespace KerMP

open Py Coop
open Coro hiding pure get modify
open Travel (TravelTxn TravelCoordinator TravelPhase)

/-! ## State -/

namespace Host

structure Peer where
  displayName : String
  /-- the connection behind its writer -/
  conn : ℕ
  lastSeq : Json

/-- where the handler of a connection is: waiting for a line of its player, at work, or gone -/
inductive Stage where
  | idle (player : String)
  | busy
  | ended
deriving DecidableEq

/-- a barrier of a travel -/
inductive Barrier where
  | commit
  | resume
deriving DecidableEq, Repr

inductive Out where
  | bridge (delivered : Bool) (type : MessageType) (payload : Json)
  | wrote (player : String) (conn : ℕ) (env : Envelope)
  | closed (conn : ℕ)
  /-- a broadcast starts, with the current transaction of that moment -/
  | sending (type : MessageType) (payload : Json) (seq : ℕ) (travel : Option TravelTxn)
  /-- the loop of a broadcast finds the number of peers changed and raises -/
  | cut (type : MessageType) (seq : ℕ)
  /-- the last acknowledgement of a barrier arrived; the next broadcast takes number `seq` -/
  | met (barrier : Barrier) (epoch : ℤ) (seq : ℕ)
  /-- a player is registered -/
  | joined (player : String) (conn : ℕ)
  /-- a player is removed, with the transaction it leaves -/
  | left (player : String) (travel : Option TravelTxn)
  /-- a zone acknowledgement is handled, with the current transaction of that moment -/
  | zoneReady (player : String) (payload : Json) (travel : Option TravelTxn)
  /-- a client's envelope goes on as it came -/
  | passed (player : String) (type : MessageType) (payload : Json)
  /-- the host's game offers an operation, with the authority and the clock reading that judge its claim to the lock -/
  | offered (payload : Json) (authority : BuildAuthority) (now : ℕ)
  /-- an operation reaches the authority, with the authority and the clock reading that judge it -/
  | captured (player op : String) (data : List (String × Json)) (authority : BuildAuthority) (now : ℕ)
  /-- the lock owner's operation got its number -/
  | sequenced (owner : Option String) (op : BuildOperation)
  | accepted (player : String) (request : InteractionRequest)
deriving DecidableEq

/-- the payload of an outgoing message: a value, or a stored request by reference -/
inductive Payload where
  | val (j : Json)
  | request (rid : String)

end Host

open Host in
structure Host where
  playerId : String
  manifest : CompatibilityManifest
  session : HostSession
  peers : Dict String Peer
  /-- `_seq` -/
  seq : ℕ
  conns : Dict ℕ Stage
  /-- `_game_sequence` -/
  gameSequence : ℕ
  viewUpdatesSent : ℕ
  lastViewUpdateSize : ℕ
  lastViewUpdateMsgId : Option ℤ
  travelBatchOpen : Bool
  now : ℕ
  uuids : ℕ
  log : List Out

namespace Host

/-- the environment's answer: did it succeed, and how much time has passed -/
structure Answer where
  ok : Bool
  elapsed : ℕ
deriving DecidableEq, Repr

instance : Inhabited Answer := ⟨⟨true, 0⟩⟩

abbrev HostM := Coro Host Answer Exc

def note (h : Host) (o : Out) : Host := { h with log := o :: h.log }

def resolve (h : Host) : Payload → Json
  | .val j => j
  | .request rid => .obj ((h.session.interactionRequests.lookup rid).getD [])

/-! ## Atomic steps -/

def emit (o : Out) : HostM Unit := Coro.modify fun h => h.note o

/-- `time.monotonic()` -/
def readClock : HostM ℕ := do
  let a ← askEnv
  call fun h => (h.now + a.elapsed, { h with now := h.now + a.elapsed })

def drawUuid : HostM String := call fun h => (uuid4 h.uuids, { h with uuids := h.uuids + 1 })

/-- `self._seq += 1` -/
def nextSeq : HostM ℕ := call fun h => (h.seq + 1, { h with seq := h.seq + 1 })

/-- `bridge.send` -/
def bridgeSend (type : MessageType) (payload : Payload) : HostM Bool := do
  let a ← askEnv
  call fun h => (a.ok, h.note (.bridge a.ok type (h.resolve payload)))

/-- `writer.write(Envelope(...).to_line())` -/
def write (player : String) (conn : ℕ) (type : MessageType) (payload : Payload) (seq : Option ℕ) (messageId : String) :
    HostM Unit :=
  Coro.modify fun h => h.note (.wrote player conn
    (Envelope.make type (h.resolve payload) h.playerId (seq.map fun n => (n : ℤ)) messageId))

/-- `await writer.drain()` -/
def drain : HostM Unit := do
  let a ← suspend
  if a.ok then pure () else .raise (.osError "Connection lost")

/-- `writer.close()`, then `await writer.wait_closed()` with every exception suppressed -/
def closeWriter (conn : ℕ) : HostM Unit := do
  emit (.closed conn)
  let _ ← suspend

def setStage (conn : ℕ) (stage : Stage) : HostM Unit :=
  Coro.modify fun h => { h with conns := h.conns.setItem conn stage }

/-- a call on the session that leaves players, peers, travel, build and the identity of requests alone -/
def onSession {α : Type} (f : HostSession → Except Exc α × HostSession) : HostM α :=
  tryCall fun h => ((f h.session).1, { h with session := (f h.session).2 })

def updateReadiness (player : String) (fields : List (String × Json)) : HostM PlayerReadiness :=
  onSession fun s => s.updateReadiness player fields

/-- a call that raises before it changes anything -/
def orUnchanged {α σ : Type} (s : σ) : Except Exc (α × σ) → Except Exc α × σ
  | .ok (a, s') => (.ok a, s')
  | .error e => (.error e, s)

def setClock (f : Clock → Clock) : HostM Clock :=
  onSession fun s => (.ok (f s.clock), { s with clock := f s.clock })

def selectSim (player simId : String) : HostM Json := onSession fun s => orUnchanged s (s.selectSim player simId)

def updateSims (sims : List Json) : HostM Unit :=
  onSession fun s => orUnchanged s ((s.updateSims sims).map fun s' => ((), s'))

def cancelInteraction (requestId : Json) (player : String) (payload : List (String × Json)) : HostM Json :=
  onSession fun s => orUnchanged s (s.cancelInteraction requestId player payload)

def setRequestField (rid key : String) (v : Json) : HostM Unit :=
  onSession fun s => (.ok (), s.setRequestField rid key v)

def dispatchCommand (player family : String) (payload : List (String × Json)) (requestId : Json) (uuid : String) :
    HostM Json :=
  onSession fun s =>
    let r := s.commands.dispatch player family payload requestId uuid
    (r.1, { s with commands := r.2 })

def respondDialog (player dialogId : String) (response : List (String × Json)) : HostM Json :=
  onSession fun s =>
    let r := s.dialogs.respond player dialogId response
    (r.1, { s with dialogs := r.2 })

/-- the accepted request is noted; answers with the id it is stored under -/
def validateInteraction (requestId : Json) (player : String) (payload : List (String × Json)) : HostM String :=
  tryCall fun h =>
    match h.session.validateInteraction requestId player payload with
    | .error e => (.error e, h)
    | .ok (rid, s) =>
      (.ok rid, { h with session := s }.note (.accepted player ((s.interactionRequests.lookup rid).getD [])))

/-- `record` notes the request, given the authority and the clock reading that judge it -/
def requestLockNoting (player : String) (record : BuildAuthority → ℕ → List Out) : HostM Bool := do
  let t₁ ← readClock
  let t₂ ← readClock
  call fun h =>
    let r := h.session.build.requestLock player t₁ t₂ h.now
    (r.1, { h with session := { h.session with build := r.2 }, log := record h.session.build t₁ ++ h.log })

def requestLock (player : String) : HostM Bool := requestLockNoting player fun _ _ => []

def releaseLock (player : String) : HostM Bool :=
  call fun h =>
    let r := h.session.build.releaseLock player
    (r.1, { h with session := { h.session with build := r.2 } })

/-- the operation is noted when it is judged, and again when it gets its number -/
def submit (player op : String) (data : List (String × Json)) : HostM BuildOperation := do
  let t₁ ← readClock
  let t₂ ← readClock
  tryCall fun h =>
    let r := h.session.build.submit player op data t₁ t₂
    let h' := { h with session := { h.session with build := r.2 } }.note (.captured player op data h.session.build t₁)
    match r.1 with
    | .ok o => (.ok o, h'.note (.sequenced r.2.ownerId o))
    | .error e => (.error e, h')

/-- `_drop` up to its await: the player leaves `peers` and the session -/
def removed (h : Host) (player : String) : Host :=
  { h with peers := h.peers.erase player, session := h.session.removePlayer player }.note
    (.left player h.session.travel.current)

def depart (player : String) : HostM (Option Peer) := call fun h => (h.peers.lookup player, h.removed player)

/-- registration of an accepted player -/
def registered (h : Host) (player displayName : String) (manifest : CompatibilityManifest) (conn : ℕ) : Host :=
  { h with peers := h.peers.setItem player ⟨displayName, conn, .int 0⟩
           session := h.session.addPlayer player displayName manifest }.note (.joined player conn)

def join (player displayName : String) (manifest : CompatibilityManifest) (conn : ℕ) : HostM Unit :=
  Coro.modify fun h => h.registered player displayName manifest conn

def setLastSeq (player : String) (seq : Json) : HostM Unit :=
  Coro.modify fun h =>
    { h with peers := h.peers.mapItems fun p peer => if p = player then { peer with lastSeq := seq } else peer }

/-! ## Travel -/

def setTravel (h : Host) (c : TravelCoordinator) : Host := { h with session := { h.session with travel := c } }

/-- a call on the coordinator -/
def onTravel {α : Type} (f : TravelCoordinator → Except Exc (α × TravelCoordinator)) : HostM α :=
  tryCall fun h =>
    match f h.session.travel with
    | .ok (a, c) => (.ok a, h.setTravel c)
    | .error e => (.error e, h)

/-- a proposal takes all players of the session as its participants -/
def propose (zoneId : String) (actorIds : List String) (uuid : String) : HostM TravelTxn :=
  tryCall fun h =>
    match h.session.travel.propose zoneId actorIds h.session.players.keys uuid with
    | .ok (t, c) => (.ok t, h.setTravel c)
    | .error e => (.error e, h)

def abort (txnId : String) : HostM Unit := onTravel fun c => (c.abort txnId).map fun c' => ((), c')

def beginZoneWait (txnId : String) : HostM Unit := onTravel fun c => (c.beginZoneWait txnId).map fun c' => ((), c')

/-- a met barrier is noted -/
def ackReady (h : Host) (player txnId : String) (epoch : ℤ) : Except Exc Bool × Host :=
  match h.session.travel.markReady player txnId (some epoch) with
  | .ok (true, c) => (.ok true, (h.setTravel c).note (.met .commit epoch (h.seq + 1)))
  | .ok (false, c) => (.ok false, h.setTravel c)
  | .error e => (.error e, h)

def markReady (player txnId : String) (epoch : ℤ) : HostM Bool := tryCall fun h => h.ackReady player txnId epoch

def ackZone (h : Host) (player txnId : String) (epoch : ℤ) : Except Exc Bool × Host :=
  match h.session.travel.markZoneReady player txnId (some epoch) with
  | .ok (true, c) => (.ok true, (h.setTravel c).note (.met .resume epoch (h.seq + 1)))
  | .ok (false, c) => (.ok false, h.setTravel c)
  | .error e => (.error e, h)

def markZoneReady (player txnId : String) (epoch : ℤ) : HostM Bool :=
  tryCall fun h => h.ackZone player txnId epoch

/-! ## Control -/

/-- `try: body except ...: handler(exc)` for the exceptions `p` selects -/
def catching {α : Type} (p : Exc → Bool) (body : HostM α) (handler : Exc → HostM α) : HostM α := do
  match ← body.attempt with
  | .ok a => pure a
  | .error e => if p e then handler e else .raise e

/-- `if x is not None: f(x)` -/
def ifSome {α : Type} (x : Option α) (f : α → HostM Unit) : HostM Unit :=
  match x with
  | some a => f a
  | none => pure ()

end Host

end KerMP
