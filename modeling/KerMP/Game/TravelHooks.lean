/-
The travel boundary of the game's mod (`kermp_mod/hooks.py`).

Seven handlers share the globals of one travel: the pending transaction and its epoch, the buffer for raw game messages,
the batch and zone flags, and the simulation bypass. Six run for a message of the sidecar, one after a zone has spun up.
A handler that raises keeps what it has set so far; the bridge then connects again, the globals stay.

What the game's engine answers while an input is handled comes with the input (`Engine`): the zone it is in, whether the
native travel call raises, whether the first client takes a message. The publication of the roster
(`_publish_active_sim_if_ready`) is such an answer as well: all the spin-up sees of it is whether it raises.

- `handle`: the handlers, under the role the sidecar has told the mod.
- `handle_cases`, `buffering_stays`: an input begins a travel or is calm, and nothing turns the buffering off
  (`flush_travel_buffer` has no caller).
- `normal_after_travel`: a travel's end leaves the game as it should be exactly when no travel was begun.
- `buffering_after_resume`: one whole travel, after which the game still buffers.
- `zone_ready_in_target`: the game reports the travel's target zone only, exactly when what asks for the report finds it
  there. `named_target`: a message that names the zone sees to that itself.
- `zone_ready_elsewhere`: the host's messages name no zone, and the game reports the one it was to leave.
-/
import KerMP.Lib.Handler
import KerMP.Host.Game

namespace KerMP.Game

open Py Handler
open Host (intField)
open Base64 (Bytes)
open Travel (TravelTxn)

/-! ## State -/

inductive Role where
  | host | client
deriving DecidableEq

/-- what the engine and the bridge's socket answer while one input is handled -/
structure Engine where
  /-- `str(services.current_zone_id())`; none: it raises -/
  zone : Option String
  /-- `_active_sim_id()` -/
  activeSim : Option String
  /-- the first client's setter takes the selected sim -/
  restores : Bool
  /-- what `_invoke_native_travel` raises, as text -/
  travelFault : Option String
  /-- there is a first client, and its `send` takes the message -/
  sends : Bool
  publishes : Except Exc Unit
  /-- `_send` of an event of that type: sent, not connected, or a fault of the socket -/
  socket : MessageType → Except Exc Bool

structure Hooks where
  pendingTravelTxn : Json
  travelEpoch : ℤ
  travelBuffering : Bool
  travelBuffer : List Json
  travelSelectedSimId : Option String
  travelBatchComplete : Bool
  travelZoneReported : Bool
  travelLocalZoneLoaded : Bool
  travelSelectedSimRestored : Bool
  travelLastError : Option String
  simulationBypass : Bool
  viewUpdatesReceived : ℕ
  lastViewUpdateSize : ℕ
  lastViewUpdateMsgId : Option ℤ
  /-- what went to the sidecar, oldest first -/
  emitted : List BridgeEvent
  /-- the raw messages the engine's `send` took, oldest first -/
  applied : List (ℤ × Bytes)
deriving DecidableEq

def Hooks.init : Hooks where
  pendingTravelTxn := .null
  travelEpoch := 0
  travelBuffering := false
  travelBuffer := []
  travelSelectedSimId := none
  travelBatchComplete := false
  travelZoneReported := false
  travelLocalZoneLoaded := false
  travelSelectedSimRestored := false
  travelLastError := none
  simulationBypass := false
  viewUpdatesReceived := 0
  lastViewUpdateSize := 0
  lastViewUpdateMsgId := none
  emitted := []
  applied := []

/-- a handler: it may raise, and keeps what it has set -/
abbrev HooksM := ExceptT Exc (StateM Hooks)

/-! ## Raw game messages -/

def MAX_TRAVEL_BUFFER : ℕ := 256

def MAX_RAW_GAME_MESSAGE_BYTES : ℕ := 2 * 1024 * 1024

/-- the message the engine is to send -/
def readMessage (payload : Json) : Except Exc (ℤ × Bytes) := do
  let raw ← Base64.b64decode (← payload.getD "payload_b64" (.str "")).toStr
  require (raw.length ≤ MAX_RAW_GAME_MESSAGE_BYTES) (.valueError "payload_too_large")
  let msgId ← (← payload.item "msg_id").toInt
  return (msgId, raw)

section Handlers

variable (role : Role) (e : Engine)

def applyRawGameMessage (payload : Json) : HooksM Bool := do
  if role ≠ .client then return false
  match readMessage payload with
  | .error _ => return false
  | .ok (msgId, raw) =>
    if e.sends then
      modify fun g => { g with lastViewUpdateSize := raw.length, lastViewUpdateMsgId := some msgId,
                               applied := g.applied ++ [(msgId, raw)] }
    return e.sends

def beginTravelBuffer (epoch : ℤ) : HooksM Unit :=
  modify fun g => { g with travelEpoch := epoch, travelBuffering := true, travelBuffer := [] }

def receiveRawGameMessage (payload : Json) : HooksM Bool := do
  let g ← get
  if g.travelBuffering then
    if MAX_TRAVEL_BUFFER ≤ g.travelBuffer.length then return false
    if (← intField payload "epoch" g.travelEpoch) ≠ g.travelEpoch then return false
    modify fun g => { g with travelBuffer := g.travelBuffer ++ [payload] }
    return true
  else
    let applied ← applyRawGameMessage role e payload
    if applied then modify fun g => { g with viewUpdatesReceived := g.viewUpdatesReceived + 1 }
    return applied

def rawGameMessage (payload : Json) : HooksM Unit := do
  if role = .client then
    let _ ← receiveRawGameMessage role e payload

/-! ## Travel -/

/-- `bridge.emit` -/
def emit (type : MessageType) (payload : Json) : HooksM Unit := do
  if (← e.socket type) then modify fun g => { g with emitted := g.emitted ++ [⟨type, payload⟩] }

def setSimulationBypass (active : Bool) : HooksM Unit := modify fun g => { g with simulationBypass := active }

/-- a client's game runs on its own while it travels, and keeps what the host sends for later -/
def beginTravel (epoch : ℤ) : HooksM Unit :=
  if role = .client then do
    setSimulationBypass true
    beginTravelBuffer epoch
  else pure ()

def travelPrepare (payload : Json) : HooksM Unit := do
  let txn ← payload.get "txn_id"
  modify fun g => { g with pendingTravelTxn := txn }
  let epoch ← intField payload "epoch" 0
  modify fun g => { g with travelEpoch := epoch, travelSelectedSimId := e.activeSim, travelZoneReported := false }
  beginTravel role epoch
  emit e .travelReady (.obj [("txn_id", txn), ("epoch", .int epoch)])

def travelCommit (payload : Json) : HooksM Unit := do
  let txn ← payload.get "txn_id"
  modify fun g => { g with pendingTravelTxn := txn }
  let epoch ← intField payload "epoch" (← get).travelEpoch
  modify fun g => { g with travelEpoch := epoch, travelBatchComplete := false, travelZoneReported := false,
                           travelLastError := none }
  beginTravel role epoch
  match e.travelFault with
  | none => return
  | some fault =>
    modify fun g => { g with travelLastError := some fault }
    emit e .travelAbort (.obj [("txn_id", txn), ("epoch", .int epoch), ("reason", .str fault)])

/-- `_zone_is_loaded`: any zone will do where none is named -/
def zoneIsLoaded (zoneId : Json) : Bool :=
  match e.zone with
  | some current => !zoneId.truthy || current == zoneId.toStr
  | none => false

/-- `str(_current_zone_id())` -/
def currentZoneId : String := e.zone.getD "0"

def restoreActiveSim (g : Hooks) : Bool :=
  match g.travelSelectedSimId with
  | some sim => sim ≠ "" && e.restores
  | none => false

def finishZoneHydration : HooksM Unit := do
  let g ← get
  if g.travelZoneReported then return
  let restored := restoreActiveSim e g
  modify fun g => { g with travelSelectedSimRestored := restored }
  emit e .travelZoneReady (.obj [("txn_id", g.pendingTravelTxn), ("epoch", .int g.travelEpoch),
    ("zone_id", .str (currentZoneId e)), ("selected_sim_restored", .bool restored)])
  modify fun g => { g with travelZoneReported := true }
  setSimulationBypass false

def beginBatch (epoch : ℤ) : HooksM Unit := do
  modify fun g => { g with travelBatchComplete := false }
  if role = .client then beginTravelBuffer epoch

def endBatch (payload : Json) : HooksM Unit := do
  modify fun g => { g with travelBatchComplete := true }
  if role = .client then
    if zoneIsLoaded e (← payload.get "zone_id") then finishZoneHydration e

def travelViewBatch (payload : Json) : HooksM Unit := do
  let g ← get
  let epoch ← intField payload "epoch" (-1)
  if epoch ≠ g.travelEpoch then return
  let kind := (← payload.getD "kind" (.str "")).toStr.toLower
  if kind = "begin" then beginBatch role epoch
  else if kind = "end" then endBatch role e payload

def travelAbort (payload : Json) : HooksM Unit := do
  let reason := ((← payload.get "reason").or (.str "travel_aborted")).toStr
  modify fun g => { g with travelLastError := some reason, pendingTravelTxn := .null }
  setSimulationBypass false

def resumeTravel (payload : Json) : HooksM Unit := do
  let g ← get
  if (← intField payload "epoch" g.travelEpoch) = g.travelEpoch then
    if g.travelBatchComplete then
      if zoneIsLoaded e (← payload.get "zone_id") then finishZoneHydration e

def travelResume (payload : Json) : HooksM Unit := do
  if role = .client then resumeTravel e payload
  -- the text of the log
  let _ ← payload.get "txn_id"

/-- the host's game: its own zone is the whole batch -/
def reportZone : HooksM Unit := do
  modify fun g => { g with travelBatchComplete := true }
  let g ← get
  emit e .travelViewBatch (.obj [("txn_id", g.pendingTravelTxn), ("epoch", .int g.travelEpoch), ("kind", .str "end"),
    ("zone_id", .str (currentZoneId e))])
  emit e .travelZoneReady (.obj [("txn_id", g.pendingTravelTxn), ("epoch", .int g.travelEpoch),
    ("zone_id", .str (currentZoneId e))])

/-- the zone a client waits for, or the one the host's players are to load -/
def travelZoneLoaded : HooksM Unit := do
  let g ← get
  modify fun g => { g with travelLocalZoneLoaded := true }
  e.publishes
  if role = .client then
    if g.travelBatchComplete then finishZoneHydration e
  else reportZone e

def afterZoneSpinUp : HooksM Unit := do
  if (← get).pendingTravelTxn.truthy then travelZoneLoaded role e
  else e.publishes

end Handlers

/-! ## Runs -/

/-- a message of the sidecar, or a zone that has spun up -/
inductive GameEvent where
  | prepare (payload : Json)
  | commit (payload : Json)
  | viewBatch (payload : Json)
  | abort (payload : Json)
  | resume (payload : Json)
  | rawMessage (payload : Json)
  | spinUp

structure Input where
  engine : Engine
  event : GameEvent

def handler (role : Role) (i : Input) : HooksM Unit :=
  match i.event with
  | .prepare payload => travelPrepare role i.engine payload
  | .commit payload => travelCommit role i.engine payload
  | .viewBatch payload => travelViewBatch role i.engine payload
  | .abort payload => travelAbort payload
  | .resume payload => travelResume role i.engine payload
  | .rawMessage payload => rawGameMessage role i.engine payload
  | .spinUp => afterZoneSpinUp role i.engine

/-- what an input leaves, whether its handler raises or not -/
def handle (role : Role) (g : Hooks) (i : Input) : Hooks := (exec (handler role i) g).2

def runFrom (role : Role) (g : Hooks) (inputs : List Input) : Hooks := inputs.foldl (handle role) g

def run (role : Role) (inputs : List Input) : Hooks := runFrom role .init inputs

theorem does_emit {R : Hooks → Hooks → Prop} [IsPreorder Hooks R] {e : Engine} {type : MessageType} {payload : Json}
    (hR : ∀ g : Hooks, R g { g with emitted := g.emitted ++ [⟨type, payload⟩] }) : Does R (emit e type payload) := by
  refine does_bind (does_liftExcept _) fun sent => ?_
  exact does_ite (does_modify hR) (does_pure _)

/-! ## The end of a travel -/

/-- the input turns the buffering on: a prepare or a commit that can be read, or the batch begin of the epoch -/
def begins (g : Hooks) : GameEvent → Bool
  | .prepare payload => (intField payload "epoch" 0).isOk
  | .commit payload => (intField payload "epoch" g.travelEpoch).isOk
  | .viewBatch payload =>
    match intField payload "epoch" (-1), payload.getD "kind" (.str "") with
    | .ok epoch, .ok kind => epoch = g.travelEpoch && kind.toStr.toLower = "begin"
    | _, _ => false
  | _ => false

/-- some input of a client's run begins a travel -/
def travelBegun : Hooks → List Input → Bool
  | _, [] => false
  | g, i :: inputs => begins g i.event || travelBegun (handle .client g i) inputs

/-- the raw message an input puts into a client's buffer -/
def bufferedBy (g : Hooks) (i : Input) : List Json :=
  match i.event with
  | .rawMessage payload => if (handle .client g i).travelBuffer = g.travelBuffer ++ [payload] then [payload] else []
  | _ => []

/-- the raw messages a client's run puts into the buffer, oldest first -/
def buffered : Hooks → List Input → List Json
  | _, [] => []
  | g, i :: inputs => bufferedBy g i ++ buffered (handle .client g i) inputs

/-- the message in a raw payload, where there is one -/
def message (payload : Json) : Option (ℤ × Bytes) := (readMessage payload).toOption

/-- raw messages that follow, with what the engine answers at each -/
def rawMessages (later : List (Engine × Json)) : List Input := later.map fun m => ⟨m.1, .rawMessage m.2⟩

/-- the client's game is in its normal state, where `taken` is what was buffered before -/
structure Normal (g : Hooks) (taken : List Json) : Prop where
  bufferingOff : g.travelBuffering = false
  nothingPending : g.pendingTravelTxn.truthy = false
  bypassOff : g.simulationBypass = false
  applied : (taken.filterMap message).Sublist g.applied
  direct : ∀ later : List (Engine × Json), (∀ m ∈ later, m.1.sends = true) →
    (runFrom .client g (rawMessages later)).applied = g.applied ++ later.filterMap fun m => message m.2

/-- no travel begins: the buffering is as before, a bypass that is off stays off, and a buffer not in use is not touched -/
structure Calm (g g' : Hooks) : Prop where
  buffering : g'.travelBuffering = g.travelBuffering
  bypass : g.simulationBypass = false → g'.simulationBypass = false
  buffer : g.travelBuffering = false → g'.travelBuffer = g.travelBuffer

instance : IsPreorder Hooks Calm where
  refl _ := ⟨rfl, id, fun _ => rfl⟩
  trans _ _ _ h h' :=
    ⟨h'.buffering.trans h.buffering, h'.bypass ∘ h.bypass, fun hb =>
      (h'.buffer (h.buffering.trans hb)).trans (h.buffer hb)⟩

theorem calm_emit (e : Engine) (type : MessageType) (payload : Json) : Does Calm (emit e type payload) :=
  does_emit fun _ => ⟨rfl, id, fun _ => rfl⟩

theorem calm_finish (e : Engine) : Does Calm (finishZoneHydration e) := by
  unfold finishZoneHydration
  refine does_get fun g => does_ite (does_pure _) ?_
  refine does_bind (does_modify fun _ => ⟨rfl, id, fun _ => rfl⟩) fun _ => ?_
  refine does_bind (calm_emit e _ _) fun _ => ?_
  refine does_bind (does_modify fun _ => ⟨rfl, id, fun _ => rfl⟩) fun _ => ?_
  exact does_modify fun _ => ⟨rfl, fun _ => rfl, fun _ => rfl⟩

theorem calm_abort (payload : Json) : Does Calm (travelAbort payload) := by
  unfold travelAbort
  refine does_bind (does_liftExcept _) fun _ => ?_
  refine does_bind (does_modify fun _ => ⟨rfl, id, fun _ => rfl⟩) fun _ => ?_
  exact does_modify fun _ => ⟨rfl, fun _ => rfl, fun _ => rfl⟩

theorem calm_resume (role : Role) (e : Engine) (payload : Json) : Does Calm (travelResume role e payload) := by
  unfold travelResume resumeTravel
  have hlog : Does Calm (liftM (payload.get "txn_id") >>= fun _ => pure () : HooksM Unit) :=
    does_bind (does_liftExcept _) fun _ => does_pure _
  refine does_ite (does_bind ?_ fun _ => hlog) hlog
  refine does_get fun g => does_bind (does_liftExcept _) fun epoch => ?_
  refine does_ite (does_ite ?_ (does_pure _)) (does_pure _)
  exact does_bind (does_liftExcept _) fun _ => does_ite (calm_finish e) (does_pure _)

theorem calm_spinUp (role : Role) (e : Engine) : Does Calm (afterZoneSpinUp role e) := by
  unfold afterZoneSpinUp travelZoneLoaded reportZone
  refine does_get fun g => does_ite ?_ (does_liftExcept _)
  refine does_get fun g => does_bind (does_modify fun _ => ⟨rfl, id, fun _ => rfl⟩) fun _ => ?_
  refine does_bind (does_liftExcept _) fun _ => does_ite (does_ite (calm_finish e) (does_pure _)) ?_
  refine does_bind (does_modify fun _ => ⟨rfl, id, fun _ => rfl⟩) fun _ => does_get fun g => ?_
  exact does_bind (calm_emit e _ _) fun _ => calm_emit e _ _

theorem calm_endBatch (role : Role) (e : Engine) (payload : Json) : Does Calm (endBatch role e payload) := by
  unfold endBatch
  refine does_bind (does_modify fun _ => ⟨rfl, id, fun _ => rfl⟩) fun _ => does_ite ?_ (does_pure _)
  exact does_bind (does_liftExcept _) fun _ => does_ite (calm_finish e) (does_pure _)

/-- turning the buffering on is not undone by what is sent after it -/
theorem buffering_emit {e : Engine} {type : MessageType} {payload : Json} {g : Hooks} (h : g.travelBuffering = true) :
    (exec (emit e type payload) g).2.travelBuffering = true :=
  (calm_emit e type payload g).buffering.trans h

/-- a view batch message turns the buffering on, or is calm -/
theorem viewBatch_cases (e : Engine) (payload : Json) (g : Hooks) :
    if begins g (.viewBatch payload) then (exec (travelViewBatch .client e payload) g).2.travelBuffering = true
    else Calm g (exec (travelViewBatch .client e payload) g).2 := by
  unfold travelViewBatch
  simp only [begins, exec_bind, exec_get, exec_liftExcept]
  rcases intField payload "epoch" (-1) with _ | epoch
  · exact refl g
  · dsimp only
    by_cases hepoch : epoch = g.travelEpoch
    · rw [if_neg (not_not.2 hepoch), exec_bind, exec_liftExcept]
      rcases payload.getD "kind" (.str "") with _ | kind
      · exact refl g
      · dsimp only
        by_cases hbegin : kind.toStr.toLower = "begin"
        · simp [hepoch, hbegin, beginBatch, beginTravelBuffer]
        · rw [if_neg hbegin, if_neg (by simp [hbegin])]
          exact does_ite (calm_endBatch .client e payload) (does_pure _) g
    · rw [if_pos hepoch]
      rw [if_neg (by rcases payload.getD "kind" (.str "") <;> simp [hepoch])]
      exact refl g

theorem prepare_cases (e : Engine) (payload : Json) (g : Hooks) :
    if begins g (.prepare payload) then (exec (travelPrepare .client e payload) g).2.travelBuffering = true
    else Calm g (exec (travelPrepare .client e payload) g).2 := by
  unfold travelPrepare
  simp only [begins, exec_bind, exec_liftExcept, exec_modify]
  rcases htxn : payload.get "txn_id" with _ | txn
  · have hepoch : (intField payload "epoch" 0).isOk = false := by
      cases payload with
      | obj kvs => cases htxn
      | _ => rfl
    rw [if_neg (by simp [hepoch])]
    exact refl g
  · dsimp only
    rcases intField payload "epoch" 0 with _ | epoch
    · exact ⟨rfl, id, fun _ => rfl⟩
    · rw [if_pos (show (Except.ok epoch : Except Exc ℤ).isOk = true from rfl)]
      exact buffering_emit rfl

theorem commit_cases (e : Engine) (payload : Json) (g : Hooks) :
    if begins g (.commit payload) then (exec (travelCommit .client e payload) g).2.travelBuffering = true
    else Calm g (exec (travelCommit .client e payload) g).2 := by
  unfold travelCommit
  simp only [begins, exec_bind, exec_liftExcept, exec_modify, exec_get]
  rcases htxn : payload.get "txn_id" with _ | txn
  · have hepoch : (intField payload "epoch" g.travelEpoch).isOk = false := by
      cases payload with
      | obj kvs => cases htxn
      | _ => rfl
    rw [if_neg (by simp [hepoch])]
    exact refl g
  · dsimp only
    rcases intField payload "epoch" g.travelEpoch with _ | epoch
    · exact ⟨rfl, id, fun _ => rfl⟩
    · rw [if_pos (show (Except.ok epoch : Except Exc ℤ).isOk = true from rfl)]
      dsimp only
      cases e.travelFault with
      | none => rfl
      | some fault => exact buffering_emit rfl

theorem calm_apply (role : Role) (e : Engine) (payload : Json) : Does Calm (applyRawGameMessage role e payload) := by
  unfold applyRawGameMessage
  refine does_ite (does_pure _) ?_
  cases readMessage payload with
  | error _ => exact does_pure _
  | ok m =>
    refine does_ite (does_bind (does_modify fun _ => ⟨rfl, id, fun _ => rfl⟩) fun _ => does_pure _) (does_pure _)

/-- while nothing is buffered, a raw message goes straight to the engine -/
theorem receive_direct {e : Engine} {payload : Json} {g : Hooks} (h : g.travelBuffering = false) :
    exec (rawGameMessage .client e payload) g = exec (do
      let applied ← applyRawGameMessage .client e payload
      if applied then modify fun g => { g with viewUpdatesReceived := g.viewUpdatesReceived + 1 } : HooksM Unit) g := by
  unfold rawGameMessage receiveRawGameMessage
  simp only [if_true, exec_bind, exec_get]
  rw [if_neg (by simp [h])]
  simp only [exec_bind]
  rcases exec (applyRawGameMessage .client e payload) g with ⟨_ | applied, g'⟩
  · rfl
  · cases applied <;> rfl

theorem calm_raw (e : Engine) (payload : Json) (g : Hooks) : Calm g (exec (rawGameMessage .client e payload) g).2 := by
  by_cases hbuffering : g.travelBuffering = true
  · have hkept : ∀ buffer : List Json, Calm g { g with travelBuffer := buffer } :=
      fun _ => ⟨rfl, id, fun h => absurd h (by simp [hbuffering])⟩
    unfold rawGameMessage receiveRawGameMessage
    simp only [if_true, exec_bind, exec_get, hbuffering]
    by_cases hfull : MAX_TRAVEL_BUFFER ≤ g.travelBuffer.length
    · rw [if_pos hfull]
      exact refl g
    · rw [if_neg hfull, exec_bind, exec_liftExcept]
      rcases intField payload "epoch" g.travelEpoch with _ | epoch
      · exact refl g
      · dsimp only
        split_ifs
        · exact refl g
        · exact hkept _
  · rw [receive_direct (by simpa using hbuffering)]
    refine does_bind (calm_apply .client e payload) (fun applied => ?_) g
    exact does_ite (does_modify fun _ => ⟨rfl, id, fun _ => rfl⟩) (does_pure _)

/-- **What an input does to the buffering**: it begins a travel and turns it on, or it is calm. -/
theorem handle_cases (g : Hooks) (i : Input) :
    if begins g i.event then (handle .client g i).travelBuffering = true else Calm g (handle .client g i) := by
  obtain ⟨e, event⟩ := i
  cases event with
  | prepare payload => exact prepare_cases e payload g
  | commit payload => exact commit_cases e payload g
  | viewBatch payload => exact viewBatch_cases e payload g
  | abort payload => exact calm_abort payload g
  | resume payload => exact calm_resume .client e payload g
  | rawMessage payload => exact calm_raw e payload g
  | spinUp => exact calm_spinUp .client e g

/-- nothing turns the buffering off -/
theorem buffering_stays {g : Hooks} {i : Input} (h : g.travelBuffering = true) :
    (handle .client g i).travelBuffering = true := by
  have hcases := handle_cases g i
  split_ifs at hcases
  · exact hcases
  · exact hcases.buffering.trans h

theorem buffering_stays_run {g : Hooks} (inputs : List Input) (h : g.travelBuffering = true) :
    (runFrom .client g inputs).travelBuffering = true := by
  induction inputs generalizing g with
  | nil => exact h
  | cons i inputs ih => exact ih (buffering_stays h)

/-- the state before any travel, as far as its end is concerned -/
structure Idle (g : Hooks) : Prop where
  buffering : g.travelBuffering = false
  bypass : g.simulationBypass = false
  buffer : g.travelBuffer = []

theorem idle_init : Idle .init := ⟨rfl, rfl, rfl⟩

theorem Calm.idle {g g' : Hooks} (h : Calm g g') (hg : Idle g) : Idle g' :=
  ⟨h.buffering.trans hg.buffering, h.bypass hg.bypass, (h.buffer hg.buffering).trans hg.buffer⟩

/-- a run buffers from the moment it has begun a travel, and is idle until then -/
theorem run_cases {g : Hooks} (hg : Idle g) (inputs : List Input) :
    if travelBegun g inputs then (runFrom .client g inputs).travelBuffering = true
    else Idle (runFrom .client g inputs) ∧ buffered g inputs = [] := by
  induction inputs generalizing g with
  | nil => exact ⟨hg, rfl⟩
  | cons i inputs ih =>
    have hcases := handle_cases g i
    by_cases hbegins : begins g i.event = true
    · rw [if_pos hbegins] at hcases
      rw [travelBegun, if_pos (by simp [hbegins])]
      exact buffering_stays_run inputs hcases
    · rw [if_neg hbegins] at hcases
      have hidle : Idle (handle .client g i) := hcases.idle hg
      have hnone : bufferedBy g i = [] := by
        unfold bufferedBy
        cases i.event with
        | rawMessage payload => simp [hidle.buffer, hg.buffer]
        | _ => rfl
      rw [travelBegun, eq_false_of_ne_true hbegins, Bool.false_or, buffered, hnone, List.nil_append]
      exact ih hidle

/-- the two ends of a travel -/
inductive Ending where
  | resume (payload : Json)
  | abort (payload : Json)

def Ending.event : Ending → GameEvent
  | .resume payload => .resume payload
  | .abort payload => .abort payload

/-- an abort that can be read forgets the pending transaction; a resume never does -/
def Ending.clears : Ending → Bool
  | .resume _ => false
  | .abort payload => (payload.get "reason").isOk

theorem Ending.calm (ending : Ending) (e : Engine) (g : Hooks) : Calm g (handle .client g ⟨e, ending.event⟩) := by
  cases ending with
  | resume payload => exact calm_resume .client e payload g
  | abort payload => exact calm_abort payload g

/-- the pending transaction is as before -/
def SamePending (g g' : Hooks) : Prop := g'.pendingTravelTxn = g.pendingTravelTxn

instance : IsPreorder Hooks SamePending where
  refl _ := rfl
  trans _ _ _ h h' := Eq.trans h' h

theorem pending_finish (e : Engine) : Does SamePending (finishZoneHydration e) := by
  unfold finishZoneHydration
  refine does_get fun g => does_ite (does_pure _) ?_
  refine does_bind (does_modify fun _ => rfl) fun _ => ?_
  refine does_bind (does_emit fun _ => rfl) fun _ => ?_
  exact does_bind (does_modify fun _ => rfl) fun _ => does_modify fun _ => rfl

theorem pending_resume (role : Role) (e : Engine) (payload : Json) : Does SamePending (travelResume role e payload) := by
  unfold travelResume resumeTravel
  have hlog : Does SamePending (liftM (payload.get "txn_id") >>= fun _ => pure () : HooksM Unit) :=
    does_bind (does_liftExcept _) fun _ => does_pure _
  refine does_ite (does_bind ?_ fun _ => hlog) hlog
  refine does_get fun g => does_bind (does_liftExcept _) fun epoch => ?_
  refine does_ite (does_ite ?_ (does_pure _)) (does_pure _)
  exact does_bind (does_liftExcept _) fun _ => does_ite (pending_finish e) (does_pure _)

/-- after an end nothing is pending exactly when nothing was, or the end has cleared it -/
theorem Ending.pending (ending : Ending) (e : Engine) (g : Hooks) :
    (handle .client g ⟨e, ending.event⟩).pendingTravelTxn.truthy = false ↔
      g.pendingTravelTxn.truthy = false ∨ ending.clears = true := by
  cases ending with
  | resume payload =>
    have hsame : (handle .client g ⟨e, .resume payload⟩).pendingTravelTxn = g.pendingTravelTxn :=
      pending_resume .client e payload g
    simp [Ending.event, Ending.clears, hsame]
  | abort payload =>
    change (exec (travelAbort payload) g).2.pendingTravelTxn.truthy = false ↔ _
    simp only [travelAbort, Ending.clears, exec_bind, exec_liftExcept, exec_modify]
    rcases payload.get "reason" with _ | reason
    · simp [Except.isOk, Except.toBool]
    · simp [Except.isOk, Except.toBool, setSimulationBypass, Json.truthy]

/-- a raw message that is not buffered reaches the engine -/
theorem raw_direct {e : Engine} (hsends : e.sends = true) (payload : Json) {g : Hooks} (h : g.travelBuffering = false) :
    (handle .client g ⟨e, .rawMessage payload⟩).applied = g.applied ++ (message payload).toList := by
  change (exec (rawGameMessage .client e payload) g).2.applied = _
  rw [receive_direct h]
  unfold applyRawGameMessage message
  cases readMessage payload with
  | error _ => simp [Except.toOption]
  | ok m => simp [Except.toOption, hsends]

theorem raws_direct (later : List (Engine × Json)) (hsends : ∀ m ∈ later, m.1.sends = true) {g : Hooks}
    (h : g.travelBuffering = false) :
    (runFrom .client g (rawMessages later)).applied = g.applied ++ later.filterMap fun m => message m.2 := by
  induction later generalizing g with
  | nil => exact (List.append_nil _).symm
  | cons m later ih =>
    have hcalm : Calm g (handle .client g ⟨m.1, .rawMessage m.2⟩) := calm_raw m.1 m.2 g
    have hrest := ih (fun m' hm' => hsends m' (List.mem_cons_of_mem _ hm')) (hcalm.buffering.trans h)
    rw [raw_direct (hsends m List.mem_cons_self) m.2 h] at hrest
    refine hrest.trans ?_
    rw [List.append_assoc, List.filterMap_cons]
    cases message m.2 <;> rfl

/-- **After a travel the client's game is not back to normal.** For every run and every resume or abort after it, it is
in its normal state exactly when the run has begun no travel, and nothing stays pending. -/
theorem normal_after_travel (inputs : List Input) (e : Engine) (ending : Ending) :
    Normal (handle .client (run .client inputs) ⟨e, ending.event⟩) (buffered .init inputs) ↔
      travelBegun .init inputs = false ∧
        ((run .client inputs).pendingTravelTxn.truthy = false ∨ ending.clears = true) := by
  have hcases := run_cases idle_init inputs
  have hcalm := ending.calm e (run .client inputs)
  constructor
  · intro hnormal
    refine ⟨?_, (ending.pending e _).1 hnormal.nothingPending⟩
    by_contra hbegun
    rw [if_pos (by simpa using hbegun)] at hcases
    have hstays : (handle .client (run .client inputs) ⟨e, ending.event⟩).travelBuffering = true := buffering_stays hcases
    rw [hnormal.bufferingOff] at hstays
    cases hstays
  · rintro ⟨hbegun, hpending⟩
    rw [if_neg (by simp [hbegun])] at hcases
    obtain ⟨hidle, hbuffered⟩ := hcases
    have hidle' := hcalm.idle hidle
    refine ⟨hidle'.buffering, (ending.pending e _).2 hpending, hidle'.bypass, ?_, fun later hsends => ?_⟩
    · rw [hbuffered]
      exact List.nil_sublist _
    · exact raws_direct later hsends hidle'.buffering

/-- an engine that answers everything, in the given zone -/
def inZone (zone : String) : Engine := ⟨some zone, some "7", true, none, true, .ok (), fun _ => .ok true⟩

def travelTo5 : TravelTxn := ⟨1, "t", "5", ["7"], ∅, .waitingZoneReady, ∅, ∅⟩

def preparePayload : Json :=
  .obj [("txn_id", .str "t"), ("epoch", .int 1), ("zone_id", .str "5"), ("actor_ids", .arr [.str "7"]),
    ("requested_by", .str "host")]

/-- a travel as the host sends it, and one raw message while it loads -/
def wholeTravel : List Input :=
  [⟨inZone "3", .prepare preparePayload⟩, ⟨inZone "3", .commit (Host.commitPayload travelTo5)⟩,
    ⟨inZone "3", .viewBatch (Host.viewBatch travelTo5 "begin")⟩,
    ⟨inZone "3", .rawMessage (Host.rawPayload 4 1 [65] (some 1))⟩, ⟨inZone "5", .spinUp⟩,
    ⟨inZone "5", .viewBatch (Host.viewBatch travelTo5 "end")⟩]

def resumed : Hooks := handle .client (run .client wholeTravel) ⟨inZone "5", .resume (Host.resumePayload "t" 1)⟩

/-- the batch has ended, the zone is loaded, the resume is handled: the game still buffers, and the message waits -/
theorem buffering_after_resume :
    (run .client wholeTravel).travelBatchComplete = true ∧ (run .client wholeTravel).travelEpoch = 1 ∧
      buffered .init wholeTravel = [Host.rawPayload 4 1 [65] (some 1)] ∧ resumed.travelBuffering = true ∧
      resumed.pendingTravelTxn = .str "t" ∧ resumed.applied = [] ∧ ¬Normal resumed (buffered .init wholeTravel) := by
  have hbuffering : resumed.travelBuffering = true := by decide +kernel
  refine ⟨by decide +kernel, by decide +kernel, by decide +kernel, hbuffering, by decide +kernel, by decide +kernel, ?_⟩
  intro hnormal
  rw [hnormal.bufferingOff] at hbuffering
  cases hbuffering

/-! ## Reports of the loaded zone -/

/-- a game and the zones it was sent to, newest first, each with the epoch of its commit -/
structure Watched where
  hooks : Hooks
  commits : List (ℤ × String)

def Watched.init : Watched := ⟨.init, []⟩

/-- the epoch and the zone of a commit that can be read -/
def commitOf (g : Hooks) : GameEvent → Option (ℤ × String)
  | .commit payload =>
    (do return (← intField payload "epoch" g.travelEpoch, (← payload.get "zone_id").toStr) : Except Exc _).toOption
  | _ => none

def Watched.next (role : Role) (w : Watched) (i : Input) : Watched :=
  ⟨handle role w.hooks i, (commitOf w.hooks i.event).toList ++ w.commits⟩

/-- every input of a run, with what was there before it -/
def steps (role : Role) : Watched → List Input → List (Watched × Input)
  | _, [] => []
  | w, i :: inputs => (w, i) :: steps role (w.next role i) inputs

/-- what an input makes the game send -/
def sent (role : Role) (g : Hooks) (i : Input) : List BridgeEvent := (handle role g i).emitted.drop g.emitted.length

/-- each zone report the input makes the game send is one from the zone of its epoch's commit -/
def Truthful (role : Role) (w : Watched) (i : Input) : Prop :=
  ∀ payload, ⟨.travelZoneReady, payload⟩ ∈ sent role w.hooks i →
    ∃ epoch zone, payload.get "epoch" = .ok (.int epoch) ∧ w.commits.lookup epoch = some zone ∧
      i.engine.zone = some zone

/-- the game is in the zone of the commit of its epoch -/
def AtTarget (w : Watched) (i : Input) : Prop :=
  ∃ zone, w.commits.lookup w.hooks.travelEpoch = some zone ∧ i.engine.zone = some zone

/-- a client's report is still to come, and can be sent -/
def unreported (g : Hooks) (e : Engine) : Bool := !g.travelZoneReported && e.socket .travelZoneReady = .ok true

/-- the message is about the travel's epoch -/
def ofTravel (g : Hooks) (dflt : ℤ) (payload : Json) : Bool := intField payload "epoch" dflt = .ok g.travelEpoch

/-- the message names no zone, or the one the game is in -/
def namesHere (e : Engine) (payload : Json) : Bool :=
  match payload.get "zone_id" with
  | .ok zoneId => zoneIsLoaded e zoneId
  | .error _ => false

def isBatchEnd (payload : Json) : Bool :=
  match payload.getD "kind" (.str "") with
  | .ok kind => kind.toStr.toLower = "end"
  | .error _ => false

/-- a zone has spun up during a travel, or the batch has ended or the travel is resumed and nothing speaks against the
zone the game is in -/
def asked (role : Role) (g : Hooks) (i : Input) : Bool :=
  match role, i.event with
  | .client, .viewBatch payload =>
    ofTravel g (-1) payload && isBatchEnd payload && namesHere i.engine payload && unreported g i.engine
  | .client, .resume payload =>
    ofTravel g g.travelEpoch payload && g.travelBatchComplete && namesHere i.engine payload && unreported g i.engine
  | .client, .spinUp =>
    g.pendingTravelTxn.truthy && i.engine.publishes = .ok () && g.travelBatchComplete && unreported g i.engine
  | .host, .spinUp =>
    g.pendingTravelTxn.truthy && i.engine.publishes = .ok () && (i.engine.socket .travelViewBatch).isOk &&
      i.engine.socket .travelZoneReady = .ok true
  | _, _ => false

/-- no zone report goes out -/
def Silent (g g' : Hooks) : Prop :=
  ∃ out, g'.emitted = g.emitted ++ out ∧ ∀ event ∈ out, event.type ≠ .travelZoneReady

instance : IsPreorder Hooks Silent where
  refl _ := ⟨[], (List.append_nil _).symm, by simp⟩
  trans _ _ _ := by
    rintro ⟨out, hout, hother⟩ ⟨out', hout', hother'⟩
    refine ⟨out ++ out', by rw [hout', hout, List.append_assoc], fun event hevent => ?_⟩
    rcases List.mem_append.1 hevent with hmem | hmem
    · exact hother event hmem
    · exact hother' event hmem

theorem silent_of_same {g g' : Hooks} (h : g'.emitted = g.emitted) : Silent g g' :=
  ⟨[], by rw [h, List.append_nil], by simp⟩

theorem silent_emit {e : Engine} {type : MessageType} {payload : Json} (h : type ≠ .travelZoneReady) :
    Does Silent (emit e type payload) :=
  does_emit fun _ => ⟨_, rfl, by simpa using h⟩

/-- a zone report goes out, and it is about the epoch of the travel -/
def Reports (g g' : Hooks) : Prop :=
  ∃ out, g'.emitted = g.emitted ++ out ∧ (∃ payload, ⟨.travelZoneReady, payload⟩ ∈ out) ∧
    ∀ payload, ⟨.travelZoneReady, payload⟩ ∈ out → payload.get "epoch" = .ok (.int g.travelEpoch)

/-- a zone report goes out exactly when `report` says so -/
def Sends (report : Bool) (g g' : Hooks) : Prop :=
  match report with
  | true => Reports g g'
  | false => Silent g g'

theorem sends_none {report : Bool} {g g' : Hooks} (h : Silent g g') (hnone : report = false) : Sends report g g' := by
  rw [hnone]
  exact h

/-- what a handler does before it reports does not matter, as long as it leaves the epoch -/
theorem Sends.after {report : Bool} {g g' g'' : Hooks} (h : Sends report g' g'') (hsilent : Silent g g')
    (hepoch : g'.travelEpoch = g.travelEpoch) : Sends report g g'' := by
  cases report with
  | false => exact IsTrans.trans (r := Silent) _ _ _ hsilent h
  | true =>
    obtain ⟨before, hbefore, hother⟩ := hsilent
    obtain ⟨out, hout, ⟨payload, hpayload⟩, hall⟩ := h
    refine ⟨before ++ out, by rw [hout, hbefore, List.append_assoc], ⟨payload, by simp [hpayload]⟩, fun p hp => ?_⟩
    rcases List.mem_append.1 hp with hmem | hmem
    · exact absurd rfl (hother _ hmem)
    · rw [hall p hmem, hepoch]

theorem silent_prepare (role : Role) (e : Engine) (payload : Json) : Does Silent (travelPrepare role e payload) := by
  unfold travelPrepare beginTravel
  refine does_bind (does_liftExcept _) fun _ => ?_
  refine does_bind (does_modify fun _ => silent_of_same rfl) fun _ => ?_
  refine does_bind (does_liftExcept _) fun _ => ?_
  refine does_bind (does_modify fun _ => silent_of_same rfl) fun _ => ?_
  refine does_bind (does_ite ?_ (does_pure _)) fun _ => silent_emit (by simp)
  exact does_bind (does_modify fun _ => silent_of_same rfl) fun _ => does_modify fun _ => silent_of_same rfl

theorem silent_commit (role : Role) (e : Engine) (payload : Json) : Does Silent (travelCommit role e payload) := by
  unfold travelCommit beginTravel
  refine does_bind (does_liftExcept _) fun _ => ?_
  refine does_bind (does_modify fun _ => silent_of_same rfl) fun _ => ?_
  refine does_get fun _ => does_bind (does_liftExcept _) fun _ => ?_
  refine does_bind (does_modify fun _ => silent_of_same rfl) fun _ => ?_
  refine does_bind (does_ite ?_ (does_pure _)) fun _ => ?_
  · exact does_bind (does_modify fun _ => silent_of_same rfl) fun _ => does_modify fun _ => silent_of_same rfl
  · cases e.travelFault with
    | none => exact does_pure _
    | some fault => exact does_bind (does_modify fun _ => silent_of_same rfl) fun _ => silent_emit (by simp)

theorem silent_abort (payload : Json) : Does Silent (travelAbort payload) := by
  unfold travelAbort
  refine does_bind (does_liftExcept _) fun _ => ?_
  exact does_bind (does_modify fun _ => silent_of_same rfl) fun _ => does_modify fun _ => silent_of_same rfl

theorem silent_apply (role : Role) (e : Engine) (payload : Json) :
    Does Silent (applyRawGameMessage role e payload) := by
  unfold applyRawGameMessage
  refine does_ite (does_pure _) ?_
  cases readMessage payload with
  | error _ => exact does_pure _
  | ok m => exact does_ite (does_bind (does_modify fun _ => silent_of_same rfl) fun _ => does_pure _) (does_pure _)

theorem silent_raw (role : Role) (e : Engine) (payload : Json) : Does Silent (rawGameMessage role e payload) := by
  unfold rawGameMessage receiveRawGameMessage
  refine does_ite (does_bind (does_get fun g => does_ite ?_ ?_) fun _ => does_pure _) (does_pure _)
  · refine does_ite (does_pure _) (does_bind (does_liftExcept _) fun _ => does_ite (does_pure _) ?_)
    exact does_bind (does_modify fun _ => silent_of_same rfl) fun _ => does_pure _
  · refine does_bind (silent_apply role e payload) fun applied => ?_
    exact does_ite (does_bind (does_modify fun _ => silent_of_same rfl) fun _ => does_pure _) (does_pure _)

theorem silent_begin (role : Role) (epoch : ℤ) : Does Silent (beginBatch role epoch) := by
  unfold beginBatch
  refine does_bind (does_modify fun _ => silent_of_same rfl) fun _ => ?_
  exact does_ite (does_modify fun _ => silent_of_same rfl) (does_pure _)

/-- the host's game does not report for a message -/
theorem silent_hostBatch (e : Engine) (payload : Json) : Does Silent (travelViewBatch .host e payload) := by
  unfold travelViewBatch endBatch
  refine does_get fun g => does_bind (does_liftExcept _) fun epoch => does_ite (does_pure _) ?_
  refine does_bind (does_liftExcept _) fun kind => does_ite (silent_begin .host epoch) (does_ite ?_ (does_pure _))
  exact does_bind (does_modify fun _ => silent_of_same rfl) fun _ => does_pure _

theorem silent_hostResume (e : Engine) (payload : Json) : Does Silent (travelResume .host e payload) := by
  unfold travelResume
  exact does_bind (does_liftExcept _) fun _ => does_pure _

theorem exec_emit (e : Engine) (type : MessageType) (payload : Json) (g : Hooks) :
    exec (emit e type payload) g = match e.socket type with
      | .error fault => (.error fault, g)
      | .ok true => (.ok (), { g with emitted := g.emitted ++ [⟨type, payload⟩] })
      | .ok false => (.ok (), g) := by
  unfold emit
  rw [exec_bind, exec_liftExcept]
  rcases e.socket type with _ | sent
  · rfl
  · cases sent <;> rfl

theorem emit_sends (e : Engine) {payload : Json} {g : Hooks} (h : payload.get "epoch" = .ok (.int g.travelEpoch)) :
    Sends (e.socket .travelZoneReady = .ok true) g (exec (emit e .travelZoneReady payload) g).2 := by
  rw [exec_emit]
  rcases e.socket .travelZoneReady with _ | sent
  · exact sends_none (silent_of_same rfl) (by simp)
  · cases sent with
    | false => exact sends_none (silent_of_same rfl) (by simp)
    | true =>
      refine ⟨_, rfl, ⟨_, List.mem_singleton_self _⟩, fun p hp => ?_⟩
      rw [List.mem_singleton] at hp
      cases hp
      exact h

theorem finish_sends (e : Engine) (g : Hooks) : Sends (unreported g e) g (exec (finishZoneHydration e) g).2 := by
  unfold finishZoneHydration emit unreported
  simp only [exec_bind, exec_get]
  by_cases hreported : g.travelZoneReported = true
  · exact sends_none (by simp [hreported, refl]) (by simp [hreported])
  · rw [if_neg hreported, eq_false_of_ne_true hreported]
    simp only [exec_bind, exec_modify, exec_liftExcept]
    rcases e.socket .travelZoneReady with _ | sent
    · exact sends_none (silent_of_same rfl) (by simp)
    · cases sent with
      | false => exact sends_none (silent_of_same rfl) (by simp)
      | true =>
        refine ⟨_, rfl, ⟨_, List.mem_singleton_self _⟩, fun payload hpayload => ?_⟩
        rw [List.mem_singleton] at hpayload
        cases hpayload
        rfl

theorem endBatch_sends (e : Engine) (payload : Json) (g : Hooks) :
    Sends (namesHere e payload && unreported g e) g (exec (endBatch .client e payload) g).2 := by
  unfold endBatch namesHere
  simp only [exec_bind, exec_modify, exec_liftExcept, if_true]
  rcases payload.get "zone_id" with _ | zoneId
  · exact silent_of_same rfl
  · dsimp only
    by_cases hloaded : zoneIsLoaded e zoneId = true
    · rw [if_pos hloaded, hloaded, Bool.true_and]
      exact finish_sends e { g with travelBatchComplete := true }
    · rw [if_neg hloaded]
      exact sends_none (silent_of_same rfl) (by simp [hloaded])

theorem viewBatch_sends (e : Engine) (payload : Json) (g : Hooks) :
    Sends (asked .client g ⟨e, .viewBatch payload⟩) g (exec (travelViewBatch .client e payload) g).2 := by
  unfold travelViewBatch
  simp only [asked, ofTravel, isBatchEnd, exec_bind, exec_get, exec_liftExcept]
  rcases intField payload "epoch" (-1) with _ | epoch
  · exact sends_none (refl g) (by simp)
  · dsimp only
    by_cases hepoch : epoch = g.travelEpoch
    · rw [if_neg (not_not.2 hepoch), exec_bind, exec_liftExcept]
      rcases payload.getD "kind" (.str "") with _ | kind
      · exact sends_none (refl g) (by simp)
      · dsimp only
        by_cases hbegin : kind.toStr.toLower = "begin"
        · rw [if_pos hbegin]
          exact sends_none (silent_begin .client epoch g) (by simp [hbegin])
        · rw [if_neg hbegin]
          by_cases hend : kind.toStr.toLower = "end"
          · rw [if_pos hend]
            have hsends := endBatch_sends e payload g
            simpa [hepoch, hend] using hsends
          · rw [if_neg hend]
            exact sends_none (refl g) (by simp [hend])
    · rw [if_pos hepoch]
      exact sends_none (refl g) (by simp [hepoch])

/-- what is read for the log changes nothing -/
theorem sends_log {report : Bool} {g : Hooks} {p : HooksM Unit} (h : Sends report g (exec p g).2) (payload : Json) :
    Sends report g (exec (do
      p
      let _ ← payload.get "txn_id" : HooksM Unit) g).2 := by
  rw [exec_bind]
  rcases hexec : exec p g with ⟨_ | _, g'⟩
  · rwa [hexec] at h
  · rw [hexec] at h
    simp only [exec_bind, exec_liftExcept]
    cases payload.get "txn_id" <;> exact h

theorem resumeTravel_sends (e : Engine) (payload : Json) (g : Hooks) :
    Sends (asked .client g ⟨e, .resume payload⟩) g (exec (resumeTravel e payload) g).2 := by
  unfold resumeTravel
  simp only [asked, ofTravel, namesHere, exec_bind, exec_get, exec_liftExcept]
  rcases intField payload "epoch" g.travelEpoch with _ | epoch
  · exact sends_none (refl g) (by simp)
  · dsimp only
    by_cases hepoch : epoch = g.travelEpoch
    · rw [if_pos hepoch, hepoch]
      by_cases hcomplete : g.travelBatchComplete = true
      · rw [if_pos hcomplete, exec_bind, exec_liftExcept]
        rcases payload.get "zone_id" with _ | zoneId
        · exact sends_none (refl g) (by simp)
        · dsimp only
          by_cases hloaded : zoneIsLoaded e zoneId = true
          · rw [if_pos hloaded]
            have hsends := finish_sends e g
            simpa [hcomplete, hloaded] using hsends
          · rw [if_neg hloaded]
            exact sends_none (refl g) (by simp [hloaded])
      · rw [if_neg hcomplete]
        exact sends_none (refl g) (by simp [hcomplete])
    · rw [if_neg hepoch]
      exact sends_none (refl g) (by simp [hepoch])

theorem resume_sends (e : Engine) (payload : Json) (g : Hooks) :
    Sends (asked .client g ⟨e, .resume payload⟩) g (exec (travelResume .client e payload) g).2 :=
  sends_log (resumeTravel_sends e payload g) payload

/-- what the host's game reports, it reports after the end of its batch -/
theorem reportZone_sends (e : Engine) (g : Hooks) :
    Sends ((e.socket .travelViewBatch).isOk && e.socket .travelZoneReady = .ok true) g (exec (reportZone e) g).2 := by
  unfold reportZone
  simp only [exec_bind, exec_modify, exec_get]
  rw [exec_emit e .travelViewBatch]
  rcases e.socket .travelViewBatch with _ | batchSent
  · exact sends_none (silent_of_same rfl) rfl
  · cases batchSent with
    | false => exact (emit_sends e rfl).after (silent_of_same rfl) rfl
    | true => exact (emit_sends e rfl).after ⟨_, rfl, by simp⟩ rfl

theorem spinUp_sends (role : Role) (e : Engine) (g : Hooks) :
    Sends (asked role g ⟨e, .spinUp⟩) g (exec (afterZoneSpinUp role e) g).2 := by
  unfold afterZoneSpinUp travelZoneLoaded
  simp only [exec_bind, exec_get]
  by_cases hpending : g.pendingTravelTxn.truthy = true
  · rw [if_pos hpending]
    simp only [exec_bind, exec_modify, exec_get, exec_liftExcept]
    rcases hpub : e.publishes with _ | _
    · exact sends_none (silent_of_same rfl) (by cases role <;> simp [asked, hpub])
    · cases role with
      | host =>
        have hsends := (reportZone_sends e { g with travelLocalZoneLoaded := true }).after
          (g := g) (silent_of_same rfl) rfl
        simpa [asked, hpending, hpub] using hsends
      | client =>
        by_cases hcomplete : g.travelBatchComplete = true
        · have hasked : asked .client g ⟨e, .spinUp⟩ = unreported g e := by simp [asked, hpending, hpub, hcomplete]
          rw [hasked, if_pos rfl, if_pos hcomplete]
          exact (finish_sends e { g with travelLocalZoneLoaded := true }).after (silent_of_same rfl) rfl
        · rw [if_pos rfl, if_neg hcomplete]
          exact sends_none (silent_of_same rfl) (by simp [asked, hcomplete])
  · rw [if_neg hpending]
    refine sends_none ?_ (by cases role <;> simp [asked, hpending])
    exact does_liftExcept _ g

theorem handle_sends (role : Role) (g : Hooks) (i : Input) : Sends (asked role g i) g (handle role g i) := by
  obtain ⟨e, event⟩ := i
  cases event with
  | prepare payload => exact sends_none (silent_prepare role e payload g) (by cases role <;> rfl)
  | commit payload => exact sends_none (silent_commit role e payload g) (by cases role <;> rfl)
  | abort payload => exact sends_none (silent_abort payload g) (by cases role <;> rfl)
  | rawMessage payload => exact sends_none (silent_raw role e payload g) (by cases role <;> rfl)
  | spinUp => exact spinUp_sends role e g
  | viewBatch payload =>
    cases role with
    | client => exact viewBatch_sends e payload g
    | host => exact silent_hostBatch e payload g
  | resume payload =>
    cases role with
    | client => exact resume_sends e payload g
    | host => exact silent_hostResume e payload g

/-- the reports of one input are from the target zone exactly when it is asked for one there, if at all -/
theorem truthful_iff (role : Role) (w : Watched) (i : Input) :
    Truthful role w i ↔ (asked role w.hooks i = true → AtTarget w i) := by
  have hsends := handle_sends role w.hooks i
  unfold Truthful sent
  cases hasked : asked role w.hooks i with
  | false =>
    rw [hasked] at hsends
    obtain ⟨out, hout, hother⟩ := hsends
    rw [hout, List.drop_left]
    exact iff_of_true (fun payload hp => absurd rfl (hother _ hp)) (fun h => by cases h)
  | true =>
    rw [hasked] at hsends
    obtain ⟨out, hout, ⟨report, hreport⟩, hall⟩ := hsends
    rw [hout, List.drop_left]
    constructor
    · rintro htrue -
      obtain ⟨epoch, zone, hepoch, hcommit, hzone⟩ := htrue report hreport
      rw [hall report hreport] at hepoch
      cases hepoch
      exact ⟨zone, hcommit, hzone⟩
    · intro htarget payload hp
      obtain ⟨zone, hcommit, hzone⟩ := htarget rfl
      exact ⟨w.hooks.travelEpoch, zone, hall payload hp, hcommit, hzone⟩

/-- a message that names the target is checked against it -/
theorem named_target {w : Watched} {i : Input} {payload : Json} {zone : String}
    (hevent : i.event = .viewBatch payload ∨ i.event = .resume payload) (hname : payload.get "zone_id" = .ok (.str zone))
    (hzone : zone ≠ "") (hcommit : w.commits.lookup w.hooks.travelEpoch = some zone)
    (hasked : asked .client w.hooks i = true) : AtTarget w i := by
  have hnames : namesHere i.engine payload = true := by
    rcases hevent with h | h <;> simp [asked, h] at hasked
    · exact hasked.1.2
    · exact hasked.1.2
  unfold namesHere zoneIsLoaded at hnames
  rw [hname] at hnames
  cases hcurrent : i.engine.zone with
  | none => simp [hcurrent] at hnames
  | some current =>
    have hsame : current = zone := by simpa [hcurrent, Json.truthy, Json.toStr, hzone] using hnames
    exact ⟨zone, hcommit, by rw [hcurrent, hsame]⟩

/-- every zone report of the run is one from the zone of its epoch's commit -/
def ReportsTarget (role : Role) (inputs : List Input) : Prop :=
  ∀ step ∈ steps role .init inputs, Truthful role step.1 step.2

/-- **The game reports the target zone**, in a run of either role, exactly when each input that asks for a report finds
the game in the zone of the travel's commit. -/
theorem zone_ready_in_target (role : Role) (inputs : List Input) :
    ReportsTarget role inputs ↔
      ∀ step ∈ steps role .init inputs, asked role step.1.hooks step.2 = true → AtTarget step.1 step.2 :=
  forall₂_congr fun step _ => truthful_iff role step.1 step.2

/-- the host's travel is sent, and the client has not left its zone yet -/
def notLeft : Watched :=
  (Watched.init.next .client ⟨inZone "3", .prepare preparePayload⟩).next .client
    ⟨inZone "3", .commit (Host.commitPayload travelTo5)⟩

def batchEnd : Input := ⟨inZone "3", .viewBatch (Host.viewBatch travelTo5 "end")⟩

/-- the host's end of the batch names no zone, and the game reports the one it is about to leave -/
theorem zone_ready_elsewhere :
    sent .client notLeft.hooks batchEnd = [⟨.travelZoneReady, .obj [("txn_id", .str "t"), ("epoch", .int 1),
        ("zone_id", .str "3"), ("selected_sim_restored", .bool true)]⟩] ∧
      ¬ReportsTarget .client [⟨inZone "3", .prepare preparePayload⟩,
        ⟨inZone "3", .commit (Host.commitPayload travelTo5)⟩, batchEnd] := by
  refine ⟨by decide +kernel, fun h => ?_⟩
  have hstep := h (notLeft, batchEnd) (.tail _ (.tail _ (.head _)))
  obtain ⟨zone, hcommit, hzone⟩ := (truthful_iff .client notLeft batchEnd).1 hstep (by decide +kernel)
  have hfive : notLeft.commits.lookup notLeft.hooks.travelEpoch = some "5" := by decide +kernel
  rw [hfive] at hcommit
  cases hcommit
  exact absurd hzone (by decide)

end KerMP.Game
