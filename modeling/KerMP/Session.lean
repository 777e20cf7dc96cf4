/-
The host's authoritative session (`kermp/session.py`): players, Sims, travel, build authority, requests, dialogs.

Players and Sims refer to each other: a player has an active Sim, and a Sim's controllers are derived from the players
(`setSimControllers`). A stored interaction request is a dict that is shared by reference with the messages that carry
it; it is held here as its fields, under its id, and `InteractionRequest.core` is the part no later step rewrites.

- `Calm`: what most calls leave alone; one lemma for each of them (`updateReadiness_calm`, ...).
- `addPlayer_calm`, `removePlayer_eq`: arrivals and departures; `setAllControllers_eq`: the Sims after one.
- `validateInteraction_ok`: an accepted request is new and stored under its id.
-/
import Mathlib.Tactic.Tauto
import KerMP.Compatibility
import KerMP.Readiness
import KerMP.Routing
import KerMP.Travel

namespace KerMP

open Py Travel

/-! ## Data -/

structure Player where
  playerId : String
  displayName : String
  activeSimId : Option String
  manifest : Option CompatibilityManifest
  readiness : PlayerReadiness
deriving DecidableEq

structure Sim where
  simId : String
  name : String
  controllers : List String
deriving DecidableEq

structure Clock where
  sequence : ℕ
  speed : ℤ
  paused : Bool
deriving DecidableEq

def Clock.toJson (c : Clock) : List (String × Json) :=
  [("sequence", .int c.sequence), ("game_time", .null), ("speed", .int c.speed), ("paused", .bool c.paused)]

/-- a stored request: the fields of its dict -/
abbrev InteractionRequest := List (String × Json)

structure HostSession where
  sessionId : String
  sessionName : String
  players : Dict String Player
  travel : TravelCoordinator
  build : BuildAuthority
  sims : Dict String Sim
  interactionRequests : Dict String InteractionRequest
  reconnectSimIds : Dict String String
  hostManifest : Option CompatibilityManifest
  nativeBuildBuyRequired : Bool
  clock : Clock
  commands : NetworkedCommandRouter
  dialogs : DialogRouter

namespace HostSession

def init (sessionId : String) (hostManifest : CompatibilityManifest) (nativeBuildBuyRequired : Bool) : HostSession where
  sessionId
  sessionName := "KerMP LAN"
  players := ∅
  travel := .init
  build := .init
  sims := ∅
  interactionRequests := ∅
  reconnectSimIds := ∅
  hostManifest := some hostManifest
  nativeBuildBuyRequired
  clock := ⟨0, 1, false⟩
  commands := .init
  dialogs := .init

/-! ## Players and Sims -/

/-- the players whose active Sim is this one, in players order -/
def controllers (players : Dict String Player) (simId : String) : List String :=
  (players.values.filter fun p => p.activeSimId = some simId).map (·.playerId)

def setSimControllers (s : HostSession) (simId : String) : HostSession :=
  { s with sims := s.sims.mapItems fun k sim =>
      if k = simId then { sim with controllers := controllers s.players simId } else sim }

/-- `for sim_id in self.sims: self._set_sim_controllers(sim_id)` -/
def setAllControllers (s : HostSession) : HostSession := s.sims.keys.foldl setSimControllers s

def setManifest (s : HostSession) (playerId : String) (manifest : CompatibilityManifest) : HostSession :=
  match s.players.lookup playerId with
  | none => s
  | some player =>
    let reasons :=
      match s.hostManifest with
      | none => []
      | some host =>
        if (Json.str playerId).pyEq host.playerId then []
        else compareManifests host manifest s.nativeBuildBuyRequired
    let nativeReady :=
      if s.nativeBuildBuyRequired then manifest.nativeAvailable.truthy && manifest.nativeGameBuildSupported.truthy
      else true
    let readiness :=
      { player.readiness with compatibilityReasons := .arr (reasons.map .str), nativeReady := .bool nativeReady }
    let player := { player with manifest := some manifest, readiness := readiness.advance }
    { s with players := s.players.setItem playerId player }

/-- a player who left with an active Sim gets it back if the roster still has it -/
def addPlayer (s : HostSession) (playerId displayName : String) (manifest : CompatibilityManifest) : HostSession :=
  let s := { s with players := s.players.setItem playerId ⟨playerId, displayName, none, none, {}⟩ }
  let s := s.setManifest playerId manifest
  match s.reconnectSimIds.lookup playerId, s.players.lookup playerId with
  | some saved, some p =>
    if saved ∈ s.sims then
      { s with players := s.players.setItem playerId { p with activeSimId := some saved } }.setSimControllers saved
    else s
  | _, _ => s

/-- the Sim of a leaving player is remembered for its return -/
def rememberSim (s : HostSession) (playerId : String) : Dict String String :=
  match s.players.lookup playerId with
  | some ⟨_, _, some simId, _, _⟩ => if simId = "" then s.reconnectSimIds else s.reconnectSimIds.setItem playerId simId
  | _ => s.reconnectSimIds

def removePlayer (s : HostSession) (playerId : String) : HostSession :=
  let s := { s with reconnectSimIds := s.rememberSim playerId, players := s.players.erase playerId }
  let s := s.setAllControllers
  let s := if s.build.ownerId = some playerId then { s with build := { s.build with lock := none, leaseId := none } }
    else s
  { s with travel := (s.travel.removeParticipant playerId).2, dialogs := (s.dialogs.disconnect playerId).2 }

/-- `ValueError` for a key that is not an attribute, with the fields before it already set -/
def setReadiness (r : PlayerReadiness) : List (String × Json) → Except Exc Unit × PlayerReadiness
  | [] => (.ok (), r.advance)
  | (key, v) :: fields =>
    match r.setField key v with
    | none => (.error (.valueError "unknown_readiness_field"), r)
    | some r => setReadiness r fields

def updateReadiness (s : HostSession) (playerId : String) (fields : List (String × Json)) :
    Except Exc PlayerReadiness × HostSession :=
  match s.players.lookup playerId with
  | none => (.error (.keyError playerId), s)
  | some player =>
    match setReadiness player.readiness fields with
    | (.ok _, r) => (.ok r, { s with players := s.players.setItem playerId { player with readiness := r } })
    | (.error e, r) => (.error e, { s with players := s.players.setItem playerId { player with readiness := r } })

def coreReadiness (s : HostSession) : P0CoreReadiness :=
  let players := s.players.values
  let every (f : PlayerReadiness → Bool) : Bool := !players.isEmpty && players.all fun p => f p.readiness
  { compatibilityReady := every (!·.compatibilityReasons.truthy)
    saveReady := every (·.saveHash.truthy)
    bridgeReady := every (·.bridgeConnected.truthy)
    zoneReady := every (·.zoneReady.truthy)
    simulationAuthorityReady := every (·.simulationAuthorityReady.truthy)
    clockReady := true
    interactionRouterReady := true
    dialogRouterReady := true
    travelReady := true
    nativeBuildBuyReady := !s.nativeBuildBuyRequired || players.all (·.readiness.nativeReady.truthy) }

/-- one entry of a Sim roster; an entry without an id is skipped -/
def rosterEntry (previous : Dict String Sim) (j : Json) : Except Exc (Option Sim) := do
  let simId ← j.get "sim_id"
  if simId = .null ∨ simId.toStr = "" then return none
  let name ← j.getD "name" (.str "")
  return some ⟨simId.toStr, name.toStr, ((previous.lookup simId.toStr).map (·.controllers)).getD []⟩

def roster (previous : Dict String Sim) : List Json → Dict String Sim → Except Exc (Dict String Sim)
  | [], acc => .ok acc
  | j :: rest, acc => do
    match ← rosterEntry previous j with
    | none => roster previous rest acc
    | some sim => roster previous rest (acc.setItem sim.simId sim)

def updateSims (s : HostSession) (sims : List Json) : Except Exc HostSession := do
  let sims ← roster s.sims sims ∅
  return { s with sims }.setAllControllers

def selectSim (s : HostSession) (playerId simId : String) : Except Exc (Json × HostSession) :=
  match s.players.lookup playerId with
  | none => .error (.valueError "unknown_player")
  | some player =>
    match s.sims.lookup simId with
    | none => .error (.valueError "invalid_sim_id")
    | some sim =>
      let s := { s with players := s.players.setItem playerId { player with activeSimId := some simId } }
      .ok (.obj [("player_id", .str playerId), ("sim_id", .str simId), ("name", .str sim.name),
        ("controllers", .arr ((controllers s.players simId).map .str))], s.setSimControllers simId)

/-- `str(None)` for a player without a Sim -/
def activeSimStr (p : Player) : String := p.activeSimId.getD "None"

def simJson (sim : Sim) : Json :=
  .obj [("sim_id", .str sim.simId), ("name", .str sim.name), ("controllers", .arr (sim.controllers.map .str))]

def readinessJson : List (Sigma fun _ : String => Player) → Except Exc (List (String × Json))
  | [] => .ok []
  | ⟨pid, p⟩ :: rest => do
    let r ← p.readiness.snapshot
    let rs ← readinessJson rest
    return (pid, .obj r) :: rs

/-- read at time `now`; raises when a client's save progress cannot be divided -/
def snapshot (s : HostSession) (now : ℕ) : Except Exc Json := do
  let readiness ← readinessJson s.players.entries
  let core := s.coreReadiness
  return .obj [("session_id", .str s.sessionId), ("session_name", .str s.sessionName),
    ("players", .arr (s.players.values.map fun p => .obj [("player_id", .str p.playerId),
      ("display_name", .str p.displayName), ("active_sim_id", BuildAuthority.strOrNull p.activeSimId)])),
    ("sims", .arr (s.sims.values.map simJson)), ("travel", s.travel.snapshot), ("build", s.build.snapshot now),
    ("clock", .obj s.clock.toJson), ("readiness", .obj readiness),
    ("core_readiness", .obj ((core.asdict ++ [("core_ready", core.coreReady)]).map fun f => (f.1, .bool f.2)))]

/-! ## Interaction requests -/

/-- `dict(x or {})` -/
def dictOrEmpty (j : Json) : Except Exc (List (String × Json)) := (j.or (.obj [])).toDict

/-- the checked request, before it is stored -/
def checkInteraction (s : HostSession) (requestId : Json) (playerId : String) (payload : List (String × Json)) :
    Except Exc (String × InteractionRequest) := do
  let requestId := (requestId.or (.str "")).toStr
  let player := s.players.lookup playerId
  let given := Json.field payload "sim_id" .null
  let simId := if given.truthy then given.toStr else (player.map activeSimStr).getD ""
  require (requestId != "") (.valueError "missing_request_id")
  require (requestId ∉ s.interactionRequests) (.valueError "duplicate_request_id")
  require (player.any fun p => p.activeSimId = some simId) (.valueError "sim_not_owned")
  require (simId ∈ s.sims) (.valueError "invalid_sim_id")
  let affordanceId := ((Json.field payload "affordance_id" .null).or (.str "")).toStr
  require (affordanceId != "") (.valueError "missing_affordance_id")
  let kwargs ← dictOrEmpty (Json.field payload "interaction_kwargs" .null)
  return (requestId, [("request_id", .str requestId), ("player_id", .str playerId), ("sim_id", .str simId),
    ("affordance_id", .str affordanceId), ("target_id", Json.field payload "target_id" .null),
    ("target_kind", .str ((Json.field payload "target_kind" .null).or (.str "object")).toStr),
    ("target_sim_id", Json.field payload "target_sim_id" .null),
    ("target_type", Json.field payload "target_type" .null), ("position", Json.field payload "position" .null),
    ("pick", Json.field payload "pick" .null), ("interaction_kwargs", .obj kwargs), ("status", .str "accepted")])

/-- answers with the id the request is stored under -/
def validateInteraction (s : HostSession) (requestId : Json) (playerId : String) (payload : List (String × Json)) :
    Except Exc (String × HostSession) := do
  let (rid, request) ← s.checkInteraction requestId playerId payload
  return (rid, { s with interactionRequests := s.interactionRequests.setItem rid request })

/-- `interaction_id in (None, "", 0, "0")` -/
def noInteractionId (j : Json) : Bool :=
  j == .null || j.pyEq (.str "") || j.pyEq (.int 0) || j.pyEq (.str "0")

/-- answers with the announcement -/
def cancelInteraction (s : HostSession) (requestId : Json) (playerId : String) (payload : List (String × Json)) :
    Except Exc (Json × HostSession) := do
  let requestId := (requestId.or (.str "")).toStr
  let simId := ((Json.field payload "sim_id" .null).or (.str "")).toStr
  require ((s.players.lookup playerId).any fun p => p.activeSimId = some simId) (.valueError "sim_not_owned")
  let interactionId := Json.field payload "interaction_id" .null
  require (!noInteractionId interactionId) (.valueError "missing_interaction_id")
  let requestId := if requestId = "" then "cancel-" ++ playerId ++ "-" ++ interactionId.toStr else requestId
  let request := (s.interactionRequests.lookup requestId).getD
    [("request_id", .str requestId), ("player_id", .str playerId), ("sim_id", .str simId), ("affordance_id", .null),
      ("target_id", .null), ("position", .null)]
  let request := Json.setField request "status" (.str "cancel_requested")
  return (.obj [("request_id", .str requestId), ("player_id", .str playerId), ("sim_id", .str simId),
      ("interaction_id", interactionId), ("context_handle", Json.field payload "context_handle" .null),
      ("status", .str "cancel_requested")],
    { s with interactionRequests := s.interactionRequests.setItem requestId request })

/-- `interaction_requests[rid][key] = v`, for a stored request -/
def setRequestField (s : HostSession) (rid key : String) (v : Json) : HostSession :=
  { s with interactionRequests := s.interactionRequests.mapItems fun k r => if k = rid then Json.setField r key v else r }

/-- the id of the first request with this interaction id -/
def requestOfInteraction (s : HostSession) (interactionId : Json) : Json :=
  match s.interactionRequests.entries.find? fun e => (Json.field e.2 "interaction_id" .null).pyEq interactionId with
  | some e => .str e.1
  | none => .null

/-! ## What a call leaves alone -/

/-- the part of a request no later step rewrites -/
def core (r : InteractionRequest) : InteractionRequest :=
  r.filter fun f => !(["status", "interaction_id", "command"].contains f.1)

theorem core_setField (r : InteractionRequest) {key : String} (v : Json)
    (hkey : ["status", "interaction_id", "command"].contains key = true) : core (Json.setField r key v) = core r := by
  have hmap : ∀ l : InteractionRequest,
      core (l.map fun p => if p.1 = key then (key, v) else p) = core l := by
    intro l
    induction l with
    | nil => rfl
    | cons f l ih =>
      unfold core at ih ⊢
      by_cases hf : f.1 = key
      · have hf' : ["status", "interaction_id", "command"].contains f.1 = true := hf ▸ hkey
        simp only [List.map_cons, if_pos hf, List.filter_cons, hkey, hf', Bool.not_true, Bool.false_eq_true, if_false, ih]
      · simp only [List.map_cons, if_neg hf, List.filter_cons, ih]
  unfold Json.setField
  split_ifs
  · exact hmap r
  · unfold core
    simp only [List.filter_append, List.filter_cons, hkey, Bool.not_true, Bool.false_eq_true, if_false, List.filter_nil,
      List.append_nil]

/-- stored requests stay, and keep their core -/
def Kept (d d' : Dict String InteractionRequest) : Prop :=
  ∀ rid r, d.lookup rid = some r → ∃ r', d'.lookup rid = some r' ∧ core r' = core r

theorem Kept.refl (d : Dict String InteractionRequest) : Kept d d := fun _ r h => ⟨r, h, rfl⟩

theorem Kept.trans {a b c : Dict String InteractionRequest} (h : Kept a b) (h' : Kept b c) : Kept a c := by
  intro rid r hr
  obtain ⟨r', hr', hc⟩ := h rid r hr
  obtain ⟨r'', hr'', hc'⟩ := h' rid r' hr'
  exact ⟨r'', hr'', hc'.trans hc⟩

/-- the readiness of a player of the session -/
def readinessOf (s : HostSession) (playerId : String) : Option PlayerReadiness :=
  (s.players.lookup playerId).map (·.readiness)

/-- travel, the build authority, the set of players, the requests and the clock are left alone -/
structure Calm (s s' : HostSession) : Prop where
  travel : s'.travel = s.travel
  build : s'.build = s.build
  players : s'.players.keys = s.players.keys
  requests : s'.interactionRequests = s.interactionRequests
  clock : s'.clock = s.clock

theorem Calm.refl (s : HostSession) : Calm s s := ⟨rfl, rfl, rfl, rfl, rfl⟩

theorem Calm.trans {a b c : HostSession} (h : Calm a b) (h' : Calm b c) : Calm a c :=
  ⟨h'.travel.trans h.travel, h'.build.trans h.build, h'.players.trans h.players, h'.requests.trans h.requests,
    h'.clock.trans h.clock⟩

theorem keys_setItem_of_lookup {α : Type} {d : Dict String α} {k : String} {v : α} (h : d.lookup k = some v) (w : α) :
    (d.setItem k w).keys = d.keys := by
  have hk : k ∈ d := AList.lookup_isSome.1 (by rw [h]; rfl)
  rw [AList.keys_setItem, if_pos hk]

theorem updateReadiness_calm (s : HostSession) (playerId : String) (fields : List (String × Json)) :
    Calm s (s.updateReadiness playerId fields).2 := by
  unfold updateReadiness
  cases hp : s.players.lookup playerId with
  | none => exact Calm.refl s
  | some player =>
    rcases hr : setReadiness player.readiness fields with ⟨_ | _, r⟩
    · simp only [hr]
      exact ⟨rfl, rfl, keys_setItem_of_lookup hp _, rfl, rfl⟩
    · simp only [hr]
      exact ⟨rfl, rfl, keys_setItem_of_lookup hp _, rfl, rfl⟩

/-- every Sim with the controllers its players make of it -/
def controlled (players : Dict String Player) (sims : Dict String Sim) : Dict String Sim :=
  sims.mapItems fun id sim => { sim with controllers := controllers players id }

/-- controllers are all that is recomputed -/
theorem setAllControllers_eq (s : HostSession) : s.setAllControllers = { s with sims := controlled s.players s.sims } := by
  have key : ∀ (ids : List String) (s : HostSession), ids.foldl setSimControllers s =
      { s with sims := s.sims.mapItems fun id sim =>
          if id ∈ ids then { sim with controllers := controllers s.players id } else sim } := by
    intro ids
    induction ids with
    | nil =>
      intro s
      have hsame : s.sims.mapItems (fun _ sim => sim) = s.sims := AList.mapItems_eq_self.2 fun _ _ => rfl
      simp only [List.not_mem_nil, if_false, hsame]
      rfl
    | cons id ids ih =>
      intro s
      rw [List.foldl_cons, ih]
      simp only [setSimControllers, AList.mapItems_mapItems, List.mem_cons]
      congr 2
      funext k sim
      by_cases hk : k ∈ ids
      · simp only [hk, or_true, if_true]
        split_ifs <;> rfl
      · simp only [hk, or_false, if_false]
        split_ifs with hid
        · rw [hid]
        · rfl
  rw [setAllControllers, key]
  congr 1
  apply AList.ext
  apply List.map_congr_left
  intro e he
  have hkey : e.1 ∈ s.sims.keys := List.mem_map.2 ⟨e, he, rfl⟩
  simp only [hkey, if_true]

/-- a new roster, and the controllers of its Sims -/
theorem updateSims_ok {s s' : HostSession} {sims : List Json} (h : s.updateSims sims = .ok s') :
    ∃ roster, s' = { s with sims := controlled s.players roster } := by
  obtain ⟨r, -, hs'⟩ := bind_ok h
  rw [pure_eq_ok, Except.ok.injEq, setAllControllers_eq] at hs'
  exact ⟨r, hs'.symm⟩

/-- the player's active Sim, and the controllers of that Sim -/
theorem selectSim_ok {s s' : HostSession} {playerId simId : String} {j : Json}
    (h : s.selectSim playerId simId = .ok (j, s')) :
    ∃ player, s.players.lookup playerId = some player ∧ simId ∈ s.sims ∧ s' = setSimControllers
      { s with players := s.players.setItem playerId { player with activeSimId := some simId } } simId := by
  unfold selectSim at h
  split at h
  · cases h
  · rename_i player hp
    split at h
    · cases h
    · rename_i sim hsim
      cases h
      exact ⟨player, hp, AList.lookup_isSome.1 (by rw [hsim]; rfl), rfl⟩

theorem updateSims_calm {s s' : HostSession} {sims : List Json} (h : s.updateSims sims = .ok s') : Calm s s' := by
  obtain ⟨r, rfl⟩ := updateSims_ok h
  exact ⟨rfl, rfl, rfl, rfl, rfl⟩

theorem updateSims_readiness {s s' : HostSession} {sims : List Json} (h : s.updateSims sims = .ok s') (p : String) :
    s'.readinessOf p = s.readinessOf p := by
  obtain ⟨r, rfl⟩ := updateSims_ok h
  rfl

theorem selectSim_calm {s s' : HostSession} {playerId simId : String} {j : Json}
    (h : s.selectSim playerId simId = .ok (j, s')) : Calm s s' := by
  obtain ⟨player, hp, -, rfl⟩ := selectSim_ok h
  exact ⟨rfl, rfl, keys_setItem_of_lookup hp _, rfl, rfl⟩

theorem selectSim_readiness {s s' : HostSession} {playerId simId : String} {j : Json}
    (h : s.selectSim playerId simId = .ok (j, s')) (p : String) : s'.readinessOf p = s.readinessOf p := by
  obtain ⟨player, hp, -, rfl⟩ := selectSim_ok h
  show ((s.players.setItem playerId { player with activeSimId := some simId }).lookup p).map _ =
    (s.players.lookup p).map _
  rw [AList.lookup_setItem]
  split_ifs with he
  · rw [he, hp]
    rfl
  · rfl

theorem setRequestField_kept (s : HostSession) (rid : String) {key : String} (v : Json)
    (hkey : ["status", "interaction_id", "command"].contains key = true) :
    Kept s.interactionRequests (s.setRequestField rid key v).interactionRequests := by
  intro id r hr
  simp only [setRequestField, AList.lookup_mapItems, hr, Option.map_some, Option.some.injEq, exists_eq_left']
  split_ifs
  · exact core_setField r v hkey
  · rfl

theorem cancelInteraction_kept {s s' : HostSession} {requestId j : Json} {playerId : String}
    {payload : List (String × Json)} (h : s.cancelInteraction requestId playerId payload = .ok (j, s')) :
    ∃ requests, Kept s.interactionRequests requests ∧ s' = { s with interactionRequests := requests } := by
  unfold cancelInteraction at h
  obtain ⟨-, -, h⟩ := bind_ok h
  obtain ⟨-, -, h⟩ := bind_ok h
  rw [pure_eq_ok, Except.ok.injEq, Prod.mk.injEq] at h
  obtain ⟨-, rfl⟩ := h
  refine ⟨_, fun id r hr => ?_, rfl⟩
  generalize (if (requestId.or (.str "")).toStr = "" then _ else _ : String) = rid
  rw [AList.lookup_setItem]
  split_ifs with hid
  · subst hid
    exact ⟨_, rfl, by rw [hr]; exact core_setField r _ (by decide)⟩
  · exact ⟨r, hr, rfl⟩

/-- an accepted request has a new id, and names its player -/
theorem checkInteraction_ok {s : HostSession} {requestId : Json} {playerId rid : String}
    {payload : List (String × Json)} {r : InteractionRequest}
    (h : s.checkInteraction requestId playerId payload = .ok (rid, r)) :
    rid ∉ s.interactionRequests ∧ r.lookup "request_id" = some (.str rid) ∧
      r.lookup "player_id" = some (.str playerId) ∧ r.lookup "status" = some (.str "accepted") := by
  unfold checkInteraction at h
  dsimp only at h
  obtain ⟨-, -, h⟩ := bind_ok h
  obtain ⟨_, hnew, h⟩ := bind_ok h
  obtain ⟨-, -, h⟩ := bind_ok h
  obtain ⟨-, -, h⟩ := bind_ok h
  obtain ⟨-, -, h⟩ := bind_ok h
  obtain ⟨kwargs, -, h⟩ := bind_ok h
  rw [pure_eq_ok, Except.ok.injEq, Prod.mk.injEq] at h
  obtain ⟨rfl, rfl⟩ := h
  exact ⟨of_decide_eq_true (require_ok hnew), rfl, rfl, rfl⟩

/-- it is stored under its id -/
theorem validateInteraction_ok {s s' : HostSession} {requestId : Json} {playerId rid : String}
    {payload : List (String × Json)} (h : s.validateInteraction requestId playerId payload = .ok (rid, s')) :
    ∃ r, s.checkInteraction requestId playerId payload = .ok (rid, r) ∧ s.interactionRequests.lookup rid = none ∧
      s' = { s with interactionRequests := s.interactionRequests.setItem rid r } := by
  unfold validateInteraction at h
  obtain ⟨⟨rid', r⟩, hcheck, h⟩ := bind_ok h
  dsimp only at h
  rw [pure_eq_ok, Except.ok.injEq, Prod.mk.injEq] at h
  obtain ⟨rfl, rfl⟩ := h
  exact ⟨r, hcheck, AList.lookup_eq_none.2 (checkInteraction_ok hcheck).1, rfl⟩

/-! ## Arrivals and departures -/

theorem setManifest_calm (s : HostSession) (playerId : String) (manifest : CompatibilityManifest) :
    Calm s (s.setManifest playerId manifest) := by
  unfold setManifest
  split
  · exact Calm.refl s
  · rename_i player hp
    exact ⟨rfl, rfl, keys_setItem_of_lookup hp _, rfl, rfl⟩

/-- an arrival is a new entry in players; what follows concerns readiness, Sims and their controllers -/
theorem addPlayer_calm (s : HostSession) (playerId displayName : String) (manifest : CompatibilityManifest) :
    Calm { s with players := s.players.setItem playerId ⟨playerId, displayName, none, none, {}⟩ }
      (s.addPlayer playerId displayName manifest) := by
  have hset := setManifest_calm { s with players := s.players.setItem playerId ⟨playerId, displayName, none, none, {}⟩ }
    playerId manifest
  unfold addPlayer
  dsimp only
  split
  · rename_i saved p hsaved hp
    split_ifs
    · exact hset.trans ⟨rfl, rfl, keys_setItem_of_lookup hp _, rfl, rfl⟩
    · exact hset
  · exact hset

/-- what a departure does -/
theorem removePlayer_eq (s : HostSession) (playerId : String) :
    (s.removePlayer playerId).players = s.players.erase playerId ∧
      (s.removePlayer playerId).travel = (s.travel.removeParticipant playerId).2 ∧
      (s.removePlayer playerId).build =
        (if s.build.ownerId = some playerId then { s.build with lock := none, leaseId := none } else s.build) ∧
      (s.removePlayer playerId).interactionRequests = s.interactionRequests ∧
      (s.removePlayer playerId).dialogs = (s.dialogs.disconnect playerId).2 ∧
      (s.removePlayer playerId).sims = controlled (s.players.erase playerId) s.sims := by
  unfold removePlayer
  dsimp only
  rw [setAllControllers_eq]
  dsimp only
  split_ifs
  · exact ⟨rfl, rfl, rfl, rfl, rfl, rfl⟩
  · exact ⟨rfl, rfl, rfl, rfl, rfl, rfl⟩

end HostSession

end KerMP
