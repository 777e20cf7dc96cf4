/-
Readiness of the session and of its players (`HostSession.core_readiness`, `update_readiness`, `set_manifest` of
`kermp/session.py`; `PlayerReadiness` and `P0CoreReadiness` of `kermp/readiness.py`).

A player is ready when seven fields say so and no error is reported. The session is ready when six flags, each about
one field of all players, and four that are always set say so: what a player reports as an error is in none of them.

Results, for every sequence of calls on a new session whose players arrive with manifests:
- `Advanced`: the state of every player is the one derived from the other fields, kept by every call (`advanced_call`).
- `core_implies_players`: a ready session has ready players only, exactly when no player reports an error where
  everything else is there (`HiddenError`).
- `error_is_hidden`: a player reports an error, and the session stays ready.
-/
import KerMP.SessionMembers

namespace KerMP

open Py

namespace HostSession

/-! ## Calls -/

/-- what changes a player's readiness: three messages of a client, and the host's game -/
inductive ReadinessUpdate where
  | readiness (payload : Json)
  | saveAck (payload : Json)
  | saveError (payload : Json)
  | game (authority : Bool)

/-- the fields that are set, unless the payload cannot be read -/
def ReadinessUpdate.fields : ReadinessUpdate → Except Exc (List (String × Json))
  | .readiness payload => Host.allowedFields payload
  | .saveAck payload => do
    let hash ← Host.strField payload "sha256"
    let total ← Host.intField payload "total_bytes" 0
    return [("save_hash", .str hash), ("save_bytes_received", .int total), ("save_total_bytes", .int total)]
  | .saveError payload => do
    let reason ← payload.getD "reason" (.str "unknown")
    return [("error", .str ("save_sync:" ++ reason.toStr))]
  | .game authority => .ok (("bridge_connected", .bool true) ::
      if authority then [("simulation_authority_ready", .bool true)] else [])

inductive ReadinessCall where
  | session (c : SessionCall)
  | update (playerId : String) (u : ReadinessUpdate)

def readinessCall (s : HostSession) : ReadinessCall → HostSession
  | .session c => s.sessionCall c
  | .update playerId u =>
    match u.fields with
    | .ok fields => (s.updateReadiness playerId fields).2
    | .error _ => s

def readinessCalls (s : HostSession) (cs : List ReadinessCall) : HostSession := cs.foldl readinessCall s

/-- players arrive with a manifest -/
def WithManifest : ReadinessCall → Prop
  | .session (.roster (.addPlayer _ _ manifest)) => manifest.isSome = true
  | _ => True

instance : DecidablePred WithManifest := fun c => by
  unfold WithManifest
  split <;> infer_instance

/-! ## What is claimed -/

/-- a ready session has ready players only -/
def CoreImpliesPlayers (s : HostSession) : Prop :=
  s.coreReadiness.coreReady = true →
    ∀ p ∈ s.players.values, p.readiness.ready = .bool true ∧ p.readiness.state = .gameReady

/-- all that is asked of a player is there, whether or not it reports an error -/
structure Provided (native : Bool) (r : PlayerReadiness) : Prop where
  compatible : r.compatibilityReasons.truthy = false
  saved : r.saveHash.truthy = true
  bridge : r.bridgeConnected.truthy = true
  zone : r.zoneReady.truthy = true
  authority : r.simulationAuthorityReady.truthy = true
  native : native = true → r.nativeReady.truthy = true

/-- every player has all that is asked of it, and one reports an error -/
def HiddenError (s : HostSession) : Prop :=
  (∀ p ∈ s.players.values, Provided s.nativeBuildBuyRequired p.readiness) ∧
    ∃ p ∈ s.players.values, p.readiness.error.truthy = true

/-! ## The two notions -/

theorem coreReady_iff (s : HostSession) : s.coreReadiness.coreReady = true ↔
    s.players.values ≠ [] ∧ ∀ p ∈ s.players.values, Provided s.nativeBuildBuyRequired p.readiness := by
  have hprovided : ∀ p : Player, Provided s.nativeBuildBuyRequired p.readiness ↔
      p.readiness.compatibilityReasons.truthy = false ∧ p.readiness.saveHash.truthy = true ∧
        p.readiness.bridgeConnected.truthy = true ∧ p.readiness.zoneReady.truthy = true ∧
        p.readiness.simulationAuthorityReady.truthy = true ∧
        (s.nativeBuildBuyRequired = true → p.readiness.nativeReady.truthy = true) := fun p =>
    ⟨fun h => ⟨h.1, h.2, h.3, h.4, h.5, h.6⟩, fun ⟨h₁, h₂, h₃, h₄, h₅, h₆⟩ => ⟨h₁, h₂, h₃, h₄, h₅, h₆⟩⟩
  simp only [hprovided]
  simp only [coreReadiness, P0CoreReadiness.coreReady, P0CoreReadiness.asdict, List.all_cons, List.all_nil,
    Bool.and_true, Bool.true_and, Bool.and_eq_true, Bool.or_eq_true, Bool.not_eq_true', List.all_eq_true]
  constructor
  · rintro ⟨⟨hne, h₁⟩, ⟨-, h₂⟩, ⟨-, h₃⟩, ⟨-, h₄⟩, ⟨-, h₅⟩, h₆⟩
    refine ⟨fun he => by simp [he] at hne, fun p hp => ⟨h₁ p hp, h₂ p hp, h₃ p hp, h₄ p hp, h₅ p hp, fun hn => ?_⟩⟩
    rcases h₆ with h₆ | h₆
    · rw [hn] at h₆
      cases h₆
    · exact h₆ p hp
  · rintro ⟨hne, h⟩
    have hne' : s.players.values.isEmpty = false := by simpa using hne
    refine ⟨⟨hne', fun p hp => (h p hp).1⟩, ⟨hne', fun p hp => (h p hp).2.1⟩, ⟨hne', fun p hp => (h p hp).2.2.1⟩,
      ⟨hne', fun p hp => (h p hp).2.2.2.1⟩, ⟨hne', fun p hp => (h p hp).2.2.2.2.1⟩, ?_⟩
    cases hn : s.nativeBuildBuyRequired with
    | false => exact Or.inl rfl
    | true => exact Or.inr fun p hp => (h p hp).2.2.2.2.2 hn

/-- what counts as a hash is not the empty string -/
theorem pyEq_empty_of_truthy {j : Json} (h : j.truthy = true) : j.pyEq (.str "") = false := by
  cases j with
  | str t => simpa [Json.pyEq, Json.truthy] using h
  | float x => cases x <;> simp [Json.pyEq, Json.num?]
  | _ => rfl

theorem and_of_truthy {a : Json} (h : a.truthy = true) (b : Json) : a.and b = b := if_pos h

/-- with all that is asked of it, a player is ready unless it reports an error -/
theorem Provided.ready {native : Bool} {r : PlayerReadiness} (h : Provided native r)
    (hnative : r.nativeReady.truthy = true) : r.ready = .bool !r.error.truthy := by
  rw [PlayerReadiness.ready, h.compatible, pyEq_empty_of_truthy h.saved]
  rw [and_of_truthy rfl, and_of_truthy rfl, and_of_truthy h.bridge, and_of_truthy h.zone, and_of_truthy h.authority,
    and_of_truthy hnative]

/-! ## What the calls keep -/

/-- the state follows from the other fields, and native support counts as there where nobody asks for it -/
structure AdvancedReadiness (native : Bool) (r : PlayerReadiness) : Prop where
  state : r.advance = r
  native : native = false → r.nativeReady.truthy = true

/-- every player's readiness is advanced -/
def Advanced (s : HostSession) : Prop :=
  ∀ id p, s.players.lookup id = some p → AdvancedReadiness s.nativeBuildBuyRequired p.readiness

theorem mem_fields {u : ReadinessUpdate} {fields : List (String × Json)} (h : u.fields = .ok fields)
    {f : String × Json} (hf : f ∈ fields) : f.1 ∈ PlayerReadiness.clientFields := by
  cases u with
  | readiness payload =>
    cases payload with
    | obj kvs =>
      cases h
      exact List.contains_iff_mem.1 (List.mem_filter.1 hf).2
    | _ => cases h
  | saveAck payload =>
    obtain ⟨hash, -, h⟩ := bind_ok h
    obtain ⟨total, -, h⟩ := bind_ok h
    cases h
    simp only [List.mem_cons, List.not_mem_nil, or_false] at hf
    rcases hf with rfl | rfl | rfl <;> simp [PlayerReadiness.clientFields]
  | saveError payload =>
    obtain ⟨reason, -, h⟩ := bind_ok h
    cases h
    rw [List.mem_singleton.1 hf]
    simp [PlayerReadiness.clientFields]
  | game authority =>
    cases h
    cases authority <;> simp only [List.mem_cons, List.not_mem_nil, or_false, if_true, if_false, Bool.false_eq_true] at hf
    · rw [hf]
      simp [PlayerReadiness.clientFields]
    · rcases hf with rfl | rfl <;> simp [PlayerReadiness.clientFields]

/-- such fields are set, and then the state is derived -/
theorem setReadiness_allowed {fields : List (String × Json)} (hfields : ∀ f ∈ fields, f.1 ∈ PlayerReadiness.clientFields)
    (r : PlayerReadiness) : (setReadiness r fields).2.advance = (setReadiness r fields).2 ∧
      (setReadiness r fields).2.compatibilityReasons = r.compatibilityReasons ∧
      (setReadiness r fields).2.nativeReady = r.nativeReady := by
  induction fields generalizing r with
  | nil => exact ⟨r.advance_advance, rfl, rfl⟩
  | cons f fields ih =>
    obtain ⟨key, v⟩ := f
    obtain ⟨r', hr', hreasons', hnative'⟩ := PlayerReadiness.setField_client (hfields (key, v) List.mem_cons_self) r v
    obtain ⟨hstate, hreasons, hnative⟩ := ih (fun f hf => hfields f (List.mem_cons_of_mem _ hf)) r'
    rw [setReadiness, hr']
    exact ⟨hstate, hreasons.trans hreasons', hnative.trans hnative'⟩

variable {s : HostSession}

theorem Advanced.setItem (h : Advanced s) {id : String} {v : Player}
    (hv : AdvancedReadiness s.nativeBuildBuyRequired v.readiness) :
    ∀ k p, (s.players.setItem id v).lookup k = some p → AdvancedReadiness s.nativeBuildBuyRequired p.readiness := by
  intro k p hp
  rcases AList.lookup_setItem_eq_some.1 hp with ⟨-, rfl⟩ | ⟨-, hold⟩
  · exact hv
  · exact h k p hold

theorem Advanced.of_eq {s' : HostSession} (h : Advanced s) (hplayers : s'.players = s.players)
    (hnative : s'.nativeBuildBuyRequired = s.nativeBuildBuyRequired) : Advanced s' := by
  intro id p hp
  rw [hplayers] at hp
  rw [hnative]
  exact h id p hp

/-- an update by a message -/
theorem advanced_update (h : Advanced s) (id : String) {fields : List (String × Json)}
    (hfields : ∀ f ∈ fields, f.1 ∈ PlayerReadiness.clientFields) : Advanced (s.updateReadiness id fields).2 := by
  unfold updateReadiness
  cases hp : s.players.lookup id with
  | none => exact h
  | some p =>
    obtain ⟨hstate, -, hnative⟩ := setReadiness_allowed hfields p.readiness
    have hold := h id p hp
    have hnew : AdvancedReadiness s.nativeBuildBuyRequired (setReadiness p.readiness fields).2 :=
      ⟨hstate, fun hn => by rw [hnative]; exact hold.native hn⟩
    dsimp only
    rcases hset : setReadiness p.readiness fields with ⟨_ | _, r⟩ <;> rw [hset] at hnew <;> exact h.setItem hnew

/-- an arrival with a manifest -/
theorem advanced_addPlayer (h : Advanced s) (id name : String) (m : CompatibilityManifest) :
    Advanced (s.addPlayerMaybe id name (some m)) := by
  -- the record that the manifest makes of a new player
  have hmanifest : ∃ q : Player, setManifest { s with players := s.players.setItem id ⟨id, name, none, none, {}⟩ } id m =
      { s with players := s.players.setItem id q } ∧ AdvancedReadiness s.nativeBuildBuyRequired q.readiness := by
    unfold setManifest
    dsimp only
    rw [AList.lookup_setItem_self]
    dsimp only
    refine ⟨_, by rw [AList.setItem_setItem], ⟨PlayerReadiness.advance_advance _, fun hn => ?_⟩⟩
    simp [PlayerReadiness.advance, hn, Json.truthy]
  obtain ⟨q, hq, hadvanced⟩ := hmanifest
  unfold addPlayerMaybe
  dsimp only
  rw [hq]
  dsimp only
  rw [AList.lookup_setItem_self]
  have hplain : Advanced { s with players := s.players.setItem id q } := h.setItem hadvanced
  cases hsaved : s.reconnectSimIds.lookup id with
  | none => exact hplain
  | some saved =>
    dsimp only
    split_ifs
    · exact Advanced.setItem (s := { s with players := s.players.setItem id q }) hplain hadvanced
    · exact hplain

theorem removePlayer_native (s : HostSession) (id : String) :
    (s.removePlayer id).nativeBuildBuyRequired = s.nativeBuildBuyRequired := by
  unfold removePlayer
  dsimp only
  rw [setAllControllers_eq]
  split_ifs <;> rfl

theorem Advanced.travelled (h : Advanced s) {α : Type} (r : Except Exc (α × Travel.TravelCoordinator)) :
    Advanced (s.travelled r) := by
  cases r <;> exact h.of_eq rfl rfl

theorem advanced_call (h : Advanced s) (c : ReadinessCall) (hc : WithManifest c) : Advanced (s.readinessCall c) := by
  cases c with
  | update id u =>
    simp only [readinessCall]
    cases hu : u.fields with
    | error e => exact h
    | ok fields => exact advanced_update h id fun f hf => mem_fields hu hf
  | session c =>
    cases c with
    | roster c =>
      cases c with
      | addPlayer id name manifest =>
        obtain ⟨m, rfl⟩ := Option.isSome_iff_exists.1 hc
        exact advanced_addPlayer h id name m
      | removePlayer id =>
        intro k p hp
        simp only [readinessCall, sessionCall, call, (removePlayer_eq s id).1, AList.lookup_erase_eq] at hp
        simp only [readinessCall, sessionCall, call, removePlayer_native]
        split_ifs at hp
        exact h k p hp
      | updateSims sims =>
        simp only [readinessCall, sessionCall]
        rcases call_updateSims s sims with hcall | ⟨r, hcall⟩
        · rwa [hcall]
        · rw [hcall]
          exact h.of_eq rfl rfl
      | selectSim id simId =>
        simp only [readinessCall, sessionCall]
        rcases call_selectSim s id simId with ⟨hcall, -⟩ | ⟨player, hp, -, hcall⟩
        · rwa [hcall]
        · rw [hcall]
          exact h.setItem (v := { player with activeSimId := some simId }) (h id player hp)
    | propose zoneId actorIds uuid => exact h.travelled _
    | markReady id txnId epoch => exact h.travelled _
    | beginZoneWait txnId => exact h.travelled _
    | markZoneReady id txnId epoch => exact h.travelled _
    | abort txnId => exact h.travelled _
    | _ => exact h.of_eq rfl rfl

theorem advanced_calls (h : Advanced s) {cs : List ReadinessCall} (hcs : ∀ c ∈ cs, WithManifest c) :
    Advanced (s.readinessCalls cs) := by
  induction cs generalizing s with
  | nil => exact h
  | cons c cs ih =>
    exact ih (advanced_call h c (hcs c List.mem_cons_self)) fun c hc => hcs c (List.mem_cons_of_mem _ hc)

/-! ## Ready sessions -/

/-- **Ready sessions.** After any calls on a new session whose players arrive with manifests, a ready session has ready
players only, unless every player has all that is asked of it and one of them reports an error. -/
theorem core_implies_players (sessionId : String) (hostManifest : CompatibilityManifest) (native : Bool)
    (cs : List ReadinessCall) (hcs : ∀ c ∈ cs, WithManifest c) :
    CoreImpliesPlayers ((init sessionId hostManifest native).readinessCalls cs) ↔
      ¬ HiddenError ((init sessionId hostManifest native).readinessCalls cs) := by
  have hadvanced : Advanced ((init sessionId hostManifest native).readinessCalls cs) := by
    refine advanced_calls (fun id p hp => ?_) hcs
    cases hp
  generalize (init sessionId hostManifest native).readinessCalls cs = s at hadvanced
  have hplayer : ∀ p ∈ s.players.values, AdvancedReadiness s.nativeBuildBuyRequired p.readiness := by
    intro p hp
    obtain ⟨e, he, rfl⟩ := List.mem_map.1 hp
    exact hadvanced e.1 e.2 (AList.mem_lookup_iff.2 he)
  -- where everything asked of it is there, a player is ready exactly when it reports no error
  have hready : ∀ p ∈ s.players.values, Provided s.nativeBuildBuyRequired p.readiness →
      p.readiness.ready = .bool !p.readiness.error.truthy := by
    intro p hp hprovided
    refine hprovided.ready ?_
    cases hn : s.nativeBuildBuyRequired with
    | false => exact (hplayer p hp).native hn
    | true => exact hprovided.native hn
  constructor
  · rintro hclaim ⟨hall, p, hp, herror⟩
    have hcore := (coreReady_iff s).2 ⟨List.ne_nil_of_mem hp, hall⟩
    have hr := (hclaim hcore p hp).1
    rw [hready p hp (hall p hp), herror] at hr
    cases hr
  · intro hnot hcore p hp
    obtain ⟨-, hall⟩ := (coreReady_iff s).1 hcore
    have herror : p.readiness.error.truthy = false := by
      by_contra he
      exact hnot ⟨hall, p, hp, by simpa using he⟩
    have hr : p.readiness.ready = .bool true := by rw [hready p hp (hall p hp), herror, Bool.not_false]
    refine ⟨hr, ?_⟩
    rw [← (hplayer p hp).state]
    exact PlayerReadiness.advance_gameReady.2 ⟨herror, by rw [hr]; rfl⟩

def patched (player : String) : CompatibilityManifest := { Host.lanManifest player with gameVersion := .str "1.110" }

/-- bob has the save, and his bridge, zone and simulation are up -/
def bobReady : List ReadinessCall :=
  [.session (.roster (.addPlayer "bob" "Bob" (some (patched "bob")))),
    .update "bob" (.readiness (.obj [("bridge_connected", .bool true), ("zone_ready", .bool true),
      ("simulation_authority_ready", .bool true)])),
    .update "bob" (.saveAck (.obj [("sha256", .str "8d"), ("total_bytes", .int 5)]))]

theorem bob_ready : CoreImpliesPlayers ((init "s" (patched "alice") false).readinessCalls bobReady) :=
  (core_implies_players "s" (patched "alice") false bobReady (by decide +kernel)).2 (by
    rintro ⟨-, p, hp, herror⟩
    have hnone : ∀ p ∈ ((init "s" (patched "alice") false).readinessCalls bobReady).players.values,
        p.readiness.error.truthy = false := by decide +kernel
    rw [hnone p hp] at herror
    cases herror)

/-- then bob reports that the next save did not reach him: the session stays ready, and bob is not -/
theorem error_is_hidden : ¬ CoreImpliesPlayers ((init "s" (patched "alice") false).readinessCalls
    (bobReady ++ [.update "bob" (.saveError (.obj [("reason", .str "sha256_mismatch")]))])) := by
  unfold CoreImpliesPlayers
  decide +kernel

end HostSession

end KerMP
