/-
A player's return to the Sim it left (`HostSession.remove_player`, `add_player`).

`remove_player` remembers the active Sim of who leaves; `add_player` gives it back when the roster has it. In between
the session goes on: rosters come and go, other players select Sims, arrive and leave, and only `remove_player` writes
what is remembered, under the id of the player who leaves.

- `op_reconnect`: an operation that does not name a player leaves what is remembered for it as it is.
- `reconnecting_restores`: the player who left with a Sim has it again after its return exactly when the roster has it
  then, is among its controllers, and nobody else's record changes.
-/
import KerMP.SessionMembers

namespace KerMP

open Py Travel

namespace HostSession

/-! ## Operations -/

/-- what the host does with its session -/
inductive SessionOp where
  | call (c : SessionCall)
  | setManifest (playerId : String) (manifest : CompatibilityManifest)
  | updateReadiness (playerId : String) (fields : List (String × Json))
  | validateInteraction (requestId : Json) (playerId : String) (payload : List (String × Json))
  | cancelInteraction (requestId : Json) (playerId : String) (payload : List (String × Json))
  | setRequestField (requestId key : String) (v : Json)
  | dispatch (playerId family : String) (payload : List (String × Json)) (requestId : Json) (uuid : String)
  | setClock (clock : Clock)

/-- an operation that raises changes no more than it has set by then -/
def op (s : HostSession) : SessionOp → HostSession
  | .call c => s.sessionCall c
  | .setManifest playerId manifest => s.setManifest playerId manifest
  | .updateReadiness playerId fields => (s.updateReadiness playerId fields).2
  | .validateInteraction requestId playerId payload =>
    match s.validateInteraction requestId playerId payload with
    | .ok (_, s') => s'
    | .error _ => s
  | .cancelInteraction requestId playerId payload =>
    match s.cancelInteraction requestId playerId payload with
    | .ok (_, s') => s'
    | .error _ => s
  | .setRequestField requestId key v => s.setRequestField requestId key v
  | .dispatch playerId family payload requestId uuid =>
    { s with commands := (s.commands.dispatch playerId family payload requestId uuid).2 }
  | .setClock clock => { s with clock }

def ops (s : HostSession) (os : List SessionOp) : HostSession := os.foldl op s

/-- the player a call is about; a roster and a travel are about no single one -/
def SessionCall.player : SessionCall → Option String
  | .roster (.addPlayer playerId _ _) | .roster (.removePlayer playerId) | .roster (.selectSim playerId _)
  | .requestLock playerId _ _ _ | .releaseLock playerId | .submit playerId _ _ _ _ | .openDialog playerId _ _ _
  | .respond playerId _ _ | .markReady playerId _ _ | .markZoneReady playerId _ _ => some playerId
  | .roster (.updateSims _) | .propose _ _ _ | .beginZoneWait _ | .abort _ => none

def SessionOp.player : SessionOp → Option String
  | .call c => c.player
  | .setManifest playerId _ | .updateReadiness playerId _ | .validateInteraction _ playerId _
  | .cancelInteraction _ playerId _ | .dispatch playerId _ _ _ _ => some playerId
  | .setRequestField _ _ _ | .setClock _ => none

/-- `player.active_sim_id` where the code tests it: an empty id is no Sim -/
def activeSim (s : HostSession) (playerId : String) : Option String :=
  (s.players.lookup playerId).bind fun p => p.activeSimId.filter (· ≠ "")

/-! ## What is remembered -/

theorem removePlayer_reconnect (s : HostSession) (id : String) :
    (s.removePlayer id).reconnectSimIds = s.rememberSim id := by
  unfold removePlayer
  dsimp only
  rw [setAllControllers_eq]
  dsimp only
  split_ifs <;> rfl

theorem lookup_rememberSim_ne (s : HostSession) {id p : String} (h : id ≠ p) :
    (s.rememberSim id).lookup p = s.reconnectSimIds.lookup p := by
  unfold rememberSim
  split
  · split_ifs
    · rfl
    · exact AList.lookup_setItem_ne _ _ h.symm
  · rfl

/-- who leaves with an active Sim is remembered with it -/
theorem remembered {s : HostSession} {p simId : String} (h : s.activeSim p = some simId) :
    (s.rememberSim p).lookup p = some simId := by
  obtain ⟨player, hp, hsim⟩ := Option.bind_eq_some_iff.1 h
  obtain ⟨hsim, hne⟩ := Option.filter_eq_some_iff.1 hsim
  have hne : simId ≠ "" := by simpa using hne
  obtain ⟨playerId, displayName, activeSimId, manifest, readiness⟩ := player
  obtain rfl : activeSimId = some simId := hsim
  rw [rememberSim, hp]
  dsimp only
  rw [if_neg hne, AList.lookup_setItem_self]

theorem setManifest_reconnect (s : HostSession) (id : String) (m : CompatibilityManifest) :
    (s.setManifest id m).reconnectSimIds = s.reconnectSimIds := by
  unfold setManifest
  split <;> rfl

theorem updateReadiness_reconnect (s : HostSession) (id : String) (fields : List (String × Json)) :
    (s.updateReadiness id fields).2.reconnectSimIds = s.reconnectSimIds := by
  unfold updateReadiness
  split
  · rfl
  · split <;> rfl

theorem roster_reconnect (s : HostSession) (c : RosterCall) {p : String} (h : (SessionCall.roster c).player ≠ some p) :
    (s.call c).reconnectSimIds.lookup p = s.reconnectSimIds.lookup p := by
  cases c with
  | addPlayer id name m =>
    obtain ⟨v, -, -, hreconnect, -⟩ := addPlayerMaybe_eq s id name m
    simp only [call, hreconnect]
  | removePlayer id =>
    simp only [call, removePlayer_reconnect]
    exact lookup_rememberSim_ne s fun he => h (congrArg some he)
  | updateSims sims =>
    rcases call_updateSims s sims with hcall | ⟨r, hcall⟩
    · rw [hcall]
    · rw [hcall]
  | selectSim id simId =>
    rcases call_selectSim s id simId with ⟨hcall, -⟩ | ⟨player, -, -, hcall⟩
    · rw [hcall]
    · rw [hcall]
      rfl

/-- **What is remembered stays.** An operation that does not name a player leaves what is remembered for it as it is. -/
theorem op_reconnect (s : HostSession) (o : SessionOp) {p : String} (h : o.player ≠ some p) :
    (s.op o).reconnectSimIds.lookup p = s.reconnectSimIds.lookup p := by
  have htravelled : ∀ {α : Type} (r : Except Exc (α × TravelCoordinator)),
      (s.travelled r).reconnectSimIds = s.reconnectSimIds := by
    intro α r
    cases r <;> rfl
  cases o with
  | call c =>
    cases c with
    | roster c => exact roster_reconnect s c h
    | propose | markReady | beginZoneWait | markZoneReady | abort => simp only [op, sessionCall, htravelled]
    | _ => rfl
  | setManifest id m => simp only [op, setManifest_reconnect]
  | updateReadiness id fields => simp only [op, updateReadiness_reconnect]
  | validateInteraction rid id payload =>
    simp only [op]
    cases hv : s.validateInteraction rid id payload with
    | error e => rfl
    | ok r =>
      obtain ⟨_, -, hs'⟩ := bind_ok hv
      cases hs'
      rfl
  | cancelInteraction rid id payload =>
    simp only [op]
    cases hc : s.cancelInteraction rid id payload with
    | error e => rfl
    | ok r =>
      obtain ⟨_, -, hs'⟩ := bind_ok hc
      obtain ⟨_, -, hs'⟩ := bind_ok hs'
      cases hs'
      rfl
  | setRequestField rid key v => rfl
  | dispatch id family payload rid uuid => rfl
  | setClock clock => rfl

theorem ops_reconnect (s : HostSession) (os : List SessionOp) {p : String} (h : ∀ o ∈ os, o.player ≠ some p) :
    (s.ops os).reconnectSimIds.lookup p = s.reconnectSimIds.lookup p := by
  induction os generalizing s with
  | nil => rfl
  | cons o os ih =>
    have hrest : ((s.op o).ops os).reconnectSimIds.lookup p = (s.op o).reconnectSimIds.lookup p :=
      ih (s.op o) fun o' ho' => h o' (List.mem_cons_of_mem _ ho')
    exact hrest.trans (op_reconnect s o (h o List.mem_cons_self))

/-! ## The return -/

theorem lookup_recomputed_self (players : Dict String Player) {simId : String} {sims : Dict String Sim} {sim : Sim}
    (h : sims.lookup simId = some sim) :
    (recomputed players simId sims).lookup simId = some { sim with controllers := controllers players simId } := by
  simp [recomputed, AList.lookup_mapItems, h]

theorem mem_controllers_of_active {players : Dict String Player} {id simId : String} {v : Player}
    (hlookup : players.lookup id = some v) (hid : v.playerId = id) (hactive : v.activeSimId = some simId) :
    id ∈ controllers players simId := by
  rw [controllers_eq, List.mem_map]
  exact ⟨⟨id, v⟩, List.mem_filter.2 ⟨AList.mem_lookup_iff.1 hlookup, decide_eq_true hactive⟩, hid⟩

/-- **A returning player has its Sim again.** Whatever state it left with an active Sim, and whatever was done with the
session since that does not name it: after its return that Sim is its active Sim if and only if the roster has the Sim
then, it is among the Sim's controllers in that case, and the record of every other player is as it was. -/
theorem reconnecting_restores (s₀ : HostSession) (p simId name : String) (m : Option CompatibilityManifest)
    (os : List SessionOp) (hactive : s₀.activeSim p = some simId) (hos : ∀ o ∈ os, o.player ≠ some p) :
    let s := (s₀.removePlayer p).ops os
    let s' := s.addPlayerMaybe p name m
    (s'.activeSim p = some simId ↔ simId ∈ s.sims) ∧
      (simId ∈ s.sims → ∃ sim, s'.sims.lookup simId = some sim ∧ p ∈ sim.controllers) ∧
      ∀ q, q ≠ p → s'.players.lookup q = s.players.lookup q := by
  intro s s'
  have hsaved : s.reconnectSimIds.lookup p = some simId := by
    rw [ops_reconnect _ _ hos, removePlayer_reconnect, remembered hactive]
  have hne : simId ≠ "" := by
    obtain ⟨player, -, hsim⟩ := Option.bind_eq_some_iff.1 hactive
    simpa using (Option.filter_eq_some_iff.1 hsim).2
  obtain ⟨v, hid, hplayers, -, hsims⟩ := addPlayerMaybe_eq s p name m
  have hv : s'.players.lookup p = some v := by
    rw [show s'.players = s.players.setItem p v from hplayers, AList.lookup_setItem_self]
  have hother : ∀ q, q ≠ p → s'.players.lookup q = s.players.lookup q := by
    intro q hq
    rw [show s'.players = s.players.setItem p v from hplayers, AList.lookup_setItem_ne _ _ hq]
  rcases hsims with ⟨saved, hlookup, hroster, hgiven, hsims⟩ | ⟨hgone, hnone, -⟩
  · obtain rfl : simId = saved := by
      rw [hsaved] at hlookup
      exact Option.some.inj hlookup
    obtain ⟨sim, hsim⟩ := Option.isSome_iff_exists.1 (AList.lookup_isSome.2 hroster)
    have hmember : p ∈ controllers s'.players simId := mem_controllers_of_active hv hid hgiven
    have hsims : s'.sims = recomputed s'.players simId s.sims := by
      rw [show s'.sims = _ from hsims, ← hplayers]
    refine ⟨⟨fun _ => hroster, fun _ => ?_⟩, fun _ => ?_, hother⟩
    · simp [activeSim, hv, hgiven, hne]
    · rw [hsims]
      exact ⟨_, lookup_recomputed_self _ hsim, hmember⟩
  · have habsent : simId ∉ s.sims := hgone simId hsaved
    refine ⟨⟨fun h => ?_, fun h => absurd h habsent⟩, fun h => absurd h habsent, hother⟩
    simp [activeSim, hv, hnone] at h

/-- bob leaves Sim 1, alice takes it, and the roster is read anew -/
def absence : List SessionOp :=
  [.call (.roster (.addPlayer "alice" "Alice" none)), .call (.roster (.selectSim "alice" "1")),
    .call (.roster (.updateSims [.obj [("sim_id", .str "2")], .obj [("sim_id", .str "1"), ("name", .str "Bella")]]))]

/-- bob has Sim 1 -/
def bobPlays : HostSession :=
  (init "session" (Host.lanManifest "host") false).ops [.call (.roster (.addPlayer "bob" "Bob" none)),
    .call (.roster (.updateSims [.obj [("sim_id", .str "1")]])), .call (.roster (.selectSim "bob" "1"))]

theorem reconnecting_restores_bob :
    let s := (bobPlays.removePlayer "bob").ops absence
    let s' := s.addPlayerMaybe "bob" "Bob" none
    (s'.activeSim "bob" = some "1" ↔ "1" ∈ s.sims) ∧
      ("1" ∈ s.sims → ∃ sim, s'.sims.lookup "1" = some sim ∧ "bob" ∈ sim.controllers) ∧
      ∀ q, q ≠ "bob" → s'.players.lookup q = s.players.lookup q :=
  reconnecting_restores bobPlays "bob" "1" "Bob" none absence (by decide +kernel) (by decide +kernel)

end HostSession

end KerMP
