/-
The controllers of the Sims as derived state (`HostSession.add_player`, `remove_player`, `update_sims`, `select_sim`).

Each Sim caches the ids of the players whose active Sim it is. `update_sims` and `remove_player` recompute every Sim;
`select_sim` recomputes the selected Sim only, and `add_player` the one a returning player gets back. A player who
moves from one Sim to another stays among the controllers of the first.

Results, for every sequence of calls on a new session:
- `controllers_derived`: the controllers of every Sim are the derived ones after each call if and only if no call moves
  a player away from a Sim of the roster without recomputing it (`Recomputes`).
- `reselected_sim_keeps_controller`: a player who selects a second Sim is still a controller of the first.
-/
import KerMP.Host.System

namespace KerMP

open Py

namespace HostSession

/-! ## Calls -/

/-- `add_player`, whose manifest is optional -/
def addPlayerMaybe (s : HostSession) (playerId displayName : String) (manifest : Option CompatibilityManifest) :
    HostSession :=
  let s := { s with players := s.players.setItem playerId ⟨playerId, displayName, none, none, {}⟩ }
  let s := match manifest with
    | some m => s.setManifest playerId m
    | none => s
  match s.reconnectSimIds.lookup playerId, s.players.lookup playerId with
  | some saved, some p =>
    if saved ∈ s.sims then
      { s with players := s.players.setItem playerId { p with activeSimId := some saved } }.setSimControllers saved
    else s
  | _, _ => s

/-- the host always passes a manifest -/
theorem addPlayer_eq (s : HostSession) (playerId displayName : String) (manifest : CompatibilityManifest) :
    s.addPlayer playerId displayName manifest = s.addPlayerMaybe playerId displayName (some manifest) := rfl

inductive RosterCall where
  | addPlayer (playerId displayName : String) (manifest : Option CompatibilityManifest)
  | removePlayer (playerId : String)
  | updateSims (sims : List Json)
  | selectSim (playerId simId : String)

/-- a call that raises changes nothing -/
def call (s : HostSession) : RosterCall → HostSession
  | .addPlayer playerId name manifest => s.addPlayerMaybe playerId name manifest
  | .removePlayer playerId => s.removePlayer playerId
  | .updateSims sims =>
    match s.updateSims sims with
    | .ok s' => s'
    | .error _ => s
  | .selectSim playerId simId =>
    match s.selectSim playerId simId with
    | .ok (_, s') => s'
    | .error _ => s

def calls (s : HostSession) (cs : List RosterCall) : HostSession := cs.foldl call s

/-! ## Derived controllers -/

/-- every Sim has the controllers its players make of it, each once -/
def Derived (s : HostSession) : Prop :=
  ∀ e ∈ s.sims.entries, e.2.controllers = controllers s.players e.1 ∧ e.2.controllers.Nodup

/-- a player is stored under its id -/
def Keyed (players : Dict String Player) : Prop := ∀ id p, players.lookup id = some p → p.playerId = id

/-- the active Sim of a player, when the roster has it -/
def holds (s : HostSession) (playerId : String) : Option String :=
  match s.players.lookup playerId with
  | some p => p.activeSimId.filter fun simId => simId ∈ s.sims
  | none => none

/-- a player who is taken off a Sim of the roster is taken off one whose controllers the call recomputes -/
def Recomputes (s : HostSession) : RosterCall → Prop
  | .addPlayer playerId _ _ => ∀ old, s.holds playerId = some old → s.reconnectSimIds.lookup playerId = some old
  | .selectSim playerId simId => simId ∈ s.sims → ∀ old, s.holds playerId = some old → old = simId
  | _ => True

/-- every call of the sequence recomputes what it has to, where it happens -/
def AllRecompute (s : HostSession) : List RosterCall → Prop
  | [] => True
  | c :: cs => s.Recomputes c ∧ AllRecompute (s.call c) cs

/-! ## Controllers and players -/

theorem controllers_eq (players : Dict String Player) (simId : String) : controllers players simId =
    (players.entries.filter fun e => e.2.activeSimId = some simId).map fun e => e.2.playerId := by
  rw [controllers, AList.values, List.filter_map, List.map_map]
  rfl

theorem lookup_of_mem {players : Dict String Player} {e : Σ _ : String, Player} (he : e ∈ players.entries) :
    players.lookup e.1 = some e.2 := AList.mem_lookup_iff.2 he

/-- a player who is active in a Sim before and after an assignment, or in neither case, changes no controllers -/
theorem controllers_setItem_of_same {players : Dict String Player} {id : String} {v : Player} {simId : String}
    (hold : ∀ old, players.lookup id = some old →
      (v.activeSimId = some simId ↔ old.activeSimId = some simId) ∧ v.playerId = old.playerId)
    (hnew : id ∉ players → v.activeSimId ≠ some simId) :
    controllers (players.setItem id v) simId = controllers players simId := by
  rw [controllers_eq, controllers_eq, AList.entries_setItem]
  split_ifs with hid
  · have hset : ∀ e ∈ players.entries, ((if e.1 = id then v else e.2).activeSimId = some simId ↔
        e.2.activeSimId = some simId) ∧ (if e.1 = id then v else e.2).playerId = e.2.playerId := by
      intro e he
      split_ifs with heq
      · exact hold e.2 (heq ▸ lookup_of_mem he)
      · exact ⟨Iff.rfl, rfl⟩
    rw [List.filter_map, List.map_map]
    have hfilter : players.entries.filter ((fun e : Σ _ : String, Player => decide (e.2.activeSimId = some simId)) ∘
        fun e => ⟨e.1, if e.1 = id then v else e.2⟩) =
          players.entries.filter fun e => e.2.activeSimId = some simId := by
      apply List.filter_congr
      intro e he
      exact decide_eq_decide.2 (hset e he).1
    rw [hfilter]
    apply List.map_congr_left
    intro e he
    exact (hset e (List.mem_filter.1 he).1).2
  · simp [List.filter_append, hnew hid]

theorem mem_controllers {players : Dict String Player} (hkeyed : Keyed players) {id simId : String} :
    id ∈ controllers players simId ↔ ∃ p, players.lookup id = some p ∧ p.activeSimId = some simId := by
  rw [controllers_eq, List.mem_map]
  constructor
  · rintro ⟨e, he, rfl⟩
    obtain ⟨he, hactive⟩ := List.mem_filter.1 he
    have hlookup := lookup_of_mem he
    refine ⟨e.2, ?_, of_decide_eq_true hactive⟩
    rw [hkeyed e.1 e.2 hlookup]
    exact hlookup
  · rintro ⟨p, hp, hactive⟩
    exact ⟨⟨id, p⟩, List.mem_filter.2 ⟨AList.mem_lookup_iff.1 hp, decide_eq_true hactive⟩, hkeyed id p hp⟩

theorem nodup_controllers {players : Dict String Player} (hkeyed : Keyed players) (simId : String) :
    (controllers players simId).Nodup := by
  have hkeys : controllers players simId =
      (players.entries.filter fun e => e.2.activeSimId = some simId).map fun e => e.1 := by
    rw [controllers_eq]
    apply List.map_congr_left
    intro e he
    exact hkeyed e.1 e.2 (lookup_of_mem (List.mem_filter.1 he).1)
  rw [hkeys]
  exact (List.Sublist.map _ List.filter_sublist).nodup players.nodupKeys

theorem Keyed.setItem {players : Dict String Player} (h : Keyed players) {id : String} {v : Player}
    (hv : v.playerId = id) : Keyed (players.setItem id v) := by
  intro k p hp
  rcases AList.lookup_setItem_eq_some.1 hp with ⟨rfl, rfl⟩ | ⟨-, hold⟩
  · exact hv
  · exact h k p hold

theorem Keyed.erase {players : Dict String Player} (h : Keyed players) (id : String) : Keyed (players.erase id) :=
  fun k p hp => h k p (AList.lookup_erase_eq_some.1 hp).2

/-! ## What each call does to players and Sims -/

theorem setManifest_eq {s : HostSession} {id : String} {p : Player} (hp : s.players.lookup id = some p)
    (m : CompatibilityManifest) : ∃ q : Player, s.setManifest id m = { s with players := s.players.setItem id q } ∧
      q.playerId = p.playerId ∧ q.activeSimId = p.activeSimId := by
  unfold setManifest
  rw [hp]
  exact ⟨_, rfl, rfl, rfl⟩

/-- the Sims with one Sim recomputed -/
def recomputed (players : Dict String Player) (simId : String) (sims : Dict String Sim) : Dict String Sim :=
  sims.mapItems fun k sim => if k = simId then { sim with controllers := controllers players simId } else sim

/-- an arrival: a fresh record, with the remembered Sim if the roster still has it -/
theorem addPlayerMaybe_eq (s : HostSession) (id name : String) (m : Option CompatibilityManifest) :
    ∃ v : Player, v.playerId = id ∧ (s.addPlayerMaybe id name m).players = s.players.setItem id v ∧
      (s.addPlayerMaybe id name m).reconnectSimIds = s.reconnectSimIds ∧
      ((∃ saved, s.reconnectSimIds.lookup id = some saved ∧ saved ∈ s.sims ∧ v.activeSimId = some saved ∧
          (s.addPlayerMaybe id name m).sims = recomputed (s.players.setItem id v) saved s.sims) ∨
        ((∀ saved, s.reconnectSimIds.lookup id = some saved → saved ∉ s.sims) ∧ v.activeSimId = none ∧
          (s.addPlayerMaybe id name m).sims = s.sims)) := by
  -- the record before the Sim is given back
  obtain ⟨q, hq, hid, hactive⟩ : ∃ q : Player, (match m with
      | some m => setManifest { s with players := s.players.setItem id ⟨id, name, none, none, {}⟩ } id m
      | none => { s with players := s.players.setItem id ⟨id, name, none, none, {}⟩ }) =
        { s with players := s.players.setItem id q } ∧ q.playerId = id ∧ q.activeSimId = none := by
    cases m with
    | none => exact ⟨_, rfl, rfl, rfl⟩
    | some m =>
      have hp : ({ s with players := s.players.setItem id ⟨id, name, none, none, {}⟩ } : HostSession).players.lookup id =
          some ⟨id, name, none, none, {}⟩ := AList.lookup_setItem_self _ _ _
      obtain ⟨q, hq, hid, hactive⟩ := setManifest_eq hp m
      refine ⟨q, ?_, hid, hactive⟩
      dsimp only at hq ⊢
      rw [hq, AList.setItem_setItem]
  unfold addPlayerMaybe
  dsimp only
  rw [hq]
  dsimp only
  rw [AList.lookup_setItem_self]
  cases hsaved : s.reconnectSimIds.lookup id with
  | none => exact ⟨q, hid, rfl, rfl, Or.inr ⟨fun _ h => (by cases h), hactive, rfl⟩⟩
  | some saved =>
    dsimp only
    split_ifs with hroster
    · refine ⟨{ q with activeSimId := some saved }, hid, ?_, rfl, Or.inl ⟨saved, rfl, hroster, rfl, ?_⟩⟩
      · exact AList.setItem_setItem _ _ _ _
      · simp only [setSimControllers, recomputed, AList.setItem_setItem]
    · refine ⟨q, hid, rfl, rfl, Or.inr ⟨?_, hactive, rfl⟩⟩
      intro saved' h'
      cases h'
      exact hroster

/-! ## One call -/

theorem holds_eq_some {s : HostSession} {id old : String} :
    s.holds id = some old ↔ ∃ p, s.players.lookup id = some p ∧ p.activeSimId = some old ∧ old ∈ s.sims := by
  unfold holds
  cases hp : s.players.lookup id with
  | none => simp
  | some p => simp [Option.filter_eq_some_iff]

theorem mem_recomputed {players : Dict String Player} {simId : String} {sims : Dict String Sim} {e : Σ _ : String, Sim}
    (he : e ∈ (recomputed players simId sims).entries) : ∃ sim, ⟨e.1, sim⟩ ∈ sims.entries ∧
      e.2.controllers = if e.1 = simId then controllers players simId else sim.controllers := by
  obtain ⟨e₀, he₀, rfl⟩ := List.mem_map.1 he
  refine ⟨e₀.2, he₀, ?_⟩
  dsimp only
  split_ifs <;> rfl

theorem derived_controlled {s : HostSession} (sims : Dict String Sim) (hkeyed : Keyed s.players)
    (hs : s.sims = controlled s.players sims) : Derived s := by
  intro e he
  rw [hs] at he
  obtain ⟨e₀, -, rfl⟩ := List.mem_map.1 he
  exact ⟨rfl, nodup_controllers hkeyed e₀.1⟩

/-- recomputing one Sim is enough when the controllers of the others are what they were -/
theorem derived_recomputed {s s' : HostSession} (hd : Derived s) (hkeyed : Keyed s'.players) {simId : String}
    (hs : s'.sims = recomputed s'.players simId s.sims)
    (hsame : ∀ k ∈ s.sims, k ≠ simId → controllers s'.players k = controllers s.players k) : Derived s' := by
  intro e he
  rw [hs] at he
  obtain ⟨sim, hsim, hcontrollers⟩ := mem_recomputed he
  have heq : e.2.controllers = controllers s'.players e.1 := by
    rw [hcontrollers]
    split_ifs with hk
    · rw [hk]
    · have hmem : e.1 ∈ s.sims := List.mem_map.2 ⟨_, hsim, rfl⟩
      rw [hsame e.1 hmem hk]
      exact (hd _ hsim).1
  exact ⟨heq, heq ▸ nodup_controllers hkeyed e.1⟩

/-- a player taken off a Sim that is not recomputed stays among its controllers -/
theorem not_derived_of_moved {s s' : HostSession} (hd : Derived s) (hkeyed : Keyed s.players)
    (hkeyed' : Keyed s'.players) {id old : String} (hold : s.holds id = some old)
    (hmoved : ∀ p, s'.players.lookup id = some p → p.activeSimId ≠ some old)
    (hsims : ∀ sim, (⟨old, sim⟩ : Σ _ : String, Sim) ∈ s.sims.entries → (⟨old, sim⟩ : Σ _ : String, Sim) ∈ s'.sims.entries) :
    ¬ Derived s' := by
  intro hd'
  obtain ⟨p, hp, hactive, hroster⟩ := holds_eq_some.1 hold
  obtain ⟨e, he, hkey⟩ := List.mem_map.1 hroster
  obtain ⟨k, sim⟩ := e
  obtain rfl : k = old := hkey
  have hmem : id ∈ sim.controllers := by
    rw [(hd _ he).1]
    exact (mem_controllers hkeyed).2 ⟨p, hp, hactive⟩
  rw [(hd' _ (hsims sim he)).1] at hmem
  obtain ⟨p', hp', hactive'⟩ := (mem_controllers hkeyed').1 hmem
  exact hmoved p' hp' hactive'

/-- a roster that is refused changes nothing -/
theorem call_updateSims (s : HostSession) (sims : List Json) : s.call (.updateSims sims) = s ∨
    ∃ roster, s.call (.updateSims sims) = { s with sims := controlled s.players roster } := by
  cases h : s.updateSims sims with
  | error e => exact Or.inl (by simp only [call, h])
  | ok s' => exact Or.inr (by simpa only [call, h] using updateSims_ok h)

/-- nor does a selection without a player, or without a Sim -/
theorem call_selectSim (s : HostSession) (playerId simId : String) :
    (s.call (.selectSim playerId simId) = s ∧ (simId ∉ s.sims ∨ s.players.lookup playerId = none)) ∨
      ∃ player, s.players.lookup playerId = some player ∧ simId ∈ s.sims ∧
        s.call (.selectSim playerId simId) = setSimControllers
          { s with players := s.players.setItem playerId { player with activeSimId := some simId } } simId := by
  cases h : s.selectSim playerId simId with
  | error e =>
    refine Or.inl ⟨by simp only [call, h], ?_⟩
    by_contra! hthere
    obtain ⟨player, hp⟩ := Option.ne_none_iff_exists'.1 hthere.2
    obtain ⟨sim, hsim⟩ := Option.isSome_iff_exists.1 (AList.lookup_isSome.2 hthere.1)
    simp [selectSim, hp, hsim] at h
  | ok r =>
    obtain ⟨j, s'⟩ := r
    obtain ⟨player, hp, hroster, hs'⟩ := selectSim_ok h
    exact Or.inr ⟨player, hp, hroster, by simpa only [call, h] using hs'⟩

theorem keyed_call {s : HostSession} (h : Keyed s.players) (c : RosterCall) : Keyed (s.call c).players := by
  cases c with
  | addPlayer id name m =>
    obtain ⟨v, hv, hplayers, -⟩ := addPlayerMaybe_eq s id name m
    simp only [call, hplayers]
    exact h.setItem hv
  | removePlayer id =>
    simp only [call, (removePlayer_eq s id).1]
    exact h.erase id
  | updateSims sims =>
    rcases call_updateSims s sims with hcall | ⟨r, hcall⟩
    · rwa [hcall]
    · rwa [hcall]
  | selectSim id simId =>
    rcases call_selectSim s id simId with ⟨hcall, -⟩ | ⟨player, hp, -, hcall⟩
    · rwa [hcall]
    · rw [hcall]
      exact h.setItem (h id player hp)

/-- **One call.** From derived controllers a call leads to derived controllers exactly when it recomputes every Sim that
a player is taken off. -/
theorem derived_call {s : HostSession} (hkeyed : Keyed s.players) (hd : Derived s) (c : RosterCall) :
    Derived (s.call c) ↔ s.Recomputes c := by
  have hkeyed' := keyed_call hkeyed c
  cases c with
  | removePlayer id =>
    refine ⟨fun _ => trivial, fun _ => ?_⟩
    obtain ⟨hplayers, -, -, -, -, hsims⟩ := removePlayer_eq s id
    apply derived_controlled s.sims hkeyed'
    exact hsims.trans (by rw [← hplayers]; rfl)
  | updateSims sims =>
    refine ⟨fun _ => trivial, fun _ => ?_⟩
    rcases call_updateSims s sims with hcall | ⟨r, hcall⟩
    · rwa [hcall]
    · apply derived_controlled r hkeyed'
      rw [hcall]
  | addPlayer id name m =>
    obtain ⟨v, hv, hplayers, -, hsims⟩ := addPlayerMaybe_eq s id name m
    simp only [call] at hkeyed' ⊢
    have hlookup : (s.addPlayerMaybe id name m).players.lookup id = some v := by
      rw [hplayers]
      exact AList.lookup_setItem_self _ _ _
    -- a Sim that is not given to the player, and that the player did not hold, keeps its controllers
    have hsame : ∀ k, v.activeSimId ≠ some k → s.holds id ≠ some k → k ∈ s.sims →
        controllers (s.addPlayerMaybe id name m).players k = controllers s.players k := by
      intro k hnew hnot hk
      rw [hplayers]
      apply controllers_setItem_of_same
      · intro old hold
        refine ⟨⟨fun h => absurd h hnew, fun h => ?_⟩, hv.trans (hkeyed id old hold).symm⟩
        exact absurd (holds_eq_some.2 ⟨old, hold, h, hk⟩) hnot
      · exact fun _ => hnew
    rcases hsims with ⟨saved, hsaved, hroster, hactive, hsims⟩ | ⟨hnone, hactive, hsims⟩
    · rw [← hplayers] at hsims
      constructor
      · intro hd' old hold
        by_contra hne
        have hdiff : old ≠ saved := fun h => hne (h ▸ hsaved)
        refine not_derived_of_moved hd hkeyed hkeyed' hold ?_ ?_ hd'
        · intro p hp
          rw [hlookup] at hp
          cases hp
          rw [hactive]
          exact fun h => hdiff (Option.some.inj h).symm
        · intro sim hsim
          rw [hsims]
          refine List.mem_map.2 ⟨_, hsim, ?_⟩
          simp [hdiff]
      · intro hrec
        apply derived_recomputed hd hkeyed' hsims
        intro k hk hne
        apply hsame k _ _ hk
        · rw [hactive]
          exact fun h => hne (Option.some.inj h).symm
        · intro hold
          rw [hrec k hold] at hsaved
          exact hne (Option.some.inj hsaved)
    · constructor
      · intro hd' old hold
        obtain ⟨-, -, -, hroster⟩ := holds_eq_some.1 hold
        refine absurd hd' (not_derived_of_moved hd hkeyed hkeyed' hold ?_ ?_)
        · intro p hp
          rw [hlookup] at hp
          cases hp
          rw [hactive]
          exact fun h => by cases h
        · intro sim hsim
          rw [hsims]
          exact hsim
      · intro hrec e he
        rw [hsims] at he
        have hmem : e.1 ∈ s.sims := List.mem_map.2 ⟨_, he, rfl⟩
        have hnot : s.holds id ≠ some e.1 := fun hold => hnone e.1 (hrec e.1 hold) hmem
        rw [hsame e.1 (by rw [hactive]; exact fun h => by cases h) hnot hmem]
        exact hd e he
  | selectSim id simId =>
    rcases call_selectSim s id simId with ⟨hcall, hnot⟩ | ⟨player, hp, hroster, hcall⟩
    · refine ⟨fun _ hroster old hold => ?_, fun _ => by rwa [hcall]⟩
      rcases hnot with hnot | hnone
      · exact absurd hroster hnot
      · have hholds : s.holds id = none := by simp [holds, hnone]
        rw [hholds] at hold
        cases hold
    · rw [hcall] at hkeyed' ⊢
      constructor
      · intro hd' _ old hold
        by_contra hdiff
        refine not_derived_of_moved hd hkeyed hkeyed' hold ?_ ?_ hd'
        · intro p hp'
          have hself : p = { player with activeSimId := some simId } := by
            have := AList.lookup_setItem_self s.players id { player with activeSimId := some simId }
            exact Option.some.inj (hp'.symm.trans this)
          rw [hself]
          exact fun h => hdiff (Option.some.inj h).symm
        · intro sim' hsim'
          refine List.mem_map.2 ⟨_, hsim', ?_⟩
          simp [hdiff]
      · intro hrec
        apply derived_recomputed hd hkeyed' rfl
        intro k hk hne
        apply controllers_setItem_of_same
        · intro old hold
          rw [hp] at hold
          cases hold
          refine ⟨⟨fun h => absurd (Option.some.inj h).symm hne, fun h => ?_⟩, rfl⟩
          exact absurd (hrec hroster k (holds_eq_some.2 ⟨player, hp, h, hk⟩)) hne
        · exact fun hnot => absurd (AList.lookup_isSome.1 (by rw [hp]; rfl)) hnot

/-! ## Sequences of calls -/

theorem derived_calls {s : HostSession} (hkeyed : Keyed s.players) (hd : Derived s) (cs : List RosterCall) :
    (∀ n, Derived (s.calls (cs.take n))) ↔ s.AllRecompute cs := by
  induction cs generalizing s with
  | nil => simpa [calls, AllRecompute] using hd
  | cons c cs ih =>
    constructor
    · intro h
      have hc : Derived (s.call c) := h 1
      refine ⟨(derived_call hkeyed hd c).1 hc, (ih (keyed_call hkeyed c) hc).1 ?_⟩
      intro n
      exact h (n + 1)
    · intro hrec n
      obtain ⟨hc, hcs⟩ := hrec
      cases n with
      | zero => exact hd
      | succ n => exact (ih (keyed_call hkeyed c) ((derived_call hkeyed hd c).2 hc)).2 hcs n

/-- **Controllers are derived state.** In a new session, whatever calls are made: the controllers of every Sim are the
players whose active Sim it is, each once and in players order, after every call, if and only if every call recomputes
the Sims it takes a player off. -/
theorem controllers_derived (sessionId : String) (hostManifest : CompatibilityManifest) (nativeRequired : Bool)
    (cs : List RosterCall) :
    (∀ n, Derived ((init sessionId hostManifest nativeRequired).calls (cs.take n))) ↔
      (init sessionId hostManifest nativeRequired).AllRecompute cs := by
  apply derived_calls
  · intro id p hp
    cases hp
  · intro e he
    cases he

/-- the roster of two Sims, of which the player selects the first and then the second -/
def reselection : List RosterCall :=
  [.addPlayer "alice" "Alice" none, .updateSims [.obj [("sim_id", .str "1")], .obj [("sim_id", .str "2")]],
    .selectSim "alice" "1", .selectSim "alice" "2"]

/-- After the second selection the first Sim still lists the player, whose active Sim it is not. -/
theorem reselected_sim_keeps_controller :
    ¬ Derived ((init "session" (Host.lanManifest "host") false).calls reselection) := by
  intro hd
  have hsim : (⟨"1", ⟨"1", "", ["alice"]⟩⟩ : Σ _ : String, Sim) ∈
      ((init "session" (Host.lanManifest "host") false).calls reselection).sims.entries := by
    decide +kernel
  have hderived : controllers ((init "session" (Host.lanManifest "host") false).calls reselection).players "1" = [] := by
    decide +kernel
  have heq := (hd _ hsim).1
  rw [hderived] at heq
  cases heq

end HostSession

end KerMP
