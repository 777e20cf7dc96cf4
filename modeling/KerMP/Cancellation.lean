/-
Cancelling an interaction (`HostSession.cancel_interaction` of `kermp/session.py`).

The Sim that has to be the player's own is the one the payload names; the request whose status changes is the one the
id names. A missing id is made up from the player's id and the interaction's, and a request that is not stored yet is
stored by its cancellation. Clients and the host's game come to the id in different ways, and all of them end here.

- `StaysWithin`: no request for another Sim changes, and of the free ids only the player's own are taken.
- `cancel_stays`: a cancellation stays within that exactly when its id is the player's own (`OwnKey`).
- `foreign_request_cancelled`: alice cancels bob's request, and names her own Sim.
-/
import KerMP.Host.System

namespace KerMP

open Py

namespace HostSession

/-! ## What is asked of a cancellation -/

/-- what the ids of a player's cancellations begin with when they are made up -/
def ownPrefix (playerId : String) : String := "cancel-" ++ playerId ++ "-"

/-- the id under which a cancellation looks for its request -/
def cancelKey (requestId : Json) (playerId : String) (payload : List (String × Json)) : String :=
  let requestId := (requestId.or (.str "")).toStr
  if requestId = "" then ownPrefix playerId ++ (Json.field payload "interaction_id" .null).toStr else requestId

/-- the request is for the Sim the player plays -/
def ForActiveSim (s : HostSession) (playerId : String) (r : InteractionRequest) : Prop :=
  ∃ p ∈ s.players.lookup playerId, ∃ simId ∈ p.activeSimId, r.lookup "sim_id" = some (.str simId)

/-- from `s` to `s'`, requests change only as far as they are the player's to cancel -/
structure StaysWithin (playerId : String) (s s' : HostSession) : Prop where
  status : ∀ rid r r', s.interactionRequests.lookup rid = some r → s'.interactionRequests.lookup rid = some r' →
    r'.lookup "status" ≠ r.lookup "status" → s.ForActiveSim playerId r
  others : ∀ rid r, s.interactionRequests.lookup rid = some r → r.lookup "player_id" ≠ some (.str playerId) →
    ¬ s.ForActiveSim playerId r → ∃ r', s'.interactionRequests.lookup rid = some r' ∧ ∀ key, r'.lookup key = r.lookup key
  ids : ∀ rid, rid ∉ s.interactionRequests → rid ∈ s'.interactionRequests →
    (ownPrefix playerId).toList <+: rid.toList

/-- the id names a request for the player's Sim, or one that is to be cancelled already, or it is a free one that
begins like the player's own -/
def OwnKey (s : HostSession) (playerId rid : String) : Prop :=
  match s.interactionRequests.lookup rid with
  | some r => s.ForActiveSim playerId r ∨ r.lookup "status" = some (.str "cancel_requested")
  | none => (ownPrefix playerId).toList <+: rid.toList

instance (s : HostSession) (playerId : String) (r : InteractionRequest) : Decidable (s.ForActiveSim playerId r) :=
  inferInstanceAs (Decidable (∃ p ∈ s.players.lookup playerId, _))

instance (s : HostSession) (playerId rid : String) : Decidable (s.OwnKey playerId rid) := by
  unfold OwnKey
  split <;> infer_instance

/-! ## What a cancellation does -/

variable {s s' : HostSession} {requestId answer : Json} {playerId : String} {payload : List (String × Json)}

/-- the request under the key gets its status, or a new one is stored with it -/
theorem cancelInteraction_ok (h : s.cancelInteraction requestId playerId payload = .ok (answer, s')) :
    ∃ new : InteractionRequest, s'.interactionRequests =
      s.interactionRequests.setItem (cancelKey requestId playerId payload)
        (Json.setField ((s.interactionRequests.lookup (cancelKey requestId playerId payload)).getD new) "status"
          (.str "cancel_requested")) := by
  unfold cancelInteraction at h
  obtain ⟨-, -, h⟩ := bind_ok h
  obtain ⟨-, -, h⟩ := bind_ok h
  rw [pure_eq_ok, Except.ok.injEq, Prod.mk.injEq] at h
  exact ⟨_, (congrArg interactionRequests h.2).symm⟩

/-- what is stored stays, but for the status of the request under the key -/
theorem lookup_cancelled (h : s.cancelInteraction requestId playerId payload = .ok (answer, s')) {rid : String}
    {r : InteractionRequest} (hr : s.interactionRequests.lookup rid = some r) :
    ∃ r', s'.interactionRequests.lookup rid = some r' ∧ ∀ key, r'.lookup key =
      if rid = cancelKey requestId playerId payload ∧ key = "status" then some (.str "cancel_requested")
      else r.lookup key := by
  obtain ⟨new, hs'⟩ := cancelInteraction_ok h
  rw [hs', AList.lookup_setItem]
  by_cases hrid : rid = cancelKey requestId playerId payload
  · subst hrid
    refine ⟨_, if_pos rfl, fun key => ?_⟩
    rw [hr, Option.getD_some, Json.lookup_setField]
    simp
  · exact ⟨r, by rw [if_neg hrid, hr], fun key => by simp [hrid]⟩

/-- the ids that are taken afterwards -/
theorem mem_cancelled (h : s.cancelInteraction requestId playerId payload = .ok (answer, s')) (rid : String) :
    rid ∈ s'.interactionRequests ↔ rid = cancelKey requestId playerId payload ∨ rid ∈ s.interactionRequests := by
  obtain ⟨new, hs'⟩ := cancelInteraction_ok h
  rw [hs']
  exact AList.mem_setItem

/-- the request whose status changes is the one under the key -/
theorem status_cancelled (h : s.cancelInteraction requestId playerId payload = .ok (answer, s')) {rid : String}
    {r r' : InteractionRequest} (hr : s.interactionRequests.lookup rid = some r)
    (hr' : s'.interactionRequests.lookup rid = some r') : r'.lookup "status" ≠ r.lookup "status" ↔
      rid = cancelKey requestId playerId payload ∧ r.lookup "status" ≠ some (.str "cancel_requested") := by
  obtain ⟨r₁, hr₁, hsame⟩ := lookup_cancelled h hr
  cases hr'.symm.trans hr₁
  rw [hsame]
  by_cases hrid : rid = cancelKey requestId playerId payload
  · simp [hrid, eq_comm]
  · simp [hrid]

/-! ## When it stays within -/

theorem own_of_within (h : s.cancelInteraction requestId playerId payload = .ok (answer, s'))
    (w : StaysWithin playerId s s') : s.OwnKey playerId (cancelKey requestId playerId payload) := by
  unfold OwnKey
  split
  · rename_i r hr
    obtain ⟨r', hr', -⟩ := lookup_cancelled h hr
    by_cases hstatus : r.lookup "status" = some (.str "cancel_requested")
    · exact Or.inr hstatus
    · exact Or.inl (w.status _ r r' hr hr' ((status_cancelled h hr hr').2 ⟨rfl, hstatus⟩))
  · rename_i hfree
    exact w.ids _ (AList.lookup_eq_none.1 hfree) ((mem_cancelled h _).2 (Or.inl rfl))

theorem within_of_own (h : s.cancelInteraction requestId playerId payload = .ok (answer, s'))
    (hown : s.OwnKey playerId (cancelKey requestId playerId payload)) : StaysWithin playerId s s' := by
  have hstored : ∀ r, s.interactionRequests.lookup (cancelKey requestId playerId payload) = some r →
      s.ForActiveSim playerId r ∨ r.lookup "status" = some (.str "cancel_requested") := by
    intro r hr
    rw [OwnKey, hr] at hown
    exact hown
  refine ⟨fun rid r r' hr hr' hne => ?_, fun rid r hr _ hforeign => ?_, fun rid hfree htaken => ?_⟩
  · obtain ⟨rfl, hstatus⟩ := (status_cancelled h hr hr').1 hne
    exact (hstored r hr).resolve_right hstatus
  · obtain ⟨r', hr', hsame⟩ := lookup_cancelled h hr
    refine ⟨r', hr', fun key => ?_⟩
    rw [hsame]
    split_ifs with hc
    · obtain ⟨rfl, rfl⟩ := hc
      exact ((hstored r hr).resolve_left hforeign).symm
    · rfl
  · obtain rfl := ((mem_cancelled h rid).1 htaken).resolve_right hfree
    rw [OwnKey, AList.lookup_eq_none.2 hfree] at hown
    exact hown

/-- **Cancelling one's own.** A cancellation stays within the player's own Sim exactly when its id is the player's
own. -/
theorem cancel_stays (h : s.cancelInteraction requestId playerId payload = .ok (answer, s')) :
    StaysWithin playerId s s' ↔ s.OwnKey playerId (cancelKey requestId playerId payload) :=
  ⟨own_of_within h, within_of_own h⟩

end HostSession

namespace Host

/-- alice plays Sim 1 and bob Sim 2, and each has asked for an interaction -/
def bothInteract : List HostAct :=
  [joins 1 "alice", goesOn, joins 2 "bob", goesOn,
    plays .simsState (.obj [("sims", .arr [.obj [("sim_id", .str "1")], .obj [("sim_id", .str "2")]])]), goesOn, goesOn,
    sends 1 "alice" .simSelect (.obj [("sim_id", .str "1")]), goesOn, goesOn,
    sends 2 "bob" .simSelect (.obj [("sim_id", .str "2")]), goesOn, goesOn,
    sends 1 "alice" .interactionRequest (.obj [("request_id", .str "a"), ("affordance_id", .str "sit")]), goesOn, goesOn,
    sends 2 "bob" .interactionRequest (.obj [("request_id", .str "b"), ("affordance_id", .str "swim")]), goesOn, goesOn]

/-- the session in which both have asked -/
def interacting : HostSession := (runFrom lanHost bothInteract).state.session

/-- a cancellation that names alice's Sim -/
def forSimOne : List (String × Json) := [("sim_id", .str "1"), ("interaction_id", .str "7")]

/-- alice cancels her own request -/
theorem own_request_cancelled : ∃ answer s', interacting.cancelInteraction (.str "a") "alice" forSimOne =
    .ok (answer, s') ∧ HostSession.StaysWithin "alice" interacting s' := by
  have hok : (interacting.cancelInteraction (.str "a") "alice" forSimOne).isOk = true := by decide +kernel
  cases h : interacting.cancelInteraction (.str "a") "alice" forSimOne with
  | error e => rw [h] at hok; cases hok
  | ok r => exact ⟨r.1, r.2, rfl, (HostSession.cancel_stays h).2 (by decide +kernel)⟩

/-- **A foreign request.** Alice names her own Sim and bob's request, whose status changes. -/
theorem foreign_request_cancelled : ∃ answer s', interacting.cancelInteraction (.str "b") "alice" forSimOne =
    .ok (answer, s') ∧ ¬ HostSession.StaysWithin "alice" interacting s' := by
  have hstored : ∃ r ∈ interacting.interactionRequests.lookup "b", ¬ interacting.ForActiveSim "alice" r ∧
      r.lookup "status" = some (.str "accepted") := by decide +kernel
  have hok : (interacting.cancelInteraction (.str "b") "alice" forSimOne).isOk = true := by decide +kernel
  cases h : interacting.cancelInteraction (.str "b") "alice" forSimOne with
  | error e => rw [h] at hok; cases hok
  | ok p =>
    obtain ⟨r, hr, hforeign, hstatus⟩ := hstored
    obtain ⟨r', hr', hsame⟩ := HostSession.lookup_cancelled h hr
    refine ⟨p.1, p.2, rfl, fun w => hforeign (w.status "b" r r' hr hr' ?_)⟩
    rw [hsame, hstatus]
    decide +kernel

end Host

end KerMP
