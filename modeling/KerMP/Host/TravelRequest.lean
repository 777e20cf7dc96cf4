/-
Travel requests while a travel is under way (`HostRuntime._start_travel`, `TravelCoordinator.propose`).

`propose` raises when a travel is in progress, and nobody catches it: the connection that asked ends, and its player
leaves the session and the travel. Only a request that names no zone never reaches the coordinator.

- `Harmless`: the sender stays, and the session is as it was.
- `harmless_iff`: it is so exactly when the request names no zone.
- `expelled`: what any other request does to the travel.
- `second_travel`: bob asks for a travel while one is under way.
-/
import KerMP.Host.Heard

namespace KerMP.Host

open Py Coop
open Coro hiding pure get modify
open Travel (TravelTxn)

/-! ## What is claimed -/

/-- no effect but the number of the line: the sender stays, its connection waits for the next line, and players,
travel and all the rest of the session are as they were -/
structure Harmless (h : Host) (conn : ℕ) (player : String) (h' : Host) : Prop where
  remains : Remains h h' conn player
  waits : h'.conns.lookup conn = some (.idle player)
  session : h'.session = h.session
  others : ∀ q, q ≠ player → h'.peers.lookup q = h.peers.lookup q

/-- `payload.get("actor_ids", [])`, iterated -/
def actorsOf (payload : Json) : Except Exc (List Json) := do (← payload.getD "actor_ids" (.arr [])).iter

/-- the request names no zone, and its actors can be read -/
def NoZone (payload : Json) : Prop := strField payload "zone_id" = .ok "" ∧ (actorsOf payload).isOk = true

instance (payload : Json) : Decidable (NoZone payload) := instDecidableAnd

/-! ## One request -/

variable {conn : ℕ} {env : Envelope} {h : Host} {payload : Json} {player : String}

/-- **The first step of a travel request.** -/
theorem segment_travelRequest (heard : Heard h conn env) (type : env.type = .travelRequest) (as : List Answer) :
    (handle (.line conn (.line (.ok env)))).segment as h =
      ((startTravel env.payload env.senderId).attempt >>= afterLine conn env.senderId).segment as
        ((h.listening conn env).note (.passed env.senderId .travelRequest env.payload)) := by
  have hdispatch : dispatch env = dispatchOther env.senderId .travelRequest env.payload := by
    rw [dispatch, type]
  rw [segment_heard heard, hdispatch]
  rfl

theorem startTravel_noZone (hzone : NoZone payload) : startTravel payload player = pure () := by
  obtain ⟨hzone, hactors⟩ := hzone
  cases hread : actorsOf payload with
  | error e =>
    rw [hread] at hactors
    cases hactors
  | ok actors =>
    unfold actorsOf at hread
    rw [startTravel, hzone, hread]
    rfl

/-- what the call on the coordinator answers -/
def proposal (h : Host) (zoneId uuid : String) (actors : List String) : Except Exc TravelTxn × Host :=
  match h.session.travel.propose zoneId actors h.session.players.keys uuid with
  | .ok (t, c) => (.ok t, h.setTravel c)
  | .error e => (.error e, h)

/-- the coordinator refuses a second travel -/
theorem segment_propose (hactive : h.session.travel.active = true) {zoneId uuid : String} {actors : List String}
    {f : TravelTxn → HostM Unit} (g : Except Exc Unit → HostM Unit) (as : List Answer) :
    ((propose zoneId actors uuid >>= f).attempt >>= g).segment as h =
      (g (.error (.runtimeError "travel already in progress"))).segment as h := by
  have hcall : ((propose zoneId actors uuid >>= f).attempt >>= g).segment as h =
      (((Coro.ofExcept (h.proposal zoneId uuid actors).1 >>= f).attempt >>= g).segment as
        (h.proposal zoneId uuid actors).2) := rfl
  have hrefused : h.proposal zoneId uuid actors = (.error (.runtimeError "travel already in progress"), h) := by
    have hpropose : h.session.travel.propose zoneId actors h.session.players.keys uuid =
        .error (.runtimeError "travel already in progress") := if_pos hactive
    rw [proposal, hpropose]
  rw [hcall, hrefused]
  rfl

/-- while a travel is under way, every other request raises, and at most an id has been drawn -/
theorem startTravel_raises (hactive : h.session.travel.active = true) (hzone : ¬ NoZone payload) (player : String)
    (g : Except Exc Unit → HostM Unit) (as : List Answer) :
    ∃ e n, ((startTravel payload player).attempt >>= g).segment as h =
      (g (.error e)).segment as { h with uuids := n } := by
  unfold startTravel
  cases hzoneId : strField payload "zone_id" with
  | error e => exact ⟨e, h.uuids, rfl⟩
  | ok zoneId =>
    cases hactors : actorsOf payload with
    | error e =>
      unfold actorsOf at hactors
      rw [hactors]
      exact ⟨e, h.uuids, rfl⟩
    | ok actors =>
      have hnamed : zoneId ≠ "" := by
        rintro rfl
        exact hzone ⟨hzoneId, by rw [hactors]; rfl⟩
      unfold actorsOf at hactors
      rw [hactors]
      refine ⟨.runtimeError "travel already in progress", h.uuids + 1, ?_⟩
      show (((if zoneId = "" then pure () else _ : HostM Unit).attempt >>= g).segment as h) = _
      rw [if_neg hnamed]
      have hdrawn : ({ h with uuids := h.uuids + 1 } : Host).session.travel.active = true := hactive
      exact segment_propose hdrawn g as

section cases
variable (heard : Heard h conn env) (present : Present h conn env.senderId) (type : env.type = .travelRequest)
  (as : List Answer)
include heard present type

theorem harmless_of_noZone (hzone : NoZone env.payload) :
    Harmless h conn env.senderId ((handle (.line conn (.line (.ok env)))).segment as h).2 := by
  obtain ⟨⟨peer, hpeer, hconn⟩, hplayer⟩ := present.listening
  rw [segment_travelRequest heard type as, startTravel_noZone hzone]
  exact
    { remains := ⟨⟨⟨peer, hpeer, hconn⟩, hplayer⟩, [_], rfl, by simp⟩
      waits := AList.lookup_setItem_self _ _ _
      session := rfl
      others := fun q hq => listening_others conn hq }

/-- **What a second request does.** The sender leaves the session and the travel, whatever its phase, and its
connection is closed. -/
theorem expelled (hactive : h.session.travel.active = true) (hzone : ¬ NoZone env.payload) :
    let h' := ((handle (.line conn (.line (.ok env)))).segment as h).2
    ¬ Remains h h' conn env.senderId ∧ (env.senderId ≠ "" → env.senderId ∉ h'.session.players ∧
      h'.session.travel = (h.session.travel.removeParticipant env.senderId).2) := by
  obtain ⟨⟨peer, hpeer, hconn⟩, hplayer⟩ := present.listening
  have hactive' : ((h.listening conn env).note
    (.passed env.senderId .travelRequest env.payload)).session.travel.active = true := hactive
  obtain ⟨e, n, hraise⟩ := startTravel_raises hactive' hzone env.senderId (afterLine conn env.senderId) as
  rw [segment_travelRequest heard type as, hraise]
  have hpresent : Present { (h.listening conn env).note (.passed env.senderId .travelRequest env.payload) with
    uuids := n } conn env.senderId := ⟨⟨peer, hpeer, hconn⟩, hplayer⟩
  obtain ⟨hsession, entries, hlog, hclosed⟩ := segment_finish hpresent as
  have hbefore : ({ (h.listening conn env).note (.passed env.senderId .travelRequest env.payload) with
    uuids := n } : Host).log = [.passed env.senderId .travelRequest env.payload] ++ h.log := rfl
  refine ⟨not_remains hbefore hlog hclosed, fun hname => ?_⟩
  rw [if_neg hname] at hsession
  obtain ⟨hplayers, htravel, -⟩ := HostSession.removePlayer_eq h.session env.senderId
  rw [afterLine, hsession]
  refine ⟨?_, htravel⟩
  show env.senderId ∉ (h.session.removePlayer env.senderId).players
  rw [hplayers]
  exact fun hmem => (AList.mem_erase.1 hmem).1 rfl

end cases

/-- **Requests during a travel.** From any host state with a travel under way, in any phase and with any participants
left, a travel request of any connected player is harmless if and only if it names no zone. -/
theorem harmless_iff (h : Host) (hactive : h.session.travel.active = true) (conn : ℕ) (env : Envelope)
    (heard : Heard h conn env) (present : Present h conn env.senderId) (type : env.type = .travelRequest)
    (as : List Answer) :
    Harmless h conn env.senderId ((handle (.line conn (.line (.ok env)))).segment as h).2 ↔ NoZone env.payload := by
  constructor
  · intro hharmless
    by_contra hzone
    exact (expelled heard present type as hactive hzone).1 hharmless.remains
  · exact harmless_of_noZone heard present type as

/-! ## A second travel -/

/-- the host's game has asked for a travel, and bob takes part in it -/
def bobTravels : Host :=
  (runFrom lanHost [joins 1 "bob", goesOn, plays .travelRequest (.obj [("zone_id", .str "5")]), goesOn]).state

/-- bob asks for a travel -/
def travelLine (zoneId : Json) : Envelope := ⟨.travelRequest, .obj [("zone_id", zoneId)], "bob", .str "m", .null⟩

theorem harmless_nowhere : Harmless bobTravels 1 "bob"
    ((handle (.line 1 (.line (.ok (travelLine .null))))).segment [] bobTravels).2 :=
  (harmless_iff bobTravels (by decide +kernel) 1 (travelLine .null) (by decide +kernel)
    (present_of_map (by decide +kernel) (by decide +kernel)) rfl []).2 (by decide +kernel)

/-- bob is thrown out of the session and of the travel under way -/
theorem second_travel : ¬ ∀ (h : Host) (conn : ℕ) (env : Envelope), h.session.travel.active = true →
    Heard h conn env → Present h conn env.senderId → env.type = .travelRequest → ∀ as : List Answer,
      Harmless h conn env.senderId ((handle (.line conn (.line (.ok env)))).segment as h).2 := by
  intro hall
  have hactive : bobTravels.session.travel.active = true := by decide +kernel
  have hheard : Heard bobTravels 1 (travelLine (.str "6")) := by decide +kernel
  have hpresent : Present bobTravels 1 "bob" := present_of_map (by decide +kernel) (by decide +kernel)
  have hzone : ¬ NoZone (travelLine (.str "6")).payload := by decide +kernel
  exact (expelled hheard hpresent rfl [] hactive hzone).1
    (hall bobTravels 1 (travelLine (.str "6")) hactive hheard hpresent rfl []).remains

end KerMP.Host
