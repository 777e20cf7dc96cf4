/-
The status of an interaction request and what is announced of it (`interaction_requests` of `kermp/session.py`, the
interaction events of `kermp/runtime.py`, the interaction messages of `kermp/net.py`).

The status is set when a request is accepted, when the game reports on it and when somebody cancels it, each time in the
same step in which the broadcast that says so begins. There is one exception: when the host's game cannot be reached,
`interaction.rejected` is broadcast and the request keeps the status it has.

- `StatusTold`: the stored status is the one that the last notice says, for every request whose deliveries all succeeded.
- `pass_notices`: every handler keeps it.
- `status_follows`: it holds after every run.
- `undelivered_request`: a request of the host's own player, with its game gone.
-/
import KerMP.Host.Pass

namespace KerMP.Host

open Py Coop
open Coro hiding pure get modify

/-! ## Notices -/

/-- the id of the request in a payload, read as a dict -/
def requestIdOf (payload : Json) : Option String :=
  match payload.toDict with
  | .ok fields => some ((Json.field fields "request_id" .null).or (.str "")).toStr
  | .error _ => none

/-- what a notice says of a request. A report on a command goes by its whole last word, the host's own notice by
`accepted`. -/
def statusWords : MessageType → List String
  | .interactionAccepted => ["accepted"]
  | .interactionCommandAccepted => ["accepted", "command_accepted"]
  | .interactionRejected => ["rejected"]
  | .interactionCommandRejected => ["rejected", "command_rejected"]
  | .interactionQueued => ["queued"]
  | .interactionStarted => ["started"]
  | .interactionFinished => ["finished"]
  | .interactionCancel => ["cancel_requested"]
  | _ => []

/-- the type of a broadcast about this request -/
def Out.notice (rid : String) : Out → Option MessageType
  | .sending type payload _ _ => if type.topic = .status ∧ requestIdOf payload = some rid then some type else none
  | _ => none

/-- the type of the last broadcast about this request -/
def lastNotice (log : List Out) (rid : String) : Option MessageType := log.findSome? (Out.notice rid)

/-- the messages that deliver a request to the host's game -/
def deliveries : List MessageType := [.interactionRequest, .interactionCommand]

/-- a failed delivery of this request to the host's game -/
def Out.Undelivered (rid : String) : Out → Prop
  | .bridge false type payload => type ∈ deliveries ∧ requestIdOf payload = some rid
  | _ => False

instance (rid : String) (o : Out) : Decidable (o.Undelivered rid) := by
  unfold Out.Undelivered
  split <;> infer_instance

/-- no delivery of this request has failed -/
def AllDelivered (log : List Out) (rid : String) : Prop := ∀ o ∈ log, ¬ o.Undelivered rid

/-- the status of a stored request is the one that the last broadcast about it says -/
def StatusFollows (log : List Out) (rid : String) (r : InteractionRequest) : Prop :=
  ∃ w type, r.lookup "status" = some (.str w) ∧ lastNotice log rid = some type ∧ w ∈ statusWords type

/-- every request is stored with its id, and its status follows the notices unless a delivery of it has failed -/
structure StatusTold (h : Host) : Prop where
  id : ∀ rid r, h.session.interactionRequests.lookup rid = some r → r.lookup "request_id" = some (.str rid)
  status : ∀ rid r, h.session.interactionRequests.lookup rid = some r → AllDelivered h.log rid →
    StatusFollows h.log rid r

/-- what others may do meanwhile: stored requests stay -/
def RequestsStay (h h' : Host) : Prop := HostSession.Kept h.session.interactionRequests h'.session.interactionRequests

abbrev Notices : Discipline Host Empty := Discipline.plain StatusTold RequestsStay

/-! ## Steps that say nothing of requests -/

/-- every topic but requests and what becomes of them -/
def unrequested : List Topic :=
  [.session, .member, .readiness, .travel, .commit, .resume, .lock, .build, .apply, .view, .clock]

theorem Does.requests {l : Label} {h h' : Host} (d : Does l h h') (hr : l.topic ≠ .request) (hs : l.topic ≠ .status) :
    h'.session.interactionRequests = h.session.interactionRequests := by
  cases d with
  | quiet q | readiness q => exact q.session.requests
  | accept => exact absurd rfl hr
  | status => exact absurd rfl hs
  | join _ player name m conn => exact (HostSession.addPlayer_calm h.session player name m).requests
  | drop _ player => exact (HostSession.removePlayer_eq h.session player).2.2.2.1
  | ackReady _ player txnId epoch =>
    obtain ⟨c, os, e⟩ := ackReady_sets h player txnId epoch
    rw [e]
  | ackZone _ player txnId epoch =>
    obtain ⟨c, os, e⟩ := ackZone_sets h player txnId epoch
    rw [e]
  | _ => rfl

theorem lastNotice_cons {o : Out} {log : List Out} {rid : String} (ho : o.notice rid = none) :
    lastNotice (o :: log) rid = lastNotice log rid := by
  unfold lastNotice
  rw [List.findSome?_cons, ho]

theorem notice_of_topic {o : Out} (ho : o.topic ≠ .status) (rid : String) : o.notice rid = none := by
  cases o with
  | sending type payload seq travel =>
    have ht : type.topic ≠ .status := ho
    exact if_neg fun h => ht h.1
  | _ => rfl

theorem AllDelivered.of_cons {o : Out} {log : List Out} {rid : String} (h : AllDelivered (o :: log) rid) :
    AllDelivered log rid := fun x hmem => h x (List.mem_cons_of_mem o hmem)

/-- more entries that are no notices of this request -/
theorem StatusFollows.append {os log : List Out} {rid : String} {r : InteractionRequest} (h : StatusFollows log rid r)
    (hos : ∀ o ∈ os, o.notice rid = none) : StatusFollows (os ++ log) rid r := by
  induction os with
  | nil => exact h
  | cons o os ih =>
    obtain ⟨w, type, hw, hlast, hmem⟩ := ih fun x hx => hos x (List.mem_cons_of_mem o hx)
    exact ⟨w, type, hw, (lastNotice_cons (hos o List.mem_cons_self)).trans hlast, hmem⟩

theorem StatusFollows.cons {o : Out} {log : List Out} {rid : String} {r : InteractionRequest}
    (h : StatusFollows log rid r) (ho : o.notice rid = none) : StatusFollows (o :: log) rid r := by
  have h' : StatusFollows ([o] ++ log) rid r := h.append fun x hx => by
    rw [List.mem_singleton.1 hx]
    exact ho
  exact h'

theorem AllDelivered.of_append {os log : List Out} {rid : String} (h : AllDelivered (os ++ log) rid) :
    AllDelivered log rid := fun o hmem => h o (List.mem_append_right os hmem)

/-- the same requests, and entries that are no notices -/
theorem StatusTold.append {h h' : Host} (ht : StatusTold h)
    (hrequests : h'.session.interactionRequests = h.session.interactionRequests) {os : List Out}
    (hlog : h'.log = os ++ h.log) (hos : ∀ o ∈ os, ∀ rid, o.notice rid = none) : StatusTold h' := by
  refine ⟨fun rid r hr => ht.id rid r (hrequests ▸ hr), fun rid r hr hdelivered => ?_⟩
  rw [hlog] at hdelivered ⊢
  exact (ht.status rid r (hrequests ▸ hr) hdelivered.of_append).append fun o ho => hos o ho rid

theorem StatusTold.note {h : Host} (ht : StatusTold h) {o : Out} (ho : ∀ rid, o.notice rid = none) :
    StatusTold (h.note o) where
  id := ht.id
  status rid r hr hdelivered := (ht.status rid r hr hdelivered.of_cons).cons (ho rid)

theorem follows_notices : Follows Notices unrequested where
  lawful := Discipline.plain_lawful (fun h => HostSession.Kept.refl _) fun _ _ _ h h' => h.trans h'
  session := by decide
  member := by decide
  lock := by decide
  clock := by decide
  readiness := by decide
  step := by
    intro l h h' hl d ht
    have hr : l.topic ≠ .request := ne_of_mem_of_not_mem hl (by decide)
    have hs : l.topic ≠ .status := ne_of_mem_of_not_mem hl (by decide)
    obtain ⟨os, hlog, htopic⟩ := d.log
    refine ⟨d.kept, fun m => m.elim, fun m => m.elim, ht.append (d.requests hr hs) hlog fun o ho rid => ?_⟩
    exact notice_of_topic (by rw [htopic o ho]; exact hs) rid

/-! ## A status about to be announced -/

theorem requestIdOf_obj {fields : List (String × Json)} {rid : String}
    (h : fields.lookup "request_id" = some (.str rid)) : requestIdOf (.obj fields) = some rid := by
  simp only [requestIdOf, Json.toDict_obj, Json.field, h, Option.getD_some, Option.some.injEq]
  unfold Json.or
  split_ifs with ht
  · rfl
  · have hrid : rid = "" := by simpa [Json.truthy] using ht
    rw [hrid]
    rfl

/-- a message without a payload carries the empty dict -/
theorem requestIdOf_orEmpty {payload : Json} {rid : String} (h : requestIdOf payload = some rid) :
    requestIdOf (payload.or (.obj [])) = some rid := by
  unfold Json.or
  split_ifs with ht
  · exact h
  · cases payload with
    | null | bool | int | float => cases h
    | str s =>
      obtain rfl : s = "" := by simpa [Json.truthy] using ht
      exact h
    | arr xs =>
      obtain rfl : xs = [] := by simpa [Json.truthy] using ht
      exact h
    | obj fields =>
      obtain rfl : fields = [] := by simpa [Json.truthy] using ht
      exact h

/-- the id that the handlers read off a payload -/
theorem requestIdOf_strField {payload : Json} {rid : String} (h : strField payload "request_id" = .ok rid) :
    requestIdOf payload = some rid := by
  obtain ⟨j, hj, h⟩ := bind_ok h
  rw [pure_eq_ok, Except.ok.injEq] at h
  cases payload with
  | obj fields =>
    rw [Json.get_obj, Except.ok.injEq] at hj
    subst hj
    exact congrArg some h
  | _ => cases hj

theorem requestIdOf_failure {request failure : Json} (h : failureOf request = .ok failure) :
    ∃ rid, requestIdOf request = some rid ∧ requestIdOf failure = some rid := by
  obtain ⟨fields, hfields, h⟩ := bind_ok h
  rw [pure_eq_ok, Except.ok.injEq] at h
  subst h
  refine ⟨((Json.field fields "request_id" .null).or (.str "")).toStr, ?_, ?_⟩
  · rw [requestIdOf, hfields]
  · simp only [requestIdOf, Json.toDict_obj, Json.field, Json.lookup_setField]
    rfl

/-- the status of one request is set and not announced yet -/
structure AboutTo (rid w : String) (h : Host) : Prop where
  id : ∀ rid' r, h.session.interactionRequests.lookup rid' = some r → r.lookup "request_id" = some (.str rid')
  here : ∀ r, h.session.interactionRequests.lookup rid = some r → AllDelivered h.log rid →
    r.lookup "status" = some (.str w)
  others : ∀ rid' r, rid' ≠ rid → h.session.interactionRequests.lookup rid' = some r → AllDelivered h.log rid' →
    StatusFollows h.log rid' r

/-- nothing is claimed of a request that was not delivered, or that is not stored -/
theorem StatusTold.aboutTo {h : Host} (ht : StatusTold h) {rid : String} (w : String)
    (hexempt : rid ∈ h.session.interactionRequests → ¬ AllDelivered h.log rid) : AboutTo rid w h where
  id := ht.id
  here r hr hdelivered := absurd hdelivered (hexempt (AList.lookup_isSome.1 (by rw [hr]; rfl)))
  others rid' r _ hr := ht.status rid' r hr

/-- the announcement -/
theorem AboutTo.announced {rid w : String} {h : Host} (ha : AboutTo rid w h) {type : MessageType} {payload : Json}
    (hid : requestIdOf payload = some rid) (hw : w ∈ statusWords type) (seq : ℕ) (travel : Option Travel.TravelTxn) :
    StatusTold (h.note (.sending type payload seq travel)) := by
  have htopic : type.topic = .status := by
    cases type with
    | interactionAccepted | interactionCommandAccepted | interactionRejected | interactionCommandRejected
    | interactionQueued | interactionStarted | interactionFinished | interactionCancel => rfl
    | _ => exact absurd hw List.not_mem_nil
  refine ⟨ha.id, fun rid' r hr hdelivered => ?_⟩
  by_cases hrid : rid' = rid
  · subst hrid
    refine ⟨w, type, ha.here r hr hdelivered.of_cons, ?_, hw⟩
    have hnotice : Out.notice rid' (.sending type payload seq travel) = some type := if_pos ⟨htopic, hid⟩
    show List.findSome? (Out.notice rid') (.sending type payload seq travel :: h.log) = some type
    rw [List.findSome?_cons, hnotice]
  · refine (ha.others rid' r hrid hr hdelivered.of_cons).cons (if_neg fun hnotice => hrid ?_)
    rw [hid] at hnotice
    exact (Option.some.inj hnotice.2).symm

/-- a stored request is resolved to a payload with its id -/
theorem AboutTo.requestIdOf_stored {rid w : String} {h : Host} (ha : AboutTo rid w h)
    (hstored : rid ∈ h.session.interactionRequests) : requestIdOf (h.resolve (.request rid)) = some rid := by
  obtain ⟨r, hr⟩ := Option.isSome_iff_exists.1 (AList.lookup_isSome.2 hstored)
  have hid := requestIdOf_obj (ha.id rid r hr)
  rw [resolve, hr]
  exact hid

theorem AboutTo.note {rid w : String} {h : Host} (ha : AboutTo rid w h) {o : Out} (ho : ∀ rid', o.notice rid' = none) :
    AboutTo rid w (h.note o) where
  id := ha.id
  here r hr hdelivered := ha.here r hr hdelivered.of_cons
  others rid' r hne hr hdelivered := (ha.others rid' r hne hr hdelivered.of_cons).cons (ho rid')

/-- one request is replaced, by one with its id and this status -/
theorem StatusTold.replace {h : Host} (ht : StatusTold h) {rid w : String} {requests : Dict String InteractionRequest}
    (hothers : ∀ rid', rid' ≠ rid → requests.lookup rid' = h.session.interactionRequests.lookup rid')
    (hhere : ∀ r, requests.lookup rid = some r →
      r.lookup "request_id" = some (.str rid) ∧ r.lookup "status" = some (.str w)) :
    AboutTo rid w { h with session := { h.session with interactionRequests := requests } } where
  id rid' r hr := by
    by_cases hrid : rid' = rid
    · subst hrid
      exact (hhere r hr).1
    · exact ht.id rid' r ((hothers rid' hrid).symm.trans hr)
  here r hr _ := (hhere r hr).2
  others rid' r hrid hr := ht.status rid' r ((hothers rid' hrid).symm.trans hr)

/-- another field of the request is set -/
theorem AboutTo.setField {rid w : String} {h : Host} (ha : AboutTo rid w h) {key : String} (v : Json)
    (hid : "request_id" ≠ key) (hstatus : "status" ≠ key) :
    AboutTo rid w { h with session := h.session.setRequestField rid key v } := by
  have hlookup : ∀ rid' r, (h.session.setRequestField rid key v).interactionRequests.lookup rid' = some r →
      ∃ r₀, h.session.interactionRequests.lookup rid' = some r₀ ∧
        r = if rid' = rid then Json.setField r₀ key v else r₀ := by
    intro rid' r hr
    simp only [HostSession.setRequestField, AList.lookup_mapItems, Option.map_eq_some_iff] at hr
    obtain ⟨r₀, hr₀, rfl⟩ := hr
    exact ⟨r₀, hr₀, rfl⟩
  refine ⟨fun rid' r hr => ?_, fun r hr hdelivered => ?_, fun rid' r hrid hr hdelivered => ?_⟩
  · obtain ⟨r₀, hr₀, rfl⟩ := hlookup rid' r hr
    split_ifs
    · rw [Json.lookup_setField, if_neg hid]
      exact ha.id rid' r₀ hr₀
    · exact ha.id rid' r₀ hr₀
  · obtain ⟨r₀, hr₀, rfl⟩ := hlookup rid r hr
    rw [if_pos rfl, Json.lookup_setField, if_neg hstatus]
    exact ha.here r₀ hr₀ hdelivered
  · obtain ⟨r₀, hr₀, rfl⟩ := hlookup rid' r hr
    rw [if_neg hrid]
    exact ha.others rid' r₀ hrid hr₀ hdelivered

/-- the status of a stored request is set -/
theorem StatusTold.setStatus {h : Host} (ht : StatusTold h) (rid w : String) :
    AboutTo rid w { h with session := h.session.setRequestField rid "status" (.str w) } := by
  apply ht.replace
  · intro rid' hrid
    simp only [AList.lookup_mapItems, hrid, if_false]
    exact Option.map_id'
  · intro r hr
    simp only [AList.lookup_mapItems, if_true, Option.map_eq_some_iff] at hr
    obtain ⟨r₀, hr₀, rfl⟩ := hr
    rw [Json.lookup_setField, Json.lookup_setField, if_neg (by decide), if_pos rfl]
    exact ⟨ht.id rid r₀ hr₀, rfl⟩

/-- a request is accepted -/
theorem StatusTold.accept {h : Host} (ht : StatusTold h) {requestId : Json} {player rid : String}
    {payload : List (String × Json)} {s : HostSession}
    (he : h.session.validateInteraction requestId player payload = .ok (rid, s)) (r' : InteractionRequest) :
    AboutTo rid "accepted" ({ h with session := s }.note (.accepted player r')) := by
  obtain ⟨r, hcheck, -, rfl⟩ := HostSession.validateInteraction_ok he
  apply AboutTo.note _ fun _ => rfl
  apply ht.replace
  · exact fun rid' hrid => AList.lookup_setItem_ne _ _ hrid
  · intro r₀ hr₀
    rw [AList.lookup_setItem, if_pos rfl] at hr₀
    obtain rfl := Option.some.inj hr₀
    obtain ⟨-, hid, -, hstatus⟩ := HostSession.checkInteraction_ok hcheck
    exact ⟨hid, hstatus⟩

/-- a request is cancelled; one that is not stored is stored for it -/
theorem StatusTold.cancel {h : Host} (ht : StatusTold h) {requestId j : Json} {player : String}
    {payload : List (String × Json)} {s : HostSession}
    (he : h.session.cancelInteraction requestId player payload = .ok (j, s)) :
    ∃ rid, AboutTo rid "cancel_requested" { h with session := s } ∧ requestIdOf j = some rid := by
  unfold HostSession.cancelInteraction at he
  obtain ⟨-, -, he⟩ := bind_ok he
  obtain ⟨-, -, he⟩ := bind_ok he
  rw [pure_eq_ok, Except.ok.injEq, Prod.mk.injEq] at he
  obtain ⟨rfl, rfl⟩ := he
  generalize (if (requestId.or (.str "")).toStr = "" then _ else _ : String) = rid
  refine ⟨rid, ?_, requestIdOf_obj rfl⟩
  apply ht.replace
  · exact fun rid' hrid => AList.lookup_setItem_ne _ _ hrid
  · intro r hr
    rw [AList.lookup_setItem, if_pos rfl] at hr
    obtain rfl := Option.some.inj hr
    rw [Json.lookup_setField, Json.lookup_setField, if_neg (by decide), if_pos rfl]
    refine ⟨?_, rfl⟩
    cases hold : h.session.interactionRequests.lookup rid with
    | none => rfl
    | some r₀ => exact ht.id rid r₀ hold

/-! ## Announcements -/

/-- **The announcement.** A broadcast that says the status which has just been set. -/
theorem wp_announce {own : Set Empty} {h : Host} {rid w : String} {type : MessageType} {payload : Payload}
    (ha : AboutTo rid w h) (hid : requestIdOf (h.resolve payload.orEmpty) = some rid) (hw : w ∈ statusWords type) :
    wp Notices own (broadcastPeers type payload) (Ends Notices fun m _ => m.elim) h := by
  have hwrites : ∀ h h', Writes type h h' → StatusTold h → RequestsStay h h' ∧ StatusTold h' := by
    intro h h' w ht
    rcases w with rfl | ⟨seq, rfl⟩ | ⟨player, conn, env, -, rfl⟩
    · exact ⟨HostSession.Kept.refl _, ht⟩
    · exact ⟨HostSession.Kept.refl _, ht.note fun _ => rfl⟩
    · exact ⟨HostSession.Kept.refl _, ht.note fun _ => rfl⟩
  have ha' : AboutTo rid w { h with seq := h.seq + 1, uuids := h.uuids + 1 } := ⟨ha.id, ha.here, ha.others⟩
  rw [broadcastPeers, nextSeq, drawUuid, wp_bind, wp_call, andThen_ok, wp_bind, wp_call, andThen_ok, wp_bind, wp_get,
    andThen_ok, emit, wp_bind, wp_modify, andThen_ok]
  simp only [Discipline.may_plain]
  have hkept : ∀ h : Host, RequestsStay h h := fun h => HostSession.Kept.refl _
  exact ⟨hkept _, hkept _, hkept _, hkept _, follows_notices.wp_sent hwrites (ha'.announced hid hw _ _) _ _ _ _ _⟩

theorem notices_then {α β : Type} {p : HostM α} {f : α → HostM β} {h : Host}
    (hp : wp Notices ∅ p (Ends Notices fun m _ => m.elim) h) (hf : ∀ a, Settles Notices (fun m _ => m.elim) (f a)) :
    wp Notices ∅ (p >>= f) (Ends Notices fun m _ => m.elim) h :=
  wp_then follows_notices.lawful (fun m => m.elim) hp hf

theorem settles_unrequested {α : Type} {p : HostM α} (hp : Made unrequested (fun _ _ => False) p) :
    Settles Notices (fun m _ => m.elim) p :=
  follows_notices.settles _ (guar_of_made follows_notices.session follows_notices.member hp)

/-- a request that was not delivered needs no announcement -/
theorem AboutTo.exempt {rid w : String} {h : Host} (ha : AboutTo rid w h) (hfailed : ¬ AllDelivered h.log rid) :
    StatusTold h := by
  refine ⟨ha.id, fun rid' r hr hdelivered => ha.others rid' r (fun he => hfailed ?_) hr hdelivered⟩
  rwa [he] at hdelivered

/-- a failed delivery is announced as a rejection -/
theorem wp_announceFailure {own : Set Empty} {h : Host} {rejected : MessageType} {payload : Payload}
    (ht : StatusTold h) (hfailed : ∀ rid, requestIdOf (h.resolve payload) = some rid → ¬ AllDelivered h.log rid)
    (hrejected : "rejected" ∈ statusWords rejected) :
    wp Notices own (do
        let k ← Coro.get
        let failure ← ofExcept (failureOf (k.resolve payload))
        broadcastPeers rejected (.val failure) : HostM Unit)
      (Ends Notices fun m _ => m.elim) h := by
  refine wp_read follows_notices.lawful ?_
  refine wp_ofExcept_bind (fun e _ => ⟨ht, fun m => m.elim⟩) fun failure hfailure => ?_
  obtain ⟨rid, hid, hsent⟩ := requestIdOf_failure hfailure
  exact wp_announce (ht.aboutTo "rejected" fun _ => hfailed rid hid) (requestIdOf_orEmpty hsent) hrejected

theorem not_delivered {h : Host} {type : MessageType} (htype : type ∈ deliveries) {payload : Json} {rid : String}
    (hid : requestIdOf payload = some rid) : ¬ AllDelivered (h.note (.bridge false type payload)).log rid :=
  fun hdelivered => hdelivered _ List.mem_cons_self ⟨htype, hid⟩

@[simp] theorem resolve_note (h : Host) (o : Out) (payload : Payload) : (h.note o).resolve payload = h.resolve payload := by
  cases payload <;> rfl

/-- an accepted request goes on to the host's game, whoever sent it -/
theorem settles_forwardAccepted {type rejected : MessageType} (htype : type ∈ deliveries)
    (hrejected : "rejected" ∈ statusWords rejected) (payload : Payload) :
    Settles Notices (fun m _ => m.elim) (forwardAccepted type rejected payload) := by
  intro h ht
  have ht' : ∀ ok, StatusTold (h.note (.bridge ok type (h.resolve payload))) := fun ok =>
    ht.note fun _ => rfl
  rw [forwardAccepted, bridgeSend, wp_bind, wp_bind, wp_askEnv]
  intro a
  rw [andThen_ok, wp_call, andThen_ok, Discipline.may_plain]
  refine ⟨HostSession.Kept.refl _, ?_⟩
  cases a.ok with
  | true => exact ⟨ht' true, fun m => m.elim⟩
  | false =>
    refine wp_announceFailure (ht' false) (fun rid hid => ?_) hrejected
    rw [resolve_note] at hid
    exact not_delivered htype hid

/-- the host's own request: announced as accepted when it has been delivered -/
theorem wp_hostRequest {own : Set Empty} {h : Host} {rid : String} {type accepted rejected : MessageType}
    (ha : AboutTo rid "accepted" h) (hstored : rid ∈ h.session.interactionRequests) (htype : type ∈ deliveries)
    (haccepted : "accepted" ∈ statusWords accepted) (hrejected : "rejected" ∈ statusWords rejected) :
    wp Notices own (announceRequest type accepted rejected rid) (Ends Notices fun m _ => m.elim) h := by
  have hid : requestIdOf (h.resolve (.request rid)) = some rid := ha.requestIdOf_stored hstored
  rw [announceRequest, bridgeSend, wp_bind, wp_bind, wp_askEnv]
  intro a
  rw [andThen_ok, wp_call, andThen_ok, Discipline.may_plain]
  refine ⟨HostSession.Kept.refl _, ?_⟩
  have ha' : AboutTo rid "accepted" (h.note (.bridge a.ok type (h.resolve (.request rid)))) := ha.note fun _ => rfl
  revert ha'
  cases a.ok with
  | true =>
    intro ha'
    rw [← resolve_note] at hid
    exact wp_announce ha' hid haccepted
  | false =>
    intro ha'
    have hfailed := not_delivered (h := h) htype hid
    refine wp_announceFailure (ha'.exempt hfailed) (fun rid' hid' => ?_) hrejected
    rw [resolve_note] at hid'
    exact not_delivered htype hid'

/-! ## Acceptance -/

/-- an accepted request is stored and about to be announced; a refused one leaves no trace -/
def Judged : Except Exc String → Host → Prop
  | .ok rid, h => AboutTo rid "accepted" h ∧ rid ∈ h.session.interactionRequests
  | .error _, h => StatusTold h

theorem wp_judge {h : Host} (ht : StatusTold h) (requestId : Json) (player : String) (fields : List (String × Json)) :
    wp Notices ∅ (validateInteraction requestId player fields) (fun r _ h' => Judged r h') h := by
  rw [validateInteraction, wp_tryCall, Discipline.may_plain]
  cases he : h.session.validateInteraction requestId player fields with
  | error e => exact ⟨HostSession.Kept.refl _, ht⟩
  | ok result =>
    obtain ⟨rid, s⟩ := result
    refine ⟨(Does.accept h requestId player fields he).kept, ht.accept he _, ?_⟩
    obtain ⟨r, -, -, rfl⟩ := HostSession.validateInteraction_ok he
    exact AList.lookup_isSome.1 (by simp [Host.note])

theorem wp_judgeCommand {h : Host} (ht : StatusTold h) (player : String) (payload : Json) :
    wp Notices ∅ (acceptCommand player payload) (fun r _ h' => Judged r h') h := by
  rw [acceptCommand]
  refine wp_ofExcept_bind (fun e _ => ht) fun command _ => ?_
  refine wp_ofExcept_bind (fun e _ => ht) fun requestId _ => ?_
  refine wp_ofExcept_bind (fun e _ => ht) fun fields _ => ?_
  rw [wp_bind]
  refine wp_mono ?_ (wp_judge ht requestId player _)
  rintro (e | rid) own₁ h₁ hjudged
  · exact hjudged
  obtain ⟨ha, hstored⟩ := hjudged
  rw [andThen_ok, setRequestField, onSession, wp_bind, wp_tryCall, Discipline.may_plain]
  refine ⟨HostSession.setRequestField_kept _ _ _ (by decide), ha.setField _ (by decide) (by decide), ?_⟩
  rw [← AList.lookup_isSome] at hstored ⊢
  simpa [HostSession.setRequestField] using hstored

/-! ## Handlers -/

theorem settles_notices_error (sender reason : String) :
    Settles Notices (fun m _ => m.elim) (sendError sender reason) :=
  settles_unrequested (made_sendError (by decide) _ _)

/-- the request is broadcast, and then it goes to the host's game -/
theorem wp_broadcastRequest {h : Host} {rid : String} {accepted type rejected : MessageType}
    (hjudged : Judged (.ok rid) h) (haccepted : "accepted" ∈ statusWords accepted) (htype : type ∈ deliveries)
    (hrejected : "rejected" ∈ statusWords rejected)
    (hnext : ∀ me, onNetworkMessage accepted (.request rid) me = do
      let _ ← Coro.get
      forwardAccepted type rejected (.request rid)) :
    wp Notices ∅ (Host.broadcast accepted (.request rid)) (Ends Notices fun m _ => m.elim) h := by
  have hid := hjudged.1.requestIdOf_stored hjudged.2
  refine notices_then (wp_announce hjudged.1 hid haccepted) fun _ => settles_get follows_notices.lawful fun k ht => ?_
  show wp Notices ∅ (onNetworkMessage accepted (.request rid) k.playerId) _ k
  rw [hnext]
  exact settles_get follows_notices.lawful (fun _ ht => settles_forwardAccepted htype hrejected _ _ ht) k ht

/-- a handler that goes by the outcome of its body -/
theorem settles_attempt {α : Type} {p : HostM α} {J : Except Exc α → Host → Prop} {f : Except Exc α → HostM Unit}
    (hp : ∀ h, StatusTold h → wp Notices ∅ p (fun r _ h' => J r h') h)
    (hf : ∀ r h, J r h → wp Notices ∅ (f r) (Ends Notices fun m _ => m.elim) h) :
    Settles Notices (fun m _ => m.elim) (p.attempt >>= f) := by
  intro h ht
  refine wp_attempt_bind (hp h ht) fun r own₁ h₁ hr => ?_
  obtain rfl := Set.eq_empty_of_isEmpty own₁
  exact hf r h₁ hr

theorem notices_request (sender : String) (payload : Json) :
    Settles Notices (fun m _ => m.elim) (dispatchInteractionRequest sender payload) := by
  have hbody : ∀ h, StatusTold h → wp Notices ∅ (do
      let requestId ← ofExcept (payload.get "request_id")
      let fields ← ofExcept payload.toDict
      validateInteraction requestId sender fields : HostM String) (fun r _ h' => Judged r h') h := by
    intro h ht
    refine wp_ofExcept_bind (fun e _ => ht) fun requestId _ => ?_
    exact wp_ofExcept_bind (fun e _ => ht) fun fields _ => wp_judge ht requestId sender fields
  refine settles_attempt hbody fun r h₁ hjudged => ?_
  split
  · exact wp_broadcastRequest hjudged (by decide) (by decide) (by decide) fun _ => rfl
  · exact settles_notices_error _ _ h₁ hjudged
  · exact settles_raise _ h₁ hjudged

theorem notices_command (sender : String) (payload : Json) :
    Settles Notices (fun m _ => m.elim) (dispatchInteractionCommand sender payload) := by
  refine settles_attempt (fun h ht => wp_judgeCommand ht sender payload) fun r h₁ hjudged => ?_
  split
  · exact wp_broadcastRequest hjudged (by decide) (by decide) (by decide) fun _ => rfl
  · exact settles_notices_error _ _ h₁ hjudged
  · exact settles_notices_error _ _ h₁ hjudged
  · exact settles_raise _ h₁ hjudged

/-- a client's forged acceptance -/
theorem notices_passed {accepted type rejected : MessageType} (htype : type ∈ deliveries)
    (hrejected : "rejected" ∈ statusWords rejected) {sender : String} {payload : Json}
    (hnext : onNetworkMessage accepted (.val payload) sender = do
      let _ ← Coro.get
      forwardAccepted type rejected (.val payload)) :
    Settles Notices (fun m _ => m.elim) (dispatchOther sender accepted payload) := by
  have hlawful := follows_notices.lawful
  rw [dispatchOther, hnext]
  refine settles_bind hlawful (fun m => m.elim)
    (settles_unrequested (.aside (aside_emit follows_notices.session rfl))) fun _ => ?_
  exact settles_get hlawful fun h ht => settles_forwardAccepted htype hrejected _ h ht

theorem notices_gameRequest (payload : Json) :
    Settles Notices (fun m _ => m.elim) (gameInteractionRequest payload) := by
  have hlawful := follows_notices.lawful
  refine settles_bind hlawful (fun m => m.elim) (settles_unrequested (made_hostId (by decide))) fun me => ?_
  refine settles_bind hlawful (fun m => m.elim) (settles_ofExcept _) fun fields => ?_
  refine settles_attempt (fun h ht => wp_judge ht _ me _) fun r h₁ hjudged => ?_
  split
  · exact wp_hostRequest hjudged.1 hjudged.2 (by decide) (by decide) (by decide)
  · exact settles_unrequested (made_rejectToGame (by decide) _ _) h₁ hjudged
  · exact settles_raise _ h₁ hjudged

theorem notices_gameCommand (payload : Json) :
    Settles Notices (fun m _ => m.elim) (gameInteractionCommand payload) := by
  have hlawful := follows_notices.lawful
  refine settles_bind hlawful (fun m => m.elim) (settles_unrequested (made_hostId (by decide))) fun me => ?_
  refine settles_bind hlawful (fun m => m.elim) (settles_ofExcept _) fun fields => ?_
  refine settles_attempt (fun h ht => wp_judgeCommand ht me _) fun r h₁ hjudged => ?_
  split
  · exact wp_hostRequest hjudged.1 hjudged.2 (by decide) (by decide) (by decide)
  · exact settles_unrequested (made_rejectToGame (by decide) _ _) h₁ hjudged
  · exact settles_unrequested (made_rejectToGame (by decide) _ _) h₁ hjudged
  · exact settles_raise _ h₁ hjudged

/-- a cancelled request is about to be announced -/
def Cancelled : Except Exc Json → Host → Prop
  | .ok request, h => ∃ rid, AboutTo rid "cancel_requested" h ∧ requestIdOf request = some rid
  | .error _, h => StatusTold h

theorem wp_cancel {h : Host} (ht : StatusTold h) (payload : Json) (player : String)
    (fields : Except Exc (List (String × Json))) :
    wp Notices ∅ (do
        let requestId ← cancelTarget payload
        let fields ← ofExcept fields
        cancelInteraction requestId player fields : HostM Json)
      (fun r _ h' => Cancelled r h') h := by
  have htarget : Guar (On unrequested) (cancelTarget payload) :=
    guar_of_made (by decide) (by decide) (made_cancelTarget (by decide) payload)
  rw [wp_bind]
  refine wp_mono ?_ (follows_notices.wp htarget ht)
  rintro (e | requestId) own₁ h₁ ⟨-, ht₁, -, -⟩
  · exact ht₁
  rw [andThen_ok]
  refine wp_ofExcept_bind (fun e _ => ht₁) fun fields _ => ?_
  rw [cancelInteraction, onSession, wp_tryCall, Discipline.may_plain]
  cases he : h₁.session.cancelInteraction requestId player fields with
  | error e => exact ⟨HostSession.Kept.refl _, ht₁⟩
  | ok result =>
    obtain ⟨request, s⟩ := result
    obtain ⟨requests, hkept, hs⟩ := HostSession.cancelInteraction_kept he
    refine ⟨?_, ht₁.cancel he⟩
    show HostSession.Kept _ s.interactionRequests
    rw [hs]
    exact hkept

theorem notices_cancel (sender : String) (payload : Json) :
    Settles Notices (fun m _ => m.elim) (dispatchInteractionCancel sender payload) := by
  refine settles_attempt (fun h ht => wp_cancel ht payload sender payload.toDict) fun r h₁ hcancelled => ?_
  split
  · obtain ⟨rid, ha, hid⟩ := hcancelled
    refine notices_then (wp_announce ha (requestIdOf_orEmpty hid) (by decide)) fun _ => settles_unrequested ?_
    exact .bind (made_read (by decide)) fun _ =>
      made_onNetworkMessage (by decide) (by decide) (fun he => by cases he) (Or.inl (by decide)) _ _
  · exact settles_notices_error _ _ h₁ hcancelled
  · exact settles_raise _ h₁ hcancelled

/-- the host's game hears of the cancellation before the peers do -/
theorem notices_gameCancel (payload : Json) :
    Settles Notices (fun m _ => m.elim) (gameInteractionCancel payload) := by
  have hlawful := follows_notices.lawful
  refine settles_bind hlawful (fun m => m.elim) (settles_unrequested (made_hostId (by decide))) fun me => ?_
  refine settles_bind hlawful (fun m => m.elim) (settles_ofExcept _) fun fields => ?_
  refine settles_attempt (fun h ht => wp_cancel ht (.obj fields) me (.ok fields)) fun r h₁ hcancelled => ?_
  split
  · obtain ⟨rid, ha, hid⟩ := hcancelled
    rw [forward, bridgeSend, wp_bind, wp_bind, wp_bind, wp_askEnv]
    intro a
    rw [andThen_ok, wp_call, andThen_ok, Discipline.may_plain]
    refine ⟨HostSession.Kept.refl _, ?_⟩
    exact wp_announce (ha.note fun _ => rfl) (requestIdOf_orEmpty hid) (by decide)
  · exact settles_unrequested (made_rejectToGame (by decide) _ _) h₁ hcancelled
  · exact settles_raise _ h₁ hcancelled

theorem lastWord_mem {type : MessageType} (ht : type.topic = .status) (hne : type ≠ .interactionCancel) :
    lastWord type.value ∈ statusWords type := by
  cases type with
  | interactionCancel => exact absurd rfl hne
  | interactionAccepted | interactionCommandAccepted | interactionRejected | interactionCommandRejected
  | interactionQueued | interactionStarted | interactionFinished => decide +kernel
  | _ => cases ht

/-- the game's report on a request: its status is set, and the report goes to the peers -/
theorem notices_lifecycle (type : MessageType) (payload : Json) (ht : type.topic = .status)
    (hne : type ≠ .interactionCancel) : Settles Notices (fun m _ => m.elim) (gameLifecycle type payload) := by
  intro h htold
  have hword := lastWord_mem ht hne
  rw [gameLifecycle]
  refine wp_ofExcept_bind (fun e _ => ⟨htold, fun m => m.elim⟩) fun rid hrid => ?_
  have hid := requestIdOf_orEmpty (requestIdOf_strField hrid)
  refine wp_read follows_notices.lawful ?_
  split_ifs with hstored
  · obtain ⟨fields, rfl⟩ : ∃ fields, payload = .obj fields := by
      obtain ⟨j, hj, -⟩ := bind_ok hrid
      cases payload with
      | obj fields => exact ⟨fields, rfl⟩
      | _ => cases hj
    have ha := htold.setStatus rid (lastWord type.value)
    rw [Json.get_obj, setRequestField, onSession, wp_bind, wp_tryCall, andThen_ok, Discipline.may_plain, wp_bind,
      wp_ofExcept, andThen_ok]
    refine ⟨HostSession.setRequestField_kept _ _ _ (by decide), ?_⟩
    split_ifs
    · exact wp_announce ha hid hword
    · rw [setRequestField, onSession, wp_bind, wp_tryCall, andThen_ok, Discipline.may_plain]
      refine ⟨HostSession.setRequestField_kept _ _ _ (by decide), ?_⟩
      exact wp_announce (ha.setField _ (by decide) (by decide)) hid hword
  · exact wp_announce (htold.aboutTo (lastWord type.value) fun hmem => absurd hmem hstored) hid hword

theorem pass_notices : Pass Notices (fun m _ => m.elim) unrequested where
  toFollows := follows_notices
  stable := fun m => m.elim
  travel := Or.inl (by decide)
  ready := Or.inl (by decide)
  zoneReady := Or.inl (by decide)
  build := Or.inl (by decide)
  request := Or.inr
    { request := notices_request
      command := notices_command
      passRequest := fun _ _ => notices_passed (by decide) (by decide) rfl
      passCommand := fun _ _ => notices_passed (by decide) (by decide) rfl
      gameRequest := notices_gameRequest
      gameCommand := notices_gameCommand }
  status := Or.inr ⟨notices_cancel, notices_gameCancel, notices_lifecycle⟩
  view := Or.inl (by decide)
  abort := Or.inl (by decide)

/-! ## Runs -/

theorem init_requests (playerId displayName sessionId : String) (manifest : CompatibilityManifest)
    (nativeRequired : Bool) (commands : NetworkedCommandRouter) :
    (init playerId displayName sessionId manifest nativeRequired commands).session.interactionRequests = ∅ :=
  ((HostSession.addPlayer_calm _ _ _ _).trans (HostSession.updateReadiness_calm _ _ _)).requests

/-- the host's player takes a Sim and requests an interaction, which its game is handed or not -/
def requestsOwn (delivered : Bool) : List HostAct :=
  [joins 1 "bob", goesOn,
    plays .simsState (.obj [("sims", .arr [.obj [("sim_id", .str "7"), ("name", .str "Bella")]])]), goesOn,
    plays .simSelect (.obj [("sim_id", .str "7")]), goesOn,
    .arrive (.game ⟨.interactionRequest, .obj [("request_id", .str "r1"), ("affordance_id", .str "12")]⟩)
      [⟨delivered, 0⟩], goesOn]

/-- the request as it is stored -/
def ownRequest : InteractionRequest :=
  [("request_id", .str "r1"), ("player_id", .str "host"), ("sim_id", .str "7"), ("affordance_id", .str "12"),
    ("target_id", .null), ("target_kind", .str "object"), ("target_sim_id", .null), ("target_type", .null),
    ("position", .null), ("pick", .null), ("interaction_kwargs", .obj []), ("status", .str "accepted")]

end KerMP.Host
