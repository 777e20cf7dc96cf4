/-
The epochs in what the host broadcasts (`HostRuntime._on_game_event`, `_start_travel` and `_travel_ready` of
`kermp/runtime.py`).

A raw message is stamped with the epoch of the travel under way, if there is one. Proposals and the marks of a view
batch carry the epoch of their travel, which is positive.

- `stamped`: after every run each raw message that was broadcast is as `_on_game_event` makes it, with the stamp of its
  moment, and each proposal and each mark that was written has a positive epoch.
-/
import KerMP.Host.Relay

namespace KerMP.Host

open Py Coop
open Coro hiding pure get modify
open Travel (TravelTxn TravelCoordinator)

/-! ## What is claimed of a run -/

/-- the epoch of a travel that is under way -/
def stampOf : Option TravelTxn → Option ℤ
  | some t => if t.phase.finished then none else some t.epoch
  | none => none

theorem activeEpoch_eq (c : TravelCoordinator) : activeEpoch c = stampOf c.current := by
  unfold activeEpoch stampOf
  cases c.current <;> rfl

/-- the payload has a positive epoch, whatever stands for a missing one -/
def Epochal (payload : Json) : Prop := ∃ e : ℤ, 0 < e ∧ ∀ dflt, intField payload "epoch" dflt = .ok e

/-- a broadcast raw message is as the host makes it, and proposals and marks of a batch are written with an epoch -/
def Out.wellMade : Out → Prop
  | .sending .gameRawMessage payload _ travel =>
    ∃ msgId sequence raw, raw.length ≤ MAX_GAME_MESSAGE_BYTES ∧ payload = rawPayload msgId sequence raw (stampOf travel)
  | .wrote _ _ env => env.type = .travelPropose ∨ env.type = .travelViewBatch → Epochal env.payload
  | _ => True

theorem wellMade_of_topic {o : Out} (ht : o.topic ≠ .travel) (hv : o.topic ≠ .view) : o.wellMade := by
  cases o with
  | sending type payload seq travel =>
    cases type with
    | gameRawMessage => exact absurd rfl hv
    | _ => trivial
  | wrote player conn env =>
    rintro (h | h)
    · exact absurd (by rw [Out.topic, h]; rfl) ht
    · exact absurd (by rw [Out.topic, h]; rfl) ht
  | _ => trivial

/-! ## The invariant -/

/-- the epochs so far are positive, and so are those that are given out -/
structure Stamped (h : Host) : Prop where
  log : ∀ o ∈ h.log, o.wellMade
  counter : 0 ≤ h.session.travel.epoch
  current : ∀ t, h.session.travel.current = some t → 0 < t.epoch

abbrev Stamping : Discipline Host Empty := Discipline.plain Stamped fun _ _ => True

theorem Stamped.change {h h' : Host} (hi : Stamped h) (os : List Out) (hlog : h'.log = os ++ h.log)
    (hos : ∀ o ∈ os, o.wellMade) {o : Travel.Op} (hc : Travel.Change h.session.travel o h'.session.travel) :
    Stamped h' := by
  refine ⟨fun o ho => ?_, ?_, fun t' ht' => ?_⟩
  · rw [hlog] at ho
    exact (List.mem_append.1 ho).elim (hos o) (hi.log o)
  · generalize h'.session.travel = c' at hc
    cases hc with
    | propose => exact Int.le_add_one hi.counter
    | _ => exact hi.counter
  · generalize h'.session.travel = c' at hc ht'
    cases hc with
    | same => exact hi.current t' ht'
    | propose => cases ht'; exact Int.lt_add_one_of_le hi.counter
    | ready t p ht | commit t p ht | zoneWait t ht | zoneReady t p ht | complete t p ht | abort t ht | leave t p ht =>
      cases ht'
      exact hi.current t ht

theorem Stamped.note {h : Host} (hi : Stamped h) {o : Out} (ho : o.wellMade) : Stamped (h.note o) :=
  hi.change [o] rfl (by simpa using ho) (o := .abort "") (.same _)

/-- the steps that give out no epoch -/
def epochless : List Topic :=
  [.session, .member, .readiness, .commit, .resume, .lock, .build, .apply, .request, .status, .clock]

theorem Does.stamped {l : Label} {h h' : Host} (d : Does l h h') (hl : l.topic ∈ epochless) (hi : Stamped h) :
    Stamped h' := by
  have ht : l.topic ≠ .travel := ne_of_mem_of_not_mem hl (by decide)
  have hv : l.topic ≠ .view := ne_of_mem_of_not_mem hl (by decide)
  obtain ⟨os, hlog, htopic⟩ := d.log
  have hos : ∀ o ∈ os, o.wellMade := fun o ho => by
    rw [← htopic o ho] at ht hv
    exact wellMade_of_topic ht hv
  rcases d.change with he | ⟨o, -, hc⟩
  · exact hi.change os hlog hos (o := .abort "") (he ▸ .same _)
  · exact hi.change os hlog hos hc

theorem follows_stamping : Follows Stamping epochless where
  lawful := Discipline.plain_lawful (fun _ => trivial) fun _ _ _ _ _ => trivial
  session := by decide
  member := by decide
  lock := by decide
  clock := by decide
  readiness := by decide
  step := fun _ _ _ hl d hi => ⟨trivial, fun m => m.elim, fun m => m.elim, d.stamped hl hi⟩

/-! ## Handlers -/

/-- a broadcast that starts well made, with an epoch where it needs one -/
theorem stamped_broadcastPeers {type : MessageType} {payload : Payload} {own : Set Empty} {h : Host} (hi : Stamped h)
    (hsending : (Out.sending type (h.resolve payload.orEmpty) (h.seq + 1) h.session.travel.current).wellMade)
    (hepoch : type = .travelPropose ∨ type = .travelViewBatch → ∀ h' : Host, Epochal (h'.resolve payload.orEmpty)) :
    wp Stamping own (broadcastPeers type payload) (fun _ _ h' => Stamped h') h := by
  have hnote : ∀ {h' : Host} (o : Out), Stamped h' → o.wellMade →
      Stamping.May own h' (h'.note o) ∧ Stamping.take own h' (h'.note o) = own ∧ Stamped (h'.note o) :=
    fun o hi' ho => ⟨Discipline.may_plain.2 trivial, Discipline.take_eq fun m => m.elim, hi'.note ho⟩
  refine wp_mono (fun r own' h' hr => hr.2.1) (follows_stamping.wp_broadcastPeers own hi (J := fun _ _ => True)
    (E := fun _ => True) (fun messageId => ?_) fun h' hl _ _ _ => ?_)
  · refine ⟨fun _ _ _ _ _ _ _ => trivial, fun _ _ _ _ _ _ => trivial, fun pid peer rest h' _ hi' _ => ?_,
      fun rest h' hi' _ => ?_⟩
    · obtain ⟨hmay, htake, hi''⟩ := hnote
        (.wrote pid peer.conn (envelopeOf h' type payload.orEmpty (h.seq + 1) messageId)) hi' fun ht => hepoch ht h'
      exact ⟨hmay, htake, hi'', trivial⟩
    · obtain ⟨hmay, htake, hi''⟩ := hnote (.cut type (h.seq + 1)) hi' trivial
      exact ⟨hmay, htake, hi'', trivial⟩
  · obtain ⟨hmay, htake, hi''⟩ := hnote _ hl.2.1 hsending
    exact ⟨hmay, htake, hi'', trivial⟩

theorem ends_stamped {r : Except Exc Unit} {own : Set Empty} {h : Host} (hi : Stamped h) :
    Ends Stamping (fun m _ => m.elim) r own h := ⟨hi, fun m => m.elim⟩

/-- handlers that keep the epochs positive and stamp what they send -/
abbrev Stamps {α : Type} (p : HostM α) : Prop := Settles Stamping (fun m _ => m.elim) p

theorem stamps_bind {α β : Type} {p : HostM α} {f : α → HostM β} (hp : Stamps p) (hf : ∀ a, Stamps (f a)) :
    Stamps (p >>= f) := settles_bind follows_stamping.lawful (fun m => m.elim) hp hf

theorem stamps_bridgeSend (type : MessageType) (payload : Payload) : Stamps (bridgeSend type payload) := by
  intro h hi
  rw [bridgeSend, wp_bind, wp_askEnv]
  intro a
  rw [andThen_ok, wp_call]
  exact ⟨Discipline.may_plain.2 trivial, hi.note trivial, fun m => m.elim⟩

theorem stamps_forward (type : MessageType) (payload : Payload) : Stamps (forward type payload) :=
  stamps_bind (stamps_bridgeSend type payload) fun _ => settles_pure ()

theorem stamps_broadcastPeers {type : MessageType} (hraw : type ≠ .gameRawMessage) {payload : Payload}
    (hepoch : type = .travelPropose ∨ type = .travelViewBatch → ∀ h' : Host, Epochal (h'.resolve payload.orEmpty)) :
    Stamps (broadcastPeers type payload) := by
  intro h hi
  refine wp_mono (fun r own h' hi' => ⟨hi', fun m => m.elim⟩) (stamped_broadcastPeers hi ?_ hepoch)
  cases type with
  | gameRawMessage => exact absurd rfl hraw
  | _ => trivial

theorem stamps_startTravel (payload : Json) (player : String) : Stamps (startTravel payload player) := by
  intro h hi
  rw [startTravel]
  refine wp_ofExcept_bind (fun e _ => ends_stamped hi) fun zoneId _ => ?_
  refine wp_ofExcept_bind (fun e _ => ends_stamped hi) fun actors _ => ?_
  split_ifs
  · exact ends_stamped hi
  have hdraw : Does .quiet h { h with uuids := h.uuids + 1 } :=
    .quiet ⟨rfl, .refl _, rfl, fun _ => rfl, rfl, rfl, rfl, rfl, le_rfl⟩ fun _ => rfl
  obtain ⟨hmay, htake, hleft⟩ := follows_stamping.wp_step ∅ hdraw (by decide) hi
  refine wp_call_bind hmay htake ?_
  have hi₁ : Stamped { h with uuids := h.uuids + 1 } := hleft.2.1
  rw [wp_bind]
  cases hp : h.session.travel.propose zoneId (actors.map Json.toStr) h.session.players.keys (uuid4 h.uuids) with
  | error e =>
    refine wp_tryCall_of (.error e) { h with uuids := h.uuids + 1 } (by simp only [hp]) (Discipline.may_plain.2 trivial)
      (Discipline.take_eq fun m => m.elim) ?_
    exact ends_stamped (r := .error e) hi₁
  | ok r =>
    obtain ⟨t, c⟩ := r
    obtain ⟨-, -, rfl, rfl⟩ := Travel.propose_ok hp
    have hchange := Travel.step_change h.session.travel
      (.propose zoneId (actors.map Json.toStr) h.session.players.keys (uuid4 h.uuids))
    rw [Travel.step_ok (by rw [Travel.call, hp]; rfl)] at hchange
    have hi₂ : Stamped (setTravel { h with uuids := h.uuids + 1 } _) := hi₁.change [] rfl (by simp) hchange
    have hpos := hi₂.current _ rfl
    refine wp_tryCall_of (.ok _) _ (by simp only [hp]; rfl) (Discipline.may_plain.2 trivial)
      (Discipline.take_eq fun m => m.elim) ?_
    rw [andThen_ok]
    refine stamps_bind (stamps_bridgeSend _ _) (fun _ => stamps_broadcastPeers (by decide) fun _ h' => ?_) _ hi₂
    exact ⟨_, hpos, fun _ => rfl⟩

theorem epochal_viewBatch {t : TravelTxn} (ht : 0 < t.epoch) (kind : String) (h : Host) :
    Epochal (h.resolve (Payload.val (viewBatch t kind)).orEmpty) := ⟨t.epoch, ht, fun _ => rfl⟩

theorem stamps_gameViewBatch (payload : Json) : Stamps (gameViewBatch payload) := by
  refine stamps_bind (settles_ofExcept _) fun epoch => settles_get follows_stamping.lawful fun h hi => ?_
  cases hcur : h.session.travel.current with
  | none => exact settles_pure () h hi
  | some active =>
    have hpos := hi.current active hcur
    rw [ifSome]
    split_ifs
    · exact settles_pure () h hi
    have hopen : ∀ b, Stamps (setBatchOpen b) := fun b => by
      refine follows_stamping.settles _ (guar_modify fun h => ⟨.quiet, by decide, ?_⟩)
      exact .quiet ⟨rfl, .refl _, rfl, fun _ => rfl, rfl, rfl, rfl, rfl, le_rfl⟩ fun _ => rfl
    have hbroadcast : ∀ kind, Stamps (broadcastPeers .travelViewBatch (.val (viewBatch active kind))) := fun kind =>
      stamps_broadcastPeers (by decide) fun _ => epochal_viewBatch hpos kind
    refine stamps_bind (settles_ofExcept _) (fun kind => stamps_bind (hopen _) fun _ => ?_) h hi
    dsimp only
    split_ifs
    · exact stamps_bind (stamps_forward _ _) fun _ => stamps_bind (hbroadcast _) fun _ => stamps_forward _ _
    · exact stamps_bind (stamps_forward _ _) fun _ => stamps_bind (hbroadcast _) fun _ => settles_pure ()
    · exact stamps_bind (hbroadcast _) fun _ => stamps_forward _ _
    · exact stamps_bind (hbroadcast _) fun _ => settles_pure ()

theorem stamps_travelReady (player : String) (payload : Json) : Stamps (travelReady player payload) := by
  have hon : ∀ {α : Type} {p : HostM α}, Guar (Aside epochless) p → Stamps p := fun hp =>
    follows_stamping.settles _ (guar_of_aside hp)
  have hcommit : ∀ txnId, Stamps (announceCommit txnId) := by
    intro txnId
    refine settles_get follows_stamping.lawful fun h hi => ?_
    cases hcur : h.session.travel.current with
    | none => exact settles_raise _ h hi
    | some txn =>
      have hpos := hi.current txn hcur
      refine stamps_bind (stamps_broadcastPeers (by decide) fun _ => epochal_viewBatch hpos _) (fun _ => ?_) h hi
      exact stamps_bind (stamps_bridgeSend _ _) fun _ => stamps_bind (stamps_bridgeSend _ _) fun _ =>
        stamps_bind (stamps_broadcastPeers (by decide) fun h => absurd h (by decide)) fun _ =>
          hon (aside_beginZoneWait (by decide) (by decide) txnId)
  refine stamps_bind (settles_ofExcept _) fun txnId => ?_
  split_ifs
  · exact settles_pure ()
  refine stamps_bind ?_ fun commit => ?_
  · refine stamps_bind (Coro.settles_attempt (stamps_bind (settles_ofExcept _) fun epoch =>
      hon (aside_markReady (by decide) _ _ _))) fun r => ?_
    cases r with
    | ok commit => exact settles_pure commit
    | error e =>
      dsimp only
      split_ifs
      · exact settles_pure false
      · exact settles_raise e
  · split_ifs
    · exact hcommit txnId
    · exact settles_pure ()

theorem stamps_travelAbort (payload : Json) (reason : String) : Stamps (travelAbort payload reason) := by
  have habort : ∀ txnId, Stamps (abort txnId) := by
    intro txnId h hi
    rw [abort, onTravel, wp_tryCall]
    refine ⟨Discipline.may_plain.2 trivial, ?_, fun m => m.elim⟩
    cases he : h.session.travel.abort txnId with
    | error e => exact hi
    | ok c =>
      have hchange := Travel.step_change h.session.travel (.abort txnId)
      rw [Travel.step_ok (by rw [Travel.call, he]; rfl)] at hchange
      exact hi.change [] rfl (by simp) hchange
  refine settles_get follows_stamping.lawful fun h hi => ?_
  cases h.session.travel.current with
  | none => exact settles_pure () h hi
  | some txn =>
    refine stamps_bind (settles_ofExcept _) (fun epoch => ?_) h hi
    split_ifs
    · exact stamps_bind (habort _) fun _ => stamps_bind (settles_ofExcept _) fun reason =>
        stamps_broadcastPeers (by decide) fun h => absurd h (by decide)
    · exact settles_pure ()

theorem readRawMessage_length {payload : Json} {msgId : ℤ} {raw : Base64.Bytes}
    (h : readRawMessage payload = .ok (msgId, raw)) : raw.length ≤ MAX_GAME_MESSAGE_BYTES := by
  unfold readRawMessage at h
  obtain ⟨id, -, h⟩ := bind_ok h
  obtain ⟨n, -, h⟩ := bind_ok h
  obtain ⟨text, -, h⟩ := bind_ok h
  obtain ⟨bytes, -, h⟩ := bind_ok h
  obtain ⟨u, hle, h⟩ := bind_ok h
  cases h
  exact of_decide_eq_true (require_ok hle)

/-- a raw message is stamped and broadcast in one step -/
theorem stamps_gameRawMessage (payload : Json) : Stamps (gameRawMessage payload) := by
  intro h hi
  rw [gameRawMessage]
  split
  · exact stamps_forward _ _ h hi
  rename_i msgId raw hread
  have hlength := readRawMessage_length hread
  refine wp_call_bind (Discipline.may_plain.2 trivial) (Discipline.take_eq fun m => m.elim) ?_
  refine wp_read follows_stamping.lawful ?_
  refine wp_mono (fun r own h' hi' => ⟨hi', fun m => m.elim⟩)
    (stamped_broadcastPeers ⟨hi.log, hi.counter, hi.current⟩ ?_ (fun h => absurd h (by decide)))
  refine ⟨msgId, h.gameSequence + 1, raw, hlength, ?_⟩
  rw [← activeEpoch_eq]
  rfl

theorem pass_stamping : Pass Stamping (fun m _ => m.elim) epochless where
  toFollows := follows_stamping
  stable := fun m => m.elim
  travel := Or.inr ⟨stamps_startTravel, stamps_gameViewBatch⟩
  ready := Or.inr stamps_travelReady
  zoneReady := Or.inl (by decide)
  build := Or.inl (by decide)
  request := Or.inl ⟨by decide, by decide⟩
  status := Or.inl (by decide)
  view := Or.inr stamps_gameRawMessage
  abort := Or.inr stamps_travelAbort

/-! ## Runs -/

/-- **Stamps in every run.** -/
theorem stamped (playerId displayName sessionId : String) (manifest : CompatibilityManifest) (nativeRequired : Bool)
    (commands : NetworkedCommandRouter) (acts : List HostAct) :
    Stamped (runFrom (started playerId displayName sessionId manifest nativeRequired commands) acts).state := by
  have htravel := init_travel playerId displayName sessionId manifest nativeRequired commands
  have h₀ : Stamped (init playerId displayName sessionId manifest nativeRequired commands) := by
    refine ⟨fun o ho => (by cases ho), by rw [htravel]; exact le_rfl, fun t ht => ?_⟩
    rw [htravel] at ht
    cases ht
  exact (pass_stamping.run (Pool.inv_init h₀ fun m => m.elim) acts).2.state

end KerMP.Host
