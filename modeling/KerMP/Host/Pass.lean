/-
From the steps of a topic to all of the host.

To prove an invariant of every run it is enough to look at the steps of the topics that do not matter to it, taken one
by one (`Follows`), and at the few handlers of the topics that do, taken as programs (`TravelHandlers`,
`BuildHandlers`, `RequestHandlers`). `Passage.handle` puts them together with `dispatch`, the handling of connections
and `onGameEvent`, for every event but a `travel.abort`; `Pass` adds the abort, and `Pass.run` is the result for runs.

`Passage.run` is for invariants that an abort may break: it asks for the abort only in the states in which the run
lets it in.
-/
import KerMP.Host.Handlers

namespace KerMP.Host

open Py Coop
open Coro hiding pure get modify

variable {M : Type}

theorem wp_catching {D : Discipline Host M} {own : Set M} {α : Type} (p : Exc → Bool) (body : HostM α)
    (handler : Exc → HostM α) (Q : Except Exc α → Set M → Host → Prop) (h : Host) :
    wp D own (catching p body handler) Q h ↔
      wp D own body (andThen (fun a own h => Q (.ok a) own h) fun e own h =>
        if p e then wp D own (handler e) Q h else Q (.error e) own h) h := by
  rw [catching, wp_bind, wp_attempt]
  constructor
  all_goals
    refine wp_mono ?_
    intro r own h hr
    cases r with
    | ok a => exact hr
    | error e =>
      by_cases hp : p e = true
      · simpa [hp] using hr
      · simpa [hp] using hr

/-- the handlers of travels, apart from the two acknowledgements and the abort -/
structure TravelHandlers (D : Discipline Host M) (settled : M → Host → Prop) : Prop where
  start : ∀ payload player, Settles D settled (startTravel payload player)
  viewBatch : ∀ payload, Settles D settled (gameViewBatch payload)

/-- the handlers of build operations -/
structure BuildHandlers (D : Discipline Host M) (settled : M → Host → Prop) : Prop where
  operation : ∀ sender payload, Settles D settled (dispatchBuildOperation sender payload)
  pass : ∀ sender payload, Settles D settled (dispatchOther sender .buildApply payload)
  gameOperation : ∀ payload, Settles D settled (gameBuildOperation payload)

/-- the handlers that concern interaction requests -/
structure RequestHandlers (D : Discipline Host M) (settled : M → Host → Prop) : Prop where
  request : ∀ sender payload, Settles D settled (dispatchInteractionRequest sender payload)
  command : ∀ sender payload, Settles D settled (dispatchInteractionCommand sender payload)
  passRequest : ∀ sender payload, Settles D settled (dispatchOther sender .interactionAccepted payload)
  passCommand : ∀ sender payload, Settles D settled (dispatchOther sender .interactionCommandAccepted payload)
  gameRequest : ∀ payload, Settles D settled (gameInteractionRequest payload)
  gameCommand : ∀ payload, Settles D settled (gameInteractionCommand payload)

/-- the handlers of what becomes of a request -/
structure StatusHandlers (D : Discipline Host M) (settled : M → Host → Prop) : Prop where
  cancel : ∀ sender payload, Settles D settled (dispatchInteractionCancel sender payload)
  gameCancel : ∀ payload, Settles D settled (gameInteractionCancel payload)
  lifecycle : ∀ type payload, type.topic = .status → type ≠ .interactionCancel →
    Settles D settled (gameLifecycle type payload)

/-- the steps on `T` follow the discipline one by one, and take nothing -/
structure Follows (D : Discipline Host M) (T : List Topic) : Prop where
  lawful : D.Lawful
  session : .session ∈ T
  member : .member ∈ T
  lock : .lock ∈ T
  clock : .clock ∈ T
  readiness : .readiness ∈ T
  step : ∀ l h h', l.topic ∈ T → Does l h h' → D.inv h →
    D.guar h h' ∧ (∀ m, D.keeps m h h') ∧ (∀ m, D.free m h → D.free m h') ∧ D.inv h'

/-- a program that starts with one of these steps -/
theorem Follows.modify {D : Discipline Host M} {T : List Topic} (F : Follows D T) (l : Label) {u : Host → Host}
    {h : Host} (hd : Does l h (u h)) (hl : l.topic ∈ T) (hi : D.inv h) {α : Type} {g : Unit → HostM α}
    {Q : Except Exc α → Set M → Host → Prop} (hg : D.inv (u h) → Coro.wp D ∅ (g ()) Q (u h)) :
    Coro.wp D ∅ (Coro.modify u >>= g) Q h := by
  obtain ⟨hguar, hk, hf, hi'⟩ := F.step l h (u h) hl hd hi
  rw [wp_bind, wp_modify, Discipline.take_eq hf]
  exact ⟨⟨hguar, fun m _ => hk m⟩, hg hi'⟩

/-- a handler made of such steps -/
theorem Follows.wp {D : Discipline Host M} {T : List Topic} (F : Follows D T) {α : Type} {p : HostM α}
    (hp : Guar (On T) p) {own : Set M} {h : Host} (hi : D.inv h) :
    wp D own p (fun _ own' h' => own' = own ∧ D.inv h' ∧ D.rely h h' ∧ ∀ m ∈ own, D.keeps m h h') h := by
  refine wp_of_guar F.lawful ?_ hp hi
  rintro h h' ⟨l, hl, hd⟩ hi
  exact F.step l h h' hl hd hi

theorem Follows.settles {D : Discipline Host M} {T : List Topic} (F : Follows D T) (settled : M → Host → Prop)
    {α : Type} {p : HostM α} (hp : Guar (On T) p) : Settles D settled p := by
  intro h hi
  refine wp_mono ?_ (F.wp hp hi)
  rintro r own h' ⟨rfl, hi', -, -⟩
  exact ⟨hi', by simp⟩

/-- such a handler and what follows it, where nothing is owned -/
theorem Follows.then_ends {D : Discipline Host Empty} {settled : Empty → Host → Prop} {T : List Topic} (F : Follows D T)
    {α β : Type} {p : HostM α} {f : α → HostM β} (hp : Guar (On T) p) {own : Set Empty} {h : Host} (hi : D.inv h)
    (hf : ∀ a own' h', D.inv h' → D.rely h h' → Coro.wp D own' (f a) (Ends D settled) h') :
    Coro.wp D own (p >>= f) (Ends D settled) h := by
  rw [wp_bind]
  refine wp_mono ?_ (F.wp hp hi)
  rintro r own' h' ⟨-, hi', hlater, -⟩
  cases r with
  | ok a => exact hf a own' h' hi' hlater
  | error e => exact ⟨hi', fun m => m.elim⟩

theorem Follows.ends {D : Discipline Host Empty} {settled : Empty → Host → Prop} {T : List Topic} (F : Follows D T)
    {α : Type} {p : HostM α} (hp : Guar (On T) p) {own : Set Empty} {h : Host} (hi : D.inv h) :
    Coro.wp D own p (Ends D settled) h := by
  refine wp_mono ?_ (F.wp hp hi)
  rintro r own' h' ⟨-, hi', -, -⟩
  exact ⟨hi', fun m => m.elim⟩

/-- what is left of a broadcast once it has started -/
theorem Follows.wp_sent {I : Host → Prop} {R : Host → Host → Prop} {T : List Topic}
    (F : Follows (Discipline.plain I R) T) {type : MessageType}
    (hwrites : ∀ h h', Writes type h h' → I h → R h h' ∧ I h') {own : Set Empty} {h : Host} (hi : I h)
    (payload : Payload) (seq : ℕ) (messageId : String) (size : ℕ) (pids : List String) :
    Coro.wp (Discipline.plain I R) own (do
        let dead ← writeEach type payload seq messageId size pids
        dropAll dead : HostM Unit)
      (Ends (Discipline.plain I R) fun m _ => m.elim) h := by
  rw [wp_bind]
  refine wp_mono ?_ (wp_of_guar F.lawful (fun h h' w hi => ?_) (writes_writeEach type payload seq messageId size pids) hi)
  · rintro (e | dead) own' h' ⟨-, hi', -, -⟩
    · exact ⟨hi', fun m => m.elim⟩
    · rw [andThen_ok]
      refine wp_mono ?_ (F.wp (guar_dropAll F.session F.member dead) hi')
      rintro r own'' h'' ⟨-, hi'', -, -⟩
      exact ⟨hi'', fun m => m.elim⟩
  · obtain ⟨hR, hi'⟩ := hwrites h h' w hi
    exact ⟨hR, fun m => m.elim, fun m => m.elim, hi'⟩

/-- a broadcast whose start has to be looked at -/
theorem Follows.broadcast {I : Host → Prop} {R : Host → Host → Prop} {T : List Topic}
    (F : Follows (Discipline.plain I R) T) {type : MessageType} {payload : Payload}
    (hwrites : ∀ h h', Writes type h h' → I h → R h h' ∧ I h') {own : Set Empty} {h : Host} (hi : I h)
    (hsend : ∀ h', h'.session = h.session → h'.log = h.log → I h' →
      R h' (h'.note (.sending type (h.resolve payload.orEmpty) (h.seq + 1) h.session.travel.current)) ∧
        I (h'.note (.sending type (h.resolve payload.orEmpty) (h.seq + 1) h.session.travel.current))) :
    Coro.wp (Discipline.plain I R) own (broadcastPeers type payload) (Ends (Discipline.plain I R) fun m _ => m.elim) h := by
  obtain ⟨hR₁, -, -, hi₁⟩ := F.step .number h _ F.session (.number h) hi
  obtain ⟨hR₂, -, -, hi₂⟩ := F.step .quiet { h with seq := h.seq + 1 } { h with seq := h.seq + 1, uuids := h.uuids + 1 }
    F.session (.quiet ⟨rfl, .refl _, rfl, fun _ => rfl, rfl, rfl, rfl, rfl, le_rfl⟩ fun _ => rfl) hi₁
  obtain ⟨hR₃, hi₃⟩ := hsend { h with seq := h.seq + 1, uuids := h.uuids + 1 } rfl rfl hi₂
  rw [broadcastPeers, nextSeq, drawUuid, wp_bind, wp_call, andThen_ok, wp_bind, wp_call, andThen_ok, wp_bind, wp_get,
    andThen_ok, emit, wp_bind, wp_modify, andThen_ok]
  simp only [Discipline.may_plain]
  exact ⟨hR₁, hR₂, F.lawful.guar_refl _, hR₃, F.wp_sent hwrites hi₃ _ _ _ _ _⟩

/-- what an acknowledgement of the zone does: the call, which may complete the travel, and then the broadcast -/
theorem settles_zoneReady {I : Host → Prop} {R : Host → Host → Prop} (Done : Host → String → ℤ → Prop)
    (hrefl : ∀ h, R h h)
    (hnote : ∀ h player payload travel, I h →
      R h (h.note (.zoneReady player payload travel)) ∧ I (h.note (.zoneReady player payload travel)))
    (hack : ∀ h t player txnId payload, I h → h.session.travel.current = some t →
      strField payload "txn_id" = .ok txnId → intField payload "epoch" (-1) = .ok t.epoch →
      h.log.head? = some (.zoneReady player payload (some t)) →
      R h (h.ackZone player txnId t.epoch).2 ∧ I (h.ackZone player txnId t.epoch).2 ∧
        ((h.ackZone player txnId t.epoch).1 = .ok true → Done (h.ackZone player txnId t.epoch).2 txnId t.epoch))
    (hresume : ∀ own h txnId epoch, I h → Done h txnId epoch →
      wp (Discipline.plain I R) own (announceResume txnId epoch) (Ends (Discipline.plain I R) fun m _ => m.elim) h)
    (player : String) (payload : Json) :
    Settles (Discipline.plain I R) (fun m _ => m.elim) (travelZoneReady player payload) := by
  intro h hi
  rw [travelZoneReady]
  refine wp_ofExcept_bind (fun e _ => ⟨hi, fun m => m.elim⟩) fun txnId htxn => ?_
  split_ifs
  · exact ⟨hi, fun m => m.elim⟩
  have hacked : wp (Discipline.plain I R) ∅ (acknowledgeZone player txnId payload)
      (fun r _ h' => I h' ∧ ∀ epoch, r = .ok (some epoch) → Done h' txnId epoch) h := by
    simp only [acknowledgeZone, wp_bind, wp_get, andThen_ok, Discipline.may_plain]
    refine ⟨hrefl h, ?_⟩
    cases hcur : h.session.travel.current with
    | none => exact ⟨hi, fun _ he => by cases he⟩
    | some t =>
      refine wp_ofExcept_bind (fun e _ => ⟨hi, fun _ he => by cases he⟩) fun epoch hepoch => ?_
      split_ifs with hne
      · exact ⟨hi, fun _ he => by cases he⟩
      obtain rfl : epoch = t.epoch := not_not.1 hne
      obtain ⟨hR₁, hi₁⟩ := hnote h player payload (some t) hi
      obtain ⟨hR₂, hi₂, hdone⟩ := hack _ t player txnId payload hi₁ hcur htxn hepoch rfl
      simp only [emit, markZoneReady, wp_bind, wp_modify, wp_tryCall, andThen_ok, Discipline.may_plain]
      refine ⟨hR₁, hR₂, ?_⟩
      generalize (h.note (.zoneReady player payload (some t))).ackZone player txnId t.epoch = r at hi₂ hdone
      obtain ⟨answer, h₂⟩ := r
      rcases answer with e | _ | _
      · exact ⟨hi₂, fun _ he => by cases he⟩
      · exact ⟨hi₂, fun _ he => by cases he⟩
      · refine ⟨hi₂, fun epoch' he => ?_⟩
        cases he
        exact hdone rfl
  rw [wp_bind, wp_catching]
  refine wp_mono ?_ hacked
  rintro (e | _ | epoch) own₁ h₁ ⟨hi₁, hdone⟩
  · rw [andThen_error]
    split_ifs
    · exact ⟨hi₁, fun m => m.elim⟩
    · exact ⟨hi₁, fun m => m.elim⟩
  · exact ⟨hi₁, fun m => m.elim⟩
  · exact hresume _ h₁ txnId epoch hi₁ (hdone epoch rfl)

/-- what has to be shown besides for the handlers of the other topics, except that of an abort -/
structure Passage (D : Discipline Host M) (settled : M → Host → Prop) (T : List Topic) : Prop extends Follows D T where
  stable : ∀ m h h', D.keeps m h h' → D.rely h h' → settled m h → settled m h'
  travel : .travel ∈ T ∨ TravelHandlers D settled
  ready : (.travel ∈ T ∧ .commit ∈ T) ∨ ∀ player payload, Settles D settled (travelReady player payload)
  zoneReady : .resume ∈ T ∨ ∀ player payload, Settles D settled (travelZoneReady player payload)
  build : (.build ∈ T ∧ .apply ∈ T) ∨ BuildHandlers D settled
  request : .request ∈ T ∧ .status ∈ T ∨ RequestHandlers D settled
  status : .status ∈ T ∨ StatusHandlers D settled
  view : .view ∈ T ∨ ∀ payload, Settles D settled (gameRawMessage payload)

structure Pass (D : Discipline Host M) (settled : M → Host → Prop) (T : List Topic) : Prop extends
    Passage D settled T where
  abort : .travel ∈ T ∨ ∀ payload reason, Settles D settled (travelAbort payload reason)

/-! ## Aborts -/

/-- the connection's player has sent this envelope, and its number is not an old one -/
def Heard (h : Host) (conn : ℕ) (env : Envelope) : Prop :=
  h.conns.lookup conn = some (.idle env.senderId) ∧
    ∀ peer ∈ h.peers.lookup env.senderId, staleSeq env.seq peer.lastSeq = .ok false

instance (h : Host) (conn : ℕ) (env : Envelope) : Decidable (Heard h conn env) := instDecidableAnd

/-- the payload of a `travel.abort` from the host's game, or from a client that is listened to -/
def asksAbort (h : Host) : Event → Option Json
  | .game event => if event.type = .travelAbort then some event.payload else none
  | .line conn (.line (.ok env)) => if env.type = .travelAbort ∧ Heard h conn env then some env.payload else none
  | .line _ _ => none

namespace Passage

variable {D : Discipline Host M} {settled : M → Host → Prop} {T : List Topic}

theorem of_guar (P : Passage D settled T) {α : Type} {p : HostM α} (hp : Guar (On T) p) : Settles D settled p :=
  P.toFollows.settles settled hp

theorem bind (P : Passage D settled T) {α β : Type} {p : HostM α} {f : α → HostM β} (hp : Settles D settled p)
    (hf : ∀ a, Settles D settled (f a)) : Settles D settled (p >>= f) := settles_bind P.lawful P.stable hp hf

theorem get (P : Passage D settled T) {β : Type} {f : Host → HostM β} (hf : ∀ h, Settles D settled (f h)) :
    Settles D settled (Coro.get >>= f) := settles_get P.lawful fun h hi => hf h h hi

/-- a handler that is put together from such steps and from handlers dealt with on their own -/
theorem of_made (P : Passage D settled T) {α : Type} {p : HostM α} (hp : Made T (fun _ p => Settles D settled p) p) :
    Settles D settled p := by
  have hs := P.session
  induction hp with
  | own h => exact h
  | aside h => exact P.of_guar (guar_of_aside h)
  | sendPeer player payload ht => exact P.of_guar (guar_sendPeer hs player ht payload _)
  | broadcastPeers payload ht => exact P.of_guar (guar_broadcastPeers hs P.member ht payload)
  | bind _ _ ihp ihf => exact P.bind ihp ihf
  | attempt _ ih => exact settles_attempt ih

theorem parts (P : Passage D settled T) : Parts T fun _ p => Settles D settled p where
  session := P.session
  lock := Or.inl P.lock
  travel := P.travel.imp_right fun V => ⟨V.start, V.viewBatch⟩
  ready := P.ready
  zoneReady := P.zoneReady
  operation := P.build.imp_right fun B => ⟨B.operation, B.pass, B.gameOperation⟩
  status := P.status.imp_right fun S => ⟨S.cancel, S.gameCancel, S.lifecycle⟩
  request := P.request.imp_right fun R =>
    ⟨R.request, R.command, R.passRequest, R.passCommand, R.gameRequest, R.gameCommand⟩
  view := P.view

theorem dispatch (P : Passage D settled T) {env : Envelope} (hne : env.type ≠ .travelAbort) :
    Settles D settled (dispatch env) :=
  P.of_made (P.parts.dispatch (fun he => absurd he hne) (fun _ => P.lock) (fun _ => P.clock) fun _ => P.readiness)

theorem onGameEvent (P : Passage D settled T) {event : BridgeEvent} (hne : event.type ≠ .travelAbort) :
    Settles D settled (onGameEvent event) :=
  P.of_made (P.parts.onGameEvent (fun he => absurd he hne) (fun _ => P.lock) (fun _ => P.clock) fun _ => P.readiness)

/-! ## Connections -/

/-- a player is registered only after the check, in the same step of the loop -/
theorem greet (P : Passage D settled T) (conn : ℕ) (hello : Envelope) : Settles D settled (greet conn hello) := by
  have hs := P.session
  have hrefuse : ∀ reason, Settles D settled
      (do refuse conn hello.senderId reason; pure false : HostM Bool) := fun reason =>
    P.of_guar (guar_bind (guar_refuse hs _ _ _) fun _ => guar_pure _)
  refine P.bind (settles_ofExcept _) fun name => settles_get P.lawful fun h hi => ?_
  split
  · exact hrefuse _ h hi
  rename_i hnew
  rw [not_or] at hnew
  split
  · exact hrefuse _ h hi
  · exact hrefuse _ h hi
  · exact settles_raise _ h hi
  · rename_i manifest hmanifest
    refine P.modify (.join hello.senderId conn) (.join h hello.senderId name manifest conn hnew.1 hnew.2) P.member hi
      fun hi' => ?_
    exact P.of_guar (guar_bind (guar_welcome hs conn hello.senderId) fun _ => guar_pure true) _ hi'

theorem firstMessage (P : Passage D settled T) (conn : ℕ) (r : Recv) : Settles D settled (firstMessage conn r) := by
  unfold Host.firstMessage
  split
  · split_ifs
    · exact P.greet conn _
    · exact settles_pure _
  · exact settles_pure _

theorem handleHello (P : Passage D settled T) (conn : ℕ) (r : Recv) : Settles D settled (handleHello conn r) := by
  refine P.bind (P.of_guar (guar_setStage P.session _ _)) fun _ => ?_
  refine P.bind (settles_attempt (P.firstMessage conn r)) fun accepted => ?_
  split
  · exact P.of_guar (guar_setStage P.session _ _)
  · exact P.of_guar (guar_finish P.session P.member _ _)

theorem handleEnvelope (P : Passage D settled T) (player : String) {env : Envelope} (hne : env.type ≠ .travelAbort) :
    Settles D settled (handleEnvelope player env) :=
  P.of_made (P.parts.handleEnvelope player (fun he => absurd he hne) (fun _ => P.lock) (fun _ => P.clock)
    fun _ => P.readiness)

/-- a line's handler ends as the handler of its envelope does -/
theorem wp_handleLine (P : Passage D settled T) {conn : ℕ} {player : String} {env : Envelope} {h : Host} (hi : D.inv h)
    (henv : ∀ h', h'.session = h.session → h'.peers = h.peers → D.inv h' →
      wp D ∅ (Host.handleEnvelope player env) (Ends D settled) h') :
    wp D ∅ (Host.handleLine conn player (.line (.ok env))) (Ends D settled) h := by
  refine P.modify (.stage conn .busy) (.stage h conn .busy) P.session hi fun hi₁ => ?_
  refine wp_then P.lawful P.stable ((wp_attempt _ _ _).2 (henv _ rfl rfl hi₁)) fun handled => ?_
  cases handled with
  | ok _ => exact P.of_guar (guar_setStage P.session _ _)
  | error e => exact P.of_guar (guar_finish P.session P.member _ _)

theorem handleLine (P : Passage D settled T) (conn : ℕ) (player : String) {r : Recv}
    (hne : ∀ env, r = .line (.ok env) → env.type ≠ .travelAbort) : Settles D settled (handleLine conn player r) := by
  rcases r with (e | env) | _
  · exact P.bind (P.of_guar (guar_setStage P.session _ _)) fun _ => P.of_guar (guar_finish P.session P.member _ _)
  · exact fun h hi => P.wp_handleLine hi fun h' _ _ hi' => P.handleEnvelope player (hne env rfl) h' hi'
  · exact P.bind (P.of_guar (guar_setStage P.session _ _)) fun _ => P.of_guar (guar_finish P.session P.member _ _)

/-! ## Events -/

/-- an abort that is listened to goes on to its handler; what comes before it leaves the travel alone -/
theorem handleEnvelope_abort (P : Passage D settled T) {player : String} {env : Envelope} (ht : env.type = .travelAbort)
    {h : Host} (hi : D.inv h)
    (habort : (env.senderId = player ∧ ∀ peer ∈ h.peers.lookup player,
        staleSeq env.seq peer.lastSeq = .ok false) → ∀ h' reason, h'.session.travel = h.session.travel → D.inv h' →
      wp D ∅ (travelAbort env.payload reason) (Ends D settled) h') :
    wp D ∅ (Host.handleEnvelope player env) (Ends D settled) h := by
  have hpass : ∀ h', (env.senderId = player ∧ ∀ peer ∈ h.peers.lookup player,
      staleSeq env.seq peer.lastSeq = .ok false) → h'.session.travel = h.session.travel → D.inv h' →
      wp D ∅ (Host.dispatch env) (Ends D settled) h' := by
    intro h' hheard htravel hi'
    rw [Host.dispatch, ht]
    refine P.modify (.note (.passed _ _ _)) (.note h' _) P.session hi' fun hi'' => wp_read P.lawful ?_
    exact habort hheard _ _ htravel hi''
  unfold Host.handleEnvelope
  by_cases hs : env.senderId = player
  swap
  · rw [if_pos hs]
    exact P.of_guar (guar_sendError P.session _ _) h hi
  rw [if_neg (not_not.2 hs)]
  refine wp_read P.lawful ?_
  cases hpeer : h.peers.lookup player with
  | none => exact hpass h ⟨hs, fun peer he => by rw [hpeer] at he; cases he⟩ rfl hi
  | some peer =>
    dsimp only
    rw [wp_bind, wp_ofExcept]
    cases hstale : staleSeq env.seq peer.lastSeq with
    | error e => exact ⟨hi, by simp⟩
    | ok stale =>
      have hheard : stale = false → env.senderId = player ∧ ∀ peer ∈ h.peers.lookup player,
          staleSeq env.seq peer.lastSeq = .ok false := by
        rintro rfl
        refine ⟨hs, fun peer' he => ?_⟩
        rw [hpeer] at he
        cases he
        exact hstale
      rw [andThen_ok]
      cases stale with
      | true => exact settles_pure _ h hi
      | false =>
        by_cases hseq : env.seq = .null
        · simp only [hseq, if_true, Bool.false_eq_true, if_false]
          exact hpass h (hheard rfl) rfl hi
        · simp only [hseq, Bool.false_eq_true, if_false]
          refine P.modify .quiet (.quiet ?_ fun _ => rfl) P.session hi fun hi' => hpass _ (hheard rfl) rfl hi'
          exact ⟨rfl, .refl _, AList.keys_mapItems _ _, fun p => conn_setLastSeq h.peers player p env.seq, rfl, rfl, rfl,
            rfl, le_rfl⟩

/-- any event; of an abort it has to be known what its handler does in this state -/
theorem wp_handle (P : Passage D settled T) {h : Host} {t : Event} (hi : D.inv h)
    (habort : ∀ payload, asksAbort h t = some payload → ∀ h' reason, h'.session.travel = h.session.travel → D.inv h' →
      wp D ∅ (travelAbort payload reason) (Ends D settled) h') : wp D ∅ (Host.handle t) (Ends D settled) h := by
  rcases t with ⟨conn, r⟩ | event
  · refine wp_read P.lawful ?_
    split
    · exact P.handleHello conn r h hi
    · rename_i player hconn
      by_cases hr : ∃ env, r = .line (.ok env) ∧ env.type = .travelAbort
      · obtain ⟨env, rfl, ht⟩ := hr
        refine P.wp_handleLine hi fun h' hsession hpeers hi' => P.handleEnvelope_abort ht hi' ?_
        rintro ⟨rfl, hstale⟩ h'' reason htravel hi''
        rw [hpeers] at hstale
        have hasks : asksAbort h (.line conn (.line (.ok env))) = some env.payload := if_pos ⟨ht, hconn, hstale⟩
        exact habort env.payload hasks h'' reason (by rw [htravel, hsession]) hi''
      · exact P.handleLine conn player (fun env he ht => hr ⟨env, he, ht⟩) h hi
    · exact settles_pure _ h hi
  · by_cases ht : event.type = .travelAbort
    · have he : Host.onGameEvent event = travelAbort event.payload "game_abort" := by rw [Host.onGameEvent, ht]
      rw [Host.handle, he]
      exact habort event.payload (if_pos ht) h _ rfl hi
    · exact P.onGameEvent ht h hi

/-! ## Runs -/

/-- **Runs of the host, with aborts in their place.** The invariant holds after every run whose events are admitted by
`ok`, when the handler of an abort keeps it where `ok` admits the abort. -/
theorem run (P : Passage D settled T) {ok : Host → Event → Prop}
    (habort : ∀ h t payload, D.inv h → ok h t → asksAbort h t = some payload → ∀ h' reason,
      h'.session.travel = h.session.travel → D.inv h' → wp D ∅ (travelAbort payload reason) (Ends D settled) h')
    {c : Run} (h : Pool.Inv D settled c) (acts : List HostAct) (hacts : Pool.AllAdmitted Host.handle enabled ok c acts) :
    D.rely c.state (runFrom c acts).state ∧ Pool.Inv D settled (runFrom c acts) :=
  Pool.run_inv P.lawful P.stable (fun t s hi _ hok => P.wp_handle hi fun payload => habort s t payload hi hok) h acts hacts

end Passage

theorem init_travel (playerId displayName sessionId : String) (manifest : CompatibilityManifest) (nativeRequired : Bool)
    (commands : NetworkedCommandRouter) :
    (init playerId displayName sessionId manifest nativeRequired commands).session.travel = .init :=
  ((HostSession.addPlayer_calm _ _ _ _).trans (HostSession.updateReadiness_calm _ _ _)).travel

/-- **Runs of the host.** After every run, in any interleaving, the invariant holds, what has happened since is
allowed to the others, and what no suspended handler owns is free or settled. -/
theorem Pass.run {D : Discipline Host M} {settled : M → Host → Prop} {T : List Topic} (P : Pass D settled T) {c : Run}
    (h : Pool.Inv D settled c) (acts : List HostAct) :
    D.rely c.state (runFrom c acts).state ∧ Pool.Inv D settled (runFrom c acts) := by
  have hacts : Pool.AllAdmitted Host.handle enabled (fun _ _ => True) c acts :=
    Pool.allAdmitted_of_forall (fun a _ _ => by cases a <;> trivial) c
  refine P.toPassage.run (fun _ _ payload _ _ _ h' reason _ hi' => ?_) h acts hacts
  rcases P.abort with ht | habort
  · exact P.toPassage.of_made (made_travelAbort P.session ht payload reason) h' hi'
  · exact habort payload reason h' hi'

end KerMP.Host
