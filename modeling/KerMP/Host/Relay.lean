/-
Broadcasts of a handler that owes something (`KerMPHost.broadcast` of `kermp/net.py`).

`Follows.wp` is for handlers whose every step leaves what is owned as it is. A handler that still has to bring out what
it owns does so in a broadcast, and a broadcast is not one step: it gives up control after each write, may be cut, and
ends with the departures of those it could not reach.

- `Carries`: what a broadcast asks of a property of the peers still to come and the state.
- `Follows.wp_broadcastPeers`: the property of all peers at the start gives that of no peers at the end, whatever the
  others do in between.
- `Follows.wp_plainBroadcast`, `Follows.wp_bridgeSend`: messages that have nothing to do with what is owned.
-/
import KerMP.Host.Pass

namespace KerMP.Host

open Py Coop
open Coro hiding pure get modify

variable {M : Type} {D : Discipline Host M} {T : List Topic}

/-- how a part of a handler that takes nothing ends -/
def Leaves (D : Discipline Host M) (own : Set M) (h : Host) (own' : Set M) (h' : Host) : Prop :=
  own' = own ∧ D.inv h' ∧ D.rely h h' ∧ ∀ m ∈ own, D.keeps m h h'

theorem leaves_refl (hD : D.Lawful) {own : Set M} {h : Host} (hi : D.inv h) : Leaves D own h own h :=
  ⟨rfl, hi, hD.refl h, fun m _ => hD.keeps_refl m h⟩

theorem Leaves.trans (hD : D.Lawful) {own own' own'' : Set M} {a b c : Host} (h : Leaves D own a own' b)
    (h' : Leaves D own' b own'' c) : Leaves D own a own'' c := by
  obtain ⟨rfl, -, hr, hk⟩ := h
  obtain ⟨rfl, hi, hr', hk'⟩ := h'
  exact ⟨rfl, hi, hD.trans _ _ _ hr hr', fun m hm => hD.keeps_trans m _ _ _ (hk m hm) (hk' m hm)⟩

/-- one step, and what follows it -/
theorem Follows.wp_step (F : Follows D T) (own : Set M) {l : Label} {h h' : Host} (d : Does l h h')
    (hl : l.topic ∈ T) (hi : D.inv h) : D.May own h h' ∧ D.take own h h' = own ∧ Leaves D own h own h' := by
  obtain ⟨hguar, hk, hf, hi'⟩ := F.step l h h' hl d hi
  exact ⟨⟨hguar, fun m _ => hk m⟩, Discipline.take_eq hf, rfl, hi', F.lawful.guar_rely _ _ hguar, fun m _ => hk m⟩

/-- dropping those who could not be reached never raises -/
theorem Follows.wp_dropAll (F : Follows D T) {own : Set M} {h : Host} (pids : List String) (hi : D.inv h) :
    Coro.wp D own (dropAll pids) (fun r own' h' => r = .ok () ∧ Leaves D own h own' h') h := by
  induction pids generalizing h with
  | nil => exact ⟨rfl, leaves_refl F.lawful hi⟩
  | cons pid rest ih =>
    obtain ⟨hmay, htake, hleft⟩ := F.wp_step own (.drop h pid) F.member hi
    rw [dropAll, drop, wp_bind, depart]
    refine wp_call_bind hmay htake ?_
    have hrest : ∀ h', Leaves D own h own h' → Coro.wp D own (dropAll rest)
        (fun r own' h'' => r = .ok () ∧ Leaves D own h own' h'') h' := fun h' hl =>
      wp_mono (fun r own' h'' hr => ⟨hr.1, hl.trans F.lawful hr.2⟩) (ih hl.2.1)
    cases h.peers.lookup pid with
    | none => exact hrest _ hleft
    | some peer =>
      obtain ⟨hmay', htake', hclosed⟩ := F.wp_step own (.note (h.removed pid) (.closed peer.conn)) F.session
        hleft.2.1
      rw [ifSome, closeWriter, emit]
      refine wp_modify_bind hmay' htake' ?_
      rw [wp_bind, wp_suspend]
      refine ⟨hclosed.2.1, fun h' hr hk hi' a => hrest h' ?_⟩
      exact (hleft.trans F.lawful hclosed).trans F.lawful ⟨rfl, hi', hr, hk⟩

/-- the envelope of a broadcast -/
def envelopeOf (h : Host) (type : MessageType) (payload : Payload) (seq : ℕ) (messageId : String) : Envelope :=
  Envelope.make type (h.resolve payload) h.playerId (some (seq : ℤ)) messageId

/-- what a broadcast needs of a property `J` of the peers still to come and the state, to end in `J []` or, when its
loop is cut, in `E` -/
structure Carries (D : Discipline Host M) (own : Set M) (type : MessageType) (payload : Payload) (seq : ℕ)
    (messageId : String) (J : List String → Host → Prop) (E : Host → Prop) : Prop where
  stays : ∀ rest h h', J rest h → D.rely h h' → (∀ m ∈ own, D.keeps m h h') → D.inv h' → J rest h'
  skip : ∀ pid rest h, h.peers.lookup pid = none → D.inv h → J (pid :: rest) h → J rest h
  write : ∀ pid peer rest h, h.peers.lookup pid = some peer → D.inv h → J (pid :: rest) h →
    let h' := h.note (.wrote pid peer.conn (envelopeOf h type payload seq messageId))
    D.May own h h' ∧ D.take own h h' = own ∧ D.inv h' ∧ J rest h'
  cut : ∀ rest h, D.inv h → J rest h →
    D.May own h (h.note (.cut type seq)) ∧ D.take own h (h.note (.cut type seq)) = own ∧
      D.inv (h.note (.cut type seq)) ∧ E (h.note (.cut type seq))

variable {own : Set M} {type : MessageType} {payload : Payload} {seq : ℕ} {messageId : String}
  {J : List String → Host → Prop} {E : Host → Prop}

theorem Carries.wp_checkSize (C : Carries D own type payload seq messageId J E) (hD : D.Lawful) {size : ℕ}
    {rest : List String} {h : Host} (hi : D.inv h) (hj : J rest h) :
    wp D own (checkSize type seq size) (fun r own' h' => own' = own ∧ D.inv h' ∧
      match r with
      | .ok _ => h' = h
      | .error _ => E h') h := by
  rw [checkSize]
  refine wp_read hD ?_
  split_ifs
  · exact ⟨rfl, hi, rfl⟩
  · obtain ⟨hmay, htake, hi', he⟩ := C.cut rest h hi hj
    exact wp_modify_bind hmay htake ⟨rfl, hi', he⟩

/-- the loop of a broadcast -/
theorem Carries.wp_writeEach (C : Carries D own type payload seq messageId J E) (hD : D.Lawful) {size : ℕ}
    {pids : List String} {h : Host} (hi : D.inv h) (hj : J pids h) :
    wp D own (writeEach type payload seq messageId size pids) (fun r own' h' => own' = own ∧ D.inv h' ∧
      match r with
      | .ok _ => J [] h'
      | .error _ => E h') h := by
  induction pids generalizing h with
  | nil =>
    rw [writeEach, wp_bind]
    refine wp_mono ?_ (C.wp_checkSize hD hi hj)
    rintro (e | _) own' h' ⟨rfl, hi', he⟩
    · exact ⟨rfl, hi', he⟩
    · cases he
      exact ⟨rfl, hi, hj⟩
  | cons pid rest ih =>
    rw [writeEach, wp_bind]
    refine wp_mono ?_ (C.wp_checkSize hD hi hj)
    rintro (e | _) own' h' ⟨rfl, hi', he⟩
    · exact ⟨rfl, hi', he⟩
    cases he
    refine wp_read hD ?_
    cases hpeer : h.peers.lookup pid with
    | none => exact ih hi (C.skip pid rest h hpeer hi hj)
    | some peer =>
      obtain ⟨hmay, htake, hi₁, hj₁⟩ := C.write pid peer rest h hpeer hi hj
      dsimp only
      refine wp_modify_bind hmay htake ?_
      rw [wp_bind, wp_suspend]
      refine ⟨hi₁, fun h₂ hr hk hi₂ a => ?_⟩
      rw [andThen_ok, wp_bind]
      refine wp_mono ?_ (ih hi₂ (C.stays rest _ h₂ hj₁ hr hk hi₂))
      rintro (e | dead) own'' h₃ h₃'
      · exact h₃'
      · exact h₃'

/-- the whole broadcast; `J` of all peers has to hold once it has its number and is noted -/
theorem Follows.wp_broadcastPeers (F : Follows D T) (own : Set M) {h : Host} (hi : D.inv h)
    (hcarries : ∀ messageId, Carries D own type payload.orEmpty (h.seq + 1) messageId J E)
    (hstart : ∀ h', Leaves D own h own h' → h'.session = h.session → h'.peers = h.peers → h'.log = h.log →
      let h'' := h'.note (.sending type (h.resolve payload.orEmpty) (h.seq + 1) h.session.travel.current)
      D.May own h' h'' ∧ D.take own h' h'' = own ∧ D.inv h'' ∧ J h.peers.keys h'') :
    Coro.wp D own (broadcastPeers type payload) (fun r own' h' => own' = own ∧ D.inv h' ∧
      match r with
      | .ok _ => J [] h'
      | .error _ => E h') h := by
  obtain ⟨hmay₁, htake₁, hl₁⟩ := F.wp_step own (.number h) F.session hi
  have huuid : Does .quiet { h with seq := h.seq + 1 } { h with seq := h.seq + 1, uuids := h.uuids + 1 } :=
    .quiet ⟨rfl, .refl _, rfl, fun _ => rfl, rfl, rfl, rfl, rfl, le_rfl⟩ fun _ => rfl
  obtain ⟨hmay₂, htake₂, hl₂⟩ := F.wp_step own huuid F.session hl₁.2.1
  obtain ⟨hmay₃, htake₃, hi₃, hj⟩ := hstart { h with seq := h.seq + 1, uuids := h.uuids + 1 } (hl₁.trans F.lawful hl₂)
    rfl rfl rfl
  refine wp_call_bind hmay₁ htake₁ (wp_call_bind hmay₂ htake₂ (wp_read F.lawful (wp_modify_bind hmay₃ htake₃ ?_)))
  rw [wp_bind]
  refine wp_mono ?_ ((hcarries _).wp_writeEach F.lawful hi₃ hj)
  rintro (e | dead) own' h' ⟨rfl, hi', hend⟩
  · exact ⟨rfl, hi', hend⟩
  · refine wp_mono ?_ (F.wp_dropAll dead hi')
    rintro r own'' h'' ⟨rfl, rfl, hi'', hr, hk⟩
    exact ⟨rfl, hi'', (hcarries "").stays [] h' h'' hend hr hk hi''⟩

/-- a broadcast that has nothing to do with what is owned -/
theorem Follows.wp_plainBroadcast (F : Follows D T) {h : Host} (hi : D.inv h) (ht : type.topic ∈ T) :
    Coro.wp D own (broadcastPeers type payload) (fun r own' h' => Leaves D own h own' h' ∧
      ∀ e, r = .error e → .cut type (h.seq + 1) ∈ h'.log) h := by
  have hnote : ∀ {h' : Host} (o : Out), o.topic ∈ T → Leaves D own h own h' →
      D.May own h' (h'.note o) ∧ D.take own h' (h'.note o) = own ∧ D.inv (h'.note o) ∧ Leaves D own h own (h'.note o) :=
    fun o ho hl => by
      obtain ⟨hmay, htake, hl'⟩ := F.wp_step own (.note _ o) ho hl.2.1
      exact ⟨hmay, htake, hl'.2.1, hl.trans F.lawful hl'⟩
  refine wp_mono ?_ (F.wp_broadcastPeers own (J := fun _ h' => Leaves D own h own h')
    (E := fun h' => Leaves D own h own h' ∧ .cut type (h.seq + 1) ∈ h'.log) hi (fun messageId => ?_) ?_)
  · rintro (e | _) own' h' ⟨rfl, hi', hend⟩
    · exact ⟨hend.1, fun _ _ => hend.2⟩
    · exact ⟨hend, fun e he => by cases he⟩
  · refine ⟨fun _ h₁ h₂ hl hr hk hi₂ => hl.trans F.lawful ⟨rfl, hi₂, hr, hk⟩, fun _ _ _ _ _ hl => hl,
      fun pid peer rest h₁ _ _ hl => hnote _ ht hl, fun rest h₁ _ hl => ?_⟩
    obtain ⟨hmay, htake, hi', hl'⟩ := hnote (.cut type (h.seq + 1)) ht hl
    exact ⟨hmay, htake, hi', hl', List.mem_cons_self⟩
  · intro h' hl _ _ _
    exact hnote _ ht hl

/-- a message to the host's game never raises -/
theorem Follows.wp_bridgeSend (F : Follows D T) {h : Host} (hi : D.inv h) (ht : type.gameTopic ∈ T) :
    Coro.wp D own (bridgeSend type payload) (fun r own' h' => (∃ a, r = .ok a) ∧ Leaves D own h own' h') h := by
  rw [bridgeSend, wp_bind, wp_askEnv]
  intro a
  obtain ⟨hmay, htake, hl⟩ := F.wp_step own (.note h (.bridge a.ok type (h.resolve payload))) ht hi
  rw [andThen_ok]
  exact wp_call_of hmay htake ⟨⟨a.ok, rfl⟩, hl⟩

end KerMP.Host
