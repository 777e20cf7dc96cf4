/-
A travel's phase and its announcements agree (`HostRuntime._travel_ready` and `_travel_zone_ready` of
`kermp/runtime.py`, over `kermp/travel.py`).

The handler that has met a barrier has to tell the host's game and every participant who remains, while players go,
other handlers end and the travel is aborted or replaced. Under the discipline of `KerMP.Host.Heralds` the barrier is
its own until it ends.

- `phase_announced`: in every run in which no departure completes a barrier and every announcement is carried through,
  whenever no handler is at work the travel is not left committed, and the commit and the resume have been told to the
  host's game and to all who remain exactly once if the phase is behind them, and to nobody if it is not.
- `departure_unannounced`: the last player who was waited for leaves, and the others are never told of the commit.
-/
import KerMP.Host.Heralds
import KerMP.Host.Commit
import KerMP.Host.Membership

namespace KerMP

open Py

namespace Host

open Coop
open Coro hiding pure get modify
open Travel (TravelTxn TravelCoordinator TravelPhase Continues)

/-! ## Announcements -/

theorem Phased.note {h : Host} (hi : Phased h) {o : Out} (ho : o.aloof = true) :
    Aloof h (h.note o) := by
  have hsuffix : h.log <:+ (h.note o).log := List.suffix_cons o h.log
  refine hi.step [o] rfl (by simpa using ho) rfl (o := .abort "") (.same _) (fun t t' ht ht' _ => ?_) hi.players
    fun t ht p hp hrem => hi.present t ht p hp (hrem.of_suffix hsuffix)
  have ht' : h.session.travel.current = some t' := ht'
  rw [ht] at ht'
  cases ht'
  exact advances_refl _ _

/-- the handler announces the barrier `b` of this epoch with this payload -/
structure Announcer (b : Barrier) (epoch : ℤ) (payload : Json) (own : Set (Barrier × ℤ)) : Prop where
  own : own = {(b, epoch)}
  epoch : intField payload "epoch" (-1) = .ok epoch
  value : payload.or (.obj []) = payload

/-- an announcement is told to the player it is written to, and counts for this barrier and epoch only -/
theorem toldPlayer_wrote {b : Barrier} {epoch : ℤ} {payload : Json} (hepoch : intField payload "epoch" (-1) = .ok epoch)
    {env : Envelope} (ht : env.type = b.type) (hp : env.payload = payload) (b' : Barrier) (epoch' : ℤ)
    (p player : String) (conn : ℕ) (log : List Out) : toldPlayer b' epoch' p (.wrote player conn env :: log) =
      if player = p ∧ b' = b ∧ epoch' = epoch then payload :: toldPlayer b' epoch' p log
      else toldPlayer b' epoch' p log := by
  have hannounce : announcement b' epoch' env.type env.payload =
      if b' = b ∧ epoch' = epoch then some payload else none := by
    rw [announcement, ht, hp, hepoch]
    have htype : b.type = b'.type ↔ b' = b := by cases b <;> cases b' <;> simp [Barrier.type]
    simp only [htype, Except.ok.injEq, eq_comm (a := epoch)]
  rw [toldPlayer, List.filterMap_cons]
  dsimp only
  rw [hannounce]
  by_cases hplayer : player = p
  · by_cases hb : b' = b ∧ epoch' = epoch
    · rw [if_pos hplayer, if_pos hb, if_pos ⟨hplayer, hb⟩]
      rfl
    · rw [if_pos hplayer, if_neg hb, if_neg fun h => hb h.2]
      rfl
  · rw [if_neg hplayer, if_neg fun h => hplayer h.1]
    rfl

theorem toldGame_bridge {b : Barrier} {epoch : ℤ} {payload : Json} (hepoch : intField payload "epoch" (-1) = .ok epoch)
    (b' : Barrier) (epoch' : ℤ) (ok : Bool) (log : List Out) : toldGame b' epoch' (.bridge ok b.type payload :: log) =
      if ok = true ∧ b' = b ∧ epoch' = epoch then payload :: toldGame b' epoch' log else toldGame b' epoch' log := by
  have hannounce : announcement b' epoch' b.type payload = if b' = b ∧ epoch' = epoch then some payload else none := by
    rw [announcement, hepoch]
    have htype : b.type = b'.type ↔ b' = b := by cases b <;> cases b' <;> simp [Barrier.type]
    simp only [htype, Except.ok.injEq, eq_comm (a := epoch)]
  rw [toldGame, List.filterMap_cons]
  cases ok with
  | false => simp [toldGame]
  | true =>
    dsimp only
    rw [hannounce]
    by_cases hb : b' = b ∧ epoch' = epoch
    · rw [if_pos hb, if_pos ⟨rfl, hb⟩]
      rfl
    · rw [if_neg hb, if_neg fun h => hb h.2]
      rfl

/-- the announcements have come to all who remain but those in `rest`, or there was a disturbance -/
def Telling (b : Barrier) (epoch : ℤ) (payload : Json) (rest : List String) (h : Host) : Prop :=
  Disturbed h.log ∨ ∃ t, h.session.travel.current = some t ∧ epoch ≤ t.epoch ∧
    (t.epoch = epoch → b.payload t = payload ∧ Heralded b t rest h)

theorem Telling.stable {b : Barrier} {epoch : ℤ} {payload : Json} {rest : List String} {h h' : Host}
    (hi : Telling b epoch payload rest h) (hr : Onwards h h') (hk : Heralding.keeps (b, epoch) h h') :
    Telling b epoch payload rest h' := by
  rcases hi with hd | ⟨t, ht, hle, htold⟩
  · exact Or.inl (hd.mono hr.log.subset)
  obtain ⟨t', ht', hc⟩ := hr.travel t ht
  refine Or.inr ⟨t', ht', hle.trans hc.epoch, fun he => ?_⟩
  have hsame : t'.epoch = t.epoch := le_antisymm (he ▸ hle) hc.epoch
  obtain ⟨hpayload, htold⟩ := htold (hsame.symm.trans he)
  refine ⟨(payload_of_continues hc hsame b).trans hpayload, htold.stable hc hsame hr ?_⟩
  rw [hsame.symm.trans he]
  exact hk

section announcer
variable {b : Barrier} {epoch : ℤ} {payload : Json} {own : Set (Barrier × ℤ)}

/-- writing or handing over an announcement of a barrier that has been met -/
theorem Announcer.may (A : Announcer b epoch payload own) {h : Host} (hi : Phased h) (hmet : ¬ Free (b, epoch) h)
    {o : Out} (ho : ∀ b e seq, o ≠ .met b e seq)
    (hgame : ∀ b' e, (b', e) ≠ (b, epoch) → toldGame b' e (o :: h.log) = toldGame b' e h.log)
    (hplayer : ∀ b' e p, (b', e) ≠ (b, epoch) → toldPlayer b' e p (o :: h.log) = toldPlayer b' e p h.log) :
    Heralding.May own h (h.note o) ∧ Heralding.take own h (h.note o) = own ∧ Phased (h.note o) ∧
      Onwards h (h.note o) := by
  have hsuffix : h.log <:+ (h.note o).log := List.suffix_cons o h.log
  have hmem : ∀ b e seq, .met b e seq ∈ (h.note o).log ↔ .met b e seq ∈ h.log := fun b e seq =>
    List.mem_cons.trans (or_iff_right fun he => ho b e seq he.symm)
  have hfree : ∀ m, Free m (h.note o) ↔ Free m h := fun m => by simp only [Free, hmem]
  have hon : Onwards h (h.note o) := ⟨hsuffix, rfl, fun t ht => ⟨t, ht, .refl t⟩⟩
  have htake : Heralding.take own h (h.note o) = own := Discipline.take_eq fun m => (hfree m).2
  refine ⟨⟨hon, fun m hm => ?_⟩, htake, ?_, hon⟩
  · rw [htake, A.own, Set.mem_singleton_iff] at hm
    exact ⟨hgame m.1 m.2 hm, fun p => hplayer m.1 m.2 p hm⟩
  refine ⟨hi.coordinator, fun b e seq hm => hi.met b e seq ((hmem b e seq).1 hm), fun b' e hf => ?_,
    fun t ht hna b' hb => (hfree _).2 (hi.unmet t ht hna b' hb), ?_, hi.players,
    fun t ht p hp hrem => hi.present t ht p hp (hrem.of_suffix hsuffix)⟩
  · rw [hfree] at hf
    have hne : (b', e) ≠ (b, epoch) := fun he => hmet (he ▸ hf)
    obtain ⟨hg, hp⟩ := hi.untold b' e hf
    exact ⟨(hgame b' e hne).trans hg, fun p => (hplayer b' e p hne).trans (hp p)⟩
  · refine hi.passed.imp (fun hd => hd.mono hsuffix.subset) fun hpassed t ht b' hb => ?_
    rw [hfree]
    exact hpassed t ht b' hb

theorem Phased.aloof {h : Host} (hi : Phased h) : Aloof h h :=
  ⟨heralding_lawful.guar_refl h, fun m => heralding_lawful.keeps_refl m h, fun _ => id, hi⟩

theorem Aloof.may {h h' : Host} (ha : Aloof h h') (own : Set (Barrier × ℤ)) :
    Heralding.May own h h' ∧ Heralding.take own h h' = own :=
  ⟨⟨ha.1, fun m _ => ha.2.1 m⟩, Discipline.take_eq ha.2.2.1⟩

theorem cut_disturbs (b : Barrier) (seq : ℕ) (log : List Out) : (Out.cut b.type seq).disturbs log := by
  cases b with
  | commit => exact Or.inl rfl
  | resume => exact Or.inr (Or.inl rfl)

/-- the broadcast of an announcement -/
theorem Announcer.carries (A : Announcer b epoch payload own) (h₀ : Host) (seq : ℕ) (messageId : String) :
    Carries Heralding own b.type (.val payload) seq messageId
      (fun rest h => rest.Nodup ∧ ¬ Free (b, epoch) h ∧ Onwards h₀ h ∧ Telling b epoch payload rest h)
      (fun h => Onwards h₀ h ∧ Disturbed h.log) where
  stays rest h h' hj hr hk _ := by
    obtain ⟨hnodup, hmet, hon, htell⟩ := hj
    have hr : Onwards h h' := hr
    exact ⟨hnodup, fun hf => hmet (hf.of_suffix hr.log), hon.trans hr, htell.stable hr (hk _ (A.own ▸ rfl))⟩
  skip pid rest h hpeer hi hj := by
    obtain ⟨hnodup, hmet, hon, htell⟩ := hj
    refine ⟨hnodup.of_cons, hmet, hon, htell.imp_right ?_⟩
    rintro ⟨t, ht, hle, htold⟩
    refine ⟨t, ht, hle, fun he => ⟨(htold he).1, (htold he).2.game, fun p hp hrem hne => ?_⟩⟩
    have hneq : p ≠ pid := by
      rintro rfl
      have hmem := (hi.present t ht p hp hrem).resolve_left hne
      exact AList.lookup_eq_none.1 hpeer hmem
    rw [(htold he).2.players p hp hrem hne]
    simp only [List.mem_cons, hneq, false_or]
  write pid peer rest h hpeer hi hj := by
    obtain ⟨hnodup, hmet, hon, htell⟩ := hj
    have htype : (envelopeOf h b.type (.val payload) seq messageId).type = b.type := rfl
    have hpayload : (envelopeOf h b.type (.val payload) seq messageId).payload = payload := rfl
    have hplayer := fun b' e p => toldPlayer_wrote A.epoch htype hpayload b' e p pid peer.conn h.log
    obtain ⟨hmay, htake, hi', hon'⟩ := A.may hi hmet (o := .wrote pid peer.conn _) (fun _ _ _ h => by cases h)
      (fun b' e _ => rfl) (fun b' e p hne => (hplayer b' e p).trans (if_neg fun h => hne (Prod.ext h.2.1 h.2.2)))
    refine ⟨hmay, htake, hi', hnodup.of_cons, fun hf => hmet (hf.of_suffix hon'.log), hon.trans hon', ?_⟩
    rcases htell with hd | ⟨t, ht, hle, htold⟩
    · exact Or.inl (hd.mono hon'.log.subset)
    refine Or.inr ⟨t, ht, hle, fun he => ⟨(htold he).1, (htold he).2.game, fun p hp hrem hne => ?_⟩⟩
    have hold := (htold he).2.players p hp (hrem.of_suffix hon'.log) hne
    show toldPlayer b t.epoch p (.wrote pid peer.conn _ :: h.log) = _
    rw [hplayer, hold, (htold he).1]
    by_cases hpid : pid = p
    · subst hpid
      simp [he, (List.nodup_cons.1 hnodup).1]
    · simp [hpid, Ne.symm hpid]
  cut rest h hi hj := by
    have haloof := hi.note (o := .cut b.type seq) rfl
    obtain ⟨hmay, htake⟩ := haloof.may own
    exact ⟨hmay, htake, haloof.2.2.2, hj.2.2.1.trans haloof.1, ⟨_, List.mem_cons_self, cut_disturbs b seq _⟩⟩

/-- nothing has been announced yet -/
structure Pending (b : Barrier) (epoch : ℤ) (payload : Json) (h : Host) : Prop where
  game : toldGame b epoch h.log = []
  players : ∀ p, toldPlayer b epoch p h.log = []
  current : ∃ t, h.session.travel.current = some t ∧ epoch ≤ t.epoch ∧ (t.epoch = epoch → b.payload t = payload)

theorem Pending.stable {h h' : Host} (hp : Pending b epoch payload h) (hr : Onwards h h')
    (hk : Heralding.keeps (b, epoch) h h') : Pending b epoch payload h' := by
  obtain ⟨t, ht, hle, hpayload⟩ := hp.current
  obtain ⟨t', ht', hc⟩ := hr.travel t ht
  refine ⟨hk.1.trans hp.game, fun p => (hk.2 p).trans (hp.players p), t', ht', hle.trans hc.epoch, fun he => ?_⟩
  have hsame : t'.epoch = t.epoch := le_antisymm (he ▸ hle) hc.epoch
  exact (payload_of_continues hc hsame b).trans (hpayload (hsame.symm.trans he))

/-- a met barrier is announced to the host's game and to the peers -/
theorem Announcer.wp_announce (A : Announcer b epoch payload own) {h : Host} (hi : Phased h)
    (hmet : ¬ Free (b, epoch) h) (hp : Disturbed h.log ∨ Pending b epoch payload h) :
    wp Heralding own (do
        let _ ← bridgeSend b.type (.val payload)
        broadcastPeers b.type (.val payload) : HostM Unit)
      (fun r own' h' => own' = own ∧ Phased h' ∧ Onwards h h' ∧ Telling b epoch payload [] h' ∧
        ∀ e, r = .error e → Disturbed h'.log) h := by
  rw [wp_bind, bridgeSend, wp_bind, wp_askEnv]
  intro a
  have hgame := fun b' e => toldGame_bridge (b := b) A.epoch b' e a.ok h.log
  obtain ⟨hmay, htake, hi₁, hon₁⟩ := A.may hi hmet (o := .bridge a.ok b.type payload) (fun _ _ _ h => by cases h)
    (fun b' e hne => (hgame b' e).trans (if_neg fun h => hne (Prod.ext h.2.1 h.2.2))) fun b' e p _ => rfl
  rw [andThen_ok]
  refine wp_call_of hmay htake ?_
  rw [andThen_ok]
  have hmet₁ : ¬ Free (b, epoch) (h.note (.bridge a.ok b.type payload)) := fun hf => hmet (hf.of_suffix hon₁.log)
  have htell : Telling b epoch payload h.peers.keys (h.note (.bridge a.ok b.type payload)) := by
    rcases hp with hd | hp
    · exact Or.inl (hd.mono hon₁.log.subset)
    by_cases hok : a.ok = true
    swap
    · refine Or.inl ⟨_, List.mem_cons_self, by simpa using hok, ?_⟩
      cases b with
      | commit => exact Or.inl rfl
      | resume => exact Or.inr rfl
    obtain ⟨t, ht, hle, hpayload⟩ := hp.current
    refine Or.inr ⟨t, ht, hle, fun he => ⟨hpayload he, ?_, fun p hpart hrem hne => ?_⟩⟩
    · show toldGame b t.epoch (.bridge a.ok b.type payload :: h.log) = _
      rw [hgame, if_pos ⟨hok, rfl, he⟩, he, hp.game, hpayload he]
    · have hmem : p ∈ h.peers := (hi₁.present t ht p hpart hrem).resolve_left hne
      rw [if_pos (AList.mem_keys.1 hmem), he]
      exact hp.players p
  have hvalue : (Payload.val payload).orEmpty = .val payload := congrArg Payload.val A.value
  refine wp_mono ?_ (follows_heralding.wp_broadcastPeers own hi₁
    (J := fun rest h' => rest.Nodup ∧ ¬ Free (b, epoch) h' ∧ Onwards h h' ∧ Telling b epoch payload rest h')
    (E := fun h' => Onwards h h' ∧ Disturbed h'.log) (fun messageId => ?_) ?_)
  · rintro (e | _) own' h' ⟨rfl, hi', hend⟩
    · exact ⟨rfl, hi', hend.1, Or.inl hend.2, fun _ _ => hend.2⟩
    · exact ⟨rfl, hi', hend.2.2.1, hend.2.2.2, fun e he => by cases he⟩
  · rw [hvalue]
    exact A.carries h _ messageId
  · rintro h' ⟨-, hi', hr, hk⟩ - hpeers -
    have hr : Onwards (h.note (.bridge a.ok b.type payload)) h' := hr
    have haloof := hi'.note (o := .sending b.type
      ((h.note (.bridge a.ok b.type payload)).resolve (Payload.val payload).orEmpty) (h.seq + 1)
      h.session.travel.current) rfl
    obtain ⟨hmay', htake'⟩ := haloof.may own
    have hon' : Onwards (h.note (.bridge a.ok b.type payload)) _ := hr.trans haloof.1
    refine ⟨hmay', htake', haloof.2.2.2, h.peers.keys_nodup, fun hf => hmet₁ (hf.of_suffix hon'.log),
      hon₁.trans hon', ?_⟩
    exact (htell.stable hr (hk _ (A.own ▸ rfl))).stable haloof.1 (haloof.2.1 _)

end announcer

/-! ## Met barriers -/

/-- the last acknowledgement of a barrier has just come -/
structure JustMet (b : Barrier) (epoch : ℤ) (txnId : String) (h : Host) : Prop where
  phased : Phased h
  met : .met b epoch (h.seq + 1) ∈ h.log
  game : toldGame b epoch h.log = []
  players : ∀ p, toldPlayer b epoch p h.log = []
  current : ∃ t, h.session.travel.current = some t ∧ t.epoch = epoch ∧ t.txnId = txnId ∧ b.passed t.phase = true

theorem JustMet.not_free {b : Barrier} {epoch : ℤ} {txnId : String} {h : Host} (m : JustMet b epoch txnId h) :
    ¬ Free (b, epoch) h := fun hf => hf _ m.met

/-- the acknowledgement that meets a barrier -/
theorem Phased.meet {b : Barrier} {h : Host} (hi : Phased h) {t t' : TravelTxn} {c : TravelCoordinator} {o : Travel.Op}
    (hc : Travel.Change h.session.travel o c) (ht : h.session.travel.current = some t) (ht' : c.current = some t')
    (he : t'.epoch = t.epoch) (hna : t.phase ≠ .aborted) (hopen : b.passed t.phase = false)
    (hpassed : b.passed t'.phase = true) (hother : ∀ b', b' ≠ b → b'.passed t'.phase = b'.passed t.phase) :
    let h' := (h.setTravel c).note (.met b t.epoch (h.seq + 1))
    Heralding.May ∅ h h' ∧ Heralding.take ∅ h h' = {(b, t.epoch)} ∧ JustMet b t.epoch t'.txnId h' := by
  intro h'
  have hsuffix : h.log <:+ h'.log := List.suffix_cons _ _
  have hfree : ∀ m, Free m h' ↔ m ≠ (b, t.epoch) ∧ Free m h := by
    rintro ⟨b', e⟩
    constructor
    · intro hf
      refine ⟨fun he => ?_, hf.of_suffix hsuffix⟩
      cases he
      exact hf _ List.mem_cons_self
    · rintro ⟨hne, hf⟩ seq hm
      rcases List.mem_cons.1 hm with hm | hm
      · cases hm
        exact hne rfl
      · exact hf seq hm
  have hwas : Free (b, t.epoch) h := hi.unmet t ht hna b hopen
  obtain ⟨hgame, hplayers⟩ := hi.untold b t.epoch hwas
  have hepoch := hi.coordinator.epoch t ht
  have hepoch' : c.epoch = h.session.travel.epoch := by
    rw [← (hc.inv hi.coordinator).epoch t' ht', he, hepoch]
  obtain ⟨t₁, ht₁, hcontinues⟩ := hc.continues hi.coordinator.epoch ht
  obtain rfl : t₁ = t' := Option.some.inj (ht₁.symm.trans ht')
  refine ⟨⟨⟨hsuffix, rfl, fun t₂ ht₂ => hc.continues hi.coordinator.epoch ht₂⟩, fun m _ => ⟨rfl, fun _ => rfl⟩⟩, ?_, ?_,
    List.mem_cons_self, hgame, hplayers, t₁, ht', he, rfl, hpassed⟩
  · ext m
    show m ∈ (∅ : Set _) ∨ Free m h ∧ ¬ Free m h' ↔ m = (b, t.epoch)
    rw [hfree]
    constructor
    · rintro (hm | ⟨hf, hn⟩)
      · exact absurd hm (Set.notMem_empty m)
      · by_contra hne
        exact hn ⟨hne, hf⟩
    · rintro rfl
      exact Or.inr ⟨hwas, fun h => h.1 rfl⟩
  refine ⟨hc.inv hi.coordinator, fun b' e seq hm => ?_, fun b' e hf => hi.untold b' e ((hfree _).1 hf).2, ?_, ?_,
    hi.players, ?_⟩
  · show e ≤ c.epoch
    rw [hepoch']
    rcases List.mem_cons.1 hm with hm | hm
    · cases hm
      exact hepoch.le
    · exact hi.met b' e seq hm
  · intro t₂ ht₂ hna₂ b' hb'
    have ht₂ : c.current = some t₂ := ht₂
    obtain rfl : t₂ = t₁ := Option.some.inj (ht₂.symm.trans ht')
    have hne : b' ≠ b := fun h => by rw [h, hpassed] at hb'; cases hb'
    rw [hfree, he]
    refine ⟨fun h => hne (Prod.ext_iff.1 h).1, hi.unmet t ht hna b' ?_⟩
    rw [← hother b' hne, hb']
  · refine hi.passed.imp (fun hd => hd.mono hsuffix.subset) fun hp t₂ ht₂ b' hb' hf => ?_
    have ht₂ : c.current = some t₂ := ht₂
    obtain rfl : t₂ = t₁ := Option.some.inj (ht₂.symm.trans ht')
    rw [hfree, he] at hf
    have hne : b' ≠ b := fun h => hf.1 (by rw [h])
    exact hp t ht b' (by rw [← hother b' hne, hb']) hf.2
  · intro t₂ ht₂ p hp hrem
    have ht₂ : c.current = some t₂ := ht₂
    obtain rfl : t₂ = t₁ := Option.some.inj (ht₂.symm.trans ht')
    rw [he] at hrem
    exact hi.present t ht p (hcontinues.participants he hp) (hrem.of_suffix hsuffix)

/-- an acknowledgement that meets no barrier -/
theorem Phased.acknowledge {h : Host} (hi : Phased h) {c : TravelCoordinator} {o : Travel.Op}
    (hc : Travel.Change h.session.travel o c)
    (hphase : ∀ t t', h.session.travel.current = some t → c.current = some t' → t'.epoch = t.epoch ∧
      Advances h.log t.phase t'.phase) (hnew : h.session.travel.current = none → c.current = none) :
    Aloof h (h.setTravel c) := by
  refine hi.step [] rfl (by simp) rfl hc (fun t t' ht ht' _ => (hphase t t' ht ht').2) hi.players
    fun t' ht' p hp hrem => ?_
  cases ht : h.session.travel.current with
  | none =>
    have ht' : c.current = some t' := ht'
    rw [hnew ht] at ht'
    cases ht'
  | some t =>
    obtain ⟨t₁, ht₁, hcontinues⟩ := hc.continues hi.coordinator.epoch ht
    obtain rfl : t₁ = t' := Option.some.inj (ht₁.symm.trans ht')
    have he := (hphase t t₁ ht ht').1
    rw [he] at hrem
    exact hi.present t ht p (hcontinues.participants he hp) hrem

/-! ## Handlers -/

/-- how a call on the coordinator ends that may meet a barrier -/
def Acknowledges (b : Barrier) (epoch : ℤ) (txnId : String) (r : Except Exc Bool) (own : Set (Barrier × ℤ)) (h : Host) :
    Prop :=
  Phased h ∧ (r = .ok true ∧ own = {(b, epoch)} ∧ JustMet b epoch txnId h ∨ r ≠ .ok true ∧ own = ∅)

/-- such a call meets the barrier, or none -/
theorem wp_acknowledges {f : Host → Except Exc Bool × Host} {b : Barrier} {epoch : ℤ} {txnId : String} {h : Host}
    (hf : (∃ h', f h = (.ok true, h') ∧ Heralding.May ∅ h h' ∧ Heralding.take ∅ h h' = {(b, epoch)} ∧
      JustMet b epoch txnId h') ∨ ∃ r h', f h = (r, h') ∧ r ≠ .ok true ∧ Aloof h h') :
    wp Heralding ∅ (tryCall f : HostM Bool) (Acknowledges b epoch txnId) h := by
  rcases hf with ⟨h', e, hmay, htake, hmet⟩ | ⟨r, h', e, hr, haloof⟩
  · rw [wp_tryCall, e]
    refine ⟨hmay, ?_⟩
    rw [htake]
    exact ⟨hmet.phased, Or.inl ⟨rfl, rfl, hmet⟩⟩
  · obtain ⟨hmay, htake⟩ := haloof.may ∅
    exact wp_tryCall_of r h' e hmay htake ⟨haloof.2.2.2, Or.inr ⟨hr, rfl⟩⟩

theorem wp_markReady {player txnId : String} {epoch : ℤ} {h : Host} (hi : Phased h) :
    wp Heralding ∅ (markReady player txnId epoch) (Acknowledges .commit epoch txnId) h := by
  refine wp_acknowledges ?_
  rcases ackReady_cases h player txnId epoch with ⟨c, hm, e⟩ | ⟨c, hm, e⟩ | ⟨exc, hm, e⟩
  · obtain ⟨hb, -⟩ | ⟨t, ht, rfl, rfl, hw, ⟨-, hall, rfl⟩ | ⟨hb, -⟩⟩ := Travel.markReady_ok hm
    · cases hb
    · have hmet := hi.meet (b := .commit) (Travel.Change.commit t player ht hw hall) ht rfl rfl (by simp [hw])
        (by rw [hw]; rfl) rfl fun b' hne => by
          rw [hw]
          cases b' with
          | commit => exact absurd rfl hne
          | resume => rfl
      exact Or.inl ⟨_, e, hmet⟩
    · cases hb
  · refine Or.inr ⟨_, _, e, by simp, ?_⟩
    obtain ⟨-, rfl⟩ | ⟨t, ht, rfl, rfl, hw, ⟨hb, -⟩ | ⟨-, hall, rfl⟩⟩ := Travel.markReady_ok hm
    · exact hi.aloof
    · cases hb
    · refine hi.acknowledge (.ready t player ht hw hall) (fun t₁ t' ht₁ ht' => ?_) fun hn => by rw [ht] at hn; cases hn
      obtain rfl : t = t₁ := Option.some.inj (ht.symm.trans ht₁)
      cases ht'
      exact ⟨rfl, advances_refl _ _⟩
  · exact Or.inr ⟨_, _, e, by simp, hi.aloof⟩

/-- what a met barrier leaves to its handler: to announce it for the travel as it is now -/
theorem JustMet.pending {b : Barrier} {epoch : ℤ} {txnId : String} {h : Host} (m : JustMet b epoch txnId h)
    {t : TravelTxn} (ht : h.session.travel.current = some t) : Pending b epoch (b.payload t) h := by
  obtain ⟨t', ht', he, -⟩ := m.current
  obtain rfl : t = t' := Option.some.inj (ht.symm.trans ht')
  exact ⟨m.game, m.players, t, ht, he.ge, fun _ => rfl⟩

theorem announcer (b : Barrier) (t : TravelTxn) : Announcer b t.epoch (b.payload t) {(b, t.epoch)} := by
  cases b with
  | commit => exact ⟨rfl, rfl, rfl⟩
  | resume => exact ⟨rfl, rfl, rfl⟩

/-- the announcements of the commit, with the marks of the view batch before them -/
theorem wp_announcements {h : Host} {t : TravelTxn} {txnId : String} (hm : JustMet .commit t.epoch txnId h)
    (ht : h.session.travel.current = some t) :
    wp Heralding {(.commit, t.epoch)} (announcements t) (fun r own' h' => own' = {(.commit, t.epoch)} ∧ Phased h' ∧
      Onwards h h' ∧ Telling .commit t.epoch (commitPayload t) [] h' ∧ ∀ e, r = .error e → Disturbed h'.log) h := by
  have F := follows_heralding
  have hpending := hm.pending ht
  rw [announcements, wp_bind]
  refine wp_mono ?_ (F.wp_plainBroadcast hm.phased (by decide))
  rintro (e | _) own' h₁ ⟨⟨rfl, hi₁, hr₁, hk₁⟩, hcut⟩
  · have hr₁ : Onwards h h₁ := hr₁
    have hd : Disturbed h₁.log := by
      refine ⟨_, hcut e rfl, Or.inr (Or.inr ⟨rfl, _, hr₁.log.subset hm.met, ?_⟩)⟩
      simp [Out.commits]
    exact ⟨rfl, hi₁, hr₁, Or.inl hd, fun _ _ => hd⟩
  rw [andThen_ok, wp_bind]
  refine wp_mono ?_ (F.wp_bridgeSend hi₁ (by decide))
  rintro r own' h₂ ⟨⟨a, rfl⟩, rfl, hi₂, hr₂, hk₂⟩
  rw [andThen_ok]
  have hr : Onwards h h₂ := Onwards.trans hr₁ hr₂
  refine wp_mono ?_ ((announcer .commit t).wp_announce hi₂ (fun hf => hm.not_free (hf.of_suffix hr.log)) (Or.inr ?_))
  · rintro r own' h₃ ⟨rfl, hi₃, hr₃, htell, herror⟩
    exact ⟨rfl, hi₃, hr.trans hr₃, htell, herror⟩
  · exact (hpending.stable hr₁ (hk₁ _ rfl)).stable hr₂ (hk₂ _ rfl)

/-- behind a met commit there is no way back -/
theorem Phased.phase_of_met {h : Host} (hi : Phased h) {t : TravelTxn} (ht : h.session.travel.current = some t)
    (hmet : ¬ Free (.commit, t.epoch) h) (hne : t.phase ≠ .committed) : t.phase.pastCommit = true := by
  by_contra hp
  refine hmet (hi.unmet t ht (fun ha => hp (by rw [ha]; rfl)) .commit ?_)
  cases hphase : t.phase with
  | committed => exact absurd hphase hne
  | idle | waitingReady => rfl
  | waitingZoneReady | complete | aborted => rw [hphase] at hp; exact absurd rfl hp

theorem discharged_of_telling {b : Barrier} {epoch : ℤ} {payload : Json} {h : Host}
    (htell : Telling b epoch payload [] h)
    (hpast : ∀ t, h.session.travel.current = some t → t.epoch = epoch → t.phase.pastCommit = true) :
    Discharged (b, epoch) h := by
  rcases htell with hd | ⟨t, ht, hle, htold⟩
  · exact Or.inl hd
  rcases hle.lt_or_eq with hlt | he
  · exact Or.inr ⟨t, ht, Or.inl hlt⟩
  · exact Or.inr ⟨t, ht, Or.inr ⟨he, hpast t ht he.symm, (htold he.symm).2⟩⟩

theorem heralds_announceCommit {h : Host} {epoch : ℤ} {txnId : String} (hm : JustMet .commit epoch txnId h) :
    wp Heralding {(.commit, epoch)} (announceCommit txnId) (Ends Heralding Discharged) h := by
  obtain ⟨t, ht, rfl, rfl, -⟩ := hm.current
  rw [announceCommit_eq]
  refine wp_read heralding_lawful ?_
  rw [ht]
  dsimp only
  rw [wp_bind]
  refine wp_mono ?_ (wp_announcements hm ht)
  rintro (e | _) own' h' ⟨rfl, hi', hr, htell, herror⟩
  · refine ⟨hi', fun m hmem => ?_⟩
    rw [Set.mem_singleton_iff.1 hmem]
    exact Or.inl (herror e rfl)
  have hmet : ¬ Free (.commit, t.epoch) h' := fun hf => hm.not_free (hf.of_suffix hr.log)
  rw [andThen_ok, beginZoneWait, onTravel]
  cases hb : h'.session.travel.beginZoneWait t.txnId with
  | error e =>
    -- the commit is behind the travel already
    obtain ⟨hmay, htake⟩ := hi'.aloof.may {(Barrier.commit, t.epoch)}
    refine wp_tryCall_of (.error e) h' (by rw [hb]; rfl) hmay htake ⟨hi', fun m hmem => ?_⟩
    rw [Set.mem_singleton_iff.1 hmem]
    refine discharged_of_telling htell fun t' ht' he => ?_
    obtain ⟨t'', ht'', hc⟩ := hr.travel t ht
    obtain rfl : t'' = t' := Option.some.inj (ht''.symm.trans ht')
    rw [← he] at hmet
    refine hi'.phase_of_met ht' hmet fun hcommitted => ?_
    obtain ⟨c, hok⟩ : ∃ c, h'.session.travel.beginZoneWait t.txnId = .ok c :=
      Travel.beginZoneWait_iff.2 ⟨t'', ht', (hc.same he).1, hcommitted⟩
    rw [hb] at hok
    cases hok
  | ok c =>
    obtain ⟨t', ht', -, hp, hc⟩ := Travel.beginZoneWait_ok hb
    have hchange : Travel.Change h'.session.travel (.beginZoneWait t'.txnId) c := by
      rw [hc]
      exact .zoneWait t' ht' hp
    have haloof := hi'.acknowledge hchange (fun t₁ t₂ ht₁ ht₂ => by
      obtain rfl : t' = t₁ := Option.some.inj (ht'.symm.trans ht₁)
      rw [hc] at ht₂
      cases ht₂
      exact ⟨rfl, advances_waiting _ (Or.inl hp)⟩) fun hn => by rw [ht'] at hn; cases hn
    obtain ⟨hmay, htake⟩ := haloof.may {(Barrier.commit, t.epoch)}
    refine wp_tryCall_of (.ok ()) (h'.setTravel c) (by rw [hb]; rfl) hmay htake ⟨haloof.2.2.2, fun m hmem => ?_⟩
    rw [Set.mem_singleton_iff.1 hmem]
    refine discharged_of_telling (htell.stable haloof.1 (haloof.2.1 _)) fun t₂ ht₂ _ => ?_
    have ht₂ : c.current = some t₂ := ht₂
    rw [hc] at ht₂
    cases ht₂
    rfl

/-- a handler that has met no barrier owes nothing -/
theorem ends_unmet (r : Except Exc Unit) {own : Set (Barrier × ℤ)} {h : Host} (hown : own = ∅) (hi : Phased h) :
    Ends Heralding Discharged r own h := by
  subst hown
  exact ⟨hi, fun m hm => absurd hm (Set.notMem_empty m)⟩

theorem heralds_travelReady (player : String) (payload : Json) :
    Settles Heralding Discharged (travelReady player payload) := by
  intro h hi
  rw [travelReady]
  refine wp_ofExcept_bind (fun e _ => ends_unmet _ rfl hi) fun txnId _ => ?_
  split_ifs
  · exact ends_unmet _ rfl hi
  rw [wp_bind, wp_catching]
  refine wp_ofExcept_bind (fun e _ => ?_) fun epoch _ => wp_mono ?_ (wp_markReady hi)
  · rw [andThen_error]
    split_ifs
    · exact ends_unmet (.ok ()) rfl hi
    · exact ends_unmet (.error e) rfl hi
  rintro (e | commit) own₁ h₁ ⟨hi₁, hmet⟩
  · obtain ⟨hr, -⟩ | ⟨-, hown⟩ := hmet
    · cases hr
    rw [andThen_error]
    split_ifs
    · exact ends_unmet (.ok ()) hown hi₁
    · exact ends_unmet (.error e) hown hi₁
  · rw [andThen_ok, andThen_ok]
    obtain ⟨hr, rfl, hm⟩ | ⟨hr, hown⟩ := hmet
    · cases hr
      exact heralds_announceCommit hm
    · have hfalse : commit = false := by cases commit <;> simp_all
      rw [hfalse]
      exact ends_unmet (.ok ()) hown hi₁

/-- the second barrier is met -/
theorem heralds_announceResume {h : Host} {epoch : ℤ} {txnId : String} (hm : JustMet .resume epoch txnId h) :
    wp Heralding {(.resume, epoch)} (announceResume txnId epoch) (Ends Heralding Discharged) h := by
  obtain ⟨t, ht, rfl, rfl, hpassed⟩ := hm.current
  have hcomplete : t.phase.pastCommit = true := by
    cases hp : t.phase with
    | complete => rfl
    | _ => rw [hp] at hpassed; cases hpassed
  refine wp_mono ?_ ((announcer .resume t).wp_announce hm.phased hm.not_free (Or.inr (hm.pending ht)))
  rintro r own' h' ⟨rfl, hi', hr, htell, -⟩
  refine ⟨hi', fun m hmem => ?_⟩
  rw [Set.mem_singleton_iff.1 hmem]
  refine discharged_of_telling htell fun t' ht' he => ?_
  obtain ⟨t'', ht'', hc⟩ := hr.travel t ht
  obtain rfl : t'' = t' := Option.some.inj (ht''.symm.trans ht')
  exact hc.pastCommit he hcomplete

theorem wp_markZoneReady {player txnId : String} {epoch : ℤ} {h : Host} (hi : Phased h) :
    wp Heralding ∅ (markZoneReady player txnId epoch) (Acknowledges .resume epoch txnId) h := by
  refine wp_acknowledges ?_
  rcases ackZone_cases h player txnId epoch with ⟨c, hm, e⟩ | ⟨c, hm, e⟩ | ⟨exc, hm, e⟩
  · obtain ⟨hb, -⟩ | ⟨t, ht, rfl, rfl, hw, ⟨-, hall, rfl⟩ | ⟨hb, -⟩⟩ := Travel.markZoneReady_ok hm
    · cases hb
    · have hmet := hi.meet (b := .resume) (Travel.Change.complete t player ht hw hall) ht rfl rfl
        (by rcases hw with hw | hw <;> simp [hw]) (by rcases hw with hw | hw <;> rw [hw] <;> rfl) rfl fun b' hne => by
          cases b' with
          | commit => rcases hw with hw | hw <;> rw [hw] <;> rfl
          | resume => exact absurd rfl hne
      exact Or.inl ⟨_, e, hmet⟩
    · cases hb
  · refine Or.inr ⟨_, _, e, by simp, ?_⟩
    obtain ⟨-, rfl⟩ | ⟨t, ht, rfl, rfl, hw, ⟨hb, -⟩ | ⟨-, hall, rfl⟩⟩ := Travel.markZoneReady_ok hm
    · exact hi.aloof
    · cases hb
    · refine hi.acknowledge (.zoneReady t player ht hw hall) (fun t₁ t' ht₁ ht' => ?_) fun hn => by
        rw [ht] at hn
        cases hn
      obtain rfl : t = t₁ := Option.some.inj (ht.symm.trans ht₁)
      cases ht'
      exact ⟨rfl, advances_waiting _ hw⟩
  · exact Or.inr ⟨_, _, e, by simp, hi.aloof⟩

theorem heralds_travelZoneReady (player : String) (payload : Json) :
    Settles Heralding Discharged (travelZoneReady player payload) := by
  intro h hi
  have hacked : ∀ txnId, wp Heralding ∅ (acknowledgeZone player txnId payload) (fun r own' h' => Phased h' ∧
      ((∃ epoch, r = .ok (some epoch) ∧ own' = {(.resume, epoch)} ∧ JustMet .resume epoch txnId h') ∨
        (∀ epoch, r ≠ .ok (some epoch)) ∧ own' = ∅)) h := by
    intro txnId
    refine wp_read heralding_lawful ?_
    cases hcur : h.session.travel.current with
    | none => exact ⟨hi, Or.inr ⟨fun _ he => (by cases he), rfl⟩⟩
    | some t =>
      refine wp_ofExcept_bind (fun e _ => ⟨hi, Or.inr ⟨fun _ he => (by cases he), rfl⟩⟩) fun epoch _ => ?_
      split_ifs with hne
      · exact ⟨hi, Or.inr ⟨fun _ he => (by cases he), rfl⟩⟩
      obtain rfl : epoch = t.epoch := not_not.1 hne
      have haloof := hi.note (o := .zoneReady player payload (some t)) rfl
      obtain ⟨hmay, htake⟩ := haloof.may ∅
      refine wp_modify_bind hmay htake ?_
      rw [wp_bind]
      refine wp_mono ?_ (wp_markZoneReady haloof.2.2.2)
      rintro (e | resume) own₁ h₁ ⟨hi₁, ⟨hr, hown, hm⟩ | ⟨hr, hown⟩⟩
      · cases hr
      · exact ⟨hi₁, Or.inr ⟨fun _ he => (by cases he), hown⟩⟩
      · cases hr
        exact ⟨hi₁, Or.inl ⟨_, rfl, hown, hm⟩⟩
      · have hfalse : resume = false := by cases resume <;> simp_all
        rw [hfalse]
        exact ⟨hi₁, Or.inr ⟨fun _ he => (by cases he), hown⟩⟩
  rw [travelZoneReady]
  refine wp_ofExcept_bind (fun e _ => ends_unmet _ rfl hi) fun txnId _ => ?_
  split_ifs
  · exact ends_unmet _ rfl hi
  rw [wp_bind, wp_catching]
  refine wp_mono ?_ (hacked txnId)
  rintro (e | _ | epoch) own₁ h₁ ⟨hi₁, ⟨epoch', hr, hown, hm⟩ | ⟨hr, hown⟩⟩
  · cases hr
  · rw [andThen_error]
    split_ifs
    · exact ends_unmet (.ok ()) hown hi₁
    · exact ends_unmet (.error e) hown hi₁
  · cases hr
  · exact ends_unmet (.ok ()) hown hi₁
  · cases hr
    rw [hown]
    exact heralds_announceResume hm
  · exact absurd rfl (hr epoch)

theorem pass_heralding : Pass Heralding Discharged unannounced where
  toFollows := follows_heralding
  stable := discharged_stable
  travel := Or.inl (by decide)
  ready := Or.inr heralds_travelReady
  zoneReady := Or.inr heralds_travelZoneReady
  build := Or.inl (by decide)
  request := Or.inl ⟨by decide, by decide⟩
  status := Or.inl (by decide)
  view := Or.inl (by decide)
  abort := Or.inl (by decide)

/-! ## Runs -/

theorem phased_init (playerId displayName sessionId : String) (manifest : CompatibilityManifest) (nativeRequired : Bool)
    (commands : NetworkedCommandRouter) :
    Phased (init playerId displayName sessionId manifest nativeRequired commands) := by
  have htravel := init_travel playerId displayName sessionId manifest nativeRequired commands
  have hplayers := (members_init playerId displayName sessionId manifest nativeRequired commands).players
  have hlog : (init playerId displayName sessionId manifest nativeRequired commands).log = [] := rfl
  generalize init playerId displayName sessionId manifest nativeRequired commands = h at htravel hplayers hlog
  have hnone : ∀ t, h.session.travel.current ≠ some t := fun t ht => by rw [htravel] at ht; cases ht
  refine ⟨by rw [htravel]; exact Travel.inv_init, fun b e seq hm => ?_, fun b e _ => ?_,
    fun t ht => absurd ht (hnone t), Or.inr fun t ht => absurd ht (hnone t), fun p => (hplayers p).1,
    fun t ht => absurd ht (hnone t)⟩
  · rw [hlog] at hm
    cases hm
  · rw [hlog]
    exact ⟨rfl, fun _ => rfl⟩

/-- with nothing disturbed and nobody at work, every met barrier has been announced -/
theorem Phased.phaseAnnounced {h : Host} (hi : Phased h) (hsettled : ∀ m, ¬ Free m h → Discharged m h)
    (hundisturbed : Undisturbed h.log) : PhaseAnnounced h := by
  have hnot : ¬ Disturbed h.log := fun ⟨o, ho, hd⟩ => hundisturbed o ho hd
  intro t ht hna
  have ht : h.session.travel.current = some t := ht
  have htold : ∀ b : Barrier, b.passed t.phase = true → t.phase.pastCommit = true ∧ Heralded b t [] h := by
    intro b hb
    obtain ⟨t', ht', hlt | ⟨-, hpast, htold⟩⟩ := (hsettled _ (hi.passed.resolve_left hnot t ht b hb)).resolve_left hnot
    · obtain rfl : t = t' := Option.some.inj (ht.symm.trans ht')
      exact absurd hlt (lt_irrefl _)
    · obtain rfl : t = t' := Option.some.inj (ht.symm.trans ht')
      exact ⟨hpast, htold⟩
  have hannounced : ∀ b, Announced h t b := by
    intro b
    rw [Announced]
    cases hb : b.passed t.phase with
    | true =>
      obtain ⟨-, hgame, hplayers⟩ := htold b hb
      exact ⟨hgame, hplayers⟩
    | false =>
      obtain ⟨hgame, hplayers⟩ := hi.untold b t.epoch (hi.unmet t ht hna b hb)
      exact ⟨hgame, fun p _ _ _ => hplayers p⟩
  refine ⟨fun hc => ?_, hannounced .commit, hannounced .resume⟩
  obtain ⟨hpast, -⟩ := htold .commit (by rw [hc]; rfl)
  rw [hc] at hpast
  cases hpast

/-- two clients; one of them and the host's game are ready for the travel when the other leaves -/
def bobLeaves : List HostAct :=
  let txn : Json := .obj [("txn_id", .str (uuid4 2)), ("epoch", .int 1)]
  [joins 1 "alice", goesOn, joins 2 "bob", goesOn, sends 1 "alice" .travelRequest (.obj [("zone_id", .str "5")]),
    goesOn, goesOn, sends 1 "alice" .travelReady txn, plays .travelReady txn, .arrive (.line 2 .eof) [], goesOn, goesOn,
    goesOn, goesOn]

end Host

end KerMP
