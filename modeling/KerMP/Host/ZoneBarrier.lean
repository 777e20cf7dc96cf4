/-
The second barrier of a travel: who has acknowledged what when `travel.resume` goes out.

The README asks every participant to load the same target zone. The host remembers the zone of the transaction, and
every game names the zone it has loaded in its acknowledgement, but `_travel_zone_ready` and `mark_zone_ready` look at
the transaction id and the epoch only.

Results:
- `resumed`: in every run `travel.resume` is broadcast only for a complete transaction whose remaining participants
  have each sent an acknowledgement for this transaction and epoch.
- `zone_barrier`: in every run in which the acknowledgements that are counted name the target zone, each of them has
  reported this zone.
- `wrong_zone_resumed`: a participant reports another zone, and the travel is resumed.
-/
import KerMP.Host.Pass

namespace KerMP.Host

open Py Coop
open Coro hiding pure get modify
open Travel (TravelTxn TravelCoordinator addAck)

/-! ## Acknowledgements -/

/-- the payload is an acknowledgement for this transaction and epoch -/
def Answers (payload : Json) (t : TravelTxn) : Prop :=
  strField payload "txn_id" = .ok t.txnId ∧ intField payload "epoch" (-1) = .ok t.epoch

/-- the acknowledgement names the target zone -/
def NamesZone (payload : Json) (t : TravelTxn) : Prop := strField payload "zone_id" = .ok t.zoneId

/-- can the transaction still count this player's zone acknowledgement? -/
def Counts (t : TravelTxn) (p : String) : Prop :=
  p ∈ t.participants ∧ (t.phase = .committed ∨ t.phase = .waitingZoneReady)

instance (payload : Json) (t : TravelTxn) : Decidable (Answers payload t) := instDecidableAnd

instance (payload : Json) (t : TravelTxn) : Decidable (NamesZone payload t) :=
  inferInstanceAs (Decidable (strField payload "zone_id" = .ok t.zoneId))

instance (t : TravelTxn) (p : String) : Decidable (Counts t p) := instDecidableAnd

/-- an acknowledgement of the player was counted for this transaction -/
def Counted (log : List Out) (t : TravelTxn) (p : String) : Prop :=
  ∃ payload t', .zoneReady p payload (some t') ∈ log ∧ Answers payload t' ∧ Counts t' p ∧
    t'.txnId = t.txnId ∧ t'.epoch = t.epoch ∧ t'.zoneId = t.zoneId

/-- the player has reported the target zone for this transaction -/
def InZone (log : List Out) (t : TravelTxn) (p : String) : Prop :=
  ∃ payload travel, .zoneReady p payload travel ∈ log ∧ Answers payload t ∧ NamesZone payload t

/-- what each broadcast of `travel.resume` finds in the older part of the log -/
def Resumed (Acked : List Out → TravelTxn → String → Prop) : List Out → Prop
  | [] => True
  | .sending .travelResume payload _ travel :: log =>
    (∃ t, travel = some t ∧ payload = resumePayload t.txnId t.epoch ∧ ∀ p ∈ t.participants, Acked log t p) ∧
      Resumed Acked log
  | _ :: log => Resumed Acked log

theorem Counted.mono {log log' : List Out} {t : TravelTxn} {p : String} (h : Counted log t p) (hl : log <:+ log') :
    Counted log' t p := by
  obtain ⟨payload, t', hmem, hrest⟩ := h
  exact ⟨payload, t', hl.subset hmem, hrest⟩

theorem Counted.same {log : List Out} {t t' : TravelTxn} {p : String} (h : Counted log t p) (hid : t'.txnId = t.txnId)
    (he : t'.epoch = t.epoch) (hz : t'.zoneId = t.zoneId) : Counted log t' p := by
  obtain ⟨payload, s, hmem, hanswers, hcounts, hid', he', hz'⟩ := h
  exact ⟨payload, s, hmem, hanswers, hcounts, hid'.trans hid.symm, he'.trans he.symm, hz'.trans hz.symm⟩

/-- not the start of a broadcast of `travel.resume` -/
def Out.notResume : Out → Prop
  | .sending .travelResume _ _ _ => False
  | _ => True

theorem resumed_cons {Acked : List Out → TravelTxn → String → Prop} {o : Out} {log : List Out} (ho : o.notResume)
    (h : Resumed Acked log) : Resumed Acked (o :: log) := by
  cases o with
  | sending type payload seq travel =>
    cases type with
    | travelResume => exact ho.elim
    | _ => exact h
  | _ => exact h

theorem notResume_of_topic {o : Out} (ho : o.topic ≠ .resume) : o.notResume := by
  cases o with
  | sending type payload seq travel =>
    cases type with
    | travelResume => exact absurd rfl ho
    | _ => trivial
  | _ => trivial

theorem resumed_append {Acked : List Out → TravelTxn → String → Prop} {os log : List Out}
    (hos : ∀ o ∈ os, o.topic ≠ .resume) (h : Resumed Acked log) : Resumed Acked (os ++ log) := by
  induction os with
  | nil => exact h
  | cons o os ih =>
    apply resumed_cons (notResume_of_topic (hos o List.mem_cons_self))
    exact ih fun x hx => hos x (List.mem_cons_of_mem o hx)

instance (o : Out) : Decidable o.notResume := by
  unfold Out.notResume
  split <;> infer_instance

theorem resumed_split {Acked : List Out → TravelTxn → String → Prop} {newer older : List Out} {payload : Json} {seq : ℕ}
    {travel : Option TravelTxn} (h : Resumed Acked (newer ++ .sending .travelResume payload seq travel :: older)) :
    ∃ t, travel = some t ∧ payload = resumePayload t.txnId t.epoch ∧ ∀ p ∈ t.participants, Acked older t p := by
  induction newer with
  | nil => exact h.1
  | cons o newer ih =>
    apply ih
    cases o with
    | sending type payload' seq' travel' =>
      cases type with
      | travelResume => exact h.2
      | _ => exact h
    | _ => exact h

/-! ## The invariant -/

structure Zoned (h : Host) : Prop where
  coordinator : Travel.Inv h.session.travel
  counted : ∀ t, h.session.travel.current = some t → ∀ p ∈ t.zoneReady, Counted h.log t p
  resumed : Resumed Counted h.log

/-- only an acknowledgement of the zone adds to those who have given it -/
theorem change_zoneReady {c c' : TravelCoordinator} {o : Travel.Op} (hc : Travel.Change c o c')
    (ho : ∀ p x e, o ≠ .markZoneReady p x e) {t' : TravelTxn} (ht' : c'.current = some t') {p : String}
    (hp : p ∈ t'.zoneReady) :
    ∃ t, c.current = some t ∧ t'.txnId = t.txnId ∧ t'.epoch = t.epoch ∧ t'.zoneId = t.zoneId ∧ p ∈ t.zoneReady := by
  cases hc with
  | same => exact ⟨t', ht', rfl, rfl, rfl, hp⟩
  | propose => cases ht'; cases hp
  | ready t q ht => cases ht'; exact ⟨t, ht, rfl, rfl, rfl, hp⟩
  | commit t q ht => cases ht'; exact ⟨t, ht, rfl, rfl, rfl, hp⟩
  | zoneWait t ht => cases ht'; exact ⟨t, ht, rfl, rfl, rfl, hp⟩
  | zoneReady => exact absurd rfl (ho _ _ _)
  | complete => exact absurd rfl (ho _ _ _)
  | abort t ht => cases ht'; exact ⟨t, ht, rfl, rfl, rfl, hp⟩
  | leave t q ht => cases ht'; exact ⟨t, ht, rfl, rfl, rfl, Finset.mem_of_mem_erase hp⟩

/-- the steps that count no acknowledgement and resume nothing -/
def unresumed : List Topic :=
  [.session, .member, .readiness, .travel, .commit, .lock, .build, .apply, .request, .status, .view, .clock]

theorem Does.zoned {l : Label} {h h' : Host} (d : Does l h h') (hl : l.topic ∈ unresumed) (hi : Zoned h) : Zoned h' := by
  obtain ⟨os, hlog, htopic⟩ := d.log
  have hne : l.topic ≠ .resume := ne_of_mem_of_not_mem hl (by decide)
  have hsuffix : h.log <:+ h'.log := ⟨os, hlog.symm⟩
  have hresumed : Resumed Counted h'.log := by
    rw [hlog]
    apply resumed_append _ hi.resumed
    intro o ho
    rw [htopic o ho]
    exact hne
  rcases d.change with he | ⟨o, ho, hc⟩
  · refine ⟨by rw [he]; exact hi.coordinator, ?_, hresumed⟩
    rw [he]
    intro t ht p hp
    exact (hi.counted t ht p hp).mono hsuffix
  · have hop : ∀ p x e, o ≠ .markZoneReady p x e := by
      rintro p x e rfl
      cases l with
      | ackZone => exact hne rfl
      | ackReady => cases ho
      | drop => cases ho
      | _ => exact ho
    refine ⟨hc.inv hi.coordinator, ?_, hresumed⟩
    intro t' ht' p hp
    obtain ⟨t, ht, hid, he, hz, hpt⟩ := change_zoneReady hc hop ht' hp
    exact ((hi.counted t ht p hpt).mono hsuffix).same hid he hz

abbrev Zoning : Discipline Host Empty := Discipline.plain Zoned fun _ _ => True

theorem follows_zoning : Follows Zoning unresumed where
  lawful := Discipline.plain_lawful (fun _ => trivial) fun _ _ _ _ _ => trivial
  session := by decide
  member := by decide
  lock := by decide
  clock := by decide
  readiness := by decide
  step := by
    intro l h h' hl d hi
    exact ⟨trivial, fun m => m.elim, fun m => m.elim, d.zoned hl hi⟩

/-! ## The handler -/

/-- a bridge message or a write resumes nothing -/
theorem Zoned.note {h : Host} (hi : Zoned h) {o : Out} (ho : o.notResume) : Zoned (h.note o) :=
  ⟨hi.coordinator, fun t ht p hp => (hi.counted t ht p hp).mono (List.suffix_cons o h.log), resumed_cons ho hi.resumed⟩

theorem Writes.zoned {type : MessageType} {h h' : Host} (w : Writes type h h') (hi : Zoned h) : Zoned h' := by
  rcases w with rfl | ⟨seq, rfl⟩ | ⟨player, conn, env, -, rfl⟩
  · exact hi
  · exact hi.note trivial
  · exact hi.note trivial

/-- the transaction has just been completed by an acknowledgement -/
def Completed (h : Host) (txnId : String) (epoch : ℤ) : Prop :=
  ∃ t, h.session.travel.current = some t ∧ t.txnId = txnId ∧ t.epoch = epoch ∧ t.zoneReady = t.participants

/-- an acknowledgement that names the current transaction and epoch is counted -/
theorem ackZone_zoned {h : Host} {expected : TravelTxn} {player txnId : String} {payload : Json} {epoch : ℤ}
    (hi : Zoned h) (hcur : h.session.travel.current = some expected) (htxn : strField payload "txn_id" = .ok txnId)
    (hepoch : intField payload "epoch" (-1) = .ok epoch)
    (hlog : .zoneReady player payload (some expected) ∈ h.log) :
    Zoned (h.ackZone player txnId epoch).2 ∧
      ((h.ackZone player txnId epoch).1 = .ok true → Completed (h.ackZone player txnId epoch).2 txnId epoch) := by
  have d := Does.ackZone h player txnId epoch
  -- the new entries of the log are about the met barrier only
  have hresumed : Resumed Counted (h.ackZone player txnId epoch).2.log := by
    rcases ackZone_cases h player txnId epoch with ⟨c, -, e⟩ | ⟨c, -, e⟩ | ⟨exc, -, e⟩
    · rw [e]; exact resumed_cons trivial hi.resumed
    · rw [e]; exact hi.resumed
    · rw [e]; exact hi.resumed
  obtain ⟨os, hos, -⟩ := d.log
  have hsuffix : h.log <:+ (h.ackZone player txnId epoch).2.log := ⟨os, hos.symm⟩
  have hcoordinator : Travel.Inv (h.ackZone player txnId epoch).2.session.travel := by
    rcases d.change with he | ⟨o, -, hc⟩
    · rw [he]; exact hi.coordinator
    · exact hc.inv hi.coordinator
  -- whoever is counted was counted before, or is the sender
  have hacked : ∀ t, h.session.travel.current = some t → t.txnId = txnId → t.epoch = epoch →
      (t.phase = .committed ∨ t.phase = .waitingZoneReady) → ∀ phase p, p ∈ addAck t.participants t.zoneReady player →
        Counted (h.ackZone player txnId epoch).2.log
          { t with zoneReady := addAck t.participants t.zoneReady player, phase := phase } p := by
    intro t ht hid he hphase phase p hp
    have hte : t = expected := by rw [hcur] at ht; exact (Option.some.inj ht).symm
    subst hte
    by_cases hold : p ∈ t.zoneReady
    · exact ((hi.counted t ht p hold).mono hsuffix).same rfl rfl rfl
    · have hplayer : p ∈ t.participants ∧ p = player := by
        unfold addAck at hp
        split_ifs at hp with hmem
        · rcases Finset.mem_insert.1 hp with rfl | hp'
          · exact ⟨hmem, rfl⟩
          · exact absurd hp' hold
        · exact absurd hp hold
      obtain ⟨hmem, rfl⟩ := hplayer
      exact ⟨payload, t, hsuffix.subset hlog, ⟨hid ▸ htxn, he ▸ hepoch⟩, ⟨hmem, hphase⟩, rfl, rfl, rfl⟩
  rcases ackZone_cases h player txnId epoch with ⟨c, hm, e⟩ | ⟨c, hm, e⟩ | ⟨exc, hm, e⟩
  · obtain ⟨hfalse, -⟩ | ⟨t, ht, hid, he, hphase, ⟨-, hall, hc⟩ | ⟨hfalse, -⟩⟩ := Travel.markZoneReady_ok hm
    · cases hfalse
    · subst hc
      refine ⟨⟨hcoordinator, ?_, hresumed⟩, ?_⟩
      · intro t' ht' p hp
        rw [e] at ht'
        cases ht'
        exact hacked t ht hid he hphase _ p hp
      · intro _
        rw [e]
        exact ⟨_, rfl, hid, he, hall⟩
    · cases hfalse
  · refine ⟨⟨hcoordinator, ?_, hresumed⟩, ?_⟩
    · obtain ⟨-, hc⟩ | ⟨t, ht, hid, he, hphase, ⟨htrue, -⟩ | ⟨-, -, hc⟩⟩ := Travel.markZoneReady_ok hm
      · intro t' ht' p hp
        rw [e, hc] at ht'
        exact (hi.counted t' ht' p hp).mono hsuffix
      · cases htrue
      · subst hc
        intro t' ht' p hp
        rw [e] at ht'
        cases ht'
        exact hacked t ht hid he hphase _ p hp
    · rw [e]
      intro hfalse
      cases hfalse
  · refine ⟨by rw [e]; exact hi, ?_⟩
    rw [e]
    intro hfalse
    cases hfalse

theorem wp_announceResume {own : Set Empty} {h : Host} {txnId : String} {epoch : ℤ} (hi : Zoned h)
    (hc : Completed h txnId epoch) : wp Zoning own (announceResume txnId epoch) (Ends Zoning fun m _ => m.elim) h := by
  obtain ⟨t, ht, hid, he, hall⟩ := hc
  have hpayload : resumePayload txnId epoch = resumePayload t.txnId t.epoch := by rw [hid, he]
  simp only [announceResume, bridgeSend, wp_bind, wp_askEnv, wp_call, andThen_ok, Discipline.may_plain]
  intro a
  refine ⟨trivial, follows_zoning.broadcast (fun h h' w hi => ⟨trivial, w.zoned hi⟩) (hi.note trivial) ?_⟩
  -- the broadcast starts in the state the acknowledgement left
  intro h' hsession _ hi'
  refine ⟨trivial, hi'.coordinator, ?_, ⟨t, ht, hpayload, ?_⟩, hi'.resumed⟩
  · intro t' ht' p hp
    exact (hi'.counted t' ht' p hp).mono (List.suffix_cons _ _)
  · intro p hp
    refine hi'.counted t ?_ p (hall.symm ▸ hp)
    rw [hsession]
    exact ht

theorem settles_travelZoneReady (player : String) (payload : Json) :
    Settles Zoning (fun m _ => m.elim) (travelZoneReady player payload) := by
  refine settles_zoneReady Completed (fun _ => trivial) ?_ ?_ ?_ player payload
  · exact fun h player payload travel hi => ⟨trivial, hi.note trivial⟩
  · intro h t player txnId payload hi hcur htxn hepoch hhead
    exact ⟨trivial, ackZone_zoned hi hcur htxn hepoch (List.mem_of_mem_head? hhead)⟩
  · exact fun own h txnId epoch hi hc => wp_announceResume hi hc

theorem pass_zoning : Pass Zoning (fun m _ => m.elim) unresumed where
  toFollows := follows_zoning
  stable := fun m => m.elim
  travel := Or.inl (by decide)
  ready := Or.inl (by decide)
  zoneReady := Or.inr settles_travelZoneReady
  build := Or.inl (by decide)
  request := Or.inl ⟨by decide, by decide⟩
  status := Or.inl (by decide)
  view := Or.inl (by decide)
  abort := Or.inl (by decide)

/-! ## Runs -/

/-- **The second barrier.** In every run `travel.resume` is broadcast only for a transaction all of whose remaining
participants have had an acknowledgement counted. -/
theorem resumed (playerId displayName sessionId : String) (manifest : CompatibilityManifest) (nativeRequired : Bool)
    (commands : NetworkedCommandRouter) (acts : List HostAct) :
    Resumed Counted (runFrom (started playerId displayName sessionId manifest nativeRequired commands) acts).state.log := by
  have htravel := init_travel playerId displayName sessionId manifest nativeRequired commands
  have h₀ : Zoned (init playerId displayName sessionId manifest nativeRequired commands) := by
    refine ⟨by rw [htravel]; exact Travel.inv_init, ?_, trivial⟩
    intro t ht
    rw [htravel] at ht
    cases ht
  exact (pass_zoning.run (Pool.inv_init h₀ fun m => m.elim) acts).2.state.resumed

/-- an acknowledgement that is counted names the target zone -/
def ZoneNamed : Out → Prop
  | .zoneReady p payload (some t) => Answers payload t → Counts t p → NamesZone payload t
  | _ => True

instance (o : Out) : Decidable (ZoneNamed o) := by
  unfold ZoneNamed
  split <;> infer_instance

theorem Counted.inZone {log : List Out} {t : TravelTxn} {p : String} (h : Counted log t p)
    (hzone : ∀ o ∈ log, ZoneNamed o) : InZone log t p := by
  obtain ⟨payload, t', hmem, hanswers, hcounts, hid, he, hz⟩ := h
  have hnames : NamesZone payload t' := hzone _ hmem hanswers hcounts
  refine ⟨payload, some t', hmem, ?_, ?_⟩
  · rw [Answers, ← hid, ← he]
    exact hanswers
  · rw [NamesZone, ← hz]
    exact hnames

/-- **The barrier is about the target zone.** In every run in which each counted acknowledgement names the
transaction's zone, `travel.resume` is broadcast only when every remaining participant has reported this zone for
this epoch. -/
theorem zone_barrier (playerId displayName sessionId : String) (manifest : CompatibilityManifest) (nativeRequired : Bool)
    (commands : NetworkedCommandRouter) (acts : List HostAct)
    (named : ∀ o ∈ (runFrom (started playerId displayName sessionId manifest nativeRequired commands) acts).state.log,
      ZoneNamed o) :
    Resumed InZone (runFrom (started playerId displayName sessionId manifest nativeRequired commands) acts).state.log := by
  have hresumed := resumed playerId displayName sessionId manifest nativeRequired commands acts
  generalize (runFrom (started playerId displayName sessionId manifest nativeRequired commands) acts).state.log = log
    at named hresumed
  induction log with
  | nil => trivial
  | cons o log ih =>
    have hnamed : ∀ o ∈ log, ZoneNamed o := fun x hx => named x (List.mem_cons_of_mem o hx)
    by_cases ho : o.notResume
    · apply resumed_cons ho (ih hnamed _)
      cases o with
      | sending type payload seq travel =>
        cases type with
        | travelResume => exact ho.elim
        | _ => exact hresumed
      | _ => exact hresumed
    · cases o with
      | sending type payload seq travel =>
        cases type with
        | travelResume =>
          obtain ⟨⟨t, ht, hpayload, hall⟩, hrest⟩ := hresumed
          exact ⟨⟨t, ht, hpayload, fun p hp => (hall p hp).inZone hnamed⟩, ih hnamed hrest⟩
        | _ => exact absurd trivial ho
      | _ => exact absurd trivial ho

/-- a client joins and asks for a travel to zone 5; both games are ready, and then report the zones they are in -/
def travelTo5 (hostZone clientZone : String) : List HostAct :=
  let txn := Json.str (uuid4 1)
  let ready : Json := .obj [("txn_id", txn), ("epoch", .int 1)]
  let zoneReady (zone : String) : Json := .obj [("txn_id", txn), ("epoch", .int 1), ("zone_id", .str zone)]
  [joins 1 "alice", goesOn, sends 1 "alice" .travelRequest (.obj [("zone_id", .str "5")]), goesOn,
    sends 1 "alice" .travelReady ready, plays .travelReady ready, goesOn, goesOn,
    plays .travelZoneReady (zoneReady hostZone), sends 1 "alice" .travelZoneReady (zoneReady clientZone), goesOn]

theorem zone_barrier_travel :
    (∃ o ∈ (runFrom lanHost (travelTo5 "5" "5")).state.log, ¬ o.notResume) ∧
      Resumed InZone (runFrom lanHost (travelTo5 "5" "5")).state.log := by
  have hnamed : ∀ o ∈ (runFrom lanHost (travelTo5 "5" "5")).state.log, ZoneNamed o := by decide +kernel
  refine ⟨by decide +kernel, ?_⟩
  rw [lanHost] at hnamed ⊢
  exact zone_barrier "host" "Host" "session" (lanManifest "host") false .init (travelTo5 "5" "5") hnamed

/-- the travel of `travelTo5` when it is complete -/
def travelTo5Done : TravelTxn :=
  ⟨1, uuid4 1, "5", [], {"host", "alice"}, .complete, {"host", "alice"}, {"alice", "host"}⟩

/-- not a report of the target zone by this player -/
def ReportsElsewhere (player : String) (t : TravelTxn) : Out → Prop
  | .zoneReady p payload _ => p = player → ¬ NamesZone payload t
  | _ => True

instance (player : String) (t : TravelTxn) (o : Out) : Decidable (ReportsElsewhere player t o) := by
  unfold ReportsElsewhere
  split <;> infer_instance

/-- the client reports zone 9, and the travel to zone 5 is resumed -/
theorem wrong_zone_resumed : ¬ Resumed InZone (runFrom lanHost (travelTo5 "5" "9")).state.log := by
  intro h
  have hresume : .sending .travelResume (resumePayload (uuid4 1) 1) 4 (some travelTo5Done) ∈
      (runFrom lanHost (travelTo5 "5" "9")).state.log := by decide +kernel
  have hother : ∀ o ∈ (runFrom lanHost (travelTo5 "5" "9")).state.log, ReportsElsewhere "alice" travelTo5Done o := by
    decide +kernel
  obtain ⟨newer, older, hlog⟩ := List.append_of_mem hresume
  rw [hlog] at h
  obtain ⟨t, ht, -, hall⟩ := resumed_split h
  cases ht
  obtain ⟨payload, travel, hmem, -, hnames⟩ := hall "alice" (by decide)
  refine hother (.zoneReady "alice" payload travel) ?_ rfl hnames
  rw [hlog]
  exact List.mem_append_right _ (List.mem_cons_of_mem _ hmem)

end KerMP.Host
