/-
How a travel ends, and who hears of an abort.

A travel ends with `travel.resume`, when the last zone acknowledgement completes it, or with `travel.abort`, which the
host's game or any client may ask for. `mark_zone_ready` and `remove_participant` look at the phase first;
`TravelCoordinator.abort` does not, so an abort for the current epoch also takes back a completed travel.

Results:
- `one_outcome`: in every run in which no abort comes in for a completed travel, complete and aborted are final and no
  epoch is both resumed and aborted; when none comes in for a finished travel at all, each epoch has at most one of these
  broadcasts.
- `late_abort`: a participant asks for an abort after `travel.resume`, and the completed travel is aborted.
-/
import KerMP.Host.Pass

namespace KerMP

open Py

/-! ## Steps of a travel that is under way -/

/-- a message about a travel that neither commits nor ends it -/
def MessageType.early : MessageType → Bool
  | .travelPropose | .travelPrepare | .travelViewBatch => true
  | _ => false

namespace Host

open Coop
open Coro hiding pure get modify
open Travel (TravelTxn TravelCoordinator TravelPhase)

/-- an entry about such a message -/
def Out.early : Out → Bool
  | .bridge _ type _ | .sending type _ _ _ | .cut type _ => type.early
  | .wrote _ _ env => env.type.early
  | _ => false

/-- what the handlers of a travel do until its zones are acknowledged -/
def Early (h h' : Host) : Prop :=
  On [.session, .member, .commit] h h' ∨ Does .propose h h' ∨ ∃ o : Out, o.early = true ∧ h' = h.note o

theorem guar_early {α : Type} {p : HostM α} (hp : Guar (On [.session, .member, .commit]) p) : Guar Early p :=
  hp.mono fun _ _ => Or.inl

theorem early_bridgeSend {type : MessageType} (ht : type.early = true) (payload : Payload) :
    Guar Early (bridgeSend type payload) :=
  guar_bind guar_askEnv fun a => guar_call fun h => Or.inr (Or.inr ⟨.bridge a.ok type (h.resolve payload), ht, rfl⟩)

theorem early_forward {type : MessageType} (ht : type.early = true) (payload : Payload) :
    Guar Early (forward type payload) := guar_bind (early_bridgeSend ht payload) fun _ => guar_pure ()

theorem early_broadcast {type : MessageType} (ht : type.early = true) (payload : Payload) :
    Guar Early (broadcastPeers type payload) := by
  have hsub : [Topic.session, .member] ⊆ [.session, .member, .commit] := by decide
  refine guar_broadcastPeers_of (fun _ _ hon => Or.inl (hon.mono hsub)) (fun h p seq travel => ?_) ?_ payload
  · exact Or.inr (Or.inr ⟨.sending type p seq travel, ht, rfl⟩)
  · rintro h h' (rfl | ⟨seq, rfl⟩ | ⟨player, conn, env, rfl, rfl⟩)
    · exact Or.inl (on_refl (by decide) h')
    · exact Or.inr (Or.inr ⟨.cut type seq, ht, rfl⟩)
    · exact Or.inr (Or.inr ⟨.wrote player conn env, ht, rfl⟩)

theorem early_startTravel (payload : Json) (player : String) : Guar Early (startTravel payload player) := by
  refine guar_bind (guar_ofExcept _) fun zoneId => guar_bind (guar_ofExcept _) fun actors => ?_
  split_ifs
  · exact guar_pure ()
  refine guar_bind (guar_early (guar_of_aside (aside_drawUuid (by decide)))) fun uuid =>
    guar_bind (guar_tryCall fun h => ?_) fun txn => ?_
  · cases he : h.session.travel.propose zoneId (actors.map Json.toStr) h.session.players.keys uuid with
    | error e => exact Or.inl (on_refl (by decide) h)
    | ok r => exact Or.inr (Or.inl (.propose h zoneId _ uuid he))
  · exact guar_bind (early_bridgeSend rfl _) fun _ => early_broadcast rfl _

theorem early_gameViewBatch (payload : Json) : Guar Early (gameViewBatch payload) := by
  refine guar_bind (guar_ofExcept _) fun epoch => guar_bind (guar_early (guar_of_aside (aside_read (by decide)))) fun h =>
    guar_ifSome _ fun active => ?_
  split_ifs with he
  · exact guar_pure ()
  refine guar_bind (guar_ofExcept _) fun kind =>
    guar_bind (guar_early (guar_of_aside (aside_setBatchOpen (by decide) _))) fun _ => ?_
  have hend : Guar Early (do
      broadcastPeers .travelViewBatch (.val (viewBatch active kind.toStr.toLower))
      if kind.toStr.toLower = "end" then forward .travelViewBatch (.val (viewBatch active kind.toStr.toLower))
      else pure () : HostM Unit) := by
    refine guar_bind (early_broadcast rfl _) fun _ => ?_
    split_ifs
    · exact early_forward rfl _
    · exact guar_pure ()
  dsimp only
  by_cases hbegin : kind.toStr.toLower = "begin"
  · rw [if_pos hbegin]
    exact guar_bind (early_forward rfl _) fun _ => hend
  · rw [if_neg hbegin]
    exact hend

theorem early_travelReady (player : String) (payload : Json) : Guar Early (travelReady player payload) := by
  refine guar_bind (guar_ofExcept _) fun txnId => ?_
  split_ifs
  · exact guar_pure ()
  have hmark : Guar Early (do
      let epoch ← ofExcept (intField payload "epoch" (-1))
      markReady player txnId epoch : HostM Bool) :=
    guar_early (guar_bind (guar_ofExcept _) fun epoch => guar_of_aside (aside_markReady (by decide) player txnId epoch))
  refine guar_bind (guar_catching hmark fun _ => guar_pure _) fun commit => ?_
  split_ifs
  · refine guar_bind (guar_early (guar_of_aside (aside_read (by decide)))) fun h => ?_
    cases h.session.travel.current with
    | none => exact guar_raise _
    | some txn =>
      refine guar_bind (early_broadcast rfl _) fun _ => guar_bind (early_bridgeSend rfl _) fun _ => ?_
      refine guar_early (guar_bind (guar_of_aside (aside_bridgeSend (by decide) _)) fun _ => ?_)
      refine guar_bind (guar_broadcastPeers (by decide) (by decide) (by decide) _) fun _ => ?_
      exact guar_of_aside (aside_beginZoneWait (by decide) (by decide) txnId)
  · exact guar_pure ()

/-! ## Outcomes -/

/-- how the broadcast says that the travel of this epoch ends -/
def Out.outcome (epoch : ℤ) : Out → Option TravelPhase
  | .sending .travelResume payload _ _ => if payload.get "epoch" = .ok (.int epoch) then some .complete else none
  | .sending .travelAbort payload _ _ => if payload.get "epoch" = .ok (.int epoch) then some .aborted else none
  | _ => none

/-- the ends announced for an epoch, newest first -/
def outcomes (log : List Out) (epoch : ℤ) : List TravelPhase := log.filterMap (Out.outcome epoch)

/-- the travel of this epoch has not ended yet -/
def notEnded (o : Out) : Prop := ∀ epoch, o.outcome epoch = none

theorem notEnded_of_topic {o : Out} (ht : o.topic ≠ .travel) (hr : o.topic ≠ .resume) : notEnded o := by
  intro epoch
  cases o with
  | sending type payload seq travel =>
    cases type with
    | travelResume => exact absurd rfl hr
    | travelAbort => exact absurd rfl ht
    | _ => rfl
  | _ => rfl

theorem notEnded_of_early {o : Out} (ho : o.early = true) : notEnded o := by
  intro epoch
  cases o with
  | sending type payload seq travel =>
    cases type with
    | travelResume => cases ho
    | travelAbort => cases ho
    | _ => rfl
  | _ => rfl

theorem outcomes_append {os log : List Out} (hos : ∀ o ∈ os, notEnded o) (epoch : ℤ) :
    outcomes (os ++ log) epoch = outcomes log epoch := by
  have hnil : os.filterMap (Out.outcome epoch) = [] := List.filterMap_eq_nil_iff.2 fun o ho => hos o ho epoch
  rw [outcomes, List.filterMap_append, hnil, List.nil_append, outcomes]

theorem outcomes_cons {o : Out} (ho : notEnded o) (log : List Out) (epoch : ℤ) :
    outcomes (o :: log) epoch = outcomes log epoch := List.filterMap_cons_none (ho epoch)

theorem finished_cases {p : TravelPhase} (hp : p.finished = true) : p = .complete ∨ p = .aborted := by
  cases p with
  | complete => exact Or.inl rfl
  | aborted => exact Or.inr rfl
  | _ => cases hp

theorem outcome_finished {o : Out} {epoch : ℤ} {p : TravelPhase} (ho : o.outcome epoch = some p) :
    p.finished = true := by
  unfold Out.outcome at ho
  split at ho
  · split_ifs at ho
    cases ho
    rfl
  · split_ifs at ho
    cases ho
    rfl
  · cases ho

/-! ## Final phases -/

/-- from one moment to a later one: a finished travel stays as it is until there is a next one -/
structure Onward (c c' : TravelCoordinator) : Prop where
  epoch : c.epoch ≤ c'.epoch
  final : c'.epoch = c.epoch → ∀ t, c.current = some t → t.phase.finished = true →
    ∃ t', c'.current = some t' ∧ t'.phase = t.phase

theorem Onward.refl (c : TravelCoordinator) : Onward c c := ⟨le_rfl, fun _ t ht _ => ⟨t, ht, rfl⟩⟩

theorem Onward.trans {a b c : TravelCoordinator} (hab : Onward a b) (hbc : Onward b c) : Onward a c := by
  refine ⟨hab.epoch.trans hbc.epoch, fun he t ht hf => ?_⟩
  have heb : b.epoch = a.epoch := le_antisymm (he ▸ hbc.epoch) hab.epoch
  obtain ⟨t', ht', hp'⟩ := hab.final heb t ht hf
  obtain ⟨t'', ht'', hp''⟩ := hbc.final (he.trans heb.symm) t' ht' (by rw [hp']; exact hf)
  exact ⟨t'', ht'', hp''.trans hp'⟩

/-- every call but an abort of a completed travel -/
theorem onward_of_change {c c' : TravelCoordinator} {o : Travel.Op} (hc : Travel.Change c o c')
    (ho : ∀ x, o = .abort x → ∀ t, c.current = some t → t.phase ≠ .complete) : Onward c c' := by
  have hopen : ∀ {t : TravelTxn} {c' : TravelCoordinator}, c.current = some t → t.phase.finished = false →
      c.epoch ≤ c'.epoch → Onward c c' := by
    intro t c' ht hf he
    refine ⟨he, fun _ t' ht' hf' => ?_⟩
    rw [ht] at ht'
    cases ht'
    rw [hf] at hf'
    cases hf'
  cases hc with
  | same => exact .refl c
  | propose z as ps u ha hp =>
    refine ⟨Int.le_add_one le_rfl, fun he => ?_⟩
    exact absurd he (Int.lt_add_one_iff.2 le_rfl).ne'
  | ready t p ht hw | commit t p ht hw => exact hopen ht (by rw [hw]; rfl) le_rfl
  | zoneWait t ht hw => exact hopen ht (by rw [hw]; rfl) le_rfl
  | zoneReady t p ht hw | complete t p ht hw =>
    refine hopen ht ?_ le_rfl
    rcases hw with hw | hw <;> rw [hw] <;> rfl
  | leave t p ht hf => exact hopen ht hf le_rfl
  | abort t ht =>
    refine ⟨le_rfl, fun _ t' ht' hf => ⟨_, rfl, ?_⟩⟩
    rw [ht] at ht'
    cases ht'
    exact ((finished_cases hf).resolve_left (ho t.txnId rfl t ht)).symm

/-! ## The invariant -/

/-- what has been announced for the current epoch is the phase of the current travel; nothing is announced ahead -/
structure Outcomes (late : TravelPhase → Prop) (h : Host) : Prop where
  coordinator : Travel.Inv h.session.travel
  past : ∀ e, h.session.travel.epoch < e → outcomes h.log e = []
  now : ∀ p ∈ outcomes h.log h.session.travel.epoch, ∃ t, h.session.travel.current = some t ∧ t.phase = p
  single : ∀ e, ∀ p ∈ outcomes h.log e, ∀ q ∈ outcomes h.log e, p = q
  once : late .aborted → ∀ e, (outcomes h.log e).length ≤ 1

theorem finished_of_mem {log : List Out} {epoch : ℤ} {p : TravelPhase} (hp : p ∈ outcomes log epoch) :
    p.finished = true := by
  obtain ⟨o, -, ho⟩ := List.mem_filterMap.1 hp
  exact outcome_finished ho

namespace Outcomes

variable {late : TravelPhase → Prop} {h h' : Host}

/-- while the travel is open nothing has been announced for it -/
theorem outcomes_eq_nil (hi : Outcomes late h) {t : TravelTxn} (ht : h.session.travel.current = some t)
    (hf : t.phase.finished = false) : outcomes h.log t.epoch = [] := by
  rw [hi.coordinator.epoch t ht]
  refine List.eq_nil_iff_forall_not_mem.2 fun p hp => ?_
  obtain ⟨t', ht', hphase⟩ := hi.now p hp
  have hp' := finished_of_mem hp
  rw [ht] at ht'
  cases ht'
  rw [← hphase, hf] at hp'
  cases hp'

/-- a step that announces nothing -/
theorem onward (hi : Outcomes late h) (hc : Travel.Inv h'.session.travel)
    (ho : Onward h.session.travel h'.session.travel) (hlog : ∀ e, outcomes h'.log e = outcomes h.log e) :
    Outcomes late h' := by
  refine ⟨hc, fun e he => ?_, fun p hp => ?_, ?_, ?_⟩
  · rw [hlog]
    exact hi.past e (ho.epoch.trans_lt he)
  · rw [hlog] at hp
    rcases ho.epoch.lt_or_eq with hlt | heq
    · rw [hi.past _ hlt] at hp
      cases hp
    · rw [← heq] at hp
      obtain ⟨t, ht, rfl⟩ := hi.now p hp
      exact ho.final heq.symm t ht (finished_of_mem hp)
  · simp only [hlog]
    exact hi.single
  · simp only [hlog]
    exact hi.once

/-- the end of the current travel is announced -/
theorem announce (hi : Outcomes late h) {t : TravelTxn} (ht : h.session.travel.current = some t) {o : Out}
    (ho : ∀ e, o.outcome e = if e = t.epoch then some t.phase else none)
    (hnew : late .aborted → outcomes h.log t.epoch = []) : Outcomes late (h.note o) := by
  have hepoch := hi.coordinator.epoch t ht
  have hlog : ∀ e, outcomes (h.note o).log e =
      if e = t.epoch then t.phase :: outcomes h.log e else outcomes h.log e := by
    intro e
    show (o :: h.log).filterMap (Out.outcome e) = _
    rw [List.filterMap_cons, ho]
    split_ifs <;> rfl
  -- what has been announced before is the phase of this very travel
  have hold : ∀ p ∈ outcomes h.log t.epoch, p = t.phase := by
    intro p hp
    rw [hepoch] at hp
    obtain ⟨t', ht', hphase⟩ := hi.now p hp
    rw [ht] at ht'
    cases ht'
    exact hphase.symm
  have hall : ∀ p ∈ outcomes (h.note o).log t.epoch, p = t.phase := by
    intro p hp
    rw [hlog, if_pos rfl] at hp
    rcases List.mem_cons.1 hp with rfl | hp
    · rfl
    · exact hold p hp
  refine ⟨hi.coordinator, fun e he => ?_, fun p hp => ⟨t, ht, ?_⟩, fun e => ?_, fun hl e => ?_⟩
  · have hlt : h.session.travel.epoch < e := he
    rw [hlog, if_neg (by rw [hepoch]; exact hlt.ne')]
    exact hi.past e he
  · have hcurrent : (h.note o).session.travel.epoch = t.epoch := hepoch.symm
    rw [hcurrent] at hp
    exact (hall p hp).symm
  · by_cases he : e = t.epoch
    · subst he
      exact fun p hp q hq => (hall p hp).trans (hall q hq).symm
    · rw [hlog, if_neg he]
      exact hi.single e
  · rw [hlog]
    split_ifs with he
    · rw [he, hnew hl]
      exact le_rfl
    · exact hi.once hl e

/-- a bridge message or a write announces nothing -/
theorem note (hi : Outcomes late h) {o : Out} (ho : notEnded o) : Outcomes late (h.note o) :=
  hi.onward hi.coordinator (.refl _) fun e => outcomes_cons ho h.log e

end Outcomes

/-! ## The steps that announce nothing -/

/-- a step is allowed -/
abbrev Ending (late : TravelPhase → Prop) : Discipline Host Empty :=
  Discipline.plain (Outcomes late) fun h h' => Onward h.session.travel h'.session.travel

theorem ending_lawful (late : TravelPhase → Prop) : (Ending late).Lawful :=
  Discipline.plain_lawful (fun _ => .refl _) fun _ _ _ => .trans

/-- the steps that neither abort nor resume -/
def unended : List Topic :=
  [.session, .member, .readiness, .commit, .lock, .build, .apply, .request, .status, .view, .clock]

/-- a call that is no abort, together with notes that announce nothing -/
theorem Does.outcomes {l : Label} {h h' : Host} {late : TravelPhase → Prop} (d : Does l h h')
    (hl : ∀ x, ¬ l.calls (.abort x)) (hlog : ∀ e, Host.outcomes h'.log e = Host.outcomes h.log e) (hi : Outcomes late h) :
    Onward h.session.travel h'.session.travel ∧ Outcomes late h' := by
  rcases d.change with he | ⟨o, ho, hc⟩
  · have honward : Onward h.session.travel h'.session.travel := by rw [he]; exact .refl _
    exact ⟨honward, hi.onward (by rw [he]; exact hi.coordinator) honward hlog⟩
  · have honward : Onward h.session.travel h'.session.travel := by
      refine onward_of_change hc fun x hx => ?_
      rw [hx] at ho
      exact absurd ho (hl x)
    exact ⟨honward, hi.onward (hc.inv hi.coordinator) honward hlog⟩

theorem not_calls_abort {l : Label} (hl : l ≠ .abort) (x : String) : ¬ l.calls (.abort x) := by
  intro hcall
  cases l with
  | abort => exact hl rfl
  | ackReady | ackZone | drop => cases hcall
  | _ => exact hcall

theorem on_outcomes {h h' : Host} {late : TravelPhase → Prop} {l : Label} (hl : l.topic ∈ unended) (d : Does l h h')
    (hi : Outcomes late h) : Onward h.session.travel h'.session.travel ∧ Outcomes late h' := by
  refine d.outcomes (not_calls_abort ?_) (fun e => ?_) hi
  · rintro rfl
    revert hl
    decide
  · obtain ⟨os, hlog, htopic⟩ := d.log
    rw [hlog]
    refine outcomes_append (fun o ho => ?_) e
    apply notEnded_of_topic
    · rw [htopic o ho]
      exact ne_of_mem_of_not_mem hl (by decide)
    · rw [htopic o ho]
      exact ne_of_mem_of_not_mem hl (by decide)

theorem follows_ending (late : TravelPhase → Prop) : Follows (Ending late) unended where
  lawful := ending_lawful late
  session := by decide
  member := by decide
  lock := by decide
  clock := by decide
  readiness := by decide
  step := by
    intro l h h' hl d hi
    obtain ⟨honward, hi'⟩ := on_outcomes hl d hi
    exact ⟨honward, fun m => m.elim, fun m => m.elim, hi'⟩

theorem Early.outcomes {h h' : Host} {late : TravelPhase → Prop} (he : Early h h') (hi : Outcomes late h) :
    Onward h.session.travel h'.session.travel ∧ Outcomes late h' := by
  rcases he with ⟨l, hl, d⟩ | d | ⟨o, ho, rfl⟩
  · have hsub : [Topic.session, .member, .commit] ⊆ unended := by decide
    exact on_outcomes (hsub hl) d hi
  · have hlog : h'.log = h.log := by cases d; rfl
    exact d.outcomes (not_calls_abort (by simp)) (fun e => by rw [hlog]) hi
  · exact ⟨.refl _, hi.note (notEnded_of_early ho)⟩

theorem settles_early {late : TravelPhase → Prop} {α : Type} {p : HostM α} (hp : Guar Early p) :
    Settles (Ending late) (fun m _ => m.elim) p := by
  refine settles_of_guar (ending_lawful late) (fun h h' he hi => ?_) hp
  obtain ⟨honward, hi'⟩ := he.outcomes hi
  exact ⟨honward, fun m => m.elim, fun m => m.elim, hi'⟩

/-! ## The two ends -/

/-- the loop of a broadcast announces nothing more -/
theorem Writes.outcomes {type : MessageType} {h h' : Host} {late : TravelPhase → Prop} (w : Writes type h h')
    (hi : Outcomes late h) : Onward h.session.travel h'.session.travel ∧ Outcomes late h' := by
  rcases w with rfl | ⟨seq, rfl⟩ | ⟨player, conn, env, -, rfl⟩
  · exact ⟨.refl _, hi⟩
  · exact ⟨.refl _, hi.note fun _ => rfl⟩
  · exact ⟨.refl _, hi.note fun _ => rfl⟩

/-- the broadcast that announces the end of the current travel -/
theorem wp_broadcast_end {late : TravelPhase → Prop} {own : Set Empty} {h : Host} (hi : Outcomes late h) {t : TravelTxn}
    (ht : h.session.travel.current = some t) {type : MessageType} {payload : Payload}
    (ho : ∀ seq e, (Out.sending type (h.resolve payload.orEmpty) seq (some t)).outcome e =
      if e = t.epoch then some t.phase else none)
    (hnew : late .aborted → outcomes h.log t.epoch = []) :
    wp (Ending late) own (broadcastPeers type payload) (Ends (Ending late) fun m _ => m.elim) h := by
  refine (follows_ending late).broadcast (fun h h' w hi => w.outcomes hi) hi fun h' hsession hlog hi' => ?_
  have ht' : h'.session.travel.current = some t := by rw [hsession]; exact ht
  refine ⟨.refl _, hi'.announce ht' ?_ (by rw [hlog]; exact hnew)⟩
  rw [ht]
  exact ho (h.seq + 1)

theorem outcome_resume (txnId : String) (epoch : ℤ) (seq : ℕ) (travel : Option TravelTxn) (e : ℤ) :
    (Out.sending .travelResume (resumePayload txnId epoch) seq travel).outcome e =
      if e = epoch then some .complete else none := by
  have hget : (resumePayload txnId epoch).get "epoch" = .ok (.int epoch) := rfl
  simp only [Out.outcome, hget, Except.ok.injEq, Json.int.injEq, eq_comm]

theorem abort_current {c : TravelCoordinator} {t : TravelTxn} (ht : c.current = some t) :
    c.abort t.txnId = .ok { c with current := some { t with phase := .aborted } } := by
  rw [TravelCoordinator.abort, Travel.getTxn_eq ht]
  rfl

theorem outcome_abort (txnId : String) (epoch : ℤ) (reason : Json) (seq : ℕ) (travel : Option TravelTxn) (e : ℤ) :
    (Out.sending .travelAbort (.obj [("txn_id", .str txnId), ("epoch", .int epoch), ("reason", reason)]) seq
      travel).outcome e = if e = epoch then some .aborted else none := by
  have hget : Json.get (.obj [("txn_id", .str txnId), ("epoch", .int epoch), ("reason", reason)]) "epoch" =
      .ok (.int epoch) := rfl
  simp only [Out.outcome, hget, Except.ok.injEq, Json.int.injEq, eq_comm]

/-- an acknowledgement has just completed the travel, and nothing is announced yet -/
def JustDone (h : Host) (epoch : ℤ) : Prop :=
  ∃ t, h.session.travel.current = some t ∧ t.epoch = epoch ∧ t.phase = .complete ∧ outcomes h.log epoch = []

theorem ackZone_outcomes {late : TravelPhase → Prop} {h : Host} (hi : Outcomes late h) (player txnId : String)
    (epoch : ℤ) :
    Onward h.session.travel (h.ackZone player txnId epoch).2.session.travel ∧
      Outcomes late (h.ackZone player txnId epoch).2 ∧
      ((h.ackZone player txnId epoch).1 = .ok true → JustDone (h.ackZone player txnId epoch).2 epoch) := by
  have d := Does.ackZone h player txnId epoch
  have hlog : ∀ e, outcomes (h.ackZone player txnId epoch).2.log e = outcomes h.log e := by
    intro e
    rcases ackZone_cases h player txnId epoch with ⟨c, -, hr⟩ | ⟨c, -, hr⟩ | ⟨exc, -, hr⟩
    · rw [hr]; exact outcomes_cons (fun _ => rfl) h.log e
    · rw [hr]; rfl
    · rw [hr]
  obtain ⟨honward, hi'⟩ := d.outcomes (not_calls_abort (by simp)) hlog hi
  refine ⟨honward, hi', fun htrue => ?_⟩
  rcases ackZone_cases h player txnId epoch with ⟨c, hm, hr⟩ | ⟨c, -, hr⟩ | ⟨exc, -, hr⟩
  · obtain ⟨hfalse, -⟩ | ⟨t, ht, -, rfl, hphase, ⟨-, -, hc⟩ | ⟨hfalse, -⟩⟩ := Travel.markZoneReady_ok hm
    · cases hfalse
    · have hopen : t.phase.finished = false := by rcases hphase with hp | hp <;> rw [hp] <;> rfl
      refine ⟨{ t with zoneReady := Travel.addAck t.participants t.zoneReady player, phase := .complete },
        by rw [hr, hc]; rfl, rfl, rfl, ?_⟩
      rw [hlog]
      exact hi.outcomes_eq_nil ht hopen
    · cases hfalse
  · rw [hr] at htrue
    cases htrue
  · rw [hr] at htrue
    cases htrue

theorem wp_announceResume_end {late : TravelPhase → Prop} {own : Set Empty} {h : Host} {txnId : String} {epoch : ℤ}
    (hi : Outcomes late h) (hd : JustDone h epoch) :
    wp (Ending late) own (announceResume txnId epoch) (Ends (Ending late) fun m _ => m.elim) h := by
  obtain ⟨t, ht, rfl, hphase, hnil⟩ := hd
  simp only [announceResume, bridgeSend, wp_bind, wp_askEnv, wp_call, andThen_ok, Discipline.may_plain]
  intro a
  refine ⟨.refl _, wp_broadcast_end (hi.note fun _ => rfl) ht (fun seq e => ?_) fun _ => ?_⟩
  · rw [hphase]
    exact outcome_resume txnId t.epoch seq (some t) e
  · exact (outcomes_cons (fun _ => rfl) h.log t.epoch).trans hnil

theorem settles_zoneReady_end (late : TravelPhase → Prop) (player : String) (payload : Json) :
    Settles (Ending late) (fun m _ => m.elim) (travelZoneReady player payload) := by
  refine settles_zoneReady (fun h _ epoch => JustDone h epoch) (fun h => .refl _) ?_ ?_ ?_ player payload
  · exact fun h player payload travel hi => ⟨.refl _, hi.note fun _ => rfl⟩
  · exact fun h t player txnId payload hi _ _ _ _ => ackZone_outcomes hi player txnId t.epoch
  · exact fun own h txnId epoch hi hd => wp_announceResume_end hi hd

/-- what an abort in time does -/
theorem wp_travelAbort {late : TravelPhase → Prop} (hlate : late .complete) {h : Host} {payload : Json} (reason : String)
    (hi : Outcomes late h)
    (htime : ∀ t, h.session.travel.current = some t → intField payload "epoch" (-1) = .ok t.epoch → ¬ late t.phase) :
    wp (Ending late) ∅ (travelAbort payload reason) (Ends (Ending late) fun m _ => m.elim) h := by
  refine wp_read (ending_lawful late) ?_
  cases ht : h.session.travel.current with
  | none => exact ⟨hi, fun m => m.elim⟩
  | some t =>
    simp only [ifSome, wp_bind, wp_ofExcept]
    cases hepoch : intField payload "epoch" (-1) with
    | error e => exact ⟨hi, fun m => m.elim⟩
    | ok epoch =>
      rw [andThen_ok]
      split_ifs with he
      swap
      · exact ⟨hi, fun m => m.elim⟩
      subst he
      have hphase := htime t ht hepoch
      have hne : t.phase ≠ .complete := fun hp => hphase (hp ▸ hlate)
      have hnew : late .aborted → outcomes h.log t.epoch = [] := by
        intro hl
        refine hi.outcomes_eq_nil ht ?_
        cases hf : t.phase.finished with
        | false => rfl
        | true => exact absurd ((finished_cases hf).resolve_left hne ▸ hl) hphase
      set c : TravelCoordinator := { h.session.travel with current := some { t with phase := .aborted } } with hc
      have honward : Onward h.session.travel c := by
        refine onward_of_change (.abort t ht) fun _ _ t' ht' => ?_
        rw [ht] at ht'
        cases ht'
        exact hne
      have hi₁ : Outcomes late (h.setTravel c) :=
        hi.onward ((Travel.Change.abort t ht).inv hi.coordinator) honward fun _ => rfl
      rw [wp_bind, abort, onTravel, wp_tryCall, abort_current ht]
      refine ⟨Discipline.may_plain.2 honward, ?_⟩
      rw [Except.map, andThen_ok, wp_bind, wp_ofExcept]
      cases hr : payload.getD "reason" (.str reason) with
      | error e => exact ⟨hi₁, fun m => m.elim⟩
      | ok r =>
        rw [andThen_ok]
        refine wp_broadcast_end hi₁ (t := { t with phase := .aborted }) rfl (fun seq e => ?_) hnew
        exact outcome_abort t.txnId t.epoch r seq _ e

theorem passage_ending (late : TravelPhase → Prop) : Passage (Ending late) (fun m _ => m.elim) unended where
  toFollows := follows_ending late
  stable := fun m => m.elim
  travel := Or.inr ⟨fun payload player => settles_early (early_startTravel payload player),
    fun payload => settles_early (early_gameViewBatch payload)⟩
  ready := Or.inr fun player payload => settles_early (early_travelReady player payload)
  zoneReady := Or.inr (settles_zoneReady_end late)
  build := Or.inl (by decide)
  request := Or.inl ⟨by decide, by decide⟩
  status := Or.inl (by decide)
  view := Or.inl (by decide)

/-! ## Runs -/

/-- no abort for the current travel comes in when it is in one of the `late` phases -/
def OnTime (late : TravelPhase → Prop) (h : Host) (t : Event) : Prop :=
  ∀ payload ∈ asksAbort h t, ∀ txn ∈ h.session.travel.current,
    intField payload "epoch" (-1) = .ok txn.epoch → ¬ late txn.phase

instance (late : TravelPhase → Prop) [DecidablePred late] (h : Host) (t : Event) : Decidable (OnTime late h t) := by
  unfold OnTime
  infer_instance

/-- every abort of the run is on time -/
abbrev AllOnTime (late : TravelPhase → Prop) (c : Run) (acts : List HostAct) : Prop :=
  Pool.AllAdmitted handle enabled (OnTime late) c acts

/-- a travel that is finished at some moment of the run is in the same phase whenever it is seen later -/
def Final (c : Run) (acts : List HostAct) : Prop :=
  ∀ pre post, acts = pre ++ post → ∀ t t', (runFrom c pre).state.session.travel.current = some t →
    t.phase.finished = true → (runFrom c acts).state.session.travel.current = some t' → t'.epoch = t.epoch →
      t'.phase = t.phase

/-- an epoch is resumed or aborted, never both -/
def Exclusive (log : List Out) : Prop := ∀ epoch, ∀ p ∈ outcomes log epoch, ∀ q ∈ outcomes log epoch, p = q

/-- the invariant, and what every later part of the run may still do -/
theorem ending_run {late : TravelPhase → Prop} {c : Run} (h : Pool.Inv (Ending late) (fun m _ => m.elim) c)
    (hlate : late .complete) {acts : List HostAct} (hacts : AllOnTime late c acts) :
    Onward c.state.session.travel (runFrom c acts).state.session.travel ∧
      Pool.Inv (Ending late) (fun m _ => m.elim) (runFrom c acts) := by
  refine (passage_ending late).run (fun h t payload _ hok hasks h' reason htravel hi' => ?_) h acts hacts
  refine wp_travelAbort hlate reason hi' fun txn ht => ?_
  rw [htravel] at ht
  exact hok payload hasks txn ht

theorem ending_started (late : TravelPhase → Prop) (playerId displayName sessionId : String)
    (manifest : CompatibilityManifest) (nativeRequired : Bool) (commands : NetworkedCommandRouter) :
    Pool.Inv (Ending late) (fun m _ => m.elim)
      (started playerId displayName sessionId manifest nativeRequired commands) := by
  refine Pool.inv_init ⟨by rw [init_travel]; exact Travel.inv_init, ?_, ?_, ?_, ?_⟩ fun m => m.elim
  · exact fun _ _ => rfl
  · exact fun p hp => absurd hp List.not_mem_nil
  · exact fun e p hp => absurd hp List.not_mem_nil
  · exact fun _ _ => Nat.zero_le 1

/-- **One outcome.** In every run in which no abort comes in for a completed travel, complete and aborted are final and
each epoch is resumed or aborted, never both; when no abort comes in for a finished travel, the end of each epoch is
announced once at most. -/
theorem one_outcome (playerId displayName sessionId : String) (manifest : CompatibilityManifest) (nativeRequired : Bool)
    (commands : NetworkedCommandRouter) (acts : List HostAct) :
    let start := started playerId displayName sessionId manifest nativeRequired commands
    (AllOnTime (· = .complete) start acts → Final start acts ∧ Exclusive (runFrom start acts).state.log) ∧
      (AllOnTime (·.finished = true) start acts → ∀ epoch, (outcomes (runFrom start acts).state.log epoch).length ≤ 1) := by
  intro start
  have h₀ : ∀ late, Pool.Inv (Ending late) (fun m _ => m.elim) start := fun late =>
    ending_started late playerId displayName sessionId manifest nativeRequired commands
  refine ⟨fun hacts => ⟨?_, (ending_run (h₀ (· = .complete)) rfl hacts).2.state.single⟩,
    fun hacts => (ending_run (h₀ (·.finished = true)) rfl hacts).2.state.once rfl⟩
  rintro pre post rfl t t' ht hf ht' he
  obtain ⟨hpre, hpost⟩ := Pool.allAdmitted_append hacts
  obtain ⟨-, hmid⟩ := ending_run (h₀ (· = .complete)) rfl hpre
  obtain ⟨honward, hend⟩ := ending_run hmid rfl hpost
  have happend : runFrom start (pre ++ post) = runFrom (runFrom start pre) post := Pool.run_append start pre post
  rw [happend] at ht'
  have hepoch : (runFrom (runFrom start pre) post).state.session.travel.epoch =
      (runFrom start pre).state.session.travel.epoch := by
    calc (runFrom (runFrom start pre) post).state.session.travel.epoch
        = t'.epoch := (hend.state.coordinator.epoch t' ht').symm
      _ = t.epoch := he
      _ = (runFrom start pre).state.session.travel.epoch := hmid.state.coordinator.epoch t ht
  obtain ⟨t'', ht'', hphase⟩ := honward.final hepoch t ht hf
  rw [ht'] at ht''
  cases ht''
  exact hphase

/-- a client joins and asks for a travel; both games are ready and in the zone -/
def travelHere : List HostAct :=
  let txn : Json := .obj [("txn_id", .str (uuid4 1)), ("epoch", .int 1)]
  [joins 1 "alice", goesOn, sends 1 "alice" .travelRequest (.obj [("zone_id", .str "5")]), goesOn,
    sends 1 "alice" .travelReady txn, plays .travelReady txn, goesOn, goesOn, plays .travelZoneReady txn,
    sends 1 "alice" .travelZoneReady txn, goesOn]

/-- the client gives the travel up -/
def givesUp : HostAct := sends 1 "alice" .travelAbort (.obj [("epoch", .int 1)])

theorem one_outcome_travel :
    outcomes (runFrom lanHost travelHere).state.log 1 = [.complete] ∧
      (Final lanHost travelHere ∧ Exclusive (runFrom lanHost travelHere).state.log) ∧
      outcomes (runFrom lanHost (travelHere.take 4 ++ [givesUp])).state.log 1 = [.aborted] ∧
      ∀ epoch, (outcomes (runFrom lanHost (travelHere.take 4 ++ [givesUp])).state.log epoch).length ≤ 1 := by
  have hdone : AllOnTime (· = .complete) lanHost travelHere := by decide +kernel
  have haborted : AllOnTime (·.finished = true) lanHost (travelHere.take 4 ++ [givesUp]) := by decide +kernel
  refine ⟨by decide +kernel, ?_, by decide +kernel, ?_⟩
  · rw [lanHost] at hdone ⊢
    exact (one_outcome "host" "Host" "session" (lanManifest "host") false .init travelHere).1 hdone
  · rw [lanHost] at haborted ⊢
    exact (one_outcome "host" "Host" "session" (lanManifest "host") false .init
      (travelHere.take 4 ++ [givesUp])).2 haborted

/-- after `travel.resume` the abort is announced as well -/
theorem late_abort : ¬ (Final lanHost (travelHere ++ [givesUp]) ∧
    Exclusive (runFrom lanHost (travelHere ++ [givesUp])).state.log) := by
  rintro ⟨-, h⟩
  have hboth : outcomes (runFrom lanHost (travelHere ++ [givesUp])).state.log 1 = [.aborted, .complete] := by
    decide +kernel
  have hne := h 1 .aborted (by rw [hboth]; decide) .complete (by rw [hboth]; decide)
  cases hne

end Host

end KerMP
