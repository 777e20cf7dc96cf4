/-
Travels and what is announced of them (`TravelCoordinator` of `kermp/travel.py`, `HostRuntime._travel_ready` and
`_travel_zone_ready` of `kermp/runtime.py`): what is claimed of a run, and the invariant.

A travel passes its two barriers, the commit and the resume, in two ways: by the last acknowledgement, whose handler
announces it, or by the departure of the last player who was waited for (`remove_participant`), which announces
nothing. `Undisturbed` leaves the second way out, and with it the announcements that do not get through.

Under the discipline `Heralding` a handler owns each barrier it has met, and nobody else announces it: `Phased` says
what holds of the barriers that nobody has met, `Discharged` what the handler owes for one that it has.
-/
import KerMP.Host.Relay

namespace KerMP

open Py

namespace Travel

open TravelCoordinator

/-- the commit is behind the transaction, and so is its announcement -/
def TravelPhase.pastCommit : TravelPhase → Bool
  | .waitingZoneReady | .complete | .aborted => true
  | _ => false

/-- the same travel later on, or a newer one -/
structure Continues (t t' : TravelTxn) : Prop where
  epoch : t.epoch ≤ t'.epoch
  same : t'.epoch = t.epoch → t'.txnId = t.txnId ∧ t'.zoneId = t.zoneId ∧ t'.actorIds = t.actorIds
  participants : t'.epoch = t.epoch → t'.participants ⊆ t.participants
  pastCommit : t'.epoch = t.epoch → t.phase.pastCommit = true → t'.phase.pastCommit = true

theorem Continues.refl (t : TravelTxn) : Continues t t :=
  ⟨le_rfl, fun _ => ⟨rfl, rfl, rfl⟩, fun _ => subset_rfl, fun _ => id⟩

theorem Continues.trans {a b c : TravelTxn} (h : Continues a b) (h' : Continues b c) : Continues a c := by
  have hepochs : c.epoch = a.epoch → b.epoch = a.epoch ∧ c.epoch = b.epoch := fun e => by
    have := h.epoch
    have := h'.epoch
    omega
  refine ⟨h.epoch.trans h'.epoch, fun e => ?_, fun e => ?_, fun e hp => ?_⟩
  · obtain ⟨h1, h2, h3⟩ := h.same (hepochs e).1
    obtain ⟨h1', h2', h3'⟩ := h'.same (hepochs e).2
    exact ⟨h1'.trans h1, h2'.trans h2, h3'.trans h3⟩
  · exact (h'.participants (hepochs e).2).trans (h.participants (hepochs e).1)
  · exact h'.pastCommit (hepochs e).2 (h.pastCommit (hepochs e).1 hp)

/-- a change of the current transaction leaves its name, adds no participant and does not undo its commit -/
theorem continues_of_phase {t t' : TravelTxn} (he : t'.epoch = t.epoch) (hid : t'.txnId = t.txnId)
    (hz : t'.zoneId = t.zoneId) (ha : t'.actorIds = t.actorIds) (hp : t'.participants ⊆ t.participants)
    (hphase : t.phase.pastCommit = true → t'.phase.pastCommit = true) : Continues t t' :=
  ⟨he.ge, fun _ => ⟨hid, hz, ha⟩, fun _ => hp, fun _ => hphase⟩

theorem Change.continues {c c' : TravelCoordinator} {o : Op} (h : Change c o c')
    (hepoch : ∀ t, c.current = some t → t.epoch = c.epoch) {t : TravelTxn} (ht : c.current = some t) :
    ∃ t', c'.current = some t' ∧ Continues t t' := by
  have hpast : ∀ {ph : TravelPhase}, (ph = .committed ∨ ph = .waitingZoneReady) → ph.finished = false := by
    rintro ph (rfl | rfl) <;> rfl
  cases h with
  | same => exact ⟨t, ht, .refl t⟩
  | propose z as ps u ha hp =>
    have he := hepoch t ht
    refine ⟨_, rfl, ⟨?_, fun e => ?_, fun e => ?_, fun e => ?_⟩⟩
    · show t.epoch ≤ c.epoch + 1
      omega
    all_goals
      have e : c.epoch + 1 = t.epoch := e
      omega
  | ready t₀ p ht₀ hw hr | commit t₀ p ht₀ hw hr =>
    rw [ht₀] at ht
    cases ht
    exact ⟨_, rfl, continues_of_phase rfl rfl rfl rfl subset_rfl fun h => by rw [hw] at h; cases h⟩
  | zoneWait t₀ ht₀ hp | zoneReady t₀ p ht₀ hp hz | complete t₀ p ht₀ hp hz | abort t₀ ht₀ =>
    rw [ht₀] at ht
    cases ht
    exact ⟨_, rfl, continues_of_phase rfl rfl rfl rfl subset_rfl fun _ => rfl⟩
  | leave t₀ p ht₀ hf =>
    obtain rfl : t₀ = t := Option.some.inj (ht₀.symm.trans ht)
    refine ⟨_, rfl, continues_of_phase rfl rfl rfl rfl (Finset.erase_subset p _) fun h => ?_⟩
    obtain ⟨hw, -, -⟩ | ⟨-, -, he⟩ | ⟨he, -, -⟩ := phaseAfterLeave_cases (t₀.without p)
    · have hw : t₀.phase = .waitingReady := hw
      rw [hw] at h
      cases h
    · rw [he]; rfl
    · rw [he]; exact h

end Travel

namespace Host

open Coop
open Coro hiding pure get modify
open Travel (TravelTxn TravelCoordinator TravelPhase Continues)
open Travel.TravelCoordinator (phaseAfterLeave)

/-! ## What is claimed of a run -/

/-- the message that announces a barrier -/
def Barrier.type : Barrier → MessageType
  | .commit => .travelCommit
  | .resume => .travelResume

def Barrier.payload (t : TravelTxn) : Barrier → Json
  | .commit => commitPayload t
  | .resume => resumePayload t.txnId t.epoch

/-- the phases behind a barrier -/
def Barrier.passed : Barrier → TravelPhase → Bool
  | .commit, .committed | .commit, .waitingZoneReady | _, .complete => true
  | _, _ => false

/-- the payload of an announcement for this epoch -/
def announcement (b : Barrier) (epoch : ℤ) (type : MessageType) (payload : Json) : Option Json :=
  if type = b.type ∧ intField payload "epoch" (-1) = .ok epoch then some payload else none

/-- the announcements for an epoch that were written to a player -/
def toldPlayer (b : Barrier) (epoch : ℤ) (player : String) (log : List Out) : List Json :=
  log.filterMap fun
    | .wrote p _ env => if p = player then announcement b epoch env.type env.payload else none
    | _ => none

/-- those that the host's game took -/
def toldGame (b : Barrier) (epoch : ℤ) (log : List Out) : List Json :=
  log.filterMap fun
    | .bridge true type payload => announcement b epoch type payload
    | _ => none

/-- the player has left this travel -/
def Out.parts (epoch : ℤ) (player : String) : Out → Bool
  | .left p (some t) => p = player && t.epoch = epoch
  | _ => false

def StillIn (log : List Out) (epoch : ℤ) (p : String) : Prop := ∀ o ∈ log, o.parts epoch p = false

instance (log : List Out) (epoch : ℤ) (p : String) : Decidable (StillIn log epoch p) :=
  inferInstanceAs (Decidable (∀ o ∈ log, _))

/-- the announcements of a barrier have gone out once to all who remain, or not at all -/
def Announced (h : Host) (t : TravelTxn) (b : Barrier) : Prop :=
  toldGame b t.epoch h.log = (if b.passed t.phase then [b.payload t] else []) ∧
    ∀ p ∈ t.participants, StillIn h.log t.epoch p → p ≠ h.playerId →
      toldPlayer b t.epoch p h.log = if b.passed t.phase then [b.payload t] else []

instance (h : Host) (t : TravelTxn) (b : Barrier) : Decidable (Announced h t b) := instDecidableAnd

/-- the phase of a travel that is not aborted is the one that has been announced -/
def PhaseAnnounced (h : Host) : Prop :=
  ∀ t ∈ h.session.travel.current, t.phase ≠ .aborted →
    t.phase ≠ .committed ∧ Announced h t .commit ∧ Announced h t .resume

instance (h : Host) : Decidable (PhaseAnnounced h) := by
  unfold PhaseAnnounced
  infer_instance

/-- the broadcast with this number follows a met commit barrier -/
def Out.commits (seq : ℕ) : Out → Bool
  | .met .commit _ n => n = seq
  | _ => false

/-- a departure that completes a barrier, an announcement cut short, or one that the host's game did not take -/
def Out.disturbs (log : List Out) : Out → Prop
  | .left p (some t) => phaseAfterLeave (t.without p) ≠ t.phase
  | .cut type seq =>
    type = .travelCommit ∨ type = .travelResume ∨ type = .travelViewBatch ∧ ∃ o ∈ log, o.commits seq = true
  | .bridge delivered type _ => delivered = false ∧ (type = .travelCommit ∨ type = .travelResume)
  | _ => False

instance (log : List Out) (o : Out) : Decidable (o.disturbs log) := by
  unfold Out.disturbs
  split <;> infer_instance

def Undisturbed (log : List Out) : Prop := ∀ o ∈ log, ¬ o.disturbs log

instance (log : List Out) : Decidable (Undisturbed log) := inferInstanceAs (Decidable (∀ o ∈ log, _))


/-! ## Entries that announce nothing -/

/-- an entry that neither meets a barrier nor announces one -/
def Out.aloof : Out → Bool
  | .met _ _ _ => false
  | .wrote _ _ env => env.type ≠ .travelCommit && env.type ≠ .travelResume
  | .bridge _ type _ => type ≠ .travelCommit && type ≠ .travelResume
  | _ => true

/-- no such barrier has been met -/
def Free (m : Barrier × ℤ) (h : Host) : Prop := ∀ seq, .met m.1 m.2 seq ∉ h.log

theorem announcement_of_ne {type : MessageType} (hc : type ≠ .travelCommit) (hr : type ≠ .travelResume) (b : Barrier)
    (epoch : ℤ) (payload : Json) : announcement b epoch type payload = none := by
  cases b with
  | commit => exact if_neg fun h => hc h.1
  | resume => exact if_neg fun h => hr h.1

theorem aloof_of_topic {o : Out} (hc : o.topic ≠ .commit) (hr : o.topic ≠ .resume) : o.aloof = true := by
  cases o with
  | met b epoch seq =>
    cases b with
    | commit => exact absurd rfl hc
    | resume => exact absurd rfl hr
  | wrote player conn env =>
    have hc : env.type ≠ .travelCommit := fun h => hc (by rw [Out.topic, h]; rfl)
    have hr : env.type ≠ .travelResume := fun h => hr (by rw [Out.topic, h]; rfl)
    simp [Out.aloof, hc, hr]
  | bridge delivered type payload =>
    have hc : type ≠ .travelCommit := fun h => hc (by rw [Out.topic, h]; rfl)
    have hr : type ≠ .travelResume := fun h => hr (by rw [Out.topic, h]; rfl)
    simp [Out.aloof, hc, hr]
  | _ => rfl

theorem toldPlayer_append {os : List Out} (hos : ∀ o ∈ os, o.aloof = true) (log : List Out) (b : Barrier) (epoch : ℤ)
    (player : String) :
    toldPlayer b epoch player (os ++ log) = toldPlayer b epoch player log := by
  rw [toldPlayer, List.filterMap_append, List.filterMap_eq_nil_iff.2, List.nil_append, toldPlayer]
  intro o ho
  have h := hos o ho
  cases o with
  | wrote p conn env =>
    simp only [Out.aloof, Bool.and_eq_true, decide_eq_true_eq] at h
    simp [announcement_of_ne h.1 h.2]
  | _ => rfl

theorem toldGame_append {os : List Out} (hos : ∀ o ∈ os, o.aloof = true) (log : List Out) (b : Barrier) (epoch : ℤ) :
    toldGame b epoch (os ++ log) = toldGame b epoch log := by
  rw [toldGame, List.filterMap_append, List.filterMap_eq_nil_iff.2, List.nil_append, toldGame]
  intro o ho
  have h := hos o ho
  cases o with
  | bridge delivered type payload =>
    simp only [Out.aloof, Bool.and_eq_true, decide_eq_true_eq] at h
    cases delivered <;> simp [announcement_of_ne h.1 h.2]
  | _ => rfl

theorem met_mem_append {os : List Out} (hos : ∀ o ∈ os, o.aloof = true) (log : List Out) {b : Barrier} {epoch : ℤ}
    {seq : ℕ} :
    .met b epoch seq ∈ os ++ log ↔ .met b epoch seq ∈ log := by
  rw [List.mem_append]
  refine or_iff_right fun h => ?_
  have := hos _ h
  cases this


/-! ## The invariant -/

def Disturbed (log : List Out) : Prop := ∃ o ∈ log, o.disturbs log

theorem Out.disturbs.mono {o : Out} {log log' : List Out} (h : o.disturbs log) (hl : log ⊆ log') : o.disturbs log' := by
  unfold Out.disturbs at h ⊢
  split
  · exact h
  · exact h.imp_right fun h => h.imp_right fun h => ⟨h.1, h.2.imp fun o ho => ⟨hl ho.1, ho.2⟩⟩
  · exact h
  · simp at h

theorem Disturbed.mono {log log' : List Out} (h : Disturbed log) (hl : log ⊆ log') : Disturbed log' := by
  obtain ⟨o, ho, hd⟩ := h
  exact ⟨o, hl ho, hd.mono hl⟩

/-- what the others see of a step -/
structure Onwards (h h' : Host) : Prop where
  log : h.log <:+ h'.log
  playerId : h'.playerId = h.playerId
  travel : ∀ t, h.session.travel.current = some t → ∃ t', h'.session.travel.current = some t' ∧ Continues t t'

theorem Onwards.refl (h : Host) : Onwards h h := ⟨List.suffix_rfl, rfl, fun t ht => ⟨t, ht, .refl t⟩⟩

theorem Onwards.trans {a b c : Host} (h : Onwards a b) (h' : Onwards b c) : Onwards a c := by
  refine ⟨h.log.trans h'.log, h'.playerId.trans h.playerId, fun t ht => ?_⟩
  obtain ⟨t', ht', hc⟩ := h.travel t ht
  obtain ⟨t'', ht'', hc'⟩ := h'.travel t' ht'
  exact ⟨t'', ht'', hc.trans hc'⟩

/-- no announcement without a met barrier, no met barrier without the phase behind it, and, unless a departure has
passed a barrier, no phase without its barriers met; the participants who remain are here -/
structure Phased (h : Host) : Prop where
  coordinator : Travel.Inv h.session.travel
  met : ∀ b e seq, .met b e seq ∈ h.log → e ≤ h.session.travel.epoch
  untold : ∀ b e, Free (b, e) h → toldGame b e h.log = [] ∧ ∀ p, toldPlayer b e p h.log = []
  unmet : ∀ t, h.session.travel.current = some t → t.phase ≠ .aborted → ∀ b : Barrier, b.passed t.phase = false →
    Free (b, t.epoch) h
  passed : Disturbed h.log ∨ ∀ t, h.session.travel.current = some t → ∀ b : Barrier, b.passed t.phase = true →
    ¬ Free (b, t.epoch) h
  players : ∀ p ∈ h.session.players, p = h.playerId ∨ p ∈ h.peers
  present : ∀ t, h.session.travel.current = some t → ∀ p ∈ t.participants, StillIn h.log t.epoch p →
    p = h.playerId ∨ p ∈ h.peers

/-- the announcements of a barrier, made to all who remain but those in `rest` -/
structure Heralded (b : Barrier) (t : TravelTxn) (rest : List String) (h : Host) : Prop where
  game : toldGame b t.epoch h.log = [b.payload t]
  players : ∀ p ∈ t.participants, StillIn h.log t.epoch p → p ≠ h.playerId →
    toldPlayer b t.epoch p h.log = if p ∈ rest then [] else [b.payload t]

/-- a barrier that has been met has been announced, unless there was a disturbance -/
def Discharged (m : Barrier × ℤ) (h : Host) : Prop :=
  Disturbed h.log ∨ ∃ t, h.session.travel.current = some t ∧
    (m.2 < t.epoch ∨ m.2 = t.epoch ∧ t.phase.pastCommit = true ∧ Heralded m.1 t [] h)

/-- the announcements of a met barrier are left to the handler that has met it -/
def Heralding : Discipline Host (Barrier × ℤ) where
  inv := Phased
  guar := Onwards
  rely := Onwards
  free := Free
  keeps m h h' := toldGame m.1 m.2 h'.log = toldGame m.1 m.2 h.log ∧
    ∀ p, toldPlayer m.1 m.2 p h'.log = toldPlayer m.1 m.2 p h.log

theorem Free.of_suffix {m : Barrier × ℤ} {h h' : Host} (hf : Free m h') (hl : h.log <:+ h'.log) : Free m h :=
  fun seq hm => hf seq (hl.subset hm)

theorem heralding_lawful : Heralding.Lawful where
  refl := Onwards.refl
  guar_refl := Onwards.refl
  trans _ _ _ := Onwards.trans
  guar_rely _ _ h := h
  keeps_refl _ _ := ⟨rfl, fun _ => rfl⟩
  keeps_trans _ _ _ _ h h' := ⟨h'.1.trans h.1, fun p => (h'.2 p).trans (h.2 p)⟩
  taken _ _ _ h hf := hf.of_suffix h.log

theorem StillIn.of_suffix {log log' : List Out} {e : ℤ} {p : String} (h : StillIn log' e p) (hl : log <:+ log') :
    StillIn log e p := fun o ho => h o (hl.subset ho)

theorem payload_of_continues {t t' : TravelTxn} (h : Continues t t') (he : t'.epoch = t.epoch) (b : Barrier) :
    b.payload t' = b.payload t := by
  obtain ⟨hid, hz, ha⟩ := h.same he
  cases b with
  | commit => simp only [Barrier.payload, commitPayload, hid, hz, ha, he]
  | resume => simp only [Barrier.payload, hid, he]

/-- what has been told stays told while the others go on -/
theorem Heralded.stable {b : Barrier} {t t' : TravelTxn} {rest : List String} {h h' : Host} (hi : Heralded b t rest h)
    (hc : Continues t t') (he : t'.epoch = t.epoch) (hr : Onwards h h') (hk : Heralding.keeps (b, t.epoch) h h') :
    Heralded b t' rest h' := by
  have hpayload := payload_of_continues hc he b
  refine ⟨?_, fun p hp hrem hne => ?_⟩
  · rw [he, hpayload]
    exact hk.1.trans hi.game
  · rw [he] at hrem ⊢
    rw [hpayload]
    rw [hr.playerId] at hne
    exact (hk.2 p).trans (hi.players p (hc.participants he hp) (hrem.of_suffix hr.log) hne)

theorem discharged_stable (m : Barrier × ℤ) (h h' : Host) (hk : Heralding.keeps m h h') (hr : Heralding.rely h h')
    (hs : Discharged m h) : Discharged m h' := by
  rcases hs with hd | ⟨t, ht, hs⟩
  · exact Or.inl (hd.mono hr.log.subset)
  obtain ⟨t', ht', hc⟩ := hr.travel t ht
  refine Or.inr ⟨t', ht', ?_⟩
  rcases hs with hlt | ⟨he, hp, htold⟩
  · exact Or.inl (hlt.trans_le hc.epoch)
  rcases hc.epoch.lt_or_eq with hlt | heq
  · exact Or.inl (he ▸ hlt)
  · refine Or.inr ⟨he.trans heq, hc.pastCommit heq.symm hp, htold.stable hc heq.symm hr ?_⟩
    rw [← he]
    exact hk

/-! ## Steps -/

/-- what a call on the coordinator does to the phase of the travel -/
def Advances (log : List Out) (p p' : TravelPhase) : Prop :=
  (p' ≠ .aborted → p ≠ .aborted ∧ ∀ b : Barrier, b.passed p' = false → b.passed p = false) ∧
    (Disturbed log ∨ ∀ b : Barrier, b.passed p' = true → b.passed p = true)

theorem advances_refl (log : List Out) (p : TravelPhase) : Advances log p p :=
  ⟨fun h => ⟨h, fun _ => id⟩, Or.inr fun _ => id⟩

theorem advances_aborted (log : List Out) (p : TravelPhase) : Advances log p .aborted :=
  ⟨fun h => absurd rfl h, Or.inr fun b hb => by cases b <;> cases hb⟩

theorem advances_waiting (log : List Out) {p : TravelPhase} (hp : p = .committed ∨ p = .waitingZoneReady) :
    Advances log p .waitingZoneReady := by
  rcases hp with rfl | rfl
  · exact ⟨fun _ => ⟨by decide, fun b => by cases b <;> decide⟩, Or.inr fun b => by cases b <;> decide⟩
  · exact advances_refl log _

/-- a departure passes a barrier, which is a disturbance, or leaves the phase -/
theorem advances_leave {log : List Out} {t : TravelTxn} (hf : t.phase.finished = false) {p : String}
    (hlog : .left p (some t) ∈ log) : Advances log t.phase (phaseAfterLeave (t.without p)) := by
  by_cases hsame : phaseAfterLeave (t.without p) = t.phase
  · rw [hsame]
    exact advances_refl log _
  have hd : Disturbed log := ⟨_, hlog, hsame⟩
  have hna : t.phase ≠ .aborted := fun h => by rw [h] at hf; cases hf
  obtain ⟨hw, -, he⟩ | ⟨hw, -, he⟩ | ⟨he, -⟩ := Travel.phaseAfterLeave_cases (t.without p)
  · have hw : t.phase = .waitingReady := hw
    rw [he, hw]
    exact ⟨fun _ => ⟨by decide, fun b => by cases b <;> decide⟩, Or.inl hd⟩
  · have hw : t.phase = .waitingZoneReady := hw
    rw [he, hw]
    exact ⟨fun _ => ⟨by decide, fun b => by cases b <;> decide⟩, Or.inl hd⟩
  · exact absurd he hsame

/-- the travel after a call is a new one, or the one before -/
theorem current_cases {c c' : TravelCoordinator} {o : Travel.Op} (hc : Travel.Change c o c') {t' : TravelTxn}
    (ht' : c'.current = some t') : (t'.epoch = c.epoch + 1 ∧ t'.phase = .waitingReady) ∨
      c'.epoch = c.epoch ∧ ∃ t, c.current = some t ∧ t'.epoch = t.epoch := by
  cases hc with
  | same => exact Or.inr ⟨rfl, t', ht', rfl⟩
  | propose => cases ht'; exact Or.inl ⟨rfl, rfl⟩
  | ready t p ht | commit t p ht | zoneWait t ht | zoneReady t p ht | complete t p ht | abort t ht | leave t p ht =>
    cases ht'
    exact Or.inr ⟨rfl, t, ht, rfl⟩

theorem epoch_le_of_change {c c' : TravelCoordinator} {o : Travel.Op} (hc : Travel.Change c o c') :
    c.epoch ≤ c'.epoch := by
  cases hc with
  | propose => exact Int.le_add_one le_rfl
  | _ => exact le_rfl

/-- what a step that neither meets a barrier nor announces one comes to -/
def Aloof (h h' : Host) : Prop :=
  Heralding.guar h h' ∧ (∀ m, Heralding.keeps m h h') ∧ (∀ m, Free m h → Free m h') ∧ Phased h'

/-- a step that neither meets a barrier nor announces one -/
theorem Phased.step {h h' : Host} (hi : Phased h) (os : List Out) (hlog : h'.log = os ++ h.log)
    (hos : ∀ o ∈ os, o.aloof = true) (hid : h'.playerId = h.playerId) {o : Travel.Op}
    (hc : Travel.Change h.session.travel o h'.session.travel)
    (hphase : ∀ t t', h.session.travel.current = some t → h'.session.travel.current = some t' → t'.epoch = t.epoch →
      Advances h'.log t.phase t'.phase)
    (hplayers : ∀ p ∈ h'.session.players, p = h.playerId ∨ p ∈ h'.peers)
    (hpresent : ∀ t', h'.session.travel.current = some t' → ∀ p ∈ t'.participants, StillIn h'.log t'.epoch p →
      p = h.playerId ∨ p ∈ h'.peers) :
    Aloof h h' := by
  have hfree : ∀ m, Free m h' ↔ Free m h := fun m => by
    simp only [Free, hlog, met_mem_append hos]
  have hgame : ∀ b e, toldGame b e h'.log = toldGame b e h.log := fun b e => by rw [hlog, toldGame_append hos]
  have hplayer : ∀ b e p, toldPlayer b e p h'.log = toldPlayer b e p h.log := fun b e p => by
    rw [hlog, toldPlayer_append hos]
  refine ⟨⟨⟨os, hlog.symm⟩, hid, fun t ht => hc.continues hi.coordinator.epoch ht⟩,
    fun m => ⟨hgame _ _, hplayer _ _⟩, fun m => (hfree m).2, ?_⟩
  refine ⟨hc.inv hi.coordinator, fun b e seq hm => ?_, fun b e hf => ?_, fun t' ht' hna b hb => ?_, ?_, ?_, ?_⟩
  · rw [hlog, met_mem_append hos] at hm
    exact (hi.met b e seq hm).trans (epoch_le_of_change hc)
  · rw [hfree] at hf
    rw [hgame]
    exact ⟨(hi.untold b e hf).1, fun p => by rw [hplayer]; exact (hi.untold b e hf).2 p⟩
  · rw [hfree]
    rcases current_cases hc ht' with ⟨he, -⟩ | ⟨-, t, ht, he⟩
    · intro seq hm
      have := hi.met _ _ _ hm
      dsimp only at this
      omega
    · obtain ⟨hna', hmono⟩ := (hphase t t' ht ht' he).1 hna
      rw [he]
      exact hi.unmet t ht hna' b (hmono b hb)
  · rcases hi.passed with hd | hpassed
    · exact Or.inl (hd.mono (hlog ▸ List.subset_append_right os h.log))
    by_cases hd : Disturbed h'.log
    · exact Or.inl hd
    refine Or.inr fun t' ht' b hb => ?_
    rw [hfree]
    rcases current_cases hc ht' with ⟨-, hw⟩ | ⟨-, t, ht, he⟩
    · rw [hw] at hb
      cases b <;> cases hb
    · rw [he]
      exact hpassed t ht b (((hphase t t' ht ht' he).2.resolve_left hd) b hb)
  · rw [hid]
    exact hplayers
  · rw [hid]
    exact hpresent

/-- the steps that have nothing to do with the barriers -/
def unannounced : List Topic :=
  [.session, .member, .readiness, .travel, .lock, .build, .apply, .request, .status, .view, .clock]

theorem ne_topics {l : Label} (hl : l.topic ∈ unannounced) : l.topic ≠ .commit ∧ l.topic ≠ .resume := by
  constructor
  · exact ne_of_mem_of_not_mem hl (by decide)
  · exact ne_of_mem_of_not_mem hl (by decide)

theorem mem_of_keys {ν ω : Type} {d : Dict String ν} {d' : Dict String ω} (h : d'.keys = d.keys) {p : String} :
    p ∈ d' ↔ p ∈ d := by
  rw [AList.mem_keys, h, ← AList.mem_keys]

/-- a departure takes the player out of the peers and of those who remain -/
theorem Phased.drop {h : Host} (hi : Phased h) (player : String) :
    Aloof h (h.removed player) := by
  obtain ⟨hsession, htravel, -⟩ := HostSession.removePlayer_eq h.session player
  have hlog : (h.removed player).log = [.left player h.session.travel.current] ++ h.log := rfl
  have hc : Travel.Change h.session.travel (.removeParticipant player) (h.removed player).session.travel := by
    show Travel.Change _ _ (h.session.removePlayer player).travel
    rw [htravel]
    exact Travel.step_change h.session.travel (.removeParticipant player)
  refine hi.step [_] hlog (by simp [Out.aloof]) rfl hc (fun t t' ht ht' he => ?_) (fun p hp => ?_)
    fun t' ht' p hp hrem => ?_
  · generalize (h.removed player).session.travel = c' at hc ht'
    cases hc with
    | same =>
      rw [ht] at ht'
      cases ht'
      exact advances_refl _ _
    | leave t₀ _ ht₀ hf =>
      obtain rfl : t₀ = t := Option.some.inj (ht₀.symm.trans ht)
      cases ht'
      exact advances_leave hf (by rw [hlog, ht]; exact List.mem_cons_self)
  · have hp : p ∈ (h.session.removePlayer player).players := hp
    rw [hsession, AList.mem_erase] at hp
    exact (hi.players p hp.2).imp_right fun hmem => AList.mem_erase.2 ⟨hp.1, hmem⟩
  · obtain ⟨t, ht, he, hsub⟩ : ∃ t, h.session.travel.current = some t ∧ t'.epoch = t.epoch ∧
        t'.participants ⊆ t.participants := by
      generalize (h.removed player).session.travel = c' at hc ht'
      cases hc with
      | same => exact ⟨t', ht', rfl, subset_rfl⟩
      | leave t₀ _ ht₀ hf => cases ht'; exact ⟨t₀, ht₀, rfl, Finset.erase_subset _ _⟩
    have hne : p ≠ player := by
      rintro rfl
      have hleft := hrem (.left p h.session.travel.current) List.mem_cons_self
      rw [ht] at hleft
      simp [Out.parts, he] at hleft
    rw [he] at hrem
    have hrem' : StillIn h.log t.epoch p := hrem.of_suffix ⟨_, hlog.symm⟩
    exact (hi.present t ht p (hsub hp) hrem').imp_right fun hmem => AList.mem_erase.2 ⟨hne, hmem⟩

theorem Does.phased {l : Label} {h h' : Host} (d : Does l h h') (hl : l.topic ∈ unannounced) (hi : Phased h) :
    Aloof h h' := by
  obtain ⟨hcommit, hresume⟩ := ne_topics hl
  obtain ⟨os, hlog, htopic⟩ := d.log
  have hos : ∀ o ∈ os, o.aloof = true := fun o ho => by
    rw [← htopic o ho] at hcommit hresume
    exact aloof_of_topic hcommit hresume
  have hsuffix : h.log <:+ h'.log := ⟨os, hlog.symm⟩
  -- a step that leaves the travel
  have hstill : h'.session.travel = h.session.travel → (∀ p ∈ h'.session.players, p = h.playerId ∨ p ∈ h'.peers) →
      (∀ p ∈ h.peers, p ∈ h'.peers) →
      Aloof h h' := by
    intro htravel hplayers hpeers
    refine hi.step os hlog hos d.playerId (o := .abort "") (htravel ▸ .same _) (fun t t' ht ht' _ => ?_) hplayers
      fun t' ht' p hp hrem => ?_
    · rw [htravel, ht] at ht'
      cases ht'
      exact advances_refl _ _
    · rw [htravel] at ht'
      exact (hi.present t' ht' p hp (hrem.of_suffix hsuffix)).imp_right (hpeers p)
  by_cases hm : l.topic = .member
  · cases d with
    | join _ player name m conn new other =>
      have hcalm := HostSession.addPlayer_calm h.session player name m
      refine hstill hcalm.travel (fun p hp => ?_) fun p hp => AList.mem_setItem.2 (Or.inr hp)
      have hp : p ∈ h.session.players.setItem player ⟨player, name, none, none, {}⟩ := (mem_of_keys hcalm.players).1 hp
      rcases AList.mem_setItem.1 hp with rfl | hp'
      · exact Or.inr (AList.mem_setItem.2 (Or.inl rfl))
      · exact (hi.players p hp').imp_right fun h => AList.mem_setItem.2 (Or.inr h)
    | drop _ player => exact hi.drop player
    | note _ o =>
      exact hstill rfl hi.players fun _ hp => hp
    | _ => cases hm
  have hpeers := fun p => @mem_of_keys _ _ h.peers h'.peers (d.peers hm).1 p
  have hplayers : ∀ p ∈ h'.session.players, p = h.playerId ∨ p ∈ h'.peers := fun p hp =>
    (hi.players p ((mem_of_keys (d.players hm)).1 hp)).imp_right (hpeers p).2
  by_cases hpropose : l = .propose
  · subst hpropose
    cases d with
    | propose _ zoneId actorIds uuid e =>
      obtain ⟨-, -, rfl, rfl⟩ := Travel.propose_ok e
      have hc := Travel.step_change h.session.travel (.propose zoneId actorIds h.session.players.keys uuid)
      rw [Travel.step_ok (by rw [Travel.call, e]; rfl)] at hc
      refine hi.step os hlog hos rfl hc (fun t t' ht ht' he => ?_) hplayers fun t' ht' p hp _ => ?_
      · cases ht'
        have := hi.coordinator.epoch t ht
        have he : h.session.travel.epoch + 1 = t.epoch := he
        omega
      · cases ht'
        exact hi.players p (AList.mem_keys.2 (List.mem_toFinset.1 hp))
  by_cases habort : l = .abort
  · subst habort
    cases d with
    | abort _ txnId e =>
      obtain ⟨t₀, ht₀, rfl, rfl⟩ := Travel.abort_ok e
      refine hi.step os hlog hos rfl (.abort t₀ ht₀) (fun t t' ht ht' he => ?_) hplayers fun t' ht' p hp hrem => ?_
      · cases ht'
        exact advances_aborted _ _
      · cases ht'
        exact hi.present t₀ ht₀ p hp hrem
  rcases d.change with he | ⟨o, ho, -⟩
  · exact hstill he hplayers fun p => (hpeers p).2
  · cases l with
    | propose => exact absurd rfl hpropose
    | abort => exact absurd rfl habort
    | zoneWait | ackReady => exact absurd rfl hcommit
    | ackZone => exact absurd rfl hresume
    | drop => exact absurd rfl hm
    | _ => exact ho.elim

theorem follows_heralding : Follows Heralding unannounced where
  lawful := heralding_lawful
  session := by decide
  member := by decide
  lock := by decide
  clock := by decide
  readiness := by decide
  step _ _ _ hl d hi := d.phased hl hi

end Host

end KerMP
