/-
The view batch of a travel and its end (`travel.view_batch` and `travel.resume` of both runtimes).

While a travel is under way a client buffers view updates. It hands them out at `travel.resume`, but only if it has seen
the end of the batch before. The end comes from the host's game, as an event of its own; `_travel_zone_ready` completes
the travel at the last acknowledgement, whether or not the batch has ended.

Results:
- `resume_follows_acknowledgement`: in every run `travel.resume` is broadcast right after the acknowledgement that
  completes the travel.
- `batch_closed`: in every run in which the completing acknowledgements come after the end of the batch, each
  `travel.resume` is broadcast after the end of its batch and no later beginning; and a client that has handled the
  messages up to such a `travel.resume` knows its batch complete, and hands out what it has buffered.
- `resume_overtakes_end`: all games acknowledge before the host's game ends the batch.
-/
import KerMP.Batches
import KerMP.Host.ZoneBarrier

namespace KerMP

open Py

namespace Host

open Coop
open Coro hiding pure get modify
open Travel (TravelTxn TravelCoordinator addAck)

/-- the broadcasts, newest first -/
def broadcasts (log : List Out) : List (MessageType × Json) :=
  log.filterMap fun
    | .sending type payload _ _ => some (type, payload)
    | _ => none

/-! ## Completing acknowledgements -/

/-- the player's acknowledgement completes the travel -/
def Completes (payload : Json) (t : TravelTxn) (p : String) : Prop :=
  Answers payload t ∧ (t.phase = .committed ∨ t.phase = .waitingZoneReady) ∧
    addAck t.participants t.zoneReady p = t.participants

instance (payload : Json) (t : TravelTxn) (p : String) : Decidable (Completes payload t p) := instDecidableAnd

/-- the newest entry, if it is a completing acknowledgement, comes after the end of the batch -/
def AfterEnd : List Out → Prop
  | .zoneReady p payload (some t) :: older => Completes payload t p → Closed t.epoch (broadcasts older)
  | _ => True

instance (log : List Out) : Decidable (AfterEnd log) := by
  unfold AfterEnd
  split <;> infer_instance

/-- each completing acknowledgement comes after the end of the batch -/
def ClosedFirst (log : List Out) : Prop := ∀ l ∈ log.tails, AfterEnd l

instance (log : List Out) : Decidable (ClosedFirst log) := inferInstanceAs (Decidable (∀ l ∈ log.tails, AfterEnd l))

/-- what holds of the older log and the current travel at each broadcast of `travel.resume` -/
def AtResume (P : List Out → TravelTxn → Prop) (log : List Out) : Prop :=
  ∀ newer older payload seq travel, log = newer ++ .sending .travelResume payload seq travel :: older →
    ∃ t, travel = some t ∧ payload = resumePayload t.txnId t.epoch ∧ P older t

/-- the log since an acknowledgement that completed the travel -/
def JustCompleted (log : List Out) (t : TravelTxn) : Prop :=
  ∃ ok payload' seq p payload t' older, Completes payload t' p ∧ t'.epoch = t.epoch ∧
    log = .bridge ok .travelResume payload' :: .met .resume t.epoch seq :: .zoneReady p payload (some t') :: older

theorem atResume_cons {P : List Out → TravelTxn → Prop} {o : Out} {log : List Out} (ho : o.notResume)
    (h : AtResume P log) : AtResume P (o :: log) := by
  intro newer older payload seq travel hlog
  rcases List.cons_eq_append_iff.1 hlog with ⟨-, hhead⟩ | ⟨newer', -, htail⟩
  · cases hhead
    exact ho.elim
  · exact h newer' older payload seq travel htail

theorem atResume_append {P : List Out → TravelTxn → Prop} {os log : List Out} (hos : ∀ o ∈ os, o.topic ≠ .resume)
    (h : AtResume P log) : AtResume P (os ++ log) := by
  induction os with
  | nil => exact h
  | cons o os ih =>
    refine atResume_cons (notResume_of_topic (hos o List.mem_cons_self)) ?_
    exact ih fun x hx => hos x (List.mem_cons_of_mem o hx)

theorem atResume_sending {P : List Out → TravelTxn → Prop} {log : List Out} {t : TravelTxn} {seq : ℕ} (hP : P log t)
    (h : AtResume P log) :
    AtResume P (.sending .travelResume (resumePayload t.txnId t.epoch) seq (some t) :: log) := by
  intro newer older payload seq' travel hlog
  rcases List.cons_eq_append_iff.1 hlog with ⟨-, hhead⟩ | ⟨newer', -, htail⟩
  · cases hhead
    exact ⟨t, rfl, rfl, hP⟩
  · exact h newer' older payload seq' travel htail

/-! ## The invariant -/

/-- `travel.resume` goes out right after the acknowledgement that completes the travel -/
def Prompt (h : Host) : Prop := AtResume JustCompleted h.log

abbrev Promptness : Discipline Host Empty := Discipline.plain Prompt fun _ _ => True

theorem Does.prompt {l : Label} {h h' : Host} (d : Does l h h') (hl : l.topic ∈ unresumed) (hi : Prompt h) : Prompt h' := by
  obtain ⟨os, hlog, htopic⟩ := d.log
  rw [Prompt, hlog]
  refine atResume_append (fun o ho he => ?_) hi
  rw [← htopic o ho, he] at hl
  revert hl
  decide

theorem follows_promptness : Follows Promptness unresumed where
  lawful := Discipline.plain_lawful (fun _ => trivial) fun _ _ _ _ _ => trivial
  session := by decide
  member := by decide
  lock := by decide
  clock := by decide
  readiness := by decide
  step := fun _ _ _ hl d hi => ⟨trivial, fun m => m.elim, fun m => m.elim, d.prompt hl hi⟩

theorem Prompt.note {h : Host} (hi : Prompt h) {o : Out} (ho : o.notResume) : Prompt (h.note o) := atResume_cons ho hi

theorem Writes.prompt {type : MessageType} {h h' : Host} (w : Writes type h h') (hi : Prompt h) : Prompt h' := by
  rcases w with rfl | ⟨seq, rfl⟩ | ⟨player, conn, env, -, rfl⟩
  · exact hi
  · exact hi.note trivial
  · exact hi.note trivial

/-- the last thing that happened is an acknowledgement that completed the current travel -/
def CompletedNow (h : Host) (txnId : String) (epoch : ℤ) : Prop :=
  ∃ t seq p payload t' older, h.session.travel.current = some t ∧ t.txnId = txnId ∧ t.epoch = epoch ∧
    Completes payload t' p ∧ t'.epoch = epoch ∧
    h.log = .met .resume epoch seq :: .zoneReady p payload (some t') :: older

theorem ackZone_prompt {h : Host} {t : TravelTxn} {player txnId : String} {payload : Json} (hi : Prompt h)
    (hcur : h.session.travel.current = some t) (htxn : strField payload "txn_id" = .ok txnId)
    (hepoch : intField payload "epoch" (-1) = .ok t.epoch)
    (hhead : h.log.head? = some (.zoneReady player payload (some t))) :
    Prompt (h.ackZone player txnId t.epoch).2 ∧
      ((h.ackZone player txnId t.epoch).1 = .ok true → CompletedNow (h.ackZone player txnId t.epoch).2 txnId t.epoch) := by
  rcases ackZone_cases h player txnId t.epoch with ⟨c, hm, e⟩ | ⟨c, hm, e⟩ | ⟨exc, hm, e⟩
  · refine ⟨by rw [e]; exact atResume_cons trivial hi, fun _ => ?_⟩
    obtain ⟨older, holder⟩ : ∃ older, h.log = .zoneReady player payload (some t) :: older := by
      rcases hl : h.log with _ | ⟨o, older⟩
      · rw [hl] at hhead; cases hhead
      · rw [hl] at hhead; cases hhead; exact ⟨older, rfl⟩
    obtain ⟨hfalse, -⟩ | ⟨t', ht', hid, -, hphase, ⟨-, hall, hc⟩ | ⟨hfalse, -⟩⟩ := Travel.markZoneReady_ok hm
    · cases hfalse
    · rw [hcur] at ht'
      cases ht'
      refine ⟨{ t with zoneReady := addAck t.participants t.zoneReady player, phase := .complete }, h.seq + 1, player,
        payload, t, older, by rw [e, hc]; rfl, hid, rfl, ⟨⟨hid ▸ htxn, hepoch⟩, hphase, hall⟩, rfl, ?_⟩
      rw [e, ← holder]
      rfl
    · cases hfalse
  · refine ⟨by rw [e]; exact hi, fun htrue => ?_⟩
    rw [e] at htrue
    cases htrue
  · refine ⟨by rw [e]; exact hi, fun htrue => ?_⟩
    rw [e] at htrue
    cases htrue

theorem wp_announceResume_prompt {own : Set Empty} {h : Host} {txnId : String} {epoch : ℤ} (hi : Prompt h)
    (hc : CompletedNow h txnId epoch) :
    wp Promptness own (announceResume txnId epoch) (Ends Promptness fun m _ => m.elim) h := by
  obtain ⟨t, seq, p, payload, t', older, ht, rfl, rfl, hcompletes, he, hlog⟩ := hc
  simp only [announceResume, bridgeSend, wp_bind, wp_askEnv, wp_call, andThen_ok, Discipline.may_plain]
  intro a
  refine ⟨trivial, follows_promptness.broadcast (fun h h' w hi => ⟨trivial, w.prompt hi⟩) (hi.note trivial) ?_⟩
  intro h' _ hlog' hi'
  refine ⟨trivial, ?_⟩
  show AtResume JustCompleted (.sending .travelResume (resumePayload t.txnId t.epoch) _ h.session.travel.current :: h'.log)
  rw [ht]
  refine atResume_sending ?_ hi'
  rw [hlog']
  exact ⟨_, _, seq, p, payload, t', older, hcompletes, he, by rw [note, hlog]⟩

theorem settles_zoneReady_prompt (player : String) (payload : Json) :
    Settles Promptness (fun m _ => m.elim) (travelZoneReady player payload) := by
  refine settles_zoneReady CompletedNow (fun _ => trivial) ?_ ?_ ?_ player payload
  · exact fun h player payload travel hi => ⟨trivial, hi.note trivial⟩
  · exact fun h t player txnId payload hi hcur htxn hepoch hhead =>
      ⟨trivial, ackZone_prompt hi hcur htxn hepoch hhead⟩
  · exact fun own h txnId epoch hi hc => wp_announceResume_prompt hi hc

theorem pass_promptness : Pass Promptness (fun m _ => m.elim) unresumed where
  toFollows := follows_promptness
  stable := fun m => m.elim
  travel := Or.inl (by decide)
  ready := Or.inl (by decide)
  zoneReady := Or.inr settles_zoneReady_prompt
  build := Or.inl (by decide)
  request := Or.inl ⟨by decide, by decide⟩
  status := Or.inl (by decide)
  view := Or.inl (by decide)
  abort := Or.inl (by decide)

theorem resume_follows_acknowledgement (playerId displayName sessionId : String) (manifest : CompatibilityManifest)
    (nativeRequired : Bool) (commands : NetworkedCommandRouter) (acts : List HostAct) :
    AtResume JustCompleted
      (runFrom (started playerId displayName sessionId manifest nativeRequired commands) acts).state.log := by
  have h₀ : Prompt (init playerId displayName sessionId manifest nativeRequired commands) := by
    intro newer older payload seq travel hlog
    exact absurd hlog.symm (List.append_ne_nil_of_right_ne_nil newer (List.cons_ne_nil _ older))
  exact (pass_promptness.run (Pool.inv_init h₀ fun m => m.elim) acts).2.state

/-! ## From the acknowledgement to the resume -/

/-- what the stream of broadcasts says of the batch when `travel.resume` is announced -/
theorem AtResume.closed {log : List Out} (h : AtResume JustCompleted log) (hfirst : ClosedFirst log) :
    AtResume (fun older t => Closed t.epoch (broadcasts older)) log := by
  intro newer older payload seq travel hlog
  obtain ⟨t, ht, hpayload, ok, payload', seq', p, ack, t', older', hcompletes, he, hold⟩ :=
    h newer older payload seq travel hlog
  refine ⟨t, ht, hpayload, ?_⟩
  have hsuffix : .zoneReady p ack (some t') :: older' <:+ log := by
    refine ⟨newer ++ [.sending .travelResume payload seq travel, .bridge ok .travelResume payload',
      .met .resume t.epoch seq'], ?_⟩
    rw [hlog, hold]
    simp
  have hclosed : Closed t'.epoch (broadcasts older') := hfirst _ ((List.mem_tails _ _).2 hsuffix) hcompletes
  show Closed t.epoch (broadcasts older)
  rw [hold, ← he]
  exact hclosed

/-! ## Clients that follow the stream -/

/-- a client in the travel of this epoch has then handled all marks of its batch, and no newer proposal -/
structure InStep (stream : List (MessageType × Json)) (epoch : ℤ) (sha256 : Base64.Bytes → String) (c : Client.Run)
    (acts : List Client.ClientAct) : Prop where
  travel : c.state.travelEpoch = epoch
  marks : (Client.handled sha256 c acts).filterMap (batchMark epoch) = stream.filterMap (batchMark epoch)
  proposals : ∀ m ∈ Client.handled sha256 c acts, Client.NotNewer epoch m

/-- the batch is complete for every client in step, which hands out its updates at `travel.resume` -/
def Releasing (stream : List (MessageType × Json)) (t : TravelTxn) : Prop :=
  ∀ sha256 player disk before acts,
    InStep stream t.epoch sha256 (Client.runFrom sha256 ⟨Client.init player disk, []⟩ before) acts →
    let c := Client.runFrom sha256 ⟨Client.init player disk, []⟩ (before ++ acts)
    c.state.travelBatchComplete = true ∧
      ∀ env answers, env.type = .travelResume → env.payload = resumePayload t.txnId t.epoch → c.state.listening = .idle →
        Client.Released (Client.runFrom sha256 c [.arrive (.net (.ok env)) answers]).state

theorem releasing_of_closed {stream : List (MessageType × Json)} {t : TravelTxn} (h : Closed t.epoch stream) :
    Releasing stream t := by
  intro sha256 player disk before acts hstep c
  have hlater : Pool.AllLater Client.SameBatch (Client.runFrom sha256 ⟨Client.init player disk, []⟩ before) :=
    Pool.run_later (Client.same_later_handle sha256) (fun x hx => absurd hx List.not_mem_nil) before
  have happend : c = Client.runFrom sha256 (Client.runFrom sha256 ⟨Client.init player disk, []⟩ before) acts :=
    Pool.run_append _ before acts
  obtain ⟨hepoch, hmarks⟩ := Client.batch_run sha256 hlater acts (by rw [hstep.travel]; exact hstep.proposals)
  have hclosed : Closed t.epoch (Client.handled sha256 (Client.runFrom sha256 ⟨Client.init player disk, []⟩ before) acts) :=
    closed_of_marks hstep.marks h
  rw [← happend, hstep.travel] at hepoch hmarks
  have hcomplete : c.state.travelBatchComplete = true := by
    rw [hmarks, show List.findSome? _ _ = some true from hclosed]
    rfl
  refine ⟨hcomplete, fun env answers htype hpayload hidle => ?_⟩
  refine Client.resume_releases sha256 c env answers htype hidle hcomplete ?_
  rw [hpayload, hepoch]
  rfl

/-! ## Runs -/

/-- **The batch is closed before the resume.** In every run in which each completing acknowledgement comes after the end
of the batch, `travel.resume` is broadcast after the end of its batch and no later beginning, and every client in step
with the broadcasts hands out its buffered updates. -/
theorem batch_closed (playerId displayName sessionId : String) (manifest : CompatibilityManifest) (nativeRequired : Bool)
    (commands : NetworkedCommandRouter) (acts : List HostAct)
    (first : ClosedFirst
      (runFrom (started playerId displayName sessionId manifest nativeRequired commands) acts).state.log) :
    AtResume (fun older t => Closed t.epoch (broadcasts older) ∧ Releasing (broadcasts older) t)
      (runFrom (started playerId displayName sessionId manifest nativeRequired commands) acts).state.log := by
  have hprompt := resume_follows_acknowledgement playerId displayName sessionId manifest nativeRequired commands acts
  intro newer older payload seq travel hlog
  obtain ⟨t, ht, hpayload, hclosed⟩ := hprompt.closed first newer older payload seq travel hlog
  exact ⟨t, ht, hpayload, hclosed, releasing_of_closed hclosed⟩

/-- the travel of `travelTo5`; the host's game ends the batch before anybody reports a zone -/
def endedTravel : List HostAct :=
  (travelTo5 "5" "5").take 8 ++
    plays .travelViewBatch (.obj [("epoch", .int 1), ("kind", .str "end")]) :: goesOn :: (travelTo5 "5" "5").drop 8

theorem batch_closed_travel :
    (∃ o ∈ (runFrom lanHost endedTravel).state.log, ¬ o.notResume) ∧
      AtResume (fun older t => Closed t.epoch (broadcasts older) ∧ Releasing (broadcasts older) t)
        (runFrom lanHost endedTravel).state.log := by
  have hfirst : ClosedFirst (runFrom lanHost endedTravel).state.log := by decide +kernel
  refine ⟨by decide +kernel, ?_⟩
  rw [lanHost] at hfirst ⊢
  exact batch_closed "host" "Host" "session" (lanManifest "host") false .init endedTravel hfirst

/-- all participants report their zones, and the travel is resumed with its batch still open -/
theorem resume_overtakes_end : ¬ AtResume (fun older t => Closed t.epoch (broadcasts older))
    (runFrom lanHost (travelTo5 "5" "5")).state.log := by
  intro h
  have hresume : .sending .travelResume (resumePayload (uuid4 1) 1) 4 (some travelTo5Done) ∈
      (runFrom lanHost (travelTo5 "5" "5")).state.log := by decide +kernel
  have hopen : ∀ m ∈ broadcasts (runFrom lanHost (travelTo5 "5" "5")).state.log, batchMark 1 m ≠ some true := by
    decide +kernel
  obtain ⟨newer, older, hlog⟩ := List.append_of_mem hresume
  obtain ⟨t, ht, -, hclosed⟩ := h newer older _ _ _ hlog
  cases ht
  obtain ⟨m, hm, hmark⟩ := List.exists_of_findSome?_eq_some hclosed
  refine hopen m ?_ hmark
  rw [hlog, broadcasts, List.filterMap_append]
  exact List.mem_append_right _ (List.mem_cons_of_mem _ hm)

end Host

end KerMP
