/-
The travels that the host proposes to its peers (`HostRuntime._start_travel` of `kermp/runtime.py`).

A travel gets its epoch and is broadcast in one step, and nothing else broadcasts or sends a `travel.propose`.

- `run_proposed`: in every run, wherever the handlers wait, the travels that were proposed have the epochs 1, 2, 3, ...
  up to that of the coordinator, in this order.
-/
import KerMP.Host.Prompt
import KerMP.Host.Told

namespace KerMP.Host

open Py Coop
open Coro hiding pure get modify
open Travel (TravelTxn TravelCoordinator)

/-! ## What the log tells -/

/-- the payload names this epoch, whatever stands for a missing one -/
def NamesEpoch (payload : Json) (epoch : ℤ) : Prop := ∀ dflt, intField payload "epoch" dflt = .ok epoch

/-- the epochs from 1 to this one, newest first -/
def epochsTo (n : ℕ) : List ℤ := ((List.range' 1 n).map Nat.cast).reverse

/-- an entry that may tell a peer of a travel -/
def Out.proposes : Out → Bool
  | .sending type _ _ _ => type = .travelPropose
  | .wrote _ _ env => env.type = .travelPropose
  | _ => false

/-- the travels up to epoch `n` were proposed, and all of them by broadcasts -/
structure Proposed (n : ℕ) (log : List Out) : Prop where
  epochs : List.Forall₂ (fun a e => NamesEpoch a.payload e) (outgoing (only .travelPropose) log) (epochsTo n)
  by_broadcast : ∀ o ∈ log, o.byBroadcast .travelPropose fun payload => payload ≠ .obj []

/-- all travels of the coordinator were proposed -/
def AllProposed (h : Host) : Prop := ∃ n : ℕ, h.session.travel.epoch = n ∧ Proposed n h.log

theorem epochsTo_succ (n : ℕ) : epochsTo (n + 1) = ((n + 1 : ℕ) : ℤ) :: epochsTo n := by
  rw [epochsTo, List.range'_1_concat, List.map_append, List.reverse_append, Nat.add_comm 1 n]
  rfl

theorem Out.byBroadcast_of_silent {o : Out} (ho : o.proposes = false) {Says : Json → Prop} :
    o.byBroadcast .travelPropose Says := by
  cases o with
  | sending type payload n travel => exact fun htype => absurd htype (of_decide_eq_false ho)
  | wrote p conn env => exact fun htype => absurd htype (of_decide_eq_false ho)
  | _ => trivial

theorem Out.silent_of_topic {o : Out} (ho : o.topic ≠ .travel) : o.proposes = false := by
  cases o with
  | sending type payload n travel => exact decide_eq_false fun htype => ho (by rw [htype]; rfl)
  | wrote p conn env => exact decide_eq_false fun htype => ho (by rw [Out.topic, htype]; rfl)
  | _ => rfl

theorem Proposed.append {n : ℕ} {os log : List Out} (h : Proposed n log) (hos : ∀ o ∈ os, o.proposes = false) :
    Proposed n (os ++ log) := by
  have hnone : outgoing (only .travelPropose) os = [] := List.filterMap_eq_nil_iff.2 fun o ho => by
    cases o with
    | sending type payload k travel => exact if_neg (by simpa [Out.proposes, only] using hos _ ho)
    | _ => rfl
  refine ⟨?_, List.forall_mem_append.2 ⟨fun o ho => Out.byBroadcast_of_silent (hos o ho), h.by_broadcast⟩⟩
  rw [outgoing_append, hnone, List.nil_append]
  exact h.epochs

/-! ## Steps of other topics -/

theorem AllProposed.silent {h h' : Host} (hi : AllProposed h) {os : List Out} (hlog : h'.log = os ++ h.log)
    (hos : ∀ o ∈ os, o.proposes = false) (hepoch : h'.session.travel.epoch = h.session.travel.epoch) :
    AllProposed h' := by
  obtain ⟨n, hn, hproposed⟩ := hi
  exact ⟨n, hepoch.trans hn, hlog ▸ hproposed.append hos⟩

theorem change_epoch {c c' : TravelCoordinator} {o : Travel.Op} (hc : Travel.Change c o c')
    (ho : ∀ z as ps u, o ≠ .propose z as ps u) : c'.epoch = c.epoch := by
  cases hc with
  | propose => exact absurd rfl (ho _ _ _ _)
  | _ => rfl

/-- the topics beside that of travels -/
def untravelled : List Topic :=
  [.session, .member, .readiness, .commit, .resume, .lock, .build, .apply, .request, .status, .view, .clock]

theorem Does.proposed {l : Label} {h h' : Host} (d : Does l h h') (hl : l.topic ≠ .travel) (hi : AllProposed h) :
    AllProposed h' := by
  obtain ⟨os, hlog, htopic⟩ := d.log
  refine hi.silent hlog (fun o ho => Out.silent_of_topic (htopic o ho ▸ hl)) ?_
  rcases d.change with he | ⟨o, ho, hc⟩
  · rw [he]
  · refine change_epoch hc fun z as ps u he => ?_
    subst he
    cases l with
    | propose => exact hl rfl
    | _ => cases ho

abbrev Proposing : Discipline Host Empty := AtRest AllProposed

theorem follows_proposing : Follows Proposing untravelled :=
  follows_atRest (by decide) fun _ _ _ hl d hi => d.proposed (ne_of_mem_of_not_mem hl (by decide)) hi

/-! ## Handlers of travels -/

/-- a program that keeps it -/
abbrev Proposes {α : Type} (p : HostM α) : Prop := Settles Proposing (fun m _ => m.elim) p

theorem proposes_bind {α β : Type} {p : HostM α} {f : α → HostM β} (hp : Proposes p) (hf : ∀ a, Proposes (f a)) :
    Proposes (p >>= f) := settles_bind follows_proposing.lawful (fun m => m.elim) hp hf

theorem proposes_on {α : Type} {p : HostM α} (hp : Guar (Aside untravelled) p) : Proposes p :=
  follows_proposing.settles _ (guar_of_aside hp)

theorem ends_proposed {r : Except Exc Unit} {own : Set Empty} {h : Host} (hi : AllProposed h) :
    Ends Proposing (fun m _ => m.elim) r own h := ⟨hi, fun m => m.elim⟩

theorem AllProposed.note {h : Host} (hi : AllProposed h) {o : Out} (ho : o.proposes = false) : AllProposed (h.note o) :=
  @AllProposed.silent _ _ hi [o] rfl (by simpa using ho) rfl

theorem proposes_bridgeSend (type : MessageType) (payload : Payload) : Proposes (bridgeSend type payload) := by
  intro h hi
  rw [bridgeSend, wp_bind, wp_askEnv]
  intro a
  rw [andThen_ok, wp_call]
  exact ⟨Discipline.may_plain.2 (List.suffix_cons _ _), hi.note rfl, fun m => m.elim⟩

/-- a broadcast of something else -/
theorem proposes_broadcastPeers {type : MessageType} (ht : type ≠ .travelPropose) (payload : Payload) :
    Proposes (broadcastPeers type payload) := by
  intro h hi
  refine follows_proposing.broadcast (fun h h' w hi => ?_) hi fun h' _ _ hi' => ?_
  · rcases w with rfl | ⟨seq, rfl⟩ | ⟨player, conn, env, htype, rfl⟩
    · exact ⟨List.suffix_rfl, hi⟩
    · exact ⟨List.suffix_cons _ _, hi.note rfl⟩
    · exact ⟨List.suffix_cons _ _, hi.note (decide_eq_false (htype ▸ ht))⟩
  · exact ⟨List.suffix_cons _ _, hi'.note (decide_eq_false ht)⟩

/-- the broadcast of a travel that has got its epoch -/
theorem Proposed.sending {n : ℕ} {log : List Out} (h : Proposed n log) {payload : Json} {seq : ℕ}
    {travel : Option TravelTxn} (hepoch : NamesEpoch payload ((n + 1 : ℕ) : ℤ)) (hne : payload ≠ .obj []) :
    Proposed (n + 1) (.sending .travelPropose payload seq travel :: log) where
  epochs := by
    rw [epochsTo_succ]
    exact .cons hepoch h.epochs
  by_broadcast := List.forall_mem_cons.2 ⟨fun _ => hne, h.by_broadcast⟩

/-- what is written of it has its number -/
theorem announces_proposal (payload : Payload) (seq : ℕ) (entry : Out) :
    Announces AllProposed .travelPropose payload seq entry where
  write h p conn messageId hi _ := by
    obtain ⟨n, hn, hproposed⟩ := hi
    refine ⟨n, hn, hproposed.epochs, List.forall_mem_cons.2 ⟨fun _ => ?_, hproposed.by_broadcast⟩⟩
    rw [numberOf_envelopeOf (by decide)]
    rfl
  cut h hi := hi.note rfl

theorem proposes_startTravel (payload : Json) (player : String) : Proposes (startTravel payload player) := by
  intro h hi
  rw [startTravel]
  refine wp_ofExcept_bind (fun e _ => ends_proposed hi) fun zoneId _ => ?_
  refine wp_ofExcept_bind (fun e _ => ends_proposed hi) fun actors _ => ?_
  split_ifs
  · exact ends_proposed hi
  refine wp_call_bind (Discipline.may_plain.2 List.suffix_rfl) (Discipline.take_eq fun m => m.elim) ?_
  rw [wp_bind]
  cases hp : h.session.travel.propose zoneId (actors.map Json.toStr) h.session.players.keys (uuid4 h.uuids) with
  | error e =>
    refine wp_tryCall_of (.error e) { h with uuids := h.uuids + 1 } (by simp only [hp])
      (Discipline.may_plain.2 List.suffix_rfl) (Discipline.take_eq fun m => m.elim) ?_
    exact ends_proposed (r := .error e) hi
  | ok r =>
    obtain ⟨t, c⟩ := r
    obtain ⟨-, -, rfl, rfl⟩ := Travel.propose_ok hp
    refine wp_tryCall_of (.ok _) (setTravel { h with uuids := h.uuids + 1 } _) (by simp only [hp]; rfl)
      (Discipline.may_plain.2 (by exact List.suffix_rfl)) (Discipline.take_eq fun m => m.elim) ?_
    rw [andThen_ok, wp_bind, bridgeSend, wp_bind, wp_askEnv]
    intro a
    rw [andThen_ok, wp_call]
    refine ⟨Discipline.may_plain.2 (List.suffix_cons _ _), ?_⟩
    -- the epoch has been given out, and this is the travel it is for
    refine follows_proposing.announces (fun h' _ hsession hlog => ?_) (announces_proposal _ _ _)
    obtain ⟨n, hn, hproposed⟩ := hi
    refine ⟨n + 1, ?_, ?_⟩
    · show h'.session.travel.epoch = _
      rw [hsession]
      show h.session.travel.epoch + 1 = _
      rw [hn]
      rfl
    · show Proposed (n + 1) (_ :: h'.log)
      rw [hlog]
      refine Proposed.sending (@Proposed.append _ [_] _ hproposed ?_) (fun _ => ?_) ?_
      · simp [Out.proposes]
      · show Except.ok (h.session.travel.epoch + 1) = _
        rw [hn]
        rfl
      · intro he
        cases he

theorem proposes_forward (type : MessageType) (payload : Payload) : Proposes (forward type payload) :=
  proposes_bind (proposes_bridgeSend type payload) fun _ => settles_pure ()

theorem proposes_gameViewBatch (payload : Json) : Proposes (gameViewBatch payload) := by
  have hopen : ∀ b, Proposes (setBatchOpen b) := fun b => by
    refine follows_proposing.settles _ (guar_modify fun h => ⟨.quiet, by decide, ?_⟩)
    exact .quiet ⟨rfl, .refl _, rfl, fun _ => rfl, rfl, rfl, rfl, rfl, le_rfl⟩ fun _ => rfl
  refine proposes_bind (settles_ofExcept _) fun epoch => settles_get follows_proposing.lawful fun h hi => ?_
  cases h.session.travel.current with
  | none => exact settles_pure () h hi
  | some active =>
    rw [ifSome]
    split_ifs
    · exact settles_pure () h hi
    have hbroadcast : ∀ kind, Proposes (broadcastPeers .travelViewBatch (.val (viewBatch active kind))) := fun kind =>
      proposes_broadcastPeers (by decide) _
    refine proposes_bind (settles_ofExcept _) (fun kind => proposes_bind (hopen _) fun _ => ?_) h hi
    dsimp only
    split_ifs
    · exact proposes_bind (proposes_forward _ _) fun _ => proposes_bind (hbroadcast _) fun _ => proposes_forward _ _
    · exact proposes_bind (proposes_forward _ _) fun _ => proposes_bind (hbroadcast _) fun _ => settles_pure ()
    · exact proposes_bind (hbroadcast _) fun _ => proposes_forward _ _
    · exact proposes_bind (hbroadcast _) fun _ => settles_pure ()

theorem proposes_announceCommit (txnId : String) : Proposes (announceCommit txnId) := by
  refine settles_get follows_proposing.lawful fun h hi => ?_
  cases h.session.travel.current with
  | none => exact settles_raise _ h hi
  | some txn =>
    have hcommit : Proposes (do
        broadcastPeers .travelViewBatch (.val (viewBatch txn "begin"))
        let _ ← bridgeSend .travelViewBatch (.val (viewBatch txn "begin"))
        let _ ← bridgeSend .travelCommit (.val (commitPayload txn))
        broadcastPeers .travelCommit (.val (commitPayload txn))
        beginZoneWait txnId) :=
      proposes_bind (proposes_broadcastPeers (by decide) _) fun _ => proposes_bind (proposes_bridgeSend _ _) fun _ =>
        proposes_bind (proposes_bridgeSend _ _) fun _ => proposes_bind (proposes_broadcastPeers (by decide) _) fun _ =>
          proposes_on (aside_beginZoneWait (by decide) (by decide) txnId)
    exact hcommit h hi

theorem proposes_travelReady (player : String) (payload : Json) : Proposes (travelReady player payload) := by
  refine proposes_bind (settles_ofExcept _) fun txnId => ?_
  split_ifs
  · exact settles_pure ()
  refine proposes_bind ?_ fun commit => ?_
  · refine proposes_bind (Coro.settles_attempt (proposes_bind (settles_ofExcept _) fun epoch =>
      proposes_on (aside_markReady (by decide) _ _ _))) fun r => ?_
    cases r with
    | ok commit => exact settles_pure commit
    | error e =>
      dsimp only
      split_ifs
      · exact settles_pure false
      · exact settles_raise e
  · split_ifs
    · exact proposes_announceCommit txnId
    · exact settles_pure ()

theorem proposes_travelAbort (payload : Json) (reason : String) : Proposes (travelAbort payload reason) := by
  have habort : ∀ txnId, Proposes (abort txnId) := by
    intro txnId h hi
    rw [abort, onTravel, wp_tryCall]
    refine ⟨Discipline.may_plain.2 ?_, ?_, fun m => m.elim⟩
    · split <;> exact List.suffix_rfl
    · cases he : h.session.travel.abort txnId with
      | error e => exact hi
      | ok c =>
        have hchange := Travel.step_change h.session.travel (.abort txnId)
        rw [Travel.step_ok (by rw [Travel.call, he]; rfl)] at hchange
        exact @AllProposed.silent _ _ hi [] rfl (by simp) (change_epoch hchange fun _ _ _ _ => by simp)
  refine settles_get follows_proposing.lawful fun h hi => ?_
  cases h.session.travel.current with
  | none => exact settles_pure () h hi
  | some txn =>
    refine proposes_bind (settles_ofExcept _) (fun epoch => ?_) h hi
    split_ifs
    · exact proposes_bind (habort _) fun _ => proposes_bind (settles_ofExcept _) fun reason =>
        proposes_broadcastPeers (by decide) _
    · exact settles_pure ()

theorem pass_proposing : Pass Proposing (fun m _ => m.elim) untravelled where
  toFollows := follows_proposing
  stable := fun m => m.elim
  travel := Or.inr ⟨proposes_startTravel, proposes_gameViewBatch⟩
  ready := Or.inr proposes_travelReady
  zoneReady := Or.inl (by decide)
  build := Or.inl (by decide)
  request := Or.inl ⟨by decide, by decide⟩
  status := Or.inl (by decide)
  view := Or.inl (by decide)
  abort := Or.inr proposes_travelAbort

/-! ## Runs -/

/-- **Every travel is proposed.** In every run the travels that were proposed to the peers have the epochs from 1 to
that of the coordinator, one each and in this order, and no travel is proposed to a single peer. -/
theorem run_proposed (playerId displayName sessionId : String) (manifest : CompatibilityManifest)
    (nativeRequired : Bool) (commands : NetworkedCommandRouter) (acts : List HostAct) :
    AllProposed (runFrom (started playerId displayName sessionId manifest nativeRequired commands) acts).state := by
  have h₀ : AllProposed (init playerId displayName sessionId manifest nativeRequired commands) := by
    refine ⟨0, ?_, .nil, fun o ho => absurd ho List.not_mem_nil⟩
    rw [init_travel]
    rfl
  exact (pass_proposing.run (Pool.inv_init h₀ fun m => m.elim) acts).2.state

end KerMP.Host
