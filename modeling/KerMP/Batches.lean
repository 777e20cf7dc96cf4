/-
What a client knows of the view batch of its travel (`travel.view_batch`, `travel.propose` and `travel.resume` of
`ClientRuntime._on_network_message`).

A client in the travel of some epoch takes the batch for complete when the last mark it has handled is the end. Only marks
of its own epoch count, and a proposal of a newer epoch starts afresh.

Results, for every run of a client:
- `batch_run`: while no newer travel is proposed, the batch is complete exactly as the marks it has handled say.
- `resume_releases`: a client whose batch is complete hands out all it has buffered when it handles `travel.resume`, unless
  an update is malformed, which ends its loop over messages.
-/
import KerMP.Lib.Segment
import KerMP.ClientSteps

namespace KerMP

open Py Coop
open Coro hiding pure get modify

/-! ## Marks -/

/-- what a message says about the batch of an epoch: whether it is complete -/
def batchMark (epoch : ℤ) : MessageType × Json → Option Bool
  | (.travelViewBatch, payload) =>
    if Client.intField payload "epoch" (-1) = .ok epoch then
      match payload.getD "kind" (.str "") with
      | .ok kind =>
        if kind.toStr.toLower = "begin" then some false else if kind.toStr.toLower = "end" then some true else none
      | .error _ => none
    else none
  | _ => none

/-- the last mark of the batch in these messages, newest first, is its end -/
def Closed (epoch : ℤ) (messages : List (MessageType × Json)) : Prop :=
  messages.findSome? (batchMark epoch) = some true

instance (epoch : ℤ) (messages : List (MessageType × Json)) : Decidable (Closed epoch messages) :=
  inferInstanceAs (Decidable (_ = _))

/-- only the marks of the batch count -/
theorem closed_of_marks {epoch : ℤ} {messages messages' : List (MessageType × Json)}
    (h : messages'.filterMap (batchMark epoch) = messages.filterMap (batchMark epoch)) (hc : Closed epoch messages) :
    Closed epoch messages' := by
  rw [Closed, ← List.head?_filterMap] at hc ⊢
  rw [h]
  exact hc

theorem batchMark_of_ne {type : MessageType} (ht : type ≠ .travelViewBatch) (epoch : ℤ) (payload : Json) :
    batchMark epoch (type, payload) = none := by
  cases type with
  | travelViewBatch => exact absurd rfl ht
  | _ => rfl

namespace Client

/-! ## Handing out -/

/-- a step that only hands out: the travel, its batch and the last sequence are as before -/
structure Handing (c c' : Client) : Prop where
  epoch : c'.travelEpoch = c.travelEpoch
  complete : c'.travelBatchComplete = c.travelBatchComplete
  last : c'.lastGameSequence = c.lastGameSequence

theorem Handing.refl (c : Client) : Handing c c := ⟨rfl, rfl, rfl⟩

theorem handing_bridgeSend (type : MessageType) (payload : Json) : Guar Handing (bridgeSend type payload) :=
  guar_bind guar_askEnv fun _ => guar_modify fun _ => ⟨rfl, rfl, rfl⟩

theorem handing_read : Guar Handing (Coro.get : ClientM Client) := guar_get Handing.refl

theorem handing_applyGameMessage (payload : Json) : Guar Handing (applyGameMessage payload) :=
  guar_bind (guar_ofExcept _) fun _ => guar_bind (guar_modify fun _ => ⟨rfl, rfl, rfl⟩) fun _ =>
    guar_bind (guar_ofExcept _) fun _ => guar_bind (guar_modify fun _ => ⟨rfl, rfl, rfl⟩) fun _ => handing_bridgeSend _ _

theorem handing_applyAll (items : List Item) : Guar Handing (applyAll items) := by
  induction items with
  | nil => exact guar_pure ()
  | cons item rest ih => exact guar_bind (handing_applyGameMessage _) fun _ => ih

theorem handing_finishLocalTravel : Guar Handing finishLocalTravel :=
  guar_bind handing_read fun _ => guar_bind (handing_applyAll _) fun _ => guar_modify fun _ => ⟨rfl, rfl, rfl⟩

theorem handing_onResume (payload : Json) : Guar Handing (onResume payload) := by
  refine guar_bind (guar_ofExcept _) fun epoch => guar_bind handing_read fun c => ?_
  dsimp only
  split_ifs
  · exact guar_bind handing_finishLocalTravel fun _ => handing_bridgeSend _ _
  · exact handing_bridgeSend _ _

theorem handing_markLocalZoneLoaded (epoch : ℤ) : Guar Handing (markLocalZoneLoaded epoch) := by
  refine guar_bind handing_read fun c => ?_
  split_ifs
  · exact guar_pure ()
  · exact guar_bind (guar_modify fun _ => ⟨rfl, rfl, rfl⟩) fun _ => handing_finishLocalTravel
  · exact guar_bind (guar_modify fun _ => ⟨rfl, rfl, rfl⟩) fun _ => guar_pure ()

/-! ## Handlers that leave the batch alone -/

/-- the same travel, and the same knowledge of its batch -/
def SameBatch (c c' : Client) : Prop :=
  c'.travelEpoch = c.travelEpoch ∧ c'.travelBatchComplete = c.travelBatchComplete

theorem SameBatch.refl (c : Client) : SameBatch c c := ⟨rfl, rfl⟩

theorem SameBatch.trans {a b c : Client} (h : SameBatch a b) (h' : SameBatch b c) : SameBatch a c :=
  ⟨h'.1.trans h.1, h'.2.trans h.2⟩

theorem same_of_does {α : Type} {p : ClientM α} (hp : Guar (Does {.save, .build}) p) : Guar SameBatch p :=
  hp.mono fun _ _ d => ⟨(d.view.resolve_left (by simp)).epoch, (d.view.resolve_left (by simp)).complete⟩

theorem same_of_handing {α : Type} {p : ClientM α} (hp : Guar Handing p) : Guar SameBatch p :=
  hp.mono fun _ _ d => ⟨d.epoch, d.complete⟩

theorem same_bridgeSend (type : MessageType) (payload : Json) : Guar SameBatch (bridgeSend type payload) :=
  same_of_handing (handing_bridgeSend type payload)

theorem same_read : Guar SameBatch (Coro.get : ClientM Client) := same_of_handing handing_read

theorem same_onRawMessage (payload : Json) : Guar SameBatch (onRawMessage payload) := by
  refine guar_bind (guar_ofExcept _) fun sequence => guar_bind same_read fun c => ?_
  split_ifs
  · exact guar_pure ()
  split
  · exact same_bridgeSend _ _
  refine guar_bind (guar_ofExcept _) fun epoch => guar_bind (guar_ofExcept _) fun refusal => ?_
  rcases refusal with _ | reason
  · refine guar_bind (guar_modify fun _ => ⟨rfl, rfl⟩) fun _ => guar_bind same_read fun c => ?_
    split_ifs
    · exact same_bridgeSend _ _
    · exact guar_bind (guar_ofExcept _) fun item => guar_modify fun _ => ⟨rfl, rfl⟩
    · exact same_of_handing (handing_applyGameMessage _)
  · exact same_bridgeSend _ _

/-- the messages that neither mark the batch nor propose a travel -/
theorem same_onNetworkMessage {env : Envelope} (hbatch : env.type ≠ .travelViewBatch)
    (hpropose : env.type ≠ .travelPropose) (sha256 : Base64.Bytes → String) :
    Guar SameBatch (onNetworkMessage sha256 env) := by
  refine onNetworkMessage_view sha256 (fun _ => same_of_does) (fun _ => ?_) (fun h => absurd h hbatch)
    (fun h => absurd h hpropose) fun _ => ?_
  · exact guar_bind (same_onRawMessage _) fun _ => guar_pure _
  · exact guar_bind (same_of_handing (handing_onResume _)) fun _ => guar_pure _

/-! ## Marks and proposals -/

/-- the client after a message: the same travel, and the batch as the message says -/
def Marked (message : MessageType × Json) (c c' : Client) : Prop :=
  c'.travelEpoch = c.travelEpoch ∧ c'.travelBatchComplete = (batchMark c.travelEpoch message).getD c.travelBatchComplete

theorem Marked.same {message : MessageType × Json} {a b c : Client} (h : Marked message a b) (h' : SameBatch b c) :
    Marked message a c := ⟨h'.1.trans h.1, h'.2.trans h.2⟩

/-- the message is no proposal of a newer travel -/
def NotNewer (epoch : ℤ) (message : MessageType × Json) : Prop :=
  message.1 = .travelPropose → ∀ n, intField message.2 "epoch" 0 = .ok n → n ≤ epoch

theorem same_tail {message : MessageType × Json} {c₀ : Client} {α : Type} {p : ClientM α} (hp : Guar SameBatch p)
    {own : Set Empty} {c : Client} (h : Marked message c₀ c) :
    wp (Discipline.plain (Marked message c₀) fun _ _ => True) own p (fun _ _ c' => Marked message c₀ c') c := by
  refine wp_mono ?_ (wp_of_guar (Discipline.plain_lawful (fun _ => trivial) fun _ _ _ _ _ => trivial)
    (fun c c' hs hi => ⟨trivial, fun m => m.elim, fun m => m.elim, hi.same hs⟩) hp h)
  exact fun r own' c' hc' => hc'.2.1

theorem marked_of_none {message : MessageType × Json} {c₀ c : Client} (hm : batchMark c₀.travelEpoch message = none)
    (hc : SameBatch c₀ c) : Marked message c₀ c := ⟨hc.1, by rw [hm]; exact hc.2⟩

/-- a batch message of the host -/
theorem wp_onViewBatch (payload : Json) (own : Set Empty) (c₀ c : Client) (hc : SameBatch c₀ c) :
    wp (Discipline.plain (Marked (.travelViewBatch, payload) c₀) fun _ _ => True) own (onViewBatch payload)
      (fun _ _ c' => Marked (.travelViewBatch, payload) c₀ c') c := by
  have hsend := same_bridgeSend .travelViewBatch payload
  rw [onViewBatch, wp_bind, wp_ofExcept]
  rcases hepoch : intField payload "epoch" (-1) with e | epoch
  · exact marked_of_none (by simp [batchMark, hepoch]) hc
  rw [andThen_ok, wp_bind, wp_get, andThen_ok]
  refine ⟨Discipline.may_plain.2 trivial, ?_⟩
  by_cases he : epoch = c.travelEpoch
  swap
  · rw [if_pos he]
    refine same_tail (same_bridgeSend _ _) (marked_of_none ?_ hc)
    simp [batchMark, hepoch, ← hc.1, he]
  have hown : intField payload "epoch" (-1) = .ok c₀.travelEpoch := by rw [hepoch, he, hc.1]
  rw [if_neg (not_not.2 he), wp_bind, wp_ofExcept]
  rcases hkind : payload.getD "kind" (.str "") with e | kind
  · exact marked_of_none (by simp [batchMark, hown, hkind]) hc
  rw [andThen_ok]
  dsimp only
  split_ifs with hbegin hend
  · have hmark : batchMark c₀.travelEpoch (.travelViewBatch, payload) = some false := by
      simp [batchMark, hown, hkind, hbegin]
    rw [wp_bind, beginBatch, wp_modify, andThen_ok]
    refine ⟨Discipline.may_plain.2 trivial, same_tail hsend ⟨hc.1, ?_⟩⟩
    rw [hmark]
    rfl
  · have hmark : batchMark c₀.travelEpoch (.travelViewBatch, payload) = some true := by
      simp [batchMark, hown, hkind, hend]
    have hrest : Guar SameBatch (do
        let c ← Coro.get
        if c.localZoneLoaded then finishLocalTravel else pure () : ClientM Unit) := by
      refine guar_bind same_read fun c => ?_
      split_ifs
      · exact same_of_handing handing_finishLocalTravel
      · exact guar_pure ()
    rw [wp_bind, endBatch, wp_bind, wp_modify, andThen_ok]
    refine ⟨Discipline.may_plain.2 trivial, wp_mono ?_ (same_tail hrest ⟨hc.1, by rw [hmark]; rfl⟩)⟩
    rintro (e | _) own' c' hc'
    · exact hc'
    · exact same_tail hsend hc'
  · exact same_tail hsend (marked_of_none (by simp [batchMark, hown, hkind, hbegin, hend]) hc)

/-- a proposal that is not newer -/
theorem wp_onPropose (payload : Json) (own : Set Empty) (c₀ c : Client) (hc : SameBatch c₀ c)
    (hnew : NotNewer c₀.travelEpoch (.travelPropose, payload)) :
    wp (Discipline.plain (Marked (.travelPropose, payload) c₀) fun _ _ => True) own (onPropose payload)
      (fun _ _ c' => Marked (.travelPropose, payload) c₀ c') c := by
  rw [onPropose, wp_bind, wp_ofExcept]
  rcases hepoch : intField payload "epoch" 0 with e | incoming
  · exact marked_of_none rfl hc
  rw [andThen_ok, wp_bind, wp_get, andThen_ok]
  refine ⟨Discipline.may_plain.2 trivial, ?_⟩
  rw [if_pos (by rw [hc.1]; exact hnew rfl incoming hepoch)]
  exact marked_of_none rfl hc

theorem wp_onNetworkMessage (sha256 : Base64.Bytes → String) (env : Envelope) (own : Set Empty) (c₀ c : Client)
    (hc : SameBatch c₀ c) (hnew : NotNewer c₀.travelEpoch (env.type, env.payload)) :
    wp (Discipline.plain (Marked (env.type, env.payload) c₀) fun _ _ => True) own (onNetworkMessage sha256 env)
      (fun _ _ c' => Marked (env.type, env.payload) c₀ c') c := by
  by_cases hbatch : env.type = .travelViewBatch
  · rw [onNetworkMessage_viewBatch sha256 hbatch, hbatch, wp_bind]
    refine wp_mono ?_ (wp_onViewBatch env.payload own c₀ c hc)
    rintro (e | _) own' c' hc' <;> exact hc'
  by_cases hpropose : env.type = .travelPropose
  · rw [onNetworkMessage_propose sha256 hpropose, hpropose, wp_bind]
    rw [hpropose] at hnew
    refine wp_mono ?_ (wp_onPropose env.payload own c₀ c hc hnew)
    rintro (e | _) own' c' hc' <;> exact hc'
  exact same_tail (same_onNetworkMessage hbatch hpropose sha256) (marked_of_none (batchMark_of_ne hbatch _ _) hc)

/-- any message but a newer proposal -/
theorem wp_listen (sha256 : Base64.Bytes → String) (env : Envelope) (c : Client)
    (hnew : NotNewer c.travelEpoch (env.type, env.payload)) :
    wp (Discipline.plain (Marked (env.type, env.payload) c) fun _ _ => True) ∅ (listen sha256 (.ok env))
      (Ends (Discipline.plain (Marked (env.type, env.payload) c) fun _ _ => True) fun m _ => m.elim) c := by
  have hmessage := fun own => wp_onNetworkMessage sha256 env own c { c with listening := .busy } ⟨rfl, rfl⟩ hnew
  rw [listen, setListening, wp_bind, wp_modify, andThen_ok]
  refine ⟨Discipline.may_plain.2 trivial, ?_⟩
  rw [wp_bind, wp_attempt, wp_bind, wp_ofExcept, andThen_ok, wp_bind]
  refine wp_mono ?_ (hmessage _)
  rintro (e | flush) own₁ c₁ h₁
  · refine wp_mono ?_ (same_tail (same_of_does (guar_afterListen (.error e))) h₁)
    exact fun r own₂ c₂ h₂ => ⟨h₂, fun m => m.elim⟩
  · rw [andThen_ok]
    refine wp_mono ?_ (same_tail (same_of_does (guar_afterMessage (by simp) flush)) h₁)
    intro r own₂ c₂ h₂
    refine wp_mono ?_ (same_tail (same_of_does (guar_afterListen r)) h₂)
    exact fun r' own₃ c₃ h₃ => ⟨h₃, fun m => m.elim⟩

/-! ## After the first await -/

theorem later_onViewBatch (payload : Json) : Later SameBatch (onViewBatch payload) := by
  have hsend := same_bridgeSend .travelViewBatch payload
  refine later_ofExcept fun epoch => later_get fun c => ?_
  split_ifs
  · exact later_of_guar (same_bridgeSend _ _)
  refine later_ofExcept fun kind => ?_
  dsimp only
  split_ifs
  · exact later_modify (later_of_guar hsend)
  · refine later_bind (later_modify (later_get fun c => ?_)) fun _ => hsend
    split_ifs
    · exact later_of_guar (same_of_handing handing_finishLocalTravel)
    · exact later_of_guar (guar_pure ())
  · exact later_of_guar hsend

theorem later_onPropose (payload : Json) : Later SameBatch (onPropose payload) := by
  refine later_ofExcept fun incoming => later_get fun c => ?_
  split_ifs
  · exact later_of_guar (guar_pure ())
  · exact later_modify (later_of_guar (same_bridgeSend _ _))

theorem same_later_onNetworkMessage (sha256 : Base64.Bytes → String) (env : Envelope) :
    Later SameBatch (onNetworkMessage sha256 env) := by
  refine onNetworkMessage_view sha256 (fun _ hp => later_of_guar (same_of_does hp)) (fun _ => ?_) (fun _ => ?_)
    (fun _ => ?_) fun _ => ?_
  · exact later_of_guar (guar_bind (same_onRawMessage _) fun _ => guar_pure _)
  · exact later_bind (later_onViewBatch _) fun _ => guar_pure _
  · exact later_bind (later_onPropose _) fun _ => guar_pure _
  · exact later_of_guar (guar_bind (same_of_handing (handing_onResume _)) fun _ => guar_pure _)

theorem same_later_handle (sha256 : Base64.Bytes → String) (t : Event) : Later SameBatch (handle sha256 t) := by
  cases t with
  | net r =>
    refine later_modify (later_bind (later_attempt (later_ofExcept fun env => ?_)) fun r =>
      same_of_does (guar_afterListen r))
    exact later_bind (same_later_onNetworkMessage sha256 env) fun flush =>
      same_of_does (guar_afterMessage (by simp) flush)
  | game event => exact later_of_guar (same_of_does (guar_onGameEvent (by simp) event))
  | zoneLoaded epoch => exact later_of_guar (same_of_handing (handing_markLocalZoneLoaded epoch))
  | flush f => exact later_of_guar (same_of_does (guar_resumeFlush (by simp) f))

/-! ## Runs -/

/-- the message an act brings to a client that is listening -/
def taken (c : Client) : ClientAct → Option (MessageType × Json)
  | .arrive (.net (.ok env)) _ => if c.listening = .idle then some (env.type, env.payload) else none
  | _ => none

/-- the messages handled in a run, newest first -/
def handled (sha256 : Base64.Bytes → String) (c : Run) : List ClientAct → List (MessageType × Json)
  | [] => []
  | a :: acts => handled sha256 (Pool.step (handle sha256) enabled c a) acts ++ (taken c.state a).toList

/-- one step changes the travel and the batch as the message it brings, if any -/
theorem batch_step (sha256 : Base64.Bytes → String) {c : Run} (hlater : Pool.AllLater SameBatch c) (a : ClientAct)
    (hnew : ∀ m ∈ taken c.state a, NotNewer c.state.travelEpoch m) :
    (Pool.step (handle sha256) enabled c a).state.travelEpoch = c.state.travelEpoch ∧
      (Pool.step (handle sha256) enabled c a).state.travelBatchComplete =
        ((taken c.state a).bind (batchMark c.state.travelEpoch)).getD c.state.travelBatchComplete := by
  have hsame : ∀ t as, Guar SameBatch (handle sha256 t) →
      SameBatch c.state (Pool.step (handle sha256) enabled c (.arrive t as)).state := by
    intro t as ht
    rw [Pool.arrive_state]
    split_ifs
    · exact segment_guar .refl (fun _ _ _ => .trans) ht as c.state
    · exact .refl _
  rcases a with ⟨t, as⟩ | ⟨i, x, as⟩
  · rcases t with r | event | epoch | f
    · rcases r with e | env
      · exact hsame _ as (guar_bind (same_of_does (guar_setListening .busy)) fun _ =>
          guar_bind (guar_attempt trivial) fun r => same_of_does (guar_afterListen r))
      · by_cases hidle : c.state.listening = .idle
        · have htaken : taken c.state (.arrive (.net (.ok env)) as) = some (env.type, env.payload) := if_pos hidle
          have henabled : enabled c.state (.net (.ok env)) = true := by simp [enabled, hidle]
          have hlawful : (Discipline.plain (Marked (env.type, env.payload) c.state) fun _ _ => True).Lawful :=
            Discipline.plain_lawful (fun _ => trivial) fun _ _ _ _ _ => trivial
          obtain ⟨own', -, hend⟩ := wp_segment hlawful as
            (wp_listen sha256 env c.state (hnew _ (by rw [htaken]; rfl)))
          have hmarked : Marked (env.type, env.payload) c.state ((listen sha256 (.ok env)).segment as c.state).2 := by
            split at hend
            · exact hend.1
            · exact hend.1
          rw [Pool.arrive_state, henabled, if_pos rfl, htaken]
          exact hmarked
        · have htaken : taken c.state (.arrive (.net (.ok env)) as) = none := if_neg hidle
          have henabled : enabled c.state (.net (.ok env)) = false := by simp [enabled, hidle]
          rw [Pool.arrive_state, henabled, htaken]
          exact ⟨rfl, rfl⟩
    · exact hsame _ as (same_of_does (guar_onGameEvent (by simp) event))
    · exact hsame _ as (same_of_handing (handing_markLocalZoneLoaded epoch))
    · exact hsame _ as (same_of_does (guar_resumeFlush (by simp) f))
  · exact Pool.resume_guar .refl (fun _ _ _ => .trans) hlater i x as

/-- **The batch in every run.** While no newer travel is proposed, a client stays in its travel and takes the batch for
complete as the marks it has handled say. -/
theorem batch_run (sha256 : Base64.Bytes → String) {c : Run} (hlater : Pool.AllLater SameBatch c) (acts : List ClientAct)
    (hnew : ∀ m ∈ handled sha256 c acts, NotNewer c.state.travelEpoch m) :
    (runFrom sha256 c acts).state.travelEpoch = c.state.travelEpoch ∧
      (runFrom sha256 c acts).state.travelBatchComplete =
        ((handled sha256 c acts).findSome? (batchMark c.state.travelEpoch)).getD c.state.travelBatchComplete := by
  induction acts generalizing c with
  | nil => exact ⟨rfl, rfl⟩
  | cons a acts ih =>
    have hstep := batch_step sha256 hlater a fun m hm => hnew m (List.mem_append_right _ (by simpa using hm))
    have hnext : ∀ m ∈ handled sha256 (Pool.step (handle sha256) enabled c a) acts,
        NotNewer (Pool.step (handle sha256) enabled c a).state.travelEpoch m := by
      intro m hm
      rw [hstep.1]
      exact hnew m (List.mem_append_left _ hm)
    obtain ⟨hepoch, hcomplete⟩ := ih (Pool.step_later (same_later_handle sha256) hlater a) hnext
    refine ⟨hepoch.trans hstep.1, ?_⟩
    show (runFrom sha256 (Pool.step (handle sha256) enabled c a) acts).state.travelBatchComplete = _
    rw [hcomplete, hstep.1, hstep.2, handled, List.findSome?_append]
    rcases taken c.state a with _ | m
    · simp
    · cases (handled sha256 (Pool.step (handle sha256) enabled c a) acts).findSome? (batchMark c.state.travelEpoch) with
      | some b => rfl
      | none => simp

/-! ## The release -/

/-- everything buffered has been handed out, or a malformed update has ended the loop over messages -/
def Released (c : Client) : Prop :=
  c.listening = .dead ∨ (c.bufferedViewUpdates = [] ∧ c.bufferViewUpdates = false)

theorem wp_applyAll_sync (items : List Item) (own : Set Empty) (c : Client) :
    wp Discipline.sync own (applyAll items) (fun _ _ _ => True) c := by
  induction items generalizing own c with
  | nil => trivial
  | cons item rest ih =>
    rw [applyAll, wp_bind, applyGameMessage, wp_bind, wp_ofExcept]
    rcases (do Base64.b64decode (← (Json.obj item).item "payload_b64").toStr : Except Exc Base64.Bytes) with e | raw
    · trivial
    rw [andThen_ok, wp_bind, wp_modify, andThen_ok, wp_bind, wp_ofExcept]
    refine ⟨⟨trivial, fun m => m.elim⟩, ?_⟩
    rcases (do (← (Json.obj item).item "msg_id").toInt : Except Exc ℤ) with e | msgId
    · trivial
    rw [andThen_ok, wp_bind, wp_modify, andThen_ok, bridgeSend, wp_bind, wp_askEnv]
    refine ⟨⟨trivial, fun m => m.elim⟩, fun a => ?_⟩
    rw [andThen_ok, wp_modify, andThen_ok]
    exact ⟨⟨trivial, fun m => m.elim⟩, ih _ _⟩

theorem wp_onResume (payload : Json) (own : Set Empty) (c : Client) (hcomplete : c.travelBatchComplete = true)
    (hepoch : intField payload "epoch" (-1) = .ok c.travelEpoch) :
    wp Discipline.sync own (onResume payload)
      (fun r _ c' => r = .ok () → c'.bufferedViewUpdates = [] ∧ c'.bufferViewUpdates = false) c := by
  rw [onResume, wp_bind, wp_ofExcept, hepoch, andThen_ok, wp_bind, wp_get, andThen_ok]
  refine ⟨⟨trivial, fun m => m.elim⟩, ?_⟩
  rw [if_pos ⟨rfl, hcomplete⟩, wp_bind, finishLocalTravel, wp_bind, wp_get, andThen_ok, wp_bind]
  refine ⟨⟨trivial, fun m => m.elim⟩, wp_mono ?_ (wp_applyAll_sync _ _ c)⟩
  rintro (e | _) own' c' -
  · intro he
    cases he
  · rw [andThen_ok, wp_modify, andThen_ok, bridgeSend, wp_bind, wp_askEnv]
    refine ⟨⟨trivial, fun m => m.elim⟩, fun a => ?_⟩
    rw [andThen_ok, wp_modify]
    exact ⟨⟨trivial, fun m => m.elim⟩, fun _ => ⟨rfl, rfl⟩⟩

/-- **The release.** A client whose batch is complete hands out what it has buffered at `travel.resume`. -/
theorem resume_releases (sha256 : Base64.Bytes → String) (c : Run) (env : Envelope) (answers : List Answer)
    (htype : env.type = .travelResume) (hidle : c.state.listening = .idle)
    (hcomplete : c.state.travelBatchComplete = true)
    (hepoch : intField env.payload "epoch" (-1) = .ok c.state.travelEpoch) :
    Released (runFrom sha256 c [.arrive (.net (.ok env)) answers]).state := by
  have hlisten : wp Discipline.sync ∅ (listen sha256 (.ok env)) (fun _ _ c' => Released c') c.state := by
    rw [listen, setListening, wp_bind, wp_modify, andThen_ok]
    refine ⟨⟨trivial, fun m => m.elim⟩, ?_⟩
    rw [wp_bind, wp_attempt, wp_bind, wp_ofExcept, andThen_ok, onNetworkMessage_resume sha256 htype, wp_bind, wp_bind]
    refine wp_mono ?_ (wp_onResume env.payload _ { c.state with listening := .busy } hcomplete hepoch)
    rintro (e | _) own' c' hreleased
    · exact ⟨⟨trivial, fun m => m.elim⟩, Or.inl rfl⟩
    · exact ⟨⟨trivial, fun m => m.elim⟩, Or.inr (hreleased rfl)⟩
  obtain ⟨r, own', -, hreleased⟩ := wp_sync answers hlisten
  have henabled : enabled c.state (.net (.ok env)) = true := by simp [enabled, hidle]
  show Released (Pool.step (handle sha256) enabled c (.arrive (.net (.ok env)) answers)).state
  rw [Pool.arrive_state, henabled]
  exact hreleased

end Client

end KerMP
