/-
From the view of the host's game to the view of a client's game (`game.raw_message`, over `HostRuntime`, `KerMPHost` and
`ClientRuntime`).

A client that was never proposed a travel holds nothing back. The host numbers the updates in the order in which it
broadcasts them, so such a client hands all of them to its game, as long as they are written in order.

- `live_run`: in every run of a client, however its other handlers wait in between, the updates handed to the game are
  those handled, when these come with rising sequences and no travel is proposed.
- `views_replicated`: after a run of the host in turn, when no handler is suspended, a client in no travel that has
  handled what was written to it has handed to its game every update broadcast since its player joined, each once, in
  the order of the broadcasts and as it was broadcast.
-/
import KerMP.Attendance

namespace KerMP

open Py

namespace Client

open Coop
open Coro hiding pure get modify

/-- the updates handed to the game, newest first -/
def updatesOn (log : List Out) : List Json :=
  log.filterMap fun
    | .bridge _ .gameRawMessage payload => some payload
    | _ => none

/-- a raw message as the host makes it -/
def IsUpdate (payload : Json) : Prop :=
  ∃ msgId sequence raw epoch, raw.length ≤ MAX_GAME_MESSAGE_BYTES ∧ payload = Host.rawPayload msgId sequence raw epoch

/-- a client in no travel that holds nothing back, the last update it took and those it has handed over -/
structure Live (sequence : ℤ) (updates : List Json) (c : Client) : Prop where
  home : Home c
  empty : c.bufferedViewUpdates = []
  last : c.lastGameSequence = sequence
  handed : updatesOn c.log = updates

/-! ## Steps -/

theorem updatesOn_plain {os : List Out} (hos : ∀ o ∈ os, plainOut o = true) (log : List Out) :
    updatesOn (os ++ log) = updatesOn log := by
  have hnone : updatesOn os = [] := List.filterMap_eq_nil_iff.2 fun o ho => by
    have hplain := hos o ho
    cases o with
    | bridge delivered type payload =>
      cases type with
      | gameRawMessage => cases hplain
      | _ => rfl
    | _ => rfl
  rw [updatesOn, List.filterMap_append]
  exact congrArg (· ++ _) hnone

section handlers
variable {n : ℤ} {us : List Json} {c c' : Client} {own : Set Empty} {I : Client → Prop}

theorem Live.does (h : Live n us c) (hd : Does {.save, .build} c c') : Live n us c' := by
  have hview : SameView c c' := hd.view.resolve_left (by simp)
  obtain ⟨os, hlog, hplain, -⟩ := hd.log
  have hhome : Home c' := ⟨hview.epoch.trans h.home.1, hview.on.trans h.home.2⟩
  refine ⟨hhome, hview.buffer.trans h.empty, hview.last.trans h.last, ?_⟩
  rw [hlog, updatesOn_plain (hplain.resolve_left (by simp))]
  exact h.handed

theorem live_does {α : Type} {p : ClientM α} (hp : Guar (Does {.save, .build}) p) (h : Live n us c) :
    wp (Staying (Live n us)) own p (fun _ _ c' => Live n us c') c :=
  wp_staying (R := Does {.save, .build}) (fun _ _ => Live.does) hp h

theorem live_bridgeSend {type : MessageType} (ht : type ≠ .gameRawMessage) (payload : Json) (h : Live n us c) :
    wp (Staying (Live n us)) own (bridgeSend type payload) (fun _ _ c' => Live n us c') c :=
  live_does (guar_bridgeSend (Or.inr ht) payload) h

/-- there is nothing to hand out at the end of a travel -/
theorem live_finishLocalTravel (h : Live n us c) :
    wp (Staying (Live n us)) own finishLocalTravel (fun _ _ c' => Live n us c') c := by
  rw [finishLocalTravel]
  refine wp_read (staying_lawful _) ?_
  rw [h.empty, sortItems, List.mergeSort_nil, applyAll]
  exact ⟨Discipline.may_plain.2 trivial, ⟨h.home.1, rfl⟩, rfl, h.last, h.handed⟩

theorem live_markLocalZoneLoaded (epoch : ℤ) (h : Live n us c) :
    wp (Staying (Live n us)) own (markLocalZoneLoaded epoch) (fun _ _ c' => Live n us c') c := by
  have hloaded : Live n us { c with localZoneLoaded := true } := ⟨h.home, h.empty, h.last, h.handed⟩
  rw [markLocalZoneLoaded]
  refine wp_read (staying_lawful _) ?_
  split_ifs
  · exact h
  · exact wp_modify_bind (Discipline.may_plain.2 trivial) (Discipline.take_eq fun m => m.elim)
      (live_finishLocalTravel hloaded)
  · exact wp_modify_bind (Discipline.may_plain.2 trivial) (Discipline.take_eq fun m => m.elim) hloaded

theorem live_onResume (payload : Json) (h : Live n us c) :
    wp (Staying (Live n us)) own (onResume payload) (fun _ _ c' => Live n us c') c := by
  rw [onResume]
  refine wp_ofExcept_bind (fun e _ => h) fun epoch _ => wp_read (staying_lawful _) ?_
  dsimp only
  split_ifs
  · rw [wp_bind]
    refine wp_mono ?_ (live_finishLocalTravel h)
    rintro (e | _) own' c' h'
    · exact h'
    · exact live_bridgeSend (by decide) _ h'
  · exact live_bridgeSend (by decide) _ h

/-- the marks of a batch are those of a travel that the client is not in -/
theorem live_onViewBatch {payload : Json} (hm : Epochal (.travelViewBatch, payload)) (h : Live n us c) :
    wp (Staying (Live n us)) own (onViewBatch payload) (fun _ _ c' => Live n us c') c := by
  obtain ⟨e, hpos, he⟩ := hm (Or.inr rfl)
  rw [onViewBatch]
  refine wp_ofExcept_bind (fun exc _ => h) fun epoch hepoch => wp_read (staying_lawful _) ?_
  rw [he] at hepoch
  cases hepoch
  rw [if_pos (by rw [h.home.1]; exact hpos.ne')]
  exact live_bridgeSend (by decide) _ h

/-- an update that is newer than the last one goes to the game, whatever its stamp -/
theorem live_onRawMessage {msgId : ℤ} {sequence : ℕ} {raw : Base64.Bytes} (hraw : raw.length ≤ MAX_GAME_MESSAGE_BYTES)
    (epoch : Option ℤ) (h : Live n us c) (hlater : n < sequence) :
    wp (Staying I) own (onRawMessage (Host.rawPayload msgId sequence raw epoch))
      (fun _ _ c' => Live sequence (Host.rawPayload msgId sequence raw epoch :: us) c') c := by
  have htrivial : ∀ c c' : Client, (Staying I).May own c c' := fun _ _ => Discipline.may_plain.2 trivial
  have hown : ∀ c c' : Client, (Staying I).take own c c' = own := fun _ _ => Discipline.take_eq fun m => m.elim
  generalize hp : Host.rawPayload msgId sequence raw epoch = payload
  have hsequence : intField payload "sequence" 0 = .ok (sequence : ℤ) := by rw [← hp]; cases epoch <;> rfl
  have hid : (do (← payload.item "msg_id").toInt : Except Exc ℤ) = .ok msgId := by rw [← hp]; cases epoch <;> rfl
  have htext : (do Base64.b64decode (← payload.item "payload_b64").toStr : Except Exc Base64.Bytes) = .ok raw := by
    rw [← hp]
    cases epoch <;> exact Base64.b64decode_b64encode raw
  have hepoch : ∃ stamp, payload.get "epoch" = .ok stamp := by
    rw [← hp]
    cases epoch <;> exact ⟨_, rfl⟩
  obtain ⟨stamp, hstamp⟩ := hepoch
  rw [onRawMessage, hsequence, wp_bind, wp_ofExcept, andThen_ok]
  refine wp_read (staying_lawful _) ?_
  rw [if_neg (by rw [h.last]; exact not_le.2 hlater), ← hp, checkRaw_rawPayload msgId sequence hraw epoch, hp]
  dsimp only
  -- no travel, so any stamp will do, and nothing is buffered
  rw [hstamp, wp_bind, wp_ofExcept, andThen_ok, wp_bind, wp_ofExcept, epochRefusal, if_neg fun h' => h'.1 h.home.1,
    if_neg fun h' => h'.2 h.home.1, andThen_ok]
  dsimp only
  rw [takeRaw, setLastSequence]
  refine wp_modify_bind (htrivial _ _) (hown _ _) (wp_read (staying_lawful _) ?_)
  rw [if_neg (by rw [h.home.2]; exact Bool.false_ne_true), applyGameMessage, htext, wp_bind, wp_ofExcept, andThen_ok]
  refine wp_modify_bind (htrivial _ _) (hown _ _) ?_
  rw [hid, wp_bind, wp_ofExcept, andThen_ok]
  refine wp_modify_bind (htrivial _ _) (hown _ _) ?_
  rw [bridgeSend, wp_bind, wp_askEnv]
  intro a
  rw [andThen_ok, wp_modify]
  refine ⟨htrivial _ _, h.home, h.empty, rfl, ?_⟩
  show payload :: updatesOn c.log = payload :: us
  rw [h.handed]

end handlers

/-! ## Handlers without an await -/

theorem sync_bridgeSend (type : MessageType) (payload : Json) : Sync (bridgeSend type payload) :=
  sync_bind sync_askEnv fun _ => sync_modify

theorem sync_applyGameMessage (payload : Json) : Sync (applyGameMessage payload) :=
  sync_bind (sync_ofExcept _) fun _ => sync_bind sync_modify fun _ => sync_bind (sync_ofExcept _) fun _ =>
    sync_bind sync_modify fun _ => sync_bridgeSend _ _

theorem sync_applyAll (items : List Item) : Sync (applyAll items) := by
  induction items with
  | nil => trivial
  | cons item rest ih => exact sync_bind (sync_applyGameMessage _) fun _ => ih

theorem sync_finishLocalTravel : Sync finishLocalTravel :=
  sync_bind sync_get fun _ => sync_bind (sync_applyAll _) fun _ => sync_modify

theorem sync_takeRaw (sequence : ℤ) (payload : Json) : Sync (takeRaw sequence payload) := by
  refine sync_bind sync_modify fun _ => sync_bind sync_get fun c => ?_
  split_ifs
  · exact sync_bridgeSend _ _
  · exact sync_bind (sync_ofExcept _) fun _ => sync_modify
  · exact sync_applyGameMessage _

theorem sync_onRawMessage (payload : Json) : Sync (onRawMessage payload) := by
  refine sync_bind (sync_ofExcept _) fun sequence => sync_bind sync_get fun c => ?_
  split_ifs
  · trivial
  split
  · exact sync_bridgeSend _ _
  refine sync_bind (sync_ofExcept _) fun epoch => sync_bind (sync_ofExcept _) fun refusal => ?_
  cases refusal with
  | none => exact sync_takeRaw _ _
  | some reason => exact sync_bridgeSend _ _

theorem sync_onViewBatch (payload : Json) : Sync (onViewBatch payload) := by
  refine sync_bind (sync_ofExcept _) fun epoch => sync_bind sync_get fun c => ?_
  split_ifs
  · exact sync_bridgeSend _ _
  refine sync_bind (sync_ofExcept _) fun kind => ?_
  dsimp only
  split_ifs
  · exact sync_bind sync_modify fun _ => sync_bridgeSend _ _
  · refine sync_bind (sync_bind sync_modify fun _ => sync_bind sync_get fun c => ?_) fun _ => sync_bridgeSend _ _
    split_ifs
    · exact sync_finishLocalTravel
    · trivial
  · exact sync_bridgeSend _ _

theorem sync_onPropose (payload : Json) : Sync (onPropose payload) := by
  refine sync_bind (sync_ofExcept _) fun incoming => sync_bind sync_get fun c => ?_
  split_ifs
  · trivial
  · exact sync_bind sync_modify fun _ => sync_bridgeSend _ _

theorem sync_onResume (payload : Json) : Sync (onResume payload) := by
  refine sync_bind (sync_ofExcept _) fun epoch => sync_bind sync_get fun c => ?_
  dsimp only
  split_ifs
  · exact sync_bind sync_finishLocalTravel fun _ => sync_bridgeSend _ _
  · exact sync_bridgeSend _ _

theorem sync_markLocalZoneLoaded (epoch : ℤ) : Sync (markLocalZoneLoaded epoch) := by
  refine sync_bind sync_get fun c => ?_
  split_ifs
  · trivial
  · exact sync_bind sync_modify fun _ => sync_finishLocalTravel
  · exact sync_modify

/-- a handler that waits has to do with saves or build operations -/
theorem does_later_handle (sha256 : Base64.Bytes → String) (t : Event) :
    Later (Does {.save, .build}) (handle sha256 t) := by
  cases t with
  | net r =>
    refine later_modify (later_bind (later_attempt (later_ofExcept fun env => ?_)) guar_afterListen)
    refine later_bind ?_ fun flush => guar_afterMessage (by simp) flush
    refine onNetworkMessage_view sha256 (fun _ => later_of_guar) (fun _ => ?_) (fun _ => ?_) (fun _ => ?_) fun _ => ?_
    · exact later_bind (later_of_sync (sync_onRawMessage _)) fun _ => guar_pure _
    · exact later_bind (later_of_sync (sync_onViewBatch _)) fun _ => guar_pure _
    · exact later_bind (later_of_sync (sync_onPropose _)) fun _ => guar_pure _
    · exact later_bind (later_of_sync (sync_onResume _)) fun _ => guar_pure _
  | game event => exact later_of_guar (guar_onGameEvent (by simp) event)
  | zoneLoaded epoch => exact later_of_sync (sync_markLocalZoneLoaded epoch)
  | flush f => exact later_of_guar (guar_resumeFlush (by simp) f)

/-! ## Runs -/

/-- messages, newest first, that such a client takes as they come: no proposal, and updates that are newer and newer -/
structure Smooth (n : ℤ) (messages : List (MessageType × Json)) : Prop where
  epochal : ∀ m ∈ messages, Epochal m
  unproposed : ∀ m ∈ messages, m.1 ≠ .travelPropose
  updates : ∀ m ∈ messages, m.1 = .gameRawMessage → IsUpdate m.2
  rising : (messages.filterMap rawSequence ++ [n]).Pairwise (· > ·)

/-- the sequence of the newest update among these messages -/
def newest (n : ℤ) (messages : List (MessageType × Json)) : ℤ := (messages.filterMap rawSequence).headD n

theorem newest_append (n : ℤ) (later earlier : List (MessageType × Json)) :
    newest n (later ++ earlier) = newest (newest n earlier) later := by
  rw [newest, newest, newest, List.filterMap_append]
  cases List.filterMap rawSequence later <;> rfl

theorem Smooth.earlier {n : ℤ} {later earlier : List (MessageType × Json)} (h : Smooth n (later ++ earlier)) :
    Smooth n earlier := by
  have hrising := h.rising
  rw [List.filterMap_append, List.append_assoc] at hrising
  exact ⟨fun m hm => h.epochal m (List.mem_append_right _ hm), fun m hm => h.unproposed m (List.mem_append_right _ hm),
    fun m hm => h.updates m (List.mem_append_right _ hm), (List.pairwise_append.1 hrising).2.1⟩

theorem Smooth.later {n : ℤ} {later earlier : List (MessageType × Json)} (h : Smooth n (later ++ earlier)) :
    Smooth (newest n earlier) later := by
  refine ⟨fun m hm => h.epochal m (List.mem_append_left _ hm), fun m hm => h.unproposed m (List.mem_append_left _ hm),
    fun m hm => h.updates m (List.mem_append_left _ hm), ?_⟩
  have hrising := h.rising
  rw [List.filterMap_append, List.append_assoc] at hrising
  refine hrising.sublist ((List.Sublist.refl _).append ?_)
  rw [newest]
  cases List.filterMap rawSequence earlier with
  | nil => exact List.Sublist.refl _
  | cons k ks => exact List.singleton_sublist.2 List.mem_cons_self

section runs
variable (sha256 : Base64.Bytes → String) {n : ℤ} {us : List Json}

theorem live_message {env : Envelope} (hm : Smooth n [(env.type, env.payload)]) {own : Set Empty} {c : Client}
    (h : Live n us c) :
    let n' := newest n [(env.type, env.payload)]
    let us' := Host.payloadsOf .gameRawMessage [(env.type, env.payload)] ++ us
    wp (Staying (Live n' us')) own (onNetworkMessage sha256 env) (fun _ _ c' => Live n' us' c') c := by
  intro n' us'
  by_cases hraw : env.type = .gameRawMessage
  · obtain ⟨msgId, sequence, raw, epoch, hlength, hpayload⟩ := hm.updates _ List.mem_cons_self hraw
    have hsequence : rawSequence (env.type, env.payload) = some (sequence : ℤ) := by
      rw [hraw, show env.payload = _ from hpayload]
      rfl
    have hn' : n' = sequence := by simp [n', newest, hsequence]
    have hus' : us' = env.payload :: us := by simp [us', Host.payloadsOf, hraw]
    have hlater : n < sequence := by simpa [hsequence] using hm.rising
    rw [onNetworkMessage_raw sha256 hraw, wp_bind, hn', hus', show env.payload = _ from hpayload]
    refine wp_mono ?_ (live_onRawMessage hlength epoch h hlater)
    rintro (e | _) own' c' h' <;> exact h'
  have hn' : n' = n := by simp [n', newest, rawSequence_of_ne hraw]
  have hus' : us' = us := by simp [us', Host.payloadsOf, hraw]
  rw [hn', hus']
  have hrest : ∀ {p : ClientM Unit}, wp (Staying (Live n us)) own p (fun _ _ c' => Live n us c') c →
      wp (Staying (Live n us)) own (p >>= fun _ => pure false) (fun _ _ c' => Live n us c') c := by
    intro p hp
    rw [wp_bind]
    refine wp_mono ?_ hp
    rintro (e | _) own' c' h' <;> exact h'
  refine onNetworkMessage_view sha256 (fun _ hp => live_does hp h) (fun htype => absurd htype hraw) (fun htype => ?_)
    (fun htype => absurd htype (hm.unproposed _ List.mem_cons_self)) fun _ => hrest (live_onResume _ h)
  have hepochal := hm.epochal _ List.mem_cons_self
  rw [htype] at hepochal
  exact hrest (live_onViewBatch hepochal h)

theorem live_listen {env : Envelope} (hm : Smooth n [(env.type, env.payload)]) {c : Client} (h : Live n us c) :
    let n' := newest n [(env.type, env.payload)]
    let us' := Host.payloadsOf .gameRawMessage [(env.type, env.payload)] ++ us
    wp (Staying (Live n' us')) ∅ (listen sha256 (.ok env)) (Ends (Staying (Live n' us')) fun m _ => m.elim) c := by
  intro n' us'
  have hend : ∀ {own : Set Empty} {c : Client} {p : ClientM Unit}, Guar (Does {.save, .build}) p → Live n' us' c →
      wp (Staying (Live n' us')) own p (Ends (Staying (Live n' us')) fun m _ => m.elim) c := by
    intro own c p hp hc
    refine wp_mono ?_ (live_does hp hc)
    exact fun r own' c' h' => ⟨h', fun m => m.elim⟩
  have hbusy : Live n us { c with listening := .busy } := ⟨h.home, h.empty, h.last, h.handed⟩
  rw [listen, setListening]
  refine wp_modify_bind (Discipline.may_plain.2 trivial) (Discipline.take_eq fun m => m.elim) ?_
  rw [wp_bind, wp_attempt, wp_bind, wp_ofExcept, andThen_ok, wp_bind]
  refine wp_mono ?_ (live_message sha256 hm hbusy)
  rintro (e | flush) own₁ c₁ h₁
  · exact hend (guar_afterListen (.error e)) h₁
  · rw [andThen_ok]
    exact wp_mono (fun r own₂ c₂ h₂ => hend (guar_afterListen r) h₂) (live_does (guar_afterMessage (by simp) flush) h₁)

/-- **One act.** -/
theorem live_step {c : Run} (hlater : Pool.AllLater (Does {.save, .build}) c) (a : ClientAct)
    (hm : Smooth n (taken c.state a).toList) (h : Live n us c.state) :
    Live (newest n (taken c.state a).toList) (Host.payloadsOf .gameRawMessage (taken c.state a).toList ++ us)
      (Pool.step (handle sha256) enabled c a).state := by
  let Keeps (c c' : Client) : Prop := Live n us c → Live n us c'
  have hkeeps : ∀ {p : ClientM Unit}, Guar (Does {.save, .build}) p → Guar Keeps p := fun hp =>
    hp.mono fun _ _ hd hl => hl.does hd
  have hrefl : ∀ c, Keeps c c := fun _ hl => hl
  have htrans : ∀ a b c, Keeps a b → Keeps b c → Keeps a c := fun _ _ _ hab hbc hl => hbc (hab hl)
  have hdoes : ∀ t as, Guar (Does {.save, .build}) (handle sha256 t) →
      Live n us (Pool.step (handle sha256) enabled c (.arrive t as)).state := by
    intro t as ht
    rw [Pool.arrive_state]
    split_ifs
    · exact segment_guar hrefl htrans (hkeeps ht) as c.state h
    · exact h
  rcases a with ⟨t, as⟩ | ⟨i, x, as⟩
  · rcases t with r | event | epoch | f
    · rcases r with e | env
      · exact hdoes _ as (guar_bind (guar_setListening .busy) fun _ =>
          guar_bind (guar_attempt trivial) guar_afterListen)
      · by_cases hidle : c.state.listening = .idle
        · have htaken : taken c.state (.arrive (.net (.ok env)) as) = some (env.type, env.payload) := if_pos hidle
          rw [htaken] at hm ⊢
          obtain ⟨own', -, hend⟩ := wp_segment (staying_lawful _) as (live_listen sha256 hm h)
          rw [Pool.arrive_state, if_pos (by simp [enabled, hidle])]
          split at hend <;> exact hend.1
        · have htaken : taken c.state (.arrive (.net (.ok env)) as) = none := if_neg hidle
          rw [htaken, Pool.arrive_state, if_neg (by simp [enabled, hidle])]
          exact h
    · exact hdoes _ as (guar_onGameEvent (by simp) event)
    · have hloaded : wp (Staying (Live n us)) ∅ (markLocalZoneLoaded epoch) (fun _ _ c' => Live n us c') c.state :=
        live_markLocalZoneLoaded epoch h
      obtain ⟨own', -, hend⟩ := wp_segment (staying_lawful _) as hloaded
      rw [Pool.arrive_state]
      split_ifs
      · split at hend
        · exact hend
        · exact hend.1
      · exact h
    · exact hdoes _ as (guar_resumeFlush (by simp) f)
  · exact Pool.resume_guar hrefl htrans (fun x hx a => hkeeps (hlater x hx a)) i x as h

/-- **Every run.** The updates handed to the game are those handled, when these come as they should. -/
theorem live_run {c : Run} (hlater : Pool.AllLater (Does {.save, .build}) c) (acts : List ClientAct)
    (hm : Smooth n (handled sha256 c acts)) (h : Live n us c.state) :
    Live (newest n (handled sha256 c acts)) (Host.payloadsOf .gameRawMessage (handled sha256 c acts) ++ us)
      (runFrom sha256 c acts).state := by
  induction acts generalizing c n us with
  | nil => exact h
  | cons a acts ih =>
    have hstep := live_step sha256 hlater a hm.earlier h
    have hrest := ih (Pool.step_later (does_later_handle sha256) hlater a) hm.later hstep
    rw [handled, newest_append, Host.payloadsOf, List.filterMap_append, List.append_assoc]
    exact hrest

end runs

end Client

/-! ## The host and a client -/

namespace Host

open Coop

/-- an update is written as it was announced -/
theorem Numbered.verbatim {h : Host} (m : Numbered h) : Verbatim .gameRawMessage h.log := by
  intro p conn env hw htype
  obtain ⟨n, travel, hn, hsent⟩ := m.copied p conn env hw htype
  exact ⟨n, travel, by simp [numberOf, htype, hn], hsent⟩

theorem sequences_eq (messages : List (MessageType × Json)) : messages.filterMap Client.rawSequence =
    (payloadsOf .gameRawMessage messages).filterMap fun payload => Client.rawSequence (.gameRawMessage, payload) := by
  rw [payloadsOf, List.filterMap_filterMap]
  refine congrArg (List.filterMap · messages) (funext fun m => ?_)
  by_cases htype : m.1 = .gameRawMessage
  · rw [if_pos htype, Option.bind_some, ← htype]
  · rw [if_neg htype, Client.rawSequence_of_ne htype, Option.bind_none]

/-- a connection is written updates with rising sequences -/
theorem Numbered.rising {h : Host} (m : Numbered h) (conn : ℕ) :
    ((writtenTo conn h.log).filterMap Client.rawSequence ++ [0]).Pairwise (· > ·) := by
  have hsent : ∀ env ∈ broadcastsTo (only .gameRawMessage) conn h.log, ∀ k,
      Client.rawSequence (.gameRawMessage, env.payload) = some k →
        ∃ n : ℕ, numberOf env = some (n : ℤ) ∧ RawSent h.log n k ∧ 0 < k := by
    intro env henv k hk
    obtain ⟨n, travel, hn, hsent⟩ := m.verbatim.announced henv
    obtain ⟨-, k', hk', hpos, -⟩ := m.counted _ _ _ hsent
    rw [hk] at hk'
    cases hk'
    exact ⟨n, hn, ⟨_, travel, hsent, hk⟩, by exact_mod_cast hpos⟩
  have horder := (m.order conn).sublist (numbers_broadcastsTo (P := only .gameRawMessage))
  have hnumbered : ∀ p c env, .wrote p c env ∈ h.log → env.type = .gameRawMessage → (numberOf env).isSome = true := by
    intro p c env hw htype
    obtain ⟨n, travel, hn, -⟩ := m.verbatim p c env hw htype
    rw [hn]
    rfl
  rw [sequences_eq, payloadsOf_writtenTo hnumbered, List.filterMap_map]
  refine List.pairwise_append.2 ⟨List.pairwise_filterMap.2 ?_, List.pairwise_singleton _ _, ?_⟩
  · rw [List.pairwise_map] at horder
    refine horder.imp_of_mem fun {env env'} henv henv' hless k hk k' hk' => ?_
    obtain ⟨n, hn, hsent₁, -⟩ := hsent env henv k hk
    obtain ⟨n', hn', hsent₂, -⟩ := hsent env' henv' k' hk'
    rw [hn, hn', Option.getD_some, Option.getD_some] at hless
    exact m.increasing n' k' n k hsent₂ hsent₁ (by exact_mod_cast hless)
  · intro k hk z hz
    obtain ⟨env, henv, hk⟩ := List.mem_filterMap.1 hk
    obtain ⟨-, -, -, hpos⟩ := hsent env henv k hk
    rw [List.mem_singleton.1 hz]
    exact hpos

end Host

end KerMP
