/-
What a client passes on to its game (`ClientRuntime._on_network_message` of `kermp/runtime.py`).

Most messages of the host go on to the game as they come. Meanwhile the client buffers view updates, receives a save and
empties its queue of build operations, and waits for its socket in all of them. None of this loses, repeats or reorders
a message that goes on.

- `relayed_step`: an act passes on the message it brings, if that is to be passed on, and no other.
- `relayed_in_order`: after every run the game has been sent exactly the messages of these types that were handled, in
  their order.
-/
import KerMP.Batches

namespace KerMP.Client

open Py Coop
open Coro hiding pure get modify

/-- the messages that go on to the game as they come -/
def relayed : MessageType → Bool
  | .travelCommit | .travelAbort | .buildApply | .clockState | .simState | .simSelectionState | .interactionAccepted
  | .interactionRejected | .interactionCommandAccepted | .interactionCommandRejected | .interactionQueued
  | .interactionStarted | .interactionFinished | .interactionCancel => true
  | _ => false

/-- the message that an entry hands to the game, if it is one of these -/
def Out.relayed : Out → Option (MessageType × Json)
  | .bridge _ type payload => if Client.relayed type then some (type, payload) else none
  | _ => none

/-- the messages that were passed on to the game, newest first -/
def relayedOn (log : List Out) : List (MessageType × Json) := log.filterMap Out.relayed

/-- a step that passes nothing on -/
def Silent (c c' : Client) : Prop := relayedOn c'.log = relayedOn c.log

theorem Silent.refl (c : Client) : Silent c c := rfl

theorem Silent.trans {a b c : Client} (h : Silent a b) (h' : Silent b c) : Silent a c := Eq.trans h' h

theorem silent_note {c c' : Client} {o : Out} (hlog : c'.log = o :: c.log) (ho : o.relayed = none) : Silent c c' := by
  rw [Silent, hlog, relayedOn, List.filterMap_cons_none ho]
  rfl

theorem silent_same {c c' : Client} (hlog : c'.log = c.log) : Silent c c' := congrArg relayedOn hlog

/-! ## Handlers that pass nothing on -/

theorem silent_read : Guar Silent (Coro.get : ClientM Client) := guar_get Silent.refl

theorem silent_bridgeSend {type : MessageType} (ht : relayed type = false) (payload : Json) :
    Guar Silent (bridgeSend type payload) :=
  guar_bind guar_askEnv fun _ => guar_modify fun _ => silent_note rfl (by simp [Out.relayed, ht])

theorem silent_send (type : MessageType) (payload : Json) : Guar Silent (send type payload) := by
  refine guar_bind (guar_modify fun _ => silent_note rfl rfl) fun _ => guar_bind guar_suspend fun a => ?_
  split_ifs
  · exact guar_pure ()
  · exact guar_raise _

theorem silent_applyGameMessage (payload : Json) : Guar Silent (applyGameMessage payload) :=
  guar_bind (guar_ofExcept _) fun _ => guar_bind (guar_modify fun _ => silent_same rfl) fun _ =>
    guar_bind (guar_ofExcept _) fun _ => guar_bind (guar_modify fun _ => silent_same rfl) fun _ =>
      silent_bridgeSend rfl _

theorem silent_applyAll (items : List Item) : Guar Silent (applyAll items) := by
  induction items with
  | nil => exact guar_pure ()
  | cons item rest ih => exact guar_bind (silent_applyGameMessage _) fun _ => ih

theorem silent_finishLocalTravel : Guar Silent finishLocalTravel :=
  guar_bind silent_read fun _ => guar_bind (silent_applyAll _) fun _ => guar_modify fun _ => silent_same rfl

theorem silent_takeRaw (sequence : ℤ) (payload : Json) : Guar Silent (takeRaw sequence payload) := by
  refine guar_bind (guar_modify fun _ => silent_same rfl) fun _ => guar_bind silent_read fun c => ?_
  split_ifs
  · exact silent_bridgeSend rfl _
  · exact guar_bind (guar_ofExcept _) fun item => guar_modify fun _ => silent_same rfl
  · exact silent_applyGameMessage _

theorem silent_onRawMessage (payload : Json) : Guar Silent (onRawMessage payload) := by
  refine guar_bind (guar_ofExcept _) fun sequence => guar_bind silent_read fun c => ?_
  split_ifs
  · exact guar_pure ()
  split
  · exact silent_bridgeSend rfl _
  refine guar_bind (guar_ofExcept _) fun epoch => guar_bind (guar_ofExcept _) fun refusal => ?_
  cases refusal with
  | some reason => exact silent_bridgeSend rfl _
  | none => exact silent_takeRaw _ _

theorem silent_onViewBatch (payload : Json) : Guar Silent (onViewBatch payload) := by
  have hsend : Guar Silent (bridgeSend .travelViewBatch payload) := silent_bridgeSend rfl payload
  refine guar_bind (guar_ofExcept _) fun epoch => guar_bind silent_read fun c => ?_
  split_ifs
  · exact silent_bridgeSend rfl _
  refine guar_bind (guar_ofExcept _) fun kind => ?_
  dsimp only
  split_ifs
  · exact guar_bind (guar_modify fun _ => silent_same rfl) fun _ => hsend
  · refine guar_bind (guar_bind (guar_modify fun _ => silent_note rfl rfl) fun _ => guar_bind silent_read fun c => ?_)
      fun _ => hsend
    split_ifs
    · exact silent_finishLocalTravel
    · exact guar_pure ()
  · exact hsend

theorem silent_onPropose (payload : Json) : Guar Silent (onPropose payload) := by
  refine guar_bind (guar_ofExcept _) fun incoming => guar_bind silent_read fun c => ?_
  split_ifs
  · exact guar_pure ()
  · exact guar_bind (guar_modify fun _ => silent_note rfl rfl) fun _ => silent_bridgeSend rfl _

theorem silent_onResume (payload : Json) : Guar Silent (onResume payload) := by
  have hsend : Guar Silent (bridgeSend .travelResume payload) := silent_bridgeSend rfl payload
  refine guar_bind (guar_ofExcept _) fun epoch => guar_bind silent_read fun c => ?_
  dsimp only
  split_ifs
  · exact guar_bind silent_finishLocalTravel fun _ => hsend
  · exact hsend

theorem silent_markLocalZoneLoaded (epoch : ℤ) : Guar Silent (markLocalZoneLoaded epoch) := by
  refine guar_bind silent_read fun c => ?_
  split_ifs
  · exact guar_pure ()
  · exact guar_bind (guar_modify fun _ => silent_same rfl) fun _ => silent_finishLocalTravel
  · exact guar_bind (guar_modify fun _ => silent_same rfl) fun _ => guar_pure ()

theorem silent_setListening (l : Listen) : Guar Silent (setListening l) := guar_modify fun _ => silent_same rfl

theorem silent_flushBuild (f : Flush) : Guar Silent (flushBuild f) := by
  have hdone : Guar Silent (flushDone f) := by
    cases f with
    | net => exact silent_setListening .idle
    | game => exact guar_pure ()
  refine guar_bind silent_read fun c => ?_
  split
  · split_ifs
    · exact guar_bind (guar_modify fun _ => silent_same rfl) fun _ => guar_bind (silent_send _ _) fun _ =>
        guar_modify fun _ => silent_same rfl
    · exact hdone
  · exact hdone

theorem silent_onLockState (payload : Json) : Guar Silent (onLockState payload) :=
  guar_bind silent_read fun _ => guar_bind (guar_ofExcept _) fun _ => guar_bind (guar_modify fun _ => silent_same rfl)
    fun _ => guar_bind (silent_bridgeSend rfl _) fun _ => guar_pure _

theorem silent_onSims (payload : Json) : Guar Silent (onSims payload) := by
  refine guar_bind (guar_ofExcept _) fun sims => guar_bind (silent_send _ _) fun _ => guar_bind (guar_ofExcept _)
    fun active => ?_
  split_ifs
  · exact guar_pure ()
  · exact silent_send _ _

theorem silent_onBuildOperation (payload : Json) : Guar Silent (onBuildOperation payload) := by
  refine guar_bind (guar_modify fun _ => silent_note rfl rfl) fun _ => guar_bind silent_read fun c => ?_
  split_ifs
  · exact silent_flushBuild .game
  · exact silent_send _ _

theorem silent_onGameEvent (event : BridgeEvent) : Guar Silent (onGameEvent event) := by
  unfold onGameEvent
  split
  · exact guar_bind silent_read fun c => guar_bind (silent_bridgeSend rfl _) fun _ => silent_send _ _
  · exact guar_bind (guar_ofExcept _) fun status => silent_send _ _
  any_goals exact silent_send _ _
  · exact silent_onSims _
  · exact silent_onSims _
  · exact silent_onBuildOperation _
  · exact guar_bind (guar_modify fun _ => silent_same rfl) fun _ => silent_send _ _
  · exact guar_pure ()

theorem silent_resumeFlush (f : Flush) : Guar Silent (resumeFlush f) := by
  refine guar_bind (guar_modify fun _ => silent_same rfl) fun _ => guar_bind (guar_attempt (silent_flushBuild f))
    fun r => ?_
  split
  · exact silent_setListening .dead
  · exact guar_pure ()

/-! ## Saves -/

theorem silent_activeSave : Guar Silent activeSave := by
  refine guar_bind silent_read fun c => ?_
  cases c.saveReceiver with
  | some r => exact guar_pure r
  | none => exact guar_raise _

theorem silent_setSave (r : Option SaveReceiver) : Guar Silent (setSave r) := guar_modify fun _ => silent_same rfl

theorem silent_onDisk {α : Type} (f : Disk → Except Exc (α × Disk)) : Guar Silent (onDisk f) := by
  refine guar_tryCall fun c => ?_
  cases f c.disk with
  | ok r => exact silent_same rfl
  | error e => exact Silent.refl c

theorem silent_onSaveManifest (payload : Json) : Guar Silent (onSaveManifest payload) := by
  refine guar_bind (guar_attempt (guar_bind (silent_onDisk _) fun r => guar_bind (silent_setSave _) fun _ =>
    silent_send _ _)) fun r => ?_
  cases r with
  | ok _ => exact guar_pure ()
  | error e =>
    dsimp only
    split_ifs
    · exact silent_send _ _
    · exact guar_raise _

theorem silent_onSaveChunk (payload : Json) : Guar Silent (onSaveChunk payload) := by
  refine guar_bind (guar_attempt (guar_bind silent_activeSave fun r => guar_bind (guar_ofExcept _) fun data =>
    guar_bind (guar_ofExcept _) fun index => guar_bind (silent_onDisk _) fun r => guar_bind (silent_setSave _) fun _ =>
      silent_send _ _)) fun r => ?_
  cases r with
  | ok _ => exact guar_pure ()
  | error e => exact guar_bind (guar_modify fun _ => silent_same rfl) fun _ => silent_send _ _

theorem silent_onSaveEnd (sha256 : Base64.Bytes → String) (payload : Json) :
    Guar Silent (onSaveEnd sha256 payload) := by
  refine guar_andFinally (guar_bind guar_askEnv fun a => guar_bind (guar_attempt (guar_bind silent_activeSave fun r =>
    guar_bind (guar_ofExcept _) fun sessionId => guar_bind (guar_tryCall fun _ => silent_same rfl) fun backup =>
      silent_send _ _)) fun done => ?_) (silent_setSave none)
  cases done with
  | ok _ => exact guar_pure ()
  | error e => exact silent_send _ _

/-! ## Messages -/

/-- the messages of the other types -/
theorem silent_onNetworkMessage (sha256 : Base64.Bytes → String) {env : Envelope} (ht : relayed env.type = false) :
    Guar Silent (onNetworkMessage sha256 env) := by
  unfold onNetworkMessage
  split
  case h_1 => exact guar_bind (silent_onSaveManifest _) fun _ => guar_pure _
  case h_2 => exact guar_bind (silent_onSaveChunk _) fun _ => guar_pure _
  case h_3 => exact guar_bind (silent_onSaveEnd _ _) fun _ => guar_pure _
  case h_4 => exact guar_bind (silent_onRawMessage _) fun _ => guar_pure _
  case h_5 => exact guar_bind (silent_onViewBatch _) fun _ => guar_pure _
  case h_6 => exact guar_bind (silent_onPropose _) fun _ => guar_pure _
  case h_7 => exact guar_bind (silent_onResume _) fun _ => guar_pure _
  case h_10 => exact silent_onLockState _
  case h_23 => exact guar_bind (silent_bridgeSend rfl _) fun _ => guar_pure _
  case h_24 => exact guar_pure _
  all_goals
    rename_i h
    rw [h] at ht
    cases ht

theorem onNetworkMessage_relayed (sha256 : Base64.Bytes → String) {env : Envelope} (ht : relayed env.type = true) :
    onNetworkMessage sha256 env = bridgeSend env.type env.payload >>= fun _ => pure false := by
  unfold onNetworkMessage
  cases htype : env.type
  all_goals first
    | rfl
    | (rw [htype] at ht; cases ht)

theorem silent_afterListen (r : Except Exc Unit) :
    Guar Silent (match r with | .ok _ => pure () | .error _ => setListening .dead : ClientM Unit) := by
  cases r with
  | ok _ => exact guar_pure ()
  | error e => exact silent_setListening .dead

theorem silent_afterMessage (flush : Bool) :
    Guar Silent (if flush then flushBuild .net else setListening .idle : ClientM Unit) := by
  split_ifs
  · exact silent_flushBuild .net
  · exact silent_setListening .idle

/-- nothing is passed on after the first await of a message -/
theorem silent_later_handle (sha256 : Base64.Bytes → String) (t : Event) : Later Silent (handle sha256 t) := by
  cases t with
  | net r =>
    refine later_modify (later_bind (later_attempt (later_ofExcept fun env => ?_)) silent_afterListen)
    cases ht : relayed env.type with
    | true =>
      rw [onNetworkMessage_relayed sha256 ht]
      have hsend : Later Silent (bridgeSend env.type env.payload) := later_askEnv fun _ => later_modify trivial
      exact later_bind (later_bind hsend fun _ => guar_pure _) silent_afterMessage
    | false => exact later_bind (later_of_guar (silent_onNetworkMessage sha256 ht)) silent_afterMessage
  | game event => exact later_of_guar (silent_onGameEvent event)
  | zoneLoaded epoch => exact later_of_guar (silent_markLocalZoneLoaded epoch)
  | flush f => exact later_of_guar (silent_resumeFlush f)

section runs
variable (sha256 : Base64.Bytes → String)

/-- a message that is passed on, up to the first await -/
theorem listen_relayed {env : Envelope} (ht : relayed env.type = true) (as : List Answer) (c : Client) :
    relayedOn ((listen sha256 (.ok env)).segment as c).2.log = (env.type, env.payload) :: relayedOn c.log := by
  have hlisten : wp Discipline.sync ∅ (listen sha256 (.ok env))
      (fun _ _ c' => relayedOn c'.log = (env.type, env.payload) :: relayedOn c.log) c := by
    rw [listen, setListening, wp_bind, wp_modify, andThen_ok, wp_bind, wp_attempt, wp_bind, wp_ofExcept, andThen_ok,
      onNetworkMessage_relayed sha256 ht, wp_bind, wp_bind, bridgeSend, wp_bind, wp_askEnv]
    refine ⟨⟨trivial, fun m => m.elim⟩, fun a => ?_⟩
    rw [andThen_ok, wp_modify]
    refine ⟨⟨trivial, fun m => m.elim⟩, ⟨trivial, fun m => m.elim⟩, ?_⟩
    exact List.filterMap_cons_some (by simp [Out.relayed, ht])
  obtain ⟨r, own', -, hlog⟩ := wp_sync as hlisten
  exact hlog

/-- **One act.** It brings a message, up to the first await, or does what the other handlers do. -/
theorem step_taken {P : Client → Client → Prop} (hrefl : ∀ c, P c c) (htrans : ∀ a b c, P a b → P b c → P a c)
    (hothers : ∀ t, (∀ env, t ≠ .net (.ok env)) → Guar P (handle sha256 t)) {c : Run} (hlater : Pool.AllLater P c)
    (a : ClientAct) :
    (taken c.state a = none ∧ P c.state (Pool.step (handle sha256) enabled c a).state) ∨
      ∃ env as, taken c.state a = some (env.type, env.payload) ∧
        (Pool.step (handle sha256) enabled c a).state = ((listen sha256 (.ok env)).segment as c.state).2 := by
  cases a with
  | resume i x as => exact Or.inl ⟨rfl, Pool.resume_guar hrefl htrans hlater i x as⟩
  | arrive t as =>
    rw [Pool.arrive_state]
    by_cases hmessage : ∃ env, t = .net (.ok env)
    · obtain ⟨env, rfl⟩ := hmessage
      by_cases hidle : c.state.listening = .idle
      · refine Or.inr ⟨env, as, if_pos hidle, ?_⟩
        rw [if_pos (by simp [enabled, hidle])]
        rfl
      · refine Or.inl ⟨if_neg hidle, ?_⟩
        rw [if_neg (by simp [enabled, hidle])]
        exact hrefl _
    · have hother : ∀ env, t ≠ .net (.ok env) := fun env ht => hmessage ⟨env, ht⟩
      refine Or.inl ⟨?_, ?_⟩
      · unfold taken
        split
        · rename_i heq
          cases heq
          exact absurd rfl (hother _)
        · rfl
      · split_ifs
        · exact segment_guar hrefl htrans (hothers t hother) as c.state
        · exact hrefl _

theorem silent_others (t : Event) (ht : ∀ env, t ≠ .net (.ok env)) : Guar Silent (handle sha256 t) := by
  cases t with
  | net r =>
    cases r with
    | error e =>
      exact guar_bind (silent_setListening .busy) fun _ => guar_bind (guar_attempt trivial) silent_afterListen
    | ok env => exact absurd rfl (ht env)
  | game event => exact silent_onGameEvent event
  | zoneLoaded epoch => exact silent_markLocalZoneLoaded epoch
  | flush f => exact silent_resumeFlush f

theorem relayed_step {c : Run} (hlater : Pool.AllLater Silent c) (a : ClientAct) :
    relayedOn (Pool.step (handle sha256) enabled c a).state.log =
      (taken c.state a).toList.filter (relayed ·.1) ++ relayedOn c.state.log := by
  obtain ⟨htaken, hsilent⟩ | ⟨env, as, htaken, hstate⟩ :=
    step_taken sha256 .refl (fun _ _ _ => .trans) (silent_others sha256) hlater a
  · rw [htaken]
    exact hsilent
  rw [htaken, hstate, Option.toList_some]
  cases ht : relayed env.type with
  | true =>
    rw [listen_relayed sha256 ht, List.filter_cons_of_pos (by exact ht)]
    rfl
  | false =>
    have hmessage : Guar Silent (do
        let flush ← onNetworkMessage sha256 env
        if flush then flushBuild .net else setListening .idle : ClientM Unit) :=
      guar_bind (silent_onNetworkMessage sha256 ht) silent_afterMessage
    have hlisten : Guar Silent (listen sha256 (.ok env)) :=
      guar_bind (silent_setListening .busy) fun _ => guar_bind (guar_attempt hmessage) silent_afterListen
    rw [List.filter_cons_of_neg (by simp [ht])]
    exact segment_guar .refl (fun _ _ _ => .trans) hlisten as c.state

theorem relayed_run {c : Run} (hlater : Pool.AllLater Silent c) (acts : List ClientAct) :
    relayedOn (runFrom sha256 c acts).state.log =
      (handled sha256 c acts).filter (relayed ·.1) ++ relayedOn c.state.log := by
  induction acts generalizing c with
  | nil => rfl
  | cons a acts ih =>
    calc relayedOn (runFrom sha256 c (a :: acts)).state.log
        = (handled sha256 (Pool.step (handle sha256) enabled c a) acts).filter (relayed ·.1) ++
            relayedOn (Pool.step (handle sha256) enabled c a).state.log :=
          ih (Pool.step_later (silent_later_handle sha256) hlater a)
      _ = (handled sha256 (Pool.step (handle sha256) enabled c a) acts).filter (relayed ·.1) ++
            ((taken c.state a).toList.filter (relayed ·.1) ++ relayedOn c.state.log) := by
          rw [relayed_step sha256 hlater a]
      _ = (handled sha256 c (a :: acts)).filter (relayed ·.1) ++ relayedOn c.state.log := by
          rw [handled, List.filter_append, List.append_assoc]

end runs

end KerMP.Client
