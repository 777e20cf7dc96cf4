/-
What a client takes for its last view update (`_last_game_sequence` of `ClientRuntime`).

Only a raw message moves it, to the sequence in its payload. A raw message whose sequence is not above it is dropped.

Result, for every run of a client:
- `last_run`: the last sequence is the one it started with, or that of a raw message it has handled.
-/
import KerMP.Batches

namespace KerMP.Client

open Py Coop
open Coro hiding pure get modify

/-- the sequence of a raw message -/
def rawSequence : MessageType × Json → Option ℤ
  | (.gameRawMessage, payload) => (intField payload "sequence" 0).toOption
  | _ => none

theorem rawSequence_of_ne {type : MessageType} (ht : type ≠ .gameRawMessage) (payload : Json) :
    rawSequence (type, payload) = none := by
  cases type with
  | gameRawMessage => exact absurd rfl ht
  | _ => rfl

/-! ## Handlers -/

def SameLast (c c' : Client) : Prop := c'.lastGameSequence = c.lastGameSequence

/-- the last sequence is the message's, or as before -/
def Takes (m : MessageType × Json) (c c' : Client) : Prop :=
  c'.lastGameSequence = c.lastGameSequence ∨ rawSequence m = some c'.lastGameSequence

theorem SameLast.refl (c : Client) : SameLast c c := rfl

theorem SameLast.trans {a b c : Client} (h : SameLast a b) (h' : SameLast b c) : SameLast a c := Eq.trans h' h

theorem Takes.refl (m : MessageType × Json) (c : Client) : Takes m c c := Or.inl rfl

theorem Takes.trans {m : MessageType × Json} {a b c : Client} (h : Takes m a b) (h' : Takes m b c) : Takes m a c := by
  rcases h' with e | e
  · rw [Takes, e]
    exact h
  · exact Or.inr e

theorem last_of_does {α : Type} {p : ClientM α} (hp : Guar (Does {.save, .build}) p) : Guar SameLast p :=
  hp.mono fun _ _ d => (d.view.resolve_left (by simp)).last

theorem last_of_handing {α : Type} {p : ClientM α} (hp : Guar Handing p) : Guar SameLast p := hp.mono fun _ _ d => d.last

theorem last_onViewBatch (payload : Json) : Guar SameLast (onViewBatch payload) := by
  have hsend := fun type payload => last_of_handing (handing_bridgeSend type payload)
  refine guar_bind (guar_ofExcept _) fun epoch => guar_bind (last_of_handing handing_read) fun c => ?_
  split_ifs
  · exact hsend _ _
  refine guar_bind (guar_ofExcept _) fun kind => ?_
  dsimp only
  split_ifs
  · exact guar_bind (guar_modify fun _ => rfl) fun _ => hsend _ _
  · refine guar_bind (guar_bind (guar_modify fun _ => rfl) fun _ => guar_bind (last_of_handing handing_read) fun c => ?_)
      fun _ => hsend _ _
    split_ifs
    · exact last_of_handing handing_finishLocalTravel
    · exact guar_pure ()
  · exact hsend _ _

theorem last_onPropose (payload : Json) : Guar SameLast (onPropose payload) := by
  refine guar_bind (guar_ofExcept _) fun incoming => guar_bind (last_of_handing handing_read) fun c => ?_
  split_ifs
  · exact guar_pure ()
  · exact guar_bind (guar_modify fun _ => rfl) fun _ => last_of_handing (handing_bridgeSend _ _)

/-- what is no raw message leaves the last sequence alone -/
theorem last_onNetworkMessage {env : Envelope} (hraw : env.type ≠ .gameRawMessage) (sha256 : Base64.Bytes → String) :
    Guar SameLast (onNetworkMessage sha256 env) := by
  refine onNetworkMessage_view sha256 (fun _ => last_of_does) (fun h => absurd h hraw) (fun _ => ?_) (fun _ => ?_)
    fun _ => ?_
  · exact guar_bind (last_onViewBatch _) fun _ => guar_pure _
  · exact guar_bind (last_onPropose _) fun _ => guar_pure _
  · exact guar_bind (last_of_handing (handing_onResume _)) fun _ => guar_pure _

theorem last_takeRaw_rest (payload : Json) (c : Client) :
    Guar SameLast (if c.bufferViewUpdates then
        if c.maxBufferedViewUpdates ≤ c.bufferedViewUpdates.length then sidecarError "view_update_buffer_full"
        else do
          let item ← ofExcept payload.toDict
          bufferItem item
      else applyGameMessage payload : ClientM Unit) := by
  split_ifs
  · exact last_of_handing (handing_bridgeSend _ _)
  · exact guar_bind (guar_ofExcept _) fun item => guar_modify fun _ => rfl
  · exact last_of_handing (handing_applyGameMessage _)

/-- a raw message moves it to its own sequence -/
theorem takes_onRawMessage (payload : Json) : Guar (Takes (.gameRawMessage, payload)) (onRawMessage payload) := by
  have hsame : ∀ {α : Type} {p : ClientM α}, Guar SameLast p → Guar (Takes (.gameRawMessage, payload)) p := fun hp =>
    hp.mono fun _ _ h => Or.inl h
  have hread : Guar (Takes (.gameRawMessage, payload)) (Coro.get : ClientM Client) := hsame (last_of_handing handing_read)
  refine guar_ofExcept_bind fun sequence hs => guar_bind hread fun c => ?_
  split_ifs
  · exact guar_pure ()
  split
  · exact hsame (last_of_handing (handing_bridgeSend _ _))
  refine guar_bind (guar_ofExcept _) fun epoch => guar_bind (guar_ofExcept _) fun refusal => ?_
  rcases refusal with _ | reason
  · have hset : Guar (Takes (.gameRawMessage, payload)) (setLastSequence sequence) :=
      guar_modify fun c => Or.inr (by simp [rawSequence, hs, Except.toOption])
    exact guar_bind hset fun _ => guar_bind hread fun c => hsame (last_takeRaw_rest payload c)
  · exact hsame (last_of_handing (handing_bridgeSend _ _))

theorem takes_onNetworkMessage (sha256 : Base64.Bytes → String) (env : Envelope) :
    Guar (Takes (env.type, env.payload)) (onNetworkMessage sha256 env) := by
  by_cases hraw : env.type = .gameRawMessage
  · rw [onNetworkMessage_raw sha256 hraw, hraw]
    exact guar_bind (takes_onRawMessage _) fun _ => guar_pure _
  · exact (last_onNetworkMessage hraw sha256).mono fun _ _ h => Or.inl h

theorem takes_listen (sha256 : Base64.Bytes → String) (env : Envelope) :
    Guar (Takes (env.type, env.payload)) (listen sha256 (.ok env)) := by
  have hsame : ∀ {α : Type} {p : ClientM α}, Guar SameLast p → Guar (Takes (env.type, env.payload)) p := fun hp =>
    hp.mono fun _ _ h => Or.inl h
  refine guar_bind (hsame (last_of_does (guar_setListening _))) fun _ => guar_bind (guar_attempt ?_) fun r =>
    hsame (last_of_does (guar_afterListen r))
  exact guar_ofExcept_bind fun env' he => by
    cases he
    exact guar_bind (takes_onNetworkMessage sha256 env) fun flush =>
      hsame (last_of_does (guar_afterMessage (by simp) flush))

/-! ## After the first await -/

theorem later_onRawMessage (payload : Json) : Later SameLast (onRawMessage payload) := by
  refine later_ofExcept fun sequence => later_get fun c => ?_
  split_ifs
  · exact later_of_guar (guar_pure ())
  split
  · exact later_of_guar (last_of_handing (handing_bridgeSend _ _))
  refine later_ofExcept fun epoch => later_ofExcept fun refusal => ?_
  rcases refusal with _ | reason
  · exact later_modify (later_get fun c => later_of_guar (last_takeRaw_rest payload c))
  · exact later_of_guar (last_of_handing (handing_bridgeSend _ _))

theorem last_later_onNetworkMessage (sha256 : Base64.Bytes → String) (env : Envelope) :
    Later SameLast (onNetworkMessage sha256 env) := by
  by_cases hraw : env.type = .gameRawMessage
  · rw [onNetworkMessage_raw sha256 hraw]
    exact later_bind (later_onRawMessage _) fun _ => guar_pure _
  · exact later_of_guar (last_onNetworkMessage hraw sha256)

theorem last_later_handle (sha256 : Base64.Bytes → String) (t : Event) : Later SameLast (handle sha256 t) := by
  cases t with
  | net r =>
    refine later_modify (later_bind (later_attempt (later_ofExcept fun env => ?_)) fun r =>
      last_of_does (guar_afterListen r))
    exact later_bind (last_later_onNetworkMessage sha256 env) fun flush =>
      last_of_does (guar_afterMessage (by simp) flush)
  | game event => exact later_of_guar (last_of_does (guar_onGameEvent (by simp) event))
  | zoneLoaded epoch => exact later_of_guar (last_of_handing (handing_markLocalZoneLoaded epoch))
  | flush f => exact later_of_guar (last_of_does (guar_resumeFlush (by simp) f))

/-! ## Runs -/

theorem last_step (sha256 : Base64.Bytes → String) {c : Run} (hlater : Pool.AllLater SameLast c) (a : ClientAct) :
    (Pool.step (handle sha256) enabled c a).state.lastGameSequence = c.state.lastGameSequence ∨
      ∃ m ∈ taken c.state a, rawSequence m = some (Pool.step (handle sha256) enabled c a).state.lastGameSequence := by
  have hsame : ∀ t as, Guar SameLast (handle sha256 t) →
      SameLast c.state (Pool.step (handle sha256) enabled c (.arrive t as)).state := by
    intro t as ht
    rw [Pool.arrive_state]
    split_ifs
    · exact segment_guar SameLast.refl (fun _ _ _ => SameLast.trans) ht as c.state
    · exact rfl
  rcases a with ⟨t, as⟩ | ⟨i, x, as⟩
  · rcases t with r | event | epoch | f
    · rcases r with e | env
      · exact Or.inl (hsame _ as (guar_bind (last_of_does (guar_setListening .busy)) fun _ =>
          guar_bind (guar_attempt trivial) fun r => last_of_does (guar_afterListen r)))
      · rw [Pool.arrive_state]
        split_ifs with henabled
        · have hidle : c.state.listening = .idle := by simpa [enabled] using henabled
          have htaken : taken c.state (.arrive (.net (.ok env)) as) = some (env.type, env.payload) := if_pos hidle
          rw [htaken]
          rcases segment_guar (Takes.refl _) (fun _ _ _ => .trans) (takes_listen sha256 env) as c.state with h | h
          · exact Or.inl h
          · exact Or.inr ⟨_, rfl, h⟩
        · exact Or.inl rfl
    · exact Or.inl (hsame _ as (last_of_does (guar_onGameEvent (by simp) event)))
    · exact Or.inl (hsame _ as (last_of_handing (handing_markLocalZoneLoaded epoch)))
    · exact Or.inl (hsame _ as (last_of_does (guar_resumeFlush (by simp) f)))
  · exact Or.inl (Pool.resume_guar SameLast.refl (fun _ _ _ => SameLast.trans) hlater i x as)

/-- **The last sequence in every run.** It is the one of the start, or that of a raw message handled since. -/
theorem last_run (sha256 : Base64.Bytes → String) {c : Run} (hlater : Pool.AllLater SameLast c) (acts : List ClientAct) :
    (runFrom sha256 c acts).state.lastGameSequence = c.state.lastGameSequence ∨
      ∃ m ∈ handled sha256 c acts, rawSequence m = some (runFrom sha256 c acts).state.lastGameSequence := by
  induction acts generalizing c with
  | nil => exact Or.inl rfl
  | cons a acts ih =>
    rcases ih (Pool.step_later (last_later_handle sha256) hlater a) with h | ⟨m, hm, h⟩
    · rcases last_step sha256 hlater a with h' | ⟨m, hm, h'⟩
      · exact Or.inl (h.trans h')
      · exact Or.inr ⟨m, List.mem_append_right _ (by simpa using hm), h'.trans (congrArg some h.symm)⟩
    · exact Or.inr ⟨m, List.mem_append_left _ hm, h⟩

end KerMP.Client
