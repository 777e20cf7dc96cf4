/-
The client's queue of build operations (`pending_build` and `_flush_build` of `kermp/runtime.py`).

A captured operation is appended to the queue; it is popped and written in one step, and only with the lock. Several
loops may empty the queue at a time, each of them waits for the socket after each message, and meanwhile operations are
captured and the lock comes and goes. Whatever the order of all this, the queue is first in, first out.

- `QueueTurn`: what one turn of the event loop does to captured, pending and written operations.
- `queueTurn_step`: every arrival and every resumption is such a turn.
- `capture_order`: after every run, what was written followed by what is pending is what was captured.
-/
import KerMP.ClientSteps
import KerMP.Lib.Segment

namespace KerMP.Client

open Py Coop
open Coro hiding pure get modify
open Base64 (Bytes)

/-! ## Operations in the log -/

def Out.operation : Out → Option Json
  | .sent env => if env.type = .buildOperation then some env.payload else none
  | _ => none

def Out.capture : Out → Option Json
  | .captured payload => some payload
  | _ => none

/-- the payloads of the `build.operation` messages written to the host, oldest first -/
def sentOps (log : List Out) : List Json := log.reverse.filterMap Out.operation

/-- the operations that the game has handed in, oldest first -/
def capturedOps (log : List Out) : List Json := log.reverse.filterMap Out.capture

/-- a message without a payload carries the empty dict -/
def sentAs (payload : Json) : Json := payload.or (.obj [])

theorem sentOps_append (os log : List Out) : sentOps (os ++ log) = sentOps log ++ sentOps os := by
  rw [sentOps, List.reverse_append, List.filterMap_append]
  rfl

theorem capturedOps_append (os log : List Out) : capturedOps (os ++ log) = capturedOps log ++ capturedOps os := by
  rw [capturedOps, List.reverse_append, List.filterMap_append]
  rfl

/-- other entries -/
theorem ops_quiet {os : List Out} (h : ∀ o ∈ os, buildOut o = false) : sentOps os = [] ∧ capturedOps os = [] := by
  constructor
  · refine List.filterMap_eq_nil_iff.2 fun o ho => ?_
    have hquiet := h o (List.mem_reverse.1 ho)
    cases o with
    | sent env => exact if_neg (of_decide_eq_false hquiet)
    | _ => rfl
  · refine List.filterMap_eq_nil_iff.2 fun o ho => ?_
    have hquiet := h o (List.mem_reverse.1 ho)
    cases o with
    | captured payload => cases hquiet
    | _ => rfl

/-! ## One turn -/

/-- no operation is written, or a single one, as the last entry, by a client that has the lock -/
def WrittenWithLock (c c' : Client) : Prop :=
  sentOps c'.log = sentOps c.log ∨
    c'.ownsBuildLock = true ∧ ∃ op, sentOps c'.log = sentOps c.log ++ [op] ∧ c'.log.head?.bind Out.operation = some op

/-- what one turn does: operations join the queue at its end, and those that leave it at its front are written -/
structure QueueTurn (c c' : Client) : Prop where
  moved : ∃ new done, capturedOps c'.log = capturedOps c.log ++ new ∧ c.pendingBuild ++ new = done ++ c'.pendingBuild ∧
    sentOps c'.log = sentOps c.log ++ done.map sentAs
  owned : WrittenWithLock c c'

/-- no operation is captured, popped or written -/
structure Untouched (c c' : Client) : Prop where
  captured : capturedOps c'.log = capturedOps c.log
  pending : c'.pendingBuild = c.pendingBuild
  sent : sentOps c'.log = sentOps c.log

theorem Untouched.refl (c : Client) : Untouched c c := ⟨rfl, rfl, rfl⟩

theorem Untouched.trans {a b c : Client} (h : Untouched a b) (h' : Untouched b c) : Untouched a c :=
  ⟨h'.captured.trans h.captured, h'.pending.trans h.pending, h'.sent.trans h.sent⟩

theorem Untouched.turn {c c' : Client} (h : Untouched c c') : QueueTurn c c' :=
  ⟨⟨[], [], by simp [h.captured], by simp [h.pending], by simp [h.sent]⟩, Or.inl h.sent⟩

/-- operations are captured, and none has left the queue -/
def Grown (c c' : Client) : Prop :=
  ∃ new, capturedOps c'.log = capturedOps c.log ++ new ∧ c'.pendingBuild = c.pendingBuild ++ new ∧
    sentOps c'.log = sentOps c.log

theorem Untouched.grown {c c' : Client} (h : Untouched c c') : Grown c c' :=
  ⟨[], by simp [h.captured], by simp [h.pending], h.sent⟩

theorem Grown.then {a b c : Client} (h : Grown a b) (h' : QueueTurn b c) : QueueTurn a c := by
  obtain ⟨new, hcaptured, hpending, hsent⟩ := h
  obtain ⟨⟨new', done, hcaptured', hpending', hsent'⟩, howned⟩ := h'
  rw [WrittenWithLock, hsent] at howned
  rw [hsent] at hsent'
  refine ⟨⟨new ++ new', done, ?_, ?_, hsent'⟩, howned⟩
  · rw [hcaptured', hcaptured, List.append_assoc]
  · rw [← hpending', hpending, List.append_assoc]

theorem untouched_of_does {α : Type} {p : ClientM α} (hp : Guar (Does {.view, .save}) p) : Guar Untouched p := by
  refine hp.mono fun c c' d => ?_
  obtain ⟨hpending, -⟩ := d.build.resolve_left (by simp)
  obtain ⟨os, hlog, -, hquiet⟩ := d.log
  obtain ⟨hsent, hcaptured⟩ := ops_quiet (hquiet.resolve_left (by simp))
  refine ⟨?_, hpending, ?_⟩
  · rw [hlog, capturedOps_append, hcaptured, List.append_nil]
  · rw [hlog, sentOps_append, hsent, List.append_nil]

theorem untouched_send {type : MessageType} (h : type ≠ .buildOperation) (payload : Json) :
    Guar Untouched (send type payload) := untouched_of_does (guar_send (Or.inr h) payload)

theorem untouched_setOwnsBuildLock (b : Bool) : Guar Untouched (setOwnsBuildLock b) := guar_modify fun _ => ⟨rfl, rfl, rfl⟩

/-! ## First segments -/

variable {sha256 : Bytes → String} {own : Set Empty} {c : Client}

theorem wp_untouched {α : Type} {p : ClientM α} (hp : Guar Untouched p) {c₀ : Client} (h : Untouched c₀ c) :
    wp (Discipline.first (QueueTurn c₀)) own p (fun _ _ c' => Untouched c₀ c') c :=
  wp_first_imp (fun _ => Untouched.turn) (wp_first_of_guar (fun _ _ h' h => h.trans h') hp h)

/-- **One iteration of the loop.** The oldest operation is popped and written, if the client has the lock. -/
theorem wp_flushBuild_queue (f : Flush) (c : Client) :
    wp (Discipline.first (QueueTurn c)) own (flushBuild f) (fun _ _ c' => Untouched c c') c := by
  have hdone : wp (Discipline.first (QueueTurn c)) own (flushDone f) (fun _ _ c' => Untouched c c') c := by
    cases f with
    | net => exact wp_untouched (untouched_of_does (guar_setListening .idle)) (.refl c)
    | game => exact Untouched.refl c
  rw [flushBuild, wp_get_first]
  cases hpending : c.pendingBuild with
  | nil => exact hdone
  | cons payload rest =>
    dsimp only
    split_ifs with howns
    · rw [setPending, wp_modify_first, wp_bind, wp_send_first]
      have hsent : sentOps (({ c with pendingBuild := rest } : Client).posted .buildOperation payload).log =
          sentOps c.log ++ [sentAs payload] := sentOps_append [_] c.log
      refine ⟨⟨[], [payload], ?_, ?_, hsent⟩, Or.inr ⟨howns, sentAs payload, hsent, rfl⟩⟩
      · exact (capturedOps_append [_] c.log).trans rfl
      · rw [hpending, List.append_nil]
        rfl
    · exact hdone

/-- what follows a capture or something that touches no operation -/
theorem wp_flushBuild_grown {c₀ : Client} (h : Grown c₀ c) (f : Flush) :
    wp (Discipline.first (QueueTurn c₀)) own (flushBuild f) (fun _ _ c' => QueueTurn c₀ c') c := by
  refine wp_mono ?_ (wp_first_imp (fun _ => h.then) (wp_flushBuild_queue f c))
  intro r own' c' h'
  exact h.then h'.turn

theorem wp_onBuildOperation_queue (payload : Json) (c : Client) :
    wp (Discipline.first (QueueTurn c)) own (onBuildOperation payload) (fun _ _ c' => QueueTurn c c') c := by
  have hgrown : Grown c ({ c with pendingBuild := c.pendingBuild ++ [payload] }.note (.captured payload)) :=
    ⟨[payload], capturedOps_append [_] c.log, rfl, (sentOps_append [_] c.log).trans (List.append_nil _)⟩
  rw [onBuildOperation, wp_modify_first, wp_get_first]
  split_ifs
  · exact wp_flushBuild_grown hgrown .game
  · rw [wp_send_first]
    refine hgrown.then (Untouched.turn ⟨?_, rfl, ?_⟩)
    · exact (capturedOps_append [_] _).trans (List.append_nil _)
    · exact (sentOps_append [_] _).trans (List.append_nil _)

theorem untouched_onLockState (payload : Json) : Guar Untouched (onLockState payload) :=
  guar_bind (guar_get Untouched.refl) fun _ => guar_bind (guar_ofExcept _) fun _ =>
    guar_bind (untouched_setOwnsBuildLock _) fun _ =>
      guar_bind (untouched_of_does (guar_bridgeSend (Or.inl (by simp)) _)) fun _ => guar_pure _

theorem untouched_onNetworkMessage (sha256 : Bytes → String) (env : Envelope) :
    Guar Untouched (onNetworkMessage sha256 env) := by
  by_cases h : env.type = .buildLockState
  · have he : onNetworkMessage sha256 env = onLockState env.payload := by rw [onNetworkMessage, h]
    rw [he]
    exact untouched_onLockState _
  · exact untouched_of_does (guar_onNetworkMessage sha256 (Or.inl (by simp)) (Or.inl (by simp)) (Or.inr h))

theorem wp_listen_queue (r : Except Exc Envelope) (c : Client) :
    wp (Discipline.first (QueueTurn c)) own (listen sha256 r) (fun _ _ c' => QueueTurn c c') c := by
  rw [listen, setListening, wp_modify_first]
  refine wp_attempt_bind (?_ : wp _ own _ (fun _ _ c' => QueueTurn c c') _) fun r own' c' h => ?_
  swap
  · cases r with
    | ok _ => exact h
    | error e =>
      -- what was raised ends the listening, and the queue stays as the message left it
      rw [setListening, wp_modify]
      exact ⟨by simp, ⟨h.moved, h.owned⟩⟩
  · have hbusy : Untouched c { c with listening := .busy } := ⟨rfl, rfl, rfl⟩
    rw [wp_bind, wp_ofExcept]
    cases r with
    | error e => exact hbusy.turn
    | ok env =>
      rw [andThen_ok, wp_bind]
      refine wp_mono ?_ (wp_untouched (untouched_onNetworkMessage sha256 env) hbusy)
      rintro (e | flush) own' c' h
      · exact h.turn
      · rw [andThen_ok]
        split_ifs
        · exact wp_flushBuild_grown h.grown .net
        · rw [setListening, wp_modify]
          exact ⟨by simp, Untouched.turn ⟨h.captured, h.pending, h.sent⟩⟩

theorem wp_resumeFlush_queue (f : Flush) (c : Client) :
    wp (Discipline.first (QueueTurn c)) own (resumeFlush f) (fun _ _ c' => QueueTurn c c') c := by
  have hgrown : Grown c { c with flushes := c.flushes.erase f } := Untouched.grown ⟨rfl, rfl, rfl⟩
  rw [resumeFlush, wp_modify_first]
  refine wp_attempt_bind (wp_flushBuild_grown hgrown f) fun r own' c' h => ?_
  split
  · rw [setListening, wp_modify]
    exact ⟨by simp, ⟨h.moved, h.owned⟩⟩
  · exact h

/-- game events other than an operation -/
theorem untouched_onGameEvent {event : BridgeEvent} (h : event.type ≠ .buildOperation) :
    Guar Untouched (onGameEvent event) := by
  unfold onGameEvent
  split
  case h_14 hop => exact absurd hop h
  any_goals exact untouched_send h _
  · exact untouched_of_does (guar_bind guar_read fun c => guar_bind (guar_bridgeSend (Or.inr (by decide)) _) fun _ =>
      guar_send (Or.inr (by decide)) _)
  · exact guar_bind (guar_ofExcept _) fun status => untouched_send (by decide) _
  · exact untouched_of_does (guar_onSims _)
  · exact untouched_of_does (guar_onSims _)
  · exact untouched_send (by decide) _
  · exact guar_bind (untouched_setOwnsBuildLock false) fun _ => untouched_send (by decide) _
  · exact guar_pure ()

theorem wp_handle_queue (t : Event) (c : Client) :
    wp (Discipline.first (QueueTurn c)) own (handle sha256 t) (fun _ _ c' => QueueTurn c c') c := by
  have hother : ∀ {p : ClientM Unit}, Guar Untouched p →
      wp (Discipline.first (QueueTurn c)) own p (fun _ _ c' => QueueTurn c c') c := fun hp =>
    wp_mono (fun _ _ _ h => h.turn) (wp_untouched hp (.refl c))
  cases t with
  | net r => exact wp_listen_queue r c
  | zoneLoaded epoch => exact hother (untouched_of_does (guar_markLocalZoneLoaded (by simp) epoch))
  | flush f => exact wp_resumeFlush_queue f c
  | game event =>
    by_cases h : event.type = .buildOperation
    · have he : onGameEvent event = onBuildOperation event.payload := by rw [onGameEvent, h]
      rw [handle, he]
      exact wp_onBuildOperation_queue event.payload c
    · exact hother (untouched_onGameEvent h)

/-! ## After the first await -/

theorem untouched_again (f : Flush) : Guar Untouched (again f) := guar_modify fun _ => ⟨rfl, rfl, rfl⟩

/-- once its message is out, an iteration only waits for the next one -/
theorem later_flushBuild (f : Flush) : Later Untouched (flushBuild f) := by
  have hdone : Guar Untouched (flushDone f) := by
    cases f with
    | net => exact untouched_of_does (guar_setListening .idle)
    | game => exact guar_pure ()
  have hsend : ∀ payload, Later Untouched (send .buildOperation payload) := fun payload =>
    later_modify fun a => by
      show Guar Untouched (if a.ok then pure () else .raise (.osError "Connection lost") : ClientM Unit)
      split_ifs
      · exact guar_pure ()
      · exact guar_raise _
  refine later_get fun c => ?_
  cases c.pendingBuild with
  | nil => exact later_of_guar hdone
  | cons payload rest =>
    dsimp only
    split_ifs
    · exact later_modify (later_bind (hsend payload) fun _ => untouched_again f)
    · exact later_of_guar hdone

theorem later_onLockState (payload : Json) {f : Bool → ClientM Unit} (hf : ∀ owns, Later Untouched (f owns)) :
    Later Untouched (onLockState payload >>= f) := by
  intro c
  show Later Untouched ((ofExcept (payload.get "owner_id") >>= fun owner => do
    setOwnsBuildLock (owner.pyEq (.str c.playerId))
    bridgeSend .buildLockState payload
    pure (owner.pyEq (.str c.playerId)) : ClientM Bool) >>= f)
  cases payload.get "owner_id" with
  | error e => trivial
  | ok owner => exact fun _ a _ => hf _

/-- only `build.lock_state` makes the client flush -/
theorem onNetworkMessage_answer {env : Envelope} (h : env.type ≠ .buildLockState) (sha256 : Bytes → String) :
    ∃ g : ClientM Unit, onNetworkMessage sha256 env = g >>= fun _ => pure false := by
  unfold onNetworkMessage
  split
  case h_10 hlock => exact absurd hlock h
  case h_24 => exact ⟨pure (), rfl⟩
  all_goals exact ⟨_, rfl⟩

theorem later_listen (sha256 : Bytes → String) (r : Except Exc Envelope) : Later Untouched (listen sha256 r) := by
  refine later_modify (later_bind (later_attempt (later_ofExcept fun env => ?_)) fun r =>
    untouched_of_does (guar_afterListen r))
  by_cases h : env.type = .buildLockState
  · have he : onNetworkMessage sha256 env = onLockState env.payload := by rw [onNetworkMessage, h]
    rw [he]
    refine later_onLockState env.payload fun owns => ?_
    cases owns with
    | true => exact later_flushBuild .net
    | false => exact later_of_guar (untouched_of_does (guar_setListening .idle))
  · obtain ⟨g, he⟩ := onNetworkMessage_answer h sha256
    have hg := untouched_onNetworkMessage sha256 env
    rw [he] at hg ⊢
    exact later_of_guar (guar_answer hg (untouched_of_does (guar_setListening .idle)))

theorem later_onGameEvent (event : BridgeEvent) : Later Untouched (onGameEvent event) := by
  by_cases h : event.type = .buildOperation
  · have he : onGameEvent event = onBuildOperation event.payload := by rw [onGameEvent, h]
    rw [he]
    refine later_modify (later_get fun c => ?_)
    split_ifs
    · exact later_flushBuild .game
    · exact later_of_guar (untouched_send (by decide) _)
  · exact later_of_guar (untouched_onGameEvent h)

theorem later_queue (sha256 : Bytes → String) (t : Event) : Later Untouched (handle sha256 t) := by
  cases t with
  | net r => exact later_listen sha256 r
  | game event => exact later_onGameEvent event
  | zoneLoaded epoch => exact later_of_guar (untouched_of_does (guar_markLocalZoneLoaded (by simp) epoch))
  | flush f =>
    refine later_modify (later_bind (later_attempt (later_flushBuild f)) fun r => ?_)
    split
    · exact untouched_of_does (guar_setListening .dead)
    · exact guar_pure ()

/-! ## Runs -/

/-- **One turn of the event loop.** -/
theorem queueTurn_step (sha256 : Bytes → String) {c : Run} (hlater : Pool.AllLater Untouched c) (act : ClientAct) :
    QueueTurn c.state (Pool.step (handle sha256) enabled c act).state := by
  cases act with
  | resume i a as => exact (Pool.resume_guar Untouched.refl (fun _ _ _ => Untouched.trans) hlater i a as).turn
  | arrive t as =>
    rw [Pool.arrive_state]
    split_ifs
    · have h : wp (Discipline.first (QueueTurn c.state)) ∅ (handle sha256 t) (fun _ _ c' => QueueTurn c.state c') c.state :=
        wp_handle_queue t c.state
      exact segment_first as h
    · exact (Untouched.refl c.state).turn

/-- what was captured is what was written and what is pending, in this order -/
def CaptureOrder (c : Client) : Prop :=
  ∃ done, capturedOps c.log = done ++ c.pendingBuild ∧ sentOps c.log = done.map sentAs

theorem CaptureOrder.turn {c c' : Client} (h : CaptureOrder c) (ht : QueueTurn c c') : CaptureOrder c' := by
  obtain ⟨done, hcaptured, hsent⟩ := h
  obtain ⟨new, more, hcaptured', hpending, hsent'⟩ := ht.moved
  refine ⟨done ++ more, ?_, ?_⟩
  · calc capturedOps c'.log
        = done ++ (c.pendingBuild ++ new) := by rw [hcaptured', hcaptured, List.append_assoc]
      _ = done ++ more ++ c'.pendingBuild := by rw [hpending, List.append_assoc]
  · rw [hsent', hsent, List.map_append]

/-- every later state of a run -/
theorem captureOrder_run (sha256 : Bytes → String) {c : Run} (hlater : Pool.AllLater Untouched c)
    (h : CaptureOrder c.state) (acts : List ClientAct) : CaptureOrder (runFrom sha256 c acts).state := by
  induction acts generalizing c with
  | nil => exact h
  | cons act acts ih =>
    exact ih (Pool.step_later (later_queue sha256) hlater act) (h.turn (queueTurn_step sha256 hlater act))

def objectOp (n : ℤ) : Json := .obj [("object_id", .int n)]

/-- two operations wait for the lock; the first is written when it comes, and it is given back before the second is -/
def lockInBetween : List ClientAct :=
  [.arrive (.game ⟨.buildOperation, objectOp 1⟩) [], .arrive (.game ⟨.buildOperation, objectOp 2⟩) [],
    .arrive (.net (.ok ⟨.buildLockState, .obj [("owner_id", .str "p")], "host", .str "m", .null⟩)) [],
    .arrive (.game ⟨.buildLockRelease, .obj []⟩) [], .resume 2 ⟨true, 0⟩ [], .arrive (.flush .net) []]

example : sentOps (runFrom (fun _ => "") ⟨init "p" ∅, []⟩ lockInBetween).state.log = [objectOp 1] ∧
    (runFrom (fun _ => "") ⟨init "p" ∅, []⟩ lockInBetween).state.pendingBuild = [objectOp 2] := by
  decide +kernel

end KerMP.Client
