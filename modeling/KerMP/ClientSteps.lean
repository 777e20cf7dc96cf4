/-
What the handlers of a client leave alone.

The state of a client has three parts that its handlers work on one at a time: the view updates, the save transfer and
the build operations. `Does T` is a step that touches the parts in `T` only; each handler has one lemma, which asks that
the part it works on is in `T` and says nothing else (`guar_onGameEvent`, `guar_onNetworkMessage`, ...).
-/
import KerMP.Client
import KerMP.Lib.Segment

namespace KerMP.Client

open Py Coop
open Coro hiding pure get modify
open Base64 (Bytes)

inductive Part where
  | view
  | save
  | build

/-- an entry that says nothing about view updates -/
def plainOut : Out → Bool
  | .bridge _ .gameRawMessage _ | .proposed _ | .batchEnd _ => false
  | _ => true

/-- an entry about build operations -/
def buildOut : Out → Bool
  | .captured _ => true
  | .sent env => env.type = .buildOperation
  | _ => false

/-- the two clients agree on everything about view updates but the log -/
structure SameView (c c' : Client) : Prop where
  last : c'.lastGameSequence = c.lastGameSequence
  epoch : c'.travelEpoch = c.travelEpoch
  on : c'.bufferViewUpdates = c.bufferViewUpdates
  buffer : c'.bufferedViewUpdates = c.bufferedViewUpdates
  limit : c'.maxBufferedViewUpdates = c.maxBufferedViewUpdates
  complete : c'.travelBatchComplete = c.travelBatchComplete

theorem SameView.refl (c : Client) : SameView c c := ⟨rfl, rfl, rfl, rfl, rfl, rfl⟩

theorem SameView.trans {a b c : Client} (h : SameView a b) (h' : SameView b c) : SameView a c :=
  ⟨h'.last.trans h.last, h'.epoch.trans h.epoch, h'.on.trans h.on, h'.buffer.trans h.buffer, h'.limit.trans h.limit,
    h'.complete.trans h.complete⟩

/-- a step that touches no part outside `T` -/
structure Does (T : Set Part) (c c' : Client) : Prop where
  playerId : c'.playerId = c.playerId
  view : .view ∈ T ∨ SameView c c'
  save : .save ∈ T ∨ c'.disk = c.disk ∧ c'.saveReceiver = c.saveReceiver
  build : .build ∈ T ∨ c'.pendingBuild = c.pendingBuild ∧ c'.ownsBuildLock = c.ownsBuildLock
  log : ∃ os, c'.log = os ++ c.log ∧ (.view ∈ T ∨ ∀ o ∈ os, plainOut o = true) ∧
    (.build ∈ T ∨ ∀ o ∈ os, buildOut o = false)

variable {T : Set Part}

/-- an update of what is in no part -/
theorem does_loop {c c' : Client} (hid : c'.playerId = c.playerId) (hview : SameView c c')
    (hsave : c'.disk = c.disk ∧ c'.saveReceiver = c.saveReceiver)
    (hbuild : c'.pendingBuild = c.pendingBuild ∧ c'.ownsBuildLock = c.ownsBuildLock) (hlog : c'.log = c.log) :
    Does T c c' :=
  ⟨hid, Or.inr hview, Or.inr hsave, Or.inr hbuild, [], by simpa using hlog, Or.inr (by simp), Or.inr (by simp)⟩

theorem does_refl (c : Client) : Does T c c := does_loop rfl (SameView.refl c) ⟨rfl, rfl⟩ ⟨rfl, rfl⟩ rfl

theorem does_note (c : Client) {o : Out} (ho : .view ∈ T ∨ plainOut o = true) (hb : .build ∈ T ∨ buildOut o = false) :
    Does T c (c.note o) := by
  refine ⟨rfl, Or.inr ⟨rfl, rfl, rfl, rfl, rfl, rfl⟩, Or.inr ⟨rfl, rfl⟩, Or.inr ⟨rfl, rfl⟩, [o], rfl, ?_⟩
  simpa using ⟨ho, hb⟩

/-! ## Sends and loops -/

theorem guar_read : Guar (Does T) (Coro.get : ClientM Client) := guar_get does_refl

theorem guar_bridgeSend {type : MessageType} (h : .view ∈ T ∨ type ≠ .gameRawMessage) (payload : Json) :
    Guar (Does T) (bridgeSend type payload) := by
  refine guar_bind guar_askEnv fun a => guar_modify fun c => does_note c ?_ (Or.inr rfl)
  rcases h with h | h
  · exact Or.inl h
  · refine Or.inr ?_
    cases type with
    | gameRawMessage => exact absurd rfl h
    | _ => rfl

theorem guar_sidecarError (reason : String) : Guar (Does T) (sidecarError reason) :=
  guar_bridgeSend (Or.inr (by decide)) _

theorem guar_send {type : MessageType} (h : .build ∈ T ∨ type ≠ .buildOperation) (payload : Json) :
    Guar (Does T) (send type payload) := by
  refine guar_bind (guar_modify fun c => ?_) fun _ => guar_bind guar_suspend fun a => ?_
  · refine ⟨rfl, Or.inr ⟨rfl, rfl, rfl, rfl, rfl, rfl⟩, Or.inr ⟨rfl, rfl⟩, Or.inr ⟨rfl, rfl⟩, [_], rfl,
      Or.inr (by simp [plainOut]), h.imp_right fun hne o ho => ?_⟩
    rw [List.mem_singleton.1 ho]
    exact decide_eq_false hne
  · split_ifs
    · exact guar_pure ()
    · exact guar_raise _

theorem wp_send_first {I : Client → Prop} {own : Set Empty} {c : Client} {type : MessageType} {payload : Json}
    {Q : Except Exc Unit → Set Empty → Client → Prop} :
    wp (Discipline.first I) own (send type payload) Q c ↔ I (c.posted type payload) := by
  simp only [send, wp_bind, wp_modify, wp_suspend_first, andThen, Discipline.may_first, true_and]

theorem guar_setListening (l : Listen) : Guar (Does T) (setListening l) :=
  guar_modify fun _ => does_loop rfl ⟨rfl, rfl, rfl, rfl, rfl, rfl⟩ ⟨rfl, rfl⟩ ⟨rfl, rfl⟩ rfl

theorem guar_onSims (payload : Json) : Guar (Does T) (onSims payload) := by
  refine guar_bind (guar_ofExcept _) fun sims => guar_bind (guar_send (Or.inr (by decide)) _) fun _ =>
    guar_bind (guar_ofExcept _)
    fun active => ?_
  split_ifs
  · exact guar_pure ()
  · exact guar_send (Or.inr (by decide)) _

theorem guar_activeSave : Guar (Does T) activeSave := by
  refine guar_bind guar_read fun c => ?_
  cases c.saveReceiver with
  | some r => exact guar_pure r
  | none => exact guar_raise _

/-! ## View updates -/

section view
variable (hv : .view ∈ T)
include hv

/-- an update of the view part -/
theorem does_view {c c' : Client} (hid : c'.playerId = c.playerId)
    (hsave : c'.disk = c.disk ∧ c'.saveReceiver = c.saveReceiver)
    (hbuild : c'.pendingBuild = c.pendingBuild ∧ c'.ownsBuildLock = c.ownsBuildLock)
    (hlog : ∃ os, c'.log = os ++ c.log ∧ ∀ o ∈ os, buildOut o = false) : Does T c c' := by
  obtain ⟨os, hos, hquiet⟩ := hlog
  exact ⟨hid, Or.inl hv, Or.inr hsave, Or.inr hbuild, os, hos, Or.inl hv, Or.inr hquiet⟩

theorem guar_applyGameMessage (payload : Json) : Guar (Does T) (applyGameMessage payload) := by
  refine guar_bind (guar_ofExcept _) fun raw => guar_bind (guar_modify fun c => ?_) fun _ =>
    guar_bind (guar_ofExcept _) fun msgId => guar_bind (guar_modify fun c => ?_) fun _ => guar_bridgeSend (Or.inl hv) _
  · exact does_view hv rfl ⟨rfl, rfl⟩ ⟨rfl, rfl⟩ ⟨[], rfl, by simp⟩
  · exact does_view hv rfl ⟨rfl, rfl⟩ ⟨rfl, rfl⟩ ⟨[], rfl, by simp⟩

theorem guar_applyAll (items : List Item) : Guar (Does T) (applyAll items) := by
  induction items with
  | nil => exact guar_pure ()
  | cons item rest ih => exact guar_bind (guar_applyGameMessage hv _) fun _ => ih

theorem guar_finishLocalTravel : Guar (Does T) finishLocalTravel :=
  guar_bind guar_read fun _ => guar_bind (guar_applyAll hv _) fun _ => guar_modify fun _ =>
    does_view hv rfl ⟨rfl, rfl⟩ ⟨rfl, rfl⟩ ⟨[], rfl, by simp⟩

theorem guar_takeRaw (sequence : ℤ) (payload : Json) : Guar (Does T) (takeRaw sequence payload) := by
  refine guar_bind (guar_modify fun _ => does_view hv rfl ⟨rfl, rfl⟩ ⟨rfl, rfl⟩ ⟨[], rfl, by simp⟩) fun _ =>
    guar_bind guar_read fun c => ?_
  split_ifs
  · exact guar_sidecarError _
  · exact guar_bind (guar_ofExcept _) fun item =>
      guar_modify fun _ => does_view hv rfl ⟨rfl, rfl⟩ ⟨rfl, rfl⟩ ⟨[], rfl, by simp⟩
  · exact guar_applyGameMessage hv _

theorem guar_onRawMessage (payload : Json) : Guar (Does T) (onRawMessage payload) := by
  refine guar_bind (guar_ofExcept _) fun sequence => guar_bind guar_read fun c => ?_
  split_ifs
  · exact guar_pure ()
  · split
    · exact guar_sidecarError _
    · refine guar_bind (guar_ofExcept _) fun epoch => guar_bind (guar_ofExcept _) fun refusal => ?_
      cases refusal with
      | some reason => exact guar_sidecarError _
      | none => exact guar_takeRaw hv _ _

theorem guar_onViewBatch (payload : Json) : Guar (Does T) (onViewBatch payload) := by
  have hsend : Guar (Does T) (bridgeSend .travelViewBatch payload) := guar_bridgeSend (Or.inl hv) _
  refine guar_bind (guar_ofExcept _) fun epoch => guar_bind guar_read fun c => ?_
  split_ifs
  · exact guar_sidecarError _
  · refine guar_bind (guar_ofExcept _) fun kind => ?_
    dsimp only
    split_ifs
    · refine guar_bind (guar_modify fun _ => ?_) fun _ => hsend
      exact does_view hv rfl ⟨rfl, rfl⟩ ⟨rfl, rfl⟩ ⟨[], rfl, by simp⟩
    · refine guar_bind (guar_bind (guar_modify fun c => ?_) fun _ => guar_bind guar_read fun c => ?_) fun _ => hsend
      · exact does_view hv rfl ⟨rfl, rfl⟩ ⟨rfl, rfl⟩ ⟨[_], rfl, by simp [buildOut]⟩
      · split_ifs
        · exact guar_finishLocalTravel hv
        · exact guar_pure ()
    · exact hsend

theorem guar_onPropose (payload : Json) : Guar (Does T) (onPropose payload) := by
  refine guar_bind (guar_ofExcept _) fun incoming => guar_bind guar_read fun c => ?_
  split_ifs
  · exact guar_pure ()
  · refine guar_bind (guar_modify fun c => ?_) fun _ => guar_bridgeSend (Or.inl hv) _
    exact does_view hv rfl ⟨rfl, rfl⟩ ⟨rfl, rfl⟩ ⟨[_], rfl, by simp [buildOut]⟩

theorem guar_onResume (payload : Json) : Guar (Does T) (onResume payload) := by
  have hsend : Guar (Does T) (bridgeSend .travelResume payload) := guar_bridgeSend (Or.inl hv) _
  refine guar_bind (guar_ofExcept _) fun epoch => guar_bind guar_read fun c => ?_
  dsimp only
  split_ifs
  · exact guar_bind (guar_finishLocalTravel hv) fun _ => hsend
  · exact hsend

theorem guar_markLocalZoneLoaded (epoch : ℤ) : Guar (Does T) (markLocalZoneLoaded epoch) := by
  refine guar_bind guar_read fun c => ?_
  split_ifs
  · exact guar_pure ()
  · refine guar_bind (guar_modify fun c => ?_) fun _ => guar_finishLocalTravel hv
    exact does_view hv rfl ⟨rfl, rfl⟩ ⟨rfl, rfl⟩ ⟨[], rfl, by simp⟩
  · refine guar_bind (guar_modify fun c => ?_) fun _ => guar_pure ()
    exact does_view hv rfl ⟨rfl, rfl⟩ ⟨rfl, rfl⟩ ⟨[], rfl, by simp⟩

end view

/-! ## Build operations -/

section build
variable (hb : .build ∈ T)
include hb

theorem does_build {c c' : Client} (hid : c'.playerId = c.playerId) (hview : SameView c c')
    (hsave : c'.disk = c.disk ∧ c'.saveReceiver = c.saveReceiver)
    (hlog : ∃ os, c'.log = os ++ c.log ∧ ∀ o ∈ os, plainOut o = true) : Does T c c' := by
  obtain ⟨os, hos, hplain⟩ := hlog
  exact ⟨hid, Or.inr hview, Or.inr hsave, Or.inl hb, os, hos, Or.inr hplain, Or.inl hb⟩

theorem guar_flushBuild (f : Flush) : Guar (Does T) (flushBuild f) := by
  have hdone : Guar (Does T) (flushDone f) := by
    cases f with
    | net => exact guar_setListening .idle
    | game => exact guar_pure ()
  refine guar_bind guar_read fun c => ?_
  split
  · split_ifs
    · refine guar_bind (guar_modify fun _ => ?_) fun _ => guar_bind (guar_send (Or.inl hb) _) fun _ =>
        guar_modify fun _ => ?_
      · exact does_build hb rfl ⟨rfl, rfl, rfl, rfl, rfl, rfl⟩ ⟨rfl, rfl⟩ ⟨[], rfl, by simp⟩
      · exact does_loop rfl ⟨rfl, rfl, rfl, rfl, rfl, rfl⟩ ⟨rfl, rfl⟩ ⟨rfl, rfl⟩ rfl
    · exact hdone
  · exact hdone

theorem guar_setOwnsBuildLock (b : Bool) : Guar (Does T) (setOwnsBuildLock b) :=
  guar_modify fun _ => does_build hb rfl ⟨rfl, rfl, rfl, rfl, rfl, rfl⟩ ⟨rfl, rfl⟩ ⟨[], rfl, by simp⟩

theorem guar_onLockState (payload : Json) : Guar (Does T) (onLockState payload) :=
  guar_bind guar_read fun _ => guar_bind (guar_ofExcept _) fun _ => guar_bind (guar_setOwnsBuildLock hb _) fun _ =>
    guar_bind (guar_bridgeSend (Or.inr (by decide)) _) fun _ => guar_pure _

theorem guar_onBuildOperation (payload : Json) : Guar (Does T) (onBuildOperation payload) := by
  refine guar_bind (guar_modify fun _ => ?_) fun _ => guar_bind guar_read fun c => ?_
  · exact does_build hb rfl ⟨rfl, rfl, rfl, rfl, rfl, rfl⟩ ⟨rfl, rfl⟩ ⟨[_], rfl, by simp [plainOut]⟩
  · split_ifs
    · exact guar_flushBuild hb .game
    · exact guar_send (Or.inr (by decide)) _

theorem guar_resumeFlush (f : Flush) : Guar (Does T) (resumeFlush f) := by
  refine guar_bind (guar_modify fun _ => ?_) fun _ => guar_bind (guar_attempt (guar_flushBuild hb f)) fun r => ?_
  · exact does_loop rfl ⟨rfl, rfl, rfl, rfl, rfl, rfl⟩ ⟨rfl, rfl⟩ ⟨rfl, rfl⟩ rfl
  · split
    · exact guar_setListening .dead
    · exact guar_pure ()

theorem guar_onGameEvent (event : BridgeEvent) : Guar (Does T) (onGameEvent event) := by
  unfold onGameEvent
  split
  · exact guar_bind guar_read fun c => guar_bind (guar_bridgeSend (Or.inr (by decide)) _) fun _ =>
      guar_send (Or.inr (by decide)) _
  · exact guar_bind (guar_ofExcept _) fun status => guar_send (Or.inr (by decide)) _
  any_goals exact guar_send (Or.inl hb) _
  · exact guar_onSims _
  · exact guar_onSims _
  · exact guar_onBuildOperation hb _
  · exact guar_bind (guar_setOwnsBuildLock hb false) fun _ => guar_send (Or.inr (by decide)) _
  · exact guar_pure ()

end build

/-! ## Saves -/

section save
variable (hs : .save ∈ T)
include hs

theorem does_save {c c' : Client} (hid : c'.playerId = c.playerId) (hview : SameView c c')
    (hbuild : c'.pendingBuild = c.pendingBuild ∧ c'.ownsBuildLock = c.ownsBuildLock) (hlog : c'.log = c.log) :
    Does T c c' :=
  ⟨hid, Or.inr hview, Or.inl hs, Or.inr hbuild, [], by simpa using hlog, Or.inr (by simp), Or.inr (by simp)⟩

theorem guar_setSave (r : Option SaveReceiver) : Guar (Does T) (setSave r) :=
  guar_modify fun _ => does_save hs rfl ⟨rfl, rfl, rfl, rfl, rfl, rfl⟩ ⟨rfl, rfl⟩ rfl

theorem guar_onDisk {α : Type} (f : Disk → Except Exc (α × Disk)) : Guar (Does T) (onDisk f) := by
  refine guar_tryCall fun c => ?_
  cases f c.disk with
  | ok r => exact does_save hs rfl ⟨rfl, rfl, rfl, rfl, rfl, rfl⟩ ⟨rfl, rfl⟩ rfl
  | error e => exact does_refl c

theorem guar_onSaveManifest (payload : Json) : Guar (Does T) (onSaveManifest payload) := by
  refine guar_bind (guar_attempt (guar_bind (guar_onDisk hs _) fun r => guar_bind (guar_setSave hs _) fun _ =>
    guar_send (Or.inr (by decide)) _)) fun r => ?_
  cases r with
  | ok _ => exact guar_pure ()
  | error e =>
    dsimp only
    split_ifs
    · exact guar_send (Or.inr (by decide)) _
    · exact guar_raise _

theorem guar_onSaveChunk (payload : Json) : Guar (Does T) (onSaveChunk payload) := by
  refine guar_bind (guar_attempt (guar_bind guar_activeSave fun r => guar_bind (guar_ofExcept _) fun data =>
    guar_bind (guar_ofExcept _) fun index => guar_bind (guar_onDisk hs _) fun r => guar_bind (guar_setSave hs _) fun _ =>
      guar_send (Or.inr (by decide)) _)) fun r => ?_
  cases r with
  | ok _ => exact guar_pure ()
  | error e =>
    refine guar_bind (guar_modify fun _ => ?_) fun _ => guar_send (Or.inr (by decide)) _
    exact does_save hs rfl ⟨rfl, rfl, rfl, rfl, rfl, rfl⟩ ⟨rfl, rfl⟩ rfl

theorem guar_onSaveEnd (sha256 : Bytes → String) (payload : Json) : Guar (Does T) (onSaveEnd sha256 payload) := by
  refine guar_andFinally (guar_bind guar_askEnv fun a => guar_bind (guar_attempt (guar_bind guar_activeSave fun r =>
    guar_bind (guar_ofExcept _) fun sessionId => guar_bind (guar_tryCall fun _ => ?_) fun backup =>
      guar_send (Or.inr (by decide)) _))
    fun done => ?_) (guar_setSave hs none)
  · exact does_save hs rfl ⟨rfl, rfl, rfl, rfl, rfl, rfl⟩ ⟨rfl, rfl⟩ rfl
  · cases done with
    | ok _ => exact guar_pure ()
    | error e => exact guar_send (Or.inr (by decide)) _

end save

/-! ## Messages of the host -/

/-- the messages that work on the view updates -/
def viewMessages : List MessageType := [.gameRawMessage, .travelViewBatch, .travelPropose, .travelResume]

/-- the messages that work on a save transfer -/
def saveMessages : List MessageType := [.saveManifest, .saveChunk, .saveEnd]

theorem guar_onNetworkMessage (sha256 : Bytes → String) {env : Envelope} (hv : .view ∈ T ∨ env.type ∉ viewMessages)
    (hs : .save ∈ T ∨ env.type ∉ saveMessages) (hb : .build ∈ T ∨ env.type ≠ .buildLockState) :
    Guar (Does T) (onNetworkMessage sha256 env) := by
  have hview : env.type ∈ viewMessages → .view ∈ T := fun h => hv.resolve_right (not_not.2 h)
  have hsave : env.type ∈ saveMessages → .save ∈ T := fun h => hs.resolve_right (not_not.2 h)
  unfold onNetworkMessage
  split
  case h_1 h => exact guar_bind (guar_onSaveManifest (hsave (by simp [h, saveMessages])) _) fun _ => guar_pure _
  case h_2 h => exact guar_bind (guar_onSaveChunk (hsave (by simp [h, saveMessages])) _) fun _ => guar_pure _
  case h_3 h => exact guar_bind (guar_onSaveEnd (hsave (by simp [h, saveMessages])) _ _) fun _ => guar_pure _
  case h_4 h => exact guar_bind (guar_onRawMessage (hview (by simp [h, viewMessages])) _) fun _ => guar_pure _
  case h_5 h => exact guar_bind (guar_onViewBatch (hview (by simp [h, viewMessages])) _) fun _ => guar_pure _
  case h_6 h => exact guar_bind (guar_onPropose (hview (by simp [h, viewMessages])) _) fun _ => guar_pure _
  case h_7 h => exact guar_bind (guar_onResume (hview (by simp [h, viewMessages])) _) fun _ => guar_pure _
  case h_10 h => exact guar_onLockState (hb.resolve_right (not_not.2 h)) _
  case h_24 => exact guar_pure _
  all_goals exact guar_bind (guar_bridgeSend (Or.inr (by simp [*])) _) fun _ => guar_pure _

/-- what `listen` does with the answer of `onNetworkMessage` -/
theorem guar_afterMessage (hb : .build ∈ T) (flush : Bool) :
    Guar (Does T) (if flush then flushBuild .net else setListening .idle : ClientM Unit) := by
  split_ifs
  · exact guar_flushBuild hb .net
  · exact guar_setListening .idle

theorem guar_afterListen (r : Except Exc Unit) :
    Guar (Does T) (match r with | .ok _ => pure () | .error _ => setListening .dead : ClientM Unit) := by
  cases r with
  | ok _ => exact guar_pure ()
  | error e => exact guar_setListening .dead

/-! ## One message at a time -/

section messages
variable {env : Envelope} (sha256 : Bytes → String)

theorem onNetworkMessage_saveManifest (h : env.type = .saveManifest) :
    onNetworkMessage sha256 env = onSaveManifest env.payload >>= fun _ => pure false := by
  unfold onNetworkMessage
  rw [h]

theorem onNetworkMessage_saveChunk (h : env.type = .saveChunk) :
    onNetworkMessage sha256 env = onSaveChunk env.payload >>= fun _ => pure false := by
  unfold onNetworkMessage
  rw [h]

theorem onNetworkMessage_saveEnd (h : env.type = .saveEnd) :
    onNetworkMessage sha256 env = onSaveEnd sha256 env.payload >>= fun _ => pure false := by
  unfold onNetworkMessage
  rw [h]

theorem onNetworkMessage_raw (h : env.type = .gameRawMessage) :
    onNetworkMessage sha256 env = onRawMessage env.payload >>= fun _ => pure false := by
  unfold onNetworkMessage
  rw [h]

theorem onNetworkMessage_viewBatch (h : env.type = .travelViewBatch) :
    onNetworkMessage sha256 env = onViewBatch env.payload >>= fun _ => pure false := by
  unfold onNetworkMessage
  rw [h]

theorem onNetworkMessage_propose (h : env.type = .travelPropose) :
    onNetworkMessage sha256 env = onPropose env.payload >>= fun _ => pure false := by
  unfold onNetworkMessage
  rw [h]

theorem onNetworkMessage_resume (h : env.type = .travelResume) :
    onNetworkMessage sha256 env = onResume env.payload >>= fun _ => pure false := by
  unfold onNetworkMessage
  rw [h]

/-- a property of every message, by the four that work on the view updates; the others do not touch them -/
theorem onNetworkMessage_view {Φ : ClientM Bool → Prop}
    (hother : ∀ p : ClientM Bool, Guar (Does {.save, .build}) p → Φ p)
    (hraw : env.type = .gameRawMessage → Φ (onRawMessage env.payload >>= fun _ => pure false))
    (hbatch : env.type = .travelViewBatch → Φ (onViewBatch env.payload >>= fun _ => pure false))
    (hpropose : env.type = .travelPropose → Φ (onPropose env.payload >>= fun _ => pure false))
    (hresume : env.type = .travelResume → Φ (onResume env.payload >>= fun _ => pure false)) :
    Φ (onNetworkMessage sha256 env) := by
  by_cases hview : env.type ∈ viewMessages
  · simp only [viewMessages, List.mem_cons, List.not_mem_nil, or_false] at hview
    rcases hview with h | h | h | h
    · exact onNetworkMessage_raw sha256 h ▸ hraw h
    · exact onNetworkMessage_viewBatch sha256 h ▸ hbatch h
    · exact onNetworkMessage_propose sha256 h ▸ hpropose h
    · exact onNetworkMessage_resume sha256 h ▸ hresume h
  · exact hother _ (guar_onNetworkMessage sha256 (Or.inr hview) (Or.inl (by simp)) (Or.inl (by simp)))

end messages

end KerMP.Client
