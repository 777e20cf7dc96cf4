/-
The save slots of a client are replaced by verified content only (`SaveReceiver` and the `save.*` handlers of
`ClientRuntime`).

Manifests, chunks and ends may come in any order, repeated, short, oversized or of another slot, between any other
messages and game events, and every send may fail. SHA-256 is any function, the disk any map from paths to bytes.

- A step other than the arrival of `save.end` changes no slot: every program keeps the slots after its first await
  (`later_handle`), and so do the first segments of all other handlers.
- `wp_onSaveEnd_first`: the first segment of `save.end` changes no slot, or replaces the receiver's slot by content with
  the announced hash and sends `save.ack`.
- `announced_run`: the transfer under way is the one of the last manifest accepted.
- `slots_verified`: the result, for every step of every run, with what a refused chunk leaves alone.
-/
import KerMP.Lib.Segment
import KerMP.ClientSteps

namespace KerMP.Client

open Py Coop
open Coro hiding pure get modify
open Base64 (Bytes)

/-! ## Slots on the disk -/

/-- the final path of a slot -/
def slotPath (slot : String) : SavePath := [slot ++ ".save"]

/-- every slot holds the same bytes, or still does not exist -/
def SameSlots (d d' : Disk) : Prop := ∀ slot, d'.lookup (slotPath slot) = d.lookup (slotPath slot)

theorem SameSlots.refl (d : Disk) : SameSlots d d := fun _ => rfl

theorem SameSlots.trans {a b c : Disk} (h : SameSlots a b) (h' : SameSlots b c) : SameSlots a c :=
  fun slot => (h' slot).trans (h slot)

/-- a partial file is no slot -/
theorem slotPath_ne_partialPath (slot : String) (r : SaveReceiver) : slotPath slot ≠ r.partialPath :=
  SaveReceiver.finalPath_ne_partialPath { r with slotId := slot } r

/-- a backup is no slot -/
theorem slotPath_ne_backupPath (slot : String) (r : SaveReceiver) (sessionId stamp : String) :
    slotPath slot ≠ r.backupPath sessionId stamp := by
  intro h
  cases (List.cons.inj h).2

theorem slotPath_injective {a b : String} (h : slotPath a = slotPath b) : a = b := by
  have hchars := congrArg String.toList (List.cons.inj h).1
  rw [String.toList_append, String.toList_append] at hchars
  exact String.toList_inj.1 (List.append_cancel_right hchars)

theorem sameSlots_erase (d : Disk) (r : SaveReceiver) : SameSlots d (d.erase r.partialPath) := by
  intro slot
  exact AList.lookup_erase_ne (slotPath_ne_partialPath slot r)

theorem create_sameSlots {payload : Json} {d d' : Disk} {r : SaveReceiver}
    (h : SaveReceiver.create payload d = .ok (r, d')) : SameSlots d d' := by
  obtain ⟨-, -, -, -, -, rfl⟩ := SaveReceiver.create_ok h
  exact sameSlots_erase d r

/-- a chunk goes to the partial file and moves the receiver on -/
theorem writeChunk_result {r r' : SaveReceiver} {d d' : Disk} {index : ℤ} {data : Bytes}
    (h : r.writeChunk d index data = .ok (r', d')) :
    r' = { r with nextIndex := r'.nextIndex, received := r'.received } ∧ SameSlots d d' := by
  obtain ⟨-, -, rfl, rfl⟩ := SaveReceiver.writeChunk_iff.1 h
  refine ⟨rfl, fun slot => ?_⟩
  exact AList.lookup_setItem_ne _ _ (slotPath_ne_partialPath slot r)

/-- a transfer that is not accepted changes no slot -/
theorem finalize_error {sha256 : Bytes → String} {r : SaveReceiver} {d d' : Disk} {sessionId : String} {now : ℕ} {e : Exc}
    (h : r.finalize sha256 d sessionId now = (.error e, d')) : SameSlots d d' := by
  unfold SaveReceiver.finalize at h
  split_ifs at h
  · cases h
    exact sameSlots_erase d r
  · split at h
    · cases h
      exact SameSlots.refl d
    · split_ifs at h
      · cases h
        exact sameSlots_erase d r
      · split at h <;> cases h

/-- an accepted transfer replaces its own slot, by content with the announced hash -/
theorem finalize_replaces {sha256 : Bytes → String} {r : SaveReceiver} {d d' : Disk} {sessionId : String} {now : ℕ}
    {b : Option SavePath} (h : r.finalize sha256 d sessionId now = (.ok b, d')) :
    (∃ content, d'.lookup (slotPath r.slotId) = some content ∧ sha256 content = r.expectedHash) ∧
      ∀ slot, slot ≠ r.slotId → d'.lookup (slotPath slot) = d.lookup (slotPath slot) := by
  obtain ⟨-, content, -, hhash, hfinal⟩ := SaveReceiver.finalize_ok h
  refine ⟨⟨content, hfinal, hhash⟩, fun slot hne => ?_⟩
  have hother : slotPath slot ≠ r.finalPath := fun heq => hne (slotPath_injective heq)
  unfold SaveReceiver.finalize at h
  split_ifs at h
  · cases h
  · split at h
    · cases h
    · split_ifs at h
      · cases h
      · split at h
        · cases h
          rw [AList.lookup_setItem_ne _ _ hother]
          exact AList.lookup_erase_ne (slotPath_ne_partialPath slot r)
        · cases h
          rw [AList.lookup_setItem_ne _ _ hother, AList.lookup_erase_ne (slotPath_ne_partialPath slot r)]
          exact AList.lookup_setItem_ne _ _ (slotPath_ne_backupPath slot r _ _)

/-! ## After the first await -/

/-- no slot changes, and no transfer is begun or moved on -/
def Rests (c c' : Client) : Prop :=
  SameSlots c.disk c'.disk ∧ (c'.saveReceiver = c.saveReceiver ∨ c'.saveReceiver = none)

theorem Rests.refl (c : Client) : Rests c c := ⟨SameSlots.refl _, Or.inl rfl⟩

theorem Rests.trans {a b c : Client} (h : Rests a b) (h' : Rests b c) : Rests a c := by
  refine ⟨h.1.trans h'.1, ?_⟩
  rcases h'.2 with hsame | hnone
  · rw [hsame]
    exact h.2
  · exact Or.inr hnone

theorem rests_of_does {α : Type} {p : ClientM α} (hp : Guar (Does {.view, .build}) p) : Guar Rests p := by
  apply Guar.mono _ hp
  intro c c' h
  obtain ⟨hdisk, hreceiver⟩ := h.save.resolve_left (by simp)
  exact ⟨hdisk ▸ SameSlots.refl _, Or.inl hreceiver⟩

theorem rests_send (type : MessageType) (payload : Json) : Guar Rests (send type payload) :=
  rests_of_does (guar_send (Or.inl (by simp)) _)

theorem later_onSaveManifest (payload : Json) : Later Rests (onSaveManifest payload) := by
  refine later_bind (later_attempt (later_tryCall fun r => later_modify (later_of_guar (rests_send _ _)))) fun r => ?_
  cases r with
  | ok _ => exact guar_pure ()
  | error e =>
    dsimp only
    split_ifs
    · exact rests_send _ _
    · exact guar_raise _

theorem later_activeSave {β : Type} {f : SaveReceiver → ClientM β} (hf : ∀ r, Later Rests (f r)) :
    Later Rests (activeSave >>= f) := by
  unfold activeSave
  intro c
  simp only [Coro.bind]
  cases c.saveReceiver with
  | some r => exact hf r
  | none => trivial

theorem later_onSaveChunk (payload : Json) : Later Rests (onSaveChunk payload) := by
  refine later_bind (later_attempt (later_activeSave fun r => later_ofExcept fun data => later_ofExcept fun index =>
    later_tryCall fun r => later_modify (later_of_guar (rests_send _ _)))) fun r => ?_
  cases r with
  | ok _ => exact guar_pure ()
  | error e =>
    refine guar_bind (guar_modify fun c => ?_) fun _ => rests_send _ _
    refine ⟨?_, Or.inl rfl⟩
    cases c.saveReceiver with
    | none => exact SameSlots.refl _
    | some r => exact sameSlots_erase _ r

theorem later_onSaveEnd (sha256 : Bytes → String) (payload : Json) : Later Rests (onSaveEnd sha256 payload) := by
  refine later_andFinally (later_askEnv fun a => later_bind (later_attempt (later_activeSave fun r =>
    later_ofExcept fun sessionId => later_tryCall fun backup => later_of_guar (rests_send _ _))) fun done => ?_)
    (guar_modify fun c => ⟨SameSlots.refl _, Or.inr rfl⟩)
  cases done with
  | ok _ => exact guar_pure ()
  | error e => exact rests_send _ _

/-- the messages that are not about saves -/
theorem rests_onNetworkMessage {env : Envelope} (h : env.type ∉ saveMessages) (sha256 : Bytes → String) :
    Guar Rests (onNetworkMessage sha256 env) :=
  rests_of_does (guar_onNetworkMessage sha256 (Or.inl (by simp)) (Or.inr h) (Or.inl (by simp)))

theorem later_onNetworkMessage (sha256 : Bytes → String) (env : Envelope) :
    Later Rests (onNetworkMessage sha256 env) := by
  by_cases hmanifest : env.type = .saveManifest
  · rw [onNetworkMessage_saveManifest sha256 hmanifest]
    exact later_bind (later_onSaveManifest _) fun _ => guar_pure _
  by_cases hchunk : env.type = .saveChunk
  · rw [onNetworkMessage_saveChunk sha256 hchunk]
    exact later_bind (later_onSaveChunk _) fun _ => guar_pure _
  by_cases hend : env.type = .saveEnd
  · rw [onNetworkMessage_saveEnd sha256 hend]
    exact later_bind (later_onSaveEnd _ _) fun _ => guar_pure _
  exact later_of_guar (rests_onNetworkMessage (by simp [saveMessages, hmanifest, hchunk, hend]) sha256)

theorem later_handle (sha256 : Bytes → String) (t : Event) : Later Rests (handle sha256 t) := by
  cases t with
  | net r =>
    refine later_modify (later_bind (later_attempt (later_ofExcept fun env => ?_)) fun r =>
      rests_of_does (guar_afterListen r))
    exact later_bind (later_onNetworkMessage sha256 env) fun flush =>
      rests_of_does (guar_afterMessage (by simp) flush)
  | game event => exact later_of_guar (rests_of_does (guar_onGameEvent (by simp) event))
  | zoneLoaded epoch => exact later_of_guar (rests_of_does (guar_markLocalZoneLoaded (by simp) epoch))
  | flush f => exact later_of_guar (rests_of_does (guar_resumeFlush (by simp) f))

/-! ## First segments -/

/-- the payload announces the transfer: the receiver made of it differs at most in how far it has come -/
def Announces (payload : Json) (r : SaveReceiver) : Prop :=
  ∃ d r₀ d', SaveReceiver.create payload d = .ok (r₀, d') ∧ r = { r₀ with nextIndex := r.nextIndex, received := r.received }

/-- the manifest is taken up, or refused and nothing has changed but the log -/
structure Begun (c : Client) (payload : Json) (c' : Client) : Prop where
  slots : SameSlots c.disk c'.disk
  taken : ∀ r d, SaveReceiver.create payload c.disk = .ok (r, d) → c'.saveReceiver = some r
  refused : ∀ e, SaveReceiver.create payload c.disk = .error e → c'.saveReceiver = c.saveReceiver

/-- the chunk is written, or refused and answered by `save.error` -/
structure Chunked (c c' : Client) : Prop where
  slots : SameSlots c.disk c'.disk
  outcome : (∃ r r' env, c.saveReceiver = some r ∧ c'.saveReceiver = some r' ∧
      r' = { r with nextIndex := r'.nextIndex, received := r'.received } ∧ c'.log = .sent env :: c.log ∧
        env.type = .readiness) ∨
    ∃ env, c'.saveReceiver = c.saveReceiver ∧ c'.log = .sent env :: c.log ∧ env.type = .saveError

/-- the slot of the transfer is replaced by verified content, and the host is told so -/
structure Finished (sha256 : Bytes → String) (c c' : Client) (slot : String) : Prop where
  receiver : ∃ r, c.saveReceiver = some r ∧ r.slotId = slot ∧
    ∃ content, c'.disk.lookup (slotPath slot) = some content ∧ sha256 content = r.expectedHash
  acked : ∃ env, c'.log = .sent env :: c.log ∧ env.type = .saveAck

/-- no slot changes, or the one of the transfer is replaced -/
structure Ended (sha256 : Bytes → String) (c c' : Client) : Prop where
  slots : ∀ slot, c'.disk.lookup (slotPath slot) = c.disk.lookup (slotPath slot) ∨ Finished sha256 c c' slot
  receiver : c'.saveReceiver = c.saveReceiver

variable {sha256 : Bytes → String} {own : Set Empty} {c : Client}

section unrestricted
variable {D : Discipline Client Empty} (hmay : ∀ own c c', D.May own c c')
include hmay

theorem wp_activeSave {Q : Except Exc SaveReceiver → Set Empty → Client → Prop}
    (hsome : ∀ own r, c.saveReceiver = some r → Q (.ok r) own c)
    (hnone : ∀ own, c.saveReceiver = none → Q (.error (.valueError "save_transfer_not_started")) own c) :
    wp D own activeSave Q c := by
  rw [activeSave, wp_bind, wp_get]
  refine ⟨hmay _ _ _, ?_⟩
  simp only [andThen_ok]
  cases hr : c.saveReceiver with
  | some r => exact hsome _ r hr
  | none => exact hnone _ hr

theorem wp_onDisk {α : Type} {f : Disk → Except Exc (α × Disk)} {Q : Except Exc α → Set Empty → Client → Prop}
    (hok : ∀ own a d, f c.disk = .ok (a, d) → Q (.ok a) own { c with disk := d })
    (herror : ∀ own e, f c.disk = .error e → Q (.error e) own c) : wp D own (onDisk f) Q c := by
  rw [onDisk, wp_tryCall]
  refine ⟨hmay _ _ _, ?_⟩
  cases hf : f c.disk with
  | ok x => exact hok _ x.1 x.2 hf
  | error e => exact herror _ e hf

end unrestricted

theorem wp_onSaveManifest_first (payload : Json) (c : Client) :
    wp (Discipline.first (Begun c payload)) own (onSaveManifest payload) (fun _ _ c' => Begun c payload c') c := by
  simp only [onSaveManifest, onDisk, setSave, saveProgress, wp_bind, wp_attempt, wp_tryCall, Discipline.may_first, true_and]
  cases hcreate : SaveReceiver.create payload c.disk with
  | ok x =>
    obtain ⟨r, d⟩ := x
    simp only [andThen, wp_modify, wp_send_first, Discipline.may_first, true_and]
    refine ⟨create_sameSlots hcreate, fun r' d' h => ?_, fun e h => ?_⟩
    · cases hcreate.symm.trans h
      rfl
    · cases hcreate.symm.trans h
  | error e =>
    have hbegun : ∀ {c'}, c'.disk = c.disk → c'.saveReceiver = c.saveReceiver → Begun c payload c' := by
      intro c' hdisk hreceiver
      refine ⟨hdisk ▸ SameSlots.refl _, fun r d h => ?_, fun _ _ => hreceiver⟩
      cases hcreate.symm.trans h
    simp only [andThen]
    split_ifs
    · rw [saveFailed, wp_send_first]
      exact hbegun rfl rfl
    · exact hbegun rfl rfl

/-- a refusal in the first segment of a chunk removes the partial file and says `save.error` -/
theorem chunked_refused (c : Client) (exc : Exc) :
    Chunked c (Client.posted { c with disk := match c.saveReceiver with | some r => r.abort c.disk | none => c.disk }
      .saveError (.obj [("reason", .str exc.str)])) := by
  refine ⟨?_, Or.inr ⟨_, rfl, rfl, rfl⟩⟩
  show SameSlots c.disk (match c.saveReceiver with | some r => r.abort c.disk | none => c.disk)
  cases c.saveReceiver with
  | none => exact SameSlots.refl _
  | some r => exact sameSlots_erase _ r

theorem wp_onSaveChunk_first (payload : Json) (c : Client) :
    wp (Discipline.first (Chunked c)) own (onSaveChunk payload) (fun _ _ c' => Chunked c c') c := by
  -- every refusal ends in the same two updates
  have hrefused : ∀ own exc, wp (Discipline.first (Chunked c)) own
      (Coro.modify (fun c => { c with disk := match c.saveReceiver with | some r => r.abort c.disk | none => c.disk })
        >>= fun _ => saveFailed exc : ClientM Unit) (fun _ _ c' => Chunked c c') c := by
    intro own exc
    simp only [wp_bind, wp_modify, saveFailed, andThen, wp_send_first, Discipline.may_first, true_and]
    exact chunked_refused c exc
  rw [onSaveChunk, wp_bind, wp_attempt, wp_bind]
  refine wp_activeSave (fun _ _ _ => Discipline.may_first.2 trivial) (fun own r hreceiver => ?_) fun own _ => hrefused own _
  rw [andThen_ok]
  refine wp_ofExcept_bind (fun e _ => hrefused own e) fun data _ => ?_
  refine wp_ofExcept_bind (fun e _ => hrefused own e) fun index _ => ?_
  rw [wp_bind]
  refine wp_onDisk (fun _ _ _ => Discipline.may_first.2 trivial) (fun own r' d hwrite => ?_)
    fun own e _ => hrefused own e
  obtain ⟨hr', hslots⟩ := writeChunk_result hwrite
  simp only [andThen_ok, setSave, saveProgress, wp_bind, wp_modify, wp_send_first, Discipline.may_first, true_and]
  exact ⟨hslots, Or.inl ⟨r, r', _, hreceiver, rfl, hr', rfl, rfl⟩⟩

theorem wp_onSaveEnd_first (payload : Json) (c : Client) :
    wp (Discipline.first (Ended sha256 c)) own (onSaveEnd sha256 payload) (fun _ _ c' => Ended sha256 c c') c := by
  -- a transfer that fails says `save.error` and changes no slot
  have hfailed : ∀ own exc (c' : Client) (Q : Except Exc Unit → Set Empty → Client → Prop), SameSlots c.disk c'.disk →
      c'.saveReceiver = c.saveReceiver → wp (Discipline.first (Ended sha256 c)) own (saveFailed exc) Q c' := by
    intro own exc c' Q hslots hreceiver
    rw [saveFailed, wp_send_first]
    exact ⟨fun slot => Or.inl (hslots slot), hreceiver⟩
  rw [onSaveEnd, andFinally, wp_bind, wp_attempt, wp_bind, wp_askEnv]
  intro a
  rw [andThen_ok, wp_bind, wp_attempt, wp_bind]
  refine wp_activeSave (fun _ _ _ => Discipline.may_first.2 trivial) (fun own r hreceiver => ?_)
    fun own _ => hfailed own _ c _ (SameSlots.refl _) rfl
  rw [andThen_ok]
  refine wp_ofExcept_bind (fun e _ => hfailed own e c _ (SameSlots.refl _) rfl) fun sessionId _ => ?_
  rw [wp_bind, wp_tryCall]
  refine ⟨by simp, ?_⟩
  cases hfinalize : r.finalize sha256 c.disk (sessionId.or (.str "unknown")).toStr a.seconds with
  | mk result d =>
    cases result with
    | error e => exact hfailed _ e _ _ (finalize_error hfinalize) rfl
    | ok backup =>
      obtain ⟨hcontent, hothers⟩ := finalize_replaces hfinalize
      simp only [andThen_ok, wp_send_first]
      refine ⟨fun slot => ?_, rfl⟩
      by_cases hslot : slot = r.slotId
      · refine Or.inr ⟨⟨r, hreceiver, hslot.symm, ?_⟩, _, rfl, rfl⟩
        rw [hslot]
        exact hcontent
      · exact Or.inl (hothers slot hslot)

/-! ## One step -/

/-- `listen` around a save handler: what the handler's first segment leaves, up to the state of the loop -/
theorem wp_listen_first (own : Set Empty) {I : Client → Prop} (hI : ∀ c' l, I c' → I { c' with listening := l })
    {env : Envelope}
    {p : ClientM Unit} (hp : onNetworkMessage sha256 env = p >>= fun _ => pure false)
    (h : ∀ own, wp (Discipline.first I) own p (fun _ _ c' => I c') { c with listening := .busy }) :
    wp (Discipline.first I) own (listen sha256 (.ok env)) (fun _ _ c' => I c') c := by
  have hset : ∀ own l c', I c' → wp (Discipline.first I) own (setListening l) (fun _ _ c' => I c') c' := by
    intro own l c' hc'
    rw [setListening, wp_modify]
    exact ⟨by simp, hI c' l hc'⟩
  rw [listen, wp_bind, setListening, wp_modify]
  refine ⟨by simp, ?_⟩
  rw [andThen_ok, wp_bind, wp_attempt, wp_bind, wp_ofExcept, andThen_ok, wp_bind, hp, wp_bind]
  refine wp_mono (fun r own c' hc' => ?_) (h _)
  cases r with
  | error e => exact hset own .dead c' hc'
  | ok _ =>
    show wp (Discipline.first I) own (setListening .idle) _ c'
    refine wp_mono (fun r own c' hc' => ?_) (hset own .idle c' hc')
    cases r with
    | error e => exact hset own .dead c' hc'
    | ok _ => exact hc'

theorem arrive_first (sha256 : Bytes → String) {I : Client → Prop} (hI : ∀ c' l, I c' → I { c' with listening := l })
    {env : Envelope}
    {p : ClientM Unit} (hp : onNetworkMessage sha256 env = p >>= fun _ => pure false) {c : Run}
    (h : ∀ own, wp (Discipline.first I) own p (fun _ _ c' => I c') { c.state with listening := .busy })
    (hidle : c.state.listening = .idle) (as : List Answer) :
    I (Pool.step (handle sha256) enabled c (.arrive (.net (.ok env)) as)).state := by
  rw [Pool.arrive_state, if_pos (by simpa [enabled] using hidle)]
  rcases wp_first as (wp_listen_first ∅ hI hp h) with ⟨r, own', -, hq⟩ | hq
  · exact hq
  · exact hq

/-- the payload an act makes the announcement of the transfer, when it is a manifest that is accepted -/
def accepted (c : Client) : ClientAct → Option Json
  | .arrive (.net (.ok env)) _ =>
    if c.listening = .idle ∧ env.type = .saveManifest ∧ (SaveReceiver.create env.payload c.disk).isOk then some env.payload
    else none
  | _ => none

/-- what a step does to the save transfer and the slots -/
inductive Stepped (sha256 : Bytes → String) (c c' : Client) : ClientAct → Prop
  | ignored (act : ClientAct) (hnone : accepted c act = none) (h : c' = c) : Stepped sha256 c c' act
  | rests (act : ClientAct) (hnone : accepted c act = none)
      (hchunk : ∀ env as, act = .arrive (.net (.ok env)) as → env.type ≠ .saveChunk) (h : Rests c c') :
      Stepped sha256 c c' act
  | manifest (env : Envelope) (as : List Answer) (htype : env.type = .saveManifest) (hidle : c.listening = .idle)
      (h : Begun c env.payload c') : Stepped sha256 c c' (.arrive (.net (.ok env)) as)
  | chunk (env : Envelope) (as : List Answer) (htype : env.type = .saveChunk) (h : Chunked c c') :
      Stepped sha256 c c' (.arrive (.net (.ok env)) as)
  | saveEnd (env : Envelope) (as : List Answer) (htype : env.type = .saveEnd) (h : Ended sha256 c c') :
      Stepped sha256 c c' (.arrive (.net (.ok env)) as)

theorem stepped (sha256 : Bytes → String) {c : Run} (hlater : Pool.AllLater Rests c) (act : ClientAct) :
    Stepped sha256 c.state (Pool.step (handle sha256) enabled c act).state act := by
  cases act with
  | resume i a as =>
    exact .rests _ rfl (fun _ _ h => by cases h)
      (Pool.resume_guar Rests.refl (fun _ _ _ => Rests.trans) hlater i a as)
  | arrive t as =>
    -- the first segment of every other program keeps the slots
    have hrests : accepted c.state (.arrive t as) = none → (∀ env, t = .net (.ok env) → env.type ≠ .saveChunk) →
        Guar Rests (handle sha256 t) → Stepped sha256 c.state
          (Pool.step (handle sha256) enabled c (.arrive t as)).state (.arrive t as) := by
      intro hnone hchunk hguar
      refine .rests _ hnone (fun env _ h => hchunk env (by cases h; rfl)) ?_
      rw [Pool.arrive_state]
      split_ifs
      · exact segment_guar Rests.refl (fun _ _ _ => Rests.trans) hguar as c.state
      · exact Rests.refl _
    by_cases henabled : enabled c.state t = true
    swap
    · have hnone : accepted c.state (.arrive t as) = none := by
        cases t with
        | net r =>
          cases r with
          | ok env => exact if_neg fun h => henabled (by simpa [enabled] using h.1)
          | error e => rfl
        | _ => rfl
      exact .ignored _ hnone (by rw [Pool.arrive_state, if_neg henabled])
    cases t with
    | game event => exact hrests rfl (fun _ h => by cases h) (rests_of_does (guar_onGameEvent (by simp) event))
    | zoneLoaded epoch => exact hrests rfl (fun _ h => by cases h) (rests_of_does (guar_markLocalZoneLoaded (by simp) epoch))
    | flush f => exact hrests rfl (fun _ h => by cases h) (rests_of_does (guar_resumeFlush (by simp) f))
    | net r =>
      have hidle : c.state.listening = .idle := by simpa [enabled] using henabled
      have hlisten : ∀ {p : ClientM Bool} {after : Except Exc Unit → ClientM Unit}, Guar Rests p →
          (∀ r, Guar Rests (after r)) → Guar Rests (setListening .busy >>= fun _ =>
            (p >>= fun flush => if flush then flushBuild .net else setListening .idle : ClientM Unit).attempt >>= after) := by
        intro p after hp hafter
        exact guar_bind (rests_of_does (guar_setListening .busy)) fun _ =>
          guar_bind (guar_attempt (guar_bind hp fun flush => rests_of_does (guar_afterMessage (by simp) flush))) hafter
      cases r with
      | error e =>
        exact hrests rfl (fun _ h => by cases h)
          (hlisten (p := .raise e) (guar_raise e) fun r => rests_of_does (guar_afterListen r))
      | ok env =>
        by_cases hmanifest : env.type = .saveManifest
        · have h := arrive_first sha256 (I := Begun { c.state with listening := .busy } env.payload)
            (fun c' l h => ⟨h.slots, h.taken, h.refused⟩) (onNetworkMessage_saveManifest sha256 hmanifest)
            (fun own => wp_onSaveManifest_first env.payload _) hidle as
          exact .manifest env as hmanifest hidle ⟨h.slots, h.taken, h.refused⟩
        by_cases hchunk : env.type = .saveChunk
        · have h := arrive_first sha256 (I := Chunked { c.state with listening := .busy })
            (fun c' l h => ⟨h.slots, h.outcome⟩) (onNetworkMessage_saveChunk sha256 hchunk)
            (fun own => wp_onSaveChunk_first env.payload _) hidle as
          exact .chunk env as hchunk ⟨h.slots, h.outcome⟩
        by_cases hend : env.type = .saveEnd
        · have h := arrive_first sha256 (I := Ended sha256 { c.state with listening := .busy })
            (fun c' l h => ⟨fun slot => (h.slots slot).imp_right fun f => ⟨f.receiver, f.acked⟩, h.receiver⟩)
            (onNetworkMessage_saveEnd sha256 hend) (fun own => wp_onSaveEnd_first env.payload _) hidle as
          exact .saveEnd env as hend ⟨fun slot => (h.slots slot).imp_right fun f => ⟨f.receiver, f.acked⟩, h.receiver⟩
        have hother : env.type ∉ saveMessages := by simp [saveMessages, hmanifest, hchunk, hend]
        have hguar := hlisten (rests_onNetworkMessage hother sha256) fun r => rests_of_does (guar_afterListen r)
        exact hrests (if_neg fun h => hmanifest h.2.1) (fun _ h => by cases h; exact hchunk) hguar

/-! ## Runs -/

/-- the payload of the last manifest that was accepted, `m` before the first -/
def lastManifest (sha256 : Bytes → String) (c : Run) (m : Option Json) : List ClientAct → Option Json
  | [] => m
  | act :: acts =>
    lastManifest sha256 (Pool.step (handle sha256) enabled c act) ((accepted c.state act).or m) acts

/-- the transfer under way is the one that `m` announces -/
def Announced (m : Option Json) (c : Client) : Prop :=
  ∀ r, c.saveReceiver = some r → ∃ payload, m = some payload ∧ Announces payload r

theorem announced_step (sha256 : Bytes → String) {m : Option Json} {c : Run} (hlater : Pool.AllLater Rests c)
    (h : Announced m c.state)
    (act : ClientAct) : Announced ((accepted c.state act).or m) (Pool.step (handle sha256) enabled c act).state := by
  -- what is not a manifest accepts nothing
  have hkept : accepted c.state act = none → ∀ {c' : Client}, (c'.saveReceiver = c.state.saveReceiver ∨
      c'.saveReceiver = none) → Announced ((accepted c.state act).or m) c' := by
    intro hnone c' hreceiver r hr
    rw [hnone, Option.none_or]
    rcases hreceiver with hsame | hgone
    · exact h r (hsame ▸ hr)
    · rw [hgone] at hr
      cases hr
  cases stepped sha256 hlater act with
  | ignored _ hnone h => exact hkept hnone (Or.inl (by rw [h]))
  | rests _ hnone _ h => exact hkept hnone h.2
  | saveEnd env as htype hended =>
    exact hkept (if_neg fun h => by rw [htype] at h; cases h.2.1) (Or.inl hended.receiver)
  | chunk env as htype hchunked =>
    have hnone : accepted c.state (.arrive (.net (.ok env)) as) = none :=
      if_neg fun h => by rw [htype] at h; cases h.2.1
    rcases hchunked.outcome with ⟨r, r', -, hr, hr', hsame, -⟩ | ⟨-, hsame, -⟩
    · intro r'' hr''
      rw [hnone, Option.none_or]
      cases hr'.symm.trans hr''
      obtain ⟨payload, hm, d, r₀, d', hcreate, heq⟩ := h r hr
      refine ⟨payload, hm, d, r₀, d', hcreate, ?_⟩
      rw [heq] at hsame
      exact hsame
    · exact hkept hnone (Or.inl hsame)
  | manifest env as htype hidle hbegun =>
    cases hcreate : SaveReceiver.create env.payload c.state.disk with
    | error e =>
      have hnone : accepted c.state (.arrive (.net (.ok env)) as) = none :=
        if_neg fun h => by rw [hcreate] at h; cases h.2.2
      exact hkept hnone (Or.inl (hbegun.refused e hcreate))
    | ok x =>
      have hsome : accepted c.state (.arrive (.net (.ok env)) as) = some env.payload :=
        if_pos ⟨hidle, htype, by rw [hcreate]; rfl⟩
      intro r hr
      rw [hsome, Option.some_or]
      cases (hbegun.taken x.1 x.2 hcreate).symm.trans hr
      exact ⟨env.payload, rfl, _, _, _, hcreate, rfl⟩

/-- the state of a run and the announcement of its transfer -/
theorem announced_run (sha256 : Bytes → String) {m : Option Json} {c : Run} (hlater : Pool.AllLater Rests c)
    (h : Announced m c.state) (acts : List ClientAct) :
    Announced (lastManifest sha256 c m acts) (runFrom sha256 c acts).state := by
  induction acts generalizing m c with
  | nil => exact h
  | cons act acts ih =>
    exact ih (Pool.step_later (later_handle sha256) hlater act) (announced_step sha256 hlater h act)

/-- how a slot may change: at the end of a transfer, to content with the hash of the last accepted manifest, and with a
`save.ack` -/
structure Replaced (sha256 : Bytes → String) (manifest : Option Json) (c : Client) (act : ClientAct) (c' : Client)
    (slot : String) : Prop where
  atEnd : ∃ env as, act = .arrive (.net (.ok env)) as ∧ env.type = .saveEnd
  verified : ∃ payload r content, manifest = some payload ∧ Announces payload r ∧ r.slotId = slot ∧
    c'.disk.lookup (slotPath slot) = some content ∧ sha256 content = r.expectedHash
  acked : ∃ env, c'.log = .sent env :: c.log ∧ env.type = .saveAck

/-- the act is a chunk that is answered by `save.error` -/
def RefusedChunk (c : Client) (act : ClientAct) (c' : Client) : Prop :=
  ∃ env as answer, act = .arrive (.net (.ok env)) as ∧ env.type = .saveChunk ∧ c'.log = .sent answer :: c.log ∧
    answer.type = .saveError

/-- what holds of a step for which `manifest` is the last manifest accepted -/
structure SlotsVerified (sha256 : Bytes → String) (manifest : Option Json) (c : Client) (act : ClientAct) (c' : Client) :
    Prop where
  replaced : ∀ slot, c'.disk.lookup (slotPath slot) ≠ c.disk.lookup (slotPath slot) →
    Replaced sha256 manifest c act c' slot
  refused : RefusedChunk c act c' → c'.saveReceiver = c.saveReceiver ∧ SameSlots c.disk c'.disk

theorem Stepped.verified {m : Option Json} {c' : Client} {act : ClientAct} (h : Stepped sha256 c c' act)
    (hann : Announced m c) : SlotsVerified sha256 m c act c' := by
  -- a step that keeps the slots replaces none
  have hkeeps : SameSlots c.disk c'.disk → ∀ slot, c'.disk.lookup (slotPath slot) ≠ c.disk.lookup (slotPath slot) →
      Replaced sha256 m c act c' slot := fun hsame slot hchanged => absurd (hsame slot) hchanged
  cases h with
  | ignored _ _ h =>
    subst h
    exact ⟨hkeeps (SameSlots.refl _), fun _ => ⟨rfl, SameSlots.refl _⟩⟩
  | rests _ _ hchunk h =>
    refine ⟨hkeeps h.1, fun hrefused => ?_⟩
    obtain ⟨env, as, -, hact, htype, -⟩ := hrefused
    exact absurd htype (hchunk env as hact)
  | manifest env as htype _ h =>
    refine ⟨hkeeps h.slots, fun hrefused => ?_⟩
    obtain ⟨env', as', -, hact, htype', -⟩ := hrefused
    cases hact
    rw [htype] at htype'
    cases htype'
  | chunk env as htype h =>
    refine ⟨hkeeps h.slots, fun hrefused => ?_⟩
    obtain ⟨env', as', answer, -, -, hlog, herror⟩ := hrefused
    rcases h.outcome with ⟨r, r', answer', -, -, -, hlog', hready⟩ | ⟨answer', hsame, -⟩
    · cases hlog.symm.trans hlog'
      rw [herror] at hready
      cases hready
    · exact ⟨hsame, h.slots⟩
  | saveEnd env as htype h =>
    refine ⟨fun slot hchanged => ?_, fun hrefused => ?_⟩
    · have hfinished := (h.slots slot).resolve_left hchanged
      obtain ⟨r, hr, hslot, content, hcontent, hhash⟩ := hfinished.receiver
      obtain ⟨payload, hmanifest, hpayload⟩ := hann r hr
      exact ⟨⟨env, as, rfl, htype⟩, ⟨payload, r, content, hmanifest, hpayload, hslot, hcontent, hhash⟩, hfinished.acked⟩
    · obtain ⟨env', as', -, hact, htype', -⟩ := hrefused
      cases hact
      rw [htype] at htype'
      cases htype'

/-- **Slots are replaced by verified content only.** At every step of every run, whatever messages and events arrive: a
slot that changes is replaced at the end of the announced transfer by content with the announced hash, and acknowledged;
a refused chunk changes neither the transfer nor any slot. -/
theorem slots_verified (sha256 : Bytes → String) (playerId : String) (disk : Disk) (acts : List ClientAct)
    (act : ClientAct) : SlotsVerified sha256 (lastManifest sha256 ⟨init playerId disk, []⟩ none acts)
      (runFrom sha256 ⟨init playerId disk, []⟩ acts).state act
      (runFrom sha256 ⟨init playerId disk, []⟩ (acts ++ [act])).state := by
  have hnone : Pool.AllLater Rests (⟨init playerId disk, []⟩ : Run) := by simp [Pool.AllLater]
  have hlater : Pool.AllLater Rests (runFrom sha256 ⟨init playerId disk, []⟩ acts) :=
    Pool.run_later (later_handle sha256) hnone acts
  have hann : Announced (lastManifest sha256 ⟨init playerId disk, []⟩ none acts)
      (runFrom sha256 ⟨init playerId disk, []⟩ acts).state := by
    refine announced_run sha256 hnone (fun r hr => ?_) acts
    cases hr
  have hstep := stepped sha256 hlater act
  have hlast : runFrom sha256 ⟨init playerId disk, []⟩ (acts ++ [act]) =
      Pool.step (handle sha256) enabled (runFrom sha256 ⟨init playerId disk, []⟩ acts) act := Pool.run_append _ _ _
  rw [hlast]
  exact hstep.verified hann

end KerMP.Client
