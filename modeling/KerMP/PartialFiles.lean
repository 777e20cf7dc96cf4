/-
The partial files of a client (`SaveReceiver` and the `save.*` handlers of `ClientRuntime`).

A transfer keeps its bytes in a partial file named after its slot until it ends. The file goes when the transfer is
accepted, when it fails and when a manifest of the same slot starts again. It stays behind in two ways: a manifest of
another slot puts a new receiver in the place of the old one, whose file nobody names any more; and a `save.end` without
fields raises before `finalize`, and its `finally` drops the receiver.

- `tidy_afterMessage`: which messages leave a file behind.
- `partials_cleaned_up`: over any sequence of messages there is at most the file of the active transfer, exactly when no
  such message comes.
- `other_slot`: a transfer of one slot, given up for a transfer of another.
-/
import KerMP.Lib.Prefixes
import KerMP.SavedSlots
import KerMP.AbortedSave

namespace KerMP.Client

open Py Coop Prefixes
open Coro hiding pure get modify
open Base64 (Bytes)

/-! ## Partial files -/

/-- the path ends in ".kermp.partial" -/
def IsPartial (p : SavePath) : Prop := ∃ dir name, p = dir ++ [name ++ ".kermp.partial"]

theorem isPartial_partialPath (r : SaveReceiver) : IsPartial r.partialPath := ⟨[], r.slotId, rfl⟩

theorem not_isPartial_save (dir : SavePath) (name : String) : ¬ IsPartial (dir ++ [name ++ ".save"]) := by
  rintro ⟨dir', name', h⟩
  have hname := List.append_inj_right' h rfl
  have hchars := congrArg String.toList (List.cons.inj hname).1
  have hlast := congrArg List.getLast? hchars
  simp [String.toList_append] at hlast

/-- the partial file of the active transfer -/
def ownPartial (c : Client) : Option SavePath := c.saveReceiver.map SaveReceiver.partialPath

/-- there is no partial file but that of the active transfer -/
def Tidy (c : Client) : Prop := ∀ p ∈ c.disk, IsPartial p → c.ownPartial = some p

/-- the active transfer has a partial file -/
def HasPartial (c : Client) (r : SaveReceiver) : Prop := c.saveReceiver = some r ∧ r.partialPath ∈ c.disk

/-- without a transfer there is no partial file -/
theorem Tidy.idle {c : Client} (h : c.Tidy) (hnone : c.saveReceiver = none) : ∀ p ∈ c.disk, ¬ IsPartial p := by
  intro p hp hpartial
  have hown := h p hp hpartial
  rw [ownPartial, hnone] at hown
  cases hown

/-- partial files that are gone, or belong to nobody -/
theorem tidy_iff_of_subset {c c' : Client} (h : c.Tidy) (hsub : ∀ p ∈ c'.disk, p ∈ c.disk ∨ ¬ IsPartial p) :
    c'.Tidy ↔ ∀ r, c.HasPartial r → r.partialPath ∈ c'.disk → c'.ownPartial = some r.partialPath := by
  constructor
  · exact fun htidy r _ hmem => htidy _ hmem (isPartial_partialPath r)
  · intro hown p hp hpartial
    have hbefore := (hsub p hp).resolve_right fun hnot => hnot hpartial
    obtain ⟨r, hr, rfl⟩ := Option.map_eq_some_iff.1 (h p hbefore hpartial)
    exact hown r ⟨hr, hbefore⟩ hp

/-- the same slot, and no other files -/
structure KeepsOwn (c c' : Client) : Prop where
  own : c'.ownPartial = c.ownPartial
  files : ∀ p ∈ c'.disk, p ∈ c.disk ∨ c.ownPartial = some p

theorem KeepsOwn.tidy {c c' : Client} (h : KeepsOwn c c') (htidy : c.Tidy) : c'.Tidy := by
  intro p hp hpartial
  rw [h.own]
  rcases h.files p hp with hbefore | hown
  · exact htidy p hbefore hpartial
  · exact hown

theorem keepsOwn_of_same {c c' : Client} (hdisk : c'.disk = c.disk) (hreceiver : c'.saveReceiver = c.saveReceiver) :
    KeepsOwn c c' :=
  ⟨by rw [ownPartial, hreceiver, ownPartial], fun p hp => Or.inl (hdisk ▸ hp)⟩

/-- `finalize` makes no partial file and removes its own -/
theorem mem_finalize {sha256 : Bytes → String} {r : SaveReceiver} {disk : Disk} {sessionId : String} {now : ℕ}
    {p : SavePath} (h : p ∈ (r.finalize sha256 disk sessionId now).2) : p ∈ disk ∨ ¬ IsPartial p := by
  have herase : ∀ {d : Disk}, p ∈ d.erase r.partialPath → p ∈ d := fun hp => (AList.mem_erase.1 hp).2
  unfold SaveReceiver.finalize at h
  split_ifs at h
  · exact Or.inl (herase h)
  · split at h
    · exact Or.inl h
    · split_ifs at h
      · exact Or.inl (herase h)
      · split at h
        · rcases AList.mem_setItem.1 h with rfl | h
          · exact Or.inr (not_isPartial_save [] r.slotId)
          · exact Or.inl (herase h)
        · rcases AList.mem_setItem.1 h with rfl | h
          · exact Or.inr (not_isPartial_save [] r.slotId)
          · rcases AList.mem_setItem.1 (herase h) with rfl | h
            · exact Or.inr (not_isPartial_save ["KerMP backups", sessionId] _)
            · exact Or.inl h

/-! ## The three handlers -/

abbrev Alone : Discipline Client Empty := Discipline.alone

variable {own : Set Empty} {c : Client} {sha256 : Bytes → String}

theorem wp_send_alone {type : MessageType} {payload : Json} {Q : Except Exc Unit → Set Empty → Client → Prop}
    (h : ∀ r own, Q r own (c.posted type payload)) : wp Alone own (send type payload) Q c := by
  rw [send, wp_bind, wp_modify]
  refine ⟨by simp, ?_⟩
  rw [andThen_ok, wp_bind, wp_suspend]
  refine ⟨trivial, ?_⟩
  rintro _ rfl - - a
  rw [andThen_ok]
  split_ifs
  · exact h _ _
  · exact h _ _

/-- what a manifest leaves -/
def TakenUp (payload : Json) (c c' : Client) : Prop :=
  match SaveReceiver.create payload c.disk with
  | .ok (r, d) => c'.saveReceiver = some r ∧ c'.disk = d
  | .error _ => c'.saveReceiver = c.saveReceiver ∧ c'.disk = c.disk

theorem wp_onSaveManifest_alone (payload : Json) :
    wp Alone own (onSaveManifest payload) (fun _ _ c' => TakenUp payload c c') c := by
  -- the answer to the host is the end of the handler, whatever becomes of it
  have hfailed : ∀ own e c', TakenUp payload c c' → wp Alone own
      (if e.isValueError then saveFailed e else .raise e : ClientM Unit) (fun _ _ c' => TakenUp payload c c') c' := by
    intro own e c' hc'
    split_ifs
    · exact wp_send_alone fun _ _ => hc'
    · exact hc'
  rw [onSaveManifest, wp_bind, wp_attempt, wp_bind, onDisk, wp_tryCall]
  refine ⟨by simp, ?_⟩
  cases hcreate : SaveReceiver.create payload c.disk with
  | error e => exact hfailed _ e c (by rw [TakenUp, hcreate]; exact ⟨rfl, rfl⟩)
  | ok x =>
    rw [andThen_ok, wp_bind, setSave, wp_modify]
    refine ⟨by simp, ?_⟩
    have htaken : TakenUp payload c { c with saveReceiver := some x.1, disk := x.2 } := by
      rw [TakenUp, hcreate]
      exact ⟨rfl, rfl⟩
    refine wp_send_alone fun r own => ?_
    cases r with
    | ok _ => exact htaken
    | error e => exact hfailed own e _ htaken

theorem keepsOwn_abort :
    KeepsOwn c { c with disk := match c.saveReceiver with | some r => r.abort c.disk | none => c.disk } := by
  refine ⟨rfl, fun p hp => ?_⟩
  cases hr : c.saveReceiver with
  | none =>
    rw [hr] at hp
    exact Or.inl hp
  | some r =>
    rw [hr] at hp
    exact Or.inl (AList.mem_erase.1 hp).2

theorem KeepsOwn.trans {a b c : Client} (h : KeepsOwn a b) (h' : KeepsOwn b c) : KeepsOwn a c := by
  refine ⟨h'.own.trans h.own, fun p hp => ?_⟩
  rcases h'.files p hp with hb | hown
  · exact h.files p hb
  · exact Or.inr (h.own ▸ hown)

/-- a chunk goes to the file of its transfer, or removes it -/
theorem wp_onSaveChunk_alone (payload : Json) : wp Alone own (onSaveChunk payload) (fun _ _ c' => KeepsOwn c c') c := by
  have hmay : ∀ own (c c' : Client), Alone.May own c c' := fun _ _ _ => Discipline.may_alone.2 trivial
  have hself : KeepsOwn c c := keepsOwn_of_same rfl rfl
  have hrefused : ∀ own exc c', KeepsOwn c c' → wp Alone own
      (Coro.modify (fun c => { c with disk := match c.saveReceiver with | some r => r.abort c.disk | none => c.disk })
        >>= fun _ => saveFailed exc : ClientM Unit) (fun _ _ c' => KeepsOwn c c') c' := by
    intro own exc c' hc'
    rw [wp_bind, wp_modify]
    refine ⟨hmay _ _ _, ?_⟩
    have habort := hc'.trans keepsOwn_abort
    exact wp_send_alone fun _ _ => ⟨habort.own, habort.files⟩
  rw [onSaveChunk, wp_bind, wp_attempt, wp_bind]
  refine wp_activeSave hmay (fun own r hreceiver => ?_) fun own _ => hrefused own _ c hself
  rw [andThen_ok]
  refine wp_ofExcept_bind (fun e _ => hrefused own e c hself) fun data _ => ?_
  refine wp_ofExcept_bind (fun e _ => hrefused own e c hself) fun index _ => ?_
  rw [wp_bind]
  refine wp_onDisk hmay (fun own r' d hwrite => ?_) fun own e _ => hrefused own e c hself
  obtain ⟨-, -, rfl, rfl⟩ := SaveReceiver.writeChunk_iff.1 hwrite
  rw [andThen_ok, wp_bind, setSave, wp_modify]
  refine ⟨hmay _ _ _, ?_⟩
  have hown : c.ownPartial = some r.partialPath := by rw [ownPartial, hreceiver]; rfl
  have hwritten : ∀ {c' : Client}, c'.disk = c.disk.setItem r.partialPath
      ((c.disk.lookup r.partialPath).getD [] ++ data) → c'.ownPartial = some r.partialPath → KeepsOwn c c' := by
    intro c' hdisk hown'
    refine ⟨hown'.trans hown.symm, fun p hp => ?_⟩
    rw [hdisk, AList.mem_setItem] at hp
    rcases hp with rfl | hp
    · exact Or.inr hown
    · exact Or.inl hp
  refine wp_send_alone fun result own => ?_
  cases result with
  | ok _ => exact hwritten rfl rfl
  | error e => exact hrefused own e _ (hwritten rfl rfl)

/-- a payload with fields -/
def IsObject (payload : Json) : Prop := ∃ fields, payload = .obj fields

theorem get_ok_iff {payload : Json} {k : String} : (∃ v, payload.get k = .ok v) ↔ IsObject payload := by
  constructor
  · rintro ⟨v, hv⟩
    cases payload with
    | obj fields => exact ⟨fields, rfl⟩
    | _ => cases hv
  · rintro ⟨fields, rfl⟩
    exact ⟨_, rfl⟩

/-- what is on the disk after the end of a transfer: its file is finalized, unless the session id is not read -/
def Finalized (sha256 : Bytes → String) (payload : Json) (c : Client) (disk : Disk) : Prop :=
  disk = c.disk ∧ (IsObject payload → c.saveReceiver = none) ∨
    IsObject payload ∧ ∃ r sessionId now, c.saveReceiver = some r ∧ disk = (r.finalize sha256 c.disk sessionId now).2

/-- the receiver is dropped, whatever is raised on the way -/
theorem wp_onSaveEnd_alone (payload : Json) : wp Alone own (onSaveEnd sha256 payload)
    (fun _ _ c' => c'.saveReceiver = none ∧ Finalized sha256 payload c c'.disk) c := by
  have hmay : ∀ own (c c' : Client), Alone.May own c c' := fun _ _ _ => Discipline.may_alone.2 trivial
  have hdrop : ∀ own (r : Except Exc Unit) c', Finalized sha256 payload c c'.disk →
      wp Alone own (setSave none >>= fun _ => ofExcept r)
        (fun _ _ c' => c'.saveReceiver = none ∧ Finalized sha256 payload c c'.disk) c' := by
    intro own r c' hc'
    rw [wp_bind, setSave, wp_modify]
    refine ⟨hmay _ _ _, ?_⟩
    rw [andThen_ok, wp_ofExcept]
    exact ⟨rfl, hc'⟩
  have hfailed : ∀ own e c', Finalized sha256 payload c c'.disk →
      wp Alone own (saveFailed e) (fun _ _ c' => Finalized sha256 payload c c'.disk) c' :=
    fun own e c' hc' => wp_send_alone fun _ _ => hc'
  rw [onSaveEnd, andFinally, wp_bind, wp_attempt]
  refine wp_mono (Q := fun _ _ c' => Finalized sha256 payload c c'.disk) (fun r own c' hc' => hdrop own r c' hc') ?_
  rw [wp_bind, wp_askEnv]
  intro a
  rw [andThen_ok, wp_bind, wp_attempt, wp_bind]
  refine wp_activeSave hmay (fun own r hreceiver => ?_) fun own hnone =>
    hfailed own _ c (Or.inl ⟨rfl, fun _ => hnone⟩)
  rw [andThen_ok]
  refine wp_ofExcept_bind (fun e hget => ?_) fun sessionId hget => ?_
  · have hnot : ¬ IsObject payload := by
      rw [← get_ok_iff, hget]
      rintro ⟨v, hv⟩
      cases hv
    exact hfailed own e c (Or.inl ⟨rfl, fun h => absurd h hnot⟩)
  have hobject : IsObject payload := get_ok_iff.1 ⟨sessionId, hget⟩
  rw [wp_bind, wp_tryCall]
  refine ⟨hmay _ _ _, ?_⟩
  have hdone : Finalized sha256 payload c
      (r.finalize sha256 c.disk (sessionId.or (.str "unknown")).toStr a.seconds).2 :=
    Or.inr ⟨hobject, r, _, _, hreceiver, rfl⟩
  dsimp only
  cases (r.finalize sha256 c.disk (sessionId.or (.str "unknown")).toStr a.seconds).1 with
  | error e => exact hfailed _ e _ hdone
  | ok backup =>
    refine wp_send_alone fun result own => ?_
    cases result with
    | ok _ => exact hdone
    | error e => exact hfailed own e _ hdone

/-! ## Messages -/

/-- the message is handled to its end, or to an error -/
def afterMessage (sha256 : Bytes → String) (c : Client) (m : Envelope × List Answer) : Client :=
  ((onNetworkMessage sha256 m.1).exec m.2 c).2

theorem afterMessage_of_wp {p : ClientM Unit} {env : Envelope} {as : List Answer} {I : Client → Prop}
    (henv : onNetworkMessage sha256 env = p >>= fun _ => pure false)
    (h : wp Alone ∅ p (fun _ _ c' => I c') c) : I (afterMessage sha256 c (env, as)) := by
  have hwp : wp Alone ∅ (onNetworkMessage sha256 env) (fun _ _ c' => I c') c := by
    rw [henv, wp_bind]
    refine wp_mono (fun r own c' hc' => ?_) h
    cases r with
    | ok _ => exact hc'
    | error e => exact hc'
  obtain ⟨-, hi⟩ := wp_exec (fun _ => rfl) (fun m => m.elim) as hwp
  exact hi

theorem afterMessage_other {env : Envelope} (hother : env.type ∉ saveMessages) (as : List Answer) :
    KeepsOwn c (afterMessage sha256 c (env, as)) := by
  have hguar : Guar (fun c c' : Client => c'.disk = c.disk ∧ c'.saveReceiver = c.saveReceiver)
      (onNetworkMessage sha256 env) := by
    have hdoes : Guar (Does {.view, .build}) (onNetworkMessage sha256 env) :=
      guar_onNetworkMessage sha256 (Or.inl (by simp)) (Or.inr hother) (Or.inl (by simp))
    exact hdoes.mono fun c c' h => h.save.resolve_left (by simp)
  have hsame := exec_guar (fun c => ⟨rfl, rfl⟩) (fun _ _ _ h h' => ⟨h'.1.trans h.1, h'.2.trans h.2⟩) hguar as c
  exact keepsOwn_of_same hsame.1 hsame.2

/-- the message leaves the partial file of the active transfer behind -/
inductive Leaves (c : Client) (env : Envelope) : Prop
  /-- another slot is announced -/
  | replaced (r r' : SaveReceiver) (hr : c.HasPartial r) (htype : env.type = .saveManifest)
      (hmanifest : Announces env.payload r') (hne : r'.slotId ≠ r.slotId)
  /-- the transfer ends with a payload that is not an object -/
  | unread (r : SaveReceiver) (hr : c.HasPartial r) (htype : env.type = .saveEnd) (hpayload : ¬ IsObject env.payload)

/-- what a manifest announces is the same on every disk -/
theorem create_disk (manifest : Json) (disk : Disk) : SaveReceiver.create manifest disk =
    (fun x : SaveReceiver × Disk => (x.1, disk.erase x.1.partialPath)) <$> SaveReceiver.create manifest ∅ := by
  unfold SaveReceiver.create
  simp only [map_bind, map_pure]

theorem announces_create {payload : Json} {r : SaveReceiver} (h : Announces payload r) (disk : Disk) :
    ∃ r', SaveReceiver.create payload disk = .ok (r', disk.erase r'.partialPath) ∧ r'.slotId = r.slotId := by
  obtain ⟨d, r₀, d', hcreate, hr⟩ := h
  rw [create_disk] at hcreate ⊢
  cases hempty : SaveReceiver.create payload ∅ with
  | error e =>
    rw [hempty] at hcreate
    cases hcreate
  | ok x =>
    rw [hempty] at hcreate
    cases hcreate
    exact ⟨x.1, rfl, by rw [hr]⟩

theorem partialPath_inj {r r' : SaveReceiver} (h : r.partialPath = r'.partialPath) : r.slotId = r'.slotId := by
  have hchars := congrArg String.toList (List.cons.inj h).1
  simp only [String.toList_append, List.append_cancel_right_eq] at hchars
  exact String.toList_inj.1 hchars

theorem tidy_manifest {payload : Json} {c' : Client} (h : c.Tidy) (htaken : TakenUp payload c c') :
    c'.Tidy ↔ ∀ r, c.HasPartial r → ∀ r', Announces payload r' → r'.slotId = r.slotId := by
  unfold TakenUp at htaken
  cases hcreate : SaveReceiver.create payload c.disk with
  | error e =>
    rw [hcreate] at htaken
    refine iff_of_true ((keepsOwn_of_same htaken.2 htaken.1).tidy h) fun r _ r' hmanifest => ?_
    obtain ⟨r'', hok, -⟩ := announces_create hmanifest c.disk
    cases hcreate.symm.trans hok
  | ok x =>
    obtain ⟨r₀, d⟩ := x
    rw [hcreate] at htaken
    obtain ⟨hreceiver, hdisk⟩ := htaken
    have herase : d = c.disk.erase r₀.partialPath := (SaveReceiver.create_ok hcreate).2.2.2.2.2
    have hown : c'.ownPartial = some r₀.partialPath := by
      rw [ownPartial, hreceiver]
      rfl
    have hsub : ∀ p ∈ c'.disk, p ∈ c.disk := by
      intro p hp
      rw [hdisk, herase] at hp
      exact (AList.mem_erase.1 hp).2
    rw [tidy_iff_of_subset h fun p hp => Or.inl (hsub p hp)]
    have hslot : ∀ r', Announces payload r' → r'.slotId = r₀.slotId := by
      intro r' hmanifest
      obtain ⟨r'', hok, hsame⟩ := announces_create hmanifest c.disk
      cases hcreate.symm.trans hok
      exact hsame.symm
    constructor
    · intro hkept r hr r' hmanifest
      rw [hslot r' hmanifest]
      by_contra hne
      have hmem : r.partialPath ∈ c'.disk := by
        rw [hdisk, herase, AList.mem_erase]
        exact ⟨fun he => hne (partialPath_inj he).symm, hr.2⟩
      have hsame := hkept r hr hmem
      rw [hown, Option.some.injEq] at hsame
      exact hne (partialPath_inj hsame)
    · intro hsame r hr _
      have he := hsame r hr r₀ ⟨_, _, _, hcreate, rfl⟩
      rw [hown, SaveReceiver.partialPath, he]
      rfl

theorem tidy_end {payload : Json} {c' : Client} (h : c.Tidy) (hreceiver : c'.saveReceiver = none)
    (hfinal : Finalized sha256 payload c c'.disk) : c'.Tidy ↔ ∀ r, c.HasPartial r → IsObject payload := by
  have hnone : c'.ownPartial = none := by
    rw [ownPartial, hreceiver]
    rfl
  rcases hfinal with ⟨hdisk, hidle⟩ | ⟨hobject, r, sessionId, now, hr, hdisk⟩
  · rw [tidy_iff_of_subset h fun p hp => Or.inl (hdisk ▸ hp)]
    constructor
    · intro hkept r hr
      have hsame := hkept r hr (hdisk ▸ hr.2)
      rw [hnone] at hsame
      cases hsame
    · intro hobject r hr
      have hgone := hr.1
      rw [hidle (hobject r hr)] at hgone
      cases hgone
  · refine iff_of_true ?_ fun _ _ => hobject
    have hsub : ∀ p ∈ c'.disk, p ∈ c.disk ∨ ¬ IsPartial p := by
      intro p hp
      rw [hdisk] at hp
      exact mem_finalize hp
    rw [tidy_iff_of_subset h hsub]
    intro r' hr' hmem
    cases hr.symm.trans hr'.1
    rw [hdisk, ← AList.lookup_isSome, SaveReceiver.finalize_removes] at hmem
    cases hmem

/-- **One message.** Where the only partial file is that of the active transfer, it stays so unless the message leaves the
file behind. -/
theorem tidy_afterMessage (h : c.Tidy) (m : Envelope × List Answer) :
    (afterMessage sha256 c m).Tidy ↔ ¬ Leaves c m.1 := by
  obtain ⟨env, as⟩ := m
  by_cases hmanifest : env.type = .saveManifest
  · have htaken : TakenUp env.payload c (afterMessage sha256 c (env, as)) :=
      afterMessage_of_wp (onNetworkMessage_saveManifest sha256 hmanifest) (wp_onSaveManifest_alone env.payload)
    rw [tidy_manifest h htaken]
    constructor
    · rintro hsame (⟨r, r', hr, -, hann, hne⟩ | ⟨-, -, htype, -⟩)
      · exact hne (hsame r hr r' hann)
      · cases hmanifest.symm.trans htype
    · intro hleaves r hr r' hann
      by_contra hne
      exact hleaves (.replaced r r' hr hmanifest hann hne)
  by_cases hend : env.type = .saveEnd
  · have hdropped : (afterMessage sha256 c (env, as)).saveReceiver = none ∧
        Finalized sha256 env.payload c (afterMessage sha256 c (env, as)).disk :=
      afterMessage_of_wp (I := fun c' => c'.saveReceiver = none ∧ Finalized sha256 env.payload c c'.disk)
        (onNetworkMessage_saveEnd sha256 hend) (wp_onSaveEnd_alone env.payload)
    rw [tidy_end h hdropped.1 hdropped.2]
    constructor
    · rintro hobject (⟨-, -, -, htype, -⟩ | ⟨r, hr, -, hpayload⟩)
      · exact hmanifest htype
      · exact hpayload (hobject r hr)
    · intro hleaves r hr
      by_contra hpayload
      exact hleaves (.unread r hr hend hpayload)
  have hnot : ¬ Leaves c env := by
    rintro (⟨-, -, -, htype, -⟩ | ⟨-, -, htype, -⟩)
    · exact hmanifest htype
    · exact hend htype
  refine iff_of_true ?_ hnot
  by_cases hchunk : env.type = .saveChunk
  · have hkeeps : KeepsOwn c (afterMessage sha256 c (env, as)) :=
      afterMessage_of_wp (onNetworkMessage_saveChunk sha256 hchunk) (wp_onSaveChunk_alone env.payload)
    exact hkeeps.tidy h
  · exact (afterMessage_other (by simp [saveMessages, hmanifest, hchunk, hend]) as).tidy h

/-- **Partial files are cleaned up.** A client starts without partial files and handles any sequence of messages, with any
outcome of its sends: there is never a partial file but that of the active transfer, if and only if no message leaves one
behind. -/
theorem partials_cleaned_up (sha256 : Bytes → String) (playerId : String) (disk : Disk)
    (clean : ∀ p ∈ disk, ¬ IsPartial p) (ms : List (Envelope × List Answer)) :
    (∀ n, (reached (afterMessage sha256) (init playerId disk) ms n).Tidy) ↔
      ∀ n m, ms[n]? = some m → ¬ Leaves (reached (afterMessage sha256) (init playerId disk) ms n) m.1 :=
  have hstart : (init playerId disk).Tidy := fun p hp hpartial => absurd hpartial (clean p hp)
  have hstep : ∀ c m, Tidy c → ((afterMessage sha256 c m).Tidy ↔ ¬ Leaves c m.1) :=
    fun _ m h => tidy_afterMessage h m
  holds_reached_iff hstart hstep

/-- the announcement of a slot of two bytes, in chunks of one -/
def announce (slot : String) : Envelope :=
  Envelope.make .saveManifest (.obj [("session_id", .str "session"), ("slot_id", .str slot), ("total_bytes", .int 2),
    ("chunk_size", .int 1), ("chunk_count", .int 2), ("sha256", .str SaveReceiver.Receiving.shaOfB)]) "host" none "m"

def firstChunk : Envelope :=
  Envelope.make .saveChunk (.obj [("index", .int 0), ("payload_b64", .str "YQ==")]) "host" none "m"

def endOfSave : Envelope := Envelope.make .saveEnd (.obj [("session_id", .str "session")]) "host" none "m"

/-- every hash is that of "b" -/
def alwaysB : Bytes → String := fun _ => SaveReceiver.Receiving.shaOfB

/-- a transfer that ends too early -/
def earlyEnd : List (Envelope × List Answer) := [(announce "Slot_00000001", []), (firstChunk, []), (endOfSave, [])]

/-- nothing of it is left -/
theorem early_end : (reached (afterMessage alwaysB) (init "alice" ∅) earlyEnd 3).Tidy := by
  have hclean : ∀ p ∈ (∅ : Disk), ¬ IsPartial p := fun p hp => absurd hp (AList.notMem_empty p)
  refine (partials_cleaned_up alwaysB "alice" ∅ hclean earlyEnd).2 (fun n m hm hleaves => ?_) 3
  rcases hleaves with ⟨r, r', hr, htype, -, -⟩ | ⟨r, -, htype, hpayload⟩
  · -- the only manifest comes first
    match n, hm with
    | 0, _ => cases hr.1
    | 1, rfl => cases htype
    | 2, rfl => cases htype
  · match n, hm with
    | 0, rfl => cases htype
    | 1, rfl => cases htype
    | 2, rfl => exact hpayload ⟨_, rfl⟩

/-- one slot is announced and its first byte comes; then another slot is announced and ended -/
def otherSlot : List (Envelope × List Answer) :=
  [(announce "Slot_00000001", []), (firstChunk, []), (announce "Slot_00000002", []), (endOfSave, [])]

/-- No transfer is active, and the first one's file is still there. -/
theorem other_slot : ¬ ∀ n, (reached (afterMessage alwaysB) (init "alice" ∅) otherSlot n).Tidy := by
  intro h
  have hidle : (reached (afterMessage alwaysB) (init "alice" ∅) otherSlot 4).saveReceiver = none := by decide +kernel
  have hfile : ["Slot_00000001.kermp.partial"] ∈ (reached (afterMessage alwaysB) (init "alice" ∅) otherSlot 4).disk := by
    decide +kernel
  exact (h 4).idle hidle _ hfile ⟨[], "Slot_00000001", rfl⟩

end KerMP.Client
