/-
Previous saves over whole sequences of transfers (`SaveReceiver` of `kermp/save_sync.py`).

A transfer that replaces a slot copies the old save to a path made of the session id, the slot id and the second,
over whatever is there. Session ids may lead to one place in many ways, so the disk is taken here by place: each call
of the receiver follows its paths to their places. `createAt_id`, `writeChunkAt_id` and `finalizeAt_id` say that it is
the call on the model's disk where every path is a place of its own.

- `transfer_ok`: what a completed transfer does to the files.
- `saved_transfer`: a save in its slot or in a backup still is after a transfer whose backup finds its place free.
- `no_save_lost`: the same for every sequence of transfers.
- `second_backup`: two transfers of a slot within one second.
-/
import KerMP.SavePaths

namespace KerMP.SaveReceiver

open Py Posix
open Base64 (Bytes)

/-! ## The calls by place -/

section places
variable {L : Type} [DecidableEq L] (place : SavePath → L)

/-- the checks do not look at the disk -/
def createAt (manifest : Json) (files : Dict L Bytes) : Except Exc (SaveReceiver × Dict L Bytes) := do
  let (r, _) ← create manifest ∅
  return (r, files.erase (place r.partialPath))

def writeChunkAt (r : SaveReceiver) (files : Dict L Bytes) (index : ℤ) (data : Bytes) :
    Except Exc (SaveReceiver × Dict L Bytes) := do
  let (r', _) ← r.writeChunk ∅ index data
  return (r', files.setItem (place r.partialPath) ((files.lookup (place r.partialPath)).getD [] ++ data))

def finalizeAt (sha256 : Bytes → String) (r : SaveReceiver) (files : Dict L Bytes) (sessionId : String) (now : ℕ) :
    Except Exc (Option SavePath) × Dict L Bytes :=
  if r.nextIndex ≠ r.chunkCount ∨ r.received ≠ r.total then
    (.error (.valueError "save_hash_mismatch"), files.erase (place r.partialPath))
  else
    match files.lookup (place r.partialPath) with
    | none => (.error (.osError "No such file or directory"), files)
    | some content =>
      if sha256 content ≠ r.expectedHash then
        (.error (.valueError "save_hash_mismatch"), files.erase (place r.partialPath))
      else
        match files.lookup (place r.finalPath) with
        | none => (.ok none, (files.erase (place r.partialPath)).setItem (place r.finalPath) content)
        | some old =>
          let backup := r.backupPath sessionId (utcStamp now)
          (.ok (some backup),
            ((files.setItem (place backup) old).erase (place r.partialPath)).setItem (place r.finalPath) content)

theorem createAt_id (manifest : Json) (disk : Disk) : createAt id manifest disk = create manifest disk := by
  simp only [createAt, create, bind_assoc, pure_bind, id]

theorem writeChunkAt_id (r : SaveReceiver) (disk : Disk) (index : ℤ) (data : Bytes) :
    writeChunkAt id r disk index data = r.writeChunk disk index data := by
  simp only [writeChunkAt, writeChunk, bind_assoc, pure_bind, id]

theorem finalizeAt_id (sha256 : Bytes → String) (r : SaveReceiver) (disk : Disk) (sessionId : String) (now : ℕ) :
    finalizeAt id sha256 r disk sessionId now = r.finalize sha256 disk sessionId now := rfl

end places

/-! ## Transfers -/

/-- what a host sends for one slot, and when its last message is handled -/
structure Transfer where
  manifest : Json
  chunks : List (ℤ × Bytes)
  sessionId : String
  time : ℕ

section transfers
variable {L : Type} [DecidableEq L] (place : SavePath → L) (sha256 : Bytes → String)

def writeAll (r : SaveReceiver) (files : Dict L Bytes) (chunks : List (ℤ × Bytes)) :
    Except Exc (SaveReceiver × Dict L Bytes) :=
  chunks.foldlM (fun x c => writeChunkAt place x.1 x.2 c.1 c.2) (r, files)

/-- a transfer from its manifest to its replaced slot -/
def transfer (files : Dict L Bytes) (t : Transfer) : Except Exc (Dict L Bytes) := do
  let (r, files) ← createAt place t.manifest files
  let (r, files) ← writeAll place r files t.chunks
  match finalizeAt place sha256 r files t.sessionId t.time with
  | (.ok _, files) => return files
  | (.error e, _) => throw e

def transferAll (files : Dict L Bytes) (ts : List Transfer) : Except Exc (Dict L Bytes) :=
  ts.foldlM (transfer place sha256) files

def finalOf (slot : String) : SavePath := [slot ++ ".save"]

def partialOf (slot : String) : SavePath := [slot ++ ".kermp.partial"]

def backupOf (slot sessionId : String) (time : ℕ) : SavePath :=
  ["KerMP backups", sessionId, slot ++ "." ++ utcStamp time ++ ".save"]

/-- the content is in its slot or in a backup of it -/
def Saved (files : Dict L Bytes) (slot : String) (content : Bytes) : Prop :=
  files.lookup (place (finalOf slot)) = some content ∨
    ∃ sessionId time, files.lookup (place (backupOf slot sessionId time)) = some content

/-- if the transfer makes a backup, no file has the backup's place yet -/
def Free (files : Dict L Bytes) (t : Transfer) : Prop :=
  ∀ r disk, create t.manifest ∅ = .ok (r, disk) → place (finalOf r.slotId) ∈ files →
    place (backupOf r.slotId t.sessionId t.time) ∉ files

/-- every transfer finds the place of its backup free -/
def AllFree : Dict L Bytes → List Transfer → Prop
  | _, [] => True
  | files, t :: ts => Free place files t ∧ ∀ files', transfer place sha256 files t = .ok files' → AllFree files' ts

variable {place} {sha256} {files files' : Dict L Bytes}

theorem createAt_ok {manifest : Json} {r : SaveReceiver} (h : createAt place manifest files = .ok (r, files')) :
    (∃ disk, create manifest ∅ = .ok (r, disk)) ∧ files' = files.erase (place (partialOf r.slotId)) := by
  obtain ⟨⟨r', disk⟩, hcreate, h⟩ := bind_ok h
  cases h
  exact ⟨⟨disk, hcreate⟩, rfl⟩

theorem writeChunkAt_ok {r r' : SaveReceiver} {index : ℤ} {data : Bytes}
    (h : writeChunkAt place r files index data = .ok (r', files')) : r'.slotId = r.slotId ∧
      ∀ p, p ≠ place (partialOf r.slotId) → files'.lookup p = files.lookup p := by
  obtain ⟨⟨r₁, disk⟩, hwrite, h⟩ := bind_ok h
  cases h
  obtain ⟨-, -, rfl, -⟩ := writeChunk_iff.1 hwrite
  exact ⟨rfl, fun p hp => AList.lookup_setItem_ne _ _ hp⟩

theorem writeAll_ok {r r' : SaveReceiver} {chunks : List (ℤ × Bytes)}
    (h : writeAll place r files chunks = .ok (r', files')) : r'.slotId = r.slotId ∧
      ∀ p, p ≠ place (partialOf r.slotId) → files'.lookup p = files.lookup p := by
  induction chunks generalizing r files with
  | nil =>
    cases h
    exact ⟨rfl, fun _ _ => rfl⟩
  | cons c cs ih =>
    rw [writeAll, List.foldlM_cons] at h
    obtain ⟨⟨r₁, files₁⟩, hwrite, h⟩ := bind_ok h
    obtain ⟨hslot₁, hkept₁⟩ := writeChunkAt_ok hwrite
    obtain ⟨hslot, hkept⟩ := ih h
    rw [hslot₁] at hslot hkept
    exact ⟨hslot, fun p hp => (hkept p hp).trans (hkept₁ p hp)⟩

theorem finalizeAt_ok {r : SaveReceiver} {sessionId : String} {now : ℕ} {b : Option SavePath}
    (h : finalizeAt place sha256 r files sessionId now = (.ok b, files')) :
    ∃ content, files' = match files.lookup (place (finalOf r.slotId)) with
      | none => (files.erase (place (partialOf r.slotId))).setItem (place (finalOf r.slotId)) content
      | some old => ((files.setItem (place (backupOf r.slotId sessionId now)) old).erase
          (place (partialOf r.slotId))).setItem (place (finalOf r.slotId)) content := by
  unfold finalizeAt at h
  by_cases hcount : r.nextIndex ≠ r.chunkCount ∨ r.received ≠ r.total
  · rw [if_pos hcount] at h
    cases h
  rw [if_neg hcount] at h
  cases hfile : files.lookup (place r.partialPath) with
  | none =>
    rw [hfile] at h
    cases h
  | some content =>
    rw [hfile] at h
    dsimp only at h
    by_cases hhash : sha256 content ≠ r.expectedHash
    · rw [if_pos hhash] at h
      cases h
    rw [if_neg hhash] at h
    refine ⟨content, ?_⟩
    cases hfinal : files.lookup (place (finalOf r.slotId)) with
    | none =>
      rw [show files.lookup (place r.finalPath) = none from hfinal] at h
      cases h
      rfl
    | some old =>
      rw [show files.lookup (place r.finalPath) = some old from hfinal] at h
      cases h
      rfl

/-- **What a transfer does.** Apart from its slot and its partial file, the files change at most by the old save,
which goes to the place of the backup. -/
theorem transfer_ok {t : Transfer}
    (hplace : ∀ slot, isSlotId slot = true → place (finalOf slot) ≠ place (partialOf slot))
    (h : transfer place sha256 files t = .ok files') : ∃ r disk, create t.manifest ∅ = .ok (r, disk) ∧
      ∀ p, p ≠ place (partialOf r.slotId) → p ≠ place (finalOf r.slotId) → files'.lookup p =
        match files.lookup (place (finalOf r.slotId)) with
        | none => files.lookup p
        | some old =>
          if p = place (backupOf r.slotId t.sessionId t.time) then some old else files.lookup p := by
  obtain ⟨⟨r, files₁⟩, hcreate, hrest⟩ := bind_ok h
  dsimp only at hrest
  obtain ⟨⟨r', files₂⟩, hwrite, hlast⟩ := bind_ok hrest
  dsimp only at hlast
  obtain ⟨⟨disk, hmanifest⟩, rfl⟩ := createAt_ok hcreate
  obtain ⟨hslot, hkept⟩ := writeAll_ok hwrite
  refine ⟨r, disk, hmanifest, fun p hp hfinal => ?_⟩
  -- up to its last message the transfer has changed the partial file only
  have hbefore : ∀ q, q ≠ place (partialOf r.slotId) → files₂.lookup q = files.lookup q :=
    fun q hq => (hkept q hq).trans (AList.lookup_erase_ne hq)
  rcases hfinalize : finalizeAt place sha256 r' files₂ t.sessionId t.time with ⟨result, files₃⟩
  rw [hfinalize] at hlast
  cases result with
  | error e => cases hlast
  | ok b =>
    cases hlast
    obtain ⟨content, rfl⟩ := finalizeAt_ok hfinalize
    rw [hslot, hbefore _ (hplace r.slotId (create_slotId hmanifest))]
    cases files.lookup (place (finalOf r.slotId)) with
    | none =>
      dsimp only
      rw [AList.lookup_setItem_ne _ _ hfinal, AList.lookup_erase_ne hp, hbefore p hp]
    | some old =>
      dsimp only
      rw [AList.lookup_setItem_ne _ _ hfinal, AList.lookup_erase_ne hp]
      by_cases hbackup : p = place (backupOf r.slotId t.sessionId t.time)
      · rw [if_pos hbackup, hbackup]
        exact AList.lookup_setItem_self _ _ _
      · rw [if_neg hbackup, AList.lookup_setItem_ne _ _ hbackup, hbefore p hp]

end transfers

/-! ## Places -/

section slots
variable {cwd : List String} {dest : PurePath} {slot slot' sessionId : String} {time : ℕ}

/-- the place of a path in a saves directory -/
def placeIn (cwd : List String) (dest : PurePath) (p : SavePath) : List String := (located dest p).resolve cwd

theorem placeIn_final (h : isSlotId slot = true) :
    placeIn cwd dest (finalOf slot) = dest.resolve cwd ++ [slot ++ ".save"] :=
  resolve_div_plain cwd dest (plainName_slot h (by decide))

theorem placeIn_partial (h : isSlotId slot = true) :
    placeIn cwd dest (partialOf slot) = dest.resolve cwd ++ [slot ++ ".kermp.partial"] :=
  resolve_div_plain cwd dest (plainName_slot h (by decide))

/-- the name of a backup is one step below its directory, wherever that is -/
theorem plainName_backup (h : isSlotId slot = true) : PlainName (slot ++ "." ++ utcStamp time ++ ".save") := by
  have he : slot ++ "." ++ utcStamp time ++ ".save" = slot ++ ("." ++ utcStamp time ++ ".save") := by
    simp only [String.append_assoc]
  rw [he]
  exact plainName_slot h (stamp_noSlash time)

theorem placeIn_backup (h : isSlotId slot = true) : placeIn cwd dest (backupOf slot sessionId time) =
    (located dest (backupDir sessionId)).resolve cwd ++ [slot ++ "." ++ utcStamp time ++ ".save"] :=
  resolve_div_plain cwd _ (plainName_backup h)

theorem saveName_ne_partialName (s : String) : s ++ ".save" ≠ slot ++ ".kermp.partial" := by
  intro he
  have hlast := congrArg (fun s => s.toList.getLast?) he
  simp only [String.toList_append] at hlast
  rw [List.getLast?_append_of_ne_nil _ (by decide), List.getLast?_append_of_ne_nil _ (by decide)] at hlast
  exact absurd hlast (by decide)

theorem slot_noDot (h : isSlotId slot = true) : '.' ∉ slot.toList := slot_notMem h (by decide) (by decide)

theorem append_right_cancel {s s' e : String} (h : s ++ e = s' ++ e) : s = s' := by
  have hlist := congrArg String.toList h
  rw [String.toList_append, String.toList_append] at hlist
  exact String.toList_injective (List.append_cancel_right hlist)

theorem finalOf_ne_partialOf (h : isSlotId slot = true) (h' : isSlotId slot' = true) :
    placeIn cwd dest (finalOf slot) ≠ placeIn cwd dest (partialOf slot') := by
  rw [placeIn_final h, placeIn_partial h']
  intro he
  exact saveName_ne_partialName _ (List.append_singleton_inj.1 he).2

theorem backupOf_ne_partialOf (h : isSlotId slot = true) (h' : isSlotId slot' = true) :
    placeIn cwd dest (backupOf slot sessionId time) ≠ placeIn cwd dest (partialOf slot') := by
  rw [placeIn_backup h, placeIn_partial h']
  intro he
  exact saveName_ne_partialName _ (List.append_singleton_inj.1 he).2

/-- the name of a backup has a dot before its ".save" -/
theorem backupOf_ne_finalOf (h : isSlotId slot = true) (h' : isSlotId slot' = true) :
    placeIn cwd dest (backupOf slot sessionId time) ≠ placeIn cwd dest (finalOf slot') := by
  rw [placeIn_backup h, placeIn_final h']
  intro he
  have hname : slot ++ "." ++ utcStamp time = slot' := append_right_cancel (List.append_singleton_inj.1 he).2
  apply slot_noDot h'
  rw [← hname]
  simp [String.toList_append]

theorem finalOf_injective (h : isSlotId slot = true) (h' : isSlotId slot' = true)
    (he : placeIn cwd dest (finalOf slot) = placeIn cwd dest (finalOf slot')) : slot = slot' := by
  rw [placeIn_final h, placeIn_final h'] at he
  exact append_right_cancel (List.append_singleton_inj.1 he).2

end slots

/-! ## No save is lost -/

/-- the files by their places -/
abbrev Files := Dict (List String) Bytes

section runs
variable {sha256 : Bytes → String} {cwd : List String} {dest : PurePath} {files files₁ files₂ : Files}
  {slot : String} {content : Bytes}

theorem saved_transfer {t : Transfer} (h : transfer (placeIn cwd dest) sha256 files t = .ok files₁)
    (hfree : Free (placeIn cwd dest) files t) (hslot : isSlotId slot = true)
    (hsaved : Saved (placeIn cwd dest) files slot content) : Saved (placeIn cwd dest) files₁ slot content := by
  obtain ⟨r, disk, hcreate, hkept⟩ := transfer_ok (fun s hs => finalOf_ne_partialOf hs hs) h
  have hslot' : isSlotId r.slotId = true := create_slotId hcreate
  rcases hsaved with hfinal | ⟨sessionId, time, hbackup⟩
  · by_cases hsame : slot = r.slotId
    · subst hsame
      -- the old save of the slot goes to the backup
      refine Or.inr ⟨t.sessionId, t.time, ?_⟩
      rw [hkept _ (backupOf_ne_partialOf hslot hslot') (backupOf_ne_finalOf hslot hslot'), hfinal]
      exact if_pos rfl
    · refine Or.inl ?_
      have hother : placeIn cwd dest (finalOf slot) ≠ placeIn cwd dest (finalOf r.slotId) :=
        fun he => hsame (finalOf_injective hslot hslot' he)
      rw [hkept _ (finalOf_ne_partialOf hslot hslot') hother, hfinal]
      cases files.lookup (placeIn cwd dest (finalOf r.slotId)) with
      | none => rfl
      | some old => exact if_neg fun he => backupOf_ne_finalOf hslot' hslot he.symm
  · refine Or.inr ⟨sessionId, time, ?_⟩
    rw [hkept _ (backupOf_ne_partialOf hslot hslot') (backupOf_ne_finalOf hslot hslot'), hbackup]
    cases hold : files.lookup (placeIn cwd dest (finalOf r.slotId)) with
    | none => rfl
    | some old =>
      refine if_neg fun he => ?_
      -- a backup at this place would not have found it free
      have hthere : placeIn cwd dest (finalOf r.slotId) ∈ files := AList.lookup_isSome.1 (hold ▸ rfl)
      exact hfree r disk hcreate hthere (he ▸ AList.lookup_isSome.1 (hbackup ▸ rfl))

theorem saved_transferAll {ts : List Transfer} (h : transferAll (placeIn cwd dest) sha256 files ts = .ok files₁)
    (hfree : AllFree (placeIn cwd dest) sha256 files ts) (hslot : isSlotId slot = true)
    (hsaved : Saved (placeIn cwd dest) files slot content) : Saved (placeIn cwd dest) files₁ slot content := by
  induction ts generalizing files with
  | nil =>
    cases h
    exact hsaved
  | cons t ts ih =>
    rw [transferAll, List.foldlM_cons] at h
    obtain ⟨files', ht, h⟩ := bind_ok h
    exact ih h (hfree.2 files' ht) (saved_transfer ht hfree.1 hslot hsaved)

theorem allFree_append {ts ts' : List Transfer} (h : transferAll (placeIn cwd dest) sha256 files ts = .ok files₁)
    (hfree : AllFree (placeIn cwd dest) sha256 files (ts ++ ts')) : AllFree (placeIn cwd dest) sha256 files₁ ts' := by
  induction ts generalizing files with
  | nil =>
    cases h
    exact hfree
  | cons t ts ih =>
    rw [transferAll, List.foldlM_cons] at h
    obtain ⟨files', ht, h⟩ := bind_ok h
    exact ih h (hfree.2 files' ht)

/-- **Previous saves.** In every sequence of completed transfers into a saves directory in which no backup finds a
file in its place, every content that a slot has at some point is from then on in the slot or in a backup of it. -/
theorem no_save_lost (sha256 : Bytes → String) (cwd : List String) (dest : PurePath) (files : Files)
    (before after : List Transfer) (free : AllFree (placeIn cwd dest) sha256 files (before ++ after))
    (files₁ files₂ : Files) (hbefore : transferAll (placeIn cwd dest) sha256 files before = .ok files₁)
    (hafter : transferAll (placeIn cwd dest) sha256 files₁ after = .ok files₂) (slot : String)
    (hslot : isSlotId slot = true) (content : Bytes)
    (held : files₁.lookup (placeIn cwd dest (finalOf slot)) = some content) :
    Saved (placeIn cwd dest) files₂ slot content :=
  saved_transferAll hafter (allFree_append hbefore free) hslot (Or.inl held)

end runs

/-! ## Two transfers of a slot -/

/-- the transfer of "abc" -/
def abcTransfer (time : ℕ) : Transfer := ⟨abcManifest, [(0, [97, 98, 99])], "session", time⟩

/-- the places of a player's saves -/
def homePlace : SavePath → List String := placeIn ["home", "u"] homeSaves

/-- an old save in the slot -/
def homeFiles : Files := (∅ : Files).setItem (homePlace (finalOf "Slot_00000001")) [0]

theorem abc_free {files : Files} {time : ℕ} (h : homePlace (backupOf "Slot_00000001" "session" time) ∉ files.keys) :
    Free homePlace files (abcTransfer time) := by
  rintro r disk hcreate -
  rw [abcTransfer, abc_accepted] at hcreate
  cases hcreate
  exact h

theorem first_backup {files : Files}
    (h : transfer homePlace (fun _ => shaOfAbc) homeFiles (abcTransfer 0) = .ok files) :
    files.keys = [homePlace (finalOf "Slot_00000001"), homePlace (backupOf "Slot_00000001" "session" 0)] := by
  have hkeys : (transfer homePlace (fun _ => shaOfAbc) homeFiles (abcTransfer 0)).map (·.keys) =
      .ok [homePlace (finalOf "Slot_00000001"), homePlace (backupOf "Slot_00000001" "session" 0)] := by decide +kernel
  rw [h] at hkeys
  exact Except.ok.inj hkeys

/-- in two different seconds both backups stay -/
theorem two_seconds : ∃ files, transferAll homePlace (fun _ => shaOfAbc) homeFiles [abcTransfer 0, abcTransfer 1] =
    .ok files ∧ Saved homePlace files "Slot_00000001" [0] := by
  have hok : (transferAll homePlace (fun _ => shaOfAbc) homeFiles [abcTransfer 0, abcTransfer 1]).map (fun _ => ()) =
      .ok () := by decide +kernel
  obtain ⟨files, hfiles, -⟩ := map_ok hok
  have hfree : AllFree homePlace (fun _ => shaOfAbc) homeFiles [abcTransfer 0, abcTransfer 1] := by
    refine ⟨abc_free (by decide +kernel), fun files' h => ⟨abc_free ?_, fun _ _ => trivial⟩⟩
    rw [first_backup h]
    decide +kernel
  exact ⟨files, hfiles, no_save_lost (fun _ => shaOfAbc) ["home", "u"] homeSaves homeFiles [] _ hfree homeFiles files
    rfl hfiles "Slot_00000001" (by decide +kernel) [0] (by decide +kernel)⟩

/-- within one second the second backup takes the place of the first, and the oldest save is nowhere -/
theorem second_backup : ¬ ∀ (files files₁ files₂ : Files) (before after : List Transfer) (slot : String)
    (content : Bytes), ((before ++ after).map (·.time)).Pairwise (· ≤ ·) →
      transferAll homePlace (fun _ => shaOfAbc) files before = .ok files₁ →
      transferAll homePlace (fun _ => shaOfAbc) files₁ after = .ok files₂ → isSlotId slot = true →
      files₁.lookup (homePlace (finalOf slot)) = some content → Saved homePlace files₂ slot content := by
  intro h
  have hvalues : (transferAll homePlace (fun _ => shaOfAbc) homeFiles [abcTransfer 0, abcTransfer 0]).map
      (fun files => files.entries.map (·.2)) = .ok [[97, 98, 99], [97, 98, 99]] := by decide +kernel
  obtain ⟨files, hfiles, hentries⟩ := map_ok hvalues
  have hgone : ∀ p, files.lookup p ≠ some [0] := by
    intro p hp
    have hmem : [0] ∈ files.entries.map (·.2) := List.mem_map.2 ⟨⟨p, [0]⟩, AList.mem_lookup_iff.1 hp, rfl⟩
    have hnot : [0] ∉ files.entries.map (·.2) := by
      rw [hentries]
      decide
    exact hnot hmem
  rcases h homeFiles homeFiles files [] [abcTransfer 0, abcTransfer 0] "Slot_00000001" [0] (by decide) rfl hfiles
    (by decide +kernel) (by decide +kernel) with hfinal | ⟨sessionId, time, hbackup⟩
  · exact hgone _ hfinal
  · exact hgone _ hbackup

end KerMP.SaveReceiver
