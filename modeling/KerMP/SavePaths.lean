/-
Where a save transfer writes (`SaveReceiver` of `kermp/save_sync.py`).

The names of the partial file, of the final file and of the backup are made of the slot id, which `_SLOT` has checked:
each is one step below its directory. The directory of the backup is `destination_dir / "KerMP backups" / session_id`,
with a session id that the host chooses. Paths are `PosixPath`s, and a path that the operating system refuses is an I/O
failure, which the disk does not have.

- `writeChunk_frame`, `abort_frame`, `finalize_frame`: the calls change nothing but the paths they touch.
- `paths_inside_iff`: all of these lead below the saves directory if and only if no backup is made, or the session id
  stays inside.
- `escaping_session`: a session id that does not.
-/
import KerMP.Lib.PosixPath
import KerMP.SaveTransfer

namespace KerMP.SaveReceiver

open Py Posix
open Base64 (Bytes)

/-! ## Touched paths -/

def backupDir (sessionId : String) : SavePath := ["KerMP backups", sessionId]

/-- what `write_chunk` creates or writes -/
def writeChunkTouches (r : SaveReceiver) : List SavePath := [r.partialPath]

/-- what `abort` removes -/
def abortTouches (r : SaveReceiver) : List SavePath := [r.partialPath]

/-- what `finalize` creates, writes, replaces or removes -/
def finalizeTouches (sha256 : Bytes → String) (r : SaveReceiver) (disk : Disk) (sessionId : String) (now : ℕ) :
    List SavePath :=
  if r.nextIndex ≠ r.chunkCount ∨ r.received ≠ r.total then r.abortTouches
  else
    match disk.lookup r.partialPath with
    | none => []
    | some content =>
      if sha256 content ≠ r.expectedHash then r.abortTouches
      else if r.finalPath ∈ disk then
        [backupDir sessionId, r.backupPath sessionId (utcStamp now), r.partialPath, r.finalPath]
      else [r.partialPath, r.finalPath]

variable {sha256 : Bytes → String} {r : SaveReceiver} {disk : Disk} {sessionId : String} {now : ℕ} {p : SavePath}

theorem writeChunk_frame {r' : SaveReceiver} {disk' : Disk} {index : ℤ} {data : Bytes}
    (h : r.writeChunk disk index data = .ok (r', disk')) (hp : p ∉ r.writeChunkTouches) :
    disk'.lookup p = disk.lookup p := by
  obtain ⟨-, -, -, rfl⟩ := writeChunk_iff.1 h
  exact AList.lookup_setItem_ne _ _ fun he => hp (List.mem_singleton.2 he)

theorem abort_frame (hp : p ∉ r.abortTouches) : (r.abort disk).lookup p = disk.lookup p :=
  AList.lookup_erase_ne fun he => hp (List.mem_singleton.2 he)

theorem finalize_frame (hp : p ∉ r.finalizeTouches sha256 disk sessionId now) :
    (r.finalize sha256 disk sessionId now).2.lookup p = disk.lookup p := by
  unfold finalizeTouches at hp
  unfold finalize
  by_cases hcount : r.nextIndex ≠ r.chunkCount ∨ r.received ≠ r.total
  · rw [if_pos hcount] at hp ⊢
    exact abort_frame hp
  rw [if_neg hcount] at hp ⊢
  cases hfile : disk.lookup r.partialPath with
  | none => rfl
  | some content =>
    rw [hfile] at hp
    dsimp only at hp ⊢
    by_cases hhash : sha256 content ≠ r.expectedHash
    · rw [if_pos hhash] at hp ⊢
      exact abort_frame hp
    rw [if_neg hhash] at hp ⊢
    by_cases hfinal : r.finalPath ∈ disk
    · obtain ⟨old, hold⟩ := Option.isSome_iff_exists.1 (AList.lookup_isSome.2 hfinal)
      simp only [hfinal, if_true, List.mem_cons, List.not_mem_nil, or_false, not_or] at hp
      rw [hold]
      dsimp only
      rw [AList.lookup_setItem_ne _ _ hp.2.2.2, AList.lookup_erase_ne hp.2.2.1, AList.lookup_setItem_ne _ _ hp.2.1]
    · simp only [hfinal, if_false, List.mem_cons, List.not_mem_nil, or_false, not_or] at hp
      rw [AList.lookup_eq_none.2 hfinal]
      dsimp only
      rw [AList.lookup_setItem_ne _ _ hp.2, AList.lookup_erase_ne hp.1]

/-- the transfer is complete, its bytes have the announced hash, and the slot was there before -/
def BacksUp (sha256 : Bytes → String) (r : SaveReceiver) (disk : Disk) : Prop :=
  r.nextIndex = r.chunkCount ∧ r.received = r.total ∧
    (∃ content, disk.lookup r.partialPath = some content ∧ sha256 content = r.expectedHash) ∧ r.finalPath ∈ disk

/-- a backup is written by such a transfer only -/
theorem finalizeTouches_backup (h : r.BacksUp sha256 disk) : r.finalizeTouches sha256 disk sessionId now =
    [backupDir sessionId, r.backupPath sessionId (utcStamp now), r.partialPath, r.finalPath] := by
  obtain ⟨hindex, hreceived, ⟨content, hfile, hhash⟩, hfinal⟩ := h
  unfold finalizeTouches
  rw [if_neg (by simp [hindex, hreceived]), hfile]
  simp [hhash, hfinal]

theorem finalizeTouches_plain (h : ¬ r.BacksUp sha256 disk) (hp : p ∈ r.finalizeTouches sha256 disk sessionId now) :
    p = r.partialPath ∨ p = r.finalPath := by
  unfold finalizeTouches at hp
  by_cases hcount : r.nextIndex ≠ r.chunkCount ∨ r.received ≠ r.total
  · rw [if_pos hcount] at hp
    exact Or.inl (List.mem_singleton.1 hp)
  rw [if_neg hcount] at hp
  cases hfile : disk.lookup r.partialPath with
  | none =>
    rw [hfile] at hp
    cases hp
  | some content =>
    rw [hfile] at hp
    dsimp only at hp
    split_ifs at hp with hhash hfinal
    · exact Or.inl (List.mem_singleton.1 hp)
    · rw [not_or, not_not, not_not] at hcount
      exact absurd ⟨hcount.1, hcount.2, ⟨content, hfile, not_not.1 hhash⟩, hfinal⟩ h
    · simpa using hp

/-! ## Names -/

theorem isSlotId_chars {s : String} (h : isSlotId s = true) :
    ∃ digits, s.toList = "Slot_".toList ++ digits ∧ ∀ c ∈ digits, isHexDigit c = true := by
  simp only [isSlotId, Bool.and_eq_true, List.all_eq_true] at h
  obtain ⟨⟨hstart, -⟩, hdigits⟩ := h
  obtain ⟨digits, he⟩ := String.startsWith_string_iff.1 hstart
  refine ⟨digits, he.symm, ?_⟩
  rw [← he] at hdigits
  exact hdigits

/-- a time stamp is six padded numbers, with a `T` after the date and a `Z` at the end -/
theorem utcStamp_parts (seconds : ℕ) : ∃ pad : ℕ → ℕ → String,
    (∀ width n, (pad width n).toList = List.replicate (width - (toString n).toList.length) '0' ++ (toString n).toList) ∧
    ∃ year month day hour minute second, utcStamp seconds =
      pad 4 year ++ pad 2 month ++ pad 2 day ++ "T" ++ pad 2 hour ++ pad 2 minute ++ pad 2 second ++ "Z" :=
  ⟨_, fun _ _ => String.toList_ofList, _, _, _, _, _, _, rfl⟩

/-- the characters of a time stamp -/
theorem utcStamp_chars {seconds : ℕ} {c : Char} (h : c ∈ (utcStamp seconds).toList) : c.isDigit ∨ c = 'T' ∨ c = 'Z' := by
  obtain ⟨pad, hpad, year, month, day, hour, minute, second, hstamp⟩ := utcStamp_parts seconds
  have hdigit : ∀ width n : ℕ, c ∈ (pad width n).toList → c.isDigit = true := by
    intro width n hc
    rw [hpad] at hc
    rcases List.mem_append.1 hc with hc | hc
    · rw [List.eq_of_mem_replicate hc]
      rfl
    · have hdigits : c ∈ Nat.toDigits 10 n := by simpa using hc
      exact Nat.isDigit_of_mem_toDigits (by decide) (by decide) hdigits
  have hT : c ∈ "T".toList → c = 'T' := List.mem_singleton.1
  have hZ : c ∈ "Z".toList → c = 'Z' := List.mem_singleton.1
  rw [hstamp] at h
  simp only [String.toList_append, List.mem_append] at h
  rcases h with ((((((h | h) | h) | h) | h) | h) | h) | h
  · exact Or.inl (hdigit _ _ h)
  · exact Or.inl (hdigit _ _ h)
  · exact Or.inl (hdigit _ _ h)
  · exact Or.inr (Or.inl (hT h))
  · exact Or.inl (hdigit _ _ h)
  · exact Or.inl (hdigit _ _ h)
  · exact Or.inl (hdigit _ _ h)
  · exact Or.inr (Or.inr (hZ h))

/-- a slot id has no other characters than its first ones and hexadecimal digits -/
theorem slot_notMem {s : String} {c : Char} (h : isSlotId s = true) (hfirst : c ∉ "Slot_".toList)
    (hdigit : isHexDigit c = false) : c ∉ s.toList := by
  obtain ⟨digits, hs, hdigits⟩ := isSlotId_chars h
  rw [hs, List.mem_append]
  rintro (hc | hc)
  · exact hfirst hc
  · rw [hdigits _ hc] at hdigit
    cases hdigit

/-- a name that starts with a slot id -/
theorem plainName_slot {slot ext : String} (h : isSlotId slot = true) (hext : '/' ∉ ext.toList) :
    PlainName (slot ++ ext) := by
  obtain ⟨digits, hs, -⟩ := isSlotId_chars h
  have hhead : (slot ++ ext).toList.head? = some 'S' := by
    rw [String.toList_append, hs]
    rfl
  refine ⟨?_, fun he => ?_, fun he => ?_, fun he => ?_⟩
  · rw [String.toList_append, List.mem_append]
    exact not_or.2 ⟨slot_notMem h (by decide) (by decide), hext⟩
  all_goals
    rw [he] at hhead
    exact absurd hhead (by decide)

theorem stamp_noSlash (seconds : ℕ) : '/' ∉ ("." ++ utcStamp seconds ++ ".save").toList := by
  simp only [String.toList_append, List.mem_append, not_or]
  refine ⟨⟨by decide, fun hc => ?_⟩, by decide⟩
  rcases utcStamp_chars hc with h | h | h
  · exact absurd h (by decide)
  · exact absurd h (by decide)
  · exact absurd h (by decide)

/-- a manifest is accepted for a slot only -/
theorem create_slotId {manifest : Json} {before after : Disk} (h : create manifest before = .ok (r, after)) :
    isSlotId r.slotId = true := (create_ok h).1

/-! ## Inside the saves directory -/

/-- a path below the saves directory, joined segment by segment -/
def located (dest : PurePath) (p : SavePath) : PurePath := p.foldl (· / ·) dest

/-- the path leads to the directory or below it -/
def Inside (cwd : List String) (dest path : PurePath) : Prop := dest.resolve cwd <+: path.resolve cwd

/-- a session id that leads from "KerMP backups" back to the saves directory or below it: it climbs at most one
directory, or comes back through the names it has left; an absolute one leads there from the root -/
def StaysInside (dest : List String) (sessionId : String) : Prop :=
  let (ups, rest) := climb (parts sessionId)
  if (PurePath.ofString sessionId).absolute then dest <+: rest
  else ups ≤ 1 ∨ dest.drop (dest.length - (ups - 1)) <+: rest

instance (cwd : List String) (dest path : PurePath) : Decidable (Inside cwd dest path) := by
  unfold Inside
  infer_instance

instance (dest : List String) (sessionId : String) : Decidable (StaysInside dest sessionId) := by
  unfold StaysInside
  infer_instance

theorem plainName_backups : PlainName "KerMP backups" := ⟨by decide, by decide, by decide, by decide⟩

/-- **The directory of the backups of a session.** -/
theorem backupDir_inside_iff (cwd : List String) (dest : PurePath) (sessionId : String) :
    Inside cwd dest (located dest (backupDir sessionId)) ↔ StaysInside (dest.resolve cwd) sessionId := by
  have hdir : (located dest (backupDir sessionId)).resolve cwd =
      walk (if (PurePath.ofString sessionId).absolute then [] else dest.resolve cwd ++ ["KerMP backups"])
        (parts sessionId) := by
    rw [← resolve_div_plain cwd dest plainName_backups]
    exact resolve_div cwd _ sessionId
  unfold Inside StaysInside
  rw [hdir]
  dsimp only
  split_ifs with habs
  · rw [walk_eq]
    simp
  · exact prefix_walk_iff _ _ _

theorem inside_plain {cwd : List String} {dest path : PurePath} {name : String} (h : Inside cwd dest path)
    (hname : PlainName name) : Inside cwd dest (path / name) := by
  unfold Inside
  rw [resolve_div_plain cwd path hname]
  exact h.trans (List.prefix_append _ _)

/-- **Where a transfer writes.** For every accepted manifest, at every point of its transfer and for every session id,
the paths that `write_chunk`, `abort` and `finalize` touch lead below the saves directory if and only if `finalize` makes
no backup or the session id stays inside. -/
theorem paths_inside_iff (sha256 : Bytes → String) (cwd : List String) (dest : PurePath) (manifest : Json)
    (before after : Disk) (r₀ : SaveReceiver) (accepted : create manifest before = .ok (r₀, after))
    (nextIndex received : ℤ) (disk : Disk) (sessionId : String) (now : ℕ) :
    let r : SaveReceiver := { r₀ with nextIndex := nextIndex, received := received }
    (∀ p ∈ r.writeChunkTouches ++ r.abortTouches ++ r.finalizeTouches sha256 disk sessionId now,
        Inside cwd dest (located dest p)) ↔
      (r.BacksUp sha256 disk → StaysInside (dest.resolve cwd) sessionId) := by
  intro r
  have hslot : isSlotId r₀.slotId = true := create_slotId accepted
  have hroot : Inside cwd dest dest := List.prefix_rfl
  have hfile : Inside cwd dest (located dest r.partialPath) := inside_plain hroot (plainName_slot hslot (by decide))
  have hfinal : Inside cwd dest (located dest r.finalPath) := inside_plain hroot (plainName_slot hslot (by decide))
  simp only [writeChunkTouches, abortTouches, List.mem_append, List.mem_singleton]
  constructor
  · intro h hbackup
    rw [← backupDir_inside_iff]
    refine h _ (Or.inr ?_)
    rw [finalizeTouches_backup hbackup]
    exact List.mem_cons_self
  · rintro h p ((rfl | rfl) | hp)
    · exact hfile
    · exact hfile
    by_cases hbackup : r.BacksUp sha256 disk
    · have hdir := (backupDir_inside_iff cwd dest sessionId).2 (h hbackup)
      have hname : PlainName (r.slotId ++ "." ++ utcStamp now ++ ".save") := by
        have he : r.slotId ++ "." ++ utcStamp now ++ ".save" = r.slotId ++ ("." ++ utcStamp now ++ ".save") := by
          simp only [String.append_assoc]
        rw [he]
        exact plainName_slot hslot (stamp_noSlash now)
      rw [finalizeTouches_backup hbackup] at hp
      simp only [List.mem_cons, List.not_mem_nil, or_false] at hp
      rcases hp with rfl | rfl | rfl | rfl
      · exact hdir
      · exact inside_plain hdir hname
      · exact hfile
      · exact hfinal
    · rcases finalizeTouches_plain hbackup hp with rfl | rfl
      · exact hfile
      · exact hfinal

/-- a transfer of the three bytes of "abc" -/
def abcManifest : Json :=
  .obj [("session_id", .str "session"), ("slot_id", .str "Slot_00000001"), ("total_bytes", .int 3), ("chunk_size", .int 8),
    ("chunk_count", .int 1), ("sha256", .str shaOfAbc), ("modified_at", .float (.dec false 17 8))]

def abcReceiver : SaveReceiver := ⟨"Slot_00000001", 3, 8, 1, shaOfAbc, 0, 0⟩

/-- the receiver once all bytes have come -/
def abcReceived : SaveReceiver := { abcReceiver with nextIndex := 1, received := 3 }

/-- an old save in the slot, and the new one on its way -/
def abcDisk : Disk := ((∅ : Disk).setItem ["Slot_00000001.save"] [0]).setItem ["Slot_00000001.kermp.partial"] [97, 98, 99]

def homeSaves : PurePath := PurePath.ofString "/home/u/saves"

theorem abc_accepted (disk : Disk) :
    create abcManifest disk = .ok (abcReceiver, disk.erase ["Slot_00000001.kermp.partial"]) :=
  create_fields (by decide +kernel) (by decide) (by decide) (by decide) "session" (.dec false 17 8) disk

theorem paths_inside_abc : (abcReceived.writeChunkTouches ++ abcReceived.abortTouches ++
    abcReceived.finalizeTouches (fun _ => shaOfAbc) abcDisk "lan/../session" 0).Forall fun p =>
      Inside ["home", "u"] homeSaves (located homeSaves p) :=
  List.forall_iff_forall_mem.2 ((paths_inside_iff (fun _ => shaOfAbc) ["home", "u"] homeSaves abcManifest ∅ _ _
    (abc_accepted ∅) 1 3 abcDisk "lan/../session" 0).2 fun _ => by decide +kernel)

/-- the old save is copied to a directory beside the saves -/
theorem escaping_session : ¬ ∀ sessionId, ∀ p ∈ abcReceived.writeChunkTouches ++ abcReceived.abortTouches ++
    abcReceived.finalizeTouches (fun _ => shaOfAbc) abcDisk sessionId 0,
      Inside ["home", "u"] homeSaves (located homeSaves p) := by
  intro h
  have hescapes : ¬ ∀ p ∈ abcReceived.writeChunkTouches ++ abcReceived.abortTouches ++
      abcReceived.finalizeTouches (fun _ => shaOfAbc) abcDisk "../../other" 0,
        Inside ["home", "u"] homeSaves (located homeSaves p) := by decide +kernel
  exact hescapes (h "../../other")

end KerMP.SaveReceiver
