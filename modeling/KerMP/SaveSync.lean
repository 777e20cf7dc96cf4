/-
Receiving a save slot (`kermp/save_sync.py`): the checked temporary writer and its disk.

The disk is a map from paths to bytes without I/O failures; a path is the list of its segments below the saves
directory, as they were given (a session id may be any text). SHA-256 is a parameter. The slot is replaced by
`finalize` only, and only by a file with the announced number of bytes and hash (`finalize_ok`).
-/
import KerMP.Lib.Base64
import KerMP.Lib.Dict
import KerMP.BuildSync

namespace KerMP

open Py
open Base64 (Bytes)

def MAX_CHUNK_SIZE : ℤ := 256 * 1024

abbrev SavePath := List String

abbrev Disk := Dict SavePath Bytes

def isHexDigit (c : Char) : Bool := c.isDigit || ('a' ≤ c && c ≤ 'f') || ('A' ≤ c && c ≤ 'F')

/-- `_SLOT` matches `slot_id + ".save"` -/
def isSlotId (s : String) : Bool :=
  let digits := s.toList.drop 5
  "Slot_".isPrefixOf s && !digits.isEmpty && digits.all isHexDigit

structure SaveReceiver where
  slotId : String
  total : ℤ
  chunkSize : ℤ
  chunkCount : ℤ
  expectedHash : String
  nextIndex : ℤ
  received : ℤ
deriving DecidableEq

namespace SaveReceiver

def partialPath (r : SaveReceiver) : SavePath := [r.slotId ++ ".kermp.partial"]

def finalPath (r : SaveReceiver) : SavePath := [r.slotId ++ ".save"]

/-- a partial file is no slot -/
theorem finalPath_ne_partialPath (r r' : SaveReceiver) : r.finalPath ≠ r'.partialPath := by
  intro h
  have hchars := congrArg String.toList (List.cons.inj h).1
  have hlast := congrArg List.getLast? hchars
  simp [String.toList_append] at hlast

/-- a new transfer removes what is left of an old one -/
def create (manifest : Json) (disk : Disk) : Except Exc (SaveReceiver × Disk) := do
  let _ ← manifest.toDict
  let slotId := ((← manifest.get "slot_id").or (.str "")).toStr
  let total ← (← manifest.getD "total_bytes" (.int (-1))).toInt
  let chunkSize ← (← manifest.getD "chunk_size" (.int 0)).toInt
  let chunkCount ← (← manifest.getD "chunk_count" (.int (-1))).toInt
  let expectedHash := ((← manifest.get "sha256").or (.str "")).toStr
  require (isSlotId slotId && 0 ≤ total && 1 ≤ chunkSize && chunkSize ≤ MAX_CHUNK_SIZE && 0 ≤ chunkCount &&
    expectedHash.length == 64) (.valueError "invalid_save_manifest")
  let r : SaveReceiver := ⟨slotId, total, chunkSize, chunkCount, expectedHash, 0, 0⟩
  return (r, disk.erase r.partialPath)

def writeChunk (r : SaveReceiver) (disk : Disk) (index : ℤ) (data : Bytes) : Except Exc (SaveReceiver × Disk) := do
  require (index == r.nextIndex) (.valueError "save_chunk_out_of_order")
  require (data.length ≤ r.chunkSize && r.received + data.length ≤ r.total) (.valueError "save_chunk_oversized")
  require (index == r.chunkCount - 1 || (data.length : ℤ) == r.chunkSize) (.valueError "save_chunk_short")
  return ({ r with nextIndex := r.nextIndex + 1, received := r.received + data.length },
    disk.setItem r.partialPath ((disk.lookup r.partialPath).getD [] ++ data))

def abort (r : SaveReceiver) (disk : Disk) : Disk := disk.erase r.partialPath

/-- `datetime.now(utc).strftime("%Y%m%dT%H%M%SZ")` from the seconds since 1970 -/
def utcStamp (seconds : ℕ) : String :=
  let z := seconds / 86400 + 719468
  let doe := z % 146097
  let yoe := (doe - doe / 1460 + doe / 36524 - doe / 146096) / 365
  let doy := doe - (365 * yoe + yoe / 4 - yoe / 100)
  let mp := (5 * doy + 2) / 153
  let day := doy - (153 * mp + 2) / 5 + 1
  let month := if mp < 10 then mp + 3 else mp - 9
  let year := yoe + z / 146097 * 400 + (if month ≤ 2 then 1 else 0)
  let s := seconds % 86400
  let pad (width n : ℕ) : String :=
    let ds := (toString n).toList
    String.ofList (List.replicate (width - ds.length) '0' ++ ds)
  pad 4 year ++ pad 2 month ++ pad 2 day ++ "T" ++ pad 2 (s / 3600) ++ pad 2 (s / 60 % 60) ++ pad 2 (s % 60) ++ "Z"

def backupPath (r : SaveReceiver) (sessionId stamp : String) : SavePath :=
  ["KerMP backups", sessionId, r.slotId ++ "." ++ stamp ++ ".save"]

/-- answers with the path of the backup, if the slot was there before -/
def finalize (sha256 : Bytes → String) (r : SaveReceiver) (disk : Disk) (sessionId : String) (now : ℕ) :
    Except Exc (Option SavePath) × Disk :=
  if r.nextIndex ≠ r.chunkCount ∨ r.received ≠ r.total then
    (.error (.valueError "save_hash_mismatch"), r.abort disk)
  else
    match disk.lookup r.partialPath with
    | none => (.error (.osError "No such file or directory"), disk)
    | some content =>
      if sha256 content ≠ r.expectedHash then (.error (.valueError "save_hash_mismatch"), r.abort disk)
      else
        match disk.lookup r.finalPath with
        | none => (.ok none, (disk.erase r.partialPath).setItem r.finalPath content)
        | some old =>
          let backup := r.backupPath sessionId (utcStamp now)
          (.ok (some backup), ((disk.setItem backup old).erase r.partialPath).setItem r.finalPath content)

/-! ## What each call can do -/

theorem create_ok {manifest : Json} {before after : Disk} {r : SaveReceiver}
    (h : create manifest before = .ok (r, after)) :
    isSlotId r.slotId = true ∧ 0 ≤ r.total ∧ 1 ≤ r.chunkSize ∧ r.nextIndex = 0 ∧ r.received = 0 ∧
      after = before.erase r.partialPath := by
  unfold create at h
  obtain ⟨_, -, h⟩ := bind_ok h
  obtain ⟨_, -, h⟩ := bind_ok h
  obtain ⟨_, -, h⟩ := bind_ok h
  obtain ⟨_, -, h⟩ := bind_ok h
  obtain ⟨_, -, h⟩ := bind_ok h
  obtain ⟨_, -, h⟩ := bind_ok h
  obtain ⟨_, -, h⟩ := bind_ok h
  obtain ⟨_, -, h⟩ := bind_ok h
  obtain ⟨_, -, h⟩ := bind_ok h
  obtain ⟨_, hchecks, h⟩ := bind_ok h
  cases h
  have hchecks := require_ok hchecks
  simp only [Bool.and_eq_true, decide_eq_true_eq] at hchecks
  obtain ⟨⟨⟨⟨⟨hslot, htotal⟩, hsize⟩, -⟩, -⟩, -⟩ := hchecks
  exact ⟨hslot, htotal, hsize, rfl, rfl, rfl⟩

/-- a chunk of these bytes is accepted at the next index -/
def Fits (r : SaveReceiver) (data : Bytes) : Prop :=
  data.length ≤ r.chunkSize ∧ r.received + data.length ≤ r.total ∧
    (r.nextIndex = r.chunkCount - 1 ∨ (data.length : ℤ) = r.chunkSize)

theorem writeChunk_iff {r r' : SaveReceiver} {disk disk' : Disk} {index : ℤ} {data : Bytes} :
    r.writeChunk disk index data = .ok (r', disk') ↔ index = r.nextIndex ∧ r.Fits data ∧
      r' = { r with nextIndex := r.nextIndex + 1, received := r.received + data.length } ∧
      disk' = disk.setItem r.partialPath ((disk.lookup r.partialPath).getD [] ++ data) := by
  constructor
  · intro h
    obtain ⟨_, hindex, h⟩ := bind_ok h
    obtain ⟨_, hsize, h⟩ := bind_ok h
    obtain ⟨_, hlast, h⟩ := bind_ok h
    cases h
    have hindex := require_ok hindex
    have hsize := require_ok hsize
    have hlast := require_ok hlast
    simp only [beq_iff_eq, Bool.and_eq_true, Bool.or_eq_true, decide_eq_true_eq] at hindex hsize hlast
    subst hindex
    exact ⟨rfl, ⟨hsize.1, hsize.2, hlast⟩, rfl, rfl⟩
  · intro h
    obtain ⟨rfl, ⟨hsize, htotal, hlast⟩, rfl, rfl⟩ := h
    have hguard : (r.nextIndex == r.chunkCount - 1 || (data.length : ℤ) == r.chunkSize) = true := by
      rcases hlast with h | h <;> simp [h]
    simp [writeChunk, require, hsize, htotal, hguard]

theorem finalize_ok {sha256 : Bytes → String} {r : SaveReceiver} {disk disk' : Disk} {sessionId : String} {now : ℕ}
    {b : Option SavePath} (h : r.finalize sha256 disk sessionId now = (.ok b, disk')) :
    r.received = r.total ∧ ∃ content, disk.lookup r.partialPath = some content ∧ sha256 content = r.expectedHash ∧
      disk'.lookup r.finalPath = some content := by
  unfold finalize at h
  by_cases hcount : r.nextIndex ≠ r.chunkCount ∨ r.received ≠ r.total
  · rw [if_pos hcount] at h
    cases h
  rw [if_neg hcount] at h
  rw [not_or, not_not, not_not] at hcount
  split at h
  · cases h
  · rename_i content hcontent
    by_cases hhash : sha256 content = r.expectedHash
    · rw [if_neg (not_not.2 hhash)] at h
      refine ⟨hcount.2, content, hcontent, hhash, ?_⟩
      split at h <;> cases h <;> exact AList.lookup_setItem_self _ _ _
    · rw [if_pos hhash] at h
      cases h

end SaveReceiver

end KerMP
