/-
A save slot on its way from the host to a client (`SaveSlot` of `kermp/save_sync.py`, `KerMPHost.stream_save_to` of
`kermp/net.py`).

`streamSaveTo` is the stream of messages the host sends for a slot: its manifest, its chunks in base64 as the file is
read, and the end. `receive` hands one message to the client's `SaveReceiver` as its handlers do. The number of chunks and
the size of the last one are computed on both sides; `receive_chunks` shows by induction on the chunks still to come that
they agree at every boundary.

- `save_round_trip`: a slot arrives byte for byte, for every chunk size that is permitted, if and only if it is not empty.
- `empty_slot_is_lost`: no chunk is sent for an empty slot, so no partial file is there when the transfer ends.
-/
import KerMP.Protocol
import KerMP.SaveSync

namespace KerMP

open Py
open Base64 (Bytes)

def CHUNK_SIZE : ℕ := 64 * 1024

/-! ## The sender -/

structure SaveSlot where
  slotId : String
  /-- what the file at its path holds -/
  content : Bytes
  size : ℕ
  modifiedAt : Flt
  sha256 : String

namespace SaveSlot

/-- the slot in the file `slot_id + ".save"` -/
def fromPath (sha256 : Bytes → String) (slotId : String) (content : Bytes) (modifiedAt : Flt) : Except Exc SaveSlot :=
  if isSlotId slotId then .ok ⟨slotId, content, content.length, modifiedAt, sha256 content⟩
  else .error (.valueError "not_a_sims_save_slot")

def chunkCount (slot : SaveSlot) (chunkSize : ℕ) : ℕ := (slot.size + chunkSize - 1) / chunkSize

def manifest (slot : SaveSlot) (sessionId : String) (chunkSize : ℕ) : Except Exc Json :=
  if 1 ≤ chunkSize ∧ chunkSize ≤ MAX_CHUNK_SIZE then
    .ok (.obj [("session_id", .str sessionId), ("slot_id", .str slot.slotId), ("total_bytes", .int slot.size),
      ("chunk_size", .int chunkSize), ("chunk_count", .int (slot.chunkCount chunkSize)), ("sha256", .str slot.sha256),
      ("modified_at", .float slot.modifiedAt)])
  else .error (.valueError "invalid_chunk_size")

/-- what `count` calls of `stream.read(chunk_size)` return -/
def readChunks (chunkSize : ℕ) : ℕ → Bytes → List Bytes
  | 0, _ => []
  | count + 1, stream => stream.take chunkSize :: readChunks chunkSize count (stream.drop chunkSize)

def chunkPayload (sessionId : String) (index : ℕ) (raw : Bytes) : Json :=
  .obj [("session_id", .str sessionId), ("index", .int index), ("payload_b64", .str (Base64.b64encode raw))]

/-- the chunk messages, numbered from `index` -/
def chunkMessages (sessionId : String) : ℕ → List Bytes → List (MessageType × Json)
  | _, [] => []
  | index, raw :: raws => (.saveChunk, chunkPayload sessionId index raw) :: chunkMessages sessionId (index + 1) raws

/-- `stream_save_to`: the messages it sends, in order -/
def streamSaveTo (slot : SaveSlot) (sessionId : String) (chunkSize : ℕ) : Except Exc (List (MessageType × Json)) := do
  let manifest ← slot.manifest sessionId chunkSize
  return (.saveManifest, manifest) :: (.saveBegin, .obj [("session_id", .str sessionId), ("slot_id", .str slot.slotId)]) ::
    (chunkMessages sessionId 0 (readChunks chunkSize (slot.chunkCount chunkSize) slot.content) ++
      [(.saveEnd, .obj [("session_id", .str sessionId), ("sha256", .str slot.sha256)])])

end SaveSlot

/-! ## The receiver -/

namespace SaveReceiver

/-- a chunk message, decoded and written -/
def takeChunk (r : SaveReceiver) (disk : Disk) (payload : Json) : Except Exc (SaveReceiver × Disk) := do
  let data ← (do Base64.b64decode (← payload.getD "payload_b64" (.str "")).toStr)
  let index ← (do (← payload.getD "index" (.int (-1))).toInt)
  r.writeChunk disk index data

/-- one message, for the transfer under way if there is one -/
def receive (sha256 : Bytes → String) (now : ℕ) :
    Option SaveReceiver × Disk → MessageType × Json → Except Exc (Option SaveReceiver × Disk)
  | (_, disk), (.saveManifest, payload) => do
    let (r, disk) ← create payload disk
    return (some r, disk)
  | (some r, disk), (.saveChunk, payload) => do
    let (r, disk) ← r.takeChunk disk payload
    return (some r, disk)
  | (some r, disk), (.saveEnd, payload) => do
    let sessionId ← payload.get "session_id"
    match r.finalize sha256 disk (sessionId.or (.str "unknown")).toStr now with
    | (.ok _, disk) => .ok (none, disk)
    | (.error e, _) => .error e
  | (none, _), (.saveChunk, _) | (none, _), (.saveEnd, _) => .error (.valueError "save_transfer_not_started")
  | x, _ => .ok x

def receiveAll (sha256 : Bytes → String) (now : ℕ) (x : Option SaveReceiver × Disk) :
    List (MessageType × Json) → Except Exc (Option SaveReceiver × Disk)
  | [] => .ok x
  | m :: ms => do
    let x ← receive sha256 now x m
    receiveAll sha256 now x ms

theorem receiveAll_append {sha256 : Bytes → String} {now : ℕ} {x y : Option SaveReceiver × Disk}
    {ms : List (MessageType × Json)} (h : receiveAll sha256 now x ms = .ok y) (ms' : List (MessageType × Json)) :
    receiveAll sha256 now x (ms ++ ms') = receiveAll sha256 now y ms' := by
  induction ms generalizing x with
  | nil =>
    cases h
    rfl
  | cons m ms ih =>
    obtain ⟨x', hx', h'⟩ := bind_ok h
    rw [List.cons_append, receiveAll, hx', ok_bind]
    exact ih h'

/-- the partial file after a chunk has been appended to it -/
theorem lookup_appended (r : SaveReceiver) (disk : Disk) (data : Bytes) :
    (disk.setItem r.partialPath ((disk.lookup r.partialPath).getD [] ++ data)).lookup r.partialPath =
      some ((disk.lookup r.partialPath).getD [] ++ data) := AList.lookup_setItem_self _ _ _

theorem takeChunk_payload (r : SaveReceiver) (disk : Disk) (sessionId : String) (index : ℕ) (raw : Bytes) :
    r.takeChunk disk (SaveSlot.chunkPayload sessionId index raw) = r.writeChunk disk index raw := by
  simp [takeChunk, SaveSlot.chunkPayload, Json.getD, Json.field, Json.toStr, Json.toInt, Base64.b64decode_b64encode,
    List.lookup_cons]

/-- a chunk in its place and of its size is written -/
theorem writeChunk_ok {r : SaveReceiver} (disk : Disk) (raw : Bytes) (hsize : (raw.length : ℤ) ≤ r.chunkSize)
    (htotal : r.received + raw.length ≤ r.total) (hlast : r.nextIndex = r.chunkCount - 1 ∨ (raw.length : ℤ) = r.chunkSize) :
    r.writeChunk disk r.nextIndex raw =
      .ok ({ r with nextIndex := r.nextIndex + 1, received := r.received + raw.length },
        disk.setItem r.partialPath ((disk.lookup r.partialPath).getD [] ++ raw)) :=
  writeChunk_iff.2 ⟨rfl, ⟨hsize, htotal, hlast⟩, rfl, rfl⟩

end SaveReceiver

open SaveReceiver SaveSlot

/-- how many chunks are left when `n` bytes are -/
def chunksLeft (chunkSize n : ℕ) : ℕ := (n + chunkSize - 1) / chunkSize

theorem chunksLeft_zero {c : ℕ} (hc : 1 ≤ c) : chunksLeft c 0 = 0 := Nat.div_eq_of_lt (by omega)

theorem chunksLeft_succ {c n : ℕ} (hc : 1 ≤ c) (hn : 0 < n) : chunksLeft c n = chunksLeft c (n - c) + 1 := by
  unfold chunksLeft
  by_cases h : c ≤ n
  · have heq : n + c - 1 = n - c + c - 1 + c := by omega
    rw [heq, Nat.add_div_right _ hc]
  · have hsmall : n - c = 0 := by omega
    rw [hsmall, Nat.zero_add, Nat.div_eq_of_lt (by omega : c - 1 < c)]
    have heq : n + c - 1 = n - 1 + c := by omega
    rw [heq, Nat.add_div_right _ hc, Nat.div_eq_of_lt (by omega)]

theorem chunksLeft_eq_zero {c n : ℕ} (hc : 1 ≤ c) (h : chunksLeft c n = 0) : n = 0 := by
  by_contra hn
  rw [chunksLeft_succ hc (by omega)] at h
  omega

/-- **The chunks that are left are accepted.** The receiver ends with every byte of them appended to its partial file,
which a transfer without chunks does not touch. -/
theorem receive_chunks (sha256 : Bytes → String) (now : ℕ) (sessionId : String) {c : ℕ} (hc : 1 ≤ c) (rest : Bytes)
    (index : ℕ) (r : SaveReceiver) (disk : Disk) (hindex : r.nextIndex = index) (hsize : r.chunkSize = c)
    (hcount : r.chunkCount = index + chunksLeft c rest.length) (htotal : r.received + rest.length = r.total) :
    ∃ disk' : Disk, receiveAll sha256 now (some r, disk)
        (chunkMessages sessionId index (readChunks c (chunksLeft c rest.length) rest)) =
          .ok (some { r with nextIndex := r.chunkCount, received := r.total }, disk') ∧
      disk'.lookup r.partialPath =
        if rest = [] then disk.lookup r.partialPath else some ((disk.lookup r.partialPath).getD [] ++ rest) := by
  -- the induction is on the number of chunks left
  generalize hn : chunksLeft c rest.length = n at hcount ⊢
  induction n generalizing rest index r disk with
  | zero =>
    obtain rfl : rest = [] := List.length_eq_zero_iff.1 (chunksLeft_eq_zero hc hn)
    have hsame : { r with nextIndex := r.chunkCount, received := r.total } = r := by
      cases r
      simp only [List.length_nil] at hindex hcount htotal
      simp only [SaveReceiver.mk.injEq, true_and]
      exact ⟨by omega, by omega⟩
    refine ⟨disk, ?_, by simp⟩
    rw [hsame]
    rfl
  | succ n ih =>
    have hpos : 0 < rest.length := by
      by_contra hzero
      rw [Nat.eq_zero_of_not_pos hzero, chunksLeft_zero hc] at hn
      cases hn
    have hnext : chunksLeft c (rest.drop c).length = n := by
      rw [chunksLeft_succ hc hpos] at hn
      rw [List.length_drop]
      omega
    have hlen : (rest.take c).length + (rest.drop c).length = rest.length := by
      rw [← List.length_append, List.take_append_drop]
    have htake : (rest.take c).length ≤ c := List.length_take_le c rest
    -- only the last chunk may be short
    have hlast : r.nextIndex = r.chunkCount - 1 ∨ ((rest.take c).length : ℤ) = r.chunkSize := by
      by_cases hshort : (rest.take c).length = c
      · exact Or.inr (by omega)
      · have hend : (rest.drop c).length = 0 := by
          rw [List.length_take] at hshort
          rw [List.length_drop]
          omega
        rw [hend, chunksLeft_zero hc] at hnext
        exact Or.inl (by omega)
    have hwrite := writeChunk_ok disk (rest.take c) (by omega) (by omega) hlast
    obtain ⟨disk', hall, hdisk'⟩ := ih (rest.drop c) (index + 1)
      { r with nextIndex := r.nextIndex + 1, received := r.received + (rest.take c).length }
      (disk.setItem r.partialPath ((disk.lookup r.partialPath).getD [] ++ rest.take c))
      (by dsimp only; omega) hsize (by dsimp only; omega) hnext (by dsimp only; omega)
    refine ⟨disk', ?_, ?_⟩
    · rw [readChunks, chunkMessages, receiveAll, receive, takeChunk_payload, ← hindex, hwrite]
      exact hall
    · have hne : rest ≠ [] := List.length_pos_iff.1 hpos
      have happ := lookup_appended r disk (rest.take c)
      rw [if_neg hne]
      refine hdisk'.trans ?_
      have hparts := List.take_append_drop c rest
      split_ifs with hend
      · rw [hend, List.append_nil] at hparts
        exact happ.trans (by rw [hparts])
      · show some (((disk.setItem r.partialPath _).lookup r.partialPath).getD [] ++ rest.drop c) = _
        rw [happ, Option.getD_some, List.append_assoc, hparts]

/-! ## The round trip -/

theorem create_fields {slotId hash : String} {total chunkSize count : ℕ} (hid : isSlotId slotId = true)
    (h64 : hash.length = 64) (h1 : 1 ≤ chunkSize) (hmax : chunkSize ≤ MAX_CHUNK_SIZE) (sessionId : String) (modifiedAt : Flt)
    (disk : Disk) : SaveReceiver.create (.obj [("session_id", .str sessionId), ("slot_id", .str slotId),
      ("total_bytes", .int total), ("chunk_size", .int chunkSize), ("chunk_count", .int count), ("sha256", .str hash),
      ("modified_at", .float modifiedAt)]) disk =
        .ok (⟨slotId, total, chunkSize, count, hash, 0, 0⟩, disk.erase [slotId ++ ".kermp.partial"]) := by
  have hne : slotId ≠ "" := by
    rintro rfl
    exact absurd hid (by decide)
  have hsha : hash ≠ "" := by
    rintro rfl
    exact absurd h64 (by decide)
  have hor : (Json.str slotId).or (.str "") = .str slotId := by simp [Json.or, Json.truthy, hne]
  have hor' : (Json.str hash).or (.str "") = .str hash := by simp [Json.or, Json.truthy, hsha]
  have hchunk : (1 : ℤ) ≤ chunkSize := by omega
  simp [SaveReceiver.create, Json.toDict, Json.get, Json.getD, Json.field, List.lookup_cons, hor, hor', Json.toStr, Json.toInt,
    require, hid, h64, hchunk, hmax, partialPath]

/-- the host's own slot makes a manifest that the client accepts -/
theorem create_manifest {sha256 : Bytes → String} {slotId : String} {content : Bytes} {modifiedAt : Flt} {slot : SaveSlot}
    (hslot : fromPath sha256 slotId content modifiedAt = .ok slot) (h64 : (sha256 content).length = 64)
    (sessionId : String) {chunkSize : ℕ} (h1 : 1 ≤ chunkSize) (hmax : chunkSize ≤ MAX_CHUNK_SIZE) (disk : Disk) :
    slot.content = content ∧ slot.slotId = slotId ∧ slot.chunkCount chunkSize = chunksLeft chunkSize content.length ∧
      ∃ manifest, slot.manifest sessionId chunkSize = .ok manifest ∧ SaveReceiver.create manifest disk =
        .ok (⟨slotId, content.length, chunkSize, chunksLeft chunkSize content.length, sha256 content, 0, 0⟩,
          disk.erase [slotId ++ ".kermp.partial"]) := by
  unfold fromPath at hslot
  split_ifs at hslot with hid
  cases hslot
  exact ⟨rfl, rfl, rfl, _, if_pos ⟨h1, hmax⟩, create_fields hid h64 h1 hmax sessionId modifiedAt disk⟩

/-- the messages of a transfer, received by a client that has no transfer under way -/
def RoundTrip (sha256 : Bytes → String) (slot : SaveSlot) (sessionId : String) (chunkSize : ℕ) (disk : Disk) (now : ℕ) :
    Prop :=
  ∃ messages disk', slot.streamSaveTo sessionId chunkSize = .ok messages ∧
    receiveAll sha256 now (none, disk) messages = .ok (none, disk') ∧
      disk'.lookup [slot.slotId ++ ".save"] = some slot.content

/-- with the whole content in the partial file, the slot is replaced -/
theorem finalize_complete (sha256 : Bytes → String) {r : SaveReceiver} {disk : Disk} {content : Bytes}
    (hfile : disk.lookup r.partialPath = some content) (hhash : sha256 content = r.expectedHash)
    (hnext : r.nextIndex = r.chunkCount) (hreceived : r.received = r.total) (sessionId : String) (now : ℕ) :
    ∃ b disk', r.finalize sha256 disk sessionId now = (.ok b, disk') ∧ disk'.lookup r.finalPath = some content := by
  simp only [finalize, hnext, hreceived, hfile, hhash, ne_eq, not_true_eq_false, or_self, if_false]
  cases hfinal : disk.lookup r.finalPath with
  | none => exact ⟨_, _, rfl, AList.lookup_setItem_self _ _ _⟩
  | some old => exact ⟨_, _, rfl, AList.lookup_setItem_self _ _ _⟩

/-- **Save transfer round trip.** Whatever the slot holds and whatever chunk size is permitted, the stream of its messages
is received message by message and replaces the client's slot by exactly the host's bytes, unless there are none. -/
theorem save_round_trip (sha256 : Bytes → String) (h64 : ∀ b, (sha256 b).length = 64) (slotId : String) (content : Bytes)
    (modifiedAt : Flt) (slot : SaveSlot) (hslot : fromPath sha256 slotId content modifiedAt = .ok slot)
    (sessionId : String) (chunkSize : ℕ) (h1 : 1 ≤ chunkSize) (hmax : chunkSize ≤ MAX_CHUNK_SIZE) (disk : Disk) (now : ℕ) :
    RoundTrip sha256 slot sessionId chunkSize disk now ↔ content ≠ [] := by
  obtain ⟨hcontent, hid, hcount, manifest, hmanifest, hcreate⟩ :=
    create_manifest hslot (h64 content) sessionId h1 hmax disk
  set r : SaveReceiver := ⟨slotId, content.length, chunkSize, chunksLeft chunkSize content.length, sha256 content, 0, 0⟩
    with hr
  -- the receiver after the last chunk
  obtain ⟨disk', hchunks, hfile⟩ := receive_chunks sha256 now sessionId h1 content 0 r
    (disk.erase r.partialPath) rfl rfl (by simp [hr]) (by simp [hr])
  rw [AList.lookup_erase] at hfile
  set done : SaveReceiver := { r with nextIndex := r.chunkCount, received := r.total } with hdone
  set final : MessageType × Json := (.saveEnd, .obj [("session_id", .str sessionId), ("sha256", .str slot.sha256)])
  have hall : ∀ messages, slot.streamSaveTo sessionId chunkSize = .ok messages →
      receiveAll sha256 now (none, disk) messages = receiveAll sha256 now (some done, disk') [final] := by
    intro messages hmessages
    simp only [streamSaveTo, hmanifest, hcount, hcontent, ok_bind, pure_eq_ok, Except.ok.injEq] at hmessages
    rw [← hmessages]
    simp only [receiveAll, receive, hcreate, ok_bind, pure_eq_ok]
    exact receiveAll_append hchunks [final]
  have hend : ∀ {result disk''}, done.finalize sha256 disk' (Json.or (.str sessionId) (.str "unknown")).toStr now =
      (result, disk'') → receiveAll sha256 now (some done, disk') [final] =
        match result with
        | .ok _ => .ok (none, disk'')
        | .error e => .error e := by
    intro result disk'' hfinalize
    simp only [receiveAll, receive, final, Json.get, Json.getD, Json.field, List.lookup_cons, beq_self_eq_true, Option.getD_some,
      ok_bind, hfinalize]
    cases result <;> rfl
  constructor
  · intro htrip hnil
    obtain ⟨messages, disk'', hmessages, hreceived, -⟩ := htrip
    rw [if_pos hnil] at hfile
    have hfails : done.finalize sha256 disk' (Json.or (.str sessionId) (.str "unknown")).toStr now =
        (.error (.osError "No such file or directory"), disk') := by
      have hnone : disk'.lookup done.partialPath = none := hfile
      simp [finalize, hnone, hdone]
    rw [hall messages hmessages, hend hfails] at hreceived
    cases hreceived
  · intro hne
    rw [if_neg hne, Option.getD_none, List.nil_append] at hfile
    obtain ⟨b, disk'', hfinalize, hfinal⟩ := finalize_complete sha256 (r := done) hfile rfl rfl rfl
      (Json.or (.str sessionId) (.str "unknown")).toStr now
    have hstream : ∃ messages, slot.streamSaveTo sessionId chunkSize = .ok messages := by
      simp [streamSaveTo, hmanifest]
    obtain ⟨messages, hmessages⟩ := hstream
    refine ⟨messages, disk'', hmessages, ?_, ?_⟩
    · rw [hall messages hmessages, hend hfinalize]
    · rw [hid, hcontent]
      exact hfinal

/-- the SHA-256 of the three bytes of "abc" -/
def shaOfAbc : String := "ba7816bf8f01cfea414140de5dae2223b00361a396177a9cb410ff61f20015ad"

theorem save_round_trip_abc : RoundTrip (fun _ => shaOfAbc)
    ⟨"Slot_00000001", [97, 98, 99], 3, .dec false 17 8, shaOfAbc⟩ "session" 2 ∅ 0 :=
  (save_round_trip (fun _ => shaOfAbc) (fun _ => by decide) "Slot_00000001" [97, 98, 99] (.dec false 17 8) _
    (if_pos (by decide +kernel)) "session" 2 (by decide) (by decide) ∅ 0).2 (by decide)

/-- the SHA-256 of no bytes -/
def shaOfNothing : String := "e3b0c44298fc1c149afbf4c8996fb92427ae41e4649b934ca495991b7852b855"

/-- An empty slot makes a manifest without chunks, and the transfer ends without a partial file to check. -/
theorem empty_slot_is_lost :
    ¬ RoundTrip (fun _ => shaOfNothing) ⟨"Slot_00000001", [], 0, .dec false 17 8, shaOfNothing⟩ "session" CHUNK_SIZE
      ∅ 0 := by
  intro htrip
  obtain ⟨messages, disk, hmessages, hreceived, -⟩ := htrip
  cases hmessages
  have hfails : receiveAll (fun _ => shaOfNothing) 0 (none, ∅)
      [(.saveManifest, .obj [("session_id", .str "session"), ("slot_id", .str "Slot_00000001"), ("total_bytes", .int 0),
        ("chunk_size", .int 65536), ("chunk_count", .int 0), ("sha256", .str shaOfNothing),
        ("modified_at", .float (.dec false 17 8))]),
      (.saveBegin, .obj [("session_id", .str "session"), ("slot_id", .str "Slot_00000001")]),
      (.saveEnd, .obj [("session_id", .str "session"), ("sha256", .str shaOfNothing)])] =
        .error (.osError "No such file or directory") := by
    decide +kernel
  cases hfails.symm.trans hreceived

end KerMP
