/-
Whether a line can be received (`Envelope.to_line` and `from_line` of `kermp/protocol.py`, the stream readers of
`kermp/net.py`).

Both sides open their streams without a limit, so `readline` raises on a line of more than 65536 bytes, long before
`MAX_ENVELOPE_BYTES` is reached. A view update may hold two MiB and a chunk of a save slot 256 KiB, and base64 makes four
bytes of every three. The size of the two kinds of lines is computed field by field (`size_rawLine`, `size_chunkLine`).

- `received_lines`: which of the lines that carry bytes are received, for every message and every chunk.
- `default_chunk_is_too_long`: a full chunk of the default size is not.
-/
import KerMP.Lib.Dumps
import KerMP.Host.Game
import KerMP.SaveTransfer

namespace KerMP

open Py
open Base64 (Bytes)
open Json (textSize)

def MAX_ENVELOPE_BYTES : ℕ := MAX_GAME_MESSAGE_BYTES * 2

/-- the limit of a stream reader that is opened without one -/
def READ_LIMIT : ℕ := 65536

/-! ## Sending and receiving a line -/

/-- `to_line`, at the time `sentAt` -/
def Envelope.toLine (e : Envelope) (sentAt : Flt) : String :=
  (Json.obj [("type", .str e.type.value), ("payload", e.payload), ("sender_id", .str e.senderId),
    ("message_id", e.messageId), ("sent_at", .float sentAt), ("seq", e.seq),
    ("protocol_version", .int PROTOCOL_VERSION)]).dumps ++ "\n"

/-- `readline`: the limit is on what comes before the end of the line -/
def readline (line : String) : Except Exc String :=
  if line.utf8ByteSize ≤ READ_LIMIT + 1 then .ok line
  else .error (.valueError "Separator is found, but chunk is longer than limit")

/-- the first check of `from_line` -/
def checkSize (line : String) : Except Exc Unit :=
  require (line.utf8ByteSize ≤ MAX_ENVELOPE_BYTES) (.valueError "envelope_too_large")

/-- the receiving loop does not fail on the size of the line -/
def Received (line : String) : Prop := (readline line >>= checkSize) = .ok ()

/-- the limit of the reader is the one that counts -/
theorem received_iff (line : String) : Received line ↔ line.utf8ByteSize ≤ READ_LIMIT + 1 := by
  unfold Received readline checkSize
  split_ifs with h
  · have hmax : line.utf8ByteSize ≤ MAX_ENVELOPE_BYTES := h.trans (by decide)
    simp [require, h, hmax]
  · simp [h]

/-! ## Sizes -/

theorem size_envelopeKeys :
    ["type", "payload", "sender_id", "message_id", "sent_at", "seq", "protocol_version"].map
      (fun k => (dumpsStr k).utf8ByteSize) = [6, 9, 11, 12, 9, 5, 18] := by decide +kernel

theorem size_payloadKeys :
    ["msg_id", "sequence", "payload_b64", "epoch", "session_id", "index"].map (fun k => (dumpsStr k).utf8ByteSize) =
      [8, 10, 13, 7, 12, 7] := by decide +kernel

theorem size_types : [MessageType.gameRawMessage, .saveChunk].map (fun type => textSize (.str type.value)) = [18, 12] := by
  decide +kernel

/-- `seq`, which only a broadcast has -/
def seqSize (seq : Option ℤ) : ℕ :=
  match seq with
  | some n => textSize (.int n)
  | none => 4

/-- what a line holds besides its type and its payload: keys and punctuation, sender, id, time and number -/
def frameSize (senderId messageId : String) (sentAt : Flt) (seq : Option ℤ) : ℕ :=
  86 + textSize (.str senderId) + textSize (.str messageId) + textSize (.float sentAt) + seqSize seq

theorem size_toLine (type : MessageType) (payload : Json) (senderId messageId : String) (seq : Option ℤ) (sentAt : Flt) :
    ((Envelope.make type payload senderId seq messageId).toLine sentAt).utf8ByteSize =
      textSize (.str type.value) + textSize payload + frameSize senderId messageId sentAt seq + 1 := by
  have hkeys := size_envelopeKeys
  simp only [List.map_cons, List.map_nil, List.cons.injEq, and_true] at hkeys
  obtain ⟨h1, h2, h3, h4, h5, h6, h7⟩ := hkeys
  have hversion : textSize (.int PROTOCOL_VERSION) = 1 := by decide +kernel
  have hend : "\n".utf8ByteSize = 1 := rfl
  have hseq : textSize (Envelope.make type payload senderId seq messageId).seq = seqSize seq := by
    cases seq with
    | none => exact (by decide +kernel : textSize .null = 4)
    | some n => rfl
  rw [Envelope.toLine, String.utf8ByteSize_append, hend]
  change textSize _ + 1 = _
  rw [Json.textSize_obj (List.cons_ne_nil _ _)]
  simp only [Json.fieldsSize, List.map_cons, List.map_nil, List.sum_cons, List.sum_nil, h1, h2, h3, h4, h5, h6, h7, hseq,
    hversion, frameSize]
  simp only [Envelope.make]
  omega

/-- what the payload of a raw message holds besides its base64 text -/
def rawSize (msgId : ℤ) (sequence : ℕ) (epoch : Option ℤ) : ℕ :=
  40 + textSize (.int msgId) + textSize (.int sequence) +
    match epoch with
    | some e => 9 + textSize (.int e)
    | none => 0

theorem size_rawPayload (msgId : ℤ) (sequence : ℕ) (raw : Bytes) (epoch : Option ℤ) :
    textSize (Host.rawPayload msgId sequence raw epoch) = rawSize msgId sequence epoch + 4 * ((raw.length + 2) / 3) := by
  have hkeys := size_payloadKeys
  simp only [List.map_cons, List.map_nil, List.cons.injEq, and_true] at hkeys
  obtain ⟨h1, h2, h3, h4, -, -⟩ := hkeys
  cases epoch with
  | none =>
    rw [Host.rawPayload, Json.textSize_obj (by simp)]
    simp only [Json.fieldsSize, List.map_cons, List.map_nil, List.sum_cons, List.sum_nil, List.append_nil, h1, h2, h3,
      Base64.textSize_b64encode, rawSize]
    omega
  | some e =>
    rw [Host.rawPayload, Json.textSize_obj (by simp)]
    simp only [Json.fieldsSize, List.cons_append, List.nil_append, List.map_cons, List.map_nil, List.sum_cons,
      List.sum_nil, h1, h2, h3, h4, Base64.textSize_b64encode, rawSize]
    omega

/-- what the payload of a chunk holds besides its base64 text -/
def chunkSize (sessionId : String) (index : ℕ) : ℕ := 41 + textSize (.str sessionId) + textSize (.int index)

theorem size_chunkPayload (sessionId : String) (index : ℕ) (raw : Bytes) :
    textSize (SaveSlot.chunkPayload sessionId index raw) = chunkSize sessionId index + 4 * ((raw.length + 2) / 3) := by
  have hkeys := size_payloadKeys
  simp only [List.map_cons, List.map_nil, List.cons.injEq, and_true] at hkeys
  obtain ⟨-, -, h3, -, h5, h6⟩ := hkeys
  rw [SaveSlot.chunkPayload, Json.textSize_obj (by simp)]
  simp only [Json.fieldsSize, List.map_cons, List.map_nil, List.sum_cons, List.sum_nil, h3, h5, h6,
    Base64.textSize_b64encode, chunkSize]
  omega

/-! ## What is received -/

/-- the line of a view update -/
def rawLine (senderId messageId : String) (sentAt : Flt) (seq : ℤ) (msgId : ℤ) (sequence : ℕ) (epoch : Option ℤ)
    (raw : Bytes) : String :=
  (Envelope.make .gameRawMessage (Host.rawPayload msgId sequence raw epoch) senderId (some seq) messageId).toLine sentAt

/-- the line of a message that goes to one peer -/
def peerLine (senderId messageId : String) (sentAt : Flt) (type : MessageType) (payload : Json) : String :=
  (Envelope.make type payload senderId none messageId).toLine sentAt

theorem received_rawLine (senderId messageId : String) (sentAt : Flt) (seq msgId : ℤ) (sequence : ℕ) (epoch : Option ℤ)
    (raw : Bytes) : Received (rawLine senderId messageId sentAt seq msgId sequence epoch raw) ↔
      18 + rawSize msgId sequence epoch + frameSize senderId messageId sentAt (some seq) + 4 * ((raw.length + 2) / 3) ≤
        READ_LIMIT := by
  have htype := size_types
  simp only [List.map_cons, List.map_nil, List.cons.injEq, and_true] at htype
  rw [received_iff, rawLine, size_toLine, size_rawPayload, htype.1]
  constructor
  · intro h
    omega
  · intro h
    omega

theorem received_chunkLine (senderId messageId sessionId : String) (sentAt : Flt) (index : ℕ) (raw : Bytes) :
    Received (peerLine senderId messageId sentAt .saveChunk (SaveSlot.chunkPayload sessionId index raw)) ↔
      12 + chunkSize sessionId index + frameSize senderId messageId sentAt none + 4 * ((raw.length + 2) / 3) ≤
        READ_LIMIT := by
  have htype := size_types
  simp only [List.map_cons, List.map_nil, List.cons.injEq, and_true] at htype
  rw [received_iff, peerLine, size_toLine, size_chunkPayload, htype.2]
  constructor
  · intro h
    omega
  · intro h
    omega

/-- **What is sent and what can be received.** Whoever sends at whatever time: a raw message that the host accepts reaches
its clients, and a chunk of the stream of a slot its receiver, exactly when four bytes for every three of its content and
the rest of the line are within the limit of the reader. -/
theorem received_lines (senderId messageId : String) (sentAt : Flt) :
    (∀ event msgId raw, Host.readRawMessage event = .ok (msgId, raw) → ∀ seq sequence epoch,
      (Received (rawLine senderId messageId sentAt seq msgId sequence epoch raw) ↔
        18 + rawSize msgId sequence epoch + frameSize senderId messageId sentAt (some seq) + 4 * ((raw.length + 2) / 3) ≤
          READ_LIMIT)) ∧
    (∀ slot sessionId size messages, SaveSlot.streamSaveTo slot sessionId size = .ok messages → ∀ index raw,
      (.saveChunk, SaveSlot.chunkPayload sessionId index raw) ∈ messages →
      (Received (peerLine senderId messageId sentAt .saveChunk (SaveSlot.chunkPayload sessionId index raw)) ↔
        12 + chunkSize sessionId index + frameSize senderId messageId sentAt none + 4 * ((raw.length + 2) / 3) ≤
          READ_LIMIT)) := by
  constructor
  · intro event msgId raw _ seq sequence epoch
    exact received_rawLine senderId messageId sentAt seq msgId sequence epoch raw
  · intro slot sessionId size messages _ index raw _
    exact received_chunkLine senderId messageId sessionId sentAt index raw

/-- a uuid as it stands in an envelope -/
def someUuid : String := "123e4567-e89b-42d3-a456-426614174000"

theorem received_lines_short : Received (rawLine "host" someUuid (.dec false 17 8) 1 7 1 none [65]) :=
  ((received_lines "host" someUuid (.dec false 17 8)).1 (.obj [("msg_id", .int 7), ("payload_b64", .str "QQ==")]) 7 [65]
    (by decide +kernel) 1 1 none).2 (by decide +kernel)

/-- a slot of 65536 zeros, with its SHA-256 -/
def zeroSlot : SaveSlot where
  slotId := "Slot_00000001"
  content := List.replicate 65536 0
  size := 65536
  modifiedAt := .dec false 17 8
  sha256 := "de2f256064a0af797747c2b97505dc0b9f3df0de4f489eac731c23ae9ca9cc31"

/-- The one chunk of this slot at the default chunk size is no line that its client can read. -/
theorem default_chunk_is_too_long : ∃ messages raw, zeroSlot.streamSaveTo "session" CHUNK_SIZE = .ok messages ∧
    (.saveChunk, SaveSlot.chunkPayload "session" 0 raw) ∈ messages ∧
    ¬ Received (peerLine "host" someUuid (.dec false 17 8) .saveChunk (SaveSlot.chunkPayload "session" 0 raw)) := by
  have hmanifest : ∃ manifest, zeroSlot.manifest "session" CHUNK_SIZE = .ok manifest := ⟨_, if_pos (by decide)⟩
  obtain ⟨manifest, hmanifest⟩ := hmanifest
  have hcount : zeroSlot.chunkCount CHUNK_SIZE = 1 := by decide
  have hlength : (zeroSlot.content.take CHUNK_SIZE).length = 65536 := by
    rw [List.length_take, zeroSlot, List.length_replicate]
    rfl
  refine ⟨_, zeroSlot.content.take CHUNK_SIZE, by rw [SaveSlot.streamSaveTo, hmanifest]; rfl, ?_, ?_⟩
  · rw [hcount]
    simp [SaveSlot.readChunks, SaveSlot.chunkMessages]
  · rw [received_chunkLine, hlength]
    decide +kernel

end KerMP
