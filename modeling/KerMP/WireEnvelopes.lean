/-
Lines on the wire (`Envelope.to_line` and `from_line` of `kermp/protocol.py`), for every text a peer may send.

`from_line` checks which fields there are and the version of the protocol, and nothing about the values: a field of a
`RawEnvelope` may be any JSON value. JSON text may escape half of a surrogate pair, so a decoded string need not be text
that UTF-8 can encode; and the text of a value may be longer than the one it was read from.

- `passed_on`: which of the envelopes that are received can be sent on, as one line that is received as the same
  envelope.
- `lone_surrogate`: an envelope that is received and cannot be sent.
- `toLine_ofEnvelope`: the lines of the sidecars themselves.
-/
import KerMP.Lib.RoundTrip
import KerMP.Lines

namespace KerMP

open Py
open Base64 (Bytes)

/-! ## Lines -/

/-- what `from_line` is given -/
inductive Line where
  | bytes (line : Bytes)
  | str (line : List Char)

/-- `len(line)` -/
def Line.length : Line → ℕ
  | .bytes line => line.length
  | .str line => line.length

/-- an envelope with any JSON value in its fields -/
structure RawEnvelope where
  type : Value
  payload : Value
  senderId : Value
  messageId : Value
  sentAt : Value
  seq : Value
  protocolVersion : Value

/-- what `from_line` raises -/
inductive LineError where
  /-- `ValueError("envelope_too_large")` -/
  | tooLarge
  /-- `UnicodeDecodeError` -/
  | decode
  /-- `JSONDecodeError`, and the `ValueError` of an int with too many digits -/
  | json
  /-- `AttributeError`: what was read has no `get` -/
  | noDict
  /-- `ValueError(f"protocol mismatch: \x7braw.get('protocol_version')\x7d != 2")` -/
  | protocolMismatch (got : Value)
  /-- `ValueError("malformed envelope")` -/
  | malformed
  /-- `TypeError`: an argument that `Envelope` does not have -/
  | unexpected (key : Text)

namespace RawEnvelope

def key (s : String) : Text := Text.ofChars s.toList

def fields : List Text :=
  ["type", "payload", "sender_id", "message_id", "sent_at", "seq", "protocol_version"].map key

/-- `v == n` -/
def equalsInt (v : Value) (n : ℤ) : Bool :=
  match v with
  | .bool b => (if b then 1 else 0) = n
  | .int m => m = n
  | .float x => x.toRat = some (n : ℚ)
  | _ => false

/-- `cls(**raw)`, behind the check for the required fields -/
def ofRaw (raw : List (Text × Value)) : Except LineError RawEnvelope :=
  match raw.lookup (key "type"), raw.lookup (key "payload"), raw.lookup (key "sender_id"), raw.lookup (key "message_id"),
    raw.lookup (key "sent_at"), raw.lookup (key "protocol_version") with
  | some type, some payload, some senderId, some messageId, some sentAt, some protocolVersion =>
    match raw.find? fun kv => kv.1 ∉ fields with
    | some kv => .error (.unexpected kv.1)
    | none => .ok ⟨type, payload, senderId, messageId, sentAt, (raw.lookup (key "seq")).getD .null, protocolVersion⟩
  | _, _, _, _, _, _ => .error .malformed

/-- `from_line` from `json.loads` on -/
def fromText (text : List Char) : Except LineError RawEnvelope :=
  match Value.loads text with
  | none => .error .json
  | some (.obj raw) =>
    let got := (raw.lookup (key "protocol_version")).getD .null
    if equalsInt got PROTOCOL_VERSION then ofRaw raw else .error (.protocolMismatch got)
  | some _ => .error .noDict

def fromLine (line : Line) : Except LineError RawEnvelope :=
  if MAX_ENVELOPE_BYTES < line.length then .error .tooLarge
  else
    match line with
    | .bytes line =>
      match line.toByteArray.utf8Decode? with
      | some text => fromText text.toList
      | none => .error .decode
    | .str line => fromText line

/-- `asdict(self)` -/
def asdict (env : RawEnvelope) : List (Text × Value) :=
  [(key "type", env.type), (key "payload", env.payload), (key "sender_id", env.senderId),
    (key "message_id", env.messageId), (key "sent_at", env.sentAt), (key "seq", env.seq),
    (key "protocol_version", env.protocolVersion)]

/-- `to_line`; none when the encoder raises -/
def toLine (env : RawEnvelope) : Option Bytes := ((Value.obj env.asdict).dumps ++ Text.ofChars ['\n']).encode?

/-! ## Sending on -/

/-- the envelope is sent as one line, which is received as the same envelope -/
def PassedOn (env : RawEnvelope) : Prop :=
  ∃ line, env.toLine = some (line ++ [10]) ∧ 10 ∉ line ∧ fromLine (.bytes (line ++ [10])) = .ok env

/-- no string in a field has a lone surrogate -/
def Clean (env : RawEnvelope) : Prop := ∀ kv ∈ env.asdict, Value.Clean kv.2

/-- the bytes of the line: the text of the fields and the line break -/
def size (env : RawEnvelope) : ℕ := (Value.obj env.asdict).size + 1

theorem nodup_fields : fields.Nodup := by decide

theorem clean_asdict (env : RawEnvelope) : Value.Clean (.obj env.asdict) ↔ env.Clean := by
  have hkeys : ∀ k ∈ fields, Text.Clean k := by decide
  rw [Value.clean_obj]
  exact ⟨fun h kv hkv => (h kv hkv).2, fun h kv hkv => ⟨hkeys kv.1 (List.mem_map_of_mem hkv), h kv hkv⟩⟩

/-- what a line is received as -/
theorem fromLine_encode (text : List Char) (hsize : (text.flatMap String.utf8EncodeChar).length ≤ MAX_ENVELOPE_BYTES) :
    fromLine (.bytes (text.flatMap String.utf8EncodeChar)) = fromText text := by
  have hdecode : (text.flatMap String.utf8EncodeChar).toByteArray.utf8Decode? = some text.toArray :=
    List.utf8Decode?_utf8Encode
  simp only [fromLine, Line.length, if_neg (not_lt.2 hsize), hdecode]

/-- the fields of what is received can be written, and the version is right -/
structure Received (env : RawEnvelope) : Prop where
  loaded : ∀ kv ∈ env.asdict, Value.Loaded kv.2
  version : equalsInt env.protocolVersion PROTOCOL_VERSION = true

theorem received_of_fromText {text : List Char} {env : RawEnvelope} (h : fromText text = .ok env) : Received env := by
  unfold fromText at h
  split at h
  · cases h
  · rename_i raw hloads
    dsimp only at h
    split_ifs at h with hversion
    have hraw : ∀ kv ∈ raw, Value.Loaded kv.2 := by
      cases Value.loaded_of_loads hloads with
      | obj _ h => exact h
    have hlookup : ∀ k v, raw.lookup k = some v → Value.Loaded v := fun k v hv => by
      obtain ⟨l, r, rfl, -⟩ := List.lookup_eq_some_iff.1 hv
      exact hraw (k, v) (by simp)
    unfold ofRaw at h
    split at h
    · rename_i type payload senderId messageId sentAt protocolVersion h1 h2 h3 h4 h5 h6
      split at h
      · cases h
      · cases h
        have hseq : Value.Loaded ((raw.lookup (key "seq")).getD .null) := by
          cases hseq : raw.lookup (key "seq") with
          | none => exact .null
          | some v => exact hlookup _ v hseq
        refine ⟨?_, by simpa [h6] using hversion⟩
        simp only [asdict, List.forall_mem_cons]
        exact ⟨hlookup _ _ h1, hlookup _ _ h2, hlookup _ _ h3, hlookup _ _ h4, hlookup _ _ h5, hseq, hlookup _ _ h6,
          by simp⟩
    · cases h
  · cases h

theorem received_of_fromLine {line : Line} {env : RawEnvelope} (h : fromLine line = .ok env) : Received env := by
  unfold fromLine at h
  split_ifs at h
  split at h
  · split at h
    · exact received_of_fromText h
    · cases h
  · exact received_of_fromText h

/-- fields that are written are read back as the envelope -/
theorem ofRaw_asdict (env : RawEnvelope) : ofRaw env.asdict = .ok env := by
  have hfind : env.asdict.find? (fun kv => kv.1 ∉ fields) = none := by
    rw [List.find?_eq_none]
    intro kv hkv
    have hmem : kv.1 ∈ fields := List.mem_map_of_mem (f := Prod.fst) hkv
    simp [hmem]
  have hlookup : env.asdict.lookup (key "type") = some env.type ∧ env.asdict.lookup (key "payload") = some env.payload ∧
      env.asdict.lookup (key "sender_id") = some env.senderId ∧ env.asdict.lookup (key "message_id") = some env.messageId ∧
      env.asdict.lookup (key "sent_at") = some env.sentAt ∧ env.asdict.lookup (key "seq") = some env.seq ∧
      env.asdict.lookup (key "protocol_version") = some env.protocolVersion := ⟨rfl, rfl, rfl, rfl, rfl, rfl, rfl⟩
  obtain ⟨h1, h2, h3, h4, h5, h6, h7⟩ := hlookup
  simp only [ofRaw, h1, h2, h3, h4, h5, h6, h7, hfind]
  rfl

theorem fromText_dumps {env : RawEnvelope} (hclean : env.Clean) (hreceived : Received env) :
    fromText ((Value.obj env.asdict).dumps.chars ++ ['\n']) = .ok env := by
  have hloads := Value.loads_dumps ((clean_asdict env).2 hclean) (.obj nodup_fields hreceived.loaded) ['\n'] rfl
  have hversion : env.asdict.lookup (key "protocol_version") = some env.protocolVersion := rfl
  simp only [fromText, hloads, hversion, Option.getD_some, hreceived.version, if_true]
  exact ofRaw_asdict env

/-- the line of an envelope that can be encoded -/
theorem toLine_clean {env : RawEnvelope} (hclean : env.Clean) :
    env.toLine = some ((Value.obj env.asdict).dumps.chars.flatMap String.utf8EncodeChar ++ [10]) := by
  have hdumps := (Value.clean_dumps _).2 ((clean_asdict env).2 hclean)
  have hnewline : String.utf8EncodeChar '\n' = [10] := by decide
  rw [toLine, Text.encode?, if_pos (Text.clean_append.2 ⟨hdumps, Text.clean_ofChars _⟩), Text.chars_append,
    Text.chars_ofChars, List.flatMap_append, List.flatMap_singleton, hnewline]

/-- **What can be sent on.** An envelope that was received is sent as one line, and received from it as it was, exactly
when no string in it has a lone surrogate and the line is not too large. -/
theorem passed_on (line : Line) (env : RawEnvelope) (h : fromLine line = .ok env) :
    PassedOn env ↔ env.Clean ∧ env.size ≤ MAX_ENVELOPE_BYTES := by
  have hreceived := received_of_fromLine h
  -- the bytes of the line are the characters of the text
  have hsize : env.Clean →
      ((Value.obj env.asdict).dumps.chars.flatMap String.utf8EncodeChar ++ [10]).length = env.size := fun hclean => by
    rw [List.length_append, Text.size_encode ((Value.clean_dumps _).2 ((clean_asdict env).2 hclean)), Value.size_dumps]
    rfl
  constructor
  · rintro ⟨out, hout, -, hback⟩
    have hclean : env.Clean := by
      rw [← clean_asdict, ← Value.clean_dumps]
      unfold toLine Text.encode? at hout
      split_ifs at hout with hencode
      exact (Text.clean_append.1 hencode).1
    refine ⟨hclean, ?_⟩
    have hsame := Option.some.inj (hout.symm.trans (toLine_clean hclean))
    rw [← hsize hclean, ← hsame]
    by_contra hlarge
    rw [fromLine, if_pos (by simpa [Line.length] using hlarge)] at hback
    cases hback
  · rintro ⟨hclean, hmax⟩
    have hnewline : String.utf8EncodeChar '\n' = [10] := by decide
    refine ⟨_, toLine_clean hclean, Value.newline_encode (Value.newline_dumps _), ?_⟩
    have htext : (Value.obj env.asdict).dumps.chars.flatMap String.utf8EncodeChar ++ [10] =
        ((Value.obj env.asdict).dumps.chars ++ ['\n']).flatMap String.utf8EncodeChar := by
      rw [List.flatMap_append, List.flatMap_singleton, hnewline]
    rw [htext, fromLine_encode, fromText_dumps hclean hreceived]
    rw [← htext, hsize hclean]
    exact hmax

/-! ## The lines of the sidecars -/

/-- an envelope as it is made and sent at the time `sentAt` -/
def ofEnvelope (e : Envelope) (sentAt : Flt) : RawEnvelope where
  type := .str (key e.type.value)
  payload := .ofJson e.payload
  senderId := .str (key e.senderId)
  messageId := .ofJson e.messageId
  sentAt := .float sentAt
  seq := .ofJson e.seq
  protocolVersion := .int PROTOCOL_VERSION

/-- such an envelope is sent as the text that `Envelope.toLine` has -/
theorem toLine_ofEnvelope (e : Envelope) (sentAt : Flt) :
    (ofEnvelope e sentAt).toLine = some ((e.toLine sentAt).toList.flatMap String.utf8EncodeChar) := by
  have hdumps : (Value.obj (ofEnvelope e sentAt).asdict).dumps ++ Text.ofChars ['\n'] =
      Text.ofChars (e.toLine sentAt).toList := by
    rw [Envelope.toLine, String.toList_append, Text.ofChars_append, ← Value.dumps_ofJson]
    rfl
  rw [toLine, hdumps, Text.encode?, if_pos (Text.clean_ofChars _), Text.chars_ofChars]

/-- a greeting -/
def greeting : RawEnvelope where
  type := .str (key "hello")
  payload := .obj [(key "x", .int 1)]
  senderId := .str (key "p")
  messageId := .str (key "m")
  sentAt := .int 0
  seq := .null
  protocolVersion := .int PROTOCOL_VERSION

theorem greeting_passed_on : PassedOn greeting := by
  refine (passed_on (.str (Value.obj greeting.asdict).dumps.chars) greeting (by rfl)).2 ⟨?_, by decide +kernel⟩
  have hpayload : Value.Clean greeting.payload :=
    Value.clean_obj.2 (by simpa [key] using Value.Clean.int 1)
  simp only [Clean, asdict, List.forall_mem_cons]
  exact ⟨.str (Text.clean_ofChars _), hpayload, .str (Text.clean_ofChars _), .str (Text.clean_ofChars _), .int 0, .null,
    .int PROTOCOL_VERSION, by simp⟩

/-- the state of a Sim whose name is half of a surrogate pair -/
def halfName : List Char :=
  ("\x7b\"type\":\"sim.state\",\"payload\":\x7b\"sims\":\x7b\"1\":\x7b\"name\":\"\\ud800\"\x7d\x7d\x7d," ++
    "\"sender_id\":\"player\",\"message_id\":\"m\",\"sent_at\":0,\"protocol_version\":2\x7d\n").toList

/-- **An envelope that is received and cannot be sent.** -/
theorem lone_surrogate : ¬ ∀ (line : Line) (env : RawEnvelope), fromLine line = .ok env → PassedOn env := by
  intro h
  have hsome : (match fromText halfName with | .ok env => env.toLine.isNone | .error _ => false) = true := by
    decide +kernel
  split at hsome
  · rename_i env henv
    have hsize : (halfName.flatMap String.utf8EncodeChar).length ≤ MAX_ENVELOPE_BYTES := by decide +kernel
    obtain ⟨line, hline, -⟩ := h (.bytes (halfName.flatMap String.utf8EncodeChar)) env
      ((fromLine_encode halfName hsize).trans henv)
    rw [hline] at hsome
    cases hsome
  · cases hsome

end RawEnvelope

end KerMP
