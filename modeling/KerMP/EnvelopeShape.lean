/-
What `Envelope.from_line` makes of a line, for every line of bytes.

The callers drop a line on `ValueError` and read `type`, `sender_id` and `payload.get(...)` of what is returned.
`from_line` asks what it has read for its version before it knows that it is an object, hands all of its fields to the
constructor, and does not look at their types.

- `failsSafe_iff`: the lines that are refused by a `ValueError` or give an envelope of the right shape.
- `escaping_lines`: an array, an object with one more field, and an envelope whose payload is an array.
-/
import KerMP.WireEnvelopes

namespace KerMP

open Py
open Base64 (Bytes)

/-- `UnicodeDecodeError` and `JSONDecodeError` are `ValueError`s -/
def LineError.isValueError : LineError → Bool
  | .tooLarge | .decode | .json | .protocolMismatch _ | .malformed => true
  | .noDict | .unexpected _ => false

namespace RawEnvelope

/-! ## Shapes -/

def IsStr (v : Value) : Prop := ∃ text, v = .str text

def IsObj (v : Value) : Prop := ∃ fields, v = .obj fields

/-- what the callers rely on -/
structure WellShaped (env : RawEnvelope) : Prop where
  type : IsStr env.type
  senderId : IsStr env.senderId
  payload : IsObj env.payload

/-- a `ValueError`, or an envelope of the right shape -/
def FailsSafe : Except LineError RawEnvelope → Prop
  | .error e => e.isValueError = true
  | .ok env => env.WellShaped

instance : DecidablePred IsStr
  | .str text => isTrue ⟨text, rfl⟩
  | .null | .bool _ | .int _ | .float _ | .arr _ | .obj _ => isFalse (by rintro ⟨_, h⟩; cases h)

instance : DecidablePred IsObj
  | .obj fields => isTrue ⟨fields, rfl⟩
  | .null | .bool _ | .int _ | .float _ | .str _ | .arr _ => isFalse (by rintro ⟨_, h⟩; cases h)

instance (env : RawEnvelope) : Decidable env.WellShaped :=
  decidable_of_iff (IsStr env.type ∧ IsStr env.senderId ∧ IsObj env.payload)
    ⟨fun h => ⟨h.1, h.2.1, h.2.2⟩, fun h => ⟨h.type, h.senderId, h.payload⟩⟩

instance : DecidablePred FailsSafe
  | .error e => inferInstanceAs (Decidable (e.isValueError = true))
  | .ok env => inferInstanceAs (Decidable env.WellShaped)

def required : List Text := ["type", "payload", "sender_id", "message_id", "sent_at", "protocol_version"].map key

/-- what `from_line` checks of an object -/
structure Checked (raw : List (Text × Value)) : Prop where
  version : equalsInt ((raw.lookup (key "protocol_version")).getD .null) PROTOCOL_VERSION = true
  required : ∀ k ∈ required, (raw.lookup k).isSome

/-- what it does not check -/
structure Shaped (raw : List (Text × Value)) : Prop where
  known : ∀ kv ∈ raw, kv.1 ∈ fields
  type : ∀ v, raw.lookup (key "type") = some v → IsStr v
  senderId : ∀ v, raw.lookup (key "sender_id") = some v → IsStr v
  payload : ∀ v, raw.lookup (key "payload") = some v → IsObj v

/-- an object whose fields are not of the right shape does not pass the checks -/
def Acceptable (v : Value) : Prop := ∃ raw, v = .obj raw ∧ (Checked raw → Shaped raw)

theorem ofRaw_missing {raw : List (Text × Value)} (h : ¬ ∀ k ∈ required, (raw.lookup k).isSome) :
    ofRaw raw = .error .malformed := by
  unfold ofRaw
  split
  · rename_i h1 h2 h3 h4 h5 h6
    refine absurd ?_ h
    simp only [required, List.map_cons, List.map_nil, List.forall_mem_cons, h1, h2, h3, h4, h5, h6]
    simp
  · rfl

/-- an object with all required fields -/
theorem ofRaw_required {raw : List (Text × Value)} (h : ∀ k ∈ required, (raw.lookup k).isSome) :
    FailsSafe (ofRaw raw) ↔ Shaped raw := by
  have hsome : ∀ s, key s ∈ required → ∃ v, raw.lookup (key s) = some v := fun s hs =>
    Option.isSome_iff_exists.1 (h _ hs)
  obtain ⟨type, h1⟩ := hsome "type" (by decide)
  obtain ⟨payload, h2⟩ := hsome "payload" (by decide)
  obtain ⟨senderId, h3⟩ := hsome "sender_id" (by decide)
  obtain ⟨messageId, h4⟩ := hsome "message_id" (by decide)
  obtain ⟨sentAt, h5⟩ := hsome "sent_at" (by decide)
  obtain ⟨version, h6⟩ := hsome "protocol_version" (by decide)
  simp only [ofRaw, h1, h2, h3, h4, h5, h6]
  cases hfind : raw.find? fun kv => kv.1 ∉ fields with
  | some kv =>
    have hmem := List.mem_of_find?_eq_some hfind
    have hunknown := List.find?_some hfind
    refine iff_of_false (by simp [FailsSafe, LineError.isValueError]) fun hshaped => ?_
    simp [hshaped.known kv hmem] at hunknown
  | none =>
    have hknown : ∀ kv ∈ raw, kv.1 ∈ fields := fun kv hkv => by
      simpa using List.find?_eq_none.1 hfind kv hkv
    constructor
    · intro henv
      refine ⟨hknown, fun v hv => ?_, fun v hv => ?_, fun v hv => ?_⟩
      · cases h1.symm.trans hv
        exact henv.type
      · cases h3.symm.trans hv
        exact henv.senderId
      · cases h2.symm.trans hv
        exact henv.payload
    · exact fun hshaped => ⟨hshaped.type _ h1, hshaped.senderId _ h3, hshaped.payload _ h2⟩

/-! ## Lines -/

theorem failsSafe_fromText (text : List Char) :
    FailsSafe (fromText text) ↔ ∀ v, Value.loads text = some v → Acceptable v := by
  unfold fromText
  cases hloads : Value.loads text with
  | none => exact iff_of_true rfl fun v hv => by cases hv
  | some v =>
    have hread : (∀ v', some v = some v' → Acceptable v') ↔ Acceptable v :=
      ⟨fun h => h v rfl, fun h v' hv' => Option.some.inj hv' ▸ h⟩
    rw [hread]
    cases v with
    | obj raw =>
      have hacceptable : Acceptable (.obj raw) ↔ (Checked raw → Shaped raw) := by
        constructor
        · rintro ⟨raw', he, h⟩
          cases he
          exact h
        · exact fun h => ⟨raw, rfl, h⟩
      rw [hacceptable]
      dsimp only
      split_ifs with hversion
      · by_cases hrequired : ∀ k ∈ required, (raw.lookup k).isSome
        · rw [ofRaw_required hrequired]
          exact ⟨fun h _ => h, fun h => h ⟨hversion, hrequired⟩⟩
        · rw [ofRaw_missing hrequired]
          exact iff_of_true rfl fun h => absurd h.required hrequired
      · exact iff_of_true rfl fun h => absurd h.version hversion
    | _ =>
      refine iff_of_false (by simp [FailsSafe, LineError.isValueError]) fun h => ?_
      obtain ⟨_, he, -⟩ := h
      cases he

/-- what a line holds, when it is short enough and can be read -/
def content (line : Bytes) : Option Value :=
  if MAX_ENVELOPE_BYTES < line.length then none
  else line.toByteArray.utf8Decode?.bind fun text => Value.loads text.toList

/-- **Lines of bytes.** A line is refused by a `ValueError` or gives an envelope of the right shape exactly when what it
holds, if anything, is an object that is refused by the checks or has the right fields. -/
theorem failsSafe_iff (line : Bytes) :
    FailsSafe (fromLine (.bytes line)) ↔ ∀ v, content line = some v → Acceptable v := by
  have hnothing : ∀ {e : LineError}, e.isValueError = true → content line = none →
      (FailsSafe (.error e) ↔ ∀ v, content line = some v → Acceptable v) := by
    intro e he hnone
    refine iff_of_true he fun v hv => ?_
    rw [hnone] at hv
    cases hv
  unfold fromLine
  split_ifs with hlarge
  · exact hnothing rfl (if_pos hlarge)
  · change ¬ MAX_ENVELOPE_BYTES < line.length at hlarge
    dsimp only
    cases hdecode : line.toByteArray.utf8Decode? with
    | none => exact hnothing rfl (by rw [content, if_neg hlarge, hdecode]; rfl)
    | some text =>
      have hcontent : content line = Value.loads text.toList := by
        rw [content, if_neg hlarge, hdecode]
        rfl
      rw [hcontent]
      exact failsSafe_fromText text.toList

/-- the text of an envelope with a field in front and this payload -/
def envelopeText (extra payload : String) : List Char :=
  ("\x7b" ++ extra ++ "\"type\":\"ping\",\"payload\":" ++ payload ++
    ",\"sender_id\":\"p\",\"message_id\":\"m\",\"sent_at\":0,\"protocol_version\":2\x7d\n").toList

/-- what becomes of the line of a text -/
def outcome (text : List Char) : Except LineError RawEnvelope := fromLine (.bytes (text.flatMap String.utf8EncodeChar))

/-- An array has no `get`, the constructor has no such argument, and the payload is not an object. -/
theorem escaping_lines : ¬ FailsSafe (outcome ['[', ']']) ∧
    ¬ FailsSafe (outcome (envelopeText "\"x\":1," "\x7b\x7d")) ∧ ¬ FailsSafe (outcome (envelopeText "" "[]")) := by
  have hline : ∀ text : List Char, (text.flatMap String.utf8EncodeChar).length ≤ MAX_ENVELOPE_BYTES →
      outcome text = fromText text := fun text hsize => fromLine_encode text hsize
  refine ⟨?_, ?_, ?_⟩
  · rw [hline _ (by decide +kernel)]
    decide +kernel
  · rw [hline _ (by decide +kernel)]
    decide +kernel
  · rw [hline _ (by decide +kernel)]
    decide +kernel

end RawEnvelope

end KerMP
