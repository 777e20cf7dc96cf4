/-
JSON text: `json.dumps(x, separators=(",", ":"), ensure_ascii=False)`, and how many bytes of UTF-8 it takes; and the text
of `json.dumps(x, sort_keys=True)` (`dumpsSorted`), with or without blanks (`canonical`).

A character that JSON must escape is written with a backslash, every other one as itself. `textSize` is the size of a
value's text; the size of a dict is the sum over its fields (`textSize_obj`), and text without escapes has the size it
has unquoted and two quotes more (`textSize_str`).
-/
import Mathlib.Algebra.GroupWithZero.Nat
import Mathlib.Data.String.Basic
import KerMP.Lib.Base64

namespace Py

/-- a character inside a JSON string -/
def escape (c : Char) : List Char :=
  if c = '"' then ['\\', '"']
  else if c = '\\' then ['\\', '\\']
  else if c = '\n' then ['\\', 'n']
  else if c = '\r' then ['\\', 'r']
  else if c = '\t' then ['\\', 't']
  else if c.toNat = 8 then ['\\', 'b']
  else if c.toNat = 12 then ['\\', 'f']
  else if c.toNat < 32 then ['\\', 'u', '0', '0', Nat.digitChar (c.toNat / 16), Nat.digitChar (c.toNat % 16)]
  else [c]

def dumpsStr (s : String) : String := "\"" ++ String.ofList (s.toList.flatMap escape) ++ "\""

/-- a float is written as its `repr`; nan and the infinities have names of their own -/
def Flt.dumps : Flt → String
  | .nan => "NaN"
  | .inf neg => if neg then "-Infinity" else "Infinity"
  | x => x.repr

namespace Json

mutual
def dumps : Json → String
  | .null => "null"
  | .bool b => if b then "true" else "false"
  | .int n => toString n
  | .float x => x.dumps
  | .str s => dumpsStr s
  | .arr xs => "[" ++ dumpsList xs ++ "]"
  | .obj kvs => "\x7b" ++ dumpsFields kvs ++ "\x7d"
def dumpsList : List Json → String
  | [] => ""
  | [x] => dumps x
  | x :: xs => dumps x ++ "," ++ dumpsList xs
def dumpsFields : List (String × Json) → String
  | [] => ""
  | [(k, v)] => dumpsStr k ++ ":" ++ dumps v
  | (k, v) :: kvs => dumpsStr k ++ ":" ++ dumps v ++ "," ++ dumpsFields kvs
end

/-- the bytes of a value's text -/
def textSize (j : Json) : ℕ := j.dumps.utf8ByteSize

/-- the bytes of the fields of a dict, with a comma after each -/
def fieldsSize (kvs : List (String × Json)) : ℕ :=
  (kvs.map fun e => (dumpsStr e.1).utf8ByteSize + textSize e.2 + 2).sum

theorem size_dumpsFields : ∀ kvs : List (String × Json), kvs ≠ [] → (dumpsFields kvs).utf8ByteSize + 1 = fieldsSize kvs
  | [(k, v)], _ => by
    simp only [dumpsFields, String.utf8ByteSize_append, fieldsSize, textSize, List.map_cons, List.map_nil, List.sum_cons,
      List.sum_nil, show ":".utf8ByteSize = 1 from rfl]
    omega
  | (k, v) :: e :: kvs, _ => by
    have ih := size_dumpsFields (e :: kvs) (List.cons_ne_nil _ _)
    simp only [fieldsSize, List.map_cons, List.sum_cons] at ih ⊢
    simp only [dumpsFields, String.utf8ByteSize_append, textSize, show ":".utf8ByteSize = 1 from rfl,
      show ",".utf8ByteSize = 1 from rfl] at ih ⊢
    omega

theorem textSize_obj {kvs : List (String × Json)} (h : kvs ≠ []) : textSize (.obj kvs) = fieldsSize kvs + 1 := by
  rw [← size_dumpsFields kvs h, textSize, dumps, String.utf8ByteSize_append, String.utf8ByteSize_append]
  have hopen : "\x7b".utf8ByteSize = 1 := rfl
  have hclose : "\x7d".utf8ByteSize = 1 := rfl
  omega

/-- text that needs no escapes and no more than a byte for each character -/
theorem textSize_str {s : String} (h : ∀ c ∈ s.toList, escape c = [c] ∧ c.utf8Size = 1) :
    textSize (.str s) = s.toList.length + 2 := by
  have hsame : s.toList.flatMap escape = s.toList := by
    rw [List.flatMap_congr fun c hc => (h c hc).1, List.flatMap_singleton']
  have hsize : ∀ l : List Char, (∀ c ∈ l, c.utf8Size = 1) → String.utf8Len l = l.length := by
    intro l hl
    induction l with
    | nil => rfl
    | cons c l ih =>
      have hrest := ih fun x hx => hl x (List.mem_cons_of_mem c hx)
      rw [String.utf8Len_cons, hrest, hl c List.mem_cons_self, List.length_cons]
  have hquote : "\"".utf8ByteSize = 1 := rfl
  have htext : (String.ofList s.toList).utf8ByteSize = s.toList.length :=
    (String.utf8ByteSize_ofList s.toList).trans (hsize _ fun c hc => (h c hc).2)
  rw [textSize, dumps, dumpsStr, hsame, String.utf8ByteSize_append, String.utf8ByteSize_append, htext]
  omega

/-! ## Sorted keys -/

mutual
/-- the fields of every dict in the order of their keys -/
def sortKeys : Json → Json
  | .arr xs => .arr (sortKeysList xs)
  | .obj kvs => .obj ((sortKeysFields kvs).mergeSort fun a b => a.1 ≤ b.1)
  | j => j
def sortKeysList : List Json → List Json
  | [] => []
  | x :: xs => sortKeys x :: sortKeysList xs
def sortKeysFields : List (String × Json) → List (String × Json)
  | [] => []
  | (k, v) :: kvs => (k, sortKeys v) :: sortKeysFields kvs
end

/-- a UTF-16 code unit as an escape -/
def escapeUnit (n : ℕ) : List Char :=
  ['\\', 'u', Nat.digitChar (n / 4096 % 16), Nat.digitChar (n / 256 % 16), Nat.digitChar (n / 16 % 16),
    Nat.digitChar (n % 16)]

/-- a character inside a JSON string of ASCII text -/
def escapeAscii (c : Char) : List Char :=
  if c.toNat < 127 then escape c
  else if c.toNat < 65536 then escapeUnit c.toNat
  else escapeUnit (55296 + (c.toNat - 65536) / 1024) ++ escapeUnit (56320 + (c.toNat - 65536) % 1024)

def dumpsAsciiStr (s : String) : String := "\"" ++ String.ofList (s.toList.flatMap escapeAscii) ++ "\""

mutual
/-- `json.dumps(x)`: ASCII text, with a blank after each separator -/
def dumpsAscii : Json → String
  | .null => "null"
  | .bool b => if b then "true" else "false"
  | .int n => toString n
  | .float x => x.dumps
  | .str s => dumpsAsciiStr s
  | .arr xs => "[" ++ dumpsAsciiList xs ++ "]"
  | .obj kvs => "\x7b" ++ dumpsAsciiFields kvs ++ "\x7d"
def dumpsAsciiList : List Json → String
  | [] => ""
  | [x] => dumpsAscii x
  | x :: xs => dumpsAscii x ++ ", " ++ dumpsAsciiList xs
def dumpsAsciiFields : List (String × Json) → String
  | [] => ""
  | [(k, v)] => dumpsAsciiStr k ++ ": " ++ dumpsAscii v
  | (k, v) :: kvs => dumpsAsciiStr k ++ ": " ++ dumpsAscii v ++ ", " ++ dumpsAsciiFields kvs
end

mutual
/-- `json.dumps(x, separators=(comma, colon))` -/
def dumpsSeparated (comma colon : String) : Json → String
  | .arr xs => "[" ++ dumpsSeparatedList comma colon xs ++ "]"
  | .obj kvs => "\x7b" ++ dumpsSeparatedFields comma colon kvs ++ "\x7d"
  | j => dumpsAscii j
def dumpsSeparatedList (comma colon : String) : List Json → String
  | [] => ""
  | [x] => dumpsSeparated comma colon x
  | x :: xs => dumpsSeparated comma colon x ++ comma ++ dumpsSeparatedList comma colon xs
def dumpsSeparatedFields (comma colon : String) : List (String × Json) → String
  | [] => ""
  | [(k, v)] => dumpsAsciiStr k ++ colon ++ dumpsSeparated comma colon v
  | (k, v) :: kvs => dumpsAsciiStr k ++ colon ++ dumpsSeparated comma colon v ++ comma ++
      dumpsSeparatedFields comma colon kvs
end

/-- `json.dumps(x, sort_keys=True)` -/
def dumpsSorted (j : Json) : String := j.sortKeys.dumpsAscii

/-- `json.dumps(x, sort_keys=True, separators=(",", ":"))` -/
def canonical (j : Json) : String := j.sortKeys.dumpsSeparated "," ":"

end Json

end Py

namespace Base64

open Py

theorem length_encodeChars (raw : Bytes) : (encodeChars raw).length = 4 * ((raw.length + 2) / 3) := by
  induction raw using encodeChars.induct with
  | case1 => rfl
  | case2 a => simp [encodeChars]
  | case3 a b => simp [encodeChars]
  | case4 a b c rest ih =>
    simp only [encodeChars, List.length_cons, ih]
    omega

theorem sextet_plain (n : Fin 64) : escape (sextet n) = [sextet n] ∧ (sextet n).utf8Size = 1 := by
  revert n
  decide

/-- base64 text is sent as it is -/
theorem textSize_b64encode (raw : Bytes) : Json.textSize (.str (b64encode raw)) = 4 * ((raw.length + 2) / 3) + 2 := by
  rw [Json.textSize_str, b64encode, String.toList_ofList, length_encodeChars]
  intro c hc
  rw [b64encode, String.toList_ofList] at hc
  rcases value_pad_or_sextet hc with rfl | ⟨n, hn, rfl⟩
  · decide
  · exact sextet_plain ⟨n, hn⟩

end Base64
