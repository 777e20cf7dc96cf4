/-
JSON text and the values it stands for: `json.loads`, and `json.dumps(x, separators=(",", ":"), ensure_ascii=False)`.

A Python str is a sequence of code points, and an escape in JSON text may name half of a surrogate pair: such a `Point`
is no character. `Value` is what `json.loads` returns, with strings of points. Text that comes off a wire has been
decoded and consists of characters; text that is written may contain lone surrogates, which UTF-8 does not encode.

The text of a `JSONDecodeError` is not modelled: `loads` answers `none` to whatever it refuses. `parseValue` has fuel
for two calls a character.

- `clean_dumps`: the text of a value can be encoded exactly when no string in it has a lone surrogate.
- `loaded_of_loads`: what a text stands for has distinct keys, and floats and ints that can be written.
- `parseValue_fuel`: more fuel changes nothing.
-/
import Mathlib.Data.List.TakeWhile
import KerMP.Lib.Double
import KerMP.Lib.Dumps

namespace Py

/-! ## Values -/

/-- a code point: a character, or the surrogate `U+D800 + n` -/
inductive Point where
  | scalar (c : Char)
  | surrogate (n : Fin 2048)
deriving DecidableEq

abbrev Text := List Point

namespace Point

/-- `chr(n)` -/
def ofNat (n : ℕ) : Point :=
  if h : 0xD800 ≤ n ∧ n < 0xE000 then .surrogate ⟨n - 0xD800, by omega⟩ else .scalar (Char.ofNat n)

def char? : Point → Option Char
  | .scalar c => some c
  | .surrogate _ => none

end Point

namespace Text

def ofChars (cs : List Char) : Text := cs.map Point.scalar

/-- the characters of a text, without its surrogates -/
def chars (t : Text) : List Char := t.filterMap Point.char?

/-- no lone surrogate -/
def Clean (t : Text) : Prop := ∀ p ∈ t, p.char?.isSome

instance (t : Text) : Decidable t.Clean := inferInstanceAs (Decidable (∀ p ∈ t, p.char?.isSome))

@[simp] theorem chars_ofChars (cs : List Char) : chars (ofChars cs) = cs := by
  simp [chars, ofChars, List.filterMap_map, Function.comp_def, Point.char?]

theorem ofChars_append (cs ds : List Char) : ofChars (cs ++ ds) = ofChars cs ++ ofChars ds := List.map_append

@[simp] theorem chars_append (s t : Text) : chars (s ++ t) = chars s ++ chars t := List.filterMap_append

@[simp] theorem clean_append {s t : Text} : Clean (s ++ t) ↔ Clean s ∧ Clean t := List.forall_mem_append

@[simp] theorem clean_ofChars (cs : List Char) : Clean (ofChars cs) := by
  intro p hp
  obtain ⟨c, -, rfl⟩ := List.mem_map.1 hp
  rfl

end Text

/-- what `json.loads` returns -/
inductive Value where
  | null
  | bool (b : Bool)
  | int (n : ℤ)
  | float (x : Flt)
  | str (s : Text)
  | arr (xs : List Value)
  | obj (kvs : List (Text × Value))

namespace Value

/-- induction on a value, by its elements and its fields -/
theorem induct {P : Value → Prop} (null : P .null) (bool : ∀ b, P (.bool b)) (int : ∀ n, P (.int n))
    (float : ∀ x, P (.float x)) (str : ∀ s, P (.str s)) (arr : ∀ xs, (∀ x ∈ xs, P x) → P (.arr xs))
    (obj : ∀ kvs : List (Text × Value), (∀ kv ∈ kvs, P kv.2) → P (.obj kvs)) (v : Value) : P v :=
  @Value.rec P (fun xs => ∀ x ∈ xs, P x) (fun kvs => ∀ kv ∈ kvs, P kv.2) (fun kv => P kv.2)
    null bool int float str arr obj (by simp) (fun x xs hx hxs => List.forall_mem_cons.2 ⟨hx, hxs⟩) (by simp)
    (fun kv kvs hkv hkvs => List.forall_mem_cons.2 ⟨hkv, hkvs⟩) (fun _ _ h => h) v

/-! ## Writing -/

/-- an int in decimal -/
def intText (n : ℤ) : List Char := (if n < 0 then ['-'] else []) ++ Nat.toDigits 10 n.natAbs

/-- a point inside a JSON string; a surrogate is written as it is -/
def escape : Point → Text
  | .scalar c => Text.ofChars (Py.escape c)
  | .surrogate n => [.surrogate n]

def dumpsStr (s : Text) : Text := Text.ofChars ['"'] ++ s.flatMap escape ++ Text.ofChars ['"']

mutual
def dumps : Value → Text
  | .null => Text.ofChars "null".toList
  | .bool b => Text.ofChars (if b then "true" else "false").toList
  | .int n => Text.ofChars (intText n)
  | .float x => Text.ofChars x.dumps.toList
  | .str s => dumpsStr s
  | .arr xs => Text.ofChars ['['] ++ dumpsList xs ++ Text.ofChars [']']
  | .obj kvs => Text.ofChars ['\x7b'] ++ dumpsFields kvs ++ Text.ofChars ['\x7d']
def dumpsList : List Value → Text
  | [] => []
  | [x] => dumps x
  | x :: xs => dumps x ++ Text.ofChars [','] ++ dumpsList xs
def dumpsFields : List (Text × Value) → Text
  | [] => []
  | [(k, v)] => dumpsStr k ++ Text.ofChars [':'] ++ dumps v
  | (k, v) :: kvs => dumpsStr k ++ Text.ofChars [':'] ++ dumps v ++ Text.ofChars [','] ++ dumpsFields kvs
end

/-- no string in the value, and no key, has a lone surrogate -/
inductive Clean : Value → Prop
  | null : Clean .null
  | bool (b : Bool) : Clean (.bool b)
  | int (n : ℤ) : Clean (.int n)
  | float (x : Flt) : Clean (.float x)
  | str {s : Text} (h : s.Clean) : Clean (.str s)
  | arr {xs : List Value} (h : ∀ x ∈ xs, Clean x) : Clean (.arr xs)
  | obj {kvs : List (Text × Value)} (hkeys : ∀ kv ∈ kvs, kv.1.Clean) (h : ∀ kv ∈ kvs, Clean kv.2) : Clean (.obj kvs)

theorem clean_arr {xs : List Value} : Clean (.arr xs) ↔ ∀ x ∈ xs, Clean x :=
  ⟨fun h => by cases h; assumption, .arr⟩

theorem clean_obj {kvs : List (Text × Value)} : Clean (.obj kvs) ↔ ∀ kv ∈ kvs, kv.1.Clean ∧ Clean kv.2 :=
  ⟨fun h kv hkv => by cases h with | obj hkeys h => exact ⟨hkeys kv hkv, h kv hkv⟩,
    fun h => .obj (fun kv hkv => (h kv hkv).1) fun kv hkv => (h kv hkv).2⟩

theorem clean_escape (p : Point) : Text.Clean (escape p) ↔ p.char?.isSome := by
  cases p with
  | scalar c => simp [escape, Point.char?]
  | surrogate n => simp [escape, Text.Clean]

theorem clean_dumpsStr (s : Text) : (dumpsStr s).Clean ↔ s.Clean := by
  have hbody : Text.Clean (s.flatMap escape) ↔ s.Clean := by
    induction s with
    | nil => exact Iff.rfl
    | cons p s ih =>
      rw [List.flatMap_cons, Text.clean_append, ih, clean_escape, Text.Clean, Text.Clean, List.forall_mem_cons]
  simp [dumpsStr, hbody]

/-- **What can be encoded.** Text has no lone surrogate exactly when no string of the value has one. -/
theorem clean_dumps (v : Value) : (dumps v).Clean ↔ Clean v := by
  induction v using Value.induct with
  | null => exact iff_of_true (Text.clean_ofChars _) .null
  | bool b => exact iff_of_true (Text.clean_ofChars _) (.bool b)
  | int n => exact iff_of_true (Text.clean_ofChars _) (.int n)
  | float x => exact iff_of_true (Text.clean_ofChars _) (.float x)
  | str s =>
    rw [dumps, clean_dumpsStr]
    exact ⟨.str, fun h => by cases h; assumption⟩
  | arr xs ih =>
    have hlist : (dumpsList xs).Clean ↔ ∀ x ∈ xs, Clean x := by
      induction xs with
      | nil => simp [dumpsList, Text.Clean]
      | cons x xs ihxs =>
        have hrest := ihxs fun y hy => ih y (List.mem_cons_of_mem x hy)
        have hx := ih x List.mem_cons_self
        cases xs with
        | nil => simp [dumpsList, hx]
        | cons y ys =>
          simp only [dumpsList, Text.clean_append, hx, hrest, Text.clean_ofChars, and_true, List.forall_mem_cons]
    simp [dumps, hlist, clean_arr]
  | obj kvs ih =>
    have hfields : (dumpsFields kvs).Clean ↔ ∀ kv ∈ kvs, kv.1.Clean ∧ Clean kv.2 := by
      induction kvs with
      | nil => simp [dumpsFields, Text.Clean]
      | cons kv kvs ihkvs =>
        have hrest := ihkvs fun y hy => ih y (List.mem_cons_of_mem kv hy)
        have hkv := ih kv List.mem_cons_self
        cases kvs with
        | nil => simp [dumpsFields, clean_dumpsStr, hkv]
        | cons y ys =>
          simp only [dumpsFields, Text.clean_append, clean_dumpsStr, hkv, hrest, Text.clean_ofChars, and_true,
            List.forall_mem_cons]
    simp [dumps, hfields, clean_obj]

/-! ## Reading -/

def isBlank (c : Char) : Bool := c = ' ' || c = '\t' || c = '\n' || c = '\r'

def skipBlanks (cs : List Char) : List Char := cs.dropWhile isBlank

def hexDigit? (c : Char) : Option ℕ :=
  if c.isDigit then some (c.toNat - 48)
  else if 'a'.toNat ≤ c.toNat ∧ c.toNat ≤ 'f'.toNat then some (c.toNat - 87)
  else if 'A'.toNat ≤ c.toNat ∧ c.toNat ≤ 'F'.toNat then some (c.toNat - 55)
  else none

/-- four hex digits -/
def hex4 : List Char → Option (ℕ × List Char)
  | a :: b :: c :: d :: cs => do
    let a ← hexDigit? a
    let b ← hexDigit? b
    let c ← hexDigit? c
    let d ← hexDigit? d
    return (((a * 16 + b) * 16 + c) * 16 + d, cs)
  | _ => none

/-- what follows `\\u`: a high surrogate takes the low one behind it -/
def scanUnicode (cs : List Char) : Option (Point × List Char) := do
  let (a, cs) ← hex4 cs
  if 0xD800 ≤ a ∧ a < 0xDC00 then
    match cs with
    | '\\' :: 'u' :: rest => do
      let (b, rest) ← hex4 rest
      if 0xDC00 ≤ b ∧ b < 0xE000 then return (.ofNat (0x10000 + (a - 0xD800) * 0x400 + (b - 0xDC00)), rest)
      else return (.ofNat a, cs)
    | _ => return (.ofNat a, cs)
  else return (.ofNat a, cs)

/-- the characters that may follow a backslash, but for `u` -/
def backslashed : List (Char × ℕ) :=
  [('"', 34), ('\\', 92), ('/', 47), ('b', 8), ('f', 12), ('n', 10), ('r', 13), ('t', 9)]

/-- one point of a string; control characters must be escaped -/
def scanPoint : List Char → Option (Point × List Char)
  | '\\' :: 'u' :: cs => scanUnicode cs
  | '\\' :: c :: cs => (backslashed.lookup c).map fun n => (.ofNat n, cs)
  | c :: cs => if c.toNat < 32 then none else some (.scalar c, cs)
  | [] => none

/-- the rest of a string, behind its opening quote -/
def scanString : ℕ → List Char → Option (Text × List Char)
  | _, '"' :: cs => some ([], cs)
  | 0, _ => none
  | n + 1, cs => do
    let (p, cs) ← scanPoint cs
    let (s, cs) ← scanString n cs
    return (p :: s, cs)

/-- `-?(0|[1-9]\d*)` without the sign -/
def scanInt : List Char → Option (List Char × List Char)
  | '0' :: cs => some (['0'], cs)
  | cs => if (cs.takeWhile Char.isDigit).isEmpty then none else some (cs.span Char.isDigit)

/-- `(\.\d+)?` -/
def scanFrac : List Char → Option (List Char × List Char)
  | '.' :: cs => if (cs.takeWhile Char.isDigit).isEmpty then none else some (cs.span Char.isDigit)
  | _ => none

/-- the digits of an exponent, with their sign -/
def scanExpDigits (neg : Bool) (cs : List Char) : Option (ℤ × List Char) :=
  if (cs.takeWhile Char.isDigit).isEmpty then none
  else
    let n : ℤ := Nat.ofDigitChars 10 (cs.takeWhile Char.isDigit) 0
    some (if neg then -n else n, cs.dropWhile Char.isDigit)

/-- `([eE][-+]?\d+)?` -/
def scanExp : List Char → Option (ℤ × List Char)
  | c :: cs =>
    if c = 'e' ∨ c = 'E' then
      match cs with
      | '-' :: cs => scanExpDigits true cs
      | '+' :: cs => scanExpDigits false cs
      | cs => scanExpDigits false cs
    else none
  | [] => none

/-- `sys.int_info.default_max_str_digits` -/
def INT_MAX_STR_DIGITS : ℕ := 4300

/-- a number without its sign: an int unless it has a fraction or an exponent -/
def scanUnsigned (neg : Bool) (cs : List Char) : Option (Value × List Char) := do
  let (digits, cs) ← scanInt cs
  match scanFrac cs, scanExp cs with
  | none, none =>
    if INT_MAX_STR_DIGITS < digits.length then none
    else
      let n : ℤ := Nat.ofDigitChars 10 digits 0
      return (.int (if neg then -n else n), cs)
  | none, some (e, rest) => return (.float (.ofDecimal neg (Nat.ofDigitChars 10 digits 0) e), rest)
  | some (frac, rest), _ =>
    let (e, rest) := (scanExp rest).getD (0, rest)
    return (.float (.ofDecimal neg (Nat.ofDigitChars 10 (digits ++ frac) 0) (e - frac.length)), rest)

def scanNumber : List Char → Option (Value × List Char)
  | '-' :: cs => scanUnsigned true cs
  | cs => scanUnsigned false cs

/-- the names -/
def literals : List (List Char × Value) :=
  [("null".toList, .null), ("true".toList, .bool true), ("false".toList, .bool false), ("NaN".toList, .float .nan),
    ("Infinity".toList, .float (.inf false)), ("-Infinity".toList, .float (.inf true))]

def scanScalar (cs : List Char) : Option (Value × List Char) :=
  match literals.find? fun l => l.1.isPrefixOf cs with
  | some l => some (l.2, cs.drop l.1.length)
  | none => scanNumber cs

/-- `d[k] = v`: in place, or at the end -/
def setField (kvs : List (Text × Value)) (k : Text) (v : Value) : List (Text × Value) :=
  if (kvs.map Prod.fst).contains k then kvs.map fun kv => if kv.1 = k then (k, v) else kv else kvs ++ [(k, v)]

/-- a dict from its fields as they are read: a later one with the same key wins -/
def ofFields (kvs : List (Text × Value)) : Value := .obj (kvs.foldl (fun d kv => setField d kv.1 kv.2) [])

mutual
def parseValue : ℕ → List Char → Option (Value × List Char)
  | n + 1, c :: cs =>
    if c = '"' then (scanString cs.length cs).map fun r => (.str r.1, r.2)
    else if c = '[' then
      match skipBlanks cs with
      | ']' :: rest => some (.arr [], rest)
      | rest => (parseList n rest).map fun r => (.arr r.1, r.2)
    else if c = '\x7b' then
      match skipBlanks cs with
      | '\x7d' :: rest => some (.obj [], rest)
      | rest => (parseFields n rest).map fun r => (ofFields r.1, r.2)
    else scanScalar (c :: cs)
  | _, _ => none
/-- elements, up to the closing bracket -/
def parseList : ℕ → List Char → Option (List Value × List Char)
  | n + 1, cs => do
    let (x, cs) ← parseValue n cs
    match skipBlanks cs with
    | ']' :: rest => return ([x], rest)
    | ',' :: rest => do
      let (xs, rest) ← parseList n (skipBlanks rest)
      return (x :: xs, rest)
    | _ => none
  | 0, _ => none
/-- fields, up to the closing brace -/
def parseFields : ℕ → List Char → Option (List (Text × Value) × List Char)
  | n + 1, '"' :: cs => do
    let (k, cs) ← scanString cs.length cs
    match skipBlanks cs with
    | ':' :: cs => do
      let (v, cs) ← parseValue n (skipBlanks cs)
      match skipBlanks cs with
      | '\x7d' :: rest => return ([(k, v)], rest)
      | ',' :: rest => do
        let (kvs, rest) ← parseFields n (skipBlanks rest)
        return ((k, v) :: kvs, rest)
      | _ => none
    | _ => none
  | _, _ => none
end

/-- `json.loads` -/
def loads (cs : List Char) : Option Value :=
  match parseValue (2 * cs.length + 1) (skipBlanks cs) with
  | some (v, rest) => if (skipBlanks rest).isEmpty then some v else none
  | none => none

/-! ## Steps of the parser -/

theorem scanString_succ {n : ℕ} {cs : List Char} (h : cs.head? ≠ some '"') :
    scanString (n + 1) cs = (scanPoint cs).bind fun r => (scanString n r.2).map fun t => (r.1 :: t.1, t.2) := by
  conv_lhs => unfold scanString
  split
  · exact absurd rfl h
  · rename_i heq _
    cases heq
  · rename_i cs _ _ _ heq _
    cases heq
    cases scanPoint cs with
    | none => rfl
    | some r => cases hr : scanString n r.2 <;> simp [hr]

/-- the first character of a name or a number -/
structure Plain (c : Char) : Prop where
  blank : isBlank c = false
  quote : c ≠ '"'
  bracket : c ≠ '['
  brace : c ≠ '\x7b'
  close : c ≠ ']'

theorem literals_plain : ∀ l ∈ literals, ∃ c t, l.1 = c :: t ∧ Plain c := by
  intro l hl
  simp only [literals, List.mem_cons, List.not_mem_nil, or_false] at hl
  rcases hl with rfl | rfl | rfl | rfl | rfl | rfl
  all_goals exact ⟨_, _, rfl, by constructor <;> decide⟩

/-! ## What text stands for -/

/-- a float that text can stand for -/
def IsRead (x : Flt) : Prop := x = .nan ∨ (∃ neg, x = .inf neg) ∨ ∃ neg d e, x = .ofDecimal neg d e

variable {ds : List Char}

/-- ints that are not too long, floats that text can stand for, distinct keys -/
inductive Loaded : Value → Prop
  | null : Loaded .null
  | bool (b : Bool) : Loaded (.bool b)
  | int {n : ℤ} (h : (Nat.toDigits 10 n.natAbs).length ≤ INT_MAX_STR_DIGITS) : Loaded (.int n)
  | float {x : Flt} (h : IsRead x) : Loaded (.float x)
  | str (s : Text) : Loaded (.str s)
  | arr {xs : List Value} (h : ∀ x ∈ xs, Loaded x) : Loaded (.arr xs)
  | obj {kvs : List (Text × Value)} (hkeys : (kvs.map Prod.fst).Nodup) (h : ∀ kv ∈ kvs, Loaded kv.2) : Loaded (.obj kvs)

theorem ofDigitChars_lt (hd : ∀ c ∈ ds, c.isDigit = true) (init : ℕ) :
    Nat.ofDigitChars 10 ds init < 10 ^ ds.length * (init + 1) := by
  induction ds generalizing init with
  | nil => simp
  | cons c ds ih =>
    obtain ⟨hc, hds⟩ := List.forall_mem_cons.1 hd
    have hdigit : c.toNat - '0'.toNat < 10 := by
      have hrange := Char.isDigit_iff_toNat.1 hc
      have hzero : '0'.toNat = 48 := rfl
      have hnine : '9'.toNat = 57 := rfl
      omega
    rw [Nat.ofDigitChars_cons, List.length_cons, pow_succ, mul_assoc]
    exact (ih hds _).trans_le (Nat.mul_le_mul_left _ (by omega))

theorem scanInt_some {cs digits rest : List Char} (h : scanInt cs = some (digits, rest)) :
    (∀ c ∈ digits, c.isDigit = true) ∧ digits ≠ [] := by
  unfold scanInt at h
  split at h
  · cases h
    exact ⟨by simp, by simp⟩
  · split_ifs at h with hempty
    rw [List.span_eq_takeWhile_dropWhile] at h
    cases h
    exact ⟨fun c hc => List.all_eq_true.1 List.all_takeWhile c hc, by simpa using hempty⟩

theorem loaded_scanUnsigned {neg : Bool} {cs : List Char} {a : Value × List Char} (h : scanUnsigned neg cs = some a) :
    Loaded a.1 := by
  obtain ⟨⟨digits, rest⟩, hint, h⟩ := Option.bind_eq_some_iff.1 h
  obtain ⟨hdigit, hne⟩ := scanInt_some hint
  dsimp only at h
  split at h
  · by_cases hmax : INT_MAX_STR_DIGITS < digits.length
    · rw [if_pos hmax] at h
      cases h
    rw [if_neg hmax] at h
    cases h
    refine .int ((Nat.length_toDigits_le_iff (by norm_num) (by norm_num [INT_MAX_STR_DIGITS])).2 ?_)
    have hlt := ofDigitChars_lt hdigit 0
    have hpow : 10 ^ digits.length ≤ 10 ^ INT_MAX_STR_DIGITS := Nat.pow_le_pow_right (by norm_num) (not_lt.1 hmax)
    have habs : (if neg then -(Nat.ofDigitChars 10 digits 0 : ℤ) else Nat.ofDigitChars 10 digits 0).natAbs =
        Nat.ofDigitChars 10 digits 0 := by split_ifs <;> simp
    rw [habs]
    omega
  · cases h
    exact .float (.inr (.inr ⟨_, _, _, rfl⟩))
  · cases h
    exact .float (.inr (.inr ⟨_, _, _, rfl⟩))

theorem loaded_literals : ∀ l ∈ literals, Loaded l.2 := by
  intro l hl
  simp only [literals, List.mem_cons, List.not_mem_nil, or_false] at hl
  rcases hl with rfl | rfl | rfl | rfl | rfl | rfl
  · exact .null
  · exact .bool true
  · exact .bool false
  · exact .float (.inl rfl)
  · exact .float (.inr (.inl ⟨_, rfl⟩))
  · exact .float (.inr (.inl ⟨_, rfl⟩))

theorem loaded_scanScalar {cs : List Char} {a : Value × List Char} (h : scanScalar cs = some a) : Loaded a.1 := by
  unfold scanScalar at h
  split at h
  · rename_i l hl
    cases h
    exact loaded_literals l (List.mem_of_find?_eq_some hl)
  · unfold scanNumber at h
    split at h <;> exact loaded_scanUnsigned h

section Fields

variable {kvs : List (Text × Value)} {k : Text} {v : Value}

theorem keys_setField : (setField kvs k v).map Prod.fst =
    if (kvs.map Prod.fst).contains k then kvs.map Prod.fst else kvs.map Prod.fst ++ [k] := by
  unfold setField
  split_ifs
  · rw [List.map_map]
    refine List.map_congr_left fun kv _ => ?_
    by_cases h : kv.1 = k <;> simp [h]
  · simp

theorem nodup_setField (h : (kvs.map Prod.fst).Nodup) : ((setField kvs k v).map Prod.fst).Nodup := by
  rw [keys_setField]
  split_ifs with hk
  · exact h
  · refine List.nodup_append.2 ⟨h, List.nodup_singleton k, fun a ha b hb he => hk ?_⟩
    rw [← List.mem_singleton.1 hb, ← he]
    exact List.contains_iff_mem.2 ha

theorem forall_setField {P : Value → Prop} (h : ∀ kv ∈ kvs, P kv.2) (hv : P v) : ∀ kv ∈ setField kvs k v, P kv.2 := by
  unfold setField
  split_ifs
  · intro kv hkv
    obtain ⟨kv', hkv', rfl⟩ := List.mem_map.1 hkv
    by_cases he : kv'.1 = k
    · simpa [he] using hv
    · simpa [he] using h kv' hkv'
  · exact List.forall_mem_append.2 ⟨h, by simpa using hv⟩

theorem loaded_ofFields (h : ∀ kv ∈ kvs, Loaded kv.2) : Loaded (ofFields kvs) := by
  have hfold : ∀ d : List (Text × Value), (d.map Prod.fst).Nodup → (∀ kv ∈ d, Loaded kv.2) →
      ((kvs.foldl (fun d kv => setField d kv.1 kv.2) d).map Prod.fst).Nodup ∧
        ∀ kv ∈ kvs.foldl (fun d kv => setField d kv.1 kv.2) d, Loaded kv.2 := by
    induction kvs with
    | nil => exact fun d hkeys hd => ⟨hkeys, hd⟩
    | cons kv kvs ih =>
      obtain ⟨hkv, hkvs⟩ := List.forall_mem_cons.1 h
      exact fun d hkeys hd => ih hkvs _ (nodup_setField hkeys) (forall_setField hd hkv)
  obtain ⟨hkeys, hvalues⟩ := hfold [] .nil (by simp)
  exact .obj hkeys hvalues

/-- distinct fields are kept as they are -/
theorem ofFields_nodup (h : (kvs.map Prod.fst).Nodup) : ofFields kvs = .obj kvs := by
  have hfold : ∀ d : List (Text × Value), ((d ++ kvs).map Prod.fst).Nodup →
      kvs.foldl (fun d kv => setField d kv.1 kv.2) d = d ++ kvs := by
    induction kvs with
    | nil => exact fun d _ => (List.append_nil d).symm
    | cons kv kvs ih =>
      intro d hd
      have hnew : (d.map Prod.fst).contains kv.1 = false := by
        rw [List.map_append, List.map_cons] at hd
        have hdisj := (List.nodup_append.1 hd).2.2
        by_contra hmem
        exact hdisj kv.1 (by simpa using hmem) kv.1 List.mem_cons_self rfl
      have happ : d ++ kv :: kvs = (d ++ [kv]) ++ kvs := by simp
      rw [happ] at hd ⊢
      rw [List.foldl_cons, setField, if_neg (by rw [hnew]; exact Bool.false_ne_true)]
      exact ih (List.nodup_cons.1 h).2 _ hd
  exact congrArg Value.obj (hfold [] (by simpa using h))

end Fields

/-- what is read is loaded, whether a value, elements or fields -/
theorem loaded_parse (n : ℕ) :
    (∀ cs a, parseValue n cs = some a → Loaded a.1) ∧ (∀ cs a, parseList n cs = some a → ∀ x ∈ a.1, Loaded x) ∧
      ∀ cs a, parseFields n cs = some a → ∀ kv ∈ a.1, Loaded kv.2 := by
  induction n with
  | zero =>
    refine ⟨?_, ?_, ?_⟩
    · intro cs a h
      cases cs <;> cases h
    · intro cs a h
      cases h
    · intro cs a h
      unfold parseFields at h
      cases h
  | succ n ih =>
    obtain ⟨ihvalue, ihlist, ihfields⟩ := ih
    refine ⟨?_, ?_, ?_⟩
    · intro cs a h
      cases cs with
      | nil => cases h
      | cons c cs =>
        rw [parseValue] at h
        split_ifs at h
        · obtain ⟨r, -, rfl⟩ := Option.map_eq_some_iff.1 h
          exact .str _
        · split at h
          · cases h
            exact .arr (by simp)
          · obtain ⟨r, hr, rfl⟩ := Option.map_eq_some_iff.1 h
            exact .arr (ihlist _ _ hr)
        · split at h
          · cases h
            exact .obj .nil (by simp)
          · obtain ⟨r, hr, rfl⟩ := Option.map_eq_some_iff.1 h
            exact loaded_ofFields (ihfields _ _ hr)
        · exact loaded_scanScalar h
    · intro cs a h
      unfold parseList at h
      obtain ⟨⟨x, rest⟩, hx, h⟩ := Option.bind_eq_some_iff.1 h
      have hloaded : Loaded x := ihvalue _ _ hx
      dsimp only at h
      split at h
      · cases h
        simpa using hloaded
      · obtain ⟨⟨xs, rest'⟩, hxs, h⟩ := Option.bind_eq_some_iff.1 h
        cases h
        exact List.forall_mem_cons.2 ⟨hloaded, ihlist _ _ hxs⟩
      · cases h
    · intro cs a h
      unfold parseFields at h
      split at h
      · rename_i heq
        cases heq
        obtain ⟨⟨k, rest⟩, -, h⟩ := Option.bind_eq_some_iff.1 h
        dsimp only at h
        split at h
        · obtain ⟨⟨v, rest'⟩, hv, h⟩ := Option.bind_eq_some_iff.1 h
          have hloaded : Loaded v := ihvalue _ _ hv
          dsimp only at h
          split at h
          · cases h
            simpa using hloaded
          · obtain ⟨⟨kvs, rest''⟩, hkvs, h⟩ := Option.bind_eq_some_iff.1 h
            cases h
            exact List.forall_mem_cons.2 ⟨hloaded, ihfields _ _ hkvs⟩
          · cases h
        · cases h
      · cases h

/-- **What is loaded.** Keys are distinct, floats are doubles, and no int is too long to be written. -/
theorem loaded_of_loads {cs : List Char} {v : Value} (h : loads cs = some v) : Loaded v := by
  unfold loads at h
  split at h
  · rename_i v' rest hparse
    split_ifs at h
    cases h
    exact (loaded_parse _).1 _ _ hparse
  · cases h

/-! ## Fuel -/

theorem length_skipBlanks (cs : List Char) : (skipBlanks cs).length ≤ cs.length := List.length_dropWhile_le _ _

theorem length_hex4 {cs rest : List Char} {a : ℕ} (h : hex4 cs = some (a, rest)) : rest.length + 4 = cs.length := by
  unfold hex4 at h
  split at h
  · obtain ⟨_, -, h⟩ := Option.bind_eq_some_iff.1 h
    obtain ⟨_, -, h⟩ := Option.bind_eq_some_iff.1 h
    obtain ⟨_, -, h⟩ := Option.bind_eq_some_iff.1 h
    obtain ⟨_, -, h⟩ := Option.bind_eq_some_iff.1 h
    cases h
    rfl
  · cases h

theorem length_scanUnicode {cs : List Char} {a : Point × List Char} (h : scanUnicode cs = some a) :
    a.2.length < cs.length := by
  obtain ⟨⟨n, rest⟩, hhex, h⟩ := Option.bind_eq_some_iff.1 h
  have hlen := length_hex4 hhex
  dsimp only at h
  split_ifs at h
  · split at h
    · obtain ⟨⟨m, rest'⟩, hhex', h⟩ := Option.bind_eq_some_iff.1 h
      have hlen' := length_hex4 hhex'
      simp only [List.length_cons] at hlen
      dsimp only at h
      split_ifs at h
      · rw [← Option.some.inj h]
        exact (show rest'.length < cs.length by omega)
      · rw [← Option.some.inj h]
        simp only [List.length_cons]
        omega
    · rw [← Option.some.inj h]
      exact (show rest.length < cs.length by omega)
  · rw [← Option.some.inj h]
    exact (show rest.length < cs.length by omega)

theorem length_scanPoint {cs : List Char} {a : Point × List Char} (h : scanPoint cs = some a) :
    a.2.length < cs.length := by
  unfold scanPoint at h
  split at h
  · have := length_scanUnicode h
    simp only [List.length_cons]
    omega
  · obtain ⟨n, -, rfl⟩ := Option.map_eq_some_iff.1 h
    simp only [List.length_cons]
    omega
  · split_ifs at h
    cases h
    simp
  · cases h

/-- the rest is shorter, and `cs.length` points are enough -/
theorem scanString_fuel (n : ℕ) :
    (∀ cs a, scanString n cs = some a → a.2.length < cs.length) ∧
      ∀ cs, cs.length ≤ n → scanString (n + 1) cs = scanString n cs := by
  induction n with
  | zero =>
    refine ⟨?_, ?_⟩
    · intro cs a h
      unfold scanString at h
      split at h
      · cases h
        simp
      · cases h
      · contradiction
    · intro cs h
      rw [List.length_eq_zero_iff.1 (Nat.le_zero.1 h)]
      rfl
  | succ n ih =>
    have hstep : ∀ m cs, cs.head? ≠ some '"' → scanString (m + 1) cs =
        (scanPoint cs).bind fun r => (scanString m r.2).map fun t => (r.1 :: t.1, t.2) := fun m cs => scanString_succ
    have hquote : ∀ cs : List Char, cs.head? = some '"' → ∃ t, cs = '"' :: t := fun cs h => by
      cases cs with
      | nil => cases h
      | cons c t => exact ⟨t, by rw [Option.some.inj h]⟩
    refine ⟨?_, ?_⟩
    · intro cs a h
      by_cases hq : cs.head? = some '"'
      · obtain ⟨t, rfl⟩ := hquote cs hq
        cases h
        simp
      · rw [hstep n cs hq] at h
        obtain ⟨r, hpoint, h⟩ := Option.bind_eq_some_iff.1 h
        obtain ⟨t, hrest, rfl⟩ := Option.map_eq_some_iff.1 h
        exact (ih.1 _ _ hrest).trans (length_scanPoint hpoint)
    · intro cs hlen
      by_cases hq : cs.head? = some '"'
      · obtain ⟨t, rfl⟩ := hquote cs hq
        rfl
      · rw [hstep n cs hq, hstep (n + 1) cs hq]
        cases hpoint : scanPoint cs with
        | none => rfl
        | some r =>
          have hlt := length_scanPoint hpoint
          rw [Option.bind_some, Option.bind_some, ih.2 r.2 (by omega)]

theorem length_digits (cs : List Char) :
    (cs.takeWhile Char.isDigit).isEmpty = false → (cs.dropWhile Char.isDigit).length < cs.length := by
  intro h
  have hsum := congrArg List.length (List.takeWhile_append_dropWhile (p := Char.isDigit) (l := cs))
  have hpos := List.length_pos_iff.2 (List.isEmpty_eq_false_iff.1 h)
  rw [List.length_append] at hsum
  omega

theorem length_scanInt {cs ds rest : List Char} (h : scanInt cs = some (ds, rest)) : rest.length < cs.length := by
  unfold scanInt at h
  split at h
  · cases h
    simp
  · split_ifs at h with hempty
    rw [List.span_eq_takeWhile_dropWhile] at h
    cases h
    exact length_digits cs (by simpa using hempty)

theorem length_scanFrac {cs fs rest : List Char} (h : scanFrac cs = some (fs, rest)) : rest.length < cs.length := by
  unfold scanFrac at h
  split at h
  · rename_i cs
    split_ifs at h with hempty
    rw [List.span_eq_takeWhile_dropWhile] at h
    cases h
    exact (length_digits cs (by simpa using hempty)).trans (by simp)
  · cases h

theorem length_scanExp {cs rest : List Char} {e : ℤ} (h : scanExp cs = some (e, rest)) : rest.length < cs.length := by
  have hdigits : ∀ neg cs e rest, scanExpDigits neg cs = some (e, rest) → rest.length < cs.length := by
    intro neg cs e rest h
    unfold scanExpDigits at h
    split_ifs at h with hempty
    all_goals
      cases h
      exact length_digits cs (by simpa using hempty)
  unfold scanExp at h
  split at h
  · split_ifs at h
    split at h
    all_goals
      have := hdigits _ _ _ _ h
      simp only [List.length_cons]
      omega
  · cases h

theorem length_scanScalar {cs : List Char} {a : Value × List Char} (h : scanScalar cs = some a) :
    a.2.length < cs.length := by
  have hunsigned : ∀ neg cs a, scanUnsigned neg cs = some a → a.2.length < cs.length := by
    intro neg cs a h
    obtain ⟨⟨ds, rest⟩, hint, h⟩ := Option.bind_eq_some_iff.1 h
    have hlen := length_scanInt hint
    dsimp only at h
    split at h
    · by_cases hmax : INT_MAX_STR_DIGITS < ds.length
      · rw [if_pos hmax] at h
        cases h
      · rw [if_neg hmax] at h
        cases h
        exact hlen
    · rename_i hexp
      cases h
      exact (length_scanExp hexp).trans hlen
    · rename_i frac rest' hfrac
      cases h
      have hlen' := length_scanFrac hfrac
      cases hexp : scanExp rest' with
      | none => exact hlen'.trans hlen
      | some x =>
        obtain ⟨e, last⟩ := x
        exact (length_scanExp hexp).trans (hlen'.trans hlen)
  unfold scanScalar at h
  split at h
  · rename_i l hl
    cases h
    have hprefix := List.find?_some hl
    obtain ⟨c, t, hct, -⟩ := literals_plain l (List.mem_of_find?_eq_some hl)
    have hlen := (List.isPrefixOf_iff_prefix.1 hprefix).length_le
    rw [hct, List.length_cons] at hlen
    simp only [List.length_drop, hct, List.length_cons]
    omega
  · unfold scanNumber at h
    split at h
    · exact (hunsigned _ _ _ h).trans (by simp)
    · exact hunsigned _ _ _ h

/-- what is left of a text is shorter -/
theorem length_parse (n : ℕ) :
    (∀ cs a, parseValue n cs = some a → a.2.length < cs.length) ∧
      (∀ cs a, parseList n cs = some a → a.2.length < cs.length) ∧
      ∀ cs a, parseFields n cs = some a → a.2.length < cs.length := by
  induction n with
  | zero =>
    refine ⟨?_, ?_, ?_⟩
    · intro cs a h
      cases cs <;> cases h
    · intro cs a h
      cases h
    · intro cs a h
      unfold parseFields at h
      cases h
  | succ n ih =>
    obtain ⟨ihvalue, ihlist, ihfields⟩ := ih
    refine ⟨?_, ?_, ?_⟩
    · intro cs a h
      cases cs with
      | nil => cases h
      | cons c cs =>
        rw [parseValue] at h
        have hblank := length_skipBlanks cs
        split_ifs at h
        · obtain ⟨r, hr, rfl⟩ := Option.map_eq_some_iff.1 h
          have hlen := (scanString_fuel _).1 _ _ hr
          simp only [List.length_cons]
          omega
        · split at h
          · rename_i heq
            cases h
            simp only [heq, List.length_cons] at hblank ⊢
            omega
          · obtain ⟨r, hr, rfl⟩ := Option.map_eq_some_iff.1 h
            have hlen := ihlist _ _ hr
            simp only [List.length_cons]
            omega
        · split at h
          · rename_i heq
            cases h
            simp only [heq, List.length_cons] at hblank ⊢
            omega
          · obtain ⟨r, hr, rfl⟩ := Option.map_eq_some_iff.1 h
            have hlen := ihfields _ _ hr
            simp only [List.length_cons]
            omega
        · exact length_scanScalar h
    · intro cs a h
      unfold parseList at h
      obtain ⟨⟨x, rest⟩, hx, h⟩ := Option.bind_eq_some_iff.1 h
      have hlen : rest.length < cs.length := ihvalue _ _ hx
      have hblank := length_skipBlanks rest
      dsimp only at h
      split at h
      · rename_i heq
        cases h
        simp only [heq, List.length_cons] at hblank ⊢
        omega
      · rename_i rest' heq
        obtain ⟨⟨xs, rest''⟩, hxs, h⟩ := Option.bind_eq_some_iff.1 h
        have hlen' : rest''.length < _ := ihlist _ _ hxs
        have hblank' := length_skipBlanks rest'
        cases h
        simp only [heq, List.length_cons] at hblank ⊢
        omega
      · cases h
    · intro cs a h
      unfold parseFields at h
      split at h
      · rename_i heq
        cases heq
        obtain ⟨⟨k, rest⟩, hk, h⟩ := Option.bind_eq_some_iff.1 h
        have hlen : rest.length < _ := (scanString_fuel _).1 _ _ hk
        have hblank := length_skipBlanks rest
        dsimp only at h
        split at h
        · rename_i rest' heq
          obtain ⟨⟨v, rest''⟩, hv, h⟩ := Option.bind_eq_some_iff.1 h
          have hlen' : rest''.length < _ := ihvalue _ _ hv
          have hblank' := length_skipBlanks rest'
          have hblank'' := length_skipBlanks rest''
          simp only [heq, List.length_cons] at hblank
          dsimp only at h
          split at h
          · rename_i heq
            cases h
            simp only [heq, List.length_cons] at hblank'' ⊢
            omega
          · rename_i rest''' heq
            obtain ⟨⟨kvs, last⟩, hkvs, h⟩ := Option.bind_eq_some_iff.1 h
            have hlen'' : last.length < _ := ihfields _ _ hkvs
            have hblank''' := length_skipBlanks rest'''
            cases h
            simp only [heq, List.length_cons] at hblank'' ⊢
            omega
          · cases h
        · cases h
      · cases h

/-- **Fuel.** Two calls a character are enough: more fuel changes nothing. -/
theorem parse_fuel (n : ℕ) :
    (∀ cs, 2 * cs.length < n → parseValue (n + 1) cs = parseValue n cs) ∧
      (∀ cs, 2 * cs.length + 1 < n → parseList (n + 1) cs = parseList n cs) ∧
      ∀ cs, 2 * cs.length + 1 < n → parseFields (n + 1) cs = parseFields n cs := by
  induction n with
  | zero => exact ⟨fun cs h => by omega, fun cs h => by omega, fun cs h => by omega⟩
  | succ n ih =>
    obtain ⟨ihvalue, ihlist, ihfields⟩ := ih
    refine ⟨?_, ?_, ?_⟩
    · intro cs h
      cases cs with
      | nil => rfl
      | cons c cs =>
        have hblank := length_skipBlanks cs
        simp only [List.length_cons] at h
        conv_lhs => rw [parseValue]
        conv_rhs => rw [parseValue]
        have hlist := ihlist (skipBlanks cs) (by omega)
        have hfields := ihfields (skipBlanks cs) (by omega)
        split_ifs
        · rfl
        · split
          · rfl
          · rw [hlist]
        · split
          · rfl
          · rw [hfields]
        · rfl
    · intro cs h
      conv_lhs => unfold parseList
      conv_rhs => unfold parseList
      rw [ihvalue cs (by omega)]
      cases hx : parseValue n cs with
      | none => rfl
      | some a =>
        have hlen := (length_parse n).1 _ _ hx
        have hblank := length_skipBlanks a.2
        simp only [bind, Option.bind]
        split
        · rfl
        · rename_i rest heq
          have hblank' := length_skipBlanks rest
          rw [heq, List.length_cons] at hblank
          rw [ihlist (skipBlanks rest) (by omega)]
        · rfl
    · intro cs h
      cases cs with
      | nil => rfl
      | cons c cs =>
        by_cases hc : c = '"'
        · subst hc
          rw [parseFields, parseFields]
          cases hk : scanString cs.length cs with
          | none => rfl
          | some a =>
            have hlen := (scanString_fuel _).1 _ _ hk
            have hblank := length_skipBlanks a.2
            simp only [bind, Option.bind, List.length_cons] at h ⊢
            split
            · rename_i rest heq
              have hblank' := length_skipBlanks rest
              rw [heq, List.length_cons] at hblank
              rw [ihvalue (skipBlanks rest) (by omega)]
              cases hv : parseValue n (skipBlanks rest) with
              | none => rfl
              | some b =>
                have hlen' := (length_parse n).1 _ _ hv
                have hblank'' := length_skipBlanks b.2
                simp only
                split
                · rfl
                · rename_i rest' heq'
                  have hblank''' := length_skipBlanks rest'
                  rw [heq', List.length_cons] at hblank''
                  rw [ihfields (skipBlanks rest') (by omega)]
                · rfl
            · rfl
        · unfold parseFields
          split
          · rename_i heq
            exact absurd (List.cons.inj heq).1 hc
          · split
            · rename_i heq
              exact absurd (List.cons.inj heq).1 hc
            · rfl

theorem parseValue_fuel {n m : ℕ} {cs : List Char} (h : 2 * cs.length < n) (hm : n ≤ m) :
    parseValue m cs = parseValue n cs := by
  induction m, hm using Nat.le_induction with
  | base => rfl
  | succ m hm ih => rw [(parse_fuel m).1 cs (by omega), ih]

end Value

end Py
