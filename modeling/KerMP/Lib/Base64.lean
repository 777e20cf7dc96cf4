/-
Base64 (RFC 4648) over bytes: `b64encode`, the strict decoder `b64decode`, and the round trip.

Three bytes become four characters; a last group of one or two bytes is padded with '='. The decoder takes full groups
only, padding only at the end, and ignores the unused low bits of the last group, as `b64decode(.., validate=True)`
does. `b64decode_b64encode` is the round trip.
-/
import Mathlib.Data.List.Basic
import KerMP.Lib.PyValue

namespace Base64

open Py

abbrev Bytes := List UInt8

/-- the character of a 6-bit value: A-Z, a-z, 0-9, +, / -/
def sextet (n : ℕ) : Char :=
  if n < 26 then Char.ofNat (65 + n)
  else if n < 52 then Char.ofNat (71 + n)
  else if n < 62 then Char.ofNat (n - 4)
  else if n = 62 then '+'
  else '/'

/-- the 6-bit value of a character -/
def value (c : Char) : Option ℕ :=
  let k := c.toNat
  if 65 ≤ k ∧ k ≤ 90 then some (k - 65)
  else if 97 ≤ k ∧ k ≤ 122 then some (k - 71)
  else if 48 ≤ k ∧ k ≤ 57 then some (k + 4)
  else if c = '+' then some 62
  else if c = '/' then some 63
  else none

def encodeChars : Bytes → List Char
  | [] => []
  | [a] => [sextet (a.toNat / 4), sextet (a.toNat % 4 * 16), '=', '=']
  | [a, b] => [sextet (a.toNat / 4), sextet (a.toNat % 4 * 16 + b.toNat / 16), sextet (b.toNat % 16 * 4), '=']
  | a :: b :: c :: rest =>
    sextet (a.toNat / 4) :: sextet (a.toNat % 4 * 16 + b.toNat / 16) ::
      sextet (b.toNat % 16 * 4 + c.toNat / 64) :: sextet (c.toNat % 64) :: encodeChars rest

/-- the bytes of one full group -/
def group (w x y z : Char) : Option Bytes := do
  let w ← value w
  let x ← value x
  let y ← value y
  let z ← value z
  return [UInt8.ofNat (w * 4 + x / 16), UInt8.ofNat (x % 16 * 16 + y / 4), UInt8.ofNat (y % 4 * 64 + z)]

/-- the bytes of the last group, which may be padded -/
def lastGroup (w x y z : Char) : Option Bytes :=
  if z = '=' then
    if y = '=' then (group w x 'A' 'A').map (List.take 1) else (group w x y 'A').map (List.take 2)
  else group w x y z

def decodeChars : List Char → Option Bytes
  | [] => some []
  | [w, x, y, z] => lastGroup w x y z
  | w :: x :: y :: z :: rest => do
    let g ← group w x y z
    let bs ← decodeChars rest
    return g ++ bs
  | _ => none

/-- `base64.b64encode(raw).decode("ascii")` -/
def b64encode (raw : Bytes) : String := String.ofList (encodeChars raw)

/-- `base64.b64decode(s, validate=True)`; the finer padding faults share one text -/
def b64decode (s : String) : Except Exc Bytes :=
  if s.toList.any fun c => 128 ≤ c.toNat then
    .error (.valueError "string argument should contain only ASCII characters")
  else if s.toList.any fun c => c ≠ '=' && (value c).isNone then .error (.valueError "Only base64 data is allowed")
  else
    match decodeChars s.toList with
    | some bs => .ok bs
    | none => .error (.valueError "Incorrect padding")

/-- every character of the code is ASCII, not the pad, and decodes to its value -/
theorem sextet_spec (n : Fin 64) :
    value (sextet n) = some n.val ∧ (sextet n).toNat < 128 ∧ sextet n ≠ '=' := by
  revert n; decide +kernel

theorem value_sextet {n : ℕ} (h : n < 64) : value (sextet n) = some n := (sextet_spec ⟨n, h⟩).1

theorem sextet_ascii {n : ℕ} (h : n < 64) : (sextet n).toNat < 128 := (sextet_spec ⟨n, h⟩).2.1

theorem sextet_ne_pad {n : ℕ} (h : n < 64) : sextet n ≠ '=' := (sextet_spec ⟨n, h⟩).2.2

theorem ofNat_of_lt (a : UInt8) {n : ℕ} (h : n = a.toNat) : UInt8.ofNat n = a := by
  rw [h]; exact UInt8.ofNat_toNat

theorem group_encode (a b c : UInt8) :
    group (sextet (a.toNat / 4)) (sextet (a.toNat % 4 * 16 + b.toNat / 16))
      (sextet (b.toNat % 16 * 4 + c.toNat / 64)) (sextet (c.toNat % 64)) = some [a, b, c] := by
  have ha := a.toNat_lt
  have hb := b.toNat_lt
  have hc := c.toNat_lt
  simp only [group, value_sextet (show a.toNat / 4 < 64 by omega),
    value_sextet (show a.toNat % 4 * 16 + b.toNat / 16 < 64 by omega),
    value_sextet (show b.toNat % 16 * 4 + c.toNat / 64 < 64 by omega),
    value_sextet (show c.toNat % 64 < 64 by omega), bind, Option.bind, pure]
  rw [ofNat_of_lt a (by omega), ofNat_of_lt b (by omega), ofNat_of_lt c (by omega)]

theorem group_encode_one (a : UInt8) :
    (group (sextet (a.toNat / 4)) (sextet (a.toNat % 4 * 16)) 'A' 'A').map (List.take 1) = some [a] := by
  have ha := a.toNat_lt
  simp only [group, value_sextet (show a.toNat / 4 < 64 by omega), value_sextet (show a.toNat % 4 * 16 < 64 by omega),
    show value 'A' = some 0 by decide, bind, Option.bind, pure, Option.map, List.take]
  rw [ofNat_of_lt a (by omega)]

theorem group_encode_two (a b : UInt8) :
    (group (sextet (a.toNat / 4)) (sextet (a.toNat % 4 * 16 + b.toNat / 16)) (sextet (b.toNat % 16 * 4)) 'A').map
      (List.take 2) = some [a, b] := by
  have ha := a.toNat_lt
  have hb := b.toNat_lt
  simp only [group, value_sextet (show a.toNat / 4 < 64 by omega),
    value_sextet (show a.toNat % 4 * 16 + b.toNat / 16 < 64 by omega),
    value_sextet (show b.toNat % 16 * 4 < 64 by omega), show value 'A' = some 0 by decide, bind, Option.bind, pure,
    Option.map, List.take]
  rw [ofNat_of_lt a (by omega), ofNat_of_lt b (by omega)]

theorem decodeChars_group {w x y z : Char} {rest : List Char} {bs g : Bytes} (hg : group w x y z = some g)
    (hz : z ≠ '=') (hr : decodeChars rest = some bs) : decodeChars (w :: x :: y :: z :: rest) = some (g ++ bs) := by
  cases rest with
  | nil =>
    cases hr
    simp [decodeChars, lastGroup, hz, hg]
  | cons r rest =>
    simp only [decodeChars, hg, hr, bind, Option.bind, pure]

/-- **Round trip.** What was encoded decodes to the same bytes. -/
theorem decodeChars_encodeChars : ∀ raw : Bytes, decodeChars (encodeChars raw) = some raw
  | [] => rfl
  | [a] => by simp [encodeChars, decodeChars, lastGroup, group_encode_one]
  | [a, b] => by
    have hy : sextet (b.toNat % 16 * 4) ≠ '=' := sextet_ne_pad (by omega)
    simp [encodeChars, decodeChars, lastGroup, hy, group_encode_two]
  | a :: b :: c :: rest => by
    rw [encodeChars]
    exact decodeChars_group (group_encode a b c) (sextet_ne_pad (by omega)) (decodeChars_encodeChars rest)

theorem value_pad_or_sextet {c : Char} {raw : Bytes} (h : c ∈ encodeChars raw) : c = '=' ∨ ∃ n, n < 64 ∧ c = sextet n := by
  induction raw using encodeChars.induct with
  | case1 => simp [encodeChars] at h
  | case2 a =>
    have ha := a.toNat_lt
    simp only [encodeChars, List.mem_cons, List.not_mem_nil, or_false] at h
    rcases h with h | h | h | h
    · exact Or.inr ⟨_, by omega, h⟩
    · exact Or.inr ⟨_, by omega, h⟩
    · exact Or.inl h
    · exact Or.inl h
  | case3 a b =>
    have ha := a.toNat_lt
    have hb := b.toNat_lt
    simp only [encodeChars, List.mem_cons, List.not_mem_nil, or_false] at h
    rcases h with h | h | h | h
    · exact Or.inr ⟨_, by omega, h⟩
    · exact Or.inr ⟨_, by omega, h⟩
    · exact Or.inr ⟨_, by omega, h⟩
    · exact Or.inl h
  | case4 a b c rest ih =>
    have ha := a.toNat_lt
    have hb := b.toNat_lt
    have hc := c.toNat_lt
    simp only [encodeChars, List.mem_cons] at h
    rcases h with h | h | h | h | h
    · exact Or.inr ⟨_, by omega, h⟩
    · exact Or.inr ⟨_, by omega, h⟩
    · exact Or.inr ⟨_, by omega, h⟩
    · exact Or.inr ⟨_, by omega, h⟩
    · exact ih h

theorem b64decode_b64encode (raw : Bytes) : b64decode (b64encode raw) = .ok raw := by
  have h1 : (encodeChars raw).any (fun c => decide (128 ≤ c.toNat)) = false := by
    rw [List.any_eq_false]
    intro c hc
    rcases value_pad_or_sextet hc with rfl | ⟨n, hn, rfl⟩
    · decide
    · have := sextet_ascii hn; simp; omega
  have h2 : (encodeChars raw).any (fun c => decide (c ≠ '=') && (value c).isNone) = false := by
    rw [List.any_eq_false]
    intro c hc
    rcases value_pad_or_sextet hc with rfl | ⟨n, hn, rfl⟩
    · decide
    · simp [value_sextet hn]
  simp only [b64decode, b64encode, String.toList_ofList, h1, h2, decodeChars_encodeChars]
  rfl

end Base64
