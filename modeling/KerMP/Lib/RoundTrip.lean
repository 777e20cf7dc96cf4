/-
Reading JSON text that was written: `json.loads(json.dumps(v)) == v`.

A number ends where its text does as long as no digit, point or exponent follows (`Stops`); a string ends at its closing
quote because every quote inside it is escaped. A value that was read itself can always be written and read again, up to
its lone surrogates.

- `scanScalar_int`, `scanScalar_float`, `scanString_body`: numbers and strings.
- `loads_dumps`: values, with blanks behind them.
- `size_dumps`: how many bytes the text of a value takes.
- `newline_dumps`: no text has a line break in it.
- `dumps_ofJson`: values without surrogates are written as `Json.dumps` writes them.
-/
import Mathlib.Data.List.TakeWhile
import KerMP.Lib.Loads

namespace Py

namespace Value

/-! ## Numbers -/

/-- nothing that a number would take in -/
def Stops (cs : List Char) : Prop := ∀ c ∈ cs.head?, c.isDigit = false ∧ c ≠ '.' ∧ c ≠ 'e' ∧ c ≠ 'E'

/-- nothing that a run of digits would take in -/
def Ends (cs : List Char) : Prop := ∀ c ∈ cs.head?, c.isDigit = false

variable {ds fs xs r : List Char}

theorem Stops.ends (h : Stops r) : Ends r := fun c hc => (h c hc).1

theorem Stops.frac (h : Stops r) : scanFrac r = none := by
  unfold scanFrac
  split
  · rename_i cs
    exact absurd rfl (h '.' rfl).2.1
  · rfl

theorem Stops.exp (h : Stops r) : scanExp r = none := by
  cases r with
  | nil => rfl
  | cons c cs => exact if_neg (not_or.2 (h c rfl).2.2)

theorem takeWhile_digits (hd : ∀ c ∈ ds, c.isDigit = true) (hr : Ends r) :
    (ds ++ r).takeWhile Char.isDigit = ds ∧ (ds ++ r).dropWhile Char.isDigit = r := by
  rw [List.takeWhile_append_of_pos hd, List.dropWhile_append_of_pos hd]
  cases r with
  | nil => simp
  | cons c cs => simp [hr c rfl]

/-- digits as an int has them: without a leading zero -/
structure Digits (ds : List Char) : Prop where
  digit : ∀ c ∈ ds, c.isDigit = true
  ne_nil : ds ≠ []
  zero : ds.head? = some '0' → ds = ['0']

theorem head_toDigits {n : ℕ} (hn : 0 < n) : (Nat.toDigits 10 n).head? ≠ some '0' := by
  induction n using Nat.strongRecOn with
  | ind n ih =>
    by_cases h : n < 10
    · have hdigit : ∀ m < 10, 0 < m → some (Nat.digitChar m) ≠ some '0' := by decide
      rw [Nat.toDigits_of_lt_base h, List.head?_cons]
      exact hdigit n h hn
    · rw [Nat.toDigits_of_base_le (by norm_num) (not_lt.1 h), List.head?_append_of_ne_nil _ Nat.toDigits_ne_nil]
      exact ih (n / 10) (by omega) (by omega)

theorem digits_toDigits (n : ℕ) : Digits (Nat.toDigits 10 n) where
  digit c hc := Nat.isDigit_of_mem_toDigits (by norm_num) (by norm_num) hc
  ne_nil := Nat.toDigits_ne_nil
  zero h := by
    rcases Nat.eq_zero_or_pos n with rfl | hn
    · rfl
    · exact absurd h (head_toDigits hn)

theorem scanInt_digits (hd : Digits ds) (hr : Ends r) : scanInt (ds ++ r) = some (ds, r) := by
  obtain ⟨htake, hdrop⟩ := takeWhile_digits hd.digit hr
  by_cases hz : ds.head? = some '0'
  · rw [hd.zero hz]
    rfl
  · unfold scanInt
    split
    · rename_i cs heq
      have hhead := congrArg List.head? heq
      rw [List.head?_append_of_ne_nil _ hd.ne_nil] at hhead
      exact absurd hhead hz
    · rw [htake, if_neg (by simpa using hd.ne_nil), List.span_eq_takeWhile_dropWhile, htake, hdrop]

theorem scanFrac_digits (hd : ∀ c ∈ fs, c.isDigit = true) (hne : fs ≠ []) (hr : Ends r) :
    scanFrac ('.' :: (fs ++ r)) = some (fs, r) := by
  obtain ⟨htake, hdrop⟩ := takeWhile_digits hd hr
  rw [scanFrac, htake, if_neg (by simpa using hne), List.span_eq_takeWhile_dropWhile, htake, hdrop]

theorem scanExp_digits (hd : ∀ c ∈ xs, c.isDigit = true) (hne : xs ≠ []) (hr : Ends r) (x : Bool) :
    scanExp ('e' :: (if x then '-' else '+') :: (xs ++ r)) =
      some (if x then -(Nat.ofDigitChars 10 xs 0 : ℤ) else Nat.ofDigitChars 10 xs 0, r) := by
  obtain ⟨htake, hdrop⟩ := takeWhile_digits hd hr
  have hne' : xs.isEmpty = false := by simpa using hne
  cases x <;> simp [scanExp, scanExpDigits, htake, hdrop, hne']

/-- an int -/
theorem scanUnsigned_int (neg : Bool) (hd : Digits ds) (hmax : ds.length ≤ INT_MAX_STR_DIGITS) (hr : Stops r) :
    scanUnsigned neg (ds ++ r) =
      some (.int (if neg then -(Nat.ofDigitChars 10 ds 0 : ℤ) else Nat.ofDigitChars 10 ds 0), r) := by
  simp [scanUnsigned, scanInt_digits hd hr.ends, hr.frac, hr.exp, not_lt.2 hmax]

/-- a float with a fraction -/
theorem scanUnsigned_frac (neg : Bool) (hd : Digits ds) (hf : ∀ c ∈ fs, c.isDigit = true) (hne : fs ≠ []) (hr : Stops r) :
    scanUnsigned neg (ds ++ '.' :: (fs ++ r)) =
      some (.float (.ofDecimal neg (Nat.ofDigitChars 10 (ds ++ fs) 0) (-fs.length)), r) := by
  have hdot : Ends ('.' :: (fs ++ r)) := fun c hc => by cases hc; rfl
  simp [scanUnsigned, scanInt_digits hd hdot, scanFrac_digits hf hne hr.ends, hr.exp]

/-- a float with an exponent -/
theorem scanUnsigned_exp (neg : Bool) (hd : Digits ds) (hx : ∀ c ∈ xs, c.isDigit = true) (hne : xs ≠ [])
    (hr : Ends r) (x : Bool) :
    scanUnsigned neg (ds ++ 'e' :: (if x then '-' else '+') :: (xs ++ r)) =
      some (.float (.ofDecimal neg (Nat.ofDigitChars 10 ds 0)
        (if x then -(Nat.ofDigitChars 10 xs 0 : ℤ) else Nat.ofDigitChars 10 xs 0)), r) := by
  have hends : ∀ cs, Ends ('e' :: cs) := fun cs c hc => by cases hc; rfl
  have hfrac : ∀ cs, scanFrac ('e' :: cs) = none := fun _ => rfl
  simp only [scanUnsigned, scanInt_digits hd (hends _), hfrac, scanExp_digits hx hne hr x, bind, Option.bind, pure]

/-- a float with both -/
theorem scanUnsigned_frac_exp (neg : Bool) (hd : Digits ds) (hf : ∀ c ∈ fs, c.isDigit = true) (hne : fs ≠ [])
    (hx : ∀ c ∈ xs, c.isDigit = true) (hne' : xs ≠ []) (hr : Ends r) (x : Bool) :
    scanUnsigned neg (ds ++ '.' :: (fs ++ 'e' :: (if x then '-' else '+') :: (xs ++ r))) =
      some (.float (.ofDecimal neg (Nat.ofDigitChars 10 (ds ++ fs) 0)
        ((if x then -(Nat.ofDigitChars 10 xs 0 : ℤ) else Nat.ofDigitChars 10 xs 0) - fs.length)), r) := by
  have hdot : ∀ cs, Ends ('.' :: cs) := fun cs c hc => by cases hc; rfl
  have hends : ∀ cs, Ends ('e' :: cs) := fun cs c hc => by cases hc; rfl
  simp only [scanUnsigned, scanInt_digits hd (hdot _), scanFrac_digits hf hne (hends _), scanExp_digits hx hne' hr x, bind,
    Option.bind, pure, Option.getD]

/-- a number is none of the names -/
theorem scanScalar_number (neg : Bool) (hd : Digits ds) (cs : List Char) :
    scanScalar ((if neg then ['-'] else []) ++ ds ++ cs) = scanUnsigned neg (ds ++ cs) := by
  obtain ⟨c, rest, hds⟩ := List.exists_cons_of_ne_nil hd.ne_nil
  have hc : c.isDigit = true := hd.digit c (hds ▸ List.mem_cons_self)
  have hne : ∀ x : Char, x.isDigit = false → (x == c) = false := fun x hx =>
    beq_eq_false_iff_ne.2 fun he => by rw [he, hc] at hx; cases hx
  have hn := hne 'n' rfl
  have ht := hne 't' rfl
  have hf := hne 'f' rfl
  have hN := hne 'N' rfl
  have hI := hne 'I' rfl
  have hm := hne '-' rfl
  subst hds
  cases neg with
  | true => simp [scanScalar, literals, List.find?, List.isPrefixOf, hI, scanNumber]
  | false =>
    have hplain : scanNumber (c :: (rest ++ cs)) = scanUnsigned false (c :: (rest ++ cs)) := by
      unfold scanNumber
      split
      · rename_i heq
        exact absurd (List.cons.inj heq).1.symm (beq_eq_false_iff_ne.1 hm)
      · rfl
    simp [scanScalar, literals, List.find?, List.isPrefixOf, hn, ht, hf, hN, hI, hm, hplain]

theorem scanScalar_int (n : ℤ) (hmax : (Nat.toDigits 10 n.natAbs).length ≤ INT_MAX_STR_DIGITS) (hr : Stops r) :
    scanScalar (intText n ++ r) = some (.int n, r) := by
  have hsign := scanScalar_number (decide (n < 0)) (digits_toDigits n.natAbs) r
  simp only [decide_eq_true_eq] at hsign
  rw [intText, hsign, scanUnsigned_int _ (digits_toDigits n.natAbs) hmax hr, Nat.ofDigitChars_ten_toDigits]
  simp only [decide_eq_true_eq]
  split_ifs with h
  · congr 4
    omega
  · congr 4
    omega

theorem Digits.of_head (hd : ∀ c ∈ ds, c.isDigit = true) {c : Char} (hc : ds.head? = some c) (hne : c ≠ '0') :
    Digits ds where
  digit := hd
  ne_nil h := by
    rw [h] at hc
    cases hc
  zero h := absurd (Option.some.inj (hc.symm.trans h)) hne

/-- the text of a float stands for its decimal -/
theorem scanScalar_repr (neg : Bool) (d : ℕ) (e : ℤ) (hr : Stops r) :
    ∃ (d' : ℕ) (e' : ℤ), (d' : ℚ) * tenPow e' = d * tenPow e ∧
      scanScalar ((Flt.dec neg d e).repr.toList ++ r) = some (.float (.ofDecimal neg d' e'), r) := by
  have hds : (toString d).toList = Nat.toDigits 10 d := by rw [Nat.toString_eq_repr, Nat.toList_repr]
  have hzeros : ∀ n : ℕ, ∀ c ∈ List.replicate n '0', c.isDigit = true := fun n c hc => by
    rw [List.eq_of_mem_replicate hc]
    rfl
  have hvalue := @Nat.ofDigitChars_ten_toDigits d
  have hdigit := (digits_toDigits d).digit
  have hten : (10 : ℚ) ≠ 0 := by norm_num
  -- digits around a point
  have hfrac : ∀ is fs : List Char, Digits is → (∀ c ∈ fs, c.isDigit = true) → fs ≠ [] →
      (Nat.ofDigitChars 10 (is ++ fs) 0 : ℚ) * tenPow (-fs.length) = d * tenPow e →
      ∃ (d' : ℕ) (e' : ℤ), (d' : ℚ) * tenPow e' = d * tenPow e ∧
        scanScalar ((if neg then ['-'] else []) ++ (is ++ '.' :: fs) ++ r) = some (.float (.ofDecimal neg d' e'), r) := by
    intro is fs his hfs hne hval
    refine ⟨_, _, hval, ?_⟩
    rw [← scanUnsigned_frac neg his hfs hne hr, ← scanScalar_number neg his]
    simp
  unfold Flt.repr
  simp only [String.toList_ofList, hds]
  generalize hn : (Nat.toDigits 10 d).length = n
  by_cases h0 : d = 0
  · rw [if_pos h0]
    exact hfrac ['0'] ['0'] (digits_toDigits 0) (hzeros 1) (by simp) (by simp [h0, Nat.ofDigitChars])
  rw [if_neg h0]
  obtain ⟨c, hc⟩ : ∃ c, (Nat.toDigits 10 d).head? = some c :=
    ⟨_, List.head?_eq_some_head Nat.toDigits_ne_nil⟩
  have hcne : c ≠ '0' := fun he => head_toDigits (Nat.pos_of_ne_zero h0) (he ▸ hc)
  have hnpos : 0 < n := by
    rw [← hn]
    exact List.length_pos_iff.2 Nat.toDigits_ne_nil
  by_cases hpoint : -4 < (n : ℤ) + e ∧ (n : ℤ) + e ≤ 16
  · rw [if_pos hpoint]
    by_cases hle : (n : ℤ) + e ≤ 0
    · rw [if_pos hle]
      refine hfrac ['0'] (List.replicate (-((n : ℤ) + e)).toNat '0' ++ Nat.toDigits 10 d) (digits_toDigits 0)
        (List.forall_mem_append.2 ⟨hzeros _, hdigit⟩) (by simp [Nat.toDigits_ne_nil]) ?_
      have hexp : -((List.replicate (-((n : ℤ) + e)).toNat '0' ++ Nat.toDigits 10 d).length : ℤ) = e := by
        rw [List.length_append, List.length_replicate, hn]
        omega
      rw [hexp, Nat.ofDigitChars_append, Nat.ofDigitChars_append, show Nat.ofDigitChars 10 ['0'] 0 = 0 from rfl,
        Nat.ofDigitChars_replicate_zero, mul_zero, hvalue]
    · rw [if_neg hle]
      by_cases hlong : (n : ℤ) ≤ n + e
      · rw [if_pos hlong]
        refine hfrac (Nat.toDigits 10 d ++ List.replicate ((n : ℤ) + e - n).toNat '0') ['0']
          (.of_head (List.forall_mem_append.2 ⟨hdigit, hzeros _⟩) ?_ hcne) (hzeros 1) (by simp) ?_
        · rw [List.head?_append_of_ne_nil _ Nat.toDigits_ne_nil, hc]
        · have hexp : (((n : ℤ) + e - n).toNat : ℤ) = e := by omega
          rw [Nat.ofDigitChars_append, Nat.ofDigitChars_append, hvalue, Nat.ofDigitChars_replicate_zero,
            show Nat.ofDigitChars 10 ['0'] (10 ^ ((n : ℤ) + e - n).toNat * d) =
              10 * (10 ^ ((n : ℤ) + e - n).toNat * d) from rfl, tenPow_eq, tenPow_eq]
          push_cast
          rw [← zpow_natCast, hexp]
          simp
          ring
      · rw [if_neg hlong]
        have hhead : ((Nat.toDigits 10 d).take ((n : ℤ) + e).toNat).head? = some c := by
          rw [List.head?_take, if_neg (by omega), hc]
        refine hfrac _ _ (.of_head (fun x hx => hdigit x (List.mem_of_mem_take hx)) hhead hcne)
          (fun x hx => hdigit x (List.mem_of_mem_drop hx)) ?_ ?_
        · rw [ne_eq, List.drop_eq_nil_iff, hn]
          omega
        · have hexp : -(((Nat.toDigits 10 d).drop ((n : ℤ) + e).toNat).length : ℤ) = e := by
            rw [List.length_drop, hn]
            omega
          rw [List.take_append_drop, hvalue, hexp]
  · rw [if_neg hpoint]
    -- an exponent has two digits at least
    have hxs : ∀ x : ℕ, ∃ xs, (if ((toString x).toList).length = 1 then '0' :: (toString x).toList else (toString x).toList)
        = xs ∧ (∀ c ∈ xs, c.isDigit = true) ∧ xs ≠ [] ∧ Nat.ofDigitChars 10 xs 0 = x := by
      intro x
      have hx := @Nat.ofDigitChars_ten_toDigits x
      rw [Nat.toString_eq_repr, Nat.toList_repr]
      refine ⟨_, rfl, ?_⟩
      split_ifs
      · exact ⟨List.forall_mem_cons.2 ⟨rfl, (digits_toDigits x).digit⟩, by simp, hx⟩
      · exact ⟨(digits_toDigits x).digit, Nat.toDigits_ne_nil, hx⟩
    obtain ⟨xs, hxs, hxdigit, hxne, hxval⟩ := hxs ((n : ℤ) + e - 1).natAbs
    have hexp : (if (n : ℤ) + e - 1 < 0 then -(Nat.ofDigitChars 10 xs 0 : ℤ) else Nat.ofDigitChars 10 xs 0) =
        n + e - 1 := by
      rw [hxval]
      split_ifs <;> omega
    rw [hxs]
    by_cases hone : n = 1
    · rw [if_pos hone]
      refine ⟨d, n + e - 1, by rw [hone]; simp, ?_⟩
      have hscan := scanUnsigned_exp neg (digits_toDigits d) hxdigit hxne hr.ends (decide ((n : ℤ) + e - 1 < 0))
      simp only [decide_eq_true_eq, hexp, hvalue] at hscan
      rw [← hscan, ← scanScalar_number neg (digits_toDigits d)]
      simp
    · rw [if_neg hone]
      have hfirst : Digits ((Nat.toDigits 10 d).take 1) := by
        refine .of_head (fun x hx => hdigit x (List.mem_of_mem_take hx)) ?_ hcne
        rw [List.head?_take, if_neg one_ne_zero, hc]
      have hrest : (Nat.toDigits 10 d).drop 1 ≠ [] := by
        rw [ne_eq, List.drop_eq_nil_iff, hn]
        omega
      have hlength : (n : ℤ) + e - 1 - ((Nat.toDigits 10 d).drop 1).length = e := by
        rw [List.length_drop, hn]
        omega
      refine ⟨d, e, rfl, ?_⟩
      have hscan := scanUnsigned_frac_exp neg hfirst (fun x hx => hdigit x (List.mem_of_mem_drop hx)) hrest hxdigit
        hxne hr.ends (decide ((n : ℤ) + e - 1 < 0))
      simp only [decide_eq_true_eq, hexp, List.take_append_drop, hvalue, hlength] at hscan
      rw [← hscan, ← scanScalar_number neg hfirst]
      simp

/-! ## Strings -/

theorem hexDigit_digitChar : ∀ n < 16, hexDigit? (Nat.digitChar n) = some n := by decide

theorem ofNat_toNat {c : Char} (h : c.toNat < 0xD800) : Point.ofNat c.toNat = .scalar c := by
  rw [Point.ofNat, dif_neg (by omega), Char.ofNat_toNat]

/-- a character is written by its letter behind a backslash, by its number, or as it is -/
theorem escape_cases (c : Char) :
    (∃ x, (x, c.toNat) ∈ backslashed ∧ Py.escape c = ['\\', x]) ∨
      (c.toNat < 32 ∧
        Py.escape c = ['\\', 'u', '0', '0', Nat.digitChar (c.toNat / 16), Nat.digitChar (c.toNat % 16)]) ∨
      32 ≤ c.toNat ∧ c ≠ '"' ∧ c ≠ '\\' ∧ Py.escape c = [c] := by
  generalize he : Py.escape c = cs
  unfold Py.escape at he
  split_ifs at he with h₁ h₂ h₃ h₄ h₅ h₆ h₇ h₈
  · exact Or.inl ⟨'"', by rw [h₁]; decide, he.symm⟩
  · exact Or.inl ⟨'\\', by rw [h₂]; decide, he.symm⟩
  · exact Or.inl ⟨'n', by rw [h₃]; decide, he.symm⟩
  · exact Or.inl ⟨'r', by rw [h₄]; decide, he.symm⟩
  · exact Or.inl ⟨'t', by rw [h₅]; decide, he.symm⟩
  · exact Or.inl ⟨'b', by rw [h₆]; decide, he.symm⟩
  · exact Or.inl ⟨'f', by rw [h₇]; decide, he.symm⟩
  · exact Or.inr (Or.inl ⟨h₈, he.symm⟩)
  · exact Or.inr (Or.inr ⟨not_lt.1 h₈, h₁, h₂, he.symm⟩)

theorem scanPoint_backslashed {x : Char} {n : ℕ} (h : (x, n) ∈ backslashed) (cs : List Char) :
    scanPoint ('\\' :: x :: cs) = some (.ofNat n, cs) := by
  have htable : ∀ entry ∈ backslashed, entry.1 ≠ 'u' ∧ backslashed.lookup entry.1 = some entry.2 := by decide
  obtain ⟨hu, hlookup⟩ := htable _ h
  rw [scanPoint, hlookup]
  · rfl
  · exact hu

theorem scanPoint_plain {c : Char} (h : 32 ≤ c.toNat) (hc : c ≠ '\\') (cs : List Char) :
    scanPoint (c :: cs) = some (.scalar c, cs) := by
  rw [scanPoint, if_neg (not_lt.2 h)]
  · exact fun _ hx _ => hc hx
  · exact fun _ _ hx _ => hc hx

/-- a control character is written by its number -/
theorem scanUnicode_control {n : ℕ} (h : n < 32) (cs : List Char) :
    scanUnicode ('0' :: '0' :: Nat.digitChar (n / 16) :: Nat.digitChar (n % 16) :: cs) = some (.ofNat n, cs) := by
  have hhigh := hexDigit_digitChar (n / 16) (by omega)
  have hlow := hexDigit_digitChar (n % 16) (by omega)
  have hzero : hexDigit? '0' = some 0 := rfl
  have hval : ((0 * 16 + 0) * 16 + n / 16) * 16 + n % 16 = n := by omega
  have hhex : hex4 ('0' :: '0' :: Nat.digitChar (n / 16) :: Nat.digitChar (n % 16) :: cs) = some (n, cs) := by
    simp only [hex4, hzero, hhigh, hlow, bind, Option.bind, pure, hval]
  simp only [scanUnicode, hhex, bind, Option.bind, pure, if_neg (show ¬ (0xD800 ≤ n ∧ n < 0xDC00) by omega)]

/-- an escaped character is read as it was -/
theorem scanPoint_escape (c : Char) (cs : List Char) : scanPoint (Py.escape c ++ cs) = some (.scalar c, cs) := by
  obtain ⟨x, hx, he⟩ | ⟨hlt, he⟩ | ⟨hle, -, hslash, he⟩ := escape_cases c
  · have hsmall : ∀ entry ∈ backslashed, entry.2 < 0xD800 := by decide
    rw [he, ← ofNat_toNat (hsmall _ hx)]
    exact scanPoint_backslashed hx cs
  · rw [he, ← ofNat_toNat (show c.toNat < 0xD800 by omega)]
    exact scanUnicode_control hlt cs
  · rw [he]
    exact scanPoint_plain hle hslash cs

theorem head_escape (c : Char) (cs : List Char) : (Py.escape c ++ cs).head? ≠ some '"' := by
  obtain ⟨x, -, he⟩ | ⟨-, he⟩ | ⟨-, hquote, -, he⟩ := escape_cases c
  · rw [he]
    exact fun h => absurd (Option.some.inj h) (by decide)
  · rw [he]
    exact fun h => absurd (Option.some.inj h) (by decide)
  · rw [he]
    exact fun h => hquote (Option.some.inj h)

theorem escape_ne_nil (c : Char) : Py.escape c ≠ [] := by
  obtain ⟨x, -, he⟩ | ⟨-, he⟩ | ⟨-, -, -, he⟩ := escape_cases c
  · simp [he]
  · simp [he]
  · simp [he]

/-- a string is read up to its closing quote -/
theorem scanString_body {s : Text} (hs : s.Clean) {n : ℕ} (hn : s.length ≤ n) (r : List Char) :
    scanString n (Text.chars (s.flatMap escape) ++ '"' :: r) = some (s, r) := by
  induction s generalizing n with
  | nil => cases n <;> rfl
  | cons p s ih =>
    obtain ⟨hp, hrest⟩ := List.forall_mem_cons.1 hs
    cases p with
    | surrogate k => cases hp
    | scalar c =>
      obtain ⟨n, rfl⟩ : ∃ m, n = m + 1 := ⟨n - 1, by simp only [List.length_cons] at hn; omega⟩
      have hread := ih hrest (show s.length ≤ n by simpa using hn)
      rw [List.flatMap_cons, Text.chars_append, escape, Text.chars_ofChars, List.append_assoc,
        scanString_succ (head_escape c _), scanPoint_escape, Option.bind_some, hread]
      rfl

/-! ## Names and numbers -/

theorem plain_of_digit {c : Char} (hc : c.isDigit = true) : Plain c := by
  have hne : ∀ x : Char, x.isDigit = false → c ≠ x := fun x hx he => by rw [he, hx] at hc; cases hc
  refine ⟨?_, hne _ rfl, hne _ rfl, hne _ rfl, hne _ rfl⟩
  simp [isBlank, hne ' ' rfl, hne '\t' rfl, hne '\n' rfl, hne '\r' rfl]

/-- what is read as a number starts with a digit or a sign, and something of it is taken -/
theorem scanUnsigned_some {neg : Bool} {cs : List Char} {a : Value × List Char} (h : scanUnsigned neg cs = some a) :
    ∃ c t, cs = c :: t ∧ c.isDigit = true := by
  obtain ⟨⟨digits, rest⟩, hint, -⟩ := Option.bind_eq_some_iff.1 h
  unfold scanInt at hint
  split at hint
  · exact ⟨_, _, rfl, rfl⟩
  · split_ifs at hint with hempty
    cases cs with
    | nil => exact absurd rfl hempty
    | cons c t =>
      refine ⟨c, t, rfl, ?_⟩
      by_contra hc
      rw [List.takeWhile_cons_of_neg hc] at hempty
      exact hempty rfl

theorem scanScalar_some {cs : List Char} {a : Value × List Char} (h : scanScalar cs = some a) :
    ∃ c t, cs = c :: t ∧ Plain c := by
  unfold scanScalar at h
  split at h
  · rename_i l hl
    obtain ⟨c, t, hct, hc⟩ := literals_plain l (List.mem_of_find?_eq_some hl)
    have hprefix := List.find?_some hl
    obtain ⟨rest, hrest⟩ := List.isPrefixOf_iff_prefix.1 hprefix
    exact ⟨c, t ++ rest, by rw [← hrest, hct]; rfl, hc⟩
  · unfold scanNumber at h
    split at h
    · exact ⟨_, _, rfl, by constructor <;> decide⟩
    · obtain ⟨c, t, hct, hc⟩ := scanUnsigned_some h
      exact ⟨c, t, hct, plain_of_digit hc⟩

theorem parseValue_scalar {cs : List Char} {a : Value × List Char} (h : scanScalar cs = some a) (n : ℕ) :
    parseValue (n + 1) cs = some a := by
  obtain ⟨c, t, rfl, hc⟩ := scanScalar_some h
  rw [parseValue, if_neg hc.quote, if_neg hc.bracket, if_neg hc.brace, h]

theorem scanScalar_literal {l : List Char × Value} (hl : l ∈ literals) (r : List Char) :
    scanScalar (l.1 ++ r) = some (l.2, r) := by
  simp only [literals, List.mem_cons, List.not_mem_nil, or_false] at hl
  rcases hl with rfl | rfl | rfl | rfl | rfl | rfl
  all_goals rfl

/-- a float is read back from its text -/
theorem scanScalar_float {x : Flt} (hx : IsRead x) (hr : Stops r) :
    scanScalar (x.dumps.toList ++ r) = some (.float x, r) := by
  have hinf : ∀ neg, scanScalar ((Flt.inf neg).dumps.toList ++ r) = some (.float (.inf neg), r) := fun neg => by
    cases neg
    · exact scanScalar_literal (l := ("Infinity".toList, .float (.inf false))) (by simp [literals]) r
    · exact scanScalar_literal (l := ("-Infinity".toList, .float (.inf true))) (by simp [literals]) r
  rcases hx with rfl | ⟨neg, rfl⟩ | ⟨neg, d, e, rfl⟩
  · exact scanScalar_literal (l := ("NaN".toList, .float .nan)) (by simp [literals]) r
  · exact hinf neg
  · rcases ofDecimal_reads neg d e with h | ⟨d', e', h, hreads⟩
    · rw [h]
      exact hinf neg
    · obtain ⟨d'', e'', heq, hscan⟩ := scanScalar_repr neg d' e' hr
      rw [h]
      exact hscan.trans (by rw [ofDecimal_congr heq, hreads])

/-! ## Reading what was written -/

theorem stops_cons {c : Char} (h : c = ',' ∨ c = ']' ∨ c = '\x7d') (cs : List Char) : Stops (c :: cs) := by
  intro x hx
  cases hx
  rcases h with rfl | rfl | rfl <;> decide

theorem stops_nil : Stops [] := fun _ hc => by cases hc

theorem skipBlanks_cons {c : Char} (h : isBlank c = false) (cs : List Char) : skipBlanks (c :: cs) = c :: cs :=
  List.dropWhile_cons_of_neg (by simp [h])

theorem chars_dumpsStr (s : Text) : (dumpsStr s).chars = '"' :: (Text.chars (s.flatMap escape) ++ ['"']) := by
  simp [dumpsStr]

theorem scanString_dumpsStr {s : Text} (hs : s.Clean) (r : List Char) :
    scanString (Text.chars (s.flatMap escape) ++ '"' :: r).length (Text.chars (s.flatMap escape) ++ '"' :: r) =
      some (s, r) := by
  refine scanString_body hs ?_ r
  -- a character is written as one or more
  have hlen : s.length ≤ (Text.chars (s.flatMap escape)).length := by
    induction s with
    | nil => exact le_rfl
    | cons p s ih =>
      obtain ⟨hp, hrest⟩ := List.forall_mem_cons.1 hs
      cases p with
      | surrogate k => cases hp
      | scalar c =>
        have hpos : 0 < (Py.escape c).length := List.length_pos_iff.2 (escape_ne_nil c)
        have := ih hrest
        simp only [List.flatMap_cons, Text.chars_append, escape, Text.chars_ofChars, List.length_append, List.length_cons]
        omega
  rw [List.length_append]
  omega

theorem scanScalar_bool (b : Bool) (r : List Char) :
    scanScalar ((if b then "true" else "false").toList ++ r) = some (.bool b, r) := by
  cases b
  · exact scanScalar_literal (l := ("false".toList, .bool false)) (by simp [literals]) r
  · exact scanScalar_literal (l := ("true".toList, .bool true)) (by simp [literals]) r

/-- the text of a value starts with no blank and no closing bracket -/
theorem head_dumps {v : Value} (hv : Loaded v) : ∃ c t, (dumps v).chars = c :: t ∧ isBlank c = false ∧ c ≠ ']' := by
  have hscalar : ∀ {cs a}, scanScalar (cs ++ []) = some a → ∃ c t, cs = c :: t ∧ isBlank c = false ∧ c ≠ ']' := by
    intro cs a h
    obtain ⟨c, t, hct, hc⟩ := scanScalar_some h
    exact ⟨c, t, by simpa using hct, hc.blank, hc.close⟩
  cases hv with
  | null => exact ⟨'n', _, rfl, by decide, by decide⟩
  | bool b =>
    rw [dumps, Text.chars_ofChars]
    exact hscalar (scanScalar_bool b [])
  | int h =>
    rw [dumps, Text.chars_ofChars]
    exact hscalar (scanScalar_int _ h stops_nil)
  | float h =>
    rw [dumps, Text.chars_ofChars]
    exact hscalar (scanScalar_float h stops_nil)
  | str s =>
    rw [dumps, chars_dumpsStr]
    exact ⟨_, _, rfl, by decide, by decide⟩
  | arr h => exact ⟨'[', _, rfl, by decide, by decide⟩
  | obj hkeys h => exact ⟨'\x7b', _, rfl, by decide, by decide⟩

/-- a value with enough fuel is read from its text, whatever follows it -/
def Reads (v : Value) : Prop :=
  ∀ (n : ℕ) (r : List Char), Stops r → 2 * (dumps v).chars.length < n →
    parseValue n ((dumps v).chars ++ r) = some (v, r)

theorem parseList_dumps {xs : List Value} (hne : xs ≠ []) (hloaded : ∀ x ∈ xs, Loaded x) (hreads : ∀ x ∈ xs, Reads x)
    (n : ℕ) (r : List Char) (hn : 2 * (dumpsList xs).chars.length + 1 < n) :
    parseList n ((dumpsList xs).chars ++ ']' :: r) = some (xs, r) := by
  induction xs generalizing n with
  | nil => exact absurd rfl hne
  | cons x xs ih =>
    obtain ⟨n, rfl⟩ : ∃ m, n = m + 1 := ⟨n - 1, by omega⟩
    obtain ⟨hx, hxs⟩ := List.forall_mem_cons.1 hreads
    have hloaded' := (List.forall_mem_cons.1 hloaded).2
    cases xs with
    | nil =>
      have hread := hx n (']' :: r) (stops_cons (.inr (.inl rfl)) r) (by rw [dumpsList] at hn; omega)
      rw [dumpsList, parseList, hread]
      rfl
    | cons y ys =>
      simp only [dumpsList, Text.chars_append, Text.chars_ofChars, List.length_append, List.length_singleton] at hn
      have hread := hx n (',' :: ((dumpsList (y :: ys)).chars ++ ']' :: r)) (stops_cons (.inl rfl) _) (by omega)
      have hrest := ih (List.cons_ne_nil y ys) hloaded' hxs n (by omega)
      have htext : (dumpsList (x :: y :: ys)).chars ++ ']' :: r =
          (dumps x).chars ++ ',' :: ((dumpsList (y :: ys)).chars ++ ']' :: r) := by simp [dumpsList]
      have hskip : skipBlanks ((dumpsList (y :: ys)).chars ++ ']' :: r) = (dumpsList (y :: ys)).chars ++ ']' :: r := by
        obtain ⟨c, t, hct, hblank, -⟩ := head_dumps (hloaded' y List.mem_cons_self)
        cases ys <;> simp [dumpsList, hct, skipBlanks_cons hblank]
      rw [htext, parseList, hread]
      simp [skipBlanks_cons (show isBlank ',' = false from rfl), hskip, hrest]

theorem parseFields_dumps {kvs : List (Text × Value)} (hne : kvs ≠ []) (hkeys : ∀ kv ∈ kvs, kv.1.Clean)
    (hloaded : ∀ kv ∈ kvs, Loaded kv.2) (hreads : ∀ kv ∈ kvs, Reads kv.2) (n : ℕ) (r : List Char)
    (hn : 2 * (dumpsFields kvs).chars.length + 1 < n) :
    parseFields n ((dumpsFields kvs).chars ++ '\x7d' :: r) = some (kvs, r) := by
  induction kvs generalizing n with
  | nil => exact absurd rfl hne
  | cons kv kvs ih =>
    obtain ⟨n, rfl⟩ : ∃ m, n = m + 1 := ⟨n - 1, by omega⟩
    obtain ⟨k, v⟩ := kv
    obtain ⟨hk, hkeys'⟩ := List.forall_mem_cons.1 hkeys
    obtain ⟨hv, hvs⟩ := List.forall_mem_cons.1 hreads
    replace hv : Reads v := hv
    obtain ⟨hl, hloaded'⟩ := List.forall_mem_cons.1 hloaded
    obtain ⟨c, t, hct, hblank, -⟩ := head_dumps hl
    have hskip : ∀ r, skipBlanks ((dumps v).chars ++ r) = (dumps v).chars ++ r := fun r => by
      rw [hct]
      exact skipBlanks_cons hblank _
    have hstring := fun r => scanString_dumpsStr hk (':' :: r)
    cases kvs with
    | nil =>
      simp only [dumpsFields, Text.chars_append, Text.chars_ofChars, List.length_append, List.length_singleton] at hn
      have hread := hv n ('\x7d' :: r) (stops_cons (.inr (.inr rfl)) r) (by omega)
      have htext : (dumpsFields [(k, v)]).chars ++ '\x7d' :: r =
          '"' :: (Text.chars (k.flatMap escape) ++ '"' :: ':' :: ((dumps v).chars ++ '\x7d' :: r)) := by
        simp [dumpsFields, chars_dumpsStr]
      rw [htext, parseFields, hstring]
      simp [skipBlanks_cons (show isBlank ':' = false from rfl), skipBlanks_cons (show isBlank '\x7d' = false from rfl),
        hskip, hread]
    | cons kv' kvs =>
      simp only [dumpsFields, Text.chars_append, Text.chars_ofChars, List.length_append, List.length_singleton] at hn
      have hread := hv n (',' :: ((dumpsFields (kv' :: kvs)).chars ++ '\x7d' :: r)) (stops_cons (.inl rfl) _) (by omega)
      have hrest := ih (List.cons_ne_nil kv' kvs) hkeys' hloaded' hvs n (by omega)
      have htext : (dumpsFields ((k, v) :: kv' :: kvs)).chars ++ '\x7d' :: r =
          '"' :: (Text.chars (k.flatMap escape) ++ '"' :: ':' :: ((dumps v).chars ++
            ',' :: ((dumpsFields (kv' :: kvs)).chars ++ '\x7d' :: r))) := by
        simp [dumpsFields, chars_dumpsStr]
      have hnext : skipBlanks ((dumpsFields (kv' :: kvs)).chars ++ '\x7d' :: r) =
          (dumpsFields (kv' :: kvs)).chars ++ '\x7d' :: r := by
        have hquote := fun cs => skipBlanks_cons (show isBlank '"' = false from rfl) cs
        cases kvs <;> simp [dumpsFields, chars_dumpsStr, hquote]
      rw [htext, parseFields, hstring]
      simp [skipBlanks_cons (show isBlank ':' = false from rfl), skipBlanks_cons (show isBlank ',' = false from rfl),
        hskip, hread, hnext, hrest]

/-- by the elements and the fields of the value -/
theorem parseValue_dumps {v : Value} (hclean : Clean v) (hloaded : Loaded v) : Reads v := by
  induction v using Value.induct with
  | null =>
    intro n r _ hn
    obtain ⟨n, rfl⟩ : ∃ m, n = m + 1 := ⟨n - 1, by omega⟩
    rw [dumps, Text.chars_ofChars]
    exact parseValue_scalar (scanScalar_literal (l := ("null".toList, .null)) (by simp [literals]) r) n
  | bool b =>
    intro n r _ hn
    obtain ⟨n, rfl⟩ : ∃ m, n = m + 1 := ⟨n - 1, by omega⟩
    rw [dumps, Text.chars_ofChars]
    exact parseValue_scalar (scanScalar_bool b r) n
  | int i =>
    intro n r hr hn
    obtain ⟨n, rfl⟩ : ∃ m, n = m + 1 := ⟨n - 1, by omega⟩
    cases hloaded with | int h =>
    rw [dumps, Text.chars_ofChars]
    exact parseValue_scalar (scanScalar_int i h hr) n
  | float x =>
    intro n r hr hn
    obtain ⟨n, rfl⟩ : ∃ m, n = m + 1 := ⟨n - 1, by omega⟩
    cases hloaded with | float h =>
    rw [dumps, Text.chars_ofChars]
    exact parseValue_scalar (scanScalar_float h hr) n
  | str s =>
    intro n r _ hn
    obtain ⟨n, rfl⟩ : ∃ m, n = m + 1 := ⟨n - 1, by omega⟩
    cases hclean with | str hs =>
    rw [dumps, chars_dumpsStr, List.cons_append, List.append_assoc, List.singleton_append, parseValue, if_pos rfl,
      scanString_dumpsStr hs]
    rfl
  | arr xs ih =>
    intro n r _ hn
    obtain ⟨n, rfl⟩ : ∃ m, n = m + 1 := ⟨n - 1, by omega⟩
    cases hclean with | arr hclean =>
    cases hloaded with | arr hloaded =>
    cases xs with
    | nil => rfl
    | cons x xs =>
      simp only [dumps, Text.chars_append, Text.chars_ofChars, List.length_append, List.length_singleton] at hn
      have hread := parseList_dumps (List.cons_ne_nil x xs) hloaded (fun y hy => ih y hy (hclean y hy) (hloaded y hy)) n r
        (by omega)
      obtain ⟨c, t, hct, hblank, hclose⟩ := head_dumps (hloaded x List.mem_cons_self)
      obtain ⟨t', ht'⟩ : ∃ t', (dumpsList (x :: xs)).chars ++ ']' :: r = c :: t' := by
        cases xs <;> simp [dumpsList, hct]
      have htext : (dumps (.arr (x :: xs))).chars ++ r = '[' :: ((dumpsList (x :: xs)).chars ++ ']' :: r) := by
        simp [dumps]
      rw [htext, parseValue, if_neg (by decide), if_pos rfl]
      rw [ht'] at hread ⊢
      rw [skipBlanks_cons hblank]
      split
      · rename_i heq
        exact absurd (List.cons.inj heq).1 hclose
      · rw [hread]
        rfl
  | obj kvs ih =>
    intro n r _ hn
    obtain ⟨n, rfl⟩ : ∃ m, n = m + 1 := ⟨n - 1, by omega⟩
    cases hclean with | obj hclean hvalues =>
    cases hloaded with | obj hkeys hloaded =>
    cases kvs with
    | nil => rfl
    | cons kv kvs =>
      simp only [dumps, Text.chars_append, Text.chars_ofChars, List.length_append, List.length_singleton] at hn
      have hread := parseFields_dumps (List.cons_ne_nil kv kvs) hclean hloaded
        (fun y hy => ih y hy (hvalues y hy) (hloaded y hy)) n r (by omega)
      obtain ⟨t, ht⟩ : ∃ t, (dumpsFields (kv :: kvs)).chars ++ '\x7d' :: r = '"' :: t := by
        cases kvs <;> simp [dumpsFields, chars_dumpsStr]
      have htext : (dumps (.obj (kv :: kvs))).chars ++ r =
          '\x7b' :: ((dumpsFields (kv :: kvs)).chars ++ '\x7d' :: r) := by simp [dumps]
      rw [htext, parseValue, if_neg (by decide), if_neg (by decide), if_pos rfl]
      rw [ht] at hread ⊢
      rw [skipBlanks_cons (by decide)]
      split
      · rename_i heq
        exact absurd (List.cons.inj heq).1 (by decide)
      · rw [hread, Option.map_some, ofFields_nodup hkeys]

/-- **A round trip.** A loaded value without lone surrogates is read back from its text, with blanks behind it. -/
theorem loads_dumps {v : Value} (hclean : Clean v) (hloaded : Loaded v) (r : List Char) (hr : r.all isBlank) :
    loads ((dumps v).chars ++ r) = some v := by
  have hstops : Stops r := by
    intro c hc
    cases r with
    | nil => cases hc
    | cons a r =>
      obtain rfl : a = c := Option.some.inj hc
      have hblank : isBlank a = true := List.all_eq_true.1 hr a List.mem_cons_self
      simp only [isBlank, Bool.or_eq_true, decide_eq_true_eq] at hblank
      rcases hblank with ((rfl | rfl) | rfl) | rfl <;> decide
  have hrest : (skipBlanks r).isEmpty = true := by
    rw [List.isEmpty_iff, skipBlanks, List.dropWhile_eq_nil_iff]
    exact List.all_eq_true.1 hr
  obtain ⟨c, t, hct, hblank, -⟩ := head_dumps hloaded
  have hskip : skipBlanks ((dumps v).chars ++ r) = (dumps v).chars ++ r := by
    rw [hct]
    exact skipBlanks_cons hblank _
  rw [loads, hskip, parseValue_dumps hclean hloaded _ r hstops (by rw [List.length_append]; omega)]
  exact if_pos hrest

end Value

/-! ## The size of a text -/

/-- the bytes of a point in UTF-8; a surrogate has no strict encoding and would take three -/
def Point.size : Point → ℕ
  | .scalar c => c.utf8Size
  | .surrogate _ => 3

namespace Text

def size (t : Text) : ℕ := (t.map Point.size).sum

@[simp] theorem size_append (s t : Text) : size (s ++ t) = size s + size t := by simp [size]

@[simp] theorem size_ofChars (cs : List Char) : size (ofChars cs) = (cs.map Char.utf8Size).sum := by
  simp [size, ofChars, Function.comp_def, Point.size]

/-- `str.encode("utf-8")`, which refuses a lone surrogate -/
def encode? (t : Text) : Option Base64.Bytes := if t.Clean then some (t.chars.flatMap String.utf8EncodeChar) else none

theorem size_encode {t : Text} (h : t.Clean) : (t.chars.flatMap String.utf8EncodeChar).length = t.size := by
  induction t with
  | nil => rfl
  | cons p t ih =>
    obtain ⟨hp, ht⟩ := List.forall_mem_cons.1 h
    cases p with
    | surrogate n => cases hp
    | scalar c =>
      rw [show chars (.scalar c :: t) = c :: chars t from rfl, List.flatMap_cons, List.length_append, ih ht,
        String.length_utf8EncodeChar]
      rfl

end Text

namespace Value

/-- the bytes of a point inside a JSON string -/
def escapeSize : Point → ℕ
  | .scalar c =>
    if c = '"' ∨ c = '\\' ∨ c = '\n' ∨ c = '\r' ∨ c = '\t' ∨ c.toNat = 8 ∨ c.toNat = 12 then 2
    else if c.toNat < 32 then 6
    else c.utf8Size
  | .surrogate n => Point.size (.surrogate n)

def strSize (s : Text) : ℕ := 2 + (s.map escapeSize).sum

mutual
/-- the bytes of the text of a value -/
def size : Value → ℕ
  | .null => 4
  | .bool b => if b then 4 else 5
  | .int n => ((intText n).map Char.utf8Size).sum
  | .float x => (x.dumps.toList.map Char.utf8Size).sum
  | .str s => strSize s
  | .arr xs => 2 + listSize xs
  | .obj kvs => 2 + fieldsSize kvs
/-- elements, with a comma between two -/
def listSize : List Value → ℕ
  | [] => 0
  | x :: xs => size x + (if xs.isEmpty then 0 else 1) + listSize xs
/-- fields, with a comma between two -/
def fieldsSize : List (Text × Value) → ℕ
  | [] => 0
  | (k, v) :: kvs => strSize k + 1 + size v + (if kvs.isEmpty then 0 else 1) + fieldsSize kvs
end

theorem size_escape (p : Point) : Text.size (escape p) = escapeSize p := by
  cases p with
  | surrogate n => rfl
  | scalar c =>
    have hdigit : ∀ n < 16, (Nat.digitChar n).utf8Size = 1 := by decide
    rw [escape, Text.size_ofChars]
    unfold Py.escape
    split_ifs with h₁ h₂ h₃ h₄ h₅ h₆ h₇ h₈
    · subst h₁
      decide
    · subst h₂
      decide
    · subst h₃
      decide
    · subst h₄
      decide
    · subst h₅
      decide
    · simp [escapeSize, h₆, show '\\'.utf8Size = 1 from rfl, show 'b'.utf8Size = 1 from rfl]
    · simp [escapeSize, h₇, show '\\'.utf8Size = 1 from rfl, show 'f'.utf8Size = 1 from rfl]
    · simp [escapeSize, h₁, h₂, h₃, h₄, h₅, h₆, h₇, h₈, hdigit (c.toNat / 16) (by omega), hdigit (c.toNat % 16) (by omega),
        show '\\'.utf8Size = 1 from rfl, show 'u'.utf8Size = 1 from rfl, show '0'.utf8Size = 1 from rfl]
    · simp [escapeSize, h₁, h₂, h₃, h₄, h₅, h₆, h₇, h₈]

theorem size_dumpsStr (s : Text) : (dumpsStr s).size = strSize s := by
  have hbody : Text.size (s.flatMap escape) = (s.map escapeSize).sum := by
    induction s with
    | nil => rfl
    | cons p s ih => rw [List.flatMap_cons, Text.size_append, ih, size_escape, List.map_cons, List.sum_cons]
  have hquote : '"'.utf8Size = 1 := rfl
  simp only [dumpsStr, Text.size_append, Text.size_ofChars, hbody, strSize, List.map_cons, List.map_nil, List.sum_cons,
    List.sum_nil, hquote]
  omega

theorem size_dumps (v : Value) : (dumps v).size = size v := by
  have hcomma : ','.utf8Size = 1 := rfl
  have hcolon : ':'.utf8Size = 1 := rfl
  have hopen : '['.utf8Size = 1 := rfl
  have hclose : ']'.utf8Size = 1 := rfl
  have hopen' : '\x7b'.utf8Size = 1 := rfl
  have hclose' : '\x7d'.utf8Size = 1 := rfl
  induction v using Value.induct with
  | null => decide
  | bool b => cases b <;> decide
  | int n => rw [dumps, Text.size_ofChars, size]
  | float x => rw [dumps, Text.size_ofChars, size]
  | str s => rw [dumps, size_dumpsStr, size]
  | arr xs ih =>
    have hlist : (dumpsList xs).size = listSize xs := by
      induction xs with
      | nil => rfl
      | cons x xs ihxs =>
        have hrest := ihxs fun y hy => ih y (List.mem_cons_of_mem x hy)
        have hx := ih x List.mem_cons_self
        cases xs with
        | nil => simp [dumpsList, listSize, hx]
        | cons y ys =>
          simp only [dumpsList, Text.size_append, Text.size_ofChars, hx, hrest, List.map_cons, List.map_nil, List.sum_cons,
            List.sum_nil, hcomma]
          rfl
    simp only [dumps, size, Text.size_append, Text.size_ofChars, hlist, List.map_cons, List.map_nil, List.sum_cons,
      List.sum_nil, hopen, hclose]
    omega
  | obj kvs ih =>
    have hfields : (dumpsFields kvs).size = fieldsSize kvs := by
      induction kvs with
      | nil => rfl
      | cons kv kvs ihkvs =>
        have hrest := ihkvs fun y hy => ih y (List.mem_cons_of_mem kv hy)
        have hkv := ih kv List.mem_cons_self
        cases kvs with
        | nil =>
          simp only [dumpsFields, Text.size_append, Text.size_ofChars, hkv, size_dumpsStr, List.map_cons, List.map_nil,
            List.sum_cons, List.sum_nil, hcolon]
          rfl
        | cons y ys =>
          simp only [dumpsFields, Text.size_append, Text.size_ofChars, hkv, hrest, size_dumpsStr, List.map_cons,
            List.map_nil, List.sum_cons, List.sum_nil, hcomma, hcolon]
          rfl
    simp only [dumps, size, Text.size_append, Text.size_ofChars, hfields, List.map_cons, List.map_nil, List.sum_cons,
      List.sum_nil, hopen', hclose']
    omega

/-! ## Line breaks -/

/-- only a line break is encoded with its byte -/
theorem newline_utf8EncodeChar {c : Char} (h : 10 ∈ String.utf8EncodeChar c) : c = '\n' := by
  have hbyte : ∀ n < 256, (10 : UInt8) = UInt8.ofNat n → n = 10 := fun n hn he => by
    have hnat := congrArg UInt8.toNat he
    rw [UInt8.toNat_ofNat', Nat.mod_eq_of_lt hn] at hnat
    exact hnat.symm
  unfold String.utf8EncodeChar at h
  dsimp only at h
  split_ifs at h with h₁ h₂ h₃
  · have hten := hbyte _ (by omega) (List.mem_singleton.1 h)
    exact Char.ext (UInt32.toNat.inj hten)
  -- every byte of a longer encoding is 128 or more
  all_goals
    simp only [List.mem_cons, List.not_mem_nil, or_false] at h
    have hlong : ∀ n, 128 ≤ n → n < 256 → (10 : UInt8) ≠ UInt8.ofNat n := fun n hlow hn he => by
      have := hbyte n hn he
      omega
  · rcases h with h | h
    · exact absurd h (hlong _ (by omega) (by omega))
    · exact absurd h (hlong _ (by omega) (by omega))
  · rcases h with h | h | h
    · exact absurd h (hlong _ (by omega) (by omega))
    · exact absurd h (hlong _ (by omega) (by omega))
    · exact absurd h (hlong _ (by omega) (by omega))
  · rcases h with h | h | h | h
    · exact absurd h (hlong _ (by omega) (by omega))
    · exact absurd h (hlong _ (by omega) (by omega))
    · exact absurd h (hlong _ (by omega) (by omega))
    · exact absurd h (hlong _ (by omega) (by omega))

theorem newline_encode {cs : List Char} (h : '\n' ∉ cs) : 10 ∉ cs.flatMap String.utf8EncodeChar := by
  intro hmem
  obtain ⟨c, hc, hbyte⟩ := List.mem_flatMap.1 hmem
  exact h (newline_utf8EncodeChar hbyte ▸ hc)

theorem newline_toDigits (n : ℕ) : '\n' ∉ Nat.toDigits 10 n := fun h => by
  have hdigit := (digits_toDigits n).digit _ h
  cases hdigit

theorem newline_repr (x : Flt) : '\n' ∉ x.dumps.toList := by
  have hdec : ∀ neg d e, '\n' ∉ (Flt.dec neg d e).repr.toList := by
    intro neg d e
    have htake : ∀ k, '\n' ∉ (Nat.toDigits 10 d).take k := fun k h => newline_toDigits d (List.mem_of_mem_take h)
    have hdrop : ∀ k, '\n' ∉ (Nat.toDigits 10 d).drop k := fun k h => newline_toDigits d (List.mem_of_mem_drop h)
    have htail : '\n' ∉ (Nat.toDigits 10 d).tail := fun h => newline_toDigits d (List.mem_of_mem_tail h)
    have hsign : '\n' ∉ (if neg then ['-'] else []) := by cases neg <;> simp
    unfold Flt.repr
    simp only [String.toList_ofList, List.mem_append, not_or]
    refine ⟨hsign, ?_⟩
    split_ifs <;> simp [newline_toDigits, htake, hdrop, htail]
  cases x with
  | nan => decide
  | inf neg => cases neg <;> decide
  | dec neg d e => exact hdec neg d e

theorem newline_escape (p : Point) : '\n' ∉ Text.chars (escape p) := by
  cases p with
  | surrogate n => simp [escape, Text.chars, Point.char?]
  | scalar c =>
    rw [escape, Text.chars_ofChars]
    obtain ⟨x, hx, he⟩ | ⟨hlt, he⟩ | ⟨hle, -, -, he⟩ := escape_cases c
    · have hletter : ∀ entry ∈ backslashed, '\n' ∉ ['\\', entry.1] := by decide
      rw [he]
      exact hletter _ hx
    · have hdigit : ∀ n < 16, '\n' ≠ Nat.digitChar n := by decide
      simp [he, hdigit (c.toNat / 16) (by omega), hdigit (c.toNat % 16) (by omega)]
    · rw [he, List.mem_singleton]
      rintro rfl
      exact absurd hle (by decide)

theorem newline_dumpsStr (s : Text) : '\n' ∉ (dumpsStr s).chars := by
  have hbody : '\n' ∉ Text.chars (s.flatMap escape) := by
    induction s with
    | nil => simp [Text.chars]
    | cons p s ih =>
      rw [List.flatMap_cons, Text.chars_append, List.mem_append, not_or]
      exact ⟨newline_escape p, ih⟩
  rw [chars_dumpsStr]
  simp [hbody]

/-- **One line.** The text of a value has no line break. -/
theorem newline_dumps (v : Value) : '\n' ∉ (dumps v).chars := by
  induction v using Value.induct with
  | null => decide
  | bool b => cases b <;> decide
  | int n =>
    rw [dumps, Text.chars_ofChars, intText, List.mem_append, not_or]
    exact ⟨by split_ifs <;> decide, newline_toDigits _⟩
  | float x =>
    rw [dumps, Text.chars_ofChars]
    exact newline_repr x
  | str s => exact newline_dumpsStr s
  | arr xs ih =>
    have hlist : '\n' ∉ (dumpsList xs).chars := by
      induction xs with
      | nil => simp [dumpsList, Text.chars]
      | cons x xs ihxs =>
        have hrest := ihxs fun y hy => ih y (List.mem_cons_of_mem x hy)
        have hx := ih x List.mem_cons_self
        cases xs with
        | nil => exact hx
        | cons y ys => simp [dumpsList, hx, hrest]
    simp [dumps, hlist]
  | obj kvs ih =>
    have hfields : '\n' ∉ (dumpsFields kvs).chars := by
      induction kvs with
      | nil => simp [dumpsFields, Text.chars]
      | cons kv kvs ihkvs =>
        have hrest := ihkvs fun y hy => ih y (List.mem_cons_of_mem kv hy)
        have hkv := ih kv List.mem_cons_self
        cases kvs with
        | nil => simp [dumpsFields, newline_dumpsStr, hkv]
        | cons y ys => simp [dumpsFields, newline_dumpsStr, hkv, hrest]
    simp [dumps, hfields]

/-! ## Values without surrogates -/

mutual
def ofJson : Json → Value
  | .null => .null
  | .bool b => .bool b
  | .int n => .int n
  | .float x => .float x
  | .str s => .str (Text.ofChars s.toList)
  | .arr xs => .arr (ofJsonList xs)
  | .obj kvs => .obj (ofJsonFields kvs)
def ofJsonList : List Json → List Value
  | [] => []
  | x :: xs => ofJson x :: ofJsonList xs
def ofJsonFields : List (String × Json) → List (Text × Value)
  | [] => []
  | (k, v) :: kvs => (Text.ofChars k.toList, ofJson v) :: ofJsonFields kvs
end

theorem dumpsStr_ofChars (s : String) : dumpsStr (Text.ofChars s.toList) = Text.ofChars (Py.dumpsStr s).toList := by
  have hbody : (Text.ofChars s.toList).flatMap escape = Text.ofChars (s.toList.flatMap Py.escape) := by
    generalize s.toList = cs
    induction cs with
    | nil => rfl
    | cons c cs ih =>
      rw [List.flatMap_cons, Text.ofChars_append, ← ih]
      rfl
  simp only [dumpsStr, hbody, Py.dumpsStr, String.toList_append, String.toList_ofList, Text.ofChars_append]
  rfl

theorem toList_toString (n : ℤ) : (toString n).toList = intText n := by
  cases n with
  | ofNat m =>
    have hrepr : toString (Int.ofNat m) = m.repr := rfl
    rw [hrepr, Nat.toList_repr, intText, if_neg (by simp)]
    rfl
  | negSucc m =>
    have hrepr : toString (Int.negSucc m) = "-" ++ (m + 1).repr := rfl
    rw [hrepr, String.toList_append, Nat.toList_repr, intText, if_pos (Int.negSucc_lt_zero m)]
    rfl

mutual
/-- such a value is written as the JSON text it stands for -/
theorem dumps_ofJson : ∀ j : Json, dumps (ofJson j) = Text.ofChars j.dumps.toList
  | .null => rfl
  | .bool b => by cases b <;> rfl
  | .int n => by rw [ofJson, dumps, Json.dumps, toList_toString]
  | .float x => by rw [ofJson, dumps, Json.dumps]
  | .str s => by rw [ofJson, dumps, Json.dumps, dumpsStr_ofChars]
  | .arr xs => by
    rw [ofJson, dumps, dumpsList_ofJson xs, Json.dumps, String.toList_append, String.toList_append, Text.ofChars_append,
      Text.ofChars_append]
    rfl
  | .obj kvs => by
    rw [ofJson, dumps, dumpsFields_ofJson kvs, Json.dumps, String.toList_append, String.toList_append,
      Text.ofChars_append, Text.ofChars_append]
    rfl
theorem dumpsList_ofJson : ∀ xs : List Json, dumpsList (ofJsonList xs) = Text.ofChars (Json.dumpsList xs).toList
  | [] => rfl
  | [x] => dumps_ofJson x
  | x :: y :: xs => by
    have hrest := dumpsList_ofJson (y :: xs)
    rw [ofJsonList] at hrest
    simp only [ofJsonList, dumpsList, dumps_ofJson x, hrest, Json.dumpsList, String.toList_append, Text.ofChars_append]
    rfl
theorem dumpsFields_ofJson : ∀ kvs : List (String × Json),
    dumpsFields (ofJsonFields kvs) = Text.ofChars (Json.dumpsFields kvs).toList
  | [] => rfl
  | [(k, v)] => by
    simp only [ofJsonFields, dumpsFields, dumps_ofJson v, dumpsStr_ofChars, Json.dumpsFields, String.toList_append,
      Text.ofChars_append]
    rfl
  | (k, v) :: e :: kvs => by
    have hrest := dumpsFields_ofJson (e :: kvs)
    simp only [ofJsonFields] at hrest
    simp only [ofJsonFields, dumpsFields, dumps_ofJson v, dumpsStr_ofChars, hrest, Json.dumpsFields, String.toList_append,
      Text.ofChars_append]
    rfl
end

end Value

end Py
