/-
Doubles and the decimals that name them.

A double is the rational it stands for. `nearestDouble` rounds to the 53 bits a double has, to fewer below the least
normal one; between two neighbours of the same distance it takes the even one. A decimal with 17 digits lies so near to
the double it was taken from that it is read as this double again, so `shortest` finds digits that read back, and
`Flt.ofRat` has nothing to change in a decimal it made itself.

- `nearestDouble_of_near`: what is read near a double is this double.
- `shortest_reads`: the digits found for a double read back as it.
- `ofDecimal_reads`: a float's decimal reads back as the float.
-/
import Mathlib.Tactic.Linarith
import Mathlib.Tactic.Positivity
import Mathlib.Tactic.FieldSimp
import Mathlib.Tactic.Ring
import Mathlib.Algebra.Order.Field.Power
import Mathlib.Data.Rat.Floor
import KerMP.Lib.PyValue

namespace Py

/-! ## Powers and rounding -/

theorem twoPow_eq (e : ℤ) : twoPow e = (2 : ℚ) ^ e := by
  unfold twoPow
  split_ifs with h
  · rw [← zpow_natCast, Int.toNat_of_nonneg h]
  · rw [one_div, ← zpow_natCast, Int.toNat_of_nonneg (by omega), zpow_neg, inv_inv]

theorem tenPow_eq (e : ℤ) : tenPow e = (10 : ℚ) ^ e := by
  unfold tenPow
  split_ifs with h
  · rw [← zpow_natCast, Int.toNat_of_nonneg h]
  · rw [one_div, ← zpow_natCast, Int.toNat_of_nonneg (by omega), zpow_neg, inv_inv]

/-- a positive rational as the fraction of two naturals -/
theorem eq_natAbs_div {q : ℚ} (hq : 0 ≤ q) : q = (q.num.natAbs : ℚ) / q.den := by
  have hnum : ((q.num.natAbs : ℤ) : ℚ) = q.num := by rw [Int.natAbs_of_nonneg (Rat.num_nonneg.2 hq)]
  rw [← Int.cast_natCast (R := ℚ) q.num.natAbs, hnum, Rat.num_div_den]

theorem roundEven_near {q : ℚ} (hq : 0 ≤ q) : |(roundEven q : ℚ) - q| ≤ 1 / 2 := by
  have hden : (0 : ℚ) < q.den := by exact_mod_cast q.den_pos
  have hdiv : (q.num.natAbs : ℚ) = q.den * (q.num.natAbs / q.den : ℕ) + (q.num.natAbs % q.den : ℕ) := by
    exact_mod_cast (Nat.div_add_mod q.num.natAbs q.den).symm
  have hfrac : q = (q.num.natAbs / q.den : ℕ) + (q.num.natAbs % q.den : ℕ) / (q.den : ℚ) := by
    conv_lhs => rw [eq_natAbs_div hq, hdiv]
    field_simp
  have hmod : ((q.num.natAbs % q.den : ℕ) : ℚ) / q.den < 1 := by
    rw [div_lt_one hden]
    exact_mod_cast Nat.mod_lt _ q.den_pos
  have hnonneg : (0 : ℚ) ≤ (q.num.natAbs % q.den : ℕ) / (q.den : ℚ) := by positivity
  unfold roundEven
  dsimp only
  split_ifs with h
  · have hhalf : (1 : ℚ) / 2 ≤ (q.num.natAbs % q.den : ℕ) / (q.den : ℚ) := by
      have hle : q.den ≤ 2 * (q.num.natAbs % q.den) := by omega
      rw [div_le_div_iff₀ two_pos hden]
      calc (1 : ℚ) * q.den = (q.den : ℚ) := one_mul _
        _ ≤ (2 * (q.num.natAbs % q.den) : ℕ) := by exact_mod_cast hle
        _ = (q.num.natAbs % q.den : ℕ) * 2 := by push_cast; ring
    rw [abs_le]
    push_cast
    constructor <;> linarith
  · have hhalf : ((q.num.natAbs % q.den : ℕ) : ℚ) / q.den ≤ 1 / 2 := by
      have hle : 2 * (q.num.natAbs % q.den) ≤ q.den := by omega
      rw [div_le_div_iff₀ hden two_pos]
      calc ((q.num.natAbs % q.den : ℕ) : ℚ) * 2 = (2 * (q.num.natAbs % q.den) : ℕ) := by push_cast; ring
        _ ≤ (q.den : ℚ) := by exact_mod_cast hle
        _ = 1 * q.den := (one_mul _).symm
    rw [abs_le]
    constructor <;> linarith

/-- what is less than a half away from a natural is rounded to it -/
theorem roundEven_eq {q : ℚ} (hq : 0 ≤ q) {n : ℕ} (h : |q - n| < 1 / 2) : roundEven q = n := by
  have hnear := roundEven_near hq
  rw [abs_le] at hnear
  rw [abs_lt] at h
  have hlt : (roundEven q : ℚ) < n + 1 := by linarith
  have hgt : (n : ℚ) < roundEven q + 1 := by linarith
  have hlt' : roundEven q < n + 1 := by exact_mod_cast hlt
  have hgt' : n < roundEven q + 1 := by exact_mod_cast hgt
  omega

/-! ## The nearest double -/

/-- the exponent of a positive rational: it lies between two powers of two -/
def binade (q : ℚ) : ℤ :=
  let e₀ : ℤ := (q.num.natAbs.log2 : ℤ) - q.den.log2
  if q < twoPow e₀ then e₀ - 1 else e₀

/-- the exponent of the last bit -/
def lastBit (e : ℤ) : ℤ := max (e - 52) (-1074)

/-- rounded to its last bit -/
def rounded (q : ℚ) : ℚ := roundEven (q / 2 ^ lastBit (binade q)) * 2 ^ lastBit (binade q)

theorem nearestDouble_eq (q : ℚ) :
    nearestDouble q = if rounded q < 2 ^ (1024 : ℤ) then some (rounded q) else none := by
  unfold rounded
  simp only [← twoPow_eq]
  rfl

theorem binade_spec {q : ℚ} (hq : 0 < q) : (2 : ℚ) ^ binade q ≤ q ∧ q < 2 ^ (binade q + 1) := by
  have hnum : q.num.natAbs ≠ 0 := Int.natAbs_ne_zero.2 (Rat.num_ne_zero.2 hq.ne')
  have hden : (0 : ℚ) < q.den := by exact_mod_cast q.den_pos
  have hfrac := eq_natAbs_div hq.le
  have h₁ : ((2 : ℚ) ^ (q.num.natAbs.log2 : ℤ)) ≤ q.num.natAbs := by
    rw [zpow_natCast]
    exact_mod_cast Nat.log2_self_le hnum
  have h₂ : (q.num.natAbs : ℚ) < 2 ^ ((q.num.natAbs.log2 : ℤ) + 1) := by
    have h := Nat.lt_log2_self (n := q.num.natAbs)
    have hcast : (q.num.natAbs : ℚ) < 2 ^ (q.num.natAbs.log2 + 1) := by exact_mod_cast h
    exact_mod_cast hcast
  have h₃ : ((2 : ℚ) ^ (q.den.log2 : ℤ)) ≤ q.den := by
    rw [zpow_natCast]
    exact_mod_cast Nat.log2_self_le q.den_nz
  have h₄ : (q.den : ℚ) < 2 ^ ((q.den.log2 : ℤ) + 1) := by
    have h := Nat.lt_log2_self (n := q.den)
    have hcast : (q.den : ℚ) < 2 ^ (q.den.log2 + 1) := by exact_mod_cast h
    exact_mod_cast hcast
  have hup : (q.num.natAbs : ℚ) / q.den < 2 ^ ((q.num.natAbs.log2 : ℤ) - q.den.log2 + 1) := by
    rw [div_lt_iff₀ hden]
    calc (q.num.natAbs : ℚ) < 2 ^ ((q.num.natAbs.log2 : ℤ) + 1) := h₂
      _ = 2 ^ ((q.num.natAbs.log2 : ℤ) - q.den.log2 + 1) * 2 ^ (q.den.log2 : ℤ) := by
        rw [← zpow_add₀ two_ne_zero]
        congr 1
        ring
      _ ≤ _ := mul_le_mul_of_nonneg_left h₃ (by positivity)
  have hdown : (2 : ℚ) ^ ((q.num.natAbs.log2 : ℤ) - q.den.log2 - 1) ≤ (q.num.natAbs : ℚ) / q.den := by
    rw [le_div_iff₀ hden]
    calc (2 : ℚ) ^ ((q.num.natAbs.log2 : ℤ) - q.den.log2 - 1) * q.den
        ≤ 2 ^ ((q.num.natAbs.log2 : ℤ) - q.den.log2 - 1) * 2 ^ ((q.den.log2 : ℤ) + 1) :=
          mul_le_mul_of_nonneg_left h₄.le (by positivity)
      _ = 2 ^ (q.num.natAbs.log2 : ℤ) := by
        rw [← zpow_add₀ two_ne_zero]
        congr 1
        ring
      _ ≤ _ := h₁
  rw [← hfrac] at hup hdown
  unfold binade
  dsimp only
  rw [twoPow_eq]
  split_ifs with h
  · exact ⟨hdown, by simpa using h⟩
  · exact ⟨not_lt.1 h, hup⟩

/-- the exponent is the only one with these bounds -/
theorem binade_eq {q : ℚ} (hq : 0 < q) {e : ℤ} (hlow : (2 : ℚ) ^ e ≤ q) (hhigh : q < 2 ^ (e + 1)) : binade q = e := by
  obtain ⟨hl, hh⟩ := binade_spec hq
  have h₁ : binade q < e + 1 := (zpow_lt_zpow_iff_right₀ one_lt_two).1 (hl.trans_lt hhigh)
  have h₂ : e < binade q + 1 := (zpow_lt_zpow_iff_right₀ one_lt_two).1 (hlow.trans_lt hh)
  omega

/-- a power of two is a multiple of every smaller one -/
theorem exists_zpow_eq {j e : ℤ} (h : j ≤ e) : ∃ n : ℕ, (2 : ℚ) ^ e = n * 2 ^ j := by
  refine ⟨2 ^ (e - j).toNat, ?_⟩
  have hcast : ((2 ^ (e - j).toNat : ℕ) : ℚ) = 2 ^ (e - j) := by
    rw [Nat.cast_pow, Nat.cast_ofNat, ← zpow_natCast, Int.toNat_of_nonneg (by omega)]
  rw [hcast, ← zpow_add₀ two_ne_zero, sub_add_cancel]

/-- rounding leaves at most 53 bits -/
theorem rounded_le {q : ℚ} (hq : 0 < q) : rounded q ≤ 2 ^ (lastBit (binade q) + 53) := by
  obtain ⟨-, hhigh⟩ := binade_spec hq
  have hunit : (0 : ℚ) < 2 ^ lastBit (binade q) := by positivity
  have hlast : binade q + 1 ≤ lastBit (binade q) + 53 := by
    unfold lastBit
    omega
  have hbits : q / 2 ^ lastBit (binade q) < 2 ^ 53 := by
    rw [div_lt_iff₀ hunit]
    calc q < 2 ^ (binade q + 1) := hhigh
      _ ≤ 2 ^ (lastBit (binade q) + 53) := zpow_le_zpow_right₀ one_le_two hlast
      _ = 2 ^ 53 * 2 ^ lastBit (binade q) := by rw [zpow_add₀ two_ne_zero, mul_comm]; rfl
  have hround : (roundEven (q / 2 ^ lastBit (binade q)) : ℚ) < (2 ^ 53 + 1 : ℕ) := by
    have hnear := (abs_le.1 (roundEven_near (div_nonneg hq.le hunit.le))).2
    push_cast
    linarith
  have hround' : roundEven (q / 2 ^ lastBit (binade q)) ≤ 2 ^ 53 := Nat.lt_succ_iff.1 (by exact_mod_cast hround)
  calc rounded q ≤ (2 ^ 53 : ℕ) * 2 ^ lastBit (binade q) :=
        mul_le_mul_of_nonneg_right (by exact_mod_cast hround') hunit.le
    _ = 2 ^ (lastBit (binade q) + 53) := by rw [zpow_add₀ two_ne_zero, mul_comm]; norm_num

/-- a rounded number is a multiple of its own last bit, which may be the next one -/
theorem rounded_multiple {q : ℚ} (hq : 0 < q) (hpos : 0 < rounded q) :
    ∃ n : ℕ, rounded q = n * 2 ^ lastBit (binade (rounded q)) := by
  obtain ⟨hlow, -⟩ := binade_spec hpos
  by_cases hle : lastBit (binade (rounded q)) ≤ lastBit (binade q)
  · obtain ⟨n, hn⟩ := exists_zpow_eq hle
    refine ⟨roundEven (q / 2 ^ lastBit (binade q)) * n, ?_⟩
    rw [Nat.cast_mul, mul_assoc, ← hn]
    rfl
  · have hup : binade (rounded q) < lastBit (binade q) + 53 + 1 := by
      have hlt : (2 : ℚ) ^ binade (rounded q) < 2 ^ (lastBit (binade q) + 53 + 1) :=
        (hlow.trans (rounded_le hq)).trans_lt (zpow_lt_zpow_right₀ one_lt_two (by omega))
      exact (zpow_lt_zpow_iff_right₀ one_lt_two).1 hlt
    have hbinade : binade (rounded q) = lastBit (binade q) + 53 := by
      unfold lastBit at hle hup ⊢
      omega
    have hx : rounded q = 2 ^ binade (rounded q) := le_antisymm (hbinade ▸ rounded_le hq) hlow
    have hlast : lastBit (binade (rounded q)) ≤ binade (rounded q) := by
      unfold lastBit at hbinade ⊢
      omega
    obtain ⟨n, hn⟩ := exists_zpow_eq hlast
    exact ⟨n, hx.trans hn⟩

/-- what is near a multiple of its last bit is rounded to it -/
theorem rounded_eq {y : ℚ} (hy : 0 < y) {n : ℕ} (h : |y - n * 2 ^ lastBit (binade y)| < 2 ^ lastBit (binade y) / 2) :
    rounded y = n * 2 ^ lastBit (binade y) := by
  have hunit : (0 : ℚ) < 2 ^ lastBit (binade y) := by positivity
  have hnear : |y / 2 ^ lastBit (binade y) - n| < 1 / 2 := by
    have heq : y / 2 ^ lastBit (binade y) - n = (y - n * 2 ^ lastBit (binade y)) / 2 ^ lastBit (binade y) := by
      field_simp
    rw [heq, abs_div, abs_of_pos hunit, div_lt_iff₀ hunit]
    linarith
  rw [rounded, roundEven_eq (div_nonneg hy.le hunit.le) hnear]

/-- one part in 2·10¹⁶ is less than half of the last bit -/
theorem part_lt {x : ℚ} {e : ℤ} (h : x ≤ 2 ^ (e + 1)) : x / (2 * 10 ^ 16) < 2 ^ lastBit e / 2 := by
  have hunit : (0 : ℚ) < 2 ^ lastBit e := by positivity
  have hlast : e + 1 ≤ lastBit e + 53 := by
    unfold lastBit
    omega
  have hbits : x ≤ 2 ^ 53 * 2 ^ lastBit e := by
    calc x ≤ 2 ^ (e + 1) := h
      _ ≤ 2 ^ (lastBit e + 53) := zpow_le_zpow_right₀ one_le_two hlast
      _ = 2 ^ 53 * 2 ^ lastBit e := by rw [zpow_add₀ two_ne_zero, mul_comm]; rfl
  rw [div_lt_div_iff₀ (by norm_num) two_pos]
  linarith

/-- **What is read near a double.** A number closer to a double than one part in 2·10¹⁶ is read as this double. -/
theorem rounded_of_near {q y : ℚ} (hq : 0 < q) (hpos : 0 < rounded q)
    (hnear : |y - rounded q| ≤ rounded q / (2 * 10 ^ 16)) : rounded y = rounded q := by
  obtain ⟨n, hn⟩ := rounded_multiple hq hpos
  generalize rounded q = x at *
  obtain ⟨hlow, hhigh⟩ := binade_spec hpos
  have hnear' := abs_le.1 hnear
  have hhalf : x / (2 * 10 ^ 16) ≤ x / 2 := div_le_div_of_nonneg_left hpos.le two_pos (by norm_num)
  have hypos : 0 < y := by linarith
  obtain ⟨hylow, hyhigh⟩ := binade_spec hypos
  have hunit : (0 : ℚ) < 2 ^ lastBit (binade x) := by positivity
  have hsmall := part_lt hhigh.le
  have hlast : lastBit (binade x) < binade x + 1 := by
    have hone : (1 : ℚ) ≤ n := by
      have hzero : n ≠ 0 := fun h => hpos.ne' (by rw [hn, h, Nat.cast_zero, zero_mul])
      exact_mod_cast Nat.one_le_iff_ne_zero.2 hzero
    refine (zpow_lt_zpow_iff_right₀ one_lt_two).1 (lt_of_le_of_lt ?_ hhigh)
    calc (2 : ℚ) ^ lastBit (binade x) = 1 * 2 ^ lastBit (binade x) := (one_mul _).symm
      _ ≤ n * 2 ^ lastBit (binade x) := mul_le_mul_of_nonneg_right hone hunit.le
      _ = x := hn.symm
  -- two multiples of the last bit are the same or a last bit apart
  have hapart : ∀ m k : ℕ, m < k → (m : ℚ) * 2 ^ lastBit (binade x) + 2 ^ lastBit (binade x) ≤
      k * 2 ^ lastBit (binade x) := by
    intro m k hmk
    have hcast : (m : ℚ) + 1 ≤ k := by exact_mod_cast hmk
    linarith [mul_le_mul_of_nonneg_right hcast hunit.le]
  rcases lt_trichotomy (binade y) (binade x) with hlt | heq | hgt
  · obtain ⟨k, hk⟩ := exists_zpow_eq (show lastBit (binade x) ≤ binade x by omega)
    have hyx : y < 2 ^ binade x := hyhigh.trans_le (zpow_le_zpow_right₀ one_le_two (by omega))
    have hx : x = 2 ^ binade x := by
      refine le_antisymm (not_lt.1 fun hgt => ?_) hlow
      have hlt : (k : ℚ) * 2 ^ lastBit (binade x) < n * 2 ^ lastBit (binade x) := by
        rw [← hk, ← hn]
        exact hgt
      have hkn : k < n := by exact_mod_cast lt_of_mul_lt_mul_right hlt hunit.le
      linarith [hapart k n hkn]
    have hbinade : binade y = binade x - 1 := by
      refine binade_eq hypos ?_ (by simpa using hyx)
      rw [zpow_sub_one₀ two_ne_zero, ← div_eq_mul_inv, ← hx]
      linarith
    obtain ⟨m, hm⟩ := exists_zpow_eq (show lastBit (binade y) ≤ binade x by unfold lastBit at hlast ⊢; omega)
    rw [hx, hm]
    refine rounded_eq hypos ?_
    rw [← hm, ← hx]
    exact hnear.trans_lt (part_lt (by rw [hbinade, sub_add_cancel]; exact hx.le))
  · rw [hn, ← heq]
    refine rounded_eq hypos ?_
    rw [heq, ← hn]
    exact hnear.trans_lt hsmall
  · obtain ⟨k, hk⟩ := exists_zpow_eq hlast.le
    have hyx : (2 : ℚ) ^ (binade x + 1) ≤ y := (zpow_le_zpow_right₀ one_le_two (by omega)).trans hylow
    have hlt : (n : ℚ) * 2 ^ lastBit (binade x) < k * 2 ^ lastBit (binade x) := by
      rw [← hk, ← hn]
      exact hhigh
    have hnk : n < k := by exact_mod_cast lt_of_mul_lt_mul_right hlt hunit.le
    linarith [hapart n k hnk]

theorem nearestDouble_of_near {q x y : ℚ} (hq : 0 < q) (h : nearestDouble q = some x) (hx : 0 < x)
    (hnear : |y - x| ≤ x / (2 * 10 ^ 16)) : nearestDouble y = some x := by
  rw [nearestDouble_eq] at h ⊢
  split_ifs at h with hbound
  obtain rfl := Option.some.inj h
  rw [rounded_of_near hq hx hnear, if_pos hbound]

/-! ## The digits -/

/-- 17 digits of a double read back as it -/
theorem digits_near {x : ℚ} {e : ℤ} (hx : 0 < x) (he : (10 : ℚ) ^ e ≤ x) :
    |(roundEven (x / tenPow (e - 16)) : ℚ) * tenPow (e - 16) - x| ≤ x / (2 * 10 ^ 16) := by
  have hunit : (0 : ℚ) < 10 ^ (e - 16) := by positivity
  have hnear := roundEven_near (div_nonneg hx.le hunit.le)
  have heq : (roundEven (x / 10 ^ (e - 16)) : ℚ) * 10 ^ (e - 16) - x =
      (roundEven (x / 10 ^ (e - 16)) - x / 10 ^ (e - 16)) * 10 ^ (e - 16) := by field_simp
  have hten : (10 : ℚ) ^ e = 10 ^ 16 * 10 ^ (e - 16) := by
    rw [mul_comm, zpow_sub₀ (by norm_num : (10 : ℚ) ≠ 0)]
    field_simp
  rw [tenPow_eq, heq, abs_mul, abs_of_pos hunit]
  calc |(roundEven (x / 10 ^ (e - 16)) : ℚ) - x / 10 ^ (e - 16)| * 10 ^ (e - 16)
      ≤ 1 / 2 * 10 ^ (e - 16) := mul_le_mul_of_nonneg_right hnear hunit.le
    _ = 10 ^ e / (2 * 10 ^ 16) := by rw [hten]; ring
    _ ≤ x / (2 * 10 ^ 16) := div_le_div_of_nonneg_right he (by norm_num)

/-- the digits found for a double read back as it -/
theorem shortest_reads {q x : ℚ} (hq : 0 < q) (h : nearestDouble q = some x) (hx : 0 < x) {e : ℤ} (he : (10 : ℚ) ^ e ≤ x)
    (fuel k : ℕ) : ∃ d e', shortest x e k fuel = .dec false d e' ∧ nearestDouble (d * tenPow e') = some x := by
  induction fuel generalizing k with
  | zero => exact ⟨_, _, rfl, nearestDouble_of_near hq h hx (digits_near hx he)⟩
  | succ fuel ih =>
    rw [shortest]
    split
    · rename_i d hd
      have hreads : nearestDouble (d * tenPow (e - k)) = some x := by simpa using List.find?_some hd
      split_ifs with hzero
      · refine ⟨_, _, rfl, ?_⟩
        have hten : d * tenPow (e - k) = (d / 10 : ℕ) * tenPow (e - k + 1) := by
          have hd : d = 10 * (d / 10) := by omega
          rw [tenPow_eq, tenPow_eq, zpow_add_one₀ (by norm_num : (10 : ℚ) ≠ 0)]
          conv_lhs => rw [hd]
          push_cast
          ring
        rw [← hten]
        exact hreads
      · exact ⟨_, _, rfl, hreads⟩
    · exact ih _

/-- the decimal exponent of a positive rational -/
theorem tenPow_le {x : ℚ} (hx : 0 < x) :
    let e₀ : ℤ := (Nat.log 10 x.num.natAbs : ℤ) - Nat.log 10 x.den
    (10 : ℚ) ^ (if x < tenPow e₀ then e₀ - 1 else e₀) ≤ x := by
  intro e₀
  have hnum : x.num.natAbs ≠ 0 := Int.natAbs_ne_zero.2 (Rat.num_ne_zero.2 hx.ne')
  have hden : (0 : ℚ) < x.den := by exact_mod_cast x.den_pos
  have h₁ : ((10 : ℚ) ^ (Nat.log 10 x.num.natAbs : ℤ)) ≤ x.num.natAbs := by
    rw [zpow_natCast]
    exact_mod_cast Nat.pow_log_le_self 10 hnum
  have h₂ : (x.den : ℚ) < 10 ^ ((Nat.log 10 x.den : ℤ) + 1) := by
    have h := Nat.lt_pow_succ_log_self (b := 10) (by norm_num) x.den
    have hcast : (x.den : ℚ) < 10 ^ (Nat.log 10 x.den + 1) := by exact_mod_cast h
    exact_mod_cast hcast
  split_ifs with h
  · have hdown : (10 : ℚ) ^ (e₀ - 1) ≤ (x.num.natAbs : ℚ) / x.den := by
      rw [le_div_iff₀ hden]
      calc (10 : ℚ) ^ (e₀ - 1) * x.den ≤ 10 ^ (e₀ - 1) * 10 ^ ((Nat.log 10 x.den : ℤ) + 1) :=
            mul_le_mul_of_nonneg_left h₂.le (by positivity)
        _ = 10 ^ (Nat.log 10 x.num.natAbs : ℤ) := by
          rw [← zpow_add₀ (by norm_num : (10 : ℚ) ≠ 0)]
          congr 1
          ring
        _ ≤ _ := h₁
    rwa [← eq_natAbs_div hx.le] at hdown
  · rw [tenPow_eq] at h
    exact not_lt.1 h

/-- a double by the digits that are found for it -/
def Flt.ofDouble (x : ℚ) : Flt :=
  if x = 0 then .dec false 0 0
  else
    let e₀ : ℤ := (Nat.log 10 x.num.natAbs : ℤ) - Nat.log 10 x.den
    shortest x (if x < tenPow e₀ then e₀ - 1 else e₀) 0 17

theorem nearestDouble_nonneg {q x : ℚ} (h : nearestDouble q = some x) : 0 ≤ x := by
  rw [nearestDouble_eq] at h
  split_ifs at h
  obtain rfl := Option.some.inj h
  exact mul_nonneg (Nat.cast_nonneg _) (zpow_nonneg two_pos.le _)

theorem nearestDouble_zero : nearestDouble 0 = some 0 := by
  have hround : rounded 0 = 0 := by rw [rounded, zero_div, show roundEven 0 = 0 from rfl, Nat.cast_zero, zero_mul]
  have hbound : rounded 0 < 2 ^ (1024 : ℤ) := hround.trans_lt (zpow_pos two_pos _)
  exact (nearestDouble_eq 0).trans ((if_pos hbound).trans (congrArg some hround))

theorem ofDouble_reads {q x : ℚ} (hq : 0 ≤ q) (h : nearestDouble q = some x) :
    ∃ d e, Flt.ofDouble x = .dec false d e ∧ nearestDouble (d * tenPow e) = some x := by
  unfold Flt.ofDouble
  split_ifs with hx
  · subst hx
    exact ⟨0, 0, rfl, by rw [Nat.cast_zero, zero_mul, nearestDouble_zero]⟩
  · have hpos : 0 < x := lt_of_le_of_ne (nearestDouble_nonneg h) (Ne.symm hx)
    have hq : 0 < q := lt_of_le_of_ne hq fun h0 => by
      rw [← h0, nearestDouble_zero] at h
      exact hx (Option.some.inj h).symm
    exact shortest_reads hq h hpos (tenPow_le hpos) 17 0

theorem ofRat_eq {q : ℚ} (hq : 0 ≤ q) : Flt.ofRat q = (nearestDouble q).map Flt.ofDouble := by
  have hneg : ¬ q < 0 := not_lt.2 hq
  unfold Flt.ofRat
  by_cases h0 : q = 0
  · subst h0
    rw [if_pos rfl, nearestDouble_zero]
    rfl
  · simp only [if_neg h0, hneg, if_false, decide_false]
    cases h : nearestDouble q with
    | none => rfl
    | some x =>
      obtain ⟨d, e, hd, -⟩ := ofDouble_reads hq h
      rw [Option.map_some, hd]
      unfold Flt.ofDouble at hd
      dsimp only at hd ⊢
      by_cases hx : x = 0
      · rw [if_pos hx] at hd ⊢
        exact congrArg some hd
      · rw [if_neg hx] at hd ⊢
        rw [hd]

/-! ## Reading a decimal -/

/-- `float(s)` of the decimal ±d·10^e -/
def Flt.ofDecimal (neg : Bool) (d : ℕ) (e : ℤ) : Flt :=
  match Flt.ofRat (d * tenPow e) with
  | none => .inf neg
  | some (.dec _ d e) => .dec neg d e
  | some f => f

theorem ofDecimal_congr {neg : Bool} {d d' : ℕ} {e e' : ℤ} (h : (d : ℚ) * tenPow e = d' * tenPow e') :
    Flt.ofDecimal neg d e = Flt.ofDecimal neg d' e' := by
  rw [Flt.ofDecimal, h]
  rfl

/-- **A float's decimal reads back as the float.** -/
theorem ofDecimal_reads (neg : Bool) (d : ℕ) (e : ℤ) : Flt.ofDecimal neg d e = .inf neg ∨
    ∃ d' e', Flt.ofDecimal neg d e = .dec neg d' e' ∧ Flt.ofDecimal neg d' e' = .dec neg d' e' := by
  have hpos : ∀ (d : ℕ) (e : ℤ), (0 : ℚ) ≤ d * tenPow e := fun d e => by
    rw [tenPow_eq]
    positivity
  unfold Flt.ofDecimal
  rw [ofRat_eq (hpos d e)]
  cases h : nearestDouble (d * tenPow e) with
  | none => exact Or.inl rfl
  | some x =>
    obtain ⟨d', e', hd, hreads⟩ := ofDouble_reads (hpos d e) h
    refine Or.inr ⟨d', e', ?_, ?_⟩
    · rw [Option.map_some, hd]
    · rw [ofRat_eq (hpos d' e'), hreads, Option.map_some, hd]

end Py
