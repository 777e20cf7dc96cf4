/-
The states a run of calls goes through, one after each prefix of the calls.

`reached step s ms n` is the state after the first n calls. A property that one call keeps is kept by the run
(`holds_reached`); one that a call keeps exactly when the call is good is kept all along exactly when every call is good,
each judged in the state it comes to (`holds_reached_iff`). A distance that some of the calls shorten comes to zero when
there are enough of these (`comes_to_zero`). What did not hold at first was made to hold by one of the calls and kept by
every call since (`made_and_kept`). A run that ends with a call is cut into stretches at each occurrence of that call
(`foldl_splitOn`).
-/
import Mathlib.Data.List.Basic

namespace Prefixes

universe u v
variable {S : Type u} {M : Type v} {step : S → M → S} {s : S} {ms : List M} {n : ℕ} {P : S → Prop} {good : S → M → Prop}

/-- the state after the first n calls -/
def reached (step : S → M → S) (s : S) (ms : List M) (n : ℕ) : S := (ms.take n).foldl step s

theorem reached_zero : reached step s ms 0 = s := rfl

theorem reached_succ {m : M} (hm : ms[n]? = some m) : reached step s ms (n + 1) = step (reached step s ms n) m := by
  rw [reached, List.take_add_one, hm, List.foldl_append]
  rfl

/-- after the last call nothing happens -/
theorem reached_end (hm : ms[n]? = none) : reached step s ms (n + 1) = reached step s ms n := by
  rw [reached, List.take_add_one, hm, Option.toList_none, List.append_nil, reached]

theorem holds_reached (hstart : P s) (hstep : ∀ s m, P s → good s m → P (step s m))
    (hgood : ∀ n m, ms[n]? = some m → good (reached step s ms n) m) (n : ℕ) : P (reached step s ms n) := by
  induction n with
  | zero => exact hstart
  | succ n ih =>
    cases hm : ms[n]? with
    | none =>
      rw [reached_end hm]
      exact ih
    | some m =>
      rw [reached_succ hm]
      exact hstep _ m ih (hgood n m hm)

theorem holds_reached_iff (hstart : P s) (hstep : ∀ s m, P s → (P (step s m) ↔ good s m)) :
    (∀ n, P (reached step s ms n)) ↔ ∀ n m, ms[n]? = some m → good (reached step s ms n) m := by
  constructor
  · intro h n m hm
    have hafter := h (n + 1)
    rw [reached_succ hm] at hafter
    exact (hstep _ m (h n)).1 hafter
  · exact fun hgood => holds_reached hstart (fun s m hs hm => (hstep s m hs).2 hm) hgood

theorem made_and_kept {Q : S → Prop} {makes keeps : S → M → Prop} (hstart : ¬ Q s)
    (hstep : ∀ s m, Q (step s m) → makes s m ∨ (Q s ∧ keeps s m)) (hQ : Q (reached step s ms n)) :
    ∃ k < n, ∃ m, ms[k]? = some m ∧ makes (reached step s ms k) m ∧
      ∀ i m', k < i → i < n → ms[i]? = some m' → keeps (reached step s ms i) m' := by
  induction n with
  | zero => exact absurd hQ hstart
  | succ n ih =>
    cases hm : ms[n]? with
    | none =>
      rw [reached_end hm] at hQ
      obtain ⟨k, hk, m, hat, hmakes, hkeeps⟩ := ih hQ
      refine ⟨k, Nat.lt_succ_of_lt hk, m, hat, hmakes, fun i m' hi hin hm' => hkeeps i m' hi ?_ hm'⟩
      rcases Nat.lt_succ_iff_lt_or_eq.1 hin with hlt | rfl
      · exact hlt
      · rw [hm] at hm'
        cases hm'
    | some m =>
      rw [reached_succ hm] at hQ
      rcases hstep _ m hQ with hmakes | ⟨hbefore, hkept⟩
      · exact ⟨n, Nat.lt_succ_self n, m, hm, hmakes, fun i _ hi hin => by omega⟩
      · obtain ⟨k, hk, m₀, hat, hmakes, hkeeps⟩ := ih hbefore
        refine ⟨k, Nat.lt_succ_of_lt hk, m₀, hat, hmakes, fun i m' hi hin hm' => ?_⟩
        rcases Nat.lt_succ_iff_lt_or_eq.1 hin with hlt | rfl
        · exact hkeeps i m' hi hlt hm'
        · rw [hm] at hm'
          cases hm'
          exact hkept

/-- a distance that the own calls shorten, and that no call lengthens, comes to an end when there are enough of them -/
theorem comes_to_zero {d : S → ℕ} {own : M → Bool}
    (hstep : ∀ s m, P s → 0 < d s → good s m → P (step s m) ∧ d (step s m) ≤ d s ∧ (own m = true → d (step s m) < d s))
    (hstart : P s) (hgood : ∀ n m, ms[n]? = some m → good (reached step s ms n) m) (hown : d s ≤ ms.countP own) :
    ∃ n, P (reached step s ms n) ∧ d (reached step s ms n) = 0 := by
  induction ms generalizing s with
  | nil =>
    refine ⟨0, hstart, ?_⟩
    rw [reached_zero]
    simpa using hown
  | cons m ms ih =>
    rcases Nat.eq_zero_or_pos (d s) with hzero | hpos
    · exact ⟨0, hstart, hzero⟩
    · obtain ⟨hkept, hle, hlt⟩ := hstep s m hstart hpos (hgood 0 m rfl)
      have hleft : d (step s m) ≤ ms.countP own := by
        rw [List.countP_cons] at hown
        split_ifs at hown with hm
        · have := hlt hm
          omega
        · omega
      obtain ⟨n, hn⟩ := ih hkept (fun n => hgood (n + 1)) hleft
      exact ⟨n + 1, hn⟩

/-! ## Cutting a run -/

section Cut

variable [DecidableEq M]

theorem not_mem_of_mem_splitOn {m : M} {c : List M} (h : c ∈ ms.splitOn m) : m ∉ c := by
  induction ms generalizing c with
  | nil =>
    rw [List.splitOn_nil, List.mem_singleton] at h
    rw [h]
    exact List.not_mem_nil
  | cons x ms ih =>
    rw [List.splitOn_cons_eq_if_modifyHead] at h
    split_ifs at h with hx
    · rcases List.mem_cons.1 h with rfl | h
      · exact List.not_mem_nil
      · exact ih h
    · cases hcut : ms.splitOn m with
      | nil => exact absurd hcut (List.splitOn_ne_nil m ms)
      | cons d ds =>
        rw [hcut] at h ih
        rcases List.mem_cons.1 h with rfl | h
        · have hne : m ≠ x := fun hm => hx (by simp [hm])
          simpa [hne] using ih (List.mem_cons_self ..)
        · exact ih (List.mem_cons_of_mem _ h)

theorem foldl_splitOn (m : M) (ms : List M) (s : S) :
    (ms ++ [m]).foldl step s = (ms.splitOn m).foldl (fun s c => step (c.foldl step s) m) s := by
  induction ms generalizing s with
  | nil => rfl
  | cons x ms ih =>
    rw [List.cons_append, List.foldl_cons, ih, List.splitOn_cons_eq_if_modifyHead]
    split_ifs with hx
    · rw [List.foldl_cons, List.foldl_nil, beq_iff_eq.1 hx]
    · cases hcut : ms.splitOn m with
      | nil => exact absurd hcut (List.splitOn_ne_nil m ms)
      | cons d ds => rfl

end Cut

end Prefixes
