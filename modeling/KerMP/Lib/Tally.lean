/-
Counting with a dict, and the difference of two counts.

`tally xs` counts the elements of a list as a loop does that adds one under each of them; `surplus c d` lists each key as
often as c has it more than d.

- `times_tally`: the dict counts occurrences.
- `coe_surplus`: the surplus of two tallies is the difference of the multisets.
- `surplus_disjoint`, `sub_surplus_add`: the two differences have nothing in common, and lead from one list to the other.
-/
import Mathlib.Data.List.Induction
import Mathlib.Data.Multiset.UnionInter
import KerMP.Lib.Dict

namespace Tally

universe u
variable {κ : Type u} [DecidableEq κ]

/-- `counts.get(k, 0)` -/
def times (c : Dict κ ℕ) (k : κ) : ℕ := (c.lookup k).getD 0

/-- `counts[k] = counts.get(k, 0) + 1` for each element -/
def tally (xs : List κ) : Dict κ ℕ := xs.foldl (fun c k => c.setItem k (times c k + 1)) ∅

/-- each key as often as c has it more than d -/
def surplus (c d : Dict κ ℕ) : List κ := c.entries.flatMap fun e => List.replicate (e.2 - times d e.1) e.1

theorem tally_concat (xs : List κ) (x : κ) : tally (xs ++ [x]) = (tally xs).setItem x (times (tally xs) x + 1) := by
  simp [tally]

@[simp] theorem times_tally (xs : List κ) (k : κ) : times (tally xs) k = xs.count k := by
  induction xs using List.reverseRecOn with
  | nil => rfl
  | append_singleton xs x ih =>
    rw [tally_concat, List.count_append, times, AList.lookup_setItem]
    by_cases hk : k = x
    · subst hk
      simp [ih]
    · rw [times] at ih
      simp [hk, Ne.symm hk, ih]

/-- the keys of a count are listed once, each as often as its value says -/
theorem count_flatMap_entries (f : κ → ℕ → ℕ) (hf : ∀ k, f k 0 = 0) (k : κ) {l : List (Σ _ : κ, ℕ)} (hl : l.NodupKeys) :
    (l.flatMap fun e => List.replicate (f e.1 e.2) e.1).count k = f k ((l.dlookup k).getD 0) := by
  induction l with
  | nil => simp [hf]
  | cons e l ih =>
    obtain ⟨hnew, hrest⟩ := List.nodupKeys_cons.1 hl
    rw [List.flatMap_cons, List.count_append, ih hrest, List.count_replicate]
    by_cases hk : e.1 = k
    · subst hk
      have habsent : l.dlookup e.1 = none := List.dlookup_eq_none.2 hnew
      have hhere : (e :: l).dlookup e.1 = some e.2 := List.dlookup_cons_eq l e.1 e.2
      simp [habsent, hhere, hf]
    · have hthere : (e :: l).dlookup k = l.dlookup k := List.dlookup_cons_ne l e (Ne.symm hk)
      simp [hk, hthere]

theorem count_surplus (c d : Dict κ ℕ) (k : κ) : (surplus c d).count k = times c k - times d k :=
  count_flatMap_entries (fun k n => n - times d k) (fun _ => Nat.zero_sub _) k c.nodupKeys

/-- the surplus of two tallies is the difference of the multisets -/
theorem coe_surplus (xs ys : List κ) : (surplus (tally xs) (tally ys) : Multiset κ) = (xs : Multiset κ) - ys := by
  ext k
  simp only [Multiset.coe_count, Multiset.count_sub, count_surplus, times_tally]

/-- what is in surplus occurs -/
theorem mem_of_mem_surplus {xs ys : List κ} {k : κ} (h : k ∈ surplus (tally xs) (tally ys)) : k ∈ xs := by
  rw [← List.count_pos_iff, count_surplus, times_tally, times_tally] at h
  exact List.count_pos_iff.1 (by omega)

theorem surplus_disjoint {xs ys : List κ} {k : κ} (h : k ∈ surplus (tally xs) (tally ys)) :
    k ∉ surplus (tally ys) (tally xs) := by
  intro h'
  rw [← List.count_pos_iff, count_surplus] at h h'
  omega

/-- taking the one surplus away and adding the other leads from one list to the other -/
theorem sub_surplus_add (xs ys : List κ) :
    (xs : Multiset κ) - surplus (tally xs) (tally ys) + surplus (tally ys) (tally xs) = ys := by
  ext k
  simp only [Multiset.count_add, Multiset.count_sub, Multiset.coe_count, count_surplus, times_tally]
  omega

end Tally
