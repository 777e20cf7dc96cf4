/-
Lists of references, and two loops that delete from a list while they walk it.

A list of objects is a list of references into cells. `sweep` walks a snapshot of such a list, rewrites each object in
place, and takes it off the list when it then is to go; `list.remove` goes by equality, so it takes the first reference
to an equal object. `deleteDown` deletes by index, from the last index down.

- `deleteDown_eq`: what is left is the filtered list, and every deletion is counted.
- `sweep_eq`: every object to go is taken off itself, although equal ones may stand before or after it: those before it
  stay only if they are not to go. What is left are the rewritten objects that stay, in order.
-/
import Mathlib.Algebra.GroupWithZero.Nat
import Mathlib.Data.List.Basic
import Mathlib.Data.List.Induction
import Mathlib.Tactic.SplitIfs

namespace Cells

universe u
variable {α : Type u}

/-! ## Deleting by index -/

/-- `for i in range(n - 1, -1, -1): if p(xs[i]): del xs[i]`, with the number of deletions -/
def deleteDown (p : α → Bool) : ℕ → List α → List α × ℕ
  | 0, xs => (xs, 0)
  | i + 1, xs =>
    if xs[i]?.any p then ((deleteDown p i (xs.eraseIdx i)).1, (deleteDown p i (xs.eraseIdx i)).2 + 1)
    else deleteDown p i xs

theorem deleteDown_take (p : α → Bool) (xs ys : List α) :
    deleteDown p xs.length (xs ++ ys) = (xs.filter (!p ·) ++ ys, xs.countP p) := by
  induction xs using List.reverseRecOn generalizing ys with
  | nil => rfl
  | append_singleton xs x ih =>
    have hat : (xs ++ [x] ++ ys)[xs.length]? = some x := by simp
    have hrest : (xs ++ [x] ++ ys).eraseIdx xs.length = xs ++ ys := by simp [List.eraseIdx_append_of_length_le]
    rw [List.length_append, List.length_singleton, deleteDown, hat, hrest, ih, List.append_assoc, ih]
    by_cases hx : p x <;> simp [hx, List.filter_append, List.countP_append]

theorem deleteDown_eq (p : α → Bool) (xs : List α) : deleteDown p xs.length xs = (xs.filter (!p ·), xs.countP p) := by
  simpa using deleteDown_take p xs []

/-! ## References -/

/-- the objects the references stand for -/
def view (cells : List α) (refs : List ℕ) : List α := refs.filterMap (cells[·]?)

/-- new objects like the given ones -/
def copy (cells : List α) (refs : List ℕ) : List ℕ × List α :=
  (List.range' cells.length (view cells refs).length, cells ++ view cells refs)

theorem view_copy (cells : List α) (refs : List ℕ) : view (copy cells refs).2 (copy cells refs).1 = view cells refs := by
  have hnew : ∀ before xs : List α, view (before ++ xs) (List.range' before.length xs.length) = xs := by
    intro before xs
    induction xs generalizing before with
    | nil => rfl
    | cons x xs ih =>
      have hrest := ih (before ++ [x])
      rw [List.length_append, List.append_assoc] at hrest
      simp only [view, List.length_cons, List.range'_succ, List.filterMap_cons] at hrest ⊢
      simpa using hrest
  exact hnew cells (view cells refs)

theorem view_cons (cells : List α) (r : ℕ) (refs : List ℕ) :
    view cells (r :: refs) = cells[r]?.toList ++ view cells refs := by
  cases h : cells[r]? <;> simp [view, h]

theorem view_append (cells : List α) (refs refs' : List ℕ) :
    view cells (refs ++ refs') = view cells refs ++ view cells refs' := List.filterMap_append

theorem view_congr {cells cells' : List α} {refs : List ℕ} (h : ∀ r ∈ refs, cells'[r]? = cells[r]?) :
    view cells' refs = view cells refs := List.filterMap_congr h

variable [DecidableEq α]

/-- `objects.remove(x)`; none: no object is equal to x -/
def remove (cells : List α) (refs : List ℕ) (x : α) : Option (List ℕ) :=
  if refs.any fun r => cells[r]? = some x then some (refs.eraseP fun r => cells[r]? = some x) else none

/-- the first reference to an equal object is taken off -/
theorem remove_eq {cells : List α} {kept rest : List ℕ} {r : ℕ} {x : α} (hr : cells[r]? = some x)
    (hkept : ∀ k ∈ kept, cells[k]? ≠ some x) : remove cells (kept ++ r :: rest) x = some (kept ++ rest) := by
  have hany : (kept ++ r :: rest).any (fun r => cells[r]? = some x) = true := by simp [hr]
  rw [remove, if_pos hany, List.eraseP_append_right _ (by simpa using hkept), List.eraseP_cons_of_pos (by simpa using hr)]

/-- each object of the snapshot is rewritten by f, which also counts, and taken off when it then is to go -/
def sweep (f : α → α × ℕ) (gone : α → Bool) : List ℕ → List α → List ℕ → ℕ → Option (List ℕ × List α × ℕ)
  | [], cells, refs, n => some (refs, cells, n)
  | r :: rest, cells, refs, n =>
    match cells[r]? with
    | none => sweep f gone rest cells refs n
    | some x =>
      let cells := cells.set r (f x).1
      if gone (f x).1 then (remove cells refs (f x).1).bind fun refs => sweep f gone rest cells refs (n + (f x).2)
      else sweep f gone rest cells refs (n + (f x).2)

/-- **A sweep rewrites and filters.** `kept` is what the sweep has left on the list so far: nothing that is to go. -/
theorem sweep_eq (f : α → α × ℕ) (gone : α → Bool) (rest kept : List ℕ) (cells : List α) (n : ℕ)
    (hnodup : (kept ++ rest).Nodup) (hkept : ∀ k ∈ kept, ∀ x, cells[k]? = some x → gone x = false) :
    ∃ refs cells', sweep f gone rest cells (kept ++ rest) n =
        some (refs, cells', n + ((view cells rest).map fun x => (f x).2).sum) ∧
      view cells' refs = view cells kept ++ ((view cells rest).map fun x => (f x).1).filter (!gone ·) ∧
      ∀ r ∉ rest, cells'[r]? = cells[r]? := by
  induction rest generalizing kept cells n with
  | nil => exact ⟨kept, cells, by simp [sweep, view], by simp [view], fun _ _ => rfl⟩
  | cons r rest ih =>
    have hr : r ∉ kept ∧ r ∉ rest := by
      have := List.nodup_append.1 hnodup
      exact ⟨fun h => this.2.2 r h r List.mem_cons_self rfl, (List.nodup_cons.1 this.2.1).1⟩
    have hshift : kept ++ r :: rest = kept ++ [r] ++ rest := by simp
    cases hx : cells[r]? with
    | none =>
      obtain ⟨refs, cells', hrun, hview, hsame⟩ := ih (kept ++ [r]) cells n (hshift ▸ hnodup) (by
        intro k hk x hkx
        rcases List.mem_append.1 hk with hk | hk
        · exact hkept k hk x hkx
        · rw [List.mem_singleton.1 hk, hx] at hkx
          cases hkx)
      refine ⟨refs, cells', ?_, ?_, fun k hk => hsame k fun h => hk (List.mem_cons_of_mem _ h)⟩
      · simp only [sweep, hx, hshift, hrun, view_cons, Option.toList_none, List.nil_append]
      · rw [hview, view_append]
        simp [view, hx]
    | some x =>
      set cells₁ := cells.set r (f x).1 with hcells₁
      have hlt : r < cells.length := (List.getElem?_eq_some_iff.1 hx).1
      have hat : cells₁[r]? = some (f x).1 := by rw [hcells₁, List.getElem?_set_self hlt]
      have hother : ∀ k, k ≠ r → cells₁[k]? = cells[k]? := fun k hk => by rw [hcells₁, List.getElem?_set_ne hk.symm]
      have hkept₁ : ∀ k ∈ kept, cells₁[k]? = cells[k]? := fun k hk => hother k fun h => hr.1 (h ▸ hk)
      have hrest₁ : view cells₁ rest = view cells rest := view_congr fun k hk => hother k fun h => hr.2 (h ▸ hk)
      cases hgone : gone (f x).1 with
      | true =>
        have hnot : ∀ k ∈ kept, cells₁[k]? ≠ some (f x).1 := by
          intro k hk heq
          rw [hkept₁ k hk] at heq
          rw [hkept k hk _ heq] at hgone
          cases hgone
        obtain ⟨refs, cells', hrun, hview, hsame⟩ := ih kept cells₁ (n + (f x).2)
          (hnodup.sublist (List.Sublist.append_left (List.sublist_cons_self r rest) kept))
          fun k hk y hy => hkept k hk y (hkept₁ k hk ▸ hy)
        refine ⟨refs, cells', ?_, ?_, ?_⟩
        · simp only [sweep, hx, ← hcells₁, hgone, if_true, remove_eq hat hnot, Option.bind_some, hrun, hrest₁, view_cons,
            Option.toList_some, List.singleton_append, List.map_cons, List.sum_cons, Nat.add_assoc]
        · rw [hview, hrest₁, view_congr hkept₁]
          simp [view_cons, hx, hgone]
        · intro k hk
          rw [hsame k fun h => hk (List.mem_cons_of_mem _ h), hother k fun h => hk (h ▸ List.mem_cons_self)]
      | false =>
        obtain ⟨refs, cells', hrun, hview, hsame⟩ := ih (kept ++ [r]) cells₁ (n + (f x).2)
          (hshift ▸ hnodup) (by
            intro k hk y hy
            rcases List.mem_append.1 hk with hk | hk
            · exact hkept k hk y (hkept₁ k hk ▸ hy)
            · rw [List.mem_singleton.1 hk, hat] at hy
              cases hy
              exact hgone)
        refine ⟨refs, cells', ?_, ?_, ?_⟩
        · simp only [sweep, hx, ← hcells₁, hgone, Bool.false_eq_true, if_false, hshift, hrun, hrest₁, view_cons,
            Option.toList_some, List.singleton_append, List.map_cons, List.sum_cons, Nat.add_assoc]
        · rw [hview, hrest₁, view_append, view_congr hkept₁]
          simp [view, hx, hat, hgone]
        · intro k hk
          rw [hsame k fun h => hk (List.mem_cons_of_mem _ h), hother k fun h => hk (h ▸ List.mem_cons_self)]

end Cells
