/-
Patching a store of named callables, and putting back what was saved.

A store is a function of the names. A patch puts a wrapper on a name and saves, as the original, what it finds there.
Restoring walks the saved patches; `restoreIf` takes back only what still looks like its own wrapper.

- `patchUnless`: one patch, left out where the name's callable looks patched already. `patchUnless_all`: the store after
  patching a list of names.
- `Under mine t s ps`: below the patches ps of the store s lies t, wherever they are still recognised as one's own.
- `restoreIf_eq`: restoring then gives t, in whatever order and however often a name was patched.
-/
import Mathlib.Logic.Function.Basic
import Mathlib.Data.List.Basic
import Mathlib.Data.List.Induction

namespace Patches

universe u v
variable {κ : Type u} {F : Type v} [DecidableEq κ]

/-! ## Patching and restoring -/

/-- the name gets a wrapper around its callable, which is saved, unless it is to be skipped -/
def patchUnless (skip : F → Bool) (wrap : F → F) (st : (κ → F) × List (κ × F)) (k : κ) : (κ → F) × List (κ × F) :=
  if skip (st.1 k) then st else (Function.update st.1 k (wrap (st.1 k)), st.2 ++ [(k, st.1 k)])

/-- the saved originals are put back where the callable is recognised -/
def restoreIf (mine : F → Bool) (ps : List (κ × F)) (s : κ → F) : κ → F :=
  ps.foldl (fun s p => if mine (s p.1) then Function.update s p.1 p.2 else s) s

/-- the saved originals are put back, whatever is there -/
def restore (ps : List (κ × F)) (s : κ → F) : κ → F := ps.foldl (fun s p => Function.update s p.1 p.2) s

variable {mine : F → Bool} {wrap : F → F} {s t : κ → F} {ps : List (κ × F)}

theorem restore_eq_restoreIf : restore ps s = restoreIf (fun _ => true) ps s := by
  simp [restore, restoreIf]

/-! ## What lies under the patches -/

/-- t lies under the patches of s: they saved it where they are recognised, and elsewhere it is s itself -/
structure Under (mine : F → Bool) (t s : κ → F) (ps : List (κ × F)) : Prop where
  saved : ∀ p ∈ ps, mine (s p.1) = true → p.2 = t p.1
  bare : ∀ k, (k ∉ ps.map Prod.fst ∨ mine (s k) = false) → s k = t k

omit [DecidableEq κ] in
theorem Under.refl (s : κ → F) : Under mine s s [] := ⟨nofun, fun _ _ => rfl⟩

omit [DecidableEq κ] in
theorem Under.reverse (h : Under mine t s ps) : Under mine t s ps.reverse :=
  ⟨fun p hp => h.saved p (List.mem_reverse.1 hp), fun k hk => h.bare k (by simpa using hk)⟩

/-- one more patch, of a name without one: what it saves lies under it -/
theorem Under.put (h : Under mine t s ps) {k : κ} {f w : F} (hk : k ∉ ps.map Prod.fst) (hw : mine w = true) :
    Under mine (Function.update t k f) (Function.update s k w) (ps ++ [(k, f)]) := by
  constructor
  · intro p hp hmine
    rcases List.mem_append.1 hp with hp | hp
    · have hne : p.1 ≠ k := fun heq => hk (heq ▸ List.mem_map_of_mem hp)
      rw [Function.update_of_ne hne] at hmine ⊢
      exact h.saved p hp hmine
    · rw [List.mem_singleton.1 hp, Function.update_self]
  · intro j hj
    by_cases hjk : j = k
    · subst hjk
      rw [Function.update_self, hw] at hj
      simp at hj
    · rw [Function.update_of_ne hjk] at hj ⊢
      rw [Function.update_of_ne hjk]
      exact h.bare j (hj.imp_left fun hj => by simpa [hjk] using hj)

omit [DecidableEq κ] in
/-- one more patch that saves what lies under the name changes nothing -/
theorem Under.again (h : Under mine t s ps) (k : κ) : Under mine t s (ps ++ [(k, t k)]) := by
  constructor
  · intro p hp hmine
    rcases List.mem_append.1 hp with hp | hp
    · exact h.saved p hp hmine
    · rw [List.mem_singleton.1 hp]
  · intro j hj
    refine h.bare j (hj.imp_left fun hj hmem => hj ?_)
    rw [List.map_append]
    exact List.mem_append_left _ hmem

/-- a callable that is not one's own is put in, above and below -/
theorem Under.replace (h : Under mine t s ps) {k : κ} {f : F} (hf : mine f = false) :
    Under mine (Function.update t k f) (Function.update s k f) ps := by
  constructor
  · intro p hp hmine
    by_cases hpk : p.1 = k
    · rw [hpk, Function.update_self, hf] at hmine
      cases hmine
    · rw [Function.update_of_ne hpk] at hmine ⊢
      exact h.saved p hp hmine
  · intro j hj
    by_cases hjk : j = k
    · subst hjk
      rw [Function.update_self, Function.update_self]
    · rw [Function.update_of_ne hjk] at hj ⊢
      rw [Function.update_of_ne hjk]
      exact h.bare j hj

/-- where there is one callable after another to put back, the first has put back t already -/
theorem restoreIf_eq (h : Under mine t s ps) : restoreIf mine ps s = t := by
  induction ps generalizing s with
  | nil => exact funext fun k => h.bare k (Or.inl List.not_mem_nil)
  | cons p ps ih =>
    obtain ⟨k, f⟩ := p
    show restoreIf mine ps (if mine (s k) then Function.update s k f else s) = t
    cases hmine : mine (s k) with
    | false =>
      rw [if_neg (by simp)]
      refine ih ⟨fun q hq => h.saved q (List.mem_cons_of_mem _ hq), fun j hj => h.bare j ?_⟩
      rcases hj with hj | hj
      · by_cases hjk : j = k
        · rw [hjk]
          exact Or.inr hmine
        · exact Or.inl (by simpa [hjk] using hj)
      · exact Or.inr hj
    | true =>
      rw [if_pos rfl]
      obtain rfl : f = t k := h.saved (k, f) (List.mem_cons_self ..) hmine
      refine ih ⟨?_, ?_⟩
      · intro q hq hq'
        by_cases hqk : q.1 = k
        · exact h.saved q (List.mem_cons_of_mem _ hq) (by rw [hqk]; exact hmine)
        · exact h.saved q (List.mem_cons_of_mem _ hq) (by rwa [Function.update_of_ne hqk] at hq')
      · intro j hj
        by_cases hjk : j = k
        · rw [hjk, Function.update_self]
        · rw [Function.update_of_ne hjk] at hj ⊢
          exact h.bare j (hj.imp_left fun hj => by simpa [hjk] using hj)

theorem restore_eq (h : Under (fun _ => true) t s ps) : restore ps s = t := by
  rw [restore_eq_restoreIf, restoreIf_eq h]

/-! ## Patching a list of names -/

/-- patches are added for names of the list only -/
theorem patchUnless_patches (skip : F → Bool) (wrap : F → F) (l : List κ) (st : (κ → F) × List (κ × F)) :
    ∃ ps, (l.foldl (patchUnless skip wrap) st).2 = st.2 ++ ps ∧ ∀ p ∈ ps, p.1 ∈ l := by
  induction l generalizing st with
  | nil => exact ⟨[], by simp, nofun⟩
  | cons k l ih =>
    obtain ⟨ps, hps, hmem⟩ := ih (patchUnless skip wrap st k)
    rw [List.foldl_cons, hps]
    unfold patchUnless
    split_ifs
    · exact ⟨ps, rfl, fun p hp => List.mem_cons_of_mem _ (hmem p hp)⟩
    · refine ⟨(k, st.1 k) :: ps, by simp, fun p hp => ?_⟩
      rcases List.mem_cons.1 hp with rfl | hp
      · exact List.mem_cons_self ..
      · exact List.mem_cons_of_mem _ (hmem p hp)

/-- over a store without patches of one's own, a name is patched at most once, if its callable is not one's own -/
theorem patchUnless_all (hwrap : ∀ f, mine (wrap f) = true) (l : List κ) (s : κ → F) :
    Under mine s (l.foldl (patchUnless mine wrap) (s, [])).1 (l.foldl (patchUnless mine wrap) (s, [])).2 ∧
      (∀ k, (l.foldl (patchUnless mine wrap) (s, [])).1 k = if k ∈ l ∧ mine (s k) = false then wrap (s k) else s k) ∧
      ∀ p ∈ (l.foldl (patchUnless mine wrap) (s, [])).2, mine ((l.foldl (patchUnless mine wrap) (s, [])).1 p.1) = true := by
  induction l using List.reverseRecOn with
  | nil => exact ⟨Under.refl s, by simp, by simp⟩
  | append_singleton l k ih =>
    rw [List.foldl_append, List.foldl_cons, List.foldl_nil]
    obtain ⟨hunder, hat, hmine⟩ := ih
    set st := l.foldl (patchUnless mine wrap) (s, [])
    unfold patchUnless
    cases hk : mine (st.1 k) with
    | true =>
      simp only [if_true]
      refine ⟨hunder, fun j => ?_, hmine⟩
      rw [hat j]
      by_cases hj : j = k
      · subst hj
        rw [hat j] at hk
        split_ifs at hk ⊢ <;> simp_all
      · simp [hj]
    | false =>
      have hsame : st.1 k = s k := hunder.bare k (Or.inr hk)
      simp only [Bool.false_eq_true, if_false]
      have hbare : k ∉ st.2.map Prod.fst := by
        intro hmem
        obtain ⟨p, hp, rfl⟩ := List.mem_map.1 hmem
        rw [hmine p hp] at hk
        cases hk
      refine ⟨?_, ?_, ?_⟩
      · have hput : Under mine (Function.update s k (st.1 k)) _ _ := hunder.put hbare (hwrap (st.1 k))
        rwa [hsame, Function.update_eq_self, ← hsame] at hput
      · intro j
        by_cases hjk : j = k
        · subst hjk
          rw [Function.update_self, if_pos ⟨by simp, by rw [← hsame]; exact hk⟩, hsame]
        · rw [Function.update_of_ne hjk, hat j]
          simp [hjk]
      · intro p hp
        by_cases hpk : p.1 = k
        · rw [hpk, Function.update_self, hwrap]
        · rw [Function.update_of_ne hpk]
          rcases List.mem_append.1 hp with hp | hp
          · exact hmine p hp
          · exact absurd (congrArg Prod.fst (List.mem_singleton.1 hp)) hpk

end Patches
