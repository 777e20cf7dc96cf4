/-
Lists, newest first, in which some entries carry a number and later ones a greater number.

- `split_unique`: an entry's number tells where in the list it stands.
- `aligned`: of two such streams, the one that has every number of the other, and beyond these only smaller ones, begins
  with the other's entries, in the same order and without a gap.
- `subsequence`: a stream whose numbers are all among those of another is matched by a part of it.
- `forall₂_mem`: an entry's match; `sublistForall₂_of_sublist`: those of some of the entries.
-/
import Mathlib.Data.List.Basic
import Mathlib.Data.List.Forall2
import Mathlib.Order.Lattice

namespace Streams

universe u v w
variable {α : Type u} {β : Type v} {γ : Type w} [LinearOrder γ]

/-- an entry whose number only comes once -/
theorem split_unique {number : α → Option γ} {newer newer' older older' : List α} {a b : α} {n : γ}
    (ha : number a = some n) (hb : number b = some n) (h : newer ++ a :: older = newer' ++ b :: older')
    (hsorted : ((newer ++ a :: older).filterMap number).Pairwise (· > ·)) :
    newer = newer' ∧ a = b ∧ older = older' := by
  have hone : ∀ {newer older : List α} {a : α}, number a = some n →
      ((newer ++ a :: older).filterMap number).Pairwise (· > ·) → n ∉ newer.filterMap number := by
    intro newer older a ha hs hn
    rw [List.filterMap_append, List.filterMap_cons_some ha, List.pairwise_append] at hs
    exact lt_irrefl n (hs.2.2 n hn n List.mem_cons_self)
  have hnewer := hone ha hsorted
  have hnewer' := hone hb (h ▸ hsorted)
  rcases List.append_eq_append_iff.1 h with ⟨mid, hm, hm'⟩ | ⟨mid, hm, hm'⟩
  · cases mid with
    | nil =>
      cases hm'
      exact ⟨by simpa using hm.symm, rfl, rfl⟩
    | cons o mid =>
      cases hm'
      exact absurd (List.mem_filterMap.2 ⟨a, by rw [hm]; simp, ha⟩) hnewer'
  · cases mid with
    | nil =>
      cases hm'
      exact ⟨by simpa using hm, rfl, rfl⟩
    | cons o mid =>
      cases hm'
      exact absurd (List.mem_filterMap.2 ⟨b, by rw [hm]; simp, hb⟩) hnewer

/-- a stream that has everything the other has, and beyond that only what came before it -/
theorem aligned {f : α → γ} {g : β → γ} {R : α → β → Prop} {as : List α} {bs : List β}
    (has : (as.map f).Pairwise (· > ·))
    (hbs : (bs.map g).Pairwise (· > ·)) (hall : ∀ b ∈ bs, ∃ a ∈ as, f a = g b)
    (honly : ∀ a ∈ as, (∃ b ∈ bs, f a = g b) ∨ ∀ b ∈ bs, f a < g b)
    (hsame : ∀ a ∈ as, ∀ b ∈ bs, f a = g b → R a b) :
    ∃ since before, as = since ++ before ∧ List.Forall₂ R since bs ∧
      ∀ a ∈ before, ∀ b ∈ bs, f a < g b := by
  induction bs generalizing as with
  | nil => exact ⟨[], as, rfl, .nil, fun _ _ _ hb => absurd hb List.not_mem_nil⟩
  | cons b bs ih =>
    rw [List.map_cons, List.pairwise_cons] at hbs
    have hlater : ∀ b' ∈ bs, g b' < g b := fun b' hb' => hbs.1 _ (List.mem_map_of_mem hb')
    cases as with
    | nil =>
      obtain ⟨a, ha, -⟩ := hall b List.mem_cons_self
      cases ha
    | cons a as =>
      rw [List.map_cons, List.pairwise_cons] at has
      have holder : ∀ a' ∈ as, f a' < f a := fun a' ha' => has.1 _ (List.mem_map_of_mem ha')
      -- the newest entries have the same number
      have hhead : f a = g b := by
        obtain ⟨a₀, ha₀, he₀⟩ := hall b List.mem_cons_self
        have hle : g b ≤ f a := by
          rcases List.mem_cons.1 ha₀ with rfl | ha₀
          · exact he₀.ge
          · rw [← he₀]
            exact (holder a₀ ha₀).le
        rcases honly a List.mem_cons_self with ⟨b', hb', he⟩ | hless
        · rcases List.mem_cons.1 hb' with rfl | hb'
          · exact he
          · exact absurd (he ▸ hlater b' hb') (not_lt.2 hle)
        · exact absurd (hless b List.mem_cons_self) (not_lt.2 hle)
      obtain ⟨since, before, rfl, hsince, hbefore⟩ := ih has.2 hbs.2
        (fun b' hb' => by
          obtain ⟨a', ha', he⟩ := hall b' (List.mem_cons_of_mem b hb')
          rcases List.mem_cons.1 ha' with rfl | ha'
          · exact absurd (hlater b' hb') (by rw [← he, hhead]; exact lt_irrefl _)
          · exact ⟨a', ha', he⟩)
        (fun a' ha' => by
          rcases honly a' (List.mem_cons_of_mem a ha') with ⟨b', hb', he⟩ | hless
          · rcases List.mem_cons.1 hb' with rfl | hb'
            · exact absurd (holder a' ha') (by rw [he, hhead]; exact lt_irrefl _)
            · exact Or.inl ⟨b', hb', he⟩
          · exact Or.inr fun b' hb' => hless b' (List.mem_cons_of_mem b hb'))
        (fun a' ha' b' hb' => hsame a' (List.mem_cons_of_mem a ha') b' (List.mem_cons_of_mem b hb'))
      refine ⟨a :: since, before, rfl, .cons (hsame a List.mem_cons_self b List.mem_cons_self hhead) hsince,
        fun a' ha' b' hb' => ?_⟩
      rcases List.mem_cons.1 hb' with rfl | hb'
      · rw [← hhead]
        exact holder a' (List.mem_append_right since ha')
      · exact hbefore a' ha' b' hb'

/-- a stream with numbers of another only -/
theorem subsequence {f : α → γ} {g : β → γ} {R : α → β → Prop} {as : List α} {bs : List β}
    (has : (as.map f).Pairwise (· > ·)) (hbs : (bs.map g).Pairwise (· > ·))
    (hall : ∀ a ∈ as, ∃ b ∈ bs, f a = g b ∧ R a b) : List.SublistForall₂ R as bs := by
  induction bs generalizing as with
  | nil =>
    cases as with
    | nil => exact .nil
    | cons a as =>
      obtain ⟨b, hb, -⟩ := hall a List.mem_cons_self
      exact absurd hb List.not_mem_nil
  | cons b bs ih =>
    rw [List.map_cons, List.pairwise_cons] at hbs
    -- a smaller number than that of the first is matched further on
    have hrest : ∀ a ∈ as, f a < g b → ∃ b' ∈ bs, f a = g b' ∧ R a b' := by
      intro a ha hless
      obtain ⟨b', hb', he, hR⟩ := hall a ha
      rcases List.mem_cons.1 hb' with rfl | hb'
      · exact absurd he hless.ne
      · exact ⟨b', hb', he, hR⟩
    cases as with
    | nil => exact .nil
    | cons a as =>
      rw [List.map_cons, List.pairwise_cons] at has
      have hsmaller : ∀ a' ∈ as, f a' < f a := fun a' ha' => has.1 _ (List.mem_map_of_mem ha')
      obtain ⟨b', hb', he, hR⟩ := hall a List.mem_cons_self
      rcases List.mem_cons.1 hb' with rfl | hb'
      · exact .cons hR (ih has.2 hbs.2 fun a' ha' =>
          hrest a' (List.mem_cons_of_mem a ha') ((hsmaller a' ha').trans_eq he))
      · have hless : f a < g b := he ▸ hbs.1 _ (List.mem_map_of_mem hb')
        refine .cons_right (ih (List.pairwise_cons.2 has) hbs.2 fun a' ha' => ?_)
        refine hrest a' ha' ?_
        rcases List.mem_cons.1 ha' with rfl | ha'
        · exact hless
        · exact (hsmaller a' ha').trans hless

variable {R : α → β → Prop} {as : List α} {bs : List β}

/-- an entry's match -/
theorem forall₂_mem (h : List.Forall₂ R as bs) {a : α} (ha : a ∈ as) : ∃ b ∈ bs, R a b := by
  induction h with
  | nil => exact absurd ha List.not_mem_nil
  | cons hR _ ih =>
    rcases List.mem_cons.1 ha with rfl | ha
    · exact ⟨_, List.mem_cons_self, hR⟩
    · obtain ⟨b, hb, hR⟩ := ih ha
      exact ⟨b, List.mem_cons_of_mem _ hb, hR⟩

/-- some of the entries of a matched list -/
theorem sublistForall₂_of_sublist {as' : List α} (hsub : as'.Sublist as) (h : List.Forall₂ R as bs) :
    List.SublistForall₂ R as' bs := by
  induction h generalizing as' with
  | nil =>
    rw [List.sublist_nil.1 hsub]
    exact .nil
  | cons hR _ ih =>
    cases hsub with
    | cons _ hsub => exact .cons_right (ih hsub)
    | cons_cons _ hsub => exact .cons hR (ih hsub)

/-- what is left of a match when the end of both lists is taken off -/
theorem forall₂_of_append {as' : List α} {bs' : List β} (h : List.Forall₂ R (as ++ as') (bs ++ bs'))
    (h' : List.Forall₂ R as' bs') : List.Forall₂ R as bs := by
  have hlength : as.length = bs.length := by
    have := h.length_eq
    have := h'.length_eq
    simp only [List.length_append] at *
    omega
  have htake := List.forall₂_take_append (as ++ as') bs bs' h
  rwa [← hlength, List.take_left] at htake

end Streams
