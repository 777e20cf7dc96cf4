/-
The moments of a run: every atomic update, with the state before and after it.

A step of the event loop runs one program up to its next suspension. What has to hold at each of its updates, and not
only at its end, is said of the moments of the step.

- `Pool.moments`: the moments of a step.
- `owp_moments`, `Pool.Kept.moments`: a program that keeps an accord does at every moment what it is allowed to do,
  as it is observed there.
-/
import KerMP.Lib.Observe

namespace Coop

namespace Coro

variable {S A E T G α : Type} [Inhabited A]

/-- the updates of one segment, in order -/
def moments : Coro S A E α → List A → S → List (S × S)
  | .pure _, _, _ | .raise _, _, _ | .await _, _, _ => []
  | .atom u k, as, s => (s, u s) :: (k s).moments as (u s)
  | .ask k, as, s => (k (as.headD default)).moments as.tail s

theorem owp_moments {O : Observer S A T G} {D : Accord S A G} (hD : D.Lawful) {p : Coro S A E α}
    {Q : Except E α → G → S → Prop} {g : G} {s : S} (as : List A) (hp : owp O D g p Q s) :
    ∀ m ∈ p.moments as s, ∃ g', D.guar g s g' m.1 ∧ D.guar g' m.1 (O.see g' m.1 m.2) m.2 := by
  induction p generalizing g s as with
  | pure a | raise e | await k => exact fun m hm => absurd hm List.not_mem_nil
  | ask k ih => exact ih _ _ (hp _)
  | atom u k ih =>
    intro m hm
    rcases List.mem_cons.1 hm with rfl | hm
    · exact ⟨g, hD.guar_refl g s, hp.1⟩
    · obtain ⟨g', hguar, hsee⟩ := ih s as hp.2 m hm
      exact ⟨g', hD.guar_trans _ _ _ _ _ _ hp.1 hguar, hsee⟩

end Coro

namespace Pool

open Coro

variable {S A E T G : Type} [Inhabited A] (prog : T → Coro S A E Unit) (enabled : S → T → Bool)

/-- the program a step runs, with the answers it meets -/
def running (c : Pool S A E T) : Act A T → Option (Coro S A E Unit × List A)
  | .arrive t as => if enabled c.state t then some (prog t, as) else none
  | .resume i a as => c.tasks[i]?.map fun x => (x.2 a, as)

/-- the moments of a step -/
def moments (c : Pool S A E T) (act : Act A T) : List (S × S) :=
  match running prog enabled c act with
  | some (p, as) => p.moments as c.state
  | none => []

variable {prog enabled} {O : Observer S A T G} {D : Accord S A G} {apart : G → G → Prop}
  {Q : Except E Unit → G → S → Prop} {ok : Pool S A E T → List G → Act A T → Prop}

/-- what runs keeps the accord from where it goes on -/
theorem Kept.running (U : Upholds O prog enabled D apart Q ok) {c : Pool S A E T} {gs : List G}
    (h : Kept O D apart Q c gs) {act : Act A T} (ha : ok c gs act) {p : Coro S A E Unit} {as : List A}
    (hrun : running prog enabled c act = some (p, as)) :
    ∃ g, mover O enabled c gs act = some g ∧ owp O D g p Q c.state := by
  cases act with
  | arrive t as' =>
    simp only [Pool.running] at hrun
    split_ifs at hrun with he
    cases hrun
    exact ⟨O.start c.state t, by simp [mover, he], (U.arrive c gs t as h ha he).1⟩
  | resume i a as' =>
    obtain ⟨x, hx, hxp⟩ := Option.map_eq_some_iff.1 hrun
    cases hxp
    have hlt : i < gs.length := by
      rw [h.length]
      exact (List.getElem?_eq_some_iff.1 hx).1
    have hg := List.getElem?_eq_getElem hlt
    obtain ⟨hhold, howe⟩ := h.owes i _ x hg hx
    refine ⟨_, by simp [mover, hg], howe c.state (U.lawful.rely_refl _ _) h.state hhold a ?_⟩
    exact U.answer c gs i a as _ h ha hg

theorem Kept.moments (U : Upholds O prog enabled D apart Q ok) {c : Pool S A E T} {gs : List G}
    (h : Kept O D apart Q c gs) {act : Act A T} (ha : ok c gs act) {m : S × S} (hm : m ∈ moments prog enabled c act) :
    ∃ g g', mover O enabled c gs act = some g ∧ D.guar g c.state g' m.1 ∧
      D.guar g' m.1 (O.see g' m.1 m.2) m.2 := by
  unfold Pool.moments at hm
  cases hrun : Pool.running prog enabled c act with
  | none =>
    rw [hrun] at hm
    cases hm
  | some x =>
    obtain ⟨p, as⟩ := x
    rw [hrun] at hm
    obtain ⟨g, hmover, hp⟩ := h.running U ha hrun
    obtain ⟨g', hguar, hsee⟩ := owp_moments U.lawful as hp m hm
    exact ⟨g, g', hmover, hguar, hsee⟩

end Pool

end Coop
