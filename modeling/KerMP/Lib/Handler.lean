/-
Handlers that may raise, over a state that outlives them: `ExceptT ε (StateM σ)`.

What a handler has set before it raises stays set, so what is said of a handler is said of the state it leaves, raised
or not.

- `exec` runs a handler; the simp set evaluates it.
- `Does R p`: the handler leaves a state related by `R` to the one it found. For a preorder it follows from the parts of
  the handler (`does_bind`, `does_ite`).
-/
import Mathlib.Tactic.SplitIfs
import Mathlib.Order.Defs.Unbundled

namespace Handler

variable {ε σ α β : Type}

def exec (p : ExceptT ε (StateM σ) α) (s : σ) : Except ε α × σ := p.run.run s

/-! ## Evaluation -/

@[simp] theorem exec_pure (a : α) (s : σ) : exec (pure a : ExceptT ε (StateM σ) α) s = (.ok a, s) := rfl

@[simp] theorem exec_bind (p : ExceptT ε (StateM σ) α) (f : α → ExceptT ε (StateM σ) β) (s : σ) :
    exec (p >>= f) s = match exec p s with
      | (.ok a, s') => exec (f a) s'
      | (.error e, s') => (.error e, s') := by
  unfold exec
  rw [ExceptT.run_bind, StateT.run_bind]
  rcases StateT.run (ExceptT.run p) s with ⟨_ | _, s'⟩ <;> rfl

@[simp] theorem exec_map (p : ExceptT ε (StateM σ) α) (f : α → β) (s : σ) :
    exec (f <$> p) s = ((exec p s).1.map f, (exec p s).2) := by
  rw [map_eq_pure_bind, exec_bind]
  rcases exec p s with ⟨_ | _, s'⟩ <;> rfl

@[simp] theorem exec_get (s : σ) : exec (get : ExceptT ε (StateM σ) σ) s = (.ok s, s) := rfl

@[simp] theorem exec_modify (f : σ → σ) (s : σ) :
    exec (modify f : ExceptT ε (StateM σ) PUnit) s = (.ok ⟨⟩, f s) := rfl

@[simp] theorem exec_liftExcept (x : Except ε α) (s : σ) :
    exec (liftM x : ExceptT ε (StateM σ) α) s = (x, s) := by
  cases x <;> rfl

/-! ## What a handler does to the state -/

/-- the handler leaves a state related by `R` to the one it found, wherever it raises -/
def Does (R : σ → σ → Prop) (p : ExceptT ε (StateM σ) α) : Prop := ∀ s, R s (exec p s).2

theorem does_modify {R : σ → σ → Prop} {f : σ → σ} (hf : ∀ s, R s (f s)) :
    Does R (modify f : ExceptT ε (StateM σ) PUnit) := hf

theorem does_ite {R : σ → σ → Prop} {c : Prop} [Decidable c] {p q : ExceptT ε (StateM σ) α} (hp : Does R p)
    (hq : Does R q) : Does R (if c then p else q) := by
  split_ifs
  · exact hp
  · exact hq

section Preorder

variable {R : σ → σ → Prop} [IsPreorder σ R]

theorem does_pure (a : α) : Does R (pure a : ExceptT ε (StateM σ) α) := fun s => refl s

theorem does_liftExcept (x : Except ε α) : Does R (liftM x : ExceptT ε (StateM σ) α) := by
  intro s
  rw [exec_liftExcept]
  exact refl s

theorem does_bind {p : ExceptT ε (StateM σ) α} {f : α → ExceptT ε (StateM σ) β} (hp : Does R p)
    (hf : ∀ a, Does R (f a)) : Does R (p >>= f) := by
  intro s
  have hs := hp s
  rw [exec_bind]
  rcases hexec : exec p s with ⟨_ | a, s'⟩
  · rwa [hexec] at hs
  · rw [hexec] at hs
    exact IsTrans.trans _ _ _ hs (hf a s')

theorem does_get {f : σ → ExceptT ε (StateM σ) β} (hf : ∀ s, Does R (f s)) : Does R (get >>= f) :=
  does_bind (fun s => refl s) hf

end Preorder

end Handler
