/-
One program among others.

`Alongside p s turns r s'` is a run of the program `p` from state `s` to its end: it takes its own turns, one for each
atomic update, and at each await the others have theirs, in which they may take the state anywhere. Nothing is said
about who the others are; what they may do is a condition on their turns.

- `alongside_bind`, `alongside_suspend_bind`, ...: what a run of a composed program consists of.
- `Alongside.own_of_guar`: the own turns of a program all of whose updates satisfy `P`.
- `Alongside.keeps`, `Alongside.never`: what all turns keep, along a run.
- `among`: the run with given turns of the others, for evaluation.
- `answering f p`: `p` with every answer at an await replaced, for environments that only give some of the answers;
  `Returns V p`: what `p` can return, for the programs that go on differently after different values.
-/
import KerMP.Lib.Coro

namespace Coop

inductive Turn (S : Type) where
  | own (s s' : S)
  | others (s s' : S)

/-- every turn of the others satisfies `R` -/
def OthersDo {S : Type} (R : S → S → Prop) (turns : List (Turn S)) : Prop := ∀ s s', .others s s' ∈ turns → R s s'

/-- every turn of the program itself satisfies `P` -/
def OwnDo {S : Type} (P : S → S → Prop) (turns : List (Turn S)) : Prop := ∀ s s', .own s s' ∈ turns → P s s'

/-- every state that the turns pass through satisfies `P` -/
def Throughout {S : Type} (P : S → Prop) (turns : List (Turn S)) : Prop :=
  OwnDo (fun s s' => P s ∧ P s') turns ∧ OthersDo (fun s s' => P s ∧ P s') turns

section turns
variable {S : Type} {P R : S → S → Prop} {s s' : S} {turns turns' : List (Turn S)}

@[simp] theorem othersDo_nil : OthersDo R [] := fun _ _ h => by cases h

@[simp] theorem othersDo_own : OthersDo R (.own s s' :: turns) ↔ OthersDo R turns := by
  simp [OthersDo]

@[simp] theorem othersDo_others : OthersDo R (.others s s' :: turns) ↔ R s s' ∧ OthersDo R turns := by
  refine ⟨fun h => ⟨h s s' List.mem_cons_self, fun a b hab => h a b (List.mem_cons_of_mem _ hab)⟩, fun h a b hab => ?_⟩
  rcases List.mem_cons.1 hab with hab | hab
  · cases hab
    exact h.1
  · exact h.2 a b hab

@[simp] theorem othersDo_append : OthersDo R (turns ++ turns') ↔ OthersDo R turns ∧ OthersDo R turns' := by
  refine ⟨fun h => ⟨fun a b hab => h a b (List.mem_append_left _ hab),
    fun a b hab => h a b (List.mem_append_right _ hab)⟩, fun h a b hab => ?_⟩
  rcases List.mem_append.1 hab with hab | hab
  · exact h.1 a b hab
  · exact h.2 a b hab

@[simp] theorem ownDo_nil : OwnDo P [] := fun _ _ h => by cases h

@[simp] theorem ownDo_others : OwnDo P (.others s s' :: turns) ↔ OwnDo P turns := by
  simp [OwnDo]

@[simp] theorem ownDo_own : OwnDo P (.own s s' :: turns) ↔ P s s' ∧ OwnDo P turns := by
  refine ⟨fun h => ⟨h s s' List.mem_cons_self, fun a b hab => h a b (List.mem_cons_of_mem _ hab)⟩, fun h a b hab => ?_⟩
  rcases List.mem_cons.1 hab with hab | hab
  · cases hab
    exact h.1
  · exact h.2 a b hab

@[simp] theorem ownDo_append : OwnDo P (turns ++ turns') ↔ OwnDo P turns ∧ OwnDo P turns' := by
  refine ⟨fun h => ⟨fun a b hab => h a b (List.mem_append_left _ hab),
    fun a b hab => h a b (List.mem_append_right _ hab)⟩, fun h a b hab => ?_⟩
  rcases List.mem_append.1 hab with hab | hab
  · exact h.1 a b hab
  · exact h.2 a b hab

theorem OthersDo.imp {R' : S → S → Prop} (himp : ∀ s s', R s s' → R' s s') (h : OthersDo R turns) : OthersDo R' turns :=
  fun s s' hs => himp s s' (h s s' hs)

end turns

namespace Coro

variable {S A E α β : Type}

/-! ## Runs -/

inductive Alongside : Coro S A E α → S → List (Turn S) → Except E α → S → Prop where
  | pure (a : α) (s : S) : Alongside (.pure a) s [] (.ok a) s
  | raise (e : E) (s : S) : Alongside (.raise e) s [] (.error e) s
  | atom {u : S → S} {k : S → Coro S A E α} {s s' : S} {turns : List (Turn S)} {r : Except E α}
      (h : Alongside (k s) (u s) turns r s') : Alongside (.atom u k) s (.own s (u s) :: turns) r s'
  | ask {k : A → Coro S A E α} {s s' : S} {turns : List (Turn S)} {r : Except E α} (a : A)
      (h : Alongside (k a) s turns r s') : Alongside (.ask k) s turns r s'
  | await {k : A → Coro S A E α} {s s₁ s' : S} {turns : List (Turn S)} {r : Except E α} (a : A)
      (h : Alongside (k a) s₁ turns r s') : Alongside (.await k) s (.others s s₁ :: turns) r s'

variable {s s' : S} {turns : List (Turn S)}

theorem alongside_pure {a : α} {r : Except E α} :
    Alongside (A := A) (Pure.pure a) s turns r s' ↔ turns = [] ∧ r = .ok a ∧ s' = s := by
  constructor
  · intro h
    cases h
    exact ⟨rfl, rfl, rfl⟩
  · rintro ⟨rfl, rfl, rfl⟩
    exact .pure a _

theorem alongside_raise {e : E} {r : Except E α} :
    Alongside (A := A) (.raise e) s turns r s' ↔ turns = [] ∧ r = .error e ∧ s' = s := by
  constructor
  · intro h
    cases h
    exact ⟨rfl, rfl, rfl⟩
  · rintro ⟨rfl, rfl, rfl⟩
    exact .raise e _

/-- a first part that raises ends the run, one that returns is followed by the rest -/
theorem alongside_bind {p : Coro S A E α} {f : α → Coro S A E β} {r : Except E β} :
    Alongside (p >>= f) s turns r s' ↔ (∃ e, r = .error e ∧ Alongside p s turns (.error e) s') ∨
      ∃ a s₁ ts ts', turns = ts ++ ts' ∧ Alongside p s ts (.ok a) s₁ ∧ Alongside (f a) s₁ ts' r s' := by
  show Alongside (p.bind f) s turns r s' ↔ _
  induction p generalizing s turns with
  | pure a =>
    constructor
    · exact fun h => Or.inr ⟨a, s, [], turns, rfl, .pure a _, h⟩
    · rintro (⟨e, -, h⟩ | ⟨b, s₁, ts, ts', rfl, h, h'⟩)
      · cases h
      · cases h
        exact h'
  | raise e =>
    constructor
    · intro h
      cases h
      exact Or.inl ⟨e, rfl, .raise e _⟩
    · rintro (⟨e', rfl, h⟩ | ⟨b, s₁, ts, ts', rfl, h, h'⟩)
      · cases h
        exact .raise e _
      · cases h
  | atom u k ih =>
    constructor
    · intro h
      cases h with
      | atom h =>
        rcases (ih s).1 h with ⟨e, rfl, hp⟩ | ⟨b, s₁, ts, ts', rfl, hp, hf⟩
        · exact Or.inl ⟨e, rfl, .atom (k := k) hp⟩
        · exact Or.inr ⟨b, s₁, _, ts', rfl, .atom (k := k) hp, hf⟩
    · rintro (⟨e, rfl, h⟩ | ⟨b, s₁, ts, ts', rfl, h, h'⟩)
      · cases h with
        | atom h => exact .atom ((ih s).2 (Or.inl ⟨e, rfl, h⟩))
      · cases h with
        | atom h => exact .atom ((ih s).2 (Or.inr ⟨b, s₁, _, ts', rfl, h, h'⟩))
  | ask k ih =>
    constructor
    · intro h
      cases h with
      | ask a h =>
        rcases (ih a).1 h with ⟨e, rfl, hp⟩ | ⟨b, s₁, ts, ts', rfl, hp, hf⟩
        · exact Or.inl ⟨e, rfl, .ask (k := k) a hp⟩
        · exact Or.inr ⟨b, s₁, _, ts', rfl, .ask (k := k) a hp, hf⟩
    · rintro (⟨e, rfl, h⟩ | ⟨b, s₁, ts, ts', rfl, h, h'⟩)
      · cases h with
        | ask a h => exact .ask a ((ih a).2 (Or.inl ⟨e, rfl, h⟩))
      · cases h with
        | ask a h => exact .ask a ((ih a).2 (Or.inr ⟨b, s₁, _, ts', rfl, h, h'⟩))
  | await k ih =>
    constructor
    · intro h
      cases h with
      | await a h =>
        rcases (ih a).1 h with ⟨e, rfl, hp⟩ | ⟨b, s₁, ts, ts', rfl, hp, hf⟩
        · exact Or.inl ⟨e, rfl, .await (k := k) a hp⟩
        · exact Or.inr ⟨b, s₁, _, ts', rfl, .await (k := k) a hp, hf⟩
    · rintro (⟨e, rfl, h⟩ | ⟨b, s₁, ts, ts', rfl, h, h'⟩)
      · cases h with
        | await a h => exact .await a ((ih a).2 (Or.inl ⟨e, rfl, h⟩))
      · cases h with
        | await a h => exact .await a ((ih a).2 (Or.inr ⟨b, s₁, _, ts', rfl, h, h'⟩))

theorem alongside_ofExcept {x r : Except E α} :
    Alongside (A := A) (ofExcept x) s turns r s' ↔ turns = [] ∧ r = x ∧ s' = s := by
  cases x with
  | ok a => exact alongside_pure
  | error e => exact alongside_raise

theorem alongside_attempt {p : Coro S A E α} {r : Except E (Except E α)} :
    Alongside p.attempt s turns r s' ↔ ∃ x, r = .ok x ∧ Alongside p s turns x s' := by
  induction p generalizing s turns with
  | pure a =>
    constructor
    · intro h
      cases h
      exact ⟨_, rfl, .pure a _⟩
    · rintro ⟨x, rfl, h⟩
      cases h
      exact .pure _ _
  | raise e =>
    constructor
    · intro h
      cases h
      exact ⟨_, rfl, .raise e _⟩
    · rintro ⟨x, rfl, h⟩
      cases h
      exact .pure _ _
  | atom u k ih =>
    constructor
    · intro h
      cases h with
      | atom h =>
        obtain ⟨x, rfl, hp⟩ := (ih s).1 h
        exact ⟨x, rfl, .atom (k := k) hp⟩
    · rintro ⟨x, rfl, h⟩
      cases h with
      | atom h => exact .atom ((ih s).2 ⟨x, rfl, h⟩)
  | ask k ih =>
    constructor
    · intro h
      cases h with
      | ask a h =>
        obtain ⟨x, rfl, hp⟩ := (ih a).1 h
        exact ⟨x, rfl, .ask (k := k) a hp⟩
    · rintro ⟨x, rfl, h⟩
      cases h with
      | ask a h => exact .ask a ((ih a).2 ⟨x, rfl, h⟩)
  | await k ih =>
    constructor
    · intro h
      cases h with
      | await a h =>
        obtain ⟨x, rfl, hp⟩ := (ih a).1 h
        exact ⟨x, rfl, .await (k := k) a hp⟩
    · rintro ⟨x, rfl, h⟩
      cases h with
      | await a h => exact .await a ((ih a).2 ⟨x, rfl, h⟩)

theorem alongside_tryCall {f : S → Except E α × S} {r : Except E α} :
    Alongside (A := A) (tryCall f) s turns r s' ↔ turns = [.own s (f s).2] ∧ r = (f s).1 ∧ s' = (f s).2 := by
  constructor
  · intro h
    cases h with
    | atom h =>
      obtain ⟨rfl, rfl, rfl⟩ := alongside_ofExcept.1 h
      exact ⟨rfl, rfl, rfl⟩
  · rintro ⟨rfl, rfl, rfl⟩
    exact .atom (alongside_ofExcept.2 ⟨rfl, rfl, rfl⟩)

theorem alongside_call {f : S → α × S} {r : Except E α} :
    Alongside (A := A) (call f) s turns r s' ↔ turns = [.own s (f s).2] ∧ r = .ok (f s).1 ∧ s' = (f s).2 := by
  constructor
  · intro h
    cases h with
    | atom h =>
      cases h
      exact ⟨rfl, rfl, rfl⟩
  · rintro ⟨rfl, rfl, rfl⟩
    exact .atom (.pure _ _)

/-! Programs that begin with one step -/

theorem alongside_call_bind {f : S → α × S} {k : α → Coro S A E β} {r : Except E β} :
    Alongside (call f >>= k) s turns r s' ↔
      ∃ ts, turns = .own s (f s).2 :: ts ∧ Alongside (k (f s).1) (f s).2 ts r s' := by
  constructor
  · intro h
    cases h with
    | atom h => exact ⟨_, rfl, h⟩
  · rintro ⟨ts, rfl, h⟩
    exact .atom (k := fun s => Coro.bind (.pure (f s).1) k) h

theorem alongside_get_bind {k : S → Coro S A E β} {r : Except E β} :
    Alongside (get >>= k) s turns r s' ↔ ∃ ts, turns = .own s s :: ts ∧ Alongside (k s) s ts r s' :=
  alongside_call_bind (f := fun s => (s, s))

theorem alongside_modify_bind {f : S → S} {k : Unit → Coro S A E β} {r : Except E β} :
    Alongside (modify f >>= k) s turns r s' ↔ ∃ ts, turns = .own s (f s) :: ts ∧ Alongside (k ()) (f s) ts r s' :=
  alongside_call_bind (f := fun s => ((), f s))

theorem alongside_askEnv_bind {k : A → Coro S A E β} {r : Except E β} :
    Alongside (askEnv >>= k) s turns r s' ↔ ∃ a, Alongside (k a) s turns r s' := by
  constructor
  · intro h
    cases h with
    | ask a h => exact ⟨a, h⟩
  · rintro ⟨a, h⟩
    exact .ask (k := fun a => Coro.bind (.pure a) k) a h

theorem alongside_suspend_bind {k : A → Coro S A E β} {r : Except E β} :
    Alongside (suspend >>= k) s turns r s' ↔
      ∃ a s₁ ts, turns = .others s s₁ :: ts ∧ Alongside (k a) s₁ ts r s' := by
  constructor
  · intro h
    cases h with
    | await a h => exact ⟨a, _, _, rfl, h⟩
  · rintro ⟨a, s₁, ts, rfl, h⟩
    exact .await (k := fun a => Coro.bind (.pure a) k) a h

/-- the program's own turns are its updates -/
theorem Alongside.own_of_guar {P : S → S → Prop} {p : Coro S A E α} (hp : Guar P p) {r : Except E α}
    (h : Alongside p s turns r s') : OwnDo P turns := by
  induction h with
  | pure a s => exact ownDo_nil
  | raise e s => exact ownDo_nil
  | @atom u k s s' turns r h ih => exact ownDo_own.2 ⟨(hp s).1, ih (hp s).2⟩
  | ask a h ih => exact ih (hp a)
  | await a h ih => exact ownDo_others.2 (ih (hp a))

/-- what every turn keeps holds at the end -/
theorem Alongside.keeps {P : S → Prop} {p : Coro S A E α} {r : Except E α} (h : Alongside p s turns r s')
    (hown : OwnDo (fun a b => P a → P b) turns) (hothers : OthersDo (fun a b => P a → P b) turns) (hs : P s) : P s' := by
  induction h with
  | pure a s => exact hs
  | raise e s => exact hs
  | atom h ih =>
    rw [ownDo_own] at hown
    rw [othersDo_own] at hothers
    exact ih hown.2 hothers (hown.1 hs)
  | ask a h ih => exact ih hown hothers hs
  | await a h ih =>
    rw [ownDo_others] at hown
    rw [othersDo_others] at hothers
    exact ih hown hothers.2 (hothers.1 hs)

/-- what every turn keeps, and what does not hold at the end, was never brought about -/
theorem Alongside.never {P : S → Prop} {p : Coro S A E α} {r : Except E α} (h : Alongside p s turns r s')
    (hown : OwnDo (fun a b => P a → P b) turns) (hothers : OthersDo (fun a b => P a → P b) turns) (hend : ¬ P s') :
    OthersDo (fun _ b => ¬ P b) turns := by
  induction h with
  | pure a s => exact othersDo_nil
  | raise e s => exact othersDo_nil
  | atom h ih =>
    rw [ownDo_own] at hown
    rw [othersDo_own] at hothers ⊢
    exact ih hown.2 hothers hend
  | ask a h ih => exact ih hown hothers hend
  | await a h ih =>
    rw [ownDo_others] at hown
    rw [othersDo_others] at hothers ⊢
    exact ⟨fun hP => hend (h.keeps hown hothers.2 hP), ih hown hothers.2 hend⟩

protected theorem bind_assoc {γ : Type} (p : Coro S A E α) (f : α → Coro S A E β) (g : β → Coro S A E γ) :
    (p >>= f) >>= g = p >>= fun a => f a >>= g := by
  show (p.bind f).bind g = p.bind fun a => (f a).bind g
  induction p with
  | pure a => rfl
  | raise e => rfl
  | atom u k ih => exact congrArg (Coro.atom u) (funext ih)
  | ask k ih => exact congrArg Coro.ask (funext ih)
  | await k ih => exact congrArg Coro.await (funext ih)

/-! ## Given turns of the others -/

/-- run to the end; every question and await is answered with the default, and `others` are the others' turns, in order -/
def among [Inhabited A] : Coro S A E α → List (S → S) → S → Except E α × S
  | .pure a, _, s => (.ok a, s)
  | .raise e, _, s => (.error e, s)
  | .atom u k, others, s => among (k s) others (u s)
  | .ask k, others, s => among (k default) others s
  | .await k, others, s => among (k default) others.tail (others.headD id s)

theorem among_alongside [Inhabited A] (p : Coro S A E α) (others : List (S → S)) (s : S) :
    ∃ turns, Alongside p s turns (p.among others s).1 (p.among others s).2 ∧
      OthersDo (fun s s' => s' = s ∨ ∃ g ∈ others, s' = g s) turns := by
  induction p generalizing others s with
  | pure a => exact ⟨[], .pure a s, othersDo_nil⟩
  | raise e => exact ⟨[], .raise e s, othersDo_nil⟩
  | atom u k ih =>
    obtain ⟨turns, h, hothers⟩ := ih s others (u s)
    exact ⟨_, .atom h, othersDo_own.2 hothers⟩
  | ask k ih =>
    obtain ⟨turns, h, hothers⟩ := ih default others s
    exact ⟨turns, .ask _ h, hothers⟩
  | await k ih =>
    obtain ⟨turns, h, hothers⟩ := ih default others.tail (others.headD id s)
    refine ⟨_, .await _ h, othersDo_others.2 ⟨?_, hothers.imp fun s s' hs => ?_⟩⟩
    · cases others with
      | nil => exact Or.inl rfl
      | cons g others => exact Or.inr ⟨g, List.mem_cons_self, rfl⟩
    · exact hs.imp_right fun ⟨g, hg, hs⟩ => ⟨g, List.mem_of_mem_tail hg, hs⟩

/-! ## Given answers -/

/-- `p`, with every answer at an await replaced by what `f` makes of it -/
def answering (f : A → A) : Coro S A E α → Coro S A E α
  | .pure a => .pure a
  | .raise e => .raise e
  | .atom u k => .atom u fun s => answering f (k s)
  | .ask k => .ask fun a => answering f (k a)
  | .await k => .await fun a => answering f (k (f a))

section answering
variable {f : A → A}

theorem answering_bind (p : Coro S A E α) (g : α → Coro S A E β) :
    (p >>= g).answering f = p.answering f >>= fun a => (g a).answering f := by
  show (p.bind g).answering f = (p.answering f).bind fun a => (g a).answering f
  induction p with
  | pure a => rfl
  | raise e => rfl
  | atom u k ih => exact congrArg (Coro.atom u) (funext ih)
  | ask k ih => exact congrArg Coro.ask (funext ih)
  | await k ih => exact congrArg Coro.await (funext fun a => ih (f a))

theorem answering_attempt (p : Coro S A E α) : p.attempt.answering f = (p.answering f).attempt := by
  induction p with
  | pure a => rfl
  | raise e => rfl
  | atom u k ih => exact congrArg (Coro.atom u) (funext ih)
  | ask k ih => exact congrArg Coro.ask (funext ih)
  | await k ih => exact congrArg Coro.await (funext fun a => ih (f a))

theorem answering_ofExcept (r : Except E α) : (ofExcept r : Coro S A E α).answering f = ofExcept r := by
  cases r <;> rfl

/-- an update that is allowed after any answer is allowed after these -/
theorem guar_answering {P : S → S → Prop} {p : Coro S A E α} (hp : Guar P p) : Guar P (p.answering f) := by
  induction p with
  | pure a => trivial
  | raise e => trivial
  | atom u k ih => exact fun s => ⟨(hp s).1, ih s (hp s).2⟩
  | ask k ih => exact fun a => ih a (hp a)
  | await k ih => exact fun a => ih (f a) (hp (f a))

end answering

/-- every value that `p` returns is in `V` -/
def Returns (V : α → Prop) : Coro S A E α → Prop
  | .pure a => V a
  | .raise _ => True
  | .atom _ k => ∀ s, Returns V (k s)
  | .ask k => ∀ a, Returns V (k a)
  | .await k => ∀ a, Returns V (k a)

section returns
variable {V : α → Prop} {W : β → Prop} {p : Coro S A E α} {f : α → Coro S A E β}

theorem returns_any (p : Coro S A E α) : Returns (fun _ => True) p := by
  induction p with
  | pure a => trivial
  | raise e => trivial
  | atom u k ih => exact ih
  | ask k ih => exact ih
  | await k ih => exact ih

theorem returns_bind (hp : Returns V p) (hf : ∀ a, V a → Returns W (f a)) : Returns W (p >>= f) := by
  show Returns W (p.bind f)
  induction p with
  | pure a => exact hf a hp
  | raise e => trivial
  | atom u k ih => exact fun s => ih s (hp s)
  | ask k ih => exact fun a => ih a (hp a)
  | await k ih => exact fun a => ih a (hp a)

/-- whatever is returned, the rest returns such a value -/
theorem returns_after (hf : ∀ a, Returns W (f a)) : Returns W (p >>= f) :=
  returns_bind (returns_any p) fun a _ => hf a

theorem guar_bind_returns {P : S → S → Prop} (hp : Guar P p) (hret : Returns V p) (hf : ∀ a, V a → Guar P (f a)) :
    Guar P (p >>= f) := by
  show Guar P (p.bind f)
  induction p with
  | pure a => exact hf a hret
  | raise e => trivial
  | atom u k ih => exact fun s => ⟨(hp s).1, ih s (hp s).2 (hret s)⟩
  | ask k ih => exact fun a => ih a (hp a) (hret a)
  | await k ih => exact fun a => ih a (hp a) (hret a)

end returns

end Coro

end Coop
