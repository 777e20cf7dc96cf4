/-
Cooperative coroutines over a shared state, their interleavings, and the rules to reason about them.

A program `Coro S A E α` is a tree of atomic updates of the state `S`, questions to the environment (answers in `A`),
and suspension points; it returns an `α` or raises an `E`. Only `await` gives up control: between two awaits a program
runs alone, which is the cooperative scheduling of an event loop. `ask` is answered on the spot.

- `segment` runs a program to its next await, `exec` runs it to its end with nothing in between.
- `Pool` is an event loop: events start programs, suspended programs are resumed in any order (`Pool.step`).
- `Discipline`: what programs that share the state promise each other, a rely and a guarantee, with resources that are
  taken once and then touched by their owner only.
- `wp D own p Q s`: from `s`, owning `own`, the program `p` follows the discipline and ends in `Q`, whatever the
  environment answers and whatever the others do at the awaits. Rules: `wp_bind`, `wp_mono`, `wp_attempt`, ...;
  `wp_segment` is the soundness lemma.
- `Pool.run_inv`: if every program an event may start follows the discipline, then after every run, in any
  interleaving, the invariant holds, and what nobody owns any more is settled.
- `Guar P p`: every update of `p` satisfies `P`, without preconditions; `wp_of_guar` turns it into a `wp`.
- `Settles D settled p`: from any state of the invariant, `p` follows `D` and leaves what it took settled; composition is
  `settles_bind`, which rests on `wp_frame`.
- `Keeps I R p`: `p` keeps the invariant `I`, in the discipline without resources.
- `Discipline.sync`: for programs that never await.
-/
import Mathlib.Logic.Relation
import Mathlib.Order.CompletePartialOrder
import Mathlib.Tactic.SplitIfs
import Mathlib.Tactic.Tauto
import Mathlib.Data.List.Basic
import Mathlib.Data.Set.BooleanAlgebra
import Mathlib.Data.Set.Disjoint

namespace Coop

inductive Coro (S A E α : Type) where
  | pure (a : α)
  | raise (e : E)
  /-- one atomic update; the rest sees the state before it -/
  | atom (upd : S → S) (k : S → Coro S A E α)
  /-- a question answered at once by the environment -/
  | ask (k : A → Coro S A E α)
  /-- a suspension point, resumed with an answer -/
  | await (k : A → Coro S A E α)

namespace Coro

variable {S A E α β : Type}

protected def bind : Coro S A E α → (α → Coro S A E β) → Coro S A E β
  | .pure a, f => f a
  | .raise e, _ => .raise e
  | .atom u k, f => .atom u fun s => (k s).bind f
  | .ask k, f => .ask fun a => (k a).bind f
  | .await k, f => .await fun a => (k a).bind f

instance : Monad (Coro S A E) where
  pure := .pure
  bind := Coro.bind

/-- run `p` and hand on what it returned or raised -/
def attempt : Coro S A E α → Coro S A E (Except E α)
  | .pure a => .pure (.ok a)
  | .raise e => .pure (.error e)
  | .atom u k => .atom u fun s => attempt (k s)
  | .ask k => .ask fun a => attempt (k a)
  | .await k => .await fun a => attempt (k a)

def ofExcept : Except E α → Coro S A E α
  | .ok a => .pure a
  | .error e => .raise e

/-- `try: p finally: q` -/
def andFinally (p : Coro S A E α) (q : Coro S A E Unit) : Coro S A E α := do
  let r ← p.attempt
  q
  ofExcept r

def get : Coro S A E S := .atom id .pure

def modify (f : S → S) : Coro S A E Unit := .atom f fun _ => .pure ()

/-- one atomic call that reads the state and may update it -/
def call (f : S → α × S) : Coro S A E α := .atom (fun s => (f s).2) fun s => .pure (f s).1

/-- one atomic call that may also raise -/
def tryCall (f : S → Except E α × S) : Coro S A E α := .atom (fun s => (f s).2) fun s => ofExcept (f s).1

def askEnv : Coro S A E A := .ask .pure

def suspend : Coro S A E A := .await .pure

/-! ## Running -/

inductive Outcome (S A E α : Type) where
  | done (r : Except E α)
  | suspended (k : A → Coro S A E α)

/-- run to the next await; the list answers the questions, in order -/
def segment [Inhabited A] : Coro S A E α → List A → S → Outcome S A E α × S
  | .pure a, _, s => (.done (.ok a), s)
  | .raise e, _, s => (.done (.error e), s)
  | .atom u k, as, s => segment (k s) as (u s)
  | .ask k, as, s => segment (k (as.headD default)) as.tail s
  | .await k, _, s => (.suspended k, s)

/-- run to the end with no other program in between -/
def exec [Inhabited A] : Coro S A E α → List A → S → Except E α × S
  | .pure a, _, s => (.ok a, s)
  | .raise e, _, s => (.error e, s)
  | .atom u k, as, s => exec (k s) as (u s)
  | .ask k, as, s => exec (k (as.headD default)) as.tail s
  | .await k, as, s => exec (k (as.headD default)) as.tail s

/-! ## Preconditions under interference -/

variable {M : Type}

/-- what programs that share a state promise each other. A resource is free until some update takes it; from then on
only the program that made this update may touch it. -/
structure Discipline (S M : Type) where
  /-- holds whenever control is given up -/
  inv : S → Prop
  /-- what every update does -/
  guar : S → S → Prop
  /-- what the others may have done when control comes back -/
  rely : S → S → Prop
  free : M → S → Prop
  /-- from one state to the other nobody touched the resource -/
  keeps : M → S → S → Prop

namespace Discipline

/-- no resources: an invariant and one relation for everybody -/
def plain (I : S → Prop) (R : S → S → Prop) : Discipline S Empty := ⟨I, R, R, fun m => m.elim, fun m => m.elim⟩

/-- nobody else runs -/
def alone : Discipline S Empty := ⟨fun _ => True, fun _ _ => True, Eq, fun m => m.elim, fun m => m.elim⟩

/-- control is never given up -/
def sync : Discipline S Empty := ⟨fun _ => False, fun _ _ => True, fun _ _ => True, fun m => m.elim, fun m => m.elim⟩

variable (D : Discipline S M)

/-- the resources owned after an update -/
def take (own : Set M) (s s' : S) : Set M := {m | m ∈ own ∨ D.free m s ∧ ¬ D.free m s'}

/-- an update allowed to the owner of `own` -/
def May (own : Set M) (s s' : S) : Prop := D.guar s s' ∧ ∀ m, m ∉ D.take own s s' → D.keeps m s s'

structure Lawful : Prop where
  refl : ∀ s, D.rely s s
  guar_refl : ∀ s, D.guar s s
  trans : ∀ a b c, D.rely a b → D.rely b c → D.rely a c
  guar_rely : ∀ s s', D.guar s s' → D.rely s s'
  keeps_refl : ∀ m s, D.keeps m s s
  keeps_trans : ∀ m a b c, D.keeps m a b → D.keeps m b c → D.keeps m a c
  taken : ∀ m s s', D.rely s s' → D.free m s' → D.free m s

variable {D}

theorem take_eq {own : Set M} {s s' : S} (h : ∀ m, D.free m s → D.free m s') : D.take own s s' = own := by
  ext m
  simp only [take, Set.mem_ofPred_eq, or_iff_left_iff_imp]
  rintro ⟨h1, h2⟩
  exact absurd (h m h1) h2

theorem plain_lawful {I : S → Prop} {R : S → S → Prop} (hrefl : ∀ s, R s s)
    (htrans : ∀ a b c, R a b → R b c → R a c) : (plain I R).Lawful :=
  ⟨hrefl, hrefl, htrans, fun _ _ h => h, fun m => m.elim, fun m => m.elim, fun m => m.elim⟩

@[simp] theorem may_plain {I : S → Prop} {R : S → S → Prop} {own : Set Empty} {s s' : S} :
    (plain I R).May own s s' ↔ R s s' := ⟨fun h => h.1, fun h => ⟨h, fun m => m.elim⟩⟩

@[simp] theorem may_alone {own : Set Empty} {s s' : S} : (alone : Discipline S Empty).May own s s' ↔ True :=
  ⟨fun _ => trivial, fun _ => ⟨trivial, fun m => m.elim⟩⟩

end Discipline

/-- precondition of `p` for the owner of `own`: every update is allowed, the invariant holds when control is given up,
and the end satisfies `Q` -/
def wp (D : Discipline S M) : Set M → Coro S A E α → (Except E α → Set M → S → Prop) → S → Prop
  | own, .pure a, Q, s => Q (.ok a) own s
  | own, .raise e, Q, s => Q (.error e) own s
  | own, .atom u k, Q, s => D.May own s (u s) ∧ wp D (D.take own s (u s)) (k s) Q (u s)
  | own, .ask k, Q, s => ∀ a, wp D own (k a) Q s
  | own, .await k, Q, s =>
    D.inv s ∧ ∀ s', D.rely s s' → (∀ m ∈ own, D.keeps m s s') → D.inv s' → ∀ a, wp D own (k a) Q s'

/-- the postcondition of a program's first part: go on with `f`, or stop with what was raised -/
def andThen (f : α → Set M → S → Prop) (Q : E → Set M → S → Prop) : Except E α → Set M → S → Prop
  | .ok a, own, s => f a own s
  | .error e, own, s => Q e own s

@[simp] theorem andThen_ok (f : α → Set M → S → Prop) (Q : E → Set M → S → Prop) (a : α) (own : Set M) (s : S) :
    andThen f Q (.ok a) own s = f a own s := rfl

@[simp] theorem andThen_error (f : α → Set M → S → Prop) (Q : E → Set M → S → Prop) (e : E) (own : Set M) (s : S) :
    andThen f Q (.error e) own s = Q e own s := rfl

section rules
variable {D : Discipline S M} {own : Set M}

@[simp] theorem wp_pure (a : α) (Q : Except E α → Set M → S → Prop) (s : S) :
    wp (A := A) D own (pure a) Q s = Q (.ok a) own s := rfl

@[simp] theorem wp_pure' (a : α) (Q : Except E α → Set M → S → Prop) (s : S) :
    wp (A := A) D own (.pure a) Q s = Q (.ok a) own s := rfl

@[simp] theorem wp_raise (e : E) (Q : Except E α → Set M → S → Prop) (s : S) :
    wp (A := A) D own (.raise e) Q s = Q (.error e) own s := rfl

theorem wp_mono {p : Coro S A E α} {Q Q' : Except E α → Set M → S → Prop}
    (h : ∀ r own s, Q r own s → Q' r own s) {s : S} (hp : wp D own p Q s) : wp D own p Q' s := by
  induction p generalizing own s with
  | pure a => exact h _ _ _ hp
  | raise e => exact h _ _ _ hp
  | atom u k ih => exact ⟨hp.1, ih s hp.2⟩
  | ask k ih => exact fun a => ih a (hp a)
  | await k ih => exact ⟨hp.1, fun s' hr hk hi a => ih a (hp.2 s' hr hk hi a)⟩

@[simp] theorem wp_bind (p : Coro S A E α) (f : α → Coro S A E β) (Q : Except E β → Set M → S → Prop) (s : S) :
    wp D own (p >>= f) Q s ↔
      wp D own p (andThen (fun a own s => wp D own (f a) Q s) fun e own s => Q (.error e) own s) s := by
  show wp D own (p.bind f) Q s ↔ _
  induction p generalizing own s with
  | pure a => exact Iff.rfl
  | raise e => exact Iff.rfl
  | atom u k ih => exact and_congr_right fun _ => ih s (u s)
  | ask k ih => exact forall_congr' fun a => ih a s
  | await k ih =>
    exact and_congr_right fun _ => forall_congr' fun s' => imp_congr_right fun _ => imp_congr_right fun _ =>
      imp_congr_right fun _ => forall_congr' fun a => ih a s'

@[simp] theorem wp_attempt (p : Coro S A E α) (Q : Except E (Except E α) → Set M → S → Prop) (s : S) :
    wp D own p.attempt Q s ↔ wp D own p (fun r => Q (.ok r)) s := by
  induction p generalizing own s with
  | pure a => exact Iff.rfl
  | raise e => exact Iff.rfl
  | atom u k ih => exact and_congr_right fun _ => ih s (u s)
  | ask k ih => exact forall_congr' fun a => ih a s
  | await k ih =>
    exact and_congr_right fun _ => forall_congr' fun s' => imp_congr_right fun _ => imp_congr_right fun _ =>
      imp_congr_right fun _ => forall_congr' fun a => ih a s'

/-- what is raised is caught, and goes to what follows -/
theorem wp_attempt_bind {p : Coro S A E α} {f : Except E α → Coro S A E β} {J : Except E α → Set M → S → Prop}
    {Q : Except E β → Set M → S → Prop} {s : S} (hp : wp D own p J s)
    (hf : ∀ r own s, J r own s → wp D own (f r) Q s) : wp D own (p.attempt >>= f) Q s := by
  rw [wp_bind, wp_attempt]
  exact wp_mono hf hp

@[simp] theorem wp_ofExcept (r : Except E α) (Q : Except E α → Set M → S → Prop) (s : S) :
    wp (A := A) D own (ofExcept r) Q s ↔ Q r own s := by
  cases r <;> rfl

/-- a result that is an error ends the program -/
theorem wp_ofExcept_bind {r : Except E α} {f : α → Coro S A E β} {Q : Except E β → Set M → S → Prop} {s : S}
    (herror : ∀ e, r = .error e → Q (.error e) own s) (hok : ∀ a, r = .ok a → wp D own (f a) Q s) :
    wp D own (ofExcept r >>= f) Q s := by
  rw [wp_bind, wp_ofExcept]
  cases r with
  | error e => exact herror e rfl
  | ok a => exact hok a rfl

@[simp] theorem wp_get (Q : Except E S → Set M → S → Prop) (s : S) :
    wp (A := A) D own get Q s ↔ D.May own s s ∧ Q (.ok s) (D.take own s s) s := Iff.rfl

@[simp] theorem wp_modify (f : S → S) (Q : Except E Unit → Set M → S → Prop) (s : S) :
    wp (A := A) D own (modify f) Q s ↔ D.May own s (f s) ∧ Q (.ok ()) (D.take own s (f s)) (f s) := Iff.rfl

@[simp] theorem wp_call (f : S → α × S) (Q : Except E α → Set M → S → Prop) (s : S) :
    wp (A := A) D own (call f) Q s ↔
      D.May own s (f s).2 ∧ Q (.ok (f s).1) (D.take own s (f s).2) (f s).2 := Iff.rfl

@[simp] theorem wp_tryCall (f : S → Except E α × S) (Q : Except E α → Set M → S → Prop) (s : S) :
    wp (A := A) D own (tryCall f) Q s ↔ D.May own s (f s).2 ∧ Q (f s).1 (D.take own s (f s).2) (f s).2 := by
  show D.May own s (f s).2 ∧ wp D _ (ofExcept (f s).1) Q (f s).2 ↔ _
  rw [wp_ofExcept]

@[simp] theorem wp_askEnv (Q : Except E A → Set M → S → Prop) (s : S) :
    wp D own askEnv Q s ↔ ∀ a, Q (.ok a) own s := Iff.rfl

@[simp] theorem wp_suspend (Q : Except E A → Set M → S → Prop) (s : S) :
    wp D own suspend Q s ↔
      D.inv s ∧ ∀ s', D.rely s s' → (∀ m ∈ own, D.keeps m s s') → D.inv s' → ∀ a, Q (.ok a) own s' := Iff.rfl

/-- an update that is allowed and takes nothing, and what follows it -/
theorem wp_modify_bind {u : S → S} {g : Unit → Coro S A E β} {Q : Except E β → Set M → S → Prop} {s : S}
    (hmay : D.May own s (u s)) (htake : D.take own s (u s) = own) (hg : wp D own (g ()) Q (u s)) :
    wp D own (modify u >>= g) Q s := by
  rw [wp_bind, wp_modify, htake]
  exact ⟨hmay, hg⟩

theorem wp_call_of {u : S → α × S} {Q : Except E α → Set M → S → Prop} {s : S} (hmay : D.May own s (u s).2)
    (htake : D.take own s (u s).2 = own) (hq : Q (.ok (u s).1) own (u s).2) : wp (A := A) D own (call u) Q s := by
  rw [wp_call, htake]
  exact ⟨hmay, hq⟩

theorem wp_call_bind {u : S → α × S} {g : α → Coro S A E β} {Q : Except E β → Set M → S → Prop} {s : S}
    (hmay : D.May own s (u s).2) (htake : D.take own s (u s).2 = own) (hg : wp D own (g (u s).1) Q (u s).2) :
    wp D own (call u >>= g) Q s := by
  rw [wp_bind]
  exact wp_call_of hmay htake hg

/-- a call that may raise, with what it comes to -/
theorem wp_tryCall_of {u : S → Except E α × S} {Q : Except E α → Set M → S → Prop} {s : S} (r : Except E α) (s' : S)
    (hu : u s = (r, s')) (hmay : D.May own s s') (htake : D.take own s s' = own) (hq : Q r own s') :
    wp (A := A) D own (tryCall u) Q s := by
  rw [wp_tryCall, hu, htake]
  exact ⟨hmay, hq⟩

/-- what is still owed by a suspended program -/
def Owes (D : Discipline S M) (own : Set M) (k : A → Coro S A E α) (Q : Except E α → Set M → S → Prop) (s : S) : Prop :=
  ∀ s', D.rely s s' → (∀ m ∈ own, D.keeps m s s') → D.inv s' → ∀ a, wp D own (k a) Q s'

theorem Owes.rely (hD : D.Lawful) {k : A → Coro S A E α} {Q : Except E α → Set M → S → Prop} {s s' : S}
    (h : Owes D own k Q s) (hr : D.rely s s') (hk : ∀ m ∈ own, D.keeps m s s') : Owes D own k Q s' :=
  fun s'' hr' hk' hi a =>
    h s'' (hD.trans _ _ _ hr hr') (fun m hm => hD.keeps_trans m _ _ _ (hk m hm) (hk' m hm)) hi a

/-- how the state and the owned resources move over one segment -/
structure Moves (D : Discipline S M) (own own' : Set M) (s s' : S) : Prop where
  rely : D.rely s s'
  sub : own ⊆ own'
  taken : ∀ m ∈ own', m ∈ own ∨ D.free m s ∧ ¬ D.free m s'
  fresh : ∀ m, D.free m s → ¬ D.free m s' → m ∈ own'
  keeps : ∀ m, m ∉ own' → D.keeps m s s'

theorem Moves.refl (hD : D.Lawful) (s : S) : Moves D own own s s :=
  ⟨hD.refl s, Set.Subset.rfl, fun _ h => Or.inl h, fun _ h h' => absurd h h', fun m _ => hD.keeps_refl m s⟩

theorem Moves.update (hD : D.Lawful) {s s' : S} (h : D.May own s s') : Moves D own (D.take own s s') s s' :=
  ⟨hD.guar_rely _ _ h.1, fun _ hm => Or.inl hm, fun _ hm => hm, fun _ h1 h2 => Or.inr ⟨h1, h2⟩, h.2⟩

theorem Moves.trans (hD : D.Lawful) {own' own'' : Set M} {a b c : S} (h : Moves D own own' a b)
    (h' : Moves D own' own'' b c) : Moves D own own'' a c := by
  refine ⟨hD.trans _ _ _ h.rely h'.rely, h.sub.trans h'.sub, fun m hm => ?_, fun m h1 h2 => ?_, fun m hm => ?_⟩
  · rcases h'.taken m hm with hm | ⟨h1, h2⟩
    · rcases h.taken m hm with hm | ⟨h1, h2⟩
      · exact Or.inl hm
      · exact Or.inr ⟨h1, fun h3 => h2 (hD.taken m _ _ h'.rely h3)⟩
    · exact Or.inr ⟨hD.taken m _ _ h.rely h1, h2⟩
  · by_cases hb : D.free m b
    · exact h'.fresh m hb h2
    · exact h'.sub (h.fresh m h1 hb)
  · exact hD.keeps_trans m _ _ _ (h.keeps m fun hm' => hm (h'.sub hm')) (h'.keeps m hm)

/-- **Soundness of one segment.** From a state satisfying the precondition, a segment moves as allowed; if it ends the
program it ends in `Q`, and if it suspends it leaves the invariant and owes the rest. -/
theorem wp_segment [Inhabited A] (hD : D.Lawful) {p : Coro S A E α} {Q : Except E α → Set M → S → Prop} {s : S}
    (as : List A) (hp : wp D own p Q s) :
    ∃ own', Moves D own own' s (p.segment as s).2 ∧
      match (p.segment as s).1 with
      | .done r => Q r own' (p.segment as s).2
      | .suspended k => D.inv (p.segment as s).2 ∧ Owes D own' k Q (p.segment as s).2 := by
  induction p generalizing own s as with
  | pure a => exact ⟨own, Moves.refl hD s, hp⟩
  | raise e => exact ⟨own, Moves.refl hD s, hp⟩
  | atom u k ih =>
    obtain ⟨own', hm, hq⟩ := ih s as hp.2
    exact ⟨own', (Moves.update hD hp.1).trans hD hm, hq⟩
  | ask k ih => exact ih _ _ (hp _)
  | await k ih => exact ⟨own, Moves.refl hD s, hp⟩

/-- **Soundness of an undisturbed run.** When nobody else runs, the program ends in `Q`. -/
theorem wp_exec [Inhabited A] (hrely : ∀ s, D.rely s s) (hkeeps : ∀ m s, D.keeps m s s) {p : Coro S A E α}
    {Q : Except E α → Set M → S → Prop} {s : S} (as : List A) (hp : wp D own p Q s) :
    ∃ own', Q (p.exec as s).1 own' (p.exec as s).2 := by
  induction p generalizing own s as with
  | pure a => exact ⟨own, hp⟩
  | raise e => exact ⟨own, hp⟩
  | atom u k ih => exact ih s as hp.2
  | ask k ih => exact ih _ _ (hp _)
  | await k ih => exact ih _ _ (hp.2 s (hrely s) (fun m _ => hkeeps m s) hp.1 _)

/-- a program that never awaits ends within its segment -/
theorem wp_sync [Inhabited A] {own : Set Empty} {p : Coro S A E α} {Q : Except E α → Set Empty → S → Prop} {s : S}
    (as : List A) (hp : wp Discipline.sync own p Q s) :
    ∃ r own', (p.segment as s).1 = .done r ∧ Q r own' (p.segment as s).2 := by
  induction p generalizing own s as with
  | pure a => exact ⟨.ok a, own, rfl, hp⟩
  | raise e => exact ⟨.error e, own, rfl, hp⟩
  | atom u k ih => exact ih s as hp.2
  | ask k ih => exact ih _ _ (hp _)
  | await k ih => exact hp.1.elim

/-! ## Frames -/

/-- what is owned has been taken -/
theorem wp_taken (hD : D.Lawful) {p : Coro S A E α} {Q : Except E α → Set M → S → Prop} {s : S}
    (hown : ∀ m ∈ own, ¬ D.free m s) (hp : wp D own p Q s) :
    wp D own p (fun r own' s' => Q r own' s' ∧ ∀ m ∈ own', ¬ D.free m s') s := by
  induction p generalizing own s with
  | pure a => exact ⟨hp, hown⟩
  | raise e => exact ⟨hp, hown⟩
  | atom u k ih =>
    refine ⟨hp.1, ih s (fun m hm => ?_) hp.2⟩
    rcases hm with hm | hm
    · exact fun hf => hown m hm (hD.taken m _ _ (hD.guar_rely _ _ hp.1.1) hf)
    · exact hm.2
  | ask k ih => exact fun a => ih a hown (hp a)
  | await k ih =>
    refine ⟨hp.1, fun s' hr hk hi a => ih a (fun m hm hf => ?_) (hp.2 s' hr hk hi a)⟩
    exact hown m hm (hD.taken m _ _ hr hf)

/-- a program leaves alone what somebody else has taken; here the other is its caller -/
theorem wp_frame (hD : D.Lawful) {F : Set M} {p : Coro S A E α} {Q : Except E α → Set M → S → Prop} {s : S}
    (hF : ∀ m ∈ F, ¬ D.free m s) (hdis : Disjoint own F) (hp : wp D own p Q s) :
    wp D (own ∪ F) p (fun r own' s' => ∃ own₀, own' = own₀ ∪ F ∧ Q r own₀ s' ∧ D.rely s s' ∧
      ∀ m ∈ F, D.keeps m s s') s := by
  have key : ∀ s₀, D.rely s₀ s → (∀ m ∈ F, D.keeps m s₀ s) →
      wp D (own ∪ F) p (fun r own' s' => ∃ own₀, own' = own₀ ∪ F ∧ Q r own₀ s' ∧ D.rely s₀ s' ∧
        ∀ m ∈ F, D.keeps m s₀ s') s := by
    intro s₀ hr hk
    induction p generalizing own s with
    | pure a => exact ⟨own, rfl, hp, hr, hk⟩
    | raise e => exact ⟨own, rfl, hp, hr, hk⟩
    | atom u k ih =>
      have htake : D.take (own ∪ F) s (u s) = D.take own s (u s) ∪ F := by
        ext m
        simp only [Discipline.take, Set.mem_ofPred_eq, Set.mem_union]
        tauto
      have hnot : ∀ m ∈ F, m ∉ D.take own s (u s) := by
        rintro m hm (hown | hfree)
        · exact Set.disjoint_left.1 hdis hown hm
        · exact hF m hm hfree.1
      have hrely := hD.guar_rely _ _ hp.1.1
      refine ⟨⟨hp.1.1, fun m hm => hp.1.2 m fun h => hm (htake ▸ Or.inl h)⟩, ?_⟩
      rw [htake]
      refine ih s (fun m hm hf => hF m hm (hD.taken m _ _ hrely hf)) (Set.disjoint_right.2 hnot) hp.2
        (hD.trans _ _ _ hr hrely) fun m hm => hD.keeps_trans m _ _ _ (hk m hm) (hp.1.2 m (hnot m hm))
    | ask k ih => exact fun a => ih a hF hdis (hp a) hr hk
    | await k ih =>
      refine ⟨hp.1, fun s' hr' hk' hi a => ?_⟩
      exact ih a (fun m hm hf => hF m hm (hD.taken m _ _ hr' hf)) hdis
        (hp.2 s' hr' (fun m hm => hk' m (Or.inl hm)) hi a) (hD.trans _ _ _ hr hr')
        fun m hm => hD.keeps_trans m _ _ _ (hk m hm) (hk' m (Or.inr hm))
  exact key s (hD.refl s) fun m _ => hD.keeps_refl m s

end rules

/-! ## Guarantees without preconditions -/

/-- every update of the program satisfies `P`, from any state -/
def Guar (P : S → S → Prop) : Coro S A E α → Prop
  | .pure _ => True
  | .raise _ => True
  | .atom u k => ∀ s, P s (u s) ∧ Guar P (k s)
  | .ask k => ∀ a, Guar P (k a)
  | .await k => ∀ a, Guar P (k a)

section guar
variable {P : S → S → Prop}

@[simp] theorem guar_pure (a : α) : Guar P (pure a : Coro S A E α) := trivial

@[simp] theorem guar_raise (e : E) : Guar P (.raise e : Coro S A E α) := trivial

theorem guar_bind {p : Coro S A E α} {f : α → Coro S A E β} (hp : Guar P p) (hf : ∀ a, Guar P (f a)) :
    Guar P (p >>= f) := by
  show Guar P (p.bind f)
  induction p with
  | pure a => exact hf a
  | raise e => trivial
  | atom u k ih => exact fun s => ⟨(hp s).1, ih s (hp s).2⟩
  | ask k ih => exact fun a => ih a (hp a)
  | await k ih => exact fun a => ih a (hp a)

theorem guar_attempt {p : Coro S A E α} (hp : Guar P p) : Guar P p.attempt := by
  induction p with
  | pure a => trivial
  | raise e => trivial
  | atom u k ih => exact fun s => ⟨(hp s).1, ih s (hp s).2⟩
  | ask k ih => exact fun a => ih a (hp a)
  | await k ih => exact fun a => ih a (hp a)

@[simp] theorem guar_ofExcept (r : Except E α) : Guar P (ofExcept r : Coro S A E α) := by
  cases r <;> trivial

/-- what follows may rely on the value -/
theorem guar_ofExcept_bind {r : Except E α} {f : α → Coro S A E β} (hf : ∀ a, r = .ok a → Guar P (f a)) :
    Guar P (ofExcept r >>= f) := by
  cases r with
  | ok a => exact hf a rfl
  | error e => exact guar_raise e

theorem guar_andFinally {p : Coro S A E α} {q : Coro S A E Unit} (hp : Guar P p) (hq : Guar P q) :
    Guar P (andFinally p q) :=
  guar_bind (guar_attempt hp) fun _ => guar_bind hq fun _ => guar_ofExcept _

theorem guar_get (h : ∀ s, P s s) : Guar P (get : Coro S A E S) := fun s => ⟨h s, trivial⟩

theorem guar_modify {f : S → S} (h : ∀ s, P s (f s)) : Guar P (modify f : Coro S A E Unit) := fun s => ⟨h s, trivial⟩

theorem guar_call {f : S → α × S} (h : ∀ s, P s (f s).2) : Guar P (call f : Coro S A E α) := fun s => ⟨h s, trivial⟩

theorem guar_tryCall {f : S → Except E α × S} (h : ∀ s, P s (f s).2) : Guar P (tryCall f : Coro S A E α) :=
  fun s => ⟨h s, guar_ofExcept _⟩

@[simp] theorem guar_askEnv : Guar P (askEnv : Coro S A E A) := fun _ => trivial

@[simp] theorem guar_suspend : Guar P (suspend : Coro S A E A) := fun _ => trivial

theorem Guar.mono {P' : S → S → Prop} (h : ∀ s s', P s s' → P' s s') {p : Coro S A E α} (hp : Guar P p) :
    Guar P' p := by
  induction p with
  | pure a => trivial
  | raise e => trivial
  | atom u k ih => exact fun s => ⟨h _ _ (hp s).1, ih s (hp s).2⟩
  | ask k ih => exact fun a => ih a (hp a)
  | await k ih => exact fun a => ih a (hp a)

theorem Guar.and {P' : S → S → Prop} {p : Coro S A E α} (hp : Guar P p) (hp' : Guar P' p) :
    Guar (fun s s' => P s s' ∧ P' s s') p := by
  induction p with
  | pure a => trivial
  | raise e => trivial
  | atom u k ih => exact fun s => ⟨⟨(hp s).1, (hp' s).1⟩, ih s (hp s).2 (hp' s).2⟩
  | ask k ih => exact fun a => ih a (hp a) (hp' a)
  | await k ih => exact fun a => ih a (hp a) (hp' a)

/-- a program whose every update is allowed, takes nothing and keeps the invariant -/
theorem wp_of_guar {D : Discipline S M} (hD : D.Lawful)
    (h : ∀ s s', P s s' → D.inv s →
      D.guar s s' ∧ (∀ m, D.keeps m s s') ∧ (∀ m, D.free m s → D.free m s') ∧ D.inv s')
    {p : Coro S A E α} (hp : Guar P p) {own : Set M} {s : S} (hs : D.inv s) :
    wp D own p (fun _ own' s' => own' = own ∧ D.inv s' ∧ D.rely s s' ∧ ∀ m ∈ own, D.keeps m s s') s := by
  have key : ∀ s₀, D.rely s₀ s → (∀ m ∈ own, D.keeps m s₀ s) →
      wp D own p (fun _ own' s' => own' = own ∧ D.inv s' ∧ D.rely s₀ s' ∧ ∀ m ∈ own, D.keeps m s₀ s') s := by
    intro s₀ hr hk
    induction p generalizing s with
    | pure a => exact ⟨rfl, hs, hr, hk⟩
    | raise e => exact ⟨rfl, hs, hr, hk⟩
    | atom u k ih =>
      obtain ⟨hg, hkeep, hfree, hi⟩ := h _ _ (hp s).1 hs
      refine ⟨⟨hg, fun m _ => hkeep m⟩, ?_⟩
      rw [Discipline.take_eq hfree]
      exact ih s (hp s).2 hi (hD.trans _ _ _ hr (hD.guar_rely _ _ hg))
        fun m hm => hD.keeps_trans m _ _ _ (hk m hm) (hkeep m)
    | ask k ih => exact fun a => ih a (hp a) hs hr hk
    | await k ih =>
      exact ⟨hs, fun s' hr' hk' hi a => ih a (hp a) hi (hD.trans _ _ _ hr hr')
        fun m hm => hD.keeps_trans m _ _ _ (hk m hm) (hk' m hm)⟩
  exact key s (hD.refl s) fun m _ => hD.keeps_refl m s

theorem exec_guar [Inhabited A] (hrefl : ∀ s, P s s) (htrans : ∀ a b c, P a b → P b c → P a c) {p : Coro S A E α}
    (hp : Guar P p) (as : List A) (s : S) : P s (p.exec as s).2 := by
  induction p generalizing as s with
  | pure a => exact hrefl s
  | raise e => exact hrefl s
  | atom u k ih => exact htrans _ _ _ (hp s).1 (ih s (hp s).2 as (u s))
  | ask k ih => exact ih _ (hp _) _ s
  | await k ih => exact ih _ (hp _) _ s

end guar

/-! ## Programs that settle what they take -/

/-- how a program must end: it leaves the invariant, and what it owned settled -/
def Ends (D : Discipline S M) (settled : M → S → Prop) (_ : Except E α) (own : Set M) (s : S) : Prop :=
  D.inv s ∧ ∀ m ∈ own, settled m s

/-- from any state of the invariant, the program follows the discipline and leaves what it took settled -/
def Settles (D : Discipline S M) (settled : M → S → Prop) (p : Coro S A E α) : Prop :=
  ∀ s, D.inv s → wp D ∅ p (Ends D settled) s

section settles
variable {D : Discipline S M} {settled : M → S → Prop}

theorem settles_pure (a : α) : Settles D settled (pure a : Coro S A E α) := fun _ hs => ⟨hs, by simp⟩

theorem settles_raise (e : E) : Settles D settled (.raise e : Coro S A E α) := fun _ hs => ⟨hs, by simp⟩

theorem settles_ofExcept (r : Except E α) : Settles D settled (ofExcept r : Coro S A E α) :=
  fun _ hs => (wp_ofExcept _ _ _).2 ⟨hs, by simp⟩

theorem settles_attempt {p : Coro S A E α} (hp : Settles D settled p) : Settles D settled p.attempt :=
  fun s hs => (wp_attempt _ _ _).2 (hp s hs)

/-- what follows a program that has settled what it took -/
theorem wp_after (hD : D.Lawful)
    (hsettled : ∀ m s s', D.keeps m s s' → D.rely s s' → settled m s → settled m s') {own : Set M} {p : Coro S A E α}
    {s : S} (hset : ∀ m ∈ own, settled m s) (hown : ∀ m ∈ own, ¬ D.free m s) (hp : wp D ∅ p (Ends D settled) s) :
    wp D own p (Ends D settled) s := by
  have hframe := wp_frame hD hown (Set.empty_disjoint own) hp
  rw [Set.empty_union] at hframe
  refine wp_mono ?_ hframe
  rintro r own' s' ⟨own₀, rfl, hends, hrely, hkeeps⟩
  refine ⟨hends.1, fun m hm => ?_⟩
  rcases hm with hm | hm
  · exact hends.2 m hm
  · exact hsettled m _ _ (hkeeps m hm) hrely (hset m hm)

/-- what follows a first part that ends well -/
theorem wp_then (hD : D.Lawful)
    (hsettled : ∀ m s s', D.keeps m s s' → D.rely s s' → settled m s → settled m s') {p : Coro S A E α}
    {f : α → Coro S A E β} {s : S} (hp : wp D ∅ p (Ends D settled) s) (hf : ∀ a, Settles D settled (f a)) :
    wp D ∅ (p >>= f) (Ends D settled) s := by
  rw [wp_bind]
  refine wp_mono ?_ (wp_taken hD (by simp) hp)
  rintro r own s' ⟨hends, hown⟩
  cases r with
  | ok a => exact wp_after hD hsettled hends.2 hown (hf a s' hends.1)
  | error e => exact hends

theorem settles_bind (hD : D.Lawful)
    (hsettled : ∀ m s s', D.keeps m s s' → D.rely s s' → settled m s → settled m s') {p : Coro S A E α}
    {f : α → Coro S A E β} (hp : Settles D settled p) (hf : ∀ a, Settles D settled (f a)) :
    Settles D settled (p >>= f) := fun s hs => wp_then hD hsettled (hp s hs) hf

/-- what follows a read knows what was read -/
theorem wp_read (hD : D.Lawful) {own : Set M} {f : S → Coro S A E β} {Q : Except E β → Set M → S → Prop} {s : S}
    (hf : wp D own (f s) Q s) : wp D own (get >>= f) Q s := by
  rw [wp_bind, wp_get, Discipline.take_eq fun _ h => h]
  exact ⟨⟨hD.guar_refl s, fun m _ => hD.keeps_refl m s⟩, hf⟩

theorem settles_get (hD : D.Lawful) {f : S → Coro S A E β} (hf : ∀ s, D.inv s → wp D ∅ (f s) (Ends D settled) s) :
    Settles D settled (get >>= f) := fun s hs => wp_read hD (hf s hs)

theorem settles_of_guar (hD : D.Lawful) {P : S → S → Prop}
    (h : ∀ s s', P s s' → D.inv s →
      D.guar s s' ∧ (∀ m, D.keeps m s s') ∧ (∀ m, D.free m s → D.free m s') ∧ D.inv s')
    {p : Coro S A E α} (hp : Guar P p) : Settles D settled p := by
  intro s hs
  refine wp_mono ?_ (wp_of_guar hD h hp hs)
  rintro r own s' ⟨rfl, hs', -, -⟩
  exact ⟨hs', by simp⟩

end settles

/-! ## Programs that keep an invariant -/

/-- from any state satisfying `I`, the program follows the resource-free discipline of `I` and `R` and ends in `I` -/
def Keeps (I : S → Prop) (R : S → S → Prop) (p : Coro S A E α) : Prop :=
  ∀ (own : Set Empty) s, I s → wp (Discipline.plain I R) own p (fun _ _ s' => I s') s

section keeps
variable {I : S → Prop} {R : S → S → Prop}

theorem keeps_pure (a : α) : Keeps I R (pure a : Coro S A E α) := fun _ _ h => h

theorem keeps_raise (e : E) : Keeps I R (.raise e : Coro S A E α) := fun _ _ h => h

theorem keeps_bind {p : Coro S A E α} {f : α → Coro S A E β} (hp : Keeps I R p) (hf : ∀ a, Keeps I R (f a)) :
    Keeps I R (p >>= f) := by
  intro own s hs
  rw [wp_bind]
  refine wp_mono (fun r own' s' hs' => ?_) (hp own s hs)
  cases r with
  | ok a => exact hf a own' s' hs'
  | error e => exact hs'

theorem keeps_attempt {p : Coro S A E α} (hp : Keeps I R p) : Keeps I R p.attempt :=
  fun own s hs => (wp_attempt _ _ _).2 (hp own s hs)

theorem keeps_ofExcept (r : Except E α) : Keeps I R (ofExcept r : Coro S A E α) :=
  fun _ _ hs => (wp_ofExcept _ _ _).2 hs

/-- what follows a read knows what was read -/
theorem keeps_get {f : S → Coro S A E β} (hrefl : ∀ s, R s s)
    (hf : ∀ own s, I s → wp (Discipline.plain I R) own (f s) (fun _ _ s' => I s') s) : Keeps I R (get >>= f) := by
  intro own s hs
  simp only [wp_bind, wp_get, andThen, Discipline.may_plain]
  exact ⟨hrefl s, hf _ s hs⟩

theorem keeps_of_guar (hrefl : ∀ s, R s s) (htrans : ∀ a b c, R a b → R b c → R a c) {P : S → S → Prop}
    (h : ∀ s s', P s s' → I s → R s s' ∧ I s') {p : Coro S A E α} (hp : Guar P p) : Keeps I R p := by
  intro own s hs
  refine wp_mono (fun _ _ _ hq => hq.2.1) (wp_of_guar (Discipline.plain_lawful hrefl htrans) ?_ hp hs)
  exact fun s s' hP hI => ⟨(h s s' hP hI).1, fun m => m.elim, fun m => m.elim, (h s s' hP hI).2⟩

end keeps

end Coro

/-! ## The event loop -/

/-- the shared state and the suspended programs, each with the event that started it -/
structure Pool (S A E T : Type) where
  state : S
  tasks : List (T × (A → Coro S A E Unit))

/-- a scheduling decision: let an event arrive, or resume the i-th suspended program -/
inductive Act (A T : Type) where
  | arrive (t : T) (as : List A)
  | resume (i : ℕ) (a : A) (as : List A)
deriving DecidableEq, Repr

namespace Pool

variable {S A E T M : Type}

/-! ## Invariants of a pool -/

/-- between segments: the invariant holds; every suspended program owns resources of its own and owes its end; a
resource that has been taken and that nobody owns any more is settled -/
structure Inv (D : Coro.Discipline S M) (settled : M → S → Prop) (c : Pool S A E T) : Prop where
  state : D.inv c.state
  owners : ∃ ts : List (Set M × (T × (A → Coro S A E Unit))), ts.map Prod.snd = c.tasks ∧
    (∀ x ∈ ts, Coro.Owes D x.1 x.2.2 (Coro.Ends D settled) c.state ∧ ∀ m ∈ x.1, ¬ D.free m c.state) ∧
    (∀ (i j : ℕ) (x y : Set M × (T × (A → Coro S A E Unit))), ts[i]? = some x → ts[j]? = some y → i ≠ j →
      Disjoint x.1 y.1) ∧
    ∀ m, ¬ D.free m c.state → (∃ x ∈ ts, m ∈ x.1) ∨ settled m c.state

theorem inv_init {D : Coro.Discipline S M} {settled : M → S → Prop} {s : S} (h : D.inv s) (hf : ∀ m, D.free m s) :
    Inv D settled (⟨s, []⟩ : Pool S A E T) :=
  ⟨h, [], rfl, by simp, by simp, fun m hm => absurd (hf m) hm⟩

variable {D : Coro.Discipline S M} {settled : M → S → Prop}

/-- the others after a segment that owned `own` and then `own'` -/
theorem Inv.others (hD : D.Lawful) {own own' : Set M} {s s' : S} (hm : Coro.Moves D own own' s s') {x : Set M}
    {k : A → Coro S A E Unit} (hd : Disjoint own x) (hx : Coro.Owes D x k (Coro.Ends D settled) s ∧ ∀ m ∈ x, ¬ D.free m s) :
    (Coro.Owes D x k (Coro.Ends D settled) s' ∧ ∀ m ∈ x, ¬ D.free m s') ∧ Disjoint own' x := by
  have hdis : Disjoint own' x := by
    rw [Set.disjoint_left] at hd ⊢
    intro m hm' hmx
    rcases hm.taken m hm' with h | h
    · exact hd h hmx
    · exact hx.2 m hmx h.1
  refine ⟨⟨hx.1.rely hD hm.rely fun m hmx => hm.keeps m fun h => (Set.disjoint_left.1 hdis) h hmx, ?_⟩, hdis⟩
  exact fun m hmx hf => hx.2 m hmx (hD.taken m _ _ hm.rely hf)

/-! ## Steps and runs -/

variable [Inhabited A]

/-- an event that cannot arrive in this state, or a resumption of no program, changes nothing -/
def step (prog : T → Coro S A E Unit) (enabled : S → T → Bool) (c : Pool S A E T) : Act A T → Pool S A E T
  | .arrive t as =>
    if enabled c.state t then
      match (prog t).segment as c.state with
      | (.done _, s) => ⟨s, c.tasks⟩
      | (.suspended k, s) => ⟨s, c.tasks ++ [(t, k)]⟩
    else c
  | .resume i a as =>
    match c.tasks[i]? with
    | none => c
    | some (t, k) =>
      match (k a).segment as c.state with
      | (.done _, s) => ⟨s, c.tasks.eraseIdx i⟩
      | (.suspended k', s) => ⟨s, c.tasks.set i (t, k')⟩

def run (prog : T → Coro S A E Unit) (enabled : S → T → Bool) (c : Pool S A E T) (acts : List (Act A T)) :
    Pool S A E T := acts.foldl (step prog enabled) c

variable {prog : T → Coro S A E Unit} {enabled : S → T → Bool}

theorem run_cons (c : Pool S A E T) (a : Act A T) (acts : List (Act A T)) :
    run prog enabled c (a :: acts) = run prog enabled (step prog enabled c a) acts := rfl

theorem run_append (c : Pool S A E T) (l l' : List (Act A T)) :
    run prog enabled c (l ++ l') = run prog enabled (run prog enabled c l) l' := by
  simp [run, List.foldl_append]

/-- the event an act lets in satisfies `ok` in the state it arrives in -/
def Admits (ok : S → T → Prop) (c : Pool S A E T) : Act A T → Prop
  | .arrive t _ => ok c.state t
  | .resume _ _ _ => True

/-- every act of the run is admitted where it happens -/
def AllAdmitted (prog : T → Coro S A E Unit) (enabled : S → T → Bool) (ok : S → T → Prop) (c : Pool S A E T) :
    List (Act A T) → Prop
  | [] => True
  | a :: acts => Admits ok c a ∧ AllAdmitted prog enabled ok (step prog enabled c a) acts

variable {ok : S → T → Prop}

theorem allAdmitted_of_forall {acts : List (Act A T)} (h : ∀ a ∈ acts, ∀ c : Pool S A E T, Admits ok c a)
    (c : Pool S A E T) : AllAdmitted prog enabled ok c acts := by
  induction acts generalizing c with
  | nil => trivial
  | cons a acts ih => exact ⟨h a List.mem_cons_self c, ih (fun x hx => h x (List.mem_cons_of_mem a hx)) _⟩

instance decidableAllAdmitted [hok : ∀ s t, Decidable (ok s t)] : (c : Pool S A E T) → (acts : List (Act A T)) →
    Decidable (AllAdmitted prog enabled ok c acts)
  | _, [] => isTrue trivial
  | c, .arrive t as :: acts =>
    @instDecidableAnd _ _ (hok c.state t) (decidableAllAdmitted (step prog enabled c (.arrive t as)) acts)
  | c, .resume i a as :: acts =>
    @instDecidableAnd _ _ (isTrue trivial) (decidableAllAdmitted (step prog enabled c (.resume i a as)) acts)

theorem allAdmitted_append {c : Pool S A E T} {l l' : List (Act A T)}
    (h : AllAdmitted prog enabled ok c (l ++ l')) :
    AllAdmitted prog enabled ok c l ∧ AllAdmitted prog enabled ok (run prog enabled c l) l' := by
  induction l generalizing c with
  | nil => exact ⟨trivial, h⟩
  | cons a l ih =>
    obtain ⟨hl, hl'⟩ := ih h.2
    exact ⟨⟨h.1, hl⟩, hl'⟩

theorem eraseIdx_map {α β : Type} (f : α → β) (l : List α) (i : ℕ) : (l.eraseIdx i).map f = (l.map f).eraseIdx i := by
  induction l generalizing i with
  | nil => rfl
  | cons a l ih => cases i with
    | zero => rfl
    | succ i => simp [ih]

theorem arrive_inv (hD : D.Lawful) (hsettled : ∀ m s s', D.keeps m s s' → D.rely s s' → settled m s → settled m s')
    (hprog : ∀ t s, D.inv s → enabled s t = true → ok s t → Coro.wp D ∅ (prog t) (Coro.Ends D settled) s)
    {c : Pool S A E T} (h : Inv D settled c) (t : T) (as : List A) (ha : ok c.state t) :
    D.rely c.state (step prog enabled c (.arrive t as)).state ∧ Inv D settled (step prog enabled c (.arrive t as)) := by
  obtain ⟨hstate, ts, hts, howe, hdisj, hset⟩ := h
  simp only [step]
  split_ifs with he
  swap
  · exact ⟨hD.refl _, hstate, ts, hts, howe, hdisj, hset⟩
  obtain ⟨own', hm, hq⟩ := Coro.wp_segment hD as (hprog t c.state hstate he ha)
  have others : ∀ x ∈ ts, _ := fun x hx => Inv.others hD hm (Set.empty_disjoint x.1) (howe x hx)
  -- what was settled stays settled unless the new program took it
  have hset' : ∀ m, ¬ D.free m ((prog t).segment as c.state).2 →
      (∃ x ∈ ts, m ∈ x.1) ∨ m ∈ own' ∨ settled m ((prog t).segment as c.state).2 := by
    intro m hf
    by_cases hown : m ∈ own'
    · exact Or.inr (Or.inl hown)
    · by_cases hfree : D.free m c.state
      · exact absurd (hm.fresh m hfree hf) hown
      · rcases hset m hfree with hx | hs
        · exact Or.inl hx
        · exact Or.inr (Or.inr (hsettled m _ _ (hm.keeps m hown) hm.rely hs))
  split
  · rename_i r s hseg
    rw [hseg] at hm hq hset' others
    refine ⟨hm.rely, hq.1, ts, hts, fun x hx => (others x hx).1, hdisj, fun m hf => ?_⟩
    rcases hset' m hf with hx | hown | hs
    · exact Or.inl hx
    · exact Or.inr (hq.2 m hown)
    · exact Or.inr hs
  · rename_i k s hseg
    rw [hseg] at hm hq hset' others
    refine ⟨hm.rely, hq.1, ts ++ [(own', (t, k))], by simp [hts], fun x hx => ?_, fun i j x y hi hj hij => ?_,
      fun m hf => ?_⟩
    · rcases List.mem_append.1 hx with hx | hx
      · exact (others x hx).1
      · rw [List.mem_singleton.1 hx]
        refine ⟨hq.2, fun m hm' => ?_⟩
        rcases hm.taken m hm' with h | h
        · exact absurd h (Set.notMem_empty m)
        · exact h.2
    · rw [List.getElem?_append] at hi hj
      split_ifs at hi hj with h1 h2 h2
      · exact hdisj i j x y hi hj hij
      · have hy := List.mem_of_getElem? hj
        rw [List.mem_singleton.1 hy]
        exact ((others x (List.mem_of_getElem? hi)).2).symm
      · have hx := List.mem_of_getElem? hi
        rw [List.mem_singleton.1 hx]
        exact (others y (List.mem_of_getElem? hj)).2
      · simp only [List.getElem?_singleton] at hi hj
        split_ifs at hi hj
        omega
    · rcases hset' m hf with ⟨x, hx, hmx⟩ | hown | hs
      · exact Or.inl ⟨x, List.mem_append_left _ hx, hmx⟩
      · exact Or.inl ⟨_, List.mem_append_right _ (List.mem_singleton.2 rfl), hown⟩
      · exact Or.inr hs

theorem resume_inv (hD : D.Lawful) (hsettled : ∀ m s s', D.keeps m s s' → D.rely s s' → settled m s → settled m s')
    {c : Pool S A E T} (h : Inv D settled c) (i : ℕ) (a : A) (as : List A) :
    D.rely c.state (step prog enabled c (.resume i a as)).state ∧
      Inv D settled (step prog enabled c (.resume i a as)) := by
  obtain ⟨hstate, ts, hts, howe, hdisj, hset⟩ := h
  simp only [step]
  split
  · exact ⟨hD.refl _, hstate, ts, hts, howe, hdisj, hset⟩
  rename_i t k hget
  obtain ⟨⟨own, t', k'⟩, hi, heq⟩ : ∃ x, ts[i]? = some x ∧ x.2 = (t, k) := by
    rw [← hts, List.getElem?_map, Option.map_eq_some_iff] at hget
    exact hget
  cases heq
  have hmem := List.mem_of_getElem? hi
  obtain ⟨own', hm, hq⟩ := Coro.wp_segment hD as
    ((howe _ hmem).1 c.state (hD.refl _) (fun m _ => hD.keeps_refl m _) hstate a)
  have hownfree : ∀ m ∈ own', ¬ D.free m (((k a).segment as c.state).2) := by
    intro m hm'
    rcases hm.taken m hm' with h | h
    · exact fun hf => (howe _ hmem).2 m h (hD.taken m _ _ hm.rely hf)
    · exact h.2
  have others : ∀ j x, ts[j]? = some x → j ≠ i → _ := fun j x hj hne =>
    Inv.others hD hm (hdisj i j _ x hi hj (Ne.symm hne)) (howe x (List.mem_of_getElem? hj))
  have hset' : ∀ m, ¬ D.free m ((k a).segment as c.state).2 →
      (∃ j x, ts[j]? = some x ∧ j ≠ i ∧ m ∈ x.1) ∨ m ∈ own' ∨ settled m ((k a).segment as c.state).2 := by
    intro m hf
    by_cases hown : m ∈ own'
    · exact Or.inr (Or.inl hown)
    · by_cases hfree : D.free m c.state
      · exact absurd (hm.fresh m hfree hf) hown
      · rcases hset m hfree with ⟨x, hx, hmx⟩ | hs
        · obtain ⟨j, hj⟩ := List.getElem?_of_mem hx
          refine Or.inl ⟨j, x, hj, fun hji => hown ?_, hmx⟩
          rw [hji, hi] at hj
          cases hj
          exact hm.sub hmx
        · exact Or.inr (Or.inr (hsettled m _ _ (hm.keeps m hown) hm.rely hs))
  have hlt : i < ts.length := (List.getElem?_eq_some_iff.1 hi).1
  split
  · rename_i r s hseg
    rw [hseg] at hm hq hset' others
    refine ⟨hm.rely, hq.1, ts.eraseIdx i, by rw [← hts, eraseIdx_map], fun x hx => ?_,
      fun j j' x y hj hj' hne => ?_, fun m hf => ?_⟩
    · obtain ⟨j, hj⟩ := List.getElem?_of_mem hx
      rw [List.getElem?_eraseIdx] at hj
      split_ifs at hj with h1
      · exact (others j x hj (by omega)).1
      · exact (others (j + 1) x hj (by omega)).1
    · rw [List.getElem?_eraseIdx] at hj hj'
      split_ifs at hj hj' <;> exact hdisj _ _ x y hj hj' (by omega)
    · rcases hset' m hf with ⟨j, x, hj, hne, hmx⟩ | hown | hs
      · refine Or.inl ⟨x, ?_, hmx⟩
        apply List.mem_of_getElem? (i := if j < i then j else j - 1)
        rw [List.getElem?_eraseIdx]
        split_ifs <;> first | exact hj | (exfalso; omega) | (rw [← hj]; congr 1; omega)
      · exact Or.inr (hq.2 m hown)
      · exact Or.inr hs
  · rename_i k' s hseg
    rw [hseg] at hm hq hset' others hownfree
    refine ⟨hm.rely, hq.1, ts.set i (own', (t, k')), by rw [← hts, List.map_set], fun x hx => ?_,
      fun j j' x y hj hj' hne => ?_, fun m hf => ?_⟩
    · obtain ⟨j, hj⟩ := List.getElem?_of_mem hx
      rw [List.getElem?_set] at hj
      split_ifs at hj with h1
      · cases hj; exact ⟨hq.2, hownfree⟩
      · exact (others j x hj (Ne.symm h1)).1
    · rw [List.getElem?_set] at hj hj'
      split_ifs at hj hj' with h1 h2 h2
      · omega
      · cases hj; exact (others j' y hj' (Ne.symm h2)).2
      · cases hj'; exact ((others j x hj (Ne.symm h1)).2).symm
      · exact hdisj j j' x y hj hj' hne
    · rcases hset' m hf with ⟨j, x, hj, hne, hmx⟩ | hown | hs
      · refine Or.inl ⟨x, ?_, hmx⟩
        apply List.mem_of_getElem? (i := j)
        rw [List.getElem?_set_ne (Ne.symm hne)]
        exact hj
      · refine Or.inl ⟨(own', (t, k')), ?_, hown⟩
        apply List.mem_of_getElem? (i := i)
        rw [List.getElem?_set_self hlt]
      · exact Or.inr hs

theorem step_inv (hD : D.Lawful) (hsettled : ∀ m s s', D.keeps m s s' → D.rely s s' → settled m s → settled m s')
    (hprog : ∀ t s, D.inv s → enabled s t = true → ok s t → Coro.wp D ∅ (prog t) (Coro.Ends D settled) s)
    {c : Pool S A E T} (h : Inv D settled c) (a : Act A T) (ha : Admits ok c a) :
    D.rely c.state (step prog enabled c a).state ∧ Inv D settled (step prog enabled c a) := by
  cases a with
  | arrive t as => exact arrive_inv hD hsettled hprog h t as ha
  | resume i a as => exact resume_inv hD hsettled h i a as

/-- **Invariants of every interleaving.** If each program an admitted event may start follows the discipline, then
after every admitted run the invariant holds and every resource is free, owned by a suspended program, or settled. -/
theorem run_inv (hD : D.Lawful) (hsettled : ∀ m s s', D.keeps m s s' → D.rely s s' → settled m s → settled m s')
    (hprog : ∀ t s, D.inv s → enabled s t = true → ok s t → Coro.wp D ∅ (prog t) (Coro.Ends D settled) s)
    {c : Pool S A E T} (h : Inv D settled c) (acts : List (Act A T))
    (hacts : AllAdmitted prog enabled ok c acts) :
    D.rely c.state (run prog enabled c acts).state ∧ Inv D settled (run prog enabled c acts) := by
  induction acts generalizing c with
  | nil => exact ⟨hD.refl _, h⟩
  | cons a acts ih =>
    obtain ⟨hr, hi⟩ := step_inv hD hsettled hprog h a hacts.1
    obtain ⟨hr', hi'⟩ := ih hi hacts.2
    exact ⟨hD.trans _ _ _ hr hr', hi'⟩

/-- the case without resources: an invariant and a relation kept by every program are kept by every run -/
theorem run_plain {I : S → Prop} {R : S → S → Prop} (hrefl : ∀ s, R s s) (htrans : ∀ a b c, R a b → R b c → R a c)
    (hprog : ∀ t s, I s → enabled s t = true → ok s t →
      Coro.wp (Coro.Discipline.plain I R) ∅ (prog t) (fun _ _ s => I s) s)
    {s : S} (h : I s) (acts : List (Act A T)) (hacts : AllAdmitted prog enabled ok ⟨s, []⟩ acts) :
    R s (run prog enabled ⟨s, []⟩ acts).state ∧ I (run prog enabled ⟨s, []⟩ acts).state := by
  have h₀ : Inv (Coro.Discipline.plain I R) (fun m _ => m.elim) (⟨s, []⟩ : Pool S A E T) :=
    inv_init h fun m => m.elim
  obtain ⟨hr, hi⟩ := run_inv (Coro.Discipline.plain_lawful hrefl htrans) (fun m => m.elim)
    (fun t s hI he ho => Coro.wp_mono (fun _ _ _ hq => ⟨hq, fun m => m.elim⟩) (hprog t s hI he ho)) h₀ acts hacts
  exact ⟨hr, hi.state⟩

end Pool

end Coop
