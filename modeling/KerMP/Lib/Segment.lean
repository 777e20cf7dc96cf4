/-
One step of an event loop at a time.

`Pool.run_inv` speaks of what holds between the steps of a run. The rules here speak of a single step: what the first
segment of a program does (`wp_first`), and what every resumption of a suspended program does (`resume_guar`), when
everything the programs do after their first await satisfies `P` (`Later P`).
-/
import KerMP.Lib.Coro

namespace Coop

namespace Coro

variable {S A E α β γ : Type} {P : S → S → Prop}

/-! ## The first segment -/

/-- only the first segment counts: `I` holds where it gives up control, and nothing is asked of the rest -/
def Discipline.first (I : S → Prop) : Discipline S Empty :=
  ⟨I, fun _ _ => True, fun _ _ => False, fun m => m.elim, fun m => m.elim⟩

@[simp] theorem Discipline.may_first {I : S → Prop} {own : Set Empty} {s s' : S} :
    (Discipline.first I).May own s s' ↔ True := ⟨fun _ => trivial, fun _ => ⟨trivial, fun m => m.elim⟩⟩

@[simp] theorem wp_suspend_first {I : S → Prop} {own : Set Empty} (Q : Except E A → Set Empty → S → Prop) (s : S) :
    wp (Discipline.first I) own suspend Q s ↔ I s :=
  ⟨fun h => h.1, fun h => ⟨h, fun _ hr => hr.elim⟩⟩

@[simp] theorem Discipline.take_first {I : S → Prop} {own : Set Empty} {s s' : S} :
    (Discipline.first I).take own s s' = own := Discipline.take_eq fun m => m.elim

section rules
variable {I : S → Prop} {own : Set Empty} {Q : Except E β → Set Empty → S → Prop} {s : S}

/-- updates, calls and questions before the first await simply happen -/
@[simp] theorem wp_get_first {f : S → Coro S A E β} :
    wp (Discipline.first I) own (get >>= f) Q s ↔ wp (Discipline.first I) own (f s) Q s := by
  rw [wp_bind, wp_get, andThen_ok, Discipline.take_first]
  simp

@[simp] theorem wp_modify_first {u : S → S} {f : Unit → Coro S A E β} :
    wp (Discipline.first I) own (modify u >>= f) Q s ↔ wp (Discipline.first I) own (f ()) Q (u s) := by
  rw [wp_bind, wp_modify, andThen_ok, Discipline.take_first]
  simp

@[simp] theorem wp_call_first {u : S → α × S} {f : α → Coro S A E β} :
    wp (Discipline.first I) own (call u >>= f) Q s ↔ wp (Discipline.first I) own (f (u s).1) Q (u s).2 := by
  rw [wp_bind, wp_call, andThen_ok, Discipline.take_first]
  simp

@[simp] theorem wp_tryCall_first {u : S → Except E α × S} {f : α → Coro S A E β} :
    wp (Discipline.first I) own (tryCall u >>= f) Q s ↔
      wp (Discipline.first I) own (ofExcept (u s).1 >>= f) Q (u s).2 := by
  rw [wp_bind, wp_tryCall, wp_bind, wp_ofExcept, Discipline.take_first]
  simp

@[simp] theorem wp_ok_first {a : α} {f : α → Coro S A E β} :
    wp (Discipline.first I) own (ofExcept (.ok a) >>= f) Q s ↔ wp (Discipline.first I) own (f a) Q s := Iff.rfl

@[simp] theorem wp_error_first {e : E} {f : α → Coro S A E β} :
    wp (Discipline.first I) own (ofExcept (.error e) >>= f) Q s ↔ Q (.error e) own s := Iff.rfl

end rules

/-- a first segment that ends the program ends in `Q`, one that does not leaves `I` -/
theorem wp_first [Inhabited A] {I : S → Prop} {own : Set Empty} {p : Coro S A E α}
    {Q : Except E α → Set Empty → S → Prop} {s : S} (as : List A) (hp : wp (Discipline.first I) own p Q s) :
    (∃ r own', (p.segment as s).1 = .done r ∧ Q r own' (p.segment as s).2) ∨ I (p.segment as s).2 := by
  induction p generalizing own s as with
  | pure a => exact Or.inl ⟨.ok a, own, rfl, hp⟩
  | raise e => exact Or.inl ⟨.error e, own, rfl, hp⟩
  | atom u k ih => exact ih s as hp.2
  | ask k ih => exact ih _ _ (hp _)
  | await k ih => exact Or.inr hp.1

theorem wp_first_imp {I I' : S → Prop} (hI : ∀ s, I s → I' s) {own : Set Empty} {p : Coro S A E α}
    {Q : Except E α → Set Empty → S → Prop} {s : S} (hp : wp (Discipline.first I) own p Q s) :
    wp (Discipline.first I') own p Q s := by
  induction p generalizing own s with
  | pure a => exact hp
  | raise e => exact hp
  | atom u k ih => exact ⟨Discipline.may_first.2 trivial, ih s hp.2⟩
  | ask k ih => exact fun a => ih a (hp a)
  | await k ih => exact ⟨hI s hp.1, fun _ hr => hr.elim⟩

/-- a program whose every update keeps `I` -/
theorem wp_first_of_guar {I : S → Prop} (hI : ∀ s s', P s s' → I s → I s') {own : Set Empty} {p : Coro S A E α}
    (hp : Guar P p) {s : S} (h : I s) : wp (Discipline.first I) own p (fun _ _ s' => I s') s := by
  induction p generalizing own s with
  | pure a => exact h
  | raise e => exact h
  | atom u k ih => exact ⟨Discipline.may_first.2 trivial, ih s (hp s).2 (hI _ _ (hp s).1 h)⟩
  | ask k ih => exact fun a => ih a (hp a) h
  | await k ih => exact ⟨h, fun _ hr => hr.elim⟩

/-- a first segment that leaves `I` wherever it ends -/
theorem segment_first [Inhabited A] {I : S → Prop} {own : Set Empty} {p : Coro S A E α} {s : S} (as : List A)
    (hp : wp (Discipline.first I) own p (fun _ _ s' => I s') s) : I (p.segment as s).2 := by
  rcases wp_first as hp with ⟨r, own', -, h⟩ | h
  · exact h
  · exact h

/-! ## What comes later -/

/-- what follows a program whose only answer is `b` -/
theorem guar_answer {g : Coro S A E α} {b : β} {f : β → Coro S A E γ} (hg : Guar P (g >>= fun _ => pure b))
    (hf : Guar P (f b)) : Guar P ((g >>= fun _ => pure b) >>= f) := by
  show Guar P ((g.bind fun _ => pure b).bind f)
  induction g with
  | pure a => exact hf
  | raise e => trivial
  | atom u k ih => exact fun s => ⟨(hg s).1, ih s (hg s).2⟩
  | ask k ih => exact fun a => ih a (hg a)
  | await k ih => exact fun a => ih a (hg a)

/-- every update after the first await satisfies `P` -/
def Later (P : S → S → Prop) : Coro S A E α → Prop
  | .pure _ => True
  | .raise _ => True
  | .atom _ k => ∀ s, Later P (k s)
  | .ask k => ∀ a, Later P (k a)
  | .await k => ∀ a, Guar P (k a)

theorem later_of_guar {p : Coro S A E α} (hp : Guar P p) : Later P p := by
  induction p with
  | pure a => trivial
  | raise e => trivial
  | atom u k ih => exact fun s => ih s (hp s).2
  | ask k ih => exact fun a => ih a (hp a)
  | await k ih => exact hp

/-- what follows may run after an await or before one -/
theorem later_bind {p : Coro S A E α} {f : α → Coro S A E β} (hp : Later P p) (hf : ∀ a, Guar P (f a)) :
    Later P (p >>= f) := by
  show Later P (p.bind f)
  induction p with
  | pure a => exact later_of_guar (hf a)
  | raise e => trivial
  | atom u k ih => exact fun s => ih s (hp s)
  | ask k ih => exact fun a => ih a (hp a)
  | await k ih => exact fun a => guar_bind (hp a) hf

theorem later_attempt {p : Coro S A E α} (hp : Later P p) : Later P p.attempt := by
  induction p with
  | pure a => trivial
  | raise e => trivial
  | atom u k ih => exact fun s => ih s (hp s)
  | ask k ih => exact fun a => ih a (hp a)
  | await k ih => exact fun a => guar_attempt (hp a)

theorem later_andFinally {p : Coro S A E α} {q : Coro S A E Unit} (hp : Later P p) (hq : Guar P q) :
    Later P (andFinally p q) :=
  later_bind (later_attempt hp) fun _ => guar_bind hq fun _ => guar_ofExcept _

/-- a question, an update or a raised exception is no await -/
theorem later_askEnv {f : A → Coro S A E β} (hf : ∀ a, Later P (f a)) : Later P (askEnv >>= f) := hf

theorem later_get {f : S → Coro S A E β} (hf : ∀ s, Later P (f s)) : Later P (get >>= f) := hf

theorem later_modify {u : S → S} {f : Unit → Coro S A E β} (hf : Later P (f ())) : Later P (modify u >>= f) := fun _ => hf

theorem later_ofExcept {r : Except E α} {f : α → Coro S A E β} (hf : ∀ a, Later P (f a)) :
    Later P (ofExcept r >>= f) := by
  cases r with
  | ok a => exact hf a
  | error e => trivial

theorem later_tryCall {u : S → Except E α × S} {f : α → Coro S A E β} (hf : ∀ a, Later P (f a)) :
    Later P (tryCall u >>= f) := fun _ => later_ofExcept hf

/-! ## Without an await -/

def Sync : Coro S A E α → Prop
  | .pure _ => True
  | .raise _ => True
  | .atom _ k => ∀ s, Sync (k s)
  | .ask k => ∀ a, Sync (k a)
  | .await _ => False

theorem sync_bind {p : Coro S A E α} {f : α → Coro S A E β} (hp : Sync p) (hf : ∀ a, Sync (f a)) : Sync (p >>= f) := by
  show Sync (p.bind f)
  induction p with
  | pure a => exact hf a
  | raise e => trivial
  | atom u k ih => exact fun s => ih s (hp s)
  | ask k ih => exact fun a => ih a (hp a)
  | await k ih => exact hp.elim

theorem sync_get : Sync (get : Coro S A E S) := fun _ => trivial

theorem sync_modify {u : S → S} : Sync (modify u : Coro S A E Unit) := fun _ => trivial

theorem sync_askEnv : Sync (askEnv : Coro S A E A) := fun _ => trivial

theorem sync_ofExcept (r : Except E α) : Sync (ofExcept r : Coro S A E α) := by
  cases r <;> trivial

/-- such a program leaves nothing for later -/
theorem later_of_sync {p : Coro S A E α} (hp : Sync p) : Later P p := by
  induction p with
  | pure a => trivial
  | raise e => trivial
  | atom u k ih => exact fun s => ih s (hp s)
  | ask k ih => exact fun a => ih a (hp a)
  | await k ih => exact hp.elim

/-! ## Segments -/

section segments
variable [Inhabited A]

/-- reading the state is no step of its own, also where what follows may be caught -/
theorem segment_get {f : S → Coro S A E α} (as : List A) (s : S) :
    (get >>= f).segment as s = (f s).segment as s := rfl

theorem segment_attempt_get {f : S → Coro S A E α} {g : Except E α → Coro S A E β} (as : List A) (s : S) :
    ((get >>= f).attempt >>= g).segment as s = ((f s).attempt >>= g).segment as s := rfl

theorem segment_guar (hrefl : ∀ s, P s s) (htrans : ∀ a b c, P a b → P b c → P a c) {p : Coro S A E α} (hp : Guar P p)
    (as : List A) (s : S) : P s (p.segment as s).2 := by
  induction p generalizing as s with
  | pure a => exact hrefl s
  | raise e => exact hrefl s
  | atom u k ih => exact htrans _ _ _ (hp s).1 (ih s (hp s).2 as (u s))
  | ask k ih => exact ih _ (hp _) _ s
  | await k ih => exact hrefl s

theorem segment_later {p : Coro S A E α} (hp : Later P p) {as : List A} {s : S} {k : A → Coro S A E α}
    (hk : (p.segment as s).1 = .suspended k) (a : A) : Guar P (k a) := by
  induction p generalizing as s with
  | pure a => cases hk
  | raise e => cases hk
  | atom u k' ih => exact ih s (hp s) hk
  | ask k' ih => exact ih _ (hp _) hk
  | await k' ih =>
    cases hk
    exact hp a

end segments

end Coro

namespace Pool

open Coro

variable {S A E T : Type} [Inhabited A] {P : S → S → Prop} {prog : T → Coro S A E Unit} {enabled : S → T → Bool}

/-- every suspended program will satisfy `P` -/
def AllLater (P : S → S → Prop) (c : Pool S A E T) : Prop := ∀ x ∈ c.tasks, ∀ a, Guar P (x.2 a)

theorem step_later (hprog : ∀ t, Later P (prog t)) {c : Pool S A E T} (h : AllLater P c) (act : Act A T) :
    AllLater P (step prog enabled c act) := by
  cases act with
  | arrive t as =>
    simp only [step]
    split_ifs
    · split
      · exact h
      · rename_i k s hseg
        intro x hx a
        rcases List.mem_append.1 hx with hx | hx
        · exact h x hx a
        · rw [List.mem_singleton.1 hx]
          exact segment_later (hprog t) (by rw [hseg]) a
    · exact h
  | resume i a as =>
    simp only [step]
    split
    · exact h
    · rename_i t k hget
      have hk : Guar P (k a) := h (t, k) (List.mem_of_getElem? hget) a
      split
      · exact fun x hx => h x (List.mem_of_mem_eraseIdx hx)
      · rename_i k' s hseg
        intro x hx a'
        rcases List.mem_or_eq_of_mem_set hx with hx | hx
        · exact h x hx a'
        · rw [hx]
          exact segment_later (later_of_guar hk) (by rw [hseg]) a'

theorem run_later (hprog : ∀ t, Later P (prog t)) {c : Pool S A E T} (h : AllLater P c) (acts : List (Act A T)) :
    AllLater P (run prog enabled c acts) := by
  induction acts generalizing c with
  | nil => exact h
  | cons act acts ih => exact ih (step_later hprog h act)

/-- **Resumptions.** Where every program satisfies `P` after its first await, every resumption does. -/
theorem resume_guar (hrefl : ∀ s, P s s) (htrans : ∀ a b c, P a b → P b c → P a c) {c : Pool S A E T}
    (h : AllLater P c) (i : ℕ) (a : A) (as : List A) : P c.state (step prog enabled c (.resume i a as)).state := by
  simp only [step]
  split
  · exact hrefl _
  · rename_i t k hget
    have hseg := segment_guar hrefl htrans (h (t, k) (List.mem_of_getElem? hget) a) as c.state
    split
    · rename_i r s heq
      rw [heq] at hseg
      exact hseg
    · rename_i k' s heq
      rw [heq] at hseg
      exact hseg

/-- an arrival runs the first segment of its program, or nothing -/
theorem arrive_state (c : Pool S A E T) (t : T) (as : List A) : (step prog enabled c (.arrive t as)).state =
    if enabled c.state t then ((prog t).segment as c.state).2 else c.state := by
  simp only [step]
  split_ifs
  · split
    · rename_i heq
      rw [heq]
    · rename_i heq
      rw [heq]
  · rfl

end Pool

end Coop
