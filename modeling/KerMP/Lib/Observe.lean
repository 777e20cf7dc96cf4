/-
Programs that are watched while they run, and promises that depend on what was seen.

A `Discipline` asks the same of every program at every time. Here an observer keeps a value of `G` for each running
program: it starts with the event, follows every update (`see`) and every answer the program is woken with (`wake`).
What a program promises, and what it may expect of the others while it is suspended, may depend on this value
(`Accord`), and a run may be restricted by what the observer knows of all suspended programs.

- `owp O D g p Q s`: from `s`, observed as `g`, the program `p` keeps the accord and ends in `Q`.
- `Behaves`: the programs that keep the accord from every state that satisfies its assertions.
- `Pool.watch`: the observer's values along a run, one for each suspended program.
- `Pool.run_kept`: in every admitted run each step does what the observer's value allows it, and whatever is suspended
  can still rely on what it was promised.
-/
import KerMP.Lib.Coro

namespace Coop

/-- what an outside observer follows of a running program -/
structure Observer (S A T G : Type) where
  start : S → T → G
  /-- after an update -/
  see : G → S → S → G
  /-- woken with an answer -/
  wake : G → A → G

/-- promises between programs that share a state, relative to what is observed of each -/
structure Accord (S A G : Type) where
  /-- holds whenever control is given up -/
  inv : S → Prop
  /-- holds of a program while it is suspended -/
  hold : G → S → Prop
  /-- what a program may do between two moments -/
  guar : G → S → G → S → Prop
  /-- what the others may do while it is suspended -/
  rely : G → S → S → Prop
  /-- the answers it may be woken with -/
  answer : G → A → S → Prop

structure Accord.Lawful {S A G : Type} (D : Accord S A G) : Prop where
  rely_refl : ∀ g s, D.rely g s s
  rely_trans : ∀ g a b c, D.rely g a b → D.rely g b c → D.rely g a c
  hold_rely : ∀ g s s', D.rely g s s' → D.hold g s → D.hold g s'
  guar_refl : ∀ g s, D.guar g s g s
  guar_trans : ∀ g a g' b g'' c, D.guar g a g' b → D.guar g' b g'' c → D.guar g a g'' c

namespace Coro

variable {S A E T G α β : Type}

/-! ## Preconditions under observation -/

def owp (O : Observer S A T G) (D : Accord S A G) : G → Coro S A E α → (Except E α → G → S → Prop) → S → Prop
  | g, .pure a, Q, s => Q (.ok a) g s
  | g, .raise e, Q, s => Q (.error e) g s
  | g, .atom u k, Q, s => D.guar g s (O.see g s (u s)) (u s) ∧ owp O D (O.see g s (u s)) (k s) Q (u s)
  | g, .ask k, Q, s => ∀ a, owp O D g (k a) Q s
  | g, .await k, Q, s => D.inv s ∧ D.hold g s ∧
    ∀ s', D.rely g s s' → D.inv s' → D.hold g s' → ∀ a, D.answer g a s' → owp O D (O.wake g a) (k a) Q s'

/-- what a suspended program still owes -/
def Owing (O : Observer S A T G) (D : Accord S A G) (g : G) (k : A → Coro S A E α) (Q : Except E α → G → S → Prop)
    (s : S) : Prop :=
  ∀ s', D.rely g s s' → D.inv s' → D.hold g s' → ∀ a, D.answer g a s' → owp O D (O.wake g a) (k a) Q s'

/-- the postcondition of a first part: go on with `f`, or stop with what was raised -/
def onward (f : α → G → S → Prop) (Q : E → G → S → Prop) : Except E α → G → S → Prop
  | .ok a, g, s => f a g s
  | .error e, g, s => Q e g s

section rules
variable {O : Observer S A T G} {D : Accord S A G} {g : G}

@[simp] theorem onward_ok (f : α → G → S → Prop) (Q : E → G → S → Prop) (a : α) (s : S) :
    onward f Q (.ok a) g s = f a g s := rfl

@[simp] theorem onward_error (f : α → G → S → Prop) (Q : E → G → S → Prop) (e : E) (s : S) :
    onward f Q (.error e) g s = Q e g s := rfl

@[simp] theorem owp_pure (a : α) (Q : Except E α → G → S → Prop) (s : S) :
    owp O D g (pure a) Q s = Q (.ok a) g s := rfl

@[simp] theorem owp_raise (e : E) (Q : Except E α → G → S → Prop) (s : S) :
    owp O D g (.raise e) Q s = Q (.error e) g s := rfl

theorem owp_mono {p : Coro S A E α} {Q Q' : Except E α → G → S → Prop} (h : ∀ r g s, Q r g s → Q' r g s) {s : S}
    (hp : owp O D g p Q s) : owp O D g p Q' s := by
  induction p generalizing g s with
  | pure a => exact h _ _ _ hp
  | raise e => exact h _ _ _ hp
  | atom u k ih => exact ⟨hp.1, ih s hp.2⟩
  | ask k ih => exact fun a => ih a (hp a)
  | await k ih => exact ⟨hp.1, hp.2.1, fun s' hr hi hh a ha => ih a (hp.2.2 s' hr hi hh a ha)⟩

@[simp] theorem owp_bind (p : Coro S A E α) (f : α → Coro S A E β) (Q : Except E β → G → S → Prop) (s : S) :
    owp O D g (p >>= f) Q s ↔
      owp O D g p (onward (fun a g s => owp O D g (f a) Q s) fun e g s => Q (.error e) g s) s := by
  show owp O D g (p.bind f) Q s ↔ _
  induction p generalizing g s with
  | pure a => exact Iff.rfl
  | raise e => exact Iff.rfl
  | atom u k ih => exact and_congr_right fun _ => ih s (u s)
  | ask k ih => exact forall_congr' fun a => ih a s
  | await k ih =>
    exact and_congr_right fun _ => and_congr_right fun _ => forall_congr' fun s' => imp_congr_right fun _ =>
      imp_congr_right fun _ => imp_congr_right fun _ => forall_congr' fun a => imp_congr_right fun _ => ih a s'

@[simp] theorem owp_attempt (p : Coro S A E α) (Q : Except E (Except E α) → G → S → Prop) (s : S) :
    owp O D g p.attempt Q s ↔ owp O D g p (fun r => Q (.ok r)) s := by
  induction p generalizing g s with
  | pure a => exact Iff.rfl
  | raise e => exact Iff.rfl
  | atom u k ih => exact and_congr_right fun _ => ih s (u s)
  | ask k ih => exact forall_congr' fun a => ih a s
  | await k ih =>
    exact and_congr_right fun _ => and_congr_right fun _ => forall_congr' fun s' => imp_congr_right fun _ =>
      imp_congr_right fun _ => imp_congr_right fun _ => forall_congr' fun a => imp_congr_right fun _ => ih a s'

@[simp] theorem owp_ofExcept (r : Except E α) (Q : Except E α → G → S → Prop) (s : S) :
    owp O D g (ofExcept r) Q s ↔ Q r g s := by
  cases r <;> rfl

@[simp] theorem owp_get (Q : Except E S → G → S → Prop) (s : S) :
    owp O D g get Q s ↔ D.guar g s (O.see g s s) s ∧ Q (.ok s) (O.see g s s) s := Iff.rfl

@[simp] theorem owp_modify (f : S → S) (Q : Except E Unit → G → S → Prop) (s : S) :
    owp O D g (modify f) Q s ↔ D.guar g s (O.see g s (f s)) (f s) ∧ Q (.ok ()) (O.see g s (f s)) (f s) := Iff.rfl

@[simp] theorem owp_call (f : S → α × S) (Q : Except E α → G → S → Prop) (s : S) :
    owp O D g (call f) Q s ↔
      D.guar g s (O.see g s (f s).2) (f s).2 ∧ Q (.ok (f s).1) (O.see g s (f s).2) (f s).2 := Iff.rfl

@[simp] theorem owp_suspend (Q : Except E A → G → S → Prop) (s : S) :
    owp O D g suspend Q s ↔ D.inv s ∧ D.hold g s ∧
      ∀ s', D.rely g s s' → D.inv s' → D.hold g s' → ∀ a, D.answer g a s' → Q (.ok a) (O.wake g a) s' := Iff.rfl

theorem Owing.rely (hD : D.Lawful) {k : A → Coro S A E α} {Q : Except E α → G → S → Prop} {s s' : S}
    (h : Owing O D g k Q s) (hr : D.rely g s s') : Owing O D g k Q s' :=
  fun s'' hr' => h s'' (hD.rely_trans _ _ _ _ hr hr')

/-- what is observed of a program at the end of a segment -/
def trail [Inhabited A] (O : Observer S A T G) : G → Coro S A E α → List A → S → G
  | g, .pure _, _, _ => g
  | g, .raise _, _, _ => g
  | g, .atom u k, as, s => trail O (O.see g s (u s)) (k s) as (u s)
  | g, .ask k, as, s => trail O g (k (as.headD default)) as.tail s
  | g, .await _, _, _ => g

/-- **Soundness of one segment.** A segment does what is allowed; if it ends the program it ends in `Q`, and if it
suspends, the assertions hold and the rest is owed. -/
theorem owp_segment [Inhabited A] (hD : D.Lawful) {p : Coro S A E α} {Q : Except E α → G → S → Prop} {s : S}
    (as : List A) (hp : owp O D g p Q s) :
    D.guar g s (trail O g p as s) (p.segment as s).2 ∧
      match (p.segment as s).1 with
      | .done r => Q r (trail O g p as s) (p.segment as s).2
      | .suspended k => D.inv (p.segment as s).2 ∧ D.hold (trail O g p as s) (p.segment as s).2 ∧
        Owing O D (trail O g p as s) k Q (p.segment as s).2 := by
  induction p generalizing g s as with
  | pure a => exact ⟨hD.guar_refl g s, hp⟩
  | raise e => exact ⟨hD.guar_refl g s, hp⟩
  | atom u k ih =>
    obtain ⟨hg, hq⟩ := ih s as hp.2
    exact ⟨hD.guar_trans _ _ _ _ _ _ hp.1 hg, hq⟩
  | ask k ih => exact ih _ _ (hp _)
  | await k ih => exact ⟨hD.guar_refl g s, hp⟩

/-! ## Programs that keep the accord throughout -/

/-- from any state satisfying `P`, the program keeps the accord and ends in a state satisfying it again -/
def Behaves (O : Observer S A T G) (D : Accord S A G) (P : G → S → Prop) (R : G → G → Prop) (p : Coro S A E α) : Prop :=
  ∀ g s, P g s → owp O D g p (fun _ g' s' => P g' s' ∧ R g g') s

variable {P : G → S → Prop} {R : G → G → Prop}

theorem behaves_bind (htrans : ∀ a b c, R a b → R b c → R a c) {p : Coro S A E α} {f : α → Coro S A E β}
    (hp : Behaves O D P R p) (hf : ∀ a, Behaves O D P R (f a)) : Behaves O D P R (p >>= f) := by
  intro g s hs
  rw [owp_bind]
  refine owp_mono ?_ (hp g s hs)
  rintro r g' s' ⟨hs', hr⟩
  cases r with
  | ok a => exact owp_mono (fun _ _ _ hq => ⟨hq.1, htrans _ _ _ hr hq.2⟩) (hf a g' s' hs')
  | error e => exact ⟨hs', hr⟩

theorem behaves_attempt {p : Coro S A E α} (hp : Behaves O D P R p) : Behaves O D P R p.attempt :=
  fun g s hs => (owp_attempt _ _ _).2 (hp g s hs)

/-- a program each of whose updates is allowed and keeps the assertions -/
theorem behaves_of_guar {U : S → S → Prop} (hrefl : ∀ g, R g g) (htrans : ∀ a b c, R a b → R b c → R a c)
    (hupd : ∀ g s s', U s s' → P g s → D.guar g s (O.see g s s') s' ∧ P (O.see g s s') s' ∧ R g (O.see g s s'))
    (hawait : ∀ g s, P g s → D.inv s ∧ D.hold g s ∧
      ∀ s', D.rely g s s' → D.inv s' → D.hold g s' → ∀ a, D.answer g a s' → P (O.wake g a) s' ∧ R g (O.wake g a))
    {p : Coro S A E α} (hp : Guar U p) : Behaves O D P R p := by
  have key : ∀ g₀ g s, R g₀ g → P g s → owp O D g p (fun _ g' s' => P g' s' ∧ R g₀ g') s := by
    induction p with
    | pure a => exact fun g₀ g s hr hs => ⟨hs, hr⟩
    | raise e => exact fun g₀ g s hr hs => ⟨hs, hr⟩
    | atom u k ih =>
      intro g₀ g s hr hs
      obtain ⟨hg, hs', hr'⟩ := hupd g s (u s) (hp s).1 hs
      exact ⟨hg, ih s (hp s).2 g₀ _ _ (htrans _ _ _ hr hr') hs'⟩
    | ask k ih => exact fun g₀ g s hr hs a => ih a (hp a) g₀ g s hr hs
    | await k ih =>
      intro g₀ g s hr hs
      obtain ⟨hi, hh, hnext⟩ := hawait g s hs
      refine ⟨hi, hh, fun s' hrely hi' hh' a ha => ?_⟩
      obtain ⟨hs', hr'⟩ := hnext s' hrely hi' hh' a ha
      exact ih a (hp a) g₀ _ _ (htrans _ _ _ hr hr') hs'
  exact fun g s hs => key g g s (hrefl g) hs

end rules

end Coro

/-! ## The event loop, observed -/

/-- the program an act resumes -/
def Act.resumed {A T : Type} : Act A T → Option ℕ
  | .arrive _ _ => none
  | .resume i _ _ => some i

namespace Pool

open Coro

variable {S A E T G : Type} [Inhabited A] (O : Observer S A T G) (prog : T → Coro S A E Unit)
  (enabled : S → T → Bool)

/-- what is observed of the program that makes this step, when it begins to run -/
def mover (c : Pool S A E T) (gs : List G) : Act A T → Option G
  | .arrive t _ => if enabled c.state t then some (O.start c.state t) else none
  | .resume i a _ => gs[i]?.map fun g => O.wake g a

/-- the observer's values after a step, one for each suspended program -/
def watch (c : Pool S A E T) (gs : List G) : Act A T → List G
  | .arrive t as =>
    if enabled c.state t then
      match ((prog t).segment as c.state).1 with
      | .done _ => gs
      | .suspended _ => gs ++ [trail O (O.start c.state t) (prog t) as c.state]
    else gs
  | .resume i a as =>
    match c.tasks[i]?, gs[i]? with
    | some (_, k), some g =>
      match ((k a).segment as c.state).1 with
      | .done _ => gs.eraseIdx i
      | .suspended _ => gs.set i (trail O (O.wake g a) (k a) as c.state)
    | _, _ => gs

/-- the observer's values after a run -/
def watched (c : Pool S A E T) (gs : List G) : List (Act A T) → List G
  | [] => gs
  | a :: acts => watched (step prog enabled c a) (watch O prog enabled c gs a) acts

/-- every act of the run is admitted where it happens -/
def Observed (ok : Pool S A E T → List G → Act A T → Prop) (c : Pool S A E T) (gs : List G) : List (Act A T) → Prop
  | [] => True
  | a :: acts => ok c gs a ∧ Observed ok (step prog enabled c a) (watch O prog enabled c gs a) acts

instance decidableObserved {ok : Pool S A E T → List G → Act A T → Prop} [hok : ∀ c gs a, Decidable (ok c gs a)] :
    (c : Pool S A E T) → (gs : List G) → (acts : List (Act A T)) → Decidable (Observed O prog enabled ok c gs acts)
  | _, _, [] => isTrue trivial
  | c, gs, a :: acts => @instDecidableAnd _ _ (hok c gs a) (decidableObserved _ _ acts)

variable {O prog enabled}

theorem observed_append {ok : Pool S A E T → List G → Act A T → Prop} {c : Pool S A E T} {gs : List G}
    {l l' : List (Act A T)} (h : Observed O prog enabled ok c gs (l ++ l')) :
    Observed O prog enabled ok c gs l ∧
      Observed O prog enabled ok (run prog enabled c l) (watched O prog enabled c gs l) l' := by
  induction l generalizing c gs with
  | nil => exact ⟨trivial, h⟩
  | cons a l ih =>
    obtain ⟨hl, hl'⟩ := ih h.2
    exact ⟨⟨h.1, hl⟩, hl'⟩

/-! ## What is kept -/

variable (O) (D : Accord S A G) (apart : G → G → Prop) (Q : Except E Unit → G → S → Prop)

/-- between segments: the invariant holds, every suspended program has its assertion and owes its rest, and any two of
them are apart -/
structure Kept (c : Pool S A E T) (gs : List G) : Prop where
  state : D.inv c.state
  length : gs.length = c.tasks.length
  owes : ∀ (i : ℕ) (g : G) (x : T × (A → Coro S A E Unit)), gs[i]? = some g → c.tasks[i]? = some x →
    D.hold g c.state ∧ Owing O D g x.2 Q c.state
  apart : ∀ (i j : ℕ) (g g' : G), gs[i]? = some g → gs[j]? = some g' → i ≠ j → apart g g'

variable (prog enabled)

/-- what has to be shown of the programs and of the admitted acts -/
structure Upholds (ok : Pool S A E T → List G → Act A T → Prop) : Prop where
  lawful : D.Lawful
  symm : ∀ g g', apart g g' → apart g' g
  wake : ∀ g g' a, apart g g' → apart (O.wake g a) g'
  ends : ∀ r g s, Q r g s → D.inv s
  arrive : ∀ c gs t as, Kept O D apart Q c gs → ok c gs (.arrive t as) → enabled c.state t = true →
    owp O D (O.start c.state t) (prog t) Q c.state ∧ ∀ g ∈ gs, apart (O.start c.state t) g
  answer : ∀ c gs i a as g, Kept O D apart Q c gs → ok c gs (.resume i a as) → gs[i]? = some g → D.answer g a c.state
  others : ∀ c gs act g g' j last, Kept O D apart Q c gs → ok c gs act → mover O enabled c gs act = some g →
    gs[j]? = some g' → act.resumed ≠ some j → apart g g' →
    D.guar g c.state last (step prog enabled c act).state → D.inv (step prog enabled c act).state →
    (last ∈ watch O prog enabled c gs act ∨ ∃ r, Q r last (step prog enabled c act).state) →
    D.rely g' c.state (step prog enabled c act).state ∧ apart last g'

variable {prog enabled O D apart Q} {ok : Pool S A E T → List G → Act A T → Prop}

/-- who does not run is observed as before -/
theorem mem_watch {c : Pool S A E T} {gs : List G} {act : Act A T} {j : ℕ} {g : G} (hg : gs[j]? = some g)
    (hne : act.resumed ≠ some j) : g ∈ watch O prog enabled c gs act := by
  have hmem := List.mem_of_getElem? hg
  cases act with
  | arrive t as =>
    simp only [watch]
    split_ifs
    · split
      · exact hmem
      · exact List.mem_append_left _ hmem
    · exact hmem
  | resume i a as =>
    have hne : i ≠ j := by simpa [Act.resumed] using hne
    simp only [watch]
    split
    · split
      · refine List.mem_eraseIdx_iff_getElem?.2 ⟨j, Ne.symm hne, hg⟩
      · refine List.mem_iff_getElem?.2 ⟨j, ?_⟩
        rw [List.getElem?_set_ne hne]
        exact hg
    · exact hmem

omit [Inhabited A] in
theorem kept_init {s : S} (h : D.inv s) : Kept O D apart Q (⟨s, []⟩ : Pool S A E T) [] :=
  ⟨h, rfl, by simp, by simp⟩

omit [Inhabited A] in
theorem Kept.hold_of_mem {c : Pool S A E T} {gs : List G} (h : Kept O D apart Q c gs) {g : G} (hg : g ∈ gs) :
    D.hold g c.state := by
  obtain ⟨i, hi⟩ := List.mem_iff_getElem?.1 hg
  have hlt : i < c.tasks.length := h.length ▸ (List.getElem?_eq_some_iff.1 hi).1
  exact (h.owes i g _ hi (List.getElem?_eq_getElem hlt)).1

/-- who does not run changes nothing -/
theorem Kept.idle {c : Pool S A E T} {gs : List G} (h : Kept O D apart Q c gs) {act : Act A T}
    (hact : mover O enabled c gs act = none) : step prog enabled c act = c := by
  cases act with
  | arrive t as =>
    simp only [mover] at hact
    simp only [step]
    split_ifs at hact ⊢ with he
    rfl
  | resume i a as =>
    have hnone : c.tasks[i]? = none := by
      have hg : gs[i]? = none := by simpa [mover] using hact
      rw [List.getElem?_eq_none_iff] at hg ⊢
      rwa [h.length] at hg
    simp only [step, hnone]

/-- the others after a step -/
theorem Kept.other (U : Upholds O prog enabled D apart Q ok) {c : Pool S A E T} {gs : List G} (h : Kept O D apart Q c gs)
    {j : ℕ} {g : G} {x : T × (A → Coro S A E Unit)} {s' : S} (hg : gs[j]? = some g) (hx : c.tasks[j]? = some x)
    (hr : D.rely g c.state s') : D.hold g s' ∧ Owing O D g x.2 Q s' := by
  obtain ⟨hhold, howe⟩ := h.owes j g x hg hx
  exact ⟨U.lawful.hold_rely _ _ _ hr hhold, howe.rely U.lawful hr⟩

theorem arrive_kept (U : Upholds O prog enabled D apart Q ok) {c : Pool S A E T} {gs : List G}
    (h : Kept O D apart Q c gs) (t : T) (as : List A) (ha : ok c gs (.arrive t as)) :
    (∀ g, mover O enabled c gs (.arrive t as) = some g →
      ∃ last, D.guar g c.state last (step prog enabled c (.arrive t as)).state) ∧
      Kept O D apart Q (step prog enabled c (.arrive t as)) (watch O prog enabled c gs (.arrive t as)) := by
  by_cases he : enabled c.state t = true
  swap
  · simp only [mover, step, watch, he, if_false, Bool.false_eq_true]
    exact ⟨fun g hg => (by cases hg), h⟩
  obtain ⟨hwp, hapart⟩ := U.arrive c gs t as h ha he
  obtain ⟨hguar, hq⟩ := owp_segment U.lawful as hwp
  have hstate : (step prog enabled c (.arrive t as)).state = ((prog t).segment as c.state).2 := by
    simp only [step, he, if_true]
    split
    · rename_i heq
      rw [heq]
    · rename_i heq
      rw [heq]
  have hmover : mover O enabled c gs (.arrive t as) = some (O.start c.state t) := by simp [mover, he]
  have hend : D.inv ((prog t).segment as c.state).2 ∧
      (trail O (O.start c.state t) (prog t) as c.state ∈ watch O prog enabled c gs (.arrive t as) ∨
        ∃ r, Q r (trail O (O.start c.state t) (prog t) as c.state) ((prog t).segment as c.state).2) := by
    cases hseg : ((prog t).segment as c.state).1 with
    | done r =>
      rw [hseg] at hq
      exact ⟨U.ends _ _ _ hq, Or.inr ⟨r, hq⟩⟩
    | suspended k =>
      rw [hseg] at hq
      simp only [watch, he, if_true, hseg]
      exact ⟨hq.1, Or.inl (List.mem_append_right _ List.mem_cons_self)⟩
  have hothers : ∀ (j : ℕ) g', gs[j]? = some g' → D.rely g' c.state ((prog t).segment as c.state).2 ∧
      apart (trail O (O.start c.state t) (prog t) as c.state) g' := by
    intro j g' hj
    have := U.others c gs _ _ g' j _ h ha hmover hj (by simp [Act.resumed]) (hapart g' (List.mem_of_getElem? hj))
      (hstate ▸ hguar) (hstate ▸ hend.1) (hstate ▸ hend.2)
    rwa [hstate] at this
  refine ⟨fun g hg => ⟨_, by rw [hmover] at hg; cases hg; exact hstate ▸ hguar⟩, ?_⟩
  simp only [step, watch, he, if_true]
  split
  · rename_i r s hseg
    rw [hseg] at hq hothers
    rw [hseg]
    exact ⟨U.ends _ _ _ hq, h.length, fun i g x hg hx => h.other U hg hx (hothers i g hg).1, h.apart⟩
  · rename_i k s hseg
    rw [hseg] at hq hothers
    rw [hseg]
    obtain ⟨hinv, hhold, howe⟩ := hq
    refine ⟨hinv, by simp [h.length], fun i g x hg hx => ?_, fun i j g g' hg hg' hij => ?_⟩
    · rw [List.getElem?_append] at hg hx
      rw [h.length] at hg
      split_ifs at hg hx with hlt
      · exact h.other U hg hx (hothers i g hg).1
      · rw [List.getElem?_singleton] at hg hx
        split_ifs at hg hx
        cases hg
        cases hx
        exact ⟨hhold, howe⟩
    · rw [List.getElem?_append] at hg hg'
      split_ifs at hg hg' with h1 h2 h2
      · exact h.apart i j g g' hg hg' hij
      · rw [List.mem_singleton.1 (List.mem_of_getElem? hg')]
        exact U.symm _ _ (hothers i g hg).2
      · rw [List.mem_singleton.1 (List.mem_of_getElem? hg)]
        exact (hothers j g' hg').2
      · rw [List.getElem?_singleton] at hg hg'
        split_ifs at hg hg'
        omega

theorem resume_kept (U : Upholds O prog enabled D apart Q ok) {c : Pool S A E T} {gs : List G}
    (h : Kept O D apart Q c gs) (i : ℕ) (a : A) (as : List A) (ha : ok c gs (.resume i a as)) :
    (∀ g, mover O enabled c gs (.resume i a as) = some g →
      ∃ last, D.guar g c.state last (step prog enabled c (.resume i a as)).state) ∧
      Kept O D apart Q (step prog enabled c (.resume i a as)) (watch O prog enabled c gs (.resume i a as)) := by
  by_cases hlt : i < c.tasks.length
  swap
  · have htask : c.tasks[i]? = none := List.getElem?_eq_none (by omega)
    have hnone : gs[i]? = none := List.getElem?_eq_none (by rw [h.length]; omega)
    simp only [mover, step, watch, htask, hnone, Option.map_none]
    exact ⟨fun g hg => (by cases hg), h⟩
  obtain ⟨⟨t, k⟩, htask⟩ : ∃ x, c.tasks[i]? = some x := ⟨_, List.getElem?_eq_getElem hlt⟩
  obtain ⟨g, hget⟩ : ∃ g, gs[i]? = some g := ⟨_, List.getElem?_eq_getElem (by rw [h.length]; exact hlt)⟩
  obtain ⟨hhold, howe⟩ := h.owes i g _ hget htask
  have hwp : owp O D (O.wake g a) (k a) Q c.state :=
    howe c.state (U.lawful.rely_refl _ _) h.state hhold a (U.answer c gs i a as g h ha hget)
  obtain ⟨hguar, hq⟩ := owp_segment U.lawful as hwp
  have hstate : (step prog enabled c (.resume i a as)).state = ((k a).segment as c.state).2 := by
    simp only [step, htask]
    split
    · rename_i heq
      rw [heq]
    · rename_i heq
      rw [heq]
  have hmover : mover O enabled c gs (.resume i a as) = some (O.wake g a) := by simp [mover, hget]
  have hend : D.inv ((k a).segment as c.state).2 ∧
      (trail O (O.wake g a) (k a) as c.state ∈ watch O prog enabled c gs (.resume i a as) ∨
        ∃ r, Q r (trail O (O.wake g a) (k a) as c.state) ((k a).segment as c.state).2) := by
    have hlen : i < gs.length := by rw [h.length]; exact hlt
    cases hseg : ((k a).segment as c.state).1 with
    | done r =>
      rw [hseg] at hq
      exact ⟨U.ends _ _ _ hq, Or.inr ⟨r, hq⟩⟩
    | suspended k' =>
      rw [hseg] at hq
      simp only [watch, htask, hget, hseg]
      exact ⟨hq.1, Or.inl (List.mem_iff_getElem?.2 ⟨i, List.getElem?_set_self hlen⟩)⟩
  have hothers : ∀ j g', gs[j]? = some g' → j ≠ i → D.rely g' c.state ((k a).segment as c.state).2 ∧
      apart (trail O (O.wake g a) (k a) as c.state) g' := by
    intro j g' hj hne
    have := U.others c gs _ _ g' j _ h ha hmover hj (by simpa [Act.resumed] using Ne.symm hne)
      (U.wake _ _ _ (h.apart i j g g' hget hj (Ne.symm hne))) (hstate ▸ hguar) (hstate ▸ hend.1) (hstate ▸ hend.2)
    rwa [hstate] at this
  refine ⟨fun g' hg' => ⟨_, by rw [hmover] at hg'; cases hg'; exact hstate ▸ hguar⟩, ?_⟩
  simp only [step, watch, htask, hget]
  split
  · rename_i r s hseg
    rw [hseg] at hq hothers
    rw [hseg]
    refine ⟨U.ends _ _ _ hq, ?_, fun j g' x hg' hx => ?_, fun j j' x y hj hj' hne => ?_⟩
    · simp [List.length_eraseIdx, h.length]
    · rw [List.getElem?_eraseIdx] at hg' hx
      split_ifs at hg' hx with h1
      · exact h.other U hg' hx (hothers j g' hg' (by omega)).1
      · exact h.other U hg' hx (hothers (j + 1) g' hg' (by omega)).1
    · rw [List.getElem?_eraseIdx] at hj hj'
      split_ifs at hj hj' <;> exact h.apart _ _ x y hj hj' (by omega)
  · rename_i k' s hseg
    rw [hseg] at hq hothers
    rw [hseg]
    obtain ⟨hinv, hhold', howe'⟩ := hq
    have hlt' : i < gs.length := by rw [h.length]; exact hlt
    refine ⟨hinv, by simp [h.length], fun j g' x hg' hx => ?_, fun j j' x y hj hj' hne => ?_⟩
    · rw [List.getElem?_set] at hg' hx
      split_ifs at hg' hx with h1
      · cases hg'
        cases hx
        exact ⟨hhold', howe'⟩
      · exact h.other U hg' hx (hothers j g' hg' (by omega)).1
    · rw [List.getElem?_set] at hj hj'
      split_ifs at hj hj' with h1 h2 h2
      · omega
      · cases hj
        exact (hothers j' y hj' (Ne.symm h2)).2
      · cases hj'
        exact U.symm _ _ (hothers j x hj (Ne.symm h1)).2
      · exact h.apart j j' x y hj hj' hne

/-- one step of an admitted run -/
theorem step_kept (U : Upholds O prog enabled D apart Q ok) {c : Pool S A E T} {gs : List G} (h : Kept O D apart Q c gs)
    (act : Act A T) (ha : ok c gs act) :
    (∀ g, mover O enabled c gs act = some g → ∃ last, D.guar g c.state last (step prog enabled c act).state) ∧
      Kept O D apart Q (step prog enabled c act) (watch O prog enabled c gs act) := by
  cases act with
  | arrive t as => exact arrive_kept U h t as ha
  | resume i a as => exact resume_kept U h i a as ha

/-- **Admitted runs.** What is kept is kept by every admitted run. -/
theorem run_kept (U : Upholds O prog enabled D apart Q ok) {c : Pool S A E T} {gs : List G} (h : Kept O D apart Q c gs)
    (acts : List (Act A T)) (hacts : Observed O prog enabled ok c gs acts) :
    Kept O D apart Q (run prog enabled c acts) (watched O prog enabled c gs acts) := by
  induction acts generalizing c gs with
  | nil => exact h
  | cons a acts ih => exact ih (step_kept U h a hacts.1).2 hacts.2

end Pool

end Coop
