/-
Which deliveries of `build.apply` reach the applier (`SimsBuildAdapter.apply_remote`).

A delivery marks the key of its operation before the applier is looked for, and nothing ever takes a mark away. So a
delivery that fails cannot be repeated. And the marks are as old as the game, while every host session counts its
operations from one: the operations of a later session are taken for duplicates of those of an earlier one.

- `failed_for_good`: after a failed delivery the operation is never given to the applier.
- `marked_iff`: the marked keys are those of all deliveries that could be read.
- `delivery_handed_iff`: a delivery of any session reaches the applier exactly when no earlier delivery had its key.
- `second_session`: the first operation of a second session, which does not.
-/
import KerMP.Game.SimsBuildAdapter

namespace KerMP.Game.SimsBuildAdapter

open Py Prefixes

variable {a : SimsBuildAdapter} {payload : Json} {application : Application} {operation : GameOperation}

/-! ## Marks -/

theorem seen_captureLocal (a : SimsBuildAdapter) (payload : Json) : (a.captureLocal payload).2.seen = a.seen := by
  cases hquiet : a.applyingRemote with
  | true =>
    rw [captureLocal_applying hquiet]
    rfl
  | false => exact (captureLocal_captured hquiet payload).seen

/-- the key that a call marks -/
def marks (a : SimsBuildAdapter) (c : AdapterCall) : Option String :=
  match a.delivery c with
  | some (payload, _) => (normalizeOperation payload).toOption.map GameOperation.key
  | none => none

theorem seen_applyRemote (a : SimsBuildAdapter) (payload : Json) (application : Application) (key : String) :
    key ∈ (a.applyRemote payload application).2.seen ↔
      key ∈ a.seen ∨ (normalizeOperation payload).toOption.map GameOperation.key = some key := by
  rw [(applyRemote_delivered a payload application).seen]
  cases normalizeOperation payload with
  | error exc => simp [Except.toOption]
  | ok operation => simp [Except.toOption, or_comm, eq_comm]

theorem seen_call (a : SimsBuildAdapter) (c : AdapterCall) (key : String) :
    key ∈ (a.call c).2.seen ↔ key ∈ a.seen ∨ a.marks c = some key := by
  cases c with
  | configure apply => simp [call, configure, marks, delivery]
  | resetDiagnostics => simp [call, resetDiagnostics, marks, delivery]
  | captureLocal payload => simp [call, seen_captureLocal, marks, delivery]
  | applyRemote payload application => exact seen_applyRemote a payload application key
  | replayLast application =>
    simp only [call, replayLast, marks, delivery]
    cases a.lastLocalOperation with
    | none => simp
    | some operation => exact seen_applyRemote a operation.toJson application key

/-- nothing takes a mark away -/
theorem seen_reached {key : String} (h : key ∈ a.seen) (cs : List AdapterCall) (n : ℕ) :
    key ∈ (reached (fun a c => (a.call c).2) a cs n).seen :=
  @holds_reached _ _ _ a cs (fun a => key ∈ a.seen) (fun _ _ => True) h
    (fun a c h _ => (seen_call a c key).2 (Or.inl h)) (fun _ _ _ => trivial) n

/-! ## Failed deliveries -/

/-- the applier raises, or there is none for an operation that has not been delivered before -/
def Fails (a : SimsBuildAdapter) (payload : Json) (application : Application) : Prop :=
  (∃ exc, (a.applyRemote payload application).1.result = .error exc) ∨
    a.apply = false ∧ ∃ operation, normalizeOperation payload = .ok operation ∧ operation.key ∉ a.seen

/-- a delivery that fails is of an operation that can be read -/
theorem Fails.normal (h : a.Fails payload application) : ∃ operation, normalizeOperation payload = .ok operation := by
  rcases h with ⟨exc, hraised⟩ | ⟨-, operation, hnormal, -⟩
  · cases hnormal : normalizeOperation payload with
    | error exc =>
      rw [applyRemote_error hnormal] at hraised
      cases hraised
    | ok operation => exact ⟨operation, rfl⟩
  · exact ⟨operation, hnormal⟩

/-- **A failed delivery cannot be repeated.** In any state, once a delivery has failed, and whatever is called after it,
another delivery of the same payload returns False and gives nothing to the applier. -/
theorem failed_for_good (a : SimsBuildAdapter) (payload : Json) (application : Application)
    (fails : a.Fails payload application) (cs : List AdapterCall) (n : ℕ) (again : Application) :
    let a' := reached (fun a c => (a.call c).2) (a.applyRemote payload application).2 cs n
    (a'.applyRemote payload again).1.result = .ok false ∧ (a'.applyRemote payload again).2.handed = a'.handed := by
  intro a'
  obtain ⟨operation, hnormal⟩ := fails.normal
  have hmarked : operation.key ∈ (a.applyRemote payload application).2.seen := by
    rw [seen_applyRemote, hnormal]
    exact Or.inr rfl
  have hseen : operation.key ∈ a'.seen := seen_reached hmarked cs n
  rw [applyRemote_seen hnormal hseen]
  exact ⟨rfl, rfl⟩

/-- what a host's first sequenced operation is sent as, when it moves this object -/
def moved (objectId : String) : BuildOperation := ⟨"build-1", 1, "host", "object.move", [("object_id", .str objectId)]⟩

/-- an applier that does its work -/
def works : Application := ⟨[], none⟩

theorem normalize_moved : normalizeOperation (Host.buildApply (moved "7")) =
    .ok ⟨"object.move", [("object_id", .str "7")], some "1"⟩ := by
  decide +kernel

/-- the bridge is started, and delivers, before the applier is configured -/
theorem fails_unconfigured : new.Fails (Host.buildApply (moved "7")) works :=
  Or.inr ⟨rfl, _, normalize_moved, Finset.notMem_empty _⟩

theorem failed_for_good_moved :
    let a' := reached (fun a c => (a.call c).2) (new.applyRemote (Host.buildApply (moved "7")) works).2 [.configure true] 1
    (a'.applyRemote (Host.buildApply (moved "7")) works).1.result = .ok false ∧
      (a'.applyRemote (Host.buildApply (moved "7")) works).2.handed = a'.handed :=
  failed_for_good new (Host.buildApply (moved "7")) works fails_unconfigured [.configure true] 1 works

/-- It is not applied when it is delivered again to an applier that works. -/
theorem not_repeated : ¬ ∀ (a : SimsBuildAdapter) (payload : Json) (application again : Application),
    a.Fails payload application → again.raises = none →
      (((a.applyRemote payload application).2.configure true).applyRemote payload again).1.result = .ok true := by
  intro h
  have happlied := h new (Host.buildApply (moved "7")) works works fails_unconfigured rfl
  have hseen : "1" ∈ ((new.applyRemote (Host.buildApply (moved "7")) works).2.configure true).seen := by
    decide +kernel
  rw [applyRemote_seen normalize_moved hseen] at happlied
  cases happlied

/-! ## Sessions -/

/-- an operation with this key has been delivered -/
def Delivers (cs : List AdapterCall) (n : ℕ) (key : String) : Prop :=
  ∃ m < n, ∃ c, cs[m]? = some c ∧ (after cs m).marks c = some key

theorem marked_iff (cs : List AdapterCall) (n : ℕ) (key : String) :
    key ∈ (after cs n).seen ↔ Delivers cs n key := by
  induction n with
  | zero =>
    refine iff_of_false (Finset.notMem_empty key) ?_
    rintro ⟨m, hm, -⟩
    exact absurd hm (Nat.not_lt_zero m)
  | succ n ih =>
    have hearlier : Delivers cs (n + 1) key ↔
        Delivers cs n key ∨ ∃ c, cs[n]? = some c ∧ (after cs n).marks c = some key := by
      constructor
      · rintro ⟨m, hm, c, hc, hmarks⟩
        rcases Nat.lt_succ_iff_lt_or_eq.1 hm with hm | rfl
        · exact Or.inl ⟨m, hm, c, hc, hmarks⟩
        · exact Or.inr ⟨c, hc, hmarks⟩
      · rintro (⟨m, hm, hdelivers⟩ | hlast)
        · exact ⟨m, Nat.lt_succ_of_lt hm, hdelivers⟩
        · exact ⟨n, Nat.lt_succ_self n, hlast⟩
    rw [hearlier, ← ih]
    cases hc : cs[n]? with
    | none =>
      rw [after, reached_end hc]
      simp [after]
    | some c =>
      rw [after, reached_succ hc, seen_call]
      simp [after]

/-- **Deliveries of all sessions.** A game stays up over any sessions. A delivery in any of them, of an operation that can be
read and with an applier configured, is given to the applier if and only if no operation with its key has been delivered
before, in this session or an earlier one. -/
theorem delivery_handed_iff (earlier : List (List AdapterCall)) (before : List AdapterCall) (payload : Json)
    (operation : GameOperation) (application : Application) (normal : normalizeOperation payload = .ok operation)
    (configured : (after (earlier.flatten ++ before) (earlier.flatten ++ before).length).apply = true) :
    let cs := earlier.flatten ++ before
    let a := after cs cs.length
    (a.applyRemote payload application).2.handed = operation :: a.handed ↔ ¬ Delivers cs cs.length operation.key := by
  intro cs a
  rw [← marked_iff, (applyRemote_delivered a payload application).handed]
  by_cases hseen : operation.key ∈ a.seen
  · rw [hands_of_seen normal hseen]
    exact iff_of_false (List.cons_ne_self _ _).symm (not_not.2 hseen)
  · rw [hands_eq_some.2 ⟨normal, hseen, configured⟩]
    exact iff_of_true rfl hseen

/-- the first session: its first operation moves one object -/
def firstSession : List AdapterCall := [.configure true, .applyRemote (Host.buildApply (moved "7")) works]

/-- the first operation of the first session is applied -/
theorem first_session :
    let a := after [.configure true] 1
    (a.applyRemote (Host.buildApply (moved "7")) works).2.handed =
      ⟨"object.move", [("object_id", .str "7")], some "1"⟩ :: a.handed := by
  refine (delivery_handed_iff [] [.configure true] (Host.buildApply (moved "7")) _ works normalize_moved rfl).2 ?_
  rintro ⟨m, hm, c, hc, hmarks⟩
  obtain rfl : m = 0 := Nat.lt_one_iff.1 hm
  cases hc
  cases hmarks

/-- Two hosts sequence one operation each, on different objects, and the game of a player who has joined one after the other
does not apply the second. -/
theorem second_session :
    ((hostLocked.submit "host" "object.move" [("object_id", .int 7)] 1 2).1 = .ok (moved "7") ∧
      (hostLocked.submit "host" "object.move" [("object_id", .int 8)] 1 2).1 = .ok (moved "8")) ∧
    ¬ ∀ (earlier : List (List AdapterCall)) (payload : Json) (operation : GameOperation) (application : Application),
      normalizeOperation payload = .ok operation → (after earlier.flatten earlier.flatten.length).apply = true →
        ((after earlier.flatten earlier.flatten.length).applyRemote payload application).2.handed =
          operation :: (after earlier.flatten earlier.flatten.length).handed := by
  refine ⟨by decide +kernel, fun h => ?_⟩
  have hnormal : normalizeOperation (Host.buildApply (moved "8")) =
      .ok ⟨"object.move", [("object_id", .str "8")], some "1"⟩ := by
    decide +kernel
  have hhanded := h [firstSession] (Host.buildApply (moved "8")) _ works hnormal rfl
  have hseen : "1" ∈ (after [firstSession].flatten [firstSession].flatten.length).seen := by decide +kernel
  rw [applyRemote_seen hnormal hseen] at hhanded
  exact List.cons_ne_self _ _ hhanded.symm

end KerMP.Game.SimsBuildAdapter
