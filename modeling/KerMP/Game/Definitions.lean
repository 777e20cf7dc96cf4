/-
Which changes of an object's definition are captured (`SimsBuildAdapter.capture_local`).

The adapter drops a capture of the definition that it has captured last for the object. It does not follow the
definition that the object has: remote applications, and objects that are created again, change it too.

`current` follows the definition over a run, `lastCaptured` what the captures have set; neither is kept by any code.

- `lastDefinition_after`: the adapter remembers `lastCaptured`.
- `definition_captured`: when a capture is dropped although it changes the definition.
- `set_back`: a player sets back what a remote player has changed, and nobody is told.
-/
import KerMP.Game.SimsBuildAdapter

namespace KerMP.Game.SimsBuildAdapter

open Py Prefixes

/-- objects by their ids, with their definitions -/
abbrev Definitions := Option String → Option String

/-- what an operation that is carried out does to the definitions -/
def defineBy (operation : GameOperation) (d : Definitions) : Definitions :=
  if operation.op = "object.definition" ∨ operation.op = "object.create" then
    Function.update d operation.objectId operation.definitionId
  else if operation.op = "object.destroy" then Function.update d operation.objectId none
  else d

/-- what a call does to the definitions: a capture comes after the player's operation, and a remote one is carried out
when `apply_remote` returns True -/
def define (a : SimsBuildAdapter) (c : AdapterCall) (d : Definitions) : Definitions :=
  match c, a.delivery c, (a.call c).1 with
  | .captureLocal payload, _, _ =>
    match normalizeOperation payload with
    | .ok operation => defineBy operation d
    | .error _ => d
  | _, some (payload, _), .applied ⟨.ok true, _⟩ =>
    match normalizeOperation payload with
    | .ok operation => defineBy operation d
    | .error _ => d
  | _, _, _ => d

/-- the definitions after the first n calls -/
def current (cs : List AdapterCall) : ℕ → Definitions
  | 0 => fun _ => none
  | n + 1 =>
    match cs[n]? with
    | some c => define (after cs n) c (current cs n)
    | none => current cs n

/-- what a capture does to the definitions that have been captured last -/
def rememberCapture (payload : Json) (d : Definitions) : Definitions :=
  match normalizeOperation payload with
  | .ok operation =>
    if operation.op = "object.definition" then Function.update d operation.objectId operation.definitionId else d
  | .error _ => d

/-- what a call does to them -/
def remember (c : AdapterCall) (d : Definitions) : Definitions :=
  match c with
  | .resetDiagnostics => fun _ => none
  | .captureLocal payload => rememberCapture payload d
  | _ => d

/-- the definition of each object that has been captured last among the first n calls, since the last reset -/
def lastCaptured (cs : List AdapterCall) : ℕ → Definitions
  | 0 => fun _ => none
  | n + 1 =>
    match cs[n]? with
    | some c => remember c (lastCaptured cs n)
    | none => lastCaptured cs n

variable {a : SimsBuildAdapter} {payload : Json} {operation : GameOperation}

/-- the definitions that the adapter remembers -/
def remembered (a : SimsBuildAdapter) : Definitions := fun objectId => (a.lastDefinition.lookup objectId).join

theorem remembered_setItem (a : SimsBuildAdapter) (o : Option String) (d : Option String) :
    { a with lastDefinition := a.lastDefinition.setItem o d }.remembered = Function.update a.remembered o d := by
  funext o'
  by_cases ho : o' = o
  · subst ho
    simp [remembered]
  · simp [remembered, AList.lookup_setItem_ne _ _ ho, Function.update_of_ne ho]

theorem remembered_captureLocal (hquiet : a.applyingRemote = false) (payload : Json) :
    (a.captureLocal payload).2.remembered = rememberCapture payload a.remembered := by
  unfold captureLocal rememberCapture
  rw [if_neg (by simp [hquiet])]
  cases normalizeOperation payload with
  | error exc => rfl
  | ok operation =>
    dsimp only
    split_ifs with hop hsame
    · -- the object has this definition already, as far as the adapter knows
      exact (Function.update_eq_self_iff.2 hsame.symm).symm
    · exact remembered_setItem a _ _
    · rfl

theorem remembered_applyRemote (a : SimsBuildAdapter) (payload : Json) (application : Application) :
    (a.applyRemote payload application).2.remembered = a.remembered := by
  unfold remembered
  rw [(applyRemote_delivered a payload application).definitions]

theorem remembered_call (hquiet : a.applyingRemote = false) (c : AdapterCall) :
    (a.call c).2.remembered = remember c a.remembered := by
  cases c with
  | configure apply => rfl
  | resetDiagnostics => rfl
  | captureLocal payload => exact remembered_captureLocal hquiet payload
  | applyRemote payload application => exact remembered_applyRemote a payload application
  | replayLast application =>
    simp only [call, replayLast, remember]
    cases a.lastLocalOperation with
    | none => rfl
    | some operation => exact remembered_applyRemote a operation.toJson application

theorem lastDefinition_after (cs : List AdapterCall) (n : ℕ) : (after cs n).remembered = lastCaptured cs n := by
  induction n with
  | zero => rfl
  | succ n ih =>
    unfold lastCaptured
    cases hc : cs[n]? with
    | none =>
      rw [after, reached_end hc]
      exact ih
    | some c =>
      rw [after, reached_succ hc]
      dsimp only
      rw [← ih]
      exact remembered_call (inv_after cs n).quiet c

/-- a definition is captured unless it is the one remembered for the object -/
theorem captureLocal_definition (hquiet : a.applyingRemote = false) (h : normalizeOperation payload = .ok operation)
    (hop : operation.op = "object.definition") :
    (∃ opId, (a.captureLocal payload).1 = some { operation with opId }) ↔
      a.remembered operation.objectId ≠ operation.definitionId := by
  unfold captureLocal
  rw [if_neg (by simp [hquiet]), h]
  dsimp only
  rw [if_pos hop]
  by_cases hsame : (a.lastDefinition.lookup operation.objectId).join = operation.definitionId
  · rw [if_pos hsame]
    refine iff_of_false (fun hex => ?_) (not_not.2 hsame)
    obtain ⟨opId, hsome⟩ := hex
    cases hsome
  · rw [if_neg hsame]
    exact iff_of_true ⟨_, rfl⟩ hsame

/-- **Changes of the definition.** After any calls, a capture that sets an object to a definition it does not have returns
the operation, if and only if the definition is not the one that has been captured last for the object. -/
theorem definition_captured (cs : List AdapterCall) (n : ℕ) (payload : Json) (operation : GameOperation)
    (normal : normalizeOperation payload = .ok operation) (definition : operation.op = "object.definition") :
    (current cs n operation.objectId ≠ operation.definitionId →
        ∃ opId, ((after cs n).captureLocal payload).1 = some { operation with opId }) ↔
      (current cs n operation.objectId ≠ operation.definitionId →
        lastCaptured cs n operation.objectId ≠ operation.definitionId) := by
  rw [captureLocal_definition (inv_after cs n).quiet normal definition, lastDefinition_after]

/-- the payload of a change of definition -/
def definitionOf (objectId definitionId : ℤ) : Json :=
  .obj [("op", .str "object.definition"),
    ("data", .obj [("object_id", .int objectId), ("definition_id", .int definitionId)])]

/-- the operation it is normalized to -/
def definitionOperation (objectId definitionId : String) : GameOperation :=
  ⟨"object.definition", [("object_id", .str objectId), ("definition_id", .str definitionId)], none⟩

theorem normalize_definition : normalizeOperation (definitionOf 7 9) = .ok (definitionOperation "7" "9") := by
  decide +kernel

/-- another definition is captured -/
theorem definition_captured_again :
    ∃ opId, ((after [.captureLocal (definitionOf 7 8)] 1).captureLocal (definitionOf 7 9)).1 =
      some { definitionOperation "7" "9" with opId } :=
  (definition_captured [.captureLocal (definitionOf 7 8)] 1 (definitionOf 7 9) _ normalize_definition rfl).2
    (fun _ => by decide +kernel) (by decide +kernel)

/-- the definition 8 is captured, and a remote player sets 9 -/
def changedByOther : List AdapterCall :=
  [.configure true, .captureLocal (definitionOf 7 8),
    .applyRemote (.obj [("op_seq", .int 2), ("op", .str "object.definition"),
      ("data", .obj [("object_id", .str "7"), ("definition_id", .str "9")])]) ⟨[], none⟩]

/-- Setting it back to 8 is dropped. -/
theorem set_back : ¬ ∀ (cs : List AdapterCall) (n : ℕ) (payload : Json) (operation : GameOperation),
    normalizeOperation payload = .ok operation → operation.op = "object.definition" →
      current cs n operation.objectId ≠ operation.definitionId →
        ∃ opId, ((after cs n).captureLocal payload).1 = some { operation with opId } := by
  intro h
  have hnormal : normalizeOperation (definitionOf 7 8) = .ok (definitionOperation "7" "8") := by decide +kernel
  have hcurrent : current changedByOther 3 (some "7") = some "9" := by decide +kernel
  have hdropped : ((after changedByOther 3).captureLocal (definitionOf 7 8)).1 = none := by decide +kernel
  have hchanges : current changedByOther 3 (definitionOperation "7" "8").objectId ≠
      (definitionOperation "7" "8").definitionId := by
    have hids : (definitionOperation "7" "8").objectId = some "7" ∧
        (definitionOperation "7" "8").definitionId = some "8" := by decide +kernel
    rw [hids.1, hids.2, hcurrent]
    decide
  obtain ⟨opId, hsome⟩ := h changedByOther 3 (definitionOf 7 8) _ hnormal rfl hchanges
  rw [hdropped] at hsome
  cases hsome

end KerMP.Game.SimsBuildAdapter
