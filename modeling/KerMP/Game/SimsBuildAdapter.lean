/-
The adapter between the bridge and the game's Build/Buy hooks (`SimsBuildAdapter` of `kermp_mod/build_adapter.py`).

`capture_local` is called by the hooks for what the player has built, `apply_remote` for every `build.apply`. An operation
is marked as seen under its key, its id or its text, before the applier is looked for; while the applier runs, captures
are suppressed. What the applier does is not fixed: an `Application` is what it captures and raises in one call.

A run is any sequence of the calls (`AdapterCall`), and `handed` lists what the applier has been given; no code keeps it.

- `call_seen`, `call_handed`: what a call marks, and what it gives to the applier.
- `applications_once_and_silent`: over any run, operations with one key are given to the applier at most once, captures
  inside an application are suppressed and counted, and no others are.
-/
import KerMP.Lib.Dict
import KerMP.Lib.Dumps
import KerMP.Lib.Prefixes
import KerMP.Game.BuildAdapter

namespace KerMP.Game

open Py Prefixes

namespace GameOperation

/-- the dict that `normalize_operation` returns -/
def toJson (o : GameOperation) : Json :=
  .obj ([("op", .str o.op), ("data", .obj o.data)] ++ (o.opId.map fun opId => ("op_id", Json.str opId)).toList)

/-- `operation.get('op_id') or json.dumps(operation, sort_keys=True)` -/
def key (o : GameOperation) : String :=
  match o.opId with
  | some opId => if opId = "" then o.toJson.dumpsSorted else opId
  | none => o.toJson.dumpsSorted

/-- an id in the data, when it is there and not None -/
def dataId (o : GameOperation) (key : String) : Option String :=
  match Json.field o.data key .null with
  | .null => none
  | v => some v.toStr

def objectId (o : GameOperation) : Option String := o.dataId "object_id"

def definitionId (o : GameOperation) : Option String := o.dataId "definition_id"

end GameOperation

structure SimsBuildAdapter where
  /-- an applier is configured -/
  apply : Bool
  seen : Finset String
  lastLocalOperation : Option GameOperation
  lastOperationByType : Dict String GameOperation
  lastRemoteOperation : Option GameOperation
  applyingRemote : Bool
  operationCounts : Dict String ℕ
  lastError : Option String
  capturedTotal : ℕ
  suppressedRemoteEcho : ℕ
  captureErrors : ℕ
  lastCapture : Option GameOperation
  lastCaptureError : Option String
  lastDefinition : Dict (Option String) (Option String)
  captureSequence : ℕ
  /-- what the applier has been given, newest first -/
  handed : List GameOperation

/-- what the applier does in one call: the payloads it captures, and what it raises afterwards -/
structure Application where
  captures : List Json
  raises : Option Exc

namespace SimsBuildAdapter

/-- `__init__` -/
def new : SimsBuildAdapter where
  apply := false
  seen := ∅
  lastLocalOperation := none
  lastOperationByType := ∅
  lastRemoteOperation := none
  applyingRemote := false
  operationCounts := ∅
  lastError := none
  capturedTotal := 0
  suppressedRemoteEcho := 0
  captureErrors := 0
  lastCapture := none
  lastCaptureError := none
  lastDefinition := ∅
  captureSequence := 0
  handed := []

def configure (a : SimsBuildAdapter) (apply : Bool) : SimsBuildAdapter := { a with apply }

def resetDiagnostics (a : SimsBuildAdapter) : SimsBuildAdapter :=
  { a with
    operationCounts := ∅, capturedTotal := 0, suppressedRemoteEcho := 0, captureErrors := 0, lastCapture := none,
    lastCaptureError := none, lastLocalOperation := none, lastOperationByType := ∅, lastError := none,
    lastDefinition := ∅, captureSequence := 0 }

/-- `'%s: %s' % (type(exc).__name__, exc)` -/
def errorText (exc : Exc) : String := exc.typeName ++ ": " ++ exc.str

/-- one more operation of this kind -/
def count (a : SimsBuildAdapter) (op : String) : Dict String ℕ :=
  a.operationCounts.setItem op ((a.operationCounts.lookup op).getD 0 + 1)

/-- `str(payload.get('op_id') or 'local-%s' % sequence)`; a payload that is normalized is a dict -/
def captureId (payload : Json) (sequence : ℕ) : String :=
  ((payload.get "op_id").toOption.getD .null).or (.str ("local-" ++ toString sequence)) |>.toStr

/-- what `capture_local` does with an operation that it does not filter out -/
def captured (a : SimsBuildAdapter) (payload : Json) (operation : GameOperation) : GameOperation × SimsBuildAdapter :=
  let operation := { operation with opId := some (captureId payload (a.captureSequence + 1)) }
  (operation, { a with
    captureSequence := a.captureSequence + 1, lastLocalOperation := some operation,
    lastOperationByType := a.lastOperationByType.setItem operation.op operation, lastCapture := some operation,
    capturedTotal := a.capturedTotal + 1, operationCounts := a.count operation.op })

/-- the operation, or none for False -/
def captureLocal (a : SimsBuildAdapter) (payload : Json) : Option GameOperation × SimsBuildAdapter :=
  if a.applyingRemote then (none, { a with suppressedRemoteEcho := a.suppressedRemoteEcho + 1 })
  else
    match normalizeOperation payload with
    | .error exc =>
      (none, { a with
        lastError := some (errorText exc), captureErrors := a.captureErrors + 1,
        lastCaptureError := some (errorText exc) })
    | .ok operation =>
      if operation.op = "object.definition" then
        if (a.lastDefinition.lookup operation.objectId).join = operation.definitionId then (none, a)
        else
          let a := { a with lastDefinition := a.lastDefinition.setItem operation.objectId operation.definitionId }
          let r := a.captured payload operation
          (some r.1, r.2)
      else
        let r := a.captured payload operation
        (some r.1, r.2)

/-- the captures of an application, one after the other -/
def captureEach (a : SimsBuildAdapter) : List Json → List (Option GameOperation) × SimsBuildAdapter
  | [] => ([], a)
  | payload :: payloads =>
    let r := a.captureLocal payload
    let rest := r.2.captureEach payloads
    (r.1 :: rest.1, rest.2)

/-- what `apply_remote` returns or raises, and what the captures inside the application return -/
structure Applied where
  result : Except Exc Bool
  captures : List (Option GameOperation)

def applyRemote (a : SimsBuildAdapter) (payload : Json) (application : Application) : Applied × SimsBuildAdapter :=
  match normalizeOperation payload with
  | .error exc => (⟨.ok false, []⟩, { a with lastError := some (errorText exc) })
  | .ok operation =>
    if operation.key ∈ a.seen then (⟨.ok false, []⟩, a)
    else
      let a := { a with seen := insert operation.key a.seen, lastRemoteOperation := some operation }
      if a.apply then
        let r := { a with applyingRemote := true, handed := operation :: a.handed }.captureEach application.captures
        match application.raises with
        | none => (⟨.ok true, r.1⟩, { r.2 with operationCounts := r.2.count operation.op, applyingRemote := false })
        | some exc => (⟨.error exc, r.1⟩, { r.2 with lastError := some (errorText exc), applyingRemote := false })
      else (⟨.ok false, []⟩, a)

def replayLast (a : SimsBuildAdapter) (application : Application) : Applied × SimsBuildAdapter :=
  match a.lastLocalOperation with
  | none => (⟨.ok false, []⟩, a)
  | some operation => a.applyRemote operation.toJson application

/-! ## Runs -/

inductive AdapterCall where
  | configure (apply : Bool)
  | resetDiagnostics
  | captureLocal (payload : Json)
  | applyRemote (payload : Json) (application : Application)
  | replayLast (application : Application)

/-- what a call answers -/
inductive Answer where
  | none
  | captured (operation : Option GameOperation)
  | applied (r : Applied)

def call (a : SimsBuildAdapter) : AdapterCall → Answer × SimsBuildAdapter
  | .configure apply => (.none, a.configure apply)
  | .resetDiagnostics => (.none, a.resetDiagnostics)
  | .captureLocal payload => let r := a.captureLocal payload; (.captured r.1, r.2)
  | .applyRemote payload application => let r := a.applyRemote payload application; (.applied r.1, r.2)
  | .replayLast application => let r := a.replayLast application; (.applied r.1, r.2)

/-- the adapter of a game that has just started, after the first n calls -/
def after (cs : List AdapterCall) (n : ℕ) : SimsBuildAdapter := reached (fun a c => (a.call c).2) new cs n

/-! ## One call -/

variable {a : SimsBuildAdapter} {payload : Json} {application : Application} {operation : GameOperation}

/-- so many captures have been suppressed -/
def echoes (a : SimsBuildAdapter) (n : ℕ) : SimsBuildAdapter :=
  { a with suppressedRemoteEcho := a.suppressedRemoteEcho + n }

theorem echoes_succ (a : SimsBuildAdapter) (n : ℕ) : (a.echoes 1).echoes n = a.echoes (n + 1) := by
  simp only [echoes, Nat.add_assoc, Nat.add_comm 1 n]

theorem captureLocal_applying (h : a.applyingRemote = true) (payload : Json) :
    a.captureLocal payload = (none, a.echoes 1) := if_pos h

/-- while the applier runs, captures are suppressed and counted, and do nothing else -/
theorem captureEach_applying (h : a.applyingRemote = true) (payloads : List Json) :
    a.captureEach payloads = (List.replicate payloads.length none, a.echoes payloads.length) := by
  induction payloads generalizing a with
  | nil => rfl
  | cons payload payloads ih =>
    have hnext : (a.echoes 1).applyingRemote = true := h
    simp only [captureEach, captureLocal_applying h, ih hnext, echoes_succ]
    rfl

theorem applyRemote_error {exc : Exc} (h : normalizeOperation payload = .error exc) :
    a.applyRemote payload application = (⟨.ok false, []⟩, { a with lastError := some (errorText exc) }) := by
  simp only [applyRemote, h]

theorem applyRemote_seen (h : normalizeOperation payload = .ok operation) (hseen : operation.key ∈ a.seen) :
    a.applyRemote payload application = (⟨.ok false, []⟩, a) := by
  simp only [applyRemote, h, if_pos hseen]

/-- the operation is marked as seen, and that is all -/
theorem applyRemote_unconfigured (h : normalizeOperation payload = .ok operation) (hseen : operation.key ∉ a.seen)
    (happly : a.apply = false) : a.applyRemote payload application =
      (⟨.ok false, []⟩, { a with seen := insert operation.key a.seen, lastRemoteOperation := some operation }) := by
  simp [applyRemote, h, hseen, happly]

/-- what the operation is given to the applier with, and what is left when that has returned or raised -/
theorem applyRemote_handed (h : normalizeOperation payload = .ok operation) (hseen : operation.key ∉ a.seen)
    (happly : a.apply = true) :
    let r := a.applyRemote payload application
    r.1 = ⟨match application.raises with | none => .ok true | some exc => .error exc,
      List.replicate application.captures.length none⟩ ∧
    r.2 = { a with
      seen := insert operation.key a.seen, lastRemoteOperation := some operation, handed := operation :: a.handed,
      suppressedRemoteEcho := a.suppressedRemoteEcho + application.captures.length, applyingRemote := false,
      operationCounts := if application.raises.isNone then a.count operation.op else a.operationCounts,
      lastError := (application.raises.map errorText).or a.lastError } := by
  simp only [applyRemote, h, if_neg hseen, happly, if_true]
  rw [captureEach_applying rfl]
  cases application.raises with
  | none => exact ⟨rfl, rfl⟩
  | some exc => exact ⟨rfl, rfl⟩

/-- the operation that a payload gives to the applier -/
def hands (a : SimsBuildAdapter) (payload : Json) : Option GameOperation :=
  match normalizeOperation payload with
  | .ok operation => if operation.key ∉ a.seen ∧ a.apply = true then some operation else none
  | .error _ => none

theorem hands_eq_some : a.hands payload = some operation ↔
    normalizeOperation payload = .ok operation ∧ operation.key ∉ a.seen ∧ a.apply = true := by
  unfold hands
  cases normalizeOperation payload with
  | error exc => simp
  | ok o =>
    dsimp only
    split_ifs with hgiven
    · simp only [Option.some.injEq, Except.ok.injEq]
      exact ⟨fun he => ⟨he, he ▸ hgiven⟩, fun he => he.1⟩
    · simp only [false_iff, Except.ok.injEq]
      rintro ⟨rfl, hgiven'⟩
      exact hgiven hgiven'

theorem hands_of_seen (h : normalizeOperation payload = .ok operation) (hseen : operation.key ∈ a.seen) :
    a.hands payload = none := by simp [hands, h, hseen]

/-- what a `build.apply` does, but for what it reports -/
structure Delivered (a : SimsBuildAdapter) (payload : Json) (application : Application) (r : Applied × SimsBuildAdapter) :
    Prop where
  seen : r.2.seen = match normalizeOperation payload with
    | .ok operation => insert operation.key a.seen
    | .error _ => a.seen
  handed : r.2.handed = (a.hands payload).toList ++ a.handed
  captures : r.1.captures = if (a.hands payload).isSome then List.replicate application.captures.length none else []
  echo : r.2.suppressedRemoteEcho = a.suppressedRemoteEcho + r.1.captures.length
  quiet : a.applyingRemote = false → r.2.applyingRemote = false
  apply : r.2.apply = a.apply
  definitions : r.2.lastDefinition = a.lastDefinition
  captured : r.2.capturedTotal = a.capturedTotal

theorem applyRemote_delivered (a : SimsBuildAdapter) (payload : Json) (application : Application) :
    a.Delivered payload application (a.applyRemote payload application) := by
  cases h : normalizeOperation payload with
  | error exc =>
    have hnone : a.hands payload = none := by simp [hands, h]
    rw [applyRemote_error h]
    exact ⟨by rw [h], by rw [hnone]; rfl, by rw [hnone]; rfl, rfl, id, rfl, rfl, rfl⟩
  | ok operation =>
    by_cases hseen : operation.key ∈ a.seen
    · have hnone : a.hands payload = none := hands_of_seen h hseen
      rw [applyRemote_seen h hseen]
      exact ⟨by rw [h]; exact (Finset.insert_eq_self.2 hseen).symm, by rw [hnone]; rfl, by rw [hnone]; rfl, rfl, id, rfl,
        rfl, rfl⟩
    · cases happly : a.apply with
      | false =>
        have hnone : a.hands payload = none := by simp [hands, h, happly]
        rw [applyRemote_unconfigured h hseen happly]
        exact ⟨by rw [h], by rw [hnone]; rfl, by rw [hnone]; rfl, rfl, id, rfl, rfl, rfl⟩
      | true =>
        have hsome : a.hands payload = some operation := hands_eq_some.2 ⟨h, hseen, happly⟩
        obtain ⟨hanswer, hstate⟩ := @applyRemote_handed a payload application operation h hseen happly
        refine ⟨by rw [h, hstate], by rw [hsome, hstate]; rfl, by rw [hanswer, hsome]; rfl, ?_, fun _ => by rw [hstate],
          by rw [hstate], by rw [hstate], by rw [hstate]⟩
        rw [hstate, hanswer, List.length_replicate]

/-- what a capture outside of applications leaves alone -/
structure Captured (a a' : SimsBuildAdapter) : Prop where
  seen : a'.seen = a.seen
  handed : a'.handed = a.handed
  apply : a'.apply = a.apply
  quiet : a'.applyingRemote = false
  echo : a'.suppressedRemoteEcho = a.suppressedRemoteEcho

theorem captureLocal_captured (h : a.applyingRemote = false) (payload : Json) :
    a.Captured (a.captureLocal payload).2 := by
  unfold captureLocal
  rw [if_neg (by simp [h])]
  cases normalizeOperation payload with
  | error exc => exact ⟨rfl, rfl, rfl, h, rfl⟩
  | ok operation =>
    dsimp only
    split_ifs
    · exact ⟨rfl, rfl, rfl, h, rfl⟩
    · exact ⟨rfl, rfl, rfl, h, rfl⟩
    · exact ⟨rfl, rfl, rfl, h, rfl⟩

/-- the payload that a call gives to `apply_remote` -/
def delivery (a : SimsBuildAdapter) : AdapterCall → Option (Json × Application)
  | .applyRemote payload application => some (payload, application)
  | .replayLast application => a.lastLocalOperation.map fun operation => (operation.toJson, application)
  | _ => none

theorem call_delivery {c : AdapterCall} (h : a.delivery c = some (payload, application)) :
    a.call c = let r := a.applyRemote payload application; (.applied r.1, r.2) := by
  cases c with
  | applyRemote payload' application' =>
    cases h
    rfl
  | replayLast application' =>
    obtain ⟨operation, hlast, he⟩ := Option.map_eq_some_iff.1 h
    cases he
    simp only [call, replayLast, hlast]
  | _ => cases h

/-- a call that delivers nothing marks nothing and applies nothing -/
theorem call_other (hquiet : a.applyingRemote = false) {c : AdapterCall} (h : a.delivery c = none) :
    (a.call c).2.seen = a.seen ∧ (a.call c).2.handed = a.handed ∧ (a.call c).2.applyingRemote = false := by
  cases c with
  | configure apply => exact ⟨rfl, rfl, hquiet⟩
  | resetDiagnostics => exact ⟨rfl, rfl, hquiet⟩
  | captureLocal payload =>
    have hcaptured := captureLocal_captured hquiet payload
    exact ⟨hcaptured.seen, hcaptured.handed, hcaptured.quiet⟩
  | applyRemote payload application => cases h
  | replayLast application =>
    have hlast : a.lastLocalOperation = none := Option.map_eq_none_iff.1 h
    simp only [call, replayLast, hlast]
    exact ⟨trivial, trivial, hquiet⟩

/-! ## Once and silent -/

/-- between calls no application is under way, and the applier has been given every key once -/
structure Inv (a : SimsBuildAdapter) : Prop where
  quiet : a.applyingRemote = false
  once : (a.handed.map GameOperation.key).Nodup
  marked : ∀ operation ∈ a.handed, operation.key ∈ a.seen

theorem inv_new : new.Inv := ⟨rfl, List.nodup_nil, fun _ h => absurd h List.not_mem_nil⟩

theorem inv_applyRemote (h : a.Inv) (payload : Json) (application : Application) :
    (a.applyRemote payload application).2.Inv := by
  have hdelivered := applyRemote_delivered a payload application
  have hgrows : ∀ key ∈ a.seen, key ∈ (a.applyRemote payload application).2.seen := by
    intro key hkey
    rw [hdelivered.seen]
    cases normalizeOperation payload with
    | error exc => exact hkey
    | ok operation => exact Finset.mem_insert_of_mem hkey
  cases hgiven : a.hands payload with
  | none =>
    have hhanded : (a.applyRemote payload application).2.handed = a.handed := by
      rw [hdelivered.handed, hgiven]
      rfl
    refine ⟨hdelivered.quiet h.quiet, by rw [hhanded]; exact h.once, ?_⟩
    rw [hhanded]
    exact fun operation hmem => hgrows _ (h.marked operation hmem)
  | some operation =>
    obtain ⟨hnormal, hnew, -⟩ := hands_eq_some.1 hgiven
    have hhanded : (a.applyRemote payload application).2.handed = operation :: a.handed := by
      rw [hdelivered.handed, hgiven]
      rfl
    have hmarked : operation.key ∈ (a.applyRemote payload application).2.seen := by
      rw [hdelivered.seen, hnormal]
      exact Finset.mem_insert_self _ _
    refine ⟨hdelivered.quiet h.quiet, ?_, ?_⟩
    · rw [hhanded, List.map_cons, List.nodup_cons]
      refine ⟨fun hmem => ?_, h.once⟩
      -- what has been given before is marked
      obtain ⟨earlier, hearlier, hsame⟩ := List.mem_map.1 hmem
      exact hnew (hsame ▸ h.marked earlier hearlier)
    · rw [hhanded]
      intro given hmem
      rcases List.mem_cons.1 hmem with rfl | hmem
      · exact hmarked
      · exact hgrows _ (h.marked given hmem)

theorem inv_call (h : a.Inv) (c : AdapterCall) : (a.call c).2.Inv := by
  cases hdelivery : a.delivery c with
  | none =>
    obtain ⟨hseen, hhanded, hquiet⟩ := call_other h.quiet hdelivery
    exact ⟨hquiet, by rw [hhanded]; exact h.once, by rw [hhanded, hseen]; exact h.marked⟩
  | some d =>
    obtain ⟨payload, application⟩ := d
    rw [call_delivery hdelivery]
    exact inv_applyRemote h payload application

theorem inv_after (cs : List AdapterCall) (n : ℕ) : (after cs n).Inv :=
  @holds_reached _ _ _ new cs Inv (fun _ _ => True) inv_new (fun _ c h _ => inv_call h c) (fun _ _ _ => trivial) n

/-- **Remote applications are made once and in silence.** After any calls on the adapter of a game, with an applier that
captures whatever it likes and may raise: no application is under way; no two operations that the applier has been given
have the same key; what the applier of a next call captures is suppressed and counted, and nothing is when there is no
application; and a next capture from outside is not suppressed. -/
theorem applications_once_and_silent (cs : List AdapterCall) (n : ℕ) :
    let a := after cs n
    a.applyingRemote = false ∧ (a.handed.map GameOperation.key).Nodup ∧
      (∀ payload application, let r := a.applyRemote payload application
        r.2.applyingRemote = false ∧
          r.1.captures = (if r.2.handed = a.handed then [] else List.replicate application.captures.length none) ∧
          r.2.suppressedRemoteEcho = a.suppressedRemoteEcho + r.1.captures.length ∧
          r.2.capturedTotal = a.capturedTotal) ∧
      ∀ payload, (a.captureLocal payload).2.suppressedRemoteEcho = a.suppressedRemoteEcho := by
  intro a
  have hinv : a.Inv := inv_after cs n
  refine ⟨hinv.quiet, hinv.once, fun payload application => ?_, ?_⟩
  swap
  · exact fun payload => (captureLocal_captured hinv.quiet payload).echo
  have hdelivered := applyRemote_delivered a payload application
  refine ⟨hdelivered.quiet hinv.quiet, ?_, hdelivered.echo, hdelivered.captured⟩
  rw [hdelivered.captures, hdelivered.handed]
  cases a.hands payload with
  | none => simp
  | some operation => simp

end SimsBuildAdapter

end KerMP.Game
