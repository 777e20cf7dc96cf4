/-
What a game with an applier has been given, over a whole run (`SimsBuildAdapter` of `kermp_mod/build_adapter.py`).

An adapter that has been configured, and is not configured again, keeps one key for each operation that was delivered
to it and could be read. So its applier has been given the first operation under each key, in the order of their
deliveries: all the delivered operations, if no two of them have the same key.

- `served_call`: what one call adds to the operations read and to those given to the applier.
- `handed_firsts`: after any calls the applier has been given the first operation under each key that was delivered.
- `numbered_keys`: operations that were sequenced for clients have different keys.
-/
import KerMP.Game.SimsBuildAdapter

namespace KerMP.Game

open Py

/-- the operation in a payload, if it can be read -/
def readOperation (payload : Json) : Option GameOperation := (normalizeOperation payload).toOption

/-- the first operation under each key; the lists are newest first -/
def firsts (operations : List GameOperation) : List GameOperation :=
  operations.pwFilter fun o o' => o.key ≠ o'.key

theorem firsts_cons_seen {operation : GameOperation} {operations : List GameOperation}
    (h : ∃ o ∈ operations, o.key = operation.key) : firsts (operation :: operations) = firsts operations := by
  have hdiffer : ∀ {x y z : GameOperation}, x.key ≠ z.key → x.key ≠ y.key ∨ y.key ≠ z.key := by
    intro x y z hxz
    by_cases hxy : x.key = y.key
    · exact Or.inr (hxy ▸ hxz)
    · exact Or.inl hxy
  obtain ⟨o, ho, hkey⟩ := h
  refine List.pwFilter_cons_of_neg fun hall => ?_
  have hnew : ∀ o ∈ operations, operation.key ≠ o.key :=
    (List.forall_mem_pwFilter (R := fun o o' => o.key ≠ o'.key) hdiffer operation operations).1 hall
  exact hnew o ho hkey.symm

theorem firsts_cons_new {operation : GameOperation} {operations : List GameOperation}
    (h : ∀ o ∈ operations, o.key ≠ operation.key) :
    firsts (operation :: operations) = operation :: firsts operations :=
  List.pwFilter_cons_of_pos fun o ho => (h o (List.pwFilter_subset _ ho)).symm

/-- all of them are first exactly when no two have the same key -/
theorem firsts_eq_self {operations : List GameOperation} :
    firsts operations = operations ↔ (operations.map GameOperation.key).Nodup := by
  rw [List.Nodup, List.pairwise_map]
  exact List.pwFilter_eq_self

namespace SimsBuildAdapter

/-! ## One call -/

/-- the operation that a call delivers, if it can be read -/
def reads (a : SimsBuildAdapter) (c : AdapterCall) : Option GameOperation :=
  (a.delivery c).bind fun d => readOperation d.1

/-- a call that does not change the applier -/
def AdapterCall.keepsApplier : AdapterCall → Bool
  | .configure _ => false
  | _ => true

/-- these operations have been read, newest first, and the first under each key was given to the applier -/
structure Served (operations : List GameOperation) (a : SimsBuildAdapter) : Prop where
  configured : a.apply = true
  quiet : a.applyingRemote = false
  marked : ∀ key, key ∈ a.seen ↔ ∃ o ∈ operations, o.key = key
  handed : a.handed = firsts operations

theorem served_new : Served [] (new.configure true) where
  configured := rfl
  quiet := rfl
  marked key := iff_of_false (Finset.notMem_empty key) fun ⟨_, ho, _⟩ => absurd ho List.not_mem_nil
  handed := rfl

variable {a : SimsBuildAdapter} {operations : List GameOperation}

theorem served_applyRemote (h : Served operations a) (payload : Json) (application : Application) :
    Served ((readOperation payload).toList ++ operations) (a.applyRemote payload application).2 := by
  have hdelivered := applyRemote_delivered a payload application
  have hconfigured := hdelivered.apply.trans h.configured
  cases hnormal : normalizeOperation payload with
  | error exc =>
    have hread : readOperation payload = none := by rw [readOperation, hnormal]; rfl
    have hnone : a.hands payload = none := by simp [hands, hnormal]
    rw [hread]
    refine ⟨hconfigured, hdelivered.quiet h.quiet, ?_, ?_⟩
    · rw [hdelivered.seen, hnormal]
      exact h.marked
    · rw [hdelivered.handed, hnone]
      exact h.handed
  | ok operation =>
    have hread : readOperation payload = some operation := by rw [readOperation, hnormal]; rfl
    rw [hread, Option.toList_some, List.singleton_append]
    refine ⟨hconfigured, hdelivered.quiet h.quiet, fun key => ?_, ?_⟩
    · rw [hdelivered.seen, hnormal, Finset.mem_insert, h.marked, List.exists_mem_cons_iff, eq_comm]
    · by_cases hseen : operation.key ∈ a.seen
      · rw [hdelivered.handed, hands_of_seen hnormal hseen, firsts_cons_seen ((h.marked _).1 hseen)]
        exact h.handed
      · have hnew : ∀ o ∈ operations, o.key ≠ operation.key := fun o ho hkey => hseen ((h.marked _).2 ⟨o, ho, hkey⟩)
        rw [hdelivered.handed, hands_eq_some.2 ⟨hnormal, hseen, h.configured⟩, firsts_cons_new hnew, h.handed]
        rfl

/-- **One call.** -/
theorem served_call (h : Served operations a) {c : AdapterCall} (hc : AdapterCall.keepsApplier c = true) :
    Served ((a.reads c).toList ++ operations) (a.call c).2 := by
  cases hdelivery : a.delivery c with
  | none =>
    obtain ⟨hseen, hhanded, hquiet⟩ := call_other h.quiet hdelivery
    have happly : (a.call c).2.apply = a.apply := by
      cases c with
      | configure apply => cases hc
      | resetDiagnostics => rfl
      | captureLocal payload => exact (captureLocal_captured h.quiet payload).apply
      | applyRemote payload application => cases hdelivery
      | replayLast application =>
        have hlast : a.lastLocalOperation = none := Option.map_eq_none_iff.1 hdelivery
        simp only [call, replayLast, hlast]
    rw [reads, hdelivery]
    exact ⟨happly.trans h.configured, hquiet, by rw [hseen]; exact h.marked, by rw [hhanded]; exact h.handed⟩
  | some d =>
    obtain ⟨payload, application⟩ := d
    rw [reads, hdelivery, call_delivery hdelivery]
    exact served_applyRemote h payload application

/-! ## Runs -/

/-- the adapter after these calls -/
def afterCalls (a : SimsBuildAdapter) (cs : List AdapterCall) : SimsBuildAdapter :=
  cs.foldl (fun a c => (a.call c).2) a

/-- the operations that these calls deliver and that can be read, newest first -/
def operationsRead (a : SimsBuildAdapter) : List AdapterCall → List GameOperation
  | [] => []
  | c :: cs => operationsRead (a.call c).2 cs ++ (a.reads c).toList

theorem served_run (h : Served operations a) {cs : List AdapterCall}
    (hcs : ∀ c ∈ cs, AdapterCall.keepsApplier c = true) :
    Served (operationsRead a cs ++ operations) (afterCalls a cs) := by
  induction cs generalizing a operations with
  | nil => exact h
  | cons c cs ih =>
    have hstep := served_call h (hcs c List.mem_cons_self)
    have hrest := ih hstep fun c' hc' => hcs c' (List.mem_cons_of_mem c hc')
    rw [operationsRead, List.append_assoc]
    exact hrest

/-- **The first under each key.** A game whose adapter was configured at the start, and not again, has given its applier
the first operation under each key of those that were delivered and could be read, in their order. -/
theorem handed_firsts {cs : List AdapterCall} (hcs : ∀ c ∈ cs, AdapterCall.keepsApplier c = true) :
    (afterCalls (new.configure true) cs).handed = firsts (operationsRead (new.configure true) cs) := by
  have h := (served_run served_new hcs).handed
  rwa [List.append_nil] at h

/-! ## Deliveries of the bridge -/

/-- the payloads of the `build.apply` messages that the game handles, newest first -/
def remotePayloads (cs : List AdapterCall) : List Json :=
  (cs.filterMap fun
    | .applyRemote payload _ => some payload
    | _ => none).reverse

/-- a call of the game while it is played: a message of the bridge, or something the player has built -/
def AdapterCall.played : AdapterCall → Bool
  | .captureLocal _ | .applyRemote _ _ => true
  | _ => false

theorem AdapterCall.keepsApplier_of_played {c : AdapterCall} (h : AdapterCall.played c = true) :
    AdapterCall.keepsApplier c = true := by
  cases c with
  | configure apply => cases h
  | _ => rfl

theorem operationsRead_played (a : SimsBuildAdapter) {cs : List AdapterCall}
    (hcs : ∀ c ∈ cs, AdapterCall.played c = true) :
    operationsRead a cs = (remotePayloads cs).filterMap readOperation := by
  induction cs generalizing a with
  | nil => rfl
  | cons c cs ih =>
    have hplayed := hcs c List.mem_cons_self
    rw [operationsRead, ih _ fun c' hc' => hcs c' (List.mem_cons_of_mem c hc')]
    cases c with
    | captureLocal payload => exact List.append_nil _
    | applyRemote payload application =>
      have hsnoc : remotePayloads (.applyRemote payload application :: cs) = remotePayloads cs ++ [payload] := by
        simp [remotePayloads]
      rw [hsnoc, List.filterMap_append]
      cases hread : readOperation payload <;> simp [reads, delivery, hread]
    | _ => cases hplayed

/-! ## Keys of sequenced operations -/

/-- an operation is read under the id of its payload -/
theorem normalizeOperation_opId {payload : Json} {operation : GameOperation}
    (h : normalizeOperation payload = .ok operation) : operationId (payload.or (.obj [])) = .ok operation.opId := by
  unfold normalizeOperation at h
  obtain ⟨_, -, h⟩ := bind_ok h
  obtain ⟨_, -, h⟩ := bind_ok h
  obtain ⟨_, -, h⟩ := bind_ok h
  obtain ⟨_, -, h⟩ := bind_ok h
  obtain ⟨_, -, h⟩ := bind_ok h
  obtain ⟨_, -, h⟩ := bind_ok h
  obtain ⟨_, -, h⟩ := bind_ok h
  obtain ⟨opId, hid, h⟩ := bind_ok h
  cases h
  exact hid

/-- what the host sends of a client's operation has the number of the operation as its key -/
theorem key_buildApply {o : BuildOperation} {operation : GameOperation}
    (h : normalizeOperation (Host.buildApply o) = .ok operation) : operation.key = Nat.repr o.seq := by
  have hid : Except.ok (some (Nat.repr o.seq)) = (.ok operation.opId : Except Exc (Option String)) :=
    normalizeOperation_opId h
  rw [GameOperation.key, ← Except.ok.inj hid]
  exact if_neg Nat.repr_ne_empty

theorem readOperation_eq_some {payload : Json} {operation : GameOperation} :
    readOperation payload = some operation ↔ normalizeOperation payload = .ok operation := by
  rw [readOperation]
  cases normalizeOperation payload with
  | error exc => exact iff_of_false (fun h => nomatch h) fun h => nomatch h
  | ok o => exact ⟨fun h => congrArg Except.ok (Option.some.inj h), fun h => congrArg some (Except.ok.inj h)⟩

/-- **Keys of clients' operations.** Operations with different numbers are read under different keys. -/
theorem numbered_keys {ops : List BuildOperation} (h : (ops.map (·.seq)).Nodup) :
    ((ops.filterMap fun o => readOperation (Host.buildApply o)).map GameOperation.key).Nodup := by
  rw [List.Nodup, List.pairwise_map] at h ⊢
  refine h.filterMap _ fun o o' hne operation hread operation' hread' => ?_
  rw [key_buildApply (readOperation_eq_some.1 hread), key_buildApply (readOperation_eq_some.1 hread')]
  intro heq
  have hdigits : Nat.toDigits 10 o.seq = Nat.toDigits 10 o'.seq := by rw [← Nat.toList_repr, heq, Nat.toList_repr]
  apply hne
  calc o.seq = Nat.ofDigitChars 10 (Nat.toDigits 10 o.seq) 0 := Nat.ofDigitChars_ten_toDigits.symm
    _ = Nat.ofDigitChars 10 (Nat.toDigits 10 o'.seq) 0 := by rw [hdigits]
    _ = o'.seq := Nat.ofDigitChars_ten_toDigits

end SimsBuildAdapter

end KerMP.Game
