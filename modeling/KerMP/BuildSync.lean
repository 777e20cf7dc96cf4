/-
The host's build authority (`kermp/buildsync.py`): one lock with a lease, and the sequenced stream of operations.

Times are in nanoseconds. A call that reads the clock takes its readings as arguments, in the order of the source: the
clock may advance between two readings of one call. `submit` drops an expired lock before it refuses, so it answers
with the new authority in either case.

- `requestLock_granted`, `submit_ok`, `submit_error`: what each call can do.
- `submit_of_authority`: the live owner's valid operation is sequenced.
- `Authority`: p holds the lock and its lease has not run out.
-/
import Mathlib.Tactic.SplitIfs
import Mathlib.Data.List.Basic
import KerMP.Lib.PyValue

namespace KerMP

open Py

/-! ## Validation of an operation's data -/

def OBJECT_OPERATIONS : List String :=
  ["object.create", "object.destroy", "object.move", "object.definition", "object.scale", "object.set_parent",
    "object.clear_parent", "funds.modify", "wall.create", "wall.delete"]

def MAX_BUILD_DATA_KEYS : ℕ := 32
def MAX_BUILD_VALUE_LENGTH : ℕ := 4096

/-- `if not b: raise e` -/
def require (b : Bool) (e : Exc) : Except Exc Unit := if b then .ok () else .error e

theorem require_ok {b : Bool} {e : Exc} {u : Unit} (h : require b e = .ok u) : b = true := by
  unfold require at h
  split_ifs at h with hb
  exact hb

def ID_KEYS : List String :=
  ["object_id", "parent_id", "definition_id", "household_id", "zone_id", "routing_surface_id"]

/-- the first bad key or oversized value, in order -/
def checkItems : List (String × Json) → Except Exc Unit
  | [] => .ok ()
  | (key, value) :: rest => do
    require (key.length ≤ 128) (.valueError "invalid build operation key")
    match value with
    | .str s => require (s.length ≤ MAX_BUILD_VALUE_LENGTH) (.valueError "build operation value too large")
    | _ => .ok ()
    checkItems rest

/-- `if key in result and result[key] is not None: result[key] = str(result[key])` -/
def strId (result : List (String × Json)) (key : String) : List (String × Json) :=
  match result.lookup key with
  | none | some .null => result
  | some v => Json.setField result key (.str v.toStr)

/-- `not str(result.get(key, ""))` -/
def blank (result : List (String × Json)) (key : String) : Bool := (Json.field result key (.str "")).toStr == ""

def isNumber : Json → Bool
  | .bool _ | .int _ | .float _ => true
  | _ => false

def validateBuildData (op : String) (data : List (String × Json)) : Except Exc (List (String × Json)) := do
  require (OBJECT_OPERATIONS.contains op) (.valueError ("unsupported build operation: " ++ op))
  require (data.length ≤ MAX_BUILD_DATA_KEYS) (.valueError "invalid build operation data")
  checkItems data
  let result := ID_KEYS.foldl strId data
  require (!("object.".isPrefixOf op && blank result "object_id" && op != "object.create"))
    (.valueError "object_id is required")
  require (!(op == "object.create" && blank result "definition_id")) (.valueError "definition_id is required")
  require (!(op == "funds.modify" && blank result "household_id")) (.valueError "household_id is required")
  require (!(op == "funds.modify" && !isNumber (Json.field result "amount" .null)))
    (.valueError "funds amount must be numeric")
  return result

/-! ## The authority -/

structure BuildLock where
  ownerId : String
  acquiredAt : ℕ
  leaseSeconds : ℕ
deriving DecidableEq

/-- read at time `now` -/
def BuildLock.expired (l : BuildLock) (now : ℕ) : Bool := l.leaseSeconds < now - l.acquiredAt

structure BuildOperation where
  operationId : String
  seq : ℕ
  playerId : String
  op : String
  data : List (String × Json)
deriving DecidableEq

structure BuildAuthority where
  leaseSeconds : ℕ
  lock : Option BuildLock
  seq : ℕ
  historyLimit : ℕ
  history : List BuildOperation
  leaseId : Option String
deriving DecidableEq

namespace BuildAuthority

/-- the defaults: a lease of 8 seconds, 128 operations kept -/
def init : BuildAuthority := ⟨8000000000, none, 0, 128, [], none⟩

def ownerId (b : BuildAuthority) : Option String := b.lock.map (·.ownerId)

/-- `if self.lock and self.lock.expired: self.lock = None` -/
def dropExpired (b : BuildAuthority) (now : ℕ) : BuildAuthority :=
  match b.lock with
  | some l => if l.expired now then { b with lock := none } else b
  | none => b

/-- `t₁` is the reading behind `expired`, `t₂` the time of the grant, `wall` the wall clock -/
def requestLock (b : BuildAuthority) (playerId : String) (t₁ t₂ wall : ℕ) : Bool × BuildAuthority :=
  let b := b.dropExpired t₁
  if b.ownerId = none ∨ b.ownerId = some playerId then
    (true, { b with lock := some ⟨playerId, t₂, b.leaseSeconds⟩, leaseId := some (playerId ++ ":" ++ toString wall) })
  else (false, b)

def releaseLock (b : BuildAuthority) (playerId : String) : Bool × BuildAuthority :=
  if b.ownerId = some playerId then (true, { b with lock := none, leaseId := none }) else (false, b)

/-- `del history[:-limit]`; with limit 0 nothing is deleted -/
def trim (limit : ℕ) (history : List BuildOperation) : List BuildOperation :=
  if limit = 0 then history else history.drop (history.length - limit)

/-- `t₁` is the reading behind `expired`, `t₂` the one that renews the lease -/
def submit (b : BuildAuthority) (playerId op : String) (data : List (String × Json)) (t₁ t₂ : ℕ) :
    Except Exc BuildOperation × BuildAuthority :=
  let b := b.dropExpired t₁
  match b.lock with
  | none => (.error (.permissionError "build operation submitted without authority"), b)
  | some l =>
    if l.ownerId ≠ playerId then (.error (.permissionError "build operation submitted without authority"), b)
    else
      match validateBuildData op data with
      | .error e => (.error e, b)
      | .ok data =>
        let seq := b.seq + 1
        let operation : BuildOperation := ⟨"build-" ++ toString seq, seq, playerId, op, data⟩
        (.ok operation, { b with lock := some { l with acquiredAt := t₂ }, seq,
                                 history := trim b.historyLimit (b.history ++ [operation]) })

def operationJson (o : BuildOperation) : Json :=
  .obj [("operation_id", .str o.operationId), ("seq", .int o.seq), ("player_id", .str o.playerId), ("op", .str o.op),
    ("data", .obj o.data)]

def strOrNull : Option String → Json
  | some s => .str s
  | none => .null

def snapshot (b : BuildAuthority) (now : ℕ) : Json :=
  .obj [("owner_id", strOrNull (b.dropExpired now).ownerId), ("lease_id", strOrNull b.leaseId),
    ("current_sequence", .int b.seq),
    ("recent_operations", .arr ((b.history.drop (b.history.length - 20)).map operationJson))]

/-- at time `now` the player holds the lock, and the lease has not run out -/
def Authority (b : BuildAuthority) (playerId : String) (now : ℕ) : Prop :=
  ∃ l, b.lock = some l ∧ l.ownerId = playerId ∧ l.expired now = false

/-! ## What each call can do -/

theorem dropExpired_cases (b : BuildAuthority) (now : ℕ) :
    b.dropExpired now = b ∨ ∃ l, b.lock = some l ∧ l.expired now = true ∧ b.dropExpired now = { b with lock := none } := by
  unfold dropExpired
  cases hl : b.lock with
  | none => exact Or.inl rfl
  | some l =>
    simp only
    split_ifs with he
    · exact Or.inr ⟨l, rfl, he, rfl⟩
    · exact Or.inl rfl

@[simp] theorem dropExpired_seq (b : BuildAuthority) (now : ℕ) : (b.dropExpired now).seq = b.seq := by
  obtain h | ⟨l, -, -, h⟩ := dropExpired_cases b now <;> rw [h]

theorem dropExpired_lock {b : BuildAuthority} {now : ℕ} {l : BuildLock} :
    (b.dropExpired now).lock = some l ↔ b.lock = some l ∧ l.expired now = false := by
  unfold dropExpired
  cases hl : b.lock with
  | none => simp [hl]
  | some l' =>
    simp only
    split_ifs with he
    · refine ⟨fun h => by simp at h, ?_⟩
      rintro ⟨h, hn⟩
      cases h; rw [he] at hn; cases hn
    · refine ⟨fun h => ?_, fun h => hl.trans h.1⟩
      cases hl.symm.trans h
      exact ⟨rfl, by simpa using he⟩

/-- an operation is sequenced for the live owner of the lock, under the next number -/
theorem submit_ok {b b' : BuildAuthority} {p op : String} {data : List (String × Json)} {t₁ t₂ : ℕ}
    {o : BuildOperation} (h : b.submit p op data t₁ t₂ = (.ok o, b')) :
    b.Authority p t₁ ∧ (∃ d, validateBuildData op data = .ok d ∧
      o = ⟨"build-" ++ toString (b.seq + 1), b.seq + 1, p, op, d⟩) ∧ b'.seq = b.seq + 1 ∧ b'.ownerId = some p := by
  unfold submit at h
  dsimp only at h
  split at h
  · cases h
  · rename_i l hl
    by_cases ho : l.ownerId = p
    swap
    · rw [if_pos ho] at h; cases h
    rw [if_neg (not_not.2 ho)] at h
    split at h
    · cases h
    · rename_i d hv
      rw [dropExpired_seq] at h
      cases h
      obtain ⟨hb, he⟩ := dropExpired_lock.1 hl
      exact ⟨⟨l, hb, ho, he⟩, ⟨d, hv, rfl⟩, rfl, by simp [ownerId, ho]⟩

/-- a refused operation takes no number -/
theorem submit_error {b b' : BuildAuthority} {p op : String} {data : List (String × Json)} {t₁ t₂ : ℕ} {e : Exc}
    (h : b.submit p op data t₁ t₂ = (.error e, b')) : b' = b.dropExpired t₁ := by
  unfold submit at h
  dsimp only at h
  split at h
  · cases h; rfl
  · split_ifs at h
    · cases h; rfl
    · split at h
      · cases h; rfl
      · cases h

theorem dropExpired_of_live {b : BuildAuthority} {p : String} {now : ℕ} (h : b.Authority p now) :
    b.dropExpired now = b := by
  obtain ⟨l, hl, -, he⟩ := h
  simp [dropExpired, hl, he]

/-- the live owner's valid operation is sequenced -/
theorem submit_of_authority {b : BuildAuthority} {p op : String} {data d : List (String × Json)} {t₁ t₂ : ℕ}
    (h : b.Authority p t₁) (hv : validateBuildData op data = .ok d) :
    (b.submit p op data t₁ t₂).1 = .ok ⟨"build-" ++ toString (b.seq + 1), b.seq + 1, p, op, d⟩ := by
  obtain ⟨l, hl, ho, -⟩ := id h
  simp [submit, dropExpired_of_live h, hl, ho, hv]

/-- the live owner's invalid operation raises what its validation raises -/
theorem submit_of_invalid {b : BuildAuthority} {p op : String} {data : List (String × Json)} {t₁ t₂ : ℕ} {e : Exc}
    (h : b.Authority p t₁) (hv : validateBuildData op data = .error e) : b.submit p op data t₁ t₂ = (.error e, b) := by
  obtain ⟨l, hl, ho, -⟩ := id h
  simp [submit, dropExpired_of_live h, hl, ho, hv]

/-- without authority every operation is refused, whatever it says -/
theorem submit_of_not_authority {b : BuildAuthority} {p op : String} {data : List (String × Json)} {t₁ t₂ : ℕ}
    (h : ¬ b.Authority p t₁) :
    b.submit p op data t₁ t₂ =
      (.error (.permissionError "build operation submitted without authority"), b.dropExpired t₁) := by
  unfold submit
  dsimp only
  split
  · rfl
  · rename_i l hl
    obtain ⟨hb, he⟩ := dropExpired_lock.1 hl
    rw [if_pos fun ho => h ⟨l, hb, ho, he⟩]

/-- the lock is granted to whoever asks for a free lock, an expired one or its own -/
theorem requestLock_granted {b : BuildAuthority} {p : String} {t₁ t₂ w : ℕ} :
    (b.requestLock p t₁ t₂ w).1 = true ↔ ∀ l, b.lock = some l → l.expired t₁ = true ∨ l.ownerId = p := by
  have key : (b.requestLock p t₁ t₂ w).1 = true ↔
      (b.dropExpired t₁).ownerId = none ∨ (b.dropExpired t₁).ownerId = some p := by
    unfold requestLock
    dsimp only
    split_ifs with h <;> simp [h]
  rw [key]
  cases hd : (b.dropExpired t₁).lock with
  | none =>
    refine ⟨fun _ l hl => ?_, fun _ => Or.inl (by simp [ownerId, hd])⟩
    by_contra hn
    have := dropExpired_lock.2 ⟨hl, by simpa using (not_or.1 hn).1⟩
    rw [hd] at this; cases this
  | some l =>
    obtain ⟨hl, he⟩ := dropExpired_lock.1 hd
    simp [ownerId, hd, hl, he]

/-- a grant is to the one who asked -/
theorem requestLock_owner {b : BuildAuthority} {p : String} {t₁ t₂ w : ℕ} (h : (b.requestLock p t₁ t₂ w).1 = true) :
    (b.requestLock p t₁ t₂ w).2.lock = some ⟨p, t₂, b.leaseSeconds⟩ := by
  unfold requestLock at h ⊢
  simp only at h ⊢
  split_ifs at h ⊢
  obtain hb | ⟨l, hl, he, hb⟩ := dropExpired_cases b t₁ <;> rw [hb]

theorem dropExpired_idem (b : BuildAuthority) (now : ℕ) : (b.dropExpired now).dropExpired now = b.dropExpired now := by
  obtain hd | ⟨l, hl, he, hd⟩ := dropExpired_cases b now <;> rw [hd]
  · exact hd
  · rfl

/-- whom the lock names after a request has not run out: at the first reading if it is refused, else at the second -/
theorem requestLock_live (b : BuildAuthority) (p : String) (t₁ t₂ w : ℕ) :
    ∃ t ∈ [t₁, t₂], ((b.requestLock p t₁ t₂ w).2.dropExpired t).ownerId = (b.requestLock p t₁ t₂ w).2.ownerId := by
  unfold requestLock
  dsimp only
  split_ifs
  · exact ⟨t₂, by simp, by simp [dropExpired, BuildLock.expired]⟩
  · exact ⟨t₁, by simp, by rw [dropExpired_idem]⟩

/-- after a release the lock is free exactly when it was so before, or the player's own -/
theorem releaseLock_free (b : BuildAuthority) (p : String) (t : ℕ) :
    ((b.releaseLock p).2.dropExpired t).ownerId = none ↔ ∀ owner ∈ (b.dropExpired t).ownerId, owner = p := by
  unfold releaseLock
  split_ifs with ho
  · refine ⟨fun _ owner hmem => ?_, fun _ => rfl⟩
    obtain hd | ⟨l, hl, he, hd⟩ := dropExpired_cases b t <;> rw [hd] at hmem
    · exact (Option.some.inj (ho.symm.trans hmem)).symm
    · cases hmem
  · cases howner : (b.dropExpired t).ownerId with
    | none => simp
    | some owner =>
      refine ⟨fun h => (by cases h), fun h => absurd ?_ ho⟩
      obtain hd | ⟨l, hl, he, hd⟩ := dropExpired_cases b t <;> rw [hd] at howner
      · rw [howner, h owner rfl]
      · cases howner

/-- after a release the lock names its live owner exactly when its lease had not run out, or it was the player's own -/
theorem releaseLock_live (b : BuildAuthority) (p : String) (t : ℕ) :
    ((b.releaseLock p).2.dropExpired t).ownerId = (b.releaseLock p).2.ownerId ↔
      ∀ l ∈ b.lock, l.ownerId = p ∨ l.expired t = false := by
  unfold releaseLock
  cases hl : b.lock with
  | none => simp [ownerId, dropExpired, hl]
  | some l =>
    by_cases ho : l.ownerId = p
    · simp [ownerId, dropExpired, hl, ho]
    · cases he : l.expired t <;> simp [ownerId, dropExpired, hl, ho, he]

end BuildAuthority

end KerMP
