/-
The Build/Buy boundary of the game's mod (`kermp_mod/build_adapter.py`).

The mod checks an operation on its own before it applies it. Its tables and its order of checks differ from the host's
(`validateBuildData`): there an `object.create` needs no object id, here it does.

- `normalizeOperation`: `normalize_operation`.
- `sequenced_readable`: a sequenced operation can be read by the game, with the same ids, exactly when it is not an
  `object.create` without an object id.
- `unreadable_create`: one that the host accepts and no game reads.
-/
import KerMP.Host.Net

namespace KerMP.Game

open Py

/-! ## Normalization -/

def OBJECT_OPERATIONS : List String :=
  ["object.create", "object.destroy", "object.move", "object.definition", "object.scale", "object.set_parent",
    "object.clear_parent", "funds.modify", "wall.create", "wall.delete"]

def OBJECT_ID_OPERATIONS : List String :=
  OBJECT_OPERATIONS.filter fun op => !(["wall.create", "wall.delete", "funds.modify"].contains op)

/-- the ids that are turned into strings -/
def GAME_ID_KEYS : List String := ["object_id", "parent_id", "definition_id", "household_id", "zone_id"]

structure GameOperation where
  op : String
  data : List (String × Json)
  opId : Option String
deriving DecidableEq

/-- `payload.get('op_id', payload.get('op_seq'))`, as a str unless it is None -/
def operationId (payload : Json) : Except Exc (Option String) := do
  let opId ← payload.getD "op_id" (← payload.get "op_seq")
  return if opId = .null then none else some opId.toStr

def normalizeOperation (payload : Json) : Except Exc GameOperation := do
  let payload := payload.or (.obj [])
  let data := (← payload.get "data").or (.obj [])
  let op := ((← payload.get "op").or (.str "")).toStr
  require (OBJECT_OPERATIONS.contains op) (.valueError ("unsupported build operation: " ++ op))
  let data ← data.toDict
  require (!(OBJECT_ID_OPERATIONS.contains op && blank data "object_id")) (.valueError "object_id is required")
  require (!(op == "object.create" && blank data "definition_id")) (.valueError "definition_id is required")
  require (!(op == "funds.modify" && blank data "household_id")) (.valueError "household_id is required")
  return ⟨op, GAME_ID_KEYS.foldl strId data, ← operationId payload⟩

/-! ## Ids -/

/-- an id as a str, None left as it is -/
def idStr : Json → Json
  | .null => .null
  | v => .str v.toStr

theorem toStr_idStr (v : Json) : (idStr v).toStr = v.toStr := by cases v <;> rfl

theorem idStr_idStr (v : Json) : idStr (idStr v) = idStr v := by cases v <;> rfl

theorem lookup_strId (data : List (String × Json)) (key k : String) :
    (strId data key).lookup k = if k = key then (data.lookup k).map idStr else data.lookup k := by
  unfold strId
  split
  · rename_i hnone
    split_ifs with hk
    · rw [hk, hnone, Option.map_none]
    · rfl
  · rename_i hnull
    split_ifs with hk
    · rw [hk, hnull]
      rfl
    · rfl
  · rename_i v hne hsome
    rw [Json.lookup_setField]
    split_ifs with hk
    · have hid : idStr v = .str v.toStr := by
        cases v with
        | null => exact absurd rfl hne
        | _ => rfl
      rw [hk, hsome, Option.map_some, hid]
    · rfl

/-- the ids among the keys are strings afterwards, everything else is as before -/
theorem lookup_strIds (keys : List String) (data : List (String × Json)) (k : String) :
    (keys.foldl strId data).lookup k = if k ∈ keys then (data.lookup k).map idStr else data.lookup k := by
  induction keys generalizing data with
  | nil => simp
  | cons key keys ih =>
    rw [List.foldl_cons, ih, lookup_strId]
    by_cases hk : k = key
    · by_cases hmem : k ∈ keys
      · simp [hk, hk ▸ hmem, Option.map_map, Function.comp_def, idStr_idStr]
      · simp [hk, hk ▸ hmem]
    · by_cases hmem : k ∈ keys <;> simp [hk, hmem]

theorem blank_strIds (keys : List String) (data : List (String × Json)) (k : String) :
    blank (keys.foldl strId data) k = blank data k := by
  unfold blank Json.field
  rw [lookup_strIds]
  split_ifs
  · cases data.lookup k with
    | none => rfl
    | some v => simp [toStr_idStr]
  · rfl

/-! ## Sequenced operations -/

/-- what the host's validation lets through -/
theorem validateBuildData_ok {op : String} {data d : List (String × Json)} (h : validateBuildData op data = .ok d) :
    OBJECT_OPERATIONS.contains op = true ∧ d = ID_KEYS.foldl strId data ∧
      ("object.".isPrefixOf op = true → blank data "object_id" = true → op = "object.create") ∧
      (op = "object.create" → blank data "definition_id" = false) ∧
      (op = "funds.modify" → blank data "household_id" = false) := by
  unfold validateBuildData at h
  obtain ⟨_, hop, h⟩ := bind_ok h
  obtain ⟨_, -, h⟩ := bind_ok h
  obtain ⟨_, -, h⟩ := bind_ok h
  dsimp only at h
  simp only [blank_strIds] at h
  obtain ⟨_, hobject, h⟩ := bind_ok h
  obtain ⟨_, hdefinition, h⟩ := bind_ok h
  obtain ⟨_, hhousehold, h⟩ := bind_ok h
  obtain ⟨_, -, h⟩ := bind_ok h
  cases h
  refine ⟨require_ok hop, rfl, fun hp hb => ?_, fun ho => ?_, fun ho => ?_⟩
  · simpa [hp, hb] using require_ok hobject
  · simpa [ho] using require_ok hdefinition
  · simpa [ho] using require_ok hhousehold

/-- a `build.apply` payload is read by its ids alone -/
theorem normalize_buildApply {o : BuildOperation} (hop : OBJECT_OPERATIONS.contains o.op = true) :
    normalizeOperation (Host.buildApply o) = (do
      require (!(OBJECT_ID_OPERATIONS.contains o.op && blank o.data "object_id")) (.valueError "object_id is required")
      require (!(o.op == "object.create" && blank o.data "definition_id")) (.valueError "definition_id is required")
      require (!(o.op == "funds.modify" && blank o.data "household_id")) (.valueError "household_id is required")
      return ⟨o.op, GAME_ID_KEYS.foldl strId o.data, some (toString (o.seq : ℤ))⟩) := by
  have hne : o.op ≠ "" := by
    intro he
    rw [he] at hop
    revert hop
    decide
  have hdata : ((Json.obj o.data).or (.obj [])).toDict = .ok o.data := by
    cases hd : o.data with
    | nil => rfl
    | cons f data => rfl
  have hstr : ((Json.str o.op).or (.str "")).toStr = o.op := by simp [Json.or, Json.truthy, hne]
  have hpayload : (Host.buildApply o).or (.obj []) = Host.buildApply o := rfl
  have hid : operationId (Host.buildApply o) = .ok (some (toString (o.seq : ℤ))) := rfl
  have hopname : (Host.buildApply o).get "op" = .ok (.str o.op) := rfl
  have hdataname : (Host.buildApply o).get "data" = .ok (.obj o.data) := rfl
  unfold normalizeOperation
  simp only [hpayload, hid, hopname, hdataname, hdata, hstr, hop, require, ok_bind, if_true]

/-- the game reads the operation as the host has sequenced it: the same op, and the same ids -/
def Readable (o : BuildOperation) : Prop :=
  ∃ n, normalizeOperation (Host.buildApply o) = .ok n ∧ n.op = o.op ∧
    ∀ key ∈ GAME_ID_KEYS, n.data.lookup key = o.data.lookup key

/-- the operations on an object need its id in the game, with no exception for `object.create` -/
theorem objectId_operation {op : String} (hop : OBJECT_OPERATIONS.contains op = true) :
    OBJECT_ID_OPERATIONS.contains op = "object.".isPrefixOf op := by
  rw [List.contains_iff_mem] at hop
  simp only [OBJECT_OPERATIONS, List.mem_cons, List.not_mem_nil, or_false] at hop
  rcases hop with rfl | rfl | rfl | rfl | rfl | rfl | rfl | rfl | rfl | rfl <;> decide +kernel

/-- the ids the game turns into strings are strings already -/
theorem strIds_again (data : List (String × Json)) {key : String} (hkey : key ∈ GAME_ID_KEYS) :
    (GAME_ID_KEYS.foldl strId (ID_KEYS.foldl strId data)).lookup key = (ID_KEYS.foldl strId data).lookup key := by
  have hmem : key ∈ ID_KEYS := by
    revert hkey
    simp only [GAME_ID_KEYS, ID_KEYS, List.mem_cons, List.not_mem_nil, or_false]
    tauto
  rw [lookup_strIds, if_pos hkey, lookup_strIds, if_pos hmem, Option.map_map]
  exact congrArg (fun f => (data.lookup key).map f) (funext idStr_idStr)

/-- **What the host sequences, the game can read**, unless it is an `object.create` without an object id. -/
theorem sequenced_readable {b b' : BuildAuthority} {p op : String} {data : List (String × Json)} {t₁ t₂ : ℕ}
    {o : BuildOperation} (h : b.submit p op data t₁ t₂ = (.ok o, b')) :
    Readable o ↔ (op = "object.create" → blank data "object_id" = false) := by
  obtain ⟨-, ⟨d, hd, rfl⟩, -⟩ := BuildAuthority.submit_ok h
  obtain ⟨hop, rfl, hobject, hdefinition, hhousehold⟩ := validateBuildData_ok hd
  unfold Readable
  rw [normalize_buildApply hop]
  simp only [blank_strIds, objectId_operation hop]
  have hdef : (!(op == "object.create" && blank data "definition_id")) = true := by
    by_cases ho : op = "object.create" <;> simp [ho, hdefinition]
  have hhouse : (!(op == "funds.modify" && blank data "household_id")) = true := by
    by_cases ho : op = "funds.modify" <;> simp [ho, hhousehold]
  rw [hdef, hhouse]
  constructor
  · rintro ⟨n, hn, -, -⟩ rfl
    obtain ⟨_, hid, -⟩ := bind_ok hn
    have hobjects : "object.".isPrefixOf "object.create" = true := by decide +kernel
    simpa [hobjects] using require_ok hid
  · intro hcreate
    have hid : (!("object.".isPrefixOf op && blank data "object_id")) = true := by
      rw [Bool.not_eq_true', Bool.and_eq_false_iff]
      by_contra hb
      push Not at hb
      obtain ⟨hobjects, hblank⟩ := hb
      rw [ne_eq, Bool.not_eq_false] at hobjects hblank
      rw [hcreate (hobject hobjects hblank)] at hblank
      cases hblank
    rw [hid]
    refine ⟨_, rfl, rfl, ?_⟩
    intro key hkey
    dsimp only
    exact strIds_again data hkey

/-- the host holding the build lock -/
def hostLocked : BuildAuthority := (BuildAuthority.init.requestLock "host" 0 0 0).2

/-- an object that the host's game moved, with a numeric id -/
theorem sequenced_readable_move :
    Readable ⟨"build-1", 1, "host", "object.move", [("object_id", .str "7")]⟩ := by
  have hsubmit : hostLocked.submit "host" "object.move" [("object_id", .int 7)] 1 2 =
      (.ok ⟨"build-1", 1, "host", "object.move", [("object_id", .str "7")]⟩,
        (hostLocked.submit "host" "object.move" [("object_id", .int 7)] 1 2).2) := by
    decide +kernel
  exact (sequenced_readable hsubmit).2 fun h => absurd h (by decide)

/-- an `object.create` with its definition alone: sequenced, and no game can read it -/
theorem unreadable_create :
    (hostLocked.submit "host" "object.create" [("definition_id", .str "2")] 1 2).1 =
        .ok ⟨"build-1", 1, "host", "object.create", [("definition_id", .str "2")]⟩ ∧
      normalizeOperation (Host.buildApply ⟨"build-1", 1, "host", "object.create", [("definition_id", .str "2")]⟩) =
        .error (.valueError "object_id is required") := by
  decide +kernel

end KerMP.Game
