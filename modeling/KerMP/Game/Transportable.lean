/-
What the game's mod makes of a value before it sends it to the host (`_json_value` in `kermp_mod/hooks.py`).

The keyword arguments of an interaction are whatever the game passes: plain values, containers, and objects of the
engine. Lists and tuples become lists. An object becomes the int of its `value` (an enumeration), or a dict of eight
attributes, or its `repr`. A dict has none of these attributes and no `value`, so it becomes its `repr` as well. From the
sixth level on a value is returned as it is.

- `jsonValue`: the function, with the level it is at. `encode`, `dumps`: what `json.dumps` writes, and its `TypeError`.
- `Below`: the values the function comes to, by level.
- `json_value_transports`: the result can be written, and plain values come out as they were, exactly when no object
  is on the sixth level, and no dict above it in a plain value.
- `not_transported`: a result that cannot be written, and a dict that becomes a string.
-/
import KerMP.Lib.Dumps

namespace KerMP.Game

open Py

/-! ## Values -/

/-- a value of the game. Of an object: the name of its type, its `repr`, `int(x.value)` (none: it has no `value`, or one
that is no number), and the attributes that can be read -/
inductive GameValue where
  | null
  | bool (b : Bool)
  | int (n : ℤ)
  | float (x : Flt)
  | str (s : String)
  | list (xs : List GameValue)
  | tuple (xs : List GameValue)
  | dict (kvs : List (String × GameValue))
  | object (typeName repr : String) (number : Option ℤ) (attrs : List (String × GameValue))

namespace GameValue

mutual
/-- `repr(x)` -/
def repr : GameValue → String
  | .null => "None"
  | .bool b => if b then "True" else "False"
  | .int n => toString n
  | .float x => x.repr
  | .str s => Py.reprStr s
  | .list xs => "[" ++ reprItems xs ++ "]"
  | .tuple [x] => "(" ++ repr x ++ ",)"
  | .tuple xs => "(" ++ reprItems xs ++ ")"
  | .dict kvs => "\x7b" ++ reprFields kvs ++ "\x7d"
  | .object _ r _ _ => r
def reprItems : List GameValue → String
  | [] => ""
  | [x] => repr x
  | x :: xs => repr x ++ ", " ++ reprItems xs
def reprFields : List (String × GameValue) → String
  | [] => ""
  | [(k, x)] => Py.reprStr k ++ ": " ++ repr x
  | (k, x) :: kvs => Py.reprStr k ++ ": " ++ repr x ++ ", " ++ reprFields kvs
end

mutual
/-- the JSON value that `json.dumps` writes; a tuple is written as a list, an object cannot be -/
def encode : GameValue → Except Exc Json
  | .null => .ok .null
  | .bool b => .ok (.bool b)
  | .int n => .ok (.int n)
  | .float x => .ok (.float x)
  | .str s => .ok (.str s)
  | .list xs => do return .arr (← encodeItems xs)
  | .tuple xs => do return .arr (← encodeItems xs)
  | .dict kvs => do return .obj (← encodeFields kvs)
  | .object t _ _ _ => .error (.typeError ("Object of type " ++ t ++ " is not JSON serializable"))
def encodeItems : List GameValue → Except Exc (List Json)
  | [] => .ok []
  | x :: xs => do return (← encode x) :: (← encodeItems xs)
def encodeFields : List (String × GameValue) → Except Exc (List (String × Json))
  | [] => .ok []
  | (k, x) :: kvs => do return (k, ← encode x) :: (← encodeFields kvs)
end

/-- `json.dumps(x, separators=(",", ":"))` -/
def dumps (v : GameValue) : Except Exc String := do return (← encode v).dumpsSeparated "," ":"

/-! ## The function -/

/-- the attributes that are sent of an object -/
def ATTRIBUTES : List String := ["x", "y", "z", "w", "primary_id", "secondary_id", "type", "level"]

/-- `text[:500]` -/
def clip (text : String) : String := String.ofList (text.toList.take 500)

/-- the dict of the attributes there are, with their values as they are sent; the `repr` when there are none -/
def describe (repr : String) (attrs : List (String × GameValue)) : GameValue :=
  let result := ATTRIBUTES.filterMap fun name => (attrs.lookup name).map fun v => (name, v)
  if result.isEmpty then .str (clip repr) else .dict result

mutual
def jsonValue (depth : ℕ) : GameValue → GameValue
  | .list xs => if 5 < depth then .list xs else .list (jsonItems (depth + 1) xs)
  | .tuple xs => if 5 < depth then .tuple xs else .list (jsonItems (depth + 1) xs)
  | .dict kvs => if 5 < depth then .dict kvs else .str (clip (repr (.dict kvs)))
  | .object t r number attrs =>
    if 5 < depth then .object t r number attrs
    else
      match number with
      | some n => .int n
      | none => describe r (jsonAttrs (depth + 1) attrs)
  | v => v
def jsonItems (depth : ℕ) : List GameValue → List GameValue
  | [] => []
  | x :: xs => jsonValue depth x :: jsonItems depth xs
def jsonAttrs (depth : ℕ) : List (String × GameValue) → List (String × GameValue)
  | [] => []
  | (k, x) :: kvs => (k, jsonValue depth x) :: jsonAttrs depth kvs
end

/-! ## Kinds of values -/

mutual
/-- no object anywhere in it -/
def objectless : GameValue → Bool
  | .list xs => objectlessItems xs
  | .tuple xs => objectlessItems xs
  | .dict kvs => objectlessFields kvs
  | .object _ _ _ _ => false
  | _ => true
def objectlessItems : List GameValue → Bool
  | [] => true
  | x :: xs => objectless x && objectlessItems xs
def objectlessFields : List (String × GameValue) → Bool
  | [] => true
  | (_, x) :: kvs => objectless x && objectlessFields kvs
end

mutual
/-- made only of None, booleans, numbers, strings, lists and dicts -/
def plain : GameValue → Bool
  | .list xs => plainItems xs
  | .tuple _ => false
  | .dict kvs => plainFields kvs
  | .object _ _ _ _ => false
  | _ => true
def plainItems : List GameValue → Bool
  | [] => true
  | x :: xs => plain x && plainItems xs
def plainFields : List (String × GameValue) → Bool
  | [] => true
  | (_, x) :: kvs => plain x && plainFields kvs
end

def isDict : GameValue → Bool
  | .dict _ => true
  | _ => false

/-- the values n levels below a value: items of lists and tuples, and attributes of objects that are no enumeration -/
inductive Below : ℕ → GameValue → GameValue → Prop where
  | here (v : GameValue) : Below 0 v v
  | item {n : ℕ} {xs : List GameValue} {x w : GameValue} (hx : x ∈ xs) (h : Below n x w) : Below (n + 1) (.list xs) w
  | tupleItem {n : ℕ} {xs : List GameValue} {x w : GameValue} (hx : x ∈ xs) (h : Below n x w) :
      Below (n + 1) (.tuple xs) w
  | attr {n : ℕ} {t r : String} {attrs : List (String × GameValue)} {name : String} {x w : GameValue}
      (hname : name ∈ ATTRIBUTES) (hx : attrs.lookup name = some x) (h : Below n x w) :
      Below (n + 1) (.object t r none attrs) w

/-! ## Lists of values -/

theorem jsonItems_eq (depth : ℕ) (xs : List GameValue) : jsonItems depth xs = xs.map (jsonValue depth) := by
  induction xs with
  | nil => rfl
  | cons x xs ih => rw [jsonItems, ih, List.map_cons]

theorem lookup_jsonAttrs (depth : ℕ) (attrs : List (String × GameValue)) (name : String) :
    (jsonAttrs depth attrs).lookup name = (attrs.lookup name).map (jsonValue depth) := by
  induction attrs with
  | nil => rfl
  | cons kv attrs ih =>
    obtain ⟨k, x⟩ := kv
    simp only [jsonAttrs, List.lookup_cons, ih]
    split <;> rfl

theorem objectlessItems_iff {xs : List GameValue} : objectlessItems xs = true ↔ ∀ x ∈ xs, objectless x = true := by
  induction xs with
  | nil => simp [objectlessItems]
  | cons x xs ih => simp [objectlessItems, ih]

theorem objectlessFields_iff {kvs : List (String × GameValue)} :
    objectlessFields kvs = true ↔ ∀ kv ∈ kvs, objectless kv.2 = true := by
  induction kvs with
  | nil => simp [objectlessFields]
  | cons kv kvs ih => simp [objectlessFields, ih]

theorem plainItems_iff {xs : List GameValue} : plainItems xs = true ↔ ∀ x ∈ xs, plain x = true := by
  induction xs with
  | nil => simp [plainItems]
  | cons x xs ih => simp [plainItems, ih]

mutual
/-- `json.dumps` takes a value without objects -/
theorem encode_iff : ∀ v : GameValue, (∃ j, encode v = .ok j) ↔ objectless v = true
  | .null | .bool _ | .int _ | .float _ | .str _ => by simp [encode, objectless]
  | .list xs | .tuple xs => by
    have h := encodeItems_iff xs
    cases hx : encodeItems xs <;> simp [encode, objectless, hx, ← h]
  | .dict kvs => by
    have h := encodeFields_iff kvs
    cases hx : encodeFields kvs <;> simp [encode, objectless, hx, ← h]
  | .object _ _ _ _ => by simp [encode, objectless]
theorem encodeItems_iff : ∀ xs : List GameValue, (∃ js, encodeItems xs = .ok js) ↔ objectlessItems xs = true
  | [] => by simp [encodeItems, objectlessItems]
  | x :: xs => by
    have h := encode_iff x
    have hs := encodeItems_iff xs
    cases hx : encode x <;> cases hxs : encodeItems xs <;> simp [encodeItems, objectlessItems, hx, hxs, ← h, ← hs]
theorem encodeFields_iff : ∀ kvs : List (String × GameValue),
    (∃ js, encodeFields kvs = .ok js) ↔ objectlessFields kvs = true
  | [] => by simp [encodeFields, objectlessFields]
  | (k, x) :: kvs => by
    have h := encode_iff x
    have hs := encodeFields_iff kvs
    cases hx : encode x <;> cases hxs : encodeFields kvs <;>
      simp [encodeFields, objectlessFields, hx, hxs, ← h, ← hs]
end

theorem dumps_iff (v : GameValue) : (∃ text, v.dumps = .ok text) ↔ v.objectless = true := by
  rw [← encode_iff v, dumps]
  cases encode v <;> simp

/-! ## Level by level -/

theorem below_zero {v w : GameValue} : Below 0 v w ↔ w = v := by
  constructor
  · intro h
    cases h
    rfl
  · rintro rfl
    exact .here w

theorem below_list {n : ℕ} {xs : List GameValue} {w : GameValue} :
    Below (n + 1) (.list xs) w ↔ ∃ x ∈ xs, Below n x w := by
  constructor
  · intro h
    cases h with
    | item hx h => exact ⟨_, hx, h⟩
  · intro ⟨x, hx, h⟩
    exact .item hx h

theorem below_tuple {n : ℕ} {xs : List GameValue} {w : GameValue} :
    Below (n + 1) (.tuple xs) w ↔ ∃ x ∈ xs, Below n x w := by
  constructor
  · intro h
    cases h with
    | tupleItem hx h => exact ⟨_, hx, h⟩
  · intro ⟨x, hx, h⟩
    exact .tupleItem hx h

theorem below_object {n : ℕ} {t r : String} {attrs : List (String × GameValue)} {w : GameValue} :
    Below (n + 1) (.object t r none attrs) w ↔ ∃ name ∈ ATTRIBUTES, ∃ x, attrs.lookup name = some x ∧ Below n x w := by
  constructor
  · intro h
    cases h with
    | attr hname hx h => exact ⟨_, hname, _, hx, h⟩
  · intro ⟨name, hname, x, hx, h⟩
    exact .attr hname hx h

theorem jsonValue_deep {depth : ℕ} (h : 5 < depth) (v : GameValue) : jsonValue depth v = v := by
  cases v <;> simp [jsonValue, h]

/-- an object that is described has no object in it exactly when none of the attributes sent has one -/
theorem objectless_describe {r : String} {attrs : List (String × GameValue)} : (describe r attrs).objectless = true ↔
    ∀ name ∈ ATTRIBUTES, ∀ x, attrs.lookup name = some x → x.objectless = true := by
  have hitems : (∀ kv ∈ ATTRIBUTES.filterMap fun name => (attrs.lookup name).map fun v => (name, v),
      kv.2.objectless = true) ↔ ∀ name ∈ ATTRIBUTES, ∀ x, attrs.lookup name = some x → x.objectless = true := by
    simp only [List.mem_filterMap, Option.map_eq_some_iff]
    constructor
    · intro h name hname x hx
      exact h (name, x) ⟨name, hname, x, hx, rfl⟩
    · rintro h kv ⟨name, hname, x, hx, rfl⟩
      exact h name hname x hx
  unfold describe
  dsimp only
  split_ifs with hempty
  · rw [List.isEmpty_iff.1 hempty] at hitems
    exact ⟨fun _ => hitems.1 nofun, fun _ => rfl⟩
  · rw [objectless, objectlessFields_iff, hitems]

/-- the result has no object in it exactly when the sixth level has none -/
theorem objectless_jsonValue (n : ℕ) {depth : ℕ} (v : GameValue) (hdepth : depth + n = 6) :
    (jsonValue depth v).objectless = true ↔ ∀ w, Below n v w → w.objectless = true := by
  induction n generalizing depth v with
  | zero =>
    rw [jsonValue_deep (by omega)]
    simp [below_zero]
  | succ n ih =>
    have hlevel : ¬ 5 < depth := by omega
    have ih' : ∀ x, (jsonValue (depth + 1) x).objectless = true ↔ ∀ w, Below n x w → w.objectless = true :=
      fun x => ih x (by omega)
    have hitems : ∀ xs : List GameValue, (GameValue.list (jsonItems (depth + 1) xs)).objectless = true ↔
        ∀ w x, x ∈ xs → Below n x w → w.objectless = true := by
      intro xs
      simp only [objectless, jsonItems_eq, objectlessItems_iff, List.forall_mem_map, ih']
      exact ⟨fun h w x hx => h x hx w, fun h x hx w => h w x hx⟩
    cases v with
    | list xs =>
      simp only [jsonValue, if_neg hlevel, hitems, below_list]
      exact ⟨fun h w ⟨x, hx, hw⟩ => h w x hx hw, fun h w x hx hw => h w ⟨x, hx, hw⟩⟩
    | tuple xs =>
      simp only [jsonValue, if_neg hlevel, hitems, below_tuple]
      exact ⟨fun h w ⟨x, hx, hw⟩ => h w x hx hw, fun h w x hx hw => h w ⟨x, hx, hw⟩⟩
    | dict kvs =>
      simp only [jsonValue, if_neg hlevel, objectless, true_iff]
      intro w h
      cases h
    | object t r number attrs =>
      cases number with
      | some k =>
        simp only [jsonValue, if_neg hlevel, objectless, true_iff]
        intro w h
        cases h
      | none =>
        simp only [jsonValue, if_neg hlevel, objectless_describe, lookup_jsonAttrs, Option.map_eq_some_iff, below_object]
        constructor
        · intro h w ⟨name, hname, x, hx, hw⟩
          exact (ih' x).1 (h name hname _ ⟨x, hx, rfl⟩) w hw
        · rintro h name hname _ ⟨x, hx, rfl⟩
          exact (ih' x).2 fun w hw => h w ⟨name, hname, x, hx, hw⟩
    | _ =>
      simp only [jsonValue, objectless, true_iff]
      intro w h
      cases h

/-- a plain value comes out as it is exactly when no dict lies above the sixth level -/
theorem jsonValue_plain (n : ℕ) {depth : ℕ} (v : GameValue) (hdepth : depth + n = 6) (hplain : v.plain = true) :
    jsonValue depth v = v ↔ ∀ m < n, ∀ w, Below m v w → w.isDict = false := by
  induction n generalizing depth v with
  | zero =>
    rw [jsonValue_deep (by omega)]
    simp
  | succ n ih =>
    have hlevel : ¬ 5 < depth := by omega
    have hscalar : ∀ v : GameValue, v.isDict = false → (∀ m w, ¬ Below (m + 1) v w) →
        ∀ m < n + 1, ∀ w, Below m v w → w.isDict = false := by
      intro v hv hnone m _ w h
      cases m with
      | zero => rw [below_zero.1 h, hv]
      | succ m => exact absurd h (hnone m w)
    cases v with
    | list xs =>
      have hxs := plainItems_iff.1 hplain
      have ih' : ∀ x ∈ xs, (jsonValue (depth + 1) x = x ↔ ∀ m < n, ∀ w, Below m x w → w.isDict = false) :=
        fun x hx => ih x (by omega) (hxs x hx)
      have hsame : jsonValue depth (.list xs) = .list xs ↔ ∀ x ∈ xs, jsonValue (depth + 1) x = x := by
        have hid : xs.map (jsonValue (depth + 1)) = xs ↔ xs.map (jsonValue (depth + 1)) = xs.map id := by rw [List.map_id]
        simp only [jsonValue, if_neg hlevel, jsonItems_eq, GameValue.list.injEq, hid, List.map_inj_left, id]
      rw [hsame]
      constructor
      · intro h m hm w hw
        cases m with
        | zero =>
          rw [below_zero.1 hw]
          rfl
        | succ m =>
          obtain ⟨x, hx, hw⟩ := below_list.1 hw
          exact (ih' x hx).1 (h x hx) m (by omega) w hw
      · intro h x hx
        exact (ih' x hx).2 fun m hm w hw => h (m + 1) (by omega) w (.item hx hw)
    | dict kvs =>
      simp only [jsonValue, if_neg hlevel, reduceCtorEq, false_iff]
      intro h
      exact absurd (h 0 (by omega) _ (.here _)) (by simp [isDict])
    | tuple xs => cases hplain
    | object t r number attrs => cases hplain
    | _ => exact ⟨fun _ => hscalar _ rfl nofun, fun _ => rfl⟩

/-- **Which values are transported.** The result can be written by `json.dumps`, and a value made only of None, booleans,
numbers, strings, lists and dicts comes out as it is, if and only if no object is in a value on the sixth level below,
and no dict is among the values on the levels above in a value of that kind. -/
theorem json_value_transports (v : GameValue) :
    ((∃ text, (jsonValue 0 v).dumps = .ok text) ∧ (v.plain = true → jsonValue 0 v = v)) ↔
      (∀ w, Below 6 v w → w.objectless = true) ∧
        (v.plain = true → ∀ n < 6, ∀ w, Below n v w → w.isDict = false) := by
  rw [dumps_iff, objectless_jsonValue 6 v rfl]
  exact and_congr_right fun _ => forall_congr' fun hplain => jsonValue_plain 6 v rfl hplain

/-- an object in six lists stays an object, and the message cannot be written; a keyword argument that is a dict reaches
the host as the text of that dict -/
theorem not_transported : (¬ ∀ v : GameValue, ∃ text, (jsonValue 0 v).dumps = .ok text) ∧
    ¬ ∀ v : GameValue, v.plain = true → jsonValue 0 v = v := by
  constructor
  · intro h
    obtain ⟨text, hok⟩ := h (.list [.list [.list [.list [.list [.list
      [.object "Vector3" "Vector3(0, 0, 0)" none [("x", .float (.dec false 0 0))]]]]]]])
    cases hok
  · intro h
    have hsame := h (.dict [("count", .int 1)]) rfl
    simp [jsonValue] at hsame

end GameValue

end KerMP.Game
