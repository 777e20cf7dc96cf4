/-
What `_validate_build_data` lets through (`kermp/buildsync.py`).

It checks the sizes first, turns the ids into strings next, and asks for the required ids last. The strings that are
made of ids are not measured again, and an id that is null reads as `"None"`, which is not empty. So what is checked is
not always what is returned.

- `WithinBounds`: the sizes, the ids and the amount of a result, and that it passes again.
- `validated_within_bounds`: an accepted operation is within bounds exactly when its ids are `PlainIds`.
- `null_object_id`: a move of no object at all is accepted.
-/
import KerMP.Game.BuildAdapter

namespace KerMP

open Py Game

/-! ## What is claimed -/

/-- a non-null id, as a string -/
def HasId (data : List (String × Json)) (key : String) : Prop := ∃ s, s ≠ "" ∧ data.lookup key = some (.str s)

/-- numbers are ints and floats; the booleans that Python counts among the ints are not -/
def IsAmount : Json → Prop
  | .int _ | .float _ => True
  | _ => False

/-- an operation on an object that exists -/
def OnObject (op : String) : Prop := "object.".isPrefixOf op = true ∧ op ≠ "object.create"

instance (op : String) : Decidable (OnObject op) := inferInstanceAs (Decidable (_ ∧ _))

structure WithinBounds (op : String) (data : List (String × Json)) : Prop where
  keys : data.length ≤ MAX_BUILD_DATA_KEYS
  key : ∀ kv ∈ data, kv.1.length ≤ 128
  value : ∀ kv ∈ data, ∀ s, kv.2 = .str s → s.length ≤ MAX_BUILD_VALUE_LENGTH
  object : OnObject op → HasId data "object_id"
  definition : op = "object.create" → HasId data "definition_id"
  household : op = "funds.modify" → HasId data "household_id"
  amount : op = "funds.modify" → ∃ v, data.lookup "amount" = some v ∧ IsAmount v
  again : validateBuildData op data = .ok data

/-- ids that are short as strings, no null where an id is required, and no boolean for an amount -/
structure PlainIds (op : String) (data : List (String × Json)) : Prop where
  short : ∀ key ∈ ID_KEYS, ∀ v, data.lookup key = some v → v ≠ .null → v.toStr.length ≤ MAX_BUILD_VALUE_LENGTH
  object : OnObject op → data.lookup "object_id" ≠ some .null
  definition : op = "object.create" → data.lookup "definition_id" ≠ some .null
  household : op = "funds.modify" → data.lookup "household_id" ≠ some .null
  amount : op = "funds.modify" → ∀ b, data.lookup "amount" ≠ some (.bool b)

/-! ## Checked items -/

theorem checkItems_ok {data : List (String × Json)} : checkItems data = .ok () ↔
    ∀ kv ∈ data, kv.1.length ≤ 128 ∧ ∀ s, kv.2 = .str s → s.length ≤ MAX_BUILD_VALUE_LENGTH := by
  induction data with
  | nil => simp [checkItems]
  | cons kv data ih =>
    obtain ⟨key, v⟩ := kv
    rw [List.forall_mem_cons, ← ih]
    constructor
    · intro h
      obtain ⟨_, hkey, h⟩ := bind_ok h
      refine ⟨⟨by simpa using require_ok hkey, ?_⟩, ?_⟩
      · rintro s rfl
        obtain ⟨_, hs, -⟩ := bind_ok h
        simpa using require_ok hs
      · cases v with
        | str s =>
          obtain ⟨_, -, h⟩ := bind_ok h
          exact h
        | _ => exact h
    · rintro ⟨⟨hkey, hv⟩, h⟩
      have hkey' : require (key.length ≤ 128) (.valueError "invalid build operation key") = .ok () := by
        simpa [require] using hkey
      unfold checkItems
      rw [hkey', ok_bind]
      cases v with
      | str s =>
        have hs : require (s.length ≤ MAX_BUILD_VALUE_LENGTH) (.valueError "build operation value too large") =
            .ok () := by
          simpa [require] using hv s rfl
        dsimp only
        rw [hs, ok_bind, h]
      | _ => exact h

/-! ## Ids as strings -/

theorem mem_of_lookup {data : List (String × Json)} {key : String} {v : Json} (h : data.lookup key = some v) :
    (key, v) ∈ data := by
  obtain ⟨l₁, l₂, rfl, -⟩ := List.lookup_eq_some_iff.1 h
  simp

theorem mem_setField {data : List (String × Json)} {key : String} {v : Json} {kv : String × Json}
    (h : kv ∈ Json.setField data key v) : kv = (key, v) ∨ kv ∈ data ∧ kv.1 ≠ key := by
  unfold Json.setField at h
  split_ifs at h with hk
  · obtain ⟨p, hp, rfl⟩ := List.mem_map.1 h
    by_cases hkey : p.1 = key
    · simp [hkey]
    · simp [hkey, hp]
  · rcases List.mem_append.1 h with h | h
    · refine Or.inr ⟨h, fun he => hk ?_⟩
      rw [List.contains_iff_mem, ← he]
      exact List.mem_map_of_mem h
    · exact Or.inl (List.mem_singleton.1 h)

/-- nothing happens to an id that is missing or null, and any other is set to its string -/
theorem strId_cases (data : List (String × Json)) (key : String) :
    (strId data key = data ∧ ∀ v, data.lookup key = some v → v = .null) ∨
      ∃ v, data.lookup key = some v ∧ v ≠ .null ∧ strId data key = Json.setField data key (.str v.toStr) := by
  unfold strId
  split
  · rename_i hnone
    exact Or.inl ⟨rfl, fun v hv => by rw [hnone] at hv; cases hv⟩
  · rename_i hnull
    exact Or.inl ⟨rfl, fun v hv => by rw [hnull] at hv; cases hv; rfl⟩
  · rename_i v hne hsome
    exact Or.inr ⟨v, hsome, fun h => hne (by rw [h]), rfl⟩

theorem keys_strId (data : List (String × Json)) (key : String) :
    (strId data key).map Prod.fst = data.map Prod.fst := by
  obtain ⟨h, -⟩ | ⟨v, hv, -, h⟩ := strId_cases data key
  · rw [h]
  · have hmem : (data.map Prod.fst).contains key = true :=
      List.contains_iff_mem.2 (List.mem_map_of_mem (mem_of_lookup hv))
    rw [h]
    unfold Json.setField
    rw [if_pos hmem, List.map_map]
    refine List.map_congr_left fun kv _ => ?_
    by_cases hk : kv.1 = key <;> simp [hk]

theorem keys_strIds (keys : List String) (data : List (String × Json)) :
    (keys.foldl strId data).map Prod.fst = data.map Prod.fst := by
  induction keys generalizing data with
  | nil => rfl
  | cons key keys ih => rw [List.foldl_cons, ih, keys_strId]

/-- what was there before, or the string of an id -/
theorem mem_strIds {keys : List String} {data : List (String × Json)} {kv : String × Json}
    (h : kv ∈ keys.foldl strId data) :
    kv ∈ data ∨ kv.1 ∈ keys ∧ ∃ v, data.lookup kv.1 = some v ∧ v ≠ .null ∧ kv.2 = .str v.toStr := by
  induction keys generalizing data with
  | nil => exact Or.inl h
  | cons key keys ih =>
    have hback : ∀ v, (strId data key).lookup kv.1 = some v → v ≠ .null →
        ∃ v₀, data.lookup kv.1 = some v₀ ∧ v₀ ≠ .null ∧ v.toStr = v₀.toStr := by
      intro v hv hne
      rw [lookup_strId] at hv
      split_ifs at hv
      · obtain ⟨v₀, hv₀, rfl⟩ := Option.map_eq_some_iff.1 hv
        exact ⟨v₀, hv₀, fun h => hne (by rw [h]; rfl), toStr_idStr v₀⟩
      · exact ⟨v, hv, hne, rfl⟩
    rcases ih h with h | ⟨hk, v, hv, hne, he⟩
    · obtain ⟨hsame, -⟩ | ⟨v, hv, hne, hset⟩ := strId_cases data key
      · rw [hsame] at h
        exact Or.inl h
      · rw [hset] at h
        rcases mem_setField h with rfl | ⟨h, -⟩
        · exact Or.inr ⟨List.mem_cons_self, v, hv, hne, rfl⟩
        · exact Or.inl h
    · obtain ⟨v₀, hv₀, hne₀, hstr⟩ := hback v hv hne
      exact Or.inr ⟨List.mem_cons_of_mem _ hk, v₀, hv₀, hne₀, by rw [he, hstr]⟩

/-- an id that is null or missing, or is a string wherever it stands -/
def StringId (data : List (String × Json)) (key : String) : Prop :=
  ∀ v, data.lookup key = some v → v ≠ .null → ∀ kv ∈ data, kv.1 = key → kv.2 = .str v.toStr

theorem stringId_strId (data : List (String × Json)) (key : String) : StringId (strId data key) key := by
  intro v hv hne kv hkv hk
  obtain ⟨hsame, hnull⟩ | ⟨w, -, -, hset⟩ := strId_cases data key
  · rw [hsame] at hv
    exact absurd (hnull v hv) hne
  · rw [hset] at hv hkv
    rw [Json.lookup_setField, if_pos rfl] at hv
    cases hv
    rcases mem_setField hkv with rfl | ⟨-, hk'⟩
    · rfl
    · exact absurd hk hk'

/-- turning one id into a string leaves the others alone -/
theorem StringId.strId {data : List (String × Json)} {key : String} (h : StringId data key) (key' : String) :
    StringId (strId data key') key := by
  by_cases hkey : key = key'
  · rw [hkey]
    exact stringId_strId data key'
  intro v hv hne kv hkv hk
  rw [lookup_strId, if_neg hkey] at hv
  obtain ⟨hsame, -⟩ | ⟨w, -, -, hset⟩ := strId_cases data key'
  · rw [hsame] at hkv
    exact h v hv hne kv hkv hk
  · rw [hset] at hkv
    rcases mem_setField hkv with rfl | ⟨hmem, -⟩
    · exact absurd hk.symm hkey
    · exact h v hv hne kv hmem hk

theorem stringId_strIds {keys : List String} {data : List (String × Json)} {key : String}
    (h : key ∈ keys ∨ StringId data key) : StringId (keys.foldl KerMP.strId data) key := by
  induction keys generalizing data with
  | nil => exact h.resolve_left List.not_mem_nil
  | cons k keys ih =>
    refine ih ?_
    rcases h with h | h
    · rcases List.mem_cons.1 h with rfl | h
      · exact Or.inr (stringId_strId data key)
      · exact Or.inl h
    · exact Or.inr (h.strId k)

theorem StringId.strId_eq_self {data : List (String × Json)} {key : String} (h : StringId data key) :
    KerMP.strId data key = data := by
  obtain ⟨hsame, -⟩ | ⟨v, hv, hne, hset⟩ := strId_cases data key
  · exact hsame
  · rw [hset]
    have hmem : (data.map Prod.fst).contains key = true :=
      List.contains_iff_mem.2 (List.mem_map_of_mem (mem_of_lookup hv))
    unfold Json.setField
    rw [if_pos hmem]
    refine (List.map_congr_left fun kv hkv => ?_).trans (List.map_id data)
    split_ifs with hk
    · rw [← h v hv hne kv hkv hk, ← hk]
      rfl
    · rfl

/-- strings of ids are the strings of themselves -/
theorem strIds_strIds (keys : List String) (data : List (String × Json)) :
    keys.foldl strId (keys.foldl strId data) = keys.foldl strId data := by
  have hself : ∀ ks : List String, (∀ key ∈ ks, key ∈ keys) →
      ks.foldl strId (keys.foldl strId data) = keys.foldl strId data := by
    intro ks hks
    induction ks with
    | nil => rfl
    | cons key ks ih =>
      rw [List.foldl_cons, (stringId_strIds (Or.inl (hks key List.mem_cons_self))).strId_eq_self]
      exact ih fun k hk => hks k (List.mem_cons_of_mem _ hk)
  exact hself keys fun key hkey => hkey

/-! ## Refused operations -/

/-- whatever it raises is a ValueError -/
def RaisesValueErrors {α : Type} (x : Except Exc α) : Prop := ∀ e, x = .error e → e.isValueError = true

theorem raisesValueErrors_bind {α β : Type} {x : Except Exc α} {f : α → Except Exc β} (hx : RaisesValueErrors x)
    (hf : ∀ a, RaisesValueErrors (f a)) : RaisesValueErrors (x >>= f) := by
  intro e h
  cases x with
  | error e' =>
    cases h
    exact hx e rfl
  | ok a => exact hf a e h

theorem raisesValueErrors_require (b : Bool) (m : String) : RaisesValueErrors (require b (.valueError m)) := by
  intro e h
  unfold require at h
  split_ifs at h
  cases h
  rfl

theorem raisesValueErrors_ok {α : Type} (a : α) : RaisesValueErrors (.ok a) := by
  rintro e ⟨⟩

theorem checkItems_raises (data : List (String × Json)) : RaisesValueErrors (checkItems data) := by
  induction data with
  | nil => exact raisesValueErrors_ok ()
  | cons kv data ih =>
    obtain ⟨key, v⟩ := kv
    refine raisesValueErrors_bind (raisesValueErrors_require _ _) fun _ => ?_
    cases v with
    | str s => exact raisesValueErrors_bind (raisesValueErrors_require _ _) fun _ => ih
    | _ => exact ih

/-- every refusal is a ValueError -/
theorem validateBuildData_raises (op : String) (data : List (String × Json)) :
    RaisesValueErrors (validateBuildData op data) := by
  refine raisesValueErrors_bind (raisesValueErrors_require _ _) fun _ => ?_
  refine raisesValueErrors_bind (raisesValueErrors_require _ _) fun _ => ?_
  refine raisesValueErrors_bind (checkItems_raises data) fun _ => ?_
  refine raisesValueErrors_bind (raisesValueErrors_require _ _) fun _ => ?_
  refine raisesValueErrors_bind (raisesValueErrors_require _ _) fun _ => ?_
  refine raisesValueErrors_bind (raisesValueErrors_require _ _) fun _ => ?_
  refine raisesValueErrors_bind (raisesValueErrors_require _ _) fun _ => ?_
  exact raisesValueErrors_ok _

/-! ## Accepted operations -/

/-- the checks, one after another -/
theorem validateBuildData_iff {op : String} {data d : List (String × Json)} : validateBuildData op data = .ok d ↔
    OBJECT_OPERATIONS.contains op = true ∧ data.length ≤ MAX_BUILD_DATA_KEYS ∧ checkItems data = .ok () ∧
      (OnObject op → blank data "object_id" = false) ∧ (op = "object.create" → blank data "definition_id" = false) ∧
      (op = "funds.modify" → blank data "household_id" = false) ∧
      (op = "funds.modify" → isNumber (Json.field data "amount" .null) = true) ∧ ID_KEYS.foldl strId data = d := by
  have hamount : Json.field (ID_KEYS.foldl strId data) "amount" .null = Json.field data "amount" .null := by
    unfold Json.field
    rw [lookup_strIds, if_neg (by simp [ID_KEYS])]
  unfold validateBuildData
  simp only [blank_strIds, hamount]
  constructor
  · intro h
    obtain ⟨_, hop, h⟩ := bind_ok h
    obtain ⟨_, hlength, h⟩ := bind_ok h
    obtain ⟨_, hitems, h⟩ := bind_ok h
    obtain ⟨_, hobject, h⟩ := bind_ok h
    obtain ⟨_, hdefinition, h⟩ := bind_ok h
    obtain ⟨_, hhousehold, h⟩ := bind_ok h
    obtain ⟨_, hnumber, h⟩ := bind_ok h
    refine ⟨require_ok hop, by simpa using require_ok hlength, hitems, ?_, ?_, ?_, ?_, Except.ok.inj h⟩
    · rintro ⟨hstarts, hcreate⟩
      simpa [hstarts, hcreate] using require_ok hobject
    · intro ho
      simpa [ho] using require_ok hdefinition
    · intro ho
      simpa [ho] using require_ok hhousehold
    · intro ho
      simpa [ho] using require_ok hnumber
  · rintro ⟨hop, hlength, hitems, hobject, hdefinition, hhousehold, hnumber, rfl⟩
    have hobject' : (!("object.".isPrefixOf op && blank data "object_id" && op != "object.create")) = true := by
      by_cases ho : OnObject op
      · simp [hobject ho]
      · by_cases hp : "object.".isPrefixOf op = true
        · have hcreate : op = "object.create" := by
            by_contra hne
            exact ho ⟨hp, hne⟩
          simp [hcreate]
        · simp [hp]
    have hdefinition' : (!(op == "object.create" && blank data "definition_id")) = true := by
      by_cases ho : op = "object.create" <;> simp [ho, hdefinition]
    have hhousehold' : (!(op == "funds.modify" && blank data "household_id")) = true := by
      by_cases ho : op = "funds.modify" <;> simp [ho, hhousehold]
    have hnumber' : (!(op == "funds.modify" && !isNumber (Json.field data "amount" .null))) = true := by
      by_cases ho : op = "funds.modify" <;> simp [ho, hnumber]
    rw [hop, hobject', hdefinition', hhousehold', hnumber', hitems, decide_eq_true hlength]
    rfl

/-- a required id is there as a string, unless it was null -/
theorem hasId_iff {data : List (String × Json)} {key : String} (hkey : key ∈ ID_KEYS) (hblank : blank data key = false) :
    HasId (ID_KEYS.foldl strId data) key ↔ data.lookup key ≠ some .null := by
  unfold HasId
  rw [lookup_strIds, if_pos hkey]
  unfold blank Json.field at hblank
  cases hv : data.lookup key with
  | none =>
    rw [hv] at hblank
    cases hblank
  | some v =>
    rw [hv] at hblank
    cases v with
    | null => simp [idStr]
    | _ =>
      refine ⟨fun _ h => (by cases h), fun _ => ⟨_, ?_, rfl⟩⟩
      simpa using hblank

/-- a number is an amount unless it is a boolean -/
theorem amount_iff {data : List (String × Json)} (h : isNumber (Json.field data "amount" .null) = true) :
    (∃ v, data.lookup "amount" = some v ∧ IsAmount v) ↔ ∀ b, data.lookup "amount" ≠ some (.bool b) := by
  unfold Json.field at h
  cases hv : data.lookup "amount" with
  | none =>
    rw [hv] at h
    cases h
  | some v =>
    rw [hv] at h
    cases v <;> simp_all [isNumber, IsAmount]

/-- **Accepted operations.** What is returned is within bounds, and passes again as it is, exactly when the ids are short
as strings, no required id is null and no amount is a boolean. -/
theorem validated_within_bounds {op : String} {data result : List (String × Json)}
    (h : validateBuildData op data = .ok result) : WithinBounds op result ↔ PlainIds op data := by
  obtain ⟨hop, hlength, hitems, hobject, hdefinition, hhousehold, hnumber, rfl⟩ := validateBuildData_iff.1 h
  have hkeys := keys_strIds ID_KEYS data
  have hchecked := checkItems_ok.1 hitems
  have hlength' : (ID_KEYS.foldl strId data).length = data.length := by
    simpa using congrArg List.length hkeys
  have hmem : ∀ k, k ∈ ["object_id", "definition_id", "household_id"] → k ∈ ID_KEYS := by decide
  have hamount : (ID_KEYS.foldl strId data).lookup "amount" = data.lookup "amount" := by
    rw [lookup_strIds, if_neg (by simp [ID_KEYS])]
  have hbounded : ∀ kv ∈ ID_KEYS.foldl strId data, kv.1.length ≤ 128 := by
    intro kv hkv
    have hk : kv.1 ∈ data.map Prod.fst := hkeys ▸ List.mem_map_of_mem hkv
    obtain ⟨kv₀, hkv₀, he⟩ := List.mem_map.1 hk
    rw [← he]
    exact (hchecked kv₀ hkv₀).1
  constructor
  · intro hw
    refine ⟨?_, ?_, ?_, ?_, ?_⟩
    · intro key hkey v hv hne
      have hresult : (ID_KEYS.foldl strId data).lookup key = some (.str v.toStr) := by
        rw [lookup_strIds, if_pos hkey, hv]
        cases v with
        | null => exact absurd rfl hne
        | _ => rfl
      exact hw.value _ (mem_of_lookup hresult) _ rfl
    · exact fun ho => (hasId_iff (hmem _ (by simp)) (hobject ho)).1 (hw.object ho)
    · exact fun ho => (hasId_iff (hmem _ (by simp)) (hdefinition ho)).1 (hw.definition ho)
    · exact fun ho => (hasId_iff (hmem _ (by simp)) (hhousehold ho)).1 (hw.household ho)
    · intro ho
      have hthere := hw.amount ho
      rw [hamount] at hthere
      exact (amount_iff (hnumber ho)).1 hthere
  · intro hp
    -- the strings made of ids are short as well
    have hshort : ∀ kv ∈ ID_KEYS.foldl strId data, ∀ s, kv.2 = .str s → s.length ≤ MAX_BUILD_VALUE_LENGTH := by
      intro kv hkv s hs
      rcases mem_strIds hkv with hkv | ⟨hk, v, hv, hne, he⟩
      · exact (hchecked kv hkv).2 s hs
      · rw [he] at hs
        cases hs
        exact hp.short kv.1 hk v hv hne
    refine ⟨by rw [hlength']; exact hlength, hbounded, hshort, ?_, ?_, ?_, ?_, ?_⟩
    · exact fun ho => (hasId_iff (hmem _ (by simp)) (hobject ho)).2 (hp.object ho)
    · exact fun ho => (hasId_iff (hmem _ (by simp)) (hdefinition ho)).2 (hp.definition ho)
    · exact fun ho => (hasId_iff (hmem _ (by simp)) (hhousehold ho)).2 (hp.household ho)
    · intro ho
      rw [hamount]
      exact (amount_iff (hnumber ho)).2 (hp.amount ho)
    · have hnumber' : op = "funds.modify" →
          isNumber (Json.field (ID_KEYS.foldl strId data) "amount" .null) = true := by
        unfold Json.field at hnumber ⊢
        rwa [hamount]
      refine validateBuildData_iff.2 ⟨hop, by rw [hlength']; exact hlength, ?_, ?_, ?_, ?_, hnumber', strIds_strIds _ _⟩
      · exact checkItems_ok.2 fun kv hkv => ⟨hbounded kv hkv, hshort kv hkv⟩
      · exact fun ho => (blank_strIds _ _ _).trans (hobject ho)
      · exact fun ho => (blank_strIds _ _ _).trans (hdefinition ho)
      · exact fun ho => (blank_strIds _ _ _).trans (hhousehold ho)

/-- a payment to a household with a numeric id -/
theorem validated_payment : WithinBounds "funds.modify" [("household_id", .str "4"), ("amount", .int 250)] := by
  have h : validateBuildData "funds.modify" [("household_id", .int 4), ("amount", .int 250)] =
      .ok [("household_id", .str "4"), ("amount", .int 250)] := by
    decide +kernel
  exact (validated_within_bounds h).2
    { short := by decide +kernel
      object := by decide +kernel
      definition := by decide +kernel
      household := by decide +kernel
      amount := by decide +kernel }

/-- a move of no object at all passes, since the string of None is not empty -/
theorem null_object_id : validateBuildData "object.move" [("object_id", .null)] = .ok [("object_id", .null)] ∧
    ¬ WithinBounds "object.move" [("object_id", .null)] := by
  refine ⟨by decide +kernel, fun h => ?_⟩
  obtain ⟨s, -, hs⟩ := h.object ⟨by decide +kernel, by decide⟩
  cases hs

end KerMP
