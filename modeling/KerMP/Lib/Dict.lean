/-
Insertion-ordered dicts over Mathlib's association lists.

`AList` keeps its keys distinct by construction and has lookup, erase and membership. What it lacks is the assignment
of an ordered dict: `AList.insert` moves the key to the front, whereas `d[k] = v` keeps the place of a present key and
puts a new key last. That is `AList.setItem`. The other operations are `get` = `lookup`, `pop` = `erase` (which keeps
the order of the rest), `keys`, `values`, `len` = `size`, and `mapItems` (the same function applied to every item).
-/
import Mathlib.Data.List.AList

universe u v
variable {κ : Type u} {ν : Type v}

/-- a dict with keys in `κ`, in insertion order -/
abbrev Dict (κ : Type u) (ν : Type v) := AList fun _ : κ => ν

namespace List

variable {ω : Type v}

/-- the same keys, each value rewritten from its key and value -/
def mapItems (f : κ → ν → ω) (l : List (Σ _ : κ, ν)) : List (Σ _ : κ, ω) := l.map fun e => ⟨e.1, f e.1 e.2⟩

theorem keys_mapItems (f : κ → ν → ω) (l : List (Σ _ : κ, ν)) : (mapItems f l).keys = l.keys := by
  simp [mapItems, keys, Function.comp_def]

theorem dlookup_mapItems [DecidableEq κ] (f : κ → ν → ω) (k : κ) (l : List (Σ _ : κ, ν)) :
    (mapItems f l).dlookup k = (l.dlookup k).map (f k) := by
  induction l with
  | nil => rfl
  | cons e l ih =>
    obtain ⟨a, b⟩ := e
    by_cases h : k = a
    · subst h; simp [mapItems]
    · have hl : dlookup k ((⟨a, b⟩ : Σ _ : κ, ν) :: l) = dlookup k l := dlookup_cons_ne _ _ h
      have hr : dlookup k (mapItems f ((⟨a, b⟩ : Σ _ : κ, ν) :: l)) = dlookup k (mapItems f l) :=
        dlookup_cons_ne _ _ h
      rw [hl, hr, ih]

end List

namespace AList

variable {ω : Type v}

/-- every value rewritten from its key and value, in place -/
def mapItems (f : κ → ν → ω) (d : Dict κ ν) : Dict κ ω :=
  ⟨d.entries.mapItems f, by
    have := d.nodupKeys
    simpa only [List.NodupKeys, List.keys_mapItems] using this⟩

@[simp] theorem keys_mapItems (f : κ → ν → ω) (d : Dict κ ν) : (d.mapItems f).keys = d.keys :=
  List.keys_mapItems f d.entries

@[simp] theorem mem_mapItems {f : κ → ν → ω} {d : Dict κ ν} {k : κ} : k ∈ d.mapItems f ↔ k ∈ d := by
  rw [mem_keys, keys_mapItems, ← mem_keys]

theorem mapItems_mapItems {α β : Type v} (g : κ → α → β) (f : κ → ν → α) (d : Dict κ ν) :
    (d.mapItems f).mapItems g = d.mapItems fun k v => g k (f k v) := by
  apply AList.ext
  simp [mapItems, List.mapItems]

/-- rewriting in place changes nothing exactly when it changes no item -/
theorem mapItems_eq_self {f : κ → ν → ν} {d : Dict κ ν} : d.mapItems f = d ↔ ∀ e ∈ d.entries, f e.1 e.2 = e.2 := by
  rw [AList.ext_iff]
  show d.entries.mapItems f = d.entries ↔ _
  rw [List.mapItems]
  constructor
  · intro h e he
    have hid : d.entries.map (fun e : Σ _ : κ, ν => (⟨e.1, f e.1 e.2⟩ : Σ _ : κ, ν)) = d.entries.map id := by
      rw [h, List.map_id]
    have he' := List.map_inj_left.1 hid e he
    exact eq_of_heq (Sigma.mk.inj he').2
  · intro h
    calc d.entries.map (fun e : Σ _ : κ, ν => (⟨e.1, f e.1 e.2⟩ : Σ _ : κ, ν))
        = d.entries.map id := List.map_congr_left fun e he => by rw [h e he]; rfl
      _ = d.entries := List.map_id _

variable [DecidableEq κ]

@[simp] theorem lookup_mapItems (f : κ → ν → ω) (d : Dict κ ν) (k : κ) :
    (d.mapItems f).lookup k = (d.lookup k).map (f k) :=
  List.dlookup_mapItems f k d.entries

/-- `d[k] = v` -/
def setItem (d : Dict κ ν) (k : κ) (v : ν) : Dict κ ν :=
  if h : k ∈ d then d.mapItems fun k' v' => if k' = k then v else v'
  else ⟨d.entries ++ [⟨k, v⟩], by
    have hk : k ∉ d.entries.keys := h
    simp only [List.NodupKeys, List.keys, List.map_append, List.map_cons, List.map_nil] at hk ⊢
    exact List.Nodup.append d.nodupKeys (List.nodup_singleton _) (by simpa using hk)⟩

/-- `d.values()` -/
def values (d : Dict κ ν) : List ν := d.entries.map fun e => e.2

/-- `len(d)` -/
def size (d : Dict κ ν) : ℕ := d.entries.length

theorem keys_setItem (d : Dict κ ν) (k : κ) (v : ν) :
    (d.setItem k v).keys = if k ∈ d then d.keys else d.keys ++ [k] := by
  unfold setItem
  split_ifs with h
  · exact keys_mapItems _ d
  · simp [keys, List.keys]

@[simp] theorem mem_setItem {d : Dict κ ν} {k k' : κ} {v : ν} : k' ∈ d.setItem k v ↔ k' = k ∨ k' ∈ d := by
  rw [mem_keys, keys_setItem]
  split_ifs with h
  · refine ⟨Or.inr, ?_⟩
    rintro (rfl | h')
    · exact h
    · exact h'
  · rw [List.mem_append, List.mem_singleton, ← mem_keys, or_comm]

theorem lookup_setItem (d : Dict κ ν) (k k' : κ) (v : ν) :
    (d.setItem k v).lookup k' = if k' = k then some v else d.lookup k' := by
  unfold setItem
  split_ifs with h hk hk
  · subst hk
    obtain ⟨w, hw⟩ := Option.isSome_iff_exists.1 (lookup_isSome.2 h)
    rw [lookup_mapItems, hw]; simp
  · rw [lookup_mapItems]
    cases d.lookup k' <;> simp [hk]
  · subst hk
    have hn : d.entries.dlookup k' = none := List.dlookup_eq_none.2 h
    show (d.entries ++ [(⟨k', v⟩ : Σ _ : κ, ν)]).dlookup k' = some v
    simp [List.dlookup_append, hn]
  · show (d.entries ++ [(⟨k, v⟩ : Σ _ : κ, ν)]).dlookup k' = d.entries.dlookup k'
    rw [List.dlookup_append, List.dlookup_cons_ne _ _ (by exact hk)]
    simp

theorem entries_setItem (d : Dict κ ν) (k : κ) (v : ν) : (d.setItem k v).entries =
    if k ∈ d then d.entries.map fun e => ⟨e.1, if e.1 = k then v else e.2⟩ else d.entries ++ [⟨k, v⟩] := by
  unfold setItem
  split_ifs <;> rfl

/-- the last assignment to a key counts -/
theorem setItem_setItem (d : Dict κ ν) (k : κ) (v w : ν) : (d.setItem k v).setItem k w = d.setItem k w := by
  apply AList.ext
  have hk : k ∈ d.setItem k v := mem_setItem.2 (Or.inl rfl)
  rw [entries_setItem, if_pos hk, entries_setItem, entries_setItem]
  split_ifs with h
  · rw [List.map_map]
    apply List.map_congr_left
    intro e _
    by_cases he : e.1 = k <;> simp [he]
  · have hne : ∀ e ∈ d.entries, e.1 ≠ k := fun e he hek => h (List.mem_map.2 ⟨e, he, hek⟩)
    rw [List.map_append]
    congr 1
    · calc d.entries.map (fun e => (⟨e.1, if e.1 = k then w else e.2⟩ : Σ _ : κ, ν))
          = d.entries.map id := List.map_congr_left fun e he => by rw [if_neg (hne e he)]; rfl
        _ = d.entries := List.map_id _
    · simp

@[simp] theorem lookup_setItem_self (d : Dict κ ν) (k : κ) (v : ν) : (d.setItem k v).lookup k = some v := by
  simp [lookup_setItem]

theorem lookup_setItem_ne (d : Dict κ ν) {k k' : κ} (v : ν) (h : k' ≠ k) :
    (d.setItem k v).lookup k' = d.lookup k' := by
  simp [lookup_setItem, h]

theorem erase_of_notMem (d : Dict κ ν) {k : κ} (h : k ∉ d) : d.erase k = d :=
  AList.ext (List.kerase_of_notMem_keys h)

theorem erase_eq_self {d : Dict κ ν} {k : κ} : d.erase k = d ↔ k ∉ d := by
  constructor
  · intro h hk
    have hgone : k ∉ d.erase k := fun hm => (AList.mem_erase.1 hm).1 rfl
    rw [h] at hgone
    exact hgone hk
  · exact erase_of_notMem d

theorem lookup_erase_eq (d : Dict κ ν) (k k' : κ) :
    (d.erase k).lookup k' = if k' = k then none else d.lookup k' := by
  split_ifs with h
  · subst h; exact lookup_erase k' d
  · exact lookup_erase_ne h

theorem lookup_erase_eq_some {d : Dict κ ν} {k k' : κ} {v : ν} :
    (d.erase k).lookup k' = some v ↔ k' ≠ k ∧ d.lookup k' = some v := by
  rw [lookup_erase_eq]
  split_ifs with h <;> simp [h]

theorem lookup_setItem_eq_some {d : Dict κ ν} {k k' : κ} {v w : ν} :
    (d.setItem k v).lookup k' = some w ↔ (k' = k ∧ v = w) ∨ (k' ≠ k ∧ d.lookup k' = some w) := by
  rw [lookup_setItem]
  split_ifs with h <;> simp [h]

end AList
