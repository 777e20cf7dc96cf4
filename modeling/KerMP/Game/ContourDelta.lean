/-
What changed between two wall contours (`contour_delta` in `kermp_mod/build_adapter.py`).

A contour is a list of JSON values without identity; two items are the same when their canonical texts are. Both lists
are counted by text, and an item in surplus is reported as the first item of its list with that text. Items with an id
of their own are compared by it as well (`changed`).

- `itemsOf_eq`: the items reported are items of the list, with the texts in surplus.
- `contour_delta_multiset`: what is reported leads from the one contour to the other, and nothing is reported twice.
-/
import KerMP.Lib.Dumps
import KerMP.Lib.Tally

namespace KerMP.Game

open Py Tally

/-! ## The report -/

structure ChangedContour where
  identity : String
  before : Json
  after : Json
deriving DecidableEq

structure ContourDelta where
  beforeCount : ℕ
  afterCount : ℕ
  added : List Json
  removed : List Json
  changed : List ChangedContour
deriving DecidableEq

/-- `items[keys.index(key)]` -/
def itemOf (items : List Json) (key : String) : Except Exc Json :=
  match items[(items.map Json.canonical).idxOf key]? with
  | some x => .ok x
  | none => .error (.valueError (Py.reprStr key ++ " is not in list"))

def itemsOf (items : List Json) : List String → Except Exc (List Json)
  | [] => .ok []
  | key :: keys => do
    let x ← itemOf items key
    let xs ← itemsOf items keys
    return x :: xs

/-- the keys an item may have its id under -/
def IDENTITY_KEYS : List String := ["wall_id", "wallId", "id", "guid", "uid", "handle"]

/-- `str` of the id under the first of the keys an item has -/
def identityOf : Json → Option String
  | .obj kvs => (IDENTITY_KEYS.findSome? fun key => kvs.lookup key).map Json.toStr
  | _ => none

/-- of several items with one id the last counts -/
def byIdentity (items : List Json) : Dict String Json :=
  items.foldl (fun d x => (identityOf x).elim d fun i => d.setItem i x) ∅

/-- one id whose item differs -/
def changedAt (before after : Dict String Json) (identity : String) : Option ChangedContour :=
  match before.lookup identity, after.lookup identity with
  | some b, some a => if b.pyEq a then none else some ⟨identity, b, a⟩
  | _, _ => none

def changedContours (before after : Dict String Json) : List ChangedContour :=
  ((before.keys.filter fun i => i ∈ after).mergeSort fun a b => a ≤ b).filterMap (changedAt before after)

def contourDelta (before after : List Json) : Except Exc ContourDelta := do
  let beforeCounts := tally (before.map Json.canonical)
  let afterCounts := tally (after.map Json.canonical)
  let added ← itemsOf after (surplus afterCounts beforeCounts)
  let removed ← itemsOf before (surplus beforeCounts afterCounts)
  return ⟨before.length, after.length, added, removed, changedContours (byIdentity before) (byIdentity after)⟩

/-! ## What it reports -/

theorem itemOf_eq {items : List Json} {key : String} (h : key ∈ items.map Json.canonical) :
    ∃ x ∈ items, itemOf items key = .ok x ∧ x.canonical = key := by
  have hlt := List.idxOf_lt_length_of_mem h
  have hlt' : (items.map Json.canonical).idxOf key < items.length := by rwa [List.length_map] at hlt
  refine ⟨items[(items.map Json.canonical).idxOf key], List.getElem_mem hlt', ?_, ?_⟩
  · rw [itemOf, List.getElem?_eq_getElem hlt']
  · rw [← List.getElem_map Json.canonical (h := hlt), List.getElem_idxOf]

/-- keys of the list name items of it, with these keys -/
theorem itemsOf_eq {items : List Json} {keys : List String} (h : ∀ key ∈ keys, key ∈ items.map Json.canonical) :
    ∃ xs, itemsOf items keys = .ok xs ∧ xs.map Json.canonical = keys ∧ ∀ x ∈ xs, x ∈ items := by
  induction keys with
  | nil => exact ⟨[], rfl, rfl, nofun⟩
  | cons key keys ih =>
    obtain ⟨x, hx, hat, hkey⟩ := itemOf_eq (h key List.mem_cons_self)
    obtain ⟨xs, hxs, hkeys, hmem⟩ := ih fun k hk => h k (List.mem_cons_of_mem _ hk)
    refine ⟨x :: xs, ?_, ?_, ?_⟩
    · simp [itemsOf, hat, hxs]
    · rw [List.map_cons, hkey, hkeys]
    · intro y hy
      rcases List.mem_cons.1 hy with rfl | hy
      · exact hx
      · exact hmem y hy

/-- **The delta is a difference of multisets.** For any two contours, with items told apart by their canonical text: the
old contour without what was removed and with what was added is the new one; no item is both removed and added; what
is removed was in the old contour as often at least, what is added is in the new one; and the counts differ as the
numbers of items added and removed do. -/
theorem contour_delta_multiset (before after : List Json) : ∃ d, contourDelta before after = .ok d ∧
    (before.map Json.canonical : Multiset String) - d.removed.map Json.canonical + d.added.map Json.canonical =
      after.map Json.canonical ∧
    (∀ x ∈ d.removed, ∀ y ∈ d.added, x.canonical ≠ y.canonical) ∧
    (∀ x ∈ d.removed, x ∈ before) ∧ (∀ x ∈ d.added, x ∈ after) ∧
    (d.removed.map Json.canonical : Multiset String) ≤ before.map Json.canonical ∧
    (d.added.map Json.canonical : Multiset String) ≤ after.map Json.canonical ∧
    (d.afterCount : ℤ) - d.beforeCount = d.added.length - d.removed.length := by
  set bs := before.map Json.canonical with hbs
  set as := after.map Json.canonical with has
  have hmore : ∀ key ∈ surplus (tally as) (tally bs), key ∈ as := fun _ => mem_of_mem_surplus
  have hfewer : ∀ key ∈ surplus (tally bs) (tally as), key ∈ bs := fun _ => mem_of_mem_surplus
  obtain ⟨added, hadded, haddedKeys, haddedMem⟩ := itemsOf_eq hmore
  obtain ⟨removed, hremoved, hremovedKeys, hremovedMem⟩ := itemsOf_eq hfewer
  have hsum : (bs : Multiset String) - removed.map Json.canonical + added.map Json.canonical = as := by
    rw [haddedKeys, hremovedKeys]
    exact sub_surplus_add bs as
  have hremovedLe : (removed.map Json.canonical : Multiset String) ≤ bs := by
    rw [hremovedKeys, coe_surplus]
    exact Multiset.sub_le_self _ _
  have haddedLe : (added.map Json.canonical : Multiset String) ≤ as := by
    rw [haddedKeys, coe_surplus]
    exact Multiset.sub_le_self _ _
  refine ⟨⟨before.length, after.length, added, removed, changedContours (byIdentity before) (byIdentity after)⟩, ?_,
    hsum, ?_, hremovedMem, haddedMem, hremovedLe, haddedLe, ?_⟩
  · simp only [contourDelta, ← hbs, ← has, hadded, hremoved, ok_bind, pure_eq_ok]
  · intro x hx y hy heq
    have hx' : x.canonical ∈ surplus (tally bs) (tally as) := hremovedKeys ▸ List.mem_map_of_mem hx
    have hy' : y.canonical ∈ surplus (tally as) (tally bs) := haddedKeys ▸ List.mem_map_of_mem hy
    exact surplus_disjoint hx' (heq ▸ hy')
  · have hcard := congrArg Multiset.card hsum
    have hle := Multiset.card_le_card hremovedLe
    rw [Multiset.card_add, Multiset.card_sub hremovedLe] at hcard
    simp only [Multiset.coe_card, List.length_map, hbs, has] at hcard hle
    show (after.length : ℤ) - before.length = added.length - removed.length
    omega

end KerMP.Game
