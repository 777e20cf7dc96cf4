/-
Deques of bounded length, as Python's `collections.deque(maxlen=n)`.

An item that is appended to a full deque drives out the first one. Everything ever appended is then what has gone, taken
or driven out, followed by what is held (`Follows`): `append` and `popleft` keep this, and say what has gone with them.
-/
import Mathlib.Data.List.Basic

universe u

/-- a deque of at most `n` items -/
structure Deque (α : Type u) (n : ℕ) where
  toList : List α
  length_le : toList.length ≤ n

namespace Deque

variable {α : Type u} {n : ℕ} {d d' : Deque α n} {log gone : List α} {x : α}

def empty : Deque α n := ⟨[], Nat.zero_le n⟩

/-- how many items an append drives out -/
def overflow (d : Deque α n) : ℕ := if d.toList.length = n then 1 else 0

theorem overflow_le (d : Deque α n) : d.overflow ≤ 1 := by
  unfold overflow
  split_ifs <;> omega

theorem room_for_append (d : Deque α n) : d.toList.length + 1 - d.overflow ≤ n := by
  have := d.length_le
  unfold overflow
  split_ifs <;> omega

/-- `d.append(x)` -/
def append (d : Deque α n) (x : α) : Deque α n :=
  ⟨(d.toList ++ [x]).drop d.overflow, by simpa using d.room_for_append⟩

/-- `d.popleft()`; it raises on an empty deque -/
def popleft (d : Deque α n) : Option (α × Deque α n) :=
  d.toList.head?.map fun x => (x, ⟨d.toList.tail, by have := d.length_le; rw [List.length_tail]; omega⟩)

/-- nothing is lost but what is driven out -/
theorem length_append (d : Deque α n) (x : α) : (d.append x).toList.length + d.overflow = d.toList.length + 1 := by
  have := d.overflow_le
  rw [append, List.length_drop, List.length_append, List.length_singleton]
  omega

theorem popleft_eq_some : d.popleft = some (x, d') ↔ d.toList = x :: d'.toList := by
  obtain ⟨items, hle⟩ := d
  obtain ⟨items', hle'⟩ := d'
  cases items with
  | nil => simp [popleft]
  | cons y ys => simp [popleft]

theorem popleft_eq_none : d.popleft = none ↔ d.toList = [] := by
  rw [popleft, Option.map_eq_none_iff, List.head?_eq_none_iff]

/-! ## What has gone and what is held -/

/-- everything that was appended is what has gone and then what is held -/
def Follows (d : Deque α n) (log gone : List α) : Prop := log = gone ++ d.toList

theorem follows_empty : (empty : Deque α n).Follows [] [] := rfl

theorem Follows.append (h : d.Follows log gone) (x : α) :
    (d.append x).Follows (log ++ [x]) (gone ++ (d.toList ++ [x]).take d.overflow) := by
  unfold Follows at h ⊢
  rw [Deque.append, List.append_assoc gone, List.take_append_drop, h, List.append_assoc]

theorem Follows.popleft (h : d.Follows log gone) (hx : d.toList = x :: d'.toList) : d'.Follows log (gone ++ [x]) := by
  unfold Follows at h ⊢
  rw [h, hx, List.append_assoc, List.singleton_append]

end Deque
