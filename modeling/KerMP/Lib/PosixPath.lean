/-
Paths as text, and the places they lead to (`pathlib.PurePosixPath`, `Path.resolve` without symbolic links).

A path is a flag and the segments between its slashes, without empty ones and `.`. Joining an absolute path forgets the
left one. A place is a list of names from the root; `..` leads to the parent, and the root is its own parent.

- `walk_eq`: where a walk ends, by how far it climbs (`climb`) and what it enters after that.
- `prefix_walk_iff`: when a walk that starts one directory below a place ends at or below that place.
- `resolve_div_plain`: a plain name is one step.
-/
import Mathlib.Data.List.Infix
import Mathlib.Data.String.Basic

namespace Posix

/-! ## Paths -/

/-- the segments between the slashes; empty ones and `.` mean nothing -/
def parts (s : String) : List String := ((s.toList.splitOn '/').map String.ofList).filter fun p => p ≠ "" ∧ p ≠ "."

structure PurePath where
  absolute : Bool
  parts : List String
deriving DecidableEq

namespace PurePath

def ofString (s : String) : PurePath := ⟨s.toList.head? = some '/', Posix.parts s⟩

def join (p q : PurePath) : PurePath := if q.absolute then q else ⟨p.absolute, p.parts ++ q.parts⟩

instance : HDiv PurePath String PurePath := ⟨fun p s => p.join (ofString s)⟩

end PurePath

/-! ## Places -/

def enter (place : List String) (seg : String) : List String := if seg = ".." then place.dropLast else place ++ [seg]

def walk (place segs : List String) : List String := segs.foldl enter place

/-- the place of a path, seen from a working directory -/
def PurePath.resolve (cwd : List String) (p : PurePath) : List String := walk (if p.absolute then [] else cwd) p.parts

theorem walk_append (place segs segs' : List String) : walk place (segs ++ segs') = walk (walk place segs) segs' :=
  List.foldl_append

theorem resolve_div (cwd : List String) (p : PurePath) (s : String) : (p / s).resolve cwd =
    walk (if (PurePath.ofString s).absolute then [] else p.resolve cwd) (parts s) := by
  show (p.join (PurePath.ofString s)).resolve cwd = _
  unfold PurePath.join
  split_ifs with h
  · simp only [PurePath.resolve, h, if_true]
    rfl
  · exact walk_append _ p.parts (parts s)

/-- a name that is one step of a walk -/
structure PlainName (s : String) : Prop where
  noSlash : '/' ∉ s.toList
  nonempty : s ≠ ""
  noDot : s ≠ "."
  noParent : s ≠ ".."

theorem PlainName.parts_eq {s : String} (h : PlainName s) : parts s = [s] := by
  have hsplit : s.toList.splitOn '/' = [s.toList] :=
    List.splitOnP_eq_singleton fun c hc => beq_false_of_ne fun he => h.noSlash (he ▸ hc)
  rw [parts, hsplit, List.map_singleton, String.ofList_toList]
  simp [h.nonempty, h.noDot]

theorem resolve_div_plain (cwd : List String) (p : PurePath) {s : String} (h : PlainName s) :
    (p / s).resolve cwd = p.resolve cwd ++ [s] := by
  have hrelative : (PurePath.ofString s).absolute = false := by
    refine decide_eq_false fun he => h.noSlash ?_
    exact List.mem_of_mem_head? he
  rw [resolve_div, hrelative, h.parts_eq]
  simp [walk, enter, h.noParent]

/-! ## Climbing -/

/-- how many directories the segments climb above their start, and what they enter from there -/
def climb (segs : List String) : ℕ × List String :=
  segs.foldl (fun x seg =>
    if seg = ".." then if x.2 = [] then (x.1 + 1, []) else (x.1, x.2.dropLast) else (x.1, x.2 ++ [seg])) (0, [])

/-- **Where a walk ends.** -/
theorem walk_eq (place segs : List String) :
    walk place segs = place.take (place.length - (climb segs).1) ++ (climb segs).2 := by
  induction segs using List.reverseRecOn with
  | nil => simp [walk, climb]
  | append_singleton segs seg ih =>
    have hwalk : walk place (segs ++ [seg]) = enter (walk place segs) seg := walk_append _ _ _
    have hclimb : climb (segs ++ [seg]) =
        if seg = ".." then
          if (climb segs).2 = [] then ((climb segs).1 + 1, []) else ((climb segs).1, (climb segs).2.dropLast)
        else ((climb segs).1, (climb segs).2 ++ [seg]) := by
      rw [climb, List.foldl_append]
      rfl
    rw [hwalk, hclimb, ih, enter]
    by_cases hseg : seg = ".."
    · by_cases hrest : (climb segs).2 = []
      · simp only [hseg, hrest, if_true, List.append_nil]
        rw [List.dropLast_eq_take, List.take_take, List.length_take]
        congr 1
        omega
      · simp only [hseg, hrest, if_true, if_false]
        exact List.dropLast_append_of_ne_nil hrest
    · simp only [hseg, if_false, List.append_assoc]

/-- **Below a place.** A walk from a directory of a place ends at or below the place when it climbs no higher than to
the place, or comes back through the names that it has left. -/
theorem prefix_walk_iff (place segs : List String) (name : String) :
    place <+: walk (place ++ [name]) segs ↔
      (climb segs).1 ≤ 1 ∨ place.drop (place.length - ((climb segs).1 - 1)) <+: (climb segs).2 := by
  rw [walk_eq, List.length_append, List.length_singleton]
  rcases (climb segs).1 with _ | k
  · have hall : (place ++ [name]).take (place.length + 1 - 0) = place ++ [name] :=
      List.take_of_length_le (by simp)
    rw [hall, List.append_assoc]
    simp
  · have htake : (place ++ [name]).take (place.length + 1 - (k + 1)) = place.take (place.length - k) := by
      rw [Nat.add_sub_add_right, List.take_append_of_le_length (Nat.sub_le _ _)]
    have hback : place <+: place.take (place.length - k) ++ (climb segs).2 ↔
        place.drop (place.length - k) <+: (climb segs).2 := by
      have hsplit : place.take (place.length - k) ++ place.drop (place.length - k) <+:
          place.take (place.length - k) ++ (climb segs).2 ↔ place.drop (place.length - k) <+: (climb segs).2 :=
        List.prefix_append_right_inj _
      rwa [List.take_append_drop] at hsplit
    rw [htake, Nat.add_sub_cancel, hback]
    refine ⟨Or.inr, fun h => h.elim (fun hk => ?_) id⟩
    obtain rfl : k = 0 := by omega
    simp

end Posix
