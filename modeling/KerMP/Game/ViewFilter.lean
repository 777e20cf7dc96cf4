/-
The copy of a view update that leaves the host (`_filtered_remote_message` in `kermp_mod/hooks.py`).

A view update is a list of entries, each with a list of operations of some type. What leaves the host carries no
operation that is for the host's own screen. The message itself goes on to that screen, so the filter works on a copy
(`CopyFrom`): it deletes operations by index, from the last one down, and takes an entry off the copy when no operation
is left, while it walks a snapshot of the entries. `entries.remove` goes by equality.

Messages live in cells; a message is the list of references to its entries.

- `filteredRemoteMessage`: the filter, with the counter of dropped operations.
- `filtered_exactly`: the copy has exactly the other operations, in their order, and no empty entry; the counter grows
  by the number of operations dropped; every entry there was before is as it was, the original's among them.
-/
import Mathlib.Data.Finset.Basic
import KerMP.Lib.Cells
import KerMP.Lib.PyValue

namespace KerMP.Game

open Py Cells

/-! ## View updates -/

/-- an operation: its type, and whatever else it carries -/
structure Operation (β : Type) where
  type : ℤ
  data : β
deriving DecidableEq

/-- an entry: whom it is for, and its operations -/
structure ViewEntry (α β : Type) where
  header : α
  operations : List (Operation β)
deriving DecidableEq

/-- what the host's `Client.send_message` is given: a view update, or a message of another type -/
inductive ViewMessage (γ : Type) where
  | viewUpdate (entries : List ℕ)
  | other (message : γ)

/-- the entries of all view updates there are, and the globals of the filter -/
structure ViewState (α β : Type) where
  entries : List (ViewEntry α β)
  droppedLocalOps : ℕ
  localOnlyOpIds : Option (Finset ℤ)
  lastError : Option String

/-! ## The filter -/

def LOCAL_ONLY_OPERATIONS : List String :=
  ["FOCUS", "HOVERTIP_CREATED", "SET_SIM_ACTIVE", "SET_VFX_MASK", "CLIENT_CREATE", "CLIENT_DELETE", "SET_GAME_TIME",
    "LIVE_DRAG_START", "LIVE_DRAG_END", "LIVE_DRAG_CANCEL", "SELECT_CAREER_UI", "SHOW_BILLS_DIALOG",
    "SITUATION_CALLBACK_RESPONSE", "MSG_SIM_PERSONALITY_ASSIGNMENT", "TAKE_PHOTO", "UI_LIGHT_COLOR_SHOW",
    "OPEN_INVENTORY", "NOTEBOOK_VIEW", "DYNAMIC_SIGN_VIEW", "COMMUNITY_POLICY_BOARD", "UNIVERSITY_ENROLLMENT_WIZARD",
    "BOOK_VIEW", "END_OF_WORKDAY", "SHOW_SOCIAL_MEDIA_DIALOG", "SEND_UI_MESSAGE", "RETAIL_BALANCE_TRANSFER_DIALOG",
    "BUSINESS_SUMMARY_DIALOG", "SHOW_HORSE_COMPETITION_SELECTOR", "SHOW_RENTAL_UNIT_MANAGEMENT",
    "SHOW_LIFETIME_MILESTONES_PANEL", "CUSTOM_SCHEDULE_SET_CUSTOM_SCHEDULE",
    "CUSTOM_SCHEDULE_SET_CUSTOM_SET_SCHEDULE_LIST", "CUSTOM_SCHEDULE_SET_CUSTOM_SET_ASSIGNMENT_LIST",
    "MSG_SITUATION_GETAWAY_RULES", "SET_RESIDENT_LIST", "CUSTOM_SCHEDULE_SET_CUSTOM_ASSIGNMENT"]

section Filter

variable {α β γ : Type}

/-- read once from the installed build, which has the types under their names (`operation`) -/
def localOnlyOperationIds (operation : String → Option ℤ) (s : ViewState α β) : Finset ℤ :=
  s.localOnlyOpIds.getD (LOCAL_ONLY_OPERATIONS.filterMap operation).toFinset

/-- the entry without its local-only operations, and how many these were -/
def dropLocal (ids : Finset ℤ) (e : ViewEntry α β) : ViewEntry α β × ℕ :=
  let dropped := deleteDown (fun op => op.type ∈ ids) e.operations.length e.operations
  ({ e with operations := dropped.1 }, dropped.2)

/-- a view update as the list of its entries, or the message of another type -/
def ViewState.contents (s : ViewState α β) : ViewMessage γ → List (ViewEntry α β) ⊕ γ
  | .viewUpdate refs => .inl (view s.entries refs)
  | .other m => .inr m

/-- the entry without its local-only operations -/
def remoteEntry (ids : Finset ℤ) (e : ViewEntry α β) : ViewEntry α β :=
  { e with operations := e.operations.filter fun op => op.type ∉ ids }

/-- what is to leave the host of a view update -/
def remoteEntries (ids : Finset ℤ) (es : List (ViewEntry α β)) : List (ViewEntry α β) :=
  (es.map (remoteEntry ids)).filter fun e => !e.operations.isEmpty

/-- how many operations of a view update are for the host's own screen -/
def localOperations (ids : Finset ℤ) (es : List (ViewEntry α β)) : ℕ :=
  (es.map fun e => e.operations.countP fun op => op.type ∈ ids).sum

theorem dropLocal_eq (ids : Finset ℤ) (e : ViewEntry α β) :
    dropLocal ids e = (remoteEntry ids e, e.operations.countP fun op => op.type ∈ ids) := by
  simp [dropLocal, remoteEntry, deleteDown_eq]

variable [DecidableEq α] [DecidableEq β]

/-- a message that is not a view update goes out as it is, and so does one the filter fails on -/
def filteredRemoteMessage (operation : String → Option ℤ) (s : ViewState α β) (message : ViewMessage γ) :
    ViewMessage γ × ViewState α β :=
  match message with
  | .other m => (.other m, s)
  | .viewUpdate original =>
    let (filtered, entries) := copy s.entries original
    let ids := localOnlyOperationIds operation s
    match sweep (dropLocal ids) (·.operations.isEmpty) filtered entries filtered 0 with
    | some (filtered, entries, removed) =>
      (.viewUpdate filtered,
        { s with entries, localOnlyOpIds := some ids, droppedLocalOps := s.droppedLocalOps + removed })
    | none =>
      (.viewUpdate original,
        { s with localOnlyOpIds := some ids, lastError := some "remote_op_filter: list.remove(x): x not in list" })

/-! ## What leaves the host -/

/-- the sweep over the copy: no entry is missing from it, and the entries there were before are not touched -/
theorem sweep_copy (ids : Finset ℤ) (entries : List (ViewEntry α β)) (original : List ℕ) :
    ∃ refs entries', sweep (dropLocal ids) (·.operations.isEmpty) (copy entries original).1 (copy entries original).2
        (copy entries original).1 0 = some (refs, entries', localOperations ids (view entries original)) ∧
      view entries' refs = remoteEntries ids (view entries original) ∧
      entries'.take entries.length = entries := by
  have hview := view_copy entries original
  obtain ⟨refs, entries', hrun, hafter, hsame⟩ := sweep_eq (dropLocal ids) (·.operations.isEmpty)
    (copy entries original).1 [] (copy entries original).2 0 (by simp [copy, List.nodup_range']) (by simp)
  rw [hview] at hrun hafter
  refine ⟨refs, entries', ?_, ?_, ?_⟩
  · simpa [dropLocal_eq, localOperations] using hrun
  · simpa [dropLocal_eq, remoteEntries, view] using hafter
  · apply List.ext_getElem?
    intro r
    rw [List.getElem?_take]
    split_ifs with hr
    · have hnew : r ∉ (copy entries original).1 := by
        simp only [copy, List.mem_range'_1]
        omega
      rw [hsame r hnew, copy, List.getElem?_append_left hr]
    · rw [List.getElem?_eq_none (by omega)]

/-- **The filter drops the local-only operations and nothing else.** For every view update, with entries repeated or
equal in any way, and whatever types are local-only: what goes out are the entries without their local-only operations,
in order, less those left without any; the counter grows by the number of operations dropped; every entry there was, the
message's own among them, is as it was. A message of another type goes out itself, and nothing is counted. -/
theorem filtered_exactly (operation : String → Option ℤ) (s : ViewState α β) (message : ViewMessage γ) :
    let ids := localOnlyOperationIds operation s
    let (sent, s') := filteredRemoteMessage operation s message
    s'.contents sent = (s.contents message).map (remoteEntries ids) id ∧
      s'.droppedLocalOps = s.droppedLocalOps + (s.contents message).elim (localOperations ids) (fun _ => 0) ∧
      s'.entries.take s.entries.length = s.entries ∧ s'.lastError = s.lastError := by
  cases message with
  | other m => simp [filteredRemoteMessage, ViewState.contents]
  | viewUpdate original =>
    obtain ⟨refs, entries', hrun, hafter, hsame⟩ := sweep_copy (localOnlyOperationIds operation s) s.entries original
    simp only [filteredRemoteMessage, hrun, ViewState.contents, Sum.map_inl, Sum.elim_inl, hafter]
    exact ⟨trivial, trivial, hsame, trivial⟩

end Filter

end KerMP.Game
