/-
Commands and dialogs routed to one player (`kermp/routing.py`).

A `NetworkedCommandRouter` runs registered handlers only, once per request id. A `DialogRouter` keeps the dialogs
opened for a player until that player answers or leaves.

- `respond_ok`: an answer is the owner's, and takes the dialog out.
- `disconnect_of_unowned`: a departure of somebody who owns no dialog changes nothing.
-/
import KerMP.Lib.PyValue
import KerMP.Lib.Dict

namespace KerMP

open Py

/-! ## Commands -/

structure RequestCorrelation where
  requestId : Json
  playerId : String
  family : String
  completed : Bool

structure NetworkedCommandRouter where
  handlers : String → Option (String → List (String × Json) → Except Exc Json)
  pending : List RequestCorrelation

namespace NetworkedCommandRouter

def init : NetworkedCommandRouter := ⟨fun _ => none, []⟩

/-- a list or dict has no hash -/
def hashable : Json → Except Exc Unit
  | .arr _ => .error (.typeError "unhashable type: 'list'")
  | .obj _ => .error (.typeError "unhashable type: 'dict'")
  | _ => .ok ()

/-- `uuid` is the request id drawn when none is given -/
def dispatch (c : NetworkedCommandRouter) (playerId family : String) (payload : List (String × Json))
    (requestId : Json) (uuid : String) : Except Exc Json × NetworkedCommandRouter :=
  let requestId := requestId.or (.str uuid)
  match hashable requestId with
  | .error e => (.error e, c)
  | .ok _ =>
    if c.pending.any fun r => r.requestId.pyEq requestId then (.error (.valueError "duplicate_request_id"), c)
    else
      match c.handlers family with
      | none => (.error (.valueError "command_not_allowed"), c)
      | some handler =>
        match handler playerId payload with
        | .error e => (.error e, { c with pending := c.pending ++ [⟨requestId, playerId, family, false⟩] })
        | .ok result =>
          (.ok (.obj [("request_id", requestId), ("family", .str family), ("result", result)]),
            { c with pending := c.pending ++ [⟨requestId, playerId, family, true⟩] })

end NetworkedCommandRouter

/-! ## Dialogs -/

structure DialogRecord where
  dialogId : String
  ownerPlayerId : String
  dialogType : String
  payload : List (String × Json)
deriving DecidableEq

structure DialogRouter where
  pending : Dict String DialogRecord

namespace DialogRouter

def init : DialogRouter := ⟨∅⟩

/-- `uuid` is the dialog's id -/
def openDialog (d : DialogRouter) (ownerPlayerId dialogType : String) (payload : List (String × Json)) (uuid : String) :
    Except Exc DialogRecord × DialogRouter :=
  if (Json.obj payload).toStr.length > 64 * 1024 then (.error (.valueError "dialog_payload_too_large"), d)
  else
    let record : DialogRecord := ⟨uuid, ownerPlayerId, dialogType, payload⟩
    (.ok record, ⟨d.pending.setItem uuid record⟩)

/-- an answer by somebody else puts the record back, at the end -/
def respond (d : DialogRouter) (playerId dialogId : String) (response : List (String × Json)) :
    Except Exc Json × DialogRouter :=
  match d.pending.lookup dialogId with
  | none => (.error (.valueError "unknown_or_completed_dialog"), d)
  | some record =>
    if record.ownerPlayerId ≠ playerId then
      (.error (.valueError "dialog_not_owned"), ⟨(d.pending.erase dialogId).setItem dialogId record⟩)
    else
      (.ok (.obj [("dialog_id", .str record.dialogId), ("owner_player_id", .str record.ownerPlayerId),
          ("dialog_type", .str record.dialogType), ("payload", .obj record.payload), ("response", .obj response)]),
        ⟨d.pending.erase dialogId⟩)

/-- the ids of the dialogs opened for a player -/
def stale (d : DialogRouter) (playerId : String) : List String :=
  d.pending.entries.filterMap fun e => if e.2.ownerPlayerId = playerId then some e.1 else none

def disconnect (d : DialogRouter) (playerId : String) : List String × DialogRouter :=
  (d.stale playerId, ⟨(d.stale playerId).foldl (fun p k => p.erase k) d.pending⟩)

theorem respond_ok {d d' : DialogRouter} {p k : String} {response : List (String × Json)} {j : Json}
    (h : d.respond p k response = (.ok j, d')) :
    (∃ r, d.pending.lookup k = some r ∧ r.ownerPlayerId = p) ∧ d'.pending = d.pending.erase k := by
  unfold respond at h
  split at h
  · cases h
  · rename_i r hr
    by_cases ho : r.ownerPlayerId = p
    · rw [if_neg (not_not.2 ho)] at h
      cases h
      exact ⟨⟨r, hr, ho⟩, rfl⟩
    · rw [if_pos ho] at h
      cases h

theorem stale_eq_nil {d : DialogRouter} {p : String} :
    d.stale p = [] ↔ ∀ e ∈ d.pending.entries, e.2.ownerPlayerId ≠ p := by
  simp [stale, List.filterMap_eq_nil_iff]

theorem disconnect_of_unowned {d : DialogRouter} {p : String} (h : ∀ e ∈ d.pending.entries, e.2.ownerPlayerId ≠ p) :
    (d.disconnect p).2 = d := by
  simp [disconnect, stale_eq_nil.2 h]

theorem keys_foldl_erase (ks : List String) (m : Dict String DialogRecord) :
    ∀ x, x ∈ ks.foldl (fun p k => p.erase k) m ↔ x ∈ m ∧ x ∉ ks := by
  induction ks generalizing m with
  | nil => simp
  | cons k ks ih =>
    intro x
    rw [List.foldl_cons, ih, AList.mem_erase, List.mem_cons]
    tauto

/-- a departure leaves the pending dialogs as they are exactly when none was opened for the player -/
theorem disconnect_eq_self {d : DialogRouter} {p : String} :
    (d.disconnect p).2.pending = d.pending ↔ ∀ e ∈ d.pending.entries, e.2.ownerPlayerId ≠ p := by
  constructor
  · intro h e he ho
    have hmem : e.1 ∈ d.pending := List.mem_map.2 ⟨e, he, rfl⟩
    have hstale : e.1 ∈ d.stale p := List.mem_filterMap.2 ⟨e, he, by simp [ho]⟩
    have hgone : e.1 ∉ (d.disconnect p).2.pending := by
      intro hm
      exact ((keys_foldl_erase _ _ _).1 hm).2 hstale
    rw [h] at hgone
    exact hgone hmem
  · intro h
    rw [disconnect_of_unowned h]

end DialogRouter

end KerMP
