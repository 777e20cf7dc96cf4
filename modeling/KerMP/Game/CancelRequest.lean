/-
The request a client's cancellation names (`_install_cancel_interception` in `kermp_mod/hooks.py`).

A client's game keeps every request it has sent, by request id: the Sim it is for, and, once the host has said so, the id
of the interaction it became. The wrapper around `cancel_super_interaction` is given an interaction id. It does not look
it up: it walks the requests for the active Sim and names the last of them.

What the engine and the socket answer comes with the call (`CancelCall`).

- `cancelMessage`: the wrapper. `step`: the requests, the notifications and the cancellations of a history.
- `recorded_by_notification`: a recorded interaction id was recorded by a notification about that request.
- `cancel_names_request`: the message names a request with that interaction id, or none where there is none, exactly when
  such a request is the newest one of the active Sim, or neither the id nor the Sim has a request.
- `older_interaction_cancelled`: the first of two interactions is cancelled, and the second request is named.
-/
import KerMP.Game.TravelHooks
import KerMP.Lib.Dict
import KerMP.Lib.Prefixes

namespace KerMP.Game

open Py Prefixes

/-! ## The newest match -/

section Newest

variable {α : Type} {p : α → Bool}

/-- a loop over the list that remembers the last match -/
def newest (p : α → Bool) (l : List α) : Option α := l.foldl (fun r x => if p x then some x else r) none

theorem newest_concat (l : List α) (x : α) : newest p (l ++ [x]) = if p x then some x else newest p l := by
  simp [newest]

theorem newest_eq_none {l : List α} : newest p l = none ↔ ∀ x ∈ l, p x = false := by
  induction l using List.reverseRecOn with
  | nil => simp [newest]
  | append_singleton l x ih =>
    rw [newest_concat, List.forall_mem_append, List.forall_mem_singleton, ← ih]
    cases p x <;> simp

theorem newest_eq_some {l : List α} {x : α} :
    newest p l = some x ↔ ∃ before after, l = before ++ x :: after ∧ p x = true ∧ ∀ y ∈ after, p y = false := by
  constructor
  · intro h
    induction l using List.reverseRecOn with
    | nil => cases h
    | append_singleton l y ih =>
      rw [newest_concat] at h
      cases hy : p y with
      | true =>
        rw [hy, if_pos rfl] at h
        cases h
        exact ⟨l, [], rfl, hy, nofun⟩
      | false =>
        rw [hy, if_neg (by simp)] at h
        obtain ⟨before, after, rfl, hx, hafter⟩ := ih h
        refine ⟨before, after ++ [y], by simp, hx, ?_⟩
        intro z hz
        rcases List.mem_append.1 hz with hz | hz
        · exact hafter z hz
        · rw [List.mem_singleton.1 hz, hy]
  · rintro ⟨before, after, rfl, hx, hafter⟩
    induction after using List.reverseRecOn with
    | nil => rw [newest_concat, if_pos hx]
    | append_singleton after y ih =>
      have hy : p y = false := hafter y (by simp)
      rw [← List.cons_append, ← List.append_assoc, newest_concat, hy, if_neg (by simp)]
      exact ih fun z hz => hafter z (List.mem_append_left _ hz)

end Newest

namespace CancelRequest

/-! ## State and events -/

/-- an entry of `_interaction_request_by_id` -/
structure SentRequest where
  simId : String
  command : Option String
  interactionId : Option String
deriving DecidableEq

structure CancelHooks where
  /-- `_sidecar_role`; none: it is neither of the two -/
  sidecarRole : Option Role
  interactionRequestById : Dict String SentRequest
  queued : ℕ
  started : ℕ
  applyAccepted : ℕ
  lastError : Option String

def init : CancelHooks := ⟨none, ∅, 0, 0, 0, none⟩

/-- a call of `cancel_super_interaction`, with `_active_sim_id()` and what becomes of the message -/
structure CancelCall where
  superInteractionId : Json
  contextHandle : Json
  activeSimId : Option String
  sent : Except Exc Bool

/-- the payload of an `interaction.cancel` -/
structure CancelMessage where
  requestId : Option String
  simId : String
  interactionId : String
  contextHandle : String
deriving DecidableEq

/-- the message of the wrapper; none: the original command runs -/
def cancelMessage (g : CancelHooks) (c : CancelCall) : Option CancelMessage :=
  if g.sidecarRole = some .client then
    let item := newest (fun e => some e.2.simId = c.activeSimId) g.interactionRequestById.entries
    some ⟨item.map (·.1), c.activeSimId.getD "", c.superInteractionId.toStr, c.contextHandle.toStr⟩
  else none

/-- `str(payload.get('request_id') or '')` and the interaction id of a notification -/
def notified (payload : Json) : Except Exc (String × Json) := do
  let payload := payload.or (.obj [])
  let requestId ← payload.get "request_id"
  let interactionId ← payload.get "interaction_id"
  return ((requestId.or (.str "")).toStr, interactionId)

/-- the interaction id of a notification is recorded for the request it names -/
def record (g : CancelHooks) (payload : Json) : CancelHooks :=
  match notified payload with
  | .error _ => g
  | .ok (requestId, interactionId) =>
    if requestId ≠ "" ∧ interactionId.truthy ∧ requestId ∈ g.interactionRequestById then
      { g with interactionRequestById := g.interactionRequestById.mapItems fun k item =>
          if k = requestId then { item with interactionId := some interactionId.toStr } else item }
    else g

def interactionStarted (g : CancelHooks) (payload : Json) : CancelHooks :=
  let g := { g with started := g.started + 1 }
  let g := if g.sidecarRole = some .host then { g with applyAccepted := g.applyAccepted + 1 } else g
  record g payload

def interactionQueued (g : CancelHooks) (payload : Json) : CancelHooks :=
  record { g with queued := g.queued + 1 } payload

inductive CancelEvent where
  | welcome (role : Option Role)
  /-- a request is sent to the host and kept under its id -/
  | request (requestId simId : String) (command : Option String)
  | queued (payload : Json)
  | started (payload : Json)
  | cancel (c : CancelCall)

def step (g : CancelHooks) : CancelEvent → CancelHooks
  | .welcome role => { g with sidecarRole := role }
  | .request requestId simId command =>
    { g with interactionRequestById := g.interactionRequestById.setItem requestId ⟨simId, command, none⟩ }
  | .queued payload => interactionQueued g payload
  | .started payload => interactionStarted g payload
  | .cancel c =>
    if g.sidecarRole = some .client ∧ c.sent = .ok false then { g with lastError := some "bridge_disconnected" } else g

/-- the hooks after the first n events -/
def after (es : List CancelEvent) (n : ℕ) : CancelHooks := reached step init es n

/-! ## What is recorded -/

/-- the event is a notification that this request became this interaction -/
def Notifies (requestId interactionId : String) (ev : CancelEvent) : Prop :=
  ∃ payload v, (ev = .queued payload ∨ ev = .started payload) ∧ notified payload = .ok (requestId, v) ∧
    v.toStr = interactionId

theorem lookup_record {g : CancelHooks} {payload : Json} {rid i : String}
    (h : ((record g payload).interactionRequestById.lookup rid).bind (·.interactionId) = some i) :
    (∃ v, notified payload = .ok (rid, v) ∧ v.toStr = i) ∨
      (g.interactionRequestById.lookup rid).bind (·.interactionId) = some i := by
  unfold record at h
  split at h
  · exact Or.inr h
  · rename_i requestId v hnotified
    split_ifs at h
    · rw [AList.lookup_mapItems] at h
      by_cases hid : rid = requestId
      · subst hid
        obtain ⟨item, hitem, hi⟩ := Option.bind_eq_some_iff.1 h
        obtain ⟨item₀, -, rfl⟩ := Option.map_eq_some_iff.1 hitem
        rw [if_pos rfl] at hi
        exact Or.inl ⟨v, hnotified, Option.some.inj hi⟩
      · simp only [hid, if_false, Option.map_id'] at h
        exact Or.inr h
    · exact Or.inr h

/-- **Where a recorded id comes from.** A request has an interaction id recorded because a notification about it said
so. -/
theorem recorded_by_notification {es : List CancelEvent} {n : ℕ} {rid i : String}
    (h : ((after es n).interactionRequestById.lookup rid).bind (·.interactionId) = some i) :
    ∃ k < n, ∃ ev, es[k]? = some ev ∧ Notifies rid i ev := by
  have hstep : ∀ (g : CancelHooks) ev, ((step g ev).interactionRequestById.lookup rid).bind (·.interactionId) = some i →
      Notifies rid i ev ∨ ((g.interactionRequestById.lookup rid).bind (·.interactionId) = some i ∧ True) := by
    intro g ev h
    cases ev with
    | welcome role => exact Or.inr ⟨h, trivial⟩
    | request requestId simId command =>
      simp only [step, AList.lookup_setItem] at h
      split_ifs at h
      · cases h
      · exact Or.inr ⟨h, trivial⟩
    | queued payload =>
      rcases lookup_record h with ⟨v, hv⟩ | h
      · exact Or.inl ⟨payload, v, Or.inl rfl, hv⟩
      · exact Or.inr ⟨h, trivial⟩
    | started payload =>
      rcases lookup_record h with ⟨v, hv⟩ | h
      · exact Or.inl ⟨payload, v, Or.inr rfl, hv⟩
      · refine Or.inr ⟨?_, trivial⟩
        split_ifs at h <;> exact h
    | cancel c =>
      refine Or.inr ⟨?_, trivial⟩
      simp only [step] at h
      split_ifs at h <;> exact h
  obtain ⟨k, hk, ev, hev, hmakes, -⟩ := made_and_kept
    (Q := fun g : CancelHooks => (g.interactionRequestById.lookup rid).bind (·.interactionId) = some i)
    (by simp [init]) hstep h
  exact ⟨k, hk, ev, hev, hmakes⟩

/-! ## What is named -/

/-- the message names a request with its interaction id, or none if there is no such request -/
def NamesRight (g : CancelHooks) (m : CancelMessage) : Prop :=
  match m.requestId with
  | some rid => ∃ item, g.interactionRequestById.lookup rid = some item ∧ item.interactionId = some m.interactionId
  | none => ∀ rid item, g.interactionRequestById.lookup rid = some item → item.interactionId ≠ some m.interactionId

/-- a request with that interaction id is the newest one for the active Sim, or there is none with that id and none for
that Sim -/
def NewestOfSim (g : CancelHooks) (activeSimId : Option String) (interactionId : String) : Prop :=
  (∃ before rid item after, g.interactionRequestById.entries = before ++ ⟨rid, item⟩ :: after ∧
      item.interactionId = some interactionId ∧ some item.simId = activeSimId ∧
      ∀ e ∈ after, some e.2.simId ≠ activeSimId) ∨
    ∀ rid item, g.interactionRequestById.lookup rid = some item →
      item.interactionId ≠ some interactionId ∧ some item.simId ≠ activeSimId

/-- **Which cancellations name the right request.** In every history of requests, notifications and cancellations, a
cancellation for an interaction names a request with that interaction id recorded, or none where there is none, if and
only if the newest request of the active Sim has that id recorded, or no request has it and none is for that Sim. -/
theorem cancel_names_request (es : List CancelEvent) (n : ℕ) (c : CancelCall) (m : CancelMessage)
    (hm : cancelMessage (after es n) c = some m) :
    NamesRight (after es n) m ↔ NewestOfSim (after es n) c.activeSimId c.superInteractionId.toStr := by
  set g := after es n
  unfold cancelMessage at hm
  split_ifs at hm
  cases hm
  cases hnewest : newest (fun e : Σ _ : String, SentRequest => some e.2.simId = c.activeSimId)
      g.interactionRequestById.entries with
  | none =>
    have hnone : ∀ rid item, g.interactionRequestById.lookup rid = some item → some item.simId ≠ c.activeSimId := by
      intro rid item h
      simpa using newest_eq_none.1 hnewest ⟨rid, item⟩ (AList.mem_lookup_iff.1 h)
    constructor
    · intro h
      exact Or.inr fun rid item hitem => ⟨h rid item hitem, hnone rid item hitem⟩
    · rintro (⟨before, rid, item, rest, hentries, -, hsim, -⟩ | h)
      · have hmem : (⟨rid, item⟩ : Σ _ : String, SentRequest) ∈ g.interactionRequestById.entries := by simp [hentries]
        exact absurd hsim (hnone rid item (AList.mem_lookup_iff.2 hmem))
      · exact fun rid item hitem => (h rid item hitem).1
  | some e =>
    obtain ⟨before, rest, hentries, hsim, hrest⟩ := newest_eq_some.1 hnewest
    obtain ⟨rid, item⟩ := e
    have hitem : g.interactionRequestById.lookup rid = some item := AList.mem_lookup_iff.2 (by simp [hentries])
    constructor
    · rintro ⟨item', hitem', hid⟩
      rw [hitem] at hitem'
      cases hitem'
      exact Or.inl ⟨before, rid, item, rest, hentries, hid, by simpa using hsim, fun e he => by simpa using hrest e he⟩
    · rintro (⟨before', rid', item', rest', hentries', hid, hsim', hrest'⟩ | h)
      · -- the newest request of the Sim is one and the same
        have hsame : newest (fun e : Σ _ : String, SentRequest => some e.2.simId = c.activeSimId)
            g.interactionRequestById.entries = some ⟨rid', item'⟩ :=
          newest_eq_some.2 ⟨before', rest', hentries', by simpa using hsim', fun e he => by simpa using hrest' e he⟩
        rw [hnewest] at hsame
        cases hsame
        exact ⟨item, hitem, hid⟩
      · exact absurd (by simpa using hsim) (h rid item hitem).2

/-- a client's two interactions of Sim 77, both queued by the host; the given one is cancelled -/
def twoInteractions : List CancelEvent :=
  [.welcome (some .client), .request "local-a" "77" none, .request "local-b" "77" none,
    .queued (.obj [("request_id", .str "local-a"), ("interaction_id", .str "901")]),
    .queued (.obj [("request_id", .str "local-b"), ("interaction_id", .str "902")])]

def cancels (interactionId : ℤ) : CancelCall := ⟨.int interactionId, .int 0, some "77", .ok true⟩

theorem cancel_names_request_newest :
    NamesRight (after twoInteractions 5) ⟨some "local-b", "77", "902", "0"⟩ ↔
      NewestOfSim (after twoInteractions 5) (some "77") "902" :=
  cancel_names_request twoInteractions 5 (cancels 902) _ (by decide +kernel)

/-- the first interaction is cancelled, and the second request is named -/
theorem older_interaction_cancelled : ¬ ∀ es n c m, cancelMessage (after es n) c = some m → NamesRight (after es n) m := by
  intro h
  obtain ⟨item, hitem, hid⟩ := h twoInteractions 5 (cancels 901) ⟨some "local-b", "77", "901", "0"⟩ (by decide +kernel)
  have hlookup : (after twoInteractions 5).interactionRequestById.lookup "local-b" = some ⟨"77", none, some "902"⟩ := by
    decide +kernel
  rw [hlookup] at hitem
  cases hitem
  exact absurd hid (by decide)

end CancelRequest

end KerMP.Game
