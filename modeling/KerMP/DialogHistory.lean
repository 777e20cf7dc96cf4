/-
What becomes of a dialog (`kermp/routing.py`, `DialogRouter`), over whole histories of calls.

A dialog waits from the call that opens it until its owner answers or leaves. An answer takes the record out first and
looks at the sender then: from anybody else the record is put back, at the end, under the same id. Ids are fresh, so a
record under an id is the one record that was ever opened under it (`made_and_kept`).

- `lookup_call`: a record that waits after a call was opened by it, or waited before and was not taken out by it.
- `answered_once_by_owner`: at most one answer for each dialog, by its owner, with the record it was opened with, and
  none after the owner has left; a refused answer changes no record.
- `sessionCalls_dialogs`: the dialogs of a session are those of the calls that concern them.
-/
import KerMP.Lib.Prefixes
import KerMP.SessionMembers

namespace KerMP

open Py Prefixes

/-! ## Calls -/

/-- the calls of a `DialogRouter`; `uuid` is the id drawn -/
inductive DialogCall where
  | openDialog (owner dialogType : String) (payload : List (String × Json)) (uuid : String)
  | respond (playerId dialogId : String) (response : List (String × Json))
  | disconnect (playerId : String)

/-- the id a call opens a dialog under -/
def DialogCall.opens : DialogCall → Option String
  | .openDialog _ _ _ uuid => some uuid
  | _ => none

/-- no id is drawn twice -/
def FreshIds (cs : List DialogCall) : Prop := cs.Pairwise fun c c' => c.opens = none ∨ c.opens ≠ c'.opens

instance (cs : List DialogCall) : Decidable (FreshIds cs) := by
  unfold FreshIds; infer_instance

namespace DialogRouter

def call (d : DialogRouter) : DialogCall → DialogRouter
  | .openDialog owner dialogType payload uuid => (d.openDialog owner dialogType payload uuid).2
  | .respond playerId dialogId response => (d.respond playerId dialogId response).2
  | .disconnect playerId => (d.disconnect playerId).2

/-- the router after the first n calls of a history -/
def after (cs : List DialogCall) (n : ℕ) : DialogRouter := reached call init cs n

/-- what the n-th call, an answer, brings: the answer as it is passed on, or the refusal -/
def Responds (cs : List DialogCall) (n : ℕ) (playerId dialogId : String) (response : List (String × Json))
    (r : Except Exc Json) : Prop :=
  cs[n]? = some (.respond playerId dialogId response) ∧ ((after cs n).respond playerId dialogId response).1 = r

/-- `{**record, "response": dict(response)}` -/
def answer (r : DialogRecord) (response : List (String × Json)) : Json :=
  .obj [("dialog_id", .str r.dialogId), ("owner_player_id", .str r.ownerPlayerId), ("dialog_type", .str r.dialogType),
    ("payload", .obj r.payload), ("response", .obj response)]

/-! ## One call -/

theorem respond_eq_ok {d : DialogRouter} {p k : String} {response : List (String × Json)} {j : Json} :
    (d.respond p k response).1 = .ok j ↔
      ∃ r, d.pending.lookup k = some r ∧ r.ownerPlayerId = p ∧ j = answer r response := by
  unfold respond
  cases hr : d.pending.lookup k with
  | none => simp
  | some r =>
    by_cases ho : r.ownerPlayerId = p
    · simp [ho, answer, eq_comm]
    · simp [ho]

theorem lookup_respond {d : DialogRouter} {p k : String} {response : List (String × Json)} (k' : String) :
    (d.respond p k response).2.pending.lookup k' =
      if k' = k ∧ ∃ r, d.pending.lookup k = some r ∧ r.ownerPlayerId = p then none else d.pending.lookup k' := by
  unfold respond
  cases hr : d.pending.lookup k with
  | none => simp
  | some r =>
    by_cases ho : r.ownerPlayerId = p
    · simp [ho, AList.lookup_erase_eq]
    · -- the record goes back under its id
      have hnot : ¬ (k' = k ∧ ∃ r', some r = some r' ∧ r'.ownerPlayerId = p) := by simp [ho]
      simp only [ne_eq, ho, not_false_eq_true, if_true, if_neg hnot, AList.lookup_setItem, AList.lookup_erase_eq]
      split_ifs with hk
      · rw [hk, hr]
      · rfl

/-- a refused answer changes no record -/
theorem lookup_refused {d : DialogRouter} {p k : String} {response : List (String × Json)} {e : Exc}
    (h : (d.respond p k response).1 = .error e) (k' : String) :
    (d.respond p k response).2.pending.lookup k' = d.pending.lookup k' := by
  rw [lookup_respond, if_neg]
  rintro ⟨-, r, hr, ho⟩
  have hok : (d.respond p k response).1 = .ok (answer r response) := respond_eq_ok.2 ⟨r, hr, ho, rfl⟩
  rw [hok] at h
  cases h

theorem lookup_foldl_erase (ks : List String) (m : Dict String DialogRecord) (k : String) :
    (ks.foldl (fun p k => p.erase k) m).lookup k = if k ∈ ks then none else m.lookup k := by
  induction ks generalizing m with
  | nil => simp
  | cons k₀ ks ih =>
    rw [List.foldl_cons, ih, AList.lookup_erase_eq]
    by_cases hk : k ∈ ks <;> by_cases hk₀ : k = k₀ <;> simp [hk, hk₀]

/-- a departure takes the dialogs of that player out -/
theorem lookup_disconnect {d : DialogRouter} {p k : String} {r : DialogRecord} :
    (d.disconnect p).2.pending.lookup k = some r ↔ d.pending.lookup k = some r ∧ r.ownerPlayerId ≠ p := by
  have hstale : ∀ r, d.pending.lookup k = some r → (k ∈ d.stale p ↔ r.ownerPlayerId = p) := by
    intro r hr
    rw [stale, List.mem_filterMap]
    constructor
    · rintro ⟨e, he, hk⟩
      split_ifs at hk with ho
      cases hk
      have hlookup : d.pending.lookup e.1 = some e.2 := AList.mem_lookup_iff.2 he
      rw [hr] at hlookup
      cases hlookup
      exact ho
    · intro ho
      exact ⟨⟨k, r⟩, AList.mem_lookup_iff.1 hr, by simp [ho]⟩
  simp only [disconnect, lookup_foldl_erase]
  constructor
  · intro h
    split_ifs at h with hk
    exact ⟨h, fun ho => hk ((hstale r h).2 ho)⟩
  · rintro ⟨h, ho⟩
    rw [if_neg fun hk => ho ((hstale r h).1 hk), h]

/-- the call opens the record -/
def Makes (k : String) (r : DialogRecord) (d : DialogRouter) (c : DialogCall) : Prop :=
  c = .openDialog r.ownerPlayerId r.dialogType r.payload k ∧
    (d.openDialog r.ownerPlayerId r.dialogType r.payload k).1 = .ok r

/-- the call takes the record neither for an answer nor with its owner -/
def Keeps (k : String) (r : DialogRecord) (d : DialogRouter) (c : DialogCall) : Prop :=
  c ≠ .disconnect r.ownerPlayerId ∧ ∀ p response j, c = .respond p k response → (d.respond p k response).1 ≠ .ok j

/-- **A record that waits after a call** was opened by it, or waited before and was not taken out. -/
theorem lookup_call {d : DialogRouter} {c : DialogCall} {k : String} {r : DialogRecord}
    (h : (d.call c).pending.lookup k = some r) : Makes k r d c ∨ (d.pending.lookup k = some r ∧ Keeps k r d c) := by
  cases c with
  | openDialog owner dialogType payload uuid =>
    have hkeeps : Keeps k r d (.openDialog owner dialogType payload uuid) := ⟨nofun, nofun⟩
    simp only [call, openDialog] at h
    split_ifs at h with hsize
    · exact Or.inr ⟨h, hkeeps⟩
    · rcases AList.lookup_setItem_eq_some.1 h with ⟨rfl, rfl⟩ | ⟨-, hold⟩
      · exact Or.inl ⟨rfl, by simp only [openDialog, if_neg hsize]⟩
      · exact Or.inr ⟨hold, hkeeps⟩
  | respond p k' response =>
    simp only [call, lookup_respond] at h
    split_ifs at h with htaken
    refine Or.inr ⟨h, nofun, ?_⟩
    intro p' response' j hc hok
    cases hc
    obtain ⟨r', hr', ho, -⟩ := respond_eq_ok.1 hok
    exact htaken ⟨rfl, r', hr', ho⟩
  | disconnect p =>
    obtain ⟨h, ho⟩ := lookup_disconnect.1 h
    refine Or.inr ⟨h, fun hp => ?_, nofun⟩
    cases hp
    exact ho rfl

/-! ## Histories -/

theorem opened_once {cs : List DialogCall} (hfresh : FreshIds cs) {m m' : ℕ} {c c' : DialogCall} {k : String}
    (hc : cs[m]? = some c) (hc' : cs[m']? = some c') (hk : c.opens = some k) (hk' : c'.opens = some k) : m = m' := by
  obtain ⟨hm, rfl⟩ := List.getElem?_eq_some_iff.1 hc
  obtain ⟨hm', rfl⟩ := List.getElem?_eq_some_iff.1 hc'
  have hpairs := List.pairwise_iff_getElem.1 hfresh
  rcases Nat.lt_trichotomy m m' with hlt | heq | hlt
  · rcases hpairs m m' hm hm' hlt with hnone | hne
    · rw [hk] at hnone
      cases hnone
    · exact absurd (hk.trans hk'.symm) hne
  · exact heq
  · rcases hpairs m' m hm' hm hlt with hnone | hne
    · rw [hk'] at hnone
      cases hnone
    · exact absurd (hk'.trans hk.symm) hne

/-- the record an answer finds: opened earlier for the one who answers, and not taken out in between -/
theorem responds_ok {cs : List DialogCall} {n : ℕ} {p k : String} {response : List (String × Json)} {j : Json}
    (h : Responds cs n p k response (.ok j)) : ∃ r : DialogRecord, r.ownerPlayerId = p ∧ j = answer r response ∧
      ∃ m < n, ∃ c, cs[m]? = some c ∧ Makes k r (after cs m) c ∧
        ∀ i c', m < i → i < n → cs[i]? = some c' → Keeps k r (after cs i) c' := by
  obtain ⟨r, hr, ho, hj⟩ := respond_eq_ok.1 h.2
  have hempty : ¬ init.pending.lookup k = some r := by simp [init]
  have hstep : ∀ d c, (call d c).pending.lookup k = some r →
      Makes k r d c ∨ (d.pending.lookup k = some r ∧ Keeps k r d c) := fun _ _ => lookup_call
  exact ⟨r, ho, hj, made_and_kept (Q := fun d : DialogRouter => d.pending.lookup k = some r) hempty hstep hr⟩

/-- of two answers for one dialog the later one is refused -/
theorem not_answered_again {cs : List DialogCall} (hfresh : FreshIds cs) {n n' : ℕ} {p p' k : String}
    {response response' : List (String × Json)} {j j' : Json} (h : Responds cs n p k response (.ok j))
    (h' : Responds cs n' p' k response' (.ok j')) : ¬ n < n' := by
  intro hlt
  obtain ⟨r, -, -, m, hmn, c, hc, hmakes, -⟩ := responds_ok h
  obtain ⟨r', -, -, m', -, c', hc', hmakes', hkeeps'⟩ := responds_ok h'
  obtain rfl : m = m' := opened_once hfresh hc hc' (by rw [hmakes.1]; rfl) (by rw [hmakes'.1]; rfl)
  exact (hkeeps' n _ hmn hlt h.1).2 p response j rfl h.2

/-- **Dialogs are answered once, by their owner.** Whatever dialogs are opened under fresh ids, whoever answers and
whoever leaves, in any order: a dialog has at most one answer that is passed on; it comes from the player the dialog was
opened for and carries the record as it was opened; once that player has left, no dialog opened for it before is
answered; and a refused answer leaves every record as it was. -/
theorem answered_once_by_owner (cs : List DialogCall) (hfresh : FreshIds cs) :
    (∀ n n' p p' k response response' j j', Responds cs n p k response (.ok j) →
      Responds cs n' p' k response' (.ok j') → n = n') ∧
    (∀ n p k response j, Responds cs n p k response (.ok j) → ∃ m < n, ∃ r : DialogRecord,
      cs[m]? = some (.openDialog p r.dialogType r.payload k) ∧
        ((after cs m).openDialog p r.dialogType r.payload k).1 = .ok r ∧ j = answer r response) ∧
    (∀ m d n owner dialogType payload p k response j, cs[m]? = some (.openDialog owner dialogType payload k) →
      cs[d]? = some (.disconnect owner) → m < d → d < n → ¬ Responds cs n p k response (.ok j)) ∧
    (∀ n p k response e, Responds cs n p k response (.error e) → ∀ k',
      (after cs (n + 1)).pending.lookup k' = (after cs n).pending.lookup k') := by
  refine ⟨?_, ?_, ?_, ?_⟩
  · intro n n' p p' k response response' j j' h h'
    have hle := not_answered_again hfresh h h'
    have hge := not_answered_again hfresh h' h
    omega
  · intro n p k response j h
    obtain ⟨r, rfl, hj, m, hmn, c, hc, ⟨rfl, hopened⟩, -⟩ := responds_ok h
    exact ⟨m, hmn, r, hc, hopened, hj⟩
  · intro m d n owner dialogType payload p k response j hopened hleft hmd hdn h
    obtain ⟨r, -, -, m', -, c, hc, hmakes, hkeeps⟩ := responds_ok h
    obtain rfl : m = m' := opened_once hfresh hopened hc rfl (by rw [hmakes.1]; rfl)
    rw [hc, hmakes.1] at hopened
    cases hopened
    exact (hkeeps d _ hmd hdn hleft).1 rfl
  · intro n p k response e h k'
    rw [after, reached_succ h.1]
    exact lookup_refused h.2 k'

/-- alice has two dialogs; bob tries one, she answers it, and leaves -/
def twoDialogs : List DialogCall :=
  [.openDialog "alice" "yes_no" [("text", .str "Continue?")] "d1", .openDialog "alice" "ok" [] "d2",
    .respond "bob" "d1" [], .respond "alice" "d1" [("accepted", .bool true)], .disconnect "alice",
    .respond "alice" "d2" []]

theorem answered_once_by_owner_two :
    (∀ n n' p p' k response response' j j', Responds twoDialogs n p k response (.ok j) →
      Responds twoDialogs n' p' k response' (.ok j') → n = n') ∧
    (∀ n p k response j, Responds twoDialogs n p k response (.ok j) → ∃ m < n, ∃ r : DialogRecord,
      twoDialogs[m]? = some (.openDialog p r.dialogType r.payload k) ∧
        ((after twoDialogs m).openDialog p r.dialogType r.payload k).1 = .ok r ∧ j = answer r response) ∧
    (∀ m d n owner dialogType payload p k response j, twoDialogs[m]? = some (.openDialog owner dialogType payload k) →
      twoDialogs[d]? = some (.disconnect owner) → m < d → d < n → ¬ Responds twoDialogs n p k response (.ok j)) ∧
    (∀ n p k response e, Responds twoDialogs n p k response (.error e) → ∀ k',
      (after twoDialogs (n + 1)).pending.lookup k' = (after twoDialogs n).pending.lookup k') :=
  answered_once_by_owner twoDialogs (by decide +kernel)

/-- in that history alice's answer is passed on -/
example : Responds twoDialogs 3 "alice" "d1" [("accepted", .bool true)] (.ok (answer ⟨"d1", "alice", "yes_no",
    [("text", .str "Continue?")]⟩ [("accepted", .bool true)])) :=
  ⟨rfl, by rfl⟩

end DialogRouter

/-! ## The dialogs of a session -/

namespace HostSession

/-- what a call of the session is for its dialogs -/
def SessionCall.forDialogs : SessionCall → Option DialogCall
  | .openDialog owner dialogType payload uuid => some (.openDialog owner dialogType payload uuid)
  | .respond playerId dialogId response => some (.respond playerId dialogId response)
  | .roster (.removePlayer playerId) => some (.disconnect playerId)
  | _ => none

theorem sessionCall_dialogs (s : HostSession) (c : SessionCall) :
    (s.sessionCall c).dialogs = c.forDialogs.elim s.dialogs s.dialogs.call := by
  have htravelled : ∀ {α : Type} (r : Except Exc (α × Travel.TravelCoordinator)),
      (s.travelled r).dialogs = s.dialogs := by
    intro α r
    cases r <;> rfl
  cases c with
  | roster c =>
    cases c with
    | removePlayer id => exact (removePlayer_eq s id).2.2.2.2.1
    | addPlayer id name m => exact (addPlayerMaybe_keeps s id name m).2.1
    | updateSims sims =>
      simp only [sessionCall, SessionCall.forDialogs, Option.elim_none]
      rcases call_updateSims s sims with hcall | ⟨r, hcall⟩
      · rw [hcall]
      · rw [hcall]
    | selectSim id simId =>
      simp only [sessionCall, SessionCall.forDialogs, Option.elim_none]
      rcases call_selectSim s id simId with ⟨hcall, -⟩ | ⟨player, -, -, hcall⟩
      · rw [hcall]
      · rw [hcall]
        rfl
  | propose | markReady | beginZoneWait | markZoneReady | abort => exact htravelled _
  | _ => rfl

/-- **A session keeps its dialogs by these calls.** Departures of players are the disconnects. -/
theorem sessionCalls_dialogs (s : HostSession) (cs : List SessionCall) :
    (s.sessionCalls cs).dialogs = (cs.filterMap SessionCall.forDialogs).foldl DialogRouter.call s.dialogs := by
  induction cs generalizing s with
  | nil => rfl
  | cons c cs ih =>
    have hstep := sessionCall_dialogs s c
    rw [List.filterMap_cons, show s.sessionCalls (c :: cs) = (s.sessionCall c).sessionCalls cs from rfl, ih, hstep]
    cases c.forDialogs <;> rfl

end HostSession

end KerMP
