/-
The ready message that completes the barrier (`HostRuntime._travel_ready` of `kermp/runtime.py`).

Its handler has the travel committed, then awaits two broadcasts, and only then calls `begin_zone_wait`. Meanwhile other
handlers go on: `mark_zone_ready` and `abort` take a committed travel too, players join and leave.

- `commit_reached`: the handler gets through without an exception, and keeps what was acknowledged or aborted
  meanwhile, if and only if the others neither take the travel out of its committed phase while the handler waits, nor
  change the number of peers while it waits for a socket.
- `commit_overtaken`: the host's own game reports its zone while `travel.commit` is written to a client, and the client's
  handler raises.
-/
import KerMP.Host.Broadcast
import KerMP.Host.Outcome

namespace KerMP

open Py

namespace Travel

open TravelCoordinator

/-! ## Committed, or past that -/

/-- the transaction is under way and committed -/
def CommittedIn (txnId : String) (c : TravelCoordinator) : Prop :=
  ∃ t, c.current = some t ∧ t.txnId = txnId ∧ t.phase = .committed

/-- if the transaction is still there, it has left the committed phase -/
def PassedIn (txnId : String) (c : TravelCoordinator) : Prop :=
  ∀ t, c.current = some t → t.txnId = txnId →
    t.phase = .waitingZoneReady ∨ t.phase = .complete ∨ t.phase = .aborted

theorem not_passed_of_committed {txnId : String} {c : TravelCoordinator} (h : CommittedIn txnId c) :
    ¬ PassedIn txnId c := by
  obtain ⟨t, ht, hid, hp⟩ := h
  intro hpassed
  have := hpassed t ht hid
  simp [hp] at this

variable {txnId : String} {c c' : TravelCoordinator} {o : Op}

/-- a transaction that is past its commit stays past it -/
theorem Change.passed (h : Change c o c') (hnew : o.newId ≠ some txnId) (hpassed : PassedIn txnId c) :
    PassedIn txnId c' := by
  cases h with
  | same => exact hpassed
  | propose z as ps u ha hp =>
    intro t ht hid
    cases ht
    exact absurd (congrArg some hid) hnew
  | ready t p ht hw hr | commit t p ht hw hr =>
    intro t' ht' hid
    cases ht'
    have := hpassed t ht hid
    simp [hw] at this
  | zoneWait t ht hp => exact fun t' ht' _ => by cases ht'; exact Or.inl rfl
  | zoneReady t p ht hp hz => exact fun t' ht' _ => by cases ht'; exact Or.inl rfl
  | complete t p ht hp hz => exact fun t' ht' _ => by cases ht'; exact Or.inr (Or.inl rfl)
  | abort t ht => exact fun t' ht' _ => by cases ht'; exact Or.inr (Or.inr rfl)
  | leave t p ht hf =>
    intro t' ht' hid
    cases ht'
    obtain ⟨hw, -, -⟩ | ⟨-, -, he⟩ | ⟨he, -, -⟩ := phaseAfterLeave_cases (t.without p)
    · have hpt := hpassed t ht hid
      have hw' : t.phase = .waitingReady := hw
      simp [hw'] at hpt
    · exact Or.inr (Or.inl he)
    · rw [he]
      exact hpassed t ht hid

/-- a departure leaves a committed transaction committed -/
theorem Change.leave_committed {p : String} (h : Change c (.removeParticipant p) c') (hc : CommittedIn txnId c) :
    CommittedIn txnId c' := by
  obtain ⟨t₀, ht₀, hid₀, hp₀⟩ := hc
  cases h with
  | same => exact ⟨t₀, ht₀, hid₀, hp₀⟩
  | leave t p ht hf =>
    rw [ht] at ht₀
    cases ht₀
    refine ⟨_, rfl, hid₀, ?_⟩
    unfold phaseAfterLeave
    have hp : (t₀.without p).phase = .committed := hp₀
    simp [hp]

/-- a committed transaction stays committed, or gets past it -/
theorem Change.committed (h : Change c o c') (hnew : o.newId ≠ some txnId) (hc : CommittedIn txnId c) :
    CommittedIn txnId c' ∨ PassedIn txnId c' := by
  obtain ⟨t₀, ht₀, hid₀, hp₀⟩ := hc
  cases h with
  | same => exact Or.inl ⟨t₀, ht₀, hid₀, hp₀⟩
  | propose z as ps u ha hp =>
    refine Or.inr fun t ht hid => ?_
    cases ht
    exact absurd (congrArg some hid) hnew
  | ready t p ht hw hr | commit t p ht hw hr =>
    rw [ht] at ht₀
    cases ht₀
    rw [hw] at hp₀
    cases hp₀
  | zoneWait t ht hp => exact Or.inr fun t' ht' _ => by cases ht'; exact Or.inl rfl
  | zoneReady t p ht hp hz => exact Or.inr fun t' ht' _ => by cases ht'; exact Or.inl rfl
  | complete t p ht hp hz => exact Or.inr fun t' ht' _ => by cases ht'; exact Or.inr (Or.inl rfl)
  | abort t ht => exact Or.inr fun t' ht' _ => by cases ht'; exact Or.inr (Or.inr rfl)
  | leave t p ht hf => exact Or.inl ((Change.leave t p ht hf).leave_committed ⟨t₀, ht₀, hid₀, hp₀⟩)

theorem run_passed (ops : List Op) (hnew : ∀ o ∈ ops, o.newId ≠ some txnId) (h : PassedIn txnId c) :
    PassedIn txnId (run c ops) := by
  induction ops generalizing c with
  | nil => exact h
  | cons o ops ih =>
    exact ih (fun o' ho' => hnew o' (List.mem_cons_of_mem o ho'))
      ((step_change c o).passed (hnew o List.mem_cons_self) h)

theorem run_committed (ops : List Op) (hnew : ∀ o ∈ ops, o.newId ≠ some txnId) (h : CommittedIn txnId c) :
    CommittedIn txnId (run c ops) ∨ PassedIn txnId (run c ops) := by
  induction ops generalizing c with
  | nil => exact Or.inl h
  | cons o ops ih =>
    have hrest : ∀ o' ∈ ops, o'.newId ≠ some txnId := fun o' ho' => hnew o' (List.mem_cons_of_mem o ho')
    rcases (step_change c o).committed (hnew o List.mem_cons_self) h with h | h
    · exact ih hrest h
    · exact Or.inr (run_passed ops hrest h)

/-- a committed transaction is what `begin_zone_wait` asks for -/
theorem beginZoneWait_iff : (∃ c', c.beginZoneWait txnId = .ok c') ↔ CommittedIn txnId c := by
  constructor
  · rintro ⟨c', h⟩
    obtain ⟨t, ht, hid, hp, -⟩ := beginZoneWait_ok h
    exact ⟨t, ht, hid, hp⟩
  · rintro ⟨t, ht, rfl, hp⟩
    refine ⟨{ c with current := some { t with phase := .waitingZoneReady } }, ?_⟩
    unfold beginZoneWait
    rw [getTxn_eq ht]
    simp [hp, bind, Except.bind, pure, Except.pure]

/-! ## Progress -/

/-- the transaction stays, an abort stays, and so does every zone acknowledgement of a participant -/
def Progress (c c' : TravelCoordinator) : Prop :=
  ∀ t, c.current = some t → ∃ t', c'.current = some t' ∧ t'.txnId = t.txnId ∧
    (t.phase = .aborted → t'.phase = .aborted) ∧ ∀ q ∈ t.zoneReady, q ∈ t'.participants → q ∈ t'.zoneReady

theorem Progress.refl (c : TravelCoordinator) : Progress c c := fun t ht => ⟨t, ht, rfl, id, fun _ hq _ => hq⟩

/-- the calls of a ready message's handler -/
def Op.ofReady : Op → Bool
  | .markReady _ _ _ | .beginZoneWait _ | .removeParticipant _ => true
  | _ => false

theorem Change.progress (h : Change c o c') (ho : o.ofReady = true) : Progress c c' := by
  cases h with
  | same => exact Progress.refl c
  | ready t p ht hw hr | commit t p ht hw hr =>
    intro t₀ ht₀
    rw [ht] at ht₀
    cases ht₀
    exact ⟨_, rfl, rfl, fun ha => by simp [hw] at ha, fun _ hq _ => hq⟩
  | zoneWait t ht hp =>
    intro t₀ ht₀
    rw [ht] at ht₀
    cases ht₀
    exact ⟨_, rfl, rfl, fun ha => by simp [hp] at ha, fun _ hq _ => hq⟩
  | leave t p ht hf =>
    intro t₀ ht₀
    rw [ht] at ht₀
    cases ht₀
    refine ⟨_, rfl, rfl, fun ha => ?_, fun q hq hmem => ?_⟩
    · rw [ha] at hf
      cases hf
    · exact Finset.mem_erase.2 ⟨(Finset.mem_erase.1 hmem).1, hq⟩
  | propose | zoneReady | complete | abort => cases ho

end Travel

namespace Host

open Coop
open Coro hiding pure get modify
open Travel

/-! ## Turns -/

def Committed (txnId : String) (h : Host) : Prop := CommittedIn txnId h.session.travel

def PastCommit (txnId : String) (h : Host) : Prop := PassedIn txnId h.session.travel

/-- what others do to the travel is calls on the coordinator, and a new travel gets an id of its own -/
def Meanwhile (txnId : String) (h h' : Host) : Prop :=
  ∃ ops, h'.session.travel = run h.session.travel ops ∧ ∀ o ∈ ops, o.newId ≠ some txnId

def Progressing (h h' : Host) : Prop := Progress h.session.travel h'.session.travel

/-- all that a broadcast does to the travel is to take an unreachable player out of it -/
def Departs (h h' : Host) : Prop :=
  h'.session.travel = h.session.travel ∨ ∃ p, Change h.session.travel (.removeParticipant p) h'.session.travel

theorem departs_note (h : Host) (o : Out) : Departs h (h.note o) := Or.inl rfl

theorem Departs.progress {h h' : Host} (hd : Departs h h') : Progressing h h' := by
  rcases hd with he | ⟨p, hc⟩
  · unfold Progressing
    rw [he]
    exact Progress.refl _
  · exact hc.progress rfl

theorem Departs.past {h h' : Host} (hd : Departs h h') {txnId : String} (hp : PastCommit txnId h) :
    PastCommit txnId h' := by
  rcases hd with he | ⟨p, hc⟩
  · unfold PastCommit
    rw [he]
    exact hp
  · exact hc.passed (fun h => by cases h) hp

theorem Departs.committed {h h' : Host} (hd : Departs h h') {txnId : String} (hc : Committed txnId h) :
    Committed txnId h' := by
  rcases hd with he | ⟨p, hchange⟩
  · unfold Committed
    rw [he]
    exact hc
  · exact hchange.leave_committed hc

theorem departs_of_on {h h' : Host} (hon : On [.session, .member] h h') : Departs h h' := by
  obtain ⟨l, hl, d⟩ := hon
  rcases d.change with he | ⟨o, ho, hc⟩
  · exact Or.inl he
  · cases l with
    | drop p =>
      obtain rfl : o = _ := ho
      exact Or.inr ⟨p, hc⟩
    | propose | abort | zoneWait | ackReady | ackZone => simp [Label.topic] at hl
    | _ => exact ho.elim

theorem departs_broadcast (type : MessageType) (payload : Payload) : Guar Departs (broadcastPeers type payload) := by
  refine guar_broadcastPeers_of (fun _ _ => departs_of_on) (fun h _ _ _ => departs_note h _) ?_ payload
  rintro h h' (rfl | ⟨seq, rfl⟩ | ⟨player, conn, env, rfl, rfl⟩)
  · exact Or.inl rfl
  · exact departs_note h _
  · exact departs_note h _

theorem departs_bridgeSend (type : MessageType) (payload : Payload) : Guar Departs (bridgeSend type payload) :=
  guar_bind guar_askEnv fun _ => guar_call fun h => departs_note h _

/-- the announcements of the commit, up to `begin_zone_wait` -/
def announcements (txn : TravelTxn) : HostM Unit := do
  broadcastPeers .travelViewBatch (.val (viewBatch txn "begin"))
  let _ ← bridgeSend .travelViewBatch (.val (viewBatch txn "begin"))
  let _ ← bridgeSend .travelCommit (.val (commitPayload txn))
  broadcastPeers .travelCommit (.val (commitPayload txn))

theorem departs_announcements (txn : TravelTxn) : Guar Departs (announcements txn) :=
  guar_bind (departs_broadcast _ _) fun _ => guar_bind (departs_bridgeSend _ _) fun _ =>
    guar_bind (departs_bridgeSend _ _) fun _ => departs_broadcast _ _

theorem announceCommit_eq (txnId : String) : announceCommit txnId = (do
    let h ← Coro.get
    match h.session.travel.current with
    | none => .raise .assertionError
    | some txn => announcements txn >>= fun _ => beginZoneWait txnId) := by
  unfold announceCommit announcements
  refine congrArg (Coro.get >>= ·) (funext fun h => ?_)
  cases h.session.travel.current with
  | none => rfl
  | some txn => simp only [Coro.bind_assoc]

theorem bridgeSend_alongside {type : MessageType} {payload : Payload} {h h' : Host} {turns : List (Turn Host)}
    {r : Except Exc Bool} (hrun : Alongside (bridgeSend type payload) h turns r h') :
    (∃ b, r = .ok b) ∧ OthersDo (fun _ _ => False) turns := by
  obtain ⟨a, hcall⟩ := alongside_askEnv_bind.1 hrun
  obtain ⟨rfl, rfl, -⟩ := alongside_call.1 hcall
  exact ⟨⟨_, rfl⟩, by simp⟩

theorem announcements_ok_iff {txn : TravelTxn} {h h' : Host} {turns : List (Turn Host)} {r : Except Exc Unit}
    (hrun : Alongside (announcements txn) h turns r h') : r = .ok () ↔ OthersDo SameSize turns := by
  have hnever : ∀ {ts : List (Turn Host)}, OthersDo (fun _ _ => False) ts → OthersDo SameSize ts :=
    fun hts => hts.imp fun _ _ hf => hf.elim
  rcases alongside_bind.1 hrun with ⟨e, rfl, hfirst⟩ | ⟨_, h₁, ts₁, ts, rfl, hfirst, hrest⟩
  · exact broadcast_ok_iff hfirst
  rcases alongside_bind.1 hrest with ⟨e, -, hsend⟩ | ⟨_, h₂, ts₂, ts', rfl, hsend, hrest'⟩
  · obtain ⟨⟨b, hb⟩, -⟩ := bridgeSend_alongside hsend
    cases hb
  rcases alongside_bind.1 hrest' with ⟨e, -, hsend'⟩ | ⟨_, h₃, ts₃, ts'', rfl, hsend', hlast⟩
  · obtain ⟨⟨b, hb⟩, -⟩ := bridgeSend_alongside hsend'
    cases hb
  rw [broadcast_ok_iff hlast]
  simp only [othersDo_append]
  have hfirst' := (broadcast_ok_iff hfirst).1 rfl
  exact ⟨fun h => ⟨hfirst', hnever (bridgeSend_alongside hsend).2, hnever (bridgeSend_alongside hsend').2, h⟩,
    fun h => h.2.2.2⟩

/-- the handler gets through exactly when its broadcasts do and it then finds the travel committed -/
theorem announceCommit_ok_iff {txnId : String} {h h' : Host} {turns : List (Turn Host)} {r : Except Exc Unit}
    {txn : TravelTxn} (ht : h.session.travel.current = some txn) (hrun : Alongside (announceCommit txnId) h turns r h') :
    ∃ ts h₁ r₁, Alongside (announcements txn) h ts r₁ h₁ ∧
      ((∃ e, r₁ = .error e ∧ r = .error e ∧ turns = .own h h :: ts) ∨
        r₁ = .ok () ∧ (∃ h₂, turns = .own h h :: (ts ++ [.own h₁ h₂]) ∧ Progressing h₁ h₂) ∧
          (r = .ok () ↔ Committed txnId h₁)) := by
  rw [announceCommit_eq] at hrun
  obtain ⟨ts, rfl, hrest⟩ := alongside_get_bind.1 hrun
  rw [ht] at hrest
  rcases alongside_bind.1 hrest with ⟨e, rfl, hfirst⟩ | ⟨_, h₁, ts₁, ts₂, rfl, hfirst, hlast⟩
  · exact ⟨ts, h', _, hfirst, Or.inl ⟨e, rfl, rfl, rfl⟩⟩
  obtain ⟨rfl, rfl, -⟩ := alongside_tryCall.1 hlast
  refine ⟨ts₁, h₁, _, hfirst, Or.inr ⟨rfl, ⟨_, rfl, ?_⟩, ?_⟩⟩
  · have hchange := step_change h₁.session.travel (.beginZoneWait txnId)
    dsimp only
    cases hb : h₁.session.travel.beginZoneWait txnId with
    | error e => exact Progress.refl _
    | ok c =>
      rw [step_ok (by rw [Travel.call, hb]; rfl)] at hchange
      exact hchange.progress rfl
  · rw [Committed, ← beginZoneWait_iff]
    dsimp only
    cases h₁.session.travel.beginZoneWait txnId with
    | error e => simp [Except.map]
    | ok c => simp [Except.map]

/-- the others leave the travel in its committed phase -/
def Unpassed (txnId : String) (h h' : Host) : Prop := Committed txnId h → Committed txnId h'

/-- what the announcements keep of the travel, and what the others must -/
theorem announcements_committed {txn : TravelTxn} {txnId : String} {h h' : Host} {turns : List (Turn Host)}
    {r : Except Exc Unit} (hrun : Alongside (announcements txn) h turns r h')
    (hothers : OthersDo (Meanwhile txnId) turns) (hc : Committed txnId h) :
    Committed txnId h' ↔ OthersDo (Unpassed txnId) turns := by
  have hown := hrun.own_of_guar (departs_announcements txn)
  have hpastOwn : OwnDo (fun a b => PastCommit txnId a → PastCommit txnId b) turns :=
    fun a b hab hp => (hown a b hab).past hp
  have hpastOthers : OthersDo (fun a b => PastCommit txnId a → PastCommit txnId b) turns := by
    intro a b hab hp
    obtain ⟨ops, he, hnew⟩ := hothers a b hab
    unfold PastCommit
    rw [he]
    exact run_passed ops hnew hp
  constructor
  · intro hend a b hab hca
    -- past the commit once, past it at the end
    have hnever := hrun.never hpastOwn hpastOthers (not_passed_of_committed hend) a b hab
    obtain ⟨ops, he, hnew⟩ := hothers a b hab
    have hnext := run_committed ops hnew hca
    rw [← he] at hnext
    exact hnext.resolve_right hnever
  · intro hkept
    exact hrun.keeps (fun a b hab hca => (hown a b hab).committed hca) hkept hc

/-- the acknowledgement that completes the barrier -/
theorem completing_alongside {player txnId : String} {payload : Json} {epoch : ℤ} {h h' : Host}
    {turns : List (Turn Host)} {r : Except Exc Bool} {c : TravelCoordinator}
    (hepoch : intField payload "epoch" (-1) = .ok epoch)
    (hmet : h.session.travel.markReady player txnId (some epoch) = .ok (true, c))
    (hrun : Alongside (catching unknownTxn
      (do
        let epoch ← ofExcept (intField payload "epoch" (-1))
        markReady player txnId epoch)
      fun _ => pure false) h turns r h') :
    r = .ok true ∧ turns = [.own h h'] ∧ h'.session.travel = c ∧ Progressing h h' := by
  have hack : h.ackReady player txnId epoch = (.ok true, (h.setTravel c).note (.met .commit epoch (h.seq + 1))) := by
    unfold ackReady
    rw [hmet]
  have hprogress : Progress h.session.travel c := by
    have hchange := step_change h.session.travel (.markReady player txnId epoch)
    rw [step_ok (by rw [Travel.call, hmet]; rfl)] at hchange
    exact hchange.progress rfl
  rw [hepoch] at hrun
  rcases alongside_bind.1 hrun with ⟨e, -, hbody⟩ | ⟨x, h₁, ts, ts', rfl, hbody, hrest⟩
  · obtain ⟨x, hx, -⟩ := alongside_attempt.1 hbody
    cases hx
  obtain ⟨x', hx, hmark⟩ := alongside_attempt.1 hbody
  cases hx
  obtain ⟨rfl, hx, rfl⟩ := alongside_tryCall.1 hmark
  rw [hack] at hx
  cases hx
  obtain ⟨rfl, rfl, rfl⟩ := alongside_pure.1 hrest
  rw [hack]
  exact ⟨rfl, rfl, rfl, hprogress⟩

/-- an acknowledgement of the first travel -/
def firstTravel : Json := .obj [("txn_id", .str (uuid4 1)), ("epoch", .int 1)]

/-- alice has asked for a travel, and the host's game is ready: her ready message completes the barrier -/
def oneMissing : Host := (runFrom lanHost (travelHere.take 4 ++ [plays .travelReady firstTravel])).state

end Host

end KerMP
