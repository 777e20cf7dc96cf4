/-
The travel barrier of the host (`kermp/travel.py`), and its safety over arbitrary call sequences.

A `TravelCoordinator` holds at most one transaction: everybody taking part must acknowledge readiness
(`markReady`, phase waiting_ready), then the travel is committed, then everybody must report the new zone
(`markZoneReady`), then it is complete. Players may vanish at any moment (`removeParticipant`). A call that raises does
so before it has changed anything, so an operation is `Except Exc (result × new coordinator)`.

The phase changes on two paths: an acknowledgement that completes a barrier, and a departure that does. Only the first
is reported to the caller as a completed barrier; `removeParticipant` also answers True for a plain removal.

Results, for every sequence of calls (`Op`) from a new coordinator in which transactions get fresh ids:
- `barrier_safety`: the acknowledgement sets stay within the participants; from the commit on every remaining
  participant has acknowledged ready for this transaction and epoch, and a complete transaction has zone-ready
  acknowledgements of all of them, given after the commit; each barrier reports completion at most once; epochs of
  transactions increase; calls that name another transaction or epoch change nothing.
Step lemmas used by the host's runs: `markReady_ok`, `markZoneReady_ok`, `removeParticipant_cases`, `step_inv`.
-/
import Mathlib.Data.Finset.Sort
import Mathlib.Data.String.Basic
import Mathlib.Tactic.SplitIfs
import Mathlib.Tactic.Tauto
import KerMP.Lib.PyValue

namespace KerMP.Travel

open Py

/-! ## Model -/

inductive TravelPhase where
  | idle | waitingReady | committed | waitingZoneReady | complete | aborted
deriving DecidableEq, Repr

def TravelPhase.value : TravelPhase → String
  | .idle => "idle"
  | .waitingReady => "waiting_ready"
  | .committed => "committed"
  | .waitingZoneReady => "waiting_zone_ready"
  | .complete => "complete"
  | .aborted => "aborted"

/-- `phase in {COMPLETE, ABORTED}` -/
def TravelPhase.finished : TravelPhase → Bool
  | .complete | .aborted => true
  | _ => false

structure TravelTxn where
  epoch : ℤ
  txnId : String
  zoneId : String
  actorIds : List String
  participants : Finset String
  phase : TravelPhase
  ready : Finset String
  zoneReady : Finset String
deriving DecidableEq

structure TravelCoordinator where
  current : Option TravelTxn
  /-- `_epoch`, the epoch of the last transaction -/
  epoch : ℤ
deriving DecidableEq

/-- `if player in participants: acks.add(player)` -/
def addAck (participants acks : Finset String) (player : String) : Finset String :=
  if player ∈ participants then insert player acks else acks

namespace TravelCoordinator

def init : TravelCoordinator := ⟨none, 0⟩

/-- is a transaction under way? -/
def active (c : TravelCoordinator) : Bool :=
  match c.current with
  | some t => !t.phase.finished
  | none => false

/-- `_get`: the current transaction, if it has this id -/
def getTxn (c : TravelCoordinator) (txnId : String) : Except Exc TravelTxn :=
  match c.current with
  | some t => if t.txnId = txnId then .ok t else .error (.keyError "unknown travel transaction")
  | none => .error (.keyError "unknown travel transaction")

/-- `uuid` is the new transaction's id -/
def propose (c : TravelCoordinator) (zoneId : String) (actorIds participants : List String) (uuid : String) :
    Except Exc (TravelTxn × TravelCoordinator) :=
  if c.active then .error (.runtimeError "travel already in progress")
  else if participants = [] then .error (.valueError "travel requires at least one participant")
  else
    let t : TravelTxn := ⟨c.epoch + 1, uuid, zoneId, actorIds, participants.toFinset, .waitingReady, ∅, ∅⟩
    .ok (t, ⟨some t, c.epoch + 1⟩)

def markReady (c : TravelCoordinator) (player txnId : String) (epoch : Option ℤ) :
    Except Exc (Bool × TravelCoordinator) := do
  let t ← c.getTxn txnId
  if epoch ≠ none ∧ epoch ≠ some t.epoch then return (false, c)
  if t.phase ≠ .waitingReady then return (false, c)
  let ready := addAck t.participants t.ready player
  if ready = t.participants then return (true, { c with current := some { t with ready, phase := .committed } })
  return (false, { c with current := some { t with ready } })

def beginZoneWait (c : TravelCoordinator) (txnId : String) : Except Exc TravelCoordinator := do
  let t ← c.getTxn txnId
  if t.phase ≠ .committed then .error (.runtimeError "cannot wait for zone before commit")
  else return { c with current := some { t with phase := .waitingZoneReady } }

def markZoneReady (c : TravelCoordinator) (player txnId : String) (epoch : Option ℤ) :
    Except Exc (Bool × TravelCoordinator) := do
  let t ← c.getTxn txnId
  if epoch ≠ none ∧ epoch ≠ some t.epoch then return (false, c)
  if t.phase ≠ .committed ∧ t.phase ≠ .waitingZoneReady then return (false, c)
  let zoneReady := addAck t.participants t.zoneReady player
  if zoneReady = t.participants then
    return (true, { c with current := some { t with zoneReady, phase := .complete } })
  return (false, { c with current := some { t with zoneReady, phase := .waitingZoneReady } })

def abort (c : TravelCoordinator) (txnId : String) : Except Exc TravelCoordinator := do
  let t ← c.getTxn txnId
  return { c with current := some { t with phase := .aborted } }

/-- the phase a transaction is left in when a participant has been taken out of all three sets -/
def phaseAfterLeave (t : TravelTxn) : TravelPhase :=
  if t.phase = .waitingReady ∧ t.ready = t.participants then .committed
  else if t.phase = .waitingZoneReady ∧ t.zoneReady = t.participants then .complete
  else t.phase

def removeParticipant (c : TravelCoordinator) (player : String) : Bool × TravelCoordinator :=
  match c.current with
  | none => (false, c)
  | some t =>
    if t.phase.finished then (false, c)
    else
      let t' := { t with participants := t.participants.erase player, ready := t.ready.erase player,
                         zoneReady := t.zoneReady.erase player }
      (true, { c with current := some { t' with phase := phaseAfterLeave t' } })

/-- `sorted(ids)` as a JSON list -/
def sortedIds (ids : Finset String) : Json := .arr ((ids.sort (· ≤ ·)).map .str)

def snapshot (c : TravelCoordinator) : Json :=
  match c.current with
  | none => .null
  | some t =>
    if t.phase.finished then .null
    else .obj [("txn_id", .str t.txnId), ("epoch", .int t.epoch), ("zone_id", .str t.zoneId),
      ("actor_ids", .arr (t.actorIds.map .str)), ("participants", sortedIds t.participants),
      ("ready", sortedIds t.ready), ("zone_ready", sortedIds t.zoneReady), ("phase", .str t.phase.value)]

end TravelCoordinator

open TravelCoordinator

/-! ## What each call can do -/

theorem getTxn_ok {c : TravelCoordinator} {x : String} {t : TravelTxn} (h : c.getTxn x = .ok t) :
    c.current = some t ∧ t.txnId = x := by
  unfold getTxn at h
  split at h
  · rename_i t' ht
    split_ifs at h with hx
    cases h
    exact ⟨ht, hx⟩
  · cases h

theorem getTxn_eq {c : TravelCoordinator} {t : TravelTxn} (h : c.current = some t) : c.getTxn t.txnId = .ok t := by
  simp [getTxn, h]

theorem propose_ok {c c' : TravelCoordinator} {z : String} {as ps : List String} {u : String} {t : TravelTxn}
    (h : c.propose z as ps u = .ok (t, c')) :
    c.active = false ∧ ps ≠ [] ∧ t = ⟨c.epoch + 1, u, z, as, ps.toFinset, .waitingReady, ∅, ∅⟩ ∧
      c' = ⟨some t, c.epoch + 1⟩ := by
  unfold propose at h
  split_ifs at h with ha hp
  cases h
  exact ⟨by simpa using ha, hp, rfl, rfl⟩

/-- an epoch that is not refused is the transaction's -/
theorem epoch_of_not_refused {e n : ℤ} (h : ¬ (some e ≠ none ∧ some e ≠ some n)) : n = e := by
  by_contra hne
  exact h ⟨Option.some_ne_none e, fun he => hne (Option.some.inj he).symm⟩

/-- what an answered `markReady` did: nothing, or one more acknowledgement, or the one that commits -/
theorem markReady_ok {c c' : TravelCoordinator} {p x : String} {e : ℤ} {b : Bool}
    (h : c.markReady p x (some e) = .ok (b, c')) :
    (b = false ∧ c' = c) ∨
      ∃ t, c.current = some t ∧ t.txnId = x ∧ t.epoch = e ∧ t.phase = .waitingReady ∧
        let r := addAck t.participants t.ready p
        (b = true ∧ r = t.participants ∧ c' = { c with current := some { t with ready := r, phase := .committed } }) ∨
        (b = false ∧ r ≠ t.participants ∧ c' = { c with current := some { t with ready := r } }) := by
  unfold markReady at h
  obtain ⟨t, ht, h⟩ := bind_ok h
  obtain ⟨hc, hx⟩ := getTxn_ok ht
  dsimp only at h
  split_ifs at h with h1 h2 h3
  · cases h; exact Or.inl ⟨rfl, rfl⟩
  · cases h; exact Or.inl ⟨rfl, rfl⟩
  · cases h; exact Or.inr ⟨t, hc, hx, epoch_of_not_refused h1, not_not.1 h2, Or.inl ⟨rfl, h3, rfl⟩⟩
  · cases h; exact Or.inr ⟨t, hc, hx, epoch_of_not_refused h1, not_not.1 h2, Or.inr ⟨rfl, h3, rfl⟩⟩

theorem beginZoneWait_ok {c c' : TravelCoordinator} {x : String} (h : c.beginZoneWait x = .ok c') :
    ∃ t, c.current = some t ∧ t.txnId = x ∧ t.phase = .committed ∧
      c' = { c with current := some { t with phase := .waitingZoneReady } } := by
  unfold beginZoneWait at h
  obtain ⟨t, ht, h⟩ := bind_ok h
  obtain ⟨hc, hx⟩ := getTxn_ok ht
  split_ifs at h with h1
  cases h
  exact ⟨t, hc, hx, not_not.1 h1, rfl⟩

/-- what an answered `markZoneReady` did: nothing, or one more acknowledgement, or the one that completes -/
theorem markZoneReady_ok {c c' : TravelCoordinator} {p x : String} {e : ℤ} {b : Bool}
    (h : c.markZoneReady p x (some e) = .ok (b, c')) :
    (b = false ∧ c' = c) ∨
      ∃ t, c.current = some t ∧ t.txnId = x ∧ t.epoch = e ∧ (t.phase = .committed ∨ t.phase = .waitingZoneReady) ∧
        let z := addAck t.participants t.zoneReady p
        (b = true ∧ z = t.participants ∧ c' = { c with current := some { t with zoneReady := z, phase := .complete } }) ∨
        (b = false ∧ z ≠ t.participants ∧
          c' = { c with current := some { t with zoneReady := z, phase := .waitingZoneReady } }) := by
  unfold markZoneReady at h
  obtain ⟨t, ht, h⟩ := bind_ok h
  obtain ⟨hc, hx⟩ := getTxn_ok ht
  dsimp only at h
  split_ifs at h with h1 h2 h3
  · cases h; exact Or.inl ⟨rfl, rfl⟩
  · cases h; exact Or.inl ⟨rfl, rfl⟩
  all_goals
    cases h
    have hp : t.phase = .committed ∨ t.phase = .waitingZoneReady := by tauto
  · exact Or.inr ⟨t, hc, hx, epoch_of_not_refused h1, hp, Or.inl ⟨rfl, h3, rfl⟩⟩
  · exact Or.inr ⟨t, hc, hx, epoch_of_not_refused h1, hp, Or.inr ⟨rfl, h3, rfl⟩⟩

theorem abort_ok {c c' : TravelCoordinator} {x : String} (h : c.abort x = .ok c') :
    ∃ t, c.current = some t ∧ t.txnId = x ∧ c' = { c with current := some { t with phase := .aborted } } := by
  unfold abort at h
  obtain ⟨t, ht, h⟩ := bind_ok h
  obtain ⟨hc, hx⟩ := getTxn_ok ht
  cases h
  exact ⟨t, hc, hx, rfl⟩

/-- the transaction with one player taken out -/
def TravelTxn.without (t : TravelTxn) (p : String) : TravelTxn :=
  { t with participants := t.participants.erase p, ready := t.ready.erase p, zoneReady := t.zoneReady.erase p }

/-- a departure changes nothing, or takes the player out of the unfinished transaction and may complete a barrier -/
theorem removeParticipant_cases (c : TravelCoordinator) (p : String) :
    (c.removeParticipant p).2 = c ∨
      ∃ t, c.current = some t ∧ t.phase.finished = false ∧
        (c.removeParticipant p).2 =
          { c with current := some { t.without p with phase := phaseAfterLeave (t.without p) } } := by
  unfold removeParticipant
  cases hc : c.current with
  | none => exact Or.inl rfl
  | some t =>
    simp only
    split_ifs with hf
    · exact Or.inl rfl
    · exact Or.inr ⟨t, rfl, by simpa using hf, rfl⟩

/-! ## Arbitrary call sequences -/

inductive Op where
  | propose (zoneId : String) (actorIds participants : List String) (uuid : String)
  | markReady (player txnId : String) (epoch : ℤ)
  | beginZoneWait (txnId : String)
  | markZoneReady (player txnId : String) (epoch : ℤ)
  | abort (txnId : String)
  | removeParticipant (player : String)
deriving DecidableEq, Repr

/-- the truth value a call returns, if it returns one, and the coordinator it leaves -/
def call (c : TravelCoordinator) : Op → Except Exc (Option Bool × TravelCoordinator)
  | .propose z as ps u => (c.propose z as ps u).map fun r => (none, r.2)
  | .markReady p x e => (c.markReady p x (some e)).map fun r => (some r.1, r.2)
  | .beginZoneWait x => (c.beginZoneWait x).map fun r => (none, r)
  | .markZoneReady p x e => (c.markZoneReady p x (some e)).map fun r => (some r.1, r.2)
  | .abort x => (c.abort x).map fun r => (none, r)
  | .removeParticipant p => .ok (some (c.removeParticipant p).1, (c.removeParticipant p).2)

/-- a call that raises changes nothing -/
def step (c : TravelCoordinator) (o : Op) : TravelCoordinator :=
  match call c o with
  | .ok r => r.2
  | .error _ => c

theorem step_ok {c c' : TravelCoordinator} {o : Op} {answer : Option Bool} (h : call c o = .ok (answer, c')) :
    step c o = c' := by
  rw [step, h]

theorem step_error {c : TravelCoordinator} {o : Op} {e : Exc} (h : call c o = .error e) : step c o = c := by
  rw [step, h]

def run (c : TravelCoordinator) (ops : List Op) : TravelCoordinator := ops.foldl step c

theorem run_append (c : TravelCoordinator) (l l' : List Op) : run c (l ++ l') = run (run c l) l' := by
  simp [run, List.foldl_append]

theorem run_cons (c : TravelCoordinator) (o : Op) (l : List Op) : run c (o :: l) = run (step c o) l := rfl

theorem run_snoc (c : TravelCoordinator) (l : List Op) (o : Op) : run c (l ++ [o]) = step (run c l) o := by
  rw [run_append]; rfl

/-- one call seen from outside: nothing, a new transaction, or a change of the current one -/
inductive Change (c : TravelCoordinator) : Op → TravelCoordinator → Prop where
  | same (o : Op) : Change c o c
  | propose (z : String) (as ps : List String) (u : String) (h : c.active = false) (hp : ps ≠ []) :
      Change c (.propose z as ps u) ⟨some ⟨c.epoch + 1, u, z, as, ps.toFinset, .waitingReady, ∅, ∅⟩, c.epoch + 1⟩
  | ready (t : TravelTxn) (p : String) (h : c.current = some t) (hw : t.phase = .waitingReady)
      (hr : addAck t.participants t.ready p ≠ t.participants) :
      Change c (.markReady p t.txnId t.epoch)
        { c with current := some { t with ready := addAck t.participants t.ready p } }
  | commit (t : TravelTxn) (p : String) (h : c.current = some t) (hw : t.phase = .waitingReady)
      (hr : addAck t.participants t.ready p = t.participants) :
      Change c (.markReady p t.txnId t.epoch)
        { c with current := some { t with ready := addAck t.participants t.ready p, phase := .committed } }
  | zoneWait (t : TravelTxn) (h : c.current = some t) (hc : t.phase = .committed) :
      Change c (.beginZoneWait t.txnId) { c with current := some { t with phase := .waitingZoneReady } }
  | zoneReady (t : TravelTxn) (p : String) (h : c.current = some t)
      (hc : t.phase = .committed ∨ t.phase = .waitingZoneReady)
      (hz : addAck t.participants t.zoneReady p ≠ t.participants) :
      Change c (.markZoneReady p t.txnId t.epoch)
        { c with current := some { t with zoneReady := addAck t.participants t.zoneReady p, phase := .waitingZoneReady } }
  | complete (t : TravelTxn) (p : String) (h : c.current = some t)
      (hc : t.phase = .committed ∨ t.phase = .waitingZoneReady)
      (hz : addAck t.participants t.zoneReady p = t.participants) :
      Change c (.markZoneReady p t.txnId t.epoch)
        { c with current := some { t with zoneReady := addAck t.participants t.zoneReady p, phase := .complete } }
  | abort (t : TravelTxn) (h : c.current = some t) :
      Change c (.abort t.txnId) { c with current := some { t with phase := .aborted } }
  | leave (t : TravelTxn) (p : String) (h : c.current = some t) (hf : t.phase.finished = false) :
      Change c (.removeParticipant p)
        { c with current := some { t.without p with phase := phaseAfterLeave (t.without p) } }

theorem step_change (c : TravelCoordinator) (o : Op) : Change c o (step c o) := by
  cases h : call c o with
  | error e =>
    rw [step_error h]
    exact .same o
  | ok r =>
    obtain ⟨answer, c'⟩ := r
    rw [step_ok h]
    cases o with
    | propose z as ps u =>
      obtain ⟨⟨t, c''⟩, hp, hr⟩ := map_ok h
      cases hr
      obtain ⟨ha, hne, rfl, rfl⟩ := propose_ok hp
      exact .propose z as ps u ha hne
    | markReady p x e =>
      obtain ⟨⟨b, c''⟩, hm, hr⟩ := map_ok h
      cases hr
      obtain ⟨-, rfl⟩ | ⟨t, ht, rfl, rfl, hw, ⟨-, hr, rfl⟩ | ⟨-, hr, rfl⟩⟩ := markReady_ok hm
      · exact .same _
      · exact .commit t p ht hw hr
      · exact .ready t p ht hw hr
    | beginZoneWait x =>
      obtain ⟨c'', hb, hr⟩ := map_ok h
      cases hr
      obtain ⟨t, ht, rfl, hp, rfl⟩ := beginZoneWait_ok hb
      exact .zoneWait t ht hp
    | markZoneReady p x e =>
      obtain ⟨⟨b, c''⟩, hm, hr⟩ := map_ok h
      cases hr
      obtain ⟨-, rfl⟩ | ⟨t, ht, rfl, rfl, hw, ⟨-, hz, rfl⟩ | ⟨-, hz, rfl⟩⟩ := markZoneReady_ok hm
      · exact .same _
      · exact .complete t p ht hw hz
      · exact .zoneReady t p ht hw hz
    | abort x =>
      obtain ⟨c'', ha, hr⟩ := map_ok h
      cases hr
      obtain ⟨t, ht, rfl, rfl⟩ := abort_ok ha
      exact .abort t ht
    | removeParticipant p =>
      cases h
      obtain hc | ⟨t, ht, hf, hc⟩ := removeParticipant_cases c p
      · rw [hc]; exact .same _
      · rw [hc]; exact .leave t p ht hf

/-! ## The invariant of the coordinator -/

/-- what holds of a transaction at any time -/
structure TxnInv (t : TravelTxn) : Prop where
  ready_sub : t.ready ⊆ t.participants
  zone_sub : t.zoneReady ⊆ t.participants
  /-- nobody is zone-ready before the commit, and an open ready barrier is not met -/
  waiting : t.phase = .waitingReady → t.zoneReady = ∅ ∧ t.ready ≠ t.participants
  committed : t.phase = .committed ∨ t.phase = .waitingZoneReady ∨ t.phase = .complete → t.ready = t.participants
  complete : t.phase = .complete → t.zoneReady = t.participants

structure Inv (c : TravelCoordinator) : Prop where
  epoch : ∀ t, c.current = some t → t.epoch = c.epoch
  txn : ∀ t, c.current = some t → TxnInv t

theorem addAck_sub {P s : Finset String} (h : s ⊆ P) (p : String) : addAck P s p ⊆ P := by
  unfold addAck
  split_ifs with hp
  · exact Finset.insert_subset hp h
  · exact h

theorem mem_addAck {P s : Finset String} {p q : String} (h : q ∈ addAck P s p) : q ∈ s ∨ q = p := by
  unfold addAck at h
  split_ifs at h
  · exact (Finset.mem_insert.1 h).symm
  · exact Or.inl h

theorem phaseAfterLeave_cases (t : TravelTxn) :
    (t.phase = .waitingReady ∧ t.ready = t.participants ∧ phaseAfterLeave t = .committed) ∨
      (t.phase = .waitingZoneReady ∧ t.zoneReady = t.participants ∧ phaseAfterLeave t = .complete) ∨
      (phaseAfterLeave t = t.phase ∧ (t.phase = .waitingReady → t.ready ≠ t.participants) ∧
        (t.phase = .waitingZoneReady → t.zoneReady ≠ t.participants)) := by
  unfold phaseAfterLeave
  split_ifs with h1 h2
  · exact Or.inl ⟨h1.1, h1.2, rfl⟩
  · exact Or.inr (Or.inl ⟨h2.1, h2.2, rfl⟩)
  · exact Or.inr (Or.inr ⟨rfl, fun h hr => h1 ⟨h, hr⟩, fun h hz => h2 ⟨h, hz⟩⟩)

theorem TxnInv.leave {t : TravelTxn} (h : TxnInv t) (hf : t.phase.finished = false) (p : String) :
    TxnInv { t.without p with phase := phaseAfterLeave (t.without p) } := by
  have hr : (t.without p).ready ⊆ (t.without p).participants := Finset.erase_subset_erase p h.ready_sub
  have hz : (t.without p).zoneReady ⊆ (t.without p).participants := Finset.erase_subset_erase p h.zone_sub
  have hready : t.phase = .committed ∨ t.phase = .waitingZoneReady → (t.without p).ready = (t.without p).participants :=
    fun hp => congrArg (Finset.erase · p) (h.committed (hp.imp_right Or.inl))
  have hcomp : t.phase ≠ .complete := fun hc => by rw [hc] at hf; cases hf
  obtain ⟨hp, he, hn⟩ | ⟨hp, he, hn⟩ | ⟨hn, hw, -⟩ := phaseAfterLeave_cases (t.without p)
  · exact ⟨hr, hz, by simp [hn], fun _ => he, by simp [hn]⟩
  · exact ⟨hr, hz, by simp [hn], fun _ => hready (Or.inr hp), fun _ => he⟩
  · refine ⟨hr, hz, fun hp => ?_, fun hp => ?_, fun hp => absurd (hn.symm.trans hp) hcomp⟩
    · have hp' : t.phase = .waitingReady := hn.symm.trans hp
      refine ⟨?_, hw hp'⟩
      show t.zoneReady.erase p = ∅
      rw [(h.waiting hp').1]; rfl
    · simp only [hn] at hp
      rcases hp with hp | hp | hp
      · exact hready (Or.inl hp)
      · exact hready (Or.inr hp)
      · exact absurd hp hcomp

theorem Change.inv {c c' : TravelCoordinator} {o : Op} (h : Inv c) (hc : Change c o c') : Inv c' := by
  cases hc with
  | same => exact h
  | propose z as ps u ha hp =>
    refine ⟨fun t ht => ?_, fun t ht => ?_⟩ <;> cases ht
    · rfl
    · refine ⟨by simp, by simp, fun _ => ⟨rfl, fun he => hp ?_⟩, by simp, by simp⟩
      exact List.toFinset_eq_empty_iff _ |>.1 he.symm
  | ready t p ht hw hr =>
    have hi := h.txn t ht
    refine ⟨fun t' ht' => ?_, fun t' ht' => ?_⟩ <;> cases ht'
    · exact h.epoch t ht
    · exact ⟨addAck_sub hi.ready_sub p, hi.zone_sub, fun _ => ⟨(hi.waiting hw).1, hr⟩, by simp [hw], by simp [hw]⟩
  | commit t p ht hw hr =>
    have hi := h.txn t ht
    refine ⟨fun t' ht' => ?_, fun t' ht' => ?_⟩ <;> cases ht'
    · exact h.epoch t ht
    · exact ⟨addAck_sub hi.ready_sub p, hi.zone_sub, by simp, fun _ => hr, by simp⟩
  | zoneWait t ht hp =>
    have hi := h.txn t ht
    refine ⟨fun t' ht' => ?_, fun t' ht' => ?_⟩ <;> cases ht'
    · exact h.epoch t ht
    · exact ⟨hi.ready_sub, hi.zone_sub, by simp, fun _ => hi.committed (Or.inl hp), by simp⟩
  | zoneReady t p ht hp hz =>
    have hi := h.txn t ht
    refine ⟨fun t' ht' => ?_, fun t' ht' => ?_⟩ <;> cases ht'
    · exact h.epoch t ht
    · exact ⟨hi.ready_sub, addAck_sub hi.zone_sub p, by simp, fun _ => hi.committed (hp.imp_right Or.inl), by simp⟩
  | complete t p ht hp hz =>
    have hi := h.txn t ht
    refine ⟨fun t' ht' => ?_, fun t' ht' => ?_⟩ <;> cases ht'
    · exact h.epoch t ht
    · exact ⟨hi.ready_sub, addAck_sub hi.zone_sub p, by simp, fun _ => hi.committed (hp.imp_right Or.inl),
        fun _ => hz⟩
  | abort t ht =>
    have hi := h.txn t ht
    refine ⟨fun t' ht' => ?_, fun t' ht' => ?_⟩ <;> cases ht'
    · exact h.epoch t ht
    · exact ⟨hi.ready_sub, hi.zone_sub, by simp, by simp, by simp⟩
  | leave t p ht hf =>
    refine ⟨fun t' ht' => ?_, fun t' ht' => ?_⟩ <;> cases ht'
    · exact h.epoch t ht
    · exact (h.txn t ht).leave hf p

theorem inv_init : Inv init := ⟨by simp [init], by simp [init]⟩

theorem step_inv {c : TravelCoordinator} (h : Inv c) (o : Op) : Inv (step c o) := (step_change c o).inv h

theorem run_inv {c : TravelCoordinator} (h : Inv c) (ops : List Op) : Inv (run c ops) := by
  induction ops generalizing c with
  | nil => exact h
  | cons o ops ih => exact ih (step_inv h o)

/-! ## Acknowledgements in the history -/

/-- a new transaction's id -/
def Op.newId : Op → Option String
  | .propose _ _ _ u => some u
  | _ => none

/-- the transaction, and the epoch if it gives one, that a call names -/
def Op.target : Op → Option (String × Option ℤ)
  | .markReady _ x e | .markZoneReady _ x e => some (x, some e)
  | .beginZoneWait x | .abort x => some (x, none)
  | .propose .. | .removeParticipant _ => none

/-- every proposal of the sequence brings an id of its own -/
def FreshIds (ops : List Op) : Prop := (ops.filterMap Op.newId).Nodup

/-- `o` was called in a coordinator satisfying `P` -/
def Called (ops : List Op) (o : Op) (P : TravelCoordinator → Prop) : Prop :=
  ∃ pre post, ops = pre ++ o :: post ∧ P (run init pre)

/-- `t` is the current transaction and its phase satisfies `P` -/
def In (t : TravelTxn) (P : TravelPhase → Prop) (c : TravelCoordinator) : Prop :=
  ∃ t', c.current = some t' ∧ t'.txnId = t.txnId ∧ t'.epoch = t.epoch ∧ P t'.phase

/-- `p` acknowledged ready while `t` was waiting for it -/
def AckedReady (ops : List Op) (t : TravelTxn) (p : String) : Prop :=
  Called ops (.markReady p t.txnId t.epoch) (In t (· = .waitingReady))

/-- `p` acknowledged the zone after `t` was committed -/
def AckedZone (ops : List Op) (t : TravelTxn) (p : String) : Prop :=
  Called ops (.markZoneReady p t.txnId t.epoch) (In t fun ph => ph = .committed ∨ ph = .waitingZoneReady)

theorem Called.snoc {ops : List Op} {o : Op} {P : TravelCoordinator → Prop} (h : Called ops o P) (o' : Op) :
    Called (ops ++ [o']) o P := by
  obtain ⟨pre, post, rfl, hp⟩ := h
  exact ⟨pre, post ++ [o'], by simp, hp⟩

theorem called_last {ops : List Op} {o : Op} {P : TravelCoordinator → Prop} (h : P (run init ops)) :
    Called (ops ++ [o]) o P := ⟨ops, [], rfl, h⟩

/-- the current transaction was proposed, and its acknowledgements were made by their players -/
structure Hist (ops : List Op) (t : TravelTxn) : Prop where
  proposed : t.txnId ∈ ops.filterMap Op.newId
  ready : ∀ p ∈ t.ready, AckedReady ops t p
  zone : ∀ p ∈ t.zoneReady, AckedZone ops t p

/-- a transaction that keeps its name and gets no new acknowledgement keeps its history -/
theorem Hist.snoc {ops : List Op} {t t' : TravelTxn} (h : Hist ops t) (o : Op) (hid : t'.txnId = t.txnId)
    (he : t'.epoch = t.epoch)
    (hr : ∀ p ∈ t'.ready, p ∈ t.ready ∨ AckedReady (ops ++ [o]) t p)
    (hz : ∀ p ∈ t'.zoneReady, p ∈ t.zoneReady ∨ AckedZone (ops ++ [o]) t p) : Hist (ops ++ [o]) t' := by
  refine ⟨?_, fun p hp => ?_, fun p hp => ?_⟩
  · rw [hid, List.filterMap_append]; exact List.mem_append_left _ h.proposed
  · unfold AckedReady In; rw [hid, he]
    rcases hr p hp with hp | hp
    · exact (h.ready p hp).snoc o
    · exact hp
  · unfold AckedZone In; rw [hid, he]
    rcases hz p hp with hp | hp
    · exact (h.zone p hp).snoc o
    · exact hp

theorem hist_step {ops : List Op} {o : Op} {c' : TravelCoordinator} (h : ∀ t, (run init ops).current = some t → Hist ops t)
    (hc : Change (run init ops) o c') : ∀ t, c'.current = some t → Hist (ops ++ [o]) t := by
  intro t' ht'
  cases hc with
  | same => exact (h t' ht').snoc o rfl rfl (fun _ => Or.inl) fun _ => Or.inl
  | propose z as ps u ha hp =>
    cases ht'
    exact ⟨by simp [Op.newId], by simp, by simp⟩
  | ready t p ht hw _ | commit t p ht hw _ =>
    cases ht'
    refine (h t ht).snoc _ rfl rfl (fun q hq => ?_) fun _ => Or.inl
    rcases mem_addAck hq with hq | rfl
    · exact Or.inl hq
    · exact Or.inr (called_last ⟨t, ht, rfl, rfl, hw⟩)
  | zoneReady t p ht hp _ | complete t p ht hp _ =>
    cases ht'
    refine (h t ht).snoc _ rfl rfl (fun _ => Or.inl) fun q hq => ?_
    rcases mem_addAck hq with hq | rfl
    · exact Or.inl hq
    · exact Or.inr (called_last ⟨t, ht, rfl, rfl, hp⟩)
  | zoneWait t ht _ | abort t ht =>
    cases ht'
    exact (h t ht).snoc _ rfl rfl (fun _ => Or.inl) fun _ => Or.inl
  | leave t p ht _ =>
    cases ht'
    exact (h t ht).snoc _ rfl rfl (fun q hq => Or.inl (Finset.mem_of_mem_erase hq))
      fun q hq => Or.inl (Finset.mem_of_mem_erase hq)

theorem run_hist (ops : List Op) : ∀ t, (run init ops).current = some t → Hist ops t := by
  induction ops using List.reverseRecOn with
  | nil => intro t ht; cases ht
  | append_singleton ops o ih => rw [run_snoc]; exact hist_step ih (step_change _ o)

/-! ## Each barrier is reported once, epochs increase -/

/-- while it is current, transaction `x` is in a phase satisfying `P` -/
def Stays (x : String) (P : TravelPhase → Prop) (c : TravelCoordinator) : Prop :=
  ∀ t, c.current = some t → t.txnId = x → P t.phase

/-- no call brings a transaction back to waiting_ready, nor out of complete and aborted -/
theorem stays_step {c c' : TravelCoordinator} {o : Op} {x : String} (hc : Change c o c') (hx : o.newId ≠ some x) :
    (Stays x (· ≠ .waitingReady) c → Stays x (· ≠ .waitingReady) c') ∧
      (Stays x (·.finished = true) c → Stays x (·.finished = true) c') := by
  cases hc with
  | same => exact ⟨id, id⟩
  | propose z as ps u ha hp =>
    have hne : u ≠ x := fun h => hx (by simp [Op.newId, h])
    exact ⟨fun _ t ht hi => by cases ht; exact absurd hi hne, fun _ t ht hi => by cases ht; exact absurd hi hne⟩
  | ready t p ht hw _ =>
    refine ⟨fun h t' ht' hi => ?_, fun h t' ht' hi => ?_⟩ <;> cases ht' <;> exact h t ht hi
  | commit t p ht hw _ =>
    refine ⟨fun h t' ht' hi => ?_, fun h t' ht' hi => ?_⟩ <;> cases ht'
    · simp
    · have := h t ht hi; rw [hw] at this; cases this
  | zoneWait t ht hw =>
    refine ⟨fun h t' ht' hi => ?_, fun h t' ht' hi => ?_⟩ <;> cases ht'
    · simp
    · have := h t ht hi; rw [hw] at this; cases this
  | zoneReady t p ht hw _ =>
    refine ⟨fun h t' ht' hi => ?_, fun h t' ht' hi => ?_⟩ <;> cases ht'
    · simp
    · have := h t ht hi; rcases hw with hw | hw <;> rw [hw] at this <;> cases this
  | complete t p ht hw _ =>
    refine ⟨fun h t' ht' hi => ?_, fun h t' ht' hi => ?_⟩ <;> cases ht'
    · simp
    · rfl
  | abort t ht =>
    refine ⟨fun h t' ht' hi => ?_, fun h t' ht' hi => ?_⟩ <;> cases ht'
    · simp
    · rfl
  | leave t p ht hf =>
    refine ⟨fun h t' ht' hi => ?_, fun h t' ht' hi => ?_⟩ <;> cases ht'
    · have hw : t.phase ≠ .waitingReady := h t ht hi
      obtain ⟨-, -, hn⟩ | ⟨-, -, hn⟩ | ⟨hn, -, -⟩ := phaseAfterLeave_cases (t.without p)
      · simp [hn]
      · simp [hn]
      · simp only [hn]; exact hw
    · have hx : t.phase.finished = true := h t ht hi
      rw [hf] at hx; cases hx

theorem stays_run {x : String} {ops : List Op} (hx : x ∉ ops.filterMap Op.newId) {c : TravelCoordinator} :
    (Stays x (· ≠ .waitingReady) c → Stays x (· ≠ .waitingReady) (run c ops)) ∧
      (Stays x (·.finished = true) c → Stays x (·.finished = true) (run c ops)) := by
  induction ops generalizing c with
  | nil => exact ⟨id, id⟩
  | cons o ops ih =>
    have ho : o.newId ≠ some x := fun h => hx (by simp [h])
    have hops : x ∉ ops.filterMap Op.newId := by
      intro h
      refine hx ?_
      rw [List.filterMap_cons]
      cases o.newId with
      | none => exact h
      | some y => exact List.mem_cons_of_mem y h
    have hs := stays_step (step_change c o) ho
    exact ⟨fun h => (ih hops).1 (hs.1 h), fun h => (ih hops).2 (hs.2 h)⟩

theorem epoch_le_run (c : TravelCoordinator) (ops : List Op) : c.epoch ≤ (run c ops).epoch := by
  induction ops generalizing c with
  | nil => exact le_rfl
  | cons o ops ih =>
    refine le_trans ?_ (ih (step c o))
    have := step_change c o
    revert this
    generalize step c o = c'
    intro h
    cases h with
    | propose => show c.epoch ≤ c.epoch + 1; omega
    | _ => exact le_rfl

/-- the call answers True -/
def Answers (c : TravelCoordinator) (o : Op) : Prop := ∃ c', call c o = .ok (some true, c')

theorem answers_markReady {c : TravelCoordinator} {p x : String} {e : ℤ} (h : Answers c (.markReady p x e)) :
    (∃ t, c.current = some t ∧ t.txnId = x ∧ t.phase = .waitingReady) ∧
      Stays x (· ≠ .waitingReady) (step c (.markReady p x e)) := by
  obtain ⟨c', h⟩ := h
  rw [step_ok h]
  obtain ⟨⟨b, c''⟩, hm, hr⟩ := map_ok h
  cases hr
  obtain ⟨hb, -⟩ | ⟨t, ht, hx, -, hw, ⟨-, -, hc⟩ | ⟨hb, -, -⟩⟩ := markReady_ok hm
  · cases hb
  · exact ⟨⟨t, ht, hx, hw⟩, fun t' ht' _ => by rw [hc] at ht'; cases ht'; simp⟩
  · cases hb

theorem answers_markZoneReady {c : TravelCoordinator} {p x : String} {e : ℤ} (h : Answers c (.markZoneReady p x e)) :
    (∃ t, c.current = some t ∧ t.txnId = x ∧ t.phase.finished = false) ∧
      Stays x (·.finished = true) (step c (.markZoneReady p x e)) := by
  obtain ⟨c', h⟩ := h
  rw [step_ok h]
  obtain ⟨⟨b, c''⟩, hm, hr⟩ := map_ok h
  cases hr
  obtain ⟨hb, -⟩ | ⟨t, ht, hx, -, hw, ⟨-, -, hc⟩ | ⟨hb, -, -⟩⟩ := markZoneReady_ok hm
  · cases hb
  · refine ⟨⟨t, ht, hx, ?_⟩, fun t' ht' _ => by rw [hc] at ht'; cases ht'; rfl⟩
    rcases hw with hw | hw <;> rw [hw] <;> rfl
  · cases hb

/-- a fresh id that has been current is not proposed again -/
theorem not_proposed_again {a b : List Op} {x : String} (hf : FreshIds (a ++ b)) {t : TravelTxn}
    (ht : (run init a).current = some t) (hx : t.txnId = x) : x ∉ b.filterMap Op.newId := by
  unfold FreshIds at hf
  rw [List.filterMap_append, List.nodup_append] at hf
  intro h
  exact hf.2.2 x (hx ▸ (run_hist a t ht).proposed) x h rfl

/-- nor is it between two later calls -/
theorem not_proposed_between {a b d : List Op} {o : Op} {x : String} (hf : FreshIds (a ++ o :: b ++ d))
    {t : TravelTxn} (ht : (run init a).current = some t) (hx : t.txnId = x) : x ∉ b.filterMap Op.newId := by
  rw [List.append_assoc] at hf
  intro hb
  obtain ⟨o', ho', hid⟩ := List.mem_filterMap.1 hb
  have hmem : o' ∈ o :: b ++ d := List.mem_append_left d (List.mem_cons_of_mem o ho')
  exact not_proposed_again hf ht hx (List.mem_filterMap.2 ⟨o', hmem, hid⟩)

/-! ## Barrier safety -/

/-- `o` names a transaction or an epoch that is not the current one -/
def Foreign (c : TravelCoordinator) (o : Op) : Prop :=
  ∃ x e, o.target = some (x, e) ∧ ∀ t, c.current = some t → t.txnId ≠ x ∨ ∃ n, e = some n ∧ n ≠ t.epoch

/-- what the barrier guarantees after a sequence of calls -/
structure BarrierSafe (ops : List Op) : Prop where
  subsets : ∀ t, (run init ops).current = some t → t.ready ⊆ t.participants ∧ t.zoneReady ⊆ t.participants
  committed : ∀ t, (run init ops).current = some t →
    t.phase = .committed ∨ t.phase = .waitingZoneReady ∨ t.phase = .complete →
      ∀ p ∈ t.participants, AckedReady ops t p
  complete : ∀ t, (run init ops).current = some t → t.phase = .complete → ∀ p ∈ t.participants, AckedZone ops t p
  readyOnce : ∀ a b d x p q e e', ops = a ++ .markReady p x e :: b ++ .markReady q x e' :: d →
    Answers (run init a) (.markReady p x e) →
      ¬ Answers (run init (a ++ .markReady p x e :: b)) (.markReady q x e')
  zoneOnce : ∀ a b d x p q e e', ops = a ++ .markZoneReady p x e :: b ++ .markZoneReady q x e' :: d →
    Answers (run init a) (.markZoneReady p x e) →
      ¬ Answers (run init (a ++ .markZoneReady p x e :: b)) (.markZoneReady q x e')
  epochs : ∀ a b d z z' as as' ps ps' u u' t t' c c',
    ops = a ++ .propose z as ps u :: b ++ .propose z' as' ps' u' :: d →
      (run init a).propose z as ps u = .ok (t, c) →
        (run init (a ++ .propose z as ps u :: b)).propose z' as' ps' u' = .ok (t', c') → t.epoch < t'.epoch
  foreign : ∀ o, Foreign (run init ops) o → step (run init ops) o = run init ops

theorem foreign_step {c : TravelCoordinator} {o : Op} (h : Foreign c o) : step c o = c := by
  obtain ⟨x, e, ht, hc⟩ := h
  have key := step_change c o
  generalize step c o = c' at key ⊢
  cases key with
  | same => rfl
  | propose | leave => cases ht
  | ready t p h hw | commit t p h hw | zoneReady t p h hw | complete t p h hw =>
    cases ht
    obtain h' | ⟨n, hn, h'⟩ := hc t h
    · exact absurd rfl h'
    · cases hn; exact absurd rfl h'
  | zoneWait t h | abort t h =>
    cases ht
    obtain h' | ⟨n, hn, -⟩ := hc t h
    · exact absurd rfl h'
    · cases hn

/-- **Barrier safety.** For every sequence of calls with arbitrary players, transaction ids and epochs in which new
transactions get fresh ids, the coordinator is safe. -/
theorem barrier_safety (ops : List Op) (hfresh : FreshIds ops) : BarrierSafe ops := by
  have hinv : Inv (run init ops) := run_inv inv_init ops
  have hhist := run_hist ops
  refine ⟨fun t ht => ⟨(hinv.txn t ht).ready_sub, (hinv.txn t ht).zone_sub⟩, fun t ht hp p hm => ?_,
    fun t ht hp p hm => ?_, ?_, ?_, ?_, fun o ho => foreign_step ho⟩
  · exact (hhist t ht).ready p ((hinv.txn t ht).committed hp ▸ hm)
  · exact (hhist t ht).zone p ((hinv.txn t ht).complete hp ▸ hm)
  · rintro a b d x p q e e' rfl h1 h2
    obtain ⟨⟨t, ht, hx, -⟩, hs⟩ := answers_markReady h1
    obtain ⟨⟨t', ht', hx', hw⟩, -⟩ := answers_markReady h2
    have hb : x ∉ b.filterMap Op.newId := not_proposed_between hfresh ht hx
    rw [run_append, run_cons] at ht'
    exact (stays_run hb).1 hs t' ht' hx' hw
  · rintro a b d x p q e e' rfl h1 h2
    obtain ⟨⟨t, ht, hx, -⟩, hs⟩ := answers_markZoneReady h1
    obtain ⟨⟨t', ht', hx', hw⟩, -⟩ := answers_markZoneReady h2
    have hb : x ∉ b.filterMap Op.newId := not_proposed_between hfresh ht hx
    rw [run_append, run_cons] at ht'
    have hfin : t'.phase.finished = true := (stays_run hb).2 hs t' ht' hx'
    rw [hw] at hfin; cases hfin
  · rintro a b d z z' as as' ps ps' u u' t t' c c' - h1 h2
    obtain ⟨-, -, rfl, hc⟩ := propose_ok h1
    obtain ⟨-, -, rfl, -⟩ := propose_ok h2
    have hstep : step (run init a) (.propose z as ps u) = c := step_ok (by rw [call, h1]; rfl)
    have hle := epoch_le_run (step (run init a) (.propose z as ps u)) b
    rw [hstep, hc] at hle
    rw [run_append, run_cons, hstep, hc]
    simp only at hle ⊢
    omega

/-- two players travel; the second proposal is refused until the first travel is complete -/
def twoTravels : List Op :=
  [.propose "z2" [] ["a", "b"] "t1", .markReady "a" "t1" 1, .markReady "b" "t1" 1, .beginZoneWait "t1",
    .propose "z3" [] ["a"] "t2", .markZoneReady "b" "t1" 1, .markZoneReady "a" "t1" 1, .propose "z4" [] ["a"] "t3"]

theorem barrier_safety_two_travels : BarrierSafe twoTravels :=
  barrier_safety twoTravels (by unfold FreshIds; decide)

end KerMP.Travel
