/-
What is announced in the step that decides it (`KerMPHost.broadcast` of `kermp/net.py` up to its first await).

A handler that numbers an operation or sets the clock goes on to its broadcast without an await. In between the log and
the state do not agree, and nobody sees it. So an invariant about both need not hold where the broadcast begins; it has
to hold with the announcement, and the writes that follow keep it.

- `Follows.announces`: a broadcast whose announcement establishes the invariant.
- `Follows.announces_hosted`: the same, followed by the message to the host's game.
-/
import KerMP.Host.Stream

namespace KerMP.Host

open Py Coop
open Coro hiding pure get modify

/-- an invariant that holds wherever a handler waits; the log grows -/
abbrev AtRest (I : Host → Prop) : Discipline Host Empty := Discipline.plain I fun h h' => h.log <:+ h'.log

theorem atRest_lawful (I : Host → Prop) : (AtRest I).Lawful :=
  Discipline.plain_lawful (fun _ => List.suffix_rfl) fun _ _ _ h h' => h.trans h'

/-- the steps of some topics follow it when they keep the invariant -/
theorem follows_atRest {I : Host → Prop} {T : List Topic} (hT : [.session, .member, .lock, .clock, .readiness] ⊆ T)
    (hstep : ∀ l h h', l.topic ∈ T → Does l h h' → I h → I h') : Follows (AtRest I) T where
  lawful := atRest_lawful I
  session := hT (by decide)
  member := hT (by decide)
  lock := hT (by decide)
  clock := hT (by decide)
  readiness := hT (by decide)
  step := fun l h h' hl d hi =>
    let ⟨os, hlog, _⟩ := d.log
    ⟨⟨os, hlog.symm⟩, fun m => m.elim, fun m => m.elim, hstep l h h' hl d hi⟩

/-- what an invariant has to say of the broadcast with this number, which was announced as `entry` -/
structure Announces (I : Host → Prop) (type : MessageType) (payload : Payload) (n : ℕ) (entry : Out) : Prop where
  write : ∀ h p conn messageId, I h → entry ∈ h.log → I (h.note (.wrote p conn (envelopeOf h type payload n messageId)))
  cut : ∀ h, I h → I (h.note (.cut type n))

theorem Announces.carries {I : Host → Prop} {type : MessageType} {payload : Payload} {n : ℕ} {entry : Out}
    (A : Announces I type payload n entry) (own : Set Empty) (messageId : String) :
    Carries (AtRest I) own type payload n messageId (fun _ h => entry ∈ h.log) fun _ => True where
  stays _ _ _ hentry hr _ _ := hr.subset hentry
  skip _ _ _ _ _ hentry := hentry
  write pid peer _ h _ hi hentry :=
    ⟨Discipline.may_plain.2 (List.suffix_cons _ _), Discipline.take_eq fun m => m.elim,
      A.write h pid peer.conn messageId hi hentry, List.mem_cons_of_mem _ hentry⟩
  cut _ h hi _ :=
    ⟨Discipline.may_plain.2 (List.suffix_cons _ _), Discipline.take_eq fun m => m.elim, A.cut h hi, trivial⟩

section announce
variable {I : Host → Prop} {T : List Topic} {type : MessageType} {payload : Payload} {own : Set Empty} {h : Host}

/-- a broadcast whose announcement establishes the invariant -/
theorem Follows.announces (F : Follows (AtRest I) T)
    (hsend : ∀ h' : Host, h'.playerId = h.playerId → h'.session = h.session → h'.log = h.log →
      I (h'.note (.sending type (h.resolve payload.orEmpty) (h.seq + 1) h.session.travel.current)))
    (hwrites : Announces I type payload.orEmpty (h.seq + 1)
      (.sending type (h.resolve payload.orEmpty) (h.seq + 1) h.session.travel.current)) :
    Coro.wp (AtRest I) own (broadcastPeers type payload) (Ends (AtRest I) fun m _ => m.elim) h := by
  have hsent := hsend { h with seq := h.seq + 1, uuids := h.uuids + 1 } rfl rfl rfl
  rw [broadcastPeers, nextSeq, drawUuid, wp_bind, wp_call, andThen_ok, wp_bind, wp_call, andThen_ok, wp_bind, wp_get,
    andThen_ok, emit, wp_bind, wp_modify, andThen_ok, wp_bind]
  simp only [Discipline.may_plain]
  refine ⟨List.suffix_rfl, List.suffix_rfl, List.suffix_rfl, List.suffix_cons _ _, ?_⟩
  refine wp_mono ?_ ((hwrites.carries _ _).wp_writeEach F.lawful hsent List.mem_cons_self)
  rintro (e | dead) own' h' ⟨-, hi', -⟩
  · exact ⟨hi', fun m => m.elim⟩
  · exact F.ends (guar_dropAll F.session F.member dead) hi'

/-- such a broadcast, and then the message to the host's game -/
theorem Follows.announces_hosted (F : Follows (AtRest I) T)
    (hsend : ∀ h' : Host, h'.playerId = h.playerId → h'.session = h.session → h'.log = h.log →
      I (h'.note (.sending type (h.resolve payload.orEmpty) (h.seq + 1) h.session.travel.current)))
    (hwrites : Announces I type payload.orEmpty (h.seq + 1)
      (.sending type (h.resolve payload.orEmpty) (h.seq + 1) h.session.travel.current))
    (hrest : ∀ me, Guar (On T) (Host.onNetworkMessage type payload.orEmpty me)) :
    Coro.wp (AtRest I) own (Host.broadcast type payload) (Ends (AtRest I) fun m _ => m.elim) h := by
  rw [Host.broadcast, wp_bind]
  refine wp_mono ?_ (F.announces hsend hwrites)
  rintro (e | _) own' h' ⟨hi', -⟩
  · exact ⟨hi', fun m => m.elim⟩
  · exact F.then_ends (guar_of_aside (aside_read F.session)) hi' fun h' own'' h'' hi'' _ => F.ends (hrest _) hi''

end announce

end KerMP.Host
