/-
The stream of build operations that the host broadcasts (`build.operation` in `KerMPHost._dispatch` of `kermp/net.py`
and in `HostRuntime._on_game_event` of `kermp/runtime.py`).

An operation is numbered and its `build.apply` announced in one step, and nothing else broadcasts a `build.apply`. So
however the handlers overlap, the broadcasts are the accepted operations in their order.

- `operations_broadcast`: in every run the broadcasts of `build.apply` are the accepted operations, one each, and these
  are numbered 1, 2, 3, ...
- `operations_since_joining`: after a run in turn, when no handler is suspended, a connection has been written the
  operations accepted since its player joined, each once and in their order, if none of the broadcasts was cut short.
-/
import KerMP.Host.Prompt

namespace KerMP.Host

open Py Coop
open Coro hiding pure get modify

/-! ## What the log tells -/

/-- the operation an entry accepts -/
def Out.operation : Out → Option BuildOperation
  | .sequenced _ op => some op
  | _ => none

/-- the operations that were accepted, newest first -/
def acceptedOps (log : List Out) : List BuildOperation := log.filterMap Out.operation

/-- what an operation is sent as; that of the host's game has the id under which the game captured it -/
def SentAs (me : String) (payload : Json) (op : BuildOperation) : Prop :=
  payload = buildApply op ∨ op.playerId = me ∧ payload = gameBuildApply op

/-- the broadcast of an operation -/
structure Sends (me : String) (op : BuildOperation) (a : Announcement) : Prop where
  type : a.type = .buildApply
  payload : SentAs me a.payload op

/-- every accepted operation was broadcast, in its order -/
def Broadcast (me : String) (log : List Out) : Prop :=
  List.Forall₂ (Sends me) (acceptedOps log) (outgoing (only .buildApply) log)

/-- whenever somebody joined, every operation accepted by then had been broadcast -/
def Caught (me : String) : List Out → Prop
  | [] => True
  | .joined _ _ :: log => Broadcast me log ∧ Caught me log
  | _ :: log => Caught me log

theorem caught_cons {me : String} {o : Out} {log : List Out} (h : Caught me log)
    (ho : ∀ p conn, o = .joined p conn → Broadcast me log) : Caught me (o :: log) := by
  cases o with
  | joined p conn => exact ⟨ho p conn rfl, h⟩
  | _ => exact h

theorem caught_split {me : String} {newer older : List Out} {p : String} {conn : ℕ}
    (h : Caught me (newer ++ .joined p conn :: older)) : Broadcast me older := by
  induction newer with
  | nil => exact h.1
  | cons o newer ih =>
    apply ih
    cases o with
    | joined => exact h.2
    | _ => exact h

/-- an envelope is exactly what was announced under its number -/
def AsAnnounced (env : Envelope) (log : List Out) : Prop :=
  ∃ n : ℕ, ∃ travel, numberOf env = some (n : ℤ) ∧ .sending env.type env.payload n travel ∈ log

theorem AsAnnounced.mono {env : Envelope} {log log' : List Out} (h : AsAnnounced env log) (hlog : log <:+ log') :
    AsAnnounced env log' := by
  obtain ⟨n, travel, hn, hmem⟩ := h
  exact ⟨n, travel, hn, hlog.subset hmem⟩

/-- the operations are numbered from 1 on, and all were broadcast but those that are owed -/
structure Owes (me : String) (owed : List BuildOperation) (h : Host) : Prop where
  host : h.playerId = me
  numbers : (acceptedOps h.log).map (·.seq) = (List.range' 1 h.session.build.seq).reverse
  sent : ∃ ops, acceptedOps h.log = owed ++ ops ∧ List.Forall₂ (Sends me) ops (outgoing (only .buildApply) h.log)
  caught : Caught me h.log
  writes : ∀ p conn env, .wrote p conn env ∈ h.log → env.type = .buildApply → AsAnnounced env h.log

variable {me : String}

theorem Owes.broadcast {h : Host} (hi : Owes me [] h) : Broadcast me h.log := by
  obtain ⟨ops, hops, hsent⟩ := hi.sent
  rw [Broadcast, hops]
  exact hsent

/-! ## Steps of other topics -/

theorem operations_append {os : List Out} (hos : ∀ o ∈ os, o.topic ≠ .build) (log : List Out) :
    acceptedOps (os ++ log) = acceptedOps log ∧
      outgoing (only .buildApply) (os ++ log) = outgoing (only .buildApply) log := by
  have hops : acceptedOps os = [] := List.filterMap_eq_nil_iff.2 fun o ho => by
    cases o with
    | sequenced => exact absurd rfl (hos _ ho)
    | _ => rfl
  have hsent : outgoing (only .buildApply) os = [] := List.filterMap_eq_nil_iff.2 fun o ho => by
    cases o with
    | sending type payload n travel =>
      have hne : type ≠ .buildApply := fun h => hos _ ho (by rw [h]; rfl)
      simp [only, hne]
    | _ => rfl
  constructor
  · rw [acceptedOps, List.filterMap_append, ← acceptedOps, ← acceptedOps, hops, List.nil_append]
  · rw [outgoing_append, hsent, List.nil_append]

theorem Does.operations {l : Label} {h h' : Host} (d : Does l h h') (hl : l.topic ≠ .build) :
    h'.session.build.seq = h.session.build.seq := by
  by_cases hm : ∃ p, l = .drop p
  · obtain ⟨p, rfl⟩ := hm
    cases d with
    | drop =>
      show (h.session.removePlayer p).build.seq = _
      rw [(HostSession.removePlayer_eq h.session p).2.2.1]
      split_ifs
      · rfl
      · rfl
  by_cases hlock : l.topic = .lock
  · cases d with
    | lock _ player t₁ t₂ wall =>
      show (h.session.build.requestLock player t₁ t₂ wall).2.seq = _
      unfold BuildAuthority.requestLock
      dsimp only
      split_ifs
      · exact BuildAuthority.dropExpired_seq _ _
      · exact BuildAuthority.dropExpired_seq _ _
    | release _ player =>
      show (h.session.build.releaseLock player).2.seq = _
      unfold BuildAuthority.releaseLock
      split_ifs
      · rfl
      · rfl
    | note => rfl
    | _ => cases hlock
  · rw [d.build hlock hl fun p hp => hm ⟨p, hp⟩]

theorem caught_append {os log : List Out} (hos : ∀ o ∈ os, o.topic ≠ .build) (hsent : Broadcast me log)
    (h : Caught me log) : Caught me (os ++ log) := by
  induction os with
  | nil => exact h
  | cons o os ih =>
    have hrest : ∀ x ∈ os, x.topic ≠ .build := fun x hx => hos x (List.mem_cons_of_mem o hx)
    refine caught_cons (ih hrest) fun _ _ _ => ?_
    obtain ⟨hops, hsame⟩ := operations_append hrest log
    rw [Broadcast, List.append_eq, hops, hsame]
    exact hsent

theorem Owes.step {l : Label} {h h' : Host} (d : Does l h h') (hl : l.topic ≠ .build) (hi : Owes me [] h) :
    Owes me [] h' := by
  obtain ⟨os, hlog, htopic⟩ := d.log
  have hos : ∀ o ∈ os, o.topic ≠ .build := fun o ho => htopic o ho ▸ hl
  obtain ⟨hops, hsent⟩ := operations_append hos h.log
  refine ⟨d.playerId.trans hi.host, ?_, ?_, ?_, fun p conn env hmem htype => ?_⟩
  · rw [hlog, hops, d.operations hl]
    exact hi.numbers
  · rw [hlog, hops, hsent]
    exact hi.sent
  · rw [hlog]
    exact caught_append hos hi.broadcast hi.caught
  · rw [hlog] at hmem
    rcases List.mem_append.1 hmem with hmem | hmem
    · exact absurd (by rw [Out.topic, htype]; rfl) (hos _ hmem)
    · exact (hi.writes p conn env hmem htype).mono ⟨os, hlog.symm⟩

/-- the topics beside that of the operations -/
def unbuilt : List Topic :=
  [.session, .member, .readiness, .travel, .commit, .resume, .lock, .apply, .request, .status, .view, .clock]

theorem follows_operations (me : String) : Follows (AtRest (Owes me [])) unbuilt :=
  follows_atRest (by decide) fun _ _ _ hl d hi => hi.step d (ne_of_mem_of_not_mem hl (by decide))

/-! ## An operation -/

/-- a note that is neither an operation nor a broadcast of one -/
theorem Owes.noted {h : Host} {owed : List BuildOperation} (hi : Owes me owed h) {o : Out}
    (hop : acceptedOps (o :: h.log) = acceptedOps h.log)
    (hsent : outgoing (only .buildApply) (o :: h.log) = outgoing (only .buildApply) h.log)
    (hcaught : Caught me (o :: h.log))
    (hwrote : ∀ p conn env, o = .wrote p conn env → env.type = .buildApply → AsAnnounced env h.log) :
    Owes me owed (h.note o) where
  host := hi.host
  numbers := by
    show (acceptedOps (o :: h.log)).map _ = _
    rw [hop]
    exact hi.numbers
  sent := by
    show ∃ ops, acceptedOps (o :: h.log) = _ ∧ List.Forall₂ _ ops (outgoing (only .buildApply) (o :: h.log))
    rw [hop, hsent]
    exact hi.sent
  caught := hcaught
  writes p conn env hmem htype := by
    rcases List.mem_cons.1 hmem with he | hmem
    · exact (hwrote p conn env he.symm htype).mono (List.suffix_cons _ _)
    · exact (hi.writes p conn env hmem htype).mono (List.suffix_cons _ _)

/-- what is written is what was announced -/
theorem announces_operation (me : String) (payload : Json) (n : ℕ) (travel : Option Travel.TravelTxn) :
    Announces (Owes me []) .buildApply (.val payload) n (.sending .buildApply payload n travel) where
  write h p conn messageId hi hentry := hi.noted rfl rfl hi.caught fun _ _ env he _ => by
    cases he
    exact ⟨n, travel, numberOf_envelopeOf (by decide) h (.val payload) n messageId, hentry⟩
  cut h hi := hi.noted rfl rfl hi.caught fun _ _ _ he => by cases he

/-- the announcement of the operation that is owed -/
theorem Owes.sending {op : BuildOperation} {h h' : Host} (hi : Owes me [op] h) {payload : Json} {n : ℕ}
    {travel : Option Travel.TravelTxn} (hme : h'.playerId = h.playerId) (hsession : h'.session = h.session)
    (hlog : h'.log = h.log) (hpayload : SentAs me payload op) :
    Owes me [] (h'.note (.sending .buildApply payload n travel)) := by
  obtain ⟨ops, hops, hsent⟩ := hi.sent
  refine ⟨hme.trans hi.host, ?_, ⟨acceptedOps h.log, ?_, ?_⟩, ?_, fun p conn env hmem htype => ?_⟩
  · show (acceptedOps h'.log).map (·.seq) = (List.range' 1 h'.session.build.seq).reverse
    rw [hlog, hsession]
    exact hi.numbers
  · show acceptedOps h'.log = acceptedOps h.log
    rw [hlog]
  · show List.Forall₂ (Sends me) (acceptedOps h.log) (⟨.buildApply, n, payload⟩ :: outgoing (only .buildApply) h'.log)
    rw [hlog, hops]
    exact .cons ⟨rfl, hpayload⟩ hsent
  · show Caught me h'.log
    rw [hlog]
    exact hi.caught
  · have hmem : .wrote p conn env ∈ h.log := hlog ▸ List.mem_of_ne_of_mem (by simp) hmem
    exact (hi.writes p conn env hmem htype).mono (hlog ▸ List.suffix_cons _ _)

/-- a call of the authority: an operation that it accepts is owed to the peers -/
theorem wp_submit_owes {own : Set Empty} {h : Host} (player op : String) (data : List (String × Json))
    (hi : Owes me [] h) : wp (AtRest (Owes me [])) own (submit player op data) (fun r _ h' =>
      match r with
      | .ok o => o.playerId = player ∧ Owes me [o] h'
      | .error _ => Owes me [] h') h := by
  have F := follows_operations me
  have hclock : Guar (On unbuilt) readClock := guar_of_aside (aside_readClock F.session)
  rw [submit, wp_bind]
  refine wp_mono ?_ (F.wp hclock hi)
  rintro (e | t₁) own₁ h₁ ⟨-, hi₁, -, -⟩
  · exact hi₁
  rw [andThen_ok, wp_bind]
  refine wp_mono ?_ (F.wp hclock hi₁)
  rintro (e | t₂) own₂ h₂ ⟨-, hi₂, -, -⟩
  · exact hi₂
  rw [andThen_ok, wp_tryCall, Discipline.may_plain]
  rcases he : h₂.session.build.submit player op data t₁ t₂ with ⟨e | o, b⟩
  · have hseq : b.seq = h₂.session.build.seq := by
      rw [BuildAuthority.submit_error he]
      exact BuildAuthority.dropExpired_seq _ _
    refine ⟨List.suffix_cons _ _, hi₂.host, ?_, hi₂.sent, hi₂.caught, fun p conn env hmem htype => ?_⟩
    swap
    · exact (hi₂.writes p conn env (List.mem_of_ne_of_mem (by simp) hmem) htype).mono (List.suffix_cons _ _)
    show (acceptedOps h₂.log).map (·.seq) = (List.range' 1 b.seq).reverse
    rw [hseq]
    exact hi₂.numbers
  · obtain ⟨-, ⟨d, -, ho⟩, hseq, -⟩ := BuildAuthority.submit_ok he
    obtain ⟨ops, hops, hsent⟩ := hi₂.sent
    have hlog : h₂.log <:+ .sequenced b.ownerId o :: .captured player op data h₂.session.build t₁ :: h₂.log :=
      ⟨[_, _], rfl⟩
    refine ⟨hlog, by rw [ho], hi₂.host, ?_, ⟨ops, ?_, hsent⟩, hi₂.caught, fun p conn env hmem htype => ?_⟩
    · show (o :: acceptedOps h₂.log).map (·.seq) = (List.range' 1 b.seq).reverse
      rw [List.map_cons, hi₂.numbers, hseq, List.range'_1_concat, List.reverse_concat, ho, Nat.add_comm]
    · show o :: acceptedOps h₂.log = [o] ++ ops
      rw [hops]
      rfl
    · have hmem : .wrote p conn env ∈ h₂.log := List.mem_of_ne_of_mem (by simp) (List.mem_of_ne_of_mem (by simp) hmem)
      exact (hi₂.writes p conn env hmem htype).mono hlog

theorem settles_buildOperation (sender : String) (payload : Json) :
    Settles (AtRest (Owes me [])) (fun m _ => m.elim) (dispatchBuildOperation sender payload) := by
  intro h hi
  have F := follows_operations me
  have hsubmit : wp (AtRest (Owes me [])) ∅ (submitFrom sender payload) (fun r _ h' =>
      match r with
      | .ok o => o.playerId = sender ∧ Owes me [o] h'
      | .error _ => Owes me [] h') h := by
    refine wp_ofExcept_bind (fun e _ => hi) fun op _ => ?_
    exact wp_ofExcept_bind (fun e _ => hi) fun data _ => wp_submit_owes sender op.toStr data hi
  refine wp_attempt_bind hsubmit ?_
  rintro (e | o) own' h' ho
  · dsimp only
    split_ifs
    · exact F.ends (guar_sendError F.session _ _) ho
    · exact ⟨ho, fun m => m.elim⟩
  · have happly : ∀ me, Guar (On unbuilt) (onNetworkMessage .buildApply (.val (buildApply o)) me) := fun _ =>
      guar_of_made F.session F.member (made_onNetworkMessage F.session (by decide) (by decide) (by decide) _ _)
    refine F.announces_hosted (fun h'' hhost hsession hlog => ?_) (announces_operation me _ _ _) happly
    exact ho.2.sending hhost hsession hlog (Or.inl rfl)

theorem settles_gameOperation (payload : Json) :
    Settles (AtRest (Owes me [])) (fun m _ => m.elim) (gameBuildOperation payload) := by
  intro h hi
  have F := follows_operations me
  have hlock : Guar (On unbuilt) (requestLockNoting h.playerId fun authority now => [.offered payload authority now]) :=
    guar_of_aside (aside_requestLockNoting F.session F.lock _ (by simp [Out.topic]) (by simp [Out.aside]))
  rw [gameBuildOperation, wp_bind, hostId]
  refine wp_read F.lawful (F.then_ends hlock hi fun granted own₁ h₁ hi₁ _ => ?_)
  split_ifs
  · have hrefused : Made unbuilt (fun _ _ => False) (lockOwner >>= fun owner =>
        forward .buildLockState (.val (.obj [("owner_id", owner)]))) :=
      .bind (made_lockOwner F.session) fun _ => made_forward (by decide) _
    exact F.ends (guar_of_made F.session F.member hrefused) hi₁
  have hsubmit : wp (AtRest (Owes me [])) own₁ (submitFromGame h.playerId payload) (fun r _ h' =>
      match r with
      | .ok o => o.playerId = h.playerId ∧ Owes me [o] h'
      | .error _ => Owes me [] h') h₁ := by
    refine wp_ofExcept_bind (fun e _ => hi₁) fun op _ => ?_
    exact wp_ofExcept_bind (fun e _ => hi₁) fun data _ => wp_submit_owes h.playerId op.toStr data hi₁
  refine wp_attempt_bind hsubmit ?_
  rintro (e | o) own₂ h₂ ho
  · dsimp only
    split_ifs
    · exact F.ends (guar_of_made F.session F.member (made_forward (by decide) _)) ho
    · exact ⟨ho, fun m => m.elim⟩
  · refine F.announces (fun h₃ hhost hsession hlog => ?_) (announces_operation me _ _ _)
    exact ho.2.sending hhost hsession hlog (Or.inr ⟨ho.1.trans hi.host, rfl⟩)

theorem pass_operations (me : String) : Pass (AtRest (Owes me [])) (fun m _ => m.elim) unbuilt where
  toFollows := follows_operations me
  stable := fun m => m.elim
  travel := Or.inl (by decide)
  ready := Or.inl (by decide)
  zoneReady := Or.inl (by decide)
  build := by
    refine Or.inr ⟨settles_buildOperation, fun sender payload => ?_, settles_gameOperation⟩
    have hmade : Made unbuilt (fun _ _ => False) (dispatchOther sender .buildApply payload) :=
      made_dispatchOther (by decide) sender payload (by decide) (by decide) (by decide)
    exact (follows_operations me).settles _ (guar_of_made (by decide) (by decide) hmade)
  request := Or.inl (by decide)
  status := Or.inl (by decide)
  view := Or.inl (by decide)
  abort := Or.inl (by decide)

/-! ## Runs -/

theorem init_build (playerId displayName sessionId : String) (manifest : CompatibilityManifest)
    (nativeRequired : Bool) (commands : NetworkedCommandRouter) :
    (init playerId displayName sessionId manifest nativeRequired commands).session.build = .init :=
  ((HostSession.addPlayer_calm _ _ _ _).trans (HostSession.updateReadiness_calm _ _ _)).build

/-- wherever the handlers of a run wait, nothing is owed -/
theorem run_operations (playerId displayName sessionId : String) (manifest : CompatibilityManifest)
    (nativeRequired : Bool) (commands : NetworkedCommandRouter) (acts : List HostAct) :
    Owes playerId []
      (runFrom (started playerId displayName sessionId manifest nativeRequired commands) acts).state := by
  have h₀ : Owes playerId [] (init playerId displayName sessionId manifest nativeRequired commands) := by
    have hseq := congrArg BuildAuthority.seq
      (init_build playerId displayName sessionId manifest nativeRequired commands)
    refine ⟨rfl, ?_, ⟨[], rfl, .nil⟩, trivial, fun _ _ _ hmem => absurd hmem List.not_mem_nil⟩
    rw [hseq]
    rfl
  exact ((pass_operations playerId).run (Pool.inv_init h₀ fun m => m.elim) acts).2.state

/-- **The broadcasts are the operations.** In every run the `build.apply` messages that are broadcast are the accepted
operations, one each and in their order, and these are numbered from 1 on. -/
theorem operations_broadcast (playerId displayName sessionId : String) (manifest : CompatibilityManifest)
    (nativeRequired : Bool) (commands : NetworkedCommandRouter) (acts : List HostAct) :
    let h := (runFrom (started playerId displayName sessionId manifest nativeRequired commands) acts).state
    List.Forall₂ (Sends playerId) (acceptedOps h.log) (outgoing (only .buildApply) h.log) ∧
      (acceptedOps h.log).map (·.seq) = (List.range' 1 h.session.build.seq).reverse := by
  have hi := run_operations playerId displayName sessionId manifest nativeRequired commands acts
  exact ⟨hi.broadcast, hi.numbers⟩

/-! ## A connection -/

/-- an operation is written as it was announced -/
theorem Owes.verbatim {h : Host} (hi : Owes me [] h) : Verbatim .buildApply h.log := by
  intro p conn env hmem htype
  obtain ⟨n, travel, hn, hsent⟩ := hi.writes p conn env hmem htype
  exact ⟨n, travel, hn, htype ▸ hsent⟩

/-- what is announced of operations -/
theorem sentAs_of_sends {me : String} {ops : List BuildOperation} {as : List Announcement}
    (h : List.Forall₂ (Sends me) ops as) : List.Forall₂ (SentAs me) (as.map Announcement.payload) ops :=
  List.forall₂_map_left_iff.2 (h.flip.imp fun _ _ hsends => hsends.payload)

/-- **A connection gets the operations in their order.** After a run in turn, when no handler is suspended, what a
connection has been written of `build.apply`, newest first, are the operations accepted since its player joined, and
before these none but operations accepted earlier; if no broadcast of an operation was cut short and the player has not
left. -/
theorem operations_since_joining (playerId displayName sessionId : String) (manifest : CompatibilityManifest)
    (nativeRequired : Bool) (commands : NetworkedCommandRouter) {acts : List HostAct}
    (hturn : RunInTurn (started playerId displayName sessionId manifest nativeRequired commands) acts)
    (hquiet : (runFrom (started playerId displayName sessionId manifest nativeRequired commands) acts).tasks = [])
    {newer older : List Out} {p : String} {conn : ℕ}
    (hlog : (runFrom (started playerId displayName sessionId manifest nativeRequired commands) acts).state.log =
      newer ++ .joined p conn :: older)
    (hstays : ∀ travel, .left p travel ∉ newer) (hcut : ∀ n, .cut .buildApply n ∉ newer) :
    ∃ since before, payloadsOf .buildApply (writtenTo conn
        (runFrom (started playerId displayName sessionId manifest nativeRequired commands) acts).state.log) =
          since ++ before ∧
      List.Forall₂ (SentAs playerId) since (acceptedOps newer) ∧
      List.SublistForall₂ (SentAs playerId) before (acceptedOps older) := by
  have hdelivers := run_delivers playerId displayName sessionId manifest nativeRequired commands acts
  have horder := (run_numbered playerId displayName sessionId manifest nativeRequired commands hturn).order
  have hi := run_operations playerId displayName sessionId manifest nativeRequired commands acts
  generalize runFrom (started playerId displayName sessionId manifest nativeRequired commands) acts = c at *
  obtain ⟨before, hwritten, hbefore⟩ := verbatim_since hdelivers horder hquiet hi.verbatim hlog hstays hcut
  have hwhole : Broadcast playerId (newer ++ .joined p conn :: older) := hlog ▸ hi.broadcast
  have hearlier : Broadcast playerId older := caught_split (hlog ▸ hi.caught)
  have hnewer : List.Forall₂ (Sends playerId) (acceptedOps newer) (outgoing (only .buildApply) newer) := by
    rw [Broadcast, acceptedOps, List.filterMap_append, outgoing_append] at hwhole
    exact Streams.forall₂_of_append hwhole hearlier
  exact ⟨_, before, hwritten, sentAs_of_sends hnewer,
    Streams.sublistForall₂_of_sublist hbefore (sentAs_of_sends hearlier)⟩

end KerMP.Host
