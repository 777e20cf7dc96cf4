/-
Whose readiness the messages of a client reach (`KerMPHost._dispatch` of `kermp/net.py`, `HostSession.update_readiness` of
`kermp/session.py`).

A client reports on itself: three kinds of messages set fields of its own record, and the names of the fields in one of
them come from its payload. What the host has found out about it, the reasons against its manifest and whether its native
support is there, is in the same record. The other messages set no readiness, and as long as nobody has to be dropped
because a write fails, no record goes away.

- `guar_written_of_made`: with every write getting through, a handler makes its steps and drops nobody.
- `OwnReadiness`: what an update leaves alone, `ownReadiness_update`: the update of the three messages does.
- `reaches_own_readiness`: whatever a client sends, and whatever the others do meanwhile.
- `forged_fields`: a report with fields that are not for the client to set, and one that is.
-/
import KerMP.CoreReadiness
import KerMP.Lib.Alongside
import KerMP.Host.Handlers

namespace KerMP.Host

open Py Coop
open Coro hiding pure get modify

/-! ## Successful writes -/

/-- the socket takes what is written -/
def written (a : Answer) : Answer := { a with ok := true }

/-- nobody's write fails -/
theorem returns_writeEach (type : MessageType) (payload : Payload) (seq : ℕ) (messageId : String) (size : ℕ)
    (pids : List String) :
    Returns (fun dead => dead = []) ((writeEach type payload seq messageId size pids).answering written) := by
  induction pids with
  | nil =>
    unfold writeEach
    rw [answering_bind]
    exact returns_after fun _ => rfl
  | cons pid rest ih =>
    unfold writeEach
    rw [answering_bind]
    refine returns_after fun _ => ?_
    rw [answering_bind]
    refine returns_after fun h => ?_
    cases h.peers.lookup pid with
    | none => exact ih
    | some peer =>
      dsimp only
      rw [answering_bind]
      refine returns_after fun _ => ?_
      have hsuspend : Returns (fun a : Answer => a.ok = true) ((suspend : HostM Answer).answering written) := fun _ => rfl
      rw [answering_bind]
      refine returns_bind hsuspend fun a ha => ?_
      rw [answering_bind]
      refine returns_bind ih ?_
      rintro _ rfl
      rw [ha]
      rfl

section written
variable {T : List Topic} {P : Host → Host → Prop}

theorem guar_written_broadcastPeers (hs : .session ∈ T) (hP : ∀ h h', On T h h' → P h h') {type : MessageType}
    (ht : type.topic ∈ T) (payload : Payload) : Guar P ((broadcastPeers type payload).answering written) := by
  have hstep : ∀ {α : Type} {p : HostM α}, Guar (On T) p → Guar P (p.answering written) :=
    fun hp => guar_answering (hp.mono hP)
  unfold broadcastPeers
  rw [answering_bind]
  refine guar_bind (hstep (guar_nextSeq hs)) fun seq => ?_
  rw [answering_bind]
  refine guar_bind (hstep (guar_of_aside (aside_drawUuid hs))) fun messageId => ?_
  rw [answering_bind]
  refine guar_bind (hstep (guar_of_aside (aside_read hs))) fun h => ?_
  rw [answering_bind]
  refine guar_bind (hstep (guar_emit ht)) fun _ => ?_
  rw [answering_bind]
  refine guar_bind_returns (hstep (guar_writeEach hs ht _ seq messageId _ _)) (returns_writeEach _ _ _ _ _ _) ?_
  rintro _ rfl
  exact guar_pure ()

/-- a program that is put together from steps on `T`, and from programs of its own, makes these steps and drops nobody -/
theorem guar_written_of_made {Own : (α : Type) → HostM α → Prop} (hs : .session ∈ T)
    (hP : ∀ h h', On T h h' → P h h') (hown : ∀ (α : Type) (p : HostM α), Own α p → Guar P (p.answering written))
    {α : Type} {p : HostM α} (hp : Made T Own p) : Guar P (p.answering written) := by
  induction hp with
  | own h => exact hown _ _ h
  | aside h => exact guar_answering ((guar_of_aside h).mono hP)
  | sendPeer player payload ht => exact guar_answering ((guar_sendPeer hs player ht payload _).mono hP)
  | broadcastPeers payload ht => exact guar_written_broadcastPeers hs hP ht payload
  | bind _ _ ihp ihf =>
    rw [answering_bind]
    exact guar_bind ihp ihf
  | attempt _ ih =>
    rw [answering_attempt]
    exact guar_attempt ih

theorem guar_written_catching {α : Type} {p : Exc → Bool} {body : HostM α} {handler : Exc → HostM α}
    (hb : Guar P (body.answering written)) (hh : ∀ e, Guar P ((handler e).answering written)) :
    Guar P ((catching p body handler).answering written) := by
  unfold catching
  rw [answering_bind, answering_attempt]
  refine guar_bind (guar_attempt hb) fun r => ?_
  cases r with
  | ok a => exact guar_pure a
  | error e =>
    dsimp only
    split_ifs
    · exact hh e
    · exact guar_raise e

end written

/-! ## What is left alone -/

/-- the records of the others, and what the host has found out about the player -/
structure OwnReadiness (player : String) (h h' : Host) : Prop where
  others : ∀ q, q ≠ player → h'.session.readinessOf q = h.session.readinessOf q
  reasons : (h'.session.readinessOf player).map (·.compatibilityReasons) =
    (h.session.readinessOf player).map (·.compatibilityReasons)
  native : (h'.session.readinessOf player).map (·.nativeReady) = (h.session.readinessOf player).map (·.nativeReady)

theorem OwnReadiness.of_same {player : String} {h h' : Host}
    (same : ∀ q, h'.session.readinessOf q = h.session.readinessOf q) : OwnReadiness player h h' :=
  ⟨fun q _ => same q, by rw [same player], by rw [same player]⟩

theorem OwnReadiness.trans {player : String} {a b c : Host} (h : OwnReadiness player a b)
    (h' : OwnReadiness player b c) : OwnReadiness player a c :=
  ⟨fun q hq => (h'.others q hq).trans (h.others q hq), h'.reasons.trans h.reasons, h'.native.trans h.native⟩

/-- only steps on readiness and on membership touch a record -/
theorem Does.readinessOf {l : Label} {h h' : Host} (d : Does l h h') (hr : l.topic ≠ .readiness) (hm : l.topic ≠ .member)
    (q : String) : h'.session.readinessOf q = h.session.readinessOf q := by
  cases d with
  | quiet _ same => exact same q
  | readiness => exact absurd rfl hr
  | join | drop => exact absurd rfl hm
  | ackReady _ player txnId epoch =>
    obtain ⟨c, os, e⟩ := ackReady_sets h player txnId epoch
    rw [e]
    rfl
  | ackZone _ player txnId epoch =>
    obtain ⟨c, os, e⟩ := ackZone_sets h player txnId epoch
    rw [e]
    rfl
  | accept _ requestId player payload e =>
    obtain ⟨r, -, -, rfl⟩ := HostSession.validateInteraction_ok e
    rfl
  | _ => rfl

/-- every topic but readiness and membership -/
def unready : List Topic := [.session, .travel, .commit, .resume, .lock, .build, .apply, .request, .status, .view, .clock]

theorem unready_parts : Parts unready (fun _ _ => False) :=
  .of_topics (by decide) (Or.inl (by decide))

theorem ownReadiness_of_on {player : String} {h h' : Host} (hon : On unready h h') : OwnReadiness player h h' := by
  obtain ⟨l, hl, d⟩ := hon
  have hready : l.topic ≠ .readiness := ne_of_mem_of_not_mem hl (by decide)
  have hmember : l.topic ≠ .member := ne_of_mem_of_not_mem hl (by decide)
  exact .of_same (d.readinessOf hready hmember)

theorem ownReadiness_of_made (player : String) {α : Type} {p : HostM α} (hp : Made unready (fun _ _ => False) p) :
    Guar (OwnReadiness player) (p.answering written) :=
  guar_written_of_made (by decide) (fun _ _ => ownReadiness_of_on) (fun _ _ h => h.elim) hp

/-! ## Reports -/

theorem readinessOf_updateReadiness (s : HostSession) (player : String) (fields : List (String × Json)) (q : String) :
    (s.updateReadiness player fields).2.readinessOf q = if q = player
      then (s.readinessOf player).map fun r => (HostSession.setReadiness r fields).2
      else s.readinessOf q := by
  unfold HostSession.updateReadiness
  cases hp : s.players.lookup player with
  | none =>
    dsimp only
    split_ifs with hq
    · rw [hq]
      simp [HostSession.readinessOf, hp]
    · rfl
  | some p =>
    have hmine : s.readinessOf player = some p.readiness := by rw [HostSession.readinessOf, hp, Option.map_some]
    have hnew : ∀ r : PlayerReadiness,
        { s with players := s.players.setItem player { p with readiness := r } }.readinessOf q =
          if q = player then some r else s.readinessOf q := by
      intro r
      show ((s.players.setItem player { p with readiness := r }).lookup q).map _ = _
      rw [AList.lookup_setItem]
      split_ifs <;> rfl
    rw [hmine, Option.map_some]
    dsimp only
    rcases hset : HostSession.setReadiness p.readiness fields with ⟨_ | _, r⟩
    · exact hnew r
    · exact hnew r

/-- fields that a client may set -/
theorem ownReadiness_update {player : String} {fields : List (String × Json)}
    (hfields : ∀ f ∈ fields, f.1 ∈ PlayerReadiness.clientFields) :
    Guar (OwnReadiness player) (updateReadiness player fields) := by
  refine guar_tryCall fun h => ?_
  have hset := fun r => (HostSession.setReadiness_allowed hfields r).2
  refine ⟨fun q hq => ?_, ?_, ?_⟩
  · exact (readinessOf_updateReadiness h.session player fields q).trans (if_neg hq)
  · rw [readinessOf_updateReadiness h.session player fields player, if_pos rfl, Option.map_map]
    exact congrArg (Option.map · _) (funext fun r => (hset r).1)
  · rw [readinessOf_updateReadiness h.session player fields player, if_pos rfl, Option.map_map]
    exact congrArg (Option.map · _) (funext fun r => (hset r).2)

theorem ownReadiness_announce {player : String} {fields : List (String × Json)}
    (hfields : ∀ f ∈ fields, f.1 ∈ PlayerReadiness.clientFields) :
    Guar (OwnReadiness player) ((announceReadiness player fields).answering written) := by
  unfold announceReadiness
  rw [answering_bind]
  refine guar_bind (guar_answering (ownReadiness_update hfields)) fun readiness => ownReadiness_of_made player ?_
  exact .bind (made_ofExcept _) fun _ =>
    made_broadcast (by decide) (by decide) (by decide) (by decide) (Or.inl (by decide)) (by decide) _

theorem ownReadiness_sendError (player reason : String) :
    Guar (OwnReadiness player) ((sendError player reason).answering written) :=
  ownReadiness_of_made player (made_sendError (by decide) player reason)

/-- the three messages -/
theorem ownReadiness_report {env : Envelope} (ht : env.type ∈ Parts.readinessReports) :
    Guar (OwnReadiness env.senderId) ((dispatch env).answering written) := by
  unfold dispatch
  simp only [Parts.readinessReports, List.mem_cons, List.not_mem_nil, or_false] at ht
  rcases ht with ht | ht | ht <;> rw [ht]
  · refine guar_written_catching ?_ fun e => ownReadiness_sendError _ _
    rw [answering_bind, answering_ofExcept]
    -- the names come from the payload, and only those for clients are left
    exact guar_ofExcept_bind fun fields hfields =>
      ownReadiness_announce fun f hf => HostSession.mem_fields (u := .readiness env.payload) hfields hf
  · refine guar_written_catching ?_ fun e => ownReadiness_sendError _ _
    rw [answering_bind, answering_ofExcept]
    refine guar_bind (guar_ofExcept _) fun hash => ?_
    rw [answering_bind, answering_ofExcept]
    exact guar_bind (guar_ofExcept _) fun total => ownReadiness_announce (by simp [PlayerReadiness.clientFields])
  · show Guar _ ((dispatchSaveError env.senderId env.payload).answering written)
    unfold dispatchSaveError
    rw [answering_bind, answering_ofExcept]
    exact guar_bind (guar_ofExcept _) fun reason => ownReadiness_announce (by simp [PlayerReadiness.clientFields])

theorem ownReadiness_dispatch (env : Envelope) :
    Guar (OwnReadiness env.senderId) ((dispatch env).answering written) := by
  by_cases ht : env.type ∈ Parts.readinessReports
  · exact ownReadiness_report ht
  · exact ownReadiness_of_made _ (unready_parts.dispatch (fun _ => by decide) (fun _ => by decide) (fun _ => by decide)
      fun he => absurd he ht)

/-! ## Messages -/

variable {turns : List (Turn Host)} {r : Except Exc Unit} {h h' : Host}

/-- **A client's messages reach its own readiness.** In every run of the handler of any envelope, from any state, among any
others, and with no write failing: no turn of the handler changes the record of another player, the reasons against the
sender's manifest or its native support; and if the turns of the others do not either, these are at the end what they
were at the start. -/
theorem reaches_own_readiness (env : Envelope) (run : Alongside ((dispatch env).answering written) h turns r h') :
    OwnDo (OwnReadiness env.senderId) turns ∧
      (OthersDo (OwnReadiness env.senderId) turns → OwnReadiness env.senderId h h') := by
  have hown : OwnDo (OwnReadiness env.senderId) turns := run.own_of_guar (ownReadiness_dispatch env)
  refine ⟨hown, fun hothers => ?_⟩
  refine run.keeps (P := OwnReadiness env.senderId h) (fun a b hab hstep => hstep.trans (hown a b hab)) ?_
    (.of_same fun _ => rfl)
  exact hothers.imp fun a b hstep hstart => hstart.trans hstep

/-- the host with two peers -/
def twoPeers : Host := (runFrom lanHost [joins 1 "alice", goesOn, joins 2 "bob", goesOn]).state

/-- bob names alice, clears the reasons against his manifest, and reports his zone -/
def boast : Envelope := .make .readiness (.obj [("player_id", .str "alice"), ("compatibility_reasons", .arr []),
  ("native_ready", .bool true), ("zone_ready", .bool true)]) "bob" none "b"

/-- his zone is all that is taken -/
theorem forged_fields : OwnReadiness "bob" twoPeers (((dispatch boast).answering written).among [] twoPeers).2 ∧
    ((((dispatch boast).answering written).among [] twoPeers).2.session.readinessOf "bob").map (·.zoneReady) =
      some (.bool true) := by
  obtain ⟨turns, run, hothers⟩ := among_alongside ((dispatch boast).answering written) [] twoPeers
  refine ⟨(reaches_own_readiness boast run).2 (hothers.imp fun a b hs => ?_), by decide +kernel⟩
  obtain rfl | ⟨g, hg, -⟩ := hs
  · exact .of_same fun _ => rfl
  · cases hg

end KerMP.Host
