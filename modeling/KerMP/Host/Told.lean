/-
Messages that reach the clients as broadcasts only (`KerMPHost.broadcast` of `kermp/net.py`).

The host sends a few messages to one client alone, and all others to everybody. A message of the second kind has the
number of its broadcast, so what is known of broadcasts holds of all messages of its type.

- `ByBroadcast`: the steps that write such a type as part of a broadcast only; `byBroadcast_handle` puts the handlers
  together.
- `told_since`: after a run in turn, when no handler is suspended, the messages of such a type that a connection has
  been written begin, newest first, with those announced since its player joined, if none of their broadcasts was cut
  short.
-/
import KerMP.Host.Stream

namespace KerMP.Host

open Py Coop
open Coro hiding pure get modify

/-- an entry that is no message of the type to one client alone, and announces such payloads only -/
def Out.byBroadcast (type : MessageType) (Says : Json → Prop) : Out → Prop
  | .wrote _ _ env => env.type = type → (numberOf env).isSome = true
  | .sending t payload _ _ => t = type → Says payload
  | _ => True

/-- a step that adds such entries only -/
def ByBroadcast (type : MessageType) (Says : Json → Prop) (h h' : Host) : Prop :=
  ∃ os, h'.log = os ++ h.log ∧ ∀ o ∈ os, o.byBroadcast type Says

/-! ## What is written of an announcement -/

theorem lookup_core {key : String} (hkey : key ∉ ["status", "interaction_id", "command"]) (r : InteractionRequest) :
    (HostSession.core r).lookup key = r.lookup key := by
  induction r with
  | nil => rfl
  | cons f r ih =>
    unfold HostSession.core at ih ⊢
    by_cases hf : key = f.1
    · have hkept : ["status", "interaction_id", "command"].contains f.1 = false := by
        rw [← hf, List.contains_eq_mem, decide_eq_false hkey]
      rw [List.filter_cons_of_pos (by rw [hkept]; rfl), Json.lookup_cons, Json.lookup_cons, if_pos hf, if_pos hf]
    · rw [Json.lookup_cons f r, if_neg hf, ← ih, List.filter_cons]
      split_ifs
      · rw [Json.lookup_cons, if_neg hf]
      · rfl

/-- a request that was updated after it was announced still has all fields that updates leave alone -/
theorem SameContent.getD {announced sent : Json} (h : SameContent announced sent) (hne : announced ≠ .obj [])
    {key : String} (hkey : key ∉ ["status", "interaction_id", "command"]) (dflt : Json) :
    sent.getD key dflt = announced.getD key dflt := by
  obtain rfl | ⟨r, r', rfl, rfl, rfl | hcore⟩ := h
  · rfl
  · exact absurd rfl hne
  · rw [Json.getD_obj, Json.getD_obj, Json.field, Json.field, ← lookup_core hkey r', hcore, lookup_core hkey r]

/-! ## Steps -/

section steps
variable {type : MessageType} {Says : Json → Prop}

theorem byBroadcast_same {h h' : Host} (hlog : h'.log = h.log) : ByBroadcast type Says h h' :=
  ⟨[], hlog, fun _ ho => absurd ho List.not_mem_nil⟩

theorem byBroadcast_note {h : Host} {o : Out} (ho : o.byBroadcast type Says) : ByBroadcast type Says h (h.note o) := by
  refine ⟨[o], rfl, fun x hx => ?_⟩
  rw [List.mem_singleton.1 hx]
  exact ho

theorem Out.byBroadcast_of_topic {o : Out} (ho : o.topic ≠ type.topic) : o.byBroadcast type Says := by
  cases o with
  | wrote p conn env => exact fun htype => absurd (congrArg MessageType.topic htype) ho
  | sending t payload n travel => exact fun htype => absurd (congrArg MessageType.topic htype) ho
  | _ => trivial

/-- a step of another topic -/
theorem byBroadcast_of_on {T : List Topic} (hT : type.topic ∉ T) {h h' : Host} (hon : On T h h') :
    ByBroadcast type Says h h' := by
  obtain ⟨l, hl, hd⟩ := hon
  obtain ⟨os, hlog, htopic⟩ := hd.log
  refine ⟨os, hlog, fun o ho => Out.byBroadcast_of_topic ?_⟩
  rw [htopic o ho]
  exact ne_of_mem_of_not_mem hl hT

/-- a step that has nothing to do with peers -/
theorem byBroadcast_of_aside {T : List Topic} {h h' : Host} (ha : Aside T h h') : ByBroadcast type Says h h' := by
  obtain ⟨l, -, -, -, os, hlog, haside⟩ := ha
  refine ⟨os, hlog, fun o ho => ?_⟩
  have ho' := haside o ho
  cases o with
  | wrote | sending => cases ho'
  | _ => trivial

theorem guar_byBroadcast {T : List Topic} {α : Type} {p : HostM α} (hp : Guar (Aside T) p) :
    Guar (ByBroadcast type Says) p := hp.mono fun _ _ => byBroadcast_of_aside

/-- the writes of a broadcast have its number -/
theorem byBroadcast_writeEach {t : MessageType} (hne : t ≠ .snapshot) (payload : Payload) (seq : ℕ)
    (messageId : String) (size : ℕ) (pids : List String) :
    Guar (ByBroadcast type Says) (writeEach t payload seq messageId size pids) := by
  have hread : Guar (ByBroadcast type Says) (Coro.get : HostM Host) := guar_get fun _ => byBroadcast_same rfl
  have hcheck : Guar (ByBroadcast type Says) (checkSize t seq size) := by
    refine guar_bind hread fun h => ?_
    split_ifs
    · exact guar_pure ()
    · exact guar_bind (guar_modify fun _ => byBroadcast_note trivial) fun _ => guar_raise _
  induction pids with
  | nil => exact guar_bind hcheck fun _ => guar_pure _
  | cons pid rest ih =>
    refine guar_bind hcheck fun _ => guar_bind hread fun h => ?_
    cases h.peers.lookup pid with
    | none => exact ih
    | some peer =>
      refine guar_bind (guar_modify fun h' => byBroadcast_note fun _ => ?_) fun _ => ?_
      · show (numberOf (envelopeOf h' t payload seq messageId)).isSome = true
        rw [numberOf_envelopeOf hne]
        rfl
      · exact guar_bind guar_suspend fun _ => guar_bind ih fun _ => guar_pure _

/-- a broadcast of this type, or of another -/
theorem byBroadcast_broadcastPeers (hs : type.topic ∉ [Topic.session, .member]) {t : MessageType} (hne : t ≠ .snapshot)
    {payload : Payload} (hpayload : ∀ h : Host, t = type → Says (h.resolve payload.orEmpty)) :
    Guar (ByBroadcast type Says) (broadcastPeers t payload) := by
  have hon : ∀ h h', On [.session, .member] h h' → ByBroadcast type Says h h' := fun _ _ => byBroadcast_of_on hs
  refine guar_bind ((guar_nextSeq (by decide)).mono hon) fun seq => ?_
  refine guar_bind ((guar_of_aside (aside_drawUuid (by decide))).mono hon) fun messageId => ?_
  refine guar_bind (guar_get fun _ => byBroadcast_same rfl) fun h => ?_
  refine guar_bind (guar_modify fun h' => byBroadcast_note (hpayload h)) fun _ => ?_
  exact guar_bind (byBroadcast_writeEach hne _ _ _ _ _) fun dead => (guar_dropAll (by decide) (by decide) dead).mono hon

/-! ## All handlers -/

/-- the handlers that are made of steps of other topics and of such programs -/
theorem byBroadcast_made {T : List Topic} (hT : type.topic ∉ T) (hs : .session ∈ T) (hm : .member ∈ T) {α : Type}
    {p : HostM α} (hp : Made T (fun _ p => Guar (ByBroadcast type Says) p) p) : Guar (ByBroadcast type Says) p := by
  have hon : ∀ h h', On T h h' → ByBroadcast type Says h h' := fun _ _ => byBroadcast_of_on hT
  induction hp with
  | own hown => exact hown
  | aside ha => exact guar_byBroadcast ha
  | sendPeer player payload ht _ => exact (guar_sendPeer hs player ht payload _).mono hon
  | broadcastPeers payload ht _ => exact (guar_broadcastPeers hs hm ht payload).mono hon
  | bind _ _ ihp ihf => exact guar_bind ihp ihf
  | attempt _ ihp => exact guar_attempt ihp

theorem byBroadcast_handleEnvelope (hs : type.topic ∉ [Topic.session, .member])
    (hdispatch : ∀ env, Guar (ByBroadcast type Says) (dispatch env)) (player : String) (env : Envelope) :
    Guar (ByBroadcast type Says) (handleEnvelope player env) := by
  have hon : ∀ h h', On [.session, .member] h h' → ByBroadcast type Says h h' := fun _ _ => byBroadcast_of_on hs
  unfold handleEnvelope
  split
  · exact (guar_sendError (by decide) _ _).mono hon
  refine guar_bind (guar_get fun _ => byBroadcast_same rfl) fun h => ?_
  split
  · exact hdispatch env
  · refine guar_bind (guar_ofExcept _) fun stale => ?_
    split_ifs
    · exact guar_pure ()
    · exact hdispatch env
    · exact guar_bind ((guar_of_aside (aside_setLastSeq (by decide) _ _)).mono hon) fun _ => hdispatch env

/-- **One event.** -/
theorem byBroadcast_handle (hs : type.topic ∉ [Topic.session, .member])
    (hdispatch : ∀ env, Guar (ByBroadcast type Says) (dispatch env))
    (hgame : ∀ event, Guar (ByBroadcast type Says) (onGameEvent event)) (e : Event) :
    Guar (ByBroadcast type Says) (handle e) := by
  have hon : ∀ h h', On [.session, .member] h h' → ByBroadcast type Says h h' := fun _ _ => byBroadcast_of_on hs
  have hfinish : ∀ conn player, Guar (ByBroadcast type Says) (finish conn player) := fun conn player =>
    (guar_finish (by decide) (by decide) conn player).mono hon
  rcases e with ⟨conn, r⟩ | event
  · refine guar_bind (guar_get fun _ => byBroadcast_same rfl) fun h => ?_
    split
    · exact guar_handleHello hon (fun h player name m conn => ⟨[.joined player conn], rfl, by simp [Out.byBroadcast]⟩)
        conn r
    · refine guar_bind ((guar_setStage (by decide) _ _).mono hon) fun _ => ?_
      split
      · refine guar_bind (guar_attempt (byBroadcast_handleEnvelope hs hdispatch _ _)) fun handled => ?_
        split
        · exact (guar_setStage (by decide) _ _).mono hon
        · exact hfinish _ _
      · exact hfinish _ _
    · exact guar_pure ()
  · exact hgame event

end steps

/-! ## Runs -/

section runs
variable {type : MessageType} {Says : Json → Prop}

theorem run_byBroadcast (hhandle : ∀ e, Guar (ByBroadcast type Says) (handle e))
    (playerId displayName sessionId : String) (manifest : CompatibilityManifest) (nativeRequired : Bool)
    (commands : NetworkedCommandRouter) (acts : List HostAct) :
    ∀ o ∈ (runFrom (started playerId displayName sessionId manifest nativeRequired commands) acts).state.log,
      o.byBroadcast type Says := by
  have hadmitted : ∀ c : Run, Pool.AllAdmitted handle enabled (fun _ _ => True) c acts :=
    Pool.allAdmitted_of_forall fun a _ _ => by cases a <;> trivial
  have hstep : ∀ h h' : Host, ByBroadcast type Says h h' → (∀ o ∈ h.log, o.byBroadcast type Says) →
      True ∧ ∀ o ∈ h'.log, o.byBroadcast type Says := by
    rintro h h' ⟨os, hlog, hos⟩ hi
    rw [hlog]
    exact ⟨trivial, List.forall_mem_append.2 ⟨hos, hi⟩⟩
  exact (Pool.run_plain (R := fun _ _ => True) (fun _ => trivial) (fun _ _ _ _ _ => trivial)
    (fun e h hi _ _ => keeps_of_guar (fun _ => trivial) (fun _ _ _ _ _ => trivial) hstep (hhandle e) ∅ h hi)
    (fun _ ho => absurd ho List.not_mem_nil) acts (hadmitted _)).2

variable (playerId displayName sessionId : String) (manifest : CompatibilityManifest) (nativeRequired : Bool)
  (commands : NetworkedCommandRouter) {acts : List HostAct}
  (hby : ∀ o ∈ (runFrom (started playerId displayName sessionId manifest nativeRequired commands) acts).state.log,
    o.byBroadcast type Says)
include hby

/-- a message of the type has the content of an announcement -/
theorem told_announced {conn : ℕ} {payload : Json} (hpayload : payload ∈ payloadsOf type (writtenTo conn
      (runFrom (started playerId displayName sessionId manifest nativeRequired commands) acts).state.log)) :
    ∃ a ∈ outgoing (only type)
        (runFrom (started playerId displayName sessionId manifest nativeRequired commands) acts).state.log,
      SameContent a.payload payload := by
  have hdelivers := run_delivers playerId displayName sessionId manifest nativeRequired commands acts
  generalize runFrom (started playerId displayName sessionId manifest nativeRequired commands) acts = c at *
  have hi : Tracked c.state := hdelivers.state
  rw [payloadsOf_writtenTo fun p conn env hmem => hby _ hmem] at hpayload
  obtain ⟨env, henv, rfl⟩ := List.mem_map.1 hpayload
  obtain ⟨⟨player, hw⟩, hsome, htype⟩ := mem_broadcastsTo.1 henv
  obtain ⟨n, hnumber⟩ := Option.isSome_iff_exists.1 hsome
  obtain ⟨newer, announced, k, travel, older, hlog, -, hcontent, -⟩ := hi.origin player conn env n hw hnumber
  refine ⟨⟨env.type, k, announced⟩, mem_outgoing.2 ⟨⟨travel, ?_⟩, htype⟩, hcontent⟩
  rw [hlog]
  exact List.mem_append_right newer List.mem_cons_self

/-- **All messages of the type, in order.** -/
theorem told_since (hturn : RunInTurn (started playerId displayName sessionId manifest nativeRequired commands) acts)
    (hquiet : (runFrom (started playerId displayName sessionId manifest nativeRequired commands) acts).tasks = [])
    {newer older : List Out} {p : String} {conn : ℕ}
    (hlog : (runFrom (started playerId displayName sessionId manifest nativeRequired commands) acts).state.log =
      newer ++ .joined p conn :: older)
    (hstays : ∀ travel, .left p travel ∉ newer) (hcut : ∀ n, .cut type n ∉ newer) :
    ∃ since before, payloadsOf type (writtenTo conn
        (runFrom (started playerId displayName sessionId manifest nativeRequired commands) acts).state.log) =
          since ++ before ∧
      List.Forall₂ (fun payload a => SameContent a payload ∧ Says a) since
        ((outgoing (only type) newer).map Announcement.payload) := by
  have hdelivers := run_delivers playerId displayName sessionId manifest nativeRequired commands acts
  have horder := (run_numbered playerId displayName sessionId manifest nativeRequired commands hturn).order
  generalize runFrom (started playerId displayName sessionId manifest nativeRequired commands) acts = c at *
  have hcut' : ∀ t n, only type t = true → .cut t n ∉ newer := by
    intro t n ht
    rw [of_decide_eq_true ht]
    exact hcut n
  obtain ⟨since, before, hsplit, hsince, -⟩ := aligned_since hdelivers horder hquiet hlog hstays hcut'
  refine ⟨since.map Envelope.payload, before.map Envelope.payload, ?_, ?_⟩
  · rw [payloadsOf_writtenTo (fun p c env hmem => hby _ hmem), hsplit, List.map_append]
  · rw [List.forall₂_map_left_iff, List.forall₂_map_right_iff]
    have hmem : ∀ a ∈ outgoing (only type) newer, Says a.payload := by
      intro a ha
      obtain ⟨⟨travel, hsent⟩, htype⟩ := mem_outgoing.1 ha
      have hannounced : a.type = type → Says a.payload :=
        hby (.sending a.type a.payload a.number travel) (hlog ▸ List.mem_append_left _ hsent)
      exact hannounced (of_decide_eq_true htype)
    have hboth := (List.forall₂_and_left (outgoing (only type) newer) since).2 ⟨hmem, hsince.flip⟩
    exact hboth.flip.imp fun env a h => ⟨h.2.content, h.1⟩

end runs

end KerMP.Host
