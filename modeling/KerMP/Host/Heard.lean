/-
A line the host listens to, up to the first await of its handler (`_handle_conn` and `_dispatch` of `kermp/net.py`).

The connection goes from idle to busy and the envelope's number is stored, then the handler of its type begins: all of
it in one step of the event loop. What escapes the handler ends the connection.

- `wp_heard_first`: what that step does, by rules.
- `segment_heard`: the step itself, as that of the handler followed by `afterLine`.
- `Present`, `Remains`: a player is connected, and still is; `segment_finish` is what an escaped error does to it.
- `segment_sendError`, `wp_broadcast_first`: the two ways to answer.
-/
import KerMP.Lib.Segment
import KerMP.Host.Pass

namespace KerMP.Host

open Py Coop
open Coro hiding pure get modify

/-- the host when the handler of a line begins -/
def listening (h : Host) (conn : ℕ) (env : Envelope) : Host :=
  { h with conns := h.conns.setItem conn .busy
           peers := if env.seq = .null then h.peers else h.peers.mapItems fun p peer =>
             if p = env.senderId then { peer with lastSeq := env.seq } else peer }

variable {conn : ℕ} {env : Envelope} {h : Host} {I : Host → Prop} {Q : Except Exc Unit → Set Empty → Host → Prop}

theorem enabled_of_heard (hheard : Heard h conn env) : enabled h (.line conn (.line (.ok env))) = true := by
  dsimp only [enabled]
  rw [hheard.1]

/-- a player that is not a peer has no number to store -/
theorem listening_of_gone (hpeer : h.peers.lookup env.senderId = none) :
    h.listening conn env = { h with conns := h.conns.setItem conn .busy } := by
  have hmap : (h.peers.mapItems fun p peer => if p = env.senderId then { peer with lastSeq := env.seq } else peer) =
      h.peers := by
    refine AList.mapItems_eq_self.2 fun e he => ?_
    split_ifs with hp
    · have hmem := AList.mem_lookup_iff.2 he
      rw [hp, hpeer] at hmem
      cases hmem
    · rfl
  unfold listening
  rw [hmap, ite_self]

/-- the envelope of the connection's player, with no old number -/
theorem wp_handleEnvelope_first {Q : Except Exc Unit → Set Empty → Host → Prop}
    (hstale : ∀ peer ∈ h.peers.lookup env.senderId, staleSeq env.seq peer.lastSeq = .ok false)
    (hdispatch : wp (Discipline.first I) ∅ (dispatch env) Q (h.listening conn env)) :
    wp (Discipline.first I) ∅ (handleEnvelope env.senderId env) Q { h with conns := h.conns.setItem conn .busy } := by
  unfold handleEnvelope
  rw [if_neg (not_not.2 rfl), wp_get_first]
  dsimp only
  cases hpeer : h.peers.lookup env.senderId with
  | none =>
    rw [listening_of_gone hpeer] at hdispatch
    exact hdispatch
  | some peer =>
    dsimp only
    rw [hstale peer hpeer, wp_ok_first, if_neg Bool.false_ne_true]
    unfold listening at hdispatch
    by_cases hseq : env.seq = .null
    · simp only [hseq, if_true] at hdispatch ⊢
      exact hdispatch
    · simp only [hseq, if_false] at hdispatch ⊢
      rw [setLastSeq, wp_modify_first]
      exact hdispatch

/-- **A line.** The handler of its type begins in the same step; afterwards the connection waits for the next line, or
ends. -/
theorem wp_heard_first (hheard : Heard h conn env)
    (hdispatch : wp (Discipline.first I) ∅ (dispatch env) (fun r own h' =>
      wp (Discipline.first I) own
        (match r with
          | .ok _ => setStage conn (.idle env.senderId)
          | .error _ => finish conn (some env.senderId)) Q h') (h.listening conn env)) :
    wp (Discipline.first I) ∅ (handle (.line conn (.line (.ok env)))) Q h := by
  obtain ⟨hconn, hstale⟩ := hheard
  rw [handle, wp_get_first, hconn]
  dsimp only
  rw [handleLine, setStage, wp_modify_first]
  refine wp_attempt_bind (wp_handleEnvelope_first hstale hdispatch) fun r own h' hr => ?_
  cases r with
  | ok _ => exact hr
  | error e => exact hr

/-! ## The step itself -/

/-- what a connection does when its line is handled -/
def afterLine (conn : ℕ) (player : String) : Except Exc Unit → HostM Unit
  | .ok _ => setStage conn (.idle player)
  | .error _ => finish conn (some player)

/-- **The first step of a line.** -/
theorem segment_heard (hheard : Heard h conn env) (as : List Answer) :
    (handle (.line conn (.line (.ok env)))).segment as h =
      ((dispatch env).attempt >>= afterLine conn env.senderId).segment as (h.listening conn env) := by
  obtain ⟨hconn, hstale⟩ := hheard
  have hline : (handle (.line conn (.line (.ok env)))).segment as h =
      (handleLine conn env.senderId (.line (.ok env))).segment as h := by
    rw [handle, segment_get, hconn]
  have henvelope : (handleLine conn env.senderId (.line (.ok env))).segment as h =
      ((handleEnvelope env.senderId env).attempt >>= afterLine conn env.senderId).segment as
        { h with conns := h.conns.setItem conn .busy } := rfl
  rw [hline, henvelope, handleEnvelope, if_neg (not_not.2 rfl), segment_attempt_get]
  dsimp only
  cases hpeer : h.peers.lookup env.senderId with
  | none =>
    dsimp only
    rw [listening_of_gone hpeer]
  | some peer =>
    dsimp only
    rw [hstale peer hpeer]
    unfold listening
    by_cases hseq : env.seq = .null
    · simp only [hseq, if_true]
      rfl
    · simp only [hseq, if_false]
      rfl

/-! ## Staying connected -/

/-- the player is a peer, on this connection, and a player of the session -/
structure Present (h : Host) (conn : ℕ) (player : String) : Prop where
  peer : ∃ peer, h.peers.lookup player = some peer ∧ peer.conn = conn
  player : player ∈ h.session.players

/-- the player is present, and nobody has closed its connection since -/
structure Remains (h h' : Host) (conn : ℕ) (player : String) : Prop where
  present : Present h' conn player
  opened : ∃ entries, h'.log = entries ++ h.log ∧ .closed conn ∉ entries

theorem present_of_map {player : String} (hpeer : (h.peers.lookup player).map (·.conn) = some conn)
    (hplayer : player ∈ h.session.players) : Present h conn player := by
  obtain ⟨peer, hlookup, hconn⟩ := Option.map_eq_some_iff.1 hpeer
  exact ⟨⟨peer, hlookup, hconn⟩, hplayer⟩

theorem listening_peer {peer : Peer} (hpeer : h.peers.lookup env.senderId = some peer) :
    ∃ peer', (h.listening conn env).peers.lookup env.senderId = some peer' ∧ peer'.conn = peer.conn := by
  unfold listening
  dsimp only
  split_ifs with hseq
  · exact ⟨peer, hpeer, rfl⟩
  · rw [AList.lookup_mapItems, hpeer]
    exact ⟨{ peer with lastSeq := env.seq }, by simp, rfl⟩

theorem Present.listening (hpresent : Present h conn env.senderId) :
    Present (h.listening conn env) conn env.senderId := by
  obtain ⟨⟨peer, hpeer, hconn⟩, hplayer⟩ := hpresent
  obtain ⟨peer', hpeer', hconn'⟩ := listening_peer hpeer
  exact ⟨⟨peer', hpeer', hconn'.trans hconn⟩, hplayer⟩

theorem listening_others (conn : ℕ) {q : String} (hq : q ≠ env.senderId) :
    (h.listening conn env).peers.lookup q = h.peers.lookup q := by
  unfold listening
  dsimp only
  split_ifs with hseq
  · rfl
  · rw [AList.lookup_mapItems]
    cases h.peers.lookup q with
    | none => rfl
    | some peer => simp [hq]

/-- **What escapes the handler.** The player of the connection is removed, unless its id is empty, and the connection
is closed before anything is awaited. -/
theorem segment_finish {player : String} (hpresent : Present h conn player) (as : List Answer) :
    let h' := ((finish conn (some player)).segment as h).2
    h'.session = (if player = "" then h.session else h.session.removePlayer player) ∧
      ∃ entries, h'.log = entries ++ h.log ∧ .closed conn ∈ entries := by
  obtain ⟨peer, hpeer, hconn⟩ := hpresent.peer
  unfold finish
  by_cases hempty : player = ""
  · simp only [ifSome, hempty, if_true]
    exact ⟨rfl, [.closed conn], rfl, List.mem_singleton_self _⟩
  · have hdrop : ((ifSome (some player) fun player => if player = "" then pure () else drop player) : HostM Unit) =
        drop player := if_neg hempty
    have hdropped : ((drop player >>= fun _ => closeWriter conn >>= fun _ => setStage conn .ended).segment as h).2 =
        (h.removed player).note (.closed conn) := by
      show (((ifSome (h.peers.lookup player) fun peer => closeWriter peer.conn) >>= fun _ => closeWriter conn >>=
        fun _ => setStage conn .ended).segment as (h.removed player)).2 = _
      rw [hpeer, ← hconn]
      rfl
    rw [hdrop, if_neg hempty]
    dsimp only
    rw [hdropped]
    exact ⟨rfl, [.closed conn, .left player h.session.travel.current], rfl, List.mem_cons_self⟩

theorem not_remains {h₁ h' : Host} {player : String} {before entries : List Out} (hbefore : h₁.log = before ++ h.log)
    (hlog : h'.log = entries ++ h₁.log) (hclosed : .closed conn ∈ entries) : ¬ Remains h h' conn player := by
  rintro ⟨-, entries', hlog', hopen⟩
  rw [hbefore, ← List.append_assoc] at hlog
  rw [List.append_cancel_right (hlog'.symm.trans hlog)] at hopen
  exact hopen (List.mem_append_left before hclosed)

/-! ## Answers -/

/-- an error is written to the player, and once it is sent the connection waits for the next line -/
theorem segment_sendError {player : String} {peer : Peer} (hpeer : h.peers.lookup player = some peer) (conn : ℕ)
    (reason : String) (as : List Answer) :
    ∃ k, ((sendError player reason).attempt >>= afterLine conn player).segment as h =
        (.suspended k, { h with uuids := h.uuids + 1 }.note (.wrote player peer.conn
          (Envelope.make .error (.obj [("reason", .str reason)]) h.playerId none (uuid4 h.uuids)))) ∧
      ∀ a as s, a.ok = true → (k a).segment as s =
        (.done (.ok ()), { s with conns := s.conns.setItem conn (.idle player) }) := by
  have hsend : ((sendError player reason).attempt >>= afterLine conn player).segment as h =
      ((ifSome (h.peers.lookup player) fun peer => do
        let messageId ← drawUuid
        write player peer.conn .error (Payload.orEmpty (.val (.obj [("reason", .str reason)]))) none messageId
        drain).attempt >>= afterLine conn player).segment as h := rfl
  rw [hsend, hpeer]
  refine ⟨_, rfl, fun a as s ha => ?_⟩
  have hdrained : (if a.ok then pure () else .raise (.osError "Connection lost") : HostM Unit) = pure () := if_pos ha
  show (((if a.ok then pure () else .raise (.osError "Connection lost") : HostM Unit).attempt >>=
    afterLine conn player).segment as s) = _
  rw [hdrained]
  rfl

/-- a broadcast to somebody gives up control at its first write -/
theorem wp_broadcast_first (hpeers : h.peers.keys ≠ []) (type : MessageType) (j : Json) {own : Set Empty}
    (hI : ∀ player conn env, I (({ h with seq := h.seq + 1, uuids := h.uuids + 1 }.note
      (.sending type (j.or (.obj [])) (h.seq + 1) h.session.travel.current)).note (.wrote player conn env))) :
    wp (Discipline.first I) own (broadcast type (.val j)) Q h := by
  obtain ⟨pid, rest, hkeys⟩ := List.exists_cons_of_ne_nil hpeers
  have hmem : pid ∈ h.peers := AList.mem_keys.2 (hkeys ▸ List.mem_cons_self)
  obtain ⟨peer, hpeer⟩ := Option.isSome_iff_exists.1 (AList.lookup_isSome.2 hmem)
  unfold broadcast broadcastPeers
  rw [wp_bind, nextSeq, wp_call_first, drawUuid, wp_call_first, wp_get_first, emit, wp_modify_first, wp_bind]
  dsimp only [note]
  rw [hkeys, writeEach, checkSize, wp_bind, wp_get_first, if_pos rfl]
  show wp (Discipline.first I) own (Coro.get >>= _) _ _
  rw [wp_get_first]
  dsimp only
  rw [hpeer]
  dsimp only
  rw [write, wp_modify_first, wp_bind, wp_suspend_first]
  exact hI pid peer.conn _

end KerMP.Host
