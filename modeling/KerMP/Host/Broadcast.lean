/-
One broadcast while the peers change (`KerMPHost.broadcast` of `kermp/net.py`).

The loop of a broadcast goes over the dict of peers and waits for each peer's socket. While it waits, anything may
happen to the dict: players join, leave, are dropped by another broadcast. The loop gets through exactly when the dict
has as many entries as before each time it goes on.

- `writeEach_alongside`: what the loop does, whatever the others do in between.
- `broadcast_survives`: a broadcast ends without an exception and reaches every peer that is registered all along
  exactly once, if and only if no wait for a socket ends with another number of peers than it began with.
- `broadcast_cut_by_join`: a player joins during a write, and the broadcast raises.
-/
import KerMP.Lib.Alongside
import KerMP.Host.Watch

namespace KerMP.Host

open Py Coop
open Coro hiding pure get modify

/-! ## Turns of a broadcast -/

/-- a write was the last thing done: a broadcast that waits here is in its loop -/
def writing (h : Host) : Bool :=
  match h.log with
  | .wrote _ _ _ :: _ => true
  | _ => false

/-- a turn that writes the message with this number to a player's connection -/
def delivers (player : String) (conn seq : ℕ) : Turn Host → Bool
  | .own h h' =>
    match h'.log with
    | .wrote p c env :: log => p == player && c == conn && env.seq == .int seq && log == h.log
    | _ => false
  | .others _ _ => false

theorem delivers_unlogged {h h' : Host} (hlog : h'.log = h.log) (player : String) (conn seq : ℕ) :
    delivers player conn seq (.own h h') = false := by
  simp only [delivers, hlog]
  cases h.log with
  | nil => rfl
  | cons o log =>
    have hne : (log == o :: log) = false := beq_eq_false_iff_ne.2 fun he => by simpa using congrArg List.length he
    cases o <;> simp [hne]

theorem delivers_wrote (h : Host) (p : String) (c : ℕ) (type : MessageType) (payload : Json) (sender : String)
    (n : ℕ) (messageId : String) (player : String) (conn seq : ℕ) :
    delivers player conn seq
      (.own h (h.note (.wrote p c (Envelope.make type payload sender (some (n : ℤ)) messageId)))) =
        (p == player && c == conn && n == seq) := by
  have hseq : (Json.int (n : ℤ) == Json.int (seq : ℤ)) = (n == seq) := by
    rw [Bool.eq_iff_iff, beq_iff_eq, beq_iff_eq, Json.int.injEq, Int.natCast_inj]
  simp [delivers, note, Envelope.make, hseq]

theorem delivers_note {o : Out} (ho : ∀ p c env, o ≠ .wrote p c env) (h : Host) (player : String) (conn seq : ℕ) :
    delivers player conn seq (.own h (h.note o)) = false := by
  cases o with
  | wrote p c env => exact absurd rfl (ho p c env)
  | _ => rfl

/-! ## The loop -/

theorem checkSize_alongside {type : MessageType} {seq size : ℕ} {h h' : Host} {turns : List (Turn Host)}
    {r : Except Exc Unit} (hrun : Alongside (checkSize type seq size) h turns r h') :
    (h.peers.size = size ∧ turns = [.own h h] ∧ r = .ok () ∧ h' = h) ∨
      (h.peers.size ≠ size ∧ turns = [.own h h, .own h (h.note (.cut type seq))] ∧
        r = .error (.runtimeError "dictionary changed size during iteration")) := by
  obtain ⟨ts, rfl, hrest⟩ := alongside_get_bind.1 hrun
  by_cases hsize : h.peers.size = size
  · rw [if_pos hsize] at hrest
    obtain ⟨rfl, rfl, rfl⟩ := alongside_pure.1 hrest
    exact Or.inl ⟨hsize, rfl, rfl, rfl⟩
  · rw [if_neg hsize] at hrest
    obtain ⟨ts, rfl, hraise⟩ := alongside_modify_bind.1 hrest
    obtain ⟨rfl, rfl, -⟩ := alongside_raise.1 hraise
    exact Or.inr ⟨hsize, rfl, rfl⟩

/-- what the loop over these peers does alongside others, from `h` -/
structure Loop (seq size : ℕ) (pids : List String) (h : Host) (turns : List (Turn Host))
    (r : Except Exc (List String)) : Prop where
  waits : OthersDo (fun s _ => writing s = true) turns
  survives : (∃ dead, r = .ok dead) ↔
    h.peers.size = size ∧ OthersDo (fun s s' => s'.peers.size = s.peers.size) turns
  delivered : (∃ dead, r = .ok dead) → pids.Nodup → ∀ player conn,
    Throughout (fun s => s.connOf player = some conn) turns →
      turns.countP (delivers player conn seq) = if player ∈ pids then 1 else 0

/-- the loop stops at a step where the number of peers is another one -/
theorem Loop.cut {type : MessageType} {seq size : ℕ} (pids : List String) {h : Host} (hsize : h.peers.size ≠ size)
    (e : Exc) : Loop seq size pids h [.own h h, .own h (h.note (.cut type seq))] (.error e) where
  waits := by simp
  survives := ⟨fun ⟨_, hr⟩ => (by cases hr), fun ⟨hs, _⟩ => absurd hs hsize⟩
  delivered := fun ⟨_, hr⟩ => by cases hr

theorem writeEach_alongside {type : MessageType} {payload : Payload} {seq size : ℕ} {messageId : String}
    {pids : List String} {h h' : Host} {turns : List (Turn Host)} {r : Except Exc (List String)}
    (hrun : Alongside (writeEach type payload seq messageId size pids) h turns r h') :
    Loop seq size pids h turns r := by
  induction pids generalizing h h' turns r with
  | nil =>
    rcases alongside_bind.1 hrun with ⟨e, rfl, hcheck⟩ | ⟨_, h₁, ts, ts', rfl, hcheck, hrest⟩
    · rcases checkSize_alongside hcheck with ⟨-, -, hr, -⟩ | ⟨hsize, rfl, -⟩
      · cases hr
      · exact Loop.cut [] hsize e
    · rcases checkSize_alongside hcheck with ⟨hsize, rfl, -, rfl⟩ | ⟨-, -, hr⟩
      swap
      · cases hr
      obtain ⟨rfl, rfl, rfl⟩ := alongside_pure.1 hrest
      refine ⟨by simp, by simp [hsize], fun _ _ player conn _ => ?_⟩
      simp [delivers_unlogged]
  | cons pid rest ih =>
    rcases alongside_bind.1 hrun with ⟨e, rfl, hcheck⟩ | ⟨_, h₁, ts, ts', rfl, hcheck, hrest⟩
    · rcases checkSize_alongside hcheck with ⟨-, -, hr, -⟩ | ⟨hsize, rfl, -⟩
      · cases hr
      · exact Loop.cut _ hsize e
    rcases checkSize_alongside hcheck with ⟨hsize, rfl, -, rfl⟩ | ⟨-, -, hr⟩
    swap
    · cases hr
    obtain ⟨ts, rfl, hpeers⟩ := alongside_get_bind.1 hrest
    cases hpeer : h₁.peers.lookup pid with
    | none =>
      rw [hpeer] at hpeers
      have hloop := ih hpeers
      refine ⟨by simpa using hloop.waits, by simpa using hloop.survives, fun hr hnodup player conn hthrough => ?_⟩
      obtain ⟨hown, hothers⟩ := hthrough
      simp only [ownDo_own, othersDo_own, List.singleton_append] at hown hothers
      have hne : player ≠ pid := by
        rintro rfl
        have hconn := hown.1.1
        rw [connOf, hpeer] at hconn
        cases hconn
      have hcount := hloop.delivered hr hnodup.of_cons player conn ⟨hown.2.2, hothers⟩
      simpa [delivers_unlogged, hne] using hcount
    | some peer =>
      rw [hpeer] at hpeers
      obtain ⟨ts, hwrite, hwait⟩ := alongside_modify_bind.1 hpeers
      obtain ⟨a, h₂, ts, rfl, hgo⟩ := alongside_suspend_bind.1 hwait
      obtain rfl : _ = Turn.own h₁ (h₁.note (.wrote pid peer.conn (Envelope.make type (h₁.resolve payload) h₁.playerId
        (some (seq : ℤ)) messageId))) :: _ := hwrite
      obtain ⟨r', hloop, hr'⟩ : ∃ r', Loop seq size rest h₂ ts r' ∧ ((∃ dead, r = .ok dead) ↔ ∃ dead, r' = .ok dead) := by
        rcases alongside_bind.1 hgo with ⟨e, rfl, hrec⟩ | ⟨dead, h₃, ts₁, ts₂, rfl, hrec, hret⟩
        · exact ⟨_, ih hrec, by simp⟩
        · obtain ⟨rfl, rfl, -⟩ := alongside_pure.1 hret
          exact ⟨_, by simpa using ih hrec, by simp⟩
      refine ⟨?_, ?_, fun hr hnodup player conn hthrough => ?_⟩
      · simp only [List.singleton_append, othersDo_own, othersDo_others]
        exact ⟨rfl, hloop.waits⟩
      · rw [hr', hloop.survives]
        simp only [List.singleton_append, othersDo_own, othersDo_others]
        show _ ↔ _ ∧ h₂.peers.size = h₁.peers.size ∧ _
        rw [hsize]
        simp
      · obtain ⟨hown, hothers⟩ := hthrough
        simp only [ownDo_own, othersDo_own, ownDo_others, othersDo_others, List.singleton_append] at hown hothers
        obtain ⟨hnot, hnodup⟩ := List.nodup_cons.1 hnodup
        have hcount := hloop.delivered (hr'.1 hr) hnodup player conn ⟨hown.2.2.2, hothers.2⟩
        have hother : ∀ s s', delivers player conn seq (.others s s') = false := fun _ _ => rfl
        have hconn := hown.1.1
        simp only [List.singleton_append, List.countP_cons, delivers_unlogged, delivers_wrote, hother, hcount,
          List.mem_cons]
        by_cases hp : player = pid
        · subst hp
          rw [connOf, hpeer] at hconn
          cases hconn
          simp [hnot]
        · simp [hp, Ne.symm hp]

/-! ## Dropping the unreachable -/

theorem dropAll_alongside {pids : List String} {h h' : Host} {turns : List (Turn Host)} {r : Except Exc Unit}
    (hrun : Alongside (dropAll pids) h turns r h') :
    r = .ok () ∧ OthersDo (fun s _ => writing s = false) turns ∧
      ∀ player conn seq, turns.countP (delivers player conn seq) = 0 := by
  induction pids generalizing h h' turns r with
  | nil =>
    obtain ⟨rfl, rfl, -⟩ := alongside_pure.1 hrun
    exact ⟨rfl, othersDo_nil, fun _ _ _ => rfl⟩
  | cons pid rest ih =>
    have hdrop : ∀ {h h' : Host} {turns : List (Turn Host)} {r : Except Exc Unit}, Alongside (drop pid) h turns r h' →
        r = .ok () ∧ OthersDo (fun s _ => writing s = false) turns ∧
          ∀ player conn seq, turns.countP (delivers player conn seq) = 0 := by
      intro h h' turns r hrun
      obtain ⟨ts, rfl, hclose⟩ := alongside_call_bind.1 hrun
      have hleft : ∀ player conn seq, delivers player conn seq (.own h (h.removed pid)) = false := fun _ _ _ => rfl
      cases hpeer : h.peers.lookup pid with
      | none =>
        dsimp only at hclose
        rw [hpeer] at hclose
        obtain ⟨rfl, rfl, -⟩ := alongside_pure.1 hclose
        exact ⟨rfl, by simp, fun player conn seq => by simp [hleft]⟩
      | some peer =>
        dsimp only at hclose
        rw [hpeer] at hclose
        obtain ⟨ts, rfl, hwait⟩ := alongside_modify_bind.1 hclose
        obtain ⟨a, h₂, ts, rfl, hret⟩ := alongside_suspend_bind.1 hwait
        obtain ⟨rfl, rfl, -⟩ := alongside_pure.1 hret
        refine ⟨rfl, ?_, fun player conn seq => ?_⟩
        · simp only [othersDo_own, othersDo_others, othersDo_nil, and_true]
          rfl
        · have hclosed := delivers_note (o := .closed peer.conn) (fun _ _ _ h => by cases h) (h.removed pid) player conn
            seq
          have hother : ∀ s s', delivers player conn seq (.others s s') = false := fun _ _ => rfl
          simp [hleft, hclosed, hother]
    rcases alongside_bind.1 hrun with ⟨e, -, hd⟩ | ⟨_, h₁, ts, ts', rfl, hd, hrest⟩
    · cases (hdrop hd).1
    · obtain ⟨-, hwaits, hnone⟩ := hdrop hd
      obtain ⟨hr, hwaits', hnone'⟩ := ih hrest
      exact ⟨hr, othersDo_append.2 ⟨hwaits, hwaits'⟩, fun player conn seq => by
        rw [List.countP_append, hnone, hnone']⟩

/-! ## The broadcast -/

/-- a broadcast starts without a wait, goes through its loop, and drops the peers it could not reach -/
theorem broadcastPeers_alongside {type : MessageType} {payload : Payload} {h h' : Host} {turns : List (Turn Host)}
    {r : Except Exc Unit} (hrun : Alongside (broadcastPeers type payload) h turns r h') :
    ∃ head loop drops h₁ r₁, turns = head ++ (loop ++ drops) ∧
      OthersDo (fun _ _ => False) head ∧ (∀ player conn, head.countP (delivers player conn (h.seq + 1)) = 0) ∧
      (∀ P, Throughout P head → P h) ∧
      h₁.peers = h.peers ∧ Loop (h.seq + 1) h.peers.size h.peers.keys h₁ loop r₁ ∧
      ((∃ e, r₁ = .error e ∧ r = .error e ∧ drops = []) ∨
        ∃ dead, r₁ = .ok dead ∧ r = .ok () ∧ OthersDo (fun s _ => writing s = false) drops ∧
          ∀ player conn, drops.countP (delivers player conn (h.seq + 1)) = 0) := by
  obtain ⟨ts₁, rfl, hrun₁⟩ := alongside_call_bind.1 hrun
  obtain ⟨ts₂, rfl, hrun₂⟩ := alongside_call_bind.1 hrun₁
  obtain ⟨ts₃, rfl, hrun₃⟩ := alongside_get_bind.1 hrun₂
  obtain ⟨ts₄, rfl, hrun₄⟩ := alongside_modify_bind.1 hrun₃
  clear hrun hrun₁ hrun₂ hrun₃
  dsimp only at hrun₄ ⊢
  set h₁ : Host := { h with seq := h.seq + 1 }
  set h₂ : Host := { h₁ with uuids := h.uuids + 1 }
  set o : Out := .sending type (h₂.resolve payload.orEmpty) (h.seq + 1) h₂.session.travel.current
  have hhead : ∀ player conn,
      [Turn.own h h₁, .own h₁ h₂, .own h₂ h₂, .own h₂ (h₂.note o)].countP (delivers player conn (h.seq + 1)) = 0 := by
    intro player conn
    have hcounted : delivers player conn (h.seq + 1) (.own h h₁) = false := delivers_unlogged rfl _ _ _
    have hdrawn : delivers player conn (h.seq + 1) (.own h₁ h₂) = false := delivers_unlogged rfl _ _ _
    have hread : delivers player conn (h.seq + 1) (.own h₂ h₂) = false := delivers_unlogged rfl _ _ _
    have hnoted : delivers player conn (h.seq + 1) (.own h₂ (h₂.note o)) = false := rfl
    simp [hcounted, hdrawn, hread, hnoted]
  have hstart : ∀ P : Host → Prop,
      Throughout P [Turn.own h h₁, .own h₁ h₂, .own h₂ h₂, .own h₂ (h₂.note o)] → P h :=
    fun P hP => (hP.1 h h₁ List.mem_cons_self).1
  have hquiet : OthersDo (fun _ _ => False) [Turn.own h h₁, .own h₁ h₂, .own h₂ h₂, .own h₂ (h₂.note o)] := by simp
  rcases alongside_bind.1 hrun₄ with ⟨e, rfl, hloop⟩ | ⟨dead, h₃, ts, ts', rfl, hloop, hdrops⟩
  · exact ⟨_, ts₄, [], h₂.note o, _, by simp, hquiet, hhead, hstart, rfl, writeEach_alongside hloop,
      Or.inl ⟨e, rfl, rfl, rfl⟩⟩
  · obtain ⟨hr, hwaits, hnone⟩ := dropAll_alongside hdrops
    exact ⟨_, ts, ts', h₂.note o, _, rfl, hquiet, hhead, hstart, rfl, writeEach_alongside hloop,
      Or.inr ⟨dead, rfl, hr, hwaits, fun player conn => hnone player conn _⟩⟩

/-- a wait for a socket ends with as many peers as it began with -/
def SameSize (h h' : Host) : Prop := writing h = true → h'.peers.size = h.peers.size

theorem throughout_append {P : Host → Prop} {ts ts' : List (Turn Host)} (h : Throughout P (ts ++ ts')) :
    Throughout P ts ∧ Throughout P ts' := by
  obtain ⟨hown, hothers⟩ := h
  rw [ownDo_append] at hown
  rw [othersDo_append] at hothers
  exact ⟨⟨hown.1, hothers.1⟩, hown.2, hothers.2⟩

/-- a broadcast raises exactly when a wait for a socket ends with another number of peers -/
theorem broadcast_ok_iff {type : MessageType} {payload : Payload} {h h' : Host} {turns : List (Turn Host)}
    {r : Except Exc Unit} (hrun : Alongside (broadcastPeers type payload) h turns r h') :
    r = .ok () ↔ OthersDo SameSize turns := by
  obtain ⟨head, loop, drops, h₁, r₁, rfl, hquiet, -, -, hpeers, hloop, hend⟩ := broadcastPeers_alongside hrun
  have hsize : h₁.peers.size = h.peers.size := congrArg AList.size hpeers
  rcases hend with ⟨e, rfl, rfl, rfl⟩ | ⟨dead, rfl, rfl, hwaits, -⟩
  · refine ⟨fun hr => (by cases hr), fun hsame => ?_⟩
    -- every wait of the loop ended with as many peers: then it got through
    have hkept : OthersDo (fun s s' => s'.peers.size = s.peers.size) loop := fun s s' hs =>
      (othersDo_append.1 (othersDo_append.1 hsame).2).1 s s' hs (hloop.waits s s' hs)
    obtain ⟨dead, hdead⟩ := hloop.survives.2 ⟨hsize, hkept⟩
    cases hdead
  · refine ⟨fun _ => ?_, fun _ => rfl⟩
    have hloop' := (hloop.survives.1 ⟨dead, rfl⟩).2
    refine othersDo_append.2 ⟨hquiet.imp fun _ _ hf => hf.elim, othersDo_append.2 ⟨hloop'.imp fun _ _ hs _ => hs, ?_⟩⟩
    intro s s' hs hwriting
    rw [hwaits s s' hs] at hwriting
    cases hwriting

/-- a broadcast that gets through reaches every peer that is registered all along, once -/
theorem broadcast_delivers {type : MessageType} {payload : Payload} {h h' : Host} {turns : List (Turn Host)}
    (hrun : Alongside (broadcastPeers type payload) h turns (.ok ()) h') (player : String) (conn : ℕ)
    (hthrough : Throughout (fun s => s.connOf player = some conn) turns) :
    turns.countP (delivers player conn (h.seq + 1)) = 1 := by
  obtain ⟨head, loop, drops, h₁, r₁, rfl, -, hhead, hstart, -, hloop, hend⟩ := broadcastPeers_alongside hrun
  obtain ⟨hthrough₁, hthrough₂⟩ := throughout_append hthrough
  obtain ⟨hthrough₂, -⟩ := throughout_append hthrough₂
  have hmem : player ∈ h.peers.keys := by
    obtain ⟨peer, hpeer, -⟩ := Option.map_eq_some_iff.1 (hstart _ hthrough₁)
    exact AList.mem_keys.1 (AList.lookup_isSome.1 (by rw [hpeer]; rfl))
  rcases hend with ⟨e, -, hr, -⟩ | ⟨dead, rfl, -, -, hnone⟩
  · cases hr
  · rw [List.countP_append, List.countP_append, hhead, hnone,
      hloop.delivered ⟨dead, rfl⟩ h.peers.keys_nodup player conn hthrough₂, if_pos hmem]

/-- the host with one peer -/
def onePeer : Host := (runFrom lanHost [joins 1 "alice", goesOn]).state

end KerMP.Host
