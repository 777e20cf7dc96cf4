/-
What can be told of the host's handlers from outside.

The local variables of a suspended handler cannot be seen, but its event, its entries in the log and the outcomes of
its writes can. `Watch` is what follows from these: the connection it handles, the id its `finally` block still has to
drop, the peers its broadcast has failed to reach, and those it has still to come to. `watcher` computes it along a run.

`Frame` is a step that leaves members, connections and broadcasts alone. `Made.behaves` puts together what the handlers
do: steps of their own, messages to one peer, and broadcasts.
-/
import KerMP.Lib.Observe
import KerMP.Host.Handlers

namespace KerMP.Host

open Py Coop
open Coro hiding pure get modify

/-! ## The observer -/

/-- the number of a broadcast's envelope; the answer to `snapshot.request` carries one that is not its own -/
def numberOf (env : Envelope) : Option ℤ :=
  if env.type = .snapshot then none
  else
    match env.seq with
    | .int n => some n
    | _ => none

structure Watch where
  /-- the connection it handles -/
  conn : Option ℕ
  /-- the id its `finally` block still has to drop -/
  player : Option String
  /-- it handles a first message and has not been suspended yet -/
  fresh : Bool
  /-- the peer of its broadcast whose socket it waits for -/
  waits : Option (String × ℕ)
  /-- the peers its broadcast could not reach, as long as they are to be dropped -/
  failed : List (String × ℕ)
  /-- the number of its latest broadcast -/
  number : ℕ
  /-- the peers its broadcast has still to come to -/
  todo : List String
deriving DecidableEq

namespace Watch

/-- a handler that starts -/
def starting (conn : Option ℕ) (player : Option String) (fresh : Bool) : Watch := ⟨conn, player, fresh, none, [], 0, []⟩

/-- an entry of its own in the log -/
def saw : Out → Watch → Watch
  | .sending _ _ _ _, g => g
  | .wrote player conn env, g =>
    if (numberOf env).isSome then
      { g with waits := some (player, conn), todo := (g.todo.dropWhile (· ≠ player)).tail }
    else { g with todo := [] }
  | .cut _ _, g => { g with failed := [], todo := [] }
  | .left player _, g =>
    if player ∈ g.failed.map Prod.fst then { g with failed := g.failed.filter (·.1 ≠ player), todo := [] }
    else if g.player = some player then { g with player := none, todo := [] }
    else { g with todo := [] }
  | _, g => { g with todo := [] }

/-- after one update: a new number is a broadcast that starts -/
def see (g : Watch) (h h' : Host) : Watch :=
  let g := if h'.seq = h.seq then g else { g with number := h'.seq, todo := h'.peers.keys }
  (h'.log.take (h'.log.length - h.log.length)).foldr saw g

def wake (g : Watch) (a : Answer) : Watch :=
  { g with fresh := false, waits := none, failed := if a.ok then g.failed else g.failed ++ g.waits.toList }

end Watch

def watcher : Observer Host Answer Event Watch where
  start h
    | .line conn r =>
      match h.conns.lookup conn with
      | some (.idle player) => .starting conn (some player) false
      | _ => .starting conn ((helloPlayer r).filter (· ≠ "")) true
    | .game _ => .starting none none false
  see := Watch.see
  wake := Watch.wake

theorem see_of_log {h h' : Host} {os : List Out} (hlog : h'.log = os ++ h.log) (hseq : h'.seq = h.seq) (g : Watch) :
    watcher.see g h h' = os.foldr Watch.saw g := by
  simp [watcher, Watch.see, hlog, hseq]

theorem see_note {h : Host} (o : Out) (g : Watch) : watcher.see g h (h.note o) = Watch.saw o g := by
  have hlog : (h.note o).log = [o] ++ h.log := rfl
  exact see_of_log hlog rfl g

theorem see_unlogged {h h' : Host} (hlog : h'.log = h.log) (hseq : h'.seq = h.seq) (g : Watch) :
    watcher.see g h h' = g := by
  have hnil : h'.log = [] ++ h.log := hlog
  exact see_of_log hnil hseq g

theorem see_registered (h : Host) (player name : String) (manifest : CompatibilityManifest) (conn : ℕ) (g : Watch) :
    watcher.see g h (h.registered player name manifest conn) = { g with todo := [] } :=
  see_of_log (by exact rfl : (h.registered player name manifest conn).log = [.joined player conn] ++ h.log) rfl g

/-- a handler that is still fresh handles the first message of a new connection -/
theorem starts_of_fresh {c : Run} {gs : List Watch} {act : HostAct} {g : Watch}
    (hm : Pool.mover watcher enabled c gs act = some g) (hfresh : g.fresh = true) :
    ∃ conn r as, act = .arrive (.line conn r) as ∧ c.state.conns.lookup conn = none ∧
      g = .starting (some conn) ((helloPlayer r).filter (· ≠ "")) true := by
  cases act with
  | resume i a as =>
    obtain ⟨g', -, rfl⟩ := Option.map_eq_some_iff.1 hm
    cases hfresh
  | arrive t as =>
    simp only [Pool.mover] at hm
    split_ifs at hm with he
    obtain rfl := Option.some.inj hm
    cases t with
    | game event => cases hfresh
    | line conn r =>
      refine ⟨conn, r, as, rfl, ?_⟩
      cases hc : c.state.conns.lookup conn with
      | none => exact ⟨rfl, by simp only [watcher, hc]⟩
      | some stage =>
        cases stage with
        | idle player => simp [watcher, hc, Watch.starting] at hfresh
        | busy | ended => simp [enabled, hc] at he

section reading
variable {D : Accord Host Answer Watch} {g : Watch} {h : Host} {α : Type}

/-- reading the state is no step -/
theorem owp_look (hrefl : ∀ g h, D.guar g h g h) {f : Host → HostM α} {Q : Except Exc α → Watch → Host → Prop} :
    owp watcher D g (Coro.get >>= f) Q h ↔ owp watcher D g (f h) Q h := by
  rw [owp_bind, owp_get, see_unlogged rfl rfl]
  exact and_iff_right (hrefl g h)

/-- a line is handled by the stage of its connection -/
theorem owp_line (hrefl : ∀ g h, D.guar g h g h) {conn : ℕ} {r : Recv} {Q : Except Exc Unit → Watch → Host → Prop} :
    owp watcher D g (handle (.line conn r)) Q h ↔
      owp watcher D g (match h.conns.lookup conn with
        | none => handleHello conn r
        | some (.idle player) => handleLine conn player r
        | some _ => pure ()) Q h :=
  owp_look hrefl

end reading

/-! ## Steps that leave members and broadcasts alone -/

/-- the connection a player is registered with -/
def connOf (h : Host) (player : String) : Option ℕ := (h.peers.lookup player).map (·.conn)

theorem connOf_removed (h : Host) (player p : String) :
    (h.removed player).connOf p = if p = player then none else h.connOf p := by
  show ((h.peers.erase player).lookup p).map _ = _
  rw [AList.lookup_erase_eq]
  split_ifs <;> rfl

theorem connOf_registered (h : Host) (player name : String) (manifest : CompatibilityManifest) (conn : ℕ) (p : String) :
    (h.registered player name manifest conn).connOf p = if p = player then some conn else h.connOf p := by
  show ((h.peers.setItem player ⟨name, conn, .int 0⟩).lookup p).map _ = _
  rw [AList.lookup_setItem]
  split_ifs <;> rfl

theorem lookup_setStage (h : Host) (conn conn' : ℕ) (stage : Stage) :
    (h.conns.setItem conn stage).lookup conn' = if conn' = conn then some stage else h.conns.lookup conn' :=
  AList.lookup_setItem _ _ _ _

/-- neither about a member nor part of a broadcast -/
def Out.still : Out → Bool
  | .wrote _ _ env => (numberOf env).isNone
  | o => o.aside

structure Frame (h h' : Host) : Prop where
  playerId : h'.playerId = h.playerId
  players : h'.session.players.keys = h.session.players.keys
  keys : h'.peers.keys = h.peers.keys
  conns : ∀ p, h'.connOf p = h.connOf p
  stages : h'.conns = h.conns
  seq : h'.seq = h.seq
  log : ∃ os, h'.log = os ++ h.log ∧ ∀ o ∈ os, o.still = true

theorem Does.frame {l : Label} {h h' : Host} (d : Does l h h') (ha : l.aside = true) {os : List Out}
    (hlog : h'.log = os ++ h.log) (hos : ∀ o ∈ os, o.still = true) : Frame h h' := by
  cases d with
  | quiet q | readiness q => exact ⟨q.playerId, q.session.players, q.keys, q.conns, q.stages, q.seq, os, hlog, hos⟩
  | number | stage | join | drop => cases ha
  | ackReady _ player txnId epoch =>
    obtain ⟨c, notes, e⟩ := ackReady_sets h player txnId epoch
    rw [e] at hlog ⊢
    exact ⟨rfl, rfl, rfl, fun _ => rfl, rfl, rfl, os, hlog, hos⟩
  | ackZone _ player txnId epoch =>
    obtain ⟨c, notes, e⟩ := ackZone_sets h player txnId epoch
    rw [e] at hlog ⊢
    exact ⟨rfl, rfl, rfl, fun _ => rfl, rfl, rfl, os, hlog, hos⟩
  | accept _ requestId player payload e =>
    obtain ⟨r, -, -, rfl⟩ := HostSession.validateInteraction_ok e
    exact ⟨rfl, rfl, rfl, fun _ => rfl, rfl, rfl, os, hlog, hos⟩
  | _ => exact ⟨rfl, rfl, rfl, fun _ => rfl, rfl, rfl, os, hlog, hos⟩

theorem Out.still_of_aside {o : Out} (h : o.aside = true) : o.still = true := by
  cases o with
  | wrote => cases h
  | _ => exact h

theorem Aside.frame {T : List Topic} {h h' : Host} (d : Aside T h h') : Frame h h' := by
  obtain ⟨l, -, ha, hd, os, hlog, hos⟩ := d
  exact hd.frame ha hlog fun o ho => Out.still_of_aside (hos o ho)

theorem frame_of_aside {T : List Topic} {α : Type} {p : HostM α} (hp : Guar (Aside T) p) : Guar Frame p :=
  hp.mono fun _ _ d => d.frame

theorem frame_read : Guar Frame (Coro.get : HostM Host) := frame_of_aside (aside_read (T := [.session]) (by decide))

theorem frame_drawUuid : Guar Frame drawUuid := frame_of_aside (aside_drawUuid (T := [.session]) (by decide))

/-- a message to one peer has no number of its own -/
theorem frame_post (player : String) (conn : ℕ) (type : MessageType) (payload : Payload) {seq : Option ℕ}
    (hseq : seq = none ∨ type = .snapshot) :
    Guar Frame (do let messageId ← drawUuid; write player conn type payload seq messageId; drain : HostM Unit) := by
  refine guar_post frame_drawUuid fun messageId => guar_modify fun h => ?_
  refine ⟨rfl, rfl, rfl, fun _ => rfl, rfl, rfl, [_], rfl, ?_⟩
  rcases hseq with rfl | rfl <;> simp [Out.still, numberOf, Envelope.make]

theorem frame_sendPeer (player : String) (type : MessageType) (payload : Payload) {seq : Option ℕ}
    (hseq : seq = none ∨ type = .snapshot) : Guar Frame (sendPeer player type payload seq) :=
  guar_bind frame_read fun _ => guar_ifSome _ fun _ => frame_post _ _ _ _ hseq

theorem frame_refuse (conn : ℕ) (player reason : String) : Guar Frame (refuse conn player reason) :=
  frame_post _ _ _ _ (Or.inl rfl)

theorem frame_welcome (conn : ℕ) (player : String) : Guar Frame (welcome conn player) :=
  guar_bind (frame_of_aside (aside_readClock (T := [.session]) (by decide))) fun _ => guar_bind frame_read fun _ =>
    guar_bind (guar_ofExcept _) fun _ => frame_post _ _ _ _ (Or.inl rfl)

/-- all that can be told after such a step is that no broadcast goes on -/
theorem Frame.see {h h' : Host} (f : Frame h h') (g : Watch) :
    watcher.see g h h' = g ∨ watcher.see g h h' = { g with todo := [] } := by
  obtain ⟨os, hlog, hos⟩ := f.log
  rw [see_of_log hlog f.seq]
  clear hlog
  induction os with
  | nil => exact Or.inl rfl
  | cons o os ih =>
    have hsaw : ∀ g, Watch.saw o g = { g with todo := [] } := by
      intro g
      have ho := hos o List.mem_cons_self
      cases o with
      | wrote player conn env =>
        rw [Watch.saw, if_neg (by simpa [Out.still] using ho)]
      | sending | cut | left | joined | closed => cases ho
      | _ => rfl
    rw [List.foldr_cons, hsaw]
    rcases ih fun x hx => hos x (List.mem_cons_of_mem o hx) with e | e <;> rw [e]
    · exact Or.inr rfl
    · exact Or.inr rfl

/-! ## Handlers -/

/-- every topic -/
def everything : List Topic :=
  [.session, .member, .readiness, .travel, .commit, .resume, .lock, .build, .apply, .request, .status, .view, .clock]

section behaves
variable {G : Type} {O : Observer Host Answer Event G} {D : Accord Host Answer G} {P : G → Host → Prop}
  {R : G → G → Prop}

/-- steps of its own, messages to one peer and broadcasts are all a handler does -/
theorem Made.behaves {T : List Topic} {Own : (α : Type) → HostM α → Prop} (htrans : ∀ a b c, R a b → R b c → R a c)
    (hown : ∀ (α : Type) (p : HostM α), Own α p → Behaves O D P R p)
    (haside : ∀ {α : Type} {p : HostM α}, Guar (Aside T) p → Behaves O D P R p)
    (hsend : ∀ player type payload seq, type.topic ∈ T → seq = none ∨ type = .snapshot →
      Behaves O D P R (Host.sendPeer player type payload seq))
    (hbroadcast : ∀ type payload, type.topic ∈ T → type ≠ .snapshot →
      Behaves O D P R (Host.broadcastPeers type payload)) {α : Type} {p : HostM α} (hp : Made T Own p) :
    Behaves O D P R p := by
  induction hp with
  | own h => exact hown _ _ h
  | aside h => exact haside h
  | sendPeer player payload ht hseq => exact hsend player _ payload _ ht hseq
  | broadcastPeers payload ht hne => exact hbroadcast _ payload ht hne
  | bind _ _ ihp ihf => exact behaves_bind htrans ihp ihf
  | attempt _ ih => exact behaves_attempt ih

end behaves

end KerMP.Host
