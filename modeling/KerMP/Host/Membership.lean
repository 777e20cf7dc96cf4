/-
Connections and members (`KerMPHost._handle_conn`, `_drop` and `broadcast` of `kermp/net.py`).

A peer is registered under its player's id, and removed by this id from three places: the `finally` block of its
connection, a broadcast that could not write to it, and the `finally` block of a refused handshake.

Results:
- `lifetime`: in every run in which no hello has an empty id or one that somebody has or may still drop, no write fails
  to a peer that has been replaced since, and a connection closed by the host yields no more messages of its player:
  the players are the host and its peers, an ended connection has no entry, every entry that goes is that of the
  handler's connection or of one its broadcast could not write to, and messages are dispatched for registered
  connections only.
- `reconnection_is_undone`, `dropped_is_heard`, `nameless_stays`: what happens otherwise.
-/
import KerMP.Host.Watch

namespace KerMP.Host

open Py Coop
open Coro hiding pure get modify
open Pool (mover)

/-! ## What is claimed of a run -/

/-- the players are the host and its peers, and no ended connection is registered -/
structure Enrolled (h : Host) : Prop where
  players : ∀ p, p ∈ h.session.players ↔ p = h.playerId ∨ p ∈ h.peers
  ended : ∀ p conn, h.connOf p = some conn → h.conns.lookup conn ≠ some .ended

/-- a step removes only entries of the handler's own connection and of peers its broadcast could not write to; and a
message is dispatched only for a connection that is registered -/
structure Attributed (c : Run) (gs : List Watch) (act : HostAct) : Prop where
  removals : ∀ p conn, c.state.connOf p = some conn → (Pool.step handle enabled c act).state.connOf p ≠ some conn →
    ∃ g ∈ mover watcher enabled c gs act, g.conn = some conn ∨ (p, conn) ∈ g.failed
  messages : ∀ conn env as, act = .arrive (.line conn (.line (.ok env))) as →
    c.state.conns.lookup conn = some (.idle env.senderId) → c.state.connOf env.senderId = some conn

/-! ## Orderly runs -/

/-- an id that nobody has, and that no suspended handler can still drop -/
def Unclaimed (h : Host) (gs : List Watch) (p : String) : Prop :=
  p ≠ h.playerId ∧ p ∉ h.peers ∧ (∀ e ∈ h.conns.entries, e.2 ≠ .idle p) ∧
    ∀ g ∈ gs, g.player ≠ some p ∧ p ∉ g.failed.map Prod.fst

instance (h : Host) (gs : List Watch) (p : String) : Decidable (Unclaimed h gs p) := instDecidableAnd

/-- a first message with an id that is free; one without an id is not accepted -/
def OrderlyHello (h : Host) (gs : List Watch) : Recv → Prop
  | .line (.ok hello) => hello.type = .hello →
    if hello.senderId = "" then (readManifest "" hello.payload).isOk = false else Unclaimed h gs hello.senderId
  | _ => True

instance (h : Host) (gs : List Watch) (r : Recv) : Decidable (OrderlyHello h gs r) := by
  unfold OrderlyHello
  split
  · infer_instance
  · infer_instance

/-- no message of the player from a connection that the host has closed -/
def OrderlyLine (h : Host) (conn : ℕ) (player : String) : Recv → Prop
  | .line (.ok env) => env.senderId = player → .closed conn ∉ h.log
  | _ => True

instance (h : Host) (conn : ℕ) (player : String) (r : Recv) : Decidable (OrderlyLine h conn player r) := by
  unfold OrderlyLine
  split
  · infer_instance
  · infer_instance

/-- a write that fails is one to a peer that has not been replaced since -/
def OrderlyAnswer (h : Host) (g : Watch) (a : Answer) : Prop :=
  a.ok = false → ∀ f ∈ g.waits, ∀ conn ∈ h.connOf f.1, conn = f.2

instance (h : Host) (g : Watch) (a : Answer) : Decidable (OrderlyAnswer h g a) :=
  inferInstanceAs (Decidable (_ → _))

def Orderly (c : Run) (gs : List Watch) : HostAct → Prop
  | .arrive (.line conn r) _ =>
    match c.state.conns.lookup conn with
    | none => OrderlyHello c.state gs r
    | some (.idle player) => OrderlyLine c.state conn player r
    | some _ => True
  | .arrive (.game _) _ => True
  | .resume i a _ => ∀ g ∈ gs[i]?, OrderlyAnswer c.state g a

instance (c : Run) (gs : List Watch) (act : HostAct) : Decidable (Orderly c gs act) := by
  unfold Orderly
  split
  · split <;> infer_instance
  · infer_instance
  · infer_instance

/-- every act of the run is orderly where it happens -/
def OrderlyRun (c : Run) (acts : List HostAct) : Prop := Pool.Observed watcher handle enabled Orderly c [] acts

instance (c : Run) (acts : List HostAct) : Decidable (OrderlyRun c acts) :=
  Pool.decidableObserved watcher handle enabled c [] acts

/-- what the observer knows after these acts -/
def seen (c : Run) (acts : List HostAct) : List Watch := Pool.watched watcher handle enabled c [] acts

/-! ## The accord -/

/-- what holds of members and connections whenever a handler gives up control -/
structure Members (h : Host) : Prop where
  players : ∀ p, p ∈ h.session.players ↔ p = h.playerId ∨ p ∈ h.peers
  host : h.playerId ∉ h.peers
  entry : ∀ p conn, h.connOf p = some conn →
    h.conns.lookup conn = some (.idle p) ∨ h.conns.lookup conn = some .busy
  named : ∀ p conn, h.conns.lookup conn = some (.idle p) → p ≠ "" ∧ p ≠ h.playerId ∧ .joined p conn ∈ h.log
  once : ∀ p conn conn', h.conns.lookup conn = some (.idle p) → h.conns.lookup conn' = some (.idle p) → conn = conn'
  mine : ∀ p conn conn', h.conns.lookup conn = some (.idle p) → h.connOf p = some conn' → conn' = conn
  gone : ∀ p conn, .joined p conn ∈ h.log → h.connOf p = some conn ∨ .closed conn ∈ h.log

/-- a suspended handler's connection is at work for its player, and whom it will drop has no other connection -/
structure Holds (g : Watch) (h : Host) : Prop where
  busy : ∀ conn, g.conn = some conn → h.conns.lookup conn = some .busy
  own : ∀ p conn, g.conn = some conn → h.connOf p = some conn → g.player = some p
  player : ∀ p, g.player = some p → p ≠ "" ∧ p ≠ h.playerId ∧ (∀ conn, h.conns.lookup conn ≠ some (.idle p)) ∧
    ∀ conn, h.connOf p = some conn → g.conn = some conn
  failed : ∀ f ∈ g.failed, f.1 ≠ h.playerId ∧ ∀ conn, h.connOf f.1 = some conn → conn = f.2
  waits : ∀ f ∈ g.waits, f.1 ≠ h.playerId

/-- a handler removes entries of its own connection and of peers it could not reach, and adds one for a first message -/
structure May (g : Watch) (h : Host) (g' : Watch) (h' : Host) : Prop where
  conn : g'.conn = g.conn
  player : g'.player = g.player ∨ g'.player = none
  fresh : g'.fresh = g.fresh
  failed : g'.failed ⊆ g.failed
  playerId : h'.playerId = h.playerId
  log : h.log <:+ h'.log
  removals : ∀ p conn, h.connOf p = some conn → h'.connOf p ≠ some conn → g.conn = some conn ∨ (p, conn) ∈ g.failed
  arrivals : ∀ p conn, h'.connOf p = some conn →
    h.connOf p = some conn ∨ g.fresh = true ∧ g.player = some p ∧ g.conn = some conn
  stages : ∀ conn, h'.conns.lookup conn = h.conns.lookup conn ∨ g.conn = some conn
  idles : ∀ p conn, h'.conns.lookup conn = some (.idle p) → h.conns.lookup conn = some (.idle p) ∨ g.player = some p

/-- nobody else touches a handler's connection, or registers an id that it will drop -/
structure Expects (g : Watch) (h h' : Host) : Prop where
  playerId : h'.playerId = h.playerId
  log : h.log <:+ h'.log
  stage : ∀ conn, g.conn = some conn → h'.conns.lookup conn = h.conns.lookup conn
  arrivals : ∀ p conn, h'.connOf p = some conn →
    h.connOf p = some conn ∨ g.player ≠ some p ∧ p ∉ g.failed.map Prod.fst ∧ g.conn ≠ some conn
  idles : ∀ p conn, h'.conns.lookup conn = some (.idle p) → h.conns.lookup conn = some (.idle p) ∨ g.player ≠ some p

def enrolment : Accord Host Answer Watch where
  inv := Members
  hold := Holds
  guar := May
  rely := Expects
  answer g a h := OrderlyAnswer h g a

/-- neither the same connection nor the same player -/
def Apart (g g' : Watch) : Prop :=
  (∀ conn, g.conn = some conn → g'.conn ≠ some conn) ∧ ∀ p, g.player = some p → g'.player ≠ some p

theorem May.refl (g : Watch) (h : Host) : May g h g h where
  conn := rfl
  player := Or.inl rfl
  fresh := rfl
  failed := List.Subset.refl _
  playerId := rfl
  log := List.suffix_rfl
  removals _ _ hc hn := absurd hc hn
  arrivals _ _ hc := Or.inl hc
  stages _ := Or.inl rfl
  idles _ _ hc := Or.inl hc

theorem May.trans {g g' g'' : Watch} {a b c : Host} (m : May g a g' b) (m' : May g' b g'' c) : May g a g'' c := by
  have hplayer : ∀ p, g'.player = some p → g.player = some p := by
    intro p hp
    rcases m.player with e | e
    · exact e ▸ hp
    · rw [e] at hp; cases hp
  refine ⟨m'.conn.trans m.conn, ?_, m'.fresh.trans m.fresh, List.Subset.trans m'.failed m.failed,
    m'.playerId.trans m.playerId,
    m.log.trans m'.log, fun p conn hc hn => ?_, fun p conn hc => ?_, fun conn => ?_, fun p conn hc => ?_⟩
  · rcases m'.player with e | e
    · rw [e]; exact m.player
    · exact Or.inr e
  · by_cases hb : b.connOf p = some conn
    · rcases m'.removals p conn hb hn with h | h
      · exact Or.inl (m.conn ▸ h)
      · exact Or.inr (m.failed h)
    · exact m.removals p conn hc hb
  · rcases m'.arrivals p conn hc with h | ⟨hf, hp, hc'⟩
    · exact m.arrivals p conn h
    · exact Or.inr ⟨m.fresh ▸ hf, hplayer p hp, m.conn ▸ hc'⟩
  · rcases m'.stages conn with e | h
    · rw [e]; exact m.stages conn
    · exact Or.inr (m.conn ▸ h)
  · rcases m'.idles p conn hc with h | h
    · exact m.idles p conn h
    · exact Or.inr (hplayer p h)

theorem enrolment_lawful : enrolment.Lawful where
  rely_refl _ _ := ⟨rfl, List.suffix_rfl, fun _ _ => rfl, fun _ _ h => Or.inl h, fun _ _ h => Or.inl h⟩
  rely_trans g a b c h h' := by
    refine ⟨h'.playerId.trans h.playerId, h.log.trans h'.log, fun conn hc => (h'.stage conn hc).trans (h.stage conn hc),
      fun p conn hc => ?_, fun p conn hc => ?_⟩
    · exact (h'.arrivals p conn hc).elim (h.arrivals p conn) Or.inr
    · exact (h'.idles p conn hc).elim (h.idles p conn) Or.inr
  hold_rely g s s' h hs := by
    refine ⟨fun conn hc => (h.stage conn hc).trans (hs.busy conn hc), fun p conn hc hp => ?_, fun p hp => ?_,
      fun f hf => ?_, fun f hf => h.playerId ▸ hs.waits f hf⟩
    · rcases h.arrivals p conn hp with hold | ⟨-, -, hne⟩
      · exact hs.own p conn hc hold
      · exact absurd hc hne
    · obtain ⟨hne, hhost, hidle, hconn⟩ := hs.player p hp
      refine ⟨hne, h.playerId ▸ hhost, fun conn hc => ?_, fun conn hc => ?_⟩
      · exact (h.idles p conn hc).elim (hidle conn) fun hno => hno hp
      · exact (h.arrivals p conn hc).elim (hconn conn) fun hno => absurd hp hno.1
    · obtain ⟨hhost, hconn⟩ := hs.failed f hf
      refine ⟨h.playerId ▸ hhost, fun conn hc => ?_⟩
      exact (h.arrivals f.1 conn hc).elim (hconn conn) fun hno => absurd (List.mem_map_of_mem hf) hno.2.1
  guar_refl := May.refl
  guar_trans _ _ _ _ _ _ := May.trans

/-! ## Steps that leave members alone -/

/-- members, connections and their stages are the same, and no arrival is noted -/
structure Steady (h h' : Host) : Prop where
  playerId : h'.playerId = h.playerId
  players : h'.session.players.keys = h.session.players.keys
  keys : h'.peers.keys = h.peers.keys
  conns : ∀ p, h'.connOf p = h.connOf p
  stages : h'.conns = h.conns
  log : h.log <:+ h'.log
  joined : ∀ p conn, .joined p conn ∈ h'.log → .joined p conn ∈ h.log

theorem Frame.steady {h h' : Host} (f : Frame h h') : Steady h h' := by
  obtain ⟨os, hlog, hos⟩ := f.log
  refine ⟨f.playerId, f.players, f.keys, f.conns, f.stages, ⟨os, hlog.symm⟩, fun p conn hj => ?_⟩
  rw [hlog, List.mem_append] at hj
  rcases hj with hj | hj
  · have := hos _ hj
    cases this
  · exact hj

theorem steady_note (h : Host) {o : Out} (ho : ∀ p conn, o ≠ .joined p conn) : Steady h (h.note o) := by
  refine ⟨rfl, rfl, rfl, fun _ => rfl, rfl, List.suffix_cons o h.log, fun p conn hj => ?_⟩
  rcases List.mem_cons.1 hj with e | hj
  · exact absurd e.symm (ho p conn)
  · exact hj

theorem Members.steady {h h' : Host} (m : Members h) (s : Steady h h') : Members h' := by
  have hplayers : ∀ p, p ∈ h'.session.players ↔ p ∈ h.session.players := fun p => by
    rw [AList.mem_keys, s.players, ← AList.mem_keys]
  have hpeers : ∀ p, p ∈ h'.peers ↔ p ∈ h.peers := fun p => by rw [AList.mem_keys, s.keys, ← AList.mem_keys]
  refine ⟨fun p => ?_, ?_, fun p conn hc => ?_, fun p conn hc => ?_, fun p conn conn' hc hc' => ?_,
    fun p conn conn' hc hp => ?_, fun p conn hj => ?_⟩
  · rw [hplayers, hpeers, s.playerId, m.players]
  · rw [hpeers, s.playerId]; exact m.host
  · rw [s.conns] at hc; rw [s.stages]; exact m.entry p conn hc
  · rw [s.stages] at hc
    obtain ⟨hne, hhost, hj⟩ := m.named p conn hc
    exact ⟨hne, s.playerId ▸ hhost, s.log.subset hj⟩
  · rw [s.stages] at hc hc'; exact m.once p conn conn' hc hc'
  · rw [s.stages] at hc; rw [s.conns] at hp; exact m.mine p conn conn' hc hp
  · rw [s.conns]
    exact (m.gone p conn (s.joined p conn hj)).imp_right fun hc => s.log.subset hc

theorem Holds.steady {g g' : Watch} {h h' : Host} (hh : Holds g h) (s : Steady h h') (hconn : g'.conn = g.conn)
    (hplayer : g'.player = g.player) (hfailed : g'.failed ⊆ g.failed) (hwaits : ∀ f ∈ g'.waits, f.1 ≠ h.playerId) :
    Holds g' h' := by
  refine ⟨fun conn hc => ?_, fun p conn hc hp => ?_, fun p hp => ?_, fun f hf => ?_, fun f hf => ?_⟩
  · rw [s.stages]; exact hh.busy conn (hconn ▸ hc)
  · rw [s.conns] at hp; rw [hplayer]; exact hh.own p conn (hconn ▸ hc) hp
  · obtain ⟨hne, hhost, hidle, hown⟩ := hh.player p (hplayer ▸ hp)
    rw [s.playerId, s.stages, hconn]
    exact ⟨hne, hhost, hidle, fun conn hc => hown conn (s.conns p ▸ hc)⟩
  · obtain ⟨hhost, hc⟩ := hh.failed f (hfailed hf)
    exact ⟨s.playerId ▸ hhost, fun conn hf' => hc conn (s.conns f.1 ▸ hf')⟩
  · rw [s.playerId]; exact hwaits f hf

theorem May.steady {g g' : Watch} {h h' : Host} (s : Steady h h') (hconn : g'.conn = g.conn)
    (hplayer : g'.player = g.player) (hfresh : g'.fresh = g.fresh) (hfailed : g'.failed ⊆ g.failed) :
    May g h g' h' where
  conn := hconn
  player := Or.inl hplayer
  fresh := hfresh
  failed := hfailed
  playerId := s.playerId
  log := s.log
  removals p conn hc hn := absurd ((s.conns p).trans hc) hn
  arrivals p conn hc := Or.inl ((s.conns p).symm.trans hc)
  stages conn := Or.inl (by rw [s.stages])
  idles p conn hc := Or.inl (by rwa [s.stages] at hc)

theorem Holds.wake {g : Watch} {h : Host} {a : Answer} (hh : Holds g h) (ha : OrderlyAnswer h g a) :
    Holds (g.wake a) h := by
  refine ⟨hh.busy, hh.own, hh.player, fun f hf => ?_, fun f hf => by cases hf⟩
  by_cases hok : a.ok = true
  · rw [Watch.wake, if_pos hok] at hf
    exact hh.failed f hf
  · rw [Watch.wake, if_neg hok, List.mem_append] at hf
    rcases hf with hf | hf
    · exact hh.failed f hf
    · have hw : f ∈ g.waits := by simpa using hf
      exact ⟨hh.waits f hw, fun conn hc => ha (by simpa using hok) f hw conn hc⟩

/-! ## Broadcasts -/

/-- between two steps: nothing is waited for, and `L` has been noted -/
structure Between (L : List Out) (g : Watch) (h : Host) : Prop where
  members : Members h
  holds : Holds g h
  waits : g.waits = none
  noted : L ⊆ h.log

/-- nobody is left to be dropped -/
def Settled (L : List Out) (g : Watch) (h : Host) : Prop := Between L g h ∧ g.failed = []

/-- the same connection and player -/
def Keeps (g g' : Watch) : Prop := g'.conn = g.conn ∧ g'.player = g.player

theorem Keeps.refl (g : Watch) : Keeps g g := ⟨rfl, rfl⟩

theorem Keeps.trans {a b c : Watch} (h : Keeps a b) (h' : Keeps b c) : Keeps a c :=
  ⟨h'.1.trans h.1, h'.2.trans h.2⟩

section programs
variable {L : List Out} {g : Watch} {h : Host} {α : Type}

theorem Between.steady {g' : Watch} {h' : Host} (b : Between L g h) (s : Steady h h') (hk : Keeps g g')
    (hfailed : g'.failed ⊆ g.failed) (hwaits : g'.waits = none) : Between L g' h' :=
  ⟨b.members.steady s, b.holds.steady s hk.1 hk.2 hfailed (by simp [hwaits]), hwaits, List.Subset.trans b.noted s.log.subset⟩

theorem owp_read {f : Host → HostM α} {Q : Except Exc α → Watch → Host → Prop} :
    owp watcher enrolment g (Coro.get >>= f) Q h ↔ owp watcher enrolment g (f h) Q h := owp_look May.refl

theorem owp_emit {o : Out} {Q : Except Exc Unit → Watch → Host → Prop} :
    owp watcher enrolment g (emit o) Q h ↔ May g h (Watch.saw o g) (h.note o) ∧ Q (.ok ()) (Watch.saw o g) (h.note o) := by
  rw [emit, owp_modify, see_note]
  exact Iff.rfl

theorem owp_wait {Q : Except Exc Answer → Watch → Host → Prop} (hm : Members h) (hh : Holds g h) (hl : L ⊆ h.log)
    (hQ : ∀ a h', Between L (g.wake a) h' → Q (.ok a) (g.wake a) h') : owp watcher enrolment g suspend Q h := by
  rw [owp_suspend]
  exact ⟨hm, hh, fun h' hr hm' hh' a ha => hQ a h' ⟨hm', hh'.wake ha, rfl, List.Subset.trans hl hr.log.subset⟩⟩

theorem settled_wake {a : Answer} (hw : g.waits = none) (hf : g.failed = []) : (g.wake a).failed = [] := by
  simp [Watch.wake, hw, hf]

/-- steps that leave members and broadcasts alone -/
theorem frame_settled {p : HostM α} (hp : Guar Frame p) : Behaves watcher enrolment (Settled L) Keeps p := by
  refine behaves_of_guar Keeps.refl (fun _ _ _ => Keeps.trans) (fun g h h' f hs => ?_) (fun g h hs => ?_) hp
  · have hsee : Keeps g (watcher.see g h h') ∧ (watcher.see g h h').fresh = g.fresh ∧
        (watcher.see g h h').failed = g.failed ∧ (watcher.see g h h').waits = g.waits := by
      rcases f.see g with e | e <;> rw [e] <;> exact ⟨⟨rfl, rfl⟩, rfl, rfl, rfl⟩
    obtain ⟨hk, hfresh, hfailed, hwaits⟩ := hsee
    have hsub : (watcher.see g h h').failed ⊆ g.failed := hfailed ▸ List.Subset.refl _
    exact ⟨.steady f.steady hk.1 hk.2 hfresh hsub,
      ⟨hs.1.steady f.steady hk hsub (hwaits.trans hs.1.waits), hfailed.trans hs.2⟩, hk⟩
  · refine ⟨hs.1.members, hs.1.holds, fun h' hr hm' hh' a ha => ?_⟩
    exact ⟨⟨⟨hm', hh'.wake ha, rfl, List.Subset.trans hs.1.noted hr.log.subset⟩, settled_wake hs.1.waits hs.2⟩, rfl, rfl⟩

/-- the iteration goes on, or is cut short and nobody is dropped -/
theorem owp_checkSize {type : MessageType} {seq size : ℕ} {Q : Except Exc Unit → Watch → Host → Prop}
    (hb : Between L g h) (hok : Q (.ok ()) g h)
    (hcut : ∀ e g' h', Settled L g' h' → Keeps g g' → Q (.error e) g' h') :
    owp watcher enrolment g (checkSize type seq size) Q h := by
  rw [checkSize, owp_read]
  split_ifs
  · exact hok
  rw [owp_bind, owp_emit]
  have hsteady : Steady h (h.note (.cut type seq)) := steady_note h fun p conn => by simp
  have hk : Keeps g (Watch.saw (.cut type seq) g) := ⟨rfl, rfl⟩
  refine ⟨.steady hsteady rfl rfl rfl (List.nil_subset _), ?_⟩
  exact hcut _ _ _ ⟨hb.steady hsteady hk (List.nil_subset _) hb.waits, rfl⟩ hk

/-- the write of a broadcast to one peer, up to the answer of its socket -/
theorem owp_reach {pid : String} {peer : Peer} {type : MessageType} {payload : Payload} {seq : ℕ} {messageId : String}
    (hne : type ≠ .snapshot) (hb : Between L g h) (hpeer : h.peers.lookup pid = some peer)
    {f : Answer → HostM α} {Q : Except Exc α → Watch → Host → Prop}
    (hQ : ∀ a g' h', Between L g' h' → Keeps g g' →
      g'.failed = (if a.ok then g.failed else g.failed ++ [(pid, peer.conn)]) → owp watcher enrolment g' (f a) Q h') :
    owp watcher enrolment g
      (do write pid peer.conn type payload (some seq) messageId; let a ← suspend; f a : HostM α) Q h := by
  have hsteady : ∀ env, Steady h (h.note (.wrote pid peer.conn env)) := fun env => steady_note h fun p conn => by simp
  have hpid : pid ≠ h.playerId := fun e => hb.members.host (e ▸ AList.lookup_isSome.1 (by rw [hpeer]; rfl))
  have hsaw : ∀ env : Envelope, (numberOf env).isSome → Watch.saw (.wrote pid peer.conn env) g =
      { g with waits := some (pid, peer.conn), todo := (g.todo.dropWhile (· ≠ pid)).tail } := fun env he => if_pos he
  rw [owp_bind, write, owp_modify, see_note, hsaw _ (by simp [numberOf, Envelope.make, hne])]
  refine ⟨.steady (hsteady _) rfl rfl rfl (List.Subset.refl _), ?_⟩
  rw [onward_ok, owp_bind]
  refine owp_wait (hb.members.steady (hsteady _)) ?_ (List.Subset.trans hb.noted (hsteady _).log.subset) fun a h' hb' => ?_
  · refine hb.holds.steady (hsteady _) rfl rfl (List.Subset.refl _) fun f hf => ?_
    obtain rfl : f = (pid, peer.conn) := by simpa using hf.symm
    exact hpid
  · exact hQ a _ h' hb' ⟨rfl, rfl⟩ rfl

/-- the loop of a broadcast answers with those it could not reach -/
theorem owp_writeEach {type : MessageType} (hne : type ≠ .snapshot) (payload : Payload) (seq : ℕ) (messageId : String)
    (size : ℕ) (pids : List String) (hb : Between L g h) :
    owp watcher enrolment g (writeEach type payload seq messageId size pids) (fun r g' h' => Between L g' h' ∧
      Keeps g g' ∧ match r with
        | .ok dead => g'.failed.map Prod.fst = g.failed.map Prod.fst ++ dead ∧ dead.Sublist pids
        | .error _ => g'.failed = []) h := by
  induction pids generalizing g h with
  | nil =>
    rw [writeEach, owp_bind]
    refine owp_checkSize hb ⟨hb, .refl g, by simp, List.Sublist.refl _⟩ fun e g' h' hs hk => ⟨hs.1, hk, hs.2⟩
  | cons pid rest ih =>
    rw [writeEach, owp_bind]
    refine owp_checkSize hb ?_ fun e g' h' hs hk => ⟨hs.1, hk, hs.2⟩
    rw [onward_ok, owp_read]
    split
    · refine owp_mono ?_ (ih hb)
      rintro (e | dead) g' h' ⟨hb', hk, hr⟩
      · exact ⟨hb', hk, hr⟩
      · exact ⟨hb', hk, hr.1, hr.2.trans (List.sublist_cons_self _ _)⟩
    · rename_i peer hpeer
      refine owp_reach hne hb hpeer fun a g₁ h₁ hb₁ hk₁ hfailed => ?_
      rw [owp_bind]
      refine owp_mono ?_ (ih hb₁)
      rintro (e | dead) g' h' ⟨hb', hk, hr⟩
      · exact ⟨hb', hk₁.trans hk, hr⟩
      · refine ⟨hb', hk₁.trans hk, ?_⟩
        rw [hr.1, hfailed]
        by_cases hok : a.ok = true
        · rw [if_pos hok, if_pos hok]
          exact ⟨rfl, hr.2.trans (List.sublist_cons_self _ _)⟩
        · rw [if_neg hok, if_neg hok]
          exact ⟨by simp, hr.2.cons_cons _⟩

/-! ## Departures -/

/-- the state at a departure's await: the connection that was registered is closed -/
def departed (h : Host) (player : String) : Host :=
  match h.connOf player with
  | none => h.removed player
  | some conn => (h.removed player).note (.closed conn)

theorem Members.departed {p : String} (m : Members h) (hp : p ≠ h.playerId) : Members (h.departed p) := by
  have hplayers : (h.session.removePlayer p).players = h.session.players.erase p :=
    (HostSession.removePlayer_eq h.session p).1
  -- what is registered and what is noted, whether or not there was an entry
  have hgone : ∀ k : Host, (∀ q, k.connOf q = (h.removed p).connOf q) → k.session = (h.removed p).session →
      k.peers = (h.removed p).peers → k.conns = h.conns → k.playerId = h.playerId → h.log <:+ k.log →
      (∀ q conn, .joined q conn ∈ k.log → .joined q conn ∈ h.log) →
      (∀ conn, h.connOf p = some conn → .closed conn ∈ k.log) → Members k := by
    intro k hconn hsession hpeers hstages hid hlog hjoined hclosed
    have hconnOf : ∀ q conn, k.connOf q = some conn → q ≠ p ∧ h.connOf q = some conn := by
      intro q conn hq
      rw [hconn, connOf_removed] at hq
      split_ifs at hq with hqp
      exact ⟨hqp, hq⟩
    refine ⟨fun q => ?_, ?_, fun q conn hq => ?_, fun q conn hq => ?_, fun q conn conn' hq hq' => ?_,
      fun q conn conn' hq hq' => ?_, fun q conn hq => ?_⟩
    · rw [hsession, hpeers, hid]
      show q ∈ (h.session.removePlayer p).players ↔ q = h.playerId ∨ q ∈ h.peers.erase p
      rw [hplayers, AList.mem_erase, AList.mem_erase, m.players]
      constructor
      · rintro ⟨hne, hq | hq⟩
        · exact Or.inl hq
        · exact Or.inr ⟨hne, hq⟩
      · rintro (rfl | hq)
        · exact ⟨hp.symm, Or.inl rfl⟩
        · exact ⟨hq.1, Or.inr hq.2⟩
    · rw [hid, hpeers]
      exact fun hmem => m.host (AList.mem_erase.1 hmem).2
    · rw [hstages]; exact m.entry q conn (hconnOf q conn hq).2
    · rw [hstages] at hq
      obtain ⟨hne, hhost, hj⟩ := m.named q conn hq
      exact ⟨hne, hid ▸ hhost, hlog.subset hj⟩
    · rw [hstages] at hq hq'; exact m.once q conn conn' hq hq'
    · rw [hstages] at hq; exact m.mine q conn conn' hq (hconnOf q conn' hq').2
    · rcases m.gone q conn (hjoined q conn hq) with he | hc
      · by_cases hqp : q = p
        · exact Or.inr (hclosed conn (hqp ▸ he))
        · left; rw [hconn, connOf_removed, if_neg hqp]; exact he
      · exact Or.inr (hlog.subset hc)
  have hleft : h.log <:+ (h.removed p).log := List.suffix_cons _ _
  unfold Host.departed
  split
  · rename_i hnone
    refine hgone _ (fun _ => rfl) rfl rfl rfl rfl hleft (fun q conn hq => ?_) fun conn hc => ?_
    · exact (List.mem_cons.1 hq).resolve_left (by simp)
    · rw [hnone] at hc; cases hc
  · rename_i conn₀ hsome
    refine hgone _ (fun _ => rfl) rfl rfl rfl rfl (hleft.trans (List.suffix_cons _ _)) (fun q conn hq => ?_)
      fun conn hc => ?_
    · exact (List.mem_cons.1 ((List.mem_cons.1 hq).resolve_left (by simp))).resolve_left (by simp)
    · rw [hsome] at hc; cases hc; exact List.mem_cons_self

/-- who is dropped is either one the broadcast could not reach, or the handler's own player -/
def Dropped (g : Watch) (p : String) (g' : Watch) : Prop :=
  g'.conn = g.conn ∧ g'.failed = g.failed.filter (·.1 ≠ p) ∧ g'.waits = g.waits ∧ g'.fresh = g.fresh ∧
    g'.player = if p ∈ g.failed.map Prod.fst then g.player else none

theorem saw_left {p : String} {travel : Option Travel.TravelTxn} (hp : p ∈ g.failed.map Prod.fst ∨ g.player = some p) :
    Dropped g p (Watch.saw (.left p travel) g) := by
  by_cases hf : p ∈ g.failed.map Prod.fst
  · rw [Watch.saw, if_pos hf]
    exact ⟨rfl, rfl, rfl, rfl, (if_pos hf).symm⟩
  · have hfilter : g.failed.filter (·.1 ≠ p) = g.failed :=
      List.filter_eq_self.2 fun f hf' => by
        have hne : f.1 ≠ p := fun e => hf (List.mem_map.2 ⟨f, hf', e⟩)
        simpa using hne
    rw [Watch.saw, if_neg hf, if_pos (hp.resolve_left hf)]
    exact ⟨rfl, hfilter.symm, rfl, rfl, (if_neg hf).symm⟩

theorem saw_closed (conn : ℕ) : Watch.saw (.closed conn) g = { g with todo := [] } := rfl

theorem Dropped.closed {g' : Watch} {p : String} (d : Dropped g p g') : Dropped g p { g' with todo := [] } := d

/-- the entry that goes is that of the handler's connection, or of the peer it could not reach -/
theorem Holds.entitled {p : String} (hh : Holds g h) (hp : p ∈ g.failed.map Prod.fst ∨ g.player = some p) {conn : ℕ}
    (hc : h.connOf p = some conn) : g.conn = some conn ∨ (p, conn) ∈ g.failed := by
  rcases hp with hp | hp
  · obtain ⟨f, hf, rfl⟩ := List.mem_map.1 hp
    right
    rwa [(hh.failed f hf).2 conn hc]
  · exact Or.inl ((hh.player p hp).2.2.2 conn hc)

theorem May.dropped {g' : Watch} {p : String} (hh : Holds g h) (hp : p ∈ g.failed.map Prod.fst ∨ g.player = some p)
    (d : Dropped g p g') : May g h g' (h.removed p) where
  conn := d.1
  player := by
    rw [d.2.2.2.2]
    split_ifs
    · exact Or.inl rfl
    · exact Or.inr rfl
  fresh := d.2.2.2.1
  failed := d.2.1 ▸ List.filter_subset_self _
  playerId := rfl
  log := List.suffix_cons _ _
  removals q conn hc hn := by
    rw [connOf_removed] at hn
    split_ifs at hn with hqp
    · rw [hqp] at hc ⊢
      exact hh.entitled hp hc
    · exact absurd hc hn
  arrivals q conn hc := by
    rw [connOf_removed] at hc
    split_ifs at hc
    exact Or.inl hc
  stages _ := Or.inl rfl
  idles _ _ hc := Or.inl hc

theorem Holds.dropped {g' : Watch} {p : String} (hh : Holds g h) (hw : g.waits = none)
    (hp : p ∈ g.failed.map Prod.fst ∨ g.player = some p) (d : Dropped g p g') : Holds g' (h.removed p) := by
  have hconnOf : ∀ q conn, (h.removed p).connOf q = some conn → q ≠ p ∧ h.connOf q = some conn := by
    intro q conn hq
    rw [connOf_removed] at hq
    split_ifs at hq with hqp
    exact ⟨hqp, hq⟩
  obtain ⟨hconn, hfailed, hwaits, -, hplayer⟩ := d
  refine ⟨fun conn hc => hh.busy conn (hconn ▸ hc), fun q conn hc hq => ?_, fun q hq => ?_, fun f hf => ?_, ?_⟩
  · obtain ⟨hne, hq⟩ := hconnOf q conn hq
    have hown := hh.own q conn (hconn ▸ hc) hq
    rw [hplayer]
    split_ifs with hf
    · exact hown
    · -- the entries of the connection were those of its player, who has just been dropped
      rw [hp.resolve_left hf] at hown
      cases hown
      exact absurd rfl hne
  · rw [hplayer] at hq
    split_ifs at hq
    obtain ⟨hne, hhost, hidle, hown⟩ := hh.player q hq
    exact ⟨hne, hhost, hidle, fun conn hc => hconn ▸ hown conn (hconnOf q conn hc).2⟩
  · rw [hfailed] at hf
    obtain ⟨hhost, hc⟩ := hh.failed f (List.mem_of_mem_filter hf)
    exact ⟨hhost, fun conn hq => hc conn (hconnOf f.1 conn hq).2⟩
  · rw [hwaits, hw]
    exact fun f hf => (by cases hf)

theorem owp_drop {p : String} (hb : Between L g h) (hhost : p ≠ h.playerId)
    (hp : p ∈ g.failed.map Prod.fst ∨ g.player = some p) :
    owp watcher enrolment g (drop p) (fun r g' h' => r = .ok () ∧ Between L g' h' ∧ g'.conn = g.conn ∧
      g'.failed = g.failed.filter (·.1 ≠ p) ∧ g'.player = if p ∈ g.failed.map Prod.fst then g.player else none) h := by
  have hd : Dropped g p (Watch.saw (.left p h.session.travel.current) g) := saw_left hp
  have hsee : watcher.see g h (h.removed p) = Watch.saw (.left p h.session.travel.current) g :=
    see_of_log (by exact rfl : (h.removed p).log = [.left p h.session.travel.current] ++ h.log) rfl g
  have hmembers := hb.members.departed hhost
  rw [drop, owp_bind, depart, owp_call, hsee]
  refine ⟨.dropped hb.holds hp hd, ?_⟩
  dsimp only [onward_ok]
  generalize hg : Watch.saw (.left p h.session.travel.current) g = g₁ at hd
  have hholds := hb.holds.dropped hb.waits hp hd
  have hlog : L ⊆ (h.removed p).log := List.Subset.trans hb.noted (List.subset_cons_self _ _)
  have hwaits : g₁.waits = none := hd.2.2.1.trans hb.waits
  cases hpeer : h.peers.lookup p with
  | none =>
    rw [Host.departed, connOf, hpeer, Option.map_none] at hmembers
    exact ⟨rfl, ⟨hmembers, hholds, hwaits, hlog⟩, hd.1, hd.2.1, hd.2.2.2.2⟩
  | some peer =>
    rw [Host.departed, connOf, hpeer, Option.map_some] at hmembers
    have hsteady : Steady (h.removed p) ((h.removed p).note (.closed peer.conn)) :=
      steady_note _ fun q conn => by simp
    show owp watcher enrolment g₁ (closeWriter peer.conn) _ (h.removed p)
    rw [closeWriter, owp_bind, owp_emit, saw_closed]
    refine ⟨.steady hsteady rfl rfl rfl (List.Subset.refl _), ?_⟩
    rw [onward_ok, owp_bind]
    refine owp_wait hmembers (hholds.steady hsteady rfl rfl (List.Subset.refl _) (by simp [hwaits]))
      (List.Subset.trans hlog hsteady.log.subset) fun a h' hb' => ?_
    refine ⟨rfl, hb', hd.1, ?_, hd.2.2.2.2⟩
    show (if a.ok then g₁.failed else g₁.failed ++ g₁.waits.toList) = _
    simp [hwaits, hd.2.1]

theorem owp_dropAll {pids : List String} (hb : Between L g h) (hpids : g.failed.map Prod.fst = pids) (hn : pids.Nodup) :
    owp watcher enrolment g (dropAll pids) (fun _ g' h' => Settled L g' h' ∧ Keeps g g') h := by
  induction pids generalizing g h with
  | nil => exact ⟨⟨hb, List.map_eq_nil_iff.1 hpids⟩, .refl g⟩
  | cons pid rest ih =>
    obtain ⟨hpid, hrest⟩ := List.nodup_cons.1 hn
    have hmem : pid ∈ g.failed.map Prod.fst := by simp [hpids]
    obtain ⟨f, hf, rfl⟩ := List.mem_map.1 hmem
    rw [dropAll, owp_bind]
    refine owp_mono ?_ (owp_drop hb (hb.holds.failed f hf).1 (Or.inl hmem))
    rintro r g₁ h₁ ⟨rfl, hb₁, hconn, hfailed, hplayer⟩
    rw [if_pos hmem] at hplayer
    rw [onward_ok]
    refine owp_mono ?_ (ih hb₁ ?_ hrest)
    · rintro r g' h' ⟨hs, hk⟩
      exact ⟨hs, Keeps.trans ⟨hconn, hplayer⟩ hk⟩
    · calc g₁.failed.map Prod.fst
          = (g.failed.map Prod.fst).filter (· ≠ f.1) := by rw [hfailed, List.filter_map]; rfl
        _ = (f.1 :: rest).filter (· ≠ f.1) := by rw [hpids]
        _ = rest := by
          rw [List.filter_cons_of_neg (by simp), List.filter_eq_self]
          exact fun q hq => by simpa using fun e : q = f.1 => hpid (e ▸ hq)

/-- a broadcast drops exactly those it could not reach -/
theorem broadcast_settled {type : MessageType} (hne : type ≠ .snapshot) (payload : Payload) :
    Behaves watcher enrolment (Settled L) Keeps (broadcastPeers type payload) := by
  intro g h ⟨hb, hf⟩
  have hsteady : Steady h { h with seq := h.seq + 1 } :=
    ⟨rfl, rfl, rfl, fun _ => rfl, rfl, List.suffix_rfl, fun _ _ hj => hj⟩
  have hsee : watcher.see g h { h with seq := h.seq + 1 } = { g with number := h.seq + 1, todo := h.peers.keys } := by
    simp [watcher, Watch.see]
  rw [broadcastPeers, owp_bind, nextSeq, owp_call, hsee]
  refine ⟨.steady hsteady rfl rfl rfl (List.Subset.refl _), ?_⟩
  rw [onward_ok, owp_bind]
  have hb₁ : Settled L { g with number := h.seq + 1, todo := h.peers.keys } { h with seq := h.seq + 1 } :=
    ⟨hb.steady hsteady ⟨rfl, rfl⟩ (List.Subset.refl _) hb.waits, hf⟩
  refine owp_mono ?_ (frame_settled frame_drawUuid _ _ hb₁)
  rintro (e | messageId) g₂ h₂ ⟨hs₂, hk₂⟩
  · exact ⟨hs₂, hk₂⟩
  rw [onward_ok, owp_read, owp_bind, owp_emit]
  have hnote : Steady h₂ (h₂.note (.sending type (h₂.resolve payload.orEmpty) (h.seq + 1) h₂.session.travel.current)) :=
    steady_note h₂ fun p conn => by simp
  refine ⟨.steady hnote rfl rfl rfl (List.Subset.refl _), ?_⟩
  rw [onward_ok, owp_bind]
  refine owp_mono ?_ (owp_writeEach hne payload.orEmpty _ messageId _ _
    (hs₂.1.steady hnote ⟨rfl, rfl⟩ (List.Subset.refl _) hs₂.1.waits))
  rintro (e | dead) g₃ h₃ ⟨hb₃, hk₃, hr⟩
  · exact ⟨⟨hb₃, hr⟩, Keeps.trans hk₂ hk₃⟩
  · refine owp_mono ?_ (owp_dropAll hb₃ (?_ : _ = dead) (hr.2.nodup h₂.peers.nodupKeys))
    · rintro r g' h' ⟨hs, hk⟩
      exact ⟨hs, (Keeps.trans hk₂ hk₃).trans hk⟩
    · rw [hr.1]
      show g₂.failed.map Prod.fst ++ dead = dead
      rw [hs₂.2]
      rfl

/-! ## Connections -/

/-- everything a handler does for its event, connections and first messages apart -/
theorem everything_parts : Parts everything (fun _ _ => False) :=
  .of_topics (by decide) (Or.inl (by decide))

theorem made_settled {p : HostM α} (hp : Made everything (fun _ _ => False) p) :
    Behaves watcher enrolment (Settled L) Keeps p :=
  hp.behaves (R := Keeps) (fun _ _ _ => Keeps.trans) (fun _ _ => False.elim) (fun h => frame_settled (frame_of_aside h))
    (fun player type payload _ _ hseq => frame_settled (frame_sendPeer player type payload hseq))
    fun _ payload _ hne => broadcast_settled hne payload

theorem setStage_see {conn : ℕ} {stage : Stage} :
    watcher.see g h { h with conns := h.conns.setItem conn stage } = g := see_unlogged rfl rfl g

/-- a handler changes the stage of its own connection -/
theorem May.stage {conn : ℕ} {stage : Stage} (hconn : g.conn = some conn)
    (hidle : ∀ p, stage = .idle p → g.player = some p) : May g h g { h with conns := h.conns.setItem conn stage } where
  conn := rfl
  player := Or.inl rfl
  fresh := rfl
  failed := List.Subset.refl _
  playerId := rfl
  log := List.suffix_rfl
  removals _ _ hc hn := absurd hc hn
  arrivals _ _ hc := Or.inl hc
  stages conn' := by
    show (h.conns.setItem conn stage).lookup conn' = _ ∨ _
    rw [lookup_setStage]
    split_ifs with he
    · exact Or.inr (he ▸ hconn)
    · exact Or.inl rfl
  idles p conn' hc := by
    have hc : (h.conns.setItem conn stage).lookup conn' = some (.idle p) := hc
    rw [lookup_setStage] at hc
    split_ifs at hc
    · exact Or.inr (hidle p (Option.some.inj hc))
    · exact Or.inl hc

/-- no entry, or no more lines, for a connection that is at work or has ended -/
theorem Members.stage {conn : ℕ} {stage : Stage} (m : Members h) (hstage : ∀ p, stage ≠ .idle p)
    (hentry : stage = .busy ∨ ∀ p, h.connOf p ≠ some conn) :
    Members { h with conns := h.conns.setItem conn stage } := by
  have hidle : ∀ conn' p, (h.conns.setItem conn stage).lookup conn' = some (.idle p) →
      h.conns.lookup conn' = some (.idle p) := by
    intro conn' p hc
    rw [lookup_setStage] at hc
    split_ifs at hc
    · exact absurd (Option.some.inj hc) (hstage p)
    · exact hc
  refine ⟨m.players, m.host, fun p conn' hc => ?_, fun p conn' hc => m.named p conn' (hidle _ _ hc),
    fun p c c' hc hc' => m.once p c c' (hidle _ _ hc) (hidle _ _ hc'),
    fun p c c' hc hp => m.mine p c c' (hidle _ _ hc) hp, m.gone⟩
  show (h.conns.setItem conn stage).lookup conn' = _ ∨ (h.conns.setItem conn stage).lookup conn' = _
  rw [lookup_setStage]
  split_ifs with he
  · rcases hentry with rfl | hnone
    · exact Or.inr rfl
    · exact absurd (he ▸ hc) (hnone p)
  · exact m.entry p conn' hc

theorem Members.ended {conn : ℕ} (m : Members h) (hown : ∀ p, h.connOf p ≠ some conn) :
    Members { h with conns := h.conns.setItem conn .ended } := m.stage (by simp) (Or.inr hown)

theorem Members.busy {conn : ℕ} (m : Members h) : Members { h with conns := h.conns.setItem conn .busy } :=
  m.stage (by simp) (Or.inl rfl)

/-- the `finally` block leaves nothing of its connection -/
theorem owp_finish {conn : ℕ} {player : Option String} (hs : Settled L g h) (hconn : g.conn = some conn)
    (hplayer : g.player = player.filter (· ≠ "")) :
    owp watcher enrolment g (finish conn player) (fun _ _ h' => Members h') h := by
  -- once the player is dropped, the connection has no entry
  have hclose : ∀ {g' : Watch} {h' : Host}, Between L g' h' → g'.conn = some conn → g'.player = none →
      owp watcher enrolment g' (do closeWriter conn; setStage conn .ended : HostM Unit) (fun _ _ h'' => Members h'') h' := by
    intro g' h' hb hc hp
    have hsteady : Steady h' (h'.note (.closed conn)) := steady_note h' fun q c => by simp
    rw [owp_bind, closeWriter, owp_bind, owp_emit, saw_closed]
    refine ⟨.steady hsteady rfl rfl rfl (List.Subset.refl _), ?_⟩
    rw [onward_ok, owp_bind]
    refine owp_wait (hb.members.steady hsteady)
      (hb.holds.steady hsteady rfl rfl (List.Subset.refl _) (by simp [hb.waits]))
      (List.Subset.trans hb.noted hsteady.log.subset) fun a k hb' => ?_
    show owp watcher enrolment _ (setStage conn .ended) _ k
    rw [setStage, owp_modify, setStage_see]
    have hown : ∀ p, k.connOf p ≠ some conn := by
      intro p hkp
      have : g'.player = some p := hb'.holds.own p conn hc hkp
      rw [hp] at this
      cases this
    exact ⟨.stage (by exact hc) (by simp), hb'.members.ended hown⟩
  rw [finish, owp_bind]
  cases player with
  | none => exact hclose hs.1 hconn hplayer
  | some p =>
    by_cases hp : p = ""
    · subst hp
      exact hclose hs.1 hconn hplayer
    · have hplayer : g.player = some p := by simpa [Option.filter, hp] using hplayer
      rw [ifSome, if_neg hp]
      refine owp_mono ?_ (owp_drop hs.1 (hs.1.holds.player p hplayer).2.1 (Or.inr hplayer))
      rintro r g' h' ⟨rfl, hb', hc, -, hp'⟩
      rw [if_neg (by simp [hs.2])] at hp'
      exact hclose hb' (hc.trans hconn) hp'

/-- an accepted player waits for its next line -/
theorem Members.idle {conn : ℕ} {p : String} (m : Members h) (hh : Holds g h) (hconn : g.conn = some conn)
    (hplayer : g.player = some p) (hj : .joined p conn ∈ h.log) :
    Members { h with conns := h.conns.setItem conn (.idle p) } := by
  obtain ⟨hne, hhost, hidle, hown⟩ := hh.player p hplayer
  have hstage : ∀ conn' q, (h.conns.setItem conn (.idle p)).lookup conn' = some (.idle q) →
      (conn' = conn ∧ q = p) ∨ q ≠ p ∧ h.conns.lookup conn' = some (.idle q) := by
    intro conn' q hc
    rw [lookup_setStage] at hc
    split_ifs at hc with he
    · cases hc; exact Or.inl ⟨he, rfl⟩
    · exact Or.inr ⟨fun e => hidle conn' (e ▸ hc), hc⟩
  refine ⟨m.players, m.host, fun q conn' hc => ?_, fun q conn' hc => ?_, fun q c c' hc hc' => ?_,
    fun q c c' hc hq => ?_, m.gone⟩
  · show (h.conns.setItem conn (.idle p)).lookup conn' = _ ∨ (h.conns.setItem conn (.idle p)).lookup conn' = _
    rw [lookup_setStage]
    split_ifs with he
    · have : g.player = some q := hh.own q conn hconn (he ▸ hc)
      rw [hplayer] at this
      cases this
      exact Or.inl rfl
    · exact m.entry q conn' hc
  · rcases hstage conn' q hc with ⟨rfl, rfl⟩ | ⟨-, hq⟩
    · exact ⟨hne, hhost, hj⟩
    · exact m.named q conn' hq
  · rcases hstage c q hc with ⟨rfl, rfl⟩ | ⟨hq, hc⟩ <;> rcases hstage c' q hc' with ⟨rfl, hq'⟩ | ⟨hq', hc'⟩
    · rfl
    · exact absurd rfl hq'
    · exact absurd hq' hq
    · exact m.once q c c' hc hc'
  · rcases hstage c q hc with ⟨rfl, rfl⟩ | ⟨-, hc⟩
    · exact Option.some.inj ((hown c' hq).symm.trans hconn)
    · exact m.mine q c c' hc hq

/-- a line starts: its connection is at work -/
theorem owp_begin {conn : ℕ} {f : Unit → HostM Unit} {Q : Except Exc Unit → Watch → Host → Prop}
    (hconn : g.conn = some conn)
    (hrest : owp watcher enrolment g (f ()) Q { h with conns := h.conns.setItem conn .busy }) :
    owp watcher enrolment g (setStage conn .busy >>= f) Q h := by
  rw [owp_bind, setStage, owp_modify, setStage_see]
  exact ⟨.stage hconn (by simp), hrest⟩

theorem owp_idle {conn : ℕ} {p : String} (hs : Settled L g h) (hconn : g.conn = some conn) (hplayer : g.player = some p)
    (hj : .joined p conn ∈ L) : owp watcher enrolment g (setStage conn (.idle p)) (fun _ _ h' => Members h') h := by
  rw [setStage, owp_modify, setStage_see]
  refine ⟨.stage hconn fun q hq => ?_, hs.1.members.idle hs.1.holds hconn hplayer (hs.1.noted hj)⟩
  cases hq
  exact hplayer

/-- a later line of an accepted player -/
theorem owp_handleLine {conn : ℕ} {p : String} {r : Recv} (m : Members h) (hc : h.conns.lookup conn = some (.idle p)) :
    owp watcher enrolment (.starting conn (some p) false) (handleLine conn p r) (fun _ _ h' => Members h') h := by
  obtain ⟨hne, hhost, hj⟩ := m.named p conn hc
  have hs : Settled [.joined p conn] (.starting conn (some p) false) { h with conns := h.conns.setItem conn .busy } := by
    refine ⟨⟨m.busy, ⟨fun c hc' => ?_, fun q c hc' hq => ?_, fun q hq => ?_, by simp [Watch.starting],
      by simp [Watch.starting]⟩, rfl, by simpa using hj⟩, rfl⟩
    · cases hc'
      exact AList.lookup_setItem_self _ _ _
    · cases hc'
      rcases m.entry q conn hq with e | e <;> rw [hc] at e <;> cases e
      rfl
    · cases hq
      refine ⟨hne, hhost, fun c hc' => ?_, fun c hc' => by rw [m.mine p conn c hc hc']; rfl⟩
      have hc' : (h.conns.setItem conn .busy).lookup c = some (.idle p) := hc'
      rw [lookup_setStage] at hc'
      split_ifs at hc' with he
      · cases hc'
      · exact he (m.once p conn c hc hc').symm
  have hfinish : ∀ {g' : Watch} {h' : Host}, Settled [.joined p conn] g' h' → Keeps (.starting conn (some p) false) g' →
      owp watcher enrolment g' (finish conn (some p)) (fun _ _ h'' => Members h'') h' := fun hs' hk =>
    owp_finish hs' hk.1 (by rw [hk.2]; simp [Watch.starting, Option.filter, hne])
  unfold handleLine
  refine owp_begin rfl ?_
  split
  · rename_i env
    rw [owp_bind, owp_attempt]
    refine owp_mono ?_ (made_settled (everything_parts.handleEnvelope p (fun _ => by decide) (fun _ => by decide)
      (fun _ => by decide) fun _ => by decide) _ _ hs)
    rintro (e | u) g' h' ⟨hs', hk⟩
    · exact hfinish hs' hk
    · exact owp_idle hs' hk.1 hk.2 List.mem_cons_self
  · exact hfinish hs (.refl _)

theorem Members.registered {conn : ℕ} {p name : String} {manifest : CompatibilityManifest} (m : Members h)
    (hp : p ∉ h.peers) (hhost : p ≠ h.playerId) (hidle : ∀ c, h.conns.lookup c ≠ some (.idle p))
    (hbusy : h.conns.lookup conn = some .busy) : Members (h.registered p name manifest conn) := by
  have hconnOf := h.connOf_registered p name manifest conn
  refine ⟨fun q => ?_, fun hmem => ?_, fun q c hc => ?_, fun q c hc => ?_, m.once, fun q c c' hc hq => ?_, fun q c hc => ?_⟩
  · have hplayers := (HostSession.addPlayer_calm h.session p name manifest).players
    show q ∈ (h.session.addPlayer p name manifest).players ↔ q = h.playerId ∨ q ∈ h.peers.setItem p _
    rw [AList.mem_keys, hplayers, ← AList.mem_keys, AList.mem_setItem, AList.mem_setItem, m.players]
    tauto
  · exact (AList.mem_setItem.1 hmem).elim (fun e => hhost e.symm) m.host
  · rw [hconnOf] at hc
    split_ifs at hc
    · cases hc; exact Or.inr hbusy
    · exact m.entry q c hc
  · obtain ⟨hne, hhost', hj⟩ := m.named q c hc
    exact ⟨hne, hhost', List.mem_cons_of_mem _ hj⟩
  · rw [hconnOf] at hq
    split_ifs at hq with he
    · exact absurd (he ▸ hc) (hidle c)
    · exact m.mine q c c' hc hq
  · rw [hconnOf]
    rcases List.mem_cons.1 hc with e | hc
    · cases e; exact Or.inl (if_pos rfl)
    · rcases m.gone q c hc with hq | hq
      · left
        rw [if_neg ?_]
        · exact hq
        · rintro rfl
          rw [connOf, Option.map_eq_some_iff] at hq
          obtain ⟨x, hx, -⟩ := hq
          exact hp (AList.lookup_isSome.1 (hx ▸ rfl))
      · exact Or.inr (List.mem_cons_of_mem _ hq)

/-- a player who may join is registered, and answered -/
theorem owp_accept {conn : ℕ} {p name : String} {manifest : CompatibilityManifest} (hs : Settled L g h)
    (hfresh : g.fresh = true) (hconn : g.conn = some conn) (hplayer : g.player = some p) (hp : p ∉ h.peers) :
    owp watcher enrolment g (do join p name manifest conn; welcome conn p; pure true : HostM Bool)
      (fun _ g' h' => Settled [.joined p conn] g' h' ∧ Keeps g g') h := by
  obtain ⟨hne, hhost, hidle, hown⟩ := hs.1.holds.player p hplayer
  have hconnOf := h.connOf_registered p name manifest conn
  have hmay : May g h { g with todo := [] } (h.registered p name manifest conn) := by
    refine ⟨rfl, Or.inl rfl, rfl, List.Subset.refl _, rfl, List.suffix_cons _ _, fun q c hc hn => ?_,
      fun q c hc => ?_, fun _ => Or.inl rfl, fun _ _ hc => Or.inl hc⟩
    · rw [hconnOf] at hn
      split_ifs at hn with he
      · exact Or.inl (hown c (he ▸ hc))
      · exact absurd hc hn
    · rw [hconnOf] at hc
      split_ifs at hc with he
      · cases hc; exact Or.inr ⟨hfresh, he ▸ hplayer, hconn⟩
      · exact Or.inl hc
  have hholds : Holds { g with todo := [] } (h.registered p name manifest conn) := by
    refine ⟨hs.1.holds.busy, fun q c hc hq => ?_, fun q hq => ?_, by simp [hs.2], by simp [hs.1.waits]⟩
    · rw [hconnOf] at hq
      split_ifs at hq with he
      · exact he ▸ hplayer
      · exact hs.1.holds.own q c hc hq
    · obtain rfl : q = p := Option.some.inj (hq.symm.trans hplayer)
      refine ⟨hne, hhost, hidle, fun c hc => ?_⟩
      rw [hconnOf, if_pos rfl] at hc
      exact hconn.trans hc
  have hs' : Settled [.joined p conn] { g with todo := [] } (h.registered p name manifest conn) :=
    ⟨⟨hs.1.members.registered hp hhost hidle (hs.1.holds.busy conn hconn), hholds, hs.1.waits,
      by simp [registered, note]⟩, hs.2⟩
  rw [owp_bind, join, owp_modify, see_registered]
  refine ⟨hmay, ?_⟩
  rw [onward_ok, owp_bind]
  refine owp_mono ?_ (frame_settled (frame_welcome conn p) _ _ hs')
  rintro (e | u) g' h' ⟨hs'', hk⟩
  · exact ⟨hs'', hk⟩
  · exact ⟨hs'', hk⟩

theorem Settled.forget (hs : Settled L g h) : Settled [] g h :=
  ⟨⟨hs.1.members, hs.1.holds, hs.1.waits, List.nil_subset _⟩, hs.2⟩

theorem helloPlayer_hello {hello : Envelope} (htype : hello.type = .hello) :
    helloPlayer (.line (.ok hello)) = some hello.senderId := if_pos htype

/-- a hello is refused, or registers its player -/
theorem owp_greet {conn : ℕ} {hello : Envelope} (htype : hello.type = .hello) {gs : List Watch}
    (ho : OrderlyHello h gs (.line (.ok hello))) {k : Host} (hs : Settled [] g k)
    (hfresh : g.fresh = true) (hconn : g.conn = some conn)
    (hplayer : g.player = (some hello.senderId).filter (· ≠ "")) :
    owp watcher enrolment g (greet conn hello) (fun r g' h' => Settled [] g' h' ∧ Keeps g g' ∧
      (r = .ok true → g.player = some hello.senderId ∧ Settled [.joined hello.senderId conn] g' h')) k := by
  have hrefuse : ∀ reason, owp watcher enrolment g
      (do refuse conn hello.senderId reason; pure false : HostM Bool) (fun r g' h' => Settled [] g' h' ∧ Keeps g g' ∧
        (r = .ok true → g.player = some hello.senderId ∧ Settled [.joined hello.senderId conn] g' h')) k := by
    intro reason
    rw [owp_bind]
    refine owp_mono ?_ (frame_settled (frame_refuse conn hello.senderId reason) _ _ hs)
    rintro (e | u) g' h' ⟨hs', hkeeps⟩
    · exact ⟨hs', hkeeps, by simp⟩
    · exact ⟨hs', hkeeps, by simp⟩
  unfold greet
  rw [owp_bind, owp_ofExcept]
  rcases (do return (((← hello.payload.get "display_name").or (.str "Player")).toStr) : Except Exc String) with e | name
  · exact ⟨hs, .refl g, by simp⟩
  rw [onward_ok, owp_read]
  split_ifs with hdup
  · exact hrefuse _
  split
  · exact hrefuse _
  · exact hrefuse _
  · exact ⟨hs, .refl g, by simp⟩
  · rename_i manifest hmanifest
    have hne : hello.senderId ≠ "" := by
      intro he
      have hbad := ho htype
      rw [if_pos he] at hbad
      rw [he] at hmanifest
      rw [hmanifest] at hbad
      cases hbad
    have hp : g.player = some hello.senderId := by rw [hplayer]; simp [Option.filter, hne]
    refine owp_mono ?_ (owp_accept hs hfresh hconn hp fun hmem => hdup (Or.inl hmem))
    exact fun r g' h' ⟨hs', hkeeps⟩ => ⟨hs'.forget, hkeeps, fun _ => ⟨hp, hs'⟩⟩

/-- the id of an orderly hello is free -/
theorem OrderlyHello.unclaimed {gs : List Watch} {r : Recv} (ho : OrderlyHello h gs r) {p : String}
    (hp : (helloPlayer r).filter (· ≠ "") = some p) : p ≠ "" ∧ Unclaimed h gs p := by
  obtain ⟨hr, hne⟩ : helloPlayer r = some p ∧ p ≠ "" := by simpa [Option.filter_eq_some_iff] using hp
  refine ⟨hne, ?_⟩
  unfold helloPlayer at hr
  split at hr
  · split_ifs at hr with htype
    cases hr
    have hfree := ho htype
    rwa [if_neg hne] at hfree
  · cases hr

/-- the first line of a connection -/
theorem owp_handleHello {conn : ℕ} {r : Recv} (m : Members h) (hnew : h.conns.lookup conn = none) {gs : List Watch}
    (ho : OrderlyHello h gs r) :
    owp watcher enrolment (.starting conn ((helloPlayer r).filter (· ≠ "")) true) (handleHello conn r)
      (fun _ _ h' => Members h') h := by
  have hs : Settled [] (.starting conn ((helloPlayer r).filter (· ≠ "")) true)
      { h with conns := h.conns.setItem conn .busy } := by
    refine ⟨⟨m.busy, ⟨fun c hc => ?_, fun q c hc hq => ?_, fun q hq => ?_, by simp [Watch.starting],
      by simp [Watch.starting]⟩, rfl, List.nil_subset _⟩, rfl⟩
    · cases hc
      exact AList.lookup_setItem_self _ _ _
    · cases hc
      rcases m.entry q conn hq with e | e <;> rw [hnew] at e <;> cases e
    · obtain ⟨hne, hhost, hpeers, hidle, -⟩ := ho.unclaimed hq
      refine ⟨hne, hhost, fun c hc => ?_, fun c hc => ?_⟩
      · have hc : (h.conns.setItem conn .busy).lookup c = some (.idle q) := hc
        rw [lookup_setStage] at hc
        split_ifs at hc
        · cases hc
        · exact hidle _ (AList.mem_lookup_iff.1 hc) rfl
      · have hnone : h.connOf q = none := by rw [connOf, AList.lookup_eq_none.2 hpeers]; rfl
        have hc : h.connOf q = some c := hc
        rw [hnone] at hc
        cases hc
  have hfinish : ∀ {g' : Watch} {h' : Host}, Settled [] g' h' →
      Keeps (.starting conn ((helloPlayer r).filter (· ≠ "")) true) g' →
      owp watcher enrolment g' (finish conn (helloPlayer r)) (fun _ _ h'' => Members h'') h' := fun hs' hk =>
    owp_finish hs' hk.1 hk.2
  have hfirst : owp watcher enrolment (.starting conn ((helloPlayer r).filter (· ≠ "")) true) (firstMessage conn r)
      (fun res g' h' => Settled [] g' h' ∧ Keeps (.starting conn ((helloPlayer r).filter (· ≠ "")) true) g' ∧
        (res = .ok true → ∃ p, helloPlayer r = some p ∧ g'.player = some p ∧ Settled [.joined p conn] g' h'))
      { h with conns := h.conns.setItem conn .busy } := by
    unfold firstMessage
    split
    · rename_i hello
      split_ifs with htype
      · have hhello := helloPlayer_hello htype
        rw [hhello] at hs ⊢
        refine owp_mono ?_ (owp_greet htype ho hs rfl rfl rfl)
        rintro res g' h' ⟨hs', hk, hjoined⟩
        refine ⟨hs', hk, fun hr => ⟨_, rfl, ?_⟩⟩
        obtain ⟨hp, hs''⟩ := hjoined hr
        exact ⟨hk.2.trans hp, hs''⟩
      · exact ⟨hs, .refl _, by simp⟩
    · exact ⟨hs, .refl _, by simp⟩
  rw [handleHello]
  refine owp_begin rfl ?_
  rw [owp_bind, owp_attempt]
  refine owp_mono ?_ hfirst
  rintro res g' h' ⟨hs', hk, hjoined⟩
  rw [onward_ok]
  split
  · rename_i p hp
    obtain ⟨q, hq, hplayer, hs''⟩ := hjoined rfl
    obtain rfl : p = q := Option.some.inj (hp.symm.trans hq)
    exact owp_idle hs'' hk.1 hplayer List.mem_cons_self
  · exact hfinish hs' hk

/-- an event of the host's game -/
theorem owp_game {event : BridgeEvent} (m : Members h) :
    owp watcher enrolment (.starting none none false) (onGameEvent event) (fun _ _ h' => Members h') h := by
  have hs : Settled [] (.starting none none false) h :=
    ⟨⟨m, ⟨by simp [Watch.starting], by simp [Watch.starting], by simp [Watch.starting], by simp [Watch.starting],
      by simp [Watch.starting]⟩, rfl, List.nil_subset _⟩, rfl⟩
  refine owp_mono ?_ (made_settled (everything_parts.onGameEvent (fun _ => by decide) (fun _ => by decide)
    (fun _ => by decide) fun _ => by decide) _ _ hs)
  exact fun r g' h' hr => hr.1.1.members

end programs

/-! ## Runs -/

theorem starting_apart {conn : ℕ} {player : Option String} {fresh : Bool} {g : Watch} {h : Host} (hg : Holds g h)
    (hconn : h.conns.lookup conn ≠ some .busy) (hplayer : ∀ p, player = some p → g.player ≠ some p) :
    Apart (.starting conn player fresh) g := by
  refine ⟨fun c hc hg' => ?_, hplayer⟩
  cases hc
  exact hconn (hg.busy conn hg')

/-- a handler that may still register its player does so under an id that is free -/
theorem fresh_unclaimed {c : Run} {gs : List Watch} {act : HostAct} {g : Watch} {p : String} (ha : Orderly c gs act)
    (hm : mover watcher enabled c gs act = some g) (hfresh : g.fresh = true) (hp : g.player = some p) :
    Unclaimed c.state gs p := by
  obtain ⟨conn, r, as, rfl, hc, rfl⟩ := starts_of_fresh hm hfresh
  simp only [Orderly, hc] at ha
  exact (ha.unclaimed hp).2

/-- **The accord is kept.** Each handler keeps it, and in an orderly run no handler disturbs another. -/
theorem enrolment_upheld :
    Pool.Upholds watcher handle enabled enrolment Apart (fun _ _ h => Members h) Orderly where
  lawful := enrolment_lawful
  symm g g' h := ⟨fun conn hc hc' => h.1 conn hc' hc, fun p hp hp' => h.2 p hp' hp⟩
  wake _ _ _ h := h
  ends _ _ _ h := h
  answer c gs i a as g _ ha hg := ha g hg
  arrive c gs t as hk ha he := by
    have m : Members c.state := hk.state
    cases t with
    | game event =>
      refine ⟨owp_game m, fun g _ => ⟨?_, ?_⟩⟩
      · exact fun conn hc => (by cases hc)
      · exact fun p hp => (by cases hp)
    | line conn r =>
      simp only [Orderly] at ha
      rw [owp_line May.refl]
      cases hc : c.state.conns.lookup conn with
      | none =>
        rw [hc] at ha
        simp only [watcher, hc]
        refine ⟨owp_handleHello m hc ha, fun g hg => starting_apart (hk.hold_of_mem hg) (by simp [hc]) fun p hp => ?_⟩
        exact ((ha.unclaimed hp).2.2.2.2 g hg).1
      | some stage =>
        cases stage with
        | idle player =>
          simp only [watcher, hc]
          refine ⟨owp_handleLine m hc, fun g hg => starting_apart (hk.hold_of_mem hg) (by simp [hc]) fun p hp hp' => ?_⟩
          cases hp
          exact ((hk.hold_of_mem hg).player _ hp').2.2.1 conn hc
        | busy | ended => simp [enabled, hc] at he
  others c gs act g g' j last hk ha hm hj hne hap hg _ _ := by
    have hplayer : ∀ p, last.player = some p → g'.player ≠ some p := by
      intro p hp
      rcases hg.player with e | e
      · exact hap.2 p (e ▸ hp)
      · rw [e] at hp; cases hp
    refine ⟨⟨hg.playerId, hg.log, fun conn hc => ?_, fun p conn hc => ?_, fun p conn hc => ?_⟩,
      fun conn hc => hap.1 conn (hg.conn ▸ hc), hplayer⟩
    · exact (hg.stages conn).resolve_right fun hc' => hap.1 conn hc' hc
    · rcases hg.arrivals p conn hc with hold | ⟨hfresh, hp, hc'⟩
      · exact Or.inl hold
      · have hfree := (fresh_unclaimed ha hm hfresh hp).2.2.2 g' (List.mem_of_getElem? hj)
        exact Or.inr ⟨hfree.1, hfree.2, hap.1 conn hc'⟩
    · exact (hg.idles p conn hc).imp_right (hap.2 p)

/-- a new host has only its own player -/
theorem members_init (playerId displayName sessionId : String) (manifest : CompatibilityManifest) (nativeRequired : Bool)
    (commands : NetworkedCommandRouter) :
    Members (init playerId displayName sessionId manifest nativeRequired commands) := by
  have hconn : ∀ p, (init playerId displayName sessionId manifest nativeRequired commands).connOf p = none := fun _ => rfl
  refine ⟨fun p => ?_, by simp [init], fun p conn hc => ?_, fun p conn hc => ?_, fun p conn conn' hc => ?_,
    fun p conn conn' hc => ?_, fun p conn hj => ?_⟩
  · have hadd := (HostSession.addPlayer_calm { HostSession.init sessionId manifest nativeRequired with commands }
      playerId displayName manifest).players
    have hkeys : (init playerId displayName sessionId manifest nativeRequired commands).session.players.keys =
        [playerId] := (HostSession.updateReadiness_calm _ _ _).players.trans hadd
    rw [AList.mem_keys, hkeys, List.mem_singleton]
    exact (or_iff_left (AList.notMem_empty p)).symm
  · rw [hconn] at hc; cases hc
  · cases hc
  · cases hc
  · cases hc
  · cases hj

theorem Members.enrolled {h : Host} (m : Members h) : Enrolled h := by
  refine ⟨m.players, fun p conn hc he => ?_⟩
  rcases m.entry p conn hc with e | e <;> rw [he] at e <;> cases e

/-- what the accord says of the next step -/
theorem attributed_of_kept {c : Run} {gs : List Watch}
    (hk : Pool.Kept watcher enrolment Apart (fun _ _ h => Members h) c gs) {act : HostAct} (ha : Orderly c gs act) :
    Attributed c gs act := by
  refine ⟨fun p conn hc hn => ?_, fun conn env as he hc => ?_⟩
  · cases hm : mover watcher enabled c gs act with
    | none =>
      have hidle : Pool.step handle enabled c act = c := hk.idle hm
      rw [hidle] at hn
      exact absurd hc hn
    | some g =>
      obtain ⟨last, hg⟩ := (Pool.step_kept enrolment_upheld hk act ha).1 g hm
      exact ⟨g, rfl, hg.removals p conn hc hn⟩
  · subst he
    have m : Members c.state := hk.state
    simp only [Orderly, hc] at ha
    exact (m.gone env.senderId conn (m.named env.senderId conn hc).2.2).resolve_right (ha rfl)

/-- **Connection lifetime equals membership.** In every orderly run the players are the host and its peers, no ended
connection is registered, an entry goes only with its own connection or when a broadcast could not write to it, and
messages are handled for registered connections only. -/
theorem lifetime (playerId displayName sessionId : String) (manifest : CompatibilityManifest) (nativeRequired : Bool)
    (commands : NetworkedCommandRouter) {acts : List HostAct}
    (hacts : OrderlyRun (started playerId displayName sessionId manifest nativeRequired commands) acts) :
    Enrolled (runFrom (started playerId displayName sessionId manifest nativeRequired commands) acts).state ∧
      ∀ before act after, acts = before ++ act :: after →
        Attributed (runFrom (started playerId displayName sessionId manifest nativeRequired commands) before)
          (seen (started playerId displayName sessionId manifest nativeRequired commands) before) act := by
  have hinit : Pool.Kept watcher enrolment Apart (fun _ _ h => Members h)
      (started playerId displayName sessionId manifest nativeRequired commands) [] :=
    Pool.kept_init (members_init playerId displayName sessionId manifest nativeRequired commands)
  have hrun := Pool.run_kept enrolment_upheld hinit
  refine ⟨Members.enrolled (hrun acts hacts).state, fun before act after he => ?_⟩
  subst he
  obtain ⟨hbefore, hact⟩ := Pool.observed_append hacts
  exact attributed_of_kept (hrun before hbefore) hact.1

/-! ## What goes wrong -/

def ends (conn : ℕ) : HostAct := .arrive (.line conn .eof) []

/-- alice's socket fails during a broadcast -/
def unreachable : List HostAct :=
  [joins 1 "alice", goesOn, plays .gameHello (.obj []), .resume 0 ⟨false, 0⟩ [], goesOn]

/-- the old connection ends first -/
def returning : List HostAct := unreachable ++ [ends 1, goesOn, joins 2 "alice", goesOn]

theorem lifetime_returning : Enrolled (runFrom lanHost returning).state ∧
    (runFrom lanHost returning).state.connOf "alice" = some 2 := by
  have horderly : OrderlyRun lanHost returning := by decide +kernel
  rw [lanHost] at horderly
  exact ⟨(lifetime _ _ _ _ _ _ horderly).1, by decide +kernel⟩

/-- alice is back before her old connection ends -/
def overtaken : List HostAct := unreachable ++ [joins 2 "alice", goesOn]

/-- **The old connection's end removes the new entry.** -/
theorem reconnection_is_undone :
    ¬ Attributed (runFrom lanHost overtaken) (seen lanHost overtaken) (ends 1) := by
  intro h
  obtain ⟨g, hg, hown⟩ := h.removals "alice" 2 (by decide +kernel) (by decide +kernel)
  have hother : ∀ g ∈ mover watcher enabled (runFrom lanHost overtaken) (seen lanHost overtaken) (ends 1),
      ¬ (g.conn = some 2 ∨ ("alice", 2) ∈ g.failed) := by decide +kernel
  exact hother g hg hown

/-- **A dropped player is still heard.** -/
theorem dropped_is_heard :
    ¬ Attributed (runFrom lanHost unreachable) (seen lanHost unreachable) (sends 1 "alice" .ping (.obj [])) := by
  intro h
  have hentry := h.messages 1 _ [] rfl (by decide +kernel)
  revert hentry
  decide +kernel

/-- **A player without an id stays.** -/
theorem nameless_stays : ¬ Enrolled (runFrom lanHost [joins 1 "", goesOn, ends 1, goesOn]).state := by
  intro h
  exact h.ended "" 1 (by decide +kernel) (by decide +kernel)

end KerMP.Host
