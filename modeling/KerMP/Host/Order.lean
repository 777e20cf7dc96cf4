/-
The order of broadcasts (`KerMPHost.broadcast`, and the sequence check of `ClientRuntime._on_network_message`).

A broadcast takes its number when it starts, then writes to the peers one after another and waits for each socket. Another
broadcast may start meanwhile, and nothing keeps it behind the first one.

Results:
- `delivered_in_order`: in every run in which no broadcast comes to a peer before an earlier one that still has to, each
  connection is written the broadcasts in the order of their numbers, and no client that follows its connection drops a
  raw message for its sequence.
- `overtaken_update_is_lost`: a later view update overtakes an earlier one, which the client then drops.
-/
import KerMP.Host.Watch
import KerMP.Sequences

namespace KerMP.Host

open Py Coop
open Coro hiding pure get modify

/-! ## What is claimed of a run -/

/-- the numbers of the broadcasts written to a connection, newest first -/
def numbersTo (conn : ℕ) (log : List Out) : List ℤ :=
  log.filterMap fun
    | .wrote _ c env => if c = conn then numberOf env else none
    | _ => none

/-- the messages written to a connection, newest first -/
def writtenTo (conn : ℕ) (log : List Out) : List (MessageType × Json) :=
  log.filterMap fun
    | .wrote _ c env => if c = conn then some (env.type, env.payload) else none
    | _ => none

/-- each connection is written the broadcasts in the order of their numbers -/
def InOrder (log : List Out) : Prop := ∀ conn, (numbersTo conn log).Pairwise (· > ·)

/-- a raw message is new to every client that has only handled what was written to its connection before -/
def NeverStale (log : List Out) : Prop :=
  ∀ newer player conn env older, log = newer ++ .wrote player conn env :: older → env.type = .gameRawMessage →
    ∃ sequence, Client.rawSequence (env.type, env.payload) = some sequence ∧
      ∀ sha256 me disk acts, (∀ m ∈ Client.handled sha256 ⟨Client.init me disk, []⟩ acts, m ∈ writtenTo conn older) →
        (Client.runFrom sha256 ⟨Client.init me disk, []⟩ acts).state.lastGameSequence < sequence

/-! ## Broadcasts in turn -/

/-- no broadcast waits for a peer that an earlier one has still to come to -/
def InTurn (gs : List Watch) : Prop :=
  ∀ g ∈ gs, ∀ g' ∈ gs, g.number < g'.number → ∀ w ∈ g'.waits, w.1 ∉ g.todo

instance (gs : List Watch) : Decidable (InTurn gs) := inferInstanceAs (Decidable (∀ g ∈ gs, _))

/-- the broadcasts are in turn after this act -/
def KeepsTurn (c : Run) (gs : List Watch) (act : HostAct) : Prop := InTurn (Pool.watch watcher handle enabled c gs act)

instance (c : Run) (gs : List Watch) (act : HostAct) : Decidable (KeepsTurn c gs act) := by
  unfold KeepsTurn
  infer_instance

/-- the broadcasts are in turn at every moment of the run -/
def RunInTurn (c : Run) (acts : List HostAct) : Prop := Pool.Observed watcher handle enabled KeepsTurn c [] acts

instance (c : Run) (acts : List HostAct) : Decidable (RunInTurn c acts) :=
  Pool.decidableObserved watcher handle enabled c [] acts

/-! ## The accord -/

/-- a raw message was broadcast under this number with this sequence -/
def RawSent (log : List Out) (seq : ℕ) (sequence : ℤ) : Prop :=
  ∃ payload travel, .sending .gameRawMessage payload seq travel ∈ log ∧
    Client.rawSequence (.gameRawMessage, payload) = some sequence

/-- what has been written, and to whom more may be written -/
structure Numbered (h : Host) : Prop where
  order : InOrder h.log
  bound : ∀ conn, ∀ n ∈ numbersTo conn h.log, n ≤ h.seq
  known : ∀ p conn, h.connOf p = some conn → conn ∈ h.conns
  written : ∀ conn, numbersTo conn h.log ≠ [] → conn ∈ h.conns
  single : ∀ p p' conn, h.connOf p = some conn → h.connOf p' = some conn → p = p'
  counted : ∀ payload seq travel, .sending .gameRawMessage payload seq travel ∈ h.log → seq ≤ h.seq ∧
    ∃ k : ℕ, Client.rawSequence (.gameRawMessage, payload) = some (k : ℤ) ∧ 0 < k ∧ k ≤ h.gameSequence
  increasing : ∀ n k n' k', RawSent h.log n k → RawSent h.log n' k' → n < n' → k < k'
  copied : ∀ p conn env, .wrote p conn env ∈ h.log → env.type = .gameRawMessage →
    ∃ (n : ℕ) (travel : _), env.seq = .int n ∧ .sending .gameRawMessage env.payload n travel ∈ h.log

/-- the peers a broadcast has still to come to have only been written earlier ones -/
structure Ahead (g : Watch) (h : Host) : Prop where
  todo : ∀ p ∈ g.todo, ∀ conn, h.connOf p = some conn → ∀ n ∈ numbersTo conn h.log, n < g.number
  number : g.number ≤ h.seq
  live : g.todo ≠ [] → g.number ≠ 0

/-- a handler writes one envelope of its broadcast, and then waits for the socket -/
structure Proceeds (g : Watch) (h : Host) (g' : Watch) (h' : Host) : Prop where
  seq : h.seq ≤ h'.seq
  log : h.log <:+ h'.log
  conn : g'.conn = g.conn
  fresh : g'.fresh = g.fresh
  number : g'.number = g.number ∨ h.seq < g'.number
  arrivals : ∀ p conn, h'.connOf p = some conn → h.connOf p = some conn ∨ g.fresh = true ∧ g.conn = some conn
  writes : ∀ conn n, n ∈ numbersTo conn h'.log → n ∈ numbersTo conn h.log ∨
    ∃ p, g'.waits = some (p, conn) ∧ h'.connOf p = some conn ∧ n = g'.number
  stays : g.waits ≠ none → g' = g ∧ h' = h

/-- the others write earlier broadcasts only to the peers that this one has still to come to -/
structure Stays (g : Watch) (h h' : Host) : Prop where
  seq : h.seq ≤ h'.seq
  log : h.log <:+ h'.log
  todo : ∀ p ∈ g.todo, ∀ conn, h'.connOf p = some conn → ∀ n ∈ numbersTo conn h'.log,
    n < g.number ∨ h.connOf p = some conn ∧ n ∈ numbersTo conn h.log

def turns : Accord Host Answer Watch where
  inv := Numbered
  hold := Ahead
  guar := Proceeds
  rely := Stays
  answer _ _ _ := True

/-- not the same broadcast -/
def Distinct (g g' : Watch) : Prop := g.number = g'.number → g.number = 0

theorem Proceeds.refl (g : Watch) (h : Host) : Proceeds g h g h where
  seq := le_rfl
  log := List.suffix_rfl
  conn := rfl
  fresh := rfl
  number := Or.inl rfl
  arrivals _ _ hc := Or.inl hc
  writes _ _ hn := Or.inl hn
  stays _ := ⟨rfl, rfl⟩

theorem Proceeds.trans {g g' g'' : Watch} {a b c : Host} (p : Proceeds g a g' b) (p' : Proceeds g' b g'' c) :
    Proceeds g a g'' c := by
  refine ⟨p.seq.trans p'.seq, p.log.trans p'.log, p'.conn.trans p.conn, p'.fresh.trans p.fresh, ?_, fun q conn hc => ?_,
    fun conn n hn => ?_, fun hw => ?_⟩
  · rcases p'.number with e | h
    · rw [e]; exact p.number
    · exact Or.inr (lt_of_le_of_lt p.seq h)
  · rcases p'.arrivals q conn hc with h | ⟨hf, hconn⟩
    · exact p.arrivals q conn h
    · exact Or.inr ⟨p.fresh ▸ hf, p.conn ▸ hconn⟩
  · rcases p'.writes conn n hn with h | h
    · rcases p.writes conn n h with h | ⟨q, hw, hq, hnum⟩
      · exact Or.inl h
      · -- it waits for the socket it has written to
        obtain ⟨rfl, rfl⟩ := p'.stays (by rw [hw]; simp)
        exact Or.inr ⟨q, hw, hq, hnum⟩
    · exact Or.inr h
  · obtain ⟨rfl, rfl⟩ := p.stays hw
    exact p'.stays hw

theorem turns_lawful : turns.Lawful where
  rely_refl _ _ := ⟨le_rfl, List.suffix_rfl, fun _ _ _ hc _ hn => Or.inr ⟨hc, hn⟩⟩
  rely_trans g a b c h h' := by
    refine ⟨h.seq.trans h'.seq, h.log.trans h'.log, fun p hp conn hc n hn => ?_⟩
    rcases h'.todo p hp conn hc n hn with hlt | ⟨hc', hn'⟩
    · exact Or.inl hlt
    · exact h.todo p hp conn hc' n hn'
  hold_rely g s s' h hs := by
    refine ⟨fun p hp conn hc n hn => ?_, hs.number.trans h.seq, hs.live⟩
    rcases h.todo p hp conn hc n hn with hlt | ⟨hc', hn'⟩
    · exact hlt
    · exact hs.todo p hp conn hc' n hn'
  guar_refl := Proceeds.refl
  guar_trans _ _ _ _ _ _ := Proceeds.trans

/-! ## Steps beside the broadcasts -/

/-- an entry that is neither a broadcast's envelope nor about a raw message -/
def Out.beside : Out → Bool
  | .wrote _ _ env => (numberOf env).isNone && decide (env.type ≠ .gameRawMessage)
  | .sending type _ _ _ => decide (type ≠ .gameRawMessage)
  | _ => true

/-- a step that counts nothing, registers nobody and writes no broadcast -/
structure Beside (h h' : Host) : Prop where
  seq : h'.seq = h.seq
  gameSequence : h'.gameSequence = h.gameSequence
  entries : ∀ p conn, h'.connOf p = some conn → h.connOf p = some conn
  stages : ∀ conn ∈ h.conns, conn ∈ h'.conns
  log : ∃ os, h'.log = os ++ h.log ∧ ∀ o ∈ os, o.beside = true

theorem numbersTo_append (conn : ℕ) (os log : List Out) :
    numbersTo conn (os ++ log) = numbersTo conn os ++ numbersTo conn log := List.filterMap_append

theorem numbersTo_beside {os : List Out} (hos : ∀ o ∈ os, o.beside = true) (conn : ℕ) : numbersTo conn os = [] := by
  rw [numbersTo, List.filterMap_eq_nil_iff]
  intro o ho
  have hb := hos o ho
  cases o with
  | wrote player c env =>
    simp only [Out.beside, Bool.and_eq_true, Option.isNone_iff_eq_none] at hb
    simp [hb.1]
  | _ => rfl

section beside
variable {h h' : Host}

theorem Beside.numbers (b : Beside h h') (conn : ℕ) : numbersTo conn h'.log = numbersTo conn h.log := by
  obtain ⟨os, hlog, hos⟩ := b.log
  rw [hlog, numbersTo_append, numbersTo_beside hos, List.nil_append]

theorem Beside.suffix (b : Beside h h') : h.log <:+ h'.log :=
  let ⟨os, hlog, _⟩ := b.log
  ⟨os, hlog.symm⟩

theorem Beside.mem_sending (b : Beside h h') {payload : Json} {seq : ℕ} {travel : Option Travel.TravelTxn} :
    .sending .gameRawMessage payload seq travel ∈ h'.log ↔ .sending .gameRawMessage payload seq travel ∈ h.log := by
  obtain ⟨os, hlog, hos⟩ := b.log
  rw [hlog, List.mem_append]
  refine or_iff_right fun hmem => ?_
  simpa [Out.beside] using hos _ hmem

theorem Numbered.beside (m : Numbered h) (b : Beside h h') : Numbered h' := by
  have hcounted : ∀ n k, RawSent h'.log n k ↔ RawSent h.log n k := fun n k => by
    simp only [RawSent, b.mem_sending]
  refine ⟨fun conn => ?_, fun conn n hn => ?_, fun p conn hc => b.stages conn (m.known p conn (b.entries p conn hc)),
    fun conn hn => ?_, fun p p' conn hc hc' => m.single p p' conn (b.entries p conn hc) (b.entries p' conn hc'),
    fun payload seq travel hs => ?_, fun n k n' k' hk hk' => ?_, fun p conn env hw ht => ?_⟩
  · rw [b.numbers]; exact m.order conn
  · rw [b.numbers] at hn; rw [b.seq]; exact m.bound conn n hn
  · rw [b.numbers] at hn; exact b.stages conn (m.written conn hn)
  · rw [b.mem_sending] at hs
    rw [b.seq, b.gameSequence]
    exact m.counted payload seq travel hs
  · rw [hcounted] at hk hk'; exact m.increasing n k n' k' hk hk'
  · have hw : .wrote p conn env ∈ h.log := by
      obtain ⟨os, hlog, hos⟩ := b.log
      rw [hlog, List.mem_append] at hw
      refine hw.resolve_left fun hmem => ?_
      have hb := hos _ hmem
      simp [Out.beside, ht] at hb
    obtain ⟨n, travel, hseq, hs⟩ := m.copied p conn env hw ht
    exact ⟨n, travel, hseq, b.mem_sending.2 hs⟩

/-- the broadcast that is observed goes on, or is over -/
structure GoesOn (g g' : Watch) : Prop where
  conn : g'.conn = g.conn
  fresh : g'.fresh = g.fresh
  waits : g'.waits = g.waits
  number : g'.number = g.number
  todo : g'.todo = g.todo ∨ g'.todo = []

theorem GoesOn.refl (g : Watch) : GoesOn g g := ⟨rfl, rfl, rfl, rfl, Or.inl rfl⟩

theorem GoesOn.trans {a b c : Watch} (f : GoesOn a b) (f' : GoesOn b c) : GoesOn a c :=
  ⟨f'.conn.trans f.conn, f'.fresh.trans f.fresh, f'.waits.trans f.waits, f'.number.trans f.number,
    f'.todo.elim (fun e => e ▸ f.todo) Or.inr⟩

theorem goesOn_saw {o : Out} (ho : o.beside = true) (g : Watch) : GoesOn g (Watch.saw o g) := by
  cases o with
  | sending => exact .refl g
  | wrote player conn env =>
    simp only [Out.beside, Bool.and_eq_true, Option.isNone_iff_eq_none] at ho
    rw [Watch.saw, ho.1]
    exact ⟨rfl, rfl, rfl, rfl, Or.inr rfl⟩
  | left player travel =>
    rw [Watch.saw]
    split_ifs
    · exact ⟨rfl, rfl, rfl, rfl, Or.inr rfl⟩
    · exact ⟨rfl, rfl, rfl, rfl, Or.inr rfl⟩
    · exact ⟨rfl, rfl, rfl, rfl, Or.inr rfl⟩
  | _ => exact ⟨rfl, rfl, rfl, rfl, Or.inr rfl⟩

theorem Beside.goesOn (b : Beside h h') (g : Watch) : GoesOn g (watcher.see g h h') := by
  obtain ⟨os, hlog, hos⟩ := b.log
  rw [see_of_log hlog b.seq]
  clear hlog
  induction os with
  | nil => exact .refl g
  | cons o os ih =>
    rw [List.foldr_cons]
    exact (ih fun x hx => hos x (List.mem_cons_of_mem o hx)).trans (goesOn_saw (hos o List.mem_cons_self) _)

theorem Ahead.beside {g g' : Watch} (a : Ahead g h) (b : Beside h h') (f : GoesOn g g') : Ahead g' h' := by
  have htodo : ∀ p ∈ g'.todo, p ∈ g.todo := fun p hp => f.todo.elim (fun e => e ▸ hp) fun e => by rw [e] at hp; cases hp
  refine ⟨fun p hp conn hc n hn => ?_, ?_, fun hne => ?_⟩
  · rw [b.numbers] at hn
    rw [f.number]
    exact a.todo p (htodo p hp) conn (b.entries p conn hc) n hn
  · rw [f.number, b.seq]
    exact a.number
  · obtain ⟨p, hp⟩ := List.exists_mem_of_ne_nil _ hne
    rw [f.number]
    exact a.live (List.ne_nil_of_mem (htodo p hp))

theorem Proceeds.beside {g g' : Watch} (b : Beside h h') (f : GoesOn g g') (hw : g.waits = none) : Proceeds g h g' h' where
  seq := b.seq.ge
  log := b.suffix
  conn := f.conn
  fresh := f.fresh
  number := Or.inl f.number
  arrivals p conn hc := Or.inl (b.entries p conn hc)
  writes conn _ hn := Or.inl (b.numbers conn ▸ hn)
  stays hne := absurd hw hne

end beside

/-! ## Programs beside the broadcasts -/

theorem Does.gameSequence {l : Label} {h h' : Host} (d : Does l h h') (hv : l.topic ≠ .view) :
    h'.gameSequence = h.gameSequence := by
  cases d with
  | quiet q | readiness q => exact q.gameSequence
  | count => exact absurd rfl hv
  | ackReady _ player txnId epoch =>
    obtain ⟨c, os, e⟩ := ackReady_sets h player txnId epoch
    rw [e]
  | ackZone _ player txnId epoch =>
    obtain ⟨c, os, e⟩ := ackZone_sets h player txnId epoch
    rw [e]
  | accept _ requestId player payload e =>
    obtain ⟨r, -, -, rfl⟩ := HostSession.validateInteraction_ok e
    rfl
  | _ => rfl

theorem Aside.beside {T : List Topic} (hv : .view ∉ T) {h h' : Host} (d : Aside T h h') : Beside h h' := by
  obtain ⟨l, hl, ha, hd, os, hlog, hos⟩ := d
  have f := hd.frame ha hlog fun o ho => Out.still_of_aside (hos o ho)
  refine ⟨f.seq, hd.gameSequence fun e => hv (e ▸ hl), fun p conn hc => (f.conns p).symm.trans hc,
    fun conn hc => f.stages.symm ▸ hc, os, hlog, fun o ho => ?_⟩
  have hb := hos o ho
  cases o with
  | wrote | sending => cases hb
  | _ => rfl

theorem beside_note (h : Host) {o : Out} (ho : o.beside = true) : Beside h (h.note o) :=
  ⟨rfl, rfl, fun _ _ hc => hc, fun _ hc => hc, [o], rfl, by simpa using ho⟩

theorem beside_of_aside {α : Type} {p : HostM α} (hp : Guar (Aside [.session]) p) : Guar Beside p :=
  hp.mono fun _ _ d => d.beside (by decide)

theorem beside_read : Guar Beside (Coro.get : HostM Host) := beside_of_aside (aside_read (by decide))

theorem beside_drawUuid : Guar Beside drawUuid := beside_of_aside (aside_drawUuid (by decide))

theorem beside_post (player : String) (conn : ℕ) {type : MessageType} (ht : type ≠ .gameRawMessage) (payload : Payload)
    {seq : Option ℕ} (hseq : seq = none ∨ type = .snapshot) :
    Guar Beside (do let messageId ← drawUuid; write player conn type payload seq messageId; drain : HostM Unit) := by
  refine guar_post beside_drawUuid fun messageId => guar_modify fun h => beside_note h ?_
  have hnumber : ∀ payload sender,
      numberOf (Envelope.make type payload sender (seq.map fun n => (n : ℤ)) messageId) = none := by
    intro payload sender
    rcases hseq with rfl | rfl
    · exact ite_self none
    · rfl
  rw [Out.beside, hnumber]
  simpa [Envelope.make] using ht

theorem beside_sendPeer (player : String) {type : MessageType} (ht : type ≠ .gameRawMessage) (payload : Payload)
    {seq : Option ℕ} (hseq : seq = none ∨ type = .snapshot) : Guar Beside (sendPeer player type payload seq) :=
  guar_bind beside_read fun _ => guar_ifSome _ fun _ => beside_post _ _ ht _ hseq

theorem beside_refuse (conn : ℕ) (player reason : String) : Guar Beside (refuse conn player reason) :=
  beside_post _ _ (by decide) _ (Or.inl rfl)

theorem beside_welcome (conn : ℕ) (player : String) : Guar Beside (welcome conn player) :=
  guar_bind (beside_of_aside (aside_readClock (by decide))) fun _ => guar_bind beside_read fun _ =>
    guar_bind (guar_ofExcept _) fun _ => beside_post _ _ (by decide) _ (Or.inl rfl)

theorem beside_setStage (conn : ℕ) (stage : Stage) : Guar Beside (setStage conn stage) :=
  guar_modify fun _ => ⟨rfl, rfl, fun _ _ hc => hc, fun _ hc => AList.mem_setItem.2 (Or.inr hc), [], rfl, by simp⟩

theorem beside_closeWriter (conn : ℕ) : Guar Beside (closeWriter conn) :=
  guar_bind (guar_modify fun h => beside_note h rfl) fun _ => guar_bind guar_suspend fun _ => guar_pure ()

theorem beside_drop (player : String) : Guar Beside (drop player) := by
  refine guar_bind (guar_call fun h => ?_) fun peer => guar_ifSome peer fun peer => beside_closeWriter peer.conn
  refine ⟨rfl, rfl, fun p conn hc => ?_, fun _ hc => hc, [.left player h.session.travel.current], rfl, by simp [Out.beside]⟩
  rw [connOf_removed] at hc
  split_ifs at hc
  exact hc

theorem beside_dropAll (pids : List String) : Guar Beside (dropAll pids) := by
  induction pids with
  | nil => exact guar_pure ()
  | cons pid rest ih => exact guar_bind (beside_drop pid) fun _ => ih

theorem beside_finish (conn : ℕ) (player : Option String) : Guar Beside (finish conn player) := by
  refine guar_bind (guar_ifSome _ fun p => ?_) fun _ => guar_bind (beside_closeWriter conn) fun _ => beside_setStage conn _
  split_ifs
  · exact guar_pure ()
  · exact beside_drop p

/-! ## Broadcasts -/

/-- between two steps nothing is waited for -/
structure Poised (g : Watch) (h : Host) : Prop where
  numbered : Numbered h
  ahead : Ahead g h
  waits : g.waits = none

def Whatever (_ _ : Watch) : Prop := True

section programs
variable {g : Watch} {h : Host} {α : Type}

theorem poised_wake {a : Answer} {h' : Host} (hm : Numbered h') (ha : Ahead g h') : Poised (g.wake a) h' :=
  ⟨hm, ⟨ha.todo, ha.number, ha.live⟩, rfl⟩

theorem beside_poised {p : HostM α} (hp : Guar Beside p) : Behaves watcher turns Poised Whatever p := by
  refine behaves_of_guar (fun _ => trivial) (fun _ _ _ _ _ => trivial) (fun g h h' b hs => ?_) (fun g h hs => ?_) hp
  · have f := b.goesOn g
    exact ⟨.beside b f hs.waits, ⟨hs.numbered.beside b, hs.ahead.beside b f, f.waits.trans hs.waits⟩, trivial⟩
  · exact ⟨hs.numbered, hs.ahead, fun h' _ hm ha a _ => ⟨poised_wake hm ha, trivial⟩⟩

theorem turns_read {f : Host → HostM α} {Q : Except Exc α → Watch → Host → Prop} :
    owp watcher turns g (Coro.get >>= f) Q h ↔ owp watcher turns g (f h) Q h := owp_look Proceeds.refl

/-- the raw message of a broadcast has been noted -/
def Noted (type : MessageType) (payload : Payload) (seq : ℕ) (h : Host) : Prop :=
  type = .gameRawMessage → ∃ j travel, payload = .val j ∧ .sending .gameRawMessage j seq travel ∈ h.log

theorem Noted.later {type : MessageType} {payload : Payload} {seq : ℕ} {h' : Host} (hn : Noted type payload seq h)
    (hlog : h.log <:+ h'.log) : Noted type payload seq h' := fun ht =>
  let ⟨j, travel, hj, hmem⟩ := hn ht
  ⟨j, travel, hj, hlog.subset hmem⟩

/-- the peers that come after `pid` in a list without repetitions -/
theorem tail_dropWhile {pid : String} {rest todo : List String} (hs : pid :: rest <:+ todo) (hn : todo.Nodup) :
    (todo.dropWhile (· ≠ pid)).tail = rest := by
  obtain ⟨skipped, rfl⟩ := hs
  have hskip : ∀ p ∈ skipped, decide (p ≠ pid) = true := by
    intro p hp
    have hdisjoint := List.disjoint_of_nodup_append hn
    simpa using fun e : p = pid => hdisjoint hp (e ▸ List.mem_cons_self)
  rw [List.dropWhile_append_of_pos hskip, List.dropWhile_cons_of_neg (by simp), List.tail_cons]

/-- the write of a broadcast to one peer, up to the answer of its socket -/
theorem turns_reach {pid : String} {rest : List String} {peer : Peer} {type : MessageType} {payload : Payload} {seq : ℕ}
    {messageId : String} (hne : type ≠ .snapshot) (hs : Poised g h) (hnum : g.number = seq)
    (htodo : pid :: rest <:+ g.todo) (hnodup : g.todo.Nodup) (hnoted : Noted type payload seq h)
    (hpeer : h.peers.lookup pid = some peer) {f : Answer → HostM α} {Q : Except Exc α → Watch → Host → Prop}
    (hQ : ∀ a g' h', Poised g' h' → g'.number = seq → g'.todo = rest → h.log <:+ h'.log →
      owp watcher turns g' (f a) Q h') :
    owp watcher turns g (do write pid peer.conn type payload (some seq) messageId; let a ← suspend; f a : HostM α) Q h := by
  have hconn : h.connOf pid = some peer.conn := by rw [connOf, hpeer]; rfl
  have hmem : pid ∈ g.todo := htodo.subset List.mem_cons_self
  have hrest : pid ∉ rest := (List.nodup_cons.1 (htodo.sublist.nodup hnodup)).1
  set env := Envelope.make type (h.resolve payload) h.playerId (some (seq : ℤ)) messageId with henv
  have hnumber : numberOf env = some (seq : ℤ) := by simp [numberOf, henv, Envelope.make, hne]
  -- only the numbers of this connection change
  have hnumbers : ∀ conn, numbersTo conn (h.note (.wrote pid peer.conn env)).log =
      if peer.conn = conn then (seq : ℤ) :: numbersTo conn h.log else numbersTo conn h.log := by
    intro conn
    show numbersTo conn (.wrote pid peer.conn env :: h.log) = _
    by_cases he : peer.conn = conn <;> simp [numbersTo, he, hnumber]
  have hsending : ∀ payload' n travel, .sending .gameRawMessage payload' n travel ∈ (h.note (.wrote pid peer.conn env)).log ↔
      .sending .gameRawMessage payload' n travel ∈ h.log := by simp [note]
  have hnumbered : Numbered (h.note (.wrote pid peer.conn env)) := by
    refine ⟨fun conn => ?_, fun conn n hn => ?_, hs.numbered.known, fun conn hn => ?_, hs.numbered.single,
      fun payload' n travel hmem => hs.numbered.counted payload' n travel ((hsending _ _ _).1 hmem),
      fun n k n' k' hk hk' => ?_, fun p conn env' hw ht => ?_⟩
    · rw [hnumbers]
      split_ifs with he
      · refine List.pairwise_cons.2 ⟨fun n hn => ?_, hs.numbered.order conn⟩
        rw [← hnum]
        exact hs.ahead.todo pid hmem conn (he ▸ hconn) n hn
      · exact hs.numbered.order conn
    · rw [hnumbers] at hn
      split_ifs at hn
      · rcases List.mem_cons.1 hn with rfl | hn
        · exact_mod_cast hnum ▸ hs.ahead.number
        · exact hs.numbered.bound conn n hn
      · exact hs.numbered.bound conn n hn
    · rw [hnumbers] at hn
      split_ifs at hn with he
      · exact hs.numbered.known pid conn (he ▸ hconn)
      · exact hs.numbered.written conn hn
    · simp only [RawSent, hsending] at hk hk'
      exact hs.numbered.increasing n k n' k' hk hk'
    · rcases List.mem_cons.1 hw with e | hw
      · cases e
        obtain ⟨j, travel, hj, hsent⟩ := hnoted ht
        have hpayload : env.payload = j := by rw [henv, hj]; rfl
        exact ⟨seq, travel, rfl, (hsending _ _ _).2 (hpayload ▸ hsent)⟩
      · obtain ⟨n, travel, hseq, hsent⟩ := hs.numbered.copied p conn env' hw ht
        exact ⟨n, travel, hseq, (hsending _ _ _).2 hsent⟩
  have hahead : Ahead { g with waits := some (pid, peer.conn), todo := rest } (h.note (.wrote pid peer.conn env)) := by
    refine ⟨fun p hp conn hc n hn => ?_, hs.ahead.number, fun _ => hs.ahead.live (List.ne_nil_of_mem hmem)⟩
    rw [hnumbers] at hn
    split_ifs at hn with he
    · exact absurd (hs.numbered.single p pid conn hc (he ▸ hconn) ▸ hp) hrest
    · exact hs.ahead.todo p (htodo.subset (List.mem_cons_of_mem _ hp)) conn hc n hn
  have hsaw : Watch.saw (.wrote pid peer.conn env) g = { g with waits := some (pid, peer.conn), todo := rest } := by
    rw [Watch.saw, hnumber, tail_dropWhile htodo hnodup]
    rfl
  have hproceeds : Proceeds g h { g with waits := some (pid, peer.conn), todo := rest }
      (h.note (.wrote pid peer.conn env)) := by
    refine ⟨le_rfl, List.suffix_cons _ _, rfl, rfl, Or.inl rfl, fun p conn hc => Or.inl hc, fun conn n hn => ?_,
      fun hw => absurd hs.waits hw⟩
    rw [hnumbers] at hn
    split_ifs at hn with he
    · rcases List.mem_cons.1 hn with rfl | hn
      · exact Or.inr ⟨pid, by rw [he], he ▸ hconn, by rw [← hnum]⟩
      · exact Or.inl hn
    · exact Or.inl hn
  rw [owp_bind, write, owp_modify, see_note]
  show Proceeds g h (Watch.saw (.wrote pid peer.conn env) g) (h.note (.wrote pid peer.conn env)) ∧
    onward _ _ (.ok ()) (Watch.saw (.wrote pid peer.conn env) g) (h.note (.wrote pid peer.conn env))
  rw [hsaw]
  refine ⟨hproceeds, ?_⟩
  rw [onward_ok, owp_bind, owp_suspend]
  refine ⟨hnumbered, hahead, fun h' hr hm ha a _ => ?_⟩
  exact hQ a _ h' (poised_wake hm ha) hnum rfl ((List.suffix_cons _ _).trans hr.log)

theorem turns_writeEach {type : MessageType} (hne : type ≠ .snapshot) (payload : Payload) {seq : ℕ} (messageId : String)
    (size : ℕ) (pids : List String) (hs : Poised g h) (hnum : g.number = seq) (htodo : pids <:+ g.todo)
    (hnodup : g.todo.Nodup) (hnoted : Noted type payload seq h) :
    owp watcher turns g (writeEach type payload seq messageId size pids) (fun _ g' h' => Poised g' h') h := by
  -- the iteration goes on, or is cut short
  have hcheck : ∀ {β : Type} (f : Unit → HostM β) {g : Watch} {h : Host}, Poised g h →
      owp watcher turns g (f ()) (fun _ g' h' => Poised g' h') h →
      owp watcher turns g (checkSize type seq size >>= f) (fun _ g' h' => Poised g' h') h := by
    intro β f g h hs hf
    rw [owp_bind, checkSize, turns_read]
    split_ifs
    · exact hf
    · rw [owp_bind]
      refine owp_mono ?_ (beside_poised (guar_modify fun h => beside_note h rfl) _ _ hs)
      rintro (e | u) g' h' ⟨hs', -⟩
      · exact hs'
      · exact hs'
  induction pids generalizing g h with
  | nil =>
    rw [writeEach]
    exact hcheck _ hs hs
  | cons pid rest ih =>
    rw [writeEach]
    refine hcheck _ hs ?_
    rw [turns_read]
    split
    · exact ih hs hnum ((List.suffix_cons _ _).trans htodo) hnodup hnoted
    · rename_i peer hpeer
      refine turns_reach hne hs hnum htodo hnodup hnoted hpeer fun a g' h' hs' hnum' htodo' hlog => ?_
      have hrest : rest.Nodup := (List.nodup_cons.1 (htodo.sublist.nodup hnodup)).2
      rw [owp_bind]
      refine owp_mono ?_ (ih hs' hnum' (htodo' ▸ List.suffix_rfl) (htodo' ▸ hrest) (hnoted.later hlog))
      rintro (e | dead) g'' h'' hs''
      · exact hs''
      · exact hs''

/-- the sequence of a raw message that is to be broadcast is the latest -/
def Upcoming (type : MessageType) (payload : Payload) (h : Host) : Prop :=
  type = .gameRawMessage → ∃ j, payload = .val j ∧ j.truthy = true ∧
    Client.rawSequence (.gameRawMessage, j) = some (h.gameSequence : ℤ) ∧ 0 < h.gameSequence ∧
    ∀ n k, RawSent h.log n k → k < h.gameSequence

/-- the number is new -/
theorem turns_nextSeq {f : ℕ → HostM α} {Q : Except Exc α → Watch → Host → Prop} (hs : Poised g h)
    (hQ : Poised { g with number := h.seq + 1, todo := h.peers.keys } { h with seq := h.seq + 1 } →
      owp watcher turns { g with number := h.seq + 1, todo := h.peers.keys } (f (h.seq + 1)) Q { h with seq := h.seq + 1 }) :
    owp watcher turns g (nextSeq >>= f) Q h := by
  have hsee : watcher.see g h { h with seq := h.seq + 1 } = { g with number := h.seq + 1, todo := h.peers.keys } := by
    simp [watcher, Watch.see]
  have hnumbered : Numbered { h with seq := h.seq + 1 } := by
    refine { hs.numbered with bound := fun conn n hn => ?_, counted := fun payload seq travel hmem => ?_ }
    · have := hs.numbered.bound conn n hn
      push_cast
      omega
    · obtain ⟨hseq, hk⟩ := hs.numbered.counted payload seq travel hmem
      exact ⟨Nat.le_succ_of_le hseq, hk⟩
  rw [owp_bind, nextSeq, owp_call, hsee]
  refine ⟨⟨Nat.le_succ _, List.suffix_rfl, rfl, rfl, Or.inr (Nat.lt_succ_self _), fun p conn hc => Or.inl hc,
    fun conn n hn => Or.inl hn, fun hw => absurd hs.waits hw⟩, hQ ⟨hnumbered, ⟨fun p _ conn _ n hn => ?_, le_rfl,
    fun _ => Nat.succ_ne_zero _⟩, hs.waits⟩⟩
  have := hs.numbered.bound conn n hn
  push_cast
  omega

/-- a broadcast starts: what it is going to send is noted -/
theorem numbered_sending {type : MessageType} {payload : Payload} (travel : Option Travel.TravelTxn) (m : Numbered h)
    (hup : Upcoming type payload h) :
    Numbered (h.note (.sending type (h.resolve payload.orEmpty) h.seq travel)) ∧
      Noted type payload.orEmpty h.seq (h.note (.sending type (h.resolve payload.orEmpty) h.seq travel)) := by
  by_cases ht : type = .gameRawMessage
  swap
  · exact ⟨m.beside (beside_note h (by simpa [Out.beside] using ht)), fun he => absurd he ht⟩
  subst ht
  obtain ⟨j, rfl, htruthy, hsequence, hpos, hlatest⟩ := hup rfl
  have hor : (Payload.val j).orEmpty = .val j := by rw [Payload.orEmpty, Json.or, if_pos htruthy]
  rw [hor]
  have hnumbers : ∀ conn, numbersTo conn (h.note (.sending .gameRawMessage j h.seq travel)).log = numbersTo conn h.log :=
    fun _ => rfl
  have hcounted : ∀ n k, RawSent (h.note (.sending .gameRawMessage j h.seq travel)).log n k →
      RawSent h.log n k ∨ n = h.seq ∧ k = h.gameSequence := by
    rintro n k ⟨payload', travel', hmem, hk⟩
    rcases List.mem_cons.1 hmem with e | hmem
    · cases e
      exact Or.inr ⟨rfl, Option.some.inj (hk.symm.trans hsequence)⟩
    · exact Or.inl ⟨payload', travel', hmem, hk⟩
  have hbound : ∀ n k, RawSent h.log n k → n ≤ h.seq := fun n k ⟨payload', travel', hmem, _⟩ =>
    (m.counted payload' n travel' hmem).1
  refine ⟨{ m with counted := fun payload' n travel' hmem => ?_, increasing := fun n k n' k' hk hk' hlt => ?_,
                   copied := fun p conn env hw ht => ?_ }, fun _ => ⟨j, travel, rfl, List.mem_cons_self⟩⟩
  · rcases List.mem_cons.1 hmem with e | hmem
    · cases e
      exact ⟨le_rfl, h.gameSequence, hsequence, hpos, le_rfl⟩
    · exact m.counted payload' n travel' hmem
  · rcases hcounted n k hk with hk | ⟨rfl, rfl⟩ <;> rcases hcounted n' k' hk' with hk' | ⟨rfl, rfl⟩
    · exact m.increasing n k n' k' hk hk' hlt
    · exact hlatest n k hk
    · exact absurd (hbound n' k' hk') (by omega)
    · omega
  · have hw : .wrote p conn env ∈ h.log := (List.mem_cons.1 hw).resolve_left (by simp)
    obtain ⟨n, travel', hseq, hsent⟩ := m.copied p conn env hw ht
    exact ⟨n, travel', hseq, List.mem_cons_of_mem _ hsent⟩

/-- a broadcast that has its number -/
theorem turns_start {type : MessageType} (hne : type ≠ .snapshot) (payload : Payload) (hs : Poised g h)
    (hup : Upcoming type payload h) (hnum : g.number = h.seq) (htodo : g.todo = h.peers.keys) :
    owp watcher turns g
      (do
        let messageId ← drawUuid
        let k ← Coro.get
        emit (.sending type (k.resolve payload.orEmpty) h.seq k.session.travel.current)
        let dead ← writeEach type payload.orEmpty h.seq messageId k.peers.size k.peers.keys
        dropAll dead : HostM Unit) (fun _ g' h' => Poised g' h') h := by
  -- drawing the id leaves the observer as it is
  have hquiet : Beside h { h with uuids := h.uuids + 1 } :=
    ⟨rfl, rfl, fun _ _ hc => hc, fun _ hc => hc, [], rfl, by simp⟩
  have hsee : watcher.see g h { h with uuids := h.uuids + 1 } = g := see_unlogged rfl rfl g
  have hs₁ : Poised g { h with uuids := h.uuids + 1 } :=
    ⟨hs.numbered.beside hquiet, hs.ahead.beside hquiet (.refl g), hs.waits⟩
  rw [owp_bind, drawUuid, owp_call, hsee]
  refine ⟨.beside hquiet (.refl g) hs.waits, ?_⟩
  rw [onward_ok, turns_read, owp_bind, emit, owp_modify, see_note]
  obtain ⟨hnumbered, hnoted⟩ := numbered_sending h.session.travel.current hs₁.numbered hup
  have hs₂ : Poised g _ := ⟨hnumbered, ⟨hs.ahead.todo, hs.ahead.number, hs.ahead.live⟩, hs.waits⟩
  refine ⟨⟨le_rfl, List.suffix_cons _ _, rfl, rfl, Or.inl rfl, fun p conn hc => Or.inl hc, fun conn n hn => Or.inl hn,
    fun hw => absurd hs.waits hw⟩, ?_⟩
  rw [onward_ok, owp_bind]
  refine owp_mono ?_ (turns_writeEach hne payload.orEmpty _ _ _ hs₂ hnum (htodo ▸ List.suffix_rfl)
    (htodo ▸ h.peers.nodupKeys) hnoted)
  rintro (e | dead) g' h' hs'
  · exact hs'
  · exact owp_mono (fun _ _ _ hr => hr.1) (beside_poised (beside_dropAll dead) _ _ hs')

/-- a broadcast writes its number to peers that have only got earlier ones -/
theorem turns_broadcast {type : MessageType} (hne : type ≠ .snapshot) (payload : Payload) (hs : Poised g h)
    (hup : Upcoming type payload h) :
    owp watcher turns g (broadcastPeers type payload) (fun _ g' h' => Poised g' h') h := by
  rw [broadcastPeers]
  exact turns_nextSeq hs fun hs₁ => turns_start hne payload hs₁ hup rfl rfl

/-! ## Handlers -/

/-- every topic but that of raw messages -/
def besidesView : List Topic :=
  [.session, .member, .readiness, .travel, .commit, .resume, .lock, .build, .apply, .request, .status, .clock]

theorem upcoming_of_ne {type : MessageType} (ht : type ≠ .gameRawMessage) (payload : Payload) : Upcoming type payload h :=
  fun he => absurd he ht

theorem ne_raw_of_topic {type : MessageType} (ht : type.topic ∈ besidesView) : type ≠ .gameRawMessage := by
  rintro rfl
  revert ht
  decide

theorem rawSequence_rawPayload (msgId : ℤ) (sequence : ℕ) (raw : Base64.Bytes) (epoch : Option ℤ) :
    Client.rawSequence (.gameRawMessage, rawPayload msgId sequence raw epoch) = some (sequence : ℤ) := rfl

/-- a view update takes the next sequence and is broadcast -/
theorem poised_gameRawMessage (payload : Json) : Behaves watcher turns Poised Whatever (gameRawMessage payload) := by
  intro g h hs
  unfold gameRawMessage
  split
  · exact beside_poised (beside_of_aside (guar_bind (aside_bridgeSend (by decide) _) fun _ => guar_pure ())) _ _ hs
  rename_i msgId raw _
  have hnumbered : Numbered { h with gameSequence := h.gameSequence + 1, viewUpdatesSent := h.viewUpdatesSent + 1,
                                     lastViewUpdateSize := raw.length, lastViewUpdateMsgId := some msgId } := by
    refine { hs.numbered with counted := fun payload seq travel hmem => ?_ }
    obtain ⟨hseq, k, hk, hpos, hle⟩ := hs.numbered.counted payload seq travel hmem
    exact ⟨hseq, k, hk, hpos, Nat.le_succ_of_le hle⟩
  have hup : ∀ epoch, Upcoming .gameRawMessage (.val (rawPayload msgId (h.gameSequence + 1) raw epoch))
      { h with gameSequence := h.gameSequence + 1, viewUpdatesSent := h.viewUpdatesSent + 1,
               lastViewUpdateSize := raw.length, lastViewUpdateMsgId := some msgId } := by
    refine fun epoch _ => ⟨_, rfl, rfl, rawSequence_rawPayload _ _ _ _, Nat.succ_pos _, fun n k hk => ?_⟩
    obtain ⟨payload, travel, hmem, hsequence⟩ := hk
    obtain ⟨-, k', hk', -, hle⟩ := hs.numbered.counted payload n travel hmem
    rw [hk'] at hsequence
    cases hsequence
    push_cast
    omega
  have hsee : watcher.see g h { h with gameSequence := h.gameSequence + 1, viewUpdatesSent := h.viewUpdatesSent + 1,
                                       lastViewUpdateSize := raw.length, lastViewUpdateMsgId := some msgId } = g :=
    see_unlogged rfl rfl g
  rw [owp_bind, nextGameSequence, owp_call, hsee]
  refine ⟨⟨le_rfl, List.suffix_rfl, rfl, rfl, Or.inl rfl, fun p conn hc => Or.inl hc, fun conn n hn => Or.inl hn,
    fun hw => absurd hs.waits hw⟩, ?_⟩
  rw [onward_ok, turns_read]
  refine owp_mono (fun _ _ _ hr => ⟨hr, trivial⟩) (turns_broadcast (by decide) _ ⟨hnumbered, ?_, hs.waits⟩ (hup _))
  exact ⟨hs.ahead.todo, hs.ahead.number, hs.ahead.live⟩

theorem besidesView_parts : Parts besidesView fun _ p => Behaves watcher turns Poised Whatever p :=
  .of_topics (by decide) (Or.inr poised_gameRawMessage)

theorem made_poised {p : HostM α} (hp : Made besidesView (fun _ p => Behaves watcher turns Poised Whatever p) p) :
    Behaves watcher turns Poised Whatever p := by
  refine hp.behaves (fun _ _ _ _ _ => trivial) (fun _ _ h => h)
    (fun h => beside_poised (h.mono fun _ _ d => d.beside (by decide)))
    (fun player type payload seq ht hseq => beside_poised (beside_sendPeer player (ne_raw_of_topic ht) payload hseq)) ?_
  intro type payload ht hne g h hs
  exact owp_mono (fun _ _ _ hr => ⟨hr, trivial⟩)
    (turns_broadcast hne payload hs (upcoming_of_ne (ne_raw_of_topic ht) payload))

theorem poised_start (m : Numbered h) (conn : Option ℕ) (player : Option String) (fresh : Bool) :
    Poised (.starting conn player fresh) h :=
  ⟨m, ⟨by simp [Watch.starting], Nat.zero_le _, by simp [Watch.starting]⟩, rfl⟩

/-- a later line of an accepted player -/
theorem poised_handleLine (conn : ℕ) (player : String) (r : Recv) :
    Behaves watcher turns Poised Whatever (handleLine conn player r) := by
  refine behaves_bind (fun _ _ _ _ _ => trivial) (beside_poised (beside_setStage conn _)) fun _ => ?_
  split
  · refine behaves_bind (fun _ _ _ _ _ => trivial)
      (behaves_attempt (made_poised (besidesView_parts.handleEnvelope player (fun _ => by decide)
        (fun _ => by decide) (fun _ => by decide) fun _ => by decide))) fun handled => ?_
    rcases handled with e | u
    · exact beside_poised (beside_finish conn _)
    · exact beside_poised (beside_setStage conn _)
  · exact beside_poised (beside_finish conn _)

/-- a connection without an entry gets one -/
theorem Numbered.registered {conn : ℕ} {p name : String} {manifest : CompatibilityManifest} (m : Numbered h)
    (hnew : ∀ q, h.connOf q ≠ some conn) (hknown : conn ∈ h.conns) : Numbered (h.registered p name manifest conn) := by
  have hconnOf : ∀ q c, (h.registered p name manifest conn).connOf q = some c → q = p ∧ c = conn ∨ h.connOf q = some c := by
    intro q c hc
    rw [connOf_registered] at hc
    split_ifs at hc with he
    · exact Or.inl ⟨he, (Option.some.inj hc).symm⟩
    · exact Or.inr hc
  have hsending : ∀ payload seq travel,
    .sending .gameRawMessage payload seq travel ∈ (h.registered p name manifest conn).log ↔
      .sending .gameRawMessage payload seq travel ∈ h.log := by simp [Host.registered, note]
  refine ⟨m.order, m.bound, fun q c hc => ?_, m.written, fun q q' c hc hc' => ?_,
    fun payload seq travel hs => m.counted payload seq travel ((hsending _ _ _).1 hs), fun n k n' k' hk hk' => ?_,
    fun q c env hw ht => ?_⟩
  · rcases hconnOf q c hc with ⟨-, rfl⟩ | hc
    · exact hknown
    · exact m.known q c hc
  · rcases hconnOf q c hc with ⟨hq, rfl⟩ | hold <;> rcases hconnOf q' _ hc' with ⟨hq', he⟩ | hold'
    · exact hq.trans hq'.symm
    · exact absurd hold' (hnew q')
    · exact absurd (he ▸ hold) (hnew q)
    · exact m.single q q' c hold hold'
  · simp only [RawSent, hsending] at hk hk'
    exact m.increasing n k n' k' hk hk'
  · have hw : .wrote q c env ∈ h.log := (List.mem_cons.1 hw).resolve_left (by simp)
    obtain ⟨n, travel, hseq, hsent⟩ := m.copied q c env hw ht
    exact ⟨n, travel, hseq, (hsending _ _ _).2 hsent⟩

/-- a hello is refused, or registers its connection, which is new -/
theorem turns_greet {conn : ℕ} {hello : Envelope} (hs : Poised g h) (hfresh : g.fresh = true) (hconn : g.conn = some conn)
    (hnew : ∀ q, h.connOf q ≠ some conn) (hknown : conn ∈ h.conns) :
    owp watcher turns g (greet conn hello) (fun _ g' h' => Poised g' h') h := by
  have hbeside : ∀ {β : Type} {p : HostM β} {g : Watch} {h : Host}, Poised g h → Guar Beside p →
      owp watcher turns g p (fun _ g' h' => Poised g' h') h := fun hs hp =>
    owp_mono (fun _ _ _ hr => hr.1) (beside_poised hp _ _ hs)
  have hrefuse : ∀ reason, owp watcher turns g (do refuse conn hello.senderId reason; pure false : HostM Bool)
      (fun _ g' h' => Poised g' h') h := fun reason =>
    hbeside hs (guar_bind (beside_refuse conn _ reason) fun _ => guar_pure false)
  unfold greet
  rw [owp_bind, owp_ofExcept]
  rcases (do return (((← hello.payload.get "display_name").or (.str "Player")).toStr) : Except Exc String) with e | name
  · exact hs
  rw [onward_ok, turns_read]
  split_ifs
  · exact hrefuse _
  split
  · exact hrefuse _
  · exact hrefuse _
  · exact hs
  · rename_i manifest _
    have hproceeds : Proceeds g h { g with todo := [] } (h.registered hello.senderId name manifest conn) := by
      refine ⟨le_rfl, List.suffix_cons _ _, rfl, rfl, Or.inl rfl, fun p c hc => ?_, fun c n hn => Or.inl hn,
        fun hw => absurd hs.waits hw⟩
      rw [connOf_registered] at hc
      split_ifs at hc
      · cases hc; exact Or.inr ⟨hfresh, hconn⟩
      · exact Or.inl hc
    rw [owp_bind, join, owp_modify, see_registered]
    refine ⟨hproceeds, hbeside ?_ (guar_bind (beside_welcome conn _) fun _ => guar_pure true)⟩
    exact ⟨hs.numbered.registered hnew hknown, ⟨by simp, hs.ahead.number, by simp⟩, hs.waits⟩

/-- the first line of a connection -/
theorem turns_handleHello {conn : ℕ} {player : Option String} (r : Recv) (m : Numbered h)
    (hnew : h.conns.lookup conn = none) :
    owp watcher turns (.starting conn player true) (handleHello conn r) (fun _ g' h' => Poised g' h') h := by
  have hnone : ∀ q, h.connOf q ≠ some conn := fun q hc => AList.lookup_eq_none.1 hnew (m.known q conn hc)
  have hstage : Beside h { h with conns := h.conns.setItem conn .busy } :=
    ⟨rfl, rfl, fun _ _ hc => hc, fun _ hc => AList.mem_setItem.2 (Or.inr hc), [], rfl, by simp⟩
  have hsee : watcher.see (.starting conn player true) h { h with conns := h.conns.setItem conn .busy } =
      .starting conn player true := see_unlogged rfl rfl _
  have hs := poised_start (m.beside hstage) (some conn) player true
  have hfirst : owp watcher turns (.starting conn player true) (firstMessage conn r) (fun _ g' h' => Poised g' h')
      { h with conns := h.conns.setItem conn .busy } := by
    unfold firstMessage
    split
    · split_ifs
      · exact turns_greet hs rfl rfl hnone (AList.mem_setItem.2 (Or.inl rfl))
      · exact hs
    · exact hs
  rw [handleHello, owp_bind, setStage, owp_modify, hsee]
  refine ⟨.beside hstage (.refl _) rfl, ?_⟩
  rw [onward_ok, owp_bind, owp_attempt]
  refine owp_mono ?_ hfirst
  intro res g' h' hs'
  rw [onward_ok]
  split
  · exact owp_mono (fun _ _ _ hr => hr.1) (beside_poised (beside_setStage conn _) _ _ hs')
  · exact owp_mono (fun _ _ _ hr => hr.1) (beside_poised (beside_finish conn _) _ _ hs')

end programs

/-! ## Runs -/

/-- a connection that may still register its player is new -/
theorem fresh_unknown {c : Run} {gs : List Watch} {act : HostAct} {g : Watch} {conn : ℕ}
    (hm : Pool.mover watcher enabled c gs act = some g) (hfresh : g.fresh = true) (hconn : g.conn = some conn) :
    conn ∉ c.state.conns := by
  obtain ⟨conn', r, as, -, hc, rfl⟩ := starts_of_fresh hm hfresh
  cases hconn
  exact AList.lookup_eq_none.1 hc

theorem turns_upheld :
    Pool.Upholds watcher handle enabled turns Distinct (fun _ g h => Poised g h) KeepsTurn where
  lawful := turns_lawful
  symm g g' h e := e.trans (h e.symm)
  wake _ _ _ h := h
  ends _ _ _ h := h.numbered
  answer _ _ _ _ _ _ _ _ _ := trivial
  arrive c gs t as hk ha he := by
    have m : Numbered c.state := hk.state
    cases t with
    | game event =>
      refine ⟨?_, fun g _ _ => rfl⟩
      exact owp_mono (fun _ _ _ hr => hr.1) (made_poised (besidesView_parts.onGameEvent (fun _ => by decide)
        (fun _ => by decide) (fun _ => by decide) fun _ => by decide) _ _
        (poised_start m none none false))
    | line conn r =>
      rw [owp_line Proceeds.refl]
      cases hc : c.state.conns.lookup conn with
      | none =>
        simp only [watcher, hc]
        exact ⟨turns_handleHello r m hc, fun g _ _ => rfl⟩
      | some stage =>
        cases stage with
        | idle player =>
          simp only [watcher, hc]
          refine ⟨?_, fun g _ _ => rfl⟩
          exact owp_mono (fun _ _ _ hr => hr.1) (poised_handleLine conn player r _ _ (poised_start m _ _ _))
        | busy | ended => simp [enabled, hc] at he
  others c gs act g g' j last hk ha hm hj hne hap hp hinv hl := by
    have m : Numbered c.state := hk.state
    have m' : Numbered (Pool.step handle enabled c act).state := hinv
    have hg' : Ahead g' c.state := hk.hold_of_mem (List.mem_of_getElem? hj)
    have hdistinct : Distinct last g' := by
      intro e
      rcases hp.number with h | h
      · exact h.trans (hap (h.symm.trans e))
      · have := hg'.number
        omega
    refine ⟨⟨hp.seq, hp.log, fun p hmem conn hc n hn => ?_⟩, hdistinct⟩
    rcases hp.writes conn n hn with hold | ⟨q, hwaits, hq, rfl⟩
    · rcases hp.arrivals p conn hc with hold' | ⟨hfresh, hconn⟩
      · exact Or.inr ⟨hold', hold⟩
      · exact absurd (m.written conn (List.ne_nil_of_mem hold)) (fresh_unknown hm hfresh hconn)
    · -- the handler that has run waits for this peer, so it does not overtake
      obtain rfl : p = q := m'.single p q conn hc hq
      rcases hl with hl | ⟨r, hr⟩
      · have hturn := ha g' (Pool.mem_watch hj hne) last hl
        have hlt : ¬ g'.number < last.number := fun h => hturn h _ hwaits hmem
        have hpos := hg'.live (List.ne_nil_of_mem hmem)
        have hneq : last.number ≠ g'.number := fun e => hpos (e ▸ hdistinct e)
        left
        omega
      · rw [hr.waits] at hwaits
        cases hwaits

theorem numbered_init (playerId displayName sessionId : String) (manifest : CompatibilityManifest) (nativeRequired : Bool)
    (commands : NetworkedCommandRouter) :
    Numbered (init playerId displayName sessionId manifest nativeRequired commands) := by
  have hlog : (init playerId displayName sessionId manifest nativeRequired commands).log = [] := rfl
  have hconn : ∀ p, (init playerId displayName sessionId manifest nativeRequired commands).connOf p = none := fun _ => rfl
  refine ⟨fun conn => List.Pairwise.nil, fun conn n hn => absurd hn List.not_mem_nil, fun p conn hc => ?_,
    fun conn hn => absurd rfl hn, fun p p' conn hc => ?_, fun payload seq travel hs => absurd hs List.not_mem_nil,
    fun n k n' k' hk => ?_, fun p conn env hw => absurd hw List.not_mem_nil⟩
  · rw [hconn] at hc; cases hc
  · rw [hconn] at hc; cases hc
  · obtain ⟨payload, travel, hmem, -⟩ := hk
    exact absurd hmem List.not_mem_nil

theorem mem_writtenTo {conn : ℕ} {log : List Out} {m : MessageType × Json} :
    m ∈ writtenTo conn log ↔ ∃ player env, .wrote player conn env ∈ log ∧ m = (env.type, env.payload) := by
  simp only [writtenTo, List.mem_filterMap]
  constructor
  · rintro ⟨o, ho, hm⟩
    cases o with
    | wrote player c env =>
      simp only [Option.ite_none_right_eq_some, Option.some.injEq] at hm
      obtain ⟨rfl, rfl⟩ := hm
      exact ⟨player, env, ho, rfl⟩
    | _ => cases hm
  · rintro ⟨player, env, ho, rfl⟩
    exact ⟨_, ho, by simp⟩

theorem mem_numbersTo {player : String} {conn : ℕ} {env : Envelope} {log : List Out} {n : ℤ}
    (h : .wrote player conn env ∈ log) (hn : numberOf env = some n) : n ∈ numbersTo conn log :=
  List.mem_filterMap.2 ⟨_, h, by simp [hn]⟩

/-- what is written in order is never stale to the client -/
theorem Numbered.neverStale {h : Host} (m : Numbered h) : NeverStale h.log := by
  intro newer player conn env older hlog ht
  have hnumber : ∀ (env : Envelope) (n : ℕ), env.type = .gameRawMessage → env.seq = .int n →
      numberOf env = some (n : ℤ) := by
    intro env n ht hn
    simp [numberOf, ht, hn]
  have holder : older ⊆ h.log := by
    rw [hlog]
    exact fun o ho => List.mem_append_right _ (List.mem_cons_of_mem _ ho)
  obtain ⟨n, travel, hn, hsent⟩ := m.copied player conn env (hlog ▸ List.mem_append_right _ List.mem_cons_self) ht
  obtain ⟨-, k, hk, hpos, -⟩ := m.counted _ _ _ hsent
  rw [ht]
  refine ⟨k, hk, fun sha256 me disk acts hhandled => ?_⟩
  have hlater : Pool.AllLater Client.SameLast (⟨Client.init me disk, []⟩ : Client.Run) :=
    fun x hx => absurd hx List.not_mem_nil
  rcases Client.last_run sha256 hlater acts with e | ⟨message, hm, hlast⟩
  · rw [e]
    exact Int.natCast_pos.2 hpos
  -- the last update it took was written before, with a smaller number
  obtain ⟨player', env', hw, rfl⟩ := mem_writtenTo.1 (hhandled message hm)
  have ht' : env'.type = .gameRawMessage := by
    by_contra hne
    rw [Client.rawSequence_of_ne hne] at hlast
    cases hlast
  obtain ⟨n', travel', hn', hsent'⟩ := m.copied player' conn env' (holder hw) ht'
  have hlt : (n' : ℤ) < n := by
    have horder := m.order conn
    rw [hlog, numbersTo_append] at horder
    have hcons := (List.pairwise_append.1 horder).2.1
    have hhead : numbersTo conn (.wrote player conn env :: older) = (n : ℤ) :: numbersTo conn older := by
      simp [numbersTo, hnumber env n ht hn]
    rw [hhead] at hcons
    exact (List.pairwise_cons.1 hcons).1 _ (mem_numbersTo hw (hnumber env' n' ht' hn'))
  rw [ht'] at hlast
  exact m.increasing n' _ n k ⟨_, travel', hsent', hlast⟩ ⟨_, travel, hsent, hk⟩ (by exact_mod_cast hlt)

/-- the game of the host updates its view; the text is `ABC` -/
def updates (msgId : ℤ) : HostAct :=
  plays .gameRawMessage (.obj [("msg_id", .int msgId), ("payload_b64", .str "QUJD")])

/-- both updates wait for alice's socket -/
def bothWaiting : List HostAct := [joins 1 "alice", goesOn, joins 2 "bob", goesOn, updates 1, updates 2]

/-- the first update goes on to bob before the second -/
def inTurn : List HostAct := bothWaiting ++ [goesOn, .resume 1 default [], goesOn, goesOn]

/-- the second update goes on to bob before the first -/
def overtaking : List HostAct := bothWaiting ++ [.resume 1 default [], goesOn]

end KerMP.Host
