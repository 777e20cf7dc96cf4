/-
Refused handshakes (`_handle_conn` up to its loop over lines, and its `finally` block).

The `finally` block drops by player id, whether or not this connection's player was ever registered. So a refused first
message with somebody else's id removes that player.

Result, for every host state, every first message and every outcome of the writes, the handler running undisturbed:
- `refused_handshake`: a refused handshake leaves peers, players, lock, travel, dialogs and Sims as they were exactly
  when its hello has no id, or an id that occurs in none of them while nothing else waits to be put in order.
- `duplicate_hello_drops_player`: a second hello with the id of a connected player removes this player.
-/
import KerMP.Host.System

namespace KerMP.Host

open Py Coop
open Coro hiding pure get modify
open Travel (TravelTxn TravelCoordinator)
open Travel.TravelCoordinator (phaseAfterLeave)

/-! ## Refusal -/

/-- the hello of a player who may join -/
def Accepts (h : Host) (hello : Envelope) : Prop :=
  hello.type = .hello ∧ (∃ name, hello.payload.get "display_name" = .ok name) ∧ hello.senderId ∉ h.peers ∧
    hello.senderId ≠ h.playerId ∧ ∃ m, readManifest hello.senderId hello.payload = .ok m

/-- anything else as the first message is refused -/
def Refuses (h : Host) (r : Recv) : Prop := ∀ hello, r = .line (.ok hello) → ¬ Accepts h hello

/-- what a refused handshake should leave alone -/
structure Unchanged (h h' : Host) : Prop where
  peers : h'.peers = h.peers
  players : h'.session.players = h.session.players
  lock : h'.session.build.lock = h.session.build.lock
  travel : h'.session.travel.current = h.session.travel.current
  dialogs : h'.session.dialogs.pending = h.session.dialogs.pending
  sims : h'.session.sims = h.session.sims

/-- an unfinished travel that does not know the player, and whose open barrier is not met -/
def Foreign (t : TravelTxn) (p : String) : Prop :=
  p ∉ t.participants ∧ p ∉ t.ready ∧ p ∉ t.zoneReady ∧ (t.phase = .waitingReady → t.ready ≠ t.participants) ∧
    (t.phase = .waitingZoneReady → t.zoneReady ≠ t.participants)

/-- the id occurs nowhere, and each Sim has the controllers its players make of it -/
structure NamedNowhere (h : Host) (p : String) : Prop where
  peers : p ∉ h.peers
  players : p ∉ h.session.players
  lock : h.session.build.ownerId ≠ some p
  travel : ∀ t, h.session.travel.current = some t → t.phase.finished = false → Foreign t p
  dialogs : ∀ e ∈ h.session.dialogs.pending.entries, e.2.ownerPlayerId ≠ p
  sims : ∀ e ∈ h.session.sims.entries, e.2.controllers = HostSession.controllers h.session.players e.1

/-! ## A departure that changes nothing -/

/-- a departure leaves the current transaction alone when it is finished or does not know the player -/
theorem removeParticipant_eq_self {c : TravelCoordinator} {p : String} :
    (c.removeParticipant p).2.current = c.current ↔
      ∀ t, c.current = some t → t.phase.finished = false → Foreign t p := by
  unfold TravelCoordinator.removeParticipant
  cases hc : c.current with
  | none => simp [hc]
  | some t =>
    by_cases hf : t.phase.finished = true
    · simp [hf, hc]
    have hopen : t.phase.finished = false := by simpa using hf
    dsimp only
    rw [if_neg hf]
    constructor
    · intro h t' ht' _
      cases ht'
      have he : ({ t.without p with phase := phaseAfterLeave (t.without p) } : TravelTxn) = t := Option.some.inj h
      have hp : p ∉ t.participants := Finset.erase_eq_self.1 (congrArg TravelTxn.participants he)
      have hr : p ∉ t.ready := Finset.erase_eq_self.1 (congrArg TravelTxn.ready he)
      have hz : p ∉ t.zoneReady := Finset.erase_eq_self.1 (congrArg TravelTxn.zoneReady he)
      have hsame : t.without p = t := by
        simp [TravelTxn.without, Finset.erase_eq_of_notMem hp, Finset.erase_eq_of_notMem hr,
          Finset.erase_eq_of_notMem hz]
      have hphase : phaseAfterLeave t = t.phase := by
        have := congrArg TravelTxn.phase he
        rwa [hsame] at this
      obtain ⟨hw, -, hn⟩ | ⟨hw, -, hn⟩ | ⟨-, h1, h2⟩ := Travel.phaseAfterLeave_cases t
      · rw [hphase, hw] at hn; cases hn
      · rw [hphase, hw] at hn; cases hn
      · exact ⟨hp, hr, hz, h1, h2⟩
    · intro h
      obtain ⟨hp, hr, hz, h1, h2⟩ := h t rfl hopen
      have hsame : t.without p = t := by
        simp [TravelTxn.without, Finset.erase_eq_of_notMem hp, Finset.erase_eq_of_notMem hr,
          Finset.erase_eq_of_notMem hz]
      have hphase : phaseAfterLeave t = t.phase := by
        obtain ⟨hw, he, -⟩ | ⟨hw, he, -⟩ | ⟨hn, -, -⟩ := Travel.phaseAfterLeave_cases t
        · exact absurd he (h1 hw)
        · exact absurd he (h2 hw)
        · exact hn
      show some ({ t.without p with phase := phaseAfterLeave (t.without p) } : TravelTxn) = some t
      rw [hsame, hphase]

/-- the lock stays exactly when somebody else, or nobody, owns it -/
theorem releasedLock_eq_self {b : BuildAuthority} {p : String} :
    (if b.ownerId = some p then { b with lock := none, leaseId := none } else b).lock = b.lock ↔ b.ownerId ≠ some p := by
  split_ifs with ho
  · constructor
    · intro h
      have hnone : b.ownerId = none := by rw [BuildAuthority.ownerId, ← h]; rfl
      rw [hnone] at ho
      cases ho
    · exact fun h => absurd ho h
  · exact ⟨fun _ => ho, fun _ => rfl⟩

theorem unchanged_removed {h : Host} {p : String} : Unchanged h (h.removed p) ↔ NamedNowhere h p := by
  obtain ⟨hplayers, htravel, hbuild, -, hdialogs, hsims⟩ := HostSession.removePlayer_eq h.session p
  have hlock : (h.session.removePlayer p).build.lock = h.session.build.lock ↔ h.session.build.ownerId ≠ some p := by
    rw [hbuild]
    exact releasedLock_eq_self
  have hcurrent : (h.session.removePlayer p).travel.current = h.session.travel.current ↔
      ∀ t, h.session.travel.current = some t → t.phase.finished = false → Foreign t p := by
    rw [htravel]
    exact removeParticipant_eq_self
  have hpending : (h.session.removePlayer p).dialogs.pending = h.session.dialogs.pending ↔
      ∀ e ∈ h.session.dialogs.pending.entries, e.2.ownerPlayerId ≠ p := by
    rw [hdialogs]
    exact DialogRouter.disconnect_eq_self
  -- once no player has left, the Sims are recomputed from the same players
  have hcontrolled : HostSession.controlled h.session.players h.session.sims = h.session.sims ↔
      ∀ e ∈ h.session.sims.entries, e.2.controllers = HostSession.controllers h.session.players e.1 := by
    rw [HostSession.controlled, AList.mapItems_eq_self]
    constructor
    · intro hs e he
      exact (congrArg Sim.controllers (hs e he)).symm
    · intro hs e he
      rw [← hs e he]
  constructor
  · intro u
    have hp : p ∉ h.session.players := AList.erase_eq_self.1 (hplayers ▸ u.players)
    have hs : HostSession.controlled (h.session.players.erase p) h.session.sims = h.session.sims := hsims ▸ u.sims
    rw [AList.erase_of_notMem _ hp] at hs
    exact ⟨AList.erase_eq_self.1 u.peers, hp, hlock.1 u.lock, hcurrent.1 u.travel, hpending.1 u.dialogs, hcontrolled.1 hs⟩
  · intro n
    refine ⟨AList.erase_of_notMem _ n.peers, ?_, hlock.2 n.lock, hcurrent.2 n.travel, hpending.2 n.dialogs, ?_⟩
    · exact hplayers.trans (AList.erase_of_notMem _ n.players)
    · refine hsims.trans ?_
      rw [AList.erase_of_notMem _ n.players]
      exact hcontrolled.2 n.sims

/-! ## The handler, undisturbed -/

/-- session and peers are the same -/
def Same (h h' : Host) : Prop := h'.session = h.session ∧ h'.peers = h.peers

theorem Same.unchanged {h k k' : Host} (hs : Same k k') : Unchanged h k' ↔ Unchanged h k := by
  obtain ⟨hsession, hpeers⟩ := hs
  constructor
  · intro u
    exact ⟨hpeers ▸ u.peers, hsession ▸ u.players, hsession ▸ u.lock, hsession ▸ u.travel, hsession ▸ u.dialogs,
      hsession ▸ u.sims⟩
  · intro u
    exact ⟨hpeers.trans u.peers, hsession ▸ u.players, hsession ▸ u.lock, hsession ▸ u.travel, hsession ▸ u.dialogs,
      hsession ▸ u.sims⟩

abbrev Alone : Discipline Host Empty := Discipline.alone

theorem wp_closeWriter_alone {own : Set Empty} (conn : ℕ) {h k : Host} (hk : Same h k) :
    wp Alone own (closeWriter conn) (fun r _ h' => r = .ok () ∧ Same h h') k := by
  simp only [closeWriter, emit, wp_bind, wp_modify, wp_suspend, andThen_ok, Discipline.may_alone]
  refine ⟨trivial, trivial, ?_⟩
  rintro h' rfl - - a
  exact ⟨rfl, hk⟩

theorem wp_refuse_alone {own : Set Empty} (conn : ℕ) (player reason : String) {h k : Host} (hk : Same h k) :
    wp Alone own (refuse conn player reason) (fun _ _ h' => Same h h') k := by
  simp only [refuse, drawUuid, write, drain, wp_bind, wp_call, wp_modify, wp_suspend, andThen_ok,
    Discipline.may_alone]
  refine ⟨trivial, trivial, trivial, ?_⟩
  rintro h' rfl - - a
  split_ifs
  · exact hk
  · exact hk

/-- the state a refused connection leaves -/
def afterRefusal (h : Host) (player : Option String) : Host :=
  match player with
  | some p => if p = "" then h else h.removed p
  | none => h

theorem wp_finish_alone {own : Set Empty} (conn : ℕ) (player : Option String) {h k : Host} (hk : Same h k) :
    wp Alone own (finish conn player) (fun _ _ h' => Same (h.afterRefusal player) h') k := by
  have hremoved : ∀ p, Same (h.removed p) (k.removed p) := by
    intro p
    obtain ⟨hsession, hpeers⟩ := hk
    rw [Same, removed, removed, hsession, hpeers]
    exact ⟨rfl, rfl⟩
  have hclose : ∀ {own : Set Empty} {g k : Host}, Same g k →
      wp Alone own (do closeWriter conn; setStage conn .ended : HostM Unit) (fun _ _ h' => Same g h') k := by
    intro own g k hg
    rw [wp_bind]
    refine wp_mono ?_ (wp_closeWriter_alone conn hg)
    rintro r own' h' ⟨rfl, hs⟩
    simp only [andThen_ok, setStage, wp_modify, Discipline.may_alone]
    exact ⟨trivial, hs⟩
  rw [finish, wp_bind]
  cases player with
  | none => exact hclose hk
  | some p =>
    by_cases hp : p = ""
    · simp only [ifSome, afterRefusal, if_pos hp]
      exact hclose hk
    · simp only [ifSome, afterRefusal, if_neg hp, drop, depart, wp_bind, wp_call, andThen_ok, Discipline.may_alone]
      refine ⟨trivial, ?_⟩
      cases k.peers.lookup p with
      | none => exact hclose (hremoved p)
      | some peer =>
        refine wp_mono ?_ (wp_closeWriter_alone peer.conn (hremoved p))
        rintro r own' h' ⟨rfl, hs⟩
        exact hclose hs

/-- a hello that is not accepted leads to no registration -/
theorem wp_greet_alone {own : Set Empty} (conn : ℕ) {hello : Envelope} {h k : Host} (hk : Same h k)
    (hid : k.playerId = h.playerId) (htype : hello.type = .hello) (hno : ¬ Accepts h hello) :
    wp Alone own (greet conn hello) (fun r _ h' => r ≠ .ok true ∧ Same h h') k := by
  have hrefuse : ∀ {own : Set Empty} reason, wp Alone own
      (do refuse conn hello.senderId reason; pure false : HostM Bool) (fun r _ h' => r ≠ .ok true ∧ Same h h') k := by
    intro own reason
    rw [wp_bind]
    refine wp_mono ?_ (wp_refuse_alone conn hello.senderId reason hk)
    intro r own' h' hs
    cases r with
    | error e => exact ⟨fun he => (by cases he), hs⟩
    | ok u => exact ⟨fun he => (by cases he), hs⟩
  rw [greet, wp_bind, wp_ofExcept]
  cases hstr : (do return (((← hello.payload.get "display_name").or (.str "Player")).toStr) : Except Exc String) with
  | error e => exact ⟨fun he => (by cases he), hk⟩
  | ok name =>
    obtain ⟨given, hgiven, -⟩ := bind_ok hstr
    rw [andThen_ok, wp_bind, wp_get, Discipline.may_alone]
    refine ⟨trivial, ?_⟩
    rw [andThen_ok]
    split
    · exact hrefuse _
    rename_i hnew
    rw [not_or, hk.2, hid] at hnew
    cases hm : readManifest hello.senderId hello.payload with
    | ok m => exact absurd ⟨htype, ⟨given, hgiven⟩, hnew.1, hnew.2, m, hm⟩ hno
    | error e =>
      cases e with
      | valueError m => exact hrefuse _
      | typeError m => exact hrefuse _
      | _ => exact ⟨fun he => (by cases he), hk⟩

theorem wp_handleHello_alone {own : Set Empty} {h : Host} (conn : ℕ) {r : Recv} (hr : Refuses h r) :
    wp Alone own (handleHello conn r) (fun _ _ h' => Same (h.afterRefusal (helloPlayer r)) h') h := by
  have hbusy : Same h { h with conns := h.conns.setItem conn .busy } := ⟨rfl, rfl⟩
  simp only [handleHello, setStage, wp_bind, wp_modify, wp_attempt, andThen_ok, Discipline.may_alone]
  refine ⟨trivial, ?_⟩
  have hfirst : ∀ {own : Set Empty}, wp Alone own (firstMessage conn r) (fun r _ h' => r ≠ .ok true ∧ Same h h')
      { h with conns := h.conns.setItem conn .busy } := by
    intro own
    unfold firstMessage
    split
    · rename_i hello
      split_ifs with htype
      · exact wp_greet_alone conn hbusy rfl htype (hr hello rfl)
      · exact ⟨fun he => (by cases he), hbusy⟩
    · exact ⟨fun he => (by cases he), hbusy⟩
  refine wp_mono ?_ hfirst
  rintro accepted own' k ⟨hne, hk⟩
  rw [andThen_ok]
  split
  · exact absurd rfl hne
  · exact wp_finish_alone conn _ hk

/-- **Refused handshakes.** From any host state, with any outcome of the writes: a refused first message leaves peers,
players, lock, travel, dialogs and Sims as they were if and only if it is no hello, or has no id, or its id occurs
nowhere in them. -/
theorem refused_handshake (h : Host) (conn : ℕ) (r : Recv) (as : List Answer) (refused : Refuses h r) :
    Unchanged h ((handleHello conn r).exec as h).2 ↔ ∀ p, helloPlayer r = some p → p ≠ "" → NamedNowhere h p := by
  have hrely : ∀ k : Host, Alone.rely k k := fun k => rfl
  have hwp : wp Alone ∅ (handleHello conn r) (fun _ _ h' => Same (h.afterRefusal (helloPlayer r)) h') h :=
    wp_handleHello_alone conn refused
  obtain ⟨-, hsame⟩ := wp_exec hrely (fun m => m.elim) as hwp
  rw [hsame.unchanged]
  have hself : Unchanged h h := ⟨rfl, rfl, rfl, rfl, rfl, rfl⟩
  cases helloPlayer r with
  | none => exact ⟨fun _ _ hp => (by cases hp), fun _ => hself⟩
  | some p =>
    by_cases hp : p = ""
    · simp only [afterRefusal, if_pos hp]
      refine ⟨fun _ q hq hne => ?_, fun _ => hself⟩
      cases hq
      exact absurd hp hne
    · simp only [afterRefusal, if_neg hp]
      rw [unchanged_removed]
      constructor
      · intro hn q hq _
        cases hq
        exact hn
      · intro hn
        exact hn p rfl hp

/-- a host with one client -/
def aliceJoined : Host := (runFrom lanHost [joins 1 "alice", goesOn]).state

def helloOf (player : String) (manifest : CompatibilityManifest) : Recv :=
  .line (.ok ⟨.hello, .obj [("display_name", .str player), ("manifest", manifest.toDict)], player, .str "m", .null⟩)

/-- a newcomer with somebody else's manifest is refused, and nothing has changed -/
theorem refused_handshake_mismatch :
    Unchanged aliceJoined ((handleHello 2 (helloOf "bob" (lanManifest "carol"))).exec [] aliceJoined).2 := by
  have hmanifest : readManifest "bob" (.obj [("display_name", .str "bob"), ("manifest", (lanManifest "carol").toDict)]) =
      .error (.valueError "manifest_player_id_mismatch") := by decide +kernel
  have hrefuses : Refuses aliceJoined (helloOf "bob" (lanManifest "carol")) := by
    rintro hello he ⟨-, -, -, -, m, hm⟩
    cases he
    rw [hmanifest] at hm
    cases hm
  rw [refused_handshake aliceJoined 2 (helloOf "bob" (lanManifest "carol")) [] hrefuses]
  intro p hp _
  cases hp
  refine ⟨by decide +kernel, by decide +kernel, by decide +kernel, ?_, by decide +kernel, by decide +kernel⟩
  intro t ht
  have hnone : aliceJoined.session.travel.current = none := by decide +kernel
  rw [hnone] at ht
  cases ht

/-- a second hello as alice is refused, and alice is gone -/
theorem duplicate_hello_drops_player : Refuses aliceJoined (helloOf "alice" (lanManifest "alice")) ∧
    ¬ Unchanged aliceJoined ((handleHello 2 (helloOf "alice" (lanManifest "alice"))).exec [] aliceJoined).2 := by
  have hpeer : "alice" ∈ aliceJoined.peers := by decide +kernel
  constructor
  · rintro hello he ⟨-, -, hnew, -⟩
    cases he
    exact hnew hpeer
  · intro u
    have hgone : "alice" ∉ ((handleHello 2 (helloOf "alice" (lanManifest "alice"))).exec [] aliceJoined).2.peers := by
      decide +kernel
    rw [u.peers] at hgone
    exact hgone hpeer

end KerMP.Host
