/-
The game's clock (`clock.request_speed` and `clock.request_pause` in `kermp/net.py`, `clock.state` in
`kermp/runtime.py`, and the hooks of `kermp_mod/hooks.py` that report it).

Three handlers set the clock, each in the first step of its event; nothing else touches it. A speed request derives the
paused flag from the speed, a pause request the speed from the flag, and a report of the host's game is read by its
speed alone. The hook on `pop_speed` reports every speed as running, speed 0 included.

- `message_applied`: an accepted clock message does to the clock what `ClockMessage.applied` says, before any await.
- `clock_in_range`: after every run the speed is one of 0 to 3.
- `clock_agrees`: after every run an accepted message counts, keeps the speed in range and leaves the paused flag it
  says, exactly when it is no report whose flag and speed disagree.
- `popped_pause`: a report of speed 0 as running pauses the session.
-/
import KerMP.Host.Heard

namespace KerMP.Host

open Py Coop
open Coro hiding pure get modify

/-! ## Messages -/

/-- what is said of the clock: a speed or a pause that a client asks for, or the state of the host's game -/
inductive ClockMessage where
  | speed (speed : ℤ)
  | pause (paused : Bool)
  | state (speed : ℤ) (paused : Bool)
deriving DecidableEq

namespace ClockMessage

/-- the paused flag that is asked for or reported -/
def paused : ClockMessage → Bool
  | .speed n => n = 0
  | .pause b => b
  | .state _ b => b

/-- no report whose flag and speed disagree -/
def Agrees : ClockMessage → Prop
  | .state n b => b = decide (n = 0)
  | _ => True

instance (m : ClockMessage) : Decidable m.Agrees := by
  cases m <;> unfold Agrees <;> infer_instance

/-- what the host makes of it -/
def applied : ClockMessage → Clock → Clock
  | .speed n, c | .state n _, c => ⟨c.sequence + 1, n, n = 0⟩
  | .pause b, c => ⟨c.sequence + 1, if b then 0 else max 1 c.speed, b⟩

abbrev SPEEDS : List ℤ := [0, 1, 2, 3]

/-- its speed, if it has one, is allowed -/
def Allowed : ClockMessage → Prop
  | .speed n | .state n _ => n ∈ SPEEDS
  | .pause _ => True

/-- a request of a client, with a speed that is allowed -/
def ofRequest (env : Envelope) : Option ClockMessage :=
  match env.type with
  | .clockRequestSpeed =>
    match intField env.payload "speed" 0 with
    | .ok n => if n ∈ SPEEDS then some (.speed n) else none
    | .error _ => none
  | .clockRequestPause =>
    match env.payload.get "paused" with
    | .ok b => some (.pause b.truthy)
    | .error _ => none
  | _ => none

/-- a report of the game: an allowed speed and a flag -/
def ofReport (event : BridgeEvent) : Option ClockMessage :=
  match event.payload with
  | .obj fields =>
    match fields.lookup "speed", fields.lookup "paused" with
    | some (.int n), some (.bool b) => if event.type = .clockState ∧ n ∈ SPEEDS then some (.state n b) else none
    | _, _ => none
  | _ => none

/-- the message in an event that the host takes notice of -/
def ofEvent (h : Host) : Event → Option ClockMessage
  | .game event => ofReport event
  | .line conn (.line (.ok env)) => if Heard h conn env then ofRequest env else none
  | .line _ _ => none

end ClockMessage

/-- the wrapped methods of the game's clock -/
inductive ClockHook where
  | setClockSpeed | pushSpeed | popSpeed

/-- what a hook emits for a speed -/
def ClockHook.report (hook : ClockHook) (speed : ℤ) : BridgeEvent :=
  match hook with
  | .setClockSpeed | .pushSpeed => ⟨.clockState, .obj [("speed", .int speed), ("paused", .bool (speed = 0))]⟩
  | .popSpeed => ⟨.clockState, .obj [("speed", .int speed), ("paused", .bool false)]⟩

/-! ## What is claimed -/

/-- the change counts, the speed is allowed, and the flag is the one that was asked for or reported -/
structure ClockFollows (m : ClockMessage) (c c' : Clock) : Prop where
  sequence : c'.sequence = c.sequence + 1
  speed : c'.speed ∈ ClockMessage.SPEEDS
  paused : c'.paused = m.paused

/-! ## Steps that leave the clock alone -/

/-- every topic but the clock -/
def untimed : List Topic :=
  [.session, .member, .readiness, .travel, .commit, .resume, .lock, .build, .apply, .request, .status, .view]

def SameClock (h h' : Host) : Prop := h'.session.clock = h.session.clock

theorem addPlayer_clock (s : HostSession) (player name : String) (m : CompatibilityManifest) :
    (s.addPlayer player name m).clock = s.clock := (HostSession.addPlayer_calm s player name m).clock

theorem removePlayer_clock (s : HostSession) (player : String) : (s.removePlayer player).clock = s.clock := by
  unfold HostSession.removePlayer
  dsimp only
  rw [HostSession.setAllControllers_eq]
  split_ifs <;> rfl

theorem Does.sameClock {l : Label} {h h' : Host} (d : Does l h h') (hl : l.topic ≠ .clock) : SameClock h h' := by
  cases d with
  | quiet q | readiness q => exact q.session.clock
  | clock => exact absurd rfl hl
  | join _ player name m conn => exact addPlayer_clock h.session player name m
  | drop _ player => exact removePlayer_clock h.session player
  | ackReady _ player txnId epoch =>
    obtain ⟨c, os, e⟩ := ackReady_sets h player txnId epoch
    rw [SameClock, e]
  | ackZone _ player txnId epoch =>
    obtain ⟨c, os, e⟩ := ackZone_sets h player txnId epoch
    rw [SameClock, e]
  | accept _ requestId player payload e =>
    obtain ⟨r, -, -, rfl⟩ := HostSession.validateInteraction_ok e
    rfl
  | _ => rfl

theorem sameClock_of_on {h h' : Host} (hon : On untimed h h') : SameClock h h' := by
  obtain ⟨l, hl, hd⟩ := hon
  exact hd.sameClock (ne_of_mem_of_not_mem hl (by decide))

/-! ## Steps that set it -/

def withClock (h : Host) (clock : Clock) : Host := { h with session := { h.session with clock } }

/-- what may happen to the clock in any handler: nothing, or one of the messages is applied -/
def MayApply (P : Host → Host → Prop) : Prop :=
  (∀ h h', SameClock h h' → P h h') ∧
    ∀ h (m : ClockMessage), m.Allowed → P h (h.withClock (m.applied h.session.clock))

variable {P : Host → Host → Prop}

theorem guar_untimed (hP : MayApply P) {α : Type} {p : HostM α} (hp : Guar (On untimed) p) : Guar P p :=
  hp.mono fun h h' hon => hP.1 h h' (sameClock_of_on hon)

theorem guar_made (hP : MayApply P) {α : Type} {p : HostM α} (hp : Made untimed (fun _ _ => False) p) : Guar P p :=
  guar_untimed hP (guar_of_made (by decide) (by decide) hp)

theorem untimed_parts : Parts untimed (fun _ _ => False) :=
  .of_topics (by decide) (Or.inl (by decide))

/-- the clock is set, and all peers are told -/
theorem guar_setClock (hP : MayApply P) {f : Clock → Clock} {m : ClockMessage} (hf : ∀ c, f c = m.applied c)
    (hm : m.Allowed) {next : Clock → HostM Unit} (hnext : ∀ c, Made untimed (fun _ _ => False) (next c)) :
    Guar P (setClock f >>= next) := by
  refine guar_bind (guar_tryCall fun h => ?_) fun c => guar_made hP (hnext c)
  dsimp only
  rw [hf]
  exact hP.2 h m hm

theorem made_clockBroadcast (c : Clock) :
    Made untimed (fun _ _ => False) (broadcast .clockState (.val (.obj c.toJson))) :=
  made_broadcast (by decide) (by decide) (by decide) (by decide) (Or.inl (by decide)) (by decide) _

theorem guar_dispatchClockSpeed (hP : MayApply P) (sender : String) (payload : Json) :
    Guar P (dispatchClockSpeed sender payload) := by
  refine guar_bind (guar_ofExcept _) fun n => ?_
  split
  · exact guar_untimed hP (guar_sendError (by decide) _ _)
  · rename_i hn
    exact guar_setClock hP (m := .speed n) (fun _ => rfl) (not_not.1 hn) made_clockBroadcast

theorem guar_dispatchClockPause (hP : MayApply P) (payload : Json) : Guar P (dispatchClockPause payload) :=
  guar_bind (guar_ofExcept _) fun paused =>
    guar_setClock hP (m := .pause paused.truthy) (fun _ => rfl) trivial made_clockBroadcast

theorem guar_gameClock (hP : MayApply P) (payload : Json) : Guar P (gameClock payload) := by
  refine guar_bind (guar_ofExcept _) fun state => guar_bind (guar_get fun h => hP.1 h h rfl) fun h =>
    guar_bind (guar_ofExcept _) fun n => ?_
  split
  · exact guar_pure ()
  · rename_i hn
    exact guar_setClock hP (m := .speed n) (fun _ => rfl) (not_not.1 hn)
      fun _ => .broadcastPeers _ (by decide) (by decide)

/-- the clock in any handler -/
theorem guar_handleEnvelope (hP : MayApply P) (player : String) (env : Envelope) : Guar P (handleEnvelope player env) := by
  by_cases hclock : env.type ∈ Parts.clockRequests
  swap
  · exact guar_made hP (untimed_parts.handleEnvelope player (fun _ => by decide) (fun _ => by decide)
      (fun he => absurd he hclock) fun _ => by decide)
  have hdispatch : Guar P (dispatch env) := by
    unfold dispatch
    simp only [Parts.clockRequests, List.mem_cons, List.not_mem_nil, or_false] at hclock
    rcases hclock with ht | ht <;> rw [ht]
    · exact guar_dispatchClockSpeed hP _ _
    · exact guar_dispatchClockPause hP _
  unfold handleEnvelope
  split
  · exact guar_untimed hP (guar_sendError (by decide) _ _)
  refine guar_bind (guar_get fun h => hP.1 h h rfl) fun h => ?_
  split
  · exact hdispatch
  · refine guar_bind (guar_ofExcept _) fun stale => ?_
    split_ifs
    · exact guar_pure ()
    · exact hdispatch
    · exact guar_bind (guar_untimed hP (guar_of_aside (aside_setLastSeq (by decide) _ _))) fun _ => hdispatch

theorem guar_onGameEvent (hP : MayApply P) (event : BridgeEvent) : Guar P (onGameEvent event) := by
  by_cases hclock : event.type = .clockState
  · unfold onGameEvent
    rw [hclock]
    exact guar_gameClock hP _
  · exact guar_made hP (untimed_parts.onGameEvent (fun _ => by decide) (fun _ => by decide)
      (fun he => absurd he hclock) fun _ => by decide)

theorem guar_handle (hP : MayApply P) (e : Event) : Guar P (handle e) := by
  have hquiet : ∀ {α : Type} {p : HostM α}, Guar (On untimed) p → Guar P p := fun hp => guar_untimed hP hp
  rcases e with ⟨conn, r⟩ | event
  · refine guar_bind (guar_get fun h => hP.1 h h rfl) fun h => ?_
    split
    · exact guar_handleHello (fun h h' hon => hP.1 h h' (sameClock_of_on (hon.mono (by decide))))
        (fun h player name m conn => hP.1 _ _ (addPlayer_clock h.session player name m)) conn r
    · refine guar_bind (hquiet (guar_setStage (by decide) _ _)) fun _ => ?_
      split
      · refine guar_bind (guar_attempt (guar_handleEnvelope hP _ _)) fun handled => ?_
        split
        · exact hquiet (guar_setStage (by decide) _ _)
        · exact hquiet (guar_finish (by decide) (by decide) _ _)
      · exact hquiet (guar_finish (by decide) (by decide) _ _)
    · exact guar_pure ()
  · exact guar_onGameEvent hP event

/-! ## The speed -/

/-- an allowed speed stays allowed -/
theorem applied_allowed {m : ClockMessage} (hm : m.Allowed) {c : Clock} (hc : c.speed ∈ ClockMessage.SPEEDS) :
    (m.applied c).speed ∈ ClockMessage.SPEEDS := by
  cases m with
  | speed n => exact hm
  | state n b => exact hm
  | pause b =>
    cases b with
    | true => simp [ClockMessage.applied, ClockMessage.SPEEDS]
    | false =>
      simp only [ClockMessage.SPEEDS, List.mem_cons, List.not_mem_nil, or_false] at hc ⊢
      simp only [ClockMessage.applied, Bool.false_eq_true, if_false]
      omega

theorem started_clock (playerId displayName sessionId : String) (manifest : CompatibilityManifest) (nativeRequired : Bool)
    (commands : NetworkedCommandRouter) :
    (started playerId displayName sessionId manifest nativeRequired commands).state.session.clock = ⟨0, 1, false⟩ :=
  ((HostSession.updateReadiness_calm _ _ _).clock).trans (addPlayer_clock _ _ _ _)

theorem clock_in_range (playerId displayName sessionId : String) (manifest : CompatibilityManifest)
    (nativeRequired : Bool) (commands : NetworkedCommandRouter) (acts : List HostAct) :
    (runFrom (started playerId displayName sessionId manifest nativeRequired commands) acts).state.session.clock.speed ∈
      ClockMessage.SPEEDS := by
  have hstart : (started playerId displayName sessionId manifest nativeRequired commands).state.session.clock.speed ∈
      ClockMessage.SPEEDS := by
    rw [started_clock]
    decide
  have hP : MayApply fun h h' => h.session.clock.speed ∈ ClockMessage.SPEEDS →
      h'.session.clock.speed ∈ ClockMessage.SPEEDS :=
    ⟨fun h h' hsame hr => by rw [hsame]; exact hr, fun h m hm hr => applied_allowed hm hr⟩
  have hadmitted : ∀ c : Run, Pool.AllAdmitted handle enabled (fun _ _ => True) c acts :=
    Pool.allAdmitted_of_forall fun a _ _ => by cases a <;> trivial
  exact (Pool.run_plain (R := fun _ _ => True) (fun _ => trivial) (fun _ _ _ _ _ => trivial)
    (fun e h hr _ _ => keeps_of_guar (fun _ => trivial) (fun _ _ _ _ _ => trivial)
      (fun h h' hk hr => ⟨trivial, hk hr⟩) (guar_handle hP e) ∅ h hr) hstart acts (hadmitted _)).2

/-! ## One message -/

variable {c : Clock} {h : Host}

/-- the rest of a step in which the clock has been set -/
theorem wp_untimed_first {own : Set Empty} {p : HostM Unit} (hp : Guar (On untimed) p) (hc : h.session.clock = c) :
    wp (Discipline.first fun h' => h'.session.clock = c) own p (fun _ _ h' => h'.session.clock = c) h :=
  wp_first_of_guar (fun _ _ hsame he => hsame.trans he) (hp.mono fun _ _ => sameClock_of_on) hc

theorem wp_setClock_first {own : Set Empty} {f : Clock → Clock} {next : Clock → HostM Unit}
    (hnext : ∀ c, Made untimed (fun _ _ => False) (next c)) (hc : f h.session.clock = c) :
    wp (Discipline.first fun h' => h'.session.clock = c) own (setClock f >>= next) (fun _ _ h' => h'.session.clock = c)
      h := by
  rw [setClock, onSession, wp_tryCall_first, wp_ok_first]
  exact wp_untimed_first (guar_of_made (by decide) (by decide) (hnext _)) hc

/-- what becomes of the connection leaves the clock alone -/
theorem wp_answered_first {own : Set Empty} {conn : ℕ} {player : String} (r : Except Exc Unit)
    (hc : h.session.clock = c) :
    wp (Discipline.first fun h' => h'.session.clock = c) own
      (match r with
        | .ok _ => setStage conn (.idle player)
        | .error _ => finish conn (some player)) (fun _ _ h' => h'.session.clock = c) h := by
  cases r with
  | ok _ => exact wp_untimed_first (guar_setStage (by decide) _ _) hc
  | error e => exact wp_untimed_first (guar_finish (by decide) (by decide) _ _) hc

theorem wp_clockRequest_first {env : Envelope} {m : ClockMessage} (hm : ClockMessage.ofRequest env = some m) :
    wp (Discipline.first fun h' => h'.session.clock = m.applied h.session.clock) ∅ (dispatch env)
      (fun _ _ h' => h'.session.clock = m.applied h.session.clock) h := by
  unfold ClockMessage.ofRequest at hm
  unfold dispatch
  split at hm
  · rename_i ht
    cases hn : intField env.payload "speed" 0 with
    | error e =>
      rw [hn] at hm
      cases hm
    | ok n =>
      rw [hn] at hm
      dsimp only at hm
      split_ifs at hm with hspeed
      cases hm
      rw [ht]
      dsimp only
      rw [dispatchClockSpeed, hn, wp_ok_first, if_neg (not_not.2 hspeed)]
      exact wp_setClock_first made_clockBroadcast rfl
  · rename_i ht
    cases hb : env.payload.get "paused" with
    | error e =>
      rw [hb] at hm
      cases hm
    | ok b =>
      rw [hb] at hm
      cases hm
      rw [ht]
      dsimp only
      rw [dispatchClockPause, hb, wp_ok_first]
      exact wp_setClock_first made_clockBroadcast rfl
  · cases hm

theorem wp_clockReport_first {event : BridgeEvent} {m : ClockMessage} (hm : ClockMessage.ofReport event = some m) :
    wp (Discipline.first fun h' => h'.session.clock = m.applied h.session.clock) ∅ (onGameEvent event)
      (fun _ _ h' => h'.session.clock = m.applied h.session.clock) h := by
  unfold ClockMessage.ofReport at hm
  split at hm
  swap
  · cases hm
  rename_i fields hfields
  split at hm
  swap
  · cases hm
  rename_i n b hn hb
  split_ifs at hm with ht
  obtain ⟨ht, hspeed⟩ := ht
  cases hm
  have hstate : HostSession.dictOrEmpty event.payload = .ok fields := by
    rw [hfields]
    cases fields with
    | nil => rfl
    | cons f fields => rfl
  have hread : (Json.field fields "speed" (.int h.session.clock.speed)).toInt = .ok n := by
    unfold Json.field
    rw [hn]
    rfl
  unfold onGameEvent
  rw [ht]
  dsimp only
  rw [gameClock, hstate, wp_ok_first, wp_get_first, hread, wp_ok_first, if_neg (not_not.2 hspeed)]
  exact wp_setClock_first (fun _ => .broadcastPeers _ (by decide) (by decide)) rfl

/-- **One message.** It is applied to the clock in the step of its event. -/
theorem message_applied {run : Run} {e : Event} {m : ClockMessage} (hm : ClockMessage.ofEvent run.state e = some m)
    (as : List Answer) :
    (runFrom run [.arrive e as]).state.session.clock = m.applied run.state.session.clock := by
  have hsegment : ∀ {p : HostM Unit},
      wp (Discipline.first fun h' => h'.session.clock = m.applied run.state.session.clock) ∅ p
        (fun _ _ h' => h'.session.clock = m.applied run.state.session.clock) run.state →
      (p.segment as run.state).2.session.clock = m.applied run.state.session.clock := fun hp => segment_first as hp
  show (Pool.step handle enabled run (.arrive e as)).state.session.clock = _
  rw [Pool.arrive_state]
  rcases e with ⟨conn, (e | env) | _⟩ | event
  · cases hm
  · dsimp only [ClockMessage.ofEvent] at hm
    split_ifs at hm with hheard
    rw [if_pos (enabled_of_heard hheard)]
    refine hsegment (wp_heard_first hheard (wp_mono ?_ (wp_clockRequest_first (h := run.state.listening conn env) hm)))
    exact fun r own h' hc => wp_answered_first r hc
  · cases hm
  · have henabled : enabled run.state (.game event) = true := rfl
    rw [if_pos henabled]
    exact hsegment (wp_clockReport_first hm)

/-! ## Agreement -/

theorem ofRequest_allowed {env : Envelope} {m : ClockMessage} (hm : ClockMessage.ofRequest env = some m) :
    m.Allowed := by
  unfold ClockMessage.ofRequest at hm
  split at hm
  · split at hm
    · split_ifs at hm with hn
      cases hm
      exact hn
    · cases hm
  · split at hm
    · cases hm
      trivial
    · cases hm
  · cases hm

theorem ofReport_allowed {event : BridgeEvent} {m : ClockMessage} (hm : ClockMessage.ofReport event = some m) :
    m.Allowed := by
  unfold ClockMessage.ofReport at hm
  split at hm
  · split at hm
    · split_ifs at hm with hn
      cases hm
      exact hn.2
    · cases hm
  · cases hm

theorem ofEvent_allowed {e : Event} {m : ClockMessage} (hm : ClockMessage.ofEvent h e = some m) : m.Allowed := by
  unfold ClockMessage.ofEvent at hm
  split at hm
  · exact ofReport_allowed hm
  · split_ifs at hm
    exact ofRequest_allowed hm
  · cases hm

/-- what a message does to the clock is what it says, unless its flag and its speed disagree -/
theorem follows_iff {m : ClockMessage} (hm : m.Allowed) (hc : c.speed ∈ ClockMessage.SPEEDS) :
    ClockFollows m c (m.applied c) ↔ m.Agrees := by
  have hspeed := applied_allowed hm hc
  constructor
  · intro hfollows
    cases m with
    | state n b => exact hfollows.paused.symm
    | _ => trivial
  · intro hagrees
    refine ⟨?_, hspeed, ?_⟩
    · cases m <;> rfl
    · cases m with
      | state n b => exact hagrees.symm
      | _ => rfl

/-- **The clock follows.** After every run, an accepted clock message raises the sequence by one, keeps the speed within
0 to 3, and leaves the paused flag it says, exactly when it is no report whose flag and speed disagree. -/
theorem clock_agrees (playerId displayName sessionId : String) (manifest : CompatibilityManifest)
    (nativeRequired : Bool) (commands : NetworkedCommandRouter) (acts : List HostAct) {e : Event} {m : ClockMessage}
    (hm : ClockMessage.ofEvent (runFrom (started playerId displayName sessionId manifest nativeRequired commands)
      acts).state e = some m) (as : List Answer) :
    ClockFollows m
        (runFrom (started playerId displayName sessionId manifest nativeRequired commands) acts).state.session.clock
        (runFrom (started playerId displayName sessionId manifest nativeRequired commands)
          (acts ++ [.arrive e as])).state.session.clock ↔ m.Agrees := by
  have hrange := clock_in_range playerId displayName sessionId manifest nativeRequired commands acts
  have happlied := message_applied hm as
  have happend : ∀ s : Run, runFrom s (acts ++ [.arrive e as]) = runFrom (runFrom s acts) [.arrive e as] := fun s =>
    Pool.run_append s acts _
  rw [happend, happlied]
  exact follows_iff (ofEvent_allowed hm) hrange

/-- bob, who has joined, asks for a pause -/
theorem clock_agrees_bob :
    ClockFollows (.pause true) (runFrom lanHost [joins 1 "bob", goesOn]).state.session.clock
      (runFrom lanHost ([joins 1 "bob", goesOn] ++
        [sends 1 "bob" .clockRequestPause (.obj [("paused", .bool true)])])).state.session.clock := by
  have hm : ClockMessage.ofEvent (runFrom lanHost [joins 1 "bob", goesOn]).state
      (.line 1 (.line (.ok ⟨.clockRequestPause, .obj [("paused", .bool true)], "bob", .str "m", .null⟩))) =
        some (.pause true) := by
    decide +kernel
  exact (clock_agrees "host" "Host" "session" (lanManifest "host") false .init _ hm []).2 trivial

/-- the game pops to speed 0, which its hook reports as running: the session is paused -/
theorem popped_pause :
    ¬ ClockFollows (.state 0 false) lanHost.state.session.clock
      (runFrom lanHost [.arrive (.game (ClockHook.popSpeed.report 0)) []]).state.session.clock := by
  intro hfollows
  have hpaused : (runFrom lanHost [.arrive (.game (ClockHook.popSpeed.report 0)) []]).state.session.clock.paused = true := by
    decide +kernel
  rw [hfollows.paused] at hpaused
  cases hpaused

end KerMP.Host
