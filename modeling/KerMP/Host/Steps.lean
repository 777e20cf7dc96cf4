/-
What one atomic step of the host can do, and which steps each handler makes.

`Does l h h'` lists the atomic steps, one constructor for each kind of update, with the call behind it. Steps are
sorted by topic: travel and its two barriers, the build lock, build operations and their application by the host's game,
interaction requests and what becomes of them (`status`), view updates, the game's clock, readiness, membership, and the
rest (`session`).
`On T` are the steps whose topic is in `T`; each primitive and each handler has one lemma `guar_...` that names its
topics. Only `greet` has none: it registers a player after a check.
`Made T Own` are the programs built from steps on `T` and programs of `Own`.
-/
import KerMP.Host.System

namespace KerMP

open Py

inductive Topic where
  | session | member | readiness | travel | commit | resume | lock | build | apply | request | status | view | clock
deriving DecidableEq, Repr

/-- the topic of a message -/
def MessageType.topic : MessageType → Topic
  | .travelPropose | .travelPrepare | .travelAbort | .travelViewBatch => .travel
  | .travelCommit => .commit
  | .travelResume => .resume
  | .buildLockState => .lock
  | .buildApply => .build
  | .interactionRequest | .interactionCommand => .request
  | .interactionAccepted | .interactionRejected | .interactionCommandAccepted | .interactionCommandRejected
  | .interactionQueued | .interactionStarted | .interactionFinished | .interactionCancel => .status
  | .gameRawMessage => .view
  | _ => .session

/-- the topic of a message to the host's own game -/
def MessageType.gameTopic : MessageType → Topic
  | .buildApply => .apply
  | type => if type.topic = .status then .session else type.topic

namespace Host

open Coop
open Coro hiding pure get modify
open Travel (TravelTxn TravelCoordinator)

/-! ## Steps -/

/-- a step on readiness, Sims, commands, dialogs or the counter of uuids -/
structure Quiet (h h' : Host) : Prop where
  playerId : h'.playerId = h.playerId
  session : HostSession.Calm h.session h'.session
  keys : h'.peers.keys = h.peers.keys
  conns : ∀ p, (h'.peers.lookup p).map (·.conn) = (h.peers.lookup p).map (·.conn)
  stages : h'.conns = h.conns
  seq : h'.seq = h.seq
  gameSequence : h'.gameSequence = h.gameSequence
  log : h'.log = h.log
  now : h.now ≤ h'.now

theorem Quiet.refl (h : Host) : Quiet h h := ⟨rfl, .refl _, rfl, fun _ => rfl, rfl, rfl, rfl, rfl, le_rfl⟩

/-- the kinds of steps -/
inductive Label where
  | quiet
  | readiness
  | note (o : Out)
  | number
  | stage (conn : ℕ) (stage : Stage)
  | join (player : String) (conn : ℕ)
  | drop (player : String)
  | propose
  | abort
  | zoneWait
  | ackReady (player txnId : String) (epoch : ℤ)
  | ackZone (player txnId : String) (epoch : ℤ)
  | lock (player : String)
  | release (player : String)
  | submit (player op : String) (data : List (String × Json))
  | accept (player : String)
  | status
  | count
  | clock

def Barrier.topic : Barrier → Topic
  | .commit => .commit
  | .resume => .resume

def Out.topic : Out → Topic
  | .bridge _ type _ => type.gameTopic
  | .sending type _ _ _ | .cut type _ => type.topic
  | .wrote _ _ env => env.type.topic
  | .closed _ | .passed _ _ _ => .session
  | .joined _ _ | .left _ _ => .member
  | .met barrier _ _ => barrier.topic
  | .zoneReady _ _ _ => .resume
  | .offered _ _ _ => .lock
  | .captured _ _ _ _ _ | .sequenced _ _ => .build
  | .accepted _ _ => .request

def Label.topic : Label → Topic
  | .quiet | .number | .stage _ _ => .session
  | .note o => o.topic
  | .join _ _ | .drop _ => .member
  | .readiness => .readiness
  | .propose | .abort => .travel
  | .zoneWait | .ackReady _ _ _ => .commit
  | .ackZone _ _ _ => .resume
  | .lock _ | .release _ => .lock
  | .submit _ _ _ => .build
  | .accept _ => .request
  | .status => .status
  | .count => .view
  | .clock => .clock

/-- the calls on the travel coordinator behind a step -/
def Label.calls : Label → Travel.Op → Prop
  | .propose, .propose _ _ _ _ | .abort, .abort _ | .zoneWait, .beginZoneWait _ => True
  | .ackReady player txnId epoch, o => o = .markReady player txnId epoch
  | .ackZone player txnId epoch, o => o = .markZoneReady player txnId epoch
  | .drop player, o => o = .removeParticipant player
  | _, _ => False

/-- the build authority after a call, with the notes the call leaves -/
def setBuild (h : Host) (b : BuildAuthority) (notes : List Out) : Host :=
  { h with session := { h.session with build := b }, log := notes ++ h.log }

inductive Does : Label → Host → Host → Prop where
  | quiet {h h' : Host} (q : Quiet h h') (same : ∀ p, h'.session.readinessOf p = h.session.readinessOf p) :
      Does .quiet h h'
  | readiness {h h' : Host} (q : Quiet h h') : Does .readiness h h'
  | note (h : Host) (o : Out) : Does (.note o) h (h.note o)
  | number (h : Host) : Does .number h { h with seq := h.seq + 1 }
  | stage (h : Host) (conn : ℕ) (s : Stage) : Does (.stage conn s) h { h with conns := h.conns.setItem conn s }
  | join (h : Host) (player name : String) (m : CompatibilityManifest) (conn : ℕ) (new : player ∉ h.peers)
      (other : player ≠ h.playerId) : Does (.join player conn) h (h.registered player name m conn)
  | drop (h : Host) (player : String) : Does (.drop player) h (h.removed player)
  | propose (h : Host) (zoneId : String) (actorIds : List String) (uuid : String) {t : TravelTxn} {c : TravelCoordinator}
      (e : h.session.travel.propose zoneId actorIds h.session.players.keys uuid = .ok (t, c)) :
      Does .propose h (h.setTravel c)
  | abort (h : Host) (txnId : String) {c : TravelCoordinator} (e : h.session.travel.abort txnId = .ok c) :
      Does .abort h (h.setTravel c)
  | zoneWait (h : Host) (txnId : String) {c : TravelCoordinator} (e : h.session.travel.beginZoneWait txnId = .ok c) :
      Does .zoneWait h (h.setTravel c)
  | ackReady (h : Host) (player txnId : String) (epoch : ℤ) :
      Does (.ackReady player txnId epoch) h (h.ackReady player txnId epoch).2
  | ackZone (h : Host) (player txnId : String) (epoch : ℤ) :
      Does (.ackZone player txnId epoch) h (h.ackZone player txnId epoch).2
  | lock (h : Host) (player : String) (t₁ t₂ wall : ℕ) (notes : List Out) (topics : ∀ o ∈ notes, o.topic = .lock) :
      Does (.lock player) h (h.setBuild (h.session.build.requestLock player t₁ t₂ wall).2 notes)
  | release (h : Host) (player : String) :
      Does (.release player) h (h.setBuild (h.session.build.releaseLock player).2 [])
  | sequenced (h : Host) (player op : String) (data : List (String × Json)) (t₁ t₂ : ℕ) {o : BuildOperation}
      {b : BuildAuthority} (e : h.session.build.submit player op data t₁ t₂ = (.ok o, b)) :
      Does (.submit player op data) h
        (h.setBuild b [.sequenced b.ownerId o, .captured player op data h.session.build t₁])
  | refused (h : Host) (player op : String) (data : List (String × Json)) (t₁ t₂ : ℕ) {exc : Exc} {b : BuildAuthority}
      (e : h.session.build.submit player op data t₁ t₂ = (.error exc, b)) :
      Does (.submit player op data) h (h.setBuild b [.captured player op data h.session.build t₁])
  | accept (h : Host) (requestId : Json) (player : String) (payload : List (String × Json)) {rid : String}
      {s : HostSession} (e : h.session.validateInteraction requestId player payload = .ok (rid, s)) :
      Does (.accept player) h
        ({ h with session := s }.note (.accepted player ((s.interactionRequests.lookup rid).getD [])))
  | status (h : Host) {requests : Dict String InteractionRequest}
      (kept : HostSession.Kept h.session.interactionRequests requests) :
      Does .status h { h with session := { h.session with interactionRequests := requests } }
  | clock (h : Host) (clock : Clock) : Does .clock h { h with session := { h.session with clock } }
  | count (h : Host) (msgId : ℤ) (size : ℕ) :
      Does .count h { h with gameSequence := h.gameSequence + 1, viewUpdatesSent := h.viewUpdatesSent + 1,
                             lastViewUpdateSize := size, lastViewUpdateMsgId := some msgId }

/-! ## What a step leaves alone -/

/-- what an acknowledgement of readiness does to the host -/
theorem ackReady_cases (h : Host) (player txnId : String) (epoch : ℤ) :
    (∃ c, h.session.travel.markReady player txnId (some epoch) = .ok (true, c) ∧
        h.ackReady player txnId epoch = (.ok true, (h.setTravel c).note (.met .commit epoch (h.seq + 1)))) ∨
      (∃ c, h.session.travel.markReady player txnId (some epoch) = .ok (false, c) ∧
        h.ackReady player txnId epoch = (.ok false, h.setTravel c)) ∨
      ∃ e, h.session.travel.markReady player txnId (some epoch) = .error e ∧
        h.ackReady player txnId epoch = (.error e, h) := by
  unfold ackReady
  rcases hm : h.session.travel.markReady player txnId (some epoch) with e | ⟨_ | _, c⟩
  · exact Or.inr (Or.inr ⟨e, rfl, rfl⟩)
  · exact Or.inr (Or.inl ⟨c, rfl, rfl⟩)
  · exact Or.inl ⟨c, rfl, rfl⟩

/-- what an acknowledgement of the zone does to the host -/
theorem ackZone_cases (h : Host) (player txnId : String) (epoch : ℤ) :
    (∃ c, h.session.travel.markZoneReady player txnId (some epoch) = .ok (true, c) ∧
        h.ackZone player txnId epoch = (.ok true, (h.setTravel c).note (.met .resume epoch (h.seq + 1)))) ∨
      (∃ c, h.session.travel.markZoneReady player txnId (some epoch) = .ok (false, c) ∧
        h.ackZone player txnId epoch = (.ok false, h.setTravel c)) ∨
      ∃ e, h.session.travel.markZoneReady player txnId (some epoch) = .error e ∧
        h.ackZone player txnId epoch = (.error e, h) := by
  unfold ackZone
  rcases hm : h.session.travel.markZoneReady player txnId (some epoch) with e | ⟨_ | _, c⟩
  · exact Or.inr (Or.inr ⟨e, rfl, rfl⟩)
  · exact Or.inr (Or.inl ⟨c, rfl, rfl⟩)
  · exact Or.inl ⟨c, rfl, rfl⟩

/-- an acknowledgement of readiness is a call on the coordinator -/
theorem ackReady_travel (h : Host) (player txnId : String) (epoch : ℤ) :
    (h.ackReady player txnId epoch).2.session.travel =
      Travel.step h.session.travel (.markReady player txnId epoch) := by
  rcases ackReady_cases h player txnId epoch with ⟨c, hc, e⟩ | ⟨c, hc, e⟩ | ⟨exc, hc, e⟩
  · rw [e, Travel.step_ok (by rw [Travel.call, hc]; rfl)]
    rfl
  · rw [e, Travel.step_ok (by rw [Travel.call, hc]; rfl)]
    rfl
  · rw [e, Travel.step_error (by rw [Travel.call, hc]; rfl)]

/-- and so is one of the zone -/
theorem ackZone_travel (h : Host) (player txnId : String) (epoch : ℤ) :
    (h.ackZone player txnId epoch).2.session.travel =
      Travel.step h.session.travel (.markZoneReady player txnId epoch) := by
  rcases ackZone_cases h player txnId epoch with ⟨c, hc, e⟩ | ⟨c, hc, e⟩ | ⟨exc, hc, e⟩
  · rw [e, Travel.step_ok (by rw [Travel.call, hc]; rfl)]
    rfl
  · rw [e, Travel.step_ok (by rw [Travel.call, hc]; rfl)]
    rfl
  · rw [e, Travel.step_error (by rw [Travel.call, hc]; rfl)]

/-- an acknowledgement sets the travel, and may leave a note -/
theorem ackReady_sets (h : Host) (player txnId : String) (epoch : ℤ) : ∃ c os, (h.ackReady player txnId epoch).2 =
    { h with session := { h.session with travel := c }, log := os ++ h.log } := by
  rcases ackReady_cases h player txnId epoch with ⟨c, -, e⟩ | ⟨c, -, e⟩ | ⟨exc, -, e⟩ <;> rw [e]
  · exact ⟨c, [_], rfl⟩
  · exact ⟨c, [], rfl⟩
  · exact ⟨h.session.travel, [], rfl⟩

theorem ackZone_sets (h : Host) (player txnId : String) (epoch : ℤ) : ∃ c os, (h.ackZone player txnId epoch).2 =
    { h with session := { h.session with travel := c }, log := os ++ h.log } := by
  rcases ackZone_cases h player txnId epoch with ⟨c, -, e⟩ | ⟨c, -, e⟩ | ⟨exc, -, e⟩ <;> rw [e]
  · exact ⟨c, [_], rfl⟩
  · exact ⟨c, [], rfl⟩
  · exact ⟨h.session.travel, [], rfl⟩

namespace Does

variable {l : Label} {h h' : Host}

/-- the log grows by entries of the step's topic -/
theorem log (d : Does l h h') : ∃ os, h'.log = os ++ h.log ∧ ∀ o ∈ os, o.topic = l.topic := by
  have hnone : ∀ {k : Host}, k.log = h.log → ∃ os, k.log = os ++ h.log ∧ ∀ o ∈ os, o.topic = l.topic :=
    fun e => ⟨[], by simpa using e, by simp⟩
  have hone : ∀ {k : Host} (o : Out), o.topic = l.topic → k.log = o :: h.log →
      ∃ os, k.log = os ++ h.log ∧ ∀ o ∈ os, o.topic = l.topic := fun o ho e => ⟨[o], e, by simpa using ho⟩
  cases d with
  | quiet q | readiness q => exact hnone q.log
  | note _ o => exact hone o rfl rfl
  | number | stage | count | propose | abort | zoneWait | release | status | clock => exact hnone rfl
  | join | drop | accept => exact hone _ rfl rfl
  | ackReady _ player txnId epoch =>
    rcases ackReady_cases h player txnId epoch with ⟨c, -, e⟩ | ⟨c, -, e⟩ | ⟨exc, -, e⟩ <;> rw [e]
    · exact hone _ rfl rfl
    · exact hnone rfl
    · exact hnone rfl
  | ackZone _ player txnId epoch =>
    rcases ackZone_cases h player txnId epoch with ⟨c, -, e⟩ | ⟨c, -, e⟩ | ⟨exc, -, e⟩ <;> rw [e]
    · exact hone _ rfl rfl
    · exact hnone rfl
    · exact hnone rfl
  | lock _ player t₁ t₂ wall notes topics => exact ⟨notes, rfl, topics⟩
  | sequenced =>
    refine ⟨[_, _], rfl, fun o ho => ?_⟩
    simp only [List.mem_cons, List.not_mem_nil, or_false] at ho
    rcases ho with rfl | rfl
    · rfl
    · rfl
  | refused => exact hone _ rfl rfl

theorem playerId (d : Does l h h') : h'.playerId = h.playerId := by
  cases d with
  | quiet q | readiness q => exact q.playerId
  | ackReady _ player txnId epoch =>
    obtain ⟨c, os, e⟩ := ackReady_sets h player txnId epoch
    rw [e]
  | ackZone _ player txnId epoch =>
    obtain ⟨c, os, e⟩ := ackZone_sets h player txnId epoch
    rw [e]
  | _ => rfl

/-- the clock does not go back -/
theorem now (d : Does l h h') : h.now ≤ h'.now := by
  cases d with
  | quiet q | readiness q => exact q.now
  | ackReady _ player txnId epoch =>
    obtain ⟨c, os, e⟩ := ackReady_sets h player txnId epoch
    rw [e]
  | ackZone _ player txnId epoch =>
    obtain ⟨c, os, e⟩ := ackZone_sets h player txnId epoch
    rw [e]
  | _ => exact le_rfl

/-- stored requests stay -/
theorem kept (d : Does l h h') :
    HostSession.Kept h.session.interactionRequests h'.session.interactionRequests := by
  cases d with
  | quiet q | readiness q =>
    rw [q.session.requests]
    exact .refl _
  | join _ player name m conn =>
    have he := (HostSession.addPlayer_calm h.session player name m).requests
    intro rid r hr
    exact ⟨r, by rw [← hr]; exact congrArg _ he, rfl⟩
  | drop _ player =>
    have he : (h.removed player).session.interactionRequests = h.session.interactionRequests :=
      (HostSession.removePlayer_eq h.session player).2.2.2.1
    rw [he]
    exact .refl _
  | ackReady _ player txnId epoch =>
    obtain ⟨c, os, e⟩ := ackReady_sets h player txnId epoch
    rw [e]
    exact .refl _
  | ackZone _ player txnId epoch =>
    obtain ⟨c, os, e⟩ := ackZone_sets h player txnId epoch
    rw [e]
    exact .refl _
  | accept _ requestId player payload e =>
    obtain ⟨r, -, hnew, rfl⟩ := HostSession.validateInteraction_ok e
    intro rid' r' hr'
    refine ⟨r', ?_, rfl⟩
    have hne : rid' ≠ _ := fun heq => by rw [heq, hnew] at hr'; cases hr'
    exact (AList.lookup_setItem_ne _ _ hne).trans hr'
  | status _ kept => exact kept
  | _ => exact .refl _

/-- what a step does to the travel, it does by one call on the coordinator -/
theorem change (d : Does l h h') : h'.session.travel = h.session.travel ∨
    ∃ o, l.calls o ∧ Travel.Change h.session.travel o h'.session.travel := by
  have hcall : ∀ (o : Travel.Op) (c : TravelCoordinator), l.calls o → Travel.step h.session.travel o = c →
      ∃ o, l.calls o ∧ Travel.Change h.session.travel o c := by
    intro o c ho he
    exact ⟨o, ho, he ▸ Travel.step_change h.session.travel o⟩
  cases d with
  | quiet q | readiness q => exact Or.inl q.session.travel
  | join _ player name m conn => exact Or.inl (HostSession.addPlayer_calm h.session player name m).travel
  | drop _ player =>
    right
    apply hcall (.removeParticipant player) _ rfl
    exact (HostSession.removePlayer_eq h.session player).2.1.symm
  | propose _ zoneId actorIds uuid e =>
    right
    apply hcall (.propose zoneId actorIds h.session.players.keys uuid) _ trivial
    exact Travel.step_ok (by rw [Travel.call, e]; rfl)
  | abort _ txnId e =>
    right
    apply hcall (.abort txnId) _ trivial
    exact Travel.step_ok (by rw [Travel.call, e]; rfl)
  | zoneWait _ txnId e =>
    right
    apply hcall (.beginZoneWait txnId) _ trivial
    exact Travel.step_ok (by rw [Travel.call, e]; rfl)
  | ackReady _ player txnId epoch =>
    right
    apply hcall (.markReady player txnId epoch) _ rfl
    exact (ackReady_travel h player txnId epoch).symm
  | ackZone _ player txnId epoch =>
    right
    apply hcall (.markZoneReady player txnId epoch) _ rfl
    exact (ackZone_travel h player txnId epoch).symm
  | accept _ requestId player payload e =>
    obtain ⟨r, -, -, rfl⟩ := HostSession.validateInteraction_ok e
    exact Or.inl rfl
  | _ => exact Or.inl rfl

/-- only steps on the lock and on operations and departures touch the build authority -/
theorem build (d : Does l h h') (hl : l.topic ≠ .lock) (hb : l.topic ≠ .build) (hm : ∀ p, l ≠ .drop p) :
    h'.session.build = h.session.build := by
  cases d with
  | quiet q | readiness q => exact q.session.build
  | join _ player name m conn => exact (HostSession.addPlayer_calm h.session player name m).build
  | drop _ player => exact absurd rfl (hm player)
  | lock | release => exact absurd rfl hl
  | sequenced | refused => exact absurd rfl hb
  | ackReady _ player txnId epoch =>
    obtain ⟨c, os, e⟩ := ackReady_sets h player txnId epoch
    rw [e]
  | ackZone _ player txnId epoch =>
    obtain ⟨c, os, e⟩ := ackZone_sets h player txnId epoch
    rw [e]
  | accept _ requestId player payload e =>
    obtain ⟨r, -, -, rfl⟩ := HostSession.validateInteraction_ok e
    rfl
  | _ => rfl

/-- only arrivals and departures touch the peers -/
theorem peers (d : Does l h h') (hm : l.topic ≠ .member) :
    h'.peers.keys = h.peers.keys ∧ ∀ p, (h'.peers.lookup p).map (·.conn) = (h.peers.lookup p).map (·.conn) := by
  cases d with
  | quiet q | readiness q => exact ⟨q.keys, q.conns⟩
  | join | drop => exact absurd rfl hm
  | ackReady _ player txnId epoch =>
    obtain ⟨c, os, e⟩ := ackReady_sets h player txnId epoch
    rw [e]
    exact ⟨rfl, fun _ => rfl⟩
  | ackZone _ player txnId epoch =>
    obtain ⟨c, os, e⟩ := ackZone_sets h player txnId epoch
    rw [e]
    exact ⟨rfl, fun _ => rfl⟩
  | _ => exact ⟨rfl, fun _ => rfl⟩

theorem players (d : Does l h h') (hm : l.topic ≠ .member) :
    h'.session.players.keys = h.session.players.keys := by
  cases d with
  | quiet q | readiness q => exact q.session.players
  | join | drop => exact absurd rfl hm
  | ackReady _ player txnId epoch =>
    obtain ⟨c, os, e⟩ := ackReady_sets h player txnId epoch
    rw [e]
  | ackZone _ player txnId epoch =>
    obtain ⟨c, os, e⟩ := ackZone_sets h player txnId epoch
    rw [e]
  | accept _ requestId player payload e =>
    obtain ⟨r, -, -, rfl⟩ := HostSession.validateInteraction_ok e
    rfl
  | _ => rfl

end Does

/-- the steps of these topics -/
def On (T : List Topic) (h h' : Host) : Prop := ∃ l : Label, l.topic ∈ T ∧ Does l h h'

theorem On.mono {T T' : List Topic} (h : T ⊆ T') {a b : Host} (hab : On T a b) : On T' a b := by
  obtain ⟨l, hl, hd⟩ := hab
  exact ⟨l, h hl, hd⟩

/-! ## Steps of a handler on its own -/

/-- an entry that is neither about a peer nor about a connection -/
def Out.aside : Out → Bool
  | .wrote _ _ _ | .closed _ | .sending _ _ _ _ | .cut _ _ | .joined _ _ | .left _ _ => false
  | _ => true

/-- a step that counts no broadcast and leaves connections and members alone -/
def Label.aside : Label → Bool
  | .number | .stage _ _ | .join _ _ | .drop _ => false
  | _ => true

/-- the steps of these topics that have nothing to do with peers and connections -/
def Aside (T : List Topic) (h h' : Host) : Prop :=
  ∃ l : Label, l.topic ∈ T ∧ l.aside = true ∧ Does l h h' ∧ ∃ os, h'.log = os ++ h.log ∧ ∀ o ∈ os, o.aside = true

theorem Aside.on {T : List Topic} {h h' : Host} (d : Aside T h h') : On T h h' :=
  let ⟨l, hl, _, hd, _⟩ := d
  ⟨l, hl, hd⟩

/-- a program built from such steps, messages to one peer, broadcasts, and programs of `Own` -/
inductive Made (T : List Topic) (Own : (α : Type) → HostM α → Prop) : {α : Type} → HostM α → Prop
  | own {α : Type} {p : HostM α} (h : Own α p) : Made T Own p
  | aside {α : Type} {p : HostM α} (h : Guar (Aside T) p) : Made T Own p
  | sendPeer (player : String) {type : MessageType} (payload : Payload) {seq : Option ℕ} (ht : type.topic ∈ T)
      (hseq : seq = none ∨ type = .snapshot) : Made T Own (Host.sendPeer player type payload seq)
  | broadcastPeers {type : MessageType} (payload : Payload) (ht : type.topic ∈ T) (hne : type ≠ .snapshot) :
      Made T Own (Host.broadcastPeers type payload)
  | bind {α β : Type} {p : HostM α} {f : α → HostM β} (hp : Made T Own p) (hf : ∀ a, Made T Own (f a)) :
      Made T Own (p >>= f)
  | attempt {α : Type} {p : HostM α} (hp : Made T Own p) : Made T Own p.attempt

section aside
variable {T : List Topic}

theorem aside_unlogged {l : Label} (hl : l.topic ∈ T) (ha : l.aside = true) {h h' : Host} (d : Does l h h')
    (hlog : h'.log = h.log) : Aside T h h' := ⟨l, hl, ha, d, [], by simpa using hlog, by simp⟩

theorem aside_quiet (hs : .session ∈ T) {h h' : Host} (q : Quiet h h')
    (same : ∀ p, h'.session.readinessOf p = h.session.readinessOf p) : Aside T h h' :=
  aside_unlogged (l := .quiet) hs rfl (.quiet q same) q.log

theorem aside_refl (hs : .session ∈ T) (h : Host) : Aside T h h := aside_quiet hs (Quiet.refl h) fun _ => rfl

theorem aside_note {o : Out} (ho : o.topic ∈ T) (ha : o.aside = true) (h : Host) : Aside T h (h.note o) :=
  ⟨.note o, ho, rfl, .note h o, [o], rfl, by simpa using ha⟩

theorem aside_emit {o : Out} (ho : o.topic ∈ T) (ha : o.aside = true) : Guar (Aside T) (emit o) :=
  guar_modify fun h => aside_note ho ha h

theorem aside_read (hs : .session ∈ T) : Guar (Aside T) (Coro.get : HostM Host) := guar_get (aside_refl hs)

theorem aside_readClock (hs : .session ∈ T) : Guar (Aside T) readClock :=
  guar_bind guar_askEnv fun _ => guar_call fun _ =>
    aside_quiet hs ⟨rfl, .refl _, rfl, fun _ => rfl, rfl, rfl, rfl, rfl, Nat.le_add_right _ _⟩ fun _ => rfl

theorem aside_drawUuid (hs : .session ∈ T) : Guar (Aside T) drawUuid :=
  guar_call fun _ => aside_quiet hs ⟨rfl, .refl _, rfl, fun _ => rfl, rfl, rfl, rfl, rfl, le_rfl⟩ fun _ => rfl

theorem aside_bridgeSend {type : MessageType} (ht : type.gameTopic ∈ T) (payload : Payload) :
    Guar (Aside T) (bridgeSend type payload) := guar_bind guar_askEnv fun _ => guar_call fun h => aside_note ht rfl h

theorem aside_onSession (hs : .session ∈ T) {α : Type} {f : HostSession → Except Exc α × HostSession}
    (hf : ∀ s, HostSession.Calm s (f s).2) (hsame : ∀ s p, (f s).2.readinessOf p = s.readinessOf p) :
    Guar (Aside T) (onSession f) := guar_tryCall fun h =>
  aside_quiet hs ⟨rfl, hf h.session, rfl, fun _ => rfl, rfl, rfl, rfl, rfl, le_rfl⟩ (hsame h.session)

theorem aside_updateReadiness (hr : .readiness ∈ T) (player : String) (fields : List (String × Json)) :
    Guar (Aside T) (updateReadiness player fields) := by
  refine guar_tryCall fun h => aside_unlogged (l := .readiness) hr rfl (.readiness ?_) rfl
  exact ⟨rfl, HostSession.updateReadiness_calm h.session player fields, rfl, fun _ => rfl, rfl, rfl, rfl, rfl, le_rfl⟩

/-- what a call that returns does, or nothing -/
theorem orUnchanged_of {α : Type} {P : HostSession → Prop} {s : HostSession} {r : Except Exc (α × HostSession)} (hs : P s)
    (h : ∀ a s', r = .ok (a, s') → P s') : P (orUnchanged s r).2 := by
  cases r with
  | ok p => exact h p.1 p.2 rfl
  | error e => exact hs

theorem aside_setClock (hc : .clock ∈ T) (f : Clock → Clock) : Guar (Aside T) (setClock f) :=
  guar_tryCall fun h => aside_unlogged (l := .clock) hc rfl (.clock h _) rfl

theorem aside_selectSim (hs : .session ∈ T) (player simId : String) : Guar (Aside T) (selectSim player simId) :=
  aside_onSession hs (fun s => orUnchanged_of (.refl s) fun _ _ h => HostSession.selectSim_calm h)
    fun s p => orUnchanged_of (P := fun s' => s'.readinessOf p = s.readinessOf p) rfl
      fun _ _ h => HostSession.selectSim_readiness h p

theorem aside_updateSims (hs : .session ∈ T) (sims : List Json) : Guar (Aside T) (updateSims sims) := by
  have hcases : ∀ s s' : HostSession, (s.updateSims sims).map (fun s' => ((), s')) = .ok ((), s') →
      s.updateSims sims = .ok s' := by
    intro s s' h
    cases hu : s.updateSims sims with
    | error e => rw [hu] at h; cases h
    | ok s₁ => rw [hu] at h; cases h; rfl
  exact aside_onSession hs (fun s => orUnchanged_of (.refl s) fun _ s' h => HostSession.updateSims_calm (hcases s s' h))
    fun s p => orUnchanged_of (P := fun s' => s'.readinessOf p = s.readinessOf p) rfl
      fun _ s' h => HostSession.updateSims_readiness (hcases s s' h) p

theorem aside_cancelInteraction (hs : .session ∈ T) (hst : .status ∈ T) (requestId : Json) (player : String)
    (payload : List (String × Json)) : Guar (Aside T) (cancelInteraction requestId player payload) := by
  refine guar_tryCall fun h => ?_
  cases he : h.session.cancelInteraction requestId player payload with
  | error e =>
    simp only [orUnchanged, he]
    exact aside_refl hs h
  | ok r =>
    obtain ⟨j, s⟩ := r
    obtain ⟨requests, hkept, rfl⟩ := HostSession.cancelInteraction_kept he
    simp only [orUnchanged, he]
    exact aside_unlogged (l := .status) hst rfl (.status h hkept) rfl

theorem aside_setRequestField (hst : .status ∈ T) (rid : String) {key : String} (v : Json)
    (hkey : ["status", "interaction_id", "command"].contains key = true) : Guar (Aside T) (setRequestField rid key v) :=
  guar_tryCall fun h => aside_unlogged (l := .status) hst rfl
    (.status h (HostSession.setRequestField_kept h.session rid v hkey)) rfl

theorem aside_dispatchCommand (hs : .session ∈ T) (player family : String) (payload : List (String × Json))
    (requestId : Json) (uuid : String) : Guar (Aside T) (dispatchCommand player family payload requestId uuid) :=
  aside_onSession hs (fun _ => ⟨rfl, rfl, rfl, rfl, rfl⟩) fun _ _ => rfl

theorem aside_respondDialog (hs : .session ∈ T) (player dialogId : String) (response : List (String × Json)) :
    Guar (Aside T) (respondDialog player dialogId response) :=
  aside_onSession hs (fun _ => ⟨rfl, rfl, rfl, rfl, rfl⟩) fun _ _ => rfl

theorem aside_validateInteraction (hs : .session ∈ T) (hr : .request ∈ T) (requestId : Json) (player : String)
    (payload : List (String × Json)) : Guar (Aside T) (validateInteraction requestId player payload) := by
  refine guar_tryCall fun h => ?_
  cases he : h.session.validateInteraction requestId player payload with
  | error e => exact aside_refl hs h
  | ok r => exact ⟨.accept player, hr, rfl, .accept h requestId player payload he, [_], rfl, by simp [Out.aside]⟩

theorem aside_requestLockNoting (hs : .session ∈ T) (hl : .lock ∈ T) (player : String)
    {record : BuildAuthority → ℕ → List Out} (hr : ∀ b t, ∀ o ∈ record b t, o.topic = .lock)
    (ha : ∀ b t, ∀ o ∈ record b t, o.aside = true) : Guar (Aside T) (requestLockNoting player record) :=
  guar_bind (aside_readClock hs) fun t₁ => guar_bind (aside_readClock hs) fun t₂ => guar_call fun h =>
    ⟨.lock player, hl, rfl, .lock h player t₁ t₂ h.now _ (hr _ _), _, rfl, ha _ _⟩

theorem aside_requestLock (hs : .session ∈ T) (hl : .lock ∈ T) (player : String) :
    Guar (Aside T) (requestLock player) := aside_requestLockNoting hs hl player (by simp) (by simp)

theorem aside_releaseLock (hl : .lock ∈ T) (player : String) : Guar (Aside T) (releaseLock player) :=
  guar_call fun h => aside_unlogged (l := .release player) hl rfl (.release h player) rfl

theorem aside_submit (hs : .session ∈ T) (hb : .build ∈ T) (player op : String) (data : List (String × Json)) :
    Guar (Aside T) (submit player op data) := by
  refine guar_bind (aside_readClock hs) fun t₁ => guar_bind (aside_readClock hs) fun t₂ => guar_tryCall fun h => ?_
  rcases he : h.session.build.submit player op data t₁ t₂ with ⟨exc | o, b⟩
  · exact ⟨.submit player op data, hb, rfl, .refused h player op data t₁ t₂ he, [_], rfl, by simp [Out.aside]⟩
  · exact ⟨.submit player op data, hb, rfl, .sequenced h player op data t₁ t₂ he, [_, _], rfl, by simp [Out.aside]⟩

theorem conn_setLastSeq (d : Dict String Peer) (player p : String) (seq : Json) :
    ((d.mapItems fun q peer => if q = player then { peer with lastSeq := seq } else peer).lookup p).map (·.conn) =
      (d.lookup p).map (·.conn) := by
  rw [AList.lookup_mapItems]
  cases d.lookup p with
  | none => rfl
  | some peer => simp only [Option.map_some]; split_ifs <;> rfl

theorem aside_setLastSeq (hs : .session ∈ T) (player : String) (seq : Json) : Guar (Aside T) (setLastSeq player seq) :=
  guar_modify fun h => aside_quiet hs ⟨rfl, .refl _, AList.keys_mapItems _ _,
    fun p => conn_setLastSeq h.peers player p seq, rfl, rfl, rfl, rfl, le_rfl⟩ fun _ => rfl

theorem aside_onTravel (hs : .session ∈ T) {α : Type} {f : TravelCoordinator → Except Exc (α × TravelCoordinator)}
    (hf : ∀ h : Host, ∀ a c, f h.session.travel = .ok (a, c) → Aside T h (h.setTravel c)) :
    Guar (Aside T) (onTravel f) := by
  refine guar_tryCall fun h => ?_
  cases he : f h.session.travel with
  | error e => exact aside_refl hs h
  | ok r => exact hf h r.1 r.2 he

theorem aside_propose (hs : .session ∈ T) (ht : .travel ∈ T) (zoneId : String) (actorIds : List String)
    (uuid : String) : Guar (Aside T) (propose zoneId actorIds uuid) := by
  refine guar_tryCall fun h => ?_
  cases he : h.session.travel.propose zoneId actorIds h.session.players.keys uuid with
  | error e => exact aside_refl hs h
  | ok r => exact aside_unlogged (l := .propose) ht rfl (.propose h zoneId actorIds uuid he) rfl

theorem aside_abort (hs : .session ∈ T) (ht : .travel ∈ T) (txnId : String) : Guar (Aside T) (abort txnId) := by
  refine aside_onTravel hs fun h a c he => ?_
  cases hr : h.session.travel.abort txnId with
  | error e => rw [hr] at he; cases he
  | ok c' => rw [hr] at he; cases he; exact aside_unlogged (l := .abort) ht rfl (.abort h txnId hr) rfl

theorem aside_beginZoneWait (hs : .session ∈ T) (hc : .commit ∈ T) (txnId : String) :
    Guar (Aside T) (beginZoneWait txnId) := by
  refine aside_onTravel hs fun h a c he => ?_
  cases hr : h.session.travel.beginZoneWait txnId with
  | error e => rw [hr] at he; cases he
  | ok c' => rw [hr] at he; cases he; exact aside_unlogged (l := .zoneWait) hc rfl (.zoneWait h txnId hr) rfl

theorem aside_markReady (hc : .commit ∈ T) (player txnId : String) (epoch : ℤ) :
    Guar (Aside T) (markReady player txnId epoch) := by
  refine guar_tryCall fun h => ⟨.ackReady player txnId epoch, hc, rfl, .ackReady h player txnId epoch, ?_⟩
  rcases ackReady_cases h player txnId epoch with ⟨c, -, e⟩ | ⟨c, -, e⟩ | ⟨exc, -, e⟩ <;> rw [e]
  · exact ⟨[_], rfl, by simp [Out.aside]⟩
  · exact ⟨[], rfl, by simp⟩
  · exact ⟨[], rfl, by simp⟩

theorem aside_markZoneReady (hz : .resume ∈ T) (player txnId : String) (epoch : ℤ) :
    Guar (Aside T) (markZoneReady player txnId epoch) := by
  refine guar_tryCall fun h => ⟨.ackZone player txnId epoch, hz, rfl, .ackZone h player txnId epoch, ?_⟩
  rcases ackZone_cases h player txnId epoch with ⟨c, -, e⟩ | ⟨c, -, e⟩ | ⟨exc, -, e⟩ <;> rw [e]
  · exact ⟨[_], rfl, by simp [Out.aside]⟩
  · exact ⟨[], rfl, by simp⟩
  · exact ⟨[], rfl, by simp⟩

theorem aside_setBatchOpen (hs : .session ∈ T) (b : Bool) : Guar (Aside T) (setBatchOpen b) :=
  guar_modify fun _ => aside_quiet hs ⟨rfl, .refl _, rfl, fun _ => rfl, rfl, rfl, rfl, rfl, le_rfl⟩ fun _ => rfl

theorem aside_nextGameSequence (hv : .view ∈ T) (msgId : ℤ) (size : ℕ) :
    Guar (Aside T) (nextGameSequence msgId size) :=
  guar_call fun h => aside_unlogged (l := .count) hv rfl (.count h msgId size) rfl

end aside

/-! ## Peers and connections -/

section guar
variable {T : List Topic}

theorem on_refl (hs : .session ∈ T) (h : Host) : On T h h := ⟨.quiet, hs, .quiet (Quiet.refl h) fun _ => rfl⟩

theorem on_note {o : Out} (ho : o.topic ∈ T) (h : Host) : On T h (h.note o) := ⟨.note o, ho, .note h o⟩

theorem guar_of_aside {α : Type} {p : HostM α} (hp : Guar (Aside T) p) : Guar (On T) p := hp.mono fun _ _ d => d.on

theorem guar_emit {o : Out} (ho : o.topic ∈ T) : Guar (On T) (emit o) := guar_modify fun h => on_note ho h

theorem guar_nextSeq (hs : .session ∈ T) : Guar (On T) nextSeq := guar_call fun h => ⟨.number, hs, .number h⟩

theorem guar_write (player : String) (conn : ℕ) {type : MessageType} (ht : type.topic ∈ T) (payload : Payload)
    (seq : Option ℕ) (messageId : String) : Guar (On T) (write player conn type payload seq messageId) :=
  guar_modify fun h => on_note ht h

theorem guar_drain {G : Host → Host → Prop} : Guar G drain := by
  refine guar_bind guar_suspend fun a => ?_
  split_ifs
  · exact guar_pure ()
  · exact guar_raise _

/-- a message to one connection -/
theorem guar_post {G : Host → Host → Prop} (hdraw : Guar G drawUuid) {player : String} {conn : ℕ} {type : MessageType}
    {payload : Payload} {seq : Option ℕ} (hwrite : ∀ messageId, Guar G (write player conn type payload seq messageId)) :
    Guar G (do let messageId ← drawUuid; write player conn type payload seq messageId; drain : HostM Unit) :=
  guar_bind hdraw fun messageId => guar_bind (hwrite messageId) fun _ => guar_drain

theorem guar_closeWriter (hs : .session ∈ T) (conn : ℕ) : Guar (On T) (closeWriter conn) :=
  guar_bind (guar_emit hs) fun _ => guar_bind guar_suspend fun _ => guar_pure ()

theorem guar_setStage (hs : .session ∈ T) (conn : ℕ) (stage : Stage) : Guar (On T) (setStage conn stage) :=
  guar_modify fun h => ⟨.stage conn stage, hs, .stage h conn stage⟩

theorem guar_depart (hm : .member ∈ T) (player : String) : Guar (On T) (depart player) :=
  guar_call fun h => ⟨.drop player, hm, .drop h player⟩

/-! ## Control and broadcasts -/

theorem guar_catching {P : Host → Host → Prop} {α : Type} {p : Exc → Bool} {body : HostM α} {handler : Exc → HostM α}
    (hb : Guar P body) (hh : ∀ e, Guar P (handler e)) : Guar P (catching p body handler) := by
  refine guar_bind (guar_attempt hb) fun r => ?_
  cases r with
  | ok a => exact guar_pure a
  | error e =>
    dsimp only
    split_ifs
    · exact hh e
    · exact guar_raise e

theorem guar_ifSome {P : Host → Host → Prop} {α : Type} (x : Option α) {f : α → HostM Unit}
    (hf : ∀ a, Guar P (f a)) : Guar P (ifSome x f) := by
  cases x with
  | none => exact guar_pure ()
  | some a => exact hf a

/-- what the loop of a broadcast does besides waiting: it writes, or finds the number of peers changed -/
def Writes (type : MessageType) (h h' : Host) : Prop :=
  h' = h ∨ (∃ seq, h' = h.note (.cut type seq)) ∨
    ∃ player conn env, env.type = type ∧ h' = h.note (.wrote player conn env)

theorem writes_writeEach (type : MessageType) (payload : Payload) (seq : ℕ) (messageId : String) (size : ℕ)
    (pids : List String) : Guar (Writes type) (writeEach type payload seq messageId size pids) := by
  have hcheck : Guar (Writes type) (checkSize type seq size) := by
    refine guar_bind (guar_get fun _ => Or.inl rfl) fun h => ?_
    split_ifs
    · exact guar_pure ()
    · exact guar_bind (guar_modify fun _ => Or.inr (Or.inl ⟨seq, rfl⟩)) fun _ => guar_raise _
  induction pids with
  | nil => exact guar_bind hcheck fun _ => guar_pure _
  | cons pid rest ih =>
    refine guar_bind hcheck fun _ => guar_bind (guar_get fun _ => Or.inl rfl) fun h => ?_
    cases h.peers.lookup pid with
    | none => exact ih
    | some peer =>
      refine guar_bind (guar_modify fun _ => Or.inr (Or.inr ⟨pid, peer.conn, _, rfl, rfl⟩)) fun _ => ?_
      exact guar_bind guar_suspend fun _ => guar_bind ih fun _ => guar_pure _

theorem Writes.on {type : MessageType} (hs : .session ∈ T) (ht : type.topic ∈ T) {h h' : Host} (w : Writes type h h') :
    On T h h' := by
  rcases w with rfl | ⟨seq, rfl⟩ | ⟨player, conn, env, rfl, rfl⟩
  · exact on_refl hs h'
  · exact on_note ht h
  · exact on_note ht h

theorem guar_writeEach (hs : .session ∈ T) {type : MessageType} (ht : type.topic ∈ T) (payload : Payload) (seq : ℕ)
    (messageId : String) (size : ℕ) (pids : List String) :
    Guar (On T) (writeEach type payload seq messageId size pids) :=
  (writes_writeEach type payload seq messageId size pids).mono fun _ _ w => w.on hs ht

theorem guar_drop (hs : .session ∈ T) (hm : .member ∈ T) (player : String) : Guar (On T) (drop player) :=
  guar_bind (guar_depart hm player) fun peer => guar_ifSome peer fun peer => guar_closeWriter hs peer.conn

theorem guar_dropAll (hs : .session ∈ T) (hm : .member ∈ T) (pids : List String) : Guar (On T) (dropAll pids) := by
  induction pids with
  | nil => exact guar_pure ()
  | cons pid rest ih => exact guar_bind (guar_drop hs hm pid) fun _ => ih

/-- a broadcast counts, notes its start, writes, and drops whom it could not reach -/
theorem guar_broadcastPeers_of {P : Host → Host → Prop} (hon : ∀ h h', On [.session, .member] h h' → P h h')
    {type : MessageType} (hsend : ∀ h payload seq travel, P h (h.note (.sending type payload seq travel)))
    (hwrites : ∀ h h', Writes type h h' → P h h') (payload : Payload) : Guar P (broadcastPeers type payload) := by
  refine guar_bind ((guar_nextSeq (by decide)).mono hon) fun seq => ?_
  refine guar_bind ((guar_of_aside (aside_drawUuid (by decide))).mono hon) fun messageId => ?_
  refine guar_bind ((guar_of_aside (aside_read (by decide))).mono hon) fun h => ?_
  refine guar_bind (guar_modify fun h' => hsend h' _ seq _) fun _ => ?_
  refine guar_bind ((writes_writeEach type payload.orEmpty seq messageId _ _).mono hwrites) fun dead => ?_
  exact (guar_dropAll (by decide) (by decide) dead).mono hon

theorem guar_broadcastPeers (hs : .session ∈ T) (hm : .member ∈ T) {type : MessageType} (ht : type.topic ∈ T)
    (payload : Payload) : Guar (On T) (broadcastPeers type payload) :=
  guar_broadcastPeers_of (fun _ _ => On.mono (by simp [hs, hm])) (fun h _ _ _ => on_note ht h)
    (fun _ _ w => w.on hs ht) payload

theorem guar_sendPeer (hs : .session ∈ T) (player : String) {type : MessageType} (ht : type.topic ∈ T)
    (payload : Payload) (seq : Option ℕ) : Guar (On T) (sendPeer player type payload seq) :=
  guar_bind (guar_of_aside (aside_read hs)) fun _ => guar_ifSome _ fun _ =>
    guar_post (guar_of_aside (aside_drawUuid hs)) fun _ => guar_write _ _ ht _ _ _

theorem guar_sendError (hs : .session ∈ T) (player reason : String) : Guar (On T) (sendError player reason) := by
  have ht : MessageType.error.topic ∈ T := hs
  exact guar_sendPeer hs player ht _ _

end guar

/-! ## Composition -/

section made
variable {T : List Topic} {Own : (α : Type) → HostM α → Prop}

/-- what is put together without programs of its own makes only steps on `T` -/
theorem guar_of_made {T : List Topic} (hs : .session ∈ T) (hm : .member ∈ T) {α : Type} {p : HostM α}
    (hp : Made T (fun _ _ => False) p) : Guar (On T) p := by
  induction hp with
  | own h => exact h.elim
  | aside h => exact guar_of_aside h
  | sendPeer player payload ht => exact guar_sendPeer hs player ht payload _
  | broadcastPeers payload ht => exact guar_broadcastPeers hs hm ht payload
  | bind _ _ ihp ihf => exact guar_bind ihp ihf
  | attempt _ ih => exact guar_attempt ih

theorem made_pure {α : Type} (a : α) : Made T Own (pure a : HostM α) := .aside (guar_pure a)

theorem made_raise {α : Type} (e : Exc) : Made T Own (.raise e : HostM α) := .aside (guar_raise e)

theorem made_ofExcept {α : Type} (r : Except Exc α) : Made T Own (ofExcept r : HostM α) := .aside (guar_ofExcept r)

theorem made_read (hs : .session ∈ T) : Made T Own (Coro.get : HostM Host) := .aside (aside_read hs)

theorem made_catching {α : Type} {p : Exc → Bool} {body : HostM α} {handler : Exc → HostM α} (hb : Made T Own body)
    (hh : ∀ e, Made T Own (handler e)) : Made T Own (catching p body handler) := by
  refine .bind (.attempt hb) fun r => ?_
  cases r with
  | ok a => exact made_pure a
  | error e =>
    dsimp only
    split_ifs
    · exact hh e
    · exact made_raise e

theorem made_ifSome {α : Type} (x : Option α) {f : α → HostM Unit} (hf : ∀ a, Made T Own (f a)) :
    Made T Own (ifSome x f) := by
  cases x with
  | none => exact made_pure ()
  | some a => exact hf a

theorem made_sendError (hs : .session ∈ T) (player reason : String) : Made T Own (sendError player reason) := by
  have ht : MessageType.error.topic ∈ T := hs
  exact .sendPeer player _ ht (Or.inl rfl)

theorem made_forward {type : MessageType} (ht : type.gameTopic ∈ T) (payload : Payload) :
    Made T Own (forward type payload) := .bind (.aside (aside_bridgeSend ht payload)) fun _ => made_pure ()

/-! ## Handlers of the runtime -/

/-- the topic of what the runtime does with a client's envelope -/
def runtimeTopic : MessageType → Topic
  | .travelRequest | .travelAbort => .travel
  | .travelReady => .commit
  | .travelZoneReady => .resume
  | .buildApply => .apply
  | .interactionAccepted | .interactionCommandAccepted => .request
  | _ => .session

theorem made_startTravel (hs : .session ∈ T) (ht : .travel ∈ T) (payload : Json) (player : String) :
    Made T Own (startTravel payload player) := by
  have hprepare : MessageType.travelPrepare.gameTopic ∈ T := ht
  have hpropose : MessageType.travelPropose.topic ∈ T := ht
  refine .bind (made_ofExcept _) fun zoneId => .bind (made_ofExcept _) fun actors => ?_
  split_ifs
  · exact made_pure ()
  · exact .bind (.aside (aside_drawUuid hs)) fun uuid => .bind (.aside (aside_propose hs ht _ _ _)) fun txn =>
      .bind (.aside (aside_bridgeSend hprepare _)) fun _ => .broadcastPeers _ hpropose (by decide)

theorem made_announceCommit (hs : .session ∈ T) (ht : .travel ∈ T) (hc : .commit ∈ T)
    (txnId : String) : Made T Own (announceCommit txnId) := by
  have hbatch : MessageType.travelViewBatch.topic ∈ T := ht
  have hcommit : MessageType.travelCommit.topic ∈ T := hc
  refine .bind (made_read hs) fun h => ?_
  cases h.session.travel.current with
  | none => exact made_raise _
  | some txn =>
    exact .bind (.broadcastPeers _ hbatch (by decide)) fun _ => .bind (.aside (aside_bridgeSend (by exact ht) _)) fun _ =>
      .bind (.aside (aside_bridgeSend (by exact hc) _)) fun _ => .bind (.broadcastPeers _ hcommit (by decide)) fun _ =>
        .aside (aside_beginZoneWait hs hc txnId)

theorem made_announceResume (hz : .resume ∈ T) (txnId : String) (epoch : ℤ) :
    Made T Own (announceResume txnId epoch) := by
  have hresume : MessageType.travelResume.topic ∈ T := hz
  exact .bind (.aside (aside_bridgeSend (by exact hz) _)) fun _ => .broadcastPeers _ hresume (by decide)

theorem made_travelReady (hs : .session ∈ T) (ht : .travel ∈ T) (hc : .commit ∈ T) (player : String)
    (payload : Json) : Made T Own (travelReady player payload) := by
  refine .bind (made_ofExcept _) fun txnId => ?_
  split_ifs
  · exact made_pure ()
  · refine .bind (made_catching (.bind (made_ofExcept _) fun epoch => .aside (aside_markReady hc _ _ _))
      fun _ => made_pure _) fun commit => ?_
    split_ifs
    · exact made_announceCommit hs ht hc txnId
    · exact made_pure ()

theorem made_acknowledgeZone (hs : .session ∈ T) (hz : .resume ∈ T) (player txnId : String) (payload : Json) :
    Made T Own (acknowledgeZone player txnId payload) := by
  refine .bind (made_read hs) fun h => ?_
  cases h.session.travel.current with
  | none => exact made_pure _
  | some expected =>
    refine .bind (made_ofExcept _) fun epoch => ?_
    split_ifs
    · exact made_pure _
    · exact .bind (.aside (aside_emit hz rfl)) fun _ => .bind (.aside (aside_markZoneReady hz _ _ _)) fun _ => made_pure _

theorem made_travelZoneReady (hs : .session ∈ T) (hz : .resume ∈ T) (player : String)
    (payload : Json) : Made T Own (travelZoneReady player payload) := by
  refine .bind (made_ofExcept _) fun txnId => ?_
  split_ifs
  · exact made_pure ()
  · exact .bind (made_catching (made_acknowledgeZone hs hz _ _ _) fun _ => made_pure _) fun resume =>
      made_ifSome resume fun epoch => made_announceResume hz txnId epoch

theorem made_travelAbort (hs : .session ∈ T) (ht : .travel ∈ T) (payload : Json) (reason : String) :
    Made T Own (travelAbort payload reason) := by
  have habort : MessageType.travelAbort.topic ∈ T := ht
  refine .bind (made_read hs) fun h => made_ifSome _ fun txn => .bind (made_ofExcept _) fun epoch => ?_
  split_ifs
  · exact .bind (.aside (aside_abort hs ht _)) fun _ => .bind (made_ofExcept _) fun _ => .broadcastPeers _ habort (by decide)
  · exact made_pure ()

theorem made_forwardAccepted (hs : .session ∈ T) {type rejected : MessageType}
    (ht : type.gameTopic ∈ T) (hr : rejected.topic ∈ T) (hne : rejected ≠ .snapshot) (payload : Payload) :
    Made T Own (forwardAccepted type rejected payload) := by
  refine .bind (.aside (aside_bridgeSend ht payload)) fun delivered => ?_
  split_ifs
  · exact made_pure ()
  · exact .bind (made_read hs) fun h => .bind (made_ofExcept _) fun _ => .broadcastPeers _ hr hne

theorem made_onNetworkMessage (hs : .session ∈ T) {type : MessageType} (ht : runtimeTopic type ∈ T)
    (hc : type = .travelReady → .travel ∈ T) (hst : runtimeTopic type ≠ .request ∨ .status ∈ T) (payload : Payload)
    (sender : String) : Made T Own (onNetworkMessage type payload sender) := by
  have hrejected : runtimeTopic type = .request → MessageType.interactionRejected.topic ∈ T :=
    fun h => hst.resolve_left (not_not.2 h)
  have hrejected' : runtimeTopic type = .request → MessageType.interactionCommandRejected.topic ∈ T :=
    fun h => hst.resolve_left (not_not.2 h)
  refine .bind (made_read hs) fun h => ?_
  split
  · exact made_startTravel hs ht _ _
  · exact made_travelReady hs (hc rfl) ht _ _
  · exact made_travelZoneReady hs ht _ _
  · exact made_travelAbort hs ht _ _
  · exact made_forward (by exact hs) payload
  · exact made_forward (by exact ht) payload
  case h_9 =>
    have hrequest : MessageType.interactionRequest.gameTopic ∈ T := ht
    exact made_forwardAccepted hs hrequest (hrejected rfl) (by decide) payload
  case h_10 =>
    have hcommand : MessageType.interactionCommand.gameTopic ∈ T := ht
    exact made_forwardAccepted hs hcommand (hrejected' rfl) (by decide) payload
  case h_18 => exact made_pure ()
  all_goals exact made_forward (by exact hs) payload

theorem made_broadcast (hs : .session ∈ T) {type : MessageType} (ht : type.topic ∈ T)
    (hr : runtimeTopic type ∈ T) (hready : type ≠ .travelReady) (hst : runtimeTopic type ≠ .request ∨ .status ∈ T)
    (hne : type ≠ .snapshot) (payload : Payload) : Made T Own (broadcast type payload) :=
  .bind (.broadcastPeers _ ht hne) fun _ => .bind (made_read hs) fun _ =>
    made_onNetworkMessage hs hr (fun he => absurd he hready) hst _ _

end made

end Host

end KerMP
