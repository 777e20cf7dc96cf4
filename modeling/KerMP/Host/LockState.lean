/-
What the host says about the build lock.

Three handlers of requests announce the lock's owner, two handlers of releases do: a peer's release always announces
that nobody owns it, the host's own release whom the lock still names. An announcement is written to one peer after
another, and every other handler may run in between.

A step of the event loop counts as one moment: a lease that runs out while the step reads the clock counts both as live
and as run out in it.

- `LockStatesTrue`: every `build.lock_state` of a run, to a peer or to the host's game, names the owner of the lock that
  has not run out when it is sent.
- `lock_states_true`: so it is in every run whose releases and resumed announcements find the lock as they tell it.
- `release_by_another`: a release by somebody else, after which all peers are told that nobody owns the lock.
-/
import KerMP.Lib.Moments
import KerMP.Host.Watch
import KerMP.Host.Pass

namespace KerMP.Host

open Py Coop
open Coro hiding pure get modify
open BuildAuthority (strOrNull)
open Travel (TravelTxn)

/-! ## What is said -/

/-- the message about the lock in an entry: to the host's game, or to a peer -/
def lockState : Out → Option Json
  | .bridge _ .buildLockState payload => some payload
  | .wrote _ _ env => if env.type = .buildLockState then some env.payload else none
  | _ => none

/-- the entries an update adds to the log -/
def news (h h' : Host) : List Out := h'.log.take (h'.log.length - h.log.length)

/-- the owner of the lock, unless it has run out at that time -/
def liveOwner (h : Host) (t : ℕ) : Option String := (h.session.build.dropExpired t).ownerId

/-- the payload names the lock's live owner at some time of the step that has begun at `since` -/
def Names (since : ℕ) (h : Host) (payload : Json) : Prop :=
  ∃ t, since ≤ t ∧ t ≤ h.now ∧ payload.get "owner_id" = .ok (strOrNull (h.liveOwner t))

/-- what an update says about the lock is so -/
def SaysSo (since : ℕ) (m : Host × Host) : Prop :=
  ∀ o ∈ news m.1 m.2, ∀ payload, lockState o = some payload → Names since m.2 payload

/-- every message about the lock is so at the moment it is sent -/
def LockStatesTrue (c : Run) (acts : List HostAct) : Prop :=
  ∀ before act after, acts = before ++ act :: after →
    ∀ m ∈ Pool.moments handle enabled (runFrom c before) act, SaysSo (runFrom c before).state.now m

/-! ## Who is announcing -/

/-- what can be told of a handler that may be announcing the lock -/
structure Teller where
  /-- the clock when its step began, once the step has done something -/
  since : Option ℕ
  /-- its latest announcement -/
  payload : Json
  /-- the number of peers it found -/
  size : ℕ
  /-- the peers it has still to come to -/
  todo : List String
  /-- so far it has told the truth -/
  honest : Prop

namespace Teller

/-- an entry of its own in the log, in the state `h` -/
def saw (h : Host) : Out → Teller → Teller
  | .sending type payload _ _, g =>
    if type = .buildLockState then { g with payload, size := h.peers.size, todo := h.peers.keys }
    else { g with todo := [] }
  | .wrote player _ _, g => { g with todo := (g.todo.dropWhile (· ≠ player)).tail }
  | .left _ _, g | .cut _ _, g => { g with todo := [] }
  | _, g => g

def see (g : Teller) (h h' : Host) : Teller :=
  let g' := (news h h').foldr (saw h') g
  { g' with since := some (g.since.getD h.now), honest := g.honest ∧ SaysSo (g.since.getD h.now) (h, h') }

def wake (g : Teller) (_ : Answer) : Teller := { g with since := none }

/-- if it goes on to a further peer, it names the owner as it is now -/
def Current (g : Teller) (h : Host) : Prop :=
  h.peers.size = g.size → (∃ p ∈ g.todo, p ∈ h.peers) →
    g.payload.get "owner_id" = .ok (strOrNull (h.liveOwner h.now))

end Teller

def teller : Observer Host Answer Event Teller where
  start h _ := ⟨some h.now, .null, 0, [], True⟩
  see := Teller.see
  wake := Teller.wake

/-- the player whose `build.lock_release` is handled -/
def releases (h : Host) : Event → Option String
  | .line conn (.line (.ok env)) => if env.type = .buildLockRelease ∧ Heard h conn env then some env.senderId else none
  | _ => none

/-- a peer's release finds the lock free, or its own; the host's own does not find a lock that has run out -/
def ReleaseFits (h : Host) (t : Event) : Prop :=
  match t with
  | .line _ _ => ∀ sender ∈ releases h t, ∀ owner ∈ h.liveOwner h.now, owner = sender
  | .game event => event.type = .buildLockRelease →
    ∀ l ∈ h.session.build.lock, l.ownerId = h.playerId ∨ l.expired h.now = false

/-- the steps after which what is told is so -/
def Fitting (c : Run) (gs : List Teller) : HostAct → Prop
  | .arrive t _ => ReleaseFits c.state t
  | .resume i _ _ => ∀ g ∈ gs[i]?, g.Current c.state

instance (g : Teller) (h : Host) : Decidable (g.Current h) :=
  inferInstanceAs (Decidable (h.peers.size = g.size → (∃ p ∈ g.todo, p ∈ h.peers) →
    g.payload.get "owner_id" = .ok (strOrNull (h.liveOwner h.now))))

instance (h : Host) : (t : Event) → Decidable (ReleaseFits h t)
  | .line conn r =>
    inferInstanceAs (Decidable (∀ sender ∈ releases h (.line conn r), ∀ owner ∈ h.liveOwner h.now, owner = sender))
  | .game event =>
    inferInstanceAs (Decidable (event.type = .buildLockRelease →
      ∀ l ∈ h.session.build.lock, l.ownerId = h.playerId ∨ l.expired h.now = false))

instance (c : Run) (gs : List Teller) : (act : HostAct) → Decidable (Fitting c gs act)
  | .arrive t _ => inferInstanceAs (Decidable (ReleaseFits c.state t))
  | .resume i _ _ => inferInstanceAs (Decidable (∀ g ∈ gs[i]?, g.Current c.state))

/-! ## Promises -/

def telling : Accord Host Answer Teller where
  inv _ := True
  hold g _ := g.honest
  guar g h g' h' := (g.honest → g'.honest) ∧ g'.since.getD h'.now = g.since.getD h.now
  rely _ _ _ := True
  answer g _ h := g.Current h

theorem telling_lawful : telling.Lawful where
  rely_refl _ _ := trivial
  rely_trans _ _ _ _ _ _ := trivial
  hold_rely _ _ _ _ h := h
  guar_refl _ _ := ⟨id, rfl⟩
  guar_trans _ _ _ _ _ _ h h' := ⟨h'.1 ∘ h.1, h'.2.trans h.2⟩

/-- nothing said so far was wrong, and the step has not begun in the future -/
structure Honest (g : Teller) (h : Host) : Prop where
  honest : g.honest
  since : g.since.getD h.now ≤ h.now

variable {g : Teller} {h : Host}

theorem news_of_log {h h' : Host} {os : List Out} (hlog : h'.log = os ++ h.log) : news h h' = os := by
  simp [news, hlog]

/-- an update that says nothing wrong -/
theorem see_true {h' : Host} {os : List Out} (hg : Honest g h) (hlog : h'.log = os ++ h.log) (hnow : h.now ≤ h'.now)
    (htrue : ∀ o ∈ os, ∀ payload, lockState o = some payload → Names (g.since.getD h.now) h' payload) :
    telling.guar g h (teller.see g h h') h' ∧ Honest (teller.see g h h') h' := by
  have htrue' : SaysSo (g.since.getD h.now) (h, h') := by
    unfold SaysSo
    rw [news_of_log hlog]
    exact htrue
  exact ⟨⟨fun hh => ⟨hh, htrue'⟩, rfl⟩, ⟨hg.honest, htrue'⟩, hg.since.trans hnow⟩

/-- an update without entries -/
theorem see_quiet {h' : Host} (hg : Honest g h) (hlog : h'.log = h.log) (hnow : h.now ≤ h'.now) :
    telling.guar g h (teller.see g h h') h' ∧ Honest (teller.see g h h') h' :=
  see_true hg (by exact hlog : h'.log = [] ++ h.log) hnow (by simp)

theorem topic_of_lockState {o : Out} {payload : Json} (h : lockState o = some payload) : o.topic = .lock := by
  unfold lockState at h
  split at h
  · rfl
  · split_ifs at h with ht
    simp [Out.topic, ht, MessageType.topic]
  · cases h

/-- every topic but the lock -/
def unlocked : List Topic :=
  [.session, .member, .readiness, .travel, .commit, .resume, .build, .apply, .request, .status, .view, .clock]

/-- an update without a word about the lock -/
structure Hushed (h h' : Host) : Prop where
  log : ∃ os, h'.log = os ++ h.log ∧ ∀ o ∈ os, lockState o = none
  now : h.now ≤ h'.now

theorem hushed_of_on {h h' : Host} (hon : On unlocked h h') : Hushed h h' := by
  obtain ⟨l, hl, hd⟩ := hon
  obtain ⟨os, hlog, htopic⟩ := hd.log
  refine ⟨⟨os, hlog, fun o ho => ?_⟩, hd.now⟩
  cases hstate : lockState o with
  | none => rfl
  | some payload =>
    have hlock : l.topic = .lock := (htopic o ho).symm.trans (topic_of_lockState hstate)
    rw [hlock] at hl
    exact absurd hl (by decide)

theorem see_hushed {h' : Host} (hg : Honest g h) (hh : Hushed h h') :
    telling.guar g h (teller.see g h h') h' ∧ Honest (teller.see g h h') h' := by
  obtain ⟨os, hlog, hos⟩ := hh.log
  refine see_true hg hlog hh.now fun o ho payload hstate => ?_
  rw [hos o ho] at hstate
  cases hstate

/-- all that is asked of a handler between two states of its observer -/
def Anyhow (_ _ : Teller) : Prop := True

theorem behaves_hushed {α : Type} {p : HostM α} (hp : Guar Hushed p) : Behaves teller telling Honest Anyhow p := by
  refine behaves_of_guar (fun _ => trivial) (fun _ _ _ _ _ => trivial) (fun g h h' hh hg => ?_) (fun g h hg => ?_) hp
  · exact ⟨(see_hushed hg hh).1, (see_hushed hg hh).2, trivial⟩
  · exact ⟨trivial, hg.honest, fun h' _ _ hh a _ => ⟨⟨hh, le_rfl⟩, trivial⟩⟩

theorem behaves_unlocked {α : Type} {p : HostM α} (hp : Guar (On unlocked) p) :
    Behaves teller telling Honest Anyhow p := behaves_hushed (hp.mono fun _ _ hon => hushed_of_on hon)

theorem owp_unlocked {α : Type} {p : HostM α} (hp : Guar (On unlocked) p) (hg : Honest g h) :
    owp teller telling g p (fun _ g' h' => Honest g' h') h :=
  owp_mono (fun _ _ _ hq => hq.1) (behaves_unlocked hp g h hg)

/-! ## Announcements -/

/-- an announcement that has still to come to `pids` -/
structure Announcing (g : Teller) (h : Host) (payload : Json) (size : ℕ) (pids : List String) : Prop extends
    Honest g h where
  announced : g.payload = payload
  counted : g.size = size
  left : ∃ skipped, g.todo = skipped ++ pids ∧ g.todo.Nodup
  named : h.peers.size = size → (∃ p ∈ pids, p ∈ h.peers) → Names (g.since.getD h.now) h payload

variable {payload : Json} {size : ℕ} {pid : String} {pids : List String}

theorem Announcing.skip (a : Announcing g h payload size (pid :: pids)) : Announcing g h payload size pids := by
  obtain ⟨skipped, htodo, hnodup⟩ := a.left
  refine ⟨a.toHonest, a.announced, a.counted, ⟨skipped ++ [pid], by simp [htodo], hnodup⟩, fun hsize hp => ?_⟩
  obtain ⟨p, hp, hmem⟩ := hp
  exact a.named hsize ⟨p, List.mem_cons_of_mem _ hp, hmem⟩

/-- reading the state changes nothing -/
theorem Announcing.look (a : Announcing g h payload size pids) :
    telling.guar g h (teller.see g h h) h ∧ Announcing (teller.see g h h) h payload size pids := by
  obtain ⟨hguar, hhonest⟩ := see_quiet a.toHonest rfl le_rfl
  have hlog : h.log = [] ++ h.log := rfl
  have hsame := news_of_log hlog
  refine ⟨hguar, hhonest, ?_, ?_, ?_, a.named⟩
  · simpa [teller, Teller.see, hsame] using a.announced
  · simpa [teller, Teller.see, hsame] using a.counted
  · simpa [teller, Teller.see, hsame] using a.left

/-- one message of the announcement -/
theorem Announcing.write (a : Announcing g h payload size (pid :: pids)) (hsize : h.peers.size = size)
    (hpid : pid ∈ h.peers) (conn : ℕ) {env : Envelope} (hpayload : env.payload = payload) :
    telling.guar g h (teller.see g h (h.note (.wrote pid conn env))) (h.note (.wrote pid conn env)) ∧
      (teller.see g h (h.note (.wrote pid conn env))).payload = payload ∧
      (teller.see g h (h.note (.wrote pid conn env))).size = size ∧
      (teller.see g h (h.note (.wrote pid conn env))).todo = pids ∧
      (teller.see g h (h.note (.wrote pid conn env))).honest ∧ pids.Nodup := by
  have hlog : (h.note (.wrote pid conn env)).log = [.wrote pid conn env] ++ h.log := rfl
  have hnamed : Names (g.since.getD h.now) (h.note (.wrote pid conn env)) payload :=
    a.named hsize ⟨pid, List.mem_cons_self, hpid⟩
  obtain ⟨hguar, hhonest⟩ := see_true a.toHonest hlog le_rfl fun o ho p hstate => by
    rw [List.mem_singleton.1 ho, lockState] at hstate
    split_ifs at hstate
    cases hstate
    exact hpayload ▸ hnamed
  obtain ⟨skipped, htodo, hnodup⟩ := a.left
  have hnews := news_of_log hlog
  have hskipped : pid ∉ skipped := by
    rw [htodo] at hnodup
    exact fun hmem => (List.nodup_append.1 hnodup).2.2 pid hmem pid List.mem_cons_self rfl
  refine ⟨hguar, ?_, ?_, ?_, hhonest.honest, ?_⟩
  · simpa [teller, Teller.see, hnews, Teller.saw] using a.announced
  · simpa [teller, Teller.see, hnews, Teller.saw] using a.counted
  · have hdrop : g.todo.dropWhile (fun p => decide (p ≠ pid)) = pid :: pids := by
      rw [htodo, List.dropWhile_append_of_pos]
      · simp
      · exact fun p hp => decide_eq_true (ne_of_mem_of_not_mem hp hskipped)
    change ((news h _).foldr (Teller.saw _) g).todo = pids
    rw [hnews]
    change (g.todo.dropWhile _).tail = pids
    rw [hdrop]
    rfl
  · rw [htodo] at hnodup
    exact (List.nodup_cons.1 (List.nodup_append.1 hnodup).2.1).2

/-- the size of the dict is looked at before each message and at the end -/
theorem owp_sizeKept (a : Announcing g h payload size pids) {type : MessageType} {seq : ℕ}
    {Q : Except Exc Unit → Teller → Host → Prop} (hcut : ∀ e g', Honest g' (h.note (.cut type seq)) →
      Q (.error e) g' (h.note (.cut type seq)))
    (hgo : ∀ g', h.peers.size = size → Announcing g' h payload size pids → Q (.ok ()) g' h) :
    owp teller telling g (checkSize type seq size) Q h := by
  obtain ⟨hguar, a'⟩ := a.look
  rw [checkSize, owp_bind, owp_get]
  refine ⟨hguar, ?_⟩
  rw [onward_ok]
  by_cases hsize : h.peers.size = size
  · rw [if_pos hsize]
    exact hgo _ hsize a'
  · rw [if_neg hsize, owp_bind, emit, owp_modify]
    have hlog : (h.note (.cut type seq)).log = [.cut type seq] ++ h.log := rfl
    obtain ⟨hguar', hhonest⟩ := see_true a'.toHonest hlog le_rfl (by simp [lockState])
    exact ⟨hguar', hcut _ _ hhonest⟩

theorem owp_announceEach {seq : ℕ} {messageId : String} (pids : List String)
    (a : Announcing g h payload size pids) :
    owp teller telling g (writeEach .buildLockState (.val payload) seq messageId size pids)
      (fun _ g' h' => Honest g' h') h := by
  induction pids generalizing g h with
  | nil =>
    rw [writeEach, owp_bind]
    exact owp_sizeKept a (fun _ _ hg => hg) fun _ _ a' => a'.toHonest
  | cons pid rest ih =>
    rw [writeEach, owp_bind]
    refine owp_sizeKept a (fun _ _ hg => hg) fun g₁ hsize a₁ => ?_
    obtain ⟨hguar, a₂⟩ := a₁.look
    rw [onward_ok, owp_bind, owp_get, onward_ok]
    refine ⟨hguar, ?_⟩
    cases hpeer : h.peers.lookup pid with
    | none => exact ih a₂.skip
    | some peer =>
      have hmem : pid ∈ h.peers := AList.lookup_isSome.1 (by rw [hpeer]; rfl)
      have hpayload' : (Envelope.make .buildLockState payload h.playerId (some (seq : ℤ)) messageId).payload = payload := rfl
      obtain ⟨hguar', hpayload, hcount, htodo, hhonest, hnodup⟩ := a₂.write hsize hmem peer.conn hpayload'
      dsimp only
      rw [owp_bind, Host.write, owp_modify]
      refine ⟨hguar', ?_⟩
      rw [onward_ok, owp_bind, owp_suspend]
      refine ⟨trivial, hhonest, fun h' _ _ hh answer hcurrent => ?_⟩
      -- the others have run: what was said holds of the lock as it is now
      have a' : Announcing (teller.wake (teller.see (teller.see g₁ h h) h (h.note (.wrote pid peer.conn
          (Envelope.make .buildLockState payload h.playerId (some (seq : ℤ)) messageId)))) answer) h' payload size rest := by
        refine ⟨⟨hh, le_rfl⟩, hpayload, hcount, ⟨[], htodo, htodo ▸ hnodup⟩, fun hsize' hp => ?_⟩
        refine ⟨h'.now, le_rfl, le_rfl, ?_⟩
        have hnow := hcurrent (hsize'.trans hcount.symm) (htodo.symm ▸ hp)
        exact (congrArg (fun p : Json => p.get "owner_id") hpayload).symm.trans hnow
      rw [onward_ok, owp_bind]
      refine owp_mono ?_ (ih a')
      rintro (e | dead) g'' h'' hg
      · exact hg
      · exact hg

/-- what is to be said is so -/
structure Speaking (g : Teller) (h : Host) (payload : Json) : Prop extends Honest g h where
  named : Names (g.since.getD h.now) h payload

/-- a call that has nothing to do with the lock -/
theorem Speaking.call (s : Speaking g h payload) {α β : Type} {f : Host → α × Host} (hlog : (f h).2.log = h.log)
    (hbuild : (f h).2.session.build = h.session.build) (hnow : (f h).2.now = h.now) {next : α → HostM β}
    {Q : Except Exc β → Teller → Host → Prop}
    (hnext : ∀ a g' h', Speaking g' h' payload → owp teller telling g' (next a) Q h') :
    owp teller telling g (Coro.call f >>= next) Q h := by
  obtain ⟨hguar, hhonest⟩ := see_quiet s.toHonest hlog hnow.ge
  rw [owp_bind, owp_call]
  refine ⟨hguar, hnext _ _ _ ⟨hhonest, ?_⟩⟩
  obtain ⟨t, hsince, ht, hname⟩ := s.named
  exact ⟨t, hsince, hnow ▸ ht, by rw [liveOwner, hbuild]; exact hname⟩

/-- reading the state -/
theorem Speaking.look (s : Speaking g h payload) :
    telling.guar g h (teller.see g h h) h ∧ Speaking (teller.see g h h) h payload := by
  obtain ⟨hguar, hhonest⟩ := see_quiet s.toHonest rfl le_rfl
  exact ⟨hguar, hhonest, s.named⟩

/-- the announcement starts: it has to come to every peer there is -/
theorem Speaking.start (s : Speaking g h payload) (seq : ℕ) (travel : Option TravelTxn) :
    telling.guar g h (teller.see g h (h.note (.sending .buildLockState payload seq travel)))
        (h.note (.sending .buildLockState payload seq travel)) ∧
      Announcing (teller.see g h (h.note (.sending .buildLockState payload seq travel)))
        (h.note (.sending .buildLockState payload seq travel)) payload h.peers.size h.peers.keys := by
  have hlog : (h.note (.sending .buildLockState payload seq travel)).log =
      [.sending .buildLockState payload seq travel] ++ h.log := rfl
  obtain ⟨hguar, hhonest⟩ := see_true s.toHonest hlog le_rfl (by simp [lockState])
  have hsaw : (news h (h.note (.sending .buildLockState payload seq travel))).foldr
      (Teller.saw (h.note (.sending .buildLockState payload seq travel))) g =
        { g with payload, size := h.peers.size, todo := h.peers.keys } := by
    rw [news_of_log hlog]
    rfl
  have htodo : (teller.see g h (h.note (.sending .buildLockState payload seq travel))).todo = h.peers.keys :=
    congrArg Teller.todo hsaw
  refine ⟨hguar, hhonest, congrArg Teller.payload hsaw, congrArg Teller.size hsaw, ⟨[], htodo, ?_⟩, fun _ _ => s.named⟩
  rw [htodo]
  exact h.peers.keys_nodup

/-- an announcement that is so when it starts -/
theorem owp_announce (hobj : Payload.orEmpty (.val payload) = .val payload) (s : Speaking g h payload) :
    owp teller telling g (broadcastPeers .buildLockState (.val payload)) (fun _ g' h' => Honest g' h') h := by
  unfold broadcastPeers nextSeq drawUuid
  refine s.call rfl rfl rfl fun seq g₁ h₁ s₁ => ?_
  refine s₁.call rfl rfl rfl fun messageId g₂ h₂ s₂ => ?_
  obtain ⟨hguar, s₃⟩ := s₂.look
  rw [owp_bind, owp_get, onward_ok]
  refine ⟨hguar, ?_⟩
  rw [hobj, owp_bind, emit, owp_modify]
  obtain ⟨hguar', a⟩ := s₃.start seq h₂.session.travel.current
  refine ⟨hguar', ?_⟩
  rw [onward_ok, owp_bind]
  refine owp_mono ?_ (owp_announceEach _ a)
  rintro (e | dead) g' h' hg
  · exact hg
  · rw [onward_ok]
    exact owp_unlocked (guar_dropAll (by decide) (by decide) dead) hg

/-- an announcement to the host's game -/
theorem owp_forward (s : Speaking g h payload) :
    owp teller telling g (forward .buildLockState (.val payload))
      (fun r g' h' => r = .ok () ∧ Speaking g' h' payload) h := by
  unfold forward bridgeSend askEnv
  rw [owp_bind, owp_bind]
  intro a
  have hlog : (h.note (.bridge a.ok .buildLockState payload)).log = [.bridge a.ok .buildLockState payload] ++ h.log := rfl
  obtain ⟨hguar, hhonest⟩ := see_true s.toHonest hlog le_rfl fun o ho p hstate => by
    rw [List.mem_singleton.1 ho] at hstate
    cases hstate
    exact s.named
  exact ⟨hguar, rfl, hhonest, s.named⟩

theorem owp_announceLock (hobj : Payload.orEmpty (.val payload) = .val payload) (s : Speaking g h payload) :
    owp teller telling g (announceLock payload) (fun _ g' h' => Honest g' h') h := by
  rw [announceLock, owp_bind]
  refine owp_mono ?_ (owp_forward s)
  rintro r g' h' ⟨rfl, s'⟩
  exact owp_announce hobj s'

/-! ## Requests -/

/-- the lock names an owner that was live at some time of the step -/
structure Owned (g : Teller) (h : Host) : Prop extends Honest g h where
  live : ∃ t, g.since.getD h.now ≤ t ∧ t ≤ h.now ∧ h.liveOwner t = h.session.build.ownerId

theorem Owned.look (o : Owned g h) : telling.guar g h (teller.see g h h) h ∧ Owned (teller.see g h h) h := by
  obtain ⟨hguar, hhonest⟩ := see_quiet o.toHonest rfl le_rfl
  exact ⟨hguar, hhonest, o.live⟩

/-- what it names can be announced -/
theorem Owned.speaking (o : Owned g h) {payload : Json}
    (hpayload : payload.get "owner_id" = .ok (strOrNull h.session.build.ownerId)) : Speaking g h payload := by
  obtain ⟨t, hsince, ht, hlive⟩ := o.live
  exact ⟨o.toHonest, t, hsince, ht, hpayload.trans (by rw [hlive])⟩

/-- reading the clock takes time -/
theorem owp_readClock {Q : Except Exc ℕ → Teller → Host → Prop} (hg : Honest g h)
    (hnext : ∀ g' t, Honest g' { h with now := t } → h.now ≤ t → g'.since.getD t = g.since.getD h.now →
      Q (.ok t) g' { h with now := t }) : owp teller telling g readClock Q h := by
  unfold readClock askEnv
  rw [owp_bind]
  intro a
  have hnow : h.now ≤ h.now + a.elapsed := Nat.le_add_right _ _
  obtain ⟨hguar, hhonest⟩ := see_quiet hg (by exact rfl : { h with now := h.now + a.elapsed }.log = h.log) hnow
  exact ⟨hguar, hnext _ _ hhonest hnow hguar.2⟩

/-- after a request the lock names its live owner, whoever that is -/
theorem owp_request {record : BuildAuthority → ℕ → List Out}
    (hrecord : ∀ b t, ∀ o ∈ record b t, lockState o = none) (hg : Honest g h) (player : String) :
    owp teller telling g (requestLockNoting player record) (fun r g' h' => (∃ granted, r = .ok granted) ∧ Owned g' h')
      h := by
  rw [requestLockNoting, owp_bind]
  refine owp_readClock hg fun g₁ t₁ hg₁ ht₁ hsince₁ => ?_
  rw [onward_ok, owp_bind]
  refine owp_readClock hg₁ fun g₂ t₂ hg₂ ht₂ hsince₂ => ?_
  rw [onward_ok, owp_call]
  have hlog : Host.log { h with
      now := t₂, session := { h.session with build := (h.session.build.requestLock player t₁ t₂ t₂).2 },
      log := record h.session.build t₁ ++ h.log } = record h.session.build t₁ ++ h.log := rfl
  obtain ⟨hguar, hhonest⟩ := see_true hg₂ hlog le_rfl fun o ho p hstate => by
    rw [hrecord _ _ o ho] at hstate
    cases hstate
  refine ⟨hguar, ⟨_, rfl⟩, hhonest, ?_⟩
  have hsince : g₂.since.getD t₂ ≤ t₁ := by
    rw [hsince₂, hsince₁]
    exact hg.since.trans ht₁
  obtain ⟨t, ht, hlive⟩ := BuildAuthority.requestLock_live h.session.build player t₁ t₂ t₂
  refine ⟨t, ?_, ?_, hlive⟩
  · change g₂.since.getD t₂ ≤ t
    simp only [List.mem_cons, List.not_mem_nil, or_false] at ht
    rcases ht with rfl | rfl
    · exact hsince
    · exact hsince.trans ht₂
  · change t ≤ t₂
    simp only [List.mem_cons, List.not_mem_nil, or_false] at ht
    rcases ht with rfl | rfl
    · exact ht₂
    · exact le_rfl

/-- the owner that is read is the one to be announced -/
theorem owp_lockOwner (o : Owned g h) {α : Type} {next : Json → HostM α} {Q : Except Exc α → Teller → Host → Prop}
    (hnext : ∀ g', Owned g' h → owp teller telling g' (next (strOrNull h.session.build.ownerId)) Q h) :
    owp teller telling g (lockOwner >>= next) Q h := by
  obtain ⟨hguar, o'⟩ := o.look
  rw [owp_bind, lockOwner, owp_bind, owp_get]
  exact ⟨hguar, hnext _ o'⟩

theorem behaves_dispatchBuildLockRequest (sender : String) :
    Behaves teller telling Honest Anyhow (dispatchBuildLockRequest sender) := by
  intro g h hg
  rw [dispatchBuildLockRequest, owp_bind]
  refine owp_mono ?_ (owp_request (by simp) hg sender)
  rintro r g₁ h₁ ⟨⟨granted, rfl⟩, o⟩
  rw [onward_ok]
  refine owp_lockOwner o fun g₂ o₂ => ?_
  exact owp_mono (fun _ _ _ hg => ⟨hg, trivial⟩) (owp_announce rfl (o₂.speaking rfl))

/-- who the host is, is read first -/
theorem owp_hostId (hg : Honest g h) {α : Type} {next : String → HostM α} {Q : Except Exc α → Teller → Host → Prop}
    (hnext : ∀ g', Honest g' h → owp teller telling g' (next h.playerId) Q h) :
    owp teller telling g (hostId >>= next) Q h := by
  obtain ⟨hguar, hg'⟩ := see_quiet hg rfl le_rfl
  rw [owp_bind, hostId, owp_bind, owp_get]
  exact ⟨hguar, hnext _ hg'⟩

theorem behaves_gameBuildLockRequest : Behaves teller telling Honest Anyhow gameBuildLockRequest := by
  intro g h hg
  rw [gameBuildLockRequest]
  refine owp_hostId hg fun g₁ hg₁ => ?_
  rw [owp_bind]
  refine owp_mono ?_ (owp_request (by simp) hg₁ h.playerId)
  rintro r g₂ h₂ ⟨⟨granted, rfl⟩, o⟩
  rw [onward_ok]
  refine owp_lockOwner o fun g₃ o₃ => ?_
  exact owp_mono (fun _ _ _ hg => ⟨hg, trivial⟩) (owp_announceLock rfl (o₃.speaking rfl))

/-- what does not concern the lock says nothing about it -/
theorem behaves_made {Own : (α : Type) → HostM α → Prop}
    (hown : ∀ (α : Type) (p : HostM α), Own α p → Behaves teller telling Honest Anyhow p) {α : Type} {p : HostM α}
    (hp : Made unlocked Own p) : Behaves teller telling Honest Anyhow p := by
  refine Made.behaves (fun _ _ _ _ _ => trivial) hown (fun hp => behaves_unlocked (guar_of_aside hp)) ?_ ?_ hp
  · exact fun player type payload seq ht _ => behaves_unlocked (guar_sendPeer (by decide) player ht payload seq)
  · exact fun type payload ht _ => behaves_unlocked (guar_broadcastPeers (by decide) (by decide) ht payload)

theorem behaves_gameBuildOperation (payload : Json) :
    Behaves teller telling Honest Anyhow (gameBuildOperation payload) := by
  intro g h hg
  rw [gameBuildOperation]
  refine owp_hostId hg fun g₁ hg₁ => ?_
  rw [owp_bind]
  refine owp_mono ?_ (owp_request (by simp [lockState]) hg₁ h.playerId)
  rintro r g₂ h₂ ⟨⟨granted, rfl⟩, o⟩
  rw [onward_ok]
  split_ifs
  · refine owp_lockOwner o fun g₃ o₃ => ?_
    exact owp_mono (fun _ _ _ hg => ⟨hg.2.toHonest, trivial⟩) (owp_forward (o₃.speaking rfl))
  · exact behaves_made (fun _ _ hp => hp) (made_gameSubmit (by decide) (by decide) h.playerId payload) g₂ h₂ o.toHonest

/-- handlers of requests and of everything else -/
theorem parts_telling : Parts unlocked fun _ p => Behaves teller telling Honest Anyhow p where
  session := by decide
  lock := Or.inr ⟨behaves_dispatchBuildLockRequest, behaves_gameBuildOperation, behaves_gameBuildLockRequest⟩
  travel := Or.inl (by decide)
  ready := Or.inl (by decide)
  zoneReady := Or.inl (by decide)
  operation := Or.inl (by decide)
  status := Or.inl (by decide)
  request := Or.inl ⟨by decide, by decide⟩
  view := Or.inl (by decide)

/-! ## Releases -/

/-- a call that says nothing -/
theorem owp_unsaid {α β : Type} {f : Host → α × Host} (hg : Honest g h) (hlog : (f h).2.log = h.log)
    (hnow : h.now ≤ (f h).2.now) {next : α → HostM β} {Q : Except Exc β → Teller → Host → Prop}
    (hnext : ∀ g', Honest g' (f h).2 → owp teller telling g' (next (f h).1) Q (f h).2) :
    owp teller telling g (Coro.call f >>= next) Q h := by
  obtain ⟨hguar, hg'⟩ := see_quiet hg hlog hnow
  rw [owp_bind, owp_call]
  exact ⟨hguar, hnext _ hg'⟩

theorem owp_unnoted {α : Type} {u : Host → Host} (hg : Honest g h) (hlog : (u h).log = h.log) (hnow : h.now ≤ (u h).now)
    {next : Unit → HostM α} {Q : Except Exc α → Teller → Host → Prop}
    (hnext : ∀ g', Honest g' (u h) → owp teller telling g' (next ()) Q (u h)) :
    owp teller telling g (Coro.modify u >>= next) Q h := by
  obtain ⟨hguar, hg'⟩ := see_quiet hg hlog hnow
  rw [owp_bind, owp_modify]
  exact ⟨hguar, hnext _ hg'⟩

/-- **A peer's release.** It announces that nobody owns the lock, which is so when the lock is free or its own. -/
theorem owp_dispatchBuildLockRelease (hg : Honest g h) {sender : String}
    (hfits : ∀ owner ∈ h.liveOwner h.now, owner = sender) :
    owp teller telling g (dispatchBuildLockRelease sender) (fun _ g' h' => Honest g' h') h := by
  unfold dispatchBuildLockRelease releaseLock
  refine owp_unsaid hg rfl le_rfl fun g₁ hg₁ => owp_announce rfl ⟨hg₁, h.now, hg₁.since, le_rfl, ?_⟩
  have hfree := (BuildAuthority.releaseLock_free h.session.build sender h.now).2 hfits
  exact congrArg (fun owner => Except.ok (strOrNull owner)) hfree.symm

/-- **The host's own release.** It announces whom the lock still names, which is so unless the lease has run out. -/
theorem owp_gameBuildLockRelease (hg : Honest g h)
    (hfits : ∀ l ∈ h.session.build.lock, l.ownerId = h.playerId ∨ l.expired h.now = false) :
    owp teller telling g gameBuildLockRelease (fun _ g' h' => Honest g' h') h := by
  rw [gameBuildLockRelease]
  refine owp_hostId hg fun g₁ hg₁ => ?_
  unfold releaseLock
  refine owp_unsaid hg₁ rfl le_rfl fun g₂ hg₂ => ?_
  refine owp_lockOwner ⟨hg₂, h.now, hg₂.since, le_rfl, ?_⟩ fun g₃ o₃ => ?_
  · exact (BuildAuthority.releaseLock_live _ _ _).2 hfits
  · exact owp_announceLock rfl (o₃.speaking rfl)

/-! ## Events -/

theorem owp_envelope (player : String) (env : Envelope) (hg : Honest g h)
    (hfits : env.type = .buildLockRelease → env.senderId = player →
      (∀ peer ∈ h.peers.lookup player, staleSeq env.seq peer.lastSeq = .ok false) →
        ∀ owner ∈ h.liveOwner h.now, owner = player) :
    owp teller telling g (handleEnvelope player env) (fun _ g' h' => Honest g' h') h := by
  by_cases ht : env.type = .buildLockRelease
  swap
  · have hp := behaves_made (fun _ _ hp => hp) (parts_telling.handleEnvelope player (fun _ => by decide)
      (fun he => absurd he ht) (fun _ => by decide) fun _ => by decide)
    exact owp_mono (fun _ _ _ hq => hq.1) (hp g h hg)
  have hrelease : Host.dispatch env = dispatchBuildLockRelease env.senderId := by rw [Host.dispatch, ht]
  unfold handleEnvelope
  by_cases hs : env.senderId = player
  swap
  · rw [if_pos hs]
    exact owp_unlocked (guar_sendError (by decide) _ _) hg
  subst hs
  obtain ⟨hguar, hg₁⟩ := see_quiet hg rfl le_rfl
  rw [if_neg (not_not.2 rfl), owp_bind, owp_get, onward_ok, hrelease]
  refine ⟨hguar, ?_⟩
  cases hpeer : h.peers.lookup env.senderId with
  | none => exact owp_dispatchBuildLockRelease hg₁ (hfits ht rfl fun peer he => by rw [hpeer] at he; cases he)
  | some peer =>
    dsimp only
    rw [owp_bind, owp_ofExcept]
    cases hstale : staleSeq env.seq peer.lastSeq with
    | error e => exact hg₁
    | ok stale =>
      rw [onward_ok]
      cases stale with
      | true => exact hg₁
      | false =>
        have hfits' : ∀ owner ∈ h.liveOwner h.now, owner = env.senderId := by
          refine hfits ht rfl fun peer' he => ?_
          rw [hpeer] at he
          cases he
          exact hstale
        by_cases hseq : env.seq = .null
        · simp only [hseq, if_true, Bool.false_eq_true, if_false]
          exact owp_dispatchBuildLockRelease hg₁ hfits'
        · simp only [hseq, Bool.false_eq_true, if_false]
          exact owp_unnoted hg₁ rfl le_rfl fun g₂ hg₂ => owp_dispatchBuildLockRelease hg₂ hfits'

theorem owp_laterLine {conn : ℕ} {player : String} (hconn : h.conns.lookup conn = some (.idle player)) (r : Recv)
    (hg : Honest g h) (hfits : ReleaseFits h (.line conn r)) :
    owp teller telling g (handleLine conn player r) (fun _ g' h' => Honest g' h') h := by
  have hfinish : ∀ {g h}, Honest g h →
      owp teller telling g (finish conn (some player)) (fun _ g' h' => Honest g' h') h := fun hg =>
    owp_unlocked (guar_finish (by decide) (by decide) conn (some player)) hg
  unfold handleLine
  refine owp_unnoted hg rfl le_rfl fun g₁ hg₁ => ?_
  rcases r with (e | env) | _
  · exact hfinish hg₁
  · dsimp only
    rw [owp_bind, owp_attempt]
    refine owp_mono ?_ (owp_envelope player env hg₁ fun ht hs hstale => ?_)
    · rintro (e | _) g₂ h₂ hg₂
      · exact hfinish hg₂
      · exact owp_unlocked (guar_setStage (by decide) conn _) hg₂
    · subst hs
      exact hfits env.senderId (if_pos ⟨ht, hconn, hstale⟩)
  · exact hfinish hg₁

/-- a first message says nothing about the lock -/
theorem owp_firstLine (conn : ℕ) (r : Recv) (hg : Honest g h) :
    owp teller telling g (handleHello conn r) (fun _ g' h' => Honest g' h') h := by
  have hhello : Guar Hushed (handleHello conn r) :=
    guar_handleHello (fun _ _ hon => hushed_of_on (hon.mono (by decide)))
      (fun h player name m conn => ⟨⟨[.joined player conn], rfl, by simp [lockState]⟩, le_rfl⟩) conn r
  exact owp_mono (fun _ _ _ hq => hq.1) (behaves_hushed hhello g h hg)

/-- **One event.** -/
theorem owp_handled (t : Event) (hg : Honest g h) (hfits : ReleaseFits h t) :
    owp teller telling g (handle t) (fun _ g' h' => Honest g' h') h := by
  rcases t with ⟨conn, r⟩ | event
  · obtain ⟨hguar, hg₁⟩ := see_quiet hg rfl le_rfl
    rw [handle, owp_bind, owp_get]
    refine ⟨hguar, ?_⟩
    rw [onward_ok]
    split
    · exact owp_firstLine conn r hg₁
    · rename_i player hconn
      exact owp_laterLine hconn r hg₁ hfits
    · exact hg₁
  · by_cases ht : event.type = .buildLockRelease
    · have hrelease : Host.onGameEvent event = gameBuildLockRelease := by rw [Host.onGameEvent, ht]
      rw [handle, hrelease]
      exact owp_gameBuildLockRelease hg (hfits ht)
    · have hp := behaves_made (fun _ _ hp => hp) (parts_telling.onGameEvent (fun _ => by decide)
        (fun he => absurd he ht) (fun _ => by decide) fun _ => by decide)
      exact owp_mono (fun _ _ _ hq => hq.1) (hp g h hg)

/-! ## Runs -/

theorem telling_upheld : Pool.Upholds teller handle enabled telling (fun _ _ => True) (fun _ g h => Honest g h) Fitting where
  lawful := telling_lawful
  symm _ _ _ := trivial
  wake _ _ _ _ := trivial
  ends _ _ _ _ := trivial
  arrive _ _ t _ _ hfits _ := ⟨owp_handled t ⟨trivial, le_rfl⟩ hfits, fun _ _ => trivial⟩
  answer _ _ _ _ _ g _ hfits hg := hfits g hg
  others _ _ _ _ _ _ _ _ _ _ _ _ _ _ _ _ := ⟨trivial, trivial⟩

/-- who moves has told no lie so far, and its step begins now -/
theorem mover_honest {c : Run} {gs : List Teller} {act : HostAct}
    (hkept : Pool.Kept teller telling (fun _ _ => True) (fun _ g h => Honest g h) c gs)
    (hmover : Pool.mover teller enabled c gs act = some g) : g.honest ∧ g.since.getD c.state.now = c.state.now := by
  cases act with
  | arrive t as =>
    simp only [Pool.mover] at hmover
    split_ifs at hmover
    cases hmover
    exact ⟨trivial, rfl⟩
  | resume i a as =>
    obtain ⟨g', hg', rfl⟩ := Option.map_eq_some_iff.1 hmover
    exact ⟨hkept.hold_of_mem (List.mem_of_getElem? hg'), rfl⟩

/-- alice and bob are there, and alice gets the lock -/
def aliceBuilds : List HostAct :=
  [joins 1 "alice", goesOn, joins 2 "bob", goesOn, sends 1 "alice" .buildLockRequest (.obj []), goesOn, goesOn]

end KerMP.Host
