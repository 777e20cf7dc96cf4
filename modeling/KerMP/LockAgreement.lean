/-
Who takes itself for the owner of the build lock (`build.lock_state`, over `KerMPHost` and `ClientRuntime`).

A client sends its build operations while it takes itself for the owner, which is what the last `build.lock_state` it
has handled says. The host announces the owner to one peer after another, so two clients may differ for a while. Once
everything announced has been handled they do not.

- `believes_run`: a client that takes itself for the owner is the one that the last message about the lock names.
- `owner_handle`: the host tells peers of the lock by broadcasts only, each of which names an owner or none.
- `one_lock_owner`: after every run in turn, when no handler is suspended, a client that has handled what was written to
  it and takes itself for the owner is the owner that was announced last, and no other client takes itself for it; if
  the owner was announced since they joined.
-/
import KerMP.Attendance
import KerMP.Forwarding
import KerMP.Host.LockState

namespace KerMP

open Py Coop
open Coro hiding pure get modify

/-! ## The client -/

namespace Client

/-- a step that makes nobody an owner -/
structure Humble (c c' : Client) : Prop where
  playerId : c'.playerId = c.playerId
  owns : c'.ownsBuildLock = true → c.ownsBuildLock = true

theorem Humble.refl (c : Client) : Humble c c := ⟨rfl, id⟩

theorem Humble.trans {a b c : Client} (h : Humble a b) (h' : Humble b c) : Humble a c :=
  ⟨h'.playerId.trans h.playerId, h.owns ∘ h'.owns⟩

theorem humble_of_does {α : Type} {p : ClientM α} (hp : Guar (Does {.view, .save}) p) : Guar Humble p := by
  refine hp.mono fun c c' hdoes => ⟨hdoes.playerId, fun howns => ?_⟩
  rw [← (hdoes.build.resolve_left (by simp)).2]
  exact howns

theorem humble_read : Guar Humble (Coro.get : ClientM Client) := guar_get Humble.refl

theorem humble_send (type : MessageType) (payload : Json) : Guar Humble (send type payload) := by
  refine guar_bind (guar_modify fun _ => ⟨rfl, id⟩) fun _ => guar_bind guar_suspend fun a => ?_
  split_ifs
  · exact guar_pure ()
  · exact guar_raise _

theorem humble_flushBuild (f : Flush) : Guar Humble (flushBuild f) := by
  have hdone : Guar Humble (flushDone f) := by
    cases f with
    | net => exact humble_of_does (guar_setListening .idle)
    | game => exact guar_pure ()
  refine guar_bind humble_read fun c => ?_
  split
  · split_ifs
    · exact guar_bind (guar_modify fun _ => ⟨rfl, id⟩) fun _ => guar_bind (humble_send _ _) fun _ =>
        guar_modify fun _ => ⟨rfl, id⟩
    · exact hdone
  · exact hdone

theorem humble_onBuildOperation (payload : Json) : Guar Humble (onBuildOperation payload) := by
  refine guar_bind (guar_modify fun _ => ⟨rfl, id⟩) fun _ => guar_bind humble_read fun c => ?_
  split_ifs
  · exact humble_flushBuild .game
  · exact humble_send _ _

theorem humble_resumeFlush (f : Flush) : Guar Humble (resumeFlush f) := by
  refine guar_bind (guar_modify fun _ => ⟨rfl, id⟩) fun _ => guar_bind (guar_attempt (humble_flushBuild f)) fun r => ?_
  split
  · exact humble_of_does (guar_setListening .dead)
  · exact guar_pure ()

/-- the game may give the lock back -/
theorem humble_onGameEvent (event : BridgeEvent) : Guar Humble (onGameEvent event) := by
  unfold onGameEvent
  split
  · exact guar_bind humble_read fun c => guar_bind (humble_of_does (guar_bridgeSend (Or.inr (by decide)) _)) fun _ =>
      humble_send _ _
  · exact guar_bind (guar_ofExcept _) fun status => humble_send _ _
  any_goals exact humble_send _ _
  · exact humble_of_does (guar_onSims _)
  · exact humble_of_does (guar_onSims _)
  · exact humble_onBuildOperation _
  · exact guar_bind (guar_modify fun c => ⟨rfl, fun howns => nomatch howns⟩) fun _ => humble_send _ _
  · exact guar_pure ()

theorem humble_afterMessage (flush : Bool) :
    Guar Humble (if flush then flushBuild .net else setListening .idle : ClientM Unit) := by
  split_ifs
  · exact humble_flushBuild .net
  · exact humble_of_does (guar_setListening .idle)

/-- every message but one about the lock -/
theorem humble_onNetworkMessage (sha256 : Base64.Bytes → String) {env : Envelope} (ht : env.type ≠ .buildLockState) :
    Guar Humble (onNetworkMessage sha256 env) :=
  humble_of_does (guar_onNetworkMessage sha256 (Or.inl (by simp)) (Or.inl (by simp)) (Or.inr ht))

theorem humble_listen (sha256 : Base64.Bytes → String) {env : Envelope} (ht : env.type ≠ .buildLockState) :
    Guar Humble (listen sha256 (.ok env)) := by
  have hmessage : Guar Humble (do
      let flush ← onNetworkMessage sha256 env
      if flush then flushBuild .net else setListening .idle : ClientM Unit) :=
    guar_bind (humble_onNetworkMessage sha256 ht) humble_afterMessage
  exact guar_bind (humble_of_does (guar_setListening .busy)) fun _ => guar_bind (guar_attempt hmessage) fun r =>
    humble_of_does (guar_afterListen r)

theorem onNetworkMessage_lockState (sha256 : Base64.Bytes → String) {env : Envelope} (ht : env.type = .buildLockState) :
    onNetworkMessage sha256 env = onLockState env.payload := by
  unfold onNetworkMessage
  rw [ht]

theorem humble_others (sha256 : Base64.Bytes → String) (t : Event) (ht : ∀ env, t ≠ .net (.ok env)) :
    Guar Humble (handle sha256 t) := by
  cases t with
  | net r =>
    cases r with
    | error e =>
      exact guar_bind (humble_of_does (guar_setListening .busy)) fun _ => guar_bind (guar_attempt trivial) fun r =>
        humble_of_does (guar_afterListen r)
    | ok env => exact absurd rfl (ht env)
  | game event => exact humble_onGameEvent event
  | zoneLoaded epoch => exact humble_of_does (guar_markLocalZoneLoaded (by simp) epoch)
  | flush f => exact humble_resumeFlush f

/-- a client is made an owner before the first await of a message -/
theorem humble_later_handle (sha256 : Base64.Bytes → String) (t : Event) : Later Humble (handle sha256 t) := by
  cases t with
  | net r =>
    refine later_modify (later_bind (later_attempt (later_ofExcept fun env => ?_)) fun r =>
      humble_of_does (guar_afterListen r))
    refine later_bind ?_ humble_afterMessage
    by_cases ht : env.type = .buildLockState
    · rw [onNetworkMessage_lockState sha256 ht, onLockState]
      refine later_get fun c => later_ofExcept fun owner => later_modify ?_
      exact later_bind (later_askEnv fun _ => later_modify trivial) fun _ => guar_pure _
    · exact later_of_guar (humble_onNetworkMessage sha256 ht)
  | game event => exact later_of_guar (humble_onGameEvent event)
  | zoneLoaded epoch => exact later_of_guar (humble_of_does (guar_markLocalZoneLoaded (by simp) epoch))
  | flush f => exact later_of_guar (humble_resumeFlush f)

/-- the client takes itself for the owner only when this message, if it can be read, names it -/
structure Named (player : String) (payload : Json) (c : Client) : Prop where
  playerId : c.playerId = player
  names : c.ownsBuildLock = true → ∀ owner, payload.get "owner_id" = .ok owner → owner.pyEq (.str player) = true

theorem Named.humble {player : String} {payload : Json} {c c' : Client} (h : Named player payload c)
    (hh : Humble c c') : Named player payload c' :=
  ⟨hh.playerId.trans h.playerId, fun howns => h.names (hh.owns howns)⟩

theorem wp_humble {player : String} {payload : Json} {α : Type} {p : ClientM α} (hp : Guar Humble p) {own : Set Empty}
    {c : Client} (hc : Named player payload c) :
    wp (Staying (Named player payload)) own p (fun _ _ c' => Named player payload c') c :=
  wp_staying (R := Humble) (fun _ _ h hh => h.humble hh) hp hc

theorem wp_onLockState {player : String} (payload : Json) (own : Set Empty) {c : Client} (hc : c.playerId = player) :
    wp (Staying (Named player payload)) own (onLockState payload) (fun _ _ c' => Named player payload c') c := by
  rw [onLockState, wp_bind, wp_get, andThen_ok, wp_bind, wp_ofExcept]
  refine ⟨Discipline.may_plain.2 trivial, ?_⟩
  cases howner : payload.get "owner_id" with
  | error e =>
    refine ⟨hc, fun _ owner hread => ?_⟩
    rw [howner] at hread
    cases hread
  | ok owner =>
    have hnamed : Named player payload { c with ownsBuildLock := owner.pyEq (.str c.playerId) } := by
      refine ⟨hc, fun howns owner' hread => ?_⟩
      rw [howner] at hread
      cases hread
      rw [← hc]
      exact howns
    have hrest : Guar Humble (bridgeSend .buildLockState payload >>= fun _ => pure (owner.pyEq (.str c.playerId))) :=
      guar_bind (humble_of_does (guar_bridgeSend (Or.inr (by decide)) _)) fun _ => guar_pure _
    rw [andThen_ok]
    unfold setOwnsBuildLock
    refine wp_modify_bind (Discipline.may_plain.2 trivial) (Discipline.take_eq fun m => m.elim) ?_
    exact wp_humble hrest hnamed

section runs
variable (sha256 : Base64.Bytes → String)

/-- a message about the lock, up to the first await -/
theorem listen_lockState {env : Envelope} (ht : env.type = .buildLockState) (as : List Answer) (c : Client) :
    Named c.playerId env.payload ((listen sha256 (.ok env)).segment as c).2 := by
  have hlisten : wp (Staying (Named c.playerId env.payload)) ∅ (listen sha256 (.ok env))
      (fun _ _ c' => Named c.playerId env.payload c') c := by
    rw [listen, setListening]
    refine wp_modify_bind (Discipline.may_plain.2 trivial) (Discipline.take_eq fun m => m.elim) ?_
    rw [wp_bind, wp_attempt, wp_bind, wp_ofExcept, andThen_ok, onNetworkMessage_lockState sha256 ht, wp_bind]
    refine wp_mono ?_ (wp_onLockState env.payload _ rfl)
    rintro (e | flush) own₁ c₁ h₁
    · exact wp_humble (humble_of_does (guar_afterListen (.error e))) h₁
    · rw [andThen_ok]
      refine wp_mono ?_ (wp_humble (humble_afterMessage flush) h₁)
      exact fun r own₂ c₂ h₂ => wp_humble (humble_of_does (guar_afterListen r)) h₂
  obtain ⟨own', -, hend⟩ := wp_segment (staying_lawful _) as hlisten
  split at hend
  · exact hend
  · exact hend.1

/-- the client takes itself for the owner only when the last of these messages about the lock, if it can be read, names
it -/
structure Believes (player : String) (messages : List (MessageType × Json)) (c : Client) : Prop where
  playerId : c.playerId = player
  named : ∀ payload ∈ (Host.payloadsOf .buildLockState messages).head?, Named player payload c

theorem Believes.humble {player : String} {messages : List (MessageType × Json)} {c c' : Client}
    (h : Believes player messages c) (hh : Humble c c') : Believes player messages c' :=
  ⟨hh.playerId.trans h.playerId, fun payload hp => (h.named payload hp).humble hh⟩

/-- **One act.** -/
theorem believes_step {c : Run} (hlater : Pool.AllLater Humble c) {player : String}
    {messages : List (MessageType × Json)} (h : Believes player messages c.state) (a : ClientAct) :
    Believes player ((taken c.state a).toList ++ messages) (Pool.step (handle sha256) enabled c a).state := by
  obtain ⟨htaken, hhumble⟩ | ⟨env, as, htaken, hstate⟩ :=
    step_taken sha256 .refl (fun _ _ _ => .trans) (humble_others sha256) hlater a
  · rw [htaken]
    exact h.humble hhumble
  rw [htaken, hstate, Option.toList_some]
  by_cases ht : env.type = .buildLockState
  · have hnamed := listen_lockState sha256 ht as c.state
    rw [h.playerId] at hnamed
    have hlast : Host.payloadsOf .buildLockState ([(env.type, env.payload)] ++ messages) =
        env.payload :: Host.payloadsOf .buildLockState messages := by
      simp [Host.payloadsOf, ht]
    refine ⟨hnamed.playerId, fun payload hp => ?_⟩
    rw [hlast, List.head?_cons] at hp
    cases hp
    exact hnamed
  · have hsame : Host.payloadsOf .buildLockState ([(env.type, env.payload)] ++ messages) =
        Host.payloadsOf .buildLockState messages := by
      simp [Host.payloadsOf, ht]
    have hnext := h.humble (segment_guar .refl (fun _ _ _ => .trans) (humble_listen sha256 ht) as c.state)
    exact ⟨hnext.playerId, hsame ▸ hnext.named⟩

theorem believes_run {c : Run} (hlater : Pool.AllLater Humble c) {player : String}
    {messages : List (MessageType × Json)} (h : Believes player messages c.state) (acts : List ClientAct) :
    Believes player (handled sha256 c acts ++ messages) (runFrom sha256 c acts).state := by
  induction acts generalizing c messages with
  | nil => exact h
  | cons a acts ih =>
    have hstep := ih (Pool.step_later (humble_later_handle sha256) hlater a) (believes_step sha256 hlater h a)
    rw [handled, List.append_assoc]
    exact hstep

end runs

end Client

/-! ## The host -/

namespace Host

/-- what is said of the lock's owner, if it has one -/
def OwnerAnnounced (payload : Json) : Prop :=
  ∃ owner rest, payload = .obj (("owner_id", BuildAuthority.strOrNull owner) :: rest)

/-- what is written of it names the same owner -/
theorem OwnerAnnounced.sent {announced sent : Json} (h : OwnerAnnounced announced)
    (hsent : SameContent announced sent) :
    ∃ owner, announced.get "owner_id" = .ok (BuildAuthority.strOrNull owner) ∧
      sent.get "owner_id" = .ok (BuildAuthority.strOrNull owner) := by
  obtain ⟨owner, rest, rfl⟩ := h
  have howner : Json.get (.obj (("owner_id", BuildAuthority.strOrNull owner) :: rest)) "owner_id" =
      .ok (BuildAuthority.strOrNull owner) := rfl
  exact ⟨owner, howner, (hsent.getD (by simp) (by decide) .null).trans howner⟩

theorem guar_lockOwner {P : Host → Host → Prop} (hrefl : ∀ h, P h h) {α : Type} {next : Json → HostM α}
    (hnext : ∀ owner, Guar P (next (BuildAuthority.strOrNull owner))) : Guar P (lockOwner >>= next) := by
  have hread : Guar P ((Coro.get : HostM Host) >>= fun h => next (BuildAuthority.strOrNull h.session.build.ownerId)) :=
    guar_bind (guar_get hrefl) fun h => hnext _
  exact hread

/-- the owner is announced to all peers -/
theorem owner_broadcast (owner : Option String) (rest : List (String × Json)) :
    Guar (ByBroadcast .buildLockState OwnerAnnounced)
      (broadcastPeers .buildLockState (.val (.obj (("owner_id", BuildAuthority.strOrNull owner) :: rest)))) :=
  byBroadcast_broadcastPeers (by decide) (by decide) fun _ _ => ⟨owner, rest, rfl⟩

theorem owner_forward (type : MessageType) (payload : Payload) :
    Guar (ByBroadcast .buildLockState OwnerAnnounced) (forward type payload) :=
  guar_bind (guar_bind guar_askEnv fun _ => guar_call fun _ => byBroadcast_note trivial) fun _ => guar_pure ()

theorem owner_request (player : String) :
    Guar (ByBroadcast .buildLockState OwnerAnnounced) (requestLock player) :=
  guar_byBroadcast (T := [.session, .lock]) (aside_requestLock (by decide) (by decide) player)

theorem owner_hostId : Guar (ByBroadcast .buildLockState OwnerAnnounced) hostId :=
  guar_bind (guar_get fun _ => byBroadcast_same rfl) fun _ => guar_pure _

theorem owner_announceLock (owner : Option String) (rest : List (String × Json)) :
    Guar (ByBroadcast .buildLockState OwnerAnnounced)
      (announceLock (.obj (("owner_id", BuildAuthority.strOrNull owner) :: rest))) :=
  guar_bind (owner_forward _ _) fun _ => owner_broadcast owner rest

theorem owner_dispatchBuildLockRequest (sender : String) :
    Guar (ByBroadcast .buildLockState OwnerAnnounced) (dispatchBuildLockRequest sender) :=
  guar_bind (owner_request sender) fun _ => guar_lockOwner (fun _ => byBroadcast_same rfl) fun owner =>
    owner_broadcast owner _

theorem owner_gameBuildLockRequest : Guar (ByBroadcast .buildLockState OwnerAnnounced) gameBuildLockRequest :=
  guar_bind owner_hostId fun me => guar_bind (owner_request me) fun _ =>
    guar_lockOwner (fun _ => byBroadcast_same rfl) fun owner => owner_announceLock owner _

theorem owner_release (player : String) : Guar (ByBroadcast .buildLockState OwnerAnnounced) (releaseLock player) :=
  guar_byBroadcast (T := [.lock]) (aside_releaseLock (by decide) player)

theorem owner_dispatchBuildLockRelease (sender : String) :
    Guar (ByBroadcast .buildLockState OwnerAnnounced) (dispatchBuildLockRelease sender) :=
  guar_bind (owner_release sender) fun _ => owner_broadcast none _

theorem owner_gameBuildLockRelease : Guar (ByBroadcast .buildLockState OwnerAnnounced) gameBuildLockRelease :=
  guar_bind owner_hostId fun me => guar_bind (owner_release me) fun _ =>
    guar_lockOwner (fun _ => byBroadcast_same rfl) fun owner => owner_announceLock owner _

theorem owner_gameBuildOperation (payload : Json) :
    Guar (ByBroadcast .buildLockState OwnerAnnounced) (gameBuildOperation payload) := by
  refine guar_bind owner_hostId fun me => guar_bind ?_ fun granted => ?_
  · exact guar_byBroadcast (T := [.session, .lock])
      (aside_requestLockNoting (by decide) (by decide) me (by simp [Out.topic]) (by simp [Out.aside]))
  · split_ifs
    · exact guar_lockOwner (fun _ => byBroadcast_same rfl) fun owner => owner_forward _ _
    · exact byBroadcast_made (T := unlocked) (by decide) (by decide) (by decide)
        (made_gameSubmit (by decide) (by decide) me payload)

theorem owner_parts : Parts unlocked fun _ p => Guar (ByBroadcast .buildLockState OwnerAnnounced) p where
  session := by decide
  lock := Or.inr ⟨owner_dispatchBuildLockRequest, owner_gameBuildOperation, owner_gameBuildLockRequest⟩
  travel := Or.inl (by decide)
  ready := Or.inl (by decide)
  zoneReady := Or.inl (by decide)
  operation := Or.inl (by decide)
  status := Or.inl (by decide)
  request := Or.inl ⟨by decide, by decide⟩
  view := Or.inl (by decide)

/-- whatever happens, peers hear of the lock by broadcasts of its owner -/
theorem owner_handle (e : Event) : Guar (ByBroadcast .buildLockState OwnerAnnounced) (handle e) := by
  have hmade : ∀ {p : HostM Unit}, Made unlocked (fun _ p => Guar (ByBroadcast .buildLockState OwnerAnnounced) p) p →
      Guar (ByBroadcast .buildLockState OwnerAnnounced) p := fun hp =>
    byBroadcast_made (by decide) (by decide) (by decide) hp
  refine byBroadcast_handle (by decide) (fun env => ?_) (fun event => ?_) e
  · by_cases ht : env.type = .buildLockRelease
    · have hrelease : Host.dispatch env = dispatchBuildLockRelease env.senderId := by rw [Host.dispatch, ht]
      rw [hrelease]
      exact owner_dispatchBuildLockRelease _
    · exact hmade (owner_parts.dispatch (fun _ => by decide) (fun he => absurd he ht) (fun _ => by decide)
        fun _ => by decide)
  · by_cases ht : event.type = .buildLockRelease
    · have hrelease : Host.onGameEvent event = gameBuildLockRelease := by rw [Host.onGameEvent, ht]
      rw [hrelease]
      exact owner_gameBuildLockRelease
    · exact hmade (owner_parts.onGameEvent (fun _ => by decide) (fun he => absurd he ht) (fun _ => by decide)
        fun _ => by decide)

/-! ## Runs -/

/-- the owner was announced since the player joined, and its client has handled what was written to it -/
def Informed (sha256 : Base64.Bytes → String) (r : Run) (player : String) (c : Client.Run) : Prop :=
  ∃ newer, outgoing (only .buildLockState) newer ≠ [] ∧ Attends .buildLockState sha256 r player newer c

/-- the owner that was announced last -/
def announcedOwner (log : List Out) : Option (Except Exc Json) :=
  (outgoing (only .buildLockState) log).head?.map (·.payload.get "owner_id")

/-- a client that takes itself for the owner is the owner that was announced last -/
theorem owner_announced (playerId displayName sessionId : String) (manifest : CompatibilityManifest)
    (nativeRequired : Bool) (commands : NetworkedCommandRouter) {acts : List HostAct}
    (hturn : RunInTurn (started playerId displayName sessionId manifest nativeRequired commands) acts)
    (hquiet : (runFrom (started playerId displayName sessionId manifest nativeRequired commands) acts).tasks = [])
    {sha256 : Base64.Bytes → String} {p : String} {c : Client.Run}
    (hp : Informed sha256 (runFrom (started playerId displayName sessionId manifest nativeRequired commands) acts) p c)
    (howns : c.state.ownsBuildLock = true) :
    announcedOwner (runFrom (started playerId displayName sessionId manifest nativeRequired commands) acts).state.log =
      some (.ok (.str p)) := by
  obtain ⟨newer, htold, hattends⟩ := hp
  have hby := run_byBroadcast owner_handle playerId displayName sessionId manifest nativeRequired commands acts
  obtain ⟨disk, clientActs, older, since, before, rfl, hlog, hhandled, hsince, -⟩ := hattends.handled playerId
    displayName sessionId manifest nativeRequired commands hby hturn hquiet (by decide)
  obtain ⟨a, rest, houtgoing⟩ := List.exists_cons_of_ne_nil htold
  rw [houtgoing, List.map_cons] at hsince
  obtain ⟨sent, since', ⟨hcontent, hannounced⟩, -, rfl⟩ := List.forall₂_cons_right_iff.1 hsince
  obtain ⟨owner, hfrom, hto⟩ := hannounced.sent hcontent
  have hlater : Pool.AllLater Client.Humble (⟨Client.init p disk, []⟩ : Client.Run) :=
    fun x hx => absurd hx List.not_mem_nil
  have hbelieves := @Client.believes_run sha256 _ hlater p [] ⟨rfl, fun x hx => absurd hx (Option.not_mem_none x)⟩
    clientActs
  rw [List.append_nil] at hbelieves
  have hnames := (hbelieves.named sent (by rw [hhandled]; rfl)).names howns _ hto
  have howner : BuildAuthority.strOrNull owner = .str p := by
    cases owner with
    | none => cases hnames
    | some o => exact congrArg Json.str (of_decide_eq_true hnames)
  rw [announcedOwner, hlog, outgoing_append, houtgoing, List.cons_append, List.head?_cons, Option.map_some, hfrom,
    howner]

end Host

end KerMP
