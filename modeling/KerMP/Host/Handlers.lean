/-
What the handlers of client messages and of game events are made of: one lemma `made_...` for each, and `Parts.dispatch`,
`Parts.onGameEvent` for all of them.

What an accepted request or an accepted operation needs to be sent is left to the modules of those properties: here a
handler is only its steps, its messages and its broadcasts. `Parts` says which handlers a property wants to look at
itself.
-/
import KerMP.Host.Steps

namespace KerMP.Host

open Py Coop
open Coro hiding pure get modify

section handlers
variable {T : List Topic} {Own : (α : Type) → HostM α → Prop}

/-! ## Messages of clients -/

theorem made_announceReadiness (hs : .session ∈ T) (hr : .readiness ∈ T) (sender : String)
    (fields : List (String × Json)) : Made T Own (announceReadiness sender fields) :=
  .bind (.aside (aside_updateReadiness hr _ _)) fun _ => .bind (made_ofExcept _) fun _ =>
    made_broadcast hs (by exact hs) (by exact hs) (by decide) (Or.inl (by decide)) (by decide) _

theorem made_dispatchReadiness (hs : .session ∈ T) (hr : .readiness ∈ T) (sender : String) (payload : Json) :
    Made T Own (dispatchReadiness sender payload) :=
  made_catching (.bind (made_ofExcept _) fun _ => made_announceReadiness hs hr _ _) fun _ => made_sendError hs _ _

theorem made_dispatchSaveAck (hs : .session ∈ T) (hr : .readiness ∈ T) (sender : String) (payload : Json) :
    Made T Own (dispatchSaveAck sender payload) :=
  made_catching (.bind (made_ofExcept _) fun _ => .bind (made_ofExcept _) fun _ =>
    made_announceReadiness hs hr _ _) fun _ => made_sendError hs _ _

theorem made_dispatchSaveError (hs : .session ∈ T) (hr : .readiness ∈ T) (sender : String) (payload : Json) :
    Made T Own (dispatchSaveError sender payload) :=
  .bind (made_ofExcept _) fun _ => made_announceReadiness hs hr _ _

theorem made_dispatchClockSpeed (hs : .session ∈ T) (hc : .clock ∈ T) (sender : String) (payload : Json) :
    Made T Own (dispatchClockSpeed sender payload) := by
  refine .bind (made_ofExcept _) fun speed => ?_
  split
  · exact made_sendError hs _ _
  · exact .bind (.aside (aside_setClock hc _)) fun _ =>
      made_broadcast hs (by exact hs) (by exact hs) (by decide) (Or.inl (by decide)) (by decide) _

theorem made_dispatchClockPause (hs : .session ∈ T) (hc : .clock ∈ T) (payload : Json) :
    Made T Own (dispatchClockPause payload) :=
  .bind (made_ofExcept _) fun _ => .bind (.aside (aside_setClock hc _)) fun _ =>
    made_broadcast hs (by exact hs) (by exact hs) (by decide) (Or.inl (by decide)) (by decide) _

theorem made_dispatchClockResync (hs : .session ∈ T) (sender : String) : Made T Own (dispatchClockResync sender) :=
  .bind (made_read hs) fun _ => .sendPeer sender _ (by exact hs) (Or.inl rfl)

theorem made_dispatchCommandRequest (hs : .session ∈ T) (sender : String) (payload : Json) :
    Made T Own (dispatchCommandRequest sender payload) :=
  made_catching (.bind (made_ofExcept _) fun _ => .bind (made_ofExcept _) fun _ =>
    .bind (made_ofExcept _) fun _ => .bind (.aside (aside_drawUuid hs)) fun _ =>
      .bind (.aside (aside_dispatchCommand hs _ _ _ _ _)) fun _ =>
        made_broadcast hs (by exact hs) (by exact hs) (by decide) (Or.inl (by decide)) (by decide) _)
    fun _ => made_sendError hs _ _

theorem made_dispatchDialogResponse (hs : .session ∈ T) (sender : String) (payload : Json) :
    Made T Own (dispatchDialogResponse sender payload) :=
  made_catching (.bind (made_ofExcept _) fun _ => .bind (made_ofExcept _) fun _ =>
    .bind (.aside (aside_respondDialog hs _ _ _)) fun _ =>
      made_broadcast hs (by exact hs) (by exact hs) (by decide) (Or.inl (by decide)) (by decide) _)
    fun _ => made_sendError hs _ _

theorem made_takeSnapshot (hs : .session ∈ T) : Made T Own takeSnapshot :=
  .bind (.aside (aside_readClock hs)) fun _ => .bind (made_read hs) fun _ => made_ofExcept _

theorem made_dispatchSnapshotRequest (hs : .session ∈ T) (sender : String) :
    Made T Own (dispatchSnapshotRequest sender) :=
  .bind (made_read hs) fun _ => made_ifSome _ fun _ => .bind (made_takeSnapshot hs) fun _ =>
    .sendPeer sender _ (by exact hs) (Or.inr rfl)

theorem made_lockOwner (hs : .session ∈ T) : Made T Own lockOwner := .bind (made_read hs) fun _ => made_pure _

theorem made_dispatchBuildLockRequest (hs : .session ∈ T) (hl : .lock ∈ T) (sender : String) :
    Made T Own (dispatchBuildLockRequest sender) :=
  .bind (.aside (aside_requestLock hs hl sender)) fun _ => .bind (made_lockOwner hs) fun _ =>
    .broadcastPeers _ (by exact hl) (by decide)

theorem made_dispatchSimSelect (hs : .session ∈ T) (sender : String) (payload : Json) :
    Made T Own (dispatchSimSelect sender payload) := by
  refine .bind (.attempt (.bind (made_ofExcept _) fun _ => .aside (aside_selectSim hs _ _))) fun state => ?_
  split
  · exact made_broadcast hs (by exact hs) (by exact hs) (by decide) (Or.inl (by decide)) (by decide) _
  · exact made_sendError hs _ _
  · exact made_raise _

theorem made_dispatchSimState (hs : .session ∈ T) (payload : Json) : Made T Own (dispatchSimState payload) :=
  .bind (made_ofExcept _) fun _ => .bind (.aside (aside_updateSims hs _)) fun _ => .bind (made_takeSnapshot hs)
    fun _ => made_broadcast hs (by exact hs) (by exact hs) (by decide) (Or.inl (by decide)) (by decide) _

theorem made_dispatchInteractionRequest (hs : .session ∈ T) (hr : .request ∈ T) (hst : .status ∈ T) (sender : String)
    (payload : Json) : Made T Own (dispatchInteractionRequest sender payload) := by
  refine .bind (.attempt (.bind (made_ofExcept _) fun _ => .bind (made_ofExcept _) fun _ =>
    .aside (aside_validateInteraction hs hr _ _ _))) fun request => ?_
  split
  · exact made_broadcast hs (by exact hst) (by exact hr) (by decide) (Or.inr hst) (by decide) _
  · exact made_sendError hs _ _
  · exact made_raise _

theorem made_acceptCommand (hs : .session ∈ T) (hr : .request ∈ T) (hst : .status ∈ T) (player : String) (payload : Json) :
    Made T Own (acceptCommand player payload) :=
  .bind (made_ofExcept _) fun _ => .bind (made_ofExcept _) fun _ => .bind (made_ofExcept _) fun _ =>
    .bind (.aside (aside_validateInteraction hs hr _ _ _)) fun _ =>
    .bind (.aside (aside_setRequestField hst _ _ (by decide))) fun _ =>
      made_pure _

theorem made_dispatchInteractionCommand (hs : .session ∈ T) (hr : .request ∈ T) (hst : .status ∈ T) (sender : String)
    (payload : Json) : Made T Own (dispatchInteractionCommand sender payload) := by
  refine .bind (.attempt (made_acceptCommand hs hr hst _ _)) fun request => ?_
  split
  · exact made_broadcast hs (by exact hst) (by exact hr) (by decide) (Or.inr hst) (by decide) _
  · exact made_sendError hs _ _
  · exact made_sendError hs _ _
  · exact made_raise _

theorem made_cancelTarget (hs : .session ∈ T) (payload : Json) : Made T Own (cancelTarget payload) :=
  .bind (made_ofExcept _) fun _ => .bind (made_ofExcept _) fun _ => .bind (made_read hs) fun _ => made_pure _

theorem made_dispatchInteractionCancel (hs : .session ∈ T) (hst : .status ∈ T) (sender : String) (payload : Json) :
    Made T Own (dispatchInteractionCancel sender payload) := by
  refine .bind (.attempt (.bind (made_cancelTarget hs _) fun _ => .bind (made_ofExcept _) fun _ =>
    .aside (aside_cancelInteraction hs hst _ _ _))) fun request => ?_
  split
  · exact made_broadcast hs (by exact hst) (by exact hs) (by decide) (Or.inl (by decide)) (by decide) _
  · exact made_sendError hs _ _
  · exact made_raise _

theorem made_dispatchBuildLockRelease (hl : .lock ∈ T) (sender : String) :
    Made T Own (dispatchBuildLockRelease sender) :=
  .bind (.aside (aside_releaseLock hl sender)) fun _ => .broadcastPeers _ (by exact hl) (by decide)

theorem made_submitFrom (hs : .session ∈ T) (hb : .build ∈ T) (player : String) (payload : Json) :
    Made T Own (submitFrom player payload) :=
  .bind (made_ofExcept _) fun _ => .bind (made_ofExcept _) fun _ => .aside (aside_submit hs hb _ _ _)

theorem made_dispatchBuildOperation (hs : .session ∈ T) (hb : .build ∈ T) (ha : .apply ∈ T)
    (sender : String) (payload : Json) : Made T Own (dispatchBuildOperation sender payload) := by
  refine .bind (.attempt (made_submitFrom hs hb _ _)) fun op => ?_
  cases op with
  | ok op => exact made_broadcast hs (by exact hb) (by exact ha) (by decide) (Or.inl (by decide)) (by decide) _
  | error e =>
    dsimp only
    split_ifs
    · exact made_sendError hs _ _
    · exact made_raise _

theorem made_dispatchOther (hs : .session ∈ T) (sender : String) {type : MessageType}
    (payload : Json) (ht : runtimeTopic type ∈ T) (hc : type = .travelReady → .travel ∈ T)
    (hst : runtimeTopic type ≠ .request ∨ .status ∈ T) : Made T Own (dispatchOther sender type payload) :=
  .bind (.aside (aside_emit hs rfl)) fun _ => made_onNetworkMessage hs ht hc hst _ _

/-! ## Events of the game -/

theorem made_hostId (hs : .session ∈ T) : Made T Own hostId := .bind (made_read hs) fun _ => made_pure _

theorem made_announceHostReadiness (hs : .session ∈ T) (readiness : PlayerReadiness) :
    Made T Own (announceHostReadiness readiness) :=
  .bind (made_hostId hs) fun _ => .bind (made_ofExcept _) fun _ => .broadcastPeers _ (by exact hs) (by decide)

theorem made_gameHello (hs : .session ∈ T) (hr : .readiness ∈ T) : Made T Own gameHello :=
  .bind (made_hostId hs) fun _ => .bind (.aside (aside_updateReadiness hr _ _)) fun _ =>
    .bind (made_forward (by exact hs) _) fun _ => made_announceHostReadiness hs _

theorem made_gameAuthority (hs : .session ∈ T) (hr : .readiness ∈ T) : Made T Own gameAuthority :=
  .bind (made_hostId hs) fun _ => .bind (.aside (aside_updateReadiness hr _ _)) fun _ => made_announceHostReadiness hs _

theorem made_gameClock (hs : .session ∈ T) (hc : .clock ∈ T) (payload : Json) : Made T Own (gameClock payload) := by
  refine .bind (made_ofExcept _) fun state => .bind (made_read hs) fun h => .bind (made_ofExcept _)
    fun speed => ?_
  split
  · exact made_pure ()
  · exact .bind (.aside (aside_setClock hc _)) fun _ => .broadcastPeers _ (by exact hs) (by decide)

theorem made_gameRawMessage (hs : .session ∈ T) (hv : .view ∈ T) (payload : Json) :
    Made T Own (gameRawMessage payload) := by
  unfold gameRawMessage
  cases readRawMessage payload with
  | error exc => exact made_forward (by exact hs) _
  | ok r =>
    exact .bind (.aside (aside_nextGameSequence hv _ _)) fun _ => .bind (made_read hs) fun _ =>
      .broadcastPeers _ (by exact hv) (by decide)

theorem made_gameViewBatch (hs : .session ∈ T) (ht : .travel ∈ T) (payload : Json) :
    Made T Own (gameViewBatch payload) := by
  refine .bind (made_ofExcept _) fun epoch => .bind (made_read hs) fun h => made_ifSome _ fun active => ?_
  split_ifs with he
  · exact made_pure ()
  refine .bind (made_ofExcept _) fun kind => .bind (.aside (aside_setBatchOpen hs _)) fun _ => ?_
  have hend : Made T Own (do
      broadcastPeers .travelViewBatch (.val (viewBatch active kind.toStr.toLower))
      if kind.toStr.toLower = "end" then forward .travelViewBatch (.val (viewBatch active kind.toStr.toLower))
      else pure () : HostM Unit) := by
    refine .bind (.broadcastPeers _ (by exact ht) (by decide)) fun _ => ?_
    split_ifs
    · exact made_forward (by exact ht) _
    · exact made_pure ()
  dsimp only
  by_cases hbegin : kind.toStr.toLower = "begin"
  · rw [if_pos hbegin]
    exact .bind (made_forward (by exact ht) _) fun _ => hend
  · rw [if_neg hbegin]
    exact hend

theorem made_gameSimSelect (hs : .session ∈ T) (payload : Json) : Made T Own (gameSimSelect payload) := by
  refine .bind (made_hostId hs) fun me => .bind (.attempt (.bind (made_ofExcept _) fun _ =>
    .aside (aside_selectSim hs _ _))) fun state => ?_
  split
  · exact made_broadcast hs (by exact hs) (by exact hs) (by decide) (Or.inl (by decide)) (by decide) _
  · exact made_forward (by exact hs) _
  · exact made_raise _

theorem made_rejectToGame {type : MessageType} (ht : type.gameTopic ∈ T) (fields : List (String × Json)) (reason : String) :
    Made T Own (rejectToGame type fields reason) := made_forward ht _

theorem made_announceRequest (hs : .session ∈ T) {type accepted rejected : MessageType}
    (ht : type.gameTopic ∈ T) (ha : accepted.topic ∈ T) (hr : rejected.topic ∈ T) (hne : accepted ≠ .snapshot)
    (hne' : rejected ≠ .snapshot) (rid : String) :
    Made T Own (announceRequest type accepted rejected rid) := by
  refine .bind (.aside (aside_bridgeSend ht _)) fun delivered => ?_
  split_ifs
  · exact .broadcastPeers _ ha hne
  · exact .bind (made_read hs) fun _ => .bind (made_ofExcept _) fun _ => .broadcastPeers _ hr hne'

theorem made_gameInteractionRequest (hs : .session ∈ T) (hr : .request ∈ T) (hst : .status ∈ T) (payload : Json) :
    Made T Own (gameInteractionRequest payload) := by
  refine .bind (made_hostId hs) fun me => .bind (made_ofExcept _) fun fields =>
    .bind (.attempt (.aside (aside_validateInteraction hs hr _ _ _))) fun request => ?_
  split
  · exact made_announceRequest hs (by exact hr) (by exact hst) (by exact hst) (by decide) (by decide) _
  · exact made_rejectToGame (by exact hs) _ _
  · exact made_raise _

theorem made_gameInteractionCommand (hs : .session ∈ T) (hr : .request ∈ T) (hst : .status ∈ T) (payload : Json) :
    Made T Own (gameInteractionCommand payload) := by
  refine .bind (made_hostId hs) fun me => .bind (made_ofExcept _) fun fields =>
    .bind (.attempt (made_acceptCommand hs hr hst _ _)) fun request => ?_
  split
  · exact made_announceRequest hs (by exact hr) (by exact hst) (by exact hst) (by decide) (by decide) _
  · exact made_rejectToGame (by exact hs) _ _
  · exact made_rejectToGame (by exact hs) _ _
  · exact made_raise _

theorem made_gameInteractionCancel (hs : .session ∈ T) (hst : .status ∈ T) (payload : Json) :
    Made T Own (gameInteractionCancel payload) := by
  refine .bind (made_hostId hs) fun me => .bind (made_ofExcept _) fun fields =>
    .bind (.attempt (.bind (made_cancelTarget hs _) fun _ => .aside (aside_cancelInteraction hs hst _ _ _)))
      fun request => ?_
  split
  · exact .bind (made_forward (by exact hs) _) fun _ => .broadcastPeers _ (by exact hst) (by decide)
  · exact made_rejectToGame (by exact hs) _ _
  · exact made_raise _

/-- what becomes of a build operation of the host's game once the host has the lock -/
theorem made_gameSubmit (hs : .session ∈ T) (hb : .build ∈ T) (me : String) (payload : Json) :
    Made T Own (do
      let op ← (submitFromGame me payload).attempt
      match op with
      | .ok op => broadcastPeers .buildApply (.val (gameBuildApply op))
      | .error e =>
        if refusedGameBuild e then forward .error (.val (.obj [("reason", .str e.str)])) else .raise e : HostM Unit) := by
  refine .bind (.attempt (.bind (made_ofExcept _) fun _ => .bind (made_ofExcept _) fun _ =>
    .aside (aside_submit hs hb _ _ _))) fun op => ?_
  cases op with
  | ok op => exact .broadcastPeers _ (by exact hb) (by decide)
  | error e =>
    dsimp only
    split_ifs
    · exact made_forward (by exact hs) _
    · exact made_raise _

theorem made_gameBuildOperation (hs : .session ∈ T) (hl : .lock ∈ T) (hb : .build ∈ T)
    (payload : Json) : Made T Own (gameBuildOperation payload) := by
  have hoffered : ∀ (b : BuildAuthority) (t : ℕ), ∀ o ∈ [Out.offered payload b t], o.topic = .lock ∧ o.aside = true := by
    intro b t o ho
    rw [List.mem_singleton.1 ho]
    exact ⟨rfl, rfl⟩
  have hlock : ∀ me, Made T Own (requestLockNoting me fun authority now => [.offered payload authority now]) := fun me =>
    .aside (aside_requestLockNoting hs hl me (fun b t o ho => (hoffered b t o ho).1) fun b t o ho => (hoffered b t o ho).2)
  refine .bind (made_hostId hs) fun me => .bind (hlock me) fun granted => ?_
  split_ifs
  · exact .bind (made_lockOwner hs) fun _ => made_forward (by exact hl) _
  · exact made_gameSubmit hs hb me payload

theorem made_announceLock (hl : .lock ∈ T) (payload : Json) : Made T Own (announceLock payload) :=
  .bind (made_forward (by exact hl) _) fun _ => .broadcastPeers _ (by exact hl) (by decide)

theorem made_gameBuildLockRequest (hs : .session ∈ T) (hl : .lock ∈ T) : Made T Own gameBuildLockRequest :=
  .bind (made_hostId hs) fun _ => .bind (.aside (aside_requestLock hs hl _)) fun _ => .bind (made_lockOwner hs)
    fun _ => made_announceLock hl _

theorem made_gameBuildLockRelease (hs : .session ∈ T) (hl : .lock ∈ T) : Made T Own gameBuildLockRelease :=
  .bind (made_hostId hs) fun _ => .bind (.aside (aside_releaseLock hl _)) fun _ => .bind (made_lockOwner hs)
    fun _ => made_announceLock hl _

theorem made_gameSimState (hs : .session ∈ T) (payload : Json) : Made T Own (gameSimState payload) :=
  .bind (made_ofExcept _) fun _ => .bind (.aside (aside_updateSims hs _)) fun _ => .bind (made_takeSnapshot hs)
    fun _ => .broadcastPeers _ (by exact hs) (by decide)

theorem made_gameLifecycle (hs : .session ∈ T) (hst : .status ∈ T) {type : MessageType} (ht : type.topic ∈ T)
    (hne : type ≠ .snapshot)
    (payload : Json) : Made T Own (gameLifecycle type payload) := by
  refine .bind (made_ofExcept _) fun rid => .bind (made_read hs) fun h => ?_
  dsimp only
  split_ifs
  · refine .bind (.aside (aside_setRequestField hst _ _ (by decide))) fun _ =>
      .bind (made_ofExcept _) fun interactionId => ?_
    split_ifs
    · exact .broadcastPeers _ ht hne
    · exact .bind (.aside (aside_setRequestField hst _ _ (by decide))) fun _ => .broadcastPeers _ ht hne
  · exact .broadcastPeers _ ht hne

/-! ## Connections -/

theorem guar_finish (hs : .session ∈ T) (hm : .member ∈ T) (conn : ℕ) (player : Option String) :
    Guar (On T) (finish conn player) := by
  refine guar_bind (guar_ifSome _ fun p => ?_) fun _ => guar_bind (guar_closeWriter hs conn) fun _ =>
    guar_setStage hs conn _
  split_ifs
  · exact guar_pure ()
  · exact guar_drop hs hm p

theorem guar_refuse (hs : .session ∈ T) (conn : ℕ) (player reason : String) : Guar (On T) (refuse conn player reason) :=
  guar_post (guar_of_aside (aside_drawUuid hs)) fun _ => guar_write _ _ (by exact hs) _ _ _

theorem guar_welcome (hs : .session ∈ T) (conn : ℕ) (player : String) : Guar (On T) (welcome conn player) :=
  guar_bind (guar_of_aside (aside_readClock hs)) fun _ => guar_bind (guar_of_aside (aside_read hs)) fun _ =>
    guar_bind (guar_ofExcept _) fun _ =>
      guar_post (guar_of_aside (aside_drawUuid hs)) fun _ => guar_write _ _ (by exact hs) _ _ _

/-- a first message registers its player, or does nothing but what concerns connections and members -/
theorem guar_greet {P : Host → Host → Prop} (hon : ∀ h h', On [.session, .member] h h' → P h h')
    (hjoin : ∀ h player name m conn, P h (h.registered player name m conn)) (conn : ℕ) (hello : Envelope) :
    Guar P (greet conn hello) := by
  have hrefuse : ∀ reason, Guar P (do refuse conn hello.senderId reason; pure false : HostM Bool) := fun reason =>
    guar_bind ((guar_refuse (by decide) _ _ _).mono hon) fun _ => guar_pure _
  refine guar_bind (guar_ofExcept _) fun name => guar_bind (guar_get fun h => hon h h (on_refl (by decide) h)) fun h => ?_
  split
  · exact hrefuse _
  split
  · exact hrefuse _
  · exact hrefuse _
  · exact guar_raise _
  · refine guar_bind (guar_modify fun h => hjoin h _ _ _ _) fun _ => ?_
    exact guar_bind ((guar_welcome (by decide) _ _).mono hon) fun _ => guar_pure true

theorem guar_handleHello {P : Host → Host → Prop} (hon : ∀ h h', On [.session, .member] h h' → P h h')
    (hjoin : ∀ h player name m conn, P h (h.registered player name m conn)) (conn : ℕ) (r : Recv) :
    Guar P (handleHello conn r) := by
  have hfirst : Guar P (firstMessage conn r) := by
    unfold firstMessage
    split
    · split_ifs
      · exact guar_greet hon hjoin conn _
      · exact guar_pure _
    · exact guar_pure _
  refine guar_bind ((guar_setStage (by decide) _ _).mono hon) fun _ => guar_bind (guar_attempt hfirst) fun accepted => ?_
  split
  · exact (guar_setStage (by decide) _ _).mono hon
  · exact (guar_finish (by decide) (by decide) _ _).mono hon

/-! ## All of them -/

/-- the topics whose steps do not matter, and for each of the others that its handlers are dealt with on their own -/
structure Parts (T : List Topic) (Own : (α : Type) → HostM α → Prop) : Prop where
  session : .session ∈ T
  lock : .lock ∈ T ∨ (∀ sender, Own Unit (dispatchBuildLockRequest sender)) ∧
    (∀ payload, Own Unit (gameBuildOperation payload)) ∧ Own Unit gameBuildLockRequest
  travel : .travel ∈ T ∨ (∀ payload player, Own Unit (startTravel payload player)) ∧
    ∀ payload, Own Unit (gameViewBatch payload)
  ready : (.travel ∈ T ∧ .commit ∈ T) ∨ ∀ player payload, Own Unit (travelReady player payload)
  zoneReady : .resume ∈ T ∨ ∀ player payload, Own Unit (travelZoneReady player payload)
  operation : (.build ∈ T ∧ .apply ∈ T) ∨ (∀ sender payload, Own Unit (dispatchBuildOperation sender payload)) ∧
    (∀ sender payload, Own Unit (dispatchOther sender .buildApply payload)) ∧
    ∀ payload, Own Unit (gameBuildOperation payload)
  status : .status ∈ T ∨ (∀ sender payload, Own Unit (dispatchInteractionCancel sender payload)) ∧
    (∀ payload, Own Unit (gameInteractionCancel payload)) ∧
    ∀ type payload, type.topic = .status → type ≠ .interactionCancel → Own Unit (gameLifecycle type payload)
  request : .request ∈ T ∧ .status ∈ T ∨ (∀ sender payload, Own Unit (dispatchInteractionRequest sender payload)) ∧
    (∀ sender payload, Own Unit (dispatchInteractionCommand sender payload)) ∧
    (∀ sender payload, Own Unit (dispatchOther sender .interactionAccepted payload)) ∧
    (∀ sender payload, Own Unit (dispatchOther sender .interactionCommandAccepted payload)) ∧
    (∀ payload, Own Unit (gameInteractionRequest payload)) ∧ ∀ payload, Own Unit (gameInteractionCommand payload)
  view : .view ∈ T ∨ ∀ payload, Own Unit (gameRawMessage payload)

/-- the topics that the handlers, the raw messages of the game apart, are made of -/
def handlerTopics : List Topic := [.session, .travel, .commit, .resume, .lock, .build, .apply, .request, .status]

namespace Parts

theorem of_topics (hT : handlerTopics ⊆ T) (hview : .view ∈ T ∨ ∀ payload, Own Unit (gameRawMessage payload)) :
    Parts T Own where
  session := hT (by decide)
  lock := Or.inl (hT (by decide))
  travel := Or.inl (hT (by decide))
  ready := Or.inl ⟨hT (by decide), hT (by decide)⟩
  zoneReady := Or.inl (hT (by decide))
  operation := Or.inl ⟨hT (by decide), hT (by decide)⟩
  status := Or.inl (hT (by decide))
  request := Or.inl ⟨hT (by decide), hT (by decide)⟩
  view := hview

/-- a handler is made of steps on `T`, or dealt with on its own -/
theorem either {OnT Alone : Prop} (h : OnT ∨ Alone) {p : HostM Unit} (hon : OnT → Made T Own p)
    (halone : Alone → Own Unit p) : Made T Own p := by
  rcases h with h | h
  · exact hon h
  · exact .own (halone h)

theorem dispatchOther (P : Parts T Own) (sender : String) {type : MessageType}
    (habort : type = .travelAbort → .travel ∈ T) (payload : Json) : Made T Own (dispatchOther sender type payload) := by
  by_cases hready : type = .travelReady
  · subst hready
    refine .bind (.aside (aside_emit P.session rfl)) fun _ => .bind (made_read P.session) fun _ => ?_
    exact either P.ready (fun ht => made_travelReady P.session ht.1 ht.2 _ _) fun R => R sender payload
  by_cases ht : runtimeTopic type ∈ T ∧ (runtimeTopic type ≠ .request ∨ .status ∈ T)
  · exact made_dispatchOther P.session sender payload ht.1 (fun he => absurd he hready) ht.2
  have hpass : ∀ {p : HostM Unit}, Own Unit p →
      Made T Own (do emit (.passed sender type payload); let _ ← Coro.get; p : HostM Unit) := fun hp =>
    .bind (.aside (aside_emit P.session rfl)) fun _ => .bind (made_read P.session) fun _ => .own hp
  cases type with
  | travelRequest => exact hpass ((P.travel.resolve_left fun h => ht ⟨h, Or.inl (by decide)⟩).1 payload sender)
  | travelReady => exact absurd rfl hready
  | travelZoneReady => exact hpass (P.zoneReady.resolve_left (fun h => ht ⟨h, Or.inl (by decide)⟩) sender payload)
  | travelAbort => exact absurd ⟨habort rfl, Or.inl (by decide)⟩ ht
  | buildApply => exact .own ((P.operation.resolve_left fun hb => ht ⟨hb.2, Or.inl (by decide)⟩).2.1 sender payload)
  | interactionAccepted => exact .own ((P.request.resolve_left fun h => ht ⟨h.1, Or.inr h.2⟩).2.2.1 sender payload)
  | interactionCommandAccepted =>
    exact .own ((P.request.resolve_left fun h => ht ⟨h.1, Or.inr h.2⟩).2.2.2.1 sender payload)
  | _ => exact (ht ⟨P.session, Or.inl (by simp [runtimeTopic])⟩).elim

/-- the requests of clients that change the game's clock -/
def clockRequests : List MessageType := [.clockRequestSpeed, .clockRequestPause]

/-- what clients report of their readiness -/
def readinessReports : List MessageType := [.readiness, .saveAck, .saveError]

theorem dispatch (P : Parts T Own) {env : Envelope} (habort : env.type = .travelAbort → .travel ∈ T)
    (hrelease : env.type = .buildLockRelease → .lock ∈ T) (hclock : env.type ∈ clockRequests → .clock ∈ T)
    (hready : env.type ∈ readinessReports → .readiness ∈ T) : Made T Own (dispatch env) := by
  have hs := P.session
  unfold Host.dispatch
  split
  · exact .sendPeer _ _ (by exact hs) (Or.inl rfl)
  · rename_i heq
    exact made_dispatchReadiness hs (hready (by simp [heq, readinessReports])) _ _
  · rename_i heq
    exact made_dispatchSaveAck hs (hready (by simp [heq, readinessReports])) _ _
  · rename_i heq
    exact made_dispatchSaveError hs (hready (by simp [heq, readinessReports])) _ _
  · rename_i heq
    exact made_dispatchClockSpeed hs (hclock (by simp [heq, clockRequests])) _ _
  · rename_i heq
    exact made_dispatchClockPause hs (hclock (by simp [heq, clockRequests])) _
  · exact made_dispatchClockResync hs _
  · exact made_dispatchCommandRequest hs _ _
  · exact made_dispatchDialogResponse hs _ _
  · exact made_dispatchSnapshotRequest hs _
  · exact either P.lock (fun hl => made_dispatchBuildLockRequest hs hl _) fun L => L.1 _
  · exact made_dispatchSimSelect hs _ _
  · exact made_dispatchSimState hs _
  · exact either P.request (fun hr => made_dispatchInteractionRequest hs hr.1 hr.2 _ _) fun R => R.1 _ _
  · exact either P.request (fun hr => made_dispatchInteractionCommand hs hr.1 hr.2 _ _) fun R => R.2.1 _ _
  · exact either P.status (fun hst => made_dispatchInteractionCancel hs hst _ _) fun S => S.1 _ _
  · rename_i heq
    exact made_dispatchBuildLockRelease (hrelease heq) _
  · exact either P.operation (fun hb => made_dispatchBuildOperation hs hb.1 hb.2 _ _) fun B => B.1 _ _
  · exact P.dispatchOther _ habort _

theorem withHostId (P : Parts T Own) {f : String → HostM Unit} (hf : ∀ me, Made T Own (f me)) :
    Made T Own (do f (← hostId) : HostM Unit) := .bind (made_hostId P.session) hf

/-- what the host's game reports of its own -/
def gameReports : List MessageType := [.gameHello, .simulationAuthority]

theorem onGameEvent (P : Parts T Own) {event : BridgeEvent} (habort : event.type = .travelAbort → .travel ∈ T)
    (hrelease : event.type = .buildLockRelease → .lock ∈ T) (hclock : event.type = .clockState → .clock ∈ T)
    (hready : event.type ∈ gameReports → .readiness ∈ T) : Made T Own (onGameEvent event) := by
  have hs := P.session
  unfold Host.onGameEvent
  split
  · rename_i heq
    exact made_gameHello hs (hready (by simp [heq, gameReports]))
  · rename_i heq
    exact made_gameAuthority hs (hready (by simp [heq, gameReports]))
  · rename_i heq
    exact made_gameClock hs (hclock heq) _
  · exact either P.view (fun hv => made_gameRawMessage hs hv _) fun V => V _
  · exact either P.travel (fun ht => made_gameViewBatch hs ht _) fun V => V.2 _
  · exact made_gameSimSelect hs _
  · exact either P.request (fun hr => made_gameInteractionRequest hs hr.1 hr.2 _) fun R => R.2.2.2.2.1 _
  · exact either P.request (fun hr => made_gameInteractionCommand hs hr.1 hr.2 _) fun R => R.2.2.2.2.2 _
  · exact either P.status (fun hst => made_gameInteractionCancel hs hst _) fun S => S.2.1 _
  · exact P.withHostId fun me => either P.travel (fun ht => made_startTravel hs ht _ _) fun V => V.1 _ _
  · exact P.withHostId fun me => either P.ready (fun ht => made_travelReady hs ht.1 ht.2 _ _) fun R => R _ _
  · exact P.withHostId fun me => either P.zoneReady (fun hz => made_travelZoneReady hs hz _ _) fun R => R _ _
  · rename_i heq
    exact made_travelAbort hs (habort heq) _ _
  · exact either P.operation (fun hb => either P.lock (fun hl => made_gameBuildOperation hs hl hb.1 _)
      fun L => L.2.1 _) fun B => B.2.2 _
  · exact either P.lock (fun hl => made_gameBuildLockRequest hs hl) fun L => L.2.2
  · rename_i heq
    exact made_gameBuildLockRelease hs (hrelease heq)
  case h_26 => exact made_pure ()
  case h_17 => exact made_gameSimState hs _
  case h_18 => exact made_gameSimState hs _
  all_goals
    rename_i heq
    rw [heq]
    exact either P.status (fun hst => made_gameLifecycle hs hst (by exact hst) (by decide) _) fun S =>
      S.2.2 _ _ rfl (by decide)

theorem handleEnvelope (P : Parts T Own) (player : String) {env : Envelope}
    (habort : env.type = .travelAbort → .travel ∈ T) (hrelease : env.type = .buildLockRelease → .lock ∈ T)
    (hclock : env.type ∈ clockRequests → .clock ∈ T) (hready : env.type ∈ readinessReports → .readiness ∈ T) :
    Made T Own (handleEnvelope player env) := by
  unfold Host.handleEnvelope
  split
  · exact made_sendError P.session _ _
  refine .bind (made_read P.session) fun h => ?_
  cases h.peers.lookup player with
  | none => exact P.dispatch habort hrelease hclock hready
  | some peer =>
    refine .bind (made_ofExcept _) fun stale => ?_
    split_ifs
    · exact made_pure ()
    · exact P.dispatch habort hrelease hclock hready
    · exact .bind (.aside (aside_setLastSeq P.session _ _)) fun _ => P.dispatch habort hrelease hclock hready

end Parts

end handlers

end KerMP.Host
