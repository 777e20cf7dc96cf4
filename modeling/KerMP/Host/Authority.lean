/-
The host's authority over client input: what the host's game is handed in the name of a client has been checked.

A `build.apply` for the host's game must carry an operation that the build authority sequenced, an
`interaction.request` or `interaction.command` a request that `validate_interaction` accepted (`Vouched`). Every
client envelope that `dispatch` does not know goes on to the runtime as it came (`passed`), and three types are then
forwarded to the game without a check (`passesAs`).

Results:
- `mediated`: in every run each such message is vouched for by an older entry of the log, or is an envelope passed on.
- `host_authority`: in every run in which no client envelope of the three types is dispatched, all are vouched for.
- `forged_operation`: a client's own `build.apply` reaches the host's game with no operation sequenced.
-/
import KerMP.Host.Pass

namespace KerMP.Host

open Py Coop
open Coro hiding pure get modify

/-! ## Vouching -/

/-- the message to the host's game that an envelope of this type becomes, unchecked -/
def passesAs : MessageType → Option MessageType
  | .buildApply => some .buildApply
  | .interactionAccepted => some .interactionRequest
  | .interactionCommandAccepted => some .interactionCommand
  | _ => none

/-- the payload is an operation the authority sequenced for its owner -/
def OperationVouched (log : List Out) (payload : Json) : Prop :=
  ∃ o, .sequenced (some o.playerId) o ∈ log ∧ payload = buildApply o

/-- the payload is a stored request that was accepted for its player; its status, interaction id and command may have
been updated since -/
def RequestVouched (log : List Out) (payload : Json) : Prop :=
  ∃ player r r', .accepted player r ∈ log ∧ r.lookup "player_id" = some (.str player) ∧ payload = .obj r' ∧
    HostSession.core r' = HostSession.core r

def Vouched (log : List Out) : MessageType → Json → Prop
  | .buildApply, payload => OperationVouched log payload
  | .interactionRequest, payload | .interactionCommand, payload => RequestVouched log payload
  | _, _ => True

/-- a client's envelope was passed on as this message -/
def Passed (log : List Out) (type : MessageType) (payload : Json) : Prop :=
  ∃ player t, .passed player t payload ∈ log ∧ passesAs t = some type

/-- every message to the host's game is vouched for or passed on by an older entry -/
def Mediated : List Out → Prop
  | [] => True
  | .bridge _ type payload :: log => (Vouched log type payload ∨ Passed log type payload) ∧ Mediated log
  | _ :: log => Mediated log

theorem mediated_cons {o : Out} {log : List Out} (hlog : Mediated log)
    (ho : ∀ d type payload, o = .bridge d type payload → Vouched log type payload ∨ Passed log type payload) :
    Mediated (o :: log) := by
  cases o with
  | bridge d type payload => exact ⟨ho d type payload rfl, hlog⟩
  | _ => exact hlog

theorem mediated_split {newer older : List Out} {d : Bool} {type : MessageType} {payload : Json}
    (h : Mediated (newer ++ .bridge d type payload :: older)) : Vouched older type payload ∨ Passed older type payload := by
  induction newer with
  | nil => exact h.1
  | cons o newer ih =>
    apply ih
    cases o with
    | bridge => exact h.2
    | _ => exact h

/-- messages of other types need no vouching -/
theorem vouched_of_topic {log : List Out} {type : MessageType} (payload : Json)
    (h : type.gameTopic ≠ .apply ∧ type.gameTopic ≠ .request) : Vouched log type payload := by
  cases type with
  | buildApply => exact absurd rfl h.1
  | interactionRequest | interactionCommand => exact absurd rfl h.2
  | _ => trivial

/-! ## Steps -/

/-- the topics whose steps need no vouching -/
def harmless : List Topic :=
  [.session, .member, .readiness, .travel, .commit, .resume, .lock, .build, .status, .view, .clock]

/-- what others may do meanwhile: the log grows, stored requests stay -/
structure Later (h h' : Host) : Prop where
  log : h.log <:+ h'.log
  requests : HostSession.Kept h.session.interactionRequests h'.session.interactionRequests

theorem Later.refl (h : Host) : Later h h := ⟨List.suffix_refl _, .refl _⟩

theorem Later.trans (a b c : Host) (h : Later a b) (h' : Later b c) : Later a c :=
  ⟨h.log.trans h'.log, h.requests.trans h'.requests⟩

theorem Does.later {l : Label} {h h' : Host} (d : Does l h h') : Later h h' := by
  obtain ⟨os, hos, -⟩ := d.log
  exact ⟨⟨os, hos.symm⟩, d.kept⟩

abbrev Mediation : Discipline Host Empty := Discipline.plain (fun h => Mediated h.log) Later

theorem mediated_append {os log : List Out} (hlog : Mediated log) (hos : ∀ o ∈ os, o.topic ∈ harmless) :
    Mediated (os ++ log) := by
  induction os with
  | nil => exact hlog
  | cons o os ih =>
    have ho := hos o List.mem_cons_self
    apply mediated_cons (ih fun x hx => hos x (List.mem_cons_of_mem o hx))
    rintro d type payload rfl
    left
    apply vouched_of_topic
    constructor
    · exact ne_of_mem_of_not_mem ho (by decide)
    · exact ne_of_mem_of_not_mem ho (by decide)

theorem follows_mediation : Follows Mediation harmless where
  lawful := Discipline.plain_lawful Later.refl Later.trans
  session := by decide
  member := by decide
  lock := by decide
  clock := by decide
  readiness := by decide
  step := by
    intro l h h' hl d hi
    obtain ⟨os, hos, htopic⟩ := d.log
    have hmed : Mediated h'.log := by
      rw [hos]
      apply mediated_append hi
      intro o ho
      rw [htopic o ho]
      exact hl
    exact ⟨d.later, fun m => m.elim, fun m => m.elim, hmed⟩

/-- nothing is owned here: what is left at the end is the invariant -/
abbrev Done {α : Type} : Except Exc α → Set Empty → Host → Prop := Ends Mediation fun m _ => m.elim

theorem done {α : Type} (r : Except Exc α) {own : Set Empty} {h : Host} (hi : Mediated h.log) : Done r own h :=
  ⟨hi, fun m => m.elim⟩

/-- handing over something vouched for or passed on -/
theorem wp_bridgeSend {own : Set Empty} {h : Host} {type : MessageType} {payload : Payload} (hi : Mediated h.log)
    (hv : Vouched h.log type (h.resolve payload) ∨ Passed h.log type (h.resolve payload)) {β : Type}
    {f : Bool → HostM β} (hf : ∀ a own' h', Mediated h'.log → Later h h' → wp Mediation own' (f a) Done h') :
    wp Mediation own (bridgeSend type payload >>= f) Done h := by
  simp only [bridgeSend, wp_bind, wp_askEnv, andThen_ok, wp_call, Discipline.may_plain]
  intro a
  have d := Does.note h (.bridge a.ok type (h.resolve payload))
  refine ⟨d.later, hf _ _ _ ?_ d.later⟩
  exact ⟨hv, hi⟩

theorem wp_forward {own : Set Empty} {h : Host} {type : MessageType} {payload : Payload} (hi : Mediated h.log)
    (hv : Vouched h.log type (h.resolve payload) ∨ Passed h.log type (h.resolve payload)) :
    wp Mediation own (forward type payload) Done h := by
  apply wp_bridgeSend hi hv
  intro a own' h' hi' _
  exact done (.ok () : Except Exc Unit) hi'

/-- a client's envelope is passed on -/
theorem settles_passed {type : MessageType} (sender : String) (payload : Json) {f : Host → HostM Unit}
    (hf : ∀ own h, Mediated h.log → .passed sender type payload ∈ h.log → wp Mediation own (f h) Done h) :
    Settles Mediation (fun m _ => m.elim) (do emit (.passed sender type payload); f (← Coro.get) : HostM Unit) := by
  intro h hi
  simp only [emit, wp_bind, wp_modify, wp_get, andThen_ok, Discipline.may_plain]
  have d := Does.note h (.passed sender type payload)
  exact ⟨d.later, Later.refl _, hf _ _ hi List.mem_cons_self⟩

/-! ## Operations -/

/-- the operation a call of the authority returns is on the log -/
theorem wp_submitFrom {own : Set Empty} {h : Host} (player : String) (payload : Json) (hi : Mediated h.log) :
    wp Mediation own (submitFrom player payload)
      (fun r _ h' => Mediated h'.log ∧ ∀ o, r = .ok o → .sequenced (some o.playerId) o ∈ h'.log) h := by
  have hclock : Guar (On harmless) readClock := guar_of_aside (aside_readClock follows_mediation.session)
  have hnone : ∀ (e : Exc) (log : List Out) (o : BuildOperation), (.error e : Except Exc BuildOperation) = .ok o →
      .sequenced (some o.playerId) o ∈ log := fun _ _ _ he => by cases he
  rw [submitFrom]
  refine wp_ofExcept_bind (fun e _ => ⟨hi, hnone e _⟩) fun op _ => ?_
  refine wp_ofExcept_bind (fun e _ => ⟨hi, hnone e _⟩) fun data _ => ?_
  rw [submit, wp_bind]
  refine wp_mono ?_ (follows_mediation.wp hclock hi)
  rintro (e | t₁) own₁ h₁ ⟨-, hi₁, -, -⟩
  · exact ⟨hi₁, hnone e _⟩
  rw [andThen_ok, wp_bind]
  refine wp_mono ?_ (follows_mediation.wp hclock hi₁)
  rintro (e | t₂) own₂ h₂ ⟨-, hi₂, -, -⟩
  · exact ⟨hi₂, hnone e _⟩
  rw [andThen_ok, wp_tryCall, Discipline.may_plain]
  rcases he : h₂.session.build.submit player op.toStr data t₁ t₂ with ⟨e | o, b⟩
  · have d := Does.refused h₂ player op.toStr data t₁ t₂ he
    exact ⟨d.later, hi₂, hnone e _⟩
  · have d := Does.sequenced h₂ player op.toStr data t₁ t₂ he
    refine ⟨d.later, hi₂, ?_⟩
    intro o' ho'
    cases ho'
    obtain ⟨-, ⟨data', -, ho⟩, -, howner⟩ := BuildAuthority.submit_ok he
    have hplayer : o.playerId = player := by rw [ho]
    rw [hplayer, ← howner]
    exact List.mem_cons_self

theorem OperationVouched.mono {log log' : List Out} {payload : Json} (h : OperationVouched log payload)
    (hl : log <:+ log') : OperationVouched log' payload := by
  obtain ⟨o, ho, he⟩ := h
  exact ⟨o, hl.subset ho, he⟩

/-- a client's operation reaches the game after its broadcast -/
theorem settles_operation (sender : String) (payload : Json) :
    Settles Mediation (fun m _ => m.elim) (dispatchBuildOperation sender payload) := by
  intro h hi
  have hs := follows_mediation.session
  have hm := follows_mediation.member
  refine wp_attempt_bind (wp_submitFrom sender payload hi) ?_
  rintro (e | o) own₁ h₁ ⟨hi₁, hseq⟩
  · dsimp only
    split_ifs
    · exact follows_mediation.ends (guar_sendError hs _ _) hi₁
    · exact done _ hi₁
  · apply follows_mediation.then_ends (guar_broadcastPeers hs hm (by decide) _) hi₁
    intro _ own₂ h₂ hi₂ hlater
    have hv : OperationVouched h₂.log (buildApply o) := OperationVouched.mono ⟨o, hseq o rfl, rfl⟩ hlater.log
    apply follows_mediation.then_ends (guar_of_aside (aside_read hs)) hi₂
    intro _ own₃ h₃ hi₃ hlater
    apply follows_mediation.then_ends (guar_of_aside (aside_read hs)) hi₃
    intro _ own₄ h₄ hi₄ hlater'
    have hv : OperationVouched h₄.log (buildApply o) := hv.mono (hlater.log.trans hlater'.log)
    exact wp_forward hi₄ (Or.inl hv)

theorem operations : BuildHandlers Mediation fun m _ => m.elim where
  operation := settles_operation
  pass := by
    intro sender payload
    apply settles_passed
    intro own h hi hpassed
    exact wp_forward hi (Or.inr ⟨sender, .buildApply, hpassed, rfl⟩)
  gameOperation := by
    intro payload
    apply follows_mediation.settles
    exact guar_of_made follows_mediation.session follows_mediation.member
      (made_gameBuildOperation follows_mediation.session follows_mediation.lock (by decide) _)

/-! ## Requests -/

/-- the stored request under this id was accepted -/
def Stored (h : Host) (rid : String) : Prop :=
  ∃ player r r', .accepted player r ∈ h.log ∧ r.lookup "player_id" = some (.str player) ∧
    h.session.interactionRequests.lookup rid = some r' ∧ HostSession.core r' = HostSession.core r

theorem Stored.later {h h' : Host} {rid : String} (hs : Stored h rid) (hl : Later h h') : Stored h' rid := by
  obtain ⟨player, r, r', hlog, hplayer, hr', hcore⟩ := hs
  obtain ⟨r'', hr'', hcore'⟩ := hl.requests rid r' hr'
  exact ⟨player, r, r'', hl.log.subset hlog, hplayer, hr'', hcore'.trans hcore⟩

theorem Stored.vouched {h : Host} {rid : String} (hs : Stored h rid) :
    RequestVouched h.log (h.resolve (.request rid)) := by
  obtain ⟨player, r, r', hlog, hplayer, hr', hcore⟩ := hs
  refine ⟨player, r, r', hlog, hplayer, ?_, hcore⟩
  rw [resolve, hr']
  rfl

/-- a validated request is stored and noted -/
theorem wp_validateInteraction {own : Set Empty} {h : Host} (requestId : Json) (player : String)
    (payload : List (String × Json)) (hi : Mediated h.log) :
    wp Mediation own (validateInteraction requestId player payload)
      (fun r _ h' => Mediated h'.log ∧ ∀ rid, r = .ok rid → Stored h' rid) h := by
  rw [validateInteraction, wp_tryCall, Discipline.may_plain]
  cases he : h.session.validateInteraction requestId player payload with
  | error e => exact ⟨Later.refl h, hi, fun _ hr => by cases hr⟩
  | ok p =>
    obtain ⟨rid, s⟩ := p
    have d := Does.accept h requestId player payload he
    refine ⟨d.later, hi, ?_⟩
    intro rid' hrid
    cases hrid
    obtain ⟨r, hcheck, -, rfl⟩ := HostSession.validateInteraction_ok he
    have hr : (h.session.interactionRequests.setItem rid r).lookup rid = some r := AList.lookup_setItem_self _ _ _
    refine ⟨player, r, r, ?_, (HostSession.checkInteraction_ok hcheck).2.2.1, hr, rfl⟩
    dsimp only
    rw [hr]
    exact List.mem_cons_self

theorem wp_acceptCommand {own : Set Empty} {h : Host} (player : String) (payload : Json) (hi : Mediated h.log) :
    wp Mediation own (acceptCommand player payload)
      (fun r _ h' => Mediated h'.log ∧ ∀ rid, r = .ok rid → Stored h' rid) h := by
  have hnone : ∀ (e : Exc) (h' : Host) (rid : String), (.error e : Except Exc String) = .ok rid → Stored h' rid :=
    fun _ _ _ he => by cases he
  rw [acceptCommand]
  refine wp_ofExcept_bind (fun e _ => ⟨hi, hnone e _⟩) fun command _ => ?_
  refine wp_ofExcept_bind (fun e _ => ⟨hi, hnone e _⟩) fun requestId _ => ?_
  refine wp_ofExcept_bind (fun e _ => ⟨hi, hnone e _⟩) fun fields _ => ?_
  rw [wp_bind]
  refine wp_mono ?_ (wp_validateInteraction requestId player _ hi)
  rintro (e | rid) own₁ h₁ ⟨hi₁, hstored⟩
  · exact ⟨hi₁, hnone e _⟩
  rw [andThen_ok, wp_bind]
  have hset : Guar (On harmless) (setRequestField rid "command" (.obj command)) :=
    guar_of_aside (aside_setRequestField (by decide) rid (.obj command) (by decide))
  refine wp_mono ?_ (follows_mediation.wp hset hi₁)
  rintro (e | u) own₂ h₂ ⟨-, hi₂, hlater, -⟩
  · exact ⟨hi₂, hnone e _⟩
  refine ⟨hi₂, ?_⟩
  intro rid' hrid
  cases hrid
  exact (hstored _ rfl).later hlater

/-- the two messages that carry a request -/
def requestTypes : List MessageType := [.interactionRequest, .interactionCommand]

theorem Stored.vouched_type {h : Host} {rid : String} {type : MessageType} (hs : Stored h rid) (ht : type ∈ requestTypes) :
    Vouched h.log type (h.resolve (.request rid)) := by
  rw [requestTypes, List.mem_cons, List.mem_singleton] at ht
  rcases ht with rfl | rfl
  · exact hs.vouched
  · exact hs.vouched

theorem wp_forwardAccepted {own : Set Empty} {h : Host} {type rejected : MessageType} {payload : Payload}
    (hrejected : rejected.topic ∈ harmless) (hi : Mediated h.log)
    (hv : Vouched h.log type (h.resolve payload) ∨ Passed h.log type (h.resolve payload)) :
    wp Mediation own (forwardAccepted type rejected payload) Done h := by
  have hs := follows_mediation.session
  have hm := follows_mediation.member
  apply wp_bridgeSend hi hv
  intro delivered own₁ h₁ hi₁ _
  split_ifs
  · exact done (.ok () : Except Exc Unit) hi₁
  · exact follows_mediation.ends (guar_bind (guar_of_aside (aside_read hs)) fun _ => guar_bind (guar_ofExcept _) fun _ =>
      guar_broadcastPeers hs hm hrejected _) hi₁

/-- a client's accepted request reaches the game after its broadcast -/
theorem wp_broadcastAccepted {own : Set Empty} {h : Host} {rid : String} {accepted type rejected : MessageType}
    (haccepted : accepted.topic ∈ harmless) (hrejected : rejected.topic ∈ harmless) (ht : type ∈ requestTypes)
    (hi : Mediated h.log) (hstored : Stored h rid) {f : Host → HostM Unit}
    (hf : ∀ k, f k = do let _ ← Coro.get; forwardAccepted type rejected (.request rid)) :
    wp Mediation own (do broadcastPeers accepted (.request rid); f (← Coro.get) : HostM Unit) Done h := by
  have hs := follows_mediation.session
  have hm := follows_mediation.member
  apply follows_mediation.then_ends (guar_broadcastPeers hs hm haccepted _) hi
  intro _ own₁ h₁ hi₁ hl₁
  apply follows_mediation.then_ends (guar_of_aside (aside_read hs)) hi₁
  intro k own₂ h₂ hi₂ hl₂
  rw [hf]
  apply follows_mediation.then_ends (guar_of_aside (aside_read hs)) hi₂
  intro _ own₃ h₃ hi₃ hl₃
  have hstored₃ : Stored h₃ rid := ((hstored.later hl₁).later hl₂).later hl₃
  exact wp_forwardAccepted hrejected hi₃ (Or.inl (hstored₃.vouched_type ht))

theorem settles_request (sender : String) (payload : Json) :
    Settles Mediation (fun m _ => m.elim) (dispatchInteractionRequest sender payload) := by
  intro h hi
  have hs := follows_mediation.session
  have hbody : wp Mediation ∅ (do
      let requestId ← ofExcept (payload.get "request_id")
      let fields ← ofExcept payload.toDict
      validateInteraction requestId sender fields : HostM String)
      (fun r _ h' => Mediated h'.log ∧ ∀ rid, r = .ok rid → Stored h' rid) h := by
    refine wp_ofExcept_bind (fun e _ => ⟨hi, fun _ he => by cases he⟩) fun requestId _ => ?_
    refine wp_ofExcept_bind (fun e _ => ⟨hi, fun _ he => by cases he⟩) fun fields _ => ?_
    exact wp_validateInteraction requestId sender fields hi
  refine wp_attempt_bind hbody ?_
  rintro r own₁ h₁ ⟨hi₁, hstored⟩
  split
  · exact wp_broadcastAccepted (by decide) (by decide) (by decide) hi₁ (hstored _ rfl) fun _ => rfl
  · exact follows_mediation.ends (guar_sendError hs _ _) hi₁
  · exact done (.error _ : Except Exc Unit) hi₁

theorem settles_command (sender : String) (payload : Json) :
    Settles Mediation (fun m _ => m.elim) (dispatchInteractionCommand sender payload) := by
  intro h hi
  have hs := follows_mediation.session
  refine wp_attempt_bind (wp_acceptCommand sender payload hi) ?_
  rintro r own₁ h₁ ⟨hi₁, hstored⟩
  split
  · exact wp_broadcastAccepted (by decide) (by decide) (by decide) hi₁ (hstored _ rfl) fun _ => rfl
  · exact follows_mediation.ends (guar_sendError hs _ _) hi₁
  · exact follows_mediation.ends (guar_sendError hs _ _) hi₁
  · exact done (.error _ : Except Exc Unit) hi₁

/-- the host's own request reaches the game before its announcement -/
theorem wp_announceRequest {own : Set Empty} {h : Host} {rid : String} {type accepted rejected : MessageType}
    (haccepted : accepted.topic ∈ harmless) (hrejected : rejected.topic ∈ harmless) (ht : type ∈ requestTypes)
    (hi : Mediated h.log) (hstored : Stored h rid) :
    wp Mediation own (announceRequest type accepted rejected rid) Done h := by
  have hs := follows_mediation.session
  have hm := follows_mediation.member
  apply wp_bridgeSend hi (Or.inl (hstored.vouched_type ht))
  intro delivered own₁ h₁ hi₁ _
  split_ifs
  · exact follows_mediation.ends (guar_broadcastPeers hs hm haccepted _) hi₁
  · exact follows_mediation.ends (guar_bind (guar_of_aside (aside_read hs)) fun _ => guar_bind (guar_ofExcept _) fun _ =>
      guar_broadcastPeers hs hm hrejected _) hi₁

/-- a handler of the host's game: it reads the host's id and the fields first -/
theorem settles_hosted {α : Type} {x : Except Exc α} {f : String → α → HostM Unit}
    (hf : ∀ me fields own h, Mediated h.log → wp Mediation own (f me fields) Done h) :
    Settles Mediation (fun m _ => m.elim) (hostId >>= fun me => ofExcept x >>= f me) := by
  intro h hi
  have hs := follows_mediation.session
  apply follows_mediation.then_ends (guar_of_made hs follows_mediation.member (made_hostId hs)) hi
  intro me own₁ h₁ hi₁ _
  apply follows_mediation.then_ends (guar_ofExcept _) hi₁
  intro fields own₂ h₂ hi₂ _
  exact hf me fields own₂ h₂ hi₂

theorem settles_gameRequest (payload : Json) :
    Settles Mediation (fun m _ => m.elim) (gameInteractionRequest payload) := by
  have hs := follows_mediation.session
  refine settles_hosted fun me fields own₂ h₂ hi₂ => wp_attempt_bind (wp_validateInteraction _ me _ hi₂) ?_
  rintro r own₃ h₃ ⟨hi₃, hstored⟩
  split
  · exact wp_announceRequest (by decide) (by decide) (by decide) hi₃ (hstored _ rfl)
  · exact follows_mediation.ends (guar_of_made hs follows_mediation.member (made_rejectToGame (by decide) _ _)) hi₃
  · rename_i e _
    exact done (.error e : Except Exc Unit) hi₃

theorem settles_gameCommand (payload : Json) :
    Settles Mediation (fun m _ => m.elim) (gameInteractionCommand payload) := by
  have hs := follows_mediation.session
  refine settles_hosted fun me fields own₂ h₂ hi₂ => wp_attempt_bind (wp_acceptCommand me _ hi₂) ?_
  rintro r own₃ h₃ ⟨hi₃, hstored⟩
  split
  · exact wp_announceRequest (by decide) (by decide) (by decide) hi₃ (hstored _ rfl)
  · exact follows_mediation.ends (guar_of_made hs follows_mediation.member (made_rejectToGame (by decide) _ _)) hi₃
  · exact follows_mediation.ends (guar_of_made hs follows_mediation.member (made_rejectToGame (by decide) _ _)) hi₃
  · rename_i e _ _
    exact done (.error e : Except Exc Unit) hi₃

theorem requests : RequestHandlers Mediation fun m _ => m.elim where
  request := settles_request
  command := settles_command
  passRequest := by
    intro sender payload
    apply settles_passed
    intro own h hi hpassed
    exact wp_forwardAccepted (by decide) hi (Or.inr ⟨sender, .interactionAccepted, hpassed, rfl⟩)
  passCommand := by
    intro sender payload
    apply settles_passed
    intro own h hi hpassed
    exact wp_forwardAccepted (by decide) hi (Or.inr ⟨sender, .interactionCommandAccepted, hpassed, rfl⟩)
  gameRequest := settles_gameRequest
  gameCommand := settles_gameCommand

theorem pass_mediation : Pass Mediation (fun m _ => m.elim) harmless where
  toFollows := follows_mediation
  stable := fun m => m.elim
  travel := Or.inl (by decide)
  ready := Or.inl (by decide)
  zoneReady := Or.inl (by decide)
  build := Or.inr operations
  request := Or.inr requests
  status := Or.inl (by decide)
  view := Or.inl (by decide)
  abort := Or.inl (by decide)

/-! ## Runs -/

/-- **Mediation of client input.** In every run each message to the host's game that carries an operation or a request
is vouched for by an older entry, or is a client's envelope passed on. -/
theorem mediated (playerId displayName sessionId : String) (manifest : CompatibilityManifest) (nativeRequired : Bool)
    (commands : NetworkedCommandRouter) (acts : List HostAct) :
    Mediated (runFrom (started playerId displayName sessionId manifest nativeRequired commands) acts).state.log := by
  have h₀ : Pool.Inv Mediation (fun m _ => m.elim)
      (started playerId displayName sessionId manifest nativeRequired commands) :=
    Pool.inv_init trivial fun m => m.elim
  exact (pass_mediation.run h₀ acts).2.state

/-- not an envelope that is forwarded to the game as it came -/
def Checked : Out → Prop
  | .passed _ type _ => passesAs type = none
  | _ => True

instance (o : Out) : Decidable (Checked o) := by
  unfold Checked
  split <;> infer_instance

/-- **Host authority over client input.** In every run in which no client envelope that is forwarded as it came is
dispatched, every operation handed to the host's game was sequenced for the lock owner before, and every request
handed to it was accepted for its player before. -/
theorem host_authority (playerId displayName sessionId : String) (manifest : CompatibilityManifest)
    (nativeRequired : Bool) (commands : NetworkedCommandRouter) (acts : List HostAct)
    (checked : ∀ o ∈ (runFrom (started playerId displayName sessionId manifest nativeRequired commands) acts).state.log,
      Checked o) :
    ∀ (newer older : List Out) (d : Bool) (type : MessageType) (payload : Json),
      (runFrom (started playerId displayName sessionId manifest nativeRequired commands) acts).state.log =
        newer ++ .bridge d type payload :: older → Vouched older type payload := by
  intro newer older d type payload hlog
  have hmed := mediated playerId displayName sessionId manifest nativeRequired commands acts
  rw [hlog] at hmed checked
  rcases mediated_split hmed with hv | ⟨player, t, hpassed, ht⟩
  · exact hv
  · have hnone : passesAs t = none :=
      checked _ (List.mem_append_right _ (List.mem_cons_of_mem _ hpassed))
    rw [hnone] at ht
    cases ht

/-- a client asks for the lock and sends an operation -/
def lockedOperation : List HostAct :=
  [joins 1 "alice", goesOn, sends 1 "alice" .buildLockRequest (.obj []), goesOn,
    sends 1 "alice" .buildOperation (.obj [("op", .str "object.destroy"), ("data", .obj [("object_id", .str "7")])]),
    goesOn]

/-- the operation that `lockedOperation` hands to the game -/
def lockedApply : Json :=
  .obj [("op_seq", .int 1), ("player_id", .str "alice"), ("op", .str "object.destroy"),
    ("data", .obj [("object_id", .str "7")])]

theorem host_authority_locked_operation :
    ∃ newer older, (runFrom lanHost lockedOperation).state.log = newer ++ .bridge true .buildApply lockedApply :: older ∧
      Vouched older .buildApply lockedApply := by
  have happly : .bridge true .buildApply lockedApply ∈ (runFrom lanHost lockedOperation).state.log := by
    decide +kernel
  obtain ⟨newer, older, hlog⟩ := List.append_of_mem happly
  refine ⟨newer, older, hlog, ?_⟩
  exact host_authority _ _ _ _ _ _ lockedOperation (by decide +kernel) newer older true .buildApply lockedApply hlog

/-- a client joins and sends what only the host may send -/
def forgery : List HostAct := [joins 1 "alice", goesOn, sends 1 "alice" .buildApply lockedApply]

/-- nothing was sequenced, and the host's game is handed the operation -/
theorem forged_operation :
    ¬ ∀ (newer older : List Out) (d : Bool) (type : MessageType) (payload : Json),
      (runFrom lanHost forgery).state.log = newer ++ .bridge d type payload :: older → Vouched older type payload := by
  intro h
  have happly : .bridge true .buildApply lockedApply ∈ (runFrom lanHost forgery).state.log := by decide +kernel
  have hseq : ∀ o ∈ (runFrom lanHost forgery).state.log, o.topic ≠ .build := by decide +kernel
  obtain ⟨newer, older, hlog⟩ := List.append_of_mem happly
  obtain ⟨o, ho, -⟩ := h newer older true .buildApply lockedApply hlog
  have hmem : .sequenced (some o.playerId) o ∈ (runFrom lanHost forgery).state.log := by
    rw [hlog]
    exact List.mem_append_right _ (List.mem_cons_of_mem _ ho)
  exact hseq _ hmem rfl

end KerMP.Host
