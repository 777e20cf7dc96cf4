/-
Build operations that the host refuses (`build.operation` in `KerMPHost._dispatch`, `BuildAuthority.submit`).

The handler catches the `PermissionError` of a sender without the lock and answers with an error. The refusals of
`_validate_build_data` are `ValueError`s, which it does not catch: they end the connection.

- `Costless`: the operation is sequenced and its broadcast begins, or the sender gets an error and loses nothing.
- `costless_iff`: it is so exactly when the sender does not hold the lock or the validation accepts.
- `expelled_of_invalid`: what any other operation costs its sender.
- `unsupported_operation`: the lock's owner is thrown out for an unknown operation.
-/
import KerMP.BuildData
import KerMP.Host.Heard

namespace KerMP.Host

open Py Coop
open Coro hiding pure get modify

/-! ## What is claimed -/

/-- a `build.operation` with a string `op` and a dict as `data` -/
structure BuildLine (env : Envelope) (op : String) (data : List (String × Json)) : Prop where
  type : env.type = .buildOperation
  op : env.payload.item "op" = .ok (.str op)
  data : env.payload.getD "data" (.obj []) = .ok (.obj data)

/-- the operation has its number, and its broadcast begins -/
def Carried (h h' : Host) (player op : String) (data : List (String × Json)) : Prop :=
  ∃ o d entries, validateBuildData op data = .ok d ∧
    o = (⟨"build-" ++ toString (h.session.build.seq + 1), h.session.build.seq + 1, player, op, d⟩ : BuildOperation) ∧
    h'.session.build.seq = o.seq ∧ h'.log = entries ++ h.log ∧ .sequenced (some player) o ∈ entries ∧
    .sending .buildApply (buildApply o) (h.seq + 1) h.session.travel.current ∈ entries

/-- the sender is told why, and nothing has changed but an expired lock -/
structure Refused (h : Host) (conn : ℕ) (player : String) (t₁ : ℕ) (out : Outcome Host Answer Exc Unit) (h' : Host) :
    Prop where
  told : ∃ reason messageId entries, h'.log = entries ++ h.log ∧ .wrote player conn
    (Envelope.make .error (.obj [("reason", .str reason)]) h.playerId none messageId) ∈ entries
  session : h'.session = { h.session with build := h.session.build.dropExpired t₁ }
  others : ∀ q, q ≠ player → h'.peers.lookup q = h.peers.lookup q
  /-- when the error is sent, the connection waits for the next line -/
  waits : ∃ k, out = .suspended k ∧ ∀ a as s, a.ok = true → (k a).segment as s =
    (.done (.ok ()), { s with conns := s.conns.setItem conn (.idle player) })

/-- the sender stays, with its operation carried out or refused; `t₁` is the time at which its lock is judged -/
def Costless (h : Host) (conn : ℕ) (player op : String) (data : List (String × Json)) (t₁ : ℕ)
    (x : Outcome Host Answer Exc Unit × Host) : Prop :=
  Remains h x.2 conn player ∧ (Carried h x.2 player op data ∨ Refused h conn player t₁ x.1 x.2)

/-! ## One operation -/

/-- the host when the authority has judged an operation and become `b` -/
def judged (h : Host) (player op : String) (data : List (String × Json)) (t₁ t₂ : ℕ) (b : BuildAuthority) : Host :=
  { h with now := t₂, session := { h.session with build := b } }.note (.captured player op data h.session.build t₁)

/-- the call on the authority at these two readings, with its notes -/
def submitAt (h : Host) (player op : String) (data : List (String × Json)) (t₁ t₂ : ℕ) :
    Except Exc BuildOperation × Host :=
  let r := h.session.build.submit player op data t₁ t₂
  match r.1 with
  | .ok o => (.ok o, (h.judged player op data t₁ t₂ r.2).note (.sequenced r.2.ownerId o))
  | .error e => (.error e, h.judged player op data t₁ t₂ r.2)

theorem submitAt_ok {h : Host} {player op : String} {data : List (String × Json)} {t₁ t₂ : ℕ} {o : BuildOperation}
    {b : BuildAuthority} (hsubmit : h.session.build.submit player op data t₁ t₂ = (.ok o, b)) :
    h.submitAt player op data t₁ t₂ =
      (.ok o, (h.judged player op data t₁ t₂ b).note (.sequenced b.ownerId o)) := by
  simp only [submitAt, hsubmit]

theorem submitAt_error {h : Host} {player op : String} {data : List (String × Json)} {t₁ t₂ : ℕ} {e : Exc}
    {b : BuildAuthority} (hsubmit : h.session.build.submit player op data t₁ t₂ = (.error e, b)) :
    h.submitAt player op data t₁ t₂ = (.error e, h.judged player op data t₁ t₂ b) := by
  simp only [submitAt, hsubmit]

/-- what the handler does with the answer -/
def answerBuild (player : String) : Except Exc BuildOperation → HostM Unit
  | .ok op => broadcast .buildApply (.val (buildApply op))
  | .error e => if refusedBuild e then sendError player e.str else .raise e

variable {conn : ℕ} {env : Envelope} {h : Host} {op : String} {data : List (String × Json)} {as : List Answer}
  {t₁ t₂ : ℕ} {b : BuildAuthority}

/-- **The first step of a build operation.** -/
theorem segment_build (heard : Heard h conn env) (line : BuildLine env op data) (as : List Answer)
    (ht₁ : t₁ = h.now + (as.headD default).elapsed) (ht₂ : t₂ = t₁ + (as.tail.headD default).elapsed) :
    let r := (h.listening conn env).submitAt env.senderId op data t₁ t₂
    (handle (.line conn (.line (.ok env)))).segment as h =
      ((answerBuild env.senderId r.1).attempt >>= afterLine conn env.senderId).segment as.tail.tail r.2 := by
  intro r
  have hdispatch : dispatch env = dispatchBuildOperation env.senderId env.payload := by
    rw [dispatch, line.type]
  rw [segment_heard heard, hdispatch, dispatchBuildOperation, submitFrom, line.op, line.data]
  have hcall : (((submit env.senderId op data).attempt >>= answerBuild env.senderId).attempt >>=
        afterLine conn env.senderId).segment as (h.listening conn env) =
      (((ofExcept r.1).attempt >>= answerBuild env.senderId).attempt >>= afterLine conn env.senderId).segment
        as.tail.tail r.2 := by
    subst ht₂ ht₁
    rfl
  have hanswer : ((ofExcept r.1).attempt >>= answerBuild env.senderId : HostM Unit) =
      answerBuild env.senderId r.1 := by
    cases r.1 <;> rfl
  rw [← hanswer, ← hcall]
  rfl

/-! ## The three cases -/

section cases
variable (heard : Heard h conn env) (present : Present h conn env.senderId) (line : BuildLine env op data)
  (ht₁ : t₁ = h.now + (as.headD default).elapsed)
include heard present line ht₁

/-- without the lock -/
theorem refused_of_not_authority (hauthority : ¬ h.session.build.Authority env.senderId t₁) :
    Costless h conn env.senderId op data t₁ ((handle (.line conn (.line (.ok env)))).segment as h) := by
  obtain ⟨⟨peer, hpeer, hconn⟩, hplayer⟩ := present.listening
  have hcall : (h.listening conn env).submitAt env.senderId op data t₁ (t₁ + (as.tail.headD default).elapsed) = _ :=
    submitAt_error (BuildAuthority.submit_of_not_authority hauthority)
  have hstep := segment_build heard line as ht₁ rfl
  dsimp only at hstep
  rw [hstep, hcall]
  have hpeer' : ((h.listening conn env).judged env.senderId op data t₁ (t₁ + (as.tail.headD default).elapsed)
    ((h.listening conn env).session.build.dropExpired t₁)).peers.lookup env.senderId = some peer := hpeer
  obtain ⟨k, hsend, hwaits⟩ :=
    segment_sendError hpeer' conn "build operation submitted without authority" as.tail.tail
  rw [show answerBuild env.senderId (.error (.permissionError "build operation submitted without authority")) =
    sendError env.senderId "build operation submitted without authority" from rfl, hsend]
  rw [hconn]
  constructor
  · exact ⟨⟨⟨peer, hpeer, hconn⟩, hplayer⟩, [_, _], rfl, by simp⟩
  · exact Or.inr
      { told := ⟨_, _, [_, _], rfl, List.mem_cons_self⟩
        session := rfl
        others := fun q hq => listening_others conn hq
        waits := ⟨k, rfl, hwaits⟩ }

/-- with the lock and valid data -/
theorem carried_of_authority (hauthority : h.session.build.Authority env.senderId t₁) {d : List (String × Json)}
    (hdata : validateBuildData op data = .ok d) :
    Costless h conn env.senderId op data t₁ ((handle (.line conn (.line (.ok env)))).segment as h) := by
  obtain ⟨⟨peer, hpeer, hconn⟩, hplayer⟩ := present.listening
  let t₂ := t₁ + (as.tail.headD default).elapsed
  obtain ⟨o, ho⟩ : ∃ o, o = (⟨"build-" ++ toString (h.session.build.seq + 1), h.session.build.seq + 1, env.senderId,
    op, d⟩ : BuildOperation) := ⟨_, rfl⟩
  obtain ⟨b, hsubmit⟩ : ∃ b, h.session.build.submit env.senderId op data t₁ t₂ = (.ok o, b) :=
    ⟨_, Prod.ext ((BuildAuthority.submit_of_authority hauthority hdata).trans (ho ▸ rfl)) rfl⟩
  obtain ⟨-, -, hseq, howner⟩ := BuildAuthority.submit_ok hsubmit
  have hstep := segment_build heard line as ht₁ (rfl : t₂ = _)
  have hcall : (h.listening conn env).submitAt env.senderId op data t₁ t₂ = _ := submitAt_ok hsubmit
  dsimp only at hstep
  rw [hstep, hcall]
  have hmem : env.senderId ∈ (h.listening conn env).peers := AList.lookup_isSome.1 (hpeer ▸ rfl)
  have hkeys : (((h.listening conn env).judged env.senderId op data t₁ t₂ b).note
    (.sequenced b.ownerId o)).peers.keys ≠ [] := List.ne_nil_of_mem (AList.mem_keys.1 hmem)
  have hfirst : wp (Discipline.first fun s => Remains h s conn env.senderId ∧ Carried h s env.senderId op data) ∅
      ((broadcast .buildApply (.val (buildApply o))).attempt >>= afterLine conn env.senderId) (fun _ _ _ => False)
      (((h.listening conn env).judged env.senderId op data t₁ t₂ b).note (.sequenced b.ownerId o)) := by
    rw [wp_bind, wp_attempt]
    refine wp_broadcast_first hkeys .buildApply (buildApply o) fun q c message => ⟨?_, ?_⟩
    · exact ⟨⟨⟨peer, hpeer, hconn⟩, hplayer⟩, [_, _, _, _], rfl, by simp⟩
    · refine ⟨o, d, [_, _, _, _], hdata, ho, ?_, rfl, ?_, List.mem_cons_of_mem _ List.mem_cons_self⟩
      · rw [ho]
        exact hseq
      · rw [howner]
        simp
  rcases wp_first as.tail.tail hfirst with ⟨_, _, -, hfalse⟩ | ⟨hremains, hcarried⟩
  · exact hfalse.elim
  · exact ⟨hremains, Or.inl hcarried⟩

/-- with the lock and invalid data, the error escapes: the sender leaves the session and loses the lock -/
theorem expelled_of_invalid (hauthority : h.session.build.Authority env.senderId t₁) {e : Exc}
    (hdata : validateBuildData op data = .error e) :
    let h' := ((handle (.line conn (.line (.ok env)))).segment as h).2
    ¬ Remains h h' conn env.senderId ∧
      (env.senderId ≠ "" → env.senderId ∉ h'.session.players ∧ h'.session.build.lock = none) := by
  let t₂ := t₁ + (as.tail.headD default).elapsed
  have hcall : (h.listening conn env).submitAt env.senderId op data t₁ t₂ = _ :=
    submitAt_error (BuildAuthority.submit_of_invalid hauthority hdata)
  have hstep := segment_build heard line as ht₁ (rfl : t₂ = _)
  have huncaught : answerBuild env.senderId (.error e) = .raise e := by
    have hvalue := validateBuildData_raises op data e hdata
    cases e with
    | valueError m => rfl
    | _ => cases hvalue
  dsimp only at hstep ⊢
  rw [hstep, hcall, huncaught]
  obtain ⟨⟨peer, hpeer, hconn⟩, hplayer⟩ := present.listening
  have hpresent : Present ((h.listening conn env).judged env.senderId op data t₁ t₂ h.session.build) conn env.senderId :=
    ⟨⟨peer, hpeer, hconn⟩, hplayer⟩
  obtain ⟨hsession, entries, hlog, hclosed⟩ := segment_finish hpresent as.tail.tail
  have hbefore : ((h.listening conn env).judged env.senderId op data t₁ t₂ h.session.build).log =
    [.captured env.senderId op data h.session.build t₁] ++ h.log := rfl
  refine ⟨not_remains hbefore hlog hclosed, fun hname => ?_⟩
  rw [if_neg hname] at hsession
  obtain ⟨l, hlock, howner, -⟩ := hauthority
  obtain ⟨hplayers, -, hbuild, -⟩ := HostSession.removePlayer_eq h.session env.senderId
  have howned : h.session.build.ownerId = some env.senderId := by
    rw [BuildAuthority.ownerId, hlock, Option.map_some, howner]
  rw [if_pos howned] at hbuild
  have hleft : ∀ s : HostSession, s = h.session.removePlayer env.senderId →
      env.senderId ∉ s.players ∧ s.build.lock = none := by
    rintro s rfl
    rw [hplayers, hbuild]
    exact ⟨fun hmem => (AList.mem_erase.1 hmem).1 rfl, rfl⟩
  exact hleft _ hsession

end cases

/-- bob has joined, and nobody holds the lock -/
def bobJoined : Host := (runFrom lanHost [joins 1 "bob", goesOn]).state

/-- bob has been given the lock -/
def bobBuilds : Host :=
  (runFrom lanHost [joins 1 "bob", goesOn, sends 1 "bob" .buildLockRequest (.obj []), goesOn]).state

def buildLine (op : String) : Envelope :=
  ⟨.buildOperation, .obj [("op", .str op), ("data", .obj [])], "bob", .str "m", .null⟩

theorem buildLine_line (op : String) : BuildLine (buildLine op) op [] := ⟨rfl, rfl, rfl⟩

end KerMP.Host
