/-
The replay of the players' interactions in the host's game, and what it reports of them (`_interaction_command`,
`_interaction_request` and `_native_interaction_started` in `kermp_mod/hooks.py`).

An accepted command is replayed through the engine's own handler; a request that carries an affordance is pushed onto its
Sim. The interaction either comes to is looked up in the Sim's queue and kept under its id, and the engine's start event
takes the request out again and reports it as started. While a handler runs, an interaction that is not kept yet is taken
for that of the active command.

What the engine answers comes with the event (`Replay`, `Push`): the Sim and its queue, the interactions that start while
the handler runs, the handler's result. An event is emitted when it is given to the bridge.

- `interactionCommand`, `interactionRequest`, `nativeInteractionStarted`: the three functions; `step`: the events.
- `inv_started`, `inv_starts`: what one start event keeps, and what those of one replay keep.
- `one_start`: a request is reported as started once, for the interaction it put into its Sim's queue, in every run in
  which the only interaction a replay starts, if any, is its own, and is not started again.
- `two_starts`: an interaction that starts before the replayed one is reported for the same request.
-/
import KerMP.Game.TravelHooks
import KerMP.Lib.Dict
import KerMP.Lib.Prefixes

namespace KerMP.Game

open Py Prefixes

namespace NativeCommands

/-! ## State and events -/

/-- an interaction of the engine; its id may be missing -/
structure Interaction where
  id : Option ℤ
deriving DecidableEq

/-- `str(getattr(interaction, 'id', '') or '')` -/
def Interaction.text (i : Interaction) : String :=
  match i.id with
  | none | some 0 => ""
  | some n => toString n

/-- an entry of `_native_interaction_requests`, and `_active_native_command` -/
structure NativeRequest where
  requestId : String
  simId : String
  /-- the `name` of the command, as it came -/
  name : Json
deriving DecidableEq

structure NativeHooks where
  /-- `_sidecar_role`; none: it is neither of the two -/
  sidecarRole : Option Role
  nativeInteractionRequests : Dict String NativeRequest
  activeNativeCommand : Option NativeRequest
  /-- what was given to the bridge, oldest first -/
  emitted : List BridgeEvent

def init : NativeHooks := ⟨none, ∅, none, []⟩

/-- what a handler of the engine returns: its truth value, and `getattr(result, 'interaction', None)` -/
structure HandlerResult where
  truthy : Bool
  interaction : Option Interaction
deriving DecidableEq

/-- what the engine answers while one command is replayed -/
structure Replay where
  /-- there is a Sim with that id, and it is loaded -/
  simLoaded : Except Exc Bool
  remoteClient : Except Exc Unit
  /-- the instance manager knows the affordance -/
  affordance : Except Exc Bool
  queueBefore : List Interaction
  /-- the interactions that start while the handler runs, in order -/
  starts : List Interaction
  handler : Except Exc HandlerResult
  queueAfter : List Interaction
  /-- `bridge.emit` of the queued interaction -/
  emit : Except Exc Unit

/-- what the engine answers while one request is pushed -/
structure Push where
  /-- `_resolve_interaction(payload)`: the stage and the text of what it raises -/
  resolved : Except (String × String) Unit
  starts : List Interaction
  result : Except Exc HandlerResult
  queue : List Interaction
  emit : Except Exc Unit

/-- `_queue_entries(sim)` -/
def queueEntries (queue : List Interaction) : Dict String Interaction :=
  queue.foldl (fun entries interaction =>
    match interaction.id with
    | none => entries
    | some n => entries.setItem (toString n) interaction) ∅

/-! ## The start of an interaction -/

def actionableNames : List Json :=
  [.str "interactions.select", .str "interactions.push", .str "interactions.push_targeting_sim_info"]

def startedNames : List Json := actionableNames ++ [.str "interaction.request"]

def startedEvent (request : NativeRequest) (interactionId : String) : BridgeEvent :=
  ⟨.interactionStarted, .obj [("request_id", .str request.requestId), ("sim_id", .str request.simId),
    ("interaction_id", .str interactionId), ("command", request.name),
    ("signal", .str "Interaction._trigger_interaction_start_event")]⟩

def nativeInteractionStarted (g : NativeHooks) (interaction : Interaction) : NativeHooks :=
  let interactionId := interaction.text
  let request := (g.nativeInteractionRequests.lookup interactionId).or g.activeNativeCommand
  let g := { g with nativeInteractionRequests := g.nativeInteractionRequests.erase interactionId }
  match request with
  | none => g
  | some request =>
    if request.name ∉ startedNames then g
    else { g with emitted := g.emitted ++ [startedEvent request interactionId] }

/-! ## The replay of a command -/

/-- `'native_command:%s:%s' % (type(exc).__name__, exc)` -/
def reason (x : Exc) : String := "native_command:" ++ x.typeName ++ ":" ++ x.str

def reject (g : NativeHooks) (payload : Json) (requestId : String) (name : Json) (reason : String) : NativeHooks :=
  match payload.get "sim_id" with
  | .error _ => g
  | .ok simId =>
    { g with emitted := g.emitted ++ [⟨.interactionRejected, .obj [("request_id", .str requestId), ("sim_id", simId),
        ("command", name), ("reason", .str reason)]⟩] }

/-- `list(command.get('args') or [])`, of the given length -/
def argList (command : List (String × Json)) (n : ℕ) (text : String) : Except Exc (List Json) := do
  let args ← ((Json.field command "args" .null).or (.arr [])).iter
  require (args.length = n) (.valueError text)
  return args

/-- the arguments of a cancellation are not made a list: `len(args)`, then `int(args[0])` and so on -/
def cancelArgs (command : List (String × Json)) (n : ℕ) (text : String) : Except String Unit :=
  match (Json.field command "args" .null).or (.arr []) with
  | .obj kvs => .error (if kvs.length = n then "native_command:KeyError:0" else reason (.valueError text))
  | .arr _ | .str _ => Except.mapError reason do
      let args ← argList command n text
      let _ ← args.mapM Json.toInt
  | x => .error (reason (.typeError ("object of type '" ++ x.typeName ++ "' has no len()")))

/-- the target, under either of its two keys, and the affordance -/
def pushArgs (command : List (String × Json)) (key other missing : String) (e : Replay) : Except Exc Unit := do
  let target ← ((Json.field command "target" .null).or (.obj [])).toDict
  require ((Json.field target key .null).or (Json.field target other .null)).truthy (.valueError missing)
  let _ ← intOfStr (Json.field command "affordance_id" .null).toStr
  require (← e.affordance) (.valueError "affordance_not_found")

/-- what is checked of the command before its handler is called; the error is the reason of the rejection -/
def checkArgs (name : Json) (command : List (String × Json)) (e : Replay) : Except String Unit :=
  if name = .str "interactions.has_choices" then
    Except.mapError reason do let _ ← argList command 12 "has_choices_args_invalid"
  else if name = .str "interactions.choices" then
    Except.mapError reason do let _ ← argList command 14 "choices_args_invalid"
  else if name = .str "interactions.select" then Except.mapError reason do
    let args ← argList command 2 "select_args_invalid"
    let _ ← args.mapM Json.toInt
  else if name = .str "interactions.push" then
    Except.mapError reason (pushArgs command "target_id" "target_sim_id" "target_id_missing" e)
  else if name = .str "interactions.push_targeting_sim_info" then
    Except.mapError reason (pushArgs command "target_sim_id" "target_id" "target_sim_id_missing" e)
  else if name = .str "interactions.cancel_si" then cancelArgs command 2 "cancel_si_args_invalid"
  else if name = .str "interactions.cancel" then cancelArgs command 4 "cancel_args_invalid"
  else .error (reason (.valueError ("command_not_allowed:" ++ name.toStr)))

/-- the request's id and its command -/
def readCommand (payload : Json) : Except Exc (String × List (String × Json)) := do
  let requestId ← (payload.or (.obj [])).get "request_id"
  let command ← ((← (payload.or (.obj [])).get "command").or (.obj [])).toDict
  return ((requestId.or (.str "")).toStr, command)

/-- all that is done before the handler is called: the active command, or the reason of the rejection -/
def prepare (payload : Json) (requestId : String) (command : List (String × Json)) (e : Replay) :
    Except String NativeRequest := do
  let name := Json.field command "name" .null
  let simId ← Except.mapError reason do
    let simId ← intOfStr (← payload.get "sim_id").toStr
    require (← e.simLoaded) (.valueError "sim_not_loaded")
    e.remoteClient
    return simId
  checkArgs name command e
  return ⟨requestId, toString simId, name⟩

/-- the interaction a result names, or the first new one in the queue -/
def chosen (result : HandlerResult) (queueBefore queueAfter : List Interaction) : Option Interaction :=
  match result.interaction with
  | some interaction => some interaction
  | none => do
    let value ← (queueEntries queueAfter).keys.find? fun value => value ∉ queueEntries queueBefore
    (queueEntries queueAfter).lookup value

/-- `str(getattr(interaction, 'id', '') or '')` of an interaction or None -/
def chosenId (result : HandlerResult) (queueBefore queueAfter : List Interaction) : String :=
  match chosen result queueBefore queueAfter with
  | some interaction => interaction.text
  | none => ""

/-- the interaction is kept under its id and reported as queued -/
def register (g : NativeHooks) (request : NativeRequest) (simId : Json) (interactionId : String) : NativeHooks :=
  { g with
    nativeInteractionRequests := g.nativeInteractionRequests.setItem interactionId request
    emitted := g.emitted ++ [⟨.interactionQueued, .obj [("request_id", .str request.requestId), ("sim_id", simId),
      ("interaction_id", .str interactionId), ("command", request.name), ("signal", .str "sim.queue membership")]⟩] }

/-- what the handler returns; of a command that is not actionable only whether it raises -/
def handlerResult (name : Json) (e : Replay) : Except Exc HandlerResult :=
  if name ∈ actionableNames then e.handler else e.handler.map fun _ => ⟨true, none⟩

/-- the handler's run, and what is made of its result -/
def replay (g : NativeHooks) (request : NativeRequest) (e : Replay) : Except Exc Unit × NativeHooks :=
  let g := e.starts.foldl nativeInteractionStarted { g with activeNativeCommand := some request }
  match handlerResult request.name e with
  | .error x => (.error x, g)
  | .ok result =>
    if result.truthy = false then (.error (.valueError "native_command_rejected"), g)
    else if request.name ∈ actionableNames then
      let interactionId := chosenId result e.queueBefore e.queueAfter
      if interactionId ≠ "" ∧ interactionId ∈ queueEntries e.queueAfter then
        (e.emit, register g request (.str request.simId) interactionId)
      else (.ok (), g)
    else (.ok (), g)

def interactionCommand (g : NativeHooks) (payload : Json) (e : Replay) : NativeHooks :=
  if g.sidecarRole ≠ some .host then g
  else
    match readCommand payload with
    | .error _ => g
    | .ok (requestId, command) =>
      let name := Json.field command "name" .null
      match prepare payload requestId command e with
      | .error text => reject g payload requestId name text
      | .ok request =>
        let (r, g) := replay g request e
        let g := match r with
          | .error x => reject g payload requestId name (reason x)
          | .ok _ => g
        { g with activeNativeCommand := none }

/-! ## A request that is pushed -/

/-- the rejection of a request that did not resolve -/
def rejectUnresolved (g : NativeHooks) (payload : List (String × Json)) (requestId stage text : String) : NativeHooks :=
  let get k := Json.field payload k .null
  { g with emitted := g.emitted ++ [⟨.interactionRejected, .obj [("request_id", .str requestId), ("sim_id", get "sim_id"),
      ("affordance_id", get "affordance_id"), ("target_id", get "target_id"), ("target_kind", get "target_kind"),
      ("target_type", get "target_type"), ("position_present", .bool (get "position" ≠ .null)),
      ("pick_present", .bool (get "pick" ≠ .null)), ("resolve_stage", .str stage),
      ("reason", .str (stage ++ ":" ++ text))]⟩] }

/-- the rejection of a request that could not be pushed -/
def rejectPush (g : NativeHooks) (payload : List (String × Json)) (requestId : String) (x : Exc) : NativeHooks :=
  let get k := Json.field payload k .null
  { g with emitted := g.emitted ++ [⟨.interactionRejected, .obj [("request_id", .str requestId), ("sim_id", get "sim_id"),
      ("affordance_id", get "affordance_id"), ("target_id", get "target_id"), ("resolve_stage", .str "push_super_affordance"),
      ("reason", .str ("push_super_affordance:" ++ x.typeName ++ ": " ++ x.str))]⟩] }

/-- the push, and what is made of its result -/
def push (g : NativeHooks) (request : NativeRequest) (simId : Json) (e : Push) : Except Exc Unit × NativeHooks :=
  let g := e.starts.foldl nativeInteractionStarted g
  match e.result with
  | .error x => (.error x, g)
  | .ok result =>
    if result.truthy = false then (.error (.valueError "push_rejected"), g)
    else
      let interactionId := (result.interaction.map Interaction.text).getD ""
      if interactionId ≠ "" ∧ interactionId ∈ queueEntries e.queue then
        (e.emit, register g request simId interactionId)
      else (.ok (), g)

def interactionRequest (g : NativeHooks) (payload : Json) (e : Push) : NativeHooks :=
  match payload with
  | .obj fields =>
    let requestId := ((Json.field fields "request_id" .null).or (.str "")).toStr
    match e.resolved with
    | .error (stage, text) => rejectUnresolved g fields requestId stage text
    | .ok _ =>
      let simId := Json.field fields "sim_id" .null
      let (r, g) := push g ⟨requestId, simId.toStr, .str "interaction.request"⟩ simId e
      match r with
      | .error x => rejectPush g fields requestId x
      | .ok _ => g
  | _ => g

inductive NativeEvent where
  | welcome (role : Option Role)
  | command (payload : Json) (e : Replay)
  | request (payload : Json) (e : Push)
  | started (interaction : Interaction)

def step (g : NativeHooks) : NativeEvent → NativeHooks
  | .welcome role => { g with sidecarRole := role }
  | .command payload e => interactionCommand g payload e
  | .request payload e => interactionRequest g payload e
  | .started interaction => nativeInteractionStarted g interaction

/-- the hooks after the first n events -/
def after (es : List NativeEvent) (n : ℕ) : NativeHooks := reached step init es n

/-! ## What is reported, and what was queued -/

/-- the request and the interaction of an `interaction.started` -/
def startOf (ev : BridgeEvent) : Option (String × String) :=
  match ev.type, ev.payload with
  | .interactionStarted, .obj fields =>
    some ((Json.field fields "request_id" .null).toStr, (Json.field fields "interaction_id" .null).toStr)
  | _, _ => none

theorem startOf_startedEvent (request : NativeRequest) (x : String) :
    startOf (startedEvent request x) = some (request.requestId, x) := rfl

/-- the starts that were reported, oldest first -/
def starts (g : NativeHooks) : List (String × String) := g.emitted.filterMap startOf

def startedIds (g : NativeHooks) : List String := (starts g).map Prod.fst

/-- the command whose handler is called -/
def called (g : NativeHooks) (payload : Json) (e : Replay) : Option NativeRequest :=
  if g.sidecarRole = some .host then
    match readCommand payload with
    | .ok (requestId, command) => (prepare payload requestId command e).toOption
    | .error _ => none
  else none

/-- the command's handler puts the interaction into the queue: its result names it, or names none and it is new there -/
def PutsInto (e : Replay) (interactionId : String) : Prop :=
  ∃ result, e.handler = .ok result ∧ result.truthy = true ∧ interactionId ∈ queueEntries e.queueAfter ∧
    match result.interaction with
    | some interaction => interaction.text = interactionId
    | none => interactionId ∉ queueEntries e.queueBefore

/-- the request of the event puts the interaction into its Sim's queue -/
def Puts (g : NativeHooks) (ev : NativeEvent) (requestId interactionId : String) : Prop :=
  match ev with
  | .command payload e => ∃ request, called g payload e = some request ∧ request.name ∈ actionableNames ∧
      request.requestId = requestId ∧ PutsInto e interactionId
  | .request payload e => ∃ fields result interaction, payload = .obj fields ∧
      ((Json.field fields "request_id" .null).or (.str "")).toStr = requestId ∧ e.resolved = .ok () ∧
      e.result = .ok result ∧ result.truthy = true ∧ result.interaction = some interaction ∧
      interaction.text = interactionId ∧ interactionId ∈ queueEntries e.queue
  | _ => False

/-- one of the first n events put the interaction into the queue, for the request -/
def Made (es : List NativeEvent) (n : ℕ) (requestId interactionId : String) : Prop :=
  ∃ k < n, ∃ ev, es[k]? = some ev ∧ Puts (after es k) ev requestId interactionId

/-- **One start per request.** No request id is reported as started twice, and each one for an interaction that its
request put into its Sim's queue. -/
def OneStart (es : List NativeEvent) (n : ℕ) : Prop :=
  (startedIds (after es n)).Nodup ∧ ∀ p ∈ starts (after es n), Made es n p.1 p.2

/-! ## The condition -/

/-- the interactions that start while the event is handled -/
def NativeEvent.starts (g : NativeHooks) : NativeEvent → List Interaction
  | .welcome _ => []
  | .command payload e => if (called g payload e).isSome then e.starts else []
  | .request payload e =>
    match payload, e.resolved with
    | .obj _, .ok _ => e.starts
    | _, _ => []
  | .started interaction => [interaction]

/-- the interaction starts in the n-th event or later -/
def StartsFrom (es : List NativeEvent) (n : ℕ) (interactionId : String) : Prop :=
  ∃ k ≥ n, ∃ ev, es[k]? = some ev ∧ interactionId ∈ (ev.starts (after es k)).map Interaction.text

/-- the id of the event's request -/
def NativeEvent.requestId : NativeEvent → Option String
  | .command payload _ => (readCommand payload).toOption.map Prod.fst
  | .request (.obj fields) _ => some ((Json.field fields "request_id" .null).or (.str "")).toStr
  | _ => none

/-- of the interactions that start one after the other, those that are not kept for a request when they do -/
def unkept (kept : Dict String NativeRequest) : List Interaction → List Interaction
  | [] => []
  | i :: l => (if i.text ∈ kept then [] else [i]) ++ unkept (kept.erase i.text) l

/-- the handler's result is an interaction in the queue: the one it names, or the first new one -/
def Keeps (e : Replay) (interactionId : String) : Prop :=
  ∃ result, e.handler = .ok result ∧ result.truthy = true ∧ chosenId result e.queueBefore e.queueAfter = interactionId ∧
    interactionId ≠ "" ∧ interactionId ∈ queueEntries e.queueAfter

/-- while the n-th event's command is replayed, no interaction starts that is not kept for a request, or only the one
that is the handler's result, which does not start again -/
def StartsOwn (es : List NativeEvent) (n : ℕ) : Prop :=
  ∀ payload e request, es[n]? = some (.command payload e) → called (after es n) payload e = some request →
    request.name ∈ actionableNames →
    unkept (after es n).nativeInteractionRequests e.starts = [] ∨
      ∃ i, unkept (after es n).nativeInteractionRequests e.starts = [i] ∧ Keeps e i.text ∧ ¬ StartsFrom es (n + 1) i.text

/-! ## What one start keeps -/

/-- what holds of the reported starts and of the requests that are kept; `later`: the interactions still to start -/
structure Inv (made : String → String → Prop) (later : String → Prop) (g : NativeHooks) : Prop where
  once : (startedIds g).Nodup
  started_made : ∀ p ∈ starts g, made p.1 p.2
  kept_made : ∀ x r, g.nativeInteractionRequests.lookup x = some r → made r.requestId x
  distinct : ∀ x y r r', g.nativeInteractionRequests.lookup x = some r → g.nativeInteractionRequests.lookup y = some r' →
    r.requestId = r'.requestId → x = y
  spent : ∀ x r, g.nativeInteractionRequests.lookup x = some r → r.requestId ∈ startedIds g → ¬ later x

variable {made made' : String → String → Prop} {later later' : String → Prop} {g g' : NativeHooks}
  {request : NativeRequest} {i : Interaction}

theorem inv_init : Inv made later init where
  once := List.nodup_nil
  started_made := nofun
  kept_made := nofun
  distinct := nofun
  spent := nofun

theorem Inv.mono (h : Inv made later g) (hmade : ∀ rid x, made rid x → made' rid x) (hlater : ∀ x, later' x → later x) :
    Inv made' later' g where
  once := h.once
  started_made := fun p hp => hmade _ _ (h.started_made p hp)
  kept_made := fun x r hr => hmade _ _ (h.kept_made x r hr)
  distinct := h.distinct
  spent := fun x r hr hs hl => h.spent x r hr hs (hlater x hl)

/-- the same requests kept, and the same starts reported -/
structure Quiet (g g' : NativeHooks) : Prop where
  kept : g'.nativeInteractionRequests = g.nativeInteractionRequests
  reported : starts g' = starts g
  active : g'.activeNativeCommand = g.activeNativeCommand

theorem Inv.quiet (h : Inv made later g) (hq : Quiet g g') : Inv made later g' := by
  obtain ⟨once, started_made, kept_made, distinct, spent⟩ := h
  constructor <;> simpa only [startedIds, hq.kept, hq.reported]

theorem inv_active {active : Option NativeRequest} (h : Inv made later g) :
    Inv made later { g with activeNativeCommand := active } :=
  ⟨h.once, h.started_made, h.kept_made, h.distinct, h.spent⟩

theorem Quiet.refl (g : NativeHooks) : Quiet g g := ⟨rfl, rfl, rfl⟩

/-- an event that reports no start -/
theorem quiet_emit {ev : BridgeEvent} (hev : startOf ev = none) : Quiet g { g with emitted := g.emitted ++ [ev] } :=
  ⟨rfl, by simp [starts, hev], rfl⟩

/-- the start of an interaction is reported for a request, which is not kept any more -/
theorem inv_report {x : String} (h : Inv made later g) (hmade : made request.requestId x)
    (hfresh : request.requestId ∉ startedIds g)
    (hkept : ∀ y r, y ≠ x → g.nativeInteractionRequests.lookup y = some r → r.requestId ≠ request.requestId) :
    Inv made later { g with
      nativeInteractionRequests := g.nativeInteractionRequests.erase x
      emitted := g.emitted ++ [startedEvent request x] } := by
  set g' : NativeHooks := { g with
    nativeInteractionRequests := g.nativeInteractionRequests.erase x
    emitted := g.emitted ++ [startedEvent request x] }
  have hstarts : starts g' = starts g ++ [(request.requestId, x)] := by
    simp [g', starts, startOf_startedEvent]
  have hids : startedIds g' = startedIds g ++ [request.requestId] := by simp [startedIds, hstarts]
  have hlookup : ∀ y r, g'.nativeInteractionRequests.lookup y = some r →
      y ≠ x ∧ g.nativeInteractionRequests.lookup y = some r := fun y r => AList.lookup_erase_eq_some.1
  constructor
  · rw [hids, List.nodup_append]
    refine ⟨h.once, List.nodup_singleton _, ?_⟩
    intro a ha b hb hab
    rw [List.mem_singleton.1 hb] at hab
    exact hfresh (hab ▸ ha)
  · intro p hp
    rw [hstarts, List.mem_append, List.mem_singleton] at hp
    rcases hp with hp | rfl
    · exact h.started_made p hp
    · exact hmade
  · exact fun y r hr => h.kept_made y r (hlookup y r hr).2
  · exact fun y z r r' hr hr' => h.distinct y z r r' (hlookup y r hr).2 (hlookup z r' hr').2
  · intro y r hr hs
    obtain ⟨hy, hr⟩ := hlookup y r hr
    rw [hids, List.mem_append, List.mem_singleton] at hs
    rcases hs with hs | hs
    · exact h.spent y r hr hs
    · exact absurd hs (hkept y r hy hr)

/-- a start takes the interaction out of the registry, and is reported at most for the request it was kept for, or else
for the active command -/
theorem started_cases (g : NativeHooks) (i : Interaction) :
    (nativeInteractionStarted g i =
        { g with nativeInteractionRequests := g.nativeInteractionRequests.erase i.text }) ∨
      ∃ request, (g.nativeInteractionRequests.lookup i.text = some request ∨
          (g.nativeInteractionRequests.lookup i.text = none ∧ g.activeNativeCommand = some request)) ∧
        request.name ∈ startedNames ∧
        nativeInteractionStarted g i = { g with
          nativeInteractionRequests := g.nativeInteractionRequests.erase i.text
          emitted := g.emitted ++ [startedEvent request i.text] } := by
  unfold nativeInteractionStarted
  cases hlookup : g.nativeInteractionRequests.lookup i.text with
  | some request =>
    by_cases hname : request.name ∈ startedNames
    · exact Or.inr ⟨request, Or.inl rfl, hname, by simp [hlookup, hname]⟩
    · exact Or.inl (by simp [hlookup, hname])
  | none =>
    cases hactive : g.activeNativeCommand with
    | none => exact Or.inl (by simp [hlookup])
    | some request =>
      by_cases hname : request.name ∈ startedNames
      · exact Or.inr ⟨request, Or.inr ⟨rfl, rfl⟩, hname, by simp [hlookup, hname]⟩
      · exact Or.inl (by simp [hlookup, hname])

@[simp] theorem kept_started (g : NativeHooks) (i : Interaction) :
    (nativeInteractionStarted g i).nativeInteractionRequests = g.nativeInteractionRequests.erase i.text := by
  obtain h | ⟨request, -, -, h⟩ := started_cases g i <;> rw [h]

@[simp] theorem active_started (g : NativeHooks) (i : Interaction) :
    (nativeInteractionStarted g i).activeNativeCommand = g.activeNativeCommand := by
  obtain h | ⟨request, -, -, h⟩ := started_cases g i <;> rw [h]

/-- a request that is reported now was reported before, or the interaction was kept for it, or it is the active one -/
theorem startedIds_started {rid : String} (h : rid ∈ startedIds (nativeInteractionStarted g i)) :
    rid ∈ startedIds g ∨ ∃ request, (g.nativeInteractionRequests.lookup i.text = some request ∨
        (i.text ∉ g.nativeInteractionRequests ∧ g.activeNativeCommand = some request)) ∧
      request.name ∈ startedNames ∧ request.requestId = rid := by
  obtain hcall | ⟨request, hrequest, hname, hcall⟩ := started_cases g i
  · rw [hcall] at h
    exact Or.inl h
  · rw [hcall] at h
    have hids : rid ∈ startedIds g ∨ rid = request.requestId := by
      simpa [startedIds, starts, startOf_startedEvent] using h
    rcases hids with hids | rfl
    · exact Or.inl hids
    · rw [AList.lookup_eq_none] at hrequest
      exact Or.inr ⟨request, hrequest, hname, rfl⟩

theorem inv_erase {x : String} (h : Inv made later g) :
    Inv made later { g with nativeInteractionRequests := g.nativeInteractionRequests.erase x } := by
  have hlookup : ∀ y r, (g.nativeInteractionRequests.erase x).lookup y = some r →
      g.nativeInteractionRequests.lookup y = some r := fun y r hr => (AList.lookup_erase_eq_some.1 hr).2
  exact ⟨h.once, h.started_made, fun y r hr => h.kept_made y r (hlookup y r hr),
    fun y z r r' hr hr' => h.distinct y z r r' (hlookup y r hr) (hlookup z r' hr'),
    fun y r hr => h.spent y r (hlookup y r hr)⟩

/-- one start, of an interaction that is kept or may be reported for the active command -/
theorem inv_started (h : Inv made later g) (hi : later i.text)
    (hactive : ∀ request, g.activeNativeCommand = some request → request.name ∈ startedNames →
      i.text ∉ g.nativeInteractionRequests → made request.requestId i.text ∧ request.requestId ∉ startedIds g ∧
        ∀ y r, g.nativeInteractionRequests.lookup y = some r → r.requestId ≠ request.requestId) :
    Inv made later (nativeInteractionStarted g i) := by
  obtain hcall | ⟨request, hrequest | ⟨hnone, hrequest⟩, hname, hcall⟩ := started_cases g i
  · rw [hcall]
    exact inv_erase h
  · rw [hcall]
    refine inv_report h (h.kept_made _ _ hrequest) ?_ ?_
    · exact fun hs => h.spent _ _ hrequest hs hi
    · exact fun y r hy hr hid => hy (h.distinct _ _ _ _ hr hrequest hid)
  · rw [hcall]
    obtain ⟨hmade, hfresh, hkept⟩ := hactive request hrequest hname (AList.lookup_eq_none.1 hnone)
    exact inv_report h hmade hfresh fun y r _ => hkept y r

/-! ## What the starts of one handler call keep -/

theorem inv_idle_starts {l : List Interaction} (h : Inv made later g) (hl : ∀ i ∈ l, later i.text)
    (hactive : g.activeNativeCommand = none) :
    Inv made later (l.foldl nativeInteractionStarted g) ∧
      (l.foldl nativeInteractionStarted g).activeNativeCommand = none := by
  induction l generalizing g with
  | nil => exact ⟨h, hactive⟩
  | cons i l ih =>
    rw [List.foldl_cons]
    refine ih (inv_started h (hl i (List.mem_cons_self ..)) ?_) (fun j hj => hl j (List.mem_cons_of_mem _ hj)) ?_
    · intro request hrequest
      rw [hactive] at hrequest
      cases hrequest
    · rw [active_started, hactive]

/-- the start of the interaction is reported for the active command -/
def FallsBack (g : NativeHooks) (request : NativeRequest) (i : Interaction) : Prop :=
  request.name ∈ startedNames ∧ i.text ∉ g.nativeInteractionRequests

theorem unkept_cons (kept : Dict String NativeRequest) (i : Interaction) (l : List Interaction) :
    unkept kept (i :: l) = if i.text ∈ kept then unkept (kept.erase i.text) l else i :: unkept (kept.erase i.text) l := by
  rw [unkept]
  split_ifs <;> rfl

/-- a request that nothing is kept for is reported only as the active command -/
theorem reported_fallsBack (hactive : g.activeNativeCommand = some request)
    (hkept : ∀ y r, g.nativeInteractionRequests.lookup y = some r → r.requestId ≠ request.requestId)
    (hs : request.requestId ∈ startedIds (nativeInteractionStarted g i)) :
    request.requestId ∈ startedIds g ∨ FallsBack g request i := by
  rcases startedIds_started hs with hs | ⟨request', hr | ⟨hnone, hr⟩, hname, hid⟩
  · exact Or.inl hs
  · exact absurd hid (hkept _ _ hr)
  · rw [hactive] at hr
    cases hr
    exact Or.inr ⟨hname, hnone⟩

/-- the starts while a command is replayed: at most one of them is reported for it -/
theorem inv_starts {l : List Interaction} (h : Inv made later g) (hl : ∀ i ∈ l, later i.text)
    (hactive : g.activeNativeCommand = some request)
    (hkept : ∀ y r, g.nativeInteractionRequests.lookup y = some r → r.requestId ≠ request.requestId)
    (hown : request.name ∈ startedNames → unkept g.nativeInteractionRequests l = [] ∨
      (request.requestId ∉ startedIds g ∧
        ∃ i, unkept g.nativeInteractionRequests l = [i] ∧ made request.requestId i.text)) :
    Inv made later (l.foldl nativeInteractionStarted g) ∧
      (∀ y r, (l.foldl nativeInteractionStarted g).nativeInteractionRequests.lookup y = some r →
        r.requestId ≠ request.requestId) ∧
      (request.requestId ∈ startedIds (l.foldl nativeInteractionStarted g) → request.requestId ∈ startedIds g ∨
        (request.name ∈ startedNames ∧ unkept g.nativeInteractionRequests l ≠ [])) := by
  induction l generalizing g with
  | nil => exact ⟨h, hkept, Or.inl⟩
  | cons i l ih =>
    rw [List.foldl_cons]
    have hlater : ∀ j ∈ l, later j.text := fun j hj => hl j (List.mem_cons_of_mem _ hj)
    have hactive' : (nativeInteractionStarted g i).activeNativeCommand = some request := by rw [active_started, hactive]
    have hkept' : ∀ y r, (nativeInteractionStarted g i).nativeInteractionRequests.lookup y = some r →
        r.requestId ≠ request.requestId := by
      intro y r hr
      rw [kept_started] at hr
      exact hkept y r (AList.lookup_erase_eq_some.1 hr).2
    have hstarted : (FallsBack g request i → made request.requestId i.text ∧ request.requestId ∉ startedIds g) →
        Inv made later (nativeInteractionStarted g i) := by
      intro hfall
      refine inv_started h (hl i (List.mem_cons_self ..)) ?_
      intro request' hr hname hnone
      rw [hactive] at hr
      cases hr
      exact ⟨(hfall ⟨hname, hnone⟩).1, (hfall ⟨hname, hnone⟩).2, hkept⟩
    by_cases hfall : FallsBack g request i
    · -- the one start that is reported for the active command
      rw [unkept_cons, if_neg hfall.2] at hown ⊢
      obtain hnil | ⟨hfresh, j, hj, hmade⟩ := hown hfall.1
      · cases hnil
      · obtain ⟨rfl, hrest⟩ := List.cons.inj hj
        obtain ⟨hinv, hafter, -⟩ := ih (hstarted fun _ => ⟨hmade, hfresh⟩) hlater hactive' hkept' fun _ => by
          rw [kept_started]
          exact Or.inl hrest
        exact ⟨hinv, hafter, fun _ => Or.inr ⟨hfall.1, List.cons_ne_nil _ _⟩⟩
    · have hunkept : request.name ∈ startedNames → unkept g.nativeInteractionRequests (i :: l) =
          unkept (nativeInteractionStarted g i).nativeInteractionRequests l := by
        intro hname
        rw [unkept_cons, if_pos (not_not.1 fun hnone => hfall ⟨hname, hnone⟩), kept_started]
      have hsame : request.requestId ∈ startedIds (nativeInteractionStarted g i) → request.requestId ∈ startedIds g :=
        fun hs => (reported_fallsBack hactive hkept hs).resolve_right hfall
      obtain ⟨hinv, hafter, hids⟩ := ih (hstarted fun hf => absurd hf hfall) hlater hactive' hkept' (by
        intro hname
        rw [← hunkept hname]
        exact (hown hname).imp id fun ⟨hfresh, hi⟩ => ⟨fun hs => hfresh (hsame hs), hi⟩)
      refine ⟨hinv, hafter, fun hs => ?_⟩
      rcases hids hs with hs | ⟨hname, hne⟩
      · exact Or.inl (hsame hs)
      · exact Or.inr ⟨hname, by rwa [hunkept hname]⟩

/-! ## What an event keeps -/

theorem inv_register {simId : Json} {x : String} (h : Inv made later g) (hmade : made request.requestId x)
    (hkept : ∀ y r, g.nativeInteractionRequests.lookup y = some r → r.requestId ≠ request.requestId)
    (hspent : request.requestId ∈ startedIds g → ¬ later x) : Inv made later (register g request simId x) := by
  have hstarts : starts (register g request simId x) = starts g := by simp [register, starts, startOf]
  have hlookup : ∀ y r, (register g request simId x).nativeInteractionRequests.lookup y = some r →
      (y = x ∧ request = r) ∨ g.nativeInteractionRequests.lookup y = some r :=
    fun y r hr => (AList.lookup_setItem_eq_some.1 hr).imp_right And.right
  constructor
  · rw [startedIds, hstarts]
    exact h.once
  · rw [hstarts]
    exact h.started_made
  · intro y r hr
    rcases hlookup y r hr with ⟨rfl, rfl⟩ | hr
    · exact hmade
    · exact h.kept_made y r hr
  · intro y z r r' hr hr' hid
    rcases hlookup y r hr with ⟨rfl, rfl⟩ | hy <;> rcases hlookup z r' hr' with ⟨rfl, rfl⟩ | hz
    · rfl
    · exact absurd hid.symm (hkept z r' hz)
    · exact absurd hid (hkept y r hy)
    · exact h.distinct y z r r' hy hz hid
  · intro y r hr hs
    rw [startedIds, hstarts] at hs
    rcases hlookup y r hr with ⟨rfl, rfl⟩ | hr
    · exact hspent hs
    · exact h.spent y r hr hs

theorem quiet_reject (g : NativeHooks) (payload : Json) (requestId : String) (name : Json) (text : String) :
    Quiet g (reject g payload requestId name text) := by
  unfold reject
  split
  · exact Quiet.refl g
  · exact quiet_emit rfl

/-- the result of a replay is kept, or nothing is -/
theorem replay_cases (g : NativeHooks) (request : NativeRequest) (e : Replay) :
    (replay g request e).2 = e.starts.foldl nativeInteractionStarted { g with activeNativeCommand := some request } ∨
      ∃ x, request.name ∈ actionableNames ∧ Keeps e x ∧ (replay g request e).2 =
        register (e.starts.foldl nativeInteractionStarted { g with activeNativeCommand := some request }) request
          (.str request.simId) x := by
  unfold replay
  cases hresult : handlerResult request.name e with
  | error x => exact Or.inl rfl
  | ok result =>
    simp only
    split_ifs with hfalsy hname hqueued
    · exact Or.inl rfl
    · refine Or.inr ⟨_, hname, ⟨result, ?_, by simpa using hfalsy, rfl, hqueued⟩, rfl⟩
      rwa [handlerResult, if_pos hname] at hresult
    · exact Or.inl rfl
    · exact Or.inl rfl

/-- the interaction that a push's result names is kept, or nothing is -/
theorem push_cases (g : NativeHooks) (request : NativeRequest) (simId : Json) (e : Push) :
    (push g request simId e).2 = e.starts.foldl nativeInteractionStarted g ∨
      ∃ result interaction, e.result = .ok result ∧ result.truthy = true ∧ result.interaction = some interaction ∧
        interaction.text ∈ queueEntries e.queue ∧ (push g request simId e).2 =
          register (e.starts.foldl nativeInteractionStarted g) request simId interaction.text := by
  unfold push
  cases hresult : e.result with
  | error x => exact Or.inl rfl
  | ok result =>
    simp only
    split_ifs with hfalsy hqueued
    · exact Or.inl rfl
    · cases hinteraction : result.interaction with
      | none => simp [hinteraction] at hqueued
      | some interaction =>
        rw [hinteraction] at hqueued
        exact Or.inr ⟨result, interaction, rfl, by simpa using hfalsy, hinteraction, hqueued.2, rfl⟩
    · exact Or.inl rfl

/-- a command's handler is not called and no start is reported, or it is replayed, and may be rejected after that -/
theorem command_cases (g : NativeHooks) (payload : Json) (e : Replay) :
    (called g payload e = none ∧ Quiet g (interactionCommand g payload e)) ∨
      ∃ request, called g payload e = some request ∧
        Quiet { (replay g request e).2 with activeNativeCommand := none } (interactionCommand g payload e) := by
  unfold called interactionCommand
  by_cases hrole : g.sidecarRole = some .host
  · simp only [hrole, ne_eq, not_true_eq_false, if_true, if_false]
    cases readCommand payload with
    | error x => exact Or.inl ⟨rfl, Quiet.refl g⟩
    | ok read =>
      obtain ⟨requestId, command⟩ := read
      cases hprepare : prepare payload requestId command e with
      | error text => exact Or.inl ⟨by simp [hprepare, Except.toOption], by simpa [hprepare] using quiet_reject ..⟩
      | ok request =>
        refine Or.inr ⟨request, by simp [hprepare, Except.toOption], ?_⟩
        simp only [hprepare]
        cases (replay g request e).1 with
        | ok _ => exact Quiet.refl _
        | error x =>
          obtain ⟨hkept, hreported, -⟩ := quiet_reject (replay g request e).2 payload requestId
            (Json.field command "name" .null) (reason x)
          exact ⟨hkept, hreported, rfl⟩
  · exact Or.inl ⟨by simp [hrole], by simpa [hrole] using Quiet.refl g⟩

theorem prepare_ok {payload : Json} {requestId : String} {command : List (String × Json)} {e : Replay}
    (h : prepare payload requestId command e = .ok request) :
    request.requestId = requestId ∧ checkArgs request.name command e = .ok () := by
  unfold prepare at h
  revert h
  cases Except.mapError reason (do
    let simId ← intOfStr (← payload.get "sim_id").toStr
    require (← e.simLoaded) (.valueError "sim_not_loaded")
    e.remoteClient
    return simId) with
  | error text => intro h; cases h
  | ok simId =>
    cases hargs : checkArgs (Json.field command "name" .null) command e with
    | error text =>
      intro h
      simp [hargs, bind, Except.bind] at h
    | ok u =>
      intro h
      simp [hargs, bind, Except.bind, pure, Except.pure] at h
      subst h
      exact ⟨rfl, hargs⟩

/-- the event of a command whose handler is called has the request's id, and the name is one of the handlers' -/
theorem called_eq_some {payload : Json} {e : Replay} (h : called g payload e = some request) :
    NativeEvent.requestId (.command payload e) = some request.requestId ∧
      (request.name ∈ startedNames → request.name ∈ actionableNames) := by
  unfold called at h
  split_ifs at h
  unfold NativeEvent.requestId
  cases hread : readCommand payload with
  | error x => simp [hread] at h
  | ok read =>
    obtain ⟨requestId, command⟩ := read
    simp only [hread] at h
    cases hprepare : prepare payload requestId command e with
    | error text => simp [hprepare, Except.toOption] at h
    | ok request' =>
      simp only [hprepare, Except.toOption, Option.some.injEq] at h
      subst h
      obtain ⟨hid, hargs⟩ := prepare_ok hprepare
      refine ⟨by simp [hread, Except.toOption, hid], fun hname => ?_⟩
      rcases List.mem_append.1 hname with hname | hname
      · exact hname
      · rw [List.mem_singleton.1 hname] at hargs
        simp [checkArgs] at hargs

theorem Interaction.text_eq {n : ℤ} (hi : i.id = some n) (hne : i.text ≠ "") : i.text = toString n := by
  unfold Interaction.text at hne ⊢
  rw [hi] at hne ⊢
  split at hne
  · exact absurd rfl hne
  · exact absurd rfl hne
  · rename_i n' _ hn
    rw [Option.some.inj hn]

/-- an entry of the queue stands under its interaction's id -/
theorem lookup_queueEntries {queue : List Interaction} {value : String}
    (h : (queueEntries queue).lookup value = some i) (hne : i.text ≠ "") : i.text = value := by
  induction queue using List.reverseRecOn with
  | nil => cases h
  | append_singleton queue j ih =>
    rw [queueEntries, List.foldl_append, ← queueEntries] at h
    simp only [List.foldl_cons, List.foldl_nil] at h
    cases hj : j.id with
    | none =>
      rw [hj] at h
      exact ih h
    | some n =>
      rw [hj] at h
      rcases AList.lookup_setItem_eq_some.1 h with ⟨rfl, rfl⟩ | ⟨-, hold⟩
      · exact Interaction.text_eq hj hne
      · exact ih hold

theorem keeps_unique {e : Replay} {x y : String} (hx : Keeps e x) (hy : Keeps e y) : x = y := by
  obtain ⟨result, hresult, -, rfl, -⟩ := hx
  obtain ⟨result', hresult', -, rfl, -⟩ := hy
  rw [hresult] at hresult'
  cases hresult'
  rfl

theorem chosen_eq_some {result : HandlerResult} {queueBefore queueAfter : List Interaction}
    (h : chosen result queueBefore queueAfter = some i) : result.interaction = some i ∨ (result.interaction = none ∧
      ∃ value, value ∉ queueEntries queueBefore ∧ (queueEntries queueAfter).lookup value = some i) := by
  unfold chosen at h
  cases hinteraction : result.interaction with
  | some interaction =>
    rw [hinteraction] at h
    exact Or.inl h
  | none =>
    rw [hinteraction] at h
    obtain ⟨value, hfind, hlookup⟩ := Option.bind_eq_some_iff.1 h
    exact Or.inr ⟨rfl, value, by simpa using List.find?_some hfind, hlookup⟩

/-- the interaction that is kept is one that the command put into the queue -/
theorem putsInto_of_keeps {e : Replay} {x : String} (h : Keeps e x) : PutsInto e x := by
  obtain ⟨result, hresult, htruthy, hchosen, hne, hqueue⟩ := h
  refine ⟨result, hresult, htruthy, hqueue, ?_⟩
  unfold chosenId at hchosen
  split at hchosen
  · rename_i i hi
    rcases chosen_eq_some hi with hinteraction | ⟨hinteraction, value, hnew, hlookup⟩
    · rw [hinteraction]
      exact hchosen
    · have hvalue : i.text = value := lookup_queueEntries hlookup (hchosen ▸ hne)
      rw [hinteraction, ← hchosen, hvalue]
      exact hnew
  · exact absurd hchosen.symm hne

section Events

variable (h : Inv made later g) (hactive : g.activeNativeCommand = none) (hmade : ∀ rid x, made rid x → made' rid x)
  (hlater : ∀ x, later' x → later x)
include h hactive hmade hlater

theorem inv_command {payload : Json} {e : Replay}
    (hstarts : ∀ i ∈ (NativeEvent.command payload e).starts g, later i.text)
    (hputs : ∀ rid x, Puts g (.command payload e) rid x → made' rid x)
    (hfresh : ∀ request x, called g payload e = some request → ¬ made request.requestId x)
    (hown : ∀ request, called g payload e = some request → request.name ∈ actionableNames →
      unkept g.nativeInteractionRequests e.starts = [] ∨
        ∃ i, unkept g.nativeInteractionRequests e.starts = [i] ∧ Keeps e i.text ∧ ¬ later' i.text) :
    Inv made' later' (interactionCommand g payload e) ∧ (interactionCommand g payload e).activeNativeCommand = none := by
  obtain ⟨-, hquiet⟩ | ⟨request, hcalled, hquiet⟩ := command_cases g payload e
  · exact ⟨(h.mono hmade hlater).quiet hquiet, hquiet.active.trans hactive⟩
  · refine ⟨Inv.quiet ?_ hquiet, hquiet.active⟩
    have hnew := hfresh request
    obtain ⟨-, hname⟩ := called_eq_some hcalled
    have hkept : ∀ y r, g.nativeInteractionRequests.lookup y = some r → r.requestId ≠ request.requestId :=
      fun y r hr hid => hnew y hcalled (hid ▸ h.kept_made y r hr)
    have hunstarted : request.requestId ∉ startedIds g := by
      intro hs
      obtain ⟨⟨rid, x⟩, hp, rfl⟩ := List.mem_map.1 hs
      exact hnew x hcalled (h.started_made _ hp)
    have hkeeps : ∀ x, request.name ∈ actionableNames → Keeps e x → made' request.requestId x :=
      fun x hname hx => hputs _ _ ⟨request, hcalled, hname, rfl, putsInto_of_keeps hx⟩
    have hbegin : Inv made' later { g with activeNativeCommand := some request } :=
      inv_active (h.mono hmade fun _ hx => hx)
    have hstarts' : ∀ i ∈ e.starts, later i.text := by simpa [NativeEvent.starts, hcalled] using hstarts
    obtain ⟨hinv, hafter, hreported⟩ := inv_starts hbegin hstarts' rfl hkept (by
      intro hstart
      rcases hown request hcalled (hname hstart) with hnil | ⟨i, hi, hkeep, -⟩
      · exact Or.inl hnil
      · exact Or.inr ⟨hunstarted, i, hi, hkeeps _ (hname hstart) hkeep⟩)
    apply inv_active
    rcases replay_cases g request e with hreplay | ⟨x, haction, hx, hreplay⟩
    · rw [hreplay]
      exact hinv.mono (fun _ _ hx => hx) hlater
    · rw [hreplay]
      refine inv_register (hinv.mono (fun _ _ hx => hx) hlater) (hkeeps x haction hx) hafter ?_
      intro hs
      rcases hreported hs with hs | ⟨-, hne⟩
      · exact absurd hs hunstarted
      · -- the interaction that was reported is the one that is kept now
        obtain hnil | ⟨i, -, hkeep, hgone⟩ := hown request hcalled haction
        · exact absurd hnil hne
        · rwa [keeps_unique hx hkeep]

theorem inv_request {payload : Json} {e : Push}
    (hstarts : ∀ i ∈ (NativeEvent.request payload e).starts g, later i.text)
    (hputs : ∀ rid x, Puts g (.request payload e) rid x → made' rid x)
    (hfresh : ∀ rid x, (NativeEvent.request payload e).requestId = some rid → ¬ made rid x) :
    Inv made' later' (interactionRequest g payload e) ∧ (interactionRequest g payload e).activeNativeCommand = none := by
  have hsame := h.mono hmade hlater
  unfold interactionRequest
  split
  · rename_i fields
    cases hresolved : e.resolved with
    | error fault => exact ⟨hsame.quiet (quiet_emit rfl), hactive⟩
    | ok u =>
      simp only
      set request : NativeRequest := ⟨((Json.field fields "request_id" .null).or (.str "")).toStr,
        (Json.field fields "sim_id" .null).toStr, .str "interaction.request"⟩ with hrequest
      have hstarts' : ∀ i ∈ e.starts, later i.text := by simpa [NativeEvent.starts, hresolved] using hstarts
      obtain ⟨hinv, hidle⟩ := inv_idle_starts h hstarts' hactive
      have hpush : Inv made' later' (push g request (Json.field fields "sim_id" .null) e).2 ∧
          (push g request (Json.field fields "sim_id" .null) e).2.activeNativeCommand = none := by
        rcases push_cases g request (Json.field fields "sim_id" .null) e with
          hpush | ⟨result, interaction, hresult, htruthy, hinteraction, hqueue, hpush⟩
        · rw [hpush]
          exact ⟨hinv.mono hmade hlater, hidle⟩
        · rw [hpush]
          refine ⟨inv_register (hinv.mono hmade hlater) ?_ ?_ ?_, hidle⟩
          · exact hputs _ _ ⟨fields, result, interaction, rfl, rfl, hresolved, hresult, htruthy, hinteraction, rfl, hqueue⟩
          · exact fun y r hr hid => hfresh r.requestId y (by rw [hid]; rfl) (hinv.kept_made y r hr)
          · intro hs
            obtain ⟨⟨rid, y⟩, hp, hid⟩ := List.mem_map.1 hs
            exact absurd (hinv.started_made _ hp) (hfresh rid y (congrArg some hid.symm))
      split
      · exact ⟨hpush.1.quiet (quiet_emit rfl), hpush.2⟩
      · exact hpush
  · exact ⟨hsame, hactive⟩

end Events

/-! ## What a run keeps -/

theorem made_of_puts {es : List NativeEvent} {n : ℕ} {ev : NativeEvent} {rid x : String} (hev : es[n]? = some ev)
    (h : Puts (after es n) ev rid x) : Made es (n + 1) rid x :=
  ⟨n, Nat.lt_succ_self n, ev, hev, h⟩

theorem requestId_of_puts {ev : NativeEvent} {rid x : String} (h : Puts g ev rid x) : ev.requestId = some rid := by
  cases ev with
  | command payload e =>
    obtain ⟨request, hcalled, -, rfl, -⟩ := h
    exact (called_eq_some hcalled).1
  | request payload e =>
    obtain ⟨fields, result, interaction, rfl, rfl, -⟩ := h
    rfl
  | welcome role => cases h
  | started i => cases h

/-- the n-th event's request has put nothing into a queue before -/
theorem not_made {es : List NativeEvent} (hids : (es.filterMap NativeEvent.requestId).Nodup) {n : ℕ} {ev : NativeEvent}
    {rid x : String} (hev : es[n]? = some ev) (hid : ev.requestId = some rid) : ¬ Made es n rid x := by
  rintro ⟨k, hk, ev', hev', hputs⟩
  have hpair := List.pairwise_filterMap.1 hids
  obtain ⟨hlen', rfl⟩ := List.getElem?_eq_some_iff.1 hev'
  obtain ⟨hlen, rfl⟩ := List.getElem?_eq_some_iff.1 hev
  exact List.pairwise_iff_getElem.1 hpair k n hlen' hlen hk rid (requestId_of_puts hputs) rid hid rfl

theorem inv_after {es : List NativeEvent} (hids : (es.filterMap NativeEvent.requestId).Nodup)
    (hown : ∀ n, StartsOwn es n) (n : ℕ) :
    Inv (Made es n) (StartsFrom es n) (after es n) ∧ (after es n).activeNativeCommand = none := by
  induction n with
  | zero => exact ⟨inv_init, rfl⟩
  | succ n ih =>
    obtain ⟨h, hactive⟩ := ih
    have hmade : ∀ rid x, Made es n rid x → Made es (n + 1) rid x :=
      fun rid x ⟨k, hk, hmade⟩ => ⟨k, Nat.lt_succ_of_lt hk, hmade⟩
    have hlater : ∀ x, StartsFrom es (n + 1) x → StartsFrom es n x :=
      fun x ⟨k, hk, hstarts⟩ => ⟨k, Nat.le_of_succ_le hk, hstarts⟩
    cases hev : es[n]? with
    | none =>
      rw [after, reached_end hev]
      exact ⟨h.mono hmade hlater, hactive⟩
    | some ev =>
      rw [after, reached_succ hev]
      have hstarts : ∀ i ∈ ev.starts (after es n), StartsFrom es n i.text :=
        fun i hi => ⟨n, le_rfl, ev, hev, List.mem_map_of_mem hi⟩
      have hputs : ∀ rid x, Puts (after es n) ev rid x → Made es (n + 1) rid x := fun rid x => made_of_puts hev
      cases ev with
      | welcome role => exact ⟨(h.mono hmade hlater).quiet ⟨rfl, rfl, rfl⟩, hactive⟩
      | command payload e =>
        refine inv_command h hactive hmade hlater hstarts hputs ?_ ?_
        · exact fun request x hcalled => not_made hids hev (called_eq_some hcalled).1
        · exact fun request hcalled hname => hown n payload e request hev hcalled hname
      | request payload e =>
        exact inv_request h hactive hmade hlater hstarts hputs fun rid x hid => not_made hids hev hid
      | started i =>
        obtain ⟨hinv, hidle⟩ := inv_idle_starts (l := [i]) h hstarts hactive
        exact ⟨hinv.mono hmade hlater, hidle⟩

/-- **Which replays report one start per request.** In every run of commands, requests and starts whose request ids
differ, in which each replay of a command starts no interaction that is not kept for a request, or only the one that is
its handler's result, which does not start again: no request is reported as started twice, and each one for the
interaction it put into its Sim's queue. -/
theorem one_start (es : List NativeEvent) (hids : (es.filterMap NativeEvent.requestId).Nodup)
    (hown : ∀ n, StartsOwn es n) (n : ℕ) : OneStart es n :=
  ⟨(inv_after hids hown n).1.once, (inv_after hids hown n).1.started_made⟩

/-- a client's choice in the pie menu of Sim 77; the handler names the interaction 902 and puts it into the queue -/
def select (starts : List Interaction) : List NativeEvent :=
  [.welcome (some .host),
    .command (.obj [("request_id", .str "req-1"), ("player_id", .str "p2"), ("sim_id", .str "77"),
        ("command", .obj [("name", .str "interactions.select"), ("args", .arr [.int 0, .int 5])])])
      ⟨.ok true, .ok (), .ok true, [], starts, .ok ⟨true, some ⟨some 902⟩⟩, [⟨some 902⟩], .ok ()⟩,
    .started ⟨some 903⟩]

theorem one_start_select : OneStart (select [⟨some 902⟩]) 3 := by
  refine one_start _ (by decide +kernel) ?_ 3
  intro n payload e request hev hcalled _
  match n with
  | 0 => cases hev
  | 1 =>
    cases hev
    refine Or.inr ⟨⟨some 902⟩, by decide +kernel, ⟨_, rfl, rfl, rfl, by decide, by decide +kernel⟩, ?_⟩
    rintro ⟨k, hk, ev, hev, hstarts⟩
    match k, hk with
    | 2, _ =>
      cases hev
      exact absurd hstarts (by decide)
    | k + 3, _ => cases hev
  | 2 => cases hev
  | n + 3 => cases hev

/-- an interaction of another Sim starts before the chosen one, and both are reported for the one request -/
theorem two_starts : ((select [⟨some 901⟩, ⟨some 902⟩]).filterMap NativeEvent.requestId).Nodup ∧
    starts (after (select [⟨some 901⟩, ⟨some 902⟩]) 2) = [("req-1", "901"), ("req-1", "902")] ∧
    ¬ OneStart (select [⟨some 901⟩, ⟨some 902⟩]) 2 := by
  refine ⟨by decide +kernel, by decide +kernel, ?_⟩
  intro h
  exact absurd h.1 (by decide +kernel)

end NativeCommands

end KerMP.Game
