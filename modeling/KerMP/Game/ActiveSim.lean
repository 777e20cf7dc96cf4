/-
The active Sim the game reports to its sidecar (`_publish_active_sim_if_ready` in `kermp_mod/hooks.py`).

After a change of the active Sim, a zone spin-up or a sidecar's welcome, the game sends its roster and, when the roster
has the active Sim, selects it. A Sim that was published last is not selected again. The marker of the last published Sim
is set before the selection is sent, whether it gets through or not, and a new connection leaves it as it is; only a
teardown of the hooks clears it.

What the engine and the socket answer comes with the call (`Publication`); the log keeps, newest first, what was given to
the bridge and where a new connection was made.

- `publish`: the function. `step`: the events around it.
- `marked_step`: the marker names the Sim of the last selection, sent or not.
- `reported_sim_was_sent`: a Sim that is reported has been selected on the current connection, after any other one, in
  every run in which no call relies on a selection that failed or was made on an earlier connection.
- `reported_but_not_sent`: a failed selection, and a new connection, after which the game reports a Sim it has not sent.
-/
import KerMP.Game.TravelHooks
import KerMP.Lib.Prefixes

namespace KerMP.Game

open Py Prefixes

namespace ActiveSim

/-! ## State and events -/

/-- an entry of `enumerate_sims()` -/
structure LiveSim where
  simId : String
  name : String
deriving DecidableEq

/-- what a call finds: the live roster, `_active_sim_id()`, and what becomes of its two messages (sent, not connected,
or a fault of the socket) -/
structure Publication where
  sims : List LiveSim
  activeId : Option String
  state : Except Exc Bool
  select : Except Exc Bool

/-- what was given to the bridge, and whether it got through; and the new connections -/
inductive Entry where
  | state (sims : List LiveSim) (activeId : Option String) (sent : Bool)
  | select (simId : String) (sent : Bool)
  | connected
deriving DecidableEq

structure SimHooks where
  /-- `_sidecar_role`; none: it is neither of the two -/
  sidecarRole : Option Role
  lastPublishedActiveSimId : Option String
  localActiveSimId : Option String
  /-- newest first -/
  log : List Entry

def init : SimHooks := ⟨none, none, none, []⟩

/-- the bridge took the message -/
def through (r : Except Exc Bool) : Bool :=
  match r with
  | .ok sent => sent
  | .error _ => false

/-- `_publish_active_sim_if_ready()` -/
def publish (g : SimHooks) (e : Publication) : Except Exc Bool × SimHooks :=
  if g.sidecarRole = none then (.ok false, g)
  else
    let g := { g with localActiveSimId := e.activeId, log := .state e.sims e.activeId (through e.state) :: g.log }
    match e.state, e.activeId with
    | .error x, _ => (.error x, g)
    | .ok _, none => (.ok false, g)
    | .ok _, some a =>
      if a = "" ∨ a ∉ e.sims.map (·.simId) then (.ok false, g)
      else if g.lastPublishedActiveSimId = some a then (.ok true, g)
      else
        -- the marker is set before it is known whether the message gets through
        (e.select, { g with lastPublishedActiveSimId := some a, log := .select a (through e.select) :: g.log })

inductive SimEvent where
  | publish (e : Publication)
  /-- the sidecar's welcome names the role; a fault of the publication is logged -/
  | welcome (role : Option Role) (e : Publication)
  /-- the bridge has a new connection to the sidecar -/
  | reconnect

/-- the call of an event, with the hooks it finds -/
def SimEvent.call (g : SimHooks) : SimEvent → Option (SimHooks × Publication)
  | .publish e => some (g, e)
  | .welcome role e => some ({ g with sidecarRole := role }, e)
  | .reconnect => none

def step (g : SimHooks) (ev : SimEvent) : SimHooks :=
  match ev.call g with
  | some (g, e) => (publish g e).2
  | none => { g with log := .connected :: g.log }

/-- the hooks after the first n events -/
def after (es : List SimEvent) (n : ℕ) : SimHooks := reached step init es n

/-- the n-th event calls, and the call returns true for the Sim -/
def Reports (es : List SimEvent) (n : ℕ) (simId : Option String) : Prop :=
  ∃ ev g e, es[n]? = some ev ∧ ev.call (after es n) = some (g, e) ∧ (publish g e).1 = .ok true ∧ e.activeId = simId

/-! ## What was selected -/

/-- the Sim of the last selection that got through on the current connection -/
def delivered : List Entry → Option String
  | .select a sent :: log => if sent then some a else delivered log
  | .state _ _ _ :: log => delivered log
  | .connected :: _ | [] => none

/-- the Sim of the last selection, on whatever connection -/
def marked : List Entry → Option String
  | .select a _ :: _ => some a
  | .state _ _ _ :: log | .connected :: log => marked log
  | [] => none

/-- the last selection got through, and the connection is the one it was made on -/
def confirmed : List Entry → Bool
  | .select _ sent :: _ => sent
  | .state _ _ _ :: log => confirmed log
  | .connected :: _ | [] => false

theorem delivered_of_confirmed {log : List Entry} (h : confirmed log = true) : delivered log = marked log := by
  induction log with
  | nil => cases h
  | cons entry log ih =>
    cases entry with
    | state sims a sent => exact ih h
    | select a sent =>
      obtain rfl : sent = true := h
      rfl
    | connected => cases h

/-- what a call does: it stops, or finds the Sim marked, or selects it -/
theorem publish_cases (g : SimHooks) (e : Publication) :
    ((publish g e).1 ≠ .ok true ∧ marked (publish g e).2.log = marked g.log ∧
        (publish g e).2.lastPublishedActiveSimId = g.lastPublishedActiveSimId) ∨
      ∃ a, e.activeId = some a ∧
        ((g.lastPublishedActiveSimId = some a ∧ (publish g e).2.lastPublishedActiveSimId = some a ∧
            (publish g e).2.log = .state e.sims e.activeId (through e.state) :: g.log) ∨
          ((publish g e).1 = e.select ∧ (publish g e).2.lastPublishedActiveSimId = some a ∧ (publish g e).2.log =
            .select a (through e.select) :: .state e.sims e.activeId (through e.state) :: g.log)) := by
  unfold publish
  by_cases hrole : g.sidecarRole = none
  · simp [hrole]
  rw [if_neg hrole]
  cases hstate : e.state with
  | error x => simp [marked]
  | ok sent =>
    cases ha : e.activeId with
    | none => simp [marked]
    | some a =>
      dsimp only
      split_ifs with hready hlast
      · simp [marked]
      · exact Or.inr ⟨a, rfl, Or.inl ⟨hlast, hlast, rfl⟩⟩
      · exact Or.inr ⟨a, rfl, Or.inr ⟨rfl, rfl, rfl⟩⟩

theorem marked_publish {g : SimHooks} (h : marked g.log = g.lastPublishedActiveSimId) (e : Publication) :
    marked (publish g e).2.log = (publish g e).2.lastPublishedActiveSimId := by
  rcases publish_cases g e with ⟨-, hlog, hlast⟩ | ⟨a, -, ⟨hlast, hlast', hlog⟩ | ⟨-, hlast', hlog⟩⟩
  · rw [hlog, hlast, h]
  · rw [hlog, hlast', ← hlast]
    exact h
  · rw [hlog, hlast']
    rfl

/-- the marker names the Sim of the last selection -/
theorem marked_step (g : SimHooks) (ev : SimEvent) (h : marked g.log = g.lastPublishedActiveSimId) :
    marked (step g ev).log = (step g ev).lastPublishedActiveSimId := by
  cases ev with
  | publish e => exact marked_publish h e
  | welcome role e => exact marked_publish (g := { g with sidecarRole := role }) h e
  | reconnect => exact h

theorem marked_after (es : List SimEvent) (n : ℕ) :
    marked (after es n).log = (after es n).lastPublishedActiveSimId :=
  holds_reached (P := fun g : SimHooks => marked g.log = g.lastPublishedActiveSimId) rfl
    (fun g ev hg (_ : True) => marked_step g ev hg) (fun _ _ _ => trivial) n

/-! ## Runs -/

/-- whenever a call returns true, a selection of its active Sim has got through on the current connection, after any
selection of another Sim -/
def SentWhenReported (es : List SimEvent) : Prop :=
  ∀ n simId, Reports es n simId → ∃ a, simId = some a ∧ delivered (after es (n + 1)).log = some a

/-- a call that finds its Sim marked as published relies on a selection that got through on this connection -/
def RelyingRight (g : SimHooks) (ev : SimEvent) : Prop :=
  match ev.call g with
  | some (g, e) => e.activeId = g.lastPublishedActiveSimId → e.activeId = none ∨ confirmed g.log = true
  | none => True

instance (g : SimHooks) (ev : SimEvent) : Decidable (RelyingRight g ev) := by
  unfold RelyingRight
  split <;> infer_instance

/-- **A reported Sim has been sent.** In every run in which no call relies on a selection that failed or that was made on
an earlier connection: whenever a call returns true, a selection of its active Sim has got through on the current
connection, after any selection of another Sim. -/
theorem reported_sim_was_sent (es : List SimEvent) (hrun : ∀ n ev, es[n]? = some ev → RelyingRight (after es n) ev) :
    SentWhenReported es := by
  rintro n _ ⟨ev, g, e, hev, hcall, htrue, rfl⟩
  have hright := hrun n ev hev
  rw [RelyingRight, hcall] at hright
  have hmarked : marked g.log = g.lastPublishedActiveSimId := by
    have hafter := marked_after es n
    cases ev with
    | publish e => cases hcall; exact hafter
    | welcome role e => cases hcall; exact hafter
    | reconnect => cases hcall
  have hstep : after es (n + 1) = (publish g e).2 := by
    rw [after, reached_succ hev, step, show reached step init es n = after es n from rfl, hcall]
  rw [hstep]
  rcases publish_cases g e with ⟨hfalse, -⟩ | ⟨a, ha, ⟨hlast, -, hlog⟩ | ⟨hselect, -, hlog⟩⟩
  · exact absurd htrue hfalse
  · -- the Sim is marked: the selection the call relies on got through
    rcases hright (ha.trans hlast.symm) with hnone | hconfirmed
    · rw [ha] at hnone
      cases hnone
    · refine ⟨a, ha, ?_⟩
      rw [hlog, delivered, delivered_of_confirmed hconfirmed, hmarked, hlast]
  · refine ⟨a, ha, ?_⟩
    rw [hselect] at htrue
    rw [hlog, htrue]
    rfl

/-- the roster has Sim 77, which is active; its selection has the given outcome -/
def finds77 (select : Except Exc Bool) : Publication := ⟨[⟨"77", "Active Sim"⟩], some "77", .ok true, select⟩

theorem reported_sim_was_sent_twice :
    SentWhenReported [.welcome (some .client) (finds77 (.ok true)), .publish (finds77 (.ok true))] :=
  reported_sim_was_sent _ fun n => by
    rcases n with _ | _ | n
    · rintro ev ⟨⟩
      decide +kernel
    · rintro ev ⟨⟩
      decide +kernel
    · rintro ev ⟨⟩

/-- after a selection that did not get through, and on a new connection, the game reports a Sim it has not sent -/
theorem reported_but_not_sent :
    ¬ SentWhenReported [.welcome (some .client) (finds77 (.ok false)), .publish (finds77 (.ok true))] ∧
      ¬ SentWhenReported [.welcome (some .client) (finds77 (.ok true)), .reconnect,
        .welcome (some .client) (finds77 (.ok true))] := by
  constructor
  · intro h
    obtain ⟨a, -, hsent⟩ := h 1 (some "77") ⟨_, _, _, rfl, rfl, rfl, rfl⟩
    cases hsent
  · intro h
    obtain ⟨a, -, hsent⟩ := h 2 (some "77") ⟨_, _, _, rfl, rfl, rfl, rfl⟩
    cases hsent

end ActiveSim

end KerMP.Game
