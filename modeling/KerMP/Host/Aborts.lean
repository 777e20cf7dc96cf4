/-
Who hears of an abort (`travel.abort` in `_on_game_event` and `_on_network_message` of both runtimes).

A game that cannot travel emits `travel.abort`. The host's runtime aborts the transaction and broadcasts to the peers, but
does not tell the host's own game; the client's runtime forwards the event types it lists, and `travel.abort` is not
among them.

Results:
- `aborts_lost`: in no run is an abort handed to the host's game, so it never reaches everybody; and an abort that a
  client's game emits changes nothing at all.
- `host_abort_is_one_sided`: the host's game gives a travel up; the client's game hears of it, the host's does not.
-/
import KerMP.Client
import KerMP.Host.Outcome

namespace KerMP

open Py Coop
open Coro hiding pure get modify

/-! ## Being told -/

/-- the client's game has been handed an abort of this epoch -/
def Client.Told (c : Client) (epoch : ℤ) : Prop :=
  ∃ payload, .bridge true .travelAbort payload ∈ c.log ∧ payload.get "epoch" = .ok (.int epoch)

namespace Host

/-- the host's game has been handed an abort of this epoch -/
def Told (h : Host) (epoch : ℤ) : Prop :=
  ∃ payload, .bridge true .travelAbort payload ∈ h.log ∧ payload.get "epoch" = .ok (.int epoch)

/-- the travel of this epoch is aborted, and every game knows -/
structure AbortReaches (h : Host) (clients : List Client) (epoch : ℤ) : Prop where
  aborted : ∃ t, h.session.travel.current = some t ∧ t.epoch = epoch ∧ t.phase = .aborted
  host : Told h epoch
  clients : ∀ c ∈ clients, c.Told epoch

/-! ## What the host's game is never told -/

/-- an abort handed to the host's game -/
def Out.tellsAbort : Out → Bool
  | .bridge _ .travelAbort _ => true
  | _ => false

/-- a step that tells the host's game of no abort -/
def Untelling (h h' : Host) : Prop := ∀ o ∈ h'.log, o ∈ h.log ∨ o.tellsAbort = false

theorem untelling_refl (h : Host) : Untelling h h := fun _ ho => Or.inl ho

theorem untelling_note {o : Out} (ho : o.tellsAbort = false) (h : Host) : Untelling h (h.note o) := by
  intro x hx
  rcases List.mem_cons.1 hx with rfl | hx
  · exact Or.inr ho
  · exact Or.inl hx

theorem tellsAbort_of_topic {o : Out} (ho : o.topic ≠ .travel) : o.tellsAbort = false := by
  cases o with
  | bridge delivered type payload =>
    cases type with
    | travelAbort => exact absurd rfl ho
    | _ => rfl
  | _ => rfl

theorem tellsAbort_of_early {o : Out} (ho : o.early = true) : o.tellsAbort = false := by
  cases o with
  | bridge delivered type payload =>
    cases type with
    | travelAbort => cases ho
    | _ => rfl
  | _ => rfl

/-- the steps about anything but travels -/
def homely : List Topic :=
  [.session, .member, .readiness, .commit, .resume, .lock, .build, .apply, .request, .status, .view, .clock]

theorem untelling_of_on {h h' : Host} (hon : On homely h h') : Untelling h h' := by
  obtain ⟨l, hl, d⟩ := hon
  obtain ⟨os, hlog, htopic⟩ := d.log
  intro o ho
  rw [hlog] at ho
  rcases List.mem_append.1 ho with hos | hold
  · refine Or.inr (tellsAbort_of_topic ?_)
    rw [htopic o hos]
    exact ne_of_mem_of_not_mem hl (by decide)
  · exact Or.inl hold

theorem untelling_of_early {h h' : Host} (he : Early h h') : Untelling h h' := by
  rcases he with hon | d | ⟨o, ho, rfl⟩
  · exact untelling_of_on (hon.mono (by decide))
  · have hlog : h'.log = h.log := by cases d; rfl
    exact fun o ho => Or.inl (hlog ▸ ho)
  · exact untelling_note (tellsAbort_of_early ho) h

theorem untelling_travelAbort (payload : Json) (reason : String) : Guar Untelling (travelAbort payload reason) := by
  have hbroadcast : ∀ payload, Guar Untelling (broadcastPeers .travelAbort payload) := by
    refine guar_broadcastPeers_of (fun _ _ hon => untelling_of_on (hon.mono (by decide))) ?_ ?_
    · exact fun h p seq travel => untelling_note rfl h
    · rintro h h' (rfl | ⟨seq, rfl⟩ | ⟨player, conn, env, -, rfl⟩)
      · exact untelling_refl h'
      · exact untelling_note rfl h
      · exact untelling_note rfl h
  refine guar_bind (guar_get untelling_refl) fun h => guar_ifSome _ fun txn => guar_bind (guar_ofExcept _) fun epoch => ?_
  split_ifs
  · refine guar_bind (guar_tryCall fun h => ?_) fun _ => guar_bind (guar_ofExcept _) fun r => hbroadcast _
    dsimp only
    cases h.session.travel.abort txn.txnId with
    | error e => exact untelling_refl h
    | ok c => exact untelling_refl h
  · exact guar_pure ()

/-! ## Runs -/

/-- the host's game has been told of no abort -/
def Untold (h : Host) : Prop := ∀ o ∈ h.log, o.tellsAbort = false

abbrev Silence : Discipline Host Empty := Discipline.plain Untold fun _ _ => True

theorem silence_lawful : Silence.Lawful := Discipline.plain_lawful (fun _ => trivial) fun _ _ _ _ _ => trivial

theorem Untelling.untold {h h' : Host} (hu : Untelling h h') (hi : Untold h) : Untold h' := by
  intro o ho
  rcases hu o ho with hold | hnew
  · exact hi o hold
  · exact hnew

theorem settles_untelling {α : Type} {p : HostM α} (hp : Guar Untelling p) :
    Settles Silence (fun m _ => m.elim) p :=
  settles_of_guar silence_lawful (fun _ _ hu hi => ⟨trivial, fun m => m.elim, fun m => m.elim, hu.untold hi⟩) hp

theorem pass_silence : Pass Silence (fun m _ => m.elim) homely where
  lawful := silence_lawful
  session := by decide
  member := by decide
  lock := by decide
  clock := by decide
  readiness := by decide
  step := fun l _ _ hl d hi => ⟨trivial, fun m => m.elim, fun m => m.elim, (untelling_of_on ⟨l, hl, d⟩).untold hi⟩
  stable := fun m => m.elim
  travel := Or.inr ⟨fun payload player =>
      settles_untelling ((early_startTravel payload player).mono fun _ _ => untelling_of_early),
    fun payload => settles_untelling ((early_gameViewBatch payload).mono fun _ _ => untelling_of_early)⟩
  ready := Or.inr fun player payload =>
    settles_untelling ((early_travelReady player payload).mono fun _ _ => untelling_of_early)
  zoneReady := Or.inl (by decide)
  build := Or.inl (by decide)
  request := Or.inl ⟨by decide, by decide⟩
  status := Or.inl (by decide)
  view := Or.inl (by decide)
  abort := Or.inr fun payload reason => settles_untelling (untelling_travelAbort payload reason)

theorem untold (playerId displayName sessionId : String) (manifest : CompatibilityManifest) (nativeRequired : Bool)
    (commands : NetworkedCommandRouter) (acts : List HostAct) :
    Untold (runFrom (started playerId displayName sessionId manifest nativeRequired commands) acts).state := by
  have h₀ : Untold (init playerId displayName sessionId manifest nativeRequired commands) := by simp [Untold, init]
  exact (pass_silence.run (Pool.inv_init h₀ fun m => m.elim) acts).2.state

/-- **No abort reaches everybody.** In no run does an abort of any epoch reach the host's game, whoever asked for it and
whatever the clients have been told; and the abort of a client's game is not even sent. -/
theorem aborts_lost (playerId displayName sessionId : String) (manifest : CompatibilityManifest) (nativeRequired : Bool)
    (commands : NetworkedCommandRouter) (acts : List HostAct) (clients : List Client) (epoch : ℤ) :
    ¬ AbortReaches (runFrom (started playerId displayName sessionId manifest nativeRequired commands) acts).state
        clients epoch ∧
      ∀ (sha256 : Base64.Bytes → String) (c : Client.Run) (payload : Json) (answers : List Client.Answer),
        Client.runFrom sha256 c [.arrive (.game ⟨.travelAbort, payload⟩) answers] = c := by
  refine ⟨fun hreaches => ?_, fun sha256 c payload answers => rfl⟩
  obtain ⟨told, hmem, -⟩ := hreaches.host
  have hnot := untold playerId displayName sessionId manifest nativeRequired commands acts _ hmem
  cases hnot

/-- what the host has written on a connection, oldest first -/
def received (h : Host) (conn : ℕ) : List Envelope :=
  (h.log.filterMap fun
    | .wrote _ c env => if c = conn then some env else none
    | _ => none).reverse

/-- a client that has handled these envelopes of the host -/
def listened (player : String) (envs : List Envelope) : Client :=
  (Client.runFrom (fun _ => "") ⟨Client.init player ∅, []⟩ (envs.map fun env => .arrive (.net (.ok env)) [])).state

/-- the travel of `travelHere` is proposed, and the host's game gives it up -/
def hostGivesUp : Run := runFrom lanHost (travelHere.take 4 ++ [plays .travelAbort (.obj [("epoch", .int 1)]), goesOn])

/-- everything is delivered, the travel is aborted and the client's game knows, the host's does not -/
theorem host_abort_is_one_sided : hostGivesUp.tasks.length = 0 ∧
    (hostGivesUp.state.session.travel.current.map fun t => (t.epoch, t.phase)) = some (1, .aborted) ∧
    (listened "alice" (received hostGivesUp.state 1)).Told 1 ∧
    ¬ AbortReaches hostGivesUp.state [listened "alice" (received hostGivesUp.state 1)] 1 := by
  have hclient : .bridge true .travelAbort (.obj [("txn_id", .str (uuid4 1)), ("epoch", .int 1),
      ("reason", .str "game_abort")]) ∈ (listened "alice" (received hostGivesUp.state 1)).log := by decide +kernel
  have hhost : ∀ o ∈ hostGivesUp.state.log, o.tellsAbort = false := by decide +kernel
  refine ⟨by decide +kernel, by decide +kernel, ⟨_, hclient, rfl⟩, fun hreaches => ?_⟩
  obtain ⟨payload, hmem, -⟩ := hreaches.host
  have hnot := hhost _ hmem
  cases hnot

end Host

end KerMP
