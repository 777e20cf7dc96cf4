/-
A client that keeps up with the host (`KerMPHost` and `ClientRuntime`).

- `Attends`: the player has joined and stays, no broadcast of a type was cut short since, and the player's client has
  handled what was written to its connection.
- `Attends.handled`: after a run in turn, when no handler is suspended, such a client has handled the messages of this
  type that were announced since its player joined, and before them only such that were announced earlier; if the host
  sends this type in broadcasts only.
-/
import KerMP.AfterTravel
import KerMP.Host.Told

namespace KerMP.Host

open Py Coop

/-- the player has joined, `newer` is the log since, and its client has kept up -/
def Attends (type : MessageType) (sha256 : Base64.Bytes → String) (r : Run) (player : String) (newer : List Out)
    (c : Client.Run) : Prop :=
  ∃ conn older disk acts, r.state.log = newer ++ .joined player conn :: older ∧
    (∀ travel, .left player travel ∉ newer) ∧ (∀ n, .cut type n ∉ newer) ∧
    c = Client.runFrom sha256 ⟨Client.init player disk, []⟩ acts ∧
    Linked conn r.state.log (Client.handled sha256 ⟨Client.init player disk, []⟩ acts)

/-- the messages of a type other than the welcome -/
theorem Linked.payloads {conn : ℕ} {log : List Out} {messages : List (MessageType × Json)}
    (h : Linked conn log messages) {type : MessageType} (ht : type ≠ .welcome) :
    payloadsOf type messages = payloadsOf type (writtenTo conn log) := by
  obtain ⟨w, hw⟩ := h
  have hwelcome : payloadsOf type [(.welcome, w)] = [] := List.filterMap_eq_nil_iff.2 fun m hm => by
    rw [List.mem_singleton.1 hm]
    exact if_neg ht.symm
  have happend : payloadsOf type (messages ++ [(.welcome, w)]) =
      payloadsOf type messages ++ payloadsOf type [(.welcome, w)] := List.filterMap_append
  rw [hw, happend, hwelcome, List.append_nil]

variable {type : MessageType} {Says : Json → Prop} {sha256 : Base64.Bytes → String}

/-- **What a client has been told.** -/
theorem Attends.handled (playerId displayName sessionId : String) (manifest : CompatibilityManifest)
    (nativeRequired : Bool) (commands : NetworkedCommandRouter) {acts : List HostAct}
    (hby : ∀ o ∈ (runFrom (started playerId displayName sessionId manifest nativeRequired commands) acts).state.log,
      o.byBroadcast type Says)
    (hturn : RunInTurn (started playerId displayName sessionId manifest nativeRequired commands) acts)
    (hquiet : (runFrom (started playerId displayName sessionId manifest nativeRequired commands) acts).tasks = [])
    (ht : type ≠ .welcome) {player : String} {newer : List Out} {c : Client.Run}
    (h : Attends type sha256 (runFrom (started playerId displayName sessionId manifest nativeRequired commands) acts)
      player newer c) :
    ∃ disk clientActs older since before, c = Client.runFrom sha256 ⟨Client.init player disk, []⟩ clientActs ∧
      (runFrom (started playerId displayName sessionId manifest nativeRequired commands) acts).state.log =
        newer ++ older ∧
      payloadsOf type (Client.handled sha256 ⟨Client.init player disk, []⟩ clientActs) = since ++ before ∧
      List.Forall₂ (fun payload a => SameContent a payload ∧ Says a) since
        ((outgoing (only type) newer).map Announcement.payload) ∧
      ∀ payload ∈ since ++ before, ∃ a ∈ outgoing (only type)
          (runFrom (started playerId displayName sessionId manifest nativeRequired commands) acts).state.log,
        SameContent a.payload payload := by
  obtain ⟨conn, older, disk, clientActs, hlog, hstays, hcut, rfl, hlinked⟩ := h
  obtain ⟨since, before, hwritten, hsince⟩ := told_since playerId displayName sessionId manifest nativeRequired commands
    hby hturn hquiet hlog hstays hcut
  refine ⟨disk, clientActs, _, since, before, rfl, hlog, (hlinked.payloads ht).trans hwritten, hsince, ?_⟩
  intro payload hpayload
  rw [← hwritten] at hpayload
  exact told_announced playerId displayName sessionId manifest nativeRequired commands hby hpayload

/-! ## Clients of the runs that are looked at -/

/-- the client of a player when all that was written to its connection has arrived -/
def clientOf (player : String) (conn : ℕ) (acts : List HostAct) : Client.Run :=
  Client.runFrom (fun _ => "") ⟨Client.init player ∅, []⟩ (arrivals conn (runFrom lanHost acts).state.log)

/-- nobody leaves, and no broadcast is cut short -/
def Out.undisturbed : Out → Bool
  | .left _ _ | .cut _ _ => false
  | _ => true

theorem attends_clientOf {player : String} {conn : ℕ} {acts : List HostAct} {newer older : List Out} {w : Json}
    (hlog : (runFrom lanHost acts).state.log = newer ++ .joined player conn :: older)
    (hundisturbed : ∀ o ∈ newer, o.undisturbed = true)
    (hw : writtenTo conn (runFrom lanHost acts).state.log =
      Client.handled (fun _ => "") ⟨Client.init player ∅, []⟩ (arrivals conn (runFrom lanHost acts).state.log) ++
        [(.welcome, w)]) :
    Attends type (fun _ => "") (runFrom lanHost acts) player newer (clientOf player conn acts) := by
  have hstays : ∀ travel, .left player travel ∉ newer := fun travel hmem => nomatch hundisturbed _ hmem
  have hcut : ∀ n, .cut type n ∉ newer := fun n hmem => nomatch hundisturbed _ hmem
  exact ⟨conn, older, ∅, _, hlog, hstays, hcut, rfl, w, hw⟩

end KerMP.Host
