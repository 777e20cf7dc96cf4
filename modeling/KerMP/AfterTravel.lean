/-
View updates after a travel (`game.raw_message`, `travel.propose` and `travel.view_batch` of
`ClientRuntime._on_network_message`, over `HostRuntime._on_game_event`).

The client remembers the epoch of the last travel it was proposed, and from then on takes no raw message without an
epoch. The host stamps a raw message only while a travel is under way. So the first travel is the last time a client
takes an update of its host's that belongs to no travel.

- `arrival_iff`: a client hands an unstamped raw message to its game exactly when it has never taken up a proposal, is
  not buffering, and has not taken a later update.
- `travel_run`: which clients these are, after every run.
- `untravelled_iff`: in every run of the host, a client that has handled what was written to it hands a raw message that
  was broadcast outside a travel to its game if and only if no travel has ever been proposed to it and the message is
  newer than its last.
-/
import KerMP.Sequences
import KerMP.Host.Order
import KerMP.Host.Outcome
import KerMP.Host.Stamps

namespace KerMP

open Py

namespace Client

open Coop
open Coro hiding pure get modify

/-! ## Steps that leave the travel alone -/

/-- the same travel, and no start of buffering -/
def Unbuffered (c c' : Client) : Prop :=
  c'.travelEpoch = c.travelEpoch ∧ (c.bufferViewUpdates = false → c'.bufferViewUpdates = false)

theorem Unbuffered.refl (c : Client) : Unbuffered c c := ⟨rfl, id⟩

theorem Unbuffered.trans {a b c : Client} (h : Unbuffered a b) (h' : Unbuffered b c) : Unbuffered a c :=
  ⟨h'.1.trans h.1, h'.2 ∘ h.2⟩

theorem unbuffered_of_does {α : Type} {p : ClientM α} (hp : Guar (Does {.save, .build}) p) : Guar Unbuffered p :=
  hp.mono fun _ _ d => ⟨(d.view.resolve_left (by simp)).epoch, fun h => (d.view.resolve_left (by simp)).on.trans h⟩

theorem unbuffered_read : Guar Unbuffered (Coro.get : ClientM Client) := guar_get Unbuffered.refl

theorem unbuffered_bridgeSend (type : MessageType) (payload : Json) : Guar Unbuffered (bridgeSend type payload) :=
  guar_bind guar_askEnv fun _ => guar_modify fun _ => ⟨rfl, id⟩

theorem unbuffered_applyGameMessage (payload : Json) : Guar Unbuffered (applyGameMessage payload) :=
  guar_bind (guar_ofExcept _) fun _ => guar_bind (guar_modify fun _ => ⟨rfl, id⟩) fun _ =>
    guar_bind (guar_ofExcept _) fun _ => guar_bind (guar_modify fun _ => ⟨rfl, id⟩) fun _ => unbuffered_bridgeSend _ _

theorem unbuffered_applyAll (items : List Item) : Guar Unbuffered (applyAll items) := by
  induction items with
  | nil => exact guar_pure ()
  | cons item rest ih => exact guar_bind (unbuffered_applyGameMessage _) fun _ => ih

theorem unbuffered_finishLocalTravel : Guar Unbuffered finishLocalTravel :=
  guar_bind unbuffered_read fun _ => guar_bind (unbuffered_applyAll _) fun _ => guar_modify fun _ => ⟨rfl, fun _ => rfl⟩

theorem unbuffered_onResume (payload : Json) : Guar Unbuffered (onResume payload) := by
  refine guar_bind (guar_ofExcept _) fun epoch => guar_bind unbuffered_read fun c => ?_
  dsimp only
  split_ifs
  · exact guar_bind unbuffered_finishLocalTravel fun _ => unbuffered_bridgeSend _ _
  · exact unbuffered_bridgeSend _ _

theorem unbuffered_markLocalZoneLoaded (epoch : ℤ) : Guar Unbuffered (markLocalZoneLoaded epoch) := by
  refine guar_bind unbuffered_read fun c => ?_
  split_ifs
  · exact guar_pure ()
  · exact guar_bind (guar_modify fun _ => ⟨rfl, id⟩) fun _ => unbuffered_finishLocalTravel
  · exact guar_bind (guar_modify fun _ => ⟨rfl, id⟩) fun _ => guar_pure ()

theorem unbuffered_onRawMessage (payload : Json) : Guar Unbuffered (onRawMessage payload) := by
  refine guar_bind (guar_ofExcept _) fun sequence => guar_bind unbuffered_read fun c => ?_
  split_ifs
  · exact guar_pure ()
  split
  · exact unbuffered_bridgeSend _ _
  refine guar_bind (guar_ofExcept _) fun epoch => guar_bind (guar_ofExcept _) fun refusal => ?_
  rcases refusal with _ | reason
  · refine guar_bind (guar_modify fun _ => ⟨rfl, id⟩) fun _ => guar_bind unbuffered_read fun c => ?_
    split_ifs
    · exact unbuffered_bridgeSend _ _
    · exact guar_bind (guar_ofExcept _) fun item => guar_modify fun _ => ⟨rfl, id⟩
    · exact unbuffered_applyGameMessage _
  · exact unbuffered_bridgeSend _ _

/-- the messages that neither mark a batch nor propose a travel -/
theorem unbuffered_onNetworkMessage {env : Envelope} (hbatch : env.type ≠ .travelViewBatch)
    (hpropose : env.type ≠ .travelPropose) (sha256 : Base64.Bytes → String) :
    Guar Unbuffered (onNetworkMessage sha256 env) := by
  refine onNetworkMessage_view sha256 (fun _ => unbuffered_of_does) (fun _ => ?_) (fun h => absurd h hbatch)
    (fun h => absurd h hpropose) fun _ => ?_
  · exact guar_bind (unbuffered_onRawMessage _) fun _ => guar_pure _
  · exact guar_bind (unbuffered_onResume _) fun _ => guar_pure _

/-! ## At home and away -/

/-- no travel was ever taken up, and nothing is buffered -/
def Home (c : Client) : Prop := c.travelEpoch = 0 ∧ c.bufferViewUpdates = false

/-- a travel was taken up -/
def Away (c : Client) : Prop := 0 < c.travelEpoch

theorem Home.unbuffered {c c' : Client} (h : Home c) (hu : Unbuffered c c') : Home c' := ⟨hu.1.trans h.1, hu.2 h.2⟩

theorem Away.unbuffered {c c' : Client} (h : Away c) (hu : Unbuffered c c') : Away c' := by
  rw [Away, hu.1]
  exact h

/-- a property of the client between its segments -/
abbrev Staying (I : Client → Prop) : Discipline Client Empty := Discipline.plain I fun _ _ => True

theorem staying_lawful (I : Client → Prop) : (Staying I).Lawful :=
  Discipline.plain_lawful (fun _ => trivial) fun _ _ _ _ _ => trivial

/-- a part of a handler whose steps keep the property -/
theorem wp_staying {I : Client → Prop} {R : Client → Client → Prop} (hI : ∀ c c', I c → R c c' → I c') {α : Type}
    {p : ClientM α} (hp : Guar R p) {own : Set Empty} {c : Client} (hc : I c) :
    wp (Staying I) own p (fun _ _ c' => I c') c :=
  wp_mono (fun _ _ _ hr => hr.2.1) (wp_of_guar (staying_lawful I)
    (fun c c' hr hi => ⟨trivial, fun m => m.elim, fun m => m.elim, hI c c' hi hr⟩) hp hc)

/-- a proposal or a mark of a batch names a positive epoch -/
def Epochal (m : MessageType × Json) : Prop :=
  m.1 = .travelPropose ∨ m.1 = .travelViewBatch → ∃ e : ℤ, 0 < e ∧ ∀ dflt, intField m.2 "epoch" dflt = .ok e

theorem sameEpoch_onViewBatch (payload : Json) :
    Guar (fun c c' : Client => c'.travelEpoch = c.travelEpoch) (onViewBatch payload) := by
  have hsame : ∀ {α : Type} {p : ClientM α}, Guar Unbuffered p →
      Guar (fun c c' : Client => c'.travelEpoch = c.travelEpoch) p := fun hp => hp.mono fun _ _ h => h.1
  have hsend := hsame (unbuffered_bridgeSend .travelViewBatch payload)
  refine guar_bind (guar_ofExcept _) fun epoch => guar_bind (hsame unbuffered_read) fun c => ?_
  split_ifs
  · exact hsame (unbuffered_bridgeSend _ _)
  refine guar_bind (guar_ofExcept _) fun kind => ?_
  dsimp only
  split_ifs
  · exact guar_bind (guar_modify fun _ => rfl) fun _ => hsend
  · refine guar_bind (guar_bind (guar_modify fun _ => rfl) fun _ => guar_bind (hsame unbuffered_read) fun c => ?_)
      fun _ => hsend
    split_ifs
    · exact hsame unbuffered_finishLocalTravel
    · exact guar_pure ()
  · exact hsend

/-- at home the marks of a batch are those of another travel -/
theorem wp_onViewBatch_home {payload : Json} (hm : Epochal (.travelViewBatch, payload)) {own : Set Empty} {c : Client}
    (hc : Home c) : wp (Staying Home) own (onViewBatch payload) (fun _ _ c' => Home c') c := by
  obtain ⟨e, hpos, he⟩ := hm (Or.inr rfl)
  rw [onViewBatch]
  refine wp_ofExcept_bind (fun exc _ => hc) fun epoch hepoch => wp_read (staying_lawful Home) ?_
  rw [he] at hepoch
  cases hepoch
  rw [if_pos (by rw [hc.1]; exact hpos.ne')]
  exact wp_staying (R := Unbuffered) (fun _ _ => Home.unbuffered) (unbuffered_bridgeSend _ _) hc

/-- a proposal is taken up, or there is a travel already -/
theorem wp_onPropose_away {payload : Json} (hm : Epochal (.travelPropose, payload)) {own : Set Empty} {c : Client}
    (hc : Home c ∨ Away c) : wp (Staying Away) own (onPropose payload) (fun _ _ c' => Away c') c := by
  obtain ⟨e, hpos, he⟩ := hm (Or.inl rfl)
  rw [onPropose]
  refine wp_ofExcept_bind (fun exc h => by rw [he] at h; cases h) fun epoch hepoch => wp_read (staying_lawful Away) ?_
  rw [he] at hepoch
  cases hepoch
  split_ifs with hle
  · rcases hc with hhome | haway
    · rw [hhome.1] at hle
      exact absurd hle (not_le.2 hpos)
    · exact haway
  · refine wp_modify_bind (Discipline.may_plain.2 trivial) (Discipline.take_eq fun m => m.elim) ?_
    exact wp_staying (R := Unbuffered) (fun _ _ => Away.unbuffered) (unbuffered_bridgeSend _ _) hpos

theorem wp_message_home (sha256 : Base64.Bytes → String) {env : Envelope} (hm : Epochal (env.type, env.payload))
    (hpropose : env.type ≠ .travelPropose) {own : Set Empty} {c : Client} (hc : Home c) :
    wp (Staying Home) own (onNetworkMessage sha256 env) (fun _ _ c' => Home c') c := by
  by_cases hbatch : env.type = .travelViewBatch
  · rw [onNetworkMessage_viewBatch sha256 hbatch, wp_bind]
    rw [hbatch] at hm
    refine wp_mono ?_ (wp_onViewBatch_home hm hc)
    rintro (e | _) own' c' hc' <;> exact hc'
  · exact wp_staying (R := Unbuffered) (fun _ _ => Home.unbuffered)
      (unbuffered_onNetworkMessage hbatch hpropose sha256) hc

theorem wp_message_away (sha256 : Base64.Bytes → String) {env : Envelope} (hm : Epochal (env.type, env.payload))
    {own : Set Empty} {c : Client} (hc : Away c ∨ env.type = .travelPropose ∧ Home c) :
    wp (Staying Away) own (onNetworkMessage sha256 env) (fun _ _ c' => Away c') c := by
  by_cases hpropose : env.type = .travelPropose
  · rw [onNetworkMessage_propose sha256 hpropose, wp_bind]
    rw [hpropose] at hm
    refine wp_mono ?_ (wp_onPropose_away hm (hc.elim Or.inr fun h => Or.inl h.2))
    rintro (e | _) own' c' hc' <;> exact hc'
  have hc : Away c := hc.resolve_right fun h => hpropose h.1
  by_cases hbatch : env.type = .travelViewBatch
  · rw [onNetworkMessage_viewBatch sha256 hbatch]
    refine wp_staying (I := Away) (R := fun c c' => c'.travelEpoch = c.travelEpoch) (fun _ _ h hr => ?_)
      (guar_bind (sameEpoch_onViewBatch _) fun _ => guar_pure _) hc
    rw [Away, hr]
    exact h
  · exact wp_staying (R := Unbuffered) (fun _ _ => Away.unbuffered)
      (unbuffered_onNetworkMessage hbatch hpropose sha256) hc

/-! ## After the first await -/

theorem unbuffered_later_onNetworkMessage (sha256 : Base64.Bytes → String) (env : Envelope) :
    Later Unbuffered (onNetworkMessage sha256 env) := by
  have hsend := unbuffered_bridgeSend .travelViewBatch env.payload
  refine onNetworkMessage_view sha256 (fun _ hp => later_of_guar (unbuffered_of_does hp)) (fun _ => ?_) (fun _ => ?_)
    (fun _ => ?_) fun _ => ?_
  · exact later_of_guar (guar_bind (unbuffered_onRawMessage _) fun _ => guar_pure _)
  · refine later_bind (later_ofExcept fun epoch => later_get fun c => ?_) fun _ => guar_pure _
    split_ifs
    · exact later_of_guar (unbuffered_bridgeSend _ _)
    refine later_ofExcept fun kind => ?_
    dsimp only
    split_ifs
    · exact later_modify (later_of_guar hsend)
    · refine later_bind (later_modify (later_get fun c => ?_)) fun _ => hsend
      split_ifs
      · exact later_of_guar unbuffered_finishLocalTravel
      · exact later_of_guar (guar_pure ())
    · exact later_of_guar hsend
  · refine later_bind (later_ofExcept fun incoming => later_get fun c => ?_) fun _ => guar_pure _
    split_ifs
    · exact later_of_guar (guar_pure ())
    · exact later_modify (later_of_guar (unbuffered_bridgeSend _ _))
  · exact later_of_guar (guar_bind (unbuffered_onResume _) fun _ => guar_pure _)

theorem unbuffered_later_handle (sha256 : Base64.Bytes → String) (t : Event) : Later Unbuffered (handle sha256 t) := by
  cases t with
  | net r =>
    refine later_modify (later_bind (later_attempt (later_ofExcept fun env => ?_)) fun r =>
      unbuffered_of_does (guar_afterListen r))
    exact later_bind (unbuffered_later_onNetworkMessage sha256 env) fun flush =>
      unbuffered_of_does (guar_afterMessage (by simp) flush)
  | game event => exact later_of_guar (unbuffered_of_does (guar_onGameEvent (by simp) event))
  | zoneLoaded epoch => exact later_of_guar (unbuffered_markLocalZoneLoaded epoch)
  | flush f => exact later_of_guar (unbuffered_of_does (guar_resumeFlush (by simp) f))

/-! ## Runs -/

section runs
variable (sha256 : Base64.Bytes → String)

/-- a message whose handler comes to a property that the other steps keep -/
theorem wp_listen_staying {I : Client → Prop} (hI : ∀ c c', I c → Unbuffered c c' → I c') {env : Envelope} {c : Client}
    (hm : ∀ own, wp (Staying I) own (onNetworkMessage sha256 env) (fun _ _ c' => I c') { c with listening := .busy }) :
    wp (Staying I) ∅ (listen sha256 (.ok env)) (Ends (Staying I) fun m _ => m.elim) c := by
  have htail : ∀ {α : Type} {p : ClientM α}, Guar (Does {.save, .build}) p → ∀ {own : Set Empty} {c : Client}, I c →
      wp (Staying I) own p (fun _ _ c' => I c') c := by
    intro α p hp own c hc
    exact wp_staying hI (unbuffered_of_does hp) hc
  rw [listen, setListening]
  refine wp_modify_bind (Discipline.may_plain.2 trivial) (Discipline.take_eq fun m => m.elim) ?_
  rw [wp_bind, wp_attempt, wp_bind, wp_ofExcept, andThen_ok, wp_bind]
  refine wp_mono ?_ (hm _)
  rintro (e | flush) own₁ c₁ h₁
  · refine wp_mono ?_ (htail (guar_afterListen (.error e)) h₁)
    exact fun r own₂ c₂ h₂ => ⟨h₂, fun m => m.elim⟩
  · rw [andThen_ok]
    refine wp_mono ?_ (htail (guar_afterMessage (by simp) flush) h₁)
    intro r own₂ c₂ h₂
    refine wp_mono ?_ (htail (guar_afterListen r) h₂)
    exact fun r' own₃ c₃ h₃ => ⟨h₃, fun m => m.elim⟩

theorem staying_step {I : Client → Prop} (hI : ∀ c c', I c → Unbuffered c c' → I c') {c : Run}
    (hlater : Pool.AllLater Unbuffered c) (a : ClientAct) (hnone : taken c.state a = none → I c.state)
    (hm : ∀ env, taken c.state a = some (env.type, env.payload) → ∀ own,
      wp (Staying I) own (onNetworkMessage sha256 env) (fun _ _ c' => I c') { c.state with listening := .busy }) :
    I (Pool.step (handle sha256) enabled c a).state := by
  have hsame : ∀ t as, I c.state → Guar Unbuffered (handle sha256 t) →
      I (Pool.step (handle sha256) enabled c (.arrive t as)).state := by
    intro t as hc ht
    rw [Pool.arrive_state]
    split_ifs
    · exact hI _ _ hc (segment_guar .refl (fun _ _ _ => .trans) ht as c.state)
    · exact hc
  rcases a with ⟨t, as⟩ | ⟨i, x, as⟩
  · rcases t with r | event | epoch | f
    · rcases r with e | env
      · exact hsame _ as (hnone rfl) (guar_bind (unbuffered_of_does (guar_setListening .busy)) fun _ =>
          guar_bind (guar_attempt trivial) fun r => unbuffered_of_does (guar_afterListen r))
      · by_cases hidle : c.state.listening = .idle
        · have htaken : taken c.state (.arrive (.net (.ok env)) as) = some (env.type, env.payload) := if_pos hidle
          have henabled : enabled c.state (.net (.ok env)) = true := by simp [enabled, hidle]
          obtain ⟨own', -, hend⟩ := wp_segment (staying_lawful I) as (wp_listen_staying sha256 hI (hm env htaken))
          rw [Pool.arrive_state, henabled, if_pos rfl]
          split at hend
          · exact hend.1
          · exact hend.1
        · have htaken : taken c.state (.arrive (.net (.ok env)) as) = none := if_neg hidle
          have henabled : enabled c.state (.net (.ok env)) = false := by simp [enabled, hidle]
          rw [Pool.arrive_state, henabled]
          exact hnone htaken
    · exact hsame _ as (hnone rfl) (unbuffered_of_does (guar_onGameEvent (by simp) event))
    · exact hsame _ as (hnone rfl) (unbuffered_markLocalZoneLoaded epoch)
    · exact hsame _ as (hnone rfl) (unbuffered_of_does (guar_resumeFlush (by simp) f))
  · exact hI _ _ (hnone rfl) (Pool.resume_guar .refl (fun _ _ _ => .trans) hlater i x as)

/-- one step keeps a client at home that is not proposed a travel, and away one that is or was -/
theorem travel_step {c : Run} (hlater : Pool.AllLater Unbuffered c) (a : ClientAct)
    (hm : ∀ m ∈ taken c.state a, Epochal m) :
    (Home c.state → (∀ m ∈ taken c.state a, m.1 ≠ .travelPropose) →
      Home (Pool.step (handle sha256) enabled c a).state) ∧
      (Away c.state ∨ Home c.state ∧ (∃ m ∈ taken c.state a, m.1 = .travelPropose) →
        Away (Pool.step (handle sha256) enabled c a).state) := by
  constructor
  · intro hc hpropose
    refine staying_step sha256 (fun _ _ => Home.unbuffered) hlater a (fun _ => hc) fun env he own => ?_
    exact wp_message_home sha256 (hm _ he) (hpropose _ he) hc
  · intro hc
    refine staying_step sha256 (fun _ _ => Away.unbuffered) hlater a (fun he => ?_) fun env he own => ?_
    · refine hc.resolve_right fun ⟨_, m, hmem, _⟩ => ?_
      rw [he] at hmem
      cases hmem
    · refine wp_message_away sha256 (hm _ he) (hc.imp id fun ⟨hhome, m, hmem, hp⟩ => ⟨?_, hhome⟩)
      rw [he] at hmem
      cases hmem
      exact hp

/-- **The travel of a client in every run.** It stays at home as long as it is not proposed a travel, and never comes
back from one. -/
theorem travel_run {c : Run} (hlater : Pool.AllLater Unbuffered c) (acts : List ClientAct)
    (hm : ∀ m ∈ handled sha256 c acts, Epochal m) :
    (Home c.state → (∀ m ∈ handled sha256 c acts, m.1 ≠ .travelPropose) → Home (runFrom sha256 c acts).state) ∧
      (Away c.state ∨ Home c.state ∧ (∃ m ∈ handled sha256 c acts, m.1 = .travelPropose) →
        Away (runFrom sha256 c acts).state) := by
  induction acts generalizing c with
  | nil =>
    refine ⟨fun hc _ => hc, fun hc => hc.resolve_right ?_⟩
    rintro ⟨-, m, hmem, -⟩
    cases hmem
  | cons a acts ih =>
    have hfirst : ∀ m ∈ taken c.state a, m ∈ handled sha256 c (a :: acts) := fun m hmem =>
      List.mem_append_right _ (by simpa using hmem)
    have hrest : ∀ m ∈ handled sha256 (Pool.step (handle sha256) enabled c a) acts, m ∈ handled sha256 c (a :: acts) :=
      fun m hmem => List.mem_append_left _ hmem
    obtain ⟨hhome, haway⟩ := travel_step sha256 hlater a fun m hmem => hm m (hfirst m hmem)
    obtain ⟨ihhome, ihaway⟩ := ih (Pool.step_later (unbuffered_later_handle sha256) hlater a) fun m hmem =>
      hm m (hrest m hmem)
    constructor
    · intro hc hpropose
      exact ihhome (hhome hc fun m hmem => hpropose m (hfirst m hmem)) fun m hmem => hpropose m (hrest m hmem)
    · intro hc
      refine ihaway ?_
      by_cases hfirst' : ∃ m ∈ taken c.state a, m.1 = .travelPropose
      · exact Or.inl (haway (hc.imp id fun h => ⟨h.1, hfirst'⟩))
      rcases hc with hc | ⟨hc, m, hmem, hp⟩
      · exact Or.inl (haway (Or.inl hc))
      · refine Or.inr ⟨hhome hc fun m hmem hp => hfirst' ⟨m, hmem, hp⟩, ?_⟩
        rcases List.mem_append.1 hmem with hmem | hmem
        · exact ⟨m, hmem, hp⟩
        · exact absurd ⟨m, by simpa using hmem, hp⟩ hfirst'

/-! ## The arrival of a raw message -/

/-- the message is handed to the game when it arrives -/
def HandedOver (c : Run) (env : Envelope) (as : List Answer) : Prop :=
  ∃ ok, (Pool.step (handle sha256) enabled c (.arrive (.net (.ok env)) as)).state.log =
    .bridge ok env.type env.payload :: c.state.log

/-- a client that takes an update of this sequence outside a travel -/
def Admits (c : Client) (sequence : ℤ) : Prop :=
  (c.travelEpoch = 0 ∧ c.bufferViewUpdates = false) ∧ c.lastGameSequence < sequence

theorem checkRaw_rawPayload (msgId : ℤ) (sequence : ℕ) {raw : Base64.Bytes} (hraw : raw.length ≤ MAX_GAME_MESSAGE_BYTES)
    (epoch : Option ℤ) : checkRaw (Host.rawPayload msgId sequence raw epoch) = .ok () := by
  have htext : (Host.rawPayload msgId sequence raw epoch).item "payload_b64" = .ok (.str (Base64.b64encode raw)) := by
    cases epoch <;> rfl
  rw [checkRaw, htext]
  show (do let raw ← Base64.b64decode (Base64.b64encode raw); require _ _) = _
  rw [Base64.b64decode_b64encode]
  simp [require, hraw]

theorem wp_onRawMessage_unstamped {msgId : ℤ} {sequence : ℕ} {raw : Base64.Bytes}
    (hraw : raw.length ≤ MAX_GAME_MESSAGE_BYTES) {own : Set Empty} {c : Client} :
    wp Discipline.sync own (onRawMessage (Host.rawPayload msgId sequence raw none))
      (fun _ _ c' => (∃ ok, c'.log = .bridge ok .gameRawMessage (Host.rawPayload msgId sequence raw none) :: c.log) ↔
        c.Admits sequence) c := by
  generalize hp : Host.rawPayload msgId sequence raw none = payload
  have hsame : ¬ ∃ ok, c.log = .bridge ok .gameRawMessage payload :: c.log := by
    rintro ⟨ok, h⟩
    exact List.cons_ne_self _ _ h.symm
  have herror : ∀ {ok' : Bool} {reason : Json}, ¬ ∃ ok, Out.bridge ok' .sidecarError reason :: c.log =
      .bridge ok .gameRawMessage payload :: c.log := by
    rintro ok' reason ⟨ok, h⟩
    cases h
  have hsequence : intField payload "sequence" 0 = .ok (sequence : ℤ) := by rw [← hp]; rfl
  have hepoch : payload.get "epoch" = .ok .null := by rw [← hp]; rfl
  have hid : (do (← payload.item "msg_id").toInt : Except Exc ℤ) = .ok msgId := by rw [← hp]; rfl
  have htext : (do Base64.b64decode (← payload.item "payload_b64").toStr : Except Exc Base64.Bytes) = .ok raw := by
    rw [← hp]
    exact Base64.b64decode_b64encode raw
  rw [onRawMessage, hsequence, wp_bind, wp_ofExcept, andThen_ok, wp_bind, wp_get, andThen_ok]
  refine ⟨⟨trivial, fun m => m.elim⟩, ?_⟩
  by_cases hlast : (sequence : ℤ) ≤ c.lastGameSequence
  · rw [if_pos hlast]
    exact iff_of_false hsame fun h => not_le.2 h.2 hlast
  rw [if_neg hlast, ← hp, checkRaw_rawPayload msgId sequence hraw none, hp]
  dsimp only
  rw [hepoch, wp_bind, wp_ofExcept, andThen_ok, wp_bind, wp_ofExcept, epochRefusal]
  by_cases htravel : c.travelEpoch = 0
  swap
  · rw [if_pos ⟨htravel, rfl⟩, andThen_ok]
    dsimp only
    rw [sidecarError, bridgeSend, wp_bind, wp_askEnv]
    intro a
    rw [andThen_ok, wp_modify]
    exact ⟨⟨trivial, fun m => m.elim⟩, iff_of_false herror fun h => htravel h.1.1⟩
  rw [if_neg (fun h => h.1 htravel), if_neg (fun h => h.1 rfl), andThen_ok]
  dsimp only
  rw [takeRaw, wp_bind, setLastSequence, wp_modify, andThen_ok, wp_bind, wp_get, andThen_ok]
  refine ⟨⟨trivial, fun m => m.elim⟩, ⟨trivial, fun m => m.elim⟩, ?_⟩
  dsimp only
  by_cases hbuffer : c.bufferViewUpdates = true
  · rw [if_pos hbuffer]
    have hnot : ¬ c.Admits sequence := fun h => by rw [h.1.2] at hbuffer; cases hbuffer
    split_ifs
    · rw [sidecarError, bridgeSend, wp_bind, wp_askEnv]
      intro a
      rw [andThen_ok, wp_modify]
      exact ⟨⟨trivial, fun m => m.elim⟩, iff_of_false herror hnot⟩
    · refine wp_ofExcept_bind (fun e _ => iff_of_false hsame hnot) fun item _ => ?_
      rw [bufferItem, wp_modify]
      exact ⟨⟨trivial, fun m => m.elim⟩, iff_of_false hsame hnot⟩
  · rw [if_neg hbuffer, applyGameMessage, htext, wp_bind, wp_ofExcept, andThen_ok, wp_bind, wp_modify, andThen_ok, hid,
      wp_bind, wp_ofExcept, andThen_ok, wp_bind, wp_modify, andThen_ok, bridgeSend, wp_bind, wp_askEnv]
    refine ⟨⟨trivial, fun m => m.elim⟩, ⟨trivial, fun m => m.elim⟩, fun a => ?_⟩
    rw [andThen_ok, wp_modify]
    refine ⟨⟨trivial, fun m => m.elim⟩, iff_of_true ⟨a.ok, rfl⟩ ?_⟩
    exact ⟨⟨htravel, by simpa using hbuffer⟩, not_le.1 hlast⟩

/-- **An unstamped update.** -/
theorem arrival_iff {c : Run} {env : Envelope} (as : List Answer) (hidle : c.state.listening = .idle)
    (htype : env.type = .gameRawMessage) {msgId : ℤ} {sequence : ℕ} {raw : Base64.Bytes}
    (hraw : raw.length ≤ MAX_GAME_MESSAGE_BYTES) (hpayload : env.payload = Host.rawPayload msgId sequence raw none) :
    HandedOver sha256 c env as ↔ c.state.Admits sequence := by
  have hlisten : wp Discipline.sync ∅ (listen sha256 (.ok env)) (fun _ _ c' =>
      (∃ ok, c'.log = .bridge ok env.type env.payload :: c.state.log) ↔ c.state.Admits sequence) c.state := by
    rw [listen, setListening, wp_bind, wp_modify, andThen_ok]
    refine ⟨⟨trivial, fun m => m.elim⟩, ?_⟩
    rw [wp_bind, wp_attempt, wp_bind, wp_ofExcept, andThen_ok, onNetworkMessage_raw sha256 htype, wp_bind, wp_bind,
      htype, hpayload]
    refine wp_mono ?_ (wp_onRawMessage_unstamped hraw)
    rintro (e | _) own' c' hadmits
    · exact ⟨⟨trivial, fun m => m.elim⟩, hadmits⟩
    · exact ⟨⟨trivial, fun m => m.elim⟩, hadmits⟩
  obtain ⟨r, own', -, hadmits⟩ := wp_sync as hlisten
  have henabled : enabled c.state (.net (.ok env)) = true := by simp [enabled, hidle]
  rw [HandedOver, Pool.arrive_state, henabled]
  exact hadmits

end runs

end Client

namespace Host

open Coop
open Coro hiding pure get modify

/-! ## The host and a client -/

/-- the client has handled, in their order, the messages written to its connection since the welcome -/
def Linked (conn : ℕ) (log : List Out) (messages : List (MessageType × Json)) : Prop :=
  ∃ w, writtenTo conn log = messages ++ [(.welcome, w)]

/-- the message is newer than the last update the client took -/
def NewTo (c : Client) (m : MessageType × Json) : Prop :=
  ∃ sequence, Client.rawSequence m = some sequence ∧ c.lastGameSequence < sequence

theorem Out.wellMade.epochal {player : String} {conn : ℕ} {env : Envelope} (h : (Out.wrote player conn env).wellMade) :
    Client.Epochal (env.type, env.payload) := h

/-- **View updates after a travel.** In every run of the host, a client that has handled what was written to it hands a
raw message that was broadcast while no travel was under way to its game when it arrives, if and only if no travel was
ever proposed to it and the message is newer than its last update. -/
theorem untravelled_iff (playerId displayName sessionId : String) (manifest : CompatibilityManifest)
    (nativeRequired : Bool) (commands : NetworkedCommandRouter) (acts : List HostAct) (sha256 : Base64.Bytes → String)
    (me : String) (disk : Disk) (clientActs : List Client.ClientAct) (as : List Client.Answer) {newer older : List Out}
    {player : String} {conn seq : ℕ} {env : Envelope} {travel : Option Travel.TravelTxn}
    (written : (runFrom (started playerId displayName sessionId manifest nativeRequired commands) acts).state.log =
      newer ++ .wrote player conn env :: older)
    (raw : env.type = .gameRawMessage) (sent : .sending .gameRawMessage env.payload seq travel ∈ older)
    (idle : ∀ t ∈ travel, t.phase.finished = true)
    (linked : Linked conn older (Client.handled sha256 ⟨Client.init me disk, []⟩ clientActs))
    (listening : (Client.runFrom sha256 ⟨Client.init me disk, []⟩ clientActs).state.listening = .idle) :
    Client.HandedOver sha256 (Client.runFrom sha256 ⟨Client.init me disk, []⟩ clientActs) env as ↔
      (∀ m ∈ writtenTo conn older, m.1 ≠ .travelPropose) ∧
        NewTo (Client.runFrom sha256 ⟨Client.init me disk, []⟩ clientActs).state (env.type, env.payload) := by
  have hmade := (stamped playerId displayName sessionId manifest nativeRequired commands acts).log
  rw [written] at hmade
  have holder : ∀ o ∈ older, o.wellMade := fun o ho => hmade o (List.mem_append_right _ (List.mem_cons_of_mem _ ho))
  obtain ⟨msgId, sequence, bytes, hlength, hpayload⟩ := holder _ sent
  have hstamp : stampOf travel = none := by
    cases travel with
    | none => rfl
    | some t => simp [stampOf, idle t rfl]
  rw [hstamp] at hpayload
  rw [Client.arrival_iff sha256 as listening raw hlength hpayload]
  obtain ⟨w, hw⟩ := linked
  have hepochal : ∀ m ∈ Client.handled sha256 ⟨Client.init me disk, []⟩ clientActs, Client.Epochal m := by
    intro m hm
    obtain ⟨player', env', hmem, rfl⟩ := mem_writtenTo.1 (hw ▸ List.mem_append_left _ hm : m ∈ writtenTo conn older)
    exact (holder _ hmem).epochal
  have hlater : Pool.AllLater Client.Unbuffered (⟨Client.init me disk, []⟩ : Client.Run) :=
    fun x hx => absurd hx List.not_mem_nil
  obtain ⟨hhome, haway⟩ := Client.travel_run sha256 hlater clientActs hepochal
  have hinit : Client.Home (Client.init me disk) := ⟨rfl, rfl⟩
  have hproposed : (∀ m ∈ writtenTo conn older, m.1 ≠ .travelPropose) ↔
      Client.Home (Client.runFrom sha256 ⟨Client.init me disk, []⟩ clientActs).state := by
    constructor
    · intro hnone
      exact hhome hinit fun m hm => hnone m (hw ▸ List.mem_append_left _ hm)
    · intro h m hm hp
      rw [hw, List.mem_append, List.mem_singleton] at hm
      rcases hm with hm | rfl
      · have := haway (Or.inr ⟨hinit, m, hm, hp⟩)
        rw [Client.Away, h.1] at this
        exact lt_irrefl _ this
      · cases hp
  have hsequence : Client.rawSequence (env.type, env.payload) = some (sequence : ℤ) := by
    rw [raw, hpayload]
    exact rawSequence_rawPayload _ _ _ _
  rw [hproposed, Client.Admits, NewTo]
  refine and_congr Iff.rfl ⟨fun h => ⟨_, hsequence, h⟩, fun ⟨n, hn, h⟩ => ?_⟩
  rw [hsequence] at hn
  cases hn
  exact h

/-- what was written to a connection since its welcome arrives -/
def arrivals (conn : ℕ) (log : List Out) : List Client.ClientAct :=
  (log.filterMap fun
    | .wrote _ c env => if c = conn ∧ env.type ≠ .welcome then some (.arrive (.net (.ok env)) []) else none
    | _ => none).reverse

/-- an update of the host's game as it is broadcast -/
def updateEnvelope (seq sequence uuid : ℕ) : Envelope :=
  Envelope.make .gameRawMessage (rawPayload sequence sequence [65, 66, 67] none) "host" (some seq) (uuid4 uuid)

/-- the client of alice, when all that was written to it before the newest entry has arrived -/
def aliceAt (acts : List HostAct) : Client.Run :=
  Client.runFrom (fun _ => "") ⟨Client.init "alice" ∅, []⟩ (arrivals 1 (runFrom lanHost acts).state.log.tail)

def twoUpdates : List HostAct := [joins 1 "alice", goesOn, updates 1, goesOn, updates 2]

/-- the second update reaches the game -/
theorem untravelled_iff_updates : Client.HandedOver (fun _ => "") (aliceAt twoUpdates) (updateEnvelope 2 2 2) [] := by
  have hlog : (runFrom lanHost twoUpdates).state.log =
      [] ++ .wrote "alice" 1 (updateEnvelope 2 2 2) :: (runFrom lanHost twoUpdates).state.log.tail := by decide +kernel
  have hsent : .sending .gameRawMessage (updateEnvelope 2 2 2).payload 2 none ∈
      (runFrom lanHost twoUpdates).state.log.tail := by decide +kernel
  have hlinked : Linked 1 (runFrom lanHost twoUpdates).state.log.tail (Client.handled (fun _ => "")
      ⟨Client.init "alice" ∅, []⟩ (arrivals 1 (runFrom lanHost twoUpdates).state.log.tail)) :=
    ⟨((writtenTo 1 (runFrom lanHost twoUpdates).state.log.tail).getLast (by decide +kernel)).2, by decide +kernel⟩
  refine (untravelled_iff "host" "Host" "session" (lanManifest "host") false .init twoUpdates _ "alice" ∅ _ [] hlog rfl
    hsent (fun t ht => by cases ht) hlinked (by decide +kernel)).2 ⟨by decide +kernel, 2, by decide +kernel, ?_⟩
  decide +kernel

/-- an update after the travel is complete -/
def updateAfterTravel : List HostAct := travelHere ++ [updates 1]

/-- **The first travel is the last update.** The travel is complete, alice has handled all that was written to her
before, and she refuses the next update. -/
theorem update_after_travel_refused :
    (runFrom lanHost updateAfterTravel).state.log =
        .wrote "alice" 1 (updateEnvelope 5 1 6) :: (runFrom lanHost updateAfterTravel).state.log.tail ∧
      (∃ t, (runFrom lanHost updateAfterTravel).state.session.travel.current = some t ∧ t.phase = .complete ∧
        .sending .gameRawMessage (updateEnvelope 5 1 6).payload 5 (some t) ∈
          (runFrom lanHost updateAfterTravel).state.log.tail) ∧
      Linked 1 (runFrom lanHost updateAfterTravel).state.log.tail (Client.handled (fun _ => "")
        ⟨Client.init "alice" ∅, []⟩ (arrivals 1 (runFrom lanHost updateAfterTravel).state.log.tail)) ∧
      (aliceAt updateAfterTravel).state.listening = .idle ∧
      NewTo (aliceAt updateAfterTravel).state (.gameRawMessage, (updateEnvelope 5 1 6).payload) ∧
      ¬ Client.HandedOver (fun _ => "") (aliceAt updateAfterTravel) (updateEnvelope 5 1 6) [] := by
  refine ⟨by decide +kernel, ?_, ?_, by decide +kernel, ⟨1, by decide +kernel, by decide +kernel⟩, ?_⟩
  · exact ⟨(runFrom lanHost updateAfterTravel).state.session.travel.current.get (by decide +kernel), by decide +kernel⟩
  · exact ⟨((writtenTo 1 (runFrom lanHost updateAfterTravel).state.log.tail).getLast (by decide +kernel)).2,
      by decide +kernel⟩
  · unfold Client.HandedOver
    decide +kernel

end Host

end KerMP
