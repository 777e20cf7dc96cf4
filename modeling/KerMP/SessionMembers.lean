/-
Who the session may refer to (`kermp/session.py`): the ids of current players, and nobody else.

Five parts of a `HostSession` remember player ids: the players themselves, the build lock, the pending dialogs, the
participants of a travel and the controllers of the Sims. Only `remove_player` cleans them up, all of them at once. The
lock and the dialogs take whatever id they are given, so the callers owe them a current player (`Proper`); a travel is
proposed with `list(players)`, and the controllers are read off the players.

- `MembersOnly`: every id the session remembers is a current player.
- `members_call`, `members_calls`: one call, and any sequence of calls, keep it.
- `no_former_player`: it holds in every state of a new session.
-/
import KerMP.Controllers

namespace KerMP

open Py Travel

namespace HostSession

/-! ## Calls -/

/-- the calls with the clock readings and fresh ids they draw; `txnId` and `dialogId` are the given ones -/
inductive SessionCall where
  | roster (c : RosterCall)
  | requestLock (playerId : String) (t₁ t₂ wall : ℕ)
  | releaseLock (playerId : String)
  | submit (playerId op : String) (data : List (String × Json)) (t₁ t₂ : ℕ)
  | openDialog (owner dialogType : String) (payload : List (String × Json)) (uuid : String)
  | respond (playerId dialogId : String) (response : List (String × Json))
  | propose (zoneId : String) (actorIds : List String) (uuid : String)
  | markReady (playerId txnId : String) (epoch : Option ℤ)
  | beginZoneWait (txnId : String)
  | markZoneReady (playerId txnId : String) (epoch : Option ℤ)
  | abort (txnId : String)

/-- the coordinator after a call of it that may raise -/
def travelled {α : Type} (s : HostSession) (r : Except Exc (α × TravelCoordinator)) : HostSession :=
  match r with
  | .ok (_, travel) => { s with travel }
  | .error _ => s

def sessionCall (s : HostSession) : SessionCall → HostSession
  | .roster c => s.call c
  | .requestLock playerId t₁ t₂ wall => { s with build := (s.build.requestLock playerId t₁ t₂ wall).2 }
  | .releaseLock playerId => { s with build := (s.build.releaseLock playerId).2 }
  | .submit playerId op data t₁ t₂ => { s with build := (s.build.submit playerId op data t₁ t₂).2 }
  | .openDialog owner dialogType payload uuid =>
    { s with dialogs := (s.dialogs.openDialog owner dialogType payload uuid).2 }
  | .respond playerId dialogId response => { s with dialogs := (s.dialogs.respond playerId dialogId response).2 }
  | .propose zoneId actorIds uuid => s.travelled (s.travel.propose zoneId actorIds s.players.keys uuid)
  | .markReady playerId txnId epoch => s.travelled (s.travel.markReady playerId txnId epoch)
  | .beginZoneWait txnId => s.travelled ((s.travel.beginZoneWait txnId).map ((), ·))
  | .markZoneReady playerId txnId epoch => s.travelled (s.travel.markZoneReady playerId txnId epoch)
  | .abort txnId => s.travelled ((s.travel.abort txnId).map ((), ·))

def sessionCalls (s : HostSession) (cs : List SessionCall) : HostSession := cs.foldl sessionCall s

/-- locks and dialogs are opened for current players -/
def Proper (s : HostSession) : SessionCall → Prop
  | .requestLock playerId _ _ _ => playerId ∈ s.players
  | .openDialog owner _ _ _ => owner ∈ s.players
  | _ => True

def AllProper (s : HostSession) : List SessionCall → Prop
  | [] => True
  | c :: cs => s.Proper c ∧ AllProper (s.sessionCall c) cs

instance (s : HostSession) (c : SessionCall) : Decidable (s.Proper c) := by
  cases c <;> unfold Proper <;> infer_instance

/-- every id that the session remembers is a current player -/
structure MembersOnly (s : HostSession) : Prop where
  lock : ∀ owner, s.build.ownerId = some owner → owner ∈ s.players
  dialogs : ∀ e ∈ s.dialogs.pending.entries, e.2.ownerPlayerId ∈ s.players
  travel : ∀ t, s.travel.current = some t → t.phase.finished = false → ∀ p ∈ t.participants, p ∈ s.players
  controllers : ∀ e ∈ s.sims.entries, ∀ p ∈ e.2.controllers, p ∈ s.players

/-! ## The build lock -/

/-- nobody new holds the lock, or only `p` -/
def OwnerWithin (b b' : BuildAuthority) (p : Option String) : Prop :=
  ∀ owner, b'.ownerId = some owner → b.ownerId = some owner ∨ p = some owner

theorem dropExpired_owner (b : BuildAuthority) (t : ℕ) (p : Option String) : OwnerWithin b (b.dropExpired t) p := by
  intro owner h
  obtain hd | ⟨l, -, -, hd⟩ := b.dropExpired_cases t
  · rw [hd] at h
    exact Or.inl h
  · rw [hd] at h
    cases h

theorem requestLock_ownerWithin (b : BuildAuthority) (p : String) (t₁ t₂ wall : ℕ) :
    OwnerWithin b (b.requestLock p t₁ t₂ wall).2 (some p) := by
  intro owner h
  unfold BuildAuthority.requestLock at h
  dsimp only at h
  split_ifs at h
  · exact Or.inr h
  · exact dropExpired_owner b t₁ _ owner h

theorem releaseLock_ownerWithin (b : BuildAuthority) (p : String) : OwnerWithin b (b.releaseLock p).2 none := by
  intro owner h
  unfold BuildAuthority.releaseLock at h
  split_ifs at h
  · cases h
  · exact Or.inl h

/-- whoever submits with success held the lock before -/
theorem submit_ownerWithin (b : BuildAuthority) (p op : String) (data : List (String × Json)) (t₁ t₂ : ℕ) :
    OwnerWithin b (b.submit p op data t₁ t₂).2 none := by
  intro owner h
  cases hs : b.submit p op data t₁ t₂ with
  | mk r b' =>
    rw [hs] at h
    cases r with
    | error e =>
      rw [BuildAuthority.submit_error hs] at h
      exact dropExpired_owner b t₁ _ owner h
    | ok o =>
      obtain ⟨⟨l, hl, hp, -⟩, -, -, hafter⟩ := BuildAuthority.submit_ok hs
      rw [hafter] at h
      refine Or.inl (Eq.trans ?_ h)
      simp [BuildAuthority.ownerId, hl, hp]

theorem MembersOnly.withLock {s : HostSession} (h : s.MembersOnly) {b : BuildAuthority} {p : Option String}
    (hb : OwnerWithin s.build b p) (hp : ∀ owner, p = some owner → owner ∈ s.players) :
    MembersOnly { s with build := b } where
  lock owner ho := (hb owner ho).elim (h.lock owner) (hp owner)
  dialogs := h.dialogs
  travel := h.travel
  controllers := h.controllers

/-! ## Dialogs -/

theorem mem_erase_entries {d : Dict String DialogRecord} {k : String} {e : Σ _ : String, DialogRecord}
    (he : e ∈ (d.erase k).entries) : e ∈ d.entries ∧ e.1 ≠ k := by
  have hlookup := AList.mem_lookup_iff.2 he
  obtain ⟨hk, hold⟩ := AList.lookup_erase_eq_some.1 hlookup
  exact ⟨AList.mem_lookup_iff.1 hold, hk⟩

theorem mem_setItem_entries {d : Dict String DialogRecord} {k : String} {v : DialogRecord}
    {e : Σ _ : String, DialogRecord} (he : e ∈ (d.setItem k v).entries) : e ∈ d.entries ∨ e.2 = v := by
  have hlookup := AList.mem_lookup_iff.2 he
  rcases AList.lookup_setItem_eq_some.1 hlookup with ⟨-, hv⟩ | ⟨-, hold⟩
  · exact Or.inr hv.symm
  · exact Or.inl (AList.mem_lookup_iff.1 hold)

/-- a pending dialog was pending before, or has just been opened for `owner` -/
theorem openDialog_entries {d : DialogRouter} {owner dialogType uuid : String} {payload : List (String × Json)}
    {e : Σ _ : String, DialogRecord} (he : e ∈ (d.openDialog owner dialogType payload uuid).2.pending.entries) :
    e ∈ d.pending.entries ∨ e.2.ownerPlayerId = owner := by
  unfold DialogRouter.openDialog at he
  split_ifs at he
  · exact Or.inl he
  · exact (mem_setItem_entries he).imp_right fun h => by rw [h]

/-- an answer leaves no dialog that was not pending before -/
theorem respond_entries {d : DialogRouter} {p k : String} {response : List (String × Json)}
    {e : Σ _ : String, DialogRecord} (he : e ∈ (d.respond p k response).2.pending.entries) :
    ∃ e₀ ∈ d.pending.entries, e.2 = e₀.2 := by
  unfold DialogRouter.respond at he
  split at he
  · exact ⟨e, he, rfl⟩
  · rename_i r hr
    split_ifs at he
    · -- somebody else's answer: the record goes back
      rcases mem_setItem_entries he with he | he
      · exact ⟨e, (mem_erase_entries he).1, rfl⟩
      · exact ⟨⟨k, r⟩, AList.mem_lookup_iff.1 hr, he⟩
    · exact ⟨e, (mem_erase_entries he).1, rfl⟩

theorem mem_foldl_erase {ks : List String} {d : Dict String DialogRecord} {e : Σ _ : String, DialogRecord}
    (he : e ∈ (ks.foldl (fun p k => p.erase k) d).entries) : e ∈ d.entries ∧ e.1 ∉ ks := by
  induction ks generalizing d with
  | nil => exact ⟨he, List.not_mem_nil⟩
  | cons k ks ih =>
    obtain ⟨hd, hks⟩ := ih he
    obtain ⟨hd, hk⟩ := mem_erase_entries hd
    refine ⟨hd, ?_⟩
    rw [List.mem_cons]
    exact not_or.2 ⟨hk, hks⟩

/-- nobody's dialog is pending after a departure -/
theorem disconnect_entries {d : DialogRouter} {p : String} {e : Σ _ : String, DialogRecord}
    (he : e ∈ (d.disconnect p).2.pending.entries) : e ∈ d.pending.entries ∧ e.2.ownerPlayerId ≠ p := by
  obtain ⟨hd, hstale⟩ := mem_foldl_erase he
  refine ⟨hd, fun ho => hstale ?_⟩
  exact List.mem_filterMap.2 ⟨e, hd, by simp [ho]⟩

/-! ## Travel -/

/-- the unfinished travel after a call: it takes nobody along who did not take part before -/
def TravelWithin (c c' : TravelCoordinator) : Prop :=
  ∀ t', c'.current = some t' → t'.phase.finished = false →
    ∃ t, c.current = some t ∧ t.phase.finished = false ∧ t'.participants = t.participants

theorem TravelWithin.refl (c : TravelCoordinator) : TravelWithin c c := fun t ht hf => ⟨t, ht, hf, rfl⟩

theorem markReady_within {c c' : TravelCoordinator} {p x : String} {e : Option ℤ} {b : Bool}
    (h : c.markReady p x e = .ok (b, c')) : TravelWithin c c' := by
  obtain ⟨t, ht, h⟩ := bind_ok h
  obtain ⟨hc, -⟩ := getTxn_ok ht
  have same := TravelWithin.refl c
  dsimp only [pure, Except.pure] at h
  split_ifs at h with h1 h2 h3
  · cases h
    exact same
  · cases h
    exact same
  all_goals
    have hf : t.phase.finished = false := by
      rw [not_not.1 h2]
      rfl
    cases h
    intro t' ht' _
    cases ht'
    exact ⟨t, hc, hf, rfl⟩

theorem markZoneReady_within {c c' : TravelCoordinator} {p x : String} {e : Option ℤ} {b : Bool}
    (h : c.markZoneReady p x e = .ok (b, c')) : TravelWithin c c' := by
  obtain ⟨t, ht, h⟩ := bind_ok h
  obtain ⟨hc, -⟩ := getTxn_ok ht
  have same := TravelWithin.refl c
  dsimp only [pure, Except.pure] at h
  split_ifs at h with h1 h2 h3
  · cases h
    exact same
  · cases h
    exact same
  all_goals
    have hf : t.phase.finished = false := by
      rcases not_and_or.1 h2 with hp | hp <;>
      · rw [not_not.1 hp]
        rfl
    cases h
    intro t' ht' _
    cases ht'
    exact ⟨t, hc, hf, rfl⟩

theorem beginZoneWait_within {c c' : TravelCoordinator} {x : String} (h : c.beginZoneWait x = .ok c') :
    TravelWithin c c' := by
  obtain ⟨t, hc, -, hp, rfl⟩ := beginZoneWait_ok h
  intro t' ht' _
  cases ht'
  exact ⟨t, hc, by rw [hp]; rfl, rfl⟩

theorem abort_within {c c' : TravelCoordinator} {x : String} (h : c.abort x = .ok c') : TravelWithin c c' := by
  obtain ⟨t, hc, -, rfl⟩ := abort_ok h
  intro t' ht' hf
  cases ht'
  cases hf

theorem MembersOnly.withTravel {s : HostSession} (h : s.MembersOnly) {c : TravelCoordinator}
    (hc : TravelWithin s.travel c) : MembersOnly { s with travel := c } where
  lock := h.lock
  dialogs := h.dialogs
  travel := by
    intro t' ht' hf p hp
    obtain ⟨t, ht, hft, hparticipants⟩ := hc t' ht' hf
    exact h.travel t ht hft p (hparticipants ▸ hp)
  controllers := h.controllers

theorem MembersOnly.travelled {s : HostSession} (h : s.MembersOnly) {α : Type}
    {r : Except Exc (α × TravelCoordinator)} (hr : ∀ a c, r = .ok (a, c) → TravelWithin s.travel c) :
    (s.travelled r).MembersOnly := by
  cases r with
  | error e => exact h
  | ok r => exact h.withTravel (hr r.1 r.2 rfl)

theorem MembersOnly.propose {s : HostSession} (h : s.MembersOnly) (zoneId : String) (actorIds : List String)
    (uuid : String) : (s.travelled (s.travel.propose zoneId actorIds s.players.keys uuid)).MembersOnly := by
  cases hr : s.travel.propose zoneId actorIds s.players.keys uuid with
  | error e => exact h
  | ok r =>
    obtain ⟨-, -, ht, hc⟩ := propose_ok hr
    refine ⟨h.lock, h.dialogs, ?_, h.controllers⟩
    intro t' ht' _ p hp
    have hcurrent : r.2.current = some t' := ht'
    rw [hc] at hcurrent
    cases hcurrent
    rw [ht] at hp
    exact AList.mem_keys.2 (List.mem_toFinset.1 hp)

/-- who takes part after a departure took part before, and has not left -/
theorem removeParticipant_within {c : TravelCoordinator} {p : String} {t' : TravelTxn}
    (ht' : (c.removeParticipant p).2.current = some t') (hf : t'.phase.finished = false) :
    ∃ t, c.current = some t ∧ t.phase.finished = false ∧ t'.participants = t.participants.erase p := by
  unfold TravelCoordinator.removeParticipant at ht'
  cases hc : c.current with
  | none =>
    rw [hc] at ht'
    cases hc.symm.trans ht'
  | some t =>
    rw [hc] at ht'
    dsimp only at ht'
    split_ifs at ht' with hfinished
    · cases hc.symm.trans ht'
      rw [hfinished] at hf
      cases hf
    · cases ht'
      exact ⟨t, rfl, by simpa using hfinished, rfl⟩

/-! ## Players and Sims -/

theorem controllers_members {players : Dict String Player} (hkeyed : Keyed players) {simId p : String}
    (hp : p ∈ controllers players simId) : p ∈ players := by
  obtain ⟨q, hq, -⟩ := (mem_controllers hkeyed).1 hp
  exact AList.lookup_isSome.1 (by rw [hq]; rfl)

theorem controlled_members {players : Dict String Player} (hkeyed : Keyed players) {sims : Dict String Sim}
    {e : Σ _ : String, Sim} (he : e ∈ (controlled players sims).entries) : ∀ p ∈ e.2.controllers, p ∈ players := by
  obtain ⟨e₀, -, rfl⟩ := List.mem_map.1 he
  exact fun p hp => controllers_members hkeyed hp

/-- a recomputed Sim has current players as its controllers, and the others have the ones they had -/
theorem recomputed_members {players : Dict String Player} (hkeyed : Keyed players) {simId : String}
    {sims : Dict String Sim} (hold : ∀ e ∈ sims.entries, ∀ p ∈ e.2.controllers, p ∈ players) {e : Σ _ : String, Sim}
    (he : e ∈ (recomputed players simId sims).entries) : ∀ p ∈ e.2.controllers, p ∈ players := by
  obtain ⟨sim, hsim, hcontrollers⟩ := mem_recomputed he
  intro p hp
  rw [hcontrollers] at hp
  split_ifs at hp
  · exact controllers_members hkeyed hp
  · exact hold _ hsim p hp

/-- more players, the same references, and new controllers read off the players -/
theorem MembersOnly.grow {s s' : HostSession} (h : s.MembersOnly) (hplayers : ∀ p ∈ s.players, p ∈ s'.players)
    (hbuild : s'.build = s.build) (hdialogs : s'.dialogs = s.dialogs) (htravel : s'.travel = s.travel)
    (hsims : ∀ e ∈ s'.sims.entries, ∀ p ∈ e.2.controllers, p ∈ s'.players) : s'.MembersOnly where
  lock owner ho := hplayers owner (h.lock owner (hbuild ▸ ho))
  dialogs e he := hplayers _ (h.dialogs e (hdialogs ▸ he))
  travel t ht hf p hp := hplayers p (h.travel t (htravel ▸ ht) hf p hp)
  controllers := hsims

theorem addPlayerMaybe_keeps (s : HostSession) (id name : String) (m : Option CompatibilityManifest) :
    (s.addPlayerMaybe id name m).build = s.build ∧ (s.addPlayerMaybe id name m).dialogs = s.dialogs ∧
      (s.addPlayerMaybe id name m).travel = s.travel := by
  have hmanifest : ∀ (s : HostSession) (m : CompatibilityManifest),
      (s.setManifest id m).build = s.build ∧ (s.setManifest id m).dialogs = s.dialogs ∧
        (s.setManifest id m).travel = s.travel := by
    intro s m
    unfold setManifest
    split <;> exact ⟨rfl, rfl, rfl⟩
  unfold addPlayerMaybe
  dsimp only
  cases m with
  | none => split <;> [split_ifs; skip] <;> exact ⟨rfl, rfl, rfl⟩
  | some m => split <;> [split_ifs; skip] <;> exact hmanifest _ m

theorem MembersOnly.roster {s : HostSession} (h : s.MembersOnly) (hkeyed : Keyed s.players) (c : RosterCall) :
    (s.call c).MembersOnly := by
  have hkeyed' := keyed_call hkeyed c
  cases c with
  | addPlayer id name m =>
    obtain ⟨v, -, hplayers, -, hsims⟩ := addPlayerMaybe_eq s id name m
    obtain ⟨hbuild, hdialogs, htravel⟩ := addPlayerMaybe_keeps s id name m
    have hgrow : ∀ p ∈ s.players, p ∈ (s.addPlayerMaybe id name m).players := by
      intro p hp
      rw [hplayers, AList.mem_setItem]
      exact Or.inr hp
    have hold : ∀ e ∈ s.sims.entries, ∀ p ∈ e.2.controllers, p ∈ (s.addPlayerMaybe id name m).players :=
      fun e he p hp => hgrow p (h.controllers e he p hp)
    refine h.grow hgrow hbuild hdialogs htravel ?_
    simp only [call] at hkeyed' ⊢
    rcases hsims with ⟨saved, -, -, -, hsims⟩ | ⟨-, -, hsims⟩
    · rw [hsims, ← hplayers]
      exact fun e he => recomputed_members hkeyed' hold he
    · rw [hsims]
      exact hold
  | removePlayer id =>
    obtain ⟨hplayers, htravel, hbuild, -, hdialogs, hsims⟩ := removePlayer_eq s id
    simp only [call] at hkeyed' ⊢
    have hstays : ∀ p ∈ s.players, p ≠ id → p ∈ (s.removePlayer id).players := by
      intro p hp hne
      rw [hplayers]
      exact AList.mem_erase.2 ⟨hne, hp⟩
    refine ⟨?_, ?_, ?_, ?_⟩
    · intro owner ho
      rw [hbuild] at ho
      split_ifs at ho with hid
      · cases ho
      · exact hstays owner (h.lock owner ho) fun he => hid (he ▸ ho)
    · intro e he
      rw [hdialogs] at he
      obtain ⟨he, hne⟩ := disconnect_entries he
      exact hstays _ (h.dialogs e he) hne
    · intro t' ht' hf p hp
      rw [htravel] at ht'
      obtain ⟨t, ht, hft, hparticipants⟩ := removeParticipant_within ht' hf
      rw [hparticipants] at hp
      obtain ⟨hne, hp⟩ := Finset.mem_erase.1 hp
      exact hstays p (h.travel t ht hft p hp) hne
    · rw [hsims, ← hplayers]
      exact fun e he => controlled_members hkeyed' he
  | updateSims sims =>
    rcases call_updateSims s sims with hcall | ⟨r, hcall⟩
    · rwa [hcall]
    · rw [hcall]
      exact h.grow (fun _ hp => hp) rfl rfl rfl fun e he => controlled_members hkeyed he
  | selectSim id simId =>
    rcases call_selectSim s id simId with ⟨hcall, -⟩ | ⟨player, -, -, hcall⟩
    · rwa [hcall]
    · rw [hcall] at hkeyed' ⊢
      have hgrow : ∀ p ∈ s.players, p ∈ s.players.setItem id { player with activeSimId := some simId } :=
        fun p hp => AList.mem_setItem.2 (Or.inr hp)
      refine h.grow hgrow rfl rfl rfl fun e he => recomputed_members hkeyed' ?_ he
      exact fun e he p hp => hgrow p (h.controllers e he p hp)

/-! ## Every call, and every sequence of calls -/

theorem keyed_sessionCall {s : HostSession} (h : Keyed s.players) (c : SessionCall) : Keyed (s.sessionCall c).players := by
  have htravelled : ∀ {α : Type} (r : Except Exc (α × TravelCoordinator)), Keyed (s.travelled r).players := by
    intro α r
    cases r <;> exact h
  cases c with
  | roster c => exact keyed_call h c
  | propose | markReady | beginZoneWait | markZoneReady | abort => exact htravelled _
  | _ => exact h

theorem members_call {s : HostSession} (h : s.MembersOnly) (hkeyed : Keyed s.players) (c : SessionCall)
    (hc : s.Proper c) : (s.sessionCall c).MembersOnly := by
  cases c with
  | roster c => exact h.roster hkeyed c
  | requestLock p t₁ t₂ wall =>
    refine h.withLock (requestLock_ownerWithin s.build p t₁ t₂ wall) fun owner ho => ?_
    cases ho
    exact hc
  | releaseLock p => exact h.withLock (releaseLock_ownerWithin s.build p) fun _ ho => by cases ho
  | submit p op data t₁ t₂ =>
    exact h.withLock (submit_ownerWithin s.build p op data t₁ t₂) fun _ ho => by cases ho
  | openDialog owner dialogType payload uuid =>
    refine ⟨h.lock, fun e he => ?_, h.travel, h.controllers⟩
    rcases openDialog_entries he with he | ho
    · exact h.dialogs e he
    · rw [ho]
      exact hc
  | respond p k response =>
    refine ⟨h.lock, fun e he => ?_, h.travel, h.controllers⟩
    obtain ⟨e₀, he₀, heq⟩ := respond_entries he
    rw [heq]
    exact h.dialogs e₀ he₀
  | propose zoneId actorIds uuid => exact h.propose zoneId actorIds uuid
  | markReady p x e => exact h.travelled fun _ _ hr => markReady_within hr
  | beginZoneWait x =>
    refine h.travelled fun _ c hr => ?_
    cases hb : s.travel.beginZoneWait x with
    | error e =>
      rw [hb] at hr
      cases hr
    | ok c' =>
      rw [hb] at hr
      cases hr
      exact beginZoneWait_within hb
  | markZoneReady p x e => exact h.travelled fun _ _ hr => markZoneReady_within hr
  | abort x =>
    refine h.travelled fun _ c hr => ?_
    cases hb : s.travel.abort x with
    | error e =>
      rw [hb] at hr
      cases hr
    | ok c' =>
      rw [hb] at hr
      cases hr
      exact abort_within hb

theorem members_calls {s : HostSession} (h : s.MembersOnly) (hkeyed : Keyed s.players) (cs : List SessionCall)
    (hcs : s.AllProper cs) : (s.sessionCalls cs).MembersOnly := by
  induction cs generalizing s with
  | nil => exact h
  | cons c cs ih => exact ih (members_call h hkeyed c hcs.1) (keyed_sessionCall hkeyed c) hcs.2

/-- **Only current players.** In a new session, whatever calls are made, with locks and dialogs opened for current
players: the owner of the build lock, the owner of every pending dialog, every participant of an unfinished travel and
every controller of a Sim is a current player. -/
theorem no_former_player (sessionId : String) (hostManifest : CompatibilityManifest) (nativeRequired : Bool)
    (cs : List SessionCall) (hcs : (init sessionId hostManifest nativeRequired).AllProper cs) :
    ((init sessionId hostManifest nativeRequired).sessionCalls cs).MembersOnly := by
  apply members_calls _ _ cs hcs
  · refine ⟨fun _ ho => ?_, fun e he => ?_, fun _ ht => ?_, fun e he => ?_⟩
    · cases ho
    · cases he
    · cases ht
    · cases he
  · intro id p hp
    cases hp

/-- a player takes the lock, a Sim and a dialog, travels, and leaves -/
def visit : List SessionCall :=
  [.roster (.addPlayer "host" "Host" none), .roster (.addPlayer "alice" "Alice" none),
    .roster (.updateSims [.obj [("sim_id", .str "1")]]), .roster (.selectSim "alice" "1"), .requestLock "alice" 0 0 0,
    .openDialog "alice" "ok" [] "dialog", .propose "zone" [] "txn", .markReady "alice" "txn" (some 1),
    .roster (.removePlayer "alice")]

theorem no_former_player_visit : ((init "session" (Host.lanManifest "host") false).sessionCalls visit).MembersOnly :=
  no_former_player _ _ _ visit ⟨trivial, trivial, trivial, trivial, by decide +kernel, by decide +kernel, trivial,
    trivial, trivial, trivial⟩

end HostSession

end KerMP
