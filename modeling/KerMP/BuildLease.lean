/-
The build lease over whole sequences of calls (`BuildAuthority.request_lock`, `release_lock`, `submit`,
`HostSession.remove_player`).

`BuildLock` says who holds the lease now, and forgets why. `LiveLease` reads it off the calls made so far instead: who was
granted the lock last, whether that player has given it up since, and how long ago its latest grant or accepted operation
was. The two agree after every sequence of calls, whatever is dropped lazily on the way (`leased_call`).

- `exclusive_authority`: a submit succeeds exactly for the player with the live lease, and a request succeeds exactly
  when no other player has one.
-/
import KerMP.Host.System

namespace KerMP

open Py

/-- `BuildAuthority(lease_seconds, history_limit)` -/
def BuildAuthority.new (leaseSeconds historyLimit : ℕ) : BuildAuthority := ⟨leaseSeconds, none, 0, historyLimit, [], none⟩

namespace HostSession

/-! ## Calls -/

/-- a call, with the readings of the clock it takes -/
inductive LeaseCall where
  | requestLock (playerId : String) (t₁ t₂ wall : ℕ)
  | releaseLock (playerId : String)
  | submit (playerId op : String) (data : List (String × Json)) (t₁ t₂ : ℕ)
  | removePlayer (playerId : String)

def LeaseCall.readings : LeaseCall → List ℕ
  | .requestLock _ t₁ t₂ _ | .submit _ _ _ t₁ t₂ => [t₁, t₂]
  | .releaseLock _ | .removePlayer _ => []

/-- the clock never goes back -/
def Chronological (cs : List LeaseCall) : Prop := (cs.flatMap LeaseCall.readings).Pairwise (· ≤ ·)

/-- whether the call succeeds, and what it leaves -/
def leaseCall (s : HostSession) : LeaseCall → Bool × HostSession
  | .requestLock playerId t₁ t₂ wall =>
    ((s.build.requestLock playerId t₁ t₂ wall).1, { s with build := (s.build.requestLock playerId t₁ t₂ wall).2 })
  | .releaseLock playerId => ((s.build.releaseLock playerId).1, { s with build := (s.build.releaseLock playerId).2 })
  | .submit playerId op data t₁ t₂ =>
    ((s.build.submit playerId op data t₁ t₂).1.isOk, { s with build := (s.build.submit playerId op data t₁ t₂).2 })
  | .removePlayer playerId => (true, s.removePlayer playerId)

/-- the calls made so far and whether each succeeded, the latest first -/
abbrev LeaseLog := List (LeaseCall × Bool)

def leaseStep (x : HostSession × LeaseLog) (c : LeaseCall) : HostSession × LeaseLog :=
  ((x.1.leaseCall c).2, (c, (x.1.leaseCall c).1) :: x.2)

def leaseRun (s : HostSession) (cs : List LeaseCall) : HostSession × LeaseLog := cs.foldl leaseStep (s, [])

/-! ## Live leases -/

/-- the player an entry grants the lock to -/
def grantee : LeaseCall × Bool → Option String
  | (.requestLock playerId _ _ _, true) => some playerId
  | _ => none

/-- the time of a grant to the player, or of an operation accepted from it -/
def renewal (playerId : String) : LeaseCall × Bool → Option ℕ
  | (.requestLock p _ t₂ _, true) | (.submit p _ _ _ t₂, true) => if p = playerId then some t₂ else none
  | _ => none

/-- the player gives the lock up, or leaves -/
def Ends (playerId : String) : LeaseCall → Prop
  | .releaseLock p | .removePlayer p => p = playerId
  | _ => False

/-- What a lease rests on: the last grant is the player's, the player has neither released the lock nor been removed
since, and its latest grant or accepted operation is at most `lease` old. -/
structure LiveLease (lease : ℕ) (log : LeaseLog) (playerId : String) (now : ℕ) : Prop where
  last : log.findSome? grantee = some playerId
  kept : ∀ e ∈ log.takeWhile fun e => (grantee e).isNone, ¬ Ends playerId e.1
  fresh : ∃ t, log.findSome? (renewal playerId) = some t ∧ now ≤ t + lease

variable {lease now : ℕ} {log : LeaseLog} {p q : String}

theorem liveLease_nil : ¬ LiveLease lease [] q now := by
  intro h
  cases h.last

/-- an entry that grants, renews and ends nothing -/
theorem liveLease_cons_of_quiet {e : LeaseCall × Bool} (hgrant : grantee e = none) (hrenew : renewal q e = none)
    (hends : ¬ Ends q e.1) : LiveLease lease (e :: log) q now ↔ LiveLease lease log q now := by
  constructor
  · intro h
    obtain ⟨hlast, hkept, hfresh⟩ := h
    simp only [List.findSome?_cons, hgrant, hrenew, List.takeWhile_cons, Option.isNone_none, if_true,
      List.forall_mem_cons] at hlast hkept hfresh
    exact ⟨hlast, hkept.2, hfresh⟩
  · intro h
    refine ⟨?_, ?_, ?_⟩
    · simpa only [List.findSome?_cons, hgrant] using h.last
    · simp only [List.takeWhile_cons, hgrant, Option.isNone_none, if_true, List.forall_mem_cons]
      exact ⟨hends, h.kept⟩
    · simpa only [List.findSome?_cons, hrenew] using h.fresh

/-- the player who gives the lock up has no lease, and nobody else is affected -/
theorem liveLease_cons_of_ends {c : LeaseCall} {ok : Bool} (hends : ∀ q, Ends q c ↔ p = q) :
    LiveLease lease ((c, ok) :: log) q now ↔ q ≠ p ∧ LiveLease lease log q now := by
  have hgrant : grantee (c, ok) = none := by
    cases c with
    | requestLock => exact absurd rfl fun h => (hends p).2 h
    | submit => exact absurd rfl fun h => (hends p).2 h
    | releaseLock => rfl
    | removePlayer => rfl
  have hrenew : renewal q (c, ok) = none := by
    cases c with
    | requestLock => exact absurd rfl fun h => (hends p).2 h
    | submit => exact absurd rfl fun h => (hends p).2 h
    | releaseLock => rfl
    | removePlayer => rfl
  by_cases hq : p = q
  · constructor
    · intro h
      have hkept := h.kept (c, ok)
      simp only [List.takeWhile_cons, hgrant, Option.isNone_none, if_true, List.mem_cons, true_or, forall_const] at hkept
      exact absurd ((hends q).2 hq) hkept
    · exact fun h => absurd hq.symm h.1
  · rw [liveLease_cons_of_quiet hgrant hrenew fun h => hq ((hends q).1 h)]
    exact ⟨fun h => ⟨fun heq => hq heq.symm, h⟩, fun h => h.2⟩

theorem liveLease_cons_granted {t₁ t₂ wall : ℕ} :
    LiveLease lease ((.requestLock p t₁ t₂ wall, true) :: log) q now ↔ q = p ∧ now ≤ t₂ + lease := by
  constructor
  · intro h
    obtain rfl : p = q := Option.some.inj h.last
    obtain ⟨t, ht, hnow⟩ := h.fresh
    simp only [List.findSome?_cons, renewal, if_true, Option.some.injEq] at ht
    exact ⟨rfl, ht ▸ hnow⟩
  · intro h
    obtain ⟨rfl, hnow⟩ := h
    refine ⟨rfl, ?_, t₂, ?_, hnow⟩
    · simp [grantee]
    · simp [renewal]

/-- an accepted operation renews the lease it was accepted under -/
theorem liveLease_cons_submitted {op : String} {data : List (String × Json)} {t t₁ t₂ : ℕ}
    (hlive : LiveLease lease log p t) :
    LiveLease lease ((.submit p op data t₁ t₂, true) :: log) q now ↔ q = p ∧ now ≤ t₂ + lease := by
  constructor
  · intro h
    have hlast := h.last
    simp only [List.findSome?_cons, grantee, hlive.last, Option.some.injEq] at hlast
    subst hlast
    obtain ⟨t, ht, hnow⟩ := h.fresh
    simp only [List.findSome?_cons, renewal, if_true, Option.some.injEq] at ht
    exact ⟨rfl, ht ▸ hnow⟩
  · intro h
    obtain ⟨rfl, hnow⟩ := h
    refine ⟨?_, ?_, t₂, ?_, hnow⟩
    · simpa only [List.findSome?_cons, grantee] using hlive.last
    · simp only [List.takeWhile_cons, grantee, Option.isNone_none, if_true, List.forall_mem_cons]
      exact ⟨fun h => h, hlive.kept⟩
    · simp [renewal]

/-! ## The lock and the log -/

/-- from `clock` on, the lock is held by the player with the live lease -/
structure Leased (lease : ℕ) (s : HostSession) (log : LeaseLog) (clock : ℕ) : Prop where
  seconds : s.build.leaseSeconds = lease
  lock : ∀ l, s.build.lock = some l → l.leaseSeconds = lease
  agrees : ∀ q now, clock ≤ now → (s.build.Authority q now ↔ LiveLease lease log q now)

end HostSession

namespace BuildAuthority

theorem expired_eq_false {l : BuildLock} {now : ℕ} : l.expired now = false ↔ now ≤ l.acquiredAt + l.leaseSeconds := by
  simp [BuildLock.expired]
  omega

/-- what is dropped lazily had run out already -/
theorem dropExpired_authority {b : BuildAuthority} {t now : ℕ} (ht : t ≤ now) (q : String) :
    (b.dropExpired t).Authority q now ↔ b.Authority q now := by
  constructor
  · intro h
    obtain ⟨l, hl, ho, he⟩ := h
    exact ⟨l, (dropExpired_lock.1 hl).1, ho, he⟩
  · intro h
    obtain ⟨l, hl, ho, he⟩ := h
    refine ⟨l, dropExpired_lock.2 ⟨hl, ?_⟩, ho, he⟩
    rw [expired_eq_false] at he ⊢
    omega

theorem dropExpired_leaseSeconds (b : BuildAuthority) (t : ℕ) : (b.dropExpired t).leaseSeconds = b.leaseSeconds := by
  obtain h | ⟨l, -, -, h⟩ := dropExpired_cases b t <;> rw [h]

theorem requestLock_leaseSeconds (b : BuildAuthority) (p : String) (t₁ t₂ wall : ℕ) :
    (b.requestLock p t₁ t₂ wall).2.leaseSeconds = b.leaseSeconds := by
  unfold requestLock
  dsimp only
  split_ifs <;> exact dropExpired_leaseSeconds b t₁

/-- an accepted operation renews the lock of its player -/
theorem submit_renews {b b' : BuildAuthority} {p op : String} {data : List (String × Json)} {t₁ t₂ : ℕ}
    {o : BuildOperation} (h : b.submit p op data t₁ t₂ = (.ok o, b')) :
    b.Authority p t₁ ∧ ∃ l, b.lock = some l ∧ l.ownerId = p ∧ b'.lock = some { l with acquiredAt := t₂ } ∧
      b'.leaseSeconds = b.leaseSeconds ∧ b'.leaseId = b.leaseId := by
  have hauth := (submit_ok h).1
  obtain ⟨l, hl, ho, -⟩ := id hauth
  refine ⟨hauth, l, hl, ho, ?_⟩
  unfold submit at h
  dsimp only at h
  rw [dropExpired_of_live hauth] at h
  split at h
  · cases h
  · rename_i l' hl'
    cases hl.symm.trans hl'
    rw [if_neg (not_not.2 ho)] at h
    split at h
    · cases h
    · cases h
      exact ⟨rfl, rfl, rfl⟩

theorem authority_of_lock {b : BuildAuthority} {l : BuildLock} (h : b.lock = some l) (q : String) (now : ℕ) :
    b.Authority q now ↔ q = l.ownerId ∧ now ≤ l.acquiredAt + l.leaseSeconds := by
  constructor
  · intro hq
    obtain ⟨l', hl', ho, he⟩ := hq
    cases h.symm.trans hl'
    exact ⟨ho.symm, expired_eq_false.1 he⟩
  · intro hq
    exact ⟨l, h, hq.1.symm, expired_eq_false.2 hq.2⟩

/-- giving the lock up -/
theorem cleared_authority {b b' : BuildAuthority} {p : String}
    (hb : b' = if b.ownerId = some p then { b with lock := none, leaseId := none } else b) (q : String) (now : ℕ) :
    b'.Authority q now ↔ q ≠ p ∧ b.Authority q now := by
  subst hb
  split_ifs with hp
  · constructor
    · intro h
      obtain ⟨l, hl, -⟩ := h
      cases hl
    · intro h
      obtain ⟨hq, l, hl, ho, -⟩ := h
      rw [ownerId, hl, Option.map_some, ho] at hp
      exact absurd (Option.some.inj hp) hq
  · refine ⟨fun h => ⟨?_, h⟩, fun h => h.2⟩
    obtain ⟨l, hl, ho, -⟩ := h
    intro hq
    apply hp
    rw [ownerId, hl, Option.map_some, ho, hq]

end BuildAuthority

namespace HostSession

open BuildAuthority

variable {lease clock : ℕ} {log : LeaseLog} {s : HostSession}

/-- a player's request is granted unless another one has a live lease -/
theorem Leased.request (h : Leased lease s log clock) {p : String} {t₁ t₂ wall : ℕ} (ht : clock ≤ t₁) :
    (s.build.requestLock p t₁ t₂ wall).1 = true ↔ ∀ q, LiveLease lease log q t₁ → q = p := by
  rw [requestLock_granted]
  constructor
  · intro hfree q hlive
    obtain ⟨l, hl, ho, he⟩ := (h.agrees q t₁ ht).2 hlive
    rcases hfree l hl with he' | ho'
    · rw [he] at he'
      cases he'
    · exact ho.symm.trans ho'
  · intro hnone l hl
    by_contra hno
    obtain ⟨he, ho⟩ := not_or.1 hno
    have hauth : s.build.Authority l.ownerId t₁ := ⟨l, hl, rfl, by simpa using he⟩
    exact ho (hnone _ ((h.agrees _ t₁ ht).1 hauth))

/-- an operation is accepted from the player with the live lease, when it is valid -/
theorem Leased.submit (h : Leased lease s log clock) {p op : String} {data : List (String × Json)} {t₁ t₂ : ℕ}
    (ht : clock ≤ t₁) : (s.build.submit p op data t₁ t₂).1.isOk = true ↔
      LiveLease lease log p t₁ ∧ (validateBuildData op data).isOk = true := by
  rw [← h.agrees p t₁ ht]
  by_cases hauth : s.build.Authority p t₁
  · cases hv : validateBuildData op data with
    | ok d =>
      rw [submit_of_authority hauth hv]
      simp [hauth, Except.isOk, Except.toBool]
    | error e =>
      obtain ⟨l, hl, ho, -⟩ := id hauth
      simp [BuildAuthority.submit, dropExpired_of_live hauth, hl, ho, hv, Except.isOk, Except.toBool]
  · rw [submit_of_not_authority hauth]
    simp [hauth, Except.isOk, Except.toBool]

/-! ## One call -/

theorem Leased.requestLock (h : Leased lease s log clock) {p : String} {t₁ t₂ wall : ℕ} (ht : clock ≤ t₁)
    (ht₂ : t₁ ≤ t₂) : Leased lease (s.leaseCall (.requestLock p t₁ t₂ wall)).2
      ((.requestLock p t₁ t₂ wall, (s.leaseCall (.requestLock p t₁ t₂ wall)).1) :: log) t₂ := by
  simp only [leaseCall]
  cases hr : (s.build.requestLock p t₁ t₂ wall).1 with
  | true =>
    have hlock := requestLock_owner hr
    refine ⟨?_, ?_, ?_⟩
    · rw [requestLock_leaseSeconds, h.seconds]
    · intro l hl
      rw [hlock, Option.some.injEq] at hl
      rw [← hl, h.seconds]
    · intro q now hnow
      rw [authority_of_lock hlock, liveLease_cons_granted, h.seconds]
  | false =>
    have hb : (s.build.requestLock p t₁ t₂ wall).2 = s.build.dropExpired t₁ := by
      unfold BuildAuthority.requestLock at hr ⊢
      dsimp only at hr ⊢
      split_ifs at hr ⊢
      rfl
    rw [hb]
    refine ⟨?_, ?_, ?_⟩
    · rw [dropExpired_leaseSeconds, h.seconds]
    · intro l hl
      exact h.lock l (dropExpired_lock.1 hl).1
    · intro q now hnow
      have hquiet : LiveLease lease ((.requestLock p t₁ t₂ wall, false) :: log) q now ↔ LiveLease lease log q now :=
        liveLease_cons_of_quiet rfl rfl fun hends => hends
      rw [dropExpired_authority (by omega), h.agrees q now (by omega), hquiet]

theorem Leased.ended (h : Leased lease s log clock) {c : LeaseCall} {ok : Bool} {p : String}
    (hends : ∀ q, Ends q c ↔ p = q) {s' : HostSession}
    (hb : s'.build = if s.build.ownerId = some p then { s.build with lock := none, leaseId := none } else s.build) :
    Leased lease s' ((c, ok) :: log) clock := by
  refine ⟨?_, ?_, ?_⟩
  · rw [hb]
    split_ifs
    · exact h.seconds
    · exact h.seconds
  · intro l hl
    rw [hb] at hl
    split_ifs at hl
    exact h.lock l hl
  · intro q now hnow
    rw [cleared_authority hb, liveLease_cons_of_ends hends, h.agrees q now hnow]

theorem Leased.submitted (h : Leased lease s log clock) {p op : String} {data : List (String × Json)} {t₁ t₂ : ℕ}
    (ht : clock ≤ t₁) (ht₂ : t₁ ≤ t₂) : Leased lease (s.leaseCall (.submit p op data t₁ t₂)).2
      ((.submit p op data t₁ t₂, (s.leaseCall (.submit p op data t₁ t₂)).1) :: log) t₂ := by
  simp only [leaseCall]
  cases hr : s.build.submit p op data t₁ t₂ with
  | mk r b =>
    cases r with
    | ok o =>
      obtain ⟨hauth, l, hl, ho, hb, hseconds, -⟩ := submit_renews hr
      have hlive := (h.agrees p t₁ ht).1 hauth
      refine ⟨hseconds.trans h.seconds, ?_, ?_⟩
      · intro l' hl'
        cases hb.symm.trans hl'
        exact h.lock l hl
      · intro q now hnow
        rw [authority_of_lock hb]
        dsimp only [Except.isOk, Except.toBool]
        rw [liveLease_cons_submitted hlive, h.lock l hl, ho]
    | error e =>
      have hb := submit_error hr
      dsimp only [Except.isOk, Except.toBool]
      rw [hb]
      refine ⟨?_, ?_, ?_⟩
      · rw [dropExpired_leaseSeconds, h.seconds]
      · intro l hl
        exact h.lock l (dropExpired_lock.1 hl).1
      · intro q now hnow
        have hquiet : LiveLease lease ((.submit p op data t₁ t₂, false) :: log) q now ↔ LiveLease lease log q now :=
          liveLease_cons_of_quiet rfl rfl fun hends => hends
        rw [dropExpired_authority (by omega), h.agrees q now (by omega), hquiet]

/-- **One call.** The lock and the log agree after it, from its last reading on. -/
theorem leased_call (h : Leased lease s log clock) (c : LeaseCall) (hc : (clock :: c.readings).Pairwise (· ≤ ·)) :
    ∃ clock' ∈ clock :: c.readings, Leased lease (s.leaseCall c).2 ((c, (s.leaseCall c).1) :: log) clock' := by
  cases c with
  | requestLock p t₁ t₂ wall =>
    simp only [LeaseCall.readings, List.pairwise_cons, List.forall_mem_cons] at hc
    exact ⟨t₂, by simp [LeaseCall.readings], h.requestLock hc.1.1 hc.2.1.1⟩
  | submit p op data t₁ t₂ =>
    simp only [LeaseCall.readings, List.pairwise_cons, List.forall_mem_cons] at hc
    exact ⟨t₂, by simp [LeaseCall.readings], h.submitted hc.1.1 hc.2.1.1⟩
  | releaseLock p =>
    refine ⟨clock, by simp, h.ended (fun q => Iff.rfl) ?_⟩
    simp only [leaseCall, BuildAuthority.releaseLock]
    split_ifs <;> rfl
  | removePlayer p => exact ⟨clock, by simp, h.ended (fun q => Iff.rfl) (removePlayer_eq s p).2.2.1⟩

/-! ## Sequences of calls -/

theorem leased_calls (h : Leased lease s log clock) (cs : List LeaseCall)
    (hcs : (clock :: cs.flatMap LeaseCall.readings).Pairwise (· ≤ ·)) :
    ∃ clock' ∈ clock :: cs.flatMap LeaseCall.readings,
      Leased lease (cs.foldl leaseStep (s, log)).1 (cs.foldl leaseStep (s, log)).2 clock' := by
  induction cs generalizing s log clock with
  | nil => exact ⟨clock, by simp, h⟩
  | cons c cs ih =>
    rw [List.flatMap_cons, ← List.cons_append, List.pairwise_append] at hcs
    obtain ⟨hc, hrest, hle⟩ := hcs
    obtain ⟨clock₁, hmem, h₁⟩ := leased_call h c hc
    obtain ⟨clock', hmem', h'⟩ := ih h₁ (List.pairwise_cons.2 ⟨hle clock₁ hmem, hrest⟩)
    refine ⟨clock', ?_, h'⟩
    rw [List.flatMap_cons, ← List.cons_append]
    rcases List.mem_cons.1 hmem' with rfl | hmem'
    · exact List.mem_append_left _ hmem
    · exact List.mem_append_right _ hmem'

/-- a new session, with a new build authority -/
def newSession (sessionId : String) (hostManifest : CompatibilityManifest) (nativeRequired : Bool)
    (lease historyLimit : ℕ) : HostSession :=
  { init sessionId hostManifest nativeRequired with build := .new lease historyLimit }

/-- **Exclusive build authority.** Whatever calls a new session has had, at readings that never go back: the next submit
succeeds exactly when its player has the live lease and its operation is valid, and the next request succeeds exactly
when no other player has a live lease. -/
theorem exclusive_authority (sessionId : String) (hostManifest : CompatibilityManifest) (nativeRequired : Bool)
    (lease historyLimit : ℕ) (cs : List LeaseCall) (c : LeaseCall) (h : Chronological (cs ++ [c])) (s : HostSession)
    (log : LeaseLog) (hrun : (newSession sessionId hostManifest nativeRequired lease historyLimit).leaseRun cs = (s, log)) :
    (∀ p op data t₁ t₂, c = .submit p op data t₁ t₂ → ((s.leaseCall c).1 = true ↔
      LiveLease lease log p t₁ ∧ (validateBuildData op data).isOk = true)) ∧
    (∀ p t₁ t₂ wall, c = .requestLock p t₁ t₂ wall → ((s.leaseCall c).1 = true ↔
      ∀ q, LiveLease lease log q t₁ → q = p)) := by
  have hstart : Leased lease (newSession sessionId hostManifest nativeRequired lease historyLimit) [] 0 := by
    refine ⟨rfl, ?_, ?_⟩
    · intro l hl
      cases hl
    · intro q now hnow
      refine ⟨fun h => ?_, fun h => absurd h liveLease_nil⟩
      obtain ⟨l, hl, -⟩ := h
      cases hl
  rw [Chronological, List.flatMap_append, List.pairwise_append] at h
  obtain ⟨hcs, -, hle⟩ := h
  obtain ⟨clock, hclock, hleased⟩ := leased_calls hstart cs (List.pairwise_cons.2 ⟨fun _ _ => Nat.zero_le _, hcs⟩)
  rw [leaseRun] at hrun
  rw [hrun] at hleased
  have hnow : ∀ t ∈ c.readings, clock ≤ t := by
    intro t ht
    rcases List.mem_cons.1 hclock with rfl | hmem
    · exact Nat.zero_le t
    · exact hle clock hmem t (by simpa using ht)
  constructor
  · intro p op data t₁ t₂ hc
    subst hc
    exact hleased.submit (hnow t₁ (by simp [LeaseCall.readings]))
  · intro p t₁ t₂ wall hc
    subst hc
    exact hleased.request (hnow t₁ (by simp [LeaseCall.readings]))

/-- alice is granted the lock; when her lease is exactly up, bob's request is still refused -/
theorem exclusive_authority_boundary :
    ∃ q, LiveLease 8 [(.requestLock "alice" 0 0 0, true)] q 8 ∧ q ≠ "bob" := by
  have h := (exclusive_authority "session" (Host.lanManifest "host") false 8 128 [.requestLock "alice" 0 0 0]
    (.requestLock "bob" 8 8 0) (by simp [Chronological, LeaseCall.readings]) _ [(.requestLock "alice" 0 0 0, true)]
    rfl).2 "bob" 8 8 0 rfl
  have hrefused : (((newSession "session" (Host.lanManifest "host") false 8 128).leaseRun
      [.requestLock "alice" 0 0 0]).1.leaseCall (.requestLock "bob" 8 8 0)).1 = false := by
    decide
  by_contra hnone
  have hgranted := h.2 fun q hq => by_contra fun hne => hnone ⟨q, hq, hne⟩
  exact absurd (hrefused.symm.trans hgranted) (by decide)

end HostSession

end KerMP
