/-
The id of the build lease and the lock it belongs to (`BuildAuthority._lease_id` and `lock`).

Both are set by a granted request and cleared by a release and by the removal of the owner. A lock that has run out is
dropped lazily, without its id: a request puts new ones in the place of both, a submit is refused and leaves the id
alone, and a snapshot shows the id and no owner.

- `leaseCall_matches`: which calls keep the two together.
- `lease_id_matches_lock`: they are together all along, and in every snapshot, exactly when no submit comes and no
  snapshot is taken after the lock has run out.
- `submit_too_late`: a refused submit that leaves an id without a lock.
-/
import KerMP.BuildLease

namespace KerMP

open Py

namespace BuildAuthority

/-- the lease id is set exactly when there is a lock, and names its owner -/
def LeaseIdMatches (b : BuildAuthority) : Prop :=
  match b.lock with
  | none => b.leaseId = none
  | some l => ∃ wall : ℕ, b.leaseId = some (l.ownerId ++ ":" ++ toString wall)

/-- there is a lock, and its lease has run out -/
def RunOut (b : BuildAuthority) (now : ℕ) : Prop := ∃ l, b.lock = some l ∧ l.expired now = true

/-- a snapshot with a lease id has an owner -/
def OwnerShown (snapshot : Json) : Prop := snapshot.get "lease_id" = .ok .null ∨ snapshot.get "owner_id" ≠ .ok .null

theorem leaseIdMatches_some {b : BuildAuthority} {l : BuildLock} (hl : b.lock = some l) :
    b.LeaseIdMatches ↔ ∃ wall : ℕ, b.leaseId = some (l.ownerId ++ ":" ++ toString wall) := by
  rw [LeaseIdMatches, hl]

theorem leaseIdMatches_none {b : BuildAuthority} (hl : b.lock = none) : b.LeaseIdMatches ↔ b.leaseId = none := by
  rw [LeaseIdMatches, hl]

theorem dropExpired_of_not_runOut {b : BuildAuthority} {now : ℕ} (h : ¬ b.RunOut now) : b.dropExpired now = b := by
  obtain hd | ⟨l, hl, he, -⟩ := dropExpired_cases b now
  · exact hd
  · exact absurd ⟨l, hl, he⟩ h

theorem dropExpired_of_runOut {b : BuildAuthority} {now : ℕ} (h : b.RunOut now) :
    b.dropExpired now = { b with lock := none } := by
  obtain ⟨l, hl, he⟩ := h
  simp only [dropExpired, hl, he, if_true]

/-! ## One call -/

/-- a request is granted, or refused to leave everything as it is -/
theorem requestLock_matches {b : BuildAuthority} (h : b.LeaseIdMatches) (p : String) (t₁ t₂ wall : ℕ) :
    (b.requestLock p t₁ t₂ wall).2.LeaseIdMatches := by
  unfold requestLock
  dsimp only
  split_ifs with howner
  · exact ⟨wall, rfl⟩
  · have hlive : ¬ b.RunOut t₁ := by
      intro hout
      apply howner
      rw [dropExpired_of_runOut hout]
      exact Or.inl rfl
    rw [dropExpired_of_not_runOut hlive]
    exact h

/-- giving the lock up clears both -/
theorem cleared_matches {b b' : BuildAuthority} {p : String} (h : b.LeaseIdMatches)
    (hb : b' = if b.ownerId = some p then { b with lock := none, leaseId := none } else b) : b'.LeaseIdMatches := by
  rw [hb]
  split_ifs
  · rfl
  · exact h

/-- a submit drops a lock that has run out, and not its id -/
theorem submit_matches {b : BuildAuthority} (h : b.LeaseIdMatches) (p op : String) (data : List (String × Json))
    (t₁ t₂ : ℕ) : (b.submit p op data t₁ t₂).2.LeaseIdMatches ↔ ¬ b.RunOut t₁ := by
  constructor
  · intro hafter hout
    obtain ⟨l, hl, he⟩ := id hout
    obtain ⟨wall, hid⟩ := (leaseIdMatches_some hl).1 h
    have hlive : ¬ b.Authority p t₁ := by
      intro hauth
      obtain ⟨l', hl', -, he'⟩ := hauth
      cases hl.symm.trans hl'
      rw [he] at he'
      cases he'
    rw [submit_of_not_authority hlive, dropExpired_of_runOut hout] at hafter
    rw [LeaseIdMatches, hid] at hafter
    cases hafter
  · intro hlive
    cases hr : b.submit p op data t₁ t₂ with
    | mk r b' =>
      cases r with
      | error e =>
        rw [submit_error hr, dropExpired_of_not_runOut hlive]
        exact h
      | ok o =>
        obtain ⟨-, l, hl, -, hl', -, hid⟩ := submit_renews hr
        rw [leaseIdMatches_some hl', hid]
        exact (leaseIdMatches_some hl).1 h

/-- a snapshot reads the owner of a live lock, and the id as it is -/
theorem ownerShown_iff {b : BuildAuthority} (h : b.LeaseIdMatches) (now : ℕ) :
    OwnerShown (b.snapshot now) ↔ ¬ b.RunOut now := by
  have hid : (b.snapshot now).get "lease_id" = .ok (strOrNull b.leaseId) := rfl
  have howner : (b.snapshot now).get "owner_id" = .ok (strOrNull (b.dropExpired now).ownerId) := rfl
  rw [OwnerShown, hid, howner]
  constructor
  · intro hshown hout
    obtain ⟨l, hl, -⟩ := id hout
    obtain ⟨wall, hwall⟩ := (leaseIdMatches_some hl).1 h
    rw [hwall, dropExpired_of_runOut hout] at hshown
    rcases hshown with hnull | hnone
    · cases hnull
    · exact hnone rfl
  · intro hlive
    rw [dropExpired_of_not_runOut hlive]
    cases hl : b.lock with
    | none =>
      rw [(leaseIdMatches_none hl).1 h]
      exact Or.inl rfl
    | some l =>
      right
      rw [ownerId, hl]
      intro hnull
      cases hnull

end BuildAuthority

namespace HostSession

open BuildAuthority

/-! ## Sequences of calls -/

/-- a submit is not made after the lock has run out -/
def OnTime (b : BuildAuthority) : LeaseCall → Prop
  | .submit _ _ _ t₁ _ => ¬ b.RunOut t₁
  | _ => True

/-- **One call.** The id and the lock stay together, unless a submit comes too late. -/
theorem leaseCall_matches {s : HostSession} (h : s.build.LeaseIdMatches) (c : LeaseCall) :
    (s.leaseCall c).2.build.LeaseIdMatches ↔ OnTime s.build c := by
  cases c with
  | requestLock p t₁ t₂ wall => exact iff_of_true (requestLock_matches h p t₁ t₂ wall) trivial
  | submit p op data t₁ t₂ => exact submit_matches h p op data t₁ t₂
  | releaseLock p =>
    refine iff_of_true (cleared_matches (p := p) h ?_) trivial
    simp only [leaseCall, BuildAuthority.releaseLock]
    split_ifs <;> rfl
  | removePlayer p => exact iff_of_true (cleared_matches h (removePlayer_eq s p).2.2.1) trivial

/-- the session after the first n calls -/
def reached (s : HostSession) (cs : List LeaseCall) (n : ℕ) : HostSession := (s.leaseRun (cs.take n)).1

theorem reached_zero (s : HostSession) (cs : List LeaseCall) : s.reached cs 0 = s := rfl

theorem reached_succ {s : HostSession} {cs : List LeaseCall} {n : ℕ} {c : LeaseCall} (hc : cs[n]? = some c) :
    s.reached cs (n + 1) = ((s.reached cs n).leaseCall c).2 := by
  rw [reached, leaseRun, List.take_add_one, hc, List.foldl_append]
  rfl

theorem reached_end {s : HostSession} {cs : List LeaseCall} {n : ℕ} (hc : cs[n]? = none) :
    s.reached cs (n + 1) = s.reached cs n := by
  rw [reached, List.take_add_one, hc, Option.toList_none, List.append_nil, reached]

/-- id and lock stay together over calls that come on time -/
theorem matches_reached {s : HostSession} (h : s.build.LeaseIdMatches) {cs : List LeaseCall}
    (htime : ∀ n c, cs[n]? = some c → OnTime (s.reached cs n).build c) (n : ℕ) : (s.reached cs n).build.LeaseIdMatches := by
  induction n with
  | zero => exact h
  | succ n ih =>
    cases hc : cs[n]? with
    | none =>
      rw [reached_end hc]
      exact ih
    | some c =>
      rw [reached_succ hc]
      exact (leaseCall_matches ih c).2 (htime n c hc)

/-- **The lease id and the lock.** Whatever calls a new session has had, at whatever readings of the clock: the id is set
exactly with a lock and names its owner, in every state reached and in every snapshot taken there, if and only if no
submit and no snapshot comes after the lock has run out. -/
theorem lease_id_matches_lock (sessionId : String) (hostManifest : CompatibilityManifest) (nativeRequired : Bool)
    (lease historyLimit : ℕ) (cs : List LeaseCall) (snapshots : ℕ → List ℕ) :
    (∀ n, let b := ((newSession sessionId hostManifest nativeRequired lease historyLimit).reached cs n).build
      b.LeaseIdMatches ∧ ∀ now ∈ snapshots n, OwnerShown (b.snapshot now)) ↔
    ∀ n, let b := ((newSession sessionId hostManifest nativeRequired lease historyLimit).reached cs n).build
      (∀ c, cs[n]? = some c → OnTime b c) ∧ ∀ now ∈ snapshots n, ¬ b.RunOut now := by
  set s := newSession sessionId hostManifest nativeRequired lease historyLimit
  have hnew : s.build.LeaseIdMatches := rfl
  dsimp only
  constructor
  · intro h n
    refine ⟨fun c hc => ?_, fun now hnow => (ownerShown_iff (h n).1 now).1 ((h n).2 now hnow)⟩
    have hafter := (h (n + 1)).1
    rw [reached_succ hc] at hafter
    exact (leaseCall_matches (h n).1 c).1 hafter
  · intro h n
    have hmatches : (s.reached cs n).build.LeaseIdMatches := matches_reached hnew (fun k => (h k).1) n
    exact ⟨hmatches, fun now hnow => (ownerShown_iff hmatches now).2 ((h n).2 now hnow)⟩

/-- alice is granted the lock for 8 units, and submits after 9: refused, the lock is gone and its id is not -/
def tooLate : List LeaseCall := [.requestLock "alice" 0 0 0, .submit "alice" "wall.create" [] 9 9]

theorem submit_too_late :
    ¬ ∀ n, (((newSession "session" (Host.lanManifest "host") false 8 128).reached tooLate n).build).LeaseIdMatches := by
  intro h
  have hlock : ((newSession "session" (Host.lanManifest "host") false 8 128).reached tooLate 2).build.lock = none := by
    decide
  have hid : ((newSession "session" (Host.lanManifest "host") false 8 128).reached tooLate 2).build.leaseId =
      some "alice:0" := by
    decide
  have hnone := (leaseIdMatches_none hlock).1 (h 2)
  rw [hid] at hnone
  cases hnone

end HostSession

end KerMP
