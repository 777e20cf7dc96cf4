/-
What a broadcast brings about over a whole run (`KerMPHost.broadcast`, `_drop` and `_handle_conn` of `kermp/net.py`).

Handlers overlap: a broadcast waits for each socket, and meanwhile players join and leave and other broadcasts start and
end. The log says who was registered when it began, who left, and what was written to whom.

Results:
- `broadcasts_delivered`: after every run, when no handler is suspended, every broadcast was either cut short, or has
  been written, once, to each player that was registered when it began and has not left since.
- `written_was_announced`: at every moment of every run, an envelope with a number is one of the broadcast that was
  announced under this number, written to a player that was registered when it began, and to none twice.
-/
import KerMP.Lib.Streams
import KerMP.Host.Watch
import KerMP.Host.Relay

namespace KerMP.Host

open Py Coop
open Coro hiding pure get modify

/-! ## What the log tells -/

/-- the connection a player is registered with, as the log tells -/
def registration : List Out → String → Option ℕ
  | [], _ => none
  | .joined q conn :: log, p => if q = p then some conn else registration log p
  | .left q _ :: log, p => if q = p then none else registration log p
  | _ :: log, p => registration log p

/-- the number of the broadcast an entry belongs to -/
def Out.number : Out → Option ℤ
  | .sending _ _ n _ | .cut _ n => some n
  | .wrote _ _ env => numberOf env
  | _ => none

/-- an envelope of the broadcast with this number to this player -/
def Out.reaches (n : ℕ) (player : String) : Out → Bool
  | .wrote p _ env => p == player && numberOf env == some (n : ℤ)
  | _ => false

/-- sent as announced; a request that goes by reference may have got another status since -/
def SameContent (announced sent : Json) : Prop :=
  sent = announced ∨ ∃ r r', announced = .obj r ∧ sent = .obj r' ∧ (r = [] ∨ HostSession.core r' = HostSession.core r)

/-- what has become of a broadcast: `older` is the log when it began, `newer` what came after -/
structure Delivered (type : MessageType) (n : ℕ) (newer older : List Out) : Prop where
  once : ∀ p, newer.countP (Out.reaches n p) ≤ 1
  all : .cut type n ∈ newer ∨ ∀ p conn, registration older p = some conn → (∀ travel, .left p travel ∉ newer) →
    ∃ env, .wrote p conn env ∈ newer ∧ numberOf env = some (n : ℤ)

/-- every envelope with a number is one of a broadcast that was announced, to a player registered when it began -/
def Sourced (log : List Out) : Prop :=
  ∀ p conn env n, .wrote p conn env ∈ log → numberOf env = some n →
    ∃ newer payload, ∃ k : ℕ, ∃ travel older, log = newer ++ .sending env.type payload k travel :: older ∧ n = k ∧
      SameContent payload env.payload ∧ (registration older p).isSome

/-! ## The log of members -/

/-- a player joins only when it is not registered -/
def Joins : List Out → Prop
  | [] => True
  | .joined p _ :: log => registration log p = none ∧ Joins log
  | _ :: log => Joins log

/-- neither an arrival nor a departure -/
def Out.steady : Out → Bool
  | .joined _ _ | .left _ _ => false
  | _ => true

theorem registration_steady {o : Out} (ho : o.steady = true) (log : List Out) (p : String) :
    registration (o :: log) p = registration log p := by
  cases o with
  | joined | left => cases ho
  | _ => rfl

theorem joins_steady {o : Out} (ho : o.steady = true) (log : List Out) : Joins (o :: log) ↔ Joins log := by
  cases o with
  | joined | left => cases ho
  | _ => exact Iff.rfl

theorem registration_append_steady {os : List Out} (hos : ∀ o ∈ os, o.steady = true) (log : List Out) (p : String) :
    registration (os ++ log) p = registration log p := by
  induction os with
  | nil => rfl
  | cons o os ih =>
    rw [List.cons_append, registration_steady (hos o List.mem_cons_self)]
    exact ih fun x hx => hos x (List.mem_cons_of_mem o hx)

theorem joins_append_steady {os : List Out} (hos : ∀ o ∈ os, o.steady = true) (log : List Out) :
    Joins (os ++ log) ↔ Joins log := by
  induction os with
  | nil => exact Iff.rfl
  | cons o os ih =>
    rw [List.cons_append, joins_steady (hos o List.mem_cons_self)]
    exact ih fun x hx => hos x (List.mem_cons_of_mem o hx)

/-- who has not left keeps its connection -/
theorem registration_stays {newer older : List Out} {p : String} {conn : ℕ} (hj : Joins (newer ++ older))
    (hp : registration older p = some conn) (hstays : ∀ travel, .left p travel ∉ newer) :
    registration (newer ++ older) p = some conn := by
  induction newer with
  | nil => exact hp
  | cons o newer ih =>
    have hrest : ∀ travel, .left p travel ∉ newer := fun travel hmem => hstays travel (List.mem_cons_of_mem o hmem)
    cases o with
    | joined q c =>
      have hold := ih hj.2 hrest
      have hne : q ≠ p := by
        rintro rfl
        have hnone := hj.1
        rw [List.append_eq, hold] at hnone
        cases hnone
      simp only [List.cons_append, registration, if_neg hne]
      exact hold
    | left q travel =>
      have hne : q ≠ p := by
        rintro rfl
        exact hstays travel List.mem_cons_self
      simp only [List.cons_append, registration, if_neg hne]
      exact ih hj hrest
    | _ => exact ih hj hrest

/-! ## Announcements -/

/-- the number that an entry announces -/
def Out.announces : Out → Option ℕ
  | .sending _ _ n _ => some n
  | _ => none

/-- the numbers of the broadcasts that were announced, newest first -/
def announced (log : List Out) : List ℕ := log.filterMap Out.announces

@[simp] theorem announced_append (os log : List Out) : announced (os ++ log) = announced os ++ announced log :=
  List.filterMap_append

@[simp] theorem announced_sending (type : MessageType) (payload : Json) (n : ℕ) (travel : Option Travel.TravelTxn)
    (log : List Out) : announced (.sending type payload n travel :: log) = n :: announced log := rfl

theorem mem_announced {log : List Out} {n : ℕ} :
    n ∈ announced log ↔ ∃ type payload travel, .sending type payload n travel ∈ log := by
  simp only [announced, List.mem_filterMap]
  constructor
  · rintro ⟨o, ho, hn⟩
    cases o with
    | sending type payload k travel =>
      cases hn
      exact ⟨type, payload, travel, ho⟩
    | _ => cases hn
  · rintro ⟨type, payload, travel, ho⟩
    exact ⟨_, ho, rfl⟩

/-- a number is announced once -/
theorem announcement_unique {newer newer' older older' : List Out} {type type' : MessageType} {payload payload' : Json}
    {n : ℕ} {travel travel' : Option Travel.TravelTxn}
    (h : newer ++ .sending type payload n travel :: older = newer' ++ .sending type' payload' n travel' :: older')
    (hsorted : (announced (newer ++ .sending type payload n travel :: older)).Pairwise (· > ·)) :
    newer = newer' ∧ type = type' ∧ payload = payload' ∧ older = older' := by
  obtain ⟨hnewer, hentry, holder⟩ := @Streams.split_unique _ _ _ Out.announces _ _ _ _ _ _ n rfl rfl h hsorted
  cases hentry
  exact ⟨hnewer, rfl, rfl, holder⟩

theorem announced_once {log : List Out} {type type' : MessageType} {payload payload' : Json} {n : ℕ}
    {travel travel' : Option Travel.TravelTxn} (h : .sending type payload n travel ∈ log)
    (h' : .sending type' payload' n travel' ∈ log) (hsorted : (announced log).Pairwise (· > ·)) :
    type = type' ∧ payload = payload' := by
  obtain ⟨newer, older, rfl⟩ := List.append_of_mem h
  obtain ⟨newer', older', hlog⟩ := List.append_of_mem h'
  obtain ⟨-, htype, hpayload, -⟩ := announcement_unique hlog hsorted
  exact ⟨htype, hpayload⟩

theorem announced_unnumbered {os : List Out} (hos : ∀ o ∈ os, o.number = none) : announced os = [] := by
  rw [announced, List.filterMap_eq_nil_iff]
  intro o ho
  cases o with
  | sending type payload n travel => exact absurd (hos _ ho) (by simp [Out.number])
  | _ => rfl

/-! ## The invariant -/

/-- between two steps: the log knows the members, numbers grow, and nothing is written that was not announced -/
structure Tracked (h : Host) : Prop where
  members : ∀ p, registration h.log p = h.connOf p
  joins : Joins h.log
  bound : ∀ o ∈ h.log, ∀ n, o.number = some n → n ≤ h.seq
  sorted : (announced h.log).Pairwise (· > ·)
  positive : ∀ n ∈ announced h.log, 0 < n
  origin : Sourced h.log

/-- what any step of any handler does -/
structure Grows (h h' : Host) : Prop where
  seq : h.seq ≤ h'.seq
  log : h.log <:+ h'.log
  kept : HostSession.Kept h.session.interactionRequests h'.session.interactionRequests

theorem Grows.refl (h : Host) : Grows h h := ⟨le_rfl, List.suffix_rfl, .refl _⟩

theorem Grows.trans {a b c : Host} (d : Grows a b) (d' : Grows b c) : Grows a c :=
  ⟨d.seq.trans d'.seq, d.log.trans d'.log, d.kept.trans d'.kept⟩

/-- number `m + 1` is drawn once, and then only its broadcast makes entries with it -/
def delivering : Discipline Host ℕ where
  inv := Tracked
  guar := Grows
  rely := Grows
  free m h := h.seq ≤ m
  keeps m h h' := ∃ os, h'.log = os ++ h.log ∧ ∀ o ∈ os, o.number ≠ some ((m + 1 : ℕ) : ℤ)

theorem delivering_lawful : delivering.Lawful where
  refl := Grows.refl
  guar_refl := Grows.refl
  trans _ _ _ := Grows.trans
  guar_rely _ _ d := d
  keeps_refl m h := ⟨[], rfl, by simp⟩
  keeps_trans m a b c := by
    rintro ⟨os, hos, hn⟩ ⟨os', hos', hn'⟩
    refine ⟨os' ++ os, by rw [hos', hos, List.append_assoc], fun o ho => ?_⟩
    exact (List.mem_append.1 ho).elim (hn' o) (hn o)
  taken m h h' d hfree := d.seq.trans hfree

/-- the broadcast that has number `m + 1` has done its work -/
def BroughtOut (m : ℕ) (h : Host) : Prop :=
  ∀ newer type payload travel older, h.log = newer ++ .sending type payload (m + 1) travel :: older →
    Delivered type (m + 1) newer older

/-! ## Steps beside the broadcasts -/

/-- a step that makes no entry with a number, and keeps the log true of the members -/
structure Passes (h h' : Host) : Prop where
  onward : Grows h h'
  seq : h'.seq = h.seq
  log : ∃ os, h'.log = os ++ h.log ∧ ∀ o ∈ os, o.number = none
  members : (∀ p, registration h.log p = h.connOf p) → Joins h.log →
    (∀ p, registration h'.log p = h'.connOf p) ∧ Joins h'.log

section passes
variable {h h' : Host}

theorem Sourced.append {log os : List Out} (ha : Sourced log)
    (hos : ∀ p conn env, .wrote p conn env ∈ os → numberOf env = none) : Sourced (os ++ log) := by
  intro p conn env n hmem hn
  rcases List.mem_append.1 hmem with hmem | hmem
  · rw [hos p conn env hmem] at hn
    cases hn
  · obtain ⟨newer, payload, k, travel, older, rfl, hk, hsame, hreg⟩ := ha p conn env n hmem hn
    exact ⟨os ++ newer, payload, k, travel, older, by rw [List.append_assoc], hk, hsame, hreg⟩

theorem Passes.tracked (d : Passes h h') (hi : Tracked h) : Tracked h' := by
  obtain ⟨os, hlog, hos⟩ := d.log
  obtain ⟨hmembers, hjoins⟩ := d.members hi.members hi.joins
  refine ⟨hmembers, hjoins, fun o ho n hn => ?_, ?_, ?_, ?_⟩
  · rw [hlog] at ho
    rw [d.seq]
    rcases List.mem_append.1 ho with ho | ho
    · rw [hos o ho] at hn
      cases hn
    · exact hi.bound o ho n hn
  · rw [hlog, announced_append, announced_unnumbered hos]
    exact hi.sorted
  · rw [hlog, announced_append, announced_unnumbered hos]
    exact hi.positive
  · rw [hlog]
    exact hi.origin.append fun p conn env hmem => hos _ hmem

/-- such a step is allowed to everybody -/
theorem Passes.allowed (d : Passes h h') (hi : Tracked h) : delivering.guar h h' ∧ (∀ m, delivering.keeps m h h') ∧
    (∀ m, delivering.free m h → delivering.free m h') ∧ delivering.inv h' := by
  obtain ⟨os, hlog, hos⟩ := d.log
  refine ⟨d.onward, fun m => ⟨os, hlog, fun o ho he => ?_⟩, fun m hm => ?_, d.tracked hi⟩
  · rw [hos o ho] at he
    cases he
  · show h'.seq ≤ m
    rw [d.seq]
    exact hm

/-- entries that are neither about members nor part of a broadcast -/
theorem Out.number_of_still {o : Out} (ho : o.still = true) : o.number = none ∧ o.steady = true := by
  cases o with
  | wrote player conn env => exact ⟨Option.isNone_iff_eq_none.1 ho, rfl⟩
  | sending | cut | joined | left => cases ho
  | _ => exact ⟨rfl, rfl⟩

theorem passes_of_steady {os : List Out} (hlog : h'.log = os ++ h.log)
    (hos : ∀ o ∈ os, o.number = none ∧ o.steady = true) (hseq : h'.seq = h.seq)
    (hconns : ∀ p, h'.connOf p = h.connOf p)
    (hkept : HostSession.Kept h.session.interactionRequests h'.session.interactionRequests) : Passes h h' := by
  have hsteady : ∀ o ∈ os, o.steady = true := fun o ho => (hos o ho).2
  refine ⟨⟨hseq.ge, ⟨os, hlog.symm⟩, hkept⟩, hseq, ⟨os, hlog, fun o ho => (hos o ho).1⟩, fun hmembers hjoins => ?_⟩
  rw [hlog]
  refine ⟨fun p => ?_, (joins_append_steady hsteady _).2 hjoins⟩
  rw [registration_append_steady hsteady, hmembers, hconns]

theorem passes_unlogged (hlog : h'.log = h.log) (hseq : h'.seq = h.seq) (hconns : ∀ p, h'.connOf p = h.connOf p)
    (hkept : HostSession.Kept h.session.interactionRequests h'.session.interactionRequests) : Passes h h' :=
  @passes_of_steady h h' [] hlog (by simp) hseq hconns hkept

theorem Frame.passes {T : List Topic} (f : Frame h h') (d : On T h h') : Passes h h' := by
  obtain ⟨os, hlog, hos⟩ := f.log
  obtain ⟨l, -, hd⟩ := d
  exact passes_of_steady hlog (fun o ho => Out.number_of_still (hos o ho)) f.seq f.conns hd.kept

end passes

theorem passes_of_frame {T : List Topic} {α : Type} {p : HostM α} (hf : Guar Frame p) (hon : Guar (On T) p) :
    Guar Passes p := (hf.and hon).mono fun _ _ d => d.1.passes d.2

theorem passes_of_aside {T : List Topic} {α : Type} {p : HostM α} (hp : Guar (Aside T) p) : Guar Passes p :=
  passes_of_frame (frame_of_aside hp) (guar_of_aside hp)

theorem passes_setStage (conn : ℕ) (stage : Stage) : Guar Passes (setStage conn stage) :=
  guar_modify fun _ => passes_unlogged rfl rfl (fun _ => rfl) (.refl _)

theorem passes_closeWriter (conn : ℕ) : Guar Passes (closeWriter conn) :=
  guar_bind (guar_modify fun h => @passes_of_steady h _ [.closed conn] rfl (by simp [Out.number, Out.steady]) rfl
    (fun _ => rfl) (.refl _)) fun _ => guar_bind guar_suspend fun _ => guar_pure ()

theorem passes_removed (h : Host) (player : String) : Passes h (h.removed player) := by
  have hkept := (Does.drop h player).kept
  refine ⟨⟨le_rfl, List.suffix_cons _ _, hkept⟩, rfl, ⟨[_], rfl, by simp [Out.number]⟩, fun hmembers hjoins => ?_⟩
  refine ⟨fun p => ?_, hjoins⟩
  rw [connOf_removed]
  show (if player = p then none else registration h.log p) = _
  rw [hmembers]
  simp only [eq_comm]

theorem passes_drop (player : String) : Guar Passes (drop player) :=
  guar_bind (guar_call fun h => passes_removed h player) fun peer => guar_ifSome peer fun peer =>
    passes_closeWriter peer.conn

theorem passes_dropAll (pids : List String) : Guar Passes (dropAll pids) := by
  induction pids with
  | nil => exact guar_pure ()
  | cons pid rest ih => exact guar_bind (passes_drop pid) fun _ => ih

/-- a player that is not registered joins -/
theorem passes_registered {h : Host} {player : String} (name : String) (manifest : CompatibilityManifest) (conn : ℕ)
    (hnew : player ∉ h.peers) (hother : player ≠ h.playerId) : Passes h (h.registered player name manifest conn) := by
  have hkept := (Does.join h player name manifest conn hnew hother).kept
  have hnone : h.connOf player = none := by
    rw [connOf, AList.lookup_eq_none.2 hnew]
    rfl
  refine ⟨⟨le_rfl, List.suffix_cons _ _, hkept⟩, rfl, ⟨[_], rfl, by simp [Out.number]⟩, fun hmembers hjoins => ?_⟩
  refine ⟨fun p => ?_, ?_, hjoins⟩
  · rw [connOf_registered]
    show (if player = p then some conn else registration h.log p) = _
    rw [hmembers]
    simp only [eq_comm]
  · show registration h.log player = none
    rw [hmembers, hnone]

/-! ## One broadcast -/

theorem numberOf_envelopeOf {type : MessageType} (hne : type ≠ .snapshot) (h : Host) (payload : Payload) (n : ℕ)
    (messageId : String) : numberOf (envelopeOf h type payload n messageId) = some (n : ℤ) := if_neg hne

/-- a payload still stands for what was announced -/
def StandsFor (announced : Json) (h : Host) : Payload → Prop
  | .val j => announced = j
  | .request rid => announced = .obj [] ∨ ∃ r r', announced = .obj r ∧
      h.session.interactionRequests.lookup rid = some r' ∧ HostSession.core r' = HostSession.core r

theorem standsFor_resolve (h : Host) (payload : Payload) : StandsFor (h.resolve payload) h payload := by
  cases payload with
  | val j => rfl
  | request rid =>
    simp only [StandsFor, resolve]
    cases hr : h.session.interactionRequests.lookup rid with
    | none => exact Or.inl rfl
    | some r => exact Or.inr ⟨r, r, rfl, rfl, rfl⟩

theorem StandsFor.later {announced : Json} {h h' : Host} {payload : Payload} (hs : StandsFor announced h payload)
    (hk : HostSession.Kept h.session.interactionRequests h'.session.interactionRequests) :
    StandsFor announced h' payload := by
  cases payload with
  | val j => exact hs
  | request rid =>
    rcases hs with hs | ⟨r, r', hr, hr', hcore⟩
    · exact Or.inl hs
    · obtain ⟨r'', hr'', hcore'⟩ := hk rid r' hr'
      exact Or.inr ⟨r, r'', hr, hr'', hcore'.trans hcore⟩

theorem StandsFor.content {announced : Json} {h : Host} {payload : Payload} (hs : StandsFor announced h payload) :
    SameContent announced (h.resolve payload) := by
  cases payload with
  | val j => exact Or.inl hs.symm
  | request rid =>
    right
    rcases hs with rfl | ⟨r, r', rfl, hr', hcore⟩
    · exact ⟨[], _, rfl, rfl, Or.inl rfl⟩
    · refine ⟨r, r', rfl, ?_, Or.inr hcore⟩
      simp only [resolve, hr', Option.getD_some]

/-- how far a broadcast has come; `rest` are the peers still to come -/
structure Progress (n : ℕ) (newer older : List Out) (rest : List String) : Prop where
  once : ∀ p, newer.countP (Out.reaches n p) ≤ 1
  ahead : ∀ p ∈ rest, newer.countP (Out.reaches n p) = 0
  nodup : rest.Nodup
  known : ∀ p ∈ rest, (registration older p).isSome
  reached : ∀ p conn, registration older p = some conn → (∀ travel, .left p travel ∉ newer) →
    p ∈ rest ∨ ∃ env, .wrote p conn env ∈ newer ∧ numberOf env = some (n : ℤ)

/-- a broadcast that goes on: `announced` was its payload, `older` the log when it began -/
def Underway (type : MessageType) (payload : Payload) (announced : Json) (n : ℕ) (travel : Option Travel.TravelTxn)
    (older : List Out) (rest : List String) (h : Host) : Prop :=
  ∃ newer, h.log = newer ++ .sending type announced n travel :: older ∧ StandsFor announced h payload ∧
    Progress n newer older rest

/-- a broadcast whose loop was cut -/
def CutShort (type : MessageType) (announced : Json) (n : ℕ) (travel : Option Travel.TravelTxn) (older : List Out)
    (h : Host) : Prop :=
  ∃ newer, h.log = newer ++ .sending type announced n travel :: older ∧ .cut type n ∈ newer ∧
    ∀ p, newer.countP (Out.reaches n p) ≤ 1

theorem Out.number_of_reaches {n : ℕ} {p : String} {o : Out} (h : o.reaches n p = true) : o.number = some (n : ℤ) := by
  cases o with
  | wrote q conn env =>
    simp only [Out.reaches, Bool.and_eq_true, beq_iff_eq] at h
    exact h.2
  | _ => cases h

theorem countP_unnumbered {n : ℕ} {os : List Out} (hos : ∀ o ∈ os, o.number ≠ some (n : ℤ)) (p : String) :
    os.countP (Out.reaches n p) = 0 := by
  rw [List.countP_eq_zero]
  exact fun o ho hr => hos o ho (Out.number_of_reaches hr)

theorem Progress.append {n : ℕ} {newer older os : List Out} {rest : List String} (hp : Progress n newer older rest)
    (hos : ∀ o ∈ os, o.number ≠ some (n : ℤ)) : Progress n (os ++ newer) older rest := by
  refine ⟨fun p => ?_, fun p hmem => ?_, hp.nodup, hp.known, fun p conn hreg hstays => ?_⟩
  · rw [List.countP_append, countP_unnumbered hos, Nat.zero_add]
    exact hp.once p
  · rw [List.countP_append, countP_unnumbered hos, Nat.zero_add]
    exact hp.ahead p hmem
  · have hstays' : ∀ travel, .left p travel ∉ newer := fun travel hmem => hstays travel (List.mem_append_right os hmem)
    rcases hp.reached p conn hreg hstays' with hrest | ⟨env, hw, hn⟩
    · exact Or.inl hrest
    · exact Or.inr ⟨env, List.mem_append_right os hw, hn⟩

/-- the others make no entry with its number -/
theorem Underway.stays {type : MessageType} {payload : Payload} {announced : Json} {m : ℕ}
    {travel : Option Travel.TravelTxn} {older : List Out} {rest : List String} {h h' : Host}
    (hu : Underway type payload announced (m + 1) travel older rest h) (hr : Grows h h')
    (hk : delivering.keeps m h h') : Underway type payload announced (m + 1) travel older rest h' := by
  obtain ⟨newer, hlog, hs, hp⟩ := hu
  obtain ⟨os, hlog', hos⟩ := hk
  exact ⟨os ++ newer, by rw [hlog', hlog, List.append_assoc], hs.later hr.kept, hp.append hos⟩

theorem Underway.done {type : MessageType} {payload : Payload} {announced : Json} {m : ℕ}
    {travel : Option Travel.TravelTxn} {older : List Out} {h : Host} (hi : Tracked h)
    (hu : Underway type payload announced (m + 1) travel older [] h) : BroughtOut m h := by
  obtain ⟨newer, hlog, -, hp⟩ := hu
  intro newer' type' payload' travel' older' hlog'
  obtain ⟨rfl, rfl, -, rfl⟩ := announcement_unique (hlog.symm.trans hlog') (hlog ▸ hi.sorted)
  exact ⟨hp.once, Or.inr fun p conn hreg hstays => (hp.reached p conn hreg hstays).resolve_left List.not_mem_nil⟩

theorem CutShort.done {type : MessageType} {announced : Json} {m : ℕ} {travel : Option Travel.TravelTxn}
    {older : List Out} {h : Host} (hi : Tracked h) (hc : CutShort type announced (m + 1) travel older h) :
    BroughtOut m h := by
  obtain ⟨newer, hlog, hcut, honce⟩ := hc
  intro newer' type' payload' travel' older' hlog'
  obtain ⟨rfl, rfl, -, rfl⟩ := announcement_unique (hlog.symm.trans hlog') (hlog ▸ hi.sorted)
  exact ⟨honce, Or.inl hcut⟩

/-- and what is done stays done -/
theorem BroughtOut.stays {m : ℕ} {h h' : Host} (hk : delivering.keeps m h h') (hd : BroughtOut m h) :
    BroughtOut m h' := by
  obtain ⟨os, hlog', hos⟩ := hk
  intro newer' type payload travel older hlog
  -- the announcement is no entry of the others
  obtain ⟨newer, rfl, hold⟩ : ∃ newer, newer' = os ++ newer ∧
      h.log = newer ++ .sending type payload (m + 1) travel :: older := by
    rw [hlog', List.append_eq_append_iff] at hlog
    rcases hlog with ⟨newer, hnewer, hold⟩ | ⟨mid, hmid, hold⟩
    · exact ⟨newer, hnewer, hold⟩
    · cases mid with
      | nil => exact ⟨[], by simpa using hmid.symm, by simpa using hold.symm⟩
      | cons o mid =>
        cases hold
        exact absurd rfl (hos (.sending type payload (m + 1) travel) (by rw [hmid]; simp))
  obtain ⟨honce, hall⟩ := hd newer type payload travel older hold
  refine ⟨fun p => ?_, ?_⟩
  · rw [List.countP_append, countP_unnumbered hos, Nat.zero_add]
    exact honce p
  · rcases hall with hcut | hall
    · exact Or.inl (List.mem_append_right os hcut)
    · right
      intro p conn hreg hstays
      obtain ⟨env, hw, hn⟩ := hall p conn hreg fun travel hmem => hstays travel (List.mem_append_right os hmem)
      exact ⟨env, List.mem_append_right os hw, hn⟩

/-! ## The loop of a broadcast -/

theorem take_of_seq {own : Set ℕ} {h h' : Host} (hseq : h'.seq = h.seq) : delivering.take own h h' = own := by
  apply Discipline.take_eq
  intro m hm
  show h'.seq ≤ m
  rw [hseq]
  exact hm

/-- an entry with the number that is owned -/
theorem may_note {m : ℕ} {h : Host} {o : Out} (ho : o.number = some ((m + 1 : ℕ) : ℤ)) :
    delivering.May {m} h (h.note o) := by
  have htake : delivering.take {m} h (h.note o) = {m} := take_of_seq rfl
  refine ⟨⟨le_rfl, List.suffix_cons _ _, .refl _⟩, fun m' hm' => ⟨[o], rfl, fun x hx he => ?_⟩⟩
  rw [htake] at hm'
  rw [List.mem_singleton.1 hx, ho, Option.some.injEq, Int.natCast_inj, Nat.add_right_cancel_iff] at he
  exact hm' he.symm

/-- the invariant after an entry that is neither an announcement nor about members -/
theorem Tracked.noted {h : Host} {o : Out} (hi : Tracked h) (hsteady : o.steady = true) (hnew : announced [o] = [])
    (hbound : ∀ n, o.number = some n → n ≤ h.seq) (horigin : Sourced (o :: h.log)) : Tracked (h.note o) := by
  have hsame : announced (h.note o).log = announced h.log := by
    show announced ([o] ++ h.log) = _
    rw [announced_append, hnew, List.nil_append]
  refine ⟨fun p => ?_, (joins_steady hsteady _).2 hi.joins, fun x hx n hn => ?_, hsame ▸ hi.sorted, hsame ▸ hi.positive,
    horigin⟩
  · exact (registration_steady hsteady _ _).trans (hi.members p)
  · rcases List.mem_cons.1 hx with rfl | hx
    · exact hbound n hn
    · exact hi.bound x hx n hn

section loop
variable {type : MessageType} {payload : Payload} {announced : Json} {m : ℕ} {messageId : String}
  {travel : Option Travel.TravelTxn} {older : List Out} {rest : List String} {h : Host}

theorem Underway.number_le (hi : Tracked h) (hu : Underway type payload announced (m + 1) travel older rest h) :
    ((m + 1 : ℕ) : ℤ) ≤ h.seq := by
  obtain ⟨newer, hlog, -⟩ := hu
  apply hi.bound (.sending type announced (m + 1) travel) _ _ rfl
  rw [hlog]
  exact List.mem_append_right _ List.mem_cons_self

/-- a peer that is not there any more has left -/
theorem Underway.skip {pid : String} (hi : Tracked h) (hpeer : h.peers.lookup pid = none)
    (hu : Underway type payload announced (m + 1) travel older (pid :: rest) h) :
    Underway type payload announced (m + 1) travel older rest h := by
  obtain ⟨newer, hlog, hs, hp⟩ := hu
  refine ⟨newer, hlog, hs, hp.once, fun p hmem => hp.ahead p (List.mem_cons_of_mem _ hmem), hp.nodup.of_cons,
    fun p hmem => hp.known p (List.mem_cons_of_mem _ hmem), fun p conn hreg hstays => ?_⟩
  rcases hp.reached p conn hreg hstays with hmem | hw
  · rcases List.mem_cons.1 hmem with rfl | hmem
    · have hold : registration (.sending type announced (m + 1) travel :: older) p = some conn := hreg
      have hnow := registration_stays (hlog ▸ hi.joins) hold hstays
      rw [← hlog, hi.members, connOf, hpeer] at hnow
      cases hnow
    · exact Or.inl hmem
  · exact Or.inr hw

/-- the loop comes to a peer and writes to it -/
theorem Underway.write {pid : String} {peer : Peer} (hne : type ≠ .snapshot) (hi : Tracked h)
    (hpeer : h.peers.lookup pid = some peer)
    (hu : Underway type payload announced (m + 1) travel older (pid :: rest) h) :
    let h' := h.note (.wrote pid peer.conn (envelopeOf h type payload (m + 1) messageId))
    delivering.May {m} h h' ∧ delivering.take {m} h h' = {m} ∧ Tracked h' ∧
      Underway type payload announced (m + 1) travel older rest h' := by
  have hnumber : numberOf (envelopeOf h type payload (m + 1) messageId) = some ((m + 1 : ℕ) : ℤ) :=
    numberOf_envelopeOf hne h payload (m + 1) messageId
  have hbound := hu.number_le hi
  obtain ⟨newer, hlog, hs, hp⟩ := hu
  obtain ⟨hnot, hnodup⟩ := List.nodup_cons.1 hp.nodup
  have hcount : ∀ p, (Out.wrote pid peer.conn (envelopeOf h type payload (m + 1) messageId) :: newer).countP
      (Out.reaches (m + 1) p) = newer.countP (Out.reaches (m + 1) p) + if pid = p then 1 else 0 := by
    intro p
    rw [List.countP_cons]
    simp only [Out.reaches, hnumber, beq_self_eq_true, Bool.and_true, beq_iff_eq]
  have htracked : Tracked (h.note (.wrote pid peer.conn (envelopeOf h type payload (m + 1) messageId))) := by
    refine hi.noted rfl rfl (fun n hn => ?_) fun p conn env n hmem hn => ?_
    · rw [Out.number, hnumber] at hn
      cases hn
      exact hbound
    · rcases List.mem_cons.1 hmem with he | hmem
      · cases he
        rw [hnumber] at hn
        exact ⟨_ :: newer, announced, m + 1, travel, older, by rw [hlog]; rfl, (Option.some.inj hn).symm, hs.content,
          hp.known pid List.mem_cons_self⟩
      · obtain ⟨newer', payload', k, travel', older', hlog', hk, hsame, hreg⟩ := hi.origin p conn env n hmem hn
        exact ⟨_ :: newer', payload', k, travel', older', by rw [hlog']; rfl, hk, hsame, hreg⟩
  have hprogress : Progress (m + 1) (.wrote pid peer.conn (envelopeOf h type payload (m + 1) messageId) :: newer) older
      rest := by
    refine ⟨fun p => ?_, fun p hmem => ?_, hnodup, fun p hmem => hp.known p (List.mem_cons_of_mem _ hmem),
      fun p conn hreg hstays => ?_⟩
    · rw [hcount]
      split_ifs with he
      · rw [← he, hp.ahead pid List.mem_cons_self]
      · exact hp.once p
    · rw [hcount, if_neg (ne_of_mem_of_not_mem hmem hnot).symm]
      exact hp.ahead p (List.mem_cons_of_mem _ hmem)
    · have hstays' : ∀ travel, .left p travel ∉ newer := fun travel hmem => hstays travel (List.mem_cons_of_mem _ hmem)
      rcases hp.reached p conn hreg hstays' with hmem | ⟨env, hw, hn⟩
      · rcases List.mem_cons.1 hmem with rfl | hmem
        · -- it has kept the connection that it was registered with
          have hold : registration (.sending type announced (m + 1) travel :: older) p = some conn := hreg
          have hnow := registration_stays (hlog ▸ hi.joins) hold hstays'
          rw [← hlog, hi.members, connOf, hpeer] at hnow
          cases hnow
          exact Or.inr ⟨_, List.mem_cons_self, hnumber⟩
        · exact Or.inl hmem
      · exact Or.inr ⟨env, List.mem_cons_of_mem _ hw, hn⟩
  refine ⟨may_note hnumber, take_of_seq rfl, htracked, _, ?_, hs, hprogress⟩
  rw [note, hlog]
  rfl

/-- the loop finds the number of peers changed -/
theorem Underway.cut (hi : Tracked h) (hu : Underway type payload announced (m + 1) travel older rest h) :
    let h' := h.note (.cut type (m + 1))
    delivering.May {m} h h' ∧ delivering.take {m} h h' = {m} ∧ Tracked h' ∧
      CutShort type announced (m + 1) travel older h' := by
  have hbound := hu.number_le hi
  obtain ⟨newer, hlog, -, hp⟩ := hu
  refine ⟨may_note rfl, take_of_seq rfl, ?_, .cut type (m + 1) :: newer, ?_, List.mem_cons_self, fun p => ?_⟩
  · refine hi.noted rfl rfl (fun n hn => ?_) ?_
    · cases hn
      exact hbound
    · exact @Sourced.append _ [.cut type (m + 1)] hi.origin (by simp)
  · rw [note, hlog]
    rfl
  · rw [List.countP_cons]
    exact hp.once p

theorem carries_underway (hne : type ≠ .snapshot) : Carries delivering {m} type payload (m + 1) messageId
    (Underway type payload announced (m + 1) travel older) (CutShort type announced (m + 1) travel older) where
  stays _ _ _ hu hr hk _ := hu.stays hr (hk m rfl)
  skip _ _ _ hpeer hi hu := hu.skip hi hpeer
  write _ _ _ _ hpeer hi hu := hu.write hne hi hpeer
  cut _ _ hi hu := hu.cut hi

end loop

/-! ## Handlers -/

/-- handlers that bring out every broadcast they start -/
abbrev Delivers {α : Type} (p : HostM α) : Prop := Settles delivering BroughtOut p

theorem done_stays (m : ℕ) (h h' : Host) (hk : delivering.keeps m h h') (_ : delivering.rely h h')
    (hd : BroughtOut m h) : BroughtOut m h' := hd.stays hk

theorem delivers_bind {α β : Type} {p : HostM α} {f : α → HostM β} (hp : Delivers p) (hf : ∀ a, Delivers (f a)) :
    Delivers (p >>= f) := Coro.settles_bind delivering_lawful done_stays hp hf

theorem delivers_of_passes {α : Type} {p : HostM α} (hp : Guar Passes p) : Delivers p :=
  settles_of_guar delivering_lawful (fun _ _ d hi => d.allowed hi) hp

/-- a number is drawn -/
theorem Tracked.numbered {h : Host} (hi : Tracked h) : Tracked { h with seq := h.seq + 1 } := by
  refine { hi with bound := fun o ho n hn => ?_ }
  have := hi.bound o ho n hn
  push_cast
  omega

theorem take_numbered (h : Host) : delivering.take ∅ h { h with seq := h.seq + 1 } = {h.seq} := by
  ext m
  show m ∈ (∅ : Set ℕ) ∨ h.seq ≤ m ∧ ¬ h.seq + 1 ≤ m ↔ m = h.seq
  simp only [Set.mem_empty_iff_false, false_or]
  omega

/-- a broadcast is announced: it has to come to all peers -/
theorem Underway.begin {type : MessageType} {payload : Payload} {m : ℕ} {travel : Option Travel.TravelTxn} {h : Host}
    (hi : Tracked h) (hnew : ∀ o ∈ h.log, ∀ n, o.number = some n → n ≤ m) (hnumber : m + 1 ≤ h.seq) :
    let h' := h.note (.sending type (h.resolve payload) (m + 1) travel)
    delivering.May {m} h h' ∧ delivering.take {m} h h' = {m} ∧ Tracked h' ∧
      Underway type payload (h.resolve payload) (m + 1) travel h.log h.peers.keys h' := by
  have hregistered : ∀ p, p ∈ h.peers.keys ↔ (registration h.log p).isSome = true := by
    intro p
    rw [hi.members, connOf, Option.isSome_map, AList.lookup_isSome]
    exact AList.mem_keys
  refine ⟨may_note rfl, take_of_seq rfl, ⟨?_, hi.joins, ?_, ?_, ?_, ?_⟩, [], rfl, standsFor_resolve h payload, ?_⟩
  · exact hi.members
  · intro o ho n hn
    rcases List.mem_cons.1 ho with rfl | ho
    · cases hn
      exact_mod_cast hnumber
    · exact hi.bound o ho n hn
  · refine List.pairwise_cons.2 ⟨fun n hn => ?_, hi.sorted⟩
    obtain ⟨type', payload', travel', hmem⟩ := mem_announced.1 hn
    have := hnew _ hmem n rfl
    omega
  · intro n hn
    rcases List.mem_cons.1 hn with rfl | hn
    · exact Nat.succ_pos m
    · exact hi.positive n hn
  · exact @Sourced.append _ [.sending type (h.resolve payload) (m + 1) travel] hi.origin (by simp)
  · refine ⟨fun p => Nat.zero_le 1, fun p _ => rfl, h.peers.nodupKeys, fun p hmem => (hregistered p).1 hmem,
      fun p conn hreg _ => Or.inl ((hregistered p).2 ?_)⟩
    rw [hreg]
    rfl

theorem delivers_broadcastPeers {type : MessageType} (payload : Payload) (hne : type ≠ .snapshot) :
    Delivers (broadcastPeers type payload) := by
  intro h hi
  have hkeeps : ∀ m ∉ ({h.seq} : Set ℕ), delivering.keeps m h { h with seq := h.seq + 1 } := fun m _ =>
    ⟨[], rfl, by simp⟩
  rw [broadcastPeers, wp_bind, nextSeq, wp_call, take_numbered]
  refine ⟨⟨⟨Nat.le_succ _, List.suffix_rfl, .refl _⟩, fun m hm => hkeeps m (take_numbered h ▸ hm)⟩, ?_⟩
  rw [andThen_ok]
  have hi₁ := hi.numbered
  have hdrawn : Passes { h with seq := h.seq + 1 } { h with seq := h.seq + 1, uuids := h.uuids + 1 } :=
    passes_unlogged rfl rfl (fun _ => rfl) (.refl _)
  obtain ⟨hguar, hkeep, hfree, hi₂⟩ := hdrawn.allowed hi₁
  refine wp_call_bind ⟨hguar, fun m _ => hkeep m⟩ (Discipline.take_eq hfree) (wp_read delivering_lawful ?_)
  obtain ⟨hmay, htake, hi₃, hu⟩ :=
    @Underway.begin type payload.orEmpty _ h.session.travel.current _ hi₂ hi.bound le_rfl
  refine wp_modify_bind hmay htake ?_
  rw [wp_bind]
  refine wp_mono ?_ ((carries_underway hne).wp_writeEach delivering_lawful hi₃ hu)
  rintro (e | dead) own' h' ⟨rfl, hi', hend⟩
  · exact ⟨hi', fun m hm => Set.mem_singleton_iff.1 hm ▸ CutShort.done hi' hend⟩
  · refine wp_mono ?_ (wp_of_guar delivering_lawful (fun _ _ d hi => d.allowed hi) (passes_dropAll dead) hi')
    rintro r own'' h'' ⟨rfl, hi'', hr, hk⟩
    refine ⟨hi'', fun m hm => ?_⟩
    obtain rfl := Set.mem_singleton_iff.1 hm
    exact Underway.done hi'' (Underway.stays hend hr (hk _ rfl))

theorem delivers_of_made {α : Type} {p : HostM α} (hp : Made everything (fun _ _ => False) p) : Delivers p := by
  induction hp with
  | own h => exact h.elim
  | aside h => exact delivers_of_passes (passes_of_aside h)
  | sendPeer player payload ht hseq =>
    exact delivers_of_passes (passes_of_frame (frame_sendPeer _ _ _ hseq) (guar_sendPeer (by decide) _ ht _ _))
  | broadcastPeers payload ht hne => exact delivers_broadcastPeers payload hne
  | bind _ _ ihp ihf => exact delivers_bind ihp ihf
  | attempt _ ih => exact Coro.settles_attempt ih

theorem delivers_finish (conn : ℕ) (player : Option String) : Delivers (finish conn player) := by
  apply delivers_of_passes
  refine guar_bind (guar_ifSome player fun p => ?_) fun _ => guar_bind (passes_closeWriter conn) fun _ =>
    passes_setStage conn .ended
  split_ifs
  · exact guar_pure ()
  · exact passes_drop p

theorem delivers_greet (conn : ℕ) (hello : Envelope) : Delivers (greet conn hello) := by
  have hrefuse : ∀ reason, Delivers (do refuse conn hello.senderId reason; pure false : HostM Bool) := fun reason =>
    delivers_of_passes (guar_bind (passes_of_frame (T := everything) (frame_refuse conn _ reason)
      (guar_refuse (by decide) _ _ _)) fun _ => guar_pure false)
  refine delivers_bind (settles_ofExcept _) fun name => settles_get delivering_lawful fun h hi => ?_
  split
  · exact hrefuse _ h hi
  rename_i hnew
  rw [not_or] at hnew
  split
  · exact hrefuse _ h hi
  · exact hrefuse _ h hi
  · exact settles_raise _ h hi
  · rename_i manifest _
    obtain ⟨hguar, hkeep, hfree, hi'⟩ := (passes_registered name manifest conn hnew.1 hnew.2).allowed hi
    refine wp_modify_bind ⟨hguar, fun m _ => hkeep m⟩ (Discipline.take_eq hfree) ?_
    have hwelcome : Delivers (do welcome conn hello.senderId; pure true : HostM Bool) :=
      delivers_of_passes (guar_bind (passes_of_frame (T := everything) (frame_welcome conn _)
        (guar_welcome (by decide) _ _)) fun _ => guar_pure true)
    exact hwelcome _ hi'

theorem delivers_handleHello (conn : ℕ) (r : Recv) : Delivers (handleHello conn r) := by
  have hfirst : Delivers (firstMessage conn r) := by
    unfold firstMessage
    split
    · split_ifs
      · exact delivers_greet conn _
      · exact settles_pure _
    · exact settles_pure _
  refine delivers_bind (delivers_of_passes (passes_setStage conn .busy)) fun _ => ?_
  refine delivers_bind (Coro.settles_attempt hfirst) fun accepted => ?_
  split
  · exact delivers_of_passes (passes_setStage conn _)
  · exact delivers_finish conn _

/-- everything a handler does for its event, connections and first messages apart -/
theorem handler_parts : Parts everything (fun _ _ => False) := .of_topics (by decide) (Or.inl (by decide))

theorem delivers_handleLine (conn : ℕ) (player : String) (r : Recv) : Delivers (handleLine conn player r) := by
  refine delivers_bind (delivers_of_passes (passes_setStage conn .busy)) fun _ => ?_
  split
  · rename_i env
    have henv : Delivers (Host.handleEnvelope player env) := delivers_of_made (handler_parts.handleEnvelope player
      (fun _ => by decide) (fun _ => by decide) (fun _ => by decide) fun _ => by decide)
    refine delivers_bind (Coro.settles_attempt henv) fun handled => ?_
    cases handled with
    | ok _ => exact delivers_of_passes (passes_setStage conn _)
    | error _ => exact delivers_finish conn _
  · exact delivers_finish conn _

theorem delivers_handle (t : Event) : Delivers (Host.handle t) := by
  cases t with
  | line conn r =>
    refine settles_get delivering_lawful fun h hi => ?_
    split
    · exact delivers_handleHello conn r h hi
    · exact delivers_handleLine conn _ r h hi
    · exact settles_pure () h hi
  | game event =>
    exact delivers_of_made (handler_parts.onGameEvent (fun _ => by decide) (fun _ => by decide) (fun _ => by decide)
      fun _ => by decide)

/-! ## Runs -/

theorem tracked_init (playerId displayName sessionId : String) (manifest : CompatibilityManifest)
    (nativeRequired : Bool) (commands : NetworkedCommandRouter) :
    Tracked (init playerId displayName sessionId manifest nativeRequired commands) where
  members _ := rfl
  joins := trivial
  bound _ ho := absurd ho List.not_mem_nil
  sorted := List.Pairwise.nil
  positive _ hn := absurd hn List.not_mem_nil
  origin _ _ _ _ hmem := absurd hmem List.not_mem_nil

/-- what holds after every run of the host, in any interleaving -/
theorem run_delivers (playerId displayName sessionId : String) (manifest : CompatibilityManifest)
    (nativeRequired : Bool) (commands : NetworkedCommandRouter) (acts : List HostAct) :
    Pool.Inv delivering BroughtOut
      (runFrom (started playerId displayName sessionId manifest nativeRequired commands) acts) := by
  have hinit : Pool.Inv delivering BroughtOut
      (started playerId displayName sessionId manifest nativeRequired commands) :=
    Pool.inv_init (tracked_init playerId displayName sessionId manifest nativeRequired commands) fun m => Nat.zero_le m
  have hadmitted : ∀ c : Run, Pool.AllAdmitted handle enabled (fun _ _ => True) c acts :=
    Pool.allAdmitted_of_forall fun a _ _ => by cases a <;> trivial
  exact (Pool.run_inv delivering_lawful done_stays (fun t s hi _ _ => delivers_handle t s hi) hinit acts
    (hadmitted _)).2

theorem delivered_of_quiet {c : Run} (hc : Pool.Inv delivering BroughtOut c) (hquiet : c.tasks = [])
    {newer older : List Out} {type : MessageType} {payload : Json} {n : ℕ} {travel : Option Travel.TravelTxn}
    (hlog : c.state.log = newer ++ .sending type payload n travel :: older) : Delivered type n newer older := by
  obtain ⟨hi, ts, hts, -, -, hsettled⟩ := hc
  have hnone : ts = [] := List.map_eq_nil_iff.1 (hts.trans hquiet)
  have hmem : n ∈ announced (newer ++ .sending type payload n travel :: older) := by simp
  have hbound := hi.bound (.sending type payload n travel) (by rw [hlog]; simp) n rfl
  obtain ⟨m, rfl⟩ := Nat.exists_eq_succ_of_ne_zero (hi.positive n (hlog ▸ hmem)).ne'
  -- nobody owns the number, so its broadcast is done
  rcases hsettled m (by show ¬ _ ≤ m; omega) with ⟨x, hx, -⟩ | hdone
  · rw [hnone] at hx
    cases hx
  · exact hdone newer type payload travel older hlog

/-- alice and bob are there when alice changes the speed; bob is written first, and then both sockets are free -/
def speedChange : List HostAct :=
  [joins 1 "alice", goesOn, joins 2 "bob", goesOn, sends 1 "alice" .clockRequestSpeed (.obj [("speed", .int 2)]),
    goesOn, goesOn]

end KerMP.Host
