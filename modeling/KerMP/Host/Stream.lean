/-
The stream of broadcasts that a client gets (`KerMPHost.broadcast` of `kermp/net.py`).

`Delivery` says that every broadcast arrives, `Order` in which order they are written. Together: a client that joins and
stays gets what is broadcast from then on, all of it, in the order in which it was announced.

- `aligned_since`: this for the log of any state between handlers in which numbers are written in order.
- `verbatim_since`: the same for messages that are written exactly as they were announced, such as operations and view
  updates.
- `stream_since_joining`: after every run in turn, when no handler is suspended, the broadcasts of some types written to
  a connection begin, newest first, with exactly those announced since its player joined, if none of them was cut
  short.
-/
import KerMP.Host.Delivery
import KerMP.Host.Order

namespace KerMP.Host

open Py Coop
open Coro hiding pure get modify

/-- a broadcast, as it was announced -/
structure Announcement where
  type : MessageType
  number : ℕ
  payload : Json

/-- the broadcasts of these types that were announced, newest first -/
def outgoing (P : MessageType → Bool) (log : List Out) : List Announcement :=
  log.filterMap fun
    | .sending type payload n _ => if P type then some ⟨type, n, payload⟩ else none
    | _ => none

/-- the envelopes of broadcasts of these types that were written to a connection, newest first -/
def broadcastsTo (P : MessageType → Bool) (conn : ℕ) (log : List Out) : List Envelope :=
  log.filterMap fun
    | .wrote _ c env => if c = conn ∧ (numberOf env).isSome ∧ P env.type then some env else none
    | _ => none

/-- one type -/
def only (type : MessageType) : MessageType → Bool := fun t => t = type

/-- the payloads of the messages of a type among these -/
def payloadsOf (type : MessageType) (messages : List (MessageType × Json)) : List Json :=
  messages.filterMap fun m => if m.1 = type then some m.2 else none

/-- the loop over the peers found their number changed -/
def Out.shortens : Out → Bool
  | .cut _ _ => true
  | _ => false

/-- an envelope of this broadcast -/
structure Carrying (env : Envelope) (a : Announcement) : Prop where
  type : env.type = a.type
  number : numberOf env = some (a.number : ℤ)
  content : SameContent a.payload env.payload

section streams
variable {P : MessageType → Bool} {log os : List Out} {conn : ℕ}

theorem outgoing_append : outgoing P (os ++ log) = outgoing P os ++ outgoing P log :=
  List.filterMap_append

theorem mem_outgoing {a : Announcement} : a ∈ outgoing P log ↔
    (∃ travel, .sending a.type a.payload a.number travel ∈ log) ∧ P a.type = true := by
  simp only [outgoing, List.mem_filterMap]
  constructor
  · rintro ⟨o, ho, ha⟩
    cases o with
    | sending type payload n travel =>
      simp only [Option.ite_none_right_eq_some, Option.some.injEq] at ha
      obtain ⟨hp, rfl⟩ := ha
      exact ⟨⟨travel, ho⟩, hp⟩
    | _ => cases ha
  · rintro ⟨⟨travel, ho⟩, hp⟩
    exact ⟨_, ho, by simp [hp]⟩

theorem mem_broadcastsTo {env : Envelope} : env ∈ broadcastsTo P conn log ↔
    (∃ player, .wrote player conn env ∈ log) ∧ (numberOf env).isSome ∧ P env.type = true := by
  simp only [broadcastsTo, List.mem_filterMap]
  constructor
  · rintro ⟨o, ho, henv⟩
    cases o with
    | wrote player c env' =>
      simp only [Option.ite_none_right_eq_some, Option.some.injEq] at henv
      obtain ⟨⟨rfl, hn, hp⟩, rfl⟩ := henv
      exact ⟨⟨player, ho⟩, hn, hp⟩
    | _ => cases henv
  · rintro ⟨⟨player, ho⟩, hn, hp⟩
    exact ⟨_, ho, by simp [hn, hp]⟩

/-- the numbers of outgoing are among those of the log -/
theorem numbers_outgoing : ((outgoing P log).map Announcement.number).Sublist (announced log) := by
  induction log with
  | nil => exact .slnil
  | cons o log ih =>
    cases o with
    | sending type payload n travel =>
      rw [announced_sending]
      cases hp : P type with
      | true => simpa [outgoing, hp] using ih
      | false => simpa [outgoing, hp] using ih.cons n
    | _ => exact ih

theorem numbers_broadcastsTo :
    ((broadcastsTo P conn log).map fun env => (numberOf env).getD 0).Sublist (numbersTo conn log) := by
  induction log with
  | nil => exact .slnil
  | cons o log ih =>
    cases o with
    | wrote player c env =>
      by_cases hc : c = conn
      · cases hn : numberOf env with
        | none => simpa [broadcastsTo, numbersTo, hc, hn] using ih
        | some n =>
          cases hp : P env.type with
          | true => simpa [broadcastsTo, numbersTo, hc, hn, hp] using ih
          | false => simpa [broadcastsTo, numbersTo, hc, hn, hp] using ih.cons n
      · simpa [broadcastsTo, numbersTo, hc] using ih
    | _ => exact ih

/-- the messages of a type are its broadcasts, when all of them have numbers -/
theorem payloadsOf_writtenTo {type : MessageType} (hlog : ∀ p c env, .wrote p c env ∈ log → env.type = type →
    (numberOf env).isSome = true) (conn : ℕ) :
    payloadsOf type (writtenTo conn log) = (broadcastsTo (only type) conn log).map Envelope.payload := by
  induction log with
  | nil => rfl
  | cons o log ih =>
    have hrest := ih fun p c env hmem => hlog p c env (List.mem_cons_of_mem o hmem)
    cases o with
    | wrote p c env =>
      by_cases hc : c = conn
      · by_cases htype : env.type = type
        · have hsome := hlog p c env List.mem_cons_self htype
          simpa [payloadsOf, writtenTo, broadcastsTo, only, hc, htype, hsome] using hrest
        · simpa [payloadsOf, writtenTo, broadcastsTo, only, hc, htype] using hrest
      · simpa [payloadsOf, writtenTo, broadcastsTo, hc] using hrest
    | _ => exact hrest

end streams

/-! ## Runs -/

theorem joins_suffix {newer older : List Out} (h : Joins (newer ++ older)) : Joins older := by
  induction newer with
  | nil => exact h
  | cons o newer ih =>
    cases o with
    | joined => exact ih h.2
    | _ => exact ih h

/-- broadcasts are written in the order of their numbers, in a run in turn -/
theorem run_numbered (playerId displayName sessionId : String) (manifest : CompatibilityManifest)
    (nativeRequired : Bool) (commands : NetworkedCommandRouter) {acts : List HostAct}
    (hturn : RunInTurn (started playerId displayName sessionId manifest nativeRequired commands) acts) :
    Numbered (runFrom (started playerId displayName sessionId manifest nativeRequired commands) acts).state := by
  have hinit : Pool.Kept watcher turns Distinct (fun _ g h => Poised g h)
      (started playerId displayName sessionId manifest nativeRequired commands) [] :=
    Pool.kept_init (numbered_init playerId displayName sessionId manifest nativeRequired commands)
  exact (Pool.run_kept turns_upheld hinit acts hturn).state

/-- the broadcasts of these types that a player has been written since it joined, when none of them was cut short -/
theorem aligned_since {P : MessageType → Bool} {c : Run} (hc : Pool.Inv delivering BroughtOut c)
    (horder : InOrder c.state.log) (hquiet : c.tasks = []) {newer older : List Out} {p : String} {conn : ℕ}
    (hlog : c.state.log = newer ++ .joined p conn :: older) (hstays : ∀ travel, .left p travel ∉ newer)
    (hcut : ∀ type n, P type = true → .cut type n ∉ newer) :
    ∃ since before, broadcastsTo P conn c.state.log = since ++ before ∧ List.Forall₂ Carrying since (outgoing P newer) ∧
      ∀ env ∈ before, ∀ a ∈ outgoing P newer, (numberOf env).getD 0 < a.number := by
  have hi : Tracked c.state := hc.state
  have hsplit : announced c.state.log = announced newer ++ announced older := by
    rw [hlog, announced_append]
    rfl
  have hsorted := hsplit ▸ hi.sorted
  -- an envelope with an announced number is one of this announcement
  have hsame : ∀ env ∈ broadcastsTo P conn c.state.log, ∀ a : Announcement, a ∈ outgoing P newer →
      (numberOf env).getD 0 = a.number → Carrying env a := by
    intro env henv a ha hn
    obtain ⟨⟨player, hw⟩, hsome, -⟩ := mem_broadcastsTo.1 henv
    obtain ⟨n, hnumber⟩ := Option.isSome_iff_exists.1 hsome
    rw [hnumber, Option.getD_some] at hn
    obtain ⟨newer', payload, k, travel, older', hlog', rfl, hcontent, -⟩ := hi.origin player conn env n hw hnumber
    obtain ⟨⟨travel', hsent⟩, -⟩ := mem_outgoing.1 ha
    obtain ⟨n₁, n₂, rfl⟩ := List.append_of_mem hsent
    obtain rfl : k = a.number := by exact_mod_cast hn
    have hlog'' : c.state.log =
        n₁ ++ .sending a.type a.payload a.number travel' :: (n₂ ++ .joined p conn :: older) := by
      rw [hlog, List.append_assoc]
      rfl
    obtain ⟨-, htype, hpayload, -⟩ := announcement_unique (hlog'.symm.trans hlog'') (hlog' ▸ hi.sorted)
    exact ⟨htype, hnumber, hpayload ▸ hcontent⟩
  refine Streams.aligned (f := fun env => (numberOf env).getD 0) (g := fun a : Announcement => (a.number : ℤ))
    ?_ ?_ ?_ ?_ hsame
  · exact (horder conn).sublist numbers_broadcastsTo
  · have hnewer := (List.pairwise_append.1 hsorted).1.sublist (numbers_outgoing (P := P))
    rw [List.pairwise_map] at hnewer ⊢
    exact hnewer.imp fun h => by exact_mod_cast h
  · intro a ha
    obtain ⟨⟨travel, hsent⟩, hp⟩ := mem_outgoing.1 ha
    obtain ⟨n₁, n₂, hnewer⟩ := List.append_of_mem hsent
    have hlog' : c.state.log = n₁ ++ .sending a.type a.payload a.number travel :: (n₂ ++ .joined p conn :: older) := by
      rw [hlog, hnewer, List.append_assoc]
      rfl
    have hin : ∀ o ∈ n₁, o ∈ newer := fun o ho => hnewer ▸ List.mem_append_left _ ho
    have hjoins : Joins (.sending a.type a.payload a.number travel :: (n₂ ++ .joined p conn :: older)) :=
      joins_suffix (hlog' ▸ hi.joins)
    have hreg : registration (n₂ ++ .joined p conn :: older) p = some conn := by
      refine registration_stays hjoins (if_pos rfl) fun travel hmem => hstays travel ?_
      rw [hnewer]
      exact List.mem_append_right _ (List.mem_cons_of_mem _ hmem)
    rcases (delivered_of_quiet hc hquiet hlog').all with hcuts | hall
    · exact absurd (hin _ hcuts) (hcut a.type a.number hp)
    · obtain ⟨env, hw, hn⟩ := hall p conn hreg fun travel hmem => hstays travel (hin _ hmem)
      have hmem : .wrote p conn env ∈ c.state.log := by
        rw [hlog']
        exact List.mem_append_left _ hw
      obtain ⟨newer', payload, k, travel', older', hlog'', hk, -⟩ := hi.origin p conn env _ hmem hn
      obtain rfl : a.number = k := by exact_mod_cast hk
      obtain ⟨-, htype, -, -⟩ := announcement_unique (hlog''.symm.trans hlog') (hlog'' ▸ hi.sorted)
      refine ⟨env, mem_broadcastsTo.2 ⟨⟨p, hmem⟩, by rw [hn]; rfl, by rw [htype]; exact hp⟩, ?_⟩
      rw [hn]
      rfl
  · intro env henv
    obtain ⟨⟨player, hw⟩, hsome, hp⟩ := mem_broadcastsTo.1 henv
    obtain ⟨n, hnumber⟩ := Option.isSome_iff_exists.1 hsome
    obtain ⟨newer', payload, k, travel, older', hlog', rfl, -⟩ := hi.origin player conn env n hw hnumber
    have hsent : .sending env.type payload k travel ∈ newer ++ .joined p conn :: older := by
      rw [← hlog, hlog']
      simp
    rw [hnumber, Option.getD_some]
    rcases List.mem_append.1 hsent with hsent | hsent
    · exact Or.inl ⟨⟨env.type, k, payload⟩, mem_outgoing.2 ⟨⟨travel, hsent⟩, hp⟩, rfl⟩
    · right
      intro a ha
      obtain ⟨⟨travel', hsent'⟩, -⟩ := mem_outgoing.1 ha
      have hk : k ∈ announced older := mem_announced.2 ⟨_, _, _, (List.mem_cons.1 hsent).resolve_left (by simp)⟩
      exact_mod_cast (List.pairwise_append.1 hsorted).2.2 _ (mem_announced.2 ⟨_, _, _, hsent'⟩) k hk

section verbatim
variable {type : MessageType}

/-- every message of the type is part of a broadcast, and written exactly as it was announced -/
def Verbatim (type : MessageType) (log : List Out) : Prop :=
  ∀ p conn env, .wrote p conn env ∈ log → env.type = type →
    ∃ n : ℕ, ∃ travel, numberOf env = some (n : ℤ) ∧ .sending type env.payload n travel ∈ log

theorem Verbatim.announced {log : List Out} (h : Verbatim type log) {conn : ℕ} {env : Envelope}
    (henv : env ∈ broadcastsTo (only type) conn log) :
    ∃ n : ℕ, ∃ travel, numberOf env = some (n : ℤ) ∧ .sending type env.payload n travel ∈ log := by
  obtain ⟨⟨player, hw⟩, -, htype⟩ := mem_broadcastsTo.1 henv
  exact h player conn env hw (of_decide_eq_true htype)

theorem Verbatim.carrying {log : List Out} (h : Verbatim type log) (hsorted : (Host.announced log).Pairwise (· > ·))
    {conn : ℕ} {env : Envelope} (henv : env ∈ broadcastsTo (only type) conn log) {a : Announcement}
    {travel : Option Travel.TravelTxn} (hsent : .sending a.type a.payload a.number travel ∈ log)
    (hcarries : Carrying env a) : env.payload = a.payload := by
  obtain ⟨n, travel', hn, hsent'⟩ := h.announced henv
  obtain rfl : a.number = n := by exact_mod_cast Option.some.inj (hcarries.number.symm.trans hn)
  exact (announced_once hsent' hsent hsorted).2

theorem payloads_eq {envs : List Envelope} {as : List Announcement}
    (h : List.Forall₂ (fun env (a : Announcement) => env.payload = a.payload) envs as) :
    envs.map Envelope.payload = as.map Announcement.payload := by
  induction h with
  | nil => rfl
  | cons hpayload _ ih => rw [List.map_cons, List.map_cons, hpayload, ih]

/-- Such messages, when numbers are written in order and no handler is suspended: those announced since the player
joined, and before these only such that were announced earlier. -/
theorem verbatim_since {c : Run} (hc : Pool.Inv delivering BroughtOut c) (horder : InOrder c.state.log)
    (hquiet : c.tasks = []) (hverbatim : Verbatim type c.state.log) {newer older : List Out} {p : String} {conn : ℕ}
    (hlog : c.state.log = newer ++ .joined p conn :: older) (hstays : ∀ travel, .left p travel ∉ newer)
    (hcut : ∀ n, .cut type n ∉ newer) :
    ∃ before, payloadsOf type (writtenTo conn c.state.log) =
        (outgoing (only type) newer).map Announcement.payload ++ before ∧
      before.Sublist ((outgoing (only type) older).map Announcement.payload) := by
  have hsorted : (announced c.state.log).Pairwise (· > ·) := hc.state.sorted
  have hcut' : ∀ t n, only type t = true → .cut t n ∉ newer := by
    intro t n ht
    rw [of_decide_eq_true ht]
    exact hcut n
  obtain ⟨since, before, hsplit, hsince, hbefore⟩ := aligned_since hc horder hquiet hlog hstays hcut'
  have hdescending := (horder conn).sublist (numbers_broadcastsTo (P := only type))
  rw [hsplit, List.map_append] at hdescending
  have holder : ((outgoing (only type) older).map fun a : Announcement => (a.number : ℤ)).Pairwise (· > ·) := by
    rw [hlog, announced_append] at hsorted
    have h := (List.pairwise_append.1 hsorted).2.1.sublist (numbers_outgoing (P := only type))
    rw [List.pairwise_map] at h ⊢
    exact h.imp fun hlt => by exact_mod_cast hlt
  have hmatched : List.SublistForall₂ (fun env (a : Announcement) => env.payload = a.payload) before
      (outgoing (only type) older) := by
    refine Streams.subsequence (f := fun env => (numberOf env).getD 0) (g := fun a : Announcement => (a.number : ℤ))
      (List.pairwise_append.1 hdescending).2.1 holder fun env henv => ?_
    obtain ⟨n, travel, hn, hsent⟩ := hverbatim.announced (hsplit ▸ List.mem_append_right since henv)
    rw [hlog] at hsent
    rcases List.mem_append.1 hsent with hnew | hold
    · have hless := hbefore env henv ⟨type, n, env.payload⟩ (mem_outgoing.2 ⟨⟨travel, hnew⟩, decide_eq_true rfl⟩)
      rw [hn] at hless
      exact absurd hless (lt_irrefl _)
    · refine ⟨⟨type, n, env.payload⟩, mem_outgoing.2 ⟨⟨travel, ?_⟩, decide_eq_true rfl⟩, by rw [hn]; rfl, rfl⟩
      exact (List.mem_cons.1 hold).resolve_left (by simp)
  -- the ones written since are the ones announced since
  have hwritten : ∀ env ∈ since, env ∈ broadcastsTo (only type) conn c.state.log := fun env henv =>
    hsplit ▸ List.mem_append_left before henv
  have hannounced : ∀ a ∈ outgoing (only type) newer, ∃ travel,
      .sending a.type a.payload a.number travel ∈ c.state.log := fun a ha =>
    (mem_outgoing.1 ha).1.imp fun travel hsent => hlog ▸ List.mem_append_left _ hsent
  have hsame : List.Forall₂ (fun env (a : Announcement) => env.payload = a.payload) since
      (outgoing (only type) newer) := by
    have hboth := (List.forall₂_and_left _ _).2 ⟨hannounced, ((List.forall₂_and_left _ _).2 ⟨hwritten, hsince⟩).flip⟩
    refine hboth.flip.imp ?_
    rintro env a ⟨⟨travel, hsent⟩, henv, hcarries⟩
    exact hverbatim.carrying hsorted henv hsent hcarries
  obtain ⟨as, has, hsub⟩ := List.sublistForall₂_iff.1 hmatched
  have hsince' : since.map Envelope.payload = (outgoing (only type) newer).map Announcement.payload :=
    payloads_eq hsame
  have hnumbered : ∀ p c' env, .wrote p c' env ∈ c.state.log → env.type = type → (numberOf env).isSome = true := by
    intro p c' env hmem htype
    obtain ⟨n, travel, hn, -⟩ := hverbatim p c' env hmem htype
    rw [hn]
    rfl
  refine ⟨before.map Envelope.payload, ?_, ?_⟩
  · rw [payloadsOf_writtenTo hnumbered, hsplit, List.map_append, hsince']
  · rw [payloads_eq has]
    exact hsub.map _

end verbatim

end KerMP.Host
