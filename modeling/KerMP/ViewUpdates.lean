/-
The order in which a client hands view updates to its game.

Raw messages may come in any order, repeated and with any epoch; travel messages and zone loads may come in between,
and the build and save handlers of the client are suspended and resumed at will. In every run:
- the sequence numbers handed to the game increase strictly;
- after an accepted proposal nothing is handed out until a view batch of the current epoch has ended;
- whenever buffering is off the buffer is empty, and the buffer never holds more than 256 updates.

`Inv` is the invariant; it links the last accepted sequence number, the buffer, the flags and the log. `Quiet` is a step
that leaves the view updates alone (`Quiet.inv`), the handlers of the view updates have one lemma each (`wp_...`), and
`view_update_order` is the result.

Premise: raw messages have the shape the host gives them, an int `msg_id` and an int `sequence` (`HostBuilt`).
-/
import KerMP.ClientSteps

namespace KerMP.Client

open Py Coop Coro
open Base64 (Bytes)

/-! ## Reading the log -/

/-- the sequence number an entry hands to the game -/
def handedBy : Out → Option ℤ
  | .bridge _ .gameRawMessage payload => (intField payload "sequence" 0).toOption
  | _ => none

/-- the sequence numbers handed to the game, newest first -/
def handed (log : List Out) : List ℤ := log.filterMap handedBy

def isRaw : Out → Bool
  | .bridge _ .gameRawMessage _ => true
  | _ => false

/-- the epoch of the last accepted proposal -/
def epochOf : List Out → ℤ
  | [] => 0
  | .proposed e :: _ => e
  | _ :: log => epochOf log

/-- a proposal was accepted, and no view batch of the then current epoch has ended since -/
def awaiting : List Out → Bool
  | [] => false
  | .proposed _ :: _ => true
  | .batchEnd e :: log => if e = epochOf log then false else awaiting log
  | _ :: log => awaiting log

/-- nothing was handed out while a batch was awaited -/
def Waited : List Out → Prop
  | [] => True
  | o :: log => (isRaw o = true → awaiting log = false) ∧ Waited log

theorem handed_append (a b : List Out) : handed (a ++ b) = handed a ++ handed b := List.filterMap_append

/-- an entry without a mark changes neither the epoch nor what is awaited -/
theorem marks_cons {o : Out} (h : plainOut o = true ∨ isRaw o = true) (log : List Out) :
    epochOf (o :: log) = epochOf log ∧ awaiting (o :: log) = awaiting log := by
  cases o with
  | bridge | sent | captured => exact ⟨rfl, rfl⟩
  | proposed | batchEnd => simp [plainOut, isRaw] at h

theorem marks_append {a : List Out} (h : ∀ o ∈ a, plainOut o = true ∨ isRaw o = true) (log : List Out) :
    epochOf (a ++ log) = epochOf log ∧ awaiting (a ++ log) = awaiting log := by
  induction a with
  | nil => exact ⟨rfl, rfl⟩
  | cons o a ih =>
    obtain ⟨h1, h2⟩ := ih fun x hx => h x (List.mem_cons_of_mem o hx)
    obtain ⟨h3, h4⟩ := marks_cons (h o List.mem_cons_self) (a ++ log)
    exact ⟨h3.trans h1, h4.trans h2⟩

theorem plain_not_raw {o : Out} (h : plainOut o = true) : isRaw o = false ∧ handedBy o = none := by
  cases o with
  | bridge d t p =>
    cases t with
    | gameRawMessage => cases h
    | _ => exact ⟨rfl, rfl⟩
  | _ => exact ⟨rfl, rfl⟩

theorem handed_plain {a : List Out} (h : ∀ o ∈ a, plainOut o = true) : handed a = [] :=
  List.filterMap_eq_nil_iff.2 fun o ho => (plain_not_raw (h o ho)).2

theorem waited_append {a log : List Out} (h : ∀ o ∈ a, plainOut o = true ∨ isRaw o = true)
    (hraw : (∃ o ∈ a, isRaw o = true) → awaiting log = false) (hlog : Waited log) : Waited (a ++ log) := by
  induction a with
  | nil => exact hlog
  | cons o a ih =>
    have ha : ∀ x ∈ a, plainOut x = true ∨ isRaw x = true := fun x hx => h x (List.mem_cons_of_mem o hx)
    refine ⟨fun ho => ?_, ih ha fun ⟨x, hx, hr⟩ => hraw ⟨x, List.mem_cons_of_mem o hx, hr⟩⟩
    show awaiting (a ++ log) = false
    rw [(marks_append ha log).2]
    exact hraw ⟨o, List.mem_cons_self, ho⟩

theorem waited_split {newer older : List Out} {d : Bool} {p : Json}
    (h : Waited (newer ++ .bridge d .gameRawMessage p :: older)) : awaiting older = false := by
  induction newer with
  | nil => exact h.1 rfl
  | cons o newer ih => exact ih h.2

/-! ## The invariant -/

/-- a raw message of the shape the host gives it -/
def HostBuilt (payload : Json) : Prop :=
  ∃ kvs m n, payload = .obj kvs ∧ kvs.lookup "msg_id" = some (.int m) ∧ kvs.lookup "sequence" = some (.int n)

/-- an update that can be handed out: its ids are ints and its payload decodes -/
structure Sound (item : Item) : Prop where
  msgId : ∃ m, item.lookup "msg_id" = some (.int m)
  sequence : ∃ n, item.lookup "sequence" = some (.int n)
  raw : ∃ (j : Json) (raw : Bytes), item.lookup "payload_b64" = some j ∧ Base64.b64decode j.toStr = .ok raw

structure Inv (c : Client) : Prop where
  sound : ∀ item ∈ c.bufferedViewUpdates, Sound item
  sorted : (c.bufferedViewUpdates.map itemSequence).Pairwise (· < ·)
  above : ∀ n ∈ handed c.log, ∀ item ∈ c.bufferedViewUpdates, n < itemSequence item
  handedLast : ∀ n ∈ handed c.log, n ≤ c.lastGameSequence
  bufferLast : ∀ item ∈ c.bufferedViewUpdates, itemSequence item ≤ c.lastGameSequence
  order : (handed c.log).Pairwise (· > ·)
  off : c.bufferViewUpdates = false → c.bufferedViewUpdates = []
  limit : c.maxBufferedViewUpdates = 256
  bound : c.bufferedViewUpdates.length ≤ 256
  epoch : epochOf c.log = c.travelEpoch
  waiting : awaiting c.log = true → c.bufferViewUpdates = true ∧ c.travelBatchComplete = false
  waited : Waited c.log

theorem inv_init (playerId : String) (disk : Disk) : Inv (init playerId disk) :=
  ⟨by simp [init], by simp [init], by simp [init, handed], by simp [init, handed], by simp [init],
    by simp [init, handed], fun _ => rfl, rfl, by simp [init], rfl, fun h => absurd h (by simp [init, awaiting]), trivial⟩

/-- a step that leaves the view updates alone -/
structure Quiet (c c' : Client) : Prop where
  view : SameView c c'
  log : ∃ os, c'.log = os ++ c.log ∧ ∀ o ∈ os, plainOut o = true

theorem Quiet.inv {c c' : Client} (h : Quiet c c') (hc : Inv c) : Inv c' := by
  obtain ⟨⟨hl, he, hon, hb, hm, hcomp⟩, os, hlog, hos⟩ := h
  have hmarks := marks_append (fun o ho => Or.inl (hos o ho)) c.log
  have hhand : handed c'.log = handed c.log := by rw [hlog, handed_append, handed_plain hos, List.nil_append]
  refine ⟨?_, ?_, ?_, ?_, ?_, ?_, ?_, ?_, ?_, ?_, ?_, ?_⟩
  · rw [hb]; exact hc.sound
  · rw [hb]; exact hc.sorted
  · rw [hb, hhand]; exact hc.above
  · rw [hhand, hl]; exact hc.handedLast
  · rw [hb, hl]; exact hc.bufferLast
  · rw [hhand]; exact hc.order
  · rw [hon, hb]; exact hc.off
  · rw [hm]; exact hc.limit
  · rw [hb]; exact hc.bound
  · rw [hlog, hmarks.1, he]; exact hc.epoch
  · rw [hlog, hmarks.2, hon, hcomp]; exact hc.waiting
  · rw [hlog]
    refine waited_append (fun o ho => Or.inl (hos o ho)) ?_ hc.waited
    rintro ⟨o, ho, hr⟩
    rw [(plain_not_raw (hos o ho)).1] at hr
    cases hr

/-! ## Handing out -/

abbrev D : Discipline Client Empty := Discipline.plain Inv fun _ _ => True

variable {own : Set Empty}

theorem Sound.sequence_eq {item : Item} (h : Sound item) : intField (.obj item) "sequence" 0 = .ok (itemSequence item) := by
  obtain ⟨n, hn⟩ := h.sequence
  simp [intField, itemSequence, Json.field, hn, Json.toInt]

/-- updates handed out one after the other -/
def HandedOut (items : List Item) (c c' : Client) : Prop :=
  SameView c c' ∧ ∃ os, c'.log = os ++ c.log ∧ (∀ o ∈ os, isRaw o = true) ∧
    handed os = (items.map itemSequence).reverse

theorem wp_applyGameMessage {item : Item} (h : Sound item) {c : Client} {Q : Except Exc Unit → Set Empty → Client → Prop}
    (hQ : ∀ own c', HandedOut [item] c c' → Q (.ok ()) own c') : wp D own (applyGameMessage (.obj item)) Q c := by
  obtain ⟨m, hm⟩ := h.msgId
  obtain ⟨j, raw, hj, hraw⟩ := h.raw
  simp only [applyGameMessage, bridgeSend, wp_bind, wp_ofExcept, wp_modify, wp_askEnv, andThen, Json.item, hj, hraw, hm,
    Json.toInt, ok_bind, Discipline.may_plain, true_and]
  intro a
  refine hQ _ _ ⟨⟨rfl, rfl, rfl, rfl, rfl, rfl⟩, [.bridge a.ok .gameRawMessage (.obj item)], rfl, by simp [isRaw], ?_⟩
  simp [handed, handedBy, h.sequence_eq, Except.toOption]

theorem wp_applyAll {items : List Item} (h : ∀ item ∈ items, Sound item) {c : Client}
    {Q : Except Exc Unit → Set Empty → Client → Prop}
    (hQ : ∀ own c', HandedOut items c c' → Q (.ok ()) own c') : wp D own (applyAll items) Q c := by
  induction items generalizing own c with
  | nil => exact hQ own c ⟨SameView.refl c, [], rfl, by simp, rfl⟩
  | cons item rest ih =>
    simp only [applyAll, wp_bind]
    refine wp_applyGameMessage (h item List.mem_cons_self) fun own c₁ h₁ => ?_
    refine ih (fun x hx => h x (List.mem_cons_of_mem item hx)) fun own c₂ h₂ => hQ own c₂ ?_
    obtain ⟨hv₁, os₁, hl₁, hr₁, hh₁⟩ := h₁
    obtain ⟨hv₂, os₂, hl₂, hr₂, hh₂⟩ := h₂
    refine ⟨hv₁.trans hv₂, os₂ ++ os₁, by rw [hl₂, hl₁, List.append_assoc], fun o ho => ?_, ?_⟩
    · rcases List.mem_append.1 ho with ho | ho
      · exact hr₂ o ho
      · exact hr₁ o ho
    · rw [handed_append, hh₁, hh₂]
      simp

theorem sortItems_sorted {items : List Item} (h : (items.map itemSequence).Pairwise (· < ·)) : sortItems items = items := by
  refine List.mergeSort_of_pairwise (List.Pairwise.imp ?_ (List.pairwise_map.1 h))
  intro a b hab
  exact decide_eq_true (le_of_lt hab)

/-- updates above everything handed out before, none of them awaited, in order -/
theorem HandedOut.inv {c c' : Client} {items : List Item} (hc : Inv c) (h : HandedOut items c c')
    (hsorted : (items.map itemSequence).Pairwise (· < ·)) (habove : ∀ n ∈ handed c.log, ∀ x ∈ items, n < itemSequence x)
    (hlast : ∀ x ∈ items, itemSequence x ≤ c.lastGameSequence) (hwait : awaiting c.log = false) :
    (handed c'.log).Pairwise (· > ·) ∧ (∀ n ∈ handed c'.log, n ≤ c.lastGameSequence) ∧ epochOf c'.log = c.travelEpoch ∧
      awaiting c'.log = false ∧ Waited c'.log := by
  obtain ⟨-, os, hlog, hraw, hh⟩ := h
  have hmarks := marks_append (fun o ho => Or.inr (hraw o ho)) c.log
  have hhand : handed c'.log = (items.map itemSequence).reverse ++ handed c.log := by rw [hlog, handed_append, hh]
  refine ⟨?_, ?_, ?_, ?_, ?_⟩
  · rw [hhand, List.pairwise_append]
    refine ⟨List.pairwise_reverse.2 hsorted, hc.order, fun a ha b hb => ?_⟩
    obtain ⟨x, hx, rfl⟩ := List.mem_map.1 (List.mem_reverse.1 ha)
    exact habove b hb x hx
  · intro n hn
    rw [hhand] at hn
    rcases List.mem_append.1 hn with hn | hn
    · obtain ⟨x, hx, rfl⟩ := List.mem_map.1 (List.mem_reverse.1 hn)
      exact hlast x hx
    · exact hc.handedLast n hn
  · rw [hlog, hmarks.1, hc.epoch]
  · rw [hlog, hmarks.2, hwait]
  · rw [hlog]
    exact waited_append (fun o ho => Or.inr (hraw o ho)) (fun _ => hwait) hc.waited

theorem wp_finishLocalTravel {c : Client} (hc : Inv c) (hwait : awaiting c.log = false) :
    wp D own finishLocalTravel (fun _ _ c' => Inv c') c := by
  simp only [finishLocalTravel, wp_bind, wp_get, andThen, Discipline.may_plain, true_and]
  rw [sortItems_sorted hc.sorted]
  refine wp_applyAll hc.sound fun own c' h => ?_
  obtain ⟨horder, hlast, hepoch, hawait, hwaited⟩ :=
    h.inv hc hc.sorted hc.above hc.bufferLast hwait
  simp only [andThen, wp_modify, Discipline.may_plain, true_and]
  have hv := h.1
  refine ⟨by simp, by simp, by simp, ?_, by simp, horder, fun _ => rfl, hv.limit.trans hc.limit, by simp, ?_, ?_, hwaited⟩
  · intro n hn
    exact (hlast n hn).trans_eq hv.last.symm
  · exact hepoch.trans hv.epoch.symm
  · intro hw
    exact absurd hw (by simp [hawait])

/-! ## The handlers of view updates -/

/-- the handler keeps the invariant of the view updates -/
abbrev Safe {α : Type} (p : ClientM α) : Prop := Keeps Inv (fun _ _ => True) p

/-- the handlers that work on other parts -/
theorem safe_of_does {α : Type} {p : ClientM α} (hp : Guar (Does {.save, .build}) p) : Safe p := by
  refine keeps_of_guar (fun _ => trivial) (fun _ _ _ _ _ => trivial) (fun c c' h hc => ⟨trivial, ?_⟩) hp
  obtain ⟨os, hos, hplain, -⟩ := h.log
  have hquiet : Quiet c c' := ⟨h.view.resolve_left (by simp), os, hos, hplain.resolve_left (by simp)⟩
  exact hquiet.inv hc

theorem safe_sidecarError (reason : String) : Safe (sidecarError reason) := safe_of_does (guar_sidecarError reason)

theorem Inv.setLast {c : Client} (h : Inv c) {n : ℤ} (hn : c.lastGameSequence ≤ n) :
    Inv { c with lastGameSequence := n } :=
  { h with handedLast := fun m hm => (h.handedLast m hm).trans hn
           bufferLast := fun x hx => (h.bufferLast x hx).trans hn }

/-- a new update goes to the end of the buffer -/
theorem Inv.append {c : Client} (h : Inv c) {item : Item} (hitem : Sound item)
    (hlast : itemSequence item = c.lastGameSequence)
    (hbuffer : ∀ x ∈ c.bufferedViewUpdates, itemSequence x < itemSequence item)
    (habove : ∀ n ∈ handed c.log, n < itemSequence item) (hon : c.bufferViewUpdates = true)
    (hroom : c.bufferedViewUpdates.length < 256) :
    Inv { c with bufferedViewUpdates := sortItems (c.bufferedViewUpdates ++ [item]) } := by
  have hsorted : ((c.bufferedViewUpdates ++ [item]).map itemSequence).Pairwise (· < ·) := by
    rw [List.map_append, List.pairwise_append]
    refine ⟨h.sorted, List.pairwise_singleton _ _, fun a ha b hb => ?_⟩
    obtain ⟨x, hx, rfl⟩ := List.mem_map.1 ha
    rw [List.map_singleton, List.mem_singleton] at hb
    rw [hb]
    exact hbuffer x hx
  rw [sortItems_sorted hsorted]
  have hmem : ∀ {P : Item → Prop}, (∀ x ∈ c.bufferedViewUpdates, P x) → P item →
      ∀ x ∈ c.bufferedViewUpdates ++ [item], P x := by
    intro P hP hi x hx
    rcases List.mem_append.1 hx with hx | hx
    · exact hP x hx
    · rw [List.mem_singleton.1 hx]; exact hi
  refine { h with sound := hmem h.sound hitem, sorted := hsorted, above := fun n hn => hmem (h.above n hn) (habove n hn)
                  bufferLast := hmem h.bufferLast hlast.le, off := fun hoff => ?_, bound := ?_ }
  · have hoff : c.bufferViewUpdates = false := hoff
    rw [hon] at hoff; cases hoff
  · rw [List.length_append, List.length_singleton]; exact hroom

theorem wp_takeRaw {c : Client} (hc : Inv c) {item : Item} (hitem : Sound item)
    (hnew : c.lastGameSequence < itemSequence item) :
    wp D own (takeRaw (itemSequence item) (.obj item)) (fun _ _ c' => Inv c') c := by
  have hc₁ := hc.setLast hnew.le
  have habove : ∀ n ∈ handed c.log, n < itemSequence item := fun n hn => (hc.handedLast n hn).trans_lt hnew
  simp only [takeRaw, setLastSequence, wp_bind, wp_modify, wp_get, andThen, Discipline.may_plain, true_and]
  split_ifs with hon hfull
  · exact safe_sidecarError _ _ _ hc₁
  · simp only [Json.toDict_obj, wp_bind, wp_ofExcept, andThen, bufferItem, wp_modify, Discipline.may_plain, true_and]
    refine hc₁.append hitem rfl (fun x hx => (hc.bufferLast x hx).trans_lt hnew) habove hon ?_
    have hfull : ¬ c.maxBufferedViewUpdates ≤ c.bufferedViewUpdates.length := hfull
    rw [hc.limit] at hfull
    exact not_le.1 hfull
  · refine wp_applyGameMessage hitem fun own c' h => ?_
    have hoff : c.bufferViewUpdates = false := by simpa using hon
    have hempty := hc.off hoff
    have hwait : awaiting c.log = false := by
      by_contra hw
      have := (hc.waiting (by simpa using hw)).1
      rw [hoff] at this; cases this
    obtain ⟨horder, hlast, hepoch, hawait, hwaited⟩ :=
      h.inv hc₁ (List.pairwise_singleton _ _) (by simpa using habove) (by simp) hwait
    have hv := h.1
    have hbuf : c'.bufferedViewUpdates = [] := hv.buffer.trans hempty
    refine ⟨by simp [hbuf], by simp [hbuf], by simp [hbuf], fun n hn => ?_, by simp [hbuf], horder, fun _ => hbuf,
      hv.limit.trans hc.limit, by simp [hbuf], hepoch.trans hv.epoch.symm, fun hw => ?_, hwaited⟩
    · exact (hlast n hn).trans_eq hv.last.symm
    · rw [hawait] at hw; cases hw

theorem safe_onRawMessage {payload : Json} (h : HostBuilt payload) : Safe (onRawMessage payload) := by
  obtain ⟨item, m, n, rfl, hm, hn⟩ := h
  have hseq : itemSequence item = n := by simp [itemSequence, Json.field, hn, Json.toInt]
  intro own c hc
  have hfield : intField (.obj item) "sequence" 0 = .ok (itemSequence item) := by
    rw [hseq]; simp [intField, Json.field, hn, Json.toInt]
  simp only [onRawMessage, hfield, wp_bind, wp_ofExcept, wp_get, andThen, Discipline.may_plain, true_and]
  by_cases hold : itemSequence item ≤ c.lastGameSequence
  · rw [if_pos hold]
    exact hc
  rw [if_neg hold]
  cases hcheck : checkRaw (.obj item) with
  | error exc => exact safe_sidecarError _ _ _ hc
  | ok u =>
    have hsound : Sound item := by
      refine ⟨⟨m, hm⟩, ⟨n, hn⟩, ?_⟩
      obtain ⟨j, hj, hrest⟩ := bind_ok hcheck
      obtain ⟨raw, hraw, -⟩ := bind_ok hrest
      refine ⟨j, raw, ?_, hraw⟩
      simp only [Json.item] at hj
      split at hj
      · rename_i v hv
        cases hj; exact hv
      · cases hj
    simp only [Json.get_obj, wp_bind, wp_ofExcept, andThen]
    cases hrefuse : c.epochRefusal (Json.field item "epoch" .null) with
    | error e => exact hc
    | ok refusal =>
      cases refusal with
      | some reason => exact safe_sidecarError _ _ _ hc
      | none => exact wp_takeRaw hc hsound (not_le.1 hold)

theorem Inv.begin {c : Client} (h : Inv c) :
    Inv { c with bufferViewUpdates := true, travelBatchComplete := false, bufferedViewUpdates := [] } :=
  { h with sound := by simp, sorted := by simp, above := by simp, bufferLast := by simp, off := fun _ => rfl
           bound := by simp, waiting := fun _ => ⟨rfl, rfl⟩ }

theorem Inv.propose {c : Client} (h : Inv c) (e : ℤ) :
    Inv ({ c with travelEpoch := e, localZoneLoaded := false, travelBatchComplete := false, bufferViewUpdates := true,
                  bufferedViewUpdates := [] }.note (.proposed e)) :=
  { h.begin with epoch := rfl, waiting := fun _ => ⟨rfl, rfl⟩, waited := ⟨fun hr => (by cases hr), h.waited⟩ }

theorem Inv.batchEnd {c : Client} (h : Inv c) :
    Inv ({ c with travelBatchComplete := true }.note (.batchEnd c.travelEpoch)) ∧
      awaiting (({ c with travelBatchComplete := true }.note (.batchEnd c.travelEpoch)).log) = false := by
  have hfree : awaiting (.batchEnd c.travelEpoch :: c.log) = false := by simp [awaiting, h.epoch]
  refine ⟨{ h with waiting := fun hw => ?_, waited := ⟨fun hr => (by cases hr), h.waited⟩ }, hfree⟩
  have hw : awaiting (.batchEnd c.travelEpoch :: c.log) = true := hw
  rw [hfree] at hw; cases hw

theorem safe_beginBatch : Safe beginBatch := by
  intro own c hc
  simp only [beginBatch, wp_modify, Discipline.may_plain, true_and]
  exact hc.begin

theorem safe_endBatch : Safe endBatch := by
  intro own c hc
  simp only [endBatch, wp_bind, wp_modify, wp_get, andThen, Discipline.may_plain, true_and]
  obtain ⟨hi, hw⟩ := hc.batchEnd
  split_ifs
  · exact wp_finishLocalTravel hi hw
  · exact hi

theorem safe_onViewBatch (payload : Json) : Safe (onViewBatch payload) := by
  have hsend : Safe (bridgeSend .travelViewBatch payload) := safe_of_does (guar_bridgeSend (by simp) _)
  refine keeps_bind (keeps_ofExcept _) fun epoch => keeps_get (fun _ => trivial) fun own c hc => ?_
  split_ifs with he
  · exact safe_sidecarError _ _ _ hc
  · refine keeps_bind (keeps_ofExcept _) (fun kind => ?_) own c hc
    dsimp only
    split_ifs
    · exact keeps_bind safe_beginBatch fun _ => hsend
    · exact keeps_bind safe_endBatch fun _ => hsend
    · exact hsend

theorem safe_onPropose (payload : Json) : Safe (onPropose payload) := by
  refine keeps_bind (keeps_ofExcept _) fun incoming => keeps_get (fun _ => trivial) fun own c hc => ?_
  split_ifs with he
  · exact hc
  refine keeps_bind (fun own c hc => ?_) (fun _ => safe_of_does (guar_bridgeSend (by simp) _)) own c hc
  simp only [Client.propose, wp_modify, Discipline.may_plain, true_and]
  exact hc.propose incoming

/-- when the batch is complete nothing is awaited -/
theorem Inv.free {c : Client} (h : Inv c) (hcomp : c.travelBatchComplete = true) : awaiting c.log = false := by
  by_contra hw
  have := (h.waiting (by simpa using hw)).2
  rw [hcomp] at this; cases this

theorem safe_onResume (payload : Json) : Safe (onResume payload) := by
  have hsend : Safe (bridgeSend .travelResume payload) := safe_of_does (guar_bridgeSend (by simp) _)
  refine keeps_bind (keeps_ofExcept _) fun epoch => keeps_get (fun _ => trivial) fun own c hc => ?_
  dsimp only
  split_ifs with hcond
  · rw [wp_bind]
    refine wp_mono (fun r own c' hc' => ?_) (wp_finishLocalTravel hc (hc.free hcond.2))
    cases r with
    | ok _ => exact hsend own c' hc'
    | error e => exact hc'
  · exact hsend own c hc

theorem safe_markLocalZoneLoaded (epoch : ℤ) : Safe (markLocalZoneLoaded epoch) := by
  refine keeps_get (fun _ => trivial) fun own c hc => ?_
  split_ifs with he hcomp
  · exact hc
  · simp only [wp_bind, wp_modify, andThen, Discipline.may_plain, true_and]
    exact wp_finishLocalTravel { hc with } (hc.free hcomp)
  · simp only [wp_bind, wp_modify, andThen, Discipline.may_plain, true_and]
    exact { hc with }

/-! ## Every run -/

/-- raw messages have the shape the host gives them -/
def RawShape (_ : Client) : Event → Prop
  | .net (.ok env) => env.type = .gameRawMessage → HostBuilt env.payload
  | _ => True

theorem safe_onNetworkMessage (sha256 : Bytes → String) {env : Envelope}
    (h : env.type = .gameRawMessage → HostBuilt env.payload) : Safe (onNetworkMessage sha256 env) := by
  refine onNetworkMessage_view sha256 (fun _ => safe_of_does) (fun hraw => ?_) (fun _ => ?_) (fun _ => ?_) fun _ => ?_
  · exact keeps_bind (safe_onRawMessage (h hraw)) fun _ => keeps_pure _
  · exact keeps_bind (safe_onViewBatch _) fun _ => keeps_pure _
  · exact keeps_bind (safe_onPropose _) fun _ => keeps_pure _
  · exact keeps_bind (safe_onResume _) fun _ => keeps_pure _

theorem safe_handle (sha256 : Bytes → String) (c : Client) (t : Event) (h : RawShape c t) : Safe (handle sha256 t) := by
  cases t with
  | net r =>
    refine keeps_bind (safe_of_does (guar_setListening .busy)) fun _ => keeps_bind (keeps_attempt ?_) fun r => ?_
    · cases r with
      | error e => exact keeps_raise e
      | ok env =>
        have hboth : Safe (onNetworkMessage sha256 env >>= fun flush =>
            if flush then flushBuild .net else setListening .idle) :=
          keeps_bind (safe_onNetworkMessage sha256 h) fun flush => safe_of_does (guar_afterMessage (by simp) flush)
        exact hboth
    · exact safe_of_does (guar_afterListen r)
  | game event => exact safe_of_does (guar_onGameEvent (by simp) event)
  | zoneLoaded epoch => exact safe_markLocalZoneLoaded epoch
  | flush f => exact safe_of_does (guar_resumeFlush (by simp) f)

/-- every run keeps the invariant -/
theorem run_keeps_view (sha256 : Bytes → String) (playerId : String) (disk : Disk) (acts : List ClientAct)
    (hacts : Pool.AllAdmitted (handle sha256) enabled RawShape ⟨init playerId disk, []⟩ acts) :
    Inv (runFrom sha256 ⟨init playerId disk, []⟩ acts).state :=
  (Pool.run_plain (R := fun _ _ => True) (fun _ => trivial) (fun _ _ _ _ _ => trivial)
    (fun t c hc _ ht => safe_handle sha256 c t ht ∅ c hc) (inv_init playerId disk) acts hacts).2

/-- what a client guarantees about the view updates it has handed to its game -/
structure ViewsOrdered (c : Client) : Prop where
  /-- oldest first, the sequence numbers handed out increase strictly -/
  increasing : (handed c.log).reverse.Pairwise (· < ·)
  /-- when an update was handed out, no end of a view batch was awaited -/
  waited : ∀ newer older delivered payload, c.log = newer ++ .bridge delivered .gameRawMessage payload :: older →
    awaiting older = false
  /-- buffering that is off has an empty buffer -/
  off : c.bufferViewUpdates = false → c.bufferedViewUpdates = []
  bound : c.bufferedViewUpdates.length ≤ 256

theorem Inv.ordered {c : Client} (hc : Inv c) : ViewsOrdered c := by
  refine ⟨List.pairwise_reverse.2 hc.order, ?_, hc.off, hc.bound⟩
  intro newer older delivered payload hlog
  have hwaited := hc.waited
  rw [hlog] at hwaited
  exact waited_split hwaited

/-- **View updates are ordered.** In every run whose raw messages have the shape the host gives them, in any order and
with any epochs, between any travel messages and zone loads, the client hands out view updates in order. -/
theorem view_update_order (sha256 : Bytes → String) (playerId : String) (disk : Disk) (acts : List ClientAct)
    (hacts : Pool.AllAdmitted (handle sha256) enabled RawShape ⟨init playerId disk, []⟩ acts) :
    ViewsOrdered (runFrom sha256 ⟨init playerId disk, []⟩ acts).state := by
  have hc : Inv (runFrom sha256 ⟨init playerId disk, []⟩ acts).state := run_keeps_view sha256 playerId disk acts hacts
  exact hc.ordered

def fromHost (type : MessageType) (payload : Json) : ClientAct :=
  .arrive (.net (.ok ⟨type, payload, "host", .str "m", .null⟩)) []

def rawOf (sequence epoch : ℤ) : Json :=
  .obj [("msg_id", .int 7), ("sequence", .int sequence), ("payload_b64", .str "QQ=="), ("epoch", .int epoch)]

/-- two updates arrive in the wrong order during a travel, the later one twice -/
def travelWithUpdates : List ClientAct :=
  [fromHost .travelPropose (.obj [("epoch", .int 1)]), fromHost .gameRawMessage (rawOf 4 1),
    fromHost .gameRawMessage (rawOf 3 1), fromHost .gameRawMessage (rawOf 4 1), fromHost .gameRawMessage (rawOf 5 1),
    fromHost .travelViewBatch (.obj [("epoch", .int 1), ("kind", .str "end")]), .arrive (.zoneLoaded 1) []]

theorem rawShape_rawOf (sequence epoch : ℤ) : HostBuilt (rawOf sequence epoch) :=
  ⟨_, 7, sequence, rfl, rfl, rfl⟩

theorem view_update_order_travel :
    ViewsOrdered (runFrom (fun _ => "") ⟨init "p" ∅, []⟩ travelWithUpdates).state :=
  view_update_order (fun _ => "") "p" ∅ travelWithUpdates (by
    apply Pool.allAdmitted_of_forall
    intro a ha c
    simp only [travelWithUpdates, List.mem_cons, List.not_mem_nil, or_false] at ha
    rcases ha with rfl | rfl | rfl | rfl | rfl | rfl | rfl
    · intro h; cases h
    · exact fun _ => rawShape_rawOf 4 1
    · exact fun _ => rawShape_rawOf 3 1
    · exact fun _ => rawShape_rawOf 4 1
    · exact fun _ => rawShape_rawOf 5 1
    · intro h; cases h
    · trivial)

end KerMP.Client
