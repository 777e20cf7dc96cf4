/-
The bounded queue of native captures (`kermp/native_capture.py`).

A push that finds the queue full counts a drop and converts the thread id only then. A thread id that `int` refuses
leaves the drop counted, although nothing was pushed and nothing has left the queue.

- `push`, `take`: the two calls. `Run`: the queue, and what its calls have returned.
- `Inv`: ids, order and capacity; kept by every call, refused or not (`Inv.change`).
- `capture_accounting`: pushes are what was taken, what is held and what was dropped, all along, exactly when no refused
  thread id meets a full queue.
- `refused_push_is_a_drop`: a run in which they are not.
-/
import KerMP.Lib.Deque
import KerMP.Lib.Handler
import KerMP.Lib.Prefixes
import KerMP.Lib.Base64

namespace KerMP

open Py Handler Prefixes
open Base64 (Bytes)

/-! ## Payloads -/

/-- the largest index of a sequence -/
def SSIZE_MAX : ℤ := 9223372036854775807

/-- an item of a list that becomes bytes -/
def byteOf : Json → Except Exc UInt8
  | .int n => if 0 ≤ n ∧ n < 256 then .ok (UInt8.ofNat n.toNat) else .error (.valueError "bytes must be in range(0, 256)")
  | .bool b => .ok (if b then 1 else 0)
  | v => .error (.typeError ("'" ++ v.typeName ++ "' object cannot be interpreted as an integer"))

/-- what a payload is: bytes (a bytearray or a memoryview too), or another value -/
inductive Payload where
  | bytes (raw : Bytes)
  | value (v : Json)

/-- `bytes(payload)`; of an int it makes that many zeros -/
def Payload.toBytes : Payload → Except Exc Bytes
  | .bytes raw => .ok raw
  | .value (.int n) =>
    if n < -SSIZE_MAX - 1 ∨ SSIZE_MAX < n then .error (.overflowError "cannot fit 'int' into an index-sized integer")
    else if n < 0 then .error (.valueError "negative count")
    else .ok (List.replicate n.toNat 0)
  | .value (.bool b) => .ok (if b then [0] else [])
  | .value (.str _) => .error (.typeError "string argument without an encoding")
  | .value (.arr xs) => xs.mapM byteOf
  | .value (.obj kvs) => (kvs.map fun kv => Json.str kv.1).mapM byteOf
  | .value v => .error (.typeError ("cannot convert '" ++ v.typeName ++ "' object to bytes"))

/-! ## The queue -/

structure CaptureItem where
  captureId : ℕ
  threadId : ℤ
  payloadSize : ℕ
  payloadHash : String
deriving DecidableEq

structure CaptureQueue where
  capacity : ℕ
  items : Deque CaptureItem capacity
  droppedCount : ℕ
  nextId : ℕ

namespace CaptureQueue

/-- `CaptureQueue(capacity)` -/
def create (capacity : ℤ := 64) : Except Exc CaptureQueue :=
  if capacity < 1 then .error (.valueError "capacity must be positive")
  else if SSIZE_MAX < capacity then .error (.overflowError "Python int too large to convert to C ssize_t")
  else .ok ⟨capacity.toNat, .empty, 0, 1⟩

def push (sha256 : Bytes → String) (payload : Payload) (threadId : Json := .int 0) :
    ExceptT Exc (StateM CaptureQueue) CaptureItem := do
  let raw ← liftM payload.toBytes
  let q ← get
  if q.items.toList.length = q.capacity then
    modify fun q => { q with droppedCount := q.droppedCount + 1 }
  -- a thread id that is refused here leaves the drop counted
  let threadId ← liftM threadId.toInt
  let q ← get
  let item : CaptureItem := ⟨q.nextId, threadId, raw.length, sha256 raw⟩
  modify fun q => { q with nextId := q.nextId + 1 }
  modify fun q => { q with items := q.items.append item }
  return item

def take (q : CaptureQueue) : Option CaptureItem × CaptureQueue :=
  match q.items.popleft with
  | some (item, items) => (some item, { q with items := items })
  | none => (none, q)

/-! ## Runs -/

inductive Call where
  | push (payload : Payload) (threadId : Json)
  | take

/-- the queue, and what the calls up to now have returned -/
structure Run where
  queue : CaptureQueue
  pushed : List CaptureItem
  taken : List CaptureItem

def start (q : CaptureQueue) : Run := ⟨q, [], []⟩

/-- a call that raises returns nothing, but the queue is as the call has left it -/
def step (sha256 : Bytes → String) (r : Run) : Call → Run
  | .push payload threadId =>
    match exec (push sha256 payload threadId) r.queue with
    | (.ok item, q) => ⟨q, r.pushed ++ [item], r.taken⟩
    | (.error _, q) => ⟨q, r.pushed, r.taken⟩
  | .take => ⟨r.queue.take.2, r.pushed, r.taken ++ r.queue.take.1.toList⟩

def Run.held (r : Run) : List CaptureItem := r.queue.items.toList

/-! ## What is claimed -/

/-- the accounting of a queue of that capacity, by what its calls have returned -/
structure Accounted (capacity : ℤ) (r : Run) : Prop where
  /-- the ids of the pushes are 1, 2, 3, ... -/
  ids : r.pushed.map (·.captureId) = List.range' 1 r.pushed.length
  /-- what is held is the end of what was pushed, and of what was pushed and not taken -/
  contiguous : r.held <:+ r.pushed
  recent : r.held <:+ r.pushed.filter (· ∉ r.taken)
  bounded : (r.held.length : ℤ) ≤ capacity
  /-- a take returns the oldest item held, if there is one -/
  oldest : ∀ x, r.queue.take.1 = some x ↔ x ∈ r.held ∧ ∀ y ∈ r.held, x.captureId ≤ y.captureId
  pushes : r.pushed.length = r.taken.length + r.held.length + r.queue.droppedCount

/-- a push that meets a full queue has a thread id that `int` takes, or no payload that `bytes` takes -/
def Counts (q : CaptureQueue) : Call → Prop
  | .push payload threadId => q.items.toList.length = q.capacity → (∃ raw, payload.toBytes = .ok raw) →
      ∃ id, threadId.toInt = .ok id
  | .take => True

/-! ## One call -/

section calls
variable {sha256 : Bytes → String} {payload : Payload} {threadId : Json} {raw : Bytes} {id : ℤ} {e : Exc} {r : Run}

/-- the queue after a drop has been counted, if it is full -/
def counted (q : CaptureQueue) : CaptureQueue := { q with droppedCount := q.droppedCount + q.items.overflow }

theorem push_unreadable (h : payload.toBytes = .error e) (q : CaptureQueue) :
    exec (push sha256 payload threadId) q = (.error e, q) := by
  simp [push, h]

theorem push_refused (h : payload.toBytes = .ok raw) (hid : threadId.toInt = .error e) (q : CaptureQueue) :
    exec (push sha256 payload threadId) q = (.error e, q.counted) := by
  by_cases hfull : q.items.toList.length = q.capacity
  · simp [push, h, hid, hfull, counted, Deque.overflow]
  · simp [push, h, hid, hfull, counted, Deque.overflow]

theorem push_ok (h : payload.toBytes = .ok raw) (hid : threadId.toInt = .ok id) (q : CaptureQueue) :
    exec (push sha256 payload threadId) q = (.ok ⟨q.nextId, id, raw.length, sha256 raw⟩,
      ⟨q.capacity, q.items.append ⟨q.nextId, id, raw.length, sha256 raw⟩, q.droppedCount + q.items.overflow,
        q.nextId + 1⟩) := by
  by_cases hfull : q.items.toList.length = q.capacity
  · simp [push, h, hid, hfull, Deque.overflow, Except.map]
  · simp [push, h, hid, hfull, Deque.overflow, Except.map]

theorem take_empty {q : CaptureQueue} (h : q.items.popleft = none) : q.take = (none, q) := by
  rw [take, h]

theorem take_oldest {q : CaptureQueue} {x : CaptureItem} {items : Deque CaptureItem q.capacity}
    (h : q.items.popleft = some (x, items)) : q.take = (some x, { q with items := items }) := by
  rw [take, h]

theorem take_eq_head (q : CaptureQueue) : q.take.1 = q.items.toList.head? := by
  cases h : q.items.popleft with
  | none => rw [take_empty h, Deque.popleft_eq_none.1 h, List.head?_nil]
  | some found =>
    obtain ⟨x, items⟩ := found
    rw [take_oldest h, Deque.popleft_eq_some.1 h, List.head?_cons]

/-- what a call can do, and when -/
inductive Change (r : Run) (c : Call) : Run → Prop
  | pushed (id : ℤ) (raw : Bytes) (hash : String) (counts : Counts r.queue c) : Change r c
      ⟨⟨r.queue.capacity, r.queue.items.append ⟨r.queue.nextId, id, raw.length, hash⟩,
          r.queue.droppedCount + r.queue.items.overflow, r.queue.nextId + 1⟩,
        r.pushed ++ [⟨r.queue.nextId, id, raw.length, hash⟩], r.taken⟩
  | refused (counts : Counts r.queue c ↔ r.queue.items.overflow = 0) : Change r c { r with queue := r.queue.counted }
  | taken (x : CaptureItem) (items : Deque CaptureItem r.queue.capacity) (hx : r.held = x :: items.toList)
      (counts : Counts r.queue c) : Change r c ⟨{ r.queue with items := items }, r.pushed, r.taken ++ [x]⟩
  | idle (counts : Counts r.queue c) : Change r c r

theorem step_change (sha256 : Bytes → String) (r : Run) (c : Call) : Change r c (step sha256 r c) := by
  cases c with
  | push payload threadId =>
    cases hraw : payload.toBytes with
    | error e =>
      have hcounts : Counts r.queue (.push payload threadId) := by
        rintro - ⟨raw, h⟩
        rw [hraw] at h
        cases h
      simp only [step, push_unreadable hraw]
      exact .idle hcounts
    | ok raw =>
      cases hid : threadId.toInt with
      | error e =>
        simp only [step, push_refused hraw hid]
        refine .refused ⟨fun h => ?_, fun h hfull => ?_⟩
        · refine if_neg fun hfull => ?_
          obtain ⟨id, hid'⟩ := h hfull ⟨raw, hraw⟩
          rw [hid] at hid'
          cases hid'
        · rw [Deque.overflow, if_pos hfull] at h
          cases h
      | ok id =>
        simp only [step, push_ok hraw hid]
        exact .pushed id raw (sha256 raw) fun _ _ => ⟨id, hid⟩
  | take =>
    cases hpop : r.queue.items.popleft with
    | none =>
      simp only [step, take_empty hpop, Option.toList_none, List.append_nil]
      exact .idle trivial
    | some found =>
      obtain ⟨x, items⟩ := found
      simp only [step, take_oldest hpop, Option.toList_some]
      exact .taken x items (Deque.popleft_eq_some.1 hpop) trivial

end calls

/-! ## Every run -/

/-- what every call keeps, refused or not -/
structure Inv (capacity : ℤ) (r : Run) : Prop where
  capacity : (r.queue.capacity : ℤ) = capacity
  ids : r.pushed.map (·.captureId) = List.range' 1 r.pushed.length
  next : r.queue.nextId = r.pushed.length + 1
  /-- what has gone was taken, in order, or driven out -/
  gone : ∃ gone, r.queue.items.Follows r.pushed gone ∧ r.taken.Sublist gone

section runs
variable {sha256 : Bytes → String} {capacity : ℤ} {r r' : Run} {c : Call}

theorem inv_start {q : CaptureQueue} (hq : create capacity = .ok q) : Inv capacity (start q) := by
  unfold create at hq
  split_ifs at hq with hpos hmax
  cases hq
  exact ⟨Int.toNat_of_nonneg (by omega), rfl, rfl, [], Deque.follows_empty, List.Sublist.refl _⟩

theorem Inv.change (h : Inv capacity r) (hc : Change r c r') : Inv capacity r' := by
  obtain ⟨gone, hfollows, htaken⟩ := h.gone
  cases hc with
  | pushed id raw hash =>
    refine ⟨h.capacity, ?_, ?_, _, hfollows.append _, htaken.trans (List.sublist_append_left _ _)⟩
    · rw [List.map_append, h.ids, List.length_append, List.length_singleton, List.range'_1_concat, Nat.add_comm 1, ← h.next]
      rfl
    · rw [List.length_append, List.length_singleton, h.next]
  | refused => exact ⟨h.capacity, h.ids, h.next, gone, hfollows, htaken⟩
  | taken x items hx =>
    exact ⟨h.capacity, h.ids, h.next, _, hfollows.popleft hx, htaken.append (List.Sublist.refl [x])⟩
  | idle => exact h

theorem inv_reached {q : CaptureQueue} (hq : create capacity = .ok q) (cs : List Call) (n : ℕ) :
    Inv capacity (reached (step sha256) (start q) cs n) := by
  have hstep : ∀ r c, Inv capacity r → True → Inv capacity (step sha256 r c) :=
    fun r c h _ => h.change (step_change sha256 r c)
  exact holds_reached (inv_start hq) hstep (fun _ _ _ => trivial) n

/-- ids grow from the oldest item to the newest -/
theorem Inv.increasing (h : Inv capacity r) : r.pushed.Pairwise fun x y => x.captureId < y.captureId := by
  rw [← List.pairwise_map (R := (· < ·)), h.ids]
  exact List.pairwise_lt_range'

/-- pushes are what was taken, what is held and what was dropped -/
def Run.Balanced (r : Run) : Prop := r.pushed.length = r.taken.length + r.held.length + r.queue.droppedCount

theorem balanced_change (h : r.Balanced) (hc : Change r c r') : r'.Balanced ↔ Counts r.queue c := by
  unfold Run.Balanced Run.held at h ⊢
  cases hc with
  | pushed id raw hash counts =>
    have := r.queue.items.length_append ⟨r.queue.nextId, id, raw.length, hash⟩
    refine iff_of_true ?_ counts
    rw [List.length_append, List.length_singleton, h]
    dsimp only
    omega
  | refused counts =>
    rw [counts, counted]
    dsimp only
    omega
  | taken x items hx counts =>
    unfold Run.held at hx
    refine iff_of_true ?_ counts
    rw [hx, List.length_cons] at h
    rw [List.length_append, List.length_singleton, h]
    dsimp only
    omega
  | idle counts => exact iff_of_true h counts

theorem head_eq_some_iff {l : List CaptureItem} {x : CaptureItem}
    (h : l.Pairwise fun x y => x.captureId < y.captureId) :
    l.head? = some x ↔ x ∈ l ∧ ∀ y ∈ l, x.captureId ≤ y.captureId := by
  cases l with
  | nil => simp
  | cons z zs =>
    rw [List.pairwise_cons] at h
    rw [List.head?_cons, Option.some_inj]
    constructor
    · rintro rfl
      refine ⟨List.mem_cons_self, fun y hy => ?_⟩
      rcases List.mem_cons.1 hy with rfl | hy
      · exact le_refl _
      · exact (h.1 y hy).le
    · rintro ⟨hx, hmin⟩
      rcases List.mem_cons.1 hx with rfl | hx
      · rfl
      · exact absurd (hmin z List.mem_cons_self) (not_le.2 (h.1 x hx))

/-- all but the balance holds of every state -/
theorem accounted_iff (h : Inv capacity r) : Accounted capacity r ↔ r.Balanced := by
  refine ⟨fun ha => ha.pushes, fun hbalanced => ?_⟩
  obtain ⟨gone, hfollows, htaken⟩ := h.gone
  have hpushed : r.pushed = gone ++ r.held := hfollows
  have hincreasing := h.increasing
  rw [hpushed, List.pairwise_append] at hincreasing
  obtain ⟨-, hheld, hbefore⟩ := hincreasing
  have hnot : ∀ x ∈ r.held, x ∉ r.taken := fun x hx hgone =>
    absurd (hbefore x (htaken.subset hgone) x hx) (lt_irrefl _)
  refine ⟨h.ids, ?_, ?_, ?_, fun x => ?_, hbalanced⟩
  · rw [hpushed]
    exact List.suffix_append _ _
  · have hkeep : r.held.filter (· ∉ r.taken) = r.held := List.filter_eq_self.2 fun x hx => by simpa using hnot x hx
    rw [hpushed, List.filter_append, hkeep]
    exact List.suffix_append _ _
  · rw [← h.capacity]
    exact_mod_cast r.queue.items.length_le
  · rw [take_eq_head]
    exact head_eq_some_iff hheld

end runs

/-- **Accounting.** For a queue of any capacity and any sequence of calls: ids, order, capacity and takes are as they
should be and the pushes are what was taken, what is held and what was dropped, in every state, if and only if no push
whose thread id is refused meets a full queue. -/
theorem capture_accounting (sha256 : Bytes → String) {capacity : ℤ} {q : CaptureQueue}
    (hq : create capacity = .ok q) (cs : List Call) :
    (∀ n, Accounted capacity (reached (step sha256) (start q) cs n)) ↔
      ∀ n c, cs[n]? = some c → Counts (reached (step sha256) (start q) cs n).queue c := by
  have hinv : ∀ n, Inv capacity (reached (step sha256) (start q) cs n) := inv_reached hq cs
  have hstart : (start q).Balanced := by
    unfold create at hq
    split_ifs at hq
    cases hq
    rfl
  have hstep : ∀ r c, r.Balanced → ((step sha256 r c).Balanced ↔ Counts r.queue c) :=
    fun r c h => balanced_change h (step_change sha256 r c)
  have haccounted : ∀ n, Accounted capacity (reached (step sha256) (start q) cs n) ↔
      (reached (step sha256) (start q) cs n).Balanced := fun n => accounted_iff (hinv n)
  simp only [haccounted]
  exact holds_reached_iff hstart hstep

/-- the SHA-256 of "a", of "b" and of "c" -/
def shaOfLetter (raw : Bytes) : String :=
  if raw = [97] then "ca978112ca1bbdcafac231b39a23dc4da786eff8147c4e72b9807785afee48bb"
  else if raw = [98] then "3e23e8160039594a33894f6564e1b1348bbd7a0088d42c4acb73eeaed59c009d"
  else "2e7d2c03a9507ae265ecf5b5356885a53393a2029d241394997265a1a25aefc6"

/-- three pushes into a queue of two, then a take more than it holds -/
def pushAndTake : List Call :=
  [.push (.bytes [97]) (.int 11), .push (.bytes [98]) (.int 12), .push (.bytes [99]) (.int 13), .take, .take, .take]

theorem capture_accounting_two :
    Accounted 2 (reached (step shaOfLetter) (start ⟨2, .empty, 0, 1⟩) pushAndTake 6) := by
  have hq : create 2 = .ok ⟨2, .empty, 0, 1⟩ := rfl
  refine (capture_accounting shaOfLetter hq pushAndTake).2 (fun n c hc => ?_) 6
  have hmem := List.mem_of_getElem? hc
  simp only [pushAndTake, List.mem_cons, List.not_mem_nil, or_false] at hmem
  rcases hmem with rfl | rfl | rfl | rfl | rfl | rfl
  · exact fun _ _ => ⟨11, rfl⟩
  · exact fun _ _ => ⟨12, rfl⟩
  · exact fun _ _ => ⟨13, rfl⟩
  · trivial
  · trivial
  · trivial

/-- a push without a thread id, a push, and again one without a thread id -/
def refusedPushes : List Call :=
  [.push (.bytes [97]) .null, .push (.bytes [97]) (.int 0), .push (.bytes [98]) .null]

/-- After these the queue holds the one item that was pushed, nothing was taken, and a drop is counted. Nor does it add
up when every call of `push` is taken for a push. -/
theorem refused_push_is_a_drop :
    let r := reached (step shaOfLetter) (start ⟨1, .empty, 0, 1⟩) refusedPushes 3
    create 1 = .ok ⟨1, .empty, 0, 1⟩ ∧ ¬ Accounted 1 r ∧
      refusedPushes.length ≠ r.taken.length + r.held.length + r.queue.droppedCount := by
  refine ⟨rfl, fun h => ?_, by decide⟩
  exact absurd h.pushes (by decide)

end CaptureQueue

end KerMP
