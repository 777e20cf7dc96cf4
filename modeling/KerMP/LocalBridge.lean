/-
The thread of the local bridge (`LocalGameBridge._run`, `send` and `close` of `kermp/bridge.py`).

The thread accepts one game after the other and hands out an event for each of its lines. Other threads call `send`, which
empties the connection's slot when the write fails, and `close`. A step is one statement of the thread, with what the
operating system answers, or a step of another thread; they come in any order. The port is bound, and the callback does
not raise.

Only `OSError` and `ValueError` are caught. A line that is JSON and no object, or an object without a type, raises another
exception, and so does text that `json.loads` nests too deeply for (`deep`; where that is depends on the interpreter). The
thread also reads the slot again after it has seen that it is filled.

- `outlives_step`: which steps end the thread, or raise what will.
- `bridge_outlives`: the thread ends only after `close`, exactly when no such step is made; a line that raises what is
  caught closes its own connection at most, the slot is freed, and the next game is served.
- `no_object`: a line that ends the thread.
-/
import KerMP.Lib.Loads
import KerMP.Lib.Prefixes

namespace KerMP.LocalGameBridge

open Py Prefixes
open Base64 (Bytes)

/-! ## Lines -/

/-- what the statements of `_run` raise -/
inductive Raised where
  | osError
  | unicodeDecodeError
  /-- also the `ValueError` of an int with too many digits -/
  | jsonDecodeError
  | recursionError
  | typeError
  | keyError
  | assertionError
  | attributeError
deriving DecidableEq

/-- `except (OSError, ValueError, json.JSONDecodeError)` -/
def Raised.caught : Raised → Bool
  | .osError | .unicodeDecodeError | .jsonDecodeError => true
  | .recursionError | .typeError | .keyError | .assertionError | .attributeError => false

def key (s : String) : Text := Text.ofChars s.toList

/-- the type and the payload of the event of a line -/
def readEvent (deep : List Char → Bool) (line : Bytes) : Except Raised (Value × Value) :=
  match line.toByteArray.utf8Decode? with
  | none => .error .unicodeDecodeError
  | some text =>
    if deep text.toList then .error .recursionError
    else
      match Value.loads text.toList with
      | none => .error .jsonDecodeError
      | some (.obj raw) =>
        match raw.lookup (key "type") with
        | none => .error .keyError
        | some type => .ok (type, (raw.lookup (key "payload")).getD (.obj []))
      | some _ => .error .typeError

/-- the line is no UTF-8, or not too deep, and then no JSON or an object with a type -/
def Harmless (deep : List Char → Bool) (line : Bytes) : Prop :=
  ∀ text, line.toByteArray.utf8Decode? = some text → deep text.toList = false ∧
    ∀ v, Value.loads text.toList = some v → ∃ raw type, v = .obj raw ∧ raw.lookup (key "type") = some type

variable {deep : List Char → Bool}

theorem harmless_iff_caught {line : Bytes} : Harmless deep line ↔ ∀ r, readEvent deep line = .error r → r.caught = true := by
  unfold Harmless readEvent
  cases line.toByteArray.utf8Decode? with
  | none => simp [Raised.caught]
  | some text =>
    cases hdeep : deep text.toList with
    | true => simp [hdeep, Raised.caught]
    | false =>
      cases hloads : Value.loads text.toList with
      | none => simp [hdeep, hloads, Raised.caught]
      | some v =>
        cases v with
        | obj raw => cases htype : raw.lookup (key "type") <;> simp [hdeep, hloads, htype, Raised.caught]
        | _ => simp [hdeep, hloads, Raised.caught]

/-! ## The thread -/

/-- the statement the thread is about to execute; `raised` is the exception that the `finally` clause interrupts -/
inductive Point where
  /-- `while not self._stop.is_set()` and `if not self._conn` -/
  | head
  /-- `srv.accept()` -/
  | accepting
  /-- `assert self._conn is not None` -/
  | opening
  /-- `self._conn.makefile("rb")` -/
  | filing
  /-- `buf.readline()` on this connection -/
  | reading (conn : ℕ)
  /-- `if self._conn` in the `finally` clause -/
  | checking (raised : Option Raised)
  /-- `self._conn.close()` -/
  | closing (raised : Option Raised)
  /-- `self._conn = None` -/
  | freeing (raised : Option Raised)
  | ended (raised : Option Raised)
deriving DecidableEq

structure Bridge where
  point : Point
  /-- `_conn` -/
  conn : Option ℕ
  /-- `_stop` -/
  stop : Bool
  /-- the sends under way, with the connection that each has read from the slot -/
  sending : List ℕ
  /-- the connections that the thread has closed -/
  closed : List ℕ
  /-- the events handed out, with the connection that each has come on -/
  events : List (ℕ × Value × Value)

def start : Bridge := ⟨.head, none, false, [], [], []⟩

/-- what `accept` answers -/
inductive Accepted where
  | connection (conn : ℕ)
  | timeout
  | osError

inductive Act where
  | accepted (r : Accepted)
  | line (line : Bytes)
  | eof
  | readFails
  /-- the thread's next statement, where the operating system has no part in it -/
  | go
  /-- another thread calls `send` -/
  | send
  | sent (i : ℕ)
  /-- `sendall` raises -/
  | sendFails (i : ℕ)
  /-- another thread calls `close` -/
  | close

namespace Bridge

/-- `while not self._stop.is_set()` around `readline` -/
def readOn (b : Bridge) (conn : ℕ) : Bridge := { b with point := if b.stop then .checking none else .reading conn }

def go (b : Bridge) : Bridge :=
  match b.point with
  | .head => { b with point := if b.stop then .ended none else if b.conn.isNone then .accepting else .opening }
  | .opening => { b with point := if b.conn.isNone then .checking (some .assertionError) else .filing }
  | .filing =>
    match b.conn with
    | none => { b with point := .checking (some .attributeError) }
    | some conn => b.readOn conn
  | .checking raised => { b with point := if b.conn.isNone then .freeing raised else .closing raised }
  | .closing raised =>
    match b.conn with
    | none => { b with point := .ended (some .attributeError) }
    | some conn => { b with closed := conn :: b.closed, point := .freeing raised }
  | .freeing none => { b with conn := none, point := .head }
  | .freeing (some r) => { b with conn := none, point := if r.caught then .head else .ended (some r) }
  | .accepting | .reading _ | .ended _ => b

def accept (b : Bridge) : Accepted → Bridge
  | .connection conn => { b with conn := some conn, point := .opening }
  | .timeout => { b with point := .head }
  | .osError => { b with point := if b.stop then .ended none else .head }

def take (deep : List Char → Bool) (b : Bridge) (conn : ℕ) (line : Bytes) : Bridge :=
  match readEvent deep line with
  | .ok event => { b with events := (conn, event) :: b.events }.readOn conn
  | .error r => { b with point := .checking (some r) }

def step (deep : List Char → Bool) (b : Bridge) : Act → Bridge
  | .accepted r => if b.point = .accepting then b.accept r else b
  | .line line =>
    match b.point with
    | .reading conn => b.take deep conn line
    | _ => b
  | .eof =>
    match b.point with
    | .reading _ => { b with point := .checking none }
    | _ => b
  | .readFails =>
    match b.point with
    | .reading _ => { b with point := .checking (some .osError) }
    | _ => b
  | .go => b.go
  | .send =>
    match b.conn with
    | none => b
    | some conn => { b with sending := b.sending ++ [conn] }
  | .sent i => { b with sending := b.sending.eraseIdx i }
  | .sendFails i => if i < b.sending.length then { b with conn := none, sending := b.sending.eraseIdx i } else b
  | .close => { b with stop := true }

/-! ## The end of the thread -/

end Bridge

/-- the exception ends the thread -/
def escapes : Option Raised → Bool
  | some r => !r.caught
  | none => false

/-- the thread has ended, or an exception is on its way that ends it -/
def Point.over : Point → Bool
  | .ended _ => true
  | .checking raised | .closing raised | .freeing raised => escapes raised
  | .head | .accepting | .opening | .filing | .reading _ => false

namespace Bridge

/-- the thread ends only after `close` -/
def Outlives (b : Bridge) : Prop := b.point.over = true → b.stop = true

/-- the step ends the thread, or raises what will: a harmful line is read, or the thread goes on with a slot that it has
seen filled and that is empty -/
def Kills (deep : List Char → Bool) (b : Bridge) : Act → Prop
  | .line line => b.stop = false ∧ (∃ conn, b.point = .reading conn) ∧ ¬ Harmless deep line
  | .go => b.stop = false ∧ b.conn = none ∧ (b.point = .opening ∨ b.point = .filing ∨ ∃ raised, b.point = .closing raised)
  | _ => False

variable {b : Bridge}

theorem stop_accept (b : Bridge) (r : Accepted) : (b.accept r).stop = b.stop := by
  cases r <;> rfl

theorem stop_go (b : Bridge) : b.go.stop = b.stop := by
  simp only [go]
  split
  case h_3 | h_5 => split <;> rfl
  all_goals rfl

theorem stop_take (conn : ℕ) (line : Bytes) : (b.take deep conn line).stop = b.stop := by
  simp only [take]
  split <;> rfl

theorem stop_step (act : Act) : (b.step deep act).stop = true ↔ b.stop = true ∨ act = .close := by
  cases act with
  | accepted r =>
    simp only [step]
    split_ifs <;> simp [stop_accept]
  | line line =>
    simp only [step]
    split <;> simp [stop_take]
  | eof | readFails | send =>
    simp only [step]
    split <;> simp
  | go => simp [step, stop_go]
  | sent i => simp [step]
  | sendFails i =>
    simp only [step]
    split_ifs <;> simp
  | close => simp [step]

theorem over_readOn (b : Bridge) (conn : ℕ) : (b.readOn conn).point.over = false := by
  simp only [readOn]
  split_ifs <;> rfl

theorem over_accept (hstop : b.stop = false) (r : Accepted) : (b.accept r).point.over = false := by
  cases r with
  | connection conn | timeout => rfl
  | osError => simp [accept, hstop, Point.over]

theorem over_go (hstop : b.stop = false) (h : b.point.over = false) :
    b.go.point.over = true ↔
      b.conn = none ∧ (b.point = .opening ∨ b.point = .filing ∨ ∃ raised, b.point = .closing raised) := by
  cases hpoint : b.point with
  | head => cases hconn : b.conn <;> simp [go, hpoint, hconn, hstop, Point.over]
  | accepting | reading conn => simp [go, hpoint, Point.over]
  | opening => cases hconn : b.conn <;> simp [go, hpoint, hconn, Point.over, escapes, Raised.caught]
  | filing =>
    cases hconn : b.conn with
    | none => simp [go, hpoint, hconn, Point.over, escapes, Raised.caught]
    | some conn => simp [go, hpoint, hconn, over_readOn]
  | checking raised =>
    rw [hpoint] at h
    cases hconn : b.conn <;> simpa [go, hpoint, hconn, Point.over] using h
  | closing raised =>
    rw [hpoint] at h
    cases hconn : b.conn with
    | none => simp [go, hpoint, hconn, Point.over]
    | some conn => simpa [go, hpoint, hconn, Point.over] using h
  | freeing raised =>
    rw [hpoint] at h
    cases raised with
    | none => simp [go, hpoint, Point.over]
    | some r =>
      have hcaught : r.caught = true := by simpa [Point.over, escapes] using h
      simp [go, hpoint, hcaught, Point.over]
  | ended raised =>
    rw [hpoint] at h
    cases h

theorem over_take (conn : ℕ) (line : Bytes) : (b.take deep conn line).point.over = true ↔ ¬ Harmless deep line := by
  rw [harmless_iff_caught, take]
  cases readEvent deep line with
  | ok event => simp [over_readOn]
  | error r => simp [Point.over, escapes]

theorem outlives_iff (hstop : b.stop = false) : b.Outlives ↔ ¬ b.point.over = true := by
  simp [Outlives, hstop]

/-- **One step.** The thread goes on, unless the step kills it. -/
theorem outlives_step (h : b.Outlives) (act : Act) : (b.step deep act).Outlives ↔ ¬ b.Kills deep act := by
  cases hstop : b.stop with
  | true =>
    refine iff_of_true (fun _ => (stop_step act).2 (Or.inl hstop)) ?_
    cases act <;> simp [Kills, hstop]
  | false =>
    have hover : b.point.over = false := by simpa using (outlives_iff hstop).1 h
    -- where no exception is on its way, nothing is to be shown
    have hgoes : ∀ {b' : Bridge}, b'.point.over = false → b'.Outlives := fun h0 h1 => by
      rw [h0] at h1
      cases h1
    cases act with
    | accepted r =>
      refine iff_of_true (hgoes ?_) id
      simp only [step]
      split_ifs
      · exact over_accept hstop r
      · exact hover
    | line line =>
      simp only [step, Kills, hstop, true_and]
      split
      · rename_i conn hpoint
        rw [outlives_iff ((stop_take conn line).trans hstop), over_take]
        simp [hpoint]
      · rename_i hpoint
        refine iff_of_true h ?_
        rintro ⟨⟨conn, hreading⟩, -⟩
        exact hpoint conn hreading
    | eof | readFails =>
      refine iff_of_true (hgoes ?_) id
      simp only [step]
      split
      · rfl
      · exact hover
    | go =>
      simp only [step, Kills, hstop, true_and]
      rw [outlives_iff ((stop_go b).trans hstop), over_go hstop hover]
    | send =>
      refine iff_of_true (hgoes ?_) id
      simp only [step]
      split <;> exact hover
    | sent i => exact iff_of_true (hgoes hover) id
    | sendFails i =>
      refine iff_of_true (hgoes ?_) id
      simp only [step]
      split_ifs <;> exact hover
    | close => exact iff_of_true (fun _ => rfl) id

/-! ## The next game -/

/-- before `accept` the slot is free, and in the reading loop it has no other connection -/
def Inv (b : Bridge) : Prop :=
  match b.point with
  | .head | .accepting => b.conn = none
  | .reading conn => b.conn = none ∨ b.conn = some conn
  | _ => True

theorem inv_readOn {conn : ℕ} (h : b.conn = none ∨ b.conn = some conn) : (b.readOn conn).Inv := by
  unfold Inv readOn
  cases b.stop with
  | true => trivial
  | false => exact h

theorem inv_go (h : b.Inv) : b.go.Inv := by
  unfold go
  split
  · rename_i hpoint
    have hconn : b.conn = none := by simpa [Inv, hpoint] using h
    cases hstop : b.stop <;> simp [Inv, hconn]
  · cases hconn : b.conn <;> simp [Inv]
  · split
    · trivial
    · rename_i conn hconn
      exact inv_readOn (Or.inr hconn)
  · cases hconn : b.conn <;> simp [Inv]
  · split <;> trivial
  · rfl
  · rename_i r _
    cases hcaught : r.caught <;> simp [Inv]
  · exact h
  · exact h
  · exact h

theorem inv_step (h : b.Inv) (act : Act) : (b.step deep act).Inv := by
  cases act with
  | accepted r =>
    simp only [step]
    split_ifs with hpoint
    · have hconn : b.conn = none := by simpa [Inv, hpoint] using h
      cases r with
      | connection conn => trivial
      | timeout => exact hconn
      | osError => cases hstop : b.stop <;> simp [Inv, accept, hstop, hconn]
    · exact h
  | line line =>
    simp only [step]
    split
    · rename_i conn hpoint
      have hconn : b.conn = none ∨ b.conn = some conn := by simpa [Inv, hpoint] using h
      unfold take
      split
      · exact inv_readOn hconn
      · trivial
    · exact h
  | eof | readFails =>
    simp only [step]
    split
    · trivial
    · exact h
  | go => exact inv_go h
  | send =>
    simp only [step]
    split
    · exact h
    · exact h
  | sent i => exact h
  | sendFails i =>
    simp only [step]
    split_ifs
    · unfold Inv
      dsimp only
      split <;> simp
    · exact h
  | close => exact h

/-- no step kills the thread, and nobody calls `close` -/
def Calm (deep : List Char → Bool) (b : Bridge) (act : Act) : Prop := ¬ b.Kills deep act ∧ act ≠ .close

end Bridge

/-- the thread's own statements, where it waits for nothing -/
def Act.own : Act → Bool
  | .go => true
  | _ => false

/-- how many statements there are to `accept`, from the `finally` clause -/
def Point.toAccept : Point → ℕ
  | .checking _ => 4
  | .closing _ => 3
  | .freeing _ => 2
  | .head => 1
  | _ => 0

/-- how many statements there are to `readline`, from `accept` -/
def Point.toRead : Point → ℕ
  | .opening => 2
  | .filing => 1
  | _ => 0

namespace Bridge

variable {b : Bridge}

/-- a way that the thread's own statements shorten and the others leave alone comes to its end -/
theorem nears {I : Bridge → Prop} {d : Point → ℕ}
    (hgo : ∀ b, I b → 0 < d b.point → b.Calm deep .go → I b.go ∧ d b.go.point < d b.point)
    (hother : ∀ b act, I b → 0 < d b.point → b.Calm deep act → act ≠ .go →
      I (b.step deep act) ∧ (b.step deep act).point = b.point)
    {acts : List Act} (hstart : I b) (hcalm : ∀ n act, acts[n]? = some act → (reached (step deep) b acts n).Calm deep act)
    (hown : d b.point ≤ acts.countP Act.own) :
    ∃ n, I (reached (step deep) b acts n) ∧ d (reached (step deep) b acts n).point = 0 := by
  refine comes_to_zero (d := fun b => d b.point) (fun b' act hway hpos hact => ?_) hstart hcalm hown
  by_cases hact' : act = .go
  · subst hact'
    obtain ⟨hnext, hlt⟩ := hgo b' hway hpos hact
    exact ⟨hnext, hlt.le, fun _ => hlt⟩
  · obtain ⟨hnext, hpoint⟩ := hother b' act hway hpos hact hact'
    refine ⟨hnext, by rw [hpoint], fun hown => ?_⟩
    cases act with
    | go => exact absurd rfl hact'
    | _ => cases hown

/-- on the way back to `accept`, with no connection closed but `conn` -/
structure Returning (conn : ℕ) (closed : List ℕ) (b : Bridge) : Prop where
  running : b.stop = false
  way : match b.point with
    | .checking raised | .closing raised =>
      escapes raised = false ∧ (b.conn = none ∨ b.conn = some conn) ∧ b.closed = closed
    | .freeing raised => escapes raised = false ∧ (b.closed = closed ∨ b.closed = conn :: closed)
    | .head | .accepting => b.conn = none ∧ (b.closed = closed ∨ b.closed = conn :: closed)
    | _ => False

theorem returning_go {conn : ℕ} {closed : List ℕ} (h : b.Returning conn closed) (hpos : 0 < b.point.toAccept)
    (hcalm : b.Calm deep .go) : b.go.Returning conn closed ∧ b.go.point.toAccept < b.point.toAccept := by
  obtain ⟨hstop, hway⟩ := h
  cases hpoint : b.point with
  | head =>
    rw [hpoint] at hway
    have hgo : b.go = { b with point := .accepting } := by simp [go, hpoint, hstop, hway.1]
    rw [hgo]
    exact ⟨⟨hstop, hway⟩, by simp [Point.toAccept]⟩
  | checking raised =>
    rw [hpoint] at hway
    obtain ⟨hraised, hconn, hclosed⟩ := hway
    cases hslot : b.conn with
    | none =>
      have hgo : b.go = { b with point := .freeing raised } := by simp [go, hpoint, hslot]
      rw [hgo]
      exact ⟨⟨hstop, hraised, Or.inl hclosed⟩, by simp [Point.toAccept]⟩
    | some k =>
      have hgo : b.go = { b with point := .closing raised } := by simp [go, hpoint, hslot]
      rw [hgo]
      exact ⟨⟨hstop, hraised, hconn, hclosed⟩, by simp [Point.toAccept]⟩
  | closing raised =>
    rw [hpoint] at hway
    obtain ⟨hraised, hconn, hclosed⟩ := hway
    cases hslot : b.conn with
    | none => exact absurd ⟨hstop, hslot, Or.inr (Or.inr ⟨raised, hpoint⟩)⟩ hcalm.1
    | some k =>
      have hk : k = conn := by simpa [hslot] using hconn
      have hgo : b.go = { b with closed := k :: b.closed, point := .freeing raised } := by simp [go, hpoint, hslot]
      rw [hgo]
      exact ⟨⟨hstop, hraised, Or.inr (by rw [hk, hclosed])⟩, by simp [Point.toAccept]⟩
  | freeing raised =>
    rw [hpoint] at hway
    have hgo : b.go = { b with conn := none, point := .head } := by
      cases raised with
      | none => simp [go, hpoint]
      | some r =>
        have hcaught : r.caught = true := by simpa [escapes] using hway.1
        simp [go, hpoint, hcaught]
    rw [hgo]
    exact ⟨⟨hstop, rfl, hway.2⟩, by simp [Point.toAccept]⟩
  | _ =>
    rw [hpoint] at hpos
    cases hpos

/-- the others can only empty the slot -/
theorem returning_other {conn : ℕ} {closed : List ℕ} (act : Act) (h : b.Returning conn closed)
    (hpos : 0 < b.point.toAccept) (hcalm : b.Calm deep act) (hother : act ≠ .go) :
    (b.step deep act).Returning conn closed ∧ (b.step deep act).point = b.point := by
  have hsame : b.Returning conn closed ∧ b.point = b.point := ⟨h, rfl⟩
  cases act with
  | accepted r =>
    have hnot : b.point ≠ .accepting := fun hpoint => by rw [hpoint] at hpos; cases hpos
    have hstep : b.step deep (.accepted r) = b := if_neg hnot
    rw [hstep]
    exact hsame
  | line | eof | readFails =>
    simp only [step]
    split
    · rename_i hpoint
      rw [hpoint] at hpos
      cases hpos
    · exact hsame
  | go => exact absurd rfl hother
  | send =>
    simp only [step]
    split
    · exact hsame
    · exact ⟨⟨h.running, h.way⟩, rfl⟩
  | sent i => exact ⟨⟨h.running, h.way⟩, rfl⟩
  | sendFails i =>
    simp only [step]
    split_ifs
    · refine ⟨⟨h.running, ?_⟩, rfl⟩
      have hway := h.way
      dsimp only
      cases hpoint : b.point <;> rw [hpoint] at hway <;> simp_all
    · exact hsame
  | close => exact absurd rfl hcalm.2

/-- the step after which the thread is on its way back to `accept` brings it there, with a free slot, once it has
executed four statements; it closes no connection but `conn` -/
def Frees (deep : List Char → Bool) (b : Bridge) (conn : ℕ) : Prop :=
  ∀ acts, (∀ n act, acts[n]? = some act → (reached (step deep) b acts n).Calm deep act) → 4 ≤ acts.countP Act.own →
    ∃ n, let b' := reached (step deep) b acts n
      b'.point = .accepting ∧ b'.conn = none ∧ (b'.closed = b.closed ∨ b'.closed = conn :: b.closed)

theorem frees {conn : ℕ} (h : b.Returning conn b.closed) : b.Frees deep conn := by
  intro acts hcalm hown
  have hfar : b.point.toAccept ≤ acts.countP Act.own := by
    refine le_trans ?_ hown
    cases b.point <;> simp [Point.toAccept]
  obtain ⟨n, ⟨-, hway⟩, hzero⟩ := nears (fun _ => returning_go) (fun _ => returning_other) h hcalm hfar
  refine ⟨n, ?_⟩
  cases hpoint : (reached (step deep) b acts n).point with
  | accepting =>
    rw [hpoint] at hway
    exact ⟨hpoint, hway⟩
  | checking | closing | freeing | head =>
    rw [hpoint] at hzero
    cases hzero
  | _ =>
    rw [hpoint] at hway
    exact hway.elim

/-- on the way to read from the connection -/
structure Opening (conn : ℕ) (b : Bridge) : Prop where
  running : b.stop = false
  slot : b.conn = none ∨ b.conn = some conn
  way : b.point = .opening ∨ b.point = .filing ∨ b.point = .reading conn

theorem opening_go {conn : ℕ} (h : b.Opening conn) (hpos : 0 < b.point.toRead) (hcalm : b.Calm deep .go) :
    b.go.Opening conn ∧ b.go.point.toRead < b.point.toRead := by
  obtain ⟨hstop, hslot, hway⟩ := h
  have hfilled : b.point = .opening ∨ b.point = .filing → b.conn = some conn := by
    intro hpoint
    refine hslot.resolve_left fun hnone => hcalm.1 ⟨hstop, hnone, ?_⟩
    rcases hpoint with hpoint | hpoint
    · exact Or.inl hpoint
    · exact Or.inr (Or.inl hpoint)
  rcases hway with hpoint | hpoint | hpoint
  · have hconn := hfilled (Or.inl hpoint)
    have hgo : b.go = { b with point := .filing } := by simp [go, hpoint, hconn]
    rw [hgo, hpoint]
    exact ⟨⟨hstop, hslot, Or.inr (Or.inl rfl)⟩, by simp [Point.toRead]⟩
  · have hconn := hfilled (Or.inr hpoint)
    have hgo : b.go = { b with point := .reading conn } := by simp [go, hpoint, hconn, readOn, hstop]
    rw [hgo, hpoint]
    exact ⟨⟨hstop, hslot, Or.inr (Or.inr rfl)⟩, by simp [Point.toRead]⟩
  · rw [hpoint] at hpos
    cases hpos

theorem opening_other {conn : ℕ} (act : Act) (h : b.Opening conn) (hpos : 0 < b.point.toRead)
    (hcalm : b.Calm deep act) (hother : act ≠ .go) :
    (b.step deep act).Opening conn ∧ (b.step deep act).point = b.point := by
  have hsame : b.Opening conn ∧ b.point = b.point := ⟨h, rfl⟩
  cases act with
  | accepted r =>
    have hnot : b.point ≠ .accepting := fun hpoint => by
      rcases h.way with hway | hway | hway <;> rw [hpoint] at hway <;> cases hway
    have hstep : b.step deep (.accepted r) = b := if_neg hnot
    rw [hstep]
    exact hsame
  | line | eof | readFails =>
    simp only [step]
    split
    · rename_i hpoint
      rw [hpoint] at hpos
      cases hpos
    · exact hsame
  | go => exact absurd rfl hother
  | send =>
    simp only [step]
    split
    · exact hsame
    · exact ⟨⟨h.running, h.slot, h.way⟩, rfl⟩
  | sent i => exact ⟨⟨h.running, h.slot, h.way⟩, rfl⟩
  | sendFails i =>
    simp only [step]
    split_ifs
    · exact ⟨⟨h.running, Or.inl rfl, h.way⟩, rfl⟩
    · exact hsame
  | close => exact absurd rfl hcalm.2

/-- whichever game connects next, the thread reads its lines once it has executed two statements, and hands out their
events -/
def Serves (deep : List Char → Bool) (b : Bridge) : Prop :=
  ∀ conn acts, let b₁ := b.step deep (.accepted (.connection conn))
    (∀ n act, acts[n]? = some act → (reached (step deep) b₁ acts n).Calm deep act) → 2 ≤ acts.countP Act.own →
      ∃ n, let b' := reached (step deep) b₁ acts n
        b'.point = .reading conn ∧ ∀ line event, readEvent deep line = .ok event →
          (b'.step deep (.line line)).events = (conn, event) :: b'.events

theorem events_line {conn : ℕ} {line : Bytes} {event : Value × Value} (hpoint : b.point = .reading conn)
    (hline : readEvent deep line = .ok event) : (b.step deep (.line line)).events = (conn, event) :: b.events := by
  simp only [step, hpoint, take, hline]
  rfl

theorem serves (hstop : b.stop = false) (hpoint : b.point = .accepting) : b.Serves deep := by
  intro conn acts b₁ hcalm hown
  have hb₁ : b₁ = { b with conn := some conn, point := .opening } := if_pos hpoint
  have hstart : b₁.Opening conn := by
    rw [hb₁]
    exact ⟨hstop, Or.inr rfl, Or.inl rfl⟩
  have hfar : b₁.point.toRead ≤ acts.countP Act.own := by
    rw [hb₁]
    exact hown
  obtain ⟨n, ⟨-, -, hway⟩, hzero⟩ :=
    nears (fun _ => opening_go) (fun _ => opening_other) hstart hcalm hfar
  refine ⟨n, ?_⟩
  rcases hway with hway | hway | hway
  · rw [hway] at hzero
    cases hzero
  · rw [hway] at hzero
    cases hzero
  · exact ⟨hway, fun line event hline => events_line hway hline⟩

theorem returning_line {conn : ℕ} {line : Bytes} {r : Raised} (h : b.Inv) (hstop : b.stop = false)
    (hpoint : b.point = .reading conn) (hline : readEvent deep line = .error r) (hcaught : r.caught = true) :
    (b.step deep (.line line)).Returning conn (b.step deep (.line line)).closed := by
  have hstep : b.step deep (.line line) = { b with point := .checking (some r) } := by
    simp only [step, hpoint, take, hline]
  have hconn : b.conn = none ∨ b.conn = some conn := by simpa [Inv, hpoint] using h
  rw [hstep]
  exact ⟨hstop, by simp [escapes, hcaught], hconn, rfl⟩

end Bridge

open Bridge

/-- **The bridge outlives bad input.** Whatever games connect, whatever lines they send and however other threads call
`send` and `close` in between: the thread ends, or raises what ends it, only after `close`, if and only if no step before
that kills it. A line whose exception is caught closes its own connection at most, the slot is freed, and the next game
that is accepted is served. -/
theorem bridge_outlives (deep : List Char → Bool) (acts : List Act) :
    ((∀ n, (reached (step deep) start acts n).Outlives) ↔
      ∀ n act, acts[n]? = some act → ¬ (reached (step deep) start acts n).Kills deep act) ∧
    ∀ n, let b := reached (step deep) start acts n
      b.stop = false →
        (∀ conn line r, b.point = .reading conn → readEvent deep line = .error r → r.caught = true →
          (b.step deep (.line line)).Frees deep conn) ∧
        (b.point = .accepting → b.Serves deep) := by
  have hstart : start.Outlives := fun h => by cases h
  have hinv : ∀ n, (reached (step deep) start acts n).Inv :=
    @holds_reached _ _ (step deep) start acts Inv (fun _ _ => True) rfl (fun _ act h _ => inv_step h act)
      fun _ _ _ => trivial
  refine ⟨holds_reached_iff hstart fun _ act h => outlives_step h act, fun n hstop => ⟨?_, serves hstop⟩⟩
  intro conn line r hpoint hline hcaught
  exact frees (returning_line (hinv n) hstop hpoint hline hcaught)

/-- the reader of an interpreter that nests this line -/
def shallow : List Char → Bool := fun _ => false

/-- an empty array -/
def brackets : Bytes := ['[', ']'].flatMap String.utf8EncodeChar

/-- a game connects and sends it -/
def emptyArray : List Act := [.go, .accepted (.connection 1), .go, .go, .line brackets, .go, .go, .go]

/-- The thread has ended with a `TypeError`, and nobody has called `close`. -/
theorem no_object : ¬ ∀ n, (reached (step shallow) start emptyArray n).Outlives := by
  have hread : readEvent shallow brackets = .error .typeError := by
    have hdecode : brackets.toByteArray.utf8Decode? = some ['[', ']'].toArray := List.utf8Decode?_utf8Encode
    have hloads : Value.loads ['[', ']'] = some (.arr []) := by rfl
    simp only [readEvent, hdecode, shallow, hloads]
    rfl
  have hended : (reached (step shallow) start emptyArray 8).point = .ended (some .typeError) ∧
      (reached (step shallow) start emptyArray 8).stop = false := by
    simp [reached, emptyArray, step, start, go, accept, take, readOn, hread, Raised.caught]
  intro h
  have hstop := h 8 (by rw [hended.1]; rfl)
  rw [hended.2] at hstop
  cases hstop

end KerMP.LocalGameBridge
