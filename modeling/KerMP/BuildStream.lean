/-
The stream of build operations over whole sequences of calls (`BuildAuthority.submit`, `history_since`).

Each accepted operation takes the next number and is appended to the history, which is then cut from the front to its
last `_history_limit` entries. What a client has missed is read back by number.

- `streamed_call`: the counter is the number of operations accepted so far, and the history is their tail.
- `stream_and_history`: after every sequence of calls the accepted operations are numbered 1, 2, 3, ..., and
  `history_since` answers exactly with those above the given number, as long as it is not too far back.
-/
import KerMP.BuildLease

namespace KerMP

open Py

namespace BuildAuthority

/-! ## Calls -/

/-- `seq` is any int -/
def historySince (b : BuildAuthority) (seq : ℤ) : List BuildOperation := b.history.filter fun o => seq < o.seq

/-- a call, with the readings of the clock it takes -/
inductive StreamCall where
  | requestLock (playerId : String) (t₁ t₂ wall : ℕ)
  | releaseLock (playerId : String)
  | submit (playerId op : String) (data : List (String × Json)) (t₁ t₂ : ℕ)

/-- the operation the call gets accepted, and what it leaves -/
def streamCall (b : BuildAuthority) : StreamCall → Option BuildOperation × BuildAuthority
  | .requestLock playerId t₁ t₂ wall => (none, (b.requestLock playerId t₁ t₂ wall).2)
  | .releaseLock playerId => (none, (b.releaseLock playerId).2)
  | .submit playerId op data t₁ t₂ =>
    ((b.submit playerId op data t₁ t₂).1.toOption, (b.submit playerId op data t₁ t₂).2)

/-- the operations accepted so far, oldest first, and the authority -/
def streamStep (x : List BuildOperation × BuildAuthority) (c : StreamCall) : List BuildOperation × BuildAuthority :=
  (x.1 ++ (x.2.streamCall c).1.toList, (x.2.streamCall c).2)

def streamRun (b : BuildAuthority) (cs : List StreamCall) : List BuildOperation × BuildAuthority :=
  cs.foldl streamStep ([], b)

/-! ## The counter and the history -/

/-- the operations are numbered from 1 on, the counter is the last number, and the history is their tail -/
structure Streamed (limit : ℕ) (ops : List BuildOperation) (b : BuildAuthority) : Prop where
  kept : b.historyLimit = limit
  numbers : ops.map (·.seq) = List.range' 1 ops.length
  counter : b.seq = ops.length
  history : b.history = ops.drop (ops.length - limit)

variable {limit : ℕ} {ops : List BuildOperation} {b b' : BuildAuthority}

/-- a call that leaves counter and history alone -/
theorem Streamed.quiet (h : Streamed limit ops b) (hlimit : b'.historyLimit = b.historyLimit) (hseq : b'.seq = b.seq)
    (hhistory : b'.history = b.history) : Streamed limit ops b' :=
  ⟨hlimit.trans h.kept, h.numbers, hseq.trans h.counter, hhistory.trans h.history⟩

theorem dropExpired_stream (b : BuildAuthority) (t : ℕ) :
    (b.dropExpired t).historyLimit = b.historyLimit ∧ (b.dropExpired t).history = b.history := by
  rcases dropExpired_cases b t with h | ⟨l, -, -, h⟩ <;> rw [h]
  · exact ⟨rfl, rfl⟩
  · exact ⟨rfl, rfl⟩

theorem Streamed.requestLock (h : Streamed limit ops b) (p : String) (t₁ t₂ wall : ℕ) :
    Streamed limit ops (b.requestLock p t₁ t₂ wall).2 := by
  obtain ⟨hl, hh⟩ := dropExpired_stream b t₁
  unfold BuildAuthority.requestLock
  dsimp only
  split_ifs
  · exact h.quiet hl (dropExpired_seq b t₁) hh
  · exact h.quiet hl (dropExpired_seq b t₁) hh

theorem Streamed.releaseLock (h : Streamed limit ops b) (p : String) : Streamed limit ops (b.releaseLock p).2 := by
  unfold BuildAuthority.releaseLock
  split_ifs
  · exact h.quiet rfl rfl rfl
  · exact h

/-- the tail of a longer list is cut from the tail of the list -/
theorem trim_append (hlimit : 0 < limit) (ops : List BuildOperation) (o : BuildOperation) :
    trim limit (ops.drop (ops.length - limit) ++ [o]) = (ops ++ [o]).drop ((ops ++ [o]).length - limit) := by
  have happend : ops.drop (ops.length - limit) ++ [o] = (ops ++ [o]).drop (ops.length - limit) := by
    rw [List.drop_append_of_le_length (Nat.sub_le _ _)]
  rw [trim, if_neg (by omega), happend, List.drop_drop]
  congr 1
  simp only [List.length_drop, List.length_append, List.length_cons, List.length_nil]
  omega

/-- an accepted operation has the next number, and is the last of the history -/
theorem Streamed.accepted (h : Streamed limit ops b) (hlimit : 0 < limit) {p op : String} {data : List (String × Json)}
    {t₁ t₂ : ℕ} {o : BuildOperation} (hs : b.submit p op data t₁ t₂ = (.ok o, b')) :
    Streamed limit (ops ++ [o]) b' := by
  obtain ⟨hauth, ⟨d, -, ho⟩, hseq, -⟩ := submit_ok hs
  have hsame : b'.historyLimit = b.historyLimit ∧ b'.history = trim b.historyLimit (b.history ++ [o]) := by
    obtain ⟨l, hl, hp, -⟩ := id hauth
    unfold BuildAuthority.submit at hs
    dsimp only at hs
    rw [dropExpired_of_live hauth] at hs
    split at hs
    · cases hs
    · split_ifs at hs
      · cases hs
      · split at hs
        · cases hs
        · cases hs
          exact ⟨rfl, rfl⟩
  refine ⟨hsame.1.trans h.kept, ?_, ?_, ?_⟩
  · rw [List.map_append, h.numbers, List.length_append, List.range'_append_1.symm, ho, h.counter]
    simp [Nat.add_comm]
  · simp [hseq, h.counter]
  · rw [hsame.2, h.kept, h.history, trim_append hlimit]

theorem Streamed.submit (h : Streamed limit ops b) (hlimit : 0 < limit) (p op : String) (data : List (String × Json))
    (t₁ t₂ : ℕ) : Streamed limit (ops ++ (b.submit p op data t₁ t₂).1.toOption.toList) (b.submit p op data t₁ t₂).2 := by
  rcases hs : b.submit p op data t₁ t₂ with ⟨e | o, b'⟩
  · have hrefused : Streamed limit ops b' := by
      obtain ⟨hl, hh⟩ := dropExpired_stream b t₁
      rw [submit_error hs]
      exact h.quiet hl (dropExpired_seq b t₁) hh
    simpa [Except.toOption] using hrefused
  · exact h.accepted hlimit hs

/-- **One call.** -/
theorem streamed_call (h : Streamed limit ops b) (hlimit : 0 < limit) (c : StreamCall) :
    Streamed limit (ops ++ (b.streamCall c).1.toList) (b.streamCall c).2 := by
  cases c with
  | requestLock p t₁ t₂ wall => simpa [streamCall] using h.requestLock p t₁ t₂ wall
  | releaseLock p => simpa [streamCall] using h.releaseLock p
  | submit p op data t₁ t₂ => exact h.submit hlimit p op data t₁ t₂

theorem streamed_calls (h : Streamed limit ops b) (hlimit : 0 < limit) (cs : List StreamCall) :
    Streamed limit (cs.foldl streamStep (ops, b)).1 (cs.foldl streamStep (ops, b)).2 := by
  induction cs generalizing ops b with
  | nil => exact h
  | cons c cs ih => exact ih (streamed_call h hlimit c)

/-- the operations that are no longer in the history have small numbers -/
theorem Streamed.historySince (h : Streamed limit ops b) {s : ℤ} (hs : (b.seq : ℤ) - limit ≤ s) :
    b.historySince s = ops.filter fun o => s < o.seq := by
  have hdropped : (ops.take (ops.length - limit)).filter (fun o => decide (s < o.seq)) = [] := by
    rw [List.filter_eq_nil_iff]
    intro o ho
    have hmem : o.seq ∈ List.range' 1 (ops.length - limit) := by
      have htake : (ops.take (ops.length - limit)).map (·.seq) = List.range' 1 (ops.length - limit) := by
        rw [List.map_take, h.numbers, List.take_range'_of_length_ge (Nat.sub_le _ _)]
      exact htake ▸ List.mem_map_of_mem ho
    obtain ⟨i, hi, hseq⟩ := List.mem_range'.1 hmem
    rw [h.counter] at hs
    simp only [decide_eq_true_eq, not_lt]
    omega
  calc b.historySince s
      = (ops.drop (ops.length - limit)).filter fun o => s < o.seq := by rw [BuildAuthority.historySince, h.history]
    _ = (ops.take (ops.length - limit) ++ ops.drop (ops.length - limit)).filter fun o => s < o.seq := by
      rw [List.filter_append, hdropped, List.nil_append]
    _ = ops.filter fun o => s < o.seq := by rw [List.take_append_drop]

/-- **The build stream.** After every sequence of calls on a new authority the accepted operations are numbered
1, 2, 3, ... without a gap, a refused call takes no number, and `history_since` answers with exactly the accepted
operations above the given number. -/
theorem stream_and_history (lease historyLimit : ℕ) (hlimit : 0 < historyLimit) (cs : List StreamCall)
    (ops : List BuildOperation) (b : BuildAuthority) (hrun : (new lease historyLimit).streamRun cs = (ops, b)) :
    ops.map (·.seq) = List.range' 1 ops.length ∧ b.seq = ops.length ∧
      (∀ c, (b.streamCall c).1 = none → (b.streamCall c).2.seq = b.seq) ∧
      ∀ s : ℤ, (b.seq : ℤ) - historyLimit ≤ s → b.historySince s = ops.filter fun o => s < o.seq := by
  have hstart : Streamed historyLimit [] (new lease historyLimit) :=
    ⟨rfl, rfl, rfl, by simp [new]⟩
  have h := streamed_calls hstart hlimit cs
  rw [streamRun] at hrun
  rw [hrun] at h
  refine ⟨h.numbers, h.counter, fun c hc => ?_, fun s hs => h.historySince hs⟩
  have hnext := (streamed_call h hlimit c).counter
  rw [hc, Option.toList_none, List.append_nil] at hnext
  exact hnext.trans h.counter.symm

/-- bob is refused between alice's operations -/
def threeAccepted : List StreamCall :=
  [.requestLock "alice" 0 0 0, .submit "alice" "wall.create" [] 1 1, .submit "bob" "wall.create" [] 2 2,
    .submit "alice" "wall.delete" [] 3 3, .submit "alice" "wall.create" [] 4 4]

/-- two of the three operations are kept, and can be read back -/
theorem stream_and_history_trimmed :
    (((new 8 2).streamRun threeAccepted).1.map (·.seq) = List.range' 1 ((new 8 2).streamRun threeAccepted).1.length) ∧
      ((new 8 2).streamRun threeAccepted).2.historySince 1 =
        ((new 8 2).streamRun threeAccepted).1.filter fun o => (1 : ℤ) < o.seq :=
  have h := stream_and_history 8 2 (by decide) threeAccepted _ _ rfl
  ⟨h.1, h.2.2.2 1 (by decide +kernel)⟩

end BuildAuthority

end KerMP
