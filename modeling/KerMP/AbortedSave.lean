/-
A save transfer after `abort` (`SaveReceiver.write_chunk`, `abort` and `finalize` of `kermp/save_sync.py`).

`abort` removes the partial file and leaves the receiver as it is, with its next index and its count of bytes. A later
chunk at that index is appended to a new file, and is counted on top of the bytes that are gone.

`Receiving` is a receiver with its disk and two lists that no code keeps: the accepted chunks that were in a partial file
when it was removed, and the ones accepted since. `Inv` ties them to the counters and the file, over every mix of calls.

- `aborted_is_over`: an aborted transfer is over exactly when no chunk fits it any more; and a file that is installed is
  all that was accepted, with as many bytes as were announced, exactly when only empty chunks went with a partial file.
- `resumed_after_abort`: two bytes are announced, and a file of one byte is installed.
-/
import KerMP.SavePaths

namespace KerMP.SaveReceiver

open Py
open Base64 (Bytes)

/-! ## Calls on a receiver -/

inductive SaveCall where
  | writeChunk (index : ℤ) (data : Bytes)
  | abort
  | finalize (sessionId : String) (now : ℕ)

structure Receiving where
  receiver : SaveReceiver
  disk : Disk
  /-- the accepted chunks that were removed with a partial file -/
  lost : List Bytes
  /-- the accepted chunks that are in the partial file -/
  kept : List Bytes

namespace Receiving

/-- the partial file is gone -/
def cleared (t : Receiving) (disk : Disk) : Receiving := { t with disk, lost := t.lost ++ t.kept, kept := [] }

/-- whether the call returns, and what it leaves -/
def call (sha256 : Bytes → String) (t : Receiving) : SaveCall → Bool × Receiving
  | .writeChunk index data =>
    match t.receiver.writeChunk t.disk index data with
    | .ok (r, disk) => (true, { t with receiver := r, disk, kept := t.kept ++ [data] })
    | .error _ => (false, t)
  | .abort => (true, t.cleared (t.receiver.abort t.disk))
  | .finalize sessionId now =>
    let f := t.receiver.finalize sha256 t.disk sessionId now
    (f.1.isOk, t.cleared f.2)

def run (sha256 : Bytes → String) (t : Receiving) (cs : List SaveCall) : Receiving :=
  cs.foldl (fun t c => (t.call sha256 c).2) t

/-- a new transfer -/
def start (r : SaveReceiver) (disk : Disk) : Receiving := ⟨r, disk, [], []⟩

/-- all accepted chunks, in order -/
def accepted (t : Receiving) : List Bytes := t.lost ++ t.kept

end Receiving

/-! ## Chunks that fit -/

/-- no short chunk is expected, and there is no room for a full one -/
def Full (r : SaveReceiver) : Prop := r.nextIndex ≠ r.chunkCount - 1 ∧ r.total < r.received + r.chunkSize

theorem full_iff {r : SaveReceiver} (hreceived : r.received ≤ r.total) (hsize : 1 ≤ r.chunkSize) :
    r.Full ↔ ∀ data, ¬ r.Fits data := by
  constructor
  · intro h data hfits
    obtain ⟨-, htotal, hlast⟩ := hfits
    rcases hlast with hlast | hlast
    · exact h.1 hlast
    · have := h.2
      omega
  · intro h
    refine ⟨fun hlast => h [] ⟨by simp; omega, by simpa using hreceived, Or.inl hlast⟩, ?_⟩
    by_contra hroom
    have hlength : ((List.replicate r.chunkSize.toNat (0 : UInt8)).length : ℤ) = r.chunkSize := by
      rw [List.length_replicate]
      omega
    exact h _ ⟨hlength.le, by omega, Or.inr hlength⟩

/-- after `finalize` there is no partial file, whether it returns or raises -/
theorem finalize_removes (sha256 : Bytes → String) (r : SaveReceiver) (disk : Disk) (sessionId : String) (now : ℕ) :
    (r.finalize sha256 disk sessionId now).2.lookup r.partialPath = none := by
  unfold finalize
  split_ifs
  · exact AList.lookup_erase _ _
  · split
    · assumption
    · split_ifs
      · exact AList.lookup_erase _ _
      · split
        · exact (AList.lookup_setItem_ne _ _ (finalPath_ne_partialPath r r).symm).trans (AList.lookup_erase _ _)
        · exact (AList.lookup_setItem_ne _ _ (finalPath_ne_partialPath r r).symm).trans (AList.lookup_erase _ _)

namespace Receiving

variable {sha256 : Bytes → String}

/-! ## Counters and file -/

/-- the bytes of all accepted chunks are counted, and the partial file holds the ones that are kept -/
structure Inv (t : Receiving) : Prop where
  file : t.disk.lookup t.receiver.partialPath = if t.kept = [] then none else some t.kept.flatten
  received : t.receiver.received = t.accepted.flatten.length
  le : t.receiver.received ≤ t.receiver.total
  size : 1 ≤ t.receiver.chunkSize

theorem inv_start {manifest : Json} {before disk : Disk} {r : SaveReceiver}
    (h : create manifest before = .ok (r, disk)) : (start r disk).Inv := by
  obtain ⟨-, htotal, hsize, -, hreceived, rfl⟩ := create_ok h
  refine ⟨AList.lookup_erase _ _, hreceived, ?_, hsize⟩
  rw [start, hreceived]
  exact htotal

theorem Inv.cleared {t : Receiving} (h : t.Inv) {disk : Disk} (hdisk : disk.lookup t.receiver.partialPath = none) :
    (t.cleared disk).Inv := by
  refine ⟨hdisk, ?_, h.le, h.size⟩
  rw [accepted, Receiving.cleared, List.append_nil]
  exact h.received

theorem Inv.call {t : Receiving} (h : t.Inv) (c : SaveCall) : (t.call sha256 c).2.Inv := by
  cases c with
  | abort => exact h.cleared (AList.lookup_erase _ _)
  | finalize sessionId now => exact h.cleared (finalize_removes sha256 t.receiver t.disk sessionId now)
  | writeChunk index data =>
    simp only [Receiving.call]
    cases hw : t.receiver.writeChunk t.disk index data with
    | error e => exact h
    | ok x =>
      obtain ⟨r, disk⟩ := x
      obtain ⟨-, ⟨-, htotal, -⟩, rfl, rfl⟩ := writeChunk_iff.1 hw
      refine ⟨?_, ?_, htotal, h.size⟩
      · have hnew : t.kept ++ [data] ≠ [] := by simp
        have hold : (t.disk.lookup t.receiver.partialPath).getD [] = t.kept.flatten := by
          rw [h.file]
          split_ifs with hkept
          · rw [hkept]
            rfl
          · rfl
        rw [if_neg hnew, List.flatten_append, List.flatten_singleton, ← hold]
        exact AList.lookup_setItem_self _ _ _
      · have hreceived := h.received
        simp only [accepted, List.flatten_append, List.flatten_singleton, List.length_append] at hreceived ⊢
        omega

theorem Inv.run {t : Receiving} (h : t.Inv) (cs : List SaveCall) : (t.run sha256 cs).Inv := by
  induction cs generalizing t with
  | nil => exact h
  | cons c cs ih => exact ih (h.call c)

/-! ## After an abort -/

/-- nothing is written any more, and nothing is installed -/
def Over (sha256 : Bytes → String) (t : Receiving) : Prop :=
  ∀ later, (∀ index data, ((t.run sha256 later).call sha256 (.writeChunk index data)).1 = false) ∧
    ∀ sessionId now, ((t.run sha256 later).call sha256 (.finalize sessionId now)).1 = false

theorem call_writeChunk {t : Receiving} {index : ℤ} {data : Bytes} :
    (t.call sha256 (.writeChunk index data)).1 = true ↔ index = t.receiver.nextIndex ∧ t.receiver.Fits data := by
  simp only [Receiving.call]
  cases hw : t.receiver.writeChunk t.disk index data with
  | error e =>
    refine iff_of_false (by simp) fun h => ?_
    have hok : ∃ x, t.receiver.writeChunk t.disk index data = .ok x := ⟨_, writeChunk_iff.2 ⟨h.1, h.2, rfl, rfl⟩⟩
    rw [hw] at hok
    obtain ⟨x, hx⟩ := hok
    cases hx
  | ok x =>
    obtain ⟨hindex, hfits, -⟩ := writeChunk_iff.1 hw
    exact iff_of_true rfl ⟨hindex, hfits⟩

/-- nothing fits, and there is no partial file -/
structure Done (t : Receiving) : Prop where
  full : t.receiver.Full
  gone : t.disk.lookup t.receiver.partialPath = none
  size : 1 ≤ t.receiver.chunkSize
  le : t.receiver.received ≤ t.receiver.total

theorem Done.refuses {t : Receiving} (h : t.Done) (index : ℤ) (data : Bytes) :
    (t.call sha256 (.writeChunk index data)).1 = false := by
  rw [Bool.eq_false_iff, Ne, call_writeChunk]
  exact fun hw => (full_iff h.le h.size).1 h.full data hw.2

theorem Done.call {t : Receiving} (h : t.Done) (c : SaveCall) : (t.call sha256 c).2.Done := by
  cases c with
  | abort => exact ⟨h.full, AList.lookup_erase _ _, h.size, h.le⟩
  | finalize sessionId now => exact ⟨h.full, finalize_removes sha256 t.receiver t.disk sessionId now, h.size, h.le⟩
  | writeChunk index data =>
    have hrefused : (t.call sha256 (.writeChunk index data)).1 = false := h.refuses index data
    simp only [Receiving.call] at hrefused ⊢
    cases hw : t.receiver.writeChunk t.disk index data with
    | error e => exact h
    | ok x =>
      rw [hw] at hrefused
      cases hrefused

theorem Done.run {t : Receiving} (h : t.Done) (cs : List SaveCall) : (t.run sha256 cs).Done := by
  induction cs generalizing t with
  | nil => exact h
  | cons c cs ih => exact ih (h.call c)

/-- without a partial file there is nothing to install -/
theorem Done.installs_nothing {t : Receiving} (h : t.Done) (sessionId : String) (now : ℕ) :
    (t.call sha256 (.finalize sessionId now)).1 = false := by
  simp only [Receiving.call]
  cases hf : t.receiver.finalize sha256 t.disk sessionId now with
  | mk result disk =>
    cases result with
    | error e => rfl
    | ok backup =>
      obtain ⟨-, content, hfile, -⟩ := finalize_ok hf
      rw [h.gone] at hfile
      cases hfile

theorem over_iff {t : Receiving} (h : t.Inv) : Over sha256 (t.call sha256 .abort).2 ↔ t.receiver.Full := by
  constructor
  · intro hover
    rw [full_iff h.le h.size]
    intro data hfits
    have hrefused := (hover []).1 t.receiver.nextIndex data
    rw [Bool.eq_false_iff, Ne, call_writeChunk] at hrefused
    exact hrefused ⟨rfl, hfits⟩
  · intro hfull later
    have hdone : (t.call sha256 .abort).2.Done := ⟨hfull, AList.lookup_erase _ _, h.size, h.le⟩
    exact ⟨(hdone.run later).refuses, (hdone.run later).installs_nothing⟩

/-! ## What is installed -/

/-- the slot holds all accepted chunks, with as many bytes as were announced -/
def InstalledWhole (t : Receiving) (disk : Disk) : Prop :=
  disk.lookup t.receiver.finalPath = some t.accepted.flatten ∧ (t.accepted.flatten.length : ℤ) = t.receiver.total

theorem installedWhole_iff {t : Receiving} (h : t.Inv) {sessionId : String} {now : ℕ}
    (hok : (t.call sha256 (.finalize sessionId now)).1 = true) :
    t.InstalledWhole (t.call sha256 (.finalize sessionId now)).2.disk ↔ ∀ data ∈ t.lost, data = [] := by
  obtain ⟨backup, hf⟩ : ∃ backup, t.receiver.finalize sha256 t.disk sessionId now =
      (.ok backup, (t.call sha256 (.finalize sessionId now)).2.disk) := by
    simp only [Receiving.call, Receiving.cleared] at hok ⊢
    cases hr : t.receiver.finalize sha256 t.disk sessionId now with
    | mk result disk =>
      rw [hr] at hok
      cases result with
      | error e => cases hok
      | ok backup => exact ⟨backup, rfl⟩
  obtain ⟨htotal, content, hfile, -, hfinal⟩ := finalize_ok hf
  -- what is installed is what was kept
  have hcontent : content = t.kept.flatten := by
    rw [h.file] at hfile
    split_ifs at hfile
    exact (Option.some.inj hfile).symm
  have haccepted : t.accepted.flatten = t.lost.flatten ++ t.kept.flatten := List.flatten_append
  have hnone : t.lost.flatten = [] ↔ ∀ data ∈ t.lost, data = [] := List.flatten_eq_nil_iff
  rw [InstalledWhole, hfinal, hcontent, ← hnone]
  constructor
  · intro hwhole
    have hsame := Option.some.inj hwhole.1
    rw [haccepted] at hsame
    exact List.self_eq_append_left.1 hsame
  · intro hlost
    refine ⟨?_, ?_⟩
    · rw [haccepted, hlost, List.nil_append]
    · rw [← htotal, h.received]

/-- **An aborted transfer.** Whatever has been called on a receiver: once it is aborted, nothing is accepted and nothing
is installed any more, if and only if no chunk fits; and what `finalize` installs is all that was accepted, of the
announced size, if and only if every chunk that went with a partial file was empty. -/
theorem aborted_is_over (sha256 : Bytes → String) (manifest : Json) (before disk : Disk) (r : SaveReceiver)
    (h : create manifest before = .ok (r, disk)) (cs : List SaveCall) :
    (Over sha256 (((start r disk).run sha256 cs).call sha256 .abort).2 ↔
      ((start r disk).run sha256 cs).receiver.Full) ∧
    ∀ sessionId now, (((start r disk).run sha256 cs).call sha256 (.finalize sessionId now)).1 = true →
      (((start r disk).run sha256 cs).InstalledWhole
        (((start r disk).run sha256 cs).call sha256 (.finalize sessionId now)).2.disk ↔
          ∀ data ∈ ((start r disk).run sha256 cs).lost, data = []) := by
  have hinv : ((start r disk).run sha256 cs).Inv := (inv_start h).run cs
  exact ⟨over_iff hinv, fun sessionId now hok => installedWhole_iff hinv hok⟩

/-- the SHA-256 of the one byte of "b" -/
def shaOfB : String := "3e23e8160039594a33894f6564e1b1348bbd7a0088d42c4acb73eeaed59c009d"

/-- two bytes are announced, in chunks of one -/
def twoBytes : SaveReceiver := ⟨"Slot_00000001", 2, 1, 2, shaOfB, 0, 0⟩

theorem create_twoBytes : ∃ manifest, create manifest ∅ = .ok (twoBytes, (∅ : Disk).erase twoBytes.partialPath) :=
  ⟨_, @create_fields "Slot_00000001" shaOfB 2 1 2 (by decide +kernel) (by decide +kernel) le_rfl (by decide) "session"
    (.dec false 17 8) ∅⟩

/-- with all of its bytes there, the transfer is over once it is aborted -/
theorem complete_is_over : ∃ manifest disk, create manifest ∅ = .ok (twoBytes, disk) ∧
    Over (fun _ => shaOfB) (((start twoBytes disk).run (fun _ => shaOfB)
      [.writeChunk 0 [97], .writeChunk 1 [98]]).call (fun _ => shaOfB) .abort).2 := by
  obtain ⟨manifest, hcreate⟩ := create_twoBytes
  refine ⟨manifest, _, hcreate, (aborted_is_over (fun _ => shaOfB) manifest ∅ _ twoBytes hcreate
    [.writeChunk 0 [97], .writeChunk 1 [98]]).1.2 ?_⟩
  unfold Full
  decide +kernel

/-- the first byte is accepted and the transfer aborted -/
def aThenAbort : Receiving :=
  (start twoBytes ((∅ : Disk).erase twoBytes.partialPath)).run (fun _ => shaOfB) [.writeChunk 0 [97], .abort]

/-- The second byte is accepted after the abort, and is installed as if it were both. -/
theorem resumed_after_abort :
    ¬ Over (fun _ => shaOfB) aThenAbort ∧
      ((aThenAbort.run (fun _ => shaOfB) [.writeChunk 1 [98], .finalize "session" 0]).disk).lookup twoBytes.finalPath =
        some [98] := by
  refine ⟨fun hover => ?_, by decide +kernel⟩
  have hrefused := (hover []).1 1 [98]
  have haccepted : ((aThenAbort.run (fun _ => shaOfB) []).call (fun _ => shaOfB) (.writeChunk 1 [98])).1 = true := by
    decide +kernel
  rw [hrefused] at haccepted
  cases haccepted

end Receiving

end KerMP.SaveReceiver
