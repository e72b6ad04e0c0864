import KeySequenced.Proofs.Snapshot.Corruption
import KeySequenced.Proofs.Snapshot.Framing

/-!
# Torn and lengthened files

A snapshot file that has lost its end, or has been given another one, is not
read any more, wherever the cut is.  The frames that are left of it may all be
good, but then their number is not the one in the header.
-/

set_option autoImplicit false

namespace KeySequenced.Snapshot

section Torn

variable {path place : String} {records : List Record} {snapshot other : Snapshot}
  {bytes kept rest : Bytes}

theorem decodeFrame_of_torn (path : String) (offset : Nat) {body : Bytes}
    (small : body.length < UInt32.size) (torn : rest <+: frame body)
    (short : rest.length < (frame body).length) :
    ∃ damage, decodeFrame path offset rest = .error (.corrupted damage) := by
  by_cases headless : rest.length < frameHeaderSize
  · have cut : (rest.take frameHeaderSize).length < frameHeaderSize := by
      rw [List.length_take]
      omega
    simp only [decodeFrame, if_pos cut]
    exact ⟨_, rfl⟩
  · -- Both words are there, so what is missing is missing from the body.
    obtain ⟨tail, rfl⟩ : LittleEndian.encode 4 body.length
        ++ LittleEndian.encode 4 (Checksum.ofBytes body).toNat <+: rest := by
      refine List.prefix_of_prefix_length_le (List.prefix_append _ _) torn ?_
      simp only [List.length_append, LittleEndian.length_encode]
      exact Nat.not_lt.mp headless
    have lacking : (tail.take body.length).length < body.length := by
      simp only [frame, List.length_append, LittleEndian.length_encode] at short
      rw [List.length_take]
      omega
    rw [decodeFrame_words path offset tail (LittleEndian.length_encode ..)
        (LittleEndian.length_encode ..), LittleEndian.decode_encode 4 _ small, if_pos lacking]
    exact ⟨_, rfl⟩

theorem decodeFrames_of_torn (path : String) (writable : ∀ record ∈ records, record.Writable)
    (torn : rest <+: frames records) (steps offset : Nat) (found : List Record) :
    (∃ read, decodeFrames path steps offset rest found = .ok read) ∨
      ∃ damage, decodeFrames path steps offset rest found = .error (.corrupted damage) := by
  induction steps generalizing offset rest records found with
  | zero => exact .inl ⟨_, rfl⟩
  | succ steps ih =>
    by_cases nothing : rest = []
    · rw [nothing]
      exact .inl ⟨_, rfl⟩
    have unread : ¬ rest.isEmpty = true := by simpa using nothing
    simp only [decodeFrames, if_neg unread]
    cases records with
    | nil => exact absurd (List.prefix_nil.mp torn) nothing
    | cons record records =>
      obtain ⟨writableFirst, writableLater⟩ := List.forall_mem_cons.mp writable
      have small := encodedLength_lt writableFirst.1
      rw [← Record.length_encode] at small
      rw [frames_cons] at torn
      by_cases short : rest.length < (frame record.encode).length
      · have cut : rest <+: frame record.encode :=
          List.prefix_of_prefix_length_le torn (List.prefix_append _ _) (Nat.le_of_lt short)
        obtain ⟨damage, failed⟩ := decodeFrame_of_torn path offset small cut short
        rw [failed]
        exact .inr ⟨damage, rfl⟩
      · obtain ⟨later, rfl⟩ : frame record.encode <+: rest :=
          List.prefix_of_prefix_length_le (List.prefix_append _ _) torn (Nat.not_lt.mp short)
        have width : (frame record.encode).length = frameHeaderSize + record.encodedLength := by
          rw [length_frame, Record.length_encode]
        rw [decodeFrame_encode path offset writableFirst.1]
        simp only [List.drop_left' width]
        exact ih writableLater ((List.prefix_append_right_inj _).mp torn) _ _

/-- Of two files that are read, neither continues the other one. -/
theorem eq_nil_of_decode_append (accepted : decode path bytes = .ok snapshot)
    (again : decode place (bytes ++ rest) = .ok other) : rest = [] := by
  obtain ⟨head, rfl, announces, writable⟩ := exists_header accepted
  rw [List.append_assoc, decode_append_eq_ok_iff place announces.length_eq] at again
  obtain ⟨announcesOther, alsoWritable, same⟩ := again
  exact eq_nil_of_frames_append writable alsoWritable (announces.unique announcesOther).1 same

theorem decode_of_torn (accepted : decode path bytes = .ok snapshot) (torn : kept <+: bytes)
    (differ : kept ≠ bytes) (place : String) :
    ∃ damage, decode place kept = .error (.corrupted damage) := by
  by_cases headless : kept.length < headerSize
  · simp only [decode, if_pos headless]
    exact ⟨_, rfl⟩
  have refused : ∀ read, decode place kept ≠ .ok read := by
    intro read again
    obtain ⟨missing, rfl⟩ := torn
    rw [eq_nil_of_decode_append again accepted, List.append_nil] at differ
    exact differ rfl
  obtain ⟨head, rfl, announces, writable⟩ := exists_header accepted
  obtain ⟨tail, rfl⟩ : head <+: kept :=
    List.prefix_of_prefix_length_le (List.prefix_append _ _) torn
      (announces.length_eq ▸ Nat.not_lt.mp headless)
  have front := (List.prefix_append_right_inj head).mp torn
  rw [announces.decode_eq] at refused ⊢
  rcases decodeFrames_of_torn place writable front (headerSize + tail.length) headerSize [] with
    ⟨read, readable⟩ | ⟨damage, failed⟩
  · rw [readable] at refused ⊢
    simp only [conclude] at refused ⊢
    by_cases miscounted : read.length ≠ snapshot.records.length
    · rw [if_pos miscounted]
      exact ⟨_, rfl⟩
    · rw [if_neg miscounted] at refused
      exact absurd rfl (refused _)
  · rw [failed]
    exact ⟨damage, rfl⟩

end Torn

/-- Where a file is loaded, no file that has lost some of its end is, and none that has got
something behind its end.  The former is reported as corrupted. -/
theorem rejected_of_torn_or_lengthened {path : String} {volume : Volume} {bytes : Bytes}
    {snapshot : Snapshot} (stands : volume.read path = .ok bytes)
    (accepted : load path volume = .ok snapshot) :
    (∀ kept, kept <+: bytes → kept ≠ bytes →
      ∀ (place : String) (beside : Volume), beside.read place = .ok kept →
        ∃ damage, load place beside = .error (.corrupted damage)) ∧
    ∀ rest, rest ≠ [] →
      ∀ (place : String) (beside : Volume), beside.read place = .ok (bytes ++ rest) →
        ∃ fault, load place beside = .error fault := by
  rw [load_of_read stands] at accepted
  refine ⟨?_, ?_⟩
  · intro kept torn differ place beside reads
    rw [load_of_read reads]
    exact decode_of_torn accepted torn differ place
  · intro rest more place beside reads
    rw [load_of_read reads]
    cases again : decode place (bytes ++ rest) with
    | error fault => exact ⟨fault, rfl⟩
    | ok other => exact absurd (eq_nil_of_decode_append accepted again) more

/-- The file of two records is cut between their frames, and gets a third good frame. -/
theorem rejected_between_frames :
    let snapshot : Snapshot := ⟨4, [.live [1] [] (.rba 0), .live [2] [7, 7] (.rba 1)]⟩
    let file := snapshot.encode
    let further := frame (Record.live [3] [8] (.rba 4)).encode
    let on (content : Bytes) := Volume.empty.put ["f"] (.file content)
    (on file).read "f" = .ok file ∧ load "f" (on file) = .ok snapshot ∧
      (∃ damage, load "f" (on (file.take 81)) = .error (.corrupted damage)) ∧
      ∃ fault, load "f" (on (file ++ further)) = .error fault := by
  intro snapshot file further on
  have stands : (on file).read "f" = .ok file := by decide +kernel
  have accepted : load "f" (on file) = .ok snapshot := by decide +kernel
  obtain ⟨torn, lengthened⟩ := rejected_of_torn_or_lengthened stands accepted
  exact ⟨stands, accepted,
    torn (file.take 81) (List.take_prefix ..) (by decide +kernel) "f" _ (by decide +kernel),
    lengthened further (by decide +kernel) "f" _ (by decide +kernel)⟩

end KeySequenced.Snapshot
