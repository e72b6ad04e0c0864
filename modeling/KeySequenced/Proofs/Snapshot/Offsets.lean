import KeySequenced.Proofs.Record.Offsets
import KeySequenced.Proofs.Snapshot.Corruption
import KeySequenced.Proofs.Snapshot.Framing

/-!
# Where the damage of a file lies

A frame that cannot be read ends the reading of its file.  What is wrong with
the frame itself is reported at the place of the frame in the file.  What is
wrong with the record in it is reported as the reader of the record found it,
at an offset from the beginning of that record and not of the file.
-/

set_option autoImplicit false

namespace KeySequenced

/-- The offset at which the fault says that bytes are damaged. -/
def Fault.offset? : Fault → Option Nat
  | .corrupted damage => some damage.offset
  | .checksumMismatch _ _ _ offset => some offset
  | _ => none

namespace Snapshot

section Frames

variable {path : String} {offset : Nat} {rest : Bytes} {fault : Fault} {damage : Damage}

/-- The bytes begin with a frame that is complete and agrees with its checksum, but the record in
it is damaged in this way. -/
def HoldsDamage (rest : Bytes) (damage : Damage) : Prop :=
  ∃ size sum body later : Bytes, size.length = 4 ∧ sum.length = 4 ∧
    LittleEndian.decode size = body.length ∧
    Checksum.ofBytes body = UInt32.ofNat (LittleEndian.decode sum) ∧
    rest = size ++ sum ++ (body ++ later) ∧ Record.decode body = .error damage

theorem HoldsDamage.offset_le (holds : HoldsDamage rest damage) :
    frameHeaderSize + damage.offset ≤ rest.length := by
  obtain ⟨size, sum, body, later, sizeExact, sumExact, _, _, rfl, failed⟩ := holds
  have within := Record.reportsUpTo_decode body damage failed
  simp only [List.length_append, sizeExact, sumExact, frameHeaderSize]
  omega

theorem HoldsDamage.decodeFrame_eq (holds : HoldsDamage rest damage) (path : String)
    (offset : Nat) : decodeFrame path offset rest = .error (.corrupted damage) := by
  obtain ⟨size, sum, body, later, sizeExact, sumExact, held, agrees, rfl, failed⟩ := holds
  rw [decodeFrame_words path offset _ sizeExact sumExact, held, List.take_left,
    if_neg (Nat.lt_irrefl _), if_neg (fun differ => differ agrees), failed, accept]

theorem HoldsDamage.not_frame (holds : HoldsDamage rest damage) (record : Record)
    (writable : record.Writable) : ¬ frame record.encode <+: rest := by
  rintro ⟨after, split⟩
  have readable := (decodeFrame_eq_ok_iff "" 0 rest record _).mpr
    ⟨writable, rfl, after, split.symm⟩
  rw [holds.decodeFrame_eq] at readable
  cases readable

/-- A frame is reported at its own offset, but for damage of the record in it. -/
theorem offset?_of_decodeFrame (failed : decodeFrame path offset rest = .error fault) :
    fault.offset? = some offset ∨
      ∃ damage, fault = .corrupted damage ∧ HoldsDamage rest damage := by
  by_cases headed : (rest.take frameHeaderSize).length < frameHeaderSize
  · simp only [decodeFrame, headed, if_true] at failed
    cases failed
    exact .inl rfl
  obtain ⟨size, sum, tail, sizeExact, sumExact, rfl⟩ := exists_words headed
  rw [decodeFrame_words path offset tail sizeExact sumExact] at failed
  split at failed
  · cases failed
    exact .inl rfl
  rename_i complete
  split at failed
  · cases failed
    exact .inl rfl
  rename_i agrees
  cases read : Record.decode (tail.take (LittleEndian.decode size)) with
  | error damage =>
    rw [read] at failed
    cases failed
    refine .inr ⟨damage, rfl, size, sum, _, tail.drop (LittleEndian.decode size), sizeExact,
      sumExact, ?_, Decidable.not_not.mp agrees, ?_, read⟩
    · exact Nat.le_antisymm (Nat.not_lt.mp complete) (List.length_take_le ..)
    · rw [List.take_append_drop]
  | ok found =>
    rw [read, accept] at failed
    split at failed
    · cases failed
      exact .inl rfl
    · cases failed

theorem exists_error_of_no_frame (path : String) (offset : Nat)
    (bad : ∀ record : Record, record.Writable → ¬ frame record.encode <+: rest) :
    ∃ fault, decodeFrame path offset rest = .error fault := by
  cases read : decodeFrame path offset rest with
  | error fault => exact ⟨fault, rfl⟩
  | ok pair =>
    obtain ⟨writable, _, after, split⟩ := (decodeFrame_eq_ok_iff ..).mp read
    exact absurd ⟨after, split.symm⟩ (bad pair.1 writable)

end Frames

/-- Behind a good header and good frames, the first frame that is not good ends the loading of a
file.  What is wrong with the frame is reported at the place of the frame in the file.  Damage of
the record in it is reported at its place in the record, which is one in the file only when it is
counted from where the record begins. -/
theorem reported_at_bad_frame {path : String} {volume : Volume} {head : Bytes} {count : Nat}
    {nextRba : UInt64} {before : List Record} {rest : Bytes}
    (stands : volume.read path = .ok (head ++ frames before ++ rest))
    (announces : Announces head count nextRba) (good : ∀ record ∈ before, record.Writable)
    (more : rest ≠ []) (bad : ∀ record : Record, record.Writable → ¬ frame record.encode <+: rest) :
    let start := (head ++ frames before).length
    let size := (head ++ frames before ++ rest).length
    ∃ fault reported, load path volume = .error fault ∧ fault.offset? = some reported ∧
      ((∀ damage, ¬ HoldsDamage rest damage) → reported = start ∧ start < size) ∧
      ∀ damage, HoldsDamage rest damage →
        fault = .corrupted damage ∧ start + frameHeaderSize + reported ≤ size := by
  intro start size
  have begins : start = headerSize + (frames before).length := by
    simp only [start, List.length_append, announces.length_eq]
  have length : size = start + rest.length := List.length_append
  have something := List.length_pos_iff.mpr more
  have loads {fault : Fault}
      (failed : decodeFrame path (headerSize + (frames before).length) rest = .error fault) :
      load path volume = .error fault := by
    have stopped := decodeFrames_of_decodeFrame path before
      (fun record member => (good record member).1) more failed (Nat.le_add_left _ headerSize) []
    rw [load_of_read stands, List.append_assoc, announces.decode_eq, stopped, conclude]
  by_cases damaged : ∃ damage, HoldsDamage rest damage
  · obtain ⟨damage, holds⟩ := damaged
    have failed := holds.decodeFrame_eq path (headerSize + (frames before).length)
    refine ⟨_, damage.offset, loads failed, rfl, fun none => absurd holds (none damage), ?_⟩
    intro other also
    have same := (also.decodeFrame_eq path _).symm.trans failed
    cases same
    have within := holds.offset_le
    exact ⟨rfl, by omega⟩
  · obtain ⟨fault, failed⟩ :=
      exists_error_of_no_frame path (headerSize + (frames before).length) bad
    have own : fault.offset? = some (headerSize + (frames before).length) := by
      refine (offset?_of_decodeFrame failed).resolve_right ?_
      rintro ⟨damage, _, holds⟩
      exact damaged ⟨damage, holds⟩
    exact ⟨fault, _, loads failed, own, fun _ => ⟨begins.symm, by omega⟩,
      fun damage holds => absurd ⟨damage, holds⟩ damaged⟩

/-- Three bytes behind the frame of a record are too few for another frame. -/
theorem reported_at_cut_frame :
    let record := Record.live [75] [] (.rba 0)
    let front := header 2 1 ++ frames [record]
    let volume := Volume.empty.put ["S"] (.file (front ++ [8, 0, 0]))
    volume.read "S" = .ok (front ++ [8, 0, 0]) ∧ Announces (header 2 1) 2 1 ∧ record.Writable ∧
      (∀ other : Record, other.Writable → ¬ frame other.encode <+: [8, 0, 0]) ∧
      front.length = 81 ∧
      ∃ fault, load "S" volume = .error fault ∧ fault.offset? = some 81 := by
  intro record front volume
  have stands : volume.read "S" = .ok (front ++ [8, 0, 0]) := by decide +kernel
  have announces : Announces (header 2 1) 2 1 :=
    ⟨by decide, LittleEndian.encode 8 0, LittleEndian.length_encode .., rfl⟩
  have writable : record.Writable := ⟨by decide, rfl⟩
  have short : ∀ other : Record, other.Writable → ¬ frame other.encode <+: [8, 0, 0] := by
    intro other _ begins
    have long := begins.length_le
    rw [length_frame, frameHeaderSize, List.length_cons, List.length_cons, List.length_cons,
      List.length_nil] at long
    omega
  have place : front.length = 81 := by decide +kernel
  obtain ⟨fault, reported, failed, offset, own, _⟩ :=
    reported_at_bad_frame stands announces (List.forall_mem_singleton.mpr writable)
      (List.cons_ne_nil _ _) short
  have undamaged : ∀ damage, ¬ HoldsDamage [8, 0, 0] damage := by
    intro damage holds
    have long := holds.offset_le
    rw [frameHeaderSize, List.length_cons, List.length_cons, List.length_cons,
      List.length_nil] at long
    omega
  exact ⟨stands, announces, writable, short, place, fault, failed,
    by rw [offset, (own undamaged).1, place]⟩

/-- The frame behind that of a record holds a key of no length.  It begins at offset 81 of the
file and the flaw lies at offset 89, but the offset 0 is reported. -/
theorem reported_before_bad_frame :
    let record := Record.live [75] [] (.rba 0)
    let front := header 2 1 ++ frames [record]
    let rest := frame (List.replicate 8 0)
    let volume := Volume.empty.put ["S"] (.file (front ++ rest))
    volume.read "S" = .ok (front ++ rest) ∧ Announces (header 2 1) 2 1 ∧ record.Writable ∧
      (∀ other : Record, other.Writable → ¬ frame other.encode <+: rest) ∧
      front.length = 81 ∧ (front ++ rest).length = 97 ∧
      load "S" volume = .error (.corrupted ⟨0, .keyLength 0⟩) ∧
      ¬ ∀ fault reported, load "S" volume = .error fault → fault.offset? = some reported →
        front.length ≤ reported ∧ reported ≤ (front ++ rest).length := by
  intro record front rest volume
  have stands : volume.read "S" = .ok (front ++ rest) := by decide +kernel
  have holds : HoldsDamage rest ⟨0, .keyLength 0⟩ :=
    ⟨LittleEndian.encode 4 8, LittleEndian.encode 4 (Checksum.ofBytes (List.replicate 8 0)).toNat,
      List.replicate 8 0, [], rfl, rfl, by decide +kernel, by decide +kernel, rfl, rfl⟩
  have failed : load "S" volume = .error (.corrupted ⟨0, .keyLength 0⟩) := by decide +kernel
  have place : front.length = 81 := by decide +kernel
  refine ⟨stands, ⟨by decide, LittleEndian.encode 8 0, LittleEndian.length_encode .., rfl⟩,
    ⟨by decide, rfl⟩, holds.not_frame, place, by decide +kernel, failed, ?_⟩
  intro within
  have beyond := (within _ 0 failed rfl).1
  rw [place] at beyond
  exact absurd beyond (by decide)

end Snapshot

end KeySequenced
