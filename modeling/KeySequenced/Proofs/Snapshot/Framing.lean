import KeySequenced.Proofs.Bytes.PrefixFree
import KeySequenced.Proofs.Snapshot.Frames
import Mathlib.Data.List.Perm.Basic

/-!
# Where frames end

A frame tells its own length, so no frame begins another one and the frames of a
file can be told apart whatever they hold.  Only the header tells how many there
are: it is what keeps a file that has been cut between two frames, or lengthened
by further ones, from being read.
-/

set_option autoImplicit false

namespace KeySequenced.Snapshot

/-! ## Frames -/

section Framed

variable {bytes body : Bytes} {record : Record} {records others : List Record}

/-- A length, a checksum, and as many bytes as the length tells. -/
def Framed (bytes : Bytes) : Prop :=
  ∃ sum body : Bytes, sum.length = 4 ∧ body.length < UInt32.size ∧
    bytes = LittleEndian.encode 4 body.length ++ sum ++ body

theorem Framed.length_eq (framed : Framed bytes) :
    4 ≤ bytes.length ∧ bytes.length = frameHeaderSize + LittleEndian.decode (bytes.take 4) := by
  obtain ⟨sum, body, sumExact, small, rfl⟩ := framed
  rw [List.append_assoc, List.take_left' (LittleEndian.length_encode ..),
    LittleEndian.decode_encode 4 _ small]
  simp only [List.length_append, LittleEndian.length_encode, sumExact, frameHeaderSize]
  omega

theorem prefixFree_framed : PrefixFree Framed := by
  intro frame other framed otherFramed begins
  obtain ⟨long, exact⟩ := framed.length_eq
  obtain ⟨_, otherExact⟩ := otherFramed.length_eq
  obtain ⟨rest, rfl⟩ := begins
  rw [List.take_append_of_le_length long, ← exact] at otherExact
  exact List.IsPrefix.eq_of_length ⟨rest, rfl⟩ otherExact.symm

theorem not_framed_nil : ¬ Framed [] := by
  intro framed
  exact absurd framed.length_eq.1 (Nat.not_succ_le_zero _)

theorem framed_frame (small : body.length < UInt32.size) : Framed (frame body) :=
  ⟨LittleEndian.encode 4 (Checksum.ofBytes body).toNat, body, LittleEndian.length_encode ..,
    small, rfl⟩

theorem frames_eq_flatten (records : List Record) :
    frames records = (records.map fun record => frame record.encode).flatten := rfl

theorem framed_of_mem_map (writable : ∀ record ∈ records, record.Writable) :
    ∀ bytes ∈ records.map fun record => frame record.encode, Framed bytes := by
  intro bytes member
  obtain ⟨record, stored, rfl⟩ := List.mem_map.mp member
  refine framed_frame ?_
  rw [Record.length_encode]
  exact encodedLength_lt (writable record stored).1

/-- Bytes behind frames are frames, and none if there are no further records. -/
theorem eq_nil_of_frames_append (writable : ∀ record ∈ records, record.Writable)
    (alsoWritable : ∀ record ∈ others, record.Writable) (count : records.length = others.length)
    {rest : Bytes} (same : frames records ++ rest = frames others) : rest = [] := by
  obtain ⟨more, parts, rfl⟩ := prefixFree_framed.exists_append (framed_of_mem_map writable)
    (framed_of_mem_map alsoWritable) (by simp [count]) same
  have lengths := congrArg List.length parts
  rw [List.length_append, List.length_map, List.length_map, count] at lengths
  rw [List.length_eq_zero_iff.mp (Nat.add_eq_left.mp lengths.symm)]
  rfl

end Framed

/-! ## Headers -/

section Headers

variable {head tail rest : Bytes} {count other : Nat} {nextRba nextOther : UInt64}
  {snapshot : Snapshot}

/-- The header of a file with this number of records and this next address. -/
def Announces (head : Bytes) (count : Nat) (nextRba : UInt64) : Prop :=
  count < UInt64.size ∧ ∃ reserved : Bytes, reserved.length = 8 ∧
    head = magic ++ LittleEndian.encode 4 version ++ LittleEndian.encode 8 count
      ++ LittleEndian.encode 8 nextRba.toNat ++ reserved

theorem Announces.length_eq (announces : Announces head count nextRba) :
    head.length = headerSize := by
  obtain ⟨_, reserved, exact, rfl⟩ := announces
  simp [magic, exact, headerSize]

theorem Announces.unique (announces : Announces head count nextRba)
    (again : Announces head other nextOther) : count = other ∧ nextRba = nextOther := by
  obtain ⟨small, reserved, exact, rfl⟩ := announces
  obtain ⟨otherSmall, otherReserved, otherExact, same⟩ := again
  obtain ⟨fields, _⟩ := List.append_inj same (by simp)
  obtain ⟨front, nexts⟩ := List.append_inj fields (by simp)
  obtain ⟨_, counts⟩ := List.append_inj front (by simp)
  refine ⟨?_, ?_⟩
  · rw [← LittleEndian.decode_encode 8 count small, counts,
      LittleEndian.decode_encode 8 other otherSmall]
  · rw [← LittleEndian.decode_encode_word nextRba, nexts, LittleEndian.decode_encode_word]

/-- A file is accepted for its header and, apart from that, for the rest of it. -/
theorem decode_append_eq_ok_iff (path : String) (exact : head.length = headerSize)
    (tail : Bytes) (snapshot : Snapshot) :
    decode path (head ++ tail) = .ok snapshot ↔
      Announces head snapshot.records.length snapshot.nextRba ∧
        (∀ record ∈ snapshot.records, record.Writable) ∧ tail = frames snapshot.records := by
  rw [decode_eq_ok_iff]
  constructor
  · rintro ⟨writable, few, reserved, eight, same⟩
    obtain ⟨front, behind⟩ := List.append_inj same (by simp [exact, magic, eight, headerSize])
    exact ⟨⟨few, reserved, eight, front⟩, writable, behind⟩
  · rintro ⟨⟨few, reserved, eight, rfl⟩, writable, rfl⟩
    exact ⟨writable, few, reserved, eight, rfl⟩

theorem exists_header {path : String} {bytes : Bytes} (accepted : decode path bytes = .ok snapshot) :
    ∃ head, bytes = head ++ frames snapshot.records ∧
      Announces head snapshot.records.length snapshot.nextRba ∧
      ∀ record ∈ snapshot.records, record.Writable := by
  obtain ⟨writable, few, reserved, eight, rfl⟩ := (decode_eq_ok_iff _ _ _).mp accepted
  exact ⟨_, rfl, ⟨few, reserved, eight, rfl⟩, writable⟩

/-- With a good header the frames decide, and then their number. -/
theorem Announces.decode_eq (announces : Announces head count nextRba) (path : String)
    (tail : Bytes) :
    decode path (head ++ tail) =
      conclude count nextRba
        (decodeFrames path (headerSize + tail.length) headerSize tail []) := by
  obtain ⟨small, reserved, exact, rfl⟩ := announces
  have fields := decode_fields path tail (show magic.length = 4 from rfl)
    (LittleEndian.length_encode 4 version) (LittleEndian.length_encode 8 count)
    (LittleEndian.length_encode 8 nextRba.toNat) exact
  rw [LittleEndian.decode_encode 4 version (by decide), LittleEndian.decode_encode 8 _ small,
    LittleEndian.decode_encode_word, if_neg (fun differ => differ rfl),
    if_neg (fun differ => differ rfl)] at fields
  exact fields

end Headers

/-! ## Frames in another order -/

section Order

variable {head : Bytes} {first second : List Bytes} {snapshot : Snapshot}

/-- A file is accepted for its frames one by one, and for their number. -/
theorem decode_flatten_eq_ok_iff (path : String) (exact : head.length = headerSize)
    (framed : ∀ frame ∈ first, Framed frame) (snapshot : Snapshot) :
    decode path (head ++ first.flatten) = .ok snapshot ↔
      Announces head snapshot.records.length snapshot.nextRba ∧
        (∀ record ∈ snapshot.records, record.Writable) ∧
        first = snapshot.records.map fun record => frame record.encode := by
  rw [decode_append_eq_ok_iff path exact]
  refine and_congr_right fun _ => and_congr_right fun writable => ?_
  rw [frames_eq_flatten]
  constructor
  · exact prefixFree_framed.flatten_inj not_framed_nil framed (framed_of_mem_map writable)
  · exact congrArg List.flatten

/-- With its frames in another order a file gives the same records in another order. -/
theorem decode_of_perm {path : String} (exact : head.length = headerSize)
    (framed : ∀ frame ∈ first, Framed frame) (same : first.Perm second)
    (accepted : decode path (head ++ first.flatten) = .ok snapshot) (place : String) :
    ∃ records, records.Perm snapshot.records ∧
      decode place (head ++ second.flatten) = .ok ⟨snapshot.nextRba, records⟩ := by
  obtain ⟨announces, writable, parts⟩ :=
    (decode_flatten_eq_ok_iff path exact framed snapshot).mp accepted
  have aligned : List.Forall₂ (fun bytes record => bytes = frame record.encode) first
      snapshot.records := by
    rw [parts, List.forall₂_map_left_iff]
    exact List.forall₂_same.mpr fun record _ => rfl
  obtain ⟨records, alignedSecond, reordered⟩ := List.perm_comp_forall₂ same.symm aligned
  have partsSecond : second = records.map fun record => frame record.encode :=
    List.forall₂_eq_eq_eq ▸ List.forall₂_map_right_iff.mpr alignedSecond
  refine ⟨records, reordered, ?_⟩
  refine (decode_flatten_eq_ok_iff place exact ?_ ⟨snapshot.nextRba, records⟩).mpr
    ⟨reordered.length_eq ▸ announces, ?_, partsSecond⟩
  · exact fun frame member => framed frame (same.mem_iff.mpr member)
  · exact fun record member => writable record (reordered.mem_iff.mp member)

end Order

end KeySequenced.Snapshot
