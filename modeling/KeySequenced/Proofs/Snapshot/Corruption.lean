import KeySequenced.Proofs.Bytes.Checksum
import KeySequenced.Proofs.Snapshot.RoundTrip

/-!
# Damaged files

A snapshot file that has been changed within one of its fields is not read any
more.  A changed checksum, or a body changed within four consecutive bytes, is
told by the checksum, at the offset of its frame.  A changed length is told even
where the checksum agrees, because a record ends at one place only.
-/

set_option autoImplicit false

namespace KeySequenced

/-- A record is read from the front of bytes as one of one length, whatever follows it. -/
theorem Record.eq_encodedLength_of_decode_take {record found : Record} {rest : Bytes} {held : Nat}
    (within : record.oversize? = none)
    (readable : decode ((record.encode ++ rest).take held) = .ok (found, held)) :
    held = record.encodedLength := by
  obtain ⟨foundWithin, live, used, after, front⟩ := (decode_eq_ok_iff _ _ _).mp readable
  have whole : decode (record.encode ++ rest)
      = .ok ({ record with deleted := false }, record.encodedLength) :=
    (decode_eq_ok_iff _ _ _).mpr ⟨within, rfl, rfl, rest, rfl⟩
  have again : decode (record.encode ++ rest) = .ok (found, found.encodedLength) := by
    refine (decode_eq_ok_iff _ _ _).mpr ⟨foundWithin, live, rfl,
      after ++ (record.encode ++ rest).drop held, ?_⟩
    rw [← List.append_assoc, ← front, List.take_append_drop]
  rw [whole] at again
  rw [used]
  exact (congrArg Prod.snd (Except.ok.inj again)).symm

namespace Snapshot

/-- The other file is as long as the file and not the same, but differs only within `width` bytes
from `start` on. -/
structure Altered (file other : Bytes) (start width : Nat) : Prop where
  length_eq : other.length = file.length
  ne : other ≠ file
  before : other.take start = file.take start
  behind : other.drop (start + width) = file.drop (start + width)

theorem Altered.exists_field {file other field rest : Bytes} {start width : Nat}
    (altered : Altered file other start width) (front : Bytes)
    (split : file = front ++ field ++ rest)
    (starts : front.length = start) (wide : field.length = width) :
    ∃ changed : Bytes, changed.length = width ∧ changed ≠ field ∧
      other = front ++ changed ++ rest := by
  subst split starts wide
  have before := altered.before
  have behind := altered.behind
  have length := altered.length_eq
  rw [List.append_assoc, List.take_left] at before
  rw [← List.length_append, List.drop_left] at behind
  simp only [List.length_append] at behind length
  have middle := List.take_append_drop field.length (other.drop front.length)
  rw [List.drop_drop, behind] at middle
  have parts : other = front ++ (other.drop front.length).take field.length ++ rest := calc
    other = other.take front.length ++ other.drop front.length :=
      (List.take_append_drop ..).symm
    _ = front ++ ((other.drop front.length).take field.length ++ rest) := by rw [before, middle]
    _ = _ := (List.append_assoc ..).symm
  refine ⟨(other.drop front.length).take field.length, ?_, ?_, parts⟩
  · simp only [List.length_take, List.length_drop]
    omega
  · intro same
    rw [same] at parts
    exact altered.ne parts

/-! ## One frame -/

section Frame

variable {path : String} {offset : Nat} {record : Record} {body sum size rest : Bytes}

theorem decodeFrame_of_checksum (path : String) (offset : Nat) (rest : Bytes)
    (small : body.length < UInt32.size) (sumExact : sum.length = 4)
    (differ : sum ≠ LittleEndian.encode 4 (Checksum.ofBytes body).toNat) :
    decodeFrame path offset (LittleEndian.encode 4 body.length ++ sum ++ (body ++ rest))
      = .error (.checksumMismatch path (UInt32.ofNat (LittleEndian.decode sum))
          (Checksum.ofBytes body) offset) := by
  have held : LittleEndian.decode (LittleEndian.encode 4 body.length) = body.length :=
    LittleEndian.decode_encode 4 _ small
  have mismatch : Checksum.ofBytes body ≠ UInt32.ofNat (LittleEndian.decode sum) := by
    intro same
    rw [same, LittleEndian.encode_half_decode sum sumExact] at differ
    exact differ rfl
  rw [decodeFrame_words path offset _ (LittleEndian.length_encode ..) sumExact, held,
    List.take_left, if_neg (Nat.lt_irrefl _), if_pos mismatch]

/-- A frame with a length that is not that of its record, whatever its checksum. -/
theorem decodeFrame_of_length (path : String) (offset : Nat) (rest : Bytes)
    (within : record.oversize? = none) (sizeExact : size.length = 4) (sumExact : sum.length = 4)
    (differ : size ≠ LittleEndian.encode 4 record.encode.length) :
    ∃ fault, decodeFrame path offset (size ++ sum ++ (record.encode ++ rest)) = .error fault := by
  rw [decodeFrame_words path offset _ sizeExact sumExact]
  split
  · exact ⟨_, rfl⟩
  split
  · exact ⟨_, rfl⟩
  -- The checksum agrees by chance.  The record ends where it did, so it does not fill the frame.
  cases accepted : accept offset (LittleEndian.decode size)
      (Record.decode ((record.encode ++ rest).take (LittleEndian.decode size))) with
  | error fault => exact ⟨fault, rfl⟩
  | ok read =>
    obtain ⟨found, held⟩ := read
    obtain ⟨readable, rfl⟩ := (accept_eq_ok_iff ..).mp accepted
    have exactly := Record.eq_encodedLength_of_decode_take within readable
    rw [Record.length_encode, ← exactly,
      LittleEndian.encode_decode_of_length size sizeExact] at differ
    exact absurd rfl differ

end Frame

/-! ## The frames before -/

section Frames

variable (path : String)

theorem decodeFrame_encode (offset : Nat) {record : Record} (within : record.oversize? = none)
    (rest : Bytes) :
    decodeFrame path offset (frame record.encode ++ rest)
      = .ok ({ record with deleted := false }, record.encodedLength) :=
  (decodeFrame_eq_ok_iff _ _ _ _ _).mpr ⟨⟨within, rfl⟩, rfl, rest, rfl⟩

theorem decodeFrames_append (before : List Record)
    (within : ∀ record ∈ before, record.oversize? = none) (rest : Bytes) (steps offset : Nat)
    (found : List Record) (enough : (frames before ++ rest).length ≤ steps) :
    ∃ remaining passed, rest.length ≤ remaining ∧ passed.length = before.length + found.length ∧
      decodeFrames path steps offset (frames before ++ rest) found
        = decodeFrames path remaining (offset + (frames before).length) rest passed := by
  induction before generalizing steps offset found with
  | nil => exact ⟨steps, found, enough, by simp, rfl⟩
  | cons record before ih =>
    have width := length_frame record.encode
    rw [Record.length_encode] at width
    rw [frames_cons, List.append_assoc] at enough ⊢
    have lengths := enough
    rw [List.length_append, width, frameHeaderSize] at lengths
    cases steps with
    | zero => omega
    | succ steps =>
      obtain ⟨remaining, passed, left, count, same⟩ :=
        ih (fun other member => within other (List.mem_cons_of_mem _ member)) steps
          (offset + frameHeaderSize + record.encodedLength)
          ({ record with deleted := false } :: found) (by omega)
      have unread : (frame record.encode ++ (frames before ++ rest)).isEmpty = false := by
        rw [List.isEmpty_eq_false_iff, ← List.length_pos_iff, List.length_append, width,
          frameHeaderSize]
        omega
      refine ⟨remaining, passed, left, ?_, ?_⟩
      · rw [count, List.length_cons, List.length_cons]
        omega
      · rw [decodeFrames, if_neg (by simp [unread]),
          decodeFrame_encode path offset (within record List.mem_cons_self)]
        simp only
        rw [List.drop_left' width, same, List.length_append, width]
        simp only [Nat.add_assoc]

theorem decodeFrames_of_decodeFrame (before : List Record)
    (within : ∀ record ∈ before, record.oversize? = none) {rest : Bytes} (something : rest ≠ [])
    {offset : Nat} {fault : Fault}
    (failed : decodeFrame path (offset + (frames before).length) rest = .error fault)
    {steps : Nat} (enough : (frames before ++ rest).length ≤ steps) (found : List Record) :
    decodeFrames path steps offset (frames before ++ rest) found = .error fault := by
  obtain ⟨remaining, passed, left, _, same⟩ :=
    decodeFrames_append path before within rest steps offset found enough
  rw [same]
  cases remaining with
  | zero => exact absurd (List.length_eq_zero_iff.mp (Nat.le_zero.mp left)) something
  | succ remaining =>
    have unread : ¬ rest.isEmpty = true := by simpa using something
    rw [decodeFrames, if_neg unread, failed]

/-- A frame that cannot be read ends the reading of the file. -/
theorem decode_of_decodeFrame (count : Nat) (nextRba : UInt64) (before : List Record)
    (within : ∀ record ∈ before, record.oversize? = none) {rest : Bytes} (something : rest ≠ [])
    {fault : Fault}
    (failed : decodeFrame path (headerSize + (frames before).length) rest = .error fault) :
    decode path (header count nextRba ++ frames before ++ rest) = .error fault := by
  have stopped := decodeFrames_of_decodeFrame path before within something failed
    (Nat.le_add_left _ headerSize) []
  rw [header, List.append_assoc _ (frames before),
    decode_fields path _ rfl (LittleEndian.length_encode ..) (LittleEndian.length_encode ..)
      (LittleEndian.length_encode ..) (LittleEndian.length_encode ..), stopped,
    LittleEndian.decode_encode 4 version (by decide), if_neg (fun differ => differ rfl),
    if_neg (fun differ => differ rfl)]
  rfl

/-- A file of written frames whose magic, version or count is not the one that is written. -/
theorem decode_of_header {records : List Record}
    (within : ∀ record ∈ records, record.oversize? = none)
    {first second third fourth reserved : Bytes} (firstExact : first.length = 4)
    (secondExact : second.length = 4) (thirdExact : third.length = 8)
    (fourthExact : fourth.length = 8) (reservedExact : reserved.length = 8)
    (differ : first ≠ magic ∨ second ≠ LittleEndian.encode 4 version ∨
      third ≠ LittleEndian.encode 8 records.length) :
    ∃ fault, decode path (first ++ second ++ third ++ fourth ++ reserved ++ frames records)
      = .error fault := by
  obtain ⟨remaining, passed, _, count, same⟩ := decodeFrames_append path records within []
    (headerSize + (frames records).length) headerSize [] (by simp)
  have readable : decodeFrames path (headerSize + (frames records).length) headerSize
      (frames records) [] = .ok passed.reverse := by
    rw [List.append_nil] at same
    rw [same]
    cases remaining <;> rfl
  rw [decode_fields path _ firstExact secondExact thirdExact fourthExact reservedExact, readable]
  split
  · exact ⟨_, rfl⟩
  rename_i marked
  split
  · exact ⟨_, rfl⟩
  rename_i current
  simp only [conclude]
  split
  · exact ⟨_, rfl⟩
  rename_i promised
  -- All three fields would be those of the writer.
  have number : records.length = LittleEndian.decode third := by
    rw [← Decidable.not_not.mp promised, List.length_reverse, count, List.length_nil, Nat.add_zero]
  rcases differ with unmarked | outdated | miscounted
  · exact absurd (Decidable.not_not.mp marked) unmarked
  · rw [← Decidable.not_not.mp current,
      LittleEndian.encode_decode_of_length second secondExact] at outdated
    exact absurd rfl outdated
  · rw [number, LittleEndian.encode_decode_of_length third thirdExact] at miscounted
    exact absurd rfl miscounted

end Frames

/-! ## One changed field -/

section Fields

variable {snapshot : Snapshot} {other : Bytes} {before after : List Record} {record : Record}

/-- Where the frame behind these records begins in a file. -/
def frameOffset (before : List Record) : Nat := headerSize + (frames before).length

theorem length_header (count : Nat) (nextRba : UInt64) :
    (header count nextRba).length = headerSize := by
  simp [header, magic, headerSize]

theorem length_header_append (count : Nat) (nextRba : UInt64) (before : List Record) :
    (header count nextRba ++ frames before).length = frameOffset before := by
  rw [List.length_append, length_header, frameOffset]

/-- A file up to a frame, the length, the checksum and the body of it, and the frames behind. -/
theorem encode_eq_append (parts : snapshot.records = before ++ record :: after) :
    snapshot.encode
      = header snapshot.records.length snapshot.nextRba ++ frames before
        ++ (LittleEndian.encode 4 record.encode.length
          ++ LittleEndian.encode 4 (Checksum.ofBytes record.encode).toNat
          ++ (record.encode ++ frames after)) := by
  have pieces : frames snapshot.records = frames before ++ (frame record.encode ++ frames after) := by
    rw [parts, frames, List.flatMap_append]
    rfl
  rw [encode, pieces, frame]
  simp only [List.append_assoc]

theorem decode_of_altered_header (path : String)
    (within : ∀ record ∈ snapshot.records, record.oversize? = none)
    (altered : Altered snapshot.encode other 0 4 ∨ Altered snapshot.encode other 4 4 ∨
      Altered snapshot.encode other 8 8) :
    ∃ fault, decode path other = .error fault := by
  have whole : snapshot.encode
      = magic ++ LittleEndian.encode 4 version ++ LittleEndian.encode 8 snapshot.records.length
        ++ LittleEndian.encode 8 snapshot.nextRba.toNat ++ LittleEndian.encode 8 0
        ++ frames snapshot.records := rfl
  simp only [List.append_assoc] at whole
  have readable := @decode_of_header path snapshot.records within
  simp only [List.append_assoc] at readable
  rcases altered with mark | number | count
  · obtain ⟨changed, exact, differ, rfl⟩ :=
      mark.exists_field [] (by rw [List.nil_append]; exact whole) rfl rfl
    exact readable exact (LittleEndian.length_encode ..) (LittleEndian.length_encode ..)
      (LittleEndian.length_encode ..) (LittleEndian.length_encode ..) (.inl differ)
  · obtain ⟨changed, exact, differ, rfl⟩ :=
      number.exists_field magic (by rw [List.append_assoc]; exact whole) rfl
        (LittleEndian.length_encode ..)
    rw [List.append_assoc]
    exact readable rfl exact (LittleEndian.length_encode ..) (LittleEndian.length_encode ..)
      (LittleEndian.length_encode ..) (.inr (.inl differ))
  · obtain ⟨changed, exact, differ, rfl⟩ :=
      count.exists_field (magic ++ LittleEndian.encode 4 version)
        (by simp only [List.append_assoc]; exact whole) (by simp [magic])
        (LittleEndian.length_encode ..)
    simp only [List.append_assoc]
    exact readable rfl (LittleEndian.length_encode ..) exact (LittleEndian.length_encode ..)
      (LittleEndian.length_encode ..) (.inr (.inr differ))

section Frame

variable (path : String) (within : ∀ record ∈ snapshot.records, record.oversize? = none)
  (parts : snapshot.records = before ++ record :: after)

include within parts

theorem decode_of_altered_length (altered : Altered snapshot.encode other (frameOffset before) 4) :
    ∃ fault, decode path other = .error fault := by
  have split := encode_eq_append parts
  rw [List.append_assoc (LittleEndian.encode 4 record.encode.length), ← List.append_assoc] at split
  obtain ⟨changed, exact, differ, rfl⟩ := altered.exists_field _ split (length_header_append ..)
    (LittleEndian.length_encode ..)
  obtain ⟨fault, failed⟩ := decodeFrame_of_length path (frameOffset before) (frames after)
    (within record (by simp [parts])) exact (LittleEndian.length_encode 4 _) differ
  refine ⟨fault, ?_⟩
  rw [List.append_assoc _ changed, ← List.append_assoc changed]
  refine decode_of_decodeFrame path _ _ before ?_ ?_ failed
  · exact fun other member => within other (by simp [parts, member])
  · simp [← List.length_eq_zero_iff, exact]

/-- Bytes that stand in the place of a frame with the length of its record but another checksum
than their own. -/
theorem decode_of_checksum (body : Bytes) {sum : Bytes} (long : body.length = record.encode.length)
    (sumExact : sum.length = 4)
    (differ : sum ≠ LittleEndian.encode 4 (Checksum.ofBytes body).toNat) :
    ∃ expected actual,
      decode path (header snapshot.records.length snapshot.nextRba ++ frames before
          ++ (LittleEndian.encode 4 record.encode.length ++ sum ++ (body ++ frames after)))
        = .error (.checksumMismatch path expected actual (frameOffset before)) := by
  have small : body.length < UInt32.size := by
    rw [long, Record.length_encode]
    exact encodedLength_lt (within record (by simp [parts]))
  have failed := decodeFrame_of_checksum path (frameOffset before) (frames after) small sumExact
    differ
  rw [long] at failed
  refine ⟨_, _, decode_of_decodeFrame path _ _ before ?_ ?_ failed⟩
  · exact fun other member => within other (by simp [parts, member])
  · simp [← List.length_eq_zero_iff, sumExact]

theorem decode_of_altered_checksum
    (altered : Altered snapshot.encode other (frameOffset before + 4) 4) :
    ∃ expected actual, decode path other
      = .error (.checksumMismatch path expected actual (frameOffset before)) := by
  have split : snapshot.encode
      = header snapshot.records.length snapshot.nextRba ++ frames before
          ++ LittleEndian.encode 4 record.encode.length
        ++ LittleEndian.encode 4 (Checksum.ofBytes record.encode).toNat
        ++ (record.encode ++ frames after) := by
    rw [encode_eq_append parts]
    simp only [List.append_assoc]
  obtain ⟨changed, exact, differ, rfl⟩ := altered.exists_field _ split
    (by rw [List.length_append, length_header_append, LittleEndian.length_encode])
    (LittleEndian.length_encode ..)
  have mismatch := decode_of_checksum path within parts _ rfl exact differ
  simpa only [List.append_assoc] using mismatch

theorem decode_of_altered_body {start width : Nat} (inside : frameOffset before + 8 ≤ start)
    (ends : start + width ≤ frameOffset before + 8 + record.encodedLength) (short : width ≤ 4)
    (altered : Altered snapshot.encode other start width) :
    ∃ expected actual, decode path other
      = .error (.checksumMismatch path expected actual (frameOffset before)) := by
  obtain ⟨place, rfl⟩ := Nat.exists_eq_add_of_le inside
  have long := record.length_encode
  have room : place + width ≤ record.encode.length := by omega
  -- The body is the bytes before the window, the window and the bytes behind it.
  obtain ⟨front, window, rest, body, starts, wide⟩ : ∃ front window rest,
      record.encode = front ++ window ++ rest ∧ front.length = place ∧ window.length = width := by
    refine ⟨record.encode.take place, (record.encode.drop place).take width,
      record.encode.drop (place + width), ?_, ?_, ?_⟩
    · rw [List.append_assoc, ← List.drop_drop, List.take_append_drop, List.take_append_drop]
    · rw [List.length_take]
      omega
    · rw [List.length_take, List.length_drop]
      omega
  have split : snapshot.encode
      = header snapshot.records.length snapshot.nextRba ++ frames before
          ++ (LittleEndian.encode 4 record.encode.length
            ++ LittleEndian.encode 4 (Checksum.ofBytes record.encode).toNat ++ front)
        ++ window ++ (rest ++ frames after) := by
    have behind : record.encode ++ frames after = front ++ window ++ rest ++ frames after := by
      rw [← body]
    rw [encode_eq_append parts, behind]
    simp only [List.append_assoc]
  obtain ⟨changed, exact, differ, rfl⟩ := altered.exists_field _ split
    (by
      rw [List.length_append, length_header_append, List.length_append, List.length_append,
        LittleEndian.length_encode, LittleEndian.length_encode, starts]
      omega)
    wide
  have sumDiffers : LittleEndian.encode 4 (Checksum.ofBytes record.encode).toNat
      ≠ LittleEndian.encode 4 (Checksum.ofBytes (front ++ changed ++ rest)).toNat := by
    intro same
    have sums := congrArg LittleEndian.decode same
    rw [LittleEndian.decode_encode 4 _ (UInt32.toNat_lt _),
      LittleEndian.decode_encode 4 _ (UInt32.toNat_lt _), body] at sums
    exact Checksum.ofBytes_ne_of_window front window changed rest (wide.trans exact.symm)
      (wide ▸ short) differ.symm (UInt32.toNat_inj.mp sums)
  have mismatch := decode_of_checksum path within parts (front ++ changed ++ rest)
    (by rw [body]; simp only [List.length_append, exact, wide])
    (LittleEndian.length_encode ..) sumDiffers
  simpa only [List.append_assoc] using mismatch

end Frame

end Fields

/-! ## Every guarded field -/

/-- The fields of a snapshot file in which no change goes unnoticed, by where they begin and how
many bytes they have.  Where the checksum tells the change, `frame` is the offset of its frame. -/
inductive Guarded (snapshot : Snapshot) : (start width : Nat) → (frame : Option Nat) → Prop
  | magic : Guarded snapshot 0 4 none
  | version : Guarded snapshot 4 4 none
  | count : Guarded snapshot 8 8 none
  | length {before after : List Record} {record : Record}
      (parts : snapshot.records = before ++ record :: after) :
      Guarded snapshot (frameOffset before) 4 none
  | checksum {before after : List Record} {record : Record}
      (parts : snapshot.records = before ++ record :: after) :
      Guarded snapshot (frameOffset before + 4) 4 (some (frameOffset before))
  /-- A window in a body, of at most four bytes. -/
  | body {before after : List Record} {record : Record} {start width : Nat}
      (parts : snapshot.records = before ++ record :: after)
      (inside : frameOffset before + 8 ≤ start)
      (ends : start + width ≤ frameOffset before + 8 + record.encodedLength)
      (short : width ≤ 4) :
      Guarded snapshot start width (some (frameOffset before))

theorem decode_of_altered {snapshot : Snapshot} {start width : Nat} {frame : Option Nat}
    {other : Bytes} (path : String)
    (within : ∀ record ∈ snapshot.records, record.oversize? = none)
    (field : Guarded snapshot start width frame)
    (altered : Altered snapshot.encode other start width) :
    ∃ fault, decode path other = .error fault ∧
      ∀ offset ∈ frame, ∃ expected actual,
        fault = .checksumMismatch path expected actual offset := by
  cases field with
  | magic =>
    obtain ⟨fault, failed⟩ := decode_of_altered_header path within (.inl altered)
    exact ⟨fault, failed, by simp⟩
  | version =>
    obtain ⟨fault, failed⟩ := decode_of_altered_header path within (.inr (.inl altered))
    exact ⟨fault, failed, by simp⟩
  | count =>
    obtain ⟨fault, failed⟩ := decode_of_altered_header path within (.inr (.inr altered))
    exact ⟨fault, failed, by simp⟩
  | length parts =>
    obtain ⟨fault, failed⟩ := decode_of_altered_length path within parts altered
    exact ⟨fault, failed, by simp⟩
  | checksum parts =>
    obtain ⟨expected, actual, failed⟩ := decode_of_altered_checksum path within parts altered
    exact ⟨_, failed, by simp⟩
  | body parts inside ends short =>
    obtain ⟨expected, actual, failed⟩ :=
      decode_of_altered_body path within parts inside ends short altered
    exact ⟨_, failed, by simp⟩

/-- A saved file that is changed within one guarded field, and nowhere else, is not loaded.  A
change of a checksum or of a body is reported as a mismatch at the offset of its frame. -/
theorem load_of_altered {snapshot : Snapshot} {place : String} {beside : Volume} {size : Nat}
    {file : Bytes} (saved : (snapshot.save place beside).1 = .ok size)
    (written : (snapshot.save place beside).2.read place = .ok file)
    {start width : Nat} {frame : Option Nat} (field : Guarded snapshot start width frame)
    {other : Bytes} (altered : Altered file other start width)
    {path : String} {volume : Volume} (stands : volume.read path = .ok other) :
    ∃ fault, load path volume = .error fault ∧
      ∀ offset ∈ frame, ∃ expected actual,
        fault = .checksumMismatch path expected actual offset := by
  have within := (oversize?_eq_none_iff snapshot).mp (exists_placed_of_save saved).1
  have same : snapshot.encode = file := Except.ok.inj ((read_of_save saved).symm.trans written)
  rw [load_of_read stands]
  exact decode_of_altered path within field (same ▸ altered)

/-- Four bytes of the second of two records, from its payload on. -/
theorem load_with_altered_body :
    let first : Record := .live [1] [] (.rba 0)
    let second : Record := .live [2] [7, 7] (.rba 1)
    let snapshot : Snapshot := ⟨4, [first, second]⟩
    let file := snapshot.encode
    let other := file.take 106 ++ [1, 2, 3, 4] ++ file.drop 110
    (snapshot.save "s" .empty).1 = .ok 132 ∧
      (snapshot.save "s" .empty).2.read "s" = .ok file ∧
      Guarded snapshot 106 4 (some 81) ∧ Altered file other 106 4 ∧
      ∃ fault, load "f" (Volume.empty.put ["f"] (.file other)) = .error fault ∧
        ∀ offset ∈ some 81, ∃ expected actual,
          fault = .checksumMismatch "f" expected actual offset := by
  intro first second snapshot file other
  have saved : (snapshot.save "s" .empty).1 = .ok 132 := by decide +kernel
  have written : (snapshot.save "s" .empty).2.read "s" = .ok file := by decide +kernel
  have field : Guarded snapshot 106 4 (some 81) :=
    @Guarded.body snapshot [first] [] second 106 4 rfl (by decide +kernel) (by decide +kernel)
      (by decide)
  have altered : Altered file other 106 4 :=
    ⟨by decide +kernel, by decide +kernel, by decide +kernel, by decide +kernel⟩
  exact ⟨saved, written, field, altered,
    load_of_altered saved written field altered (by decide +kernel)⟩

end Snapshot

end KeySequenced
