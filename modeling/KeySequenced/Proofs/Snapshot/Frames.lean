import KeySequenced.Proofs.Record.Wire
import KeySequenced.Snapshot.File

/-!
# Frames and files in both directions

The readers of frames and of whole files succeed on what the writers produce
and on nothing else, the reserved bytes of the header apart.
-/

set_option autoImplicit false

namespace KeySequenced

/-- What a snapshot file can hold: a record within the limits of the wire form, not erased. -/
def Record.Writable (record : Record) : Prop := record.oversize? = none ∧ record.deleted = false

namespace Snapshot

theorem length_frame (body : Bytes) : (frame body).length = frameHeaderSize + body.length := by
  simp [frame, frameHeaderSize]
  omega

/-- What has a wire form fits in a frame. -/
theorem encodedLength_lt {record : Record} (within : record.oversize? = none) :
    record.encodedLength < UInt32.size := by
  obtain ⟨_, keyFits, dataFits⟩ := (Record.oversize?_eq_none_iff record).mp within
  simp only [maximumKeyLength, maximumRecordLength] at keyFits dataFits
  simp only [Record.encodedLength, Address.blockSize, UInt32.size]
  omega

theorem accept_eq_ok_iff (offset held size : Nat) (read : Except Damage (Record × Nat))
    (record : Record) :
    accept offset held read = .ok (record, size) ↔ read = .ok (record, held) ∧ size = held := by
  cases read with
  | error damage => simp [accept]
  | ok found =>
    obtain ⟨other, used⟩ := found
    by_cases filled : used = held
    · simp [accept, filled, eq_comm]
    · simp [accept, filled]

/-- A frame is its two words and its body. -/
theorem decodeFrame_words (path : String) (offset : Nat) {size sum : Bytes} (tail : Bytes)
    (sizeExact : size.length = 4) (sumExact : sum.length = 4) :
    decodeFrame path offset (size ++ sum ++ tail) =
      if (tail.take (LittleEndian.decode size)).length < LittleEndian.decode size then
        .error (.corrupted ⟨offset, .truncatedFrame (LittleEndian.decode size)
          (tail.take (LittleEndian.decode size)).length⟩)
      else if Checksum.ofBytes (tail.take (LittleEndian.decode size))
          ≠ UInt32.ofNat (LittleEndian.decode sum) then
        .error (.checksumMismatch path (UInt32.ofNat (LittleEndian.decode sum))
          (Checksum.ofBytes (tail.take (LittleEndian.decode size))) offset)
      else
        accept offset (LittleEndian.decode size)
          (Record.decode (tail.take (LittleEndian.decode size))) := by
  have head : (size ++ sum ++ tail).take frameHeaderSize = size ++ sum := by
    rw [List.take_left' (by simp [sizeExact, sumExact, frameHeaderSize])]
  have rest : (size ++ sum ++ tail).drop frameHeaderSize = tail := by
    rw [List.drop_left' (by simp [sizeExact, sumExact, frameHeaderSize])]
  have whole : ¬ (size ++ sum).length < frameHeaderSize := by
    simp [sizeExact, sumExact, frameHeaderSize]
  have first : (size ++ sum).take 4 = size := List.take_left' sizeExact
  have second : (size ++ sum).drop 4 = sum := List.drop_left' sizeExact
  simp only [decodeFrame, head, rest, if_neg whole, first, second]

/-- Bytes that are not too short for the two words of a frame begin with them. -/
theorem exists_words {rest : Bytes}
    (headed : ¬ (rest.take frameHeaderSize).length < frameHeaderSize) :
    ∃ size sum tail : Bytes, size.length = 4 ∧ sum.length = 4 ∧ rest = size ++ sum ++ tail := by
  simp only [frameHeaderSize, List.length_take] at headed
  refine ⟨rest.take 4, (rest.drop 4).take 4, rest.drop 8, ?_, ?_, ?_⟩
  · simp
    omega
  · simp
    omega
  · have later := List.take_append_drop 4 (rest.drop 4)
    rw [List.drop_drop] at later
    rw [List.append_assoc, later, List.take_append_drop]

/-- The frames that can be read from the front are those that are written. -/
theorem decodeFrame_eq_ok_iff (path : String) (offset : Nat) (rest : Bytes) (record : Record)
    (held : Nat) :
    decodeFrame path offset rest = .ok (record, held) ↔
      record.Writable ∧ held = record.encodedLength ∧
        ∃ after, rest = frame record.encode ++ after := by
  constructor
  · intro success
    by_cases headed : (rest.take frameHeaderSize).length < frameHeaderSize
    · simp only [decodeFrame, headed, if_true] at success
      cases success
    obtain ⟨size, sum, tail, sizeExact, sumExact, rfl⟩ := exists_words headed
    rw [decodeFrame_words path offset tail sizeExact sumExact] at success
    split at success
    · cases success
    rename_i complete
    split at success
    · cases success
    rename_i agrees
    obtain ⟨readable, rfl⟩ := (accept_eq_ok_iff ..).mp success
    obtain ⟨limits, live, exactly, after, body⟩ := (Record.decode_eq_ok_iff _ _ _).mp readable
    have noRest : after = [] := by
      have lengths := congrArg List.length body
      rw [List.length_append, Record.length_encode] at lengths
      rw [List.length_take] at complete lengths
      exact List.length_eq_zero_iff.mp (by omega)
    rw [noRest, List.append_nil] at body
    refine ⟨⟨limits, live⟩, exactly, tail.drop (LittleEndian.decode size), ?_⟩
    have sizeForm : size = LittleEndian.encode 4 record.encode.length := by
      rw [Record.length_encode, ← exactly, LittleEndian.encode_decode_of_length size sizeExact]
    have sumForm : sum = LittleEndian.encode 4 (Checksum.ofBytes record.encode).toNat := by
      rw [← body, Decidable.not_not.mp agrees, LittleEndian.encode_half_decode sum sumExact]
    have split : tail = record.encode ++ tail.drop (LittleEndian.decode size) := by
      rw [← body, List.take_append_drop]
    rw [frame, ← sizeForm, ← sumForm, List.append_assoc (size ++ sum), ← split]
  · rintro ⟨writable, rfl, after, rfl⟩
    have small : record.encode.length < LittleEndian.bound 4 := by
      rw [Record.length_encode]
      exact encodedLength_lt writable.1
    have sumSmall : (Checksum.ofBytes record.encode).toNat < LittleEndian.bound 4 :=
      (Checksum.ofBytes record.encode).toNat_lt
    have body : (record.encode ++ after).take record.encode.length = record.encode :=
      List.take_left
    have readable : Record.decode record.encode = .ok (record, record.encodedLength) :=
      (Record.decode_eq_ok_iff _ _ _).mpr
        ⟨writable.1, writable.2, rfl, [], (List.append_nil _).symm⟩
    rw [frame, List.append_assoc,
      decodeFrame_words path offset _ (LittleEndian.length_encode ..)
        (LittleEndian.length_encode ..),
      LittleEndian.decode_encode 4 _ small, LittleEndian.decode_encode 4 _ sumSmall, body,
      if_neg (Nat.lt_irrefl _), UInt32.ofNat_toNat, if_neg (fun differ => differ rfl),
      accept_eq_ok_iff, Record.length_encode]
    exact ⟨readable, rfl⟩

theorem frames_cons (record : Record) (records : List Record) :
    frames (record :: records) = frame record.encode ++ frames records := rfl

theorem frames_eq_nil_iff (records : List Record) : frames records = [] ↔ records = [] := by
  cases records with
  | nil => simp [frames]
  | cons record rest =>
    have long := length_frame record.encode
    simp only [frameHeaderSize] at long
    simp only [frames_cons, ← List.length_eq_zero_iff, List.length_append, List.length_cons]
    omega

theorem decodeFrames_nil (path : String) (steps offset : Nat) (found records : List Record) :
    decodeFrames path steps offset [] found = .ok records ↔
      ∃ more, records = found.reverse ++ more ∧ (∀ record ∈ more, record.Writable) ∧
        [] = frames more := by
  have stop : decodeFrames path steps offset [] found = .ok found.reverse := by
    cases steps <;> rfl
  rw [stop]
  constructor
  · intro success
    cases success
    exact ⟨[], by simp, by simp, rfl⟩
  · rintro ⟨more, rfl, _, same⟩
    rw [(frames_eq_nil_iff more).mp same.symm, List.append_nil]

/-- With a step for every byte, reading goes on to the end of the bytes. -/
theorem decodeFrames_eq_ok_iff (path : String) (steps offset : Nat) (rest : Bytes)
    (found records : List Record) (enough : rest.length ≤ steps) :
    decodeFrames path steps offset rest found = .ok records ↔
      ∃ more, records = found.reverse ++ more ∧ (∀ record ∈ more, record.Writable) ∧
        rest = frames more := by
  induction steps generalizing offset rest found with
  | zero =>
    rw [List.length_eq_zero_iff.mp (Nat.le_zero.mp enough)]
    exact decodeFrames_nil path 0 offset found records
  | succ steps ih =>
    by_cases nothing : rest = []
    · rw [nothing]
      exact decodeFrames_nil path (steps + 1) offset found records
    have unread : rest.isEmpty = false := by simpa using nothing
    simp only [decodeFrames, unread]
    cases first : decodeFrame path offset rest with
    | error fault =>
      constructor
      · intro success
        cases success
      · rintro ⟨more, _, writable, same⟩
        cases more with
        | nil => exact absurd same nothing
        | cons record more =>
          have readable := (decodeFrame_eq_ok_iff path offset rest record _).mpr
            ⟨writable record List.mem_cons_self, rfl, frames more, same⟩
          rw [first] at readable
          cases readable
    | ok pair =>
      obtain ⟨record, held⟩ := pair
      obtain ⟨writable, heldExact, after, split⟩ :=
        (decodeFrame_eq_ok_iff path offset rest record held).mp first
      have width : (frame record.encode).length = frameHeaderSize + held := by
        rw [length_frame, Record.length_encode, heldExact]
      have remaining : rest.drop (frameHeaderSize + held) = after := by
        rw [split, List.drop_left' width]
      have fewer : after.length ≤ steps := by
        have lengths := congrArg List.length split
        rw [List.length_append, width] at lengths
        simp only [frameHeaderSize] at lengths
        omega
      simp only [remaining]
      rw [if_neg Bool.false_ne_true, ih _ after (record :: found) fewer]
      constructor
      · rintro ⟨more, rfl, writableMore, same⟩
        refine ⟨record :: more, by simp, ?_, by rw [split, same, frames_cons]⟩
        intro other member
        rcases List.mem_cons.mp member with rfl | later
        · exact writable
        · exact writableMore other later
      · rintro ⟨more, rfl, writableMore, same⟩
        cases more with
        | nil => exact absurd same nothing
        | cons other more =>
          have readable := (decodeFrame_eq_ok_iff path offset rest other _).mpr
            ⟨writableMore other List.mem_cons_self, rfl, frames more, same⟩
          rw [first] at readable
          cases readable
          refine ⟨more, by simp, fun one member => writableMore one
            (List.mem_cons_of_mem _ member), ?_⟩
          rw [split, frames_cons] at same
          exact List.append_cancel_left same

theorem conclude_eq_ok_iff (promised : Nat) (nextRba : UInt64) (read : Except Fault (List Record))
    (snapshot : Snapshot) :
    conclude promised nextRba read = .ok snapshot ↔
      read = .ok snapshot.records ∧ snapshot.records.length = promised ∧
        snapshot.nextRba = nextRba := by
  obtain ⟨next, records⟩ := snapshot
  cases read with
  | error fault => simp [conclude]
  | ok found =>
    simp only [conclude, Except.ok.injEq]
    by_cases counted : found.length = promised
    · simp only [counted, ne_eq, not_true_eq_false, if_false, Except.ok.injEq, Snapshot.mk.injEq]
      constructor
      · rintro ⟨rfl, rfl⟩
        exact ⟨rfl, counted, rfl⟩
      · rintro ⟨rfl, _, rfl⟩
        exact ⟨rfl, rfl⟩
    · simp only [if_pos counted, reduceCtorEq, false_iff, not_and]
      rintro rfl same
      exact absurd same counted

/-- A file is the five fields of its header and its frames. -/
theorem decode_fields (path : String) {first second third fourth reserved : Bytes} (tail : Bytes)
    (firstExact : first.length = 4) (secondExact : second.length = 4)
    (thirdExact : third.length = 8) (fourthExact : fourth.length = 8)
    (reservedExact : reserved.length = 8) :
    decode path (first ++ second ++ third ++ fourth ++ reserved ++ tail) =
      if first ≠ magic then .error (.corrupted ⟨0, .wrongMagic⟩)
      else if LittleEndian.decode second ≠ version then
        .error (.corrupted ⟨4, .version (LittleEndian.decode second)⟩)
      else
        conclude (LittleEndian.decode third) (UInt64.ofNat (LittleEndian.decode fourth))
          (decodeFrames path (headerSize + tail.length) headerSize tail []) := by
  have whole : first ++ second ++ third ++ fourth ++ reserved ++ tail
      = first ++ (second ++ (third ++ (fourth ++ (reserved ++ tail)))) := by
    simp only [List.append_assoc]
  have size : (first ++ second ++ third ++ fourth ++ reserved ++ tail).length
      = headerSize + tail.length := by
    simp only [List.length_append, firstExact, secondExact, thirdExact, fourthExact,
      reservedExact, headerSize]
  have long : ¬ headerSize + tail.length < headerSize := Nat.not_lt.mpr (Nat.le_add_right _ _)
  have behindFirst (more : Bytes) : (first ++ more).drop 4 = more := List.drop_left' firstExact
  have behindSecond (more : Bytes) : (first ++ (second ++ more)).drop 8 = more := by
    rw [← List.append_assoc, List.drop_left' (by simp [firstExact, secondExact])]
  have behindThird (more : Bytes) : (first ++ (second ++ (third ++ more))).drop 16 = more := by
    rw [← List.append_assoc, ← List.append_assoc,
      List.drop_left' (by simp [firstExact, secondExact, thirdExact])]
  have behindHeader : (first ++ second ++ third ++ fourth ++ reserved ++ tail).drop headerSize
      = tail := by
    rw [List.drop_left' (by
      simp [firstExact, secondExact, thirdExact, fourthExact, reservedExact, headerSize])]
  simp only [decode, behindHeader, size, if_neg long]
  rw [whole, List.take_left' firstExact, behindFirst, List.take_left' secondExact, behindSecond,
    List.take_left' thirdExact, behindThird, List.take_left' fourthExact]

theorem exists_fields {bytes : Bytes} (long : headerSize ≤ bytes.length) :
    ∃ first second third fourth reserved tail : Bytes,
      first.length = 4 ∧ second.length = 4 ∧ third.length = 8 ∧ fourth.length = 8 ∧
        reserved.length = 8 ∧ bytes = first ++ second ++ third ++ fourth ++ reserved ++ tail := by
  simp only [headerSize] at long
  refine ⟨bytes.take 4, (bytes.drop 4).take 4, (bytes.drop 8).take 8, (bytes.drop 16).take 8,
    (bytes.drop 24).take 8, bytes.drop 32, ?_, ?_, ?_, ?_, ?_, ?_⟩
  iterate 5
    · simp only [List.length_take, List.length_drop]
      omega
  · have second := List.take_append_drop 4 (bytes.drop 4)
    have third := List.take_append_drop 8 (bytes.drop 8)
    have fourth := List.take_append_drop 8 (bytes.drop 16)
    have reserved := List.take_append_drop 8 (bytes.drop 24)
    rw [List.drop_drop] at second third fourth reserved
    simp only [List.append_assoc, reserved, fourth, third, second, List.take_append_drop]

/-- The files that can be read: those that are written, with any reserved bytes. -/
theorem decode_eq_ok_iff (path : String) (bytes : Bytes) (snapshot : Snapshot) :
    decode path bytes = .ok snapshot ↔
      (∀ record ∈ snapshot.records, record.Writable) ∧ snapshot.records.length < UInt64.size ∧
        ∃ reserved : Bytes, reserved.length = 8 ∧
          bytes = magic ++ LittleEndian.encode 4 version
            ++ LittleEndian.encode 8 snapshot.records.length
            ++ LittleEndian.encode 8 snapshot.nextRba.toNat ++ reserved
            ++ frames snapshot.records := by
  constructor
  · intro success
    by_cases short : bytes.length < headerSize
    · simp only [decode, short, if_true] at success
      cases success
    obtain ⟨first, second, third, fourth, reserved, tail, firstExact, secondExact, thirdExact,
      fourthExact, reservedExact, rfl⟩ := exists_fields (Nat.not_lt.mp short)
    rw [decode_fields path tail firstExact secondExact thirdExact fourthExact reservedExact]
      at success
    split at success
    · cases success
    rename_i marked
    split at success
    · cases success
    rename_i current
    obtain ⟨readable, count, next⟩ := (conclude_eq_ok_iff ..).mp success
    obtain ⟨more, same, writable, tailForm⟩ := (decodeFrames_eq_ok_iff path _ headerSize tail []
      snapshot.records (Nat.le_add_left _ _)).mp readable
    simp only [List.reverse_nil, List.nil_append] at same
    rw [← same] at writable tailForm
    refine ⟨writable, ?_, reserved, reservedExact, ?_⟩
    · have bounded := LittleEndian.decode_lt third
      rw [thirdExact] at bounded
      rw [count]
      exact bounded
    · rw [← tailForm, count, next, LittleEndian.encode_decode_of_length third thirdExact,
        LittleEndian.encode_word_decode fourth fourthExact, ← Decidable.not_not.mp marked,
        ← Decidable.not_not.mp current, LittleEndian.encode_decode_of_length second secondExact]
  · rintro ⟨writable, few, reserved, reservedExact, rfl⟩
    have readable := (decodeFrames_eq_ok_iff path
      (headerSize + (frames snapshot.records).length) headerSize (frames snapshot.records) []
      snapshot.records (Nat.le_add_left _ _)).mpr ⟨snapshot.records, rfl, writable, rfl⟩
    rw [decode_fields path _ rfl (LittleEndian.length_encode ..) (LittleEndian.length_encode ..)
        (LittleEndian.length_encode ..) reservedExact,
      LittleEndian.decode_encode 4 version (by decide), LittleEndian.decode_encode 8 _ few,
      LittleEndian.decode_encode_word, if_neg (fun differ => differ rfl),
      if_neg (fun differ => differ rfl), conclude_eq_ok_iff]
    exact ⟨readable, rfl, rfl⟩

/-- Whatever a file holds, the records that are loaded from it are writable. -/
theorem writable_of_load {path : String} {volume : Volume} {snapshot : Snapshot}
    (success : load path volume = .ok snapshot) : ∀ record ∈ snapshot.records, record.Writable := by
  unfold load at success
  split at success
  · cases success
  · exact ((decode_eq_ok_iff _ _ _).mp success).1

end Snapshot

end KeySequenced
