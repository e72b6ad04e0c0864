import KeySequenced.Record

/-!
# The wire form in both directions

`Address.decode` and `Record.decode` succeed on the forms that `encode` writes
and on nothing else; a record is read back from the front of any byte string
that begins with its form.
-/

set_option autoImplicit false

namespace KeySequenced

theorem bind_eq_ok_iff {ε α β : Type} (first : Except ε α) (next : α → Except ε β) (result : β) :
    (first >>= next) = .ok result ↔ ∃ value, first = .ok value ∧ next value = .ok result := by
  cases first <;> simp [bind, Except.bind]

namespace LittleEndian

theorem decode_encode_word (word : UInt64) : UInt64.ofNat (decode (encode 8 word.toNat)) = word := by
  rw [decode_encode 8 word.toNat word.toNat_lt, UInt64.ofNat_toNat]

theorem encode_decode_of_length {width : Nat} (bytes : Bytes) (length : bytes.length = width) :
    encode width (decode bytes) = bytes := by
  subst length
  exact encode_decode bytes

/-- Eight bytes are the form of the word that they hold. -/
theorem encode_word_decode (bytes : Bytes) (length : bytes.length = 8) :
    encode 8 (UInt64.ofNat (decode bytes)).toNat = bytes := by
  have small := decode_lt bytes
  rw [length] at small
  rw [UInt64.toNat_ofNat_of_lt' small, encode_decode_of_length bytes length]

/-- Four bytes are the form of the half word that they hold. -/
theorem encode_half_decode (bytes : Bytes) (length : bytes.length = 4) :
    encode 4 (UInt32.ofNat (decode bytes)).toNat = bytes := by
  have small := decode_lt bytes
  rw [length] at small
  rw [UInt32.toNat_ofNat_of_lt' small, encode_decode_of_length bytes length]

end LittleEndian

namespace Address

theorem length_block (tag : UInt8) (rba rrn : UInt64) : (block tag rba rrn).length = blockSize := by
  simp [block, blockSize]

theorem decode_block (tag : UInt8) (rba rrn : UInt64) :
    decode (block tag rba rrn) = ofSlots tag.toNat rba rrn := by
  have front : (block tag rba rrn).take 1 = [tag] := by simp [block]
  have reserved : ((block tag rba rrn).drop 1).take 7 = List.replicate 7 0 := by simp [block]
  have first : ((block tag rba rrn).drop 8).take 8 = LittleEndian.encode 8 rba.toNat := by
    simp [block]
  have second : ((block tag rba rrn).drop 16).take 8 = LittleEndian.encode 8 rrn.toNat := by
    simp [block, List.take_of_length_le]
  simp only [decode, front, reserved, first, second, LittleEndian.decode_encode_word]
  simp [LittleEndian.decode]

/-- A block whose reserved bytes are zero is the block of what stands in it. -/
theorem eq_block {bytes : Bytes} (length : bytes.length = blockSize)
    (zero : ((bytes.drop 1).take 7).any (· != 0) = false) :
    ∃ tag rba rrn, bytes = block tag rba rrn := by
  obtain ⟨tag, rest, split⟩ : ∃ tag rest, bytes = tag :: rest := by
    cases bytes with
    | nil => simp [blockSize] at length
    | cons tag rest => exact ⟨tag, rest, rfl⟩
  subst split
  have restLength : rest.length = 23 := by simpa [blockSize] using length
  have reserved : rest.take 7 = List.replicate 7 0 := by
    refine List.eq_replicate_iff.mpr ⟨by simp [restLength], fun byte member => ?_⟩
    have clean := List.any_eq_false.mp zero byte (by simpa using member)
    simpa using clean
  have first := LittleEndian.encode_word_decode ((rest.drop 7).take 8) (by simp [restLength])
  have second := LittleEndian.encode_word_decode (rest.drop 15) (by simp [restLength])
  refine ⟨tag, UInt64.ofNat (LittleEndian.decode ((rest.drop 7).take 8)),
    UInt64.ofNat (LittleEndian.decode (rest.drop 15)), ?_⟩
  have pieces : rest = rest.take 7 ++ ((rest.drop 7).take 8 ++ rest.drop 15) := by
    conv => lhs; rw [← List.take_append_drop 7 rest, ← List.take_append_drop 8 (rest.drop 7)]
    simp
  unfold block
  rw [first, second, ← reserved]
  simpa using pieces

theorem block_inj {tag other : UInt8} {rba rrn place number : UInt64} :
    block tag rba rrn = block other place number ↔ tag = other ∧ rba = place ∧ rrn = number := by
  constructor
  · intro same
    have tags : tag = other := (List.cons.inj same).1
    have tails := congrArg (List.drop 8) same
    have slots : LittleEndian.encode 8 rba.toNat ++ LittleEndian.encode 8 rrn.toNat
        = LittleEndian.encode 8 place.toNat ++ LittleEndian.encode 8 number.toNat := by
      simpa [block] using tails
    obtain ⟨first, second⟩ := List.append_inj slots (by simp)
    refine ⟨tags, ?_, ?_⟩
    · rw [← LittleEndian.decode_encode_word rba, first, LittleEndian.decode_encode_word]
    · rw [← LittleEndian.decode_encode_word rrn, second, LittleEndian.decode_encode_word]
  · rintro ⟨rfl, rfl, rfl⟩
    rfl

/-- The tag and the slots name an address exactly if they are those of its block. -/
theorem ofSlots_eq_ok_iff (tag : UInt8) (rba rrn : UInt64) (address : Address) :
    ofSlots tag.toNat rba rrn = .ok address ↔ block tag rba rrn = address.encode := by
  by_cases zero : tag = 0
  · subst zero
    by_cases clean : rba = 0 ∧ rrn = 0
    · obtain ⟨rfl, rfl⟩ := clean
      cases address <;> simp [ofSlots, encode, block_inj]
    · cases address <;> simp [ofSlots, encode, block_inj, clean]
  by_cases one : tag = 1
  · subst one
    by_cases clean : rrn = 0
    · subst clean
      cases address <;> simp [ofSlots, encode, block_inj]
    · cases address <;> simp [ofSlots, encode, block_inj, clean]
  by_cases two : tag = 2
  · subst two
    by_cases clean : rba = 0
    · subst clean
      cases address <;> simp [ofSlots, encode, block_inj]
    · cases address <;> simp [ofSlots, encode, block_inj, clean]
  have notZero : tag.toNat ≠ 0 := fun same => zero (UInt8.toNat_inj.mp same)
  have notOne : tag.toNat ≠ 1 := fun same => one (UInt8.toNat_inj.mp same)
  have notTwo : tag.toNat ≠ 2 := fun same => two (UInt8.toNat_inj.mp same)
  have unknown : ofSlots tag.toNat rba rrn = .error ⟨0, .addressTag tag.toNat⟩ := by
    unfold ofSlots
    split <;> first | contradiction | rfl
  rw [unknown]
  cases address <;> simp [encode, block_inj, zero, one, two]

/-- The blocks that can be read are the blocks of addresses. -/
theorem decode_eq_ok_iff {bytes : Bytes} (length : bytes.length = blockSize) (address : Address) :
    decode bytes = .ok address ↔ bytes = address.encode := by
  cases reserved : ((bytes.drop 1).take 7).any (· != 0) with
  | false =>
    obtain ⟨tag, rba, rrn, same⟩ := eq_block length reserved
    rw [same, decode_block, ofSlots_eq_ok_iff]
  | true =>
    have refused : decode bytes = .error ⟨1, .reservedBytes⟩ := by
      unfold decode
      rw [if_pos reserved]
    have clean : ((address.encode.drop 1).take 7).any (· != 0) = false := by
      cases address <;> simp [encode, block]
    rw [refused]
    constructor
    · intro success
      cases success
    · intro same
      rw [same, clean] at reserved
      cases reserved

theorem length_encode (address : Address) : address.encode.length = blockSize := by
  cases address <;> exact length_block _ _ _

end Address

namespace Record

theorem split_eq_ok_iff (part : RecordPart) (offset count : Nat) (rest front after : Bytes) :
    split part offset rest count = .ok (front, after) ↔
      front.length = count ∧ rest = front ++ after := by
  unfold split
  by_cases short : (rest.take count).length < count
  · simp only [short, if_true]
    constructor
    · intro success
      cases success
    · rintro ⟨length, rfl⟩
      simp [← length] at short
  · simp only [short, if_false]
    constructor
    · intro success
      cases success
      simp only [List.length_take] at short ⊢
      exact ⟨by omega, (List.take_append_drop count rest).symm⟩
    · rintro ⟨rfl, rfl⟩
      simp

theorem splitLength_eq_ok_iff (part : RecordPart) (offset length : Nat) (rest after : Bytes) :
    splitLength part offset rest = .ok (length, after) ↔
      length < UInt64.size ∧ rest = LittleEndian.encode 8 length ++ after := by
  simp only [splitLength, bind_eq_ok_iff, Prod.exists, split_eq_ok_iff]
  constructor
  · rintro ⟨front, tail, ⟨eight, rfl⟩, success⟩
    cases success
    have small := LittleEndian.decode_lt front
    rw [eight] at small
    exact ⟨small, by rw [LittleEndian.encode_decode_of_length front eight]⟩
  · rintro ⟨small, rfl⟩
    refine ⟨LittleEndian.encode 8 length, after, ⟨by simp, rfl⟩, ?_⟩
    rw [LittleEndian.decode_encode 8 length small]
    rfl

/-- The limits of the wire form on the lengths of a record's parts. -/
theorem oversize?_eq_none_iff (record : Record) :
    record.oversize? = none ↔
      record.key ≠ [] ∧ record.key.length ≤ maximumKeyLength ∧
        record.data.length ≤ maximumRecordLength := by
  unfold oversize?
  by_cases blank : record.key = []
  · simp [blank]
  · by_cases long : maximumKeyLength < record.key.length
    · simp [long, Nat.not_le.mpr long]
    · by_cases large : maximumRecordLength < record.data.length
      · simp [blank, long, large]
      · simp [blank, long, large, Nat.not_lt.mp long, Nat.not_lt.mp large]

theorem length_encode (record : Record) : record.encode.length = record.encodedLength := by
  simp [encode, encodedLength, Address.length_encode]
  omega

/-- What can be read from the front of a byte string: the wire form of a record within the limits,
whatever follows it. -/
theorem decode_eq_ok_iff (bytes : Bytes) (record : Record) (used : Nat) :
    decode bytes = .ok (record, used) ↔
      record.oversize? = none ∧ record.deleted = false ∧ used = record.encodedLength ∧
        ∃ rest, bytes = record.encode ++ rest := by
  constructor
  · intro success
    simp only [decode, bind_eq_ok_iff, Prod.exists, splitLength_eq_ok_iff] at success
    obtain ⟨keyLength, afterLength, ⟨_, wholeKey⟩, success⟩ := success
    split at success
    · cases success
    rename_i keyFits
    simp only [bind_eq_ok_iff, Prod.exists, split_eq_ok_iff, splitLength_eq_ok_iff] at success
    obtain ⟨key, afterKey, ⟨keyExact, keySplit⟩, dataLength, afterCount, ⟨_, wholeData⟩,
      success⟩ := success
    split at success
    · cases success
    rename_i dataFits
    simp only [bind_eq_ok_iff, Prod.exists, split_eq_ok_iff] at success
    obtain ⟨data, afterData, ⟨dataExact, dataSplit⟩, block, rest, ⟨blockExact, blockSplit⟩,
      success⟩ := success
    cases readable : Address.decode block with
    | error damage =>
      rw [readable] at success
      cases success
    | ok address =>
      rw [readable] at success
      cases success
      have blockForm := (Address.decode_eq_ok_iff blockExact address).mp readable
      refine ⟨?_, rfl, ?_, rest, ?_⟩
      · rw [oversize?_eq_none_iff]
        simp only [live, ne_eq, ← List.length_eq_zero_iff]
        omega
      · simp only [encodedLength, live]
        omega
      · rw [wholeKey, keySplit, wholeData, dataSplit, blockSplit, blockForm]
        simp [encode, live, keyExact, dataExact]
  · rintro ⟨limits, alive, rfl, rest, rfl⟩
    obtain ⟨keyed, keyFits, dataFits⟩ := (oversize?_eq_none_iff record).mp limits
    have keyCount : record.key.length < UInt64.size :=
      Nat.lt_of_le_of_lt keyFits (by decide)
    have dataCount : record.data.length < UInt64.size :=
      Nat.lt_of_le_of_lt dataFits (by decide)
    have nonempty : ¬ (record.key.length = 0 ∨ maximumKeyLength < record.key.length) := by
      rintro (blank | long)
      · exact keyed (List.length_eq_zero_iff.mp blank)
      · omega
    have bounded : ¬ maximumRecordLength < record.data.length := Nat.not_lt.mpr dataFits
    have readable :=
      (Address.decode_eq_ok_iff (Address.length_encode record.address) record.address).mpr rfl
    simp only [decode, bind_eq_ok_iff, Prod.exists, splitLength_eq_ok_iff]
    refine ⟨record.key.length, _, ⟨keyCount, by simp only [encode, List.append_assoc]; rfl⟩, ?_⟩
    rw [if_neg nonempty]
    simp only [bind_eq_ok_iff, Prod.exists, split_eq_ok_iff, splitLength_eq_ok_iff]
    refine ⟨record.key, _, ⟨rfl, rfl⟩, record.data.length, _, ⟨dataCount, rfl⟩, ?_⟩
    rw [if_neg bounded]
    simp only [bind_eq_ok_iff, Prod.exists, split_eq_ok_iff]
    refine ⟨record.data, _, ⟨rfl, rfl⟩, record.address.encode, rest,
      ⟨Address.length_encode _, rfl⟩, ?_⟩
    have whole : live record.key record.data record.address = record := by
      rw [live, ← alive]
    have total : 16 + record.key.length + record.data.length + Address.blockSize
        = record.encodedLength := by
      simp only [encodedLength]
      omega
    simp only [readable, whole, total]
    rfl

end Record

end KeySequenced
