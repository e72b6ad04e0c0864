import KeySequenced.Proofs.Record.Offsets
import KeySequenced.Proofs.Record.Sequence

/-!
# The reader of records stays within the bytes and moves on

The reader is stated here once more, as one that stays at the whole byte string and
moves an offset over it, a machine word that is only added to where the sum is one.
It asks for stretches of the bytes and takes those that lie within.  Its answer is
the answer of the reader that drops what it has read, for byte strings of any
length and whatever lengths they announce; a length is held against its limit
before it is added to the offset, so no sum of offsets leaves the words.

A record takes 41 bytes at least, which bounds the rounds of reading record after
record.
-/

set_option autoImplicit false

namespace KeySequenced.Record

/-! ## A reader that moves an offset -/

/-- Bytes from a place on. -/
structure Stretch where
  start : UInt64
  count : UInt64

/-- The place behind the stretch, if it is a word and not behind the end. -/
def Stretch.stop? (stretch : Stretch) (bytes : Bytes) : Option UInt64 :=
  let stop := stretch.start + stretch.count
  if stop < stretch.start then none
  else if bytes.length < stop.toNat then none
  else some stop

/-- Where a reader stands, and the stretches that it has asked for and that it has taken. -/
structure Reader where
  offset : UInt64
  asked : List Stretch
  taken : List Stretch

abbrev Reading (α : Type) := ExceptT Damage (StateM Reader) α

namespace Reader

def start : Reader := ⟨0, [], []⟩

/-- The bytes that the reader has not moved over. -/
def rest (reader : Reader) (bytes : Bytes) : Bytes := bytes.drop reader.offset.toNat

def ask (reader : Reader) (count : UInt64) : Reader :=
  { reader with asked := ⟨reader.offset, count⟩ :: reader.asked }

def moveTo (reader : Reader) (count stop : UInt64) : Reader :=
  { reader.ask count with
    offset := stop
    taken := ⟨reader.offset, count⟩ :: reader.taken }

/-- Asks for the next bytes and moves behind them, if there are so many. -/
def take (bytes : Bytes) (part : RecordPart) (count : UInt64) : Reading Bytes := fun reader =>
  match Stretch.stop? ⟨reader.offset, count⟩ bytes with
  | none =>
    (.error ⟨reader.offset.toNat,
      .truncatedPart part count.toNat (bytes.length - reader.offset.toNat)⟩, reader.ask count)
  | some stop =>
    (.ok (bytes.extract reader.offset.toNat stop.toNat), reader.moveTo count stop)

def takeLength (bytes : Bytes) (part : RecordPart) : Reading UInt64 := do
  return UInt64.ofNat (LittleEndian.decode (← take bytes part 8))

/-- Reads the record at the front. -/
def decode (bytes : Bytes) : Reading (Record × Nat) := do
  let keyLength ← takeLength bytes .key
  if keyLength.toNat = 0 ∨ maximumKeyLength < keyLength.toNat then
    throw ⟨0, .keyLength keyLength.toNat⟩
  let key ← take bytes .key keyLength
  let dataOffset := (← get).offset
  let dataLength ← takeLength bytes .data
  if maximumRecordLength < dataLength.toNat then
    throw ⟨dataOffset.toNat, .recordLength dataLength.toNat maximumRecordLength⟩
  let data ← take bytes .data dataLength
  let addressOffset := (← get).offset
  let block ← take bytes .address 24
  match Address.decode block with
  | .error damage => throw (damage.shift addressOffset.toNat)
  | .ok address => return (live key data address, (← get).offset.toNat)

/-- The reader and all that it has asked for begin within the bytes, no sum of a place and a
length leaves the words, and all that has been taken ends within the bytes. -/
structure Within (bytes : Bytes) (reader : Reader) : Prop where
  offset : reader.offset.toNat ≤ bytes.length
  asked : ∀ stretch ∈ reader.asked, stretch.start.toNat ≤ bytes.length ∧
    stretch.start.toNat + stretch.count.toNat < UInt64.size
  taken : ∀ stretch ∈ reader.taken, stretch.start.toNat + stretch.count.toNat ≤ bytes.length

end Reader

/-! ## Both readers agree -/

section Agreeing

open Reader

variable {α β : Type} {bytes : Bytes} {reader : Reader}

theorem toNat_add_of_room {start count : UInt64}
    (room : start.toNat + count.toNat < UInt64.size) :
    (start + count).toNat = start.toNat + count.toNat := by
  rw [UInt64.toNat_add]
  exact Nat.mod_eq_of_lt room

theorem Stretch.stop?_eq {stretch : Stretch}
    (room : stretch.start.toNat + stretch.count.toNat < UInt64.size) :
    stretch.stop? bytes =
      if stretch.start.toNat + stretch.count.toNat ≤ bytes.length then
        some (stretch.start + stretch.count)
      else none := by
  have sum := toNat_add_of_room room
  have ascends : ¬ stretch.start + stretch.count < stretch.start := by
    rw [UInt64.lt_iff_toNat_lt, sum]
    omega
  simp only [stop?, if_neg ascends, sum]
  by_cases inside : stretch.start.toNat + stretch.count.toNat ≤ bytes.length
  · rw [if_pos inside, if_neg (Nat.not_lt.mpr inside)]
  · rw [if_neg inside, if_pos (Nat.not_le.mp inside)]

/-- Started here, the moving reader stays within the bytes and answers so. -/
def Agrees (bytes : Bytes) (reader : Reader) (reading : Reading α)
    (answer : Except Damage α) : Prop :=
  (reading.run.run reader).1 = answer ∧ (reading.run.run reader).2.Within bytes

theorem agrees_pure (within : reader.Within bytes) (value : α) :
    Agrees bytes reader (pure value) (.ok value) := ⟨rfl, within⟩

theorem agrees_throw (within : reader.Within bytes) (damage : Damage) :
    Agrees bytes reader (throw damage : Reading α) (.error damage) := ⟨rfl, within⟩

theorem agrees_get {next : Reader → Reading α} {answer : Except Damage α}
    (agrees : Agrees bytes reader (next reader) answer) :
    Agrees bytes reader (get >>= next) answer := agrees

theorem Reader.length_rest (reader : Reader) (bytes : Bytes) :
    (reader.rest bytes).length = bytes.length - reader.offset.toNat := List.length_drop

/-- What lies ahead is taken if there is enough of it. -/
theorem run_take_of_le (part : RecordPart) {count : UInt64}
    (room : reader.offset.toNat + count.toNat < UInt64.size)
    (inside : reader.offset.toNat + count.toNat ≤ bytes.length) :
    (take bytes part count).run.run reader =
      (.ok ((reader.rest bytes).take count.toNat),
        reader.moveTo count (reader.offset + count)) := by
  have stops : Stretch.stop? ⟨reader.offset, count⟩ bytes = _ := Stretch.stop?_eq room
  have front : bytes.extract reader.offset.toNat (reader.offset + count).toNat
      = (reader.rest bytes).take count.toNat := by
    rw [List.extract_eq_take_drop, toNat_add_of_room room, Nat.add_sub_cancel_left, rest]
  rw [← front]
  simp only [take, ExceptT.run, StateT.run, stops, if_pos inside]

/-- And else the reader stays where it is. -/
theorem run_take_of_lt (part : RecordPart) {count : UInt64}
    (room : reader.offset.toNat + count.toNat < UInt64.size)
    (beyond : bytes.length < reader.offset.toNat + count.toNat) :
    (take bytes part count).run.run reader =
      (.error ⟨reader.offset.toNat,
        .truncatedPart part count.toNat (bytes.length - reader.offset.toNat)⟩,
        reader.ask count) := by
  have stops : Stretch.stop? ⟨reader.offset, count⟩ bytes = _ := Stretch.stop?_eq room
  simp only [take, ExceptT.run, StateT.run, stops, if_neg (Nat.not_le.mpr beyond)]

theorem Reader.rest_moveTo {count : UInt64} (room : reader.offset.toNat + count.toNat < UInt64.size) :
    (reader.moveTo count (reader.offset + count)).rest bytes
      = (reader.rest bytes).drop count.toNat := by
  rw [rest, rest, List.drop_drop, ← toNat_add_of_room room]
  rfl

theorem Reader.Within.ask {count : UInt64} (within : reader.Within bytes)
    (room : reader.offset.toNat + count.toNat < UInt64.size) :
    (reader.ask count).Within bytes := by
  refine ⟨within.offset, ?_, within.taken⟩
  intro stretch member
  rcases List.mem_cons.mp member with rfl | earlier
  · exact ⟨within.offset, room⟩
  · exact within.asked stretch earlier

theorem Reader.Within.moveTo {count : UInt64} (within : reader.Within bytes)
    (room : reader.offset.toNat + count.toNat < UInt64.size)
    (inside : reader.offset.toNat + count.toNat ≤ bytes.length) :
    (reader.moveTo count (reader.offset + count)).Within bytes := by
  refine ⟨toNat_add_of_room room ▸ inside, (within.ask room).asked, ?_⟩
  intro stretch member
  rcases List.mem_cons.mp member with rfl | earlier
  · exact inside
  · exact within.taken stretch earlier

theorem agrees_take (part : RecordPart) (count : UInt64) {place : Nat}
    (within : reader.Within bytes) (stands : reader.offset.toNat = place)
    (room : place + count.toNat < UInt64.size)
    {next : Bytes → Reading β} {direct : Bytes × Bytes → Except Damage β}
    (onward : ∀ front (after : Reader), front.length = count.toNat → after.Within bytes →
      after.offset.toNat = place + count.toNat →
      Agrees bytes after (next front) (direct (front, after.rest bytes))) :
    Agrees bytes reader (take bytes part count >>= next)
      (split part place (reader.rest bytes) count.toNat >>= direct) := by
  subst stands
  have left := Reader.length_rest reader bytes
  rw [Agrees, ExceptT.run_bind, StateT.run_bind]
  by_cases inside : reader.offset.toNat + count.toNat ≤ bytes.length
  · have exactly : ((reader.rest bytes).take count.toNat).length = count.toNat := by
      rw [List.length_take, left]
      omega
    rw [split, if_neg (Nat.not_lt.mpr (Nat.le_of_eq exactly.symm)), run_take_of_le part room inside,
      ← rest_moveTo room]
    exact onward _ _ exactly (within.moveTo room inside) (toNat_add_of_room room)
  · have begins := within.offset
    have available : ((reader.rest bytes).take count.toNat).length
        = bytes.length - reader.offset.toNat := by
      rw [List.length_take, left]
      omega
    have short : bytes.length - reader.offset.toNat < count.toNat := by omega
    simp only [split, available, if_pos short]
    rw [run_take_of_lt part room (Nat.not_le.mp inside)]
    exact ⟨rfl, within.ask room⟩

theorem agrees_takeLength (part : RecordPart) {place : Nat} (within : reader.Within bytes)
    (stands : reader.offset.toNat = place) (room : place + 8 < UInt64.size)
    {next : UInt64 → Reading β} {direct : Nat × Bytes → Except Damage β}
    (onward : ∀ (length : UInt64) (after : Reader), after.Within bytes →
      after.offset.toNat = place + 8 →
      Agrees bytes after (next length) (direct (length.toNat, after.rest bytes))) :
    Agrees bytes reader (takeLength bytes part >>= next)
      (splitLength part place (reader.rest bytes) >>= direct) := by
  simp only [takeLength, splitLength, bind_assoc]
  refine agrees_take part 8 within stands room ?_
  intro front after exactly moved stands
  have small := LittleEndian.decode_lt front
  rw [exactly] at small
  have word : (UInt64.ofNat (LittleEndian.decode front)).toNat = LittleEndian.decode front :=
    UInt64.toNat_ofNat_of_lt' small
  have next := onward (UInt64.ofNat (LittleEndian.decode front)) after moved stands
  rw [word] at next
  exact next

theorem agrees_decode (bytes : Bytes) :
    Agrees bytes start (Reader.decode bytes) (decode bytes) := by
  have within : start.Within bytes := ⟨Nat.zero_le _, by simp [start], by simp [start]⟩
  have limits : maximumKeyLength = 255 ∧ maximumRecordLength = 32761 ∧
      UInt64.size = 18446744073709551616 := ⟨rfl, rfl, rfl⟩
  rw [Reader.decode, decode]
  have begins : start.offset.toNat = 0 := rfl
  refine agrees_takeLength .key within begins (by decide) ?_
  intro keyLength reader within stands
  by_cases outside : keyLength.toNat = 0 ∨ maximumKeyLength < keyLength.toNat
  · simp only [if_pos outside]
    exact agrees_throw within _
  simp only [if_neg outside]
  refine agrees_take .key keyLength within stands (by omega) ?_
  intro key reader _ within stands
  have dataOffset : reader.offset.toNat = 8 + keyLength.toNat := by omega
  refine agrees_get (agrees_takeLength .data within dataOffset (by omega) ?_)
  intro dataLength reader within stands
  by_cases large : maximumRecordLength < dataLength.toNat
  · simp only [if_pos large, dataOffset]
    exact agrees_throw within _
  simp only [if_neg large]
  have payload : reader.offset.toNat = 16 + keyLength.toNat := by omega
  refine agrees_take .data dataLength within payload (by omega) ?_
  intro data reader _ within addressOffset
  refine agrees_get (agrees_take .address 24 within addressOffset ?_ ?_)
  · change 16 + keyLength.toNat + dataLength.toNat + 24 < UInt64.size
    omega
  intro block reader _ within stands
  simp only [addressOffset]
  cases Address.decode block with
  | error damage => exact agrees_throw within _
  | ok address =>
    refine agrees_get ?_
    rw [stands]
    exact agrees_pure within _

end Agreeing

/-! ## Record after record -/

section Rounds

variable {bytes : Bytes} {record : Record} {used : Nat} {damage : Damage}

theorem used_within (readable : decode bytes = .ok (record, used)) :
    41 ≤ used ∧ used ≤ bytes.length := by
  obtain ⟨within, _, rfl, rest, rfl⟩ := (decode_eq_ok_iff bytes record used).mp readable
  have keyed := List.length_pos_iff.mpr ((oversize?_eq_none_iff record).mp within).1
  rw [List.length_append, record.length_encode]
  constructor
  · simp only [encodedLength, Address.blockSize]
    omega
  · exact Nat.le_add_right _ _

/-- More steps than bytes make no difference. -/
theorem go_eq_go {steps more : Nat} (enough : bytes.length < steps) (also : bytes.length < more) :
    decodeAll.go steps bytes = decodeAll.go more bytes := by
  induction steps generalizing bytes more with
  | zero => exact absurd enough (Nat.not_lt_zero _)
  | succ steps ih =>
    cases more with
    | zero => exact absurd also (Nat.not_lt_zero _)
    | succ more =>
      simp only [decodeAll.go]
      cases readable : decode bytes with
      | error damage => rfl
      | ok outcome =>
        obtain ⟨record, used⟩ := outcome
        obtain ⟨least, within⟩ := used_within readable
        have fewer : (bytes.drop used).length + 41 ≤ bytes.length := by
          rw [List.length_drop]
          omega
        have same : decodeAll.go steps (bytes.drop used) = decodeAll.go more (bytes.drop used) :=
          ih (by omega) (by omega)
        simp only [same]

theorem decodeAll_of_error (damaged : decode bytes = .error damage) :
    decodeAll bytes = [.error damage] := by
  simp only [decodeAll, decodeAll.go, damaged]

/-- After a record the loop goes on with the bytes behind it, until none are left. -/
theorem decodeAll_of_ok (readable : decode bytes = .ok (record, used)) :
    decodeAll bytes = .ok (record, used) ::
      if (bytes.drop used).isEmpty then [] else decodeAll (bytes.drop used) := by
  obtain ⟨least, within⟩ := used_within readable
  have fewer : (bytes.drop used).length < bytes.length := by
    rw [List.length_drop]
    omega
  simp only [decodeAll, decodeAll.go, readable, go_eq_go fewer (Nat.lt_succ_self _)]

theorem length_decodeAll_le (bytes : Bytes) :
    (decodeAll bytes).length ≤ bytes.length / 41 + 1 := by
  generalize size : bytes.length = length
  induction length using Nat.strongRecOn generalizing bytes with
  | ind length ih =>
    subst size
    cases readable : decode bytes with
    | error damage => simp [decodeAll_of_error readable]
    | ok outcome =>
      obtain ⟨record, used⟩ := outcome
      obtain ⟨least, within⟩ := used_within readable
      have dropped : (bytes.drop used).length = bytes.length - used := List.length_drop
      rw [decodeAll_of_ok readable, List.length_cons]
      split
      · simp
      · have others := ih _ (by omega) (bytes.drop used) dropped
        omega

end Rounds

/-- Whatever the bytes are and whatever lengths they announce, the reader of a record stays within
them: its offset and all that it takes, with no sum of offset and length beyond the words.  It
succeeds after 41 bytes at least and all bytes at most, or reports damage within the bytes.  So
reading record after record goes on to the end or the first damage, in so many rounds at most. -/
theorem decode_stays_within (bytes : Bytes) :
    let moved := (Reader.decode bytes).run.run Reader.start
    decode bytes = moved.1 ∧
    moved.2.Within bytes ∧
    ((∃ record used, decode bytes = .ok (record, used) ∧ 41 ≤ used ∧ used ≤ bytes.length) ∨
      ∃ damage, decode bytes = .error damage ∧ damage.offset ≤ bytes.length) ∧
    (∀ damage, decode bytes = .error damage → decodeAll bytes = [.error damage]) ∧
    (∀ record used, decode bytes = .ok (record, used) →
      decodeAll bytes = .ok (record, used) ::
        if (bytes.drop used).isEmpty then [] else decodeAll (bytes.drop used)) ∧
    (decodeAll bytes).length ≤ bytes.length / 41 + 1 := by
  intro moved
  obtain ⟨same, within⟩ := agrees_decode bytes
  refine ⟨same.symm, within, ?_, fun _ => decodeAll_of_error, fun _ _ => decodeAll_of_ok,
    length_decodeAll_le bytes⟩
  cases readable : decode bytes with
  | ok outcome => exact .inl ⟨outcome.1, outcome.2, rfl, used_within readable⟩
  | error damage => exact .inr ⟨damage, rfl, reportsUpTo_decode bytes damage readable⟩

end KeySequenced.Record
