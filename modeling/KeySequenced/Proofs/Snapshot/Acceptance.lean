import KeySequenced.Proofs.Snapshot.RoundTrip

/-!
# Which files are snapshots

The reader of snapshot files accepts what the writer produces and nothing else,
the eight reserved bytes of the header apart.  What it reads is the snapshot
that has been written, record for record.
-/

set_option autoImplicit false

namespace KeySequenced.Snapshot

/-- The byte strings agree everywhere but in the reserved bytes of a header. -/
structure AgreeOffReserved (bytes other : Bytes) : Prop where
  length_eq : bytes.length = other.length
  before : bytes.take 24 = other.take 24
  behind : bytes.drop 32 = other.drop 32

section Forms

variable (snapshot : Snapshot) (reserved : Bytes)

/-- The file of a snapshot with the given bytes in the place of the reserved ones. -/
def form : Bytes :=
  magic ++ LittleEndian.encode 4 version ++ LittleEndian.encode 8 snapshot.records.length
    ++ LittleEndian.encode 8 snapshot.nextRba.toNat ++ reserved ++ frames snapshot.records

theorem encode_eq_form : snapshot.encode = snapshot.form (LittleEndian.encode 8 0) := rfl

theorem length_form (exact : reserved.length = 8) :
    (snapshot.form reserved).length = 32 + (frames snapshot.records).length := by
  simp [form, magic, exact]
  omega

theorem take_form :
    (snapshot.form reserved).take 24
      = magic ++ LittleEndian.encode 4 version ++ LittleEndian.encode 8 snapshot.records.length
        ++ LittleEndian.encode 8 snapshot.nextRba.toNat := by
  rw [form, List.append_assoc (_ ++ LittleEndian.encode 8 snapshot.nextRba.toNat),
    List.take_left' (by simp [magic])]

theorem drop_form (exact : reserved.length = 8) :
    (snapshot.form reserved).drop 32 = frames snapshot.records := by
  rw [form, List.drop_left' (by simp [magic, exact])]

/-- A file that agrees with the form has the reserved bytes that stand in it. -/
theorem agreeOffReserved_form_iff (exact : reserved.length = 8) (bytes : Bytes) :
    AgreeOffReserved bytes (snapshot.form reserved) ↔
      ∃ other : Bytes, other.length = 8 ∧ bytes = snapshot.form other := by
  constructor
  · intro agree
    have length := agree.length_eq
    have before := agree.before
    have behind := agree.behind
    rw [length_form _ _ exact] at length
    rw [take_form] at before
    rw [drop_form _ _ exact] at behind
    have split := List.take_append_drop 8 (bytes.drop 24)
    rw [List.drop_drop] at split
    refine ⟨(bytes.drop 24).take 8, ?_, ?_⟩
    · simp only [List.length_take, List.length_drop]
      omega
    · rw [form, ← before, ← behind, List.append_assoc, split, List.take_append_drop]
  · intro ⟨other, otherExact, same⟩
    rw [same]
    refine ⟨?_, ?_, ?_⟩
    · rw [length_form _ _ exact, length_form _ _ otherExact]
    · rw [take_form, take_form]
    · rw [drop_form _ _ exact, drop_form _ _ otherExact]

theorem length_le_length_frames (records : List Record) :
    records.length ≤ (frames records).length := by
  induction records with
  | nil => exact Nat.le_refl _
  | cons record rest ih =>
    have long := length_frame record.encode
    simp only [frameHeaderSize] at long
    rw [frames_cons, List.length_append, List.length_cons]
    omega

end Forms

theorem mem_limits_iff (snapshot : Snapshot) :
    (∀ record ∈ snapshot.records, record.oversize? = none) ↔
      ∀ record ∈ snapshot.records,
        1 ≤ record.key.length ∧ record.key.length ≤ 255 ∧ record.data.length ≤ 32761 := by
  simp only [Record.oversize?_eq_none_iff, Nat.one_le_iff_ne_zero, ne_eq,
    List.length_eq_zero_iff, maximumKeyLength, maximumRecordLength]

theorem decode_eq_ok_iff_agree (path : String) (bytes : Bytes) (snapshot : Snapshot)
    (live : ∀ record ∈ snapshot.records, record.deleted = false)
    (short : bytes.length < UInt64.size / 2) :
    decode path bytes = .ok snapshot ↔
      (∀ record ∈ snapshot.records, record.oversize? = none) ∧
        AgreeOffReserved bytes snapshot.encode := by
  rw [decode_eq_ok_iff, encode_eq_form,
    agreeOffReserved_form_iff _ _ (LittleEndian.length_encode ..)]
  constructor
  · intro ⟨writable, _, form⟩
    exact ⟨fun record member => (writable record member).1, form⟩
  · intro ⟨limits, reserved, exact, same⟩
    refine ⟨fun record member => ⟨limits record member, live record member⟩, ?_, reserved, exact,
      same⟩
    have many := length_le_length_frames snapshot.records
    rw [same, length_form _ _ exact] at short
    simp only [UInt64.size] at short ⊢
    omega

/-- A file is loaded as a snapshot exactly if the records are within the limits and the file is,
beside its reserved bytes, the one that saving the snapshot leaves; saving tells its length, and
succeeds within the limits wherever anything can be saved. -/
theorem load_eq_ok_iff_agree (snapshot : Snapshot)
    (live : ∀ record ∈ snapshot.records, record.deleted = false) (bytes : Bytes)
    (short : bytes.length < UInt64.size / 2) (path : String) (volume : Volume)
    (stands : volume.read path = .ok bytes) :
    (load path volume = .ok snapshot ↔
      (∀ record ∈ snapshot.records,
        1 ≤ record.key.length ∧ record.key.length ≤ 255 ∧ record.data.length ≤ 32761) ∧
        AgreeOffReserved bytes snapshot.encode) ∧
    ∀ (place : String) (beside : Volume),
      (∀ size, (snapshot.save place beside).1 = .ok size →
        size = snapshot.encode.length ∧
          (snapshot.save place beside).2.read place = .ok snapshot.encode ∧
          (size < UInt64.size / 2 →
            load place (snapshot.save place beside).2 = .ok snapshot)) ∧
      ∀ (other : Snapshot) (size : Nat), (other.save place beside).1 = .ok size →
        (∀ record ∈ snapshot.records,
          1 ≤ record.key.length ∧ record.key.length ≤ 255 ∧ record.data.length ≤ 32761) →
        ∃ size, (snapshot.save place beside).1 = .ok size := by
  refine ⟨?_, ?_⟩
  · rw [load_of_read stands, decode_eq_ok_iff_agree path bytes snapshot live short,
      mem_limits_iff]
  · intro place beside
    refine ⟨?_, ?_⟩
    · intro size saved
      have readable := read_of_save saved
      obtain ⟨within, exact, _⟩ := (save_eq_ok_iff snapshot place beside _ size).mp
        (Prod.ext saved rfl)
      refine ⟨exact, readable, ?_⟩
      intro small
      rw [exact] at small
      rw [load_of_read readable, decode_eq_ok_iff_agree place _ snapshot live small]
      exact ⟨(oversize?_eq_none_iff snapshot).mp within, rfl, rfl, rfl⟩
    · intro other size saved limits
      obtain ⟨_, draft, goal, target, free, _⟩ := exists_placed_of_save saved
      have within := (oversize?_eq_none_iff snapshot).mpr ((mem_limits_iff snapshot).mpr limits)
      have written := (save_eq_ok_iff snapshot place beside _ _).mpr
        ⟨within, rfl, draft, goal, target, free, rfl⟩
      exact ⟨_, congrArg Prod.fst written⟩

/-- Two records of one key, of which neither has a byte address, in a file with reserved bytes
that no writer leaves. -/
theorem load_with_reserved_bytes :
    let snapshot : Snapshot := ⟨7, [.live [1] [] .invalid, .live [1] [2] (.rrn 3)]⟩
    let bytes := snapshot.encode.take 24 ++ List.replicate 8 9 ++ snapshot.encode.drop 32
    let volume := Volume.empty.put ["f"] (.file bytes)
    (∀ record ∈ snapshot.records, record.deleted = false) ∧ bytes.length < UInt64.size / 2 ∧
      volume.read "f" = .ok bytes ∧ load "f" volume = .ok snapshot ∧
      (snapshot.save "s" .empty).1 = .ok 131 ∧
      load "s" (snapshot.save "s" .empty).2 = .ok snapshot := by
  intro snapshot bytes volume
  have live : ∀ record ∈ snapshot.records, record.deleted = false := by decide
  have short : bytes.length < UInt64.size / 2 := by decide +kernel
  have stands : volume.read "f" = .ok bytes := by decide +kernel
  have saved : (snapshot.save "s" .empty).1 = .ok 131 := by decide +kernel
  obtain ⟨accepted, writing⟩ := load_eq_ok_iff_agree snapshot live bytes short "f" volume stands
  obtain ⟨_, _, back⟩ := (writing "s" .empty).1 131 saved
  refine ⟨live, short, stands, accepted.mpr ⟨by decide, ?_⟩, saved, back (by decide)⟩
  exact ⟨by decide +kernel, by decide +kernel, by decide +kernel⟩

end KeySequenced.Snapshot
