import KeySequenced.Proofs.Bytes.PrefixFree
import KeySequenced.Proofs.Record.Wire

/-!
# Records one after the other

The wire forms of records need no marks between them.  What can be read at the
front of a byte string is the form that stands there, whatever follows it, and
no form begins another one.  So forms that are put one behind the other are read
back, record by record, as the records that they were made of.
-/

set_option autoImplicit false

namespace KeySequenced.Record

/-! ## One record -/

section Forms

variable {record other : Record} {bytes form : Bytes} {used : Nat}

theorem encode?_eq_ok_iff (record : Record) (form : Bytes) :
    record.encode? = .ok form ↔ record.oversize? = none ∧ form = record.encode := by
  unfold encode?
  cases record.oversize? with
  | none => simp [eq_comm]
  | some refusal => simp

/-- What is read is what stands in the bytes that it takes. -/
theorem decode_eq_ok_iff_take (bytes : Bytes) (record : Record) (used : Nat) :
    decode bytes = .ok (record, used) ↔
      record.deleted = false ∧ used = record.encodedLength ∧
        record.encode? = .ok (bytes.take used) := by
  rw [decode_eq_ok_iff, encode?_eq_ok_iff]
  constructor
  · rintro ⟨within, live, rfl, rest, rfl⟩
    exact ⟨live, rfl, within, List.take_left' record.length_encode⟩
  · rintro ⟨live, rfl, within, front⟩
    exact ⟨within, live, rfl, bytes.drop record.encodedLength,
      by rw [← front, List.take_append_drop]⟩

/-- The records that have a wire form. -/
theorem exists_encode?_iff (record : Record) :
    (∃ form, record.encode? = .ok form) ↔
      1 ≤ record.key.length ∧ record.key.length ≤ 255 ∧ record.data.length ≤ 32761 := by
  simp only [encode?_eq_ok_iff, exists_and_left, exists_eq, and_true, oversize?_eq_none_iff,
    Nat.one_le_iff_ne_zero, ne_eq, List.length_eq_zero_iff, maximumKeyLength, maximumRecordLength]

theorem used_pos (readable : decode bytes = .ok (record, used)) : 0 < used := by
  obtain ⟨_, rfl, _⟩ := (decode_eq_ok_iff_take bytes record used).mp readable
  simp only [encodedLength]
  omega

/-- The wire forms of records. -/
def Form (form : Bytes) : Prop := ∃ record : Record, record.encode? = .ok form

theorem prefixFree_form : PrefixFree Form := by
  rintro _ _ ⟨record, encoded⟩ ⟨other, otherEncoded⟩ ⟨rest, same⟩
  obtain ⟨within, rfl⟩ := (encode?_eq_ok_iff record _).mp encoded
  obtain ⟨otherWithin, rfl⟩ := (encode?_eq_ok_iff other _).mp otherEncoded
  -- Both forms are read at the front of the longer one.
  have first : decode other.encode
      = .ok ({ record with deleted := false }, record.encodedLength) :=
    (decode_eq_ok_iff _ _ _).mpr ⟨within, rfl, rfl, rest, same.symm⟩
  have second : decode other.encode
      = .ok ({ other with deleted := false }, other.encodedLength) :=
    (decode_eq_ok_iff _ _ _).mpr ⟨otherWithin, rfl, rfl, [], (List.append_nil _).symm⟩
  have equal := congrArg (fun read => read.1.encode) (Except.ok.inj (first.symm.trans second))
  exact equal

end Forms

/-! ## Many records -/

/-- Reading a record at the front, and the others behind it, until nothing is left. -/
inductive Reads : Bytes → List Record → Prop where
  | done : Reads [] []
  | next {bytes : Bytes} {record : Record} {used : Nat} {records : List Record}
      (front : decode bytes = .ok (record, used)) (behind : Reads (bytes.drop used) records) :
      Reads bytes (record :: records)

section Sequences

variable {bytes : Bytes} {first second records : List Record}

theorem Reads.unique (reads : Reads bytes first) (again : Reads bytes second) : second = first := by
  induction reads generalizing second with
  | done =>
    cases again with
    | done => rfl
    | next front =>
      cases front
  | next front behind ih =>
    cases again with
    | done =>
      cases front
    | next frontAgain behindAgain =>
      cases front.symm.trans frontAgain
      rw [ih behindAgain]

theorem mapM_encode?_cons {record : Record} {forms : List Bytes} :
    (record :: records).mapM encode? = .ok forms ↔
      ∃ form others, record.encode? = .ok form ∧ records.mapM encode? = .ok others ∧
        forms = form :: others := by
  rw [List.mapM_cons, bind_eq_ok_iff]
  simp only [bind_eq_ok_iff]
  constructor
  · rintro ⟨form, encoded, others, later, same⟩
    cases same
    exact ⟨form, others, encoded, later, rfl⟩
  · rintro ⟨form, others, encoded, later, rfl⟩
    exact ⟨form, encoded, others, later, rfl⟩

/-- The forms of records are read as the records. -/
theorem reads_flatten {forms : List Bytes} (live : ∀ record ∈ records, record.deleted = false)
    (encoded : records.mapM encode? = .ok forms) : Reads forms.flatten records := by
  induction records generalizing forms with
  | nil =>
    cases encoded
    exact .done
  | cons record records ih =>
    obtain ⟨form, others, formed, later, rfl⟩ := mapM_encode?_cons.mp encoded
    obtain ⟨liveFirst, liveLater⟩ := List.forall_mem_cons.mp live
    have long : form.length = record.encodedLength := by
      rw [((encode?_eq_ok_iff record form).mp formed).2, length_encode]
    have front : decode (form :: others).flatten = .ok (record, record.encodedLength) := by
      refine (decode_eq_ok_iff_take _ _ _).mpr ⟨liveFirst, rfl, ?_⟩
      rw [List.flatten_cons, List.take_left' long]
      exact formed
    refine .next front ?_
    rw [List.flatten_cons, List.drop_left' long]
    exact ih liveLater later

theorem Reads.eq_nil_iff (reads : Reads bytes records) : bytes = [] ↔ records = [] := by
  cases reads with
  | done => simp
  | next front =>
    refine ⟨?_, by simp⟩
    rintro rfl
    cases front

/-- With a step for every byte, reading goes on until nothing is left. -/
theorem go_of_reads {steps : Nat} (enough : bytes.length < steps) (unread : records ≠ [])
    (reads : Reads bytes records) :
    decodeAll.go steps bytes = records.map fun record => .ok (record, record.encodedLength) := by
  induction steps generalizing bytes records with
  | zero => exact absurd enough (Nat.not_lt_zero _)
  | succ steps ih =>
    cases reads with
    | done => exact absurd rfl unread
    | @next _ record used records front behind =>
      obtain ⟨_, exactly, _⟩ := (decode_eq_ok_iff_take _ _ _).mp front
      simp only [decodeAll.go, front, List.map_cons, exactly, List.cons.injEq, true_and]
      rw [← exactly]
      by_cases nothing : bytes.drop used = []
      · rw [behind.eq_nil_iff.mp nothing, nothing]
        rfl
      · have more : records ≠ [] := fun none => nothing (behind.eq_nil_iff.mpr none)
        have fewer : (bytes.drop used).length < steps := by
          have positive := used_pos front
          have long := List.length_pos_iff.mpr nothing
          rw [List.length_drop] at long ⊢
          omega
        rw [if_neg (by simpa using nothing)]
        exact ih fewer more behind

theorem decodeAll_of_reads (unread : records ≠ []) (reads : Reads bytes records) :
    decodeAll bytes = records.map fun record => .ok (record, record.encodedLength) :=
  go_of_reads (Nat.lt_succ_self _) unread reads

end Sequences

/-- A record is read exactly where its wire form stands, with the length of that form, whatever
follows it.  No form begins another one, and forms that are put one behind the other are read as
the records that they were made of, and as no others. -/
theorem decode_accepts_forms :
    (∀ record : Record, (∃ form, record.encode? = .ok form) ↔
      1 ≤ record.key.length ∧ record.key.length ≤ 255 ∧ record.data.length ≤ 32761) ∧
    (∀ (bytes : Bytes) (record : Record) (used : Nat),
      decode bytes = .ok (record, used) ↔
        (1 ≤ record.key.length ∧ record.key.length ≤ 255 ∧ record.data.length ≤ 32761) ∧
          record.deleted = false ∧ used = record.encodedLength ∧
          record.encode? = .ok (bytes.take used)) ∧
    (∀ (bytes other : Bytes) (record : Record) (used : Nat),
      decode bytes = .ok (record, used) → other.take used = bytes.take used →
        decode other = .ok (record, used)) ∧
    (∀ (record other : Record) (form rest : Bytes), record.encode? = .ok form →
      other.encode? = .ok (form ++ rest) → rest = []) ∧
    ∀ (records : List Record) (forms : List Bytes), (∀ record ∈ records, record.deleted = false) →
      records.mapM encode? = .ok forms →
        (∀ others, Reads forms.flatten others ↔ others = records) ∧
        (records ≠ [] → decodeAll forms.flatten
          = records.map fun record => .ok (record, record.encodedLength)) := by
  refine ⟨exists_encode?_iff, ?_, ?_, ?_, ?_⟩
  · intro bytes record used
    rw [decode_eq_ok_iff_take]
    constructor
    · rintro ⟨live, exactly, encoded⟩
      exact ⟨(exists_encode?_iff record).mp ⟨_, encoded⟩, live, exactly, encoded⟩
    · rintro ⟨_, accepted⟩
      exact accepted
  · intro bytes other record used readable same
    rw [decode_eq_ok_iff_take] at readable ⊢
    rw [same]
    exact readable
  · intro record other form rest encoded longer
    have same := prefixFree_form form (form ++ rest) ⟨record, encoded⟩ ⟨other, longer⟩ ⟨rest, rfl⟩
    exact List.self_eq_append_right.mp same
  · intro records forms live encoded
    have reads := reads_flatten live encoded
    refine ⟨fun others => ⟨reads.unique, ?_⟩, fun unread => decodeAll_of_reads unread reads⟩
    rintro rfl
    exact reads

end KeySequenced.Record
