import KeySequenced.Proofs.Record.Wire

/-!
# Where the damage of a record lies

The reader of a record reports damage at an offset into the bytes that it has
been given: a part of the record where it begins, a flaw of the address within
its block.  No offset lies behind the end of the bytes.
-/

set_option autoImplicit false

namespace KeySequenced

/-- Damage that the reader reports lies at this offset at most. -/
def ReportsUpTo {α : Type} (limit : Nat) (result : Except Damage α) : Prop :=
  ∀ damage, result = .error damage → damage.offset ≤ limit

section ReportsUpTo

variable {α β : Type} {limit : Nat}

theorem reportsUpTo_ok (limit : Nat) (value : α) : ReportsUpTo limit (Except.ok value) := by
  intro damage failed
  cases failed

theorem reportsUpTo_error {damage : Damage} (within : damage.offset ≤ limit) :
    ReportsUpTo limit (.error damage : Except Damage α) := by
  intro other failed
  cases failed
  exact within

theorem ReportsUpTo.bind {first : Except Damage α} {next : α → Except Damage β}
    (early : ReportsUpTo limit first)
    (late : ∀ value, first = .ok value → ReportsUpTo limit (next value)) :
    ReportsUpTo limit (first >>= next) := by
  cases first with
  | error damage => exact reportsUpTo_error (early damage rfl)
  | ok value => exact late value rfl

end ReportsUpTo

theorem Address.reportsUpTo_decode (block : Bytes) : ReportsUpTo 8 (decode block) := by
  unfold decode ofSlots
  repeat' split
  all_goals first
    | exact reportsUpTo_ok _ _
    | refine reportsUpTo_error ?_
      simp

namespace Record

section Splits

variable {part : RecordPart} {offset limit : Nat}

theorem reportsUpTo_split (within : offset ≤ limit) (rest : Bytes) (count : Nat) :
    ReportsUpTo limit (split part offset rest count) := by
  simp only [split]
  split
  · exact reportsUpTo_error within
  · exact reportsUpTo_ok _ _

theorem reportsUpTo_splitLength (within : offset ≤ limit) (rest : Bytes) :
    ReportsUpTo limit (splitLength part offset rest) :=
  (reportsUpTo_split within rest 8).bind fun _ _ => reportsUpTo_ok _ _

end Splits

theorem reportsUpTo_decode (bytes : Bytes) : ReportsUpTo bytes.length (decode bytes) := by
  simp only [decode]
  refine (reportsUpTo_splitLength (Nat.zero_le _) _).bind ?_
  rintro ⟨keyLength, afterLength⟩ whole
  obtain ⟨_, rfl⟩ := (splitLength_eq_ok_iff ..).mp whole
  simp only [List.length_append, LittleEndian.length_encode]
  split
  · exact reportsUpTo_error (Nat.zero_le _)
  refine (reportsUpTo_split (Nat.le_add_right ..) _ _).bind ?_
  rintro ⟨key, afterKey⟩ whole
  obtain ⟨keyExact, rfl⟩ := (split_eq_ok_iff ..).mp whole
  simp only [List.length_append, keyExact]
  refine (reportsUpTo_splitLength (by omega) _).bind ?_
  rintro ⟨dataLength, afterCount⟩ whole
  obtain ⟨_, rfl⟩ := (splitLength_eq_ok_iff ..).mp whole
  simp only [List.length_append, LittleEndian.length_encode]
  split
  · refine reportsUpTo_error ?_
    simp only
    omega
  refine (reportsUpTo_split (by omega) _ _).bind ?_
  rintro ⟨data, afterData⟩ whole
  obtain ⟨dataExact, rfl⟩ := (split_eq_ok_iff ..).mp whole
  simp only [List.length_append, dataExact]
  refine (reportsUpTo_split (by omega) _ _).bind ?_
  rintro ⟨block, rest⟩ whole
  obtain ⟨blockExact, rfl⟩ := (split_eq_ok_iff ..).mp whole
  simp only [List.length_append, blockExact, Address.blockSize]
  cases readable : Address.decode block with
  | ok address => exact reportsUpTo_ok _ _
  | error flaw =>
    have within := Address.reportsUpTo_decode block flaw readable
    refine reportsUpTo_error ?_
    simp only [Damage.shift]
    omega

end Record

end KeySequenced
