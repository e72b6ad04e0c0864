import KeySequenced.Demonstration
import KeySequenced.Proofs.Text.Ascii
import KeySequenced.Table.Order

/-!
# The numbered keys of the demonstration

The key of a number has the decimal digits of the number, filled up with zeros to
five.  As long as five digits are enough, the keys have one length and the order
of the numbers; the key of a number with a sixth digit is too long.  Keys and
payloads are ASCII texts and are printed as such.
-/

set_option autoImplicit false

namespace KeySequenced.Demonstration

/-! ## Digits -/

/-- The decimal digits of a number, with zeros in front of them up to the width. -/
def padded (width number : Nat) : List Char := (Nat.toDigits 10 number).leftpad width '0'

theorem length_padded {width number : Nat} (enough : (Nat.toDigits 10 number).length ≤ width) :
    (padded width number).length = width := by
  rw [padded, List.length_leftpad, Nat.max_eq_left enough]

theorem toDigits_ten (number : Nat) : Nat.toDigits 10 number =
    if number < 10 then [Nat.digitChar number]
    else Nat.toDigits 10 (number / 10) ++ [Nat.digitChar (number % 10)] :=
  Nat.toDigits_eq_if (by decide)

theorem length_toDigits_div {width number : Nat} (positive : 0 < width)
    (enough : (Nat.toDigits 10 number).length ≤ width + 1) :
    (Nat.toDigits 10 (number / 10)).length ≤ width := by
  rw [toDigits_ten number] at enough
  split at enough
  · rename_i small
    rw [Nat.div_eq_of_lt small]
    exact positive
  · rw [List.length_append, List.length_singleton] at enough
    omega

/-- The last digit is that of the remainder, and the others are those of the quotient. -/
theorem padded_succ {width : Nat} (positive : 0 < width) (number : Nat) :
    padded (width + 1) number =
      padded width (number / 10) ++ [Nat.digitChar (number % 10)] := by
  simp only [padded, List.leftpad]
  rw [toDigits_ten number]
  split
  · rename_i small
    rw [Nat.div_eq_of_lt small, Nat.mod_eq_of_lt small, Nat.toDigits_zero]
    obtain ⟨width, rfl⟩ := Nat.exists_eq_succ_of_ne_zero (Nat.ne_of_gt positive)
    simp [List.replicate_succ']
  · rw [List.length_append, List.length_singleton, Nat.add_sub_add_right, List.append_assoc]

theorem digitChar_visible {character : Char} (digit : character.isDigit = true) :
    48 ≤ character.toNat ∧ character.toNat ≤ 57 := by
  simp only [Char.isDigit, Bool.and_eq_true, decide_eq_true_eq, UInt32.le_iff_toNat_le] at digit
  exact digit

theorem visible_of_mem_padded {width number : Nat} {character : Char}
    (member : character ∈ padded width number) :
    48 ≤ character.toNat ∧ character.toNat ≤ 57 := by
  rcases List.mem_append.mp member with zero | digit
  · rw [List.eq_of_mem_replicate zero]
    decide
  · exact digitChar_visible (Nat.isDigit_of_mem_toDigits (by decide) (by decide) digit)

/-! ## The order of digits -/

/-- Of two byte strings of one length, the lesser stays so whatever follows them. -/
theorem append_lt_append {front other : Key} (less : front < other)
    (same : front.length = other.length) (back more : Key) : front ++ back < other ++ more := by
  induction front generalizing other with
  | nil =>
    rw [List.length_nil, eq_comm, List.length_eq_zero_iff] at same
    subst same
    exact absurd less (List.not_lt_nil _)
  | cons byte front ih =>
    cases other with
    | nil => exact absurd less (List.not_lt_nil _)
    | cons first other =>
      rw [List.cons_append, List.cons_append, List.cons_lt_cons_iff]
      rcases List.cons_lt_cons_iff.mp less with below | ⟨equal, further⟩
      · exact .inl below
      · exact .inr ⟨equal, ih further (Nat.succ.inj same)⟩

theorem digitChar_lt_digitChar {less more : Nat} (below : less < more) (small : more < 10) :
    (Nat.digitChar less).toUInt8 < (Nat.digitChar more).toUInt8 := by
  have byte {digit : Nat} (decimal : digit < 10) :
      (Nat.digitChar digit).toUInt8.toNat = 48 + digit := by
    have code := Nat.toNat_digitChar_of_lt_ten decimal
    rw [Text.toNat_toUInt8 (by omega), code]
  rw [UInt8.lt_iff_toNat_lt, byte (Nat.lt_trans below small), byte small]
  omega

/-- Among numbers of so many digits the greater one has the greater digits: either its quotient
by ten is greater, or the quotients are one and the last digit is greater. -/
theorem padded_lt_padded {width less more : Nat} (below : less < more)
    (enough : (Nat.toDigits 10 more).length ≤ width)
    (also : (Nat.toDigits 10 less).length ≤ width) :
    (padded width less).map Char.toUInt8 < (padded width more).map Char.toUInt8 := by
  induction width generalizing less more with
  | zero => exact absurd enough (Nat.not_le.mpr Nat.length_toDigits_pos)
  | succ width ih =>
    cases width with
    | zero =>
      have single {number : Nat} (enough : (Nat.toDigits 10 number).length ≤ 1) :
          number < 10 ∧ padded 1 number = [Nat.digitChar number] := by
        have small : number < 10 := (Nat.length_toDigits_le_iff (by decide) (by decide)).mp enough
        refine ⟨small, ?_⟩
        rw [padded, Nat.toDigits_of_lt_base small]
        rfl
      obtain ⟨small, digits⟩ := single enough
      obtain ⟨_, lessDigits⟩ := single also
      rw [digits, lessDigits]
      exact List.cons_lt_cons_iff.mpr (.inl (digitChar_lt_digitChar below small))
    | succ width =>
      have positive : 0 < width + 1 := Nat.succ_pos width
      have moreFront := length_toDigits_div positive enough
      have lessFront := length_toDigits_div positive also
      rw [padded_succ positive, padded_succ positive, List.map_append, List.map_append]
      rcases Nat.lt_or_eq_of_le (Nat.div_le_div_right (Nat.le_of_lt below)) with higher | same
      · apply append_lt_append (ih higher moreFront lessFront)
        rw [List.length_map, List.length_map, length_padded lessFront, length_padded moreFront]
      · rw [same]
        apply List.append_left_lt
        apply List.cons_lt_cons_iff.mpr
        exact .inl (digitChar_lt_digitChar (by omega) (Nat.mod_lt _ (by decide)))

/-! ## Keys and payloads -/

theorem toList_fiveDigits (number : Nat) : (fiveDigits number).toList = padded 5 number :=
  String.toList_ofList

theorem five_digits {number : Nat} (small : number ≤ 99999) :
    (Nat.toDigits 10 number).length ≤ 5 :=
  (Nat.length_toDigits_le_iff (by decide) (by decide)).mpr (Nat.lt_succ_of_le small)

theorem length_fiveDigits {number : Nat} (small : number ≤ 99999) :
    (fiveDigits number).toList.length = 5 := by
  rw [toList_fiveDigits, length_padded (five_digits small)]

theorem visible_keyText (number : Nat) :
    ∀ character ∈ ("KEY" ++ fiveDigits number).toList,
      0x20 ≤ character.toNat ∧ character.toNat ≤ 0x7e := by
  intro character member
  rw [String.toList_append, List.mem_append, toList_fiveDigits] at member
  rcases member with letter | digit
  · have letters : ("KEY".toList.all fun character =>
        decide (0x20 ≤ character.toNat ∧ character.toNat ≤ 0x7e)) = true := by decide
    exact of_decide_eq_true (List.all_eq_true.mp letters character letter)
  · have bounds := visible_of_mem_padded digit
    omega

theorem display_keyOf (number : Nat) : Key.display (keyOf number) = "KEY" ++ fiveDigits number := by
  apply Key.display_ofText _ (visible_keyText number)
  intro nothing
  have none := congrArg String.toList nothing
  rw [String.toList_append] at none
  cases none

theorem keyOf_eq (number : Nat) :
    keyOf number = Bytes.ofText "KEY" ++ (padded 5 number).map Char.toUInt8 := by
  rw [keyOf, Bytes.ofText_append, ← toList_fiveDigits]
  congr 1
  apply Bytes.ofText_of_ascii
  intro character member
  rw [toList_fiveDigits] at member
  have bounds := visible_of_mem_padded member
  omega

theorem length_keyOf {number : Nat} (small : number ≤ 99999) : (keyOf number).length = 8 := by
  have letters : (Bytes.ofText "KEY").length = 3 := by decide +kernel
  rw [keyOf_eq, List.length_append, List.length_map, length_padded (five_digits small), letters]

theorem keyOf_lt_keyOf {less more : Nat} (below : less < more) (small : more ≤ 99999) :
    keyOf less < keyOf more := by
  rw [keyOf_eq, keyOf_eq]
  apply List.append_left_lt
  exact padded_lt_padded below (five_digits small) (five_digits (by omega))

theorem keyOf_inj {number other : Nat} (small : number ≤ 99999) (otherSmall : other ≤ 99999)
    (same : keyOf number = keyOf other) : number = other := by
  rcases Nat.lt_trichotomy number other with below | equal | above
  · have less := keyOf_lt_keyOf below otherSmall
    rw [same] at less
    exact absurd less (Table.KeyOrder.irreflexive _)
  · exact equal
  · have less := keyOf_lt_keyOf above small
    rw [same] at less
    exact absurd less (Table.KeyOrder.irreflexive _)

theorem visible_dataText (number : Nat) :
    ∀ character ∈ ("record " ++ toString number).toList, character.toNat < 0x80 := by
  intro character member
  rw [String.toList_append, List.mem_append, Nat.toString_eq_repr, Nat.toList_repr] at member
  rcases member with letter | digit
  · have letters : ("record ".toList.all fun character =>
        decide (character.toNat < 0x80)) = true := by decide
    exact of_decide_eq_true (List.all_eq_true.mp letters character letter)
  · have bounds := digitChar_visible (Nat.isDigit_of_mem_toDigits (by decide) (by decide) digit)
    omega

theorem ofBytes_dataOf (number : Nat) :
    Text.ofBytes (dataOf number) = "record " ++ toString number :=
  Text.ofBytes_ofText (visible_dataText number)

theorem length_dataOf (number : Nat) :
    (dataOf number).length = 7 + (Nat.toDigits 10 number).length := by
  rw [dataOf, Bytes.length_ofText (visible_dataText number), String.toList_append,
    List.length_append, Nat.toString_eq_repr, Nat.toList_repr]
  rfl

end KeySequenced.Demonstration
