/-!
# Where a test stops holding

`boundary entries test` is the number of leading entries of an array that pass
`test`, for a test that no later entry passes once an earlier one has failed.
It is found by halving.  `boundary_eq_length_takeWhile` says so on lists.
-/

set_option autoImplicit false

namespace KeySequenced

variable {α : Type}

/-- Halves the interval from `low` to `high`, at most `steps` times. -/
def boundaryWithin (entries : Array α) (test : α → Bool) : Nat → Nat → Nat → Nat
  | 0, low, _ => low
  | steps + 1, low, high =>
    if low < high then
      let middle := (low + high) / 2
      match entries[middle]? with
      | none => low
      | some entry =>
        if test entry then boundaryWithin entries test steps (middle + 1) high
        else boundaryWithin entries test steps low middle
    else low

/-- The position of the first entry that fails `test`, or the size. -/
def boundary (entries : Array α) (test : α → Bool) : Nat :=
  boundaryWithin entries test entries.size 0 entries.size

/-- All entries before `position` pass the test and all others fail it. -/
def Divides (entries : List α) (test : α → Bool) (position : Nat) : Prop :=
  position ≤ entries.length ∧
    (∀ i (inside : i < entries.length), i < position → test entries[i] = true) ∧
    (∀ i (inside : i < entries.length), position ≤ i → test entries[i] = false)

/-- A later entry passes only if every earlier one does. -/
def PassesFirst (entries : List α) (test : α → Bool) : Prop :=
  entries.Pairwise (fun earlier later => test later = true → test earlier = true)

theorem divides_length_takeWhile {entries : List α} {test : α → Bool}
    (order : PassesFirst entries test) :
    Divides entries test (entries.takeWhile test).length := by
  induction entries with
  | nil => exact ⟨by simp, by simp, by simp⟩
  | cons entry rest ih =>
    obtain ⟨first, later⟩ := List.pairwise_cons.mp order
    obtain ⟨within, before, after⟩ := ih later
    cases passed : test entry with
    | true =>
      simp only [List.takeWhile_cons, passed, if_true, List.length_cons]
      refine ⟨Nat.succ_le_succ within, ?_, ?_⟩
      · intro i inside below
        cases i with
        | zero => exact passed
        | succ i =>
          exact before i (Nat.lt_of_succ_lt_succ inside) (Nat.lt_of_succ_lt_succ below)
      · intro i inside above
        cases i with
        | zero => exact absurd above (Nat.not_succ_le_zero _)
        | succ i =>
          exact after i (Nat.lt_of_succ_lt_succ inside) (Nat.le_of_succ_le_succ above)
    | false =>
      simp only [List.takeWhile_cons, passed]
      refine ⟨Nat.zero_le _, fun i _ below => absurd below (Nat.not_lt_zero i), ?_⟩
      intro i inside _
      cases i with
      | zero => exact passed
      | succ i =>
        apply Bool.eq_false_iff.mpr
        intro holds
        have := first (rest.get ⟨i, Nat.lt_of_succ_lt_succ inside⟩) (List.get_mem _ _) holds
        rw [passed] at this
        exact Bool.false_ne_true this

theorem Divides.unique {entries : List α} {test : α → Bool} {position other : Nat}
    (left : Divides entries test position) (right : Divides entries test other) :
    position = other := by
  obtain ⟨leftWithin, leftBefore, leftAfter⟩ := left
  obtain ⟨rightWithin, rightBefore, rightAfter⟩ := right
  rcases Nat.lt_trichotomy position other with less | same | more
  · have inside : position < entries.length := Nat.lt_of_lt_of_le less rightWithin
    have passes := rightBefore position inside less
    rw [leftAfter position inside (Nat.le_refl _)] at passes
    exact absurd passes Bool.false_ne_true
  · exact same
  · have inside : other < entries.length := Nat.lt_of_lt_of_le more leftWithin
    have passes := leftBefore other inside more
    rw [rightAfter other inside (Nat.le_refl _)] at passes
    exact absurd passes Bool.false_ne_true

/-- Below `low` every entry passes and from `high` on every entry fails. -/
def Brackets (entries : List α) (test : α → Bool) (low high : Nat) : Prop :=
  low ≤ high ∧ high ≤ entries.length ∧
    (∀ i (inside : i < entries.length), i < low → test entries[i] = true) ∧
    (∀ i (inside : i < entries.length), high ≤ i → test entries[i] = false)

theorem PassesFirst.getElem {entries : List α} {test : α → Bool}
    (order : PassesFirst entries test) {i j : Nat} (le : i ≤ j) (inside : j < entries.length)
    (passes : test entries[j] = true) : test entries[i] = true := by
  rcases Nat.lt_or_eq_of_le le with less | same
  · exact List.pairwise_iff_getElem.mp order i j (Nat.lt_trans less inside) inside less passes
  · subst same
    exact passes

theorem divides_boundaryWithin (entries : Array α) (test : α → Bool)
    (order : PassesFirst entries.toList test) (steps low high : Nat)
    (bracket : Brackets entries.toList test low high) (enough : high - low ≤ steps) :
    Divides entries.toList test (boundaryWithin entries test steps low high) := by
  induction steps generalizing low high with
  | zero =>
    obtain ⟨le, within, before, after⟩ := bracket
    have same : low = high := by omega
    subst same
    exact ⟨within, before, after⟩
  | succ steps ih =>
    obtain ⟨le, within, before, after⟩ := bracket
    simp only [boundaryWithin]
    by_cases wide : low < high
    · have inside : (low + high) / 2 < entries.toList.length := by omega
      have insideArray : (low + high) / 2 < entries.size := by simpa using inside
      rw [if_pos wide, Array.getElem?_eq_getElem insideArray]
      by_cases passes : test entries[(low + high) / 2] = true
      · simp only [passes, if_true]
        refine ih _ _ ⟨by omega, within, ?_, after⟩ (by omega)
        intro i _ below
        refine order.getElem (j := (low + high) / 2) (by omega) inside ?_
        simpa using passes
      · simp only [passes]
        refine ih _ _ ⟨by omega, by omega, before, ?_⟩ (by omega)
        intro i insideI above
        refine Bool.eq_false_iff.mpr fun holds => passes ?_
        have := order.getElem above insideI holds
        simpa using this
    · rw [if_neg wide]
      have same : low = high := by omega
      subst same
      exact ⟨within, before, after⟩

/-- Halving finds the length of the longest prefix of passing entries. -/
theorem boundary_eq_length_takeWhile (entries : Array α) (test : α → Bool)
    (order : PassesFirst entries.toList test) :
    boundary entries test = (entries.toList.takeWhile test).length := by
  refine Divides.unique ?_ (divides_length_takeWhile order)
  refine divides_boundaryWithin entries test order _ _ _ ⟨Nat.zero_le _, ?_, ?_, ?_⟩ ?_
  · simp
  · intro i _ below
    exact absurd below (Nat.not_lt_zero i)
  · intro i inside above
    simp at inside
    omega
  · omega

end KeySequenced
