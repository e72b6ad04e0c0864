import KeySequenced.Table.Lemmas

/-!
# Neighbours of a key

The searches of a table by what they find: the first passing entry of an
ascending list is the least, the last one the greatest.
-/

set_option autoImplicit false

namespace KeySequenced.Table

section Lists

variable {κ ν : Type} [LT κ]

/-- The first entry that passes a test has the least key of all that pass. -/
theorem least_of_find? {entries : List (κ × ν)} {test : κ × ν → Bool} {entry : κ × ν}
    (sorted : Ascending entries) (found : entries.find? test = some entry) :
    entry ∈ entries ∧ test entry = true ∧
      ∀ other ∈ entries, test other = true → other = entry ∨ entry.1 < other.1 := by
  refine ⟨List.mem_of_find?_eq_some found, List.find?_some found, ?_⟩
  intro other member passes
  obtain ⟨_, before, after, split, failing⟩ := List.find?_eq_some_iff_append.mp found
  rw [split] at member sorted
  rcases List.mem_append.mp member with early | late
  · have fails := failing other early
    rw [passes] at fails
    exact absurd fails (by decide)
  · rcases List.mem_cons.mp late with same | later
    · exact .inl same
    · have order := (List.pairwise_append.mp sorted).2.1
      exact .inr ((List.pairwise_cons.mp order).1 other later)

/-- The last entry that passes a test has the greatest key of all that pass. -/
theorem greatest_of_getLast?_filter {entries : List (κ × ν)} {test : κ × ν → Bool}
    {entry : κ × ν} (sorted : Ascending entries)
    (found : (entries.filter test).getLast? = some entry) :
    entry ∈ entries ∧ test entry = true ∧
      ∀ other ∈ entries, test other = true → other = entry ∨ other.1 < entry.1 := by
  obtain ⟨before, split⟩ := List.getLast?_eq_some_iff.mp found
  have stands : entry ∈ entries.filter test := by
    rw [split]
    exact List.mem_append_right _ List.mem_cons_self
  refine ⟨(List.mem_filter.mp stands).1, (List.mem_filter.mp stands).2, ?_⟩
  intro other member passes
  have kept : other ∈ entries.filter test := List.mem_filter.mpr ⟨member, passes⟩
  have order : Ascending (entries.filter test) :=
    List.Pairwise.sublist List.filter_sublist sorted
  rw [split] at kept order
  rcases List.mem_append.mp kept with early | last
  · exact .inr ((List.pairwise_append.mp order).2.2 other early entry List.mem_cons_self)
  · exact .inl (List.mem_singleton.mp last)

end Lists

section Containment

variable {κ ν : Type} [LT κ] [DecidableLT κ] [DecidableEq κ]

theorem contains_iff (table : Table κ ν) (key : κ) :
    table.contains key = true ↔ ∃ value, table.find? key = some value := by
  simp only [contains, Option.isSome_iff_exists]

theorem contains_eq_false_iff (table : Table κ ν) (key : κ) :
    table.contains key = false ↔ table.find? key = none := by
  simp only [contains, Option.isSome_eq_false_iff, Option.isNone_iff_eq_none]

end Containment

section Searches

variable {κ ν : Type} [LT κ] [DecidableLT κ] [KeyOrder κ]

theorem above?_eq_none_iff (table : Table κ ν) (key : κ) :
    table.above? key = none ↔ ∀ entry ∈ table.toList, ¬ key < entry.1 := by
  simp only [above?_eq_find?, List.find?_eq_none, decide_eq_true_eq]

theorem below?_eq_none_iff (table : Table κ ν) (key : κ) :
    table.below? key = none ↔ ∀ entry ∈ table.toList, ¬ entry.1 < key := by
  simp only [below?_eq_getLast?, List.getLast?_eq_none_iff, List.filter_eq_nil_iff,
    decide_eq_true_eq]

theorem least_of_above? (table : Table κ ν) {key : κ} {entry : κ × ν}
    (found : table.above? key = some entry) :
    entry ∈ table.toList ∧ key < entry.1 ∧
      ∀ other ∈ table.toList, key < other.1 → other = entry ∨ entry.1 < other.1 := by
  rw [above?_eq_find?] at found
  simpa only [decide_eq_true_eq] using least_of_find? table.ascending_toList found

theorem least_of_atOrAbove? (table : Table κ ν) {key : κ} {entry : κ × ν}
    (found : table.atOrAbove? key = some entry) :
    entry ∈ table.toList ∧ ¬ entry.1 < key ∧
      ∀ other ∈ table.toList, ¬ other.1 < key → other = entry ∨ entry.1 < other.1 := by
  rw [atOrAbove?_eq_find?] at found
  simpa only [Bool.not_eq_true', decide_eq_false_iff_not] using
    least_of_find? table.ascending_toList found

theorem greatest_of_below? (table : Table κ ν) {key : κ} {entry : κ × ν}
    (found : table.below? key = some entry) :
    entry ∈ table.toList ∧ entry.1 < key ∧
      ∀ other ∈ table.toList, other.1 < key → other = entry ∨ other.1 < entry.1 := by
  rw [below?_eq_getLast?] at found
  simpa only [decide_eq_true_eq] using greatest_of_getLast?_filter table.ascending_toList found

/-- As many entries are below the key of an entry as stand before it. -/
theorem countBelow_of_getElem? (table : Table κ ν) {index : Nat} {entry : κ × ν}
    (stands : table.toList[index]? = some entry) : table.countBelow entry.1 = index := by
  obtain ⟨inside, rfl⟩ := List.getElem?_eq_some_iff.mp stands
  have order := List.pairwise_iff_getElem.mp table.ascending_toList
  apply (table.divides_countBelow _).unique
  refine ⟨Nat.le_of_lt inside, ?_, ?_⟩
  · intro earlier within before
    exact decide_eq_true (order earlier index within inside before)
  · intro later within notBefore
    refine decide_eq_false fun below => ?_
    rcases Nat.lt_or_eq_of_le notBefore with after | same
    · have above := order index later inside within after
      exact KeyOrder.irreflexive _ (KeyOrder.transitive below above)
    · subst same
      exact KeyOrder.irreflexive _ below

/-- The entry itself is the only further one that is not above its key. -/
theorem countUpTo_of_getElem? (table : Table κ ν) {index : Nat} {entry : κ × ν}
    (stands : table.toList[index]? = some entry) : table.countUpTo entry.1 = index + 1 := by
  obtain ⟨inside, rfl⟩ := List.getElem?_eq_some_iff.mp stands
  have order := List.pairwise_iff_getElem.mp table.ascending_toList
  apply (table.divides_countUpTo _).unique
  refine ⟨inside, ?_, ?_⟩
  · intro earlier within before
    simp only [Bool.not_eq_true', decide_eq_false_iff_not]
    intro above
    rcases Nat.lt_or_eq_of_le (Nat.le_of_lt_succ before) with less | same
    · have below := order earlier index within inside less
      exact KeyOrder.irreflexive _ (KeyOrder.transitive above below)
    · subst same
      exact KeyOrder.irreflexive _ above
  · intro later within after
    simp only [Bool.not_eq_false', decide_eq_true_eq]
    exact order index later inside within after

theorem above?_of_getElem? (table : Table κ ν) {index : Nat} {entry : κ × ν}
    (stands : table.toList[index]? = some entry) :
    table.above? entry.1 = table.toList[index + 1]? := by
  rw [above?, table.countUpTo_of_getElem? stands]
  exact Array.getElem?_toList.symm

theorem below?_of_getElem? (table : Table κ ν) {index : Nat} {entry : κ × ν}
    (stands : table.toList[index]? = some entry) :
    table.below? entry.1 = if index = 0 then none else table.toList[index - 1]? := by
  rw [below?, table.countBelow_of_getElem? stands]
  cases index with
  | zero => rfl
  | succ before => exact Array.getElem?_toList.symm

variable [DecidableEq κ]

@[simp] theorem find?_empty (key : κ) : (empty : Table κ ν).find? key = none :=
  (find?_eq_none_iff _ key).mpr fun _ member => absurd member (by simp)

theorem find?_insert (table : Table κ ν) (key other : κ) (value : ν) :
    (table.insert key value).find? other = if other = key then some value else table.find? other := by
  split
  · rename_i same
    rw [same, find?_insert_self]
  · rename_i differ
    exact table.find?_insert_of_ne value differ

theorem find?_erase (table : Table κ ν) (key other : κ) :
    (table.erase key).find? other = if other = key then none else table.find? other := by
  split
  · rename_i same
    rw [same, find?_erase_self]
  · rename_i differ
    exact table.find?_erase_of_ne differ

end Searches

end KeySequenced.Table
