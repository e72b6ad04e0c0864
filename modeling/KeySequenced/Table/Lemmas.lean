import KeySequenced.Table.Change

/-!
# Tables as lists

What every operation does, in terms of the list of entries: `insert` and
`erase` as filters of it, `find?` as membership, and the neighbours of a key as
the first entry at or above it, the first above it and the last below it.
-/

set_option autoImplicit false

namespace KeySequenced.Table

section Lists

variable {α : Type}

theorem take_eq_filter {entries : List α} {test : α → Bool} {position : Nat}
    (divides : Divides entries test position) :
    entries.take position = entries.filter test := by
  obtain ⟨_, before, after⟩ := divides
  have left : (entries.take position).filter test = entries.take position := by
    apply List.filter_eq_self.mpr
    intro entry member
    obtain ⟨i, inside, equal⟩ := List.mem_iff_getElem.mp member
    simp only [List.length_take] at inside
    rw [← equal, List.getElem_take]
    exact before i (by omega) (by omega)
  have right : (entries.drop position).filter test = [] := by
    apply List.filter_eq_nil_iff.mpr
    intro entry member
    obtain ⟨i, inside, equal⟩ := List.mem_iff_getElem.mp member
    simp only [List.length_drop] at inside
    rw [← equal, List.getElem_drop, after (position + i) (by omega) (by omega)]
    exact Bool.false_ne_true
  calc entries.take position
      = (entries.take position).filter test ++ (entries.drop position).filter test := by
        rw [left, right, List.append_nil]
    _ = entries.filter test := by rw [← List.filter_append, List.take_append_drop]

theorem drop_eq_filter {entries : List α} {test : α → Bool} {position : Nat}
    (divides : Divides entries test position) :
    entries.drop position = entries.filter (fun entry => !test entry) := by
  have front := take_eq_filter divides
  obtain ⟨_, before, after⟩ := divides
  have left : (entries.take position).filter (fun entry => !test entry) = [] := by
    rw [front]
    apply List.filter_eq_nil_iff.mpr
    intro entry member
    rw [(List.mem_filter.mp member).2]
    exact Bool.false_ne_true
  have right : (entries.drop position).filter (fun entry => !test entry)
      = entries.drop position := by
    apply List.filter_eq_self.mpr
    intro entry member
    obtain ⟨i, inside, equal⟩ := List.mem_iff_getElem.mp member
    simp only [List.length_drop] at inside
    rw [← equal, List.getElem_drop, after (position + i) (by omega) (by omega)]
    rfl
  calc entries.drop position
      = (entries.take position).filter (fun entry => !test entry)
          ++ (entries.drop position).filter (fun entry => !test entry) := by
        rw [left, right, List.nil_append]
    _ = entries.filter (fun entry => !test entry) := by
        rw [← List.filter_append, List.take_append_drop]

/-- The entry at a dividing position is the first that fails the test. -/
theorem getElem?_eq_find? {entries : List α} {test : α → Bool} {position : Nat}
    (divides : Divides entries test position) :
    entries[position]? = entries.find? (fun entry => !test entry) := by
  rw [← List.head?_drop, drop_eq_filter divides, List.head?_filter]

end Lists

section Views

variable {κ ν : Type} [LT κ]

theorem size_eq_length (table : Table κ ν) : table.size = table.toList.length := by
  simp [size, toList]

@[simp] theorem toList_empty : (empty : Table κ ν).toList = [] := rfl

theorem ascending_toList (table : Table κ ν) : Ascending table.toList := table.ascending

end Views

section Orders

variable {κ ν : Type} [LT κ] [KeyOrder κ]

/-- Different entries of a table have different keys. -/
theorem eq_of_mem_of_mem (table : Table κ ν) {key : κ} {value other : ν}
    (left : (key, value) ∈ table.toList) (right : (key, other) ∈ table.toList) :
    value = other := by
  obtain ⟨i, insideLeft, equalLeft⟩ := List.mem_iff_getElem.mp left
  obtain ⟨j, insideRight, equalRight⟩ := List.mem_iff_getElem.mp right
  have order := List.pairwise_iff_getElem.mp table.ascending_toList
  rcases Nat.lt_trichotomy i j with less | same | more
  · have below := order i j insideLeft insideRight less
    rw [equalLeft, equalRight] at below
    exact absurd below (KeyOrder.irreflexive key)
  · subst same
    exact congrArg Prod.snd (equalLeft.symm.trans equalRight)
  · have below := order j i insideRight insideLeft more
    rw [equalLeft, equalRight] at below
    exact absurd below (KeyOrder.irreflexive key)

theorem nodup_toList (table : Table κ ν) : table.toList.Nodup :=
  table.ascending_toList.imp fun less equal => by
    subst equal
    exact KeyOrder.irreflexive _ less

end Orders

section Searches

variable {κ ν : Type} [LT κ] [DecidableLT κ] [KeyOrder κ]

theorem divides_countUpTo (table : Table κ ν) (key : κ) :
    Divides table.toList (fun entry => !decide (key < entry.1)) (table.countUpTo key) := by
  rw [countUpTo_eq]
  exact divides_length_takeWhile (passesFirst_upTo table.ascending key)

theorem atOrAbove?_eq_find? (table : Table κ ν) (key : κ) :
    table.atOrAbove? key = table.toList.find? (fun entry => !decide (entry.1 < key)) := by
  rw [← getElem?_eq_find? (table.divides_countBelow key)]
  exact Array.getElem?_toList.symm

theorem above?_eq_find? (table : Table κ ν) (key : κ) :
    table.above? key = table.toList.find? (fun entry => decide (key < entry.1)) := by
  have first := getElem?_eq_find? (table.divides_countUpTo key)
  simp only [Bool.not_not] at first
  rw [← first]
  exact Array.getElem?_toList.symm

theorem below?_eq_getLast? (table : Table κ ν) (key : κ) :
    table.below? key = (table.toList.filter (fun entry => decide (entry.1 < key))).getLast? := by
  have within := table.countBelow_le_size key
  rw [← take_eq_filter (table.divides_countBelow key), List.getLast?_eq_getElem?]
  simp only [below?, List.length_take]
  cases count : table.countBelow key with
  | zero => simp
  | succ before =>
    have small : before < table.toList.length := by
      rw [count] at within
      have := table.size_eq_length
      simp only [size] at this
      omega
    have least : min (before + 1) table.toList.length - 1 = before := by omega
    rw [least, List.getElem?_take, if_pos (Nat.lt_succ_self before)]
    exact Array.getElem?_toList.symm

/-- Looking a key up finds exactly the value that stands beside it. -/
theorem find?_eq_some_iff [DecidableEq κ] (table : Table κ ν) (key : κ) (value : ν) :
    table.find? key = some value ↔ (key, value) ∈ table.toList := by
  simp only [find?, atOrAbove?_eq_find?]
  constructor
  · intro success
    split at success
    · rename_i found stored entry
      split at success
      · rename_i same
        subst same
        cases Option.some.inj success
        exact List.mem_of_find?_eq_some entry
      · cases success
    · cases success
  · intro member
    have passes : (fun entry : κ × ν => !decide (entry.1 < key)) (key, value) = true := by
      simp [KeyOrder.irreflexive key]
    cases first : table.toList.find? (fun entry => !decide (entry.1 < key)) with
    | none =>
      have := List.find?_eq_none.mp first (key, value) member
      exact absurd passes this
    | some entry =>
      obtain ⟨found, stored⟩ := entry
      have stands := List.mem_of_find?_eq_some first
      have notBelow : ¬ found < key := by
        have := List.find?_some first
        simpa using this
      have same : found = key := by
        apply Decidable.byContradiction
        intro differ
        have above := KeyOrder.connected notBelow differ
        obtain ⟨before, after, split, failing⟩ := List.find?_eq_some_iff_append.mp first |>.2
        rw [split] at member
        rcases List.mem_append.mp member with early | late
        · have := failing _ early
          simp [KeyOrder.irreflexive key] at this
        · rcases List.mem_cons.mp late with equal | later
          · exact differ (congrArg Prod.fst equal).symm
          · have sorted := table.ascending_toList
            rw [split] at sorted
            have order := (List.pairwise_append.mp sorted).2.1
            have := (List.pairwise_cons.mp order).1 _ later
            exact KeyOrder.irreflexive _ (KeyOrder.transitive above this)
      subst same
      simp only [if_true]
      exact congrArg some (table.eq_of_mem_of_mem stands member)

theorem find?_eq_none_iff [DecidableEq κ] (table : Table κ ν) (key : κ) :
    table.find? key = none ↔ ∀ value, (key, value) ∉ table.toList := by
  constructor
  · intro absent value member
    rw [(table.find?_eq_some_iff key value).mpr member] at absent
    cases absent
  · intro absent
    cases found : table.find? key with
    | none => rfl
    | some value => exact absurd ((table.find?_eq_some_iff key value).mp found) (absent value)

/-- Tables that answer every look-up alike are equal. -/
theorem ext_find? [DecidableEq κ] {left right : Table κ ν}
    (alike : ∀ key, left.find? key = right.find? key) : left = right := by
  apply Table.ext
  have same : ∀ entry, entry ∈ left.toList ↔ entry ∈ right.toList := by
    intro ⟨key, value⟩
    rw [← find?_eq_some_iff, ← find?_eq_some_iff, alike]
  refine List.Perm.eq_of_pairwise ?_ left.ascending_toList right.ascending_toList
    ((List.perm_ext_iff_of_nodup left.nodup_toList right.nodup_toList).mpr same)
  intro first second _ _ less more
  exact absurd (KeyOrder.transitive less more) (KeyOrder.irreflexive _)

end Searches

section Changes

variable {κ ν : Type} [LT κ] [DecidableLT κ] [KeyOrder κ] [DecidableEq κ]

theorem filter_drop_eq (table : Table κ ν) (key : κ) :
    (table.toList.drop (table.countBelow key)).filter (fun entry => decide (entry.1 ≠ key))
      = table.toList.filter (fun entry => decide (key < entry.1)) := by
  rw [drop_eq_filter (table.divides_countBelow key), List.filter_filter]
  apply List.filter_congr
  intro entry _
  by_cases above : key < entry.1
  · have notBelow : ¬ entry.1 < key := fun below =>
      KeyOrder.irreflexive _ (KeyOrder.transitive above below)
    have differ : entry.1 ≠ key := fun same => by
      rw [same] at above
      exact KeyOrder.irreflexive _ above
    simp [above, notBelow, differ]
  · by_cases same : entry.1 = key
    · simp [same, KeyOrder.irreflexive]
    · have below : entry.1 < key := by
        refine Decidable.byContradiction fun notBelow => above ?_
        exact KeyOrder.connected notBelow same
      simp [above, below]

/-- Inserting keeps the entries below and above the key. -/
theorem toList_insert (table : Table κ ν) (key : κ) (value : ν) :
    (table.insert key value).toList
      = table.toList.filter (fun entry => decide (entry.1 < key))
        ++ (key, value) :: table.toList.filter (fun entry => decide (key < entry.1)) := by
  have front := take_eq_filter (table.divides_countBelow key)
  have back := table.filter_drop_eq key
  have new : (∀ entry ∈ table.toList.drop (table.countBelow key), entry.1 ≠ key) →
      table.entries.toList.insertIdx (table.countBelow key) (key, value)
        = table.toList.filter (fun entry => decide (entry.1 < key))
          ++ (key, value) :: table.toList.filter (fun entry => decide (key < entry.1)) := by
    intro absent
    have all : (table.toList.drop (table.countBelow key)).filter
        (fun entry => decide (entry.1 ≠ key)) = table.toList.drop (table.countBelow key) :=
      List.filter_eq_self.mpr fun entry member => decide_eq_true (absent entry member)
    rw [insertIdx_eq_take_append_drop _ _ _ (by simpa using table.countBelow_le_size key)]
    change table.toList.take _ ++ (key, value) :: table.toList.drop _ = _
    rw [front, ← back, all]
  unfold insert
  split
  · rename_i inside
    split
    · rename_i same
      have insideList : table.countBelow key < table.toList.length := by
        simpa [toList] using inside
      have rest : (table.toList.drop (table.countBelow key)).filter
          (fun entry => decide (entry.1 ≠ key))
            = table.toList.drop (table.countBelow key + 1) := by
        have sorted : Ascending (table.toList.drop (table.countBelow key)) :=
          List.Pairwise.sublist (List.drop_sublist _ _) table.ascending
        rw [table.drop_eq_cons _ inside] at sorted ⊢
        rw [List.filter_cons_of_neg (by simp [same])]
        refine List.filter_eq_self.mpr fun entry member => decide_eq_true fun equal => ?_
        have := (List.pairwise_cons.mp sorted).1 entry member
        rw [same, equal] at this
        exact KeyOrder.irreflexive _ this
      change (table.entries.set _ _ inside).toList = _
      rw [Array.toList_set, List.set_eq_take_append_cons_drop, if_pos (by simpa using inside)]
      change table.toList.take _ ++ (key, value) :: table.toList.drop _ = _
      rw [front, ← rest, back]
    · rename_i differs
      exact (Array.toList_insertIdx (table.countBelow_le_size key)).trans (new (table.ne_of_first_ne key fun _ => differs))
  · rename_i outside
    exact (Array.toList_insertIdx (table.countBelow_le_size key)).trans
      (new (table.ne_of_first_ne key fun holds => absurd holds outside))

theorem mem_toList_insert (table : Table κ ν) (key : κ) (value : ν) (entry : κ × ν) :
    entry ∈ (table.insert key value).toList
      ↔ entry = (key, value) ∨ (entry ∈ table.toList ∧ entry.1 ≠ key) := by
  rw [toList_insert, List.mem_append, List.mem_cons, List.mem_filter, List.mem_filter]
  simp only [decide_eq_true_eq]
  constructor
  · rintro (⟨member, below⟩ | same | ⟨member, above⟩)
    · exact .inr ⟨member, fun same => KeyOrder.irreflexive _ (same ▸ below)⟩
    · exact .inl same
    · exact .inr ⟨member, fun same => KeyOrder.irreflexive _ (same ▸ above)⟩
  · rintro (same | ⟨member, differ⟩)
    · exact .inr (.inl same)
    · by_cases below : entry.1 < key
      · exact .inl ⟨member, below⟩
      · exact .inr (.inr ⟨member, KeyOrder.connected below differ⟩)

@[simp] theorem find?_insert_self (table : Table κ ν) (key : κ) (value : ν) :
    (table.insert key value).find? key = some value := by
  rw [find?_eq_some_iff, mem_toList_insert]
  exact .inl rfl

theorem find?_insert_of_ne (table : Table κ ν) {key other : κ} (value : ν)
    (differ : other ≠ key) : (table.insert key value).find? other = table.find? other := by
  apply Option.ext
  intro found
  rw [find?_eq_some_iff, find?_eq_some_iff, mem_toList_insert]
  constructor
  · rintro (same | ⟨member, _⟩)
    · exact absurd (congrArg Prod.fst same) differ
    · exact member
  · exact fun member => .inr ⟨member, differ⟩

/-- Erasing keeps exactly the entries of the other keys. -/
theorem toList_erase (table : Table κ ν) (key : κ) :
    (table.erase key).toList = table.toList.filter (fun entry => decide (entry.1 ≠ key)) := by
  have front := table.lt_of_mem_take_countBelow key
  have kept : (table.toList.take (table.countBelow key)).filter
      (fun entry => decide (entry.1 ≠ key)) = table.toList.take (table.countBelow key) :=
    List.filter_eq_self.mpr fun entry member => decide_eq_true fun same =>
      KeyOrder.irreflexive _ (same ▸ front entry member)
  have halves : table.toList.filter (fun entry => decide (entry.1 ≠ key))
      = table.toList.take (table.countBelow key)
        ++ (table.toList.drop (table.countBelow key)).filter
          (fun entry => decide (entry.1 ≠ key)) := by
    conv => lhs; rw [← List.take_append_drop (table.countBelow key) table.toList]
    rw [List.filter_append, kept]
  have absent : (∀ entry ∈ table.toList.drop (table.countBelow key), entry.1 ≠ key) →
      table.toList = table.toList.filter (fun entry => decide (entry.1 ≠ key)) := by
    intro differs
    have all : (table.toList.drop (table.countBelow key)).filter
        (fun entry => decide (entry.1 ≠ key)) = table.toList.drop (table.countBelow key) :=
      List.filter_eq_self.mpr fun entry member => decide_eq_true (differs entry member)
    rw [halves, all, List.take_append_drop]
  unfold erase
  split
  · rename_i inside
    split
    · rename_i same
      have sorted : Ascending (table.toList.drop (table.countBelow key)) :=
        List.Pairwise.sublist (List.drop_sublist _ _) table.ascending
      have rest : (table.toList.drop (table.countBelow key)).filter
          (fun entry => decide (entry.1 ≠ key))
            = table.toList.drop (table.countBelow key + 1) := by
        rw [table.drop_eq_cons _ inside] at sorted ⊢
        rw [List.filter_cons_of_neg (by simp [same])]
        refine List.filter_eq_self.mpr fun entry member => decide_eq_true fun equal => ?_
        have := (List.pairwise_cons.mp sorted).1 entry member
        rw [same, equal] at this
        exact KeyOrder.irreflexive _ this
      change (table.entries.eraseIdx _ inside).toList = _
      rw [Array.toList_eraseIdx, List.eraseIdx_eq_take_drop_succ, halves, rest]
      rfl
    · rename_i differs
      exact absent (table.ne_of_first_ne key fun _ => differs)
  · rename_i outside
    exact absent (table.ne_of_first_ne key fun holds => absurd holds outside)

theorem mem_toList_erase (table : Table κ ν) (key : κ) (entry : κ × ν) :
    entry ∈ (table.erase key).toList ↔ entry ∈ table.toList ∧ entry.1 ≠ key := by
  rw [toList_erase, List.mem_filter, decide_eq_true_eq]

@[simp] theorem find?_erase_self (table : Table κ ν) (key : κ) :
    (table.erase key).find? key = none := by
  rw [find?_eq_none_iff]
  intro value member
  exact ((table.mem_toList_erase key _).mp member).2 rfl

theorem find?_erase_of_ne (table : Table κ ν) {key other : κ} (differ : other ≠ key) :
    (table.erase key).find? other = table.find? other := by
  apply Option.ext
  intro found
  rw [find?_eq_some_iff, find?_eq_some_iff, mem_toList_erase]
  exact ⟨And.left, fun member => ⟨member, differ⟩⟩

end Changes

end KeySequenced.Table
