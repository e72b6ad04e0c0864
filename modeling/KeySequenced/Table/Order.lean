import KeySequenced.Table.Basic

/-!
# Positions in a table

`countBelow` and `countUpTo` are the lengths of the prefixes that they count,
and the lists that putting, replacing or taking away one entry produces are in
ascending order again.
-/

set_option autoImplicit false

namespace KeySequenced.Table

/-- `<` orders the keys strictly and compares any two of them. -/
class KeyOrder (κ : Type) [LT κ] : Prop where
  irreflexive : ∀ key : κ, ¬ key < key
  transitive : ∀ {first second third : κ}, first < second → second < third → first < third
  connected : ∀ {first second : κ}, ¬ first < second → first ≠ second → second < first

theorem KeyOrder.ofLinearOrder {κ : Type} [LT κ] [LE κ] [Std.IsLinearOrder κ]
    [Std.LawfulOrderLT κ] : KeyOrder κ where
  irreflexive _ := Std.lt_irrefl
  transitive := Std.lt_trans
  connected := fun {first second} notBelow differ => by
    rcases Std.lt_trichotomy first second with less | same | more
    · exact absurd less notBelow
    · exact absurd same differ
    · exact more

instance : KeyOrder Nat := .ofLinearOrder

instance : KeyOrder UInt64 := .ofLinearOrder

instance : KeyOrder String := .ofLinearOrder

instance : KeyOrder (List UInt8) := .ofLinearOrder

instance : KeyOrder (List String) := .ofLinearOrder

section Positions

variable {κ ν : Type} [LT κ]

theorem insertIdx_eq_take_append_drop {α : Type} (entries : List α) (entry : α) (position : Nat)
    (within : position ≤ entries.length) :
    entries.insertIdx position entry
      = entries.take position ++ entry :: entries.drop position := by
  induction entries generalizing position with
  | nil =>
    have : position = 0 := by simpa using within
    subst this
    rfl
  | cons first rest ih =>
    cases position with
    | zero => simp
    | succ position =>
      simp only [List.insertIdx_succ_cons, List.take_succ_cons, List.drop_succ_cons,
        List.cons_append]
      rw [ih position (by simpa using within)]

theorem drop_eq_cons (table : Table κ ν) (position : Nat)
    (inside : position < table.entries.size) :
    table.toList.drop position
      = table.entries[position] :: table.toList.drop (position + 1) := by
  have insideList : position < table.toList.length := by simpa [toList] using inside
  rw [List.drop_eq_getElem_cons insideList]
  simp [toList]

theorem ascending_set (table : Table κ ν) (key : κ) (value : ν) (position : Nat)
    (inside : position < table.entries.size) (same : table.entries[position].1 = key) :
    Ascending (table.entries.set position (key, value) inside).toList := by
  have insideList : position < table.toList.length := by simpa [toList] using inside
  have sorted := table.ascending
  unfold Ascending at sorted ⊢
  rw [Array.toList_set]
  have keysSame : (table.entries.toList.set position (key, value)).map Prod.fst
      = table.entries.toList.map Prod.fst := by
    rw [List.map_set]
    have insideKeys : position < (table.entries.toList.map Prod.fst).length := by
      simpa using inside
    have : (key, value).1 = (table.entries.toList.map Prod.fst)[position] := by
      simp [same]
    rw [this, List.set_getElem_self]
  have onKeys : (table.entries.toList.map Prod.fst).Pairwise (· < ·) := List.pairwise_map.mpr sorted
  rw [← keysSame] at onKeys
  exact List.pairwise_map.mp onKeys

end Positions

section Orders

variable {κ ν : Type} [LT κ] [KeyOrder κ]

/-- Putting a key where all keys before are below it and all from there on are
above it keeps the order. -/
theorem ascending_between {before after : List (κ × ν)} {entry : κ × ν}
    (sortedBefore : Ascending before) (sortedAfter : Ascending after)
    (below : ∀ earlier ∈ before, earlier.1 < entry.1)
    (above : ∀ later ∈ after, entry.1 < later.1) :
    Ascending (before ++ entry :: after) := by
  refine List.pairwise_append.mpr ⟨sortedBefore, List.pairwise_cons.mpr ⟨above, sortedAfter⟩, ?_⟩
  intro earlier inBefore later inAfter
  rcases List.mem_cons.mp inAfter with same | further
  · subst same
    exact below earlier inBefore
  · exact KeyOrder.transitive (below earlier inBefore) (above later further)

end Orders

section Counts

variable {κ ν : Type} [LT κ] [DecidableLT κ] [KeyOrder κ]

theorem passesFirst_below {entries : List (κ × ν)} (sorted : Ascending entries) (key : κ) :
    PassesFirst entries (fun entry => decide (entry.1 < key)) :=
  sorted.imp fun order below => decide_eq_true (KeyOrder.transitive order (of_decide_eq_true below))

theorem passesFirst_upTo {entries : List (κ × ν)} (sorted : Ascending entries) (key : κ) :
    PassesFirst entries (fun entry => !decide (key < entry.1)) :=
  sorted.imp fun order notAbove => by
    simp only [Bool.not_eq_true', decide_eq_false_iff_not] at notAbove ⊢
    exact fun above => notAbove (KeyOrder.transitive above order)

theorem countBelow_eq (table : Table κ ν) (key : κ) :
    table.countBelow key
      = (table.toList.takeWhile (fun entry => decide (entry.1 < key))).length :=
  boundary_eq_length_takeWhile _ _ (passesFirst_below table.ascending key)

theorem countUpTo_eq (table : Table κ ν) (key : κ) :
    table.countUpTo key
      = (table.toList.takeWhile (fun entry => !decide (key < entry.1))).length :=
  boundary_eq_length_takeWhile _ _ (passesFirst_upTo table.ascending key)

theorem countBelow_le_size (table : Table κ ν) (key : κ) :
    table.countBelow key ≤ table.entries.size := by
  rw [countBelow_eq]
  simpa [toList] using
    (List.takeWhile_sublist (l := table.toList) (fun entry => decide (entry.1 < key))).length_le

theorem divides_countBelow (table : Table κ ν) (key : κ) :
    Divides table.toList (fun entry => decide (entry.1 < key)) (table.countBelow key) := by
  rw [countBelow_eq]
  exact divides_length_takeWhile (passesFirst_below table.ascending key)

theorem lt_of_mem_take_countBelow (table : Table κ ν) (key : κ) :
    ∀ entry ∈ table.toList.take (table.countBelow key), entry.1 < key := by
  intro entry member
  obtain ⟨i, inside, equal⟩ := List.mem_iff_getElem.mp member
  obtain ⟨_, before, _⟩ := table.divides_countBelow key
  simp only [List.length_take] at inside
  have := before i (by omega) (by omega)
  rw [← equal, List.getElem_take]
  exact of_decide_eq_true this

theorem not_lt_of_mem_drop_countBelow (table : Table κ ν) (key : κ) :
    ∀ entry ∈ table.toList.drop (table.countBelow key), ¬ entry.1 < key := by
  intro entry member
  obtain ⟨i, inside, equal⟩ := List.mem_iff_getElem.mp member
  obtain ⟨_, _, after⟩ := table.divides_countBelow key
  simp only [List.length_drop] at inside
  have := after (table.countBelow key + i) (by omega) (by omega)
  rw [← equal, List.getElem_drop]
  exact of_decide_eq_false this

theorem ascending_insert (table : Table κ ν) (key : κ) (value : ν)
    (absent : ∀ entry ∈ table.toList.drop (table.countBelow key), entry.1 ≠ key) :
    Ascending (table.toList.take (table.countBelow key)
      ++ (key, value) :: table.toList.drop (table.countBelow key)) :=
  ascending_between
    (List.Pairwise.sublist (List.take_sublist _ _) table.ascending)
    (List.Pairwise.sublist (List.drop_sublist _ _) table.ascending)
    (table.lt_of_mem_take_countBelow key)
    (fun entry member =>
      KeyOrder.connected (table.not_lt_of_mem_drop_countBelow key entry member)
        (absent entry member))

/-- Only the first entry at or above a key can have that key. -/
theorem ne_of_first_ne (table : Table κ ν) (key : κ)
    (differs : ∀ inside : table.countBelow key < table.entries.size,
      table.entries[table.countBelow key].1 ≠ key) :
    ∀ entry ∈ table.toList.drop (table.countBelow key), entry.1 ≠ key := by
  intro entry member
  by_cases inside : table.countBelow key < table.entries.size
  · have split := table.drop_eq_cons _ inside
    have sorted : Ascending (table.toList.drop (table.countBelow key)) :=
      List.Pairwise.sublist (List.drop_sublist _ _) table.ascending
    have firstAbove : key < (table.entries[table.countBelow key]).1 :=
      KeyOrder.connected
        (table.not_lt_of_mem_drop_countBelow key _ (by rw [split]; exact List.mem_cons_self))
        (differs inside)
    rw [split] at member sorted
    rcases List.mem_cons.mp member with same | further
    · subst same
      exact differs inside
    · intro equal
      have order := (List.pairwise_cons.mp sorted).1 entry further
      rw [equal] at order
      exact KeyOrder.irreflexive _ (KeyOrder.transitive order firstAbove)
  · have short : table.toList.length ≤ table.countBelow key := by
      simpa [toList] using inside
    rw [List.drop_eq_nil_of_le short] at member
    exact absurd member List.not_mem_nil

end Counts

end KeySequenced.Table
