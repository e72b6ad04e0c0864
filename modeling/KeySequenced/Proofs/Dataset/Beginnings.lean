import KeySequenced.Proofs.Dataset.Latest

/-!
# Reading by the beginning of a key

The keys that begin with a byte string follow it without a gap: what stands
between the beginning and a key that extends it extends it too.  So the least key
that is not below the beginning extends it if any stored key does, and reading by
the beginning, which looks at that key alone, finds the least of them.
-/

set_option autoImplicit false

namespace KeySequenced

/-- Between a beginning and a key that extends it stand only keys that extend it. -/
theorem Key.isPrefix_of_between {beginning key longer : Key} (begins : beginning <+: longer)
    (notBelow : ¬ key < beginning) (notAbove : ¬ longer < key) : beginning <+: key := by
  induction beginning generalizing key longer with
  | nil => exact List.nil_prefix
  | cons byte beginning ih =>
    cases longer with
    | nil => simp at begins
    | cons other longer =>
      obtain ⟨rfl, further⟩ := List.cons_prefix_cons.mp begins
      cases key with
      | nil => exact absurd (List.nil_lt_cons byte beginning) notBelow
      | cons first key =>
        rw [List.cons_lt_cons_iff, not_or] at notBelow notAbove
        -- The first byte stands between two equal ones.
        obtain rfl : first = byte :=
          UInt8.le_antisymm (UInt8.not_lt.mp notAbove.1) (UInt8.not_lt.mp notBelow.1)
        rw [List.cons_prefix_cons]
        refine ⟨rfl, ih further ?_ ?_⟩
        · exact fun less => notBelow.2 ⟨rfl, less⟩
        · exact fun less => notAbove.2 ⟨rfl, less⟩

namespace Store

/-- The record has the least stored key with the beginning. -/
structure LeastBeginning (store : Store) (beginning : Key) (record : Record) : Prop where
  stored : store.find? record.key = some record
  begins : beginning <+: record.key
  least : ∀ other, store.find? other ≠ none → beginning <+: other →
    other = record.key ∨ record.key < other

section Beginnings

variable {definition : Definition} {store : Store} {beginning key : Key} {record : Record}

theorem Consistent.least_of_atOrAbove? (consistent : Consistent definition store)
    (found : store.atOrAbove? key = some record) :
    store.find? record.key = some record ∧ ¬ record.key < key ∧
      ∀ other, store.find? other ≠ none → ¬ other < key →
        other = record.key ∨ record.key < other := by
  obtain ⟨⟨own, stood⟩, first, rfl⟩ := Option.map_eq_some_iff.mp found
  obtain ⟨member, notBelow, least⟩ := store.records.least_of_atOrAbove? first
  have stored : store.find? own = some stood := (store.records.find?_eq_some_iff _ _).mpr member
  obtain rfl := (consistent.proper own stood stored).key_eq
  refine ⟨stored, notBelow, ?_⟩
  intro other stands otherNotBelow
  obtain ⟨another, stored⟩ := Option.ne_none_iff_exists'.mp stands
  rcases least (other, another) ((store.records.find?_eq_some_iff _ _).mp stored) otherNotBelow with
    same | above
  · exact .inl (congrArg Prod.fst same)
  · exact .inr above

theorem Consistent.atOrAbove?_of_find? (consistent : Consistent definition store)
    (stored : store.find? key = some record) : store.atOrAbove? key = some record := by
  cases found : store.atOrAbove? key with
  | none =>
    rw [atOrAbove?, Option.map_eq_none_iff, Table.atOrAbove?_eq_find?, List.find?_eq_none] at found
    have below := found _ ((store.records.find?_eq_some_iff key record).mp stored)
    simp at below
  | some first =>
    obtain ⟨stands, notBelow, least⟩ := consistent.least_of_atOrAbove? found
    rcases least key (by simp [stored]) (Table.KeyOrder.irreflexive key) with same | below
    · rw [← same, stored] at stands
      exact stands.symm
    · exact absurd below notBelow

theorem LeastBeginning.unique {another : Record} (least : LeastBeginning store beginning record)
    (alsoLeast : LeastBeginning store beginning another) : another = record := by
  have same : another.key = record.key := by
    rcases least.least another.key (by simp [alsoLeast.stored]) alsoLeast.begins with same | above
    · exact same
    rcases alsoLeast.least record.key (by simp [least.stored]) least.begins with same | below
    · exact same.symm
    · exact absurd (Table.KeyOrder.transitive above below) (Table.KeyOrder.irreflexive _)
  have stored := alsoLeast.stored
  rw [same, least.stored] at stored
  exact (Option.some.inj stored).symm

theorem Consistent.leastBeginning_of_atOrAbove? (consistent : Consistent definition store)
    (found : store.atOrAbove? beginning = some record) (stored : store.find? key ≠ none)
    (begins : beginning <+: key) : LeastBeginning store beginning record := by
  obtain ⟨stands, notBelow, least⟩ := consistent.least_of_atOrAbove? found
  have notAbove : ¬ key < record.key := by
    rcases least key stored begins.le with rfl | above
    · exact Table.KeyOrder.irreflexive _
    · exact fun below => Table.KeyOrder.irreflexive _ (Table.KeyOrder.transitive above below)
  exact ⟨stands, Key.isPrefix_of_between begins notBelow notAbove,
    fun other held also => least other held also.le⟩

theorem Consistent.exists_leastBeginning (consistent : Consistent definition store)
    (stored : store.find? key ≠ none) (begins : beginning <+: key) :
    ∃ record, store.atOrAbove? beginning = some record ∧
      LeastBeginning store beginning record := by
  cases found : store.atOrAbove? beginning with
  | none =>
    obtain ⟨record, stands⟩ := Option.ne_none_iff_exists'.mp stored
    rw [atOrAbove?, Option.map_eq_none_iff, Table.atOrAbove?_eq_find?, List.find?_eq_none] at found
    have below := found _ ((store.records.find?_eq_some_iff key record).mp stands)
    exact absurd begins.le (by simpa using below)
  | some record => exact ⟨record, rfl, consistent.leastBeginning_of_atOrAbove? found stored begins⟩

end Beginnings

end Store

namespace Dataset

section Reading

variable {definition : Definition} {dataset : Dataset} {beginning : Key}

/-- An open dataset refuses a read only for want of the record. -/
theorem eq_otherwise_of_answerRead {found : Option Record} {otherwise fault : Fault}
    (unshut : dataset.closed? = none)
    (failed : (dataset.answerRead found otherwise).1 = .error fault) : fault = otherwise := by
  cases found with
  | none =>
    simp only [answerRead, unshut, Except.error.injEq] at failed
    exact failed.symm
  | some record => simp [answerRead, unshut] at failed

theorem Sound.readGeneric_eq_ok_iff (sound : Sound definition dataset)
    (unshut : dataset.closed? = none) (record : Record) :
    (dataset.readGeneric beginning).1 = .ok record ↔
      dataset.store.LeastBeginning beginning record := by
  simp only [readGeneric, answerRead_eq_ok_iff, Option.filter_eq_some_iff,
    List.isPrefixOf_iff_prefix, unshut, true_and]
  constructor
  · rintro ⟨found, begins⟩
    have stored := (sound.consistent.least_of_atOrAbove? found).1
    exact sound.consistent.leastBeginning_of_atOrAbove? found (by simp [stored]) begins
  · intro least
    obtain ⟨other, found, alsoLeast⟩ :=
      sound.consistent.exists_leastBeginning (by simp [least.stored]) least.begins
    obtain rfl := least.unique alsoLeast
    exact ⟨found, least.begins⟩

end Reading

/-- Reading by the beginning of a key succeeds exactly if a stored key has that beginning, and
gives the record with the least such key.  The first key at or above the beginning, on which the
answer rests, has the beginning whenever a stored key has it. -/
theorem readGeneric_least (definition : Definition) (location : Option String)
    (history : List Request) (beginning : Key)
    (opened : ((new definition location).follow history).isOpen = true) :
    let dataset := (new definition location).follow history
    let answer := (dataset.readGeneric beginning).1
    ((∃ record, answer = .ok record) ↔ ∃ key, dataset.Stores key ∧ beginning <+: key) ∧
    (∀ record, answer = .ok record ↔ dataset.store.find? record.key = some record ∧
      beginning <+: record.key ∧
      ∀ other, dataset.Stores other → beginning <+: other →
        other = record.key ∨ record.key < other) ∧
    ((¬ ∃ key, dataset.Stores key ∧ beginning <+: key) →
      answer = .error (.recordNotFound (Key.display beginning))) ∧
    ∀ key first, dataset.Stores key → beginning <+: key →
      dataset.store.atOrAbove? beginning = some first → beginning <+: first.key := by
  intro dataset answer
  have sound : Sound definition dataset := sound_follow definition location history
  have unshut : dataset.closed? = none :=
    (closed?_eq_none_iff dataset).mpr (Option.isSome_iff_exists.mp opened)
  have answers : ∀ record, answer = .ok record ↔
      dataset.store.LeastBeginning beginning record := sound.readGeneric_eq_ok_iff unshut
  have succeeds : (∃ record, answer = .ok record) ↔
      ∃ key, dataset.Stores key ∧ beginning <+: key := by
    constructor
    · rintro ⟨record, success⟩
      have least := (answers record).mp success
      exact ⟨record.key, by simp [Stores, least.stored], least.begins⟩
    · rintro ⟨key, stores, begins⟩
      obtain ⟨record, _, least⟩ := sound.consistent.exists_leastBeginning stores begins
      exact ⟨record, (answers record).mpr least⟩
  refine ⟨succeeds, ?_, ?_, ?_⟩
  · intro record
    rw [answers]
    constructor
    · intro least
      exact ⟨least.stored, least.begins, least.least⟩
    · rintro ⟨stored, begins, least⟩
      exact ⟨stored, begins, least⟩
  · intro nothing
    cases result : answer with
    | ok record => exact absurd (succeeds.mp ⟨record, result⟩) nothing
    | error fault => exact congrArg Except.error (eq_otherwise_of_answerRead unshut result)
  · intro key first stores begins found
    exact (sound.consistent.leastBeginning_of_atOrAbove? found stores begins).begins

/-- The key in hexadecimal 41 stands below all keys that begin with 41 42, and 42 above them. -/
theorem readGeneric_among_neighbours :
    let history : List Request := [.openFor ⟨.inputOutput, .dynamic⟩, .write (.new [0x42] [1]),
      .write (.new [0x41, 0x42, 0xff] [2]), .write (.new [0x41] [3]),
      .write (.new [0x41, 0x42, 0x43] [4]), .write (.new [0x41, 0x42, 0x43, 0x00] [5])].map fun operation => ⟨operation, .empty⟩
    let dataset := (new (.keyed "C" 4) none).follow history
    dataset.isOpen = true ∧
      (dataset.readGeneric [0x41, 0x42]).1 = .ok (.live [0x41, 0x42, 0x43] [4] (.rba 8)) ∧
      (dataset.readGeneric [0x41, 0x43]).1 = .error (.recordNotFound "AC") := by
  intro history dataset
  have opened : dataset.isOpen = true := by decide +kernel
  obtain ⟨_, found, _⟩ := readGeneric_least (.keyed "C" 4) none history [0x41, 0x42] opened
  obtain ⟨_, _, missed, _⟩ := readGeneric_least (.keyed "C" 4) none history [0x41, 0x43] opened
  have keys : ∀ key, dataset.Stores key → key ∈ [[0x41], [0x41, 0x42, 0x43],
      [0x41, 0x42, 0x43, 0x00], [0x41, 0x42, 0xff], [0x42]] := by
    intro key stores
    obtain ⟨record, stands⟩ := Option.ne_none_iff_exists'.mp stores
    have listed : dataset.store.records.keys = [[0x41], [0x41, 0x42, 0x43],
      [0x41, 0x42, 0x43, 0x00], [0x41, 0x42, 0xff], [0x42]] := by decide +kernel
    rw [← listed]
    exact List.mem_map_of_mem ((dataset.store.records.find?_eq_some_iff key record).mp stands)
  constructor
  · exact opened
  constructor
  · apply (found _).mpr
    refine ⟨by decide +kernel, by decide, fun other stores => ?_⟩
    generalize other = key at stores ⊢
    have member := keys key stores
    clear stores
    revert key
    decide
  · refine (missed ?_).trans (by decide +kernel)
    rintro ⟨key, stores, begins⟩
    have member := keys key stores
    clear stores
    revert begins
    revert member
    revert key
    decide

end Dataset

end KeySequenced
