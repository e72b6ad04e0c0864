import KeySequenced.Proofs.Dataset.Beginnings
import KeySequenced.Proofs.Dataset.Indexed
import KeySequenced.Proofs.Dataset.Limits
import KeySequenced.Proofs.Demonstration.Filling

/-!
# Browsing the demonstration dataset

The records of the numbers lie in the order of the numbers.  A run places its
cursor on the first of them and prints the others, each on a line, until it meets
the end of the data; the last line counts them.
-/

set_option autoImplicit false

namespace KeySequenced.Demonstration

/-! ## The records in order -/

def rbaOf (dataset : Dataset) (number : Nat) : UInt64 :=
  ((dataset.store.find? (keyOf number)).map (·.address.offset)).getD 0

section Order

variable {name : String} {location : Option String} {session : Option Session}
  {numbers : List Nat} {next number greatest : Nat} {dataset : Dataset}

theorem pairwise_kept (greatest : Nat) : (kept greatest).Pairwise (· < ·) :=
  (List.pairwise_lt_range' 1).filter _

theorem kept_succ (greatest : Nat) :
    kept (greatest + 1) = kept greatest ++ [greatest + 1].filter (· ≠ 3) := by
  rw [kept, List.range'_concat, List.filter_append, Nat.one_mul, Nat.add_comm 1 greatest]
  rfl

theorem exists_kept_eq_cons (positive : 1 ≤ greatest) :
    ∃ later, kept greatest = 1 :: later := by
  obtain ⟨more, rfl⟩ := Nat.exists_eq_add_of_le' positive
  exact ⟨_, by rw [kept, List.range'_succ, List.filter_cons_of_pos (by decide)]⟩

/-- Without the third there is one number less. -/
theorem length_kept (greatest : Nat) :
    (kept greatest).length = if greatest < 3 then greatest else greatest - 1 := by
  induction greatest with
  | zero => rfl
  | succ greatest ih =>
    rw [kept_succ, List.length_append, ih]
    by_cases third : greatest + 1 = 3
    · obtain rfl : greatest = 2 := Nat.succ.inj third
      rfl
    · have another : ([greatest + 1].filter (· ≠ 3)).length = 1 := by simp [third]
      rw [another]
      split <;> split <;> omega

theorem Holds.find?_eq (holds : Holds name location session numbers next dataset)
    (member : number ∈ numbers) :
    dataset.store.find? (keyOf number) = some (recordOf number (rbaOf dataset number)) := by
  obtain ⟨rba, found⟩ := holds.complete number member
  rw [rbaOf, found]
  rfl

/-- The store lists the records in the order of their numbers. -/
theorem Holds.toList_eq (holds : Holds name location session numbers next dataset)
    (ascending : numbers.Pairwise (· < ·)) :
    dataset.store.toList = numbers.map fun number => recordOf number (rbaOf dataset number) := by
  apply holds.sound.consistent.toList_eq
  · rw [List.pairwise_map]
    apply ascending.imp_of_mem
    intro number other _ member below
    exact keyOf_lt_keyOf below (holds.small other member).2
  · intro record
    rw [List.mem_map]
    constructor
    · rintro ⟨number, member, rfl⟩
      exact holds.find?_eq member
    · intro found
      obtain ⟨⟨number, member, same⟩, _⟩ := holds.only _ record found
      rw [same, holds.find?_eq member] at found
      exact ⟨number, member, Option.some.inj found⟩

theorem Holds.size_eq (holds : Holds name location session numbers next dataset)
    (ascending : numbers.Pairwise (· < ·)) : dataset.size = numbers.length := by
  have whole := congrArg List.length (holds.toList_eq ascending)
  rw [List.length_map, Store.toList, List.length_map] at whole
  rw [Dataset.size, Store.size, Table.size_eq_length, whole]

/-- None of the records has been erased. -/
theorem Holds.unmarked_eq (holds : Holds name location session numbers next dataset)
    (ascending : numbers.Pairwise (· < ·)) : dataset.store.unmarked = dataset.store := by
  refine Store.unmarked_eq_self ?_
  rw [holds.toList_eq ascending, List.forall_mem_map]
  exact fun _ _ => rfl

end Order

/-! ## Through a cursor -/

section Browsing

variable {name : String} {location : Option String} {session : Session} {numbers : List Nat}
  {next : Nat} {dataset : Dataset} {path : String} {volume : Volume}

/-- From the record at an index on, browsing prints the later records and meets the end. -/
theorem Holds.browse (holds : Holds name location (some session) numbers next dataset)
    {number : UInt64} {index steps : Nat} {cursor : Cursor} {place : Position} {record : Record}
    (live : dataset.cursors.find? number = some cursor) (free : cursor.atEnd = false)
    (resting : cursor.resting = some place)
    (stands : dataset.store.toList[index]? = some record) (same : record.key = place.key)
    (enough : dataset.store.toList.length ≤ index + steps) (printed : List String) :
    ∃ after, browse steps number printed dataset
        = (none, ((dataset.store.toList.drop (index + 1)).map recordLine).reverse ++ printed,
          after) ∧
      Holds name location (some session) numbers next after ∧ after.store = dataset.store := by
  have unshut {other : Dataset} (held : Holds name location (some session) numbers next other) :
      other.closed? = none := (Dataset.closed?_eq_none_iff _).mpr ⟨session, held.seated⟩
  induction steps generalizing index cursor place record printed dataset with
  | zero =>
    have inside := (List.getElem?_eq_some_iff.mp stands).1
    omega
  | succ steps ih =>
    have beyond : dataset.beyond? .forward cursor.resting
        = dataset.store.toList[index + 1]? := by
      rw [resting]
      simp only [Dataset.beyond?, Dataset.recordAfter?, ← same]
      exact holds.sound.consistent.above?_of_getElem? stands
    have stepped := dataset.step_eq number (some .forward) (unshut holds) live
    have transition := dataset.transition_step .empty (.readNext number) number (some .forward) rfl
    simp only [Option.getD_some, Cursor.stopped, free, Bool.false_eq_true, if_false, beyond]
      at stepped
    cases onward : dataset.store.toList[index + 1]? with
    | none =>
      have last := List.getElem?_eq_none_iff.mp onward
      simp only [onward] at stepped
      rw [stepped] at transition
      refine ⟨_, ?_, holds.of_transition transition (by simp) rfl, rfl⟩
      simp only [Demonstration.browse, stepped, List.drop_eq_nil_of_le last]
      rfl
    | some following =>
      simp only [onward] at stepped
      rw [stepped] at transition
      have moved := holds.of_transition transition (by simp) rfl
      obtain ⟨inside, here⟩ := List.getElem?_eq_some_iff.mp onward
      have later : dataset.store.toList.drop (index + 1)
          = following :: dataset.store.toList.drop (index + 2) := by
        rw [List.drop_eq_getElem_cons inside, here]
      obtain ⟨after, browsed, held, kept⟩ := ih moved
        ((dataset.find?_setCursor number number _).trans (if_pos rfl)) rfl rfl onward rfl
        (show dataset.store.toList.length ≤ _ by omega) (recordLine following :: printed)
      refine ⟨after, ?_, held, kept⟩
      rw [Demonstration.browse, stepped, later, List.map_cons, List.reverse_cons,
        List.append_assoc]
      exact browsed

theorem Holds.startBrowse (holds : Holds name location (some session) numbers next dataset)
    (member : 1 ∈ numbers) :
    ∃ started, dataset.startBrowse (keyOf 1) true .forward = (.ok dataset.nextCursor, started) ∧
      started.cursors.find? dataset.nextCursor
        = some ((Cursor.new .forward).placeAt (keyOf 1) (.rba (rbaOf dataset 1))) ∧
      Holds name location (some session) numbers next started ∧
      started.store = dataset.store := by
  have unshut := (Dataset.closed?_eq_none_iff _).mpr ⟨session, holds.seated⟩
  have first := holds.sound.consistent.atOrAbove?_of_find? (holds.find?_eq member)
  have transition : Dataset.Transition dataset .empty _ _ _ :=
    .started (keyOf 1) true .forward unshut
  refine ⟨_, ?_, ?_, holds.of_transition transition (by simp) rfl, rfl⟩
  · simp only [Dataset.startBrowse, unshut, if_true]
  · simp only [if_true, first]
    exact (dataset.find?_setCursor _ _ _).trans (if_pos rfl)

theorem Holds.endBrowse (holds : Holds name location (some session) numbers next dataset)
    (number : UInt64) :
    ∃ ended, dataset.endBrowse number = (.ok (), ended) ∧
      Holds name location (some session) numbers next ended ∧ ended.store = dataset.store := by
  have unshut := (Dataset.closed?_eq_none_iff _).mpr ⟨session, holds.seated⟩
  have transition : Dataset.Transition dataset .empty _ _ _ := .ended number unshut
  refine ⟨_, ?_, holds.of_transition transition (by simp) rfl, rfl⟩
  simp only [Dataset.endBrowse, unshut]

/-- Its records can be written, so the volume alone decides whether it can be closed. -/
theorem Holds.close_succeeds (holds : Holds name (some path) (some session) numbers next dataset)
    (valid : (definition name).defect? = none) (takes : volume.Takes path) :
    (dataset.close volume).1 = .ok () := by
  have within : dataset.store.toSnapshot.oversize? = none :=
    (Snapshot.oversize?_eq_none_iff _).mpr (holds.sound.oversize?_eq_none valid)
  refine (Dataset.close_succeeds_iff within volume).mpr ⟨?_, ?_⟩
  · rw [Dataset.isOpen, holds.seated]
    rfl
  · intro other located
    rw [holds.located] at located
    cases located
    exact takes

theorem startLines_eq (address : Address) :
    startLines ((Cursor.new .forward).placeAt (keyOf 1) address)
      = ["browse positioned on KEY00001"] := by
  change ["browse positioned on " ++ Key.display (keyOf 1)] = _
  rw [display_keyOf]
  rfl

def lineOf (number : Nat) (rba : UInt64) : String :=
  "KEY" ++ fiveDigits number ++ "  RBA(" ++ toString rba.toNat ++ ")  record " ++ toString number

theorem recordLine_recordOf (number : Nat) (rba : UInt64) :
    recordLine (recordOf number rba) = lineOf number rba := by
  simp only [recordLine, recordOf, Record.live, display_keyOf, ofBytes_dataOf, lineOf]
  change "KEY" ++ fiveDigits number ++ "  " ++ ("RBA(" ++ toString rba.toNat ++ ")") ++ "  "
    ++ ("record " ++ toString number) = _
  apply String.toList_inj.mp
  simp

end Browsing

/-! ## What a run presents -/

section Presenting

variable {name path : String} {location : Option String} {session : Option Session}
  {next greatest : Nat} {dataset : Dataset} {volume : Volume}

/-- The lines of a run: the first record, the others in their order, and their number. -/
def Prints (name : String) (greatest : Nat) (place : Nat → UInt64) (lines : List String) : Prop :=
  ∃ rest, lines = "browse positioned on KEY00001"
    :: ((kept greatest).drop 1).map (fun number => lineOf number (place number))
    ++ [name ++ ": " ++ toString (if greatest < 3 then greatest else greatest - 1) ++ " records, "
      ++ rest]

theorem Holds.summaryLine_eq (holds : Holds name location session (kept greatest) next dataset) :
    ∃ rest, summaryLine dataset = name ++ ": "
      ++ toString (if greatest < 3 then greatest else greatest - 1) ++ " records, " ++ rest := by
  have named : dataset.clusterName = name := by
    rw [Dataset.clusterName, holds.sound.definition_eq]
    rfl
  rw [summaryLine, named, holds.size_eq (pairwise_kept _), length_kept]
  refine ⟨toString dataset.statistics.totalOperations ++ " operations, "
    ++ dataset.statistics.spaceUtilization.fixed 1 ++ "% space used", ?_⟩
  simp only [String.append_assoc]

/-- What the dataset holds is printed, and the dataset is closed with it. -/
theorem Holds.present (holds : Holds name (some path) (some modes) (kept greatest) next dataset)
    (valid : (definition name).defect? = none) (positive : 1 ≤ greatest)
    (takes : volume.Takes path) :
    ∃ ended lines, present dataset volume = (⟨lines, none⟩, (ended.close volume).2.2) ∧
      Prints name greatest (rbaOf dataset) lines ∧
      Holds name (some path) (some modes) (kept greatest) next ended ∧
      ended.store = dataset.store ∧ (ended.close volume).1 = .ok () := by
  obtain ⟨later, whole⟩ := exists_kept_eq_cons positive
  obtain ⟨started, starts, live, begun, startStore⟩ :=
    holds.startBrowse (by rw [whole]; exact List.mem_cons_self)
  have records := begun.toList_eq (pairwise_kept _)
  have first : started.store.toList[0]? = some (recordOf 1 (rbaOf started 1)) := by
    rw [records, whole]
    rfl
  have enough : started.store.toList.length ≤ 0 + (started.size + 1) := by
    rw [begun.size_eq (pairwise_kept _), records, List.length_map]
    omega
  obtain ⟨browsed, browses, held, browsedStore⟩ := begun.browse live rfl rfl first rfl enough
    ["browse positioned on KEY00001"]
  obtain ⟨ended, ends, left, sameStore⟩ := held.endBrowse dataset.nextCursor
  have endedStore : ended.store = dataset.store := (sameStore.trans browsedStore).trans startStore
  have closes := left.close_succeeds valid takes
  obtain ⟨rest, summary⟩ := left.summaryLine_eq
  refine ⟨ended, _, ?_, ⟨rest, rfl⟩, left, endedStore, closes⟩
  obtain ⟨⟨result, shut, after⟩, closing⟩ : ∃ outcome, ended.close volume = outcome := ⟨_, rfl⟩
  rw [closing] at closes
  cases closes
  have printed : ((started.store.toList.drop (0 + 1)).map recordLine)
      = ((kept greatest).drop 1).map fun number => lineOf number (rbaOf dataset number) := by
    rw [records, ← List.map_drop, List.map_map]
    apply List.map_congr_left
    intro number member
    rw [Function.comp_apply, recordLine_recordOf, rbaOf, rbaOf, startStore]
  rw [printed] at browses
  simp only [Demonstration.present, starts, Dataset.cursor, live, startLines_eq,
    List.reverse_singleton, browses, ends, summary, closing]
  simp

end Presenting

end KeySequenced.Demonstration
