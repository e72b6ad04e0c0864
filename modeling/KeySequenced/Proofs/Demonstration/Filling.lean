import KeySequenced.Proofs.Dataset.ReadOnly
import KeySequenced.Proofs.Demonstration.Keys
import KeySequenced.Proofs.Store.Restoring

/-!
# Filling the demonstration dataset

A run writes the records of the numbers from one up to its count, passes over
those that are stored, and erases the third.  So up to the greatest count of all
runs every number but three has its record, and what a run adds is the space of
the records that it has written.  From the number on whose key has a ninth
character, nothing can be written.
-/

set_option autoImplicit false

namespace KeySequenced.Demonstration

/-! ## Numbers -/

/-- The space of the record of a number. -/
def recordLength (number : Nat) : Nat := (keyOf number).length + (dataOf number).length

def spaceOf (numbers : List Nat) : Nat :=
  numbers.foldr (fun number total => recordLength number + total) 0

/-- The numbers whose records are kept when `greatest` is the greatest count of all runs. -/
def kept (greatest : Nat) : List Nat := (List.range' 1 greatest).filter (· ≠ 3)

/-- The numbers whose records a run writes. -/
def added (greatest count : Nat) : List Nat :=
  (List.range' 1 count).filter (· ∉ kept greatest)

def recordOf (number : Nat) (rba : UInt64) : Record :=
  .live (keyOf number) (dataOf number) (.rba rba)

/-- The modes for which a run opens the dataset. -/
abbrev modes : Session := ⟨.inputOutput, .dynamic⟩

section Numbers

variable {number greatest count : Nat}

theorem mem_kept : number ∈ kept greatest ↔ 1 ≤ number ∧ number ≤ greatest ∧ number ≠ 3 := by
  simp only [kept, List.mem_filter, List.mem_range'_1, decide_eq_true_eq]
  omega

theorem length_dataOf_le (small : number ≤ 99999) : (dataOf number).length ≤ 12 := by
  rw [length_dataOf]
  have digits := five_digits small
  omega

theorem refusal?_eq_none (name : String) (small : number ≤ 99999) :
    (definition name).refusal? (keyOf number) (dataOf number) = none := by
  have long := length_keyOf small
  have short := length_dataOf_le small
  have keyLimit : (definition name).keyLength.toNat = 8 := rfl
  have recordLimit : (definition name).recordLimit.toNat = 256 := rfl
  rw [Definition.refusal?_eq_none_iff, keyLimit, recordLimit]
  refine ⟨List.ne_nil_of_length_pos (by omega), by omega, by omega⟩

/-- The first key with six digits is too long. -/
theorem refusal?_of_six_digits (name : String) :
    (definition name).refusal? (keyOf 100000) (dataOf 100000) = some (.keyTooLong 9 8) := by
  have long : (keyOf 100000).length = 9 := by decide +kernel
  have keyLimit : (definition name).keyLength.toNat = 8 := rfl
  rw [Definition.refusal?, long, keyLimit]
  rfl

end Numbers

/-! ## The dataset of a demonstration -/

/-- The dataset has the records of the numbers and no others; they end before the next address. -/
structure Holds (name : String) (location : Option String) (session : Option Session)
    (numbers : List Nat) (next : Nat) (dataset : Dataset) : Prop where
  sound : Dataset.Sound (definition name) dataset
  located : dataset.location = location
  seated : dataset.session = session
  small : ∀ number ∈ numbers, 1 ≤ number ∧ number ≤ 99999
  complete : ∀ number ∈ numbers, ∃ rba,
    dataset.store.find? (keyOf number) = some (recordOf number rba)
  only : ∀ key record, dataset.store.find? key = some record →
    (∃ number ∈ numbers, key = keyOf number) ∧ record.ends ≤ next
  next_eq : dataset.store.nextRba.toNat = next

section Changes

variable {name : String} {location : Option String} {session : Session} {numbers : List Nat}
  {next number : Nat} {dataset : Dataset}

theorem Holds.of_mem_iff {before : Option Session} {others : List Nat}
    (holds : Holds name location before numbers next dataset)
    (same : ∀ number, number ∈ others ↔ number ∈ numbers) :
    Holds name location before others next dataset := by
  refine ⟨holds.sound, holds.located, holds.seated, ?_, ?_, ?_, holds.next_eq⟩
  · intro number member
    exact holds.small number ((same number).mp member)
  · intro number member
    exact holds.complete number ((same number).mp member)
  · intro key record found
    obtain ⟨⟨number, member, rfl⟩, ends⟩ := holds.only key record found
    exact ⟨⟨number, (same number).mpr member, rfl⟩, ends⟩

/-- What the dataset holds is a matter of its store. -/
theorem Holds.of_store {before later : Option Session} {after : Dataset}
    (holds : Holds name location before numbers next dataset)
    (sound : Dataset.Sound (definition name) after) (located : after.location = location)
    (seated : after.session = later) (same : after.store = dataset.store) :
    Holds name location later numbers next after where
  sound := sound
  located := located
  seated := seated
  small := holds.small
  complete := same ▸ holds.complete
  only := same ▸ holds.only
  next_eq := same ▸ holds.next_eq

/-- Whatever leaves the store leaves the records of the numbers. -/
theorem Holds.of_transition {volume : Volume} {operation : Operation}
    {answer : Except Fault Answer} {after : Dataset}
    (holds : Holds name location (some session) numbers next dataset)
    (transition : Dataset.Transition dataset volume operation answer after)
    (unclosed : operation ≠ .close) (same : after.store = dataset.store) :
    Holds name location (some session) numbers next after :=
  holds.of_store (holds.sound.next transition) (transition.location_eq.trans holds.located)
    (transition.session_eq holds.seated unclosed) same

theorem Holds.unfit?_eq_none {request : OutputRequest}
    (holds : Holds name location (some session) numbers next dataset)
    (allowed : session.access.allowsOutput = true) (small : number ≤ 99999) :
    dataset.unfit? request (keyOf number) (dataOf number) = none := by
  rw [Dataset.unfit?_eq_none_iff, Dataset.locked?_eq_none_iff, holds.sound.definition_eq]
  exact ⟨⟨session, holds.seated, allowed⟩, refusal?_eq_none name small⟩

theorem Holds.find?_eq_none {before : Option Session}
    (holds : Holds name location before numbers next dataset) (small : number ≤ 99999)
    (fresh : number ∉ numbers) : dataset.store.find? (keyOf number) = none := by
  cases found : dataset.store.find? (keyOf number) with
  | none => rfl
  | some record =>
    obtain ⟨⟨other, member, same⟩, _⟩ := holds.only _ record found
    rw [keyOf_inj small (holds.small other member).2 same] at fresh
    exact absurd member fresh

theorem Holds.openFor (holds : Holds name location none numbers next dataset)
    (session : Session) :
    ∃ after, dataset.openFor session = (.ok (), after) ∧
      Holds name location (some session) numbers next after := by
  have transition : Dataset.Transition dataset .empty _ _ _ := .opened session holds.seated
  refine ⟨{ dataset with session := some session }, ?_,
    holds.of_store (holds.sound.next transition) holds.located rfl rfl⟩
  simp only [Dataset.openFor, holds.seated]

theorem Holds.read (holds : Holds name location (some session) numbers next dataset)
    (member : number ∈ numbers) :
    ∃ record after, dataset.read (keyOf number) = (.ok record, after) ∧
      Holds name location (some session) numbers next after := by
  obtain ⟨rba, found⟩ := holds.complete number member
  have unshut := (Dataset.closed?_eq_none_iff _).mpr ⟨session, holds.seated⟩
  have transition : Dataset.Transition dataset .empty (.read (keyOf number)) _ _ :=
    .found _ _ unshut found
  refine ⟨recordOf number rba, _, ?_, holds.of_transition transition (by simp) rfl⟩
  simp only [Dataset.read, Dataset.answerRead, unshut, found]

/-- A stored record is passed over. -/
theorem Holds.write_stored (holds : Holds name location (some session) numbers next dataset)
    (allowed : session.access.allowsOutput = true) (member : number ∈ numbers) :
    dataset.write (.new (keyOf number) (dataOf number))
      = (.error (.duplicateKey (Key.display (keyOf number))), dataset) := by
  obtain ⟨rba, found⟩ := holds.complete number member
  have taken := (Table.contains_iff _ _).mpr ⟨_, found⟩
  simp only [Dataset.write, Record.new, Record.live,
    holds.unfit?_eq_none allowed (holds.small number member).2, taken, if_true]

theorem Holds.write (holds : Holds name location (some session) numbers next dataset)
    (allowed : session.access.allowsOutput = true) (positive : 1 ≤ number)
    (small : number ≤ 99999) (fresh : number ∉ numbers)
    (room : next + recordLength number < UInt64.size) :
    ∃ address after,
      dataset.write (.new (keyOf number) (dataOf number)) = (.ok address, after) ∧
      Holds name location (some session) (number :: numbers) (next + recordLength number)
        after := by
  let draft := Record.new (keyOf number) (dataOf number)
  have fit : dataset.unfit? .write draft.key draft.data = none :=
    holds.unfit?_eq_none allowed small
  have absent : dataset.store.find? draft.key = none := holds.find?_eq_none small fresh
  have untaken : dataset.store.records.contains draft.key = false :=
    (Table.contains_eq_false_iff _ _).mpr absent
  let behind := UInt64.ofNat (next + recordLength number)
  have ends : behind.toNat = next + recordLength number := by
    rw [UInt64.toNat_ofNat']
    exact Nat.mod_eq_of_lt room
  have enough : Store.endOf? dataset.store.nextRba draft.storedLength = some behind := by
    rw [Store.endOf?_eq_some_iff, holds.next_eq]
    exact ends
  have puts (key : Key) :
      (dataset.store.put (recordOf number dataset.store.nextRba) behind).find? key =
        if key = keyOf number then some (recordOf number dataset.store.nextRba)
        else dataset.store.find? key := Store.find?_put ..
  have transition : Dataset.Transition dataset .empty _ _ _ :=
    .wrote draft behind fit absent enough
  refine ⟨.rba dataset.store.nextRba, _, ?_, holds.sound.next transition, holds.located,
    holds.seated, ?_, ?_, ?_, ends⟩
  · change dataset.write draft = _
    simp only [Dataset.write, fit, untaken, enough, Bool.false_eq_true, if_false]
  · exact List.forall_mem_cons.mpr ⟨⟨positive, small⟩, holds.small⟩
  · refine List.forall_mem_cons.mpr ⟨⟨dataset.store.nextRba, (puts _).trans (if_pos rfl)⟩, ?_⟩
    intro other member
    obtain ⟨rba, found⟩ := holds.complete other member
    have differ : keyOf other ≠ keyOf number := by
      intro same
      cases absent.symm.trans (same ▸ found)
    exact ⟨rba, (puts _).trans ((if_neg differ).trans found)⟩
  · intro key record stands
    have found := (puts key).symm.trans stands
    split at found
    · rename_i same
      cases found
      refine ⟨⟨number, List.mem_cons_self, same⟩, ?_⟩
      rw [Record.ends, ← holds.next_eq]
      exact Nat.le_refl _
    · obtain ⟨⟨other, member, same⟩, before⟩ := holds.only key record found
      exact ⟨⟨other, List.mem_cons_of_mem _ member, same⟩,
        Nat.le_trans before (Nat.le_add_right _ _)⟩

theorem Holds.erase (holds : Holds name location (some session) numbers next dataset)
    (allowed : session.access.allowsOutput = true) (member : number ∈ numbers) :
    ∃ record after, dataset.erase (keyOf number) = (.ok record, after) ∧
      Holds name location (some session) (numbers.filter (· ≠ number)) next after := by
  obtain ⟨rba, found⟩ := holds.complete number member
  have small := (holds.small number member).2
  have unlocked : dataset.locked? .delete = none :=
    (Dataset.locked?_eq_none_iff _ _).mpr ⟨session, holds.seated, allowed⟩
  have transition : Dataset.Transition dataset .empty _ _ _ := .erased _ _ unlocked found
  have stands : dataset.store.records.find? (keyOf number) = some (recordOf number rba) := found
  refine ⟨{ recordOf number rba with deleted := true }, _, ?_, holds.sound.next transition,
    holds.located, holds.seated, ?_, ?_, ?_, holds.next_eq⟩
  · simp only [Dataset.erase, unlocked, stands]
  · intro other left
    exact holds.small other (List.mem_filter.mp left).1
  · intro other left
    obtain ⟨present, differ⟩ := List.mem_filter.mp left
    have apart : keyOf other ≠ keyOf number := fun same =>
      of_decide_eq_true differ (keyOf_inj (holds.small other present).2 small same)
    rw [Store.find?_remove, if_neg apart]
    exact holds.complete other present
  · intro key record left
    rw [Store.find?_remove] at left
    split at left
    · cases left
    · rename_i apart
      obtain ⟨⟨other, present, rfl⟩, ends⟩ := holds.only key record left
      refine ⟨⟨other, List.mem_filter.mpr ⟨present, decide_eq_true ?_⟩, rfl⟩, ends⟩
      rintro rfl
      exact apart rfl

end Changes

/-! ## Filling -/

section Filling

variable {name : String} {location : Option String} {session : Session} {numbers : List Nat}
  {next number count greatest : Nat} {dataset : Dataset}

/-- All numbers from the first on have their records afterwards, and only those that had none take
space. -/
theorem Holds.fill (holds : Holds name location (some session) numbers next dataset)
    (allowed : session.access.allowsOutput = true) (positive : 1 ≤ number)
    (small : number + count ≤ 100000)
    (room : next + spaceOf ((List.range' number count).filter (· ∉ numbers)) < UInt64.size) :
    ∃ after, fill count number dataset = (.ok (), after) ∧
      Holds name location (some session) (List.range' number count ++ numbers)
        (next + spaceOf ((List.range' number count).filter (· ∉ numbers))) after := by
  induction count generalizing number numbers next dataset with
  | zero => exact ⟨dataset, rfl, holds⟩
  | succ count ih =>
    rw [List.range'_succ, List.filter_cons] at room ⊢
    by_cases member : number ∈ numbers
    · rw [if_neg (by simp [member])] at room ⊢
      obtain ⟨after, filled, held⟩ := ih holds (by omega) (by omega) room
      refine ⟨after, ?_, held.of_mem_iff fun other => ?_⟩
      · rw [Demonstration.fill, holds.write_stored allowed member]
        exact filled
      · rw [List.cons_append, List.mem_cons, or_iff_right_of_imp]
        rintro rfl
        exact List.mem_append_right _ member
    · rw [if_pos (by simp [member])] at room ⊢
      simp only [spaceOf, List.foldr_cons] at room
      -- The numbers behind this one are as new as before.
      have others : (List.range' (number + 1) count).filter (· ∉ number :: numbers)
          = (List.range' (number + 1) count).filter (· ∉ numbers) := by
        apply List.filter_congr
        intro other inside
        have above := (List.mem_range'_1.mp inside).1
        have differ : other ≠ number := by omega
        simp [differ]
      obtain ⟨address, between, written, wrote⟩ :=
        holds.write allowed positive (by omega) member (by omega)
      obtain ⟨after, filled, held⟩ := ih wrote (Nat.le_add_left 1 number) (by omega) (by
        rw [others]
        simp only [spaceOf]
        omega)
      rw [others, Nat.add_assoc] at held
      refine ⟨after, ?_, held.of_mem_iff fun other => ?_⟩
      · rw [Demonstration.fill, written]
        exact filled
      · simp only [List.mem_append, List.mem_cons]
        rw [or_left_comm, or_assoc]

theorem write_six_digits (sound : Dataset.Sound (definition name) dataset)
    (seated : dataset.session = some session) (allowed : session.access.allowsOutput = true) :
    dataset.write (.new (keyOf 100000) (dataOf 100000))
      = (.error (.refused (.keyTooLong 9 8)), dataset) := by
  have unlocked : dataset.locked? .write = none :=
    (Dataset.locked?_eq_none_iff _ _).mpr ⟨session, seated, allowed⟩
  simp only [Dataset.write, Dataset.unfit?, Record.new, Record.live, unlocked,
    sound.definition_eq, refusal?_of_six_digits, Option.map_some]

/-- Whatever the dataset holds, it is not filled beyond the numbers of five digits. -/
theorem fill_fails (sound : Dataset.Sound (definition name) dataset)
    (seated : dataset.session = some session) (allowed : session.access.allowsOutput = true)
    (within : number ≤ 100000) (beyond : 100000 < number + count) :
    ∃ fault after, fill count number dataset = (.error fault, after) := by
  induction count generalizing number dataset with
  | zero => omega
  | succ count ih =>
    rw [fill]
    by_cases last : number = 100000
    · rw [last, write_six_digits sound seated allowed]
      exact ⟨_, _, rfl⟩
    · have transition := dataset.transition_write .empty (.new (keyOf number) (dataOf number))
      cases written : dataset.write (.new (keyOf number) (dataOf number)) with
      | mk result after =>
        rw [written] at transition
        have onward : ∃ fault beside, fill count (number + 1) after = (.error fault, beside) :=
          ih (sound.next transition) (transition.session_eq seated (by simp)) (by omega) (by omega)
        cases result with
        | ok address => exact onward
        | error fault =>
          cases fault with
          | duplicateKey => exact onward
          | _ => exact ⟨_, _, rfl⟩

theorem holds_new (name : String) (location : Option String) :
    Holds name location none (kept 0) 0 (.new (definition name) location) where
  sound := Dataset.sound_new _ _
  located := rfl
  seated := rfl
  small number member := by cases member
  complete number member := by cases member
  only key record found := by simp [Dataset.new, Store.empty, Store.find?] at found
  next_eq := rfl

/-- A count from one to 99999 leaves every number up to the greatest count, but not three. -/
theorem Holds.prepare (holds : Holds name location none (kept greatest) next dataset)
    (positive : 1 ≤ count) (small : count ≤ 99999)
    (room : next + spaceOf (added greatest count) < UInt64.size) :
    ∃ after, prepare count dataset = (.ok (), after) ∧
      Holds name location (some modes) (kept (max greatest count))
        (next + spaceOf (added greatest count)) after := by
  obtain ⟨opened, opens, begun⟩ := holds.openFor modes
  obtain ⟨filled, fills, full⟩ := begun.fill rfl (Nat.le_refl 1) (by omega) room
  have middle : (count + 1) / 2 ∈ List.range' 1 count ++ kept greatest :=
    List.mem_append_left _ (List.mem_range'_1.mpr (by omega))
  obtain ⟨record, read, reads, held⟩ := full.read middle
  simp only [Demonstration.prepare, opens, fills, reads]
  by_cases few : count < 3
  · rw [if_pos few]
    refine ⟨read, rfl, held.of_mem_iff fun number => ?_⟩
    rw [List.mem_append, List.mem_range'_1, mem_kept, mem_kept]
    omega
  · rw [if_neg few]
    have third : 3 ∈ List.range' 1 count ++ kept greatest :=
      List.mem_append_left _ (List.mem_range'_1.mpr (by omega))
    obtain ⟨stored, erased, erases, left⟩ := held.erase rfl third
    simp only [erases]
    refine ⟨erased, rfl, left.of_mem_iff fun number => ?_⟩
    rw [List.mem_filter, decide_eq_true_iff, List.mem_append, List.mem_range'_1, mem_kept,
      mem_kept]
    omega

theorem prepare_fails (sound : Dataset.Sound (definition name) dataset)
    (shut : dataset.session = none) (large : 99999 < count) :
    ∃ fault after, prepare count dataset = (.error fault, after) := by
  have transition : Dataset.Transition dataset .empty _ _ _ := .opened modes shut
  have beyond : 100000 < 1 + count := by omega
  obtain ⟨fault, after, fails⟩ :=
    fill_fails (sound.next transition) rfl rfl (Nat.le_add_left 1 _) beyond
  exact ⟨fault, after, by simp only [prepare, Dataset.openFor, shut, fails]⟩

end Filling

end KeySequenced.Demonstration
