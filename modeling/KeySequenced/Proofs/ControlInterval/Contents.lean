import KeySequenced.ControlInterval

/-!
# The contents of a control interval

The free space, the descriptors and the area of an interval are all told by the
list of the records in it: the space that they do not take, the places that they
have when they stand one behind the other, and their bytes.  An insertion adds one
record to the list, so this holds along every run of insertions and clearings, and
a slot gives back the record that was put there.
-/

set_option autoImplicit false

namespace KeySequenced

namespace Descriptor

/-- The places of records that stand one behind the other from `start` on. -/
def row : Nat → List Bytes → List Descriptor
  | _, [] => []
  | start, record :: records => ⟨start, record.length⟩ :: row (start + record.length) records

/-- The end of the place. -/
def stop (descriptor : Descriptor) : Nat := descriptor.offset + descriptor.length

theorem length_row (start : Nat) (records : List Bytes) :
    (row start records).length = records.length := by
  induction records generalizing start with
  | nil => rfl
  | cons record records ih => exact congrArg (· + 1) (ih _)

theorem row_concat (start : Nat) (records : List Bytes) (record : Bytes) :
    row start (records ++ [record]) =
      row start records ++ [⟨start + records.flatten.length, record.length⟩] := by
  induction records generalizing start with
  | nil => rfl
  | cons first records ih =>
    simp only [List.cons_append, row, ih, List.flatten_cons, List.length_append, Nat.add_assoc]

theorem getElem?_row (start : Nat) (records : List Bytes) (slot : Nat) :
    (row start records)[slot]? = records[slot]?.map fun record =>
      ⟨start + (records.take slot).flatten.length, record.length⟩ := by
  induction records generalizing start slot with
  | nil => rfl
  | cons first records ih =>
    cases slot with
    | zero => rfl
    | succ slot =>
      simp only [row, List.getElem?_cons_succ, ih, List.take_succ_cons, List.flatten_cons,
        List.length_append, Nat.add_assoc]

end Descriptor

section Slices

variable {records : List Bytes} {slot : Nat} {record : Bytes}

/-- What stands before a record, the record, and what stands behind it. -/
theorem flatten_of_getElem? (found : records[slot]? = some record) :
    records.flatten =
      (records.take slot).flatten ++ (record ++ (records.drop (slot + 1)).flatten) := by
  obtain ⟨inside, rfl⟩ := List.getElem?_eq_some_iff.mp found
  rw [← List.flatten_cons, ← List.drop_eq_getElem_cons inside, ← List.flatten_append,
    List.take_append_drop]

theorem slice_flatten (found : records[slot]? = some record) :
    (records.flatten.drop (records.take slot).flatten.length).take record.length = record := by
  rw [flatten_of_getElem? found, List.drop_left, List.take_left]

theorem length_take_flatten_le (found : records[slot]? = some record) :
    (records.take slot).flatten.length + record.length ≤ records.flatten.length := by
  have whole := congrArg List.length (flatten_of_getElem? found)
  rw [List.length_append, List.length_append] at whole
  omega

end Slices

namespace ControlInterval

/-- The space that records take, with their descriptors. -/
def cost (records : List Bytes) : Nat :=
  records.foldr (fun record total => record.length + descriptorSize + total) 0

theorem cost_concat (records : List Bytes) (record : Bytes) :
    cost (records ++ [record]) = cost records + (record.length + descriptorSize) := by
  induction records with
  | nil => exact Nat.add_comm _ _
  | cons first records ih =>
    have costs : ∀ rest, cost (first :: rest) = first.length + descriptorSize + cost rest :=
      fun _ => rfl
    rw [List.cons_append, costs, costs, ih]
    omega

/-- The interval of the capacity holds these records, in this order, and nothing else. -/
structure Holds (capacity : Nat) (interval : ControlInterval) (records : List Bytes) : Prop where
  capacity_eq : interval.capacity = capacity
  balance : interval.freeSpace + cost records = capacity
  descriptors_eq : interval.descriptors = Descriptor.row 0 records
  area_eq : interval.area = records.flatten

section Holding

variable {capacity : Nat} {interval : ControlInterval} {records : List Bytes}

theorem holds_empty (capacity : Nat) : Holds capacity (empty capacity) [] :=
  ⟨rfl, rfl, rfl, rfl⟩

theorem Holds.clear (holds : Holds capacity interval records) :
    Holds capacity interval.clear [] := by
  rw [ControlInterval.clear, holds.capacity_eq]
  exact holds_empty capacity

theorem Holds.size_eq (holds : Holds capacity interval records) :
    interval.size = records.length := by
  rw [size, holds.descriptors_eq, Descriptor.length_row]

theorem Holds.hasSpaceFor_iff (holds : Holds capacity interval records) (length : Nat) :
    interval.hasSpaceFor length = true ↔ cost records + (length + descriptorSize) ≤ capacity := by
  have balance := holds.balance
  rw [hasSpaceFor, decide_eq_true_iff]
  omega

theorem Holds.insert_eq_ok_iff (holds : Holds capacity interval records) (record : Bytes)
    (slot : Nat) :
    (∃ next, interval.insert record = .ok (slot, next)) ↔
      slot = records.length ∧ cost records + (record.length + descriptorSize) ≤ capacity := by
  rw [← holds.hasSpaceFor_iff, insert]
  cases fits : interval.hasSpaceFor record.length with
  | false => simp
  | true => simp [holds.size_eq, eq_comm]

theorem Holds.insert (holds : Holds capacity interval records) {record : Bytes} {slot : Nat}
    {next : ControlInterval} (inserted : interval.insert record = .ok (slot, next)) :
    Holds capacity next (records ++ [record]) := by
  have fits := ((holds.insert_eq_ok_iff record slot).mp ⟨next, inserted⟩).2
  have space := (holds.hasSpaceFor_iff record.length).mpr fits
  rw [ControlInterval.insert, if_pos space, Except.ok.injEq, Prod.mk.injEq] at inserted
  obtain ⟨_, rfl⟩ := inserted
  have balance := holds.balance
  constructor
  case capacity_eq => exact holds.capacity_eq
  case balance =>
    rw [cost_concat]
    show interval.freeSpace - (record.length + descriptorSize) +
      (cost records + (record.length + descriptorSize)) = capacity
    omega
  case descriptors_eq =>
    rw [Descriptor.row_concat, Nat.zero_add, ← holds.area_eq, ← holds.descriptors_eq]
  case area_eq => simp [holds.area_eq]

theorem Holds.record?_eq (holds : Holds capacity interval records) (slot : Nat) :
    interval.record? slot = records[slot]? := by
  rw [record?, holds.descriptors_eq, Descriptor.getElem?_row, holds.area_eq, Option.map_map]
  cases found : records[slot]? with
  | none => rfl
  | some record =>
    simp only [Option.map_some, Function.comp_apply, Nat.zero_add, slice_flatten found]

theorem Holds.stop_le (holds : Holds capacity interval records) {descriptor : Descriptor}
    (member : descriptor ∈ interval.descriptors) : descriptor.stop ≤ interval.area.length := by
  obtain ⟨slot, found⟩ := List.mem_iff_getElem?.mp member
  rw [holds.descriptors_eq, Descriptor.getElem?_row] at found
  obtain ⟨record, stands, rfl⟩ := Option.map_eq_some_iff.mp found
  rw [holds.area_eq, Descriptor.stop, Nat.zero_add]
  exact length_take_flatten_le stands

end Holding

/-! ## Runs of changes -/

inductive Change where
  | insert (record : Bytes)
  | clear

/-- An interval together with the records whose insertion it has answered with a slot since it
was cleared last. -/
structure Filling where
  interval : ControlInterval
  inserted : List Bytes

/-- A refused insertion leaves the interval as it is. -/
def Filling.step (filling : Filling) : Change → Filling
  | .insert record =>
    match filling.interval.insert record with
    | .ok (_, interval) => ⟨interval, filling.inserted ++ [record]⟩
    | .error _ => filling
  | .clear => ⟨filling.interval.clear, []⟩

def Filling.run (capacity : Nat) (changes : List Change) : Filling :=
  changes.foldl Filling.step ⟨empty capacity, []⟩

theorem Filling.holds_step {capacity : Nat} {filling : Filling} (change : Change)
    (holds : Holds capacity filling.interval filling.inserted) :
    Holds capacity (filling.step change).interval (filling.step change).inserted := by
  cases change with
  | clear => exact holds.clear
  | insert record =>
    cases answer : filling.interval.insert record with
    | error fault => simpa only [step, answer] using holds
    | ok outcome =>
      obtain ⟨slot, next⟩ := outcome
      simpa only [step, answer] using holds.insert answer

theorem Filling.holds_foldl {capacity : Nat} (changes : List Change) {filling : Filling}
    (holds : Holds capacity filling.interval filling.inserted) :
    Holds capacity (changes.foldl step filling).interval
      (changes.foldl step filling).inserted := by
  induction changes generalizing filling with
  | nil => exact holds
  | cons change changes ih => exact ih (Filling.holds_step change holds)

/-- A record that does not fit leaves everything as it is. -/
theorem Filling.step_insert_of_lt {capacity : Nat} {filling : Filling} {record : Bytes}
    (holds : Holds capacity filling.interval filling.inserted)
    (large : capacity < cost filling.inserted + (record.length + descriptorSize)) :
    filling.step (.insert record) = filling := by
  cases answer : filling.interval.insert record with
  | error fault => simp only [step, answer]
  | ok outcome =>
    obtain ⟨slot, next⟩ := outcome
    obtain ⟨_, fits⟩ := (holds.insert_eq_ok_iff record slot).mp ⟨next, answer⟩
    exact absurd fits (Nat.not_le.mpr large)

/-- Along every run of insertions and clearings an interval is the list of the records inserted
since the last clearing.  The next record is taken, at the next slot, exactly if it fits, and
refused without a trace otherwise; the places of the records tile the area; each slot gives back
its record. -/
theorem Filling.run_holds (capacity : Nat) (changes : List Change) :
    let filling := Filling.run capacity changes
    let interval := filling.interval
    let records := filling.inserted
    (∀ record slot, (∃ next, interval.insert record = .ok (slot, next)) ↔
      slot = records.length ∧ cost records + (record.length + descriptorSize) ≤ capacity) ∧
    (∀ record, capacity < cost records + (record.length + descriptorSize) →
      filling.step (.insert record) = filling) ∧
    interval.capacity = capacity ∧
    interval.freeSpace + cost records = capacity ∧
    interval.size = records.length ∧
    (∀ slot, interval.descriptors[slot]? = records[slot]?.map fun record =>
      Descriptor.mk (records.take slot).flatten.length record.length) ∧
    interval.area = records.flatten ∧
    (∀ descriptor ∈ interval.descriptors, descriptor.stop ≤ interval.area.length) ∧
    ∀ slot, interval.record? slot = records[slot]? := by
  intro filling interval records
  have holds : Holds capacity interval records :=
    Filling.holds_foldl changes (holds_empty capacity)
  refine ⟨holds.insert_eq_ok_iff, fun _ => Filling.step_insert_of_lt holds, holds.capacity_eq,
    holds.balance, holds.size_eq, ?_, holds.area_eq, fun _ => holds.stop_le, holds.record?_eq⟩
  intro slot
  rw [holds.descriptors_eq, Descriptor.getElem?_row]
  simp only [Nat.zero_add]

end ControlInterval

end KeySequenced
