import KeySequenced.Proofs.Dataset.History
import KeySequenced.Proofs.Store.Space
import Mathlib.Data.List.Induction
import Mathlib.Data.List.Infix

/-!
# Space that is used and allocated

The statistics of a dataset are kept apart from its records.  Even so they tell
the space that the records take, as long as a counter can hold it, and the space
of the control intervals up to the next address.

Nothing ties the one to the other: an update that makes a record longer raises
the used space alone.  Without such updates the used space stays within the
allocated one.
-/

set_option autoImplicit false

namespace KeySequenced

/-! ## Whole control intervals -/

namespace Definition

/-- The size of a control interval; an interval of no size counts as one byte. -/
def unit (definition : Definition) : Nat := max definition.intervalSize.toNat 1

/-- The space of the control intervals that hold a number of bytes. -/
def wholeIntervals (definition : Definition) (length : Nat) : Nat :=
  (length + (definition.unit - 1)) / definition.unit * definition.unit

section Intervals

variable (definition : Definition)

theorem unit_pos : 0 < definition.unit := by
  unfold unit
  omega

theorem unit_dvd_wholeIntervals (length : Nat) : definition.unit ∣ definition.wholeIntervals length :=
  Nat.dvd_mul_left _ _

theorem le_wholeIntervals (length : Nat) : length ≤ definition.wholeIntervals length := by
  have positive := definition.unit_pos
  have rest := Nat.div_add_mod (length + (definition.unit - 1)) definition.unit
  have short := Nat.mod_lt (length + (definition.unit - 1)) positive
  rw [Nat.mul_comm] at rest
  unfold wholeIntervals
  omega

/-- No fewer control intervals hold the bytes. -/
theorem wholeIntervals_le {length space : Nat} (whole : definition.unit ∣ space)
    (holds : length ≤ space) : definition.wholeIntervals length ≤ space := by
  have positive := definition.unit_pos
  obtain ⟨count, rfl⟩ := whole
  have fewer : (length + (definition.unit - 1)) / definition.unit ≤ count := by
    rw [Nat.div_le_iff_le_mul positive, Nat.mul_comm count]
    omega
  rw [Nat.mul_comm definition.unit]
  exact Nat.mul_le_mul_right _ fewer

theorem wholeIntervals_mono {length other : Nat} (notAbove : length ≤ other) :
    definition.wholeIntervals length ≤ definition.wholeIntervals other :=
  definition.wholeIntervals_le (definition.unit_dvd_wholeIntervals other)
    (Nat.le_trans notAbove (definition.le_wholeIntervals other))

end Intervals

end Definition

/-! ## Counters of space -/

namespace Statistics

section Counters

variable (statistics : Statistics)

theorem toNat_release (bytes : UInt64) :
    (statistics.release bytes).bytesUsed.toNat = statistics.bytesUsed.toNat - bytes.toNat := by
  simp only [release]
  split
  · rename_i less
    have below := UInt64.lt_iff_toNat_lt.mp less
    rw [UInt64.toNat_zero]
    omega
  · rename_i notLess
    exact UInt64.toNat_sub_of_le _ _ (UInt64.not_lt.mp notLess)

theorem toNat_countWrite {length : Nat}
    (fits : statistics.bytesUsed.toNat + length < UInt64.size) :
    (statistics.countWrite (UInt64.ofNat length)).bytesUsed.toNat
      = statistics.bytesUsed.toNat + length := by
  have small : length < UInt64.size := by omega
  simp only [countWrite, UInt64.toNat_add, UInt64.toNat_ofNat_of_lt' small]
  exact Nat.mod_eq_of_lt fits

theorem toNat_countDelete {length rest : Nat}
    (used : statistics.bytesUsed.toNat = length + rest) :
    (statistics.countDelete (UInt64.ofNat length)).bytesUsed.toNat = rest := by
  have bound := statistics.bytesUsed.toNat_lt
  have small : length < UInt64.size := by
    simp only [UInt64.size]
    omega
  simp only [countDelete, toNat_release, UInt64.toNat_ofNat_of_lt' small, used]
  omega

/-- An update that takes `length` bytes and puts `other` in their place. -/
theorem toNat_countUpdate {length other rest : Nat}
    (used : statistics.bytesUsed.toNat = length + rest) (fits : other + rest < UInt64.size) :
    (statistics.countUpdate (UInt64.ofNat length) (UInt64.ofNat other)).bytesUsed.toNat
      = other + rest := by
  have bound := statistics.bytesUsed.toNat_lt
  have small : length < UInt64.size := by
    simp only [UInt64.size]
    omega
  have toNat := UInt64.toNat_ofNat_of_lt' small
  have toNatOther : (UInt64.ofNat other).toNat = other :=
    UInt64.toNat_ofNat_of_lt' (by omega)
  simp only [countUpdate]
  split
  · rename_i grows
    rw [UInt64.toNat_add, UInt64.toNat_sub_of_le _ _ grows, toNat, toNatOther, used]
    rw [UInt64.le_iff_toNat_le, toNat, toNatOther] at grows
    simp only [UInt64.size] at fits
    omega
  · rename_i shrinks
    have below := UInt64.le_of_lt (UInt64.not_le.mp shrinks)
    rw [toNat_release, UInt64.toNat_sub_of_le _ _ below, toNat, toNatOther]
    rw [UInt64.le_iff_toNat_le, toNat, toNatOther] at below
    simp only [used]
    omega

end Counters

end Statistics

namespace Dataset

theorem toNat_allocatedFor (definition : Definition) (rba : UInt64) :
    (allocatedFor definition rba).toNat
      = min (UInt64.size - 1) (definition.wholeIntervals rba.toNat) := by
  have small : min (UInt64.size - 1) (definition.wholeIntervals rba.toNat) < UInt64.size := by
    have positive : 0 < UInt64.size := by decide
    omega
  exact UInt64.toNat_ofNat_of_lt' small

theorem allocatedFor_mono (definition : Definition) {rba other : UInt64} (notAbove : rba ≤ other) :
    allocatedFor definition rba ≤ allocatedFor definition other := by
  have mono := definition.wholeIntervals_mono (UInt64.le_iff_toNat_le.mp notAbove)
  rw [UInt64.le_iff_toNat_le, toNat_allocatedFor, toNat_allocatedFor]
  omega

/-! ## Statistics and records -/

/-- The counters of space tell the space of the records and of the control intervals. -/
structure Accounted (dataset : Dataset) : Prop where
  used : dataset.statistics.bytesUsed.toNat = dataset.store.usedBytes
  allocated : dataset.statistics.bytesAllocated
    = allocatedFor dataset.definition dataset.store.nextRba

section Accounted

variable {dataset after : Dataset} {volume : Volume} {operation : Operation}
  {answer : Except Fault Answer}

theorem accounted_new (definition : Definition) (location : Option String) :
    Accounted (new definition location) where
  used := rfl
  allocated := by
    rw [← UInt64.toNat_inj, toNat_allocatedFor]
    have none : definition.wholeIntervals 0 ≤ 0 :=
      definition.wholeIntervals_le (Nat.dvd_zero _) (Nat.le_refl 0)
    change 0 = min (UInt64.size - 1) (definition.wholeIntervals 0)
    omega

theorem Accounted.next (accounted : dataset.Accounted)
    (bounded : after.store.usedBytes < UInt64.size)
    (transition : Transition dataset volume operation answer after) : after.Accounted := by
  cases transition with
  | wrote record next fit absent room =>
    have ends := (Store.endOf?_eq_some_iff _ _ _).mp room
    have grows : dataset.store.nextRba ≤ next := by
      rw [UInt64.le_iff_toNat_le]
      omega
    have free : dataset.store.find? (record.placedAt dataset.store.nextRba).key = none := absent
    have used : (dataset.store.put (record.placedAt dataset.store.nextRba) next).usedBytes
        = record.storedLength + dataset.store.usedBytes := Store.usedBytes_put free next
    rw [used] at bounded
    refine ⟨?_, ?_⟩
    · refine (Statistics.toNat_countWrite _ ?_).trans ?_
      · simp only [Statistics.allocate, accounted.used]
        omega
      · simp only [Statistics.allocate, accounted.used, used]
        omega
    · have notBelow := allocatedFor_mono dataset.definition grows
      simp only [Statistics.countWrite, Statistics.allocate, accounted.allocated, Store.put]
      split
      · rfl
      · rename_i notLess
        exact UInt64.le_antisymm notBelow (UInt64.not_lt.mp notLess)
  | updated key data stored fit stands =>
    refine ⟨?_, ?_⟩
    · simp only [Store.usedBytes_replace] at bounded ⊢
      exact Statistics.toNat_countUpdate _
        (accounted.used.trans (Store.usedBytes_remove stands).symm) bounded
    · simp only [Statistics.countUpdate]
      split <;> exact accounted.allocated
  | erased key stored unlocked stands =>
    exact ⟨Statistics.toNat_countDelete _
      (accounted.used.trans (Store.usedBytes_remove stands).symm), accounted.allocated⟩
  | loaded => exact ⟨UInt64.toNat_ofNat_of_lt' bounded, rfl⟩
  | _ => exact ⟨accounted.used, accounted.allocated⟩

theorem accounted_follow (definition : Definition) (location : Option String)
    (requests : List Request)
    (bounded : ∀ early, early <+: requests →
      ((new definition location).follow early).store.usedBytes < UInt64.size) :
    ((new definition location).follow requests).Accounted := by
  induction requests using List.reverseRecOn with
  | nil => exact accounted_new definition location
  | append_singleton requests request ih =>
    have accounted := ih fun early front => bounded early (front.trans (List.prefix_append _ _))
    have last := bounded _ (List.prefix_refl _)
    rw [follow_concat] at last ⊢
    exact accounted.next last (transition_event ..)

end Accounted

/-- As long as the lengths of the records add up to less than a counter holds, the used space is
their sum, and the allocated space is that of the fewest control intervals up to the next address,
or the greatest word where these take more. -/
theorem space_matches_records (definition : Definition) (location : Option String)
    (requests : List Request)
    (bounded : ∀ early, early <+: requests →
      ((new definition location).follow early).store.usedBytes < UInt64.size) :
    let dataset := (new definition location).follow requests
    let unit := max definition.intervalSize.toNat 1
    dataset.statistics.bytesUsed.toNat = dataset.store.toList.foldr
        (fun record total => record.key.length + record.data.length + total) 0 ∧
      ∃ space, unit ∣ space ∧ dataset.store.nextRba.toNat ≤ space ∧
        (∀ other, unit ∣ other → dataset.store.nextRba.toNat ≤ other → space ≤ other) ∧
        dataset.statistics.bytesAllocated.toNat
          = if space < UInt64.size then space else UInt64.size - 1 := by
  intro dataset unit
  have accounted : dataset.Accounted := accounted_follow definition location requests bounded
  have same : dataset.definition = definition :=
    (sound_follow definition location requests).definition_eq
  refine ⟨accounted.used, definition.wholeIntervals dataset.store.nextRba.toNat,
    definition.unit_dvd_wholeIntervals _, definition.le_wholeIntervals _,
    fun other whole holds => definition.wholeIntervals_le whole holds, ?_⟩
  rw [accounted.allocated, toNat_allocatedFor, same]
  split <;> omega

/-- The last control interval of a loaded dataset does not end within the address space. -/
theorem space_after_load :
    let definition : Definition := .keyed "C" 4
    let file := (Snapshot.mk 0xffffffffffffffff [.live [3] [4, 5] (.rba 9)]).encode
    let requests : List Request :=
      [.openFor ⟨.inputOutput, .dynamic⟩, .write (.new [1] [5, 6]), .write (.new [2] [7]),
        .update [1] [], .erase [2], .close, .load "f", .openFor ⟨.output, .random⟩,
        .update [3] [4, 5, 6]].map
        fun operation => ⟨operation, Volume.empty.put ["f"] (.file file)⟩
    let dataset := (new definition none).follow requests
    (∀ early, early <+: requests →
      ((new definition none).follow early).store.usedBytes < UInt64.size) ∧
      dataset.statistics.bytesUsed.toNat = 1 + 3 ∧
      dataset.statistics.bytesAllocated.toNat = UInt64.size - 1 := by
  intro definition file requests dataset
  have bounded : ∀ early, early <+: requests →
      ((new definition none).follow early).store.usedBytes < UInt64.size := by
    have all : ∀ early ∈ requests.inits,
        ((new definition none).follow early).store.usedBytes < UInt64.size := by decide +kernel
    exact fun early front => all early ((List.mem_inits _ _).mpr front)
  obtain ⟨used, space, whole, holds, _, allocated⟩ :=
    space_matches_records definition none requests bounded
  have next : dataset.store.nextRba.toNat = UInt64.size - 1 := by decide +kernel
  have beyond : ¬ space < UInt64.size := by
    change 4096 ∣ space at whole
    change dataset.store.nextRba.toNat ≤ space at holds
    rw [next] at holds
    simp only [UInt64.size] at holds ⊢
    omega
  rw [if_neg beyond] at allocated
  exact ⟨bounded, used.trans (by decide +kernel), allocated⟩

/-! ## Used and allocated space -/

/-- The request makes a stored record longer, or loads records that take more space than there is
below the next address. -/
def Stretches (dataset : Dataset) (request : Request) : Prop :=
  match request.operation with
  | .update key data => (dataset.event request).answer = .ok .done ∧
      ∃ stored, dataset.store.find? key = some stored ∧ stored.data.length < data.length
  | .load _ => (dataset.event request).after.store.nextRba.toNat
      < (dataset.event request).after.store.usedBytes
  | _ => False

instance (dataset : Dataset) : (request : Request) → Decidable (dataset.Stretches request)
  | ⟨.update key data, volume⟩ =>
    inferInstanceAs (Decidable ((dataset.event ⟨.update key data, volume⟩).answer = .ok .done ∧
      ∃ stored ∈ dataset.store.find? key, stored.data.length < data.length))
  | ⟨.load path, volume⟩ =>
    inferInstanceAs (Decidable ((dataset.event ⟨.load path, volume⟩).after.store.nextRba.toNat
      < (dataset.event ⟨.load path, volume⟩).after.store.usedBytes))
  | ⟨.openFor _, _⟩ | ⟨.close, _⟩ | ⟨.read _, _⟩ | ⟨.readGeneric _, _⟩ | ⟨.readAt _, _⟩
  | ⟨.readNumbered _, _⟩ | ⟨.write _, _⟩ | ⟨.erase _, _⟩ | ⟨.startBrowse .., _⟩
  | ⟨.readNext _, _⟩ | ⟨.readPrevious _, _⟩ | ⟨.readBrowse _, _⟩ | ⟨.endBrowse _, _⟩
  | ⟨.resetBrowse .., _⟩ | ⟨.browseContext _, _⟩ | ⟨.save _, _⟩ =>
    inferInstanceAs (Decidable False)

section Stretching

variable {dataset : Dataset} {request : Request}

/-- Without being stretched, records that fit below the next address go on to do so. -/
theorem usedBytes_le_nextRba_of_event (unstretched : ¬ dataset.Stretches request)
    (fits : dataset.store.usedBytes ≤ dataset.store.nextRba.toNat) :
    (dataset.event request).after.store.usedBytes
      ≤ (dataset.event request).after.store.nextRba.toNat := by
  obtain ⟨operation, volume⟩ := request
  have transition := dataset.transition_event ⟨operation, volume⟩
  simp only [Stretches] at unstretched
  generalize dataset.event ⟨operation, volume⟩ = event at transition unstretched ⊢
  obtain ⟨_, answer, after⟩ := event
  simp only at transition unstretched ⊢
  cases transition with
  | wrote record next fit absent room =>
    have ends := (Store.endOf?_eq_some_iff _ _ _).mp room
    have free : dataset.store.find? (record.placedAt dataset.store.nextRba).key = none := absent
    have used : (dataset.store.put (record.placedAt dataset.store.nextRba) next).usedBytes
        = record.storedLength + dataset.store.usedBytes := Store.usedBytes_put free next
    rw [used]
    change _ ≤ next.toNat
    omega
  | updated key data stored fit stands =>
    have notLonger : data.length ≤ stored.data.length := by
      by_contra longer
      exact unstretched ⟨rfl, stored, stands, Nat.lt_of_not_le longer⟩
    have before := Store.usedBytes_remove stands
    rw [Store.usedBytes_replace]
    change _ ≤ dataset.store.nextRba.toNat
    simp only [Record.storedLength] at before ⊢
    omega
  | erased key stored unlocked stands =>
    have before := Store.usedBytes_remove stands
    change (dataset.store.remove key stored).usedBytes ≤ dataset.store.nextRba.toNat
    omega
  | loaded => exact Nat.le_of_not_lt unstretched
  | _ => exact fits

theorem usedBytes_le_nextRba_of_follow (definition : Definition) (location : Option String)
    (requests : List Request)
    (unstretched : ∀ early request, early ++ [request] <+: requests →
      ¬ ((new definition location).follow early).Stretches request) :
    ((new definition location).follow requests).store.usedBytes
      ≤ ((new definition location).follow requests).store.nextRba.toNat := by
  induction requests using List.reverseRecOn with
  | nil => exact Nat.le_refl 0
  | append_singleton requests request ih =>
    have fits := ih fun early other front =>
      unstretched early other (front.trans (List.prefix_append _ _))
    rw [follow_concat]
    exact usedBytes_le_nextRba_of_event (unstretched _ _ (List.prefix_refl _)) fits

end Stretching

/-- The used space is within the allocated one exactly if the records would fit into the control
intervals up to the next address.  They do as long as no record is made longer in its place. -/
theorem used_le_allocated_iff (definition : Definition) (location : Option String)
    (requests : List Request) :
    let dataset := (new definition location).follow requests
    ((∀ early, early <+: requests →
        ((new definition location).follow early).store.usedBytes < UInt64.size) →
      (dataset.statistics.bytesUsed ≤ dataset.statistics.bytesAllocated ↔
        dataset.store.usedBytes ≤ definition.wholeIntervals dataset.store.nextRba.toNat)) ∧
    ((∀ early request, early ++ [request] <+: requests →
        ¬ ((new definition location).follow early).Stretches request) →
      dataset.statistics.bytesUsed ≤ dataset.statistics.bytesAllocated) := by
  intro dataset
  have same : dataset.definition = definition :=
    (sound_follow definition location requests).definition_eq
  have exactly : (∀ early, early <+: requests →
        ((new definition location).follow early).store.usedBytes < UInt64.size) →
      (dataset.statistics.bytesUsed ≤ dataset.statistics.bytesAllocated ↔
        dataset.store.usedBytes ≤ definition.wholeIntervals dataset.store.nextRba.toNat) := by
    intro bounded
    have accounted : dataset.Accounted := accounted_follow definition location requests bounded
    have small : dataset.store.usedBytes < UInt64.size := bounded _ (List.prefix_refl _)
    rw [UInt64.le_iff_toNat_le, accounted.used, accounted.allocated, toNat_allocatedFor, same]
    omega
  refine ⟨exactly, ?_⟩
  intro unstretched
  have fits : ∀ early, early <+: requests →
      ((new definition location).follow early).store.usedBytes
        ≤ ((new definition location).follow early).store.nextRba.toNat := by
    intro early front
    exact usedBytes_le_nextRba_of_follow definition location early fun other request within =>
      unstretched other request (within.trans front)
  refine (exactly fun early front => ?_).mpr ?_
  · exact Nat.lt_of_le_of_lt (fits early front) (UInt64.toNat_lt _)
  · exact Nat.le_trans (fits requests (List.prefix_refl _)) (definition.le_wholeIntervals _)

/-- The records of one dataset are made shorter, and another one has room between its records. -/
theorem used_le_allocated_after_load :
    let definition : Definition := .keyed "C" 4
    let file := (Snapshot.mk 2 [.live [3] [4, 5] (.rba 9)]).encode
    let requests : List Request :=
      [.openFor ⟨.inputOutput, .dynamic⟩, .write (.new [1] [5, 6]), .write (.new [2] [7]),
        .update [1] [], .erase [2], .close, .load "f", .openFor ⟨.output, .random⟩,
        .update [3] [4], .write (.new [6] [7, 8])].map
        fun operation => ⟨operation, Volume.empty.put ["f"] (.file file)⟩
    let dataset := (new definition none).follow requests
    (∀ early, early <+: requests →
      ((new definition none).follow early).store.usedBytes < UInt64.size) ∧
      (∀ early request, early ++ [request] <+: requests →
        ¬ ((new definition none).follow early).Stretches request) ∧
      dataset.statistics.bytesUsed ≤ dataset.statistics.bytesAllocated ∧
      dataset.store.usedBytes ≤ definition.wholeIntervals dataset.store.nextRba.toNat := by
  intro definition file requests dataset
  have bounded : ∀ early, early <+: requests →
      ((new definition none).follow early).store.usedBytes < UInt64.size := by
    have all : ∀ early ∈ requests.inits,
        ((new definition none).follow early).store.usedBytes < UInt64.size := by decide +kernel
    exact fun early front => all early ((List.mem_inits _ _).mpr front)
  have unstretched : ∀ early request, early ++ [request] <+: requests →
      ¬ ((new definition none).follow early).Stretches request := by
    have all : ∀ front ∈ requests.inits, ∀ request ∈ front.getLast?,
        ¬ ((new definition none).follow front.dropLast).Stretches request := by decide +kernel
    intro early request front
    have last := all _ ((List.mem_inits _ _).mpr front) request
      (Option.mem_def.mpr (List.getLast?_concat ..))
    rw [List.dropLast_concat] at last
    exact last
  obtain ⟨exactly, within⟩ := used_le_allocated_iff definition none requests
  exact ⟨bounded, unstretched, within unstretched, (exactly bounded).mp (within unstretched)⟩

/-- A record of one byte is given 600 more in a dataset with one control interval of 512 bytes. -/
theorem used_above_allocated_after_update :
    let definition : Definition :=
      { Definition.keyed "C" 4 with intervalSize := 512, recordLimit := 600 }
    let requests : List Request := [.openFor ⟨.inputOutput, .dynamic⟩, .write (.new [75] []),
      .update [75] (List.replicate 600 120)].map fun operation => ⟨operation, .empty⟩
    let statistics := ((new definition none).follow requests).statistics
    definition.defect? = none ∧ statistics.bytesUsed = 601 ∧ statistics.bytesAllocated = 512 ∧
      ¬ statistics.bytesUsed ≤ statistics.bytesAllocated ∧
      statistics.spaceUtilization.fixed 1 = "117.4" := by
  decide +kernel

end Dataset

end KeySequenced
