import KeySequenced.Proofs.Catalog.Acceptable
import KeySequenced.Proofs.Catalog.Deletion
import KeySequenced.Proofs.Dataset.Reopening
import KeySequenced.Proofs.Demonstration.Browsing

/-!
# Runs of the demonstration over one directory

Each run creates the dataset from the snapshot that the runs before it have left,
and leaves another one or fails.  A run that fails has not closed the dataset, so
it leaves the snapshot as it is.  Between two runs the snapshot holds the records
up to the greatest count of those that have succeeded; `Resting` says so, and
every run keeps it.
-/

set_option autoImplicit false

namespace KeySequenced.Demonstration

open Catalog (normalize Acceptable)

/-! ## A single run -/

section Running

variable {cluster directory : String} {volume made : Volume} {dataset : Dataset} {count : Nat}

theorem defect?_eq_none (acceptable : Acceptable directory (normalize cluster)) :
    (definition (normalize cluster)).defect? = none := by
  have sameName : (definition (normalize cluster)).clusterName = normalize cluster := rfl
  rw [Definition.defect?, sameName, Catalog.trim_normalize, if_neg acceptable.something]
  rfl

/-- What a run does once its dataset has been created. -/
theorem run_of_created (positive : 1 ≤ count)
    (makes : volume.makeDirectories directory = .ok made)
    (created : Dataset.create (definition (normalize cluster))
      (some (Catalog.snapshotPath directory (normalize cluster))) made = .ok dataset) :
    (∀ fault after, prepare count dataset = (.error fault, after) →
      run ⟨count, cluster, some directory⟩ volume = (⟨[], some fault.message⟩, made)) ∧
    ∀ prepared, prepare count dataset = (.ok (), prepared) →
      run ⟨count, cluster, some directory⟩ volume = present prepared made := by
  have free : (Catalog.empty (some directory)).entries.contains (normalize cluster) = false :=
    (Table.contains_eq_false_iff _ _).mpr (Table.find?_empty _)
  have begins : (Catalog.empty (some directory)).create (definition cluster) made = .ok dataset :=
    Catalog.create_eq_ok_iff.mpr ⟨free, created⟩
  have counted : count ≠ 0 := Nat.ne_of_gt positive
  constructor
  · intro fault after fails
    simp only [run, counted, if_false, makeRoot, makes, begins, fails]
  · intro prepared prepares
    simp only [run, counted, if_false, makeRoot, makes, begins, prepares]

end Running

/-! ## Between two runs -/

/-- The directory can be made, and the snapshot in it has the records up to the greatest count;
`made` is the volume once the directory is there. -/
structure Resting (name directory : String) (greatest next : Nat) (volume made : Volume) :
    Prop where
  makes : volume.makeDirectories directory = .ok made
  takes : made.Takes (Catalog.snapshotPath directory name)
  reads : ∀ content, made.read (Catalog.snapshotPath directory name) = .ok content ↔
    volume.read (Catalog.snapshotPath directory name) = .ok content
  created : ∃ dataset,
    Dataset.create (definition name) (some (Catalog.snapshotPath directory name)) made
      = .ok dataset ∧
      Holds name (some (Catalog.snapshotPath directory name)) none (kept greatest) next dataset

section Resting

variable {cluster name directory : String} {volume made : Volume} {dataset : Dataset}
  {count greatest next : Nat}

theorem not_read_of_holds {path : String} (missing : volume.holds path = false) (content : Bytes) :
    volume.read path ≠ .ok content := by
  intro readable
  rw [Volume.holds_of_read readable] at missing
  cases missing

theorem resting_of_empty (acceptable : Acceptable directory name)
    (valid : (definition name).defect? = none)
    (makes : volume.makeDirectories directory = .ok made)
    (bare : made.list directory = .ok []) : Resting name directory 0 0 volume made := by
  obtain ⟨takes, missing⟩ := acceptable.takes bare
  have larger := Volume.extends_of_makeDirectories makes
  refine ⟨makes, takes, ?_, _, ?_, holds_new name _⟩
  · intro content
    constructor
    · intro readable
      exact absurd readable (not_read_of_holds missing content)
    · intro readable
      exact larger.read_eq_ok readable
  · have keyed : (definition name).organization = .keySequenced := rfl
    simp [Dataset.create, valid, keyed, missing]

theorem Resting.settle (resting : Resting name directory greatest next volume made) :
    Resting name directory greatest next made made where
  makes := Volume.makeDirectories_eq_self resting.makes fun _ stands => stands
  takes := resting.takes
  reads _ := Iff.rfl
  created := resting.created

/-- The dataset that is created from the snapshot of another one holds what that has held. -/
theorem Holds.create_of_close {path : String} {session : Option Session}
    (holds : Holds name (some path) session (kept greatest) next dataset)
    (valid : (definition name).defect? = none) (room : next < UInt64.size)
    (closes : (dataset.close volume).1 = .ok ()) :
    ∃ again, Dataset.create (definition name) (some path) (dataset.close volume).2.2 = .ok again ∧
      Holds name (some path) none (kept greatest) next again := by
  have short : ∀ record ∈ dataset.store.toList, record.ends ≤ next := by
    intro record member
    obtain ⟨key, found⟩ := (Store.mem_toList_iff _ _).mp member
    exact (holds.only key record found).2
  have ends : ∀ record ∈ dataset.store.toList, record.ends < UInt64.size :=
    fun record member => Nat.lt_of_le_of_lt (short record member) room
  obtain ⟨again, created⟩ := holds.sound.create_of_close holds.located valid rfl closes ends
  obtain ⟨within, readable⟩ := Dataset.read_of_close holds.located closes
  obtain ⟨located, shut⟩ := Dataset.shut_of_create created
  refine ⟨again, created, holds.of_store (Dataset.sound_of_create created) located shut ?_⟩
  -- No record ends behind the next address, so that is restored as well.
  obtain ⟨store, restored, records, index, reached⟩ :=
    holds.sound.consistent.ofSnapshot_toSnapshot ends
  have created := holds.sound.ofSnapshot_of_create within readable created
  rw [holds.unmarked_eq (pairwise_kept _), restored] at created
  rw [Except.ok.inj created] at records index reached
  rw [holds.next_eq, Store.furthest_eq_self short, ← holds.next_eq, UInt64.toNat_inj] at reached
  calc again.store
      = ⟨again.store.records, again.store.index, again.store.nextRba⟩ := rfl
    _ = dataset.store := by rw [records, index, reached]

theorem Resting.of_close (resting : Resting name directory greatest next volume made)
    (valid : (definition name).defect? = none) {top behind : Nat} (room : behind < UInt64.size)
    (holds : Holds name (some (Catalog.snapshotPath directory name)) (some modes) (kept top)
      behind dataset)
    (closes : (dataset.close made).1 = .ok ()) :
    Resting name directory top behind (dataset.close made).2.2 (dataset.close made).2.2 := by
  have same := Catalog.sameDirectories_close holds.located made
  obtain ⟨⟨draft, drafted⟩, goal, free⟩ := resting.takes
  exact ⟨Volume.makeDirectories_eq_self resting.makes same.within,
    ⟨⟨draft, drafted.of_sameDirectories same⟩, goal, free.of_sameDirectories same⟩,
    fun _ => Iff.rfl, holds.create_of_close valid room closes⟩

/-- A run without records or with keys of six digits fails and leaves the snapshot as it was. -/
theorem Resting.run_fails
    (resting : Resting (normalize cluster) directory greatest next volume made)
    (unfit : ¬ (1 ≤ count ∧ count ≤ 99999)) :
    let path := Catalog.snapshotPath directory (normalize cluster)
    let outcome := run ⟨count, cluster, some directory⟩ volume
    outcome.1.failure ≠ none ∧
      (∀ content, outcome.2.read path = .ok content ↔ volume.read path = .ok content) ∧
      ∃ made, Resting (normalize cluster) directory greatest next outcome.2 made := by
  intro path outcome
  by_cases nothing : count = 0
  · have stops : outcome = (⟨[], some "--records must be at least 1"⟩, volume) := by
      simp only [outcome, run, nothing, if_true]
    rw [stops]
    exact ⟨by simp, fun _ => Iff.rfl, made, resting⟩
  · obtain ⟨dataset, created, holds⟩ := resting.created
    have large : 99999 < count := by omega
    obtain ⟨fault, after, fails⟩ := prepare_fails holds.sound holds.seated large
    have stops : outcome = (⟨[], some fault.message⟩, made) :=
      (run_of_created (Nat.pos_of_ne_zero nothing) resting.makes created).1 fault after fails
    rw [stops]
    exact ⟨by simp, resting.reads, made, resting.settle⟩

/-- Any other run adds its records to the snapshot and prints all of them. -/
theorem Resting.run_succeeds
    (resting : Resting (normalize cluster) directory greatest next volume made)
    (valid : (definition (normalize cluster)).defect? = none) (positive : 1 ≤ count)
    (small : count ≤ 99999) (room : next + spaceOf (added greatest count) < UInt64.size) :
    let outcome := run ⟨count, cluster, some directory⟩ volume
    outcome.1.failure = none ∧
      Resting (normalize cluster) directory (max greatest count)
        (next + spaceOf (added greatest count)) outcome.2 outcome.2 ∧
      ∃ place behind,
        Snapshot.load (Catalog.snapshotPath directory (normalize cluster)) outcome.2
          = .ok ⟨behind, (kept (max greatest count)).map fun number =>
              recordOf number (place number)⟩ ∧
        Prints (normalize cluster) (max greatest count) place outcome.1.lines := by
  intro outcome
  obtain ⟨dataset, created, holds⟩ := resting.created
  obtain ⟨prepared, prepares, held⟩ := holds.prepare positive small room
  obtain ⟨ended, lines, presents, prints, left, store, closes⟩ :=
    held.present valid (Nat.le_trans positive (Nat.le_max_right _ _)) resting.takes
  have ends : outcome = (⟨lines, none⟩, (ended.close made).2.2) :=
    ((run_of_created positive resting.makes created).2 prepared prepares).trans presents
  rw [ends]
  obtain ⟨within, readable⟩ := Dataset.read_of_close left.located closes
  refine ⟨rfl, resting.of_close valid room left closes, rbaOf prepared, ended.store.nextRba, ?_,
    prints⟩
  rw [Snapshot.load_of_read readable, left.sound.decode_encode within,
    left.unmarked_eq (pairwise_kept _), Store.toSnapshot, store, held.toList_eq (pairwise_kept _)]

end Resting

/-! ## Runs one after the other -/

/-- The greatest count of the runs that have succeeded so far, and the volume after them. -/
structure Series where
  greatest : Nat
  volume : Volume

namespace Series

def run (cluster directory : String) (series : Series) (count : Nat) : Series :=
  let outcome := Demonstration.run ⟨count, cluster, some directory⟩ series.volume
  ⟨if outcome.1.failure.isNone then max series.greatest count else series.greatest, outcome.2⟩

/-- The runs with these counts, one after the other. -/
def after (cluster directory : String) (counts : List Nat) (volume : Volume) : Series :=
  counts.foldl (run cluster directory) ⟨0, volume⟩

end Series

/-- The greatest count so far and the next address, as the counts alone determine them. -/
structure Ledger where
  greatest : Nat
  next : Nat

namespace Ledger

def enter (ledger : Ledger) (count : Nat) : Ledger :=
  if 1 ≤ count ∧ count ≤ 99999 then
    ⟨max ledger.greatest count, ledger.next + spaceOf (added ledger.greatest count)⟩
  else ledger

def of (counts : List Nat) : Ledger := counts.foldl enter ⟨0, 0⟩

end Ledger

section Runs

variable {cluster directory : String} {volume made : Volume} {counts early : List Nat}
  {count : Nat}

theorem Ledger.of_concat (early : List Nat) (count : Nat) :
    of (early ++ [count]) = (of early).enter count := by
  rw [of, List.foldl_append]
  rfl

theorem Ledger.next_le_enter (ledger : Ledger) (count : Nat) :
    ledger.next ≤ (ledger.enter count).next := by
  unfold enter
  split
  · exact Nat.le_add_right _ _
  · exact Nat.le_refl _

theorem Series.after_concat (early : List Nat) (count : Nat) :
    after cluster directory (early ++ [count]) volume
      = (after cluster directory early volume).run cluster directory count := by
  rw [after, List.foldl_append]
  rfl

/-- The series has come as far as the ledger says, and the snapshot has the records up to there. -/
structure Follows (cluster directory : String) (ledger : Ledger) (series : Series) : Prop where
  greatest_eq : series.greatest = ledger.greatest
  resting : ∃ made,
    Resting (normalize cluster) directory ledger.greatest ledger.next series.volume made

theorem Follows.run {ledger : Ledger} {series : Series}
    (follows : Follows cluster directory ledger series)
    (valid : (definition (normalize cluster)).defect? = none)
    (room : (ledger.enter count).next < UInt64.size) :
    Follows cluster directory (ledger.enter count) (series.run cluster directory count) := by
  obtain ⟨made, resting⟩ := follows.resting
  unfold Ledger.enter at room ⊢
  by_cases fit : 1 ≤ count ∧ count ≤ 99999
  · rw [if_pos fit] at room ⊢
    obtain ⟨succeeds, left, _⟩ := resting.run_succeeds valid fit.1 fit.2 room
    refine ⟨?_, _, left⟩
    simp only [Series.run, succeeds, Option.isNone_none, if_true, follows.greatest_eq]
  · rw [if_neg fit]
    obtain ⟨fails, _, beside, left⟩ := resting.run_fails fit
    refine ⟨?_, beside, left⟩
    simp only [Series.run, Option.isNone_iff_eq_none, fails, if_false, follows.greatest_eq]

theorem follows_after (acceptable : Acceptable directory (normalize cluster))
    (makes : volume.makeDirectories directory = .ok made) (bare : made.list directory = .ok [])
    (room : (Ledger.of counts).next < UInt64.size) :
    Follows cluster directory (Ledger.of counts)
      (Series.after cluster directory counts volume) := by
  have valid := defect?_eq_none acceptable
  induction counts using List.reverseRecOn with
  | nil => exact ⟨rfl, made, resting_of_empty acceptable valid makes bare⟩
  | append_singleton early count ih =>
    rw [Ledger.of_concat] at room ⊢
    rw [Series.after_concat]
    have before := ih (Nat.lt_of_le_of_lt (Ledger.next_le_enter _ _) room)
    exact before.run valid room

/-- Of the runs with an acceptable name over a directory that is empty at first, as long as there
are addresses, exactly those with a count from one to 99999 succeed.  A run that fails leaves the
snapshot as it was.  After one that succeeds, the snapshot has the records of the numbers up to the
greatest count of a successful run, except for three, each under its key of five digits; the run
has printed them in the order of their numbers and how many they are. -/
theorem runs_over_empty_directory (acceptable : Acceptable directory (normalize cluster))
    (makes : volume.makeDirectories directory = .ok made) (bare : made.list directory = .ok [])
    (room : (Ledger.of (early ++ [count])).next < UInt64.size) :
    let path := Catalog.snapshotPath directory (normalize cluster)
    let before := Series.after cluster directory early volume
    let outcome := run ⟨count, cluster, some directory⟩ before.volume
    (outcome.1.failure = none ↔ 1 ≤ count ∧ count ≤ 99999) ∧
    (outcome.1.failure ≠ none → ∀ content,
      outcome.2.read path = .ok content ↔ before.volume.read path = .ok content) ∧
    (outcome.1.failure = none →
      let greatest := max before.greatest count
      let numbers := (List.range' 1 greatest).filter (· ≠ 3)
      ∃ (place : Nat → UInt64) (next : UInt64) (rest : String),
        Snapshot.load path outcome.2 = .ok ⟨next, numbers.map fun number =>
          .live (Bytes.ofText ("KEY" ++ fiveDigits number))
            (Bytes.ofText ("record " ++ toString number)) (.rba (place number))⟩ ∧
        (∀ number ∈ numbers, (fiveDigits number).toList.length = 5) ∧
        outcome.1.lines = "browse positioned on KEY00001"
          :: ((numbers.drop 1).map fun number => "KEY" ++ fiveDigits number ++ "  RBA("
            ++ toString (place number).toNat ++ ")  record " ++ toString number)
          ++ [normalize cluster ++ ": "
            ++ toString (if greatest < 3 then greatest else greatest - 1) ++ " records, "
            ++ rest]) := by
  intro path before outcome
  have valid := defect?_eq_none acceptable
  rw [Ledger.of_concat] at room
  obtain ⟨reached, made, resting⟩ := follows_after acceptable makes bare
    (Nat.lt_of_le_of_lt (Ledger.next_le_enter _ _) room)
  by_cases fit : 1 ≤ count ∧ count ≤ 99999
  · rw [Ledger.enter, if_pos fit] at room
    obtain ⟨succeeds, left, place, next, loads, rest, prints⟩ :=
      resting.run_succeeds valid fit.1 fit.2 room
    refine ⟨by simp [outcome, before, succeeds, fit], fun failed => absurd succeeds failed, ?_⟩
    intro _ greatest numbers
    obtain ⟨dataset, _, holds⟩ := left.created
    have same : greatest = max (Ledger.of early).greatest count := by
      simp only [greatest, before, reached]
    refine ⟨place, next, rest, ?_, ?_, ?_⟩
    · simp only [numbers, same]
      exact loads
    · intro number member
      simp only [numbers, same] at member
      exact length_fiveDigits (holds.small number member).2
    · simp only [numbers, same]
      exact prints
  · obtain ⟨fails, kept, _⟩ := resting.run_fails fit
    refine ⟨by simp [outcome, before, fails, fit], fun _ => kept, ?_⟩
    intro succeeds
    exact absurd succeeds fails

/-- A run for three records after runs for two, none and four over a new directory. -/
theorem runs_over_new_directory :
    let early := [2, 0, 4]
    let made := Volume.empty.put ["d"] .directory
    let before := Series.after " demo" "d" early .empty
    let outcome := run ⟨3, " demo", some "d"⟩ before.volume
    Acceptable "d" (normalize " demo") ∧ Volume.empty.makeDirectories "d" = .ok made ∧
      made.list "d" = .ok [] ∧ (Ledger.of (early ++ [3])).next < UInt64.size ∧
      outcome.1.failure = none ∧
      ∃ (place : Nat → UInt64) (rest : String), outcome.1.lines =
        ["browse positioned on KEY00001",
          "KEY00002  RBA(" ++ toString ((place 2).toNat) ++ ")  record 2",
          "KEY00004  RBA(" ++ toString ((place 4).toNat) ++ ")  record 4",
          "DEMO: 3 records, " ++ rest] := by
  intro early made before outcome
  have acceptable : Acceptable "d" (normalize " demo") :=
    ⟨by decide +kernel, by decide +kernel, by decide +kernel, by decide +kernel,
      by decide +kernel⟩
  have makes : Volume.empty.makeDirectories "d" = .ok made := rfl
  have bare : made.list "d" = .ok [] := by decide +kernel
  have room : (Ledger.of (early ++ [3])).next < UInt64.size := by decide +kernel
  have reached : before.greatest = 4 :=
    (follows_after acceptable makes bare
      (show (Ledger.of early).next < UInt64.size by decide +kernel)).greatest_eq.trans
      (by decide +kernel)
  obtain ⟨succeeds, _, prints⟩ :=
    runs_over_empty_directory acceptable makes bare room
  have success : outcome.1.failure = none := succeeds.mpr (by decide)
  obtain ⟨place, next, rest, _, _, lines⟩ := prints success
  have numbers : ((List.range' 1 (max 4 3)).filter (· ≠ 3)).drop 1 = [2, 4] := by decide
  have line (number : Nat) (rba : UInt64) {front back : String}
      (before : "KEY" ++ fiveDigits number ++ "  RBA(" = front)
      (behind : ")  record " ++ toString number = back) :
      "KEY" ++ fiveDigits number ++ "  RBA(" ++ toString rba.toNat ++ ")  record "
        ++ toString number = front ++ toString rba.toNat ++ back := by
    rw [before, String.append_assoc, behind]
  refine ⟨acceptable, makes, bare, room, success, place, rest, ?_⟩
  rw [lines, reached, numbers, List.map_cons, List.map_cons, List.map_nil,
    line 2 (place 2) (show _ = "KEY00002  RBA(" by decide +kernel)
      (show _ = ")  record 2" by decide +kernel),
    line 4 (place 4) (show _ = "KEY00004  RBA(" by decide +kernel)
      (show _ = ")  record 4" by decide +kernel),
    show normalize " demo" ++ ": " ++ toString (if max 4 3 < 3 then max 4 3 else max 4 3 - 1)
      ++ " records, " = "DEMO: 3 records, " by decide +kernel]
  rfl

end Runs

end KeySequenced.Demonstration
