import KeySequenced.Proofs.Dataset.Transition
import KeySequenced.Proofs.Snapshot.Framing
import KeySequenced.Proofs.Snapshot.RoundTrip
import KeySequenced.Proofs.Store.Loadable

/-!
# What can be loaded

A closed dataset takes every snapshot whose records can stand side by side in it,
and no other one.  It then holds these records alone, in whatever order their
frames stood in the file.
-/

set_option autoImplicit false

namespace KeySequenced.Dataset

/-- The dataset with the contents of a store, without cursors. -/
def holding (dataset : Dataset) (store : Store) : Dataset :=
  { dataset with
    store := store
    cursors := .empty
    statistics := dataset.statistics.resetSpace (UInt64.ofNat store.usedBytes)
      (allocatedFor dataset.definition store.nextRba) }

section Loading

variable {dataset after : Dataset} {path place : String} {volume beside : Volume}
  {snapshot : Snapshot}

theorem load_cases (shut : dataset.session = none) (path : String) (volume : Volume) :
    (∃ snapshot store, Snapshot.load path volume = .ok snapshot ∧
      Store.ofSnapshot dataset.definition snapshot = .ok store ∧
      dataset.load path volume = (.ok (), dataset.holding store)) ∨
    ∃ fault, dataset.load path volume = (.error fault, dataset) ∧
      ∀ snapshot, Snapshot.load path volume = .ok snapshot →
        ¬ Store.Loadable dataset.definition snapshot.records := by
  have idle : dataset.isOpen = false := by simp [isOpen, shut]
  unfold load
  cases readable : Snapshot.load path volume with
  | error fault =>
    refine .inr ⟨fault, rfl, ?_⟩
    intro snapshot failed
    cases failed
  | ok snapshot =>
    cases restored : Store.ofSnapshot dataset.definition snapshot with
    | error fault =>
      refine .inr ⟨fault, by simp only [restored], ?_⟩
      rintro other same loadable
      cases same
      obtain ⟨store, success⟩ := (Store.exists_ofSnapshot_iff _ _).mpr loadable
      rw [restored] at success
      cases success
    | ok store =>
      refine .inl ⟨snapshot, store, rfl, restored, ?_⟩
      simp only [restored, idle]
      rfl

theorem load_eq_ok_iff (shut : dataset.session = none)
    (readable : Snapshot.load path volume = .ok snapshot) (after : Dataset) :
    dataset.load path volume = (.ok (), after) ↔
      ∃ store, Store.ofSnapshot dataset.definition snapshot = .ok store ∧
        after = dataset.holding store := by
  rcases load_cases shut path volume with ⟨other, store, same, restored, loaded⟩ |
    ⟨fault, failed, unfit⟩
  · cases readable.symm.trans same
    rw [loaded, restored]
    simp [eq_comm]
  · rw [failed]
    constructor
    · intro success
      cases success
    · rintro ⟨store, restored, _⟩
      exact absurd ((Store.exists_ofSnapshot_iff _ _).mp ⟨store, restored⟩) (unfit _ readable)

theorem load_of_perm (shut : dataset.session = none) {head : Bytes} {first second : List Bytes}
    (exact : head.length = Snapshot.headerSize) (framed : ∀ frame ∈ first, Snapshot.Framed frame)
    (same : first.Perm second) (stands : volume.read path = .ok (head ++ first.flatten))
    (alsoStands : beside.read place = .ok (head ++ second.flatten))
    (loaded : dataset.load path volume = (.ok (), after)) :
    dataset.load place beside = (.ok (), after) := by
  obtain ⟨snapshot, store, readable, restored, filled⟩ | ⟨fault, failed, _⟩ :=
    load_cases shut path volume
  · rw [loaded] at filled
    cases filled
    rw [Snapshot.load_of_read stands] at readable
    obtain ⟨records, reordered, alsoReadable⟩ :=
      Snapshot.decode_of_perm exact framed same readable place
    rw [← Snapshot.load_of_read alsoStands] at alsoReadable
    -- The other records make a store as well, and it is the same one.
    have loadable := (Store.exists_ofSnapshot_iff _ _).mp ⟨store, restored⟩
    obtain ⟨other, alsoRestored⟩ := (Store.exists_ofSnapshot_iff dataset.definition
      ⟨snapshot.nextRba, records⟩).mpr (loadable.perm reordered.symm)
    have held := Store.restored_of_ofSnapshot restored
    have alsoHeld := Store.restored_of_ofSnapshot alsoRestored
    have equal := held.unique alsoHeld reordered.symm
    exact (load_eq_ok_iff shut alsoReadable _).mpr ⟨other, alsoRestored, by rw [equal]⟩
  · rw [loaded] at failed
    cases failed

end Loading

/-- A closed dataset is loaded from a readable file exactly if the records of the file can stand
side by side in it, and then it holds these records and no others.  Where the frames of a file
are put in another order, both files are loaded with the same effect, or neither is. -/
theorem load_succeeds_iff (dataset : Dataset) (shut : dataset.session = none) :
    (∀ (path : String) (volume : Volume) (snapshot : Snapshot),
      Snapshot.load path volume = .ok snapshot →
        ((dataset.load path volume).1 = .ok () ↔
          (∀ record ∈ snapshot.records,
            (1 ≤ record.key.length ∧ record.key.length ≤ dataset.definition.keyLength.toNat ∧
              record.data.length ≤ dataset.definition.recordLimit.toNat) ∧
            ∃ rba : UInt64, record.address = .rba rba ∧
              rba.toNat + record.storedLength ≤ UInt64.size - 1) ∧
          (snapshot.records.Pairwise fun record other => record.address ≠ other.address) ∧
          snapshot.records.Pairwise fun record other => record.key ≠ other.key) ∧
        ∀ after, dataset.load path volume = (.ok (), after) →
          (∀ key record, after.store.find? key = some record ↔
            record ∈ snapshot.records ∧ record.key = key) ∧
          (∀ rba key, after.store.index.find? rba = some key ↔
            ∃ record ∈ snapshot.records, record.key = key ∧ record.address = .rba rba) ∧
          after.store.nextRba.toNat
            = Store.furthest snapshot.records snapshot.nextRba.toNat ∧
          after.cursors = .empty ∧ after.session = none) ∧
    ∀ (head : Bytes) (first second : List Bytes), head.length = Snapshot.headerSize →
      (∀ frame ∈ first, Snapshot.Framed frame) → first.Perm second →
      ∀ (path place : String) (volume beside : Volume),
        volume.read path = .ok (head ++ first.flatten) →
        beside.read place = .ok (head ++ second.flatten) →
          (∃ after, dataset.load path volume = (.ok (), after) ∧
            dataset.load place beside = (.ok (), after)) ∨
          ∃ fault other, dataset.load path volume = (.error fault, dataset) ∧
            dataset.load place beside = (.error other, dataset) := by
  refine ⟨?_, ?_⟩
  · intro path volume snapshot readable
    refine ⟨?_, ?_⟩
    · have loads : (dataset.load path volume).1 = .ok () ↔
          Store.Loadable dataset.definition snapshot.records := by
        rw [← Store.exists_ofSnapshot_iff]
        constructor
        · intro success
          obtain ⟨store, restored, _⟩ := (load_eq_ok_iff shut readable
            (dataset.load path volume).2).mp (Prod.ext success rfl)
          exact ⟨store, restored⟩
        · rintro ⟨store, restored⟩
          exact congrArg Prod.fst ((load_eq_ok_iff shut readable _).mpr ⟨store, restored, rfl⟩)
      rw [loads]
      constructor
      · intro loadable
        exact ⟨fun record member => ⟨loadable.fits record member, loadable.placed record member⟩,
          loadable.addresses, loadable.keys⟩
      · rintro ⟨each, addresses, keys⟩
        exact ⟨fun record member => (each record member).1,
          fun record member => (each record member).2, keys, addresses⟩
    · intro after loaded
      obtain ⟨store, restored, rfl⟩ := (load_eq_ok_iff shut readable after).mp loaded
      have held := Store.restored_of_ofSnapshot restored
      exact ⟨held.find?_eq_some_iff, held.index_eq_some_iff, held.nextRba_eq, rfl, shut⟩
  · intro head first second exact framed same path place volume beside stands alsoStands
    obtain ⟨_, _, _, _, loaded⟩ | ⟨fault, failed, _⟩ := load_cases shut path volume
    · exact .inl ⟨_, loaded, load_of_perm shut exact framed same stands alsoStands loaded⟩
    · obtain ⟨_, _, _, _, loaded⟩ | ⟨other, alsoFailed, _⟩ := load_cases shut place beside
      · have alsoFramed : ∀ frame ∈ second, Snapshot.Framed frame :=
          fun frame member => framed frame (same.mem_iff.mpr member)
        have loadedFirst :=
          load_of_perm shut exact alsoFramed same.symm alsoStands stands loaded
        rw [failed] at loadedFirst
        cases loadedFirst
      · exact .inr ⟨fault, other, failed, alsoFailed⟩

/-- Two records are loaded in the place of another one, in either order of their frames. -/
theorem load_in_either_order :
    let dataset := (new (.keyed "C" 4) none).holding (Store.empty.put (.live [9] [] (.rba 0)) 1)
    let snapshot : Snapshot := ⟨3, [.live [2] [7, 7] (.rba 9), .live [1] [] (.rba 4)]⟩
    let frames := snapshot.records.map fun record => Snapshot.frame record.encode
    let holding (frames : List Bytes) :=
      Volume.empty.put ["f"] (.file (Snapshot.header 2 3 ++ frames.flatten))
    dataset.session = none ∧
      Snapshot.load "f" (holding frames) = .ok snapshot ∧
      ∃ after, dataset.load "f" (holding frames) = (.ok (), after) ∧
        dataset.load "f" (holding frames.reverse) = (.ok (), after) ∧
        after.store.find? [9] = none ∧ after.store.nextRba.toNat = 12 := by
  intro dataset snapshot frames holding
  have shut : dataset.session = none := rfl
  have readable : Snapshot.load "f" (holding frames) = .ok snapshot := by decide +kernel
  obtain ⟨accepts, reorders⟩ := load_succeeds_iff dataset shut
  obtain ⟨succeeds, contents⟩ := accepts "f" (holding frames) snapshot readable
  have loaded : (dataset.load "f" (holding frames)).1 = .ok () := by
    refine succeeds.mpr ⟨?_, by decide, by decide⟩
    intro record member
    rcases List.mem_pair.mp member with rfl | rfl
    · exact ⟨by decide, 9, rfl, by decide⟩
    · exact ⟨by decide, 4, rfl, by decide⟩
  have framed : ∀ frame ∈ frames, Snapshot.Framed frame := by
    intro frame member
    rcases List.mem_pair.mp member with rfl | rfl
    · exact Snapshot.framed_frame (by decide)
    · exact Snapshot.framed_frame (by decide)
  obtain ⟨after, first, second⟩ | ⟨_, _, failed, _⟩ := reorders (Snapshot.header 2 3) frames
    frames.reverse rfl framed frames.reverse_perm.symm "f" "f" (holding frames)
    (holding frames.reverse) (by decide +kernel) (by decide +kernel)
  · obtain ⟨held, _, next, _, _⟩ := contents after first
    refine ⟨shut, readable, after, first, second, ?_, next.trans (by decide +kernel)⟩
    refine Option.eq_none_iff_forall_not_mem.mpr fun record found => ?_
    obtain ⟨member, key⟩ := (held [9] record).mp found
    rcases List.mem_pair.mp member with rfl | rfl <;> cases key
  · rw [failed] at loaded
    cases loaded

end KeySequenced.Dataset
