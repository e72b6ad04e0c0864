import KeySequenced.Proofs.Dataset.Transition
import KeySequenced.Proofs.Snapshot.RoundTrip
import KeySequenced.Proofs.Volume.Drafts

/-!
# Saving is all or nothing

A save that fails, for whatever reason, leaves the target as it was and touches
nothing but the draft beside it; a save that succeeds puts the whole snapshot at
the target, leaves no draft and touches nothing else.  Closing a dataset saves it
first, and if that fails the dataset stays open as it is.
-/

set_option autoImplicit false

namespace KeySequenced

/-! ## What a save may change -/

namespace Volume

/-- What the path leads to is the same afterwards, and only its draft may be another. -/
structure Spared (volume after : Volume) (path : String) : Prop where
  target : after.lookup path = volume.lookup path
  elsewhere : ∀ place, after.node? place ≠ volume.node? place →
    volume.resolve (Path.temporary path) = .ok place ∧
      ∃ before base name, volume.Stands path before base name ∧ place = base ++ [name ++ ".tmp"]

/-- The content stands at the path afterwards, the entry `name` of the directory `base`; its draft
is gone, and all else is as it was. -/
structure Replaced (volume after : Volume) (path : String) (content : Bytes) (base : Place)
    (name : String) : Prop where
  resolved : volume.resolve path = .ok (base ++ [name])
  drafted : volume.resolve (Path.temporary path) = .ok (base ++ [name ++ ".tmp"])
  target : after.lookup path = .ok (base ++ [name], .file content)
  gone : after.holds (Path.temporary path) = false
  elsewhere : ∀ place, place ≠ base ++ [name] → after.node? place =
    if place = base ++ [name ++ ".tmp"] then none else volume.node? place

theorem spared_refl (volume : Volume) (path : String) : Spared volume volume path where
  target := rfl
  elsewhere _ differ := absurd rfl differ

end Volume

namespace Snapshot

section Saving

variable {snapshot : Snapshot} {path : String} {volume : Volume} {fault : Fault} {size : Nat}

theorem spared_of_save (failed : (snapshot.save path volume).1 = .error fault) :
    volume.Spared (snapshot.save path volume).2 path := by
  rcases eq_or_drafted_of_save failed with same | ⟨draft, target, after⟩
  · rw [same]
    exact volume.spared_refl path
  rw [after]
  have elsewhere (place : Place) (apart : place ≠ draft) :
      (volume.put draft (.file snapshot.draft)).node? place = volume.node? place := by
    rw [Volume.node?_put _ _ _ _ (Volume.ne_nil_of_free target.free), if_neg apart]
  refine ⟨Volume.lookup_eq_of_draft target.resolve_eq target.free elsewhere, ?_⟩
  intro place differ
  obtain rfl : place = draft := by
    by_contra apart
    exact differ (elsewhere place apart)
  exact ⟨target.resolve_eq, Volume.exists_stands_of_resolve_temporary target.resolve_eq⟩

theorem replaced_of_save (success : (snapshot.save path volume).1 = .ok size) :
    ∃ base name,
      volume.Replaced (snapshot.save path volume).2 path snapshot.encode base name := by
  obtain ⟨_, draft, goal, target, free, after⟩ := exists_placed_of_save success
  have same := sameDirectories_placed snapshot target free
  have nodes := node?_placed snapshot target free
  rw [after]
  obtain ⟨before, base, name, stands, rfl⟩ :=
    Volume.exists_stands_of_resolve_temporary target.resolve_eq
  rcases stands.goal_eq free.resolve_eq with ⟨_, rfl⟩ | ⟨_, rfl⟩
  · exact absurd stands.directory free.free
  have apart : base ++ [name ++ ".tmp"] ≠ base ++ [name] := by
    simp
  refine ⟨base, name, free.resolve_eq, target.resolve_eq, ?_, ?_, ?_⟩
  · apply (free.of_sameDirectories same).lookup_eq
    rw [nodes, if_pos rfl]
  · have resolved := Volume.resolve_of_sameDirectories same target.resolve_eq
    simp only [Volume.holds, Volume.lookup, resolved, nodes, if_neg apart, if_true]
  · intro place differ
    rw [nodes, if_neg differ]

end Saving

end Snapshot

namespace Dataset

section Closing

variable {dataset left : Dataset} {path : String} {volume after : Volume} {fault : Fault}

theorem closed?_eq_of_isOpen (opened : dataset.isOpen = true) : dataset.closed? = none := by
  rw [closed?_eq_none_iff]
  exact Option.isSome_iff_exists.mp opened

theorem close_of_shut (shut : dataset.isOpen = false) (volume : Volume) :
    dataset.close volume = (.error dataset.notOpen, dataset, volume) := by
  have unopened : dataset.session = none := by simpa [isOpen] using shut
  simp only [close, closed?, unopened]

/-- Closing an open dataset that has a location is saving it there. -/
theorem close_of_located (opened : dataset.isOpen = true) (located : dataset.location = some path)
    (volume : Volume) : dataset.close volume =
      ((dataset.save path volume).1.map fun _ => (),
        if (dataset.save path volume).1.isOk then dataset.closed else dataset,
        (dataset.save path volume).2) := by
  cases saved : dataset.save path volume with
  | mk result after =>
    simp only [close, closed?_eq_of_isOpen opened, located, saved]
    cases result <;> rfl

theorem close_eq_ok_iff (located : dataset.location = some path) :
    dataset.close volume = (.ok (), left, after) ↔
      dataset.isOpen = true ∧ left = dataset.closed ∧
        ∃ size, dataset.save path volume = (.ok size, after) := by
  cases opened : dataset.isOpen with
  | false => simp [close_of_shut opened]
  | true =>
    rw [close_of_located opened located]
    cases saved : dataset.save path volume with
    | mk result beside =>
      cases result with
      | error fault => simp [Except.map]
      | ok size => simp [Except.map, Except.isOk, Except.toBool, eq_comm]

theorem close_eq_error_iff (located : dataset.location = some path) :
    dataset.close volume = (.error fault, left, after) ↔
      left = dataset ∧ (dataset.isOpen = false ∧ fault = dataset.notOpen ∧ after = volume ∨
        dataset.isOpen = true ∧ dataset.save path volume = (.error fault, after)) := by
  cases opened : dataset.isOpen with
  | false =>
    rw [close_of_shut opened]
    constructor
    · rintro ⟨⟩
      exact ⟨rfl, .inl ⟨rfl, rfl, rfl⟩⟩
    · rintro ⟨rfl, ⟨_, rfl, rfl⟩ | ⟨⟨⟩, _⟩⟩
      rfl
  | true =>
    rw [close_of_located opened located]
    cases saved : dataset.save path volume with
    | mk result beside =>
      cases result with
      | ok size => simp [Except.map]
      | error other =>
        constructor
        · rintro ⟨⟩
          exact ⟨rfl, .inr ⟨rfl, rfl⟩⟩
        · rintro ⟨rfl, ⟨⟨⟩, _⟩ | ⟨_, ⟨⟩⟩⟩
          rfl

end Closing

/-- If a save or a close fails, the target stays as it was and nothing but its draft has changed,
and the dataset stays as it is; if it succeeds, the target is a file of the returned size with the
encoding of the records, there is no draft, and nothing else has changed.  It fails only if the
draft cannot be made, a record is outside the wire limits or the target cannot be replaced.  The
draft lies beside the target, under its name with `.tmp` behind it; a target that ends in `..` has
no name to extend, and its draft is `.tmp` in the directory to which it leads. -/
theorem all_or_nothing (dataset : Dataset) (path : String) (volume : Volume) :
    let content := dataset.store.toSnapshot.encode
    (∀ fault after, dataset.save path volume = (.error fault, after) →
      volume.Spared after path) ∧
    (∀ size after, dataset.save path volume = (.ok size, after) →
      size = content.length ∧ ∃ base name, volume.Replaced after path content base name) ∧
    ((∃ size after, dataset.save path volume = (.ok size, after)) ↔
      (∃ draft, volume.Target (Path.temporary path) draft) ∧
        (∀ record ∈ dataset.store.toSnapshot.records, record.key ≠ [] ∧
          record.key.length ≤ maximumKeyLength ∧ record.data.length ≤ maximumRecordLength) ∧
        ∃ goal, volume.Target path goal) ∧
    (dataset.location = some path →
      (∀ fault left after, dataset.close volume = (.error fault, left, after) →
        left = dataset ∧ volume.Spared after path ∧
          (dataset.isOpen = true ∨ fault = dataset.notOpen ∧ after = volume)) ∧
      (∀ left after, dataset.close volume = (.ok (), left, after) →
        left = dataset.closed ∧ ∃ base name, volume.Replaced after path content base name) ∧
      ((dataset.close volume).1 = .ok () ↔
        dataset.isOpen = true ∧ ∃ size after, dataset.save path volume = (.ok size, after))) := by
  intro content
  have failing {fault : Fault} {after : Volume}
      (failed : dataset.save path volume = (.error fault, after)) : volume.Spared after path := by
    have spared := Snapshot.spared_of_save (congrArg Prod.fst failed)
    rwa [show dataset.store.toSnapshot.save path volume = _ from failed] at spared
  have succeeding {size : Nat} {after : Volume}
      (success : dataset.save path volume = (.ok size, after)) :
      ∃ base name, volume.Replaced after path content base name := by
    have replaced := Snapshot.replaced_of_save (congrArg Prod.fst success)
    rwa [show dataset.store.toSnapshot.save path volume = _ from success] at replaced
  refine ⟨fun fault after => failing, ?_, ?_, ?_⟩
  · intro size after success
    obtain ⟨_, length, _⟩ := (Snapshot.save_eq_ok_iff _ _ _ _ _).mp success
    exact ⟨length, succeeding success⟩
  · simp only [save, Snapshot.save_eq_ok_iff, Snapshot.oversize?_eq_none_iff,
      ← Record.oversize?_eq_none_iff]
    constructor
    · rintro ⟨_, _, within, _, draft, goal, target, free, _⟩
      exact ⟨⟨draft, target⟩, within, goal, free⟩
    · rintro ⟨⟨draft, target⟩, within, goal, free⟩
      exact ⟨_, _, within, rfl, draft, goal, target, free, rfl⟩
  intro located
  refine ⟨?_, ?_, ?_⟩
  · intro fault left after failed
    rcases (close_eq_error_iff located).mp failed with
      ⟨rfl, ⟨_, rfl, rfl⟩ | ⟨opened, unsaved⟩⟩
    · exact ⟨rfl, after.spared_refl path, .inr ⟨rfl, rfl⟩⟩
    · exact ⟨rfl, failing unsaved, .inl opened⟩
  · intro left after success
    obtain ⟨_, rfl, size, saved⟩ := (close_eq_ok_iff located).mp success
    exact ⟨rfl, succeeding saved⟩
  · constructor
    · intro success
      obtain ⟨opened, _, size, saved⟩ := (close_eq_ok_iff located).mp (Prod.ext success rfl)
      exact ⟨opened, size, _, saved⟩
    · rintro ⟨opened, size, after, saved⟩
      exact congrArg Prod.fst ((close_eq_ok_iff located).mpr ⟨opened, rfl, size, saved⟩)

/-- The location is a directory, so closing fails and leaves a draft; elsewhere the same records
are saved over an old draft. -/
theorem unclosed_over_directory :
    let volume := (Volume.empty.put ["D"] .directory).put ["S.tmp"] (.file [9])
    let dataset := ((new (.keyed "C" 4) (some "D")).run [.openFor ⟨.extend, .random⟩,
      .write (.new [1] [5]), .startBrowse [1] false .forward] volume).2.1
    ∃ after saved, dataset.close volume = (.error (.ofObstacle "D" "Snapshot rename failed"
        .isADirectory), dataset, after) ∧
      dataset.isOpen = true ∧ after.lookup "D" = .ok (["D"], .directory) ∧
      dataset.save "S" volume = (.ok 82, saved) ∧
      saved.lookup "S" = .ok (["S"], .file dataset.store.toSnapshot.encode) ∧
      saved.holds "S.tmp" = false := by
  intro volume dataset
  have opened : dataset.isOpen = true := by decide +kernel
  have located : dataset.location = some "D" := by decide +kernel
  have refused : (dataset.close volume).1
      = .error (.ofObstacle "D" "Snapshot rename failed" .isADirectory) := by decide +kernel
  have written : (dataset.save "S" volume).1 = .ok 82 := by decide +kernel
  obtain ⟨_, _, _, closing⟩ := all_or_nothing dataset "D" volume
  obtain ⟨_, saving, _⟩ := all_or_nothing dataset "S" volume
  obtain ⟨same, spared, _⟩ := (closing located).1 _ _ _ (Prod.ext refused rfl)
  obtain ⟨_, base, name, replaced⟩ := saving 82 _ (Prod.ext written rfl)
  have place : base ++ [name] = ["S"] :=
    Except.ok.inj (replaced.resolved.symm.trans (by decide +kernel))
  refine ⟨(dataset.close volume).2.2, (dataset.save "S" volume).2,
    Prod.ext refused (Prod.ext same rfl), opened, ?_, Prod.ext written rfl, ?_, replaced.gone⟩
  · rw [spared.target]
    decide +kernel
  · rw [replaced.target, place]

end Dataset

end KeySequenced
