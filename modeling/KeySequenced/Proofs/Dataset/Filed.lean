import KeySequenced.Proofs.Dataset.Restarts
import KeySequenced.Proofs.Volume.Drafts

/-!
# What is on file for a dataset

Saving a snapshot touches two files, the target and the draft beside it, and if
it fails only the draft.  So the file of a dataset changes when that dataset is
closed, and it gives back the records that were there at the last close, without
marks.
-/

set_option autoImplicit false

namespace KeySequenced

namespace Snapshot

section Saving

variable {snapshot : Snapshot} {path file name : String} {volume : Volume}

/-- Saving leaves everything under other names than those of the file and its draft, and if it
fails the file too. -/
theorem alikeUnder_save (ending : Path.last? path = some file) (named : Path.isName file = true)
    (plain : Path.Plain file) (undrafted : file ++ ".tmp" ≠ name)
    (kept : file ≠ name ∨ ∃ fault, (snapshot.save path volume).1 = .error fault) :
    volume.AlikeUnder name (snapshot.save path volume).2 := by
  refine ⟨sameDirectories_save snapshot path volume, fun place under => node?_save ?_
    (kept.imp_left fun differ resolved => ?_)⟩
  · intro drafted
    have last := Volume.getLast?_of_resolve (Path.last?_temporary ending named plain)
      (Path.isName_append file (by decide)) drafted
    rw [under] at last
    exact undrafted (Option.some.inj last).symm
  · rw [Volume.getLast?_of_resolve ending named resolved] at under
    exact differ (Option.some.inj under)

end Saving

end Snapshot

namespace Dataset

/-! ## Closing -/

section Closing

variable {definition : Definition} {dataset : Dataset} {path file name : String}
  {volume : Volume}

theorem alikeUnder_close (located : dataset.location = some path)
    (ending : Path.last? path = some file) (named : Path.isName file = true)
    (plain : Path.Plain file) (undrafted : file ++ ".tmp" ≠ name)
    (kept : file ≠ name ∨ ∃ fault, (dataset.close volume).1 = .error fault) :
    volume.AlikeUnder name (dataset.close volume).2.2 := by
  cases unshut : dataset.closed? with
  | some fault =>
    simp only [close, unshut]
    exact volume.alikeUnder_refl name
  | none =>
    have alike : (file ≠ name ∨ ∃ fault, (dataset.save path volume).1 = .error fault) →
        volume.AlikeUnder name (dataset.save path volume).2 :=
      Snapshot.alikeUnder_save ending named plain undrafted
    cases saved : dataset.save path volume with
    | mk result after =>
      simp only [close, unshut, located, saved] at kept alike ⊢
      cases result with
      | error fault => exact alike (.inr ⟨fault, rfl⟩)
      | ok size => exact alike (.inl (kept.resolve_right (by simp)))

end Closing

/-! ## What the file gives back -/

/-- A path with the snapshot of some dataset that has the records but for their marks, or with no
file at all where there are none. -/
inductive Filed (path : String) (volume : Volume) : Table Key Record → Prop where
  | saved {definition : Definition} {dataset : Dataset} (sound : Sound definition dataset)
      (within : dataset.store.toSnapshot.oversize? = none)
      (readable : volume.read path = .ok dataset.store.toSnapshot.encode) :
      Filed path volume dataset.store.unmarked.records
  | missing (unreadable : ∀ content, volume.read path ≠ .ok content) : Filed path volume .empty

section Filed

variable {definition : Definition} {dataset : Dataset} {path : String} {volume other : Volume}
  {records : Table Key Record}

theorem Filed.of_read_iff (filed : Filed path volume records)
    (same : ∀ content, other.read path = .ok content ↔ volume.read path = .ok content) :
    Filed path other records := by
  cases filed with
  | saved sound within readable => exact .saved sound within ((same _).mpr readable)
  | missing unreadable =>
    exact .missing fun content readable => unreadable content ((same content).mp readable)

theorem Sound.filed_of_close (sound : Sound definition dataset)
    (located : dataset.location = some path) (success : (dataset.close volume).1 = .ok ()) :
    Filed path (dataset.close volume).2.2 dataset.store.unmarked.records := by
  obtain ⟨within, readable⟩ := read_of_close located success
  exact .saved sound within readable

/-- What is created at a location has the records that are on file there, whatever its
definition. -/
theorem Filed.records_of_create (filed : Filed path volume records)
    (created : create definition (some path) volume = .ok dataset) :
    dataset.store.records = records := by
  cases filed with
  | saved sound within readable => exact (sound.records_of_create within readable created).1
  | missing unreadable =>
    rcases new_or_load_of_create created with ⟨rfl, _⟩ | ⟨place, located, loaded⟩
    · rfl
    · cases located
      have transition := (new definition (some path)).transition_load volume path
      rw [loaded] at transition
      cases transition with
      | loaded _ snapshot store _ found restored =>
        unfold Snapshot.load at found
        split at found
        · cases found
        · rename_i content readable
          exact absurd readable (unreadable content)

end Filed

end Dataset

end KeySequenced
