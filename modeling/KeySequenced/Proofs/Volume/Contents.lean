import KeySequenced.Proofs.Volume.Files
import KeySequenced.Snapshot.File

/-!
# What a save answers

Paths lead where the directories of a volume let them, and whether a file can be
written or moved does not depend on what it contains.  So two snapshots of the
same size within the same limits are saved, or refused, alike.
-/

set_option autoImplicit false

namespace KeySequenced

namespace Volume

/-- Both are nothing, both directories, or both files with whatever content. -/
inductive SameKind : Option Node → Option Node → Prop where
  | nothing : SameKind none none
  | directory : SameKind (some .directory) (some .directory)
  | file (content another : Bytes) : SameKind (some (.file content)) (some (.file another))

/-- The volumes differ in nothing but the contents of files. -/
def SameShape (volume other : Volume) : Prop :=
  ∀ place, SameKind (volume.node? place) (other.node? place)

section Shapes

variable {volume other : Volume}

theorem sameKind_refl (node : Option Node) : SameKind node node := by
  rcases node with _ | _ | content
  · exact .nothing
  · exact .directory
  · exact .file content content

theorem sameShape_put (volume : Volume) (place : Place) (content another : Bytes) :
    SameShape (volume.put place (.file content)) (volume.put place (.file another)) := by
  intro asked
  unfold node?
  split
  · exact .directory
  · simp only [put, Table.find?_insert]
    split
    · exact .file content another
    · exact sameKind_refl _

theorem SameShape.walk_eq (same : SameShape volume other) (segments : List String)
    (start : Place) : volume.walk segments start = other.walk segments start := by
  induction segments generalizing start with
  | nil => rfl
  | cons segment rest ih =>
    have kind := same start
    simp only [walk, ih]
    generalize volume.node? start = node at kind ⊢
    generalize other.node? start = another at kind ⊢
    cases kind <;> rfl

theorem SameShape.resolve_eq (same : SameShape volume other) (path : String) :
    volume.resolve path = other.resolve path := by
  unfold resolve
  split
  · rfl
  · exact same.walk_eq _ _

theorem SameShape.resolveEntry_eq (same : SameShape volume other) (path : String) :
    volume.resolveEntry path = other.resolveEntry path := by
  unfold resolveEntry
  split
  · rfl
  · exact same.walk_eq _ _

/-- Whether a file can be moved does not depend on the contents of files. -/
theorem SameShape.rename_eq (same : SameShape volume other) (source target : String) :
    (volume.rename source target).map (fun _ => ())
      = (other.rename source target).map fun _ => () := by
  unfold rename lookup
  rw [same.resolve_eq, same.resolveEntry_eq]
  cases other.resolve source with
  | error obstacle => rfl
  | ok origin =>
    have kind := same origin
    simp only
    generalize volume.node? origin = node at kind ⊢
    generalize other.node? origin = another at kind ⊢
    cases kind with
    | nothing | directory => rfl
    | file =>
      cases other.resolveEntry target with
      | error obstacle => rfl
      | ok goal =>
        have goalKind := same goal
        simp only
        split
        · rfl
        · split
          · rfl
          · generalize volume.node? goal = node at goalKind ⊢
            generalize other.node? goal = another at goalKind ⊢
            cases goalKind <;> rfl

/-- Whether a file can be written does not depend on its content. -/
theorem exists_write (volume : Volume) (path : String) :
    (∃ obstacle, ∀ content, volume.write path content = .error obstacle) ∨
      ∃ place, ∀ content, volume.write path content = .ok (volume.put place (.file content)) := by
  unfold write
  cases volume.resolveEntry path with
  | error obstacle => exact .inl ⟨obstacle, fun _ => rfl⟩
  | ok place =>
    cases Path.endsInName (Path.segments path) with
    | false => exact .inl ⟨.isADirectory, fun _ => rfl⟩
    | true =>
      cases stands : volume.node? place with
      | none => exact .inr ⟨place, fun _ => by simp [stands]⟩
      | some node =>
        cases node with
        | directory => exact .inl ⟨.isADirectory, fun _ => by simp [stands]⟩
        | file => exact .inr ⟨place, fun _ => by simp [stands]⟩

end Shapes

end Volume

namespace Snapshot

/-- What a save answers depends on how much is written and on what keeps the rest from it alone. -/
theorem save_answer_eq {snapshot other : Snapshot} (path : String) (volume : Volume)
    (size : snapshot.write.1.length = other.write.1.length)
    (limits : snapshot.write.2 = other.write.2) :
    (snapshot.save path volume).1 = (other.save path volume).1 := by
  unfold save
  rcases volume.exists_write (Path.temporary path) with ⟨obstacle, fails⟩ | ⟨place, succeeds⟩
  · simp only [fails]
  · simp only [succeeds, limits]
    split
    · rfl
    · have moved := (volume.sameShape_put place snapshot.write.1 other.write.1).rename_eq
        (Path.temporary path) path
      generalize (volume.put place (.file snapshot.write.1)).rename (Path.temporary path) path
        = result at moved ⊢
      generalize (volume.put place (.file other.write.1)).rename (Path.temporary path) path
        = another at moved ⊢
      cases result with
      | error obstacle =>
        cases another with
        | error fault =>
          cases moved
          rfl
        | ok after => cases moved
      | ok after =>
        cases another with
        | error obstacle => cases moved
        | ok saved => simp only [size]

end Snapshot

end KeySequenced
