import KeySequenced.Catalog.Basic
import KeySequenced.Proofs.Volume.Drafts
import Mathlib.Data.List.DropRight

/-!
# Names of datasets and of their files

A normalized name stays as it is when it is normalized again.  The path of a
dataset's file ends in a segment of its own kind, which no draft has; if the name
is plain, the segment is the name with its ending, and the file lies in the root
directory.
-/

set_option autoImplicit false

namespace KeySequenced

namespace Text

theorem toUpper_cases (character : Char) :
    character.toUpper = character ∨
      97 ≤ character.toNat ∧ character.toNat ≤ 122 ∧
        character.toUpper.toNat + 32 = character.toNat := by
  unfold Char.toUpper
  split
  · rename_i lower
    have low := UInt32.le_iff_toNat_le.mp lower.1
    have high := UInt32.le_iff_toNat_le.mp lower.2
    have below : 97 ≤ character.toNat := low
    have above : character.toNat ≤ 122 := high
    refine .inr ⟨below, above, ?_⟩
    have shift : ('A'.val - 'a'.val).toNat = 4294967264 := rfl
    change (character.val + ('A'.val - 'a'.val)).toNat + 32 = character.toNat
    rw [UInt32.toNat_add, Char.toNat_val, shift]
    omega
  · exact .inl rfl

theorem isBlank_of_visible {character : Char} (low : 0x20 < character.toNat)
    (high : character.toNat < 0x85) : isBlank character = false := by
  simp [isBlank, blankRuns]
  omega

theorem isBlank_toUpper (character : Char) : isBlank character.toUpper = isBlank character := by
  rcases toUpper_cases character with same | ⟨low, high, shifted⟩
  · rw [same]
  · rw [isBlank_of_visible (by omega) (by omega), isBlank_of_visible (by omega) (by omega)]

theorem toUpper_toUpper (character : Char) : character.toUpper.toUpper = character.toUpper := by
  rcases toUpper_cases character.toUpper with same | ⟨low, high, shifted⟩
  · exact same
  rcases toUpper_cases character with same | ⟨low', high', shifted'⟩
  · rw [same, same]
  · omega

theorem trimBlanks_map_toUpper (characters : List Char) :
    trimBlanks (characters.map Char.toUpper) = (trimBlanks characters).map Char.toUpper := by
  have same : isBlank ∘ Char.toUpper = isBlank := funext isBlank_toUpper
  simp only [trimBlanks, List.dropWhile_map, ← List.map_reverse, same]

theorem trimBlanks_trimBlanks (characters : List Char) :
    trimBlanks (trimBlanks characters) = trimBlanks characters := by
  have front : (trimBlanks characters).dropWhile isBlank = trimBlanks characters := by
    rw [List.dropWhile_eq_self_iff]
    intro nonempty
    have begins : trimBlanks characters <+: characters.dropWhile isBlank :=
      List.rdropWhile_prefix isBlank _
    have visible := List.dropWhile_eq_self_iff.mp (List.dropWhile_idempotent isBlank characters)
      (Nat.lt_of_lt_of_le nonempty begins.length_le)
    rwa [← begins.getElem nonempty] at visible
  have back : (trimBlanks characters).rdropWhile isBlank = trimBlanks characters :=
    List.rdropWhile_idempotent isBlank _
  calc trimBlanks (trimBlanks characters)
      = ((trimBlanks characters).dropWhile isBlank).rdropWhile isBlank := rfl
    _ = trimBlanks characters := by rw [front, back]

end Text

namespace Catalog

/-- The path at which a catalog with a root keeps a dataset. -/
def snapshotPath (root name : String) : String := Path.join root (name ++ ".ksds")

section Names

variable {catalog : Catalog} {root name other : String}

theorem normalize_normalize (name : String) : normalize (normalize name) = normalize name := by
  have upper : Char.toUpper ∘ Char.toUpper = Char.toUpper := funext Text.toUpper_toUpper
  rw [normalize, normalize, String.toList_ofList, Text.trimBlanks_map_toUpper,
    Text.trimBlanks_trimBlanks, List.map_map, upper]

theorem eq_slash_of_toUpper {character : Char} (upper : character.toUpper = '/') :
    character = '/' := by
  rcases Text.toUpper_cases character with same | ⟨_, _, shifted⟩
  · rw [← same, upper]
  · have slash : '/'.toNat = 47 := rfl
    rw [upper] at shifted
    omega

theorem plain_normalize (plain : Path.Plain name) : Path.Plain (normalize name) := by
  intro slash
  rw [normalize, String.toList_ofList, List.mem_map] at slash
  obtain ⟨character, member, upper⟩ := slash
  rw [eq_slash_of_toUpper upper, Text.trimBlanks, List.mem_reverse] at member
  have inside := (List.dropWhile_sublist _).subset member
  rw [List.mem_reverse] at inside
  exact plain ((List.dropWhile_sublist _).subset inside)

theorem plain_file (plain : Path.Plain name) : Path.Plain (name ++ ".ksds") :=
  plain.append (by decide)

theorem isName_file (name : String) : Path.isName (name ++ ".ksds") = true :=
  Path.isName_append name (by decide)

theorem draft_ne_file (draft name : String) : draft ++ ".tmp" ≠ name ++ ".ksds" := by
  intro same
  have last := congrArg (fun text => text.toList.getLast?) same
  simp at last

theorem last?_snapshotPath (root : String) (plain : Path.Plain name) :
    Path.last? (snapshotPath root name) = some (name ++ ".ksds") := by
  rw [snapshotPath, Path.last?_join, Path.last?_of_plain (plain_file plain)]

/-- The segment with which the path of a file ends has the ending of files, whatever the name. -/
theorem exists_last?_snapshotPath (root name : String) :
    ∃ file, Path.last? (snapshotPath root name) = some (file ++ ".ksds") := by
  rw [snapshotPath, Path.last?_join]
  exact Path.exists_last?_append name (by decide)

theorem plain_iff_last?_snapshotPath (root name : String) :
    Path.Plain name ↔ Path.last? (snapshotPath root name) = some (name ++ ".ksds") := by
  refine ⟨last?_snapshotPath root, fun ending slash => ?_⟩
  have whole := Path.plain_of_mem_segments (List.mem_of_getLast? ending)
  exact whole (by simp [slash])

theorem eq_of_snapshotPath_eq (plain : Path.Plain name) (otherPlain : Path.Plain other)
    (same : snapshotPath root name = snapshotPath root other) : name = other := by
  have ending := last?_snapshotPath root plain
  rw [same, last?_snapshotPath root otherPlain] at ending
  simpa using ending.symm

theorem locationFor_eq (rooted : catalog.root = some root) :
    catalog.locationFor name = some (snapshotPath root name) := by
  rw [locationFor, rooted]
  rfl

end Names

end Catalog

end KeySequenced
