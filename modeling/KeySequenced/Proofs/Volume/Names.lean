import KeySequenced.Proofs.Volume.Files
import Mathlib.Data.List.Basic

/-!
# Files of different names

A path whose last segment is a name leads to a place of that name.  So paths
with different names at their ends never lead to the same file, wherever the
directories stand, and changing the one file leaves the other as it reads.
-/

set_option autoImplicit false

namespace KeySequenced.Path

/-! ## The last segment -/

/-- The segment that a path ends with. -/
def last? (path : String) : Option String := (segments path).getLast?

/-- A text that is one segment of a path. -/
def Plain (name : String) : Prop := '/' ∉ name.toList

instance (name : String) : Decidable (Plain name) := inferInstanceAs (Decidable (¬ _))

theorem splitSlashes_ne_nil (characters : List Char) : splitSlashes characters ≠ [] := by
  fun_induction splitSlashes characters <;> simp

theorem splitSlashes_append (front back : List Char) :
    splitSlashes (front ++ '/' :: back) = splitSlashes front ++ splitSlashes back := by
  fun_induction splitSlashes front with
  | case1 => simp [splitSlashes]
  | case2 rest ih => simp [splitSlashes, ih]
  | case3 character rest _ nothing => exact absurd nothing (splitSlashes_ne_nil rest)
  | case4 character rest slash first others parts ih =>
    rw [List.cons_append, splitSlashes, ih, parts]
    · rfl
    · exact slash

theorem splitSlashes_of_plain {characters : List Char} (plain : '/' ∉ characters) :
    splitSlashes characters = [characters] := by
  induction characters with
  | nil => rfl
  | cons character rest ih =>
    rw [List.mem_cons, not_or] at plain
    rw [splitSlashes, ih plain.2]
    exact fun slash => plain.1 slash.symm

section Last

variable {name : String}

theorem Plain.append (plain : Plain name) {ending : String} (plainEnding : Plain ending) :
    Plain (name ++ ending) := by
  simp only [Plain, String.toList_append, List.mem_append, not_or] at plain plainEnding ⊢
  exact ⟨plain, plainEnding⟩

theorem segments_of_plain (plain : Plain name) : segments name = [name] := by
  simp [segments, splitSlashes_of_plain plain]

theorem last?_of_plain (plain : Plain name) : last? name = some name := by
  rw [last?, segments_of_plain plain, List.getLast?_singleton]

theorem last?_append (front : List Char) (name : String) :
    last? (String.ofList (front ++ '/' :: name.toList)) = last? name := by
  have parts : segments name ≠ [] := by simpa [segments] using splitSlashes_ne_nil name.toList
  rw [last?, segments, String.toList_ofList, splitSlashes_append, List.map_append]
  exact List.getLast?_append_of_ne_nil _ parts

theorem last?_join (base name : String) : last? (join base name) = last? name := by
  unfold join
  split
  · rfl
  split
  · rename_i slash
    obtain ⟨front, parts⟩ := List.getLast?_eq_some_iff.mp slash
    rw [← last?_append front name]
    congr 1
    apply String.toList_inj.mp
    simp [parts]
  · rw [← last?_append base.toList name]
    congr 1
    apply String.toList_inj.mp
    simp

/-- An ending without slashes belongs to the last segment. -/
theorem exists_last?_append (name : String) {ending : String} (plain : Plain ending) :
    ∃ front, last? (name ++ ending) = some (front ++ ending) := by
  suffices whole : ∀ characters : List Char, ∃ front,
      (splitSlashes (characters ++ ending.toList)).getLast? = some (front ++ ending.toList) by
    obtain ⟨front, last⟩ := whole name.toList
    refine ⟨String.ofList front, ?_⟩
    rw [last?, segments, String.toList_append, List.getLast?_map, last, Option.map_some,
      String.ofList_append, String.ofList_toList]
  intro characters
  induction characters with
  | nil => exact ⟨[], by rw [List.nil_append, splitSlashes_of_plain plain]; rfl⟩
  | cons character rest ih =>
    obtain ⟨front, last⟩ := ih
    obtain ⟨first, others, parts⟩ := List.exists_cons_of_ne_nil
      (splitSlashes_ne_nil (rest ++ ending.toList))
    rw [parts] at last
    by_cases slash : character = '/'
    · refine ⟨front, ?_⟩
      rw [slash, List.cons_append, splitSlashes, parts, List.getLast?_cons_cons, last]
    · rw [List.cons_append, splitSlashes, parts]
      · cases others with
        | nil =>
          obtain rfl : first = front ++ ending.toList := by simpa using last
          exact ⟨character :: front, rfl⟩
        | cons next more =>
          rw [List.getLast?_cons_cons] at last
          exact ⟨front, by rw [List.getLast?_cons_cons, last]⟩
      · exact slash

theorem joinSlashes_concat (parts : List (List Char)) (last : List Char) :
    joinSlashes (parts ++ [last]) = last ∨
      ∃ front, joinSlashes (parts ++ [last]) = front ++ '/' :: last := by
  induction parts with
  | nil => exact .inl rfl
  | cons part rest ih =>
    refine .inr ?_
    obtain ⟨next, others, more⟩ : ∃ next others, rest ++ [last] = next :: others :=
      List.exists_cons_of_ne_nil (by simp)
    rw [List.cons_append, more, joinSlashes, ← more]
    rcases ih with whole | ⟨front, whole⟩
    · exact ⟨part, by rw [whole]⟩
    · exact ⟨part ++ '/' :: front, by rw [whole]; simp⟩

theorem last?_ofSegments (parts : List String) (plain : Plain name) :
    last? (ofSegments (parts ++ [name])) = some name := by
  rw [ofSegments, List.map_append, List.map_singleton]
  rcases joinSlashes_concat (parts.map String.toList) name.toList with whole | ⟨front, whole⟩
  · rw [whole, String.ofList_toList, last?_of_plain plain]
  · rw [whole, last?_append, last?_of_plain plain]

theorem trimIdle_concat (before : List String) (named : isName name = true) :
    trimIdle (before ++ [name]) = before ++ [name] := by
  have moves : isIdle name = false := by
    simp only [isName, Bool.and_eq_true, Bool.not_eq_true'] at named
    exact named.1
  cases before with
  | nil => rfl
  | cons first rest => simp [trimIdle, moves]

/-- The temporary file beside a file has the name of that with an ending of its own. -/
theorem last?_temporary {path : String} (ending : last? path = some name)
    (named : isName name = true) (plain : Plain name) :
    last? (temporary path) = some (name ++ ".tmp") := by
  obtain ⟨before, parts⟩ := List.getLast?_eq_some_iff.mp ending
  rw [temporary, parts, trimIdle_concat before named, List.reverse_concat]
  simp only [named, Bool.not_true, Bool.false_eq_true, if_false]
  exact last?_ofSegments _ (plain.append (by decide))

end Last

end KeySequenced.Path

namespace KeySequenced.Volume

section Walks

variable {volume other : Volume} {path name : String} {place : Place} {content : Bytes}

/-! ## Places of a name -/

theorem getLast?_of_walk {segments : List String} {start : Place}
    (ending : segments.getLast? = some name) (named : Path.isName name = true)
    (success : volume.walk segments start = .ok place) : place.getLast? = some name := by
  have moves : Path.isIdle name = false ∧ name ≠ ".." := by
    simpa [Path.isName] using named
  induction segments generalizing start with
  | nil => cases ending
  | cons segment rest ih =>
    unfold walk at success
    cases rest with
    | nil =>
      -- The last step leads down, because a name does not stand for the place it is at.
      obtain rfl : segment = name := by simpa using ending
      rw [moves.1, if_neg Bool.false_ne_true, if_neg moves.2] at success
      split at success
      · cases success
      · cases success
      split at success
      · cases success
      cases success
      exact List.getLast?_concat
    | cons next others =>
      rw [List.getLast?_cons_cons] at ending
      split at success
      · cases success
      · cases success
      repeat' split at success
      · exact ih ending success
      · exact ih ending success
      · cases success
      · exact ih ending success

theorem getLast?_of_resolve (ending : Path.last? path = some name)
    (named : Path.isName name = true) (success : volume.resolve path = .ok place) :
    place.getLast? = some name := by
  unfold resolve at success
  split at success
  · cases success
  · rename_i segments found
    rw [Path.last?, segments_eq_of_segmentsOf found] at ending
    exact getLast?_of_walk ending named success

/-! ## What stands under a name -/

theorem read_eq_ok_iff (volume : Volume) (path : String) (content : Bytes) :
    volume.read path = .ok content ↔
      ∃ place, volume.resolve path = .ok place ∧ volume.node? place = some (.file content) := by
  unfold read lookup
  cases volume.resolve path with
  | error obstacle => simp
  | ok place =>
    cases stands : volume.node? place with
    | none => simp [stands]
    | some node => cases node <;> simp [stands]

theorem resolve_of_directoriesWithin (within : DirectoriesWithin volume other)
    (success : volume.resolve path = .ok place) : other.resolve path = .ok place := by
  unfold resolve at success ⊢
  split at success
  · cases success
  · exact walk_of_directoriesWithin within success

theorem resolve_of_sameDirectories (same : SameDirectories volume other)
    (success : volume.resolve path = .ok place) : other.resolve path = .ok place :=
  resolve_of_directoriesWithin same.within success

/-- The volumes have the same directories, and the same at every place of the name. -/
structure AlikeUnder (name : String) (volume other : Volume) : Prop where
  directories : SameDirectories volume other
  nodes : ∀ place, place.getLast? = some name → other.node? place = volume.node? place

theorem alikeUnder_refl (name : String) (volume : Volume) : AlikeUnder name volume volume where
  directories _ := Iff.rfl
  nodes _ _ := rfl

theorem AlikeUnder.symm (alike : AlikeUnder name volume other) : AlikeUnder name other volume where
  directories := alike.directories.symm
  nodes place ending := (alike.nodes place ending).symm

/-- A change at a place of another name makes no difference. -/
theorem AlikeUnder.change {third : Volume} (alike : AlikeUnder name volume other)
    (apart : place.getLast? ≠ some name) (same : SameDirectories other third)
    (elsewhere : ∀ under, under ≠ place → third.node? under = other.node? under) :
    AlikeUnder name volume third := by
  refine ⟨alike.directories.trans same, ?_⟩
  intro under ending
  have differ : under ≠ place := by
    rintro rfl
    exact apart ending
  exact (elsewhere under differ).trans (alike.nodes under ending)

theorem AlikeUnder.remove (alike : AlikeUnder name volume other)
    (free : volume.node? place ≠ some .directory) (apart : place.getLast? ≠ some name) :
    AlikeUnder name volume (other.remove place) := by
  have empty : other.node? place ≠ some .directory :=
    fun directory => free ((alike.directories place).mpr directory)
  refine alike.change apart (sameDirectories_remove empty) fun under differ => ?_
  rw [node?_remove _ _ _ (ne_nil_of_free free), if_neg differ]

/-- A file reads the same in volumes that are alike under its name. -/
theorem AlikeUnder.read_iff (alike : AlikeUnder name volume other)
    (ending : Path.last? path = some name) (named : Path.isName name = true) (content : Bytes) :
    other.read path = .ok content ↔ volume.read path = .ok content := by
  have through {volume other : Volume} (alike : AlikeUnder name volume other)
      (readable : volume.read path = .ok content) : other.read path = .ok content := by
    obtain ⟨place, resolved, stands⟩ := (read_eq_ok_iff _ _ _).mp readable
    refine (read_eq_ok_iff _ _ _).mpr
      ⟨place, resolve_of_sameDirectories alike.directories resolved, ?_⟩
    rw [alike.nodes place (getLast?_of_resolve ending named resolved)]
    exact stands
  exact ⟨through alike.symm, through alike⟩

/-! ## Removing a file -/

theorem removeFile_eq_ok_iff (volume after : Volume) (path : String) :
    volume.removeFile path = .ok after ↔
      ∃ place content, volume.resolve path = .ok place ∧
        volume.node? place = some (.file content) ∧ after = volume.remove place := by
  unfold removeFile lookup
  cases volume.resolve path with
  | error obstacle => simp
  | ok place =>
    cases stands : volume.node? place with
    | none => simp [stands]
    | some node => cases node <;> simp [stands, eq_comm]

theorem alikeUnder_of_removeFile {removed : String} (ending : Path.last? path = some removed)
    (named : Path.isName removed = true) (differ : removed ≠ name)
    (success : volume.removeFile path = .ok other) : AlikeUnder name volume other := by
  obtain ⟨place, content, resolved, stands, rfl⟩ := (removeFile_eq_ok_iff _ _ _).mp success
  refine (alikeUnder_refl name volume).remove (by simp [stands]) ?_
  rw [getLast?_of_resolve ending named resolved]
  exact fun same => differ (Option.some.inj same)

/-- A removed file cannot be read. -/
theorem read_ne_ok_of_removeFile (success : volume.removeFile path = .ok other) :
    other.read path ≠ .ok content := by
  obtain ⟨place, old, resolved, stands, rfl⟩ := (removeFile_eq_ok_iff _ _ _).mp success
  have free : volume.node? place ≠ some .directory := by simp [stands]
  have same := sameDirectories_remove free
  intro readable
  obtain ⟨under, found, stood⟩ := (read_eq_ok_iff _ _ _).mp readable
  have again := resolve_of_sameDirectories same.symm found
  rw [resolved] at again
  cases again
  rw [node?_remove _ _ _ (ne_nil_of_free free), if_pos rfl] at stood
  cases stood

end Walks

end KeySequenced.Volume
