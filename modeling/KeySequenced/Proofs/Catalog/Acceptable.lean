import KeySequenced.Proofs.Catalog.Names
import KeySequenced.Proofs.Dataset.Limits
import KeySequenced.Proofs.Text.Ascii
import KeySequenced.Proofs.Volume.Directories
import Mathlib.Data.List.Flatten

/-!
# Names that a directory takes

A snapshot is drafted beside its file, so a directory takes the snapshots of a
name if the name of the draft is a plain file name, short enough by itself and as
a path.  The path of the draft has all of its characters, in their order, from the
path of the file and the ending of drafts, so no other limit comes in.
-/

set_option autoImplicit false

namespace KeySequenced

/-! ## Parts of texts -/

namespace Path

section Parts

variable {base name : String}

theorem joinSlashes_sublist {parts others : List (List Char)} (fewer : parts.Sublist others)
    (something : parts ≠ []) : (joinSlashes parts).Sublist (joinSlashes others) := by
  induction fewer with
  | slnil => exact absurd rfl something
  | @cons parts others part fewer ih =>
    obtain ⟨first, rest, rfl⟩ := List.exists_cons_of_ne_nil (l := others) (by
      rintro rfl
      exact something (List.sublist_nil.mp fewer))
    have later := ih something
    exact (later.cons '/').trans (List.sublist_append_right _ _)
  | @cons_cons parts others part fewer ih =>
    cases parts with
    | nil =>
      cases others with
      | nil => exact List.Sublist.refl _
      | cons other others => exact List.sublist_append_left _ _
    | cons first rest =>
      obtain ⟨other, others, rfl⟩ := List.exists_cons_of_ne_nil (l := others) (by
        rintro rfl
        cases fewer)
      exact (List.Sublist.refl part).append ((ih (by simp)).cons_cons '/')

theorem joinSlashes_splitSlashes (characters : List Char) :
    joinSlashes (splitSlashes characters) = characters := by
  fun_induction splitSlashes characters with
  | case1 => rfl
  | case2 rest ih =>
    obtain ⟨first, others, parts⟩ := List.exists_cons_of_ne_nil (splitSlashes_ne_nil rest)
    rw [parts] at ih ⊢
    exact congrArg ('/' :: ·) ih
  | case3 character rest _ nothing => exact absurd nothing (splitSlashes_ne_nil rest)
  | case4 character rest slash first others parts ih =>
    rw [parts] at ih
    cases others with
    | nil => exact congrArg (character :: ·) ih
    | cons other others => exact congrArg (character :: ·) ih

theorem toList_ofSegments (path : String) (parts : List String) (whole : segments path = parts) :
    path.toList = joinSlashes (parts.map String.toList) := by
  rw [← whole, segments, List.map_map]
  have same : String.toList ∘ String.ofList = id := funext fun _ => String.toList_ofList
  rw [same, List.map_id, joinSlashes_splitSlashes]

/-- What a name is joined to has no characters but those of the base and a slash. -/
theorem exists_join (base : String) :
    ∃ front : String, front.toList.Sublist (base.toList ++ ['/']) ∧
      ∀ name, Plain name → join base name = front ++ name := by
  have noSlash {name : String} (plain : Plain name) : name.toList.head? ≠ some '/' := by
    intro slash
    exact plain (List.mem_of_mem_head? slash)
  by_cases bare : base = ""
  · refine ⟨"", by simp, fun name plain => ?_⟩
    simp [join, bare]
  by_cases slash : base.toList.getLast? = some '/'
  · refine ⟨base, List.sublist_append_left _ _, fun name plain => ?_⟩
    rw [join, if_neg (by simp [noSlash plain, bare]), if_pos slash]
  · refine ⟨base ++ "/", by simp, fun name plain => ?_⟩
    rw [join, if_neg (by simp [noSlash plain, bare]), if_neg slash]

/-- The draft of a name joined to a path takes the place of idle segments before the name, too. -/
theorem exists_draft_stem (base : String) :
    ∃ stem idles more, segments base = stem ++ idles ++ more ∧
      (∀ segment ∈ idles, isIdle segment = true) ∧ (∀ segment ∈ more, isIdle segment = true) ∧
      ∀ name, Plain name → isName name = true →
        segments (join base name) = stem ++ idles ++ [name] ∧
          segments (temporary (join base name)) = stem ++ [name ++ ".tmp"] := by
  obtain ⟨whole, more, split, moreIdle, joined⟩ := exists_stem base
  obtain ⟨idles, trimmed, idle⟩ := exists_trimIdle whole
  refine ⟨trimIdle whole, idles, more, trimmed ▸ split, idle, moreIdle, ?_⟩
  intro name plain named
  have parts := joined name plain
  refine ⟨trimmed ▸ parts, ?_⟩
  have drafted : temporary (join base name) = ofSegments (trimIdle whole ++ [name ++ ".tmp"]) := by
    simp only [temporary, parts, trimIdle_concat whole named, List.reverse_concat, named,
      Bool.not_true, Bool.false_eq_true, if_false, List.reverse_reverse]
  rw [drafted]
  apply segments_ofSegments (by simp)
  intro part member
  rcases List.mem_append.mp member with inside | last
  · have early : part ∈ whole := by
      rw [trimmed]
      exact List.mem_append_left _ inside
    exact plain_of_mem_segments (by rw [split]; exact List.mem_append_left _ early)
  · rw [List.mem_singleton.mp last]
    exact plain.append (by decide)

/-- The path of a draft has no characters but those of the path of the file and the ending, in
their order. -/
theorem temporary_join_sublist (base : String) (plain : Plain name) (named : isName name = true) :
    (temporary (join base name)).toList.Sublist (join base (name ++ ".tmp")).toList := by
  obtain ⟨stem, idles, _, _, _, _, drafted⟩ := exists_draft_stem base
  obtain ⟨beside, _⟩ := drafted (name ++ ".tmp") (plain.append (by decide))
    (isName_append name (by decide))
  rw [toList_ofSegments _ _ (drafted name plain named).2, toList_ofSegments _ _ beside]
  apply joinSlashes_sublist
  · exact ((List.sublist_append_left stem idles).append_right _).map _
  · simp

end Parts

end Path

namespace Volume

section Fitness

variable {path other : String}

theorem utf8ByteSize_eq (text : String) :
    text.utf8ByteSize = (text.toList.flatMap String.utf8EncodeChar).length := by
  rw [← Bytes.ofText_eq_flatMap, Bytes.ofText, ByteArray.toList, Bytes.toList_loop]
  rfl

theorem utf8ByteSize_le (fewer : path.toList.Sublist other.toList) :
    path.utf8ByteSize ≤ other.utf8ByteSize := by
  rw [utf8ByteSize_eq, utf8ByteSize_eq]
  exact (fewer.flatMap _).length_le

theorem segmentsOf_succeeds_iff (path : String) :
    (∃ segments, segmentsOf path = .ok segments) ↔
      '\x00' ∉ path.toList ∧ path ≠ "" ∧ path.utf8ByteSize ≤ longestPath := by
  unfold segmentsOf
  by_cases nul : '\x00' ∈ path.toList
  · simp [nul]
  by_cases bare : path = ""
  · simp [bare]
  by_cases long : longestPath < path.utf8ByteSize
  · simp [nul, bare, long, Nat.not_le.mpr long]
  · simp [nul, bare, long, Nat.not_lt.mp long]

/-- A path with fewer characters is fit if it has any. -/
theorem segmentsOf_of_sublist (fewer : path.toList.Sublist other.toList) (something : path ≠ "")
    (fit : ∃ segments, segmentsOf other = .ok segments) :
    ∃ segments, segmentsOf path = .ok segments := by
  obtain ⟨clean, _, short⟩ := (segmentsOf_succeeds_iff other).mp fit
  exact (segmentsOf_succeeds_iff path).mpr
    ⟨fun nul => clean (fewer.subset nul), something, Nat.le_trans (utf8ByteSize_le fewer) short⟩

/-- A path that leads to no directory and ends in a name is one for a file. -/
theorem target_of_resolve {volume : Volume} {place : Place} {name : String}
    (ending : Path.last? path = some name) (named : Path.isName name = true)
    (resolved : volume.resolve path = .ok place) (free : volume.node? place ≠ some .directory) :
    volume.Target path place := by
  have entry : Path.endsInName (Path.segments path) = true := by
    rw [Path.endsInName, ← Path.last?, ending]
    exact named
  refine ⟨?_, entry, free⟩
  unfold resolve at resolved
  unfold resolveEntry
  split at resolved
  · cases resolved
  · rename_i segments found
    rw [segments_eq_of_segmentsOf found] at entry
    simp only [trimSlashes_eq_self entry, resolved]

end Fitness

end Volume

namespace Catalog

theorem trim_normalize (name : String) : Text.trim (normalize name) = normalize name := by
  rw [Text.trim, normalize, String.toList_ofList, Text.trimBlanks_map_toUpper,
    Text.trimBlanks_trimBlanks]

/-- A name of which a directory can hold the snapshots and their drafts: a plain file name that is
short enough with the ending of drafts. -/
structure Acceptable (directory name : String) : Prop where
  something : name ≠ ""
  plain : Path.Plain name
  clean : '\x00' ∉ name.toList
  short : (name ++ ".ksds" ++ ".tmp").utf8ByteSize ≤ Volume.longestName
  reachable : (Path.join directory (name ++ ".ksds" ++ ".tmp")).utf8ByteSize ≤ Volume.longestPath

section Acceptable

variable {directory name : String} {volume : Volume}

theorem Acceptable.fit_draft (acceptable : Acceptable directory name)
    (found : ∃ segments, Volume.segmentsOf directory = .ok segments) :
    ∃ segments, Volume.segmentsOf (Path.join directory (name ++ ".ksds" ++ ".tmp"))
      = .ok segments := by
  obtain ⟨front, part, joined⟩ := Path.exists_join directory
  obtain ⟨clean, _, _⟩ := (Volume.segmentsOf_succeeds_iff directory).mp found
  have plain := (plain_file acceptable.plain).append (show Path.Plain ".tmp" by decide)
  refine (Volume.segmentsOf_succeeds_iff _).mpr ⟨?_, ?_, acceptable.reachable⟩
  · rw [joined _ plain, String.toList_append, List.mem_append, not_or]
    refine ⟨fun nul => ?_, ?_⟩
    · simpa [clean] using part.subset nul
    · simp [acceptable.clean]
  · intro nothing
    rw [joined _ plain] at nothing
    simpa using congrArg String.toList nothing

/-- In an empty directory there is no snapshot of the name, but it takes one. -/
theorem Acceptable.takes (acceptable : Acceptable directory name)
    (bare : volume.list directory = .ok []) :
    volume.Takes (snapshotPath directory name) ∧
      volume.holds (snapshotPath directory name) = false := by
  obtain ⟨place, resolved, stands, nothing⟩ := Volume.list_eq_nil bare
  have plain := plain_file acceptable.plain
  have named := isName_file name
  have ending := last?_snapshotPath directory acceptable.plain
  have draftEnding := Path.last?_temporary ending named plain
  have plainDraft := plain.append (show Path.Plain ".tmp" by decide)
  have namedDraft := Path.isName_append (name ++ ".ksds") (show 2 < ".tmp".length by decide)
  obtain ⟨found, walked⟩ := (Volume.resolve_eq_ok_iff _ _ _).mp resolved
  have fit := acceptable.fit_draft found
  obtain ⟨stem, idles, more, split, idle, moreIdle, drafted⟩ := Path.exists_draft_stem directory
  -- The file and its draft are entries of the directory.
  have entry {segment : String} (namedSegment : Path.isName segment = true)
      (shortSegment : segment.utf8ByteSize ≤ Volume.longestName) :
      volume.walk (stem ++ [segment]) [] = .ok (place ++ [segment]) := by
    rw [← Volume.walk_stem idle, ← Volume.walk_stem moreIdle, ← split,
      Volume.walk_concat_eq_ok_iff _ _ namedSegment]
    exact ⟨place, walked, stands, shortSegment, rfl⟩
  have beginning (front back : String) : front.toList.Sublist (front ++ back).toList := by
    rw [String.toList_append]
    exact List.sublist_append_left _ _
  have shortFile := Volume.utf8ByteSize_le (beginning (name ++ ".ksds") ".tmp")
  have fileReached : volume.resolve (snapshotPath directory name)
      = .ok (place ++ [name ++ ".ksds"]) := by
    refine (Volume.resolve_eq_ok_iff _ _ _).mpr ⟨?_, ?_⟩
    · obtain ⟨front, _, joined⟩ := Path.exists_join directory
      rw [joined _ plainDraft] at fit
      rw [snapshotPath, joined _ plain]
      refine Volume.segmentsOf_of_sublist ?_ ?_ fit
      · have within := beginning (front ++ (name ++ ".ksds")) ".tmp"
        rwa [String.append_assoc] at within
      · intro empty
        simpa using congrArg String.toList empty
    · rw [snapshotPath, (drafted _ plain named).1, Volume.walk_stem idle]
      exact entry named (Nat.le_trans shortFile acceptable.short)
  have draftReached : volume.resolve (Path.temporary (snapshotPath directory name))
      = .ok (place ++ [name ++ ".ksds" ++ ".tmp"]) := by
    refine (Volume.resolve_eq_ok_iff _ _ _).mpr ⟨?_, ?_⟩
    · refine Volume.segmentsOf_of_sublist
        (Path.temporary_join_sublist directory plain named) (fun empty => ?_) fit
      rw [empty] at draftEnding
      simp [Path.last?, Path.segments, Path.splitSlashes] at draftEnding
    · rw [snapshotPath, (drafted _ plain named).2]
      exact entry namedDraft acceptable.short
  refine ⟨⟨⟨_, Volume.target_of_resolve draftEnding namedDraft draftReached (by simp [nothing])⟩, _,
    Volume.target_of_resolve ending named fileReached (by simp [nothing])⟩, ?_⟩
  simp only [Volume.holds, Volume.lookup, fileReached, nothing]

end Acceptable

end Catalog

end KeySequenced
