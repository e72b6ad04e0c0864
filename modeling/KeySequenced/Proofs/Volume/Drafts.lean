import KeySequenced.Proofs.Volume.Names

/-!
# Drafts and their targets

The temporary file of a target stands in the directory of the target and has its
name with an ending of its own; for a target that ends in dots it stands in that
directory.  So a draft is not met on the way to its target, and a path leads to
the same whether its draft is there or not.
-/

set_option autoImplicit false

namespace KeySequenced.Path

/-! ## Segments put together -/

section Segments

variable {path base name segment : String} {parts : List String}

theorem plain_of_mem_splitSlashes {characters part : List Char}
    (member : part ∈ splitSlashes characters) : '/' ∉ part := by
  induction characters using splitSlashes.induct generalizing part with
  | case1 => simp_all [splitSlashes]
  | case2 rest ih =>
    rw [splitSlashes, List.mem_cons] at member
    rcases member with rfl | later
    · simp
    · exact ih later
  | case3 character rest _ nothing => exact absurd nothing (splitSlashes_ne_nil rest)
  | case4 character rest slash first others split ih =>
    rw [splitSlashes, split] at member
    · rcases List.mem_cons.mp member with rfl | later
      · have plain : '/' ∉ first := ih (by simp [split])
        rw [List.mem_cons, not_or]
        exact ⟨fun same => slash same.symm, plain⟩
      · exact ih (by simp [split, later])
    · exact slash

theorem plain_of_mem_segments (member : segment ∈ segments path) : Plain segment := by
  obtain ⟨part, inside, rfl⟩ := List.mem_map.mp member
  rw [Plain, String.toList_ofList]
  exact plain_of_mem_splitSlashes inside

theorem splitSlashes_joinSlashes {parts : List (List Char)} (nonempty : parts ≠ [])
    (plain : ∀ part ∈ parts, '/' ∉ part) : splitSlashes (joinSlashes parts) = parts := by
  induction parts using joinSlashes.induct with
  | case1 => exact absurd rfl nonempty
  | case2 part => exact splitSlashes_of_plain (plain part (by simp))
  | case3 part next rest ih =>
    rw [joinSlashes, splitSlashes_append, splitSlashes_of_plain (plain part (by simp)),
      ih (by simp) fun other member => plain other (by simp [List.mem_cons.mp member])]
    rfl

theorem segments_ofSegments (nonempty : parts ≠ []) (plain : ∀ part ∈ parts, Plain part) :
    segments (ofSegments parts) = parts := by
  have whole : splitSlashes (joinSlashes (parts.map String.toList)) = parts.map String.toList := by
    refine splitSlashes_joinSlashes (by simpa using nonempty) fun part member => ?_
    obtain ⟨text, inside, rfl⟩ := List.mem_map.mp member
    exact plain text inside
  rw [segments, ofSegments, String.toList_ofList, whole, List.map_map]
  simp

/-- A name joined to a path takes the place of idle segments at the end, the same for each name. -/
theorem exists_stem (base : String) :
    ∃ stem idles, segments base = stem ++ idles ∧ (∀ segment ∈ idles, isIdle segment = true) ∧
      ∀ name, Plain name → segments (join base name) = stem ++ [name] := by
  have noSlash {name : String} (plain : Plain name) : name.toList.head? ≠ some '/' := by
    intro slash
    exact plain (List.mem_of_mem_head? slash)
  by_cases bare : base = ""
  · refine ⟨[], [""], ?_, ?_, ?_⟩
    · rw [bare]
      rfl
    · simp [isIdle]
    · intro name plain
      simp [join, bare, segments_of_plain plain]
  have joined {name : String} (plain : Plain name) : join base name =
      if base.toList.getLast? = some '/' then base ++ name else base ++ "/" ++ name := by
    rw [join, if_neg (by simp [noSlash plain, bare])]
  by_cases slash : base.toList.getLast? = some '/'
  · obtain ⟨front, split⟩ := List.getLast?_eq_some_iff.mp slash
    refine ⟨(splitSlashes front).map String.ofList, [""], ?_, by simp [isIdle], ?_⟩
    · rw [segments, split, splitSlashes_append]
      simp [splitSlashes]
    · intro name plain
      rw [joined plain, if_pos slash, segments, String.toList_append, split, List.append_assoc,
        List.singleton_append, splitSlashes_append, splitSlashes_of_plain plain]
      simp
  · refine ⟨segments base, [], by simp, by simp, ?_⟩
    intro name plain
    rw [joined plain, if_neg slash, segments, String.toList_append, String.toList_append,
      List.append_assoc]
    rw [show "/".toList = ['/'] from rfl, List.singleton_append, splitSlashes_append,
      splitSlashes_of_plain plain]
    simp [segments]

theorem exists_segments_join (base : String) (plain : Plain name) :
    ∃ stem idles, segments base = stem ++ idles ∧ (∀ segment ∈ idles, isIdle segment = true) ∧
      segments (join base name) = stem ++ [name] := by
  obtain ⟨stem, idles, split, idle, joined⟩ := exists_stem base
  exact ⟨stem, idles, split, idle, joined name plain⟩

theorem exists_trimIdle (parts : List String) :
    ∃ idles, parts = trimIdle parts ++ idles ∧ ∀ segment ∈ idles, isIdle segment = true := by
  cases parts with
  | nil => exact ⟨[], rfl, by simp⟩
  | cons first rest =>
    refine ⟨(rest.reverse.takeWhile isIdle).reverse, ?_, ?_⟩
    · rw [trimIdle, List.cons_append, ← List.reverse_append, List.takeWhile_append_dropWhile,
        List.reverse_reverse]
    · intro segment member
      rw [List.mem_reverse] at member
      exact List.all_eq_true.mp List.all_takeWhile segment member

/-- The draft of a path that ends in a name, whatever idle segments follow, has its own name in
the place of that; the draft of any other path comes after it. -/
theorem exists_segments_temporary (path : String) :
    ∃ stem idles name, segments (temporary path) = stem ++ [name ++ ".tmp"] ∧
      (∀ segment ∈ idles, isIdle segment = true) ∧
      (name = "" ∧ segments path = stem ++ idles ∨
        isName name = true ∧ ∃ more, (∀ segment ∈ more, isIdle segment = true) ∧
          segments path = stem ++ idles ++ name :: more) := by
  have dotted : ("" : String) ++ ".tmp" = ".tmp" := rfl
  obtain ⟨more, whole, moreIdle⟩ := exists_trimIdle (segments path)
  unfold temporary
  cases reversed : (trimIdle (segments path)).reverse with
  | nil =>
    obtain ⟨stem, idles, split, idle, joined⟩ :=
      exists_segments_join path (show Plain ".tmp" by decide)
    exact ⟨stem, idles, "", joined, idle, .inl ⟨rfl, split⟩⟩
  | cons name before =>
    have trimmed : trimIdle (segments path) = before.reverse ++ [name] := by
      rw [← List.reverse_reverse (trimIdle _), reversed, List.reverse_cons]
    rw [trimmed, List.append_assoc, List.singleton_append] at whole
    by_cases named : isName name = true
    · simp only [named, Bool.not_true, Bool.false_eq_true, if_false]
      obtain ⟨idles, split, idle⟩ := exists_trimIdle before.reverse
      refine ⟨trimIdle before.reverse, idles, name, ?_, idle, .inr ⟨named, more, moreIdle, ?_⟩⟩
      · apply segments_ofSegments (by simp)
        intro part member
        rcases List.mem_append.mp member with inside | last
        · have early : part ∈ before.reverse := by
            rw [split]
            exact List.mem_append_left _ inside
          exact plain_of_mem_segments (by rw [whole]; exact List.mem_append_left _ early)
        · rw [List.mem_singleton.mp last]
          have plain : Plain name := plain_of_mem_segments (by rw [whole]; simp)
          exact plain.append (by decide)
      · rw [← split]
        exact whole
    · simp only [named, Bool.not_false, if_true]
      obtain ⟨stem, idles, split, idle, joined⟩ :=
        exists_segments_join path (show Plain ".tmp" by decide)
      exact ⟨stem, idles, "", joined, idle, .inl ⟨rfl, split⟩⟩

/-- A text with an ending of more than two characters names an entry. -/
theorem isName_append (name : String) {ending : String} (long : 2 < ending.length) :
    isName (name ++ ending) = true := by
  have differ (short : String) (less : short.length ≤ 2) : name ++ ending ≠ short := by
    rintro rfl
    rw [String.length_append] at less
    omega
  simp [isName, isIdle, differ "" (by decide), differ "." (by decide), differ ".." (by decide)]

end Segments

end KeySequenced.Path

namespace KeySequenced.Volume

section Walks

variable {volume after : Volume} {path name : String} {start place goal draft : Place}
  {idles : List String}

/-! ## Walks -/

theorem walk_append (volume : Volume) (front back : List String) (start : Place) :
    volume.walk (front ++ back) start = (volume.walk front start).bind (volume.walk back) := by
  induction front generalizing start with
  | nil => rfl
  | cons segment rest ih =>
    rw [List.cons_append, walk, walk]
    split
    · rfl
    · rfl
    repeat' split
    · exact ih start
    · exact ih start.dropLast
    · rfl
    · exact ih (start ++ [segment])

theorem walk_append_eq_ok_iff (volume : Volume) (front back : List String) (start goal : Place) :
    volume.walk (front ++ back) start = .ok goal ↔
      ∃ middle, volume.walk front start = .ok middle ∧ volume.walk back middle = .ok goal := by
  rw [walk_append]
  cases volume.walk front start <;> simp [Except.bind]

/-- Idle segments lead nowhere. -/
theorem eq_of_walk_idles (idle : ∀ segment ∈ idles, Path.isIdle segment = true)
    (success : volume.walk idles start = .ok goal) : goal = start := by
  induction idles with
  | nil =>
    cases success
    rfl
  | cons segment rest ih =>
    rw [walk, idle segment (by simp)] at success
    split at success
    · cases success
    · cases success
    · exact ih (fun other member => idle other (by simp [member])) success

/-- Before another segment idle ones ask for nothing more. -/
theorem walk_idles_append (idle : ∀ segment ∈ idles, Path.isIdle segment = true)
    (segment : String) (rest : List String) :
    volume.walk (idles ++ segment :: rest) start = volume.walk (segment :: rest) start := by
  induction idles with
  | nil => rfl
  | cons first others ih =>
    have passed := ih fun other member => idle other (by simp [member])
    rw [List.cons_append, walk, idle first (by simp), if_pos rfl, passed, walk]
    split <;> rfl

theorem walk_stem (idle : ∀ segment ∈ idles, Path.isIdle segment = true) (stem : List String)
    (name : String) (start : Place) :
    volume.walk (stem ++ idles ++ [name]) start = volume.walk (stem ++ [name]) start := by
  rw [List.append_assoc, walk_append, walk_append]
  congr 1
  funext middle
  exact walk_idles_append idle name []

/-- A name leads to an entry of the directory at which the walk has arrived. -/
theorem walk_concat_eq_ok_iff (volume : Volume) (before : List String)
    (named : Path.isName name = true) (start place : Place) :
    volume.walk (before ++ [name]) start = .ok place ↔
      ∃ base, volume.walk before start = .ok base ∧ volume.node? base = some .directory ∧
        name.utf8ByteSize ≤ longestName ∧ place = base ++ [name] := by
  have moves : Path.isIdle name = false ∧ name ≠ ".." := by
    simpa [Path.isName] using named
  rw [walk_append_eq_ok_iff]
  refine exists_congr fun base => and_congr_right fun _ => ?_
  rw [walk, moves.1, if_neg Bool.false_ne_true, if_neg moves.2]
  split
  · simp_all
  · simp_all
  · rename_i directory
    by_cases long : longestName < name.utf8ByteSize
    · simp [long, Nat.not_le.mpr long]
    · simp [long, directory, Nat.not_lt.mp long, walk, eq_comm]

/-- A walk is the same in a volume that differs at one place, if it does not go on from there. -/
theorem walk_eq_of_elsewhere {segments : List String}
    (elsewhere : ∀ place, place ≠ draft → after.node? place = volume.node? place)
    (apart : ∀ front segment back, segments = front ++ segment :: back →
      volume.walk front start ≠ .ok draft) :
    after.walk segments start = volume.walk segments start := by
  induction segments generalizing start with
  | nil => rfl
  | cons segment rest ih =>
    have here : after.node? start = volume.node? start :=
      elsewhere start fun same => apart [] segment rest rfl (by rw [same]; rfl)
    have onward {next : Place}
        (step : ∀ front, volume.walk (segment :: front) start = volume.walk front next) :
        after.walk rest next = volume.walk rest next := by
      refine ih fun front other back split => ?_
      rw [← step]
      exact apart (segment :: front) other back (by rw [split]; rfl)
    rw [walk, walk, here]
    split
    · rfl
    · rfl
    rename_i directory
    by_cases idle : Path.isIdle segment = true
    · rw [if_pos idle, if_pos idle]
      exact onward fun front => by simp only [walk, directory, idle, if_true]
    rw [if_neg idle, if_neg idle]
    by_cases up : segment = ".."
    · rw [if_pos up, if_pos up]
      exact onward fun front => by simp only [walk, directory, if_neg idle, if_pos up]
    rw [if_neg up, if_neg up]
    by_cases long : longestName < segment.utf8ByteSize
    · rw [if_pos long, if_pos long]
    · rw [if_neg long, if_neg long]
      exact onward fun front => by
        simp only [walk, directory, if_neg idle, if_neg up, if_neg long]

theorem directory_of_walk {segment : String} {rest : List String}
    (success : volume.walk (segment :: rest) start = .ok goal) :
    volume.node? start = some .directory := by
  rw [walk] at success
  split at success
  · cases success
  · cases success
  · assumption

theorem resolve_eq_ok_iff (volume : Volume) (path : String) (place : Place) :
    volume.resolve path = .ok place ↔
      (∃ segments, segmentsOf path = .ok segments) ∧
        volume.walk (Path.segments path) [] = .ok place := by
  unfold resolve
  cases fit : segmentsOf path with
  | error obstacle => simp
  | ok segments =>
    obtain rfl := segments_eq_of_segmentsOf fit
    simp

/-- A plain name joined to a path leads to an entry of the directory to which the path leads. -/
theorem resolve_join_eq_ok_iff (volume : Volume) (base : String) (plain : Path.Plain name)
    (named : Path.isName name = true) (place : Place) :
    volume.resolve (Path.join base name) = .ok place ↔
      (∃ segments, segmentsOf (Path.join base name) = .ok segments) ∧
        ∃ directory, volume.walk (Path.segments base) [] = .ok directory ∧
          volume.node? directory = some .directory ∧ name.utf8ByteSize ≤ longestName ∧
          place = directory ++ [name] := by
  obtain ⟨stem, idles, split, idle, joined⟩ := Path.exists_segments_join base plain
  rw [resolve_eq_ok_iff, joined, ← walk_stem idle, ← split, walk_concat_eq_ok_iff _ _ named]

/-! ## Drafts -/

/-- A path names an entry of the directory `base`, to which the segments `before` lead, or that
directory itself; then `name` is empty. -/
structure Stands (volume : Volume) (path : String) (before : List String) (base : Place)
    (name : String) : Prop where
  reached : volume.walk before [] = .ok base
  directory : volume.node? base = some .directory
  ended : name = "" ∧ Path.segments path = before ∨
    Path.isName name = true ∧ ∃ more, (∀ segment ∈ more, Path.isIdle segment = true) ∧
      Path.segments path = before ++ name :: more

theorem exists_stands_of_resolve_temporary
    (drafted : volume.resolve (Path.temporary path) = .ok draft) :
    ∃ before base name, volume.Stands path before base name ∧ draft = base ++ [name ++ ".tmp"] := by
  obtain ⟨stem, idles, name, written, idle, ended⟩ := Path.exists_segments_temporary path
  have arrived := ((resolve_eq_ok_iff _ _ _).mp drafted).2
  rw [written, ← walk_stem idle] at arrived
  obtain ⟨base, reached, directory, _, rfl⟩ :=
    (walk_concat_eq_ok_iff _ _ (Path.isName_append name (by decide)) _ _).mp arrived
  exact ⟨stem ++ idles, base, name, ⟨reached, directory, ended⟩, rfl⟩

section Stands

variable {before : List String} {base : Place}

theorem eq_concat_of_walk (named : Path.isName name = true)
    (idle : ∀ segment ∈ idles, Path.isIdle segment = true)
    (reached : volume.walk before start = .ok base)
    (success : volume.walk (before ++ name :: idles) start = .ok goal) : goal = base ++ [name] := by
  rw [List.append_cons, walk_append_eq_ok_iff] at success
  obtain ⟨middle, arrived, stayed⟩ := success
  obtain ⟨other, reachedToo, _, _, rfl⟩ := (walk_concat_eq_ok_iff _ _ named _ _).mp arrived
  rw [reached] at reachedToo
  cases reachedToo
  exact eq_of_walk_idles idle stayed

/-- What a path leads to is the entry in the directory, or the directory. -/
theorem Stands.goal_eq (stands : volume.Stands path before base name)
    (resolved : volume.resolve path = .ok goal) :
    name = "" ∧ goal = base ∨ Path.isName name = true ∧ goal = base ++ [name] := by
  have arrived := ((resolve_eq_ok_iff _ _ _).mp resolved).2
  rcases stands.ended with ⟨bare, segments⟩ | ⟨named, more, idle, segments⟩
  · rw [segments, stands.reached] at arrived
    cases arrived
    exact .inl ⟨bare, rfl⟩
  · rw [segments] at arrived
    exact .inr ⟨named, eq_concat_of_walk named idle stands.reached arrived⟩

theorem ne_append_tmp (name : String) : name ≠ name ++ ".tmp" := by
  intro same
  have lengths := congrArg String.length same
  rw [String.length_append] at lengths
  have four : ".tmp".length = 4 := by decide
  omega

/-- The way to a target does not go through its draft, which is no directory. -/
theorem Stands.apart (stands : volume.Stands path before base name)
    (free : volume.node? (base ++ [name ++ ".tmp"]) ≠ some .directory) {front back : List String}
    {segment : String} (split : Path.segments path = front ++ segment :: back) :
    volume.walk front [] ≠ .ok (base ++ [name ++ ".tmp"]) := by
  intro arrived
  have notBefore {rest : List String} {next : String} : before ≠ front ++ next :: rest := by
    intro longer
    have reached := stands.reached
    rw [longer, walk_append_eq_ok_iff] at reached
    obtain ⟨middle, there, onward⟩ := reached
    rw [arrived] at there
    cases there
    exact free (directory_of_walk onward)
  have notAll : before ≠ front := by
    intro same
    have reached := stands.reached
    rw [same, arrived] at reached
    simpa using congrArg List.length (Except.ok.inj reached)
  rcases stands.ended with ⟨_, whole⟩ | ⟨named, more, idle, whole⟩
  · exact notBefore (whole.symm.trans split)
  rw [whole] at split
  rcases List.append_eq_append_iff.mp split with ⟨beyond, longer, rest⟩ | ⟨short, longer, rest⟩
  · cases beyond with
    | nil => exact notAll (by simpa using longer.symm)
    | cons first others =>
      obtain ⟨rfl, rfl⟩ : name = first ∧ more = others ++ segment :: back := by simpa using rest
      rw [longer] at arrived
      have place := eq_concat_of_walk named (fun other member => idle other (by simp [member]))
        stands.reached arrived
      exact ne_append_tmp name (by simpa using place.symm)
  · cases short with
    | nil => exact notAll (by simpa using longer)
    | cons next others => exact notBefore longer

/-- A path leads to the same place, and the same stands there, in a volume that differs at most in
the draft of the path. -/
theorem lookup_eq_of_draft (drafted : volume.resolve (Path.temporary path) = .ok draft)
    (free : volume.node? draft ≠ some .directory)
    (elsewhere : ∀ place, place ≠ draft → after.node? place = volume.node? place) :
    after.lookup path = volume.lookup path := by
  obtain ⟨before, base, name, stands, rfl⟩ := exists_stands_of_resolve_temporary drafted
  have resolved : after.resolve path = volume.resolve path := by
    unfold resolve
    cases fit : segmentsOf path with
    | error obstacle => rfl
    | ok segments =>
      obtain rfl := segments_eq_of_segmentsOf fit
      exact walk_eq_of_elsewhere elsewhere fun front segment back split => stands.apart free split
  unfold lookup
  rw [resolved]
  cases arrived : volume.resolve path with
  | error obstacle => rfl
  | ok goal =>
    have differ : goal ≠ base ++ [name ++ ".tmp"] := by
      rcases stands.goal_eq arrived with ⟨_, rfl⟩ | ⟨_, rfl⟩
      · simp
      · simpa using ne_append_tmp name
    simp only [elsewhere goal differ]

end Stands

end Walks

end KeySequenced.Volume
