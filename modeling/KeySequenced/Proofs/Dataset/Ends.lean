import KeySequenced.Proofs.Dataset.Browses

/-!
# The ends of the data

A cursor that has met an end of the data stays there, whatever is written beyond
its place, until it is read through in the opposite direction or placed anew.
From then on a read searches again.  `Standing` follows, over every request,
whether the cursor is at the end in one direction.
-/

set_option autoImplicit false

namespace KeySequenced

/-- The request neither places the cursor of the number anew nor reads through it in the
direction. -/
structure Operation.Shuns (number : UInt64) (natural direction : Direction)
    (operation : Operation) : Prop where
  unplaced : operation.places? number = none
  unread : operation.reads? number natural ≠ some direction

theorem Store.atOrAbove?_eq_none_iff (store : Store) (key : Key) :
    store.atOrAbove? key = none ↔ ∀ other, store.find? other ≠ none → other < key := by
  simp only [atOrAbove?, Option.map_eq_none_iff, Table.atOrAbove?_eq_find?, List.find?_eq_none,
    Bool.not_eq_true', decide_eq_false_iff_not, not_not]
  constructor
  · intro below other stored
    obtain ⟨record, found⟩ := Option.ne_none_iff_exists'.mp stored
    exact below _ (mem_toList_of_find? found)
  · intro below entry member
    have found : store.find? entry.1 = some entry.2 :=
      (store.records.find?_eq_some_iff entry.1 entry.2).mpr member
    exact below entry.1 (found ▸ Option.some_ne_none _)

namespace Dataset

/-- The answer is that of a search at this moment from the key on which the cursor rests: the
nearest record beyond it, or the end of the data where no key beyond it is stored. -/
def AnswersAfresh (dataset : Dataset) (number : UInt64) (direction : Direction)
    (answer : Except Fault Answer) : Prop :=
  ∃ cursor place, dataset.cursors.find? number = some cursor ∧ cursor.resting = some place ∧
    ((∃ record, dataset.store.Nearest direction place.key record ∧
        answer = .ok (.record record)) ∨
      ((∀ key, dataset.store.find? key ≠ none → ¬ direction.Precedes place.key key) ∧
        answer = .error (direction.endFault number)))

/-- The cursor of the number is live, and `stopped` tells whether it is at the end of the data in
the direction. -/
def Standing (dataset : Dataset) (number : UInt64) (natural direction : Direction)
    (stopped : Bool) : Prop :=
  ∃ cursor, dataset.cursors.find? number = some cursor ∧ cursor.direction = natural ∧
    cursor.stopped direction = stopped

/-- What holds of the cursors of every dataset that can be reached. -/
structure Browsable (definition : Definition) (dataset : Dataset) : Prop where
  sound : Sound definition dataset
  oneSided : dataset.OneSided
  placed : ∀ number cursor, dataset.cursors.find? number = some cursor → cursor.Placed

theorem browsable_follow (definition : Definition) (location : Option String)
    (requests : List Request) :
    Browsable definition ((new definition location).follow requests) where
  sound := sound_follow definition location requests
  oneSided := (oneSided_new definition location).follow requests
  placed := placed_follow requests

theorem Browsable.next {definition : Definition} {dataset after : Dataset}
    (browsable : Browsable definition dataset) {volume : Volume} {operation : Operation}
    {answer : Except Fault Answer}
    (transition : Transition dataset volume operation answer after) :
    Browsable definition after where
  sound := browsable.sound.next transition
  oneSided := browsable.oneSided.next transition
  placed number _ live :=
    browsable.sound.placed_of_becoming (browsable.placed number) (transition.becoming live)

theorem Browsable.follow {definition : Definition} {dataset : Dataset}
    (browsable : Browsable definition dataset) (requests : List Request) :
    Browsable definition (dataset.follow requests) :=
  keeps_follow Browsable.next browsable requests

/-! ## Requests to a cursor that stands -/

section Standing

variable {definition : Definition} {dataset : Dataset} {number : UInt64}
  {natural direction : Direction} {stopped : Bool} {request : Request}

/-- What decides whether the cursor is at an end stays as it is under all requests but resets and
the reads in one direction: the opposite one if it is at the end, else this one. -/
theorem Standing.event (standing : dataset.Standing number natural direction stopped)
    (browsable : Browsable definition dataset)
    (unended : request.operation.ends number = false)
    (untold : (dataset.event request).answer ≠ .ok (.started number))
    (shuns : request.operation.Shuns number natural
      (if stopped then direction.opposite else direction)) :
    (dataset.event request).after.Standing number natural direction stopped := by
  obtain ⟨cursor, live, rfl, atEnd⟩ := standing
  have becomes := browsable.sound.find?_event browsable.oneSided live unended untold
  refine ⟨_, becomes, direction_cursorAfter .., ?_⟩
  cases reads : request.operation.reads? number cursor.direction with
  | none => rw [cursorAfter_of_spares reads shuns.unplaced, atEnd]
  | some way =>
    rw [cursorAfter_of_reads reads]
    -- Of the two directions one is shunned, and a read in the other one keeps the flag.
    rcases direction.eq_or_eq_opposite way with rfl | rfl
    · cases stopped with
      | true => rw [offers?, if_pos atEnd, Cursor.stopped_carry_self, Option.isNone_none]
      | false => exact absurd reads shuns.unread
    · cases stopped with
      | true => exact absurd reads shuns.unread
      | false => exact Cursor.stopped_carry_opposite ..

theorem Standing.follow (standing : dataset.Standing number natural direction stopped)
    (browsable : Browsable definition dataset) (requests : List Request)
    (unending : ∀ request ∈ requests, request.operation.ends number = false)
    (untaken : dataset.Untaken number requests)
    (shuns : ∀ request ∈ requests, request.operation.Shuns number natural
      (if stopped then direction.opposite else direction)) :
    (dataset.follow requests).Standing number natural direction stopped := by
  induction requests using List.reverseRecOn with
  | nil => exact standing
  | append_singleton early request ih =>
    obtain ⟨untakenBefore, untold⟩ := (untaken_concat_iff ..).mp untaken
    have before := ih (fun other member => unending other (List.mem_append_left _ member))
      untakenBefore (fun other member => shuns other (List.mem_append_left _ member))
    rw [follow_concat]
    exact before.event (browsable.follow early)
      (unending request (List.mem_append_right _ List.mem_cons_self)) untold
      (shuns request (List.mem_append_right _ List.mem_cons_self))

theorem Standing.exists_follow (standing : dataset.Standing number natural direction stopped)
    (browsable : Browsable definition dataset) (requests : List Request)
    (unending : ∀ request ∈ requests, request.operation.ends number = false)
    (untaken : dataset.Untaken number requests) :
    ∃ now, (dataset.follow requests).Standing number natural direction now := by
  induction requests using List.reverseRecOn with
  | nil => exact ⟨stopped, standing⟩
  | append_singleton early request ih =>
    obtain ⟨untakenBefore, untold⟩ := (untaken_concat_iff ..).mp untaken
    obtain ⟨_, cursor, live, same, _⟩ :=
      ih (fun other member => unending other (List.mem_append_left _ member)) untakenBefore
    have reached := browsable.follow early
    have becomes := reached.sound.find?_event reached.oneSided live
      (unending request (List.mem_append_right _ List.mem_cons_self)) untold
    rw [follow_concat]
    exact ⟨_, _, becomes, (direction_cursorAfter ..).trans same, rfl⟩

theorem Standing.turn (standing : dataset.Standing number natural direction stopped)
    (browsable : Browsable definition dataset)
    (turns : request.operation.reads? number natural = some direction.opposite) :
    (dataset.event request).after.Standing number natural direction false := by
  obtain ⟨cursor, live, rfl, _⟩ := standing
  have stepped := event_of_reads (browsable.sound.unshut live)
    (browsable.oneSided number cursor live) live turns
  exact ⟨_, stepped.2.1, cursor.direction_carry .., Cursor.stopped_carry_opposite ..⟩

/-- A reset places the cursor at the end of the data only if no key is at or above the one that
it asks for. -/
theorem Standing.reset (standing : dataset.Standing number natural direction stopped)
    (browsable : Browsable definition dataset) {key : Key}
    (places : request.operation.places? number = some key) :
    (dataset.event request).after.Standing number natural direction
      (direction == .forward && (dataset.store.atOrAbove? key).isNone) := by
  obtain ⟨cursor, live, rfl, _⟩ := standing
  have placed := event_of_places (browsable.sound.unshut live) live places
  refine ⟨_, placed.2, cursor.direction_placeOn .., ?_⟩
  cases direction with
  | forward => exact cursor.stopped_forward_placeOn ..
  | backward => exact cursor.stopped_backward_placeOn ..

theorem standing_of_answer {cursor : Cursor} (browsable : Browsable definition dataset)
    (live : dataset.cursors.find? number = some cursor)
    (reads : request.operation.reads? number cursor.direction = some direction)
    (ended : (dataset.event request).answer = .error (direction.endFault number)) :
    (dataset.event request).after.Standing number cursor.direction direction true := by
  have stepped := event_of_reads (browsable.sound.unshut live)
    (browsable.oneSided number cursor live) live reads
  rw [Direction.eq_none_of_answer (stepped.1.symm.trans ended)] at stepped
  exact ⟨_, stepped.2.1, cursor.direction_carry .., Cursor.stopped_carry_self ..⟩

theorem Standing.answer_follow (standing : dataset.Standing number natural direction true)
    (browsable : Browsable definition dataset) (requests : List Request)
    (unending : ∀ request ∈ requests, request.operation.ends number = false)
    (untaken : dataset.Untaken number requests)
    (shuns : ∀ request ∈ requests,
      request.operation.Shuns number natural direction.opposite)
    (reads : request.operation.reads? number natural = some direction) :
    ((dataset.follow requests).event request).answer = .error (direction.endFault number) := by
  obtain ⟨cursor, live, rfl, atEnd⟩ :=
    standing.follow browsable requests unending untaken shuns
  have reached := browsable.follow requests
  have answered := (event_of_reads (reached.sound.unshut live)
    (reached.oneSided number cursor live) live reads).1
  rw [offers?, if_pos atEnd] at answered
  exact answered

theorem Standing.answersAfresh_follow (standing : dataset.Standing number natural direction false)
    (browsable : Browsable definition dataset) (requests : List Request)
    (unending : ∀ request ∈ requests, request.operation.ends number = false)
    (untaken : dataset.Untaken number requests)
    (shuns : ∀ request ∈ requests, request.operation.Shuns number natural direction)
    (reads : request.operation.reads? number natural = some direction) :
    (dataset.follow requests).AnswersAfresh number direction
      ((dataset.follow requests).event request).answer := by
  obtain ⟨cursor, live, rfl, free⟩ :=
    standing.follow browsable requests unending untaken shuns
  have reached := browsable.follow requests
  obtain ⟨place, rests, _⟩ := reached.placed number cursor live
  have answered := (event_of_reads (reached.sound.unshut live)
    (reached.oneSided number cursor live) live reads).1
  rw [offers?, free, rests] at answered
  refine ⟨cursor, place, live, rests, ?_⟩
  cases next : (dataset.follow requests).beyond? direction (some place) with
  | some record =>
    rw [next] at answered
    exact .inl ⟨record, reached.sound.nearest_of_beyond? next, answered⟩
  | none =>
    rw [next] at answered
    exact .inr ⟨fun _ => not_precedes_of_beyond? next, answered⟩

end Standing

/-! ## After an end of the data -/

/-- A cursor that has answered with an end of the data goes on to do so, whatever is written, until
a read in the opposite direction or a reset.  The first read after that searches afresh, but in
forward direction not after a reset for a key above all stored ones, which leaves the cursor at
the end.  No browse that is started meanwhile may get the number of the cursor, and none does
before as many have been started as there are words. -/
theorem end_of_data_lasts (definition : Definition) (location : Option String)
    (history : List Request) (last : Request) (number : UInt64) (cursor : Cursor)
    (direction : Direction)
    (live : ((new definition location).follow history).cursors.find? number = some cursor)
    (asked : last.operation.reads? number cursor.direction = some direction)
    (ended : (((new definition location).follow history).event last).answer
      = .error (direction.endFault number)) :
    let start := (new definition location).follow (history ++ [last])
    let natural := cursor.direction
    ∀ continuation request,
      (∀ other ∈ continuation, other.operation.ends number = false) →
      start.Untaken number continuation →
      request.operation.reads? number natural = some direction →
      let dataset := start.follow continuation
      let answer := (dataset.event request).answer
      ((∀ other ∈ continuation, other.operation.Shuns number natural direction.opposite) →
        answer = .error (direction.endFault number)) ∧
      ∀ before turn between, continuation = before ++ turn :: between →
        let moment := start.follow before
        ((∀ other ∈ between, other.operation.Shuns number natural direction) →
          turn.operation.reads? number natural = some direction.opposite →
          dataset.AnswersAfresh number direction answer) ∧
        ∀ key, turn.operation.places? number = some key →
          ((∀ other ∈ between, other.operation.Shuns number natural direction) →
            (direction = .backward ∨
              ∃ other, moment.store.find? other ≠ none ∧ ¬ other < key) →
            dataset.AnswersAfresh number direction answer) ∧
          (direction = .forward → (∀ other, moment.store.find? other ≠ none → other < key) →
            (∃ current, (moment.event turn).after.cursors.find? number = some current ∧
              current.atEnd = true) ∧
            ((∀ other ∈ between, other.operation.Shuns number natural .backward) →
              answer = .error (.endOfFile number))) := by
  intro start natural continuation request unending untaken reads dataset answer
  have browsable : Browsable definition start := browsable_follow definition location _
  have begun : start.Standing number natural direction true := by
    simp only [start, follow_concat]
    exact standing_of_answer (browsable_follow definition location history) live asked ended
  refine ⟨fun shuns =>
    begun.answer_follow browsable continuation unending untaken shuns reads, ?_⟩
  intro before turn between split moment
  have before_unending : ∀ other ∈ before, other.operation.ends number = false :=
    fun other member => unending other (split ▸ List.mem_append_left _ member)
  have between_unending : ∀ other ∈ between, other.operation.ends number = false :=
    fun other member =>
      unending other (split ▸ List.mem_append_right _ (List.mem_cons_of_mem _ member))
  obtain ⟨before_untaken, later⟩ := (untaken_append_iff ..).mp (split ▸ untaken)
  have between_untaken : (moment.event turn).after.Untaken number between :=
    fun event member => later event (List.mem_cons_of_mem _ member)
  obtain ⟨now, standing⟩ := begun.exists_follow browsable before before_unending before_untaken
  have reached : Browsable definition moment := browsable.follow before
  have turned := reached.next (moment.transition_event turn)
  have late : dataset = (moment.event turn).after.follow between := by
    simp only [dataset, split, follow_append]
    rfl
  have afresh : (moment.event turn).after.Standing number natural direction false →
      (∀ other ∈ between, other.operation.Shuns number natural direction) →
      dataset.AnswersAfresh number direction answer := by
    intro free shuns
    simp only [answer, late]
    exact free.answersAfresh_follow turned between between_unending between_untaken shuns reads
  refine ⟨fun shuns turns => afresh (standing.turn reached turns) shuns, ?_⟩
  intro key places
  have reset := standing.reset reached places
  refine ⟨?_, ?_⟩
  · intro shuns found
    apply afresh _ shuns
    rcases found with rfl | ⟨other, stored, notBelow⟩
    · exact reset
    · have some : (moment.store.atOrAbove? key).isNone = false := by
        rw [Option.isNone_eq_false_iff, Option.isSome_iff_ne_none]
        intro nothing
        exact notBelow ((moment.store.atOrAbove?_eq_none_iff key).mp nothing other stored)
      rwa [some, Bool.and_false] at reset
  · rintro rfl below
    rw [(moment.store.atOrAbove?_eq_none_iff key).mpr below] at reset
    refine ⟨?_, ?_⟩
    · obtain ⟨current, found, _, atEnd⟩ := reset
      exact ⟨current, found, atEnd⟩
    · intro shuns
      simp only [answer, late]
      exact reset.answer_follow turned between between_unending between_untaken shuns reads

/-- Behind the second of two records: a third one is not seen until the cursor has been turned
round, and a fourth one not after a reset for a key between the two new ones. -/
theorem end_of_data_of_two_records :
    let beside (operation : Operation) : Request := ⟨operation, .empty⟩
    let history := [.openFor ⟨.inputOutput, .dynamic⟩, .write (.new [1] []), .write (.new [3] []),
      .startBrowse [3] false .forward].map beside
    let next := beside (.readNext 1)
    let start := (new (.keyed "C" 4) none).follow (history ++ [next])
    let written := [beside (.write (.new [5] []))]
    let turned := written ++ [beside (.readPrevious 1)]
    let placed := written ++ [beside (.resetBrowse 1 [7]), beside (.write (.new [9] []))]
    ((start.follow written).event next).answer = .error (.endOfFile 1) ∧
      (start.follow turned).AnswersAfresh 1 .forward ((start.follow turned).event next).answer ∧
      ((start.follow turned).event next).answer = .ok (.record (.live [3] [] (.rba 1))) ∧
      ((start.follow placed).event next).answer = .error (.endOfFile 1) := by
  intro beside history next start written turned placed
  have live : ((new (.keyed "C" 4) none).follow history).cursors.find? 1
      = some ((Cursor.new .forward).placeAt [3] (.rba 1)) := by decide +kernel
  have lasts := end_of_data_lasts (.keyed "C" 4) none history next 1
    ((Cursor.new .forward).placeAt [3] (.rba 1)) .forward live rfl (by decide +kernel)
  have stays : start.cursors.find? 1
      = some (((Cursor.new .forward).placeAt [3] (.rba 1)).stop .forward) := by decide +kernel
  refine ⟨?_, ?_, by decide +kernel, ?_⟩
  · apply (lasts written next (by decide) (untaken_of_live stays (by decide +kernel)) rfl).1
    intro other member
    rw [List.mem_singleton.mp member]
    exact ⟨rfl, by decide⟩
  · exact ((lasts turned next (by decide) (untaken_of_live stays (by decide +kernel)) rfl).2
      written _ [] rfl).1 (by simp) rfl
  · have reset := ((lasts placed next (by decide) (untaken_of_live stays (by decide +kernel))
      rfl).2 written _ _ rfl).2 [7] rfl
    apply (reset.2 rfl _).2
    · intro other member
      rw [List.mem_singleton.mp member]
      exact ⟨rfl, by decide⟩
    · rw [← Store.atOrAbove?_eq_none_iff]
      decide +kernel

end Dataset

end KeySequenced
