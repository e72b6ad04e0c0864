import KeySequenced.Proofs.Dataset.Steps
import KeySequenced.Proofs.Store.Restoring

/-!
# Browsing while nothing changes

In a store that stays as it is, a cursor on a stored key is an index into the
records in key order.  A read moves the index by one and answers with the record
there, or leaves it where it is at the end of the records.  The invariant is
`Indexed`: the cursor rests on the key at the index, and it is at an end of the
data only where no record follows.
-/

set_option autoImplicit false

namespace KeySequenced

/-! ## Indices -/

namespace Direction

/-- The index after a read in the direction among `length` records. -/
def moved (length : Nat) : Direction → Nat → Nat
  | .forward, index => min (index + 1) (length - 1)
  | .backward, index => index - 1

/-- The record next to an index in the direction. -/
def beside? (records : List Record) : Direction → Nat → Option Record
  | .forward, index => records[index + 1]?
  | .backward, index => if index = 0 then none else records[index - 1]?

section Indices

variable {direction : Direction} {records : List Record} {index : Nat} {stored record : Record}

theorem getElem?_moved
    (beside : direction.beside? records index = some record) :
    records[direction.moved records.length index]? = some record := by
  cases direction with
  | forward =>
    obtain ⟨within, _⟩ := List.getElem?_eq_some_iff.mp beside
    rw [moved, Nat.min_eq_left (by omega)]
    exact beside
  | backward =>
    simp only [beside?] at beside
    split at beside
    · cases beside
    · exact beside

theorem moved_eq_self (inside : index < records.length)
    (nothing : direction.beside? records index = none) :
    direction.moved records.length index = index := by
  cases direction with
  | forward =>
    have last := List.getElem?_eq_none_iff.mp nothing
    simp only [moved]
    omega
  | backward =>
    simp only [beside?] at nothing
    split at nothing
    · simp only [moved]
      omega
    · have beyond := List.getElem?_eq_none_iff.mp nothing
      omega

/-- What is beside the record beside a record is the record itself, in the opposite direction. -/
theorem beside?_opposite_moved
    (beside : direction.beside? records index = some record) :
    direction.opposite.beside? records (direction.moved records.length index)
      = records[index]? := by
  cases direction with
  | forward =>
    obtain ⟨within, _⟩ := List.getElem?_eq_some_iff.mp beside
    rw [moved, Nat.min_eq_left (by omega)]
    simp [opposite, beside?]
  | backward =>
    simp only [beside?] at beside
    split at beside
    · cases beside
    · rename_i positive
      simp only [moved, opposite, beside?]
      rw [Nat.sub_add_cancel (Nat.pos_of_ne_zero positive)]

end Indices

end Direction

/-- The index after the reads that the requests make through the cursor of the number. -/
def indexAfter (number : UInt64) (natural : Direction) (length index : Nat)
    (requests : List Request) : Nat :=
  requests.foldl (fun index request =>
    match request.operation.reads? number natural with
    | some direction => direction.moved length index
    | none => index) index

section IndexAfter

variable {number : UInt64} {natural : Direction} {length index : Nat}

theorem indexAfter_concat (requests : List Request) (request : Request) :
    indexAfter number natural length index (requests ++ [request])
      = match request.operation.reads? number natural with
        | some direction =>
          direction.moved length (indexAfter number natural length index requests)
        | none => indexAfter number natural length index requests := by
  simp only [indexAfter, List.foldl_append, List.foldl_cons, List.foldl_nil]

theorem indexAfter_append (first second : List Request) :
    indexAfter number natural length index (first ++ second)
      = indexAfter number natural length (indexAfter number natural length index first)
        second := List.foldl_append

theorem indexAfter_of_unread {requests : List Request}
    (unread : ∀ request ∈ requests, request.operation.reads? number natural = none) :
    indexAfter number natural length index requests = index := by
  induction requests with
  | nil => rfl
  | cons request rest ih =>
    rw [indexAfter, List.foldl_cons, unread request List.mem_cons_self]
    exact ih fun other member => unread other (List.mem_cons_of_mem _ member)

end IndexAfter

/-! ## The records of a store in order -/

namespace Store

variable {definition : Definition} {store : Store} {index : Nat} {stored : Record}

/-- The record at an index stands there under its own key. -/
theorem Consistent.entry_of_getElem? (consistent : Consistent definition store)
    (stands : store.toList[index]? = some stored) :
    store.records.toList[index]? = some (stored.key, stored) := by
  rw [toList, List.getElem?_map, Option.map_eq_some_iff] at stands
  obtain ⟨⟨key, _⟩, entry, rfl⟩ := stands
  have found := (store.records.find?_eq_some_iff _ _).mpr (List.mem_of_getElem? entry)
  rw [(consistent.proper _ _ found).key_eq]
  exact entry

theorem Consistent.above?_of_getElem? (consistent : Consistent definition store)
    (stands : store.toList[index]? = some stored) :
    store.above? stored.key = Direction.forward.beside? store.toList index := by
  rw [above?, store.records.above?_of_getElem? (consistent.entry_of_getElem? stands),
    Direction.beside?, toList, List.getElem?_map]

theorem Consistent.below?_of_getElem? (consistent : Consistent definition store)
    (stands : store.toList[index]? = some stored) :
    store.below? stored.key = Direction.backward.beside? store.toList index := by
  rw [below?, store.records.below?_of_getElem? (consistent.entry_of_getElem? stands),
    Direction.beside?, toList, List.getElem?_map]
  split <;> rfl

end Store

/-! ## Cursors on an index -/

namespace Dataset

/-- The cursor rests on the key of the record at the index, and it is at an end of the data only
where no record is beside that one. -/
structure Indexed (records : List Record) (cursor : Cursor) (index : Nat) : Prop where
  resting : ∃ place stored, cursor.resting = some place ∧ records[index]? = some stored ∧
    stored.key = place.key
  ended : ∀ direction, cursor.stopped direction = true →
    direction.beside? records index = none

section Indexed

variable {definition : Definition} {dataset start : Dataset} {number : UInt64} {index : Nat}
  {cursor : Cursor} {direction : Direction}

theorem Indexed.inside {records : List Record} (indexed : Indexed records cursor index) :
    index < records.length := by
  obtain ⟨_, _, _, stands, _⟩ := indexed.resting
  exact (List.getElem?_eq_some_iff.mp stands).1

theorem Sound.offers?_eq (sound : Sound definition dataset)
    (indexed : Indexed dataset.store.toList cursor index) (direction : Direction) :
    dataset.offers? cursor direction = direction.beside? dataset.store.toList index := by
  unfold offers?
  split
  · rename_i stopped
    exact (indexed.ended direction stopped).symm
  · obtain ⟨place, stored, rests, stands, same⟩ := indexed.resting
    rw [rests]
    cases direction with
    | forward =>
      simp only [beyond?, recordAfter?, ← same]
      exact sound.consistent.above?_of_getElem? stands
    | backward =>
      simp only [beyond?, recordBefore?, ← same]
      exact sound.consistent.below?_of_getElem? stands

theorem Indexed.carry {records : List Record} (indexed : Indexed records cursor index)
    (direction : Direction) :
    Indexed records (cursor.carry direction (direction.beside? records index))
      (direction.moved records.length index) := by
  cases beside : direction.beside? records index with
  | some record =>
    refine ⟨⟨⟨record.key, record.address⟩, record, rfl,
      Direction.getElem?_moved beside, rfl⟩, ?_⟩
    intro way stopped
    rw [Cursor.carry, Cursor.stopped_advanceTo] at stopped
    cases stopped
  | none =>
    -- The index stays, and the cursor is at the end in this direction alone.
    rw [Direction.moved_eq_self indexed.inside beside]
    obtain ⟨place, stored, rests, stands, same⟩ := indexed.resting
    refine ⟨⟨place, stored, (cursor.resting_stop direction).trans rests, stands, same⟩, ?_⟩
    intro way stopped
    rcases way.eq_or_eq_opposite direction with rfl | rfl
    · exact beside
    · rw [Cursor.stopped_carry_opposite] at stopped
      cases stopped

/-- Requests that leave the store and the place of a cursor alone keep it at the index that their
reads lead to. -/
theorem Sound.indexed_follow (sound : Sound definition start) (oneSided : start.OneSided)
    (live : start.cursors.find? number = some cursor)
    (indexed : Indexed start.store.toList cursor index) (requests : List Request)
    (alone : ∀ request ∈ requests, request.operation.ends number = false ∧
      request.operation.places? number = none)
    (untaken : start.Untaken number requests)
    (unchanged : ∀ early late, requests = early ++ late →
      (start.follow early).store = start.store) :
    ∃ current, (start.follow requests).cursors.find? number = some current ∧
      current.direction = cursor.direction ∧
      Indexed start.store.toList current
        (indexAfter number cursor.direction start.store.toList.length index requests) := by
  induction requests using List.reverseRecOn with
  | nil => exact ⟨cursor, live, rfl, indexed⟩
  | append_singleton early request ih =>
    obtain ⟨before, untold⟩ := (untaken_concat_iff ..).mp untaken
    obtain ⟨current, stands, natural, reached⟩ := ih
      (fun other member => alone other (List.mem_append_left _ member)) before
      (fun first second split => unchanged first (second ++ [request]) (by simp [split]))
    obtain ⟨unended, unplaced⟩ := alone request (List.mem_append_right _ List.mem_cons_self)
    have same : (start.follow early).store = start.store := unchanged early [request] rfl
    have becomes :=
      (sound.follow early).find?_event (oneSided.follow early) stands unended untold
    rw [follow_concat, indexAfter_concat]
    refine ⟨_, becomes, (direction_cursorAfter ..).trans natural, ?_⟩
    cases reads : request.operation.reads? number cursor.direction with
    | none =>
      rw [cursorAfter_of_spares (natural ▸ reads) unplaced]
      exact reached
    | some direction =>
      rw [cursorAfter_of_reads (natural ▸ reads),
        (sound.follow early).offers?_eq (same ▸ reached), same]
      exact reached.carry direction

/-- A read through a cursor on an index answers with the record beside it. -/
theorem Sound.answer_of_indexed (sound : Sound definition dataset) (oneSided : dataset.OneSided)
    (live : dataset.cursors.find? number = some cursor)
    (indexed : Indexed dataset.store.toList cursor index) {request : Request}
    (reads : request.operation.reads? number cursor.direction = some direction) :
    (dataset.event request).answer
      = direction.answer number (direction.beside? dataset.store.toList index) := by
  rw [← sound.offers?_eq indexed direction]
  exact (event_of_reads (sound.unshut live) (oneSided number cursor live) live reads).1

theorem Transition.store_of_asks {after : Dataset} {volume : Volume} {operation : Operation}
    {answer : Except Fault Answer} (transition : Transition dataset volume operation answer after)
    (asks : operation.asks? ≠ none) : after.store = dataset.store := by
  cases transition with
  | refused | found | stepped | stopped => rfl
  | _ => exact absurd rfl asks

theorem store_follow_of_asks (start : Dataset) (requests : List Request)
    (asks : ∀ request ∈ requests, request.operation.asks? ≠ none) :
    (start.follow requests).store = start.store := by
  induction requests using List.reverseRecOn with
  | nil => rfl
  | append_singleton early request ih =>
    have before := ih fun other member => asks other (List.mem_append_left _ member)
    rw [follow_concat, ← before]
    exact ((start.follow early).transition_event request).store_of_asks
      (asks request (List.mem_append_right _ List.mem_cons_self))

end Indexed

/-- While the store stays as it is, a cursor on a stored key is an index into the records in key
order, which a read moves by one and which stays at the ends.  So a read that has succeeded is
undone by one in the opposite direction, and one that has met an end of the data changes nothing
for that direction.  No browse that is started meanwhile may get the number of the cursor, and none
does before as many have been started as there are words. -/
theorem browse_as_index (definition : Definition) (location : Option String)
    (history : List Request) (number : UInt64) (cursor : Cursor) (place : Position) (index : Nat)
    (stored : Record) (requests : List Request)
    (live : ((new definition location).follow history).cursors.find? number = some cursor)
    (rests : cursor.resting = some place)
    (stands : ((new definition location).follow history).store.toList[index]? = some stored)
    (same : stored.key = place.key) (within : cursor.atStart = false ∧ cursor.atEnd = false)
    (alone : ∀ request ∈ requests, request.operation.ends number = false ∧
      request.operation.places? number = none)
    (untaken : ((new definition location).follow history).Untaken number requests)
    (unchanged : ∀ early late, requests = early ++ late →
      (((new definition location).follow history).follow early).store
        = ((new definition location).follow history).store) :
    let start := (new definition location).follow history
    let records := start.store.toList
    records.Pairwise (fun record other => record.key < other.key) ∧
    (∀ record, record ∈ records ↔ start.store.find? record.key = some record) ∧
    ∀ early late, requests = early ++ late →
      let dataset := start.follow early
      let reached := indexAfter number cursor.direction records.length index early
      (∃ current place stored, dataset.cursors.find? number = some current ∧
        current.resting = some place ∧ records[reached]? = some stored ∧
        stored.key = place.key) ∧
      (∀ request direction,
        request.operation.reads? number cursor.direction = some direction →
        (dataset.event request).answer
          = direction.answer number (direction.beside? records reached)) ∧
      ∀ direction request between turn rest, late = request :: between ++ turn :: rest →
        request.operation.reads? number cursor.direction = some direction →
        (∀ other ∈ between, other.operation.reads? number cursor.direction = none) →
        turn.operation.reads? number cursor.direction = some direction.opposite →
        let answer := (dataset.event request).answer
        let next := ((start.follow (early ++ request :: between)).event turn).answer
        (∀ record, answer = .ok (.record record) →
          ∃ stored, records[reached]? = some stored ∧ next = .ok (.record stored)) ∧
        (answer = .error (direction.endFault number) →
          next = (dataset.event turn).answer) := by
  intro start records
  have sound : Sound definition start := sound_follow definition location history
  have oneSided : start.OneSided := (oneSided_new definition location).follow history
  have begun : Indexed records cursor index := by
    refine ⟨⟨place, stored, rests, stands, same⟩, ?_⟩
    intro direction stopped
    cases direction with
    | forward => cases within.2.symm.trans stopped
    | backward => cases within.1.symm.trans stopped
  have during : ∀ early late, requests = early ++ late →
      ∃ current, (start.follow early).cursors.find? number = some current ∧
        current.direction = cursor.direction ∧ Indexed records current
          (indexAfter number cursor.direction records.length index early) := by
    intro early late split
    apply sound.indexed_follow oneSided live begun early
    · intro request member
      exact alone request (split ▸ List.mem_append_left _ member)
    · exact ((untaken_append_iff ..).mp (split ▸ untaken)).1
    · intro first second inner
      exact unchanged first (second ++ late) (by rw [split, inner, List.append_assoc])
  have answers : ∀ early late, requests = early ++ late → ∀ request direction,
      request.operation.reads? number cursor.direction = some direction →
      ((start.follow early).event request).answer = direction.answer number
        (direction.beside? records
          (indexAfter number cursor.direction records.length index early)) := by
    intro early late split request direction reads
    obtain ⟨current, found, natural, indexed⟩ := during early late split
    have kept : (start.follow early).store = start.store := unchanged early late split
    rw [← natural] at reads
    simpa only [kept] using (sound.follow early).answer_of_indexed (oneSided.follow early) found
      (kept ▸ indexed) reads
  refine ⟨sound.consistent.sorted, sound.consistent.mem_toList_iff, ?_⟩
  intro early late split dataset reached
  obtain ⟨current, found, _, indexed⟩ := during early late split
  obtain ⟨place, stored, resting, stands, same⟩ := indexed.resting
  refine ⟨⟨current, place, stored, found, resting, stands, same⟩, answers early late split, ?_⟩
  intro direction request between turn rest further reads unread turns answer next
  have answered : answer = direction.answer number (direction.beside? records reached) :=
    answers early late split request direction reads
  have moved : indexAfter number cursor.direction records.length index
      (early ++ request :: between) = direction.moved records.length reached := by
    rw [← List.singleton_append, ← List.append_assoc, indexAfter_append,
      indexAfter_of_unread unread, indexAfter_concat, reads]
  have turned : next = direction.opposite.answer number
      (direction.opposite.beside? records (direction.moved records.length reached)) := by
    rw [← moved]
    exact answers (early ++ request :: between) (turn :: rest) (by rw [split, further]; simp)
      turn direction.opposite turns
  refine ⟨?_, ?_⟩
  · intro record success
    rw [answered] at success
    cases beside : direction.beside? records reached with
    | none =>
      rw [beside] at success
      cases success
    | some other =>
      rw [Direction.beside?_opposite_moved beside, stands] at turned
      exact ⟨stored, stands, turned⟩
  · intro failed
    have nothing := Direction.eq_none_of_answer (answered.symm.trans failed)
    rw [Direction.moved_eq_self indexed.inside nothing] at turned
    exact turned.trans (answers early late split turn direction.opposite turns).symm

/-- Past the last of three records and back: the end of the data is met in between. -/
theorem browse_of_three_records :
    let next : Request := ⟨.readNext 1, .empty⟩
    let previous : Request := ⟨.readPrevious 1, .empty⟩
    let history : List Request := [.openFor ⟨.inputOutput, .dynamic⟩, .write (.new [5] []),
      .write (.new [1] []), .write (.new [3] []), .startBrowse [3] false .forward].map
        fun operation => ⟨operation, .empty⟩
    let start := (new (.keyed "C" 4) none).follow history
    let cursor := (Cursor.new .forward).placeAt [3] (.rba 2)
    start.cursors.find? 1 = some cursor ∧ start.store.toList.map Record.key = [[1], [3], [5]] ∧
      ((start.follow [next]).event next).answer = .error (.endOfFile 1) ∧
      ((start.follow [next, next]).event previous).answer
        = ((start.follow [next]).event previous).answer ∧
      ((start.follow [next, next]).event previous).answer
        = .ok (.record (.live [3] [] (.rba 2))) := by
  intro next previous history start cursor
  have live : start.cursors.find? 1 = some cursor := by decide +kernel
  have stands : start.store.toList[1]? = some (.live [3] [] (.rba 2)) := by decide +kernel
  have alone : ∀ request ∈ [next, next, previous], request.operation.ends 1 = false ∧
      request.operation.places? 1 = none := by
    intro request member
    simp only [List.mem_cons, List.not_mem_nil, or_false] at member
    rcases member with rfl | rfl | rfl <;> exact ⟨rfl, rfl⟩
  have unchanged : ∀ early late, [next, next, previous] = early ++ late →
      (start.follow early).store = start.store := by
    intro early late split
    apply store_follow_of_asks
    intro request member
    have among : request ∈ [next, next, previous] := split ▸ List.mem_append_left _ member
    simp only [List.mem_cons, List.not_mem_nil, or_false] at among
    rcases among with rfl | rfl | rfl <;> exact Option.some_ne_none _
  obtain ⟨_, _, during⟩ := browse_as_index (.keyed "C" 4) none history 1 cursor
    ⟨[3], .rba 2⟩ 1 (.live [3] [] (.rba 2)) [next, next, previous] live rfl stands rfl
    ⟨rfl, rfl⟩ alone (untaken_of_live live (by decide +kernel)) unchanged
  obtain ⟨_, answers, turning⟩ := during [next] [next, previous] rfl
  have ended : ((start.follow [next]).event next).answer = .error (.endOfFile 1) :=
    (answers next .forward rfl).trans (by decide +kernel)
  have same := (turning .forward next [] previous [] rfl rfl (by simp) rfl).2 ended
  refine ⟨live, by decide +kernel, ended, same, same.trans ?_⟩
  exact (answers previous .backward rfl).trans (by decide +kernel)

end Dataset

end KeySequenced
