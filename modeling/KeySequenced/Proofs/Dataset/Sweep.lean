import KeySequenced.Proofs.Dataset.Steps
import KeySequenced.Proofs.Store.Nearest

/-!
# Browsing while records change

A cursor is swept in one direction while other requests come in between in any
order.  What it returns is in strict order and is what stands in the store at
that moment, and when it meets the end of the data it has returned every key
beyond its first place that has been stored all the time.  The invariant is
`Sweeping`: such keys are missing only beyond the key that has been reached,
and nowhere once the cursor has stopped.
-/

set_option autoImplicit false

namespace KeySequenced

/-! ## Searches from a place -/

namespace Dataset

theorem Sound.nearest_of_beyond? {definition : Definition} {dataset : Dataset}
    (sound : Sound definition dataset) {direction : Direction} {place : Position}
    {record : Record} (found : dataset.beyond? direction (some place) = some record) :
    dataset.store.Nearest direction place.key record := by
  cases direction with
  | forward =>
    simp only [beyond?, recordAfter?, Store.above?, Option.map_eq_some_iff] at found
    obtain ⟨entry, found, rfl⟩ := found
    obtain ⟨member, beyond, first⟩ := Table.least_of_above? _ found
    exact sound.consistent.nearest member beyond first
  | backward =>
    simp only [beyond?, recordBefore?, Store.below?, Option.map_eq_some_iff] at found
    obtain ⟨entry, found, rfl⟩ := found
    obtain ⟨member, beyond, first⟩ := Table.greatest_of_below? _ found
    exact sound.consistent.nearest member beyond first

theorem not_precedes_of_beyond? {dataset : Dataset} {direction : Direction} {place : Position}
    (nothing : dataset.beyond? direction (some place) = none) {key : Key}
    (stored : dataset.store.find? key ≠ none) : ¬ direction.Precedes place.key key := by
  obtain ⟨record, found⟩ := Option.ne_none_iff_exists'.mp stored
  have member := Store.mem_toList_of_find? found
  cases direction with
  | forward =>
    simp only [beyond?, recordAfter?, Store.above?, Option.map_eq_none_iff] at nothing
    exact (Table.above?_eq_none_iff _ _).mp nothing _ member
  | backward =>
    simp only [beyond?, recordBefore?, Store.below?, Option.map_eq_none_iff] at nothing
    exact (Table.below?_eq_none_iff _ _).mp nothing _ member

end Dataset

/-! ## The invariant of a sweep -/

/-- A sweep that began at `start` has returned `keys`, all keys of `stood` but those beyond the
place of its cursor; once it has stopped, these too. -/
structure Sweeping (start : Key) (direction : Direction) (stood : Key → Prop) (keys : List Key)
    (cursor : Cursor) (place : Position) : Prop where
  resting : cursor.resting = some place
  ordered : (start :: keys).Pairwise direction.Precedes
  reached : ∀ key ∈ start :: keys, key = place.key ∨ direction.Precedes key place.key
  complete : ∀ key, stood key → direction.Precedes start key →
    cursor.stopped direction = true ∨ key = place.key ∨ direction.Precedes key place.key →
    key ∈ keys

section Sweeping

variable {start : Key} {direction : Direction} {stood later : Key → Prop} {keys : List Key}
  {cursor : Cursor} {place : Position} {store : Store}

theorem sweeping_nil (resting : cursor.resting = some place)
    (free : cursor.stopped direction = false) :
    Sweeping place.key direction stood [] cursor place := by
  refine ⟨resting, List.pairwise_singleton .., ?_, ?_⟩
  · intro key member
    exact .inl (List.mem_singleton.mp member)
  · intro key _ beyond within
    rcases within with stopped | rfl | before
    · rw [free] at stopped
      cases stopped
    · exact absurd beyond (Direction.Precedes.irrefl _ _)
    · exact absurd (before.trans beyond) (Direction.Precedes.irrefl _ _)

theorem Sweeping.mono (sweeping : Sweeping start direction stood keys cursor place)
    (fewer : ∀ key, later key → stood key) : Sweeping start direction later keys cursor place :=
  ⟨sweeping.resting, sweeping.ordered, sweeping.reached,
    fun key still => sweeping.complete key (fewer key still)⟩

theorem Sweeping.advance (sweeping : Sweeping start direction stood keys cursor place)
    {record : Record} (nearest : store.Nearest direction place.key record)
    (stored : ∀ key, stood key → store.find? key ≠ none) :
    Sweeping start direction stood (keys ++ [record.key])
      (cursor.advanceTo record.key record.address) ⟨record.key, record.address⟩ := by
  have ahead : ∀ key ∈ start :: keys, direction.Precedes key record.key := by
    intro key member
    rcases sweeping.reached key member with rfl | before
    · exact nearest.beyond
    · exact before.trans nearest.beyond
  refine ⟨rfl, ?_, ?_, ?_⟩
  · rw [← List.cons_append, List.pairwise_append]
    refine ⟨sweeping.ordered, List.pairwise_singleton .., ?_⟩
    intro key member other last
    rw [List.mem_singleton.mp last]
    exact ahead key member
  · intro key member
    rw [← List.cons_append] at member
    rcases List.mem_append.mp member with early | last
    · exact .inr (ahead key early)
    · exact .inl (List.mem_singleton.mp last)
  · intro key stands beyond within
    rw [Cursor.stopped_advanceTo] at within
    by_cases further : direction.Precedes place.key key
    · -- Nothing of the store lies between the old place and the new one.
      have same : key = record.key := by
        rcases nearest.nearest key (stored key stands) further with same | after
        · exact same
        · rcases within with stopped | same | before
          · cases stopped
          · exact same
          · exact absurd (after.trans before) (Direction.Precedes.irrefl _ _)
      rw [same]
      exact List.mem_append_right _ List.mem_cons_self
    · exact List.mem_append_left _
        (sweeping.complete key stands beyond (.inr (Direction.Precedes.connected further)))

theorem Sweeping.mem_keys (sweeping : Sweeping start direction stood keys cursor place)
    (stored : ∀ key, stood key → store.find? key ≠ none)
    (nothing : ∀ key, store.find? key ≠ none → ¬ direction.Precedes place.key key) {key : Key}
    (stands : stood key) (beyond : direction.Precedes start key) : key ∈ keys :=
  sweeping.complete key stands beyond
    (.inr (Direction.Precedes.connected (nothing key (stored key stands))))

theorem Sweeping.stop (sweeping : Sweeping start direction stood keys cursor place)
    (stored : ∀ key, stood key → store.find? key ≠ none)
    (nothing : ∀ key, store.find? key ≠ none → ¬ direction.Precedes place.key key) :
    Sweeping start direction stood keys (cursor.stop direction) place := by
  refine ⟨?_, sweeping.ordered, sweeping.reached, ?_⟩
  · rw [Cursor.resting_stop]
    exact sweeping.resting
  · intro key stands beyond _
    exact sweeping.mem_keys stored nothing stands beyond

theorem Sweeping.count_eq_one (sweeping : Sweeping start direction stood keys cursor place)
    {key : Key} (member : key ∈ keys) : keys.count key = 1 := by
  have distinct : keys.Nodup := by
    apply (List.pairwise_cons.mp sweeping.ordered).2.imp
    rintro first _ before rfl
    exact Direction.Precedes.irrefl _ _ before
  rw [distinct.count, if_pos member]

end Sweeping

/-! ## Requests beside a sweep -/

/-- The request steps the cursor in the direction or leaves it alone, and does not close. -/
structure Operation.Sweeps (number : UInt64) (natural direction : Direction)
    (operation : Operation) : Prop where
  unclosed : operation ≠ .close
  unended : operation ≠ .endBrowse number
  unmoved : ∀ key, operation ≠ .resetBrowse number key
  onward : ∀ asked, operation.asks? = some (number, asked) → asked.getD natural = direction

section Sweeps

variable {operation : Operation} {number : UInt64} {natural direction : Direction}

theorem Operation.Sweeps.ends_eq_false (sweeps : operation.Sweeps number natural direction) :
    operation.ends number = false := by
  cases operation with
  | close => exact absurd rfl sweeps.unclosed
  | endBrowse other => exact beq_false_of_ne fun same => sweeps.unended (congrArg _ same)
  | _ => rfl

theorem Operation.Sweeps.places?_eq_none (sweeps : operation.Sweeps number natural direction) :
    operation.places? number = none :=
  Option.eq_none_iff_forall_ne_some.mpr fun key placed =>
    sweeps.unmoved key (Operation.places?_eq_some_iff.mp placed)

end Sweeps

/-- The record that the request has returned through the cursor. -/
def Event.returned? (number : UInt64) (event : Event) : Option Record :=
  match event.operation.asks?, event.answer with
  | some (other, _), .ok (.record record) => if other = number then some record else none
  | _, _ => none

def returnedKeys (number : UInt64) (events : List Event) : List Key :=
  events.filterMap fun event => (event.returned? number).map Record.key

namespace Dataset

/-- The key has been stored from the start, and after each of the events. -/
def Stood (start : Dataset) (events : List Event) (key : Key) : Prop :=
  start.store.find? key ≠ none ∧ ∀ event ∈ events, event.after.store.find? key ≠ none

/-- What a request can do to a cursor that is being swept. -/
inductive Passage (dataset : Dataset) (number : UInt64) (cursor : Cursor) (direction : Direction) :
    Option Record → Dataset → Prop where
  | aside (after : Dataset) (live : after.cursors.find? number = some cursor) :
      Passage dataset number cursor direction none after
  | moved (record : Record) (after : Dataset)
      (next : dataset.beyond? direction cursor.resting = some record)
      (same : after.store = dataset.store)
      (live : after.cursors.find? number
        = some (cursor.advanceTo record.key record.address)) :
      Passage dataset number cursor direction (some record) after
  | ended (after : Dataset) (nothing : dataset.beyond? direction cursor.resting = none)
      (same : after.store = dataset.store)
      (live : after.cursors.find? number = some (cursor.stop direction)) :
      Passage dataset number cursor direction none after

theorem returned?_of_asks {operation : Operation} {number : UInt64} {asked : Option Direction}
    (asks : operation.asks? = some (number, asked)) (record : Record) (after : Dataset)
    (other : UInt64) :
    (Event.mk operation (.ok (.record record)) after).returned? other
      = if number = other then some record else none := by
  simp only [Event.returned?, asks]

theorem returned?_error (operation : Operation) (fault : Fault) (after : Dataset)
    (number : UInt64) : (Event.mk operation (.error fault) after).returned? number = none := by
  unfold Event.returned?
  cases operation.asks? <;> rfl

theorem returned?_of_unread {operation : Operation} {number : UInt64} {natural : Direction}
    (unread : operation.reads? number natural = none) (answer : Except Fault Answer)
    (after : Dataset) : (Event.mk operation answer after).returned? number = none := by
  unfold Event.returned?
  split
  · rename_i other asked record asks _
    exact if_neg (Operation.ne_of_reads?_eq_none unread asks).symm
  · rfl

theorem Sound.passage {definition : Definition} {dataset after : Dataset} {volume : Volume}
    {operation : Operation} {answer : Except Fault Answer} (sound : Sound definition dataset)
    (transition : Transition dataset volume operation answer after) {number : UInt64}
    {cursor : Cursor} {direction : Direction}
    (live : dataset.cursors.find? number = some cursor)
    (sweeps : operation.Sweeps number cursor.direction direction)
    (untold : answer ≠ .ok (.started number)) :
    Passage dataset number cursor direction
      ((Event.mk operation answer after).returned? number) after := by
  cases reads : operation.reads? number cursor.direction with
  | none =>
    rw [returned?_of_unread reads]
    exact .aside _ (sound.find?_of_spares transition live sweeps.ends_eq_false untold reads
      sweeps.places?_eq_none)
  | some way =>
    obtain ⟨asked, asks, rfl⟩ := Operation.reads?_eq_some_iff.mp reads
    have onward := sweeps.onward asked asks
    cases transition with
    | refused operation fault =>
      rw [returned?_error]
      exact .aside _ live
    | stepped operation other way found record again unshut stands free next =>
      cases asks.symm.trans again
      cases live.symm.trans stands
      rw [returned?_of_asks asks, if_pos rfl]
      rw [onward] at next
      exact .moved record _ next rfl (by simp [find?_setCursor])
    | stopped operation other way found again unshut stands free nothing =>
      cases asks.symm.trans again
      cases live.symm.trans stands
      rw [returned?_error]
      rw [onward] at nothing ⊢
      exact .ended _ nothing rfl (by simp [find?_setCursor])
    | found operation record unshut sought =>
      cases operation <;> first | cases sought | cases asks
    | _ => cases asks

/-! ## Runs of a sweep -/

section Runs

variable {definition : Definition} {start : Dataset} {number : UInt64} {cursor : Cursor}
  {direction : Direction} {place : Position}

theorem Stood.stored_follow {requests : List Request} {key : Key}
    (stood : Stood start (start.events requests) key) :
    (start.follow requests).store.find? key ≠ none := by
  cases requests using List.reverseRecOn with
  | nil => exact stood.1
  | append_singleton early request =>
    rw [events_concat] at stood
    rw [follow_concat]
    exact stood.2 _ (List.mem_append_right _ List.mem_cons_self)

theorem returnedKeys_concat (number : UInt64) (events : List Event) (event : Event) :
    returnedKeys number (events ++ [event])
      = returnedKeys number events ++ ((event.returned? number).map Record.key).toList := by
  simp only [returnedKeys, List.filterMap_append]
  cases found : (event.returned? number).map Record.key <;> simp [found]

theorem Sound.sweeping_follow (sound : Sound definition start)
    (live : start.cursors.find? number = some cursor) (rests : cursor.resting = some place)
    (free : cursor.stopped direction = false) (requests : List Request)
    (sweeps : ∀ request ∈ requests,
      request.operation.Sweeps number cursor.direction direction)
    (untaken : start.Untaken number requests) :
    ∃ current reached, (start.follow requests).cursors.find? number = some current ∧
      current.direction = cursor.direction ∧
      Sweeping place.key direction (Stood start (start.events requests))
        (returnedKeys number (start.events requests)) current reached := by
  induction requests using List.reverseRecOn with
  | nil => exact ⟨cursor, place, live, rfl, sweeping_nil rests free⟩
  | append_singleton early request ih =>
    obtain ⟨before, untold⟩ := (untaken_concat_iff ..).mp untaken
    obtain ⟨current, reached, stands, natural, sweeping⟩ :=
      ih (fun other member => sweeps other (List.mem_append_left _ member)) before
    have onward := sweeps request (List.mem_append_right _ List.mem_cons_self)
    rw [← natural] at onward
    have fewer : ∀ key, Stood start (start.events (early ++ [request])) key →
        Stood start (start.events early) key := by
      intro key stood
      rw [events_concat] at stood
      exact ⟨stood.1, fun event member => stood.2 event (List.mem_append_left _ member)⟩
    have stored : ∀ key, Stood start (start.events (early ++ [request])) key →
        (start.follow early).store.find? key ≠ none :=
      fun key stood => (fewer key stood).stored_follow
    have kept := sweeping.mono fewer
    have passage := (sound.follow early).passage
      ((start.follow early).transition_event request) stands onward untold
    rw [follow_concat, events_concat, returnedKeys_concat, ← events_concat]
    change Passage _ _ _ _ (((start.follow early).event request).returned? number) _ at passage
    generalize ((start.follow early).event request).returned? number = returned at passage ⊢
    generalize ((start.follow early).event request).after = after at passage ⊢
    cases passage with
    | aside after live =>
      refine ⟨current, reached, live, natural, ?_⟩
      simpa using kept
    | moved record after next same live =>
      rw [sweeping.resting] at next
      exact ⟨_, _, live, natural,
        kept.advance ((sound.follow early).nearest_of_beyond? next) stored⟩
    | ended after nothing same live =>
      rw [sweeping.resting] at nothing
      refine ⟨_, reached, live, (Cursor.direction_stop ..).trans natural, ?_⟩
      simpa using kept.stop stored fun key => not_precedes_of_beyond? nothing

/-- What a request returns through a cursor that is swept stands in the store. -/
theorem Sound.find?_of_returned? {dataset : Dataset} (sound : Sound definition dataset)
    (live : dataset.cursors.find? number = some cursor) (rests : cursor.resting = some place)
    {request : Request} (sweeps : request.operation.Sweeps number cursor.direction direction)
    (untold : (dataset.event request).answer ≠ .ok (.started number)) {record : Record}
    (returned : (dataset.event request).returned? number = some record) :
    dataset.store.find? record.key = some record ∧
      (dataset.event request).after.store.find? record.key = some record := by
  have passage := sound.passage (dataset.transition_event request) live sweeps untold
  change Passage _ _ _ _ ((dataset.event request).returned? number) _ at passage
  rw [returned] at passage
  cases passage with
  | moved _ _ next same _ =>
    rw [rests] at next
    have nearest := sound.nearest_of_beyond? next
    exact ⟨nearest.stored, by rw [same]; exact nearest.stored⟩

/-- A cursor that answers with the end of the data has stopped or finds nothing further. -/
theorem stopped_or_nothing {dataset : Dataset} {request : Request} {asked : Option Direction}
    (live : dataset.cursors.find? number = some cursor)
    (asks : request.operation.asks? = some (number, asked))
    (onward : asked.getD cursor.direction = direction)
    (ends : (dataset.event request).answer = .error (direction.endFault number)) :
    cursor.stopped direction = true ∨ dataset.beyond? direction cursor.resting = none := by
  have answered : (dataset.event request).answer = (dataset.step number asked).1.map .record :=
    congrArg Prod.fst (dataset.perform_of_asks request.volume asks)
  rw [answered] at ends
  cases unshut : dataset.closed? with
  | some fault =>
    simp only [step, unshut, dataset.eq_notOpen_of_closed? unshut, notOpen] at ends
    cases direction <;> cases ends
  | none =>
    rw [dataset.step_eq number asked unshut live, onward] at ends
    cases free : cursor.stopped direction with
    | true => exact .inl rfl
    | false =>
      cases next : dataset.beyond? direction cursor.resting with
      | none => exact .inr rfl
      | some record =>
        rw [free, next] at ends
        cases ends

end Runs

/-- A cursor that rests on a key and is only stepped in one direction loses and repeats nothing,
whatever else is requested in between.  Only a browse that got the number of the cursor would be
in its way, and none does before as many have been started as there are words. -/
theorem sweep_returns (definition : Definition) (location : Option String)
    (history : List Request) (number : UInt64) (cursor : Cursor) (place : Position)
    (direction : Direction) (requests : List Request)
    (live : ((new definition location).follow history).cursors.find? number = some cursor)
    (rests : cursor.resting = some place) (free : cursor.stopped direction = false)
    (sweeps : ∀ request ∈ requests,
      request.operation.Sweeps number cursor.direction direction)
    (untaken : ((new definition location).follow history).Untaken number requests) :
    let start := (new definition location).follow history
    (place.key :: returnedKeys number (start.events requests)).Pairwise direction.Precedes ∧
    (∀ early request late record, requests = early ++ request :: late →
      ((start.follow early).event request).returned? number = some record →
      (start.follow early).store.find? record.key = some record ∧
        ((start.follow early).event request).after.store.find? record.key = some record) ∧
    ∀ early request late asked, requests = early ++ request :: late →
      request.operation.asks? = some (number, asked) →
      ((start.follow early).event request).answer = .error (direction.endFault number) →
      ∀ key, direction.Precedes place.key key → start.Stood (start.events early) key →
        (returnedKeys number (start.events early)).count key = 1 := by
  intro start
  have sound : Sound definition start := sound_follow definition location history
  have during : ∀ early request late, requests = early ++ request :: late →
      ((start.follow early).event request).answer ≠ .ok (.started number) ∧
      ∃ current reached, (start.follow early).cursors.find? number = some current ∧
        request.operation.Sweeps number current.direction direction ∧
        Sweeping place.key direction (Stood start (start.events early))
          (returnedKeys number (start.events early)) current reached := by
    rintro early request late rfl
    obtain ⟨before, later⟩ := (untaken_append_iff ..).mp untaken
    obtain ⟨current, reached, stands, natural, sweeping⟩ :=
      sound.sweeping_follow live rests free early
        (fun other member => sweeps other (List.mem_append_left _ member)) before
    refine ⟨later _ List.mem_cons_self, current, reached, stands, ?_, sweeping⟩
    rw [natural]
    exact sweeps request (List.mem_append_right _ List.mem_cons_self)
  refine ⟨?_, ?_, ?_⟩
  · obtain ⟨_, _, _, _, sweeping⟩ :=
      sound.sweeping_follow live rests free requests sweeps untaken
    exact sweeping.ordered
  · intro early request late record split returned
    obtain ⟨untold, current, reached, stands, onward, sweeping⟩ := during early request late split
    exact (sound.follow early).find?_of_returned? stands sweeping.resting onward untold returned
  · intro early request late asked split asks ends key beyond stood
    obtain ⟨_, current, reached, stands, onward, sweeping⟩ := during early request late split
    apply sweeping.count_eq_one
    rcases stopped_or_nothing stands asks (onward.onward asked asks) ends with stopped | nothing
    · exact sweeping.complete key stood beyond (.inl stopped)
    · rw [sweeping.resting] at nothing
      exact sweeping.mem_keys (fun _ stood => stood.stored_follow)
        (fun _ => not_precedes_of_beyond? nothing) stood beyond

/-- Erasing the place of a cursor and a record that it has returned, writing and updating records
ahead of it and starting another browse, the sweep still returns the last key once before it
ends. -/
theorem sweep_among_changes :
    let beside : List Operation → List Request := List.map fun operation => ⟨operation, .empty⟩
    let history := beside [.openFor ⟨.inputOutput, .dynamic⟩, .write (.new [1] []),
      .write (.new [3] []), .write (.new [5] []), .startBrowse [1] false .forward]
    let early := beside [.erase [1], .write (.new [4] [40]), .readNext 1, .erase [3],
      .startBrowse [4] true .backward, .readBrowse 1, .update [5] [55], .readNext 1]
    let last : Request := ⟨.readNext 1, .empty⟩
    let start := (new (.keyed "C" 4) none).follow history
    let cursor := (Cursor.new .forward).placeAt [1] (.rba 0)
    start.cursors.find? 1 = some cursor ∧ cursor.resting = some ⟨[1], .rba 0⟩ ∧
      cursor.stopped .forward = false ∧
      (∀ request ∈ early ++ [last], request.operation.Sweeps 1 cursor.direction .forward) ∧
      start.Untaken 1 (early ++ [last]) ∧
      ([1] :: returnedKeys 1 (start.events (early ++ [last]))).Pairwise
        Direction.forward.Precedes ∧
      (returnedKeys 1 (start.events early)).count [5] = 1 := by
  intro beside history early last start cursor
  have live : start.cursors.find? 1 = some cursor := by decide +kernel
  have sweeps : ∀ request ∈ early ++ [last],
      request.operation.Sweeps 1 cursor.direction .forward := by
    intro request member
    simp only [early, last, beside, List.map_cons, List.map_nil, List.cons_append,
      List.nil_append, List.mem_cons, List.not_mem_nil, or_false] at member
    rcases member with rfl | rfl | rfl | rfl | rfl | rfl | rfl | rfl | rfl <;>
      refine ⟨nofun, nofun, nofun, ?_⟩ <;> intro asked asks <;> cases asks <;> rfl
  have untaken : start.Untaken 1 (early ++ [last]) :=
    untaken_of_live live (by decide +kernel)
  obtain ⟨ordered, _, complete⟩ := sweep_returns (.keyed "C" 4) none history 1 cursor
    ⟨[1], .rba 0⟩ .forward (early ++ [last]) live rfl rfl sweeps untaken
  refine ⟨live, rfl, rfl, sweeps, untaken, ordered, ?_⟩
  apply complete early last [] (some .forward) rfl rfl (by decide +kernel) [5] (by decide)
  exact ⟨by decide +kernel, by decide +kernel⟩

end Dataset

end KeySequenced
