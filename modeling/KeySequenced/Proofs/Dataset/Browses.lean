import KeySequenced.Proofs.Dataset.Failure
import KeySequenced.Proofs.Dataset.Sweep

/-!
# The cursors of a dataset

The cursor of a browse always rests on a key, is at one end of the data at most,
lacks the address of its key only there, and counts the records that have been
read through it.  `Becoming` lists what a request can make of a cursor, and the
statements about cursors are proved by cases on it.
-/

set_option autoImplicit false

namespace KeySequenced

/-! ## Cursors with a place -/

namespace Cursor

/-- The cursor rests on a key, the address of which it lacks only at an end of the data. -/
def Placed (cursor : Cursor) : Prop :=
  ∃ place, cursor.resting = some place ∧
    (place.address = .invalid → cursor.atStart = true ∨ cursor.atEnd = true)

section Placed

variable {cursor : Cursor}

theorem Placed.stop (placed : cursor.Placed) (direction : Direction) :
    (cursor.stop direction).Placed := by
  obtain ⟨place, rests, _⟩ := placed
  refine ⟨place, (cursor.resting_stop direction).trans rests, fun _ => ?_⟩
  cases direction with
  | forward => exact .inr rfl
  | backward => exact .inl rfl

theorem placed_advanceTo (cursor : Cursor) (key : Key) {address : Address}
    (valid : address ≠ .invalid) : (cursor.advanceTo key address).Placed :=
  ⟨⟨key, address⟩, rfl, fun missing => absurd missing valid⟩

theorem placed_placeOn (cursor : Cursor) {found : Option Record} (requested : Key)
    (valid : ∀ record, found = some record → record.address ≠ .invalid) :
    (cursor.placeOn found requested).Placed := by
  cases found with
  | none => exact ⟨⟨requested, .invalid⟩, rfl, fun _ => .inr rfl⟩
  | some record =>
    exact ⟨⟨record.key, record.address⟩, rfl, fun missing => absurd missing (valid record rfl)⟩

@[simp] theorem recordsRead_stop (cursor : Cursor) (direction : Direction) :
    (cursor.stop direction).recordsRead = cursor.recordsRead := by
  cases direction <;> rfl

@[simp] theorem recordsRead_advanceTo (cursor : Cursor) (key : Key) (address : Address) :
    (cursor.advanceTo key address).recordsRead = cursor.recordsRead + 1 := rfl

@[simp] theorem recordsRead_placeOn (cursor : Cursor) (found : Option Record) (requested : Key) :
    (cursor.placeOn found requested).recordsRead = cursor.recordsRead := by
  cases found <;> rfl

end Placed

end Cursor

/-! ## Events of a browse -/

namespace Event

/-- The request has read a record through the cursor, in whatever direction. -/
def isReadThrough (number : UInt64) (event : Event) : Bool :=
  match event.operation.asks?, event.answer with
  | some (other, _), .ok _ => other == number
  | _, _ => false

section Events

variable {operation : Operation} {answer : Except Fault Answer} {after : Dataset} {number : UInt64}
  {asked : Option Direction}

@[simp] theorem isReadThrough_error (operation : Operation) (fault : Fault) (after : Dataset)
    (number : UInt64) : (Event.mk operation (.error fault) after).isReadThrough number = false := by
  unfold isReadThrough
  cases operation.asks? <;> rfl

theorem isReadThrough_of_sought {dataset : Dataset} {record : Record}
    (sought : dataset.sought? operation = some record) (number : UInt64) :
    (Event.mk operation answer after).isReadThrough number = false := by
  cases operation <;> first | rfl | cases sought

theorem isReadThrough_of_asks (asks : operation.asks? = some (number, asked)) (result : Answer)
    (other : UInt64) :
    (Event.mk operation (.ok result) after).isReadThrough other = (number == other) := by
  simp only [isReadThrough, asks]

end Events

end Event

namespace Dataset

/-! ## What becomes of a cursor -/

/-- The ways in which the cursor of a number comes out of a request. -/
inductive Becoming (dataset : Dataset) (number : UInt64) (event : Event) : Cursor → Prop where
  | kept (cursor : Cursor) (live : dataset.cursors.find? number = some cursor)
      (untold : event.answer ≠ .ok (.started number))
      (unread : event.isReadThrough number = false) : Becoming dataset number event cursor
  | started (key : Key) (orAbove : Bool) (direction : Direction) (starts : event.isStart = true)
      (told : event.answer = .ok (.started number)) :
      Becoming dataset number event ((Cursor.new direction).placeOn
        (if orAbove then dataset.store.atOrAbove? key else dataset.store.find? key) key)
  | moved (cursor : Cursor) (direction : Direction) (record : Record)
      (live : dataset.cursors.find? number = some cursor)
      (next : dataset.beyond? direction cursor.resting = some record)
      (untold : event.answer ≠ .ok (.started number))
      (read : event.isReadThrough number = true) :
      Becoming dataset number event (cursor.advanceTo record.key record.address)
  | stopped (cursor : Cursor) (direction : Direction)
      (live : dataset.cursors.find? number = some cursor)
      (untold : event.answer ≠ .ok (.started number))
      (unread : event.isReadThrough number = false) :
      Becoming dataset number event (cursor.stop direction)
  | replaced (cursor : Cursor) (key : Key) (live : dataset.cursors.find? number = some cursor)
      (untold : event.answer ≠ .ok (.started number))
      (unread : event.isReadThrough number = false) :
      Becoming dataset number event (cursor.placeOn (dataset.store.atOrAbove? key) key)

section Steps

variable {definition : Definition} {dataset after : Dataset} {volume : Volume}
  {operation : Operation} {answer : Except Fault Answer} {number : UInt64} {cursor : Cursor}

/-- A cursor after a request has become so in one of the ways. -/
theorem Transition.becoming (transition : Transition dataset volume operation answer after)
    (live : after.cursors.find? number = some cursor) :
    Becoming dataset number ⟨operation, answer, after⟩ cursor := by
  cases transition with
  | refused => exact .kept _ live (by simp) (Event.isReadThrough_error ..)
  | found _ _ _ sought => exact .kept _ live (by simp) (Event.isReadThrough_of_sought sought number)
  | closed | loaded => simp [Dataset.closed] at live
  | started key orAbove direction unshut =>
    have inserted := dataset.find?_setCursor dataset.nextCursor number
    simp only [inserted] at live
    split at live
    · rename_i same
      cases live
      exact .started key orAbove direction rfl (by rw [same])
    · rename_i differ
      refine .kept _ live ?_ rfl
      intro told
      cases told
      exact differ rfl
  | stepped operation other asked found record asks unshut stands free next =>
    simp only [find?_setCursor] at live
    split at live
    · rename_i same
      subst same
      cases live
      exact .moved found _ record stands next (by simp) (by simp [Event.isReadThrough_of_asks asks])
    · rename_i differ
      refine .kept _ live (by simp) ?_
      rw [Event.isReadThrough_of_asks asks]
      exact beq_false_of_ne (Ne.symm differ)
  | stopped operation other asked found asks unshut stands =>
    rw [find?_setCursor] at live
    split at live
    · rename_i same
      subst same
      cases live
      exact .stopped found _ stands (by simp) (Event.isReadThrough_error ..)
    · exact .kept _ live (by simp) (Event.isReadThrough_error ..)
  | ended other unshut =>
    simp only [Table.find?_erase] at live
    split at live
    · cases live
    · exact .kept _ live (by simp) rfl
  | placed other key found unshut stands =>
    rw [find?_setCursor] at live
    split at live
    · rename_i same
      subst same
      cases live
      exact .replaced found key stands (by simp) rfl
    · exact .kept _ live (by simp) rfl
  | opened | wrote | updated | erased | shown | saved => exact .kept _ live (by simp) rfl

/-- Closing a dataset and ending a browse leave no cursor of the number behind. -/
theorem Transition.find?_of_ending (transition : Transition dataset volume operation answer after)
    (ending : operation = .close ∨ operation = .endBrowse number) {result : Answer}
    (success : answer = .ok result) : after.cursors.find? number = none := by
  rcases ending with rfl | rfl
  · cases transition with
    | refused => cases success
    | found _ _ _ sought => cases sought
    | closed => simp [Dataset.closed]
    | stepped _ _ _ _ _ asks | stopped _ _ _ _ asks => cases asks
  · cases transition with
    | refused => cases success
    | found _ _ _ sought => cases sought
    | ended => simp
    | stepped _ _ _ _ _ asks | stopped _ _ _ _ asks => cases asks

end Steps

/-! ## Counts and places -/

section Cursors

variable {definition : Definition} {location : Option String}

/-- The history has started the browse of the number, none after that one has got the number, and
as many reads through its cursor have succeeded since as the cursor tells. -/
def Tallied (start : Dataset) (history : List Request) (number : UInt64) (cursor : Cursor) : Prop :=
  ∃ early request late, history = early ++ request :: late ∧
    ((start.follow early).event request).isStart = true ∧
    ((start.follow early).event request).answer = .ok (.started number) ∧
    (start.follow (early ++ [request])).Untaken number late ∧
    cursor.recordsRead = UInt64.ofNat
      (((start.follow (early ++ [request])).events late).countP (Event.isReadThrough number))

theorem Tallied.concat {start : Dataset} {history : List Request} {number : UInt64}
    {cursor after : Cursor} (tallied : Tallied start history number cursor) (request : Request)
    (untold : ((start.follow history).event request).answer ≠ .ok (.started number))
    (counted : after.recordsRead = cursor.recordsRead
      + if ((start.follow history).event request).isReadThrough number then 1 else 0) :
    Tallied start (history ++ [request]) number after := by
  obtain ⟨early, first, late, rfl, isStart, told, untaken, count⟩ := tallied
  rw [follow_append_cons] at untold counted
  refine ⟨early, first, late ++ [request], by simp, isStart, told,
    (untaken_concat_iff ..).mpr ⟨untaken, untold⟩, ?_⟩
  rw [events_concat, List.countP_append, List.countP_singleton, counted, count,
    UInt64.ofNat_add]
  split <;> rfl

theorem tallied_follow (requests : List Request) (number : UInt64) (cursor : Cursor)
    (live : ((new definition location).follow requests).cursors.find? number = some cursor) :
    Tallied (new definition location) requests number cursor := by
  induction requests using List.reverseRecOn generalizing cursor with
  | nil => simp [new] at live
  | append_singleton early request ih =>
    rw [follow_concat] at live
    have becoming := (((new definition location).follow early).transition_event request).becoming
      live
    change Becoming _ _ (((new definition location).follow early).event request) _ at becoming
    cases becoming with
    | started _ _ _ starts told =>
      exact ⟨early, request, [], rfl, starts, told, untaken_nil _ _, by simp; rfl⟩
    | kept _ stands untold unread => exact (ih _ stands).concat request untold (by simp [unread])
    | moved _ _ _ stands _ untold read =>
      exact (ih _ stands).concat request untold (by simp [read])
    | stopped _ _ stands untold unread =>
      exact (ih _ stands).concat request untold (by simp [unread])
    | replaced _ _ stands untold unread =>
      exact (ih _ stands).concat request untold (by simp [unread])

theorem Sound.address_ne_invalid {dataset : Dataset} (sound : Sound definition dataset)
    {key : Key} {record : Record} (found : dataset.store.find? key = some record) :
    record.address ≠ .invalid := by
  obtain ⟨rba, address, _⟩ := sound.consistent.addressed key record found
  rw [address]
  exact nofun

theorem exists_find?_of_atOrAbove? {store : Store} {key : Key} {record : Record}
    (found : store.atOrAbove? key = some record) :
    ∃ other, store.find? other = some record := by
  simp only [Store.atOrAbove?, Option.map_eq_some_iff, Table.atOrAbove?_eq_find?] at found
  obtain ⟨⟨other, _⟩, first, rfl⟩ := found
  exact ⟨other, (store.records.find?_eq_some_iff _ _).mpr (List.mem_of_find?_eq_some first)⟩

theorem Sound.placed_of_becoming {dataset : Dataset} (sound : Sound definition dataset)
    {number : UInt64} {event : Event} {cursor : Cursor}
    (placed : ∀ before, dataset.cursors.find? number = some before → before.Placed)
    (becoming : Becoming dataset number event cursor) : cursor.Placed := by
  cases becoming with
  | kept _ live => exact placed _ live
  | started key orAbove direction =>
    refine Cursor.placed_placeOn _ _ ?_
    intro record found
    cases orAbove with
    | false => exact sound.address_ne_invalid found
    | true =>
      obtain ⟨_, stored⟩ := exists_find?_of_atOrAbove? found
      exact sound.address_ne_invalid stored
  | moved before direction record live next =>
    obtain ⟨place, rests, _⟩ := placed before live
    rw [rests] at next
    exact Cursor.placed_advanceTo _ _
      (sound.address_ne_invalid (sound.nearest_of_beyond? next).stored)
  | stopped before direction live => exact (placed before live).stop direction
  | replaced before key live =>
    refine Cursor.placed_placeOn _ _ ?_
    intro record found
    obtain ⟨_, stored⟩ := exists_find?_of_atOrAbove? found
    exact sound.address_ne_invalid stored

theorem placed_follow (requests : List Request) (number : UInt64) (cursor : Cursor)
    (live : ((new definition location).follow requests).cursors.find? number = some cursor) :
    cursor.Placed := by
  induction requests using List.reverseRecOn generalizing cursor with
  | nil => simp [new] at live
  | append_singleton early request ih =>
    rw [follow_concat] at live
    exact (sound_follow definition location early).placed_of_becoming ih
      (((new definition location).follow early).transition_event request |>.becoming live)

end Cursors

/-- The cursors of every dataset that can be reached: none while it is closed; numbered 1, 2, 3, ...
by the browses that have been started; each with a place, from which its steps go on, at one end of
the data at most, without the address of its key only there, and with the count of the records that
have been read through it since its start.  Numbers and counts are words.  No number is given
twice, and none comes back after its end, as long as no more browses are started than there are
words; up to two fewer, all cursors have numbers less than the next one. -/
theorem cursors_of_history (definition : Definition) (location : Option String)
    (history : List Request) :
    let start := new definition location
    let dataset := start.follow history
    let starts := (start.events history).filter Event.isStart
    (dataset.isOpen = false → ∀ number, dataset.cursors.find? number = none) ∧
    starts.map Event.answer
      = (List.range' 1 starts.length).map (fun count => .ok (.started (UInt64.ofNat count))) ∧
    dataset.nextCursor = UInt64.ofNat (starts.length + 1) ∧
    (starts.length ≤ UInt64.size → (starts.map Event.answer).Nodup) ∧
    (starts.length + 1 < UInt64.size →
      dataset.nextCursor.toNat = starts.length + 1 ∧
        ∀ number cursor, dataset.cursors.find? number = some cursor →
          number < dataset.nextCursor) ∧
    (∀ early request late number event result, history = early ++ request :: late →
      event ∈ start.events early → event.answer = .ok (.started number) →
      request.operation = .close ∨ request.operation = .endBrowse number →
      ((start.follow early).event request).answer = .ok result →
      starts.length ≤ UInt64.size ∨ (start.follow (early ++ [request])).Untaken number late →
      dataset.cursors.find? number = none) ∧
    ∀ number cursor, dataset.cursors.find? number = some cursor →
      (∃ place, cursor.resting = some place ∧
        (place.address = .invalid → cursor.atStart = true ∨ cursor.atEnd = true) ∧
        dataset.recordAfter? cursor.resting = dataset.store.above? place.key ∧
        dataset.recordBefore? cursor.resting = dataset.store.below? place.key) ∧
      ¬ (cursor.atStart = true ∧ cursor.atEnd = true) ∧
      ∃ early request late, history = early ++ request :: late ∧
        ((start.follow early).event request).isStart = true ∧
        ((start.follow early).event request).answer = .ok (.started number) ∧
        (start.follow (early ++ [request])).Untaken number late ∧
        let reads := ((start.follow (early ++ [request])).events late).countP
          (Event.isReadThrough number)
        cursor.recordsRead = UInt64.ofNat reads ∧
          (reads < UInt64.size → cursor.recordsRead.toNat = reads) := by
  intro start dataset starts
  have sound : Sound definition dataset := sound_follow definition location history
  have count : start.starts history = starts.length := List.countP_eq_length_filter
  have answers := answers_of_starts definition location history
  change starts.map Event.answer = (List.range' 1 (start.starts history)).map _ at answers
  rw [count] at answers
  refine ⟨?_, answers, ?_, ?_, ?_, ?_, ?_⟩
  · intro shut
    exact sound.seated (by simpa [isOpen] using shut)
  · rw [nextCursor_follow, count, Nat.add_comm, UInt64.ofNat_add]
    rfl
  · intro few
    rw [answers]
    exact nodup_numbers few
  · intro few
    rw [← count] at few ⊢
    exact ⟨toNat_nextCursor few, fun number cursor live => lt_nextCursor_of_live live few⟩
  · rintro early request late number event result rfl member told ending success spared
    have gone : (start.follow (early ++ [request])).cursors.find? number = none := by
      rw [follow_concat]
      exact ((start.follow early).transition_event request).find?_of_ending ending success
    have untaken : (start.follow (early ++ [request])).Untaken number late := by
      rcases spared with few | untaken
      · refine untaken_of_starts_le (events_append .. ▸ List.mem_append_left _ member) told ?_
        rw [List.append_assoc, List.singleton_append, count]
        exact few
      · exact untaken
    have later := find?_follow_of_untaken gone untaken
    rw [← follow_append_cons] at later
    exact later
  · intro number cursor live
    obtain ⟨place, rests, missing⟩ := placed_follow history number cursor live
    obtain ⟨early, request, late, split, isStart, told, untaken, tally⟩ :=
      tallied_follow history number cursor live
    refine ⟨⟨place, rests, missing, ?_, ?_⟩, ?_, early, request, late, split, isStart, told,
      untaken, tally, ?_⟩
    · rw [rests]
      rfl
    · rw [rests]
      rfl
    · rintro ⟨atStart, atEnd⟩
      rcases ((oneSided_new definition location).follow history) number cursor live with
        inside | inside
      · rw [inside] at atStart
        cases atStart
      · rw [inside] at atEnd
        cases atEnd
    · intro few
      rw [tally]
      exact UInt64.toNat_ofNat_of_lt' few

/-- Two browses with a close between them: the first one has no cursor any more, and the second one,
which has read two records, counts them on over a reset. -/
theorem numbers_after_reopening :
    let beside (operation : Operation) : Request := ⟨operation, .empty⟩
    let opening := beside (.openFor ⟨.inputOutput, .dynamic⟩)
    let browse := beside (.startBrowse [1] true .forward)
    let first := [opening, beside (.write (.new [1] [])), beside (.write (.new [3] [])), browse]
    let second := [opening, browse, beside (.readNext 2), beside (.resetBrowse 2 [1]),
      beside (.readNext 2)]
    let start := new (.keyed "C" 4) none
    let history := first ++ beside .close :: second
    let dataset := start.follow history
    let starts := (start.events history).filter Event.isStart
    (starts.map Event.answer = [.ok (.started 1), .ok (.started 2)] ∧
        (starts.map Event.answer).Nodup) ∧
      dataset.nextCursor.toNat = 3 ∧ dataset.cursors.find? 1 = none ∧
      ∃ cursor, dataset.cursors.find? 2 = some cursor ∧ (2 : UInt64) < dataset.nextCursor ∧
        cursor.recordsRead = 2 ∧
        ∃ early request late, history = early ++ request :: late ∧
          ((start.follow early).event request).answer = .ok (.started 2) ∧
          cursor.recordsRead.toNat = ((start.follow (early ++ [request])).events late).countP
            (Event.isReadThrough 2) := by
  intro beside opening browse first second start history dataset starts
  have two : starts.length = 2 := by decide +kernel
  have live : dataset.cursors.find? 2
      = some { (Cursor.new .forward).placeAt [3] (.rba 1) with recordsRead := 2 } := by
    decide +kernel
  obtain ⟨_, answers, _, distinct, ordered, gone, counted⟩ :=
    cursors_of_history (.keyed "C" 4) none history
  obtain ⟨next, less⟩ := ordered (by rw [two]; decide)
  refine ⟨⟨by rw [answers, two]; decide, distinct (by rw [two]; decide)⟩, by rw [next, two], ?_,
    _, live, less 2 _ live, rfl, ?_⟩
  · refine gone first _ second 1 _ .done rfl (List.getLast_mem (by decide +kernel)) ?_ (.inl rfl)
      ?_ (.inl (by rw [two]; decide))
    · decide +kernel
    · decide +kernel
  · obtain ⟨_, _, early, request, late, split, _, told, _, _, count⟩ := counted 2 _ live
    refine ⟨early, request, late, split, told, count ?_⟩
    refine Nat.lt_of_le_of_lt List.countP_le_length ?_
    rw [length_events]
    have whole := congrArg List.length split
    change 10 = _ at whole
    rw [List.length_append, List.length_cons] at whole
    simp only [UInt64.size]
    omega

end Dataset

end KeySequenced
