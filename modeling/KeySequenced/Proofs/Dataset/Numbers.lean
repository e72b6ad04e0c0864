import KeySequenced.Proofs.Dataset.History
import Mathlib.Data.List.Induction
import Mathlib.Data.List.Nodup

/-!
# The numbers of browses

A browse that is started gets the next number.  The numbers are words, given as
1, 2, 3, ... and from the beginning again once all of them have been given.  As
long as no more browses are started than there are words, no number is given
twice, and what goes on under a number that has been given is left alone by the
browses that are started later.
-/

set_option autoImplicit false

namespace KeySequenced

theorem add_ofNat_ne_self (word : UInt64) {count : Nat} (some : 0 < count)
    (few : count < UInt64.size) : word + UInt64.ofNat count ≠ word := by
  intro same
  have sum := congrArg UInt64.toNat same
  rw [UInt64.toNat_add, UInt64.toNat_ofNat_of_lt' few] at sum
  have small := word.toNat_lt
  simp only [UInt64.size] at few
  omega

/-! ## Starts -/

namespace Event

def isStart (event : Event) : Bool :=
  match event.operation, event.answer with
  | .startBrowse _ _ _, .ok _ => true
  | _, _ => false

section Starts

variable {operation : Operation} {answer : Except Fault Answer} {after : Dataset}

theorem isStart_error (operation : Operation) (fault : Fault) (after : Dataset) :
    (Event.mk operation (.error fault) after).isStart = false := by
  cases operation <;> rfl

theorem isStart_of_asks {number : UInt64} {asked : Option Direction}
    (asks : operation.asks? = some (number, asked)) :
    (Event.mk operation answer after).isStart = false := by
  cases operation <;> first | rfl | cases asks

theorem isStart_of_sought {dataset : Dataset} {record : Record}
    (sought : dataset.sought? operation = some record) :
    (Event.mk operation answer after).isStart = false := by
  cases operation <;> first | rfl | cases sought

end Starts

end Event

namespace Dataset

section Steps

variable {dataset after : Dataset} {volume : Volume} {operation : Operation}
  {answer : Except Fault Answer} {number : UInt64}

/-- Only a browse that is started gets a number, and it gets the next one. -/
theorem Transition.nextCursor_eq (transition : Transition dataset volume operation answer after) :
    ((Event.mk operation answer after).isStart = true ∧
        answer = .ok (.started dataset.nextCursor) ∧
        after.nextCursor = dataset.nextCursor + 1) ∨
      ((Event.mk operation answer after).isStart = false ∧
        (∀ number, answer ≠ .ok (.started number)) ∧
        after.nextCursor = dataset.nextCursor) := by
  cases transition with
  | started => exact .inl ⟨rfl, rfl, rfl⟩
  | refused | stopped => exact .inr ⟨Event.isStart_error .., nofun, rfl⟩
  | found _ _ _ sought => exact .inr ⟨Event.isStart_of_sought sought, nofun, rfl⟩
  | stepped _ _ _ _ _ asks => exact .inr ⟨Event.isStart_of_asks asks, nofun, rfl⟩
  | _ => exact .inr ⟨rfl, nofun, rfl⟩

/-- A cursor that is there after a request was there before it, but for the one of the browse that
the request has started. -/
theorem Transition.live_or_started
    (transition : Transition dataset volume operation answer after)
    (live : after.cursors.find? number ≠ none) :
    dataset.cursors.find? number ≠ none ∨ answer = .ok (.started number) := by
  cases transition with
  | closed | loaded => simp [Dataset.closed] at live
  | started key orAbove direction unshut =>
    have inserted := dataset.find?_setCursor dataset.nextCursor number
    simp only [inserted] at live
    split at live
    · rename_i same
      exact .inr (by rw [same])
    · exact .inl live
  | stepped operation other asked cursor record asks unshut stands =>
    simp only [find?_setCursor] at live
    split at live
    · rename_i same
      exact .inl (by simp [same, stands])
    · exact .inl live
  | stopped operation other asked cursor asks unshut stands
  | placed other key cursor unshut stands =>
    rw [find?_setCursor] at live
    split at live
    · rename_i same
      exact .inl (by simp [same, stands])
    · exact .inl live
  | ended other unshut =>
    simp only [Table.find?_erase] at live
    split at live
    · exact absurd rfl live
    · exact .inl live
  | refused | opened | found | wrote | updated | erased | shown | saved => exact .inl live

end Steps

/-! ## Numbers in a history -/

section Numbers

variable {dataset : Dataset} {number : UInt64} {requests : List Request}

def starts (dataset : Dataset) (requests : List Request) : Nat :=
  (dataset.events requests).countP Event.isStart

/-- None of the browses that the requests start gets the number. -/
def Untaken (dataset : Dataset) (number : UInt64) (requests : List Request) : Prop :=
  ∀ event ∈ dataset.events requests, event.answer ≠ .ok (.started number)

theorem starts_append (dataset : Dataset) (first second : List Request) :
    dataset.starts (first ++ second)
      = dataset.starts first + (dataset.follow first).starts second := by
  simp only [starts, events_append, List.countP_append]

theorem starts_concat (dataset : Dataset) (early : List Request) (request : Request) :
    dataset.starts (early ++ [request])
      = dataset.starts early
        + if ((dataset.follow early).event request).isStart then 1 else 0 := by
  simp only [starts, events_concat, List.countP_append, List.countP_singleton]

theorem untaken_nil (dataset : Dataset) (number : UInt64) : dataset.Untaken number [] :=
  List.forall_mem_nil _

theorem untaken_append_iff (dataset : Dataset) (number : UInt64) (first second : List Request) :
    dataset.Untaken number (first ++ second) ↔
      dataset.Untaken number first ∧ (dataset.follow first).Untaken number second := by
  simp only [Untaken, events_append, List.forall_mem_append]

theorem untaken_concat_iff (dataset : Dataset) (number : UInt64) (early : List Request)
    (request : Request) :
    dataset.Untaken number (early ++ [request]) ↔
      dataset.Untaken number early ∧
        ((dataset.follow early).event request).answer ≠ .ok (.started number) := by
  simp only [Untaken, events_concat, List.forall_mem_append, List.forall_mem_singleton]

theorem nextCursor_event (dataset : Dataset) (request : Request) :
    ((dataset.event request).isStart = true ∧
        (dataset.event request).answer = .ok (.started dataset.nextCursor) ∧
        (dataset.event request).after.nextCursor = dataset.nextCursor + 1) ∨
      ((dataset.event request).isStart = false ∧
        (∀ number, (dataset.event request).answer ≠ .ok (.started number)) ∧
        (dataset.event request).after.nextCursor = dataset.nextCursor) :=
  (dataset.transition_event request).nextCursor_eq

theorem nextCursor_follow (dataset : Dataset) (requests : List Request) :
    (dataset.follow requests).nextCursor
      = dataset.nextCursor + UInt64.ofNat (dataset.starts requests) := by
  induction requests using List.reverseRecOn with
  | nil => exact (UInt64.add_zero _).symm
  | append_singleton early request ih =>
    rw [follow_concat, starts_concat]
    rcases (dataset.follow early).nextCursor_event request with
      ⟨isStart, _, raised⟩ | ⟨isStart, _, same⟩
    · rw [raised, ih, isStart, if_pos rfl, UInt64.ofNat_add, UInt64.add_assoc]
      rfl
    · rw [same, ih, isStart, if_neg Bool.false_ne_true, Nat.add_zero]

/-- The browses that a history starts get the numbers 1, 2, 3, ... -/
theorem answers_of_starts (definition : Definition) (location : Option String)
    (requests : List Request) :
    (((new definition location).events requests).filter Event.isStart).map Event.answer
      = (List.range' 1 ((new definition location).starts requests)).map
          (fun count => .ok (.started (UInt64.ofNat count))) := by
  induction requests using List.reverseRecOn with
  | nil => rfl
  | append_singleton early request ih =>
    rw [events_concat, starts_concat, List.filter_append, List.map_append, ih]
    rcases ((new definition location).follow early).nextCursor_event request with
      ⟨isStart, told, _⟩ | ⟨isStart, _, _⟩
    · have next : ((new definition location).follow early).nextCursor
          = UInt64.ofNat (1 + (new definition location).starts early) := by
        rw [nextCursor_follow, UInt64.ofNat_add]
        rfl
      rw [List.filter_cons_of_pos isStart, List.filter_nil, List.map_singleton, told, isStart,
        if_pos rfl, List.range'_concat, List.map_append, List.map_singleton, next, Nat.one_mul]
    · rw [List.filter_cons_of_neg (Bool.eq_false_iff.mp isStart), List.filter_nil, List.map_nil,
        List.append_nil, isStart, if_neg Bool.false_ne_true, Nat.add_zero]

theorem nodup_numbers {count : Nat} (few : count ≤ UInt64.size) :
    ((List.range' 1 count).map
      (fun count => (Except.ok (.started (UInt64.ofNat count)) : Except Fault Answer))).Nodup := by
  refine List.Nodup.map_on ?_ (List.nodup_range' ..)
  intro first member second also same
  have words : UInt64.ofNat first = UInt64.ofNat second := by
    simpa only [Except.ok.injEq, Answer.started.injEq] using same
  have residues := congrArg UInt64.toNat words
  rw [UInt64.toNat_ofNat', UInt64.toNat_ofNat'] at residues
  rw [List.mem_range'_1] at member also
  simp only [UInt64.size] at few
  omega

/-! ## Numbers that have been given -/

/-- A number that a history has given lies as far below the next one as browses have been started
since. -/
theorem exists_age_of_started {event : Event} (member : event ∈ dataset.events requests)
    (told : event.answer = .ok (.started number)) :
    ∃ age, 0 < age ∧ age ≤ dataset.starts requests ∧
      (dataset.follow requests).nextCursor = number + UInt64.ofNat age := by
  induction requests using List.reverseRecOn with
  | nil => cases member
  | append_singleton early request ih =>
    rw [events_concat, List.mem_append, List.mem_singleton] at member
    rw [follow_concat, starts_concat]
    rcases (dataset.follow early).nextCursor_event request with
      ⟨isStart, given, raised⟩ | ⟨isStart, untold, same⟩
    · rw [isStart, if_pos rfl, raised]
      rcases member with before | rfl
      · obtain ⟨age, _, within, apart⟩ := ih before
        refine ⟨age + 1, Nat.succ_pos age, Nat.succ_le_succ within, ?_⟩
        rw [apart, UInt64.ofNat_add, UInt64.add_assoc]
        rfl
      · rw [given] at told
        cases told
        exact ⟨1, Nat.one_pos, Nat.le_add_left _ _, rfl⟩
    · rw [isStart, if_neg Bool.false_ne_true, same]
      rcases member with before | rfl
      · exact ih before
      · exact absurd told (untold number)

/-- A number that lies so far below the next one is not given by fewer starts than there are words
left. -/
theorem untaken_of_age {age : Nat} (some : 0 < age)
    (apart : dataset.nextCursor = number + UInt64.ofNat age)
    (few : age + dataset.starts requests ≤ UInt64.size) : dataset.Untaken number requests := by
  induction requests using List.reverseRecOn with
  | nil => exact untaken_nil dataset number
  | append_singleton early request ih =>
    rw [starts_concat] at few
    rw [untaken_concat_iff]
    refine ⟨ih (by omega), ?_⟩
    intro told
    rcases (dataset.follow early).nextCursor_event request with
      ⟨isStart, given, _⟩ | ⟨_, untold, _⟩
    · rw [isStart, if_pos rfl] at few
      have next : number + UInt64.ofNat (age + dataset.starts early) = number := by
        rw [UInt64.ofNat_add, ← UInt64.add_assoc, ← apart, ← nextCursor_follow]
        rw [given] at told
        cases told
        rfl
      exact add_ofNat_ne_self number (by omega) (by omega) next
    · exact untold number told

/-- A number that has been given is not given again as long as no more browses are started in all
than there are words. -/
theorem untaken_of_starts_le {early late : List Request} {event : Event}
    (member : event ∈ dataset.events early) (told : event.answer = .ok (.started number))
    (few : dataset.starts (early ++ late) ≤ UInt64.size) :
    (dataset.follow early).Untaken number late := by
  obtain ⟨age, some, within, apart⟩ := exists_age_of_started member told
  rw [starts_append] at few
  exact untaken_of_age some apart (by omega)

theorem exists_started_of_live {definition : Definition} {location : Option String}
    (live : ((new definition location).follow requests).cursors.find? number ≠ none) :
    ∃ event ∈ (new definition location).events requests,
      event.answer = .ok (.started number) := by
  induction requests using List.reverseRecOn with
  | nil => simp [new] at live
  | append_singleton early request ih =>
    rw [follow_concat] at live
    rw [events_concat]
    rcases (((new definition location).follow early).transition_event request).live_or_started live
      with before | told
    · obtain ⟨event, member, told⟩ := ih before
      exact ⟨event, List.mem_append_left _ member, told⟩
    · exact ⟨_, List.mem_append_right _ List.mem_cons_self, told⟩

/-- Below as many starts as there are words, the number of a live cursor stays its own. -/
theorem untaken_of_live {definition : Definition} {location : Option String}
    {history : List Request} {cursor : Cursor}
    (live : ((new definition location).follow history).cursors.find? number = some cursor)
    (few : (new definition location).starts (history ++ requests) ≤ UInt64.size) :
    ((new definition location).follow history).Untaken number requests := by
  obtain ⟨event, member, told⟩ := exists_started_of_live (live ▸ Option.some_ne_none cursor)
  exact untaken_of_starts_le member told few

theorem toNat_nextCursor {definition : Definition} {location : Option String}
    (few : (new definition location).starts requests + 1 < UInt64.size) :
    ((new definition location).follow requests).nextCursor.toNat
      = (new definition location).starts requests + 1 := by
  rw [nextCursor_follow, UInt64.toNat_add, UInt64.toNat_ofNat_of_lt' (Nat.lt_of_succ_lt few)]
  change (1 + _) % _ = _
  rw [Nat.add_comm 1]
  exact Nat.mod_eq_of_lt few

theorem lt_nextCursor_of_live {definition : Definition} {location : Option String}
    {cursor : Cursor}
    (live : ((new definition location).follow requests).cursors.find? number = some cursor)
    (few : (new definition location).starts requests + 1 < UInt64.size) :
    number < ((new definition location).follow requests).nextCursor := by
  obtain ⟨event, member, told⟩ := exists_started_of_live (live ▸ Option.some_ne_none cursor)
  obtain ⟨age, some, within, apart⟩ := exists_age_of_started member told
  have next := toNat_nextCursor few
  have sum := congrArg UInt64.toNat apart
  rw [next, UInt64.toNat_add,
    UInt64.toNat_ofNat_of_lt' (Nat.lt_of_le_of_lt within (Nat.lt_of_succ_lt few))] at sum
  have small := number.toNat_lt
  rw [UInt64.lt_iff_toNat_lt, next]
  simp only [UInt64.size] at few
  omega

theorem find?_follow_of_untaken (gone : dataset.cursors.find? number = none)
    (untaken : dataset.Untaken number requests) :
    (dataset.follow requests).cursors.find? number = none := by
  induction requests using List.reverseRecOn with
  | nil => exact gone
  | append_singleton early request ih =>
    obtain ⟨before, untold⟩ := (untaken_concat_iff ..).mp untaken
    rw [follow_concat]
    by_contra revived
    rcases ((dataset.follow early).transition_event request).live_or_started revived with
      live | told
    · exact live (ih before)
    · exact untold told

end Numbers

end Dataset

end KeySequenced
