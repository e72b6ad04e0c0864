import KeySequenced.Proofs.Dataset.History
import KeySequenced.Proofs.Store.Loadable
import Mathlib.Data.List.Induction

/-!
# Stored records and their marks

Whatever has been requested, the records and the index of addresses map one to
one.  Writing gives a record its address but leaves the mark of an erasure on it
as it comes, and nothing but a load takes it away again: a record that has been
erased and is written as the erasure has returned it is stored as erased.
-/

set_option autoImplicit false

namespace KeySequenced

/-- The mark that a request has put on the record under a key: a write the mark of the record
that it stores, a load none. -/
def Event.mark? (event : Event) (key : Key) : Option Bool :=
  match event.operation, event.answer with
  | .write record, .ok _ => if record.key = key then some record.deleted else none
  | .load _, .ok _ => some false
  | _, _ => none

/-- The mark that the latest of the events to put one on a record has put there. -/
def lastMark (key : Key) (events : List Event) : Bool :=
  (events.reverse.findSome? fun event => event.mark? key).getD false

theorem lastMark_concat (key : Key) (events : List Event) (event : Event) :
    lastMark key (events ++ [event]) = (event.mark? key).getD (lastMark key events) := by
  simp only [lastMark, List.reverse_append, List.reverse_singleton, List.findSome?_append,
    List.findSome?_singleton]
  cases event.mark? key <;> rfl

theorem lastMark_eq_false {key : Key} {events : List Event}
    (clean : ∀ event ∈ events, event.mark? key ≠ some true) : lastMark key events = false := by
  unfold lastMark
  cases last : events.reverse.findSome? fun event => event.mark? key with
  | none => rfl
  | some mark =>
    obtain ⟨event, member, given⟩ := List.exists_of_findSome?_eq_some last
    cases mark with
    | false => rfl
    | true => exact absurd given (clean event (List.mem_reverse.mp member))

namespace Dataset

section Steps

variable {dataset after : Dataset} {volume : Volume} {operation : Operation}
  {answer : Except Fault Answer} {key : Key} {record : Record}

theorem mark?_of_asks {number : UInt64} {asked : Option Direction}
    (asks : operation.asks? = some (number, asked)) :
    (Event.mk operation answer after).mark? key = none := by
  cases operation <;> cases asks <;> rfl

theorem mark?_of_sought (sought : dataset.sought? operation = some record) :
    (Event.mk operation answer after).mark? key = none := by
  cases operation <;> first | rfl | cases sought

theorem mark?_error (operation : Operation) (fault : Fault) :
    (Event.mk operation (.error fault) after).mark? key = none := by
  cases operation <;> rfl

/-- A record that is there after a request has the mark that the request has put on it, or else
the one that it had before. -/
theorem Transition.deleted_after (transition : Transition dataset volume operation answer after)
    (found : after.store.find? key = some record) :
    (Event.mk operation answer after).mark? key = some record.deleted ∨
      (Event.mk operation answer after).mark? key = none ∧
        ∃ before, dataset.store.find? key = some before ∧ before.deleted = record.deleted := by
  cases transition with
  | refused operation fault => exact .inr ⟨mark?_error operation fault, record, found, rfl⟩
  | found operation other unshut sought => exact .inr ⟨mark?_of_sought sought, record, found, rfl⟩
  | stepped operation number asked cursor other asks =>
    exact .inr ⟨mark?_of_asks asks, record, found, rfl⟩
  | stopped operation number asked cursor asks =>
    exact .inr ⟨mark?_of_asks asks, record, found, rfl⟩
  | wrote written next fit absent room =>
    simp only [Event.mark?, eq_comm (a := written.key)]
    rw [Store.find?_put, Record.placedAt] at found
    split at found
    · rename_i same
      cases found
      exact .inl (if_pos same)
    · rename_i differ
      exact .inr ⟨if_neg differ, record, found, rfl⟩
  | updated other data stored fit stands =>
    rw [Store.find?_replace] at found
    split at found
    · rename_i same
      cases found
      exact .inr ⟨rfl, stored, same ▸ stands, rfl⟩
    · exact .inr ⟨rfl, record, found, rfl⟩
  | erased other stored unlocked stands =>
    rw [Store.find?_remove] at found
    split at found
    · cases found
    · exact .inr ⟨rfl, record, found, rfl⟩
  | loaded path snapshot store shut readable restored =>
    obtain ⟨member, _⟩ :=
      ((Store.restored_of_ofSnapshot restored).find?_eq_some_iff key record).mp found
    exact .inl (congrArg some (Snapshot.writable_of_load readable record member).2.symm)
  | opened | closed | started | ended | placed | shown | saved =>
    exact .inr ⟨rfl, record, found, rfl⟩

end Steps

section Runs

variable {definition : Definition} {location : Option String} {requests : List Request} {key : Key}
  {record : Record}

/-- The history of a dataset decides which of its records are marked. -/
theorem deleted_follow
    (found : ((new definition location).follow requests).store.find? key = some record) :
    record.deleted = lastMark key ((new definition location).events requests) := by
  induction requests using List.reverseRecOn generalizing record with
  | nil => simp [new, Store.find?, Store.empty] at found
  | append_singleton early request ih =>
    rw [follow_concat] at found
    rw [events_concat, lastMark_concat]
    rcases (((new definition location).follow early).transition_event request).deleted_after found
      with given | ⟨nothing, before, stood, same⟩
    · exact (congrArg (Option.getD · _) given).symm
    · rw [← same, ih stood]
      exact (congrArg (Option.getD · _) nothing).symm

theorem exists_request_of_mem_events {dataset : Dataset} {event : Event}
    (member : event ∈ dataset.events requests) :
    ∃ request ∈ requests, request.operation = event.operation := by
  induction requests generalizing dataset with
  | nil => cases member
  | cons request rest ih =>
    rcases List.mem_cons.mp member with rfl | later
    · exact ⟨request, List.mem_cons_self, rfl⟩
    · obtain ⟨other, member, same⟩ := ih later
      exact ⟨other, List.mem_cons_of_mem _ member, same⟩

theorem live_follow
    (clean : ∀ request ∈ requests, ∀ record, request.operation = .write record →
      record.deleted = false)
    (found : ((new definition location).follow requests).store.find? key = some record) :
    record.deleted = false := by
  rw [deleted_follow found]
  apply lastMark_eq_false
  intro event member given
  obtain ⟨request, requested, same⟩ := exists_request_of_mem_events member
  obtain ⟨operation, answer, after⟩ := event
  simp only [Event.mark?] at given same
  split at given
  · rename_i written _
    split at given
    · rw [clean request requested written same] at given
      cases given
    · cases given
  · cases given
  · cases given

end Runs

/-- After any requests the records and the index of addresses map one to one, all addresses are
below the next one, and every record stands under its own key within the definition.  It is marked
as erased exactly if it was so when it was written, so that no record is where none is written as
erased. -/
theorem records_match_index (definition : Definition) (location : Option String)
    (requests : List Request) :
    let store := ((new definition location).follow requests).store
    (∀ key record, store.find? key = some record →
      record.key = key ∧ key ≠ [] ∧ key.length ≤ definition.keyLength.toNat ∧
        record.data.length ≤ definition.recordLimit.toNat ∧
        record.deleted = lastMark key ((new definition location).events requests) ∧
        ∃ rba : UInt64, record.address = .rba rba ∧ rba < store.nextRba ∧
          rba.toNat < UInt64.size - 1 ∧
          ∀ place, store.index.find? place = some key ↔ place = rba) ∧
    (∀ rba key, store.index.find? rba = some key →
      rba < store.nextRba ∧ ∃ record, store.find? key = some record ∧ record.key = key ∧
        record.address = .rba rba) ∧
    ((∀ request ∈ requests, ∀ record, request.operation = .write record →
        record.deleted = false) →
      ∀ key record, store.find? key = some record → record.deleted = false) := by
  intro store
  have consistent : store.Consistent definition :=
    (sound_follow definition location requests).consistent
  refine ⟨?_, ?_, fun clean key record => live_follow clean⟩
  · intro key record found
    obtain ⟨same, fits⟩ := consistent.proper key record found
    obtain ⟨rba, address, index⟩ := consistent.addressed key record found
    obtain ⟨nonempty, short, small⟩ := (definition.refusal?_eq_none_iff _ _).mp fits
    have below := consistent.below rba key index
    refine ⟨same, nonempty, short, small, deleted_follow found, rba, address, below, ?_, ?_⟩
    · have top : store.nextRba.toNat < UInt64.size := store.nextRba.toNat_lt
      rw [UInt64.lt_iff_toNat_lt] at below
      omega
    · intro place
      constructor
      · intro indexed
        obtain ⟨other, stands, otherAddress⟩ := consistent.indexed place key indexed
        rw [found] at stands
        cases Option.some.inj stands
        rw [address] at otherAddress
        cases otherAddress
        rfl
      · rintro rfl
        exact index
  · intro rba key index
    obtain ⟨record, found, address⟩ := consistent.indexed rba key index
    exact ⟨consistent.below rba key index, record, found,
      (consistent.proper key record found).key_eq, address⟩

/-- One record comes from a file, the other one has been written, erased and written anew. -/
theorem live_after_load_and_erasure :
    let volume := Volume.empty.put ["S"] (.file (Snapshot.mk 0 [.live [1] [5] (.rba 3)]).encode)
    let requests : List Request := [.load "S", .openFor ⟨.inputOutput, .dynamic⟩,
      .write (.new [2] []), .erase [2], .write (.new [2] [6])].map
        fun operation => ⟨operation, volume⟩
    let store := ((new (.keyed "C" 4) none).follow requests).store
    (∀ request ∈ requests, ∀ record, request.operation = .write record →
        record.deleted = false) ∧
      store.toList = [.live [1] [5] (.rba 3), .live [2] [6] (.rba 6)] ∧
      ∀ key record, store.find? key = some record → record.deleted = false := by
  intro volume requests store
  have clean : ∀ request ∈ requests, ∀ record, request.operation = .write record →
      record.deleted = false := by
    simp [requests, Record.new, Record.live]
  exact ⟨clean, by decide +kernel,
    (records_match_index (.keyed "C" 4) none requests).2.2 clean⟩

/-- A record that has been erased is written as the erasure has returned it.  It is stored, and
still marked as erased. -/
theorem marked_after_writing_erased_record :
    let erased : Record := ⟨[75], [1], .rba 0, true⟩
    let requests : List Request := [.openFor ⟨.inputOutput, .dynamic⟩, .write (.new [75] [1]),
      .erase [75], .write erased, .read [75]].map fun operation => ⟨operation, .empty⟩
    (Definition.keyed "C" 4).defect? = none ∧
      ((new (.keyed "C" 4) none).events requests).map Event.answer = [.ok .done,
        .ok (.address (.rba 0)), .ok (.record erased), .ok (.address (.rba 2)),
        .ok (.record ⟨[75], [1], .rba 2, true⟩)] ∧
      ¬ ∀ key record, ((new (.keyed "C" 4) none).follow requests).store.find? key = some record →
        record.deleted = false := by
  intro erased requests
  refine ⟨by decide +kernel, by decide +kernel, ?_⟩
  intro clean
  have stored : ((new (.keyed "C" 4) none).follow requests).store.find? [75]
      = some ⟨[75], [1], .rba 2, true⟩ := by decide +kernel
  cases clean [75] _ stored

end Dataset

end KeySequenced
