import KeySequenced.Proofs.Dataset.History
import KeySequenced.Proofs.Store.Loadable
import KeySequenced.Proofs.Store.Space
import Mathlib.Data.List.Induction

/-!
# What the counters count

Six counters of a dataset count requests, each those of one kind that have
succeeded; two of them count the writes, and two the erasures.  A request moves
the counters of its kind by one, and only if it succeeds, so a counter tells the
successes in the whole history, up to its wrapping.

The number of records follows the history as well, from the latest load on: it
rises with each write and falls with each erasure.
-/

set_option autoImplicit false

namespace KeySequenced

/-- What requests are made for, as far as it shows in counters and in the number of records. -/
inductive Activity where
  | reading
  | writing
  | updating
  | erasing
  | loading
  deriving DecidableEq

def Operation.activity? : Operation → Option Activity
  | .read _ | .readGeneric _ | .readAt _ | .readNext _ | .readPrevious _ | .readBrowse _ =>
    some .reading
  | .write _ => some .writing
  | .update _ _ => some .updating
  | .erase _ => some .erasing
  | .load _ => some .loading
  | _ => none

/-- The activity in which a request succeeds with its answer. -/
def Operation.success? (operation : Operation) : Except Fault Answer → Option Activity
  | .ok _ => operation.activity?
  | .error _ => none

def Event.success? (event : Event) : Option Activity := event.operation.success? event.answer

def successes (activity : Activity) (events : List Event) : Nat :=
  events.countP fun event => event.success? = some activity

theorem successes_concat (activity : Activity) (events : List Event) (event : Event) :
    successes activity (events ++ [event])
      = successes activity events + if event.success? = some activity then 1 else 0 := by
  simp only [successes, List.countP_append, List.countP_singleton, decide_eq_true_eq]

/-! ## Counters of requests -/

inductive Counter where
  | reads
  | writes
  | inserts
  | updates
  | deletes
  | deletedRecords

/-- The activity of which a counter tells the successes. -/
def Counter.activity : Counter → Activity
  | .reads => .reading
  | .writes | .inserts => .writing
  | .updates => .updating
  | .deletes | .deletedRecords => .erasing

namespace Statistics

def counter (statistics : Statistics) : Counter → UInt64
  | .reads => statistics.reads
  | .writes => statistics.writes
  | .inserts => statistics.inserts
  | .updates => statistics.updates
  | .deletes => statistics.deletes
  | .deletedRecords => statistics.deletedRecords

/-- The counters after a request: those of its activity are one higher. -/
def Moved (before after : Statistics) (success? : Option Activity) : Prop :=
  ∀ counter : Counter, after.counter counter
    = before.counter counter + if success? = some counter.activity then 1 else 0

section Counters

variable (statistics : Statistics)

theorem counter_release (bytes : UInt64) (counter : Counter) :
    (statistics.release bytes).counter counter = statistics.counter counter := by
  cases counter <;> rfl

theorem counter_zero (counter : Counter) : zero.counter counter = 0 := by
  cases counter <;> rfl

theorem moved_none : statistics.Moved statistics none := by
  intro counter
  simp

theorem moved_countRead : statistics.Moved statistics.countRead (some .reading) := by
  intro counter
  cases counter <;> simp [Statistics.counter, countRead, Counter.activity]

theorem moved_countWrite (allocated bytes : UInt64) :
    statistics.Moved ((statistics.allocate allocated).countWrite bytes) (some .writing) := by
  intro counter
  cases counter <;> simp [Statistics.counter, countWrite, allocate, Counter.activity]

theorem moved_countUpdate (before after : UInt64) :
    statistics.Moved (statistics.countUpdate before after) (some .updating) := by
  intro counter
  unfold countUpdate
  simp only
  split
  · cases counter <;> simp [Statistics.counter, Counter.activity]
  · rw [counter_release]
    cases counter <;> simp [Statistics.counter, Counter.activity]

theorem moved_countDelete (bytes : UInt64) :
    statistics.Moved (statistics.countDelete bytes) (some .erasing) := by
  intro counter
  unfold countDelete
  rw [counter_release]
  cases counter <;> simp [Statistics.counter, Counter.activity]

theorem moved_resetSpace (used allocated : UInt64) :
    statistics.Moved (statistics.resetSpace used allocated) (some .loading) := by
  intro counter
  cases counter <;> simp [Statistics.counter, resetSpace, Counter.activity]

end Counters

end Statistics

namespace Dataset

section Steps

variable {dataset after : Dataset} {volume : Volume} {operation : Operation}
  {answer : Except Fault Answer}

theorem success?_of_sought {record : Record} (sought : dataset.sought? operation = some record)
    (result : Answer) : operation.success? (.ok result) = some .reading := by
  cases operation <;> first | rfl | cases sought

theorem success?_of_asks {number : UInt64} {asked : Option Direction}
    (asks : operation.asks? = some (number, asked)) (result : Answer) :
    operation.success? (.ok result) = some .reading := by
  cases operation <;> first | rfl | cases asks

/-- A request moves the counters of its activity, if it succeeds, and no others. -/
theorem Transition.moved (transition : Transition dataset volume operation answer after) :
    dataset.statistics.Moved after.statistics (operation.success? answer) := by
  cases transition with
  | refused | stopped => exact dataset.statistics.moved_none
  | found operation record unshut sought =>
    rw [success?_of_sought sought]
    exact dataset.statistics.moved_countRead
  | stepped operation number asked cursor record asks =>
    rw [success?_of_asks asks]
    exact dataset.statistics.moved_countRead
  | wrote => exact dataset.statistics.moved_countWrite _ _
  | updated => exact dataset.statistics.moved_countUpdate _ _
  | erased => exact dataset.statistics.moved_countDelete _
  | loaded => exact dataset.statistics.moved_resetSpace _ _
  | opened | closed | started | ended | placed | shown | saved =>
    exact dataset.statistics.moved_none

theorem moved_event (dataset : Dataset) (request : Request) :
    dataset.statistics.Moved (dataset.event request).after.statistics
      (dataset.event request).success? :=
  (dataset.transition_event request).moved

theorem counter_follow (dataset : Dataset) (requests : List Request) (counter : Counter) :
    (dataset.follow requests).statistics.counter counter
      = dataset.statistics.counter counter
        + UInt64.ofNat (successes counter.activity (dataset.events requests)) := by
  induction requests using List.reverseRecOn with
  | nil => simp [successes]
  | append_singleton early request ih =>
    rw [follow_concat, events_concat, successes_concat, (dataset.follow early).moved_event request,
      ih, UInt64.ofNat_add, UInt64.add_assoc]
    split <;> rfl

/-! ## The number of records -/

/-- Without a load, the number of records rises with a write and falls with an erasure. -/
theorem Transition.size_eq (transition : Transition dataset volume operation answer after)
    (unloaded : operation.success? answer ≠ some .loading) :
    after.size + (if operation.success? answer = some .erasing then 1 else 0)
      = dataset.size + if operation.success? answer = some .writing then 1 else 0 := by
  cases transition with
  | refused | stopped => rfl
  | found operation record unshut sought =>
    rw [success?_of_sought sought]
    rfl
  | stepped operation number asked cursor record asks =>
    rw [success?_of_asks asks]
    rfl
  | wrote record next fit absent room =>
    have free : dataset.store.find? (record.placedAt dataset.store.nextRba).key = none := absent
    exact Store.size_put free next
  | updated key data stored fit stands => exact Store.size_replace stands data
  | erased key stored unlocked stands => exact Store.size_remove stands
  | loaded => exact absurd rfl unloaded
  | opened | closed | started | ended | placed | shown | saved => rfl

/-- A load that has succeeded leaves as many records as the file holds. -/
theorem Transition.exists_snapshot
    (transition : Transition dataset volume operation answer after)
    (loading : operation.success? answer = some .loading) :
    ∃ path snapshot, operation = .load path ∧ answer = .ok .done ∧
      Snapshot.load path volume = .ok snapshot ∧ after.size = snapshot.records.length := by
  cases transition with
  | loaded path snapshot store shut readable restored =>
    exact ⟨path, snapshot, rfl, rfl, readable, Store.size_of_ofSnapshot restored⟩
  | found operation record unshut sought => cases loading.symm.trans (success?_of_sought sought _)
  | stepped operation number asked cursor record asks =>
    cases loading.symm.trans (success?_of_asks asks _)
  | _ => cases loading

end Steps

/-- There are as many records as have been placed at first and written since, less those erased
since; nothing has been loaded since. -/
structure Balanced (placed : Nat) (since : List Event) (size : Nat) : Prop where
  unloaded : successes .loading since = 0
  size_eq : size + successes .erasing since = placed + successes .writing since

theorem balanced_nil (size : Nat) : Balanced size [] size := ⟨rfl, rfl⟩

theorem Balanced.concat {placed : Nat} {since : List Event} {dataset : Dataset}
    (balanced : Balanced placed since dataset.size) (request : Request)
    (unloaded : (dataset.event request).success? ≠ some .loading) :
    Balanced placed (since ++ [dataset.event request]) (dataset.event request).after.size := by
  have moved : (dataset.event request).after.size
        + (if (dataset.event request).success? = some .erasing then 1 else 0)
      = dataset.size + if (dataset.event request).success? = some .writing then 1 else 0 :=
    (dataset.transition_event request).size_eq unloaded
  have before := balanced.size_eq
  refine ⟨?_, ?_⟩
  · rw [successes_concat, balanced.unloaded, if_neg unloaded]
  · rw [successes_concat, successes_concat]
    omega

/-- The records are those of the latest load, if there is one, with those written since and without
those erased since. -/
theorem balanced_follow (definition : Definition) (location : Option String)
    (requests : List Request) :
    let start := new definition location
    Balanced 0 (start.events requests) (start.follow requests).size ∨
    ∃ early path volume late snapshot, requests = early ++ ⟨.load path, volume⟩ :: late ∧
      ((start.follow early).event ⟨.load path, volume⟩).answer = .ok .done ∧
      Snapshot.load path volume = .ok snapshot ∧
      Balanced snapshot.records.length
        ((start.follow (early ++ [⟨.load path, volume⟩])).events late)
        (start.follow requests).size := by
  intro start
  induction requests using List.reverseRecOn with
  | nil => exact .inl (balanced_nil 0)
  | append_singleton early request ih =>
    by_cases loading : ((start.follow early).event request).success? = some .loading
    · obtain ⟨path, snapshot, same, done, readable, placed⟩ :=
        ((start.follow early).transition_event request).exists_snapshot loading
      obtain ⟨_, volume⟩ := request
      cases same
      refine .inr ⟨early, path, volume, [], snapshot, rfl, done, readable, ?_⟩
      rw [follow_concat, ← placed]
      exact balanced_nil _
    · rcases ih with balanced | ⟨first, path, volume, late, snapshot, rfl, done, readable, balanced⟩
      · rw [events_concat, follow_concat]
        exact .inl (balanced.concat request loading)
      · refine .inr ⟨first, path, volume, late ++ [request], snapshot, by simp, done, readable, ?_⟩
        have same := start.follow_append_cons first late ⟨.load path, volume⟩
        rw [same] at balanced loading
        rw [events_concat, follow_concat start (first ++ _ :: late), same]
        exact balanced.concat request loading

/-- Modulo the size of a word, each counter tells how many requests of its kind have succeeded, and
no other request moves it.  There are as many records as the latest load that has succeeded has
placed, if there is one, and as have been written since, less those erased since. -/
theorem counters_of_history (definition : Definition) (location : Option String)
    (requests : List Request) :
    let start := new definition location
    let dataset := start.follow requests
    let events := start.events requests
    (∀ counter : Counter, (dataset.statistics.counter counter).toNat
      = successes counter.activity events % UInt64.size) ∧
    (∀ (counter : Counter) (request : Request),
      (dataset.event request).success? ≠ some counter.activity →
        (dataset.event request).after.statistics.counter counter
          = dataset.statistics.counter counter) ∧
    ((successes .loading events = 0 ∧
        dataset.size + successes .erasing events = successes .writing events) ∨
      ∃ early path volume late snapshot, requests = early ++ ⟨.load path, volume⟩ :: late ∧
        ((start.follow early).event ⟨.load path, volume⟩).answer = .ok .done ∧
        Snapshot.load path volume = .ok snapshot ∧
        let since := (start.follow (early ++ [⟨.load path, volume⟩])).events late
        successes .loading since = 0 ∧
          dataset.size + successes .erasing since
            = snapshot.records.length + successes .writing since) := by
  intro start dataset events
  refine ⟨?_, ?_, ?_⟩
  · intro counter
    rw [counter_follow, show start.statistics.counter counter = 0 from Statistics.counter_zero _,
      UInt64.zero_add]
    exact UInt64.toNat_ofNat'
  · intro counter request other
    rw [dataset.moved_event request, if_neg other, UInt64.add_zero]
  · rcases balanced_follow definition location requests with
      balanced | ⟨early, path, volume, late, snapshot, split, done, readable, balanced⟩
    · exact .inl ⟨balanced.unloaded, balanced.size_eq.trans (Nat.zero_add _)⟩
    · exact .inr ⟨early, path, volume, late, snapshot, split, done, readable, balanced.unloaded,
        balanced.size_eq⟩

end Dataset

end KeySequenced
