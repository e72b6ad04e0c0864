import KeySequenced.Proofs.Dataset.Restarts

/-!
# What changes the contents

The records, the index of addresses and the next address change by a write, an
update or an erasure that succeeds while the dataset is open for more than
input, by a load that succeeds while it is closed, and by nothing else.  In a
session for input they therefore stay as they were before it, and closing saves
them so.
-/

set_option autoImplicit false

namespace KeySequenced

/-- The requests that are made to change the contents. -/
def Operation.Alters : Operation → Prop
  | .write _ | .update _ _ | .erase _ | .load _ => True
  | _ => False

namespace Dataset

/-- The dataset is in a state in which the request may change the contents. -/
def Admits (dataset : Dataset) : Operation → Prop
  | .write _ | .update _ _ | .erase _ =>
    ∃ session, dataset.session = some session ∧ session.access ≠ .input
  | .load _ => dataset.session = none
  | _ => False

section Steps

variable {dataset after : Dataset} {volume : Volume} {operation : Operation}
  {answer : Except Fault Answer} {session : Session}

theorem not_alters_of_asks {number : UInt64} {asked : Option Direction}
    (asks : operation.asks? = some (number, asked)) : ¬ operation.Alters := by
  cases operation <;> first | exact id | cases asks

theorem not_alters_of_sought {record : Record}
    (sought : dataset.sought? operation = some record) : ¬ operation.Alters := by
  cases operation <;> first | exact id | cases sought

theorem exists_output_of_locked? {request : OutputRequest}
    (unlocked : dataset.locked? request = none) :
    ∃ session, dataset.session = some session ∧ session.access ≠ .input := by
  obtain ⟨session, seated, output⟩ := (locked?_eq_none_iff ..).mp unlocked
  refine ⟨session, seated, ?_⟩
  intro input
  rw [input] at output
  cases output

/-- A request to change the contents succeeds only where the dataset admits it. -/
theorem Transition.admits (transition : Transition dataset volume operation answer after)
    (alters : operation.Alters) {result : Answer} (success : answer = .ok result) :
    dataset.Admits operation := by
  cases transition with
  | refused => cases success
  | found _ _ _ sought => exact absurd alters (not_alters_of_sought sought)
  | wrote _ _ fit => exact exists_output_of_locked? ((unfit?_eq_none_iff ..).mp fit).1
  | updated _ _ _ fit => exact exists_output_of_locked? ((unfit?_eq_none_iff ..).mp fit).1
  | erased _ _ unlocked => exact exists_output_of_locked? unlocked
  | loaded _ _ _ shut => exact shut
  | stepped _ _ _ _ _ asks | stopped _ _ _ _ asks =>
    exact absurd alters (not_alters_of_asks asks)
  | _ => exact alters.elim

theorem Transition.store_eq (transition : Transition dataset volume operation answer after)
    (idle : ∀ result, operation.Alters → answer ≠ .ok result) : after.store = dataset.store := by
  cases transition with
  | wrote | updated | erased | loaded => exact absurd rfl (idle _ trivial)
  | _ => rfl

theorem Transition.session_eq (transition : Transition dataset volume operation answer after)
    (seated : dataset.session = some session) (unclosed : operation ≠ .close) :
    after.session = some session := by
  cases transition with
  | closed => exact absurd rfl unclosed
  | opened _ shut =>
    rw [seated] at shut
    cases shut
  | _ => exact seated

/-- The contents change only by a request that the dataset admits. -/
theorem admits_of_store_ne {request : Request}
    (changed : (dataset.event request).after.store ≠ dataset.store) :
    dataset.Admits request.operation ∧ ∃ result, (dataset.event request).answer = .ok result := by
  have transition := dataset.transition_event request
  by_contra kept
  refine changed (transition.store_eq ?_)
  intro result alters success
  exact kept ⟨transition.admits alters success, result, success⟩

end Steps

/-! ## Sessions for input -/

/-- The dataset is in a session for input that was opened on the dataset `start`, and still has its
contents. -/
structure ReadOnly (start : Dataset) (processing : ProcessingMode) (dataset : Dataset) :
    Prop where
  session_eq : dataset.session = some ⟨.input, processing⟩
  store_eq : dataset.store = start.store
  location_eq : dataset.location = start.location

section Sessions

variable {start dataset : Dataset} {processing : ProcessingMode}

theorem readOnly_opened (shut : start.isOpen = false) (processing : ProcessingMode)
    (volume : Volume) :
    let opening := start.event ⟨.openFor ⟨.input, processing⟩, volume⟩
    opening.answer = .ok .done ∧ ReadOnly start processing opening.after := by
  have unseated : start.session = none := by simpa [isOpen] using shut
  have opened : start.openFor ⟨.input, processing⟩
      = (.ok (), { start with session := some ⟨.input, processing⟩ }) := by
    simp only [openFor, unseated]
  simp only [event, perform, opened]
  exact ⟨rfl, rfl, rfl, rfl⟩

theorem ReadOnly.not_admits (readOnly : ReadOnly start processing dataset)
    (operation : Operation) : ¬ dataset.Admits operation := by
  have input : ¬ ∃ session, dataset.session = some session ∧ session.access ≠ .input := by
    rintro ⟨session, seated, output⟩
    rw [readOnly.session_eq] at seated
    cases seated
    exact output rfl
  cases operation with
  | write | update | erase => exact input
  | load path =>
    intro shut
    have unseated : dataset.session = none := shut
    rw [readOnly.session_eq] at unseated
    cases unseated
  | _ => exact id

theorem ReadOnly.failed (readOnly : ReadOnly start processing dataset) (request : Request)
    (alters : request.operation.Alters) :
    ∃ fault, (dataset.event request).answer = .error fault := by
  cases answered : (dataset.event request).answer with
  | error fault => exact ⟨fault, rfl⟩
  | ok result =>
    have admits := (dataset.transition_event request).admits alters answered
    exact absurd admits (readOnly.not_admits _)

theorem ReadOnly.next (readOnly : ReadOnly start processing dataset) {request : Request}
    (unclosed : request.operation ≠ .close) :
    ReadOnly start processing (dataset.event request).after := by
  have transition := dataset.transition_event request
  refine ⟨transition.session_eq readOnly.session_eq unclosed, ?_,
    transition.location_eq.trans readOnly.location_eq⟩
  by_contra changed
  rw [← readOnly.store_eq] at changed
  exact readOnly.not_admits _ (admits_of_store_ne changed).1

/-- Until it is closed, a session for input stays one, and all requests to change the contents
fail. -/
theorem ReadOnly.follow (readOnly : ReadOnly start processing dataset) (requests : List Request)
    (unclosed : ∀ request ∈ requests, request.operation ≠ .close) :
    ReadOnly start processing (dataset.follow requests) ∧
      ∀ event ∈ dataset.events requests, event.operation.Alters →
        ∃ fault, event.answer = .error fault := by
  induction requests generalizing dataset with
  | nil => exact ⟨readOnly, fun event member => absurd member List.not_mem_nil⟩
  | cons request rest ih =>
    have next := readOnly.next (unclosed request List.mem_cons_self)
    obtain ⟨last, failing⟩ :=
      ih next fun other member => unclosed other (List.mem_cons_of_mem _ member)
    refine ⟨last, ?_⟩
    intro event member alters
    rcases List.mem_cons.mp member with rfl | later
    · exact readOnly.failed request alters
    · exact failing event later alters

end Sessions

/-- In a session for input every request to change the contents fails, the contents stay, and a
close saves what was there before the session.  In general the contents change only by a write, an
update or an erasure that succeeds in a session for more than input, or by a load that succeeds
while the dataset is closed. -/
theorem unchanged_while_read_only (dataset : Dataset) (shut : dataset.isOpen = false)
    (processing : ProcessingMode) (volume : Volume) (requests : List Request)
    (unclosed : ∀ request ∈ requests, request.operation ≠ .close) :
    let opening := dataset.event ⟨.openFor ⟨.input, processing⟩, volume⟩
    let after := opening.after.follow requests
    opening.answer = .ok .done ∧
    (∀ event ∈ opening.after.events requests, event.operation.Alters →
      ∃ fault, event.answer = .error fault) ∧
    after.store.records = dataset.store.records ∧ after.store.index = dataset.store.index ∧
    after.store.nextRba = dataset.store.nextRba ∧
    (∀ path beside, dataset.location = some path → (after.close beside).1 = .ok () →
      (after.close beside).2.2.read path = .ok dataset.store.toSnapshot.encode) ∧
    ∀ (start : Dataset) (early : List Request) (request : Request),
      let before := start.follow early
      let event := before.event request
      event.after.store.records ≠ before.store.records ∨
          event.after.store.index ≠ before.store.index ∨
          event.after.store.nextRba ≠ before.store.nextRba →
        before.Admits request.operation ∧ ∃ result, event.answer = .ok result := by
  intro opening after
  obtain ⟨opened, begun⟩ := readOnly_opened shut processing volume
  obtain ⟨readOnly, failing⟩ := begun.follow requests unclosed
  have kept : after.store = dataset.store := readOnly.store_eq
  refine ⟨opened, failing, congrArg Store.records kept, congrArg Store.index kept,
    congrArg Store.nextRba kept, ?_, ?_⟩
  · intro path beside located closed
    rw [← kept]
    exact (read_of_close (readOnly.location_eq.trans located) closed).2
  · intro start early request before event changed
    apply admits_of_store_ne
    intro same
    have whole : event.after.store = before.store := same
    rw [whole] at changed
    simp at changed

/-- Two records are written in a first session; the second one, for input, tries to change them in
every way, opens the dataset again and browses it, and is closed onto the file of the first. -/
theorem saved_after_read_only_session :
    let beside : List Operation → List Request := List.map fun operation => ⟨operation, .empty⟩
    let dataset := (new (.keyed "C" 4) (some "S")).follow (beside [.openFor ⟨.extend, .random⟩,
      .write (.new [1] [5]), .write (.new [2] []), .update [1] [6, 7], .close])
    let requests := beside [.write (.new [3] []), .update [1] [], .read [1],
      .startBrowse [1] true .forward, .readNext 1, .openFor ⟨.inputOutput, .dynamic⟩, .erase [2],
      .load "S", .save "T"]
    let opening := dataset.event ⟨.openFor ⟨.input, .sequential⟩, .empty⟩
    let after := opening.after.follow requests
    dataset.isOpen = false ∧ (∀ request ∈ requests, request.operation ≠ .close) ∧
      opening.answer = .ok .done ∧ dataset.store.nextRba = 3 ∧ after.store.nextRba = 3 ∧
      (∀ event ∈ opening.after.events requests, event.operation.Alters →
        ∃ fault, event.answer = .error fault) ∧
      (after.close .empty).1 = .ok () ∧
      (after.close .empty).2.2.read "S" = .ok dataset.store.toSnapshot.encode := by
  intro beside dataset requests opening after
  have shut : dataset.isOpen = false := by decide +kernel
  have unclosed : ∀ request ∈ requests, request.operation ≠ .close := by simp [requests, beside]
  have next : dataset.store.nextRba = 3 := by decide +kernel
  have closed : (after.close .empty).1 = .ok () := by decide +kernel
  have located : dataset.location = some "S" := by decide +kernel
  obtain ⟨opened, failing, _, _, kept, saved, _⟩ :=
    unchanged_while_read_only dataset shut .sequential .empty requests unclosed
  -- By reducible terms only, lest the histories be evaluated to compare the projections.
  with_reducible exact ⟨shut, unclosed, opened, next, kept.trans next, failing, closed,
    saved "S" .empty located closed⟩

end Dataset

end KeySequenced
