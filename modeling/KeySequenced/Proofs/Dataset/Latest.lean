import KeySequenced.Proofs.Dataset.Marks

/-!
# What a history says of a key

Without a load, the requests that have succeeded decide which records are
stored: a key is stored when the latest write or erasure of it was a write, its
payload is the one of the latest write or update, and its address the one of
the latest write.  Reads, writes, updates and erasures answer accordingly.
-/

set_option autoImplicit false

namespace KeySequenced

/-- What a request has done to the record under a key. -/
inductive Change where
  | wrote (record : Record)
  | updated (data : Bytes)
  | erased

namespace Change

/-- Whether a write or an erasure leaves the record standing. -/
def stands? : Change → Option Bool
  | .wrote _ => some true
  | .updated _ => none
  | .erased => some false

def data? : Change → Option Bytes
  | .wrote record => some record.data
  | .updated data => some data
  | .erased => none

def address? : Change → Option Address
  | .wrote record => some record.address
  | _ => none

def apply (before : Option Record) : Change → Option Record
  | .wrote record => some record
  | .updated data => before.map fun record => { record with data := data }
  | .erased => none

end Change

/-- What the request has done to the record under a key, if it is one that succeeded. -/
def Event.change? (event : Event) (key : Key) : Option Change :=
  match event.operation, event.answer with
  | .write record, .ok (.address address) =>
    if record.key = key then some (.wrote { record with address := address }) else none
  | .update other data, .ok _ => if other = key then some (.updated data) else none
  | .erase other, .ok _ => if other = key then some .erased else none
  | _, _ => none

/-- What the latest of the events that tell something of a key tells. -/
def latest? {α : Type} (tells : Change → Option α) (key : Key) (events : List Event) : Option α :=
  events.reverse.findSome? fun event => (event.change? key).bind tells

theorem latest?_nil {α : Type} (tells : Change → Option α) (key : Key) :
    latest? tells key [] = none := rfl

theorem latest?_concat {α : Type} (tells : Change → Option α) (key : Key) (events : List Event)
    (event : Event) :
    latest? tells key (events ++ [event])
      = ((event.change? key).bind tells).or (latest? tells key events) := by
  simp only [latest?, List.reverse_append, List.reverse_singleton, List.findSome?_append,
    List.findSome?_singleton]

namespace Dataset

/-! ## The records that a history leaves -/

section Changes

variable {dataset after : Dataset} {volume : Volume} {operation : Operation}
  {answer : Except Fault Answer}

theorem change?_of_asks (key : Key) {number : UInt64} {asked : Option Direction}
    (asks : operation.asks? = some (number, asked)) :
    (Event.mk operation answer after).change? key = none := by
  cases operation <;> cases asks <;> rfl

theorem change?_of_sought (key : Key) {record : Record}
    (sought : dataset.sought? operation = some record) :
    (Event.mk operation answer after).change? key = none := by
  cases operation <;> first | rfl | cases sought

/-- A request other than a load changes the records as its event tells, and no other way. -/
theorem Transition.find?_after (transition : Transition dataset volume operation answer after)
    (unloaded : ∀ path, operation ≠ .load path) (key : Key) :
    after.store.find? key =
      match (Event.mk operation answer after).change? key with
      | none => dataset.store.find? key
      | some change => change.apply (dataset.store.find? key) := by
  cases transition with
  | refused operation fault =>
    have nothing : (Event.mk operation (.error fault) dataset).change? key = none := by
      cases operation <;> rfl
    rw [nothing]
  | found operation record unshut sought => rw [change?_of_sought key sought]
  | stepped operation number asked cursor record asks =>
    rw [change?_of_asks key asks]
    rfl
  | stopped operation number asked cursor asks =>
    rw [change?_of_asks key asks]
    rfl
  | wrote record next fit absent room =>
    simp only [Event.change?, Store.find?_put, Record.placedAt, eq_comm (a := record.key)]
    split <;> rfl
  | updated other data stored fit stands =>
    simp only [Event.change?, Store.find?_replace, eq_comm (a := other)]
    split
    · rename_i same
      rw [same, stands]
      rfl
    · rfl
  | erased other stored unlocked stands =>
    simp only [Event.change?, Store.find?_remove, eq_comm (a := other)]
    split <;> rfl
  | loaded path => exact absurd rfl (unloaded path)
  | opened | closed | started | ended | placed | shown | saved => rfl

end Changes

/-- The record found under a key is the one that events tell of. -/
structure Told (events : List Event) (key : Key) (found : Option Record) : Prop where
  stands : latest? Change.stands? key events = some true ↔ found ≠ none
  record : ∀ record, found = some record →
    latest? Change.data? key events = some record.data ∧
      latest? Change.address? key events = some record.address

theorem Told.concat {events : List Event} {key : Key} {found : Option Record}
    (told : Told events key found) (event : Event) :
    Told (events ++ [event]) key
      (match event.change? key with
        | none => found
        | some change => change.apply found) := by
  cases changed : event.change? key with
  | none =>
    refine ⟨?_, ?_⟩
    · simpa [latest?_concat, changed] using told.stands
    · simpa [latest?_concat, changed] using told.record
  | some change =>
    cases change with
    | wrote record =>
      refine ⟨by simp [latest?_concat, changed, Change.stands?, Change.apply], ?_⟩
      intro record same
      cases same
      exact ⟨by simp [latest?_concat, changed, Change.data?],
        by simp [latest?_concat, changed, Change.address?]⟩
    | updated data =>
      refine ⟨?_, ?_⟩
      · have before := told.stands
        simpa [latest?_concat, changed, Change.stands?, Change.apply] using before
      · intro record same
        simp only [Change.apply, Option.map_eq_some_iff] at same
        obtain ⟨old, stood, rfl⟩ := same
        exact ⟨by simp [latest?_concat, changed, Change.data?],
          by simpa [latest?_concat, changed, Change.address?] using (told.record old stood).2⟩
    | erased =>
      refine ⟨by simp [latest?_concat, changed, Change.stands?, Change.apply], ?_⟩
      intro record same
      cases same

theorem told_follow (definition : Definition) (location : Option String)
    (requests : List Request)
    (unloaded : ∀ request ∈ requests, ∀ path, request.operation ≠ .load path) (key : Key) :
    Told ((new definition location).events requests) key
      (((new definition location).follow requests).store.find? key) := by
  induction requests using List.reverseRecOn with
  | nil =>
    refine ⟨?_, ?_⟩
    · simp [latest?_nil, new, Store.find?, Store.empty]
    · intro record found
      simp [new, Store.find?, Store.empty] at found
  | append_singleton requests request ih =>
    have told := ih fun other member => unloaded other (List.mem_append_left _ member)
    have transition := ((new definition location).follow requests).transition_event request
    rw [events_concat, follow_concat, transition.find?_after
      (unloaded request (List.mem_append_right _ List.mem_cons_self)) key]
    exact told.concat _

/-! ## Answers -/

/-- A record is stored under the key. -/
def Stores (dataset : Dataset) (key : Key) : Prop := dataset.store.find? key ≠ none

instance (dataset : Dataset) (key : Key) : Decidable (dataset.Stores key) :=
  inferInstanceAs (Decidable (dataset.store.find? key ≠ none))

section Answers

variable {definition : Definition} {dataset : Dataset} {session : Session}

theorem answerRead_eq_ok_iff (dataset : Dataset) (found : Option Record) (otherwise : Fault)
    (record : Record) :
    (dataset.answerRead found otherwise).1 = .ok record ↔
      dataset.closed? = none ∧ found = some record := by
  unfold answerRead
  cases dataset.closed? <;> cases found <;> simp

/-- What is found at an address is the record that lies there, found under its key. -/
theorem Sound.readAt_eq_ok_iff (sound : Sound definition dataset) (rba : UInt64)
    (record : Record) :
    (dataset.readAt rba).1 = .ok record ↔
      (dataset.read record.key).1 = .ok record ∧ record.address = .rba rba := by
  simp only [readAt, read, answerRead_eq_ok_iff, Store.findAt?, Option.bind_eq_some_iff]
  constructor
  · rintro ⟨unshut, key, index, found⟩
    obtain ⟨other, stands, address⟩ := sound.consistent.indexed rba key index
    have same := Option.some.inj (found.symm.trans stands)
    rw [(sound.consistent.proper key record found).key_eq, same]
    exact ⟨⟨unshut, same ▸ found⟩, address⟩
  · rintro ⟨⟨unshut, found⟩, address⟩
    obtain ⟨place, same, index⟩ := sound.consistent.addressed record.key record found
    rw [address] at same
    cases same
    exact ⟨unshut, record.key, index, found⟩

theorem unfit?_of_output (request : OutputRequest) {key : Key} {data : Bytes}
    (seated : dataset.session = some session) (output : session.access.allowsOutput = true)
    (fits : dataset.definition.refusal? key data = none) :
    dataset.unfit? request key data = none :=
  (unfit?_eq_none_iff ..).mpr ⟨(locked?_eq_none_iff ..).mpr ⟨session, seated, output⟩, fits⟩

/-- The three answers to writing an acceptable record. -/
theorem write_fst_of_fit (dataset : Dataset) {record : Record}
    (fit : dataset.unfit? .write record.key record.data = none) :
    (dataset.write record).1 =
      if dataset.Stores record.key then .error (.duplicateKey (Key.display record.key))
      else if dataset.store.nextRba.toNat + record.storedLength < UInt64.size then
        .ok (.rba dataset.store.nextRba)
      else .error (.refused .addressSpaceExhausted) := by
  unfold write
  rw [fit]
  by_cases taken : dataset.store.records.contains record.key = true
  · have stores : dataset.Stores record.key := by
      obtain ⟨record, found⟩ := (Table.contains_iff _ _).mp taken
      simp [Stores, Store.find?, found]
    simp [taken, stores]
  · have absent : ¬ dataset.Stores record.key := by
      have free := (Table.contains_eq_false_iff _ _).mp (Bool.not_eq_true _ ▸ taken)
      simp [Stores, Store.find?, free]
    by_cases room : dataset.store.nextRba.toNat + record.storedLength < UInt64.size <;>
      simp [taken, absent, Store.endOf?, room]

theorem update_eq_ok_iff (dataset : Dataset) {key : Key} {data : Bytes}
    (fit : dataset.unfit? .update key data = none) :
    (dataset.update key data).1 = .ok () ↔ dataset.Stores key := by
  unfold update Stores Store.find?
  cases dataset.store.records.find? key <;> simp [fit]

theorem erase_eq_ok_iff (dataset : Dataset) {key : Key} (unlocked : dataset.locked? .delete = none) :
    (∃ record, (dataset.erase key).1 = .ok record) ↔ dataset.Stores key := by
  unfold erase Stores Store.find?
  cases dataset.store.records.find? key <;> simp [unlocked]

end Answers

/-- Without a load, the history decides what is stored and how single records are read and
changed. -/
theorem answers_of_history (definition : Definition) (location : Option String)
    (requests : List Request)
    (unloaded : ∀ request ∈ requests, ∀ path, request.operation ≠ .load path) (key : Key) :
    let dataset := (new definition location).follow requests
    let events := (new definition location).events requests
    (dataset.Stores key ↔ latest? Change.stands? key events = some true) ∧
    (dataset.isOpen = true → dataset.Stores key →
      ∃ data address, latest? Change.data? key events = some data ∧
        latest? Change.address? key events = some address ∧
        (dataset.read key).1 = .ok ⟨key, data, address, lastMark key events⟩) ∧
    (dataset.isOpen = true → ¬ dataset.Stores key →
      (dataset.read key).1 = .error (.recordNotFound (Key.display key))) ∧
    (∀ rba record, (dataset.readAt rba).1 = .ok record ↔
      (dataset.read record.key).1 = .ok record ∧ record.address = .rba rba) ∧
    ∀ session, dataset.session = some session → session.access.allowsOutput = true →
      (∀ record : Record, record.key = key → definition.refusal? key record.data = none →
        ((dataset.write record).1 = .error (.duplicateKey (Key.display key)) ↔
          dataset.Stores key) ∧
        (¬ dataset.Stores key →
          (dataset.write record).1 =
            if dataset.store.nextRba.toNat + key.length + record.data.length < UInt64.size then
              .ok (.rba dataset.store.nextRba)
            else .error (.refused .addressSpaceExhausted)) ∧
        ((dataset.update key record.data).1 = .ok () ↔ dataset.Stores key)) ∧
      ((∃ record, (dataset.erase key).1 = .ok record) ↔ dataset.Stores key) := by
  intro dataset events
  have sound : Sound definition dataset := sound_follow definition location requests
  have told : Told events key (dataset.store.find? key) :=
    told_follow definition location requests unloaded key
  refine ⟨told.stands.symm, ?_, ?_, sound.readAt_eq_ok_iff, ?_⟩
  · intro opened stores
    obtain ⟨session, seated⟩ := Option.isSome_iff_exists.mp opened
    obtain ⟨record, found⟩ := Option.ne_none_iff_exists'.mp stores
    obtain ⟨payload, placed⟩ := told.record record found
    refine ⟨record.data, record.address, payload, placed, ?_⟩
    have mark : record.deleted = lastMark key events := deleted_follow found
    have form : record = ⟨key, record.data, record.address, lastMark key events⟩ := by
      rw [← mark, ← (sound.consistent.proper key record found).key_eq]
    rw [← form]
    exact (answerRead_eq_ok_iff ..).mpr ⟨(closed?_eq_none_iff _).mpr ⟨session, seated⟩, found⟩
  · intro opened absent
    obtain ⟨session, seated⟩ := Option.isSome_iff_exists.mp opened
    have unshut := (closed?_eq_none_iff _).mpr ⟨session, seated⟩
    simp only [read, answerRead, unshut, Decidable.not_not.mp absent]
  · intro session seated output
    refine ⟨?_, erase_eq_ok_iff dataset ((locked?_eq_none_iff ..).mpr ⟨session, seated, output⟩)⟩
    rintro record rfl fits
    rw [← sound.definition_eq] at fits
    have answers := write_fst_of_fit dataset (unfit?_of_output .write seated output fits)
    refine ⟨?_, ?_, update_eq_ok_iff dataset (unfit?_of_output .update seated output fits)⟩
    · rw [answers]
      constructor
      · intro duplicate
        by_contra absent
        rw [if_neg absent] at duplicate
        split at duplicate <;> cases duplicate
      · intro stores
        rw [if_pos stores]
    · intro absent
      rw [answers, if_neg absent, Record.storedLength, Nat.add_assoc]

/-- A record that has been updated is read with its new payload and its old address after a
failed erasure, a close and a further opening. -/
theorem read_after_update_and_close :
    let session : Session := ⟨.inputOutput, .dynamic⟩
    let requests : List Request :=
      [.openFor session, .write (.new [1] [10]), .update [1] [20, 21], .erase [2], .close,
        .openFor session].map fun operation => ⟨operation, .empty⟩
    (∀ request ∈ requests, ∀ path, request.operation ≠ .load path) ∧
      (((new (.keyed "C" 4) none).follow requests).read [1]).1
        = .ok (.live [1] [20, 21] (.rba 0)) := by
  intro session requests
  have unloaded : ∀ request ∈ requests, ∀ path, request.operation ≠ .load path := by
    simp [requests]
  obtain ⟨stores, reads, _⟩ := answers_of_history (.keyed "C" 4) none requests unloaded [1]
  obtain ⟨data, address, payload, placed, answer⟩ :=
    reads (by decide +kernel) (stores.mpr (by decide +kernel))
  have lastPayload : latest? Change.data? [1] ((new (.keyed "C" 4) none).events requests)
      = some [20, 21] := by decide +kernel
  have lastAddress : latest? Change.address? [1] ((new (.keyed "C" 4) none).events requests)
      = some (.rba 0) := by decide +kernel
  have unmarked : lastMark [1] ((new (.keyed "C" 4) none).events requests) = false := by
    decide +kernel
  rw [lastPayload] at payload
  rw [lastAddress] at placed
  rw [unmarked] at answer
  cases payload
  cases placed
  exact ⟨unloaded, answer⟩

end Dataset

end KeySequenced
