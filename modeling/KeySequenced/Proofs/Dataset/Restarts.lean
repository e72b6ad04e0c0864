import KeySequenced.Proofs.Dataset.Reload

/-!
# Addresses over restarts

A dataset outlives the program that holds it.  The program may end whenever the
dataset is closed; a later one creates the dataset again at the same location.
The addresses that the writes get ascend through all of that: closing leaves the
next address in the snapshot, and no restart begins below it.
-/

set_option autoImplicit false

namespace KeySequenced

/-- What is done with a dataset: a request to it, or a restart of the program that holds it. -/
inductive Turn where
  | ask (operation : Operation)
  | restart
  deriving DecidableEq, Repr

/-- Only closing and restarting exchange anything with files. -/
def Turn.Usual : Turn → Prop
  | .ask (.save _) => False
  | .ask (.load _) => False
  | _ => True

inductive Outcome where
  | answered (operation : Operation) (answer : Except Fault Answer)
  | restarted
  deriving DecidableEq

namespace Outcome

def Wrote : Outcome → Prop
  | .answered (.write _) (.ok _) => True
  | _ => False

def assigned? : Outcome → Option UInt64
  | .answered (.write _) (.ok (.address (.rba rba))) => some rba
  | _ => none

end Outcome

namespace Dataset

/-- What a turn brings about.  There is no restart while the dataset is open, nor where the dataset
cannot be created again. -/
def turn (dataset : Dataset) (volume : Volume) : Turn → Option (Outcome × Dataset × Volume)
  | .ask operation =>
    let (answer, after, beside) := dataset.perform operation volume
    some (.answered operation answer, after, beside)
  | .restart =>
    if dataset.isOpen then none
    else
      match create dataset.definition dataset.location volume with
      | .error _ => none
      | .ok again => some (.restarted, again, volume)

def turns (dataset : Dataset) (volume : Volume) : List Turn → Option (List Outcome)
  | [] => some []
  | turn :: rest => do
    let (outcome, after, beside) ← dataset.turn volume turn
    let outcomes ← after.turns beside rest
    return outcome :: outcomes

end Dataset

/-! ## The next address -/

/-- What an outcome makes of the next address. -/
inductive Advance (next : UInt64) : Outcome → UInt64 → Prop where
  | wrote (record : Record) (after : UInt64) (nonempty : record.key ≠ [])
      (ends : after.toNat = next.toNat + record.key.length + record.data.length) :
      Advance next (.answered (.write record) (.ok (.address (.rba next)))) after
  | kept (operation : Operation) (answer : Except Fault Answer)
      (unwritten : ¬ (Outcome.answered operation answer).Wrote) :
      Advance next (.answered operation answer) next
  | restarted (after : UInt64) (notBelow : next ≤ after) : Advance next .restarted after

/-- Outcomes, each with the next address that the one before has left. -/
inductive Advances : UInt64 → List Outcome → Prop where
  | nil (next : UInt64) : Advances next []
  | cons {next after : UInt64} {outcome : Outcome} {outcomes : List Outcome}
      (first : Advance next outcome after) (rest : Advances after outcomes) :
      Advances next (outcome :: outcomes)

section Advances

variable {next after rba : UInt64} {outcome : Outcome} {outcomes early late : List Outcome}

theorem Outcome.assigned?_eq_none (unwritten : ¬ outcome.Wrote) : outcome.assigned? = none := by
  unfold assigned?
  split
  · exact absurd trivial unwritten
  · rfl

theorem Advance.le (advance : Advance next outcome after) : next ≤ after := by
  cases advance with
  | wrote _ _ _ ends =>
    rw [UInt64.le_iff_toNat_le]
    omega
  | kept => exact UInt64.le_refl _
  | restarted _ notBelow => exact notBelow

/-- An assigned address lies before the next one. -/
theorem Advance.of_assigned? (advance : Advance next outcome after)
    (assigned : outcome.assigned? = some rba) : rba = next ∧ next < after := by
  cases advance with
  | wrote record _ nonempty ends =>
    have long : 0 < record.key.length := List.length_pos_iff.mpr nonempty
    refine ⟨(Option.some.inj assigned).symm, ?_⟩
    rw [UInt64.lt_iff_toNat_lt]
    omega
  | kept operation answer unwritten =>
    rw [Outcome.assigned?_eq_none unwritten] at assigned
    cases assigned
  | restarted => cases assigned

theorem Advance.exists_assigned? (advance : Advance next outcome after) (wrote : outcome.Wrote) :
    ∃ rba, outcome.assigned? = some rba := by
  cases advance with
  | wrote => exact ⟨_, rfl⟩
  | kept operation answer unwritten => exact absurd wrote unwritten
  | restarted => exact wrote.elim

theorem Advances.exists_assigned? (advances : Advances next outcomes) :
    ∀ outcome ∈ outcomes, outcome.Wrote → ∃ rba, outcome.assigned? = some rba := by
  induction advances with
  | nil => simp
  | cons first rest ih =>
    intro outcome member wrote
    rcases List.mem_cons.mp member with rfl | later
    · exact first.exists_assigned? wrote
    · exact ih outcome later wrote

theorem Advances.le_of_mem (advances : Advances next outcomes) :
    ∀ rba ∈ outcomes.filterMap Outcome.assigned?, next ≤ rba := by
  induction advances with
  | nil => simp
  | cons first rest ih =>
    intro rba member
    obtain ⟨outcome, among, assigned⟩ := List.mem_filterMap.mp member
    rcases List.mem_cons.mp among with rfl | later
    · rw [(first.of_assigned? assigned).1]
      exact UInt64.le_refl _
    · exact UInt64.le_trans first.le (ih rba (List.mem_filterMap.mpr ⟨outcome, later, assigned⟩))

theorem Advances.pairwise (advances : Advances next outcomes) :
    (outcomes.filterMap Outcome.assigned?).Pairwise (· < ·) := by
  induction advances with
  | nil => simp
  | cons first rest ih =>
    rename_i outcome outcomes
    rw [List.filterMap_cons]
    split
    · exact ih
    · rename_i rba assigned
      obtain ⟨same, less⟩ := first.of_assigned? assigned
      refine List.pairwise_cons.mpr ⟨?_, ih⟩
      intro later member
      rw [same]
      exact UInt64.lt_of_lt_of_le less (rest.le_of_mem later member)

theorem Advances.drop (advances : Advances next (early ++ late)) :
    ∃ after, Advances after late := by
  induction early generalizing next with
  | nil => exact ⟨next, advances⟩
  | cons outcome early ih =>
    cases advances with
    | cons first rest => exact ih rest

/-- Up to the first write the next address stays, unless there is a restart before it. -/
theorem Advances.eq_of_first {record : Record}
    (advances : Advances next
      (early ++ .answered (.write record) (.ok (.address (.rba rba))) :: late))
    (running : .restarted ∉ early) (unwritten : ∀ outcome ∈ early, ¬ outcome.Wrote) :
    rba = next := by
  induction early with
  | nil =>
    cases advances with
    | cons first rest => exact (first.of_assigned? rfl).1
  | cons outcome early ih =>
    cases advances with
    | cons first rest =>
      cases first with
      | wrote => exact absurd trivial (unwritten _ List.mem_cons_self)
      | kept =>
        exact ih rest (fun member => running (List.mem_cons_of_mem _ member))
          (fun other member => unwritten other (List.mem_cons_of_mem _ member))
      | restarted => exact absurd List.mem_cons_self running

end Advances

namespace Dataset

/-! ## Requests -/

section Requests

variable {definition : Definition} {dataset after : Dataset} {volume : Volume}
  {operation : Operation} {answer : Except Fault Answer}

theorem Transition.location_eq (transition : Transition dataset volume operation answer after) :
    after.location = dataset.location := by
  cases transition <;> rfl

theorem Transition.advance (transition : Transition dataset volume operation answer after)
    (usual : (Turn.ask operation).Usual) :
    Advance dataset.store.nextRba (.answered operation answer) after.store.nextRba := by
  cases transition with
  | wrote record next fit absent room =>
    have fits := ((unfit?_eq_none_iff ..).mp fit).2
    have ends := (Store.endOf?_eq_some_iff _ _ _).mp room
    refine .wrote record next ((Definition.refusal?_eq_none_iff _ _ _).mp fits).1 ?_
    rw [ends, Record.storedLength, Nat.add_assoc]
  | refused => exact .kept _ _ (by cases operation <;> exact id)
  | found _ _ _ sought =>
    refine .kept _ _ ?_
    cases operation with
    | write => cases sought
    | _ => exact id
  | stepped _ _ _ _ _ asks | stopped _ _ _ _ asks =>
    refine .kept _ _ ?_
    cases operation with
    | write => cases asks
    | _ => exact id
  | loaded => exact usual.elim
  | _ => exact .kept _ _ id

theorem Transition.eq_closed (transition : Transition dataset volume operation answer after)
    (unshut : dataset.closed? = none) (shut : after.session = none) :
    operation = .close ∧ answer = .ok .done ∧ after = dataset.closed := by
  obtain ⟨session, seated⟩ := (closed?_eq_none_iff dataset).mp unshut
  cases transition with
  | closed => exact ⟨rfl, rfl, rfl⟩
  | opened => cases shut
  | _ =>
    have same : dataset.session = none := shut
    rw [seated] at same
    cases same

theorem Transition.eq_self (transition : Transition dataset volume operation answer after)
    (usual : (Turn.ask operation).Usual) (closed : dataset.session = none)
    (shut : after.session = none) : after = dataset := by
  cases transition with
  | refused | shown | saved => rfl
  | opened => cases shut
  | loaded => exact usual.elim
  | _ => simp_all [closed?, unfit?, locked?]

/-- Files change only when an open dataset is closed. -/
theorem volume_perform (usual : (Turn.ask operation).Usual)
    (kept : operation ≠ .close ∨ dataset.session = none) :
    (dataset.perform operation volume).2.2 = volume := by
  cases operation with
  | close =>
    have shut : dataset.session = none := kept.resolve_left fun changed => changed rfl
    simp only [perform, close, closed?, shut]
  | save | load => exact usual.elim
  | _ => rfl

theorem unshut_of_close (success : (dataset.close volume).1 = .ok ()) :
    dataset.closed? = none := by
  unfold close at success
  split at success
  · cases success
  · rename_i unshut
    exact unshut

theorem read_of_close {path : String} (located : dataset.location = some path)
    (success : (dataset.close volume).1 = .ok ()) :
    dataset.store.toSnapshot.oversize? = none ∧
      (dataset.close volume).2.2.read path = .ok dataset.store.toSnapshot.encode := by
  have unshut := unshut_of_close success
  cases saved : dataset.save path volume with
  | mk result beside =>
    simp only [close, unshut, located, saved] at success ⊢
    cases result with
    | error fault => cases success
    | ok size =>
      have written : (dataset.store.toSnapshot.save path volume).1 = .ok size :=
        congrArg Prod.fst saved
      have readable := Snapshot.read_of_save written
      rw [show dataset.store.toSnapshot.save path volume = _ from saved] at readable
      exact ⟨(Snapshot.exists_placed_of_save written).1, readable⟩

end Requests

/-! ## Restarts -/

section Restarts

variable {definition : Definition} {dataset after again : Dataset} {path : String}
  {volume beside : Volume}

theorem shut_of_create {location : Option String}
    (created : create definition location volume = .ok dataset) :
    dataset.location = location ∧ dataset.session = none := by
  rcases new_or_load_of_create created with ⟨rfl, _⟩ | ⟨path, _, loaded⟩
  · exact ⟨rfl, rfl⟩
  · have transition := (new definition location).transition_load volume path
    rw [loaded] at transition
    exact ⟨transition.location_eq, by cases transition; rfl⟩

theorem sound_of_create {location : Option String}
    (created : create definition location volume = .ok dataset) : Sound definition dataset := by
  obtain ⟨requests, rfl⟩ := follow_of_create created
  exact sound_follow definition location requests

/-- What is created where the snapshot of a dataset lies, under whatever definition, holds what
restoring the snapshot gives, which is without marks. -/
theorem Sound.ofSnapshot_of_create (sound : Sound definition dataset) {other : Definition}
    (within : dataset.store.toSnapshot.oversize? = none)
    (readable : volume.read path = .ok dataset.store.toSnapshot.encode)
    (created : create other (some path) volume = .ok again) :
    Store.ofSnapshot other dataset.store.unmarked.toSnapshot = .ok again.store := by
  rcases new_or_load_of_create created with ⟨_, missing⟩ | ⟨place, located, loaded⟩
  · have held := Volume.holds_of_read readable
    rw [missing path rfl] at held
    cases held
  · cases located
    have transition := (new other (some path)).transition_load volume path
    rw [loaded] at transition
    cases transition with
    | loaded _ snapshot store _ found restored =>
      rw [Snapshot.load_of_read readable, sound.decode_encode within path] at found
      cases found
      exact restored

/-- Creating a dataset where the snapshot of another one lies succeeds only if the records of that
one end within the address space, and it gives them without marks. -/
theorem Sound.records_of_create (sound : Sound definition dataset) {other : Definition}
    (within : dataset.store.toSnapshot.oversize? = none)
    (readable : volume.read path = .ok dataset.store.toSnapshot.encode)
    (created : create other (some path) volume = .ok again) :
    again.store.records = dataset.store.unmarked.records ∧
      ∀ record ∈ dataset.store.toList, record.ends < UInt64.size := by
  obtain ⟨records, ends⟩ := sound.consistent.unmarked.of_ofSnapshot
    (sound.ofSnapshot_of_create within readable created)
  exact ⟨records, (dataset.store.forall_ends_unmarked_iff UInt64.size).mp ends⟩

/-- A dataset created from the snapshot of another one does not begin below its next address. -/
theorem Sound.nextRba_le_of_create (sound : Sound definition dataset)
    (within : dataset.store.toSnapshot.oversize? = none)
    (readable : volume.read path = .ok dataset.store.toSnapshot.encode)
    (created : create definition (some path) volume = .ok again) :
    dataset.store.nextRba ≤ again.store.nextRba := by
  have notBelow :=
    Store.nextRba_le_ofSnapshot (sound.ofSnapshot_of_create within readable created)
  exact notBelow

/-- A dataset and its files between two turns: while it is closed, it can only be created again
with a next address that is not below its own. -/
structure Lasting (definition : Definition) (path : String) (dataset : Dataset)
    (volume : Volume) : Prop where
  sound : Sound definition dataset
  located : dataset.location = some path
  outlives : dataset.session = none → ∀ again, create definition (some path) volume = .ok again →
    dataset.store.nextRba ≤ again.store.nextRba

theorem lasting_new (definition : Definition) (path : String) (volume : Volume) :
    Lasting definition path (new definition (some path)) volume where
  sound := sound_new definition (some path)
  located := rfl
  outlives _ _ _ := UInt64.zero_le

theorem lasting_create (created : create definition (some path) volume = .ok dataset) :
    Lasting definition path dataset volume where
  sound := sound_of_create created
  located := (shut_of_create created).1
  outlives _ again same := by
    rw [created] at same
    cases same
    exact UInt64.le_refl _

theorem Lasting.perform (lasting : Lasting definition path dataset volume) {operation : Operation}
    (usual : (Turn.ask operation).Usual) :
    Lasting definition path (dataset.perform operation volume).2.1
      (dataset.perform operation volume).2.2 := by
  have transition := transition_perform operation dataset volume
  refine ⟨lasting.sound.next transition, transition.location_eq.trans lasting.located, ?_⟩
  intro shut again created
  -- Either nothing has happened, or the dataset has just been closed and its snapshot is new.
  cases closed : dataset.session with
  | none =>
    rw [volume_perform usual (.inr closed)] at created
    rw [transition.eq_self usual closed shut]
    exact lasting.outlives closed again created
  | some session =>
    have unshut := (closed?_eq_none_iff dataset).mpr ⟨session, closed⟩
    obtain ⟨rfl, done, same⟩ := transition.eq_closed unshut shut
    have success : (dataset.close volume).1 = .ok () := by
      simp only [Dataset.perform] at done
      cases result : (dataset.close volume).1 with
      | error fault =>
        rw [result] at done
        cases done
      | ok _ => rfl
    obtain ⟨within, readable⟩ := read_of_close lasting.located success
    rw [same]
    exact lasting.sound.nextRba_le_of_create within readable created

theorem Lasting.turn (lasting : Lasting definition path dataset volume) {turn : Turn}
    {outcome : Outcome} (usual : turn.Usual)
    (taken : dataset.turn volume turn = some (outcome, after, beside)) :
    Lasting definition path after beside ∧
      Advance dataset.store.nextRba outcome after.store.nextRba := by
  cases turn with
  | ask operation =>
    cases taken
    exact ⟨lasting.perform usual, (transition_perform operation dataset volume).advance usual⟩
  | restart =>
    simp only [Dataset.turn] at taken
    split at taken
    · cases taken
    rename_i idle
    have shut : dataset.session = none := by simpa [isOpen] using idle
    split at taken
    · cases taken
    rename_i again created
    cases taken
    rw [lasting.sound.definition_eq, lasting.located] at created
    exact ⟨lasting_create created, .restarted _ (lasting.outlives shut _ created)⟩

theorem Lasting.advances (lasting : Lasting definition path dataset volume) {turns : List Turn}
    {outcomes : List Outcome} (usual : ∀ turn ∈ turns, turn.Usual)
    (taken : dataset.turns volume turns = some outcomes) :
    Advances dataset.store.nextRba outcomes := by
  induction turns generalizing dataset volume outcomes with
  | nil =>
    cases taken
    exact .nil _
  | cons turn rest ih =>
    simp only [Dataset.turns] at taken
    obtain ⟨⟨outcome, after, beside⟩, first, taken⟩ := Option.bind_eq_some_iff.mp taken
    obtain ⟨later, remaining, result⟩ := Option.bind_eq_some_iff.mp taken
    cases Option.some.inj result
    obtain ⟨still, advance⟩ := lasting.turn (usual turn List.mem_cons_self) first
    exact .cons advance
      (ih still (fun other member => usual other (List.mem_cons_of_mem _ member)) remaining)

end Restarts

/-- Over all restarts the writes of a dataset get ascending addresses.  Without a restart in
between, a record lies right behind the one that was written before it. -/
theorem addresses_ascend (definition : Definition) (path : String) (dataset : Dataset)
    (volume : Volume)
    (begun : dataset = new definition (some path) ∨
      create definition (some path) volume = .ok dataset)
    (turns : List Turn) (outcomes : List Outcome) (usual : ∀ turn ∈ turns, turn.Usual)
    (taken : dataset.turns volume turns = some outcomes) :
    (∀ outcome ∈ outcomes, outcome.Wrote → ∃ rba, outcome.assigned? = some rba) ∧
    (outcomes.filterMap Outcome.assigned?).Pairwise (· < ·) ∧
    ∀ early between late record rba other otherRba,
      outcomes = early ++ .answered (.write record) (.ok (.address (.rba rba)))
        :: (between ++ .answered (.write other) (.ok (.address (.rba otherRba))) :: late) →
      .restarted ∉ between → (∀ outcome ∈ between, ¬ outcome.Wrote) →
      otherRba.toNat = rba.toNat + record.key.length + record.data.length := by
  have lasting : Lasting definition path dataset volume := by
    rcases begun with rfl | created
    · exact lasting_new definition path volume
    · exact lasting_create created
  have advances := lasting.advances usual taken
  refine ⟨advances.exists_assigned?, advances.pairwise, ?_⟩
  intro early between late record rba other otherRba parts running unwritten
  rw [parts] at advances
  obtain ⟨next, advances⟩ := advances.drop
  cases advances with
  | cons first rest =>
    rw [rest.eq_of_first running unwritten]
    cases first with
    | wrote _ _ _ ends => exact ends
    | kept _ _ unwritten => exact absurd trivial unwritten

/-- The second record has been erased when the dataset is closed, and only the next address in the
snapshot tells of it. -/
theorem address_after_erase_and_restart :
    let opening : Operation := .openFor ⟨.inputOutput, .dynamic⟩
    let turns : List Turn := [.ask opening, .ask (.write (.new [1] [5, 6])), .ask (.update [1] []),
      .ask (.write (.new [2] [7])), .ask (.erase [2]), .ask .close, .restart, .ask opening,
      .ask (.write (.new [2] []))]
    let outcomes : List Outcome := [.answered opening (.ok .done),
      .answered (.write (.new [1] [5, 6])) (.ok (.address (.rba 0))),
      .answered (.update [1] []) (.ok .done),
      .answered (.write (.new [2] [7])) (.ok (.address (.rba 3))),
      .answered (.erase [2]) (.ok (.record ⟨[2], [7], .rba 3, true⟩)),
      .answered .close (.ok .done), .restarted, .answered opening (.ok .done),
      .answered (.write (.new [2] [])) (.ok (.address (.rba 5)))]
    (new (.keyed "C" 4) (some "s")).turns .empty turns = some outcomes ∧
      outcomes.filterMap Outcome.assigned? = [0, 3, 5] ∧
      (outcomes.filterMap Outcome.assigned?).Pairwise (· < ·) ∧
      (3 : UInt64).toNat = (0 : UInt64).toNat + 1 + 2 := by
  intro opening turns outcomes
  have usual : ∀ turn ∈ turns, turn.Usual := by simp [turns, opening, Turn.Usual]
  have taken : (new (.keyed "C" 4) (some "s")).turns .empty turns = some outcomes := by
    decide +kernel
  obtain ⟨_, ascending, behind⟩ := addresses_ascend (.keyed "C" 4) "s" _ .empty (.inl rfl) turns
    outcomes usual taken
  have next := behind [.answered opening (.ok .done)] [.answered (.update [1] []) (.ok .done)] _
    (.new [1] [5, 6]) 0 (.new [2] [7]) 3 rfl (by decide) (by simp [Outcome.Wrote])
  exact ⟨taken, rfl, ascending, next⟩

end Dataset

end KeySequenced
