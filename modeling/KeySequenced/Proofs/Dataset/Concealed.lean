import KeySequenced.Proofs.Dataset.History
import KeySequenced.Proofs.Table.Values
import KeySequenced.Proofs.Snapshot.RoundTrip
import KeySequenced.Proofs.Volume.Contents

/-!
# Addresses that do not show

`conceal` takes the addresses of the records under some keys out of a dataset,
and with them the index of addresses and the count of reads.  No request but one
that reads by address asks for what is taken out.  So datasets that are the same
without it answer alike, but for addresses under those keys, and stay the same
without it.
-/

set_option autoImplicit false

namespace KeySequenced

/-! ## Without addresses -/

section Conceal

variable (keys : List Key)

/-- The record, without its address if its key is one of the keys. -/
def Record.conceal (record : Record) : Record :=
  { record with address := if record.key ∈ keys then .invalid else record.address }

/-- The position, without its address if its key is one of the keys. -/
def Position.conceal (position : Position) : Position :=
  { position with address := if position.key ∈ keys then .invalid else position.address }

def Cursor.conceal (cursor : Cursor) : Cursor :=
  { cursor with resting := cursor.resting.map (Position.conceal keys) }

/-- The store without the addresses of the records under the keys and without its index. -/
def Store.conceal (store : Store) : Store where
  records := store.records.mapValues (Record.conceal keys)
  index := .empty
  nextRba := store.nextRba

def Answer.conceal : Answer → Answer
  | .record found => .record (found.conceal keys)
  | .context cursor => .context (cursor.conceal keys)
  | other => other

/-- The dataset without what only a read by address can tell, and without the count of reads. -/
def Dataset.conceal (dataset : Dataset) : Dataset :=
  { dataset with
    store := dataset.store.conceal keys
    cursors := dataset.cursors.mapValues (Cursor.conceal keys)
    statistics := { dataset.statistics with reads := 0 } }

/-- The answer without the addresses of the records under the keys; none to a read by address. -/
def Event.shown (event : Event) : Option (Except Fault Answer) :=
  match event.operation with
  | .readAt _ => none
  | _ => some (event.answer.map (Answer.conceal keys))

end Conceal

section Twice

variable (keys : List Key)

@[simp] theorem Record.conceal_comp_conceal :
    Record.conceal keys ∘ Record.conceal keys = Record.conceal keys := by
  funext record
  simp only [Function.comp_apply, conceal]
  split <;> simp

@[simp] theorem Position.conceal_comp_conceal :
    Position.conceal keys ∘ Position.conceal keys = Position.conceal keys := by
  funext position
  simp only [Function.comp_apply, conceal]
  split <;> simp

@[simp] theorem Cursor.conceal_comp_conceal :
    Cursor.conceal keys ∘ Cursor.conceal keys = Cursor.conceal keys := by
  funext cursor
  simp only [Function.comp_apply, conceal, Option.map_map, Position.conceal_comp_conceal]

@[simp] theorem Record.conceal_conceal (record : Record) :
    (record.conceal keys).conceal keys = record.conceal keys :=
  congrFun (Record.conceal_comp_conceal keys) record

@[simp] theorem Cursor.conceal_conceal (cursor : Cursor) :
    (cursor.conceal keys).conceal keys = cursor.conceal keys :=
  congrFun (Cursor.conceal_comp_conceal keys) cursor

@[simp] theorem Store.conceal_conceal (store : Store) :
    (store.conceal keys).conceal keys = store.conceal keys := by
  simp only [conceal, Table.mapValues_mapValues, Record.conceal_comp_conceal]

@[simp] theorem Dataset.conceal_conceal (dataset : Dataset) :
    (dataset.conceal keys).conceal keys = dataset.conceal keys := by
  simp only [conceal, Store.conceal_conceal, Table.mapValues_mapValues,
    Cursor.conceal_comp_conceal]

end Twice

/-- Records that are the same without addresses differ in the addresses of the keys alone. -/
theorem Record.eq_of_conceal_eq {keys : List Key} {record other : Record}
    (same : other.conceal keys = record.conceal keys) :
    other = { record with address := other.address } ∧
      (record.key ∉ keys → other.address = record.address) := by
  obtain ⟨key, data, address, deleted⟩ := record
  obtain ⟨otherKey, otherData, otherAddress, otherDeleted⟩ := other
  simp only [conceal, Record.mk.injEq] at same
  obtain ⟨rfl, rfl, addresses, rfl⟩ := same
  refine ⟨rfl, fun unnamed => ?_⟩
  simpa only [if_neg unnamed] using addresses

/-! ## Stores, cursors and statistics -/

namespace Statistics

variable (statistics : Statistics) (before after bytes : UInt64)

theorem countUpdate_reads :
    { ({ statistics with reads := 0 }).countUpdate before after with reads := 0 }
      = { statistics.countUpdate before after with reads := 0 } := by
  unfold countUpdate
  split <;> rfl

theorem countDelete_reads :
    { ({ statistics with reads := 0 }).countDelete bytes with reads := 0 }
      = { statistics.countDelete bytes with reads := 0 } := rfl

end Statistics

namespace Store

variable (keys : List Key) (store : Store) (key : Key)

theorem find?_conceal :
    (store.conceal keys).find? key = (store.find? key).map (Record.conceal keys) :=
  Table.find?_mapValues ..

theorem first?_conceal :
    (store.conceal keys).first? = store.first?.map (Record.conceal keys) := by
  simp only [first?, conceal, Table.first?_mapValues, Option.map_map]
  rfl

theorem last?_conceal :
    (store.conceal keys).last? = store.last?.map (Record.conceal keys) := by
  simp only [last?, conceal, Table.last?_mapValues, Option.map_map]
  rfl

theorem atOrAbove?_conceal :
    (store.conceal keys).atOrAbove? key = (store.atOrAbove? key).map (Record.conceal keys) := by
  simp only [atOrAbove?, conceal, Table.atOrAbove?_mapValues, Option.map_map]
  rfl

theorem above?_conceal :
    (store.conceal keys).above? key = (store.above? key).map (Record.conceal keys) := by
  simp only [above?, conceal, Table.above?_mapValues, Option.map_map]
  rfl

theorem below?_conceal :
    (store.conceal keys).below? key = (store.below? key).map (Record.conceal keys) := by
  simp only [below?, conceal, Table.below?_mapValues, Option.map_map]
  rfl

theorem toList_conceal :
    (store.conceal keys).toList = store.toList.map (Record.conceal keys) := by
  simp only [toList, conceal, Table.toList_mapValues, List.map_map]
  rfl

/-- The size of a record on the wire is that without its address. -/
theorem length_frames_conceal (records : List Record) :
    (Snapshot.frames (records.map (Record.conceal keys))).length
      = (Snapshot.frames records).length := by
  induction records with
  | nil => rfl
  | cons record rest ih =>
    have same : (record.conceal keys).encodedLength = record.encodedLength := rfl
    simp only [Snapshot.frames, List.map_cons, List.flatMap_cons, List.length_append,
      Snapshot.length_frame, Record.length_encode, same] at ih ⊢
    rw [ih]

/-- A store without addresses is saved, or refused, as it is with them. -/
theorem save_toSnapshot_conceal (path : String) (volume : Volume) :
    ((store.conceal keys).toSnapshot.save path volume).1
      = (store.toSnapshot.save path volume).1 := by
  apply Snapshot.save_answer_eq
  · simp only [Snapshot.write_eq, Snapshot.draft, toSnapshot, toList_conceal, List.takeWhile_map,
      List.length_append, List.length_map, length_frames_conceal]
    rfl
  · simp only [Snapshot.write_eq, Snapshot.oversize?, toSnapshot, toList_conceal,
      List.findSome?_map]
    rfl

end Store

namespace Cursor

variable (keys : List Key) (cursor : Cursor)

theorem conceal_advanceTo (record : Record) :
    ((cursor.conceal keys).advanceTo (record.conceal keys).key
        (record.conceal keys).address).conceal keys
      = (cursor.advanceTo record.key record.address).conceal keys := by
  simp only [conceal, advanceTo, placeAt, Record.conceal, Position.conceal, Option.map_some]
  split <;> rfl

theorem conceal_placeOn (found : Option Record) (requested : Key) :
    ((cursor.conceal keys).placeOn (found.map (Record.conceal keys)) requested).conceal keys
      = (cursor.placeOn found requested).conceal keys := by
  cases found with
  | none => rfl
  | some record =>
    simp only [Option.map_some, conceal, placeOn, placeAt, Record.conceal, Position.conceal]
    split <;> rfl

theorem conceal_stop (direction : Direction) :
    ((cursor.conceal keys).stop direction).conceal keys = (cursor.stop direction).conceal keys := by
  cases direction <;> simp [conceal, stop, hitEnd, hitStart]

@[simp] theorem direction_conceal : (cursor.conceal keys).direction = cursor.direction := rfl

theorem stopped_conceal (direction : Direction) :
    (cursor.conceal keys).stopped direction = cursor.stopped direction := by
  cases direction <;> rfl

end Cursor

/-! ## Requests

Every request comes out of a dataset without addresses as it comes out of the
dataset itself, when addresses are taken out of both results.
-/

namespace Dataset

section Guards

variable (keys : List Key) (dataset : Dataset)

@[simp] theorem session_conceal : (dataset.conceal keys).session = dataset.session := rfl

@[simp] theorem location_conceal : (dataset.conceal keys).location = dataset.location := rfl

@[simp] theorem definition_conceal : (dataset.conceal keys).definition = dataset.definition := rfl

@[simp] theorem nextCursor_conceal : (dataset.conceal keys).nextCursor = dataset.nextCursor := rfl

@[simp] theorem store_conceal : (dataset.conceal keys).store = dataset.store.conceal keys := rfl

@[simp] theorem clusterName_conceal :
    (dataset.conceal keys).clusterName = dataset.clusterName := rfl

@[simp] theorem closed?_conceal : (dataset.conceal keys).closed? = dataset.closed? := rfl

@[simp] theorem locked?_conceal (request : OutputRequest) :
    (dataset.conceal keys).locked? request = dataset.locked? request := rfl

@[simp] theorem unfit?_conceal (request : OutputRequest) (key : Key) (data : Bytes) :
    (dataset.conceal keys).unfit? request key data = dataset.unfit? request key data := rfl

end Guards

section Requests

variable (keys : List Key) (dataset : Dataset)

/-- What comes out of a request, the answer by `shown` and the dataset without addresses. -/
def veil {α : Type} (shown : α → α) (result : Except Fault α × Dataset) :
    Except Fault α × Dataset :=
  (result.1.map shown, result.2.conceal keys)

theorem veil_error {α : Type} (shown : α → α) (fault : Fault) :
    veil keys shown (.error fault, dataset.conceal keys)
      = veil keys shown (.error fault, dataset) := by
  simp only [veil, conceal_conceal]

theorem conceal_setCursor (number : UInt64) {cursor other : Cursor}
    (same : other.conceal keys = cursor.conceal keys) :
    ((dataset.conceal keys).setCursor number other).conceal keys
      = (dataset.setCursor number cursor).conceal keys := by
  simp only [conceal, setCursor, Store.conceal_conceal, Table.mapValues_insert,
    Table.mapValues_mapValues, Cursor.conceal_comp_conceal, same]

theorem conceal_with {dataset another : Dataset} {store other : Store}
    {statistics counted : Statistics} (same : another.conceal keys = dataset.conceal keys)
    (stores : other.conceal keys = store.conceal keys)
    (counts : { counted with reads := 0 } = { statistics with reads := 0 }) :
    ({ another with store := other, statistics := counted }).conceal keys
      = ({ dataset with store := store, statistics := statistics }).conceal keys := by
  simp only [conceal, Dataset.mk.injEq] at same ⊢
  obtain ⟨definitions, locations, sessions, _, cursors, numbers, _⟩ := same
  exact ⟨definitions, locations, sessions, stores, cursors, numbers, counts⟩

theorem veil_openFor (session : Session) :
    veil keys id ((dataset.conceal keys).openFor session)
      = veil keys id (dataset.openFor session) := by
  simp only [openFor, session_conceal, clusterName_conceal]
  split
  · exact veil_error ..
  · refine Prod.ext rfl ?_
    exact congrArg (fun shut => { shut with session := some session })
      (conceal_conceal keys dataset)

theorem veil_answerRead (found : Option Record) (otherwise : Fault) :
    veil keys (Record.conceal keys)
        ((dataset.conceal keys).answerRead (found.map (Record.conceal keys)) otherwise)
      = veil keys (Record.conceal keys) (dataset.answerRead found otherwise) := by
  simp only [answerRead, closed?_conceal]
  cases dataset.closed? with
  | some fault => exact veil_error ..
  | none =>
    cases found with
    | none => exact veil_error ..
    | some record =>
      refine Prod.ext ?_ ?_
      · exact congrArg Except.ok (record.conceal_conceal keys)
      · exact conceal_conceal keys dataset

theorem veil_read (key : Key) :
    veil keys (Record.conceal keys) ((dataset.conceal keys).read key)
      = veil keys (Record.conceal keys) (dataset.read key) := by
  simp only [read, store_conceal, Store.find?_conceal]
  exact veil_answerRead ..

theorem veil_readGeneric (beginning : Key) :
    veil keys (Record.conceal keys) ((dataset.conceal keys).readGeneric beginning)
      = veil keys (Record.conceal keys) (dataset.readGeneric beginning) := by
  simp only [readGeneric, store_conceal, Store.atOrAbove?_conceal, Option.filter_map]
  exact veil_answerRead ..

/-- A read by address changes nothing but the count of reads. -/
theorem conceal_readAt (rba : UInt64) :
    ((dataset.conceal keys).readAt rba).2.conceal keys = (dataset.readAt rba).2.conceal keys := by
  have kept (dataset : Dataset) (found : Option Record) (otherwise : Fault) :
      (dataset.answerRead found otherwise).2.conceal keys = dataset.conceal keys := by
    unfold answerRead
    split
    · rfl
    · split <;> rfl
  rw [readAt, readAt, kept, kept, conceal_conceal]

theorem veil_write (record : Record) :
    veil keys id ((dataset.conceal keys).write record) = veil keys id (dataset.write record) := by
  have taken : (dataset.store.conceal keys).records.contains record.key
      = dataset.store.records.contains record.key := Table.contains_mapValues ..
  have next : (dataset.store.conceal keys).nextRba = dataset.store.nextRba := rfl
  simp only [write, unfit?_conceal, store_conceal, taken, next, definition_conceal]
  split
  · exact veil_error ..
  split
  · exact veil_error ..
  split
  · exact veil_error ..
  · refine Prod.ext rfl (conceal_with keys (conceal_conceal keys dataset) ?_ rfl)
    simp only [Store.conceal, Store.put, Table.mapValues_insert, Table.mapValues_mapValues,
      Record.conceal_comp_conceal]

theorem veil_update (key : Key) (data : Bytes) :
    veil keys id ((dataset.conceal keys).update key data)
      = veil keys id (dataset.update key data) := by
  have found : (dataset.store.conceal keys).records.find? key
      = (dataset.store.records.find? key).map (Record.conceal keys) := Table.find?_mapValues ..
  simp only [update, unfit?_conceal, store_conceal, found]
  split
  · exact veil_error ..
  cases dataset.store.records.find? key with
  | none => exact veil_error ..
  | some stored =>
    refine Prod.ext rfl (conceal_with keys (conceal_conceal keys dataset) ?_ ?_)
    · simp only [Store.conceal, Store.replace, Table.mapValues_insert, Table.mapValues_mapValues,
        Record.conceal_comp_conceal]
      exact congrArg (fun record => Store.mk (Table.insert _ key { record with data := data }) _ _)
        (stored.conceal_conceal keys)
    · exact Statistics.countUpdate_reads ..

theorem veil_erase (key : Key) :
    veil keys (Record.conceal keys) ((dataset.conceal keys).erase key)
      = veil keys (Record.conceal keys) (dataset.erase key) := by
  have found : (dataset.store.conceal keys).records.find? key
      = (dataset.store.records.find? key).map (Record.conceal keys) := Table.find?_mapValues ..
  simp only [erase, locked?_conceal, store_conceal, found]
  split
  · exact veil_error ..
  cases dataset.store.records.find? key with
  | none => exact veil_error ..
  | some stored =>
    refine Prod.ext ?_ (conceal_with keys (conceal_conceal keys dataset) ?_ ?_)
    · exact congrArg (fun record : Record => Except.ok { record with deleted := true })
        (stored.conceal_conceal keys)
    · simp only [Store.conceal, Store.remove, Table.mapValues_erase, Table.mapValues_mapValues,
        Record.conceal_comp_conceal]
    · exact Statistics.countDelete_reads ..

theorem veil_startBrowse (key : Key) (orAbove : Bool) (direction : Direction) :
    veil keys id ((dataset.conceal keys).startBrowse key orAbove direction)
      = veil keys id (dataset.startBrowse key orAbove direction) := by
  have found : (if orAbove then (dataset.store.conceal keys).atOrAbove? key
        else (dataset.store.conceal keys).find? key)
      = (if orAbove then dataset.store.atOrAbove? key else dataset.store.find? key).map
        (Record.conceal keys) := by
    split
    · exact Store.atOrAbove?_conceal ..
    · exact Store.find?_conceal ..
  simp only [startBrowse, closed?_conceal, store_conceal, nextCursor_conceal, found]
  split
  · exact veil_error ..
  · refine Prod.ext rfl ?_
    have placed := conceal_setCursor keys dataset dataset.nextCursor
      (Cursor.conceal_placeOn keys (Cursor.new direction)
        (if orAbove then dataset.store.atOrAbove? key else dataset.store.find? key) key)
    exact congrArg (fun started => { started with nextCursor := dataset.nextCursor + 1 }) placed

theorem cursors_conceal (number : UInt64) :
    (dataset.conceal keys).cursors.find? number
      = (dataset.cursors.find? number).map (Cursor.conceal keys) :=
  Table.find?_mapValues ..

theorem beyond?_conceal (direction : Direction) (cursor : Cursor) :
    (dataset.conceal keys).beyond? direction (cursor.conceal keys).resting
      = (dataset.beyond? direction cursor.resting).map (Record.conceal keys) := by
  obtain ⟨_, resting, _, _, _⟩ := cursor
  cases direction with
  | forward =>
    cases resting with
    | none => exact Store.first?_conceal ..
    | some position => exact Store.above?_conceal ..
  | backward =>
    cases resting with
    | none => exact Store.last?_conceal ..
    | some position => exact Store.below?_conceal ..

theorem veil_step (number : UInt64) (asked : Option Direction) :
    veil keys (Record.conceal keys) ((dataset.conceal keys).step number asked)
      = veil keys (Record.conceal keys) (dataset.step number asked) := by
  have live := dataset.cursors_conceal keys number
  cases unshut : dataset.closed? with
  | some fault =>
    simp only [step, closed?_conceal, unshut]
    exact veil_error ..
  | none =>
    cases found : dataset.cursors.find? number with
    | none =>
      rw [found] at live
      simp only [step, closed?_conceal, unshut, live, found, Option.map_none]
      exact veil_error ..
    | some cursor =>
      rw [found] at live
      rw [(dataset.conceal keys).step_eq number asked unshut live,
        dataset.step_eq number asked unshut found]
      simp only [Cursor.stopped_conceal, Cursor.direction_conceal, beyond?_conceal]
      split
      · exact veil_error ..
      cases dataset.beyond? (asked.getD cursor.direction) cursor.resting with
      | none =>
        exact Prod.ext rfl (conceal_setCursor keys dataset number (Cursor.conceal_stop ..))
      | some record =>
        refine Prod.ext (congrArg Except.ok (record.conceal_conceal keys)) ?_
        exact conceal_setCursor keys dataset number (Cursor.conceal_advanceTo ..)

theorem veil_endBrowse (number : UInt64) :
    veil keys id ((dataset.conceal keys).endBrowse number)
      = veil keys id (dataset.endBrowse number) := by
  simp only [endBrowse, closed?_conceal]
  split
  · exact veil_error ..
  · refine Prod.ext rfl ?_
    simp only [veil, conceal, Store.conceal_conceal, Table.mapValues_erase,
      Table.mapValues_mapValues, Cursor.conceal_comp_conceal]

theorem veil_resetBrowse (number : UInt64) (key : Key) :
    veil keys id ((dataset.conceal keys).resetBrowse number key)
      = veil keys id (dataset.resetBrowse number key) := by
  have live := dataset.cursors_conceal keys number
  simp only [resetBrowse, closed?_conceal, live, store_conceal, Store.atOrAbove?_conceal]
  split
  · exact veil_error ..
  cases dataset.cursors.find? number with
  | none => exact veil_error ..
  | some cursor =>
    exact Prod.ext rfl (conceal_setCursor keys dataset number (Cursor.conceal_placeOn ..))

theorem save_conceal (path : String) (volume : Volume) :
    ((dataset.conceal keys).save path volume).1 = (dataset.save path volume).1 :=
  Store.save_toSnapshot_conceal ..

theorem veil_save (path : String) (volume : Volume) :
    veil keys id (((dataset.conceal keys).save path volume).1, dataset.conceal keys)
      = veil keys id ((dataset.save path volume).1, dataset) := by
  simp only [veil, save_conceal, conceal_conceal]

theorem veil_cursor (number : UInt64) :
    veil keys (Cursor.conceal keys) ((dataset.conceal keys).cursor number, dataset.conceal keys)
      = veil keys (Cursor.conceal keys) (dataset.cursor number, dataset) := by
  simp only [cursor, cursors_conceal]
  cases dataset.cursors.find? number with
  | none => exact veil_error ..
  | some found =>
    exact Prod.ext (congrArg Except.ok (found.conceal_conceal keys)) (conceal_conceal keys dataset)

theorem veil_close (volume : Volume) :
    veil keys id (((dataset.conceal keys).close volume).1,
        ((dataset.conceal keys).close volume).2.1)
      = veil keys id ((dataset.close volume).1, (dataset.close volume).2.1) := by
  have closed : (dataset.conceal keys).closed.conceal keys = dataset.closed.conceal keys := by
    simp only [Dataset.closed, conceal, Store.conceal_conceal]
  simp only [close, closed?_conceal, location_conceal]
  split
  · exact veil_error ..
  split
  · exact Prod.ext rfl closed
  · rename_i path _
    have same := save_conceal keys dataset path volume
    revert same
    generalize (dataset.conceal keys).save path volume = concealed
    generalize dataset.save path volume = saved
    intro same
    obtain ⟨answer, after⟩ := concealed
    obtain ⟨result, left⟩ := saved
    cases same
    cases answer with
    | error fault => exact veil_error ..
    | ok size => exact Prod.ext rfl closed

theorem veil_load (path : String) (volume : Volume) :
    veil keys id ((dataset.conceal keys).load path volume)
      = veil keys id (dataset.load path volume) := by
  have opened : (dataset.conceal keys).isOpen = dataset.isOpen := rfl
  simp only [load, definition_conceal, opened]
  split
  · exact veil_error ..
  split
  · exact veil_error ..
  split
  · exact veil_error ..
  · exact Prod.ext rfl rfl

end Requests

/-! ## Runs -/

section Runs

variable {keys : List Key}

theorem map_conceal {α : Type} {shown : α → α} {wrap : α → Answer} {first second : Except Fault α}
    (wraps : ∀ result, (wrap result).conceal keys = wrap (shown result))
    (same : second.map shown = first.map shown) :
    (second.map wrap).map (Answer.conceal keys) = (first.map wrap).map (Answer.conceal keys) := by
  have through (result : Except Fault α) :
      (result.map wrap).map (Answer.conceal keys) = (result.map shown).map wrap := by
    cases result with
    | error fault => rfl
    | ok value => exact congrArg Except.ok (wraps value)
  rw [through, through, same]

/-- A request shows the same of a dataset and of it without addresses. -/
theorem shown_event_conceal (keys : List Key) (dataset : Dataset) (request : Request) :
    ((dataset.conceal keys).event request).shown keys = (dataset.event request).shown keys ∧
      ((dataset.conceal keys).event request).after.conceal keys
        = (dataset.event request).after.conceal keys := by
  obtain ⟨operation, volume⟩ := request
  -- Every request wraps the answer of one function of the dataset.
  have wrapped {α : Type} {shown : α → α} {second first : Except Fault α × Dataset}
      (wrap : α → Answer) (wraps : ∀ result, (wrap result).conceal keys = wrap (shown result))
      (veiled : veil keys shown second = veil keys shown first) :
      some ((second.1.map wrap).map (Answer.conceal keys))
          = some ((first.1.map wrap).map (Answer.conceal keys)) ∧
        second.2.conceal keys = first.2.conceal keys :=
    ⟨congrArg some (map_conceal wraps (congrArg Prod.fst veiled)), congrArg Prod.snd veiled⟩
  have done (_ : Unit) : Answer.done.conceal keys = .done := rfl
  cases operation with
  | openFor session => exact (wrapped (fun _ => .done) done (veil_openFor keys dataset session) :)
  | close =>
    have closed := wrapped (fun _ => .done) done (veil_close keys dataset volume)
    simpa only [event, perform, Event.shown] using closed
  | read key => exact (wrapped .record (fun _ => rfl) (veil_read keys dataset key) :)
  | readGeneric beginning =>
    exact (wrapped .record (fun _ => rfl) (veil_readGeneric keys dataset beginning) :)
  | readAt rba => exact ⟨rfl, conceal_readAt keys dataset rba⟩
  | readNumbered number =>
    exact (wrapped .record (fun _ => rfl) (veil_answerRead keys dataset none _) :)
  | write record => exact (wrapped .address (fun _ => rfl) (veil_write keys dataset record) :)
  | update key data => exact (wrapped (fun _ => .done) done (veil_update keys dataset key data) :)
  | erase key => exact (wrapped .record (fun _ => rfl) (veil_erase keys dataset key) :)
  | startBrowse key orAbove direction =>
    exact (wrapped .started (fun _ => rfl)
      (veil_startBrowse keys dataset key orAbove direction) :)
  | readNext number =>
    exact (wrapped .record (fun _ => rfl) (veil_step keys dataset number (some .forward)) :)
  | readPrevious number =>
    exact (wrapped .record (fun _ => rfl) (veil_step keys dataset number (some .backward)) :)
  | readBrowse number =>
    exact (wrapped .record (fun _ => rfl) (veil_step keys dataset number none) :)
  | endBrowse number => exact (wrapped (fun _ => .done) done (veil_endBrowse keys dataset number) :)
  | resetBrowse number key =>
    exact (wrapped (fun _ => .done) done (veil_resetBrowse keys dataset number key) :)
  | browseContext number =>
    exact (wrapped .context (fun _ => rfl) (veil_cursor keys dataset number) :)
  | save path =>
    have saved := wrapped .saved (fun _ => rfl) (veil_save keys dataset path volume)
    simpa only [event, perform, Event.shown] using saved
  | load path => exact (wrapped (fun _ => .done) done (veil_load keys dataset path volume) :)

/-- Datasets that are the same without addresses stay so under any requests, and show the same. -/
theorem shown_events_of_conceal_eq {one other : Dataset}
    (same : one.conceal keys = other.conceal keys) (requests : List Request) :
    (one.events requests).map (Event.shown keys) = (other.events requests).map (Event.shown keys) ∧
      (one.follow requests).conceal keys = (other.follow requests).conceal keys := by
  induction requests generalizing one other with
  | nil => exact ⟨rfl, same⟩
  | cons request rest ih =>
    obtain ⟨shown, left⟩ := shown_event_conceal keys one request
    obtain ⟨otherShown, otherLeft⟩ := shown_event_conceal keys other request
    rw [same] at shown left
    obtain ⟨rests, last⟩ := ih (left.symm.trans otherLeft)
    refine ⟨?_, last⟩
    rw [events, events, List.map_cons, List.map_cons, rests, ← shown, otherShown]

end Runs

end Dataset

end KeySequenced
