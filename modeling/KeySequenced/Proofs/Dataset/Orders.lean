import KeySequenced.Proofs.Dataset.Concealed
import KeySequenced.Proofs.Dataset.Space

/-!
# Writing in another order

New records of distinct keys can be written in any order.  Each order succeeds
where there is room for all, and the orders differ in nothing but the addresses
of these records.  Two writes in a row commute but for the addresses, and datasets
that are the same without addresses stay the same under all further requests.
-/

set_option autoImplicit false

namespace KeySequenced

/-! ## Statistics of writes -/

namespace Statistics

variable (statistics : Statistics)

theorem allocate_allocate {less more : UInt64} (notAbove : less ≤ more) :
    (statistics.allocate less).allocate more = statistics.allocate more := by
  by_cases below : statistics.bytesAllocated < less
  · have under : statistics.bytesAllocated < more := UInt64.lt_of_lt_of_le below notAbove
    have reached : (if less < more then more else less) = more := by
      split
      · rfl
      · rename_i notLess
        exact UInt64.le_antisymm notAbove (UInt64.not_lt.mp notLess)
    simp only [allocate, if_pos below, if_pos under, reached]
  · simp only [allocate, if_neg below]

theorem countWrite_comm (bytes other : UInt64) :
    (statistics.countWrite bytes).countWrite other
      = (statistics.countWrite other).countWrite bytes := by
  simp only [countWrite, UInt64.add_assoc, UInt64.add_comm bytes]

end Statistics

/-! ## New records -/

/-- The length of all keys and payloads. -/
def totalLength (records : List Record) : Nat :=
  records.foldr (fun record total => record.storedLength + total) 0

theorem totalLength_perm {first second : List Record} (same : first.Perm second) :
    totalLength first = totalLength second := by
  apply same.foldr_eq'
  intro record _ other _ total
  omega

/-- The requests that write the records in their order. -/
def writes (volume : Volume) (records : List Record) : List Request :=
  records.map fun record => ⟨.write record, volume⟩

namespace Dataset

/-- Nothing keeps the records from being written one after the other. -/
structure HasRoomFor (dataset : Dataset) (records : List Record) : Prop where
  unlocked : dataset.locked? .write = none
  fit : ∀ record ∈ records, dataset.definition.refusal? record.key record.data = none
  distinct : (records.map Record.key).Nodup
  absent : ∀ record ∈ records, dataset.store.find? record.key = none
  room : dataset.store.nextRba.toNat + totalLength records < UInt64.size

/-- The dataset with a new record at the next address. -/
def written (dataset : Dataset) (record : Record) : Dataset :=
  let next := UInt64.ofNat (dataset.store.nextRba.toNat + record.storedLength)
  { dataset with
    store := dataset.store.put (record.placedAt dataset.store.nextRba) next
    statistics := (dataset.statistics.allocate (allocatedFor dataset.definition next)).countWrite
      (UInt64.ofNat record.storedLength) }

section Writing

variable {dataset : Dataset} {record other : Record} {records rest : List Record}
  {keys : List Key}

theorem HasRoomFor.perm (roomy : dataset.HasRoomFor records) (same : records.Perm rest) :
    dataset.HasRoomFor rest where
  unlocked := roomy.unlocked
  fit record member := roomy.fit record (same.mem_iff.mpr member)
  distinct := (same.map Record.key).nodup_iff.mp roomy.distinct
  absent record member := roomy.absent record (same.mem_iff.mpr member)
  room := totalLength_perm same ▸ roomy.room

theorem HasRoomFor.room_head (roomy : dataset.HasRoomFor (record :: rest)) :
    dataset.store.nextRba.toNat + record.storedLength < UInt64.size := by
  have room := roomy.room
  simp only [totalLength, List.foldr_cons] at room
  omega

theorem HasRoomFor.event_eq (roomy : dataset.HasRoomFor (record :: rest)) (volume : Volume) :
    dataset.event ⟨.write record, volume⟩
      = ⟨.write record, .ok (.address (.rba dataset.store.nextRba)),
        dataset.written record⟩ := by
  have fit : dataset.unfit? .write record.key record.data = none := by
    rw [unfit?_eq_none_iff]
    exact ⟨roomy.unlocked, roomy.fit record List.mem_cons_self⟩
  have absent : dataset.store.records.contains record.key = false :=
    (Table.contains_eq_false_iff ..).mpr (roomy.absent record List.mem_cons_self)
  have next : Store.endOf? dataset.store.nextRba record.storedLength
      = some (UInt64.ofNat (dataset.store.nextRba.toNat
        + record.storedLength)) := if_pos roomy.room_head
  simp only [event, perform, write, fit, absent, next]
  rfl

theorem nextRba_written (room :
    dataset.store.nextRba.toNat + record.storedLength < UInt64.size) :
    (dataset.written record).store.nextRba.toNat
      = dataset.store.nextRba.toNat + record.storedLength := by
  simp only [written, Store.put, UInt64.toNat_ofNat']
  exact Nat.mod_eq_of_lt room

theorem find?_written (key : Key) :
    (dataset.written record).store.find? key
      = if key = record.key then some (record.placedAt dataset.store.nextRba)
        else dataset.store.find? key := Table.find?_insert ..

theorem HasRoomFor.tail (roomy : dataset.HasRoomFor (record :: rest)) :
    (dataset.written record).HasRoomFor rest := by
  obtain ⟨fresh, distinct⟩ := List.nodup_cons.mp roomy.distinct
  refine ⟨roomy.unlocked, fun other member => roomy.fit other (List.mem_cons_of_mem _ member),
    distinct, ?_, ?_⟩
  · intro other member
    have differ : other.key ≠ record.key := by
      intro same
      exact fresh (same ▸ List.mem_map_of_mem member)
    rw [find?_written, if_neg differ]
    exact roomy.absent other (List.mem_cons_of_mem _ member)
  · have room := roomy.room
    rw [nextRba_written roomy.room_head]
    simp only [totalLength, List.foldr_cons] at room ⊢
    omega

/-- All writes succeed. -/
theorem HasRoomFor.answers (roomy : dataset.HasRoomFor records) (volume : Volume) :
    ∀ event ∈ dataset.events (writes volume records),
      ∃ rba, event.answer = .ok (.address (.rba rba)) := by
  induction records generalizing dataset with
  | nil => exact fun _ member => absurd member List.not_mem_nil
  | cons record rest ih =>
    intro event member
    rw [writes, List.map_cons, events, roomy.event_eq volume] at member
    rcases List.mem_cons.mp member with rfl | later
    · exact ⟨_, rfl⟩
    · exact ih roomy.tail event later

theorem HasRoomFor.follow_writes (roomy : dataset.HasRoomFor (record :: rest)) (volume : Volume) :
    dataset.follow (writes volume (record :: rest))
      = (dataset.written record).follow (writes volume rest) := by
  simp only [follow, writes, List.map_cons, List.foldl_cons, roomy.event_eq volume]

/-! ## Two writes in a row -/

theorem next_written_written
    (room : dataset.store.nextRba.toNat + record.storedLength
      + other.storedLength < UInt64.size) :
    ((dataset.written record).written other).store.nextRba
      = UInt64.ofNat (dataset.store.nextRba.toNat + record.storedLength
        + other.storedLength) := by
  rw [← nextRba_written (Nat.lt_of_le_of_lt (Nat.le_add_right ..) room)]
  rfl

theorem statistics_written_written
    (room : dataset.store.nextRba.toNat + record.storedLength
      + other.storedLength < UInt64.size) :
    ((dataset.written record).written other).statistics
      = ((dataset.statistics.allocate (allocatedFor dataset.definition
          ((dataset.written record).written other).store.nextRba)).countWrite
            (UInt64.ofNat record.storedLength)).countWrite
              (UInt64.ofNat other.storedLength) := by
  have notAbove : (dataset.written record).store.nextRba
      ≤ ((dataset.written record).written other).store.nextRba := by
    have first := nextRba_written (Nat.lt_of_le_of_lt (Nat.le_add_right ..) room)
    rw [← first] at room
    rw [UInt64.le_iff_toNat_le, nextRba_written room]
    exact Nat.le_add_right ..
  rw [← Statistics.allocate_allocate _ (allocatedFor_mono dataset.definition notAbove)]
  rfl

/-- Two writes in a row commute but for the addresses of their records. -/
theorem HasRoomFor.written_comm (roomy : dataset.HasRoomFor (record :: other :: rest))
    (named : record.key ∈ keys) (alsoNamed : other.key ∈ keys) :
    ((dataset.written record).written other).conceal keys
      = ((dataset.written other).written record).conceal keys := by
  have room := roomy.room
  simp only [totalLength, List.foldr_cons] at room
  have distinct := roomy.distinct
  simp only [List.map_cons, List.nodup_cons, List.mem_cons, not_or] at distinct
  have differ : record.key ≠ other.key := distinct.1.1
  have next : ((dataset.written record).written other).store.nextRba
      = ((dataset.written other).written record).store.nextRba := by
    rw [next_written_written (by omega), next_written_written (by omega), Nat.add_right_comm]
  have hidden (placed : Record) (rba : UInt64) (member : placed.key ∈ keys) :
      (placed.placedAt rba).conceal keys = { placed with address := .invalid } :=
    congrArg (fun address => { placed with address := address }) (if_pos member)
  have stores : ((dataset.written record).written other).store.conceal keys
      = ((dataset.written other).written record).store.conceal keys := by
    simp only [Store.conceal, next]
    congr 1
    simp only [written, Store.put, Table.mapValues_insert, hidden _ _ named,
      hidden _ _ alsoNamed]
    exact Table.insert_comm _ _ _ differ
  have counts : ((dataset.written record).written other).statistics
      = ((dataset.written other).written record).statistics := by
    rw [statistics_written_written (by omega), statistics_written_written (by omega), next]
    exact Statistics.countWrite_comm ..
  exact (conceal_with keys (Eq.refl (dataset.conceal keys)) stores
    (congrArg (fun statistics : Statistics => { statistics with reads := 0 }) counts) :)

/-- New records can be written in another order, and but for their addresses the dataset is the
same afterwards. -/
theorem HasRoomFor.conceal_follow_perm (roomy : dataset.HasRoomFor records)
    (reordered : records.Perm rest) (named : ∀ record ∈ records, record.key ∈ keys)
    (volume : Volume) :
    (dataset.follow (writes volume records)).conceal keys
      = (dataset.follow (writes volume rest)).conceal keys := by
  induction reordered generalizing dataset with
  | nil => rfl
  | cons record tail ih =>
    rw [roomy.follow_writes, (roomy.perm (tail.cons record)).follow_writes]
    exact ih roomy.tail fun other member => named other (List.mem_cons_of_mem _ member)
  | swap record other tail =>
    have swapped := roomy.perm (.swap record other tail)
    rw [roomy.follow_writes, roomy.tail.follow_writes, swapped.follow_writes,
      swapped.tail.follow_writes]
    -- The further writes do not ask for the addresses that the two orders differ in.
    have commuted := roomy.written_comm (named other List.mem_cons_self)
      (named record (List.mem_cons_of_mem _ List.mem_cons_self))
    exact (shown_events_of_conceal_eq commuted _).2
  | trans early late ih further =>
    exact (ih roomy named).trans
      (further (roomy.perm early) fun record member => named record (early.mem_iff.mpr member))

end Writing

/-! ## All orders -/

/-- New records that the definition admits, that are not stored yet and for which there is room can
be written in any order: every write succeeds, and the orders lead to the same keys and payloads,
next address, number of records and space.  All that is requested later, beside the same files,
shows the same, but for reads by address and for the addresses of these records. -/
theorem writes_in_any_order (definition : Definition) (location : Option String)
    (history : List Request) (first second : List Record) (volume : Volume)
    (opened : ∃ session, ((new definition location).follow history).session = some session ∧
      session.access.allowsOutput = true)
    (fit : ∀ record ∈ first, definition.refusal? record.key record.data = none)
    (distinct : (first.map Record.key).Nodup)
    (absent : ∀ record ∈ first,
      ((new definition location).follow history).store.find? record.key = none)
    (room : ((new definition location).follow history).store.nextRba.toNat + totalLength first
      < UInt64.size)
    (reordered : first.Perm second) :
    let start := (new definition location).follow history
    let keys := first.map Record.key
    let one := start.follow (writes volume first)
    let other := start.follow (writes volume second)
    (∀ event ∈ start.events (writes volume first) ++ start.events (writes volume second),
      ∃ rba, event.answer = .ok (.address (.rba rba))) ∧
    (∀ key, other.store.find? key = none ↔ one.store.find? key = none) ∧
    (∀ key record, one.store.find? key = some record →
      ∃ address, other.store.find? key = some { record with address := address } ∧
        (key ∉ keys → address = record.address)) ∧
    other.store.nextRba = one.store.nextRba ∧ other.size = one.size ∧
    other.statistics.bytesUsed = one.statistics.bytesUsed ∧
    other.statistics.bytesAllocated = one.statistics.bytesAllocated ∧
    ∀ later : List Request,
      (other.events later).map (Event.shown keys) = (one.events later).map (Event.shown keys) := by
  intro start keys one other
  have sound : Sound definition start := sound_follow definition location history
  have roomy : start.HasRoomFor first :=
    ⟨(locked?_eq_none_iff ..).mpr opened,
      fun record member => sound.definition_eq ▸ fit record member, distinct, absent, room⟩
  have same : other.conceal keys = one.conceal keys :=
    (roomy.conceal_follow_perm reordered (fun _ member => List.mem_map_of_mem member) volume).symm
  have stores : other.store.conceal keys = one.store.conceal keys := congrArg Dataset.store same
  have found (key : Key) : (other.store.find? key).map (Record.conceal keys)
      = (one.store.find? key).map (Record.conceal keys) := by
    rw [← Store.find?_conceal, stores, Store.find?_conceal]
  refine ⟨?_, ?_, ?_, (congrArg Store.nextRba stores :), ?_,
    congrArg (fun dataset => dataset.statistics.bytesUsed) same,
    congrArg (fun dataset => dataset.statistics.bytesAllocated) same,
    fun later => (shown_events_of_conceal_eq same later).1⟩
  · intro event member
    rcases List.mem_append.mp member with early | late
    · exact roomy.answers volume event early
    · exact (roomy.perm reordered).answers volume event late
  · intro key
    rw [← Option.map_eq_none_iff (f := Record.conceal keys), found, Option.map_eq_none_iff]
  · intro key record stands
    have image := found key
    rw [stands, Option.map_some, Option.map_eq_some_iff] at image
    obtain ⟨another, stored, alike⟩ := image
    obtain ⟨differs, elsewhere⟩ := Record.eq_of_conceal_eq alike
    have own : record.key = key := ((sound.follow _).consistent.proper key record stands).key_eq
    refine ⟨another.address, stored.trans (congrArg some differs), ?_⟩
    rw [← own]
    exact elsewhere
  · have sizes := congrArg (fun store : Store => store.records.size) stores
    simpa only [size, Store.size, Store.conceal, Table.size_mapValues] using sizes

/-- Three records beside an older one, written in two orders and read from the first key on. -/
theorem write_three_in_two_orders :
    let beside (operation : Operation) : Request := ⟨operation, .empty⟩
    let history := [.openFor ⟨.inputOutput, .dynamic⟩, .write (.new [5] [50])].map beside
    let first : List Record := [.new [3] [30], .new [1] [], .new [7] [70, 71]]
    let second : List Record := [.new [7] [70, 71], .new [3] [30], .new [1] []]
    let start := (new (.keyed "C" 4) none).follow history
    let one := start.follow (writes .empty first)
    let other := start.follow (writes .empty second)
    let later := [.startBrowse [1] true .forward, .readNext 1, .readNext 1,
      .readPrevious 1].map beside
    other.store.nextRba = one.store.nextRba ∧ one.store.nextRba = 8 ∧
      one.store.findAt? 2 = some (.live [3] [30] (.rba 2)) ∧
      other.store.findAt? 2 = some (.live [7] [70, 71] (.rba 2)) ∧
      (other.events later).map (Event.shown [[3], [1], [7]])
        = (one.events later).map (Event.shown [[3], [1], [7]]) := by
  intro beside history first second start one other later
  have opened : ∃ session, start.session = some session ∧ session.access.allowsOutput = true :=
    ⟨⟨.inputOutput, .dynamic⟩, by decide +kernel, rfl⟩
  obtain ⟨_, _, _, next, _, _, _, shown⟩ := writes_in_any_order (.keyed "C" 4) none history first
    second .empty opened (by decide +kernel) (by decide) (by decide +kernel) (by decide +kernel)
    (by decide)
  exact ⟨next, by decide +kernel, by decide +kernel, by decide +kernel, shown later⟩

end Dataset

end KeySequenced
