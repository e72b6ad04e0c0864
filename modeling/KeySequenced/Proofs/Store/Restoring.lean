import KeySequenced.Proofs.Store.Consistency

/-!
# Restoring what a store holds

A list of records can be restored exactly when each of them fits the definition
and ends within the address space, and no two share a key or an address.  The
records of a consistent store are such a list, but for their ends, so restoring
its snapshot gives its records and its index back; the next address is raised to
the furthest end of a record.
-/

set_option autoImplicit false

namespace KeySequenced

/-- The first address behind the space of the record. -/
def Record.ends (record : Record) : Nat := record.address.offset.toNat + record.storedLength

namespace Store

/-- The greatest of an address and the ends of records. -/
def furthest (records : List Record) (next : Nat) : Nat :=
  records.foldl (fun top record => max top record.ends) next

/-- The records can be restored to the store one after the other. -/
structure Restorable (definition : Definition) (store : Store) (records : List Record) :
    Prop where
  fits : ∀ record ∈ records, definition.refusal? record.key record.data = none
  ends : ∀ record ∈ records, record.ends < UInt64.size
  addressed : ∀ record ∈ records,
    ∃ rba, record.address = .rba rba ∧ store.index.find? rba = none
  absent : ∀ record ∈ records, store.find? record.key = none
  keys : records.Pairwise fun record other => record.key ≠ other.key
  addresses : records.Pairwise fun record other => record.address ≠ other.address

/-- The later store holds the records besides those of the earlier one. -/
structure Restored (store after : Store) (records : List Record) : Prop where
  find?_iff : ∀ key record, after.find? key = some record ↔
    (record ∈ records ∧ record.key = key) ∨ store.find? key = some record
  index_iff : ∀ rba key, after.index.find? rba = some key ↔
    (∃ record ∈ records, record.key = key ∧ record.address = .rba rba) ∨
      store.index.find? rba = some key
  nextRba_eq : after.nextRba.toNat = furthest records store.nextRba.toNat

section Restoring

variable {definition : Definition} {store : Store} {record : Record} {records : List Record}

theorem find?_put_eq_some_iff (absent : store.find? record.key = none) (next : UInt64) (key : Key)
    (found : Record) :
    (store.put record next).find? key = some found ↔
      (found = record ∧ found.key = key) ∨ store.find? key = some found := by
  rw [find?_put]
  split
  · rename_i same
    rw [same, absent]
    constructor
    · intro put
      cases put
      exact .inl ⟨rfl, rfl⟩
    · rintro (⟨rfl, _⟩ | stored)
      · rfl
      · cases stored
  · rename_i differ
    constructor
    · exact .inr
    · rintro (⟨rfl, same⟩ | stored)
      · exact absurd same.symm differ
      · exact stored

theorem index_put_eq_some_iff {rba : UInt64} (address : record.address = .rba rba)
    (free : store.index.find? rba = none) (next place : UInt64) (key : Key) :
    (store.put record next).index.find? place = some key ↔
      (record.key = key ∧ record.address = .rba place) ∨ store.index.find? place = some key := by
  rw [index_put _ _ _ _ _ address, address]
  split
  · rename_i same
    rw [same, free]
    simp
  · rename_i differ
    have elsewhere : Address.rba rba ≠ .rba place := by
      intro same
      cases same
      exact differ rfl
    simp [elsewhere]

theorem Restorable.restore (restorable : Restorable definition store (record :: records)) :
    ∃ rba next, record.address = .rba rba ∧ store.index.find? rba = none ∧
      next.toNat = max store.nextRba.toNat record.ends ∧
      Store.restore definition store record = .ok (store.put record next) := by
  obtain ⟨rba, address, free⟩ := restorable.addressed record List.mem_cons_self
  have fits := restorable.fits record List.mem_cons_self
  have absent := restorable.absent record List.mem_cons_self
  have within := restorable.ends record List.mem_cons_self
  simp only [Record.ends, address, Address.offset, Address.rba?, Option.getD_some] at within ⊢
  let behind := UInt64.ofNat (rba.toNat + record.storedLength)
  have ends : behind.toNat = rba.toNat + record.storedLength := by
    rw [UInt64.toNat_ofNat']
    exact Nat.mod_eq_of_lt within
  refine ⟨rba, if store.nextRba < behind then behind else store.nextRba, rfl, free, ?_, ?_⟩
  · rw [← ends]
    split
    · rename_i less
      rw [UInt64.lt_iff_toNat_lt] at less
      omega
    · rename_i notLess
      rw [UInt64.lt_iff_toNat_lt] at notLess
      omega
  · exact (restore_eq_ok_iff _ _ _ _).mpr
      ⟨fits, rba, behind, address, (endOf?_eq_some_iff _ _ _).mpr ends, free, absent, rfl⟩

theorem Restorable.tail {rba : UInt64}
    (restorable : Restorable definition store (record :: records))
    (address : record.address = .rba rba) (next : UInt64) :
    Restorable definition (store.put record next) records := by
  have later {other : Record} (member : other ∈ records) : other ∈ record :: records :=
    List.mem_cons_of_mem _ member
  obtain ⟨newKey, keys⟩ := List.pairwise_cons.mp restorable.keys
  obtain ⟨newAddress, addresses⟩ := List.pairwise_cons.mp restorable.addresses
  refine ⟨fun other member => restorable.fits other (later member),
    fun other member => restorable.ends other (later member), ?_, ?_, keys, addresses⟩
  · intro other member
    obtain ⟨place, otherAddress, free⟩ := restorable.addressed other (later member)
    refine ⟨place, otherAddress, ?_⟩
    have differ : place ≠ rba := by
      rintro rfl
      exact newAddress other member (address.trans otherAddress.symm)
    rw [index_put _ _ _ _ _ address, if_neg differ]
    exact free
  · intro other member
    rw [find?_put, if_neg (newKey other member).symm]
    exact restorable.absent other (later member)

/-- Restorable records are restored, and nothing else happens to the store. -/
theorem Restorable.restoreAll (restorable : Restorable definition store records) :
    ∃ after, records.foldlM (Store.restore definition) store = .ok after ∧
      Restored store after records := by
  induction records generalizing store with
  | nil =>
    refine ⟨store, rfl, ?_, ?_, rfl⟩
    · simp
    · simp
  | cons record rest ih =>
    obtain ⟨rba, next, address, free, grown, first⟩ := restorable.restore
    obtain ⟨after, success, restored⟩ := ih (restorable.tail address next)
    have absent := restorable.absent record List.mem_cons_self
    refine ⟨after, ?_, ?_, ?_, ?_⟩
    · rw [List.foldlM_cons, first]
      exact success
    · intro key found
      rw [restored.find?_iff, find?_put_eq_some_iff absent, List.mem_cons, or_and_right, or_assoc,
        or_left_comm]
    · intro place key
      rw [restored.index_iff, index_put_eq_some_iff address free, or_left_comm]
      simp only [List.mem_cons, exists_eq_or_imp, or_assoc]
    · rw [restored.nextRba_eq]
      simp only [furthest, List.foldl_cons, put, grown]

/-- A record that can be restored goes before others that can be restored after it. -/
theorem Restorable.cons {rba behind next : UInt64}
    (fits : definition.refusal? record.key record.data = none)
    (address : record.address = .rba rba) (room : endOf? rba record.storedLength = some behind)
    (free : store.index.find? rba = none) (absent : store.find? record.key = none)
    (later : Restorable definition (store.put record next) records) :
    Restorable definition store (record :: records) := by
  have ends : record.ends = behind.toNat := by
    simp only [Record.ends, address, Address.offset, Address.rba?, Option.getD_some]
    exact ((endOf?_eq_some_iff _ _ _).mp room).symm
  -- The store with the record in it has neither the keys nor the addresses of the others.
  have newKey : ∀ other ∈ records, other.key ≠ record.key ∧ store.find? other.key = none := by
    intro other member
    have missing := later.absent other member
    rw [find?_put] at missing
    split at missing
    · cases missing
    · rename_i differ
      exact ⟨differ, missing⟩
  have newAddress : ∀ other ∈ records, other.address ≠ record.address ∧
      ∃ place, other.address = .rba place ∧ store.index.find? place = none := by
    intro other member
    obtain ⟨place, placed, missing⟩ := later.addressed other member
    rw [index_put _ _ _ _ _ address] at missing
    split at missing
    · cases missing
    · rename_i differ
      refine ⟨?_, place, placed, missing⟩
      rw [placed, address]
      exact fun same => differ (Address.rba.inj same)
  refine ⟨?_, ?_, ?_, ?_, ?_, ?_⟩
  · exact List.forall_mem_cons.mpr ⟨fits, later.fits⟩
  · exact List.forall_mem_cons.mpr ⟨ends ▸ behind.toNat_lt, later.ends⟩
  · exact List.forall_mem_cons.mpr
      ⟨⟨rba, address, free⟩, fun other member => (newAddress other member).2⟩
  · exact List.forall_mem_cons.mpr ⟨absent, fun other member => (newKey other member).2⟩
  · exact List.pairwise_cons.mpr ⟨fun other member => (newKey other member).1.symm, later.keys⟩
  · exact List.pairwise_cons.mpr
      ⟨fun other member => (newAddress other member).1.symm, later.addresses⟩

/-- Nothing but restorable records is restored. -/
theorem restorable_of_restoreAll {after : Store}
    (success : records.foldlM (Store.restore definition) store = .ok after) :
    Restorable definition store records := by
  induction records generalizing store with
  | nil => exact ⟨by simp, by simp, by simp, by simp, .nil, .nil⟩
  | cons record rest ih =>
    rw [List.foldlM_cons] at success
    cases first : Store.restore definition store record with
    | error fault =>
      rw [first] at success
      cases success
    | ok next =>
      rw [first] at success
      obtain ⟨fits, rba, behind, address, room, free, absent, rfl⟩ :=
        (restore_eq_ok_iff _ _ _ _).mp first
      exact .cons fits address room free absent (ih success)

end Restoring

/-! ## The snapshot of a store -/

section Snapshots

variable {definition : Definition} {store : Store}

theorem mem_toList_iff (store : Store) (record : Record) :
    record ∈ store.toList ↔ ∃ key, store.find? key = some record := by
  simp only [toList, find?, List.mem_map, Table.find?_eq_some_iff]
  constructor
  · rintro ⟨⟨key, _⟩, member, rfl⟩
    exact ⟨key, member⟩
  · rintro ⟨key, member⟩
    exact ⟨⟨key, record⟩, member, rfl⟩

theorem Consistent.mem_toList_iff (consistent : Consistent definition store) (record : Record) :
    record ∈ store.toList ↔ store.find? record.key = some record := by
  rw [Store.mem_toList_iff]
  constructor
  · rintro ⟨key, found⟩
    rw [(consistent.proper key record found).key_eq]
    exact found
  · intro found
    exact ⟨record.key, found⟩

theorem Consistent.sorted (consistent : Consistent definition store) :
    store.toList.Pairwise fun record other => record.key < other.key := by
  rw [toList, List.pairwise_map]
  apply store.records.ascending_toList.imp_of_mem
  intro entry other member otherMember less
  rw [(consistent.proper entry.1 entry.2 ((store.records.find?_eq_some_iff _ _).mpr member)).key_eq,
    (consistent.proper other.1 other.2
      ((store.records.find?_eq_some_iff _ _).mpr otherMember)).key_eq]
  exact less

theorem Consistent.pairwise_key (consistent : Consistent definition store) :
    store.toList.Pairwise fun record other => record.key ≠ other.key := by
  apply consistent.sorted.imp
  intro record other less same
  rw [same] at less
  exact Table.KeyOrder.irreflexive _ less

/-- Records that ascend by their keys and are those of the store are its list. -/
theorem Consistent.toList_eq (consistent : Consistent definition store) {records : List Record}
    (sorted : records.Pairwise fun record other => record.key < other.key)
    (members : ∀ record, record ∈ records ↔ store.find? record.key = some record) :
    store.toList = records := by
  have less {record other : Record} (first : record.key < other.key)
      (second : other.key < record.key) : record = other :=
    absurd (Table.KeyOrder.transitive first second) (Table.KeyOrder.irreflexive _)
  have distinct {records : List Record}
      (sorted : records.Pairwise fun record other => record.key < other.key) : records.Nodup := by
    apply sorted.imp
    intro record other before same
    rw [same] at before
    exact Table.KeyOrder.irreflexive _ before
  apply List.Perm.eq_of_pairwise (fun _ _ _ _ => less) consistent.sorted sorted
  rw [List.perm_ext_iff_of_nodup (distinct consistent.sorted) (distinct sorted)]
  intro record
  rw [consistent.mem_toList_iff, members]

theorem Consistent.pairwise_address (consistent : Consistent definition store) :
    store.toList.Pairwise fun record other => record.address ≠ other.address := by
  apply consistent.pairwise_key.imp_of_mem
  intro record other member otherMember differ same
  exact differ (consistent.key_eq_of_address_eq ((consistent.mem_toList_iff _).mp member)
    ((consistent.mem_toList_iff _).mp otherMember) same)

/-- There are no more records than addresses. -/
theorem Consistent.length_toList_lt (consistent : Consistent definition store) :
    store.toList.length < UInt64.size := by
  have placed : ∀ record ∈ store.toList, record.address.offset.toNat < store.nextRba.toNat := by
    intro record member
    have found := (consistent.mem_toList_iff record).mp member
    obtain ⟨rba, address, index⟩ := consistent.addressed _ _ found
    rw [address]
    exact UInt64.lt_iff_toNat_lt.mp (consistent.below rba _ index)
  have distinct : (store.toList.map fun record => record.address.offset.toNat).Nodup := by
    rw [List.nodup_iff_pairwise_ne, List.pairwise_map]
    apply consistent.pairwise_address.imp_of_mem
    intro record other member otherMember differ same
    obtain ⟨rba, address, _⟩ :=
      consistent.addressed _ _ ((consistent.mem_toList_iff record).mp member)
    obtain ⟨place, otherAddress, _⟩ :=
      consistent.addressed _ _ ((consistent.mem_toList_iff other).mp otherMember)
    rw [address, otherAddress] at same differ
    exact differ (congrArg Address.rba (UInt64.toNat_inj.mp same))
  have fewer : (store.toList.map fun record => record.address.offset.toNat).length
      ≤ (List.range store.nextRba.toNat).length := by
    apply distinct.length_le_of_subset
    intro offset member
    obtain ⟨record, stored, rfl⟩ := List.mem_map.mp member
    exact List.mem_range.mpr (placed record stored)
  rw [List.length_map, List.length_range] at fewer
  exact Nat.lt_of_le_of_lt fewer store.nextRba.toNat_lt

theorem Consistent.restorable (consistent : Consistent definition store)
    (ends : ∀ record ∈ store.toList, record.ends < UInt64.size) (next : UInt64) :
    Restorable definition { empty with nextRba := next } store.toList where
  fits record member :=
    (consistent.proper _ _ ((consistent.mem_toList_iff record).mp member)).fits
  ends := ends
  addressed record member := by
    obtain ⟨rba, address, _⟩ :=
      consistent.addressed _ _ ((consistent.mem_toList_iff record).mp member)
    exact ⟨rba, address, by simp [empty]⟩
  absent record _ := by simp [find?, empty]
  keys := consistent.pairwise_key
  addresses := consistent.pairwise_address

/-- A store into which the records of another one are restored is that one. -/
theorem Consistent.eq_of_restored (consistent : Consistent definition store) {next : UInt64}
    {after : Store} (restored : Restored { empty with nextRba := next } after store.toList) :
    after.records = store.records ∧ after.index = store.index := by
  refine ⟨?_, ?_⟩
  · apply Table.ext_find?
    intro key
    apply Option.ext
    intro record
    apply (restored.find?_iff key record).trans
    constructor
    · rintro (⟨member, rfl⟩ | found)
      · exact (consistent.mem_toList_iff record).mp member
      · simp [find?, empty] at found
    · intro found
      exact .inl ⟨(store.mem_toList_iff record).mpr ⟨key, found⟩,
        (consistent.proper key record found).key_eq⟩
  · apply Table.ext_find?
    intro rba
    apply Option.ext
    intro key
    apply (restored.index_iff rba key).trans
    constructor
    · rintro (⟨record, member, rfl, address⟩ | found)
      · obtain ⟨place, same, index⟩ :=
          consistent.addressed _ _ ((consistent.mem_toList_iff record).mp member)
        rw [address] at same
        cases same
        exact index
      · simp [empty] at found
    · intro index
      obtain ⟨record, found, address⟩ := consistent.indexed rba key index
      exact .inl ⟨record, (store.mem_toList_iff record).mpr ⟨key, found⟩,
        (consistent.proper key record found).key_eq, address⟩

/-- Restoring the snapshot of a store gives its records and its index back. -/
theorem Consistent.ofSnapshot_toSnapshot (consistent : Consistent definition store)
    (ends : ∀ record ∈ store.toList, record.ends < UInt64.size) :
    ∃ after, ofSnapshot definition store.toSnapshot = .ok after ∧
      after.records = store.records ∧ after.index = store.index ∧
      after.nextRba.toNat = furthest store.toList store.nextRba.toNat := by
  obtain ⟨after, success, restored⟩ := (consistent.restorable ends store.nextRba).restoreAll
  obtain ⟨records, index⟩ := consistent.eq_of_restored restored
  exact ⟨after, success, records, index, restored.nextRba_eq⟩

/-- Under whatever definition a snapshot is restored, it gives all records back, which then end
within the address space. -/
theorem Consistent.of_ofSnapshot (consistent : Consistent definition store)
    {other : Definition} {after : Store}
    (success : ofSnapshot other store.toSnapshot = .ok after) :
    after.records = store.records ∧ ∀ record ∈ store.toList, record.ends < UInt64.size := by
  have restorable : Restorable other { empty with nextRba := store.nextRba } store.toList :=
    restorable_of_restoreAll success
  obtain ⟨same, again, restored⟩ := restorable.restoreAll
  cases success.symm.trans again
  exact ⟨(consistent.eq_of_restored restored).1, restorable.ends⟩

theorem furthest_eq_self {records : List Record} {next : Nat}
    (within : ∀ record ∈ records, record.ends ≤ next) : furthest records next = next := by
  induction records with
  | nil => rfl
  | cons record rest ih =>
    have short := within record List.mem_cons_self
    have later := ih fun other member => within other (List.mem_cons_of_mem _ member)
    simp only [furthest, List.foldl_cons, Nat.max_eq_left short]
    exact later

end Snapshots

end Store

end KeySequenced
