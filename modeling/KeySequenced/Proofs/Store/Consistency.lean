import KeySequenced.Proofs.Table.Neighbours
import KeySequenced.Store

/-!
# Consistent stores

A store is consistent when its records and its index of addresses tell the same
story: every record lies at a relative byte address that the index maps back to
its key, every indexed address is below the next one, and every record stands
under its own key and fits the definition.  Each change of a store keeps this,
and restoring a snapshot establishes it.
-/

set_option autoImplicit false

namespace KeySequenced

theorem Definition.refusal?_eq_none_iff (definition : Definition) (key : Key) (data : Bytes) :
    definition.refusal? key data = none ↔
      key ≠ [] ∧ key.length ≤ definition.keyLength.toNat ∧
        data.length ≤ definition.recordLimit.toNat := by
  unfold Definition.refusal?
  by_cases blank : key.length = 0
  · have nothing : key = [] := List.length_eq_zero_iff.mp blank
    simp [nothing]
  · have something : key ≠ [] := fun same => blank (by simp [same])
    by_cases long : definition.keyLength.toNat < key.length
    · simp [blank, long, Nat.not_le.mpr long]
    · by_cases large : definition.recordLimit.toNat < data.length
      · simp [blank, long, large]
      · simp [blank, long, large, something]
        omega

namespace Store

theorem endOf?_eq_some_iff (rba behind : UInt64) (length : Nat) :
    endOf? rba length = some behind ↔ behind.toNat = rba.toNat + length := by
  unfold endOf?
  have small := behind.toNat_lt
  constructor
  · intro success
    split at success
    · rename_i fits
      cases Option.some.inj success
      rw [UInt64.toNat_ofNat']
      exact Nat.mod_eq_of_lt fits
    · cases success
  · intro same
    have fits : rba.toNat + length < UInt64.size := by
      rw [← same]
      exact small
    rw [if_pos fits, ← same, UInt64.ofNat_toNat]

/-- The record stands under its own key and passes the check of the definition. -/
structure Proper (definition : Definition) (key : Key) (record : Record) : Prop where
  key_eq : record.key = key
  fits : definition.refusal? key record.data = none

/-- The records and the index of a store agree, and all indexed addresses are below the next. -/
structure Consistent (definition : Definition) (store : Store) : Prop where
  proper : ∀ key record, store.find? key = some record → Proper definition key record
  addressed : ∀ key record, store.find? key = some record →
    ∃ rba, record.address = .rba rba ∧ store.index.find? rba = some key
  indexed : ∀ rba key, store.index.find? rba = some key →
    ∃ record, store.find? key = some record ∧ record.address = .rba rba
  below : ∀ rba key, store.index.find? rba = some key → rba < store.nextRba

section Finding

variable (store : Store) (record stored : Record) (key other : Key) (data : Bytes)
  (rba place next : UInt64)

theorem find?_put :
    (store.put record next).find? other
      = if other = record.key then some record else store.find? other :=
  Table.find?_insert ..

theorem find?_replace :
    (store.replace key stored data).find? other
      = if other = key then some { stored with data := data } else store.find? other :=
  Table.find?_insert ..

theorem find?_remove :
    (store.remove key stored).find? other = if other = key then none else store.find? other :=
  Table.find?_erase ..

theorem index_put (address : record.address = .rba rba) :
    (store.put record next).index.find? place
      = if place = rba then some record.key else store.index.find? place := by
  simp only [put, Table.find?_insert, address, Address.offset, Address.rba?, Option.getD_some]

theorem index_remove (address : stored.address = .rba rba) :
    (store.remove key stored).index.find? place
      = if place = rba then none else store.index.find? place := by
  simp only [remove, Table.find?_erase, address, Address.offset, Address.rba?, Option.getD_some]

end Finding

section Changes

variable {definition : Definition} {store : Store}

theorem consistent_empty (definition : Definition) (next : UInt64) :
    Consistent definition { empty with nextRba := next } where
  proper key record found := by simp [find?, empty] at found
  addressed key record found := by simp [find?, empty] at found
  indexed rba key found := by simp [empty] at found
  below rba key found := by simp [empty] at found

theorem Consistent.index_nextRba (consistent : Consistent definition store) :
    store.index.find? store.nextRba = none := by
  cases found : store.index.find? store.nextRba with
  | none => rfl
  | some key => exact absurd (consistent.below _ key found) (UInt64.lt_irrefl _)

/-- Two records of one address are one record. -/
theorem Consistent.key_eq_of_address_eq (consistent : Consistent definition store)
    {key other : Key} {record second : Record} (found : store.find? key = some record)
    (foundSecond : store.find? other = some second) (same : record.address = second.address) :
    key = other := by
  obtain ⟨rba, address, index⟩ := consistent.addressed key record found
  obtain ⟨_, addressSecond, indexSecond⟩ := consistent.addressed other second foundSecond
  rw [same, addressSecond] at address
  cases address
  exact Option.some.inj (index.symm.trans indexSecond)

theorem Consistent.put (consistent : Consistent definition store) {record : Record}
    {rba next : UInt64} (address : record.address = .rba rba)
    (newAddress : store.index.find? rba = none) (newKey : store.find? record.key = none)
    (proper : Proper definition record.key record) (less : rba < next)
    (grows : store.nextRba ≤ next) : Consistent definition (store.put record next) := by
  refine ⟨?_, ?_, ?_, ?_⟩
  · intro key found stands
    rw [find?_put] at stands
    split at stands
    · rename_i same
      cases Option.some.inj stands
      rw [same]
      exact proper
    · exact consistent.proper key found stands
  · intro key found stands
    rw [find?_put] at stands
    split at stands
    · rename_i same
      cases Option.some.inj stands
      exact ⟨rba, address, by rw [index_put _ _ _ _ _ address, if_pos rfl, same]⟩
    · obtain ⟨old, oldAddress, oldIndex⟩ := consistent.addressed key found stands
      have differ : old ≠ rba := by
        intro same
        rw [same, newAddress] at oldIndex
        cases oldIndex
      exact ⟨old, oldAddress, by rw [index_put _ _ _ _ _ address, if_neg differ, oldIndex]⟩
  · intro place key stands
    rw [index_put _ _ _ _ _ address] at stands
    split at stands
    · rename_i same
      cases Option.some.inj stands
      exact ⟨record, by rw [find?_put, if_pos rfl], by rw [same, address]⟩
    · obtain ⟨found, oldFound, oldAddress⟩ := consistent.indexed place key stands
      have differ : key ≠ record.key := by
        intro same
        rw [same, newKey] at oldFound
        cases oldFound
      exact ⟨found, by rw [find?_put, if_neg differ, oldFound], oldAddress⟩
  · intro place key stands
    rw [index_put _ _ _ _ _ address] at stands
    split at stands
    · rename_i same
      rw [same]
      exact less
    · exact UInt64.lt_of_lt_of_le (consistent.below place key stands) grows

theorem Consistent.replace (consistent : Consistent definition store) {key : Key}
    {stored : Record} {data : Bytes} (found : store.find? key = some stored)
    (fits : definition.refusal? key data = none) :
    Consistent definition (store.replace key stored data) := by
  have old := consistent.proper key stored found
  refine ⟨?_, ?_, ?_, consistent.below⟩
  · intro other record stands
    rw [find?_replace] at stands
    split at stands
    · rename_i same
      cases Option.some.inj stands
      rw [same]
      exact ⟨old.key_eq, fits⟩
    · exact consistent.proper other record stands
  · intro other record stands
    rw [find?_replace] at stands
    split at stands
    · rename_i same
      cases Option.some.inj stands
      rw [same]
      exact consistent.addressed key stored found
    · exact consistent.addressed other record stands
  · intro rba other stands
    obtain ⟨record, oldFound, address⟩ := consistent.indexed rba other stands
    rw [find?_replace]
    split
    · rename_i same
      rw [same, found] at oldFound
      cases Option.some.inj oldFound
      exact ⟨_, rfl, address⟩
    · exact ⟨record, oldFound, address⟩

theorem Consistent.remove (consistent : Consistent definition store) {key : Key}
    {stored : Record} (found : store.find? key = some stored) :
    Consistent definition (store.remove key stored) := by
  obtain ⟨rba, address, index⟩ := consistent.addressed key stored found
  have kept : ∀ other record, (store.remove key stored).find? other = some record →
      other ≠ key ∧ store.find? other = some record := by
    intro other record stands
    rw [find?_remove] at stands
    split at stands
    · cases stands
    · rename_i differ
      exact ⟨differ, stands⟩
  refine ⟨?_, ?_, ?_, ?_⟩
  · intro other record stands
    exact consistent.proper other record (kept other record stands).2
  · intro other record stands
    obtain ⟨differ, old⟩ := kept other record stands
    obtain ⟨place, oldAddress, oldIndex⟩ := consistent.addressed other record old
    have elsewhere : place ≠ rba := by
      intro same
      rw [same, index] at oldIndex
      exact differ (Option.some.inj oldIndex).symm
    exact ⟨place, oldAddress, by rw [index_remove _ _ _ _ _ address, if_neg elsewhere, oldIndex]⟩
  · intro place other stands
    rw [index_remove _ _ _ _ _ address] at stands
    split at stands
    · cases stands
    · rename_i elsewhere
      obtain ⟨record, old, oldAddress⟩ := consistent.indexed place other stands
      have differ : other ≠ key := by
        intro same
        rw [same, found] at old
        cases Option.some.inj old
        rw [address] at oldAddress
        cases oldAddress
        exact elsewhere rfl
      exact ⟨record, by rw [find?_remove, if_neg differ, old], oldAddress⟩
  · intro place other stands
    rw [index_remove _ _ _ _ _ address] at stands
    split at stands
    · cases stands
    · exact consistent.below place other stands

end Changes

/-! ## Restoring -/

section Restoring

variable {definition : Definition} {store : Store}

/-- What restoring one record asks of it, and the store that it leaves. -/
theorem restore_eq_ok_iff (definition : Definition) (store after : Store) (record : Record) :
    restore definition store record = .ok after ↔
      definition.refusal? record.key record.data = none ∧
        ∃ rba behind, record.address = .rba rba ∧
          endOf? rba record.storedLength = some behind ∧
          store.index.find? rba = none ∧ store.find? record.key = none ∧
          after = store.put record (if store.nextRba < behind then behind else store.nextRba) := by
  unfold restore
  cases refusal : definition.refusal? record.key record.data with
  | some refusal => simp
  | none =>
    cases address : record.address with
    | invalid => simp [Address.rba?]
    | rrn number => simp [Address.rba?]
    | rba rba =>
      cases room : endOf? rba record.storedLength with
      | none => simp [Address.rba?, room]
      | some behind =>
        by_cases taken : store.index.contains rba = true
        · obtain ⟨key, index⟩ := (Table.contains_iff _ _).mp taken
          simp [Address.rba?, room, taken, index]
        · have free := (Table.contains_eq_false_iff _ _).mp (Bool.not_eq_true _ ▸ taken)
          by_cases stored : store.records.contains record.key = true
          · obtain ⟨found, stands⟩ := (Table.contains_iff _ _).mp stored
            simp [Address.rba?, room, taken, stored, find?, stands]
          · have absent := (Table.contains_eq_false_iff _ _).mp (Bool.not_eq_true _ ▸ stored)
            simp [Address.rba?, room, taken, stored, find?, absent, free, eq_comm]

theorem Consistent.restore (consistent : Consistent definition store) {record : Record}
    {after : Store} (success : restore definition store record = .ok after) :
    Consistent definition after := by
  obtain ⟨fits, rba, behind, address, room, newAddress, newKey, same⟩ :=
    (restore_eq_ok_iff _ _ _ _).mp success
  have nonempty := ((definition.refusal?_eq_none_iff _ _).mp fits).1
  have length : 0 < record.key.length := List.length_pos_iff.mpr nonempty
  have ends := (endOf?_eq_some_iff _ _ _).mp room
  simp only [Record.storedLength] at ends
  have less : rba < behind := by
    rw [UInt64.lt_iff_toNat_lt]
    omega
  rw [same]
  refine consistent.put address newAddress newKey ⟨rfl, fits⟩ ?_ ?_
  · split
    · exact less
    · rename_i notBelow
      exact UInt64.lt_of_lt_of_le less (UInt64.not_lt.mp notBelow)
  · split
    · rename_i below
      exact UInt64.le_of_lt below
    · exact UInt64.le_refl _

/-- What restoring each of the records keeps, restoring all of them keeps. -/
theorem keeps_restoreAll {motive : Store → Prop} (records : List Record)
    (step : ∀ record ∈ records, ∀ store next, motive store →
      restore definition store record = .ok next → motive next)
    (begun : motive store) {after : Store}
    (success : records.foldlM (restore definition) store = .ok after) : motive after := by
  induction records generalizing store with
  | nil =>
    cases success
    exact begun
  | cons record rest ih =>
    rw [List.foldlM_cons] at success
    cases first : restore definition store record with
    | error fault =>
      rw [first] at success
      cases success
    | ok next =>
      rw [first] at success
      exact ih (fun other member => step other (List.mem_cons_of_mem _ member))
        (step record List.mem_cons_self store next begun first) success

theorem consistent_ofSnapshot {snapshot : Snapshot}
    (success : ofSnapshot definition snapshot = .ok store) : Consistent definition store :=
  keeps_restoreAll snapshot.records (fun _ _ _ _ consistent => consistent.restore)
    (consistent_empty definition snapshot.nextRba) success

theorem nextRba_le_of_restore {record : Record} {after : Store}
    (success : restore definition store record = .ok after) : store.nextRba ≤ after.nextRba := by
  obtain ⟨_, _, behind, _, _, _, _, same⟩ := (restore_eq_ok_iff _ _ _ _).mp success
  rw [same]
  simp only [put]
  split
  · rename_i below
    exact UInt64.le_of_lt below
  · exact UInt64.le_refl _

/-- The next address of a restored store is not below the one in the snapshot. -/
theorem nextRba_le_ofSnapshot {snapshot : Snapshot}
    (success : ofSnapshot definition snapshot = .ok store) : snapshot.nextRba ≤ store.nextRba :=
  keeps_restoreAll snapshot.records
    (fun _ _ _ _ notBelow restored => UInt64.le_trans notBelow (nextRba_le_of_restore restored))
    (UInt64.le_refl _) success

end Restoring

end Store

end KeySequenced
