import KeySequenced.Cursor
import KeySequenced.Proofs.Store.Consistency

/-!
# The nearest record in a direction

Both directions order the keys strictly.  The nearest record beyond a key is
the one that no other record beyond that key precedes.
-/

set_option autoImplicit false

namespace KeySequenced

/-! ## The order of a direction -/

namespace Direction

/-- In this direction `key` comes before `other`. -/
def Precedes : Direction → Key → Key → Prop
  | .forward, key, other => key < other
  | .backward, key, other => other < key

instance : (direction : Direction) → (key other : Key) → Decidable (direction.Precedes key other)
  | .forward, key, other => inferInstanceAs (Decidable (key < other))
  | .backward, key, other => inferInstanceAs (Decidable (other < key))

variable {direction : Direction} {first second third : Key}

theorem Precedes.irrefl (direction : Direction) (key : Key) : ¬ direction.Precedes key key := by
  cases direction <;> exact Table.KeyOrder.irreflexive key

theorem Precedes.trans (before : direction.Precedes first second)
    (after : direction.Precedes second third) : direction.Precedes first third := by
  cases direction with
  | forward =>
    change first < second at before
    exact Table.KeyOrder.transitive before after
  | backward =>
    change second < first at before
    exact Table.KeyOrder.transitive after before

theorem Precedes.connected (notBefore : ¬ direction.Precedes first second) :
    second = first ∨ direction.Precedes second first := by
  by_cases same : second = first
  · exact .inl same
  · right
    cases direction with
    | forward => exact Table.KeyOrder.connected notBefore (Ne.symm same)
    | backward => exact Table.KeyOrder.connected notBefore same

end Direction

/-! ## The nearest record -/

namespace Store

variable {store : Store} {direction : Direction} {key : Key}

/-- The record is the next one of the store beyond a key. -/
structure Nearest (store : Store) (direction : Direction) (key : Key) (record : Record) :
    Prop where
  stored : store.find? record.key = some record
  beyond : direction.Precedes key record.key
  nearest : ∀ other, store.find? other ≠ none → direction.Precedes key other →
    other = record.key ∨ direction.Precedes record.key other

theorem mem_toList_of_find? {record : Record} (found : store.find? key = some record) :
    (key, record) ∈ store.records.toList :=
  (store.records.find?_eq_some_iff key record).mp found

/-- An entry that comes first among the entries beyond a key is the nearest record. -/
theorem Consistent.nearest {definition : Definition} (consistent : Consistent definition store)
    {entry : Key × Record} (member : entry ∈ store.records.toList)
    (beyond : direction.Precedes key entry.1)
    (first : ∀ other ∈ store.records.toList, direction.Precedes key other.1 →
      other = entry ∨ direction.Precedes entry.1 other.1) :
    Nearest store direction key entry.2 := by
  have found := (store.records.find?_eq_some_iff entry.1 entry.2).mpr member
  have same := (consistent.proper entry.1 entry.2 found).key_eq
  refine ⟨?_, ?_, ?_⟩
  · rw [same]
    exact found
  · rw [same]
    exact beyond
  · intro other stored further
    obtain ⟨record, stands⟩ := Option.ne_none_iff_exists'.mp stored
    rw [same]
    rcases first (other, record) (mem_toList_of_find? stands) further with rfl | later
    · exact .inl rfl
    · exact .inr later

end Store

end KeySequenced
