import KeySequenced.Bytes.Basic

/-!
# Words that do not begin one another

Byte strings of which none begins another one need no marks between them: what
begins with one of them begins with no other, and where one sequence of them
continues another one it does so word by word.
-/

set_option autoImplicit false

namespace KeySequenced

def PrefixFree (words : Bytes → Prop) : Prop :=
  ∀ word other, words word → words other → word <+: other → word = other

section PrefixFree

variable {words : Bytes → Prop}

theorem PrefixFree.append_inj (free : PrefixFree words) {word other rest more : Bytes}
    (isWord : words word) (isOther : words other) (same : word ++ rest = other ++ more) :
    word = other ∧ rest = more := by
  have starts : word <+: other ++ more := ⟨rest, same⟩
  have otherStarts : other <+: other ++ more := ⟨more, rfl⟩
  have equal : word = other := by
    rcases Nat.le_total word.length other.length with shorter | longer
    · exact free word other isWord isOther
        (List.prefix_of_prefix_length_le starts otherStarts shorter)
    · exact (free other word isOther isWord
        (List.prefix_of_prefix_length_le otherStarts starts longer)).symm
  subst equal
  exact ⟨rfl, List.append_cancel_left same⟩

/-- A sequence of words that another one continues is the beginning of it. -/
theorem PrefixFree.exists_append (free : PrefixFree words) {first second : List Bytes}
    {rest : Bytes} (areWords : ∀ word ∈ first, words word) (alsoWords : ∀ word ∈ second, words word)
    (fewer : first.length ≤ second.length) (same : first.flatten ++ rest = second.flatten) :
    ∃ more, second = first ++ more ∧ rest = more.flatten := by
  induction first generalizing second with
  | nil => exact ⟨second, rfl, same⟩
  | cons word first ih =>
    cases second with
    | nil => exact absurd fewer (Nat.not_succ_le_zero _)
    | cons other second =>
      obtain ⟨isWord, areLater⟩ := List.forall_mem_cons.mp areWords
      obtain ⟨isOther, alsoLater⟩ := List.forall_mem_cons.mp alsoWords
      rw [List.flatten_cons, List.flatten_cons, List.append_assoc] at same
      obtain ⟨rfl, later⟩ := free.append_inj isWord isOther same
      obtain ⟨more, rfl, ends⟩ := ih areLater alsoLater (Nat.le_of_succ_le_succ fewer) later
      exact ⟨more, rfl, ends⟩

theorem PrefixFree.flatten_inj (free : PrefixFree words) (nonempty : ¬ words [])
    {first second : List Bytes} (areWords : ∀ word ∈ first, words word)
    (alsoWords : ∀ word ∈ second, words word) (same : first.flatten = second.flatten) :
    first = second := by
  induction first generalizing second with
  | nil =>
    cases second with
    | nil => rfl
    | cons other second =>
      have blank := (List.append_eq_nil_iff.mp same.symm).1
      exact absurd (blank ▸ alsoWords other List.mem_cons_self) nonempty
  | cons word first ih =>
    cases second with
    | nil =>
      have blank := (List.append_eq_nil_iff.mp same).1
      exact absurd (blank ▸ areWords word List.mem_cons_self) nonempty
    | cons other second =>
      obtain ⟨isWord, areLater⟩ := List.forall_mem_cons.mp areWords
      obtain ⟨isOther, alsoLater⟩ := List.forall_mem_cons.mp alsoWords
      obtain ⟨rfl, later⟩ := free.append_inj isWord isOther same
      rw [ih areLater alsoLater later]

end PrefixFree

end KeySequenced
