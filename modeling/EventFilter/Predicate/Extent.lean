import EventFilter.Predicate.Grammar

/-!
How far predicates reach.

The readers of the grammar take texts apart without loss, so the length that `scan` finds is
positive and no larger than the text.
-/

namespace EventFilter.PredicateParts

theorem length_takeWhile_add_dropWhile (isTaken : Char → Bool) (text : Text) :
    (text.takeWhile isTaken).length + (text.dropWhile isTaken).length = text.length := by
  rw [← List.length_append, List.takeWhile_append_dropWhile]

theorem operandLength?_bounds {text : Text} {length : Nat}
    (found : operandLength? text = some length) : 0 < length ∧ length ≤ text.length := by
  unfold operandLength? at found
  split at found
  · rename_i rest
    split at found
    · simp at found
    · rename_i closed
      have total := length_takeWhile_add_dropWhile isNotQuote rest
      have closing : (rest.dropWhile isNotQuote).length ≠ 0 := by
        simpa [List.isEmpty_iff] using closed
      simp only [Option.some.injEq] at found
      simp only [List.length_cons]
      omega
  · split at found
    · simp at found
    · rename_i present
      have total := length_takeWhile_add_dropWhile isBare text
      have positive : (text.takeWhile isBare).length ≠ 0 := by
        simpa [List.isEmpty_iff, List.length_eq_zero_iff] using present
      simp only [Option.some.injEq] at found
      omega

theorem length_of_splitName? {text name rest : Text} (split : splitName? text = some (name, rest)) :
    0 < name.length ∧ name.length + rest.length = text.length := by
  unfold splitName? at split
  split at split
  · simp at split
  · rename_i first tail
    split at split
    · simp only [Option.some.injEq, Prod.mk.injEq] at split
      obtain ⟨rfl, rfl⟩ := split
      have total := length_takeWhile_add_dropWhile continuesName tail
      simp only [List.length_cons]
      omega
    · simp at split

theorem length_of_mem_readings {text rest : Text} {comparison : Comparison}
    (reading : (comparison, rest) ∈ Comparison.readings text) :
    comparison.spelling.length + rest.length = text.length := by
  unfold Comparison.readings at reading
  split at reading <;> simp at reading
  case h_3 | h_4 =>
    obtain ⟨rfl, rfl⟩ | ⟨rfl, rfl⟩ := reading <;> simp [Comparison.spelling] <;> omega
  all_goals
    obtain ⟨rfl, rfl⟩ := reading
    simp [Comparison.spelling]
    omega

theorem scan_bounds {text : Text} {length : Nat} (found : scan text = some length) :
    0 < length ∧ length ≤ text.length := by
  unfold scan at found
  simp only [Option.bind_eq_bind, Option.bind_eq_some_iff] at found
  obtain ⟨⟨name, afterName⟩, split, found⟩ := found
  obtain ⟨⟨comparison, tail⟩, reading, found⟩ := List.exists_of_findSome?_eq_some found
  simp only [Option.map_eq_some_iff] at found
  obtain ⟨operand, operandFound, rfl⟩ := found
  dsimp only at reading operandFound ⊢
  have nameLength := length_of_splitName? split
  have operatorLength := length_of_mem_readings reading
  have operandBounds := operandLength?_bounds operandFound
  have gapLength := length_takeWhile_add_dropWhile Text.isBlank afterName
  have tailLength := length_takeWhile_add_dropWhile Text.isBlank tail
  omega

end EventFilter.PredicateParts
