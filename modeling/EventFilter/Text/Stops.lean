import EventFilter.Text.Basic

/-!
Where a stretch of characters of one class ends.
-/

namespace EventFilter.Text

def Stops (isTaken : Char → Bool) (text : Text) : Prop :=
  ∀ next ∈ text.head?, isTaken next = false

variable {isTaken : Char → Bool} {taken following : Text}

theorem stops_dropWhile (isTaken : Char → Bool) (text : Text) :
    Stops isTaken (text.dropWhile isTaken) := by
  intro next found
  have failed := List.head?_dropWhile_not isTaken text
  rw [Option.mem_def] at found
  simpa [found] using failed

theorem exists_split (isTaken : Char → Bool) (text : Text) :
    ∃ taken rest, text = taken ++ rest ∧ taken.all isTaken ∧ Stops isTaken rest :=
  ⟨text.takeWhile isTaken, text.dropWhile isTaken, List.takeWhile_append_dropWhile.symm,
    List.all_takeWhile, stops_dropWhile isTaken text⟩

theorem takeWhile_eq_nil_iff_stops :
    following.takeWhile isTaken = [] ↔ Stops isTaken following := by
  cases following with
  | nil => simp [Stops]
  | cons first rest => by_cases isFirst : isTaken first <;> simp [Stops, isFirst]

theorem takeWhile_append_of_stops (inside : taken.all isTaken)
    (stops : Stops isTaken following) : (taken ++ following).takeWhile isTaken = taken := by
  rw [List.takeWhile_append_of_pos (List.all_eq_true.mp inside),
    takeWhile_eq_nil_iff_stops.mpr stops, List.append_nil]

theorem dropWhile_append_of_stops (inside : taken.all isTaken)
    (stops : Stops isTaken following) :
    (taken ++ following).dropWhile isTaken = following := by
  rw [List.dropWhile_append_of_pos (List.all_eq_true.mp inside)]
  cases following with
  | nil => rfl
  | cons first rest => simp [stops first rfl]

theorem stops_append (present : taken ≠ []) (stops : Stops isTaken taken)
    (following : Text) : Stops isTaken (taken ++ following) := by
  obtain ⟨first, rest, rfl⟩ := List.exists_cons_of_ne_nil present
  exact stops

theorem stops_append_iff (present : taken ≠ []) :
    Stops isTaken (taken ++ following) ↔ Stops isTaken taken := by
  obtain ⟨first, rest, rfl⟩ := List.exists_cons_of_ne_nil present
  exact Iff.rfl

theorem dropWhile_eq_self_of_stops (stops : Stops isTaken following) :
    following.dropWhile isTaken = following := by
  have whole : ([] ++ following).dropWhile isTaken = following :=
    dropWhile_append_of_stops rfl stops
  exact whole

theorem stops_take (stops : Stops isTaken following) (length : Nat) :
    Stops isTaken (following.take length) := by
  cases following with
  | nil => simpa using stops
  | cons first rest =>
      cases length with
      | zero => simp [Stops]
      | succ length => exact stops

theorem getLast?_append_of_ne_nil (present : following ≠ []) (text : Text) :
    (text ++ following).getLast? = following.getLast? := by
  rw [List.getLast?_append, List.getLast?_eq_some_getLast present]
  rfl

end EventFilter.Text
