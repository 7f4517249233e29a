import Mathlib.Algebra.Ring.Nat
import Mathlib.Data.List.Basic

/-!
# Fields joined by a separator

A record of several fields is written as one sequence, with a separator between two fields
and nothing that marks a separator inside a field.  The sequence tells the fields apart
exactly when none of them contains the separator.
-/

namespace KubeShard.Framing

variable {α : Type} [DecidableEq α] {separator : α}

/-- The fields with a separator between each two. -/
def framed (separator : α) (fields : List (List α)) : List α := [separator].intercalate fields

omit [DecidableEq α] in
theorem framed_cons_cons (field next : List α) (rest : List (List α)) :
    framed separator (field :: next :: rest) =
      field ++ separator :: framed separator (next :: rest) := by
  simp [framed, List.intercalate_cons_cons]

/-- The separators of the sequence are those between the fields and those inside them. -/
theorem count_framed (field : List α) (rest : List (List α)) :
    (framed separator (field :: rest)).count separator =
      rest.length + ((field :: rest).map (List.count separator)).sum := by
  induction rest generalizing field with
  | nil => simp [framed]
  | cons next rest ih =>
      rw [framed_cons_cons, List.count_append, List.count_cons_self, ih]
      simp only [List.length_cons, List.map_cons, List.sum_cons]
      omega

/-- As many fields that make the same sequence have no separator inside either. -/
theorem plain_of_framed_eq {fields others : List (List α)}
    (plain : ∀ field ∈ fields, separator ∉ field) (sameLength : others.length = fields.length)
    (same : framed separator others = framed separator fields) :
    ∀ other ∈ others, separator ∉ other := by
  cases fields with
  | nil =>
      rw [List.length_nil, List.length_eq_zero_iff] at sameLength
      simp [sameLength]
  | cons field rest =>
      cases others with
      | nil => cases sameLength
      | cons other more =>
          have counts := congrArg (List.count separator) same
          rw [count_framed, count_framed] at counts
          have none : ((field :: rest).map (List.count separator)).sum = 0 := by
            apply List.sum_eq_zero_iff_forall_eq_nat.mpr
            intro count membership
            obtain ⟨field, isField, rfl⟩ := List.mem_map.mp membership
            exact List.count_eq_zero.mpr (plain field isField)
          have sameRest : more.length = rest.length := by simpa using sameLength
          have noneOther : ((other :: more).map (List.count separator)).sum = 0 := by omega
          intro other isOther
          have single := List.sum_eq_zero_iff_forall_eq_nat.mp noneOther _
            (List.mem_map_of_mem isOther)
          exact List.count_eq_zero.mp single

theorem eq_of_framed_eq {fields others : List (List α)}
    (plain : ∀ field ∈ fields, separator ∉ field) (sameLength : others.length = fields.length)
    (same : framed separator others = framed separator fields) : others = fields := by
  by_cases empty : fields = []
  · rw [empty, List.length_nil, List.length_eq_zero_iff] at sameLength
    rw [sameLength, empty]
  · have nonempty : others ≠ [] := by
      intro none
      rw [none, List.length_nil] at sameLength
      exact empty (List.length_eq_zero_iff.mp sameLength.symm)
    have split := congrArg (List.splitOn separator) same
    rw [framed, framed, List.splitOn_intercalate separator plain empty,
      List.splitOn_intercalate separator (plain_of_framed_eq plain sameLength same) nonempty]
      at split
    exact split

omit [DecidableEq α] in
theorem framed_append (front field : List α) (rest : List (List α)) :
    framed separator ((front ++ separator :: field) :: rest) =
      front ++ separator :: framed separator (field :: rest) := by
  cases rest with
  | nil => simp [framed]
  | cons next rest => simp [framed_cons_cons]

omit [DecidableEq α] in
/-- A separator inside a field lets it share its elements with a neighbour differently. -/
theorem exists_reframed {fields : List (List α)} (several : 2 ≤ fields.length)
    {field : List α} (isField : field ∈ fields) (inside : separator ∈ field) :
    ∃ others, others.length = fields.length ∧
      framed separator others = framed separator fields ∧ others ≠ fields := by
  obtain ⟨front, back, rfl⟩ := List.append_of_mem inside
  induction fields with
  | nil => cases isField
  | cons first rest ih =>
      cases rest with
      | nil => simp at several
      | cons second rest =>
          rcases List.mem_cons.mp isField with rfl | later
          · refine ⟨front :: (back ++ separator :: second) :: rest, rfl, ?_, ?_⟩
            · rw [framed_cons_cons, framed_append, framed_cons_cons, List.append_assoc,
                List.cons_append]
            · simp
          · cases rest with
            | nil =>
                obtain rfl := List.mem_singleton.mp later
                refine ⟨[first ++ separator :: front, back], rfl, ?_, ?_⟩
                · simp [framed, List.intercalate_cons_cons]
                · simp
            | cons third rest =>
                obtain ⟨others, sameLength, same, different⟩ := ih (by simp) later
                cases others with
                | nil => cases sameLength
                | cons other others =>
                    refine ⟨first :: other :: others, by simpa using sameLength, ?_, ?_⟩
                    · rw [framed_cons_cons, framed_cons_cons, same]
                    · simpa using different

end KubeShard.Framing
