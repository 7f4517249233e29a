import Mathlib.Data.List.Nodup
import Mathlib.Data.List.Perm.Basic

/-!
# Selections from reordered lists

What is selected from a list keeps the order of the list, so that the order shows as
soon as two objects are selected.
-/

namespace KubeShard.Selection

variable {α : Type} {p : α → Bool}

/-- One selected object has no order. -/
theorem filter_eq_of_perm {first second : List α} (order : first.Perm second)
    (few : (first.filter p).length ≤ 1) : second.filter p = first.filter p := by
  have selected := order.filter p
  cases isFirst : first.filter p with
  | nil =>
      rw [isFirst] at selected
      exact selected.nil_eq.symm
  | cons object rest =>
      rw [isFirst, List.length_cons] at few
      obtain rfl : rest = [] := List.length_eq_zero_iff.mp (by omega)
      rw [isFirst] at selected
      exact List.perm_singleton.mp selected.symm

/-- A list can be reordered so that the first two selected objects are swapped. -/
theorem exists_swapped {list rest : List α} {first second : α}
    (selected : list.filter p = first :: second :: rest) :
    ∃ other, list.Perm other ∧ other.filter p = second :: first :: rest := by
  refine ⟨(second :: first :: rest) ++ list.filter fun object => !p object, ?_, ?_⟩
  · have order : (list.filter p).Perm (second :: first :: rest) :=
      selected ▸ List.Perm.swap second first rest
    exact (List.filter_append_perm p list).symm.trans (order.append_right _)
  · have wanted : ∀ object ∈ second :: first :: rest, p object = true := by
      intro object membership
      have order : object ∈ list.filter p :=
        selected ▸ (List.Perm.swap first second rest).mem_iff.mp membership
      exact (List.mem_filter.mp order).2
    have others : (list.filter fun object => !p object).filter p = [] := by simp
    rw [List.filter_append, others, List.append_nil, List.filter_eq_self]
    exact wanted

/-- `findSome?` asks the first object that has an answer. -/
theorem findSome_eq {β : Type} (f : α → Option β) (list : List α) :
    list.findSome? f =
      match list.filter fun object => (f object).isSome with
      | object :: _ => f object
      | [] => none := by
  induction list with
  | nil => rfl
  | cons object rest ih =>
      rw [List.findSome?_cons, List.filter_cons]
      cases answer : f object with
      | none => simpa using ih
      | some value => simp [answer]

/-- Names of a listing stay apart in what is selected from it. -/
theorem names_ne {name : α → String} {list rest : List α}
    {first second : α} (names : (list.map name).Nodup)
    (selected : list.filter p = first :: second :: rest) : name first ≠ name second := by
  have distinct := names.sublist
    (List.filter_sublist.map name : ((list.filter p).map name).Sublist _)
  rw [selected, List.map_cons, List.map_cons, List.nodup_cons] at distinct
  exact fun same => distinct.1 (same ▸ List.mem_cons_self)

end KubeShard.Selection
