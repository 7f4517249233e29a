import Mathlib.Data.List.Basic
import Mathlib.Data.List.Nodup
import Mathlib.Logic.Function.Basic

/-!
# Names with gaps

A list of names in which a blank stands for a missing name is filled up with names made
from the positions.  The result has no duplicates exactly when no given name is the one
that a gap gets.
-/

namespace KubeShard.Naming

variable {α : Type} [DecidableEq α] {blank : α} {fallback : Nat → α}

/-- The names, with the gaps filled by their positions. -/
def fill (blank : α) (fallback : Nat → α) (names : List α) : List α :=
  names.mapIdx fun index name => if name = blank then fallback index else name

@[simp] theorem length_fill (names : List α) :
    (fill blank fallback names).length = names.length := by
  simp [fill]

theorem getElem?_fill (names : List α) (index : Nat) :
    (fill blank fallback names)[index]? =
      names[index]?.map fun name => if name = blank then fallback index else name := by
  simp [fill]

/-- A filled name was given, or stands for a gap. -/
theorem getElem?_fill_eq_some {names : List α} {index : Nat} {name : α} :
    (fill blank fallback names)[index]? = some name ↔
      names[index]? = some name ∧ name ≠ blank ∨
        names[index]? = some blank ∧ name = fallback index := by
  rw [getElem?_fill]
  cases isName : names[index]? with
  | none => simp
  | some given =>
      by_cases gap : given = blank
      · simp [gap, eq_comm]
      · simp only [Option.map_some, gap, if_false, Option.some.injEq, false_and, or_false]
        constructor
        · rintro rfl
          exact ⟨rfl, gap⟩
        · exact And.left

theorem mem_fill {names : List α} {name : α} :
    name ∈ fill blank fallback names ↔
      name ∈ names ∧ name ≠ blank ∨
        ∃ index, names[index]? = some blank ∧ name = fallback index := by
  simp only [List.mem_iff_getElem?, getElem?_fill_eq_some, exists_or, exists_and_right]

omit [DecidableEq α] in
theorem pair_sublist {names : List α} {first second : Nat} {name : α} (before : first < second)
    (atFirst : names[first]? = some name) (atSecond : names[second]? = some name) :
    List.Sublist [name, name] names := by
  have early : name ∈ names.take second := by
    apply List.mem_of_getElem? (i := first)
    rw [List.getElem?_take_of_lt before, atFirst]
  have late : name ∈ names.drop second := by
    apply List.mem_of_getElem? (i := 0)
    rw [List.getElem?_drop, Nat.add_zero, atSecond]
  have both := (List.singleton_sublist.mpr early).append (List.singleton_sublist.mpr late)
  rwa [List.take_append_drop] at both

omit [DecidableEq α] in
theorem nodup_iff_positions {names : List α} :
    names.Nodup ↔ ∀ (first second : Nat) (name : α),
      names[first]? = some name → names[second]? = some name → first = second := by
  constructor
  · intro nodup first second name atFirst atSecond
    have never := List.nodup_iff_sublist.mp nodup name
    rcases Nat.lt_trichotomy first second with before | same | after
    · exact absurd (pair_sublist before atFirst atSecond) never
    · exact same
    · exact absurd (pair_sublist after atSecond atFirst) never
  · intro positions
    rw [List.nodup_iff_getElem?_ne_getElem?]
    intro first second before inside same
    rw [List.getElem?_eq_getElem inside] at same
    exact Nat.ne_of_lt before (positions first second _ same (List.getElem?_eq_getElem inside))

/-- Where the names besides blanks are distinct, a name stands at one position. -/
theorem eq_of_given {names : List α} (distinct : (names.filter (· ≠ blank)).Nodup)
    {first second : Nat} {name : α} (given : name ≠ blank)
    (atFirst : names[first]? = some name) (atSecond : names[second]? = some name) :
    first = second := by
  have never : ¬List.Sublist [name, name] names := by
    intro pair
    have kept := pair.filter (· ≠ blank)
    rw [List.filter_cons_of_pos (by simpa using given),
      List.filter_cons_of_pos (by simpa using given), List.filter_nil] at kept
    exact List.nodup_iff_sublist.mp distinct name kept
  rcases Nat.lt_trichotomy first second with before | same | after
  · exact absurd (pair_sublist before atFirst atSecond) never
  · exact same
  · exact absurd (pair_sublist after atSecond atFirst) never

/-- Where the given names are distinct, the filled ones are if and only if no given name is
the one that a gap gets. -/
theorem nodup_fill_iff (injective : Function.Injective fallback)
    (named : ∀ index, fallback index ≠ blank) {names : List α}
    (distinct : (names.filter (· ≠ blank)).Nodup) :
    (fill blank fallback names).Nodup ↔
      ∀ given gap : Nat, names[given]? = some (fallback gap) → names[gap]? ≠ some blank := by
  rw [nodup_iff_positions]
  constructor
  · intro positions given gap atGiven atGap
    have same : given = gap := positions given gap (fallback gap)
      (getElem?_fill_eq_some.mpr (.inl ⟨atGiven, named gap⟩))
      (getElem?_fill_eq_some.mpr (.inr ⟨atGap, rfl⟩))
    rw [← same, atGiven] at atGap
    exact named gap (Option.some.inj atGap)
  · intro clear first second name atFirst atSecond
    rcases getElem?_fill_eq_some.mp atFirst with ⟨isFirst, given⟩ | ⟨isFirst, rfl⟩
    · rcases getElem?_fill_eq_some.mp atSecond with ⟨isSecond, _⟩ | ⟨isSecond, rfl⟩
      · exact eq_of_given distinct given isFirst isSecond
      · exact absurd isSecond (clear first second isFirst)
    · rcases getElem?_fill_eq_some.mp atSecond with ⟨isSecond, _⟩ | ⟨_, same⟩
      · exact absurd isFirst (clear second first isSecond)
      · exact injective same

end KubeShard.Naming
