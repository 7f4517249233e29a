import Mathlib.Data.List.Nodup

/-!
# Status conditions

Conditions as `metav1.Condition` has them, and the three list operations of
`k8s.io/apimachinery/pkg/api/meta` the reconcilers use on them.  The condition
types of one kind of object form an enumeration `τ`.
-/

namespace KubeShard

/-- `metav1.ConditionStatus`. -/
inductive ConditionStatus where
  | true
  | false
  | unknown
  deriving DecidableEq, Repr

/-- The condition types of the sync objects. -/
inductive SyncCondition where
  | ready
  deriving DecidableEq, Repr

/-- `metav1.Condition`, with its transition time as a clock reading. -/
structure Condition (τ : Type) where
  type : τ
  status : ConditionStatus
  reason : String
  message : String
  observedGeneration : Nat
  lastTransitionTime : Nat
  deriving DecidableEq, Repr

/-- A condition as a caller of `SetStatusCondition` writes it: without a
transition time, which is filled in when the condition is set. -/
structure NewCondition (τ : Type) where
  type : τ
  status : ConditionStatus
  reason : String
  message : String
  observedGeneration : Nat
  deriving DecidableEq, Repr

/-- Stamp a new condition with a transition time. -/
def NewCondition.stamp {τ : Type} (new : NewCondition τ) (time : Nat) : Condition τ where
  type := new.type
  status := new.status
  reason := new.reason
  message := new.message
  observedGeneration := new.observedGeneration
  lastTransitionTime := time

@[simp] theorem NewCondition.stamp_type {τ : Type} (new : NewCondition τ) (time : Nat) :
    (new.stamp time).type = new.type := rfl

@[simp] theorem NewCondition.stamp_status {τ : Type} (new : NewCondition τ) (time : Nat) :
    (new.stamp time).status = new.status := rfl

@[simp] theorem NewCondition.stamp_reason {τ : Type} (new : NewCondition τ) (time : Nat) :
    (new.stamp time).reason = new.reason := rfl

variable {τ : Type} [DecidableEq τ]

/-- `meta.FindStatusCondition`. -/
def findStatusCondition (conditions : List (Condition τ)) (type : τ) :
    Option (Condition τ) :=
  conditions.find? fun condition => condition.type = type

/-- `meta.SetStatusCondition`: the first condition of the type is overwritten in
place and keeps its transition time while its status stays the same; a new type
is appended. -/
def setStatusCondition (now : Nat) (new : NewCondition τ) :
    List (Condition τ) → List (Condition τ)
  | [] => [new.stamp now]
  | condition :: rest =>
      if condition.type = new.type then
        new.stamp (if condition.status = new.status then condition.lastTransitionTime else now)
          :: rest
      else
        condition :: setStatusCondition now new rest

/-- `meta.RemoveStatusCondition`. -/
def removeStatusCondition (type : τ) (conditions : List (Condition τ)) :
    List (Condition τ) :=
  conditions.filter fun condition => condition.type ≠ type

/-- No two conditions have one type. -/
def DistinctTypes (conditions : List (Condition τ)) : Prop :=
  (conditions.map Condition.type).Nodup

theorem findStatusCondition_set_self (now : Nat) (new : NewCondition τ)
    (conditions : List (Condition τ)) :
    ∃ time, findStatusCondition (setStatusCondition now new conditions) new.type =
      some (new.stamp time) := by
  induction conditions with
  | nil => exact ⟨now, by simp [setStatusCondition, findStatusCondition]⟩
  | cons condition rest ih =>
      by_cases equal : condition.type = new.type
      · exact ⟨_, by simp [setStatusCondition, findStatusCondition, equal]; rfl⟩
      · simpa [setStatusCondition, findStatusCondition, equal] using ih

theorem findStatusCondition_set_of_ne (now : Nat) {new : NewCondition τ} {type : τ}
    (different : type ≠ new.type) (conditions : List (Condition τ)) :
    findStatusCondition (setStatusCondition now new conditions) type =
      findStatusCondition conditions type := by
  induction conditions with
  | nil => simp [setStatusCondition, findStatusCondition, different.symm]
  | cons condition rest ih =>
      by_cases equal : condition.type = new.type
      · simp [setStatusCondition, findStatusCondition, equal, different.symm]
      · simp only [setStatusCondition, equal, if_false, findStatusCondition,
          List.find?_cons] at ih ⊢
        rw [ih]

theorem findStatusCondition_remove_self (type : τ) (conditions : List (Condition τ)) :
    findStatusCondition (removeStatusCondition type conditions) type = none := by
  simp [findStatusCondition, removeStatusCondition, List.find?_eq_none]

theorem findStatusCondition_remove_of_ne {type other : τ} (different : other ≠ type)
    (conditions : List (Condition τ)) :
    findStatusCondition (removeStatusCondition type conditions) other =
      findStatusCondition conditions other := by
  simp only [findStatusCondition, removeStatusCondition, List.find?_filter]
  congr 1
  funext condition
  by_cases equal : condition.type = other
  · simp [equal, different]
  · simp [equal]

/-- Setting a condition that is there already changes nothing. -/
theorem setStatusCondition_of_find (now : Nat) {new : NewCondition τ} {time : Nat}
    {conditions : List (Condition τ)}
    (found : findStatusCondition conditions new.type = some (new.stamp time)) :
    setStatusCondition now new conditions = conditions := by
  induction conditions with
  | nil => cases found
  | cons condition rest ih =>
      by_cases equal : condition.type = new.type
      · simp only [findStatusCondition, List.find?_cons, equal, decide_true,
          Option.some.injEq] at found
        rw [found]
        simp [setStatusCondition, NewCondition.stamp]
      · simp only [findStatusCondition, List.find?_cons, equal, decide_false] at found
        simp only [setStatusCondition, equal, if_false, ih found]

/-- Removing a condition that is not there changes nothing. -/
theorem removeStatusCondition_of_find {type : τ} {conditions : List (Condition τ)}
    (absent : findStatusCondition conditions type = none) :
    removeStatusCondition type conditions = conditions := by
  rw [findStatusCondition, List.find?_eq_none] at absent
  rw [removeStatusCondition, List.filter_eq_self]
  intro condition membership
  simpa using absent condition membership

/-- Setting a condition twice is setting it once: the transition time is that of the first. -/
theorem setStatusCondition_again (time now : Nat) (new : NewCondition τ)
    (conditions : List (Condition τ)) :
    setStatusCondition now new (setStatusCondition time new conditions) =
      setStatusCondition time new conditions := by
  obtain ⟨stamped, found⟩ := findStatusCondition_set_self time new conditions
  exact setStatusCondition_of_find now found

theorem mem_types_set {now : Nat} {new : NewCondition τ} {type : τ}
    {conditions : List (Condition τ)}
    (membership : type ∈ (setStatusCondition now new conditions).map Condition.type) :
    type = new.type ∨ type ∈ conditions.map Condition.type := by
  induction conditions with
  | nil => simpa [setStatusCondition] using membership
  | cons condition rest ih =>
      by_cases equal : condition.type = new.type
      · simp only [setStatusCondition, equal, if_true, List.map_cons, List.mem_cons,
          NewCondition.stamp_type] at membership ⊢
        tauto
      · simp only [setStatusCondition, equal, if_false, List.map_cons,
          List.mem_cons] at membership ⊢
        rcases membership with head | tail
        · exact .inr (.inl head)
        · rcases ih tail with new | old
          · exact .inl new
          · exact .inr (.inr old)

theorem DistinctTypes.set {conditions : List (Condition τ)}
    (distinct : DistinctTypes conditions) (now : Nat) (new : NewCondition τ) :
    DistinctTypes (setStatusCondition now new conditions) := by
  induction conditions with
  | nil => simp [setStatusCondition, DistinctTypes]
  | cons condition rest ih =>
      obtain ⟨fresh, tail⟩ := List.nodup_cons.mp distinct
      by_cases equal : condition.type = new.type
      · simp only [setStatusCondition, equal, if_true, DistinctTypes, List.map_cons,
          NewCondition.stamp_type]
        exact List.nodup_cons.mpr ⟨equal ▸ fresh, tail⟩
      · simp only [setStatusCondition, equal, if_false, DistinctTypes, List.map_cons]
        refine List.nodup_cons.mpr ⟨fun membership => ?_, ih tail⟩
        rcases mem_types_set membership with new | old
        · exact equal new
        · exact fresh old

theorem DistinctTypes.remove {conditions : List (Condition τ)}
    (distinct : DistinctTypes conditions) (type : τ) :
    DistinctTypes (removeStatusCondition type conditions) :=
  distinct.sublist (List.filter_sublist.map Condition.type)

end KubeShard
