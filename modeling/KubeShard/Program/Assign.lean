import Mathlib.Data.List.Nodup

/-!
# Assignments to the slots of a state

Operations on a state that each write one slot.  When no slot is written twice, a
list of operations leaves every slot as its operation wants it, and running the list
again changes nothing.
-/

namespace KubeShard.Assign

variable {σ ω κ : Type}

/-- An operation makes its fact hold, keeps those of the other slots, and does nothing
where its own fact holds already. -/
structure Lawful (apply : ω → σ → σ) (Holds : ω → σ → Prop) (slot : ω → κ) : Prop where
  holds : ∀ op state, Holds op (apply op state)
  keeps : ∀ op other state, slot op ≠ slot other → Holds op state → Holds op (apply other state)
  settled : ∀ op state, Holds op state → apply op state = state

/-- The effect of a list of operations. -/
def applyAll (apply : ω → σ → σ) (ops : List ω) (state : σ) : σ :=
  ops.foldl (fun state op => apply op state) state

variable {apply : ω → σ → σ} {Holds : ω → σ → Prop} {slot : ω → κ}

@[simp] theorem applyAll_nil (state : σ) : applyAll apply [] state = state := rfl

@[simp] theorem applyAll_cons (op : ω) (ops : List ω) (state : σ) :
    applyAll apply (op :: ops) state = applyAll apply ops (apply op state) := rfl

@[simp] theorem applyAll_append (first second : List ω) (state : σ) :
    applyAll apply (first ++ second) state = applyAll apply second (applyAll apply first state) :=
  List.foldl_append

namespace Lawful

variable (lawful : Lawful apply Holds slot)
include lawful

/-- Operations on other slots keep a fact. -/
theorem keeps_all {op : ω} {ops : List ω} (other : slot op ∉ ops.map slot) {state : σ}
    (holds : Holds op state) : Holds op (applyAll apply ops state) := by
  induction ops generalizing state with
  | nil => exact holds
  | cons first rest ih =>
      rw [List.map_cons, List.mem_cons, not_or] at other
      exact ih other.2 (lawful.keeps op first state other.1 holds)

/-- When no slot is written twice, every operation has its way. -/
theorem holds_all {ops : List ω} (distinct : (ops.map slot).Nodup) (state : σ) :
    ∀ op ∈ ops, Holds op (applyAll apply ops state) := by
  induction ops generalizing state with
  | nil => exact fun op membership => absurd membership List.not_mem_nil
  | cons first rest ih =>
      rw [List.map_cons, List.nodup_cons] at distinct
      intro op membership
      rcases List.mem_cons.mp membership with rfl | later
      · exact lawful.keeps_all distinct.1 (lawful.holds op state)
      · exact ih distinct.2 _ op later

/-- Operations whose facts hold do nothing. -/
theorem settled_all {ops : List ω} {state : σ} (holds : ∀ op ∈ ops, Holds op state) :
    applyAll apply ops state = state := by
  induction ops with
  | nil => rfl
  | cons first rest ih =>
      rw [List.forall_mem_cons] at holds
      rw [applyAll_cons, lawful.settled first state holds.1]
      exact ih holds.2

end Lawful

/-- A list that writes no slot twice does nothing the second time, even where the
operations stamp what they newly write in another way. -/
theorem applyAll_twice {again : ω → σ → σ} (first : Lawful apply Holds slot)
    (second : Lawful again Holds slot) {ops : List ω} (distinct : (ops.map slot).Nodup)
    (state : σ) :
    applyAll again ops (applyAll apply ops state) = applyAll apply ops state :=
  second.settled_all (first.holds_all distinct state)

end KubeShard.Assign
