import KubeShard.Program.Queue
import KubeShard.Program.Run
import Mathlib.Logic.Function.Basic

/-!
# Level-triggered controllers

A controller turns changes of the world into items of its work queue, and its workers run a
pass for each item.  A pass reads the world bit by bit, while the world goes on changing, and
then writes.  Nothing tells a pass what has changed or that it has read something old.

It need not know: when an item is not pending, no change that concerns it has come since its
last pass has started, so that all the pass has read still stands.  This is the induction that
is carried out here once for all controllers.
-/

namespace KubeShard

/-- What a pass leaves: whether it returned an error, the world, and the items that the event
handlers add for its writes. -/
structure Outcome (ω κ : Type) where
  failed : Bool
  world : ω
  added : List κ

/-- A controller over worlds `ω` with items `κ`.  The changes others make are `γ`, the reads of
a pass `ρ`, what goes wrong around it `φ`, and what it has read so far `σ`. -/
structure Controller (ω κ γ ρ φ σ : Type) where
  /-- The world after a change, and the items its event handlers add. -/
  change : γ → ω → ω × List κ
  /-- What a pass has read when it starts. -/
  blank : σ
  /-- One read of a pass. -/
  read : ρ → ω → κ → σ → σ
  /-- The rest of a pass, with the reads that are still to be made. -/
  finish : φ → ω → κ → σ → Outcome ω κ

/-- The world, the queue and the passes under way. -/
structure Loop (ω κ σ : Type) where
  world : ω
  queue : WorkQueue κ
  passes : κ → Option σ

/-- The steps of a controller and of those around it, in any order. -/
inductive LoopStep (κ γ ρ φ : Type) where
  | change (edit : γ)
  | take
  | read (item : κ) (what : ρ)
  | finish (item : κ) (faults : φ)
  | release (item : κ)

namespace Controller

variable {ω κ γ ρ φ σ : Type} [DecidableEq κ]

/-- The queue when a worker is done with an item. -/
def handBack (queue : WorkQueue κ) (item : κ) (outcome : Outcome ω κ) : WorkQueue κ :=
  let queue := queue.addAll outcome.added
  (if outcome.failed then queue.delay item else queue).done item

/-- The effect of a step; a step of a pass that is not under way has none. -/
def step (controller : Controller ω κ γ ρ φ σ) (loop : Loop ω κ σ) :
    LoopStep κ γ ρ φ → Loop ω κ σ
  | .change edit =>
      let changed := controller.change edit loop.world
      { loop with world := changed.1, queue := loop.queue.addAll changed.2 }
  | .take =>
      match loop.queue.take? with
      | none => loop
      | some (item, rest) =>
          { loop with
            queue := rest
            passes := Function.update loop.passes item (some controller.blank) }
  | .read item what =>
      match loop.passes item with
      | none => loop
      | some seen =>
          { loop with
            passes := Function.update loop.passes item
              (some (controller.read what loop.world item seen)) }
  | .finish item faults =>
      match loop.passes item with
      | none => loop
      | some seen =>
          let outcome := controller.finish faults loop.world item seen
          { world := outcome.world
            queue := handBack loop.queue item outcome
            passes := Function.update loop.passes item none }
  | .release item => { loop with queue := loop.queue.release item }

/-- What makes a controller level-triggered: a change which spoils what a pass has read, or what
an earlier pass has brought about, adds the item. -/
structure LevelTriggered (controller : Controller ω κ γ ρ φ σ) (calm : ω → γ → Prop)
    (fresh : ω → κ → σ → Prop) (settled : ω → κ → Prop) : Prop where
  blank : ∀ world item, fresh world item controller.blank
  read : ∀ what world item seen, fresh world item seen →
    fresh world item (controller.read what world item seen)
  fresh_change : ∀ edit world item seen, calm world edit →
    item ∉ (controller.change edit world).2 → fresh world item seen →
      fresh (controller.change edit world).1 item seen
  settled_change : ∀ edit world item, calm world edit →
    item ∉ (controller.change edit world).2 → settled world item →
      settled (controller.change edit world).1 item
  finish : ∀ faults world item seen, fresh world item seen →
    (controller.finish faults world item seen).failed = false →
      settled (controller.finish faults world item seen).world item
  fresh_finish : ∀ faults world item seen other stillSeen, other ≠ item →
    other ∉ (controller.finish faults world item seen).added → fresh world other stillSeen →
      fresh (controller.finish faults world item seen).world other stillSeen
  settled_finish : ∀ faults world item seen other, other ≠ item →
    other ∉ (controller.finish faults world item seen).added → settled world other →
      settled (controller.finish faults world item seen).world other

/-- Only changes of this kind are made. -/
def CalmStep (calm : ω → γ → Prop) (loop : Loop ω κ σ) : LoopStep κ γ ρ φ → Prop
  | .change edit => calm loop.world edit
  | _ => True

omit [DecidableEq κ] in
theorem CalmStep.of_forall {calm : ω → γ → Prop} (all : ∀ world edit, calm world edit)
    (loop : Loop ω κ σ) (input : LoopStep κ γ ρ φ) : CalmStep calm loop input := by
  cases input with
  | change edit => exact all loop.world edit
  | take | read | finish | release => trivial

/-- The item is pending, or a pass on it has read nothing old, or its last pass holds good. -/
def Accounted (fresh : ω → κ → σ → Prop) (settled : ω → κ → Prop) (loop : Loop ω κ σ)
    (item : κ) : Prop :=
  loop.queue.Pending item ∨
    match loop.passes item with
    | some seen => fresh loop.world item seen
    | none => settled loop.world item

variable {controller : Controller ω κ γ ρ φ σ} {calm : ω → γ → Prop}
  {fresh : ω → κ → σ → Prop} {settled : ω → κ → Prop} {loop : Loop ω κ σ}

theorem pending_handBack {queue : WorkQueue κ} {item other : κ} {outcome : Outcome ω κ} :
    (handBack queue item outcome).Pending other ↔
      other ∈ outcome.added ∨ queue.Pending other ∨ (outcome.failed = true ∧ other = item) := by
  simp only [handBack, WorkQueue.Pending, WorkQueue.dirty_done, WorkQueue.delayed_done]
  cases outcome.failed with
  | true =>
      simp only [if_true, WorkQueue.delay, WorkQueue.mem_dirty_addAll, WorkQueue.delayed_addAll,
        List.mem_cons]
      tauto
  | false =>
      simp only [Bool.false_eq_true, if_false, WorkQueue.mem_dirty_addAll,
        WorkQueue.delayed_addAll]
      tauto

section rule

variable (rule : controller.LevelTriggered calm fresh settled)

include rule

theorem accounted_change {edit : γ} (quiet : calm loop.world edit) {item : κ}
    (accounted : Accounted fresh settled loop item) :
    Accounted fresh settled (controller.step loop (.change edit)) item := by
  by_cases added : item ∈ (controller.change edit loop.world).2
  · exact .inl (WorkQueue.pending_addAll_of_mem added)
  cases accounted with
  | inl pending => exact .inl (pending.addAll _)
  | inr stands =>
      right
      simp only [Controller.step]
      cases under : loop.passes item with
      | none =>
          rw [under] at stands
          exact rule.settled_change edit loop.world item quiet added stands
      | some seen =>
          rw [under] at stands
          exact rule.fresh_change edit loop.world item seen quiet added stands

theorem accounted_take {item : κ}
    (accounted : Accounted fresh settled loop item) :
    Accounted fresh settled (controller.step loop .take) item := by
  simp only [Controller.step]
  split
  · exact accounted
  · next first rest taken =>
      obtain ⟨-, -, dirty, -, delayed⟩ := WorkQueue.take?_eq_some taken
      by_cases equal : item = first
      · -- The pass that starts now has read nothing yet.
        subst equal
        right
        simp only [Function.update_self]
        exact rule.blank loop.world item
      · cases accounted with
        | inl pending =>
            left
            simp only [WorkQueue.Pending, dirty, delayed, List.mem_filter, decide_eq_true_eq]
            exact pending.imp_left fun isDirty => ⟨isDirty, by simpa using equal⟩
        | inr stands =>
            right
            simpa only [Function.update_of_ne equal] using stands

theorem accounted_read (reader : κ) (what : ρ) {item : κ}
    (accounted : Accounted fresh settled loop item) :
    Accounted fresh settled (controller.step loop (.read reader what)) item := by
  simp only [Controller.step]
  split
  · exact accounted
  · next seen under =>
      apply accounted.imp_right
      intro stands
      by_cases equal : item = reader
      · subst equal
        rw [under] at stands
        simp only [Function.update_self]
        exact rule.read what loop.world item seen stands
      · simpa only [Function.update_of_ne equal] using stands

theorem accounted_finish (worked : κ) (faults : φ) {item : κ}
    (accounted : Accounted fresh settled loop item) :
    Accounted fresh settled (controller.step loop (.finish worked faults)) item := by
  simp only [Controller.step]
  split
  · exact accounted
  · next seen under =>
      by_cases isPending : (handBack loop.queue worked
          (controller.finish faults loop.world worked seen)).Pending item
      · exact .inl isPending
      obtain ⟨unadded, notPending, notFailed⟩ : item ∉ _ ∧ ¬_ ∧ ¬_ := by
        rw [pending_handBack, not_or, not_or] at isPending
        exact isPending
      have stands := accounted.resolve_left notPending
      right
      by_cases equal : item = worked
      · subst equal
        rw [under] at stands
        simp only [Function.update_self]
        apply rule.finish faults loop.world item seen stands
        simpa using notFailed
      · simp only [Function.update_of_ne equal]
        cases other : loop.passes item with
        | none =>
            rw [other] at stands
            exact rule.settled_finish faults loop.world worked seen item equal unadded stands
        | some stillSeen =>
            rw [other] at stands
            exact rule.fresh_finish faults loop.world worked seen item stillSeen equal unadded
              stands

/-- A calm step keeps every item accounted for. -/
theorem accounted_step {input : LoopStep κ γ ρ φ} (quiet : CalmStep calm loop input) {item : κ}
    (accounted : Accounted fresh settled loop item) :
    Accounted fresh settled (controller.step loop input) item := by
  cases input with
  | change edit => exact accounted_change rule quiet accounted
  | take => exact accounted_take rule accounted
  | read reader what => exact accounted_read rule reader what accounted
  | finish worked faults => exact accounted_finish rule worked faults accounted
  | release released => exact accounted.imp_left WorkQueue.Pending.release

end rule

omit [DecidableEq κ] in
/-- An item that is accounted for, not pending and with no worker is settled. -/
theorem settled_of_accounted {item : κ} (accounted : Accounted fresh settled loop item)
    (notPending : ¬loop.queue.Pending item) (idle : loop.passes item = none) :
    settled loop.world item := by
  have stands := accounted.resolve_left notPending
  rwa [idle] at stands

end Controller

end KubeShard
