import Mathlib.Data.List.Nodup

/-!
# Work queues

The queue between the event handlers of a controller and its workers, as
`k8s.io/client-go/util/workqueue` has it.  An item that is added is dirty until a worker takes
it.  An item that becomes dirty while a worker has it is not handed out a second time; it goes
back into the queue when the worker is done with it.  So no item is ever with two workers, and
none that was added is forgotten.
-/

namespace KubeShard

/-- A work queue.  `delayed` are the items that are added again after a while. -/
structure WorkQueue (κ : Type) where
  queue : List κ
  dirty : List κ
  processing : List κ
  delayed : List κ
  nodup : queue.Nodup
  /-- What waits in the queue is what is dirty and with no worker. -/
  queued : ∀ item, item ∈ queue ↔ item ∈ dirty ∧ item ∉ processing

namespace WorkQueue

variable {κ : Type}

/-- A queue without items. -/
def empty : WorkQueue κ where
  queue := []
  dirty := []
  processing := []
  delayed := []
  nodup := List.nodup_nil
  queued := by simp

/-- The item is going to be taken from the queue without being added once more. -/
def Pending (queue : WorkQueue κ) (item : κ) : Prop :=
  item ∈ queue.dirty ∨ item ∈ queue.delayed

variable [DecidableEq κ]

instance (queue : WorkQueue κ) (item : κ) : Decidable (queue.Pending item) :=
  inferInstanceAs (Decidable (_ ∨ _))

/-- `Add`. -/
def add (queue : WorkQueue κ) (item : κ) : WorkQueue κ :=
  if known : item ∈ queue.dirty then queue
  else
    { queue with
      dirty := item :: queue.dirty
      queue := if item ∈ queue.processing then queue.queue else queue.queue ++ [item]
      nodup := by
        have fresh : item ∉ queue.queue := fun waiting => known ((queue.queued item).mp waiting).1
        split
        · exact queue.nodup
        · exact queue.nodup.append (List.nodup_singleton item) (by simpa using fresh)
      queued := by
        intro other
        have same := queue.queued other
        by_cases equal : other = item
        · subst equal
          split
          · simp_all
          · simp_all
        · split
          · simp_all
          · simp_all }

/-- `Add`, for all items of a list. -/
def addAll (queue : WorkQueue κ) (items : List κ) : WorkQueue κ := items.foldl add queue

/-- `Get`: the item at the front is handed to a worker. -/
def take? (queue : WorkQueue κ) : Option (κ × WorkQueue κ) :=
  match waiting : queue.queue with
  | [] => none
  | item :: rest =>
      some (item,
        { queue with
          queue := rest
          dirty := queue.dirty.filter (· ≠ item)
          processing := item :: queue.processing
          nodup := by
            have nodup := queue.nodup
            rw [waiting] at nodup
            exact nodup.of_cons
          queued := by
            intro other
            have nodup := queue.nodup
            have same := queue.queued other
            rw [waiting] at nodup same
            have fresh := (List.nodup_cons.mp nodup).1
            by_cases equal : other = item
            · subst equal
              simp [fresh]
            · simp_all })

/-- `Done`: an item that became dirty meanwhile waits again. -/
def done (queue : WorkQueue κ) (item : κ) : WorkQueue κ :=
  if busy : item ∈ queue.processing then
    { queue with
      processing := queue.processing.filter (· ≠ item)
      queue := if item ∈ queue.dirty then queue.queue ++ [item] else queue.queue
      nodup := by
        have fresh : item ∉ queue.queue := fun waiting => ((queue.queued item).mp waiting).2 busy
        split
        · exact queue.nodup.append (List.nodup_singleton item) (by simpa using fresh)
        · exact queue.nodup
      queued := by
        intro other
        have same := queue.queued other
        by_cases equal : other = item
        · subst equal
          split
          · simp_all
          · simp_all
        · split
          · simp_all
          · simp_all }
  else queue

/-- `AddRateLimited` and `AddAfter`: the item is to be added later. -/
def delay (queue : WorkQueue κ) (item : κ) : WorkQueue κ :=
  { queue with delayed := item :: queue.delayed }

/-- The delay of an item is over. -/
def release (queue : WorkQueue κ) (item : κ) : WorkQueue κ :=
  if item ∈ queue.delayed then
    { queue with delayed := queue.delayed.filter (· ≠ item) }.add item
  else queue

/-! ## What the operations do to the sets of items -/

section operations

variable {queue : WorkQueue κ} {item other : κ}

@[simp] theorem mem_dirty_add :
    other ∈ (queue.add item).dirty ↔ other = item ∨ other ∈ queue.dirty := by
  unfold add
  split
  · next known =>
      constructor
      · exact .inr
      · rintro (rfl | dirty)
        · exact known
        · exact dirty
  · exact List.mem_cons

@[simp] theorem delayed_add : (queue.add item).delayed = queue.delayed := by
  unfold add
  split <;> rfl

@[simp] theorem mem_dirty_addAll {items : List κ} :
    other ∈ (queue.addAll items).dirty ↔ other ∈ items ∨ other ∈ queue.dirty := by
  induction items generalizing queue with
  | nil => simp [addAll]
  | cons first rest ih =>
      have step := @ih (queue.add first)
      rw [mem_dirty_add] at step
      rw [List.mem_cons, or_assoc, or_left_comm]
      exact step

@[simp] theorem delayed_addAll {items : List κ} :
    (queue.addAll items).delayed = queue.delayed := by
  induction items generalizing queue with
  | nil => rfl
  | cons first rest ih => exact (@ih (queue.add first)).trans delayed_add

@[simp] theorem dirty_done : (queue.done item).dirty = queue.dirty := by
  unfold done
  split <;> rfl

@[simp] theorem delayed_done : (queue.done item).delayed = queue.delayed := by
  unfold done
  split <;> rfl

theorem take?_eq_some {rest : WorkQueue κ} (taken : queue.take? = some (item, rest)) :
    item ∈ queue.dirty ∧ item ∉ queue.processing ∧
      rest.dirty = queue.dirty.filter (· ≠ item) ∧ rest.processing = item :: queue.processing ∧
      rest.delayed = queue.delayed := by
  unfold take? at taken
  split at taken
  · cases taken
  · next first remaining waiting =>
      cases taken
      have dirty := (queue.queued item).mp (by simp [waiting])
      exact ⟨dirty.1, dirty.2, rfl, rfl, rfl⟩

/-- What is pending stays pending when something is added. -/
theorem Pending.addAll (pending : queue.Pending other) (items : List κ) :
    (queue.addAll items).Pending other := by
  simp only [Pending, mem_dirty_addAll, delayed_addAll] at pending ⊢
  exact pending.imp_left .inr

theorem pending_addAll_of_mem {items : List κ} (added : other ∈ items) :
    (queue.addAll items).Pending other :=
  .inl (mem_dirty_addAll.mpr (.inl added))

/-- A released item is still pending, and so is any other. -/
theorem Pending.release (pending : queue.Pending other) : (queue.release item).Pending other := by
  unfold WorkQueue.release
  split
  · next waiting =>
      simp only [Pending, mem_dirty_add, delayed_add]
      by_cases equal : other = item
      · exact .inl (.inl equal)
      · simp only [Pending] at pending
        simp [equal, pending]
  · exact pending

end operations

end WorkQueue

end KubeShard
