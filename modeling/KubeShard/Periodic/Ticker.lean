import KubeShard.Api.Error
import KubeShard.Program.Control
import KubeShard.Program.Store

/-!
# What keeps the sync controllers going

The two sync controllers are started by the same kinds of event: every event of a watched
object of the primary enqueues all sync objects, every event of a sync object enqueues that
object, and the ticker of `operator/internal/periodic/ticker.go` enqueues all of them again and
again.  The ticker sends to a channel that holds one sentinel and drops what does not fit.

What the controllers read of the primary and of their own objects comes from a cache, and an
event is what changes the cache.  No two sync objects lead to one secondary.
-/

namespace KubeShard.Periodic

/-- `reconcile.Request`: a namespace and a name. -/
abbrev Request := String × String

/-- A sync object as the API server stores it. -/
structure Stored (ο : Type) where
  namespace_ : String
  name : String
  resourceVersion : Nat
  object : ο

/-- The request for a sync object. -/
def Stored.request {ο : Type} (stored : Stored ο) : Request := (stored.namespace_, stored.name)

/-- What a sync controller works on.  The primary is read in parts `ι`; `channel` tells whether
a sentinel of the ticker is waiting. -/
structure Site {ι : Type} (π : ι → Type) (τ ο : Type) where
  syncs : Store (Stored.request (ο := ο))
  primary : (part : ι) → π part
  secondaries : Request → τ
  clock : Nat
  nextVersion : Nat
  channel : Bool

/-- What happens around a sync controller.  A `failure` is that of the `List` in the handler of
the event. -/
inductive Change {ι : Type} (π : ι → Type) (τ ο : Type) where
  /-- Watched objects of the primary are created, updated or deleted. -/
  | editPrimary (part : ι) (value : π part) (failure : Option ApiError)
  | writeSync (request : Request) (object : ο)
  | deleteSync (request : Request)
  | tick
  /-- The source of the ticker receives a sentinel. -/
  | receive (failure : Option ApiError)
  /-- Somebody else writes to a secondary. -/
  | editSecondary (request : Request) (value : τ)
  | wait (seconds : Nat)

/-- The reads of a pass that are answered by a cache. -/
inductive Read (ι : Type) where
  | sync
  | primary (part : ι)

/-- What a pass has read so far. -/
structure Seen {ι : Type} (π : ι → Type) (ο : Type) where
  sync : Option (Option (Stored ο)) := none
  primary : (part : ι) → Option (π part) := fun _ => none

/-- The reconciler of a sync controller. -/
structure SyncReconciler {ι : Type} (π : ι → Type) (τ ο φ : Type) where
  /-- Whether a pass on a missing object returns an error. -/
  missing : φ → Bool
  /-- A pass on an object: whether it returns an error, the object with the status it has
  written, and the secondary. -/
  reconcile : φ → ο → ((part : ι) → π part) → τ → Nat → Bool × ο × τ
  /-- The same faults with a refused status write. -/
  conflict : φ → φ

section model

variable {ι : Type} [DecidableEq ι] {π : ι → Type} {τ ο φ : Type}

/-- The answer of a `List` of the sync objects. -/
def Site.list (site : Site π τ ο) (failure : Option ApiError) :
    Except ApiError (List (Stored ο)) :=
  match failure with
  | some failure => .error failure
  | none => .ok site.syncs.items

/-- `enqueueAll` of both event handlers, and the `listFunc` both controllers give to the
ticker. -/
def enqueueAll (list : Except ApiError (List (Stored ο))) : List Request :=
  match list with
  | .error _ => []
  | .ok items => items.map Stored.request

/-- Store a sync object under a new resource version. -/
def Site.write (site : Site π τ ο) (request : Request) (object : ο) : Site π τ ο :=
  { site with
    syncs := site.syncs.insert ⟨request.1, request.2, site.nextVersion, object⟩
    nextVersion := site.nextVersion + 1 }

/-- The site after a change, and the requests its handlers add. -/
def Site.change (site : Site π τ ο) : Change π τ ο → Site π τ ο × List Request
  | .editPrimary part value failure =>
      ({ site with primary := Function.update site.primary part value },
        enqueueAll (site.list failure))
  | .writeSync request object => (site.write request object, [request])
  | .deleteSync request => ({ site with syncs := site.syncs.erase request }, [request])
  | .tick =>
      -- A sentinel that finds the channel full is dropped.
      (if site.channel then site else { site with channel := true }, [])
  | .receive failure =>
      if site.channel then
        ({ site with channel := false }, enqueueAll (site.list failure))
      else (site, [])
  | .editSecondary request value =>
      ({ site with secondaries := Function.update site.secondaries request value }, [])
  | .wait seconds => ({ site with clock := site.clock + seconds }, [])

/-- One more read of a pass; what it has read already stays. -/
def Seen.add (seen : Seen π ο) (site : Site π τ ο) (request : Request) : Read ι → Seen π ο
  | .sync =>
      match seen.sync with
      | some _ => seen
      | none => { seen with sync := some (site.syncs.find? request) }
  | .primary part =>
      match seen.primary part with
      | some _ => seen
      | none =>
          { seen with primary := Function.update seen.primary part (some (site.primary part)) }

/-- The API server still has the version of the object that was read. -/
def Site.current (site : Site π τ ο) (request : Request) (read : Stored ο) : Bool :=
  (site.syncs.find? request).map Stored.resourceVersion = some read.resourceVersion

variable [DecidableEq ο]

/-- What a pass leaves.  The status write of a stale copy is refused, and one that changes
nothing makes no event. -/
def Site.leave (site : Site π τ ο) (request : Request) (read : Stored ο)
    (pass : Bool × ο × τ) : Outcome (Site π τ ο) Request :=
  let after := { site with secondaries := Function.update site.secondaries request pass.2.2 }
  if site.current request read ∧ pass.2.1 ≠ read.object then
    ⟨pass.1, after.write request pass.2.1, [request]⟩
  else ⟨pass.1, after, []⟩

/-- The rest of a pass, with the reads that are still to be made. -/
def SyncReconciler.finish (reconciler : SyncReconciler π τ ο φ) (faults : φ) (site : Site π τ ο)
    (request : Request) (seen : Seen π ο) : Outcome (Site π τ ο) Request :=
  match seen.sync.getD (site.syncs.find? request) with
  | none => ⟨reconciler.missing faults, site, []⟩
  | some read =>
      let faults := if site.current request read then faults else reconciler.conflict faults
      site.leave request read (reconciler.reconcile faults read.object
        (fun part => (seen.primary part).getD (site.primary part)) (site.secondaries request)
        site.clock)

/-- A sync controller. -/
def controller (reconciler : SyncReconciler π τ ο φ) :
    Controller (Site π τ ο) Request (Change π τ ο) (Read ι) φ (Seen π ο) where
  change edit site := site.change edit
  blank := {}
  read what site request seen := seen.add site request what
  finish := reconciler.finish

/-- The steps of a sync controller and of those around it. -/
abbrev Step (π : ι → Type) (τ ο φ : Type) := LoopStep Request (Change π τ ο) (Read ι) φ

/-- The handler of the event can list the sync objects, and it is no write to a secondary. -/
def Calm : Change π τ ο → Prop
  | .editPrimary _ _ failure => failure = none
  | .receive failure => failure = none
  | .editSecondary _ _ => False
  | _ => True

end model

/-! ## The rule of the loop -/

section rule

variable {ι : Type} [DecidableEq ι] {π : ι → Type} {τ ο φ : Type} [DecidableEq ο]

/-- What a pass has read so far is what it would read now, unless its object is gone. -/
def Fresh (site : Site π τ ο) (request : Request) (seen : Seen π ο) : Prop :=
  site.syncs.find? request ≠ none →
    (∀ read, seen.sync = some read → read = site.syncs.find? request) ∧
      ∀ part value, seen.primary part = some value → value = site.primary part

/-- What `good` says about an object, the primary and its secondary holds of the stored one. -/
def Settled (good : ο → ((part : ι) → π part) → τ → Prop) (site : Site π τ ο)
    (request : Request) : Prop :=
  ∀ stored, site.syncs.find? request = some stored →
    good stored.object site.primary (site.secondaries request)

omit [DecidableEq ο] in
/-- One more read is as fresh as can be. -/
theorem Fresh.add {site : Site π τ ο} {request : Request} {seen : Seen π ο}
    (fresh : Fresh site request seen) (what : Read ι) :
    Fresh site request (seen.add site request what) := by
  intro present
  obtain ⟨sameSync, samePrimary⟩ := fresh present
  cases what with
  | sync =>
      simp only [Seen.add]
      split
      · exact ⟨sameSync, samePrimary⟩
      · refine ⟨?_, samePrimary⟩
        intro read isRead
        exact (Option.some.inj isRead).symm
  | primary part =>
      simp only [Seen.add]
      split
      · exact ⟨sameSync, samePrimary⟩
      · refine ⟨sameSync, ?_⟩
        intro other value isValue
        by_cases equal : other = part
        · subst equal
          simp only [Function.update_self, Option.some.injEq] at isValue
          exact isValue.symm
        · simp only [Function.update_of_ne equal] at isValue
          exact samePrimary other value isValue

omit [DecidableEq ι] [DecidableEq ο] in
/-- The requests added for all sync objects are those of the stored ones. -/
theorem mem_enqueueAll {site : Site π τ ο} {request : Request} :
    request ∈ enqueueAll (site.list none) ↔ site.syncs.find? request ≠ none := by
  rw [ne_eq, Store.find?_eq_none, not_not]
  rfl

omit [DecidableEq ι] [DecidableEq ο] in
/-- Writing a sync object leaves the others. -/
theorem Site.find?_write_of_ne {site : Site π τ ο} {request other : Request} {object : ο}
    (different : other ≠ request) :
    (site.write request object).syncs.find? other = site.syncs.find? other :=
  Store.find?_insert_of_ne different

omit [DecidableEq ι] [DecidableEq ο] in
theorem Site.find?_write_self (site : Site π τ ο) (request : Request) (object : ο) :
    (site.write request object).syncs.find? request =
      some ⟨request.1, request.2, site.nextVersion, object⟩ :=
  Store.find?_insert_self site.syncs ⟨request.1, request.2, site.nextVersion, object⟩

omit [DecidableEq ο] in
/-- A calm change that does not add a request leaves its sync object, and the parts of the
primary and the secondary it is about. -/
theorem change_of_notMem {edit : Change π τ ο} {site : Site π τ ο} {request : Request}
    (calm : Calm edit) (unadded : request ∉ (site.change edit).2) :
    (site.change edit).1.syncs.find? request = site.syncs.find? request ∧
      (site.change edit).1.secondaries request = site.secondaries request ∧
      (site.syncs.find? request ≠ none → (site.change edit).1.primary = site.primary) := by
  cases edit with
  | editPrimary part value failure =>
      cases calm
      refine ⟨rfl, rfl, ?_⟩
      intro present
      exact absurd (mem_enqueueAll.mpr present) unadded
  | writeSync written object =>
      have different : request ≠ written := by simpa [Site.change] using unadded
      exact ⟨Site.find?_write_of_ne different, rfl, fun _ => rfl⟩
  | deleteSync deleted =>
      have different : request ≠ deleted := by simpa [Site.change] using unadded
      exact ⟨Store.find?_erase_of_ne different, rfl, fun _ => rfl⟩
  | tick =>
      simp only [Site.change]
      split <;> exact ⟨rfl, rfl, fun _ => rfl⟩
  | receive failure =>
      simp only [Site.change]
      split <;> exact ⟨rfl, rfl, fun _ => rfl⟩
  | editSecondary written value => cases calm
  | wait seconds => exact ⟨rfl, rfl, fun _ => rfl⟩

omit [DecidableEq ι] in
theorem Site.leave_of_ne (site : Site π τ ο) (read : Stored ο) (pass : Bool × ο × τ)
    {request other : Request} (different : other ≠ request) :
    (site.leave request read pass).world.syncs.find? other = site.syncs.find? other ∧
      (site.leave request read pass).world.secondaries other = site.secondaries other ∧
      (site.leave request read pass).world.primary = site.primary := by
  unfold Site.leave
  split
  · exact ⟨Site.find?_write_of_ne different, Function.update_of_ne different _ _, rfl⟩
  · exact ⟨rfl, Function.update_of_ne different _ _, rfl⟩

omit [DecidableEq ι] in
/-- What a pass leaves when it has read its object as it is stored. -/
theorem Site.leave_self {site : Site π τ ο} {request : Request} {read : Stored ο}
    (present : site.syncs.find? request = some read) (pass : Bool × ο × τ) :
    (site.leave request read pass).failed = pass.1 ∧
      (∃ stored, (site.leave request read pass).world.syncs.find? request = some stored ∧
        stored.object = pass.2.1) ∧
      (site.leave request read pass).world.secondaries request = pass.2.2 ∧
      (site.leave request read pass).world.primary = site.primary := by
  have current : site.current request read = true := by simp [Site.current, present]
  unfold Site.leave
  split
  · exact ⟨rfl, ⟨_, Site.find?_write_self _ _ _, rfl⟩, Function.update_self _ _ _, rfl⟩
  · next unchanged =>
      have same : pass.2.1 = read.object := by simpa [current] using unchanged
      exact ⟨rfl, ⟨read, present, same.symm⟩, Function.update_self _ _ _, rfl⟩

omit [DecidableEq ι] in
/-- A pass leaves no sync object where there was none. -/
theorem Site.leave_missing {site : Site π τ ο} {request : Request} {read : Stored ο}
    (absent : site.syncs.find? request = none) (pass : Bool × ο × τ) :
    (site.leave request read pass).world.syncs.find? request = none := by
  have stale : site.current request read = false := by simp [Site.current, absent]
  simp [Site.leave, stale, absent]

omit [DecidableEq ι] in
/-- A pass on one sync object leaves the others, their secondaries and the primary. -/
theorem finish_of_ne (reconciler : SyncReconciler π τ ο φ) (faults : φ) (site : Site π τ ο)
    (seen : Seen π ο) {request other : Request} (different : other ≠ request) :
    (reconciler.finish faults site request seen).world.syncs.find? other =
        site.syncs.find? other ∧
      (reconciler.finish faults site request seen).world.secondaries other =
        site.secondaries other ∧
      (reconciler.finish faults site request seen).world.primary = site.primary := by
  unfold SyncReconciler.finish
  split
  · exact ⟨rfl, rfl, rfl⟩
  · exact site.leave_of_ne _ _ different

variable {reconciler : SyncReconciler π τ ο φ} {good : ο → ((part : ι) → π part) → τ → Prop}
  {faults : φ} {site : Site π τ ο} {request : Request} {seen : Seen π ο}

omit [DecidableEq ι] in
/-- A pass that has read nothing old does what it would do in no time. -/
theorem finish_of_fresh {read : Stored ο} (present : site.syncs.find? request = some read)
    (fresh : Fresh site request seen) :
    reconciler.finish faults site request seen =
      site.leave request read (reconciler.reconcile faults read.object site.primary
        (site.secondaries request) site.clock) := by
  obtain ⟨sameSync, samePrimary⟩ := fresh (by simp [present])
  have readNow : seen.sync.getD (site.syncs.find? request) = some read := by
    cases isSeen : seen.sync with
    | none => exact present
    | some earlier => exact (sameSync earlier isSeen).trans present
  have primaryNow : (fun part => (seen.primary part).getD (site.primary part)) =
      site.primary := by
    funext part
    cases isSeen : seen.primary part with
    | none => rfl
    | some value => exact samePrimary part value isSeen
  have current : site.current request read = true := by simp [Site.current, present]
  simp only [SyncReconciler.finish, readNow, primaryNow, current, if_true]

omit [DecidableEq ι] in
/-- A pass creates no sync object. -/
theorem finish_of_missing (absent : site.syncs.find? request = none) :
    (reconciler.finish faults site request seen).world.syncs.find? request = none := by
  unfold SyncReconciler.finish
  split
  · exact absent
  · exact Site.leave_missing absent _

omit [DecidableEq ι] in
/-- A pass that has read nothing old and returns no error has brought its object, the primary
and the secondary into the relation that such passes establish. -/
theorem settled_finish
    (establishes : ∀ faults object primary secondary clock written mirror,
      reconciler.reconcile faults object primary secondary clock = (false, written, mirror) →
        good written primary mirror)
    (fresh : Fresh site request seen)
    (returned : (reconciler.finish faults site request seen).failed = false) :
    Settled good (reconciler.finish faults site request seen).world request := by
  intro stored isStored
  cases present : site.syncs.find? request with
  | none =>
      rw [finish_of_missing present] at isStored
      cases isStored
  | some read =>
      rw [finish_of_fresh present fresh] at isStored returned ⊢
      generalize passed : reconciler.reconcile faults read.object site.primary
        (site.secondaries request) site.clock = pass at isStored returned ⊢
      obtain ⟨failed, written, mirror⟩ := pass
      obtain ⟨isFailed, ⟨left, isLeft, isWritten⟩, secondary, primary⟩ :=
        Site.leave_self present (failed, written, mirror)
      cases isLeft.symm.trans isStored
      cases isFailed.symm.trans returned
      rw [isWritten, secondary, primary]
      exact establishes _ _ _ _ _ _ _ passed

/-- The sync controllers are level-triggered. -/
theorem levelTriggered
    (establishes : ∀ faults object primary secondary clock written mirror,
      reconciler.reconcile faults object primary secondary clock = (false, written, mirror) →
        good written primary mirror) :
    (controller reconciler).LevelTriggered (fun _ edit => Calm edit) Fresh (Settled good) where
  blank site request _ := ⟨nofun, nofun⟩
  read what site request seen fresh := fresh.add what
  fresh_change edit site request seen calm unadded fresh present := by
    obtain ⟨sameSync, -, samePrimary⟩ := change_of_notMem calm unadded
    simp only [controller] at present ⊢
    rw [sameSync] at present ⊢
    rw [samePrimary present]
    exact fresh present
  settled_change edit site request calm unadded settled stored isStored := by
    obtain ⟨sameSync, sameSecondary, samePrimary⟩ := change_of_notMem calm unadded
    simp only [controller] at isStored ⊢
    rw [sameSync] at isStored
    rw [sameSecondary, samePrimary (by simp [isStored])]
    exact settled stored isStored
  finish faults site request seen fresh returned := settled_finish establishes fresh returned
  fresh_finish faults site request seen other stillSeen different _ fresh present := by
    obtain ⟨sameSync, -, samePrimary⟩ := finish_of_ne reconciler faults site seen different
    simp only [controller] at present ⊢
    rw [sameSync] at present ⊢
    rw [samePrimary]
    exact fresh present
  settled_finish faults site request seen other different _ settled stored isStored := by
    obtain ⟨sameSync, sameSecondary, samePrimary⟩ :=
      finish_of_ne reconciler faults site seen different
    simp only [controller] at isStored ⊢
    rw [sameSync] at isStored
    rw [sameSecondary, samePrimary]
    exact settled stored isStored

/-! ## Ticks -/

/-- When the source of the ticker has listed the sync objects, all of them are pending, and
those that are gone need nothing. -/
theorem accounted_receive {loop : Loop (Site π τ ο) Request (Seen π ο)}
    (waiting : loop.world.channel = true) (request : Request) :
    Controller.Accounted Fresh (Settled good)
      ((controller reconciler).step loop (.change (.receive none))) request := by
  have received : loop.world.change (.receive none) =
      ({ loop.world with channel := false }, enqueueAll (loop.world.list none)) := by
    simp [Site.change, waiting]
  simp only [Controller.step, controller, received, Controller.Accounted]
  by_cases present : loop.world.syncs.find? request = none
  · right
    split
    · exact fun there => absurd present there
    · intro stored isStored
      cases present.symm.trans isStored
  · exact .inl (WorkQueue.pending_addAll_of_mem (mem_enqueueAll.mpr present))

/-- A sentinel waits in the channel, or everything is accounted for. -/
def Attended (good : ο → ((part : ι) → π part) → τ → Prop)
    (loop : Loop (Site π τ ο) Request (Seen π ο)) : Prop :=
  loop.world.channel = true ∨ ∀ request, Controller.Accounted Fresh (Settled good) loop request

omit [DecidableEq ι] in
theorem Site.leave_channel (site : Site π τ ο) (request : Request) (read : Stored ο)
    (pass : Bool × ο × τ) : (site.leave request read pass).world.channel = site.channel := by
  unfold Site.leave
  split <;> rfl

omit [DecidableEq ι] in
theorem channel_finish : (reconciler.finish faults site request seen).world.channel =
    site.channel := by
  unfold SyncReconciler.finish
  split
  · rfl
  · exact site.leave_channel _ _ _

/-- Only the source of the ticker empties the channel. -/
theorem channel_step {loop : Loop (Site π τ ο) Request (Seen π ο)} {input : Step π τ ο φ}
    (other : ∀ failure, input ≠ .change (.receive failure))
    (waiting : loop.world.channel = true) :
    ((controller reconciler).step loop input).world.channel = true := by
  cases input with
  | change edit =>
      cases edit with
      | receive failure => exact absurd rfl (other failure)
      | tick => simp [Controller.step, controller, Site.change, waiting]
      | editPrimary part value failure => exact waiting
      | writeSync written object => exact waiting
      | deleteSync deleted => exact waiting
      | editSecondary written value => exact waiting
      | wait seconds => exact waiting
  | take =>
      simp only [Controller.step]
      split <;> exact waiting
  | read reader what =>
      simp only [Controller.step]
      split <;> exact waiting
  | finish worked faults =>
      simp only [Controller.step]
      split
      · exact waiting
      · exact channel_finish.trans waiting
  | release released => exact waiting

theorem Attended.step (rule : (controller reconciler).LevelTriggered (fun _ edit => Calm edit)
      Fresh (Settled good)) {loop : Loop (Site π τ ο) Request (Seen π ο)}
    {input : Step π τ ο φ} (calm : Controller.CalmStep (fun _ edit => Calm edit) loop input)
    (attended : Attended good loop) :
    Attended good ((controller reconciler).step loop input) := by
  cases attended with
  | inr all => exact .inr fun request => Controller.accounted_step rule calm (all request)
  | inl waiting =>
      by_cases received : input = .change (.receive none)
      · subst received
        exact .inr (accounted_receive waiting)
      · refine .inl (channel_step ?_ waiting)
        rintro failure rfl
        cases calm
        exact received rfl

variable (good) in
/-- Whatever has happened before a tick: once its sentinel was received, and as long as the
handlers can list the sync objects and nobody else writes to the secondaries, every object that
is neither pending nor being worked on is settled. -/
theorem settled_after_tick
    (establishes : ∀ faults object primary secondary clock written mirror,
      reconciler.reconcile faults object primary secondary clock = (false, written, mirror) →
        good written primary mirror)
    {loop : Loop (Site π τ ο) Request (Seen π ο)} {steps : List (Step π τ ο φ)}
    (calm : Along (controller reconciler).step (Controller.CalmStep fun _ edit => Calm edit)
      ((controller reconciler).step loop (.change .tick)) steps)
    (received : (run (controller reconciler).step loop (.change .tick :: steps)).world.channel =
      false)
    (notPending : ¬(run (controller reconciler).step loop
      (.change .tick :: steps)).queue.Pending request)
    (idle : (run (controller reconciler).step loop (.change .tick :: steps)).passes request =
      none) :
    Settled good (run (controller reconciler).step loop (.change .tick :: steps)).world
      request := by
  have sent : Attended good ((controller reconciler).step loop (.change .tick)) := by
    left
    simp only [Controller.step, controller, Site.change]
    split
    · next waiting => exact waiting
    · rfl
  have attended := calm.invariant (P := Attended good)
    (fun _ _ calm kept => kept.step (levelTriggered establishes) calm) sent
  have all := attended.resolve_left (by rw [Bool.not_eq_true]; exact received)
  exact Controller.settled_of_accounted (all request) notPending idle

end rule

end KubeShard.Periodic
