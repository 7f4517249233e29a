import KubeShard.Namespacesync.Labels
import KubeShard.Periodic.Ticker

/-!
# The NamespaceSync controller at work

Namespaces and NamespaceSyncs change while passes are under way, triggers get lost when a
handler cannot list, and failed creates and deletes are not retried by the pass that reports
them.  What a NamespaceSync says about itself is nevertheless true whenever the controller has
nothing to do for it.
-/

namespace KubeShard.Namespacesync

open Prog Periodic

section pass

variable {labelSelectorAsSelector : LabelSelector → Except ApiError (Labels → Bool)}
  {faults : Call → Option Fault} {selector : Labels → Bool} {nsSync : NamespaceSync}
  {world after : World}

/-- A pass on an existing object that returns no error has synchronised both sides. -/
theorem reconcile_returns (present : world.sync = some nsSync)
    (ran : exec (reconcile labelSelectorAsSelector faults) world = (.ok (), after)) :
    ∃ selector, labelSelectorAsSelector nsSync.spec.labelSelector = .ok selector ∧
      exec (syncNamespaces faults nsSync (selected selector world) world.secondary.items)
        world.overtaken = (.ok (), after) := by
  simp only [reconcile, getSync, exec_bind, exec_attempt] at ran
  cases getFault : faults .getSync with
  | some fault => simp [call, getFault] at ran
  | none =>
  simp only [call, getFault, exec_bind, exec_get, present, exec_pure, reconcileSync,
    exec_attempt] at ran
  cases buildFault : faults .buildSecondaryClient with
  | some fault => simp [buildFault, secondaryUnavailable, exec_bind] at ran
  | none =>
  cases parsed : labelSelectorAsSelector nsSync.spec.labelSelector with
  | error failure => simp [buildFault, parsed] at ran
  | ok selector =>
  simp only [buildFault, parsed, exec_pure, mapError, listPrimary, exec_bind, exec_attempt] at ran
  cases primaryFault : faults .listPrimary with
  | some fault => simp [call, primaryFault] at ran
  | none =>
  simp only [call, primaryFault, exec_bind, exec_get, exec_pure, exec_listSecondary] at ran
  cases secondaryFault : faults .listSecondary with
  | some fault => simp [secondaryFault, secondaryUnavailable, exec_bind] at ran
  | none =>
  refine ⟨selector, rfl, ?_⟩
  simpa [secondaryFault, selected] using ran

/-- A status write that returns no error has stored the object. -/
theorem updateStatus_returns
    (ran : exec (updateStatus faults nsSync) world = (.ok (), after)) :
    after.sync = some nsSync ∧ after.secondary = world.secondary := by
  rw [exec_logged_replace_ok ran]
  exact ⟨rfl, rfl⟩

/-- The object says that everything is synced. -/
def NamespaceSync.isReady (nsSync : NamespaceSync) : Prop :=
  ∃ condition, findStatusCondition nsSync.status.conditions .ready = some condition ∧
    condition.status = .true

/-- The names a NamespaceSync wants on its secondary. -/
def wantedNames (selector : Labels → Bool) (spec : NamespaceSyncSpec)
    (primary : Store Namespace.name) : List String :=
  desiredNames spec.excludeNamespaces (primary.items.filter fun ns => selector ns.labels)

/-- All wanted namespaces are on the secondary, and no others but those of the system. -/
structure NamesMirrored (selector : Labels → Bool) (spec : NamespaceSyncSpec)
    (primary secondary : Store Namespace.name) : Prop where
  complete : ∀ name ∈ wantedNames selector spec primary, name ∈ secondary.keys
  tight : ∀ name ∈ secondary.keys,
    name ∈ wantedNames selector spec primary ∨ name ∈ systemNamespaces

/-- The two loops leave a mirror exactly if they have met no error. -/
theorem namesMirrored_iff {created deleted : World} {createErrors deleteErrors : List ApiError}
    (alone : world.raced = none) (finalizes : world.finalizes = true)
    (creates : Creates faults (missing selector nsSync world) world.overtaken created createErrors)
    (deletes : Deletes faults (orphaned selector nsSync world) created deleted deleteErrors) :
    NamesMirrored selector nsSync.spec world.primary deleted.secondary ↔
      createErrors ++ deleteErrors = [] := by
  rw [List.append_eq_nil_iff]
  constructor
  · intro mirrored
    constructor
    · -- A namespace whose create failed is wanted and not there.
      rw [creates.errors_nil]
      intro ns isMissing
      obtain ⟨inPrimary, isSelected, included, absent⟩ := mem_missing.mp isMissing
      have wanted := mem_desired.mpr ⟨ns, inPrimary, isSelected, rfl, included⟩
      obtain ⟨mirror, isMirror, named⟩ := Store.mem_keys.mp (mirrored.complete ns.name wanted)
      have present : ns.name ∈ created.secondary.keys :=
        Store.mem_keys.mpr ⟨mirror, ((deletes.items mirror).mp isMirror).1, named⟩
      rcases (creates.keys ns.name).mp present with old | ⟨other, -, -, clean⟩
      · rw [overtaken_of_none alone] at old
        exact absurd old absent
      · exact clean
    · -- A namespace whose delete failed is there and not wanted.
      rw [deletes.errors_nil]
      intro name isOrphan
      obtain ⟨used, unwanted, ordinary⟩ := mem_orphaned.mp isOrphan
      by_contra faulty
      obtain ⟨orphan, isOrphanItem, rfl⟩ := Store.mem_keys.mp used
      have kept := creates.kept orphan
      rw [overtaken_of_none alone] at kept
      have survives : orphan ∈ deleted.secondary.items :=
        (deletes.items orphan).mpr ⟨kept isOrphanItem, fun gone => faulty gone.2.1⟩
      rcases mirrored.tight orphan.name (Store.mem_keys.mpr ⟨orphan, survives, rfl⟩) with
        wanted | system
      · exact unwanted wanted
      · exact ordinary system
  · rintro ⟨noCreateErrors, noDeleteErrors⟩
    have keys := keys_of_no_errors (.of_none alone selector nsSync) creates deletes noCreateErrors
      finalizes noDeleteErrors
    constructor
    · intro name wanted
      exact (keys name).mpr (.inl wanted)
    · intro name used
      exact ((keys name).mp used).imp_right And.left

@[simp] theorem syncedStatus_observedGeneration (nsSync : NamespaceSync) (now : Nat)
    (names : List String) (errors : List ApiError) :
    (syncedStatus nsSync now names errors).status.observedGeneration =
      (syncedStatus nsSync now names errors).generation := by
  simp only [syncedStatus]
  split <;> rfl

/-- What an object says after a pass that returned no error. -/
def Truthful (labelSelectorAsSelector : LabelSelector → Except ApiError (Labels → Bool))
    (nsSync : NamespaceSync) (primary secondary : Store Namespace.name) : Prop :=
  nsSync.status.observedGeneration = nsSync.generation ∧
    ∃ selector, labelSelectorAsSelector nsSync.spec.labelSelector = .ok selector ∧
      (nsSync.isReady ↔ NamesMirrored selector nsSync.spec primary secondary)

theorem truthful_of_returns (present : world.sync = some nsSync) (alone : world.raced = none)
    (finalizes : world.finalizes = true)
    (ran : exec (reconcile labelSelectorAsSelector faults) world = (.ok (), after)) :
    ∃ written, after.sync = some written ∧
      Truthful labelSelectorAsSelector written world.primary after.secondary := by
  obtain ⟨selector, parsed, ran⟩ := reconcile_returns present ran
  obtain ⟨created, deleted, createErrors, deleteErrors, creates, deletes, runs⟩ :=
    syncNamespaces_spec faults selector nsSync world
  rw [runs] at ran
  obtain ⟨stored, secondary⟩ := updateStatus_returns ran
  refine ⟨_, stored, syncedStatus_observedGeneration _ _ _ _, selector, ?_, ?_⟩
  · rwa [syncedStatus_spec]
  · obtain ⟨condition, found, readyIff⟩ := ready_syncedStatus nsSync world.clock
      (desired selector nsSync world) (createErrors ++ deleteErrors)
    rw [syncedStatus_spec, secondary, namesMirrored_iff alone finalizes creates deletes, ← readyIff]
    constructor
    · rintro ⟨other, otherFound, isTrue⟩
      rw [found] at otherFound
      rwa [Option.some.inj otherFound]
    · intro isTrue
      exact ⟨condition, found, isTrue⟩

end pass

/-! ## The controller -/

/-- The watched part of the primary: its namespaces. -/
abbrev Watched : Unit → Type := fun _ => Store Namespace.name

/-- A pass over these caches and this secondary, to which nobody else writes and where deleted
namespaces go away. -/
def passWorld (nsSync : Option NamespaceSync) (primary secondary : Store Namespace.name)
    (clock : Nat) : World where
  sync := nsSync
  primary := primary
  secondary := secondary
  clock := clock
  trace := []

/-- The reconciler as the controller runs it. -/
def syncReconciler (labelSelectorAsSelector : LabelSelector → Except ApiError (Labels → Bool)) :
    SyncReconciler Watched (Store Namespace.name) NamespaceSync (Call → Option Fault) where
  missing faults := !(exec (reconcile labelSelectorAsSelector faults)
    (passWorld none .empty .empty 0)).1.isOk
  reconcile faults nsSync primary secondary clock :=
    let pass := exec (reconcile labelSelectorAsSelector faults)
      (passWorld (some nsSync) (primary ()) secondary clock)
    (!pass.1.isOk, pass.2.sync.getD nsSync, pass.2.secondary)
  conflict faults := Function.update faults .updateStatus
    (some ⟨.conflict, "the object has been modified"⟩)

theorem truthful_of_reconcile
    (labelSelectorAsSelector : LabelSelector → Except ApiError (Labels → Bool))
    (faults : Call → Option Fault) (nsSync : NamespaceSync)
    (primary : (part : Unit) → Watched part) (secondary : Store Namespace.name) (clock : Nat)
    (written : NamespaceSync) (mirror : Store Namespace.name)
    (ran : (syncReconciler labelSelectorAsSelector).reconcile faults nsSync primary secondary
      clock = (false, written, mirror)) :
    Truthful labelSelectorAsSelector written (primary ()) mirror := by
  simp only [syncReconciler] at ran
  obtain ⟨returned, rest⟩ := Prod.mk.inj ran
  obtain ⟨isWritten, isMirror⟩ := Prod.mk.inj rest
  rw [Bool.not_eq_false'] at returned
  obtain ⟨done, passed⟩ := exec_eq_of_isOk returned
  have present : (passWorld (some nsSync) (primary ()) secondary clock).sync = some nsSync := rfl
  obtain ⟨stored, isStored, truthful⟩ := truthful_of_returns present rfl rfl passed
  rw [isStored] at isWritten
  rw [← isMirror, ← isWritten]
  exact truthful

/-- The states of the controller and what is around it. -/
abbrev ControlLoop := Loop (Site Watched (Store Namespace.name) NamespaceSync) Request
  (Seen Watched NamespaceSync)

/-- The steps of both. -/
abbrev ControlStep :=
  Periodic.Step Watched (Store Namespace.name) NamespaceSync (Call → Option Fault)

/-- From any state of the controller on: after a tick of the ticker whose sentinel was received,
and in any interleaving of namespace events, edits of NamespaceSyncs, passes and failing calls
in which the event handlers can list the NamespaceSyncs, nobody else writes to the
secondaries and a successful delete removes the namespace there, a NamespaceSync that is
neither queued, nor waiting for a retry, nor being worked on has a status for its generation
which is Ready exactly if the secondary holds the wanted namespaces and besides them no others
but those of the system. -/
theorem ready_iff_mirrored_after_tick
    (labelSelectorAsSelector : LabelSelector → Except ApiError (Labels → Bool))
    (loop : ControlLoop) (steps : List ControlStep) (request : Request)
    (calm : Along (controller (syncReconciler labelSelectorAsSelector)).step
      (Controller.CalmStep fun _ edit => Calm edit)
      ((controller (syncReconciler labelSelectorAsSelector)).step loop (.change .tick)) steps)
    {after : ControlLoop}
    (isAfter : run (controller (syncReconciler labelSelectorAsSelector)).step loop
      (.change .tick :: steps) = after)
    (received : after.world.channel = false) {stored : Stored NamespaceSync}
    (isStored : after.world.syncs.find? request = some stored)
    (notPending : ¬after.queue.Pending request) (idle : after.passes request = none) :
    stored.object.status.observedGeneration = stored.object.generation ∧
      ∃ selector, labelSelectorAsSelector stored.object.spec.labelSelector = .ok selector ∧
        (stored.object.isReady ↔ NamesMirrored selector stored.object.spec
          (after.world.primary ()) (after.world.secondaries request)) := by
  subst isAfter
  exact settled_after_tick
    (fun nsSync primary secondary =>
      Truthful labelSelectorAsSelector nsSync (primary ()) secondary)
    (truthful_of_reconcile labelSelectorAsSelector) calm received notPending idle stored isStored

/-- The request for the NamespaceSync of a shard. -/
def tenantRequest : Request := ("shard-system", "shard-ns-sync")

/-- A NamespaceSync that nobody has worked on yet. -/
def tenantLoop : ControlLoop where
  world :=
    { syncs := ⟨[⟨"shard-system", "shard-ns-sync", 1, tenantSync⟩], by decide⟩
      primary := fun _ => tenantWorld.primary
      secondaries := fun _ => tenantWorld.secondary
      clock := 7
      nextVersion := 2
      channel := false }
  queue := .empty
  passes := fun _ => none

/-- A pass that overlaps with the deletion of a namespace it has listed, and the passes that
this and the status writes lead to. -/
def tenantSteps : List ControlStep :=
  [.change (.receive none), .take, .read tenantRequest .sync, .read tenantRequest (.primary ()),
    .change (.editPrimary () (tenantWorld.primary.erase "tenant-a") none),
    .finish tenantRequest clean, .take, .finish tenantRequest clean, .take,
    .finish tenantRequest clean]

theorem ready_iff_mirrored_after_tick_tenant :
    ∃ after stored, ∃ selector : Labels → Bool,
      run (controller (syncReconciler matchLabelsSelector)).step tenantLoop
        (.change .tick :: tenantSteps) = after ∧
      after.world.syncs.find? tenantRequest = some stored ∧
      (stored.object.isReady ↔ NamesMirrored selector stored.object.spec (after.world.primary ())
        (after.world.secondaries tenantRequest)) := by
  obtain ⟨-, selector, -, iff⟩ := ready_iff_mirrored_after_tick matchLabelsSelector tenantLoop
    tenantSteps tenantRequest ⟨rfl, trivial, trivial, trivial, rfl, trivial, trivial, trivial,
      trivial, trivial, trivial⟩ rfl (by decide) (Option.some_get (by decide)).symm (by decide)
      (by decide)
  exact ⟨_, _, selector, rfl, (Option.some_get (by decide)).symm, iff⟩

/-- The namespace that went away during the first pass is gone from the secondary too. -/
example : ((run (controller (syncReconciler matchLabelsSelector)).step tenantLoop
    (.change .tick :: tenantSteps)).world.secondaries tenantRequest).keys = ["default"] := by
  decide

end KubeShard.Namespacesync
