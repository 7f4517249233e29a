import KubeShard.Apishard.Database
import KubeShard.Apishard.Succeeded

/-!
# StorageReady and the storage backend

Two of the three backends evaluate StorageReady in every pass, each by reading an object
of its own.  The third leaves the condition alone, so that a shard which was switched to
it keeps what the former backend has said.
-/

namespace KubeShard.Apishard

open Resources Prog Aggregation

/-! ## What a pass evaluates -/

/-- What a read of an object is answered. -/
def Cluster.answer (cluster : Cluster) (ctx : Schedule) (request : Call) (key : ObjectKey) :
    Except ApiError Object :=
  match ctx.faults request, cluster.objects.find? key with
  | some failure, _ => .error failure
  | none, some object => .ok object
  | none, none => .error (.notFound key.kind.resource key.name)

/-- A StorageReady condition for a shard. -/
def storageCondition (shard : APIShard) (status : ConditionStatus) (reason message : String) :
    NewCondition ShardCondition :=
  ⟨.storageReady, status, reason, message, shard.generation⟩

/-- What a pass that gets through its storage step finds about the backend of the spec, from
the objects in the cluster and the answers to its reads. -/
def evaluateStorage (ctx : Schedule) (shard : APIShard) (cluster : Cluster) :
    Option (NewCondition ShardCondition) :=
  let requested := postgreSQLVolumeClaimTemplates shard
  match shard.spec.storage.type with
  | .sqlite => none
  | .inClusterPostgreSQL =>
      match cluster.answer ctx .getStatefulSet
        (targetKey shard .statefulSet (postgreSQLStatefulSetName shard)) with
      | .error _ =>
          some (storageCondition shard .true "VolumeClaimTemplateUnchanged"
            "no existing PostgreSQL StatefulSet; applying requested volume claim templates")
      | .ok object =>
          let live := object.statefulSet.volumeClaimTemplates
          if volumeClaimTemplatesMatch requested live then
            some (storageCondition shard .true "VolumeClaimTemplateUnchanged"
              "PostgreSQL volume claim templates match the live StatefulSet")
          else
            let described := describeVolumeClaimTemplates live
            let wanted := describeVolumeClaimTemplates requested
            some (storageCondition shard .false "VolumeClaimTemplateImmutable"
              (s!"volumeClaimTemplates are immutable; live {described}, spec requested {wanted}. " ++
                "Update the APIShard to match the live volume or recreate the shard."))
  | .postgreSQL =>
      shard.spec.storage.connectionSecretRef.map fun ref =>
        storageCondition shard .true "SecretValid"
          s!"Connection secret \"{ref.name}\" validated"

section evaluation

variable {r : Reconciler} {ctx : Schedule} {shard : APIShard} {state after : State}

/-- Whatever is evaluated is about StorageReady and about this generation of the spec. -/
theorem evaluateStorage_current {cluster : Cluster} {new : NewCondition ShardCondition}
    (evaluated : evaluateStorage ctx shard cluster = some new) :
    new.type = .storageReady ∧ new.observedGeneration = shard.generation := by
  unfold evaluateStorage at evaluated
  dsimp only at evaluated
  split at evaluated
  · cases evaluated
  · split at evaluated
    · cases evaluated
      exact ⟨rfl, rfl⟩
    · split at evaluated
      · cases evaluated
        exact ⟨rfl, rfl⟩
      · cases evaluated
        exact ⟨rfl, rfl⟩
  · obtain ⟨ref, _, rfl⟩ := Option.map_eq_some_iff.mp evaluated
    exact ⟨rfl, rfl⟩

/-- Evaluating the storage depends on objects of the backend alone. -/
theorem evaluateStorage_congr {before after : Cluster}
    (same : after.objects.find? (targetKey shard .statefulSet (postgreSQLStatefulSetName shard)) =
      before.objects.find? (targetKey shard .statefulSet (postgreSQLStatefulSetName shard))) :
    evaluateStorage ctx shard after = evaluateStorage ctx shard before := by
  simp only [evaluateStorage, Cluster.answer, same]

theorem exec_getObject_answer (request : Call) (key : ObjectKey) (state : State) :
    exec (getObject ctx request key) state =
      (state.cluster.answer ctx request key, state.edited ctx request) := by
  rw [exec_getObject, Cluster.answer]
  cases ctx.faults request <;> cases state.cluster.objects.find? key <;> rfl

/-- A pass that has aligned the StatefulSet with the live one has said so. -/
theorem preservePostgreSQLVolumeClaimTemplates_evaluates {set : StatefulSet}
    (type : shard.spec.storage.type = .inClusterPostgreSQL)
    (ran : exec (preservePostgreSQLVolumeClaimTemplates ctx shard
      (buildPostgreSQLStatefulSet shard)) state = (.ok set, after)) :
    ∃ new, evaluateStorage ctx shard state.cluster = some new ∧
      (Assignment.set new).Holds after.status := by
  have set_holds {status : ConditionStatus} {reason message : String} {begun : State}
      {other : StatefulSet} (isSet : exec (do
        setCondition shard .storageReady status reason message
        pure other) begun = (.ok set, after)) :
      (Assignment.set (storageCondition shard status reason message)).Holds after.status := by
    cases isSet
    exact findStatusCondition_set_self _ (storageCondition shard status reason message) _
  rw [preservePostgreSQLVolumeClaimTemplates, exec_bind, exec_attempt, exec_getObject_answer] at ran
  cases answered : state.cluster.answer ctx .getStatefulSet
    (targetKey shard .statefulSet (postgreSQLStatefulSetName shard)) with
  | error failure =>
      simp only [evaluateStorage, type, answered]
      rw [answered] at ran
      dsimp only at ran
      split at ran
      · exact ⟨_, rfl, set_holds ran⟩
      · cases ran
  | ok object =>
      simp only [evaluateStorage, type, answered]
      rw [answered] at ran
      have requested : (buildPostgreSQLStatefulSet shard).volumeClaimTemplates =
        postgreSQLVolumeClaimTemplates shard := rfl
      simp only [requested] at ran
      split at ran
      · next matching => exact ⟨_, if_pos matching, set_holds ran⟩
      · next mismatch => exact ⟨_, if_neg mismatch, set_holds ran⟩

theorem validateExternalPostgreSQLSecret_evaluates
    (type : shard.spec.storage.type = .postgreSQL)
    (ran : exec (validateExternalPostgreSQLSecret ctx shard) state = (.ok (), after)) :
    ∃ new, evaluateStorage ctx shard state.cluster = some new ∧
      (Assignment.set new).Holds after.status := by
  have refuses {reason message : String} {failure : ApiError} {begun : State} :
      exec (storageNotReady shard reason message failure) begun ≠ (.ok (), after) := by
    intro isReady
    cases isReady
  cases isRef : shard.spec.storage.connectionSecretRef with
  | none =>
      simp only [validateExternalPostgreSQLSecret, isRef] at ran
      exact absurd ran refuses
  | some ref =>
      simp only [validateExternalPostgreSQLSecret, isRef, exec_bind, exec_attempt,
        exec_getObject_answer] at ran
      split at ran
      · split at ran
        · exact absurd ran refuses
        · exact absurd ran refuses
      · split at ran
        · exact absurd ran refuses
        · cases ran
          refine ⟨storageCondition shard .true "SecretValid"
            s!"Connection secret \"{ref.name}\" validated", ?_, findStatusCondition_set_self _ _ _⟩
          simp only [evaluateStorage, type, isRef, Option.map_some]

/-- The steps of every backend after the database leave StorageReady alone. -/
theorem finishStorage_assigning (r : Reconciler) (ctx : Schedule) (shard : APIShard) :
    Respects (assigning [.condition .monitoringDegraded]) (do
      (reconcileKine ctx shard).mapError (·.wrap "kine")
      reconcilePostgreSQLMetrics r ctx shard) := by
  apply ((assigning_of_silent (reconcileKine_silent ctx shard)).mapError _).bind
  intro _ state
  obtain ⟨collector, shadowed⟩ := reconcilePostgreSQLMetrics_received ctx shard r state
  exact shadowed.assigning { collector } rfl
    fun _ => Report.reconcilePostgreSQLMetrics_assigns _ shard

/-- StorageReady says what was evaluated.  Only on SQLite there is nothing to evaluate, and
the condition is as before. -/
def StorageSaid (ctx : Schedule) (shard : APIShard) (cluster : Cluster)
    (before after : APIShardStatus) : Prop :=
  match evaluateStorage ctx shard cluster with
  | none => shard.spec.storage.type = .sqlite ∧
      findStatusCondition after.conditions .storageReady =
        findStatusCondition before.conditions .storageReady
  | some new => (Assignment.set new).Holds after

/-- An evaluation stands as long as the condition does. -/
theorem holds_of_condition {new : NewCondition ShardCondition} (type : new.type = .storageReady)
    {before after : APIShardStatus}
    (same : findStatusCondition after.conditions .storageReady =
      findStatusCondition before.conditions .storageReady)
    (holds : (Assignment.set new).Holds before) : (Assignment.set new).Holds after := by
  obtain ⟨time, found⟩ := holds
  exact ⟨time, by rw [type, same, ← type, found]⟩

theorem reconcileInClusterPostgreSQL_evaluates
    (type : shard.spec.storage.type = .inClusterPostgreSQL)
    (ran : exec (reconcileInClusterPostgreSQL ctx shard) state = (.ok (), after)) :
    ∃ new, evaluateStorage ctx shard state.cluster = some new ∧
      (Assignment.set new).Holds after.status := by
  rw [reconcileInClusterPostgreSQL_eq] at ran
  obtain ⟨_, prepared, first, ran⟩ := exec_bind_eq_ok.mp ran
  obtain ⟨set, preserved, second, third⟩ := exec_bind_eq_ok.mp ran
  let key := Component.postgreSQLStatefulSet.key shard
  have untouched := (prepareDatabase_guarded ctx shard
    (· = state.cluster.objects.find? key)).rel first ⟨rfl, fun _ _ => trivial⟩
  have silent := (applyDatabase_silent set).rel third
  obtain ⟨new, evaluated, holds⟩ :=
    preservePostgreSQLVolumeClaimTemplates_evaluates type (exec_mapError_eq_ok.mp second)
  refine ⟨new, ?_, ?_⟩
  · rw [← evaluated]
    exact (evaluateStorage_congr untouched.live).symm
  · rw [silent.status]
    exact holds

/-- The storage step says what it has evaluated. -/
theorem reconcileStorage_said
    (ran : exec (reconcileStorage r ctx shard) state = (.ok (), after)) :
    StorageSaid ctx shard state.cluster state.status after.status := by
  have finished {evaluated : State}
      (ran : exec (do
        (reconcileKine ctx shard).mapError (·.wrap "kine")
        reconcilePostgreSQLMetrics r ctx shard) evaluated = (.ok (), after)) :
      findStatusCondition after.status.conditions .storageReady =
        findStatusCondition evaluated.status.conditions .storageReady :=
    ((finishStorage_assigning r ctx shard).rel ran).condition (by decide)
  cases type : shard.spec.storage.type with
  | sqlite =>
      simp only [reconcileStorage, type] at ran
      simp only [StorageSaid, evaluateStorage, type]
      exact ⟨trivial, finished ran⟩
  | inClusterPostgreSQL =>
      simp only [reconcileStorage, type] at ran
      obtain ⟨_, stored, first, second⟩ := exec_bind_eq_ok.mp ran
      obtain ⟨new, evaluated, holds⟩ :=
        reconcileInClusterPostgreSQL_evaluates type (exec_mapError_eq_ok.mp first)
      rw [StorageSaid, evaluated]
      exact holds_of_condition (evaluateStorage_current evaluated).1 (finished second) holds
  | postgreSQL =>
      simp only [reconcileStorage, type] at ran
      obtain ⟨_, stored, first, second⟩ := exec_bind_eq_ok.mp ran
      obtain ⟨new, evaluated, holds⟩ :=
        validateExternalPostgreSQLSecret_evaluates type (exec_mapError_eq_ok.mp first)
      rw [StorageSaid, evaluated]
      exact holds_of_condition (evaluateStorage_current evaluated).1 (finished second) holds

/-- A pass without an error leaves what its storage step has said. -/
theorem reconcileCopy_said {result : Result}
    (ran : exec (reconcileCopy r ctx shard) state = (.ok result, after)) :
    StorageSaid ctx shard state.cluster state.status after.status := by
  obtain ⟨begun, stored, granted, connected, applied, stages, _, serving⟩ :=
    reconcileCopy_stages ran
  have later : findStatusCondition after.status.conditions .storageReady =
      findStatusCondition stored.status.conditions .storageReady := by
    calc findStatusCondition after.status.conditions .storageReady
        = findStatusCondition applied.status.conditions .storageReady :=
          ((reconcileServing_assigning ctx shard).rel serving).condition (by decide)
      _ = findStatusCondition connected.status.conditions .storageReady := by
          rw [stages.working.status]
      _ = findStatusCondition granted.status.conditions .storageReady :=
          ((reconcileAdminKubeconfig_assigning ctx shard).rel stages.kubeconfig).condition
            (by decide)
      _ = findStatusCondition stored.status.conditions .storageReady := by
          rw [stages.granting.status]
  have said := reconcileStorage_said stages.storage
  have same : evaluateStorage ctx shard begun.cluster = evaluateStorage ctx shard state.cluster :=
    evaluateStorage_congr (stages.untouched.objects _ List.not_mem_nil rfl)
  rw [StorageSaid, same] at said
  rw [StorageSaid]
  cases evaluated : evaluateStorage ctx shard state.cluster with
  | none =>
      rw [evaluated] at said
      exact ⟨said.1, (later.trans said.2).trans (stages.initialized.condition (by decide))⟩
  | some new =>
      rw [evaluated] at said
      exact holds_of_condition (evaluateStorage_current evaluated).1 later said

end evaluation

/-! ## Every run -/

/-- Where a pass evaluates no StorageReady, it reads a status without one: on SQLite, on a
shard that is being deleted, and when it is told that its shard is missing. -/
structure Unsaid (registry : Registry) (ctx : Schedule) (name : String) : Prop where
  truthful : ∀ failure, ctx.faults .getShard = some failure → failure.isNotFound = false
  deleting : ∀ shard, (registry.edits (ctx.edits .getShard)).shards.find? name = some shard →
    shard.deleting = true → findStatusCondition shard.status.conditions .storageReady = none
  sqlite : ∀ shard, registry.copy ctx name = some shard → shard.spec.storage.type = .sqlite →
    findStatusCondition shard.status.conditions .storageReady = none

/-- StorageReady is absent, or this pass has evaluated it for the spec that is stored. -/
def StorageDescribed (ctx : Schedule) (cluster : Cluster) (stored : APIShard) : Prop :=
  findStatusCondition stored.status.conditions .storageReady = none ∨
    ∃ new, evaluateStorage ctx stored cluster = some new ∧
      new.observedGeneration = stored.generation ∧ (Assignment.set new).Holds stored.status

section runs

variable {r : Reconciler} {ctx : Schedule} {name : String} {state after : State} {result : Result}

/-- A pass on a copy of the shard describes its backend, unless it is SQLite and the status
it read has a condition of another. -/
theorem Adopted.described {copy : APIShard} {start : State}
    (adopted : Adopted ctx name state copy start)
    (wf : state.cluster.registry.Wf) (unsaid : Unsaid state.cluster.registry ctx name)
    (ran : exec (reconcileCopy r ctx copy) start = (.ok result, after)) {stored : APIShard}
    (found : after.cluster.registry.shards.find? name = some stored) :
    StorageDescribed ctx state.cluster stored := by
  obtain rfl := adopted.name
  have isStored := reconcileCopy_stored (adopted.tended wf) ran
  rw [found] at isStored
  cases isStored
  have said := reconcileCopy_said ran
  have same : evaluateStorage ctx copy start.cluster = evaluateStorage ctx copy state.cluster :=
    evaluateStorage_congr (by rw [adopted.cluster])
  rw [StorageSaid, same] at said
  cases evaluated : evaluateStorage ctx copy state.cluster with
  | none =>
      rw [evaluated] at said
      obtain ⟨read, copied, _, spec, status⟩ := adopted.base
      left
      rw [said.2, adopted.status, status]
      exact unsaid.sqlite read copied (spec ▸ said.1)
  | some new =>
      rw [evaluated] at said
      exact .inr ⟨new, evaluated, (evaluateStorage_current evaluated).2, said⟩

/-- After any run, a pass that returns no error leaves StorageReady absent or as it has
evaluated it for the stored spec, if it reads no StorageReady where it evaluates none. -/
theorem storageReady_describes_backend {start : State} (initial : Initial start)
    (steps : List Step)
    (unsaid : Unsaid (run State.step start steps).cluster.registry ctx name)
    (ran : exec (reconcile r ctx name) (run State.step start steps) = (.ok result, after)) :
    ∀ stored, after.cluster.registry.shards.find? name = some stored →
      StorageDescribed ctx (run State.step start steps).cluster stored := by
  intro stored found
  rcases reconcile_ok unsaid.truthful ran with
    ⟨copy, begun, adopted, ran⟩ | ⟨deleting, follows⟩
  · exact adopted.described (run_wf initial steps) unsaid ran found
  · left
    rcases follows.find?_status found with empty | ⟨shard, read, status⟩
    · rw [empty]
      rfl
    · rw [status]
      exact unsaid.deleting shard read (deleting shard read)

/-- The in-cluster database with a volume of this size. -/
def sized (gibibytes : Nat) (text : String) : StorageSpec where
  type := .inClusterPostgreSQL
  persistence := some ⟨none, ⟨gibibytes, text⟩⟩

/-- A shard on the in-cluster database is served, asks for a larger volume, is told that it
cannot have it, and is switched to another storage. -/
def switched (storage : StorageSpec) : State :=
  let spec (storage : StorageSpec) : APIShardSpec :=
    { plainSpec [⟨"g", ["v1"]⟩] with storage := storage }
  run State.step { cluster := .bare } [
    .edit (.create "a" (spec (sized 1 "1Gi"))),
    .surround (.serving "a"),
    .pass .bare "a" {},
    .edit (.editSpec "a" (spec (sized 2 "2Gi"))),
    .pass .bare "a" {},
    .edit (.editSpec "a" (spec storage))]

/-- The statement for a shard that goes back to the volume it has. -/
theorem storageReady_describes_backend_sized :
    ∃ stored, (exec (reconcile .bare {} "a")
        (switched (sized 1 "1Gi"))).2.cluster.registry.shards.find? "a" = some stored ∧
      StorageDescribed {} (switched (sized 1 "1Gi")).cluster stored ∧
      (findStatusCondition stored.status.conditions .storageReady).isSome = true := by
  obtain ⟨deleting, type, returned, stored, found, present⟩ :
      (∀ shard ∈ ((switched (sized 1 "1Gi")).cluster.registry.edits
        (Schedule.edits {} .getShard)).shards.find? "a", shard.deleting = false) ∧
      (∀ shard ∈ (switched (sized 1 "1Gi")).cluster.registry.copy {} "a",
        shard.spec.storage.type ≠ .sqlite) ∧
      (exec (reconcile .bare {} "a") (switched (sized 1 "1Gi"))).1.isOk = true ∧
      ∃ stored ∈ (exec (reconcile .bare {} "a")
        (switched (sized 1 "1Gi"))).2.cluster.registry.shards.find? "a",
        (findStatusCondition stored.status.conditions .storageReady).isSome = true := by
    decide +kernel
  have unsaid : Unsaid (switched (sized 1 "1Gi")).cluster.registry {} "a" := by
    refine ⟨?_, ?_, ?_⟩
    · intro failure fault
      cases fault
    · intro shard found deleted
      rw [deleting shard found] at deleted
      cases deleted
    · exact fun shard copied isSqlite => absurd isSqlite (type shard copied)
  obtain ⟨result, ran⟩ := exec_eq_of_isOk returned
  exact ⟨stored, found, storageReady_describes_backend initial_bare _ unsaid ran stored found,
    present⟩

/-- What the in-cluster database has said outlives the switch to SQLite. -/
theorem sqlite_keeps_storageReady :
    ∃ stored condition,
      (exec (reconcile .bare {} "a") (switched { type := .sqlite })).1.isOk = true ∧
      (exec (reconcile .bare {} "a")
        (switched { type := .sqlite })).2.cluster.registry.shards.find? "a" = some stored ∧
      findStatusCondition stored.status.conditions .storageReady = some condition ∧
      condition.status = .false ∧ condition.reason = "VolumeClaimTemplateImmutable" ∧
      condition.observedGeneration < stored.generation ∧
      ¬StorageDescribed {} (switched { type := .sqlite }).cluster stored := by
  obtain ⟨returned, stored, found, condition, isCondition, type, status, reason, older⟩ :
      (exec (reconcile .bare {} "a") (switched { type := .sqlite })).1.isOk = true ∧
      ∃ stored ∈ (exec (reconcile .bare {} "a")
        (switched { type := .sqlite })).2.cluster.registry.shards.find? "a",
      ∃ condition ∈ findStatusCondition stored.status.conditions .storageReady,
      stored.spec.storage.type = .sqlite ∧ condition.status = .false ∧
      condition.reason = "VolumeClaimTemplateImmutable" ∧
      condition.observedGeneration < stored.generation := by
    decide +kernel
  refine ⟨stored, condition, returned, found, isCondition, status, reason, older, ?_⟩
  rintro (absent | ⟨new, evaluated, _⟩)
  · rw [isCondition] at absent
    cases absent
  · simp only [evaluateStorage, type] at evaluated
    cases evaluated

end runs

end KubeShard.Apishard
