import KubeShard.Apishard.Fixpoint

/-!
# Which passes get to their final status write

Whether a pass succeeds is read off its answers: every step before the detection of
conflicts has to be answered well, the workloads have to be found, and the APIServices
have to be listed where their availability is asked for.
-/

namespace KubeShard.Apishard

open Resources Prog Aggregation

namespace Answers

variable (answers : Answers) (shard : APIShard) (status : APIShardStatus)

/-- The storage step is answered so that it succeeds. -/
def storageSucceeds : Bool :=
  match shard.spec.storage.type with
  | .sqlite => true
  | .inClusterPostgreSQL =>
      answers.credentials.isOk &&
        (match answers.statefulSet with
          | .ok _ => true
          | .error failure => failure.isNotFound) &&
        answers.database.isOk
  | .postgreSQL =>
      match shard.spec.storage.connectionSecretRef, answers.connectionSecret with
      | some ref, .ok secret => (secret.lookup ref.key).isSome
      | _, _ => false

/-- The steps before the APIServices are answered so that they succeed. -/
def resourcesSucceed : Bool :=
  answers.ensureNamespace.isOk && answers.storageSucceeds shard && answers.kine.isOk &&
    answers.access.isOk && answers.adminKubeconfig.isOk && answers.secondary.isOk

/-- The APIServices are registered, and those no longer wanted are deleted. -/
def registers : Bool :=
  answers.apiServices.isOk && status.registeredAPIServices.all fun name =>
    name ∈ desiredAPIServiceNames shard || (answers.orphan name).isOk

/-- The pass gets to the detection of conflicts. -/
def succeeds : Bool :=
  answers.finalizer.isOk && answers.resourcesSucceed shard && answers.registers shard status

/-- There are conflicting CRDs and all of them are synced; where the CRDs cannot be
listed it is for the status to tell. -/
def synced : Bool :=
  match answers.crds with
  | .error _ => conflictIs "CRDsSyncedToSecondary" status
  | .ok crds =>
      !(conflicting shard crds).isEmpty && answers.syncClient.isOk &&
        (conflicting shard crds).all fun crd => (answers.syncCRD crd.name).isOk

/-- The availability of the APIServices is asked for. -/
def gated : Bool :=
  match answers.checkDeploymentHealth with
  | .ok true => answers.synced shard status
  | _ => false

/-- The pass gets to its final status write. -/
def completes : Bool :=
  answers.succeeds shard status && answers.checkDeploymentHealth.isOk &&
    (!answers.gated shard status || answers.services.isOk)

end Answers

/-! ## Successful steps -/

namespace Report

/-- The program succeeds exactly in this case. -/
def Succeeds {α : Type} (program : Reporting α) (given : Bool) : Prop :=
  ∀ memory, (exec program memory).1.isOk = given

namespace Succeeds

variable {α β : Type}

theorem of_pure (value : α) : Succeeds (pure value) true :=
  fun _ => rfl

theorem of_throw (failure : ApiError) : Succeeds (throw failure : Reporting α) false :=
  fun _ => rfl

theorem of_answer (given : Except ApiError α) : Succeeds (answer given) given.isOk := by
  cases given with
  | ok value => exact of_pure value
  | error failure => exact of_throw failure

theorem of_assign (assignment : Assignment) : Succeeds (assign assignment) true :=
  fun _ => rfl

theorem of_status (read : List Assignment → APIShardStatus) : Succeeds (status read) true :=
  fun _ => rfl

theorem bind {program : Reporting α} {next : α → Reporting β} {first second : Bool}
    (former : Succeeds program first) (latter : ∀ value, Succeeds (next value) second) :
    Succeeds (program >>= next) (first && second) := by
  intro memory
  rw [exec_bind, ← former memory]
  rcases exec program memory with ⟨given, after⟩
  cases given with
  | error failure => rfl
  | ok value => exact latter value after

theorem mapError {program : Reporting α} {given : Bool} (succeeds : Succeeds program given)
    (rewrite : ApiError → ApiError) : Succeeds (program.mapError rewrite) given := by
  intro memory
  rw [exec_mapError, ← succeeds memory]
  rcases exec program memory with ⟨outcome, after⟩
  cases outcome <;> rfl

theorem orSetError {program : Reporting α} {given : Bool} (succeeds : Succeeds program given)
    (shard : APIShard) : Succeeds (Report.orSetError shard program) given := by
  intro memory
  rw [exec_orSetError, ← succeeds memory]
  rcases exec program memory with ⟨outcome, after⟩
  cases outcome <;> rfl

end Succeeds

section steps

variable (answers : Answers) (shard : APIShard)

theorem reconcileInClusterPostgreSQL_succeeds :
    Succeeds (reconcileInClusterPostgreSQL answers shard)
      (answers.credentials.isOk &&
        (match answers.statefulSet with
          | .ok _ => true
          | .error failure => failure.isNotFound) &&
        answers.database.isOk) := by
  rw [Bool.and_assoc]
  apply Succeeds.bind (.of_answer _)
  intro _
  apply Succeeds.bind _ (fun _ => .of_answer _)
  apply Succeeds.mapError
  unfold preservePostgreSQLVolumeClaimTemplates
  cases answers.statefulSet with
  | error failure =>
      dsimp only
      cases missing : failure.isNotFound with
      | false => exact .of_throw _
      | true => exact .of_assign _
  | ok live =>
      dsimp only
      split <;> exact .of_assign _

theorem validateExternalPostgreSQLSecret_succeeds :
    Succeeds (validateExternalPostgreSQLSecret answers shard)
      (match shard.spec.storage.connectionSecretRef, answers.connectionSecret with
        | some ref, .ok secret => (secret.lookup ref.key).isSome
        | _, _ => false) := by
  have notReady (reason message : String) (failure : ApiError) :
      Succeeds (storageNotReady shard reason message failure) false :=
    .bind (.of_assign _) (fun _ => .of_throw failure)
  unfold validateExternalPostgreSQLSecret
  cases shard.spec.storage.connectionSecretRef with
  | none => exact notReady _ _ _
  | some ref =>
      cases answers.connectionSecret with
      | error failure =>
          dsimp only
          split <;> exact notReady _ _ _
      | ok secret =>
          dsimp only
          cases secret.lookup ref.key with
          | none => exact notReady _ _ _
          | some value => exact .of_assign _

theorem reconcileStorage_succeeds :
    Succeeds (reconcileStorage answers shard)
      (answers.storageSucceeds shard && answers.kine.isOk) := by
  have metrics : Succeeds (reconcilePostgreSQLMetrics answers shard) true := by
    unfold reconcilePostgreSQLMetrics
    split
    · exact .of_assign _
    · split
      · exact .of_assign _
      · cases answers.collector <;> exact .of_assign _
  have rest : Succeeds (do
      (answer answers.kine).mapError (·.wrap "kine")
      reconcilePostgreSQLMetrics answers shard) answers.kine.isOk := by
    rw [← Bool.and_true answers.kine.isOk]
    exact .bind ((Succeeds.of_answer _).mapError _) (fun _ => metrics)
  unfold reconcileStorage Answers.storageSucceeds
  cases shard.spec.storage.type with
  | sqlite => exact rest
  | inClusterPostgreSQL =>
      exact .bind ((reconcileInClusterPostgreSQL_succeeds answers shard).mapError _)
        (fun _ => rest)
  | postgreSQL =>
      exact .bind ((validateExternalPostgreSQLSecret_succeeds answers shard).mapError _)
        (fun _ => rest)

theorem reconcileAdminKubeconfig_succeeds :
    Succeeds (reconcileAdminKubeconfig answers shard) answers.adminKubeconfig.isOk := by
  rw [← Bool.and_true answers.adminKubeconfig.isOk]
  apply Succeeds.bind (.of_answer _)
  intro written
  split
  · exact .of_assign _
  · exact .of_pure _

theorem reconcileResources_succeeds :
    Succeeds (reconcileResources answers shard) (answers.resourcesSucceed shard) := by
  simp only [Answers.resourcesSucceed, Bool.and_assoc]
  apply Succeeds.bind ((Succeeds.of_answer _).orSetError shard)
  intro _
  rw [← Bool.true_and (answers.storageSucceeds shard && _)]
  apply Succeeds.bind (fun _ => rfl)
  intro _
  rw [← Bool.and_assoc]
  apply Succeeds.bind ((reconcileStorage_succeeds answers shard).orSetError shard)
  intro _
  apply Succeeds.bind ((Succeeds.of_answer _).orSetError shard)
  intro _
  apply Succeeds.bind ((reconcileAdminKubeconfig_succeeds answers shard).orSetError shard)
  intro _
  exact (Succeeds.of_answer _).orSetError shard

theorem registration_isOk (status : APIShardStatus) :
    (registration answers shard status.registeredAPIServices).isOk =
      answers.registers shard status := by
  have deleted (names : List String) :
      (deleteOrphanedAPIServices answers (desiredAPIServiceNames shard) names).isOk =
        names.all fun name => name ∈ desiredAPIServiceNames shard ||
          (answers.orphan name).isOk := by
    induction names with
    | nil => rfl
    | cons name rest ih =>
        rw [deleteOrphanedAPIServices, List.all_cons]
        by_cases wanted : name ∈ desiredAPIServiceNames shard
        · simp only [wanted, if_true, decide_true, Bool.true_or, Bool.true_and]
          exact ih
        · simp only [wanted, if_false, decide_false, Bool.false_or]
          cases answers.orphan name with
          | error failure => rfl
          | ok value => exact ih
  unfold registration Answers.registers
  cases answers.apiServices with
  | error failure => rfl
  | ok value => exact deleted _

theorem syncCRDsToSecondary_isOk (names : List String) :
    (syncCRDsToSecondary answers names).isOk =
      (answers.syncClient.isOk && names.all fun name => (answers.syncCRD name).isOk) := by
  unfold syncCRDsToSecondary
  cases answers.syncClient with
  | error failure => rfl
  | ok value =>
      rw [show (Except.ok value : Except ApiError Unit).isOk = true from rfl, Bool.true_and]
      induction names with
      | nil => rfl
      | cons name rest ih =>
          rw [List.all_cons, List.filterMap_cons]
          cases answers.syncCRD name with
          | error failure => rfl
          | ok value => exact ih

/-- The gate is the one the answers ask for. -/
theorem conflictSeen_synced (status : APIShardStatus) :
    conflictSeen answers shard status "CRDsSyncedToSecondary" = answers.synced shard status := by
  unfold conflictSeen conflict Answers.synced
  cases answers.crds with
  | error failure => rfl
  | ok crds =>
      dsimp only
      cases conflicts : conflicting shard crds with
      | nil => rfl
      | cons crd rest =>
          have outcome := syncCRDsToSecondary_isOk answers ((crd :: rest).map CRD.name)
          rw [List.all_map] at outcome
          simp only [List.map_cons] at outcome ⊢
          rw [show (!(crd :: rest).isEmpty) = true from rfl, Bool.true_and]
          cases synced : syncCRDsToSecondary answers (crd.name :: rest.map CRD.name) with
          | error failure =>
              rw [synced] at outcome
              exact outcome
          | ok value =>
              rw [synced] at outcome
              exact outcome

/-- A status condition has one reason. -/
theorem conflictSeen_failed {status : APIShardStatus}
    (synced : answers.synced shard status = true) :
    conflictSeen answers shard status "CRDSyncFailed" = false := by
  have apart : "CRDsSyncedToSecondary" ≠ "CRDSyncFailed" := by decide
  rw [← conflictSeen_synced] at synced
  simp only [conflictSeen, conflictIs] at synced ⊢
  split at synced
  · simp only [Bool.and_eq_true, decide_eq_true_eq] at synced
    simp [synced.2, apart]
  · split at synced
    · simp only [Bool.and_eq_true, decide_eq_true_eq] at synced
      simp [synced.2, apart]
    · rfl

end steps

/-! ## The end of a pass -/

section ending

variable {answers : Answers} {shard : APIShard} {read : List Assignment → APIShardStatus}
  {memory : Memory}

/-- Before the gate the APIServices are listed only where the CRDs are synced. -/
theorem gate_isOk {synced : Bool}
    (seen : conflictIs "CRDsSyncedToSecondary" (read memory.assigned) = synced)
    (apart : synced = true → conflictIs "CRDSyncFailed" (read memory.assigned) = false) :
    (exec (gate answers shard read) memory).1.isOk = (!synced || answers.services.isOk) := by
  simp only [gate, checkAPIServiceAvailability, status, exec_bind, exec_get, exec_pure, seen]
  cases synced with
  | false =>
      cases conflictIs "CRDSyncFailed" (read memory.assigned) <;> rfl
  | true =>
      rw [apart rfl]
      cases answers.services with
      | error failure => rfl
      | ok services =>
          simp only [answer, pure_bind, Bool.not_true, Bool.false_eq_true, if_false]
          cases checkOwned shard.uid services <;> rfl

/-- What is unavailable becomes the message of the status. -/
theorem gate_unavailable (seen : conflictIs "CRDsSyncedToSecondary" (read memory.assigned) = true)
    (apart : conflictIs "CRDSyncFailed" (read memory.assigned) = false)
    {services : List APIService} (listed : answers.services = .ok services) {message : String}
    (found : checkOwned shard.uid services = some message) :
    .set ⟨.apiServicesRegistered, .false, "APIServicesNotAvailable", message,
      shard.generation⟩ ∈ (exec (gate answers shard read) memory).2.assigned := by
  simp [gate, checkAPIServiceAvailability, status, exec_bind, seen, apart, listed, found, answer,
    setCondition, assign]

/-- The gate depends on the APIServices through the check of those the shard owns. -/
theorem gate_listing {crds : Except ApiError (List CRD)}
    {services : Except ApiError (List APIService)}
    (same : conflictIs "CRDsSyncedToSecondary" (read memory.assigned) = true →
      services.map (checkOwned shard.uid) = answers.services.map (checkOwned shard.uid)) :
    exec (gate (answers.listing crds services) shard read) memory =
      exec (gate answers shard read) memory := by
  simp only [gate, checkAPIServiceAvailability, status, exec_bind, exec_get, exec_pure,
    Answers.listing]
  cases conflictIs "CRDSyncFailed" (read memory.assigned) with
  | true => rfl
  | false =>
      cases seen : conflictIs "CRDsSyncedToSecondary" (read memory.assigned) with
      | false => rfl
      | true =>
          have agree := same seen
          simp only [Bool.not_true, Bool.false_eq_true, if_false]
          cases services with
          | error failure =>
              cases listed : answers.services with
              | error other =>
                  rw [listed] at agree
                  cases agree
                  rfl
              | ok others =>
                  rw [listed] at agree
                  cases agree
          | ok services =>
              cases listed : answers.services with
              | error other =>
                  rw [listed] at agree
                  cases agree
              | ok others =>
                  rw [listed] at agree
                  have verdict : checkOwned shard.uid services = checkOwned shard.uid others :=
                    Except.ok.inj agree
                  simp only [answer, exec_pure, exec_bind, verdict]

variable {status : APIShardStatus} {now : Nat}

theorem registration_listing (crds : Except ApiError (List CRD))
    (services : Except ApiError (List APIService)) :
    registration (answers.listing crds services) shard = registration answers shard := by
  have deleted (names : List String) :
      deleteOrphanedAPIServices (answers.listing crds services) (desiredAPIServiceNames shard)
          names =
        deleteOrphanedAPIServices answers (desiredAPIServiceNames shard) names := by
    induction names with
    | nil => rfl
    | cons name rest ih =>
        rw [deleteOrphanedAPIServices, deleteOrphanedAPIServices, ih]
        rfl
  funext registered
  rw [registration, registration, deleted]
  rfl

/-- A pass that fails before the detection of conflicts lists nothing. -/
theorem reconcile_of_fails (fails : answers.succeeds shard status = false)
    (crds : Except ApiError (List CRD)) (services : Except ApiError (List APIService)) :
    exec (reconcile (answers.listing crds services) shard (status.assigned now)) {} =
      exec (reconcile answers shard (status.assigned now)) {} := by
  rw [exec_reconcile, exec_reconcile]
  have resources : reconcileResources (answers.listing crds services) shard =
    reconcileResources answers shard := rfl
  have patch : (answers.listing crds services).finalizer = answers.finalizer := rfl
  rw [resources, registration_listing, patch]
  unfold Answers.succeeds at fails
  cases finalizer : answers.finalizer with
  | error failure => rfl
  | ok value =>
      rw [finalizer, show (Except.ok value : Except ApiError Unit).isOk = true from rfl,
        Bool.true_and, ← registration_isOk, ← reconcileResources_succeeds answers shard {}] at fails
      obtain ⟨assignments, ⟨ran, within⟩ | ⟨failure, ran, within⟩⟩ :=
        reconcileResources_cases answers shard
      · simp only [ran, registered_assigned status now within] at fails ⊢
        cases registers : registration answers shard status.registeredAPIServices with
        | error failure => rfl
        | ok value =>
            rw [registers] at fails
            cases fails
      · simp only [ran]

/-- The last part of a pass begins with the same assignments, whatever is listed. -/
theorem reconcile_of_succeeds (now : Nat) (succeeds : answers.succeeds shard status = true) :
    ∃ assignments, Within resourceSlots assignments ∧ ∀ crds services,
      exec (reconcile (answers.listing crds services) shard (status.assigned now)) {} =
        exec (reconcileHealth (answers.listing crds services) shard (status.assigned now))
          ⟨assignments ++ [.registeredAPIServices (desiredAPIServiceNames shard)],
            some [.initialPhase]⟩ := by
  simp only [Answers.succeeds, Bool.and_eq_true] at succeeds
  obtain ⟨⟨finalizer, resources⟩, registers⟩ := succeeds
  rw [← reconcileResources_succeeds answers shard {}] at resources
  rw [← registration_isOk] at registers
  obtain ⟨assignments, ⟨ran, within⟩ | ⟨failure, ran, within⟩⟩ :=
    reconcileResources_cases answers shard
  · refine ⟨assignments, within, fun crds services => ?_⟩
    rw [exec_reconcile]
    have same : reconcileResources (answers.listing crds services) shard =
      reconcileResources answers shard := rfl
    have patch : (answers.listing crds services).finalizer = answers.finalizer := rfl
    rw [same, registration_listing, ran, patch]
    simp only [registered_assigned status now within]
    cases patched : answers.finalizer with
    | error failure =>
        rw [patched] at finalizer
        cases finalizer
    | ok value =>
        cases registered : registration answers shard status.registeredAPIServices with
        | error failure =>
            rw [registered] at registers
            cases registers
        | ok value => rfl
  · rw [ran] at resources
    cases resources

theorem reportUnhealthy_succeeds (read : List Assignment → APIShardStatus) :
    Succeeds (reportUnhealthy shard read) true := by
  apply Succeeds.bind (.of_assign _)
  intro _
  apply Succeeds.bind (.of_assign _)
  intro _
  apply Succeeds.bind (.of_status read)
  intro status
  split
  · exact .bind (.of_assign _) (fun _ => .of_pure _)
  · exact .of_pure _

/-- The memory of a pass that has detected its conflicts. -/
def detected (answers : Answers) (shard : APIShard) (assignments : List Assignment) : Memory :=
  ⟨assignments ++ [.registeredAPIServices (desiredAPIServiceNames shard)] ++
    ((conflict answers shard).map .set).toList, some [.initialPhase]⟩

section health

variable {assignments : List Assignment} (within : Within resourceSlots assignments)
include within

/-- The health check of a pass that has detected its conflicts, and what its gate sees of
them. -/
theorem exec_health : ∃ memory : Memory,
    (∀ crds services,
      exec (updateHealthStatus (answers.listing crds services) shard (status.assigned now))
          (detected answers shard assignments) =
        match answers.checkDeploymentHealth with
        | .error failure => (.error failure, detected answers shard assignments)
        | .ok false => exec (reportUnhealthy shard (status.assigned now))
            (detected answers shard assignments)
        | .ok true => exec (gate (answers.listing crds services) shard (status.assigned now))
            memory) ∧
    conflictIs "CRDsSyncedToSecondary" (status.assigned now memory.assigned) =
      answers.synced shard status ∧
    (answers.synced shard status = true →
      conflictIs "CRDSyncFailed" (status.assigned now memory.assigned) = false) := by
  obtain ⟨new, newWithin, course⟩ :=
    exec_updateHealthStatus answers shard (detected answers shard assignments)
  have seen := conflictIs_registered answers shard status now within
    (newWithin.mono (show healthySlots ⊆ healthSlots by decide))
  refine ⟨{ detected answers shard assignments with
    assigned := (detected answers shard assignments).assigned ++ new }, ?_, ?_, ?_⟩
  · exact fun crds services => course crds services (status.assigned now)
  · exact (seen _).trans (conflictSeen_synced answers shard status)
  · exact fun synced => (seen _).trans (conflictSeen_failed answers shard synced)

/-- The health check ends well where the answers say so. -/
theorem updateHealthStatus_isOk :
    (exec (updateHealthStatus answers shard (status.assigned now))
        (detected answers shard assignments)).1.isOk =
      (answers.checkDeploymentHealth.isOk &&
        (!answers.gated shard status || answers.services.isOk)) := by
  obtain ⟨memory, course, isSynced, apart⟩ :=
    @exec_health answers shard status now assignments within
  have ran := course answers.crds answers.services
  rw [answers.listing_self] at ran
  rw [ran, Answers.gated]
  rcases answers.checkDeploymentHealth with failure | healthy
  · rfl
  · cases healthy with
    | false => exact reportUnhealthy_succeeds _ _
    | true =>
        exact gate_isOk isSynced apart

/-- What the gate finds unavailable is assigned. -/
theorem updateHealthStatus_unavailable (gated : answers.gated shard status = true)
    {services : List APIService} (listed : answers.services = .ok services) {message : String}
    (found : checkOwned shard.uid services = some message) :
    .set ⟨.apiServicesRegistered, .false, "APIServicesNotAvailable", message, shard.generation⟩ ∈
      (exec (updateHealthStatus answers shard (status.assigned now))
        (detected answers shard assignments)).2.assigned := by
  obtain ⟨memory, course, isSynced, apart⟩ :=
    @exec_health answers shard status now assignments within
  have ran := course answers.crds answers.services
  rw [answers.listing_self] at ran
  rw [ran]
  unfold Answers.gated at gated
  split at gated
  · next healthy =>
      rw [healthy]
      exact gate_unavailable (isSynced.trans gated) (apart gated) listed found
  · cases gated

/-- The health check depends on the lists through what the gate makes of them. -/
theorem updateHealthStatus_listing {crds : Except ApiError (List CRD)}
    {services : Except ApiError (List APIService)}
    (same : answers.gated shard status = true →
      services.map (checkOwned shard.uid) = answers.services.map (checkOwned shard.uid)) :
    exec (updateHealthStatus (answers.listing crds services) shard (status.assigned now))
        (detected answers shard assignments) =
      exec (updateHealthStatus answers shard (status.assigned now))
        (detected answers shard assignments) := by
  obtain ⟨memory, course, isSynced, apart⟩ :=
    @exec_health answers shard status now assignments within
  have ran := course answers.crds answers.services
  rw [answers.listing_self] at ran
  rw [ran, course]
  rw [Answers.gated] at same
  generalize answers.checkDeploymentHealth = health at same ⊢
  rcases health with failure | healthy
  · rfl
  · cases healthy with
    | false => rfl
    | true =>
        apply gate_listing
        intro synced
        exact same (isSynced.symm.trans synced)

omit within in
/-- The final status write comes after a health check that ended well. -/
theorem reconcileHealth_written
    (ended : (exec (updateHealthStatus answers shard read)
      (detected answers shard assignments)).1.isOk = true) :
    (exec (reconcileHealth answers shard read)
      ⟨assignments ++ [.registeredAPIServices (desiredAPIServiceNames shard)],
        some [.initialPhase]⟩).2.written =
      some ((exec (updateHealthStatus answers shard read)
        (detected answers shard assignments)).2.assigned ++ successAssignments shard) := by
  rw [exec_reconcileHealth]
  simp only [detected] at ended ⊢
  generalize exec (updateHealthStatus answers shard read) _ = outcome at ended ⊢
  obtain ⟨given, after⟩ := outcome
  cases given with
  | error failure => cases ended
  | ok result => rfl

omit within in
/-- A pass that ends in its health check has only given the shard a phase. -/
theorem reconcileHealth_unwritten
    (ended : (exec (updateHealthStatus answers shard read)
      (detected answers shard assignments)).1.isOk = false) :
    (exec (reconcileHealth answers shard read)
      ⟨assignments ++ [.registeredAPIServices (desiredAPIServiceNames shard)],
        some [.initialPhase]⟩).2.written = some [.initialPhase] := by
  obtain ⟨new, after, _⟩ :=
    updateHealthStatus_assigns answers shard read (detected answers shard assignments)
  rw [exec_reconcileHealth]
  simp only [detected] at ended after ⊢
  generalize exec (updateHealthStatus answers shard read) _ = outcome at ended after ⊢
  obtain ⟨given, middle⟩ := outcome
  obtain rfl := after
  cases given with
  | error failure => rfl
  | ok result => cases ended

/-- No part is assigned twice before the final status write. -/
theorem distinct_updateHealthStatus :
    (((exec (updateHealthStatus answers shard read)
        (detected answers shard assignments)).2.assigned ++ successAssignments shard).map
      Assignment.slot).Nodup := by
  obtain ⟨new, after, newWithin⟩ :=
    updateHealthStatus_assigns answers shard read (detected answers shard assignments)
  rw [after, detected, List.append_assoc]
  exact (within_written within (newWithin.append (within_successAssignments shard) (by decide))
    (within_conflict answers shard) (by decide)).distinct

omit within in
theorem conflict_mem_updateHealthStatus {new : NewCondition ShardCondition}
    (isNew : conflict answers shard = some new) :
    .set new ∈ (exec (updateHealthStatus answers shard read)
      (detected answers shard assignments)).2.assigned := by
  obtain ⟨more, after, _⟩ :=
    updateHealthStatus_assigns answers shard read (detected answers shard assignments)
  rw [after]
  simp [detected, isNew]

end health

end ending

end Report

end KubeShard.Apishard
