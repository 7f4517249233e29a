import KubeShard.Apishard.Report

/-!
# The assignments of a pass

Assignments to a status are assignments to slots.  Every step assigns within the slots
it is known for, and the slots of the steps are apart, so that no pass assigns twice to
one part of the status.
-/

namespace KubeShard.Apishard

open Resources Prog Aggregation

/-! ## Laws of assignments -/

namespace Assignment

/-- The part is as the assignment wants it. -/
def Holds : Assignment → APIShardStatus → Prop
  | set new, status =>
      ∃ time, findStatusCondition status.conditions new.type = some (new.stamp time)
  | remove type, status => findStatusCondition status.conditions type = none
  | initialPhase, status => status.phase ≠ .empty
  | phase reached _, status => status.phase = reached
  | message text, status => status.message = text
  | observedGeneration generation, status => status.observedGeneration = generation
  | connectionSecret reference, status => status.connectionSecret = some reference
  | secondaryEndpoint endpoint, status => status.secondaryEndpoint = endpoint
  | registeredAPIServices names, status => status.registeredAPIServices = names

theorem holds_apply (now : Nat) (assignment : Assignment) (status : APIShardStatus) :
    assignment.Holds (assignment.apply now status) := by
  cases assignment with
  | set new => exact findStatusCondition_set_self now new status.conditions
  | remove type => exact findStatusCondition_remove_self type status.conditions
  | initialPhase =>
      simp only [Holds, apply]
      split
      · exact Phase.provisioning_ne_empty
      · assumption
  | _ => rfl

/-- A condition is only changed by assignments to it. -/
theorem findStatusCondition_apply (now : Nat) {assignment : Assignment} {type : ShardCondition}
    (other : assignment.slot ≠ .condition type) (status : APIShardStatus) :
    findStatusCondition (assignment.apply now status).conditions type =
      findStatusCondition status.conditions type := by
  cases assignment with
  | set new =>
      exact findStatusCondition_set_of_ne now (fun same => other (by rw [same]; rfl)) _
  | remove removed =>
      exact findStatusCondition_remove_of_ne (fun same => other (by rw [same]; rfl)) _
  | initialPhase =>
      simp only [apply]
      split <;> rfl
  | _ => rfl

theorem connectionSecret_apply (now : Nat) {assignment : Assignment}
    (other : assignment.slot ≠ .connectionSecret) (status : APIShardStatus) :
    (assignment.apply now status).connectionSecret = status.connectionSecret := by
  cases assignment with
  | connectionSecret reference => exact absurd rfl other
  | initialPhase =>
      simp only [apply]
      split <;> rfl
  | _ => rfl

theorem holds_apply_other (now : Nat) (assignment other : Assignment) (status : APIShardStatus)
    (slots : assignment.slot ≠ other.slot) (holds : assignment.Holds status) :
    assignment.Holds (other.apply now status) := by
  cases assignment with
  | set new =>
      obtain ⟨time, found⟩ := holds
      exact ⟨time, (findStatusCondition_apply now slots.symm status).trans found⟩
  | remove type => exact (findStatusCondition_apply now slots.symm status).trans holds
  | initialPhase =>
      cases other with
      | phase reached named => exact named
      | initialPhase => exact absurd rfl slots
      | _ => exact holds
  | phase reached named =>
      cases other with
      | phase _ _ => exact absurd rfl slots
      | initialPhase =>
          have given : status.phase ≠ .empty := fun empty => named (holds.symm.trans empty)
          simp only [apply, given, if_false]
          exact holds
      | _ => exact holds
  | _ =>
      cases other <;> first
        | exact absurd rfl slots
        | exact holds
        | (simp only [apply]
           split <;> exact holds)

theorem apply_of_holds (now : Nat) (assignment : Assignment) (status : APIShardStatus)
    (holds : assignment.Holds status) : assignment.apply now status = status := by
  cases assignment with
  | set new =>
      obtain ⟨time, found⟩ := holds
      simp only [apply, setStatusCondition_of_find now found]
  | remove type => simp only [apply, removeStatusCondition_of_find holds]
  | initialPhase =>
      simp only [apply]
      rw [if_neg holds]
  | _ =>
      simp only [Holds] at holds
      simp only [apply, ← holds]

/-- Assignments obey the laws of assignments to slots, at any time. -/
theorem lawful (now : Nat) : Assign.Lawful (apply now) Holds slot :=
  ⟨holds_apply now, holds_apply_other now, apply_of_holds now⟩

end Assignment

namespace APIShardStatus

variable (status : APIShardStatus) (now : Nat)

theorem assigned_append (first second : List Assignment) :
    status.assigned now (first ++ second) = (status.assigned now first).assigned now second :=
  Assign.applyAll_append first second status

theorem findStatusCondition_assigned {assignments : List Assignment} {type : ShardCondition}
    (other : Slot.condition type ∉ assignments.map Assignment.slot) :
    findStatusCondition (status.assigned now assignments).conditions type =
      findStatusCondition status.conditions type := by
  induction assignments generalizing status with
  | nil => rfl
  | cons first rest ih =>
      rw [List.map_cons, List.mem_cons, not_or] at other
      exact (ih _ other.2).trans
        (Assignment.findStatusCondition_apply now (Ne.symm other.1) status)

theorem connectionSecret_assigned {assignments : List Assignment}
    (other : Slot.connectionSecret ∉ assignments.map Assignment.slot) :
    (status.assigned now assignments).connectionSecret = status.connectionSecret := by
  induction assignments generalizing status with
  | nil => rfl
  | cons first rest ih =>
      rw [List.map_cons, List.mem_cons, not_or] at other
      exact (ih _ other.2).trans
        (Assignment.connectionSecret_apply now (Ne.symm other.1) status)

theorem registeredAPIServices_assigned {assignments : List Assignment}
    (other : Slot.registeredAPIServices ∉ assignments.map Assignment.slot) :
    (status.assigned now assignments).registeredAPIServices = status.registeredAPIServices := by
  have holds : (Assignment.registeredAPIServices status.registeredAPIServices).Holds status := rfl
  exact (Assignment.lawful now).keeps_all other holds

end APIShardStatus

/-- The same answers with other lists. -/
def Answers.listing (answers : Answers) (crds : Except ApiError (List CRD))
    (services : Except ApiError (List APIService)) : Answers :=
  { answers with crds := crds, services := services }

theorem Answers.listing_self (answers : Answers) :
    answers.listing answers.crds answers.services = answers := rfl

/-! ## What the steps assign -/

namespace Report

/-- The assignments are to these slots, to none of them twice. -/
structure Within (slots : List Slot) (assignments : List Assignment) : Prop where
  distinct : (assignments.map Assignment.slot).Nodup
  subset : assignments.map Assignment.slot ⊆ slots

namespace Within

variable {slots first second : List Slot} {former latter : List Assignment}

theorem nil : Within slots [] := ⟨List.nodup_nil, List.nil_subset _⟩

theorem of_eq (listed : List Slot) (slots_eq : former.map Assignment.slot = listed)
    (distinct : listed.Nodup) (subset : listed ⊆ slots) : Within slots former :=
  ⟨slots_eq ▸ distinct, slots_eq ▸ subset⟩

theorem mono (within : Within first former) (subset : first ⊆ second) : Within second former :=
  ⟨within.distinct, List.Subset.trans within.subset subset⟩

theorem append (left : Within first former) (right : Within second latter)
    (apart : (first ++ second).Nodup) : Within (first ++ second) (former ++ latter) := by
  rw [List.nodup_append] at apart
  constructor
  · rw [List.map_append, List.nodup_append]
    exact ⟨left.distinct, right.distinct, fun slot inFirst other inSecond =>
      apart.2.2 slot (left.subset inFirst) other (right.subset inSecond)⟩
  · rw [List.map_append]
    exact List.append_subset.mpr ⟨List.subset_append_of_subset_left _ left.subset,
      List.subset_append_of_subset_right _ right.subset⟩

theorem not_mem (within : Within slots former) {slot : Slot} (outside : slot ∉ slots) :
    slot ∉ former.map Assignment.slot :=
  fun membership => outside (within.subset membership)

end Within

/-- Whatever happens, the program only makes assignments within these slots. -/
def Assigns {α : Type} (slots : List Slot) (program : Reporting α) : Prop :=
  ∀ memory, ∃ new, (exec program memory).2 =
      { memory with assigned := memory.assigned ++ new } ∧ Within slots new

namespace Assigns

variable {α β : Type} {slots : List Slot}

theorem of_pure (value : α) : Assigns slots (pure value) :=
  fun memory => ⟨[], by simp, .nil⟩

theorem of_throw (failure : ApiError) : Assigns slots (throw failure : Reporting α) :=
  fun memory => ⟨[], by simp, .nil⟩

theorem of_answer (given : Except ApiError α) : Assigns slots (answer given) := by
  cases given with
  | ok value => exact of_pure value
  | error failure => exact of_throw failure

theorem of_status (read : List Assignment → APIShardStatus) : Assigns slots (status read) :=
  fun memory => ⟨[], by simp [status], .nil⟩

theorem of_assign {assignment : Assignment} (inside : assignment.slot ∈ slots) :
    Assigns slots (assign assignment) :=
  fun _ => ⟨[assignment], rfl, List.nodup_singleton _, by simpa using inside⟩

theorem mono {program : Reporting α} (assigns : Assigns slots program) {wider : List Slot}
    (subset : slots ⊆ wider) : Assigns wider program := by
  intro memory
  obtain ⟨new, after, within⟩ := assigns memory
  exact ⟨new, after, within.mono subset⟩

theorem bind (first second : List Slot) {program : Reporting α} {next : α → Reporting β}
    (former : Assigns first program) (latter : ∀ value, Assigns second (next value))
    (apart : (first ++ second).Nodup) : Assigns (first ++ second) (program >>= next) := by
  intro memory
  obtain ⟨new, after, within⟩ := former memory
  rw [exec_bind]
  generalize exec program memory = result at after
  obtain ⟨given, middle⟩ := result
  obtain rfl := after
  cases given with
  | error failure => exact ⟨new, rfl, within.mono (List.subset_append_left _ _)⟩
  | ok value =>
      obtain ⟨more, after, moreWithin⟩ :=
        latter value { memory with assigned := memory.assigned ++ new }
      refine ⟨new ++ more, ?_, within.append moreWithin apart⟩
      simp only [after, List.append_assoc]

theorem attempt {program : Reporting α} (assigns : Assigns slots program) :
    Assigns slots program.attempt :=
  assigns

theorem mapError {program : Reporting α} (assigns : Assigns slots program)
    (rewrite : ApiError → ApiError) : Assigns slots (program.mapError rewrite) := by
  intro memory
  obtain ⟨new, after, within⟩ := assigns memory
  refine ⟨new, ?_, within⟩
  rw [← after, exec_mapError]
  rcases exec program memory with ⟨given, middle⟩
  cases given <;> rfl

theorem ite {condition : Prop} [Decidable condition] {first second : Reporting α}
    (former : Assigns slots first) (latter : Assigns slots second) :
    Assigns slots (if condition then first else second) := by
  split
  · exact former
  · exact latter

end Assigns

section steps

variable (answers : Answers) (shard : APIShard) (read : List Assignment → APIShardStatus)

theorem setCondition_assigns {slots : List Slot} {type : ShardCondition}
    (inside : .condition type ∈ slots) (status : ConditionStatus) (reason message : String) :
    Assigns slots (setCondition shard type status reason message) :=
  .of_assign inside

theorem preservePostgreSQLVolumeClaimTemplates_assigns :
    Assigns [.condition .storageReady] (preservePostgreSQLVolumeClaimTemplates answers shard) := by
  unfold preservePostgreSQLVolumeClaimTemplates
  have set := setCondition_assigns shard (List.mem_singleton_self (Slot.condition .storageReady))
  dsimp only
  cases answers.statefulSet with
  | error failure => exact .ite (set _ _ _) (.of_throw _)
  | ok live => exact .ite (set _ _ _) (set _ _ _)

theorem reconcileInClusterPostgreSQL_assigns :
    Assigns [.condition .storageReady] (reconcileInClusterPostgreSQL answers shard) := by
  apply Assigns.bind [] [_] (.of_answer _) _ (by decide)
  intro _
  exact .bind [_] [] ((preservePostgreSQLVolumeClaimTemplates_assigns answers shard).mapError _)
    (fun _ => .of_answer _) (by decide)

theorem storageNotReady_assigns (reason message : String) (failure : ApiError) :
    Assigns [.condition .storageReady] (storageNotReady shard reason message failure) :=
  .bind [_] [] (.of_assign (List.mem_singleton_self _)) (fun _ => .of_throw failure) (by decide)

theorem validateExternalPostgreSQLSecret_assigns :
    Assigns [.condition .storageReady] (validateExternalPostgreSQLSecret answers shard) := by
  unfold validateExternalPostgreSQLSecret
  have notReady := storageNotReady_assigns shard
  cases shard.spec.storage.connectionSecretRef with
  | none => exact notReady _ _ _
  | some ref =>
      dsimp only
      cases answers.connectionSecret with
      | error failure => exact .ite (notReady _ _ _) (notReady _ _ _)
      | ok secret =>
          exact .ite (notReady _ _ _)
            (setCondition_assigns shard (List.mem_singleton_self _) _ _ _)

theorem reconcilePostgreSQLMetrics_assigns :
    Assigns [.condition .monitoringDegraded] (reconcilePostgreSQLMetrics answers shard) := by
  have set := setCondition_assigns shard
    (List.mem_singleton_self (Slot.condition .monitoringDegraded))
  apply Assigns.ite (.of_assign (List.mem_singleton_self _))
  apply Assigns.ite (set _ _ _)
  cases answers.collector with
  | error failure => exact set _ _ _
  | ok value => exact set _ _ _

theorem reconcileStorage_assigns :
    Assigns [.condition .storageReady, .condition .monitoringDegraded]
      (reconcileStorage answers shard) := by
  have rest : Assigns [.condition .monitoringDegraded] (do
      (answer answers.kine).mapError (·.wrap "kine")
      reconcilePostgreSQLMetrics answers shard) :=
    .bind [] [_] ((Assigns.of_answer _).mapError _)
      (fun _ => reconcilePostgreSQLMetrics_assigns answers shard) (by decide)
  unfold reconcileStorage
  cases shard.spec.storage.type with
  | sqlite => exact rest.mono (List.subset_cons_self _ _)
  | inClusterPostgreSQL =>
      exact .bind [_] [_] ((reconcileInClusterPostgreSQL_assigns answers shard).mapError _)
        (fun _ => rest) (by decide)
  | postgreSQL =>
      exact .bind [_] [_] ((validateExternalPostgreSQLSecret_assigns answers shard).mapError _)
        (fun _ => rest) (by decide)

theorem reconcileAdminKubeconfig_assigns :
    Assigns [.connectionSecret] (reconcileAdminKubeconfig answers shard) := by
  apply Assigns.bind [] [_] (.of_answer _) _ (by decide)
  exact fun _ => .ite (.of_assign (List.mem_singleton_self _)) (.of_pure _)

theorem aggregateReady_assigns (type : ShardCondition)
    (ready : Except ApiError (Option (Condition SyncCondition))) :
    Assigns [.condition type] (aggregateReady shard type ready) := by
  apply Assigns.bind [] [_] (.of_answer _) _ (List.nodup_singleton _)
  intro found
  cases found with
  | some condition => exact .of_assign (List.mem_singleton_self _)
  | none => exact .of_pure _

theorem aggregateSubCRStatus_assigns :
    Assigns [.condition .namespaceSyncReady, .condition .webhookSyncReady]
      (aggregateSubCRStatus answers shard) := by
  apply Assigns.bind [_, _] [] _ (fun _ => .of_pure _) (by decide)
  apply Assigns.attempt
  exact .bind [_] [_] (aggregateReady_assigns shard _ _) (fun _ => aggregateReady_assigns shard _ _)
    (by decide)

theorem exec_aggregateSubCRStatus (memory : Memory) : ∃ new,
    exec (aggregateSubCRStatus answers shard) memory =
        (.ok (), { memory with assigned := memory.assigned ++ new }) ∧
      Within [.condition .namespaceSyncReady, .condition .webhookSyncReady] new := by
  obtain ⟨new, after, within⟩ := aggregateSubCRStatus_assigns answers shard memory
  refine ⟨new, ?_, within⟩
  rw [← after]
  rfl

/-- The end of the health check of workloads that are ready. -/
def gate : Reporting Result := do
  let result ← checkAPIServiceAvailability answers shard read
  if result.requeueAfter > 0 then
    pure result
  else
    assign (.phase .ready Phase.ready_ne_empty)
    pure {}

/-- The phase is assigned once, either by the availability check or after it. -/
theorem gate_assigns :
    Assigns [.condition .apiServicesRegistered, .phase] (gate answers shard read) := by
  have provisioning {after : Reporting Result}
      (assigns : Assigns [.condition .apiServicesRegistered] after) :
      Assigns [.condition .apiServicesRegistered, .phase] (do
        assign (.phase .provisioning Phase.provisioning_ne_empty)
        after) :=
    (Assigns.bind [.phase] [.condition .apiServicesRegistered]
      (.of_assign (List.mem_singleton_self _))
      (fun _ => assigns) (by decide)).mono (by decide)
  have ready {before : Reporting Unit}
      (assigns : Assigns [.condition .apiServicesRegistered] before) :
      Assigns [.condition .apiServicesRegistered, .phase] (do
        before
        assign (.phase .ready Phase.ready_ne_empty)
        pure ({} : Result)) :=
    .bind [_] [_] assigns (fun _ => .bind [_] [] (.of_assign (List.mem_singleton_self _))
      (fun _ => .of_pure _) (by decide)) (by decide)
  have set := setCondition_assigns shard
    (List.mem_singleton_self (Slot.condition .apiServicesRegistered))
  simp only [gate, checkAPIServiceAvailability, bind_assoc]
  apply Assigns.bind [] [_, _] (.of_status read) _ (by decide)
  intro status
  split
  · simp only [bind_assoc, pure_bind]
    exact provisioning (.of_pure _)
  · split
    · simp only [bind_assoc, pure_bind]
      exact ready (.of_assign (List.mem_singleton_self _))
    · simp only [bind_assoc]
      apply Assigns.bind [] [_, _] (.of_answer _) _ (by decide)
      intro services
      cases checkOwned shard.uid services with
      | some message =>
          simp only [bind_assoc, pure_bind]
          exact provisioning (.bind [_] [] (set _ _ _) (fun _ => .of_pure _) (by decide))
      | none =>
          simp only [bind_assoc, pure_bind]
          exact ready (set _ _ _)

theorem reportUnhealthy_assigns :
    Assigns [.phase, .condition .secondaryHealthy, .condition .apiServicesRegistered]
      (reportUnhealthy shard read) := by
  apply Assigns.bind [_] [_, _] (.of_assign (List.mem_singleton_self _)) _ (by decide)
  intro _
  apply Assigns.bind [.condition .secondaryHealthy] [_]
    (.of_assign (List.mem_singleton_self _)) _ (by decide)
  intro _
  apply Assigns.bind [] [_] (.of_status read) _ (by decide)
  intro status
  split
  · exact .bind [_] [] (.of_assign (List.mem_singleton_self _)) (fun _ => .of_pure _) (by decide)
  · exact .of_pure _

/-- The slots of the health check. -/
def healthSlots : List Slot :=
  [.condition .secondaryHealthy, .secondaryEndpoint, .condition .namespaceSyncReady,
    .condition .webhookSyncReady, .condition .apiServicesRegistered, .phase]

theorem updateHealthStatus_assigns :
    Assigns healthSlots (updateHealthStatus answers shard read) := by
  apply Assigns.bind [] healthSlots (.of_answer _) _ (by decide)
  intro healthy
  split
  · apply Assigns.bind [.condition .secondaryHealthy] [_, _, _, _, _]
      (.of_assign (List.mem_singleton_self _)) _ (by decide)
    intro _
    apply Assigns.bind [.secondaryEndpoint] [_, _, _, _]
      (.of_assign (List.mem_singleton_self _)) _ (by decide)
    intro _
    have check := gate_assigns answers shard read
    split
    · exact .bind [_, _] [_, _] (aggregateSubCRStatus_assigns answers shard) (fun _ => check)
        (by decide)
    · exact check.mono (by decide)
  · exact (reportUnhealthy_assigns shard read).mono (by decide)

/-- The condition that the detection of conflicts sets, unless the List failed. -/
def conflict : Option (NewCondition ShardCondition) :=
  match answers.crds with
  | .error _ => none
  | .ok crds =>
      match (conflicting shard crds).map CRD.name with
      | [] =>
          some ⟨.crdConflict, .false, "NoConflicts", "No conflicting CRDs detected on primary",
            shard.generation⟩
      | names =>
          match syncCRDsToSecondary answers names with
          | .error failure =>
              some ⟨.crdConflict, .true, "CRDSyncFailed",
                s!"{conflictMessage names}; sync failed: {failure.message}", shard.generation⟩
          | .ok () =>
              some ⟨.crdConflict, .true, "CRDsSyncedToSecondary",
                conflictMessage names ++ "; CRDs synced to secondary", shard.generation⟩

theorem exec_reconcileCRDConflicts (memory : Memory) :
    exec (reconcileCRDConflicts answers shard) memory =
      (.ok (), { memory with
        assigned := memory.assigned ++ ((conflict answers shard).map .set).toList }) := by
  unfold reconcileCRDConflicts conflict
  cases answers.crds with
  | error failure => simp
  | ok crds =>
      dsimp only
      cases (conflicting shard crds).map CRD.name with
      | nil => rfl
      | cons name names =>
          dsimp only
          cases syncCRDsToSecondary answers (name :: names) with
          | error failure => rfl
          | ok value => rfl

theorem conflict_type {new : NewCondition ShardCondition}
    (isNew : conflict answers shard = some new) :
    new.type = .crdConflict := by
  unfold conflict at isNew
  cases crds : answers.crds with
  | error failure =>
      rw [crds] at isNew
      cases isNew
  | ok crds =>
      simp only [crds] at isNew
      split at isNew
      · cases isNew
        rfl
      · split at isNew <;> cases isNew <;> rfl

end steps

/-! ## Failing steps -/

section failures

variable (shard : APIShard)

/-- The assignments of a step that failed. -/
def errorAssignments (failure : ApiError) : List Assignment :=
  [.phase .error Phase.error_ne_empty, .message failure.message,
    .observedGeneration shard.generation,
    .set ⟨.reconciled, .false, "ReconcileError", failure.message, shard.generation⟩]

/-- Their slots. -/
def errorSlots : List Slot := [.phase, .message, .observedGeneration, .condition .reconciled]

theorem within_errorAssignments (failure : ApiError) :
    Within errorSlots (errorAssignments shard failure) :=
  .of_eq errorSlots rfl (by decide) (List.Subset.refl _)

theorem exec_orSetError {α : Type} (step : Reporting α) (memory : Memory) :
    exec (orSetError shard step) memory =
      match exec step memory with
      | (.ok value, after) => (.ok value, after)
      | (.error failure, after) =>
          (.error failure, ⟨after.assigned ++ errorAssignments shard failure,
            some (after.assigned ++ errorAssignments shard failure)⟩) := by
  simp only [orSetError, exec_bind, exec_attempt]
  rcases exec step memory with ⟨given, after⟩
  cases given with
  | ok value => rfl
  | error failure =>
      simp [setError, setCondition, assign, persist, exec_bind, errorAssignments]

/-- The program makes assignments within these slots; a failure is reported and
persisted. -/
def Reports {α : Type} (slots : List Slot) (program : Reporting α) : Prop :=
  ∀ memory, ∃ new,
    (∃ value, exec program memory =
        (.ok value, { memory with assigned := memory.assigned ++ new }) ∧ Within slots new) ∨
    ∃ failure, exec program memory =
        (.error failure, ⟨memory.assigned ++ new, some (memory.assigned ++ new)⟩) ∧
      Within (slots ++ errorSlots) new

theorem orSetError_reports {α : Type} {slots : List Slot} {step : Reporting α}
    (assigns : Assigns slots step) (apart : (slots ++ errorSlots).Nodup) :
    Reports slots (orSetError shard step) := by
  intro memory
  obtain ⟨new, after, within⟩ := assigns memory
  rw [exec_orSetError]
  generalize exec step memory = result at after
  obtain ⟨given, middle⟩ := result
  obtain rfl := after
  cases given with
  | ok value => exact ⟨new, .inl ⟨value, rfl, within⟩⟩
  | error failure =>
      refine ⟨new ++ errorAssignments shard failure, .inr ⟨failure, ?_, ?_⟩⟩
      · simp only [List.append_assoc]
      · exact within.append (within_errorAssignments shard failure) apart

theorem Reports.bind {α β : Type} (first second : List Slot) {program : Reporting α}
    {next : α → Reporting β} (former : Reports first program)
    (latter : ∀ value, Reports second (next value))
    (apart : (first ++ (second ++ errorSlots)).Nodup) :
    Reports (first ++ second) (program >>= next) := by
  have halves : (first ++ second).Nodup := by
    rw [← List.append_assoc] at apart
    exact apart.sublist (List.sublist_append_left _ _)
  intro memory
  obtain ⟨new, ⟨value, ran, within⟩ | ⟨failure, ran, within⟩⟩ := former memory
  · rw [exec_bind, ran]
    obtain ⟨more, ⟨result, rest, moreWithin⟩ | ⟨failure, rest, moreWithin⟩⟩ :=
      latter value { memory with assigned := memory.assigned ++ new }
    · refine ⟨new ++ more, .inl ⟨result, ?_, within.append moreWithin halves⟩⟩
      simp only [rest, List.append_assoc]
    · refine ⟨new ++ more, .inr ⟨failure, ?_, ?_⟩⟩
      · simp only [rest, List.append_assoc]
      · rw [List.append_assoc]
        exact within.append moreWithin apart
  · refine ⟨new, .inr ⟨failure, ?_, within.mono ?_⟩⟩
    · rw [exec_bind, ran]
    · intro slot membership
      simp only [List.mem_append] at membership ⊢
      tauto

end failures

/-! ## The course of a pass -/

section course

variable (answers : Answers) (shard : APIShard)

/-- The steps between the first status write and the APIServices. -/
def deploy : Reporting Unit := do
  orSetError shard (reconcileStorage answers shard)
  orSetError shard (answer answers.access)
  orSetError shard (reconcileAdminKubeconfig answers shard)
  orSetError shard (answer answers.secondary)

/-- Their slots. -/
def deploySlots : List Slot :=
  [.condition .storageReady, .condition .monitoringDegraded, .connectionSecret]

theorem deploy_reports : Reports deploySlots (deploy answers shard) := by
  have answered {α : Type} (given : Except ApiError α) :
      Reports [] (orSetError shard (answer given)) :=
    orSetError_reports shard (.of_answer given) (by decide)
  apply Reports.bind [_, _] [_]
    (orSetError_reports shard (reconcileStorage_assigns answers shard) (by decide)) _ (by decide)
  intro _
  apply Reports.bind [] [_] (answered _) _ (by decide)
  intro _
  exact .bind [_] []
    (orSetError_reports shard (reconcileAdminKubeconfig_assigns answers shard) (by decide))
    (fun _ => answered _) (by decide)

/-- The slots of the first half of a pass. -/
def resourceSlots : List Slot := .initialPhase :: deploySlots

theorem reconcileResources_cases : ∃ assignments,
    (exec (reconcileResources answers shard) {} =
        (.ok (), ⟨assignments, some [.initialPhase]⟩) ∧ Within resourceSlots assignments) ∨
    ∃ failure, exec (reconcileResources answers shard) {} =
        (.error failure, ⟨assignments, some assignments⟩) ∧
      Within (resourceSlots ++ errorSlots) assignments := by
  rw [reconcileResources, exec_bind, exec_orSetError]
  cases answers.ensureNamespace with
  | error failure =>
      exact ⟨_, .inr ⟨failure, rfl, (within_errorAssignments shard failure).mono (by decide)⟩⟩
  | ok value =>
      have initial : Within [.initialPhase] [.initialPhase] :=
        ⟨List.nodup_singleton _, List.Subset.refl _⟩
      obtain ⟨new, ⟨result, ran, within⟩ | ⟨failure, ran, within⟩⟩ :=
        deploy_reports answers shard ⟨[.initialPhase], some [.initialPhase]⟩
      · exact ⟨_, .inl ⟨ran, initial.append within (by decide)⟩⟩
      · exact ⟨_, .inr ⟨failure, ran, initial.append within (by decide)⟩⟩

/-- The outcome of the registration, given what was registered before. -/
def registration (registered : List String) : Except ApiError Unit :=
  match answers.apiServices with
  | .error failure => .error failure
  | .ok () => deleteOrphanedAPIServices answers (desiredAPIServiceNames shard) registered

/-- Nothing is deleted once only wanted APIServices are registered. -/
theorem registration_desired {registered : List String}
    (registers : registration answers shard registered = .ok ()) :
    registration answers shard (desiredAPIServiceNames shard) = .ok () := by
  have none (names : List String) (wanted : names ⊆ desiredAPIServiceNames shard) :
      deleteOrphanedAPIServices answers (desiredAPIServiceNames shard) names = .ok () := by
    induction names with
    | nil => rfl
    | cons name rest ih =>
        rw [List.cons_subset] at wanted
        rw [deleteOrphanedAPIServices, if_pos wanted.1]
        exact ih wanted.2
  unfold registration at registers ⊢
  cases applied : answers.apiServices with
  | error failure =>
      rw [applied] at registers
      cases registers
  | ok value => exact none _ (List.Subset.refl _)

theorem exec_reconcileAPIServices (read : List Assignment → APIShardStatus) (memory : Memory) :
    exec (orSetError shard (reconcileAPIServices answers shard read)) memory =
      match registration answers shard (read memory.assigned).registeredAPIServices with
      | .ok () => (.ok (), { memory with
          assigned := memory.assigned ++ [.registeredAPIServices (desiredAPIServiceNames shard)] })
      | .error failure =>
          (.error failure, ⟨memory.assigned ++ errorAssignments shard failure,
            some (memory.assigned ++ errorAssignments shard failure)⟩) := by
  rw [exec_orSetError]
  simp only [reconcileAPIServices, registration, exec_bind]
  cases answers.apiServices with
  | error failure => rfl
  | ok value =>
      simp only [answer, status, exec_bind, exec_pure, exec_get]
      cases deleteOrphanedAPIServices answers (desiredAPIServiceNames shard)
        (read memory.assigned).registeredAPIServices with
      | error failure => rfl
      | ok value => rfl

/-- The assignments of a pass whose steps all succeeded. -/
def successAssignments : List Assignment :=
  [.message "", .observedGeneration shard.generation,
    .set ⟨.reconciled, .true, "ReconcileSucceeded", "All resources reconciled successfully",
      shard.generation⟩]

/-- Their slots. -/
def successSlots : List Slot := [.message, .observedGeneration, .condition .reconciled]

theorem within_successAssignments : Within successSlots (successAssignments shard) :=
  .of_eq successSlots rfl (by decide) (List.Subset.refl _)

theorem exec_reconcileHealth (read : List Assignment → APIShardStatus) (memory : Memory) :
    exec (reconcileHealth answers shard read) memory =
      match exec (updateHealthStatus answers shard read) { memory with
        assigned := memory.assigned ++ ((conflict answers shard).map .set).toList } with
      | (.ok result, after) =>
          (.ok result, ⟨after.assigned ++ successAssignments shard,
            some (after.assigned ++ successAssignments shard)⟩)
      | (.error failure, after) => (.error failure, after) := by
  rw [reconcileHealth, exec_bind, exec_reconcileCRDConflicts]
  dsimp only
  rw [exec_bind]
  rcases exec (updateHealthStatus answers shard read) _ with ⟨given, after⟩
  cases given with
  | error failure => rfl
  | ok result =>
      simp [reportSuccess, setCondition, assign, persist, exec_bind, successAssignments, Except.map]

variable {answers shard} {read other : List Assignment → APIShardStatus}

theorem gate_congr {memory : Memory}
    (agree : ∀ reason, conflictIs reason (read memory.assigned) =
      conflictIs reason (other memory.assigned)) :
    exec (gate answers shard read) memory = exec (gate answers shard other) memory := by
  simp only [gate, checkAPIServiceAvailability, status, exec_bind, exec_get, exec_pure, agree]

theorem reportUnhealthy_congr {memory : Memory}
    (agree : ∀ new, Within healthSlots new → ∀ reason,
      conflictIs reason (read (memory.assigned ++ new)) =
        conflictIs reason (other (memory.assigned ++ new))) :
    exec (reportUnhealthy shard read) memory = exec (reportUnhealthy shard other) memory := by
  have reached := agree [.phase .provisioning Phase.provisioning_ne_empty,
    .set ⟨.secondaryHealthy, .false,
      "DeploymentNotReady", "Secondary API server is not yet ready", shard.generation⟩]
    (.of_eq [.phase, .condition .secondaryHealthy] rfl (by decide) (by decide))
  simp only [reportUnhealthy, setCondition, assign, status, exec_bind, exec_get, exec_pure,
    exec_modify, List.append_assoc, List.cons_append, List.nil_append, reached]

/-- The slots of workloads that are ready, up to the gate. -/
def healthySlots : List Slot :=
  [.condition .secondaryHealthy, .secondaryEndpoint, .condition .namespaceSyncReady,
    .condition .webhookSyncReady]

/-- The assignments for workloads that are ready. -/
def healthyAssignments (shard : APIShard) : List Assignment :=
  [.set ⟨.secondaryHealthy, .true, "DeploymentAvailable", "Secondary API server is healthy",
      shard.generation⟩,
    .secondaryEndpoint (secondaryEndpoint shard)]

/-- The assignments up to the gate depend neither on the lists nor on the status. -/
theorem exec_updateHealthStatus (answers : Answers) (shard : APIShard) (memory : Memory) :
    ∃ new, Within healthySlots new ∧ ∀ crds services read,
      exec (updateHealthStatus (answers.listing crds services) shard read) memory =
        match answers.checkDeploymentHealth with
        | .error failure => (.error failure, memory)
        | .ok false => exec (reportUnhealthy shard read) memory
        | .ok true => exec (gate (answers.listing crds services) shard read)
            { memory with assigned := memory.assigned ++ new } := by
  have begun : Within [.condition .secondaryHealthy, .secondaryEndpoint]
      (healthyAssignments shard) :=
    .of_eq [.condition .secondaryHealthy, .secondaryEndpoint] rfl (by decide) (List.Subset.refl _)
  obtain ⟨more, aggregated, within⟩ := exec_aggregateSubCRStatus answers shard
    { memory with assigned := memory.assigned ++ healthyAssignments shard }
  simp only [updateHealthStatus, exec_bind]
  cases verified : answers.verifySecondaryAuth with
  | false =>
      refine ⟨healthyAssignments shard, begun.mono (by decide), fun crds services read => ?_⟩
      simp only [Answers.listing, verified]
      rcases answers.checkDeploymentHealth with failure | healthy
      · rfl
      · cases healthy with
        | false => rfl
        | true => simp [answer, setCondition, assign, exec_bind, healthyAssignments, gate]
  | true =>
      refine ⟨healthyAssignments shard ++ more, begun.append within (by decide),
        fun crds services read => ?_⟩
      have same : aggregateSubCRStatus (answers.listing crds services) shard =
        aggregateSubCRStatus answers shard := rfl
      simp only [healthyAssignments] at aggregated
      simp only [same]
      simp only [Answers.listing, verified]
      rcases answers.checkDeploymentHealth with failure | healthy
      · rfl
      · cases healthy with
        | false => rfl
        | true =>
            simp [answer, setCondition, assign, exec_bind, healthyAssignments, gate, aggregated]

/-- Of the status the health check reads whether there is a conflict. -/
theorem updateHealthStatus_congr {memory : Memory}
    (agree : ∀ new, Within healthSlots new → ∀ reason,
      conflictIs reason (read (memory.assigned ++ new)) =
        conflictIs reason (other (memory.assigned ++ new))) :
    exec (updateHealthStatus answers shard read) memory =
      exec (updateHealthStatus answers shard other) memory := by
  obtain ⟨new, within, course⟩ := exec_updateHealthStatus answers shard memory
  have ran := course answers.crds answers.services
  rw [answers.listing_self] at ran
  rw [ran, ran]
  cases answers.checkDeploymentHealth with
  | error failure => rfl
  | ok healthy =>
      cases healthy with
      | false => exact reportUnhealthy_congr agree
      | true => exact gate_congr (agree new (within.mono (by decide)))

end course

section whole

variable {answers : Answers} {shard : APIShard}

theorem exec_reconcile (answers : Answers) (shard : APIShard)
    (read : List Assignment → APIShardStatus) :
    exec (reconcile answers shard read) {} =
      match answers.finalizer with
      | .error failure => (.error failure, {})
      | .ok () =>
          match exec (reconcileResources answers shard) {} with
          | (.error failure, memory) => (.error failure, memory)
          | (.ok (), memory) =>
              match registration answers shard (read memory.assigned).registeredAPIServices with
              | .error failure =>
                  (.error failure, ⟨memory.assigned ++ errorAssignments shard failure,
                    some (memory.assigned ++ errorAssignments shard failure)⟩)
              | .ok () => exec (reconcileHealth answers shard read) { memory with
                  assigned := memory.assigned ++
                    [.registeredAPIServices (desiredAPIServiceNames shard)] } := by
  rw [reconcile, exec_bind]
  cases answers.finalizer with
  | error failure => rfl
  | ok value =>
      simp only [answer, exec_pure]
      rw [exec_bind]
      rcases exec (reconcileResources answers shard) {} with ⟨given, memory⟩
      cases given with
      | error failure => rfl
      | ok value =>
          dsimp only
          rw [exec_bind, exec_reconcileAPIServices]
          cases registration answers shard (read memory.assigned).registeredAPIServices with
          | error failure => rfl
          | ok value => rfl

theorem within_conflict (answers : Answers) (shard : APIShard) :
    Within [.condition .crdConflict] ((conflict answers shard).map Assignment.set).toList := by
  cases isNew : conflict answers shard with
  | none => exact .nil
  | some new =>
      have slots : [Assignment.set new].map Assignment.slot = [.condition .crdConflict] := by
        rw [List.map_singleton, Assignment.slot, conflict_type answers shard isNew]
      exact .of_eq _ slots (by decide) (List.Subset.refl _)

/-- The end of a pass: its health check fails silently, or everything is persisted. -/
theorem reconcileHealth_cases (answers : Answers) (shard : APIShard)
    (read : List Assignment → APIShardStatus) (assignments : List Assignment) :
    (∃ failure after, exec (reconcileHealth answers shard read)
        ⟨assignments ++ [.registeredAPIServices (desiredAPIServiceNames shard)],
          some [.initialPhase]⟩ = (.error failure, after) ∧ after.written = some [.initialPhase]) ∨
    ∃ result after new, exec (reconcileHealth answers shard read)
        ⟨assignments ++ [.registeredAPIServices (desiredAPIServiceNames shard)],
          some [.initialPhase]⟩ = (.ok result, after) ∧
      after.written = some (assignments ++
        [.registeredAPIServices (desiredAPIServiceNames shard)] ++
        ((conflict answers shard).map .set).toList ++ new) ∧
      Within (healthSlots ++ successSlots) new := by
  rw [exec_reconcileHealth]
  obtain ⟨new, after, newWithin⟩ := updateHealthStatus_assigns answers shard read
    ⟨assignments ++ [.registeredAPIServices (desiredAPIServiceNames shard)] ++
      ((conflict answers shard).map .set).toList, some [.initialPhase]⟩
  generalize exec (updateHealthStatus answers shard read) _ = outcome at after ⊢
  obtain ⟨given, middle⟩ := outcome
  obtain rfl := after
  cases given with
  | error failure => exact .inl ⟨failure, _, rfl, rfl⟩
  | ok result =>
      refine .inr ⟨result, _, new ++ successAssignments shard, rfl, ?_, ?_⟩
      · simp only [List.append_assoc]
      · exact newWithin.append (within_successAssignments shard) (by decide)

/-- The assignments of a pass that reached its end. -/
theorem within_written {assignments new : List Assignment}
    (within : Within resourceSlots assignments)
    (newWithin : Within (healthSlots ++ successSlots) new) {slots : List Slot}
    (conflictWithin : Within slots ((conflict answers shard).map Assignment.set).toList)
    (apart : (resourceSlots ++ [Slot.registeredAPIServices] ++ slots ++
      (healthSlots ++ successSlots)).Nodup) :
    Within (resourceSlots ++ [.registeredAPIServices] ++ slots ++ (healthSlots ++ successSlots))
      (assignments ++ [.registeredAPIServices (desiredAPIServiceNames shard)] ++
        ((conflict answers shard).map .set).toList ++ new) := by
  have registered : Within [.registeredAPIServices]
      [.registeredAPIServices (desiredAPIServiceNames shard)] :=
    .of_eq [.registeredAPIServices] rfl (by decide) (List.Subset.refl _)
  have front := apart.sublist (List.sublist_append_left _ _)
  exact ((within.append registered (by decide)).append conflictWithin front).append newWithin apart

/-- What a pass has persisted. -/
structure Persisted (answers : Answers) (shard : APIShard) (status : APIShardStatus)
    (assignments : List Assignment) : Prop where
  distinct : (assignments.map Assignment.slot).Nodup
  registered : .registeredAPIServices ∉ assignments.map Assignment.slot ∨
    registration answers shard status.registeredAPIServices = .ok () ∧
      .registeredAPIServices (desiredAPIServiceNames shard) ∈ assignments
  conflict : conflict answers shard = none →
    .condition .crdConflict ∉ assignments.map Assignment.slot

theorem Persisted.of_within {status : APIShardStatus} {slots : List Slot}
    {assignments : List Assignment} (within : Within slots assignments)
    (registered : .registeredAPIServices ∉ slots) (conflict : .condition .crdConflict ∉ slots) :
    Persisted answers shard status assignments :=
  ⟨within.distinct, .inl (within.not_mem registered), fun _ => within.not_mem conflict⟩

theorem registered_assigned (status : APIShardStatus) (now : Nat) {assignments : List Assignment}
    (within : Within resourceSlots assignments) :
    (status.assigned now assignments).registeredAPIServices = status.registeredAPIServices :=
  status.registeredAPIServices_assigned now (within.not_mem (by decide))

theorem reconcile_written (answers : Answers) (shard : APIShard) (now : Nat)
    (status : APIShardStatus) :
    (exec (reconcile answers shard (status.assigned now)) {}).2.written = none ∨
    ∃ assignments,
      (exec (reconcile answers shard (status.assigned now)) {}).2.written = some assignments ∧
        Persisted answers shard status assignments := by
  rw [exec_reconcile]
  cases answers.finalizer with
  | error failure => exact .inl rfl
  | ok value =>
      right
      obtain ⟨assignments, ⟨ran, within⟩ | ⟨failure, ran, within⟩⟩ :=
        reconcileResources_cases answers shard
      · simp only [ran, registered_assigned status now within]
        cases registers : registration answers shard status.registeredAPIServices with
        | error failure =>
            exact ⟨_, rfl, .of_within (within.append (within_errorAssignments shard failure)
              (by decide)) (by decide) (by decide)⟩
        | ok value =>
            rcases reconcileHealth_cases answers shard (status.assigned now) assignments with
              ⟨failure, after, ended, written⟩ | ⟨result, after, new, ended, written, newWithin⟩
            · exact ⟨_, by rw [ended]; exact written,
                .of_within (.of_eq [.initialPhase] rfl (by decide) (List.Subset.refl _))
                  (by decide) (by decide)⟩
            · refine ⟨_, by rw [ended]; exact written, ?_, .inr ⟨registers, by simp⟩, ?_⟩
              · exact (within_written within newWithin (within_conflict answers shard)
                  (by decide)).distinct
              · intro unlisted
                have none : Within [] ((conflict answers shard).map Assignment.set).toList := by
                  rw [unlisted]
                  exact .nil
                exact (within_written within newWithin none (by decide)).not_mem (by decide)
      · simp only [ran]
        exact ⟨_, rfl, .of_within within (by decide) (by decide)⟩

end whole

end Report

end KubeShard.Apishard
