import KubeShard.Apishard.Completion

/-!
# Whether Reconciled tells the truth

Every error exit before the detection of conflicts goes through `setErrorAndRequeue`, and
the last status write of a pass comes after everything that can end it.  Between the two
lies the health check, whose errors are returned without a word in the status.
-/

namespace KubeShard.Apishard

open Resources Prog Aggregation

/-- The Reconciled condition is True. -/
def APIShardStatus.reconciled (status : APIShardStatus) : Bool :=
  match findStatusCondition status.conditions .reconciled with
  | some condition => condition.status = .true
  | none => false

namespace Report

variable {answers : Answers} {shard : APIShard} {read : List Assignment → APIShardStatus}

/-! ## Reported failures -/

/-- A failure of the program is the last thing it persists. -/
def Confesses {α : Type} (shard : APIShard) (program : Reporting α) : Prop :=
  ∀ memory failure after, exec program memory = (.error failure, after) →
    ∃ former, after.written = some (former ++ errorAssignments shard failure)

theorem Confesses.of_orSetError {α : Type} (step : Reporting α) :
    Confesses shard (orSetError shard step) := by
  intro memory failure after ran
  rw [exec_orSetError] at ran
  cases stepped : exec step memory with
  | mk given middle =>
      rw [stepped] at ran
      cases given with
      | ok value => cases ran
      | error failure =>
          cases ran
          exact ⟨middle.assigned, rfl⟩

theorem Confesses.bind {α β : Type} {program : Reporting α} {next : α → Reporting β}
    (former : Confesses shard program) (latter : ∀ value, Confesses shard (next value)) :
    Confesses shard (program >>= next) := by
  intro memory failure after ran
  rw [exec_bind] at ran
  cases first : exec program memory with
  | mk given middle =>
      rw [first] at ran
      cases given with
      | ok value => exact latter value middle failure after ran
      | error failure =>
          cases ran
          exact former memory _ _ first

theorem initializePhase_confesses : Confesses shard initializePhase := by
  intro memory failure after ran
  cases ran

theorem reconcileResources_confesses : Confesses shard (reconcileResources answers shard) :=
  (Confesses.of_orSetError _).bind fun _ => initializePhase_confesses.bind fun _ =>
    (Confesses.of_orSetError _).bind fun _ => (Confesses.of_orSetError _).bind fun _ =>
      (Confesses.of_orSetError _).bind fun _ => .of_orSetError _

/-! ## The phase of a health check -/

/-- Where the program succeeds it has assigned a phase that is not Error. -/
def Phased {α : Type} (program : Reporting α) : Prop :=
  ∀ memory value after, exec program memory = (.ok value, after) →
    ∃ phase named, phase ≠ .error ∧ .phase phase named ∈ after.assigned

theorem Phased.later {α β : Type} {program : Reporting α} {next : α → Reporting β}
    (phased : ∀ value, Phased (next value)) : Phased (program >>= next) := by
  intro memory value after ran
  obtain ⟨first, middle, _, second⟩ := exec_bind_eq_ok.mp ran
  exact phased first middle value after second

theorem Phased.first {α : Type} {phase : Phase} {named : phase ≠ .empty} (slots : List Slot)
    {next : Reporting α} (other : phase ≠ .error) (assigns : Assigns slots next) :
    Phased (do assign (.phase phase named); next) := by
  intro memory value after ran
  obtain ⟨_, middle, assigned, second⟩ := exec_bind_eq_ok.mp ran
  cases assigned
  obtain ⟨new, grown, _⟩ := assigns { memory with
    assigned := memory.assigned ++ [.phase phase named] }
  rw [second] at grown
  obtain rfl := grown
  exact ⟨phase, named, other, by simp⟩

theorem gate_phased : Phased (gate answers shard read) := by
  have ready : Phased (do assign (.phase .ready Phase.ready_ne_empty); pure ({} : Result)) :=
    .first [] (by decide) (.of_pure _)
  simp only [gate, checkAPIServiceAvailability, bind_assoc]
  apply Phased.later
  intro status
  split
  · simp only [bind_assoc, pure_bind]
    exact .first [] (by decide) (.of_pure _)
  · split
    · simp only [bind_assoc, pure_bind]
      exact .later fun _ => ready
    · simp only [bind_assoc]
      apply Phased.later
      intro services
      cases checkOwned shard.uid services with
      | some message =>
          simp only [bind_assoc, pure_bind]
          exact .first [.condition .apiServicesRegistered] (by decide)
            (.bind [_] [] (.of_assign (List.mem_singleton_self _)) (fun _ => .of_pure _)
              (by decide))
      | none =>
          simp only [bind_assoc, pure_bind]
          exact .later fun _ => ready

theorem reportUnhealthy_phased : Phased (reportUnhealthy shard read) := by
  have set := setCondition_assigns shard
    (List.mem_singleton_self (Slot.condition .apiServicesRegistered))
  apply Phased.first [.condition .secondaryHealthy, .condition .apiServicesRegistered] (by decide)
  apply Assigns.bind [.condition .secondaryHealthy] [_] (.of_assign (List.mem_singleton_self _)) _
    (by decide)
  intro _
  apply Assigns.bind [] [_] (.of_status read) _ (by decide)
  intro status
  split
  · exact .bind [_] [] (set _ _ _) (fun _ => .of_pure _) (by decide)
  · exact .of_pure _

theorem updateHealthStatus_phased : Phased (updateHealthStatus answers shard read) := by
  apply Phased.later
  intro healthy
  cases healthy with
  | false => exact reportUnhealthy_phased
  | true =>
      apply Phased.later
      intro _
      apply Phased.later
      intro _
      cases answers.verifySecondaryAuth with
      | false => exact gate_phased
      | true => exact .later fun _ => gate_phased

/-! ## The three ends of a pass -/

variable {now : Nat} {status : APIShardStatus}

/-- How a pass ends that has its finalizer in place. -/
inductive Ends (answers : Answers) (shard : APIShard) (status : APIShardStatus) :
    Except ApiError Result → Memory → Prop where
  /-- A step before the health check failed, which is what was persisted last. -/
  | confessed (fails : answers.succeeds shard status = false) (failure : ApiError)
      (former : List Assignment) (after : Memory)
      (written : after.written = some (former ++ errorAssignments shard failure)) :
      Ends answers shard status (.error failure) after
  /-- The health check failed, and only a first phase was persisted. -/
  | silent (succeeds : answers.succeeds shard status = true)
      (incomplete : answers.completes shard status = false) (failure : ApiError) (after : Memory)
      (written : after.written = some [.initialPhase]) :
      Ends answers shard status (.error failure) after
  /-- The pass succeeded, with a phase that is not Error. -/
  | completed (completes : answers.completes shard status = true) (result : Result)
      (ops : List Assignment) (distinct : (ops.map Assignment.slot).Nodup) (phase : Phase)
      (named : phase ≠ .empty) (other : phase ≠ .error) (phased : .phase phase named ∈ ops)
      (reconciled : .set ⟨.reconciled, .true, "ReconcileSucceeded",
        "All resources reconciled successfully", shard.generation⟩ ∈ ops) (after : Memory)
      (written : after.written = some ops) : Ends answers shard status (.ok result) after

theorem reconcile_ends_failing (finalizer : answers.finalizer = .ok ())
    (fails : answers.succeeds shard status = false) :
    Ends answers shard status (exec (reconcile answers shard (status.assigned now)) {}).1
      (exec (reconcile answers shard (status.assigned now)) {}).2 := by
  have failing := fails
  rw [Answers.succeeds, finalizer, show (Except.ok () : Except ApiError Unit).isOk = true from rfl,
    Bool.true_and, ← registration_isOk, ← reconcileResources_succeeds answers shard {}] at failing
  rw [exec_reconcile, finalizer]
  obtain ⟨assignments, ⟨ran, within⟩ | ⟨failure, ran, _⟩⟩ :=
    reconcileResources_cases answers shard
  · simp only [ran, registered_assigned status now within] at failing ⊢
    cases registers : registration answers shard status.registeredAPIServices with
    | error failure => exact .confessed fails failure assignments _ rfl
    | ok value =>
        rw [registers] at failing
        cases failing
  · obtain ⟨former, written⟩ := reconcileResources_confesses {} failure _ ran
    simp only [ran]
    exact .confessed fails failure former _ written

theorem reconcile_ends_succeeding (succeeds : answers.succeeds shard status = true) :
    Ends answers shard status (exec (reconcile answers shard (status.assigned now)) {}).1
      (exec (reconcile answers shard (status.assigned now)) {}).2 := by
  obtain ⟨assignments, within, course⟩ := reconcile_of_succeeds now succeeds
  have ran := course answers.crds answers.services
  rw [answers.listing_self] at ran
  have health := @updateHealthStatus_isOk answers shard status now assignments within
  have distinct := @distinct_updateHealthStatus answers shard (status.assigned now) assignments
    within
  have phased := @updateHealthStatus_phased answers shard (status.assigned now)
    (detected answers shard assignments)
  have completes : answers.completes shard status =
      (answers.checkDeploymentHealth.isOk &&
        (!answers.gated shard status || answers.services.isOk)) := by
    rw [Answers.completes, succeeds, Bool.true_and]
  rw [ran, exec_reconcileHealth]
  cases ended : exec (updateHealthStatus answers shard (status.assigned now))
      (detected answers shard assignments) with
  | mk given after =>
      rw [ended, ← completes] at health
      rw [ended] at distinct
      have memory := updateHealthStatus_assigns answers shard (status.assigned now)
        (detected answers shard assignments)
      rw [ended] at memory
      obtain ⟨new, isAfter, _⟩ := memory
      simp only [detected] at ended isAfter
      rw [ended]
      cases given with
      | error failure =>
          refine .silent succeeds health.symm failure _ ?_
          rw [isAfter]
      | ok result =>
          obtain ⟨phase, named, other, membership⟩ := phased result after ended
          exact .completed health.symm result _ distinct phase named other
            (List.mem_append_left _ membership) (by simp [successAssignments]) _ rfl

theorem reconcile_ends (finalizer : answers.finalizer = .ok ()) :
    Ends answers shard status (exec (reconcile answers shard (status.assigned now)) {}).1
      (exec (reconcile answers shard (status.assigned now)) {}).2 := by
  cases succeeds : answers.succeeds shard status with
  | false => exact reconcile_ends_failing finalizer succeeds
  | true => exact reconcile_ends_succeeding succeeds

end Report

/-! ## Truth -/

/-- The Reconciled condition a pass leaves persisted is True exactly when it returned no
error, and the phase is Error exactly when it returned one. -/
def Answers.Truthful (answers : Answers) (shard : APIShard) (now : Nat) (status : APIShardStatus) :
    Prop :=
  ((answers.persisted shard now status).reconciled = true ↔
    (exec (Report.reconcile answers shard (status.assigned now)) {}).1.isOk = true) ∧
  ((answers.persisted shard now status).phase = .error ↔
    (exec (Report.reconcile answers shard (status.assigned now)) {}).1.isOk = false)

/-- A read of the health check fails, in a pass that got there. -/
def Answers.healthReadFails (answers : Answers) (shard : APIShard) (status : APIShardStatus) :
    Bool :=
  answers.succeeds shard status &&
    (!answers.checkDeploymentHealth.isOk ||
      answers.gated shard status && !answers.services.isOk)

variable {answers : Answers} {shard : APIShard} {now : Nat} {status : APIShardStatus}

theorem reconciled_of_set {new : NewCondition ShardCondition} {time : Nat}
    (found : findStatusCondition status.conditions .reconciled = some (new.stamp time)) :
    status.reconciled = decide (new.status = .true) := by
  rw [APIShardStatus.reconciled, found]
  rfl

/-- A reported failure. -/
theorem confessed_truth (failure : ApiError) (former : List Assignment) :
    (status.assigned now (former ++ Report.errorAssignments shard failure)).reconciled = false ∧
      (status.assigned now (former ++ Report.errorAssignments shard failure)).phase = .error := by
  rw [APIShardStatus.assigned_append]
  have distinct : ((Report.errorAssignments shard failure).map Assignment.slot).Nodup :=
    (Report.within_errorAssignments shard failure).distinct
  have holds := (Assignment.lawful now).holds_all distinct (status.assigned now former)
  constructor
  · obtain ⟨time, found⟩ := holds (.set ⟨.reconciled, .false, "ReconcileError", failure.message,
      shard.generation⟩) (by simp [Report.errorAssignments])
    exact reconciled_of_set found
  · exact holds (.phase .error Phase.error_ne_empty) (by simp [Report.errorAssignments])

/-- A pass that succeeded. -/
theorem completed_truth {ops : List Assignment} (distinct : (ops.map Assignment.slot).Nodup)
    {phase : Phase} {named : phase ≠ .empty} (other : phase ≠ .error)
    (phased : .phase phase named ∈ ops)
    (reconciled : .set ⟨.reconciled, .true, "ReconcileSucceeded",
      "All resources reconciled successfully", shard.generation⟩ ∈ ops) :
    (status.assigned now ops).reconciled = true ∧ (status.assigned now ops).phase ≠ .error := by
  have holds := (Assignment.lawful now).holds_all distinct status
  constructor
  · obtain ⟨time, found⟩ := holds _ reconciled
    exact reconciled_of_set found
  · have isPhase : (status.assigned now ops).phase = phase := holds _ phased
    rw [isPhase]
    exact other

theorem Phase.provisioning_ne_error : Phase.provisioning ≠ .error := by decide

theorem Phase.empty_ne_error : Phase.empty ≠ .error := by decide

/-- A pass that only gave the shard a first phase. -/
theorem silent_truth :
    (status.assigned now [.initialPhase]).reconciled = status.reconciled ∧
      ((status.assigned now [.initialPhase]).phase = .error ↔ status.phase = .error) := by
  have given : status.assigned now [.initialPhase] =
      if status.phase = .empty then { status with phase := .provisioning } else status := rfl
  rw [given]
  by_cases empty : status.phase = .empty
  · rw [if_pos empty]
    rw [empty]
    exact ⟨rfl, iff_of_false Phase.provisioning_ne_error Phase.empty_ne_error⟩
  · rw [if_neg empty]
    exact ⟨rfl, Iff.rfl⟩

theorem healthReadFails_eq :
    answers.healthReadFails shard status =
      (answers.succeeds shard status && !answers.completes shard status) := by
  rw [Answers.healthReadFails, Answers.completes]
  cases answers.succeeds shard status <;> cases answers.checkDeploymentHealth.isOk <;>
    cases answers.gated shard status <;> cases answers.services.isOk <;> rfl

/-- A pass that has its finalizer in place tells the truth unless a read of its health check
fails, and then only over a status that already said so. -/
theorem truthful_iff (answers : Answers) (shard : APIShard) (now : Nat) (status : APIShardStatus)
    (finalizer : answers.finalizer = .ok ()) :
    answers.Truthful shard now status ↔
      (answers.healthReadFails shard status = true →
        status.phase = .error ∧ status.reconciled = false) := by
  have ends := @Report.reconcile_ends answers shard now status finalizer
  have persisted := @persisted_of_written answers shard now status
  rw [Answers.Truthful, healthReadFails_eq]
  generalize exec (Report.reconcile answers shard (status.assigned now)) {} = outcome
    at ends persisted ⊢
  obtain ⟨answer, after⟩ := outcome
  cases ends with
  | confessed fails failure former _ written =>
      obtain ⟨untrue, isError⟩ := @confessed_truth shard now status failure former
      rw [persisted written, untrue, isError, fails]
      simp [Except.isOk, Except.toBool]
  | silent succeeds incomplete failure _ written =>
      obtain ⟨same, samePhase⟩ := @silent_truth now status
      rw [persisted written, same, samePhase, succeeds, incomplete]
      simp [Except.isOk, Except.toBool, and_comm]
  | completed completes result ops distinct phase named other phased reconciled _ written =>
      obtain ⟨isTrue, noError⟩ := completed_truth distinct other phased reconciled
      rw [persisted written, isTrue, completes]
      simp [Except.isOk, Except.toBool, noError]

/-- A shard to reconcile. -/
def reconciledShard : APIShard where
  name := "a"
  uid := 1
  generation := 1
  resourceVersion := 1
  spec := { targetNamespace := "target", apiGroups := [], storage := { type := .sqlite } }

/-- The status of a shard that was found ready. -/
def readyStatus : APIShardStatus where
  phase := .ready
  conditions := [⟨.reconciled, .true, "ReconcileSucceeded", "All resources reconciled successfully",
    1, 5⟩]

theorem truthful_iff_answered :
    ({} : Answers).finalizer = .ok () ∧
      (({} : Answers).Truthful reconciledShard 9 readyStatus ↔
        (({} : Answers).healthReadFails reconciledShard readyStatus = true →
          readyStatus.phase = .error ∧ readyStatus.reconciled = false)) :=
  ⟨rfl, truthful_iff {} reconciledShard 9 readyStatus rfl⟩

/-- The Get of a Deployment fails in a pass on a shard that was found ready: the pass returns
the error, and the status still says Ready and Reconciled. -/
theorem failed_read_keeps_reconciled :
    ¬({ checkDeploymentHealth := .error (.errorf "etcdserver: request timed out") } :
      Answers).Truthful reconciledShard 9 readyStatus := by
  intro truthful
  exact absurd (truthful.1.mp (by decide +kernel)) (by decide +kernel)

end KubeShard.Apishard
