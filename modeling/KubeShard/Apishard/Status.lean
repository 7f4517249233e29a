import KubeShard.Apishard.Run

/-!
# Coherence of the status

Every status this reconciler persists is coherent: phase, message and conditions
say the same thing.  A pass persists at three places only, and what it persists
there is coherent whatever failed before: the first status write only moves an
empty phase on, an error report overwrites all that could contradict it, and the
last write follows the health check that decides about readiness.
-/

namespace KubeShard.Apishard

open Prog Aggregation

/-! ## Coherent statuses -/

/-- The status of a condition, if there is one. -/
def APIShardStatus.condition (status : APIShardStatus) (type : ShardCondition) :
    Option ConditionStatus :=
  (findStatusCondition status.conditions type).map Condition.status

/-- What the health check has established when it lets a shard become ready. -/
structure Healthy (status : APIShardStatus) : Prop where
  healthy : status.condition .secondaryHealthy = some .true
  synced : conflictIs "CRDSyncFailed" status = false
  attached : conflictIs "CRDsSyncedToSecondary" status = true →
    status.condition .apiServicesRegistered = some .true
  detached : conflictIs "CRDsSyncedToSecondary" status = false →
    findStatusCondition status.conditions .apiServicesRegistered = none

/-- Phase, message and conditions agree. -/
structure Coherent (status : APIShardStatus) : Prop where
  phase : status.phase ∈ [.empty, .provisioning, .ready, .error]
  failed : status.phase = .error ↔ status.condition .reconciled = some .false
  ready : status.phase = .ready →
    status.condition .reconciled = some .true ∧ status.message = "" ∧ Healthy status
  distinct : DistinctTypes status.conditions

theorem coherent_empty : Coherent {} where
  phase := List.mem_cons_self
  failed := ⟨nofun, nofun⟩
  ready := nofun
  distinct := .nil

/-- All conditions but the ones of a type are the same. -/
def SameExcept (type : ShardCondition) (before after : APIShardStatus) : Prop :=
  ∀ other, other ≠ type →
    findStatusCondition after.conditions other = findStatusCondition before.conditions other

namespace SameExcept

variable {type : ShardCondition} {before after : APIShardStatus}

theorem condition (same : SameExcept type before after) {other : ShardCondition}
    (different : other ≠ type) : after.condition other = before.condition other := by
  simp only [APIShardStatus.condition, same other different]

theorem conflictIs (same : SameExcept type before after) (different : .crdConflict ≠ type)
    (reason : String) : conflictIs reason after = conflictIs reason before := by
  simp only [Apishard.conflictIs, same .crdConflict different]

/-- What the health check established does not depend on other conditions. -/
theorem healthy (same : SameExcept .reconciled before after) (healthy : Healthy before) :
    Healthy after where
  healthy := by
    rw [same.condition (by decide)]
    exact healthy.healthy
  synced := by
    rw [same.conflictIs (by decide)]
    exact healthy.synced
  attached := by
    rw [same.conflictIs (by decide), same.condition (by decide)]
    exact healthy.attached
  detached := by
    rw [same.conflictIs (by decide), same _ (by decide)]
    exact healthy.detached

end SameExcept

theorem Quiet.conflictIs {ctx : Schedule} {before after : State} (quiet : Quiet ctx before after)
    (reason : String) : conflictIs reason after.status = conflictIs reason before.status := by
  simp only [Apishard.conflictIs, quiet.gates .crdConflict rfl]

theorem Quiet.condition {ctx : Schedule} {before after : State} (quiet : Quiet ctx before after)
    {type : ShardCondition} (gate : type.gate = true) :
    after.status.condition type = before.status.condition type := by
  simp only [APIShardStatus.condition, quiet.gates type gate]

theorem Mirroring.conflictIs {ctx : Schedule} {before after : State}
    (mirroring : Mirroring ctx before after) (reason : String) :
    conflictIs reason after.status = conflictIs reason before.status := by
  simp only [Apishard.conflictIs, mirroring.gates .crdConflict rfl rfl]

theorem Mirroring.condition {ctx : Schedule} {before after : State}
    (mirroring : Mirroring ctx before after) {type : ShardCondition} (gate : type.gate = true)
    (own : type.mirrored = false) :
    after.status.condition type = before.status.condition type := by
  simp only [APIShardStatus.condition, mirroring.gates type gate own]

section conditions

variable (shard : APIShard) (type : ShardCondition) (status : ConditionStatus)
variable (reason message : String) (state : State)

theorem setCondition_others :
    SameExcept type state.status
      (exec (setCondition shard type status reason message) state).2.status :=
  fun _ different => findStatusCondition_set_of_ne _ different _

theorem setCondition_self :
    (exec (setCondition shard type status reason message) state).2.status.condition type =
      some status := by
  obtain ⟨time, found⟩ := findStatusCondition_set_self state.cluster.clock
    ⟨type, status, reason, message, shard.generation⟩ state.status.conditions
  simp only [setCondition, exec_modify, APIShardStatus.condition, found, Option.map_some,
    NewCondition.stamp_status]

theorem removeCondition_others :
    SameExcept type state.status (exec (removeCondition type) state).2.status :=
  fun _ different => findStatusCondition_remove_of_ne different _

end conditions

/-! ## The health check -/

section health

variable {ctx : Schedule} {shard : APIShard} {state after : State} {result : Result}

/-- What a health check that lets the shard become ready has seen. -/
structure Passed (shard : APIShard) (before after : State) : Prop where
  healthy : Healthy after.status
  conflict : ∀ reason, conflictIs reason after.status = conflictIs reason before.status
  available : conflictIs "CRDsSyncedToSecondary" before.status = true →
    checkOwned shard.uid before.cluster.apiServices.items = none

theorem checkAvailability_ok {uid : UID} {verdict : Option String}
    (ran : exec (checkAvailability ctx uid) state = (.ok verdict, after)) :
    verdict = checkOwned uid state.cluster.apiServices.items := by
  obtain ⟨_, ran⟩ := exec_callAPI_ok.mp (exec_mapError_eq_ok.mp ran)
  cases ran
  rfl

/-- Either the shard has to wait for its APIServices, or they are as they should
be. -/
theorem checkAPIServiceAvailability_ok
    (healthy : state.status.condition .secondaryHealthy = some .true)
    (ran : exec (checkAPIServiceAvailability ctx shard) state = (.ok result, after)) :
    0 < result.requeueAfter ∧ after.status.phase = .provisioning ∨
      result.requeueAfter = 0 ∧ Passed shard state after := by
  simp only [checkAPIServiceAvailability, exec_bind, exec_get] at ran
  split at ran
  · cases ran
    exact .inl ⟨by decide, rfl⟩
  · next unfailed =>
      have synced : conflictIs "CRDSyncFailed" state.status = false := by simpa using unfailed
      split at ran
      · next unattached =>
          have detached : conflictIs "CRDsSyncedToSecondary" state.status = false := by
            simpa using unattached
          cases ran
          have same := removeCondition_others .apiServicesRegistered state
          have conflict := same.conflictIs (by decide)
          refine .inr ⟨rfl, ⟨?_, ?_, ?_, ?_⟩, conflict, ?_⟩
          · exact (same.condition (by decide)).trans healthy
          · exact (conflict _).trans synced
          · exact fun attached => absurd ((conflict _).symm.trans attached) (by simp [detached])
          · exact fun _ => findStatusCondition_remove_self _ _
          · exact fun attached => absurd (detached.symm.trans attached) nofun
      · next undetached =>
          have attached : conflictIs "CRDsSyncedToSecondary" state.status = true := by
            simpa using undetached
          obtain ⟨verdict, checked, check, rest⟩ := exec_bind_eq_ok.mp ran
          have quiet := ((checkAvailability_hushed ctx shard.uid).mapError _).rel check
          cases verdict with
          | some message =>
              cases rest
              exact .inl ⟨by decide, rfl⟩
          | none =>
              cases rest
              have same := setCondition_others shard .apiServicesRegistered .true "AllAvailable"
                "All APIServices are available via aggregation" checked
              have conflict (reason : String) :=
                (same.conflictIs (by decide) reason).trans (quiet.conflictIs reason)
              refine .inr ⟨rfl, ⟨?_, ?_, ?_, ?_⟩, conflict, ?_⟩
              · exact (same.condition (by decide)).trans ((quiet.condition rfl).trans healthy)
              · exact (conflict _).trans synced
              · exact fun _ => setCondition_self shard .apiServicesRegistered .true _ _ checked
              · exact fun detached => absurd
                  (((conflict _).trans attached).symm.trans detached) nofun
              · exact fun _ => (checkAvailability_ok (exec_mapError_eq_ok.mp check)).symm

/-- The health check lets a shard become ready only when all is well. -/
theorem updateHealthStatus_ok
    (ran : exec (updateHealthStatus ctx shard) state = (.ok result, after)) :
    0 < result.requeueAfter ∧ after.status.phase = .provisioning ∨
      result.requeueAfter = 0 ∧ after.status.phase = .ready ∧ Passed shard state after := by
  obtain ⟨healthy, checked, first, ran⟩ := exec_bind_eq_ok.mp ran
  cases healthy with
  | false =>
      left
      obtain ⟨_, _, first, ran⟩ := exec_bind_eq_ok.mp ran
      cases first
      obtain ⟨_, _, second, ran⟩ := exec_bind_eq_ok.mp ran
      cases second
      simp only [exec_bind, exec_get] at ran
      split at ran
      · cases ran
        exact ⟨by decide, rfl⟩
      · cases ran
        exact ⟨by decide, rfl⟩
  | true =>
      obtain ⟨_, reported, second, ran⟩ := exec_bind_eq_ok.mp ran
      obtain ⟨_, located, third, ran⟩ := exec_bind_eq_ok.mp ran
      obtain ⟨_, mirrored, fourth, ran⟩ := exec_bind_eq_ok.mp ran
      obtain ⟨available, settled, fifth, returned⟩ := exec_bind_eq_ok.mp ran
      have checkQuiet := (checkDeploymentHealth_hushed ctx shard).rel first
      have mirroring := (reconcileSubCRs_mirroring ctx shard).rel fourth
      cases second
      cases third
      have same := setCondition_others shard .secondaryHealthy .true "DeploymentAvailable"
        "Secondary API server is healthy" checked
      have isHealthy : mirrored.status.condition .secondaryHealthy = some .true :=
        (mirroring.condition rfl rfl).trans
          (setCondition_self shard .secondaryHealthy .true _ _ checked)
      have conflict (reason : String) :
          conflictIs reason mirrored.status = conflictIs reason state.status :=
        (mirroring.conflictIs reason).trans
          ((same.conflictIs (by decide) reason).trans (checkQuiet.conflictIs reason))
      rcases checkAPIServiceAvailability_ok isHealthy fifth with ⟨waits, phase⟩ | ⟨passes, passed⟩
      · left
        rw [if_pos waits] at returned
        cases returned
        exact ⟨waits, phase⟩
      · right
        rw [if_neg (by omega)] at returned
        cases returned
        refine ⟨rfl, rfl, ⟨?_, ?_, ?_, ?_⟩, ?_, ?_⟩
        · exact passed.healthy.healthy
        · exact passed.healthy.synced
        · exact passed.healthy.attached
        · exact passed.healthy.detached
        · exact fun reason => (passed.conflict reason).trans (conflict reason)
        · intro attached
          have services := mirroring.apiServices.trans checkQuiet.apiServices
          rw [← services]
          exact passed.available ((conflict _).trans attached)

end health

/-! ## Writes -/

/-- All statuses written so far are coherent, and so is what a pass is about to
write first. -/
structure AllCoherent (state : State) : Prop where
  persisted : ∀ shard, .persisted shard ∈ state.trace → Coherent shard.status
  stored : ∀ stored ∈ state.cluster.registry.shards.items, Coherent stored.status

theorem AllCoherent.follows {before after : State} (coherent : AllCoherent before)
    (follows : before.cluster.registry.Follows after.cluster.registry)
    (logged : before.Logged Event.unpersisted after) : AllCoherent after where
  persisted := fun shard membership => coherent.persisted shard (logged.mem_before membership rfl)
  stored := by
    intro stored membership
    rcases follows.status membership with ⟨old, oldMem, _, status⟩ | ⟨_, status⟩
    · exact status ▸ coherent.stored old oldMem
    · exact status ▸ coherent_empty

theorem AllCoherent.working {ctx : Schedule} {before after : State}
    (coherent : AllCoherent before) (working : Working ctx before after) : AllCoherent after :=
  coherent.follows working.registry.follows (working.logged.mono Event.unpersisted_of_aside)

/-- Writing a coherent status. -/
theorem AllCoherent.updateStatus {state : State} (coherent : AllCoherent state)
    (own : Coherent state.status) (ctx : Schedule) (request : Call) (shard : APIShard) :
    AllCoherent (exec (updateStatus ctx request shard) state).2 := by
  have edited : AllCoherent (state.edited ctx request) :=
    coherent.follows (Registry.follows_edits _ _) (.of_eq rfl)
  rcases updateStatus_cases ctx shard request state with ⟨failure, ran⟩ | ⟨stored, _, _, _, ran⟩
  · rw [ran]
    exact edited
  · rw [ran]
    refine ⟨?_, ?_⟩
    · intro written membership
      rcases List.mem_append.mp membership with earlier | new
      · exact edited.persisted written earlier
      · cases List.mem_singleton.mp new
        exact own
    · intro other membership
      rcases Store.mem_insert.mp membership with rfl | ⟨earlier, _⟩
      · exact own
      · exact edited.stored other earlier

/-- The error report is coherent whatever the status was. -/
theorem setError_coherent (shard : APIShard) (failure : ApiError) {state : State}
    (distinct : DistinctTypes state.status.conditions) :
    Coherent (exec (setError shard failure) state).2.status where
  phase := by simp [setError, setCondition, exec_bind]
  failed := by
    refine ⟨fun _ => ?_, fun _ => rfl⟩
    exact setCondition_self shard .reconciled .false "ReconcileError" failure.message
      { state with status := { state.status with
        phase := .error, message := failure.message, observedGeneration := shard.generation } }
  ready := nofun
  distinct := DistinctTypes.set distinct _ _

theorem AllCoherent.setErrorAndRequeue {α : Type} {state : State} (coherent : AllCoherent state)
    (distinct : DistinctTypes state.status.conditions) (ctx : Schedule) (shard : APIShard)
    (failure : ApiError) :
    AllCoherent (exec (setErrorAndRequeue ctx shard failure : Pass α) state).2 := by
  rw [exec_setErrorAndRequeue]
  exact (coherent.working (setError_calm ctx shard failure state).working).updateStatus
    (setError_coherent shard failure distinct) ctx _ shard

theorem updateStatus_grows (ctx : Schedule) (request : Call) (shard : APIShard) (state : State) :
    state.trace <+: (exec (updateStatus ctx request shard) state).2.trace := by
  rcases updateStatus_cases ctx shard request state with ⟨failure, ran⟩ | ⟨stored, _, _, _, ran⟩
  · rw [ran]
    exact List.prefix_rfl
  · rw [ran]
    exact List.prefix_append _ _

/-- The invariant of a pass up to its last write, after some events. -/
structure Reporting (events : List Event) (state : State) : Prop extends AllCoherent state where
  distinct : DistinctTypes state.status.conditions
  untouched : state.status.phase = .empty → state.status.condition .reconciled ≠ some .false
  grown : events <+: state.trace

variable {events : List Event}

theorem reporting_steady (ctx : Schedule) (shard : APIShard) :
    Steady ctx shard (Reporting events) where
  quiet := by
    intro before after quiet reporting
    refine ⟨reporting.toAllCoherent.working quiet.toCalm.working,
      quiet.distinct reporting.distinct, ?_, reporting.grown.trans quiet.logged.grows⟩
    rw [quiet.phase, quiet.condition rfl]
    exact reporting.untouched
  report := by
    intro α failure state reporting
    have reported := reporting.toAllCoherent.setErrorAndRequeue (α := α) reporting.distinct ctx
      shard failure
    have kept := (setError_calm ctx shard failure state).working
    rw [exec_setErrorAndRequeue] at reported ⊢
    refine ⟨reported, ?_, ?_,
      (reporting.grown.trans kept.logged.grows).trans (updateStatus_grows ctx _ shard _)⟩
    · rw [updateStatus_status]
      exact kept.distinct reporting.distinct
    · rw [updateStatus_status]
      exact nofun

/-- The first status write only moves an empty phase on. -/
theorem initializePhase_reporting (ctx : Schedule) (shard : APIShard) :
    Respects (.keeps (Reporting events)) (initializePhase ctx shard) := by
  intro state reporting
  rw [exec_initializePhase]
  split
  · next empty =>
      have begun : Coherent { state.status with phase := .provisioning } := by
        refine ⟨by simp, ⟨nofun, fun failed => ?_⟩, nofun, reporting.distinct⟩
        exact absurd failed (reporting.untouched empty)
      have moved : AllCoherent { state with status.phase := .provisioning } :=
        ⟨reporting.persisted, reporting.stored⟩
      refine ⟨moved.updateStatus begun ctx _ shard, ?_, ?_, ?_⟩
      · rw [updateStatus_status]
        exact reporting.distinct
      · rw [updateStatus_status]
        exact nofun
      · exact reporting.grown.trans
          (updateStatus_grows ctx .writeProvisioning shard
            { state with status := { state.status with phase := .provisioning } })
  · exact reporting

/-- The success report is coherent when the health check came before. -/
theorem setReconciled_coherent (shard : APIShard) {state : State}
    (distinct : DistinctTypes state.status.conditions)
    (checked : state.status.phase = .provisioning ∨
      state.status.phase = .ready ∧ Healthy state.status) :
    Coherent (exec (setReconciled shard) state).2.status := by
  have reconciled := setCondition_self shard .reconciled .true "ReconcileSucceeded"
    "All resources reconciled successfully" { state with status := { state.status with
      message := "", observedGeneration := shard.generation } }
  have others := setCondition_others shard .reconciled .true "ReconcileSucceeded"
    "All resources reconciled successfully" { state with status := { state.status with
      message := "", observedGeneration := shard.generation } }
  have phase : (exec (setReconciled shard) state).2.status.phase = state.status.phase := rfl
  refine ⟨?_, ?_, ?_, distinct.set _ _⟩
  · rcases checked with provisioning | ⟨ready, _⟩
    · simp [phase, provisioning]
    · simp [phase, ready]
  · refine ⟨fun failed => ?_, fun failed => absurd (reconciled.symm.trans failed) nofun⟩
    rcases checked with provisioning | ⟨ready, _⟩
    · exact absurd (provisioning.symm.trans failed) nofun
    · exact absurd (ready.symm.trans failed) nofun
  · intro ready
    refine ⟨reconciled, rfl, others.healthy ?_⟩
    rcases checked with provisioning | ⟨_, healthy⟩
    · exact absurd (provisioning.symm.trans ready) nofun
    · exact ⟨healthy.healthy, healthy.synced, healthy.attached, healthy.detached⟩

/-! ## Whole passes -/

/-- The phase that was persisted last. -/
def persistedPhase (events : List Event) : Option Phase :=
  events.reverse.findSome? fun
    | .persisted shard => some shard.status.phase
    | _ => none

theorem persistedPhase_append (events : List Event) (shard : APIShard) :
    persistedPhase (events ++ [.persisted shard]) = some shard.status.phase := by
  simp [persistedPhase]

/-- What a part of a pass has to establish when it ends the pass. -/
structure Finished (events : List Event) (answer : Except ApiError Result) (after : State) :
    Prop extends AllCoherent after where
  requeue : ∀ result, answer = .ok result → (0 < result.requeueAfter ↔
    persistedPhase (after.trace.drop events.length) = some .provisioning)

theorem Reporting.finished_error {state : State} (reporting : Reporting events state)
    (failure : ApiError) : Finished events (.error failure) state :=
  ⟨reporting.toAllCoherent, nofun⟩

/-- The last write ends the pass with what it has written. -/
theorem reportSuccess_finished (ctx : Schedule) (shard : APIShard) {state : State}
    {result : Result} (coherent : AllCoherent state)
    (distinct : DistinctTypes state.status.conditions) (grown : events <+: state.trace)
    (checked : 0 < result.requeueAfter ∧ state.status.phase = .provisioning ∨
      result.requeueAfter = 0 ∧ state.status.phase = .ready ∧ Healthy state.status) :
    let ran := exec (do reportSuccess ctx shard; pure result) state
    Finished events ran.1 ran.2 := by
  have own := setReconciled_coherent shard distinct (checked.imp And.right And.right)
  have requeue : 0 < result.requeueAfter ↔ state.status.phase = .provisioning := by
    rcases checked with ⟨waits, provisioning⟩ | ⟨passes, ready, _⟩
    · exact ⟨fun _ => provisioning, fun _ => waits⟩
    · rw [passes, ready]
      exact ⟨nofun, nofun⟩
  have marked := coherent.working (setReconciled_calm ctx shard state).working
  have trace : (exec (setReconciled shard) state).2.trace = state.trace := rfl
  have phase : (exec (setReconciled shard) state).2.status.phase = state.status.phase := rfl
  simp only [exec_bind, exec_reportSuccess]
  generalize (exec (setReconciled shard) state).2 = report at own marked trace phase ⊢
  have written := marked.updateStatus own ctx .writeFinal shard
  rcases updateStatus_cases ctx shard .writeFinal report with
    ⟨failure, ran⟩ | ⟨stored, _, _, _, ran⟩
  · rw [ran] at written ⊢
    exact ⟨written, nofun⟩
  · rw [ran] at written ⊢
    refine ⟨written, ?_⟩
    intro returned isOk
    cases isOk
    obtain ⟨later, appended⟩ := grown
    have last : ((report.edited ctx .writeFinal).persist stored).trace = events ++ (later ++
        [.persisted ((report.edited ctx .writeFinal).cluster.registry.updated stored
          report.status)]) := by
      rw [← List.append_assoc, appended, ← trace]
      rfl
    simp only [exec_pure, last, List.drop_left, persistedPhase_append, Option.some.injEq]
    exact requeue.trans (by rw [← phase]; rfl)

/-- The registration and the health check lead to a coherent last write, and the
pass asks to be run again exactly when it has written that it is not done. -/
theorem reconcileServing_finished (ctx : Schedule) (shard : APIShard) {state : State}
    (reporting : Reporting events state) :
    Finished events (exec (reconcileServing ctx shard) state).1
      (exec (reconcileServing ctx shard) state).2 := by
  have registers := reconcileAPIServices_working ctx shard
  rcases reconcileServing_cases ctx shard state with
    ⟨failure, registered, first, ran⟩ | ⟨registered, detected, first, second, rest⟩
  · rw [ran]
    have worked := registers.rel first
    refine ⟨?_, by rw [exec_setErrorAndRequeue]; exact nofun⟩
    exact (reporting.toAllCoherent.working worked).setErrorAndRequeue
      (worked.distinct reporting.distinct) ctx shard failure
  · have toHealth := (registers.rel first).trans
      ((reconcileCRDConflicts_calm ctx shard).rel second).working
    rcases rest with ⟨failure, checked, third, ran⟩ | ⟨result, checked, cleaned, third, cleans, ran⟩
    · rw [ran]
      have toEnd := toHealth.trans ((updateHealthStatus_calm ctx shard).rel third).working
      exact ⟨reporting.toAllCoherent.working toEnd, nofun⟩
    · have toEnd := (toHealth.trans ((updateHealthStatus_calm ctx shard).rel third).working).trans
        cleans.calm.working
      have verdict : 0 < result.requeueAfter ∧ cleaned.status.phase = .provisioning ∨
          result.requeueAfter = 0 ∧ cleaned.status.phase = .ready ∧ Healthy cleaned.status := by
        rw [cleans.status]
        exact (updateHealthStatus_ok third).imp id fun ⟨passes, ready, passed⟩ =>
          ⟨passes, ready, passed.healthy⟩
      rw [ran]
      exact reportSuccess_finished ctx shard (reporting.toAllCoherent.working toEnd)
        (toEnd.distinct reporting.distinct) (reporting.grown.trans toEnd.logged.grows) verdict

/-- A pass on a live shard, from its copy on. -/
theorem reconcileCopy_finished (r : Reconciler) (ctx : Schedule) (shard : APIShard)
    {state : State} (reporting : Reporting events state) :
    Finished events (exec (reconcileCopy r ctx shard) state).1
      (exec (reconcileCopy r ctx shard) state).2 := by
  have kept := (reporting_steady ctx shard).reconcileResources r
    (initializePhase_reporting ctx shard) state reporting
  rcases reconcileCopy_cases r ctx shard state with ⟨failure, after, first, ran⟩ |
    ⟨after, first, ran⟩
  · rw [first] at kept
    rw [ran]
    exact kept.finished_error failure
  · rw [first] at kept
    rw [ran]
    exact reconcileServing_finished ctx shard kept

/-- A pass that writes no status leaves nothing to requeue for. -/
theorem AllCoherent.finished_unpersisted {before after : State} {answer : Except ApiError Result}
    (coherent : AllCoherent before)
    (follows : before.cluster.registry.Follows after.cluster.registry)
    (logged : before.Logged Event.unpersisted after)
    (returned : ∀ result, answer = .ok result → result = {}) :
    Finished before.trace answer after := by
  refine ⟨coherent.follows follows logged, ?_⟩
  intro result isOk
  rw [returned result isOk]
  obtain ⟨events, trace, unpersisted⟩ := logged
  have nothing : persistedPhase events = none := by
    simp only [persistedPhase, List.findSome?_eq_none_iff, List.mem_reverse]
    intro event membership
    cases event with
    | persisted shard => exact absurd (unpersisted _ membership) nofun
    | _ => rfl
  rw [trace, List.drop_left, nothing]
  exact ⟨nofun, nofun⟩

theorem reconcile_finished (r : Reconciler) (ctx : Schedule) (name : String) {state : State}
    (coherent : AllCoherent state) :
    Finished state.trace (exec (reconcile r ctx name) state).1
      (exec (reconcile r ctx name) state).2 := by
  rcases reconcile_cases r ctx name state with
    ⟨answer, after, ran, ended, returned⟩ | ⟨shard, answer, _, finalized, returned, ran⟩ |
    ⟨copy, start, adopted, ran⟩
  · rw [ran]
    exact coherent.finished_unpersisted ended.follows (.of_eq (by rw [ended.same])) returned
  · rw [ran]
    obtain ⟨follows, _, logged⟩ :=
      reconcileDelete_effect ctx finalized (state.edited ctx .getShard)
    have edited : state.cluster.registry.Follows (state.edited ctx .getShard).cluster.registry :=
      Registry.follows_edits _ _
    exact coherent.finished_unpersisted (edited.trans follows) logged returned
  · rw [ran]
    have begun : AllCoherent start := coherent.follows adopted.follows (.of_eq adopted.trace)
    have own := begun.stored copy adopted.stored
    apply reconcileCopy_finished r ctx copy
    refine ⟨begun, ?_, ?_, by rw [adopted.trace]⟩
    · rw [adopted.status]
      exact own.distinct
    · rw [adopted.status]
      intro empty failed
      rw [own.failed.mpr failed] at empty
      contradiction

/-! ## Runs -/

theorem AllCoherent.step {state : State} (coherent : AllCoherent state) (step : Step) :
    AllCoherent (state.step step) := by
  cases step with
  | edit edit => exact coherent.follows (Registry.follows_edit _ _) (.of_eq rfl)
  | surround surroundings => exact ⟨coherent.persisted, coherent.stored⟩
  | createCRD crd =>
      refine ⟨coherent.persisted, ?_⟩
      simp only [State.step, Cluster.createCRD]
      split
      · exact coherent.stored
      · exact coherent.stored
  | deleteCRD name => exact ⟨coherent.persisted, coherent.stored⟩
  | pass r name ctx => exact (reconcile_finished r ctx name coherent).toAllCoherent

theorem Initial.allCoherent {start : State} (initial : Initial start) : AllCoherent start where
  persisted := by simp [initial.trace]
  stored := fun stored membership => initial.status stored membership ▸ coherent_empty

/-- In every run, all stored statuses and all that were ever persisted are coherent,
and a pass that ends without an error asks to be run again exactly when the phase it
has persisted is Provisioning. -/
theorem run_status_coherent {start : State} (initial : Initial start) (steps : List Step) :
    let state := run State.step start steps
    (∀ shard, .persisted shard ∈ state.trace → Coherent shard.status) ∧
    (∀ stored ∈ state.cluster.registry.shards.items, Coherent stored.status) ∧
    ∀ r name ctx result after, exec (reconcile r ctx name) state = (.ok result, after) →
      (0 < result.requeueAfter ↔
        persistedPhase (after.trace.drop state.trace.length) = some .provisioning) := by
  have coherent : AllCoherent (run State.step start steps) :=
    run_invariant (fun _ step coherent => coherent.step step) initial.allCoherent steps
  refine ⟨coherent.persisted, coherent.stored, ?_⟩
  intro r name ctx result after ran
  have finished := reconcile_finished r ctx name coherent
  rw [ran] at finished
  exact finished.requeue result rfl

/-- The statement for a run that makes a shard Ready. -/
theorem run_status_coherent_served :
    Initial { cluster := .bare } ∧
      let state := run State.step { cluster := .bare } [
        .edit (.create "a" (plainSpec [⟨"g", ["v1"]⟩])),
        .surround (.serving "a"),
        .pass .bare "a" {}]
      persistedPhase state.trace = some .ready ∧
        ∀ stored ∈ state.cluster.registry.shards.items, Coherent stored.status :=
  ⟨initial_bare, by decide +kernel, (run_status_coherent initial_bare _).2.1⟩

end KubeShard.Apishard
