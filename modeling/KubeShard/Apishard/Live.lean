import KubeShard.Aggregation.Registration
import KubeShard.Apishard.Steps

/-!
# What a pass on a live shard keeps

Up to the registration of APIServices, a live pass is made of quiet steps, each of
which may end the pass with a status write that reports the error.  An invariant
that survives both survives all these steps.
-/

namespace KubeShard.Apishard

open Prog Aggregation

variable (r : Reconciler) (ctx : Schedule) (shard : APIShard)

/-! ## Status writes -/

/-- A status write is refused and changes nothing, or it takes the status over into
the stored shard, which has the resource version of the copy. -/
theorem updateStatus_cases (request : Call) (state : State) :
    (∃ failure, exec (updateStatus ctx request shard) state =
      (.error failure, state.edited ctx request)) ∨
    (∃ stored ∈ (state.edited ctx request).cluster.registry.shards.items,
      stored.name = shard.name ∧ stored.resourceVersion = state.resourceVersion ∧
      exec (updateStatus ctx request shard) state =
        (.ok (), (state.edited ctx request).persist stored)) := by
  cases faults : ctx.faults request with
  | some failure =>
      left
      exact ⟨failure, by rw [updateStatus, exec_callAPI_some faults]⟩
  | none =>
      rw [updateStatus, exec_callAPI_none faults]
      simp only [exec_bind, exec_get]
      cases found : (state.edited ctx request).cluster.registry.shards.find? shard.name with
      | none => exact .inl ⟨_, rfl⟩
      | some stored =>
          obtain ⟨membership, name⟩ := Store.find?_eq_some.mp found
          dsimp only
          split
          · exact .inl ⟨_, rfl⟩
          · next fresh => exact .inr ⟨stored, membership, name, not_not.mp fresh, rfl⟩

theorem updateStatus_status (request : Call) (state : State) :
    (exec (updateStatus ctx request shard) state).2.status = state.status := by
  rcases updateStatus_cases ctx shard request state with ⟨failure, ran⟩ | ⟨stored, _, _, _, ran⟩
  · rw [ran]
    rfl
  · rw [ran]
    rfl

/-- An error is written to the status, and returned whether or not that worked. -/
theorem exec_setErrorAndRequeue {α : Type} (failure : ApiError) (state : State) :
    exec (setErrorAndRequeue ctx shard failure : Pass α) state =
      (.error failure,
        (exec (updateStatus ctx .writeError shard) (exec (setError shard failure) state).2).2) :=
  rfl

/-- The first status write of a shard. -/
theorem exec_initializePhase (state : State) :
    exec (initializePhase ctx shard) state =
      if state.status.phase = .empty then
        exec (updateStatus ctx .writeProvisioning shard)
          { state with status.phase := .provisioning }
      else
        (.ok (), state) := by
  simp only [initializePhase, exec_bind, exec_get]
  split <;> rfl

/-- The last status write of a shard. -/
theorem exec_reportSuccess (state : State) :
    exec (reportSuccess ctx shard) state =
      exec (updateStatus ctx .writeFinal shard) (exec (setReconciled shard) state).2 :=
  rfl

theorem setError_observing (failure : ApiError) :
    Respects (observing ctx) (setError shard failure) := by
  apply Respects.bind
  · apply Respects.of_modify
    exact fun state => .of_status rfl rfl
  · exact fun _ => setCondition_observing _ _ _ _ rfl

theorem setReconciled_observing : Respects (observing ctx) (setReconciled shard) := by
  apply Respects.bind
  · apply Respects.of_modify
    exact fun state => .of_status rfl rfl
  · exact fun _ => setCondition_observing _ _ _ _ rfl

theorem setError_calm (failure : ApiError) : Respects (calm ctx) (setError shard failure) :=
  calm_of_aloof (aloof_of_observing (setError_observing ctx shard failure))

theorem setReconciled_calm : Respects (calm ctx) (setReconciled shard) :=
  calm_of_aloof (aloof_of_observing (setReconciled_observing ctx shard))

theorem reconcileCRDConflicts_calm : Respects (calm ctx) (reconcileCRDConflicts ctx shard) :=
  calm_of_aloof (aloof_of_observing (reconcileCRDConflicts_observing ctx shard))

theorem updateHealthStatus_calm : Respects (calm ctx) (updateHealthStatus ctx shard) :=
  calm_of_aloof (updateHealthStatus_aloof ctx shard)

/-! ## Steps beside the sync objects -/

/-- A working step that leaves the sync objects and the conditions copied from them
alone. -/
structure Beside (ctx : Schedule) (before after : State) : Prop
    extends Working ctx before after where
  syncs : after.cluster.syncs = before.cluster.syncs
  mirrored : ∀ type, type.mirrored = true →
    findStatusCondition after.status.conditions type =
      findStatusCondition before.status.conditions type

variable {ctx shard} in
theorem Beside.of_observing {before after : State}
    (observing : Observing ctx before after) : Beside ctx before after :=
  ⟨observing.working, observing.syncs, observing.mirrored⟩

variable {ctx shard} in
theorem Beside.of_quiet {before after : State} (quiet : Quiet ctx before after) :
    Beside ctx before after :=
  ⟨quiet.working, quiet.syncs,
    fun type mirrored => quiet.gates type (ShardCondition.gate_of_mirrored mirrored)⟩

variable {ctx shard} in
/-- The registration of APIServices. -/
theorem Beside.of_registering {wanted listed : List String} {before registered : State}
    (registering : Registering ctx shard wanted listed before registered)
    {names : List String} :
    Beside ctx before { registered with status.registeredAPIServices := names } := by
  have worked := registering.working
  refine ⟨⟨worked.registry, worked.crds, worked.resourceVersion, worked.distinct, worked.logged⟩,
    ?_, ?_⟩
  · show registered.cluster.syncs = before.cluster.syncs
    rw [registering.cluster]
    rfl
  · intro type _
    show findStatusCondition registered.status.conditions type = _
    rw [registering.status]

theorem reconcileAPIServices_beside (state : State) :
    Beside ctx state (exec (reconcileAPIServices ctx shard) state).2 := by
  cases ran : exec (reconcileAPIServices ctx shard) state with
  | mk answer after =>
      cases answer with
      | error failure => exact .of_registering (reconcileAPIServices_error ran)
      | ok value =>
          obtain ⟨registered, registering, _, _, rfl⟩ := reconcileAPIServices_ok ran
          exact .of_registering registering

theorem reconcileAPIServices_working : Respects (working ctx) (reconcileAPIServices ctx shard) :=
  fun state => (reconcileAPIServices_beside ctx shard state).toWorking

/-! ## The last part of a pass -/

theorem reconcileCRDConflicts_returns (state : State) :
    ∃ after, exec (reconcileCRDConflicts ctx shard) state = (.ok (), after) := by
  simp only [reconcileCRDConflicts, exec_bind, exec_attempt]
  split
  · exact ⟨_, rfl⟩
  · exact ⟨_, rfl⟩
  · simp only [exec_bind, exec_attempt]
    split
    · exact ⟨_, rfl⟩
    · exact ⟨_, rfl⟩

/-- What a cleanup does: objects are dropped that were not tracked. -/
structure Cleaned (before after : State) : Prop where
  calm : Calm ctx before after
  status : after.status = before.status
  kept : ∀ key ∈ before.tracked,
    after.cluster.objects.find? key = before.cluster.objects.find? key
  tracked : after.tracked = before.tracked
  trace : after.trace = before.trace ++ [.cleanup shard.uid before.tracked]
  dropped : ctx.faults .cleanupOrphans = none → ∀ object ∈ after.cluster.objects.items,
    orphaned shard before.tracked object = false

theorem find?_dropObjects {cluster : Cluster} {drop : Object → Bool} {key : ObjectKey}
    (kept : ∀ object, drop object = true → object.key ≠ key) :
    (cluster.dropObjects drop).objects.find? key = cluster.objects.find? key := by
  cases found : cluster.objects.find? key with
  | none =>
      rw [Store.find?_eq_none] at found ⊢
      intro membership
      obtain ⟨object, objectMem, sameKey⟩ := Store.mem_keys.mp membership
      exact found (Store.mem_keys.mpr ⟨object, (List.mem_filter.mp objectMem).1, sameKey⟩)
  | some object =>
      rw [Store.find?_eq_some] at found ⊢
      refine ⟨List.mem_filter.mpr ⟨found.1, ?_⟩, found.2⟩
      cases dropped : drop object with
      | false => rfl
      | true => exact absurd found.2 (kept object dropped)

theorem cleanupOrphans_cleaned (state : State) :
    Cleaned ctx shard state (exec (cleanupOrphans ctx shard) state).2 := by
  have orphans (object : Object) (dropped : orphaned shard state.tracked object = true) :
      object.key ∉ state.tracked := not_tracked_of_orphaned shard dropped
  cases faults : ctx.faults .cleanupOrphans with
  | none =>
      refine ⟨cleanupOrphans_calm ctx shard state, ?_, ?_, ?_, ?_, ?_⟩ <;>
        simp only [cleanupOrphans, exec_bind, exec_get, record, exec_modify, exec_attempt,
          exec_callAPI_none faults, exec_pure]
      · rfl
      · intro key tracked
        exact find?_dropObjects fun object dropped same =>
          orphans object dropped (same ▸ tracked)
      · rfl
      · rfl
      · intro _ object membership
        have kept := (List.mem_filter.mp membership).2
        rwa [Bool.not_eq_true'] at kept
  | some failure =>
      refine ⟨cleanupOrphans_calm ctx shard state, ?_, ?_, ?_, ?_, ?_⟩ <;>
        simp only [cleanupOrphans, exec_bind, exec_get, record, exec_modify, exec_attempt,
          exec_callAPI_some faults, exec_throw]
      · rfl
      · intro key tracked
        refine find?_dropObjects fun object dropped same => ?_
        rw [Bool.and_eq_true] at dropped
        exact orphans object dropped.1 (same ▸ tracked)
      · rfl
      · rfl
      · intro clean
        rw [faults] at clean
        cases clean

/-- From the registration on, a pass fails to register and reports that, or fails at
the health check and only returns that, or comes to its last write. -/
theorem reconcileServing_cases (state : State) :
    (∃ failure registered,
      exec (reconcileAPIServices ctx shard) state = (.error failure, registered) ∧
      exec (reconcileServing ctx shard) state =
        exec (setErrorAndRequeue ctx shard failure : Pass Result) registered) ∨
    (∃ registered detected,
      exec (reconcileAPIServices ctx shard) state = (.ok (), registered) ∧
      exec (reconcileCRDConflicts ctx shard) registered = (.ok (), detected) ∧
      ((∃ failure checked,
          exec (updateHealthStatus ctx shard) detected = (.error failure, checked) ∧
          exec (reconcileServing ctx shard) state = (.error failure, checked)) ∨
        (∃ result checked cleaned,
          exec (updateHealthStatus ctx shard) detected = (.ok result, checked) ∧
          Cleaned ctx shard checked cleaned ∧
          exec (reconcileServing ctx shard) state =
            exec (do reportSuccess ctx shard; pure result) cleaned))) := by
  simp only [reconcileServing, orSetError, exec_bind, exec_attempt]
  cases first : exec (reconcileAPIServices ctx shard) state with
  | mk answer registered =>
      cases answer with
      | error failure => exact .inl ⟨failure, registered, rfl, rfl⟩
      | ok value =>
          right
          obtain ⟨detected, second⟩ := reconcileCRDConflicts_returns ctx shard registered
          refine ⟨registered, detected, rfl, second, ?_⟩
          simp only [exec_pure, second]
          cases third : exec (updateHealthStatus ctx shard) detected with
          | mk answer checked =>
              cases answer with
              | error failure => exact .inl ⟨failure, checked, rfl, rfl⟩
              | ok result =>
                  right
                  exact ⟨result, checked, _, rfl, cleanupOrphans_cleaned ctx shard checked, rfl⟩

/-! ## Invariants of the first part of a pass -/

theorem orSetError_respects {frame : Frame State} {α : Type}
    (report : ∀ failure, Respects frame (setErrorAndRequeue ctx shard failure : Pass α))
    {step : Pass α} (respects : Respects frame step) :
    Respects frame (orSetError ctx shard step) := by
  apply respects.attempt.bind
  intro answer
  cases answer with
  | ok value => exact .of_pure value
  | error failure => exact report failure

/-- The first part of a pass, in a frame that admits every step but those on the
in-cluster database, which are left to the caller. -/
theorem reconcileObjects_respects {frame : Frame State}
    (report : ∀ {α : Type} (failure : ApiError),
      Respects frame (setErrorAndRequeue ctx shard failure : Pass α))
    (stills : ∀ before after, Still ctx before after → frame.rel before after)
    (admits : ∀ applyStep, applyStep ≠ .storage → Admits ctx shard applyStep frame)
    (database : Respects frame (reconcileInClusterPostgreSQL ctx shard)) :
    Respects frame (reconcileObjects r ctx shard) := by
  have access := admits .access nofun
  apply (orSetError_respects ctx shard report (reconcileStorage_respects r ctx shard
    (admits .kine nofun) (admits .collector nofun) stills database)).bind
  intro _
  apply (orSetError_respects ctx shard report (applyCertResources_respects ctx shard
    (admits .certificates nofun) _ (step_of_certificates shard))).bind
  intro _
  apply (orSetError_respects ctx shard report ((access.applyOwned rfl _).mapError _)).bind
  intro _
  apply (orSetError_respects ctx shard report ((access.applyOwned rfl _).mapError _)).bind
  intro _
  apply (orSetError_respects ctx shard report ((access.applyOwned rfl _).mapError _)).bind
  intro _
  apply (orSetError_respects ctx shard report
    (reconcileAPIServerSCC_respects r ctx shard (admits .scc nofun))).bind
  intro _
  apply (orSetError_respects ctx shard report
    (reconcileRequestHeaderCA_respects r ctx shard (admits .requestHeader nofun))).bind
  intro _
  apply (orSetError_respects ctx shard report
    (reconcileAdminKubeconfig_respects ctx shard (admits .kubeconfig nofun) stills)).bind
  intro _
  apply (orSetError_respects ctx shard report
    (reconcileSecondary_respects ctx shard (admits .secondary nofun))).bind
  intro _
  exact orSetError_respects ctx shard report
    (reconcileMetrics_respects r ctx shard (admits .monitoring nofun))

/-- An invariant that the steps of the first part of a pass keep. -/
structure Steady (invariant : State → Prop) : Prop where
  quiet : ∀ before after, Quiet ctx before after → invariant before → invariant after
  report : ∀ {α : Type} (failure : ApiError),
    Respects (.keeps invariant) (setErrorAndRequeue ctx shard failure : Pass α)

namespace Steady

variable {ctx shard} {invariant : State → Prop} {α : Type}

theorem of_quiet (steady : Steady ctx shard invariant) {program : Pass α}
    (respects : Respects (Apishard.quiet ctx) program) : Respects (.keeps invariant) program :=
  respects.mono steady.quiet

theorem orSetError (steady : Steady ctx shard invariant) {step : Pass α}
    (respects : Respects (.keeps invariant) step) :
    Respects (.keeps invariant) (orSetError ctx shard step) :=
  orSetError_respects ctx shard steady.report respects

theorem orSetError_quiet (steady : Steady ctx shard invariant) {step : Pass α}
    (respects : Respects (Apishard.quiet ctx) step) :
    Respects (.keeps invariant) (Apishard.orSetError ctx shard step) :=
  steady.orSetError (steady.of_quiet respects)

theorem reconcileObjects (steady : Steady ctx shard invariant) :
    Respects (.keeps invariant) (reconcileObjects r ctx shard) :=
  reconcileObjects_respects r ctx shard steady.report
    (fun before after still => steady.quiet before after still.toQuiet)
    (fun applyStep _ => (quiet_admits ctx shard applyStep).mono steady.quiet)
    (steady.of_quiet (reconcileInClusterPostgreSQL_quiet ctx shard))

theorem reconcileResources (steady : Steady ctx shard invariant)
    (begins : Respects (.keeps invariant) (initializePhase ctx shard)) :
    Respects (.keeps invariant) (reconcileResources r ctx shard) := by
  apply (steady.orSetError_quiet (quiet_of_sharing (ensureNamespace_sharing ctx shard))).bind
  intro _
  exact begins.bind fun _ => steady.reconcileObjects r

end Steady

/-- A pass ends before the APIServices, or goes on to them. -/
theorem reconcileCopy_cases (state : State) :
    (∃ failure after, exec (reconcileResources r ctx shard) state = (.error failure, after) ∧
      exec (reconcileCopy r ctx shard) state = (.error failure, after)) ∨
    (∃ after, exec (reconcileResources r ctx shard) state = (.ok (), after) ∧
      exec (reconcileCopy r ctx shard) state = exec (reconcileServing ctx shard) after) := by
  rw [reconcileCopy, exec_bind]
  rcases exec (reconcileResources r ctx shard) state with ⟨answer, after⟩
  cases answer with
  | error failure => exact .inl ⟨failure, after, rfl, rfl⟩
  | ok value => exact .inr ⟨after, rfl, rfl⟩

theorem cleanupOrphans_beside (state : State) :
    Beside ctx state (exec (cleanupOrphans ctx shard) state).2 := by
  have cleaned := cleanupOrphans_cleaned ctx shard state
  refine ⟨cleaned.calm.working, ?_, fun _ _ => by rw [cleaned.status]⟩
  cases faults : ctx.faults .cleanupOrphans with
  | none =>
      simp only [cleanupOrphans, exec_bind, exec_get, record, exec_modify, exec_attempt,
        exec_callAPI_none faults, exec_pure]
      rfl
  | some failure =>
      simp only [cleanupOrphans, exec_bind, exec_get, record, exec_modify, exec_attempt,
        exec_callAPI_some faults, exec_throw]
      rfl

/-- An invariant of steps beside the sync objects, of the step on them and of status
writes holds to the end of a pass, wherever it ends. -/
theorem reconcileCopy_keeps_syncs {invariant : State → Prop}
    (beside : ∀ before after, Beside ctx before after → invariant before → invariant after)
    (syncs : Respects (.keeps invariant) (reconcileSubCRs ctx shard))
    (writes : ∀ request, request.late = true →
      Respects (.keeps invariant) (updateStatus ctx request shard)) :
    Respects (.keeps invariant) (reconcileCopy r ctx shard) := by
  have observed {α : Type} {program : Pass α} (respects : Respects (observing ctx) program) :
      Respects (.keeps invariant) program :=
    respects.mono fun before after observing => beside before after (.of_observing observing)
  have steady : Steady ctx shard invariant := by
    refine ⟨fun before after quiet => beside before after (.of_quiet quiet), ?_⟩
    intro α failure
    apply (observed (setError_observing ctx shard failure)).bind
    intro _
    exact (writes _ rfl).attempt.bind fun _ => .of_throw failure
  have begins : Respects (.keeps invariant) (initializePhase ctx shard) := by
    apply Respects.of_get.bind
    intro state
    apply Respects.ite _ (.of_pure _)
    exact (observed (setPhase_observing ctx _)).bind fun _ => writes _ rfl
  have registers : Respects (.keeps invariant) (reconcileAPIServices ctx shard) :=
    fun state => beside _ _ (reconcileAPIServices_beside ctx shard state)
  have cleans : Respects (.keeps invariant) (cleanupOrphans ctx shard) :=
    fun state => beside _ _ (cleanupOrphans_beside ctx shard state)
  apply (steady.reconcileResources r begins).bind
  intro _
  apply (steady.orSetError registers).bind
  intro _
  apply (observed (reconcileCRDConflicts_observing ctx shard)).bind
  intro _
  apply (updateHealthStatus_respects ctx shard
    (fun before after observing => beside before after (.of_observing observing)) syncs).bind
  intro _
  apply cleans.attempt.bind
  intro _
  apply Respects.bind
  · exact (observed (setReconciled_observing ctx shard)).bind fun _ => writes _ rfl
  · exact fun _ => .of_pure _

/-- An invariant of working steps and of status writes holds to the end of a pass,
wherever it ends. -/
theorem reconcileCopy_keeps {invariant : State → Prop}
    (working : ∀ before after, Working ctx before after → invariant before → invariant after)
    (writes : ∀ request, request.late = true →
      Respects (.keeps invariant) (updateStatus ctx request shard)) :
    Respects (.keeps invariant) (reconcileCopy r ctx shard) := by
  have syncs : Respects (.keeps invariant) (reconcileSubCRs ctx shard) :=
    (reconcileSubCRs_mirroring ctx shard).mono fun before after mirroring =>
      working before after mirroring.working
  exact reconcileCopy_keeps_syncs r ctx shard
    (fun before after beside => working before after beside.toWorking) syncs writes

end KubeShard.Apishard
