import KubeShard.Apishard.Simulation

/-!
# What a pass without an error leaves

A pass that returns no error has come through all its steps.  Each step assigns to a few
parts of the status only, and the last write stores what the steps have assigned.
-/

namespace KubeShard.Apishard

open Resources Prog Aggregation

/-! ## The parts of the status a step assigns to -/

/-- The status was assigned to in these parts at most. -/
structure Assigning (slots : List Slot) (before after : State) : Prop where
  clock : after.cluster.clock = before.cluster.clock
  assigned : ∃ assignments, assignments.map Assignment.slot ⊆ slots ∧
    after.status = before.status.assigned before.cluster.clock assignments

namespace Assigning

variable {slots wider : List Slot} {before after : State}

theorem refl (slots : List Slot) (state : State) : Assigning slots state state :=
  ⟨rfl, [], List.nil_subset _, rfl⟩

theorem trans {first second third : State} (left : Assigning slots first second)
    (right : Assigning slots second third) : Assigning slots first third := by
  obtain ⟨former, formerSlots, formerStatus⟩ := left.assigned
  obtain ⟨latter, latterSlots, latterStatus⟩ := right.assigned
  refine ⟨right.clock.trans left.clock, former ++ latter, ?_, ?_⟩
  · rw [List.map_append]
    exact List.append_subset.mpr ⟨formerSlots, latterSlots⟩
  · rw [latterStatus, left.clock, formerStatus, APIShardStatus.assigned_append]

theorem mono (assigning : Assigning slots before after) (subset : slots ⊆ wider) :
    Assigning wider before after := by
  obtain ⟨assignments, within, isStatus⟩ := assigning.assigned
  exact ⟨assigning.clock, assignments, List.Subset.trans within subset, isStatus⟩

theorem of_silent (slots : List Slot) (silent : Silent before after) :
    Assigning slots before after :=
  ⟨silent.clock, [], List.nil_subset _, silent.status⟩

/-- A condition in none of the parts stays. -/
theorem condition (assigning : Assigning slots before after) {type : ShardCondition}
    (other : .condition type ∉ slots) :
    findStatusCondition after.status.conditions type =
      findStatusCondition before.status.conditions type := by
  obtain ⟨assignments, within, isStatus⟩ := assigning.assigned
  rw [isStatus, APIShardStatus.findStatusCondition_assigned _ _ fun membership =>
    other (within membership)]

theorem connectionSecret (assigning : Assigning slots before after)
    (other : .connectionSecret ∉ slots) :
    after.status.connectionSecret = before.status.connectionSecret := by
  obtain ⟨assignments, within, isStatus⟩ := assigning.assigned
  rw [isStatus, APIShardStatus.connectionSecret_assigned _ _ fun membership =>
    other (within membership)]

end Assigning

/-- The frame of steps that assign to these parts of the status. -/
def assigning (slots : List Slot) : Frame State := ⟨Assigning slots, .refl slots, .trans⟩

section steps

variable {ctx : Schedule} {shard : APIShard} {state after : State} {α : Type} {slots : List Slot}

theorem assigning_of_silent {program : Pass α} (respects : Respects silent program) :
    Respects (assigning slots) program :=
  respects.mono fun _ _ silent => .of_silent slots silent

/-- A step assigns where its report does. -/
theorem Shadowed.assigning {program : Pass α}
    {shadow : Answers → (List Assignment → APIShardStatus) → Report.Reporting α}
    {received : Answers → Prop} (shadowed : Shadowed state program shadow received)
    (answers : Answers) (given : received answers)
    (assigns : ∀ read, Report.Assigns slots (shadow answers read)) :
    Assigning slots state (exec program state).2 := by
  have tracks : Tracks state.status state.cluster.clock none state {} := ⟨rfl, rfl, rfl⟩
  obtain ⟨_, tracked⟩ := shadowed answers _ _ none {} given tracks
  obtain ⟨new, memory, within⟩ := assigns (state.status.assigned state.cluster.clock) {}
  rw [memory] at tracked
  exact ⟨tracked.clock, new, within.subset, tracked.status⟩

variable (ctx shard)

theorem updateStatus_assigning (request : Call) :
    Respects (assigning slots) (updateStatus ctx request shard) := by
  intro state
  apply Assigning.of_silent
  rcases updateStatus_cases ctx shard request state with ⟨failure, ran⟩ | ⟨stored, _, _, _, ran⟩
  · rw [ran]
    exact ⟨rfl, rfl⟩
  · rw [ran]
    exact ⟨rfl, rfl⟩

theorem initializePhase_assigning :
    Respects (assigning [.phase]) (initializePhase ctx shard) := by
  apply Respects.of_get.bind
  intro state
  apply Respects.ite _ (.of_pure _)
  apply Respects.bind
  · apply Respects.of_modify
    exact fun state => ⟨rfl, [.phase .provisioning Phase.provisioning_ne_empty],
      List.Subset.refl _, rfl⟩
  · exact fun _ => updateStatus_assigning ctx shard _

theorem reconcileStorage_assigning (r : Reconciler) :
    Respects (assigning [.condition .storageReady, .condition .monitoringDegraded])
      (reconcileStorage r ctx shard) := by
  intro state
  obtain ⟨credentials, statefulSet, database, connectionSecret, kine, collector, shadowed⟩ :=
    reconcileStorage_received ctx shard r state
  let answers : Answers :=
    { credentials, statefulSet, database, connectionSecret, kine, collector }
  exact shadowed.assigning answers ⟨rfl, rfl, rfl, rfl, rfl, rfl⟩
    fun _ => Report.reconcileStorage_assigns answers shard

theorem reconcileAdminKubeconfig_assigning :
    Respects (assigning [.connectionSecret]) (reconcileAdminKubeconfig ctx shard) := by
  intro state
  obtain ⟨adminKubeconfig, shadowed⟩ := reconcileAdminKubeconfig_received ctx shard state
  exact shadowed.assigning { adminKubeconfig } rfl
    fun _ => Report.reconcileAdminKubeconfig_assigns _ shard

theorem reconcileAPIServices_assigning :
    Respects (assigning [.registeredAPIServices]) (reconcileAPIServices ctx shard) := by
  intro state
  cases ran : exec (reconcileAPIServices ctx shard) state with
  | mk answer after =>
  cases answer with
  | error failure =>
      exact .of_silent _ (silent_of_registering (reconcileAPIServices_error ran))
  | ok value =>
      obtain ⟨registered, registering, _, _, rfl⟩ := reconcileAPIServices_ok ran
      have silent := silent_of_registering registering
      refine ⟨silent.clock, [.registeredAPIServices (desiredAPIServiceNames shard)],
        List.Subset.refl _, ?_⟩
      rw [← silent.status]
      rfl

theorem reconcileCRDConflicts_assigning :
    Respects (assigning [.condition .crdConflict]) (reconcileCRDConflicts ctx shard) := by
  intro state
  obtain ⟨crds, syncClient, syncCRD, shadowed⟩ := reconcileCRDConflicts_received ctx shard state
  refine shadowed.assigning { crds, syncClient, syncCRD } ⟨rfl, rfl, rfl⟩ ?_
  intro _ memory
  exact ⟨_, by rw [Report.exec_reconcileCRDConflicts], Report.within_conflict _ shard⟩

theorem updateHealthStatus_assigning :
    Respects (assigning Report.healthSlots) (updateHealthStatus ctx shard) := by
  intro state
  obtain ⟨checkDeploymentHealth, verifySecondaryAuth, namespaceSync, webhookSync, services,
    shadowed⟩ := updateHealthStatus_received ctx shard state
  let answers : Answers :=
    { checkDeploymentHealth, verifySecondaryAuth, namespaceSync, webhookSync, services }
  exact shadowed.assigning answers ⟨rfl, rfl, rfl, rfl, rfl⟩
    fun read => Report.updateHealthStatus_assigns answers shard read

theorem setErrorAndRequeue_assigning (failure : ApiError) :
    Respects (assigning Report.errorSlots) (setErrorAndRequeue ctx shard failure : Pass α) := by
  apply Respects.bind
  · exact fun state => ⟨rfl, Report.errorAssignments shard failure, List.Subset.refl _, rfl⟩
  · exact fun _ => (updateStatus_assigning ctx shard _).attempt.bind fun _ => .of_throw failure

theorem reportSuccess_assigning :
    Respects (assigning Report.successSlots) (reportSuccess ctx shard) := by
  apply Respects.bind
  · exact fun state => ⟨rfl, Report.successAssignments shard, List.Subset.refl _, rfl⟩
  · exact fun _ => updateStatus_assigning ctx shard _

/-- The parts of the status that are assigned to from the APIServices on. -/
def servingSlots : List Slot :=
  [.registeredAPIServices, .condition .crdConflict] ++ Report.healthSlots ++ Report.errorSlots

theorem reconcileServing_assigning :
    Respects (assigning servingSlots) (reconcileServing ctx shard) := by
  have within {β : Type} {program : Pass β} {slots : List Slot}
      (respects : Respects (assigning slots) program) (subset : slots ⊆ servingSlots) :
      Respects (assigning servingSlots) program :=
    respects.mono fun _ _ assigning => assigning.mono subset
  apply (orSetError_respects ctx shard
    (fun failure => within (setErrorAndRequeue_assigning ctx shard failure) (by decide))
    (within (reconcileAPIServices_assigning ctx shard) (by decide))).bind
  intro _
  apply (within (reconcileCRDConflicts_assigning ctx shard) (by decide)).bind
  intro _
  apply (within (updateHealthStatus_assigning ctx shard) (by decide)).bind
  intro _
  apply (assigning_of_silent (cleanupOrphans_silent ctx shard)).attempt.bind
  intro _
  exact (within (reportSuccess_assigning ctx shard) (by decide)).bind fun _ => .of_pure _

end steps

/-! ## The stages of a pass -/

section stages

variable {r : Reconciler} {ctx : Schedule} {copy : APIShard} {start state after : State}
variable {result : Result}

/-- The stages a pass has gone through that returned no error. -/
structure Stages (r : Reconciler) (ctx : Schedule) (copy : APIShard)
    (start begun stored granted connected applied : State) : Prop where
  untouched : Applied [] start begun
  initialized : Assigning [.phase] start begun
  storage : exec (reconcileStorage r ctx copy) begun = (.ok (), stored)
  access : exec (reconcileAccess r ctx copy) stored = (.ok (), granted)
  kubeconfig : exec (reconcileAdminKubeconfig ctx copy) granted = (.ok (), connected)
  workload : exec (reconcileWorkload r ctx copy) connected = (.ok (), applied)

theorem reconcileCopy_stages
    (ran : exec (reconcileCopy r ctx copy) start = (.ok result, after)) :
    ∃ begun stored granted connected applied,
      Stages r ctx copy start begun stored granted connected applied ∧
      exec (reconcileResources r ctx copy) start = (.ok (), applied) ∧
      exec (reconcileServing ctx copy) applied = (.ok result, after) := by
  obtain ⟨_, applied, resources, serving⟩ := exec_bind_eq_ok.mp ran
  have ran := resources
  obtain ⟨_, namespaced, first, ran⟩ := exec_bind_eq_ok.mp ran
  obtain ⟨_, begun, second, ran⟩ := exec_bind_eq_ok.mp ran
  rw [reconcileObjects_eq] at ran
  obtain ⟨_, stored, storage, ran⟩ := exec_bind_eq_ok.mp ran
  obtain ⟨_, granted, access, ran⟩ := exec_bind_eq_ok.mp ran
  obtain ⟨_, connected, kubeconfig, workload⟩ := exec_bind_eq_ok.mp ran
  have silent : Silent start namespaced :=
    (ensureNamespace_silent ctx copy).rel (orSetError_ok.mp first)
  refine ⟨begun, stored, granted, connected, applied, ⟨(begun_untouched first second).1, ?_,
    orSetError_ok.mp storage, orSetError_ok.mp access, orSetError_ok.mp kubeconfig,
    orSetError_ok.mp workload⟩, resources, serving⟩
  exact (Assigning.of_silent _ silent).trans ((initializePhase_assigning ctx copy).rel second)

section stages

variable {begun stored granted connected applied : State}
  (stages : Stages r ctx copy start begun stored granted connected applied)
include stages

theorem Stages.granting : Silent stored granted :=
  (reconcileAccess_respects r (silent_admits ctx copy)).rel stages.access

theorem Stages.working : Silent connected applied :=
  (reconcileWorkload_respects r (silent_admits ctx copy _)
    (silent_admits ctx copy _)).rel stages.workload

end stages

theorem tended_steady (ctx : Schedule) (copy : APIShard) : Steady ctx copy (Tended copy) where
  quiet _ _ quiet tended := tended.working quiet.working
  report := by
    intro α failure state tended
    rw [exec_setErrorAndRequeue]
    exact updateStatus_tended ctx _ copy _
      (tended.working (setError_calm ctx copy failure state).working)

theorem initializePhase_tended (ctx : Schedule) (copy : APIShard) :
    Respects (.keeps (Tended copy)) (initializePhase ctx copy) := by
  intro state tended
  rw [exec_initializePhase]
  split
  · exact updateStatus_tended ctx _ copy _ ⟨tended.wf, tended.current⟩
  · exact tended

/-- A status write stores the copy with another status. -/
theorem find?_persist {stored : APIShard}
    (current : Current copy state.resourceVersion state.cluster.registry)
    (membership : stored ∈ state.cluster.registry.shards.items) (name : stored.name = copy.name)
    (fresh : stored.resourceVersion = state.resourceVersion) :
    (state.persist stored).cluster.registry.shards.find? copy.name =
      some { copy with
        status := state.status, resourceVersion := (state.persist stored).resourceVersion } := by
  have agrees := current.agrees stored membership name fresh
  have same (version : Nat) :
      ({ stored with status := state.status, resourceVersion := version } : APIShard) =
        { copy with status := state.status, resourceVersion := version } := by
    rw [agrees]
  let updated := state.cluster.registry.updated stored state.status
  calc (state.persist stored).cluster.registry.shards.find? copy.name
      = (state.cluster.registry.shards.insert updated).find? updated.name := by
        rw [show updated.name = copy.name from name]
        rfl
    _ = some updated := Store.find?_insert_self _ _
    _ = _ := congrArg some (same _)

/-- The last write of a pass stores the copy with the status of the pass. -/
theorem reconcileServing_stored (tended : Tended copy state)
    (ran : exec (reconcileServing ctx copy) state = (.ok result, after)) :
    after.cluster.registry.shards.find? copy.name =
      some { copy with status := after.status, resourceVersion := after.resourceVersion } := by
  rcases reconcileServing_cases ctx copy state with
    ⟨failure, registered, first, served⟩ | ⟨registered, detected, first, second, rest⟩
  · rw [served, exec_setErrorAndRequeue] at ran
    cases ran
  · rcases rest with ⟨failure, checked, third, served⟩ |
      ⟨_, checked, cleaned, third, cleans, served⟩
    · rw [served] at ran
      cases ran
    · rw [served, exec_bind, exec_reportSuccess] at ran
      have calm := ((reconcileCRDConflicts_calm ctx copy).rel second).trans
        (((updateHealthStatus_calm ctx copy).rel third).trans cleans.calm)
      have marked : Tended copy (exec (setReconciled copy) cleaned).2 :=
        ((tended.working ((reconcileAPIServices_working ctx copy).rel first)).working
          calm.working).working (setReconciled_calm ctx copy cleaned).working
      rcases updateStatus_cases ctx copy .writeFinal (exec (setReconciled copy) cleaned).2 with
        ⟨failure, refused⟩ | ⟨stored, membership, name, fresh, accepted⟩
      · rw [refused] at ran
        cases ran
      · rw [accepted] at ran
        cases ran
        exact find?_persist (marked.request ctx .writeFinal).current membership name fresh

/-- What a pass without an error has stored in the end. -/
theorem reconcileCopy_stored (tended : Tended copy start)
    (ran : exec (reconcileCopy r ctx copy) start = (.ok result, after)) :
    after.cluster.registry.shards.find? copy.name =
      some { copy with status := after.status, resourceVersion := after.resourceVersion } := by
  obtain ⟨_, applied, resources, serving⟩ := exec_bind_eq_ok.mp ran
  have kept := ((tended_steady ctx copy).reconcileResources r
    (initializePhase_tended ctx copy)).rel resources tended
  exact reconcileServing_stored kept serving

/-- A pass that was not mistaken about its shard and returned no error worked on a copy of
it, or found it missing or being deleted and wrote no status. -/
theorem reconcile_ok {name : String}
    (truthful : ∀ failure, ctx.faults .getShard = some failure → failure.isNotFound = false)
    (ran : exec (reconcile r ctx name) state = (.ok result, after)) :
    let read := (state.edited ctx .getShard).cluster.registry
    (∃ copy start, Adopted ctx name state copy start ∧
      exec (reconcileCopy r ctx copy) start = (.ok result, after)) ∨
    (∀ shard, read.shards.find? name = some shard → shard.deleting = true) ∧
      read.Follows after.cluster.registry := by
  intro read
  rw [reconcile, exec_bind, exec_attempt] at ran
  cases found : read.shards.find? name with
  | none =>
      right
      constructor
      · intro _ isShard
        cases isShard
      rcases getShard_cases ctx name state with ⟨failure, answered⟩ | ⟨shard, isFound, _⟩
      · rw [answered] at ran
        dsimp only at ran
        split at ran
        · cases ran
          exact .refl _
        · cases ran
      · cases found.symm.trans isFound
  | some shard =>
      have answered : exec (getShard ctx name) state =
          (.ok shard, state.edited ctx .getShard) := by
        cases faults : ctx.faults .getShard with
        | some failure =>
            rw [getShard, exec_callAPI_some faults] at ran
            simp only [truthful failure faults] at ran
            cases ran
        | none =>
            rw [getShard, exec_callAPI_none faults, exec_bind, exec_get]
            dsimp only
            rw [found]
            rfl
      rw [answered] at ran
      dsimp only at ran
      by_cases deleting : shard.deleting = true
      · right
        rw [if_pos deleting] at ran
        constructor
        · intro other isOther
          cases isOther
          exact deleting
        · obtain ⟨_, _, deleted, returned⟩ := exec_bind_eq_ok.mp ran
          cases returned
          by_cases finalized : finalizerName ∈ shard.finalizers
          · have effect := reconcileDelete_effect ctx finalized (state.edited ctx .getShard)
            rw [deleted] at effect
            exact effect.1
          · rw [reconcileDelete, if_neg finalized] at deleted
            cases deleted
            exact .refl _
      · left
        rw [if_neg deleting] at ran
        rcases reconcileLive_cases r ctx name state found (Bool.eq_false_iff.mpr deleting) with
          ⟨failure, ended, fails, _⟩ | ⟨copy, start, adopted, adopts⟩
        · cases fails.symm.trans ran
        · exact ⟨copy, start, adopted, adopts.symm.trans ran⟩

end stages

end KubeShard.Apishard
