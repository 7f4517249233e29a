import KubeShard.Apishard.Clean
import KubeShard.Apishard.Cleanup
import KubeShard.Apishard.Outcome

/-!
# Passes that come to their last write

From its first APIService on, a pass that nobody disturbs comes to its last write and
so puts the list of its shard in line with its spec.  Disturbed it is by a failing
call, by an edit of its shard, and by an APIService the API server refuses.
-/

/-! ## Registration -/

namespace KubeShard.Aggregation

open Apishard Prog

section loops

variable {ctx : Schedule} {shard : APIShard} {state : State}

/-- An APIService of the shard does not stop the shard from applying others. -/
theorem accepts_insert {services : Store APIService.name} {service : APIService} {name : String}
    (own : service.controller = some shard.uid)
    (accepted : accepts shard (services.find? name) = true) :
    accepts shard ((services.insert service).find? name) = true := by
  by_cases same : name = service.name
  · rw [same, Store.find?_insert_self]
    cases foreign : service.foreign <;> simp [accepts, keptController, Option.filter, foreign, own]
  · rwa [Store.find?_insert_of_ne same]

theorem applyAPIService_returns {index : Nat} {version group : String} (caBundle : String)
    (noFault : ctx.faults (.applyAPIService index) = none) (valid : validVersion version = true)
    (accepted : accepts shard
      (state.cluster.apiServices.find? (apiServiceName version group)) = true) :
    Returns (applyAPIService ctx shard index caBundle version group) state := by
  have accepted : accepts shard ((state.edited ctx (.applyAPIService index)).cluster.apiServices.find?
    (buildAPIService shard caBundle version group).name) = true := accepted
  apply callAPI_returns noFault
  simp only [Returns, exec_bind, exec_get, valid, accepted, Bool.not_true, Bool.false_eq_true,
    if_false, exec_set]
  exact ⟨(), _, rfl⟩

theorem applyAPIServices_returns (caBundle : String)
    (noFault : ∀ index, ctx.faults (.applyAPIService index) = none)
    {pairs : List (String × String)} (valid : ∀ pair ∈ pairs, validVersion pair.1 = true)
    (accepted : ∀ pair ∈ pairs, accepts shard
      (state.cluster.apiServices.find? (apiServiceName pair.1 pair.2)) = true) (index : Nat) :
    Returns (applyAPIServices ctx shard caBundle index pairs) state := by
  induction pairs generalizing state index with
  | nil => exact .of_pure _
  | cons pair rest ih =>
      have first := applyAPIService_returns caBundle (noFault index)
        (valid pair List.mem_cons_self) (accepted pair List.mem_cons_self)
      apply (first.mapError _).bind
      intro _ after ran
      obtain ⟨service, _, own, inserted⟩ := applyAPIService_ok (exec_mapError_eq_ok.mp ran)
      apply ih fun later membership => valid later (List.mem_cons_of_mem _ membership)
      intro later membership
      rw [inserted]
      exact accepts_insert own (accepted later (List.mem_cons_of_mem _ membership))

theorem deleteAPIService_returns {request : Call} {name : String}
    (noFault : ctx.faults request = none) {service : APIService}
    (found : state.cluster.apiServices.find? name = some service) :
    Returns (deleteAPIService ctx shard request name) state := by
  have found : (state.edited ctx request).cluster.apiServices.find? name = some service := found
  apply callAPI_returns noFault
  simp only [Returns, exec_bind, exec_get, found, exec_set]
  exact ⟨(), _, rfl⟩

theorem deleteOrphanedAPIServices_returns
    (getNoFault : ∀ index, ctx.faults (.getOrphan index) = none)
    (deleteNoFault : ∀ index, ctx.faults (.deleteOrphan index) = none) (desired : List String)
    (index : Nat) (names : List String) :
    Returns (deleteOrphanedAPIServices ctx shard desired index names) state := by
  induction names generalizing state index with
  | nil => exact .of_pure _
  | cons name rest ih =>
      rw [deleteOrphanedAPIServices]
      split
      · exact ih _
      · apply Returns.attempt_bind
        intro answer after ran
        cases answer with
        | error failure =>
            have notFound : failure.isNotFound = true := by
              rw [getAPIService, exec_callAPI_none (getNoFault index)] at ran
              simp only [exec_bind, exec_get] at ran
              split at ran
              · cases ran
              · cases ran
                rfl
            simp only [notFound, if_true]
            exact ih _
        | ok existing =>
            obtain ⟨rfl, found, name⟩ := getAPIService_ok ran
            have deletes : Returns (deleteAPIService ctx shard (.deleteOrphan index) existing.name)
                (state.edited ctx (.getOrphan index)) :=
              deleteAPIService_returns (deleteNoFault index) (name.symm ▸ found)
            exact (deletes.mapError _).bind fun _ _ _ => ih _

end loops

end KubeShard.Aggregation

namespace KubeShard.Apishard

open Resources Prog Aggregation

/-! ## Health -/

section health

variable {ctx : Schedule} {shard : APIShard} {state : State}

theorem verifySecondaryAuth_returns : Returns (verifySecondaryAuth ctx shard) state := by
  apply Returns.attempt_bind
  intro pki _ _
  cases pki with
  | error failure => exact .of_pure _
  | ok pkiSecret =>
      apply Returns.attempt_bind
      intro admin _ _
      cases admin with
      | error failure => exact .of_pure _
      | ok adminSecret =>
          dsimp only
          split
          · exact .of_pure _
          · apply Returns.attempt_bind
            intro client _ _
            cases client with
            | error failure => exact .of_pure _
            | ok value =>
                apply Returns.attempt_bind
                intro listed _ _
                cases listed with
                | error failure => exact .of_pure _
                | ok value => exact .of_pure _

theorem reconcileSubCRs_returns : Returns (reconcileSubCRs ctx shard) state := by
  apply verifySecondaryAuth_returns.bind
  intro verified _ _
  cases verified with
  | false => exact .of_pure _
  | true =>
      apply Returns.attempt_bind
      intro _ _ _
      apply Returns.attempt_bind
      intro _ _ _
      apply Returns.attempt_bind
      exact fun _ _ _ => .of_pure _

theorem checkAPIServiceAvailability_returns (noFault : ctx.faults .listAPIServices = none) :
    Returns (checkAPIServiceAvailability ctx shard) state := by
  have listed (state : State) : Returns (checkAvailability ctx shard.uid) state := by
    unfold checkAvailability
    apply Returns.mapError
    apply callAPI_returns noFault
    exact Returns.of_get.bind fun _ _ _ => .of_pure _
  apply Returns.of_get.bind
  intro read _ _
  dsimp only
  split
  · exact (Returns.of_modify _).bind fun _ _ _ => .of_pure _
  · split
    · exact (Returns.of_modify _).bind fun _ _ _ => .of_pure _
    · apply ((listed _).mapError _).bind
      intro verdict _ _
      cases verdict with
      | some message =>
          apply (Returns.of_modify _).bind
          intro _ _ _
          exact (Returns.of_modify _).bind fun _ _ _ => .of_pure _
      | none => exact (Returns.of_modify _).bind fun _ _ _ => .of_pure _

theorem getObject_returns {request : Call} (noFault : ctx.faults request = none) {key : ObjectKey}
    (present : key ∈ state.cluster.objects.keys) : Returns (getObject ctx request key) state := by
  obtain ⟨object, membership, sameKey⟩ := Store.mem_keys.mp present
  have found : (state.edited ctx request).cluster.objects.find? key = some object :=
    Store.find?_eq_some.mpr ⟨membership, sameKey⟩
  apply callAPI_returns noFault
  simp only [Returns, exec_bind, exec_get, found]
  exact ⟨object, _, rfl⟩

/-- The workloads whose health is checked are there. -/
structure Deployed (shard : APIShard) (state : State) : Prop where
  kine : Component.kineDeployment.key shard ∈ state.cluster.objects.keys
  secondary : Component.secondaryDeployment.key shard ∈ state.cluster.objects.keys
  database : shard.spec.storage.type = .inClusterPostgreSQL →
    Component.postgreSQLStatefulSet.key shard ∈ state.cluster.objects.keys

theorem checkDeploymentHealth_returns (kine : ctx.faults .getKineDeployment = none)
    (secondary : ctx.faults .getSecondaryDeployment = none)
    (database : ctx.faults .getPostgreSQLStatefulSet = none) (deployed : Deployed shard state) :
    Returns (checkDeploymentHealth ctx shard) state := by
  apply (getObject_returns kine deployed.kine).bind
  intro kineDeploy first ran
  obtain ⟨_, _, rfl⟩ := getObject_ok ran
  have read : Returns (getObject ctx .getSecondaryDeployment
      (targetKey shard .deployment (secondaryDeploymentName shard)))
      (state.edited ctx .getKineDeployment) :=
    getObject_returns secondary deployed.secondary
  apply read.bind
  intro secondaryDeploy second ran
  obtain ⟨_, _, rfl⟩ := getObject_ok ran
  split
  · next inCluster =>
      have read : Returns (getObject ctx .getPostgreSQLStatefulSet
          (targetKey shard .statefulSet (postgreSQLStatefulSetName shard)))
          ((state.edited ctx .getKineDeployment).edited ctx .getSecondaryDeployment) :=
        getObject_returns database (deployed.database inCluster)
      exact read.bind fun _ _ _ => .of_pure _
  · exact .of_pure _

theorem updateHealthStatus_returns (kine : ctx.faults .getKineDeployment = none)
    (secondary : ctx.faults .getSecondaryDeployment = none)
    (database : ctx.faults .getPostgreSQLStatefulSet = none)
    (services : ctx.faults .listAPIServices = none) (deployed : Deployed shard state) :
    Returns (updateHealthStatus ctx shard) state := by
  apply (checkDeploymentHealth_returns kine secondary database deployed).bind
  intro healthy _ _
  cases healthy with
  | true =>
      apply (Returns.of_modify _).bind
      intro _ _ _
      apply (Returns.of_modify _).bind
      intro _ _ _
      apply reconcileSubCRs_returns.bind
      intro _ _ _
      apply (checkAPIServiceAvailability_returns services).bind
      intro result _ _
      split
      · exact .of_pure _
      · exact (Returns.of_modify _).bind fun _ _ _ => .of_pure _
  | false =>
      apply (Returns.of_modify _).bind
      intro _ _ _
      apply (Returns.of_modify _).bind
      intro _ _ _
      apply Returns.of_get.bind
      intro read _ _
      dsimp only
      split
      · exact (Returns.of_modify _).bind fun _ _ _ => .of_pure _
      · exact .of_pure _

end health

/-! ## The stored shard -/

/-- The stored shard has the resource version of the pass's copy. -/
def InStep (copy : APIShard) (state : State) : Prop :=
  ∃ stored, state.cluster.registry.shards.find? copy.name = some stored ∧
    stored.resourceVersion = state.resourceVersion

section inStep

variable {ctx : Schedule} {copy : APIShard} {before after : State}
  (others : ∀ edit, ctx.Late edit → edit.name ≠ copy.name)

include others

theorem InStep.edited (inStep : InStep copy before)
    (registry : before.cluster.registry.EditedBy ctx.Late after.cluster.registry)
    (resourceVersion : after.resourceVersion = before.resourceVersion) : InStep copy after := by
  obtain ⟨stored, found, fresh⟩ := inStep
  obtain ⟨edits, late, edited⟩ := registry
  refine ⟨stored, ?_, fresh.trans resourceVersion.symm⟩
  rw [edited, Registry.find?_edits_of_ne _ fun edit membership => others edit
    (late edit membership)]
  exact found

theorem InStep.working (inStep : InStep copy before) (working : Working ctx before after) :
    InStep copy after :=
  inStep.edited others working.registry working.resourceVersion

theorem updateStatus_inStep {request : Call} (late : request.late = true) :
    Respects (.keeps (InStep copy)) (updateStatus ctx request copy) := by
  intro state inStep
  have edited : InStep copy (state.edited ctx request) :=
    inStep.edited others (editedBy_late state late) rfl
  rcases updateStatus_cases ctx copy request state with ⟨failure, ran⟩ | ⟨stored, _, name, _, ran⟩
  · rw [ran]
    exact edited
  · rw [ran]
    refine ⟨(state.edited ctx request).cluster.registry.updated stored state.status, ?_, rfl⟩
    rw [← name]
    exact Store.find?_insert_self _ _

theorem inStep_steady : Steady ctx copy (InStep copy) where
  quiet := fun _ _ quiet inStep => inStep.working others quiet.toCalm.working
  report := by
    intro α failure state inStep
    rw [exec_setErrorAndRequeue]
    exact updateStatus_inStep others rfl _
      (inStep.working others (setError_calm ctx copy failure state).working)

theorem initializePhase_inStep :
    Respects (.keeps (InStep copy)) (initializePhase ctx copy) := by
  intro state inStep
  rw [exec_initializePhase]
  split
  · exact updateStatus_inStep others rfl _ inStep
  · exact inStep

end inStep

/-! ## Undisturbed passes -/

/-- The calls that a pass makes after its first APIService and whose failure ends it. -/
def Call.serving : Call → Bool
  | .applyAPIService _ | .getOrphan _ | .deleteOrphan _ | .getKineDeployment
  | .getSecondaryDeployment | .getPostgreSQLStatefulSet | .listAPIServices | .writeFinal => true
  | _ => false

/-- Nothing comes between the APIServices of a pass and its last write. -/
structure Undisturbed (ctx : Schedule) (copy : APIShard) (state : State) : Prop where
  edits : ∀ edit, ctx.Late edit → edit.name ≠ copy.name
  faults : ∀ request, request.serving = true → ctx.faults request = none
  valid : ∀ pair ∈ versionedGroups copy, validVersion pair.1 = true
  accepted : ∀ pair ∈ versionedGroups copy, accepts copy
    (state.cluster.apiServices.find? (apiServiceName pair.1 pair.2)) = true

section undisturbed

variable {ctx : Schedule} {copy : APIShard} {start state after : State}

theorem Undisturbed.of_services (undisturbed : Undisturbed ctx copy start)
    (services : state.cluster.apiServices = start.cluster.apiServices) :
    Undisturbed ctx copy state :=
  ⟨undisturbed.edits, undisturbed.faults, undisturbed.valid, by
    rw [services]
    exact undisturbed.accepted⟩

/-- An undisturbed registration returns, unless it fails before its first APIService. -/
theorem Undisturbed.registers (undisturbed : Undisturbed ctx copy state) {failure : ApiError}
    (ran : exec (reconcileAPIServices ctx copy) state = (.error failure, after)) :
    after = state.edited ctx .getTLSSecret := by
  have read : Undisturbed ctx copy (state.edited ctx .getTLSSecret) := undisturbed.of_services rfl
  have returns (caBundle : String) (previous : List String) :
      Returns (Aggregation.reconcile ctx copy caBundle previous)
        (state.edited ctx .getTLSSecret) := by
    apply (applyAPIServices_returns caBundle (fun index => read.faults _ rfl) read.valid
      read.accepted 0).bind
    intro _ _ _
    apply (deleteOrphanedAPIServices_returns (fun index => read.faults _ rfl)
      (fun index => read.faults _ rfl) _ 0 previous).bind
    exact fun _ _ _ => .of_pure _
  rcases reconcileAPIServices_cases ctx copy state with ⟨refused, failed⟩ | ⟨caBundle, cases⟩
  · rw [failed] at ran
    cases ran
    rfl
  · obtain ⟨names, last, returned⟩ := returns caBundle state.status.registeredAPIServices
    rcases cases with ⟨refused, last, failed, _⟩ | ⟨last, _, succeeded⟩
    · cases failed.symm.trans returned
    · cases succeeded.symm.trans ran

theorem updateStatus_present (ctx : Schedule) (request : Call) (copy : APIShard) :
    Respects (.keeps State.Present) (updateStatus ctx request copy) := by
  intro state present
  rcases updateStatus_cases ctx copy request state with ⟨failure, ran⟩ | ⟨stored, _, _, _, ran⟩
  · rw [ran]
    exact present
  · rw [ran]
    exact present

theorem present_steady (ctx : Schedule) (copy : APIShard) : Steady ctx copy State.Present where
  quiet := fun _ _ quiet => quiet.present
  report := by
    intro α failure state present
    rw [exec_setErrorAndRequeue]
    exact updateStatus_present ctx _ copy _ ((setError_calm ctx copy failure state).present present)

theorem initializePhase_present (ctx : Schedule) (copy : APIShard) :
    Respects (.keeps State.Present) (initializePhase ctx copy) := by
  intro state present
  rw [exec_initializePhase]
  split
  · exact updateStatus_present ctx _ copy _ present
  · exact present

/-- When the objects of a pass are applied, the workloads are there. -/
theorem deployed_of_resources {r : Reconciler} (tracked : start.tracked = [])
    (ran : exec (reconcileResources r ctx copy) start = (.ok (), after)) :
    Deployed copy after := by
  have present : after.Present := by
    apply ((present_steady ctx copy).reconcileResources r
      (initializePhase_present ctx copy)).rel ran
    intro key membership
    rw [tracked] at membership
    cases membership
  have applied {component : Component}
      (inStep : component ∈ stepComponents r ctx copy start.cluster (step component)) :
      component.key copy ∈ after.cluster.objects.keys := by
    apply present
    rw [(reconcileResources_ok ran).1]
    exact List.mem_append_right _ (List.mem_map_of_mem (mem_appliedComponents.mpr inStep))
  refine ⟨applied ?_, applied ?_, fun inCluster => applied ?_⟩
  · simp [step, stepComponents, kineComponents]
  · simp [step, stepComponents, secondaryComponents]
  · simp [step, stepComponents, storageComponents, inCluster]

theorem Deployed.of_untouched (deployed : Deployed copy state) (applied : Applied [] state after) :
    Deployed copy after := by
  have stays {component : Component} (own : component.kind.shared = false)
      (present : component.key copy ∈ state.cluster.objects.keys) :
      component.key copy ∈ after.cluster.objects.keys := by
    have same := applied.objects (component.key copy) List.not_mem_nil own
    by_contra missing
    rw [Store.find?_eq_none.mpr missing] at same
    exact Store.find?_eq_none.mp same.symm present
  exact ⟨stays rfl deployed.kine, stays rfl deployed.secondary,
    fun inCluster => stays rfl (deployed.database inCluster)⟩

/-- The last write succeeds when the copy is in step. -/
theorem reportSuccess_returns (others : ∀ edit, ctx.Late edit → edit.name ≠ copy.name)
    (noFault : ctx.faults .writeFinal = none) (inStep : InStep copy state) :
    Returns (reportSuccess ctx copy) state := by
  have marked := inStep.working others (setReconciled_calm ctx copy state).working
  have edited : InStep copy ((exec (setReconciled copy) state).2.edited ctx .writeFinal) :=
    marked.edited others (editedBy_late _ rfl) rfl
  obtain ⟨stored, found, fresh⟩ := edited
  rw [Returns, exec_reportSuccess]
  exact ⟨(), _, exec_updateStatus noFault found fresh⟩

/-- An undisturbed pass comes to its last write, unless it ends before its first
APIService. -/
theorem reconcileServing_undisturbed (base : copy ∈ start.cluster.registry.shards.items)
    (unserved : Unserved copy start state) (inStep : InStep copy state)
    (deployed : Deployed copy state) (undisturbed : Undisturbed ctx copy start) :
    let after := (exec (reconcileServing ctx copy) state).2
    Unserved copy start after ∨ Recorded ctx copy start after := by
  have calmly := undisturbed.of_services unserved.same
  have others := undisturbed.edits
  rcases reconcileServing_cases ctx copy state with
    ⟨failure, registered, first, ran⟩ | ⟨registered, detected, first, second, rest⟩
  · left
    rw [ran, calmly.registers first]
    exact (unserved_steady base ctx).report failure _
      ⟨unserved.toServing.edited ctx .getTLSSecret, unserved.same⟩
  · have toHealth : Applied [] state detected :=
      ((reconcileAPIServices_untouched ctx copy).rel first).trans
        ((reconcileCRDConflicts_observing ctx copy).rel second).untouched
    obtain ⟨serving, achieved⟩ := unserved.registered first
    have detects := (reconcileCRDConflicts_calm ctx copy).rel second
    have healthy := updateHealthStatus_returns (undisturbed.faults _ rfl)
      (undisturbed.faults _ rfl) (undisturbed.faults _ rfl) (undisturbed.faults _ rfl)
      (deployed.of_untouched toHealth)
    obtain ⟨verdict, after, healthRan⟩ := healthy
    rcases rest with
      ⟨failure, checked, third, _⟩ | ⟨result, checked, cleaned, third, cleans, ran⟩
    · cases third.symm.trans healthRan
    · right
      have calm := detects.trans (((updateHealthStatus_calm ctx copy).rel third).trans cleans.calm)
      have cleanedStep : InStep copy cleaned :=
        (inStep.working others ((reconcileAPIServices_working ctx copy).rel first)).working others
          calm.working
      obtain ⟨_, last, written⟩ :=
        reportSuccess_returns others (undisturbed.faults _ rfl) cleanedStep
      obtain ⟨_, outcome⟩ := (serving.calm calm).reportSuccess
        (achieved.of_services calm.apiServices) result
      rw [ran]
      rcases outcome with ⟨failure, failed, _⟩ | recorded
      · rw [exec_bind_ok written] at failed
        cases failed
      · exact recorded

theorem Adopted.undisturbed (r : Reconciler) {name : String}
    (adopted : Adopted ctx name state copy start) (wf : state.cluster.registry.Wf)
    (undisturbed : Undisturbed ctx copy start) :
    let after := (exec (reconcileCopy r ctx copy) start).2
    Unserved copy start after ∨ Recorded ctx copy start after := by
  have base := adopted.stored
  have others := undisturbed.edits
  have unserved := (unserved_steady base ctx).reconcileResources r
    (initializePhase_unserved base ctx) start (adopted.unserved wf)
  have inStep := (inStep_steady others).reconcileResources r (initializePhase_inStep others) start
    ⟨copy, Store.find?_eq_some.mpr ⟨base, rfl⟩, adopted.resourceVersion.symm⟩
  rcases reconcileCopy_cases r ctx copy start with
    ⟨failure, after, first, ran⟩ | ⟨after, first, ran⟩
  · rw [first] at unserved
    rw [ran]
    exact .inl unserved
  · have deployed := deployed_of_resources adopted.tracked first
    rw [first] at unserved inStep
    rw [ran]
    exact reconcileServing_undisturbed base unserved inStep deployed undisturbed

end undisturbed

end KubeShard.Apishard
