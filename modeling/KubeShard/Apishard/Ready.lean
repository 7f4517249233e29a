import KubeShard.Apishard.Status

/-!
# The gate before Ready

A shard whose groups have CRDs on the primary must not be Ready before these CRDs
are on its secondary and its APIServices are available.  The gate reads the
CRDConflict condition.  A pass that lists the CRDs brings the condition up to date;
a pass whose listing fails goes by what an earlier pass has left.
-/

namespace KubeShard.Apishard

open Prog Aggregation

/-! ## Copying CRDs -/

section sync

variable {ctx : Schedule} {shard : APIShard} {state after : State}

theorem getCRD_ok {index : Nat} {name : String} {crd : CRD}
    (ran : exec (getCRD ctx index name) state = (.ok crd, after)) :
    state.cluster.crds.find? name = some crd := by
  obtain ⟨_, ran⟩ := exec_callAPI_ok.mp ran
  simp only [exec_bind, exec_get] at ran
  split at ran
  · next found =>
      cases ran
      exact found
  · cases ran

theorem applySecondaryCRD_ok {index : Nat} {crd : CRD}
    (ran : exec (applySecondaryCRD ctx shard index crd) state = (.ok (), after)) :
    .appliedCRD shard.uid crd.uid ∈ after.trace := by
  obtain ⟨_, ran⟩ := exec_callAPI_ok.mp ran
  cases ran
  exact List.mem_append_right _ List.mem_cons_self

/-- A loop without errors has applied every CRD it was given. -/
theorem syncCRDs_ok {index : Nat} {names : List String}
    (ran : exec (syncCRDs ctx shard index names) state = (.ok [], after)) :
    ∀ name ∈ names, ∃ crd, state.cluster.crds.find? name = some crd ∧
      .appliedCRD shard.uid crd.uid ∈ after.trace := by
  induction names generalizing index state with
  | nil => simp
  | cons head rest ih =>
      obtain ⟨answer, read, first, ran⟩ := exec_bind_eq_ok.mp ran
      have readQuiet := (getCRD_hushed ctx index head).attempt.rel first
      rw [exec_attempt_eq_ok] at first
      cases answer with
      | error failure =>
          obtain ⟨errors, _, _, returned⟩ := exec_bind_eq_ok.mp ran
          cases returned
      | ok crd =>
          obtain ⟨outcome, applied, second, ran⟩ := exec_bind_eq_ok.mp ran
          obtain ⟨errors, last, third, returned⟩ := exec_bind_eq_ok.mp ran
          have appliedQuiet := (applySecondaryCRD_hushed ctx shard index crd).attempt.rel second
          rw [exec_attempt_eq_ok] at second
          cases outcome with
          | error failure => cases returned
          | ok value =>
              cases returned
              intro name membership
              rcases List.mem_cons.mp membership with rfl | inRest
              · refine ⟨crd, getCRD_ok first, ?_⟩
                exact ((syncCRDs_hushed ctx shard _ rest).rel third).logged.grows.subset
                  (applySecondaryCRD_ok second)
              · obtain ⟨other, found, logged⟩ := ih third name inRest
                refine ⟨other, ?_, logged⟩
                rw [← readQuiet.crds, ← appliedQuiet.crds]
                exact found

theorem syncCRDsToSecondary_ok {names : List String}
    (ran : exec (syncCRDsToSecondary ctx shard names) state = (.ok (), after)) :
    ∀ name ∈ names, ∃ crd, state.cluster.crds.find? name = some crd ∧
      .appliedCRD shard.uid crd.uid ∈ after.trace := by
  rw [syncCRDsToSecondary] at ran
  split at ran
  · cases ran
  · obtain ⟨_, first, pki, ran⟩ := exec_bind_eq_ok.mp ran
    obtain ⟨_, second, admin, ran⟩ := exec_bind_eq_ok.mp ran
    obtain ⟨_, third, client, ran⟩ := exec_bind_eq_ok.mp ran
    obtain ⟨errors, last, synced, ran⟩ := exec_bind_eq_ok.mp ran
    have still : Still ctx state third := (((getObject_still rfl _).mapError _).rel pki).trans
      ((((getObject_still rfl _).mapError _).rel admin).trans
        (((still_of_hushed (callAPI_hushed rfl (.of_pure _))).mapError _).rel client))
    cases errors with
    | cons failure rest => cases ran
    | nil =>
        cases ran
        rw [← still.crds]
        exact syncCRDs_ok synced

end sync

/-! ## Detecting CRDs -/

section detect

variable {ctx : Schedule} {shard : APIShard} {state after : State}

theorem conflictIs_set (shard : APIShard) (reason message : String) (state : State) :
    conflictIs reason
      (exec (setCondition shard .crdConflict .true reason message) state).2.status = true := by
  obtain ⟨time, found⟩ := findStatusCondition_set_self state.cluster.clock
    ⟨.crdConflict, .true, reason, message, shard.generation⟩ state.status.conditions
  simp [conflictIs, setCondition, found, NewCondition.stamp]

/-- A failed listing leaves the condition as it is. -/
theorem reconcileCRDConflicts_unlisted {failure : ApiError}
    (faulty : ctx.faults .listCRDs = some failure)
    (ran : exec (reconcileCRDConflicts ctx shard) state = (.ok (), after)) :
    after = state.edited ctx .listCRDs := by
  simp only [reconcileCRDConflicts, detectCRDConflicts, exec_bind, exec_attempt, exec_mapError,
    exec_callAPI_some faulty] at ran
  cases ran
  rfl

/-- A listing that answers names the conflicting CRDs. -/
theorem detectCRDConflicts_ok (clean : ctx.faults .listCRDs = none) :
    exec (detectCRDConflicts ctx shard) state =
      (.ok ((conflicting shard state.cluster.crds.items).map CRD.name),
        state.edited ctx .listCRDs) := by
  simp only [detectCRDConflicts, exec_mapError, exec_callAPI_none clean]
  rfl

/-- After a listing, the copy has failed and the condition says so, or all conflicting
CRDs were applied and the condition says that. -/
theorem reconcileCRDConflicts_listed (clean : ctx.faults .listCRDs = none)
    (ran : exec (reconcileCRDConflicts ctx shard) state = (.ok (), after)) :
    conflictIs "CRDSyncFailed" after.status = true ∨
      ∀ crd ∈ conflicting shard state.cluster.crds.items,
        .appliedCRD shard.uid crd.uid ∈ after.trace ∧
          conflictIs "CRDsSyncedToSecondary" after.status = true := by
  have names : ∀ crd ∈ conflicting shard state.cluster.crds.items,
      crd.name ∈ (conflicting shard state.cluster.crds.items).map CRD.name :=
    fun crd membership => List.mem_map_of_mem membership
  simp only [reconcileCRDConflicts, exec_bind, exec_attempt, detectCRDConflicts_ok clean] at ran
  generalize (conflicting shard state.cluster.crds.items).map CRD.name = detected at names ran
  cases detected with
  | nil => exact .inr fun crd membership => absurd (names crd membership) List.not_mem_nil
  | cons name rest =>
      simp only [exec_bind, exec_attempt] at ran
      cases synced : exec (syncCRDsToSecondary ctx shard (name :: rest))
          (state.edited ctx .listCRDs) with
      | mk answer copied =>
          rw [synced] at ran
          cases answer with
          | error failure =>
              left
              cases ran
              exact conflictIs_set shard "CRDSyncFailed" _ copied
          | ok value =>
              right
              cases ran
              intro crd membership
              obtain ⟨applied, found, logged⟩ := syncCRDsToSecondary_ok synced crd.name
                (names crd membership)
              have stored := (List.mem_filter.mp membership).1
              have same : applied = crd :=
                Store.eq_of_key_eq (Store.find?_eq_some.mp found).1 stored
                  (Store.find?_eq_some.mp found).2
              rw [same] at logged
              exact ⟨logged, conflictIs_set shard "CRDsSyncedToSecondary" _ copied⟩

end detect

/-! ## Availability -/

/-- When the check passes, every APIService of the owner is available. -/
theorem available_of_checkOwned {uid : UID} {services : List APIService} {service : APIService}
    (passed : checkOwned uid services = none) (membership : service ∈ services)
    (owned : service.controller = some uid) :
    ∃ message, service.available = some (.true, message) := by
  have inOwned : service ∈ services.filter fun service => service.controller = some uid :=
    List.mem_filter.mpr ⟨membership, by simpa using owned⟩
  simp only [checkOwned] at passed
  split at passed
  · cases passed
  · have verdict := List.findSome?_eq_none_iff.mp passed service inOwned
    unfold unavailable at verdict
    split at verdict
    · cases verdict
    · next message isTrue => exact ⟨message, isTrue⟩
    · cases verdict

/-! ## The gate in a pass -/

/-- The gate: the CRDs for the shard's groups have been applied to its secondary, and
if there are any, all APIServices of its spec are available. -/
structure ReadyGate (shard : APIShard) (crds : List CRD) (after : State) : Prop where
  applied : ∀ crd ∈ conflicting shard crds, .appliedCRD shard.uid crd.uid ∈ after.trace
  available : conflicting shard crds ≠ [] → ∀ name ∈ desiredAPIServiceNames shard,
    ∃ service message, after.cluster.apiServices.find? name = some service ∧
      service.available = some (.true, message)

/-- Events that do not persist a Ready phase. -/
def Event.unready : Event → Bool
  | .persisted shard => shard.status.phase ≠ .ready
  | _ => true

theorem Event.unready_of_aside (event : Event) (aside : event.aside = true) :
    event.unready = true := by
  cases event <;> first | rfl | contradiction

/-- Every Ready phase persisted since a state has passed the gate. -/
def Gated (before after : State) : Prop :=
  ∀ shard, .persisted shard ∈ after.trace.drop before.trace.length →
    shard.status.phase = .ready → ReadyGate shard before.cluster.crds.items after

/-- The invariant of a pass before it has persisted a Ready phase. -/
structure Gating (copy : APIShard) (before state : State) : Prop where
  tended : Tended copy state
  crds : state.cluster.crds = before.cluster.crds
  logged : before.Logged Event.unready state

namespace Gating

variable {ctx : Schedule} {copy : APIShard} {before state after : State}

theorem gated (gating : Gating copy before state) : Gated before state := by
  obtain ⟨events, trace, unready⟩ := gating.logged
  intro shard membership ready
  rw [trace, List.drop_left] at membership
  have notReady := unready _ membership
  simp only [Event.unready, ready, ne_eq, not_true_eq_false, decide_false] at notReady
  contradiction

theorem working (gating : Gating copy before state) (working : Working ctx state after) :
    Gating copy before after where
  tended := gating.tended.working working
  crds := working.crds.trans gating.crds
  logged := gating.logged.trans (working.logged.mono Event.unready_of_aside)

/-- Writing a status with another phase. -/
theorem updateStatus (gating : Gating copy before state)
    (unready : state.status.phase ≠ .ready) (ctx : Schedule) (request : Call) :
    Gating copy before (exec (updateStatus ctx request copy) state).2 := by
  refine ⟨updateStatus_tended ctx request copy state gating.tended, ?_, ?_⟩
  · rcases updateStatus_cases ctx copy request state with ⟨failure, ran⟩ | ⟨stored, _, _, _, ran⟩
    · rw [ran]
      exact gating.crds
    · rw [ran]
      exact gating.crds
  · apply gating.logged.trans
    rcases updateStatus_cases ctx copy request state with ⟨failure, ran⟩ | ⟨stored, _, _, _, ran⟩
    · rw [ran]
      exact .of_eq rfl
    · rw [ran]
      apply State.Logged.of_one rfl
      exact decide_eq_true unready

theorem setErrorAndRequeue {α : Type} (gating : Gating copy before state) (ctx : Schedule)
    (failure : ApiError) :
    Gating copy before (exec (setErrorAndRequeue ctx copy failure : Pass α) state).2 := by
  rw [exec_setErrorAndRequeue]
  exact (gating.working (setError_calm ctx copy failure state).working).updateStatus nofun ctx _

end Gating

/-- The invariant of a pass before it looks at CRDs: its condition is the stored
one. -/
structure Undetected (copy : APIShard) (before state : State) : Prop
    extends Gating copy before state where
  conflict : ∀ reason, conflictIs reason state.status = conflictIs reason copy.status

variable {copy : APIShard} {before : State}

theorem undetected_steady (ctx : Schedule) : Steady ctx copy (Undetected copy before) where
  quiet := by
    intro state after quiet undetected
    refine ⟨undetected.toGating.working quiet.toCalm.working, ?_⟩
    exact fun reason => (quiet.conflictIs reason).trans (undetected.conflict reason)
  report := by
    intro α failure state undetected
    refine ⟨undetected.toGating.setErrorAndRequeue ctx failure, ?_⟩
    intro reason
    rw [exec_setErrorAndRequeue, updateStatus_status]
    have same := setCondition_others copy .reconciled .false "ReconcileError" failure.message
      { state with status := { state.status with
        phase := .error, message := failure.message, observedGeneration := copy.generation } }
    exact (same.conflictIs (by decide) reason).trans (undetected.conflict reason)

theorem initializePhase_undetected (ctx : Schedule) :
    Respects (.keeps (Undetected copy before)) (initializePhase ctx copy) := by
  intro state undetected
  rw [exec_initializePhase]
  split
  · have begun : Gating copy before { state with status.phase := .provisioning } :=
      ⟨⟨undetected.tended.wf, undetected.tended.current⟩, undetected.crds, undetected.logged⟩
    refine ⟨begun.updateStatus nofun ctx _, ?_⟩
    intro reason
    rw [updateStatus_status]
    exact undetected.conflict reason
  · exact undetected

/-- The pass lists the CRDs, or all there are have been applied before and the stored
condition says so. -/
def Known (ctx : Schedule) (copy : APIShard) (before : State) : Prop :=
  ctx.faults .listCRDs = none ∨
    ∀ crd ∈ conflicting copy before.cluster.crds.items,
      .appliedCRD copy.uid crd.uid ∈ before.trace ∧
        conflictIs "CRDsSyncedToSecondary" copy.status = true

/-- With the CRDs known, the condition is up to date before the health check. -/
theorem reconcileCRDConflicts_known {ctx : Schedule} {registered detected : State}
    (known : Known ctx copy before) (undetected : Undetected copy before registered)
    (ran : exec (reconcileCRDConflicts ctx copy) registered = (.ok (), detected)) :
    conflictIs "CRDSyncFailed" detected.status = true ∨
      ∀ crd ∈ conflicting copy before.cluster.crds.items,
        .appliedCRD copy.uid crd.uid ∈ detected.trace ∧
          conflictIs "CRDsSyncedToSecondary" detected.status = true := by
  cases faults : ctx.faults .listCRDs with
  | none =>
      rw [← undetected.crds]
      exact reconcileCRDConflicts_listed faults ran
  | some failure =>
      rcases known with clean | past
      · exact absurd (faults.symm.trans clean) nofun
      · right
        rw [reconcileCRDConflicts_unlisted faults ran]
        intro crd membership
        obtain ⟨applied, synced⟩ := past crd membership
        exact ⟨undetected.logged.grows.subset applied, (undetected.conflict _).trans synced⟩

theorem ReadyGate.mono {shard other : APIShard} {crds : List CRD} {state after : State}
    (gate : ReadyGate shard crds state) (uid : other.uid = shard.uid)
    (spec : other.spec = shard.spec) (grows : state.trace <+: after.trace)
    (services : after.cluster.apiServices = state.cluster.apiServices) :
    ReadyGate other crds after := by
  refine ⟨?_, ?_⟩
  · rw [conflicting_congr spec, uid]
    exact fun crd membership => grows.subset (gate.applied crd membership)
  · rw [conflicting_congr spec, desiredAPIServiceNames_congr spec, services]
    exact gate.available

/-- The last write is past the gate when the pass is. -/
theorem reportSuccess_gated {ctx : Schedule} {state : State} (result : Result)
    (gating : Gating copy before state)
    (gate : state.status.phase = .ready → ReadyGate copy before.cluster.crds.items state) :
    Gated before (exec (do reportSuccess ctx copy; pure result) state).2 := by
  have marked := gating.working (setReconciled_calm ctx copy state).working
  have trace : (exec (setReconciled copy) state).2.trace = state.trace := rfl
  have phase : (exec (setReconciled copy) state).2.status.phase = state.status.phase := rfl
  have services : (exec (setReconciled copy) state).2.cluster.apiServices =
    state.cluster.apiServices := rfl
  simp only [exec_bind, exec_reportSuccess]
  generalize (exec (setReconciled copy) state).2 = report at marked trace phase services ⊢
  rcases updateStatus_cases ctx copy .writeFinal report with
    ⟨failure, ran⟩ | ⟨stored, membership, name, fresh, ran⟩
  · rw [ran]
    have edited : Gating copy before (report.edited ctx .writeFinal) :=
      ⟨marked.tended.request ctx _, marked.crds, marked.logged⟩
    exact edited.gated
  · rw [ran]
    have same := (marked.tended.request ctx .writeFinal).current.agrees stored membership name fresh
    intro shard inTrace ready
    obtain ⟨events, appended, unready⟩ := marked.logged
    have last : ((report.edited ctx .writeFinal).persist stored).trace = before.trace ++ (events ++
        [.persisted ((report.edited ctx .writeFinal).cluster.registry.updated stored
          report.status)]) := by
      rw [← List.append_assoc, ← appended]
      rfl
    simp only [exec_pure, last, List.drop_left] at inTrace
    rcases List.mem_append.mp inTrace with earlier | new
    · have notReady := unready _ earlier
      simp only [Event.unready, ready, ne_eq, not_true_eq_false, decide_false] at notReady
      contradiction
    · cases List.mem_singleton.mp new
      refine (gate (phase.symm.trans ready)).mono ?_ ?_ ?_ services
      · rw [same]
        rfl
      · rw [same]
        rfl
      · rw [← trace]
        exact List.prefix_append _ _

theorem undetected_registered {ctx : Schedule} {state registered : State}
    (undetected : Undetected copy before state)
    (ran : exec (reconcileAPIServices ctx copy) state = (.ok (), registered)) :
    Undetected copy before registered := by
  refine ⟨undetected.toGating.working ((reconcileAPIServices_working ctx copy).rel ran), ?_⟩
  obtain ⟨middle, registering, _, _, rfl⟩ := reconcileAPIServices_ok ran
  intro reason
  have same : conflictIs reason middle.status = conflictIs reason state.status := by
    rw [registering.status]
  exact same.trans (undetected.conflict reason)

/-- What the health check has seen when it lets the shard become ready. -/
theorem readyGate_of_passed {ctx : Schedule} {state registered detected checked : State}
    (known : Known ctx copy before) (undetected : Undetected copy before state)
    (first : exec (reconcileAPIServices ctx copy) state = (.ok (), registered))
    (second : exec (reconcileCRDConflicts ctx copy) registered = (.ok (), detected))
    (passed : Passed copy detected checked) :
    ReadyGate copy before.cluster.crds.items detected := by
  have unfailed := (passed.conflict "CRDSyncFailed").symm.trans passed.healthy.synced
  rcases reconcileCRDConflicts_known known (undetected_registered undetected first) second with
    failed | synced
  · exact absurd (failed.symm.trans unfailed) nofun
  · refine ⟨fun crd membership => (synced crd membership).1, ?_⟩
    intro some name wanted
    obtain ⟨crd, membership⟩ := List.exists_mem_of_ne_nil _ some
    have checkedOwned := passed.available (synced crd membership).2
    obtain ⟨middle, _, held, _, rfl⟩ := reconcileAPIServices_ok first
    obtain ⟨service, found, controller⟩ := held name wanted
    have services := ((reconcileCRDConflicts_calm ctx copy).rel second).apiServices
    rw [services] at checkedOwned
    obtain ⟨message, available⟩ := available_of_checkOwned checkedOwned
      (Store.find?_eq_some.mp found).1 controller
    exact ⟨service, message, services ▸ found, available⟩

/-- From the registration on, a pass persists Ready only past the gate. -/
theorem reconcileServing_gated {ctx : Schedule} {state : State} (known : Known ctx copy before)
    (undetected : Undetected copy before state) :
    Gated before (exec (reconcileServing ctx copy) state).2 := by
  have registers := reconcileAPIServices_working ctx copy
  rcases reconcileServing_cases ctx copy state with
    ⟨failure, registered, first, ran⟩ | ⟨registered, detected, first, second, rest⟩
  · rw [ran]
    exact ((undetected.toGating.working (registers.rel first)).setErrorAndRequeue ctx failure).gated
  · have detects := (reconcileCRDConflicts_calm ctx copy).rel second
    have toHealth := (undetected.toGating.working (registers.rel first)).working detects.working
    rcases rest with
      ⟨failure, checked, third, ran⟩ | ⟨result, checked, cleaned, third, cleans, ran⟩
    · rw [ran]
      exact (toHealth.working ((updateHealthStatus_calm ctx copy).rel third).working).gated
    · rw [ran]
      have checks := (updateHealthStatus_calm ctx copy).rel third
      have toEnd := (toHealth.working checks.working).working cleans.calm.working
      apply reportSuccess_gated result toEnd
      intro ready
      rw [cleans.status] at ready
      rcases updateHealthStatus_ok third with ⟨_, provisioning⟩ | ⟨_, _, passed⟩
      · exact absurd (provisioning.symm.trans ready) nofun
      · apply (readyGate_of_passed known undetected first second passed).mono rfl rfl
        · exact checks.logged.grows.trans cleans.calm.logged.grows
        · exact cleans.calm.apiServices.trans checks.apiServices

/-- A pass on a copy of a live shard. -/
theorem reconcileCopy_gated (r : Reconciler) {ctx : Schedule} {state : State}
    (known : Known ctx copy before) (undetected : Undetected copy before state) :
    Gated before (exec (reconcileCopy r ctx copy) state).2 := by
  have kept := (undetected_steady ctx).reconcileResources r (initializePhase_undetected ctx)
    state undetected
  rcases reconcileCopy_cases r ctx copy state with ⟨failure, after, first, ran⟩ |
    ⟨after, first, ran⟩
  · rw [first] at kept
    rw [ran]
    exact kept.toGating.gated
  · rw [first] at kept
    rw [ran]
    exact reconcileServing_gated known kept

/-- A pass whose listing fails has to go by the stored condition of the shard. -/
def CRDsKnown (ctx : Schedule) (name : String) (state : State) : Prop :=
  ∀ copy, state.cluster.registry.copy ctx name = some copy → Known ctx copy state

theorem gated_of_unpersisted {after : State} (logged : before.Logged Event.unpersisted after) :
    Gated before after := by
  obtain ⟨events, trace, unpersisted⟩ := logged
  intro shard membership
  rw [trace, List.drop_left] at membership
  exact absurd (unpersisted _ membership) nofun

theorem reconcile_gated (r : Reconciler) {ctx : Schedule} {name : String}
    (wf : before.cluster.registry.Wf) (known : CRDsKnown ctx name before) :
    Gated before (exec (reconcile r ctx name) before).2 := by
  rcases reconcile_cases r ctx name before with
    ⟨answer, after, ran, ended, _⟩ | ⟨shard, _, _, finalized, _, ran⟩ |
    ⟨copy, start, adopted, ran⟩
  · rw [ran]
    exact gated_of_unpersisted (.of_eq (by rw [ended.same]))
  · rw [ran]
    have logged : before.Logged Event.unpersisted _ :=
      (reconcileDelete_effect ctx finalized (before.edited ctx .getShard)).2.2
    exact gated_of_unpersisted logged
  · rw [ran]
    obtain ⟨stored, isCopy, uid, spec, status⟩ := adopted.base
    have knownCopy : Known ctx copy before := by
      rw [Known, conflicting_congr spec, uid, status]
      exact known stored isCopy
    apply reconcileCopy_gated r knownCopy
    refine ⟨⟨adopted.tended wf, ?_, .of_eq adopted.trace⟩, ?_⟩
    · rw [adopted.cluster]
    · rw [adopted.status]
      exact fun _ => rfl

/-- In every run, a pass that knows the CRDs persists Ready only past the gate. -/
theorem run_ready_gated {start : State} (initial : Initial start) (steps : List Step)
    (r : Reconciler) (name : String) (ctx : Schedule)
    (known : CRDsKnown ctx name (run State.step start steps)) :
    let before := run State.step start steps
    Gated before (before.step (.pass r name ctx)) :=
  reconcile_gated r (run_wf initial steps) known

/-- A run after which one shard is Ready and a CRD for its group has appeared. -/
def crdAppeared : State :=
  run State.step { cluster := .bare } [
    .edit (.create "a" (plainSpec [⟨"g", ["v1"]⟩])),
    .surround (.serving "a"),
    .pass .bare "a" {},
    .createCRD { name := "things.g", uid := 0, group := "g", conversion := none, rest := "" }]

/-- A run in which the CRD was there from the start, with everything it takes to apply it to
the secondary, and after which the APIService of the shard is available. -/
def crdServed : List Step :=
  let serving := Surroundings.serving "a"
  let surroundings (status : Option (ConditionStatus × String)) : Surroundings := { serving with
    objects := serving.objects.insert
      { key := ⟨.secret, "target", "a-admin-client-cert"⟩
        data := [("tls.crt", "certificate"), ("tls.key", "key")] }
    available := fun _ => status }
  [.createCRD { name := "things.g", uid := 0, group := "g", conversion := none, rest := "" },
    .edit (.create "a" (plainSpec [⟨"g", ["v1"]⟩])),
    .surround (surroundings none),
    .pass .bare "a" {},
    .surround (surroundings (some (.true, "")))]

/-- The statement for a pass that persists Ready with a CRD for the group of its shard. -/
theorem run_ready_gated_listed :
    let before := run State.step { cluster := .bare } crdServed
    let after := before.step (.pass .bare "a" {})
    Initial { cluster := .bare } ∧ CRDsKnown {} "a" before ∧
      (after.trace.drop before.trace.length).any (fun
        | .persisted shard => shard.status.phase = .ready ∧
            conflicting shard before.cluster.crds.items ≠ []
        | _ => false) = true ∧
      Gated before after :=
  ⟨initial_bare, fun _ _ => .inl rfl, by decide +kernel,
    run_ready_gated initial_bare crdServed .bare "a" {} fun _ _ => .inl rfl⟩

/-- A pass that cannot list the CRDs persists Ready again, although the new CRD is not
on the secondary. -/
theorem unlisted_crd_passes_gate :
    ¬Gated crdAppeared (crdAppeared.step (.pass .bare "a" (.failing [.listCRDs]))) := by
  intro gated
  have found : ((crdAppeared.step (.pass .bare "a" (.failing [.listCRDs]))).trace.drop
      crdAppeared.trace.length).any (fun
        | .persisted shard => shard.status.phase = .ready ∧
            ∃ crd ∈ conflicting shard crdAppeared.cluster.crds.items,
              .appliedCRD shard.uid crd.uid ∉
                (crdAppeared.step (.pass .bare "a" (.failing [.listCRDs]))).trace
        | _ => false) = true := by
    decide +kernel
  obtain ⟨event, membership, bad⟩ := List.any_eq_true.mp found
  cases event with
  | persisted shard =>
      simp only [decide_eq_true_eq] at bad
      obtain ⟨ready, crd, conflicts, unapplied⟩ := bad
      exact unapplied ((gated shard membership ready).applied crd conflicts)
  | _ => exact absurd bad Bool.false_ne_true

end KubeShard.Apishard
