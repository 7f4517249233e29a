import KubeShard.Apishard.Tracked
import KubeShard.Program.Returns

/-!
# Passes without failures

When no call is made to fail, the steps that apply objects return: all they need is
a valid connection Secret, the request header CA of the primary, and that the
cluster serves what was found at start-up.
-/

namespace KubeShard.Apishard

open Resources Prog

/-- The cluster serves all that was found at start-up. -/
structure Offered (r : Reconciler) (cluster : Cluster) : Prop where
  serviceMonitor : r.serviceMonitorAvailable = true → cluster.servesServiceMonitor = true
  scc : r.sccAvailable = true → cluster.servesSCC = true

theorem Offered.congr {r : Reconciler} {before after : Cluster} (offered : Offered r before)
    (unserved : after.unserved = before.unserved) : Offered r after where
  serviceMonitor := by
    have same := congrFun unserved .serviceMonitor
    simp only [Cluster.unserved, Bool.not_inj_iff] at same
    rw [same]
    exact offered.serviceMonitor
  scc := by
    have same := congrFun unserved .securityContextConstraints
    simp only [Cluster.unserved, Bool.not_inj_iff] at same
    rw [same]
    exact offered.scc

theorem Offered.after {r : Reconciler} {ctx : Schedule} {α : Type} {program : Pass α}
    {state after : State} {answer : Except ApiError α} (offered : Offered r state.cluster)
    (respects : Respects (quiet ctx) program) (ran : exec program state = (answer, after)) :
    Offered r after.cluster :=
  offered.congr (respects.rel ran).unserved

/-- The kinds that every cluster serves. -/
def ObjectKind.basic : ObjectKind → Bool
  | .serviceMonitor | .securityContextConstraints => false
  | _ => true

section steps

variable {r : Reconciler} {ctx : Schedule} {shard : APIShard} {object : Component → Object}
  {state : State}

/-- A call that is not made to fail returns when its action does. -/
theorem callAPI_returns {α : Type} {request : Call} {action : Pass α}
    (noFault : ctx.faults request = none) (returns : Returns action (state.edited ctx request)) :
    Returns (callAPI ctx request action) state := by
  rwa [Returns, exec_callAPI_none noFault]

theorem clear_of_served (clean : ctx.Clean) {cluster : Cluster} {component : Component}
    (served : cluster.unserved component.kind = false) : clear ctx cluster component = true := by
  simp [clear, clean (.apply component), served]

theorem served_of_basic (cluster : Cluster) {kind : ObjectKind} (basic : kind.basic = true) :
    cluster.unserved kind = false := by
  revert basic
  cases kind <;> first | exact fun _ => rfl | nofun

/-- Without failures a chain of served components returns. -/
theorem Chained.succeeds (clean : ctx.Clean) {program : Pass Unit} {components : List Component}
    (chained : Chained ctx object program components)
    (served : ∀ component ∈ components, state.cluster.unserved component.kind = false) :
    Returns program state := by
  have returns := (chained.returns state).mpr fun component membership =>
    clear_of_served clean (served component membership)
  exact ⟨(), (exec program state).2, by rw [← returns]⟩

theorem Chained.succeeds_of_basic (clean : ctx.Clean) {program : Pass Unit}
    {components : List Component} (chained : Chained ctx object program components)
    (basic : ∀ component ∈ components, component.kind.basic = true) : Returns program state :=
  chained.succeeds clean fun component membership =>
    served_of_basic state.cluster (basic component membership)

theorem applyOwned_returns (clean : ctx.Clean) {component : Component}
    (basic : component.kind.basic = true) (data : List (String × String))
    (spec : ObjectSpec) (rewrite : ApiError → ApiError) :
    Returns ((applyOwned ctx shard component data spec).mapError rewrite) state := by
  have chained : Chained ctx
      (fun component => { key := component.key shard, owner := some shard.name, data, spec })
      ((applyOwned ctx shard component data spec).mapError rewrite) [component] :=
    .apply rfl rewrite
  exact chained.succeeds_of_basic clean (by simpa using basic)

/-- Without failures a read finds the object, or the object is missing. -/
theorem getObject_clean (clean : ctx.Clean) {request : Call} {key : ObjectKey} {after : State}
    {answer : Except ApiError Object}
    (ran : exec (getObject ctx request key) state = (answer, after)) :
    (∃ object, answer = .ok object ∧ state.cluster.objects.find? key = some object) ∨
      (answer = .error (.notFound key.kind.resource key.name) ∧
        state.cluster.objects.find? key = none) := by
  rw [getObject, exec_callAPI_none (clean request)] at ran
  simp only [exec_bind, exec_get] at ran
  split at ran
  · next object found =>
      cases ran
      exact .inl ⟨object, rfl, found⟩
  · next missing =>
      cases ran
      exact .inr ⟨rfl, missing⟩

/-! ## Storage -/

theorem getOrGeneratePostgresPassword_returns (clean : ctx.Clean) :
    Returns (getOrGeneratePostgresPassword ctx shard) state := by
  have generated (state : State) : Returns (getOrGeneratePostgresPassword.generate ctx) state := by
    apply Returns.mapError
    exact callAPI_returns (clean _) (.of_pure _)
  apply Returns.attempt_bind
  intro answer after _
  cases answer with
  | error failure => exact generated after
  | ok secret =>
      dsimp only
      split
      · exact .of_pure _
      · exact generated after

theorem preservePostgreSQLVolumeClaimTemplates_returns (clean : ctx.Clean)
    (desired : StatefulSet) :
    Returns (preservePostgreSQLVolumeClaimTemplates ctx shard desired) state := by
  apply Returns.attempt_bind
  intro answer after ran
  rcases getObject_clean clean ran with ⟨live, rfl, _⟩ | ⟨rfl, _⟩
  · dsimp only
    split
    · exact (Returns.of_modify _).bind fun _ _ _ => .of_pure _
    · exact (Returns.of_modify _).bind fun _ _ _ => .of_pure _
  · exact (Returns.of_modify _).bind fun _ _ _ => .of_pure _

theorem reconcileInClusterPostgreSQL_returns (clean : ctx.Clean) :
    Returns (reconcileInClusterPostgreSQL ctx shard) state := by
  rw [reconcileInClusterPostgreSQL_steps]
  apply ((getOrGeneratePostgresPassword_returns clean).mapError _).bind
  intro password _ _
  apply (applyOwned_returns clean rfl _ _ _).bind
  intro _ _ _
  apply (applyOwned_returns clean rfl _ _ _).bind
  intro _ _ _
  apply ((preservePostgreSQLVolumeClaimTemplates_returns clean _).mapError _).bind
  intro statefulSet _ _
  apply (applyOwned_returns clean rfl _ _ _).bind
  intro _ _ _
  exact applyOwned_returns clean rfl _ _ _

theorem validateExternalPostgreSQLSecret_returns (clean : ctx.Clean)
    (valid : ConnectionValid shard state.cluster) :
    Returns (validateExternalPostgreSQLSecret ctx shard) state := by
  obtain ⟨ref, secret, isRef, found, hasKey⟩ := valid
  unfold validateExternalPostgreSQLSecret
  rw [isRef]
  apply Returns.attempt_bind
  intro answer after ran
  rcases getObject_clean clean ran with ⟨live, rfl, isLive⟩ | ⟨_, missing⟩
  · cases found.symm.trans isLive
    dsimp only
    rw [if_neg (by simp [Option.isSome_iff_ne_none.mp hasKey])]
    exact .of_modify _
  · cases found.symm.trans missing

/-- Without failures the Kine Service is applied, unless its traffic distribution is
refused. -/
theorem applyKineService_clean (clean : ctx.Clean) {request : Call} {trafficDistribution : Bool}
    {after : State} {answer : Except ApiError Unit}
    (ran : exec (applyKineService ctx shard request trafficDistribution) state =
      (answer, after)) :
    answer = .ok () ∨ trafficDistribution = true ∧
      answer = .error ⟨.fault .invalid, "spec.trafficDistribution: Invalid value"⟩ := by
  rw [applyKineService, exec_callAPI_none (clean request)] at ran
  simp only [exec_bind, exec_get] at ran
  split at ran
  · next refused =>
      cases ran
      rw [Bool.and_eq_true] at refused
      exact .inr ⟨refused.1, rfl⟩
  · cases ran
    exact .inl rfl

theorem applyKineService_returns (clean : ctx.Clean) (request : Call) :
    Returns (applyKineService ctx shard request false) state := by
  rcases ran : exec (applyKineService ctx shard request false) state with ⟨answer, after⟩
  rcases applyKineService_clean clean ran with rfl | ⟨distributed, _⟩
  · exact ⟨(), after, ran⟩
  · cases distributed

theorem serveKine_returns (clean : ctx.Clean) : Returns (serveKine ctx shard) state := by
  apply Returns.attempt_bind
  intro answer after ran
  rcases applyKineService_clean clean ran with rfl | ⟨colocated, rfl⟩
  · exact .of_pure _
  · have unsupported : isTrafficDistributionUnsupported
      ⟨.fault .invalid, "spec.trafficDistribution: Invalid value"⟩ = true := by decide +kernel
    simp only [colocated, unsupported, Bool.and_self, if_true]
    exact (applyKineService_returns clean _).mapError _

theorem reconcileKine_returns (clean : ctx.Clean) : Returns (reconcileKine ctx shard) state := by
  rw [reconcileKine_eq]
  apply (applyOwned_returns clean rfl _ _ _).bind
  intro _ first _
  split
  · apply (applyOwned_returns clean rfl _ _ _).bind
    intro _ second _
    exact serveKine_returns clean
  · exact serveKine_returns clean

theorem reconcileStorage_returns (clean : ctx.Clean)
    (connection : shard.spec.storage.type = .postgreSQL → ConnectionValid shard state.cluster) :
    Returns (reconcileStorage r ctx shard) state := by
  have rest (state : State) : Returns (do
      (reconcileKine ctx shard).mapError (·.wrap "kine")
      reconcilePostgreSQLMetrics r ctx shard) state := by
    apply ((reconcileKine_returns clean).mapError _).bind
    intro _ served _
    have isCollector : (inputs r ctx.random shard served.cluster).collector =
      collectorConnection r shard served.cluster := rfl
    obtain ⟨after, ran, _⟩ := reconcilePostgreSQLMetrics_lays ctx isCollector
    exact ⟨(), after, ran⟩
  unfold reconcileStorage
  cases type : shard.spec.storage.type with
  | sqlite => exact rest state
  | inClusterPostgreSQL =>
      apply ((reconcileInClusterPostgreSQL_returns clean).mapError _).bind
      exact fun _ middle _ => rest middle
  | postgreSQL =>
      apply ((validateExternalPostgreSQLSecret_returns clean (connection type)).mapError _).bind
      exact fun _ middle _ => rest middle

/-! ## Access and workloads -/

theorem basic_certificates :
    ∀ component ∈ buildCertResources shard, component.kind.basic = true := by
  unfold buildCertResources
  split <;> decide

theorem basic_secondary :
    ∀ component ∈ secondaryComponents shard, component.kind.basic = true := by
  unfold secondaryComponents
  split <;> decide

theorem served_of_scc {cluster : Cluster} (offered : Offered r cluster) :
    ∀ component ∈ sccComponents r, cluster.unserved component.kind = false := by
  unfold sccComponents
  split
  · next available => simp [Cluster.unserved, Component.kind, offered.scc available]
  · simp

theorem reconcileRequestHeaderCA_returns (clean : ctx.Clean) (ready : HeaderReady r state.cluster) :
    Returns (reconcileRequestHeaderCA r ctx shard) state := by
  obtain ⟨source, allowedNames, found, filled, parsed⟩ := ready
  have read : exec ((getObject ctx .getAuthenticationConfigMap authenticationKey).mapError
      (·.wrap "reading extension-apiserver-authentication from kube-system")) state =
      (.ok source, state.edited ctx .getAuthenticationConfigMap) := by
    have found : (state.edited ctx .getAuthenticationConfigMap).cluster.objects.find?
      authenticationKey = some source := found
    rw [exec_mapError_eq_ok, getObject, exec_callAPI_none (clean _)]
    simp only [exec_bind, exec_get, found, exec_pure]
  refine Returns.bind ⟨source, _, read⟩ ?_
  intro actual after ran
  cases read.symm.trans ran
  dsimp only
  rw [if_neg filled, parsed]
  exact (applyOwned_returns clean rfl _ _ _).bind fun _ _ _ => .of_pure _

theorem reconcileAdminKubeconfig_returns (clean : ctx.Clean) :
    Returns (reconcileAdminKubeconfig ctx shard) state := by
  apply Returns.attempt_bind
  intro answer first ran
  rcases getObject_clean clean ran with ⟨pkiSecret, rfl, _⟩ | ⟨rfl, _⟩
  · dsimp only
    split
    · exact .of_pure _
    · apply Returns.attempt_bind
      intro answer second ran
      rcases getObject_clean clean ran with ⟨adminSecret, rfl, _⟩ | ⟨rfl, _⟩
      · dsimp only
        split
        · exact .of_pure _
        · exact (applyOwned_returns clean rfl _ _ _).bind fun _ _ _ => .of_modify _
      · exact .of_pure _
  · exact .of_pure _

theorem applyMetricsClusterRole_returns (clean : ctx.Clean) :
    Returns (callAPI ctx .applyMetricsClusterRole
      (applyObject { key := ⟨.clusterRole, "", "kube-shard-metrics-reader"⟩ })) state :=
  callAPI_returns (clean _) ⟨(), _, rfl⟩

theorem reconcileMetrics_returns (clean : ctx.Clean) (offered : Offered r state.cluster) :
    Returns (reconcileMetrics r ctx shard) state := by
  unfold reconcileMetrics
  cases available : r.serviceMonitorAvailable with
  | false => exact .of_pure _
  | true =>
      apply (applyOwned_returns clean rfl _ _ _).bind
      intro _ first account
      apply (applyOwned_returns clean rfl _ _ _).bind
      intro _ second token
      apply ((applyMetricsClusterRole_returns clean).mapError _).bind
      intro _ third role
      apply (applyOwned_returns clean rfl _ _ _).bind
      intro _ fourth binding
      have offered : Offered r fourth.cluster :=
        (((offered.after ((applyOwned_quiet shard _ _ _).mapError _) account).after
          ((applyOwned_quiet shard _ _ _).mapError _) token).after
          (quiet_of_sharing ((applyMetricsClusterRole_sharing ctx).mapError _)) role).after
          ((applyOwned_quiet shard _ _ _).mapError _) binding
      have unserved : fourth.cluster.unserved .serviceMonitor = false := by
        simp [Cluster.unserved, offered.serviceMonitor available]
      apply Returns.attempt_bind
      intro answer fifth monitor
      have monitored := ((applyOwned_quiet shard _ _ _).rel monitor).unserved
      rcases applyOwned_cases ctx shard .kineServiceMonitor [] _ fourth with
        ⟨_, last, applied, _⟩ | ⟨blocked, _⟩
      · cases applied.symm.trans monitor
        have basic : ∀ component ∈ [Component.prometheusDiscoveryRole,
          .prometheusDiscoveryRoleBinding], component.kind.basic = true := by decide
        apply (reconcileDiscovery_chained (r := r)
          (inputs r ctx.random shard state.cluster)).succeeds clean
        rw [monitored]
        exact List.forall_mem_cons.mpr ⟨unserved, fun component membership =>
          served_of_basic _ (basic component membership)⟩
      · rw [clear_of_served clean unserved] at blocked
        cases blocked

/-! ## The shard itself -/

/-- A status write succeeds when the copy is up to date. -/
theorem exec_updateStatus {request : Call} (noFault : ctx.faults request = none)
    {stored : APIShard}
    (found : (state.edited ctx request).cluster.registry.shards.find? shard.name = some stored)
    (fresh : stored.resourceVersion = state.resourceVersion) :
    exec (updateStatus ctx request shard) state =
      (.ok (), (state.edited ctx request).persist stored) := by
  have fresh : stored.resourceVersion = (state.edited ctx request).resourceVersion := fresh
  rw [updateStatus, exec_callAPI_none noFault]
  simp only [exec_bind, exec_get, found, fresh, ne_eq, not_true_eq_false, if_false, exec_set]

theorem orSetError_returns {α : Type} {program : Pass α} (returns : Returns program state) :
    Returns (orSetError ctx shard program) state := by
  obtain ⟨value, after, ran⟩ := returns
  exact ⟨value, after, orSetError_ok.mpr ran⟩

/-- Without failures all objects are applied, if what they depend on is there. -/
theorem reconcileObjects_returns (clean : ctx.Clean) (hashed : r.Hashed)
    (offered : Offered r state.cluster) (feasible : Feasible r shard state.cluster) :
    Returns (reconcileObjects r ctx shard) state := by
  apply (orSetError_returns (reconcileStorage_returns clean feasible.connection)).bind
  intro _ first storage
  rw [orSetError_ok] at storage
  obtain ⟨⟨password, set, _, stores⟩, _⟩ := reconcileStorage_lays storage
  let given : Inputs := ⟨password, set, collectorConnection r shard state.cluster, "", none⟩
  have stores := stores given rfl rfl rfl
  apply (orSetError_returns ((reconcileCertManager_chained (r := r) given).succeeds_of_basic clean
    basic_certificates)).bind
  intro _ second certificates
  apply (orSetError_returns (applyOwned_returns clean rfl _ _ _)).bind
  intro _ third authConfig
  apply (orSetError_returns (applyOwned_returns clean rfl _ _ _)).bind
  intro _ fourth account
  apply (orSetError_returns (applyOwned_returns clean rfl _ _ _)).bind
  intro _ fifth delegator
  rw [orSetError_ok] at certificates authConfig account delegator
  have access : Offered r fifth.cluster :=
    ((((offered.congr stores.unserved).after
      (applyCertResources_quiet ctx shard _ (step_of_certificates shard)) certificates).after
      ((applyOwned_quiet shard _ _ _).mapError _) authConfig).after
      ((applyOwned_quiet shard _ _ _).mapError _) account).after
      ((applyOwned_quiet shard _ _ _).mapError _) delegator
  apply (orSetError_returns ((reconcileAPIServerSCC_chained given).succeeds clean
    (served_of_scc access))).bind
  intro _ sixth scc
  rw [orSetError_ok] at scc
  have early := lays_early stores certificates authConfig account delegator scc
  have ready : HeaderReady r sixth.cluster := by
    rw [HeaderReady, early.authentication (earlyComponents_belong hashed)]
    exact feasible.header
  apply (orSetError_returns (reconcileRequestHeaderCA_returns clean ready)).bind
  intro _ seventh header
  apply (orSetError_returns (reconcileAdminKubeconfig_returns clean)).bind
  intro _ eighth kubeconfig
  apply (orSetError_returns ((reconcileSecondary_chained (r := r) given).succeeds_of_basic clean
    basic_secondary)).bind
  intro _ ninth secondary
  rw [orSetError_ok] at header kubeconfig secondary
  have workloads : Offered r ninth.cluster :=
    (((offered.congr early.unserved).after (reconcileRequestHeaderCA_quiet r ctx shard)
      header).after (reconcileAdminKubeconfig_quiet ctx shard) kubeconfig).after
      (reconcileSecondary_quiet ctx shard) secondary
  exact orSetError_returns (reconcileMetrics_returns clean workloads)

end steps

end KubeShard.Apishard
