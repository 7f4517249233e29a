import KubeShard.Apishard.Frame

/-!
# The steps of a pass and what they leave alone

A step that applies objects respects every frame that admits the components of the
step; that is checked once, for any frame.  The other steps touch no object.
-/

namespace KubeShard.Apishard

open Resources Prog

/-! ## Components and steps -/

/-- The steps of a pass that apply components. -/
inductive ApplyStep where
  | storage
  | kine
  | collector
  | certificates
  | access
  | scc
  | requestHeader
  | kubeconfig
  | secondary
  | monitoring
  deriving DecidableEq

/-- The step that applies a component. -/
def step : Component → ApplyStep
  | .postgreSQLSecret | .postgreSQLInitConfigMap | .postgreSQLStatefulSet
  | .postgreSQLService => .storage
  | .kineDeployment | .kinePDB | .kineService => .kine
  | .oTelCredentialSecret | .oTelCollectorConfigMap _ | .oTelCollectorDeployment
  | .oTelCollectorService | .postgreSQLServiceMonitor => .collector
  | .authConfig | .secondaryServiceAccount | .authDelegator => .access
  | .apiServerSCC | .apiServerSCCClusterRole | .apiServerSCCRoleBinding => .scc
  | .requestHeaderCA => .requestHeader
  | .adminKubeconfig => .kubeconfig
  | .secondaryDeployment | .secondaryPDB | .secondaryService => .secondary
  | .metricsReaderServiceAccount | .metricsReaderTokenSecret | .metricsReaderClusterRoleBinding
  | .kineServiceMonitor | .secondaryServiceMonitor | .prometheusDiscoveryRole
  | .prometheusDiscoveryRoleBinding => .monitoring
  | _ => .certificates

/-- A frame that admits what a step does to objects: it touches none, or applies and tracks
a component of the step. -/
structure Admits (ctx : Schedule) (shard : APIShard) (applyStep : ApplyStep)
    (frame : Frame State) : Prop where
  silent : ∀ before after, Sharing ctx before after → Silent before after →
    frame.rel before after
  apply : ∀ component, step component = applyStep →
    ∀ object : Object, object.key = component.key shard →
      Respects frame (do
        applyObject object
        modify fun state => { state with tracked := state.tracked ++ [object.key] } : Pass Unit)

theorem quiet_admits (ctx : Schedule) (shard : APIShard) (applyStep : ApplyStep) :
    Admits ctx shard applyStep (quiet ctx) :=
  ⟨fun _ _ sharing _ => sharing.toQuiet, fun _ _ object _ => applyAndTrack_quiet object⟩

theorem silent_admits (ctx : Schedule) (shard : APIShard) (applyStep : ApplyStep) :
    Admits ctx shard applyStep silent :=
  ⟨fun _ _ _ silent => silent, fun _ _ object _ =>
    (applyObject_silent object).bind fun _ => .of_modify fun _ => ⟨rfl, rfl⟩⟩

namespace Admits

variable {ctx : Schedule} {shard : APIShard} {applyStep : ApplyStep} {frame : Frame State}
  {α : Type}

theorem of_hushed (admits : Admits ctx shard applyStep frame) {program : Pass α}
    (hushed : Respects (hushed ctx) program) : Respects frame program :=
  fun state => admits.silent _ _ (hushed state).toSharing (hushed state).silent

theorem getObject (admits : Admits ctx shard applyStep frame) {request : Call}
    (late : request.late = true) (key : ObjectKey) :
    Respects frame (getObject ctx request key) :=
  admits.of_hushed (getObject_hushed late key)

theorem mono (admits : Admits ctx shard applyStep frame) {wider : Frame State}
    (imply : ∀ before after, frame.rel before after → wider.rel before after) :
    Admits ctx shard applyStep wider where
  silent before after sharing silent :=
    imply before after (admits.silent before after sharing silent)
  apply component isStep object key :=
    (admits.apply component isStep object key).mono imply

theorem callAPI (admits : Admits ctx shard applyStep frame) {request : Call} {action : Pass α}
    (late : request.late = true) (respects : Respects frame action) :
    Respects frame (callAPI ctx request action) := by
  apply callAPI_respects _ respects
  exact fun state => admits.silent _ _ (Hushed.of_edited state late).toSharing ⟨rfl, rfl⟩

theorem applyOwned (admits : Admits ctx shard applyStep frame) {component : Component}
    (isStep : step component = applyStep) (data : List (String × String)) {spec : ObjectSpec} :
    Respects frame (applyOwned ctx shard component data spec) := by
  apply admits.callAPI rfl
  exact admits.apply component isStep
    { key := component.key shard, owner := some shard.name, data := data, spec := spec } rfl

end Admits

/-! ## Steps of a live pass -/

variable (r : Reconciler) (ctx : Schedule) (shard : APIShard)

theorem ensureNamespace_sharing : Respects (sharing ctx) (ensureNamespace ctx shard) :=
  callAPI_sharing rfl rfl

theorem generate_hushed :
    Respects (hushed ctx) (getOrGeneratePostgresPassword.generate ctx) :=
  (callAPI_hushed rfl (.of_pure _)).mapError _

theorem getOrGeneratePostgresPassword_hushed :
    Respects (hushed ctx) (getOrGeneratePostgresPassword ctx shard) := by
  apply (getObject_hushed rfl _).attempt.bind
  intro existing
  cases existing with
  | ok secret => exact .ite (.of_pure _) (generate_hushed ctx)
  | error failure => exact generate_hushed ctx

theorem preservePostgreSQLVolumeClaimTemplates_still (desired : StatefulSet) :
    Respects (still ctx) (preservePostgreSQLVolumeClaimTemplates ctx shard desired) := by
  apply (getObject_still rfl _).attempt.bind
  intro existing
  cases existing with
  | error failure =>
      exact .ite ((setCondition_still shard _ _ _ rfl).bind fun _ => .of_pure _) (.of_throw _)
  | ok live =>
      exact .ite ((setCondition_still shard _ _ _ rfl).bind fun _ => .of_pure _)
        ((setCondition_still shard _ _ _ rfl).bind fun _ => .of_pure _)

theorem storageNotReady_still (reason message : String) (failure : ApiError) :
    Respects (still ctx) (storageNotReady shard reason message failure) :=
  (setCondition_still shard _ _ _ rfl).bind fun _ => .of_throw failure

theorem validateExternalPostgreSQLSecret_still :
    Respects (still ctx) (validateExternalPostgreSQLSecret ctx shard) := by
  unfold validateExternalPostgreSQLSecret
  cases shard.spec.storage.connectionSecretRef with
  | none => exact storageNotReady_still ctx shard _ _ _
  | some ref =>
      apply (getObject_still rfl _).attempt.bind
      intro secret
      cases secret with
      | error failure =>
          exact .ite (storageNotReady_still ctx shard _ _ _)
            (storageNotReady_still ctx shard _ _ _)
      | ok secret =>
          exact .ite (storageNotReady_still ctx shard _ _ _) (setCondition_still shard _ _ _ rfl)

/-! ### Steps that apply objects -/

section admits

variable {frame : Frame State}

theorem applyKineService_respects (admits : Admits ctx shard .kine frame) {request : Call}
    (late : request.late = true) (trafficDistribution : Bool) :
    Respects frame (applyKineService ctx shard request trafficDistribution) := by
  apply admits.callAPI late
  apply Respects.of_get.bind
  intro _
  exact .ite (.of_throw _) (admits.apply .kineService rfl _ rfl)

theorem serveKine_respects (admits : Admits ctx shard .kine frame) :
    Respects frame (serveKine ctx shard) := by
  apply (applyKineService_respects ctx shard admits rfl _).attempt.bind
  intro answer
  cases answer with
  | ok value => exact .of_pure _
  | error failure =>
      exact .ite ((applyKineService_respects ctx shard admits rfl _).mapError _) (.of_throw _)

theorem reconcileKine_respects (admits : Admits ctx shard .kine frame) :
    Respects frame (reconcileKine ctx shard) := by
  rw [reconcileKine_eq]
  apply ((admits.applyOwned rfl _).mapError _).bind
  intro _
  apply Respects.ite _ (serveKine_respects ctx shard admits)
  apply ((admits.applyOwned rfl _).mapError _).bind
  exact fun _ => serveKine_respects ctx shard admits

theorem applyOTelCollector_respects (admits : Admits ctx shard .collector frame)
    (params : OTelConnectionParams) (credentialSecretName : String) :
    Respects frame (applyOTelCollector r ctx shard params credentialSecretName) := by
  apply ((admits.applyOwned rfl _).mapError _).bind
  intro _
  apply ((admits.applyOwned rfl _).mapError _).bind
  intro _
  apply ((admits.applyOwned rfl _).mapError _).bind
  intro _
  exact .ite ((admits.applyOwned rfl _).mapError _) (.of_pure _)

theorem ensureOTelCredentialSecret_respects (admits : Admits ctx shard .collector frame)
    (params : OTelConnectionParams) :
    Respects frame (ensureOTelCredentialSecret ctx shard params) :=
  ((admits.applyOwned rfl _).mapError _).bind fun _ => .of_pure _

theorem externalMetrics_respects (admits : Admits ctx shard .collector frame) :
    Respects frame (externalMetrics r ctx shard) := by
  unfold externalMetrics
  cases shard.spec.storage.connectionSecretRef with
  | none => exact .of_throw _
  | some ref =>
      apply ((admits.getObject rfl _).mapError _).bind
      intro secret
      dsimp only
      cases r.parsePostgreSQLDSN (secret.entry ref.key) with
      | error failure => exact .of_throw _
      | ok params =>
          dsimp only
          cases shard.spec.storage.monitoring.bind StorageMonitoringSpec.caCertSecret with
          | none => exact .of_throw _
          | some caCert =>
              apply (ensureOTelCredentialSecret_respects ctx shard admits _).bind
              exact fun _ => applyOTelCollector_respects r ctx shard admits _ _

theorem reportMetrics_respects
    (stills : ∀ before after, Still ctx before after → frame.rel before after)
    {collect : Pass Unit} (respects : Respects frame collect) :
    Respects frame (reportMetrics shard collect) := by
  apply respects.attempt.bind
  intro answer
  cases answer with
  | error failure => exact (setCondition_still shard _ _ _ rfl).mono stills
  | ok value => exact (setCondition_still shard _ _ _ rfl).mono stills

theorem reconcilePostgreSQLMetrics_respects (admits : Admits ctx shard .collector frame)
    (stills : ∀ before after, Still ctx before after → frame.rel before after) :
    Respects frame (reconcilePostgreSQLMetrics r ctx shard) := by
  apply Respects.ite ((removeCondition_still rfl).mono stills)
  cases shard.spec.storage.type with
  | sqlite => exact (setCondition_still shard _ _ _ rfl).mono stills
  | inClusterPostgreSQL =>
      exact reportMetrics_respects ctx shard stills
        (applyOTelCollector_respects r ctx shard admits _ _)
  | postgreSQL =>
      exact reportMetrics_respects ctx shard stills (externalMetrics_respects r ctx shard admits)

/-- The in-cluster database is left to the caller. -/
theorem reconcileStorage_respects (kine : Admits ctx shard .kine frame)
    (collector : Admits ctx shard .collector frame)
    (stills : ∀ before after, Still ctx before after → frame.rel before after)
    (database : Respects frame (reconcileInClusterPostgreSQL ctx shard)) :
    Respects frame (reconcileStorage r ctx shard) := by
  have rest : Respects frame (do
      (reconcileKine ctx shard).mapError (·.wrap "kine")
      reconcilePostgreSQLMetrics r ctx shard) :=
    ((reconcileKine_respects ctx shard kine).mapError _).bind fun _ =>
      reconcilePostgreSQLMetrics_respects r ctx shard collector stills
  unfold reconcileStorage
  cases shard.spec.storage.type with
  | sqlite => exact rest
  | inClusterPostgreSQL => exact (database.mapError _).bind fun _ => rest
  | postgreSQL =>
      exact (((validateExternalPostgreSQLSecret_still ctx shard).mono stills).mapError _).bind
        fun _ => rest

theorem step_of_certificates :
    ∀ component ∈ buildCertResources shard, step component = .certificates := by
  unfold buildCertResources
  split <;> decide

theorem applyCertResources_respects (admits : Admits ctx shard .certificates frame)
    (resources : List Component)
    (certificates : ∀ component ∈ resources, step component = .certificates) :
    Respects frame (applyCertResources ctx shard resources) := by
  induction resources with
  | nil => exact .of_pure _
  | cons resource rest ih =>
      rw [List.forall_mem_cons] at certificates
      exact ((admits.applyOwned certificates.1 _).mapError _).bind fun _ =>
        ih certificates.2

theorem reconcileAPIServerSCC_respects (admits : Admits ctx shard .scc frame) :
    Respects frame (reconcileAPIServerSCC r ctx shard) := by
  apply Respects.ite (.of_pure _)
  apply ((admits.applyOwned rfl _).mapError _).bind
  intro _
  apply ((admits.applyOwned rfl _).mapError _).bind
  intro _
  exact (admits.applyOwned rfl _).mapError _

theorem reconcileRequestHeaderCA_respects (admits : Admits ctx shard .requestHeader frame) :
    Respects frame (reconcileRequestHeaderCA r ctx shard) := by
  apply ((admits.getObject rfl _).mapError _).bind
  intro sourceCM
  apply Respects.ite (.of_throw _)
  dsimp only
  split
  · exact .of_throw _
  · exact ((admits.applyOwned rfl _).mapError _).bind fun _ => .of_pure _

theorem applyAdminKubeconfig_respects (admits : Admits ctx shard .kubeconfig frame)
    (stills : ∀ before after, Still ctx before after → frame.rel before after)
    (caData clientCert clientKey : String) :
    Respects frame (applyAdminKubeconfig ctx shard caData clientCert clientKey) := by
  apply ((admits.applyOwned rfl _).mapError _).bind
  intro _
  apply Respects.of_modify
  intro state
  apply stills
  exact ⟨⟨⟨.of_status rfl id, rfl, fun _ _ => rfl, ⟨[], .none rfl rfl rfl⟩, rfl, rfl⟩,
    .none rfl rfl rfl⟩, rfl⟩

theorem reconcileAdminKubeconfig_respects (admits : Admits ctx shard .kubeconfig frame)
    (stills : ∀ before after, Still ctx before after → frame.rel before after) :
    Respects frame (reconcileAdminKubeconfig ctx shard) := by
  apply (admits.getObject rfl _).attempt.bind
  intro pkiSecret
  cases pkiSecret with
  | error failure => exact .ite (.of_pure _) (.of_throw _)
  | ok pkiSecret =>
      apply Respects.ite (.of_pure _)
      apply (admits.getObject rfl _).attempt.bind
      intro adminSecret
      cases adminSecret with
      | error failure => exact .ite (.of_pure _) (.of_throw _)
      | ok adminSecret =>
          exact .ite (.of_pure _) (applyAdminKubeconfig_respects ctx shard admits stills _ _ _)

theorem reconcileSecondary_respects (admits : Admits ctx shard .secondary frame) :
    Respects frame (reconcileSecondary ctx shard) := by
  apply ((admits.applyOwned rfl _).mapError _).bind
  intro _
  apply Respects.ite
  · apply ((admits.applyOwned rfl _).mapError _).bind
    exact fun _ => (admits.applyOwned rfl _).mapError _
  · exact (admits.applyOwned rfl _).mapError _

theorem reconcileDiscovery_respects (admits : Admits ctx shard .monitoring frame) :
    Respects frame (reconcileDiscovery ctx shard) := by
  apply ((admits.applyOwned rfl _).mapError _).bind
  intro _
  apply ((admits.applyOwned rfl _).mapError _).bind
  intro _
  exact (admits.applyOwned rfl _).mapError _

theorem applyMetricsClusterRole_sharing :
    Respects (sharing ctx) (callAPI ctx .applyMetricsClusterRole
      (applyObject { key := ⟨.clusterRole, "", "kube-shard-metrics-reader"⟩ }) : Pass Unit) :=
  callAPI_sharing rfl rfl

theorem reconcileMetrics_respects (admits : Admits ctx shard .monitoring frame) :
    Respects frame (reconcileMetrics r ctx shard) := by
  apply Respects.ite (.of_pure _)
  apply ((admits.applyOwned rfl _).mapError _).bind
  intro _
  apply ((admits.applyOwned rfl _).mapError _).bind
  intro _
  have role : Respects frame (callAPI ctx .applyMetricsClusterRole
      (applyObject { key := ⟨.clusterRole, "", "kube-shard-metrics-reader"⟩ }) : Pass Unit) :=
    fun state => admits.silent _ _ (applyMetricsClusterRole_sharing ctx state)
      (callAPI_silent (applyObject_silent _) state)
  apply (role.mapError _).bind
  intro _
  apply ((admits.applyOwned rfl _).mapError _).bind
  intro _
  apply (admits.applyOwned rfl _).attempt.bind
  intro answer
  cases answer with
  | error failure => exact .ite (.of_pure _) (.of_throw _)
  | ok value => exact reconcileDiscovery_respects ctx shard admits

end admits

/-! ### The same steps are quiet -/

theorem reconcileInClusterPostgreSQL_quiet :
    Respects (quiet ctx) (reconcileInClusterPostgreSQL ctx shard) := by
  rw [reconcileInClusterPostgreSQL_steps]
  apply ((quiet_of_still (still_of_hushed
    (getOrGeneratePostgresPassword_hushed ctx shard))).mapError _).bind
  intro password
  apply ((applyOwned_quiet shard _ _ _).mapError _).bind
  intro _
  apply ((applyOwned_quiet shard _ _ _).mapError _).bind
  intro _
  apply ((quiet_of_still (preservePostgreSQLVolumeClaimTemplates_still ctx shard _)).mapError _).bind
  intro statefulSet
  apply ((applyOwned_quiet shard _ _ _).mapError _).bind
  intro _
  exact (applyOwned_quiet shard _ _ _).mapError _

theorem reconcileStorage_quiet : Respects (quiet ctx) (reconcileStorage r ctx shard) :=
  reconcileStorage_respects r ctx shard (quiet_admits ctx shard _) (quiet_admits ctx shard _)
    (fun _ _ still => still.toQuiet) (reconcileInClusterPostgreSQL_quiet ctx shard)

theorem applyCertResources_quiet (resources : List Component)
    (certificates : ∀ component ∈ resources, step component = .certificates) :
    Respects (quiet ctx) (applyCertResources ctx shard resources) :=
  applyCertResources_respects ctx shard (quiet_admits ctx shard _) resources certificates

theorem reconcileRequestHeaderCA_quiet :
    Respects (quiet ctx) (reconcileRequestHeaderCA r ctx shard) :=
  reconcileRequestHeaderCA_respects r ctx shard (quiet_admits ctx shard _)

theorem reconcileAdminKubeconfig_quiet :
    Respects (quiet ctx) (reconcileAdminKubeconfig ctx shard) :=
  reconcileAdminKubeconfig_respects ctx shard (quiet_admits ctx shard _)
    fun _ _ still => still.toQuiet

theorem reconcileSecondary_quiet : Respects (quiet ctx) (reconcileSecondary ctx shard) :=
  reconcileSecondary_respects ctx shard (quiet_admits ctx shard _)

theorem getCRD_hushed (index : Nat) (name : String) :
    Respects (hushed ctx) (getCRD ctx index name) := by
  apply callAPI_hushed rfl
  apply Respects.of_get.bind
  intro state
  cases state.cluster.crds.find? name with
  | some crd => exact .of_pure crd
  | none => exact .of_throw _

theorem applySecondaryCRD_hushed (index : Nat) (crd : CRD) :
    Respects (hushed ctx) (applySecondaryCRD ctx shard index crd) := by
  apply callAPI_hushed rfl
  apply Respects.of_modify
  intro state
  exact .of_calm ⟨.refl _, rfl, rfl, rfl, rfl, id, List.prefix_rfl, id, .of_one rfl rfl, rfl⟩ rfl rfl
    (.of_logged rfl rfl (.of_one rfl rfl)) rfl rfl

theorem syncCRDs_hushed (index : Nat) (names : List String) :
    Respects (hushed ctx) (syncCRDs ctx shard index names) := by
  induction names generalizing index with
  | nil => exact .of_pure _
  | cons name rest ih =>
      apply (getCRD_hushed ctx index name).attempt.bind
      intro answer
      cases answer with
      | error failure => exact (ih _).bind fun _ => .of_pure _
      | ok crd =>
          apply (applySecondaryCRD_hushed ctx shard index crd).attempt.bind
          intro outcome
          apply (ih _).bind
          intro errors
          cases outcome with
          | ok value => exact .of_pure _
          | error failure => exact .of_pure _

theorem syncCRDsToSecondary_hushed (names : List String) :
    Respects (hushed ctx) (syncCRDsToSecondary ctx shard names) := by
  apply Respects.ite (.of_throw _)
  apply ((getObject_hushed rfl _).mapError _).bind
  intro _
  apply ((getObject_hushed rfl _).mapError _).bind
  intro _
  apply ((callAPI_hushed rfl (.of_pure _)).mapError _).bind
  intro _
  apply (syncCRDs_hushed ctx shard 0 names).bind
  intro errors
  cases errors with
  | nil => exact .of_pure _
  | cons first rest => exact .of_throw _

theorem detectCRDConflicts_hushed :
    Respects (hushed ctx) (Aggregation.detectCRDConflicts ctx shard) :=
  (callAPI_hushed rfl (Respects.of_get.bind fun _ => .of_pure _)).mapError _

theorem reconcileCRDConflicts_observing :
    Respects (observing ctx) (reconcileCRDConflicts ctx shard) := by
  apply (observing_of_still (still_of_hushed (detectCRDConflicts_hushed ctx shard))).attempt.bind
  intro detected
  match detected with
  | .error _ => exact .of_pure _
  | .ok [] => exact setCondition_observing _ _ _ _ rfl
  | .ok (name :: names) =>
      apply (observing_of_still
        (still_of_hushed (syncCRDsToSecondary_hushed ctx shard _))).attempt.bind
      intro answer
      cases answer with
      | error failure => exact setCondition_observing _ _ _ _ rfl
      | ok value => exact setCondition_observing _ _ _ _ rfl

theorem checkDeploymentHealth_hushed :
    Respects (hushed ctx) (checkDeploymentHealth ctx shard) := by
  apply (getObject_hushed rfl _).bind
  intro _
  apply (getObject_hushed rfl _).bind
  intro _
  exact .ite ((getObject_hushed rfl _).bind fun _ => .of_pure _) (.of_pure _)

theorem verifySecondaryAuth_hushed : Respects (hushed ctx) (verifySecondaryAuth ctx shard) := by
  apply (getObject_hushed rfl _).attempt.bind
  intro pkiSecret
  cases pkiSecret with
  | error failure => exact .of_pure _
  | ok pkiSecret =>
      apply (getObject_hushed rfl _).attempt.bind
      intro adminSecret
      cases adminSecret with
      | error failure => exact .of_pure _
      | ok adminSecret =>
          apply Respects.ite (.of_pure _)
          apply (callAPI_hushed rfl (.of_pure _)).attempt.bind
          intro client
          cases client with
          | error failure => exact .of_pure _
          | ok value =>
              apply (callAPI_hushed rfl (.of_pure _)).attempt.bind
              intro listing
              cases listing with
              | error failure => exact .of_pure _
              | ok value => exact .of_pure _

/-- A change of sync objects, with what their controllers have finished. -/
theorem Syncing.of_setSyncs (state : State) (kind : SyncKind)
    (syncs : Store (SyncObject.key (σ := kind.Spec))) (events : List Event)
    (finished : ∀ event ∈ events, ∃ kind key spec, event = .synced kind key spec) :
    Syncing ctx state { state with
      cluster := state.cluster.setSyncs kind syncs, trace := state.trace ++ events } := by
  have logged {allowed : Event → Bool}
      (all : ∀ kind key spec, allowed (.synced kind key spec) = true) :
      state.Logged allowed { state with
        cluster := state.cluster.setSyncs kind syncs, trace := state.trace ++ events } := by
    refine ⟨events, rfl, ?_⟩
    intro event membership
    obtain ⟨kind, key, spec, rfl⟩ := finished event membership
    exact all kind key spec
  have objects := state.cluster.setSyncs_objects kind syncs
  refine ⟨⟨⟨?_, by simp, by simp, rfl, rfl, id, List.prefix_rfl, ?_, logged fun _ _ _ => rfl,
    by cases kind <;> rfl⟩, .of_logged objects rfl (logged fun _ _ _ => rfl), objects,
    by cases kind <;> rfl⟩, rfl⟩
  · rw [Cluster.setSyncs_registry]
    exact .refl _
  · intro present key membership
    rw [objects]
    exact present key membership

theorem State.sync_syncing (state : State) (pass : SyncPass) :
    Syncing ctx state (state.sync pass) := by
  rw [State.sync]
  split
  · exact (syncing ctx).refl state
  · apply Syncing.of_setSyncs
    intro event membership
    split at membership
    · exact ⟨_, _, _, List.mem_singleton.mp membership⟩
    · cases membership

theorem State.synced_syncing (state : State) (request : Call) :
    Syncing ctx state (state.synced ctx request) := by
  rw [State.synced]
  generalize ctx.syncs request = passes
  induction passes generalizing state with
  | nil => exact (syncing ctx).refl state
  | cons pass rest ih => exact (State.sync_syncing ctx state pass).trans (ih _)

variable {ctx} in
/-- A call on a sync object, in a frame that admits what sync controllers and users do
before it. -/
theorem callSync_respects {frame : Frame State}
    (syncs : ∀ before after, Syncing ctx before after → frame.rel before after)
    {α : Type} {request : Call} {action : Pass α} (late : request.late = true)
    (respects : Respects frame action) : Respects frame (callSync ctx request action) := by
  apply Respects.bind (.of_modify fun state => syncs _ _ (State.synced_syncing ctx state request))
  intro _
  apply callAPI_respects _ respects
  exact fun state => syncs _ _ ⟨(Hushed.of_edited state late).aloof, rfl⟩

theorem storeSync_syncing (kind : SyncKind) (object : SyncObject kind.Spec) :
    Respects (syncing ctx) (storeSync kind object) := by
  apply Respects.of_modify
  intro state
  have stored := Syncing.of_setSyncs ctx state kind ((state.cluster.syncs kind).insert object)
    [] (by simp)
  rwa [List.append_nil] at stored

theorem createSync_syncing (kind : SyncKind) (object : SyncObject kind.Spec) :
    Respects (syncing ctx) (createSync ctx kind object) := by
  apply callSync_respects (fun _ _ => id) (by cases kind <;> rfl)
  apply Respects.of_get.bind
  intro state
  split
  · exact .of_throw _
  · exact storeSync_syncing ctx kind object

theorem updateSync_syncing (kind : SyncKind) (object : SyncObject kind.Spec) :
    Respects (syncing ctx) (updateSync ctx kind object) := by
  apply callSync_respects (fun _ _ => id) (by cases kind <;> rfl)
  apply Respects.of_get.bind
  intro state
  split
  · exact .of_throw _
  · exact .ite (.of_throw _) (storeSync_syncing ctx kind _)

theorem createOrUpdate_syncing (kind : SyncKind) :
    Respects (syncing ctx) (createOrUpdate ctx shard kind) := by
  apply (callSync_respects (fun _ _ => id) (by cases kind <;> rfl)
    (Respects.of_get.bind fun _ => .of_pure _)).bind
  intro existing
  cases existing with
  | none => exact createSync_syncing ctx kind _
  | some object => exact .ite (.of_pure _) (updateSync_syncing ctx kind _)

theorem readSync_syncing (kind : SyncKind) :
    Respects (syncing ctx) (readSync ctx shard kind) := by
  apply callSync_respects (fun _ _ => id) (by cases kind <;> rfl)
  apply Respects.of_get.bind
  intro state
  split
  · exact .of_pure _
  · exact .of_throw _

theorem aggregateReady_mirroring (kind : SyncKind) :
    Respects (mirroring ctx) (aggregateReady ctx shard kind) := by
  apply ((readSync_syncing ctx shard kind).mono fun _ _ syncing => syncing.mirroring).bind
  intro object
  split
  · exact setCondition_mirroring shard _ _ _ (by cases kind <;> rfl)
  · exact .of_pure _

/-- The step on sync objects, in a frame that admits its parts. -/
theorem reconcileSubCRs_respects {frame : Frame State}
    (stills : ∀ before after, Still ctx before after → frame.rel before after)
    (creates : ∀ kind, Respects frame (createOrUpdate ctx shard kind))
    (aggregates : ∀ kind, Respects frame (aggregateReady ctx shard kind)) :
    Respects frame (reconcileSubCRs ctx shard) := by
  apply ((still_of_hushed (verifySecondaryAuth_hushed ctx shard)).mono stills).bind
  intro verified
  apply Respects.ite _ (.of_pure _)
  apply (creates .namespaceSync).attempt.bind
  intro _
  apply (creates .webhookSync).attempt.bind
  intro _
  apply Respects.bind _ fun _ => .of_pure _
  apply Respects.attempt
  exact (aggregates .namespaceSync).bind fun _ => aggregates .webhookSync

theorem reconcileSubCRs_mirroring : Respects (mirroring ctx) (reconcileSubCRs ctx shard) :=
  reconcileSubCRs_respects ctx shard
    (fun _ _ still => ⟨still.aloof, fun type gate _ => still.gates type gate⟩)
    (fun kind => (createOrUpdate_syncing ctx shard kind).mono fun _ _ syncing => syncing.mirroring)
    (aggregateReady_mirroring ctx shard)

theorem setPhase_observing (phase : Phase) : Respects (observing ctx) (setPhase phase) := by
  apply Respects.of_modify
  exact fun state => .of_status rfl rfl

theorem checkAvailability_hushed (uid : UID) :
    Respects (hushed ctx) (Aggregation.checkAvailability ctx uid) :=
  (callAPI_hushed rfl (Respects.of_get.bind fun _ => .of_pure _)).mapError _

theorem checkAPIServiceAvailability_observing :
    Respects (observing ctx) (checkAPIServiceAvailability ctx shard) := by
  apply Respects.of_get.bind
  intro state
  apply Respects.ite
  · exact (setPhase_observing ctx _).bind fun _ => .of_pure _
  · apply Respects.ite
    · exact (removeCondition_observing rfl).bind fun _ => .of_pure _
    · apply ((observing_of_still
        (still_of_hushed (checkAvailability_hushed ctx shard.uid))).mapError _).bind
      intro verdict
      cases verdict with
      | some message =>
          apply (setPhase_observing ctx _).bind
          intro _
          exact (setCondition_observing _ _ _ _ rfl).bind fun _ => .of_pure _
      | none => exact (setCondition_observing _ _ _ _ rfl).bind fun _ => .of_pure _

theorem reportUnhealthy_observing : Respects (observing ctx) (reportUnhealthy shard) := by
  apply (setPhase_observing ctx _).bind
  intro _
  apply (setCondition_observing _ _ _ _ rfl).bind
  intro _
  apply Respects.of_get.bind
  intro state
  exact .ite ((setCondition_observing _ _ _ _ rfl).bind fun _ => .of_pure _) (.of_pure _)

/-- The health check, in a frame that admits observing steps and the one on sync objects. -/
theorem updateHealthStatus_respects {frame : Frame State}
    (observes : ∀ before after, Observing ctx before after → frame.rel before after)
    (syncs : Respects frame (reconcileSubCRs ctx shard)) :
    Respects frame (updateHealthStatus ctx shard) := by
  have observed {α : Type} {program : Pass α} (respects : Respects (observing ctx) program) :
      Respects frame program := respects.mono observes
  apply (observed (observing_of_still
    (still_of_hushed (checkDeploymentHealth_hushed ctx shard)))).bind
  intro healthy
  apply Respects.ite _ (observed (reportUnhealthy_observing ctx shard))
  apply (observed (setCondition_observing _ _ _ _ rfl)).bind
  intro _
  apply Respects.bind
  · apply Respects.of_modify
    exact fun state => observes _ _ (.of_status rfl rfl)
  · intro _
    apply syncs.bind
    intro _
    apply (observed (checkAPIServiceAvailability_observing ctx shard)).bind
    intro result
    exact .ite (.of_pure _) ((observed (setPhase_observing ctx _)).bind fun _ => .of_pure _)

theorem updateHealthStatus_aloof : Respects (aloof ctx) (updateHealthStatus ctx shard) :=
  updateHealthStatus_respects ctx shard (fun _ _ observing => observing.toAloof)
    ((reconcileSubCRs_mirroring ctx shard).mono fun _ _ mirroring => mirroring.toAloof)

/-- Cleaning up drops no tracked object. -/
theorem dropObjects_calm (state : State) {drop : Object → Bool}
    (orphans : ∀ object, drop object = true → object.key ∉ state.tracked) :
    Calm ctx state { state with cluster := state.cluster.dropObjects drop } := by
  refine .of_cluster rfl rfl rfl rfl ?_
  intro present key membership
  obtain ⟨object, objectMem, rfl⟩ := Store.mem_keys.mp (present key membership)
  apply Store.mem_keys.mpr
  refine ⟨object, ?_, rfl⟩
  apply List.mem_filter.mpr
  refine ⟨objectMem, ?_⟩
  cases dropped : drop object with
  | false => rfl
  | true => exact absurd membership (orphans object dropped)

theorem not_tracked_of_orphaned {tracked : List ObjectKey} {object : Object}
    (orphan : orphaned shard tracked object = true) : object.key ∉ tracked := by
  simp only [orphaned, Bool.and_eq_true, decide_eq_true_eq] at orphan
  exact orphan.2

theorem cleanupOrphans_calm : Respects (calm ctx) (cleanupOrphans ctx shard) := by
  apply Respects.of_get.bind
  intro before
  apply Respects.bind (.of_modify fun state => Calm.of_event rfl)
  intro _
  apply (callAPI_calm rfl (.of_pure _)).attempt.bind
  intro answer
  cases answer with
  | ok value =>
      apply Respects.of_modify
      intro state
      apply dropObjects_calm
      exact fun object => not_tracked_of_orphaned shard
  | error failure =>
      apply Respects.bind _ fun _ => .of_throw failure
      apply Respects.of_modify
      intro state
      apply dropObjects_calm
      intro object dropped
      rw [Bool.and_eq_true] at dropped
      exact not_tracked_of_orphaned shard dropped.1

end KubeShard.Apishard
