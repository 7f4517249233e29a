import KubeShard.Apishard.Course
import KubeShard.Apishard.Progress
import KubeShard.Apishard.Silent
import KubeShard.Program.Simulate

/-!
# The answers a pass receives

A pass on the cluster and the pass seen from its status alone are one pass: for the
answers that the calls of the first receive, the second gives the same answer, makes
the same assignments and persists the same status.  What is proved of the status for
all answers therefore holds of every pass.

The second model knows of no refused status write.  A pass that has one refused returns
an error.
-/

namespace KubeShard.Apishard

open Resources Prog Aggregation

/-- The status of the pass is what the report has assigned so far, and it was last
persisted as `written`. -/
structure Tracks (base : APIShardStatus) (now : Nat) (written : Option (List Assignment))
    (state : State) (memory : Report.Memory) : Prop where
  clock : state.cluster.clock = now
  status : state.status = base.assigned now memory.assigned
  written : memory.written = written

section steps

variable {ctx : Schedule} {shard : APIShard} {base : APIShardStatus} {now : Nat}
variable {written : Option (List Assignment)} {state after : State} {memory : Report.Memory}
variable {α : Type}

theorem Tracks.silent (tracks : Tracks base now written state memory)
    (silent : Silent state after) : Tracks base now written after memory :=
  ⟨silent.clock.trans tracks.clock, silent.status.trans tracks.status, tracks.written⟩

/-- From this state the program is the step of the report, for the answers that say what
the program receives. -/
def Shadowed (state : State) (program : Pass α)
    (shadow : Answers → (List Assignment → APIShardStatus) → Report.Reporting α)
    (received : Answers → Prop) : Prop :=
  ∀ (answers : Answers) (base : APIShardStatus) (now : Nat)
    (written : Option (List Assignment)) (memory : Report.Memory),
    received answers → Tracks base now written state memory →
    Simulates (Tracks base now written) program (shadow answers (base.assigned now)) state memory

/-- Making assignments to the status. -/
theorem Tracks.assigns (tracks : Tracks base now written state memory)
    (assignments : List Assignment) (clock : after.cluster.clock = state.cluster.clock)
    (assigned : after.status = state.status.assigned state.cluster.clock assignments) :
    Tracks base now written after
      { memory with assigned := memory.assigned ++ assignments } := by
  refine ⟨clock.trans tracks.clock, ?_, tracks.written⟩
  rw [assigned, tracks.clock, tracks.status, base.assigned_append]

theorem Tracks.assign (tracks : Tracks base now written state memory) (assignment : Assignment)
    (clock : after.cluster.clock = state.cluster.clock)
    (assigned : after.status = assignment.apply state.cluster.clock state.status) :
    Tracks base now written after
      { memory with assigned := memory.assigned ++ [assignment] } :=
  tracks.assigns [assignment] clock assigned

theorem exec_answer (given : Except ApiError α) :
    exec (Report.answer given) memory = (given, memory) := by
  cases given <;> rfl

/-- A step that leaves the status alone is known by its answer. -/
theorem silent_simulated (tracks : Tracks base now written state memory) {program : Pass α}
    (silent : Respects Apishard.silent program) {given : Except ApiError α}
    (received : given = (exec program state).1) :
    Simulates (Tracks base now written) program (Report.answer given) state memory := by
  apply Simulates.of_answer silent
  · exact fun after silent => tracks.silent silent
  · rw [exec_answer, received]

/-- A step that leaves the status alone and whose answer is looked at. -/
theorem read_simulated {β : Type} (tracks : Tracks base now written state memory)
    {program : Pass α} (silent : Respects Apishard.silent program)
    {next : Except ApiError α → Pass β} {shadow : Report.Reporting β}
    (rest : ∀ after, exec program state = ((exec program state).1, after) →
      Tracks base now written after memory →
      Simulates (Tracks base now written) (next (exec program state).1) shadow after memory) :
    Simulates (Tracks base now written) (program.attempt >>= next) shadow state memory := by
  apply Simulates.bind_left (exec_attempt program state)
  exact rest _ rfl (tracks.silent (silent state))

theorem setCondition_simulated (tracks : Tracks base now written state memory)
    (type : ShardCondition) (status : ConditionStatus) (reason message : String) :
    Simulates (Tracks base now written) (setCondition shard type status reason message)
      (Report.setCondition shard type status reason message) state memory :=
  .of_modify (tracks.assign _ rfl rfl)

theorem removeCondition_simulated (tracks : Tracks base now written state memory)
    (type : ShardCondition) :
    Simulates (Tracks base now written) (removeCondition type) (Report.assign (.remove type))
      state memory :=
  .of_modify (tracks.assign _ rfl rfl)

theorem setPhase_simulated (tracks : Tracks base now written state memory) {phase : Phase}
    (named : phase ≠ .empty) :
    Simulates (Tracks base now written) (setPhase phase) (Report.assign (.phase phase named))
      state memory :=
  .of_modify (tracks.assign _ rfl rfl)

/-! ## Storage -/

theorem preservePostgreSQLVolumeClaimTemplates_simulated {answers : Answers}
    (tracks : Tracks base now written state memory)
    (received : answers.statefulSet = (exec (getObject ctx .getStatefulSet
      (targetKey shard .statefulSet (postgreSQLStatefulSetName shard))) state).1.map
        Object.statefulSet) :
    Simulates (Tracks base now written)
      ((fun _ => ()) <$> preservePostgreSQLVolumeClaimTemplates ctx shard
        (buildPostgreSQLStatefulSet shard))
      (Report.preservePostgreSQLVolumeClaimTemplates answers shard) state memory := by
  rw [preservePostgreSQLVolumeClaimTemplates, Report.preservePostgreSQLVolumeClaimTemplates,
    received, map_bind]
  apply read_simulated tracks (getObject_silent _ _)
  intro after _ tracks
  cases (exec (getObject ctx .getStatefulSet
    (targetKey shard .statefulSet (postgreSQLStatefulSetName shard))) state).1 with
  | error failure =>
      by_cases missing : failure.isNotFound
      · simp only [Except.map, missing, if_true]
        exact ⟨rfl, (setCondition_simulated tracks _ _ _ _).2⟩
      · simp only [Except.map, missing]
        exact .of_throw _ tracks
  | ok object =>
      have requested : (buildPostgreSQLStatefulSet shard).volumeClaimTemplates =
        postgreSQLVolumeClaimTemplates shard := rfl
      by_cases unchanged : volumeClaimTemplatesMatch (postgreSQLVolumeClaimTemplates shard)
        object.statefulSet.volumeClaimTemplates
      · simp only [Except.map, requested, unchanged, if_true]
        exact ⟨rfl, (setCondition_simulated tracks _ _ _ _).2⟩
      · simp only [Except.map, requested, unchanged]
        exact ⟨rfl, (setCondition_simulated tracks _ _ _ _).2⟩

theorem prepareDatabase_silent : Respects silent (prepareDatabase ctx shard) := by
  apply ((getOrGeneratePostgresPassword_silent ctx shard).mapError _).bind
  intro password
  apply ((applyOwned_silent ctx shard _ _ _).mapError _).bind
  exact fun _ => (applyOwned_silent ctx shard _ _ _).mapError _

theorem applyDatabase_silent (set : StatefulSet) :
    Respects silent (applyDatabase ctx shard set) := by
  apply ((applyOwned_silent ctx shard _ _ _).mapError _).bind
  exact fun _ => (applyOwned_silent ctx shard _ _ _).mapError _

variable (ctx shard) in
theorem reconcileInClusterPostgreSQL_received (state : State) :
    ∃ credentials statefulSet database, Shadowed state (reconcileInClusterPostgreSQL ctx shard)
      (fun answers _ => Report.reconcileInClusterPostgreSQL answers shard) fun answers =>
        answers.credentials = credentials ∧ answers.statefulSet = statefulSet ∧
          answers.database = database := by
  let prepared := (exec (prepareDatabase ctx shard) state).2
  let preserved := exec ((preservePostgreSQLVolumeClaimTemplates ctx shard
    (buildPostgreSQLStatefulSet shard)).mapError
    (·.wrap "preserving postgresql volume claim templates")) prepared
  refine ⟨(exec (prepareDatabase ctx shard) state).1,
    (exec (getObject ctx .getStatefulSet
      (targetKey shard .statefulSet (postgreSQLStatefulSetName shard))) prepared).1.map
      Object.statefulSet,
    preserved.1.bind fun set => (exec (applyDatabase ctx shard set) preserved.2).1, ?_⟩
  rintro answers base now written memory ⟨credentials, statefulSet, database⟩ tracks
  rw [reconcileInClusterPostgreSQL_eq]
  apply (silent_simulated tracks prepareDatabase_silent credentials).bind
  intro _ after later first _ tracks
  obtain rfl : prepared = after := congrArg Prod.snd first
  apply ((preservePostgreSQLVolumeClaimTemplates_simulated tracks statefulSet).mapError_image
    (·.wrap "preserving postgresql volume claim templates")).bind_image
  intro set after later second _ tracks
  apply silent_simulated tracks (applyDatabase_silent set)
  rw [database, show preserved = (.ok set, after) from second]
  rfl

theorem storageNotReady_simulated (tracks : Tracks base now written state memory)
    (reason message : String) (failure : ApiError) :
    Simulates (Tracks base now written) (storageNotReady shard reason message failure)
      (Report.storageNotReady shard reason message failure) state memory := by
  apply (setCondition_simulated tracks _ _ _ _).bind
  exact fun _ _ _ _ _ tracks => .of_throw failure tracks

variable (ctx shard) in
theorem validateExternalPostgreSQLSecret_received (state : State) :
    ∃ connectionSecret, Shadowed state (validateExternalPostgreSQLSecret ctx shard)
      (fun answers _ => Report.validateExternalPostgreSQLSecret answers shard) fun answers =>
        answers.connectionSecret = connectionSecret := by
  cases isRef : shard.spec.storage.connectionSecretRef with
  | none =>
      refine ⟨.ok { key := ⟨.secret, "", ""⟩ }, ?_⟩
      intro answers base now written memory _ tracks
      simp only [validateExternalPostgreSQLSecret, Report.validateExternalPostgreSQLSecret, isRef]
      exact storageNotReady_simulated tracks _ _ _
  | some ref =>
      refine ⟨(exec (getObject ctx .getConnectionSecret (targetKey shard .secret ref.name))
        state).1, ?_⟩
      intro answers base now written memory received tracks
      simp only [validateExternalPostgreSQLSecret, Report.validateExternalPostgreSQLSecret, isRef,
        received]
      apply read_simulated tracks (getObject_silent _ _)
      intro after _ tracks
      cases (exec (getObject ctx .getConnectionSecret (targetKey shard .secret ref.name))
        state).1 with
      | error failure =>
          by_cases missing : failure.isNotFound
          · simp only [missing, if_true]
            exact storageNotReady_simulated tracks _ _ _
          · simp only [missing]
            exact storageNotReady_simulated tracks _ _ _
      | ok secret =>
          by_cases absent : (secret.lookup ref.key).isNone
          · simp only [absent, if_true]
            exact storageNotReady_simulated tracks _ _ _
          · simp only [absent]
            exact setCondition_simulated tracks _ _ _ _

theorem reportMetrics_simulated {answers : Answers} {collect : Pass Unit}
    (silent : Respects silent collect) (tracks : Tracks base now written state memory)
    (received : answers.collector = (exec collect state).1) :
    Simulates (Tracks base now written) (reportMetrics shard collect)
      (match answers.collector with
      | .error failure =>
          Report.setCondition shard .monitoringDegraded .true "MetricsCollectorFailed"
            s!"Failed to deploy metrics collector: {failure.message}"
      | .ok () =>
          Report.setCondition shard .monitoringDegraded .false "MetricsCollectorHealthy"
            "PostgreSQL metrics collector is deployed") state memory := by
  rw [received]
  apply read_simulated tracks silent
  intro after _ tracks
  cases (exec collect state).1 with
  | error failure => exact setCondition_simulated tracks _ _ _ _
  | ok value => exact setCondition_simulated tracks _ _ _ _

variable (ctx shard) in
theorem reconcilePostgreSQLMetrics_received (r : Reconciler) (state : State) :
    ∃ collector, Shadowed state (reconcilePostgreSQLMetrics r ctx shard)
      (fun answers _ => Report.reconcilePostgreSQLMetrics answers shard) fun answers =>
        answers.collector = collector := by
  by_cases enabled : storageMonitoringEnabled shard
  · cases type : shard.spec.storage.type with
    | sqlite =>
        refine ⟨.ok (), ?_⟩
        intro answers base now written memory _ tracks
        simp only [reconcilePostgreSQLMetrics, Report.reconcilePostgreSQLMetrics, enabled, type]
        exact setCondition_simulated tracks _ _ _ _
    | inClusterPostgreSQL =>
        refine ⟨(exec (inClusterMetrics r ctx shard) state).1, ?_⟩
        intro answers base now written memory received tracks
        simp only [reconcilePostgreSQLMetrics, Report.reconcilePostgreSQLMetrics, enabled, type]
        exact reportMetrics_simulated (inClusterMetrics_silent r ctx shard) tracks received
    | postgreSQL =>
        refine ⟨(exec (externalMetrics r ctx shard) state).1, ?_⟩
        intro answers base now written memory received tracks
        simp only [reconcilePostgreSQLMetrics, Report.reconcilePostgreSQLMetrics, enabled, type]
        exact reportMetrics_simulated (externalMetrics_silent r ctx shard) tracks received
  · refine ⟨.ok (), ?_⟩
    intro answers base now written memory _ tracks
    simp only [reconcilePostgreSQLMetrics, Report.reconcilePostgreSQLMetrics, enabled]
    exact removeCondition_simulated tracks _

variable (ctx shard) in
/-- The steps of every backend after the database. -/
theorem finishStorage_received (r : Reconciler) (state : State) :
    ∃ kine collector, Shadowed state
      (do
        (reconcileKine ctx shard).mapError (·.wrap "kine")
        reconcilePostgreSQLMetrics r ctx shard)
      (fun answers _ => do
        (Report.answer answers.kine).mapError (·.wrap "kine")
        Report.reconcilePostgreSQLMetrics answers shard) fun answers =>
        answers.kine = kine ∧ answers.collector = collector := by
  obtain ⟨collector, collected⟩ := reconcilePostgreSQLMetrics_received ctx shard r
    (exec (reconcileKine ctx shard) state).2
  refine ⟨(exec (reconcileKine ctx shard) state).1, collector, ?_⟩
  rintro answers base now written memory ⟨kine, received⟩ tracks
  apply ((silent_simulated tracks (reconcileKine_silent ctx shard) kine).mapError _).bind
  intro _ after later ran _ tracks
  rw [exec_mapError_eq_ok] at ran
  rw [ran] at collected
  exact collected answers base now written later received tracks

variable (ctx shard) in
theorem reconcileStorage_received (r : Reconciler) (state : State) :
    ∃ credentials statefulSet database connectionSecret kine collector,
      Shadowed state (reconcileStorage r ctx shard)
        (fun answers _ => Report.reconcileStorage answers shard) fun answers =>
          answers.credentials = credentials ∧ answers.statefulSet = statefulSet ∧
          answers.database = database ∧ answers.connectionSecret = connectionSecret ∧
          answers.kine = kine ∧ answers.collector = collector := by
  cases type : shard.spec.storage.type with
  | sqlite =>
      obtain ⟨kine, collector, finished⟩ := finishStorage_received ctx shard r state
      refine ⟨.ok (), .ok {}, .ok (), .ok { key := ⟨.secret, "", ""⟩ }, kine, collector, ?_⟩
      rintro answers base now written memory ⟨_, _, _, _, received⟩ tracks
      simp only [reconcileStorage, Report.reconcileStorage, type]
      exact finished answers base now written memory received tracks
  | inClusterPostgreSQL =>
      obtain ⟨credentials, statefulSet, database, stored⟩ :=
        reconcileInClusterPostgreSQL_received ctx shard state
      obtain ⟨kine, collector, finished⟩ := finishStorage_received ctx shard r
        (exec (reconcileInClusterPostgreSQL ctx shard) state).2
      refine ⟨credentials, statefulSet, database, .ok { key := ⟨.secret, "", ""⟩ }, kine,
        collector, ?_⟩
      rintro answers base now written memory ⟨isCredentials, isSet, isDatabase, _, received⟩ tracks
      simp only [reconcileStorage, Report.reconcileStorage, type]
      apply ((stored answers base now written memory ⟨isCredentials, isSet, isDatabase⟩
        tracks).mapError _).bind
      intro _ after later ran _ tracks
      rw [exec_mapError_eq_ok] at ran
      rw [ran] at finished
      exact finished answers base now written later received tracks
  | postgreSQL =>
      obtain ⟨connectionSecret, validated⟩ :=
        validateExternalPostgreSQLSecret_received ctx shard state
      obtain ⟨kine, collector, finished⟩ := finishStorage_received ctx shard r
        (exec (validateExternalPostgreSQLSecret ctx shard) state).2
      refine ⟨.ok (), .ok {}, .ok (), connectionSecret, kine, collector, ?_⟩
      rintro answers base now written memory ⟨_, _, _, isSecret, received⟩ tracks
      simp only [reconcileStorage, Report.reconcileStorage, type]
      apply ((validated answers base now written memory isSecret tracks).mapError _).bind
      intro _ after later ran _ tracks
      rw [exec_mapError_eq_ok] at ran
      rw [ran] at finished
      exact finished answers base now written later received tracks

/-! ## The admin kubeconfig -/

variable (ctx shard) in
/-- Either something is missing and nothing is done, or the kubeconfig is applied with what
the Secrets have. -/
theorem reconcileAdminKubeconfig_cases (state : State) :
    (Silent state (exec (reconcileAdminKubeconfig ctx shard) state).2 ∧
      (credentials shard state.cluster = none ∨ credentialsUnread ctx = true)) ∨
    ∃ given, credentials shard state.cluster = some given ∧
      exec (reconcileAdminKubeconfig ctx shard) state =
        exec (applyAdminKubeconfig ctx shard given.caData given.clientCert given.clientKey)
          ((state.edited ctx .getPKI).edited ctx .getAdminClient) := by
  rcases exec_reconcileAdminKubeconfig ctx shard state with
    ⟨reads, missing⟩ | ⟨given, isGiven, _, applies⟩
  · left
    refine ⟨?_, missing⟩
    rcases reads with same | same
    · rw [same]
      exact ⟨rfl, rfl⟩
    · rw [same]
      exact ⟨rfl, rfl⟩
  · exact .inr ⟨given, isGiven, applies⟩

variable (ctx shard) in
theorem reconcileAdminKubeconfig_received (state : State) :
    ∃ adminKubeconfig, Shadowed state (reconcileAdminKubeconfig ctx shard)
      (fun answers _ => Report.reconcileAdminKubeconfig answers shard) fun answers =>
        answers.adminKubeconfig = adminKubeconfig := by
  rcases reconcileAdminKubeconfig_cases ctx shard state with ⟨silent, _⟩ | ⟨given, _, applies⟩
  · refine ⟨(exec (reconcileAdminKubeconfig ctx shard) state).1.map fun _ => false, ?_⟩
    intro answers base now written memory received tracks
    have reported : exec (Report.reconcileAdminKubeconfig answers shard) memory =
        ((exec (reconcileAdminKubeconfig ctx shard) state).1, memory) := by
      rw [Report.reconcileAdminKubeconfig, received]
      cases (exec (reconcileAdminKubeconfig ctx shard) state).1 <;> rfl
    rw [Simulates, reported]
    exact ⟨rfl, tracks.silent silent⟩
  · let write := (applyOwned ctx shard .adminKubeconfig
      [("kubeconfig", adminKubeconfig shard given.caData given.clientCert given.clientKey),
        ("tls.crt", given.clientCert), ("tls.key", given.clientKey)]).mapError
      (·.wrap "admin kubeconfig secret")
    let read := (state.edited ctx .getPKI).edited ctx .getAdminClient
    have silent : Respects silent ((fun _ => true) <$> write) := by
      rw [map_eq_pure_bind]
      exact ((applyOwned_silent ctx shard _ _ _).mapError _).bind fun _ => .of_pure _
    refine ⟨(exec ((fun _ => true) <$> write) read).1, ?_⟩
    intro answers base now written memory received tracks
    rw [Simulates, applies]
    have begun : Tracks base now written read memory := tracks.silent ⟨rfl, rfl⟩
    apply (silent_simulated begun silent received).bind_image
    exact fun _ after later _ _ tracks => .of_modify (tracks.assign _ rfl rfl)

/-! ## APIServices and CRDs -/

variable (ctx shard) in
theorem reconcileAPIServices_received (state : State) :
    ∃ apiServices orphan, Shadowed state (reconcileAPIServices ctx shard)
      (fun answers read => Report.reconcileAPIServices answers shard read) fun answers =>
        answers.apiServices = apiServices ∧ answers.orphan = orphan := by
  refine ⟨(exec (reconcileAPIServices ctx shard) state).1, fun _ => .ok (), ?_⟩
  rintro answers base now written memory ⟨received, orphan⟩ tracks
  cases ran : exec (reconcileAPIServices ctx shard) state with
  | mk answer after =>
      rw [ran] at received
      cases answer with
      | error failure =>
          have silent := silent_of_registering (reconcileAPIServices_error ran)
          have reported : exec (Report.reconcileAPIServices answers shard (base.assigned now))
              memory = (.error failure, memory) := by
            simp only [Report.reconcileAPIServices, received]
            rfl
          rw [Simulates, ran, reported]
          exact ⟨rfl, tracks.silent silent⟩
      | ok value =>
          obtain ⟨registered, registering, _, _, rfl⟩ := reconcileAPIServices_ok ran
          have nothing (desired names : List String) :
              Report.deleteOrphanedAPIServices answers desired names = .ok () := by
            induction names with
            | nil => rfl
            | cons name rest ih =>
                simp only [Report.deleteOrphanedAPIServices, orphan, ih, ite_self]
          have reported : exec (Report.reconcileAPIServices answers shard (base.assigned now))
              memory = (.ok (), { memory with assigned := memory.assigned ++
                [.registeredAPIServices (desiredAPIServiceNames shard)] }) := by
            simp only [Report.reconcileAPIServices, received, nothing]
            rfl
          rw [Simulates, ran, reported]
          exact ⟨rfl, (tracks.silent (silent_of_registering registering)).assign _ rfl rfl⟩

variable (ctx shard) in
/-- The list of the CRDs fails, or the conflicting ones are found. -/
theorem exec_detectCRDConflicts (state : State) :
    exec (detectCRDConflicts ctx shard) state =
      match ctx.faults .listCRDs with
      | some failure => (.error (failure.wrap "listing CRDs"), state.edited ctx .listCRDs)
      | none => (.ok ((conflicting shard state.cluster.crds.items).map CRD.name),
          state.edited ctx .listCRDs) := by
  rw [detectCRDConflicts, exec_mapError]
  cases faults : ctx.faults .listCRDs with
  | some failure => rw [exec_callAPI_some faults]
  | none =>
      rw [exec_callAPI_none faults]
      rfl

/-- With nothing to say about single CRDs, the report knows the sync by its client. -/
theorem report_syncCRDsToSecondary {answers : Answers} (synced : answers.syncCRD = fun _ => .ok ())
    (names : List String) : Report.syncCRDsToSecondary answers names = answers.syncClient := by
  rw [Report.syncCRDsToSecondary]
  cases answers.syncClient with
  | error failure => rfl
  | ok value => simp only [synced, List.filterMap_none]

variable (ctx shard) in
theorem reconcileCRDConflicts_received (state : State) :
    ∃ crds syncClient syncCRD, Shadowed state (reconcileCRDConflicts ctx shard)
      (fun answers _ => Report.reconcileCRDConflicts answers shard) fun answers =>
        answers.crds = crds ∧ answers.syncClient = syncClient ∧ answers.syncCRD = syncCRD := by
  have detected := exec_detectCRDConflicts ctx shard state
  cases faults : ctx.faults .listCRDs with
  | some failure =>
      refine ⟨.error failure, .ok (), fun _ => .ok (), ?_⟩
      rintro answers base now written memory ⟨received, _, _⟩ tracks
      rw [faults] at detected
      rw [Simulates, reconcileCRDConflicts, exec_bind, exec_attempt, detected]
      simp only [Report.reconcileCRDConflicts, received]
      exact ⟨rfl, tracks.silent ⟨rfl, rfl⟩⟩
  | none =>
      let names := (conflicting shard state.cluster.crds.items).map CRD.name
      let sync := syncCRDsToSecondary ctx shard names
      refine ⟨.ok state.cluster.crds.items, (exec sync (state.edited ctx .listCRDs)).1,
        fun _ => .ok (), ?_⟩
      rintro answers base now written memory ⟨received, isClient, isSynced⟩ tracks
      rw [faults] at detected
      have begun : Tracks base now written (state.edited ctx .listCRDs) memory :=
        tracks.silent ⟨rfl, rfl⟩
      rw [Simulates, reconcileCRDConflicts, exec_bind, exec_attempt, detected]
      simp only [Report.reconcileCRDConflicts, received]
      cases listed : (conflicting shard state.cluster.crds.items).map CRD.name with
      | nil => exact setCondition_simulated begun _ _ _ _
      | cons name rest =>
          have isNames : names = name :: rest := listed
          simp only [report_syncCRDsToSecondary isSynced, isClient]
          have silent : Respects silent sync := syncCRDsToSecondary_silent ctx shard names
          simp only [sync, isNames] at silent ⊢
          apply read_simulated begun silent
          intro after _ tracks
          cases (exec (syncCRDsToSecondary ctx shard (name :: rest))
            (state.edited ctx .listCRDs)).1 with
          | error failure => exact setCondition_simulated tracks _ _ _ _
          | ok value => exact setCondition_simulated tracks _ _ _ _

/-! ## Health -/

variable (ctx shard) in
theorem aggregateReady_received (kind : SyncKind) (state : State) :
    ∃ ready, ∀ (base : APIShardStatus) (now : Nat) (written : Option (List Assignment))
      (memory : Report.Memory), Tracks base now written state memory →
      Simulates (Tracks base now written) (aggregateReady ctx shard kind)
        (Report.aggregateReady shard kind.condition ready) state memory := by
  let ready (object : SyncObject kind.Spec) := findStatusCondition object.conditions .ready
  refine ⟨(exec (ready <$> readSync ctx shard kind) state).1, ?_⟩
  intro base now written memory tracks
  have silent : Respects silent (ready <$> readSync ctx shard kind) := by
    rw [map_eq_pure_bind]
    exact (readSync_silent ctx shard kind).bind fun _ => .of_pure _
  apply (silent_simulated tracks silent rfl).bind_image
  intro object after later _ _ tracks
  cases isReady : findStatusCondition object.conditions .ready with
  | some found =>
      simp only [ready, isReady]
      exact setCondition_simulated tracks _ _ _ _
  | none =>
      simp only [ready, isReady]
      exact .of_pure _ tracks

variable (ctx shard) in
theorem aggregateSubCRStatus_received (state : State) :
    ∃ namespaceSync webhookSync, Shadowed state (aggregateSubCRStatus ctx shard)
      (fun answers _ => Report.aggregateSubCRStatus answers shard) fun answers =>
        answers.namespaceSync = namespaceSync ∧ answers.webhookSync = webhookSync := by
  obtain ⟨namespaceSync, first⟩ := aggregateReady_received ctx shard .namespaceSync state
  obtain ⟨webhookSync, second⟩ := aggregateReady_received ctx shard .webhookSync
    (exec (aggregateReady ctx shard .namespaceSync) state).2
  refine ⟨namespaceSync, webhookSync, ?_⟩
  rintro answers base now written memory ⟨isFirst, isSecond⟩ tracks
  simp only [Report.aggregateSubCRStatus, isFirst, isSecond]
  apply Simulates.bind
  · apply Simulates.attempt
    apply (first base now written memory tracks).bind
    intro _ after later ran _ tracks
    rw [ran] at second
    exact second base now written later tracks
  · exact fun _ _ _ _ _ tracks => .of_pure _ tracks

variable (ctx shard) in
theorem reconcileSubCRs_received (state : State) :
    ∃ verified namespaceSync webhookSync, Shadowed state (reconcileSubCRs ctx shard)
      (fun answers _ => if answers.verifySecondaryAuth then Report.aggregateSubCRStatus answers shard
        else pure ()) fun answers =>
        answers.verifySecondaryAuth = verified ∧ answers.namespaceSync = namespaceSync ∧
          answers.webhookSync = webhookSync := by
  obtain ⟨verified, checked, ran⟩ : Returns (verifySecondaryAuth ctx shard) state :=
    verifySecondaryAuth_returns
  have silent := (verifySecondaryAuth_silent ctx shard).rel ran
  cases verified with
  | false =>
      refine ⟨false, .ok none, .ok none, ?_⟩
      rintro answers base now written memory ⟨isVerified, _, _⟩ tracks
      rw [Simulates, reconcileSubCRs, exec_bind_ok ran]
      simp only [isVerified]
      exact ⟨rfl, tracks.silent silent⟩
  | true =>
      let created := (exec (reconcileNamespaceSync ctx shard) checked).2
      let updated := (exec (reconcileWebhookSync ctx shard) created).2
      obtain ⟨namespaceSync, webhookSync, aggregated⟩ :=
        aggregateSubCRStatus_received ctx shard updated
      refine ⟨true, namespaceSync, webhookSync, ?_⟩
      rintro answers base now written memory ⟨isVerified, received⟩ tracks
      have reached : Tracks base now written updated memory := by
        apply ((tracks.silent silent).silent (createOrUpdate_silent ctx shard _ checked)).silent
        exact createOrUpdate_silent ctx shard _ created
      rw [Simulates, reconcileSubCRs, exec_bind_ok ran]
      simp only [isVerified]
      exact aggregated answers base now written memory received reached

theorem report_status (tracks : Tracks base now written state memory) :
    exec (Report.status (base.assigned now)) memory = (.ok state.status, memory) := by
  rw [tracks.status]
  rfl

variable (ctx) in
theorem exec_checkAvailability (uid : UID) (state : State) :
    exec (checkAvailability ctx uid) state =
      match ctx.faults .listAPIServices with
      | some failure =>
          (.error (failure.wrap "list APIServices"), state.edited ctx .listAPIServices)
      | none => (.ok (checkOwned uid state.cluster.apiServices.items),
          state.edited ctx .listAPIServices) := by
  rw [checkAvailability, exec_mapError]
  cases faults : ctx.faults .listAPIServices with
  | some failure => rw [exec_callAPI_some faults]
  | none =>
      rw [exec_callAPI_none faults]
      rfl

variable (ctx shard) in
theorem checkAPIServiceAvailability_received (state : State) :
    ∃ services, Shadowed state (checkAPIServiceAvailability ctx shard)
      (fun answers read => Report.checkAPIServiceAvailability answers shard read) fun answers =>
        answers.services = services := by
  refine ⟨match ctx.faults .listAPIServices with
    | some failure =>
        .error ((failure.wrap "list APIServices").wrap "check APIService availability")
    | none => .ok state.cluster.apiServices.items, ?_⟩
  intro answers base now written memory received tracks
  rw [Simulates]
  dsimp only
  rw [checkAPIServiceAvailability, Report.checkAPIServiceAvailability, exec_bind_ok
    (exec_get state),
    exec_bind_ok (report_status tracks)]
  by_cases failed : conflictIs "CRDSyncFailed" state.status
  · simp only [failed, if_true]
    exact (setPhase_simulated tracks _).bind fun _ _ _ _ _ tracks => .of_pure _ tracks
  by_cases unsynced : !conflictIs "CRDsSyncedToSecondary" state.status
  · simp only [failed, unsynced, if_true]
    exact (removeCondition_simulated tracks _).bind fun _ _ _ _ _ tracks => .of_pure _ tracks
  simp only [failed, unsynced, Bool.false_eq_true, if_false]
  have listed := exec_checkAvailability ctx shard.uid state
  have begun : Tracks base now written (state.edited ctx .listAPIServices) memory :=
    tracks.silent ⟨rfl, rfl⟩
  cases faults : ctx.faults .listAPIServices with
  | some failure =>
      rw [faults] at listed received
      rw [exec_bind, exec_mapError, listed, received]
      exact ⟨rfl, begun⟩
  | none =>
      rw [faults] at listed received
      have answered : exec ((checkAvailability ctx shard.uid).mapError
          (·.wrap "check APIService availability")) state =
          (.ok (checkOwned shard.uid state.cluster.apiServices.items),
            state.edited ctx .listAPIServices) :=
        exec_mapError_eq_ok.mpr listed
      rw [exec_bind_ok answered, received]
      simp only [Report.answer, pure_bind]
      cases checkOwned shard.uid state.cluster.apiServices.items with
      | none =>
          apply (setCondition_simulated begun _ _ _ _).bind
          exact fun _ _ _ _ _ tracks => .of_pure _ tracks
      | some message =>
          apply (setPhase_simulated begun _).bind
          intro _ _ _ _ _ tracks
          apply (setCondition_simulated tracks _ _ _ _).bind
          exact fun _ _ _ _ _ tracks => .of_pure _ tracks

theorem reportUnhealthy_simulated (tracks : Tracks base now written state memory) :
    Simulates (Tracks base now written) (reportUnhealthy shard)
      (Report.reportUnhealthy shard (base.assigned now)) state memory := by
  apply (setPhase_simulated tracks _).bind
  intro _ _ _ _ _ tracks
  apply (setCondition_simulated tracks _ _ _ _).bind
  intro _ after later _ _ tracks
  rw [Simulates, exec_bind_ok (exec_get after), exec_bind_ok (report_status tracks)]
  by_cases synced : conflictIs "CRDsSyncedToSecondary" after.status
  · simp only [synced, if_true]
    apply (setCondition_simulated tracks _ _ _ _).bind
    exact fun _ _ _ _ _ tracks => .of_pure _ tracks
  · simp only [synced]
    exact ⟨rfl, tracks⟩

theorem secondaryEndpoint_simulated (tracks : Tracks base now written state memory)
    (endpoint : String) :
    Simulates (Tracks base now written)
      (modify fun state => { state with status.secondaryEndpoint := endpoint } : Pass Unit)
      (Report.assign (.secondaryEndpoint endpoint)) state memory :=
  .of_modify (tracks.assign _ rfl rfl)

/-- The report on workloads that are ready. -/
theorem report_updateHealthStatus {answers : Answers} {read : List Assignment → APIShardStatus}
    (healthy : answers.checkDeploymentHealth = .ok true) :
    Report.updateHealthStatus answers shard read = (do
      Report.setCondition shard .secondaryHealthy .true "DeploymentAvailable"
        "Secondary API server is healthy"
      Report.assign (.secondaryEndpoint (secondaryEndpoint shard))
      (if answers.verifySecondaryAuth then Report.aggregateSubCRStatus answers shard else pure ())
      let result ← Report.checkAPIServiceAvailability answers shard read
      if result.requeueAfter > 0 then
        pure result
      else
        Report.assign (.phase .ready Phase.ready_ne_empty)
        pure {}) := by
  rw [Report.updateHealthStatus, healthy]
  cases answers.verifySecondaryAuth <;> rfl

variable (ctx shard) in
theorem updateHealthStatus_received (state : State) :
    ∃ healthy verified namespaceSync webhookSync services,
      Shadowed state (updateHealthStatus ctx shard)
        (fun answers read => Report.updateHealthStatus answers shard read) fun answers =>
          answers.checkDeploymentHealth = healthy ∧ answers.verifySecondaryAuth = verified ∧
          answers.namespaceSync = namespaceSync ∧ answers.webhookSync = webhookSync ∧
          answers.services = services := by
  cases ran : exec (checkDeploymentHealth ctx shard) state with
  | mk answer checked =>
  have silent := (checkDeploymentHealth_silent ctx shard).rel ran
  let marked (state : State) : State := { state with
    status.conditions := setStatusCondition state.cluster.clock ⟨.secondaryHealthy, .true,
      "DeploymentAvailable", "Secondary API server is healthy", shard.generation⟩
      state.status.conditions
    status.secondaryEndpoint := secondaryEndpoint shard }
  obtain ⟨verified, namespaceSync, webhookSync, aggregated⟩ :=
    reconcileSubCRs_received ctx shard (marked checked)
  obtain ⟨services, available⟩ := checkAPIServiceAvailability_received ctx shard
    (exec (reconcileSubCRs ctx shard) (marked checked)).2
  refine ⟨answer, verified, namespaceSync, webhookSync, services, ?_⟩
  rintro answers base now written memory ⟨isHealthy, isVerified, isFirst, isSecond, isServices⟩
    tracks
  have begun := tracks.silent silent
  rw [Simulates, updateHealthStatus, exec_bind, ran]
  cases answer with
  | error failure =>
      simp only [Report.updateHealthStatus, isHealthy]
      exact ⟨rfl, begun⟩
  | ok healthy =>
      cases healthy with
      | false =>
          simp only [Report.updateHealthStatus, isHealthy]
          exact reportUnhealthy_simulated begun
      | true =>
          dsimp only
          rw [report_updateHealthStatus isHealthy]
          apply (setCondition_simulated begun _ _ _ _).bind
          rintro _ _ _ ⟨⟩ _ tracks
          apply (secondaryEndpoint_simulated tracks _).bind
          rintro _ _ _ ⟨⟩ _ tracks
          apply (aggregated answers base now written _ ⟨isVerified, isFirst, isSecond⟩ tracks).bind
          intro _ after later ran _ tracks
          rw [ran] at available
          apply (available answers base now written later isServices tracks).bind
          intro result _ _ _ _ tracks
          by_cases again : result.requeueAfter > 0
          · simp only [again, if_true]
            exact .of_pure _ tracks
          · simp only [again, if_false]
            apply (setPhase_simulated tracks _).bind
            exact fun _ _ _ _ _ tracks => .of_pure _ tracks

end steps

end KubeShard.Apishard
