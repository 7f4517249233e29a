import KubeShard.Apishard.Received

/-!
# A pass and its report

With the answers its calls receive, a pass on a live shard and the report of it run side
by side: after every step the status of the copy is what the report has assigned, and the
stored shard has what the report has persisted.  This stands as long as nobody else
writes the shard.  A status write that is refused ends the pass with an error.
-/

namespace KubeShard.Apishard

open Resources Prog Aggregation

/-- Nobody edits the shard once its copy is made, and no status write fails. -/
structure Schedule.Uncontested (ctx : Schedule) (copy : APIShard) : Prop where
  edits : ∀ edit, ctx.Late edit → edit.name ≠ copy.name
  writes : ∀ request ∈ [Call.writeProvisioning, .writeError, .writeFinal],
    ctx.faults request = none

/-- What a report has persisted of a status. -/
def Report.Memory.persisted (memory : Memory) (base : APIShardStatus) (now : Nat) :
    APIShardStatus :=
  match memory.written with
  | none => base
  | some assignments => base.assigned now assignments

/-- The status of the copy is what the report has assigned, and that of the stored shard
what it has persisted. -/
structure Persists (ctx : Schedule) (copy : APIShard) (base : APIShardStatus) (now : Nat)
    (state : State) (memory : Report.Memory) : Prop where
  clock : state.cluster.clock = now
  status : state.status = base.assigned now memory.assigned
  stored : ctx.Uncontested copy →
    ∃ stored, state.cluster.registry.shards.find? copy.name = some stored ∧
      stored.resourceVersion = state.resourceVersion ∧ stored.status = memory.persisted base now

/-- From here on the pass follows its report, or it ends with an error because its shard
is contested. -/
def Shadows {α : Type} (ctx : Schedule) (copy : APIShard) (base : APIShardStatus) (now : Nat)
    (program : Pass α) (shadow : Report.Reporting α) (state : State) (memory : Report.Memory) :
    Prop :=
  Simulates (Persists ctx copy base now) program shadow state memory ∨
    ¬ctx.Uncontested copy ∧ ∃ failure after, exec program state = (.error failure, after)

section relation

variable {ctx : Schedule} {copy : APIShard} {base : APIShardStatus} {now : Nat}
variable {state after : State} {memory : Report.Memory} {α β : Type}

theorem Persists.tracks (persists : Persists ctx copy base now state memory) :
    Tracks base now memory.written state memory :=
  ⟨persists.clock, persists.status, rfl⟩

theorem Persists.working {later : Report.Memory}
    (persists : Persists ctx copy base now state memory)
    (working : Working ctx state after) (tracks : Tracks base now memory.written after later) :
    Persists ctx copy base now after later := by
  refine ⟨tracks.clock, tracks.status, ?_⟩
  intro uncontested
  obtain ⟨stored, found, fresh, isStatus⟩ := persists.stored uncontested
  obtain ⟨edits, late, edited⟩ := working.registry
  refine ⟨stored, ?_, fresh.trans working.resourceVersion.symm, ?_⟩
  · rw [edited, Registry.find?_edits_of_ne _ fun edit membership =>
      uncontested.edits edit (late edit membership)]
    exact found
  · rw [isStatus, Report.Memory.persisted, Report.Memory.persisted, tracks.written]

theorem Shadows.bind {program : Pass α} {shadow : Report.Reporting α} {next : α → Pass β}
    {shadowNext : α → Report.Reporting β}
    (first : Shadows ctx copy base now program shadow state memory)
    (second : ∀ value after later, exec program state = (.ok value, after) →
      exec shadow memory = (.ok value, later) → Persists ctx copy base now after later →
      Shadows ctx copy base now (next value) (shadowNext value) after later) :
    Shadows ctx copy base now (program >>= next) (shadow >>= shadowNext) state memory := by
  rcases first with ⟨same, holds⟩ | ⟨contested, failure, after, ran⟩
  · cases ran : exec program state with
    | mk answer after =>
    cases mirrored : exec shadow memory with
    | mk given later =>
    rw [ran, mirrored] at same holds
    obtain rfl : answer = given := same
    cases answer with
    | ok value =>
        rw [Shadows, Simulates, exec_bind_ok ran, exec_bind_ok mirrored]
        exact second value after later ran mirrored holds
    | error failure =>
        left
        rw [Simulates, exec_bind, ran, exec_bind, mirrored]
        exact ⟨rfl, holds⟩
  · right
    exact ⟨contested, failure, after, by rw [exec_bind, ran]⟩

/-- A step that writes no shard is shadowed as far as the status goes. -/
theorem Shadows.of_step (persists : Persists ctx copy base now state memory) {program : Pass α}
    {shadow : Report.Reporting α} (working : Respects (working ctx) program)
    (simulates : Simulates (Tracks base now memory.written) program shadow state memory) :
    Shadows ctx copy base now program shadow state memory :=
  .inl ⟨simulates.1, persists.working (working state) simulates.2⟩

/-! ## Status writes -/

theorem updateStatus_shadows (persists : Persists ctx copy base now state memory) (request : Call)
    (late : request.late = true)
    (writes : request ∈ [Call.writeProvisioning, .writeError, .writeFinal]) :
    Shadows ctx copy base now (updateStatus ctx request copy) Report.persist state memory := by
  rcases updateStatus_cases ctx copy request state with
    ⟨failure, ran⟩ | ⟨stored, _, name, _, ran⟩
  · right
    refine ⟨?_, failure, _, ran⟩
    intro uncontested
    obtain ⟨stored, found, fresh, _⟩ := persists.stored uncontested
    have inStep : InStep copy (state.edited ctx request) :=
      InStep.edited uncontested.edits ⟨stored, found, fresh⟩ (editedBy_late state late) rfl
    obtain ⟨stored, found, fresh⟩ := inStep
    cases ran.symm.trans (exec_updateStatus (uncontested.writes request writes) found fresh)
  · left
    rw [Simulates, ran]
    refine ⟨rfl, persists.clock, persists.status, fun _ => ?_⟩
    refine ⟨(state.edited ctx request).cluster.registry.updated stored state.status, ?_, rfl,
      persists.status⟩
    rw [← name]
    exact Store.find?_insert_self _ _

theorem exec_report_setError (failure : ApiError) (memory : Report.Memory) :
    exec (Report.setError copy failure) memory = (.ok (),
      { memory with assigned := memory.assigned ++ Report.errorAssignments copy failure }) := by
  simp [Report.setError, Report.setCondition, Report.assign, exec_bind, Report.errorAssignments]

theorem setError_simulated {written : Option (List Assignment)}
    (tracks : Tracks base now written state memory) (failure : ApiError) :
    Simulates (Tracks base now written) (setError copy failure) (Report.setError copy failure)
      state memory := by
  rw [Simulates, exec_report_setError]
  exact ⟨rfl, tracks.assigns _ rfl rfl⟩

theorem setErrorAndRequeue_shadows (persists : Persists ctx copy base now state memory)
    (failure : ApiError) :
    Shadows ctx copy base now (setErrorAndRequeue ctx copy failure : Pass α)
      (do
        Report.setError copy failure
        Report.persist
        throw failure) state memory := by
  apply (Shadows.of_step persists (calm_of_aloof (aloof_of_observing
    (setError_observing ctx copy failure)) |>.mono fun _ _ calm => calm.working)
    (setError_simulated persists.tracks failure)).bind
  intro _ after later _ _ persists
  rcases updateStatus_shadows persists .writeError rfl (by decide) with
    ⟨same, holds⟩ | ⟨contested, refused, last, ran⟩
  · left
    exact ⟨rfl, holds⟩
  · right
    exact ⟨contested, failure, last, by rw [exec_bind, exec_attempt, ran]; rfl⟩

/-- A step whose failure is reported. -/
theorem orSetError_shadows (persists : Persists ctx copy base now state memory) {program : Pass α}
    {shadow : Report.Reporting α} (working : Respects (working ctx) program)
    (simulates : Simulates (Tracks base now memory.written) program shadow state memory) :
    Shadows ctx copy base now (orSetError ctx copy program) (Report.orSetError copy shadow)
      state memory := by
  apply (Shadows.of_step persists working.attempt simulates.attempt).bind
  intro answer after later _ _ persists
  cases answer with
  | ok value => exact .inl (.of_pure value persists)
  | error failure => exact setErrorAndRequeue_shadows persists failure

theorem initializePhase_shadows (persists : Persists ctx copy base now state {}) :
    Shadows ctx copy base now (initializePhase ctx copy) Report.initializePhase state {} := by
  have unassigned : state.status = base := persists.status
  by_cases empty : state.status.phase = .empty
  · have tracks : Tracks base now none { state with status.phase := .provisioning }
        ⟨[.initialPhase], none⟩ := by
      refine persists.tracks.assign .initialPhase ?_ ?_
      · rfl
      · rw [Assignment.apply, if_pos empty]
    have persists : Persists ctx copy base now { state with status.phase := .provisioning }
        ⟨[.initialPhase], none⟩ :=
      ⟨tracks.clock, tracks.status, persists.stored⟩
    have ran : exec (initializePhase ctx copy) state = exec (updateStatus ctx .writeProvisioning copy)
        { state with status.phase := .provisioning } := by
      rw [exec_initializePhase, if_pos empty]
    rw [Shadows, Simulates, ran]
    exact updateStatus_shadows persists .writeProvisioning rfl (by decide)
  · left
    have same : base.assigned now [.initialPhase] = base := by
      rw [unassigned] at empty
      exact if_neg empty
    rw [Simulates, exec_initializePhase, if_neg empty]
    refine ⟨rfl, persists.clock, unassigned.trans same.symm, ?_⟩
    intro uncontested
    obtain ⟨stored, found, fresh, isStatus⟩ := persists.stored uncontested
    exact ⟨stored, found, fresh, isStatus.trans same.symm⟩

theorem reportSuccess_shadows (persists : Persists ctx copy base now state memory) :
    Shadows ctx copy base now (reportSuccess ctx copy) (Report.reportSuccess copy)
      state memory := by
  have marks : Simulates (Tracks base now memory.written) (setReconciled copy)
      (do
        Report.assign (.message "")
        Report.assign (.observedGeneration copy.generation)
        Report.setCondition copy .reconciled .true "ReconcileSucceeded"
          "All resources reconciled successfully") state memory := by
    refine ⟨rfl, ?_⟩
    have tracks : Tracks base now memory.written (exec (setReconciled copy) state).2 { memory with
        assigned := memory.assigned ++ Report.successAssignments copy } :=
      persists.tracks.assigns _ rfl rfl
    simpa [Report.setCondition, Report.assign, exec_bind, Report.successAssignments] using tracks
  have shown : Report.reportSuccess copy = (do
      (do
        Report.assign (.message "")
        Report.assign (.observedGeneration copy.generation)
        Report.setCondition copy .reconciled .true "ReconcileSucceeded"
          "All resources reconciled successfully")
      Report.persist) := by
    simp only [Report.reportSuccess, bind_assoc]
  rw [shown]
  apply (Shadows.of_step persists ((setReconciled_calm ctx copy).mono fun _ _ calm => calm.working)
    marks).bind
  exact fun _ _ _ _ _ persists => updateStatus_shadows persists .writeFinal rfl (by decide)

end relation

/-! ## The first half of a pass -/

section resources

variable (r : Reconciler) (ctx : Schedule) (shard : APIShard)

/-- The steps from the cert-manager resources to the request header CA. -/
def reconcileAccess : Pass Unit := do
  reconcileCertManager ctx shard
  reconcileAuthConfig ctx shard
  reconcileSecondaryServiceAccount ctx shard
  reconcileAuthDelegator ctx shard
  reconcileAPIServerSCC r ctx shard
  let _ ← reconcileRequestHeaderCA r ctx shard
  pure ()

/-- The secondary and the resources for metrics scraping. -/
def reconcileWorkload : Pass Unit := do
  reconcileSecondary ctx shard
  reconcileMetrics r ctx shard

/-- Two steps in a row report a failure like one. -/
theorem orSetError_bind {α β : Type} (first : Pass α) (second : Pass β) :
    (do
      let _ ← orSetError ctx shard first
      orSetError ctx shard second) =
    orSetError ctx shard (do
      let _ ← first
      second) := by
  apply ext_exec
  intro state
  simp only [orSetError, exec_bind, exec_attempt]
  rcases exec first state with ⟨answer, after⟩
  cases answer with
  | ok value => rfl
  | error failure => rfl

theorem orSetError_then {α β γ : Type} (first : Pass α) (second : Pass β) (next : Pass γ) :
    (do
      let _ ← orSetError ctx shard first
      let _ ← orSetError ctx shard second
      next) =
    (do
      let _ ← orSetError ctx shard (do
        let _ ← first
        second)
      next) := by
  rw [← orSetError_bind, bind_assoc]

theorem orSetError_discard {α β : Type} (step : Pass α) (next : Pass β) :
    (do
      let _ ← orSetError ctx shard step
      next) =
    (do
      orSetError ctx shard (do
        let _ ← step
        pure ())
      next) := by
  apply ext_exec
  intro state
  simp only [orSetError, exec_bind, exec_attempt]
  rcases exec step state with ⟨answer, after⟩
  cases answer with
  | ok value => rfl
  | error failure => rfl

theorem reconcileObjects_eq :
    reconcileObjects r ctx shard = (do
      orSetError ctx shard (reconcileStorage r ctx shard)
      orSetError ctx shard (reconcileAccess r ctx shard)
      orSetError ctx shard (reconcileAdminKubeconfig ctx shard)
      orSetError ctx shard (reconcileWorkload r ctx shard)) := by
  rw [reconcileObjects, orSetError_bind, orSetError_then _ _ _ (reconcileAuthConfig ctx shard),
    orSetError_then _ _ _ (reconcileSecondaryServiceAccount ctx shard),
    orSetError_then _ _ _ (reconcileAuthDelegator ctx shard),
    orSetError_then _ _ _ (reconcileAPIServerSCC r ctx shard),
    orSetError_then _ _ _ (reconcileRequestHeaderCA r ctx shard),
    @orSetError_discard ctx shard (List String)]
  simp only [reconcileAccess, reconcileWorkload, bind_assoc]

variable {ctx shard} in
theorem reconcileAccess_respects {frame : Frame State}
    (admits : ∀ applyStep, Admits ctx shard applyStep frame) :
    Respects frame (reconcileAccess r ctx shard) := by
  have access := admits .access
  apply (applyCertResources_respects ctx shard (admits .certificates) _
    (step_of_certificates shard)).bind
  intro _
  apply ((access.applyOwned rfl _).mapError _).bind
  intro _
  apply ((access.applyOwned rfl _).mapError _).bind
  intro _
  apply ((access.applyOwned rfl _).mapError _).bind
  intro _
  apply (reconcileAPIServerSCC_respects r ctx shard (admits .scc)).bind
  intro _
  exact (reconcileRequestHeaderCA_respects r ctx shard (admits .requestHeader)).bind
    fun _ => .of_pure _

variable {ctx shard} in
theorem reconcileWorkload_respects {frame : Frame State}
    (secondary : Admits ctx shard .secondary frame)
    (monitoring : Admits ctx shard .monitoring frame) :
    Respects frame (reconcileWorkload r ctx shard) :=
  (reconcileSecondary_respects ctx shard secondary).bind fun _ =>
    reconcileMetrics_respects r ctx shard monitoring

variable {ctx} in
theorem working_of_quiet {α : Type} {program : Pass α} (quiet : Respects (quiet ctx) program) :
    Respects (working ctx) program :=
  quiet.mono fun _ _ quiet => quiet.working

variable {ctx shard} {base : APIShardStatus} {now : Nat} {state : State} {memory : Report.Memory}
variable {α : Type}

theorem Shadowed.orSetError {program : Pass α}
    {shadow : Answers → (List Assignment → APIShardStatus) → Report.Reporting α}
    {received : Answers → Prop} (shadowed : Shadowed state program shadow received)
    (working : Respects (working ctx) program)
    (persists : Persists ctx shard base now state memory) {answers : Answers}
    (given : received answers) :
    Shadows ctx shard base now (orSetError ctx shard program)
      (Report.orSetError shard (shadow answers (base.assigned now))) state memory :=
  orSetError_shadows persists working
    (shadowed answers base now memory.written memory given persists.tracks)

/-- A step that leaves the status alone. -/
theorem answer_shadows (persists : Persists ctx shard base now state memory) {program : Pass α}
    (working : Respects (working ctx) program) (silent : Respects Apishard.silent program)
    {given : Except ApiError α} (received : given = (exec program state).1) :
    Shadows ctx shard base now (orSetError ctx shard program)
      (Report.orSetError shard (Report.answer given)) state memory :=
  orSetError_shadows persists working (silent_simulated persists.tracks silent received)

theorem unassigned_of_answer {given : Except ApiError α} {value : α} {later : Report.Memory}
    (ran : exec (Report.orSetError shard (Report.answer given)) memory = (.ok value, later)) :
    later = memory := by
  rw [Report.exec_orSetError, exec_answer] at ran
  cases given with
  | error failure => cases ran
  | ok value =>
      cases ran
      rfl

variable (ctx shard) in
theorem reconcileObjects_received (state : State) :
    ∃ credentials statefulSet database connectionSecret kine collector access adminKubeconfig
      secondary, ∀ (answers : Answers) (base : APIShardStatus) (now : Nat)
      (memory : Report.Memory),
      (answers.credentials = credentials ∧ answers.statefulSet = statefulSet ∧
        answers.database = database ∧ answers.connectionSecret = connectionSecret ∧
        answers.kine = kine ∧ answers.collector = collector) ∧ answers.access = access ∧
        answers.adminKubeconfig = adminKubeconfig ∧ answers.secondary = secondary →
      Persists ctx shard base now state memory →
      Shadows ctx shard base now (reconcileObjects r ctx shard) (do
        Report.orSetError shard (Report.reconcileStorage answers shard)
        Report.orSetError shard (Report.answer answers.access)
        Report.orSetError shard (Report.reconcileAdminKubeconfig answers shard)
        Report.orSetError shard (Report.answer answers.secondary)) state memory := by
  let stored := (exec (orSetError ctx shard (reconcileStorage r ctx shard)) state).2
  let granted := (exec (orSetError ctx shard (reconcileAccess r ctx shard)) stored).2
  let connected := (exec (orSetError ctx shard (reconcileAdminKubeconfig ctx shard)) granted).2
  obtain ⟨credentials, statefulSet, database, connectionSecret, kine, collector, stores⟩ :=
    reconcileStorage_received ctx shard r state
  obtain ⟨adminKubeconfig, connects⟩ := reconcileAdminKubeconfig_received ctx shard granted
  refine ⟨credentials, statefulSet, database, connectionSecret, kine, collector,
    (exec (reconcileAccess r ctx shard) stored).1, adminKubeconfig,
    (exec (reconcileWorkload r ctx shard) connected).1, ?_⟩
  rintro answers base now memory ⟨given, access, kubeconfig, secondary⟩ persists
  rw [reconcileObjects_eq]
  apply (stores.orSetError (working_of_quiet (reconcileStorage_quiet r ctx shard)) persists
    given).bind
  intro _ after later ran _ persists
  obtain rfl : stored = after := congrArg Prod.snd ran
  apply (answer_shadows persists
    (working_of_quiet (reconcileAccess_respects r (quiet_admits ctx shard)))
    (reconcileAccess_respects r (silent_admits ctx shard)) access).bind
  intro _ after later ran _ persists
  obtain rfl : granted = after := congrArg Prod.snd ran
  apply (connects.orSetError (working_of_quiet (reconcileAdminKubeconfig_quiet ctx shard)) persists
    kubeconfig).bind
  intro _ after later ran _ persists
  obtain rfl : connected = after := congrArg Prod.snd ran
  exact answer_shadows persists
    (working_of_quiet
      (reconcileWorkload_respects r (quiet_admits ctx shard _) (quiet_admits ctx shard _)))
    (reconcileWorkload_respects r (silent_admits ctx shard _) (silent_admits ctx shard _)) secondary

end resources

/-! ## The whole pass -/

section whole

variable (r : Reconciler) (ctx : Schedule) (shard : APIShard)

theorem reconcileServing_received (state : State) :
    ∃ apiServices orphan crds syncClient syncCRD healthy verified namespaceSync webhookSync services,
      ∀ (answers : Answers) (base : APIShardStatus) (now : Nat) (memory : Report.Memory),
      (answers.apiServices = apiServices ∧ answers.orphan = orphan) ∧
        (answers.crds = crds ∧ answers.syncClient = syncClient ∧ answers.syncCRD = syncCRD) ∧
        answers.checkDeploymentHealth = healthy ∧ answers.verifySecondaryAuth = verified ∧
        answers.namespaceSync = namespaceSync ∧ answers.webhookSync = webhookSync ∧
        answers.services = services →
      Persists ctx shard base now state memory →
      Shadows ctx shard base now (reconcileServing ctx shard) (do
        Report.orSetError shard (Report.reconcileAPIServices answers shard (base.assigned now))
        Report.reconcileHealth answers shard (base.assigned now)) state memory := by
  let registered := (exec (orSetError ctx shard (reconcileAPIServices ctx shard)) state).2
  let detected := (exec (reconcileCRDConflicts ctx shard) registered).2
  obtain ⟨apiServices, orphan, registers⟩ := reconcileAPIServices_received ctx shard state
  obtain ⟨crds, syncClient, syncCRD, detects⟩ := reconcileCRDConflicts_received ctx shard registered
  obtain ⟨healthy, verified, namespaceSync, webhookSync, services, checks⟩ :=
    updateHealthStatus_received ctx shard detected
  refine ⟨apiServices, orphan, crds, syncClient, syncCRD, healthy, verified, namespaceSync,
    webhookSync, services, ?_⟩
  rintro answers base now memory ⟨registration, conflicts, health⟩ persists
  apply (registers.orSetError (reconcileAPIServices_working ctx shard) persists registration).bind
  intro _ after later ran _ persists
  obtain rfl : registered = after := congrArg Prod.snd ran
  apply (Shadows.of_step persists
    ((reconcileCRDConflicts_calm ctx shard).mono fun _ _ calm => calm.working)
    (detects answers base now later.written later conflicts persists.tracks)).bind
  intro _ after later ran _ persists
  obtain rfl : detected = after := congrArg Prod.snd ran
  apply (Shadows.of_step persists
    ((updateHealthStatus_calm ctx shard).mono fun _ _ calm => calm.working)
    (checks answers base now later.written later health persists.tracks)).bind
  intro result checked later _ _ persists
  have cleaned : Persists ctx shard base now (exec (cleanupOrphans ctx shard) checked).2 later :=
    persists.working (cleanupOrphans_calm ctx shard checked).working
      (persists.tracks.silent (cleanupOrphans_silent ctx shard checked))
  rw [Shadows, Simulates, exec_bind_ok (exec_attempt (cleanupOrphans ctx shard) checked)]
  apply (reportSuccess_shadows cleaned).bind
  exact fun _ _ _ _ _ persists => .inl (.of_pure result persists)

/-- For the answers that the calls of a pass receive, the pass follows its report. -/
theorem reconcileCopy_received (state : State) :
    ∃ answers : Answers, answers.finalizer = .ok () ∧ ∀ (base : APIShardStatus) (now : Nat),
      Persists ctx shard base now state {} →
      Shadows ctx shard base now (reconcileCopy r ctx shard)
        (Report.reconcile answers shard (base.assigned now)) state {} := by
  let named := (exec (orSetError ctx shard (ensureNamespace ctx shard)) state).2
  let begun := (exec (initializePhase ctx shard) named).2
  let applied := (exec (reconcileObjects r ctx shard) begun).2
  obtain ⟨credentials, statefulSet, database, connectionSecret, kine, collector, access,
    adminKubeconfig, secondary, applies⟩ := reconcileObjects_received r ctx shard begun
  obtain ⟨apiServices, orphan, crds, syncClient, syncCRD, healthy, verified, namespaceSync,
    webhookSync, services, serves⟩ := reconcileServing_received ctx shard applied
  let answers : Answers := {
    ensureNamespace := (exec (ensureNamespace ctx shard) state).1
    credentials, statefulSet, database, connectionSecret, kine, collector, access, adminKubeconfig
    secondary, apiServices, orphan, crds, syncClient, syncCRD, namespaceSync, webhookSync, services
    checkDeploymentHealth := healthy
    verifySecondaryAuth := verified }
  refine ⟨answers, rfl, ?_⟩
  intro base now persists
  have resources : Shadows ctx shard base now (reconcileResources r ctx shard)
      (Report.reconcileResources answers shard) state {} := by
    apply (answer_shadows persists
      (working_of_quiet (quiet_of_sharing (ensureNamespace_sharing ctx shard)))
      (ensureNamespace_silent ctx shard) rfl).bind
    intro _ after later ran reported persists
    obtain rfl : named = after := congrArg Prod.snd ran
    obtain rfl := unassigned_of_answer reported
    apply (initializePhase_shadows persists).bind
    intro _ after later ran _ persists
    obtain rfl : begun = after := congrArg Prod.snd ran
    exact applies answers base now later
      ⟨⟨rfl, rfl, rfl, rfl, rfl, rfl⟩, rfl, rfl, rfl⟩ persists
  have isReport : Report.reconcile answers shard (base.assigned now) = (do
      Report.reconcileResources answers shard
      Report.orSetError shard (Report.reconcileAPIServices answers shard (base.assigned now))
      Report.reconcileHealth answers shard (base.assigned now)) := rfl
  rw [isReport]
  apply resources.bind
  intro _ after later ran _ persists
  obtain rfl : applied = after := by
    simp only [reconcileResources, exec_bind_eq_ok] at ran
    obtain ⟨_, _, first, _, _, second, third⟩ := ran
    simp only [applied, begun, named, first, second, third]
  exact serves answers base now later
    ⟨⟨rfl, rfl⟩, ⟨rfl, rfl, rfl⟩, rfl, rfl, rfl, rfl, rfl⟩ persists

variable {r ctx shard} {name : String} {state start : State} {copy : APIShard}

theorem Adopted.persists (adopted : Adopted ctx name state copy start) :
    Persists ctx copy copy.status state.cluster.clock start {} where
  clock := by rw [adopted.cluster]
  status := adopted.status
  stored _ := ⟨copy, Store.find?_eq_some.mpr ⟨adopted.stored, rfl⟩, adopted.resourceVersion.symm,
    rfl⟩

variable (r) in
/-- A pass that nobody contests answers and persists what its report does, for the answers
it received. -/
theorem Adopted.reported (adopted : Adopted ctx name state copy start)
    (uncontested : ctx.Uncontested copy) :
    ∃ answers : Answers, answers.finalizer = .ok () ∧
      (exec (reconcileCopy r ctx copy) start).1 = (exec (Report.reconcile answers copy
        (copy.status.assigned state.cluster.clock)) {}).1 ∧
      ∃ stored, (exec (reconcileCopy r ctx copy) start).2.cluster.registry.shards.find? name =
          some stored ∧
        stored.status = answers.persisted copy state.cluster.clock copy.status := by
  obtain ⟨answers, finalized, follows⟩ := reconcileCopy_received r ctx copy start
  refine ⟨answers, finalized, ?_⟩
  rcases follows copy.status state.cluster.clock adopted.persists with
    ⟨same, persists⟩ | ⟨contested, _⟩
  · obtain ⟨stored, found, _, isStatus⟩ := persists.stored uncontested
    rw [adopted.name] at found
    exact ⟨same, stored, found, isStatus⟩
  · exact absurd uncontested contested

end whole

end KubeShard.Apishard
