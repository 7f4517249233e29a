import KubeShard.Apishard.Tracked

/-!
# From the objects of a pass to its cleanup

The steps around those that apply objects, status writes and the registration of
APIServices among them, touch no object.  So a cleanup goes by what was tracked when
the last object was applied.
-/

namespace KubeShard.Apishard

open Resources Prog Aggregation

/-! ## Steps that touch no object -/

section untouched

variable (ctx : Schedule) (shard : APIShard)

/-- The frame of steps that touch no object. -/
def untouched : Frame State :=
  ⟨Applied [], fun _ => .none rfl rfl rfl, fun left right => left.trans right⟩

variable {ctx} in
theorem untouched_of_aloof {α : Type} {program : Pass α}
    (respects : Respects (aloof ctx) program) : Respects untouched program :=
  respects.mono fun _ _ aloof => aloof.untouched

variable {ctx} in
theorem untouched_of_observing {α : Type} {program : Pass α}
    (respects : Respects (observing ctx) program) : Respects untouched program :=
  untouched_of_aloof (aloof_of_observing respects)

theorem updateStatus_untouched (request : Call) :
    Respects untouched (updateStatus ctx request shard) := by
  intro state
  rcases updateStatus_cases ctx shard request state with ⟨failure, ran⟩ | ⟨stored, _, _, _, ran⟩
  · rw [ran]
    exact Applied.none rfl rfl rfl
  · rw [ran]
    exact Applied.of_logged rfl rfl (.of_one rfl rfl)

theorem setErrorAndRequeue_untouched {α : Type} (failure : ApiError) :
    Respects untouched (setErrorAndRequeue ctx shard failure : Pass α) := by
  apply (untouched_of_observing (setError_observing ctx shard failure)).bind
  intro _
  exact (updateStatus_untouched ctx shard _).attempt.bind fun _ => .of_throw failure

theorem initializePhase_untouched : Respects untouched (initializePhase ctx shard) := by
  apply Respects.of_get.bind
  intro state
  apply Respects.ite _ (.of_pure _)
  apply (untouched_of_observing (setPhase_observing ctx _)).bind
  exact fun _ => updateStatus_untouched ctx shard _

variable {ctx shard} in
theorem Registering.untouched {state after : State} {wanted listed : List String}
    (registering : Registering ctx shard wanted listed state after) : Applied [] state after := by
  apply Applied.of_logged _ registering.tracked
  · apply registering.logged.mono
    intro event ofKind
    cases event <;> first | rfl | contradiction
  · rw [registering.cluster]

theorem reconcileAPIServices_untouched :
    Respects Apishard.untouched (reconcileAPIServices ctx shard) := by
  intro state
  cases ran : exec (reconcileAPIServices ctx shard) state with
  | mk answer after =>
      cases answer with
      | error failure => exact Registering.untouched (reconcileAPIServices_error ran)
      | ok value =>
          obtain ⟨registered, registering, _, _, rfl⟩ := reconcileAPIServices_ok ran
          exact (Registering.untouched registering).trans (.none rfl rfl rfl)

theorem reportSuccess_untouched : Respects untouched (reportSuccess ctx shard) :=
  (untouched_of_observing (setReconciled_observing ctx shard)).bind fun _ =>
    updateStatus_untouched ctx shard _

end untouched

/-! ## What is tracked at the cleanup -/

section cleanup

variable {r : Reconciler} {ctx : Schedule} {shard : APIShard} {before after : State}

/-- What a pass applies depends on what is served and on objects it does not share. -/
theorem appliedComponents_congr (applied : Applied [] before after)
    (unserved : after.cluster.unserved = before.cluster.unserved) :
    appliedComponents r ctx shard after.cluster = appliedComponents r ctx shard before.cluster := by
  have same (kind : ObjectKind) (name : String) (own : kind.shared = false) :=
    applied.objects (targetKey shard kind name) List.not_mem_nil own
  have collects := collected_congr r ctx unserved fun _ ref _ => same .secret ref.name rfl
  have ready : credentialsReady shard after.cluster = credentialsReady shard before.cluster := by
    rw [credentialsReady, credentialsReady, credentials, credentials, same .secret _ rfl,
      same .secret _ rfl]
  rw [appliedComponents, appliedComponents, earlyComponents, earlyComponents, collects,
    kubeconfigComponents, kubeconfigComponents, ready, monitoringComponents, monitoringComponents,
    clear_congr ctx unserved]

theorem Feasible.congr (applied : Applied [] before after) :
    Feasible r shard after.cluster ↔ Feasible r shard before.cluster := by
  have connection : ConnectionValid shard after.cluster ↔ ConnectionValid shard before.cluster := by
    have same (name : String) := applied.objects (targetKey shard .secret name) List.not_mem_nil rfl
    simp only [ConnectionValid, same]
  have header : HeaderReady r after.cluster ↔ HeaderReady r before.cluster := by
    rw [HeaderReady, HeaderReady, applied.objects authenticationKey List.not_mem_nil rfl]
  constructor
  · intro feasible
    exact ⟨connection.mp ∘ feasible.1, header.mp feasible.2⟩
  · intro feasible
    exact ⟨connection.mpr ∘ feasible.1, header.mpr feasible.2⟩

theorem initializePhase_serves (kinds : ObjectKind → Bool) :
    Respects (.keeps fun state => state.cluster.unserved = kinds) (initializePhase ctx shard) := by
  intro state serves
  rw [exec_initializePhase]
  split
  · rcases updateStatus_cases ctx shard .writeProvisioning
      { state with status.phase := .provisioning } with ⟨failure, ran⟩ | ⟨stored, _, _, _, ran⟩
    · rw [ran]
      exact serves
    · rw [ran]
      exact serves
  · exact serves

/-- What comes before the objects touches none of them. -/
theorem begun_untouched {namespaced begun : State}
    (namespaces : exec (orSetError ctx shard (ensureNamespace ctx shard)) before =
      (.ok (), namespaced))
    (initialized : exec (initializePhase ctx shard) namespaced = (.ok (), begun)) :
    Applied [] before begun ∧ begun.cluster.unserved = before.cluster.unserved := by
  have still : Sharing ctx before namespaced :=
    (ensureNamespace_sharing ctx shard).rel (orSetError_ok.mp namespaces)
  have applied : Applied [] namespaced begun :=
    (initializePhase_untouched ctx shard).rel initialized
  exact ⟨still.untouched.trans applied,
    (initializePhase_serves namespaced.cluster.unserved).rel initialized rfl |>.trans still.unserved⟩

/-- What a pass has tracked when it comes to the APIServices, and what it has found. -/
theorem reconcileResources_ok
    (ran : exec (reconcileResources r ctx shard) before = (.ok (), after)) :
    after.tracked = before.tracked ++
        (appliedComponents r ctx shard before.cluster).map (Component.key shard) ∧
      (r.Hashed → Feasible r shard before.cluster) := by
  obtain ⟨_, namespaced, namespaces, ran⟩ := exec_bind_eq_ok.mp ran
  obtain ⟨_, begun, initialized, ran⟩ := exec_bind_eq_ok.mp ran
  obtain ⟨untouched, unserved⟩ := begun_untouched namespaces initialized
  obtain ⟨applies, feasible⟩ := reconcileObjects_ok ran
  rw [applies, untouched.same, appliedComponents_congr untouched unserved]
  exact ⟨rfl, (Feasible.congr untouched).mp ∘ feasible⟩

/-- No cleanup has been logged. -/
def Uncleaned (state : State) : Prop := ∀ uid tracked, .cleanup uid tracked ∉ state.trace

theorem Applied.uncleaned {keys : List ObjectKey} (applied : Applied keys before after)
    (uncleaned : Uncleaned before) : Uncleaned after :=
  fun uid tracked membership => uncleaned uid tracked (applied.cleanup uid tracked membership)

theorem uncleaned_steady (ctx : Schedule) (shard : APIShard) : Steady ctx shard Uncleaned where
  quiet := by
    intro before after quiet uncleaned
    obtain ⟨keys, applied⟩ := quiet.applied
    exact applied.uncleaned uncleaned
  report := fun failure =>
    (setErrorAndRequeue_untouched ctx shard failure).mono fun _ _ applied =>
      Applied.uncleaned applied

/-- From the registration on, no object is touched before and after the cleanup. -/
theorem reconcileServing_objects (ctx : Schedule) (shard : APIShard) (before : State) :
    let after := (exec (reconcileServing ctx shard) before).2
    Applied [] before after ∨
      ∃ checked cleaned, Applied [] before checked ∧ Cleaned ctx shard checked cleaned ∧
        Applied [] cleaned after := by
  rcases reconcileServing_cases ctx shard before with
    ⟨failure, registered, first, ran⟩ | ⟨registered, detected, first, second, rest⟩
  · left
    rw [ran]
    exact ((reconcileAPIServices_untouched ctx shard).rel first).trans
      (setErrorAndRequeue_untouched ctx shard (α := Result) failure registered)
  · have detects : Applied [] before detected :=
      ((reconcileAPIServices_untouched ctx shard).rel first).trans
        ((untouched_of_observing (reconcileCRDConflicts_observing ctx shard)).rel second)
    rcases rest with
      ⟨failure, checked, third, ran⟩ | ⟨result, checked, cleaned, third, cleans, ran⟩
    · left
      rw [ran]
      exact detects.trans
        ((untouched_of_aloof (updateHealthStatus_aloof ctx shard)).rel third)
    · right
      rw [ran]
      have reports : Respects untouched (do reportSuccess ctx shard; pure result) :=
        (reportSuccess_untouched ctx shard).bind fun _ => .of_pure _
      exact ⟨checked, cleaned, detects.trans
        ((untouched_of_aloof (updateHealthStatus_aloof ctx shard)).rel third), cleans,
        reports cleaned⟩

/-- A cleanup of a pass goes by what was tracked before the APIServices. -/
theorem reconcileServing_cleanup (uncleaned : Uncleaned before) {uid : UID}
    {tracked : List ObjectKey}
    (reached : .cleanup uid tracked ∈ (exec (reconcileServing ctx shard) before).2.trace) :
    tracked = before.tracked := by
  rcases reconcileServing_objects ctx shard before with
    applied | ⟨checked, cleaned, applied, cleans, reports⟩
  · exact absurd reached (applied.uncleaned uncleaned uid tracked)
  · have logged := reports.cleanup uid tracked reached
    rw [cleans.trace] at logged
    rcases List.mem_append.mp logged with earlier | now
    · exact absurd earlier (applied.uncleaned uncleaned uid tracked)
    · cases List.mem_singleton.mp now
      exact applied.same

/-- What a pass has tracked when it comes to its cleanup, and what it has found. -/
theorem reconcileCopy_cleanup (uncleaned : Uncleaned before) {uid : UID}
    {tracked : List ObjectKey}
    (reached : .cleanup uid tracked ∈ (exec (reconcileCopy r ctx shard) before).2.trace) :
    tracked = before.tracked ++
        (appliedComponents r ctx shard before.cluster).map (Component.key shard) ∧
      (r.Hashed → Feasible r shard before.cluster) := by
  have kept := (uncleaned_steady ctx shard).reconcileResources r
    ((initializePhase_untouched ctx shard).mono fun _ _ applied => Applied.uncleaned applied)
    before uncleaned
  rcases reconcileCopy_cases r ctx shard before with
    ⟨failure, after, first, ran⟩ | ⟨after, first, ran⟩
  · rw [first] at kept
    rw [ran] at reached
    exact absurd reached (kept uid tracked)
  · rw [first] at kept
    rw [ran] at reached
    rw [reconcileServing_cleanup kept reached]
    exact reconcileResources_ok first

end cleanup

end KubeShard.Apishard
