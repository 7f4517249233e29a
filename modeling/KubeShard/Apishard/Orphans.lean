import KubeShard.Apishard.Clean
import KubeShard.Apishard.Cleanup
import KubeShard.Apishard.Run

/-!
# Orphan cleanup

`CleanupOrphans` deletes the owned objects a pass has not tracked.  So a pass must
have tracked, when it comes to its cleanup, all that a pass without failures would
apply.  The steps before the cleanup end the pass on most failures, but some failures
are swallowed, and the capabilities found at start-up switch whole steps off.
-/

namespace KubeShard.Apishard

open Resources Prog Aggregation

/-! ## Start-up -/

/-- The loop of `DiscoverServiceMonitor` and `DiscoverSCC` over the answer of
`ServerResourcesForGroupVersion`. -/
def discoverKind (serverResources : String → Except ApiError (List String))
    (groupVersion kind : String) : Except ApiError Bool :=
  match serverResources groupVersion with
  | .error failure =>
      if failure.isNotFound || failure.isNoMatch then .ok false
      else .error (failure.wrap s!"querying {groupVersion}")
  | .ok kinds => .ok (kinds.any (· = kind))

/-- `DiscoverServiceMonitor`. -/
def discoverServiceMonitor (serverResources : String → Except ApiError (List String)) :
    Except ApiError Bool :=
  discoverKind serverResources "monitoring.coreos.com/v1" "ServiceMonitor"

/-- `DiscoverSCC`. -/
def discoverSCC (serverResources : String → Except ApiError (List String)) :
    Except ApiError Bool :=
  discoverKind serverResources "security.openshift.io/v1" "SecurityContextConstraints"

/-- The capabilities `main` gives to the reconciler: a failed discovery is only
logged, and counts as an API that is not there. -/
def Reconciler.start (r : Reconciler)
    (serverResources : String → Except ApiError (List String)) : Reconciler :=
  { r with
    serviceMonitorAvailable := (discoverServiceMonitor serverResources).toOption.getD false
    sccAvailable := (discoverSCC serverResources).toOption.getD false }

/-- What the server answers when it does not fail. -/
def Cluster.serverResources (cluster : Cluster) (groupVersion : String) :
    Except ApiError (List String) :=
  if groupVersion = "monitoring.coreos.com/v1" ∧ cluster.servesServiceMonitor then
    .ok ["ServiceMonitor"]
  else if groupVersion = "security.openshift.io/v1" ∧ cluster.servesSCC then
    .ok ["SecurityContextConstraints"]
  else
    .error ⟨.notFound, "the server could not find the requested resource"⟩

/-- A start-up without failures finds what the cluster serves. -/
theorem start_serverResources (r : Reconciler) (cluster : Cluster) :
    r.start cluster.serverResources = { r with
      serviceMonitorAvailable := cluster.servesServiceMonitor
      sccAvailable := cluster.servesSCC } := by
  cases monitor : cluster.servesServiceMonitor <;> cases scc : cluster.servesSCC <;>
    simp [Reconciler.start, discoverServiceMonitor, discoverSCC, discoverKind,
      Cluster.serverResources, monitor, scc, Except.toOption, ApiError.isNotFound]

/-! ## A pass without failures -/

/-- The state in which the work on a copy of a shard begins. -/
def State.onCopy (cluster : Cluster) (copy : APIShard) : State where
  cluster := cluster
  status := copy.status
  resourceVersion := copy.resourceVersion

section failureFree

variable {r : Reconciler} {shard : APIShard} {state : State}

theorem reconcileServing_tracked (ctx : Schedule) (tracked : List ObjectKey) :
    Respects (.keeps fun state => state.tracked = tracked) (reconcileServing ctx shard) := by
  have keeps {α : Type} {program : Pass α} (respects : Respects untouched program) :
      Respects (.keeps fun state => state.tracked = tracked) program :=
    respects.mono fun _ _ applied same => (Applied.same applied).trans same
  have registers : Respects untouched (orSetError ctx shard (reconcileAPIServices ctx shard)) := by
    apply (reconcileAPIServices_untouched ctx shard).attempt.bind
    intro answer
    cases answer with
    | ok value => exact .of_pure value
    | error failure => exact setErrorAndRequeue_untouched ctx shard failure
  apply (keeps registers).bind
  intro _
  apply (keeps (untouched_of_observing (reconcileCRDConflicts_observing ctx shard))).bind
  intro _
  apply (keeps (untouched_of_aloof (updateHealthStatus_aloof ctx shard))).bind
  intro _
  apply Respects.bind
  · exact fun state same => (cleanupOrphans_cleaned ctx shard state).tracked.trans same
  · exact fun _ => (keeps (reportSuccess_untouched ctx shard)).bind fun _ => .of_pure _

/-- The first part of a pass without failures returns. -/
theorem reconcileResources_returns (hashed : r.Hashed)
    (stored : shard ∈ state.cluster.registry.shards.items)
    (fresh : shard.resourceVersion = state.resourceVersion)
    (offered : Offered r state.cluster) (feasible : Feasible r shard state.cluster) :
    Returns (reconcileResources r {} shard) state := by
  have ran : exec (ensureNamespace {} shard) state = (.ok (), _) := rfl
  apply (orSetError_returns ⟨(), _, ran⟩).bind
  intro _ namespaced namespaces
  have same := ran.symm.trans (orSetError_ok.mp namespaces)
  rw [Prod.mk.injEq] at same
  have found : namespaced.cluster.registry.shards.find? shard.name = some shard := by
    rw [← same.2]
    exact Store.find?_eq_some.mpr ⟨stored, rfl⟩
  have version : shard.resourceVersion = namespaced.resourceVersion := by
    rw [← same.2]
    exact fresh
  have initializes : Returns (initializePhase {} shard) namespaced := by
    rw [Returns, exec_initializePhase]
    split
    · exact ⟨(), _, exec_updateStatus rfl found version⟩
    · exact ⟨(), _, rfl⟩
  apply initializes.bind
  intro _ begun initialized
  obtain ⟨untouched, unserved⟩ := begun_untouched namespaces initialized
  exact reconcileObjects_returns (fun _ => rfl) hashed (offered.congr unserved)
    ((Feasible.congr untouched).mpr feasible)

/-- What a pass without failures has tracked in the end. -/
theorem tracked_failureFree (hashed : r.Hashed) {cluster : Cluster}
    (stored : shard ∈ cluster.registry.shards.items) (offered : Offered r cluster)
    (feasible : Feasible r shard cluster) :
    (exec (reconcileCopy r {} shard) (.onCopy cluster shard)).2.tracked =
      (appliedComponents r {} shard cluster).map (Component.key shard) := by
  have returns : Returns (reconcileResources r {} shard) (.onCopy cluster shard) :=
    reconcileResources_returns hashed stored rfl offered feasible
  obtain ⟨_, after, ran⟩ := returns
  have tracked := (reconcileResources_ok ran).1
  rw [reconcileCopy, exec_bind_ok ran]
  exact reconcileServing_tracked {} _ after tracked

end failureFree

/-! ## What a pass misses -/

/-- The metrics collector is applied up to here. -/
def collectible (r : Reconciler) (ctx : Schedule) (cluster : Cluster) (component : Component) :
    Bool :=
  clear ctx cluster component &&
    (component ≠ .postgreSQLServiceMonitor || r.serviceMonitorAvailable)

/-- What a step leaves out although the pass goes on to its cleanup, and a pass without
failures on the same cluster would apply it. -/
def skipped (r : Reconciler) (ctx : Schedule) (shard : APIShard) (cluster : Cluster) :
    ApplyStep → List Component
  | .collector =>
      let chain := collectorChain (r.start cluster.serverResources) shard cluster
      if metricsUnread ctx shard then chain else chain.dropWhile (collectible r ctx cluster)
  | .scc =>
      if cluster.servesSCC && !r.sccAvailable then
        [.apiServerSCC, .apiServerSCCClusterRole, .apiServerSCCRoleBinding]
      else
        []
  | .kubeconfig =>
      if credentialsReady shard cluster && credentialsUnread ctx then [.adminKubeconfig] else []
  | .monitoring =>
      if cluster.servesServiceMonitor then
        if !r.serviceMonitorAvailable then
          [.metricsReaderServiceAccount, .metricsReaderTokenSecret,
            .metricsReaderClusterRoleBinding, .kineServiceMonitor] ++ discoveryComponents
        else if clear ctx cluster .kineServiceMonitor then []
        else .kineServiceMonitor :: discoveryComponents
      else
        []
  | _ => []

section skipped

variable {r : Reconciler} {ctx : Schedule} {shard : APIShard} {cluster : Cluster}

theorem clear_undisturbed (cluster : Cluster) (component : Component) :
    clear {} cluster component = !cluster.unserved component.kind := rfl

theorem collectorComponents_start (params : OTelConnectionParams) (monitor scc : Bool) :
    collectorComponents { r with serviceMonitorAvailable := monitor, sccAvailable := scc } shard
        params =
      collectorBasics r shard params ++ if monitor then [.postgreSQLServiceMonitor] else [] :=
  rfl

/-- Only its ServiceMonitor makes the collector depend on what was found at start-up. -/
theorem collectorChain_cases (r : Reconciler) (shard : APIShard) (cluster : Cluster) :
    (∀ monitor scc, collectorChain { r with
        serviceMonitorAvailable := monitor, sccAvailable := scc } shard cluster = []) ∨
    ∃ basics : List Component, basics.Nodup ∧
      (∀ component ∈ basics, component.kind.basic = true) ∧
      ∀ monitor scc, collectorChain { r with
          serviceMonitorAvailable := monitor, sccAvailable := scc } shard cluster =
        basics ++ if monitor then [.postgreSQLServiceMonitor] else [] := by
  unfold collectorChain
  cases storageMonitoringEnabled shard with
  | false => exact .inl fun _ _ => rfl
  | true =>
      simp only [if_true]
      cases shard.spec.storage.type with
      | sqlite => exact .inl fun _ _ => rfl
      | inClusterPostgreSQL =>
          refine .inr ⟨collectorBasics r shard _, ?_, ?_, collectorComponents_start _⟩
          · simp [collectorBasics]
          · simp [collectorBasics, Component.kind, ObjectKind.basic]
      | postgreSQL =>
          have same (monitor scc : Bool) : externalParams { r with
              serviceMonitorAvailable := monitor, sccAvailable := scc } shard cluster =
            externalParams r shard cluster := rfl
          simp only [same]
          cases externalParams r shard cluster with
          | none => exact .inl fun _ _ => rfl
          | some params =>
              refine .inr ⟨.oTelCredentialSecret :: collectorBasics r shard params, ?_, ?_, ?_⟩
              · simp [collectorBasics]
              · simp [collectorBasics, Component.kind, ObjectKind.basic]
              · exact fun monitor scc =>
                  congrArg (.oTelCredentialSecret :: ·)
                    (collectorComponents_start params monitor scc)

/-- The part of a list that `takeWhile` leaves out. -/
theorem mem_dropWhile {α : Type} {p : α → Bool} {items : List α} (nodup : items.Nodup) {item : α} :
    item ∈ items.dropWhile p ↔ item ∈ items ∧ item ∉ items.takeWhile p := by
  have split : items.takeWhile p ++ items.dropWhile p = items := List.takeWhile_append_dropWhile
  have disjoint := (List.nodup_append.mp (split ▸ nodup)).2.2
  constructor
  · intro dropped
    refine ⟨List.dropWhile_subset p dropped, ?_⟩
    exact fun taken => disjoint item taken item dropped rfl
  · rintro ⟨inItems, untaken⟩
    rw [← split] at inItems
    exact (List.mem_append.mp inItems).resolve_left untaken

theorem takeWhile_collectible {basics : List Component}
    (basic : ∀ component ∈ basics, component.kind.basic = true) :
    (basics ++ if r.serviceMonitorAvailable then [Component.postgreSQLServiceMonitor]
        else []).takeWhile (clear ctx cluster) =
      (basics ++ if cluster.servesServiceMonitor then [Component.postgreSQLServiceMonitor]
        else []).takeWhile (collectible r ctx cluster) := by
  have agree : ∀ component ∈ basics,
      collectible r ctx cluster component = clear ctx cluster component := by
    intro component membership
    have other : component ≠ .postgreSQLServiceMonitor := by
      rintro rfl
      cases basic _ membership
    simp [collectible, other]
  induction basics with
  | nil =>
      cases available : r.serviceMonitorAvailable <;> cases served : cluster.servesServiceMonitor <;>
        simp [List.takeWhile_cons, collectible, clear, Cluster.unserved, Component.kind, available,
          served]
  | cons component rest ih =>
      have same := agree component List.mem_cons_self
      have others := ih (fun later membership => basic later (List.mem_cons_of_mem _ membership))
        fun later membership => agree later (List.mem_cons_of_mem _ membership)
      simp only [List.cons_append, List.takeWhile_cons, same, others]

/-- The collector of a pass, compared with that of a start-up without failures. -/
theorem collected_eq (r : Reconciler) (ctx : Schedule) (shard : APIShard) (cluster : Cluster) :
    collected r ctx shard cluster =
      if metricsUnread ctx shard then []
      else (collectorChain (r.start cluster.serverResources) shard cluster).takeWhile
        (collectible r ctx cluster) := by
  have same : collectorChain r shard cluster = collectorChain { r with
    serviceMonitorAvailable := r.serviceMonitorAvailable, sccAvailable := r.sccAvailable }
    shard cluster := rfl
  rw [start_serverResources, collected, same]
  rcases collectorChain_cases r shard cluster with empty | ⟨basics, _, basic, chain⟩
  · rw [empty, empty]
    rfl
  · rw [chain, chain, takeWhile_collectible basic]

theorem collectorChain_nodup : (collectorChain (r.start cluster.serverResources) shard
    cluster).Nodup := by
  rw [start_serverResources]
  rcases collectorChain_cases r shard cluster with empty | ⟨basics, nodup, basic, chain⟩
  · rw [empty]
    exact .nil
  · rw [chain]
    split
    · refine List.nodup_append.mpr ⟨nodup, List.nodup_singleton _, ?_⟩
      intro component membership monitor isMonitor same
      cases List.mem_singleton.mp isMonitor
      cases same
      cases basic _ membership
    · rwa [List.append_nil]

theorem collected_failureFree :
    collected (r.start cluster.serverResources) {} shard cluster =
      collectorChain (r.start cluster.serverResources) shard cluster := by
  have read : metricsUnread {} shard = false := by simp [metricsUnread]
  rw [collected, read, start_serverResources]
  apply List.takeWhile_eq_self_iff.mpr
  intro component membership
  rcases collectorChain_cases r shard cluster with empty | ⟨basics, _, basic, chain⟩
  · rw [empty] at membership
    cases membership
  · rw [chain] at membership
    rcases List.mem_append.mp membership with inBasics | isMonitor
    · rw [clear_undisturbed, served_of_basic cluster (basic component inBasics)]
      rfl
    · split at isMonitor
      · next served =>
          cases List.mem_singleton.mp isMonitor
          simp [clear_undisturbed, Cluster.unserved, Component.kind, served]
      · cases isMonitor

/-- What a step skips is what it should have applied and did not. -/
theorem mem_skipped (applyStep : ApplyStep) {component : Component} :
    component ∈ skipped r ctx shard cluster applyStep ↔
      component ∈ stepComponents (r.start cluster.serverResources) {} shard cluster applyStep ∧
        component ∉ stepComponents r ctx shard cluster applyStep := by
  cases applyStep with
  | collector =>
      simp only [skipped, stepComponents, collected_failureFree]
      rw [collected_eq r ctx]
      split
      · simp
      · exact mem_dropWhile collectorChain_nodup
  | scc =>
      simp only [skipped, stepComponents, sccComponents, start_serverResources]
      cases cluster.servesSCC <;> cases r.sccAvailable <;> grind
  | kubeconfig =>
      simp only [skipped, stepComponents, kubeconfigComponents]
      have read : credentialsUnread {} = false := rfl
      cases credentialsReady shard cluster <;> cases credentialsUnread ctx <;> simp [read]
  | monitoring =>
      have offered : clear {} cluster .kineServiceMonitor = cluster.servesServiceMonitor := by
        simp [clear_undisturbed, Cluster.unserved, Component.kind]
      simp only [skipped, stepComponents, monitoringComponents, start_serverResources, offered]
      cases cluster.servesServiceMonitor <;> cases r.serviceMonitorAvailable <;>
        cases clear ctx cluster .kineServiceMonitor <;> simp [discoveryComponents] <;> grind
  | _ => simp only [skipped, stepComponents, List.not_mem_nil, and_not_self]

/-- What a pass without failures, after a start-up without failures, applies. -/
def failureFree (r : Reconciler) (shard : APIShard) (cluster : Cluster) : List ObjectKey :=
  (exec (reconcileCopy (r.start cluster.serverResources) {} shard)
    (.onCopy cluster shard)).2.tracked

/-- The cleanup spares all that a pass without failures would apply. -/
def Spares (r : Reconciler) (shard : APIShard) (cluster : Cluster) (tracked : List ObjectKey) :
    Prop :=
  ∀ object ∈ cluster.objects.items, object.owner = some shard.name →
    object.key ∈ failureFree r shard cluster → object.key ∈ tracked

/-- A pass that reaches its cleanup has tracked all that a pass without failures on the
same shard and cluster would apply, as far as it exists and is owned by the shard,
exactly if no component it has skipped does. -/
theorem cleanup_spares_iff (hashed : r.Hashed) (stored : shard ∈ cluster.registry.shards.items)
    {tracked : List ObjectKey}
    (reached : .cleanup shard.uid tracked ∈
      (exec (reconcileCopy r ctx shard) (.onCopy cluster shard)).2.trace) :
    Spares r shard cluster tracked ↔
      ∀ applyStep, ∀ component ∈ skipped r ctx shard cluster applyStep,
        ∀ object ∈ cluster.objects.items, object.key = component.key shard →
          object.owner ≠ some shard.name := by
  have uncleaned : Uncleaned (.onCopy cluster shard) := fun _ _ => List.not_mem_nil
  obtain ⟨isTracked, found⟩ := reconcileCopy_cleanup uncleaned reached
  have feasible := found hashed
  have hashedStart : (r.start cluster.serverResources).Hashed := hashed
  have offered : Offered (r.start cluster.serverResources) cluster := by
    rw [start_serverResources]
    exact ⟨id, id⟩
  have wanted : failureFree r shard cluster = _ :=
    tracked_failureFree hashedStart stored offered ⟨feasible.connection, feasible.header⟩
  have applied {component : Component} (belongs : component.belongs shard) :
      component.key shard ∈ tracked ↔ component ∈ appliedComponents r ctx shard cluster := by
    rw [isTracked]
    constructor
    · intro membership
      obtain ⟨other, isApplied, sameKey⟩ := List.mem_map.mp membership
      have otherOwn := appliedComponents_belong hashed other isApplied
      exact Component.key_injective otherOwn belongs sameKey ▸ isApplied
    · exact fun isApplied => List.mem_map_of_mem isApplied
  constructor
  · intro spares applyStep component isSkipped object objectMem key owner
    obtain ⟨should, missed⟩ := (mem_skipped applyStep).mp isSkipped
    have isStep := step_of_stepComponents applyStep component should
    have wants := mem_appliedComponents.mpr (isStep.symm ▸ should)
    have belongs := appliedComponents_belong hashedStart component wants
    have isWanted : object.key ∈ failureFree r shard cluster := by
      rw [wanted, key]
      exact List.mem_map_of_mem wants
    have isApplied := (applied belongs).mp (key ▸ spares object objectMem owner isWanted)
    exact missed (isStep ▸ mem_appliedComponents.mp isApplied)
  · intro unowned object objectMem owner isWanted
    rw [wanted] at isWanted
    obtain ⟨component, wants, key⟩ := List.mem_map.mp isWanted
    have belongs := appliedComponents_belong hashedStart component wants
    by_contra untracked
    have missed : component ∉ stepComponents r ctx shard cluster (step component) := by
      intro inStep
      apply untracked
      rw [← key]
      exact (applied belongs).mpr (mem_appliedComponents.mpr inStep)
    have isSkipped := (mem_skipped (step component)).mpr ⟨mem_appliedComponents.mp wants, missed⟩
    exact unowned _ component isSkipped object objectMem key.symm owner

end skipped

/-! ## A start-up that fails -/

/-- A shard that was reconciled before. -/
def sccShard : APIShard where
  name := "a"
  uid := 0
  generation := 1
  resourceVersion := 0
  finalizers := [finalizerName]
  spec := plainSpec [⟨"g", ["v1"]⟩]

/-- The SecurityContextConstraints of the shard. -/
def sccObject : Object where
  key := Component.apiServerSCC.key sccShard
  owner := some sccShard.name

/-- A cluster with SecurityContextConstraints, and those of the shard in it. -/
def sccCluster : Cluster :=
  { Cluster.bare.within (.serving "a") with
    registry := ⟨Store.empty.insert sccShard, 1, 1⟩
    objects := (Surroundings.serving "a").objects.insert sccObject
    servesSCC := true }

theorem hashed_bare (serverResources : String → Except ApiError (List String)) :
    (Reconciler.bare.start serverResources).Hashed := by
  intro base content
  refine ⟨"0", ?_⟩
  rw [String.append_assoc]
  rfl

/-- The statement for a start-up and a pass without failures. -/
theorem cleanup_spares_scc :
    let r := Reconciler.bare.start sccCluster.serverResources
    let after := (exec (reconcileCopy r {} sccShard) (.onCopy sccCluster sccShard)).2
    .cleanup sccShard.uid after.tracked ∈ after.trace ∧
      (Spares r sccShard sccCluster after.tracked ↔
        ∀ applyStep, ∀ component ∈ skipped r {} sccShard sccCluster applyStep,
          ∀ object ∈ sccCluster.objects.items, object.key = component.key sccShard →
            object.owner ≠ some sccShard.name) := by
  have reached : .cleanup sccShard.uid
      (exec (reconcileCopy (Reconciler.bare.start sccCluster.serverResources) {} sccShard)
        (.onCopy sccCluster sccShard)).2.tracked ∈
      (exec (reconcileCopy (Reconciler.bare.start sccCluster.serverResources) {} sccShard)
        (.onCopy sccCluster sccShard)).2.trace := by
    decide +kernel
  exact ⟨reached, cleanup_spares_iff (hashed_bare _) (by decide +kernel) reached⟩

/-- When the discovery of SecurityContextConstraints fails at start-up, the cleanup of the
next pass deletes those of the shard, although a pass without failures would apply
them. -/
theorem cleanup_deletes_wanted :
    let r := Reconciler.bare.start fun _ => .error ⟨.fault .other, "timeout"⟩
    let after := (exec (reconcileCopy r {} sccShard) (.onCopy sccCluster sccShard)).2
    .cleanup sccShard.uid after.tracked ∈ after.trace ∧
      ¬Spares r sccShard sccCluster after.tracked ∧
      sccObject.key ∈ sccCluster.objects.keys ∧ sccObject.key ∉ after.cluster.objects.keys := by
  refine ⟨by decide +kernel, ?_, by decide +kernel, by decide +kernel⟩
  intro spares
  have tracked := spares sccObject (by decide +kernel) rfl (by decide +kernel)
  revert tracked
  decide +kernel

end KubeShard.Apishard
