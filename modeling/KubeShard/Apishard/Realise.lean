import KubeShard.Apishard.Inert

/-!
# A pass realises the desired objects

A pass that no call fails and that returns has applied the desired objects; all else in the
cluster is as it was.  What is desired depends on the objects of others that a pass reads, and on
the database, and the namespace is none of them.
-/

namespace KubeShard.Apishard

open Resources Prog

variable {r : Reconciler} {ctx : Schedule} {shard : APIShard} {state after : State}

/-- The objects of others that a pass reads. -/
def foreignKeys (shard : APIShard) : List ObjectKey :=
  [authenticationKey, targetKey shard .secret (pkiSecretName shard),
    targetKey shard .secret (adminClientSecretName shard)] ++
  match shard.spec.storage.connectionSecretRef with
  | some ref => [targetKey shard .secret ref.name]
  | none => []

/-- The objects of two inputs that differ in the database alone. -/
theorem Inputs.object_congr {left right : Inputs} (collector : left.collector = right.collector)
    (requestHeaderCA : left.requestHeaderCA = right.requestHeaderCA)
    (credentials : left.credentials = right.credentials) {component : Component}
    (database : step component = .storage →
      left.password = right.password ∧ left.statefulSet = right.statefulSet) :
    left.object r shard component = right.object r shard component := by
  have isData : left.data shard component = right.data shard component := by
    cases component with
    | postgreSQLSecret => simp only [Inputs.data, (database rfl).1]
    | _ => simp only [Inputs.data, collector, requestHeaderCA, credentials]
  have isSpec : left.spec r shard component = right.spec r shard component := by
    cases component with
    | postgreSQLStatefulSet => simp only [Inputs.spec, (database rfl).2]
    | _ => simp only [Inputs.spec, collector]
  rw [Inputs.object, Inputs.object, isData, isSpec]

/-- The objects for metrics scraping do not depend on the inputs. -/
theorem monitoringObjects_congr (left right : Inputs) {cluster between : Cluster}
    (unserved : between.unserved = cluster.unserved) :
    monitoringObjects r {} shard left between = monitoringObjects r {} shard right cluster := by
  rw [monitoringObjects, monitoringObjects, clear_congr {} unserved]
  rfl

/-- The password and the StatefulSet are read from two objects. -/
theorem database_congr (random : Fin 16 → Fin 256) {cluster between : Cluster}
    (secret : between.objects.find? (Component.postgreSQLSecret.key shard) =
      cluster.objects.find? (Component.postgreSQLSecret.key shard))
    (statefulSet : between.objects.find? (Component.postgreSQLStatefulSet.key shard) =
      cluster.objects.find? (Component.postgreSQLStatefulSet.key shard)) :
    (inputs r random shard between).password = (inputs r random shard cluster).password ∧
      (inputs r random shard between).statefulSet =
        (inputs r random shard cluster).statefulSet := by
  simp only [inputs, storedPassword, secret, statefulSet, and_self]

/-- What is desired depends on the objects of others that are read, and on the database. -/
theorem desired_congr {random again : Fin 16 → Fin 256} {cluster between : Cluster}
    (unserved : between.unserved = cluster.unserved)
    (same : ∀ key ∈ foreignKeys shard, between.objects.find? key = cluster.objects.find? key)
    (database : shard.spec.storage.type = .inClusterPostgreSQL →
      (inputs r again shard between).password = (inputs r random shard cluster).password ∧
        (inputs r again shard between).statefulSet =
          (inputs r random shard cluster).statefulSet) :
    desired r again shard between = desired r random shard cluster ∧
      appliedComponents r {} shard between = appliedComponents r {} shard cluster := by
  have connection (ref : SecretKeyReference)
      (isRef : shard.spec.storage.connectionSecretRef = some ref) :
      between.objects.find? (targetKey shard .secret ref.name) =
        cluster.objects.find? (targetKey shard .secret ref.name) :=
    same _ (by simp [foreignKeys, isRef])
  have isCollector : collectorConnection r shard between = collectorConnection r shard cluster :=
    collectorConnection_congr fun _ => connection
  have isHeader : headerCA between = headerCA cluster := by
    rw [headerCA, headerCA, same authenticationKey (by simp [foreignKeys])]
  have isGiven : credentials shard between = credentials shard cluster := by
    rw [credentials, credentials, same _ (by simp [foreignKeys]),
      same (targetKey shard .secret (adminClientSecretName shard)) (by simp [foreignKeys])]
  have early : earlyComponents r {} shard between = earlyComponents r {} shard cluster := by
    rw [earlyComponents, earlyComponents, collected_congr r {} unserved fun _ => connection]
  have kubeconfig : kubeconfigComponents {} shard between =
      kubeconfigComponents {} shard cluster := by
    rw [kubeconfigComponents, kubeconfigComponents, credentialsReady, credentialsReady,
      isGiven]
  have monitoring : monitoringComponents r {} between = monitoringComponents r {} cluster := by
    rw [monitoringComponents, monitoringComponents, clear_congr {} unserved]
  have sameObject (component : Component)
      (membership : component ∈ appliedComponents r {} shard cluster) :
      (inputs r again shard between).object r shard component =
        (inputs r random shard cluster).object r shard component := by
    apply Inputs.object_congr isCollector isHeader isGiven
    intro isStorage
    apply database
    rw [mem_appliedComponents, isStorage] at membership
    cases type : shard.spec.storage.type <;>
      simp only [stepComponents, storageComponents, type, List.not_mem_nil] at membership
    rfl
  have sameFront : (earlyComponents r {} shard cluster ++ [Component.requestHeaderCA] ++
        kubeconfigComponents {} shard cluster ++ secondaryComponents shard).map
          ((inputs r again shard between).object r shard) =
      (earlyComponents r {} shard cluster ++ [Component.requestHeaderCA] ++
        kubeconfigComponents {} shard cluster ++ secondaryComponents shard).map
          ((inputs r random shard cluster).object r shard) :=
    List.map_congr_left fun component membership =>
      sameObject component (List.mem_append_left _ membership)
  constructor
  · rw [desired, desired, appliedObjects, appliedObjects, early, kubeconfig, sameFront,
      monitoringObjects_congr _ (inputs r random shard cluster) unserved]
  · rw [appliedComponents, appliedComponents, early, kubeconfig, monitoring]

theorem reconcileResources_lays (clean : ctx.Clean) (hashed : r.Hashed)
    (ran : exec (reconcileResources r ctx shard) state = (.ok (), after)) :
    Lays (desired r ctx.random shard state.cluster) state after := by
  obtain ⟨_, namespaced, first, ran⟩ := exec_bind_eq_ok.mp ran
  obtain ⟨_, begun, second, ran⟩ := exec_bind_eq_ok.mp ran
  rw [orSetError_ok] at first
  have begins : Lays [namespaceObject shard] state begun :=
    (callAPI_lays rfl first).trans ((initializePhase_inert ctx shard).rel second)
  have same (key : ObjectKey) (other : key.kind ≠ .namespace) :
      begun.cluster.objects.find? key = state.cluster.objects.find? key := by
    apply begins.read
    intro membership
    exact other (List.mem_singleton.mp membership ▸ rfl)
  have configMap : ObjectKind.configMap ≠ .namespace := by decide
  have secret : ObjectKind.secret ≠ .namespace := by decide
  have statefulSet : ObjectKind.statefulSet ≠ .namespace := by decide
  have isDesired : desired r ctx.random shard begun.cluster =
      desired r ctx.random shard state.cluster := by
    apply (desired_congr begins.unserved (fun key isForeign => same key ?_) fun _ => ?_).1
    · rw [foreignKeys, List.mem_append] at isForeign
      rcases isForeign with own | connection
      · simp only [List.mem_cons, List.not_mem_nil, or_false] at own
        rcases own with rfl | rfl | rfl
        · exact configMap
        · exact secret
        · exact secret
      · split at connection
        · obtain rfl := List.mem_singleton.mp connection
          exact secret
        · cases connection
    · exact database_congr _ (same _ secret) (same _ statefulSet)
  obtain ⟨given, read, lays, _⟩ := reconcileObjects_lays ran
  obtain rfl := read.clean clean hashed
  rw [clean.appliedObjects, (List.cons.inj isDesired).2] at lays
  exact begins.trans lays

end KubeShard.Apishard
