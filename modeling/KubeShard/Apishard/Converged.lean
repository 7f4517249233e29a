import KubeShard.Apishard.Realise

/-!
# The cluster a pass leaves behind

A pass refines the plain description of its purpose: apply the desired objects, delete the other
objects with the label of the shard, and leave all else alone.  It follows that a pass that finds
the cluster as a pass has left it leaves it so.
-/

namespace KubeShard.Apishard

open Resources Prog

/-! ## The keys of the desired objects -/

section keys

variable {r : Reconciler} {shard : APIShard} {cluster : Cluster}

theorem collectorComponents_nodup (params : OTelConnectionParams) :
    (collectorComponents r shard params).Nodup := by
  unfold collectorComponents collectorBasics
  split <;> simp

theorem nodup_collectorChain : (collectorChain r shard cluster).Nodup := by
  unfold collectorChain
  split
  · split
    · exact .nil
    · exact collectorComponents_nodup _
    · split
      · next params _ =>
          refine List.nodup_cons.mpr ⟨?_, collectorComponents_nodup params⟩
          unfold collectorComponents collectorBasics
          split <;> simp
      · exact .nil
  · exact .nil

theorem stepComponents_nodup (ctx : Schedule) (applyStep : ApplyStep) :
    (stepComponents r ctx shard cluster applyStep).Nodup := by
  cases applyStep with
  | storage =>
      simp only [stepComponents, storageComponents]
      split <;> decide
  | kine =>
      simp only [stepComponents, kineComponents]
      split <;> decide
  | collector =>
      simp only [stepComponents, collected]
      split
      · exact .nil
      · exact nodup_collectorChain.sublist (List.takeWhile_sublist _)
  | certificates =>
      simp only [stepComponents, buildCertResources]
      split <;> decide
  | access => simp [stepComponents]
  | scc =>
      simp only [stepComponents, sccComponents]
      split <;> decide
  | requestHeader => exact List.nodup_singleton _
  | kubeconfig =>
      simp only [stepComponents, kubeconfigComponents]
      split <;> decide
  | secondary =>
      simp only [stepComponents, secondaryComponents]
      split <;> decide
  | monitoring =>
      simp only [stepComponents, monitoringComponents]
      split
      · split <;> decide
      · exact .nil

/-- The steps in their order. -/
def ApplyStep.all : List ApplyStep :=
  [.storage, .kine, .collector, .certificates, .access, .scc, .requestHeader, .kubeconfig,
    .secondary, .monitoring]

theorem appliedComponents_eq (ctx : Schedule) : appliedComponents r ctx shard cluster =
    ApplyStep.all.flatMap (stepComponents r ctx shard cluster) := by
  simp only [appliedComponents, earlyComponents, ApplyStep.all, List.flatMap_cons,
    List.flatMap_nil, List.append_nil, List.append_assoc, stepComponents]

/-- No component is applied twice. -/
theorem appliedComponents_nodup (ctx : Schedule) :
    (appliedComponents r ctx shard cluster).Nodup := by
  rw [appliedComponents_eq, List.nodup_flatMap]
  refine ⟨fun applyStep _ => stepComponents_nodup ctx applyStep, ?_⟩
  have distinct : ApplyStep.all.Nodup := by decide
  apply distinct.imp
  intro left right different component inLeft inRight
  exact different ((step_of_stepComponents left component inLeft).symm.trans
    (step_of_stepComponents right component inRight))

/-- The keys of the objects that are applied without the label. -/
def sharedKeys (r : Reconciler) (shard : APIShard) : List ObjectKey :=
  (namespaceObject shard).key :: if r.serviceMonitorAvailable then [metricsClusterRole.key] else []

theorem monitoringObjects_perm (given : Inputs) :
    ((monitoringObjects r {} shard given cluster).map Object.key).Perm
      ((if r.serviceMonitorAvailable then [metricsClusterRole.key] else []) ++
        (monitoringComponents r {} cluster).map (Component.key shard)) := by
  rw [monitoringObjects, monitoringComponents]
  cases r.serviceMonitorAvailable with
  | false => exact .refl _
  | true =>
      have swaps := List.perm_append_comm_assoc [Component.metricsReaderServiceAccount.key shard,
        Component.metricsReaderTokenSecret.key shard] [metricsClusterRole.key]
      cases clear {} cluster .kineServiceMonitor with
      | false => exact swaps _
      | true => exact swaps _

/-- The desired objects are the shared ones and the components. -/
theorem desired_perm (random : Fin 16 → Fin 256) :
    ((desired r random shard cluster).map Object.key).Perm
      (sharedKeys r shard ++
        (appliedComponents r {} shard cluster).map (Component.key shard)) := by
  have split : (appliedComponents r {} shard cluster).map (Component.key shard) =
      (earlyComponents r {} shard cluster ++ [Component.requestHeaderCA] ++
        kubeconfigComponents {} shard cluster ++ secondaryComponents shard).map
          (Component.key shard) ++
        (monitoringComponents r {} cluster).map (Component.key shard) := List.map_append
  rw [desired, appliedObjects, sharedKeys, split, List.map_cons, List.map_append, map_key_object]
  apply List.Perm.cons
  exact ((monitoringObjects_perm _).append_left _).trans (List.perm_append_comm_assoc _ _ _)

/-- The role that the metrics readers of all shards share is no component. -/
theorem key_ne_metricsClusterRole (component : Component) :
    component.key shard ≠ metricsClusterRole.key := by
  intro same
  have isKind : component.kind = .clusterRole := congrArg ObjectKey.kind same
  have isName : component.name shard = "kube-shard-metrics-reader" :=
    congrArg ObjectKey.name same
  cases component with
  | apiServerSCCClusterRole =>
      have ends : "-apiserver-scc".toList <:+ "kube-shard-metrics-reader".toList := by
        rw [← isName]
        exact ⟨shard.name.toList, by simp [Component.name, apiServerSCCClusterRoleName, named]⟩
      revert ends
      decide +kernel
  | _ => cases isKind

/-- No component is shared. -/
theorem key_notMem_sharedKeys (component : Component) (other : APIShard) :
    component.key shard ∉ sharedKeys r other := by
  rw [sharedKeys, List.mem_cons, not_or]
  constructor
  · intro isNamespace
    have isKind : component.kind = .namespace := congrArg ObjectKey.kind isNamespace
    cases component <;> cases isKind
  · intro isRole
    split at isRole
    · exact key_ne_metricsClusterRole component (List.mem_singleton.mp isRole)
    · cases isRole

/-- No key is desired twice. -/
theorem desired_nodup (hashed : r.Hashed) (random : Fin 16 → Fin 256) :
    ((desired r random shard cluster).map Object.key).Nodup := by
  rw [(desired_perm random).nodup_iff, List.nodup_append]
  refine ⟨?_, ?_, ?_⟩
  · rw [sharedKeys]
    split
    · simp [namespaceObject, metricsClusterRole]
    · exact List.nodup_singleton _
  · apply (appliedComponents_nodup {}).map_on
    intro left inLeft right inRight same
    exact Component.key_injective (appliedComponents_belong hashed left inLeft)
      (appliedComponents_belong hashed right inRight) same
  · intro key isShared other isComponent same
    obtain ⟨component, _, rfl⟩ := List.mem_map.mp isComponent
    exact key_notMem_sharedKeys component shard (same ▸ isShared)

/-- A desired object is a shared one or a component. -/
theorem mem_desired {random : Fin 16 → Fin 256} {object : Object}
    (membership : object ∈ desired r random shard cluster) :
    object = namespaceObject shard ∨ object = metricsClusterRole ∨
      ∃ component ∈ appliedComponents r {} shard cluster,
        object = (inputs r random shard cluster).object r shard component := by
  rw [desired, List.mem_cons] at membership
  exact membership.imp_right mem_appliedObjects

/-- The components among the desired objects are tracked. -/
theorem keys_owned_desired (random : Fin 16 → Fin 256) :
    ((desired r random shard cluster).filter Object.owned).map Object.key =
      (appliedComponents r {} shard cluster).map (Component.key shard) := by
  have shared : (namespaceObject shard).owned = false := rfl
  rw [desired, List.filter_cons, shared, if_neg Bool.false_ne_true, owned_appliedObjects,
    map_key_object]

/-- A component that is applied is desired. -/
theorem object_mem_desired (random : Fin 16 → Fin 256) {component : Component}
    (applied : component ∈ appliedComponents r {} shard cluster) :
    (inputs r random shard cluster).object r shard component ∈
      desired r random shard cluster := by
  have isObject := List.mem_map_of_mem
    (f := (inputs r random shard cluster).object r shard) applied
  rw [← owned_appliedObjects] at isObject
  exact List.mem_cons_of_mem _ (List.mem_filter.mp isObject).1

/-- What one shard reads from others is not desired by a shard of which it is no component. -/
theorem foreign_not_desired (hashed : r.Hashed) {random : Fin 16 → Fin 256} {reader : APIShard}
    (secrets : ∀ name ∈ [pkiSecretName reader, adminClientSecretName reader],
      ∀ component ∈ appliedComponents r {} shard cluster,
        component.key shard ≠ targetKey reader .secret name)
    (connection : ∀ ref, reader.spec.storage.connectionSecretRef = some ref →
      ∀ component : Component, component.key shard ≠ targetKey reader .secret ref.name)
    {key : ObjectKey} (isForeign : key ∈ foreignKeys reader) :
    key ∉ (desired r random shard cluster).map Object.key := by
  have kinds : key.kind.shared = false ∧
      ∀ component ∈ appliedComponents r {} shard cluster, component.key shard ≠ key := by
    rw [foreignKeys, List.mem_append] at isForeign
    rcases isForeign with own | isConnection
    · simp only [List.mem_cons, List.not_mem_nil, or_false] at own
      rcases own with rfl | rfl | rfl
      · exact ⟨rfl, fun component membership => Component.key_ne_authentication
          (appliedComponents_belong hashed component membership)⟩
      · exact ⟨rfl, secrets _ (by simp)⟩
      · exact ⟨rfl, secrets _ (by simp)⟩
    · cases isRef : reader.spec.storage.connectionSecretRef with
      | none =>
          rw [isRef] at isConnection
          cases isConnection
      | some ref =>
          rw [isRef] at isConnection
          obtain rfl := List.mem_singleton.mp isConnection
          exact ⟨rfl, fun component _ => connection ref isRef component⟩
  rw [(desired_perm random).mem_iff, List.mem_append, sharedKeys, List.mem_cons]
  rintro ((rfl | isRole) | isComponent)
  · cases kinds.1
  · split at isRole
    · obtain rfl := List.mem_singleton.mp isRole
      cases kinds.1
    · cases isRole
  · obtain ⟨component, membership, isKey⟩ := List.mem_map.mp isComponent
    exact kinds.2 component membership isKey

end keys

/-! ## The cleanup -/

section cleanup

variable {r : Reconciler} {ctx : Schedule} (clean : ctx.Clean) {shard : APIShard}
  {state after : State}

/-- What is found in a store of which some objects were dropped. -/
theorem find?_of_filter {before after : Store Object.key} {keep : Object → Bool}
    (items : after.items = before.items.filter keep) (key : ObjectKey) :
    after.find? key = (before.find? key).filter keep := by
  cases found : before.find? key with
  | none =>
      rw [Store.find?_eq_none] at found
      rw [Option.filter_none, Store.find?_eq_none]
      intro membership
      obtain ⟨object, inObjects, isKey⟩ := Store.mem_keys.mp membership
      rw [items] at inObjects
      exact found (Store.mem_keys.mpr ⟨object, (List.mem_filter.mp inObjects).1, isKey⟩)
  | some object =>
      obtain ⟨inObjects, isKey⟩ := Store.find?_eq_some.mp found
      cases kept : keep object with
      | true =>
          rw [Option.filter_some_pos kept, Store.find?_eq_some, items]
          exact ⟨List.mem_filter.mpr ⟨inObjects, kept⟩, isKey⟩
      | false =>
          rw [Option.filter_some_neg kept, Store.find?_eq_none]
          intro membership
          obtain ⟨other, inOthers, sameKey⟩ := Store.mem_keys.mp membership
          rw [items] at inOthers
          obtain ⟨inOriginal, isKept⟩ := List.mem_filter.mp inOthers
          cases Store.eq_of_key_eq inOriginal inObjects (sameKey.trans isKey.symm)
          rw [kept] at isKept
          cases isKept

include clean in
/-- From the registration on, a pass deletes the orphans and changes no other object. -/
theorem reconcileServing_drops {result : Result}
    (ran : exec (reconcileServing ctx shard) state = (.ok result, after)) :
    after.cluster.objects.items =
        state.cluster.objects.items.filter (fun object => !orphaned shard state.tracked object) ∧
      after.cluster.unserved = state.cluster.unserved := by
  obtain ⟨_, registered, first, ran⟩ := exec_bind_eq_ok.mp ran
  obtain ⟨_, detected, second, ran⟩ := exec_bind_eq_ok.mp ran
  obtain ⟨health, checked, third, ran⟩ := exec_bind_eq_ok.mp ran
  obtain ⟨_, cleaned, fourth, ran⟩ := exec_bind_eq_ok.mp ran
  obtain ⟨_, reported, fifth, returned⟩ := exec_bind_eq_ok.mp ran
  cases returned
  rw [orSetError_ok] at first
  have before : Lays [] state checked :=
    ((reconcileAPIServices_inert ctx shard).rel first).trans
      (((inert_of_observing (reconcileCRDConflicts_observing ctx shard)).rel second).trans
        ((inert_of_aloof (updateHealthStatus_aloof ctx shard)).rel third))
  have isTracked : checked.tracked = state.tracked :=
    before.tracked.trans (List.append_nil _)
  have drops : cleaned.cluster.objects.items =
        checked.cluster.objects.items.filter
          (fun object => !orphaned shard checked.tracked object) ∧
      cleaned.cluster.unserved = checked.cluster.unserved := by
    simp only [cleanupOrphans, exec_bind, exec_get, record, exec_modify, exec_attempt,
      exec_callAPI_none (clean _), exec_pure] at fourth
    cases fourth
    exact ⟨rfl, rfl⟩
  have reports : Lays [] cleaned after := (reportSuccess_inert ctx shard).rel fifth
  have isObjects : checked.cluster.objects = state.cluster.objects := before.objects
  have isReported : after.cluster.objects = cleaned.cluster.objects := reports.objects
  rw [isReported, drops.1, isTracked, isObjects]
  exact ⟨rfl, reports.unserved.trans (drops.2.trans before.unserved)⟩

end cleanup

/-! ## What a pass is for -/

/-- An object with the label of the shard that is not among its components. -/
def stale (r : Reconciler) (shard : APIShard) (cluster : Cluster) (object : Object) : Bool :=
  orphaned shard ((appliedComponents r {} shard cluster).map (Component.key shard)) object

/-- The objects a pass leaves behind. -/
def realised (r : Reconciler) (random : Fin 16 → Fin 256) (shard : APIShard) (cluster : Cluster) :
    List Object :=
  (Assign.applyAll (Store.overlay Object.merge) (desired r random shard cluster)
    cluster.objects).items.filter fun object => !stale r shard cluster object

/-- What a pass leaves behind depends on the name and the spec of the shard. -/
theorem realised_of_spec {left right : APIShard} (name : left.name = right.name)
    (spec : left.spec = right.spec) (r : Reconciler) (random : Fin 16 → Fin 256)
    (cluster : Cluster) : realised r random left cluster = realised r random right cluster := by
  cases left
  cases right
  cases name
  cases spec
  rfl

section refinement

variable {r : Reconciler} {ctx : Schedule} {name : String} {state after : State} {result : Result}
  {shard : APIShard}

theorem owner_merged (objects : Store Object.key) (object : Object) :
    (objects.merged Object.merge object).owner = object.owner := by
  unfold Store.merged
  split <;> rfl

/-- A desired object is not stale. -/
theorem not_stale_of_desired {random : Fin 16 → Fin 256} {cluster : Cluster} {object : Object}
    (membership : object ∈ desired r random shard cluster) (objects : Store Object.key) :
    stale r shard cluster (objects.merged Object.merge object) = false := by
  have isKey := Store.key_merged merging_object objects object
  rw [stale, orphaned, isKey, owner_merged]
  rcases mem_desired membership with rfl | rfl | ⟨component, inComponents, rfl⟩
  · rfl
  · rfl
  · have isTracked : ((inputs r random shard cluster).object r shard component).key ∈
      (appliedComponents r {} shard cluster).map (Component.key shard) :=
      List.mem_map_of_mem inComponents
    simp [isTracked]

/-- Of the objects that are not desired, those with the label are stale. -/
theorem stale_of_not_desired {random : Fin 16 → Fin 256} {cluster : Cluster} {object : Object}
    (other : (desired r random shard cluster).find? (·.key = object.key) = none) :
    stale r shard cluster object =
      (managedKind object.key.kind && object.owner == some shard.name) := by
  have untracked :
      object.key ∉ (appliedComponents r {} shard cluster).map (Component.key shard) := by
    intro isTracked
    have isDesired : object.key ∈ (desired r random shard cluster).map Object.key :=
      (desired_perm _).mem_iff.mpr (List.mem_append_right _ isTracked)
    obtain ⟨found, membership, isKey⟩ := List.mem_map.mp isDesired
    exact List.find?_eq_none.mp other found membership (by simpa using isKey)
  rw [stale, orphaned]
  simp [untracked]

/-- A pass that no call fails, and that returns, leaves behind what it is to. -/
theorem reconcile_items (hashed : r.Hashed) (clean : ctx.Clean)
    (copied : state.cluster.registry.copy ctx name = some shard)
    (ran : exec (reconcile r ctx name) state = (.ok result, after)) :
    after.cluster.objects.items = realised r ctx.random shard state.cluster ∧
      after.cluster.unserved = state.cluster.unserved := by
  obtain ⟨copy, start, adopted, ran⟩ := reconcile_adopts (clean _) copied ran
  obtain ⟨stored, isStored, _, isSpec, _⟩ := adopted.base
  cases isStored.symm.trans copied
  have isName : copy.name = shard.name := adopted.name.trans (Registry.copy_name copied).symm
  have isRealised : realised r ctx.random copy start.cluster =
      realised r ctx.random shard state.cluster := by
    rw [realised_of_spec isName isSpec, adopted.cluster]
    rfl
  have isServed : start.cluster.unserved = state.cluster.unserved := by
    rw [adopted.cluster]
    rfl
  obtain ⟨_, applied, resources, serving⟩ := exec_bind_eq_ok.mp ran
  have lays := reconcileResources_lays clean hashed resources
  have isTracked := lays.tracked
  rw [adopted.tracked, List.nil_append, keys_owned_desired] at isTracked
  obtain ⟨drops, unserved⟩ := reconcileServing_drops clean serving
  rw [isTracked, lays.objects] at drops
  exact ⟨drops.trans isRealised, unserved.trans (lays.unserved.trans isServed)⟩

end refinement

/-- The objects of the list are stored, other objects with the label of this name are gone, and
all else is as it was. -/
def Realises (name : String) (objects : List Object) (before after : Store Object.key) : Prop :=
  ∀ key, after.find? key =
    match objects.find? (·.key = key) with
    | some object => some (before.merged Object.merge object)
    | none => (before.find? key).filter fun object =>
        !(managedKind key.kind && object.owner == some name)

/-- What a pass leaves behind realises the desired objects. -/
theorem realises_of_items {r : Reconciler} (hashed : r.Hashed) {random : Fin 16 → Fin 256}
    {shard : APIShard} {cluster : Cluster} {after : Store Object.key}
    (items : after.items = realised r random shard cluster) :
    Realises shard.name (desired r random shard cluster) cluster.objects after := by
  intro key
  rw [find?_of_filter items, Store.find?_overlayAll merging_object (desired_nodup hashed _)]
  cases found : (desired r random shard cluster).find? (·.key = key) with
  | some object =>
      apply Option.filter_some_pos
      rw [not_stale_of_desired (List.mem_of_find?_eq_some found)]
      rfl
  | none =>
      dsimp only
      cases live : cluster.objects.find? key with
      | none => rfl
      | some object =>
          obtain rfl := (Store.find?_eq_some.mp live).2
          rw [Option.filter_some, Option.filter_some, stale_of_not_desired found]

/-- An object that is left behind is a desired one, or was there and may stay. -/
theorem Realises.mem_cases {name : String} {objects : List Object} {before after : Store Object.key}
    (realises : Realises name objects before after) {object : Object}
    (membership : object ∈ after.items) :
    (∃ wanted ∈ objects, object = before.merged Object.merge wanted) ∨
      (objects.find? (·.key = object.key) = none ∧ object ∈ before.items ∧
        (managedKind object.key.kind && object.owner == some name) = false) := by
  have found : after.find? object.key = some object := Store.find?_eq_some.mpr ⟨membership, rfl⟩
  rw [realises] at found
  cases isWanted : objects.find? (·.key = object.key) with
  | some wanted =>
      rw [isWanted] at found
      exact .inl ⟨wanted, List.mem_of_find?_eq_some isWanted, (Option.some.inj found).symm⟩
  | none =>
      rw [isWanted] at found
      obtain ⟨live, kept⟩ := Option.filter_eq_some_iff.mp found
      exact .inr ⟨rfl, (Store.find?_eq_some.mp live).1, (Bool.not_eq_true' _).mp kept⟩

/-- A pass that no call fails, and that returns, has applied the desired objects of its shard,
has deleted the other objects with the label of the shard, and has left all other objects
alone.  Objects are those of the stack and whatever else is of their kinds, not the
APIServices, the sync objects, the CRDs and the APIShards. -/
theorem reconcile_realises {r : Reconciler} {ctx : Schedule} {name : String} {state after : State}
    {result : Result} {shard : APIShard} (hashed : r.Hashed) (clean : ctx.Clean)
    (copied : state.cluster.registry.copy ctx name = some shard)
    (ran : exec (reconcile r ctx name) state = (.ok result, after)) :
    Realises name (desired r ctx.random shard state.cluster) state.cluster.objects
      after.cluster.objects := by
  have realises := realises_of_items hashed (reconcile_items hashed clean copied ran).1
  rwa [Registry.copy_name copied] at realises

/-- The Secret that the token controller fills for the metrics reader of the shard "a". -/
def tokenKey : ObjectKey := ⟨.secret, "target", "a-metrics-reader-token"⟩

/-- A shard with a database of its own, an object that an earlier spec has left, and a token
that another controller has put into a Secret of the shard. -/
def outdated : State :=
  let serving := Surroundings.serving "a"
  let left := serving.objects.insert
    { key := ⟨.deployment, "target", "a-postgresql-metrics"⟩, owner := some "a" }
  run State.step { cluster := .bare } [
    .edit (.create "a" { plainSpec [⟨"g", ["v1"]⟩] with
      storage := { type := .inClusterPostgreSQL } }),
    .surround { serving with
      objects := left.insert
        { key := tokenKey, owner := some "a", others := [("token", "secret")] } }]

theorem Reconciler.hashed_of_bare : Reconciler.bare.Hashed := by
  intro base content
  refine ⟨"0", ?_⟩
  rw [String.append_assoc]
  rfl

/-- An operator on a cluster that serves ServiceMonitors. -/
def Reconciler.metering : Reconciler :=
  { Reconciler.bare with serviceMonitorAvailable := true }

theorem reconcile_realises_outdated :
    ∃ shard after, outdated.cluster.registry.copy {} "a" = some shard ∧
      (exec (reconcile .metering {} "a") outdated).2 = after ∧
      Realises "a" (desired .metering zeroBytes shard outdated.cluster) outdated.cluster.objects
        after.cluster.objects ∧
      after.cluster.objects.find? ⟨.deployment, "target", "a-postgresql-metrics"⟩ = none ∧
      (after.cluster.objects.find? tokenKey).map (·.entry "token") = some "secret" := by
  obtain ⟨copied, returned, gone, kept⟩ :
      (outdated.cluster.registry.copy {} "a").isSome = true ∧
      (exec (reconcile .metering {} "a") outdated).1.isOk = true ∧
      (exec (reconcile .metering {} "a") outdated).2.cluster.objects.find?
        ⟨.deployment, "target", "a-postgresql-metrics"⟩ = none ∧
      ((exec (reconcile .metering {} "a") outdated).2.cluster.objects.find? tokenKey).map
        (·.entry "token") = some "secret" := by
    decide +kernel
  obtain ⟨shard, isShard⟩ := Option.isSome_iff_exists.mp copied
  obtain ⟨result, ran⟩ := exec_eq_of_isOk returned
  have hashed : Reconciler.metering.Hashed := Reconciler.hashed_of_bare
  have clean : Schedule.Clean {} := fun _ => rfl
  have realises := reconcile_realises hashed clean isShard ran
  exact ⟨shard, _, isShard, rfl, realises, gone, kept⟩

end KubeShard.Apishard
