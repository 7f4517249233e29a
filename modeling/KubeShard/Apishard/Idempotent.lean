import KubeShard.Apishard.Converged

/-!
# A second pass changes no object of the stack

What a pass reads is as it was, or what it has written itself.  The password and the volume
claims of the database are read back; the other inputs are objects of others.  So a second pass
desires what the first did, and finds it.
-/

namespace KubeShard.Apishard

open Resources Prog

/-! ## Reading back -/

theorem generatePassword_ne_empty (bytes : Fin 16 → Fin 256) : generatePassword bytes ≠ "" := by
  intro empty
  have isList := congrArg String.toList empty
  rw [generatePassword, String.toList_ofList, List.ofFn_succ, List.flatMap_cons] at isList
  cases isList

theorem storedPassword_ne_empty (random : Fin 16 → Fin 256) (shard : APIShard)
    (cluster : Cluster) : storedPassword random shard cluster ≠ "" := by
  unfold storedPassword
  split
  · split
    · next filled => exact filled
    · exact generatePassword_ne_empty random
  · exact generatePassword_ne_empty random

/-- Alignment with what was aligned changes nothing. -/
theorem alignPostgreSQLVolumeClaims_again (desired existing : StatefulSet) :
    alignPostgreSQLVolumeClaims desired (alignPostgreSQLVolumeClaims desired existing) =
      alignPostgreSQLVolumeClaims desired existing := by
  have none : desired.template.volumes.filter (fun volume =>
      volume.source = .emptyDir ∧ volume.name ∉ desired.template.volumes.map Volume.name) = [] := by
    rw [List.filter_eq_nil_iff]
    intro volume membership isNew
    have isNew : volume.source = .emptyDir ∧
      volume.name ∉ desired.template.volumes.map Volume.name := by simpa using isNew
    exact isNew.2 (List.mem_map_of_mem membership)
  by_cases bare : existing.volumeClaimTemplates.map VolumeClaimTemplate.name = []
  · simp only [alignPostgreSQLVolumeClaims, bare, ne_eq, not_true_eq_false, if_false,
      List.filter_append, none, List.nil_append, List.filter_filter, Bool.and_self]
  · simp only [alignPostgreSQLVolumeClaims, ne_eq, bare, not_false_eq_true, if_true]

/-- A StatefulSet that is built is aligned with itself. -/
theorem alignPostgreSQLVolumeClaims_build (shard : APIShard) :
    alignPostgreSQLVolumeClaims (buildPostgreSQLStatefulSet shard)
      (buildPostgreSQLStatefulSet shard) = buildPostgreSQLStatefulSet shard := by
  unfold alignPostgreSQLVolumeClaims buildPostgreSQLStatefulSet postgreSQLVolumeClaimTemplates
  cases shard.spec.storage.persistence with
  | none => simp
  | some persistence => simp

/-- The StatefulSet is read back as it was applied. -/
theorem aligned_again (shard : APIShard) (live : Option Object) {object : Object}
    (isSpec : object.spec = .statefulSet (aligned shard live)) :
    aligned shard (some object) = aligned shard live := by
  have isSet : object.statefulSet = aligned shard live := by
    rw [Object.statefulSet, isSpec]
  rw [aligned, isSet]
  cases live with
  | none => exact alignPostgreSQLVolumeClaims_build shard
  | some live => exact alignPostgreSQLVolumeClaims_again _ _

/-! ## The inputs of a second pass -/

/-- What a pass reads from others does not carry the label of the shard, and the connection
Secret is none of its components. -/
structure Foreign (shard : APIShard) (cluster : Cluster) : Prop where
  unlabelled : ∀ key ∈ foreignKeys shard, ∀ object, cluster.objects.find? key = some object →
    object.owner ≠ some shard.name
  connection : ∀ ref, shard.spec.storage.connectionSecretRef = some ref →
    ∀ component : Component, component.key shard ≠ targetKey shard .secret ref.name

section again

variable {r : Reconciler} (hashed : r.Hashed) {random : Fin 16 → Fin 256} {shard : APIShard}
  {cluster between : Cluster} (foreign : Foreign shard cluster)

include hashed foreign in
theorem Foreign.not_desired {key : ObjectKey} (isForeign : key ∈ foreignKeys shard) :
    key ∉ (desired r random shard cluster).map Object.key := by
  refine foreign_not_desired hashed ?_ foreign.connection isForeign
  simp only [List.forall_mem_cons, List.not_mem_nil, IsEmpty.forall_iff, implies_true, and_true]
  exact ⟨fun component _ => component.key_ne_secret (by decide +kernel),
    fun component _ => component.key_ne_secret (by decide +kernel)⟩

variable (realises : Realises shard.name (desired r random shard cluster) cluster.objects
  between.objects)

include hashed realises in
/-- A desired object is stored. -/
theorem Realises.stored {object : Object} (membership : object ∈ desired r random shard cluster) :
    between.objects.find? object.key = some (cluster.objects.merged Object.merge object) := by
  rw [realises, Store.find?_of_mem (desired_nodup hashed random) membership]

include realises in
/-- What is neither desired nor labelled is as it was. -/
theorem Realises.untouched {key : ObjectKey}
    (other : key ∉ (desired r random shard cluster).map Object.key)
    (unlabelled : ∀ object, cluster.objects.find? key = some object →
      object.owner ≠ some shard.name) :
    between.objects.find? key = cluster.objects.find? key := by
  have undesired : (desired r random shard cluster).find? (·.key = key) = none := by
    rw [List.find?_eq_none]
    intro object membership isKey
    have isKey : object.key = key := by simpa using isKey
    apply other
    rw [← isKey]
    exact List.mem_map_of_mem membership
  rw [realises, undesired]
  cases found : cluster.objects.find? key with
  | none => rfl
  | some object =>
      apply Option.filter_some_pos
      have isOther := unlabelled object found
      simp [isOther]

include hashed foreign realises in
/-- What belongs to others is as it was. -/
theorem Realises.kept {key : ObjectKey} (isForeign : key ∈ foreignKeys shard) :
    between.objects.find? key = cluster.objects.find? key :=
  realises.untouched (foreign.not_desired hashed isForeign) (foreign.unlabelled key isForeign)

include hashed realises in
/-- The database is read back as it was applied. -/
theorem Realises.database (again : Fin 16 → Fin 256)
    (inCluster : shard.spec.storage.type = .inClusterPostgreSQL) :
    (inputs r again shard between).password = (inputs r random shard cluster).password ∧
      (inputs r again shard between).statefulSet =
        (inputs r random shard cluster).statefulSet := by
  have applied (component : Component)
      (isApplied : component ∈ appliedComponents r {} shard cluster) :
      between.objects.find? (component.key shard) = some (cluster.objects.merged Object.merge
        ((inputs r random shard cluster).object r shard component)) :=
    realises.stored hashed (object_mem_desired random isApplied)
  have secret := applied .postgreSQLSecret (by
    simp [mem_appliedComponents, step, stepComponents, storageComponents, inCluster])
  have statefulSet := applied .postgreSQLStatefulSet (by
    simp [mem_appliedComponents, step, stepComponents, storageComponents, inCluster])
  rw [← Cluster.merge_eq] at secret statefulSet
  constructor
  · show storedPassword again shard between = storedPassword random shard cluster
    have isPassword : (cluster.merge ((inputs r random shard cluster).object r shard
        .postgreSQLSecret)).entry "POSTGRES_PASSWORD" = storedPassword random shard cluster := by
      rw [Object.entry, Object.lookup, Cluster.merge_data]
      rfl
    rw [storedPassword, secret]
    dsimp only
    rw [isPassword, if_pos (storedPassword_ne_empty random shard cluster)]
  · show aligned shard _ = aligned shard _
    rw [statefulSet]
    exact aligned_again shard _ (Cluster.merge_spec _ _)

/-- The desired objects of the shard stand, and no other object has its label. -/
structure Converged (r : Reconciler) (shard : APIShard) (cluster : Cluster) : Prop where
  stored : ∀ random, ∀ object ∈ desired r random shard cluster,
    Store.Overlaid Object.merge object cluster.objects
  fresh : ∀ object ∈ cluster.objects.items, stale r shard cluster object = false

/-- A pass finds nothing to change. -/
theorem Converged.realised (converged : Converged r shard cluster) (random : Fin 16 → Fin 256) :
    realised r random shard cluster = cluster.objects.items := by
  have settled : Assign.applyAll (Store.overlay Object.merge) (desired r random shard cluster)
      cluster.objects = cluster.objects :=
    (Store.lawful_overlay merging_object).settled_all (converged.stored random)
  rw [Apishard.realised, settled, List.filter_eq_self]
  intro object membership
  rw [converged.fresh object membership]
  rfl

include hashed foreign realises in
/-- A pass leaves its shard converged: a second pass desires what the first did. -/
theorem Realises.converged (unserved : between.unserved = cluster.unserved) :
    Converged r shard between := by
  have isDesired (again : Fin 16 → Fin 256) :=
    desired_congr unserved (fun _ isForeign => realises.kept hashed foreign isForeign)
      (realises.database hashed again)
  constructor
  · intro again object membership
    rw [(isDesired again).1] at membership
    refine ⟨_, realises.stored hashed membership, ?_⟩
    unfold Store.merged
    split
    · exact merging_object.again _ _
    · exact merging_object.fresh _
  · intro object membership
    have isStale : stale r shard between object = stale r shard cluster object := by
      rw [stale, stale, (isDesired zeroBytes).2]
    rw [isStale]
    rcases realises.mem_cases membership with ⟨wanted, isWanted, rfl⟩ | ⟨unwanted, _, unlabelled⟩
    · exact not_stale_of_desired isWanted _
    · exact (stale_of_not_desired unwanted).trans unlabelled

end again

/-- A pass after a pass changes no object of the kinds of the stack, when no call of either
fails, the spec is the same and what the passes read from others does not carry the label of the
shard.  The status of the shard, the APIServices and the sync objects are not among these
objects. -/
theorem reconcile_twice {r : Reconciler} {ctx again : Schedule} {name : String}
    {state between after : State} {shard later : APIShard} {first second : Result}
    (hashed : r.Hashed) (clean : ctx.Clean) (cleanAgain : again.Clean)
    (copied : state.cluster.registry.copy ctx name = some shard)
    (foreign : Foreign shard state.cluster)
    (ran : exec (reconcile r ctx name) state = (.ok first, between))
    (copiedAgain : between.cluster.registry.copy again name = some later)
    (unedited : later.spec = shard.spec)
    (ranAgain : exec (reconcile r again name) between = (.ok second, after)) :
    after.cluster.objects = between.cluster.objects := by
  obtain ⟨items, unserved⟩ := reconcile_items hashed clean copied ran
  obtain ⟨itemsAgain, _⟩ := reconcile_items hashed cleanAgain copiedAgain ranAgain
  have isName : later.name = shard.name :=
    (Registry.copy_name copiedAgain).trans (Registry.copy_name copied).symm
  apply Store.ext
  rw [itemsAgain, realised_of_spec isName unedited]
  have realises := realises_of_items hashed items
  exact (realises.converged hashed foreign unserved).realised _

/-- The cluster of the outdated shard after a pass. -/
def updated (ctx : Schedule) : State := (exec (reconcile .bare ctx "a") outdated).2

theorem reconcile_twice_outdated :
    (exec (reconcile .bare { random := fun _ => 1 } "a") (updated {})).2.cluster.objects =
        (updated {}).cluster.objects ∧
      (updated {}).cluster.objects.items ≠ outdated.cluster.objects.items := by
  obtain ⟨⟨shard, copied, later, copiedAgain, unedited, unlabelled, unconnected⟩, returned,
      returnedAgain, changed⟩ :
      (∃ shard ∈ outdated.cluster.registry.copy {} "a",
        ∃ later ∈ (updated {}).cluster.registry.copy { random := fun _ => 1 } "a",
        later.spec = shard.spec ∧
        (∀ key ∈ foreignKeys shard, ∀ object ∈ outdated.cluster.objects.find? key,
          object.owner ≠ some shard.name) ∧
        shard.spec.storage.connectionSecretRef = none) ∧
      (exec (reconcile .bare {} "a") outdated).1.isOk = true ∧
      (exec (reconcile .bare { random := fun _ => 1 } "a") (updated {})).1.isOk = true ∧
      (updated {}).cluster.objects.items ≠ outdated.cluster.objects.items := by
    decide +kernel
  obtain ⟨first, ran⟩ := exec_eq_of_isOk returned
  obtain ⟨second, ranAgain⟩ := exec_eq_of_isOk returnedAgain
  have isUpdated : exec (reconcile .bare {} "a") outdated = (.ok first, updated {}) := ran
  rw [Option.mem_def] at copied copiedAgain
  have foreign : Foreign shard outdated.cluster := by
    refine ⟨fun key isForeign object found => unlabelled key isForeign object found, ?_⟩
    intro ref isRef
    rw [unconnected] at isRef
    cases isRef
  have clean : Schedule.Clean {} := fun _ => rfl
  have cleanAgain : Schedule.Clean { random := fun _ => 1 } := fun _ => rfl
  have same := reconcile_twice Reconciler.hashed_of_bare clean cleanAgain copied foreign
    isUpdated copiedAgain unedited ranAgain
  exact ⟨same, changed⟩

end KubeShard.Apishard
