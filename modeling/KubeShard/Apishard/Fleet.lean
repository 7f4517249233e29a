import KubeShard.Apishard.Footprint
import KubeShard.Apishard.Idempotent

/-!
# A fleet of shards

The passes of one controller run one at a time, over many shards and in any order.  Shards that
do not crowd one another do not undo each other's work: once each of them has had a pass, no
further pass on any of them changes an object of their stacks.  The objects are those that are
applied with server-side apply, from the namespaces to the monitors; APIServices, sync objects
and the statuses of shards are not among them.
-/

namespace KubeShard.Apishard

open Resources Prog Certs

theorem Reconciler.HashedPlainly.hashed {r : Reconciler} (plainly : r.HashedPlainly) :
    r.Hashed := by
  intro base content
  obtain ⟨hash, _, isName⟩ := plainly base content
  exact ⟨hash, isName⟩

/-! ## A pass on another shard -/

/-- What one shard reads from others carries no label of the other, and its connection Secret is
none of the other's components. -/
structure Aside (shard other : APIShard) (cluster : Cluster) : Prop where
  unlabelled : ∀ key ∈ foreignKeys shard, ∀ object, cluster.objects.find? key = some object →
    object.owner ≠ some other.name
  connection : ∀ ref, shard.spec.storage.connectionSecretRef = some ref →
    ∀ component : Component, component.key other ≠ targetKey shard .secret ref.name

theorem Aside.foreign {shard : APIShard} {cluster : Cluster} (aside : Aside shard shard cluster) :
    Foreign shard cluster :=
  ⟨aside.unlabelled, aside.connection⟩

section beside

variable {r : Reconciler} (plainly : r.HashedPlainly) {shard other : APIShard}
  (distinct : shard.name ≠ other.name) (uncrowded : ¬Crowded shard other)
  {random : Fin 16 → Fin 256} {cluster between : Cluster}

include plainly distinct uncrowded in
/-- A component of one shard is not desired by the other. -/
theorem component_not_desired {component : Component}
    (applied : component ∈ appliedComponents r {} shard cluster) :
    component.key shard ∉ (desired r random other cluster).map Object.key := by
  rw [(desired_perm random).mem_iff, List.mem_append]
  rintro (isShared | isComponent)
  · exact key_notMem_sharedKeys component other isShared
  · obtain ⟨wanted, isApplied, isKey⟩ := List.mem_map.mp isComponent
    exact uncrowded (crowded_of_leaves plainly distinct
      ⟨{}, cluster, component, applied, .inl rfl⟩ ⟨{}, cluster, wanted, isApplied, .inl isKey⟩)

include plainly distinct uncrowded in
/-- What one shard reads from others is not desired by the other. -/
theorem Aside.not_desired (aside : Aside shard other cluster) {key : ObjectKey}
    (isForeign : key ∈ foreignKeys shard) :
    key ∉ (desired r random other cluster).map Object.key := by
  have secret (component : Component) (isCert : component ∈ buildCertResources shard)
      {key : ObjectKey} (isSecret : certificateSecret shard component = some key)
      (wanted : Component) (isApplied : wanted ∈ appliedComponents r {} other cluster) :
      wanted.key other ≠ key := by
    intro isKey
    exact uncrowded (crowded_of_leaves plainly distinct
      ⟨{}, cluster, component, mem_applied_of_certificate isCert, .inr isSecret⟩
      ⟨{}, cluster, wanted, isApplied, .inl isKey⟩)
  refine foreign_not_desired plainly.hashed ?_ aside.connection isForeign
  simp only [List.forall_mem_cons, List.not_mem_nil, IsEmpty.forall_iff, implies_true, and_true]
  exact ⟨secret .servingCertificate (by simp [buildCertResources]) rfl,
    secret .adminClientCertificate (by simp [buildCertResources]) rfl⟩

variable (realises : Realises other.name (desired r random other cluster) cluster.objects
  between.objects)

include realises in
/-- An object that both shards share stands. -/
theorem Realises.shared {object : Object} (isNone : object.owner = none)
    (agrees : ∀ wanted ∈ desired r random other cluster, wanted.key = object.key →
      wanted = object)
    (stored : Store.Overlaid Object.merge object cluster.objects) :
    Store.Overlaid Object.merge object between.objects := by
  obtain ⟨live, found, same⟩ := stored
  refine ⟨live, ?_, same⟩
  have isOwner : live.owner = none := (congrArg Object.owner same).symm.trans isNone
  rw [realises]
  cases isWanted : (desired r random other cluster).find? (·.key = object.key) with
  | some wanted =>
      have isKey : wanted.key = object.key := by simpa using List.find?_some isWanted
      obtain rfl := agrees wanted (List.mem_of_find?_eq_some isWanted) isKey
      dsimp only
      rw [Store.merged, found]
      exact congrArg some same
  | none =>
      dsimp only
      rw [found]
      apply Option.filter_some_pos
      simp [isOwner]

/-- The namespace is applied alike by all shards that use it. -/
theorem namespaceObject_agrees {wanted : Object} (isDesired : wanted ∈ desired r random other cluster)
    (isKey : wanted.key = (namespaceObject shard).key) : wanted = namespaceObject shard := by
  rcases mem_desired isDesired with rfl | rfl | ⟨component, _, rfl⟩
  · have isName : other.spec.targetNamespace = shard.spec.targetNamespace :=
      congrArg ObjectKey.name isKey
    rw [namespaceObject, namespaceObject, isName]
  · cases congrArg ObjectKey.kind isKey
  · have isKind : component.kind = .namespace := congrArg ObjectKey.kind isKey
    cases component <;> cases isKind

/-- So is the role of the metrics readers. -/
theorem metricsClusterRole_agrees {wanted : Object}
    (isDesired : wanted ∈ desired r random other cluster)
    (isKey : wanted.key = metricsClusterRole.key) : wanted = metricsClusterRole := by
  rcases mem_desired isDesired with rfl | rfl | ⟨component, _, rfl⟩
  · cases congrArg ObjectKey.kind isKey
  · rfl
  · exact absurd isKey (key_ne_metricsClusterRole component)

include plainly distinct uncrowded realises in
/-- The components of a converged shard stand. -/
theorem Converged.component (converged : Converged r shard cluster) {component : Component}
    (applied : component ∈ appliedComponents r {} shard cluster) :
    between.objects.find? (component.key shard) = cluster.objects.find? (component.key shard) := by
  apply realises.untouched (component_not_desired plainly distinct uncrowded applied)
  intro object found isLabelled
  obtain ⟨live, isLive, same⟩ :=
    converged.stored zeroBytes _ (object_mem_desired zeroBytes applied)
  obtain rfl := Option.some.inj (found.symm.trans isLive)
  have isOwner : object.owner = some shard.name := (congrArg Object.owner same).symm
  exact distinct (Option.some.inj (isOwner.symm.trans isLabelled))

include plainly distinct uncrowded realises in
/-- A pass on another shard leaves a shard converged. -/
theorem Converged.beside (aside : Aside shard other cluster)
    (unserved : between.unserved = cluster.unserved) (converged : Converged r shard cluster) :
    Converged r shard between := by
  have sameForeign (key : ObjectKey) (isForeign : key ∈ foreignKeys shard) :
      between.objects.find? key = cluster.objects.find? key :=
    realises.untouched (aside.not_desired plainly distinct uncrowded isForeign)
      (aside.unlabelled key isForeign)
  have sameComponent {component : Component}
      (applied : component ∈ appliedComponents r {} shard cluster) :=
    converged.component plainly distinct uncrowded realises applied
  have isDesired (again : Fin 16 → Fin 256) :
      desired r again shard between = desired r again shard cluster ∧
        appliedComponents r {} shard between = appliedComponents r {} shard cluster := by
    apply desired_congr unserved sameForeign
    intro inCluster
    have secret : Component.postgreSQLSecret ∈ appliedComponents r {} shard cluster := by
      simp [mem_appliedComponents, step, stepComponents, storageComponents, inCluster]
    have statefulSet : Component.postgreSQLStatefulSet ∈ appliedComponents r {} shard cluster := by
      simp [mem_appliedComponents, step, stepComponents, storageComponents, inCluster]
    exact database_congr again (sameComponent secret) (sameComponent statefulSet)
  constructor
  · intro again object membership
    rw [(isDesired again).1] at membership
    have stored := converged.stored again object membership
    rcases mem_desired membership with rfl | rfl | ⟨component, applied, rfl⟩
    · exact realises.shared rfl (fun _ => namespaceObject_agrees) stored
    · exact realises.shared rfl (fun _ => metricsClusterRole_agrees) stored
    · obtain ⟨live, found, same⟩ := stored
      exact ⟨live, (sameComponent applied).trans found, same⟩
  · intro object membership
    have isStale : stale r shard between object = stale r shard cluster object := by
      rw [stale, stale, (isDesired zeroBytes).2]
    rw [isStale]
    rcases realises.mem_cases membership with ⟨wanted, isWanted, rfl⟩ | ⟨_, earlier, _⟩
    · have isOwner : (cluster.objects.merged Object.merge wanted).owner ≠ some shard.name := by
        rw [owner_merged]
        rcases mem_desired isWanted with rfl | rfl | ⟨_, _, rfl⟩
        · exact (Option.some_ne_none shard.name).symm
        · exact (Option.some_ne_none shard.name).symm
        · exact fun same => distinct (Option.some.inj same).symm
      rw [stale, orphaned]
      simp [isOwner]
    · exact converged.fresh object earlier

end beside

/-! ## Passes in any order -/

/-- Shards of different names that do not crowd one another. -/
structure Fleet where
  shards : List APIShard
  distinct : ∀ shard ∈ shards, ∀ other ∈ shards, shard.name = other.name → shard = other
  uncrowded : ∀ shard ∈ shards, ∀ other ∈ shards, shard.name ≠ other.name →
    ¬Crowded shard other

/-- No shard of the fleet touches what another reads from others. -/
def Fleet.Undisturbed (fleet : Fleet) (cluster : Cluster) : Prop :=
  ∀ shard ∈ fleet.shards, ∀ other ∈ fleet.shards, Aside shard other cluster

/-- A sequence of passes over these shards.  No call fails, each pass returns, and it works on
the spec that the shard is listed with. -/
inductive Passes (r : Reconciler) : State → List APIShard → State → Prop where
  | nil (state : State) : Passes r state [] state
  | cons {state middle after : State} {shard stored : APIShard} {shards : List APIShard}
      {ctx : Schedule} {result : Result} (clean : ctx.Clean)
      (copied : state.cluster.registry.copy ctx shard.name = some stored)
      (isSpec : stored.spec = shard.spec)
      (ran : exec (reconcile r ctx shard.name) state = (.ok result, middle))
      (rest : Passes r middle shards after) : Passes r state (shard :: shards) after

section fleet

variable {r : Reconciler} (plainly : r.HashedPlainly) (fleet : Fleet)

include plainly in
/-- What one pass of the sequence leaves behind. -/
theorem items_of_pass {ctx : Schedule} {state middle : State} {shard stored : APIShard}
    {result : Result} (clean : ctx.Clean)
    (copied : state.cluster.registry.copy ctx shard.name = some stored)
    (isSpec : stored.spec = shard.spec)
    (ran : exec (reconcile r ctx shard.name) state = (.ok result, middle)) :
    middle.cluster.objects.items = realised r ctx.random shard state.cluster ∧
      middle.cluster.unserved = state.cluster.unserved := by
  have left := reconcile_items plainly.hashed clean copied ran
  rwa [realised_of_spec (Registry.copy_name copied) isSpec] at left

section pass

variable {fleet} {random : Fin 16 → Fin 256} {cluster between : Cluster} {shard : APIShard}
  (undisturbed : fleet.Undisturbed cluster) (isMember : shard ∈ fleet.shards)
  (realises : Realises shard.name (desired r random shard cluster) cluster.objects
    between.objects)
include plainly undisturbed isMember realises

theorem Fleet.Undisturbed.kept {other : APIShard} (isOther : other ∈ fleet.shards)
    {key : ObjectKey} (isForeign : key ∈ foreignKeys other) :
    between.objects.find? key = cluster.objects.find? key := by
  have aside := undisturbed other isOther shard isMember
  by_cases same : other.name = shard.name
  · obtain rfl := fleet.distinct other isOther shard isMember same
    exact realises.kept plainly.hashed aside.foreign isForeign
  · exact realises.untouched
      (aside.not_desired plainly same (fleet.uncrowded other isOther shard isMember same)
        isForeign) (aside.unlabelled key isForeign)

/-- A pass disturbs no shard. -/
theorem Fleet.Undisturbed.pass : fleet.Undisturbed between := by
  intro first isFirst second isSecond
  have aside := undisturbed first isFirst second isSecond
  refine ⟨?_, aside.connection⟩
  intro key isForeign object found
  rw [undisturbed.kept plainly isMember realises isFirst isForeign] at found
  exact aside.unlabelled key isForeign object found

/-- A pass leaves its shard converged, and the others that were so. -/
theorem Fleet.Undisturbed.converged (unserved : between.unserved = cluster.unserved)
    {other : APIShard} (isOther : other ∈ fleet.shards)
    (before : other = shard ∨ Converged r other cluster) : Converged r other between := by
  have aside := undisturbed other isOther shard isMember
  by_cases same : other.name = shard.name
  · obtain rfl := fleet.distinct other isOther shard isMember same
    exact realises.converged plainly.hashed aside.foreign unserved
  · have converged := before.resolve_left fun isShard => same (isShard ▸ rfl)
    exact converged.beside plainly same (fleet.uncrowded other isOther shard isMember same)
      realises aside unserved

end pass

include plainly in
/-- After a sequence of passes, the shards that had one are converged. -/
theorem Passes.converged {state after : State} {shards : List APIShard}
    (passes : Passes r state shards after) (undisturbed : fleet.Undisturbed state.cluster)
    (isFleet : shards ⊆ fleet.shards) :
    fleet.Undisturbed after.cluster ∧ ∀ shard ∈ fleet.shards,
      shard ∈ shards ∨ Converged r shard state.cluster → Converged r shard after.cluster := by
  induction passes with
  | nil state =>
      refine ⟨undisturbed, ?_⟩
      rintro shard isMember (⟨⟨⟩⟩ | converged)
      exact converged
  | cons clean copied isSpec ran rest ih =>
      obtain ⟨items, unserved⟩ := items_of_pass plainly clean copied isSpec ran
      have realises := realises_of_items plainly.hashed items
      have isMember := isFleet List.mem_cons_self
      obtain ⟨later, converges⟩ := ih (undisturbed.pass plainly isMember realises)
        fun shard membership => isFleet (List.mem_cons_of_mem _ membership)
      refine ⟨later, ?_⟩
      intro shard isShard before
      apply converges shard isShard
      rcases before with inList | converged
      · rcases List.mem_cons.mp inList with isFirst | inRest
        · exact .inr (undisturbed.converged plainly isMember realises unserved isShard
            (.inl isFirst))
        · exact .inl inRest
      · exact .inr (undisturbed.converged plainly isMember realises unserved isShard
          (.inr converged))

include plainly in
/-- Where all shards are converged, no sequence of passes changes an object. -/
theorem Passes.rest {state after : State} {shards : List APIShard}
    (passes : Passes r state shards after) (undisturbed : fleet.Undisturbed state.cluster)
    (isFleet : shards ⊆ fleet.shards)
    (converged : ∀ shard ∈ fleet.shards, Converged r shard state.cluster) :
    after.cluster.objects = state.cluster.objects := by
  induction passes with
  | nil state => rfl
  | cons clean copied isSpec ran rest ih =>
      obtain ⟨items, unserved⟩ := items_of_pass plainly clean copied isSpec ran
      have realises := realises_of_items plainly.hashed items
      have isMember := isFleet List.mem_cons_self
      have later := ih (undisturbed.pass plainly isMember realises)
        (fun shard membership => isFleet (List.mem_cons_of_mem _ membership))
        fun shard isShard => undisturbed.converged plainly isMember realises unserved isShard
          (.inr (converged shard isShard))
      rw [later]
      apply Store.ext
      rw [items]
      exact (converged _ isMember).realised _

end fleet

/-- Once each shard of a fleet has had a pass, in whatever order, the desired objects of all of
them stand, and no further passes, in whatever order, change an applied object.  Nothing is said
about APIServices, sync objects and statuses. -/
theorem fleet_at_rest {r : Reconciler} (plainly : r.HashedPlainly) (fleet : Fleet)
    {start middle after : State} {shards more : List APIShard}
    (undisturbed : fleet.Undisturbed start.cluster) (passes : Passes r start shards middle)
    (isFleet : ∀ shard, shard ∈ shards ↔ shard ∈ fleet.shards)
    (further : Passes r middle more after) (moreFleet : more ⊆ fleet.shards) :
    (∀ shard ∈ fleet.shards, Converged r shard middle.cluster) ∧
      after.cluster.objects = middle.cluster.objects := by
  obtain ⟨later, converges⟩ := passes.converged plainly fleet undisturbed
    fun shard membership => (isFleet shard).mp membership
  have converged (shard : APIShard) (isShard : shard ∈ fleet.shards) :
      Converged r shard middle.cluster :=
    converges shard isShard (.inl ((isFleet shard).mpr isShard))
  exact ⟨converged, further.rest plainly fleet later moreFleet converged⟩

/-- The shard of this name that serves this group. -/
def fleetShard (name group : String) : APIShard where
  name := name
  uid := 0
  generation := 1
  resourceVersion := 0
  spec := plainSpec [⟨group, ["v1"]⟩]

theorem distinct_pair : ∀ shard ∈ [fleetShard "a" "g", fleetShard "b" "h"],
    ∀ other ∈ [fleetShard "a" "g", fleetShard "b" "h"],
    shard.name = other.name → shard = other := by
  decide

theorem uncrowded_pair : ∀ shard ∈ [fleetShard "a" "g", fleetShard "b" "h"],
    ∀ other ∈ [fleetShard "a" "g", fleetShard "b" "h"],
    shard.name ≠ other.name → ¬Crowded shard other := by
  have names : ∀ shard ∈ [fleetShard "a" "g", fleetShard "b" "h"],
      ∀ other ∈ [fleetShard "a" "g", fleetShard "b" "h"],
      other.name ≠ shard.name ++ "-kine" ∧ other.name ≠ shard.name ++ "-postgresql" := by
    decide
  rintro shard isShard other isOther - ⟨_, (kine | ⟨database, _⟩) | (kine | ⟨database, _⟩)⟩
  · exact (names shard isShard other isOther).1 kine
  · exact (names shard isShard other isOther).2 database
  · exact (names other isOther shard isShard).1 kine
  · exact (names other isOther shard isShard).2 database

/-- Two shards in one namespace. -/
def pair : Fleet := ⟨[fleetShard "a" "g", fleetShard "b" "h"], distinct_pair, uncrowded_pair⟩

/-- Both are created, with what they need from others. -/
def paired : State :=
  let objects := (Surroundings.serving "b").objects.items.foldl Store.insert
    (Surroundings.serving "a").objects
  run State.step { cluster := .bare } [
    .edit (.create "a" (fleetShard "a" "g").spec),
    .edit (.create "b" (fleetShard "b" "h").spec),
    .surround { Surroundings.serving "a" with objects := objects }]

/-- A pass on one of them. -/
def passOver (state : State) (name : String) : State := (exec (reconcile .bare {} name) state).2

/-- The pass works on the spec of this shard and returns. -/
def PassesOver (state : State) (shard : APIShard) : Prop :=
  (∃ stored ∈ state.cluster.registry.copy {} shard.name, stored.spec = shard.spec) ∧
    (exec (reconcile .bare {} shard.name) state).1.isOk = true

instance (state : State) (shard : APIShard) : Decidable (PassesOver state shard) :=
  inferInstanceAs (Decidable (_ ∧ _))

theorem PassesOver.cons {state after : State} {shard : APIShard} {shards : List APIShard}
    (passed : PassesOver state shard)
    (rest : Passes .bare (passOver state shard.name) shards after) :
    Passes .bare state (shard :: shards) after := by
  obtain ⟨⟨stored, isStored, isSpec⟩, returned⟩ := passed
  obtain ⟨result, ran⟩ := exec_eq_of_isOk returned
  have clean : Schedule.Clean {} := fun _ => rfl
  exact .cons clean isStored isSpec ran rest

theorem undisturbed_pair : pair.Undisturbed paired.cluster := by
  obtain ⟨unlabelled, unconnected⟩ :
      (∀ shard ∈ pair.shards, ∀ other ∈ pair.shards, ∀ key ∈ foreignKeys shard,
        ∀ object ∈ paired.cluster.objects.find? key, object.owner ≠ some other.name) ∧
      ∀ shard ∈ pair.shards, shard.spec.storage.connectionSecretRef = none := by
    decide +kernel
  intro shard isShard other isOther
  refine ⟨fun key isForeign object found =>
    unlabelled shard isShard other isOther key isForeign object found, ?_⟩
  intro ref isRef
  rw [unconnected shard isShard] at isRef
  cases isRef

/-- A pass on each, and then again in the other order. -/
theorem fleet_at_rest_pair :
    ∃ middle after, Passes .bare paired [fleetShard "a" "g", fleetShard "b" "h"] middle ∧
      Passes .bare middle [fleetShard "b" "h", fleetShard "a" "g"] after ∧
      (∀ shard ∈ pair.shards, Converged .bare shard middle.cluster) ∧
      after.cluster.objects = middle.cluster.objects := by
  have plainly : Reconciler.bare.HashedPlainly := by
    intro base content
    refine ⟨"0", by decide, ?_⟩
    rw [String.append_assoc]
    rfl
  let one := passOver paired "a"
  let both := passOver one "b"
  let again := passOver both "b"
  obtain ⟨first, second, third, fourth⟩ :
      PassesOver paired (fleetShard "a" "g") ∧ PassesOver one (fleetShard "b" "h") ∧
      PassesOver both (fleetShard "b" "h") ∧ PassesOver again (fleetShard "a" "g") := by
    decide +kernel
  have passes : Passes .bare paired [fleetShard "a" "g", fleetShard "b" "h"] both :=
    first.cons (second.cons (.nil _))
  have further : Passes .bare both [fleetShard "b" "h", fleetShard "a" "g"]
    (passOver again "a") := third.cons (fourth.cons (.nil _))
  have rest := fleet_at_rest plainly pair undisturbed_pair passes (fun _ => Iff.rfl) further
    (by decide)
  exact ⟨both, passOver again "a", passes, further, rest⟩

end KubeShard.Apishard
