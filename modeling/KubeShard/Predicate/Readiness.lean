import KubeShard.Aggregation.Objects
import KubeShard.Apishard.Run
import KubeShard.Program.Blind

/-!
# Event filters

`operator/internal/predicate/predicate.go`: the filters on updates of Deployments,
StatefulSets and APIServices.  A shard that is ready is not polled, so an update these
filters drop must not be one the health checks would have noticed.
-/

namespace KubeShard.Predicate

open Apishard Aggregation Prog

/-! ## Events -/

/-- A Deployment or StatefulSet: what other steps read of it, and what the filters compare. -/
structure Workload where
  metadata : ObjectMeta
  stored : Object
  availableReplicas : Int := 0
  updatedReplicas : Int := 0
  deriving DecidableEq, Repr

/-- `client.Object`, by the types the filters tell apart. -/
inductive ClientObject where
  | deployment (workload : Workload)
  | statefulSet (workload : Workload)
  | apiService (object : APIServiceObject)
  | other (metadata : ObjectMeta)
  deriving DecidableEq, Repr

/-- The metadata of an object. -/
def ClientObject.metadata : ClientObject → ObjectMeta
  | .deployment workload | .statefulSet workload => workload.metadata
  | .apiService object => object.metadata
  | .other metadata => metadata

/-- `event.UpdateEvent`. -/
structure UpdateEvent where
  objectOld : Option ClientObject
  objectNew : Option ClientObject
  deriving DecidableEq, Repr

/-- `predicate.Funcs`: whether an event is handled. -/
structure Funcs where
  updateFunc : UpdateEvent → Bool
  createFunc : Option ClientObject → Bool := fun _ => true
  deleteFunc : Option ClientObject → Bool := fun _ => true
  genericFunc : Option ClientObject → Bool := fun _ => true

/-! ## Filters -/

/-- `generationOrMetadataChanged`. -/
def generationOrMetadataChanged (oldObj newObj : ClientObject) : Bool :=
  if oldObj.metadata.generation ≠ newObj.metadata.generation then true
  else if !semanticDeepEqual oldObj.metadata.ownerReferences newObj.metadata.ownerReferences then
    true
  else if !mapsEqual oldObj.metadata.labels newObj.metadata.labels then true
  else !mapsEqual oldObj.metadata.annotations newObj.metadata.annotations

/-- An update is handled when an object is missing, more than the status changed, or the
status changed in what the filter looks at. -/
def statusFilter (statusChanged : ClientObject → ClientObject → Bool) : Funcs where
  updateFunc event :=
    match event.objectOld, event.objectNew with
    | some oldObj, some newObj =>
        if generationOrMetadataChanged oldObj newObj then true else statusChanged oldObj newObj
    | _, _ => true

/-- `IgnoreStatusUpdatesPredicate`. -/
def ignoreStatusUpdatesPredicate : Funcs := statusFilter fun _ _ => false

/-- `replicaCounts`. -/
structure ReplicaCounts where
  replicas : Int := 0
  ready : Int := 0
  available : Int := 0
  updated : Int := 0
  deriving DecidableEq, Repr

/-- The replica counts of a workload. -/
def Workload.counts (workload : Workload) : ReplicaCounts where
  replicas := workload.stored.replicas
  ready := workload.stored.readyReplicas
  available := workload.availableReplicas
  updated := workload.updatedReplicas

/-- `extractReplicaCounts`. -/
def extractReplicaCounts : ClientObject → ReplicaCounts × Bool
  | .deployment workload | .statefulSet workload => (workload.counts, true)
  | _ => ({}, false)

/-- The replica counts differ, or there are none. -/
def countsChanged (oldObj newObj : ClientObject) : Bool :=
  let oldCounts := extractReplicaCounts oldObj
  if !oldCounts.2 then true
  else oldCounts.1 ≠ (extractReplicaCounts newObj).1

theorem countsChanged_false {oldObj newObj : ClientObject}
    (unchanged : countsChanged oldObj newObj = false) :
    (extractReplicaCounts oldObj).1 = (extractReplicaCounts newObj).1 := by
  simp only [countsChanged] at unchanged
  split at unchanged
  · cases unchanged
  · exact not_not.mp (of_decide_eq_false unchanged)

/-- `DeploymentReadinessPredicate`. -/
def deploymentReadinessPredicate : Funcs := statusFilter countsChanged

/-- `StatefulSetReadinessPredicate`. -/
def statefulSetReadinessPredicate : Funcs := statusFilter countsChanged

/-- `apiServiceAvailableStatus`. -/
def apiServiceAvailableStatus : ClientObject → String
  | .apiService object =>
      match object.availableCondition with
      | some condition => condition.status
      | none => ""
  | _ => ""

/-- `APIServiceAvailabilityPredicate`. -/
def apiServiceAvailabilityPredicate : Funcs :=
  statusFilter fun oldObj newObj =>
    apiServiceAvailableStatus oldObj ≠ apiServiceAvailableStatus newObj

theorem ownerReferences_of_unchanged {oldObj newObj : ClientObject}
    (unchanged : generationOrMetadataChanged oldObj newObj = false) :
    oldObj.metadata.ownerReferences.getD [] = newObj.metadata.ownerReferences.getD [] := by
  by_contra different
  have changed : semanticDeepEqual oldObj.metadata.ownerReferences
      newObj.metadata.ownerReferences = false := decide_eq_false different
  rw [generationOrMetadataChanged, changed] at unchanged
  simp at unchanged

/-- A dropped update changed neither the owner references nor the observed status. -/
theorem statusFilter_drops {statusChanged : ClientObject → ClientObject → Bool}
    {oldObj newObj : ClientObject}
    (dropped : (statusFilter statusChanged).updateFunc ⟨some oldObj, some newObj⟩ = false) :
    oldObj.metadata.ownerReferences.getD [] = newObj.metadata.ownerReferences.getD [] ∧
      statusChanged oldObj newObj = false := by
  simp only [statusFilter] at dropped
  cases changed : generationOrMetadataChanged oldObj newObj with
  | true => simp [changed] at dropped
  | false =>
      rw [changed] at dropped
      exact ⟨ownerReferences_of_unchanged changed, dropped⟩

/-! ## Deployments and StatefulSets -/

/-- Objects that are as ready in one state as in the other. -/
def AsReady (first second : State) : Prop :=
  ∀ key, (first.cluster.objects.find? key).map Object.ready =
    (second.cluster.objects.find? key).map Object.ready

theorem getObject_ready_blind (ctx : Schedule) (request : Call) (key : ObjectKey) :
    Blind AsReady (Object.ready <$> getObject ctx request key) := by
  intro first second alike
  have same := alike key
  rw [exec_map, exec_map, exec_getObject, exec_getObject]
  cases ctx.faults request with
  | some failure => exact ⟨rfl, alike⟩
  | none =>
      cases found : first.cluster.objects.find? key with
      | none =>
          rw [found, Option.map_none, eq_comm, Option.map_eq_none_iff] at same
          rw [same]
          exact ⟨rfl, alike⟩
      | some object =>
          rw [found, Option.map_some, eq_comm, Option.map_eq_some_iff] at same
          obtain ⟨other, isOther, ready⟩ := same
          rw [isOther]
          exact ⟨congrArg Except.ok ready.symm, alike⟩

theorem checkDeploymentHealth_asks (ctx : Schedule) (shard : APIShard) :
    checkDeploymentHealth ctx shard = (do
      let kineReady ← Object.ready <$> getObject ctx .getKineDeployment
        (targetKey shard .deployment (Resources.kineDeploymentName shard))
      let secondaryReady ← Object.ready <$> getObject ctx .getSecondaryDeployment
        (targetKey shard .deployment (Resources.secondaryDeploymentName shard))
      if shard.spec.storage.type = .inClusterPostgreSQL then
        let pgReady ← Object.ready <$> getObject ctx .getPostgreSQLStatefulSet
          (targetKey shard .statefulSet (Resources.postgreSQLStatefulSetName shard))
        pure (kineReady && secondaryReady && pgReady)
      else
        pure (kineReady && secondaryReady)) := by
  simp only [bind_map_left]
  rfl

/-- The health check asks each workload only whether it is ready. -/
theorem checkDeploymentHealth_blind (ctx : Schedule) (shard : APIShard) :
    Blind AsReady (checkDeploymentHealth ctx shard) := by
  rw [checkDeploymentHealth_asks]
  apply (getObject_ready_blind ctx _ _).bind
  intro kineReady
  apply (getObject_ready_blind ctx _ _).bind
  intro secondaryReady
  split
  · exact (getObject_ready_blind ctx _ _).bind fun _ => .of_pure _
  · exact .of_pure _

/-- The state after an update of a stored object. -/
def updated (state : State) (object : Object) : State :=
  { state with cluster.objects := state.cluster.objects.insert object }

theorem updated_asReady {state : State} {stored object : Object}
    (found : state.cluster.objects.find? stored.key = some stored)
    (sameKey : object.key = stored.key) (sameReady : object.ready = stored.ready) :
    AsReady (updated state object) state := by
  intro key
  by_cases isKey : key = object.key
  · rw [isKey, updated, Store.find?_insert_self, sameKey, found, Option.map_some, Option.map_some,
      sameReady]
  · rw [updated, Store.find?_insert_of_ne isKey]

theorem ready_of_counts {first second : Workload} (same : first.counts = second.counts) :
    second.stored.ready = first.stored.ready := by
  have replicas := congrArg ReplicaCounts.replicas same
  have ready := congrArg ReplicaCounts.ready same
  simp only [Workload.counts] at replicas ready
  rw [Object.ready, Object.ready, replicas, ready]

/-- The health check is blind to an update that changes no replica count. -/
theorem health_of_counts {oldWorkload newWorkload : Workload}
    (counts : oldWorkload.counts = newWorkload.counts)
    (sameKey : newWorkload.stored.key = oldWorkload.stored.key) (ctx : Schedule)
    (shard : APIShard) {state : State}
    (found : state.cluster.objects.find? oldWorkload.stored.key = some oldWorkload.stored) :
    (exec (checkDeploymentHealth ctx shard) (updated state newWorkload.stored)).1 =
      (exec (checkDeploymentHealth ctx shard) state).1 :=
  (checkDeploymentHealth_blind ctx shard _ _
    (updated_asReady found sameKey (ready_of_counts counts))).1

/-! ## APIServices -/

theorem ownedBy_congr {first second : APIServiceObject} (ownerUID : UID)
    (same : first.metadata.ownerReferences.getD [] = second.metadata.ownerReferences.getD []) :
    first.ownedBy ownerUID = second.ownedBy ownerUID := by
  rw [APIServiceObject.ownedBy, APIServiceObject.ownedBy, same]

/-- An APIService is available when its observed status is True. -/
theorem unavailable_isNone (object : APIServiceObject) :
    object.unavailable.isNone = (apiServiceAvailableStatus (.apiService object) = "True") := by
  rw [APIServiceObject.unavailable, apiServiceAvailableStatus]
  cases object.availableCondition with
  | none => simp
  | some condition =>
      dsimp only
      split <;> simp [*]

/-- An APIService does not stand in the way of the shard. -/
def passes (ownerUID : UID) (object : APIServiceObject) : Bool :=
  !object.ownedBy ownerUID || object.unavailable.isNone

/-- The boolean result: an owned APIService exists, and all of them are available. -/
theorem checkServices_fst (ownerUID : UID) (items : List APIServiceObject) :
    (checkServices ownerUID items).1 =
      (items.any (·.ownedBy ownerUID) && items.all (passes ownerUID)) := by
  have allAvailable : items.all (passes ownerUID) =
      (items.filter (·.ownedBy ownerUID)).all (·.unavailable.isNone) := by
    rw [List.all_filter]
    rfl
  have anyOwned : items.any (·.ownedBy ownerUID) =
      !(items.filter (·.ownedBy ownerUID)).isEmpty := by
    rw [Bool.eq_iff_iff, List.any_eq_true, Bool.not_eq_true', List.isEmpty_eq_false_iff_exists_mem]
    exact exists_congr fun object => (List.mem_filter).symm
  rw [allAvailable, anyOwned, checkServices]
  cases items.filter (·.ownedBy ownerUID) with
  | nil => rfl
  | cons object rest =>
      dsimp only
      cases stopped : (object :: rest).findSome? APIServiceObject.unavailable with
      | none =>
          rw [List.findSome?_eq_none_iff] at stopped
          simpa using stopped
      | some message =>
          obtain ⟨culprit, membership, reason⟩ := List.exists_of_findSome?_eq_some stopped
          symm
          rw [List.isEmpty_cons, Bool.not_false, Bool.true_and, List.all_eq_false]
          refine ⟨culprit, membership, ?_⟩
          rw [reason]
          exact Bool.false_ne_true

/-- One APIService in a list is replaced by one that is owned and available alike. -/
theorem checkServices_replace {ownerUID : UID} {first second : APIServiceObject}
    (owned : first.ownedBy ownerUID = second.ownedBy ownerUID)
    (available : first.unavailable.isNone = second.unavailable.isNone)
    (before after : List APIServiceObject) :
    (checkServices ownerUID (before ++ first :: after)).1 =
      (checkServices ownerUID (before ++ second :: after)).1 := by
  simp only [checkServices_fst, List.any_append, List.any_cons, List.all_append, List.all_cons,
    passes, owned, available]

/-! ## No health change is hidden -/

/-- An update of a Deployment, StatefulSet or APIService that its filter drops leaves the
result of the health check of every shard as it is, and whether the APIServices of any
owner are available, whatever else there is. -/
theorem dropped_hides_nothing :
    (∀ oldDeploy newDeploy : Workload,
      deploymentReadinessPredicate.updateFunc
        ⟨some (.deployment oldDeploy), some (.deployment newDeploy)⟩ = false →
      newDeploy.stored.key = oldDeploy.stored.key →
      ∀ (ctx : Schedule) (shard : APIShard) (state : State),
        state.cluster.objects.find? oldDeploy.stored.key = some oldDeploy.stored →
        (exec (checkDeploymentHealth ctx shard) (updated state newDeploy.stored)).1 =
          (exec (checkDeploymentHealth ctx shard) state).1) ∧
    (∀ oldSts newSts : Workload,
      statefulSetReadinessPredicate.updateFunc
        ⟨some (.statefulSet oldSts), some (.statefulSet newSts)⟩ = false →
      newSts.stored.key = oldSts.stored.key →
      ∀ (ctx : Schedule) (shard : APIShard) (state : State),
        state.cluster.objects.find? oldSts.stored.key = some oldSts.stored →
        (exec (checkDeploymentHealth ctx shard) (updated state newSts.stored)).1 =
          (exec (checkDeploymentHealth ctx shard) state).1) ∧
    ∀ oldService newService : APIServiceObject,
      apiServiceAvailabilityPredicate.updateFunc
        ⟨some (.apiService oldService), some (.apiService newService)⟩ = false →
      ∀ (ownerUID : UID) (before after : List APIServiceObject),
        (checkServices ownerUID (before ++ newService :: after)).1 =
          (checkServices ownerUID (before ++ oldService :: after)).1 := by
  refine ⟨?_, ?_, ?_⟩
  · intro oldDeploy newDeploy dropped sameKey ctx shard state found
    have counts : oldDeploy.counts = newDeploy.counts :=
      countsChanged_false (statusFilter_drops dropped).2
    exact health_of_counts counts sameKey ctx shard found
  · intro oldSts newSts dropped sameKey ctx shard state found
    have counts : oldSts.counts = newSts.counts :=
      countsChanged_false (statusFilter_drops dropped).2
    exact health_of_counts counts sameKey ctx shard found
  · intro oldService newService dropped ownerUID before after
    obtain ⟨owners, unchanged⟩ := statusFilter_drops dropped
    have statuses : apiServiceAvailableStatus (.apiService oldService) =
        apiServiceAvailableStatus (.apiService newService) := by simpa using unchanged
    apply checkServices_replace (ownedBy_congr ownerUID owners.symm)
    rw [Bool.eq_iff_iff, unavailable_isNone, unavailable_isNone, statuses]

/-- A workload of the shard `a`, as its controller last observed it. -/
def observed (kind : ObjectKind) (name observation : String) : Workload where
  metadata := { name := name, namespace_ := "target", generation := 1 }
  stored := {
    key := ⟨kind, "target", name⟩
    data := [("observed", observation)]
    replicas := 1
    readyReplicas := 1 }

/-- An APIService that waits for its endpoints. -/
def waiting (message : String) : APIServiceObject where
  metadata := { name := "v1.g", ownerReferences := some [⟨"v1", "APIShard", "a", 7, none, none⟩] }
  spec := ⟨"g", "v1", 1000, 100, none, "", true⟩
  conditions := [⟨"Available", "False", "MissingEndpoints", message⟩]

theorem dropped_hides_nothing_observed :
    (exec (checkDeploymentHealth {} ⟨"a", 7, 1, 1, [], false, plainSpec [], {}⟩)
      (updated (updated ⟨.bare, {}, 0, [], []⟩ (observed .deployment "a-kine" "1").stored)
        (observed .deployment "a-kine" "2").stored)).1 =
      (exec (checkDeploymentHealth {} ⟨"a", 7, 1, 1, [], false, plainSpec [], {}⟩)
        (updated ⟨.bare, {}, 0, [], []⟩ (observed .deployment "a-kine" "1").stored)).1 ∧
    (exec (checkDeploymentHealth {} ⟨"a", 7, 1, 1, [], false, plainSpec [], {}⟩)
      (updated (updated ⟨.bare, {}, 0, [], []⟩ (observed .statefulSet "a-postgresql" "1").stored)
        (observed .statefulSet "a-postgresql" "2").stored)).1 =
      (exec (checkDeploymentHealth {} ⟨"a", 7, 1, 1, [], false, plainSpec [], {}⟩)
        (updated ⟨.bare, {}, 0, [], []⟩ (observed .statefulSet "a-postgresql" "1").stored)).1 ∧
    (checkServices 7 ([] ++ waiting "no endpoints" :: [])).1 =
      (checkServices 7 ([] ++ waiting "no service" :: [])).1 :=
  ⟨dropped_hides_nothing.1 (observed .deployment "a-kine" "1") (observed .deployment "a-kine" "2")
      (by decide) rfl _ _ _ (Store.find?_insert_self _ _),
    dropped_hides_nothing.2.1 (observed .statefulSet "a-postgresql" "1")
      (observed .statefulSet "a-postgresql" "2") (by decide) rfl _ _ _
      (Store.find?_insert_self _ _),
    dropped_hides_nothing.2.2 _ _ (by decide) 7 [] []⟩

end KubeShard.Predicate
