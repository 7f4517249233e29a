import KubeShard.Apishard.CRDSync
import KubeShard.Program.Blind
import KubeShard.Secondary.Client

/-!
# Watches

The mappers of the three controllers turn the event of a Secret or CRD into requests for
the objects whose reconcile reads it.  A change that would alter what a reconcile finds
must be mapped to the object it concerns.
-/

namespace KubeShard.Apishard

open Resources Prog

/-! ## Mappers -/

/-- `connectionSecretMapper`, on the shards its List returns and the namespace and name of
a Secret. -/
def connectionSecretMapper (list : Except ApiError (List APIShard)) (namespace_ name : String) :
    List String :=
  match list with
  | .error _ => []
  | .ok shards =>
      (shards.filter fun shard =>
        if shard.spec.storage.type ≠ .postgreSQL then false
        else
          match shard.spec.storage.connectionSecretRef with
          | none => false
          | some ref => shard.spec.targetNamespace = namespace_ && ref.name = name).map
        APIShard.name

/-- The mapper from Secrets to sync objects, on what its List in the namespace of the Secret
returns. -/
def secretToSyncMapper {σ : Type} (list : String → Except ApiError (List (SyncObject σ)))
    (namespace_ name : String) : List (String × String) :=
  match list namespace_ with
  | .error _ => []
  | .ok syncs =>
      (syncs.filter fun sync =>
        sync.connection.authSecret = name || sync.connection.caSecret = name).map SyncObject.key

/-- `secretToNamespaceSyncMapper`. -/
def secretToNamespaceSyncMapper :
    (String → Except ApiError (List (SyncObject SyncKind.namespaceSync.Spec))) →
      String → String → List (String × String) :=
  secretToSyncMapper

/-- `secretToWebhookSyncMapper`. -/
def secretToWebhookSyncMapper :
    (String → Except ApiError (List (SyncObject SyncKind.webhookSync.Spec))) →
      String → String → List (String × String) :=
  secretToSyncMapper

/-- `enqueueForCRD`, on the shards its List returns. -/
def enqueueForCRD (list : Except ApiError (List APIShard)) (crd : CRD) : List String :=
  match list with
  | .error _ => []
  | .ok shards =>
      (shards.filter fun shard => shard.spec.apiGroups.any fun apiGroup =>
        apiGroup.group = crd.group).map APIShard.name

/-! ## States that differ in one object -/

/-- The state without its objects. -/
def State.withoutObjects (state : State) : State :=
  { state with cluster.objects := .empty }

/-- Two states that differ in at most the object of this key. -/
structure DifferAt (key : ObjectKey) (first second : State) : Prop where
  elsewhere : ∀ other, other ≠ key →
    first.cluster.objects.find? other = second.cluster.objects.find? other
  rest : first.withoutObjects = second.withoutObjects

variable {key : ObjectKey} {ctx : Schedule} {shard : APIShard}

theorem callAPI_differAt {α : Type} {request : Call} {action : Pass α}
    (blind : Blind (DifferAt key) action) : Blind (DifferAt key) (callAPI ctx request action) := by
  apply Blind.bind
  · apply Blind.of_modify
    intro first second differ
    exact ⟨differ.elsewhere, congrArg (·.edited ctx request) differ.rest⟩
  · intro _
    cases ctx.faults request with
    | some failure => exact .of_throw failure
    | none => exact blind

/-- A read of another object. -/
theorem getObject_differAt {request : Call} {other : ObjectKey} (different : other ≠ key) :
    Blind (DifferAt key) (getObject ctx request other) := by
  apply callAPI_differAt
  intro first second differ
  simp only [exec_bind, exec_get, differ.elsewhere other different]
  cases second.cluster.objects.find? other <;> exact ⟨rfl, differ⟩

theorem setCondition_differAt (type : ShardCondition) (status : ConditionStatus)
    (reason message : String) :
    Blind (DifferAt key) (setCondition shard type status reason message) := by
  intro first second differ
  exact ⟨rfl, differ.elsewhere, congrArg
    (fun state => (exec (setCondition shard type status reason message) state).2) differ.rest⟩

theorem removeCondition_differAt (type : ShardCondition) :
    Blind (DifferAt key) (removeCondition type) := by
  intro first second differ
  exact ⟨rfl, differ.elsewhere, congrArg
    (fun state => (exec (removeCondition type) state).2) differ.rest⟩

/-- An apply reads the live object only at its own key. -/
theorem applyObject_differAt (object : Object) : Blind (DifferAt key) (applyObject object) := by
  intro first second differ
  have unserved : first.cluster.unserved object.key.kind =
      second.cluster.unserved object.key.kind := by
    have same := congrArg (fun state : State => state.cluster.unserved object.key.kind) differ.rest
    exact same
  rw [applyObject, exec_bind, exec_bind, exec_get, exec_get]
  dsimp only
  rw [unserved]
  cases second.cluster.unserved object.key.kind with
  | true => exact ⟨rfl, differ⟩
  | false =>
      refine ⟨rfl, ?_, congrArg (fun state : State =>
        { state with trace := state.trace ++ [Event.applied object.key object.data] }) differ.rest⟩
      intro other different
      have live := differ.elsewhere other different
      by_cases isKey : other = object.key
      · subst isKey
        have merged : first.cluster.merge object = second.cluster.merge object := by
          rw [Cluster.merge, Cluster.merge, live]
        have stored (cluster : Cluster) : (cluster.objects.insert
            (cluster.merge object)).find? object.key = some (cluster.merge object) := by
          have found := Store.find?_insert_self cluster.objects (cluster.merge object)
          rwa [Cluster.merge_key] at found
        exact (stored first.cluster).trans (merged ▸ (stored second.cluster).symm)
      · have outside (cluster : Cluster) : (cluster.objects.insert
            (cluster.merge object)).find? other = cluster.objects.find? other := by
          apply Store.find?_insert_of_ne
          rwa [Cluster.merge_key]
        exact (outside first.cluster).trans (live.trans (outside second.cluster).symm)

theorem applyOwned_differAt (component : Component) (data : List (String × String))
    (spec : ObjectSpec) : Blind (DifferAt key) (applyOwned ctx shard component data spec) := by
  apply callAPI_differAt
  apply (applyObject_differAt _).bind
  intro _ first second differ
  exact ⟨rfl, differ.elsewhere, congrArg (fun state : State =>
    { state with tracked := state.tracked ++ [component.key shard] }) differ.rest⟩

/-! ## Connection Secrets -/

/-- The part of `reconcileStorage` that checks the connection Secret. -/
def connectionCheck (ctx : Schedule) (shard : APIShard) : Pass Unit :=
  match shard.spec.storage.type with
  | .postgreSQL =>
      (validateExternalPostgreSQLSecret ctx shard).mapError (·.wrap "external PostgreSQL")
  | _ => pure ()

/-- The Secret of this key is not the connection Secret of the shard. -/
def Unconnected (key : ObjectKey) (shard : APIShard) : Prop :=
  shard.spec.storage.type = .postgreSQL →
    ∀ ref, shard.spec.storage.connectionSecretRef = some ref →
      targetKey shard .secret ref.name ≠ key

theorem storageNotReady_differAt (reason message : String) (failure : ApiError) :
    Blind (DifferAt key) (storageNotReady shard reason message failure) :=
  (setCondition_differAt _ _ _ _).bind fun _ => .of_throw failure

theorem validateExternalPostgreSQLSecret_differAt
    (other : ∀ ref, shard.spec.storage.connectionSecretRef = some ref →
      targetKey shard .secret ref.name ≠ key) :
    Blind (DifferAt key) (validateExternalPostgreSQLSecret ctx shard) := by
  rw [validateExternalPostgreSQLSecret]
  cases isRef : shard.spec.storage.connectionSecretRef with
  | none => exact storageNotReady_differAt _ _ _
  | some ref =>
      apply (getObject_differAt (other ref isRef)).attempt.bind
      intro secret
      cases secret with
      | error failure =>
          dsimp only
          split
          · exact storageNotReady_differAt _ _ _
          · exact storageNotReady_differAt _ _ _
      | ok secret =>
          dsimp only
          split
          · exact storageNotReady_differAt _ _ _
          · exact setCondition_differAt _ _ _ _

theorem connectionCheck_differAt (unconnected : Unconnected key shard) :
    Blind (DifferAt key) (connectionCheck ctx shard) := by
  rw [connectionCheck]
  split
  · next isType =>
      exact (validateExternalPostgreSQLSecret_differAt (unconnected isType)).mapError _
  · exact .of_pure ()

theorem applyOTelCollector_differAt (r : Reconciler) (params : OTelConnectionParams)
    (credentialSecretName : String) :
    Blind (DifferAt key) (applyOTelCollector r ctx shard params credentialSecretName) := by
  apply ((applyOwned_differAt _ _ _).mapError _).bind
  intro _
  apply ((applyOwned_differAt _ _ _).mapError _).bind
  intro _
  apply ((applyOwned_differAt _ _ _).mapError _).bind
  intro _
  split
  · exact (applyOwned_differAt _ _ _).mapError _
  · exact .of_pure ()

theorem externalMetrics_differAt (r : Reconciler)
    (other : ∀ ref, shard.spec.storage.connectionSecretRef = some ref →
      targetKey shard .secret ref.name ≠ key) :
    Blind (DifferAt key) (externalMetrics r ctx shard) := by
  rw [externalMetrics]
  cases isRef : shard.spec.storage.connectionSecretRef with
  | none => exact .of_throw _
  | some ref =>
      apply ((getObject_differAt (other ref isRef)).mapError _).bind
      intro secret
      cases r.parsePostgreSQLDSN (secret.entry ref.key) with
      | error failure => exact .of_throw _
      | ok params =>
          dsimp only
          cases shard.spec.storage.monitoring.bind StorageMonitoringSpec.caCertSecret with
          | none => exact .of_throw _
          | some caCert =>
              refine Blind.bind ?_ fun name => applyOTelCollector_differAt r _ name
              exact ((applyOwned_differAt _ _ _).mapError _).bind fun _ => .of_pure _

theorem reportMetrics_differAt {collect : Pass Unit} (blind : Blind (DifferAt key) collect) :
    Blind (DifferAt key) (reportMetrics shard collect) := by
  apply blind.attempt.bind
  intro answer
  cases answer with
  | error failure => exact setCondition_differAt _ _ _ _
  | ok _ => exact setCondition_differAt _ _ _ _

theorem reconcilePostgreSQLMetrics_differAt (r : Reconciler)
    (unconnected : Unconnected key shard) :
    Blind (DifferAt key) (reconcilePostgreSQLMetrics r ctx shard) := by
  rw [reconcilePostgreSQLMetrics]
  split
  · exact removeCondition_differAt _
  · split
    · exact setCondition_differAt _ _ _ _
    · exact reportMetrics_differAt (applyOTelCollector_differAt r _ _)
    · next isType =>
        exact reportMetrics_differAt (externalMetrics_differAt r (unconnected isType))

/-- A Secret that is some shard's connection Secret is mapped to it. -/
theorem connectionSecretMapper_of_connected {shards : List APIShard} {namespace_ name : String}
    (listed : shard ∈ shards)
    (connected : ¬Unconnected ⟨.secret, namespace_, name⟩ shard) :
    shard.name ∈ connectionSecretMapper (.ok shards) namespace_ name := by
  simp only [Unconnected, not_forall, not_not] at connected
  obtain ⟨isType, ref, isRef, isKey⟩ := connected
  obtain ⟨_, isNamespace, isName⟩ := ObjectKey.mk.inj isKey
  apply List.mem_map_of_mem
  apply List.mem_filter.mpr
  refine ⟨listed, ?_⟩
  simp [isType, isRef, isNamespace, isName]

/-! ## Secrets of sync objects -/

/-- The answer to the read of a Secret. -/
def readSecret (fault : Option ApiError) (objects : Store Object.key) (namespace_ name : String) :
    Except ApiError Object :=
  match fault with
  | some failure => .error failure
  | none =>
      match objects.find? ⟨.secret, namespace_, name⟩ with
      | some secret => .ok secret
      | none => .error (.notFound "Secret" name)

/-- The configuration `BuildClient` derives for a sync object. -/
def derivedConfig {σ : Type} (caFault authFault : Option ApiError) (objects : Store Object.key)
    (sync : SyncObject σ) : Except ApiError Secondary.ClientConfig :=
  Secondary.buildClientConfig sync.connection
    (readSecret caFault objects sync.namespace_ sync.connection.caSecret)
    (readSecret authFault objects sync.namespace_ sync.connection.authSecret)

theorem readSecret_congr {first second : Store Object.key} {namespace_ name : String}
    (same : first.find? ⟨.secret, namespace_, name⟩ = second.find? ⟨.secret, namespace_, name⟩)
    (fault : Option ApiError) :
    readSecret fault first namespace_ name = readSecret fault second namespace_ name := by
  unfold readSecret
  rw [same]

/-- A Secret whose change alters the configuration of a sync object is mapped to it. -/
theorem secretToSyncMapper_of_derived {σ : Type} {sync : SyncObject σ}
    {list : String → Except ApiError (List (SyncObject σ))} {namespace_ name : String}
    {first second : State} (differ : DifferAt ⟨.secret, namespace_, name⟩ first second)
    (listed : ∃ syncs, list sync.namespace_ = .ok syncs ∧ sync ∈ syncs)
    {caFault authFault : Option ApiError}
    (different : derivedConfig caFault authFault first.cluster.objects sync ≠
      derivedConfig caFault authFault second.cluster.objects sync) :
    sync.key ∈ secretToSyncMapper list namespace_ name := by
  have reads (secret : String) (other : sync.namespace_ = namespace_ → secret ≠ name) :
      first.cluster.objects.find? ⟨.secret, sync.namespace_, secret⟩ =
        second.cluster.objects.find? ⟨.secret, sync.namespace_, secret⟩ := by
    apply differ.elsewhere
    intro isKey
    obtain ⟨_, isNamespace, isName⟩ := ObjectKey.mk.inj isKey
    exact other isNamespace isName
  have mentioned : sync.namespace_ = namespace_ ∧
      (sync.connection.authSecret = name ∨ sync.connection.caSecret = name) := by
    by_contra unmentioned
    apply different
    rw [derivedConfig, derivedConfig, readSecret_congr (reads _ _), readSecret_congr (reads _ _)]
    · exact fun isNamespace isName => unmentioned ⟨isNamespace, .inl isName⟩
    · exact fun isNamespace isName => unmentioned ⟨isNamespace, .inr isName⟩
  obtain ⟨rfl, named⟩ := mentioned
  obtain ⟨syncs, isList, membership⟩ := listed
  rw [secretToSyncMapper, isList]
  apply List.mem_map_of_mem
  exact List.mem_filter.mpr ⟨membership, by simpa using named⟩

/-! ## CRDs -/

/-- One CRD was created, deleted, or updated in the same group; its event carries the last
object but one that is gone. -/
inductive CRDEvent (first second : Store CRD.name) (crd : CRD) : Prop where
  | created (before : first.find? crd.name = none) (after : second.find? crd.name = some crd)
  | deleted (before : first.find? crd.name = some crd) (after : second.find? crd.name = none)
  | updated (old : CRD) (before : first.find? crd.name = some old)
      (after : second.find? crd.name = some crd) (group : old.group = crd.group)

/-- The state without its CRDs. -/
def State.withoutCRDs (state : State) : State :=
  { state with cluster.crds := .empty }

/-- Two states that differ in at most the CRD of this name. -/
structure DifferInCRD (name : String) (first second : State) : Prop where
  elsewhere : first.cluster.crds.erase name = second.cluster.crds.erase name
  rest : first.withoutCRDs = second.withoutCRDs

/-- They differ in a CRD that is of no group of the shard. -/
structure DifferAside (name : String) (shard : APIShard) (first second : State) : Prop
    extends DifferInCRD name first second where
  before : ∀ crd, first.cluster.crds.find? name = some crd →
    crd.group ∉ Aggregation.aggregatedGroups shard
  after : ∀ crd, second.cluster.crds.find? name = some crd →
    crd.group ∉ Aggregation.aggregatedGroups shard

variable {name : String}

theorem callAPI_differAside {α : Type} {request : Call} {action : Pass α}
    (blind : Blind (DifferAside name shard) action) :
    Blind (DifferAside name shard) (callAPI ctx request action) := by
  apply Blind.bind
  · apply Blind.of_modify
    intro first second differ
    exact ⟨⟨differ.elsewhere, congrArg (·.edited ctx request) differ.rest⟩, differ.before,
      differ.after⟩
  · intro _
    cases ctx.faults request with
    | some failure => exact .of_throw failure
    | none => exact blind

/-- The conflicting CRDs are not those of other groups. -/
theorem conflicting_erase {crds : Store CRD.name}
    (aside : ∀ crd, crds.find? name = some crd →
      crd.group ∉ Aggregation.aggregatedGroups shard) :
    Aggregation.conflicting shard (crds.erase name).items =
      Aggregation.conflicting shard crds.items := by
  rw [Aggregation.conflicting, Aggregation.conflicting, Store.erase, List.filter_filter]
  apply List.filter_congr
  intro crd membership
  by_cases isName : crd.name = name
  · have found : crds.find? name = some crd := Store.find?_eq_some.mpr ⟨membership, isName⟩
    simp [aside crd found]
  · simp [isName]

theorem DifferAside.conflicting {first second : State}
    (differ : DifferAside name shard first second) :
    Aggregation.conflicting shard first.cluster.crds.items =
      Aggregation.conflicting shard second.cluster.crds.items := by
  rw [← conflicting_erase differ.before, ← conflicting_erase differ.after, differ.elsewhere]

theorem detectCRDConflicts_differAside :
    Blind (DifferAside name shard) (Aggregation.detectCRDConflicts ctx shard) := by
  apply Blind.mapError
  apply callAPI_differAside
  intro first second differ
  simp only [exec_bind, exec_get, exec_pure, differ.conflicting]
  exact ⟨trivial, differ⟩

/-- A detected CRD is not the one the states differ in. -/
theorem detectCRDConflicts_returns_other {first second : State}
    (differ : DifferAside name shard first second) {names : List String} {after : State}
    (ran : exec (Aggregation.detectCRDConflicts ctx shard) first = (.ok names, after)) :
    name ∉ names := by
  intro listed
  cases faulty : ctx.faults .listCRDs with
  | some failure =>
      rw [Aggregation.detectCRDConflicts, exec_mapError, exec_callAPI_some faulty] at ran
      cases ran
  | none =>
      rw [detectCRDConflicts_ok faulty] at ran
      cases ran
      obtain ⟨crd, conflicts, isName⟩ := List.mem_map.mp listed
      obtain ⟨membership, inGroups⟩ := List.mem_filter.mp conflicts
      exact differ.before crd (Store.find?_eq_some.mpr ⟨membership, isName⟩)
        (of_decide_eq_true inGroups)

theorem getCRD_differAside {index : Nat} {other : String} (different : other ≠ name) :
    Blind (DifferAside name shard) (getCRD ctx index other) := by
  apply callAPI_differAside
  intro first second differ
  have same : first.cluster.crds.find? other = second.cluster.crds.find? other := by
    rw [← Store.find?_erase_of_ne different, differ.elsewhere, Store.find?_erase_of_ne different]
  simp only [exec_bind, exec_get, same]
  cases second.cluster.crds.find? other <;> exact ⟨rfl, differ⟩

theorem applySecondaryCRD_differAside (index : Nat) (crd : CRD) :
    Blind (DifferAside name shard) (applySecondaryCRD ctx shard index crd) := by
  apply callAPI_differAside
  intro first second differ
  refine ⟨rfl, ⟨differ.elsewhere, congrArg (fun state : State => { state with
    cluster.secondaryCRDs := Function.update state.cluster.secondaryCRDs shard.uid
      ((state.cluster.secondaryCRDs shard.uid).insert (transformCRDConversion crd.secondary))
    trace := state.trace ++ [Event.appliedCRD shard.uid crd.uid] }) differ.rest⟩,
    differ.before, differ.after⟩

theorem syncCRDs_differAside {names : List String} (others : name ∉ names) (index : Nat) :
    Blind (DifferAside name shard) (syncCRDs ctx shard index names) := by
  induction names generalizing index with
  | nil => exact .of_pure []
  | cons head rest ih =>
      have isOther : head ≠ name := fun same => others (same ▸ List.mem_cons_self)
      have inner := ih (fun membership => others (List.mem_cons_of_mem _ membership)) (index + 1)
      apply (getCRD_differAside isOther).attempt.bind
      intro answer
      cases answer with
      | error failure => exact inner.bind fun _ => .of_pure _
      | ok crd =>
          apply (applySecondaryCRD_differAside index crd).attempt.bind
          intro outcome
          apply inner.bind
          intro errors
          cases outcome with
          | ok _ => exact .of_pure errors
          | error failure => exact .of_pure _

theorem getObject_differAside (request : Call) (key : ObjectKey) :
    Blind (DifferAside name shard) (getObject ctx request key) := by
  apply callAPI_differAside
  intro first second differ
  have same : first.cluster.objects = second.cluster.objects := by
    have objects := congrArg (fun state : State => state.cluster.objects) differ.rest
    exact objects
  simp only [exec_bind, exec_get, same]
  cases second.cluster.objects.find? key <;> exact ⟨rfl, differ⟩

theorem syncCRDsToSecondary_differAside {names : List String} (others : name ∉ names) :
    Blind (DifferAside name shard) (syncCRDsToSecondary ctx shard names) := by
  rw [syncCRDsToSecondary]
  split
  · exact .of_throw _
  · apply ((getObject_differAside _ _).mapError _).bind
    intro _
    apply ((getObject_differAside _ _).mapError _).bind
    intro _
    apply ((callAPI_differAside (.of_pure ())).mapError _).bind
    intro _
    apply (syncCRDs_differAside others 0).bind
    intro errors
    cases errors with
    | nil => exact .of_pure ()
    | cons failure rest => exact .of_throw _

theorem setCondition_differAside (type : ShardCondition) (status : ConditionStatus)
    (reason message : String) :
    Blind (DifferAside name shard) (setCondition shard type status reason message) := by
  intro first second differ
  exact ⟨rfl, ⟨differ.elsewhere, congrArg
    (fun state => (exec (setCondition shard type status reason message) state).2) differ.rest⟩,
    differ.before, differ.after⟩

theorem reconcileCRDConflicts_differAside :
    Blind (DifferAside name shard) (reconcileCRDConflicts ctx shard) := by
  rw [reconcileCRDConflicts]
  apply detectCRDConflicts_differAside.attempt.bind_of_returns
    (P := fun answer => ∀ names, answer = .ok names → name ∉ names)
  · intro first second differ answer after ran names isNames
    rw [isNames, exec_attempt_eq_ok] at ran
    exact detectCRDConflicts_returns_other differ ran
  · intro answer others
    cases answer with
    | error failure => exact .of_pure ()
    | ok names =>
        cases names with
        | nil => exact setCondition_differAside _ _ _ _
        | cons head rest =>
            apply (syncCRDsToSecondary_differAside (others _ rfl)).attempt.bind
            intro outcome
            cases outcome with
            | error failure => exact setCondition_differAside _ _ _ _
            | ok _ => exact setCondition_differAside _ _ _ _

/-- An event of a CRD in a group of the shard is mapped to it, and any other is aside. -/
theorem enqueueForCRD_or_aside {crd : CRD} {first second : State}
    (differ : DifferInCRD crd.name first second)
    (event : CRDEvent first.cluster.crds second.cluster.crds crd) {shards : List APIShard}
    (listed : shard ∈ shards) :
    shard.name ∈ enqueueForCRD (.ok shards) crd ∨ DifferAside crd.name shard first second := by
  by_cases inGroups : crd.group ∈ Aggregation.aggregatedGroups shard
  · left
    obtain ⟨apiGroup, isGroup, same⟩ := List.mem_map.mp inGroups
    apply List.mem_map_of_mem
    apply List.mem_filter.mpr
    exact ⟨listed, List.any_eq_true.mpr ⟨apiGroup, isGroup, decide_eq_true same⟩⟩
  · right
    cases event with
    | created before after =>
        refine ⟨differ, fun found isFound => ?_, fun found isFound => ?_⟩
        · cases before.symm.trans isFound
        · cases after.symm.trans isFound
          exact inGroups
    | deleted before after =>
        refine ⟨differ, fun found isFound => ?_, fun found isFound => ?_⟩
        · cases before.symm.trans isFound
          exact inGroups
        · cases after.symm.trans isFound
    | updated old before after group =>
        refine ⟨differ, fun found isFound => ?_, fun found isFound => ?_⟩
        · cases before.symm.trans isFound
          exact group ▸ inGroups
        · cases after.symm.trans isFound
          exact inGroups

/-! ## No trigger is lost -/

/-- What a step shows: its answer, the status of the shard, the CRDs of the secondaries, and
the writes so far. -/
def verdict {α : Type} (step : Pass α) (state : State) :
    Except ApiError α × APIShardStatus × (UID → Store SecondaryCRD.name) × List Event :=
  let outcome := exec step state
  (outcome.1, outcome.2.status, outcome.2.cluster.secondaryCRDs, outcome.2.trace)

theorem verdict_of_blind {α : Type} {step : Pass α} {related : State → State → Prop}
    (shown : ∀ first second, related first second → first.status = second.status ∧
      first.cluster.secondaryCRDs = second.cluster.secondaryCRDs ∧ first.trace = second.trace)
    (blind : Blind related step) {first second : State} (alike : related first second) :
    verdict step first = verdict step second := by
  obtain ⟨answer, after⟩ := blind first second alike
  obtain ⟨status, secondaries, trace⟩ := shown _ _ after
  rw [verdict, verdict, answer, status, secondaries, trace]

theorem DifferAt.shown {first second : State} (differ : DifferAt key first second) :
    first.status = second.status ∧ first.cluster.secondaryCRDs = second.cluster.secondaryCRDs ∧
      first.trace = second.trace := by
  have status := congrArg State.status differ.rest
  have secondaries := congrArg (fun state : State => state.cluster.secondaryCRDs) differ.rest
  have trace := congrArg State.trace differ.rest
  exact ⟨status, secondaries, trace⟩

theorem DifferAside.shown {first second : State} (differ : DifferAside name shard first second) :
    first.status = second.status ∧ first.cluster.secondaryCRDs = second.cluster.secondaryCRDs ∧
      first.trace = second.trace := by
  have status := congrArg State.status differ.rest
  have secondaries := congrArg (fun state : State => state.cluster.secondaryCRDs) differ.rest
  have trace := congrArg State.trace differ.rest
  exact ⟨status, secondaries, trace⟩

/-- A List of the sync objects in a namespace. -/
def listInNamespace {σ : Type} (syncs : List (SyncObject σ)) (namespace_ : String) :
    Except ApiError (List (SyncObject σ)) :=
  .ok (syncs.filter fun sync => sync.namespace_ = namespace_)

theorem mem_listInNamespace {σ : Type} {sync : SyncObject σ} {syncs : List (SyncObject σ)}
    (listed : sync ∈ syncs) :
    ∃ found, listInNamespace syncs sync.namespace_ = .ok found ∧ sync ∈ found :=
  ⟨_, rfl, List.mem_filter.mpr ⟨listed, decide_eq_true rfl⟩⟩

/-- Two states that differ in one Secret, or in one CRD that was created, deleted or updated
in its group: if a check of an object comes out differently in them, then the event of that
Secret or CRD is mapped to the object. -/
theorem no_trigger_lost :
    (∀ (r : Reconciler) (ctx : Schedule) (shard : APIShard) (shards : List APIShard)
      (namespace_ name : String) (first second : State), shard ∈ shards →
      DifferAt ⟨.secret, namespace_, name⟩ first second →
      verdict (connectionCheck ctx shard) first ≠ verdict (connectionCheck ctx shard) second ∨
        verdict (reconcilePostgreSQLMetrics r ctx shard) first ≠
          verdict (reconcilePostgreSQLMetrics r ctx shard) second →
      shard.name ∈ connectionSecretMapper (.ok shards) namespace_ name) ∧
    (∀ (caFault authFault : Option ApiError) (sync : SyncObject SyncKind.namespaceSync.Spec)
      (syncs : List (SyncObject SyncKind.namespaceSync.Spec)) (namespace_ name : String)
      (first second : State), sync ∈ syncs →
      DifferAt ⟨.secret, namespace_, name⟩ first second →
      derivedConfig caFault authFault first.cluster.objects sync ≠
        derivedConfig caFault authFault second.cluster.objects sync →
      sync.key ∈ secretToNamespaceSyncMapper (listInNamespace syncs) namespace_ name) ∧
    (∀ (caFault authFault : Option ApiError) (sync : SyncObject SyncKind.webhookSync.Spec)
      (syncs : List (SyncObject SyncKind.webhookSync.Spec)) (namespace_ name : String)
      (first second : State), sync ∈ syncs →
      DifferAt ⟨.secret, namespace_, name⟩ first second →
      derivedConfig caFault authFault first.cluster.objects sync ≠
        derivedConfig caFault authFault second.cluster.objects sync →
      sync.key ∈ secretToWebhookSyncMapper (listInNamespace syncs) namespace_ name) ∧
    ∀ (ctx : Schedule) (shard : APIShard) (shards : List APIShard) (crd : CRD)
      (first second : State), shard ∈ shards →
      DifferInCRD crd.name first second →
      CRDEvent first.cluster.crds second.cluster.crds crd →
      verdict (Aggregation.detectCRDConflicts ctx shard) first ≠
          verdict (Aggregation.detectCRDConflicts ctx shard) second ∨
        verdict (reconcileCRDConflicts ctx shard) first ≠
          verdict (reconcileCRDConflicts ctx shard) second →
      shard.name ∈ enqueueForCRD (.ok shards) crd := by
  refine ⟨?_, ?_, ?_, ?_⟩
  · intro r ctx shard shards namespace_ name first second listed differ different
    apply connectionSecretMapper_of_connected listed
    intro unconnected
    cases different with
    | inl check =>
        exact check (verdict_of_blind (fun _ _ => DifferAt.shown)
          (connectionCheck_differAt unconnected) differ)
    | inr metrics =>
        exact metrics (verdict_of_blind (fun _ _ => DifferAt.shown)
          (reconcilePostgreSQLMetrics_differAt r unconnected) differ)
  · intro caFault authFault sync syncs namespace_ name first second listed differ different
    exact secretToSyncMapper_of_derived differ (mem_listInNamespace listed) different
  · intro caFault authFault sync syncs namespace_ name first second listed differ different
    exact secretToSyncMapper_of_derived differ (mem_listInNamespace listed) different
  · intro ctx shard shards crd first second listed differ event different
    cases enqueueForCRD_or_aside differ event listed with
    | inl enqueued => exact enqueued
    | inr aside =>
        cases different with
        | inl detection =>
            exact absurd (verdict_of_blind (fun _ _ => DifferAside.shown)
              detectCRDConflicts_differAside aside) detection
        | inr conflicts =>
            exact absurd (verdict_of_blind (fun _ _ => DifferAside.shown)
              reconcileCRDConflicts_differAside aside) conflicts

/-- A shard whose database is reached by the DSN in the Secret `db`. -/
def externalShard : APIShard where
  name := "a"
  uid := 1
  generation := 1
  resourceVersion := 1
  spec := { plainSpec [⟨"g", ["v1"]⟩] with
    storage := { type := .postgreSQL, connectionSecretRef := some ⟨"db", "dsn"⟩ } }

/-- The NamespaceSync of that shard. -/
def externalSync : SyncObject SyncKind.namespaceSync.Spec where
  namespace_ := "target"
  name := "a-ns-sync"
  generation := 1
  connection := ⟨"a", "target", 443, "auth", "db"⟩
  spec := ⟨⟨[], []⟩, []⟩

/-- The Secret `db`. -/
def databaseSecret : Object where
  key := ⟨.secret, "target", "db"⟩
  data := [("dsn", "postgres://u@h"), ("ca.crt", "CA")]

/-- A cluster where only that Secret was created. -/
def withSecret : State where
  cluster := { Cluster.bare with objects := Store.empty.insert databaseSecret }

/-- A CRD of the group. -/
def thingsCRD : CRD where
  name := "things.g"
  uid := 3
  group := "g"
  conversion := none
  rest := ""

/-- A cluster where only that CRD was created. -/
def withCRD : State where
  cluster := { Cluster.bare with crds := Store.empty.insert thingsCRD }

theorem differAt_withSecret :
    DifferAt databaseSecret.key ⟨.bare, {}, 0, [], []⟩ withSecret where
  elsewhere _ different := (Store.find?_insert_of_ne different).symm
  rest := rfl

theorem no_trigger_lost_created :
    "a" ∈ connectionSecretMapper (.ok [externalShard]) "target" "db" ∧
    ("target", "a-ns-sync") ∈
      secretToNamespaceSyncMapper (listInNamespace [externalSync]) "target" "db" ∧
    "a" ∈ enqueueForCRD (.ok [externalShard]) thingsCRD :=
  ⟨no_trigger_lost.1 .bare {} externalShard [externalShard] "target" "db" _ _ List.mem_cons_self
      differAt_withSecret (.inl fun same => absurd (congrArg Prod.fst same) (by decide +kernel)),
    no_trigger_lost.2.1 none none externalSync [externalSync] "target" "db" _ _ List.mem_cons_self
      differAt_withSecret (by decide +kernel),
    no_trigger_lost.2.2.2 {} externalShard [externalShard] thingsCRD ⟨.bare, {}, 0, [], []⟩ withCRD
      List.mem_cons_self ⟨rfl, rfl⟩ (.created rfl rfl)
      (.inl fun same => absurd (congrArg Prod.fst same) (by decide +kernel))⟩

end KubeShard.Apishard
