import KubeShard.Apishard.Pass

/-!
# Registration of APIServices

`operator/internal/aggregation`: `Reconcile` applies an APIService for every
group and version of the spec and deletes those that were registered before and
are no longer wanted; `CheckAvailability` asks whether all APIServices of a shard
are served; `DetectCRDConflicts` finds CRDs of the primary for the shard's groups.

The API server refuses an APIService whose version is not a DNS label, and one that would
get a second controller.  All shards apply as one field manager, so the reference of one
shard is replaced by that of the next one, and only a reference of another field manager
stays beside it.
-/

namespace KubeShard.Aggregation

open Apishard Resources

variable (ctx : Schedule) (shard : APIShard)

/-! ## Reconcile -/

/-- `apiServiceName`. -/
def apiServiceName (version group : String) : String := s!"{version}.{group}"

/-- The versions and groups of the spec, in the order of the nested loops. -/
def versionedGroups : List (String × String) :=
  shard.spec.apiGroups.flatMap fun apiGroup =>
    apiGroup.versions.map fun version => (version, apiGroup.group)

/-- `desiredAPIServiceNames`. -/
def desiredAPIServiceNames : List String :=
  (versionedGroups shard).map fun pair => apiServiceName pair.1 pair.2

theorem desiredAPIServiceNames_congr {shard other : APIShard} (spec : other.spec = shard.spec) :
    desiredAPIServiceNames other = desiredAPIServiceNames shard := by
  rw [desiredAPIServiceNames, desiredAPIServiceNames, versionedGroups, versionedGroups, spec]

/-- The part of the validation of a version that keeps names unambiguous. -/
def validVersion (version : String) : Bool := version.toList.all (· ≠ '.')

/-- The APIService of a version and group. -/
def buildAPIService (caBundle version group : String) : APIService where
  name := apiServiceName version group
  group := group
  version := version
  serviceName := secondaryServiceName shard
  serviceNamespace := shard.spec.targetNamespace
  caBundle := caBundle
  insecureSkipTLSVerify := caBundle = ""
  automanaged := some "false"
  controller := some shard.uid
  available := none

/-- The controller reference that stays on an APIService when it is applied: that of
another field manager. -/
def keptController (stored : Option APIService) : Option UID :=
  (stored.filter APIService.foreign).bind APIService.controller

/-- The API server accepts the shard as controller of a stored APIService. -/
def accepts (stored : Option APIService) : Bool :=
  match keptController stored with
  | some controller => controller = shard.uid
  | none => true

/-- Server-side apply of an APIService. -/
def applyAPIService (index : Nat) (caBundle version group : String) : Pass Unit :=
  callAPI ctx (.applyAPIService index) do
    let service := buildAPIService shard caBundle version group
    let state ← get
    let stored := state.cluster.apiServices.find? service.name
    if !validVersion version then
      throw ⟨.fault .invalid, "spec.version: Invalid value"⟩
    else if !accepts shard stored then
      throw ⟨.fault .invalid, "Only one reference can have Controller set to true"⟩
    else
      set { state with
        cluster.apiServices := state.cluster.apiServices.insert
          { service with
            foreign := (keptController stored).isSome
            former := (stored.elim [] APIService.controllers).filter (· ≠ shard.uid)
            available := stored.bind APIService.available }
        trace := state.trace ++ [Event.appliedAPIService shard.uid service.name] }

/-- The apply loop of `Reconcile`. -/
def applyAPIServices (caBundle : String) : Nat → List (String × String) → Pass Unit
  | _, [] => pure ()
  | index, (version, group) :: rest => do
      (applyAPIService ctx shard index caBundle version group).mapError
        (·.wrap s!"applying APIService {apiServiceName version group}")
      applyAPIServices caBundle (index + 1) rest

/-- `r.Get` of an APIService. -/
def getAPIService (request : Call) (name : String) : Pass APIService :=
  callAPI ctx request do
    match (← get).cluster.apiServices.find? name with
    | some service => pure service
    | none => throw (.notFound "APIService.apiregistration.k8s.io" name)

/-- `r.Delete` of an APIService. -/
def deleteAPIService (request : Call) (name : String) : Pass Unit :=
  callAPI ctx request do
    let state ← get
    match state.cluster.apiServices.find? name with
    | some service =>
        set { state with
          cluster.apiServices := state.cluster.apiServices.erase name
          trace := state.trace ++ [Event.deletedAPIService shard.uid service] }
    | none => throw (.notFound "apiservices.apiregistration.k8s.io" name)

/-- The deletion loop of `Reconcile`. -/
def deleteOrphanedAPIServices (desired : List String) : Nat → List String → Pass Unit
  | _, [] => pure ()
  | index, name :: rest => do
      if name ∈ desired then
        deleteOrphanedAPIServices desired (index + 1) rest
      else
        match ← (getAPIService ctx (.getOrphan index) name).attempt with
        | .error failure =>
            if failure.isNotFound then
              deleteOrphanedAPIServices desired (index + 1) rest
            else
              throw (failure.wrap s!"getting orphaned APIService {name}")
        | .ok existing =>
            (deleteAPIService ctx shard (.deleteOrphan index) existing.name).mapError
              (·.wrap s!"deleting orphaned APIService {name}")
            deleteOrphanedAPIServices desired (index + 1) rest

/-- `Reconcile`: the names now registered. -/
def reconcile (caBundle : String) (previouslyRegistered : List String) : Pass (List String) := do
  let desired := desiredAPIServiceNames shard
  applyAPIServices ctx shard caBundle 0 (versionedGroups shard)
  deleteOrphanedAPIServices ctx shard desired 0 previouslyRegistered
  pure desired

/-! ## CheckAvailability -/

/-- The verdict of `CheckAvailability` on one owned APIService. -/
def unavailable (service : APIService) : Option String :=
  match service.available with
  | none => some s!"APIService {service.name} has no Available condition yet"
  | some (.true, _) => none
  | some (_, message) => some s!"APIService {service.name} not yet available: {message}"

/-- `CheckAvailability` on a listing: `none` when all owned APIServices are
available, else the message for the first that is not. -/
def checkOwned (ownerUID : UID) (services : List APIService) : Option String :=
  match services.filter fun service => service.controller = some ownerUID with
  | [] => some "no APIServices owned by shard"
  | owned => owned.findSome? unavailable

/-- `CheckAvailability`. -/
def checkAvailability (ownerUID : UID) : Pass (Option String) :=
  (callAPI ctx .listAPIServices do
    pure (checkOwned ownerUID (← get).cluster.apiServices.items)).mapError
    (·.wrap "list APIServices")

/-! ## DetectCRDConflicts -/

/-- The groups of the spec. -/
def aggregatedGroups : List String := shard.spec.apiGroups.map APIGroupSpec.group

/-- The CRDs of the primary for the shard's groups. -/
def conflicting (crds : List CRD) : List CRD :=
  crds.filter fun crd => crd.group ∈ aggregatedGroups shard

theorem conflicting_congr {shard other : APIShard} (spec : other.spec = shard.spec)
    (crds : List CRD) : conflicting other crds = conflicting shard crds := by
  rw [conflicting, conflicting, aggregatedGroups, aggregatedGroups, spec]

/-- `DetectCRDConflicts`: the names of the conflicting CRDs. -/
def detectCRDConflicts : Pass (List String) :=
  (callAPI ctx .listCRDs do
    pure ((conflicting shard (← get).cluster.crds.items).map CRD.name)).mapError
    (·.wrap "listing CRDs")

/-- The message of a conflict. -/
def conflictMessage (names : List String) : String :=
  "CRDs on primary conflict with aggregation: " ++ ", ".intercalate names

end KubeShard.Aggregation
