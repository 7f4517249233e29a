import KubeShard.Api.Error
import KubeShard.Api.Meta
import KubeShard.Aggregation.Apiservice

/-!
# APIServices as the primary stores them

`operator/internal/aggregation/apiservice.go` once more, on whole APIService objects with
their labels, owner references and conditions.  What a forced apply makes of the fields
that are not sent is for the API server to decide; it stores those that are.

`Apiservice` has the same loops as steps of a pass, where any call may also fail with NotFound,
as a read of a cache that lags behind does, and where the server can refuse an apply.  Here a
call that does not fail with a `Fault` answers truthfully: a Get or Delete is answered NotFound
only if there is no such object.
-/

namespace KubeShard.Aggregation

open Apishard Resources

/-- `apiregistrationv1.APIServiceCondition`. -/
structure APIServiceCondition where
  type : String
  status : String
  reason : String := ""
  message : String := ""
  deriving DecidableEq, Repr

/-- `apiregistrationv1.ServiceReference`. -/
structure ServiceReference where
  name : String
  namespace_ : String
  port : Option Int := none
  deriving DecidableEq, Repr

/-- `apiregistrationv1.APIServiceSpec`. -/
structure APIServiceSpec where
  group : String
  version : String
  groupPriorityMinimum : Int := 1000
  versionPriority : Int := 100
  service : Option ServiceReference
  caBundle : String
  insecureSkipTLSVerify : Bool
  deriving DecidableEq, Repr

/-- `apiregistrationv1.APIService`. -/
structure APIServiceObject where
  metadata : ObjectMeta
  spec : APIServiceSpec
  conditions : List APIServiceCondition := []
  deriving DecidableEq, Repr

/-- The name of an APIService. -/
def APIServiceObject.name (object : APIServiceObject) : String := object.metadata.name

/-! ## Reconcile -/

/-- `AutoManagedLabelKey`. -/
def autoManagedLabelKey : String := "kube-aggregator.kubernetes.io/automanaged"

/-- The reference `controllerutil.SetControllerReference` sets. -/
def controllerReference (shard : APIShard) : OwnerReference where
  apiVersion := "kube-shard.konflux-ci.dev/v1alpha1"
  kind := "APIShard"
  name := shard.name
  uid := shard.uid
  controller := some true
  blockOwnerDeletion := some true

/-- The APIService `Reconcile` sends for a version and group. -/
def desiredAPIService (shard : APIShard) (caBundle version group : String) :
    APIServiceObject where
  metadata := {
    name := apiServiceName version group
    labels := some [(autoManagedLabelKey, "false")]
    ownerReferences := some [controllerReference shard] }
  spec := {
    group := group
    version := version
    service := some ⟨secondaryServiceName shard, shard.spec.targetNamespace, none⟩
    caBundle := caBundle
    insecureSkipTLSVerify := caBundle = "" }

/-- The service reference that is sent has no port, which the server may fill in. -/
def ServiceReference.Keeps (sent stored : ServiceReference) : Prop :=
  stored.name = sent.name ∧ stored.namespace_ = sent.namespace_

/-- A stored APIService has the fields that were sent. -/
structure Stores (sent stored : APIServiceObject) : Prop where
  name : stored.name = sent.name
  labels : ∀ key value, sent.metadata.labels.get? key = some value →
    stored.metadata.labels.get? key = some value
  owners : ∀ reference ∈ sent.metadata.ownerReferences.getD [],
    reference ∈ stored.metadata.ownerReferences.getD []
  group : stored.spec.group = sent.spec.group
  version : stored.spec.version = sent.spec.version
  groupPriorityMinimum : stored.spec.groupPriorityMinimum = sent.spec.groupPriorityMinimum
  versionPriority : stored.spec.versionPriority = sent.spec.versionPriority
  service : ∀ reference ∈ sent.spec.service, ∃ kept ∈ stored.spec.service, reference.Keeps kept
  caBundle : stored.spec.caBundle = sent.spec.caBundle
  insecureSkipTLSVerify : stored.spec.insecureSkipTLSVerify = sent.spec.insecureSkipTLSVerify

/-- A server-side apply with forced ownership, for the live object if there is one. -/
structure ForcedApply where
  merge : Option APIServiceObject → APIServiceObject → APIServiceObject
  stores : ∀ live sent, Stores sent (merge live sent)

/-- The writes of `Reconcile`, in the order they take effect. -/
inductive Write where
  | applied (name : String)
  | deleted (name : String)
  deriving DecidableEq, Repr

/-- The APIServices of the primary, and what was written so far. -/
structure Primary where
  services : Store APIServiceObject.name
  writes : List Write := []

/-- The API calls of `Reconcile`, numbered in each of its loops. -/
inductive ServerCall where
  | apply (index : Nat)
  | get (index : Nat)
  | delete (index : Nat)
  deriving DecidableEq, Repr

/-- Programs on the primary. -/
abbrev Aggregating := Prog Primary ApiError

section reconcile

variable (server : ForcedApply) (faults : ServerCall → Option Fault) (shard : APIShard)

/-- `c.Patch` with `client.Apply` and `client.ForceOwnership`. -/
def patchService (index : Nat) (sent : APIServiceObject) : Aggregating Unit :=
  call faults (.apply index) do
    modify fun primary =>
      { services := primary.services.insert
          (server.merge (primary.services.find? sent.name) sent)
        writes := primary.writes ++ [.applied sent.name] }

/-- `c.Get`. -/
def getService (index : Nat) (name : String) : Aggregating APIServiceObject :=
  call faults (.get index) do
    match (← get).services.find? name with
    | some object => pure object
    | none => throw (.notFound "APIService.apiregistration.k8s.io" name)

/-- `c.Delete`. -/
def deleteService (index : Nat) (object : APIServiceObject) : Aggregating Unit :=
  call faults (.delete index) do
    if object.name ∈ (← get).services.keys then
      modify fun primary =>
        { services := primary.services.erase object.name
          writes := primary.writes ++ [.deleted object.name] }
    else
      throw (.notFound "apiservices.apiregistration.k8s.io" object.name)

/-- The apply loop. -/
def applyServices (caBundle : String) : Nat → List (String × String) → Aggregating Unit
  | _, [] => pure ()
  | index, (version, group) :: rest => do
      (patchService server faults index (desiredAPIService shard caBundle version group)).mapError
        (·.wrap s!"applying APIService {apiServiceName version group}")
      applyServices caBundle (index + 1) rest

/-- The deletion loop. -/
def deleteOrphanedServices (desired : List String) : Nat → List String → Aggregating Unit
  | _, [] => pure ()
  | index, name :: rest => do
      if name ∈ desired then
        deleteOrphanedServices desired (index + 1) rest
      else
        match ← (getService faults index name).attempt with
        | .error failure =>
            if failure.isNotFound then
              deleteOrphanedServices desired (index + 1) rest
            else
              throw (failure.wrap s!"getting orphaned APIService {name}")
        | .ok existing =>
            (deleteService faults index existing).mapError
              (·.wrap s!"deleting orphaned APIService {name}")
            deleteOrphanedServices desired (index + 1) rest

/-- `Reconcile`: the names it reports as registered. -/
def reconcileServices (caBundle : String) (previouslyRegistered : List String) :
    Aggregating (List String) := do
  let desired := desiredAPIServiceNames shard
  applyServices server faults shard caBundle 0 (versionedGroups shard)
  deleteOrphanedServices faults desired 0 previouslyRegistered
  pure desired

end reconcile

/-! ## CheckAvailability -/

/-- An owner reference has this UID. -/
def APIServiceObject.ownedBy (ownerUID : UID) (object : APIServiceObject) : Bool :=
  (object.metadata.ownerReferences.getD []).any fun reference => reference.uid = ownerUID

/-- The first Available condition. -/
def APIServiceObject.availableCondition (object : APIServiceObject) : Option APIServiceCondition :=
  object.conditions.find? fun condition => condition.type = "Available"

/-- What the loop over the owned APIServices says of one that it stops at. -/
def APIServiceObject.unavailable (object : APIServiceObject) : Option String :=
  match object.availableCondition with
  | some condition =>
      if condition.status = "True" then none
      else some s!"APIService {object.name} not yet available: {condition.message}"
  | none => some s!"APIService {object.name} has no Available condition yet"

/-- `CheckAvailability` on the items of a List that succeeded. -/
def checkServices (ownerUID : UID) (items : List APIServiceObject) : Bool × String :=
  match items.filter fun object => object.ownedBy ownerUID with
  | [] => (false, "no APIServices owned by shard")
  | owned =>
      match owned.findSome? APIServiceObject.unavailable with
      | some message => (false, message)
      | none => (true, "")

end KubeShard.Aggregation
