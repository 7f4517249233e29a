import KubeShard.Api.Condition
import KubeShard.Api.Error
import KubeShard.Program.Store
import Mathlib.Logic.Function.Basic

/-!
# The WebhookSync reconciler

`operator/internal/controller/webhooksync/reconciler.go`: one pass copies the
admission webhook configurations that concern the sharded API groups to the
secondary, rewriting service references to URLs, and deletes the configurations
of the secondary that were not synced.

The two kinds of configuration are handled by twin code.  Everything here is
indexed by the kind; `η kind` stands for the fields of a webhook entry of that
kind, and `ρ` for the fields of a rule, that the reconciler only passes on.
-/

namespace KubeShard.Webhooksync

/-- The two kinds of admission webhook configuration. -/
inductive Kind where
  | validating
  | mutating
  deriving DecidableEq, Repr

/-- One value for each kind. -/
def Kind.choose {α : Type} (validating mutating : α) : Kind → α
  | .validating => validating
  | .mutating => mutating

/-- The Go name of a kind. -/
def Kind.goName : Kind → String
  | .validating => "ValidatingWebhookConfiguration"
  | .mutating => "MutatingWebhookConfiguration"

/-- `admissionregistrationv1.ServiceReference`. -/
structure ServiceReference where
  namespace_ : String
  name : String
  path : Option String
  port : Option Int
  deriving DecidableEq, Repr

/-- `admissionregistrationv1.WebhookClientConfig`. -/
structure WebhookClientConfig where
  url : Option String
  service : Option ServiceReference
  caBundle : List UInt8
  deriving DecidableEq, Repr

/-- `admissionregistrationv1.RuleWithOperations`. -/
structure Rule (ρ : Type) where
  apiGroups : List String
  rest : ρ
  deriving DecidableEq, Repr

/-- `ValidatingWebhook` or `MutatingWebhook`. -/
structure Webhook (ρ η : Type) where
  name : String
  clientConfig : WebhookClientConfig
  rules : List (Rule ρ)
  rest : η
  deriving DecidableEq, Repr

/-- The object metadata the reconciler reads, copies or strips. -/
structure ObjectMeta where
  name : String
  labels : List (String × String) := []
  annotations : List (String × String) := []
  resourceVersion : Option Nat := none
  uid : Option Nat := none
  ownerReferences : List String := []
  managedFields : List String := []
  generation : Nat := 0
  finalizers : List String := []
  deriving DecidableEq, Repr

/-- `ValidatingWebhookConfiguration` or `MutatingWebhookConfiguration`. -/
structure Configuration (ρ η : Type) where
  metadata : ObjectMeta
  webhooks : List (Webhook ρ η)
  deriving DecidableEq, Repr

/-- The name of a configuration. -/
def Configuration.name {ρ η : Type} (configuration : Configuration ρ η) : String :=
  configuration.metadata.name

/-- The configurations of one API server, by kind. -/
abbrev Configurations (ρ : Type) (η : Kind → Type) :=
  (kind : Kind) → Store (Configuration.name (ρ := ρ) (η := η kind))

/-- `WebhookSyncStatus`. -/
structure WebhookSyncStatus where
  conditions : List (Condition SyncCondition) := []
  syncedValidating : Nat := 0
  syncedMutating : Nat := 0
  lastSyncTime : Option Nat := none
  observedGeneration : Nat := 0
  deriving DecidableEq, Repr

/-- A `WebhookSync` object; `apiGroups` is all the pass reads of its spec. -/
structure WebhookSync where
  name : String
  generation : Nat
  apiGroups : List String
  status : WebhookSyncStatus
  deriving DecidableEq, Repr

/-- Writes a pass issues, each with the error it got back. -/
inductive Event where
  | create (kind : Kind) (name : String) (failure : Option ApiError)
  | update (kind : Kind) (name : String) (failure : Option ApiError)
  | delete (kind : Kind) (name : String) (failure : Option ApiError)
  | updateStatus (status : WebhookSyncStatus) (failure : Option ApiError)
  deriving DecidableEq, Repr

/-- What a pass reads and writes.  `revision` is the resource version the
secondary gives out next. -/
structure World (ρ : Type) (η : Kind → Type) where
  sync : Option WebhookSync
  primary : Configurations ρ η
  secondary : Configurations ρ η
  revision : Nat
  clock : Nat
  trace : List Event

/-- The API calls of one pass. -/
inductive Call where
  | getSync
  | buildSecondaryClient
  | listPrimary (kind : Kind)
  | get (kind : Kind) (name : String)
  | create (kind : Kind) (name : String)
  | update (kind : Kind) (name : String)
  | listSecondary (kind : Kind)
  | delete (kind : Kind) (name : String)
  | updateStatus
  deriving DecidableEq, Repr

/-! ## Filtering and rewriting -/

/-- `servicePort`. -/
def servicePort : Option Int → Int
  | none => 443
  | some port => port

/-- `servicePath`. -/
def servicePath : Option String → String
  | none => ""
  | some path => path

/-- The URL a service reference becomes. -/
def serviceURL (service : ServiceReference) : String :=
  s!"https://{service.name}.{service.namespace_}.svc:{servicePort service.port}{servicePath service.path}"

section pure

variable {ρ η : Type}

/-- The body of the rewriting loop, on one webhook entry. -/
def transformWebhook (webhook : Webhook ρ η) : Webhook ρ η :=
  match webhook.clientConfig.service with
  | some service =>
      { webhook with
        clientConfig.url := some (serviceURL service)
        clientConfig.service := none }
  | none => webhook

/-- The common body of `transformMutatingWebhook` and
`transformValidatingWebhook`: strip cluster metadata and rewrite every entry. -/
def transformConfiguration (src : Configuration ρ η) : Configuration ρ η where
  metadata :=
    { src.metadata with
      resourceVersion := none
      uid := none
      ownerReferences := []
      managedFields := []
      generation := 0
      finalizers := [] }
  webhooks := src.webhooks.map transformWebhook

/-- The common body of `shouldSyncValidatingWebhook` and
`shouldSyncMutatingWebhook`. -/
def shouldSyncWebhook (webhooks : List (Webhook ρ η)) (targetGroups : List String) : Bool :=
  webhooks.any fun webhook =>
    webhook.rules.any fun rule =>
      rule.apiGroups.any fun group => group ∈ targetGroups || group = "*"

@[simp] theorem transformConfiguration_name (src : Configuration ρ η) :
    (transformConfiguration src).name = src.name := rfl

end pure

section twins

variable {ρ : Type} {η : Kind → Type}

/-- `transformMutatingWebhook`. -/
def transformMutatingWebhook :
    Configuration ρ (η .mutating) → Configuration ρ (η .mutating) :=
  transformConfiguration

/-- `transformValidatingWebhook`. -/
def transformValidatingWebhook :
    Configuration ρ (η .validating) → Configuration ρ (η .validating) :=
  transformConfiguration

/-- `shouldSyncValidatingWebhook`. -/
def shouldSyncValidatingWebhook :
    List (Webhook ρ (η .validating)) → List String → Bool :=
  shouldSyncWebhook

/-- `shouldSyncMutatingWebhook`. -/
def shouldSyncMutatingWebhook :
    List (Webhook ρ (η .mutating)) → List String → Bool :=
  shouldSyncWebhook

/-- The transformation of a kind. -/
def transform : (kind : Kind) → Configuration ρ (η kind) → Configuration ρ (η kind)
  | .validating => transformValidatingWebhook
  | .mutating => transformMutatingWebhook

/-- The filter of a kind. -/
def shouldSync : (kind : Kind) → List (Webhook ρ (η kind)) → List String → Bool
  | .validating => shouldSyncValidatingWebhook
  | .mutating => shouldSyncMutatingWebhook

theorem transform_eq (kind : Kind) :
    (transform kind : Configuration ρ (η kind) → _) = transformConfiguration := by
  cases kind <;> rfl

theorem shouldSync_eq (kind : Kind) :
    (shouldSync kind : List (Webhook ρ (η kind)) → _) = shouldSyncWebhook := by
  cases kind <;> rfl

end twins

/-! ## The pass -/

section pass

variable {ρ : Type} {η : Kind → Type}

/-- Programs of this reconciler. -/
abbrev Pass (ρ : Type) (η : Kind → Type) := Prog (World ρ η) ApiError

/-- Append an event to the trace. -/
def record (event : Option ApiError → Event) (failure : Option ApiError) (world : World ρ η) :
    World ρ η :=
  { world with trace := world.trace ++ [event failure] }

variable (faults : Call → Option Fault)

/-- `r.Get` of the WebhookSync. -/
def getSync : Pass ρ η WebhookSync :=
  call faults .getSync do
    match (← get).sync with
    | some whSync => pure whSync
    -- the caller drops the text
    | none => throw (.notFound "WebhookSync.kube-shard.konflux-ci.dev" "")

/-- `r.List` of the configurations of a kind. -/
def listPrimary (kind : Kind) : Pass ρ η (List (Configuration ρ (η kind))) :=
  call faults (.listPrimary kind) do
    pure ((← get).primary kind).items

/-- `secondaryClient.List`. -/
def listSecondary (kind : Kind) : Pass ρ η (List (Configuration ρ (η kind))) :=
  call faults (.listSecondary kind) do
    pure ((← get).secondary kind).items

/-- How the errors of the secondary name the resource. -/
def Kind.plural : Kind → String :=
  Kind.choose "validatingwebhookconfigurations.admissionregistration.k8s.io"
    "mutatingwebhookconfigurations.admissionregistration.k8s.io"

/-- `secondaryClient.Get`. -/
def getConfiguration (kind : Kind) (name : String) : Pass ρ η (Configuration ρ (η kind)) :=
  call faults (.get kind name) do
    match ((← get).secondary kind).find? name with
    | some configuration => pure configuration
    | none => throw (.notFound kind.plural name)

/-- Store a configuration on the secondary. -/
def store (kind : Kind) (configuration : Configuration ρ (η kind)) : Pass ρ η Unit :=
  modify fun world => { world with
    secondary := Function.update world.secondary kind
      ((world.secondary kind).insert configuration)
    revision := world.revision + 1 }

/-- `secondaryClient.Create`.  The server fills in the identity of the object. -/
def createConfiguration (kind : Kind) (configuration : Configuration ρ (η kind)) :
    Pass ρ η Unit :=
  logged (record (.create kind configuration.name)) <| call faults (.create kind configuration.name) do
    let world ← get
    if configuration.name ∈ (world.secondary kind).keys then
      throw (.alreadyExists kind.plural configuration.name)
    else
      store kind { configuration with
        metadata.resourceVersion := some world.revision
        metadata.uid := some world.revision
        metadata.generation := 1 }

/-- `secondaryClient.Delete`. -/
def deleteConfiguration (kind : Kind) (name : String) : Pass ρ η Unit :=
  logged (record (.delete kind name)) <| call faults (.delete kind name) do
    if name ∈ ((← get).secondary kind).keys then
      modify fun world => { world with
        secondary := Function.update world.secondary kind ((world.secondary kind).erase name) }
    else
      throw (.notFound kind.plural name)

/-- `r.Status().Update`. -/
def updateStatus (whSync : WebhookSync) : Pass ρ η Unit :=
  logged (record (.updateStatus whSync.status)) <| call faults .updateStatus <|
    replace World.sync (fun object world => { world with sync := some object })
      "webhooksyncs.kube-shard.konflux-ci.dev" whSync.name whSync

/-- `deleteStaleValidating` and `deleteStaleMutating` after their listing: the
first failing delete ends the loop. -/
def deleteStaleItems (kind : Kind) (currentNames : List String) :
    List (Configuration ρ (η kind)) → Pass ρ η Unit
  | [] => pure ()
  | item :: rest => do
      if item.name ∈ currentNames then
        deleteStaleItems kind currentNames rest
      else
        match ← (deleteConfiguration faults kind item.name).attempt with
        | .ok () => deleteStaleItems kind currentNames rest
        | .error failure =>
            if failure.isNotFound then
              deleteStaleItems kind currentNames rest
            else
              throw (failure.wrap s!"deleting stale {kind.goName} {item.name}")

/-- The common body of `deleteStaleValidating` and `deleteStaleMutating`. -/
def deleteStale (kind : Kind) (currentNames : List String) : Pass ρ η Unit := do
  let secondaryList ← (listSecondary faults kind).mapError
    (·.wrap s!"listing {kind.goName}s on secondary")
  deleteStaleItems faults kind currentNames secondaryList

/-- `deleteStaleValidating`. -/
def deleteStaleValidating (currentNames : List String) : Pass ρ η Unit :=
  deleteStale faults .validating currentNames

/-- `deleteStaleMutating`. -/
def deleteStaleMutating (currentNames : List String) : Pass ρ η Unit :=
  deleteStale faults .mutating currentNames

/-- What a sync loop leaves: the synced names and the errors. -/
structure Synced where
  names : List String := []
  errors : List ApiError := []
  deriving DecidableEq, Repr

/-- Set the Ready condition of a WebhookSync. -/
def setReady (whSync : WebhookSync) (now : Nat) (status : ConditionStatus)
    (reason message : String) : WebhookSync :=
  { whSync with
    status.conditions := setStatusCondition now
      ⟨.ready, status, reason, message, whSync.generation⟩ whSync.status.conditions
    status.observedGeneration := whSync.generation }

/-- The exit on an unreachable secondary: report it, ignoring a failure of the
report, and return the error. -/
def secondaryUnavailable (whSync : WebhookSync) (failure : ApiError) : Pass ρ η Unit := do
  let now := (← get).clock
  let _ ← (updateStatus faults (setReady whSync now .false "SecondaryUnavailable"
    s!"Cannot connect to secondary: {failure.message}")).attempt
  throw failure

/-- The status a completed pass writes. -/
def syncedStatus (whSync : WebhookSync) (now validatingCount mutatingCount : Nat)
    (syncErrors : List ApiError) : WebhookSync :=
  let counted := { whSync with
    status.syncedValidating := validatingCount
    status.syncedMutating := mutatingCount }
  let reported :=
    if syncErrors.length > 0 then
      setReady counted now .false "SyncErrors" s!"{syncErrors.length} webhook(s) failed to sync"
    else
      setReady counted now .true "SyncComplete"
        s!"Synced {validatingCount} validating and {mutatingCount} mutating webhook(s)"
  { reported with status.lastSyncTime := some now }

/-- The error of an attempted step, as a list. -/
def failures : Except ApiError Unit → List ApiError
  | .ok () => []
  | .error failure => [failure]

variable [DecidableEq ρ] [∀ kind, DecidableEq (η kind)]

/-- `secondaryClient.Update`: an update that changes nothing is not stored, a
stale one is refused. -/
def updateConfiguration (kind : Kind) (configuration : Configuration ρ (η kind)) :
    Pass ρ η Unit :=
  logged (record (.update kind configuration.name)) <| call faults (.update kind configuration.name) do
    let world ← get
    match (world.secondary kind).find? configuration.name with
    | none => throw (.notFound kind.plural configuration.name)
    | some stored =>
        if configuration.metadata.resourceVersion ≠ stored.metadata.resourceVersion then
          throw (.conflict kind.plural configuration.name)
        else if configuration = stored then
          pure ()
        else
          store kind { configuration with
            metadata.resourceVersion := some world.revision
            metadata.generation :=
              if configuration.webhooks = stored.webhooks then stored.metadata.generation
              else stored.metadata.generation + 1 }

/-- The body of the sync loop, on one configuration that should be synced. -/
def syncConfiguration (kind : Kind) (src : Configuration ρ (η kind)) : Pass ρ η Unit := do
  let transformed := transform kind src
  match ← (getConfiguration faults kind transformed.name).attempt with
  | .ok existing =>
      updateConfiguration faults kind { existing with
        webhooks := transformed.webhooks
        metadata.labels := transformed.metadata.labels
        metadata.annotations := transformed.metadata.annotations }
  | .error failure =>
      if failure.isNotFound then
        createConfiguration faults kind transformed
      else
        throw failure

/-- The sync loop over the configurations of a kind. -/
def syncConfigurations (kind : Kind) (targetGroups : List String) :
    List (Configuration ρ (η kind)) → Pass ρ η Synced
  | [] => pure {}
  | src :: rest => do
      if shouldSync kind src.webhooks targetGroups then
        let outcome ← (syncConfiguration faults kind src).attempt
        let synced ← syncConfigurations kind targetGroups rest
        match outcome with
        | .ok () => pure { synced with names := src.name :: synced.names }
        | .error failure => pure { synced with
            errors := failure.wrap s!"syncing {kind.goName} {src.name}" :: synced.errors }
      else
        syncConfigurations kind targetGroups rest

/-- `Reconcile` for an existing WebhookSync. -/
def reconcileSync (whSync : WebhookSync) : Pass ρ η Unit := do
  match ← (call faults .buildSecondaryClient (pure ()) : Pass ρ η Unit).attempt with
  | .error failure => secondaryUnavailable faults whSync failure
  | .ok () =>
    let targetGroups := whSync.apiGroups
    let vwhcList ← (listPrimary faults .validating).mapError
      (·.wrap "listing ValidatingWebhookConfigurations")
    let validating ← syncConfigurations faults .validating targetGroups vwhcList
    let mwhcList ← (listPrimary faults .mutating).mapError
      (·.wrap "listing MutatingWebhookConfigurations")
    let mutating ← syncConfigurations faults .mutating targetGroups mwhcList
    let staleValidating ← (deleteStaleValidating faults validating.names).attempt
    let staleMutating ← (deleteStaleMutating faults mutating.names).attempt
    let now := (← get).clock
    updateStatus faults (syncedStatus whSync now validating.names.length mutating.names.length
      (validating.errors ++ mutating.errors ++ failures staleValidating ++
        failures staleMutating))

/-- `Reconcile`. -/
def reconcile : Pass ρ η Unit := do
  match ← (getSync faults).attempt with
  | .error failure => if failure.isNotFound then pure () else throw failure
  | .ok whSync => reconcileSync faults whSync

end pass

end KubeShard.Webhooksync
