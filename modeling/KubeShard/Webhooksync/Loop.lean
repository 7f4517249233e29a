import KubeShard.Periodic.Ticker
import KubeShard.Webhooksync.Mirror

/-!
# The WebhookSync controller at work

A pass lists the two kinds of configuration at different times, and both may change before it
ends.  A configuration that could not be synced is reported and left for the next pass.  When
the controller has nothing to do for a WebhookSync that is Ready, admission on its secondary is
that of the primary.
-/

namespace KubeShard.Webhooksync

open Prog Periodic

variable {ρ : Type} {η : Kind → Type} {faults : Call → Option Fault} {kind : Kind}

/-! ## Loops without errors -/

/-- A deletion loop that returns no error was allowed to delete everything stale. -/
theorem deleteStaleItems_returns {currentNames : List String}
    {items : List (Configuration ρ (η kind))} {before after : World ρ η}
    (ran : exec (deleteStaleItems faults kind currentNames items) before = (.ok (), after)) :
    ∀ item ∈ items, item.name ∉ currentNames → faults (.delete kind item.name) = none := by
  induction items generalizing before with
  | nil => simp
  | cons first rest ih =>
      rw [deleteStaleItems] at ran
      by_cases current : first.name ∈ currentNames
      · rw [if_pos current] at ran
        intro item membership stale
        rcases List.mem_cons.mp membership with rfl | isRest
        · exact absurd current stale
        · exact ih ran item isRest stale
      · rw [if_neg current, exec_bind, exec_attempt] at ran
        cases outcome : faults (.delete kind first.name) with
        | some fault => simp [deleteConfiguration, exec_logged, call, outcome] at ran
        | none =>
            intro item membership stale
            rcases List.mem_cons.mp membership with rfl | isRest
            · exact outcome
            · generalize exec (deleteConfiguration faults kind first.name) before = deleted at ran
              obtain ⟨answer, middle⟩ := deleted
              cases answer with
              | ok done => exact ih ran item isRest stale
              | error failure =>
                  simp only at ran
                  split at ran
                  · exact ih ran item isRest stale
                  · cases ran

/-- A deletion that returns no error leaves current configurations only. -/
theorem deleteStale_returns {currentNames : List String} {before after : World ρ η}
    (ran : exec (deleteStale faults kind currentNames) before = (.ok (), after))
    (configuration : Configuration ρ (η kind)) :
    configuration ∈ (after.secondary kind).items ↔
      configuration ∈ (before.secondary kind).items ∧ configuration.name ∈ currentNames := by
  have deletes := deleteStale_deletes faults kind currentNames before
  rw [ran] at deletes
  obtain ⟨listing, middle, isListing, ran⟩ := exec_bind_eq_ok.mp ran
  obtain ⟨listed, isListing⟩ := exec_call_eq_ok.mp (exec_mapError_eq_ok.mp isListing)
  cases isListing
  have clean := deleteStaleItems_returns ran
  rw [deletes.kept, listedNames, listed]
  refine and_congr_right fun membership => ?_
  constructor
  · intro survives
    by_contra stale
    apply survives
    refine ⟨mem_issuedDeletes.mpr ⟨stale, ?_⟩, clean configuration membership stale⟩
    have used : configuration.name ∈ (before.secondary kind).keys :=
      Store.mem_keys.mpr ⟨configuration, membership, rfl⟩
    obtain ⟨earlier, later, split⟩ := List.append_of_mem used
    refine ⟨earlier, later, split, ?_⟩
    intro name isEarlier isStale
    obtain ⟨item, isItem, rfl⟩ := Store.mem_keys.mp
      (show name ∈ (before.secondary kind).keys by rw [split]; simp [isEarlier])
    exact clean item isItem isStale
  · rintro current ⟨isIssued, -⟩
    exact (mem_issuedDeletes.mp isIssued).1 current

section update

variable [DecidableEq ρ] [∀ kind, DecidableEq (η kind)]

/-- A sync loop that collects no error has synced what it was asked for. -/
theorem syncConfigurations_names {targetGroups : List String}
    {sources : List (Configuration ρ (η kind))} {before after : World ρ η} {synced : Synced}
    (ran : exec (syncConfigurations faults kind targetGroups sources) before =
      (.ok synced, after)) (noErrors : synced.errors = []) :
    synced.names = (asked kind targetGroups sources).map Configuration.name := by
  induction sources generalizing before after synced with
  | nil =>
      cases ran
      rfl
  | cons src rest ih =>
      rw [syncConfigurations] at ran
      by_cases wanted : shouldSync kind src.webhooks targetGroups
      · have split : asked kind targetGroups (src :: rest) =
            src :: asked kind targetGroups rest := List.filter_cons_of_pos wanted
        rw [if_pos wanted] at ran
        obtain ⟨outcome, middle, -, ran⟩ := exec_bind_eq_ok.mp ran
        obtain ⟨later, last, laterRan, ran⟩ := exec_bind_eq_ok.mp ran
        cases outcome with
        | ok done =>
            cases ran
            rw [split, List.map_cons, ih laterRan noErrors]
        | error failure =>
            cases ran
            cases noErrors
      · have split : asked kind targetGroups (src :: rest) = asked kind targetGroups rest :=
          List.filter_cons_of_neg wanted
        rw [if_neg wanted] at ran
        rw [split]
        exact ih ran noErrors

theorem syncs_of_returns {targetGroups : List String}
    {primary : Store (Configuration.name : Configuration ρ (η kind) → String)}
    {before after : World ρ η} {synced : Synced}
    (ran : exec (syncConfigurations faults kind targetGroups primary.items) before =
      (.ok synced, after)) :
    Syncs faults kind (asked kind targetGroups primary.items) before after synced.names := by
  obtain ⟨answer, middle, answers, syncs⟩ :=
    syncConfigurations_syncs faults targetGroups primary.nodup before
  cases ran.symm.trans answers
  exact syncs

/-- A kind that was synced and cleaned up without an error is mirrored. -/
theorem mirrors_of_returns {targetGroups : List String}
    {primary : Store (Configuration.name : Configuration ρ (η kind) → String)}
    {start middle listing after : World ρ η} {synced : Synced}
    (ran : exec (syncConfigurations faults kind targetGroups primary.items) start =
      (.ok synced, middle)) (noErrors : synced.errors = [])
    (sameListing : listing.secondary kind = middle.secondary kind)
    (cleaned : exec (deleteStale faults kind synced.names) listing = (.ok (), after)) :
    Mirrors kind (asked kind targetGroups primary.items) (after.secondary kind) := by
  have names := syncConfigurations_names ran noErrors
  have syncs := syncs_of_returns ran
  have mirrorOf (src) (isAsked : src ∈ asked kind targetGroups primary.items) :=
    syncs.synced src isAsked (by rw [names]; exact List.mem_map_of_mem isAsked)
  intro content
  simp only [List.mem_map, deleteStale_returns cleaned, sameListing, names]
  constructor
  · rintro ⟨configuration, ⟨present, src, isAsked, named⟩, rfl⟩
    obtain ⟨mirror, isMirror, same⟩ := mirrorOf src isAsked
    refine ⟨src, isAsked, ?_⟩
    rw [← same, Store.eq_of_key_eq isMirror present ((name_of_content_eq same).trans named)]
  · rintro ⟨src, isAsked, rfl⟩
    obtain ⟨mirror, isMirror, same⟩ := mirrorOf src isAsked
    exact ⟨mirror, ⟨isMirror, src, isAsked, (name_of_content_eq same).symm⟩, same⟩

end update

/-! ## The pass -/

/-- The object says that everything is synced. -/
def WebhookSync.isReady (whSync : WebhookSync) : Prop :=
  ∃ condition, findStatusCondition whSync.status.conditions .ready = some condition ∧
    condition.status = .true

/-- Only a pass without errors reports that everything is synced. -/
theorem errors_of_isReady {whSync : WebhookSync} {now validating mutating : Nat}
    {errors : List ApiError}
    (ready : (syncedStatus whSync now validating mutating errors).isReady) : errors = [] := by
  obtain ⟨condition, found, isTrue⟩ := ready
  cases errors with
  | nil => rfl
  | cons failure rest =>
      obtain ⟨time, set⟩ := findStatusCondition_set_self now
        (⟨.ready, .false, "SyncErrors", s!"{(failure :: rest).length} webhook(s) failed to sync",
          whSync.generation⟩ : NewCondition SyncCondition) whSync.status.conditions
      cases set.symm.trans found
      cases isTrue

theorem syncedStatus_observedGeneration (whSync : WebhookSync) (now validating mutating : Nat)
    (errors : List ApiError) :
    (syncedStatus whSync now validating mutating errors).status.observedGeneration =
      (syncedStatus whSync now validating mutating errors).generation := by
  simp only [syncedStatus]
  split <;> rfl

/-- A status write that returns no error has stored the object. -/
theorem updateStatus_returns {whSync : WebhookSync} {before after : World ρ η}
    (ran : exec (updateStatus faults whSync) before = (.ok (), after)) :
    after.sync = some whSync ∧ after.secondary = before.secondary := by
  rw [exec_logged_replace_ok ran]
  exact ⟨rfl, rfl⟩

theorem failures_eq_nil {answer : Except ApiError Unit} :
    failures answer = [] ↔ answer = .ok () := by
  cases answer <;> simp [failures]

section pass

variable [DecidableEq ρ] [∀ kind, DecidableEq (η kind)]
  {whSync : WebhookSync} {before after : World ρ η}

/-- What an object says after a pass that returned no error. -/
def Truthful (whSync : WebhookSync) (primary secondary : Configurations ρ η) : Prop :=
  whSync.status.observedGeneration = whSync.generation ∧
    (whSync.isReady → ∀ kind,
      Mirrors kind (asked kind whSync.apiGroups (primary kind).items) (secondary kind))

/-- A pass on an existing object that returns no error has gone through both kinds. -/
theorem reconcile_returns (present : before.sync = some whSync)
    (ran : exec (reconcile faults) before = (.ok (), after)) :
    ∃ (validating mutating : Synced) (validated mutated staleValidated staleMutated : World ρ η)
        (validatingAnswer mutatingAnswer : Except ApiError Unit),
      exec (syncConfigurations faults .validating whSync.apiGroups
        (before.primary .validating).items) before = (.ok validating, validated) ∧
      exec (syncConfigurations faults .mutating whSync.apiGroups
        (validated.primary .mutating).items) validated = (.ok mutating, mutated) ∧
      exec (deleteStale faults .validating validating.names) mutated =
        (validatingAnswer, staleValidated) ∧
      exec (deleteStale faults .mutating mutating.names) staleValidated =
        (mutatingAnswer, staleMutated) ∧
      exec (updateStatus faults (syncedStatus whSync staleMutated.clock validating.names.length
        mutating.names.length (validating.errors ++ mutating.errors ++
          failures validatingAnswer ++ failures mutatingAnswer))) staleMutated =
        (.ok (), after) := by
  obtain ⟨found, middle, isFound, ran⟩ := exec_bind_eq_ok.mp ran
  rw [exec_attempt_eq_ok, getSync] at isFound
  cases getFault : faults .getSync with
  | some fault =>
      rw [call_of_fault _ getFault] at isFound
      cases isFound
      cases ran
  | none =>
  rw [call_of_none _ getFault] at isFound
  simp only [exec_bind, exec_get, present, exec_pure] at isFound
  cases isFound
  obtain ⟨built, middle, isBuilt, ran⟩ := exec_bind_eq_ok.mp ran
  rw [exec_attempt_eq_ok] at isBuilt
  cases buildFault : faults .buildSecondaryClient with
  | some fault =>
      rw [call_of_fault _ buildFault] at isBuilt
      cases isBuilt
      simp [secondaryUnavailable, exec_bind] at ran
  | none =>
  rw [call_of_none _ buildFault] at isBuilt
  cases isBuilt
  obtain ⟨vwhcList, middle, isListed, ran⟩ := exec_bind_eq_ok.mp ran
  obtain ⟨-, isListed⟩ := exec_call_eq_ok.mp (exec_mapError_eq_ok.mp isListed)
  cases isListed
  obtain ⟨validating, validated, validatingRan, ran⟩ := exec_bind_eq_ok.mp ran
  obtain ⟨mwhcList, middle, isListed, ran⟩ := exec_bind_eq_ok.mp ran
  obtain ⟨-, isListed⟩ := exec_call_eq_ok.mp (exec_mapError_eq_ok.mp isListed)
  cases isListed
  obtain ⟨mutating, mutated, mutatingRan, ran⟩ := exec_bind_eq_ok.mp ran
  obtain ⟨validatingAnswer, staleValidated, validatingDeleted, ran⟩ := exec_bind_eq_ok.mp ran
  obtain ⟨mutatingAnswer, staleMutated, mutatingDeleted, ran⟩ := exec_bind_eq_ok.mp ran
  obtain ⟨now, middle, isNow, ran⟩ := exec_bind_eq_ok.mp ran
  cases isNow
  exact ⟨validating, mutating, validated, mutated, staleValidated, staleMutated,
    validatingAnswer, mutatingAnswer, validatingRan, mutatingRan,
    exec_attempt_eq_ok.mp validatingDeleted, exec_attempt_eq_ok.mp mutatingDeleted, ran⟩

theorem truthful_of_returns (present : before.sync = some whSync)
    (ran : exec (reconcile faults) before = (.ok (), after)) :
    ∃ written, after.sync = some written ∧
      Truthful written before.primary after.secondary := by
  obtain ⟨validating, mutating, validated, mutated, staleValidated, staleMutated,
    validatingAnswer, mutatingAnswer, validatingRan, mutatingRan, validatingDeleted,
    mutatingDeleted, ran⟩ := reconcile_returns present ran
  obtain ⟨stored, secondary⟩ := updateStatus_returns ran
  refine ⟨_, stored, syncedStatus_observedGeneration _ _ _ _ _, ?_⟩
  intro ready
  have noErrors := errors_of_isReady ready
  simp only [List.append_eq_nil_iff, failures_eq_nil] at noErrors
  obtain ⟨⟨⟨validatingClean, mutatingClean⟩, rfl⟩, rfl⟩ := noErrors
  have firstSyncs := syncs_of_returns validatingRan
  have secondSyncs := syncs_of_returns mutatingRan
  have firstDeletes := deleteStale_deletes faults .validating validating.names mutated
  have secondDeletes := deleteStale_deletes faults .mutating mutating.names staleValidated
  rw [validatingDeleted] at firstDeletes
  rw [mutatingDeleted] at secondDeletes
  rw [firstSyncs.inputs.primary] at mutatingRan
  intro kind
  rw [syncedStatus_apiGroups, secondary]
  cases kind with
  | validating =>
      rw [secondDeletes.others .validating nofun]
      exact mirrors_of_returns validatingRan validatingClean
        (secondSyncs.others .validating nofun) validatingDeleted
  | mutating =>
      exact mirrors_of_returns mutatingRan mutatingClean (firstDeletes.others .mutating nofun)
        mutatingDeleted

end pass

/-! ## The controller -/

/-- The watched parts of the primary: the configurations of each kind. -/
abbrev Watched (ρ : Type) (η : Kind → Type) : Kind → Type :=
  fun kind => Store (Configuration.name : Configuration ρ (η kind) → String)

/-- A secondary, with the resource version it gives out next. -/
abbrev Secondary (ρ : Type) (η : Kind → Type) := Configurations ρ η × Nat

/-- A pass over these caches and this secondary. -/
def passWorld (whSync : Option WebhookSync) (primary : Configurations ρ η)
    (secondary : Secondary ρ η) (clock : Nat) : World ρ η :=
  ⟨whSync, primary, secondary.1, secondary.2, clock, []⟩

/-- The states of the controller and what is around it. -/
abbrev ControlLoop (ρ : Type) (η : Kind → Type) :=
  Loop (Site (Watched ρ η) (Secondary ρ η) WebhookSync) Request (Seen (Watched ρ η) WebhookSync)

/-- The steps of both. -/
abbrev ControlStep (ρ : Type) (η : Kind → Type) :=
  Periodic.Step (Watched ρ η) (Secondary ρ η) WebhookSync (Call → Option Fault)

section controller

variable [DecidableEq ρ] [∀ kind, DecidableEq (η kind)]

/-- The reconciler as the controller runs it. -/
def syncReconciler : SyncReconciler (Watched ρ η) (Secondary ρ η) WebhookSync
    (Call → Option Fault) where
  missing faults := !(exec (reconcile faults)
    (passWorld none (fun _ => .empty : Configurations ρ η) (fun _ => .empty, 0) 0)).1.isOk
  reconcile faults whSync primary secondary clock :=
    let pass := exec (reconcile faults) (passWorld (some whSync) primary secondary clock)
    (!pass.1.isOk, pass.2.sync.getD whSync, pass.2.secondary, pass.2.revision)
  conflict faults := Function.update faults .updateStatus
    (some ⟨.conflict, "the object has been modified"⟩)

theorem truthful_of_reconcile (faults : Call → Option Fault) (whSync : WebhookSync)
    (primary : Configurations ρ η) (secondary : Secondary ρ η) (clock : Nat)
    (written : WebhookSync) (mirror : Secondary ρ η)
    (ran : syncReconciler.reconcile faults whSync primary secondary clock =
      (false, written, mirror)) : Truthful written primary mirror.1 := by
  simp only [syncReconciler] at ran
  obtain ⟨returned, rest⟩ := Prod.mk.inj ran
  obtain ⟨isWritten, isMirror⟩ := Prod.mk.inj rest
  rw [Bool.not_eq_false'] at returned
  obtain ⟨done, passed⟩ := exec_eq_of_isOk returned
  have present : (passWorld (some whSync) primary secondary clock).sync = some whSync := rfl
  obtain ⟨stored, isStored, truthful⟩ := truthful_of_returns present passed
  rw [isStored] at isWritten
  rw [← isMirror, ← isWritten]
  exact truthful

/-- From any state of the controller on: after a tick of the ticker whose sentinel was received,
and in any interleaving of webhook configuration events, edits of WebhookSyncs, passes and
failing calls in which the event handlers can list the WebhookSyncs and nobody else writes to
the secondaries, a WebhookSync that is neither queued nor waiting for a retry nor being worked
on has a status for its generation, and if that says Ready, its secondary holds the rewritten
configurations of its groups and no others, so that a request for one of these groups meets the
same webhooks on both clusters. -/
theorem ready_admits_alike_after_tick (loop : ControlLoop ρ η) (steps : List (ControlStep ρ η))
    (request : Request)
    (calm : Along (Periodic.controller syncReconciler).step
      (Controller.CalmStep fun _ edit => Calm edit)
      ((Periodic.controller syncReconciler).step loop (.change .tick)) steps)
    {after : ControlLoop ρ η}
    (isAfter : run (Periodic.controller syncReconciler).step loop (.change .tick :: steps) =
      after)
    (received : after.world.channel = false) {stored : Stored WebhookSync}
    (isStored : after.world.syncs.find? request = some stored)
    (notPending : ¬after.queue.Pending request) (idle : after.passes request = none) :
    stored.object.status.observedGeneration = stored.object.generation ∧
      (stored.object.isReady → ∀ kind,
        (((after.world.secondaries request).1 kind).items.map Configuration.content).Perm
          ((asked kind stored.object.apiGroups (after.world.primary kind).items).map
            fun src => (transform kind src).content) ∧
        ∀ group ∈ stored.object.apiGroups, ∀ matchesRest name,
          List.Forall₂ Rewritten (admitting group matchesRest (after.world.primary kind) name)
            (admitting group matchesRest ((after.world.secondaries request).1 kind) name)) := by
  subst isAfter
  obtain ⟨observed, mirrored⟩ := settled_after_tick
    (fun whSync primary secondary => Truthful whSync primary secondary.1)
    truthful_of_reconcile calm received notPending idle stored isStored
  refine ⟨observed, ?_⟩
  intro ready kind
  constructor
  · apply (mirrored ready kind).perm
    exact Store.nodup _ |>.sublist (List.filter_sublist.map _)
  · intro group target matchesRest name
    exact (mirrored ready kind).admitting_rewritten target matchesRest name

end controller

/-- The request for the WebhookSync of a shard. -/
def serviceRequest : Request := ("shard-system", "shard-wh-sync")

/-- A WebhookSync that nobody has worked on yet. -/
def serviceLoop : ControlLoop Unit fun _ => Unit where
  world :=
    { syncs := ⟨[⟨"shard-system", "shard-wh-sync", 1, ⟨"shard", 1, ["apps"], {}⟩⟩], by decide⟩
      primary := serviceWorld.primary
      secondaries := fun _ => (serviceWorld.secondary, serviceWorld.revision)
      clock := 7
      nextVersion := 2
      channel := false }
  queue := .empty
  passes := fun _ => none

/-- A pass that meets a failing create, and the pass that its status write leads to, whose
configurations change once it has listed them. -/
def serviceSteps : List (ControlStep Unit fun _ => Unit) :=
  [.change (.receive none), .take,
    .finish serviceRequest (Function.update noFaults (.create .validating "policy")
      (some ⟨.other, "timeout"⟩)),
    .take, .read serviceRequest (.primary .validating),
    .change (.editPrimary .validating ((serviceWorld.primary .validating).erase "jobs") none),
    .finish serviceRequest noFaults, .take, .finish serviceRequest noFaults,
    .take, .finish serviceRequest noFaults]

theorem ready_admits_alike_after_tick_service :
    ∃ after : ControlLoop Unit fun _ => Unit,
      run (Periodic.controller syncReconciler).step serviceLoop (.change .tick :: serviceSteps) =
        after ∧
      ((after.world.secondaries serviceRequest).1 .validating).keys = ["policy"] ∧
      List.Forall₂ Rewritten
        (admitting "apps" (fun _ => true) (after.world.primary .validating) "policy")
        (admitting "apps" (fun _ => true)
          ((after.world.secondaries serviceRequest).1 .validating) "policy") := by
  obtain ⟨-, alike⟩ := ready_admits_alike_after_tick serviceLoop serviceSteps serviceRequest
    ⟨rfl, trivial, trivial, trivial, trivial, rfl, trivial, trivial, trivial, trivial, trivial,
      trivial⟩ rfl (by decide) (Option.some_get (by decide)).symm (by decide) (by decide)
  have ready := alike ⟨_, (Option.some_get (by decide)).symm, by decide⟩
  exact ⟨_, rfl, by decide, (ready .validating).2 "apps" (by decide) (fun _ => true) "policy"⟩

end KubeShard.Webhooksync
