import KubeShard.Apishard.Succeeded
import KubeShard.Apishard.Triggers
import KubeShard.Program.Control

/-!
# The APIShard controller at work

Users create, edit and delete shards at any time, also while a pass is under way.  Calls fail,
and what a pass waits for may not be there yet.  No event announces that a failed call would
succeed now, so the controller comes to rest only over shards that are ready or released.
-/

namespace KubeShard.Apishard

open Prog Aggregation

/-! ## What a pass leaves that is not repeated -/

/-- What the status of a shard says after a pass that is not repeated. -/
structure APIShardStatus.Served (shard : APIShard) (status : APIShardStatus) : Prop where
  phase : status.phase = .ready
  observedGeneration : status.observedGeneration = shard.generation
  registered : status.registeredAPIServices = desiredAPIServiceNames shard
  message : status.message = ""

/-- A shard on which nothing is left to do: one in use is ready, and one being deleted is no
longer held back by this controller. -/
structure APIShard.Rests (shard : APIShard) : Prop where
  released : shard.deleting = true → finalizerName ∉ shard.finalizers
  protected_ : shard.deleting = false → finalizerName ∈ shard.finalizers
  served : shard.deleting = false → shard.status.Served shard

section pass

variable {r : Reconciler} {ctx : Schedule} {name : String} {shard : APIShard}
  {state after : State} {result : Result}

/-- No stored shard of this name carries the finalizer. -/
def Registry.Unfinalized (registry : Registry) (name : String) : Prop :=
  ∀ stored ∈ registry.shards.items, stored.name = name → finalizerName ∉ stored.finalizers

namespace Registry.Unfinalized

variable {registry : Registry} (unfinalized : registry.Unfinalized name)
include unfinalized

theorem write {old new : APIShard} (stored : old ∈ registry.shards.items)
    (isName : new.name = old.name) (same : new.finalizers = old.finalizers) :
    (registry.write new).Unfinalized name := by
  intro shard membership named
  cases Store.mem_insert.mp membership with
  | inl isNew =>
      subst isNew
      show finalizerName ∉ new.finalizers
      rw [same]
      exact unfinalized old stored (isName.symm.trans named)
  | inr other => exact unfinalized shard other.1 named

/-- Users do not touch finalizers. -/
theorem edit (edit : ShardEdit) : (registry.edit edit).Unfinalized name := by
  cases edit with
  | create created spec =>
      simp only [Registry.edit]
      split
      · exact unfinalized
      · intro shard membership named
        cases Store.mem_insert.mp membership with
        | inl isNew =>
            rw [isNew]
            exact List.not_mem_nil
        | inr other => exact unfinalized shard other.1 named
  | editSpec edited spec =>
      simp only [Registry.edit]
      split
      · exact unfinalized
      · next old found => exact unfinalized.write (Store.find?_eq_some.mp found).1 rfl rfl
  | delete deleted =>
      simp only [Registry.edit]
      split
      · exact unfinalized
      · next old found =>
          split
          · exact fun shard membership => unfinalized shard (Store.mem_erase.mp membership).1
          · split
            · exact unfinalized
            · exact unfinalized.write (Store.find?_eq_some.mp found).1 rfl rfl

theorem edits (edits : List ShardEdit) : (registry.edits edits).Unfinalized name := by
  induction edits generalizing registry with
  | nil => exact unfinalized
  | cons edit rest ih => exact ih (unfinalized.edit edit)

end Registry.Unfinalized

theorem Registry.find?_write (registry : Registry) (shard : APIShard) :
    (registry.write shard).shards.find? shard.name =
      some { shard with resourceVersion := registry.nextRevision } :=
  Store.find?_insert_self registry.shards
    { shard with resourceVersion := registry.nextRevision }

/-- A stored shard is current. -/
theorem current_of_stored {registry : Registry} (wf : registry.Wf)
    (membership : shard ∈ registry.shards.items) :
    Current shard shard.resourceVersion registry where
  given := wf.revision shard membership
  agrees := by
    intro stored isStored sameName _
    rw [Store.eq_of_key_eq isStored membership sameName]

/-- A live copy of a stored shard, protected by the finalizer. -/
structure Secured (name : String) (copy : APIShard) (state : State) : Prop where
  wf : state.cluster.registry.Wf
  stored : copy ∈ state.cluster.registry.shards.items
  named : copy.name = name
  live : copy.deleting = false
  finalized : finalizerName ∈ copy.finalizers

theorem Secured.tended {copy : APIShard} (secured : Secured name copy state)
    (same : state.resourceVersion = copy.resourceVersion) : Tended copy state :=
  ⟨secured.wf, same ▸ current_of_stored secured.wf secured.stored⟩

/-- A shard that is deleted before the patch takes no new finalizer, so that a pass on a live
shard goes on with a live copy. -/
theorem ensureFinalizer_secures {copy : APIShard} (wf : state.cluster.registry.Wf)
    (found : state.cluster.registry.shards.find? name = some shard)
    (live : shard.deleting = false)
    (ran : exec (ensureFinalizer ctx shard) state = (.ok copy, after)) :
    Secured name copy after := by
  obtain ⟨membership, named⟩ := Store.find?_eq_some.mp found
  unfold ensureFinalizer at ran
  split at ran
  · next finalized =>
      cases ran
      exact ⟨wf, membership, named, live, finalized⟩
  · next unfinalized =>
      obtain ⟨_, ran⟩ := exec_callAPI_ok.mp ran
      simp only [exec_bind, exec_get] at ran
      split at ran
      · cases ran
      · next stored isStored =>
          obtain ⟨storedMembership, storedName⟩ := Store.find?_eq_some.mp isStored
          have before : state.cluster.registry.Unfinalized name := by
            intro other isOther otherName
            rwa [Store.eq_of_key_eq isOther membership (otherName.trans named.symm)]
          have without : finalizerName ∉ stored.finalizers :=
            before.edits _ stored storedMembership (storedName.trans named)
          have added : finalizerName ∈ shard.finalizers ++ [finalizerName] :=
            List.mem_append_right _ (List.mem_singleton.mpr rfl)
          split at ran
          · cases ran
          · next allowed =>
              cases ran
              refine ⟨(wf.edits _).write storedMembership rfl rfl, Store.mem_insert.mpr (.inl rfl),
                storedName.trans named, ?_, added⟩
              rw [← Bool.not_eq_true]
              exact fun deleting => allowed ⟨deleting, fun subset => without (subset added)⟩

/-- What the second half of a pass goes through that comes to its last write. -/
structure Concluded (ctx : Schedule) (shard : APIShard) (result : Result)
    (state registered detected checked cleaned after : State) : Prop where
  registers : exec (reconcileAPIServices ctx shard) state = (.ok (), registered)
  detects : exec (reconcileCRDConflicts ctx shard) registered = (.ok (), detected)
  checks : exec (updateHealthStatus ctx shard) detected = (.ok result, checked)
  cleans : Cleaned ctx shard checked cleaned
  reports : exec (reportSuccess ctx shard) cleaned = (.ok (), after)

/-- A second half that returns no error has come to its last write. -/
theorem reconcileServing_concluded
    (ran : exec (reconcileServing ctx shard) state = (.ok result, after)) :
    ∃ registered detected checked cleaned,
      Concluded ctx shard result state registered detected checked cleaned after := by
  rcases reconcileServing_cases ctx shard state with
    ⟨failure, registered, first, served⟩ | ⟨registered, detected, first, second, rest⟩
  · rw [served, exec_setErrorAndRequeue] at ran
    cases ran
  · rcases rest with ⟨failure, checked, third, served⟩ |
      ⟨verdict, checked, cleaned, third, cleans, served⟩
    · rw [served] at ran
      cases ran
    · rw [served] at ran
      obtain ⟨_, last, reports, returned⟩ := exec_bind_eq_ok.mp ran
      cases returned
      exact ⟨registered, detected, checked, cleaned, first, second, third, cleans, reports⟩

/-- The health check asks for no other pass only when it has made the shard ready. -/
theorem updateHealthStatus_ready
    (ran : exec (updateHealthStatus ctx shard) state = (.ok result, after))
    (final : result.requeueAfter = 0) : after.status.phase = .ready := by
  obtain ⟨healthy, read, _, ran⟩ := exec_bind_eq_ok.mp ran
  cases healthy with
  | true =>
      obtain ⟨_, marked, _, ran⟩ := exec_bind_eq_ok.mp ran
      obtain ⟨_, named, _, ran⟩ := exec_bind_eq_ok.mp ran
      obtain ⟨_, mirrored, _, ran⟩ := exec_bind_eq_ok.mp ran
      obtain ⟨verdict, listed, _, ran⟩ := exec_bind_eq_ok.mp ran
      split at ran
      · next waits =>
          cases ran
          exact absurd final (Nat.ne_of_gt waits)
      · cases ran
        rfl
  | false =>
      obtain ⟨_, first, _, ran⟩ := exec_bind_eq_ok.mp ran
      obtain ⟨_, second, _, ran⟩ := exec_bind_eq_ok.mp ran
      obtain ⟨now, third, _, ran⟩ := exec_bind_eq_ok.mp ran
      dsimp only at ran
      split at ran
      · obtain ⟨_, fourth, _, ran⟩ := exec_bind_eq_ok.mp ran
        cases ran
        cases final
      · cases ran
        cases final

section concluded

variable {registered detected checked cleaned : State}
  (concluded : Concluded ctx shard result state registered detected checked cleaned after)
include concluded

/-- The status a pass leaves is the one of its last write. -/
theorem Concluded.status : after.status = (exec (setReconciled shard) cleaned).2.status := by
  have written := updateStatus_status ctx shard .writeFinal (exec (setReconciled shard) cleaned).2
  have ran := concluded.reports
  rw [exec_reportSuccess] at ran
  rwa [ran] at written

theorem Concluded.lists :
    after.status.registeredAPIServices = desiredAPIServiceNames shard := by
  have calm := ((reconcileCRDConflicts_calm ctx shard).rel concluded.detects).trans
    (((updateHealthStatus_calm ctx shard).rel concluded.checks).trans concluded.cleans.calm)
  obtain ⟨_, _, _, _, isRegistered⟩ := reconcileAPIServices_ok concluded.registers
  rw [concluded.status]
  exact (setReconciled_calm ctx shard cleaned).registered.trans
    (calm.registered.trans (by rw [isRegistered]))

/-- A pass that asks for no other says that the shard is served. -/
theorem Concluded.served (final : result.requeueAfter = 0) : after.status.Served shard where
  phase := by
    have isReady := updateHealthStatus_ready concluded.checks final
    rw [← concluded.cleans.status] at isReady
    rw [concluded.status]
    exact isReady
  observedGeneration := by
    rw [concluded.status]
    rfl
  registered := concluded.lists
  message := by
    rw [concluded.status]
    rfl

end concluded

/-- A pass on a live shard that asks for no other has made it ready. -/
theorem reconcileLive_rests (wf : state.cluster.registry.Wf)
    (found : state.cluster.registry.shards.find? name = some shard)
    (live : shard.deleting = false)
    (ran : exec (reconcileLive r ctx shard) state = (.ok result, after))
    (final : result.requeueAfter = 0) :
    ∃ stored, after.cluster.registry.shards.find? name = some stored ∧ stored.Rests := by
  obtain ⟨copy, patched, secures, ran⟩ := exec_bind_eq_ok.mp ran
  obtain ⟨_, start, adopts, ran⟩ := exec_bind_eq_ok.mp ran
  have secured := ensureFinalizer_secures wf found live secures
  cases adopts
  have adopted : Secured name copy { patched with
      status := copy.status, resourceVersion := copy.resourceVersion, tracked := [] } :=
    ⟨secured.wf, secured.stored, secured.named, secured.live, secured.finalized⟩
  have isStored := reconcileCopy_stored (adopted.tended rfl) ran
  rw [secured.named] at isStored
  obtain ⟨_, applied, _, serves⟩ := exec_bind_eq_ok.mp ran
  obtain ⟨registered, detected, checked, cleaned, concluded⟩ := reconcileServing_concluded serves
  refine ⟨_, isStored, ?_, fun _ => secured.finalized, fun _ => ?_⟩
  · intro deleting
    cases secured.live.symm.trans deleting
  · have served := concluded.served final
    exact ⟨served.phase, served.observedGeneration, served.registered, served.message⟩

/-- A pass that has removed the finalizer has left none, and one that had none to remove has
changed nothing. -/
theorem reconcileDelete_rests (wf : state.cluster.registry.Wf)
    (found : state.cluster.registry.shards.find? name = some shard)
    (deleting : shard.deleting = true)
    (ran : exec (reconcileDelete ctx shard) state = (.ok (), after)) :
    ∀ stored, after.cluster.registry.shards.find? name = some stored → stored.Rests := by
  intro stored isStored
  obtain ⟨membership, named⟩ := Store.find?_eq_some.mp found
  have rests {shard : APIShard} (deleting : shard.deleting = true)
      (released : finalizerName ∉ shard.finalizers) : shard.Rests :=
    ⟨fun _ => released, fun live => (by cases deleting.symm.trans live),
      fun live => (by cases deleting.symm.trans live)⟩
  unfold reconcileDelete at ran
  split at ran
  · obtain ⟨_, deregistered, deregisters, ran⟩ := exec_bind_eq_ok.mp ran
    obtain ⟨_, ran⟩ := exec_callAPI_ok.mp ran
    simp only [exec_bind, exec_get] at ran
    split at ran
    · cases ran
    · next last isLast =>
        split at ran
        · cases ran
        · next fresh =>
            have registering := (deregister_registering (List.Subset.refl _) 0).rel deregisters
            have follows := registering.registry.follows.trans
              (Registry.follows_edits _ (ctx.edits .removeFinalizer))
            obtain ⟨isLastStored, lastName⟩ := Store.find?_eq_some.mp isLast
            have agrees := ((current_of_stored wf membership).follows follows).agrees last
              isLastStored lastName (not_not.mp fresh)
            cases ran
            rw [← named] at isStored
            dsimp only at isStored
            split at isStored
            · cases (Store.find?_erase_self _ _).symm.trans isStored
            · rw [← lastName] at isStored
              cases (Registry.find?_write _ _).symm.trans isStored
              apply rests
              · rw [agrees]
                exact deleting
              · simp
  · next unfinalized =>
      cases ran
      rw [found] at isStored
      cases isStored
      exact rests deleting unfinalized

/-- A shard that is reported missing is missing. -/
theorem getShard_notFound {failure : ApiError} (truthful : Truthful ctx .getShard)
    (ran : exec (getShard ctx name) state = (.error failure, after))
    (notFound : failure.isNotFound = true) :
    after.cluster.registry.shards.find? name = none := by
  cases faults : ctx.faults .getShard with
  | some fault =>
      rw [getShard, exec_callAPI_some faults] at ran
      cases ran
      cases (truthful _ faults).symm.trans notFound
  | none =>
      rw [getShard, exec_callAPI_none faults] at ran
      simp only [exec_bind, exec_get] at ran
      split at ran
      · cases ran
      · next missing =>
          cases ran
          exact missing

/-- A pass that returns no error and asks for no other leaves nothing to do. -/
theorem reconcile_rests (wf : state.cluster.registry.Wf)
    (truthful : Truthful ctx .getShard)
    (ran : exec (reconcile r ctx name) state = (.ok result, after))
    (final : result.requeueAfter = 0) :
    ∀ stored, after.cluster.registry.shards.find? name = some stored → stored.Rests := by
  intro stored isStored
  rw [reconcile, exec_bind, exec_attempt] at ran
  cases answered : exec (getShard ctx name) state with
  | mk answer read =>
  rw [answered] at ran
  cases answer with
  | error failure =>
      dsimp only at ran
      split at ran
      · next isNotFound =>
          cases ran
          have missing := getShard_notFound truthful answered isNotFound
          cases missing.symm.trans isStored
      · cases ran
  | ok shard =>
      obtain ⟨_, reads⟩ := exec_callAPI_ok.mp answered
      simp only [exec_bind, exec_get] at reads
      split at reads
      · next isShard found =>
        cases reads
        dsimp only at ran
        split at ran
        · next deleting =>
            obtain ⟨_, middle, deletes, returned⟩ := exec_bind_eq_ok.mp ran
            cases returned
            exact reconcileDelete_rests (wf.edits _) found deleting deletes stored isStored
        · next live =>
            obtain ⟨written, isWritten, rests⟩ :=
              reconcileLive_rests (wf.edits _) found (Bool.eq_false_iff.mpr live) ran final
            cases isWritten.symm.trans isStored
            exact rests
      · cases reads

end pass

/-! ## The controller -/

/-- A cluster as the API server keeps it. -/
structure Site where
  state : State
  wf : state.cluster.registry.Wf

/-- The site after a step. -/
def Site.step (site : Site) (step : Step) : Site := ⟨site.state.step step, step_wf site.wf step⟩

/-- The shards the watch on APIShards reports between two registries. -/
def Registry.changed (before after : Registry) : List String :=
  (before.shards.keys ++ after.shards.keys).filter fun name =>
    before.shards.find? name ≠ after.shards.find? name

/-- What others do.  The watches on the objects of a shard and on the ConfigMap and Secrets it
reads may add any items; the handler of CRD events lists the shards, which can fail. -/
inductive Change where
  | edit (made : ShardEdit)
  | surround (surroundings : Surroundings) (events : List String)
  | createCRD (crd : CRD) (listFault : Option ApiError)
  | deleteCRD (name : String) (listFault : Option ApiError)

/-- The step of the cluster in a change. -/
def Change.step : Change → Step
  | .edit made => .edit made
  | .surround surroundings _ => .surround surroundings
  | .createCRD crd _ => .createCRD crd
  | .deleteCRD name _ => .deleteCRD name

/-- The handler of CRD events. -/
def handleCRD (state : State) (listFault : Option ApiError) (crd : CRD) : List String :=
  enqueueForCRD (match listFault with
    | none => .ok state.cluster.registry.shards.items
    | some failure => .error failure) crd

/-- The items that the watches on other objects than shards add for a change. -/
def Change.events (state : State) : Change → List String
  | .edit _ => []
  | .surround _ events => events
  | .createCRD crd listFault => handleCRD state listFault crd
  | .deleteCRD name listFault =>
      match state.cluster.crds.find? name with
      | none => []
      | some crd => handleCRD state listFault crd

/-- What happens around a pass: edits and failing calls, and events for the objects it writes.
A read of the shard that fails is not mistaken for one that finds nothing. -/
structure Attempt where
  ctx : Schedule
  events : List String
  truthful : Truthful ctx .getShard

/-- The controller adds an item again after an error and when a pass asks for it. -/
def repeats : Except ApiError Result → Bool
  | .ok result => result.requeueAfter ≠ 0
  | .error _ => true

/-- The APIShard controller. -/
def controller (r : Reconciler) : Controller Site String Change Empty Attempt Unit where
  change change site :=
    let after := site.step change.step
    (after, site.state.cluster.registry.changed after.state.cluster.registry ++
      change.events site.state)
  blank := ()
  read what := what.elim
  finish attempt site name _ :=
    let pass := exec (reconcile r attempt.ctx name) site.state
    { failed := repeats pass.1
      world := ⟨pass.2, reconcile_wf r attempt.ctx name site.wf⟩
      added := site.state.cluster.registry.changed pass.2.cluster.registry ++ attempt.events }

/-- The states of the controller and the cluster. -/
abbrev ControlLoop := Loop Site String Unit

/-- The steps of both. -/
abbrev ControlStep := LoopStep String Change Empty Attempt

/-- The shard of this name, if there is one, is at rest. -/
def Site.Settled (site : Site) (name : String) : Prop :=
  ∀ stored, site.state.cluster.registry.shards.find? name = some stored → stored.Rests

theorem Registry.find?_of_notMem_changed {before after : Registry} {name : String}
    (unchanged : name ∉ before.changed after) :
    after.shards.find? name = before.shards.find? name := by
  by_contra different
  apply unchanged
  refine List.mem_filter.mpr ⟨List.mem_append.mpr ?_, by simpa using Ne.symm different⟩
  by_contra absent
  rw [not_or] at absent
  exact different ((Store.find?_eq_none.mpr absent.2).trans (Store.find?_eq_none.mpr absent.1).symm)

/-- A shard that the watch does not report is at rest if it was. -/
theorem Site.Settled.unchanged {before after : Site} {name : String}
    (settled : before.Settled name)
    (unchanged : name ∉ before.state.cluster.registry.changed after.state.cluster.registry) :
    after.Settled name := by
  intro stored found
  rw [Registry.find?_of_notMem_changed unchanged] at found
  exact settled stored found

theorem levelTriggered (r : Reconciler) :
    (controller r).LevelTriggered (fun _ _ => True) (fun _ _ _ => True) Site.Settled where
  blank _ _ := trivial
  read _ _ _ _ _ := trivial
  fresh_change _ _ _ _ _ _ _ := trivial
  settled_change _ _ _ _ unadded settled :=
    settled.unchanged fun changed => unadded (List.mem_append_left _ changed)
  finish attempt site name _ _ returned := by
    intro stored found
    cases ran : exec (reconcile r attempt.ctx name) site.state with
    | mk answer after =>
    simp only [controller, ran] at returned found
    cases answer with
    | error failure => cases returned
    | ok result =>
        have final : result.requeueAfter = 0 := by simpa [repeats] using returned
        exact reconcile_rests site.wf attempt.truthful ran final stored found
  fresh_finish _ _ _ _ _ _ _ _ _ := trivial
  settled_finish _ _ _ _ _ _ unadded settled :=
    settled.unchanged fun changed => unadded (List.mem_append_left _ changed)

/-- In any interleaving of users, other controllers, CRD events, passes and failing calls, from
a controller that has listed its shards: a shard that is neither queued nor waiting for its
retry nor worked on is ready for its generation and protected by the finalizer, or is being
deleted and no longer held back. -/
theorem rests_when_idle (r : Reconciler) (loop : ControlLoop) (steps : List ControlStep)
    (listed : ∀ name ∈ loop.world.state.cluster.registry.shards.keys, loop.queue.Pending name)
    {after : ControlLoop} (isAfter : run (controller r).step loop steps = after)
    {name : String} {shard : APIShard}
    (found : after.world.state.cluster.registry.shards.find? name = some shard)
    (notPending : ¬after.queue.Pending name) (idle : after.passes name = none) :
    shard.Rests := by
  have accounted : Controller.Accounted (fun _ _ _ => True) Site.Settled loop name := by
    by_cases stored : name ∈ loop.world.state.cluster.registry.shards.keys
    · exact .inl (listed name stored)
    · right
      cases loop.passes name with
      | some seen => trivial
      | none =>
          intro shard found
          cases (Store.find?_eq_none.mpr stored).symm.trans found
  have kept := run_invariant
    (P := fun loop => Controller.Accounted (fun _ _ _ => True) Site.Settled loop name)
    (fun loop input kept => Controller.accounted_step (levelTriggered r)
      (Controller.CalmStep.of_forall (fun _ _ => trivial) loop input) kept) accounted steps
  rw [isAfter] at kept
  exact Controller.settled_of_accounted kept notPending idle shard found

/-- What the shard `a` needs from others, with this availability of its APIServices. -/
def Surroundings.offering (available : Option (ConditionStatus × String)) : Surroundings :=
  { Surroundings.serving "a" with available := fun _ => available }

/-- A shard has been created, with what it needs from others. -/
def waitingState : State :=
  run State.step { cluster := .bare } [.edit (.create "a" (plainSpec [⟨"g", ["v1"]⟩])),
    .surround (.offering none)]

theorem waitingState_wf : waitingState.cluster.registry.Wf := run_wf initial_bare _

/-- The controller has listed it. -/
def waitingLoop : ControlLoop where
  world := ⟨waitingState, waitingState_wf⟩
  queue := .addAll .empty ["a"]
  passes := fun _ => none

/-- The schedule of a pass whose last write is refused. -/
def refusing : Schedule where
  faults request :=
    if request = .writeFinal then some ⟨.fault .conflict, "the object has been modified"⟩
    else none

theorem refusing_truthful : Truthful refusing .getShard := by
  intro failure faulty
  cases faulty

theorem undisturbed_truthful : Truthful {} .getShard := by
  intro failure faulty
  cases faulty

/-- A pass whose last write is refused. -/
def refused : Attempt := ⟨refusing, [], refusing_truthful⟩

/-- A pass without an incident. -/
def undisturbed : Attempt := ⟨{}, [], undisturbed_truthful⟩

/-- A pass finds the APIServices unavailable, the next fails, a third succeeds, and the event of
its status write brings about a last one. -/
def waitingSteps : List ControlStep :=
  [.take, .finish "a" undisturbed, .change (.surround (.offering (some (.true, ""))) []),
    .release "a", .take, .finish "a" refused, .release "a", .take, .finish "a" undisturbed, .take,
    .finish "a" undisturbed]

theorem rests_when_idle_waiting :
    ∃ after shard, run (controller .bare).step waitingLoop waitingSteps = after ∧
      after.world.state.cluster.registry.shards.find? "a" = some shard ∧ shard.Rests := by
  obtain ⟨isStored, notPending, idle⟩ :
      ((run (controller .bare).step waitingLoop waitingSteps).world.state.cluster.registry.shards
        |>.find? "a").isSome ∧
      ¬(run (controller .bare).step waitingLoop waitingSteps).queue.Pending "a" ∧
      (run (controller .bare).step waitingLoop waitingSteps).passes "a" = none := by
    decide +kernel
  exact ⟨_, _, rfl, (Option.some_get isStored).symm, rests_when_idle .bare waitingLoop waitingSteps
    (by decide +kernel) rfl (Option.some_get isStored).symm notPending idle⟩

end KubeShard.Apishard
