import KubeShard.Apishard.Cleanup
import KubeShard.Apishard.Deregister
import KubeShard.Apishard.Syncs

/-!
# What is left of earlier specs

What a shard creates carries its mark: the owner label on tracked objects and on sync
objects, the controller reference on APIServices.  Each of the three has a cleanup of its
own.  That of the tracked objects goes by kind, label and what the pass has tracked, that
of the APIServices by the list in the status, and sync objects have none.
-/

namespace KubeShard.Apishard

open Resources Prog Aggregation

/-! ## Sync objects -/

/-- The sync objects that carry the mark of a shard are where its spec wants them. -/
def AtHome (shard : APIShard) (state : State) : Prop :=
  ∀ kind, ∀ object ∈ (state.cluster.syncs kind).items,
    object.owner = some shard.name → object.key = kind.keyOf shard

section syncs

variable {ctx : Schedule} {shard : APIShard} {state : State}

theorem AtHome.follows {after : State} (atHome : AtHome shard state)
    (syncs : after.cluster.syncs = state.cluster.syncs) : AtHome shard after := by
  rw [AtHome, syncs]
  exact atHome

theorem AtHome.storing (atHome : AtHome shard state) {kind : SyncKind}
    {object : SyncObject kind.Spec} {events : List Event}
    (own : object.owner = some shard.name → object.key = kind.keyOf shard) :
    AtHome shard (state.storing kind object events) :=
  State.forall_storing atHome own events

theorem SyncObject.reported_owner {σ : Type} (object : SyncObject σ) (now : Nat)
    (report : SyncReport) : (object.reported now report).owner = object.owner := by
  cases report <;> rfl

theorem AtHome.sync (atHome : AtHome shard state) (pass : SyncPass) :
    AtHome shard (state.sync pass) := by
  rcases state.sync_cases pass with same | ⟨object, found, same⟩
  · rw [same]
    exact atHome
  · rw [same]
    apply atHome.storing
    rw [SyncObject.reported_owner, SyncObject.reported_key]
    exact atHome pass.kind object (Store.find?_eq_some.mp found).1

theorem callSync_atHome {α : Type} {request : Call} {action : Pass α}
    (respects : Respects (.keeps (AtHome shard)) action) :
    Respects (.keeps (AtHome shard)) (callSync ctx request action) :=
  callSync_keeps (fun _ pass _ _ atHome => atHome.sync pass)
    (fun _ _ atHome => atHome.follows rfl) respects

theorem createSync_atHome {kind : SyncKind} {object : SyncObject kind.Spec}
    (key : object.key = kind.keyOf shard) :
    Respects (.keeps (AtHome shard)) (createSync ctx kind object) := by
  apply callSync_atHome
  intro state atHome
  simp only [exec_bind, exec_get]
  split
  · exact atHome
  · rw [exec_storeSync]
    exact atHome.storing fun _ => key

theorem updateSync_atHome {kind : SyncKind} {object : SyncObject kind.Spec}
    (key : object.key = kind.keyOf shard) :
    Respects (.keeps (AtHome shard)) (updateSync ctx kind object) := by
  apply callSync_atHome
  intro state atHome
  simp only [exec_bind, exec_get]
  split
  · exact atHome
  · split
    · exact atHome
    · rw [exec_storeSync]
      exact atHome.storing fun _ => key

theorem createOrUpdate_atHome (kind : SyncKind) :
    Respects (.keeps (AtHome shard)) (createOrUpdate ctx shard kind) := by
  apply Respects.bind_of_returns (P := fun existing : Option (SyncObject kind.Spec) =>
    ∀ object ∈ existing, object.key = kind.keyOf shard)
  · exact callSync_atHome (Respects.of_get.bind fun _ => .of_pure _)
  · exact fun _ _ _ ran => existing_key ran
  · intro existing keys
    cases existing with
    | none => exact createSync_atHome rfl
    | some object => exact .ite (.of_pure _) (updateSync_atHome (keys object rfl))

theorem aggregateReady_atHome (kind : SyncKind) :
    Respects (.keeps (AtHome shard)) (aggregateReady ctx shard kind) := by
  apply Respects.bind
  · apply callSync_atHome
    apply Respects.of_get.bind
    intro state
    split
    · exact .of_pure _
    · exact .of_throw _
  · intro object
    split
    · exact .of_modify fun _ atHome => atHome.follows rfl
    · exact .of_pure _

/-- A pass moves no sync object away from home. -/
theorem reconcileCopy_atHome (r : Reconciler) :
    Respects (.keeps (AtHome shard)) (reconcileCopy r ctx shard) := by
  have syncs : Respects (.keeps (AtHome shard)) (reconcileSubCRs ctx shard) :=
    reconcileSubCRs_respects ctx shard (fun _ _ still atHome => atHome.follows still.syncs)
      createOrUpdate_atHome aggregateReady_atHome
  apply reconcileCopy_keeps_syncs r ctx shard (fun _ _ beside atHome => atHome.follows beside.syncs)
    syncs
  intro request _ state atHome
  rcases updateStatus_cases ctx shard request state with ⟨failure, ran⟩ | ⟨stored, _, _, _, ran⟩
  · rw [ran]
    exact atHome.follows rfl
  · rw [ran]
    exact atHome.follows rfl

end syncs

/-! ## Tracked objects -/

section objects

variable {r : Reconciler} {ctx : Schedule} {shard : APIShard} {before after : State}
  {result : Result}

theorem reportSuccess_objects (state : State) :
    (exec (do reportSuccess ctx shard; pure result) state).2.cluster.objects =
      state.cluster.objects := by
  simp only [exec_bind, exec_reportSuccess]
  have marks : (exec (setReconciled shard) state).2.cluster = state.cluster := rfl
  rcases updateStatus_cases ctx shard .writeFinal (exec (setReconciled shard) state).2 with
    ⟨failure, ran⟩ | ⟨stored, _, _, _, ran⟩
  · rw [ran, State.edited, marks]
  · rw [ran, State.persist, State.edited, marks]
    rfl

/-- An object that a cleanup has left was tracked, unless it carries no mark of the shard
or is a Namespace. -/
theorem reconcileServing_tidy (clean : ctx.faults .cleanupOrphans = none)
    (ran : exec (reconcileServing ctx shard) before = (.ok result, after)) {object : Object}
    (membership : object ∈ after.cluster.objects.items) (owned : object.owner = some shard.name)
    (managed : object.key.kind ≠ .namespace) : object.key ∈ before.tracked := by
  rcases reconcileServing_cases ctx shard before with
    ⟨failure, registered, _, fails⟩ | ⟨registered, detected, first, second, rest⟩
  · rw [fails, exec_setErrorAndRequeue] at ran
    cases ran
  · rcases rest with
      ⟨failure, checked, _, fails⟩ | ⟨answer, checked, cleaned, third, cleans, reports⟩
    · rw [fails] at ran
      cases ran
    · have untouched : Applied [] before checked :=
        ((reconcileAPIServices_untouched ctx shard).rel first).trans
          (((untouched_of_observing (reconcileCRDConflicts_observing ctx shard)).rel second).trans
            ((untouched_of_aloof (updateHealthStatus_aloof ctx shard)).rel third))
      have same : after.cluster.objects = cleaned.cluster.objects := by
        rw [← @reportSuccess_objects ctx shard answer cleaned, ← reports, ran]
      have kept := cleans.dropped clean object (same ▸ membership)
      rw [← untouched.same]
      simpa [orphaned, managedKind, managed, owned] using kept

theorem reconcileCopy_tidy (clean : ctx.faults .cleanupOrphans = none)
    (tracked : before.tracked = [])
    (ran : exec (reconcileCopy r ctx shard) before = (.ok result, after)) {object : Object}
    (membership : object ∈ after.cluster.objects.items) (owned : object.owner = some shard.name)
    (managed : object.key.kind ≠ .namespace) :
    ∃ component ∈ appliedComponents r ctx shard before.cluster,
      component.key shard = object.key := by
  rcases reconcileCopy_cases r ctx shard before with
    ⟨failure, middle, _, fails⟩ | ⟨middle, first, serves⟩
  · rw [fails] at ran
    cases ran
  · rw [serves] at ran
    have kept := reconcileServing_tidy clean ran membership owned managed
    rw [(reconcileResources_ok first).1, tracked, List.nil_append] at kept
    exact List.mem_map.mp kept

end objects

/-! ## Runs -/

/-- Whatever carries the mark of a shard is what its spec asks for: an object that the
pass applies, Namespaces apart, an APIService for one of its groups, or a sync object in
its target namespace. -/
structure Tidy (r : Reconciler) (ctx : Schedule) (shard : APIShard) (cluster : Cluster)
    (after : State) : Prop where
  objects : ∀ object ∈ after.cluster.objects.items, object.owner = some shard.name →
    object.key.kind ≠ .namespace →
      ∃ component ∈ appliedComponents r ctx shard cluster, component.key shard = object.key
  services : ∀ service ∈ after.cluster.apiServices.items, service.controller = some shard.uid →
    service.name ∈ desiredAPIServiceNames shard
  syncs : AtHome shard after

/-- What is asked for depends on the name and the spec of a shard. -/
theorem Tidy.congr {r : Reconciler} {ctx : Schedule} {copy stored : APIShard} {cluster : Cluster}
    {after : State} (tidy : Tidy r ctx copy cluster after) (name : copy.name = stored.name)
    (uid : copy.uid = stored.uid) (spec : copy.spec = stored.spec) :
    Tidy r ctx stored cluster after := by
  cases copy
  cases stored
  cases name
  cases uid
  cases spec
  exact ⟨tidy.objects, tidy.services, tidy.syncs⟩

/-- A pass on a live shard that returns no error, and whose cleanup succeeds, leaves
nothing of earlier specs. -/
def LeavesNone (r : Reconciler) (ctx : Schedule) (name : String) (state : State) : Prop :=
  ctx.faults .getShard = none → ctx.faults .cleanupOrphans = none →
    ∀ stored ∈ state.cluster.registry.copy ctx name,
      ∀ result after, exec (reconcile r ctx name) state = (.ok result, after) →
        Tidy r ctx stored state.cluster after

/-- The step is not a pass, or a pass on a shard whose sync objects are where its spec
wants them. -/
def Step.Homely (state : State) : Step → Prop
  | .pass _ name ctx => ∀ stored ∈ state.cluster.registry.copy ctx name, AtHome stored state
  | _ => True

theorem leavesNone {r : Reconciler} {ctx : Schedule} {name : String} {state : State}
    (wf : state.cluster.registry.Wf) (accountable : Accountable state)
    (accounted : Accounted ctx name state)
    (homely : ∀ stored ∈ state.cluster.registry.copy ctx name, AtHome stored state) :
    LeavesNone r ctx name state := by
  intro read clean stored copied result after ran
  obtain ⟨copy, start, adopted, ran⟩ := reconcile_adopts read copied ran
  obtain ⟨base, sameCopy, uid, spec, _⟩ := adopted.base
  cases copied.symm.trans sameCopy
  have named : copy.name = stored.name := adopted.name.trans (Registry.copy_name copied).symm
  suffices tidy : Tidy r ctx copy start.cluster after by
    rw [adopted.cluster] at tidy
    exact (Tidy.congr ⟨tidy.objects, tidy.services, tidy.syncs⟩ named uid spec)
  obtain ⟨served, outcome⟩ := adopted.outcome r wf
  rw [ran] at served outcome
  refine ⟨fun _ => reconcileCopy_tidy clean adopted.tracked ran, ?_, ?_⟩
  · -- an APIService of the shard is on its list, so an unwanted one was deleted
    intro service membership controller
    rcases served.services service membership with earlier | ⟨_, wanted⟩
    · by_contra unwanted
      have listed : Listed start := by
        apply accountable.listed.lists (.of_follows adopted.follows)
        rw [adopted.cluster]
        exact fun _ => id
      have onList := listed.listed copy adopted.stored service earlier
        (APIService.mem_controllers controller)
      rcases outcome with ⟨_, fails, _⟩ | recorded
      · cases fails
      · exact Store.find?_eq_none.mp
          (recorded.absent accounted.orphanTruthful service.name onList unwanted)
          (Store.mem_keys.mpr ⟨service, membership, rfl⟩)
    · exact wanted
  · have home : AtHome copy start := by
      intro kind object membership owned
      rw [adopted.cluster] at membership
      rw [named] at owned
      have key := homely stored copied kind object membership owned
      cases kind <;> simp only [SyncKind.keyOf, SyncKind.nameOf, named, spec] at key ⊢ <;>
        exact key
    exact (reconcileCopy_atHome r).rel ran home

/-- In every run whose passes are accounted for and find the sync objects of their shard
where its spec wants them, no pass leaves anything of earlier specs. -/
theorem run_leaves_none {start : State} (initial : Initial start) {steps : List Step}
    {r : Reconciler} {name : String} {ctx : Schedule}
    (along : Along State.step (fun state step => step.Accounted state ∧ step.Homely state) start
      (steps ++ [.pass r name ctx])) :
    LeavesNone r ctx name (run State.step start steps) := by
  obtain ⟨earlier, last⟩ := along_append.mp along
  have accountable := earlier.invariant
    (P := fun state => state.cluster.registry.Wf ∧ Accountable state)
    (fun _ step condition kept => ⟨step_wf kept.1 step, kept.2.step kept.1 condition.1⟩)
    ⟨initial.wf, initial.accountable⟩
  exact leavesNone accountable.1 accountable.2 last.1.1 last.1.2

/-- A shard whose secondary accepts the operator's certificate is served in the namespace
"target", and then its spec is edited.  The namespace "other" is prepared as well. -/
def edited (spec : APIShardSpec) : List Step :=
  let serving := Surroundings.serving "a"
  [.edit (.create "a" (plainSpec [⟨"g", ["v1"]⟩])),
    .surround { serving with
      objects := [
          { key := ⟨.secret, "target", "a-admin-client-cert"⟩
            data := [("tls.crt", "cert"), ("tls.key", "key")] },
          { key := ⟨.secret, "other", "a-pki"⟩, data := [("ca.crt", "CA")] }
        ].foldl Store.insert serving.objects },
    .pass .bare "a" {},
    .edit (.editSpec "a" spec)]

/-- A pass on sync objects of both kinds that are where the spec wants them. -/
theorem homely_of_keys {r : Reconciler} {name : String} {ctx : Schedule} {state : State}
    (keys : ∀ stored ∈ state.cluster.registry.copy ctx name,
      ∀ kind ∈ [SyncKind.namespaceSync, .webhookSync],
        ∀ object ∈ (state.cluster.syncs kind).items, object.owner = some stored.name →
          object.key = kind.keyOf stored) : (Step.pass r name ctx).Homely state := by
  intro stored copied kind object membership owned
  exact keys stored copied kind (by cases kind <;> simp) object membership owned

/-- The statement for a shard that asks for another group. -/
theorem run_leaves_none_regrouped :
    (exec (reconcile .bare {} "a") (run State.step { cluster := .bare }
      (edited (plainSpec [⟨"h", ["v1"]⟩])))).1.isOk = true ∧
    LeavesNone .bare {} "a" (run State.step { cluster := .bare }
      (edited (plainSpec [⟨"h", ["v1"]⟩]))) := by
  refine ⟨by decide +kernel, run_leaves_none initial_bare ?_⟩
  refine ⟨⟨trivial, trivial⟩, ⟨trivial, trivial⟩, ⟨?_, ?_⟩, ⟨trivial, trivial⟩, ⟨?_, ?_⟩, trivial⟩
  · exact accounted_clean (by decide +kernel)
  · exact homely_of_keys (by decide +kernel)
  · exact accounted_clean (by decide +kernel)
  · exact homely_of_keys (by decide +kernel)

/-- The shard is told to move to the other namespace. -/
def moved : State :=
  run State.step { cluster := .bare }
    (edited { plainSpec [⟨"g", ["v1"]⟩] with targetNamespace := "other" })

/-- When a shard moves to another namespace, its sync objects stay in the one before. -/
theorem moving_leaves_syncs : ¬LeavesNone .bare {} "a" moved := by
  intro leaves
  have left : ∃ stored ∈ moved.cluster.registry.copy {} "a",
      ∃ result ∈ (exec (reconcile .bare {} "a") moved).1.toOption,
      ∃ object ∈ (exec (reconcile .bare {} "a") moved).2.cluster.webhookSyncs.items,
      object.owner = some stored.name ∧ object.key ≠ SyncKind.webhookSync.keyOf stored := by
    decide +kernel
  obtain ⟨stored, copied, result, answered, object, membership, owned, elsewhere⟩ := left
  cases ran : exec (reconcile .bare {} "a") moved with
  | mk answer after =>
      rw [ran] at answered membership
      cases answer with
      | error failure => cases answered
      | ok value =>
          have tidy := leaves rfl rfl stored copied value after ran
          exact elsewhere (tidy.syncs .webhookSync object membership owned)

end KubeShard.Apishard
