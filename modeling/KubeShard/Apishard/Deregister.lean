import KubeShard.Apishard.Progress

/-!
# Deregistration before the finalizer goes

A shard that is being deleted is released once the APIServices on its list are gone.
So every APIService a shard has applied must be on its list, also one that another shard
has taken over since.  That holds as long as every
pass that applies an APIService which is not on the list comes to its last write, and
as long as no read reports an APIService missing that is there.
-/

namespace KubeShard.Apishard

open Prog Aggregation

/-- The list of a shard has all the APIServices it controls or has controlled. -/
structure Listed (state : State) : Prop where
  controllers : ∀ service ∈ state.cluster.apiServices.items, ∀ uid ∈ service.controllers,
    uid < state.cluster.registry.nextUID
  listed : ∀ stored ∈ state.cluster.registry.shards.items,
    ∀ service ∈ state.cluster.apiServices.items, stored.uid ∈ service.controllers →
      service.name ∈ stored.status.registeredAPIServices

theorem Listed.lists {before after : State} (listed : Listed before)
    (lists : before.cluster.registry.Lists after.cluster.registry)
    (services : ∀ service ∈ after.cluster.apiServices.items,
      service ∈ before.cluster.apiServices.items) : Listed after where
  controllers := by
    intro service membership uid controller
    exact Nat.lt_of_lt_of_le (listed.controllers service
      (services service membership) uid controller)
      lists.nextUID
  listed := by
    intro shard stands service membership controller
    have earlier := services service membership
    rcases lists.stored shard stands with ⟨old, oldMem, uid, names⟩ | ⟨new, _⟩
    · rw [← names]
      exact listed.listed old oldMem service earlier (uid ▸ controller)
    · exact absurd (listed.controllers service earlier _ controller) (Nat.not_lt.mpr new)

/-! ## Live passes -/

section live

variable {ctx : Schedule} {copy : APIShard} {start after : State}

theorem Listed.controllers_served (listed : Listed start) (wf : start.cluster.registry.Wf)
    (base : copy ∈ start.cluster.registry.shards.items) (served : Served copy start after)
    {service : APIService} (membership : service ∈ after.cluster.apiServices.items) {uid : UID}
    (controller : uid ∈ service.controllers) : uid < start.cluster.registry.nextUID := by
  rcases served.controllers service membership uid controller with
    ⟨rfl, _⟩ | ⟨old, oldService, _, earlier⟩
  · exact wf.uid copy base
  · exact listed.controllers old oldService uid earlier

/-- A pass that applies no APIService that is not on the list keeps the list complete. -/
theorem Listed.unrecorded (listed : Listed start) (wf : start.cluster.registry.Wf)
    (base : copy ∈ start.cluster.registry.shards.items)
    (known : desiredAPIServiceNames copy ⊆ copy.status.registeredAPIServices)
    (served : Served copy start after)
    (lists : start.cluster.registry.Lists after.cluster.registry) : Listed after where
  controllers := by
    intro service membership uid controller
    exact Nat.lt_of_lt_of_le (listed.controllers_served wf base served membership controller)
      lists.nextUID
  listed := by
    intro shard stands service membership controller
    rcases lists.stored shard stands with ⟨old, oldMem, uid, names⟩ | ⟨new, _⟩
    · rw [← names]
      rcases served.controllers service membership _ controller with
        ⟨own, wanted⟩ | ⟨first, inServices, sameName, earlier⟩
      · rw [wf.distinct old oldMem copy base (uid.trans own)]
        exact known wanted
      · rw [← sameName]
        exact listed.listed old oldMem first inServices (uid ▸ earlier)
    · exact absurd (listed.controllers_served wf base served membership controller)
        (Nat.not_lt.mpr new)

/-- A pass that comes to its last write makes its list complete. -/
theorem Listed.recorded (listed : Listed start) (wf : start.cluster.registry.Wf)
    (base : copy ∈ start.cluster.registry.shards.items)
    (truthful : ∀ index, Truthful ctx (.getOrphan index)) (served : Served copy start after)
    (recorded : Recorded ctx copy start after) : Listed after where
  controllers := by
    intro service membership uid controller
    exact Nat.lt_of_lt_of_le (listed.controllers_served wf base served membership controller)
      recorded.nextUID
  listed := by
    intro shard stands service membership controller
    by_cases same : shard.uid = copy.uid
    · rw [recorded.own shard stands same]
      rcases served.controllers service membership _ controller with
        ⟨_, wanted⟩ | ⟨first, inServices, sameName, earlier⟩
      · exact wanted
      · by_contra unwanted
        have onList := listed.listed copy base first inServices (same ▸ earlier)
        have gone := recorded.absent truthful service.name (sameName ▸ onList) unwanted
        exact Store.find?_eq_none.mp gone (Store.mem_keys.mpr ⟨service, membership, rfl⟩)
    · rcases recorded.others shard stands same with ⟨old, oldMem, uid, names⟩ | ⟨new, _⟩
      · rw [← names]
        rcases served.controllers service membership _ controller with
          ⟨own, _⟩ | ⟨first, inServices, sameName, earlier⟩
        · exact absurd own same
        · rw [← sameName]
          exact listed.listed old oldMem first inServices (uid ▸ earlier)
      · exact absurd (listed.controllers_served wf base served membership controller)
          (Nat.not_lt.mpr new)

end live

/-! ## Passes -/

/-- Whenever the finalizer of a shard was removed, no APIService was there that the shard
controlled or had controlled. -/
def Deregistered (state : State) : Prop :=
  ∀ uid left, .removedFinalizer uid left ∈ state.trace → left = []

theorem Deregistered.logged {kind : Event → Bool} {before after : State}
    (deregistered : Deregistered before) (logged : before.Logged kind after)
    (other : ∀ uid left, kind (.removedFinalizer uid left) = false) : Deregistered after :=
  fun uid left membership =>
    deregistered uid left (logged.mem_before membership (other uid left))

/-- A live pass removes no finalizer. -/
theorem reconcileCopy_deregistered (r : Reconciler) (ctx : Schedule) (copy : APIShard) :
    Respects (.keeps Deregistered) (reconcileCopy r ctx copy) := by
  apply reconcileCopy_keeps
  · exact fun _ _ working deregistered => deregistered.logged working.logged fun _ _ => rfl
  · intro request _ state deregistered
    rcases updateStatus_cases ctx copy request state with ⟨failure, ran⟩ | ⟨stored, _, _, _, ran⟩
    · rw [ran]
      exact deregistered
    · rw [ran]
      intro uid left membership
      rcases List.mem_append.mp membership with earlier | new
      · exact deregistered uid left earlier
      · cases List.mem_singleton.mp new

/-- The finalizer goes only when no APIService is left that the shard has controlled. -/
theorem reconcileDelete_deregistered {ctx : Schedule} {shard : APIShard} {state : State}
    (getTruthful : ∀ index, Truthful ctx (.finalizerGet index))
    (deleteTruthful : ∀ index, Truthful ctx (.finalizerDelete index))
    (finalized : finalizerName ∈ shard.finalizers) (listed : Listed state)
    (stored : shard ∈ state.cluster.registry.shards.items) (deregistered : Deregistered state) :
    Deregistered (exec (reconcileDelete ctx shard) state).2 := by
  have registering : Registering ctx shard [] shard.status.registeredAPIServices state _ :=
    deregister_registering (List.Subset.refl _) 0 state
  have kept := deregistered.logged registering.logged fun _ _ => rfl
  rcases reconcileDelete_cases ctx finalized state with ⟨failure, _, ran⟩ | ⟨returned, ran⟩
  · rw [ran]
    exact kept
  · rw [ran]
    have gone : ∀ name ∈ shard.status.registeredAPIServices, Absent name
        (exec (deregister ctx shard 0 shard.status.registeredAPIServices) state).2 :=
      deregister_ok getTruthful deleteTruthful (Prod.ext returned rfl)
    generalize (exec (deregister ctx shard 0 shard.status.registeredAPIServices) state).2 = middle
      at registering kept gone ⊢
    have none : middle.cluster.registered shard.uid = [] := by
      apply List.map_eq_nil_iff.mpr
      apply List.filter_eq_nil_iff.mpr
      intro service membership
      rw [decide_eq_true_eq]
      intro controller
      have earlier := (registering.services service membership).resolve_right
        fun own => List.not_mem_nil own.2
      have onList := listed.listed shard stored service earlier controller
      exact Store.find?_eq_none.mp (gone service.name onList)
        (Store.mem_keys.mpr ⟨service, membership, rfl⟩)
    rcases removeFinalizer_cases ctx shard middle with ⟨failure, ran⟩ | ⟨after, ran, _, _, same⟩
    · rw [ran]
      exact kept
    · rw [ran, same, none]
      intro uid left membership
      rcases List.mem_append.mp membership with earlier | new
      · exact kept uid left earlier
      · cases List.mem_singleton.mp new
        rfl

/-- What is asked of a pass: a missing APIService is reported only when it is missing,
and a live pass applies no APIService that is not on its list, unless nothing disturbs
it. -/
structure Accounted (ctx : Schedule) (name : String) (state : State) : Prop where
  getTruthful : ∀ index, Truthful ctx (.finalizerGet index)
  deleteTruthful : ∀ index, Truthful ctx (.finalizerDelete index)
  orphanTruthful : ∀ index, Truthful ctx (.getOrphan index)
  live : ∀ copy ∈ state.cluster.registry.copy ctx name,
    desiredAPIServiceNames copy ⊆ copy.status.registeredAPIServices ∨ Undisturbed ctx copy state

theorem Undisturbed.adopted {ctx : Schedule} {name : String} {state start : State}
    {stored copy : APIShard} (undisturbed : Undisturbed ctx stored state)
    (adopted : Adopted ctx name state copy start)
    (copied : state.cluster.registry.copy ctx name = some stored) (uid : copy.uid = stored.uid)
    (spec : copy.spec = stored.spec) : Undisturbed ctx copy start := by
  have pairs : versionedGroups copy = versionedGroups stored := by
    rw [versionedGroups, versionedGroups, spec]
  have services : start.cluster.apiServices = state.cluster.apiServices := by
    rw [adopted.cluster]
  refine ⟨?_, undisturbed.faults, pairs ▸ undisturbed.valid, ?_⟩
  · rw [adopted.name, ← Registry.copy_name copied]
    exact undisturbed.edits
  · intro pair membership
    rw [services, accepts, uid]
    exact undisturbed.accepted pair (pairs ▸ membership)

/-- The invariant of runs whose passes are all accounted for. -/
structure Accountable (state : State) : Prop where
  listed : Listed state
  deregistered : Deregistered state

theorem Accountable.reconcile {state : State} (accountable : Accountable state)
    (wf : state.cluster.registry.Wf) (r : Reconciler) {ctx : Schedule} {name : String}
    (accounted : Accounted ctx name state) :
    Accountable (exec (reconcile r ctx name) state).2 := by
  rcases reconcile_cases r ctx name state with
    ⟨answer, after, ran, ended, _⟩ | ⟨shard, answer, found, finalized, _, ran⟩ |
    ⟨copy, start, adopted, ran⟩
  · rw [ran, ended.same]
    exact ⟨accountable.listed.lists (.of_follows ended.follows) fun _ => id,
      accountable.deregistered⟩
  · rw [ran]
    have edited : Listed (state.edited ctx .getShard) :=
      accountable.listed.lists (.of_follows (Registry.follows_edits _ _)) fun _ => id
    obtain ⟨services, _⟩ := reconcileDelete_outcome ctx finalized (state.edited ctx .getShard)
    obtain ⟨follows, _, _⟩ := reconcileDelete_effect ctx finalized (state.edited ctx .getShard)
    exact ⟨edited.lists (.of_follows follows) services,
      reconcileDelete_deregistered accounted.getTruthful accounted.deleteTruthful finalized edited
        (Store.find?_eq_some.mp found).1 accountable.deregistered⟩
  · rw [ran]
    have begun : Listed start := by
      apply accountable.listed.lists (.of_follows adopted.follows)
      rw [adopted.cluster]
      exact fun _ => id
    have deregistered : Deregistered start := by
      rw [Deregistered, adopted.trace]
      exact accountable.deregistered
    refine ⟨?_, reconcileCopy_deregistered r ctx copy start deregistered⟩
    obtain ⟨stored, copied, uid, spec, status⟩ := adopted.base
    obtain ⟨served, outcome⟩ := adopted.outcome r wf
    have wfStart := adopted.wf wf
    have recorded := begun.recorded wfStart adopted.stored accounted.orphanTruthful served
    rcases accounted.live stored copied with known | undisturbed
    · rw [← desiredAPIServiceNames_congr spec, ← status] at known
      rcases outcome with ⟨_, _, lists⟩ | isRecorded
      · exact begun.unrecorded wfStart adopted.stored known served lists
      · exact recorded isRecorded
    · rcases adopted.undisturbed r wf (undisturbed.adopted adopted copied uid spec) with
        unserved | isRecorded
      · apply begun.lists unserved.lists
        rw [unserved.same]
        exact fun _ => id
      · exact recorded isRecorded

/-! ## Runs -/

/-- The step is not a pass, or a pass that is accounted for. -/
def Step.Accounted (state : State) : Step → Prop
  | .pass _ name ctx => Apishard.Accounted ctx name state
  | _ => True

theorem Accountable.step {state : State} (accountable : Accountable state)
    (wf : state.cluster.registry.Wf) {step : Step} (accounted : step.Accounted state) :
    Accountable (state.step step) := by
  cases step with
  | edit edit =>
      exact ⟨accountable.listed.lists (.of_follows (Registry.follows_edit _ _)) fun _ => id,
        accountable.deregistered⟩
  | surround surroundings =>
      refine ⟨⟨?_, ?_⟩, accountable.deregistered⟩
      · intro service inServices uid controller
        obtain ⟨service, earlier, rfl⟩ := List.mem_map.mp inServices
        exact accountable.listed.controllers service earlier uid controller
      · intro stored membership service inServices controller
        obtain ⟨service, earlier, rfl⟩ := List.mem_map.mp inServices
        exact accountable.listed.listed stored membership service earlier controller
  | createCRD crd =>
      simp only [State.step, Cluster.createCRD]
      split
      · exact accountable
      · refine ⟨⟨?_, accountable.listed.listed⟩, accountable.deregistered⟩
        intro service membership uid controller
        exact Nat.lt_succ_of_lt (accountable.listed.controllers service membership uid controller)
  | deleteCRD name => exact ⟨⟨accountable.listed.controllers, accountable.listed.listed⟩,
      accountable.deregistered⟩
  | pass r name ctx => exact accountable.reconcile wf r accounted

theorem Initial.accountable {start : State} (initial : Initial start) : Accountable start where
  listed := by
    refine ⟨?_, ?_⟩
    · exact fun service membership uid controller =>
        (initial.services service membership uid controller).1
    · intro stored membership service inServices controller
      exact absurd rfl ((initial.services service inServices _ controller).2 stored membership)
  deregistered := by
    intro uid left membership
    rw [initial.trace] at membership
    cases membership

/-- In every run whose passes are all accounted for, a finalizer is removed only when no
APIService is left that its shard controls or has controlled. -/
theorem run_deregisters_first {start : State} (initial : Initial start) {steps : List Step}
    (accounted : Along State.step (fun state step => step.Accounted state) start steps) :
    Deregistered (run State.step start steps) := by
  have accountable := accounted.invariant
    (P := fun state => state.cluster.registry.Wf ∧ Accountable state)
    (fun _ step condition kept => ⟨step_wf kept.1 step, kept.2.step kept.1 condition⟩)
    ⟨initial.wf, initial.accountable⟩
  exact accountable.2.deregistered

/-- A pass without failures and edits is accounted for, if the API server accepts its
APIServices. -/
theorem accounted_clean {name : String} {state : State}
    (served : ∀ copy ∈ state.cluster.registry.copy {} name, ∀ pair ∈ versionedGroups copy,
      validVersion pair.1 = true ∧ accepts copy
        (state.cluster.apiServices.find? (apiServiceName pair.1 pair.2)) = true) :
    Accounted {} name state := by
  refine ⟨fun _ => nofun, fun _ => nofun, fun _ => nofun, fun copy copied => .inr ?_⟩
  refine ⟨?_, fun _ _ => rfl, ?_, ?_⟩
  · rintro edit ⟨request, _, membership⟩
    cases membership
  · exact fun pair membership => (served copy copied pair membership).1
  · exact fun pair membership => (served copy copied pair membership).2

/-- A shard is served and then deleted.  The pass that serves it meets what the schedule
says. -/
def teardown (ctx : Schedule) : List Step := [
  .edit (.create "a" (plainSpec [⟨"g", ["v1"]⟩])),
  .surround (.serving "a"),
  .pass .bare "a" ctx,
  .edit (.delete "a"),
  .pass .bare "a" {}]

/-- The statement for a teardown without failures. -/
theorem run_deregisters_first_teardown :
    Initial { cluster := .bare } ∧
      Deregistered (run State.step { cluster := .bare } (teardown {})) := by
  refine ⟨initial_bare, run_deregisters_first initial_bare
    ⟨trivial, trivial, ?_, trivial, ?_, trivial⟩⟩
  · exact accounted_clean (by decide +kernel)
  · exact accounted_clean (by decide +kernel)

/-- When the last write of the pass that registers an APIService fails, the shard is
released while the APIService is still there. -/
theorem teardown_leaves_apiService :
    .removedFinalizer 0 ["v1.g"] ∈
      (run State.step { cluster := .bare } (teardown (.failing [.writeFinal]))).trace := by
  decide +kernel

end KubeShard.Apishard
