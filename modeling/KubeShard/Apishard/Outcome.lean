import KubeShard.Apishard.Run

/-!
# What a live pass leaves of lists and APIServices

The status of a shard lists the APIServices it has registered.  A live pass rewrites
the list with its last write, long after it has applied and deleted APIServices.  A
pass that ends earlier leaves the list as it was, whatever it has done to them.
-/

namespace KubeShard.Apishard

open Prog Aggregation

/-! ## Lists of registered names -/

/-- Every stored shard lists what it listed before, or is new and lists nothing. -/
structure Registry.Lists (before after : Registry) : Prop where
  nextUID : before.nextUID ≤ after.nextUID
  stored : ∀ shard ∈ after.shards.items,
    (∃ old ∈ before.shards.items, old.uid = shard.uid ∧
        old.status.registeredAPIServices = shard.status.registeredAPIServices) ∨
      before.nextUID ≤ shard.uid ∧ shard.status.registeredAPIServices = []

namespace Registry.Lists

theorem of_follows {before after : Registry} (follows : before.Follows after) :
    before.Lists after where
  nextUID := follows.nextUID
  stored := by
    intro shard membership
    rcases follows.status membership with ⟨old, oldMem, uid, status⟩ | ⟨uid, status⟩
    · exact .inl ⟨old, oldMem, uid, by rw [status]⟩
    · exact .inr ⟨uid, by rw [status]⟩

theorem trans {first second third : Registry} (left : first.Lists second)
    (right : second.Lists third) : first.Lists third where
  nextUID := Nat.le_trans left.nextUID right.nextUID
  stored := by
    intro shard membership
    rcases right.stored shard membership with ⟨middle, middleMem, uid, names⟩ | ⟨uid, names⟩
    · rcases left.stored middle middleMem with ⟨old, oldMem, oldUid, oldNames⟩ | ⟨newUid, none⟩
      · exact .inl ⟨old, oldMem, oldUid.trans uid, oldNames.trans names⟩
      · exact .inr ⟨uid ▸ newUid, names ▸ none⟩
    · exact .inr ⟨Nat.le_trans left.nextUID uid, names⟩

/-- Writing the status of a copy that still has the list it was read with. -/
theorem persist {registry : Registry} {state : State} {copy stored : APIShard}
    (lists : registry.Lists state.cluster.registry) (base : copy ∈ registry.shards.items)
    (uid : stored.uid = copy.uid)
    (listed : state.status.registeredAPIServices = copy.status.registeredAPIServices) :
    registry.Lists (state.persist stored).cluster.registry where
  nextUID := lists.nextUID
  stored := by
    intro shard membership
    rcases Store.mem_insert.mp membership with rfl | ⟨earlier, _⟩
    · exact .inl ⟨copy, base, uid.symm, listed.symm⟩
    · exact lists.stored shard earlier

end Registry.Lists

/-! ## Invariants of a live pass -/

/-- What a live pass has done to APIServices so far. -/
structure Served (copy : APIShard) (start state : State) : Prop where
  services : ∀ service ∈ state.cluster.apiServices.items,
    service ∈ start.cluster.apiServices.items ∨
      service.controller = some copy.uid ∧ service.name ∈ desiredAPIServiceNames copy
  controllers : ∀ service ∈ state.cluster.apiServices.items, ∀ uid ∈ service.controllers,
    uid = copy.uid ∧ service.name ∈ desiredAPIServiceNames copy ∨
      ∃ earlier ∈ start.cluster.apiServices.items,
        earlier.name = service.name ∧ uid ∈ earlier.controllers
  deleted : ∀ uid service, .deletedAPIService uid service ∈ state.trace →
    .deletedAPIService uid service ∈ start.trace ∨
      uid = copy.uid ∧ service.name ∈ copy.status.registeredAPIServices ∧
        (service ∈ start.cluster.apiServices.items ∨ service.controller = some copy.uid)

/-- A live pass before its last write, with these names in the status of its copy. -/
structure Serving (copy : APIShard) (names : List String) (start state : State) : Prop where
  tended : Tended copy state
  lists : start.cluster.registry.Lists state.cluster.registry
  listed : state.status.registeredAPIServices = names
  served : Served copy start state

namespace Serving

variable {ctx : Schedule} {copy : APIShard} {names : List String} {start state after : State}

theorem calm (serving : Serving copy names start state) (calm : Calm ctx state after) :
    Serving copy names start after where
  tended := serving.tended.working calm.working
  lists := serving.lists.trans (.of_follows calm.registry.follows)
  listed := calm.registered.trans serving.listed
  served := by
    refine ⟨calm.apiServices ▸ serving.served.services,
      calm.apiServices ▸ serving.served.controllers, ?_⟩
    intro uid service membership
    exact serving.served.deleted uid service (calm.logged.mem_before membership rfl)

theorem edited (serving : Serving copy names start state) (ctx : Schedule) (request : Call) :
    Serving copy names start (state.edited ctx request) where
  tended := serving.tended.request ctx request
  lists := serving.lists.trans (.of_follows (Registry.follows_edits _ _))
  listed := serving.listed
  served := ⟨serving.served.services, serving.served.controllers, serving.served.deleted⟩

/-- A status write before the last one. -/
theorem updateStatus (serving : Serving copy copy.status.registeredAPIServices start state)
    (base : copy ∈ start.cluster.registry.shards.items) (ctx : Schedule) (request : Call) :
    Serving copy copy.status.registeredAPIServices start
      (exec (updateStatus ctx request copy) state).2 := by
  have edited := serving.edited ctx request
  rcases updateStatus_cases ctx copy request state with
    ⟨failure, ran⟩ | ⟨stored, membership, name, fresh, ran⟩
  · rw [ran]
    exact edited
  · rw [ran]
    have uid : stored.uid = copy.uid := by
      rw [edited.tended.current.agrees stored membership name fresh]
    refine ⟨edited.tended.persist membership name fresh,
      edited.lists.persist base uid edited.listed, serving.listed, serving.served.services,
      serving.served.controllers, ?_⟩
    intro uid service membership
    rcases List.mem_append.mp membership with earlier | new
    · exact serving.served.deleted uid service earlier
    · cases List.mem_singleton.mp new

theorem setErrorAndRequeue {α : Type}
    (serving : Serving copy copy.status.registeredAPIServices start state)
    (base : copy ∈ start.cluster.registry.shards.items) (ctx : Schedule) (failure : ApiError) :
    Serving copy copy.status.registeredAPIServices start
      (exec (setErrorAndRequeue ctx copy failure : Pass α) state).2 := by
  rw [exec_setErrorAndRequeue]
  exact (serving.calm (setError_calm ctx copy failure state)).updateStatus base ctx _

end Serving

/-- A live pass before its APIServices. -/
structure Unserved (copy : APIShard) (start state : State) : Prop
    extends Serving copy copy.status.registeredAPIServices start state where
  same : state.cluster.apiServices = start.cluster.apiServices

theorem updateStatus_services (ctx : Schedule) (request : Call) (copy : APIShard) (state : State) :
    (exec (updateStatus ctx request copy) state).2.cluster.apiServices =
      state.cluster.apiServices := by
  rcases updateStatus_cases ctx copy request state with ⟨failure, ran⟩ | ⟨stored, _, _, _, ran⟩
  · rw [ran]
    rfl
  · rw [ran]
    rfl

section begin

variable {copy : APIShard} {start : State} (base : copy ∈ start.cluster.registry.shards.items)

include base

theorem unserved_steady (ctx : Schedule) : Steady ctx copy (Unserved copy start) where
  quiet := by
    intro before after quiet unserved
    exact ⟨unserved.toServing.calm quiet.toCalm, quiet.apiServices.trans unserved.same⟩
  report := by
    intro α failure state unserved
    refine ⟨unserved.toServing.setErrorAndRequeue base ctx failure, ?_⟩
    rw [exec_setErrorAndRequeue, updateStatus_services]
    exact (setError_calm ctx copy failure state).apiServices.trans unserved.same

theorem initializePhase_unserved (ctx : Schedule) :
    Respects (.keeps (Unserved copy start)) (initializePhase ctx copy) := by
  intro state unserved
  rw [exec_initializePhase]
  split
  · have begun : Unserved copy start { state with status.phase := .provisioning } :=
      ⟨⟨⟨unserved.tended.wf, unserved.tended.current⟩, unserved.lists, unserved.listed,
        unserved.served.services, unserved.served.controllers, unserved.served.deleted⟩,
        unserved.same⟩
    refine ⟨begun.toServing.updateStatus base ctx _, ?_⟩
    rw [updateStatus_services]
    exact unserved.same
  · exact unserved

end begin

/-! ## Registration -/

/-- What a registration, complete or not, leaves. -/
theorem Unserved.registering {ctx : Schedule} {copy : APIShard} {start state after : State}
    (unserved : Unserved copy start state)
    (registering : Registering ctx copy (desiredAPIServiceNames copy)
      state.status.registeredAPIServices state after) :
    Serving copy copy.status.registeredAPIServices start after where
  tended := unserved.tended.working registering.working
  lists := unserved.lists.trans (.of_follows registering.registry.follows)
  listed := by rw [registering.status, unserved.listed]
  served := by
    refine ⟨?_, ?_, ?_⟩
    · rw [← unserved.same]
      exact registering.services
    · rw [← unserved.same]
      exact registering.controllers
    · intro uid service membership
      rcases registering.deleted uid service membership with earlier | ⟨own, name, origin⟩
      · exact unserved.served.deleted uid service earlier
      · rw [unserved.listed] at name
        rw [unserved.same] at origin
        exact .inr ⟨own, name, origin⟩

/-- All APIServices of the spec are registered and the others are not. -/
structure Achieved (ctx : Schedule) (copy : APIShard) (state : State) : Prop where
  held : ∀ name ∈ desiredAPIServiceNames copy, Held copy.uid name state
  absent : (∀ index, Truthful ctx (.getOrphan index)) →
    ∀ name ∈ copy.status.registeredAPIServices, name ∉ desiredAPIServiceNames copy →
      Absent name state

theorem Achieved.of_services {ctx : Schedule} {copy : APIShard} {state after : State}
    (achieved : Achieved ctx copy state)
    (services : after.cluster.apiServices = state.cluster.apiServices) :
    Achieved ctx copy after := by
  refine ⟨?_, ?_⟩
  · intro name wanted
    rw [Held, services]
    exact achieved.held name wanted
  · intro truthful name listed unwanted
    rw [Absent, services]
    exact achieved.absent truthful name listed unwanted

/-- What a complete registration leaves. -/
theorem Unserved.registered {ctx : Schedule} {copy : APIShard} {start state after : State}
    (unserved : Unserved copy start state)
    (ran : exec (reconcileAPIServices ctx copy) state = (.ok (), after)) :
    Serving copy (desiredAPIServiceNames copy) start after ∧ Achieved ctx copy after := by
  obtain ⟨registered, registering, held, absent, rfl⟩ := reconcileAPIServices_ok ran
  have serving := unserved.registering registering
  rw [unserved.listed] at absent
  exact ⟨⟨⟨serving.tended.wf, serving.tended.current⟩, serving.lists, rfl,
    serving.served.services, serving.served.controllers, serving.served.deleted⟩, held, absent⟩

/-! ## How a deletion ends -/

/-- A deletion only takes APIServices away, and only those on the shard's list. -/
theorem reconcileDelete_outcome (ctx : Schedule) {shard : APIShard}
    (finalized : finalizerName ∈ shard.finalizers) (state : State) :
    let after := (exec (reconcileDelete ctx shard) state).2
    (∀ service ∈ after.cluster.apiServices.items, service ∈ state.cluster.apiServices.items) ∧
      ∀ uid service, .deletedAPIService uid service ∈ after.trace →
        .deletedAPIService uid service ∈ state.trace ∨
          uid = shard.uid ∧ service.name ∈ shard.status.registeredAPIServices ∧
            (service ∈ state.cluster.apiServices.items ∨ service.controller = some shard.uid) := by
  have deregistered : Registering ctx shard [] shard.status.registeredAPIServices state _ :=
    deregister_registering (List.Subset.refl _) 0 state
  have services (service : APIService) (membership) :=
    (deregistered.services service membership).resolve_right fun own => List.not_mem_nil own.2
  have deleted := deregistered.deleted
  rcases reconcileDelete_cases ctx finalized state with ⟨failure, _, ran⟩ | ⟨_, ran⟩
  · rw [ran]
    exact ⟨services, deleted⟩
  · rw [ran]
    generalize (exec (deregister ctx shard 0 shard.status.registeredAPIServices) state).2 = middle
      at services deleted ⊢
    rcases removeFinalizer_cases ctx shard middle with ⟨failure, ran⟩ | ⟨after, ran, _, _, same⟩
    · rw [ran]
      exact ⟨services, deleted⟩
    · rw [ran, same]
      refine ⟨services, ?_⟩
      intro uid service membership
      rcases List.mem_append.mp membership with earlier | new
      · exact deleted uid service earlier
      · cases List.mem_singleton.mp new

/-! ## How a live pass ends -/

/-- The last write has put the list of the shard in line with its spec. -/
structure Recorded (ctx : Schedule) (copy : APIShard) (start after : State) : Prop
    extends Achieved ctx copy after where
  nextUID : start.cluster.registry.nextUID ≤ after.cluster.registry.nextUID
  own : ∀ shard ∈ after.cluster.registry.shards.items, shard.uid = copy.uid →
    shard.status.registeredAPIServices = desiredAPIServiceNames copy
  others : ∀ shard ∈ after.cluster.registry.shards.items, shard.uid ≠ copy.uid →
    (∃ old ∈ start.cluster.registry.shards.items, old.uid = shard.uid ∧
        old.status.registeredAPIServices = shard.status.registeredAPIServices) ∨
      start.cluster.registry.nextUID ≤ shard.uid ∧ shard.status.registeredAPIServices = []

variable {ctx : Schedule} {copy : APIShard} {start state : State}

/-- The last write is made, or nothing is. -/
theorem Serving.reportSuccess (serving : Serving copy (desiredAPIServiceNames copy) start state)
    (achieved : Achieved ctx copy state) (result : Result) :
    let ran := exec (do Apishard.reportSuccess ctx copy; pure result) state
    Served copy start ran.2 ∧
      ((∃ failure, ran.1 = .error failure ∧
          start.cluster.registry.Lists ran.2.cluster.registry) ∨
        Recorded ctx copy start ran.2) := by
  have marked := serving.calm (setReconciled_calm ctx copy state)
  have achieved := achieved.of_services (setReconciled_calm ctx copy state).apiServices
  simp only [exec_bind, exec_reportSuccess]
  generalize (exec (setReconciled copy) state).2 = report at marked achieved ⊢
  have edited := marked.edited ctx .writeFinal
  rcases updateStatus_cases ctx copy .writeFinal report with
    ⟨failure, ran⟩ | ⟨stored, membership, name, fresh, ran⟩
  · rw [ran]
    exact ⟨edited.served, .inl ⟨failure, rfl, edited.lists⟩⟩
  · rw [ran]
    have uid : stored.uid = copy.uid := by
      rw [edited.tended.current.agrees stored membership name fresh]
    have wf := edited.tended.wf.persist membership
    refine ⟨⟨edited.served.services, edited.served.controllers, ?_⟩,
      .inr ⟨achieved.of_services rfl, edited.lists.nextUID,
      ?_, ?_⟩⟩
    · intro uid service membership
      rcases List.mem_append.mp membership with earlier | new
      · exact edited.served.deleted uid service earlier
      · cases List.mem_singleton.mp new
    · intro shard stands same
      have written := wf.distinct shard stands _ (Store.mem_insert.mpr (.inl rfl))
        (same.trans uid.symm)
      rw [written]
      exact edited.listed
    · intro shard stands other
      rcases Store.mem_insert.mp stands with rfl | ⟨earlier, _⟩
      · exact absurd uid other
      · exact edited.lists.stored shard earlier

/-- A live pass fails with the lists as they were, or ends with its own in line with its
spec. -/
theorem reconcileServing_outcome (base : copy ∈ start.cluster.registry.shards.items)
    (unserved : Unserved copy start state) :
    let ran := exec (reconcileServing ctx copy) state
    Served copy start ran.2 ∧
      ((∃ failure, ran.1 = .error failure ∧
          start.cluster.registry.Lists ran.2.cluster.registry) ∨
        Recorded ctx copy start ran.2) := by
  rcases reconcileServing_cases ctx copy state with
    ⟨failure, registered, first, ran⟩ | ⟨registered, detected, first, second, rest⟩
  · rw [ran]
    have serving := (unserved.registering (reconcileAPIServices_error first)).setErrorAndRequeue
      base ctx failure (α := Result)
    exact ⟨serving.served, .inl ⟨failure, rfl, serving.lists⟩⟩
  · obtain ⟨serving, achieved⟩ := unserved.registered first
    have detects := (reconcileCRDConflicts_calm ctx copy).rel second
    rcases rest with
      ⟨failure, checked, third, ran⟩ | ⟨result, checked, cleaned, third, cleans, ran⟩
    · rw [ran]
      have ended := serving.calm (detects.trans ((updateHealthStatus_calm ctx copy).rel third))
      exact ⟨ended.served, .inl ⟨failure, rfl, ended.lists⟩⟩
    · rw [ran]
      have calm := detects.trans (((updateHealthStatus_calm ctx copy).rel third).trans cleans.calm)
      exact (serving.calm calm).reportSuccess (achieved.of_services calm.apiServices) result

theorem Adopted.unserved {name : String} (adopted : Adopted ctx name state copy start)
    (wf : state.cluster.registry.Wf) : Unserved copy start start :=
  ⟨⟨adopted.tended wf, .of_follows (.refl _), by rw [adopted.status],
    fun _ => .inl, fun service membership _ controller => .inr ⟨service, membership, rfl, controller⟩,
    fun _ _ => .inl⟩, rfl⟩

/-- How a live pass ends, from its adoption on. -/
theorem Adopted.outcome (r : Reconciler) {name : String}
    (adopted : Adopted ctx name state copy start) (wf : state.cluster.registry.Wf) :
    let ran := exec (reconcileCopy r ctx copy) start
    Served copy start ran.2 ∧
      ((∃ failure, ran.1 = .error failure ∧
          start.cluster.registry.Lists ran.2.cluster.registry) ∨
        Recorded ctx copy start ran.2) := by
  have base := adopted.stored
  have kept := (unserved_steady base ctx).reconcileResources r (initializePhase_unserved base ctx)
    start (adopted.unserved wf)
  rcases reconcileCopy_cases r ctx copy start with ⟨failure, after, first, ran⟩ |
    ⟨after, first, ran⟩
  · rw [first] at kept
    rw [ran]
    exact ⟨kept.served, .inl ⟨failure, rfl, kept.lists⟩⟩
  · rw [first] at kept
    rw [ran]
    exact reconcileServing_outcome base kept

end KubeShard.Apishard
