import KubeShard.Apishard.Cleanup
import KubeShard.Apishard.Run

/-!
# The objects of the in-cluster database in a run

Only `reconcileInClusterPostgreSQL` applies the objects of the in-cluster database,
and when a pass comes to its cleanup it has tracked them.  What that program keeps
of one of these objects is therefore kept by every pass of the shard.
-/

namespace KubeShard.Apishard

open Resources Prog Aggregation

/-- A guard on one object and on the data it was ever applied with. -/
structure Guarded (key : ObjectKey) (live : Option Object → Prop)
    (applied : List (String × String) → Prop) (state : State) : Prop where
  live : live (state.cluster.objects.find? key)
  applied : ∀ data, .applied key data ∈ state.trace → applied data

namespace Guarded

variable {key : ObjectKey} {live : Option Object → Prop}
  {applied : List (String × String) → Prop} {before after : State}

theorem congr (guarded : Guarded key live applied before)
    (objects : after.cluster.objects = before.cluster.objects)
    (trace : after.trace = before.trace) : Guarded key live applied after :=
  ⟨by rw [objects]; exact guarded.live, by rw [trace]; exact guarded.applied⟩

/-- Other objects may be touched. -/
theorem beside (guarded : Guarded key live applied before) {keys : List ObjectKey}
    (others : Applied keys before after) (outside : key ∉ keys) (own : key.kind.shared = false) :
    Guarded key live applied after := by
  refine ⟨others.objects key outside own ▸ guarded.live, ?_⟩
  intro data membership
  rcases others.logged key data membership with earlier | inside | shared
  · exact guarded.applied data earlier
  · exact absurd inside outside
  · rw [own] at shared
    contradiction

theorem callAPI {ctx : Schedule} {request : Call} {α : Type} {action : Pass α}
    (respects : Respects (.keeps (Guarded key live applied)) action) :
    Respects (.keeps (Guarded key live applied)) (callAPI ctx request action) :=
  callAPI_respects (fun _ guarded => guarded.congr rfl rfl) respects

/-- The guarded object itself is applied. -/
theorem applyObject (object : Object)
    (stored : ∀ cluster : Cluster, live (cluster.objects.find? object.key) →
      live (some (cluster.merge object)))
    (permitted : applied object.data) :
    Respects (.keeps (Guarded object.key live applied)) (Apishard.applyObject object) := by
  apply Respects.of_get.bind
  intro _
  apply Respects.ite (.of_throw _)
  apply Respects.of_modify
  intro state guarded
  refine ⟨?_, ?_⟩
  · have inserted := Store.find?_insert_self state.cluster.objects (state.cluster.merge object)
    rw [Cluster.merge_key] at inserted
    rw [inserted]
    exact stored state.cluster guarded.live
  · intro data membership
    rcases List.mem_append.mp membership with earlier | new
    · exact guarded.applied data earlier
    · cases List.mem_singleton.mp new
      exact permitted

theorem applyOwned (ctx : Schedule) (shard : APIShard) (component : Component)
    {data : List (String × String)} {spec : ObjectSpec}
    (stored : ∀ object, live object → ∀ stands : Object,
      live (some (stands.merge ⟨component.key shard, some shard.name, data, spec, 0, 0, []⟩)))
    (permitted : applied data) :
    Respects (.keeps (Guarded (component.key shard) live applied))
      (applyOwned ctx shard component data spec) := by
  apply callAPI
  apply Respects.bind
  · refine applyObject ⟨component.key shard, some shard.name, data, spec, 0, 0, []⟩ ?_ permitted
    intro cluster before
    unfold Cluster.merge
    split
    · exact stored _ before _
    · exact stored _ before ⟨component.key shard, none, [], .other, 0, 0, []⟩
  · intro _
    apply Respects.of_modify
    exact fun _ guarded => guarded.congr rfl rfl

/-- Another object is applied. -/
theorem applyOwned_other (ctx : Schedule) (shard : APIShard) (component : Component)
    (own : key.kind.shared = false) (other : key ≠ component.key shard)
    (data : List (String × String)) (spec : ObjectSpec) :
    Respects (.keeps (Guarded key live applied))
      (Apishard.applyOwned ctx shard component data spec) := by
  apply callAPI
  intro state guarded
  obtain ⟨keys, inside, others⟩ := applyAndTrack_applied
    { key := component.key shard, owner := some shard.name, data := data,
      spec := spec } state
  apply guarded.beside others _ own
  exact fun membership => other (List.mem_singleton.mp (inside membership))

/-- Another component is applied. -/
theorem applyOwned_component (ctx : Schedule) (shard : APIShard) (component other : Component)
    (plain : component.plain = true) (own : component.kind.shared = false)
    (otherPlain : other.plain = true) (differs : other ≠ component)
    (data : List (String × String)) (spec : ObjectSpec) :
    Respects (.keeps (Guarded (component.key shard) live applied))
      (Apishard.applyOwned ctx shard other data spec) := by
  apply applyOwned_other ctx shard other own
  exact fun same => differs (Component.eq_of_key_eq otherPlain plain same.symm)

end Guarded

/-- What comes before the StatefulSet does not touch it. -/
theorem prepareDatabase_guarded (ctx : Schedule) (shard : APIShard) (live : Option Object → Prop) :
    Respects (.keeps (Guarded (Component.postgreSQLStatefulSet.key shard) live fun _ => True))
      (prepareDatabase ctx shard) := by
  let guarded := Guarded (Component.postgreSQLStatefulSet.key shard) live fun _ => True
  have draws : Respects (.keeps guarded) (getOrGeneratePostgresPassword ctx shard) :=
    (getOrGeneratePostgresPassword_hushed ctx shard).mono fun _ _ still guarded =>
      guarded.beside still.untouched List.not_mem_nil rfl
  apply (draws.mapError _).bind
  intro password
  apply ((Guarded.applyOwned_component ctx shard .postgreSQLStatefulSet .postgreSQLSecret rfl rfl
    rfl (by decide) _ _).mapError _).bind
  intro _
  exact (Guarded.applyOwned_component ctx shard .postgreSQLStatefulSet .postgreSQLInitConfigMap rfl
    rfl rfl (by decide) _ _).mapError _

/-! ## One pass -/

section pass

variable {r : Reconciler} {ctx : Schedule} {shard : APIShard} {component : Component}
  {live : Option Object → Prop} {applied : List (String × String) → Prop}

theorem reconcileServing_guarded {key : ObjectKey} (own : key.kind.shared = false)
    {before : State} (guarded : Guarded key live applied before) (tracked : key ∈ before.tracked) :
    Guarded key live applied (exec (reconcileServing ctx shard) before).2 := by
  rcases reconcileServing_objects ctx shard before with
    untouched | ⟨checked, cleaned, untouched, cleans, reports⟩
  · exact guarded.beside untouched List.not_mem_nil own
  · have checkedGuarded := guarded.beside untouched List.not_mem_nil own
    have kept := cleans.kept key (untouched.same ▸ tracked)
    have cleanedGuarded : Guarded key live applied cleaned := by
      refine ⟨kept ▸ checkedGuarded.live, ?_⟩
      intro data membership
      rw [cleans.trace] at membership
      rcases List.mem_append.mp membership with earlier | new
      · exact checkedGuarded.applied data earlier
      · cases List.mem_singleton.mp new
    exact cleanedGuarded.beside reports List.not_mem_nil own

/-- A component that is no ConfigMap is applied by its own step only. -/
theorem step_eq_of_key_eq (plain : component.plain = true) (kind : component.kind ≠ .configMap)
    {other : Component} (same : component.key shard = other.key shard) :
    step other = step component := by
  rcases other.plain_or_hashed with otherPlain | ⟨name, rfl⟩
  · rw [Component.eq_of_key_eq plain otherPlain same]
  · exact absurd (congrArg ObjectKey.kind same) kind

/-- The steps on other objects keep the guard. -/
theorem guarded_admits (plain : component.plain = true) (kind : component.kind ≠ .configMap)
    (own : component.kind.shared = false) {applyStep : ApplyStep}
    (other : applyStep ≠ step component) :
    Admits ctx shard applyStep (.keeps (Guarded (component.key shard) live applied)) where
  silent before after still _ guarded := guarded.beside still.untouched List.not_mem_nil own
  apply touched isStep object isKey state guarded := by
    obtain ⟨keys, inside, others⟩ := applyAndTrack_applied object state
    apply guarded.beside others _ own
    intro membership
    have same := List.mem_singleton.mp (inside membership)
    rw [isKey] at same
    exact other (isStep.symm.trans (step_eq_of_key_eq plain kind same))

/-- What the steps on the database keep of one of its objects is kept by a pass. -/
theorem reconcileCopy_guarded (database : component ∈ storageComponents shard)
    (kind : component.kind ≠ .configMap)
    (keeps : Respects (.keeps (Guarded (component.key shard) live applied))
      (reconcileInClusterPostgreSQL ctx shard)) :
    Respects (.keeps (Guarded (component.key shard) live applied))
      (reconcileCopy r ctx shard) := by
  have isStorage : step component = .storage := step_of_storage component database
  have plain : component.plain = true := by
    cases component <;> first | rfl | contradiction
  have own : component.kind.shared = false := by
    cases component <;> first | rfl | contradiction
  have untouched {α : Type} {program : Pass α} (respects : Respects untouched program) :
      Respects (.keeps (Guarded (component.key shard) live applied)) program :=
    respects.mono fun _ _ applied guarded => guarded.beside applied List.not_mem_nil own
  have report {α : Type} (failure : ApiError) :=
    untouched (setErrorAndRequeue_untouched ctx shard (α := α) failure)
  have resources : Respects (.keeps (Guarded (component.key shard) live applied))
      (reconcileResources r ctx shard) := by
    have namespaced := orSetError_respects ctx shard report (untouched
      ((ensureNamespace_sharing ctx shard).mono fun _ _ sharing => sharing.untouched))
    apply namespaced.bind
    intro _
    apply (untouched (initializePhase_untouched ctx shard)).bind
    intro _
    exact reconcileObjects_respects r ctx shard report
      (fun _ _ still guarded => guarded.beside still.untouched List.not_mem_nil own)
      (fun applyStep other => guarded_admits plain kind own (isStorage ▸ other)) keeps
  intro state guarded
  have reached := resources state guarded
  rcases reconcileCopy_cases r ctx shard state with
    ⟨failure, after, first, ran⟩ | ⟨after, first, ran⟩
  · rw [ran]
    rwa [first] at reached
  · rw [ran]
    rw [first] at reached
    apply reconcileServing_guarded own reached
    have onList : component ∈ appliedComponents r ctx shard state.cluster := by
      rw [mem_appliedComponents, isStorage]
      exact database
    rw [(reconcileResources_ok first).1]
    exact List.mem_append_right _ (List.mem_map_of_mem onList)

end pass

/-- The deletion branch touches no object. -/
theorem reconcileDelete_untouched (ctx : Schedule) {shard : APIShard}
    (finalized : finalizerName ∈ shard.finalizers) :
    Respects untouched (reconcileDelete ctx shard) := by
  intro state
  have deregistered : Applied [] state
      (exec (deregister ctx shard 0 shard.status.registeredAPIServices) state).2 :=
    Registering.untouched (deregister_registering (List.Subset.refl _) 0 state :
      Registering ctx shard [] shard.status.registeredAPIServices state _)
  rcases reconcileDelete_cases ctx finalized state with ⟨failure, _, ran⟩ | ⟨_, ran⟩
  · rw [ran]
    exact deregistered
  · rw [ran]
    apply deregistered.trans
    generalize (exec (deregister ctx shard 0 shard.status.registeredAPIServices) state).2 = middle
    rcases removeFinalizer_cases ctx shard middle with
      ⟨failure, ran⟩ | ⟨after, ran, _, _, same⟩
    · rw [ran]
      exact .none rfl rfl rfl
    · rw [ran, same]
      exact .of_logged rfl rfl (.of_one rfl rfl)

/-- A guard is kept by a pass if it is kept by the work on a live copy. -/
theorem reconcile_guarded {r : Reconciler} {ctx : Schedule} {name : String} {key : ObjectKey}
    {live : Option Object → Prop} {applied : List (String × String) → Prop} {state : State}
    (own : key.kind.shared = false) (guarded : Guarded key live applied state)
    (keeps : ∀ copy start, Adopted ctx name state copy start → Guarded key live applied start →
      Guarded key live applied (exec (reconcileCopy r ctx copy) start).2) :
    Guarded key live applied (exec (reconcile r ctx name) state).2 := by
  rcases reconcile_cases r ctx name state with
    ⟨answer, after, ran, ended, _⟩ | ⟨shard, answer, found, finalized, _, ran⟩ |
    ⟨copy, start, adopted, ran⟩
  · rw [ran, ended.same]
    exact guarded.congr rfl rfl
  · rw [ran]
    have begun : Guarded key live applied (state.edited ctx .getShard) := guarded.congr rfl rfl
    exact begun.beside (reconcileDelete_untouched ctx finalized _) List.not_mem_nil own
  · rw [ran]
    apply keeps copy start adopted
    apply guarded.congr _ adopted.trace
    rw [adopted.cluster]

end KubeShard.Apishard
