import KubeShard.Apishard.Outcome

/-!
# Deleting only one's own APIServices

A pass deletes APIServices by name, from the list in the status of its shard.  That is
safe while every APIService on a shard's list has the shard as its controller.  All shards
apply as one field manager, so a shard that applies an APIService takes it over from the
one that had it, and nothing is refused.  The list of the other shard keeps the name until
a pass of that shard, and this pass deletes the APIService.
-/

namespace KubeShard.Apishard

open Prog Aggregation

/-- Every APIService on a shard's list has the shard as its controller. -/
def Owned (state : State) : Prop :=
  ∀ stored ∈ state.cluster.registry.shards.items,
    ∀ service ∈ state.cluster.apiServices.items,
      service.name ∈ stored.status.registeredAPIServices → service.controller = some stored.uid

theorem Owned.lists {before after : State} (owned : Owned before)
    (lists : before.cluster.registry.Lists after.cluster.registry)
    (services : ∀ service ∈ after.cluster.apiServices.items,
      service ∈ before.cluster.apiServices.items) : Owned after := by
  intro shard membership service inServices listed
  rcases lists.stored shard membership with ⟨old, oldMem, uid, names⟩ | ⟨_, names⟩
  · rw [← names] at listed
    rw [← uid]
    exact owned old oldMem service (services service inServices) listed
  · rw [names] at listed
    cases listed

/-! ## One live pass -/

section live

variable {ctx : Schedule} {copy : APIShard} {start after : State}

/-- No name a copy wants is on the list of another shard. -/
def Clear (copy : APIShard) (state : State) : Prop :=
  ∀ other ∈ state.cluster.registry.shards.items, other.uid ≠ copy.uid →
    ∀ wanted ∈ desiredAPIServiceNames copy, wanted ∉ other.status.registeredAPIServices

/-- What a pass serves does not contradict the lists there were before it. -/
theorem Owned.served (owned : Owned start) (clear : Clear copy start)
    (served : Served copy start after) {old : APIShard} {service : APIService}
    (oldMem : old ∈ start.cluster.registry.shards.items)
    (membership : service ∈ after.cluster.apiServices.items)
    (listed : service.name ∈ old.status.registeredAPIServices) :
    service.controller = some old.uid := by
  rcases served.services service membership with earlier | ⟨controller, wanted⟩
  · exact owned old oldMem service earlier listed
  · by_cases own : old.uid = copy.uid
    · rw [own]
      exact controller
    · exact absurd listed (clear old oldMem own service.name wanted)

theorem Owned.outcome (owned : Owned start) (clear : Clear copy start)
    (served : Served copy start after)
    (outcome : start.cluster.registry.Lists after.cluster.registry ∨
      Recorded ctx copy start after) : Owned after := by
  -- a shard whose list is one there was before
  have unchanged {shard : APIShard} {service : APIService}
      (membership : service ∈ after.cluster.apiServices.items)
      (listed : service.name ∈ shard.status.registeredAPIServices)
      (origin : (∃ old ∈ start.cluster.registry.shards.items, old.uid = shard.uid ∧
          old.status.registeredAPIServices = shard.status.registeredAPIServices) ∨
        start.cluster.registry.nextUID ≤ shard.uid ∧
          shard.status.registeredAPIServices = []) :
      service.controller = some shard.uid := by
    rcases origin with ⟨old, oldMem, uid, names⟩ | ⟨_, names⟩
    · rw [← uid]
      exact owned.served clear served oldMem membership (names ▸ listed)
    · rw [names] at listed
      cases listed
  intro shard stands service membership listed
  rcases outcome with lists | recorded
  · exact unchanged membership listed (lists.stored shard stands)
  · by_cases own : shard.uid = copy.uid
    · rw [recorded.own shard stands own] at listed
      obtain ⟨held, found, controller⟩ := recorded.held service.name listed
      obtain ⟨heldMem, name⟩ := Store.find?_eq_some.mp found
      rw [Store.eq_of_key_eq membership heldMem name.symm, own]
      exact controller
    · exact unchanged membership listed (recorded.others shard stands own)

end live

/-! ## Passes -/

/-- No name a pass wants is on the list of another shard. -/
def Unclaimed (ctx : Schedule) (name : String) (state : State) : Prop :=
  ∀ copy ∈ state.cluster.registry.copy ctx name, Clear copy state

instance (copy : APIShard) (state : State) : Decidable (Clear copy state) :=
  inferInstanceAs (Decidable (∀ other ∈ _, _ → ∀ wanted ∈ _, _))

instance (ctx : Schedule) (name : String) (state : State) : Decidable (Unclaimed ctx name state) :=
  inferInstanceAs (Decidable (∀ copy ∈ _, Clear copy state))

theorem Unclaimed.adopted {ctx : Schedule} {name : String} {state start : State} {copy : APIShard}
    (unclaimed : Unclaimed ctx name state) (adopted : Adopted ctx name state copy start) :
    Clear copy start := by
  obtain ⟨stored, isCopy, uid, spec, _⟩ := adopted.base
  intro other otherMem distinct wanted isWanted listed
  rcases adopted.follows.status otherMem with ⟨old, oldMem, oldUid, status⟩ | ⟨_, status⟩
  · refine unclaimed stored isCopy old oldMem ?_ wanted ?_ (status ▸ listed)
    · rw [oldUid, ← uid]
      exact distinct
    · rw [← desiredAPIServiceNames_congr spec]
      exact isWanted
  · rw [status] at listed
    cases listed

/-- Every APIService a shard has deleted had the shard as its controller. -/
def DeletedOwn (state : State) : Prop :=
  ∀ uid service, .deletedAPIService uid service ∈ state.trace → service.controller = some uid

/-- The invariant of runs in which no name is wanted too early. -/
structure Separate (state : State) : Prop where
  owned : Owned state
  deleted : DeletedOwn state

theorem Separate.reconcile {state : State} (separate : Separate state)
    (wf : state.cluster.registry.Wf) (r : Reconciler) {ctx : Schedule} {name : String}
    (unclaimed : Unclaimed ctx name state) :
    Separate (exec (reconcile r ctx name) state).2 := by
  rcases reconcile_cases r ctx name state with
    ⟨answer, after, ran, ended, _⟩ | ⟨shard, answer, found, finalized, _, ran⟩ |
    ⟨copy, start, adopted, ran⟩
  · rw [ran, ended.same]
    exact ⟨separate.owned.lists (.of_follows ended.follows) fun _ => id, separate.deleted⟩
  · rw [ran]
    have edited : Owned (state.edited ctx .getShard) :=
      separate.owned.lists (.of_follows (Registry.follows_edits _ _)) fun _ => id
    obtain ⟨services, deleted⟩ :=
      reconcileDelete_outcome ctx finalized (state.edited ctx .getShard)
    obtain ⟨follows, _, _⟩ := reconcileDelete_effect ctx finalized (state.edited ctx .getShard)
    refine ⟨edited.lists (.of_follows follows) services, ?_⟩
    intro uid service membership
    rcases deleted uid service membership with earlier | ⟨rfl, listed, stored | own⟩
    · exact separate.deleted uid service earlier
    · exact edited shard (Store.find?_eq_some.mp found).1 service stored listed
    · exact own
  · rw [ran]
    have begun : Owned start := by
      apply separate.owned.lists (.of_follows adopted.follows)
      rw [adopted.cluster]
      exact fun _ => id
    obtain ⟨served, outcome⟩ := adopted.outcome r wf
    have lists := outcome.imp_left fun failed => failed.elim fun _ both => both.2
    refine ⟨begun.outcome (unclaimed.adopted adopted) served lists, ?_⟩
    intro uid service membership
    rcases served.deleted uid service membership with earlier | ⟨rfl, listed, stored | own⟩
    · rw [adopted.trace] at earlier
      exact separate.deleted uid service earlier
    · exact begun copy adopted.stored service stored listed
    · exact own

/-! ## Runs -/

/-- The step is not a pass, or a pass that wants no name too early. -/
def Step.Unclaimed (state : State) : Step → Prop
  | .pass _ name ctx => Apishard.Unclaimed ctx name state
  | _ => True

instance (state : State) (step : Step) : Decidable (step.Unclaimed state) := by
  cases step <;> unfold Step.Unclaimed <;> infer_instance

theorem Separate.step {state : State} (separate : Separate state)
    (wf : state.cluster.registry.Wf) {step : Step} (unclaimed : step.Unclaimed state) :
    Separate (state.step step) := by
  cases step with
  | edit edit =>
      exact ⟨separate.owned.lists (.of_follows (Registry.follows_edit _ _)) fun _ => id,
        separate.deleted⟩
  | surround surroundings =>
      refine ⟨?_, separate.deleted⟩
      intro stored membership service inServices listed
      obtain ⟨service, earlier, rfl⟩ := List.mem_map.mp inServices
      exact separate.owned stored membership service earlier listed
  | createCRD crd =>
      simp only [State.step, Cluster.createCRD]
      split
      · exact ⟨separate.owned, separate.deleted⟩
      · exact ⟨separate.owned, separate.deleted⟩
  | deleteCRD name => exact ⟨separate.owned, separate.deleted⟩
  | pass r name ctx => exact separate.reconcile wf r unclaimed

theorem Initial.separate {start : State} (initial : Initial start) : Separate start where
  owned := by
    intro stored membership service _ listed
    rw [initial.status stored membership] at listed
    cases listed
  deleted := by
    intro uid service membership
    rw [initial.trace] at membership
    cases membership

/-- In every run in which no pass wants a name that is on another shard's list, shards
delete their own APIServices only. -/
theorem run_deletes_own {start : State} (initial : Initial start) {steps : List Step}
    (unclaimed : Along State.step (fun state step => step.Unclaimed state) start steps) :
    DeletedOwn (run State.step start steps) := by
  have separate := unclaimed.invariant
    (P := fun state => state.cluster.registry.Wf ∧ Separate state)
    (fun _ step condition kept => ⟨step_wf kept.1 step, kept.2.step kept.1 condition⟩)
    ⟨initial.wf, initial.separate⟩
  exact separate.2.deleted

/-- One shard gives a name up and another takes it.  The pass in between meets what the
schedule says. -/
def handover (ctx : Schedule) : List Step := [
  .edit (.create "a" (plainSpec [⟨"h", ["v1"]⟩, ⟨"g", ["v1"]⟩])),
  .surround (.serving "a"),
  .pass .bare "a" {},
  .edit (.editSpec "a" (plainSpec [⟨"h", ["v1"]⟩])),
  .pass .bare "a" ctx,
  .edit (.create "b" (plainSpec [⟨"g", ["v1"]⟩])),
  .surround (.serving "b"),
  .pass .bare "b" {},
  .surround (.serving "a"),
  .pass .bare "a" {}]

/-- The statement for a handover without failures. -/
theorem run_deletes_own_handover :
    Initial { cluster := .bare } ∧ DeletedOwn (run State.step { cluster := .bare } (handover {})) :=
  ⟨initial_bare, run_deletes_own initial_bare (by decide +kernel)⟩

/-- No two stored shards want the same version of the same group. -/
def DisjointSpecs (state : State) : Prop :=
  ∀ left ∈ state.cluster.registry.shards.items, ∀ right ∈ state.cluster.registry.shards.items,
    left.uid ≠ right.uid → ∀ pair ∈ versionedGroups left, pair ∉ versionedGroups right

instance (state : State) : Decidable (DisjointSpecs state) :=
  inferInstanceAs (Decidable (∀ left ∈ _, ∀ right ∈ _, _ → ∀ pair ∈ _, _))

/-- The first shard deletes an APIService of the second one. -/
def Event.deletesForeign : Event → Bool
  | .deletedAPIService 0 service => service.controller = some 1
  | _ => false

-- no call fails, but the first shard is not reconciled before the second one takes over
example : Along State.step (fun state _ => DisjointSpecs state) { cluster := .bare }
      ((handover {}).eraseIdx 4) ∧
    (run State.step { cluster := .bare } ((handover {}).eraseIdx 4)).trace.any
      Event.deletesForeign = true := by
  decide +kernel

/-- When the status write of the shard that gives up the name fails, its next pass deletes
the APIService of the other shard. -/
theorem handover_deletes_foreign :
    let steps := handover (.failing [.writeFinal])
    Along State.step (fun state _ => DisjointSpecs state) { cluster := .bare } steps ∧
      ∃ service, .deletedAPIService 0 service ∈ (run State.step { cluster := .bare } steps).trace ∧
        service.controller = some 1 := by
  refine ⟨by decide +kernel, ?_⟩
  have found : (run State.step { cluster := .bare } (handover (.failing [.writeFinal]))).trace.any
      Event.deletesForeign = true := by
    decide +kernel
  obtain ⟨event, membership, bad⟩ := List.any_eq_true.mp found
  unfold Event.deletesForeign at bad
  split at bad
  · next service => exact ⟨service, membership, of_decide_eq_true bad⟩
  · cases bad

end KubeShard.Apishard
