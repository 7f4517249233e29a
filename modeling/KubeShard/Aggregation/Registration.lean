import KubeShard.Aggregation.Apiservice
import KubeShard.Apishard.Frame

/-!
# What registration does to APIServices

The loops that apply and delete APIServices leave everything else alone.  An
APIService that is there afterwards was there before or is now controlled by the
shard; one that was deleted had its name on the list the loop was given.
-/

namespace KubeShard.Aggregation

open Apishard Prog

/-! ## The frame of registration -/

/-- Events about APIServices. -/
def registration : Event → Bool
  | .appliedAPIService _ _ | .deletedAPIService _ _ => true
  | _ => false

/-- What the registration of a shard may change, given the names it may apply and the
names it may delete. -/
structure Registering (ctx : Schedule) (shard : APIShard) (wanted listed : List String)
    (before after : State) : Prop where
  registry : before.cluster.registry.EditedBy ctx.Late after.cluster.registry
  cluster : after.cluster = { before.cluster with
    registry := after.cluster.registry, apiServices := after.cluster.apiServices }
  status : after.status = before.status
  resourceVersion : after.resourceVersion = before.resourceVersion
  tracked : after.tracked = before.tracked
  services : ∀ service ∈ after.cluster.apiServices.items,
    service ∈ before.cluster.apiServices.items ∨
      service.controller = some shard.uid ∧ service.name ∈ wanted
  controllers : ∀ service ∈ after.cluster.apiServices.items, ∀ uid ∈ service.controllers,
    uid = shard.uid ∧ service.name ∈ wanted ∨
      ∃ earlier ∈ before.cluster.apiServices.items,
        earlier.name = service.name ∧ uid ∈ earlier.controllers
  deleted : ∀ uid service, .deletedAPIService uid service ∈ after.trace →
    .deletedAPIService uid service ∈ before.trace ∨
      uid = shard.uid ∧ service.name ∈ listed ∧
        (service ∈ before.cluster.apiServices.items ∨ service.controller = some shard.uid)
  logged : before.Logged registration after

namespace Registering

variable {ctx : Schedule} {shard : APIShard} {wanted listed : List String}

theorem refl (state : State) : Registering ctx shard wanted listed state state :=
  ⟨.refl _, rfl, rfl, rfl, rfl, fun _ => .inl,
    fun service membership _ controller => .inr ⟨service, membership, rfl, controller⟩,
    fun _ _ => .inl, .of_eq rfl⟩

theorem trans {first second third : State} (left : Registering ctx shard wanted listed first second)
    (right : Registering ctx shard wanted listed second third) :
    Registering ctx shard wanted listed first third where
  registry := left.registry.trans right.registry
  cluster := by rw [right.cluster, left.cluster]
  status := right.status.trans left.status
  resourceVersion := right.resourceVersion.trans left.resourceVersion
  tracked := right.tracked.trans left.tracked
  services := by
    intro service membership
    rcases right.services service membership with earlier | own
    · exact left.services service earlier
    · exact .inr own
  controllers := by
    intro service membership uid controller
    rcases right.controllers service membership uid controller with
      own | ⟨middle, inMiddle, name, earlier⟩
    · exact .inl own
    · rw [← name]
      exact left.controllers middle inMiddle uid earlier
  deleted := by
    intro uid service membership
    rcases right.deleted uid service membership with earlier | ⟨same, name, origin⟩
    · exact left.deleted uid service earlier
    · refine .inr ⟨same, name, ?_⟩
      rcases origin with earlier | own
      · rcases left.services service earlier with first | ⟨own, _⟩
        · exact .inl first
        · exact .inr own
      · exact .inr own
  logged := left.logged.trans right.logged

theorem working {before after : State}
    (registering : Registering ctx shard wanted listed before after) :
    Working ctx before after where
  registry := registering.registry
  crds := by rw [registering.cluster]
  resourceVersion := registering.resourceVersion
  distinct := by
    rw [registering.status]
    exact id
  logged := by
    apply registering.logged.mono
    intro event ofKind
    cases event <;> first | rfl | contradiction

end Registering

/-- The frame of registration. -/
def registering (ctx : Schedule) (shard : APIShard) (wanted listed : List String) : Frame State :=
  ⟨Registering ctx shard wanted listed, Registering.refl, Registering.trans⟩

section loops

variable {ctx : Schedule} {shard : APIShard} {wanted listed : List String} {α : Type}

theorem edited_registering {request : Call} (late : request.late = true) (state : State) :
    Registering ctx shard wanted listed state (state.edited ctx request) := by
  have same : Registering ctx shard wanted listed state state := .refl state
  exact ⟨editedBy_late state late, rfl, rfl, rfl, rfl, same.services, same.controllers,
    same.deleted, .of_eq rfl⟩

theorem callAPI_registering {request : Call} {action : Pass α} (late : request.late = true)
    (respects : Respects (registering ctx shard wanted listed) action) :
    Respects (registering ctx shard wanted listed) (callAPI ctx request action) :=
  callAPI_respects (edited_registering late) respects

/-- The controllers of the APIService of a name, if there is one, are those of a stored
APIService. -/
theorem former_stored {services : Store APIService.name} {name : String} {uid : UID}
    (former : uid ∈ (services.find? name).elim [] APIService.controllers) :
    ∃ earlier ∈ services.items, earlier.name = name ∧ uid ∈ earlier.controllers := by
  cases found : services.find? name with
  | none =>
      rw [found] at former
      cases former
  | some earlier =>
      rw [found] at former
      obtain ⟨membership, sameName⟩ := Store.find?_eq_some.mp found
      exact ⟨earlier, membership, sameName, former⟩

theorem applyAPIService_registering {version group : String}
    (name : apiServiceName version group ∈ wanted) (index : Nat) (caBundle : String) :
    Respects (registering ctx shard wanted listed)
      (applyAPIService ctx shard index caBundle version group) := by
  apply callAPI_registering rfl
  intro state
  simp only [exec_bind, exec_get]
  split
  · exact Registering.refl state
  · split
    · exact Registering.refl state
    · refine ⟨.refl _, rfl, rfl, rfl, rfl, ?_, ?_, ?_, .of_one rfl rfl⟩
      · intro service membership
        rcases Store.mem_insert.mp membership with rfl | ⟨earlier, _⟩
        · exact .inr ⟨rfl, name⟩
        · exact .inl earlier
      · intro service membership uid controller
        rcases Store.mem_insert.mp membership with rfl | ⟨earlier, _⟩
        · rcases List.mem_append.mp controller with own | former
          · exact .inl ⟨(Option.some.inj (Option.mem_toList.mp own)).symm, name⟩
          · exact .inr (former_stored (List.mem_filter.mp former).1)
        · exact .inr ⟨service, earlier, rfl, controller⟩
      · intro uid service membership
        rcases List.mem_append.mp membership with earlier | new
        · exact .inl earlier
        · cases List.mem_singleton.mp new

theorem applyAPIServices_registering {pairs : List (String × String)}
    (names : ∀ pair ∈ pairs, apiServiceName pair.1 pair.2 ∈ wanted) (index : Nat)
    (caBundle : String) :
    Respects (registering ctx shard wanted listed)
      (applyAPIServices ctx shard caBundle index pairs) := by
  induction pairs generalizing index with
  | nil => exact .of_pure _
  | cons pair rest ih =>
      have head := names pair List.mem_cons_self
      apply ((applyAPIService_registering head index caBundle).mapError _).bind
      exact fun _ => ih (fun later membership => names later (List.mem_cons_of_mem _ membership)) _

theorem getAPIService_registering {request : Call} (late : request.late = true) (name : String) :
    Respects (registering ctx shard wanted listed) (getAPIService ctx request name) := by
  apply callAPI_registering late
  apply Respects.of_get.bind
  intro state
  cases state.cluster.apiServices.find? name with
  | some service => exact .of_pure service
  | none => exact .of_throw _

/-- A read answers with the stored APIService of the name. -/
theorem getAPIService_ok {request : Call} {name : String} {state after : State}
    {service : APIService}
    (ran : exec (getAPIService ctx request name) state = (.ok service, after)) :
    after = state.edited ctx request ∧
      state.cluster.apiServices.find? name = some service ∧ service.name = name := by
  obtain ⟨_, ran⟩ := exec_callAPI_ok.mp ran
  simp only [exec_bind, exec_get] at ran
  split at ran
  · next stored found =>
      cases ran
      exact ⟨rfl, found, (Store.find?_eq_some.mp found).2⟩
  · cases ran

theorem getAPIService_named {request : Call} {name : String} {state after : State}
    {answer : Except ApiError APIService}
    (ran : exec (getAPIService ctx request name).attempt state = (.ok answer, after)) :
    ∀ service, answer = .ok service → service.name = name := by
  intro service isOk
  rw [exec_attempt_eq_ok, isOk] at ran
  exact (getAPIService_ok ran).2.2

theorem deleteAPIService_registering {request : Call} (late : request.late = true)
    {name : String} (onList : name ∈ listed) :
    Respects (registering ctx shard wanted listed) (deleteAPIService ctx shard request name) := by
  apply callAPI_registering late
  intro state
  simp only [exec_bind, exec_get]
  split
  · next service found =>
      refine ⟨.refl _, rfl, rfl, rfl, rfl, ?_, ?_, ?_, .of_one rfl rfl⟩
      · exact fun service membership => .inl (Store.mem_erase.mp membership).1
      · exact fun service membership _ controller =>
          .inr ⟨service, (Store.mem_erase.mp membership).1, rfl, controller⟩
      · intro uid deleted membership
        rcases List.mem_append.mp membership with earlier | new
        · exact .inl earlier
        · cases List.mem_singleton.mp new
          obtain ⟨stored, sameName⟩ := Store.find?_eq_some.mp found
          exact .inr ⟨rfl, sameName ▸ onList, .inl stored⟩
  · exact Registering.refl state

theorem deleteOrphanedAPIServices_registering {names : List String} (onList : names ⊆ listed)
    (index : Nat) :
    Respects (registering ctx shard wanted listed)
      (deleteOrphanedAPIServices ctx shard wanted index names) := by
  induction names generalizing index with
  | nil => exact .of_pure _
  | cons name rest ih =>
      have continues (index : Nat) := ih (List.subset_of_cons_subset onList) index
      rw [deleteOrphanedAPIServices]
      split
      · exact continues _
      · apply Respects.bind_of_returns (getAPIService_registering rfl name).attempt
          (P := fun answer => ∀ service, answer = .ok service → service.name = name)
        · exact fun state answer after ran => getAPIService_named ran
        · intro answer named
          cases answer with
          | error failure => exact .ite (continues _) (.of_throw _)
          | ok existing =>
              dsimp only
              rw [named existing rfl]
              have onList := onList List.mem_cons_self
              exact ((deleteAPIService_registering rfl onList).mapError _).bind
                fun _ => continues _

theorem reconcile_registering (caBundle : String) :
    Respects (registering ctx shard (desiredAPIServiceNames shard) listed)
      (reconcile ctx shard caBundle listed) := by
  have names : ∀ pair ∈ versionedGroups shard,
      apiServiceName pair.1 pair.2 ∈ desiredAPIServiceNames shard := by
    intro pair membership
    exact List.mem_map_of_mem (f := fun pair => apiServiceName pair.1 pair.2) membership
  apply (applyAPIServices_registering names 0 caBundle).bind
  intro _
  apply (deleteOrphanedAPIServices_registering (List.Subset.refl _) 0).bind
  exact fun _ => .of_pure _

theorem deregister_registering {names : List String} (onList : names ⊆ listed) (index : Nat) :
    Respects (registering ctx shard [] listed) (deregister ctx shard index names) := by
  induction names generalizing index with
  | nil => exact .of_pure _
  | cons name rest ih =>
      have continues (index : Nat) := ih (List.subset_of_cons_subset onList) index
      apply Respects.bind_of_returns (getAPIService_registering rfl name).attempt
        (P := fun answer => ∀ service, answer = .ok service → service.name = name)
      · exact fun state answer after ran => getAPIService_named ran
      · intro answer named
        cases answer with
        | error failure => exact .ite (continues _) (.of_throw _)
        | ok service =>
            have serviceListed : service.name ∈ listed :=
              named service rfl ▸ onList List.mem_cons_self
            apply (deleteAPIService_registering rfl serviceListed).attempt.bind
            intro outcome
            cases outcome with
            | ok value => exact continues _
            | error failure => exact .ite (continues _) (.of_throw _)

end loops

/-! ## What the apply loop achieves -/

/-- The shard controls the APIService of this name. -/
def Held (uid : UID) (name : String) (state : State) : Prop :=
  ∃ service, state.cluster.apiServices.find? name = some service ∧
    service.controller = some uid

section apply

variable {ctx : Schedule} {shard : APIShard} {caBundle : String}

/-- Applying an APIService, spelled out. -/
theorem applyAPIService_ok {index : Nat} {version group : String} {state after : State}
    (ran : exec (applyAPIService ctx shard index caBundle version group) state =
      (.ok (), after)) :
    ∃ service, service.name = apiServiceName version group ∧
      service.controller = some shard.uid ∧
      after.cluster.apiServices = state.cluster.apiServices.insert service := by
  obtain ⟨_, ran⟩ := exec_callAPI_ok.mp ran
  simp only [exec_bind, exec_get] at ran
  split at ran
  · cases ran
  · split at ran
    · cases ran
    · cases ran
      exact ⟨_, rfl, rfl, rfl⟩

/-- A later apply does not take an APIService from its shard. -/
theorem applyAPIService_held (index : Nat) (version group name : String) :
    Respects (.keeps (Held shard.uid name))
      (applyAPIService ctx shard index caBundle version group) := by
  apply callAPI_respects (fun _ => id)
  intro state held
  simp only [exec_bind, exec_get]
  split
  · exact held
  · split
    · exact held
    · by_cases same : name = apiServiceName version group
      · rw [same]
        exact ⟨_, Store.find?_insert_self _ _, rfl⟩
      · obtain ⟨service, found, controller⟩ := held
        refine ⟨service, ?_, controller⟩
        refine (Store.find?_insert_of_ne ?_).trans found
        exact same

theorem applyAPIServices_held (index : Nat) (pairs : List (String × String)) (name : String) :
    Respects (.keeps (Held shard.uid name))
      (applyAPIServices ctx shard caBundle index pairs) := by
  induction pairs generalizing index with
  | nil => exact .of_pure _
  | cons pair rest ih =>
      exact ((applyAPIService_held index _ _ name).mapError _).bind fun _ => ih _

/-- Once the apply loop has returned, the shard controls all APIServices it went
through. -/
theorem applyAPIServices_ok {index : Nat} {pairs : List (String × String)}
    {state after : State}
    (ran : exec (applyAPIServices ctx shard caBundle index pairs) state = (.ok (), after)) :
    ∀ pair ∈ pairs, Held shard.uid (apiServiceName pair.1 pair.2) after := by
  induction pairs generalizing index state with
  | nil => simp
  | cons pair rest ih =>
      obtain ⟨_, middle, first, others⟩ := exec_bind_eq_ok.mp ran
      obtain ⟨service, name, controller, inserted⟩ :=
        applyAPIService_ok (exec_mapError_eq_ok.mp first)
      have head : Held shard.uid (apiServiceName pair.1 pair.2) middle := by
        refine ⟨service, ?_, controller⟩
        rw [inserted, ← name]
        exact Store.find?_insert_self _ _
      intro wanted membership
      rcases List.mem_cons.mp membership with rfl | inRest
      · exact (applyAPIServices_held _ rest _).rel others head
      · exact ih others wanted inRest

end apply

/-! ## What the deletion loops achieve -/

/-- There is no APIService of this name. -/
def Absent (name : String) (state : State) : Prop :=
  state.cluster.apiServices.find? name = none

section delete

variable {ctx : Schedule} {shard : APIShard} {name : String}

/-- The call does not report a missing object without asking the store. -/
def Truthful (ctx : Schedule) (request : Call) : Prop :=
  ∀ failure, ctx.faults request = some failure → failure.isNotFound = false

/-- When a call reports a missing object, the object is missing. -/
theorem callAPI_notFound {α : Type} {request : Call} {action : Pass α}
    (truthful : Truthful ctx request)
    (missing : ∀ state failure after, exec action state = (.error failure, after) →
      Absent name after)
    {state after : State} {failure : ApiError}
    (ran : exec (callAPI ctx request action) state = (.error failure, after))
    (notFound : failure.isNotFound = true) : Absent name after := by
  cases faults : ctx.faults request with
  | some fault =>
      rw [exec_callAPI_some faults] at ran
      cases ran
      rw [truthful _ faults] at notFound
      contradiction
  | none =>
      rw [exec_callAPI_none faults] at ran
      exact missing _ _ _ ran

theorem getAPIService_notFound {request : Call} (truthful : Truthful ctx request)
    {state after : State} {failure : ApiError}
    (ran : exec (getAPIService ctx request name) state = (.error failure, after))
    (notFound : failure.isNotFound = true) : Absent name after := by
  refine callAPI_notFound truthful ?_ ran notFound
  intro state failure after ran
  simp only [exec_bind, exec_get] at ran
  split at ran
  · cases ran
  · next missing =>
      cases ran
      exact missing

theorem deleteAPIService_ok {request : Call} {state after : State}
    (ran : exec (deleteAPIService ctx shard request name) state = (.ok (), after)) :
    Absent name after := by
  obtain ⟨_, ran⟩ := exec_callAPI_ok.mp ran
  simp only [exec_bind, exec_get] at ran
  split at ran
  · cases ran
    exact Store.find?_erase_self _ _
  · cases ran

theorem deleteAPIService_notFound {request : Call} (truthful : Truthful ctx request)
    {state after : State} {failure : ApiError}
    (ran : exec (deleteAPIService ctx shard request name) state = (.error failure, after))
    (notFound : failure.isNotFound = true) : Absent name after := by
  refine callAPI_notFound truthful ?_ ran notFound
  intro state failure after ran
  simp only [exec_bind, exec_get] at ran
  split at ran
  · cases ran
  · next missing =>
      cases ran
      exact missing

/-- A deletion brings no APIService back. -/
theorem deleteAPIService_absent (request : Call) (deleted : String) :
    Respects (.keeps (Absent name)) (deleteAPIService ctx shard request deleted) := by
  apply callAPI_respects (fun _ => id)
  intro state absent
  simp only [exec_bind, exec_get]
  split
  · by_cases same : name = deleted
    · rw [same]
      exact Store.find?_erase_self _ _
    · exact (Store.find?_erase_of_ne same).trans absent
  · exact absent

theorem getAPIService_same (request : Call) (read : String) (state : State) :
    (exec (getAPIService ctx request read) state).2 = state.edited ctx request := by
  cases faults : ctx.faults request with
  | some failure => rw [getAPIService, exec_callAPI_some faults]
  | none =>
      rw [getAPIService, exec_callAPI_none faults]
      simp only [exec_bind, exec_get]
      split <;> rfl

theorem deleteOrphanedAPIServices_absent (desired : List String) (index : Nat)
    (names : List String) :
    Respects (.keeps (Absent name))
      (deleteOrphanedAPIServices ctx shard desired index names) := by
  induction names generalizing index with
  | nil => exact .of_pure _
  | cons head rest ih =>
      apply Respects.ite (ih _)
      apply Respects.bind
      · apply Respects.attempt
        intro state
        rw [getAPIService_same]
        exact id
      · intro answer
        cases answer with
        | error failure => exact .ite (ih _) (.of_throw _)
        | ok existing => exact ((deleteAPIService_absent _ _).mapError _).bind fun _ => ih _

/-- Once the loop has returned, the listed names that are not wanted are gone. -/
theorem deleteOrphanedAPIServices_ok (truthful : ∀ index, Truthful ctx (.getOrphan index))
    {desired : List String} {index : Nat} {names : List String} {state after : State}
    (ran : exec (deleteOrphanedAPIServices ctx shard desired index names) state =
      (.ok (), after)) :
    ∀ name ∈ names, name ∉ desired → Absent name after := by
  induction names generalizing index state with
  | nil => simp
  | cons head rest ih =>
      rw [deleteOrphanedAPIServices] at ran
      split at ran
      · next wanted =>
          intro name membership unwanted
          rcases List.mem_cons.mp membership with rfl | inRest
          · exact absurd wanted unwanted
          · exact ih ran name inRest unwanted
      · obtain ⟨answer, middle, read, others⟩ := exec_bind_eq_ok.mp ran
        rw [exec_attempt_eq_ok] at read
        -- in both branches that go on, the name is gone by then
        have goes : ∃ later, Absent head later ∧
            exec (deleteOrphanedAPIServices ctx shard desired (index + 1) rest) later =
              (.ok (), after) := by
          cases answer with
          | error failure =>
              dsimp only at others
              split at others
              · next notFound =>
                  exact ⟨_, getAPIService_notFound (truthful index) read notFound,
                    others⟩
              · cases others
          | ok existing =>
              obtain ⟨_, later, deleted, others⟩ := exec_bind_eq_ok.mp others
              have named := (getAPIService_ok read).2.2
              rw [exec_mapError_eq_ok, named] at deleted
              exact ⟨later, deleteAPIService_ok deleted, others⟩
        obtain ⟨later, gone, continued⟩ := goes
        intro name membership unwanted
        rcases List.mem_cons.mp membership with rfl | inRest
        · exact (deleteOrphanedAPIServices_absent desired _ rest).rel continued gone
        · exact ih continued name inRest unwanted

theorem deregister_absent (index : Nat) (names : List String) :
    Respects (.keeps (Absent name)) (deregister ctx shard index names) := by
  induction names generalizing index with
  | nil => exact .of_pure _
  | cons head rest ih =>
      apply Respects.bind
      · apply Respects.attempt
        intro state
        rw [getAPIService_same]
        exact id
      · intro answer
        cases answer with
        | error failure => exact .ite (ih _) (.of_throw _)
        | ok service =>
            apply (deleteAPIService_absent _ _).attempt.bind
            intro outcome
            cases outcome with
            | ok value => exact ih _
            | error failure => exact .ite (ih _) (.of_throw _)

/-- Once the finalizer's loop has returned, all listed names are gone. -/
theorem deregister_ok (getTruthful : ∀ index, Truthful ctx (.finalizerGet index))
    (deleteTruthful : ∀ index, Truthful ctx (.finalizerDelete index))
    {index : Nat} {names : List String} {state after : State}
    (ran : exec (deregister ctx shard index names) state = (.ok (), after)) :
    ∀ name ∈ names, Absent name after := by
  induction names generalizing index state with
  | nil => simp
  | cons head rest ih =>
      obtain ⟨answer, middle, read, others⟩ := exec_bind_eq_ok.mp ran
      rw [exec_attempt_eq_ok] at read
      have goes : ∃ later, Absent head later ∧
          exec (deregister ctx shard (index + 1) rest) later = (.ok (), after) := by
        cases answer with
        | error failure =>
            dsimp only at others
            split at others
            · next notFound =>
                exact ⟨_, getAPIService_notFound (getTruthful index) read notFound,
                  others⟩
            · cases others
        | ok service =>
            obtain ⟨outcome, later, deleted, others⟩ := exec_bind_eq_ok.mp others
            rw [exec_attempt_eq_ok] at deleted
            rw [(getAPIService_ok read).2.2] at deleted
            cases outcome with
            | ok value => exact ⟨_, deleteAPIService_ok deleted, others⟩
            | error failure =>
                dsimp only at others
                split at others
                · next notFound =>
                    exact ⟨_, deleteAPIService_notFound (deleteTruthful index)
                      deleted notFound, others⟩
                · cases others
      obtain ⟨later, gone, continued⟩ := goes
      intro name membership
      rcases List.mem_cons.mp membership with rfl | inRest
      · exact (deregister_absent _ rest).rel continued gone
      · exact ih continued name inRest

/-- The deletion loop spares the APIServices that are wanted. -/
theorem deleteOrphanedAPIServices_held {uid : UID} {desired : List String}
    (wanted : name ∈ desired) (index : Nat) (names : List String) :
    Respects (.keeps (Held uid name))
      (deleteOrphanedAPIServices ctx shard desired index names) := by
  induction names generalizing index with
  | nil => exact .of_pure _
  | cons head rest ih =>
      rw [deleteOrphanedAPIServices]
      split
      · exact ih _
      · next unwanted =>
          apply Respects.bind_of_returns
            (P := fun answer => ∀ service, answer = .ok service → service.name = head)
          · apply Respects.attempt
            intro state
            rw [getAPIService_same]
            exact id
          · intro state answer after ran service isOk
            rw [exec_attempt_eq_ok, isOk] at ran
            exact (getAPIService_ok ran).2.2
          · intro answer named
            cases answer with
            | error failure => exact .ite (ih _) (.of_throw _)
            | ok existing =>
                have other : name ≠ existing.name := by
                  rw [named existing rfl]
                  exact fun same => unwanted (same ▸ wanted)
                have spared : Respects (.keeps (Held uid name))
                    (deleteAPIService ctx shard (.deleteOrphan index) existing.name) := by
                  apply callAPI_respects (fun _ => id)
                  intro state held
                  simp only [exec_bind, exec_get]
                  split
                  · obtain ⟨service, found, controller⟩ := held
                    exact ⟨service, (Store.find?_erase_of_ne other).trans found, controller⟩
                  · exact held
                exact (spared.mapError _).bind fun _ => ih _

end delete

/-! ## The whole registration -/

/-- What a registration that returns has achieved. -/
theorem reconcile_ok {ctx : Schedule} {shard : APIShard} {caBundle : String}
    {previous names : List String} {state after : State}
    (ran : exec (reconcile ctx shard caBundle previous) state = (.ok names, after)) :
    names = desiredAPIServiceNames shard ∧
      (∀ name ∈ desiredAPIServiceNames shard, Held shard.uid name after) ∧
      ((∀ index, Truthful ctx (.getOrphan index)) →
        ∀ name ∈ previous, name ∉ desiredAPIServiceNames shard → Absent name after) := by
  obtain ⟨_, applied, first, rest⟩ := exec_bind_eq_ok.mp ran
  obtain ⟨_, last, second, returned⟩ := exec_bind_eq_ok.mp rest
  cases returned
  refine ⟨rfl, ?_, fun truthful => deleteOrphanedAPIServices_ok truthful second⟩
  intro name membership
  obtain ⟨pair, wanted, rfl⟩ := List.mem_map.mp membership
  exact (deleteOrphanedAPIServices_held membership 0 previous).rel second
    (applyAPIServices_ok first pair wanted)

end KubeShard.Aggregation

namespace KubeShard.Apishard

open Prog Aggregation

theorem getObject_same (ctx : Schedule) (request : Call) (key : ObjectKey) (state : State) :
    (exec (getObject ctx request key) state).2 = state.edited ctx request := by
  cases faults : ctx.faults request with
  | some failure => rw [getObject, exec_callAPI_some faults]
  | none =>
      rw [getObject, exec_callAPI_none faults]
      simp only [exec_bind, exec_get]
      split <;> rfl

/-- The registration step reads the TLS secret, registers, and takes over the list
of names when that returned. -/
theorem reconcileAPIServices_cases (ctx : Schedule) (shard : APIShard) (state : State) :
    let read := state.edited ctx .getTLSSecret
    (∃ failure, exec (reconcileAPIServices ctx shard) state = (.error failure, read)) ∨
    ∃ caBundle,
      (∃ failure after,
        exec (Aggregation.reconcile ctx shard caBundle state.status.registeredAPIServices) read =
          (.error failure, after) ∧
        exec (reconcileAPIServices ctx shard) state = (.error failure, after)) ∨
      (∃ after,
        exec (Aggregation.reconcile ctx shard caBundle state.status.registeredAPIServices) read =
          (.ok (desiredAPIServiceNames shard), after) ∧
        exec (reconcileAPIServices ctx shard) state = (.ok (), { after with
          status.registeredAPIServices := desiredAPIServiceNames shard })) := by
  dsimp only
  simp only [reconcileAPIServices, exec_bind, exec_attempt, getObject_same]
  cases (exec (getObject ctx .getTLSSecret
      (targetKey shard .secret (Resources.pkiSecretName shard))) state).1 with
  | error failure =>
      left
      dsimp only
      split
      · exact ⟨_, rfl⟩
      · exact ⟨_, rfl⟩
  | ok secret =>
      right
      refine ⟨secret.entry Resources.caCertKey, ?_⟩
      dsimp only
      cases ran : exec (Aggregation.reconcile ctx shard (secret.entry Resources.caCertKey)
          state.status.registeredAPIServices) (state.edited ctx .getTLSSecret) with
      | mk answer after =>
          cases answer with
          | error failure =>
              left
              refine ⟨failure, after, rfl, ?_⟩
              simp only [exec_bind, exec_get, State.edited_status, ran]
          | ok names =>
              right
              obtain ⟨rfl, _⟩ := reconcile_ok ran
              refine ⟨after, rfl, ?_⟩
              simp only [exec_bind, exec_get, State.edited_status, ran, exec_modify]

section reconcileAPIServices

variable {ctx : Schedule} {shard : APIShard} {state after : State}

/-- A registration that fails has not touched the status. -/
theorem reconcileAPIServices_error {failure : ApiError}
    (ran : exec (reconcileAPIServices ctx shard) state = (.error failure, after)) :
    Registering ctx shard (desiredAPIServiceNames shard) state.status.registeredAPIServices
      state after := by
  have read : Registering ctx shard (desiredAPIServiceNames shard)
      state.status.registeredAPIServices state (state.edited ctx .getTLSSecret) :=
    edited_registering rfl state
  rcases reconcileAPIServices_cases ctx shard state with ⟨failure, failed⟩ | ⟨caBundle, cases⟩
  · rw [failed] at ran
    cases ran
    exact read
  · rcases cases with ⟨failure, last, registered, failed⟩ | ⟨last, registered, returned⟩
    · rw [failed] at ran
      cases ran
      exact read.trans ((reconcile_registering caBundle).rel registered)
    · rw [returned] at ran
      cases ran

/-- A registration that returns has the shard control what its spec names. -/
theorem reconcileAPIServices_ok
    (ran : exec (reconcileAPIServices ctx shard) state = (.ok (), after)) :
    ∃ registered, Registering ctx shard (desiredAPIServiceNames shard)
        state.status.registeredAPIServices state registered ∧
      (∀ name ∈ desiredAPIServiceNames shard, Held shard.uid name registered) ∧
      ((∀ index, Truthful ctx (.getOrphan index)) →
        ∀ name ∈ state.status.registeredAPIServices, name ∉ desiredAPIServiceNames shard →
          Absent name registered) ∧
      after = { registered with
        status.registeredAPIServices := desiredAPIServiceNames shard } := by
  have read : Registering ctx shard (desiredAPIServiceNames shard)
      state.status.registeredAPIServices state (state.edited ctx .getTLSSecret) :=
    edited_registering rfl state
  rcases reconcileAPIServices_cases ctx shard state with ⟨failure, failed⟩ | ⟨caBundle, cases⟩
  · rw [failed] at ran
    cases ran
  · rcases cases with ⟨failure, last, registered, failed⟩ | ⟨last, registered, returned⟩
    · rw [failed] at ran
      cases ran
    · rw [returned] at ran
      cases ran
      obtain ⟨_, held, gone⟩ := reconcile_ok registered
      exact ⟨last, read.trans ((reconcile_registering caBundle).rel registered), held, gone, rfl⟩

end reconcileAPIServices

end KubeShard.Apishard
