import KubeShard.Apishard.Desired
import KubeShard.Apishard.Status

/-!
# What a pass applies and tracks

The objects a pass has applied when it comes to its cleanup, and the ones it has tracked, follow
from the spec, the capabilities found at start-up, the calls that failed and a few objects it has
read.  Most steps apply a fixed list of components and stop at the first that is refused.
Nothing that is read has been applied before, so the inputs are those of the cluster the pass
began with.
-/

namespace KubeShard.Apishard

open Resources Prog

/-! ## Applying objects -/

theorem merging_object : Merging Object.key Object.merge :=
  ⟨fun _ _ => rfl, fun _ _ => rfl, fun _ => rfl⟩

theorem Cluster.merge_eq (cluster : Cluster) (object : Object) :
    cluster.merge object = cluster.objects.merged Object.merge object := by
  rw [Cluster.merge, Store.merged]
  cases cluster.objects.find? object.key <;> rfl

/-- The object has the label of a shard. -/
def Object.owned (object : Object) : Bool := object.owner.isSome

/-- These objects were applied in this order, and the owned ones were tracked; no other object
was touched. -/
structure Lays (applied : List Object) (before after : State) : Prop where
  objects : after.cluster.objects =
    Assign.applyAll (Store.overlay Object.merge) applied before.cluster.objects
  unserved : after.cluster.unserved = before.cluster.unserved
  tracked : after.tracked = before.tracked ++ (applied.filter Object.owned).map Object.key

theorem Applied.same {before after : State} (applied : Applied [] before after) :
    after.tracked = before.tracked := by
  rw [applied.tracked, List.append_nil]

namespace Lays

variable {objects : List Object} {before after : State}

theorem none (objects : after.cluster.objects = before.cluster.objects)
    (unserved : after.cluster.unserved = before.cluster.unserved)
    (tracked : after.tracked = before.tracked) : Lays [] before after :=
  ⟨objects, unserved, tracked.trans (List.append_nil _).symm⟩

theorem of_still {ctx : Schedule} (still : Still ctx before after) : Lays [] before after :=
  .none still.objects still.unserved still.untouched.same

theorem trans {left right : List Object} {first second third : State}
    (former : Lays left first second) (latter : Lays right second third) :
    Lays (left ++ right) first third where
  objects := by rw [latter.objects, former.objects, Assign.applyAll_append]
  unserved := latter.unserved.trans former.unserved
  tracked := by
    rw [latter.tracked, former.tracked, List.filter_append, List.map_append, List.append_assoc]

/-- What is not applied stays. -/
theorem read (lays : Lays objects before after) {key : ObjectKey}
    (other : key ∉ objects.map Object.key) :
    after.cluster.objects.find? key = before.cluster.objects.find? key := by
  rw [lays.objects]
  exact Store.find?_overlayAll_of_notMem merging_object other _

/-- What is applied last under a key is stored. -/
theorem stored (lays : Lays objects before after) {key : ObjectKey}
    (membership : key ∈ objects.map Object.key) :
    ∃ object ∈ objects, object.key = key ∧ ∃ live,
      after.cluster.objects.find? key = some live ∧ live.spec = object.spec := by
  rw [lays.objects]
  obtain ⟨object, inObjects, isKey, earlier, found⟩ :=
    Store.find?_overlayAll_of_mem merging_object membership before.cluster.objects
  refine ⟨object, inObjects, isKey, _, found, ?_⟩
  unfold Store.merged
  split <;> rfl

section components

variable {r : Reconciler} {shard : APIShard} {given : Inputs} {components : List Component}

/-- Applying components leaves other objects alone. -/
theorem beside (lays : Lays (components.map (given.object r shard)) before after)
    {key : ObjectKey} (other : ∀ component ∈ components, component.key shard ≠ key) :
    after.cluster.objects.find? key = before.cluster.objects.find? key := by
  apply lays.read
  rw [map_key_object]
  intro membership
  obtain ⟨component, inComponents, same⟩ := List.mem_map.mp membership
  exact other component inComponents same

/-- The credentials for the admin kubeconfig are none of the components. -/
theorem credentials (lays : Lays (components.map (given.object r shard)) before after) :
    Apishard.credentials shard after.cluster = Apishard.credentials shard before.cluster := by
  have pki : after.cluster.objects.find? (targetKey shard .secret (pkiSecretName shard)) =
      before.cluster.objects.find? (targetKey shard .secret (pkiSecretName shard)) :=
    lays.beside fun component _ => component.key_ne_secret (by decide +kernel)
  have admin : after.cluster.objects.find?
        (targetKey shard .secret (adminClientSecretName shard)) =
      before.cluster.objects.find? (targetKey shard .secret (adminClientSecretName shard)) :=
    lays.beside fun component _ => component.key_ne_secret (by decide +kernel)
  rw [Apishard.credentials, Apishard.credentials, pki, admin]

/-- Nor is the CA of the primary's front proxy. -/
theorem authentication (lays : Lays (components.map (given.object r shard)) before after)
    (belong : ∀ component ∈ components, component.belongs shard) :
    after.cluster.objects.find? authenticationKey =
      before.cluster.objects.find? authenticationKey :=
  lays.beside fun component membership =>
    Component.key_ne_authentication (belong component membership)

end components

end Lays

/-- Applying an object to the cluster. -/
theorem exec_applyObject (object : Object) (state : State) :
    exec (applyObject object) state =
      if state.cluster.unserved object.key.kind then
        (.error ⟨.fault .noMatch, "no matches for kind"⟩, state)
      else
        (.ok (), { state with
          cluster.objects := state.cluster.objects.overlay Object.merge object
          trace := state.trace ++ [.applied object.key object.data] }) := by
  rw [applyObject, exec_bind, exec_get]
  dsimp only
  split
  · rfl
  · rw [exec_modify, Store.overlay, ← Cluster.merge_eq]

/-- Applying an object without ownership. -/
theorem callAPI_lays {ctx : Schedule} {request : Call} {object : Object} {state after : State}
    (unowned : object.owned = false)
    (ran : exec (callAPI ctx request (applyObject object)) state = (.ok (), after)) :
    Lays [object] state after := by
  have ran := (exec_callAPI_ok.mp ran).2
  rw [exec_applyObject] at ran
  split at ran
  · cases ran
  · cases ran
    exact ⟨rfl, rfl, by rw [List.filter_cons, unowned]; exact (List.append_nil _).symm⟩

/-! ## Chains of components -/

section chains

variable {ctx : Schedule} {shard : APIShard} {object : Component → Object}

/-- A component is applied and tracked, or nothing is. -/
theorem applyOwned_cases (ctx : Schedule) (shard : APIShard) (component : Component)
    (data : List (String × String)) (spec : ObjectSpec) (state : State) :
    (clear ctx state.cluster component = true ∧
      ∃ after, exec (applyOwned ctx shard component data spec) state = (.ok (), after) ∧
        Lays [{ key := component.key shard, owner := some shard.name, data, spec }] state after) ∨
    (clear ctx state.cluster component = false ∧
      ∃ failure after, exec (applyOwned ctx shard component data spec) state =
          (.error failure, after) ∧ Lays [] state after) := by
  cases faults : ctx.faults (.apply component) with
  | some failure =>
      right
      rw [applyOwned, applyOwnedObject, exec_callAPI_some faults]
      exact ⟨by simp [clear, faults], failure, _, rfl, .none rfl rfl rfl⟩
  | none =>
      have isClear : clear ctx state.cluster component =
          !(state.edited ctx (.apply component)).cluster.unserved (component.key shard).kind := by
        rw [clear, faults]
        rfl
      rw [applyOwned, applyOwnedObject, exec_callAPI_none faults, exec_bind, exec_applyObject,
        isClear]
      cases (state.edited ctx (.apply component)).cluster.unserved (component.key shard).kind with
      | true => exact .inr ⟨rfl, _, _, rfl, .none rfl rfl rfl⟩
      | false => exact .inl ⟨rfl, _, rfl, rfl, rfl, rfl⟩

/-- The program applies these components as these objects, in turn, and stops at the first that
is refused. -/
structure Chained (ctx : Schedule) (object : Component → Object) (program : Pass Unit)
    (components : List Component) : Prop where
  lays : ∀ state, Lays ((components.takeWhile (clear ctx state.cluster)).map object) state
    (exec program state).2
  returns : ∀ state, (exec program state).1 = .ok () ↔
    ∀ component ∈ components, clear ctx state.cluster component = true

namespace Chained

theorem nil : Chained ctx object (pure ()) [] :=
  ⟨fun _ => .none rfl rfl rfl, fun _ => by simp⟩

theorem apply {component : Component} {data : List (String × String)} {spec : ObjectSpec}
    (isObject : object component =
      { key := component.key shard, owner := some shard.name, data, spec })
    (rewrite : ApiError → ApiError) :
    Chained ctx object ((applyOwned ctx shard component data spec).mapError rewrite)
      [component] where
  lays := by
    intro state
    rcases applyOwned_cases ctx shard component data spec state with
      ⟨isClear, after, ran, lays⟩ | ⟨blocked, failure, after, ran, lays⟩
    · rw [exec_mapError, ran, List.takeWhile_cons, isClear]
      rw [← isObject] at lays
      exact lays
    · rw [exec_mapError, ran, List.takeWhile_cons, blocked]
      exact lays
  returns := by
    intro state
    rcases applyOwned_cases ctx shard component data spec state with
      ⟨isClear, after, ran, _⟩ | ⟨blocked, failure, after, ran, _⟩
    · rw [exec_mapError, ran]
      simp [isClear]
    · rw [exec_mapError, ran]
      simp [blocked]

/-- A refused component ends a list early. -/
theorem takeWhile_append_of_neg {α : Type} {p : α → Bool} {left : List α} (right : List α)
    (refused : ¬∀ item ∈ left, p item = true) :
    (left ++ right).takeWhile p = left.takeWhile p := by
  induction left with
  | nil => exact absurd (by simp) refused
  | cons item rest ih =>
      cases accepted : p item with
      | false => simp [accepted]
      | true =>
          have later : ¬∀ item ∈ rest, p item = true := by
            intro all
            apply refused
            simpa [accepted] using all
          simp [accepted, ih later]

theorem bind {first second : Pass Unit} {left right : List Component}
    (former : Chained ctx object first left) (latter : Chained ctx object second right) :
    Chained ctx object (first >>= fun _ => second) (left ++ right) where
  lays := by
    intro state
    have lays := former.lays state
    have returns := former.returns state
    rw [exec_bind]
    generalize exec first state = ran at lays returns ⊢
    obtain ⟨answer, middle⟩ := ran
    cases answer with
    | error failure =>
        have refused : ¬∀ component ∈ left, clear ctx state.cluster component = true :=
          fun all => absurd (returns.mpr all) nofun
        rw [takeWhile_append_of_neg right refused]
        exact lays
    | ok value =>
        have all := returns.mp rfl
        rw [List.takeWhile_append_of_pos all, List.map_append]
        rw [List.takeWhile_eq_self_iff.mpr all] at lays
        have rest := latter.lays middle
        rw [clear_congr ctx lays.unserved] at rest
        exact lays.trans rest
  returns := by
    intro state
    have unserved := (former.lays state).unserved
    have returns := former.returns state
    rw [exec_bind]
    generalize exec first state = ran at unserved returns ⊢
    obtain ⟨answer, middle⟩ := ran
    cases answer with
    | error failure =>
        constructor
        · nofun
        · intro all
          exact absurd (returns.mpr fun component membership =>
            all component (List.mem_append_left _ membership)) nofun
    | ok value =>
        have rest := latter.returns middle
        rw [clear_congr ctx unserved] at rest
        rw [rest, List.forall_mem_append]
        exact (and_iff_right (returns.mp rfl)).symm

theorem cons {first second : Pass Unit} {component : Component} {rest : List Component}
    (former : Chained ctx object first [component])
    (latter : Chained ctx object second rest) :
    Chained ctx object (first >>= fun _ => second) (component :: rest) :=
  former.bind latter

theorem ite {condition : Prop} [Decidable condition] {first second : Pass Unit}
    {left right : List Component} (former : Chained ctx object first left)
    (latter : Chained ctx object second right) :
    Chained ctx object (if condition then first else second)
      (if condition then left else right) := by
  split
  · exact former
  · exact latter

/-- A chain that returns has applied all of its components. -/
theorem ok {program : Pass Unit} {components : List Component} {state after : State}
    (chained : Chained ctx object program components)
    (ran : exec program state = (.ok (), after)) : Lays (components.map object) state after := by
  have lays := chained.lays state
  have returns := chained.returns state
  rw [ran] at lays returns
  rwa [List.takeWhile_eq_self_iff.mpr (returns.mp rfl)] at lays

end Chained

/-- Applying one component, with success. -/
theorem applyOwned_lays {component : Component} {data : List (String × String)}
    {spec : ObjectSpec} {rewrite : ApiError → ApiError} {object : Object} {state after : State}
    (isObject : object = { key := component.key shard, owner := some shard.name, data, spec })
    (ran : exec ((applyOwned ctx shard component data spec).mapError rewrite) state =
      (.ok (), after)) : Lays [object] state after := by
  have chained : Chained ctx (fun _ => object)
      ((applyOwned ctx shard component data spec).mapError rewrite) [component] :=
    .apply isObject rewrite
  exact chained.ok ran

end chains

/-! ## Steps that apply a fixed list -/

section fixed

variable {r : Reconciler} {ctx : Schedule} {shard : APIShard} (given : Inputs)

/-- The object is the same whatever the inputs are. -/
def Inputs.Steady (given : Inputs) (r : Reconciler) (shard : APIShard) (component : Component) :
    Prop :=
  given.data shard component = [] ∧ given.spec r shard component = component.spec shard

theorem Inputs.steady_of_certificates {component : Component}
    (isStep : step component = .certificates) : given.Steady r shard component := by
  cases component <;>
    first
      | exact ⟨rfl, rfl⟩
      | cases isStep

/-- Applying a component that does not depend on the inputs. -/
theorem Chained.steady {component : Component} (steady : given.Steady r shard component)
    (rewrite : ApiError → ApiError) :
    Chained ctx (given.object r shard) ((applyOwned ctx shard component).mapError rewrite)
      [component] := by
  apply Chained.apply
  rw [Inputs.object, steady.1, steady.2]

theorem applyCertResources_chained {resources : List Component}
    (steady : ∀ resource ∈ resources, given.Steady r shard resource) :
    Chained ctx (given.object r shard) (applyCertResources ctx shard resources) resources := by
  induction resources with
  | nil => exact .nil
  | cons resource rest ih =>
      rw [List.forall_mem_cons] at steady
      exact (Chained.steady given steady.1 _).bind (ih steady.2)

theorem reconcileCertManager_chained :
    Chained ctx (given.object r shard) (reconcileCertManager ctx shard)
      (buildCertResources shard) :=
  applyCertResources_chained given fun component membership =>
    given.steady_of_certificates (step_of_certificates shard component membership)

theorem reconcileAPIServerSCC_chained :
    Chained ctx (given.object r shard) (reconcileAPIServerSCC r ctx shard) (sccComponents r) := by
  unfold reconcileAPIServerSCC sccComponents
  cases r.sccAvailable with
  | false => exact .nil
  | true =>
      apply (Chained.steady given ⟨rfl, rfl⟩ _).bind
      apply (Chained.steady given ⟨rfl, rfl⟩ _).bind
      exact .steady given ⟨rfl, rfl⟩ _

theorem reconcileSecondary_chained :
    Chained ctx (given.object r shard) (reconcileSecondary ctx shard)
      (secondaryComponents shard) := by
  unfold reconcileSecondary secondaryComponents
  cases buildPDB shard.spec.secondaryReplicas with
  | false => exact (Chained.steady given ⟨rfl, rfl⟩ _).bind (.steady given ⟨rfl, rfl⟩ _)
  | true =>
      apply (Chained.steady given ⟨rfl, rfl⟩ _).bind
      exact (Chained.steady given ⟨rfl, rfl⟩ _).bind (.steady given ⟨rfl, rfl⟩ _)

theorem reconcileDiscovery_chained :
    Chained ctx (given.object r shard) (reconcileDiscovery ctx shard) discoveryComponents := by
  apply (Chained.steady given ⟨rfl, rfl⟩ _).bind
  exact (Chained.steady given ⟨rfl, rfl⟩ _).bind (.steady given ⟨rfl, rfl⟩ _)

end fixed

/-! ## Storage -/

section storage

variable {r : Reconciler} {ctx : Schedule} {shard : APIShard} {given : Inputs}
  {state after : State}

/-- The password is the stored one if there is one. -/
theorem getOrGeneratePostgresPassword_stored {password : String}
    (clean : ctx.Clean)
    (ran : exec (getOrGeneratePostgresPassword ctx shard) state = (.ok password, after)) :
    password = storedPassword ctx.random shard state.cluster := by
  have generated {middle last : State} {text : String}
      (ran : exec (getOrGeneratePostgresPassword.generate ctx) middle = (.ok text, last)) :
      text = generatePassword ctx.random := by
    rw [getOrGeneratePostgresPassword.generate, exec_mapError_eq_ok, exec_callAPI_ok] at ran
    cases ran.2
    rfl
  have isKey : targetKey shard .secret (postgreSQLSecretName shard) =
    Component.postgreSQLSecret.key shard := rfl
  obtain ⟨existing, read, got, ran⟩ := exec_bind_eq_ok.mp ran
  rw [exec_attempt_eq_ok, exec_getObject, clean, isKey] at got
  rw [storedPassword]
  cases found : state.cluster.objects.find? (Component.postgreSQLSecret.key shard) with
  | none =>
      rw [found] at got
      cases got
      exact generated ran
  | some secret =>
      rw [found] at got
      cases got
      dsimp only at ran ⊢
      split at ran
      · next filled =>
          rw [if_pos filled]
          cases ran
          rfl
      · next empty =>
          rw [if_neg empty]
          exact generated ran

/-- A read of the StatefulSet that fails does not say it is missing. -/
def Schedule.Truthful (ctx : Schedule) : Prop :=
  ∀ failure, ctx.faults .getStatefulSet = some failure → failure.isNotFound = false

/-- What StorageReady says where this one is live. -/
def storageVerdict (shard : APIShard) : Option Object → ConditionStatus
  | some object =>
      if volumeClaimTemplatesMatch (postgreSQLVolumeClaimTemplates shard)
        object.statefulSet.volumeClaimTemplates then .true else .false
  | none => .true

/-- A truthful NotFound. -/
theorem absent_of_notFound (truthful : ctx.Truthful) {key : ObjectKey} {failure : ApiError}
    (ran : exec (getObject ctx .getStatefulSet key) state = (.error failure, after))
    (missing : failure.isNotFound = true) : state.cluster.objects.find? key = none := by
  cases faults : ctx.faults .getStatefulSet with
  | some fault =>
      rw [getObject, exec_callAPI_some faults] at ran
      cases ran
      rw [truthful _ faults] at missing
      cases missing
  | none =>
      rw [getObject, exec_callAPI_none faults] at ran
      simp only [exec_bind, exec_get] at ran
      split at ran
      · cases ran
      · next absent => exact absent

theorem Schedule.Clean.truthful (clean : ctx.Clean) : ctx.Truthful := by
  intro failure faulty
  rw [clean] at faulty
  cases faulty

/-- The live StatefulSet decides what is applied and what is reported. -/
theorem preservePostgreSQLVolumeClaimTemplates_ok {set : StatefulSet}
    (ran : exec (preservePostgreSQLVolumeClaimTemplates ctx shard
      (buildPostgreSQLStatefulSet shard)) state = (.ok set, after)) :
    let found := state.cluster.objects.find? (Component.postgreSQLStatefulSet.key shard)
    ∃ live, (live = none ∨ live = found) ∧ (ctx.Truthful → live = found) ∧
      set = aligned shard live ∧
      after.status.condition .storageReady = some (storageVerdict shard live) := by
  have key : targetKey shard .statefulSet (postgreSQLStatefulSetName shard) =
    Component.postgreSQLStatefulSet.key shard := rfl
  have reports (status : ConditionStatus) (reason message : String) {before reported : State}
      (isSet : exec (setCondition shard .storageReady status reason message) before =
        (.ok (), reported)) : reported.status.condition .storageReady = some status := by
    have condition := setCondition_self shard .storageReady status reason message before
    rwa [isSet] at condition
  unfold preservePostgreSQLVolumeClaimTemplates at ran
  obtain ⟨answer, read, isRead, ran⟩ := exec_bind_eq_ok.mp ran
  rw [exec_attempt_eq_ok, key] at isRead
  cases answer with
  | error failure =>
      dsimp only at ran
      split at ran
      · next missing =>
          obtain ⟨_, reported, isSet, isReturned⟩ := exec_bind_eq_ok.mp ran
          cases isReturned
          exact ⟨none, .inl rfl, fun truthful => (absent_of_notFound truthful isRead missing).symm,
            rfl, reports _ _ _ isSet⟩
      · cases ran
  | ok object =>
      have found := (getObject_ok isRead).2.1.symm
      refine ⟨some object, .inr found, fun _ => found, ?_⟩
      dsimp only [storageVerdict]
      dsimp only at ran
      split at ran
      · next matching =>
          obtain ⟨_, reported, isSet, isReturned⟩ := exec_bind_eq_ok.mp ran
          cases isReturned
          exact ⟨rfl, (reports _ _ _ isSet).trans (by rw [if_pos]; exact matching)⟩
      · next mismatch =>
          obtain ⟨_, reported, isSet, isReturned⟩ := exec_bind_eq_ok.mp ran
          cases isReturned
          exact ⟨rfl, (reports _ _ _ isSet).trans (by rw [if_neg]; exact mismatch)⟩

/-- A pass over this cluster gives the database this password and this StatefulSet. -/
structure Furnishes (ctx : Schedule) (shard : APIShard) (cluster : Cluster) (password : String)
    (set : StatefulSet) : Prop where
  aligned : ∃ live, set = aligned shard live ∧
    (live = none ∨ live = cluster.objects.find? (Component.postgreSQLStatefulSet.key shard))
  clean : ctx.Clean → password = storedPassword ctx.random shard cluster ∧
    set = Apishard.aligned shard
      (cluster.objects.find? (Component.postgreSQLStatefulSet.key shard))

theorem reconcileInClusterPostgreSQL_lays
    (type : shard.spec.storage.type = .inClusterPostgreSQL)
    (ran : exec (reconcileInClusterPostgreSQL ctx shard) state = (.ok (), after)) :
    ∃ password set, Furnishes ctx shard state.cluster password set ∧
      ∀ given : Inputs, given.password = password → given.statefulSet = set →
        Lays ((storageComponents shard).map (given.object r shard)) state after := by
  rw [reconcileInClusterPostgreSQL_steps] at ran
  obtain ⟨password, first, drawn, ran⟩ := exec_bind_eq_ok.mp ran
  obtain ⟨_, second, secret, ran⟩ := exec_bind_eq_ok.mp ran
  obtain ⟨_, third, configMap, ran⟩ := exec_bind_eq_ok.mp ran
  obtain ⟨set, fourth, preserved, ran⟩ := exec_bind_eq_ok.mp ran
  obtain ⟨_, fifth, statefulSet, service⟩ := exec_bind_eq_ok.mp ran
  have drawing := Lays.of_still ((still_of_hushed
    (getOrGeneratePostgresPassword_hushed ctx shard)).mapError _ |>.rel drawn)
  have preserving := Lays.of_still ((preservePostgreSQLVolumeClaimTemplates_still ctx shard
    _).mapError _ |>.rel preserved)
  have prepares (given : Inputs) (isPassword : given.password = password) :
      Lays ([Component.postgreSQLSecret, .postgreSQLInitConfigMap].map (given.object r shard))
        state third := by
    have storesSecret : Lays [given.object r shard .postgreSQLSecret] first second :=
      applyOwned_lays (by rw [Inputs.object, Inputs.data, isPassword]; rfl) secret
    exact drawing.trans (storesSecret.trans
      ((Chained.steady given ⟨rfl, rfl⟩ _).ok configMap))
  have unread : third.cluster.objects.find? (Component.postgreSQLStatefulSet.key shard) =
      state.cluster.objects.find? (Component.postgreSQLStatefulSet.key shard) := by
    apply (prepares ⟨password, set, none, "", none⟩ rfl).beside
    intro component membership same
    have kinds : ∀ component ∈ [Component.postgreSQLSecret, .postgreSQLInitConfigMap],
      component.kind ≠ .statefulSet := by decide
    exact kinds component membership (congrArg ObjectKey.kind same)
  obtain ⟨live, isLive, isTruthful, isSet, _⟩ :=
    preservePostgreSQLVolumeClaimTemplates_ok (exec_mapError_eq_ok.mp preserved)
  rw [unread] at isLive isTruthful
  refine ⟨password, set, ⟨⟨live, isSet, isLive⟩, ?_⟩, ?_⟩
  · intro clean
    exact ⟨getOrGeneratePostgresPassword_stored clean (exec_mapError_eq_ok.mp drawn),
      isTruthful clean.truthful ▸ isSet⟩
  · intro given isPassword isGiven
    have storesSet : Lays [given.object r shard .postgreSQLStatefulSet] fourth fifth :=
      applyOwned_lays (by rw [Inputs.object, Inputs.spec, isGiven]; rfl) statefulSet
    rw [storageComponents, type]
    exact (prepares given isPassword).trans (preserving.trans (storesSet.trans
      ((Chained.steady given ⟨rfl, rfl⟩ _).ok service)))

theorem storageNotReady_error {reason message : String} {failure : ApiError} :
    exec (storageNotReady shard reason message failure) state ≠ (.ok (), after) := by
  intro ran
  cases ran

theorem validateExternalPostgreSQLSecret_ok
    (ran : exec (validateExternalPostgreSQLSecret ctx shard) state = (.ok (), after)) :
    ConnectionValid shard state.cluster := by
  unfold validateExternalPostgreSQLSecret at ran
  cases isRef : shard.spec.storage.connectionSecretRef with
  | none =>
      rw [isRef] at ran
      exact absurd ran storageNotReady_error
  | some ref =>
      rw [isRef] at ran
      obtain ⟨answer, read, got, ran⟩ := exec_bind_eq_ok.mp ran
      rw [exec_attempt_eq_ok] at got
      cases answer with
      | error failure =>
          dsimp only at ran
          split at ran
          · exact absurd ran storageNotReady_error
          · exact absurd ran storageNotReady_error
      | ok secret =>
          dsimp only at ran
          split at ran
          · exact absurd ran storageNotReady_error
          · next hasKey =>
              refine ⟨ref, secret, isRef, (getObject_ok got).2.1, ?_⟩
              cases isKey : secret.lookup ref.key with
              | none => simp [isKey] at hasKey
              | some value => rfl

/-- The Service of Kine is applied, or nothing is. -/
theorem applyKineService_lays (r : Reconciler) (ctx : Schedule) (shard : APIShard)
    (given : Inputs) (request : Call) (trafficDistribution : Bool) (state : State) :
    (∃ after, exec (applyKineService ctx shard request trafficDistribution) state =
        (.ok (), after) ∧ Lays [given.object r shard .kineService] state after) ∨
    (∃ failure after, exec (applyKineService ctx shard request trafficDistribution) state =
        (.error failure, after) ∧ Lays [] state after) := by
  cases faults : ctx.faults request with
  | some failure =>
      rw [applyKineService, exec_callAPI_some faults]
      exact .inr ⟨failure, _, rfl, .none rfl rfl rfl⟩
  | none =>
      rw [applyKineService, exec_callAPI_none faults, exec_bind, exec_get]
      dsimp only
      split
      · exact .inr ⟨_, _, rfl, .none rfl rfl rfl⟩
      · rw [exec_bind, exec_applyObject]
        exact .inl ⟨_, rfl, rfl, rfl, rfl⟩

theorem serveKine_lays (given : Inputs)
    (ran : exec (serveKine ctx shard) state = (.ok (), after)) :
    Lays [given.object r shard .kineService] state after := by
  obtain ⟨answer, tried, first, ran⟩ := exec_bind_eq_ok.mp ran
  rw [exec_attempt_eq_ok] at first
  rcases applyKineService_lays r ctx shard given (.apply .kineService) (isColocateEnabled shard)
      state with ⟨last, applied, lays⟩ | ⟨failure, last, applied, lays⟩
  · rw [applied] at first
    cases first
    cases ran
    exact lays
  · rw [applied] at first
    cases first
    dsimp only at ran
    split at ran
    · rw [exec_mapError_eq_ok] at ran
      rcases applyKineService_lays r ctx shard given .applyKineServiceFallback false tried with
        ⟨final, fallback, again⟩ | ⟨failure, final, fallback, _⟩
      · rw [fallback] at ran
        cases ran
        exact lays.trans again
      · rw [fallback] at ran
        cases ran
    · cases ran

theorem reconcileKine_lays (given : Inputs)
    (ran : exec (reconcileKine ctx shard) state = (.ok (), after)) :
    Lays ((kineComponents shard).map (given.object r shard)) state after := by
  rw [reconcileKine_eq] at ran
  obtain ⟨_, first, deployment, ran⟩ := exec_bind_eq_ok.mp ran
  have deploys : Lays [given.object r shard .kineDeployment] state first :=
    (Chained.steady given ⟨rfl, rfl⟩ _).ok deployment
  unfold kineComponents
  split at ran
  · next replicated =>
      obtain ⟨_, second, budget, ran⟩ := exec_bind_eq_ok.mp ran
      have limits : Lays [given.object r shard .kinePDB] first second :=
        (Chained.steady given ⟨rfl, rfl⟩ _).ok budget
      rw [if_pos replicated]
      exact (deploys.trans limits).trans (serveKine_lays given ran)
  · next single =>
      rw [if_neg single]
      exact deploys.trans (serveKine_lays given ran)

/-! ### The metrics collector -/

variable (r ctx shard) in
theorem applyOTelCollector_chained {params : OTelConnectionParams} {secretName : String}
    (isCollector : given.collector = some (params, secretName)) :
    Chained ctx (given.object r shard) (applyOTelCollector r ctx shard params secretName)
      (collectorComponents r shard params) := by
  rw [collectorComponents, collectorBasics]
  apply Chained.cons
  · apply Chained.apply
    rw [Inputs.object, Inputs.data, isCollector]
    rfl
  apply Chained.cons
  · apply Chained.apply
    rw [Inputs.object, Inputs.spec, isCollector]
    rfl
  apply (Chained.steady given ⟨rfl, rfl⟩ _).bind
  exact .ite (.steady given ⟨rfl, rfl⟩ _) .nil

variable (r ctx shard) in
/-- The collector of an external database once the connection is known. -/
theorem collectExternal_chained {params : OTelConnectionParams}
    (isCollector : given.collector =
      some (params, named shard "-postgresql-metrics-credentials")) :
    Chained ctx (given.object r shard) (do
        let credentialSecret ← ensureOTelCredentialSecret ctx shard params
        applyOTelCollector r ctx shard params credentialSecret)
      (.oTelCredentialSecret :: collectorComponents r shard params) := by
  simp only [ensureOTelCredentialSecret, bind_assoc, pure_bind]
  apply Chained.cons
  · apply Chained.apply
    rw [Inputs.object, Inputs.data, isCollector]
    rfl
  · exact applyOTelCollector_chained r ctx shard isCollector

theorem externalMetrics_lays (external : shard.spec.storage.type = .postgreSQL)
    (enabled : storageMonitoringEnabled shard = true)
    (isCollector : given.collector = collectorConnection r shard state.cluster) :
    Lays ((collected r ctx shard state.cluster).map (given.object r shard)) state
      (exec (externalMetrics r ctx shard) state).2 := by
  have sameObjects : (state.edited ctx .getMetricsSecret).cluster.objects =
    state.cluster.objects := rfl
  have untouched : Lays [] state (state.edited ctx .getMetricsSecret) := .none rfl rfl rfl
  simp only [collectorConnection, external, externalParams] at isCollector
  simp only [collected, metricsUnread, collectorChain, external, enabled, if_true, externalParams,
    externalMetrics]
  cases isRef : shard.spec.storage.connectionSecretRef with
  | none => simpa using .none rfl rfl rfl
  | some ref =>
      cases faults : ctx.faults .getMetricsSecret with
      | some failure =>
          simp only [exec_bind, exec_mapError, getObject, exec_callAPI_some faults]
          exact untouched
      | none =>
          simp only [isRef, Option.bind_eq_bind, Option.bind_some] at isCollector
          simp only [exec_bind, exec_mapError, getObject, exec_callAPI_none faults, exec_get,
            sameObjects, Option.bind_eq_bind, Option.bind_some]
          cases found : state.cluster.objects.find? (targetKey shard .secret ref.name) with
          | none => exact untouched
          | some secret =>
              simp only [found, Option.bind_some] at isCollector
              dsimp only [exec_pure, Option.bind_some]
              cases parsed : r.parsePostgreSQLDSN (secret.entry ref.key) with
              | error failure => exact untouched
              | ok params =>
                  simp only [parsed, Except.toOption, Option.bind_some] at isCollector
                  dsimp only [Except.toOption, Option.bind_some]
                  cases isCert : shard.spec.storage.monitoring.bind
                      StorageMonitoringSpec.caCertSecret with
                  | none => exact untouched
                  | some caCert =>
                      simp only [isCert, Option.bind_some] at isCollector
                      exact untouched.trans ((collectExternal_chained r ctx shard
                        isCollector).lays (state.edited ctx .getMetricsSecret))

/-- The report always returns and touches no object. -/
theorem reportMetrics_lays {collect : Pass Unit} {objects : List Object}
    (lays : Lays objects state (exec collect state).2) :
    ∃ after, exec (reportMetrics shard collect) state = (.ok (), after) ∧
      Lays objects state after := by
  rw [reportMetrics, exec_bind, exec_attempt]
  cases (exec collect state).1 with
  | error failure => exact ⟨_, rfl, lays.objects, lays.unserved, lays.tracked⟩
  | ok value => exact ⟨_, rfl, lays.objects, lays.unserved, lays.tracked⟩

variable (ctx) in
/-- The metrics step always returns, with what it could apply. -/
theorem reconcilePostgreSQLMetrics_lays
    (isCollector : given.collector = collectorConnection r shard state.cluster) :
    ∃ after, exec (reconcilePostgreSQLMetrics r ctx shard) state = (.ok (), after) ∧
      Lays ((collected r ctx shard state.cluster).map (given.object r shard)) state after := by
  unfold reconcilePostgreSQLMetrics
  cases enabled : storageMonitoringEnabled shard with
  | false =>
      have none : collected r ctx shard state.cluster = [] := by
        simp [collected, collectorChain, enabled]
      rw [none]
      exact ⟨_, rfl, .none rfl rfl rfl⟩
  | true =>
      simp only [Bool.not_true, Bool.false_eq_true, if_false]
      cases type : shard.spec.storage.type with
      | sqlite =>
          have none : collected r ctx shard state.cluster = [] := by
            simp [collected, collectorChain, type]
          rw [none]
          exact ⟨_, rfl, .none rfl rfl rfl⟩
      | inClusterPostgreSQL =>
          simp only [collectorConnection, type] at isCollector
          simp only [collected, collectorChain, metricsUnread, type, enabled, if_true]
          exact reportMetrics_lays ((applyOTelCollector_chained r ctx shard isCollector).lays state)
      | postgreSQL => exact reportMetrics_lays (externalMetrics_lays type enabled isCollector)

/-- What the storage step has applied when it returns, and what it has found. -/
theorem reconcileStorage_lays
    (ran : exec (reconcileStorage r ctx shard) state = (.ok (), after)) :
    (∃ password set, Furnishes ctx shard state.cluster password set ∧
      ∀ given : Inputs, given.password = password → given.statefulSet = set →
        given.collector = collectorConnection r shard state.cluster →
        Lays ((storageComponents shard ++ kineComponents shard ++
          collected r ctx shard state.cluster).map (given.object r shard)) state after) ∧
      (shard.spec.storage.type = .postgreSQL → ConnectionValid shard state.cluster) := by
  have rest {middle : State} {given : Inputs}
      (lays : Lays ((storageComponents shard).map (given.object r shard)) state middle)
      (none : shard.spec.storage.type = .postgreSQL → storageComponents shard = [])
      (ran : exec (do
        (reconcileKine ctx shard).mapError (·.wrap "kine")
        reconcilePostgreSQLMetrics r ctx shard) middle = (.ok (), after))
      (isCollector : given.collector = collectorConnection r shard state.cluster) :
      Lays ((storageComponents shard ++ kineComponents shard ++
          collected r ctx shard state.cluster).map (given.object r shard)) state after := by
    obtain ⟨_, served, kine, metrics⟩ := exec_bind_eq_ok.mp ran
    have toKine := lays.trans (reconcileKine_lays (r := r) given (exec_mapError_eq_ok.mp kine))
    -- no Secret was applied before the collector reads the connection
    have connection : shard.spec.storage.type = .postgreSQL →
        ∀ ref, shard.spec.storage.connectionSecretRef = some ref →
          served.cluster.objects.find? (targetKey shard .secret ref.name) =
            state.cluster.objects.find? (targetKey shard .secret ref.name) := by
      intro external ref _
      apply toKine.read
      rw [none external, List.map_nil, List.nil_append, map_key_object]
      exact fun membership => kind_of_kineComponents membership rfl
    obtain ⟨last, returned, collects⟩ := reconcilePostgreSQLMetrics_lays ctx
      (isCollector.trans (collectorConnection_congr connection).symm)
    rw [returned] at metrics
    cases metrics
    rw [collected_congr r ctx toKine.unserved connection] at collects
    rw [List.map_append, List.map_append]
    exact toKine.trans collects
  have none (other : shard.spec.storage.type ≠ .inClusterPostgreSQL) :
      storageComponents shard = [] := by
    unfold storageComponents
    split
    · next type => exact absurd type other
    · rfl
  have unfurnished : Furnishes ctx shard state.cluster
      (storedPassword ctx.random shard state.cluster)
      (aligned shard (state.cluster.objects.find? (Component.postgreSQLStatefulSet.key shard))) :=
    ⟨⟨_, rfl, .inr rfl⟩, fun _ => ⟨rfl, rfl⟩⟩
  unfold reconcileStorage at ran
  cases type : shard.spec.storage.type with
  | sqlite =>
      simp only [type] at ran
      refine ⟨⟨_, _, unfurnished, fun given _ _ isCollector => rest ?_ ?_ ran isCollector⟩, nofun⟩
      · rw [none (by rw [type]; nofun)]
        exact .none rfl rfl rfl
      · exact fun external => nomatch type.symm.trans external
  | inClusterPostgreSQL =>
      simp only [type] at ran
      obtain ⟨_, middle, first, ran⟩ := exec_bind_eq_ok.mp ran
      obtain ⟨password, set, furnishes, lays⟩ :=
        reconcileInClusterPostgreSQL_lays type (exec_mapError_eq_ok.mp first)
      refine ⟨⟨password, set, furnishes, fun given isPassword isSet isCollector =>
        rest (lays given isPassword isSet) ?_ ran isCollector⟩, nofun⟩
      exact fun external => nomatch type.symm.trans external
  | postgreSQL =>
      simp only [type] at ran
      obtain ⟨_, middle, first, ran⟩ := exec_bind_eq_ok.mp ran
      have noComponents := none (by rw [type]; nofun)
      refine ⟨⟨_, _, unfurnished, fun given _ _ isCollector => rest ?_ (fun _ => noComponents) ran
        isCollector⟩, fun _ => validateExternalPostgreSQLSecret_ok (exec_mapError_eq_ok.mp first)⟩
      rw [noComponents]
      exact .of_still (((validateExternalPostgreSQLSecret_still ctx shard).mapError _).rel first)

end storage

/-! ## Access and metrics -/

section access

variable {r : Reconciler} {ctx : Schedule} {shard : APIShard} {given : Inputs}
  {state after : State}

theorem reconcileRequestHeaderCA_lays {names : List String}
    (isCA : given.requestHeaderCA = headerCA state.cluster)
    (ran : exec (reconcileRequestHeaderCA r ctx shard) state = (.ok names, after)) :
    Lays [given.object r shard .requestHeaderCA] state after ∧ HeaderReady r state.cluster := by
  obtain ⟨source, read, got, ran⟩ := exec_bind_eq_ok.mp ran
  obtain ⟨_, found, rfl⟩ := getObject_ok (exec_mapError_eq_ok.mp got)
  have isFound : state.cluster.objects.find? authenticationKey = some source := found
  rw [headerCA, isFound] at isCA
  dsimp only at ran
  split at ran
  · cases ran
  · next filled =>
      split at ran
      · cases ran
      · next allowedNames parsed =>
          obtain ⟨_, applied, apply, returned⟩ := exec_bind_eq_ok.mp ran
          cases returned
          have lays : Lays [given.object r shard .requestHeaderCA]
              (state.edited ctx .getAuthenticationConfigMap) after :=
            applyOwned_lays (by rw [Inputs.object, Inputs.data, isCA]; rfl) apply
          exact ⟨⟨lays.objects, lays.unserved, lays.tracked⟩, source, allowedNames, found, filled,
            parsed⟩

/-- A read fails when it is made to or when the object is missing. -/
theorem getObject_error {request : Call} {key : ObjectKey} {failure : ApiError}
    (ran : exec (getObject ctx request key) state = (.error failure, after)) :
    (ctx.faults request).isSome = true ∨ state.cluster.objects.find? key = none := by
  cases faults : ctx.faults request with
  | some fault => exact .inl rfl
  | none =>
      right
      rw [getObject, exec_callAPI_none faults] at ran
      simp only [exec_bind, exec_get] at ran
      split at ran
      · cases ran
      · next missing => exact missing

variable (ctx shard) in
/-- Either something is missing and nothing is done but reading, or the kubeconfig is applied
with what the Secrets have. -/
theorem exec_reconcileAdminKubeconfig (state : State) :
    (((exec (reconcileAdminKubeconfig ctx shard) state).2 = state.edited ctx .getPKI ∨
        (exec (reconcileAdminKubeconfig ctx shard) state).2 =
          (state.edited ctx .getPKI).edited ctx .getAdminClient) ∧
      (credentials shard state.cluster = none ∨ credentialsUnread ctx = true)) ∨
    ∃ given, credentials shard state.cluster = some given ∧ credentialsUnread ctx = false ∧
      exec (reconcileAdminKubeconfig ctx shard) state =
        exec (applyAdminKubeconfig ctx shard given.caData given.clientCert given.clientKey)
          ((state.edited ctx .getPKI).edited ctx .getAdminClient) := by
  have readPKI := getObject_same ctx .getPKI (targetKey shard .secret (pkiSecretName shard)) state
  have readAdmin := getObject_same ctx .getAdminClient
    (targetKey shard .secret (adminClientSecretName shard)) (state.edited ctx .getPKI)
  simp only [reconcileAdminKubeconfig, exec_bind, exec_attempt, readPKI]
  cases pkiAnswer : (exec (getObject ctx .getPKI
      (targetKey shard .secret (pkiSecretName shard))) state).1 with
  | error failure =>
      left
      constructor
      · left
        dsimp only
        split
        · rfl
        · rfl
      · rcases getObject_error (Prod.ext pkiAnswer readPKI) with fault | missing
        · exact .inr (by simp [credentialsUnread, fault])
        · exact .inl (by simp [credentials, missing])
  | ok pkiSecret =>
      obtain ⟨pkiClean, pki, _⟩ := getObject_ok (Prod.ext pkiAnswer readPKI)
      by_cases noCA : pkiSecret.entry caCertKey = ""
      · left
        simp only [noCA, if_true]
        refine ⟨.inl rfl, .inl ?_⟩
        rw [credentials, pki]
        cases state.cluster.objects.find? (targetKey shard .secret (adminClientSecretName shard))
          <;> simp [noCA]
      simp only [noCA, if_false, exec_bind, exec_attempt, readAdmin]
      cases adminAnswer : (exec (getObject ctx .getAdminClient
          (targetKey shard .secret (adminClientSecretName shard)))
          (state.edited ctx .getPKI)).1 with
      | error failure =>
          left
          constructor
          · right
            dsimp only
            split
            · rfl
            · rfl
          · rcases getObject_error (Prod.ext adminAnswer readAdmin) with fault | missing
            · exact .inr (by simp [credentialsUnread, fault])
            · have absent : state.cluster.objects.find?
                (targetKey shard .secret (adminClientSecretName shard)) = none := missing
              exact .inl (by simp [credentials, pki, absent])
      | ok adminSecret =>
          obtain ⟨adminClean, admin, _⟩ := getObject_ok (Prod.ext adminAnswer readAdmin)
          have found : state.cluster.objects.find?
            (targetKey shard .secret (adminClientSecretName shard)) = some adminSecret := admin
          by_cases unfilled : adminSecret.entry "tls.crt" = "" ∨ adminSecret.entry "tls.key" = ""
          · left
            simp only [unfilled, if_true]
            exact ⟨.inr rfl, .inl (by simp [credentials, pki, found, unfilled])⟩
          · right
            refine ⟨⟨pkiSecret.entry caCertKey, adminSecret.entry "tls.crt",
              adminSecret.entry "tls.key"⟩, ?_, ?_, ?_⟩
            · simp only [credentials, pki, found, noCA, unfilled, or_false, if_false]
            · simp [credentialsUnread, pkiClean, adminClean]
            · simp only [unfilled, if_false]

/-- The kubeconfig is applied when its credentials are there and could be read. -/
theorem reconcileAdminKubeconfig_lays
    (isGiven : given.credentials = credentials shard state.cluster)
    (ran : exec (reconcileAdminKubeconfig ctx shard) state = (.ok (), after)) :
    Lays ((kubeconfigComponents ctx shard state.cluster).map (given.object r shard))
      state after := by
  rw [kubeconfigComponents, credentialsReady]
  rcases exec_reconcileAdminKubeconfig ctx shard state with
    ⟨reads, missing⟩ | ⟨found, isFound, readable, applies⟩
  · have unapplied :
        ((credentials shard state.cluster).isSome && !credentialsUnread ctx) = false := by
      rcases missing with absent | unread
      · rw [absent]
        rfl
      · rw [unread]
        exact Bool.and_false _
    rw [unapplied]
    rw [ran] at reads
    rcases reads with rfl | rfl
    · exact .none rfl rfl rfl
    · exact .none rfl rfl rfl
  · rw [ran] at applies
    obtain ⟨_, applied, apply, returned⟩ := exec_bind_eq_ok.mp applies.symm
    cases returned
    have lays : Lays [given.object r shard .adminKubeconfig]
        ((state.edited ctx .getPKI).edited ctx .getAdminClient) applied :=
      applyOwned_lays (by rw [Inputs.object, Inputs.data, isGiven, isFound]; rfl) apply
    rw [isFound, readable]
    exact ⟨lays.objects, lays.unserved, lays.tracked⟩

theorem reconcileMetrics_lays (given : Inputs)
    (ran : exec (reconcileMetrics r ctx shard) state = (.ok (), after)) :
    Lays (monitoringObjects r ctx shard given state.cluster) state after := by
  unfold reconcileMetrics at ran
  unfold monitoringObjects
  cases available : r.serviceMonitorAvailable with
  | false =>
      simp only [available, Bool.not_false, if_true] at ran
      cases ran
      exact .none rfl rfl rfl
  | true =>
      simp only [available, Bool.not_true, Bool.false_eq_true, if_false] at ran
      obtain ⟨_, first, account, ran⟩ := exec_bind_eq_ok.mp ran
      obtain ⟨_, second, token, ran⟩ := exec_bind_eq_ok.mp ran
      obtain ⟨_, third, role, ran⟩ := exec_bind_eq_ok.mp ran
      obtain ⟨_, fourth, binding, ran⟩ := exec_bind_eq_ok.mp ran
      obtain ⟨answer, fifth, monitor, ran⟩ := exec_bind_eq_ok.mp ran
      rw [exec_attempt_eq_ok] at monitor
      have accounts : Lays [given.object r shard .metricsReaderServiceAccount] state first :=
        (Chained.steady given ⟨rfl, rfl⟩ _).ok account
      have tokens : Lays [given.object r shard .metricsReaderTokenSecret] first second :=
        (Chained.steady given ⟨rfl, rfl⟩ _).ok token
      have roles : Lays [metricsClusterRole] second third :=
        callAPI_lays rfl (exec_mapError_eq_ok.mp role)
      have binds : Lays [given.object r shard .metricsReaderClusterRoleBinding] third fourth :=
        (Chained.steady given ⟨rfl, rfl⟩ _).ok binding
      have readers := ((accounts.trans tokens).trans roles).trans binds
      rw [if_pos rfl, ← clear_congr ctx readers.unserved]
      rcases applyOwned_cases ctx shard .kineServiceMonitor [] _ fourth with
        ⟨isClear, last, applied, lays⟩ | ⟨blocked, failure, last, applied, lays⟩
      · rw [applied] at monitor
        cases monitor
        rw [if_pos isClear]
        exact readers.trans (lays.trans ((reconcileDiscovery_chained given).ok ran))
      · rw [applied] at monitor
        cases monitor
        rw [blocked]
        dsimp only at ran
        split at ran
        · cases ran
          exact readers.trans lays
        · cases ran

end access

/-! ## All objects -/

section objects

variable {r : Reconciler} {ctx : Schedule} {shard : APIShard} {given : Inputs}
  {state after : State}

theorem orSetError_ok {α : Type} {step : Pass α} {value : α} :
    exec (orSetError ctx shard step) state = (.ok value, after) ↔
      exec step state = (.ok value, after) := by
  simp only [orSetError, exec_bind, exec_attempt]
  rcases exec step state with ⟨answer, middle⟩
  cases answer with
  | ok actual => rfl
  | error failure =>
      constructor
      · intro ran
        rw [exec_setErrorAndRequeue] at ran
        cases ran
      · intro ran
        cases ran

/-- The steps up to the request header CA. -/
theorem lays_early {first second third fourth fifth sixth : State}
    (stores : Lays ((storageComponents shard ++ kineComponents shard ++
      collected r ctx shard state.cluster).map (given.object r shard)) state first)
    (certificates : exec (reconcileCertManager ctx shard) first = (.ok (), second))
    (authConfig : exec (reconcileAuthConfig ctx shard) second = (.ok (), third))
    (account : exec (reconcileSecondaryServiceAccount ctx shard) third = (.ok (), fourth))
    (delegator : exec (reconcileAuthDelegator ctx shard) fourth = (.ok (), fifth))
    (scc : exec (reconcileAPIServerSCC r ctx shard) fifth = (.ok (), sixth)) :
    Lays ((earlyComponents r ctx shard state.cluster).map (given.object r shard))
      state sixth := by
  have access : Lays ([Component.authConfig, .secondaryServiceAccount, .authDelegator].map
      (given.object r shard)) second fifth :=
    (((Chained.steady given ⟨rfl, rfl⟩ _).ok authConfig).trans
      ((Chained.steady given ⟨rfl, rfl⟩ _).ok account)).trans
      ((Chained.steady given ⟨rfl, rfl⟩ _).ok delegator)
  rw [earlyComponents, List.map_append, List.map_append, List.map_append]
  exact ((stores.trans ((reconcileCertManager_chained given).ok certificates)).trans
    access).trans ((reconcileAPIServerSCC_chained given).ok scc)

/-- The inputs are what a pass has read from this cluster. -/
structure Inputs.ReadFrom (r : Reconciler) (ctx : Schedule) (shard : APIShard) (cluster : Cluster)
    (given : Inputs) : Prop where
  aligned : ∃ live, given.statefulSet = aligned shard live ∧
    (live = none ∨ live = cluster.objects.find? (Component.postgreSQLStatefulSet.key shard))
  collector : given.collector = collectorConnection r shard cluster
  clean : ctx.Clean → r.Hashed → given = inputs r ctx.random shard cluster

/-- What a pass has applied when all its objects are applied, and what it has found. -/
theorem reconcileObjects_lays
    (ran : exec (reconcileObjects r ctx shard) state = (.ok (), after)) :
    ∃ given : Inputs, given.ReadFrom r ctx shard state.cluster ∧
      Lays (appliedObjects r ctx shard given state.cluster) state after ∧
      (r.Hashed → Feasible r shard state.cluster) := by
  obtain ⟨_, first, storage, ran⟩ := exec_bind_eq_ok.mp ran
  obtain ⟨_, second, certificates, ran⟩ := exec_bind_eq_ok.mp ran
  obtain ⟨_, third, authConfig, ran⟩ := exec_bind_eq_ok.mp ran
  obtain ⟨_, fourth, account, ran⟩ := exec_bind_eq_ok.mp ran
  obtain ⟨_, fifth, delegator, ran⟩ := exec_bind_eq_ok.mp ran
  obtain ⟨_, sixth, scc, ran⟩ := exec_bind_eq_ok.mp ran
  obtain ⟨_, seventh, header, ran⟩ := exec_bind_eq_ok.mp ran
  obtain ⟨_, eighth, kubeconfig, ran⟩ := exec_bind_eq_ok.mp ran
  obtain ⟨_, ninth, secondary, metrics⟩ := exec_bind_eq_ok.mp ran
  rw [orSetError_ok] at storage certificates authConfig account delegator scc
  rw [orSetError_ok] at header kubeconfig secondary metrics
  obtain ⟨⟨password, set, furnishes, stores⟩, connection⟩ := reconcileStorage_lays storage
  let given : Inputs :=
    ⟨password, set, collectorConnection r shard state.cluster, headerCA sixth.cluster,
      credentials shard state.cluster⟩
  have toHeader := lays_early (stores given rfl rfl rfl) certificates authConfig account delegator
    scc
  have isHeader : given.requestHeaderCA = headerCA sixth.cluster := rfl
  obtain ⟨copies, found⟩ := reconcileRequestHeaderCA_lays isHeader header
  have toKubeconfig : Lays ((earlyComponents r ctx shard state.cluster ++
      [Component.requestHeaderCA]).map (given.object r shard)) state seventh := by
    rw [List.map_append]
    exact toHeader.trans copies
  have same : credentials shard seventh.cluster = given.credentials := toKubeconfig.credentials
  have connects : Lays ((kubeconfigComponents ctx shard state.cluster).map
      (given.object r shard)) seventh eighth := by
    have lays := reconcileAdminKubeconfig_lays (r := r) same.symm kubeconfig
    rwa [kubeconfigComponents, credentialsReady, same, ← credentialsReady] at lays
  have toMetrics := (toKubeconfig.trans connects).trans
    ((reconcileSecondary_chained (r := r) given).ok secondary)
  have monitors := reconcileMetrics_lays given metrics
  rw [monitoringObjects, clear_congr ctx toMetrics.unserved] at monitors
  have authentication (hashed : r.Hashed) :=
    toHeader.authentication (earlyComponents_belong hashed)
  refine ⟨given, ⟨furnishes.aligned, rfl, ?_⟩, ?_, ?_⟩
  · intro clean hashed
    obtain ⟨rfl, rfl⟩ := furnishes.clean clean
    have isHeader : headerCA sixth.cluster = headerCA state.cluster := by
      rw [headerCA, headerCA, authentication hashed]
    show Inputs.mk _ _ _ (headerCA sixth.cluster) _ = _
    rw [isHeader]
    rfl
  · rw [appliedObjects, List.map_append, List.map_append]
    exact toMetrics.trans monitors
  · intro hashed
    rw [HeaderReady, authentication hashed] at found
    exact ⟨connection, found⟩

/-- The owned objects among those of a pass are its components. -/
theorem owned_appliedObjects (r : Reconciler) (ctx : Schedule) (shard : APIShard) (given : Inputs)
    (cluster : Cluster) :
    (appliedObjects r ctx shard given cluster).filter Object.owned =
      (appliedComponents r ctx shard cluster).map (given.object r shard) := by
  have owned (components : List Component) :
      (components.map (given.object r shard)).filter Object.owned =
        components.map (given.object r shard) := by
    apply List.filter_eq_self.mpr
    intro object membership
    obtain ⟨component, _, rfl⟩ := List.mem_map.mp membership
    rfl
  have monitored : (monitoringObjects r ctx shard given cluster).filter Object.owned =
      (monitoringComponents r ctx cluster).map (given.object r shard) := by
    unfold monitoringObjects monitoringComponents
    split
    · split
      · rfl
      · rfl
    · rfl
  rw [appliedObjects, List.filter_append, owned, monitored, ← List.map_append]
  rfl

/-- The objects of a pass are its components and a role that is shared. -/
theorem mem_appliedObjects {cluster : Cluster} {object : Object}
    (membership : object ∈ appliedObjects r ctx shard given cluster) :
    object = metricsClusterRole ∨
      ∃ component ∈ appliedComponents r ctx shard cluster,
        object = given.object r shard component := by
  cases isOwned : object.owned with
  | true =>
      have isComponent := List.mem_filter.mpr ⟨membership, isOwned⟩
      rw [owned_appliedObjects] at isComponent
      obtain ⟨component, inComponents, rfl⟩ := List.mem_map.mp isComponent
      exact .inr ⟨component, inComponents, rfl⟩
  | false =>
      have unowned (components : List Component) :
          object ∉ components.map (given.object r shard) := by
        intro isComponent
        obtain ⟨_, _, rfl⟩ := List.mem_map.mp isComponent
        cases isOwned
      rw [appliedObjects, List.mem_append, monitoringObjects] at membership
      have inMonitoring := membership.resolve_left (unowned _)
      split at inMonitoring
      · rw [List.mem_append] at inMonitoring
        rcases inMonitoring with isReader | isMonitor
        · simp only [List.mem_cons, List.not_mem_nil, or_false] at isReader
          rcases isReader with rfl | rfl | rfl | rfl <;> first | exact .inl rfl | cases isOwned
        · split at isMonitor
          · exact absurd isMonitor (unowned _)
          · cases isMonitor
      · cases inMonitoring

/-- What a pass has tracked when all its objects are applied, and what it has found. -/
theorem reconcileObjects_ok
    (ran : exec (reconcileObjects r ctx shard) state = (.ok (), after)) :
    after.tracked = state.tracked ++
        (appliedComponents r ctx shard state.cluster).map (Component.key shard) ∧
      (r.Hashed → Feasible r shard state.cluster) := by
  obtain ⟨given, _, lays, feasible⟩ := reconcileObjects_lays ran
  refine ⟨?_, feasible⟩
  rw [lays.tracked, owned_appliedObjects, map_key_object]

end objects

end KubeShard.Apishard
