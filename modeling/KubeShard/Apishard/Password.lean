import KubeShard.Apishard.Database

/-!
# The password of the in-cluster database

A pass reads the password back from the credentials Secret and applies the Secret
with what it read.  As long as that read is answered, the password of a Secret that
has one never changes, however often the other calls fail.
-/

namespace KubeShard.Apishard

open Resources Prog

/-- The credentials Secret of a shard with this name and target namespace. -/
def credentialsKey (name namespace_ : String) : ObjectKey :=
  ⟨.secret, namespace_, name ++ "-postgresql-credentials"⟩

/-- The Secret is there and has this password. -/
def HasPassword (password : String) (live : Option Object) : Prop :=
  ∃ secret, live = some secret ∧ secret.entry "POSTGRES_PASSWORD" = password

/-- The password of the Secret and that of the endpoint of Kine are this one. -/
def CarriesPassword (name namespace_ password : String) (data : List (String × String)) : Prop :=
  data.lookup "POSTGRES_PASSWORD" = some password ∧
    ∃ shard, shard.name = name ∧ shard.spec.targetNamespace = namespace_ ∧
      data.lookup "KINE_ENDPOINT" = some (postgreSQLDSN shard nameKine password)

theorem carriesPassword_build (shard : APIShard) (password : String) :
    CarriesPassword shard.name shard.spec.targetNamespace password
      (buildPostgreSQLSecret shard password) :=
  ⟨rfl, shard, rfl, rfl, rfl⟩

/-- The password of the Secret is this one, and no other was ever applied. -/
def KeepsPassword (name namespace_ password : String) : State → Prop :=
  Guarded (credentialsKey name namespace_) (HasPassword password)
    (CarriesPassword name namespace_ password)

/-! ## One pass -/

section pass

variable {r : Reconciler} {ctx : Schedule} (shard : APIShard) {password : String}

/-- A password that is there is read back, unless the read fails. -/
theorem getOrGeneratePostgresPassword_of_live (answered : ctx.faults .getCredentials = none)
    (nonempty : password ≠ "") {state : State}
    (live : HasPassword password
      (state.cluster.objects.find? (targetKey shard .secret (postgreSQLSecretName shard)))) :
    exec (getOrGeneratePostgresPassword ctx shard) state =
      (.ok password, state.edited ctx .getCredentials) := by
  obtain ⟨secret, found, isPassword⟩ := live
  have read : exec (getObject ctx .getCredentials
      (targetKey shard .secret (postgreSQLSecretName shard))) state =
      (.ok secret, state.edited ctx .getCredentials) := by
    rw [getObject, exec_callAPI_none answered]
    simp only [exec_bind, exec_get]
    have foundEdited : (state.edited ctx .getCredentials).cluster.objects.find?
      (targetKey shard .secret (postgreSQLSecretName shard)) = some secret := found
    rw [foundEdited]
    rfl
  simp only [getOrGeneratePostgresPassword, exec_bind, exec_attempt, read, isPassword]
  rw [if_pos nonempty]
  rfl

theorem reconcileInClusterPostgreSQL_keepsPassword
    (answered : ctx.faults .getCredentials = none) (nonempty : password ≠ "") :
    Respects (.keeps (KeepsPassword shard.name shard.spec.targetNamespace password))
      (reconcileInClusterPostgreSQL ctx shard) := by
  rw [reconcileInClusterPostgreSQL_steps]
  have still {α : Type} {program : Pass α} (respects : Respects (still ctx) program) :
      Respects (.keeps (KeepsPassword shard.name shard.spec.targetNamespace password)) program :=
    respects.mono fun _ _ still guarded => guarded.beside still.untouched List.not_mem_nil rfl
  have other (component : Component) (differs : component ≠ .postgreSQLSecret)
      (plain : component.plain = true) (spec : ObjectSpec) :
      Respects (.keeps (KeepsPassword shard.name shard.spec.targetNamespace password))
        (applyOwned ctx shard component [] spec) :=
    Guarded.applyOwned_component ctx shard .postgreSQLSecret component rfl rfl plain differs [] spec
  -- The Secret is applied with the password that was read from it.
  apply Respects.keeps_bind
    ((still (still_of_hushed (getOrGeneratePostgresPassword_hushed ctx shard))).mapError _)
    (P := (· = password))
  · intro state value after keeps ran
    have read := exec_mapError_eq_ok.mp ran
    rw [getOrGeneratePostgresPassword_of_live shard answered nonempty keeps.live] at read
    exact (Except.ok.inj (congrArg Prod.fst read)).symm
  intro value isPassword
  rw [isPassword]
  have secret : Respects (.keeps (KeepsPassword shard.name shard.spec.targetNamespace password))
      (applyOwned ctx shard .postgreSQLSecret (buildPostgreSQLSecret shard password)) := by
    refine Guarded.applyOwned ctx shard .postgreSQLSecret ?_ (carriesPassword_build shard password)
    intro _ _ stands
    exact ⟨_, rfl, rfl⟩
  apply (secret.mapError _).bind
  intro _
  apply ((other .postgreSQLInitConfigMap (by decide) rfl _).mapError _).bind
  intro _
  apply ((still (preservePostgreSQLVolumeClaimTemplates_still ctx shard _)).mapError _).bind
  intro statefulSet
  apply ((other .postgreSQLStatefulSet (by decide) rfl _).mapError _).bind
  intro _
  exact (other .postgreSQLService (by decide) rfl _).mapError _

end pass

/-! ## Runs -/

/-- What is asked of the steps of a run.  Its passes are on this shard, which has its
database in the cluster, and each can read the credentials; others leave the Secret
alone. -/
def Step.ReadsCredentials (name namespace_ : String) (state : State) : Step → Prop
  | .pass _ passed ctx => passed = name ∧ ctx.faults .getCredentials = none ∧
      ∀ copy ∈ state.cluster.registry.copy ctx name,
        copy.spec.storage.type = .inClusterPostgreSQL ∧ copy.spec.targetNamespace = namespace_
  | .surround surroundings =>
      surroundings.objects.find? (credentialsKey name namespace_) =
        state.cluster.objects.find? (credentialsKey name namespace_)
  | _ => True

theorem KeepsPassword.step {name namespace_ password : String} (nonempty : password ≠ "")
    {state : State} (keeps : KeepsPassword name namespace_ password state) {step : Step}
    (reads : step.ReadsCredentials name namespace_ state) :
    KeepsPassword name namespace_ password (state.step step) := by
  cases step with
  | edit edit => exact keeps.congr rfl rfl
  | surround surroundings => exact ⟨reads ▸ keeps.live, keeps.applied⟩
  | createCRD crd =>
      simp only [State.step, Cluster.createCRD]
      split
      · exact keeps
      · exact keeps.congr rfl rfl
  | deleteCRD name => exact keeps.congr rfl rfl
  | pass r passed ctx =>
      obtain ⟨rfl, answered, inCluster⟩ := reads
      apply reconcile_guarded rfl keeps
      intro copy start adopted begun
      obtain ⟨stored, copied, _, spec, _⟩ := adopted.base
      obtain ⟨type, target⟩ := inCluster stored copied
      rw [← spec] at type target
      obtain rfl := adopted.name
      obtain rfl := target
      have database : Component.postgreSQLSecret ∈ storageComponents copy := by
        rw [storageComponents, type]
        exact List.mem_cons_self
      exact reconcileCopy_guarded database (by decide)
        (reconcileInClusterPostgreSQL_keepsPassword copy answered nonempty) start begun

/-- Once the credentials Secret of a shard has a password, no pass that can read it
applies the Secret with another one, whatever else fails. -/
theorem run_keeps_password {name namespace_ password : String} (nonempty : password ≠ "")
    {start : State} (fresh : start.trace = [])
    (live : HasPassword password (start.cluster.objects.find? (credentialsKey name namespace_)))
    {steps : List Step}
    (reads : Along State.step (fun state step => step.ReadsCredentials name namespace_ state)
      start steps) :
    HasPassword password
        ((run State.step start steps).cluster.objects.find? (credentialsKey name namespace_)) ∧
      ∀ data, .applied (credentialsKey name namespace_) data ∈ (run State.step start steps).trace →
        CarriesPassword name namespace_ password data := by
  have initially : KeepsPassword name namespace_ password start := by
    refine ⟨live, ?_⟩
    rw [fresh]
    nofun
  have keeps := reads.invariant (fun _ _ permitted keeps => keeps.step nonempty permitted)
    initially
  exact ⟨keeps.live, keeps.applied⟩

/-- A cluster in which the credentials of the shard `a` are there. -/
def Cluster.credentialed : Cluster :=
  { Cluster.bare with
    objects := (Store.empty : Store Object.key).insert
      { key := credentialsKey "a" "target", owner := some "a"
        data := [("POSTGRES_PASSWORD", "secret")] } }

/-- The shard is created again, and a pass meets what the schedule says. -/
def recreate (ctx : Schedule) : List Step := [
  .edit (.create "a" { plainSpec [] with storage := { type := .inClusterPostgreSQL } }),
  .pass .bare "a" ctx]

/-- The statement for a pass in which the write of the StatefulSet fails. -/
theorem run_keeps_password_recreate :
    (∀ data, .applied (credentialsKey "a" "target") data ∈
        (run State.step { cluster := .credentialed }
          (recreate (.failing [.apply .postgreSQLStatefulSet]))).trace →
      CarriesPassword "a" "target" "secret" data) ∧
    .applied (credentialsKey "a" "target") (buildPostgreSQLSecret
        { name := "a", uid := 0, generation := 1, resourceVersion := 0, spec := plainSpec [] }
        "secret") ∈
      (run State.step { cluster := .credentialed }
        (recreate (.failing [.apply .postgreSQLStatefulSet]))).trace := by
  refine ⟨?_, by decide +kernel⟩
  have reads : Along State.step (fun state step => step.ReadsCredentials "a" "target" state)
      { cluster := .credentialed } (recreate (.failing [.apply .postgreSQLStatefulSet])) :=
    ⟨trivial, ⟨rfl, rfl, by decide +kernel⟩, trivial⟩
  exact (run_keeps_password (by decide) rfl ⟨_, rfl, by decide +kernel⟩ reads).2

/-- When the read of the credentials times out, they are applied with a new password. -/
theorem recreate_changes_password :
    ∃ data, .applied (credentialsKey "a" "target") data ∈
        (run State.step { cluster := .credentialed }
          (recreate (.failing [.getCredentials]))).trace ∧
      data.lookup "POSTGRES_PASSWORD" ≠ some "secret" := by
  refine ⟨buildPostgreSQLSecret
    { name := "a", uid := 0, generation := 1, resourceVersion := 0, spec := plainSpec [] }
    (generatePassword fun _ => 0), ?_⟩
  decide +kernel

end KubeShard.Apishard
