import KubeShard.Apishard.Live

/-!
# Steps that leave the status alone

Most steps of a pass only talk to the API servers.  Neither the status of the copy nor
the clock changes in them, whatever they are answered.
-/

namespace KubeShard.Apishard

open Resources Prog Aggregation

variable (r : Reconciler) (ctx : Schedule) (shard : APIShard)

theorem applyOwned_silent (component : Component) (data : List (String × String))
    (spec : ObjectSpec) : Respects silent (applyOwned ctx shard component data spec) := by
  apply callAPI_silent
  exact (applyObject_silent _).bind fun _ => .of_modify fun _ => ⟨rfl, rfl⟩

theorem ensureNamespace_silent : Respects silent (ensureNamespace ctx shard) :=
  callAPI_silent (applyObject_silent _)

/-! ## Storage -/

theorem getOrGeneratePostgresPassword_silent :
    Respects silent (getOrGeneratePostgresPassword ctx shard) :=
  silent_of_hushed (getOrGeneratePostgresPassword_hushed ctx shard)

theorem reconcileKine_silent : Respects silent (reconcileKine ctx shard) :=
  reconcileKine_respects ctx shard (silent_admits ctx shard _)

theorem inClusterMetrics_silent : Respects silent (inClusterMetrics r ctx shard) :=
  applyOTelCollector_respects r ctx shard (silent_admits ctx shard _) _ _

theorem externalMetrics_silent : Respects silent (externalMetrics r ctx shard) :=
  externalMetrics_respects r ctx shard (silent_admits ctx shard _)

/-! ## APIServices and CRDs -/

variable {ctx shard} in
theorem silent_of_registering {wanted listed : List String} {before after : State}
    (registering : Registering ctx shard wanted listed before after) : Silent before after :=
  ⟨registering.status, by rw [registering.cluster]⟩

theorem syncCRDsToSecondary_silent (names : List String) :
    Respects silent (syncCRDsToSecondary ctx shard names) :=
  silent_of_hushed (syncCRDsToSecondary_hushed ctx shard names)

/-! ## Health -/

theorem checkDeploymentHealth_silent : Respects silent (checkDeploymentHealth ctx shard) :=
  silent_of_hushed (checkDeploymentHealth_hushed ctx shard)

theorem verifySecondaryAuth_silent : Respects silent (verifySecondaryAuth ctx shard) :=
  silent_of_hushed (verifySecondaryAuth_hushed ctx shard)

variable {ctx} in
theorem silent_of_syncing {α : Type} {program : Pass α} (respects : Respects (syncing ctx) program) :
    Respects silent program :=
  respects.mono fun _ _ syncing => ⟨syncing.status, syncing.clock⟩

theorem createOrUpdate_silent (kind : SyncKind) :
    Respects silent (createOrUpdate ctx shard kind) :=
  silent_of_syncing (createOrUpdate_syncing ctx shard kind)

theorem readSync_silent (kind : SyncKind) : Respects silent (readSync ctx shard kind) :=
  silent_of_syncing (readSync_syncing ctx shard kind)

theorem cleanupOrphans_silent : Respects silent (cleanupOrphans ctx shard) := by
  apply Respects.of_get.bind
  intro _
  apply (Respects.of_modify fun _ => ⟨rfl, rfl⟩ : Respects silent (record _)).bind
  intro _
  apply (callAPI_silent (.of_pure _)).attempt.bind
  intro answer
  cases answer with
  | ok value => exact .of_modify fun _ => ⟨rfl, rfl⟩
  | error failure =>
      apply Respects.bind _ fun _ => .of_throw failure
      exact .of_modify fun _ => ⟨rfl, rfl⟩

end KubeShard.Apishard
