import KubeShard.Apishard.Succeeded

/-!
# The connection Secret

A pass that finds the credentials of the admin client writes them to a Secret and names
that Secret in the status.  A pass that does not find them goes on without a word: the
status still names the Secret, and the cleanup deletes it as an orphan.
-/

namespace KubeShard.Apishard

open Resources Prog Aggregation

/-! ## Objects that stand -/

/-- The object has this data, and the cleanup of the pass will spare it. -/
structure Standing (key : ObjectKey) (data : List (String × String)) (state : State) : Prop where
  tracked : key ∈ state.tracked
  stored : ∃ object, state.cluster.objects.find? key = some object ∧ object.data = data

namespace Standing

variable {key : ObjectKey} {data : List (String × String)} {before after : State}

/-- Other objects may be applied. -/
theorem beside (standing : Standing key data before) {keys : List ObjectKey}
    (applied : Applied keys before after) (other : key ∉ keys) (own : key.kind.shared = false) :
    Standing key data after := by
  refine ⟨?_, ?_⟩
  · rw [applied.tracked]
    exact List.mem_append_left _ standing.tracked
  · rw [applied.objects key other own]
    exact standing.stored

theorem untouched (standing : Standing key data before) (applied : Applied [] before after)
    (own : key.kind.shared = false) : Standing key data after :=
  standing.beside applied List.not_mem_nil own

theorem cleaned {ctx : Schedule} {shard : APIShard} (standing : Standing key data before)
    (cleaned : Cleaned ctx shard before after) : Standing key data after := by
  refine ⟨?_, ?_⟩
  · rw [cleaned.tracked]
    exact standing.tracked
  · rw [cleaned.kept key standing.tracked]
    exact standing.stored

end Standing

section steps

variable {r : Reconciler} {ctx : Schedule} {shard : APIShard} {state after : State}

/-- A component that was applied stands. -/
theorem applyOwned_standing {component : Component} {data : List (String × String)}
    {spec : ObjectSpec}
    (ran : exec (applyOwned ctx shard component data spec) state = (.ok (), after)) :
    Standing (component.key shard) data after := by
  obtain ⟨_, ran⟩ := exec_callAPI_ok.mp ran
  obtain ⟨_, applied, first, second⟩ := exec_bind_eq_ok.mp ran
  cases second
  simp only [applyObject, exec_bind, exec_get] at first
  split at first
  · cases first
  · cases first
    let object : Object :=
      { key := component.key shard, owner := some shard.name, data := data, spec := spec }
    let cluster := (state.edited ctx (.apply component)).cluster
    refine ⟨List.mem_append_right _ (List.mem_singleton_self _), cluster.merge object, ?_,
      cluster.merge_data object⟩
    have inserted := Store.find?_insert_self cluster.objects (cluster.merge object)
    rwa [Cluster.merge_key] at inserted

/-- No other step touches the admin kubeconfig. -/
theorem standing_admits (data : List (String × String)) {applyStep : ApplyStep}
    (other : applyStep ≠ .kubeconfig) :
    Admits ctx shard applyStep (.keeps (Standing (Component.adminKubeconfig.key shard) data)) where
  silent _ _ still _ standing := standing.untouched still.untouched rfl
  apply component isStep object isKey state standing := by
    obtain ⟨keys, inside, applied⟩ := applyAndTrack_applied object state
    apply standing.beside applied _ rfl
    intro membership
    have same : Component.adminKubeconfig.key shard = component.key shard :=
      (List.mem_singleton.mp (inside membership)).trans isKey
    rcases component.plain_or_hashed with plain | ⟨text, rfl⟩
    · obtain rfl := Component.eq_of_key_eq rfl plain same
      exact other isStep.symm
    · cases congrArg ObjectKey.kind same

/-- What comes after the objects leaves the ones standing that the pass has tracked. -/
theorem reconcileServing_standing {key : ObjectKey} (data : List (String × String))
    (own : key.kind.shared = false) :
    Respects (.keeps (Standing key data)) (reconcileServing ctx shard) := by
  have stands {α : Type} {program : Pass α} (respects : Respects untouched program) :
      Respects (.keeps (Standing key data)) program :=
    respects.mono fun _ _ applied standing => standing.untouched applied own
  apply (orSetError_respects ctx shard
    (fun failure => stands (setErrorAndRequeue_untouched ctx shard failure))
    (stands (reconcileAPIServices_untouched ctx shard))).bind
  intro _
  apply (stands (untouched_of_observing (reconcileCRDConflicts_observing ctx shard))).bind
  intro _
  apply (stands (untouched_of_aloof (updateHealthStatus_aloof ctx shard))).bind
  intro _
  apply Respects.bind
  · exact fun state standing => standing.cleaned (cleanupOrphans_cleaned ctx shard state)
  intro _
  exact (stands (reportSuccess_untouched ctx shard)).bind fun _ => .of_pure _

/-- What comes before the admin kubeconfig does not touch its credentials. -/
theorem Stages.credentials {start begun stored granted connected applied : State}
    (stages : Stages r ctx shard start begun stored granted connected applied) :
    credentials shard granted.cluster = credentials shard start.cluster := by
  obtain ⟨_, second, certificates, ran⟩ := exec_bind_eq_ok.mp stages.access
  obtain ⟨_, third, authConfig, ran⟩ := exec_bind_eq_ok.mp ran
  obtain ⟨_, fourth, account, ran⟩ := exec_bind_eq_ok.mp ran
  obtain ⟨_, fifth, delegator, ran⟩ := exec_bind_eq_ok.mp ran
  obtain ⟨_, sixth, scc, ran⟩ := exec_bind_eq_ok.mp ran
  obtain ⟨_, seventh, header, returned⟩ := exec_bind_eq_ok.mp ran
  cases returned
  obtain ⟨⟨password, set, _, stores⟩, _⟩ := reconcileStorage_lays stages.storage
  let given : Inputs :=
    ⟨password, set, collectorConnection r shard begun.cluster, headerCA sixth.cluster, none⟩
  have early := lays_early (stores given rfl rfl rfl) certificates authConfig account delegator scc
  have copies : Lays ([Component.requestHeaderCA].map (given.object r shard)) sixth granted :=
    (reconcileRequestHeaderCA_lays rfl header).1
  rw [copies.credentials, early.credentials, Apishard.credentials, Apishard.credentials,
    stages.untouched.objects _ List.not_mem_nil rfl,
    stages.untouched.objects _ List.not_mem_nil rfl]

/-- What the status says about the admin kubeconfig. -/
def connectionReference (shard : APIShard) : ConnectionSecretReference :=
  ⟨Component.adminKubeconfig.name shard, shard.spec.targetNamespace⟩

/-- The credentials are used, or something is missing and the status stays as it is. -/
theorem reconcileCopy_connects {start : State} {result : Result}
    (ran : exec (reconcileCopy r ctx shard) start = (.ok result, after)) :
    (∃ given, credentials shard start.cluster = some given ∧
      after.status.connectionSecret = some (connectionReference shard) ∧
      Standing (Component.adminKubeconfig.key shard) (connectionData shard given) after) ∨
    (credentials shard start.cluster = none ∨ credentialsUnread ctx = true) ∧
      after.status.connectionSecret = start.status.connectionSecret := by
  obtain ⟨begun, stored, granted, connected, applied, stages, _, serving⟩ :=
    reconcileCopy_stages ran
  have later : after.status.connectionSecret = connected.status.connectionSecret :=
    (((reconcileServing_assigning ctx shard).rel serving).connectionSecret (by decide)).trans
      (by rw [stages.working.status])
  rcases reconcileAdminKubeconfig_cases ctx shard granted with
    ⟨silent, missing⟩ | ⟨given, isGiven, applies⟩
  · right
    rw [stages.kubeconfig] at silent
    rw [stages.credentials] at missing
    refine ⟨missing, ?_⟩
    calc after.status.connectionSecret
        = connected.status.connectionSecret := later
      _ = stored.status.connectionSecret := by rw [silent.status, stages.granting.status]
      _ = begun.status.connectionSecret :=
          ((reconcileStorage_assigning ctx shard r).rel stages.storage).connectionSecret (by decide)
      _ = start.status.connectionSecret := stages.initialized.connectionSecret (by decide)
  · left
    rw [stages.credentials] at isGiven
    rw [stages.kubeconfig] at applies
    obtain ⟨_, written, first, second⟩ := exec_bind_eq_ok.mp applies.symm
    cases second
    have written : Standing (Component.adminKubeconfig.key shard) (connectionData shard given)
        written := applyOwned_standing (exec_mapError_eq_ok.mp first)
    have connected := (reconcileWorkload_respects r (standing_admits _ (by decide))
      (standing_admits _ (by decide))).rel stages.workload ⟨written.tracked, written.stored⟩
    exact ⟨given, isGiven, later, (reconcileServing_standing _ rfl).rel serving connected⟩

end steps

/-! ## Every run -/

/-- Where a pass does not write the connection Secret, it reads a status that names none: on
a shard that is being deleted, when it is told that its shard is missing, and when the
Secrets it needs are not there, are not filled or cannot be read. -/
structure Furnished (cluster : Cluster) (ctx : Schedule) (name : String) : Prop where
  truthful : ∀ failure, ctx.faults .getShard = some failure → failure.isNotFound = false
  deleting : ∀ shard,
    (cluster.registry.edits (ctx.edits .getShard)).shards.find? name = some shard →
    shard.deleting = true → shard.status.connectionSecret = none
  live : ∀ shard, cluster.registry.copy ctx name = some shard →
    shard.status.connectionSecret = none ∨
      credentialsReady shard cluster = true ∧ credentialsUnread ctx = false

/-- If the status names a connection Secret, it is there, with what this pass has read. -/
def Connects (cluster : Cluster) (stored : APIShard) (after : State) : Prop :=
  ∀ reference, stored.status.connectionSecret = some reference →
    ∃ given object, credentials stored cluster = some given ∧
      after.cluster.objects.find? ⟨.secret, reference.namespace_, reference.name⟩ = some object ∧
      object.data = connectionData stored given

section runs

variable {r : Reconciler} {ctx : Schedule} {name : String} {state after : State} {result : Result}

/-- A pass on a copy of the shard. -/
theorem Adopted.connects {copy : APIShard} {start : State}
    (adopted : Adopted ctx name state copy start) (wf : state.cluster.registry.Wf)
    (furnished : Furnished state.cluster ctx name)
    (ran : exec (reconcileCopy r ctx copy) start = (.ok result, after)) {stored : APIShard}
    (found : after.cluster.registry.shards.find? name = some stored) :
    Connects state.cluster stored after := by
  obtain rfl := adopted.name
  have isStored := reconcileCopy_stored (adopted.tended wf) ran
  rw [found] at isStored
  cases isStored
  intro reference isNamed
  have same : credentials copy start.cluster = credentials copy state.cluster := by
    rw [adopted.cluster]
    rfl
  rcases reconcileCopy_connects ran with ⟨given, isGiven, named, standing⟩ | ⟨missing, kept⟩
  · obtain ⟨object, stands, data⟩ := standing.stored
    obtain rfl := Option.some.inj (named.symm.trans isNamed)
    exact ⟨given, object, same ▸ isGiven, stands, data⟩
  · obtain ⟨read, copied, _, spec, status⟩ := adopted.base
    rcases furnished.live read copied with unnamed | ⟨ready, unread⟩
    · rw [kept, adopted.status, status, unnamed] at isNamed
      cases isNamed
    · have name : copy.name = read.name := (Registry.copy_name copied).symm
      have isReady : credentialsReady copy state.cluster = true := by
        rw [← ready]
        simp only [credentialsReady, credentials, targetKey, pkiSecretName, adminClientSecretName,
          named, spec, name]
      rcases missing with absent | isUnread
      · rw [credentialsReady, ← same, absent] at isReady
        cases isReady
      · rw [unread] at isUnread
        cases isUnread

/-- After any run, a pass that returns no error leaves the connection Secret that the status
names, with what the pass has read, if it writes that Secret or reads a status without. -/
theorem connectionSecret_stands {start : State} (initial : Initial start) (steps : List Step)
    (furnished : Furnished (run State.step start steps).cluster ctx name)
    (ran : exec (reconcile r ctx name) (run State.step start steps) = (.ok result, after)) :
    ∀ stored, after.cluster.registry.shards.find? name = some stored →
      Connects (run State.step start steps).cluster stored after := by
  intro stored found
  rcases reconcile_ok furnished.truthful ran with
    ⟨copy, begun, adopted, ran⟩ | ⟨deleting, follows⟩
  · exact adopted.connects (run_wf initial steps) furnished ran found
  · intro reference isNamed
    rcases follows.find?_status found with empty | ⟨shard, read, status⟩
    · rw [empty] at isNamed
      cases isNamed
    · rw [status, furnished.deleting shard read (deleting shard read)] at isNamed
      cases isNamed

/-- The admin client Secret of the shard `a` with this content. -/
def adminClient (data : List (String × String)) : Object where
  key := ⟨.secret, "target", "a-admin-client-cert"⟩
  data := data

/-- The shard `a` is served and connected. -/
def connecting : List Step :=
  let serving := Surroundings.serving "a"
  [.edit (.create "a" (plainSpec [⟨"g", ["v1"]⟩])),
    .surround { serving with
      objects := serving.objects.insert (adminClient [("tls.crt", "cert"), ("tls.key", "key")]) },
    .pass .bare "a" {}]

/-- Then its admin client Secret is issued anew, or emptied. -/
def reissued (data : List (String × String)) : State :=
  let connected := run State.step { cluster := .bare } connecting
  run State.step { cluster := .bare } (connecting ++ [.surround { Surroundings.serving "a" with
    objects := connected.cluster.objects.insert (adminClient data) }])

/-- The content of an admin client Secret that was issued again. -/
def renewed : List (String × String) := [("tls.crt", "cert2"), ("tls.key", "key2")]

/-- The statement for a certificate that was issued anew. -/
theorem connectionSecret_stands_renewed :
    ∃ stored, (exec (reconcile .bare {} "a")
        (reissued renewed)).2.cluster.registry.shards.find? "a" = some stored ∧
      Connects (reissued renewed).cluster stored
        (exec (reconcile .bare {} "a") (reissued renewed)).2 ∧
      stored.status.connectionSecret.isSome = true := by
  obtain ⟨deleting, ready, returned, stored, found, isSet⟩ :
      (∀ shard ∈ ((reissued renewed).cluster.registry.edits
        (Schedule.edits {} .getShard)).shards.find? "a", shard.deleting = false) ∧
      (∀ shard ∈ (reissued renewed).cluster.registry.copy {} "a",
        credentialsReady shard (reissued renewed).cluster = true) ∧
      (exec (reconcile .bare {} "a") (reissued renewed)).1.isOk = true ∧
      ∃ stored ∈ (exec (reconcile .bare {} "a")
        (reissued renewed)).2.cluster.registry.shards.find? "a",
        stored.status.connectionSecret.isSome = true := by
    decide +kernel
  have furnished : Furnished (reissued renewed).cluster {} "a" := by
    refine ⟨?_, ?_, ?_⟩
    · intro failure fault
      cases fault
    · intro shard found deleted
      rw [deleting shard found] at deleted
      cases deleted
    · exact fun shard copied => .inr ⟨ready shard copied, rfl⟩
  obtain ⟨result, ran⟩ := exec_eq_of_isOk returned
  exact ⟨stored, found, connectionSecret_stands initial_bare _ furnished ran stored found, isSet⟩

/-- The admin client Secret loses its keys: the pass returns no error, the status still names
the connection Secret, and the cleanup has deleted it. -/
theorem emptied_credentials_dangle :
    ∃ stored reference,
      (exec (reconcile .bare {} "a") (reissued [])).1.isOk = true ∧
      (exec (reconcile .bare {} "a") (reissued [])).2.cluster.registry.shards.find? "a" =
        some stored ∧
      stored.status.connectionSecret = some reference ∧
      ((reissued []).cluster.objects.find?
        ⟨.secret, reference.namespace_, reference.name⟩).isSome = true ∧
      (exec (reconcile .bare {} "a") (reissued [])).2.cluster.objects.find?
        ⟨.secret, reference.namespace_, reference.name⟩ = none ∧
      ¬Connects (reissued []).cluster stored (exec (reconcile .bare {} "a") (reissued [])).2 := by
  obtain ⟨returned, stored, found, reference, isNamed, before, gone⟩ :
      (exec (reconcile .bare {} "a") (reissued [])).1.isOk = true ∧
      ∃ stored ∈ (exec (reconcile .bare {} "a")
        (reissued [])).2.cluster.registry.shards.find? "a",
      ∃ reference ∈ stored.status.connectionSecret,
      ((reissued []).cluster.objects.find?
        ⟨.secret, reference.namespace_, reference.name⟩).isSome = true ∧
      (exec (reconcile .bare {} "a") (reissued [])).2.cluster.objects.find?
        ⟨.secret, reference.namespace_, reference.name⟩ = none := by
    decide +kernel
  refine ⟨stored, reference, returned, found, isNamed, before, gone, ?_⟩
  intro connects
  obtain ⟨given, object, _, stands, _⟩ := connects reference isNamed
  rw [gone] at stands
  cases stands

end runs

end KubeShard.Apishard
