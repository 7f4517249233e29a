import KubeShard.Namespacesync.Converge
import KubeShard.Webhooksync.Mirror

/-!
# Sync passes with nothing to do

Over a secondary that already is the desired mirror neither sync controller has
anything to write but its status.  The status carries the time of the pass, and
both controllers set it whether or not they synced anything.  An idle pass thus
leaves the object as it is only when it runs in the second in which the status
was written.
-/

namespace KubeShard

/-! ## NamespaceSync -/

namespace Namespacesync

open Prog

variable {faults : Call → Option Fault}
variable {labelSelectorAsSelector : LabelSelector → Except ApiError (Labels → Bool)}
variable {selector : Labels → Bool} {nsSync : NamespaceSync} {time : Nat} {world : World}

/-- The secondary is the desired mirror, and the status is what an error-free pass
over it wrote at `time`. -/
structure Settled (selector : Labels → Bool) (nsSync : NamespaceSync) (time : Nat)
    (world : World) : Prop where
  present : world.sync = some nsSync
  complete : ∀ name ∈ desired selector nsSync world, name ∈ world.secondary.keys
  tight : ∀ name ∈ world.secondary.keys,
    name ∈ desired selector nsSync world ∨ name ∈ systemNamespaces
  reported : ∃ earlier, nsSync =
    syncedStatus { nsSync with status := earlier } time (desired selector nsSync world) []

variable (faults) in
theorem createMissing_idle {excluded existing : List String} {namespaces : List Namespace}
    (there : ∀ ns ∈ namespaces, ns.name ∈ excluded ∨ ns.name ∈ existing) (world : World) :
    exec (createMissing faults excluded existing namespaces) world = (.ok [], world) := by
  induction namespaces with
  | nil => rfl
  | cons ns rest ih =>
      rw [createMissing, if_pos (there ns List.mem_cons_self)]
      exact ih fun other membership => there other (List.mem_cons_of_mem _ membership)

variable (faults) in
theorem deleteOrphaned_idle {wanted : List String} {namespaces : List Namespace}
    (kept : ∀ ns ∈ namespaces, ns.name ∈ wanted ∨ ns.name ∈ systemNamespaces)
    (world : World) :
    exec (deleteOrphaned faults wanted namespaces) world = (.ok [], world) := by
  induction namespaces with
  | nil => rfl
  | cons ns rest ih =>
      rw [deleteOrphaned, if_pos (kept ns List.mem_cons_self)]
      exact ih fun other membership => kept other (List.mem_cons_of_mem _ membership)

/-- Reporting the same outcome again only moves the time of the sync. -/
theorem syncedStatus_again (nsSync : NamespaceSync) (time now : Nat) (names : List String) :
    syncedStatus (syncedStatus nsSync time names []) now names [] =
      { syncedStatus nsSync time names [] with status.lastSyncTime := some now } := by
  simp only [syncedStatus, List.length_nil, gt_iff_lt, Nat.lt_irrefl, if_false, setReady]
  rw [setStatusCondition_again]

/-- Moving the time of the sync changes the status unless it was that time. -/
theorem Settled.unmoved_iff (settled : Settled selector nsSync time world) (now : Nat) :
    { nsSync.status with lastSyncTime := some now } = nsSync.status ↔ now = time := by
  have synced : nsSync.status.lastSyncTime = some time := by
    obtain ⟨earlier, reported⟩ := settled.reported
    rw [reported]
    rfl
  constructor
  · intro same
    have moved := congrArg NamespaceSyncStatus.lastSyncTime same
    exact Option.some.inj (moved.trans synced)
  · intro equal
    rw [equal, ← synced]

/-- The stored object is the same exactly if its status is. -/
theorem NamespaceSync.withStatus_eq_iff {nsSync : NamespaceSync} {status : NamespaceSyncStatus} :
    some { nsSync with status := status } = some nsSync ↔ status = nsSync.status := by
  rw [Option.some.injEq]
  constructor
  · exact congrArg NamespaceSync.status
  · intro same
    rw [same]

/-- The loops of an idle pass do nothing, and its report only moves the time. -/
theorem Settled.pass (settled : Settled selector nsSync time world)
    (parsed : labelSelectorAsSelector nsSync.spec.labelSelector = .ok selector)
    (onlyWrites : OnlyNamespaceWritesFail faults) :
    let after := (exec (reconcile labelSelectorAsSelector faults) world).2
    after.secondary = world.overtaken.secondary ∧
      after.sync = some { nsSync with status.lastSyncTime := some world.clock } := by
  have there : ∀ ns ∈ selected selector world, ns.name ∈ nsSync.spec.excludeNamespaces ∨
      ns.name ∈ world.secondary.items.map Namespace.name := by
    intro ns membership
    by_cases excluded : ns.name ∈ nsSync.spec.excludeNamespaces
    · exact .inl excluded
    · obtain ⟨inPrimary, matched⟩ := List.mem_filter.mp membership
      exact .inr (settled.complete _ (mem_desired.mpr ⟨ns, inPrimary, matched, rfl, excluded⟩))
  have kept : ∀ ns ∈ world.secondary.items,
      ns.name ∈ desired selector nsSync world ∨ ns.name ∈ systemNamespaces := fun ns membership =>
    settled.tight _ (Store.mem_keys.mpr ⟨ns, membership, rfl⟩)
  have statusClean := onlyWrites.clean .updateStatus (by simp)
  have written : syncedStatus nsSync world.clock (desired selector nsSync world) [] =
      { nsSync with status.lastSyncTime := some world.clock } := by
    obtain ⟨earlier, reported⟩ := settled.reported
    have again := syncedStatus_again { nsSync with status := earlier } time world.clock
      (desired selector nsSync world)
    rwa [← reported] at again
  have creates := createMissing_idle faults there world.overtaken
  have deletes := deleteOrphaned_idle faults kept world.overtaken
  have sameClock : world.overtaken.clock = world.clock := rfl
  have stored : world.overtaken.sync = some nsSync := settled.present
  rw [desired] at deletes written
  simp only [reconcile_of_clean_reads settled.present parsed onlyWrites,
    syncNamespaces, exec_bind, creates, deletes, exec_get, List.append_nil]
  simp [sameClock, written, updateStatus, exec_logged, call, statusClean, replace, exec_bind,
    stored, record]

/-- A pass without faults leaves a settled world behind, whatever the clock says
later. -/
theorem settled_of_pass (present : world.sync = some nsSync) (alone : world.raced = none)
    (finalizes : world.finalizes = true)
    (parsed : labelSelectorAsSelector nsSync.spec.labelSelector = .ok selector) (now : Nat) :
    ∃ next, next.spec = nsSync.spec ∧ Settled selector next world.clock
      { (exec (reconcile labelSelectorAsSelector fun _ => none) world).2 with clock := now } := by
  obtain ⟨created, deleted, createErrors, deleteErrors, creates, deletes, syncRuns⟩ :=
    syncNamespaces_spec (fun _ => none) selector nsSync world
  have noCreateErrors := creates.errors_nil.mpr fun _ _ => rfl
  have noDeleteErrors := deletes.errors_nil.mpr fun _ _ => rfl
  have keys := keys_of_no_errors (.of_none alone selector nsSync) creates deletes noCreateErrors
    finalizes noDeleteErrors
  have inputs := creates.inputs.trans deletes.inputs
  have stored : deleted.sync = some nsSync := inputs.sync.trans present
  let next := syncedStatus nsSync world.clock (desired selector nsSync world) []
  have runs : (exec (reconcile labelSelectorAsSelector fun _ => none) world).2 =
      { deleted with
        sync := some next
        trace := deleted.trace ++ [.updateStatus next.status none] } := by
    rw [reconcile_of_clean_reads present parsed fun _ faulty => absurd rfl faulty, syncRuns,
      noCreateErrors, noDeleteErrors]
    simp [updateStatus, exec_logged, call, replace, exec_bind, stored, record, next]
  have same : desired selector next { deleted with
      sync := some next, clock := now
      trace := deleted.trace ++ [.updateStatus next.status none] } =
        desired selector nsSync world := by
    simp [desired, selected, inputs.primary, next]
  rw [runs]
  refine ⟨next, syncedStatus_spec _ _ _ _, rfl, ?_, ?_, nsSync.status, ?_⟩
  · intro name isDesired
    rw [same] at isDesired
    exact (keys name).mpr (.inl isDesired)
  · intro name used
    rw [same]
    exact ((keys name).mp used).imp_right And.left
  · rw [same]
    rfl

end Namespacesync

/-! ## WebhookSync -/

namespace Webhooksync

open Prog

variable {ρ : Type} {η : Kind → Type}
variable {whSync : WebhookSync} {time : Nat} {world : World ρ η}

/-- The configurations of a kind that the WebhookSync asks for. -/
def wanted (whSync : WebhookSync) (world : World ρ η) (kind : Kind) :
    List (Configuration ρ (η kind)) :=
  asked kind whSync.apiGroups (world.primary kind).items

/-- The secondary is the desired mirror, and the status is what an error-free pass
over it wrote at `time`. -/
structure Settled (whSync : WebhookSync) (time : Nat) (world : World ρ η) : Prop where
  present : world.sync = some whSync
  mirrors : ∀ kind, Mirrors kind (wanted whSync world kind) (world.secondary kind)
  reported : ∃ earlier, whSync =
    syncedStatus { whSync with status := earlier } time (wanted whSync world .validating).length
      (wanted whSync world .mutating).length []

theorem deleteStaleItems_noFaults (kind : Kind) (currentNames : List String)
    (items : List (Configuration ρ (η kind))) (world : World ρ η) :
    (exec (deleteStaleItems noFaults kind currentNames items) world).1 = .ok () := by
  induction items generalizing world with
  | nil => rfl
  | cons item rest ih =>
      rw [deleteStaleItems]
      by_cases current : item.name ∈ currentNames
      · rw [if_pos current]
        exact ih world
      · simp only [current, if_false, exec_bind, exec_attempt, deleteConfiguration, exec_logged,
          call, noFaults, exec_get]
        by_cases present : item.name ∈ (world.secondary kind).keys
        · simp only [present, if_true, exec_modify]
          exact ih _
        · simp only [present, if_false, exec_throw, ApiError.isNotFound_notFound, if_true]
          exact ih _

theorem deleteStale_noFaults (kind : Kind) (currentNames : List String) (world : World ρ η) :
    ∃ after, exec (deleteStale noFaults kind currentNames) world = (.ok (), after) ∧
      SameInputs world after :=
  ⟨_, Prod.ext (deleteStaleItems_noFaults kind currentNames (world.secondary kind).items world)
    rfl, (deleteStale_deletes noFaults kind currentNames world).inputs⟩

variable [DecidableEq ρ] [∀ kind, DecidableEq (η kind)]

/-- Without faults every configuration is synced: the one listed as synced is the
one asked for. -/
theorem syncConfiguration_noFaults (kind : Kind) (src : Configuration ρ (η kind))
    (world : World ρ η) :
    (exec (syncConfiguration noFaults kind src) world).1 = .ok () := by
  have counted := ((syncConfiguration_syncs noFaults src world).names_iff src.name).mpr
    ⟨src, List.mem_singleton_self src, rfl, succeeds_noFaults kind world src.name⟩
  cases answer : (exec (syncConfiguration noFaults kind src) world).1 with
  | ok done => rfl
  | error failure =>
      rw [answer] at counted
      cases counted

theorem syncConfigurations_answer (kind : Kind) (targetGroups : List String)
    (sources : List (Configuration ρ (η kind))) (world : World ρ η) :
    (exec (syncConfigurations noFaults kind targetGroups sources) world).1 =
      .ok ⟨(asked kind targetGroups sources).map Configuration.name, []⟩ := by
  induction sources generalizing world with
  | nil => rfl
  | cons src rest ih =>
      rw [syncConfigurations]
      by_cases target : shouldSync kind src.webhooks targetGroups
      · have split : asked kind targetGroups (src :: rest) =
            src :: asked kind targetGroups rest := List.filter_cons_of_pos target
        have first := syncConfiguration_noFaults kind src world
        have second := ih (exec (syncConfiguration noFaults kind src) world).2
        simp only [target, if_true, exec_bind, exec_attempt, first]
        generalize exec (syncConfigurations noFaults kind targetGroups rest)
          (exec (syncConfiguration noFaults kind src) world).2 = result at second ⊢
        obtain ⟨answer, after⟩ := result
        cases second
        rw [split, List.map_cons]
        rfl
      · have split : asked kind targetGroups (src :: rest) = asked kind targetGroups rest :=
          List.filter_cons_of_neg target
        rw [if_neg target, split]
        exact ih world

theorem syncConfigurations_noFaults {kind : Kind} (targetGroups : List String)
    {sources : List (Configuration ρ (η kind))}
    (nodup : (sources.map Configuration.name).Nodup) (world : World ρ η) :
    ∃ after, exec (syncConfigurations noFaults kind targetGroups sources) world =
        (.ok ⟨(asked kind targetGroups sources).map Configuration.name, []⟩, after) ∧
      SameInputs world after := by
  obtain ⟨synced, after, runs, syncs⟩ := syncConfigurations_syncs noFaults targetGroups nodup world
  have answer := syncConfigurations_answer kind targetGroups sources world
  rw [runs] at answer
  cases answer
  exact ⟨after, runs, syncs.inputs⟩

/-- A pass without faults reports every configuration it asked for and no error. -/
theorem sync_noFaults (present : world.sync = some whSync) :
    (afterPass noFaults world).sync =
      some (syncedStatus whSync world.clock (wanted whSync world .validating).length
        (wanted whSync world .mutating).length []) := by
  have reaches := reaches_noFaults present
  obtain ⟨validated, validatingRuns, validating⟩ :=
    syncConfigurations_noFaults whSync.apiGroups (world.primary .validating).nodup world
  obtain ⟨mutated, mutatingRuns, mutating⟩ :=
    syncConfigurations_noFaults whSync.apiGroups (world.primary .mutating).nodup validated
  obtain ⟨staleValidated, staleValidatingRuns, staleValidating⟩ := deleteStale_noFaults
    .validating ((wanted whSync world .validating).map Configuration.name) mutated
  obtain ⟨staleMutated, staleMutatingRuns, staleMutating⟩ := deleteStale_noFaults
    .mutating ((wanted whSync world .mutating).map Configuration.name) staleValidated
  have inputs := ((validating.trans mutating).trans staleValidating).trans staleMutating
  have stored : staleMutated.sync = some whSync := inputs.sync.trans present
  rw [wanted] at staleValidatingRuns staleMutatingRuns
  simp only [afterPass, reconcile, getSync, call, reaches.getSync, exec_bind, exec_attempt,
    exec_get, present, exec_pure, reconcileSync, reaches.buildSecondaryClient, Prog.mapError,
    listPrimary, reaches.listPrimary, validatingRuns, validating.primary, mutatingRuns,
    deleteStaleValidating, deleteStaleMutating, staleValidatingRuns, staleMutatingRuns,
    inputs.clock, failures, List.append_nil, List.length_map]
  simp only [updateStatus, exec_logged, call, noFaults, replace, exec_bind, exec_get, stored,
    exec_modify]
  rfl

/-- Reporting the same outcome again only moves the time of the sync. -/
theorem syncedStatus_again (whSync : WebhookSync) (time now validating mutating : Nat) :
    syncedStatus (syncedStatus whSync time validating mutating []) now validating mutating [] =
      { syncedStatus whSync time validating mutating [] with
        status.lastSyncTime := some now } := by
  simp only [syncedStatus, List.length_nil, gt_iff_lt, Nat.lt_irrefl, if_false, setReady]
  rw [setStatusCondition_again]

omit [DecidableEq ρ] [∀ kind, DecidableEq (η kind)] in
/-- Moving the time of the sync changes the status unless it was that time. -/
theorem Settled.unmoved_iff (settled : Settled whSync time world) (now : Nat) :
    { whSync.status with lastSyncTime := some now } = whSync.status ↔ now = time := by
  have synced : whSync.status.lastSyncTime = some time := by
    obtain ⟨earlier, reported⟩ := settled.reported
    rw [reported]
    rfl
  constructor
  · intro same
    have moved := congrArg WebhookSyncStatus.lastSyncTime same
    exact Option.some.inj (moved.trans synced)
  · intro equal
    rw [equal, ← synced]

/-- The stored object is the same exactly if its status is. -/
theorem WebhookSync.withStatus_eq_iff {whSync : WebhookSync} {status : WebhookSyncStatus} :
    some { whSync with status := status } = some whSync ↔ status = whSync.status := by
  rw [Option.some.injEq]
  constructor
  · exact congrArg WebhookSync.status
  · intro same
    rw [same]

/-- An idle pass only moves the time of the sync. -/
theorem Settled.pass (settled : Settled whSync time world) :
    (afterPass noFaults world).secondary = world.secondary ∧
      (afterPass noFaults world).sync =
        some { whSync with status.lastSyncTime := some world.clock } := by
  constructor
  · funext kind
    obtain ⟨start, synced, listing, finished, names, handles⟩ :=
      reconcile_handles (reaches_noFaults settled.present) kind
    exact handles.unchanged (settled.mirrors kind)
  · obtain ⟨earlier, reported⟩ := settled.reported
    have again := syncedStatus_again { whSync with status := earlier } time world.clock
      (wanted whSync world .validating).length (wanted whSync world .mutating).length
    rw [← reported] at again
    rw [sync_noFaults settled.present, again]

/-- A pass without faults leaves a settled world behind, whatever the clock says
later. -/
theorem settled_of_pass (present : world.sync = some whSync) (now : Nat) :
    ∃ next, Settled next world.clock { afterPass noFaults world with clock := now } := by
  obtain ⟨samePrimary, -⟩ := afterPass_inputs (reaches_noFaults present)
  let next := syncedStatus whSync world.clock (wanted whSync world .validating).length
    (wanted whSync world .mutating).length []
  have same (kind : Kind) : wanted next { afterPass noFaults world with clock := now } kind =
      wanted whSync world kind := by
    simp only [wanted, samePrimary, next, syncedStatus_apiGroups]
  refine ⟨next, sync_noFaults present, ?_, whSync.status, ?_⟩
  · intro kind
    rw [same kind]
    exact mirrors_of_noFaults present kind
  · rw [same .validating, same .mutating]
    rfl

end Webhooksync

/-! ## Both controllers -/

/-- Over a settled secondary a pass of either sync controller writes nothing there, so that
it is as others have left it, and it writes the status it found exactly if it runs in the
second in which that status was written. -/
theorem idle_pass_keeps_status_iff (time : Nat) :
    (∀ (labelSelectorAsSelector : Namespacesync.LabelSelector →
          Except ApiError (Namespacesync.Labels → Bool))
        (faults : Namespacesync.Call → Option Fault)
        (selector : Namespacesync.Labels → Bool) (nsSync : Namespacesync.NamespaceSync)
        (world : Namespacesync.World),
      labelSelectorAsSelector nsSync.spec.labelSelector = .ok selector →
      Namespacesync.OnlyNamespaceWritesFail faults →
      Namespacesync.Settled selector nsSync time world →
      let after :=
        (Prog.exec (Namespacesync.reconcile labelSelectorAsSelector faults) world).2
      after.secondary = world.overtaken.secondary ∧
        ∃ next, after.sync = some next ∧ (next.status = nsSync.status ↔ world.clock = time) ∧
          (after.sync = world.sync ↔ world.clock = time)) ∧
    (∀ (ρ : Type) (η : Webhooksync.Kind → Type) [DecidableEq ρ] [∀ kind, DecidableEq (η kind)]
        (whSync : Webhooksync.WebhookSync) (world : Webhooksync.World ρ η),
      Webhooksync.Settled whSync time world →
      let after := Webhooksync.afterPass Webhooksync.noFaults world
      after.secondary = world.secondary ∧
        ∃ next, after.sync = some next ∧ (next.status = whSync.status ↔ world.clock = time) ∧
          (after.sync = world.sync ↔ world.clock = time)) := by
  constructor
  · intro labelSelectorAsSelector faults selector nsSync world parsed onlyWrites settled
    obtain ⟨sameSecondary, written⟩ := settled.pass parsed onlyWrites
    refine ⟨sameSecondary, _, written, settled.unmoved_iff world.clock, ?_⟩
    rw [written, settled.present]
    exact Namespacesync.NamespaceSync.withStatus_eq_iff.trans (settled.unmoved_iff world.clock)
  · intro ρ η _ _ whSync world settled
    obtain ⟨sameSecondary, written⟩ := settled.pass
    refine ⟨sameSecondary, _, written, settled.unmoved_iff world.clock, ?_⟩
    rw [written, settled.present]
    exact Webhooksync.WebhookSync.withStatus_eq_iff.trans (settled.unmoved_iff world.clock)

/-- `tenantWorld` after a pass at second 7, at a later time. -/
def tenantSettled (now : Nat) : Namespacesync.World :=
  { (Prog.exec (Namespacesync.reconcile Namespacesync.matchLabelsSelector fun _ => none)
      Namespacesync.tenantWorld).2 with clock := now }

/-- `serviceWorld` after a pass at second 0, at a later time. -/
def serviceSettled (now : Nat) : Webhooksync.World Unit fun _ => Unit :=
  { Webhooksync.afterPass Webhooksync.noFaults Webhooksync.serviceWorld with clock := now }

theorem idle_pass_keeps_status_iff_settled :
    (∃ nsSync selector, Namespacesync.Settled selector nsSync 7 (tenantSettled 7) ∧
      ∃ next, (Prog.exec (Namespacesync.reconcile Namespacesync.matchLabelsSelector
          fun _ => none) (tenantSettled 7)).2.sync = some next ∧
        next.status = nsSync.status) ∧
    (∃ whSync, Webhooksync.Settled whSync 0 (serviceSettled 0) ∧
      ∃ next, (Webhooksync.afterPass Webhooksync.noFaults (serviceSettled 0)).sync = some next ∧
        next.status = whSync.status) := by
  constructor
  · obtain ⟨nsSync, sameSpec, settled⟩ := Namespacesync.settled_of_pass
      (rfl : Namespacesync.tenantWorld.sync = some Namespacesync.tenantSync) rfl rfl
      (rfl : Namespacesync.matchLabelsSelector _ = .ok _) 7
    obtain ⟨-, next, stored, same, -⟩ := (idle_pass_keeps_status_iff 7).1
      Namespacesync.matchLabelsSelector (fun _ => none) _ nsSync _ (by rw [sameSpec]; rfl)
      (fun _ faulty => absurd rfl faulty) settled
    exact ⟨nsSync, _, settled, next, stored, same.mpr rfl⟩
  · obtain ⟨whSync, settled⟩ := Webhooksync.settled_of_pass
      (rfl : Webhooksync.serviceWorld.sync = some _) 0
    obtain ⟨-, next, stored, same, -⟩ :=
      (idle_pass_keeps_status_iff 0).2 Unit (fun _ => Unit) whSync _ settled
    exact ⟨whSync, settled, next, stored, same.mpr rfl⟩

/-- One second after the pass that wrote the status there is nothing to sync, and
both controllers write another status. -/
theorem idle_pass_rewrites_status :
    ((∃ nsSync selector, Namespacesync.Settled selector nsSync 7 (tenantSettled 8)) ∧
      (tenantSettled 8).sync.map (·.status.lastSyncTime) = some (some 7) ∧
      (Prog.exec (Namespacesync.reconcile Namespacesync.matchLabelsSelector fun _ => none)
          (tenantSettled 8)).2.sync.map (·.status.lastSyncTime) = some (some 8)) ∧
    ((∃ whSync, Webhooksync.Settled whSync 0 (serviceSettled 1)) ∧
      (serviceSettled 1).sync.map (·.status.lastSyncTime) = some (some 0) ∧
      (Webhooksync.afterPass Webhooksync.noFaults (serviceSettled 1)).sync.map
          (·.status.lastSyncTime) = some (some 1)) := by
  refine ⟨⟨?_, by decide, by decide⟩, ?_, by decide, by decide⟩
  · obtain ⟨nsSync, -, settled⟩ := Namespacesync.settled_of_pass
      (rfl : Namespacesync.tenantWorld.sync = some Namespacesync.tenantSync) rfl rfl
      (rfl : Namespacesync.matchLabelsSelector _ = .ok _) 8
    exact ⟨nsSync, _, settled⟩
  · exact Webhooksync.settled_of_pass (rfl : Webhooksync.serviceWorld.sync = some _) 1

end KubeShard
