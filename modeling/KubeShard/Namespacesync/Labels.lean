import KubeShard.Namespacesync.Converge
import KubeShard.Program.Run

/-!
# Labels of mirrored namespaces

A pass copies the labels of a namespace when it creates it and never again.  A
clean pass therefore leaves the labels mirrored exactly when the desired namespaces that
were already on the secondary carried the right labels before it.  Over runs,
labels stay mirrored as long as no edit on the primary asks for a namespace with other
labels than its name already has on the secondary, be it that it was synced before or that
its deletion has not come to an end there.

Labels are compared without the one that the API server itself gives every namespace.
-/

namespace KubeShard.Namespacesync

open Prog

variable {labelSelectorAsSelector : LabelSelector → Except ApiError (Labels → Bool)}

/-- A namespace of the secondary carries the filtered labels of one of the primary. -/
def Namespace.Mirrors (mirror ns : Namespace) : Prop :=
  filterLabels mirror.labels = filterLabels ns.labels

instance (mirror ns : Namespace) : Decidable (mirror.Mirrors ns) :=
  inferInstanceAs (Decidable (filterLabels mirror.labels = filterLabels ns.labels))

/-- A namespace as a pass creates it carries the filtered labels. -/
theorem mirrors_created (ns : Namespace) :
    (⟨ns.name, filterLabels ns.labels⟩ : Namespace).Mirrors ns := by
  simp [Namespace.Mirrors, filterLabels]

/-- Every desired namespace is on the secondary with its filtered labels. -/
def Mirrored (selector : Labels → Bool) (nsSync : NamespaceSync) (world : World) : Prop :=
  ∀ ns ∈ world.primary.items, ns.name ∈ desired selector nsSync world →
    ∃ mirror ∈ world.secondary.items, mirror.name = ns.name ∧ mirror.Mirrors ns

/-- The edits of the primary and the passes a run is made of. -/
inductive Step where
  | createNamespace (ns : Namespace)
  | deleteNamespace (name : String)
  | setLabels (name : String) (labels : Labels)
  | pass (faults : Call → Option Fault)

/-- Take one step.  Nobody else writes to the secondary. -/
def step (labelSelectorAsSelector : LabelSelector → Except ApiError (Labels → Bool))
    (world : World) : Step → World
  | .createNamespace ns =>
      if ns.name ∈ world.primary.keys then world
      else { world with primary := world.primary.insert ns }
  | .deleteNamespace name => { world with primary := world.primary.erase name }
  | .setLabels name labels =>
      if name ∈ world.primary.keys then
        { world with primary := world.primary.insert ⟨name, labels⟩ }
      else world
  | .pass faults =>
      (exec (reconcile labelSelectorAsSelector faults) { world with raced := none }).2

/-- No call of the pass fails. -/
def clean : Call → Option Fault := fun _ => none

theorem onlyNamespaceWritesFail_clean : OnlyNamespaceWritesFail clean :=
  fun _ faulty => absurd rfl faulty

/-- What a synchronisation leaves of both stores. -/
theorem syncNamespaces_stores (faults : Call → Option Fault) (selector : Labels → Bool)
    (nsSync : NamespaceSync) (world : World) :
    ∃ created deleted createErrors deleteErrors,
      Creates faults (missing selector nsSync world) world.overtaken created createErrors ∧
      Deletes faults (orphaned selector nsSync world) created deleted deleteErrors ∧
      (exec (syncNamespaces faults nsSync (selected selector world)
        world.secondary.items) world.overtaken).2.secondary = deleted.secondary ∧
      (exec (syncNamespaces faults nsSync (selected selector world)
        world.secondary.items) world.overtaken).2.primary = world.primary := by
  obtain ⟨created, deleted, createErrors, deleteErrors, creates, deletes, runs⟩ :=
    syncNamespaces_spec faults selector nsSync world
  obtain ⟨-, -, secondary, primary⟩ := exec_updateStatus faults
    (syncedStatus nsSync world.clock (desired selector nsSync world)
      (createErrors ++ deleteErrors)) deleted
  refine ⟨created, deleted, createErrors, deleteErrors, creates, deletes, ?_, ?_⟩
  · rw [runs, secondary]
  · rw [runs, primary, (creates.inputs.trans deletes.inputs).primary]
    rfl

/-- A clean pass leaves the labels mirrored exactly when every desired namespace
that was already on the secondary had its filtered labels there. -/
theorem mirrored_clean_pass_iff {selector : Labels → Bool} {nsSync : NamespaceSync}
    {world : World} (present : world.sync = some nsSync)
    (parsed : labelSelectorAsSelector nsSync.spec.labelSelector = .ok selector) :
    Mirrored selector nsSync (step labelSelectorAsSelector world (.pass clean)) ↔
      ∀ ns ∈ world.primary.items, ns.name ∈ desired selector nsSync world →
        ∀ mirror ∈ world.secondary.items, mirror.name = ns.name → mirror.Mirrors ns := by
  -- the world in which nobody else writes
  obtain ⟨alone, isAlone⟩ : ∃ alone, { world with raced := none } = alone := ⟨_, rfl⟩
  have noRace : alone.raced = none := isAlone ▸ rfl
  have samePrimary : alone.primary = world.primary := isAlone ▸ rfl
  have sameSecondary : alone.secondary = world.secondary := isAlone ▸ rfl
  have isDesired : desired selector nsSync alone = desired selector nsSync world := by
    rw [desired, desired, selected, selected, samePrimary]
  obtain ⟨created, deleted, createErrors, deleteErrors, creates, deletes, secondary, primary⟩ :=
    syncNamespaces_stores clean selector nsSync alone
  have runs := reconcile_of_clean_reads (isAlone ▸ present : alone.sync = some nsSync) parsed
    onlyNamespaceWritesFail_clean
  have sameDesired : desired selector nsSync (exec (syncNamespaces clean nsSync
      (selected selector alone) alone.secondary.items) alone.overtaken).2 =
        desired selector nsSync world := by
    rw [desired, selected, primary, samePrimary]
    rfl
  simp only [Mirrored, step, isAlone, runs, sameDesired, primary, secondary, samePrimary]
  refine forall_congr' fun ns => forall_congr' fun inPrimary => forall_congr' fun wanted => ?_
  rw [← isDesired] at wanted
  rw [← samePrimary] at inPrimary
  have kept := creates.kept
  have items := creates.items
  rw [overtaken_of_none noRace] at kept items
  have survives : ∀ mirror ∈ created.secondary.items, mirror.name = ns.name →
      mirror ∈ deleted.secondary.items := by
    intro mirror membership named
    refine (deletes.items mirror).mpr ⟨membership, fun gone => ?_⟩
    exact (mem_orphaned.mp gone.1).2.1 (named ▸ wanted)
  rw [← sameSecondary]
  constructor
  · rintro ⟨found, foundMem, foundName, foundLabels⟩ mirror old named
    have same := Store.eq_of_key_eq foundMem
      (survives mirror (kept mirror old) named) (foundName.trans named.symm)
    rw [← same]
    exact foundLabels
  · intro agrees
    have used := desired_of_no_errors (.of_none noRace selector nsSync) creates deletes
      (creates.errors_nil.mpr fun _ _ => rfl) wanted
    obtain ⟨mirror, membership, named⟩ := Store.mem_keys.mp used
    refine ⟨mirror, membership, named, ?_⟩
    rcases items mirror ((deletes.items mirror).mp membership).1 with
      old | ⟨source, isMissing, rfl⟩
    · exact agrees mirror old named
    · rw [← Store.eq_of_key_eq (mem_missing.mp isMissing).1 inPrimary named]
      exact mirrors_created source

/-! ## Runs -/

section runs

variable (selector : Labels → Bool) (spec : NamespaceSyncSpec)

/-- The namespace is selected and not excluded. -/
def Wanted (ns : Namespace) : Prop :=
  selector ns.labels = true ∧ ns.name ∉ spec.excludeNamespaces

instance (ns : Namespace) : Decidable (Wanted selector spec ns) :=
  inferInstanceAs (Decidable (_ ∧ _))

/-- Where a wanted namespace is on both sides, the labels agree. -/
def Agree (world : World) : Prop :=
  ∀ ns ∈ world.primary.items, Wanted selector spec ns →
    ∀ mirror ∈ world.secondary.items, mirror.name = ns.name → mirror.Mirrors ns

/-- If the namespace is wanted and its name is on the secondary, the labels agree. -/
def FitsSecondary (world : World) (ns : Namespace) : Prop :=
  Wanted selector spec ns →
    ∀ mirror ∈ world.secondary.items, mirror.name = ns.name → mirror.Mirrors ns

/-- The step asks for no namespace with other filtered labels than its name has on the
secondary, by a relabelling or by creating its name anew. -/
def KeepsSyncedLabels (world : World) : Step → Prop
  | .createNamespace ns => ns.name ∉ world.primary.keys → FitsSecondary selector spec world ns
  | .setLabels name labels =>
      name ∈ world.primary.keys → FitsSecondary selector spec world ⟨name, labels⟩
  | .deleteNamespace _ => True
  | .pass _ => True

variable {selector spec} {world : World}

theorem Agree.insert (agrees : Agree selector spec world) (ns : Namespace)
    (fits : FitsSecondary selector spec world ns) :
    Agree selector spec { world with primary := world.primary.insert ns } := by
  intro other otherMem wanted mirror mirrorMem named
  rcases Store.mem_insert.mp otherMem with rfl | ⟨old, _⟩
  · exact fits wanted mirror mirrorMem named
  · exact agrees other old wanted mirror mirrorMem named

theorem Agree.pass (agrees : Agree selector spec world) (alone : world.raced = none)
    (faults : Call → Option Fault) :
    Agree selector spec (exec (reconcile labelSelectorAsSelector faults) world).2 := by
  rcases reconcile_cases faults labelSelectorAsSelector world with ⟨secondary, primary, -⟩ |
    ⟨nsSync, parsedSelector, -, -, runs⟩
  · rw [Agree, secondary, primary]
    exact agrees
  obtain ⟨created, deleted, createErrors, deleteErrors, creates, deletes, secondary, primary⟩ :=
    syncNamespaces_stores faults parsedSelector nsSync world
  rw [overtaken_of_none alone] at creates
  rw [Agree, runs, secondary, primary]
  intro ns inPrimary wanted mirror membership named
  rcases creates.items mirror ((deletes.items mirror).mp membership).1 with
    old | ⟨source, isMissing, rfl⟩
  · exact agrees ns inPrimary wanted mirror old named
  · rw [← Store.eq_of_key_eq (mem_missing.mp isMissing).1 inPrimary named]
    exact mirrors_created source

theorem Agree.step (input : Step) (keeps : KeepsSyncedLabels selector spec world input)
    (agrees : Agree selector spec world) :
    Agree selector spec (step labelSelectorAsSelector world input) := by
  cases input with
  | createNamespace ns =>
      by_cases used : ns.name ∈ world.primary.keys
      · simpa [Namespacesync.step, used] using agrees
      · simpa [Namespacesync.step, used] using agrees.insert ns (keeps used)
  | setLabels name labels =>
      by_cases used : name ∈ world.primary.keys
      · simpa [Namespacesync.step, used] using agrees.insert ⟨name, labels⟩ (keeps used)
      · simpa [Namespacesync.step, used] using agrees
  | deleteNamespace name =>
      intro ns membership wanted mirror mirrorMem named
      exact agrees ns (Store.mem_erase.mp membership).1 wanted mirror mirrorMem named
  | pass faults =>
      have alone : Agree selector spec { world with raced := none } := agrees
      exact alone.pass rfl faults

end runs

/-- In every run whose edits leave the labels of synced namespaces alone, each
clean pass leaves every desired namespace on the secondary with exactly the
filtered labels it has on the primary. -/
theorem run_mirrors_labels
    (labelSelectorAsSelector : LabelSelector → Except ApiError (Labels → Bool))
    (start : World) (steps : List Step) {selector : Labels → Bool}
    {nsSync : NamespaceSync} (agrees : Agree selector nsSync.spec start)
    (keeps : Along (step labelSelectorAsSelector) (KeepsSyncedLabels selector nsSync.spec) start
      steps)
    (present : (run (step labelSelectorAsSelector) start steps).sync = some nsSync)
    (parsed : labelSelectorAsSelector nsSync.spec.labelSelector = .ok selector) :
    Mirrored selector nsSync
      (run (step labelSelectorAsSelector) start (steps ++ [.pass clean])) := by
  have reached : Agree selector nsSync.spec (run (step labelSelectorAsSelector) start steps) :=
    keeps.invariant (fun _ input allowed holds => holds.step input allowed) agrees
  rw [run, List.foldl_append]
  refine (mirrored_clean_pass_iff present parsed).mpr ?_
  intro ns inPrimary isDesired mirror mirrorMem named
  obtain ⟨wanted, wantedMem, matched, sameName, included⟩ := mem_desired.mp isDesired
  rw [Store.eq_of_key_eq wantedMem inPrimary sameName] at matched
  exact reached ns inPrimary ⟨matched, included⟩ mirror mirrorMem named

/-- Which labels the tenants of `tenantSync` have. -/
def isTenant (labels : Labels) : Bool :=
  match matchLabelsSelector ⟨[("konflux.dev/type", "tenant")], []⟩ with
  | .ok selects => selects labels
  | .error _ => false

/-- The statement on a secondary that finalizes nothing, for a run in which a namespace that
is not selected is relabelled and a tenant is added. -/
theorem run_mirrors_labels_tenant :
    Mirrored isTenant tenantSync
      (run (step matchLabelsSelector) { tenantWorld with finalizes := false }
        ([.setLabels "other" [("team", "red")],
          .createNamespace ⟨"tenant-b", [("konflux.dev/type", "tenant"),
            ("kubernetes.io/metadata.name", "tenant-b")]⟩] ++ [.pass clean])) :=
  run_mirrors_labels matchLabelsSelector { tenantWorld with finalizes := false }
    [.setLabels "other" [("team", "red")],
      .createNamespace ⟨"tenant-b", [("konflux.dev/type", "tenant"),
        ("kubernetes.io/metadata.name", "tenant-b")]⟩]
    (by unfold Agree; decide)
    ⟨fun _ => by unfold FitsSecondary; decide, fun _ => by unfold FitsSecondary; decide, trivial⟩
    rfl rfl

/-- A namespace that is relabelled after it was synced keeps its old labels on
the secondary, also after a clean pass. -/
theorem relabelled_namespace_not_mirrored :
    ¬Mirrored isTenant tenantSync
      (run (step matchLabelsSelector) tenantWorld
        [.pass clean,
          .setLabels "tenant-a" [("konflux.dev/type", "tenant"), ("team", "blue")],
          .pass clean]) := by
  unfold Mirrored
  decide

end KubeShard.Namespacesync
