import KubeShard.Namespacesync.Model

/-!
# Convergence of a NamespaceSync pass

Each loop of the pass is summarised once, as a relation between the world before
and after it.  The theorem about the pass is assembled from the two summaries.
-/

namespace KubeShard.Namespacesync

open Prog

variable {faults : Call → Option Fault}

/-- A create or delete that failed.  `AlreadyExists` and `NotFound` tell that
there was nothing to do, and are not failures. -/
def Event.failed : Event → Bool
  | .create _ (some failure) => !failure.isAlreadyExists
  | .delete _ (some failure) => !failure.isNotFound
  | _ => false

/-- What asking for one namespace does, by whether the create is faulty and
whether the namespace is there. -/
theorem exec_ensureNamespaceOnSecondary (ns : Namespace) (world : World) :
    exec (ensureNamespaceOnSecondary faults ns) world =
      match faults (.create ns.name) with
      | some fault => (.error fault.error, record (.create ns.name) (some fault.error) world)
      | none =>
          if ns.name ∈ world.secondary.keys then
            (.ok (), record (.create ns.name) (some (.alreadyExists "namespaces" ns.name)) world)
          else
            (.ok (), record (.create ns.name) none { world with
              secondary := world.secondary.insert ⟨ns.name, filterLabels ns.labels⟩ }) := by
  simp only [ensureNamespaceOnSecondary, createOnSecondary, exec_bind, exec_attempt,
    exec_logged]
  cases fault : faults (.create ns.name) with
  | some fault => simp [call, fault]
  | none =>
      by_cases present : ns.name ∈ world.secondary.keys
      · simp [call, fault, exec_bind, present]
      · simp [call, fault, exec_bind, present]

theorem exec_deleteNamespaceOnSecondary {name : String}
    (ordinary : name ∉ systemNamespaces) (world : World) :
    exec (deleteNamespaceOnSecondary faults name) world =
      match faults (.delete name) with
      | some fault => (.error fault.error, record (.delete name) (some fault.error) world)
      | none =>
          if name ∈ world.secondary.keys then
            (.ok (), record (.delete name) none
              (if world.finalizes then { world with secondary := world.secondary.erase name }
                else world))
          else
            (.ok (), record (.delete name) (some (.notFound "namespaces" name)) world) := by
  simp only [deleteNamespaceOnSecondary, deleteOnSecondary, ordinary, if_false, exec_bind,
    exec_attempt, exec_logged]
  cases fault : faults (.delete name) with
  | some fault => simp [call, fault]
  | none =>
      by_cases present : name ∈ world.secondary.keys
      · simp [call, fault, exec_bind, present]
      · simp [call, fault, exec_bind, present]

/-- The part of the world no loop of the pass writes. -/
abbrev SameInputs : World → World → Prop :=
  KubeShard.SameInputs World.sync World.primary World.clock

/-- What creating the `asked` namespaces has done. -/
structure Creates (faults : Call → Option Fault) (asked : List Namespace)
    (before after : World) (errors : List ApiError) : Prop where
  inputs : SameInputs before after
  finalizes : after.finalizes = before.finalizes
  /-- Exactly the namespaces whose create was not faulty are there. -/
  keys : ∀ name, name ∈ after.secondary.keys ↔
    name ∈ before.secondary.keys ∨
      ∃ ns ∈ asked, ns.name = name ∧ faults (.create name) = none
  /-- Creating replaces nothing. -/
  kept : ∀ ns ∈ before.secondary.items, ns ∈ after.secondary.items
  /-- What is new carries the filtered labels. -/
  items : ∀ ns ∈ after.secondary.items,
    ns ∈ before.secondary.items ∨
      ∃ source ∈ asked, ns = ⟨source.name, filterLabels source.labels⟩
  errors_nil : errors = [] ↔ ∀ ns ∈ asked, faults (.create ns.name) = none
  events : ∃ events, after.trace = before.trace ++ events ∧
    (∀ event ∈ events, ∃ ns ∈ asked, ∃ failure, event = .create ns.name failure) ∧
    (errors = [] ↔ ∀ event ∈ events, event.failed = false)

/-- What deleting the `asked` namespaces has done. -/
structure Deletes (faults : Call → Option Fault) (asked : List String)
    (before after : World) (errors : List ApiError) : Prop where
  inputs : SameInputs before after
  finalizes : after.finalizes = before.finalizes
  /-- Exactly the namespaces whose delete was not faulty are gone, if they are finalized. -/
  items : ∀ ns, ns ∈ after.secondary.items ↔
    ns ∈ before.secondary.items ∧
      ¬(ns.name ∈ asked ∧ faults (.delete ns.name) = none ∧ before.finalizes = true)
  errors_nil : errors = [] ↔ ∀ name ∈ asked, faults (.delete name) = none
  events : ∃ events, after.trace = before.trace ++ events ∧
    (∀ event ∈ events, ∃ name ∈ asked, ∃ failure, event = .delete name failure) ∧
    (errors = [] ↔ ∀ event ∈ events, event.failed = false)

/-- The events of two loops, one after the other. -/
theorem events_append {α φ : Type} {issued : α → φ → Event} {first second : List α}
    {before middle after : World} {firstErrors secondErrors : List ApiError}
    (left : ∃ events, middle.trace = before.trace ++ events ∧
      (∀ event ∈ events, ∃ asked ∈ first, ∃ failure, event = issued asked failure) ∧
      (firstErrors = [] ↔ ∀ event ∈ events, event.failed = false))
    (right : ∃ events, after.trace = middle.trace ++ events ∧
      (∀ event ∈ events, ∃ asked ∈ second, ∃ failure, event = issued asked failure) ∧
      (secondErrors = [] ↔ ∀ event ∈ events, event.failed = false)) :
    ∃ events, after.trace = before.trace ++ events ∧
      (∀ event ∈ events, ∃ asked ∈ first ++ second, ∃ failure, event = issued asked failure) ∧
      (firstErrors ++ secondErrors = [] ↔ ∀ event ∈ events, event.failed = false) := by
  obtain ⟨firstEvents, firstTrace, firstAsked, firstFailed⟩ := left
  obtain ⟨secondEvents, secondTrace, secondAsked, secondFailed⟩ := right
  refine ⟨firstEvents ++ secondEvents, by rw [secondTrace, firstTrace, List.append_assoc],
    ?_, ?_⟩
  · intro event membership
    rcases List.mem_append.mp membership with inFirst | inSecond
    · obtain ⟨asked, askedMem, isIssued⟩ := firstAsked event inFirst
      exact ⟨asked, List.mem_append_left _ askedMem, isIssued⟩
    · obtain ⟨asked, askedMem, isIssued⟩ := secondAsked event inSecond
      exact ⟨asked, List.mem_append_right _ askedMem, isIssued⟩
  · rw [List.append_eq_nil_iff, firstFailed, secondFailed]
    simp only [List.mem_append, or_imp, forall_and]

theorem Creates.nil (world : World) : Creates faults [] world world [] :=
  ⟨.refl world, rfl, by simp, fun _ => id, by simp, by simp, [], by simp⟩

theorem Creates.append {first second : List Namespace} {before middle after : World}
    {firstErrors secondErrors : List ApiError}
    (left : Creates faults first before middle firstErrors)
    (right : Creates faults second middle after secondErrors) :
    Creates faults (first ++ second) before after (firstErrors ++ secondErrors) where
  inputs := left.inputs.trans right.inputs
  finalizes := right.finalizes.trans left.finalizes
  keys name := by
    rw [right.keys, left.keys, or_assoc]
    simp only [List.mem_append, or_and_right, exists_or]
  kept ns membership := right.kept ns (left.kept ns membership)
  items ns membership := by
    rcases right.items ns membership with old | ⟨source, sourceMem, equal⟩
    · rcases left.items ns old with older | ⟨source, sourceMem, equal⟩
      · exact .inl older
      · exact .inr ⟨source, List.mem_append_left _ sourceMem, equal⟩
    · exact .inr ⟨source, List.mem_append_right _ sourceMem, equal⟩
  errors_nil := by
    rw [List.append_eq_nil_iff, left.errors_nil, right.errors_nil]
    simp only [List.mem_append, or_imp, forall_and]
  events := events_append left.events right.events

variable (faults) in
/-- One call of `ensureNamespaceOnSecondary`. -/
theorem Creates.ensure (ns : Namespace) (world : World) (context : String) :
    Creates faults [ns] world (exec (ensureNamespaceOnSecondary faults ns) world).2
      (match (exec (ensureNamespaceOnSecondary faults ns) world).1 with
      | .ok () => []
      | .error failure => [failure.wrap context]) := by
  rw [exec_ensureNamespaceOnSecondary]
  cases outcome : faults (.create ns.name) with
  | some fault =>
      refine ⟨⟨rfl, rfl, rfl⟩, rfl, ?_, fun _ => id, fun _ => .inl, by simp [outcome], [_], rfl,
        by simp, ?_⟩
      · intro name
        simp only [List.mem_singleton, exists_eq_left]
        exact ⟨.inl, fun known => known.elim id fun ⟨equal, clean⟩ => by
          simp [← equal, outcome] at clean⟩
      · simp [Event.failed]
  | none =>
      by_cases present : ns.name ∈ world.secondary.keys
      · simp only [present, if_true]
        refine ⟨⟨rfl, rfl, rfl⟩, rfl, ?_, fun _ => id, fun _ => .inl, by simp [outcome], [_],
          rfl, by simp, ?_⟩
        · intro name
          simp only [List.mem_singleton, exists_eq_left]
          exact ⟨.inl, fun known => known.elim id fun ⟨equal, _⟩ => equal ▸ present⟩
        · simp [Event.failed]
      · simp only [present, if_false]
        refine ⟨⟨rfl, rfl, rfl⟩, rfl, ?_, ?_, ?_, by simp [outcome], [_], rfl, by simp, ?_⟩
        · intro name
          simp only [record, Store.mem_keys_insert, List.mem_singleton, exists_eq_left]
          constructor
          · rintro (equal | old)
            · exact .inr ⟨equal.symm, by rw [equal]; exact outcome⟩
            · exact .inl old
          · rintro (old | ⟨equal, _⟩)
            · exact .inr old
            · exact .inl equal.symm
        · intro other membership
          refine Store.mem_insert.mpr (.inr ⟨membership, fun equal => present ?_⟩)
          exact Store.mem_keys.mpr ⟨other, membership, equal⟩
        · intro other membership
          rcases Store.mem_insert.mp membership with new | ⟨old, _⟩
          · exact .inr ⟨ns, by simp, new⟩
          · exact .inl old
        · simp [Event.failed]

variable (faults) in
theorem createMissing_creates (excluded secondaryExisting : List String)
    (namespaces : List Namespace) (world : World) :
    ∃ errors after,
      exec (createMissing faults excluded secondaryExisting namespaces) world =
        (.ok errors, after) ∧
      Creates faults
        (namespaces.filter fun ns => ¬(ns.name ∈ excluded ∨ ns.name ∈ secondaryExisting))
        world after errors := by
  induction namespaces generalizing world with
  | nil => exact ⟨[], world, rfl, .nil world⟩
  | cons ns rest ih =>
      by_cases skipped : ns.name ∈ excluded ∨ ns.name ∈ secondaryExisting
      · obtain ⟨errors, after, runs, creates⟩ := ih world
        refine ⟨errors, after, by simpa [createMissing, skipped] using runs, ?_⟩
        rwa [List.filter_cons_of_neg (by simpa [or_iff_not_imp_left] using skipped)]
      · have head := Creates.ensure faults ns world s!"namespace {ns.name}"
        obtain ⟨errors, after, runs, creates⟩ :=
          ih (exec (ensureNamespaceOnSecondary faults ns) world).2
        rw [List.filter_cons_of_pos (by simpa using skipped)]
        refine ⟨_, after, ?_, head.append creates⟩
        simp only [createMissing, skipped, if_false, exec_bind, exec_attempt, runs]
        cases (exec (ensureNamespaceOnSecondary faults ns) world).1 <;> rfl

theorem Deletes.nil (world : World) : Deletes faults [] world world [] :=
  ⟨.refl world, rfl, by simp, by simp, [], by simp⟩

theorem Deletes.append {first second : List String} {before middle after : World}
    {firstErrors secondErrors : List ApiError}
    (left : Deletes faults first before middle firstErrors)
    (right : Deletes faults second middle after secondErrors) :
    Deletes faults (first ++ second) before after (firstErrors ++ secondErrors) where
  inputs := left.inputs.trans right.inputs
  finalizes := right.finalizes.trans left.finalizes
  items ns := by
    rw [right.items, left.items, left.finalizes]
    simp only [List.mem_append]
    tauto
  errors_nil := by
    rw [List.append_eq_nil_iff, left.errors_nil, right.errors_nil]
    simp only [List.mem_append, or_imp, forall_and]
  events := events_append left.events right.events

variable (faults) in
/-- One call of `deleteNamespaceOnSecondary` on an ordinary namespace. -/
theorem Deletes.delete {name : String} (ordinary : name ∉ systemNamespaces)
    (world : World) (context : String) :
    Deletes faults [name] world (exec (deleteNamespaceOnSecondary faults name) world).2
      (match (exec (deleteNamespaceOnSecondary faults name) world).1 with
      | .ok () => []
      | .error failure => [failure.wrap context]) := by
  rw [exec_deleteNamespaceOnSecondary ordinary]
  cases outcome : faults (.delete name) with
  | some fault =>
      refine ⟨⟨rfl, rfl, rfl⟩, rfl, ?_, by simp [outcome], [_], rfl, by simp,
        by simp [Event.failed]⟩
      intro ns
      refine ⟨fun membership => ⟨membership, ?_⟩, And.left⟩
      rintro ⟨named, clean, _⟩
      rw [List.mem_singleton.mp named, outcome] at clean
      cases clean
  | none =>
      by_cases present : name ∈ world.secondary.keys
      · dsimp only
        rw [if_pos present]
        by_cases finalized : world.finalizes = true
        · rw [if_pos finalized]
          refine ⟨⟨rfl, rfl, rfl⟩, rfl, ?_, by simp [outcome], [_], rfl, by simp,
            by simp [Event.failed]⟩
          intro ns
          refine Store.mem_erase.trans (and_congr_right fun _ => not_congr ?_)
          rw [List.mem_singleton]
          exact ⟨fun equal => ⟨equal, by rw [equal]; exact outcome, finalized⟩, And.left⟩
        · rw [if_neg finalized]
          refine ⟨⟨rfl, rfl, rfl⟩, rfl, ?_, by simp [outcome], [_], rfl, by simp,
            by simp [Event.failed]⟩
          intro ns
          exact ⟨fun membership => ⟨membership, fun gone => finalized gone.2.2⟩, And.left⟩
      · simp only [present, if_false]
        refine ⟨⟨rfl, rfl, rfl⟩, rfl, ?_, by simp [outcome], [_], rfl, by simp,
          by simp [Event.failed]⟩
        intro ns
        refine ⟨fun membership => ⟨membership, ?_⟩, And.left⟩
        rintro ⟨named, _⟩
        apply present
        rw [← List.mem_singleton.mp named]
        exact Store.mem_keys.mpr ⟨ns, membership, rfl⟩

variable (faults) in
theorem deleteOrphaned_deletes (desired : List String) (namespaces : List Namespace)
    (world : World) :
    ∃ errors after,
      exec (deleteOrphaned faults desired namespaces) world = (.ok errors, after) ∧
      Deletes faults
        ((namespaces.map Namespace.name).filter fun name =>
          ¬(name ∈ desired ∨ name ∈ systemNamespaces))
        world after errors := by
  induction namespaces generalizing world with
  | nil => exact ⟨[], world, rfl, .nil world⟩
  | cons ns rest ih =>
      by_cases kept : ns.name ∈ desired ∨ ns.name ∈ systemNamespaces
      · obtain ⟨errors, after, runs, deletes⟩ := ih world
        refine ⟨errors, after, by simpa [deleteOrphaned, kept] using runs, ?_⟩
        rwa [List.map_cons,
          List.filter_cons_of_neg (by simpa [or_iff_not_imp_left] using kept)]
      · have ordinary : ns.name ∉ systemNamespaces := fun system => kept (.inr system)
        have head := Deletes.delete faults ordinary world
          s!"deleting namespace {ns.name}"
        obtain ⟨errors, after, runs, deletes⟩ :=
          ih (exec (deleteNamespaceOnSecondary faults ns.name) world).2
        rw [List.map_cons, List.filter_cons_of_pos (by simpa using kept)]
        refine ⟨_, after, ?_, head.append deletes⟩
        simp only [deleteOrphaned, kept, if_false, exec_bind, exec_attempt, runs]
        cases (exec (deleteNamespaceOnSecondary faults ns.name) world).1 <;> rfl

/-! ## The whole pass -/

section pass

variable {labelSelectorAsSelector : LabelSelector → Except ApiError (Labels → Bool)}

/-- The namespaces of the primary that match the selector. -/
def selected (selector : Labels → Bool) (world : World) : List Namespace :=
  world.primary.items.filter fun ns => selector ns.labels

/-- The primary namespaces matching the selector and not excluded. -/
def desired (selector : Labels → Bool) (nsSync : NamespaceSync) (world : World) :
    List String :=
  desiredNames nsSync.spec.excludeNamespaces (selected selector world)

/-- A write of the status, as opposed to a namespace. -/
def Event.IsStatus (event : Event) : Prop :=
  ∃ status failure, event = .updateStatus status failure

variable (faults) in
theorem exec_updateStatus (nsSync : NamespaceSync) (world : World) :
    ∃ failure, (exec (updateStatus faults nsSync) world).2.trace =
        world.trace ++ [.updateStatus nsSync.status failure] ∧
      (exec (updateStatus faults nsSync) world).2.secondary = world.secondary ∧
      (exec (updateStatus faults nsSync) world).2.primary = world.primary := by
  simp only [updateStatus, exec_logged]
  cases outcome : faults .updateStatus with
  | some fault => exact ⟨some fault.error, by simp [call, outcome, record]⟩
  | none =>
      cases stored : world.sync with
      | none =>
          exact ⟨some (.notFound "namespacesyncs.kube-shard.konflux-ci.dev" nsSync.name), by
            simp [call, outcome, replace, exec_bind, stored, record]⟩
      | some old => exact ⟨none, by simp [call, outcome, replace, exec_bind, stored, record]⟩

/-- A pass that did not get to list both sides touched no namespace. -/
def Idle (before after : World) : Prop :=
  after.secondary = before.secondary ∧ after.primary = before.primary ∧
    ∃ events, after.trace = before.trace ++ events ∧ ∀ event ∈ events, event.IsStatus

theorem Idle.refl (world : World) : Idle world world :=
  ⟨rfl, rfl, [], by simp⟩

theorem idle_secondaryUnavailable (nsSync : NamespaceSync) (message : String)
    (failure : ApiError) (world : World) :
    Idle world (exec (secondaryUnavailable faults nsSync message failure) world).2 := by
  simp only [secondaryUnavailable, exec_bind, exec_get, exec_attempt, exec_throw]
  obtain ⟨outcome, trace, secondary, primary⟩ := exec_updateStatus faults
    (setReady nsSync world.clock .false "SecondaryUnavailable" message) world
  exact ⟨secondary, primary, _, trace, by simp [Event.IsStatus]⟩

variable (faults) in
theorem exec_listSecondary (world : World) :
    exec (listSecondary faults) world =
      match faults .listSecondary with
      | some fault => (.error fault.error, world)
      | none => (.ok world.secondary.items, world.overtaken) := by
  cases fault : faults .listSecondary with
  | some fault => simp [listSecondary, call, fault]
  | none => simp only [listSecondary, call, fault, exec_bind, exec_get, exec_set, exec_pure]

variable (labelSelectorAsSelector faults) in
/-- A pass either touches no namespace or is the synchronisation of the two
listings, after what others wrote. -/
theorem reconcile_cases (world : World) :
    Idle world (exec (reconcile labelSelectorAsSelector faults) world).2 ∨
      ∃ nsSync selector, world.sync = some nsSync ∧
        labelSelectorAsSelector nsSync.spec.labelSelector = .ok selector ∧
        exec (reconcile labelSelectorAsSelector faults) world =
          exec (syncNamespaces faults nsSync (selected selector world)
            world.secondary.items) world.overtaken := by
  simp only [reconcile, getSync, exec_bind, exec_attempt]
  cases getFault : faults .getSync with
  | some fault => exact .inl (by simpa [call, getFault] using Idle.refl world)
  | none =>
  cases stored : world.sync with
  | none => exact .inl (by simpa [call, getFault, exec_bind, stored] using Idle.refl world)
  | some nsSync =>
  simp only [call, getFault, exec_bind, exec_get, stored, exec_pure, reconcileSync,
    exec_attempt]
  cases buildFault : faults .buildSecondaryClient with
  | some fault => exact .inl (by simpa using idle_secondaryUnavailable _ _ _ world)
  | none =>
  cases parsed : labelSelectorAsSelector nsSync.spec.labelSelector with
  | error failure => exact .inl (by simpa using Idle.refl world)
  | ok selector =>
  simp only [exec_pure, mapError, listPrimary, exec_bind, exec_attempt]
  cases primaryFault : faults .listPrimary with
  | some fault => exact .inl (by simpa [call, primaryFault] using Idle.refl world)
  | none =>
  simp only [call, primaryFault, exec_bind, exec_get, exec_pure, exec_listSecondary]
  cases secondaryFault : faults .listSecondary with
  | some fault => exact .inl (by simpa using idle_secondaryUnavailable _ _ _ world)
  | none =>
  refine .inr ⟨nsSync, selector, rfl, parsed, ?_⟩
  simp [selected]

/-- The desired namespaces that are not on the secondary. -/
def missing (selector : Labels → Bool) (nsSync : NamespaceSync) (world : World) :
    List Namespace :=
  (selected selector world).filter fun ns =>
    ¬(ns.name ∈ nsSync.spec.excludeNamespaces ∨
      ns.name ∈ world.secondary.items.map Namespace.name)

/-- The namespaces of the secondary that are neither desired nor of the system. -/
def orphaned (selector : Labels → Bool) (nsSync : NamespaceSync) (world : World) :
    List String :=
  (world.secondary.items.map Namespace.name).filter fun name =>
    ¬(name ∈ desired selector nsSync world ∨ name ∈ systemNamespaces)

theorem mem_desired {selector : Labels → Bool} {nsSync : NamespaceSync} {world : World}
    {name : String} :
    name ∈ desired selector nsSync world ↔
      ∃ ns ∈ world.primary.items, selector ns.labels = true ∧ ns.name = name ∧
        name ∉ nsSync.spec.excludeNamespaces := by
  simp only [desired, desiredNames, selected, List.mem_filter, List.mem_map,
    decide_eq_true_eq]
  constructor
  · rintro ⟨⟨ns, ⟨membership, matched⟩, named⟩, kept⟩
    exact ⟨ns, membership, matched, named, kept⟩
  · rintro ⟨ns, membership, matched, named, kept⟩
    exact ⟨⟨ns, ⟨membership, matched⟩, named⟩, kept⟩

theorem mem_missing {selector : Labels → Bool} {nsSync : NamespaceSync} {world : World}
    {ns : Namespace} :
    ns ∈ missing selector nsSync world ↔
      ns ∈ world.primary.items ∧ selector ns.labels = true ∧
        ns.name ∉ nsSync.spec.excludeNamespaces ∧ ns.name ∉ world.secondary.keys := by
  simp only [missing, selected, List.mem_filter, decide_eq_true_eq, not_or, Store.keys]
  tauto

theorem mem_orphaned {selector : Labels → Bool} {nsSync : NamespaceSync} {world : World}
    {name : String} :
    name ∈ orphaned selector nsSync world ↔
      name ∈ world.secondary.keys ∧ name ∉ desired selector nsSync world ∧
        name ∉ systemNamespaces := by
  simp only [orphaned, List.mem_filter, decide_eq_true_eq, not_or, Store.keys]

variable (faults) in
/-- The synchronisation creates what is missing, deletes what is orphaned, and
reports the errors of both. -/
theorem syncNamespaces_spec (selector : Labels → Bool) (nsSync : NamespaceSync)
    (world : World) :
    ∃ created deleted createErrors deleteErrors,
      Creates faults (missing selector nsSync world) world.overtaken created createErrors ∧
      Deletes faults (orphaned selector nsSync world) created deleted deleteErrors ∧
      exec (syncNamespaces faults nsSync (selected selector world)
          world.secondary.items) world.overtaken =
        exec (updateStatus faults (syncedStatus nsSync world.clock
          (desired selector nsSync world) (createErrors ++ deleteErrors))) deleted := by
  obtain ⟨createErrors, created, createRuns, creates⟩ := createMissing_creates
    faults nsSync.spec.excludeNamespaces
    (world.secondary.items.map Namespace.name) (selected selector world) world.overtaken
  obtain ⟨deleteErrors, deleted, deleteRuns, deletes⟩ := deleteOrphaned_deletes
    faults (desired selector nsSync world) world.secondary.items created
  refine ⟨created, deleted, createErrors, deleteErrors, creates, deletes, ?_⟩
  have clock : deleted.clock = world.clock :=
    (creates.inputs.trans deletes.inputs).clock
  rw [desired] at deleteRuns
  simp [syncNamespaces, exec_bind, createRuns, deleteRuns, desired, clock]

/-- The write of Ready=True. -/
def WritesReady (events : List Event) : Prop :=
  ∃ status condition, Event.updateStatus status none ∈ events ∧
    findStatusCondition status.conditions .ready = some condition ∧
    condition.status = .true

/-- The Ready condition of a completed pass is True exactly without errors. -/
theorem ready_syncedStatus (nsSync : NamespaceSync) (now : Nat) (names : List String)
    (errors : List ApiError) :
    ∃ condition,
      findStatusCondition (syncedStatus nsSync now names errors).status.conditions .ready =
        some condition ∧
      (condition.status = .true ↔ errors = []) := by
  cases errors with
  | nil =>
      obtain ⟨time, found⟩ := findStatusCondition_set_self now
        (⟨.ready, .true, "SyncComplete", s!"{names.length} namespace(s) synced",
          nsSync.generation⟩ : NewCondition SyncCondition) nsSync.status.conditions
      exact ⟨_, found, by simp⟩
  | cons failure rest =>
      obtain ⟨time, found⟩ := findStatusCondition_set_self now
        (⟨.ready, .false, "SyncErrors",
          s!"{(failure :: rest).length} namespace(s) failed to sync",
          nsSync.generation⟩ : NewCondition SyncCondition) nsSync.status.conditions
      exact ⟨_, found, by simp⟩

/-- Only creates and deletes of namespaces may fail. -/
def OnlyNamespaceWritesFail (faults : Call → Option Fault) : Prop :=
  ∀ request, faults request ≠ none →
    (∃ name, request = .create name) ∨ ∃ name, request = .delete name

theorem OnlyNamespaceWritesFail.clean (onlyWrites : OnlyNamespaceWritesFail faults)
    (request : Call) (read : ∀ name, request ≠ .create name ∧ request ≠ .delete name) :
    faults request = none := by
  by_contra faulty
  rcases onlyWrites request faulty with ⟨name, equal⟩ | ⟨name, equal⟩
  · exact (read name).1 equal
  · exact (read name).2 equal

/-- With clean reads, a pass on a valid selector is the synchronisation. -/
theorem reconcile_of_clean_reads {selector : Labels → Bool} {nsSync : NamespaceSync}
    {world : World} (present : world.sync = some nsSync)
    (parsed : labelSelectorAsSelector nsSync.spec.labelSelector = .ok selector)
    (onlyWrites : OnlyNamespaceWritesFail faults) :
    exec (reconcile labelSelectorAsSelector faults) world =
      exec (syncNamespaces faults nsSync (selected selector world)
        world.secondary.items) world.overtaken := by
  have getSync := onlyWrites.clean .getSync (by simp)
  have build := onlyWrites.clean .buildSecondaryClient (by simp)
  have primary := onlyWrites.clean .listPrimary (by simp)
  have secondary := onlyWrites.clean .listSecondary (by simp)
  simp [reconcile, Namespacesync.getSync, reconcileSync, listPrimary, exec_listSecondary,
    mapError, call, exec_bind, getSync, build, primary, secondary, present, parsed,
    selected, Except.map]

theorem Deletes.keys {asked : List String} {before after : World}
    {errors : List ApiError} (deletes : Deletes faults asked before after errors)
    (finalizes : before.finalizes = true) (noErrors : errors = []) (name : String) :
    name ∈ after.secondary.keys ↔ name ∈ before.secondary.keys ∧ name ∉ asked := by
  have clean := deletes.errors_nil.mp noErrors
  simp only [Store.mem_keys]
  constructor
  · rintro ⟨ns, membership, rfl⟩
    obtain ⟨old, kept⟩ := (deletes.items ns).mp membership
    exact ⟨⟨ns, old, rfl⟩, fun isAsked => kept ⟨isAsked, clean _ isAsked, finalizes⟩⟩
  · rintro ⟨⟨ns, old, rfl⟩, notAsked⟩
    exact ⟨ns, (deletes.items ns).mpr ⟨old, fun gone => notAsked gone.1⟩, rfl⟩

/-- What others write to the secondary during a pass is only what the pass is about to do:
they create desired namespaces and delete orphaned ones. -/
structure Helped (selector : Labels → Bool) (nsSync : NamespaceSync) (world : World) : Prop where
  created : ∀ name ∈ world.overtaken.secondary.keys, name ∉ world.secondary.keys →
    name ∈ desired selector nsSync world
  deleted : ∀ name ∈ world.secondary.keys, name ∉ world.overtaken.secondary.keys →
    name ∈ orphaned selector nsSync world

theorem overtaken_of_none {world : World} (alone : world.raced = none) :
    world.overtaken = world := by
  rw [World.overtaken, alone, Option.getD_none, ← alone]

theorem Helped.of_none {world : World} (alone : world.raced = none) (selector : Labels → Bool)
    (nsSync : NamespaceSync) : Helped selector nsSync world := by
  constructor <;> rw [overtaken_of_none alone]
  · exact fun _ used unused => absurd used unused
  · exact fun _ used unused => absurd used unused

section keys

variable {selector : Labels → Bool} {nsSync : NamespaceSync} {world created deleted : World}
  {createErrors deleteErrors : List ApiError}
  (helped : Helped selector nsSync world)
  (creates : Creates faults (missing selector nsSync world) world.overtaken created createErrors)
  (deletes : Deletes faults (orphaned selector nsSync world) created deleted deleteErrors)
  (noCreateErrors : createErrors = [])

include helped creates deletes noCreateErrors

/-- Without errors of creates the desired namespaces are there. -/
theorem desired_of_no_errors {name : String} (wanted : name ∈ desired selector nsSync world) :
    name ∈ deleted.secondary.keys := by
  have there : name ∈ created.secondary.keys := by
    rw [creates.keys]
    by_cases old : name ∈ world.secondary.keys
    · left
      by_contra gone
      exact (mem_orphaned.mp (helped.deleted name old gone)).2.1 wanted
    · obtain ⟨ns, inPrimary, matched, rfl, included⟩ := mem_desired.mp wanted
      have isMissing := mem_missing.mpr ⟨inPrimary, matched, included, old⟩
      exact .inr ⟨ns, isMissing, rfl, creates.errors_nil.mp noCreateErrors ns isMissing⟩
  obtain ⟨ns, membership, rfl⟩ := Store.mem_keys.mp there
  exact Store.mem_keys.mpr ⟨ns, (deletes.items ns).mpr
    ⟨membership, fun gone => (mem_orphaned.mp gone.1).2.1 wanted⟩, rfl⟩

/-- Without errors the two loops compute the set the pass is for. -/
theorem keys_of_no_errors (finalizes : world.finalizes = true) (noDeleteErrors : deleteErrors = [])
    (name : String) :
    name ∈ deleted.secondary.keys ↔
      name ∈ desired selector nsSync world ∨
        (name ∈ systemNamespaces ∧ name ∈ world.secondary.keys) := by
  have deletedKeys := deletes.keys (creates.finalizes.trans finalizes) noDeleteErrors name
  constructor
  · intro used
    obtain ⟨there, kept⟩ := deletedKeys.mp used
    by_cases wanted : name ∈ desired selector nsSync world
    · exact .inl wanted
    · have old : name ∈ world.secondary.keys := by
        by_contra new
        rcases (creates.keys name).mp there with overtaken | ⟨ns, isMissing, rfl, -⟩
        · exact wanted (helped.created name overtaken new)
        · obtain ⟨inPrimary, matched, included, -⟩ := mem_missing.mp isMissing
          exact wanted (mem_desired.mpr ⟨ns, inPrimary, matched, rfl, included⟩)
      by_cases system : name ∈ systemNamespaces
      · exact .inr ⟨system, old⟩
      · exact absurd (mem_orphaned.mpr ⟨old, wanted, system⟩) kept
  · rintro (wanted | ⟨system, old⟩)
    · exact desired_of_no_errors helped creates deletes noCreateErrors wanted
    · refine deletedKeys.mpr ⟨(creates.keys name).mpr (.inl ?_), ?_⟩
      · by_contra gone
        exact (mem_orphaned.mp (helped.deleted name old gone)).2.2 system
      · exact fun gone => (mem_orphaned.mp gone).2.2 system

end keys

/-- Once the secondary holds the desired namespaces and nothing else but system
ones, a pass issues no create and no delete, whatever fails. -/
theorem reconcile_idle_of_converged (nsSync : NamespaceSync) (selector : Labels → Bool)
    {world : World} (present : world.sync = some nsSync)
    (parsed : labelSelectorAsSelector nsSync.spec.labelSelector = .ok selector)
    (complete : ∀ name ∈ desired selector nsSync world, name ∈ world.secondary.keys)
    (tight : ∀ name ∈ world.secondary.keys,
      name ∈ desired selector nsSync world ∨ name ∈ systemNamespaces) :
    ∃ events, (exec (reconcile labelSelectorAsSelector faults) world).2.trace =
        world.trace ++ events ∧ ∀ event ∈ events, event.IsStatus := by
  rcases reconcile_cases faults labelSelectorAsSelector world with ⟨-, -, idle⟩ |
    ⟨other, otherSelector, stored, parsed', runs⟩
  · exact idle
  obtain rfl : nsSync = other := Option.some.inj (present.symm.trans stored)
  obtain rfl : selector = otherSelector := Except.ok.inj (parsed.symm.trans parsed')
  have nothingMissing : missing selector nsSync world = [] := by
    rw [List.eq_nil_iff_forall_not_mem]
    intro ns membership
    obtain ⟨inPrimary, matched, kept, absent⟩ := mem_missing.mp membership
    exact absent (complete _ (mem_desired.mpr ⟨ns, inPrimary, matched, rfl, kept⟩))
  have nothingOrphaned : orphaned selector nsSync world = [] := by
    rw [List.eq_nil_iff_forall_not_mem]
    intro name membership
    obtain ⟨used, unwanted, ordinary⟩ := mem_orphaned.mp membership
    exact (tight name used).elim unwanted ordinary
  obtain ⟨created, deleted, createErrors, deleteErrors, creates, deletes, syncRuns⟩ :=
    syncNamespaces_spec faults selector nsSync world
  obtain ⟨createEvents, createTrace, createAsked, -⟩ := creates.events
  obtain ⟨deleteEvents, deleteTrace, deleteAsked, -⟩ := deletes.events
  rw [nothingMissing] at createAsked
  rw [nothingOrphaned] at deleteAsked
  have noCreates : createEvents = [] := List.eq_nil_iff_forall_not_mem.mpr
    fun event membership => by simpa using createAsked event membership
  have noDeletes : deleteEvents = [] := List.eq_nil_iff_forall_not_mem.mpr
    fun event membership => by simpa using deleteAsked event membership
  let written := syncedStatus nsSync world.clock (desired selector nsSync world)
    (createErrors ++ deleteErrors)
  obtain ⟨failure, statusTrace, -, -⟩ := exec_updateStatus faults written deleted
  refine ⟨[.updateStatus written.status failure], ?_, by simp [Event.IsStatus]⟩
  rw [runs, syncRuns, statusTrace, deleteTrace, createTrace, noCreates, noDeletes]
  simp

/-- A pass in which at most creates and deletes fail deletes no desired and no
system namespace, creates only desired ones, and writes Ready=True exactly when
nothing failed.  If nothing failed, others have only done what the pass was about to do and
deleted namespaces go away, the secondary holds the desired namespaces together with the
system namespaces it already had, and a second pass over the unchanged primary issues no
create and no delete. -/
theorem reconcile_converges
    (labelSelectorAsSelector : LabelSelector → Except ApiError (Labels → Bool))
    (faults : Call → Option Fault) {selector : Labels → Bool} {nsSync : NamespaceSync}
    {world : World} (present : world.sync = some nsSync)
    (parsed : labelSelectorAsSelector nsSync.spec.labelSelector = .ok selector)
    (onlyWrites : OnlyNamespaceWritesFail faults) :
    ∃ after events,
      (exec (reconcile labelSelectorAsSelector faults) world).2 = after ∧
      after.trace = world.trace ++ events ∧
      (∀ name failure, Event.delete name failure ∈ events →
        name ∉ desired selector nsSync world ∧ name ∉ systemNamespaces) ∧
      (∀ name failure, Event.create name failure ∈ events →
        name ∈ desired selector nsSync world) ∧
      (WritesReady events ↔ ∀ event ∈ events, event.failed = false) ∧
      ((∀ event ∈ events, event.failed = false) → Helped selector nsSync world →
          world.finalizes = true →
        (∀ name, name ∈ after.secondary.keys ↔
          name ∈ desired selector nsSync world ∨
            (name ∈ systemNamespaces ∧ name ∈ world.secondary.keys)) ∧
        ∀ laterFaults, ∃ laterEvents,
          (exec (reconcile labelSelectorAsSelector laterFaults) after).2.trace =
              after.trace ++ laterEvents ∧
            ∀ event ∈ laterEvents, event.IsStatus) := by
  obtain ⟨created, deleted, createErrors, deleteErrors, creates, deletes, syncRuns⟩ :=
    syncNamespaces_spec faults selector nsSync world
  obtain ⟨createEvents, createTrace, createAsked, createFailed⟩ := creates.events
  obtain ⟨deleteEvents, deleteTrace, deleteAsked, deleteFailed⟩ := deletes.events
  have inputs := creates.inputs.trans deletes.inputs
  have statusClean := onlyWrites.clean .updateStatus (by simp)
  let written := syncedStatus nsSync world.clock (desired selector nsSync world)
    (createErrors ++ deleteErrors)
  have runs : (exec (reconcile labelSelectorAsSelector faults) world).2 =
      { deleted with
        sync := some written
        trace := deleted.trace ++ [.updateStatus written.status none] } := by
    rw [reconcile_of_clean_reads present parsed onlyWrites, syncRuns]
    have stored : deleted.sync = some nsSync := inputs.sync.trans present
    simp [updateStatus, exec_logged, call, statusClean, replace, exec_bind, stored, record, written]
  have clean : (∀ event ∈ createEvents ++ deleteEvents ++ [.updateStatus written.status none],
      event.failed = false) ↔ createErrors ++ deleteErrors = [] := by
    rw [List.append_eq_nil_iff, createFailed, deleteFailed]
    simp only [List.mem_append, List.mem_singleton, or_imp, forall_and, forall_eq, Event.failed,
      and_true]
  have asked : ∀ event ∈ createEvents ++ deleteEvents ++ [.updateStatus written.status none],
      (∃ ns ∈ missing selector nsSync world, ∃ failure, event = .create ns.name failure) ∨
      (∃ name ∈ orphaned selector nsSync world, ∃ failure, event = .delete name failure) ∨
      event = .updateStatus written.status none := by
    intro event membership
    rw [List.mem_append, List.mem_append, List.mem_singleton, or_assoc] at membership
    exact membership.imp (createAsked event) (Or.imp_left (deleteAsked event))
  refine ⟨_, createEvents ++ deleteEvents ++ [.updateStatus written.status none], runs, ?_,
    ?_, ?_, ?_, ?_⟩
  · simp [deleteTrace, createTrace]
  · intro name failure membership
    rcases asked _ membership with ⟨ns, -, _, equal⟩ | ⟨orphan, isOrphan, _, equal⟩ | equal
    · cases equal
    · cases equal
      exact (mem_orphaned.mp isOrphan).2
    · cases equal
  · intro name failure membership
    rcases asked _ membership with ⟨ns, isMissing, _, equal⟩ | ⟨orphan, -, _, equal⟩ | equal
    · cases equal
      obtain ⟨inPrimary, matched, kept, -⟩ := mem_missing.mp isMissing
      exact mem_desired.mpr ⟨ns, inPrimary, matched, rfl, kept⟩
    · cases equal
    · cases equal
  · obtain ⟨condition, found, readyIff⟩ := ready_syncedStatus nsSync world.clock
      (desired selector nsSync world) (createErrors ++ deleteErrors)
    rw [clean, ← readyIff]
    constructor
    · rintro ⟨status, other, membership, otherFound, ready⟩
      rcases asked _ membership with ⟨ns, -, _, equal⟩ | ⟨orphan, -, _, equal⟩ | equal
      · cases equal
      · cases equal
      · cases equal
        rw [found] at otherFound
        rwa [Option.some.inj otherFound]
    · intro ready
      exact ⟨written.status, condition, by simp, found, ready⟩
  · intro succeeded helped finalizes
    obtain ⟨noCreateErrors, noDeleteErrors⟩ :=
      List.append_eq_nil_iff.mp (clean.mp succeeded)
    have keys := keys_of_no_errors helped creates deletes noCreateErrors finalizes noDeleteErrors
    refine ⟨keys, fun laterFaults => ?_⟩
    have same : desired selector written { deleted with
        sync := some written
        trace := deleted.trace ++ [.updateStatus written.status none] } =
          desired selector nsSync world := by
      simp [desired, selected, inputs.primary, written]
    apply reconcile_idle_of_converged written selector rfl
    · simpa [written] using parsed
    · intro name wanted
      rw [same] at wanted
      exact (keys name).mpr (.inl wanted)
    · intro name used
      rw [same]
      exact ((keys name).mp used).imp_right And.left

end pass

/-! A cluster with one tenant to mirror, one system namespace and one orphan. -/

/-- `LabelSelectorAsSelector` on selectors that only use `matchLabels`. -/
def matchLabelsSelector (selector : LabelSelector) : Except ApiError (Labels → Bool) :=
  .ok fun labels => selector.matchLabels.all fun entry => entry ∈ labels

def tenantSync : NamespaceSync where
  name := "shard-ns-sync"
  generation := 1
  spec := ⟨⟨[("konflux.dev/type", "tenant")], []⟩, ["excluded"]⟩
  status := {}

def tenantWorld : World where
  sync := some tenantSync
  primary := ⟨[⟨"tenant-a", [("konflux.dev/type", "tenant")]⟩,
    ⟨"excluded", [("konflux.dev/type", "tenant")]⟩, ⟨"other", []⟩], by decide⟩
  secondary := ⟨[⟨"default", []⟩, ⟨"orphan", []⟩], by decide⟩
  clock := 7
  trace := []

/-- The same cluster when another writer creates the tenant and deletes the orphan just after
the pass has listed the secondary. -/
def racedWorld : World :=
  { tenantWorld with
    raced := some ⟨[⟨"default", []⟩, ⟨"tenant-a", []⟩], by decide⟩ }

theorem reconcile_converges_tenant :
    ∃ after events,
      (exec (reconcile matchLabelsSelector fun _ => none) racedWorld).2 = after ∧
      after.trace = racedWorld.trace ++ events ∧ WritesReady events ∧
      ∀ name, name ∈ after.secondary.keys ↔
        name ∈ ["tenant-a"] ∨ name ∈ systemNamespaces ∧ name ∈ racedWorld.secondary.keys := by
  obtain ⟨after, events, runs, trace, -, -, ready, settled⟩ :=
    reconcile_converges matchLabelsSelector (fun _ => none)
      (rfl : racedWorld.sync = some tenantSync) rfl (fun _ faulty => absurd rfl faulty)
  have issued : events = [.create "tenant-a" (some (.alreadyExists "namespaces" "tenant-a")),
      .delete "orphan" (some (.notFound "namespaces" "orphan")),
      .updateStatus (syncedStatus tenantSync 7 ["tenant-a"] []).status none] := by
    rw [← runs] at trace
    exact trace.symm
  have succeeded : ∀ event ∈ events, event.failed = false := by
    rw [issued]
    decide
  have keys := (settled succeeded ⟨by decide, by decide⟩ rfl).1
  exact ⟨after, events, runs, trace, ready.mpr succeeded, keys⟩

example : (exec (reconcile matchLabelsSelector fun _ => none) tenantWorld).2.secondary.items =
    [⟨"default", []⟩, ⟨"tenant-a", [("konflux.dev/type", "tenant")]⟩] := by decide

end KubeShard.Namespacesync
