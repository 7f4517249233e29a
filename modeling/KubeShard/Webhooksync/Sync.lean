import KubeShard.Webhooksync.Model

/-!
# What the loops of a WebhookSync pass do

The sync loop is summarised by `Syncs`, which composes along a list of
configurations with distinct names, and the deletion loop by the list of names
it issues a delete for.
-/

namespace KubeShard.Webhooksync

open Prog

variable {ρ : Type} {η : Kind → Type}
variable {faults : Call → Option Fault} {kind : Kind}

/-- The part of a configuration the pass mirrors. -/
def Configuration.content {ρ η : Type} (configuration : Configuration ρ η) :
    String × List (String × String) × List (String × String) × List (Webhook ρ η) :=
  (configuration.name, configuration.metadata.labels, configuration.metadata.annotations,
    configuration.webhooks)

theorem name_of_content_eq {kind : Kind} {src mirror : Configuration ρ (η kind)}
    (same : mirror.content = (transform kind src).content) : mirror.name = src.name := by
  rw [transform_eq] at same
  exact congrArg Prod.fst same

/-- The calls that sync a configuration succeed, given what is on the secondary. -/
def Succeeds (faults : Call → Option Fault) (kind : Kind) (world : World ρ η)
    (name : String) : Prop :=
  faults (.get kind name) = none ∧
    if name ∈ (world.secondary kind).keys then faults (.update kind name) = none
    else faults (.create kind name) = none

/-- The part of the world that syncing one kind leaves alone. -/
abbrev SameInputs : World ρ η → World ρ η → Prop :=
  KubeShard.SameInputs World.sync World.primary World.clock

/-- A delete of a configuration of the kind, with any outcome. -/
def Event.deletes (kind : Kind) (name : String) (event : Event) : Prop :=
  ∃ failure, event = .delete kind name failure

/-- What syncing the `asked` configurations of a kind has done; `names` are the
ones that were synced. -/
structure Syncs (faults : Call → Option Fault) (kind : Kind)
    (asked : List (Configuration ρ (η kind))) (before after : World ρ η)
    (names : List String) : Prop where
  inputs : SameInputs before after
  others : ∀ other, other ≠ kind → after.secondary other = before.secondary other
  names_iff : ∀ name, name ∈ names ↔
    ∃ src ∈ asked, src.name = name ∧ Succeeds faults kind before name
  /-- Only synced configurations are added, behind those already listed. -/
  keys : ∃ created, (after.secondary kind).keys = (before.secondary kind).keys ++ created ∧
    ∀ name ∈ created, name ∈ names
  synced : ∀ src ∈ asked, src.name ∈ names →
    ∃ mirror ∈ (after.secondary kind).items, mirror.content = (transform kind src).content
  untouched : ∀ configuration : Configuration ρ (η kind), configuration.name ∉ names →
    (configuration ∈ (after.secondary kind).items ↔
      configuration ∈ (before.secondary kind).items)
  /-- Configurations that are up to date are not written. -/
  settled : (∀ src ∈ asked, ∃ mirror ∈ (before.secondary kind).items,
      mirror.content = (transform kind src).content) →
    after.secondary = before.secondary
  events : ∃ events, after.trace = before.trace ++ events ∧
    ∀ event ∈ events, ∀ other name, ¬event.deletes other name

namespace Syncs

theorem nil (world : World ρ η) : Syncs faults kind [] world world [] where
  inputs := .refl world
  others _ _ := rfl
  names_iff := by simp
  keys := ⟨[], by simp⟩
  synced := by simp
  untouched _ _ := Iff.rfl
  settled _ := rfl
  events := ⟨[], by simp⟩

/-- Only names that are asked for are synced. -/
theorem notMem_names {asked : List (Configuration ρ (η kind))}
    {before after : World ρ η} {names : List String}
    (syncs : Syncs faults kind asked before after names) {name : String}
    (fresh : ∀ src ∈ asked, src.name ≠ name) : name ∉ names := by
  intro membership
  obtain ⟨src, srcMem, named, -⟩ := (syncs.names_iff name).mp membership
  exact fresh src srcMem named

theorem succeeds_congr {asked : List (Configuration ρ (η kind))}
    {before after : World ρ η} {names : List String}
    (syncs : Syncs faults kind asked before after names) {name : String}
    (fresh : ∀ src ∈ asked, src.name ≠ name) :
    Succeeds faults kind after name ↔ Succeeds faults kind before name := by
  obtain ⟨created, keys, isSynced⟩ := syncs.keys
  have notCreated : name ∉ created := fun membership =>
    syncs.notMem_names fresh (isSynced name membership)
  simp only [Succeeds, keys, List.mem_append, notCreated, or_false]

theorem append {first second : List (Configuration ρ (η kind))}
    {before middle after : World ρ η} {firstNames secondNames : List String}
    (disjoint : ∀ left ∈ first, ∀ right ∈ second, left.name ≠ right.name)
    (left : Syncs faults kind first before middle firstNames)
    (right : Syncs faults kind second middle after secondNames) :
    Syncs faults kind (first ++ second) before after (firstNames ++ secondNames) := by
  refine
    { inputs := left.inputs.trans right.inputs
      others := fun other different =>
        (right.others other different).trans (left.others other different)
      names_iff := ?_, keys := ?_, synced := ?_, untouched := ?_, settled := ?_, events := ?_ }
  · intro name
    rw [List.mem_append, left.names_iff, right.names_iff]
    constructor
    · rintro (⟨src, srcMem, named, succeeds⟩ | ⟨src, srcMem, named, succeeds⟩)
      · exact ⟨src, List.mem_append_left _ srcMem, named, succeeds⟩
      · refine ⟨src, List.mem_append_right _ srcMem, named, ?_⟩
        exact (left.succeeds_congr fun other otherMem =>
          named ▸ disjoint other otherMem src srcMem).mp succeeds
    · rintro ⟨src, srcMem, named, succeeds⟩
      rcases List.mem_append.mp srcMem with srcMem | srcMem
      · exact .inl ⟨src, srcMem, named, succeeds⟩
      · refine .inr ⟨src, srcMem, named, ?_⟩
        exact (left.succeeds_congr fun other otherMem =>
          named ▸ disjoint other otherMem src srcMem).mpr succeeds
  · obtain ⟨firstCreated, firstKeys, firstSynced⟩ := left.keys
    obtain ⟨secondCreated, secondKeys, secondSynced⟩ := right.keys
    refine ⟨firstCreated ++ secondCreated, ?_, ?_⟩
    · rw [secondKeys, firstKeys, List.append_assoc]
    · intro name membership
      rcases List.mem_append.mp membership with old | new
      · exact List.mem_append_left _ (firstSynced name old)
      · exact List.mem_append_right _ (secondSynced name new)
  · intro src srcMem named
    rcases List.mem_append.mp srcMem with srcMem | srcMem
    · have notSecond : src.name ∉ secondNames :=
        right.notMem_names fun other otherMem => (disjoint src srcMem other otherMem).symm
      have isFirst := (List.mem_append.mp named).resolve_right notSecond
      obtain ⟨mirror, mirrorMem, same⟩ := left.synced src srcMem isFirst
      have mirrorName := name_of_content_eq same
      exact ⟨mirror, (right.untouched mirror (mirrorName ▸ notSecond)).mpr mirrorMem, same⟩
    · have notFirst : src.name ∉ firstNames :=
        left.notMem_names fun other otherMem => disjoint other otherMem src srcMem
      exact right.synced src srcMem ((List.mem_append.mp named).resolve_left notFirst)
  · intro configuration unnamed
    rw [List.mem_append, not_or] at unnamed
    rw [right.untouched configuration unnamed.2, left.untouched configuration unnamed.1]
  · intro current
    have firstSettled := left.settled fun src srcMem =>
      current src (List.mem_append_left _ srcMem)
    rw [right.settled, firstSettled]
    rw [firstSettled]
    exact fun src srcMem => current src (List.mem_append_right _ srcMem)
  · obtain ⟨firstEvents, firstTrace, firstDeletes⟩ := left.events
    obtain ⟨secondEvents, secondTrace, secondDeletes⟩ := right.events
    refine ⟨firstEvents ++ secondEvents, ?_, ?_⟩
    · rw [secondTrace, firstTrace, List.append_assoc]
    · intro event membership
      rcases List.mem_append.mp membership with old | new
      · exact firstDeletes event old
      · exact secondDeletes event new

/-- A configuration that was not synced leaves the secondary as it is. -/
theorem failed {src : Configuration ρ (η kind)} {before : World ρ η} {events : List Event}
    (fails : ¬Succeeds faults kind before src.name)
    (noDelete : ∀ event ∈ events, ∀ other name, ¬event.deletes other name) :
    Syncs faults kind [src] before { before with trace := before.trace ++ events } [] where
  inputs := ⟨rfl, rfl, rfl⟩
  others _ _ := rfl
  names_iff := by
    intro name
    constructor
    · simp
    · rintro ⟨other, otherMem, rfl, succeeds⟩
      rw [List.mem_singleton.mp otherMem] at succeeds
      exact absurd succeeds fails
  keys := ⟨[], by simp⟩
  synced := by simp
  untouched _ _ := Iff.rfl
  settled _ := rfl
  events := ⟨events, rfl, noDelete⟩

theorem names_iff_singleton {src : Configuration ρ (η kind)} {before : World ρ η}
    (succeeds : Succeeds faults kind before src.name) (name : String) :
    name ∈ [src.name] ↔
      ∃ other ∈ [src], other.name = name ∧ Succeeds faults kind before name := by
  constructor
  · intro membership
    rw [List.mem_singleton.mp membership]
    exact ⟨src, List.mem_singleton_self src, rfl, succeeds⟩
  · rintro ⟨other, otherMem, rfl, -⟩
    rw [List.mem_singleton.mp otherMem]
    exact List.mem_singleton_self src.name

/-- An update of a configuration that is up to date stores nothing. -/
theorem current {src mirror : Configuration ρ (η kind)} {before : World ρ η}
    {events : List Event} (succeeds : Succeeds faults kind before src.name)
    (present : mirror ∈ (before.secondary kind).items)
    (same : mirror.content = (transform kind src).content)
    (noDelete : ∀ event ∈ events, ∀ other name, ¬event.deletes other name) :
    Syncs faults kind [src] before { before with trace := before.trace ++ events }
      [src.name] where
  inputs := ⟨rfl, rfl, rfl⟩
  others _ _ := rfl
  names_iff := names_iff_singleton succeeds
  keys := ⟨[], by simp⟩
  synced := by
    intro other otherMem _
    rw [List.mem_singleton.mp otherMem]
    exact ⟨mirror, present, same⟩
  untouched _ _ := Iff.rfl
  settled _ := rfl
  events := ⟨events, rfl, noDelete⟩

/-- A created or changed configuration is the only one that is stored. -/
theorem stored {src mirror : Configuration ρ (η kind)} {before : World ρ η}
    {events : List Event} {revision : Nat}
    (succeeds : Succeeds faults kind before src.name)
    (same : mirror.content = (transform kind src).content)
    (changed : ∀ old ∈ (before.secondary kind).items,
      old.content ≠ (transform kind src).content)
    (noDelete : ∀ event ∈ events, ∀ other name, ¬event.deletes other name) :
    Syncs faults kind [src] before
      { before with
        secondary := Function.update before.secondary kind
          ((before.secondary kind).insert mirror)
        revision := revision
        trace := before.trace ++ events }
      [src.name] := by
  have named := name_of_content_eq same
  refine
    { inputs := ⟨rfl, rfl, rfl⟩
      others := fun other different => Function.update_of_ne different _ _
      names_iff := names_iff_singleton succeeds
      keys := ?_, synced := ?_, untouched := ?_, settled := ?_
      events := ⟨events, rfl, noDelete⟩ }
  · simp only [Function.update_self, Store.keys_insert]
    split
    · exact ⟨[], by simp⟩
    · exact ⟨[mirror.name], rfl, by simp [named]⟩
  · intro other otherMem _
    rw [List.mem_singleton.mp otherMem]
    exact ⟨mirror, by simp [Store.mem_insert], same⟩
  · intro configuration unnamed
    rw [List.mem_singleton, ← named] at unnamed
    simp only [Function.update_self, Store.mem_insert]
    constructor
    · rintro (rfl | ⟨membership, -⟩)
      · exact absurd rfl unnamed
      · exact membership
    · exact fun membership => .inr ⟨membership, unnamed⟩
  · intro upToDate
    obtain ⟨old, oldMem, equal⟩ := upToDate src (List.mem_singleton_self src)
    exact absurd equal (changed old oldMem)

end Syncs

/-- The answer of a sync and the names it counts as synced. -/
def countsAs (name : String) : Except ApiError Unit → List String
  | .ok () => [name]
  | .error _ => []

theorem exec_getConfiguration (world : World ρ η) (name : String) :
    exec (getConfiguration faults kind name) world =
      match faults (.get kind name) with
      | some fault => (.error fault.error, world)
      | none =>
          match (world.secondary kind).find? name with
          | some configuration => (.ok configuration, world)
          | none => (.error (.notFound kind.plural name), world) := by
  simp only [getConfiguration, call]
  cases faults (.get kind name) with
  | some fault => rfl
  | none =>
      simp only [exec_bind, exec_get]
      cases (world.secondary kind).find? name <;> rfl

theorem createConfiguration_syncs {src : Configuration ρ (η kind)} {before : World ρ η}
    (read : faults (.get kind src.name) = none)
    (absent : src.name ∉ (before.secondary kind).keys) :
    let result := exec (createConfiguration faults kind (transform kind src)) before
    Syncs faults kind [src] before result.2 (countsAs src.name result.1) := by
  have named : (transform kind src).name = src.name := by
    rw [transform_eq]
    rfl
  have noDelete (failure : Option ApiError) :
      ∀ event ∈ [Event.create kind src.name failure], ∀ other name,
        ¬event.deletes other name := by
    simp [Event.deletes]
  simp only [createConfiguration, exec_logged, call, named]
  cases write : faults (.create kind src.name) with
  | some fault =>
      refine Syncs.failed ?_ (noDelete _)
      rintro ⟨-, writes⟩
      rw [if_neg absent, write] at writes
      cases writes
  | none =>
      simp only [exec_bind, exec_get, absent, if_false, store, exec_modify]
      refine Syncs.stored ⟨read, by rw [if_neg absent, write]⟩ rfl ?_ (noDelete _)
      intro old oldMem equal
      exact absent (Store.mem_keys.mpr ⟨old, oldMem, name_of_content_eq equal⟩)

section update

variable [DecidableEq ρ] [∀ kind, DecidableEq (η kind)]

/-- An existing configuration with the mirrored fields of another. -/
def adopt {ρ η : Type} (existing transformed : Configuration ρ η) : Configuration ρ η :=
  { existing with
    webhooks := transformed.webhooks
    metadata.labels := transformed.metadata.labels
    metadata.annotations := transformed.metadata.annotations }

theorem content_adopt {ρ η : Type} {existing transformed : Configuration ρ η}
    (named : existing.name = transformed.name) :
    (adopt existing transformed).content = transformed.content := by
  simp only [Configuration.content, adopt, Configuration.name] at named ⊢
  rw [named]

theorem adopt_eq_of_content_eq {ρ η : Type} {existing transformed : Configuration ρ η}
    (same : existing.content = transformed.content) :
    adopt existing transformed = existing := by
  simp only [Configuration.content, Prod.mk.injEq] at same
  simp only [adopt, ← same.2.1, ← same.2.2.1, ← same.2.2.2]

theorem updateConfiguration_syncs {src existing : Configuration ρ (η kind)}
    {before : World ρ η} (read : faults (.get kind src.name) = none)
    (found : (before.secondary kind).find? src.name = some existing) :
    let result := exec (updateConfiguration faults kind
      (adopt existing (transform kind src))) before
    Syncs faults kind [src] before result.2 (countsAs src.name result.1) := by
  obtain ⟨existingMem, existingName⟩ := Store.find?_eq_some.mp found
  have present : src.name ∈ (before.secondary kind).keys :=
    Store.mem_keys.mpr ⟨existing, existingMem, existingName⟩
  have adopted : (adopt existing (transform kind src)).content =
      (transform kind src).content := by
    apply content_adopt
    rw [existingName, transform_eq]
    rfl
  have named : (adopt existing (transform kind src)).name = src.name := existingName
  have noDelete (failure : Option ApiError) :
      ∀ event ∈ [Event.update kind src.name failure], ∀ other name,
        ¬event.deletes other name := by
    simp [Event.deletes]
  simp only [updateConfiguration, exec_logged, call, named]
  cases write : faults (.update kind src.name) with
  | some fault =>
      refine Syncs.failed ?_ (noDelete _)
      rintro ⟨-, writes⟩
      rw [if_pos present, write] at writes
      cases writes
  | none =>
      have succeeds : Succeeds faults kind before src.name :=
        ⟨read, by rw [if_pos present, write]⟩
      simp only [exec_bind, exec_get, found]
      -- the read and the write see the same object, so its version is current
      rw [if_neg (by simp [adopt])]
      by_cases same : adopt existing (transform kind src) = existing
      · rw [if_pos same, exec_pure]
        exact Syncs.current succeeds existingMem (same ▸ adopted) (noDelete _)
      · rw [if_neg same]
        simp only [store, exec_modify]
        refine Syncs.stored succeeds adopted ?_ (noDelete _)
        intro old oldMem equal
        have oldName : old.name = existing.name :=
          (name_of_content_eq equal).trans existingName.symm
        rw [Store.eq_of_key_eq oldMem existingMem oldName] at equal
        exact same (adopt_eq_of_content_eq equal)

variable (faults) in
theorem syncConfiguration_syncs (src : Configuration ρ (η kind)) (before : World ρ η) :
    let result := exec (syncConfiguration faults kind src) before
    Syncs faults kind [src] before result.2 (countsAs src.name result.1) := by
  have named : (transform kind src).name = src.name := by
    rw [transform_eq]
    rfl
  simp only [syncConfiguration, exec_bind, exec_attempt, exec_getConfiguration, named]
  cases read : faults (.get kind src.name) with
  | some fault =>
      have fails : ¬Succeeds faults kind before src.name := fun succeeds =>
        absurd (read.symm.trans succeeds.1) nofun
      have idle : Syncs faults kind [src] before
          { before with trace := before.trace ++ [] } [] := .failed fails (by simp)
      rw [List.append_nil] at idle
      exact idle
  | none =>
      cases found : (before.secondary kind).find? src.name with
      | some existing => exact updateConfiguration_syncs read found
      | none => exact createConfiguration_syncs read (Store.find?_eq_none.mp found)

/-- The configurations of a list that the loop acts on. -/
def asked (kind : Kind) (targetGroups : List String)
    (sources : List (Configuration ρ (η kind))) : List (Configuration ρ (η kind)) :=
  sources.filter fun src => shouldSync kind src.webhooks targetGroups

variable (faults) in
theorem syncConfigurations_syncs (targetGroups : List String)
    {sources : List (Configuration ρ (η kind))}
    (nodup : (sources.map Configuration.name).Nodup) (before : World ρ η) :
    ∃ synced after,
      exec (syncConfigurations faults kind targetGroups sources) before =
        (.ok synced, after) ∧
      Syncs faults kind (asked kind targetGroups sources) before after synced.names := by
  induction sources generalizing before with
  | nil => exact ⟨{}, before, rfl, .nil before⟩
  | cons src rest ih =>
      rw [List.map_cons, List.nodup_cons] at nodup
      by_cases wanted : shouldSync kind src.webhooks targetGroups
      · simp only [syncConfigurations, wanted, if_true, exec_bind, exec_attempt]
        have first := syncConfiguration_syncs faults src before
        generalize exec (syncConfiguration faults kind src) before = result at first ⊢
        obtain ⟨answer, middle⟩ := result
        obtain ⟨synced, after, executes, second⟩ := ih nodup.2 middle
        have disjoint : ∀ left ∈ [src], ∀ right ∈ asked kind targetGroups rest,
            left.name ≠ right.name := by
          intro left leftMem right rightMem equal
          rw [List.mem_singleton.mp leftMem] at equal
          refine nodup.1 (List.mem_map.mpr ⟨right, ?_, equal.symm⟩)
          exact (List.mem_filter.mp rightMem).1
        have both := first.append disjoint second
        have split : asked kind targetGroups (src :: rest) =
            [src] ++ asked kind targetGroups rest := List.filter_cons_of_pos wanted
        rw [← split] at both
        simp only [executes]
        cases answer with
        | ok _ => exact ⟨_, after, rfl, both⟩
        | error failure => exact ⟨_, after, rfl, both⟩
      · have split : asked kind targetGroups (src :: rest) = asked kind targetGroups rest :=
          List.filter_cons_of_neg wanted
        simp only [syncConfigurations, wanted, split]
        exact ih nodup.2 before

end update

/-! ## The deletion loop -/

/-- The names the deletion loop issues a delete for: those that are not current,
up to and including the first whose delete fails. -/
def issuedDeletes (faults : Call → Option Fault) (kind : Kind) (currentNames : List String) :
    List String → List String
  | [] => []
  | name :: rest =>
      if name ∈ currentNames then issuedDeletes faults kind currentNames rest
      else if (faults (.delete kind name)).isNone then
        name :: issuedDeletes faults kind currentNames rest
      else [name]

theorem mem_issuedDeletes {currentNames listed : List String} {name : String} :
    name ∈ issuedDeletes faults kind currentNames listed ↔
      name ∉ currentNames ∧ ∃ earlier later, listed = earlier ++ name :: later ∧
        ∀ stale ∈ earlier, stale ∉ currentNames → faults (.delete kind stale) = none := by
  induction listed with
  | nil => simp [issuedDeletes]
  | cons head rest ih =>
      by_cases current : head ∈ currentNames
      · rw [issuedDeletes, if_pos current, ih]
        refine and_congr_right fun notCurrent => ⟨?_, ?_⟩
        · rintro ⟨earlier, later, rfl, passes⟩
          refine ⟨head :: earlier, later, rfl, ?_⟩
          simpa [current] using passes
        · rintro ⟨_ | ⟨_, earlier⟩, later, equal, passes⟩
          · cases equal
            exact absurd current notCurrent
          · cases equal
            exact ⟨earlier, later, rfl, fun stale staleMem =>
              passes stale (List.mem_cons_of_mem _ staleMem)⟩
      · rw [issuedDeletes, if_neg current]
        cases outcome : faults (.delete kind head) with
        | none =>
            simp only [Option.isNone_none, if_true, List.mem_cons, ih]
            constructor
            · rintro (rfl | ⟨notCurrent, earlier, later, rfl, passes⟩)
              · exact ⟨current, [], rest, rfl, by simp⟩
              · refine ⟨notCurrent, head :: earlier, later, rfl, ?_⟩
                simpa [outcome] using passes
            · rintro ⟨notCurrent, _ | ⟨_, earlier⟩, later, equal, passes⟩
              · cases equal
                exact .inl rfl
              · cases equal
                exact .inr ⟨notCurrent, earlier, later, rfl, fun stale staleMem =>
                  passes stale (List.mem_cons_of_mem _ staleMem)⟩
        | some fault =>
            simp only [Option.isNone_some, Bool.false_eq_true, if_false, List.mem_singleton]
            constructor
            · rintro rfl
              exact ⟨current, [], rest, rfl, by simp⟩
            · rintro ⟨notCurrent, _ | ⟨_, earlier⟩, later, equal, passes⟩
              · cases equal
                rfl
              · cases equal
                have clean := passes head (List.mem_cons_self ..) current
                exact absurd (outcome.symm.trans clean) nofun

/-- What the deletion loop over the `listed` names of a kind has done. -/
structure Deletes (faults : Call → Option Fault) (kind : Kind)
    (currentNames listed : List String) (before after : World ρ η) : Prop where
  inputs : SameInputs before after
  others : ∀ other, other ≠ kind → after.secondary other = before.secondary other
  kept : ∀ configuration : Configuration ρ (η kind),
    configuration ∈ (after.secondary kind).items ↔
      configuration ∈ (before.secondary kind).items ∧
        ¬(configuration.name ∈ issuedDeletes faults kind currentNames listed ∧
          faults (.delete kind configuration.name) = none)
  idle : (∀ name ∈ listed, name ∈ currentNames) → after.secondary = before.secondary
  events : ∃ events, after.trace = before.trace ++ events ∧
    ∀ other name, (∃ event ∈ events, event.deletes other name) ↔
      other = kind ∧ name ∈ issuedDeletes faults kind currentNames listed

namespace Deletes

variable {currentNames : List String}

theorem nil (world : World ρ η) : Deletes faults kind currentNames [] world world where
  inputs := .refl world
  others _ _ := rfl
  kept := by simp [issuedDeletes]
  idle _ := rfl
  events := ⟨[], by simp [issuedDeletes]⟩

/-- A current name is passed over. -/
theorem skip {name : String} {rest : List String} {before after : World ρ η}
    (current : name ∈ currentNames) (deletes : Deletes faults kind currentNames rest before after) :
    Deletes faults kind currentNames (name :: rest) before after where
  inputs := deletes.inputs
  others := deletes.others
  kept := by simpa [issuedDeletes, current] using deletes.kept
  idle allCurrent := deletes.idle fun other otherMem =>
    allCurrent other (List.mem_cons_of_mem _ otherMem)
  events := by simpa [issuedDeletes, current] using deletes.events

/-- A failed delete ends the loop. -/
theorem stop {name : String} {rest : List String} {before : World ρ η} {fault : Fault}
    (stale : name ∉ currentNames) (outcome : faults (.delete kind name) = some fault) :
    Deletes faults kind currentNames (name :: rest) before
      { before with trace := before.trace ++ [.delete kind name (some fault.error)] } where
  inputs := ⟨rfl, rfl, rfl⟩
  others _ _ := rfl
  kept := by
    intro configuration
    simp only [issuedDeletes, stale, outcome, if_false, Option.isNone_some,
      Bool.false_eq_true, List.mem_singleton]
    refine ⟨fun membership => ⟨membership, ?_⟩, And.left⟩
    rintro ⟨equal, clean⟩
    rw [equal, outcome] at clean
    exact absurd clean nofun
  idle _ := rfl
  events := by
    refine ⟨[.delete kind name (some fault.error)], rfl, fun other otherName => ?_⟩
    simp [issuedDeletes, stale, outcome, Event.deletes, eq_comm]

/-- A delete that removed the object, or found none, is followed by the rest. -/
theorem cons {name : String} {rest : List String} {before middle after : World ρ η}
    {failure : Option ApiError}
    (deletes : Deletes faults kind currentNames rest middle after)
    (stale : name ∉ currentNames) (outcome : faults (.delete kind name) = none)
    (inputs : SameInputs before middle)
    (others : ∀ other, other ≠ kind → middle.secondary other = before.secondary other)
    (erased : ∀ configuration : Configuration ρ (η kind),
      configuration ∈ (middle.secondary kind).items ↔
        configuration ∈ (before.secondary kind).items ∧ configuration.name ≠ name)
    (trace : middle.trace = before.trace ++ [.delete kind name failure]) :
    Deletes faults kind currentNames (name :: rest) before after where
  inputs := inputs.trans deletes.inputs
  others other different := (deletes.others other different).trans (others other different)
  kept := by
    intro configuration
    simp only [issuedDeletes, stale, outcome, if_false, Option.isNone_none, if_true,
      List.mem_cons, deletes.kept, erased]
    by_cases equal : configuration.name = name
    · simp [equal, outcome]
    · simp [equal]
  idle allCurrent := absurd (allCurrent name (List.mem_cons_self ..)) stale
  events := by
    obtain ⟨events, restTrace, issues⟩ := deletes.events
    refine ⟨.delete kind name failure :: events, by rw [restTrace, trace]; simp, ?_⟩
    intro other otherName
    have head : (Event.delete kind name failure).deletes other otherName ↔
        other = kind ∧ otherName = name := by
      simp [Event.deletes, eq_comm]
    simp only [List.mem_cons, exists_eq_or_imp, head, issues, issuedDeletes, stale, outcome,
      if_false, Option.isNone_none, if_true, ← and_or_left]

end Deletes

theorem deleteStaleItems_deletes (currentNames : List String)
    (items : List (Configuration ρ (η kind))) (before : World ρ η) :
    Deletes faults kind currentNames (items.map Configuration.name) before
      (exec (deleteStaleItems faults kind currentNames items) before).2 := by
  induction items generalizing before with
  | nil => exact .nil before
  | cons item rest ih =>
      by_cases current : item.name ∈ currentNames
      · simp only [deleteStaleItems, current, if_true]
        exact .skip current (ih before)
      · simp only [deleteStaleItems, current, if_false, exec_bind, exec_attempt,
          deleteConfiguration, exec_logged, call]
        cases outcome : faults (.delete kind item.name) with
        | some fault => exact .stop current outcome
        | none =>
            simp only [exec_bind, exec_get]
            by_cases present : item.name ∈ (before.secondary kind).keys
            · simp only [present, if_true, exec_modify]
              refine (ih _).cons current outcome ⟨rfl, rfl, rfl⟩ ?_ ?_ rfl
              · exact fun other different => Function.update_of_ne different _ _
              · simp [record, Store.mem_erase]
            · simp only [present, if_false, exec_throw, ApiError.isNotFound_notFound, if_true]
              refine (ih _).cons current outcome ⟨rfl, rfl, rfl⟩ (fun _ _ => rfl) ?_ rfl
              intro configuration
              refine ⟨fun membership => ⟨membership, fun equal => present ?_⟩, And.left⟩
              exact Store.mem_keys.mpr ⟨configuration, membership, equal⟩

/-- The names a deletion loop goes through. -/
def listedNames (faults : Call → Option Fault) (kind : Kind) (world : World ρ η) :
    List String :=
  if (faults (.listSecondary kind)).isNone then (world.secondary kind).keys else []

variable (faults kind) in
theorem deleteStale_deletes (currentNames : List String) (before : World ρ η) :
    Deletes faults kind currentNames (listedNames faults kind before) before
      (exec (deleteStale faults kind currentNames) before).2 := by
  simp only [deleteStale, Prog.mapError, listSecondary, call, listedNames]
  cases faults (.listSecondary kind) with
  | some fault => exact .nil before
  | none =>
      simp only [exec_bind, exec_attempt, exec_get, exec_pure, Option.isNone_none,
        if_true]
      exact deleteStaleItems_deletes currentNames (before.secondary kind).items before

/-! ## The pass -/

/-- What writing the status changes. -/
structure StatusWritten (whSync : WebhookSync) (before after : World ρ η) : Prop where
  secondary : after.secondary = before.secondary
  primary : after.primary = before.primary
  sync : after.sync = before.sync ∨ after.sync = some whSync
  trace : ∃ failure, after.trace = before.trace ++ [.updateStatus whSync.status failure]

variable (faults) in
theorem updateStatus_written (whSync : WebhookSync) (before : World ρ η) :
    StatusWritten whSync before (exec (updateStatus faults whSync) before).2 := by
  simp only [updateStatus, exec_logged, call]
  cases faults .updateStatus with
  | some fault => exact ⟨rfl, rfl, .inl rfl, _, rfl⟩
  | none =>
      simp only [replace, exec_bind, exec_get]
      cases before.sync with
      | none => exact ⟨rfl, rfl, .inl rfl, _, rfl⟩
      | some old => exact ⟨rfl, rfl, .inr rfl, _, rfl⟩

theorem syncedStatus_apiGroups (whSync : WebhookSync) (now validating mutating : Nat)
    (errors : List ApiError) :
    (syncedStatus whSync now validating mutating errors).apiGroups = whSync.apiGroups := by
  simp only [syncedStatus]
  split <;> rfl

section pass

variable [DecidableEq ρ] [∀ kind, DecidableEq (η kind)]

/-- The world a pass leaves. -/
def afterPass (faults : Call → Option Fault) (before : World ρ η) : World ρ η :=
  (exec (reconcile faults) before).2

/-- The writes a pass issues. -/
def issued (faults : Call → Option Fault) (before : World ρ η) : List Event :=
  (afterPass faults before).trace.drop before.trace.length

/-- The pass finds its WebhookSync and gets as far as deleting stale configurations. -/
structure Reaches (faults : Call → Option Fault) (before : World ρ η)
    (whSync : WebhookSync) : Prop where
  sync : before.sync = some whSync
  getSync : faults .getSync = none
  buildSecondaryClient : faults .buildSecondaryClient = none
  listPrimary : ∀ kind, faults (.listPrimary kind) = none

/-- How a pass handles one kind: `start` and `synced` are the worlds around its
sync loop, `listing` and `finished` those around its deletion loop. -/
structure Handles (faults : Call → Option Fault) (targetGroups : List String) (kind : Kind)
    (before start synced listing finished : World ρ η) (names : List String) : Prop where
  sameStart : start.secondary kind = before.secondary kind
  syncs : Syncs faults kind (asked kind targetGroups (before.primary kind).items)
    start synced names
  sameListing : listing.secondary kind = synced.secondary kind
  deletes : Deletes faults kind names (listedNames faults kind listing) listing finished
  result : (afterPass faults before).secondary kind = finished.secondary kind
  issued : ∀ name, (∃ event ∈ issued faults before, event.deletes kind name) ↔
    name ∈ issuedDeletes faults kind names (listedNames faults kind listing)

theorem reconcile_of_reaches {before : World ρ η} {whSync : WebhookSync}
    (reaches : Reaches faults before whSync) :
    ∃ (validated mutated staleValidated staleMutated : World ρ η) (names : Kind → List String)
        (reported : WebhookSync),
      Syncs faults .validating
        (asked .validating whSync.apiGroups (before.primary .validating).items)
        before validated (names .validating) ∧
      Syncs faults .mutating
        (asked .mutating whSync.apiGroups (before.primary .mutating).items)
        validated mutated (names .mutating) ∧
      Deletes faults .validating (names .validating) (listedNames faults .validating mutated)
        mutated staleValidated ∧
      Deletes faults .mutating (names .mutating)
        (listedNames faults .mutating staleValidated) staleValidated staleMutated ∧
      StatusWritten reported staleMutated (afterPass faults before) ∧
      reported.apiGroups = whSync.apiGroups := by
  obtain ⟨validating, validated, validatingRuns, validatingSyncs⟩ :=
    syncConfigurations_syncs faults whSync.apiGroups (before.primary .validating).nodup before
  obtain ⟨mutating, mutated, mutatingRuns, mutatingSyncs⟩ :=
    syncConfigurations_syncs faults whSync.apiGroups (before.primary .mutating).nodup validated
  have samePrimary := validatingSyncs.inputs.primary
  have staleValidating := deleteStale_deletes faults .validating validating.names mutated
  generalize validatingExec : exec (deleteStale faults .validating validating.names) mutated =
    validatingResult at staleValidating
  have staleMutating :=
    deleteStale_deletes faults .mutating mutating.names validatingResult.2
  generalize mutatingExec : exec (deleteStale faults .mutating mutating.names)
    validatingResult.2 = mutatingResult at staleMutating
  have execution : ∃ now validatingCount mutatingCount errors, afterPass faults before =
      (exec (updateStatus faults
        (syncedStatus whSync now validatingCount mutatingCount errors)) mutatingResult.2).2 := by
    simp only [afterPass, reconcile, getSync, call, reaches.getSync, exec_bind, exec_attempt,
      exec_get, reaches.sync, exec_pure, reconcileSync, reaches.buildSecondaryClient,
      Prog.mapError, listPrimary, reaches.listPrimary, validatingRuns, samePrimary,
      mutatingRuns, deleteStaleValidating, deleteStaleMutating, validatingExec, mutatingExec]
    exact ⟨_, _, _, _, rfl⟩
  obtain ⟨now, validatingCount, mutatingCount, errors, executes⟩ := execution
  refine ⟨validated, mutated, validatingResult.2, mutatingResult.2,
    Kind.choose validating.names mutating.names,
    syncedStatus whSync now validatingCount mutatingCount errors,
    validatingSyncs, mutatingSyncs, staleValidating, staleMutating, ?_,
    syncedStatus_apiGroups whSync now validatingCount mutatingCount errors⟩
  rw [executes]
  exact updateStatus_written faults _ mutatingResult.2

theorem issued_eq {before : World ρ η} {events : List Event}
    (trace : (afterPass faults before).trace = before.trace ++ events) :
    issued faults before = events := by
  rw [issued, trace, List.drop_left]

/-- The two kinds are handled one after the other without touching each other. -/
theorem reconcile_handles {before : World ρ η} {whSync : WebhookSync}
    (reaches : Reaches faults before whSync) (kind : Kind) :
    ∃ start synced listing finished names,
      Handles faults whSync.apiGroups kind before start synced listing finished names := by
  obtain ⟨validated, mutated, staleValidated, staleMutated, names, reported,
    validatingSyncs, mutatingSyncs, staleValidating, staleMutating, written, -⟩ :=
    reconcile_of_reaches reaches
  obtain ⟨failure, trace⟩ := written.trace
  obtain ⟨firstEvents, firstTrace, firstNoDelete⟩ := validatingSyncs.events
  obtain ⟨secondEvents, secondTrace, secondNoDelete⟩ := mutatingSyncs.events
  obtain ⟨thirdEvents, thirdTrace, thirdDeletes⟩ := staleValidating.events
  obtain ⟨fourthEvents, fourthTrace, fourthDeletes⟩ := staleMutating.events
  have issues : issued faults before = firstEvents ++ secondEvents ++ thirdEvents ++
      fourthEvents ++ [.updateStatus reported.status failure] := by
    apply issued_eq
    rw [trace, fourthTrace, thirdTrace, secondTrace, firstTrace]
    simp only [List.append_assoc]
  have deletes (other : Kind) (name : String) :
      (∃ event ∈ issued faults before, event.deletes other name) ↔
        (∃ event ∈ thirdEvents, event.deletes other name) ∨
          ∃ event ∈ fourthEvents, event.deletes other name := by
    rw [issues]
    constructor
    · rintro ⟨event, membership, isDelete⟩
      simp only [List.mem_append, List.mem_singleton] at membership
      rcases membership with (((first | second) | third) | fourth) | rfl
      · exact absurd isDelete (firstNoDelete event first other name)
      · exact absurd isDelete (secondNoDelete event second other name)
      · exact .inl ⟨event, third, isDelete⟩
      · exact .inr ⟨event, fourth, isDelete⟩
      · obtain ⟨_, equal⟩ := isDelete
        cases equal
    · rintro (⟨event, membership, isDelete⟩ | ⟨event, membership, isDelete⟩)
      · exact ⟨event, by simp [membership], isDelete⟩
      · exact ⟨event, by simp [membership], isDelete⟩
  cases kind with
  | validating =>
      refine ⟨before, validated, mutated, staleValidated, names .validating, rfl,
        validatingSyncs, mutatingSyncs.others _ nofun, staleValidating, ?_, ?_⟩
      · rw [written.secondary]
        exact staleMutating.others .validating nofun
      · intro name
        simp [deletes, thirdDeletes, fourthDeletes]
  | mutating =>
      refine ⟨validated, mutated, staleValidated, staleMutated, names .mutating,
        validatingSyncs.others _ nofun, mutatingSyncs, staleValidating.others _ nofun,
        staleMutating, ?_, ?_⟩
      · rw [written.secondary]
      · intro name
        simp [deletes, thirdDeletes, fourthDeletes]

/-- A pass leaves the primary and the spec of its WebhookSync alone. -/
theorem afterPass_inputs {before : World ρ η} {whSync : WebhookSync}
    (reaches : Reaches faults before whSync) :
    (afterPass faults before).primary = before.primary ∧
      ∃ next, (afterPass faults before).sync = some next ∧
        next.apiGroups = whSync.apiGroups := by
  obtain ⟨validated, mutated, staleValidated, staleMutated, names, reported,
    validatingSyncs, mutatingSyncs, staleValidating, staleMutating, written, sameGroups⟩ :=
    reconcile_of_reaches reaches
  have inputs := ((validatingSyncs.inputs.trans mutatingSyncs.inputs).trans
    staleValidating.inputs).trans staleMutating.inputs
  refine ⟨written.primary.trans inputs.primary, ?_⟩
  rcases written.sync with old | new
  · exact ⟨whSync, by rw [old, inputs.sync, reaches.sync], rfl⟩
  · exact ⟨reported, new, sameGroups⟩

/-- A pass that stops early deletes nothing. -/
theorem no_delete_of_not_reaches {before : World ρ η}
    (stops : ∀ whSync, ¬Reaches faults before whSync) :
    ∀ event ∈ issued faults before, ∀ kind name, ¬event.deletes kind name := by
  suffices ∃ events, (afterPass faults before).trace = before.trace ++ events ∧
      ∀ event ∈ events, ∀ kind name, ¬event.deletes kind name by
    obtain ⟨events, trace, noDelete⟩ := this
    rwa [issued_eq trace]
  have unchanged {after : World ρ η} (trace : after.trace = before.trace) :
      ∃ events, after.trace = before.trace ++ events ∧
        ∀ event ∈ events, ∀ kind name, ¬event.deletes kind name := ⟨[], by simp [trace]⟩
  cases getFault : faults .getSync with
  | some fault =>
      simp only [afterPass, reconcile, getSync, call, getFault, exec_bind, exec_attempt,
        exec_throw]
      exact unchanged rfl
  | none =>
  cases sync : before.sync with
  | none =>
      simp only [afterPass, reconcile, getSync, call, getFault, exec_bind, exec_attempt,
        exec_get, sync, exec_throw]
      exact unchanged rfl
  | some whSync =>
  simp only [afterPass, reconcile, getSync, call, getFault, exec_bind, exec_attempt,
    exec_get, sync, exec_pure, reconcileSync, Prog.mapError, listPrimary]
  cases buildFault : faults .buildSecondaryClient with
  | some fault =>
      simp only [exec_throw, secondaryUnavailable, exec_bind, exec_get, exec_attempt]
      obtain ⟨failure, trace⟩ := (updateStatus_written faults
        (setReady whSync before.clock .false "SecondaryUnavailable"
          s!"Cannot connect to secondary: {fault.error.message}") before).trace
      exact ⟨_, trace, by simp [Event.deletes]⟩
  | none =>
  cases validatingFault : faults (.listPrimary .validating) with
  | some fault => exact unchanged rfl
  | none =>
  obtain ⟨validating, validated, runs, syncs⟩ :=
    syncConfigurations_syncs faults whSync.apiGroups (before.primary .validating).nodup before
  simp only [exec_pure, exec_bind, exec_attempt, exec_get, runs]
  cases mutatingFault : faults (.listPrimary .mutating) with
  | some fault => exact syncs.events
  | none =>
      refine absurd ⟨sync, getFault, buildFault, ?_⟩ (stops whSync)
      rintro (_ | _)
      · exact validatingFault
      · exact mutatingFault

end pass

end KubeShard.Webhooksync
