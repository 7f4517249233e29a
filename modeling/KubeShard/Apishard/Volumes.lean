import KubeShard.Apishard.Database
import KubeShard.Apishard.Status
import KubeShard.Resources.Volumes

/-!
# The volumes of the in-cluster database in a run

A pass builds the StatefulSet of the database from the spec and aligns it with the
live one.  However often the spec changes, the StatefulSet keeps the volumes it was
created with, and the StorageReady condition tells whether the spec still asks for
them.
-/

namespace KubeShard.Apishard

open Resources Prog

/-- The StatefulSet of a shard with this name and target namespace. -/
def statefulSetKey (name namespace_ : String) : ObjectKey :=
  ⟨.statefulSet, namespace_, name ++ "-postgresql"⟩

theorem key_postgreSQLStatefulSet (shard : APIShard) :
    Component.postgreSQLStatefulSet.key shard =
      statefulSetKey shard.name shard.spec.targetNamespace := rfl

/-! ## One pass -/

section pass

variable {ctx : Schedule} (shard : APIShard)

/-- The StatefulSet a pass leaves where the first object is live; what it does not send is that
of the second one. -/
def alignedObject (before : Option Object) (stands : Object) : Object :=
  stands.merge ⟨statefulSetKey shard.name shard.spec.targetNamespace, some shard.name, [],
    .statefulSet (aligned shard before), 0, 0, []⟩

/-- A guard on the StatefulSet that holds of what is applied is kept. -/
theorem reconcileInClusterPostgreSQL_volumes (truthful : ctx.Truthful)
    {live : Option Object → Prop}
    (applies : ∀ before, live before → ∀ stands,
      live (some (alignedObject shard before stands))) :
    Respects (.keeps (Guarded (statefulSetKey shard.name shard.spec.targetNamespace) live
      fun _ => True)) (reconcileInClusterPostgreSQL ctx shard) := by
  rw [reconcileInClusterPostgreSQL_eq]
  let guarded := Guarded (statefulSetKey shard.name shard.spec.targetNamespace) live fun _ => True
  have preserves : Respects (.keeps guarded) (preservePostgreSQLVolumeClaimTemplates ctx shard
      (buildPostgreSQLStatefulSet shard)) :=
    (preservePostgreSQLVolumeClaimTemplates_still ctx shard _).mono fun _ _ still guarded =>
      guarded.beside still.untouched List.not_mem_nil rfl
  have prepares := prepareDatabase_guarded ctx shard live
  rw [key_postgreSQLStatefulSet] at prepares
  apply prepares.bind
  intro _
  -- What is applied next is aligned with a live object that meets the guard.
  apply Respects.keeps_bind (preserves.mapError _)
    (P := fun set => ∃ before, live before ∧ set = aligned shard before)
  · intro state set after guarded ran
    obtain ⟨_, _, isLive, isSet, _⟩ :=
      preservePostgreSQLVolumeClaimTemplates_ok (exec_mapError_eq_ok.mp ran)
    exact ⟨_, guarded.live, isLive truthful ▸ isSet⟩
  intro set isSet
  obtain ⟨before, holds, rfl⟩ := isSet
  have statefulSet : Respects (.keeps guarded)
      (applyOwned ctx shard .postgreSQLStatefulSet [] (.statefulSet (aligned shard before))) :=
    Guarded.applyOwned ctx shard .postgreSQLStatefulSet
      (fun _ _ stands => applies before holds stands) trivial
  apply (statefulSet.mapError _).bind
  intro _
  exact (Guarded.applyOwned_component ctx shard .postgreSQLStatefulSet .postgreSQLService rfl rfl
    rfl (by decide) _ _).mapError _

end pass

/-! ## Descent -/

/-- A StatefulSet is there that was created for this persistence. -/
def DescendsFrom (name : String) (origin : Option PersistenceSpec) (live : Option Object) : Prop :=
  ∃ object, live = some object ∧ Descends name origin object.statefulSet

/-- If a StatefulSet is there, it was created for this persistence. -/
def CreatedFor (name : String) (origin : Option PersistenceSpec) (live : Option Object) : Prop :=
  ∀ object, live = some object → Descends name origin object.statefulSet

theorem DescendsFrom.aligned {shard : APIShard} {origin : Option PersistenceSpec}
    {before : Option Object} (descends : DescendsFrom shard.name origin before)
    (stands : Object) :
    DescendsFrom shard.name origin (some (alignedObject shard before stands)) := by
  obtain ⟨object, rfl, descends⟩ := descends
  exact ⟨_, rfl, descends.align⟩

theorem CreatedFor.aligned {shard : APIShard} {before : Option Object}
    (created : CreatedFor shard.name shard.spec.storage.persistence before)
    (stands : Object) :
    CreatedFor shard.name shard.spec.storage.persistence
      (some (alignedObject shard before stands)) := by
  intro object isObject
  obtain rfl := Option.some.inj isObject
  cases before with
  | none => exact descends_build shard
  | some object => exact (created object rfl).align

/-! ## Runs -/

/-- The API server keeps a StatefulSet as it was applied, up to its defaults. -/
def StoredAs : Option Object → Option Object → Prop
  | none, none => True
  | some before, some after => Defaults before.statefulSet after.statefulSet
  | _, _ => False

/-- What is asked of the steps of a run.  Its passes are on this shard, which has its
database in the cluster, and read the StatefulSet truthfully; others leave the
StatefulSet alone, up to the defaults of the API server. -/
def Step.Tends (name namespace_ : String) (state : State) : Step → Prop
  | .pass _ passed ctx => passed = name ∧ ctx.Truthful ∧
      ∀ copy ∈ state.cluster.registry.copy ctx name,
        copy.spec.storage.type = .inClusterPostgreSQL ∧ copy.spec.targetNamespace = namespace_
  | .surround surroundings =>
      StoredAs (state.cluster.objects.find? (statefulSetKey name namespace_))
        (surroundings.objects.find? (statefulSetKey name namespace_))
  | _ => True

section runs

variable {name namespace_ : String} {state : State}

/-- The StatefulSet of the shard in a state. -/
def liveStatefulSet (name namespace_ : String) (state : State) : Option Object :=
  state.cluster.objects.find? (statefulSetKey name namespace_)

/-- A pass keeps a guard on the StatefulSet that holds of what its copy applies. -/
theorem pass_volumes {r : Reconciler} {ctx : Schedule}
    (tends : (Step.pass r name ctx).Tends name namespace_ state) (live : Option Object → Prop)
    (applies : ∀ copy : APIShard, copy.name = name → copy.spec.targetNamespace = namespace_ →
      (∃ stored, state.cluster.registry.copy ctx name = some stored ∧ copy.spec = stored.spec) →
      ∀ before, live before → ∀ stands, live (some (alignedObject copy before stands)))
    (holds : live (liveStatefulSet name namespace_ state)) :
    live (liveStatefulSet name namespace_ (exec (reconcile r ctx name) state).2) := by
  have guarded : Guarded (statefulSetKey name namespace_) live (fun _ => True) state :=
    ⟨holds, fun _ _ => trivial⟩
  refine (reconcile_guarded rfl guarded ?_).live
  intro copy start adopted begun
  obtain ⟨stored, copied, _, spec, _⟩ := adopted.base
  obtain ⟨type, target⟩ := tends.2.2 stored copied
  rw [← spec] at type target
  have named := adopted.name
  subst named
  subst target
  have database : Component.postgreSQLStatefulSet ∈ storageComponents copy := by
    rw [storageComponents, type]
    simp
  exact reconcileCopy_guarded database (by decide)
    (reconcileInClusterPostgreSQL_volumes copy tends.2.1
      (applies copy rfl rfl ⟨stored, copied, spec⟩)) start begun

/-- A StatefulSet that is there keeps what it was created with. -/
theorem step_descends {origin : Option PersistenceSpec}
    (descends : DescendsFrom name origin (liveStatefulSet name namespace_ state)) {step : Step}
    (tends : step.Tends name namespace_ state) :
    DescendsFrom name origin (liveStatefulSet name namespace_ (state.step step)) := by
  cases step with
  | edit edit => exact descends
  | surround surroundings =>
      obtain ⟨object, found, descends⟩ := descends
      simp only [Step.Tends, show state.cluster.objects.find? _ = some object from found] at tends
      show DescendsFrom name origin (surroundings.objects.find? (statefulSetKey name namespace_))
      cases stored : surroundings.objects.find? (statefulSetKey name namespace_) with
      | none =>
          rw [stored] at tends
          exact tends.elim
      | some after =>
          rw [stored] at tends
          exact ⟨after, rfl, descends.defaults tends⟩
  | createCRD crd =>
      simp only [State.step, Cluster.createCRD]
      split <;> exact descends
  | deleteCRD name => exact descends
  | pass r passed ctx =>
      obtain ⟨rfl, _⟩ := id tends
      apply pass_volumes tends (DescendsFrom passed origin) _ descends
      rintro copy rfl rfl _ before descends stands
      exact descends.aligned stands

/-- The persistence that a step creates the StatefulSet for, if it does. -/
def Step.creates (name namespace_ : String) (state : State) : Step → Option (Option PersistenceSpec)
  | .pass r passed ctx =>
      if (liveStatefulSet name namespace_ (exec (reconcile r ctx passed) state).2).isSome then
        (state.cluster.registry.copy ctx name).map (·.spec.storage.persistence)
      else none
  | _ => none

/-- A StatefulSet that is not there stays away, or is created for the spec of a pass. -/
theorem step_creates (absent : liveStatefulSet name namespace_ state = none) {step : Step}
    (tends : step.Tends name namespace_ state) :
    match step.creates name namespace_ state with
    | none => liveStatefulSet name namespace_ (state.step step) = none
    | some origin => DescendsFrom name origin
      (liveStatefulSet name namespace_ (state.step step)) := by
  cases step with
  | edit edit => exact absent
  | surround surroundings =>
      simp only [Step.Tends, show state.cluster.objects.find? _ = none from absent] at tends
      show surroundings.objects.find? (statefulSetKey name namespace_) = none
      cases stored : surroundings.objects.find? (statefulSetKey name namespace_) with
      | none => rfl
      | some after =>
          rw [stored] at tends
          exact tends.elim
  | createCRD crd =>
      simp only [Step.creates, State.step, Cluster.createCRD]
      split <;> exact absent
  | deleteCRD name => exact absent
  | pass r passed ctx =>
      obtain ⟨rfl, _⟩ := id tends
      simp only [Step.creates]
      cases copied : state.cluster.registry.copy ctx passed with
      | none =>
          have stays := pass_volumes tends (· = none) (fun copy _ _ base => by
            obtain ⟨stored, isStored, _⟩ := base
            rw [copied] at isStored
            cases isStored) absent
          simp only [Option.map_none, ite_self]
          exact stays
      | some stored =>
          have created := pass_volumes tends (CreatedFor passed stored.spec.storage.persistence)
            (by
              rintro copy rfl rfl ⟨base, isBase, spec⟩ before created stands
              rw [copied] at isBase
              obtain rfl := Option.some.inj isBase
              rw [← spec] at created ⊢
              exact created.aligned stands)
            (fun object live => by rw [absent] at live; cases live)
          show match (if _ then _ else _ : Option (Option PersistenceSpec)) with
            | none => liveStatefulSet passed namespace_ (exec (reconcile r ctx passed) state).2 =
              none
            | some origin => DescendsFrom passed origin
                (liveStatefulSet passed namespace_ (exec (reconcile r ctx passed) state).2)
          cases live : liveStatefulSet passed namespace_
            (exec (reconcile r ctx passed) state).2 with
          | none => rfl
          | some object => exact ⟨object, rfl, created object live⟩

/-- The persistence the StatefulSet was created for in a run, if it was. -/
def creation (name namespace_ : String) : State → List Step → Option (Option PersistenceSpec)
  | _, [] => none
  | state, step :: rest =>
      match step.creates name namespace_ state with
      | some origin => some origin
      | none => creation name namespace_ (state.step step) rest

/-- Wherever a run ends, the StatefulSet is as it was created, if it was. -/
theorem run_descends (absent : liveStatefulSet name namespace_ state = none) {steps : List Step}
    (tends : Along State.step (fun state step => step.Tends name namespace_ state) state steps) :
    match creation name namespace_ state steps with
    | none => liveStatefulSet name namespace_ (run State.step state steps) = none
    | some origin =>
        DescendsFrom name origin (liveStatefulSet name namespace_
          (run State.step state steps)) := by
  induction steps generalizing state with
  | nil => exact absent
  | cons step rest ih =>
      have first := step_creates absent tends.1
      rw [creation]
      cases created : step.creates name namespace_ state with
      | none =>
          rw [created] at first
          exact ih first tends.2
      | some origin =>
          rw [created] at first
          exact tends.2.invariant (fun _ _ tends descends => step_descends descends tends) first

end runs

/-! ## The read of a pass -/

section reads

variable (ctx : Schedule) (shard : APIShard)

/-- A pass up to its read of the StatefulSet. -/
def untilStatefulSet : Pass StatefulSet := do
  orSetError ctx shard (ensureNamespace ctx shard)
  initializePhase ctx shard
  statefulSetToApply ctx shard

variable {ctx shard}

theorem exec_orSetError_congr {α : Type} {first second : Pass α} {state middle : State}
    (same : exec first state = exec second middle) :
    exec (orSetError ctx shard first) state = exec (orSetError ctx shard second) middle := by
  simp only [orSetError, exec_bind, exec_attempt, same]

theorem exec_mapError_congr {α : Type} {first second : Pass α} {rewrite : ApiError → ApiError}
    {state middle : State} (same : exec first state = exec second middle) :
    exec (first.mapError rewrite) state = exec (second.mapError rewrite) middle := by
  simp only [exec_mapError, same]

theorem exec_bind_congr {α β : Type} {first second : Pass α} {next : α → Pass β}
    {state middle : State} (same : exec first state = exec second middle) :
    exec (first >>= next) state = exec (second >>= next) middle := by
  simp only [exec_bind, same]

/-- A pass that has read the StatefulSet goes on to apply what it made of it. -/
theorem reconcileCopy_until (ctx : Schedule) (r : Reconciler)
    (inCluster : shard.spec.storage.type = .inClusterPostgreSQL) :
    ∃ rest : Pass Result, ∀ start set middle,
      exec (untilStatefulSet ctx shard) start = (.ok set, middle) →
      exec (reconcileCopy r ctx shard) start =
        exec (do
          orSetError ctx shard (do
            (applyDatabase ctx shard set).mapError (·.wrap "in-cluster PostgreSQL")
            (reconcileKine ctx shard).mapError (·.wrap "kine")
            reconcilePostgreSQLMetrics r ctx shard)
          rest) middle := by
  apply Exists.intro
  intro start set middle ran
  obtain ⟨_, namespaced, first, ran⟩ := exec_bind_eq_ok.mp ran
  obtain ⟨_, begun, second, ran⟩ := exec_bind_eq_ok.mp ran
  have database : exec (reconcileInClusterPostgreSQL ctx shard) begun =
      exec (applyDatabase ctx shard set) middle := by
    rw [reconcileInClusterPostgreSQL, exec_bind_ok ran]
  have storage : exec (reconcileStorage r ctx shard) begun = exec (do
      (applyDatabase ctx shard set).mapError (·.wrap "in-cluster PostgreSQL")
      (reconcileKine ctx shard).mapError (·.wrap "kine")
      reconcilePostgreSQLMetrics r ctx shard) middle := by
    simp only [reconcileStorage, inCluster]
    exact exec_bind_congr (exec_mapError_congr database)
  simp only [reconcileCopy, reconcileResources, reconcileObjects, bind_assoc]
  rw [exec_bind_ok first, exec_bind_ok second]
  exact exec_bind_congr (exec_orSetError_congr storage)

/-- Up to its read a pass leaves the StatefulSet alone. -/
theorem untilStatefulSet_ok (truthful : ctx.Truthful) {start middle : State} {set : StatefulSet}
    (ran : exec (untilStatefulSet ctx shard) start = (.ok set, middle)) :
    let live := liveStatefulSet shard.name shard.spec.targetNamespace start
    set = aligned shard live ∧
      middle.status.condition .storageReady = some (storageVerdict shard live) := by
  let guarded := Guarded (statefulSetKey shard.name shard.spec.targetNamespace)
    (· = liveStatefulSet shard.name shard.spec.targetNamespace start) fun _ => True
  have untouched {α : Type} {program : Pass α} (respects : Respects untouched program) :
      Respects (.keeps guarded) program :=
    respects.mono fun _ _ applied guarded => guarded.beside applied List.not_mem_nil rfl
  obtain ⟨_, namespaced, first, ran⟩ := exec_bind_eq_ok.mp ran
  obtain ⟨_, begun, second, ran⟩ := exec_bind_eq_ok.mp ran
  obtain ⟨_, prepared, third, ran⟩ := exec_bind_eq_ok.mp ran
  have initially : guarded start := ⟨rfl, fun _ _ => trivial⟩
  have reached : guarded prepared := by
    apply (prepareDatabase_guarded ctx shard _).rel third
    apply (untouched (initializePhase_untouched ctx shard)).rel second
    apply (orSetError_respects ctx shard (fun failure =>
      untouched (setErrorAndRequeue_untouched ctx shard failure)) (untouched
        ((ensureNamespace_sharing ctx shard).mono fun _ _ sharing => sharing.untouched))).rel first
    exact initially
  obtain ⟨_, _, isLive, isSet, reported⟩ :=
    preservePostgreSQLVolumeClaimTemplates_ok (exec_mapError_eq_ok.mp ran)
  obtain rfl := (isLive truthful).trans reached.live
  exact ⟨isSet, reported⟩

end reads

/-- What a pass does about the volumes: it applies the claim templates of the live
StatefulSet, every mount has one source of the kind it had at creation, and
StorageReady tells whether the spec still asks for that. -/
structure Upheld (r : Reconciler) (ctx : Schedule) (copy : APIShard)
    (origin : Option PersistenceSpec) (start : State) (set : StatefulSet) (middle : State) :
    Prop where
  applied : ∃ rest : Pass Result, exec (reconcileCopy r ctx copy) start = exec (do
    orSetError ctx copy (do
      (applyDatabase ctx copy set).mapError (·.wrap "in-cluster PostgreSQL")
      (reconcileKine ctx copy).mapError (·.wrap "kine")
      reconcilePostgreSQLMetrics r ctx copy)
    rest) middle
  claims : ∀ live ∈ liveStatefulSet copy.name copy.spec.targetNamespace start,
    set.volumeClaimTemplates = live.statefulSet.volumeClaimTemplates
  provided : Provided origin set
  ready : copy.spec.storage.persistence = origin →
    middle.status.condition .storageReady = some .true
  unready : Differs copy.spec.storage.persistence origin →
    middle.status.condition .storageReady = some .false

section upheld

variable {ctx : Schedule} {shard : APIShard} {set : StatefulSet} {start middle : State}

theorem upheld_of_descends (r : Reconciler) (truthful : ctx.Truthful)
    (inCluster : shard.spec.storage.type = .inClusterPostgreSQL)
    {origin : Option PersistenceSpec} (descends : DescendsFrom shard.name origin
      (liveStatefulSet shard.name shard.spec.targetNamespace start))
    (ran : exec (untilStatefulSet ctx shard) start = (.ok set, middle)) :
    Upheld r ctx shard origin start set middle := by
  obtain ⟨rest, goesOn⟩ := reconcileCopy_until ctx r inCluster
  obtain ⟨isSet, verdict⟩ := untilStatefulSet_ok truthful ran
  obtain ⟨object, live, descends⟩ := descends
  rw [live] at isSet verdict
  refine ⟨⟨rest, goesOn start set middle ran⟩, ?_, ?_, ?_, ?_⟩
  · intro other isOther
    rw [live] at isOther
    obtain rfl := Option.some.inj isOther
    rw [isSet]
    rfl
  · rw [isSet]
    exact descends.align.provided
  · intro same
    rw [verdict, storageVerdict, match_of_same descends same, if_pos rfl]
  · intro differs
    rw [verdict, storageVerdict, not_match_of_differs descends differs, if_neg nofun]

theorem upheld_of_absent (r : Reconciler) (truthful : ctx.Truthful)
    (inCluster : shard.spec.storage.type = .inClusterPostgreSQL)
    (absent : liveStatefulSet shard.name shard.spec.targetNamespace start = none)
    (ran : exec (untilStatefulSet ctx shard) start = (.ok set, middle)) :
    Upheld r ctx shard shard.spec.storage.persistence start set middle := by
  obtain ⟨rest, goesOn⟩ := reconcileCopy_until ctx r inCluster
  obtain ⟨isSet, verdict⟩ := untilStatefulSet_ok truthful ran
  rw [absent] at isSet verdict
  refine ⟨⟨rest, goesOn start set middle ran⟩, ?_, ?_, fun _ => verdict, ?_⟩
  · intro object live
    rw [absent] at live
    cases live
  · rw [isSet]
    exact (descends_build shard).provided
  · exact fun differs => absurd differs (not_differs_self _)

end upheld

/-- However the spec is edited between passes, the StatefulSet keeps the volumes it was
created with, and every pass that reads it upholds them. -/
theorem run_upholds_volumes {name namespace_ : String} {start : State}
    (absent : liveStatefulSet name namespace_ start = none) {steps : List Step}
    (tends : Along State.step (fun state step => step.Tends name namespace_ state) start steps) :
    (∀ object ∈ liveStatefulSet name namespace_ (run State.step start steps),
      ∃ origin, creation name namespace_ start steps = some origin ∧
        Provided origin object.statefulSet) ∧
    ∀ r ctx, (Step.pass r name ctx).Tends name namespace_ (run State.step start steps) →
      ∀ copy begun, Adopted ctx name (run State.step start steps) copy begun →
      ∀ set middle, exec (untilStatefulSet ctx copy) begun = (.ok set, middle) →
        Upheld r ctx copy
          ((creation name namespace_ start steps).getD copy.spec.storage.persistence)
          begun set middle := by
  have descends := run_descends absent tends
  constructor
  · intro object live
    cases created : creation name namespace_ start steps with
    | none =>
        rw [created] at descends
        rw [descends] at live
        cases live
    | some origin =>
        rw [created] at descends
        obtain ⟨other, isOther, descends⟩ := descends
        rw [isOther] at live
        obtain rfl := Option.some.inj live
        exact ⟨origin, rfl, descends.provided⟩
  · intro r ctx permitted copy begun adopted set middle ran
    obtain ⟨stored, copied, _, spec, _⟩ := adopted.base
    obtain ⟨inCluster, target⟩ := permitted.2.2 stored copied
    rw [← spec] at inCluster target
    have named := adopted.name
    subst named
    subst target
    have live : liveStatefulSet copy.name copy.spec.targetNamespace begun =
        liveStatefulSet copy.name copy.spec.targetNamespace (run State.step start steps) := by
      rw [liveStatefulSet, adopted.cluster]
      rfl
    cases created : creation copy.name copy.spec.targetNamespace start steps with
    | none =>
        rw [created] at descends
        exact upheld_of_absent r permitted.2.1 inCluster (live.trans descends) ran
    | some origin =>
        rw [created] at descends
        exact upheld_of_descends r permitted.2.1 inCluster (live ▸ descends) ran

/-- The shard `a` is created with a claim of this size for its data; a pass is made, and
another one after the claim was dropped from the spec. -/
def dropClaim (size : Quantity) : List Step := [
  .edit (.create "a" { plainSpec [] with
    storage := { type := .inClusterPostgreSQL, persistence := some ⟨none, size⟩ } }),
  .pass .bare "a" {},
  .edit (.editSpec "a" { plainSpec [] with storage := { type := .inClusterPostgreSQL } }),
  .pass .bare "a" {}]

/-- The statement for that run: the StatefulSet keeps its claim. -/
theorem run_upholds_volumes_dropClaim :
    ∃ object, liveStatefulSet "a" "target"
        (run State.step { cluster := .bare } (dropClaim ⟨1, "1"⟩)) = some object ∧
      Provided (some ⟨none, ⟨1, "1"⟩⟩) object.statefulSet := by
  have truthful : Schedule.Truthful {} := by
    intro failure fault
    cases fault
  have tends : Along State.step (fun state step => step.Tends "a" "target" state)
      { cluster := .bare } (dropClaim ⟨1, "1"⟩) :=
    ⟨trivial, ⟨rfl, truthful, by decide +kernel⟩, trivial,
      ⟨rfl, truthful, by decide +kernel⟩, trivial⟩
  have present : (liveStatefulSet "a" "target"
      (run State.step { cluster := .bare } (dropClaim ⟨1, "1"⟩))).isSome = true := by
    decide +kernel
  obtain ⟨object, live⟩ := Option.isSome_iff_exists.mp present
  obtain ⟨origin, created, provided⟩ := (run_upholds_volumes rfl tends).1 object live
  have isOrigin : creation "a" "target" { cluster := .bare } (dropClaim ⟨1, "1"⟩) =
      some (some ⟨none, ⟨1, "1"⟩⟩) := by
    decide +kernel
  obtain rfl := Option.some.inj (isOrigin.symm.trans created)
  exact ⟨object, live, provided⟩

end KubeShard.Apishard
