import KubeShard.Apishard.Syncs

/-!
# How fresh a copied readiness is

A pass rewrites the sync objects of its shard and then copies their Ready conditions,
under the generation it works on.  The copy says something about that generation only if
the condition was set for the spec the pass has just written.
-/

namespace KubeShard.Apishard

open Prog

/-! ## Copied conditions -/

/-- The shards persisted in a trace. -/
def persistedShards (events : List Event) : List APIShard :=
  events.filterMap fun
    | .persisted shard => some shard
    | _ => none

theorem persistedShards_append (first second : List Event) :
    persistedShards (first ++ second) = persistedShards first ++ persistedShards second :=
  List.filterMap_append

theorem persistedShards_of_unpersisted {events : List Event}
    (unpersisted : ∀ event ∈ events, event.unpersisted = true) : persistedShards events = [] := by
  simp only [persistedShards, List.filterMap_eq_nil_iff]
  intro event membership
  have allowed := unpersisted event membership
  cases event with
  | persisted shard => cases allowed
  | _ => rfl

/-- One of these shards had this UID and generation, and its sync object was synced. -/
def Backed (kind : SyncKind) (origins : List APIShard) (events : List Event) (uid : UID)
    (generation : Nat) : Prop :=
  ∃ origin ∈ origins, origin.uid = uid ∧ origin.generation = generation ∧
    .synced kind (kind.keyOf origin) (kind.specOf origin) ∈ events

instance (kind : SyncKind) (origins : List APIShard) (events : List Event) (uid : UID)
    (generation : Nat) : Decidable (Backed kind origins events uid generation) :=
  inferInstanceAs (Decidable (∃ origin ∈ origins, _ ∧ _ ∧ _))

/-- Where a status says that a sync object is ready, that is backed for the generation it
says it for. -/
def Backs (origins : List APIShard) (events : List Event) (uid : UID)
    (conditions : List (Condition ShardCondition)) : Prop :=
  ∀ kind condition, findStatusCondition conditions kind.condition = some condition →
    condition.status = .true → Backed kind origins events uid condition.observedGeneration

theorem Backs.mono {origins wider : List APIShard} {events longer : List Event} {uid : UID}
    {conditions : List (Condition ShardCondition)} (backs : Backs origins events uid conditions)
    (origins_subset : origins ⊆ wider) (events_subset : events ⊆ longer) :
    Backs wider longer uid conditions := by
  intro kind condition found isTrue
  obtain ⟨origin, membership, same, generation, synced⟩ := backs kind condition found isTrue
  exact ⟨origin, origins_subset membership, same, generation, events_subset synced⟩

/-- Only the conditions copied from sync objects matter. -/
theorem Backs.congr {origins : List APIShard} {events : List Event} {uid : UID}
    {conditions others : List (Condition ShardCondition)}
    (backs : Backs origins events uid conditions)
    (same : ∀ type : ShardCondition, type.mirrored = true →
      findStatusCondition others type = findStatusCondition conditions type) :
    Backs origins events uid others := by
  intro kind condition found
  rw [same kind.condition (by cases kind <;> rfl)] at found
  exact backs kind condition found

/-- A later version of the first shard does as well while name and spec are the same. -/
theorem Backs.replace {old new : APIShard} {origins : List APIShard} {events : List Event}
    {uid : UID} {conditions : List (Condition ShardCondition)}
    (backs : Backs (old :: origins) events uid conditions) (sameUid : new.uid = old.uid)
    (generation : new.generation = old.generation) (name : new.name = old.name)
    (spec : new.spec = old.spec) : Backs (new :: origins) events uid conditions := by
  intro kind condition found isTrue
  obtain ⟨origin, membership, originUid, originGeneration, synced⟩ :=
    backs kind condition found isTrue
  rcases List.mem_cons.mp membership with rfl | earlier
  · refine ⟨new, List.mem_cons_self, sameUid.trans originUid,
      generation.trans originGeneration, ?_⟩
    have key : kind.keyOf new = kind.keyOf origin := by
      cases kind <;> simp only [SyncKind.keyOf, SyncKind.nameOf, name, spec]
    have asked : kind.specOf new = kind.specOf origin := by
      cases kind <;> simp only [SyncKind.specOf, spec]
    rw [key, asked]
    exact synced
  · exact ⟨origin, List.mem_cons_of_mem _ earlier, originUid, originGeneration, synced⟩

/-- Wherever a status was persisted, what it says about sync objects was backed before, for
the persisted shard or one that was persisted earlier. -/
def Fresh (trace : List Event) : Prop :=
  ∀ before shard after, trace = before ++ .persisted shard :: after →
    Backs (shard :: persistedShards before) before shard.uid shard.status.conditions

/-- Persisted versions of one shard with one generation have one spec. -/
def Dated (shards : List APIShard) : Prop :=
  ∀ first ∈ shards, ∀ second ∈ shards, first.uid = second.uid →
    first.generation = second.generation → first.spec = second.spec

theorem Dated.concat {shards : List APIShard} (dated : Dated shards) {new : APIShard}
    (agrees : ∀ old ∈ shards, old.uid = new.uid → old.generation = new.generation →
      old.spec = new.spec) : Dated (shards ++ [new]) := by
  intro first firstMem second secondMem uid generation
  rcases List.mem_append.mp firstMem with firstOld | firstNew
  · rcases List.mem_append.mp secondMem with secondOld | secondNew
    · exact dated first firstOld second secondOld uid generation
    · cases List.mem_singleton.mp secondNew
      exact agrees first firstOld uid generation
  · cases List.mem_singleton.mp firstNew
    rcases List.mem_append.mp secondMem with secondOld | secondNew
    · exact (agrees second secondOld uid.symm generation.symm).symm
    · cases List.mem_singleton.mp secondNew
      rfl

theorem Fresh.concat {trace : List Event} (fresh : Fresh trace) {event : Event}
    (last : ∀ shard, event = .persisted shard →
      Backs (shard :: persistedShards trace) trace shard.uid shard.status.conditions) :
    Fresh (trace ++ [event]) := by
  intro before shard after split
  induction after using List.reverseRecOn with
  | nil =>
      obtain ⟨rfl, same⟩ := List.append_inj' split rfl
      exact last shard (List.singleton_inj.mp same)
  | append_singleton rest final _ =>
      rw [← List.cons_append, ← List.append_assoc] at split
      obtain ⟨shorter, _⟩ := List.append_inj' split rfl
      exact fresh before shard rest shorter

theorem Fresh.append {trace : List Event} (fresh : Fresh trace) {events : List Event}
    (unpersisted : ∀ event ∈ events, event.unpersisted = true) : Fresh (trace ++ events) := by
  induction events generalizing trace with
  | nil =>
      rw [List.append_nil]
      exact fresh
  | cons event rest ih =>
      have longer : Fresh (trace ++ [event]) := by
        apply fresh.concat
        intro shard isPersisted
        have allowed := unpersisted event List.mem_cons_self
        rw [isPersisted] at allowed
        cases allowed
      have all := ih longer fun later membership =>
        unpersisted later (List.mem_cons_of_mem _ membership)
      rwa [List.append_assoc] at all

/-! ## Between passes -/

/-- What holds of conditions copied from sync objects, between the steps of a run. -/
structure AllFresh (state : State) : Prop where
  wf : state.cluster.registry.Wf
  vouched : AllVouched state
  fresh : Fresh state.trace
  dated : Dated (persistedShards state.trace)
  stored : ∀ stored ∈ state.cluster.registry.shards.items,
    Backs (persistedShards state.trace) state.trace stored.uid stored.status.conditions
  given : ∀ old ∈ persistedShards state.trace, old.uid < state.cluster.registry.nextUID
  older : ∀ old ∈ persistedShards state.trace,
    ∀ stored ∈ state.cluster.registry.shards.items, stored.uid = old.uid → old.Before stored

theorem backs_empty (origins : List APIShard) (events : List Event) (uid : UID) :
    Backs origins events uid [] := by
  intro kind condition found
  cases found

/-- Steps that persist nothing. -/
theorem AllFresh.follows {before after : State} (fresh : AllFresh before)
    (follows : before.cluster.registry.Follows after.cluster.registry)
    (wf : after.cluster.registry.Wf) (vouched : AllVouched after)
    (logged : before.Logged Event.unpersisted after) : AllFresh after := by
  obtain ⟨events, appended, unpersisted⟩ := logged
  have same : persistedShards after.trace = persistedShards before.trace := by
    rw [appended, persistedShards_append, persistedShards_of_unpersisted unpersisted,
      List.append_nil]
  refine ⟨wf, vouched, appended ▸ fresh.fresh.append unpersisted, same ▸ fresh.dated, ?_, ?_, ?_⟩
  · intro stored membership
    rw [same]
    rcases follows.status membership with ⟨old, oldMem, uid, status⟩ | ⟨_, status⟩
    · rw [← uid, ← status, appended]
      exact (fresh.stored old oldMem).mono (List.Subset.refl _) (List.subset_append_left _ _)
    · rw [status]
      exact backs_empty _ _ _
  · rw [same]
    exact fun old membership => Nat.lt_of_lt_of_le (fresh.given old membership) follows.nextUID
  · rw [same]
    intro old membership stored storedMem uid
    rcases follows.stored stored storedMem with earlier | ⟨_, origin⟩
    · exact fresh.older old membership stored earlier uid
    · rcases origin with ⟨middle, middleMem, _, middleUid, _, later⟩ | ⟨new, _⟩
      · exact (fresh.older old membership middle middleMem (middleUid.trans uid)).trans later
      · rw [uid] at new
        exact absurd (fresh.given old membership) (Nat.not_lt.mpr new)

/-! ## In a pass -/

/-- What a pass on a copy of a shard keeps about conditions copied from sync objects. -/
structure Mirrors (ctx : Schedule) (copy : APIShard) (state : State) : Prop
    extends AllFresh state where
  current : Current copy state.resourceVersion state.cluster.registry
  settled : ∀ kind object, (state.cluster.syncs kind).find? (kind.keyOf copy) = some object →
    Settled ctx copy kind object
  own : Backs (copy :: persistedShards state.trace) state.trace copy.uid state.status.conditions

variable {ctx : Schedule} {copy : APIShard}

theorem Mirrors.attested {state : State} (mirrors : Mirrors ctx copy state) :
    Attested ctx copy state :=
  ⟨mirrors.vouched, mirrors.settled⟩

/-- A working step that keeps what is known about sync objects and the conditions copied
from them. -/
theorem Mirrors.working {before after : State} (mirrors : Mirrors ctx copy before)
    (working : Working ctx before after) (attested : Attested ctx copy after)
    (own : Backs (copy :: persistedShards before.trace) after.trace copy.uid
      after.status.conditions) : Mirrors ctx copy after := by
  have logged := working.logged.mono Event.unpersisted_of_aside
  have same : persistedShards after.trace = persistedShards before.trace := by
    obtain ⟨events, appended, unpersisted⟩ := logged
    rw [appended, persistedShards_append, persistedShards_of_unpersisted unpersisted,
      List.append_nil]
  refine ⟨mirrors.follows working.registry.follows (working.registry.wf mirrors.wf)
    attested.vouched logged, ?_, attested.settled, same ▸ own⟩
  rw [working.resourceVersion]
  exact mirrors.current.follows working.registry.follows

theorem Mirrors.beside {before after : State} (mirrors : Mirrors ctx copy before)
    (beside : Beside ctx before after) : Mirrors ctx copy after := by
  have grown := beside.logged.grows.subset
  exact mirrors.working beside.toWorking (mirrors.attested.follows beside.syncs grown)
    ((mirrors.own.mono (List.Subset.refl _) grown).congr beside.mirrored)

/-- What was persisted before is older than what is stored after a status write. -/
theorem AllFresh.older_persist {state : State} (fresh : AllFresh state) {stored : APIShard}
    (membership : stored ∈ state.cluster.registry.shards.items) {old : APIShard}
    (persisted : old ∈ persistedShards state.trace ++
      [state.cluster.registry.updated stored state.status]) :
    old.uid < state.cluster.registry.nextUID ∧
      ∀ other ∈ (state.persist stored).cluster.registry.shards.items, other.uid = old.uid →
        old.Before other := by
  have before : old.uid < state.cluster.registry.nextUID ∧
      ∀ shard ∈ state.cluster.registry.shards.items, shard.uid = old.uid → old.Before shard := by
    rcases List.mem_append.mp persisted with earlier | new
    · exact ⟨fresh.given old earlier, fresh.older old earlier⟩
    · rw [List.mem_singleton.mp new]
      refine ⟨fresh.wf.uid stored membership, ?_⟩
      intro shard shardMem uid
      rw [fresh.wf.distinct shard shardMem stored membership uid]
      exact .inr ⟨rfl, rfl⟩
  refine ⟨before.1, ?_⟩
  intro other otherMem uid
  rcases Store.mem_insert.mp otherMem with rfl | ⟨earlier, _⟩
  · exact before.2 stored membership uid
  · exact before.2 other earlier uid

/-- Writing the status of the copy. -/
theorem Mirrors.persist {state : State} (mirrors : Mirrors ctx copy state) {stored : APIShard}
    (membership : stored ∈ state.cluster.registry.shards.items) (name : stored.name = copy.name)
    (fresh : stored.resourceVersion = state.resourceVersion) :
    Mirrors ctx copy (state.persist stored) := by
  have agrees := mirrors.current.agrees stored membership name fresh
  have uid : stored.uid = copy.uid := by rw [agrees]
  have generation : stored.generation = copy.generation := by rw [agrees]
  have spec : stored.spec = copy.spec := by rw [agrees]
  generalize updating : state.cluster.registry.updated stored state.status = updated
  have shards : persistedShards (state.persist stored).trace =
      persistedShards state.trace ++ [updated] := by
    rw [← updating]
    exact persistedShards_append state.trace [_]
  have grown : state.trace ⊆ (state.persist stored).trace := List.subset_append_left _ _
  have widened : persistedShards state.trace ⊆ persistedShards state.trace ++ [updated] :=
    List.subset_append_left _ _
  have own : Backs (updated :: persistedShards state.trace) state.trace updated.uid
      updated.status.conditions := by
    rw [← updating, show (state.cluster.registry.updated stored state.status).uid = copy.uid
      from uid]
    exact mirrors.own.replace uid generation name spec
  refine ⟨⟨mirrors.wf.persist membership, mirrors.vouched.follows rfl grown, ?_, ?_, ?_, ?_, ?_⟩,
    mirrors.current.persist membership name fresh, mirrors.settled, ?_⟩
  · apply mirrors.toAllFresh.fresh.concat
    intro shard isPersisted
    cases isPersisted
    rw [updating]
    exact own
  · rw [shards]
    apply mirrors.dated.concat
    intro old oldMem oldUid oldGeneration
    rw [← updating] at oldUid oldGeneration ⊢
    rcases mirrors.older old oldMem stored membership oldUid.symm with less | ⟨_, same⟩
    · exact absurd oldGeneration (Nat.ne_of_lt less)
    · exact same
  · intro other otherMem
    rw [shards]
    rcases Store.mem_insert.mp otherMem with rfl | ⟨earlier, _⟩
    · rw [updating]
      apply own.mono _ grown
      exact List.cons_subset.mpr ⟨List.mem_append_right _ List.mem_cons_self, widened⟩
    · exact (mirrors.stored other earlier).mono widened grown
  · rw [shards, ← updating]
    exact fun old oldMem => (mirrors.older_persist membership oldMem).1
  · rw [shards, ← updating]
    exact fun old oldMem => (mirrors.older_persist membership oldMem).2
  · rw [shards]
    apply mirrors.own.mono _ grown
    exact List.cons_subset.mpr
      ⟨List.mem_cons_self, fun shard old => List.mem_cons_of_mem _ (widened old)⟩

theorem updateStatus_mirrors (request : Call) (late : request.late = true) :
    Respects (.keeps (Mirrors ctx copy)) (updateStatus ctx request copy) := by
  intro state mirrors
  have edited : Mirrors ctx copy (state.edited ctx request) :=
    mirrors.beside ⟨(Calm.of_edited state late).working, rfl, fun _ _ => rfl⟩
  rcases updateStatus_cases ctx copy request state with
    ⟨failure, ran⟩ | ⟨stored, membership, name, fresh, ran⟩
  · rw [ran]
    exact edited
  · rw [ran]
    exact edited.persist membership name fresh

theorem Mirrors.syncing {before after : State} (mirrors : Mirrors ctx copy before)
    (syncing : Syncing ctx before after) (attested : Attested ctx copy after) :
    Mirrors ctx copy after := by
  apply mirrors.working syncing.working attested
  rw [syncing.status]
  exact mirrors.own.mono (List.Subset.refl _) syncing.working.logged.grows.subset

theorem createOrUpdate_mirrors (kind : SyncKind) :
    Respects (.keeps (Mirrors ctx copy)) (createOrUpdate ctx copy kind) :=
  fun state mirrors => mirrors.syncing (createOrUpdate_syncing ctx copy kind state)
    (createOrUpdate_attested kind state mirrors.attested)

/-- The condition of the sync object is copied under the generation of the shard. -/
theorem Mirrors.copied {state : State} (mirrors : Mirrors ctx copy state) {kind : SyncKind}
    {object : SyncObject kind.Spec}
    (found : (state.cluster.syncs kind).find? (kind.keyOf copy) = some object)
    {ready : Condition SyncCondition}
    (isReady : findStatusCondition object.conditions .ready = some ready) :
    Mirrors ctx copy
      (exec (setCondition copy kind.condition ready.status ready.reason ready.message) state).2 := by
  have calm : Aloof ctx state _ := setCondition_aloof copy ready.status ready.reason
    ready.message kind.condition state
  apply mirrors.working calm.working (mirrors.attested.follows rfl (List.Subset.refl _))
  intro other condition foundCondition isTrue
  by_cases same : other = kind
  · subst same
    obtain ⟨time, written⟩ := findStatusCondition_set_self state.cluster.clock
      ⟨other.condition, ready.status, ready.reason, ready.message, copy.generation⟩
      state.status.conditions
    cases written.symm.trans foundCondition
    obtain ⟨membership, key⟩ := Store.find?_eq_some.mp found
    have vouched := mirrors.vouched other object membership
      (SyncObject.isReady_of_find isReady isTrue)
    rcases mirrors.settled other object found with asked | ⟨unready, _⟩
    · rw [key, asked] at vouched
      exact ⟨copy, List.mem_cons_self, rfl, rfl, vouched⟩
    · rw [SyncObject.isReady_of_find isReady isTrue] at unready
      contradiction
  · have different : other.condition ≠ kind.condition := by
      cases other <;> cases kind <;> first | contradiction | decide
    rw [setCondition_find copy _ _ _ state different] at foundCondition
    exact mirrors.own other condition foundCondition isTrue

theorem aggregateReady_mirrors (kind : SyncKind) :
    Respects (.keeps (Mirrors ctx copy)) (aggregateReady ctx copy kind) := by
  intro state mirrors
  have read := mirrors.syncing (readSync_syncing ctx copy kind state)
    (readSync_attested kind state mirrors.attested)
  refine exec_bind_holds read ?_
  intro object after ran
  rw [ran] at read
  split
  · next ready isReady => exact read.copied (readSync_ok ran) isReady
  · exact read

theorem reconcileCopy_mirrors (r : Reconciler) :
    Respects (.keeps (Mirrors ctx copy)) (reconcileCopy r ctx copy) := by
  have syncs : Respects (.keeps (Mirrors ctx copy)) (reconcileSubCRs ctx copy) :=
    reconcileSubCRs_respects ctx copy
      (fun _ _ still mirrors => mirrors.beside (.of_quiet still.toQuiet))
      createOrUpdate_mirrors aggregateReady_mirrors
  exact reconcileCopy_keeps_syncs r ctx copy (fun _ _ beside mirrors => mirrors.beside beside)
    syncs updateStatus_mirrors

/-! ## Runs -/

/-- A run takes a step, or a sync controller ends a pass. -/
inductive Turn where
  | step (step : Step)
  | sync (pass : SyncPass)

/-- The effect of a turn. -/
def State.turn (state : State) : Turn → State
  | .step step => state.step step
  | .sync pass => state.sync pass

/-- The sync objects of a kind that others leave. -/
def Surroundings.syncs (surroundings : Surroundings) :
    (kind : SyncKind) → Store (SyncObject.key (σ := kind.Spec))
  | .namespaceSync => surroundings.namespaceSyncs
  | .webhookSync => surroundings.webhookSyncs

/-- Others may delete sync objects; only the controllers write them. -/
def Turn.Deletes (state : State) : Turn → Prop
  | .step (.surround surroundings) =>
      ∀ kind, ∀ object ∈ (surroundings.syncs kind).items, object ∈ (state.cluster.syncs kind).items
  | _ => True

/-- A pass finds the sync objects of its shard with the spec it is going to write, or not
ready and not becoming so while it runs. -/
def Turn.Settles (state : State) : Turn → Prop
  | .step (.pass _ name ctx) =>
      ∀ copy ∈ state.cluster.registry.copy ctx name, ∀ kind,
        ∀ object ∈ (state.cluster.syncs kind).find? (kind.keyOf copy), Settled ctx copy kind object
  | _ => True

theorem Cluster.within_syncs (cluster : Cluster) (surroundings : Surroundings) (kind : SyncKind) :
    (cluster.within surroundings).syncs kind = surroundings.syncs kind := by
  cases kind <;> rfl

theorem reconcileDelete_syncs (ctx : Schedule) {shard : APIShard}
    (finalized : finalizerName ∈ shard.finalizers) (state : State) :
    (exec (reconcileDelete ctx shard) state).2.cluster.syncs = state.cluster.syncs := by
  have deregistered := (Aggregation.deregister_registering (List.Subset.refl _) 0 state :
    Aggregation.Registering ctx shard [] shard.status.registeredAPIServices state _).cluster
  have syncs : (exec (deregister ctx shard 0 shard.status.registeredAPIServices)
      state).2.cluster.syncs = state.cluster.syncs := by
    rw [deregistered]
    rfl
  rcases reconcileDelete_cases ctx finalized state with ⟨failure, _, ran⟩ | ⟨_, ran⟩
  · rw [ran]
    exact syncs
  · rw [ran, ← syncs]
    generalize (exec (deregister ctx shard 0 shard.status.registeredAPIServices) state).2 = middle
    rcases removeFinalizer_cases ctx shard middle with
      ⟨failure, ran⟩ | ⟨after, ran, _, _, same⟩
    · rw [ran]
      rfl
    · rw [ran, same]
      rfl

variable {r : Reconciler} {name : String}

/-- A pass begins with what is known of the sync objects of its shard. -/
theorem AllFresh.adopted {state start : State} (fresh : AllFresh state)
    (settles : (Turn.step (.pass r name ctx)).Settles state)
    (adopted : Adopted ctx name state copy start) : Mirrors ctx copy start := by
  have syncs : start.cluster.syncs = state.cluster.syncs := by
    rw [adopted.cluster]
    rfl
  have begun : AllFresh start := by
    apply fresh.follows adopted.follows (adopted.wf fresh.wf) _ (.of_eq adopted.trace)
    exact fresh.vouched.follows syncs (by rw [adopted.trace]; exact List.Subset.refl _)
  refine ⟨begun, adopted.current fresh.wf, ?_, ?_⟩
  · obtain ⟨stored, copied, _, spec, _⟩ := adopted.base
    have named : copy.name = stored.name := adopted.name.trans (Registry.copy_name copied).symm
    intro kind object found
    have key : kind.keyOf copy = kind.keyOf stored := by
      cases kind <;> simp only [SyncKind.keyOf, SyncKind.nameOf, named, spec]
    have asked : kind.specOf copy = kind.specOf stored := by
      cases kind <;> simp only [SyncKind.specOf, spec]
    rw [syncs, key] at found
    rw [Settled, key, asked]
    exact settles stored copied kind object found
  · rw [adopted.status]
    apply (begun.stored copy adopted.stored).mono _ (List.Subset.refl _)
    exact fun shard membership => List.mem_cons_of_mem _ membership

theorem AllFresh.pass {state : State} (fresh : AllFresh state)
    (settles : (Turn.step (.pass r name ctx)).Settles state) :
    AllFresh (exec (reconcile r ctx name) state).2 := by
  have wf := reconcile_wf r ctx name fresh.wf
  rcases reconcile_cases r ctx name state with
    ⟨answer, after, ran, ended, _⟩ | ⟨shard, _, _, finalized, _, ran⟩ |
    ⟨copy, start, adopted, ran⟩
  · rw [ran] at wf ⊢
    have same := ended.same
    apply fresh.follows ended.follows wf _ (.of_eq (by rw [same]))
    apply fresh.vouched.follows _ (by rw [same]; exact List.Subset.refl _)
    rw [same]
    rfl
  · rw [ran] at wf ⊢
    obtain ⟨follows, _, logged⟩ :=
      reconcileDelete_effect ctx finalized (state.edited ctx .getShard)
    have edited : state.cluster.registry.Follows (state.edited ctx .getShard).cluster.registry :=
      Registry.follows_edits _ _
    have syncs := reconcileDelete_syncs ctx finalized (state.edited ctx .getShard)
    exact fresh.follows (edited.trans follows) wf
      (fresh.vouched.follows syncs logged.grows.subset) logged
  · rw [ran]
    exact (reconcileCopy_mirrors r start (fresh.adopted settles adopted)).toAllFresh

theorem AllFresh.turn {state : State} (fresh : AllFresh state) {turn : Turn}
    (deletes : turn.Deletes state) (settles : turn.Settles state) :
    AllFresh (state.turn turn) := by
  cases turn with
  | sync pass =>
      have syncing := State.sync_syncing {} state pass
      exact fresh.follows syncing.registry.follows (syncing.registry.wf fresh.wf)
        (fresh.vouched.sync pass) (syncing.working.logged.mono Event.unpersisted_of_aside)
  | step step =>
      cases step with
      | edit edit =>
          exact fresh.follows (Registry.follows_edit _ _) (fresh.wf.edit edit)
            (fresh.vouched.follows rfl (List.Subset.refl _)) (.of_eq rfl)
      | surround surroundings =>
          have vouched : AllVouched (state.turn (.step (.surround surroundings))) := by
            intro kind object membership
            rw [State.turn, State.step, Cluster.within_syncs] at membership
            exact fresh.vouched kind object (deletes kind object membership)
          exact fresh.follows (.refl _) fresh.wf vouched (.of_eq rfl)
      | createCRD crd =>
          have wf := step_wf fresh.wf (.createCRD crd)
          simp only [State.turn, State.step, Cluster.createCRD] at wf ⊢
          split
          · exact fresh
          · next absent =>
              rw [if_neg absent] at wf
              exact fresh.follows ⟨Nat.le_succ _, Nat.le_refl _, fun _ membership =>
                .inl membership⟩
                wf (fresh.vouched.follows rfl (List.Subset.refl _)) (.of_eq rfl)
      | deleteCRD name =>
          exact fresh.follows (.refl _) fresh.wf
            (fresh.vouched.follows rfl (List.Subset.refl _)) (.of_eq rfl)
      | pass r name ctx => exact fresh.pass settles

theorem Initial.allFresh {start : State} (initial : Initial start)
    (unready : ∀ kind, ∀ object ∈ (start.cluster.syncs kind).items, object.isReady = false) :
    AllFresh start := by
  have none : persistedShards start.trace = [] := by
    rw [initial.trace]
    rfl
  refine ⟨initial.wf, ?_, ?_, ?_, ?_, ?_, ?_⟩
  · intro kind object membership ready
    rw [unready kind object membership] at ready
    contradiction
  · intro before shard after split
    rw [initial.trace] at split
    exact absurd split.symm (List.append_ne_nil_of_right_ne_nil _ (List.cons_ne_nil _ _))
  · rw [none]
    exact fun _ membership => absurd membership List.not_mem_nil
  · intro stored membership
    rw [initial.status stored membership]
    exact backs_empty _ _ _
  · rw [none]
    exact fun _ membership => absurd membership List.not_mem_nil
  · rw [none]
    exact fun _ membership => absurd membership List.not_mem_nil

/-- In every run whose passes find the sync objects of their shard settled, every persisted
readiness of a sync object is fresh, and a generation says what the spec is. -/
theorem run_ready_fresh {start : State} (initial : Initial start)
    (unready : ∀ kind, ∀ object ∈ (start.cluster.syncs kind).items, object.isReady = false)
    {turns : List Turn}
    (along : Along State.turn (fun state turn => turn.Deletes state ∧ turn.Settles state)
      start turns) :
    let trace := (run State.turn start turns).trace
    Fresh trace ∧ Dated (persistedShards trace) := by
  have fresh : AllFresh (run State.turn start turns) :=
    along.invariant (fun _ _ condition fresh => fresh.turn condition.1 condition.2)
      (initial.allFresh unready)
  exact ⟨fresh.fresh, fresh.dated⟩

/-- The surroundings of a shard whose secondary accepts the operator's certificate. -/
def Surroundings.accepting (name : String) : Surroundings :=
  { Surroundings.serving name with
    objects := (Surroundings.serving name).objects.insert
      { key := ⟨.secret, "target", name ++ "-admin-client-cert"⟩
        data := [("tls.crt", "cert"), ("tls.key", "key")] } }

/-- A shard is served, and its webhooks are synced. -/
def syncedRun : List Turn := [
  .step (.edit (.create "a" (plainSpec [⟨"g", ["v1"]⟩]))),
  .step (.surround (.accepting "a")),
  .step (.pass .bare "a" {}),
  .sync ⟨.webhookSync, ("target", "a-webhook-sync"), .complete "Synced"⟩]

/-- The shard asks for another group, and a pass runs before the next one on its webhooks. -/
def staleRun : List Turn := syncedRun ++ [
  .step (.edit (.editSpec "a" (plainSpec [⟨"h", ["v1"]⟩]))),
  .step (.pass .bare "a" {})]

/-- A pass on sync objects that have the spec their shard asks for. -/
theorem settles_of_asked {r : Reconciler} {name : String} {ctx : Schedule} {state : State}
    (asked : ∀ copy ∈ state.cluster.registry.copy ctx name,
      ∀ kind ∈ [SyncKind.namespaceSync, .webhookSync],
        ∀ object ∈ (state.cluster.syncs kind).find? (kind.keyOf copy),
          object.spec = kind.specOf copy) : (Turn.step (.pass r name ctx)).Settles state := by
  intro copy copied kind object found
  exact .inl (asked copy copied kind (by cases kind <;> simp) object found)

theorem run_ready_fresh_synced :
    let trace := (run State.turn { cluster := .bare }
      (syncedRun ++ [.step (.pass .bare "a" {})])).trace
    (∃ shard ∈ persistedShards trace, ∃ condition ∈ shard.status.conditions,
      condition.type = .webhookSyncReady ∧ condition.status = .true) ∧ Fresh trace := by
  refine ⟨by decide +kernel, (run_ready_fresh initial_bare ?_ ?_).1⟩
  · intro kind object membership
    cases kind <;> cases membership
  · refine ⟨⟨trivial, trivial⟩, ⟨?_, trivial⟩, ⟨trivial, ?_⟩, ⟨trivial, trivial⟩, ⟨trivial, ?_⟩,
      trivial⟩
    · intro kind object membership
      cases kind <;> cases membership
    · exact settles_of_asked (by decide +kernel)
    · exact settles_of_asked (by decide +kernel)

theorem Fresh.backs {trace : List Event} (fresh : Fresh trace) {shard : APIShard}
    (membership : shard ∈ persistedShards trace) :
    Backs (persistedShards trace) trace shard.uid shard.status.conditions := by
  obtain ⟨event, eventMem, isShard⟩ := List.mem_filterMap.mp membership
  cases event with
  | persisted persisted =>
      cases isShard
      obtain ⟨before, after, split⟩ := List.append_of_mem eventMem
      apply (fresh before shard after split).mono
      · rw [split, persistedShards_append]
        exact List.cons_subset.mpr ⟨List.mem_append_right _ List.mem_cons_self,
          List.subset_append_left _ _⟩
      · rw [split]
        exact List.subset_append_left _ _
  | _ => cases isShard

/-- The pass after the edit reports the new group's webhooks as synced. -/
theorem edit_leaves_stale_ready : ¬Fresh (run State.turn { cluster := .bare } staleRun).trace := by
  intro fresh
  have stale : ∃ shard ∈ persistedShards (run State.turn { cluster := .bare } staleRun).trace,
      ∃ condition ∈ shard.status.conditions,
        findStatusCondition shard.status.conditions SyncKind.webhookSync.condition =
            some condition ∧
          condition.status = .true ∧
          ¬Backed .webhookSync
            (persistedShards (run State.turn { cluster := .bare } staleRun).trace)
            (run State.turn { cluster := .bare } staleRun).trace shard.uid
            condition.observedGeneration := by
    decide +kernel
  obtain ⟨shard, membership, condition, _, found, isTrue, unbacked⟩ := stale
  exact unbacked (fresh.backs membership .webhookSync condition found isTrue)

end KubeShard.Apishard
