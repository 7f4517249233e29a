import KubeShard.Apishard.Live
import KubeShard.Program.Run

/-!
# Runs of the APIShard reconciler

Between passes users edit APIShards, CRDs come and go, and the rest of the
cluster changes as it likes.  A pass either ends at once, or works on a shard that
is being deleted, or works on a copy of a live one.
-/

namespace KubeShard.Apishard

open Prog Aggregation

/-! ## Steps -/

/-- What others decide: the objects of the cluster, the capabilities it has, and
whether APIServices are available. -/
structure Surroundings where
  objects : Store Object.key
  namespaceSyncs : Store (SyncObject.key (σ := Namespacesync.NamespaceSyncSpec))
  webhookSyncs : Store (SyncObject.key (σ := List String))
  servesServiceMonitor : Bool
  servesSCC : Bool
  servesTrafficDistribution : Bool
  clock : Nat
  available : String → Option (ConditionStatus × String)

/-- The cluster in new surroundings. -/
def Cluster.within (cluster : Cluster) (surroundings : Surroundings) : Cluster :=
  { cluster with
    apiServices :=
      ⟨cluster.apiServices.items.map fun service =>
          { service with available := surroundings.available service.name },
        by
          rw [List.map_map]
          exact cluster.apiServices.nodup⟩
    objects := surroundings.objects
    namespaceSyncs := surroundings.namespaceSyncs
    webhookSyncs := surroundings.webhookSyncs
    servesServiceMonitor := surroundings.servesServiceMonitor
    servesSCC := surroundings.servesSCC
    servesTrafficDistribution := surroundings.servesTrafficDistribution
    clock := surroundings.clock }

/-- A CRD is created under a fresh UID, unless the name is taken. -/
def Cluster.createCRD (cluster : Cluster) (crd : CRD) : Cluster :=
  if crd.name ∈ cluster.crds.keys then cluster
  else
    { cluster with
      crds := cluster.crds.insert { crd with uid := cluster.registry.nextUID }
      registry.nextUID := cluster.registry.nextUID + 1 }

/-- The steps of a run. -/
inductive Step where
  | edit (edit : ShardEdit)
  | surround (surroundings : Surroundings)
  | createCRD (crd : CRD)
  | deleteCRD (name : String)
  | pass (r : Reconciler) (name : String) (ctx : Schedule)

/-- The effect of a step. -/
def State.step (state : State) : Step → State
  | .edit edit => { state with cluster.registry := state.cluster.registry.edit edit }
  | .surround surroundings => { state with cluster := state.cluster.within surroundings }
  | .createCRD crd => { state with cluster := state.cluster.createCRD crd }
  | .deleteCRD name => { state with cluster.crds := state.cluster.crds.erase name }
  | .pass r name ctx => (exec (reconcile r ctx name) state).2

/-- A state before the first pass: no status was ever written, and no APIService
has a shard as its controller. -/
structure Initial (state : State) : Prop where
  wf : state.cluster.registry.Wf
  status : ∀ stored ∈ state.cluster.registry.shards.items, stored.status = {}
  services : ∀ service ∈ state.cluster.apiServices.items, ∀ uid ∈ service.controllers,
    uid < state.cluster.registry.nextUID ∧
      ∀ stored ∈ state.cluster.registry.shards.items, stored.uid ≠ uid
  trace : state.trace = []

/-! ## How a pass begins -/

/-- The live shard a pass makes its copy of, given the edits around its first two
calls. -/
def Registry.copy (registry : Registry) (ctx : Schedule) (name : String) : Option APIShard :=
  let read := registry.edits (ctx.edits .getShard)
  match read.shards.find? name with
  | none => none
  | some shard =>
      if shard.deleting then none
      else if finalizerName ∈ shard.finalizers then some shard
      else (read.edits (ctx.edits .addFinalizer)).shards.find? name

theorem Registry.copy_name {registry : Registry} {ctx : Schedule} {name : String}
    {copy : APIShard} (copied : registry.copy ctx name = some copy) : copy.name = name := by
  unfold Registry.copy at copied
  dsimp only at copied
  split at copied
  · cases copied
  · next shard found =>
      split at copied
      · cases copied
      · split at copied
        · cases copied
          exact (Store.find?_eq_some.mp found).2
        · exact (Store.find?_eq_some.mp copied).2

/-- How the work on a copy of a live shard begins. -/
structure Adopted (ctx : Schedule) (name : String) (state : State) (copy : APIShard)
    (start : State) : Prop where
  base : ∃ stored, state.cluster.registry.copy ctx name = some stored ∧
    copy.uid = stored.uid ∧ copy.spec = stored.spec ∧ copy.status = stored.status
  follows : state.cluster.registry.Follows start.cluster.registry
  wf : state.cluster.registry.Wf → start.cluster.registry.Wf
  stored : copy ∈ start.cluster.registry.shards.items
  name : copy.name = name
  cluster : start.cluster = { state.cluster with registry := start.cluster.registry }
  status : start.status = copy.status
  resourceVersion : start.resourceVersion = copy.resourceVersion
  tracked : start.tracked = []
  trace : start.trace = state.trace

theorem Adopted.current {ctx : Schedule} {name : String} {state start : State} {copy : APIShard}
    (adopted : Adopted ctx name state copy start) (wf : state.cluster.registry.Wf) :
    Current copy start.resourceVersion start.cluster.registry where
  given := adopted.resourceVersion ▸ (adopted.wf wf).revision copy adopted.stored
  agrees := by
    intro stored membership sameName _
    rw [Store.eq_of_key_eq membership adopted.stored sameName, adopted.resourceVersion]

/-- A pass that ends before it has anything to do. -/
structure Ended (state after : State) : Prop where
  follows : state.cluster.registry.Follows after.cluster.registry
  wf : state.cluster.registry.Wf → after.cluster.registry.Wf
  same : after = { state with cluster.registry := after.cluster.registry }

theorem ended_edited (state : State) (ctx : Schedule) (request : Call) :
    Ended state (state.edited ctx request) :=
  ⟨Registry.follows_edits _ _, fun wf => wf.edits _, rfl⟩

theorem Ended.trans {first second third : State} (left : Ended first second)
    (right : Ended second third) : Ended first third :=
  ⟨left.follows.trans right.follows, right.wf ∘ left.wf, by rw [right.same, left.same]⟩

/-- The patch that adds the finalizer fails, or its answer becomes the copy. -/
theorem addFinalizer_cases (ctx : Schedule) (shard : APIShard) (state : State) :
    (∃ failure, exec (addFinalizer ctx shard) state =
      (.error failure, state.edited ctx .addFinalizer)) ∨
    (∃ stored copy, (state.edited ctx .addFinalizer).cluster.registry.shards.find? shard.name =
        some stored ∧
      copy = { stored with
        finalizers := shard.finalizers ++ [finalizerName]
        resourceVersion := (state.edited ctx .addFinalizer).cluster.registry.nextRevision } ∧
      exec (addFinalizer ctx shard) state = (.ok copy, { state with
        cluster.registry := (state.edited ctx .addFinalizer).cluster.registry.write copy })) := by
  cases faults : ctx.faults .addFinalizer with
  | some failure => exact .inl ⟨failure, by rw [addFinalizer, exec_callAPI_some faults]⟩
  | none =>
      rw [addFinalizer, exec_callAPI_none faults]
      simp only [exec_bind, exec_get]
      cases found : (state.edited ctx .addFinalizer).cluster.registry.shards.find? shard.name with
      | none => exact .inl ⟨_, rfl⟩
      | some stored =>
          dsimp only
          split
          · exact .inl ⟨_, rfl⟩
          · exact .inr ⟨stored, _, rfl, rfl, rfl⟩

/-- The finalizer stays and nothing changes, or it goes and that is logged. -/
theorem removeFinalizer_cases (ctx : Schedule) (shard : APIShard) (state : State) :
    (∃ failure, exec (removeFinalizer ctx shard) state =
      (.error failure, state.edited ctx .removeFinalizer)) ∨
    (∃ after, exec (removeFinalizer ctx shard) state = (.ok (), after) ∧
      state.cluster.registry.Follows after.cluster.registry ∧
      (state.cluster.registry.Wf → after.cluster.registry.Wf) ∧
      after = { state with
        cluster.registry := after.cluster.registry
        trace := state.trace ++
          [.removedFinalizer shard.uid (state.cluster.registered shard.uid)] }) := by
  cases faults : ctx.faults .removeFinalizer with
  | some failure => exact .inl ⟨failure, by rw [removeFinalizer, exec_callAPI_some faults]⟩
  | none =>
      rw [removeFinalizer, exec_callAPI_none faults]
      simp only [exec_bind, exec_get]
      have edited := Registry.follows_edits state.cluster.registry (ctx.edits .removeFinalizer)
      have wf (wf : state.cluster.registry.Wf) := wf.edits (ctx.edits .removeFinalizer)
      cases found : (state.edited ctx .removeFinalizer).cluster.registry.shards.find?
          shard.name with
      | none => exact .inl ⟨_, rfl⟩
      | some stored =>
          obtain ⟨membership, _⟩ := Store.find?_eq_some.mp found
          dsimp only
          split
          · exact .inl ⟨_, rfl⟩
          · refine .inr ⟨_, rfl, ?_, ?_, rfl⟩
            · split
              · exact edited.trans (.erase _ _)
              · exact edited.trans (.write membership rfl rfl rfl (.inr ⟨rfl, rfl⟩))
            · intro before
              split
              · exact (wf before).erase _
              · exact (wf before).write membership rfl rfl

/-- The deletion branch deregisters, and goes on to the finalizer if that returned. -/
theorem reconcileDelete_cases (ctx : Schedule) {shard : APIShard}
    (finalized : finalizerName ∈ shard.finalizers) (state : State) :
    let deregistered := exec (deregister ctx shard 0 shard.status.registeredAPIServices) state
    (∃ failure, deregistered.1 = .error failure ∧
      exec (reconcileDelete ctx shard) state = (.error failure, deregistered.2)) ∨
    (deregistered.1 = .ok () ∧
      exec (reconcileDelete ctx shard) state =
        exec (removeFinalizer ctx shard) deregistered.2) := by
  simp only [reconcileDelete, finalized, if_true, exec_bind]
  rcases exec (deregister ctx shard 0 shard.status.registeredAPIServices) state with
    ⟨answer, middle⟩
  cases answer with
  | error failure => exact .inl ⟨failure, rfl, rfl⟩
  | ok value => exact .inr ⟨rfl, rfl⟩

/-- Events that persist no status. -/
def Event.unpersisted : Event → Bool
  | .persisted _ => false
  | _ => true

theorem Event.unpersisted_of_aside (event : Event) (aside : event.aside = true) :
    event.unpersisted = true := by
  cases event <;> first | rfl | contradiction

/-- Deleting a shard persists no status. -/
theorem reconcileDelete_effect (ctx : Schedule) {shard : APIShard}
    (finalized : finalizerName ∈ shard.finalizers) (state : State) :
    let after := (exec (reconcileDelete ctx shard) state).2
    state.cluster.registry.Follows after.cluster.registry ∧
      (state.cluster.registry.Wf → after.cluster.registry.Wf) ∧
      state.Logged Event.unpersisted after := by
  have deregistered := (deregister_registering (List.Subset.refl _) 0 state :
    Registering ctx shard [] shard.status.registeredAPIServices state _).working
  have logged := deregistered.logged.mono Event.unpersisted_of_aside
  have registry := deregistered.registry
  rcases reconcileDelete_cases ctx finalized state with ⟨failure, _, ran⟩ | ⟨_, ran⟩
  · rw [ran]
    exact ⟨registry.follows, registry.wf, logged⟩
  · rw [ran]
    generalize (exec (deregister ctx shard 0 shard.status.registeredAPIServices) state).2 = middle
      at registry logged ⊢
    rcases removeFinalizer_cases ctx shard middle with
      ⟨failure, ran⟩ | ⟨after, ran, removed, wf, same⟩
    · rw [ran]
      exact ⟨registry.follows.trans (Registry.follows_edits _ _),
        fun before => (registry.wf before).edits _, logged.trans (.of_eq rfl)⟩
    · rw [ran]
      have appended : after.trace = middle.trace ++
          [.removedFinalizer shard.uid (middle.cluster.registered shard.uid)] := by
        rw [same]
      exact ⟨registry.follows.trans removed, wf ∘ registry.wf,
        logged.trans (.of_one appended rfl)⟩

/-- The shard is read as it is stored, or the read fails. -/
theorem getShard_cases (ctx : Schedule) (name : String) (state : State) :
    (∃ failure, exec (getShard ctx name) state = (.error failure, state.edited ctx .getShard)) ∨
    (∃ shard, (state.edited ctx .getShard).cluster.registry.shards.find? name = some shard ∧
      exec (getShard ctx name) state = (.ok shard, state.edited ctx .getShard)) := by
  cases faults : ctx.faults .getShard with
  | some failure => exact .inl ⟨failure, by rw [getShard, exec_callAPI_some faults]⟩
  | none =>
      rw [getShard, exec_callAPI_none faults]
      simp only [exec_bind, exec_get]
      cases found : (state.edited ctx .getShard).cluster.registry.shards.find? name with
      | none => exact .inl ⟨_, rfl⟩
      | some shard => exact .inr ⟨shard, rfl, rfl⟩

variable (r : Reconciler) (ctx : Schedule) (name : String) (state : State)

/-- The start of a pass on a shard that is not being deleted. -/
theorem reconcileLive_cases {shard : APIShard}
    (found : (state.edited ctx .getShard).cluster.registry.shards.find? name = some shard)
    (live : shard.deleting = false) :
    (∃ failure after, exec (reconcileLive r ctx shard) (state.edited ctx .getShard) =
      (.error failure, after) ∧ Ended state after) ∨
    (∃ copy start, Adopted ctx name state copy start ∧
      exec (reconcileLive r ctx shard) (state.edited ctx .getShard) =
        exec (reconcileCopy r ctx copy) start) := by
  obtain ⟨stored, sameName⟩ := Store.find?_eq_some.mp found
  have foundRead : (state.cluster.registry.edits (ctx.edits .getShard)).shards.find? name =
    some shard := found
  by_cases finalized : finalizerName ∈ shard.finalizers
  · right
    refine ⟨shard, _, ?_, by
      simp only [reconcileLive, ensureFinalizer, finalized, if_true, pure_bind, adopt, exec_bind,
        exec_modify]; rfl⟩
    have copied : state.cluster.registry.copy ctx name = some shard := by
      simp [Registry.copy, foundRead, live, finalized]
    exact ⟨⟨shard, copied, rfl, rfl, rfl⟩, Registry.follows_edits _ _, fun wf => wf.edits _,
      stored, sameName, rfl, rfl, rfl, rfl, rfl⟩
  · simp only [reconcileLive, ensureFinalizer, finalized, if_false, exec_bind]
    rcases addFinalizer_cases ctx shard (state.edited ctx .getShard) with
      ⟨failure, ran⟩ | ⟨old, copy, foundOld, rfl, ran⟩
    · left
      rw [ran]
      exact ⟨failure, _, rfl, (ended_edited state ctx _).trans (ended_edited _ ctx _)⟩
    · right
      rw [ran]
      obtain ⟨oldStored, oldName⟩ := Store.find?_eq_some.mp foundOld
      have copied : state.cluster.registry.copy ctx name = some old := by
        rw [sameName] at foundOld
        simp only [Registry.copy, foundRead, live, finalized, if_false, Bool.false_eq_true]
        exact foundOld
      have ended := (ended_edited state ctx .getShard).trans
        (ended_edited (state.edited ctx .getShard) ctx .addFinalizer)
      refine ⟨_, _, ?_, rfl⟩
      refine ⟨⟨old, copied, rfl, rfl, rfl⟩, ?_, ?_, ?_, ?_, rfl, rfl, rfl, rfl, rfl⟩
      · exact ended.follows.trans (.write oldStored rfl rfl rfl (.inr ⟨rfl, rfl⟩))
      · exact fun wf => (ended.wf wf).write oldStored rfl rfl
      · exact Store.mem_insert.mpr (.inl rfl)
      · exact oldName.trans sameName

/-- What a pass does first. -/
theorem reconcile_cases :
    (∃ answer after, exec (reconcile r ctx name) state = (answer, after) ∧ Ended state after ∧
      ∀ result, answer = .ok result → result = {}) ∨
    (∃ shard answer, (state.edited ctx .getShard).cluster.registry.shards.find? name = some shard ∧
      finalizerName ∈ shard.finalizers ∧ (∀ result, answer = .ok result → result = {}) ∧
      exec (reconcile r ctx name) state =
        (answer, (exec (reconcileDelete ctx shard) (state.edited ctx .getShard)).2)) ∨
    (∃ copy start, Adopted ctx name state copy start ∧
      exec (reconcile r ctx name) state = exec (reconcileCopy r ctx copy) start) := by
  have ended := ended_edited state ctx .getShard
  rcases getShard_cases ctx name state with ⟨failure, ran⟩ | ⟨shard, found, ran⟩
  · left
    simp only [reconcile, exec_bind, exec_attempt, ran]
    split
    · exact ⟨_, _, rfl, ended, fun result isOk => (Except.ok.inj isOk).symm⟩
    · exact ⟨_, _, rfl, ended, nofun⟩
  · simp only [reconcile, exec_bind, exec_attempt, ran]
    by_cases deleting : shard.deleting = true
    · simp only [deleting, if_true]
      by_cases finalized : finalizerName ∈ shard.finalizers
      · right; left
        refine ⟨shard, ?_⟩
        rw [exec_bind]
        rcases exec (reconcileDelete ctx shard) (state.edited ctx .getShard) with ⟨answer, after⟩
        cases answer with
        | error failure => exact ⟨.error failure, found, finalized, nofun, rfl⟩
        | ok value =>
            refine ⟨.ok {}, found, finalized, ?_, rfl⟩
            exact fun result isOk => (Except.ok.inj isOk).symm
      · left
        simp only [reconcileDelete, finalized, if_false]
        exact ⟨_, _, rfl, ended, fun result isOk => (Except.ok.inj isOk).symm⟩
    · simp only [deleting]
      rcases reconcileLive_cases r ctx name state found (Bool.eq_false_iff.mpr deleting) with
        ⟨failure, after, ran, ended⟩ | ⟨copy, start, adopted, ran⟩
      · exact .inl ⟨_, after, ran, ended, nofun⟩
      · exact .inr (.inr ⟨copy, start, adopted, ran⟩)

variable {r ctx name state} in
/-- A pass on a live shard that returns no error got past the finalizer. -/
theorem reconcile_adopts {stored : APIShard} {result : Result} {after : State}
    (read : ctx.faults .getShard = none)
    (copied : state.cluster.registry.copy ctx name = some stored)
    (ran : exec (reconcile r ctx name) state = (.ok result, after)) :
    ∃ copy start, Adopted ctx name state copy start ∧
      exec (reconcileCopy r ctx copy) start = (.ok result, after) := by
  unfold Registry.copy at copied
  dsimp only at copied
  cases found : (state.cluster.registry.edits (ctx.edits .getShard)).shards.find? name with
  | none =>
      rw [found] at copied
      cases copied
  | some shard =>
      rw [found] at copied
      dsimp only at copied
      split at copied
      · cases copied
      · next live =>
          have answered : exec (getShard ctx name) state =
              (.ok shard, state.edited ctx .getShard) := by
            rw [getShard, exec_callAPI_none read]
            simp only [exec_bind, exec_get, State.edited_registry, found, exec_pure]
          simp only [reconcile, exec_bind, exec_attempt, answered, live] at ran
          rcases reconcileLive_cases r ctx name state found (Bool.eq_false_iff.mpr live) with
            ⟨failure, ended, fails, _⟩ | ⟨copy, start, adopted, adopts⟩
          · exact absurd (fails.symm.trans ran) (by simp)
          · exact ⟨copy, start, adopted, adopts.symm.trans ran⟩

/-! ## The registry in a run -/

/-- The copy of a pass is current in a well-formed registry. -/
structure Tended (copy : APIShard) (state : State) : Prop where
  wf : state.cluster.registry.Wf
  current : Current copy state.resourceVersion state.cluster.registry

theorem Tended.edited {copy : APIShard} {before after : State} (tended : Tended copy before)
    {allowed : ShardEdit → Prop}
    (registry : before.cluster.registry.EditedBy allowed after.cluster.registry)
    (resourceVersion : after.resourceVersion = before.resourceVersion) : Tended copy after :=
  ⟨registry.wf tended.wf, resourceVersion ▸ tended.current.follows registry.follows⟩

theorem Tended.working {ctx : Schedule} {copy : APIShard} {before after : State}
    (tended : Tended copy before) (working : Working ctx before after) : Tended copy after :=
  tended.edited working.registry working.resourceVersion

theorem Tended.request {copy : APIShard} {state : State} (tended : Tended copy state)
    (ctx : Schedule) (request : Call) : Tended copy (state.edited ctx request) := by
  have edited : state.cluster.registry.EditedBy (fun _ => True)
      (state.edited ctx request).cluster.registry :=
    ⟨ctx.edits request, fun _ _ => trivial, rfl⟩
  exact tended.edited edited rfl

theorem Tended.persist {copy stored : APIShard} {state : State} (tended : Tended copy state)
    (membership : stored ∈ state.cluster.registry.shards.items) (name : stored.name = copy.name)
    (fresh : stored.resourceVersion = state.resourceVersion) :
    Tended copy (state.persist stored) :=
  ⟨tended.wf.persist membership, tended.current.persist membership name fresh⟩

theorem updateStatus_tended (ctx : Schedule) (request : Call) (copy : APIShard) :
    Respects (.keeps (Tended copy)) (updateStatus ctx request copy) := by
  intro state tended
  have edited := tended.request ctx request
  rcases updateStatus_cases ctx copy request state with
    ⟨failure, ran⟩ | ⟨stored, membership, name, fresh, ran⟩
  · rw [ran]
    exact edited
  · rw [ran]
    exact edited.persist membership name fresh

theorem Adopted.tended {ctx : Schedule} {name : String} {state start : State} {copy : APIShard}
    (adopted : Adopted ctx name state copy start) (wf : state.cluster.registry.Wf) :
    Tended copy start :=
  ⟨adopted.wf wf, adopted.current wf⟩

theorem reconcile_wf {state : State} (wf : state.cluster.registry.Wf) :
    (exec (reconcile r ctx name) state).2.cluster.registry.Wf := by
  rcases reconcile_cases r ctx name state with
    ⟨answer, after, ran, ended, _⟩ | ⟨shard, _, _, finalized, _, ran⟩ |
    ⟨copy, start, adopted, ran⟩
  · rw [ran]
    exact ended.wf wf
  · rw [ran]
    exact (reconcileDelete_effect ctx finalized (state.edited ctx .getShard)).2.1 (wf.edits _)
  · rw [ran]
    have kept : Respects (.keeps (Tended copy)) (reconcileCopy r ctx copy) :=
      reconcileCopy_keeps r ctx copy (fun _ _ working tended => tended.working working)
        (fun request _ => updateStatus_tended ctx request copy)
    exact (kept start (adopted.tended wf)).wf

theorem step_wf {state : State} (wf : state.cluster.registry.Wf) (step : Step) :
    (state.step step).cluster.registry.Wf := by
  cases step with
  | edit edit => exact wf.edit edit
  | surround surroundings => exact wf
  | createCRD crd =>
      simp only [State.step, Cluster.createCRD]
      split
      · exact wf
      · exact ⟨fun stored membership => Nat.lt_succ_of_lt (wf.uid stored membership),
          wf.revision, wf.distinct⟩
  | deleteCRD name => exact wf
  | pass r name ctx => exact reconcile_wf r ctx name wf

theorem run_wf {start : State} (initial : Initial start) (steps : List Step) :
    (run State.step start steps).cluster.registry.Wf :=
  run_invariant (P := fun state : State => state.cluster.registry.Wf)
    (fun _ step wf => step_wf wf step) initial.wf steps

/-! ## A small cluster -/

/-- A cluster with nothing in it and no optional APIs. -/
def Cluster.bare : Cluster where
  registry := ⟨.empty, 0, 0⟩
  apiServices := .empty
  objects := .empty
  crds := .empty
  secondaryCRDs := fun _ => .empty
  namespaceSyncs := .empty
  webhookSyncs := .empty
  servesServiceMonitor := false
  servesSCC := false
  servesTrafficDistribution := true
  clock := 0

theorem initial_bare : Initial { cluster := .bare } where
  wf := ⟨by simp [Cluster.bare, Store.empty], by simp [Cluster.bare, Store.empty],
    by simp [Cluster.bare, Store.empty]⟩
  status := by simp [Cluster.bare, Store.empty]
  services := by simp [Cluster.bare, Store.empty]
  trace := rfl

/-- A reconciler that found no optional APIs. -/
def Reconciler.bare : Reconciler where
  serviceMonitorAvailable := false
  sccAvailable := false
  parsePostgreSQLDSN := fun _ => .error (.errorf "not a DSN")
  buildConfigMapName := fun base _ => base ++ "-0"
  unmarshalStrings := fun _ => .ok []

/-- A spec with SQLite as its storage. -/
def plainSpec (apiGroups : List APIGroupSpec) : APIShardSpec where
  targetNamespace := "target"
  apiGroups := apiGroups
  storage := { type := .sqlite }

/-- What a shard of this name needs from others before it can serve: the request
header CA of the primary, its PKI Secret, and Deployments with ready replicas. -/
def Surroundings.serving (name : String) : Surroundings where
  objects := [
      { key := ⟨.configMap, "kube-system", "extension-apiserver-authentication"⟩
        data := [("requestheader-client-ca-file", "CA")] },
      { key := ⟨.secret, "target", name ++ "-pki"⟩, data := [("ca.crt", "CA")] },
      { key := ⟨.deployment, "target", name ++ "-kine"⟩, replicas := 1, readyReplicas := 1 },
      { key := ⟨.deployment, "target", name ++ "-apiserver"⟩, replicas := 1, readyReplicas := 1 }
    ].foldl Store.insert (.empty : Store Object.key)
  namespaceSyncs := .empty
  webhookSyncs := .empty
  servesServiceMonitor := false
  servesSCC := false
  servesTrafficDistribution := true
  clock := 0
  available := fun _ => none

/-- A schedule that only fails some calls, with the answer a timeout gives. -/
def Schedule.failing (requests : List Call) : Schedule where
  faults request := if request ∈ requests then some ⟨.fault .other, "timeout"⟩ else none

end KubeShard.Apishard
