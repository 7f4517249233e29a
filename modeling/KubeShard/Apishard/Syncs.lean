import KubeShard.Apishard.Run

/-!
# What stands behind a ready sync object

A sync object that is ready was once synced without an error.  That it was synced with
the spec it has now is an invariant as long as no spec is changed under a ready object,
which is what `CreateOrUpdate` does to the sync objects of a shard whose spec has
changed.
-/

namespace KubeShard.Apishard

open Prog

/-! ## Ready objects -/

/-- The object has a Ready condition that is True. -/
def SyncObject.isReady {σ : Type} (object : SyncObject σ) : Bool :=
  (findStatusCondition object.conditions .ready).any (·.status = .true)

theorem SyncObject.isReady_of_find {σ : Type} {object : SyncObject σ}
    {ready : Condition SyncCondition}
    (found : findStatusCondition object.conditions .ready = some ready)
    (isTrue : ready.status = .true) : object.isReady = true := by
  simp [isReady, found, isTrue]

section reported

variable {σ : Type} (object : SyncObject σ) (now : Nat) (report : SyncReport)

@[simp] theorem SyncObject.reported_key : (object.reported now report).key = object.key := by
  cases report <;> rfl

@[simp] theorem SyncObject.reported_spec : (object.reported now report).spec = object.spec := by
  cases report <;> rfl

variable {object now report} in
/-- An object is ready after a pass that went through without an error, or if the pass
has written nothing and it was ready before. -/
theorem SyncObject.ready_of_reported (ready : (object.reported now report).isReady = true) :
    report.isComplete = true ∨ object.isReady = true := by
  have unready (reason message : String) : ((findStatusCondition (setStatusCondition now
      ⟨.ready, .false, reason, message, object.generation⟩ object.conditions) .ready).any
        fun condition => condition.status = .true) = false := by
    obtain ⟨time, found⟩ := findStatusCondition_set_self now
      (⟨.ready, .false, reason, message, object.generation⟩ : NewCondition SyncCondition)
      object.conditions
    rw [found]
    rfl
  cases report with
  | silent => exact .inr ready
  | unavailable message =>
      rw [isReady, reported, updateStatus, unready] at ready
      contradiction
  | failed message =>
      rw [isReady, reported, updateStatus, unready] at ready
      contradiction
  | complete message => exact .inl rfl

end reported

/-! ## Vouched objects -/

/-- A sync controller finished a pass without an error on an object of this key and
spec. -/
def Vouched (kind : SyncKind) (trace : List Event) (object : SyncObject kind.Spec) : Prop :=
  object.isReady = true → .synced kind object.key object.spec ∈ trace

/-- Every ready sync object was synced with the spec it has. -/
def AllVouched (state : State) : Prop :=
  ∀ kind, ∀ object ∈ (state.cluster.syncs kind).items, Vouched kind state.trace object

/-- A pass of the controller of this sync object goes through while the schedule runs. -/
def Schedule.Completes (ctx : Schedule) (kind : SyncKind) (key : String × String) : Prop :=
  ∃ request, ∃ pass ∈ ctx.syncs request,
    pass.kind = kind ∧ pass.key = key ∧ pass.report.isComplete = true

/-- The spec of a shard's sync object is the one the shard asks for, or the object is not
ready and does not become so while the schedule runs. -/
def Settled (ctx : Schedule) (shard : APIShard) (kind : SyncKind)
    (object : SyncObject kind.Spec) : Prop :=
  object.spec = kind.specOf shard ∨
    object.isReady = false ∧ ¬ctx.Completes kind (kind.keyOf shard)

/-- What a pass can rely on about sync objects, those of its own shard in particular. -/
structure Attested (ctx : Schedule) (shard : APIShard) (state : State) : Prop where
  vouched : AllVouched state
  settled : ∀ kind object, (state.cluster.syncs kind).find? (kind.keyOf shard) = some object →
    Settled ctx shard kind object

theorem AllVouched.follows {before after : State} (vouched : AllVouched before)
    (syncs : after.cluster.syncs = before.cluster.syncs)
    (grown : before.trace ⊆ after.trace) : AllVouched after := by
  intro kind object membership ready
  rw [syncs] at membership
  exact grown (vouched kind object membership ready)

theorem Attested.follows {ctx : Schedule} {shard : APIShard} {before after : State}
    (attested : Attested ctx shard before)
    (syncs : after.cluster.syncs = before.cluster.syncs)
    (grown : before.trace ⊆ after.trace) : Attested ctx shard after where
  vouched := attested.vouched.follows syncs grown
  settled := by
    rw [syncs]
    exact attested.settled

/-- Storing a sync object, after some events. -/
def State.storing (state : State) (kind : SyncKind) (object : SyncObject kind.Spec)
    (events : List Event) : State :=
  { state with
    cluster := state.cluster.setSyncs kind ((state.cluster.syncs kind).insert object)
    trace := state.trace ++ events }

/-- What holds of the sync objects and of the one that is stored holds afterwards. -/
theorem State.forall_storing {state : State} {P : (kind : SyncKind) → SyncObject kind.Spec → Prop}
    (holds : ∀ kind, ∀ object ∈ (state.cluster.syncs kind).items, P kind object)
    {kind : SyncKind} {object : SyncObject kind.Spec} (own : P kind object)
    (events : List Event) :
    ∀ other, ∀ stored ∈ ((state.storing kind object events).cluster.syncs other).items,
      P other stored := by
  intro other stored membership
  by_cases same : other = kind
  · subst same
    simp only [State.storing, Cluster.setSyncs_syncs_self] at membership
    rcases Store.mem_insert.mp membership with rfl | ⟨earlier, _⟩
    · exact own
    · exact holds other stored earlier
  · simp only [State.storing, Cluster.setSyncs_syncs_of_ne _ _ _ same] at membership
    exact holds other stored membership

theorem AllVouched.storing {state : State} (vouched : AllVouched state) {kind : SyncKind}
    {object : SyncObject kind.Spec} {events : List Event}
    (own : Vouched kind (state.trace ++ events) object) :
    AllVouched (state.storing kind object events) := by
  have earlier : ∀ other, ∀ stored ∈ (state.cluster.syncs other).items,
      Vouched other (state.trace ++ events) stored := by
    intro other stored membership ready
    exact List.mem_append_left _ (vouched other stored membership ready)
  exact State.forall_storing earlier own events

theorem Attested.storing {ctx : Schedule} {shard : APIShard} {state : State}
    (attested : Attested ctx shard state) {kind : SyncKind} {object : SyncObject kind.Spec}
    {events : List Event} (own : Vouched kind (state.trace ++ events) object)
    (settled : object.key = kind.keyOf shard → Settled ctx shard kind object) :
    Attested ctx shard (state.storing kind object events) where
  vouched := attested.vouched.storing own
  settled := by
    intro other stored found
    by_cases same : other = kind
    · subst same
      simp only [State.storing, Cluster.setSyncs_syncs_self] at found
      obtain ⟨membership, key⟩ := Store.find?_eq_some.mp found
      rcases Store.mem_insert.mp membership with rfl | ⟨earlier, _⟩
      · exact settled key
      · exact attested.settled other stored (Store.find?_eq_some.mpr ⟨earlier, key⟩)
    · simp only [State.storing, Cluster.setSyncs_syncs_of_ne _ _ _ same] at found
      exact attested.settled other stored found

/-! ## Passes of the sync controllers -/

/-- The event a pass of a sync controller leaves. -/
def SyncPass.events (pass : SyncPass) (spec : pass.kind.Spec) : List Event :=
  if pass.report.isComplete then [.synced pass.kind pass.key spec] else []

theorem State.sync_cases (state : State) (pass : SyncPass) :
    state.sync pass = state ∨
    ∃ object, (state.cluster.syncs pass.kind).find? pass.key = some object ∧
      state.sync pass = state.storing pass.kind
        (object.reported state.cluster.clock pass.report) (pass.events object.spec) := by
  unfold State.sync
  cases found : (state.cluster.syncs pass.kind).find? pass.key with
  | none => exact .inl rfl
  | some object => exact .inr ⟨object, rfl, rfl⟩

/-- What a pass of a sync controller leaves is vouched for by the pass, or was before. -/
theorem Vouched.reported {pass : SyncPass} {trace : List Event}
    {object : SyncObject pass.kind.Spec} (vouched : Vouched pass.kind trace object)
    (key : object.key = pass.key) (now : Nat) :
    Vouched pass.kind (trace ++ pass.events object.spec) (object.reported now pass.report) := by
  intro ready
  rw [SyncObject.reported_key, SyncObject.reported_spec]
  rcases SyncObject.ready_of_reported ready with complete | earlier
  · apply List.mem_append_right
    simp [SyncPass.events, complete, key]
  · exact List.mem_append_left _ (vouched earlier)

theorem AllVouched.sync {state : State} (vouched : AllVouched state) (pass : SyncPass) :
    AllVouched (state.sync pass) := by
  rcases state.sync_cases pass with same | ⟨object, found, same⟩
  · rw [same]
    exact vouched
  · rw [same]
    obtain ⟨membership, key⟩ := Store.find?_eq_some.mp found
    exact vouched.storing ((vouched pass.kind object membership).reported key _)

variable {ctx : Schedule} {shard : APIShard}

theorem Attested.sync {state : State} (attested : Attested ctx shard state) {request : Call}
    {pass : SyncPass} (scheduled : pass ∈ ctx.syncs request) :
    Attested ctx shard (state.sync pass) := by
  rcases state.sync_cases pass with same | ⟨object, found, same⟩
  · rw [same]
    exact attested
  · rw [same]
    obtain ⟨membership, key⟩ := Store.find?_eq_some.mp found
    apply attested.storing ((attested.vouched pass.kind object membership).reported key _)
    intro own
    rw [SyncObject.reported_key, key] at own
    rcases attested.settled pass.kind object (own ▸ found) with asked | ⟨unready, idle⟩
    · exact .inl ((object.reported_spec _ _).trans asked)
    · refine .inr ⟨Bool.eq_false_iff.mpr fun ready => ?_, idle⟩
      rcases SyncObject.ready_of_reported ready with complete | earlier
      · exact idle ⟨request, pass, scheduled, rfl, own, complete⟩
      · rw [unready] at earlier
        contradiction

/-! ## The step on sync objects -/

/-- A call on a sync object keeps what each pass of a sync controller, the edits and the
call itself keep. -/
theorem callSync_keeps {invariant : State → Prop}
    (syncs : ∀ request, ∀ pass ∈ ctx.syncs request, ∀ state,
      invariant state → invariant (state.sync pass))
    (edits : ∀ request state, invariant state → invariant (state.edited ctx request))
    {α : Type} {request : Call} {action : Pass α}
    (respects : Respects (.keeps invariant) action) :
    Respects (.keeps invariant) (callSync ctx request action) := by
  have all : ∀ passes ⊆ ctx.syncs request, ∀ state, invariant state →
      invariant (passes.foldl State.sync state) := by
    intro passes
    induction passes with
    | nil => exact fun _ _ kept => kept
    | cons pass rest ih =>
        intro subset state kept
        obtain ⟨scheduled, others⟩ := List.cons_subset.mp subset
        exact ih others _ (syncs request pass scheduled state kept)
  apply Respects.bind (.of_modify fun state kept => all _ (List.Subset.refl _) state kept)
  intro _
  exact callAPI_respects (edits request) respects

theorem callSync_attested {α : Type} {request : Call} {action : Pass α}
    (respects : Respects (.keeps (Attested ctx shard)) action) :
    Respects (.keeps (Attested ctx shard)) (callSync ctx request action) :=
  callSync_keeps (fun _ _ scheduled _ attested => attested.sync scheduled)
    (fun _ _ attested => attested.follows rfl (List.Subset.refl _)) respects

theorem exec_storeSync (kind : SyncKind) (object : SyncObject kind.Spec) (state : State) :
    exec (storeSync kind object) state = (.ok (), state.storing kind object []) := by
  simp [storeSync, State.storing]

theorem createSync_attested {kind : SyncKind} {object : SyncObject kind.Spec}
    (conditions : object.conditions = []) (spec : object.spec = kind.specOf shard) :
    Respects (.keeps (Attested ctx shard)) (createSync ctx kind object) := by
  apply callSync_attested
  intro state attested
  simp only [exec_bind, exec_get]
  split
  · exact attested
  · rw [exec_storeSync]
    have unready : object.isReady = false := by simp [SyncObject.isReady, conditions,
      findStatusCondition]
    exact attested.storing (fun ready => absurd ready (by simp [unready])) fun _ => .inl spec

/-- The new spec is the old one where the object is ready. -/
theorem updateSync_attested {kind : SyncKind} {object : SyncObject kind.Spec}
    (key : object.key = kind.keyOf shard) (spec : object.spec = kind.specOf shard) :
    Respects (.keeps (Attested ctx shard)) (updateSync ctx kind object) := by
  apply callSync_attested
  intro state attested
  simp only [exec_bind, exec_get]
  cases found : (state.cluster.syncs kind).find? object.key with
  | none => exact attested
  | some stored =>
      dsimp only
      split
      · exact attested
      · rw [exec_storeSync]
        refine attested.storing ?_ fun _ => .inl spec
        intro (ready : stored.isReady = true)
        obtain ⟨membership, storedKey⟩ := Store.find?_eq_some.mp found
        have vouched := attested.vouched kind stored membership ready
        rcases attested.settled kind stored (key ▸ found) with asked | ⟨unready, _⟩
        · rw [storedKey, asked, ← spec] at vouched
          exact List.mem_append_left _ vouched
        · rw [unready] at ready
          contradiction

/-- The object `CreateOrUpdate` finds is the one it looks for. -/
theorem existing_key {kind : SyncKind} {state after : State}
    {existing : Option (SyncObject kind.Spec)}
    (ran : exec (callSync ctx kind.getCall do
      pure (((← get).cluster.syncs kind).find? (kind.keyOf shard))) state = (.ok existing, after)) :
    ∀ object ∈ existing, object.key = kind.keyOf shard := by
  intro object found
  simp only [callSync, exec_bind, exec_modify] at ran
  obtain ⟨_, ran⟩ := exec_callAPI_ok.mp ran
  simp only [exec_bind, exec_get, exec_pure] at ran
  cases ran
  exact (Store.find?_eq_some.mp found).2

theorem createOrUpdate_attested (kind : SyncKind) :
    Respects (.keeps (Attested ctx shard)) (createOrUpdate ctx shard kind) := by
  apply Respects.bind_of_returns (P := fun existing : Option (SyncObject kind.Spec) =>
    ∀ object ∈ existing, object.key = kind.keyOf shard)
  · exact callSync_attested (Respects.of_get.bind fun _ => .of_pure _)
  · exact fun _ _ _ ran => existing_key ran
  · intro existing keys
    cases existing with
    | none => exact createSync_attested rfl rfl
    | some object => exact .ite (.of_pure _) (updateSync_attested (keys object rfl) rfl)

theorem readSync_attested (kind : SyncKind) :
    Respects (.keeps (Attested ctx shard)) (readSync ctx shard kind) := by
  apply callSync_attested
  apply Respects.of_get.bind
  intro state
  split
  · exact .of_pure _
  · exact .of_throw _

/-- The object that is read is the stored one. -/
theorem readSync_ok {kind : SyncKind} {state after : State} {object : SyncObject kind.Spec}
    (ran : exec (readSync ctx shard kind) state = (.ok object, after)) :
    (after.cluster.syncs kind).find? (kind.keyOf shard) = some object := by
  simp only [readSync, callSync, exec_bind, exec_modify] at ran
  obtain ⟨_, ran⟩ := exec_callAPI_ok.mp ran
  simp only [exec_bind, exec_get] at ran
  split at ran
  · next found =>
      cases ran
      exact found
  · cases ran

end KubeShard.Apishard
