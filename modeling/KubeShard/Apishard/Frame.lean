import KubeShard.Apishard.Reconcile
import KubeShard.Apishard.Registry
import KubeShard.Program.Frame

/-!
# What most steps of a pass leave alone

All steps of a live pass other than the registration of APIServices and the
writes to the shard itself are quiet: they do not touch APIServices, CRDs, the
list of registered names and the resource version of the pass's copy, and stored
shards change by the edits of users only.
-/

namespace KubeShard.Apishard

open Resources Prog

/-! ## Edits -/

/-- The pass works on a copy of the shard it has read before this call. -/
def Call.late : Call → Bool
  | .getShard | .addFinalizer => false
  | _ => true

/-- An edit that happens while the pass works on its copy. -/
def Schedule.Late (ctx : Schedule) (edit : ShardEdit) : Prop :=
  ∃ request, request.late = true ∧ edit ∈ ctx.edits request

/-! ## Logged events -/

/-- A state follows another by events of a kind. -/
def State.Logged (kind : Event → Bool) (before after : State) : Prop :=
  ∃ events, after.trace = before.trace ++ events ∧ ∀ event ∈ events, kind event = true

namespace State.Logged

variable {kind wider : Event → Bool}

theorem of_eq {before after : State} (same : after.trace = before.trace) :
    Logged kind before after :=
  ⟨[], by rw [same, List.append_nil], by simp⟩

theorem of_one {before after : State} {event : Event}
    (appended : after.trace = before.trace ++ [event]) (allowed : kind event = true) :
    Logged kind before after :=
  ⟨[event], appended, by simpa using allowed⟩

theorem trans {first second third : State} (left : Logged kind first second)
    (right : Logged kind second third) : Logged kind first third := by
  obtain ⟨leftEvents, leftTrace, leftKind⟩ := left
  obtain ⟨rightEvents, rightTrace, rightKind⟩ := right
  refine ⟨leftEvents ++ rightEvents, by rw [rightTrace, leftTrace, List.append_assoc], ?_⟩
  intro event membership
  rcases List.mem_append.mp membership with inLeft | inRight
  · exact leftKind event inLeft
  · exact rightKind event inRight

theorem mono {before after : State} (logged : Logged kind before after)
    (imply : ∀ event, kind event = true → wider event = true) : Logged wider before after := by
  obtain ⟨events, trace, ofKind⟩ := logged
  exact ⟨events, trace, fun event membership => imply event (ofKind event membership)⟩

theorem grows {before after : State} (logged : Logged kind before after) :
    before.trace <+: after.trace := by
  obtain ⟨events, appended, _⟩ := logged
  exact ⟨events, appended.symm⟩

/-- An event of another kind was there before. -/
theorem mem_before {before after : State} (logged : Logged kind before after) {event : Event}
    (membership : event ∈ after.trace) (other : kind event = false) : event ∈ before.trace := by
  obtain ⟨events, trace, ofKind⟩ := logged
  rw [trace] at membership
  rcases List.mem_append.mp membership with earlier | later
  · exact earlier
  · rw [ofKind event later] at other
    contradiction

end State.Logged

/-! ## Working steps -/

/-- Events that are not writes to a shard itself. -/
def Event.aside : Event → Bool
  | .persisted _ | .removedFinalizer _ _ => false
  | _ => true

/-- What a step between two writes of the shard may change. -/
structure Working (ctx : Schedule) (before after : State) : Prop where
  registry : before.cluster.registry.EditedBy ctx.Late after.cluster.registry
  crds : after.cluster.crds = before.cluster.crds
  resourceVersion : after.resourceVersion = before.resourceVersion
  distinct : DistinctTypes before.status.conditions → DistinctTypes after.status.conditions
  logged : before.Logged Event.aside after

namespace Working

variable {ctx : Schedule}

theorem refl (state : State) : Working ctx state state :=
  ⟨.refl _, rfl, rfl, id, .of_eq rfl⟩

theorem trans {first second third : State} (left : Working ctx first second)
    (right : Working ctx second third) : Working ctx first third where
  registry := left.registry.trans right.registry
  crds := right.crds.trans left.crds
  resourceVersion := right.resourceVersion.trans left.resourceVersion
  distinct := right.distinct ∘ left.distinct
  logged := left.logged.trans right.logged

end Working

/-- The frame of working steps. -/
def working (ctx : Schedule) : Frame State := ⟨Working ctx, Working.refl, Working.trans⟩

/-! ## Calm steps -/

/-- Events that concern neither APIServices nor the shard itself. -/
def Event.quiet : Event → Bool
  | .applied _ _ | .appliedCRD _ _ | .cleanup _ _ | .synced _ _ _ => true
  | _ => false

theorem Event.aside_of_quiet (event : Event) (quiet : event.quiet = true) :
    event.aside = true := by
  cases event <;> first | rfl | contradiction

/-- All tracked objects are there. -/
def State.Present (state : State) : Prop :=
  ∀ key ∈ state.tracked, key ∈ state.cluster.objects.keys

/-- What a calm step may change: objects, CRDs of the secondary and the status of the
copy, but neither APIServices nor stored shards. -/
structure Calm (ctx : Schedule) (before after : State) : Prop where
  registry : before.cluster.registry.EditedBy ctx.Late after.cluster.registry
  apiServices : after.cluster.apiServices = before.cluster.apiServices
  crds : after.cluster.crds = before.cluster.crds
  resourceVersion : after.resourceVersion = before.resourceVersion
  registered : after.status.registeredAPIServices = before.status.registeredAPIServices
  distinct : DistinctTypes before.status.conditions → DistinctTypes after.status.conditions
  tracked : before.tracked <+: after.tracked
  present : before.Present → after.Present
  logged : before.Logged Event.quiet after
  clock : after.cluster.clock = before.cluster.clock

namespace Calm

variable {ctx : Schedule}

theorem refl (state : State) : Calm ctx state state :=
  ⟨.refl _, rfl, rfl, rfl, rfl, id, List.prefix_rfl, id, .of_eq rfl, rfl⟩

theorem trans {first second third : State} (left : Calm ctx first second)
    (right : Calm ctx second third) : Calm ctx first third where
  registry := left.registry.trans right.registry
  apiServices := right.apiServices.trans left.apiServices
  crds := right.crds.trans left.crds
  resourceVersion := right.resourceVersion.trans left.resourceVersion
  registered := right.registered.trans left.registered
  distinct := right.distinct ∘ left.distinct
  tracked := left.tracked.trans right.tracked
  present := right.present ∘ left.present
  logged := left.logged.trans right.logged
  clock := right.clock.trans left.clock

theorem working {before after : State} (calm : Calm ctx before after) :
    Working ctx before after where
  registry := calm.registry
  crds := calm.crds
  resourceVersion := calm.resourceVersion
  distinct := calm.distinct
  logged := calm.logged.mono Event.aside_of_quiet

/-- A step on the pass's own copy of the status. -/
theorem of_status {before : State} {status : APIShardStatus}
    (registered : status.registeredAPIServices = before.status.registeredAPIServices)
    (distinct : DistinctTypes before.status.conditions → DistinctTypes status.conditions) :
    Calm ctx before { before with status := status } :=
  ⟨.refl _, rfl, rfl, rfl, registered, distinct, List.prefix_rfl, id, .of_eq rfl, rfl⟩

/-- A step on parts of the cluster that are of no concern here. -/
theorem of_cluster {before : State} {cluster : Cluster}
    (registry : cluster.registry = before.cluster.registry)
    (apiServices : cluster.apiServices = before.cluster.apiServices)
    (crds : cluster.crds = before.cluster.crds) (clock : cluster.clock = before.cluster.clock)
    (present : before.Present → ∀ key ∈ before.tracked, key ∈ cluster.objects.keys) :
    Calm ctx before { before with cluster := cluster } :=
  ⟨registry ▸ .refl _, apiServices, crds, rfl, rfl, id, List.prefix_rfl, present, .of_eq rfl, clock⟩

/-- Logging a quiet event. -/
theorem of_event {before : State} {event : Event} (quiet : event.quiet = true) :
    Calm ctx before { before with trace := before.trace ++ [event] } :=
  ⟨.refl _, rfl, rfl, rfl, rfl, id, List.prefix_rfl, id, .of_one rfl quiet, rfl⟩

end Calm

/-- The frame of calm steps. -/
def calm (ctx : Schedule) : Frame State := ⟨Calm ctx, Calm.refl, Calm.trans⟩

/-! ## Quiet steps -/

/-- The conditions that are copied from sync objects. -/
def ShardCondition.mirrored : ShardCondition → Bool
  | .namespaceSyncReady | .webhookSyncReady => true
  | _ => false

/-- The conditions that are set once all objects are applied: those that decide about the
phase or go with it, and those copied from sync objects. -/
def ShardCondition.gate : ShardCondition → Bool
  | .reconciled | .crdConflict | .secondaryHealthy | .apiServicesRegistered => true
  | type => type.mirrored

/-- The kinds of object that a pass also applies without tracking them. -/
def ObjectKind.shared : ObjectKind → Bool
  | .namespace | .clusterRole => true
  | _ => false

/-- These objects were applied and tracked, in this order, and no others were touched. -/
structure Applied (keys : List ObjectKey) (before after : State) : Prop where
  tracked : after.tracked = before.tracked ++ keys
  objects : ∀ key ∉ keys, key.kind.shared = false →
    after.cluster.objects.find? key = before.cluster.objects.find? key
  logged : ∀ key data, .applied key data ∈ after.trace →
    .applied key data ∈ before.trace ∨ key ∈ keys ∨ key.kind.shared = true
  cleanup : ∀ uid tracked, .cleanup uid tracked ∈ after.trace →
    .cleanup uid tracked ∈ before.trace

namespace Applied

/-- Nothing is applied where no object changes and nothing is logged. -/
theorem none {before after : State} (objects : after.cluster.objects = before.cluster.objects)
    (tracked : after.tracked = before.tracked) (trace : after.trace = before.trace) :
    Applied [] before after :=
  ⟨by rw [tracked, List.append_nil], fun _ _ _ => by rw [objects],
    fun _ _ membership => .inl (trace ▸ membership), fun _ _ membership => trace ▸ membership⟩

theorem trans {left right : List ObjectKey} {first second third : State}
    (former : Applied left first second) (latter : Applied right second third) :
    Applied (left ++ right) first third where
  tracked := by rw [latter.tracked, former.tracked, List.append_assoc]
  objects := by
    intro key outside own
    rw [List.mem_append, not_or] at outside
    exact (latter.objects key outside.2 own).trans (former.objects key outside.1 own)
  logged := by
    intro key data membership
    rcases latter.logged key data membership with earlier | new | shared
    · rcases former.logged key data earlier with first | new | shared
      · exact .inl first
      · exact .inr (.inl (List.mem_append_left _ new))
      · exact .inr (.inr shared)
    · exact .inr (.inl (List.mem_append_right _ new))
    · exact .inr (.inr shared)
  cleanup := fun uid tracked membership =>
    former.cleanup uid tracked (latter.cleanup uid tracked membership)

end Applied

/-- Events that are not about objects. -/
def Event.aloof : Event → Bool
  | .applied _ _ | .cleanup _ _ => false
  | _ => true

theorem Applied.of_logged {before after : State}
    (objects : after.cluster.objects = before.cluster.objects)
    (tracked : after.tracked = before.tracked) (logged : before.Logged Event.aloof after) :
    Applied [] before after :=
  ⟨by rw [tracked, List.append_nil], fun _ _ _ => by rw [objects],
    fun _ _ membership => .inl (logged.mem_before membership rfl),
    fun _ _ membership => logged.mem_before membership rfl⟩

/-- What a quiet step may change: as a calm one, but the phase, the conditions around it
and the sync objects stay, and no object is touched that is not tracked then. -/
structure Quiet (ctx : Schedule) (before after : State) : Prop extends Calm ctx before after where
  phase : after.status.phase = before.status.phase
  gates : ∀ type, type.gate = true →
    findStatusCondition after.status.conditions type =
      findStatusCondition before.status.conditions type
  applied : ∃ keys, Applied keys before after
  unserved : after.cluster.unserved = before.cluster.unserved
  syncs : after.cluster.syncs = before.cluster.syncs

namespace Quiet

variable {ctx : Schedule}

/-- A calm step that leaves the status and the objects alone is quiet. -/
theorem of_calm {before after : State} (calm : Calm ctx before after)
    (status : after.status = before.status) (applied : Applied [] before after)
    (unserved : after.cluster.unserved = before.cluster.unserved)
    (syncs : after.cluster.syncs = before.cluster.syncs) : Quiet ctx before after :=
  ⟨calm, by rw [status], fun _ _ => by rw [status], ⟨[], applied⟩, unserved, syncs⟩

theorem refl (state : State) : Quiet ctx state state :=
  .of_calm (.refl state) rfl (.none rfl rfl rfl) rfl rfl

theorem trans {first second third : State} (left : Quiet ctx first second)
    (right : Quiet ctx second third) : Quiet ctx first third where
  toCalm := left.toCalm.trans right.toCalm
  phase := right.phase.trans left.phase
  gates := fun type gate => (right.gates type gate).trans (left.gates type gate)
  applied := by
    obtain ⟨leftKeys, former⟩ := left.applied
    obtain ⟨rightKeys, latter⟩ := right.applied
    exact ⟨leftKeys ++ rightKeys, former.trans latter⟩
  unserved := right.unserved.trans left.unserved
  syncs := right.syncs.trans left.syncs

end Quiet

/-- The frame of quiet steps. -/
def quiet (ctx : Schedule) : Frame State := ⟨Quiet ctx, Quiet.refl, Quiet.trans⟩

/-! ## Steps that touch no object -/

/-- A quiet step that touches no object, except for those that shards share. -/
structure Sharing (ctx : Schedule) (before after : State) : Prop
    extends Quiet ctx before after where
  untouched : Applied [] before after

theorem Sharing.trans {ctx : Schedule} {first second third : State}
    (left : Sharing ctx first second) (right : Sharing ctx second third) :
    Sharing ctx first third :=
  ⟨left.toQuiet.trans right.toQuiet, left.untouched.trans right.untouched⟩

/-- The frame of steps on shared objects. -/
def sharing (ctx : Schedule) : Frame State :=
  ⟨Sharing ctx, fun state => ⟨.refl state, .none rfl rfl rfl⟩, Sharing.trans⟩

/-- A quiet step that touches no object. -/
structure Still (ctx : Schedule) (before after : State) : Prop
    extends Sharing ctx before after where
  objects : after.cluster.objects = before.cluster.objects

theorem Still.trans {ctx : Schedule} {first second third : State} (left : Still ctx first second)
    (right : Still ctx second third) : Still ctx first third :=
  ⟨left.toSharing.trans right.toSharing, right.objects.trans left.objects⟩

/-- The frame of steps that touch neither objects nor the conditions around the phase. -/
def still (ctx : Schedule) : Frame State :=
  ⟨Still ctx, fun state => ⟨(sharing ctx).refl state, rfl⟩, Still.trans⟩

/-- A step that leaves the status of the copy and the clock alone. -/
structure Silent (before after : State) : Prop where
  status : after.status = before.status
  clock : after.cluster.clock = before.cluster.clock

/-- The frame of steps that leave the status alone. -/
def silent : Frame State where
  rel := Silent
  refl _ := ⟨rfl, rfl⟩
  trans left right := ⟨right.status.trans left.status, right.clock.trans left.clock⟩

/-- A still step that leaves the status alone. -/
structure Hushed (ctx : Schedule) (before after : State) : Prop
    extends Still ctx before after where
  status : after.status = before.status

namespace Hushed

variable {ctx : Schedule}

/-- A calm step that leaves the status and the objects alone. -/
theorem of_calm {before after : State} (calm : Calm ctx before after)
    (status : after.status = before.status)
    (objects : after.cluster.objects = before.cluster.objects)
    (untouched : Applied [] before after)
    (unserved : after.cluster.unserved = before.cluster.unserved)
    (syncs : after.cluster.syncs = before.cluster.syncs) : Hushed ctx before after :=
  ⟨⟨⟨.of_calm calm status untouched unserved syncs, untouched⟩, objects⟩, status⟩

theorem trans {first second third : State} (left : Hushed ctx first second)
    (right : Hushed ctx second third) : Hushed ctx first third :=
  ⟨left.toStill.trans right.toStill, right.status.trans left.status⟩

theorem silent {before after : State} (hushed : Hushed ctx before after) : Silent before after :=
  ⟨hushed.status, hushed.clock⟩

end Hushed

/-- The frame of steps that only read. -/
def hushed (ctx : Schedule) : Frame State :=
  ⟨Hushed ctx, fun state => ⟨(still ctx).refl state, rfl⟩, Hushed.trans⟩

/-- A calm step that touches no object. -/
structure Aloof (ctx : Schedule) (before after : State) : Prop
    extends Calm ctx before after where
  untouched : Applied [] before after
  objects : after.cluster.objects = before.cluster.objects
  unserved : after.cluster.unserved = before.cluster.unserved

theorem Aloof.refl {ctx : Schedule} (state : State) : Aloof ctx state state :=
  ⟨.refl state, .none rfl rfl rfl, rfl, rfl⟩

theorem Aloof.trans {ctx : Schedule} {first second third : State}
    (left : Aloof ctx first second) (right : Aloof ctx second third) : Aloof ctx first third :=
  ⟨left.toCalm.trans right.toCalm, left.untouched.trans right.untouched,
    right.objects.trans left.objects, right.unserved.trans left.unserved⟩

theorem Still.aloof {ctx : Schedule} {before after : State} (still : Still ctx before after) :
    Aloof ctx before after :=
  ⟨still.toCalm, still.untouched, still.objects, still.unserved⟩

/-- A step on the pass's own copy of the status. -/
theorem Aloof.of_status {ctx : Schedule} {before : State} {status : APIShardStatus}
    (registered : status.registeredAPIServices = before.status.registeredAPIServices)
    (distinct : DistinctTypes before.status.conditions → DistinctTypes status.conditions) :
    Aloof ctx before { before with status := status } :=
  ⟨.of_status registered distinct, .none rfl rfl rfl, rfl, rfl⟩

/-- The frame of steps that touch no object. -/
def aloof (ctx : Schedule) : Frame State := ⟨Aloof ctx, Aloof.refl, Aloof.trans⟩

/-- A calm step that touches neither objects nor sync objects, nor the conditions copied
from these. -/
structure Observing (ctx : Schedule) (before after : State) : Prop
    extends Aloof ctx before after where
  syncs : after.cluster.syncs = before.cluster.syncs
  mirrored : ∀ type, type.mirrored = true →
    findStatusCondition after.status.conditions type =
      findStatusCondition before.status.conditions type

theorem Observing.trans {ctx : Schedule} {first second third : State}
    (left : Observing ctx first second) (right : Observing ctx second third) :
    Observing ctx first third :=
  ⟨left.toAloof.trans right.toAloof, right.syncs.trans left.syncs,
    fun type copied => (right.mirrored type copied).trans (left.mirrored type copied)⟩

/-- A step on the pass's own copy of the status that leaves the conditions alone. -/
theorem Observing.of_status {ctx : Schedule} {before : State} {status : APIShardStatus}
    (registered : status.registeredAPIServices = before.status.registeredAPIServices)
    (conditions : status.conditions = before.status.conditions) :
    Observing ctx before { before with status := status } :=
  ⟨.of_status registered (conditions ▸ id), rfl, fun _ _ => by rw [conditions]⟩

/-- The frame of steps that touch neither objects nor sync objects. -/
def observing (ctx : Schedule) : Frame State :=
  ⟨Observing ctx, fun state => ⟨.refl state, rfl, fun _ _ => rfl⟩, Observing.trans⟩

/-- A calm step that touches no object, and of the conditions set late only those copied
from sync objects. -/
structure Mirroring (ctx : Schedule) (before after : State) : Prop
    extends Aloof ctx before after where
  gates : ∀ type, type.gate = true → type.mirrored = false →
    findStatusCondition after.status.conditions type =
      findStatusCondition before.status.conditions type

theorem Mirroring.trans {ctx : Schedule} {first second third : State}
    (left : Mirroring ctx first second) (right : Mirroring ctx second third) :
    Mirroring ctx first third :=
  ⟨left.toAloof.trans right.toAloof,
    fun type gate own => (right.gates type gate own).trans (left.gates type gate own)⟩

/-- The frame of the steps on sync objects. -/
def mirroring (ctx : Schedule) : Frame State :=
  ⟨Mirroring ctx, fun state => ⟨.refl state, fun _ _ _ => rfl⟩, Mirroring.trans⟩

/-- A calm step that touches neither objects nor the status. -/
structure Syncing (ctx : Schedule) (before after : State) : Prop
    extends Aloof ctx before after where
  status : after.status = before.status

theorem Syncing.trans {ctx : Schedule} {first second third : State}
    (left : Syncing ctx first second) (right : Syncing ctx second third) :
    Syncing ctx first third :=
  ⟨left.toAloof.trans right.toAloof, right.status.trans left.status⟩

theorem Syncing.mirroring {ctx : Schedule} {before after : State}
    (syncing : Syncing ctx before after) : Mirroring ctx before after :=
  ⟨syncing.toAloof, fun _ _ _ => by rw [syncing.status]⟩

/-- The frame of writes to sync objects. -/
def syncing (ctx : Schedule) : Frame State :=
  ⟨Syncing ctx, fun state => ⟨.refl state, rfl⟩, Syncing.trans⟩

/-- The conditions copied from sync objects are set late. -/
theorem ShardCondition.gate_of_mirrored {type : ShardCondition} (mirrored : type.mirrored = true) :
    type.gate = true := by
  cases type <;> first | rfl | contradiction

section inclusions

variable {ctx : Schedule} {α : Type} {program : Pass α}

theorem quiet_of_sharing (respects : Respects (sharing ctx) program) :
    Respects (quiet ctx) program :=
  respects.mono fun _ _ sharing => sharing.toQuiet

theorem quiet_of_still (respects : Respects (still ctx) program) : Respects (quiet ctx) program :=
  respects.mono fun _ _ still => still.toQuiet

theorem still_of_hushed (respects : Respects (hushed ctx) program) :
    Respects (still ctx) program :=
  respects.mono fun _ _ hushed => hushed.toStill

theorem silent_of_hushed (respects : Respects (hushed ctx) program) : Respects silent program :=
  respects.mono fun _ _ hushed => hushed.silent

theorem observing_of_still (respects : Respects (still ctx) program) :
    Respects (observing ctx) program :=
  respects.mono fun _ _ still => ⟨still.aloof, still.syncs,
    fun type mirrored => still.gates type (ShardCondition.gate_of_mirrored mirrored)⟩

theorem aloof_of_observing (respects : Respects (observing ctx) program) :
    Respects (aloof ctx) program :=
  respects.mono fun _ _ observing => observing.toAloof

theorem calm_of_aloof (respects : Respects (aloof ctx) program) : Respects (calm ctx) program :=
  respects.mono fun _ _ aloof => aloof.toCalm

end inclusions

section primitives

variable {ctx : Schedule} {α : Type}

theorem callAPI_respects {frame : Frame State} {request : Call} {action : Pass α}
    (edits : ∀ state, frame.rel state (state.edited ctx request))
    (respects : Respects frame action) : Respects frame (callAPI ctx request action) := by
  apply Respects.bind (.of_modify edits)
  intro _
  cases ctx.faults request with
  | some failure => exact .of_throw failure
  | none => exact respects

/-- The edits before a late call. -/
theorem editedBy_late (state : State) {request : Call} (late : request.late = true) :
    state.cluster.registry.EditedBy ctx.Late (state.edited ctx request).cluster.registry :=
  ⟨ctx.edits request, fun _ membership => ⟨request, late, membership⟩, rfl⟩

theorem Calm.of_edited (state : State) {request : Call} (late : request.late = true) :
    Calm ctx state (state.edited ctx request) :=
  ⟨editedBy_late state late, rfl, rfl, rfl, rfl, id, List.prefix_rfl, id, .of_eq rfl, rfl⟩

theorem Hushed.of_edited (state : State) {request : Call} (late : request.late = true) :
    Hushed ctx state (state.edited ctx request) :=
  .of_calm (.of_edited state late) rfl rfl (.none rfl rfl rfl) rfl rfl

theorem callAPI_calm {request : Call} {action : Pass α} (late : request.late = true)
    (respects : Respects (calm ctx) action) :
    Respects (calm ctx) (callAPI ctx request action) :=
  callAPI_respects (fun state => .of_edited state late) respects

theorem callAPI_hushed {request : Call} {action : Pass α} (late : request.late = true)
    (respects : Respects (hushed ctx) action) :
    Respects (hushed ctx) (callAPI ctx request action) :=
  callAPI_respects (fun state => .of_edited state late) respects

theorem callAPI_quiet {request : Call} {action : Pass α} (late : request.late = true)
    (respects : Respects (quiet ctx) action) :
    Respects (quiet ctx) (callAPI ctx request action) :=
  callAPI_respects (fun state => (Hushed.of_edited state late).toQuiet) respects

section conditions

variable (shard : APIShard) {type : ShardCondition}
variable (status : ConditionStatus) (reason message : String)

theorem setCondition_aloof (type : ShardCondition) :
    Respects (aloof ctx) (setCondition shard type status reason message) := by
  apply Respects.of_modify
  exact fun state => .of_status rfl fun distinct => distinct.set _ _

/-- Other conditions stay. -/
theorem setCondition_find (state : State) {other : ShardCondition} (different : other ≠ type) :
    findStatusCondition
        (exec (setCondition shard type status reason message) state).2.status.conditions other =
      findStatusCondition state.status.conditions other :=
  findStatusCondition_set_of_ne _ different _

theorem setCondition_observing (own : type.mirrored = false) :
    Respects (observing ctx) (setCondition shard type status reason message) := by
  intro state
  refine ⟨setCondition_aloof shard status reason message type state, rfl, ?_⟩
  intro other mirrored
  apply setCondition_find
  intro same
  rw [same, own] at mirrored
  contradiction

theorem setCondition_mirroring (mirrored : type.mirrored = true) :
    Respects (mirroring ctx) (setCondition shard type status reason message) := by
  intro state
  refine ⟨setCondition_aloof shard status reason message type state, ?_⟩
  intro other _ own
  apply setCondition_find
  intro same
  rw [same, mirrored] at own
  contradiction

theorem setCondition_still (aside : type.gate = false) :
    Respects (still ctx) (setCondition shard type status reason message) := by
  intro state
  obtain ⟨calm, untouched, objects, _⟩ := setCondition_aloof shard status reason message type state
  refine ⟨⟨⟨calm, rfl, ?_, ⟨[], untouched⟩, rfl, rfl⟩, untouched⟩, objects⟩
  intro other gate
  apply setCondition_find
  intro same
  rw [same, aside] at gate
  contradiction

theorem removeCondition_aloof (type : ShardCondition) :
    Respects (aloof ctx) (removeCondition type) := by
  apply Respects.of_modify
  exact fun state => .of_status rfl fun distinct => distinct.remove type

theorem removeCondition_observing (own : type.mirrored = false) :
    Respects (observing ctx) (removeCondition type) := by
  intro state
  refine ⟨removeCondition_aloof type state, rfl, ?_⟩
  intro other mirrored
  apply findStatusCondition_remove_of_ne
  intro same
  rw [same, own] at mirrored
  contradiction

theorem removeCondition_still (aside : type.gate = false) :
    Respects (still ctx) (removeCondition type) := by
  intro state
  obtain ⟨calm, untouched, objects, _⟩ := removeCondition_aloof type state
  refine ⟨⟨⟨calm, rfl, ?_, ⟨[], untouched⟩, rfl, rfl⟩, untouched⟩, objects⟩
  intro other gate
  apply findStatusCondition_remove_of_ne
  intro same
  rw [same, aside] at gate
  contradiction

end conditions

theorem getObject_hushed {request : Call} (late : request.late = true) (key : ObjectKey) :
    Respects (hushed ctx) (getObject ctx request key) := by
  apply callAPI_hushed late
  apply Respects.of_get.bind
  intro state
  cases state.cluster.objects.find? key with
  | some object => exact .of_pure object
  | none => exact .of_throw _

theorem getObject_still {request : Call} (late : request.late = true) (key : ObjectKey) :
    Respects (still ctx) (getObject ctx request key) :=
  still_of_hushed (getObject_hushed late key)

theorem callAPI_silent {request : Call} {action : Pass α} (respects : Respects silent action) :
    Respects silent (callAPI ctx request action) :=
  callAPI_respects (fun _ => ⟨rfl, rfl⟩) respects

theorem getObject_silent (request : Call) (key : ObjectKey) :
    Respects silent (getObject ctx request key) := by
  apply callAPI_silent
  apply Respects.of_get.bind
  intro state
  cases state.cluster.objects.find? key with
  | some object => exact .of_pure object
  | none => exact .of_throw _

theorem applyObject_silent (object : Object) : Respects silent (applyObject object) := by
  apply Respects.of_get.bind
  intro _
  apply Respects.ite (.of_throw _)
  exact .of_modify fun _ => ⟨rfl, rfl⟩

/-- The log after an object was applied. -/
theorem applied_of_append {trace : List Event} {object : Object} {key : ObjectKey}
    {data : List (String × String)}
    (membership : .applied key data ∈ trace ++ [.applied object.key object.data]) :
    .applied key data ∈ trace ∨ key = object.key := by
  rcases List.mem_append.mp membership with earlier | new
  · exact .inl earlier
  · cases List.mem_singleton.mp new
    exact .inr rfl

theorem cleanup_of_append {trace : List Event} {object : Object} {uid : UID}
    {tracked : List ObjectKey}
    (membership : .cleanup uid tracked ∈ trace ++ [.applied object.key object.data]) :
    .cleanup uid tracked ∈ trace := by
  rcases List.mem_append.mp membership with earlier | new
  · exact earlier
  · cases List.mem_singleton.mp new

/-- Applying an object that shards share. -/
theorem callAPI_sharing {request : Call} (late : request.late = true) {object : Object}
    (shared : object.key.kind.shared = true) :
    Respects (sharing ctx) (callAPI ctx request (applyObject object)) := by
  apply callAPI_respects fun state => (Hushed.of_edited state late).toSharing
  apply Respects.of_get.bind
  intro _
  apply Respects.ite (.of_throw _)
  apply Respects.of_modify
  intro state
  have untouched : Applied [] state { state with
      cluster.objects := state.cluster.objects.insert (state.cluster.merge object)
      trace := state.trace ++ [.applied object.key object.data] } := by
    refine ⟨(List.append_nil _).symm, ?_, ?_, fun _ _ => cleanup_of_append⟩
    · intro key _ own
      apply Store.find?_insert_of_ne
      rw [Cluster.merge_key]
      intro same
      rw [same, shared] at own
      contradiction
    · intro key data membership
      rcases applied_of_append membership with earlier | rfl
      · exact .inl earlier
      · exact .inr (.inr shared)
  refine ⟨.of_calm ⟨.refl _, rfl, rfl, rfl, rfl, id, List.prefix_rfl, ?_, .of_one rfl rfl, rfl⟩ rfl
    untouched rfl rfl, untouched⟩
  intro present key membership
  exact Store.mem_keys_insert.mpr (.inr (present key membership))

/-- An object is tracked right after it was applied, and nothing else is touched. -/
theorem applyAndTrack_applied (object : Object) (state : State) :
    ∃ keys ⊆ [object.key], Applied keys state (exec (do
      applyObject object
      modify fun state => { state with tracked := state.tracked ++ [object.key] } : Pass Unit)
        state).2 := by
  by_cases unserved : state.cluster.unserved object.key.kind = true
  · refine ⟨[], List.nil_subset _, ?_⟩
    simp only [applyObject, exec_bind, exec_get, unserved, if_true, exec_throw]
    exact .none rfl rfl rfl
  · refine ⟨[object.key], List.Subset.refl _, ?_⟩
    simp only [applyObject, exec_bind, exec_get, unserved, exec_modify]
    refine ⟨rfl, ?_, ?_, fun _ _ => cleanup_of_append⟩
    · intro key outside _
      apply Store.find?_insert_of_ne
      rw [Cluster.merge_key]
      exact fun same => outside (List.mem_singleton.mpr same)
    · intro key data membership
      rcases applied_of_append membership with earlier | rfl
      · exact .inl earlier
      · exact .inr (.inl List.mem_cons_self)

theorem applyAndTrack_quiet (object : Object) :
    Respects (quiet ctx) (do
      applyObject object
      modify fun state => { state with tracked := state.tracked ++ [object.key] }) := by
  intro state
  obtain ⟨keys, _, applied⟩ := applyAndTrack_applied object state
  revert applied
  by_cases unserved : state.cluster.unserved object.key.kind = true
  · simp only [applyObject, exec_bind, exec_get, unserved, if_true, exec_throw]
    exact fun _ => Quiet.refl state
  · simp only [applyObject, exec_bind, exec_get, unserved, exec_modify]
    intro applied
    refine ⟨⟨.refl _, rfl, rfl, rfl, rfl, id, List.prefix_append _ _, ?_, .of_one rfl rfl, rfl⟩, rfl,
      fun _ _ => rfl, ⟨keys, applied⟩, rfl, rfl⟩
    intro present key membership
    apply Store.mem_keys_insert.mpr
    rcases List.mem_append.mp membership with old | new
    · exact .inr (present key old)
    · left
      rw [List.mem_singleton.mp new, Cluster.merge_key]

theorem applyOwnedObject_quiet {request : Call} (late : request.late = true)
    (shard : APIShard) (object : Object) :
    Respects (quiet ctx) (applyOwnedObject ctx request shard object) := by
  apply callAPI_quiet late
  apply applyAndTrack_quiet

theorem applyOwned_quiet (shard : APIShard) (component : Component)
    (data : List (String × String)) (spec : ObjectSpec) :
    Respects (quiet ctx) (applyOwned ctx shard component data spec) :=
  applyOwnedObject_quiet rfl shard _

end primitives

end KubeShard.Apishard
