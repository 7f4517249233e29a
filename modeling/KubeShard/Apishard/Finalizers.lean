import KubeShard.Apishard.Run

/-!
# The finalizer patch and other clients

The patch that adds the finalizer carries the whole list of finalizers the pass has
read, with its own at the end, and no resource version.  Other clients may add and
remove finalizers of the shard between the read and the patch.
-/

namespace KubeShard.Apishard

open Prog

/-- What another client does to the finalizers of a shard. -/
inductive FinalizerEdit where
  | add (finalizer : String)
  | remove (finalizer : String)
  deriving DecidableEq, Repr

/-- The list of finalizers after an edit. -/
def FinalizerEdit.apply (finalizers : List String) : FinalizerEdit → List String
  | .add finalizer => if finalizer ∈ finalizers then finalizers else finalizers ++ [finalizer]
  | .remove finalizer => finalizers.filter (· ≠ finalizer)

/-- The registry after another client's edit.  An object that is being deleted goes
away with its last finalizer. -/
def Registry.editFinalizers (registry : Registry) (name : String) (edit : FinalizerEdit) :
    Registry :=
  match registry.shards.find? name with
  | none => registry
  | some stored =>
      let finalizers := edit.apply stored.finalizers
      if stored.deleting ∧ finalizers = [] then
        { registry with shards := registry.shards.erase name }
      else
        registry.write { stored with finalizers := finalizers }

/-- The state after other clients' edits. -/
def State.disturbed (state : State) (name : String) (edits : List FinalizerEdit) : State :=
  { state with
    cluster.registry := edits.foldl (·.editFinalizers name) state.cluster.registry }

/-- Nothing is lost by a patch that turns one list of finalizers into another, and
nothing comes back. -/
def Undisturbing (before after : List String) : Prop :=
  before ⊆ after ∧ ∀ finalizer ∈ after, finalizer ∈ before ∨ finalizer = finalizerName

/-- The patch puts the finalizers that were read, and its own, in place of those that
are stored. -/
theorem addFinalizer_stores {ctx : Schedule} {shard copy : APIShard} {state after : State}
    (ran : exec (addFinalizer ctx shard) state = (.ok copy, after)) :
    ∃ patched, after.cluster.registry.shards.find? shard.name = some patched ∧
      patched.finalizers = shard.finalizers ++ [finalizerName] := by
  rcases addFinalizer_cases ctx shard state with
    ⟨failure, failed⟩ | ⟨stored, patched, found, isPatched, patches⟩
  · rw [failed] at ran
    cases ran
  · rw [patches] at ran
    cases ran
    obtain ⟨_, sameName⟩ := Store.find?_eq_some.mp found
    have sameCopy : copy.name = shard.name := by
      rw [isPatched]
      exact sameName
    have inserted : ((state.edited ctx .addFinalizer).cluster.registry.write copy).shards.find?
        copy.name = some { copy with
          resourceVersion := (state.edited ctx .addFinalizer).cluster.registry.nextRevision } :=
      Store.find?_insert_self _ _
    rw [sameCopy] at inserted
    exact ⟨_, inserted, by rw [isPatched]⟩

/-- A pass reads a shard without its finalizer, other clients edit the finalizers, and
the patch succeeds.  Exactly when the finalizers of others are then those that were
read, none of them is lost and none comes back. -/
theorem patch_undisturbing_iff {ctx : Schedule} {name : String} {state read after : State}
    {shard stored copy : APIShard} (edits : List FinalizerEdit)
    (reads : exec (getShard ctx name) state = (.ok shard, read))
    (missing : finalizerName ∉ shard.finalizers)
    (found : ((read.disturbed name edits).edited ctx .addFinalizer).cluster.registry.shards.find?
      name = some stored)
    (patches : exec (ensureFinalizer ctx shard) (read.disturbed name edits) = (.ok copy, after)) :
    (∃ patched, after.cluster.registry.shards.find? name = some patched ∧
      Undisturbing stored.finalizers patched.finalizers) ↔
    ∀ finalizer, finalizer ≠ finalizerName →
      (finalizer ∈ shard.finalizers ↔ finalizer ∈ stored.finalizers) := by
  have sameName : shard.name = name := by
    rcases getShard_cases ctx name state with ⟨failure, failed⟩ | ⟨shard, isShard, ran⟩
    · rw [failed] at reads
      cases reads
    · rw [ran] at reads
      cases reads
      exact (Store.find?_eq_some.mp isShard).2
  rw [ensureFinalizer, if_neg missing] at patches
  obtain ⟨patched, isPatched, finalizers⟩ := addFinalizer_stores patches
  rw [sameName] at isPatched
  have exactly : (∃ patched, after.cluster.registry.shards.find? name = some patched ∧
      Undisturbing stored.finalizers patched.finalizers) ↔
      Undisturbing stored.finalizers (shard.finalizers ++ [finalizerName]) := by
    rw [isPatched, ← finalizers]
    simp
  rw [exactly]
  constructor
  · rintro ⟨kept, none⟩ finalizer other
    constructor
    · intro membership
      exact (none finalizer (List.mem_append_left _ membership)).resolve_right other
    · intro membership
      rcases List.mem_append.mp (kept membership) with earlier | own
      · exact earlier
      · exact absurd (List.mem_singleton.mp own) other
  · intro same
    refine ⟨?_, ?_⟩
    · intro finalizer membership
      by_cases own : finalizer = finalizerName
      · exact List.mem_append_right _ (List.mem_singleton.mpr own)
      · exact List.mem_append_left _ ((same finalizer own).mpr membership)
    · intro finalizer membership
      by_cases own : finalizer = finalizerName
      · exact .inr own
      · rcases List.mem_append.mp membership with earlier | last
        · exact .inl ((same finalizer own).mp earlier)
        · exact absurd (List.mem_singleton.mp last) own

/-- A shard that nobody has put a finalizer on yet. -/
def freshShard : APIShard where
  name := "a"
  uid := 0
  generation := 1
  resourceVersion := 0
  spec := plainSpec []

/-- A state in which the fresh shard is stored. -/
def freshState : State where
  cluster := { Cluster.bare with
    registry := Cluster.bare.registry.edit (.create "a" (plainSpec [])) }

/-- The state in which a pass that has read the fresh shard patches it, after other
clients have made these edits. -/
def patchWindow (edits : List FinalizerEdit) : State :=
  (freshState.edited {} .getShard).disturbed "a" edits

/-- The finalizers that are stored for the shard. -/
def State.finalizers (state : State) (name : String) : Option (List String) :=
  (state.cluster.registry.shards.find? name).map APIShard.finalizers

/-- The statement where another client adds a finalizer and takes it off again. -/
theorem patch_undisturbing_restored :
    ∃ patched, (exec (ensureFinalizer {} freshShard)
        (patchWindow [.add "other", .remove "other"])).2.cluster.registry.shards.find? "a" =
          some patched ∧ Undisturbing [] patched.finalizers := by
  have reads : exec (getShard {} "a") freshState =
      (.ok freshShard, freshState.edited {} .getShard) := rfl
  have found : ((patchWindow [.add "other", .remove "other"]).edited {}
      .addFinalizer).cluster.registry.shards.find? "a" =
        some { freshShard with resourceVersion := 2 } := rfl
  exact (patch_undisturbing_iff _ reads nofun found rfl).mpr fun _ _ => Iff.rfl

/-- A finalizer that another client adds between the read and the patch is lost. -/
theorem patch_loses_finalizer :
    (patchWindow [.add "other"]).finalizers "a" = some ["other"] ∧
      (exec (ensureFinalizer {} freshShard) (patchWindow [.add "other"])).2.finalizers "a" =
        some [finalizerName] := by
  decide +kernel

end KubeShard.Apishard
