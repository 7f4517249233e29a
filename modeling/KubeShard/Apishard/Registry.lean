import KubeShard.Apishard.Pass

/-!
# Stored shards under edits and writes

UIDs and resource versions are given out once.  So a stored shard that still has
the resource version a pass has read is the shard the pass has read, whatever
users did in between, and users never change a status.
-/

namespace KubeShard.Apishard

/-- A later version of a shard has a higher generation, unless it has the same spec. -/
def APIShard.Before (old new : APIShard) : Prop :=
  old.generation < new.generation ∨ old.generation = new.generation ∧ old.spec = new.spec

theorem APIShard.Before.trans {first second third : APIShard} (left : first.Before second)
    (right : second.Before third) : first.Before third := by
  rcases left with older | ⟨same, spec⟩
  · left
    rcases right with later | ⟨equal, _⟩ <;> omega
  · rcases right with later | ⟨equal, laterSpec⟩
    · left
      omega
    · exact .inr ⟨same.trans equal, spec.trans laterSpec⟩

namespace Registry

/-! ## Well-formed registries -/

/-- All UIDs and resource versions in use were given out by the server, and no
two stored shards share a UID. -/
structure Wf (registry : Registry) : Prop where
  uid : ∀ stored ∈ registry.shards.items, stored.uid < registry.nextUID
  revision : ∀ stored ∈ registry.shards.items, stored.resourceVersion < registry.nextRevision
  distinct : ∀ left ∈ registry.shards.items, ∀ right ∈ registry.shards.items,
    left.uid = right.uid → left = right

/-- Replacing a stored shard by one of the same name and UID. -/
theorem Wf.replace {registry : Registry} (wf : registry.Wf) {old new : APIShard}
    (stored : old ∈ registry.shards.items) (name : new.name = old.name)
    (uid : new.uid = old.uid) {nextRevision : Nat}
    (later : registry.nextRevision ≤ nextRevision) (revision : new.resourceVersion < nextRevision) :
    Wf { registry with shards := registry.shards.insert new, nextRevision := nextRevision } where
  uid := by
    intro shard membership
    rcases Store.mem_insert.mp membership with rfl | ⟨other, _⟩
    · exact uid ▸ wf.uid old stored
    · exact wf.uid shard other
  revision := by
    intro shard membership
    rcases Store.mem_insert.mp membership with rfl | ⟨other, _⟩
    · exact revision
    · exact Nat.lt_of_lt_of_le (wf.revision shard other) later
  distinct := by
    intro left leftMem right rightMem equal
    rcases Store.mem_insert.mp leftMem with rfl | ⟨leftOld, leftName⟩
    · rcases Store.mem_insert.mp rightMem with rfl | ⟨rightOld, rightName⟩
      · rfl
      · have same := wf.distinct old stored right rightOld (uid ▸ equal)
        exact absurd (same ▸ name.symm) rightName
    · rcases Store.mem_insert.mp rightMem with rfl | ⟨rightOld, _⟩
      · have same := wf.distinct left leftOld old stored (equal.trans uid)
        exact absurd (same ▸ name.symm) leftName
      · exact wf.distinct left leftOld right rightOld equal

theorem Wf.write {registry : Registry} (wf : registry.Wf) {old new : APIShard}
    (stored : old ∈ registry.shards.items) (name : new.name = old.name)
    (uid : new.uid = old.uid) : (registry.write new).Wf := by
  apply wf.replace stored _ _ (Nat.le_succ _)
  · exact Nat.lt_succ_self _
  · exact name
  · exact uid

theorem Wf.erase {registry : Registry} (wf : registry.Wf) (name : String) :
    Wf { registry with shards := registry.shards.erase name } where
  uid := fun shard membership => wf.uid shard (Store.mem_erase.mp membership).1
  revision := fun shard membership => wf.revision shard (Store.mem_erase.mp membership).1
  distinct := fun left leftMem right rightMem =>
    wf.distinct left (Store.mem_erase.mp leftMem).1 right (Store.mem_erase.mp rightMem).1

theorem Wf.edit {registry : Registry} (wf : registry.Wf) (edit : ShardEdit) :
    (registry.edit edit).Wf := by
  cases edit with
  | create name spec =>
      simp only [Registry.edit]
      split
      · exact wf
      · refine ⟨?_, ?_, ?_⟩
        · intro shard membership
          rcases Store.mem_insert.mp membership with rfl | ⟨old, _⟩
          · exact Nat.lt_succ_self _
          · exact Nat.lt_succ_of_lt (wf.uid shard old)
        · intro shard membership
          rcases Store.mem_insert.mp membership with rfl | ⟨old, _⟩
          · exact Nat.lt_succ_self _
          · exact Nat.lt_succ_of_lt (wf.revision shard old)
        · intro left leftMem right rightMem equal
          rcases Store.mem_insert.mp leftMem with rfl | ⟨leftOld, _⟩
          · rcases Store.mem_insert.mp rightMem with rfl | ⟨rightOld, _⟩
            · rfl
            · exact absurd equal.symm (Nat.ne_of_lt (wf.uid right rightOld))
          · rcases Store.mem_insert.mp rightMem with rfl | ⟨rightOld, _⟩
            · exact absurd equal (Nat.ne_of_lt (wf.uid left leftOld))
            · exact wf.distinct left leftOld right rightOld equal
  | editSpec name spec =>
      simp only [Registry.edit]
      split
      · exact wf
      · next stored found => exact wf.write (Store.find?_eq_some.mp found).1 rfl rfl
  | delete name =>
      simp only [Registry.edit]
      split
      · exact wf
      · next stored found =>
          split
          · exact wf.erase name
          · split
            · exact wf
            · exact wf.write (Store.find?_eq_some.mp found).1 rfl rfl

theorem Wf.edits {registry : Registry} (wf : registry.Wf) (edits : List ShardEdit) :
    (registry.edits edits).Wf := by
  induction edits generalizing registry with
  | nil => exact wf
  | cons edit rest ih => exact ih (wf.edit edit)

/-! ## What edits do to stored shards -/

/-- What edits can turn one registry into: a stored shard is untouched, or it has
a new resource version and is an older shard with its status, or it is new. -/
structure Follows (before after : Registry) : Prop where
  nextUID : before.nextUID ≤ after.nextUID
  nextRevision : before.nextRevision ≤ after.nextRevision
  stored : ∀ shard ∈ after.shards.items, shard ∈ before.shards.items ∨
    before.nextRevision ≤ shard.resourceVersion ∧
      ((∃ old ∈ before.shards.items,
          old.name = shard.name ∧ old.uid = shard.uid ∧ old.status = shard.status ∧
            old.Before shard) ∨
        before.nextUID ≤ shard.uid ∧ shard.status = {})

namespace Follows

theorem refl (registry : Registry) : Follows registry registry :=
  ⟨Nat.le_refl _, Nat.le_refl _, fun _ membership => .inl membership⟩

theorem trans {first second third : Registry} (left : Follows first second)
    (right : Follows second third) : Follows first third where
  nextUID := Nat.le_trans left.nextUID right.nextUID
  nextRevision := Nat.le_trans left.nextRevision right.nextRevision
  stored := by
    intro shard membership
    rcases right.stored shard membership with earlier | ⟨revision, origin⟩
    · exact left.stored shard earlier
    · refine .inr ⟨Nat.le_trans left.nextRevision revision, ?_⟩
      rcases origin with ⟨middle, middleMem, name, uid, status, later⟩ | ⟨uid, status⟩
      · rcases left.stored middle middleMem with earlier | ⟨_, origin⟩
        · exact .inl ⟨middle, earlier, name, uid, status, later⟩
        · rcases origin with
            ⟨old, oldMem, oldName, oldUid, oldStatus, older⟩ | ⟨newUid, newStatus⟩
          · exact .inl ⟨old, oldMem, oldName.trans name, oldUid.trans uid,
              oldStatus.trans status, older.trans later⟩
          · exact .inr ⟨uid ▸ newUid, status ▸ newStatus⟩
      · exact .inr ⟨Nat.le_trans left.nextUID uid, status⟩

/-- Every stored shard has the status it had before, or the empty one. -/
theorem status {before after : Registry} (follows : Follows before after) {shard : APIShard}
    (membership : shard ∈ after.shards.items) :
    (∃ old ∈ before.shards.items, old.uid = shard.uid ∧ old.status = shard.status) ∨
      before.nextUID ≤ shard.uid ∧ shard.status = {} := by
  rcases follows.stored shard membership with earlier | ⟨_, origin⟩
  · exact .inl ⟨shard, earlier, rfl, rfl⟩
  · rcases origin with ⟨old, oldMem, _, uid, status, _⟩ | new
    · exact .inl ⟨old, oldMem, uid, status⟩
    · exact .inr new

/-- A shard of a name has the status it had before, or the empty one. -/
theorem find?_status {before after : Registry} (follows : Follows before after) {name : String}
    {stored : APIShard} (found : after.shards.find? name = some stored) :
    stored.status = {} ∨
      ∃ shard, before.shards.find? name = some shard ∧ stored.status = shard.status := by
  obtain ⟨membership, isName⟩ := Store.find?_eq_some.mp found
  rcases follows.stored stored membership with
    earlier | ⟨_, ⟨old, earlier, sameName, _, sameStatus, _⟩ | ⟨_, empty⟩⟩
  · exact .inr ⟨stored, Store.find?_eq_some.mpr ⟨earlier, isName⟩, rfl⟩
  · exact .inr ⟨old, Store.find?_eq_some.mpr ⟨earlier, sameName.trans isName⟩, sameStatus.symm⟩
  · exact .inl empty

/-- A stored shard replaced under a new resource version. -/
theorem write {registry : Registry} {old new : APIShard}
    (stored : old ∈ registry.shards.items) (name : new.name = old.name)
    (uid : new.uid = old.uid) (status : new.status = old.status) (older : old.Before new) :
    Follows registry (registry.write new) where
  nextUID := Nat.le_refl _
  nextRevision := Nat.le_succ _
  stored := by
    intro shard membership
    rcases Store.mem_insert.mp membership with rfl | ⟨earlier, _⟩
    · exact .inr ⟨Nat.le_refl _, .inl ⟨old, stored, name.symm, uid.symm, status.symm, older⟩⟩
    · exact .inl earlier

theorem erase (registry : Registry) (name : String) :
    Follows registry { registry with shards := registry.shards.erase name } :=
  ⟨Nat.le_refl _, Nat.le_refl _, fun _ membership => .inl (Store.mem_erase.mp membership).1⟩

end Follows

theorem follows_edit (registry : Registry) (edit : ShardEdit) :
    Follows registry (registry.edit edit) := by
  cases edit with
  | create name spec =>
      simp only [Registry.edit]
      split
      · exact .refl registry
      · refine ⟨Nat.le_succ _, Nat.le_succ _, ?_⟩
        intro shard membership
        rcases Store.mem_insert.mp membership with rfl | ⟨earlier, _⟩
        · exact .inr ⟨Nat.le_refl _, .inr ⟨Nat.le_refl _, rfl⟩⟩
        · exact .inl earlier
  | editSpec name spec =>
      simp only [Registry.edit]
      split
      · exact .refl registry
      · next stored found =>
          refine .write (Store.find?_eq_some.mp found).1 rfl rfl rfl ?_
          dsimp only [APIShard.Before]
          split
          · next same => exact .inr ⟨rfl, same⟩
          · exact .inl (Nat.lt_succ_self _)
  | delete name =>
      simp only [Registry.edit]
      split
      · exact .refl registry
      · next stored found =>
          split
          · exact .erase registry name
          · split
            · exact .refl registry
            · exact .write (Store.find?_eq_some.mp found).1 rfl rfl rfl
                (.inl (Nat.lt_succ_self _))

theorem follows_edits (registry : Registry) (edits : List ShardEdit) :
    Follows registry (registry.edits edits) := by
  induction edits generalizing registry with
  | nil => exact .refl registry
  | cons edit rest ih => exact (follows_edit registry edit).trans (ih _)

end Registry

/-- The name of the shard an edit is about. -/
def ShardEdit.name : ShardEdit → String
  | .create name _ | .editSpec name _ | .delete name => name

namespace Registry

/-- Edits of other shards leave a shard alone. -/
theorem find?_edit_of_ne (registry : Registry) {edit : ShardEdit} {name : String}
    (other : edit.name ≠ name) :
    (registry.edit edit).shards.find? name = registry.shards.find? name := by
  cases edit with
  | create edited spec =>
      simp only [Registry.edit]
      split
      · rfl
      · exact Store.find?_insert_of_ne (Ne.symm other)
  | editSpec edited spec =>
      simp only [Registry.edit]
      split
      · rfl
      · next stored found =>
          apply Store.find?_insert_of_ne
          rw [(Store.find?_eq_some.mp found).2]
          exact Ne.symm other
  | delete edited =>
      simp only [Registry.edit]
      split
      · rfl
      · next stored found =>
          split
          · exact Store.find?_erase_of_ne (Ne.symm other)
          · split
            · rfl
            · apply Store.find?_insert_of_ne
              rw [(Store.find?_eq_some.mp found).2]
              exact Ne.symm other

theorem find?_edits_of_ne (registry : Registry) {edits : List ShardEdit} {name : String}
    (others : ∀ edit ∈ edits, edit.name ≠ name) :
    (registry.edits edits).shards.find? name = registry.shards.find? name := by
  induction edits generalizing registry with
  | nil => rfl
  | cons edit rest ih =>
      calc (registry.edits (edit :: rest)).shards.find? name
          = (registry.edit edit).shards.find? name :=
            ih _ fun later membership => others later (List.mem_cons_of_mem _ membership)
        _ = registry.shards.find? name :=
            find?_edit_of_ne registry (others edit List.mem_cons_self)

/-! ## Registries that follow by edits of a kind -/

/-- One registry follows from another by edits of a kind. -/
def EditedBy (allowed : ShardEdit → Prop) (before after : Registry) : Prop :=
  ∃ edits, (∀ edit ∈ edits, allowed edit) ∧ after = before.edits edits

namespace EditedBy

variable {allowed : ShardEdit → Prop} {before after : Registry}

theorem refl (registry : Registry) : EditedBy allowed registry registry :=
  ⟨[], by simp, rfl⟩

theorem trans {first second third : Registry} (left : EditedBy allowed first second)
    (right : EditedBy allowed second third) : EditedBy allowed first third := by
  obtain ⟨leftEdits, leftAllowed, rfl⟩ := left
  obtain ⟨rightEdits, rightAllowed, rfl⟩ := right
  refine ⟨leftEdits ++ rightEdits, ?_, ?_⟩
  · intro edit membership
    rcases List.mem_append.mp membership with inLeft | inRight
    · exact leftAllowed edit inLeft
    · exact rightAllowed edit inRight
  · rw [edits, edits, edits, List.foldl_append]

theorem follows (edited : EditedBy allowed before after) : Follows before after := by
  obtain ⟨edits, _, rfl⟩ := edited
  exact follows_edits before edits

theorem wf (edited : EditedBy allowed before after) (wf : before.Wf) : after.Wf := by
  obtain ⟨edits, _, rfl⟩ := edited
  exact wf.edits edits

end EditedBy

end Registry

/-! ## The copy a pass works on -/

/-- A stored shard that still has the resource version of the copy differs from it
in its status at most. -/
structure Current (copy : APIShard) (resourceVersion : Nat) (registry : Registry) : Prop where
  given : resourceVersion < registry.nextRevision
  agrees : ∀ stored ∈ registry.shards.items, stored.name = copy.name →
    stored.resourceVersion = resourceVersion →
    stored = { copy with status := stored.status, resourceVersion := resourceVersion }

theorem Current.follows {copy : APIShard} {resourceVersion : Nat} {before after : Registry}
    (current : Current copy resourceVersion before) (follows : before.Follows after) :
    Current copy resourceVersion after where
  given := Nat.lt_of_lt_of_le current.given follows.nextRevision
  agrees := by
    intro stored membership name revision
    rcases follows.stored stored membership with earlier | ⟨later, _⟩
    · exact current.agrees stored earlier name revision
    · have := current.given
      omega

section persist

variable {copy stored : APIShard} {state : State}

theorem Registry.updated_revision (registry : Registry) (status : APIShardStatus)
    (given : stored.resourceVersion < registry.nextRevision) :
    (registry.updated stored status).resourceVersion < registry.nextRevision + 1 := by
  simp only [Registry.updated]
  split <;> omega

theorem Registry.Wf.persist (wf : state.cluster.registry.Wf)
    (membership : stored ∈ state.cluster.registry.shards.items) :
    (state.persist stored).cluster.registry.Wf := by
  apply wf.replace membership _ _ (Nat.le_succ _)
  · exact Registry.updated_revision _ _ (wf.revision stored membership)
  · rfl
  · rfl

/-- A status write leaves the copy current under the new resource version. -/
theorem Current.persist (current : Current copy state.resourceVersion state.cluster.registry)
    (membership : stored ∈ state.cluster.registry.shards.items) (name : stored.name = copy.name)
    (fresh : stored.resourceVersion = state.resourceVersion) :
    Current copy (state.persist stored).resourceVersion
      (state.persist stored).cluster.registry where
  given := Registry.updated_revision _ _ (fresh ▸ current.given)
  agrees := by
    intro other otherMem otherName _
    rcases Store.mem_insert.mp otherMem with rfl | ⟨_, different⟩
    · have same := current.agrees stored membership name fresh
      rw [Registry.updated, same]
      rfl
    · exact absurd (otherName.trans name.symm) different

end persist

end KubeShard.Apishard
