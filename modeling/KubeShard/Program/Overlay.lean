import KubeShard.Program.Assign
import KubeShard.Program.Store

/-!
# Applying objects to a store

An applied object takes the place of the live one of its key and keeps a part of it.  A list of
objects with different keys decides what is stored under these keys, whatever the order, and
applying it once more changes nothing.
-/

namespace KubeShard

variable {α κ : Type} {key : α → κ}

/-- How an applied object is merged with a live one. -/
structure Merging (key : α → κ) (merge : α → α → α) : Prop where
  key : ∀ live object, key (merge live object) = key object
  again : ∀ live object, merge (merge live object) object = merge live object
  fresh : ∀ object, merge object object = object

namespace Store

variable [DecidableEq κ] {store : Store key} {merge : α → α → α}

/-- What becomes of an object that is applied to a store. -/
def merged (merge : α → α → α) (store : Store key) (object : α) : α :=
  match store.find? (key object) with
  | some live => merge live object
  | none => object

/-- The store with an object applied. -/
def overlay (merge : α → α → α) (object : α) (store : Store key) : Store key :=
  store.insert (store.merged merge object)

/-- The object is stored, up to what it leaves to the live one. -/
def Overlaid (merge : α → α → α) (object : α) (store : Store key) : Prop :=
  ∃ live, store.find? (key object) = some live ∧ merge live object = live

/-- Putting an object where it is already changes nothing. -/
theorem insert_of_find? {object : α} (found : store.find? (key object) = some object) :
    store.insert object = store := by
  have membership := (find?_eq_some.mp found).1
  apply ext
  rw [insert]
  dsimp only
  rw [if_pos (List.mem_map_of_mem membership)]
  calc store.items.map (fun other => if key other = key object then object else other)
      = store.items.map id := by
        apply List.map_congr_left
        intro other otherMembership
        split
        · next same => exact (eq_of_key_eq otherMembership membership same).symm
        · rfl
    _ = store.items := List.map_id _

/-- An object of a list with different keys is found by its key. -/
theorem find?_of_mem {objects : List α} (distinct : (objects.map key).Nodup) {object : α}
    (membership : object ∈ objects) : objects.find? (key · = key object) = some object := by
  cases found : objects.find? (key · = key object) with
  | none => exact absurd (List.find?_eq_none.mp found object membership) (by simp)
  | some other =>
      have same : key other = key object := by simpa using List.find?_some found
      rw [List.inj_on_of_nodup_map distinct (List.mem_of_find?_eq_some found) membership same]

section merging

variable (merging : Merging key merge)
include merging

theorem key_merged (store : Store key) (object : α) :
    key (store.merged merge object) = key object := by
  unfold merged
  split
  · exact merging.key _ _
  · rfl

theorem find?_overlay_self (store : Store key) (object : α) :
    (store.overlay merge object).find? (key object) = some (store.merged merge object) := by
  have found := find?_insert_self store (store.merged merge object)
  rwa [key_merged merging] at found

theorem find?_overlay_of_ne {object : α} {k : κ} (different : k ≠ key object) :
    (store.overlay merge object).find? k = store.find? k := by
  apply find?_insert_of_ne
  rwa [key_merged merging]

/-- Applying objects is assigning to the slots that are their keys. -/
theorem lawful_overlay : Assign.Lawful (overlay merge : α → Store key → Store key)
    (Overlaid merge) key where
  holds object store := by
    refine ⟨_, find?_overlay_self merging store object, ?_⟩
    unfold merged
    split
    · exact merging.again _ _
    · exact merging.fresh _
  keeps object other store different holds := by
    obtain ⟨live, found, same⟩ := holds
    exact ⟨live, (find?_overlay_of_ne merging different).trans found, same⟩
  settled object store holds := by
    obtain ⟨live, found, same⟩ := holds
    have isMerged : store.merged merge object = live := by
      rw [merged, found]
      exact same
    have isKey : key live = key object := (find?_eq_some.mp found).2
    rw [overlay, isMerged]
    exact insert_of_find? (isKey ▸ found)

/-- Objects of other keys stay. -/
theorem find?_overlayAll_of_notMem {objects : List α} {k : κ} (other : k ∉ objects.map key)
    (store : Store key) :
    (Assign.applyAll (overlay merge) objects store).find? k = store.find? k := by
  induction objects generalizing store with
  | nil => rfl
  | cons first rest ih =>
      rw [List.map_cons, List.mem_cons, not_or] at other
      exact (ih other.2 _).trans (find?_overlay_of_ne merging other.1)

/-- The last object of a key decides what is stored under it. -/
theorem find?_overlayAll_of_mem {objects : List α} {k : κ} (membership : k ∈ objects.map key)
    (store : Store key) :
    ∃ object ∈ objects, key object = k ∧ ∃ earlier : Store key,
      (Assign.applyAll (overlay merge) objects store).find? k =
        some (earlier.merged merge object) := by
  induction objects generalizing store with
  | nil => cases membership
  | cons first rest ih =>
      by_cases later : k ∈ rest.map key
      · obtain ⟨object, inRest, found⟩ := ih later (store.overlay merge first)
        exact ⟨object, List.mem_cons_of_mem _ inRest, found⟩
      · obtain rfl := (List.mem_cons.mp membership).resolve_right later
        exact ⟨first, List.mem_cons_self, rfl, store,
          (find?_overlayAll_of_notMem merging later _).trans (find?_overlay_self merging _ _)⟩

/-- What is stored when all objects of a list are applied. -/
theorem find?_overlayAll {objects : List α} (distinct : (objects.map key).Nodup)
    (store : Store key) (k : κ) :
    (Assign.applyAll (overlay merge) objects store).find? k =
      match objects.find? (key · = k) with
      | some object => some (store.merged merge object)
      | none => store.find? k := by
  induction objects generalizing store with
  | nil => rfl
  | cons first rest ih =>
      rw [List.map_cons, List.nodup_cons] at distinct
      rw [Assign.applyAll_cons, ih distinct.2]
      by_cases isKey : key first = k
      · have later : rest.find? (key · = k) = none := by
          rw [List.find?_eq_none]
          intro object membership same
          have same : key object = k := by simpa using same
          exact distinct.1 (isKey.trans same.symm ▸ List.mem_map_of_mem membership)
        rw [later, List.find?_cons_of_pos (by simpa using isKey)]
        subst isKey
        exact find?_overlay_self merging store first
      · rw [List.find?_cons_of_neg (by simpa using isKey),
          find?_overlay_of_ne merging (Ne.symm isKey)]
        cases found : rest.find? (key · = k) with
        | none => rfl
        | some object =>
            have other : key object ≠ key first := by
              intro same
              exact distinct.1 (same ▸ List.mem_map_of_mem (List.mem_of_find?_eq_some found))
            dsimp only
            rw [merged, merged, find?_overlay_of_ne merging other]

end merging

end Store

end KubeShard
