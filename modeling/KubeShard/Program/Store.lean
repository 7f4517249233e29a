import Mathlib.Data.List.Nodup

/-!
# Stores of keyed objects

A store lists objects that carry their own key, and no two of its objects share
one.  Uniqueness is a field of the store, so looking an object up, replacing it
and removing it never have to say which of several candidates they mean.  The
order of the list is the order in which a listing returns the objects.
-/

namespace KubeShard

/-- Objects identified by the key each of them carries. -/
structure Store {α κ : Type} (key : α → κ) where
  items : List α
  nodup : (items.map key).Nodup

namespace Store

variable {α κ : Type} {key : α → κ}

/-- The keys that are in use. -/
def keys (store : Store key) : List κ := store.items.map key

/-- A store with no objects. -/
def empty : Store key := ⟨[], .nil⟩

instance : Inhabited (Store key) := ⟨empty⟩

@[ext] theorem ext {left right : Store key} (equal : left.items = right.items) :
    left = right := by
  cases left
  cases right
  cases equal
  rfl

theorem mem_keys {store : Store key} {k : κ} :
    k ∈ store.keys ↔ ∃ object ∈ store.items, key object = k := by
  simp [keys]

/-- Two listed objects with one key are the same object. -/
theorem eq_of_key_eq {store : Store key} {left right : α}
    (leftMem : left ∈ store.items) (rightMem : right ∈ store.items)
    (equal : key left = key right) : left = right :=
  List.inj_on_of_nodup_map store.nodup leftMem rightMem equal

variable [DecidableEq κ]

/-- The object with the given key. -/
def find? (store : Store key) (k : κ) : Option α :=
  store.items.find? fun object => key object = k

/-- A key has at most one object. -/
theorem length_filter_key (store : Store key) (k : κ) :
    (store.items.filter fun object => key object = k).length ≤ 1 := by
  have once := List.nodup_iff_count_le_one.mp store.nodup k
  rw [List.count, List.countP_map, List.countP_eq_length_filter] at once
  exact once

theorem map_key_replace (object : α) (items : List α) :
    (items.map fun other => if key other = key object then object else other).map key =
      items.map key := by
  rw [List.map_map]
  apply List.map_congr_left
  intro other _
  by_cases equal : key other = key object <;> simp [equal]

/-- Put an object in the place of the one with its key, or at the end. -/
def insert (store : Store key) (object : α) : Store key where
  items :=
    if key object ∈ store.items.map key then
      store.items.map fun other => if key other = key object then object else other
    else
      store.items ++ [object]
  nodup := by
    split
    next =>
      rw [map_key_replace]
      exact store.nodup
    next fresh =>
      rw [List.map_append, List.nodup_append]
      refine ⟨store.nodup, by simp, ?_⟩
      intro used usedMem other otherMem equal
      rw [List.map_singleton, List.mem_singleton] at otherMem
      exact fresh (otherMem ▸ equal ▸ usedMem)

/-- Remove the object with the given key. -/
def erase (store : Store key) (k : κ) : Store key where
  items := store.items.filter fun object => key object ≠ k
  nodup := by
    exact store.nodup.sublist (List.filter_sublist.map key)

theorem find?_eq_some {store : Store key} {k : κ} {object : α} :
    store.find? k = some object ↔ object ∈ store.items ∧ key object = k := by
  constructor
  · intro found
    exact ⟨List.mem_of_find?_eq_some found, by simpa using List.find?_some found⟩
  · rintro ⟨membership, rfl⟩
    cases found : store.find? (key object) with
    | none =>
        have absent := List.find?_eq_none.mp found object membership
        simp at absent
    | some other =>
        have otherMem := List.mem_of_find?_eq_some found
        have otherKey : key other = key object := by simpa using List.find?_some found
        rw [eq_of_key_eq otherMem membership otherKey]

theorem find?_eq_none {store : Store key} {k : κ} :
    store.find? k = none ↔ k ∉ store.keys := by
  simp [find?, keys, List.find?_eq_none]

theorem mem_insert {store : Store key} {object other : α} :
    other ∈ (store.insert object).items ↔
      other = object ∨ (other ∈ store.items ∧ key other ≠ key object) := by
  simp only [insert]
  split
  next used =>
    obtain ⟨old, oldMem, oldKey⟩ := List.mem_map.mp used
    simp only [List.mem_map]
    constructor
    · rintro ⟨source, sourceMem, rfl⟩
      by_cases equal : key source = key object
      · simp [equal]
      · simp [equal, sourceMem]
    · rintro (rfl | ⟨membership, different⟩)
      · exact ⟨old, oldMem, by simp [oldKey]⟩
      · exact ⟨other, membership, by simp [different]⟩
  next fresh =>
    simp only [List.mem_append, List.mem_singleton]
    constructor
    · rintro (membership | rfl)
      · refine .inr ⟨membership, fun equal => fresh ?_⟩
        exact List.mem_map.mpr ⟨other, membership, equal⟩
      · exact .inl rfl
    · rintro (rfl | ⟨membership, _⟩)
      · exact .inr rfl
      · exact .inl membership

theorem mem_erase {store : Store key} {k : κ} {object : α} :
    object ∈ (store.erase k).items ↔ object ∈ store.items ∧ key object ≠ k := by
  simp [erase]

theorem mem_keys_insert {store : Store key} {object : α} {k : κ} :
    k ∈ (store.insert object).keys ↔ k = key object ∨ k ∈ store.keys := by
  simp only [mem_keys, mem_insert]
  constructor
  · rintro ⟨other, rfl | ⟨membership, _⟩, rfl⟩
    · exact .inl rfl
    · exact .inr ⟨other, membership, rfl⟩
  · rintro (rfl | ⟨other, membership, rfl⟩)
    · exact ⟨object, .inl rfl, rfl⟩
    · by_cases equal : key other = key object
      · exact ⟨object, .inl rfl, equal.symm⟩
      · exact ⟨other, .inr ⟨membership, equal⟩, rfl⟩

/-- Replacing an object keeps its place in the listing; a new one comes last. -/
theorem keys_insert (store : Store key) (object : α) :
    (store.insert object).keys =
      if key object ∈ store.keys then store.keys else store.keys ++ [key object] := by
  by_cases used : key object ∈ store.items.map key
  · simp only [keys, insert, used, if_true]
    exact map_key_replace object store.items
  · simp only [keys, insert, used, if_false, List.map_append, List.map_singleton]

theorem mem_keys_erase {store : Store key} {k erased : κ} :
    k ∈ (store.erase erased).keys ↔ k ∈ store.keys ∧ k ≠ erased := by
  simp only [mem_keys, mem_erase]
  constructor
  · rintro ⟨object, ⟨membership, different⟩, rfl⟩
    exact ⟨⟨object, membership, rfl⟩, different⟩
  · rintro ⟨⟨object, membership, rfl⟩, different⟩
    exact ⟨object, ⟨membership, different⟩, rfl⟩

theorem find?_insert_self (store : Store key) (object : α) :
    (store.insert object).find? (key object) = some object :=
  find?_eq_some.mpr ⟨mem_insert.mpr (.inl rfl), rfl⟩

theorem find?_insert_of_ne {store : Store key} {object : α} {k : κ}
    (different : k ≠ key object) :
    (store.insert object).find? k = store.find? k := by
  ext other
  rw [find?_eq_some, find?_eq_some, mem_insert]
  constructor
  · rintro ⟨rfl | ⟨membership, _⟩, rfl⟩
    · exact absurd rfl different
    · exact ⟨membership, rfl⟩
  · rintro ⟨membership, rfl⟩
    exact ⟨.inr ⟨membership, different⟩, rfl⟩

theorem find?_erase_self (store : Store key) (k : κ) :
    (store.erase k).find? k = none :=
  find?_eq_none.mpr fun membership => (mem_keys_erase.mp membership).2 rfl

theorem find?_erase_of_ne {store : Store key} {k erased : κ}
    (different : k ≠ erased) :
    (store.erase erased).find? k = store.find? k := by
  ext object
  rw [find?_eq_some, find?_eq_some, mem_erase]
  constructor
  · rintro ⟨⟨membership, _⟩, equal⟩
    exact ⟨membership, equal⟩
  · rintro ⟨membership, rfl⟩
    exact ⟨⟨membership, different⟩, rfl⟩

end Store

end KubeShard
