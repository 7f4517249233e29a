import KubeShard.Resources.Postgresql

/-!
# The volumes of the in-cluster database

A StatefulSet that is aligned with the live one again and again keeps what it was
created with: a claim template for its data, or an `emptyDir`.  Around that the
volumes are always the same, so that every mount has exactly one source.
-/

namespace KubeShard.Resources

open Apishard

/-- The API server may name a class of its own where none was requested. -/
def ClassDefaults (applied stored : Option String) : Prop :=
  stored = applied ∨ applied = none ∧ ∃ storageClass, storageClass ≠ "" ∧ stored = some storageClass

/-- A class that was defaulted is not defaulted again. -/
theorem ClassDefaults.trans {applied stored again : Option String}
    (first : ClassDefaults applied stored) (second : ClassDefaults stored again) :
    ClassDefaults applied again := by
  rcases second with rfl | ⟨rfl, storageClass, named, rfl⟩
  · exact first
  · rcases first with rfl | ⟨_, _, _, impossible⟩
    · exact .inr ⟨rfl, storageClass, named, rfl⟩
    · cases impossible

/-- A claim template as the API server may store it. -/
structure ClaimDefaults (applied stored : VolumeClaimTemplate) : Prop where
  name : stored.name = applied.name
  size : stored.size = applied.size
  storageClassName : ClassDefaults applied.storageClassName stored.storageClassName

/-- A StatefulSet as the API server may store it. -/
structure Defaults (applied stored : StatefulSet) : Prop where
  template : stored.template = applied.template
  claims : List.Forall₂ ClaimDefaults applied.volumeClaimTemplates stored.volumeClaimTemplates

/-- The `emptyDir` for the data. -/
def dataVolume : Volume := ⟨"data", .emptyDir⟩

/-- The volumes beside the data. -/
def fixedVolumes (name : String) : List Volume := [
  ⟨"tmp", .emptyDir⟩,
  ⟨"postgresql-tls", .secret (name ++ "-postgresql-serving-cert")
    [⟨"tls.crt", "tls.crt"⟩, ⟨"tls.key", "tls.key"⟩, ⟨caCertKey, caCertKey⟩]⟩,
  ⟨"init-scripts", .configMap (name ++ "-postgresql-init")⟩]

/-- The volume mounts of the container. -/
def postgreSQLVolumeMounts : List VolumeMount := [
  ⟨"data", "/var/lib/postgresql/data"⟩,
  ⟨"tmp", "/tmp"⟩,
  ⟨"postgresql-tls", "/etc/postgresql/tls"⟩,
  ⟨"init-scripts", "/docker-entrypoint-initdb.d"⟩]

/-- A StatefulSet that was created for this persistence, and aligned ever since. -/
inductive Descends (name : String) : Option PersistenceSpec → StatefulSet → Prop where
  | persistent {persistence : PersistenceSpec} {set : StatefulSet} {storageClass : Option String}
      (mounts : set.template.volumeMounts = postgreSQLVolumeMounts)
      (volumes : set.template.volumes = fixedVolumes name)
      (defaults : ClassDefaults persistence.storageClassName storageClass)
      (claims : set.volumeClaimTemplates = [⟨"data", storageClass, persistence.size⟩]) :
      Descends name (some persistence) set
  | ephemeral {set : StatefulSet}
      (mounts : set.template.volumeMounts = postgreSQLVolumeMounts)
      (volumes : set.template.volumes = dataVolume :: fixedVolumes name ∨
        set.template.volumes = fixedVolumes name ++ [dataVolume])
      (claims : set.volumeClaimTemplates = []) : Descends name none set

theorem descends_build (shard : APIShard) :
    Descends shard.name shard.spec.storage.persistence (buildPostgreSQLStatefulSet shard) := by
  unfold buildPostgreSQLStatefulSet postgreSQLVolumeClaimTemplates
  cases shard.spec.storage.persistence with
  | none => exact .ephemeral rfl (.inl rfl) rfl
  | some persistence => exact .persistent rfl rfl (.inl rfl) rfl

/-- The volumes of a StatefulSet that is built. -/
theorem volumes_build (shard : APIShard) :
    (buildPostgreSQLStatefulSet shard).template.volumes = fixedVolumes shard.name ∨
      (buildPostgreSQLStatefulSet shard).template.volumes =
        dataVolume :: fixedVolumes shard.name := by
  unfold buildPostgreSQLStatefulSet
  cases shard.spec.storage.persistence with
  | none => exact .inr rfl
  | some persistence => exact .inl rfl

namespace Descends

variable {name : String} {origin : Option PersistenceSpec} {set : StatefulSet}

/-- Whatever the spec requests now, alignment keeps what the StatefulSet was created
with. -/
theorem align {shard : APIShard} (descends : Descends shard.name origin set) :
    Descends shard.name origin
      (alignPostgreSQLVolumeClaims (buildPostgreSQLStatefulSet shard) set) := by
  cases descends with
  | persistent mounts volumes defaults claims =>
      refine .persistent rfl ?_ defaults claims
      unfold alignPostgreSQLVolumeClaims
      rcases volumes_build shard with built | built <;>
        simp [built, claims, fixedVolumes, dataVolume]
  | ephemeral mounts volumes claims =>
      refine .ephemeral rfl ?_ claims
      unfold alignPostgreSQLVolumeClaims
      rcases volumes_build shard with built | built <;> rcases volumes with live | live <;>
        simp [built, live, claims, fixedVolumes, dataVolume]

/-- Storing keeps the descent. -/
theorem defaults {stored : StatefulSet} (descends : Descends name origin set)
    (defaulted : Defaults set stored) : Descends name origin stored := by
  have claimed := defaulted.claims
  cases descends with
  | persistent mounts volumes chosen claims =>
      rw [claims] at claimed
      obtain ⟨claim, rest, first, others, isClaims⟩ := List.forall₂_cons_left_iff.mp claimed
      obtain rfl := List.forall₂_nil_left_iff.mp others
      obtain ⟨claimName, storageClass, size⟩ := claim
      obtain rfl : claimName = "data" := first.name
      obtain rfl : size = _ := first.size
      exact .persistent (defaulted.template ▸ mounts) (defaulted.template ▸ volumes)
        (chosen.trans first.storageClassName) isClaims
  | ephemeral mounts volumes claims =>
      rw [claims] at claimed
      exact .ephemeral (defaulted.template ▸ mounts) (defaulted.template ▸ volumes)
        (List.forall₂_nil_left_iff.mp claimed)

end Descends

/-! ## What a StatefulSet provides -/

/-- The names of all sources of volumes. -/
def volumeSources (set : StatefulSet) : List String :=
  set.template.volumes.map Volume.name ++ set.volumeClaimTemplates.map VolumeClaimTemplate.name

/-- Every mount has exactly one source, and the data is kept as it was at creation. -/
structure Provided (origin : Option PersistenceSpec) (set : StatefulSet) : Prop where
  distinct : (volumeSources set).Nodup
  mounts : set.template.volumeMounts = postgreSQLVolumeMounts
  provided : ∀ mount ∈ set.template.volumeMounts, (volumeSources set).count mount.name = 1
  claimed : "data" ∈ set.volumeClaimTemplates.map VolumeClaimTemplate.name ↔ origin.isSome
  ephemeral : dataVolume ∈ set.template.volumes ↔ origin = none

theorem Descends.provided {name : String} {origin : Option PersistenceSpec} {set : StatefulSet}
    (descends : Descends name origin set) : Provided origin set := by
  have covered {sources : List String} (order : sources.Perm
      ["data", "tmp", "postgresql-tls", "init-scripts"]) :
      sources.Nodup ∧ ∀ mount ∈ postgreSQLVolumeMounts, sources.count mount.name = 1 := by
    refine ⟨order.nodup_iff.mpr (by decide), fun mount membership => ?_⟩
    rw [order.count_eq]
    revert mount
    decide
  cases descends with
  | persistent mounts volumes defaults claims =>
      have order : (volumeSources set).Perm ["data", "tmp", "postgresql-tls", "init-scripts"] := by
        rw [volumeSources, volumes, claims]
        show ["tmp", "postgresql-tls", "init-scripts", "data"].Perm _
        decide
      exact ⟨(covered order).1, mounts, mounts ▸ (covered order).2, by simp [claims],
        by simp [volumes, fixedVolumes, dataVolume]⟩
  | ephemeral mounts volumes claims =>
      have order : (volumeSources set).Perm ["data", "tmp", "postgresql-tls", "init-scripts"] := by
        rw [volumeSources, claims]
        rcases volumes with volumes | volumes <;> rw [volumes]
        · exact .refl ["data", "tmp", "postgresql-tls", "init-scripts"]
        · show ["tmp", "postgresql-tls", "init-scripts", "data"].Perm _
          decide
      refine ⟨(covered order).1, mounts, mounts ▸ (covered order).2, by simp [claims], ?_⟩
      rcases volumes with volumes | volumes <;> simp [volumes]

/-! ## The verdict on a changed spec -/

/-- The requested persistence differs in its size, or in whether there is any. -/
def Differs (requested origin : Option PersistenceSpec) : Prop :=
  match requested, origin with
  | some requested, some origin => requested.size.value ≠ origin.size.value
  | none, none => False
  | _, _ => True

theorem not_differs_self (persistence : Option PersistenceSpec) :
    ¬Differs persistence persistence := by
  cases persistence with
  | none => exact id
  | some persistence => exact fun differs => differs rfl

theorem classNamesMatch_of_defaults {requested live : Option String}
    (defaults : ClassDefaults requested live) : storageClassNamesMatch requested live = true := by
  rcases defaults with rfl | ⟨rfl, storageClass, named, rfl⟩
  · cases live <;> simp [storageClassNamesMatch]
  · simpa [storageClassNamesMatch] using named

variable {shard : APIShard} {origin : Option PersistenceSpec} {set : StatefulSet}

/-- The spec of the creation matches the live StatefulSet. -/
theorem match_of_same (descends : Descends shard.name origin set)
    (same : shard.spec.storage.persistence = origin) :
    volumeClaimTemplatesMatch (postgreSQLVolumeClaimTemplates shard) set.volumeClaimTemplates =
      true := by
  rw [postgreSQLVolumeClaimTemplates, same]
  cases descends with
  | persistent mounts volumes defaults claims =>
      simp [claims, volumeClaimTemplatesMatch, classNamesMatch_of_defaults defaults]
  | ephemeral mounts volumes claims => simp [claims, volumeClaimTemplatesMatch]

/-- A spec of another size or mode does not. -/
theorem not_match_of_differs (descends : Descends shard.name origin set)
    (differs : Differs shard.spec.storage.persistence origin) :
    volumeClaimTemplatesMatch (postgreSQLVolumeClaimTemplates shard) set.volumeClaimTemplates =
      false := by
  rw [postgreSQLVolumeClaimTemplates]
  cases descends with
  | persistent mounts volumes defaults claims =>
      cases requested : shard.spec.storage.persistence with
      | none => simp [claims, volumeClaimTemplatesMatch]
      | some persistence =>
          rw [requested] at differs
          simp only [Differs, ne_eq] at differs
          simp [claims, volumeClaimTemplatesMatch, differs]
  | ephemeral mounts volumes claims =>
      cases requested : shard.spec.storage.persistence with
      | none =>
          rw [requested] at differs
          exact differs.elim
      | some persistence => simp [claims, volumeClaimTemplatesMatch]

end KubeShard.Resources
