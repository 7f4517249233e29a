import KubeShard.Resources.Names
import Mathlib.Data.List.Infix
import Mathlib.Data.List.Nodup

/-!
# The applied objects do not overlap

Every component but the collector ConfigMap is named after the shard with a suffix
of its own, so that two components of one kind never meet.  The collector ConfigMap
has a base name of that form and a hash behind it.
-/

namespace KubeShard.Resources

open Apishard

namespace Component

/-- The name of the component does not depend on its content. -/
def plain : Component → Bool
  | oTelCollectorConfigMap _ => false
  | _ => true

theorem plain_or_hashed (component : Component) :
    component.plain = true ∨ ∃ name, component = oTelCollectorConfigMap name := by
  cases component <;> first | exact .inl rfl | exact .inr ⟨_, rfl⟩

/-- The components whose names do not depend on their content. -/
def all : List Component :=
  [kineDeployment, kinePDB, kineService, postgreSQLSecret, postgreSQLInitConfigMap,
    postgreSQLStatefulSet, postgreSQLService, oTelCredentialSecret, oTelCollectorDeployment,
    oTelCollectorService, postgreSQLServiceMonitor, selfSignedIssuer, caCertificate, caIssuer,
    servingCertificate, adminClientCertificate, kineSelfSignedIssuer, kineCACertificate,
    kineCAIssuer, kineServingCertificate, etcdClientCertificate, postgreSQLSelfSignedIssuer,
    postgreSQLCACertificate, postgreSQLCAIssuer, postgreSQLServingCertificate, authConfig,
    secondaryServiceAccount, authDelegator, apiServerSCC, apiServerSCCClusterRole,
    apiServerSCCRoleBinding, requestHeaderCA, adminKubeconfig, secondaryDeployment, secondaryPDB,
    secondaryService, metricsReaderServiceAccount, metricsReaderTokenSecret,
    metricsReaderClusterRoleBinding, kineServiceMonitor, secondaryServiceMonitor,
    prometheusDiscoveryRole, prometheusDiscoveryRoleBinding]

theorem mem_all {component : Component} (plain : component.plain = true) : component ∈ all := by
  cases component <;> first | decide | contradiction

/-- A shard without a name. -/
def unnamed : APIShard where
  name := ""
  uid := 0
  generation := 0
  resourceVersion := 0
  spec := { targetNamespace := "", apiGroups := [], storage := { type := .sqlite } }

/-- What a component adds to the name of its shard. -/
def suffix (component : Component) : String := component.name unnamed

theorem named_eq (shard : APIShard) (suffix : String) :
    named shard suffix = shard.name ++ named unnamed suffix := by
  simp [named, unnamed]

theorem name_eq (shard : APIShard) {component : Component} (plain : component.plain = true) :
    component.name shard = shard.name ++ component.suffix := by
  cases component <;> first | exact named_eq shard _ | contradiction

theorem nodup_all : (all.map fun component => (component.kind, component.suffix)).Nodup := by
  decide +kernel

/-- Two components whose names are fixed do not share their identity. -/
theorem eq_of_key_eq {shard : APIShard} {left right : Component} (leftPlain : left.plain = true)
    (rightPlain : right.plain = true) (same : left.key shard = right.key shard) :
    left = right := by
  have kind : left.kind = right.kind := congrArg ObjectKey.kind same
  have name : left.name shard = right.name shard := congrArg ObjectKey.name same
  rw [name_eq shard leftPlain, name_eq shard rightPlain, String.append_right_inj] at name
  exact List.inj_on_of_nodup_map nodup_all (mem_all leftPlain) (mem_all rightPlain)
    (Prod.ext kind name)

/-- An object of another kind or name is no component. -/
theorem key_ne_of_suffix {shard : APIShard} {kind : ObjectKind} {suffix namespace_ : String}
    (other : (kind, suffix) ∉ all.map fun component => (component.kind, component.suffix))
    {component : Component} (plain : component.plain = true) :
    component.key shard ≠ ⟨kind, namespace_, shard.name ++ suffix⟩ := by
  intro same
  apply other
  have sameKind : component.kind = kind := congrArg ObjectKey.kind same
  have sameName : component.name shard = shard.name ++ suffix := congrArg ObjectKey.name same
  rw [name_eq shard plain, String.append_right_inj] at sameName
  exact List.mem_map.mpr ⟨component, mem_all plain, Prod.ext sameKind sameName⟩

/-! ## The collector ConfigMap -/

/-- The name is the base name of the collector ConfigMap with a hash. -/
def hashed (shard : APIShard) (name : String) : Prop :=
  ∃ hash, name = oTelCollectorConfigMapBaseName shard ++ "-" ++ hash

/-- The component belongs to this shard. -/
def belongs (shard : APIShard) : Component → Prop
  | oTelCollectorConfigMap name => hashed shard name
  | _ => True

theorem belongs_of_plain (shard : APIShard) {component : Component}
    (plain : component.plain = true) : component.belongs shard := by
  cases component <;> trivial

/-- The name of a ConfigMap of the shard has one of these parts. -/
theorem infix_of_name {shard : APIShard} {component : Component}
    (belongs : component.belongs shard) (configMap : component.kind = .configMap) :
    ∃ part ∈ ["-postgresql-init", "-postgresql-metrics-config-", "-authz-config",
        "-requestheader-ca"], part.toList <:+: (component.name shard).toList := by
  cases component with
  | postgreSQLInitConfigMap =>
      refine ⟨"-postgresql-init", by simp, shard.name.toList, [], ?_⟩
      simp [name, postgreSQLInitConfigMapName, named]
  | authConfig =>
      refine ⟨"-authz-config", by simp, shard.name.toList, [], ?_⟩
      simp [name, named]
  | requestHeaderCA =>
      refine ⟨"-requestheader-ca", by simp, shard.name.toList, [], ?_⟩
      simp [name, named]
  | oTelCollectorConfigMap text =>
      obtain ⟨hash, rfl⟩ := belongs
      refine ⟨"-postgresql-metrics-config-", by simp, shard.name.toList, hash.toList, ?_⟩
      simp [name, oTelCollectorConfigMapBaseName, named]
  | _ => contradiction

/-- The ConfigMap of the primary's own front proxy is no component. -/
theorem key_ne_authentication {shard : APIShard} {component : Component}
    (belongs : component.belongs shard) :
    component.key shard ≠ ⟨.configMap, "kube-system", "extension-apiserver-authentication"⟩ := by
  intro same
  have configMap : component.kind = .configMap := congrArg ObjectKey.kind same
  have sameName : component.name shard = "extension-apiserver-authentication" :=
    congrArg ObjectKey.name same
  obtain ⟨part, membership, inside⟩ := infix_of_name belongs configMap
  rw [sameName] at inside
  revert inside
  revert part
  decide +kernel

/-- A Secret with another suffix is no component. -/
theorem key_ne_secret {shard : APIShard} {suffix namespace_ : String}
    (other : (ObjectKind.secret, suffix) ∉
      all.map fun component => (component.kind, component.suffix))
    (component : Component) :
    component.key shard ≠ ⟨.secret, namespace_, shard.name ++ suffix⟩ := by
  rcases plain_or_hashed component with plain | ⟨text, rfl⟩
  · exact key_ne_of_suffix other plain
  · exact fun same => absurd (congrArg ObjectKey.kind same) nofun

/-- The collector ConfigMap is no other component. -/
theorem key_ne_hashed {shard : APIShard} {text : String} (isHashed : hashed shard text)
    {component : Component} (plain : component.plain = true) :
    component.key shard ≠ (oTelCollectorConfigMap text).key shard := by
  intro same
  have sameKind : component.kind = .configMap := congrArg ObjectKey.kind same
  have sameName : component.name shard = text := congrArg ObjectKey.name same
  obtain ⟨hash, rfl⟩ := isHashed
  have suffix : component.suffix = "-postgresql-metrics-config" ++ "-" ++ hash := by
    rw [name_eq shard plain, oTelCollectorConfigMapBaseName, named, String.append_assoc,
      String.append_assoc, String.append_right_inj, ← String.append_assoc] at sameName
    exact sameName
  have start : component.suffix.toList.take 13 = "-postgresql-m".toList := by
    rw [suffix]
    simp
  have noOther : ∀ other ∈ all, other.kind = .configMap →
      other.suffix.toList.take 13 ≠ "-postgresql-m".toList := by
    decide +kernel
  exact noOther component (mem_all plain) sameKind start

/-- The components of a shard do not share their identity. -/
theorem key_injective {shard : APIShard} {left right : Component} (leftOwn : left.belongs shard)
    (rightOwn : right.belongs shard) (same : left.key shard = right.key shard) : left = right := by
  rcases plain_or_hashed left with leftPlain | ⟨text, rfl⟩
  · rcases plain_or_hashed right with rightPlain | ⟨other, rfl⟩
    · exact eq_of_key_eq leftPlain rightPlain same
    · exact absurd same (key_ne_hashed rightOwn leftPlain)
  · rcases plain_or_hashed right with rightPlain | ⟨other, rfl⟩
    · exact absurd same.symm (key_ne_hashed leftOwn rightPlain)
    · have sameName : text = other := congrArg ObjectKey.name same
      rw [sameName]

end Component

end KubeShard.Resources
