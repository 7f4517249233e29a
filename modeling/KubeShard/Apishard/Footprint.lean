import KubeShard.Apishard.Run
import KubeShard.Apishard.Tracked
import KubeShard.Certs.Certmanager
import KubeShard.Program.Text

/-!
# The objects of two shards

All names of a shard's objects are its own name with a suffix.  Two shards can only
meet where one suffix ends in another one of the same kind, and the name of one shard
is that of the other with the rest of the suffix.
-/

namespace KubeShard.Apishard

open Resources Aggregation Certs Prog

/-- What a pass leaves in the cluster, by its identity. -/
inductive Identity where
  | object (key : ObjectKey)
  | namespaceSync (namespace_ name : String)
  | webhookSync (namespace_ name : String)
  | apiService (name : String)
  deriving DecidableEq, Repr

/-- Some pass on the shard applies this, or applies the Certificate it is the Secret of.
The target Namespace and the ClusterRole that all shards share are left out. -/
def Leaves (r : Reconciler) (shard : APIShard) : Identity → Prop
  | .object key => ∃ ctx cluster, ∃ component ∈ appliedComponents r ctx shard cluster,
      component.key shard = key ∨ certificateSecret shard component = some key
  | .namespaceSync namespace_ name =>
      namespace_ = shard.spec.targetNamespace ∧ name = s!"{shard.name}-ns-sync"
  | .webhookSync namespace_ name =>
      namespace_ = shard.spec.targetNamespace ∧ name = s!"{shard.name}-webhook-sync"
  | .apiService name => name ∈ desiredAPIServiceNames shard

/-- The hash in the name of a ConfigMap has no dash. -/
def Reconciler.HashedPlainly (r : Reconciler) : Prop :=
  ∀ base content, ∃ hash, '-' ∉ hash.toList ∧
    r.buildConfigMapName base content = base ++ "-" ++ hash

/-! ## Kinds and suffixes -/

/-- The namespace of the objects of this kind. -/
def scope (shard : APIShard) : ObjectKind → String
  | .clusterRole | .clusterRoleBinding | .securityContextConstraints => ""
  | _ => shard.spec.targetNamespace

/-- What stands for a component: its kind and suffix, and those of the Secret of a
Certificate. -/
def slots (component : Component) : List (ObjectKind × String) :=
  (component.kind, component.suffix) ::
    ((certificate Component.unnamed component).map fun spec => (.secret, spec.secretName)).toList

theorem secretName_eq (shard : APIShard) {component : Component} {spec : CertificateSpec}
    (isSpec : certificate shard component = some spec) :
    ∃ suffix, (ObjectKind.secret, suffix) ∈ slots component ∧
      spec.secretName = shard.name ++ suffix := by
  cases component <;> first
    | (cases isSpec
       exact ⟨_, List.mem_cons_of_mem _ (List.mem_singleton.mpr rfl), Component.named_eq shard _⟩)
    | contradiction

/-- The identity of a component, or of the Secret of a Certificate, as a suffix. -/
theorem slot_of_key {shard : APIShard} {component : Component} {key : ObjectKey}
    (plain : component.plain = true)
    (isKey : component.key shard = key ∨ certificateSecret shard component = some key) :
    ∃ suffix, (key.kind, suffix) ∈ slots component ∧ key.name = shard.name ++ suffix ∧
      key.namespace_ = scope shard key.kind := by
  rcases isKey with rfl | isSecret
  · refine ⟨component.suffix, List.mem_cons_self, Component.name_eq shard plain, ?_⟩
    cases component <;> rfl
  · obtain ⟨spec, isSpec, rfl⟩ := Option.map_eq_some_iff.mp isSecret
    obtain ⟨suffix, membership, name⟩ := secretName_eq shard isSpec
    exact ⟨suffix, membership, name, rfl⟩

/-- The components that only a database in the cluster needs. -/
def databaseCerts : List Component :=
  [.postgreSQLSelfSignedIssuer, .postgreSQLCACertificate, .postgreSQLCAIssuer,
    .postgreSQLServingCertificate]

/-- The longer suffix puts the part of the stack before the shorter one. -/
def Infixed (outer : Component) (slot other : ObjectKind × String) : Prop :=
  (slot.1 = .issuer ∨ slot.1 = .secret) ∧
    (slot.2 = "-kine" ++ other.2 ∨ slot.2 = "-postgresql" ++ other.2 ∧ outer ∈ databaseCerts)

instance (outer : Component) (slot other : ObjectKind × String) :
    Decidable (Infixed outer slot other) :=
  inferInstanceAs (Decidable (_ ∧ _))

/-- The suffixes of one kind that end in one another. -/
theorem infixed_slots : ∀ outer ∈ Component.all, ∀ inner ∈ Component.all, ∀ slot ∈ slots outer,
    ∀ other ∈ slots inner, slot.1 = other.1 → other.2.toList <:+ slot.2.toList →
      slot.2 = other.2 ∨ Infixed outer slot other := by
  decide +kernel

/-- The name of the second shard is that of the first with an infix of its names. -/
def Nests (first second : APIShard) : Prop :=
  second.name = first.name ++ "-kine" ∨
    second.name = first.name ++ "-postgresql" ∧
      first.spec.storage.type = .inClusterPostgreSQL

/-- The shards share a namespace, and the name of one is in the names of the other. -/
def Crowded (first second : APIShard) : Prop :=
  first.spec.targetNamespace = second.spec.targetNamespace ∧
    (Nests first second ∨ Nests second first)

/-- The shards do not crowd one another, and serve no common version of a group. -/
structure Apart (first second : APIShard) : Prop where
  names : ¬Crowded first second
  groups : ∀ name ∈ desiredAPIServiceNames first, name ∉ desiredAPIServiceNames second

section keys

variable {r : Reconciler} {first second : APIShard} {ctx otherCtx : Schedule}
  {cluster otherCluster : Cluster} {outer inner : Component} {key : ObjectKey}

theorem inCluster_of_databaseCerts (isCert : outer ∈ databaseCerts)
    (applied : outer ∈ appliedComponents r ctx first cluster) :
    first.spec.storage.type = .inClusterPostgreSQL := by
  have isStep : ∀ component ∈ databaseCerts, step component = .certificates := by decide
  rw [mem_appliedComponents, isStep outer isCert] at applied
  by_contra other
  simp only [stepComponents, buildCertResources, other, if_false, List.append_nil] at applied
  have absent : ∀ component ∈ databaseCerts, component ∉
      [Component.selfSignedIssuer, .caCertificate, .caIssuer, .servingCertificate,
        .adminClientCertificate, .kineSelfSignedIssuer, .kineCACertificate, .kineCAIssuer,
        .kineServingCertificate, .etcdClientCertificate] := by decide
  exact absent outer isCert applied

/-- Where the suffix of the first shard is the longer one, the names nest. -/
theorem nests_of_suffix (distinct : first.name ≠ second.name)
    (applied : outer ∈ appliedComponents r ctx first cluster)
    (outerPlain : outer.plain = true) (innerPlain : inner.plain = true)
    {suffix other rest : String} (slot : (key.kind, suffix) ∈ slots outer)
    (otherSlot : (key.kind, other) ∈ slots inner) (isName : second.name = first.name ++ rest)
    (isSuffix : suffix = rest ++ other) :
    (key.kind = .issuer ∨ key.kind = .secret) ∧ Nests first second := by
  have ends : other.toList <:+ suffix.toList :=
    ⟨rest.toList, by rw [isSuffix, String.toList_append]⟩
  have rest_eq {part : String} (same : suffix = part ++ other) : rest = part :=
    (String.append_left_inj other).mp (isSuffix.symm.trans same)
  rcases infixed_slots outer (Component.mem_all outerPlain) inner (Component.mem_all innerPlain)
    _ slot _ otherSlot rfl ends with same | ⟨kind, kine | ⟨database, isCert⟩⟩
  · have empty : rest = "" := rest_eq (same.trans (String.empty_append).symm)
    rw [empty, String.append_empty] at isName
    exact absurd isName.symm distinct
  · exact ⟨kind, .inl (by rw [isName, rest_eq kine])⟩
  · exact ⟨kind, .inr ⟨by rw [isName, rest_eq database],
      inCluster_of_databaseCerts isCert applied⟩⟩

theorem crowded_of_plain (distinct : first.name ≠ second.name)
    (applied : outer ∈ appliedComponents r ctx first cluster)
    (otherApplied : inner ∈ appliedComponents r otherCtx second otherCluster)
    (outerPlain : outer.plain = true) (innerPlain : inner.plain = true)
    (isKey : outer.key first = key ∨ certificateSecret first outer = some key)
    (otherKey : inner.key second = key ∨ certificateSecret second inner = some key) :
    Crowded first second := by
  obtain ⟨suffix, slot, name, space⟩ := slot_of_key outerPlain isKey
  obtain ⟨other, otherSlot, otherName, otherSpace⟩ := slot_of_key innerPlain otherKey
  have namespaces (kind : key.kind = .issuer ∨ key.kind = .secret) :
      first.spec.targetNamespace = second.spec.targetNamespace := by
    have same := space.symm.trans otherSpace
    rcases kind with kind | kind <;> rwa [kind] at same
  rcases Text.append_eq_append (name.symm.trans otherName) with
    ⟨rest, isName, isSuffix⟩ | ⟨rest, isName, isSuffix⟩
  · have nested :=
      nests_of_suffix distinct applied outerPlain innerPlain slot otherSlot isName isSuffix
    exact ⟨namespaces nested.1, .inl nested.2⟩
  · have nested :=
      nests_of_suffix distinct.symm otherApplied innerPlain outerPlain otherSlot slot isName isSuffix
    exact ⟨namespaces nested.1, .inr nested.2⟩

/-! ## The collector ConfigMap -/

/-- The name of the collector ConfigMap ends in a hash. -/
theorem hashed_of_applied (hashed : r.HashedPlainly) {name : String}
    (applied : .oTelCollectorConfigMap name ∈ appliedComponents r ctx first cluster) :
    ∃ hash, '-' ∉ hash.toList ∧
      name = first.name ++ "-postgresql-metrics" ++ "-" ++ "config" ++ "-" ++ hash := by
  have inStep : _ ∈ collected r ctx first cluster := mem_appliedComponents.mp applied
  unfold collected at inStep
  split at inStep
  · cases inStep
  · rcases mem_collectorChain (List.takeWhile_subset _ inStep) with same | ⟨params, inComponents⟩
    · cases same
    · obtain ⟨hash, plain, isName⟩ := hashed (oTelCollectorConfigMapBaseName first)
        (buildOTelCollectorConfig first params)
      refine ⟨hash, plain, ?_⟩
      rw [name_of_collectorComponents inComponents, isName, oTelCollectorConfigMapBaseName, named]
      simp [String.append_assoc]

/-- The other ConfigMaps have two words behind the shard's name. -/
theorem words_of_slot (innerPlain : inner.plain = true) {suffix : String}
    (slot : (ObjectKind.configMap, suffix) ∈ slots inner) :
    ∃ middle last : String, '-' ∉ middle.toList ∧ '-' ∉ last.toList ∧ middle ≠ "config" ∧
      suffix = "-" ++ middle ++ "-" ++ last := by
  have suffixes : ∀ component ∈ Component.all, ∀ slot ∈ slots component, slot.1 = .configMap →
      slot.2 ∈ ["-postgresql-init", "-authz-config", "-requestheader-ca"] := by
    decide +kernel
  have membership := suffixes inner (Component.mem_all innerPlain) _ slot rfl
  simp only [List.mem_cons, List.not_mem_nil, or_false] at membership
  rcases membership with rfl | rfl | rfl
  · exact ⟨"postgresql", "init", by decide, by decide, by decide, by decide⟩
  · exact ⟨"authz", "config", by decide, by decide, by decide, by decide⟩
  · exact ⟨"requestheader", "ca", by decide, by decide, by decide, by decide⟩

/-- The collector ConfigMap of one shard is no other object of another shard. -/
theorem plain_ne_hashed (hashed : r.HashedPlainly) {name : String}
    (applied : .oTelCollectorConfigMap name ∈ appliedComponents r ctx first cluster)
    (innerPlain : inner.plain = true)
    (isKey : inner.key second = key ∨ certificateSecret second inner = some key) :
    (Component.oTelCollectorConfigMap name).key first ≠ key := by
  rintro rfl
  obtain ⟨hash, plain, isName⟩ := hashed_of_applied hashed applied
  obtain ⟨suffix, slot, sameName, _⟩ := slot_of_key innerPlain isKey
  obtain ⟨middle, last, middlePlain, lastPlain, other, rfl⟩ := words_of_slot innerPlain slot
  have sameName : name = second.name ++ ("-" ++ middle ++ "-" ++ last) := sameName
  have same : first.name ++ "-postgresql-metrics" ++ "-" ++ "config" ++ "-" ++ hash =
      second.name ++ "-" ++ middle ++ "-" ++ last := by
    rw [← isName, sameName]
    simp [String.append_assoc]
  have front := (Text.split_last plain lastPlain same).1
  exact other (Text.split_last (by decide) middlePlain front).2.symm

/-- The collector ConfigMaps of two shards differ. -/
theorem hashed_ne_hashed (hashed : r.HashedPlainly) (distinct : first.name ≠ second.name)
    {name : String}
    (applied : .oTelCollectorConfigMap name ∈ appliedComponents r ctx first cluster)
    (otherApplied : .oTelCollectorConfigMap name ∈
      appliedComponents r otherCtx second otherCluster) : False := by
  obtain ⟨hash, plain, isName⟩ := hashed_of_applied hashed applied
  obtain ⟨otherHash, otherPlain, otherName⟩ := hashed_of_applied hashed otherApplied
  have front := (Text.split_last plain otherPlain (isName.symm.trans otherName)).1
  have plainWord : '-' ∉ "config".toList := by decide
  have names := (Text.split_last plainWord plainWord front).1
  exact distinct ((String.append_left_inj _).mp names)

end keys

/-! ## Two shards -/

section shards

variable {r : Reconciler} {first second : APIShard}

/-- Shards that share an object crowd one another. -/
theorem crowded_of_leaves (hashed : r.HashedPlainly) (distinct : first.name ≠ second.name)
    {key : ObjectKey} (leaves : Leaves r first (.object key))
    (otherLeaves : Leaves r second (.object key)) : Crowded first second := by
  obtain ⟨ctx, cluster, component, applied, isKey⟩ := leaves
  obtain ⟨otherCtx, otherCluster, other, otherApplied, otherKey⟩ := otherLeaves
  rcases component.plain_or_hashed with plain | ⟨name, rfl⟩
  · rcases other.plain_or_hashed with otherPlain | ⟨name, rfl⟩
    · exact crowded_of_plain distinct applied otherApplied plain otherPlain isKey otherKey
    · rcases otherKey with same | ⟨⟨⟩⟩
      exact absurd same (plain_ne_hashed hashed otherApplied plain isKey)
  · rcases isKey with same | ⟨⟨⟩⟩
    rcases other.plain_or_hashed with otherPlain | ⟨otherName, rfl⟩
    · exact absurd same (plain_ne_hashed hashed applied otherPlain otherKey)
    · rcases otherKey with otherSame | ⟨⟨⟩⟩
      have names : otherName = name := congrArg ObjectKey.name (otherSame.trans same.symm)
      rw [names] at otherApplied
      exact (hashed_ne_hashed hashed distinct applied otherApplied).elim

theorem mem_applied_of_certificate {ctx : Schedule} {cluster : Cluster} {component : Component}
    (membership : component ∈ buildCertResources first) :
    component ∈ appliedComponents r ctx first cluster := by
  simp [appliedComponents, earlyComponents, membership]

/-- The shard issues its certificates under its own name. -/
theorem leaves_caIssuer : Leaves r second (.object (Component.caIssuer.key second)) :=
  ⟨{}, .bare, .caIssuer, mem_applied_of_certificate (by simp [buildCertResources]), .inl rfl⟩

/-- Where the names nest, the Issuer of one shard is that of Kine or of the database of
the other. -/
theorem leaves_of_nests (nests : Nests first second)
    (namespaces : first.spec.targetNamespace = second.spec.targetNamespace) :
    Leaves r first (.object (Component.caIssuer.key second)) := by
  rcases nests with isName | ⟨isName, database⟩
  · refine ⟨{}, .bare, .kineCAIssuer, mem_applied_of_certificate (by simp [buildCertResources]),
      .inl ?_⟩
    simp [Component.key, Component.kind, Component.name, kineCAIssuerName, issuerName, named,
      isName, namespaces, String.append_assoc]
  · refine ⟨{}, .bare, .postgreSQLCAIssuer,
      mem_applied_of_certificate (by simp [buildCertResources, database]), .inl ?_⟩
    simp [Component.key, Component.kind, Component.name, postgreSQLCAIssuerName, issuerName,
      named, isName, namespaces, String.append_assoc]

/-- Two shards leave no common object exactly when their names do not nest in one
namespace and they serve different groups. -/
theorem footprints_disjoint_iff (hashed : r.HashedPlainly) (distinct : first.name ≠ second.name) :
    (∀ identity, Leaves r first identity → ¬Leaves r second identity) ↔ Apart first second := by
  constructor
  · intro disjoint
    constructor
    · rintro ⟨namespaces, nests | nests⟩
      · exact disjoint _ (leaves_of_nests nests namespaces) leaves_caIssuer
      · exact disjoint _ leaves_caIssuer (leaves_of_nests nests namespaces.symm)
    · exact fun name => disjoint (.apiService name)
  · intro apart identity leaves otherLeaves
    cases identity with
    | object key => exact apart.names (crowded_of_leaves hashed distinct leaves otherLeaves)
    | namespaceSync namespace_ name =>
        exact distinct ((String.append_left_inj "-ns-sync").mp (leaves.2.symm.trans otherLeaves.2))
    | webhookSync namespace_ name =>
        exact distinct
          ((String.append_left_inj "-webhook-sync").mp (leaves.2.symm.trans otherLeaves.2))
    | apiService name => exact apart.groups name leaves otherLeaves

end shards

/-- A shard in the namespace `target` that stores in SQLite. -/
def sqliteShard (name : String) : APIShard := { Component.unnamed with name, spec := plainSpec [] }

theorem footprints_disjoint_unrelated :
    Apart (sqliteShard "a") (sqliteShard "b") ∧
      ∀ identity, Leaves .bare (sqliteShard "a") identity →
        ¬Leaves .bare (sqliteShard "b") identity := by
  have hashed : Reconciler.bare.HashedPlainly := fun base content =>
    ⟨"0", by decide, by simp [Reconciler.bare, String.append_assoc]⟩
  have apart : Apart (sqliteShard "a") (sqliteShard "b") := by
    constructor
    · unfold Crowded Nests
      decide
    · intro name membership
      cases membership
  exact ⟨apart, (footprints_disjoint_iff hashed (by decide)).mpr apart⟩

/-- The CA of the shard `a-kine` and the CA that Kine of the shard `a` trusts are one
Secret, and so are their Issuers. -/
theorem kine_ca_shared :
    let secret := Identity.object ⟨.secret, "target", "a-kine-ca-keypair"⟩
    let issuer := Identity.object ⟨.issuer, "target", "a-kine-ca-issuer"⟩
    (Leaves .bare (sqliteShard "a") secret ∧ Leaves .bare (sqliteShard "a-kine") secret) ∧
      Leaves .bare (sqliteShard "a") issuer ∧ Leaves .bare (sqliteShard "a-kine") issuer := by
  refine ⟨⟨⟨{}, .bare, .kineCACertificate, ?_⟩, ⟨{}, .bare, .caCertificate, ?_⟩⟩,
    ⟨{}, .bare, .kineCAIssuer, ?_⟩, ⟨{}, .bare, .caIssuer, ?_⟩⟩
  · exact ⟨mem_applied_of_certificate (by decide), .inr (by decide)⟩
  · exact ⟨mem_applied_of_certificate (by decide), .inr (by decide)⟩
  · exact ⟨mem_applied_of_certificate (by decide), .inl (by decide)⟩
  · exact ⟨mem_applied_of_certificate (by decide), .inl (by decide)⟩

end KubeShard.Apishard
