import KubeShard.Aggregation.Objects
import KubeShard.Program.Blind
import KubeShard.Program.Frame
import KubeShard.Program.Text

/-!
# What Reconcile does to the APIServices of the primary

The two loops of `Reconcile` touch disjoint sets of names, the second only runs when the
first has applied everything, and neither looks at more than the names of what is stored.
-/

namespace KubeShard.Aggregation

open Apishard Resources Prog

variable {server : ForcedApply} {faults : ServerCall → Option Fault} {shard : APIShard}

/-! ## Single calls -/

/-- The primary after an apply. -/
def Primary.applied (server : ForcedApply) (primary : Primary) (sent : APIServiceObject) :
    Primary where
  services := primary.services.insert (server.merge (primary.services.find? sent.name) sent)
  writes := primary.writes ++ [.applied sent.name]

/-- The primary after a delete. -/
def Primary.deleted (primary : Primary) (name : String) : Primary where
  services := primary.services.erase name
  writes := primary.writes ++ [.deleted name]

theorem exec_patchService (index : Nat) (sent : APIServiceObject) (primary : Primary) :
    exec (patchService server faults index sent) primary =
      match faults (.apply index) with
      | some fault => (.error fault.error, primary)
      | none => (.ok (), primary.applied server sent) := by
  rw [patchService]
  cases faulty : faults (.apply index) with
  | some fault => rw [call_of_fault _ faulty, exec_throw]
  | none =>
      rw [call_of_none _ faulty]
      rfl

theorem exec_getService (index : Nat) (name : String) (primary : Primary) :
    exec (getService faults index name) primary =
      match faults (.get index), primary.services.find? name with
      | some fault, _ => (.error fault.error, primary)
      | none, some object => (.ok object, primary)
      | none, none => (.error (.notFound "APIService.apiregistration.k8s.io" name), primary) := by
  rw [getService]
  cases faulty : faults (.get index) with
  | some fault => rw [call_of_fault _ faulty, exec_throw]
  | none =>
      rw [call_of_none _ faulty, exec_bind, exec_get]
      dsimp only
      cases primary.services.find? name <;> rfl

theorem exec_deleteService (index : Nat) {object : APIServiceObject} {primary : Primary}
    (stored : object.name ∈ primary.services.keys) :
    exec (deleteService faults index object) primary =
      match faults (.delete index) with
      | some fault => (.error fault.error, primary)
      | none => (.ok (), primary.deleted object.name) := by
  rw [deleteService]
  cases faulty : faults (.delete index) with
  | some fault => rw [call_of_fault _ faulty, exec_throw]
  | none =>
      rw [call_of_none _ faulty, exec_bind, exec_get]
      simp only [stored, if_true]
      rfl

/-- One round of the deletion loop on a name that is not desired. -/
theorem exec_deleteOrphanedServices_cons {desired : List String} {name : String}
    (unwanted : name ∉ desired) (index : Nat) (rest : List String) (primary : Primary) :
    exec (deleteOrphanedServices faults desired index (name :: rest)) primary =
      match faults (.get index), decide (name ∈ primary.services.keys), faults (.delete index) with
      | some fault, _, _ =>
          (.error (fault.error.wrap s!"getting orphaned APIService {name}"), primary)
      | none, false, _ => exec (deleteOrphanedServices faults desired (index + 1) rest) primary
      | none, true, some fault =>
          (.error (fault.error.wrap s!"deleting orphaned APIService {name}"), primary)
      | none, true, none =>
          exec (deleteOrphanedServices faults desired (index + 1) rest) (primary.deleted name) := by
  rw [deleteOrphanedServices, if_neg unwanted, exec_bind, exec_attempt, exec_getService]
  cases faults (.get index) with
  | some fault => rfl
  | none =>
      cases found : primary.services.find? name with
      | none =>
          have missing : name ∉ primary.services.keys := Store.find?_eq_none.mp found
          simp [missing]
      | some object =>
          obtain ⟨membership, isName⟩ := Store.find?_eq_some.mp found
          have stored : object.name ∈ primary.services.keys :=
            Store.mem_keys.mpr ⟨object, membership, rfl⟩
          have isStored : name ∈ primary.services.keys := isName ▸ stored
          dsimp only
          rw [exec_bind, exec_mapError, exec_deleteService index stored]
          cases faults (.delete index) <;> simp [isStored, show object.name = name from isName]

/-! ## Frames -/

/-- Only these names were touched, by writes of this kind, and no name was lost that is
not to be. -/
structure Touching (names : List String) (write : String → Write) (before after : Primary) :
    Prop where
  untouched : ∀ name ∉ names, after.services.find? name = before.services.find? name
  writes : ∃ new, after.writes = before.writes ++ new.map write ∧ new ⊆ names

/-- The frame of steps that touch only these names. -/
def touching (names : List String) (write : String → Write) : Frame Primary where
  rel := Touching names write
  refl _ := ⟨fun _ _ => rfl, [], (List.append_nil _).symm, List.nil_subset _⟩
  trans := by
    intro first second third left right
    obtain ⟨former, isFormer, formerNames⟩ := left.writes
    obtain ⟨latter, isLatter, latterNames⟩ := right.writes
    refine ⟨fun name outside => (right.untouched name outside).trans (left.untouched name outside),
      former ++ latter, ?_, List.append_subset.mpr ⟨formerNames, latterNames⟩⟩
    rw [isLatter, isFormer, List.map_append, List.append_assoc]

theorem applied_touching {names : List String} {sent : APIServiceObject}
    (wanted : sent.name ∈ names) (primary : Primary) :
    Touching names .applied primary (primary.applied server sent) where
  untouched := by
    intro name outside
    apply Store.find?_insert_of_ne
    rw [(server.stores _ sent).name]
    exact fun same => outside (same ▸ wanted)
  writes := ⟨[sent.name], rfl, List.cons_subset.mpr ⟨wanted, List.nil_subset _⟩⟩

theorem deleted_touching {names : List String} {name : String} (listed : name ∈ names)
    (primary : Primary) : Touching names .deleted primary (primary.deleted name) where
  untouched := by
    intro other outside
    apply Store.find?_erase_of_ne
    exact fun same => outside (same ▸ listed)
  writes := ⟨[name], rfl, List.cons_subset.mpr ⟨listed, List.nil_subset _⟩⟩

/-! ## The apply loop -/

theorem applyServices_touching (caBundle : String) {names : List String}
    (pairs : List (String × String)) (index : Nat)
    (wanted : ∀ pair ∈ pairs, apiServiceName pair.1 pair.2 ∈ names) :
    Respects (touching names .applied)
      (applyServices server faults shard caBundle index pairs) := by
  induction pairs generalizing index with
  | nil => exact .of_pure ()
  | cons pair rest ih =>
      apply Respects.bind
      · apply Respects.mapError
        intro primary
        rw [exec_patchService]
        cases faults (.apply index) with
        | some fault => exact (touching names .applied).refl primary
        | none => exact applied_touching (wanted pair List.mem_cons_self) primary
      · intro _
        exact ih (index + 1) fun other membership => wanted other
          (List.mem_cons_of_mem _ membership)

theorem applyServices_keeps (caBundle name : String) (pairs : List (String × String))
    (index : Nat) : Respects (.keeps fun primary : Primary => name ∈ primary.services.keys)
      (applyServices server faults shard caBundle index pairs) := by
  induction pairs generalizing index with
  | nil => exact .of_pure ()
  | cons pair rest ih =>
      apply Respects.bind _ fun _ => ih (index + 1)
      apply Respects.mapError
      intro primary stored
      rw [exec_patchService]
      cases faults (.apply index) with
      | some fault => exact stored
      | none => exact Store.mem_keys_insert.mpr (.inr stored)

/-- The APIService of a version and group is stored as it was sent. -/
def Primary.Serves (primary : Primary) (shard : APIShard) (caBundle : String)
    (pair : String × String) : Prop :=
  ∃ object, primary.services.find? (apiServiceName pair.1 pair.2) = some object ∧
    Stores (desiredAPIService shard caBundle pair.1 pair.2) object

theorem applied_serves (caBundle : String) (pair : String × String) (primary : Primary) :
    (primary.applied server (desiredAPIService shard caBundle pair.1 pair.2)).Serves
      shard caBundle pair := by
  have stores := server.stores (primary.services.find?
    (desiredAPIService shard caBundle pair.1 pair.2).name)
    (desiredAPIService shard caBundle pair.1 pair.2)
  refine ⟨_, ?_, stores⟩
  have found := Store.find?_insert_self primary.services (server.merge (primary.services.find?
    (desiredAPIService shard caBundle pair.1 pair.2).name)
    (desiredAPIService shard caBundle pair.1 pair.2))
  rwa [stores.name] at found

/-- The version ends at the first dot of an APIService's name. -/
theorem apiServiceName_injective {first second : String × String}
    (firstValid : '.' ∉ first.1.toList) (secondValid : '.' ∉ second.1.toList)
    (same : apiServiceName first.1 first.2 = apiServiceName second.1 second.2) :
    first = second := by
  have spelled : first.1 ++ String.singleton '.' ++ first.2 =
      second.1 ++ String.singleton '.' ++ second.2 := same
  have versions := Text.split_first firstValid secondValid spelled
  rw [versions, String.append_right_inj] at spelled
  exact Prod.ext versions spelled

/-- An apply takes no other APIService of the shard away. -/
theorem Primary.Serves.applied {caBundle : String} {pair other : String × String}
    {primary : Primary} (serves : primary.Serves shard caBundle pair)
    (valid : '.' ∉ pair.1.toList) (otherValid : '.' ∉ other.1.toList) :
    (primary.applied server (desiredAPIService shard caBundle other.1 other.2)).Serves
      shard caBundle pair := by
  by_cases same : apiServiceName pair.1 pair.2 = apiServiceName other.1 other.2
  · obtain rfl := apiServiceName_injective valid otherValid same
    exact applied_serves caBundle pair primary
  · obtain ⟨object, found, stores⟩ := serves
    refine ⟨object, ?_, stores⟩
    rw [← found]
    apply Store.find?_insert_of_ne
    rwa [(server.stores _ _).name]

/-- An apply loop without a failure has applied everything, in order. -/
theorem applyServices_ok {caBundle : String} {pairs : List (String × String)} {index : Nat}
    {primary after : Primary}
    (ran : exec (applyServices server faults shard caBundle index pairs) primary =
      (.ok (), after)) :
    after.writes =
      primary.writes ++ pairs.map fun pair => .applied (apiServiceName pair.1 pair.2) := by
  induction pairs generalizing index primary with
  | nil =>
      cases ran
      exact (List.append_nil _).symm
  | cons pair rest ih =>
      obtain ⟨_, middle, patched, looped⟩ := exec_bind_eq_ok.mp ran
      rw [exec_mapError_eq_ok, exec_patchService] at patched
      cases faulty : faults (.apply index) with
      | some fault =>
          rw [faulty] at patched
          cases patched
      | none =>
          rw [faulty] at patched
          cases patched
          rw [ih looped, List.map_cons, List.append_cons]
          rfl

/-- Every version and group that was served or is in the list is served after the loop. -/
theorem applyServices_serves {caBundle : String} {pairs : List (String × String)} {index : Nat}
    {primary after : Primary} (valid : ∀ pair ∈ pairs, '.' ∉ pair.1.toList)
    (ran : exec (applyServices server faults shard caBundle index pairs) primary =
      (.ok (), after))
    {wanted : String × String} (wantedValid : '.' ∉ wanted.1.toList)
    (served : wanted ∈ pairs ∨ primary.Serves shard caBundle wanted) :
    after.Serves shard caBundle wanted := by
  induction pairs generalizing index primary with
  | nil =>
      cases ran
      exact served.resolve_left List.not_mem_nil
  | cons pair rest ih =>
      obtain ⟨_, middle, patched, looped⟩ := exec_bind_eq_ok.mp ran
      rw [exec_mapError_eq_ok, exec_patchService] at patched
      have restValid : ∀ other ∈ rest, '.' ∉ other.1.toList :=
        fun other membership => valid other (List.mem_cons_of_mem _ membership)
      cases faulty : faults (.apply index) with
      | some fault =>
          rw [faulty] at patched
          cases patched
      | none =>
          rw [faulty] at patched
          cases patched
          apply ih restValid looped
          cases served with
          | inr before => exact .inr (before.applied wantedValid (valid pair List.mem_cons_self))
          | inl membership =>
              cases List.mem_cons.mp membership with
              | inl same => exact .inr (same ▸ applied_serves caBundle wanted primary)
              | inr later => exact .inl later

/-! ## The deletion loop -/

/-- A round of the deletion loop fails and changes nothing, or leaves the name absent. -/
theorem deleteOrphanedServices_round {desired : List String} {name : String}
    (unwanted : name ∉ desired) (index : Nat) (rest : List String) (primary : Primary) :
    (∃ failure, exec (deleteOrphanedServices faults desired index (name :: rest)) primary =
      (.error failure, primary)) ∨
    ∃ middle, (middle = primary ∧ name ∉ primary.services.keys ∨ middle = primary.deleted name) ∧
      exec (deleteOrphanedServices faults desired index (name :: rest)) primary =
        exec (deleteOrphanedServices faults desired (index + 1) rest) middle := by
  rw [exec_deleteOrphanedServices_cons unwanted]
  cases faults (.get index) with
  | some fault => exact .inl ⟨_, rfl⟩
  | none =>
      by_cases stored : name ∈ primary.services.keys
      · rw [decide_eq_true stored]
        cases faults (.delete index) with
        | some fault => exact .inl ⟨_, rfl⟩
        | none => exact .inr ⟨_, .inr rfl, rfl⟩
      · rw [decide_eq_false stored]
        exact .inr ⟨_, .inl ⟨rfl, stored⟩, rfl⟩

theorem deleteOrphanedServices_touching {desired names : List String} (listed : List String)
    (index : Nat) (touched : ∀ name ∈ listed, name ∉ desired → name ∈ names) :
    Respects (touching names .deleted) (deleteOrphanedServices faults desired index listed) := by
  induction listed generalizing index with
  | nil => exact .of_pure ()
  | cons name rest ih =>
      have inner := ih (index + 1) fun other membership =>
        touched other (List.mem_cons_of_mem _ membership)
      by_cases wanted : name ∈ desired
      · rw [deleteOrphanedServices, if_pos wanted]
        exact inner
      · intro primary
        cases deleteOrphanedServices_round wanted index rest primary with
        | inl failed =>
            obtain ⟨failure, ran⟩ := failed
            rw [ran]
            exact (touching names .deleted).refl primary
        | inr went =>
            obtain ⟨middle, dropped, ran⟩ := went
            rw [ran]
            apply (touching names .deleted).trans _ (inner middle)
            cases dropped with
            | inl same => exact same.1 ▸ (touching names .deleted).refl primary
            | inr deleted =>
                rw [deleted]
                exact deleted_touching (touched name List.mem_cons_self wanted) primary

/-- What was absent or is listed and not desired is absent after a loop without a failure. -/
theorem deleteOrphanedServices_absent {desired listed : List String} {index : Nat}
    {primary after : Primary}
    (ran : exec (deleteOrphanedServices faults desired index listed) primary = (.ok (), after))
    {name : String} (unwanted : name ∉ desired)
    (gone : name ∈ listed ∨ primary.services.find? name = none) :
    after.services.find? name = none := by
  induction listed generalizing index primary with
  | nil =>
      cases ran
      exact gone.resolve_left List.not_mem_nil
  | cons head rest ih =>
      by_cases wanted : head ∈ desired
      · rw [deleteOrphanedServices, if_pos wanted] at ran
        apply ih ran
        cases gone with
        | inr absent => exact .inr absent
        | inl membership =>
            cases List.mem_cons.mp membership with
            | inl same => exact absurd (same ▸ wanted) unwanted
            | inr later => exact .inl later
      · cases deleteOrphanedServices_round wanted index rest primary with
        | inl failed =>
            obtain ⟨failure, ended⟩ := failed
            rw [ended] at ran
            cases ran
        | inr went =>
            obtain ⟨middle, dropped, continues⟩ := went
            rw [continues] at ran
            apply ih ran
            by_cases isHead : name = head
            · subst isHead
              cases dropped with
              | inl same => exact .inr (same.1 ▸ Store.find?_eq_none.mpr same.2)
              | inr deleted => exact .inr (deleted ▸ Store.find?_erase_self _ name)
            · cases gone with
              | inl membership => exact .inl ((List.mem_cons.mp membership).resolve_left isHead)
              | inr absent =>
                  cases dropped with
                  | inl same => exact .inr (same.1 ▸ absent)
                  | inr deleted =>
                      exact .inr (deleted ▸ (Store.find?_erase_of_ne isHead).trans absent)

/-! ## Names alone decide -/

/-- Primaries with APIServices of the same names and the same writes behind them. -/
structure Alike (first second : Primary) : Prop where
  keys : ∀ name, name ∈ first.services.keys ↔ name ∈ second.services.keys
  writes : first.writes = second.writes

theorem Alike.applied {first second : Primary} (alike : Alike first second)
    (sent : APIServiceObject) : Alike (first.applied server sent) (second.applied server sent) where
  keys := by
    intro name
    rw [Primary.applied, Primary.applied, Store.mem_keys_insert, Store.mem_keys_insert,
      (server.stores _ sent).name, (server.stores _ sent).name, alike.keys]
  writes := congrArg (· ++ [Write.applied sent.name]) alike.writes

theorem Alike.deleted {first second : Primary} (alike : Alike first second) (name : String) :
    Alike (first.deleted name) (second.deleted name) where
  keys := by
    intro other
    rw [Primary.deleted, Primary.deleted, Store.mem_keys_erase, Store.mem_keys_erase, alike.keys]
  writes := congrArg (· ++ [Write.deleted name]) alike.writes

theorem applyServices_blind (caBundle : String) (pairs : List (String × String)) (index : Nat) :
    Blind Alike (applyServices server faults shard caBundle index pairs) := by
  induction pairs generalizing index with
  | nil => exact .of_pure ()
  | cons pair rest ih =>
      apply Blind.bind _ fun _ => ih (index + 1)
      apply Blind.mapError
      intro first second alike
      rw [exec_patchService, exec_patchService]
      cases faults (.apply index) with
      | some fault => exact ⟨rfl, alike⟩
      | none => exact ⟨rfl, alike.applied _⟩

theorem deleteOrphanedServices_blind (desired listed : List String) (index : Nat) :
    Blind Alike (deleteOrphanedServices faults desired index listed) := by
  induction listed generalizing index with
  | nil => exact .of_pure ()
  | cons name rest ih =>
      by_cases wanted : name ∈ desired
      · rw [deleteOrphanedServices, if_pos wanted]
        exact ih (index + 1)
      · intro first second alike
        rw [exec_deleteOrphanedServices_cons wanted, exec_deleteOrphanedServices_cons wanted,
          decide_eq_decide.mpr (alike.keys name)]
        cases faults (.get index) with
        | some fault => exact ⟨rfl, alike⟩
        | none =>
            cases decide (name ∈ second.services.keys) with
            | false => exact ih (index + 1) first second alike
            | true =>
                cases faults (.delete index) with
                | some fault => exact ⟨rfl, alike⟩
                | none => exact ih (index + 1) _ _ (alike.deleted name)

theorem reconcileServices_blind (caBundle : String) (previouslyRegistered : List String) :
    Blind Alike (reconcileServices server faults shard caBundle previouslyRegistered) :=
  (applyServices_blind caBundle _ 0).bind fun _ =>
    (deleteOrphanedServices_blind _ _ 0).bind fun _ => .of_pure _

/-! ## Reconcile -/

/-- What `Reconcile` promises of its outcome on a primary with these APIServices. -/
structure Specified (shard : APIShard) (caBundle : String) (previouslyRegistered : List String)
    (services : Store APIServiceObject.name)
    (outcome : Except ApiError (List String) × Primary) : Prop where
  registered : ∀ names, outcome.1 = .ok names → names = desiredAPIServiceNames shard
  served : outcome.1.isOk → ∀ apiGroup ∈ shard.spec.apiGroups, ∀ version ∈ apiGroup.versions,
    ∃ object, outcome.2.services.find? (apiServiceName version apiGroup.group) = some object ∧
      object.spec.group = apiGroup.group ∧ object.spec.version = version ∧
      (∃ reference ∈ object.spec.service, reference.name = secondaryServiceName shard ∧
        reference.namespace_ = shard.spec.targetNamespace) ∧
      object.metadata.labels.get? autoManagedLabelKey = some "false" ∧
      (object.spec.insecureSkipTLSVerify = true ↔ caBundle = "")
  removed : outcome.1.isOk → ∀ name ∈ previouslyRegistered, name ∉ desiredAPIServiceNames shard →
    outcome.2.services.find? name = none
  unchanged : ∀ name, name ∉ desiredAPIServiceNames shard → name ∉ previouslyRegistered →
    outcome.2.services.find? name = services.find? name
  kept : ∀ name ∈ desiredAPIServiceNames shard, name ∈ services.keys →
    name ∈ outcome.2.services.keys
  deleted : ∀ name, .deleted name ∈ outcome.2.writes →
    name ∈ previouslyRegistered ∧ name ∉ desiredAPIServiceNames shard
  ordered : ∀ former name latter, outcome.2.writes = former ++ .deleted name :: latter →
    ∀ wanted ∈ desiredAPIServiceNames shard, .applied wanted ∈ former

/-- The apply loop fails, or the deletion loop runs from where it ended. -/
theorem reconcileServices_cases (caBundle : String) (previouslyRegistered : List String)
    (primary : Primary) :
    (∃ failure, exec (reconcileServices server faults shard caBundle previouslyRegistered)
        primary = (.error failure, (exec (applyServices server faults shard caBundle 0
          (versionedGroups shard)) primary).2)) ∨
    ∃ middle answer after,
      exec (applyServices server faults shard caBundle 0 (versionedGroups shard)) primary =
        (.ok (), middle) ∧
      exec (deleteOrphanedServices faults (desiredAPIServiceNames shard) 0 previouslyRegistered)
        middle = (answer, after) ∧
      exec (reconcileServices server faults shard caBundle previouslyRegistered) primary =
        (answer.map fun _ => desiredAPIServiceNames shard, after) := by
  rw [reconcileServices, exec_bind]
  cases applied : exec (applyServices server faults shard caBundle 0 (versionedGroups shard))
      primary with
  | mk answer middle =>
      cases answer with
      | error failure => exact .inl ⟨failure, rfl⟩
      | ok _ =>
          cases deleted : exec (deleteOrphanedServices faults (desiredAPIServiceNames shard) 0
              previouslyRegistered) middle with
          | mk answer after =>
              refine .inr ⟨middle, answer, after, rfl, deleted, ?_⟩
              dsimp only
              rw [exec_bind, deleted]
              cases answer <;> rfl

theorem mem_versionedGroups {apiGroup : APIGroupSpec} (listed : apiGroup ∈ shard.spec.apiGroups)
    {version : String} (served : version ∈ apiGroup.versions) :
    (version, apiGroup.group) ∈ versionedGroups shard :=
  List.mem_flatMap.mpr ⟨apiGroup, listed, List.mem_map.mpr ⟨version, served, rfl⟩⟩

theorem mem_desiredAPIServiceNames {pair : String × String}
    (listed : pair ∈ versionedGroups shard) :
    apiServiceName pair.1 pair.2 ∈ desiredAPIServiceNames shard :=
  List.mem_map.mpr ⟨pair, listed, rfl⟩

/-- A run that stops in the apply loop. -/
theorem specified_of_applying {caBundle : String} {previouslyRegistered : List String}
    {services : Store APIServiceObject.name} {failure : ApiError} {after : Primary}
    (touched : Touching (desiredAPIServiceNames shard) .applied ⟨services, []⟩ after)
    (keys : ∀ name ∈ services.keys, name ∈ after.services.keys) :
    Specified shard caBundle previouslyRegistered services (.error failure, after) := by
  obtain ⟨new, isNew, _⟩ := touched.writes
  have applied : ∀ name, .deleted name ∉ after.writes := by
    intro name membership
    rw [isNew] at membership
    simp at membership
  exact {
    registered := by
      intro _ returned
      cases returned
    served := by
      intro returned
      cases returned
    removed := by
      intro returned
      cases returned
    unchanged := fun name unwanted _ => touched.untouched name unwanted
    kept := fun name _ => keys name
    deleted := fun name membership => absurd membership (applied name)
    ordered := by
      intro former name latter split
      exact absurd (split ▸ List.mem_append_right _ List.mem_cons_self) (applied name) }

/-- What a stored APIService keeps of the one that was sent. -/
theorem Stores.fields {caBundle version group : String} {object : APIServiceObject}
    (stores : Stores (desiredAPIService shard caBundle version group) object) :
    object.spec.group = group ∧ object.spec.version = version ∧
      (∃ reference ∈ object.spec.service, reference.name = secondaryServiceName shard ∧
        reference.namespace_ = shard.spec.targetNamespace) ∧
      object.metadata.labels.get? autoManagedLabelKey = some "false" ∧
      (object.spec.insecureSkipTLSVerify = true ↔ caBundle = "") := by
  refine ⟨stores.group, stores.version, ?_, ?_, ?_⟩
  · exact stores.service ⟨secondaryServiceName shard, shard.spec.targetNamespace, none⟩ rfl
  · exact stores.labels autoManagedLabelKey "false" rfl
  · rw [stores.insecureSkipTLSVerify]
    exact decide_eq_true_iff

/-- A run that enters the deletion loop. -/
theorem specified_of_deleting {caBundle : String} {previouslyRegistered : List String}
    {services : Store APIServiceObject.name} {middle after : Primary}
    {answer : Except ApiError Unit}
    (valid : ∀ pair ∈ versionedGroups shard, '.' ∉ pair.1.toList)
    (applied : exec (applyServices server faults shard caBundle 0 (versionedGroups shard))
      ⟨services, []⟩ = (.ok (), middle))
    (deleted : exec (deleteOrphanedServices faults (desiredAPIServiceNames shard) 0
      previouslyRegistered) middle = (answer, after)) :
    Specified shard caBundle previouslyRegistered services
      (answer.map fun _ => desiredAPIServiceNames shard, after) := by
  have first := (applyServices_touching caBundle _ 0
    fun pair => mem_desiredAPIServiceNames).rel applied
  have second : Touching (previouslyRegistered.filter (· ∉ desiredAPIServiceNames shard))
      .deleted middle after :=
    (deleteOrphanedServices_touching previouslyRegistered 0 fun name listed unwanted =>
      List.mem_filter.mpr ⟨listed, decide_eq_true unwanted⟩).rel deleted
  have outside : ∀ name, name ∈ desiredAPIServiceNames shard ∨ name ∉ previouslyRegistered →
      after.services.find? name = middle.services.find? name := by
    intro name either
    apply second.untouched
    rw [List.mem_filter, decide_eq_true_iff]
    exact fun both => either.elim both.2 fun unlisted => unlisted both.1
  obtain ⟨new, isNew, newNames⟩ := second.writes
  rw [applyServices_ok applied, List.nil_append] at isNew
  have isApplied : ∀ wanted ∈ desiredAPIServiceNames shard, Write.applied wanted ∈
      (versionedGroups shard).map fun pair => .applied (apiServiceName pair.1 pair.2) := by
    intro wanted membership
    obtain ⟨pair, listed, rfl⟩ := List.mem_map.mp membership
    exact List.mem_map.mpr ⟨pair, listed, rfl⟩
  have returns : (answer.map fun _ => desiredAPIServiceNames shard).isOk = true →
      answer = .ok () := by
    cases answer with
    | ok _ => exact fun _ => rfl
    | error failure =>
        intro returned
        cases returned
  refine ⟨?_, ?_, ?_, ?_, ?_, ?_, ?_⟩
  · intro names isNames
    cases answer with
    | ok _ => exact (Except.ok.inj isNames).symm
    | error failure => cases isNames
  · intro returned apiGroup isGroup version isVersion
    have listed := mem_versionedGroups isGroup isVersion
    obtain ⟨object, found, stores⟩ := applyServices_serves valid applied
      (valid _ listed) (.inl listed)
    refine ⟨object, ?_, stores.fields⟩
    rw [← found]
    exact outside _ (.inl (mem_desiredAPIServiceNames listed))
  · intro returned name listed unwanted
    exact deleteOrphanedServices_absent (returns returned ▸ deleted) unwanted (.inl listed)
  · intro name unwanted unlisted
    rw [outside name (.inr unlisted)]
    exact first.untouched name unwanted
  · intro name wanted stored
    have kept := (applyServices_keeps caBundle name _ 0).rel applied stored
    by_contra missing
    rw [← Store.find?_eq_none, outside name (.inl wanted), Store.find?_eq_none] at missing
    exact missing kept
  · intro name membership
    rw [isNew] at membership
    have isDeleted : name ∈ new := by simpa using membership
    have listed := List.mem_filter.mp (newNames isDeleted)
    exact ⟨listed.1, of_decide_eq_true listed.2⟩
  · intro former name latter split wanted membership
    rw [isNew] at split
    -- The writes of the apply loop are no deletions, so they all stand before this one.
    have noDeletion : Write.deleted name ∉
        (versionedGroups shard).map fun pair => .applied (apiServiceName pair.1 pair.2) := by
      simp
    have earlier := Text.prefix_of_notMem noDeletion split.symm
    exact earlier.subset (isApplied wanted membership)

/-- For every shard whose versions have no dot, `Reconcile` does what it promises whichever
of its calls fail, and with the same calls failing it makes the same writes whatever the
labels, owner references and other contents of the stored APIServices are. -/
theorem reconcileServices_specified (server : ForcedApply) (faults : ServerCall → Option Fault)
    (shard : APIShard)
    (valid : ∀ apiGroup ∈ shard.spec.apiGroups, ∀ version ∈ apiGroup.versions,
      '.' ∉ version.toList)
    (caBundle : String) (previouslyRegistered : List String)
    (services : Store APIServiceObject.name) :
    Specified shard caBundle previouslyRegistered services
      (exec (reconcileServices server faults shard caBundle previouslyRegistered)
        { services := services }) ∧
    ∀ others : Store APIServiceObject.name,
      (∀ name, name ∈ others.keys ↔ name ∈ services.keys) →
      (exec (reconcileServices server faults shard caBundle previouslyRegistered)
        { services := others }).2.writes =
      (exec (reconcileServices server faults shard caBundle previouslyRegistered)
        { services := services }).2.writes := by
  constructor
  · cases @reconcileServices_cases server faults shard caBundle previouslyRegistered
        { services := services } with
    | inl stopped =>
        obtain ⟨failure, ran⟩ := stopped
        rw [ran]
        apply specified_of_applying
        · exact applyServices_touching caBundle _ 0 (fun pair => mem_desiredAPIServiceNames) _
        · exact fun name stored => applyServices_keeps caBundle name _ 0 _ stored
    | inr went =>
        obtain ⟨middle, answer, after, applied, deleted, ran⟩ := went
        rw [ran]
        refine specified_of_deleting ?_ applied deleted
        intro pair membership
        obtain ⟨apiGroup, isGroup, inGroup⟩ := List.mem_flatMap.mp membership
        obtain ⟨version, isVersion, rfl⟩ := List.mem_map.mp inGroup
        exact valid apiGroup isGroup version isVersion
  · intro others sameNames
    exact (reconcileServices_blind caBundle previouslyRegistered { services := others }
      { services := services } ⟨sameNames, rfl⟩).2.writes

/-- A server that stores exactly what is sent. -/
def ForcedApply.overwriting : ForcedApply where
  merge _ sent := sent
  stores _ _ := {
    name := rfl
    labels := fun _ _ found => found
    owners := fun _ membership => membership
    group := rfl
    version := rfl
    groupPriorityMinimum := rfl
    versionPriority := rfl
    service := fun reference sent => ⟨reference, sent, rfl, rfl⟩
    caBundle := rfl
    insecureSkipTLSVerify := rfl }

/-- A shard that serves the second version of its group. -/
def secondVersion : APIShard where
  name := "a"
  uid := 1
  generation := 2
  resourceVersion := 7
  spec := {
    targetNamespace := "target"
    apiGroups := [⟨"g", ["v2"]⟩]
    storage := { type := .sqlite } }

/-- The APIService of its first version, with the labels and owner somebody else gave it. -/
def relabelled : Store APIServiceObject.name :=
  Store.empty.insert {
    metadata := {
      name := "v1.g"
      labels := some [("app", "other")]
      ownerReferences := some [⟨"v1", "ConfigMap", "other", 9, none, none⟩] }
    spec := ⟨"g", "v1", 1000, 100, none, "", true⟩ }

theorem reconcileServices_specified_secondVersion :
    (∀ apiGroup ∈ secondVersion.spec.apiGroups, ∀ version ∈ apiGroup.versions,
      '.' ∉ version.toList) ∧
    Specified secondVersion "" ["v1.g"] relabelled
      (exec (reconcileServices .overwriting (fun _ => none) secondVersion "" ["v1.g"])
        { services := relabelled }) :=
  ⟨by decide, (reconcileServices_specified .overwriting (fun _ => none) secondVersion (by decide)
    "" ["v1.g"] relabelled).1⟩

end KubeShard.Aggregation
