import KubeShard.Apishard.Completion
import KubeShard.Program.Selection
import KubeShard.Program.Text

/-!
# Status and the order of lists

The API server and the cached client list objects in no particular order.  The status
of a pass keeps an order of the CRD list where two CRDs conflict, and one of the
APIService list where the availability gate finds two APIServices unavailable.
-/

namespace KubeShard.Apishard

open Resources Prog Aggregation

/-- Two answers to one List: the same objects, in whatever order. -/
inductive SameObjects {α : Type} :
    Except ApiError (List α) → Except ApiError (List α) → Prop where
  | error (failure : ApiError) : SameObjects (.error failure) (.error failure)
  | ok {first second : List α} (order : first.Perm second) : SameObjects (.ok first) (.ok second)

/-- The persisted status is the same in whatever order the CRDs and the APIServices
are listed. -/
def Answers.OrderFree (answers : Answers) (shard : APIShard) (now : Nat)
    (status : APIShardStatus) : Prop :=
  ∀ crds services, SameObjects answers.crds crds → SameObjects answers.services services →
    (answers.listing crds services).persisted shard now status =
      answers.persisted shard now status

/-! ## Messages that name what comes first -/

/-- An APIService of the shard that is not available. -/
def failing (shard : APIShard) (service : APIService) : Bool :=
  service.controller = some shard.uid && (unavailable service).isSome

/-- The verdict on a listing: on the first APIService that is unavailable, if any. -/
theorem checkOwned_eq (shard : APIShard) (services : List APIService) :
    checkOwned shard.uid services =
      match services.filter (failing shard) with
      | service :: _ => unavailable service
      | [] =>
          if services.any fun service => service.controller = some shard.uid then none
          else some "no APIServices owned by shard" := by
  have selected : services.filter (failing shard) =
      (services.filter fun service => service.controller = some shard.uid).filter
        fun service => (unavailable service).isSome := by
    rw [List.filter_filter]
    congr 1
    funext service
    rw [failing, Bool.and_comm]
  rw [selected, checkOwned]
  cases owned : services.filter fun service => service.controller = some shard.uid with
  | nil =>
      have noneOwned : (services.any fun service => service.controller = some shard.uid) =
          false := by
        rw [List.any_eq_false]
        exact List.filter_eq_nil_iff.mp owned
      simp [noneOwned]
  | cons service rest =>
      have someOwned : (services.any fun service => service.controller = some shard.uid) =
          true := by
        have membership : service ∈ services.filter fun service =>
            service.controller = some shard.uid := owned ▸ List.mem_cons_self
        rw [List.any_eq_true]
        exact ⟨service, List.mem_filter.mp membership⟩
      rw [someOwned, if_pos rfl]
      apply (Selection.findSome_eq unavailable (service :: rest)).trans
      cases (service :: rest).filter fun service => (unavailable service).isSome <;> rfl

/-- The verdict has an order only where two APIServices are unavailable. -/
theorem checkOwned_perm {shard : APIShard} {first second : List APIService}
    (order : first.Perm second) (few : (first.filter (failing shard)).length ≤ 1) :
    checkOwned shard.uid second = checkOwned shard.uid first := by
  rw [checkOwned_eq, checkOwned_eq, Selection.filter_eq_of_perm order few, order.any_eq]

theorem unavailable_of_failing {shard : APIShard} {service : APIService}
    (fails : failing shard service = true) : ∃ message, unavailable service = some message := by
  rw [failing, Bool.and_eq_true] at fails
  exact Option.isSome_iff_exists.mp fails.2

/-- A verdict begins with the name of the APIService. -/
theorem unavailable_text {service : APIService} {message : String}
    (found : unavailable service = some message) : ∃ rest,
    message = "APIService " ++ (service.name ++ String.singleton ' ' ++ rest) := by
  unfold unavailable at found
  split at found
  · refine ⟨"has no Available condition yet", (Option.some.inj found).symm.trans ?_⟩
    have gap : " has no Available condition yet" =
      String.singleton ' ' ++ "has no Available condition yet" := by decide +kernel
    simp only [toString, gap, String.append_assoc]
  · cases found
  · next text _ _ =>
      refine ⟨"not yet available: " ++ text, (Option.some.inj found).symm.trans ?_⟩
      have gap : " not yet available: " =
        String.singleton ' ' ++ "not yet available: " := by decide +kernel
      simp only [toString, gap, String.append_assoc]

theorem unavailable_injective {first second : APIService} {message : String}
    (plain : ' ' ∉ first.name.toList) (otherPlain : ' ' ∉ second.name.toList)
    (found : unavailable first = some message) (otherFound : unavailable second = some message) :
    first.name = second.name := by
  obtain ⟨rest, isMessage⟩ := unavailable_text found
  obtain ⟨otherRest, same⟩ := unavailable_text otherFound
  rw [isMessage, String.append_right_inj] at same
  exact Text.split_first plain otherPlain same

/-- The message of two conflicts begins with the name of the first. -/
theorem conflictMessage_text (name next tail : String) (rest : List String) :
    conflictMessage (name :: next :: rest) ++ tail =
      "CRDs on primary conflict with aggregation: " ++ (name ++ String.singleton ',' ++
        (" " ++ (", ".intercalate (next :: rest) ++ tail))) := by
  have gap : ", " = String.singleton ',' ++ " " := by decide +kernel
  have comma (text : String) : name ++ ", " ++ text =
      name ++ String.singleton ',' ++ (" " ++ text) := by
    rw [gap, String.append_assoc, String.append_assoc, String.append_assoc]
  unfold conflictMessage
  rw [String.intercalate_cons_cons, String.append_assoc, String.append_assoc, comma]

theorem conflict_message {answers : Answers} {shard : APIShard} {crds : List CRD}
    (listed : answers.crds = .ok crds) {first second : CRD} {rest : List CRD}
    (conflicts : conflicting shard crds = first :: second :: rest) :
    ∃ new tail, Report.conflict answers shard = some new ∧
      new.message = conflictMessage (first.name :: second.name :: rest.map CRD.name) ++ tail := by
  unfold Report.conflict
  simp only [listed, conflicts, List.map_cons]
  cases Report.syncCRDsToSecondary answers (first.name :: second.name :: rest.map CRD.name) with
  | ok value => exact ⟨_, "; CRDs synced to secondary", rfl, rfl⟩
  | error failure =>
      refine ⟨_, "; sync failed: " ++ failure.message, rfl, ?_⟩
      exact String.append_assoc

/-! ## Whole passes -/

section passes

variable {answers : Answers} {shard : APIShard} {now : Nat} {status : APIShardStatus}
  {crds : Except ApiError (List CRD)} {services : Except ApiError (List APIService)}

theorem synced_listing (sameCRDs : SameObjects answers.crds crds) :
    (answers.listing crds services).synced shard status = answers.synced shard status := by
  unfold Answers.synced
  rw [show (answers.listing crds services).crds = crds from rfl]
  generalize answers.crds = given at sameCRDs ⊢
  cases sameCRDs with
  | error failure => rfl
  | ok order =>
      have selected := order.filter fun crd => decide (crd.group ∈ aggregatedGroups shard)
      simp only [conflicting, Answers.listing]
      rw [selected.isEmpty_eq, selected.all_eq]

theorem gated_listing (sameCRDs : SameObjects answers.crds crds) :
    (answers.listing crds services).gated shard status = answers.gated shard status := by
  unfold Answers.gated
  rw [synced_listing sameCRDs]
  rfl

theorem isOk_of_sameObjects {α : Type} {first second : Except ApiError (List α)}
    (same : SameObjects first second) : second.isOk = first.isOk := by
  cases same <;> rfl

theorem completes_listing (sameCRDs : SameObjects answers.crds crds)
    (sameServices : SameObjects answers.services services) :
    (answers.listing crds services).completes shard status = answers.completes shard status := by
  unfold Answers.completes
  rw [gated_listing sameCRDs, show (answers.listing crds services).services = services from rfl,
    isOk_of_sameObjects sameServices]
  rfl

/-- The assignments a pass that gets to its final write persists. -/
theorem persisted_of_completes (now : Nat) (completes : answers.completes shard status = true) :
    ∃ ops, answers.persisted shard now status = status.assigned now ops ∧
      (ops.map Assignment.slot).Nodup ∧
      (∀ new, Report.conflict answers shard = some new → .set new ∈ ops) ∧
      (answers.gated shard status = true → ∀ services message, answers.services = .ok services →
        checkOwned shard.uid services = some message →
        .set ⟨.apiServicesRegistered, .false, "APIServicesNotAvailable", message,
          shard.generation⟩ ∈ ops) := by
  rw [Answers.completes, Bool.and_assoc, Bool.and_eq_true] at completes
  obtain ⟨assignments, within, course⟩ := Report.reconcile_of_succeeds now completes.1
  have ended : (exec (Report.updateHealthStatus answers shard (status.assigned now))
      (Report.detected answers shard assignments)).1.isOk = true :=
    (Report.updateHealthStatus_isOk within).trans completes.2
  have written := (congrArg (·.2.written) (course answers.crds answers.services)).trans
    (Report.reconcileHealth_written ended)
  rw [answers.listing_self] at written
  refine ⟨_, persisted_of_written written, Report.distinct_updateHealthStatus within, ?_, ?_⟩
  · intro new isNew
    exact List.mem_append_left _ (Report.conflict_mem_updateHealthStatus isNew)
  · intro gated services message listed found
    exact List.mem_append_left _
      (Report.updateHealthStatus_unavailable within gated listed found)

/-- A pass that does not get to its final write says nothing about the lists. -/
theorem orderFree_of_incomplete (incomplete : answers.completes shard status = false) :
    answers.OrderFree shard now status := by
  intro crds services sameCRDs sameServices
  have again := (completes_listing sameCRDs sameServices).trans incomplete
  unfold Answers.persisted
  cases succeeds : answers.succeeds shard status with
  | false => rw [Report.reconcile_of_fails succeeds]
  | true =>
      obtain ⟨assignments, within, course⟩ := Report.reconcile_of_succeeds now succeeds
      have unwritten {other : Answers} (same : other.succeeds shard status = true)
          (incomplete : other.completes shard status = false) :
          (exec (Report.reconcileHealth other shard (status.assigned now))
            ⟨assignments ++ [.registeredAPIServices (desiredAPIServiceNames shard)],
              some [.initialPhase]⟩).2.written = some [.initialPhase] := by
        rw [Answers.completes, same, Bool.true_and] at incomplete
        exact Report.reconcileHealth_unwritten
          ((Report.updateHealthStatus_isOk within).trans incomplete)
      have first := unwritten succeeds incomplete
      have second := unwritten (show (answers.listing crds services).succeeds shard status = true
        from succeeds) again
      rw [course crds services, second]
      have ran := course answers.crds answers.services
      rw [answers.listing_self] at ran
      rw [ran, first]

/-- Where nothing listed has an order, a pass takes the same course. -/
theorem orderFree_of_few
    (few : ∀ crds, answers.crds = .ok crds → (conflicting shard crds).length ≤ 1)
    (fewServices : answers.gated shard status = true → ∀ services, answers.services = .ok services →
      (services.filter (failing shard)).length ≤ 1) :
    answers.OrderFree shard now status := by
  intro crds services sameCRDs sameServices
  have conflicts : Report.conflict (answers.listing crds services) shard =
      Report.conflict answers shard := by
    unfold Report.conflict
    rw [show (answers.listing crds services).crds = crds from rfl]
    generalize listed : answers.crds = given at sameCRDs ⊢
    cases sameCRDs with
    | error failure => rfl
    | ok order =>
        have selected := Selection.filter_eq_of_perm order (few _ listed)
        simp only [conflicting] at selected ⊢
        rw [selected]
        rfl
  have verdicts (gated : answers.gated shard status = true) :
      services.map (checkOwned shard.uid) = answers.services.map (checkOwned shard.uid) := by
    generalize listed : answers.services = given at sameServices ⊢
    cases sameServices with
    | error failure => rfl
    | ok order => exact congrArg Except.ok (checkOwned_perm order (fewServices gated _ listed))
  unfold Answers.persisted
  cases succeeds : answers.succeeds shard status with
  | false => rw [Report.reconcile_of_fails succeeds]
  | true =>
      obtain ⟨assignments, within, course⟩ := Report.reconcile_of_succeeds now succeeds
      have own := course answers.crds answers.services
      rw [answers.listing_self] at own
      have health : exec (Report.updateHealthStatus (answers.listing crds services) shard
          (status.assigned now)) (Report.detected answers shard assignments) = _ :=
        Report.updateHealthStatus_listing within verdicts
      simp only [Report.detected] at health
      rw [course crds services, own, Report.exec_reconcileHealth, Report.exec_reconcileHealth,
        conflicts]
      simp only [health]

/-- The lists hold stored objects: no name occurs twice, and names are such as the API
server admits, without commas and spaces. -/
structure Answers.Listed (answers : Answers) : Prop where
  crds : ∀ crds, answers.crds = .ok crds →
    (crds.map CRD.name).Nodup ∧ ∀ crd ∈ crds, ',' ∉ crd.name.toList
  services : ∀ services, answers.services = .ok services →
    (services.map APIService.name).Nodup ∧ ∀ service ∈ services, ' ' ∉ service.name.toList

/-- Whether the status of the pass is free of the order of the lists. -/
def Answers.Unordered (answers : Answers) (shard : APIShard) (status : APIShardStatus) : Prop :=
  answers.completes shard status = true →
    (∀ crds, answers.crds = .ok crds → (conflicting shard crds).length ≤ 1) ∧
    (answers.gated shard status = true → ∀ services, answers.services = .ok services →
      (services.filter (failing shard)).length ≤ 1)

theorem SameObjects.refl {α : Type}
    (given : Except ApiError (List α)) : SameObjects given given := by
  cases given with
  | error failure => exact .error failure
  | ok list => exact .ok (List.Perm.refl list)

/-- Conditions of one type in one status have one message. -/
theorem message_eq {first second : NewCondition ShardCondition} {ops others : List Assignment}
    (same : status.assigned now ops = status.assigned now others)
    (distinct : (ops.map Assignment.slot).Nodup)
    (distinctOthers : (others.map Assignment.slot).Nodup) (isSet : .set first ∈ ops)
    (isOther : .set second ∈ others) (types : first.type = second.type) :
    first.message = second.message := by
  obtain ⟨time, found⟩ := (Assignment.lawful now).holds_all distinct status _ isSet
  obtain ⟨otherTime, otherFound⟩ :=
    (Assignment.lawful now).holds_all distinctOthers status _ isOther
  have applied : Assign.applyAll (Assignment.apply now) ops status =
    Assign.applyAll (Assignment.apply now) others status := same
  rw [applied, types, otherFound] at found
  exact congrArg Condition.message (Option.some.inj found).symm

section necessary

variable (listed : answers.Listed) (completes : answers.completes shard status = true)
  (free : answers.OrderFree shard now status)
include listed completes free

/-- Two conflicts swapped are two messages. -/
theorem conflicts_of_orderFree {crds : List CRD} (isListed : answers.crds = .ok crds) :
    (conflicting shard crds).length ≤ 1 := by
  rcases conflicts : conflicting shard crds with _ | ⟨first, _ | ⟨second, rest⟩⟩
  · exact Nat.zero_le 1
  · exact Nat.le_refl 1
  · obtain ⟨other, order, swapped⟩ := Selection.exists_swapped conflicts
    have sameCRDs : SameObjects answers.crds (.ok other) := by
      rw [isListed]
      exact .ok order
    have same := free (.ok other) answers.services sameCRDs (.refl _)
    have completesToo := (completes_listing sameCRDs (.refl answers.services)).trans completes
    obtain ⟨ops, persisted, distinct, isSet, _⟩ := persisted_of_completes now completes
    obtain ⟨others, otherPersisted, distinctOthers, isOther, _⟩ :=
      persisted_of_completes now completesToo
    obtain ⟨new, tail, isNew, message⟩ := conflict_message isListed conflicts
    obtain ⟨otherNew, otherTail, isOtherNew, otherMessage⟩ :=
      conflict_message (show (answers.listing (.ok other) answers.services).crds = .ok other
        from rfl)
        swapped
    rw [persisted, otherPersisted] at same
    have messages := message_eq same.symm distinct distinctOthers (isSet _ isNew)
      (isOther _ isOtherNew) ((Report.conflict_type _ _ isNew).trans
        (Report.conflict_type _ _ isOtherNew).symm)
    rw [message, otherMessage, conflictMessage_text, conflictMessage_text,
      String.append_right_inj] at messages
    have inFirst : first ∈ crds := List.mem_of_mem_filter (conflicts ▸ List.mem_cons_self)
    have inSecond : second ∈ crds := order.mem_iff.mpr
      (List.mem_of_mem_filter (swapped ▸ List.mem_cons_self))
    have names := Text.split_first ((listed.crds crds isListed).2 first inFirst)
      ((listed.crds crds isListed).2 second inSecond) messages
    exact absurd names (Selection.names_ne (listed.crds crds isListed).1 conflicts)

/-- Two unavailable APIServices swapped are two messages. -/
theorem services_of_orderFree (gated : answers.gated shard status = true)
    {services : List APIService} (isListed : answers.services = .ok services) :
    (services.filter (failing shard)).length ≤ 1 := by
  rcases failures : services.filter (failing shard) with _ | ⟨first, _ | ⟨second, rest⟩⟩
  · exact Nat.zero_le 1
  · exact Nat.le_refl 1
  · obtain ⟨other, order, swapped⟩ := Selection.exists_swapped failures
    have sameServices : SameObjects answers.services (.ok other) := by
      rw [isListed]
      exact .ok order
    have same := free answers.crds (.ok other) (.refl _) sameServices
    have completesToo := (completes_listing (.refl answers.crds) sameServices).trans completes
    have gatedToo : (answers.listing answers.crds (.ok other)).gated shard status = true :=
      (gated_listing (.refl answers.crds)).trans gated
    obtain ⟨ops, persisted, distinct, _, isSet⟩ := persisted_of_completes now completes
    obtain ⟨others, otherPersisted, distinctOthers, _, isOther⟩ :=
      persisted_of_completes now completesToo
    have inFirst := List.mem_filter.mp (failures ▸ List.mem_cons_self :
      first ∈ services.filter (failing shard))
    have inSecond := List.mem_filter.mp (swapped ▸ List.mem_cons_self :
      second ∈ other.filter (failing shard))
    obtain ⟨message, unavailableFirst⟩ := unavailable_of_failing inFirst.2
    obtain ⟨otherMessage, unavailableSecond⟩ := unavailable_of_failing inSecond.2
    have verdict : checkOwned shard.uid services = some message := by
      rw [checkOwned_eq, failures]
      exact unavailableFirst
    have otherVerdict : checkOwned shard.uid other = some otherMessage := by
      rw [checkOwned_eq, swapped]
      exact unavailableSecond
    rw [persisted, otherPersisted] at same
    have messages : message = otherMessage :=
      message_eq same.symm distinct distinctOthers (isSet gated _ _ isListed verdict)
        (isOther gatedToo _ _ rfl otherVerdict) rfl
    rw [← messages] at unavailableSecond
    have plain := (listed.services services isListed).2
    have names := unavailable_injective (plain first inFirst.1)
      (plain second (order.mem_iff.mpr inSecond.1)) unavailableFirst unavailableSecond
    exact absurd names (Selection.names_ne (listed.services services isListed).1 failures)

end necessary

/-- The status is the same for every order of the two lists if and only if the pass ends
before its final write, or at most one CRD conflicts and, where availability is asked
for, at most one APIService of the shard is unavailable. -/
theorem orderFree_iff (now : Nat) (listed : answers.Listed) :
    answers.OrderFree shard now status ↔ answers.Unordered shard status := by
  constructor
  · intro free completes
    exact ⟨fun crds isListed => conflicts_of_orderFree listed completes free isListed,
      fun gated services isListed => services_of_orderFree listed completes free gated isListed⟩
  · intro unordered
    cases completes : answers.completes shard status with
    | false => exact orderFree_of_incomplete completes
    | true => exact orderFree_of_few (unordered completes).1 (unordered completes).2

end passes

/-- A shard for the group `g`. -/
def groupShard : APIShard where
  name := "a"
  uid := 0
  generation := 1
  resourceVersion := 1
  spec :=
    { targetNamespace := "target", apiGroups := [⟨"g", ["v1"]⟩], storage := { type := .sqlite } }

/-- A CRD of that group. -/
def groupCRD (name : String) : CRD := ⟨name, 0, [], [], "g", none, ""⟩

/-- One conflicting CRD among others leaves no order. -/
theorem orderFree_iff_single :
    let answers : Answers := { crds := .ok [groupCRD "as.g", ⟨"bs.h", 0, [], [], "h", none, ""⟩] }
    answers.Listed ∧ answers.OrderFree groupShard 0 {} := by
  intro answers
  have listed : answers.Listed := by
    constructor
    · intro crds isListed
      obtain rfl := Except.ok.inj isListed
      decide +kernel
    · intro services isListed
      obtain rfl := Except.ok.inj isListed
      decide
  refine ⟨listed, (orderFree_iff 0 listed).mpr fun _ => ⟨?_, ?_⟩⟩
  · intro crds isListed
    obtain rfl := Except.ok.inj isListed
    decide +kernel
  · intro _ services isListed
    obtain rfl := Except.ok.inj isListed
    decide

/-- Two conflicting CRDs, listed one way and the other, leave two statuses. -/
theorem crd_order_changes_status :
    ({ crds := .ok [groupCRD "as.g", groupCRD "bs.g"] } : Answers).persisted groupShard 0 {} ≠
      ({ crds := .ok [groupCRD "bs.g", groupCRD "as.g"] } : Answers).persisted groupShard 0 {} := by
  decide +kernel

end KubeShard.Apishard
