import KubeShard.Apishard.Course

/-!
# A pass is a fixpoint on status

What a pass reads from the status is either left alone or read back as assigned.  A
second pass with the same answers therefore makes the same assignments, and they are
there already.
-/

namespace KubeShard.Apishard

open Resources Prog Aggregation

variable {answers : Answers} {shard : APIShard}

theorem persisted_of_written {now : Nat} {status : APIShardStatus} {assignments : List Assignment}
    (written : (exec (Report.reconcile answers shard (status.assigned now)) {}).2.written =
      some assignments) :
    answers.persisted shard now status = status.assigned now assignments := by
  rw [Answers.persisted, written]

/-- The first status that was persisted, if any. -/
theorem persisted_cases (answers : Answers) (shard : APIShard) (now : Nat)
    (status : APIShardStatus) :
    (exec (Report.reconcile answers shard (status.assigned now)) {}).2.written = none ∧
      answers.persisted shard now status = status ∨
    ∃ assignments,
      (exec (Report.reconcile answers shard (status.assigned now)) {}).2.written =
          some assignments ∧
        answers.persisted shard now status = status.assigned now assignments ∧
        Report.Persisted answers shard status assignments := by
  rcases Report.reconcile_written answers shard now status with
    nothing | ⟨assignments, written, facts⟩
  · exact .inl ⟨nothing, by rw [Answers.persisted, nothing]⟩
  · exact .inr ⟨assignments, written, persisted_of_written written, facts⟩

/-- A status on which registration and conflicts are what they were. -/
structure Rereads (answers : Answers) (shard : APIShard) (before after : APIShardStatus) :
    Prop where
  registration : Report.registration answers shard after.registeredAPIServices =
    Report.registration answers shard before.registeredAPIServices
  conflict : Report.conflict answers shard = none →
    findStatusCondition after.conditions .crdConflict =
      findStatusCondition before.conditions .crdConflict

/-- A pass leaves what it reads as it was, or as it has read it back. -/
theorem persisted_rereads (answers : Answers) (shard : APIShard) (now : Nat)
    (status : APIShardStatus) :
    Rereads answers shard status (answers.persisted shard now status) := by
  rcases persisted_cases answers shard now status with
    ⟨_, same⟩ | ⟨assignments, _, after, facts⟩
  · rw [same]
    exact ⟨rfl, fun _ => rfl⟩
  · rw [after]
    constructor
    · rcases facts.registered with other | ⟨registers, assigned⟩
      · rw [status.registeredAPIServices_assigned now other]
      · have desired : (status.assigned now assignments).registeredAPIServices =
            desiredAPIServiceNames shard :=
          (Assignment.lawful now).holds_all facts.distinct status _ assigned
        rw [desired, registers, Report.registration_desired answers shard registers]
    · intro unlisted
      exact status.findStatusCondition_assigned now (facts.conflict unlisted)

theorem conflictIs_congr {first second : APIShardStatus}
    (same : findStatusCondition first.conditions .crdConflict =
      findStatusCondition second.conditions .crdConflict) (reason : String) :
    conflictIs reason first = conflictIs reason second := by
  rw [conflictIs, conflictIs, same]

/-- Whether the health check sees a conflict with this reason: the one just detected,
or else the one the status began with. -/
def Report.conflictSeen (answers : Answers) (shard : APIShard) (status : APIShardStatus)
    (reason : String) : Bool :=
  match Report.conflict answers shard with
  | some detected => detected.status = .true && detected.reason = reason
  | none => conflictIs reason status

theorem conflictIs_assigned (status : APIShardStatus) (now : Nat)
    {assignments new : List Assignment}
    (before : Slot.condition .crdConflict ∉ assignments.map Assignment.slot)
    (after : Slot.condition .crdConflict ∉ new.map Assignment.slot) (reason : String) :
    conflictIs reason (status.assigned now
        (assignments ++ ((Report.conflict answers shard).map .set).toList ++ new)) =
      Report.conflictSeen answers shard status reason := by
  rw [status.assigned_append,
    conflictIs_congr (APIShardStatus.findStatusCondition_assigned _ now after),
    Report.conflictSeen]
  cases isNew : Report.conflict answers shard with
  | none =>
      simp only [Option.map_none, Option.toList_none, List.append_nil]
      exact conflictIs_congr (status.findStatusCondition_assigned now before) reason
  | some detected =>
      rw [status.assigned_append]
      obtain ⟨time, found⟩ := findStatusCondition_set_self now detected
        (status.assigned now assignments).conditions
      rw [Report.conflict_type answers shard isNew] at found
      simp only [conflictIs, Option.map_some, Option.toList_some, APIShardStatus.assigned,
        Assign.applyAll_cons, Assign.applyAll_nil, Assignment.apply]
      simp only [APIShardStatus.assigned] at found
      rw [found]
      rfl

/-- What the health check of a pass sees once the APIServices are registered. -/
theorem conflictIs_registered (answers : Answers) (shard : APIShard) (status : APIShardStatus)
    (now : Nat) {assignments new : List Assignment}
    (within : Report.Within Report.resourceSlots assignments)
    (newWithin : Report.Within Report.healthSlots new) (reason : String) :
    conflictIs reason (status.assigned now (assignments ++
        [.registeredAPIServices (desiredAPIServiceNames shard)] ++
        ((Report.conflict answers shard).map .set).toList ++ new)) =
      Report.conflictSeen answers shard status reason := by
  have outside : Slot.condition .crdConflict ∉ (assignments ++
      [Assignment.registeredAPIServices (desiredAPIServiceNames shard)]).map Assignment.slot := by
    rw [List.map_append, List.mem_append, not_or]
    exact ⟨within.not_mem (by decide), by simp [Assignment.slot]⟩
  exact conflictIs_assigned status now outside (newWithin.not_mem (by decide)) reason

/-- A pass on a status with the same registration and conflict takes the same course. -/
theorem reconcile_again (now later : Nat) {before after : APIShardStatus}
    (rereads : Rereads answers shard before after) :
    exec (Report.reconcile answers shard (after.assigned later)) {} =
      exec (Report.reconcile answers shard (before.assigned now)) {} := by
  rw [Report.exec_reconcile, Report.exec_reconcile]
  cases answers.finalizer with
  | error failure => rfl
  | ok value =>
      obtain ⟨assignments, ⟨ran, within⟩ | ⟨failure, ran, within⟩⟩ :=
        Report.reconcileResources_cases answers shard
      · simp only [ran, Report.registered_assigned _ _ within, rereads.registration]
        cases Report.registration answers shard before.registeredAPIServices with
        | error failure => rfl
        | ok value =>
            dsimp only
            rw [Report.exec_reconcileHealth, Report.exec_reconcileHealth,
              Report.updateHealthStatus_congr]
            intro new newWithin reason
            rw [conflictIs_registered answers shard after later within newWithin,
              conflictIs_registered answers shard before now within newWithin]
            unfold Report.conflictSeen
            cases isNew : Report.conflict answers shard with
            | none => exact conflictIs_congr (rereads.conflict isNew) reason
            | some detected => rfl
      · simp only [ran]

/-- A second pass with the same answers leaves the status the first one has persisted
exactly as it is, whatever the clock says. -/
theorem persisted_fixpoint (answers : Answers) (shard : APIShard) (now later : Nat)
    (status : APIShardStatus) :
    answers.persisted shard later (answers.persisted shard now status) =
      answers.persisted shard now status := by
  have again := reconcile_again now later (persisted_rereads answers shard now status)
  rcases persisted_cases answers shard now status with
    ⟨nothing, same⟩ | ⟨assignments, written, after, facts⟩
  · rw [← again] at nothing
    rw [Answers.persisted, nothing]
  · rw [← again] at written
    rw [Answers.persisted, written, after]
    exact Assign.applyAll_twice (Assignment.lawful now) (Assignment.lawful later) facts.distinct
      status

end KubeShard.Apishard
