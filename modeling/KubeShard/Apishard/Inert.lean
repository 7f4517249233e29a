import KubeShard.Apishard.Cleanup

/-!
# Steps that leave all objects as they are

The steps of a pass that read, report, register APIServices, synchronise CRDs and look after the
sync objects change no object of the cluster, the shared ones included.
-/

namespace KubeShard.Apishard

open Resources Prog Aggregation

/-- The frame of steps that leave all objects as they are. -/
def inert : Frame State :=
  ⟨Lays [], fun _ => .none rfl rfl rfl, fun left right => left.trans right⟩

section inclusions

variable {ctx : Schedule} {α : Type} {program : Pass α}

theorem inert_of_aloof (respects : Respects (aloof ctx) program) : Respects inert program :=
  respects.mono fun _ _ aloof => .none aloof.objects aloof.unserved aloof.untouched.same

theorem inert_of_observing (respects : Respects (observing ctx) program) :
    Respects inert program :=
  inert_of_aloof (aloof_of_observing respects)

end inclusions

variable (ctx : Schedule) (shard : APIShard)

theorem updateStatus_inert (request : Call) :
    Respects inert (updateStatus ctx request shard) := by
  intro state
  rcases updateStatus_cases ctx shard request state with ⟨failure, ran⟩ | ⟨stored, _, _, _, ran⟩
  · rw [ran]
    exact .none rfl rfl rfl
  · rw [ran]
    exact .none rfl rfl rfl

theorem initializePhase_inert : Respects inert (initializePhase ctx shard) := by
  apply Respects.of_get.bind
  intro state
  apply Respects.ite _ (.of_pure _)
  exact (inert_of_observing (setPhase_observing ctx _)).bind fun _ => updateStatus_inert ctx shard _

theorem reconcileAPIServices_inert : Respects inert (reconcileAPIServices ctx shard) := by
  have registers {wanted listed : List String} {before after : State}
      (registering : Registering ctx shard wanted listed before after) : Lays [] before after := by
    apply Lays.none
    · rw [registering.cluster]
    · rw [registering.cluster]
      rfl
    · exact registering.tracked
  intro state
  cases ran : exec (reconcileAPIServices ctx shard) state with
  | mk answer after =>
      cases answer with
      | error failure => exact registers (reconcileAPIServices_error ran)
      | ok value =>
          obtain ⟨registered, registering, _, _, rfl⟩ := reconcileAPIServices_ok ran
          exact (registers registering).trans (.none rfl rfl rfl)

theorem reportSuccess_inert : Respects inert (reportSuccess ctx shard) :=
  (inert_of_observing (setReconciled_observing ctx shard)).bind fun _ =>
    updateStatus_inert ctx shard _

end KubeShard.Apishard
