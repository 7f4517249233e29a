import KubeShard.Program.Basic

/-!
# Answers of an API server

An API call either answers or fails with an error whose reason callers inspect.
`NotFound` and `AlreadyExists` are answers about the stored objects and are
computed from them; every other failure is a `Fault` that may hit any call at
any time and tells nothing about the store.
-/

namespace KubeShard

/-- Failures of a call that are unrelated to whether its object exists. -/
inductive Cause where
  | conflict
  | invalid
  | noMatch
  | other
  deriving DecidableEq, Repr

/-- The reasons the reconcilers distinguish. -/
inductive Reason where
  | notFound
  | alreadyExists
  | fault (cause : Cause)
  deriving DecidableEq, Repr

/-- An error value: its reason, kept under wrapping, and its text. -/
structure ApiError where
  reason : Reason
  message : String
  deriving DecidableEq, Repr

namespace ApiError

/-- `apierrors.IsNotFound`. -/
def isNotFound (failure : ApiError) : Bool := failure.reason = .notFound

/-- `apierrors.IsAlreadyExists`. -/
def isAlreadyExists (failure : ApiError) : Bool := failure.reason = .alreadyExists

/-- `apierrors.IsInvalid`. -/
def isInvalid (failure : ApiError) : Bool := failure.reason = .fault .invalid

/-- `meta.IsNoMatchError`. -/
def isNoMatch (failure : ApiError) : Bool := failure.reason = .fault .noMatch

/-- `fmt.Errorf("context: %w", err)`. -/
def wrap (context : String) (failure : ApiError) : ApiError :=
  { failure with message := context ++ ": " ++ failure.message }

/-- `fmt.Errorf` without a wrapped error. -/
def errorf (message : String) : ApiError := ⟨.fault .other, message⟩

/-- `apierrors.NewNotFound`: the 404 answer for a missing object.  A cached read names its
kind, a server its plural, each with the API group unless that is the core group. -/
def notFound (resource name : String) : ApiError :=
  ⟨.notFound, s!"{resource} \"{name}\" not found"⟩

/-- `apierrors.NewAlreadyExists`: the 409 answer to a create of an object that is there. -/
def alreadyExists (resource name : String) : ApiError :=
  ⟨.alreadyExists, s!"{resource} \"{name}\" already exists"⟩

/-- `apierrors.NewConflict` with the registry's text: the 409 answer to a stale write. -/
def conflict (resource name : String) : ApiError :=
  ⟨.fault .conflict, s!"Operation cannot be fulfilled on {resource} \"{name}\": " ++
    "the object has been modified; please apply your changes to the latest version and try again"⟩

@[simp] theorem isNotFound_wrap (context : String) (failure : ApiError) :
    (failure.wrap context).isNotFound = failure.isNotFound := rfl

@[simp] theorem isNotFound_notFound (resource name : String) :
    (notFound resource name).isNotFound = true := rfl

@[simp] theorem isAlreadyExists_alreadyExists (resource name : String) :
    (alreadyExists resource name).isAlreadyExists = true := rfl

@[simp] theorem isNotFound_alreadyExists (resource name : String) :
    (alreadyExists resource name).isNotFound = false := rfl

end ApiError

/-- A failure injected into a call. -/
structure Fault where
  cause : Cause
  message : String
  deriving DecidableEq, Repr

namespace Fault

/-- The error a faulty call returns. -/
def error (fault : Fault) : ApiError := ⟨.fault fault.cause, fault.message⟩

@[simp] theorem isNotFound_error (fault : Fault) :
    fault.error.isNotFound = false := rfl

@[simp] theorem isAlreadyExists_error (fault : Fault) :
    fault.error.isAlreadyExists = false := rfl

end Fault

/-- Make one API call: it fails with the fault scheduled for it, or acts. -/
def call {Call σ α : Type} (faults : Call → Option Fault) (request : Call)
    (action : Prog σ ApiError α) : Prog σ ApiError α :=
  match faults request with
  | some fault => throw fault.error
  | none => action

section call

variable {Call σ α : Type} {faults : Call → Option Fault} {request : Call}
variable (action : Prog σ ApiError α)

theorem call_of_fault {fault : Fault} (faulty : faults request = some fault) :
    call faults request action = throw fault.error := by
  simp [call, faulty]

theorem call_of_none (clean : faults request = none) :
    call faults request action = action := by
  simp [call, clean]

/-- A call that returns was made without a fault. -/
theorem exec_call_eq_ok {action : Prog σ ApiError α} {before after : σ} {value : α} :
    Prog.exec (call faults request action) before = (.ok value, after) ↔
      faults request = none ∧ Prog.exec action before = (.ok value, after) := by
  cases outcome : faults request <;> simp [call, outcome]

end call

/-! ## Writes -/

section writes

variable {σ : Type}

/-- Issue a write and log it together with its outcome. -/
def logged (record : Option ApiError → σ → σ) (write : Prog σ ApiError Unit) :
    Prog σ ApiError Unit := do
  match ← write.attempt with
  | .ok () => modify (record none)
  | .error failure =>
      modify (record (some failure))
      throw failure

theorem exec_logged (record : Option ApiError → σ → σ) (write : Prog σ ApiError Unit)
    (state : σ) :
    Prog.exec (logged record write) state =
      match Prog.exec write state with
      | (.ok (), after) => (.ok (), record none after)
      | (.error failure, after) => (.error failure, record (some failure) after) := by
  simp only [logged, Prog.exec_bind, Prog.exec_attempt]
  rcases Prog.exec write state with ⟨answer, after⟩
  cases answer <;> simp [Prog.exec_bind]

/-- Store a new version of an object, which must still be there. -/
def replace {ο : Type} (stored : σ → Option ο) (store : ο → σ → σ) (resource name : String)
    (object : ο) : Prog σ ApiError Unit := do
  match stored (← get) with
  | some _ => modify (store object)
  | none => throw (.notFound resource name)

/-- A logged write that returns no error has stored the object. -/
theorem exec_logged_replace_ok {Call ο : Type} {faults : Call → Option Fault} {request : Call}
    {record : Option ApiError → σ → σ} {stored : σ → Option ο} {store : ο → σ → σ}
    {resource name : String} {object : ο} {before after : σ}
    (ran : Prog.exec (logged record (call faults request
      (replace stored store resource name object))) before = (.ok (), after)) :
    after = record none (store object before) := by
  rw [exec_logged] at ran
  cases fault : faults request with
  | some fault => simp [call, fault] at ran
  | none =>
      cases found : stored before with
      | none => simp [call, fault, replace, Prog.exec_bind, found] at ran
      | some old =>
          simp only [call, fault, replace, Prog.exec_bind, Prog.exec_get, found,
            Prog.exec_modify] at ran
          cases ran
          rfl

end writes

/-- The part of the world that the loops of a sync controller's pass leave alone: the
object, the primary and the clock. -/
structure SameInputs {σ ο π : Type} (theSync : σ → ο) (thePrimary : σ → π) (theClock : σ → Nat)
    (before after : σ) : Prop where
  sync : theSync after = theSync before
  primary : thePrimary after = thePrimary before
  clock : theClock after = theClock before

namespace SameInputs

variable {σ ο π : Type} {theSync : σ → ο} {thePrimary : σ → π} {theClock : σ → Nat}

theorem refl (world : σ) : SameInputs theSync thePrimary theClock world world :=
  ⟨rfl, rfl, rfl⟩

theorem trans {first second third : σ}
    (left : SameInputs theSync thePrimary theClock first second)
    (right : SameInputs theSync thePrimary theClock second third) :
    SameInputs theSync thePrimary theClock first third :=
  ⟨right.sync.trans left.sync, right.primary.trans left.primary, right.clock.trans left.clock⟩

end SameInputs

end KubeShard
