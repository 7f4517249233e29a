import KubeShard.Webhooksync.Sync

/-!
# Which configurations a WebhookSync pass deletes

A configuration is stale when the primary has none of its name that should be
synced.  The pass decides staleness by the outcome of its own calls instead: a
wanted configuration that is on the secondary and whose read or update failed is
not counted as synced, and the deletion loop issues a delete for it.
-/

namespace KubeShard.Webhooksync

open Prog

variable {ρ : Type} {η : Kind → Type}

/-- The primary holds a configuration of this name that should be synced. -/
def Wanted (kind : Kind) (world : World ρ η) (name : String) : Prop :=
  ∃ whSync, world.sync = some whSync ∧
    ∃ src ∈ (world.primary kind).items, src.name = name ∧
      shouldSync kind src.webhooks whSync.apiGroups

/-- The configuration is wanted, but the pass fails to read or to update it. -/
def Unsynced (faults : Call → Option Fault) (kind : Kind) (world : World ρ η)
    (name : String) : Prop :=
  Wanted kind world name ∧
    (faults (.get kind name) ≠ none ∨ faults (.update kind name) ≠ none)

/-- Whenever the deletion loop would come to a wanted configuration that was not
synced, it has stopped at the failed delete of a stale one before it. -/
def StopsBeforeWanted (faults : Call → Option Fault) (kind : Kind)
    (world : World ρ η) : Prop :=
  ∀ earlier name later, (world.secondary kind).keys = earlier ++ name :: later →
    Unsynced faults kind world name →
    ∃ stale ∈ earlier, ¬Wanted kind world stale ∧ faults (.delete kind stale) ≠ none

/-- The failures that spare every wanted configuration: the pass stops before its
deletions, or of each kind it cannot list the secondary or stops in time. -/
def SparesWanted (faults : Call → Option Fault) (world : World ρ η) : Prop :=
  ∀ whSync, Reaches faults world whSync → ∀ kind,
    faults (.listSecondary kind) = none → StopsBeforeWanted faults kind world

section handled

variable {faults : Call → Option Fault} {kind : Kind} {targetGroups : List String}
variable {world start synced listing finished : World ρ η} {names : List String}
variable {whSync : WebhookSync}

theorem mem_asked {sources : List (Configuration ρ (η kind))}
    {src : Configuration ρ (η kind)} :
    src ∈ asked kind targetGroups sources ↔
      src ∈ sources ∧ shouldSync kind src.webhooks targetGroups := by
  simp [asked]

variable [DecidableEq ρ] [∀ kind, DecidableEq (η kind)]

theorem Handles.succeeds_iff
    (handles : Handles faults targetGroups kind world start synced listing finished names)
    {name : String} (present : name ∈ (world.secondary kind).keys) :
    Succeeds faults kind start name ↔
      faults (.get kind name) = none ∧ faults (.update kind name) = none := by
  rw [Succeeds, handles.sameStart, if_pos present]

/-- A configuration of the secondary is synced if it is wanted and no call for it
fails. -/
theorem Handles.mem_names_iff
    (handles : Handles faults whSync.apiGroups kind world start synced listing finished names)
    (sync : world.sync = some whSync) {name : String}
    (present : name ∈ (world.secondary kind).keys) :
    name ∈ names ↔ Wanted kind world name ∧ ¬Unsynced faults kind world name := by
  rw [handles.syncs.names_iff, Unsynced]
  constructor
  · rintro ⟨src, srcMem, named, succeeds⟩
    rw [handles.succeeds_iff present] at succeeds
    obtain ⟨srcMem, wanted⟩ := mem_asked.mp srcMem
    refine ⟨⟨whSync, sync, src, srcMem, named, wanted⟩, ?_⟩
    rintro ⟨-, read | write⟩
    · exact read succeeds.1
    · exact write succeeds.2
  · rintro ⟨⟨other, otherSync, src, srcMem, named, wanted⟩, noFault⟩
    cases sync.symm.trans otherSync
    refine ⟨src, mem_asked.mpr ⟨srcMem, wanted⟩, named, ?_⟩
    rw [handles.succeeds_iff present]
    by_contra fails
    rw [not_and_or] at fails
    exact noFault ⟨⟨whSync, sync, src, srcMem, named, wanted⟩, fails⟩

/-- The names created by this pass are current, so only names that were on the
secondary before can be deleted. -/
theorem Handles.mem_issuedDeletes_iff
    (handles : Handles faults targetGroups kind world start synced listing finished names)
    (lists : faults (.listSecondary kind) = none) {name : String} :
    name ∈ issuedDeletes faults kind names (listedNames faults kind listing) ↔
      name ∉ names ∧ ∃ earlier later,
        (world.secondary kind).keys = earlier ++ name :: later ∧
        ∀ stale ∈ earlier, stale ∉ names → faults (.delete kind stale) = none := by
  obtain ⟨created, keys, current⟩ := handles.syncs.keys
  have listed : listedNames faults kind listing = (world.secondary kind).keys ++ created := by
    simp only [listedNames, lists, Option.isNone_none, if_true, handles.sameListing, keys,
      handles.sameStart]
  rw [mem_issuedDeletes, listed]
  refine and_congr_right fun notCurrent => ⟨?_, ?_⟩
  · rintro ⟨earlier, later, split, passes⟩
    rcases List.append_eq_append_iff.mp split with
      ⟨middle, rfl, createdEq⟩ | ⟨middle, keysEq, tail⟩
    · exact absurd (current name (by simp [createdEq])) notCurrent
    · cases middle with
      | nil =>
          rw [List.nil_append] at tail
          exact absurd (current name (by simp [← tail])) notCurrent
      | cons head middle =>
          cases tail
          exact ⟨earlier, middle, keysEq, passes⟩
  · rintro ⟨earlier, later, split, passes⟩
    exact ⟨earlier, later ++ created, by rw [split]; simp, passes⟩

/-- Within one kind, wanted configurations are spared exactly if the loop stops
before them. -/
theorem Handles.spares_iff
    (handles : Handles faults whSync.apiGroups kind world start synced listing finished names)
    (sync : world.sync = some whSync) (lists : faults (.listSecondary kind) = none) :
    (∀ name, Wanted kind world name →
        name ∉ issuedDeletes faults kind names (listedNames faults kind listing)) ↔
      StopsBeforeWanted faults kind world := by
  constructor
  · intro spares earlier name later split unsynced
    have notSynced : name ∉ names := fun membership =>
      ((handles.mem_names_iff sync (by simp [split])).mp membership).2 unsynced
    -- the first failing delete before `name` is the one the loop stops at
    cases found : earlier.find? fun other =>
        decide (other ∉ names) && (faults (.delete kind other)).isSome with
    | none =>
        refine absurd (handles.mem_issuedDeletes_iff lists |>.mpr
          ⟨notSynced, earlier, later, split, ?_⟩) (spares name unsynced.1)
        intro stale staleMem notCurrent
        have clean := List.find?_eq_none.mp found stale staleMem
        simpa [notCurrent] using clean
    | some stale =>
        obtain ⟨failing, before, after, earlierEq, clean⟩ :=
          List.find?_eq_some_iff_append.mp found
        simp only [Bool.and_eq_true, decide_eq_true_eq, Option.isSome_iff_ne_none] at failing
        refine ⟨stale, by simp [earlierEq], fun wanted => ?_, failing.2⟩
        refine absurd (handles.mem_issuedDeletes_iff lists |>.mpr
          ⟨failing.1, before, after ++ name :: later, ?_, ?_⟩) (spares stale wanted)
        · rw [split, earlierEq]
          simp
        · intro other otherMem notCurrent
          simpa [notCurrent] using clean other otherMem
  · intro stops name wanted membership
    obtain ⟨notSynced, earlier, later, split, passes⟩ :=
      (handles.mem_issuedDeletes_iff lists).mp membership
    have present : name ∈ (world.secondary kind).keys := by simp [split]
    have unsynced : Unsynced faults kind world name := by
      by_contra noFault
      exact notSynced ((handles.mem_names_iff sync present).mpr ⟨wanted, noFault⟩)
    obtain ⟨stale, staleMem, unwanted, failing⟩ := stops earlier name later split unsynced
    refine failing (passes stale staleMem fun current => unwanted ?_)
    exact ((handles.mem_names_iff sync (by simp [split, staleMem])).mp current).1

end handled

section spares

variable [DecidableEq ρ] [∀ kind, DecidableEq (η kind)]

/-- A pass deletes no wanted configuration exactly if its failures spare them. -/
theorem no_wanted_deleted_iff (faults : Call → Option Fault) (world : World ρ η) :
    (∀ kind name, Wanted kind world name →
        ∀ failure, .delete kind name failure ∉ issued faults world) ↔
      SparesWanted faults world := by
  constructor
  · intro spares whSync reaches kind lists
    obtain ⟨start, synced, listing, finished, names, handles⟩ := reconcile_handles reaches kind
    rw [← handles.spares_iff reaches.sync lists]
    intro name wanted membership
    obtain ⟨_, eventMem, failure, rfl⟩ := (handles.issued name).mpr membership
    exact spares kind name wanted failure eventMem
  · intro stops kind name wanted failure eventMem
    by_cases reaches : ∃ whSync, Reaches faults world whSync
    · obtain ⟨whSync, reaches⟩ := reaches
      obtain ⟨start, synced, listing, finished, names, handles⟩ :=
        reconcile_handles reaches kind
      have membership := (handles.issued name).mp ⟨_, eventMem, failure, rfl⟩
      cases outcome : faults (.listSecondary kind) with
      | some fault => simp [listedNames, outcome, issuedDeletes] at membership
      | none =>
          exact (handles.spares_iff reaches.sync outcome).mpr
            (stops whSync reaches kind outcome) name wanted membership
    · rw [not_exists] at reaches
      exact no_delete_of_not_reaches reaches _ eventMem kind name ⟨failure, rfl⟩

end spares

/-- A policy for the `apps` group, mirrored on the secondary by an earlier pass. -/
def policy : Configuration Unit Unit where
  metadata := { name := "policy" }
  webhooks :=
    [{ name := "policy.example.com"
       clientConfig := ⟨some "https://policy.example.com", none, []⟩
       rules := [⟨["apps"], ()⟩]
       rest := () }]

/-- The policy is on both clusters. -/
def policyWorld : World Unit fun _ => Unit where
  sync := some ⟨"shard", 1, ["apps"], {}⟩
  primary
    | .validating => ⟨[policy], by decide⟩
    | .mutating => .empty
  secondary
    | .validating => ⟨[policy], by decide⟩
    | .mutating => .empty
  revision := 1
  clock := 0
  trace := []

/-- Reading the policy back from the secondary times out. -/
def policyReadFails : Call → Option Fault
  | .get .validating "policy" => some ⟨.other, "timeout"⟩
  | _ => none

/-- One failed read, and the pass deletes a policy the primary still has. -/
theorem unread_policy_deleted :
    Wanted .validating policyWorld "policy" ∧
      .delete .validating "policy" none ∈ issued policyReadFails policyWorld ∧
      (afterPass policyReadFails policyWorld).secondary .validating = .empty := by
  refine ⟨⟨_, rfl, policy, ?_⟩, ?_, ?_⟩
  · decide
  · decide
  · ext1
    decide

end KubeShard.Webhooksync
