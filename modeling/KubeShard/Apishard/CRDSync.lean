import KubeShard.Apishard.Ready

/-!
# Copying CRDs to the secondary

`syncCRDsToSecondary` goes through its list whatever fails on the way.  A round of its
loop is two calls, and either both succeed and the secondary gets a copy, or nothing
changes and an error is collected.
-/

namespace KubeShard.Apishard

open Resources Prog

variable {ctx : Schedule} {shard : APIShard}

/-! ## The copy of a CRD -/

/-- A copy means on the secondary what the CRD means on the primary: everything is as it
was, except that the webhook of a Webhook conversion is called by URL. -/
structure Copies (crd : CRD) (copy : SecondaryCRD) : Prop where
  name : copy.name = crd.name
  labels : copy.labels = crd.labels
  annotations : copy.annotations = crd.annotations
  group : copy.group = crd.group
  rest : copy.rest = crd.rest
  converted : ∀ conversion webhook config service,
    crd.conversion = some conversion → conversion.strategy = .webhook →
    conversion.webhook = some webhook → webhook.clientConfig = some config →
    config.service = some service →
    copy.conversion = some ⟨.webhook, some ⟨some ⟨some (Webhooksync.serviceURL service), none,
      config.caBundle⟩, webhook.conversionReviewVersions⟩⟩
  unconverted : (∀ conversion webhook config, crd.conversion = some conversion →
      conversion.strategy = .webhook → conversion.webhook = some webhook →
      webhook.clientConfig = some config → config.service = none) →
    copy.conversion = crd.conversion
  direct : ∀ conversion webhook config, copy.conversion = some conversion →
    conversion.strategy = .webhook → conversion.webhook = some webhook →
    webhook.clientConfig = some config → config.service = none

/-- `transformCRDConversion` formats a URL as the webhook controller does. -/
theorem conversionURL_eq (service : Webhooksync.ServiceReference) :
    conversionURL service = Webhooksync.serviceURL service := rfl

theorem directConfig_service (config : Webhooksync.WebhookClientConfig) :
    (directConfig config).service = none := by
  rw [directConfig]
  split
  · assumption
  · rfl

theorem directConfig_of_none {config : Webhooksync.WebhookClientConfig}
    (absent : config.service = none) : directConfig config = config := by
  rw [directConfig, absent]

theorem directConfig_of_service {config : Webhooksync.WebhookClientConfig}
    {service : Webhooksync.ServiceReference} (isService : config.service = some service) :
    directConfig config =
      { config with url := some (Webhooksync.serviceURL service), service := none } := by
  simp only [directConfig, isService, conversionURL_eq]

/-- The conversion `transformCRDConversion` leaves. -/
theorem transformCRDConversion_eq (crd : SecondaryCRD) :
    transformCRDConversion crd = { crd with
      conversion := (transformCRDConversion crd).conversion } := by
  rw [transformCRDConversion]
  split
  · rfl
  · split
    · rfl
    · split <;> rfl

/-- `transformCRDConversion` on a conversion with a webhook. -/
theorem transformCRDConversion_webhook {crd : SecondaryCRD} {webhook : WebhookConversion}
    (isWebhook : crd.conversion = some ⟨.webhook, some webhook⟩) :
    (transformCRDConversion crd).conversion =
      some ⟨.webhook, some { webhook with
        clientConfig := webhook.clientConfig.map directConfig }⟩ := by
  simp [transformCRDConversion, isWebhook]

/-- `transformCRDConversion` on any other conversion. -/
theorem transformCRDConversion_other {crd : SecondaryCRD}
    (other : ∀ webhook, crd.conversion ≠ some ⟨.webhook, some webhook⟩) :
    (transformCRDConversion crd).conversion = crd.conversion := by
  rw [transformCRDConversion]
  split
  · rfl
  · next conversion isConversion =>
      split
      · rfl
      · next strategy =>
          split
          · rfl
          · next webhook isWebhook =>
              have whole : conversion = ⟨.webhook, some webhook⟩ := by
                rw [← isWebhook, ← not_not.mp strategy]
              exact absurd (isConversion.trans (congrArg some whole)) (other webhook)

/-- The whole of a Webhook conversion. -/
theorem conversion_eq {conversion : Conversion} {webhook : WebhookConversion}
    (strategy : conversion.strategy = .webhook) (isWebhook : conversion.webhook = some webhook) :
    conversion = ⟨.webhook, some webhook⟩ := by
  rw [← strategy, ← isWebhook]

theorem copies_secondary (crd : CRD) : Copies crd (transformCRDConversion crd.secondary) := by
  have fields := transformCRDConversion_eq crd.secondary
  refine ⟨congrArg SecondaryCRD.name fields, congrArg SecondaryCRD.labels fields,
    congrArg SecondaryCRD.annotations fields, congrArg SecondaryCRD.group fields,
    congrArg SecondaryCRD.rest fields, ?_, ?_, ?_⟩
  · intro conversion webhook config service isConversion strategy isWebhook isConfig isService
    have whole := conversion_eq strategy isWebhook
    rw [transformCRDConversion_webhook (isConversion.trans (congrArg some whole)), isConfig,
      Option.map_some, directConfig_of_service isService]
  · intro absent
    by_cases has : ∃ webhook, crd.conversion = some ⟨.webhook, some webhook⟩
    · obtain ⟨webhook, isWebhook⟩ := has
      rw [transformCRDConversion_webhook isWebhook, isWebhook]
      cases isConfig : webhook.clientConfig with
      | none => rw [Option.map_none, ← isConfig]
      | some config =>
          rw [Option.map_some, directConfig_of_none (absent _ webhook config isWebhook rfl rfl
            isConfig), ← isConfig]
    · exact transformCRDConversion_other fun webhook isWebhook => has ⟨webhook, isWebhook⟩
  · intro conversion webhook config isConversion strategy isWebhook isConfig
    by_cases has : ∃ webhook, crd.conversion = some ⟨.webhook, some webhook⟩
    · obtain ⟨original, isOriginal⟩ := has
      rw [transformCRDConversion_webhook isOriginal] at isConversion
      cases isConversion
      cases isWebhook
      obtain ⟨source, _, rfl⟩ := Option.map_eq_some_iff.mp isConfig
      exact directConfig_service source
    · have unchanged : (transformCRDConversion crd.secondary).conversion = crd.conversion :=
        transformCRDConversion_other fun webhook isWebhook => has ⟨webhook, isWebhook⟩
      have whole := conversion_eq strategy isWebhook
      exact absurd ⟨webhook, (unchanged.symm.trans isConversion).trans (congrArg some whole)⟩ has

/-! ## A round of the loop -/

/-- Both calls of a round succeed, the first with this CRD. -/
structure RoundSucceeds (ctx : Schedule) (crds : Store CRD.name) (index : Nat) (name : String)
    (crd : CRD) : Prop where
  got : ctx.faults (.getCRD index) = none
  found : crds.find? name = some crd
  applied : ctx.faults (.applyCRD index) = none

/-- The state once a round has copied a CRD. -/
def State.copied (state : State) (ctx : Schedule) (shard : APIShard) (index : Nat) (crd : CRD) :
    State :=
  let edited := (state.edited ctx (.getCRD index)).edited ctx (.applyCRD index)
  { edited with
    cluster.secondaryCRDs := Function.update edited.cluster.secondaryCRDs shard.uid
      ((edited.cluster.secondaryCRDs shard.uid).insert (transformCRDConversion crd.secondary))
    trace := edited.trace ++ [.appliedCRD shard.uid crd.uid] }

/-- Only users have edited shards. -/
def Unmoved (before after : State) : Prop :=
  ∃ registry, after = { before with cluster.registry := registry }

theorem exec_getCRD (index : Nat) (name : String) (state : State) :
    exec (getCRD ctx index name) state =
      match ctx.faults (.getCRD index), state.cluster.crds.find? name with
      | some failure, _ => (.error failure, state.edited ctx (.getCRD index))
      | none, some crd => (.ok crd, state.edited ctx (.getCRD index))
      | none, none => (.error (.notFound "CustomResourceDefinition.apiextensions.k8s.io" name),
          state.edited ctx (.getCRD index)) := by
  rw [getCRD]
  cases faulty : ctx.faults (.getCRD index) with
  | some failure => rw [exec_callAPI_some faulty]
  | none =>
      have crds : (state.edited ctx (.getCRD index)).cluster.crds = state.cluster.crds := rfl
      rw [exec_callAPI_none faulty, exec_bind, exec_get]
      dsimp only
      rw [crds]
      cases state.cluster.crds.find? name <;> rfl

/-- A round that fails collects an error and changes nothing, one that succeeds stores
the copy. -/
theorem syncCRDs_round (index : Nat) (name : String) (rest : List String) (state : State) :
    (∃ crd, RoundSucceeds ctx state.cluster.crds index name crd ∧
      exec (syncCRDs ctx shard index (name :: rest)) state =
        exec (syncCRDs ctx shard (index + 1) rest) (state.copied ctx shard index crd)) ∨
    (∀ crd, ¬RoundSucceeds ctx state.cluster.crds index name crd) ∧
    ∃ middle failure, Unmoved state middle ∧
      exec (syncCRDs ctx shard index (name :: rest)) state =
        exec (do
          let errors ← syncCRDs ctx shard (index + 1) rest
          pure (failure :: errors)) middle := by
  rw [syncCRDs, exec_bind, exec_attempt, exec_getCRD]
  cases got : ctx.faults (.getCRD index) with
  | some failure =>
      refine .inr ⟨fun crd round => ?_, state.edited ctx (.getCRD index),
        failure.wrap s!"get CRD {name} from primary", ⟨_, rfl⟩, rfl⟩
      cases got.symm.trans round.got
  | none =>
      cases found : state.cluster.crds.find? name with
      | none =>
          refine .inr ⟨fun crd round => ?_, state.edited ctx (.getCRD index),
            _, ⟨_, rfl⟩, rfl⟩
          cases found.symm.trans round.found
      | some crd =>
          dsimp only
          rw [exec_bind, exec_attempt, applySecondaryCRD]
          cases applied : ctx.faults (.applyCRD index) with
          | some failure =>
              rw [exec_callAPI_some applied]
              refine .inr ⟨fun crd round => ?_,
                (state.edited ctx (.getCRD index)).edited ctx (.applyCRD index),
                failure.wrap s!"apply CRD {name} on secondary", ⟨_, rfl⟩, rfl⟩
              cases applied.symm.trans round.applied
          | none =>
              rw [exec_callAPI_none applied]
              refine .inl ⟨crd, ⟨got, found, applied⟩, ?_⟩
              rw [exec_modify]
              dsimp only
              rw [bind_pure]
              rfl

/-! ## The loop -/

/-- What a loop over numbered names leaves behind. -/
structure Synced (ctx : Schedule) (shard : APIShard) (rounds : List (String × Nat))
    (before after : State) : Prop where
  unmoved : ∃ registry secondary trace, after = { before with
    cluster.registry := registry
    cluster.secondaryCRDs := secondary
    trace := trace }
  others : ∀ uid, uid ≠ shard.uid →
    after.cluster.secondaryCRDs uid = before.cluster.secondaryCRDs uid
  made : ∀ name index crd, (name, index) ∈ rounds →
    RoundSucceeds ctx before.cluster.crds index name crd →
    (after.cluster.secondaryCRDs shard.uid).find? name =
      some (transformCRDConversion crd.secondary)
  kept : ∀ name, (∀ index crd, (name, index) ∈ rounds →
      ¬RoundSucceeds ctx before.cluster.crds index name crd) →
    (after.cluster.secondaryCRDs shard.uid).find? name =
      (before.cluster.secondaryCRDs shard.uid).find? name

/-- Every round succeeds. -/
def AllSucceed (ctx : Schedule) (crds : Store CRD.name) (rounds : List (String × Nat)) : Prop :=
  ∀ name index, (name, index) ∈ rounds → ∃ crd, RoundSucceeds ctx crds index name crd

theorem Synced.refl (before : State) : Synced ctx shard [] before before where
  unmoved := ⟨_, _, _, rfl⟩
  others _ _ := rfl
  made _ _ _ membership := absurd membership List.not_mem_nil
  kept _ _ := rfl

/-- A loop after a round that failed. -/
theorem Synced.skip {before middle after : State} {name : String} {index : Nat}
    {rounds : List (String × Nat)} (unmoved : Unmoved before middle)
    (failed : ∀ crd, ¬RoundSucceeds ctx before.cluster.crds index name crd)
    (synced : Synced ctx shard rounds middle after) :
    Synced ctx shard ((name, index) :: rounds) before after := by
  obtain ⟨registry, rfl⟩ := unmoved
  refine ⟨?_, synced.others, ?_, ?_⟩
  · obtain ⟨registry, secondary, trace, isAfter⟩ := synced.unmoved
    exact ⟨registry, secondary, trace, isAfter⟩
  · intro other position crd membership round
    cases List.mem_cons.mp membership with
    | inl isHead =>
        cases isHead
        exact absurd round (failed crd)
    | inr later => exact synced.made other position crd later round
  · intro other untouched
    exact synced.kept other fun position crd later =>
      untouched position crd (List.mem_cons_of_mem _ later)

theorem transformCRDConversion_name (crd : CRD) :
    (transformCRDConversion crd.secondary).name = crd.name :=
  (copies_secondary crd).name

/-- A loop after a round that succeeded. -/
theorem Synced.copy {before after : State} {name : String} {index : Nat} {crd : CRD}
    {rounds : List (String × Nat)}
    (round : RoundSucceeds ctx before.cluster.crds index name crd)
    (synced : Synced ctx shard rounds (before.copied ctx shard index crd) after) :
    Synced ctx shard ((name, index) :: rounds) before after := by
  have isName : (transformCRDConversion crd.secondary).name = name :=
    (transformCRDConversion_name crd).trans (Store.find?_eq_some.mp round.found).2
  have copied : ((before.copied ctx shard index crd).cluster.secondaryCRDs shard.uid) =
      (before.cluster.secondaryCRDs shard.uid).insert (transformCRDConversion crd.secondary) :=
    Function.update_self ..
  refine ⟨?_, ?_, ?_, ?_⟩
  · obtain ⟨registry, secondary, trace, isAfter⟩ := synced.unmoved
    exact ⟨registry, secondary, trace, isAfter⟩
  · intro uid different
    rw [synced.others uid different]
    exact Function.update_of_ne different ..
  · intro other position source membership succeeded
    by_cases again : ∃ position source, (other, position) ∈ rounds ∧
        RoundSucceeds ctx before.cluster.crds position other source
    · -- A later round on this name copies the same CRD.
      obtain ⟨later, found, listed, succeeds⟩ := again
      rw [synced.made other later found listed succeeds,
        Option.some.inj (succeeds.found.symm.trans succeeded.found)]
    · cases List.mem_cons.mp membership with
      | inr later => exact absurd ⟨position, source, later, succeeded⟩ again
      | inl isHead =>
          cases isHead
          rw [synced.kept name fun later found listed succeeds =>
            again ⟨later, found, listed, succeeds⟩, copied]
          rw [Option.some.inj (succeeded.found.symm.trans round.found), ← isName]
          exact Store.find?_insert_self _ _
  · intro other untouched
    rw [synced.kept other fun position source later =>
      untouched position source (List.mem_cons_of_mem _ later), copied]
    apply Store.find?_insert_of_ne
    rw [isName]
    intro same
    exact untouched index crd (same ▸ List.mem_cons_self) (same ▸ round)

/-- The loop never fails, and collects no error exactly when every round succeeds. -/
theorem syncCRDs_synced (names : List String) (index : Nat) (state : State) :
    ∃ errors after, exec (syncCRDs ctx shard index names) state = (.ok errors, after) ∧
      Synced ctx shard (names.zipIdx index) state after ∧
      (errors = [] ↔ AllSucceed ctx state.cluster.crds (names.zipIdx index)) := by
  induction names generalizing index state with
  | nil =>
      exact ⟨[], state, rfl, .refl state, iff_of_true rfl fun _ _ membership =>
        absurd membership List.not_mem_nil⟩
  | cons name rest ih =>
      rw [List.zipIdx_cons]
      cases @syncCRDs_round ctx shard index name rest state with
      | inl succeeded =>
          obtain ⟨crd, round, ran⟩ := succeeded
          obtain ⟨errors, after, continues, synced, complete⟩ :=
            ih (index + 1) (state.copied ctx shard index crd)
          refine ⟨errors, after, ran.trans continues, synced.copy round, complete.trans ?_⟩
          constructor
          · intro succeed other position membership
            cases List.mem_cons.mp membership with
            | inl isHead =>
                cases isHead
                exact ⟨crd, round⟩
            | inr later => exact succeed other position later
          · intro succeed other position later
            exact succeed other position (List.mem_cons_of_mem _ later)
      | inr failed =>
          obtain ⟨never, middle, failure, unmoved, ran⟩ := failed
          obtain ⟨errors, after, continues, synced, _⟩ := ih (index + 1) middle
          refine ⟨failure :: errors, after, ?_, synced.skip unmoved never, ?_⟩
          · rw [ran, exec_bind_ok continues, exec_pure]
          · apply iff_of_false (List.cons_ne_nil _ _)
            intro succeed
            obtain ⟨crd, round⟩ := succeed name index List.mem_cons_self
            exact never crd round

/-! ## syncCRDsToSecondary -/

/-- The calls before the loop succeed: both Secrets are read, and a client is built. -/
structure Prepared (ctx : Schedule) (shard : APIShard) (state : State) : Prop where
  readPKI : ctx.faults .getSyncPKI = none
  hasPKI : (state.cluster.objects.find?
    (targetKey shard .secret (pkiSecretName shard))).isSome
  readAdminClient : ctx.faults .getSyncAdminClient = none
  hasAdminClient : (state.cluster.objects.find?
    (targetKey shard .secret (adminClientSecretName shard))).isSome
  built : ctx.faults .buildSyncClient = none

theorem secondaryEndpoint_ne (shard : APIShard) : secondaryEndpoint shard ≠ "" := by
  intro empty
  have chars := congrArg String.toList empty
  simp only [secondaryEndpoint, String.toList_append, String.toList_empty, List.append_eq_nil_iff]
    at chars
  exact absurd chars.1.1.1.1 (by decide)

/-- A read answers exactly when it does not fail and the object is there. -/
theorem getObject_answers (request : Call) (key : ObjectKey) (state : State) :
    (ctx.faults request = none ∧ (state.cluster.objects.find? key).isSome ∧
      ∃ object, exec (getObject ctx request key) state = (.ok object, state.edited ctx request)) ∨
    (¬(ctx.faults request = none ∧ (state.cluster.objects.find? key).isSome) ∧
      ∃ failure,
        exec (getObject ctx request key) state = (.error failure, state.edited ctx request)) := by
  rw [exec_getObject]
  cases ctx.faults request with
  | some failure => exact .inr ⟨by simp, failure, rfl⟩
  | none =>
      cases state.cluster.objects.find? key with
      | none => exact .inr ⟨by simp, _, rfl⟩
      | some object => exact .inl ⟨rfl, rfl, object, rfl⟩

/-- Without the Secrets or the client nothing happens; with them the loop runs. -/
theorem syncCRDsToSecondary_cases (names : List String) (state : State) :
    (¬Prepared ctx shard state ∧ ∃ failure after, Unmoved state after ∧
      exec (syncCRDsToSecondary ctx shard names) state = (.error failure, after)) ∨
    (Prepared ctx shard state ∧ ∃ middle, Unmoved state middle ∧
      exec (syncCRDsToSecondary ctx shard names) state =
        exec (do
          let errors ← syncCRDs ctx shard 0 names
          joinErrors errors) middle) := by
  rw [syncCRDsToSecondary, if_neg (secondaryEndpoint_ne shard), exec_bind, exec_mapError]
  cases @getObject_answers ctx .getSyncPKI
      (targetKey shard .secret (pkiSecretName shard)) state with
  | inr failed =>
      obtain ⟨unread, failure, ran⟩ := failed
      rw [ran]
      exact .inl ⟨fun prepared => unread ⟨prepared.readPKI, prepared.hasPKI⟩, _, _, ⟨_, rfl⟩, rfl⟩
  | inl read =>
      obtain ⟨readPKI, hasPKI, _, ran⟩ := read
      rw [ran]
      dsimp only
      rw [exec_bind, exec_mapError]
      cases @getObject_answers ctx .getSyncAdminClient
          (targetKey shard .secret (adminClientSecretName shard))
          (state.edited ctx .getSyncPKI) with
      | inr failed =>
          obtain ⟨unread, failure, ran⟩ := failed
          rw [ran]
          exact .inl ⟨fun prepared => unread ⟨prepared.readAdminClient, prepared.hasAdminClient⟩,
            _, _, ⟨_, rfl⟩, rfl⟩
      | inl read =>
          obtain ⟨readAdminClient, hasAdminClient, _, ran⟩ := read
          rw [ran]
          dsimp only
          rw [exec_bind, exec_mapError]
          cases built : ctx.faults .buildSyncClient with
          | some failure =>
              rw [exec_callAPI_some built]
              refine .inl ⟨fun prepared => ?_, _, _, ⟨_, rfl⟩, rfl⟩
              cases built.symm.trans prepared.built
          | none =>
              rw [exec_callAPI_none built]
              exact .inr ⟨⟨readPKI, hasPKI, readAdminClient, hasAdminClient, built⟩, _,
                ⟨_, rfl⟩, rfl⟩

/-- What copying a list of CRDs promises, whichever of its calls fail.  A name may stand
in the list more than once, and each time is a round with its own calls. -/
structure Isolates (ctx : Schedule) (shard : APIShard) (names : List String) (before : State)
    (outcome : Except ApiError Unit × State) : Prop where
  copied : Prepared ctx shard before → ∀ name index crd, (name, index) ∈ names.zipIdx →
    RoundSucceeds ctx before.cluster.crds index name crd →
    ∃ copy, (outcome.2.cluster.secondaryCRDs shard.uid).find? name = some copy ∧ Copies crd copy
  untouched : ∀ name, (Prepared ctx shard before → ∀ index crd, (name, index) ∈ names.zipIdx →
      ¬RoundSucceeds ctx before.cluster.crds index name crd) →
    (outcome.2.cluster.secondaryCRDs shard.uid).find? name =
      (before.cluster.secondaryCRDs shard.uid).find? name
  others : ∀ uid, uid ≠ shard.uid →
    outcome.2.cluster.secondaryCRDs uid = before.cluster.secondaryCRDs uid
  primary : ∃ registry secondary trace, outcome.2 = { before with
    cluster.registry := registry
    cluster.secondaryCRDs := secondary
    trace := trace }
  complete : outcome.1 = .ok () ↔
    Prepared ctx shard before ∧ AllSucceed ctx before.cluster.crds names.zipIdx

theorem joinErrors_ok {errors : List ApiError} {state : State} :
    (exec (joinErrors errors) state).1 = .ok () ↔ errors = [] := by
  cases errors with
  | nil => exact iff_of_true rfl rfl
  | cons failure rest =>
      apply iff_of_false _ (List.cons_ne_nil _ _)
      intro returned
      cases returned

theorem joinErrors_state (errors : List ApiError) (state : State) :
    (exec (joinErrors errors) state).2 = state := by
  cases errors <;> rfl

theorem syncCRDsToSecondary_outcome (ctx : Schedule) (shard : APIShard) (names : List String)
    (state : State) :
    Isolates ctx shard names state (exec (syncCRDsToSecondary ctx shard names) state) := by
  cases @syncCRDsToSecondary_cases ctx shard names state with
  | inl stopped =>
      obtain ⟨unprepared, failure, _, ⟨registry, rfl⟩, ran⟩ := stopped
      rw [ran]
      refine ⟨fun prepared => absurd prepared unprepared, fun _ _ => rfl, fun _ _ => rfl,
        ⟨registry, _, _, rfl⟩, ?_⟩
      apply iff_of_false
      · intro returned
        cases returned
      · exact fun both => unprepared both.1
  | inr runs =>
      obtain ⟨prepared, _, ⟨registry, rfl⟩, ran⟩ := runs
      obtain ⟨errors, after, looped, synced, complete⟩ :=
        @syncCRDs_synced ctx shard names 0 { state with cluster.registry := registry }
      rw [ran, exec_bind_ok looped]
      refine ⟨?_, ?_, ?_, ?_, ?_⟩
      · intro _ name index crd listed round
        rw [joinErrors_state]
        exact ⟨_, synced.made name index crd listed round, copies_secondary crd⟩
      · intro name never
        rw [joinErrors_state]
        exact synced.kept name (never prepared)
      · rw [joinErrors_state]
        exact synced.others
      · rw [joinErrors_state]
        obtain ⟨registry, secondary, trace, isAfter⟩ := synced.unmoved
        exact ⟨registry, secondary, trace, isAfter⟩
      · exact joinErrors_ok.trans (complete.trans (and_iff_right prepared).symm)

/-- The condition tells whether the copy went through. -/
theorem reconcileCRDConflicts_reason {names : List String} {state detected : State}
    (found : exec (Aggregation.detectCRDConflicts ctx shard) state = (.ok names, detected))
    (conflict : names ≠ []) :
    conflictIs (if (exec (syncCRDsToSecondary ctx shard names) detected).1.isOk
        then "CRDsSyncedToSecondary" else "CRDSyncFailed")
      (exec (reconcileCRDConflicts ctx shard) state).2.status = true := by
  cases names with
  | nil => exact absurd rfl conflict
  | cons name rest =>
      rw [reconcileCRDConflicts, exec_bind, exec_attempt, found]
      dsimp only
      rw [exec_bind, exec_attempt]
      cases exec (syncCRDsToSecondary ctx shard (name :: rest)) detected with
      | mk answer copied =>
          cases answer with
          | ok _ => exact conflictIs_set shard "CRDsSyncedToSecondary" _ copied
          | error failure => exact conflictIs_set shard "CRDSyncFailed" _ copied

/-- For every list of CRDs, every state and every choice of failing calls, the copy
isolates failures and keeps what the CRDs mean, and the CRDConflict condition is True with a
reason that tells whether it went through. -/
theorem crdSync_isolates (ctx : Schedule) (shard : APIShard) (names : List String)
    (state : State) :
    Isolates ctx shard names state (exec (syncCRDsToSecondary ctx shard names) state) ∧
    ∀ before, exec (Aggregation.detectCRDConflicts ctx shard) before = (.ok names, state) →
      names ≠ [] →
      conflictIs (if (exec (syncCRDsToSecondary ctx shard names) state).1.isOk
          then "CRDsSyncedToSecondary" else "CRDSyncFailed")
        (exec (reconcileCRDConflicts ctx shard) before).2.status = true :=
  ⟨syncCRDsToSecondary_outcome ctx shard names state, fun _ => reconcileCRDConflicts_reason⟩

/-- A shard of the group `g`. -/
def shardOfG : APIShard where
  name := "a"
  uid := 1
  generation := 1
  resourceVersion := 1
  spec := plainSpec [⟨"g", ["v1"]⟩]

/-- A primary with the Secrets of that shard and a CRD of its group whose conversion webhook
is behind a Service. -/
def conflicted : State where
  cluster := { Cluster.bare with
    objects := (Store.empty.insert { key := ⟨.secret, "target", "a-pki"⟩ }).insert
      { key := ⟨.secret, "target", "a-admin-client-cert"⟩ }
    crds := Store.empty.insert {
      name := "things.g"
      uid := 3
      labels := [("app", "things")]
      group := "g"
      conversion := some ⟨.webhook, some ⟨some ⟨none, some ⟨"ns", "things", some "/convert", none⟩,
        []⟩, ["v1"]⟩⟩
      rest := "" } }

theorem crdSync_isolates_conflicted :
    Prepared {} shardOfG conflicted ∧
    AllSucceed {} conflicted.cluster.crds ["things.g"].zipIdx ∧
    Isolates {} shardOfG ["things.g"] conflicted
      (exec (syncCRDsToSecondary {} shardOfG ["things.g"]) conflicted) ∧
    conflictIs (if (exec (syncCRDsToSecondary {} shardOfG ["things.g"]) conflicted).1.isOk
        then "CRDsSyncedToSecondary" else "CRDSyncFailed")
      (exec (reconcileCRDConflicts {} shardOfG) conflicted).2.status = true := by
  have isolates := crdSync_isolates {} shardOfG ["things.g"] conflicted
  refine ⟨⟨rfl, by decide +kernel, rfl, by decide +kernel, rfl⟩, ?_, isolates.1,
    isolates.2 conflicted rfl (List.cons_ne_nil _ _)⟩
  intro name index listed
  cases List.mem_singleton.mp listed
  exact ⟨_, rfl, rfl, rfl⟩

end KubeShard.Apishard
