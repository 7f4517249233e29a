import KubeShard.Webhooksync.Sync
import Mathlib.Data.List.Forall2

/-!
# A clean WebhookSync pass mirrors admission

When no call fails, the secondary ends up with the transformed copies of the
configurations that should be synced and with nothing else.  A request for a
synced API group therefore meets the same webhook entries on both clusters, and
a second pass has nothing to write.
-/

namespace KubeShard.Webhooksync

open Prog

variable {ρ : Type} {η : Kind → Type}

/-! ## Admission -/

section admission

variable {ρ η : Type}

/-- A rule covers a request: its groups contain the request's or the wildcard,
and the remaining fields of the rule match. -/
def Rule.covers (group : String) (matchesRest : ρ → Bool) (rule : Rule ρ) : Bool :=
  (group ∈ rule.apiGroups || "*" ∈ rule.apiGroups) && matchesRest rule.rest

/-- Some rule of the webhook entry covers the request. -/
def Webhook.covers (group : String) (matchesRest : ρ → Bool) (webhook : Webhook ρ η) : Bool :=
  webhook.rules.any (Rule.covers group matchesRest)

/-- The webhook entries of a named configuration that cover a request. -/
def admitting (group : String) (matchesRest : ρ → Bool)
    (configurations : Store (Configuration.name : Configuration ρ η → String))
    (name : String) : List (Webhook ρ η) :=
  match configurations.find? name with
  | some configuration => configuration.webhooks.filter (Webhook.covers group matchesRest)
  | none => []

/-- An entry of the secondary is an entry of the primary whose service reference,
if it has one, has become a URL. -/
structure Rewritten (source mirror : Webhook ρ η) : Prop where
  name : mirror.name = source.name
  rules : mirror.rules = source.rules
  rest : mirror.rest = source.rest
  caBundle : mirror.clientConfig.caBundle = source.clientConfig.caBundle
  service : mirror.clientConfig.service = none
  url : mirror.clientConfig.url =
    (source.clientConfig.service.map serviceURL).or source.clientConfig.url

theorem transformWebhook_rewritten (webhook : Webhook ρ η) :
    Rewritten webhook (transformWebhook webhook) := by
  unfold transformWebhook
  cases service : webhook.clientConfig.service with
  | none => exact ⟨rfl, rfl, rfl, rfl, service, by simp [service]⟩
  | some reference => exact ⟨rfl, rfl, rfl, rfl, rfl, by simp [service]⟩

/-- Rewriting does not change which requests an entry covers. -/
theorem filter_covers_transform (group : String) (matchesRest : ρ → Bool)
    (webhooks : List (Webhook ρ η)) :
    (webhooks.map transformWebhook).filter (Webhook.covers group matchesRest) =
      (webhooks.filter (Webhook.covers group matchesRest)).map transformWebhook := by
  have sameRules : Webhook.covers group matchesRest ∘ transformWebhook =
      (Webhook.covers group matchesRest : Webhook ρ η → Bool) := by
    funext webhook
    simp only [Function.comp, Webhook.covers, (transformWebhook_rewritten webhook).rules]
  rw [List.filter_map, sameRules]

/-- A configuration with an entry that covers a request for a target group should
be synced. -/
theorem shouldSync_of_covers {group : String} {matchesRest : ρ → Bool}
    {targetGroups : List String} {webhooks : List (Webhook ρ η)} {webhook : Webhook ρ η}
    (target : group ∈ targetGroups) (membership : webhook ∈ webhooks)
    (covers : webhook.covers group matchesRest = true) :
    shouldSyncWebhook webhooks targetGroups = true := by
  obtain ⟨rule, ruleMem, ruleCovers⟩ := List.any_eq_true.mp covers
  simp only [Rule.covers, Bool.and_eq_true, Bool.or_eq_true, decide_eq_true_eq] at ruleCovers
  simp only [shouldSyncWebhook, List.any_eq_true, Bool.or_eq_true, decide_eq_true_eq]
  refine ⟨webhook, membership, rule, ruleMem, ?_⟩
  rcases ruleCovers.1 with named | wildcard
  · exact ⟨group, named, .inl target⟩
  · exact ⟨"*", wildcard, .inr rfl⟩

end admission

/-! ## The clean pass -/

/-- No call fails. -/
def noFaults : Call → Option Fault := fun _ => none

theorem reaches_noFaults {world : World ρ η} {whSync : WebhookSync}
    (sync : world.sync = some whSync) : Reaches noFaults world whSync :=
  ⟨sync, rfl, rfl, fun _ => rfl⟩

theorem succeeds_noFaults (kind : Kind) (world : World ρ η) (name : String) :
    Succeeds noFaults kind world name := by
  refine ⟨rfl, ?_⟩
  split <;> rfl

theorem listedNames_noFaults (kind : Kind) (world : World ρ η) :
    listedNames noFaults kind world = (world.secondary kind).keys := rfl

/-- The content of the secondary is that of the transformed sources. -/
def Mirrors (kind : Kind) (sources : List (Configuration ρ (η kind)))
    (mirror : Store (Configuration.name : Configuration ρ (η kind) → String)) : Prop :=
  ∀ content, content ∈ mirror.items.map Configuration.content ↔
    content ∈ sources.map fun src => (transform kind src).content

theorem webhooks_of_content_eq {kind : Kind} {src mirror : Configuration ρ (η kind)}
    (same : mirror.content = (transform kind src).content) :
    mirror.webhooks = src.webhooks.map transformWebhook := by
  rw [transform_eq] at same
  exact congrArg (fun content => content.2.2.2) same

namespace Mirrors

variable {kind : Kind} {sources : List (Configuration ρ (η kind))}
variable {mirror : Store (Configuration.name : Configuration ρ (η kind) → String)}

theorem find?_of_mem (mirrors : Mirrors kind sources mirror) {src : Configuration ρ (η kind)}
    (membership : src ∈ sources) :
    ∃ copy, mirror.find? src.name = some copy ∧
      copy.webhooks = src.webhooks.map transformWebhook := by
  obtain ⟨copy, copyMem, same⟩ :=
    List.mem_map.mp ((mirrors _).mpr (List.mem_map_of_mem membership))
  exact ⟨copy, Store.find?_eq_some.mpr ⟨copyMem, name_of_content_eq same⟩,
    webhooks_of_content_eq same⟩

theorem find?_eq_none (mirrors : Mirrors kind sources mirror) {name : String}
    (unasked : ∀ src ∈ sources, src.name ≠ name) : mirror.find? name = none := by
  rw [Store.find?_eq_none, Store.mem_keys]
  rintro ⟨copy, copyMem, named⟩
  obtain ⟨src, srcMem, same⟩ := List.mem_map.mp ((mirrors _).mp (List.mem_map_of_mem copyMem))
  exact unasked src srcMem ((name_of_content_eq same.symm).symm.trans named)

/-- Names are unique on both sides, so nothing is mirrored twice. -/
theorem perm (mirrors : Mirrors kind sources mirror)
    (nodup : (sources.map Configuration.name).Nodup) :
    (mirror.items.map Configuration.content).Perm
      (sources.map fun src => (transform kind src).content) := by
  rw [List.perm_ext_iff_of_nodup]
  · exact mirrors
  · apply List.Nodup.of_map Prod.fst
    rw [List.map_map]
    exact mirror.nodup
  · apply List.Nodup.of_map Prod.fst
    rw [List.map_map, transform_eq]
    exact nodup

/-- A request for a target group meets the same entries on both sides. -/
theorem admitting_rewritten {targetGroups : List String}
    {primary : Store (Configuration.name : Configuration ρ (η kind) → String)}
    (mirrors : Mirrors kind (asked kind targetGroups primary.items) mirror)
    {group : String} (target : group ∈ targetGroups) (matchesRest : ρ → Bool)
    (name : String) :
    List.Forall₂ Rewritten (admitting group matchesRest primary name)
      (admitting group matchesRest mirror name) := by
  cases found : primary.find? name with
  | none =>
      have absent : mirror.find? name = none := by
        refine mirrors.find?_eq_none fun src srcMem named => ?_
        exact Store.find?_eq_none.mp found
          (Store.mem_keys.mpr ⟨src, (List.mem_filter.mp srcMem).1, named⟩)
      simp [admitting, found, absent]
  | some src =>
      obtain ⟨srcMem, named⟩ := Store.find?_eq_some.mp found
      by_cases wanted : shouldSync kind src.webhooks targetGroups
      · obtain ⟨copy, copyFound, webhooks⟩ :=
          mirrors.find?_of_mem (List.mem_filter.mpr ⟨srcMem, wanted⟩)
        rw [named] at copyFound
        simp only [admitting, found, copyFound, webhooks, filter_covers_transform,
          List.forall₂_map_right_iff, List.forall₂_same]
        exact fun webhook _ => transformWebhook_rewritten webhook
      · have absent : mirror.find? name = none := by
          refine mirrors.find?_eq_none fun other otherMem otherName => wanted ?_
          obtain ⟨otherMem, otherWanted⟩ := List.mem_filter.mp otherMem
          rwa [Store.eq_of_key_eq srcMem otherMem (named.trans otherName.symm)]
        have uncovered : src.webhooks.filter (Webhook.covers group matchesRest) = [] := by
          rw [List.filter_eq_nil_iff]
          intro webhook webhookMem covers
          rw [shouldSync_eq] at wanted
          exact wanted (shouldSync_of_covers target webhookMem covers)
        simp [admitting, found, absent, uncovered]

end Mirrors

section clean

variable [DecidableEq ρ] [∀ kind, DecidableEq (η kind)]
variable {kind : Kind} {targetGroups : List String} {names : List String}
variable {world start synced listing finished : World ρ η}

theorem Handles.mem_names_noFaults
    (handles : Handles noFaults targetGroups kind world start synced listing finished names)
    {name : String} :
    name ∈ names ↔
      ∃ src ∈ asked kind targetGroups (world.primary kind).items, src.name = name := by
  simp [handles.syncs.names_iff, succeeds_noFaults]

theorem Handles.mem_finished_noFaults
    (handles : Handles noFaults targetGroups kind world start synced listing finished names)
    {configuration : Configuration ρ (η kind)} :
    configuration ∈ ((afterPass noFaults world).secondary kind).items ↔
      configuration ∈ (synced.secondary kind).items ∧ configuration.name ∈ names := by
  rw [handles.result, handles.deletes.kept, handles.sameListing, mem_issuedDeletes]
  refine and_congr_right fun membership => ?_
  constructor
  · intro survives
    by_contra stale
    have listed : configuration.name ∈ listedNames noFaults kind listing := by
      rw [listedNames_noFaults, handles.sameListing]
      exact Store.mem_keys.mpr ⟨configuration, membership, rfl⟩
    obtain ⟨earlier, later, split⟩ := List.append_of_mem listed
    exact survives ⟨⟨stale, earlier, later, split, fun _ _ _ => rfl⟩, rfl⟩
  · rintro current ⟨⟨stale, -⟩, -⟩
    exact stale current

theorem Handles.mirrors
    (handles : Handles noFaults targetGroups kind world start synced listing finished names) :
    Mirrors kind (asked kind targetGroups (world.primary kind).items)
      ((afterPass noFaults world).secondary kind) := by
  have mirrorOf (src) (srcMem : src ∈ asked kind targetGroups (world.primary kind).items) :=
    handles.syncs.synced src srcMem (handles.mem_names_noFaults.mpr ⟨src, srcMem, rfl⟩)
  intro content
  simp only [List.mem_map, handles.mem_finished_noFaults]
  constructor
  · rintro ⟨configuration, ⟨present, current⟩, rfl⟩
    obtain ⟨src, srcMem, named⟩ := handles.mem_names_noFaults.mp current
    obtain ⟨mirror, mirrorMem, same⟩ := mirrorOf src srcMem
    refine ⟨src, srcMem, ?_⟩
    rw [← same, Store.eq_of_key_eq mirrorMem present ((name_of_content_eq same).trans named)]
  · rintro ⟨src, srcMem, rfl⟩
    obtain ⟨mirror, mirrorMem, same⟩ := mirrorOf src srcMem
    refine ⟨mirror, ⟨mirrorMem, ?_⟩, same⟩
    rw [name_of_content_eq same]
    exact handles.mem_names_noFaults.mpr ⟨src, srcMem, rfl⟩

/-- A pass over a secondary that mirrors the primary writes nothing there. -/
theorem Handles.unchanged
    (handles : Handles noFaults targetGroups kind world start synced listing finished names)
    (mirrors : Mirrors kind (asked kind targetGroups (world.primary kind).items)
      (world.secondary kind)) :
    (afterPass noFaults world).secondary kind = world.secondary kind := by
  have settled : synced.secondary = start.secondary := by
    apply handles.syncs.settled
    intro src srcMem
    rw [handles.sameStart]
    exact List.mem_map.mp ((mirrors _).mpr (List.mem_map_of_mem srcMem))
  have idle : finished.secondary = listing.secondary := by
    apply handles.deletes.idle
    intro name listed
    rw [listedNames_noFaults, handles.sameListing, settled, handles.sameStart] at listed
    obtain ⟨mirror, mirrorMem, rfl⟩ := Store.mem_keys.mp listed
    obtain ⟨src, srcMem, same⟩ :=
      List.mem_map.mp ((mirrors _).mp (List.mem_map_of_mem mirrorMem))
    exact handles.mem_names_noFaults.mpr ⟨src, srcMem, (name_of_content_eq same.symm).symm⟩
  rw [handles.result, idle, handles.sameListing, settled, handles.sameStart]

theorem mirrors_of_noFaults {whSync : WebhookSync} (sync : world.sync = some whSync)
    (kind : Kind) :
    Mirrors kind (asked kind whSync.apiGroups (world.primary kind).items)
      ((afterPass noFaults world).secondary kind) := by
  obtain ⟨start, synced, listing, finished, names, handles⟩ :=
    reconcile_handles (reaches_noFaults sync) kind
  exact handles.mirrors

/-- A pass without failures mirrors the wanted configurations exactly, requests for
the target groups meet the same webhooks on both clusters, and a second pass
changes nothing. -/
theorem reconcile_mirrors_admission (world : World ρ η) (whSync : WebhookSync)
    (sync : world.sync = some whSync) :
    (∀ kind, (((afterPass noFaults world).secondary kind).items.map
          Configuration.content).Perm
        ((asked kind whSync.apiGroups (world.primary kind).items).map
          fun src => (transform kind src).content)) ∧
      (∀ kind group, group ∈ whSync.apiGroups → ∀ matchesRest name,
        List.Forall₂ Rewritten (admitting group matchesRest (world.primary kind) name)
          (admitting group matchesRest
            ((afterPass noFaults world).secondary kind) name)) ∧
      (afterPass noFaults (afterPass noFaults world)).secondary =
        (afterPass noFaults world).secondary := by
  refine ⟨fun kind => ?_, fun kind group target matchesRest name => ?_, ?_⟩
  · apply (mirrors_of_noFaults sync kind).perm
    exact (world.primary kind).nodup.sublist (List.filter_sublist.map _)
  · exact (mirrors_of_noFaults sync kind).admitting_rewritten target matchesRest name
  · obtain ⟨samePrimary, next, nextSync, sameGroups⟩ :=
      afterPass_inputs (reaches_noFaults sync)
    funext kind
    obtain ⟨start, synced, listing, finished, names, handles⟩ :=
      reconcile_handles (reaches_noFaults nextSync) kind
    apply handles.unchanged
    rw [samePrimary, sameGroups]
    exact mirrors_of_noFaults sync kind

end clean

/-- A policy behind a service on the primary, a configuration for another group,
and a leftover on the secondary. -/
def serviceWorld : World Unit fun _ => Unit where
  sync := some ⟨"shard", 1, ["apps"], {}⟩
  primary
    | .validating =>
        ⟨[⟨{ name := "policy", uid := some 7 },
            [⟨"policy.example.com", ⟨none, some ⟨"tools", "policy", some "/check", none⟩, []⟩,
              [⟨["apps"], ()⟩, ⟨["batch"], ()⟩], ()⟩]⟩,
          ⟨{ name := "jobs" },
            [⟨"jobs.example.com", ⟨some "https://jobs.example.com", none, []⟩,
              [⟨["batch"], ()⟩], ()⟩]⟩], by decide⟩
    | .mutating => .empty
  secondary
    | .validating => ⟨[⟨{ name := "leftover" }, []⟩], by decide⟩
    | .mutating => .empty
  revision := 1
  clock := 0
  trace := []

theorem reconcile_mirrors_admission_service :
    ((afterPass noFaults serviceWorld).secondary .validating).keys = ["policy"] ∧
      List.Forall₂ Rewritten
        (admitting "apps" (fun _ => true) (serviceWorld.primary .validating) "policy")
        (admitting "apps" (fun _ => true)
          ((afterPass noFaults serviceWorld).secondary .validating) "policy") :=
  ⟨by decide, (reconcile_mirrors_admission serviceWorld _ rfl).2.1 .validating "apps"
    (by decide) (fun _ => true) "policy"⟩

end KubeShard.Webhooksync
