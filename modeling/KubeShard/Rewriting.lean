import KubeShard.Apishard.CRDSync
import KubeShard.Program.Decimal
import KubeShard.Program.Text

/-!
# Service references as URLs

The secondary has no Services, so what refers to a webhook by its Service is rewritten to a
URL on the way there: in the entries of both kinds of webhook configuration, and in the
conversion of a CRD.  The port and the path of the URL are not separated; what separates
them is that a port is digits and a path starts with a slash.
-/

namespace KubeShard.Rewriting

open Webhooksync Apishard

/-! ## URLs -/

/-- What the API server promises of a reference: the name and the namespace are labels, and
the path is missing, empty or absolute. -/
structure Plain (service : ServiceReference) : Prop where
  name : ∀ char ∈ service.name.toList, char ≠ '.' ∧ char ≠ ':' ∧ char ≠ '/'
  namespace_ : ∀ char ∈ service.namespace_.toList, char ≠ '.' ∧ char ≠ ':' ∧ char ≠ '/'
  path : service.path = none ∨ service.path = some "" ∨
    ∃ rest, service.path = some ("/" ++ rest)

/-- Two references lead to the same place. -/
structure SameTarget (first second : ServiceReference) : Prop where
  name : first.name = second.name
  namespace_ : first.namespace_ = second.namespace_
  port : servicePort first.port = servicePort second.port
  path : servicePath first.path = servicePath second.path

theorem Plain.absolute {service : ServiceReference} (plain : Plain service) :
    servicePath service.path = "" ∨ ∃ rest, servicePath service.path = "/" ++ rest := by
  rcases plain.path with missing | empty | ⟨rest, isPath⟩
  · exact .inl (by rw [missing, servicePath])
  · exact .inl (by rw [empty, servicePath])
  · exact .inr ⟨rest, by rw [isPath, servicePath]⟩

theorem slash_notMem_repr (port : Int) : '/' ∉ port.repr.toList := by
  intro membership
  rcases Decimal.sign_or_isDigit_of_mem_repr membership with sign | digit
  · exact absurd sign (by decide)
  · exact absurd digit (by decide)

/-- A port cannot be continued by the beginning of a path. -/
theorem eq_empty_of_port {port longer : Int} {path rest tail : String}
    (absolute : path = "" ∨ ∃ segments, path = "/" ++ segments)
    (continued : longer.repr = port.repr ++ rest) (isPath : path = rest ++ tail) : rest = "" := by
  rcases absolute with empty | ⟨segments, isAbsolute⟩
  · rw [empty] at isPath
    exact (String.append_eq_empty_iff.mp isPath.symm).1
  · cases isRest : rest.toList with
    | nil => exact String.toList_inj.mp isRest
    | cons char chars =>
        have slash : char = '/' := by
          have chars := congrArg String.toList (isAbsolute.symm.trans isPath)
          rw [String.toList_append, String.toList_append, isRest] at chars
          exact (List.cons.inj chars).1.symm
        apply absurd _ (slash_notMem_repr longer)
        rw [continued, String.toList_append, isRest, slash]
        exact List.mem_append_right _ List.mem_cons_self

/-- The text of a port and a path tells both. -/
theorem port_path_eq {first second : Int} {path other : String}
    (absolute : path = "" ∨ ∃ segments, path = "/" ++ segments)
    (otherAbsolute : other = "" ∨ ∃ segments, other = "/" ++ segments)
    (same : first.repr ++ path = second.repr ++ other) : first = second ∧ path = other := by
  rcases Text.append_eq_append same with ⟨rest, isSecond, isPath⟩ | ⟨rest, isFirst, isOther⟩
  · obtain rfl := eq_empty_of_port absolute isSecond isPath
    rw [String.append_empty] at isSecond
    exact ⟨(Decimal.intRepr_injective isSecond).symm, by rw [isPath, String.empty_append]⟩
  · obtain rfl := eq_empty_of_port otherAbsolute isFirst isOther
    rw [String.append_empty] at isFirst
    exact ⟨Decimal.intRepr_injective isFirst, by rw [isOther, String.empty_append]⟩

theorem serviceURL_eq (service : ServiceReference) :
    serviceURL service = "https://" ++ (service.name ++ String.singleton '.' ++
      (service.namespace_ ++ String.singleton '.' ++
        ("svc:" ++ ((servicePort service.port).repr ++ servicePath service.path)))) := by
  have dot : String.singleton '.' = "." := rfl
  have suffix : ".svc:" = "." ++ "svc:" := rfl
  simp only [serviceURL, dot, suffix, String.append_assoc]
  rfl

theorem serviceURL_eq_iff {first second : ServiceReference} (plain : Plain first)
    (otherPlain : Plain second) :
    serviceURL first = serviceURL second ↔ SameTarget first second := by
  constructor
  · intro same
    rw [serviceURL_eq, serviceURL_eq, String.append_right_inj] at same
    have sameName := Text.split_first (fun dot => (plain.name _ dot).1 rfl)
      (fun dot => (otherPlain.name _ dot).1 rfl) same
    rw [sameName, String.append_right_inj] at same
    have sameNamespace := Text.split_first (fun dot => (plain.namespace_ _ dot).1 rfl)
      (fun dot => (otherPlain.namespace_ _ dot).1 rfl) same
    rw [sameNamespace, String.append_right_inj, String.append_right_inj] at same
    obtain ⟨samePort, samePath⟩ := port_path_eq plain.absolute otherPlain.absolute same
    exact ⟨sameName, sameNamespace, samePort, samePath⟩
  · intro same
    rw [serviceURL, serviceURL, same.name, same.namespace_, same.port, same.path]

/-! ## Webhook configurations -/

section entries

variable {ρ η : Type}

/-- An entry without the two fields that say where its webhook is. -/
def untargeted (webhook : Webhook ρ η) : Webhook ρ η :=
  { webhook with clientConfig.url := none, clientConfig.service := none }

/-- A transformation rewrites the service references of a configuration to URLs, and does
nothing else to its entries. -/
structure RewritesEntries (transform : Configuration ρ η → Configuration ρ η) : Prop where
  writes : ∀ (src : Configuration ρ η) (index : Nat) (before : Webhook ρ η)
    (service : ServiceReference), src.webhooks[index]? = some before →
    before.clientConfig.service = some service →
    ∃ after, (transform src).webhooks[index]? = some after ∧
      after.clientConfig.url = some (serviceURL service)
  direct : ∀ src, ∀ webhook ∈ (transform src).webhooks, webhook.clientConfig.service = none
  kept : ∀ (src : Configuration ρ η) (index : Nat) (before : Webhook ρ η),
    src.webhooks[index]? = some before → before.clientConfig.service = none →
    (transform src).webhooks[index]? = some before
  fields : ∀ src, (transform src).webhooks.map untargeted = src.webhooks.map untargeted
  idempotent : ∀ src, transform (transform src) = transform src

theorem transformWebhook_service (webhook : Webhook ρ η) :
    (transformWebhook webhook).clientConfig.service = none := by
  unfold transformWebhook
  split
  · rfl
  · assumption

theorem transformWebhook_of_none {webhook : Webhook ρ η}
    (absent : webhook.clientConfig.service = none) : transformWebhook webhook = webhook := by
  rw [transformWebhook, absent]

theorem transformWebhook_url {webhook : Webhook ρ η} {service : ServiceReference}
    (isService : webhook.clientConfig.service = some service) :
    (transformWebhook webhook).clientConfig.url = some (serviceURL service) := by
  rw [transformWebhook, isService]

theorem untargeted_transformWebhook (webhook : Webhook ρ η) :
    untargeted (transformWebhook webhook) = untargeted webhook := by
  unfold transformWebhook
  split <;> rfl

theorem transformConfiguration_idempotent (src : Configuration ρ η) :
    transformConfiguration (transformConfiguration src) = transformConfiguration src := by
  have again (webhook : Webhook ρ η) :
      transformWebhook (transformWebhook webhook) = transformWebhook webhook :=
    transformWebhook_of_none (transformWebhook_service webhook)
  simp [transformConfiguration, again]

theorem transformConfiguration_rewrites :
    RewritesEntries (transformConfiguration : Configuration ρ η → Configuration ρ η) where
  writes := by
    intro src index before service isEntry isService
    refine ⟨transformWebhook before, ?_, transformWebhook_url isService⟩
    rw [transformConfiguration, List.getElem?_map, isEntry, Option.map_some]
  direct := by
    intro src webhook membership
    obtain ⟨before, _, rfl⟩ := List.mem_map.mp membership
    exact transformWebhook_service before
  kept := by
    intro src index before isEntry absent
    rw [transformConfiguration, List.getElem?_map, isEntry, Option.map_some,
      transformWebhook_of_none absent]
  fields := by
    intro src
    rw [transformConfiguration, List.map_map]
    apply List.map_congr_left
    intro webhook _
    exact untargeted_transformWebhook webhook
  idempotent := transformConfiguration_idempotent

end entries

/-! ## Conversions of CRDs -/

/-- The client configuration of a conversion by webhook. -/
def conversionConfig (crd : SecondaryCRD) : Option WebhookClientConfig := do
  let conversion ← crd.conversion
  let webhook ← conversion.webhook
  if conversion.strategy = .webhook then webhook.clientConfig else none

/-- A CRD without the two fields that say where its conversion webhook is. -/
def untargetedCRD (crd : SecondaryCRD) : SecondaryCRD :=
  { crd with conversion := crd.conversion.map fun conversion =>
      { conversion with webhook := conversion.webhook.map fun webhook =>
          { webhook with clientConfig := webhook.clientConfig.map fun config =>
              { config with url := none, service := none } } } }

/-- A transformation rewrites the service reference of a conversion by webhook to a URL, and
does nothing else to a CRD. -/
structure RewritesConversion (transform : SecondaryCRD → SecondaryCRD) : Prop where
  writes : ∀ (crd : SecondaryCRD) (before : WebhookClientConfig) (service : ServiceReference),
    conversionConfig crd = some before → before.service = some service →
    ∃ after, conversionConfig (transform crd) = some after ∧
      after.url = some (serviceURL service)
  direct : ∀ crd config, conversionConfig (transform crd) = some config → config.service = none
  kept : ∀ crd, (∀ config, conversionConfig crd = some config → config.service = none) →
    transform crd = crd
  fields : ∀ crd, untargetedCRD (transform crd) = untargetedCRD crd
  idempotent : ∀ crd, transform (transform crd) = transform crd

/-- A CRD converts by webhook, or its conversion names no webhook that is called. -/
theorem conversion_cases (crd : SecondaryCRD) :
    (∃ webhook, crd.conversion = some ⟨.webhook, some webhook⟩) ∨
      (∀ webhook, crd.conversion ≠ some ⟨.webhook, some webhook⟩) ∧
        conversionConfig crd = none := by
  by_cases has : ∃ webhook, crd.conversion = some ⟨.webhook, some webhook⟩
  · exact .inl has
  · refine .inr ⟨fun webhook isWebhook => has ⟨webhook, isWebhook⟩, ?_⟩
    cases isConversion : crd.conversion with
    | none => simp [conversionConfig, isConversion]
    | some conversion =>
        cases isWebhook : conversion.webhook with
        | none => simp [conversionConfig, isConversion, isWebhook]
        | some webhook =>
            have other : conversion.strategy ≠ .webhook := by
              intro strategy
              exact has ⟨webhook, isConversion.trans
                (congrArg some (conversion_eq strategy isWebhook))⟩
            simp [conversionConfig, isConversion, isWebhook, other]

theorem conversionConfig_webhook {crd : SecondaryCRD} {webhook : WebhookConversion}
    (isWebhook : crd.conversion = some ⟨.webhook, some webhook⟩) :
    conversionConfig crd = webhook.clientConfig := by
  simp [conversionConfig, isWebhook]

theorem transformCRDConversion_of_other {crd : SecondaryCRD}
    (other : ∀ webhook, crd.conversion ≠ some ⟨.webhook, some webhook⟩) :
    transformCRDConversion crd = crd := by
  rw [transformCRDConversion_eq, transformCRDConversion_other other]

theorem conversionConfig_transform (crd : SecondaryCRD) :
    conversionConfig (transformCRDConversion crd) = (conversionConfig crd).map directConfig := by
  rcases conversion_cases crd with ⟨webhook, isWebhook⟩ | ⟨other, none⟩
  · rw [conversionConfig_webhook (transformCRDConversion_webhook isWebhook),
      conversionConfig_webhook isWebhook]
  · rw [transformCRDConversion_of_other other, none, Option.map_none]

theorem transformCRDConversion_kept {crd : SecondaryCRD}
    (absent : ∀ config, conversionConfig crd = some config → config.service = none) :
    transformCRDConversion crd = crd := by
  rcases conversion_cases crd with ⟨webhook, isWebhook⟩ | ⟨other, _⟩
  · rw [transformCRDConversion_eq, transformCRDConversion_webhook isWebhook]
    have same : webhook.clientConfig.map directConfig = webhook.clientConfig := by
      cases isConfig : webhook.clientConfig with
      | none => rfl
      | some config =>
          have missing := absent config ((conversionConfig_webhook isWebhook).trans isConfig)
          rw [Option.map_some, directConfig_of_none missing]
    rw [same, ← isWebhook]
  · exact transformCRDConversion_of_other other

theorem untargeted_directConfig (config : WebhookClientConfig) :
    { directConfig config with url := none, service := none } =
      { config with url := none, service := none } := by
  rw [directConfig]
  split <;> rfl

theorem transformCRDConversion_rewrites : RewritesConversion transformCRDConversion where
  writes := by
    intro crd before service isConfig isService
    refine ⟨directConfig before, ?_, ?_⟩
    · rw [conversionConfig_transform, isConfig, Option.map_some]
    · rw [directConfig_of_service isService]
  direct := by
    intro crd config isConfig
    rw [conversionConfig_transform] at isConfig
    obtain ⟨before, _, rfl⟩ := Option.map_eq_some_iff.mp isConfig
    exact directConfig_service before
  kept := fun _ absent => transformCRDConversion_kept absent
  fields := by
    intro crd
    rcases conversion_cases crd with ⟨webhook, isWebhook⟩ | ⟨other, _⟩
    · rw [transformCRDConversion_eq, transformCRDConversion_webhook isWebhook]
      simp only [untargetedCRD, isWebhook, Option.map_some, Option.map_map,
        Function.comp_def, untargeted_directConfig]
    · rw [transformCRDConversion_of_other other]
  idempotent := by
    intro crd
    apply transformCRDConversion_kept
    intro config isConfig
    rw [conversionConfig_transform] at isConfig
    obtain ⟨before, _, rfl⟩ := Option.map_eq_some_iff.mp isConfig
    exact directConfig_service before

/-! ## The three transformations -/

/-- Each of the three transformations rewrites service references to URLs by one formula and
does nothing else to an entry; and the URL tells where the reference leads. -/
theorem service_references_rewritten {ρ : Type} {η : Kind → Type} :
    RewritesEntries (transformMutatingWebhook (ρ := ρ) (η := η)) ∧
    RewritesEntries (transformValidatingWebhook (ρ := ρ) (η := η)) ∧
    RewritesConversion transformCRDConversion ∧
    ∀ first second : ServiceReference, Plain first → Plain second →
      (serviceURL first = serviceURL second ↔ SameTarget first second) := by
  refine ⟨transformConfiguration_rewrites, transformConfiguration_rewrites,
    transformCRDConversion_rewrites, ?_⟩
  intro first second plain otherPlain
  exact serviceURL_eq_iff plain otherPlain

end KubeShard.Rewriting
