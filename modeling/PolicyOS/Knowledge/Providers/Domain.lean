import PolicyOS.Domain.Primitives
import PolicyOS.Foundation.JsonText

/-!
# Contracts of knowledge providers

What a provider is asked, what it answers and how it fails. Texts that are only looked up are
strings; a query and a resource are kept as characters, since they are folded and hashed.
-/

namespace PolicyOS.Knowledge.Providers

open Foundation

/-- The kinds of providers. -/
inductive KnowledgeProviderType
  | mcp | openapi | internalDatabase | internalKnowledge | filesystem | github | search | custom
  deriving DecidableEq, Repr

/-- A provider of this kind is outside. -/
def KnowledgeProviderType.isExternal (type : KnowledgeProviderType) : Bool :=
  type ≠ .internalDatabase && type ≠ .internalKnowledge

/-- What providers can do. -/
inductive KnowledgeProviderCapability
  | search | retrieve | sync | history | compare | relationshipGraph | semanticSearch
  | keywordSearch | structuredFilter | temporalQuery | persistentIngestion | citations | streaming
  deriving DecidableEq, Repr

/-- How a provider is doing. -/
inductive KnowledgeProviderHealth
  | healthy | degraded | unavailable | misconfigured | disabled | unknown
  deriving DecidableEq, Repr

/-- What a provider may be asked for. -/
inductive KnowledgeProviderOperation
  | search | getResource | sync | history | compare | relationshipGraph
  deriving DecidableEq, Repr

/-- The text of an operation. -/
def KnowledgeProviderOperation.value : KnowledgeProviderOperation → String
  | .search => "search"
  | .getResource => "get_resource"
  | .sync => "sync"
  | .history => "history"
  | .compare => "compare"
  | .relationshipGraph => "relationship_graph"

theorem KnowledgeProviderOperation.value_injective :
    Function.Injective KnowledgeProviderOperation.value := by
  intro first second
  cases first <;> cases second <;> decide

/-- The capability an operation needs. -/
def requiredCapability : KnowledgeProviderOperation → KnowledgeProviderCapability
  | .search => .search
  | .getResource => .retrieve
  | .sync => .sync
  | .history => .history
  | .compare => .compare
  | .relationshipGraph => .relationshipGraph

/-! ## Dates -/

/-- The days of a month. -/
def daysInMonth (year month : Nat) : Nat :=
  if month = 2 then
    if year % 4 = 0 ∧ (year % 100 ≠ 0 ∨ year % 400 = 0) then 29 else 28
  else if month ∈ [4, 6, 9, 11] then 30 else 31

/-- A day of the calendar. -/
structure Date where
  year : Nat
  month : Nat
  day : Nat
  yearBound : 1 ≤ year ∧ year ≤ 9999 := by decide
  monthBound : 1 ≤ month ∧ month ≤ 12 := by decide
  dayBound : 1 ≤ day ∧ day ≤ daysInMonth year month := by decide
  deriving DecidableEq

/-- A date is after another. -/
def Date.after (date other : Date) : Bool :=
  (other.year * 100 + other.month) * 100 + other.day <
    (date.year * 100 + date.month) * 100 + date.day

/-- A date as it is written: `YYYY-MM-DD`. -/
def Date.isoformat (date : Date) : Text :=
  decimalText 4 date.year ++ '-' :: decimalText 2 date.month ++ '-' :: decimalText 2 date.day

/-- Dates are told by how they are written. -/
theorem Date.isoformat_injective : Function.Injective Date.isoformat := by
  intro first second same
  have short : ∀ date : Date, date.day < 100 := by
    intro date
    have bound := date.dayBound.2
    have month : daysInMonth date.year date.month ≤ 31 := by
      unfold daysInMonth
      split_ifs <;> omega
    omega
  have firstMonth := first.monthBound
  have secondMonth := second.monthBound
  have firstYear := first.yearBound
  have secondYear := second.yearBound
  have firstDay := short first
  have secondDay := short second
  simp only [Date.isoformat, List.append_assoc, List.cons_append] at same
  obtain ⟨years, rest⟩ := List.append_inj same (by simp)
  obtain ⟨months, days⟩ := List.append_inj (List.cons.inj rest).2 (by simp)
  have sameYear : first.year = second.year :=
    eq_of_digitsText (by decide) (by decide) (by omega) (by omega) years
  have sameMonth : first.month = second.month :=
    eq_of_digitsText (by decide) (by decide) (by omega) (by omega) months
  have sameDay : first.day = second.day :=
    eq_of_digitsText (by decide) (by decide) (by omega) (by omega) (List.cons.inj days).2
  cases first
  cases second
  simp_all

example : Date.isoformat { year := 2024, month := 2, day := 29 } = "2024-02-29".toList := by decide

/-! ## Requests -/

/-- A set of strings, kept in order. -/
abbrev StringSet := {members : List String // members.Pairwise (· < ·)}

/-- On whose behalf providers are asked. -/
structure KnowledgeProviderContext where
  organizationId : UUID
  userId : UUID
  requestId : String
  correlationId : String
  classification : DataClassification := .internal
  permissions : StringSet := ⟨["knowledge.read"], by decide⟩
  membershipActive : Bool := true
  confidentialExternalAllowed : Bool := false
  deriving DecidableEq

/-- What a provider is asked. -/
structure KnowledgeProviderRequest where
  query : Option Text := none
  operation : KnowledgeProviderOperation := .search
  sourceTypes : StringSet := ⟨[], by decide⟩
  jurisdiction : Option String := none
  effectiveDate : Option Date := none
  dateFrom : Option Date := none
  dateTo : Option Date := none
  topK : Nat := 10
  filters : Json := .dict []
  resourceId : Option Text := none
  includeHistory : Bool := false
  includeRelated : Bool := false
  persistResults : Bool := false
  organizationId : UUID
  userId : UUID
  requestId : String
  correlationId : String
  classification : DataClassification := .internal
  metadataAllowlist : Json := .dict []
  /-- A query or a resource that is cleaned to nothing is refused. -/
  queryCleaned : query ≠ some [] := by decide
  resourceCleaned : resourceId ≠ some [] := by decide
  organizationBound : organizationId < 2 ^ 128 := by decide

/-! ## Answers -/

/-- A warning about evidence. -/
structure KnowledgeProviderWarning where
  code : String
  message : String
  deriving DecidableEq, Repr

/-- A piece of evidence. Its confidence is in thousandths. -/
structure KnowledgeEvidence where
  title : String
  safeExcerpt : String := ""
  citation : Option String := none
  resourceId : Option String := none
  officialSource : Bool := false
  effectiveDate : Option Date := none
  retrievedAt : Moment
  confidence : Nat := 500
  freshness : String := "unknown"
  classification : DataClassification
  warnings : List KnowledgeProviderWarning := []
  deriving DecidableEq

/-- What a provider answers. -/
structure KnowledgeProviderResponse where
  providerName : String
  evidence : List KnowledgeEvidence := []
  totalCount : Nat := 0
  cacheStatus : String := "miss"
  partialResult : Bool := false
  deriving DecidableEq

/-! ## Errors -/

/-- The classes of provider errors. -/
inductive ProviderErrorClass
  | base | notFound | disabled | unavailable | timeout | rateLimit | authentication
  | unsupportedOperation | malformedResponse | schema | security | policyDenied | resultTooLarge
  | noResult | fallbackExhausted
  deriving DecidableEq, Repr

/-- The code of a class. -/
def ProviderErrorClass.code : ProviderErrorClass → String
  | .base => "knowledge_provider_error"
  | .notFound => "provider_not_found"
  | .disabled => "provider_disabled"
  | .unavailable => "provider_unavailable"
  | .timeout => "provider_timeout"
  | .rateLimit => "provider_rate_limited"
  | .authentication => "provider_authentication_failed"
  | .unsupportedOperation => "provider_unsupported_operation"
  | .malformedResponse => "provider_malformed_response"
  | .schema => "provider_schema_error"
  | .security => "provider_security_violation"
  | .policyDenied => "provider_policy_denied"
  | .resultTooLarge => "provider_result_too_large"
  | .noResult => "provider_no_result"
  | .fallbackExhausted => "provider_fallback_exhausted"

/-- An error of a provider or of the service that asks them. Only an exhausted fallback has
failures. -/
structure KnowledgeProviderError where
  errorClass : ProviderErrorClass
  safeMessage : String
  correlationId : Option String := none
  failures : List String := []
  deriving DecidableEq, Repr

/-- What ends an operation early: a provider error, or anything else. -/
inductive Raised
  | provider (error : KnowledgeProviderError)
  | unhandled
  deriving DecidableEq, Repr

end PolicyOS.Knowledge.Providers
