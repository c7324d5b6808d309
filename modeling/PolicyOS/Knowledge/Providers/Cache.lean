import PolicyOS.Domain.IdentifierTexts
import PolicyOS.Knowledge.Providers.Selection

/-!
# The provider cache

Answers are kept for some minutes under a hash of what was asked of whom. The key is read back:
two calls have one key exactly if they agree on everything that goes into it.
-/

namespace PolicyOS.Knowledge.Providers

open Foundation

/-- The functions a key is made with: a hash in hexadecimal digits, and case folding. -/
structure KeyHashing where
  sha256 : Text → Text
  casefold : Text → Text

/-- What is asked of whom. -/
structure Question where
  registration : RegisteredKnowledgeProvider
  request : KnowledgeProviderRequest

/-- The query as it is hashed. -/
def KeyHashing.query (hashing : KeyHashing) (request : KnowledgeProviderRequest) : Text :=
  hashing.casefold (request.query.getD [])

/-- What goes into a key, with the names in order. -/
def keyFields (hashing : KeyHashing) (providerName providerVersion : String)
    (request : KnowledgeProviderRequest) (schemaVersion : String) : List (Text × Json) :=
  [("effective_date".toList, (request.effectiveDate.map fun date =>
      Json.string date.isoformat).getD .null),
    ("filters_hash".toList, .string (hashing.sha256 request.filters.dumps)),
    ("operation".toList, .string request.operation.value.toList),
    ("organization_id".toList, .string (uuidChars request.organizationId)),
    ("provider".toList, .string providerName.toList),
    ("query_hash".toList, .string (hashing.sha256 (hashing.query request))),
    ("resource_id_hash".toList, .string (hashing.sha256 (request.resourceId.getD []))),
    ("schema".toList, .string schemaVersion.toList),
    ("source_types".toList, .list (request.sourceTypes.val.map fun type => .string type.toList)),
    ("top_k".toList, .number (.ofNat request.topK)),
    ("version".toList, .string providerVersion.toList)]

/-- The key an answer is kept under. -/
def providerCacheKey (hashing : KeyHashing) (providerName providerVersion : String)
    (request : KnowledgeProviderRequest) (schemaVersion : String := "1") : Text :=
  hashing.sha256 (Json.dict (keyFields hashing providerName providerVersion request
    schemaVersion)).dumps

/-- The key of a question. -/
def KeyHashing.key (hashing : KeyHashing) (question : Question) : Text :=
  providerCacheKey hashing question.registration.providerName
    question.registration.implementationVersion question.request

/-! ## What is kept -/

/-- An answer that is kept until it expires. Which question it was an answer to is noted, and
read by no operation. -/
structure CacheItem where
  value : KnowledgeProviderResponse
  expires : DateTime
  origin : Question

/-- What a cache keeps, by its key. -/
abbrev CacheItems := Text → Option CacheItem

/-- The answer under a key that has not expired, and whether it is one. -/
def cacheGet (items : CacheItems) (key : Text) (now : DateTime) (allowStale : Bool := false) :
    Option KnowledgeProviderResponse × String :=
  match items key with
  | none => (none, "miss")
  | some item =>
      if item.expires < now then
        if allowStale then (some item.value, "stale") else (none, "miss")
      else (some item.value, "hit")

/-- An answer is kept under a key for some seconds. -/
def cachePut (items : CacheItems) (key : Text) (value : KnowledgeProviderResponse)
    (origin : Question) (now : DateTime) (ttlSeconds : Nat := 300) : CacheItems :=
  Function.update items key (some ⟨value, now + ttlSeconds * 1000000, origin⟩)

/-- An item is served under a key. -/
def Serves (items : CacheItems) (key : Text) (now : DateTime) (item : CacheItem) : Prop :=
  items key = some item ∧ ¬ item.expires < now

/-- A cache answers exactly if it serves an item, with its answer. -/
theorem cacheGet_eq_some_iff {items : CacheItems} {key : Text} {now : DateTime}
    {value : KnowledgeProviderResponse} {status : String} :
    cacheGet items key now = (some value, status) ↔
      ∃ item, Serves items key now item ∧ item.value = value ∧ status = "hit" := by
  unfold cacheGet Serves
  cases items key with
  | none => simp
  | some item =>
      by_cases expired : item.expires < now
      · simp [expired]
      · simp only [if_neg expired]
        constructor
        · intro served
          cases served
          exact ⟨item, ⟨rfl, expired⟩, rfl, rfl⟩
        · rintro ⟨_, ⟨isItem, -⟩, rfl, rfl⟩
          cases isItem
          rfl

/-! ## Reading the key -/

/-- Two questions agree on what goes into their keys. -/
structure SameKeyFields (hashing : KeyHashing) (first second : Question) : Prop where
  organizationId : first.request.organizationId = second.request.organizationId
  providerName : first.registration.providerName = second.registration.providerName
  implementationVersion :
    first.registration.implementationVersion = second.registration.implementationVersion
  operation : first.request.operation = second.request.operation
  query : hashing.query first.request = hashing.query second.request
  resourceId : first.request.resourceId = second.request.resourceId
  sourceTypes : first.request.sourceTypes = second.request.sourceTypes
  effectiveDate : first.request.effectiveDate = second.request.effectiveDate
  filters : first.request.filters = second.request.filters
  topK : first.request.topK = second.request.topK

theorem getD_resourceId_inj {first second : KnowledgeProviderRequest} :
    first.resourceId.getD [] = second.resourceId.getD [] ↔
      first.resourceId = second.resourceId := by
  refine ⟨fun same => ?_, fun same => by rw [same]⟩
  have firstCleaned := first.resourceCleaned
  have secondCleaned := second.resourceCleaned
  cases isFirst : first.resourceId <;> cases isSecond : second.resourceId <;> simp_all

theorem dateJson_injective :
    Function.Injective fun date : Option Date =>
      (date.map fun date => Json.string date.isoformat).getD .null := by
  intro first second same
  cases first <;> cases second <;> simp at same
  · rfl
  · rw [Date.isoformat_injective same]

theorem stringsJson_injective :
    Function.Injective fun names : List String => names.map fun name => Json.string name.toList :=
  List.map_injective_iff.mpr fun _ _ same => String.toList_inj.mp (Json.string.inj same)

/-- The fields of a key tell what goes into it. -/
theorem keyFields_inj {hashing : KeyHashing} (collisionFree : Function.Injective hashing.sha256)
    {first second : Question} {schemaVersion : String} :
    keyFields hashing first.registration.providerName first.registration.implementationVersion
        first.request schemaVersion =
      keyFields hashing second.registration.providerName
        second.registration.implementationVersion second.request schemaVersion ↔
      SameKeyFields hashing first second := by
  constructor
  · intro same
    simp only [keyFields, List.cons.injEq, Prod.mk.injEq, true_and, Json.string.injEq,
      Json.list.injEq, Json.number.injEq, and_true] at same
    obtain ⟨date, filters, operation, organization, provider, query, resource, types, topK,
      version⟩ := same
    exact {
      organizationId := eq_of_uuidChars first.request.organizationBound
        second.request.organizationBound organization
      providerName := String.toList_inj.mp provider
      implementationVersion := String.toList_inj.mp version
      operation := KnowledgeProviderOperation.value_injective (String.toList_inj.mp operation)
      query := collisionFree query
      resourceId := getD_resourceId_inj.mp (collisionFree resource)
      sourceTypes := Subtype.ext (stringsJson_injective types)
      effectiveDate := dateJson_injective date
      filters := Json.dumps_injective (collisionFree filters)
      topK := NumberText.ofNat_injective topK }
  · intro same
    simp only [keyFields, same.organizationId, same.providerName, same.implementationVersion,
      same.operation, same.query, same.resourceId, same.sourceTypes, same.effectiveDate,
      same.filters, same.topK]

theorem key_eq_iff {hashing : KeyHashing} (collisionFree : Function.Injective hashing.sha256)
    {first second : Question} :
    hashing.key first = hashing.key second ↔ SameKeyFields hashing first second := by
  have inj := @keyFields_inj hashing collisionFree first second "1"
  refine ⟨fun same => inj.mp ?_, fun same => ?_⟩
  · exact Json.dict.inj (Json.dumps_injective (collisionFree same))
  · rw [KeyHashing.key, providerCacheKey, inj.mpr same]
    rfl

end PolicyOS.Knowledge.Providers
