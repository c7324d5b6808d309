import PolicyOS.Foundation.Transition
import PolicyOS.Knowledge.Providers.GovernedExecution

/-!
# Cached answers

The calls of one service share a cache. Whatever it holds is kept under the key of the question
it answers, so what is returned from it answers a question with the same key fields. That is
the question that was asked only if nothing that the key leaves out differs.
-/

namespace PolicyOS.Knowledge.Providers

open Foundation

variable {Rest : Type}

/-! ## The cache of a service -/

/-- What a cache keeps, and everything else outside. -/
structure Memory (Rest : Type) where
  items : CacheItems
  rest : Rest

/-- The clock is read only where something is found, or kept. -/
def inMemoryCache (now : Rest → DateTime × Rest) : ProviderCache (Memory Rest) where
  get key memory :=
    match memory.items key with
    | none => (.ok (none, "miss"), memory)
    | some _ => (.ok (cacheGet memory.items key (now memory.rest).1),
        { memory with rest := (now memory.rest).2 })
  put key value origin memory :=
    (.ok (), {
      items := cachePut memory.items key value origin (now memory.rest).1
      rest := (now memory.rest).2 })

/-- Providers and a clock that do not touch the cache. -/
structure Others (Rest : Type) where
  ask : ProviderMethod → Question → KnowledgeProviderContext → Rest → ProviderAnswer × Rest
  now : Rest → DateTime × Rest

/-- They surround a service with its cache. -/
def Others.surroundings (others : Others Rest) : Surroundings (Memory Rest) where
  ask method question context memory :=
    ((others.ask method question context memory.rest).1,
      { memory with rest := (others.ask method question context memory.rest).2 })
  cache := some (inMemoryCache others.now)
  now memory := ((others.now memory.rest).1, { memory with rest := (others.now memory.rest).2 })

/-- A provider is to be tried. -/
structure ProviderCall where
  registration : RegisteredKnowledgeProvider
  attempt : AttemptContext

/-- What is asked of whom. -/
def ProviderCall.question (call : ProviderCall) : Question :=
  ⟨call.registration, call.attempt.request⟩

/-- A call is made. -/
def ProviderCall.run (call : ProviderCall) (others : Others Rest) (hashing : KeyHashing) :
    Service (Memory Rest) KnowledgeProviderResponse :=
  executeOne others.surroundings hashing call.registration call.attempt

/-- Calls one after the other, on a cache that is empty at first. -/
def cachedCalls (others : Others Rest) (hashing : KeyHashing) :
    TransitionSystem (ServiceState (Memory Rest)) ProviderCall where
  Initial state := ∀ key, state.outside.items key = none
  Step state call next := leftBy ((call.run others hashing).run state) = next

variable {others : Others Rest} {hashing : KeyHashing} {call : ProviderCall}
  {state final : ServiceState (Memory Rest)} {item : CacheItem}

/-! ## What the cache holds -/

/-- Everything is kept under the key of its question. -/
def Labelled (hashing : KeyHashing) (state : ServiceState (Memory Rest)) : Prop :=
  ∀ key item, state.outside.items key = some item → hashing.key item.origin = key

/-- What a cache holds stays under the keys of its questions. -/
def KeepsLabels (hashing : KeyHashing) (start final : ServiceState (Memory Rest)) : Prop :=
  Labelled hashing start → Labelled hashing final

instance : @Std.Refl (ServiceState (Memory Rest)) (KeepsLabels hashing) := ⟨fun _ => id⟩

instance : IsTrans (ServiceState (Memory Rest)) (KeepsLabels hashing) :=
  ⟨fun _ _ _ first second => second ∘ first⟩

theorem keepsLabels_of_eq (same : final.outside.items = state.outside.items) :
    KeepsLabels hashing state final := by
  intro labelled key item held
  rw [same] at held
  exact labelled key item held

theorem keepsLabels_lookUp {key : Text} :
    Within (KeepsLabels hashing) (lookUp others.surroundings key) := by
  intro start
  simp only [lookUp, Others.surroundings, outside, bind_assoc, leads_bind, leads_modifyGet,
    leads_ofResult, leads_pure, inMemoryCache]
  cases held : start.outside.items key with
  | none => exact ⟨fun _ _ => keepsLabels_of_eq rfl, fun _ _ => keepsLabels_of_eq rfl⟩
  | some item => exact ⟨fun _ _ => keepsLabels_of_eq rfl, fun _ _ => keepsLabels_of_eq rfl⟩

/-- What is kept is labelled with its question. -/
theorem keepsLabels_keep {question : Question} {response : KnowledgeProviderResponse} :
    Within (KeepsLabels hashing)
      (keep others.surroundings (hashing.key question) response question) := by
  intro start
  simp only [keep, Others.surroundings, outside, leads_bind, leads_modifyGet, leads_ofResult,
    inMemoryCache, cachePut]
  refine ⟨fun _ _ labelled key item held => ?_, by rintro _ ⟨⟩⟩
  dsimp only at held
  by_cases same : key = hashing.key question
  · rw [same, Function.update_self] at held
    cases held
    exact same.symm
  · rw [Function.update_of_ne same] at held
    exact labelled key item held

/-- An attempt keeps the labels. -/
theorem keepsLabels_run : Within (KeepsLabels hashing) (call.run others hashing) := by
  have reads : Within (KeepsLabels hashing) (observe others.surroundings.now) :=
    fun _ => leads_modifyGet.mpr (keepsLabels_of_eq rfl)
  have called : Within (KeepsLabels hashing) (callProvider others.surroundings call.question
      call.attempt.execution.context) := by
    refine Within.bind (fun start => ?_) fun _ => Within.bind (fun start => ?_) fun _ =>
      within_ofResult
    · exact leads_modify.mpr (keepsLabels_of_eq rfl)
    · exact leads_modifyGet.mpr (keepsLabels_of_eq rfl)
  refine within_ofResult.bind fun _ => keepsLabels_lookUp.bind fun cached => ?_
  cases cached with
  | some value => exact within_pure
  | none =>
      refine called.bind fun answer => (within_normalizeAll reads).bind fun evidence =>
        keepsLabels_keep.bind fun _ => Within.bind (fun start => ?_) fun _ => within_pure
      exact leads_modify.mpr (keepsLabels_of_eq rfl)

/-- In every run everything is kept under the key of its question. -/
def labels : (cachedCalls others hashing).Invariant where
  Holds := Labelled hashing
  initial := by
    intro start empty key item held
    rw [empty key] at held
    cases held
  preserved := by
    rintro start call _ labelled rfl
    exact keepsLabels_run.leftBy start labelled

/-! ## What is returned from the cache -/

/-- A call returns what the cache holds: no provider is called for it. -/
def ReturnsStored (others : Others Rest) (hashing : KeyHashing)
    (state : ServiceState (Memory Rest)) (call : ProviderCall) (item : CacheItem) : Prop :=
  state.outside.items (hashing.key call.question) = some item ∧
    ∃ final, (call.run others hashing).run state =
        .ok { item.value with cacheStatus := "hit" } final ∧ final.asked = state.asked

/-- What a call may return from the cache. -/
def Held (others : Others Rest) (hashing : KeyHashing) (state : ServiceState (Memory Rest))
    (call : ProviderCall) (item : CacheItem) : Prop :=
  permitted call.registration call.attempt = .ok () ∧
    Serves state.outside.items (hashing.key call.question) (others.now state.outside.rest).1 item

/-- An item as it is returned. -/
def CacheItem.hit (item : CacheItem) : KnowledgeProviderResponse :=
  { item.value with cacheStatus := "hit" }

/-- Looking up finds what is served, and nothing else. -/
theorem leads_lookUp {key : Text} :
    Leads (lookUp others.surroundings key)
      (fun cached later => later.asked = state.asked ∧ ∀ value, cached = some value ↔
        ∃ item, Serves state.outside.items key (others.now state.outside.rest).1 item ∧
          item.hit = value)
      (fun _ _ => False) state := by
  simp only [lookUp, Others.surroundings, outside, bind_assoc, leads_bind, leads_modifyGet,
    leads_ofResult, leads_pure, inMemoryCache]
  cases held : state.outside.items key with
  | none =>
      refine ⟨fun _ found => ?_, by rintro _ ⟨⟩⟩
      cases found
      exact ⟨trivial, fun value => by simp [Serves, held]⟩
  | some item =>
      refine ⟨fun found same => ?_, by rintro _ ⟨⟩⟩
      obtain ⟨cached, status⟩ := found
      have served := Except.ok.inj same
      refine ⟨trivial, fun value => ?_⟩
      rw [Option.map_eq_some_iff]
      constructor
      · rintro ⟨kept, rfl, rfl⟩
        obtain ⟨item, serves, rfl, rfl⟩ := cacheGet_eq_some_iff.mp served
        exact ⟨item, serves, rfl⟩
      · rintro ⟨item, serves, rfl⟩
        have hit := cacheGet_eq_some_iff.mpr ⟨item, serves, rfl, rfl⟩
        rw [served] at hit
        cases hit
        exact ⟨item.value, rfl, rfl⟩

/-- A call returns what it may from the cache, and calls a provider otherwise. -/
theorem leads_run :
    Leads (call.run others hashing)
      (fun response final =>
        (∀ item, Held others hashing state call item →
          response = item.hit ∧ final.asked = state.asked) ∧
        (final.asked = state.asked → ∃ item, Held others hashing state call item))
      (fun _ _ => ∀ item, ¬ Held others hashing state call item) state := by
  simp only [ProviderCall.run, executeOne, leads_bind, leads_ofResult]
  refine ⟨fun _ allowed => ?_, fun _ refused item held => ?_⟩
  · refine leads_lookUp.imp (fun cached later found => ?_) fun _ _ => False.elim
    obtain ⟨unasked, isFound⟩ := found
    cases cached with
    | some value =>
        obtain ⟨item, serves, isHit⟩ := (isFound value).mp rfl
        refine ⟨fun other held => ⟨?_, unasked⟩, fun _ => ⟨item, allowed, serves⟩⟩
        obtain rfl : item = other := Option.some.inj (serves.1.symm.trans held.2.1)
        exact isHit.symm
    | none =>
        have nothing : ∀ item, ¬ Held others hashing state call item := by
          intro item held
          cases (isFound item.hit).mpr ⟨item, held.2, rfl⟩
        refine leads_answerAnew.imp (fun _ final moved => ?_) fun _ _ _ => nothing
        refine ⟨fun item held => absurd held (nothing item), fun same => ?_⟩
        rw [moved.2, unasked] at same
        simp at same
  · rw [held.1] at refused
    cases refused

/-- A call returns what the cache holds exactly if it may. -/
theorem returnsStored_iff :
    ReturnsStored others hashing state call item ↔ Held others hashing state call item := by
  have spec := @leads_run _ others hashing call state
  unfold Leads at spec
  unfold ReturnsStored
  split at spec
  next response final ran =>
    constructor
    · rintro ⟨isHeld, later, returned, unasked⟩
      rw [ran] at returned
      cases returned
      obtain ⟨other, allowed, serves⟩ := spec.2 unasked
      obtain rfl : item = other := Option.some.inj (isHeld.symm.trans serves.1)
      exact ⟨allowed, serves⟩
    · intro held
      obtain ⟨isHit, unasked⟩ := spec.1 item held
      exact ⟨held.2.1, final, by rw [ran, isHit]; rfl, unasked⟩
  next raised final ran =>
    constructor
    · rintro ⟨-, later, returned, -⟩
      rw [ran] at returned
      cases returned
    · exact fun held => absurd held (spec item)

/-! ## The question that was asked -/

/-- Two requests agree on every field but those that say who asked and when. -/
def SameRequest (first second : KnowledgeProviderRequest) : Prop :=
  { first with
    userId := second.userId
    requestId := second.requestId
    correlationId := second.correlationId } = second

/-- Two requests agree on the fields that do not go into the key, and on the query as it was
asked. -/
structure SameUnkeyed (first second : KnowledgeProviderRequest) : Prop where
  query : first.query = second.query
  jurisdiction : first.jurisdiction = second.jurisdiction
  dateFrom : first.dateFrom = second.dateFrom
  dateTo : first.dateTo = second.dateTo
  includeHistory : first.includeHistory = second.includeHistory
  includeRelated : first.includeRelated = second.includeRelated
  persistResults : first.persistResults = second.persistResults
  classification : first.classification = second.classification
  metadataAllowlist : first.metadataAllowlist = second.metadataAllowlist

/-- No evidence is above what a call was authorised for. -/
def WithinAuthority (item : CacheItem) (call : ProviderCall) : Prop :=
  ∀ evidence ∈ item.value.evidence,
    evidence.classification.rank ≤ call.attempt.effectiveClassification.rank

/-- What a call returns from the cache is an answer to the question it asks, and no evidence of
it is above what the call was authorised for. -/
def AnswersSameQuestion (others : Others Rest) (hashing : KeyHashing)
    (state : ServiceState (Memory Rest)) (call : ProviderCall) : Prop :=
  ∀ item, ReturnsStored others hashing state call item →
    SameRequest item.origin.request call.attempt.request ∧ WithinAuthority item call

/-- Where a call may be made, whatever is kept for a question with its key fields and has not
expired was asked with the same other fields, and holds no evidence above its authority. -/
def Separated (others : Others Rest) (hashing : KeyHashing) (state : ServiceState (Memory Rest))
    (call : ProviderCall) : Prop :=
  permitted call.registration call.attempt = .ok () →
    ∀ key item, Serves state.outside.items key (others.now state.outside.rest).1 item →
      SameKeyFields hashing item.origin call.question →
        SameUnkeyed item.origin.request call.attempt.request ∧ WithinAuthority item call

/-- Requests that agree on the key fields agree exactly if they agree on the others. -/
theorem sameRequest_iff (same : SameKeyFields hashing item.origin call.question) :
    SameRequest item.origin.request call.attempt.request ↔
      SameUnkeyed item.origin.request call.attempt.request := by
  have organization : item.origin.request.organizationId = call.attempt.request.organizationId :=
    same.organizationId
  have operation : item.origin.request.operation = call.attempt.request.operation := same.operation
  have resource : item.origin.request.resourceId = call.attempt.request.resourceId :=
    same.resourceId
  have types : item.origin.request.sourceTypes = call.attempt.request.sourceTypes :=
    same.sourceTypes
  have date : item.origin.request.effectiveDate = call.attempt.request.effectiveDate :=
    same.effectiveDate
  have filters : item.origin.request.filters = call.attempt.request.filters := same.filters
  have topK : item.origin.request.topK = call.attempt.request.topK := same.topK
  constructor
  · intro agree
    exact {
      query := congrArg (·.query) agree
      jurisdiction := congrArg (·.jurisdiction) agree
      dateFrom := congrArg (·.dateFrom) agree
      dateTo := congrArg (·.dateTo) agree
      includeHistory := congrArg (·.includeHistory) agree
      includeRelated := congrArg (·.includeRelated) agree
      persistResults := congrArg (·.persistResults) agree
      classification := congrArg (·.classification) agree
      metadataAllowlist := congrArg (·.metadataAllowlist) agree }
  · rintro ⟨query, jurisdiction, dateFrom, dateTo, history, related, persist, classification, metadata⟩
    unfold SameRequest
    generalize item.origin.request = first at *
    generalize call.attempt.request = second at *
    cases first
    cases second
    simp_all

/-- In every run, a call answers its question exactly if nothing that is kept differs from it in
what the key leaves out. -/
theorem answersSameQuestion_iff (collisionFree : Function.Injective hashing.sha256)
    (reachable : (cachedCalls others hashing).Reachable state) :
    AnswersSameQuestion others hashing state call ↔ Separated others hashing state call := by
  have labelled : Labelled hashing state := labels.of_reachable reachable
  have keyed : ∀ {key item}, state.outside.items key = some item →
      (SameKeyFields hashing item.origin call.question ↔ key = hashing.key call.question) := by
    intro key item held
    rw [← key_eq_iff collisionFree, labelled key item held]
  constructor
  · intro answers allowed key item serves same
    obtain rfl := (keyed serves.1).mp same
    obtain ⟨sameRequest, within⟩ := answers item (returnsStored_iff.mpr ⟨allowed, serves⟩)
    exact ⟨(sameRequest_iff same).mp sameRequest, within⟩
  · intro separated item returned
    obtain ⟨allowed, serves⟩ := returnsStored_iff.mp returned
    have same := (keyed serves.1).mpr rfl
    obtain ⟨unkeyed, within⟩ := separated allowed _ item serves same
    exact ⟨(sameRequest_iff same).mpr unkeyed, within⟩

/-! ## A question with other dates -/

namespace Sample

/-- The digests of the query, of no resource and of no filters. -/
def queryDigest : Text :=
  hexText 64 0x0af96a8ed622a394e8b2a239284ee46e9a7a7b0ec38191bbd08571b171118dd6

def resourceDigest : Text :=
  hexText 64 0xe3b0c44298fc1c149afbf4c8996fb92427ae41e4649b934ca495991b7852b855

def filtersDigest : Text :=
  hexText 64 0x44136fa355b3678a1146ad16f7e8649e94fb4fc21fe77e8310c060f61caaff8a

/-- The text that is hashed for the key. -/
def keyText : Text :=
  (Json.dict [("effective_date".toList, .null), ("filters_hash".toList, .string filtersDigest),
    ("operation".toList, .string "search".toList),
    ("organization_id".toList, .string "00000000-0000-0000-0000-000000000001".toList),
    ("provider".toList, .string "database".toList), ("query_hash".toList, .string queryDigest),
    ("resource_id_hash".toList, .string resourceDigest), ("schema".toList, .string ['1']),
    ("source_types".toList, .list []), ("top_k".toList, .number (.ofNat 10)),
    ("version".toList, .string ['1'])]).dumps

/-- The digests of the texts that are hashed for one question. -/
def digests : List (Text × Text) := [
  ("budget".toList, queryDigest), ([], resourceDigest), (['{', '}'], filtersDigest),
  (keyText, hexText 64 0xcd4b80003a0f4fa91165524985e661d909c436aab0113c9fb9f785e8c7d8ddaf)]

/-- The digest of a text that is hashed for that question, and a text that is none for others. -/
def digest (text : Text) : Text :=
  ((digests.find? (·.1 = text)).map (·.2)).getD ('x' :: text)

/-- Such digests do not collide. -/
theorem digest_injective : Function.Injective digest := by
  have apart : ∀ first ∈ digests, ∀ second ∈ digests, first.2 = second.2 → first = second := by
    decide +kernel
  have hexadecimal : ∀ entry ∈ digests, entry.2.head? ≠ some 'x' := by decide +kernel
  have found : ∀ {text entry}, digests.find? (·.1 = text) = some entry →
      entry ∈ digests ∧ entry.1 = text := fun isFound =>
    ⟨List.mem_of_find?_eq_some isFound, by simpa using List.find?_some isFound⟩
  intro first second same
  unfold digest at same
  cases isFirst : digests.find? (·.1 = first) with
  | some entry =>
      cases isSecond : digests.find? (·.1 = second) with
      | some other =>
          simp only [isFirst, isSecond, Option.map_some, Option.getD_some] at same
          rw [← (found isFirst).2, apart _ (found isFirst).1 _ (found isSecond).1 same,
            (found isSecond).2]
      | none =>
          simp only [isFirst, isSecond, Option.map_some, Option.map_none, Option.getD_some,
            Option.getD_none] at same
          exact absurd (by rw [same]; rfl) (hexadecimal _ (found isFirst).1)
  | none =>
      cases isSecond : digests.find? (·.1 = second) with
      | some other =>
          simp only [isFirst, isSecond, Option.map_some, Option.map_none, Option.getD_some,
            Option.getD_none] at same
          exact absurd (by rw [← same]; rfl) (hexadecimal _ (found isSecond).1)
      | none =>
          simp only [isFirst, isSecond, Option.map_none, Option.getD_none] at same
          exact (List.cons.inj same).2

/-- Keys are made with these digests. -/
def digesting : KeyHashing := ⟨digest, List.map Char.toLower⟩

/-- Whoever is asked finds the budget, all at one time. -/
def budgetKeepers : Others Unit where
  ask _ question _ _ := (.answered {
    providerName := question.registration.providerName
    evidence := [{
      title := "Budget", retrievedAt := .aware 0, classification := .internal }]
    totalCount := 1 }, ())
  now _ := (0, ())

/-- What the database is asked of the budget, from a date on. -/
def budgetCall (dateFrom : Option Date) : ProviderCall where
  registration := database
  attempt := {
    request := { confidentialRequest with dateFrom, classification := .internal }
    execution :=
      { confidentialExecution with
        context := { confidentialExecution.context with classification := .internal } }
    selection := ⟨some "database", [], .priority, true, .unknown, [], none⟩
    attempted := ["database"]
    effectiveClassification := .internal }

example : digesting.key (budgetCall none).question =
    hexText 64 0xcd4b80003a0f4fa91165524985e661d909c436aab0113c9fb9f785e8c7d8ddaf := by
  decide +kernel

/-- An empty cache. -/
def nothingKept : ServiceState (Memory Unit) where
  outside := ⟨fun _ => none, ()⟩

/-- The budget was asked for, from no date on. -/
def budgetKept : ServiceState (Memory Unit) :=
  leftBy (((budgetCall none).run budgetKeepers digesting).run nothingKept)

theorem reachable_budgetKept : (cachedCalls budgetKeepers digesting).Reachable budgetKept :=
  by
  have empty : (cachedCalls budgetKeepers digesting).Initial nothingKept := fun _ => rfl
  have asked : (cachedCalls budgetKeepers digesting).Step nothingKept (budgetCall none)
      budgetKept := rfl
  exact .step (.initial empty) asked

/-- A date. -/
def newYear : Date where
  year := 2024
  month := 1
  day := 1

end Sample

/-- The same question is answered from the cache exactly if nothing kept differs from it. -/
theorem answersSameQuestion_budget :
    AnswersSameQuestion Sample.budgetKeepers Sample.digesting Sample.budgetKept
        (Sample.budgetCall none) ↔
      Separated Sample.budgetKeepers Sample.digesting Sample.budgetKept (Sample.budgetCall none) :=
  answersSameQuestion_iff Sample.digest_injective Sample.reachable_budgetKept

/-- The budget from a date on is answered by what was kept for the budget of all dates. -/
theorem other_dates_answered :
    ¬ ∀ (others : Others Unit) (hashing : KeyHashing) (state : ServiceState (Memory Unit))
        (call : ProviderCall), Function.Injective hashing.sha256 →
        (cachedCalls others hashing).Reachable state →
          AnswersSameQuestion others hashing state call := by
  intro always
  have answers := always Sample.budgetKeepers Sample.digesting Sample.budgetKept
    (Sample.budgetCall (some Sample.newYear)) Sample.digest_injective Sample.reachable_budgetKept
  have held : ∃ item ∈ Sample.budgetKept.outside.items (Sample.digesting.key
      (Sample.budgetCall (some Sample.newYear)).question),
      ¬ item.expires < 0 ∧ item.origin.request.dateFrom = none := by
    decide +kernel
  obtain ⟨item, isHeld, live, undated⟩ := held
  have agree := (answers item (returnsStored_iff.mpr ⟨rfl, isHeld, live⟩)).1
  have dates : item.origin.request.dateFrom = some Sample.newYear :=
    congrArg (·.dateFrom) agree
  rw [undated] at dates
  cases dates

end PolicyOS.Knowledge.Providers
