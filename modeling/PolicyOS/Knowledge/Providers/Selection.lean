import Mathlib.Data.Finset.Dedup
import Mathlib.Data.List.Induction
import Mathlib.Data.String.Basic
import PolicyOS.Foundation.Checked
import PolicyOS.Foundation.KeyedList
import PolicyOS.Foundation.SortedBy
import PolicyOS.Knowledge.Providers.Domain

/-!
# Registered providers and their selection

A registry has at most one provider of a name for an organization, and one for all. The
selector orders those a request may use. What it names is distinct, and the registry finds for
each name the registration that was selected. Calls for one organization change nothing for others.
-/

namespace PolicyOS.Knowledge.Providers

open Foundation

/-! ## The registry -/

/-- What a provider says of itself. -/
structure KnowledgeProvider where
  providerName : String
  providerType : KnowledgeProviderType
  capabilities : Finset KnowledgeProviderCapability
  deriving DecidableEq

/-- A registered provider. -/
structure RegisteredKnowledgeProvider where
  providerName : String
  providerType : KnowledgeProviderType
  implementationVersion : String
  priority : Nat := 100
  enabled : Bool := true
  supportedSourceTypes : StringSet := ⟨[], by decide⟩
  capabilities : Finset KnowledgeProviderCapability
  organizationId : Option UUID := none
  healthState : KnowledgeProviderHealth := .unknown
  fallbackGroup : Option String := none
  provider : KnowledgeProvider
  deriving DecidableEq

/-- The organization and the name a provider is registered for. -/
def RegisteredKnowledgeProvider.key (item : RegisteredKnowledgeProvider) : Option UUID × String :=
  (item.organizationId, item.providerName)

/-- Registered providers, one for each key. -/
structure KnowledgeProviderRegistry where
  providers : List RegisteredKnowledgeProvider := []
  distinct : (providers.map RegisteredKnowledgeProvider.key).Nodup := by decide

/-- Why a provider is not registered. -/
inductive ProviderRegistrationError
  | duplicate | contractMismatch
  deriving DecidableEq, Repr

namespace KnowledgeProviderRegistry

variable (registry : KnowledgeProviderRegistry)

/-- A provider is registered if its key is free and it is what it says of itself. -/
def register (registration : RegisteredKnowledgeProvider) :
    Except ProviderRegistrationError KnowledgeProviderRegistry :=
  if free : registration.key ∉ registry.providers.map RegisteredKnowledgeProvider.key then
    if registration.provider.providerName ≠ registration.providerName ∨
        registration.provider.providerType ≠ registration.providerType ∨
        registration.provider.capabilities ≠ registration.capabilities then
      .error .contractMismatch
    else
      .ok {
        providers := registry.providers ++ [registration]
        distinct := ((List.perm_append_singleton registration registry.providers).map _).nodup_iff.mpr
          (List.nodup_cons.mpr ⟨free, registry.distinct⟩) }
  else .error .duplicate

/-- A provider is removed. -/
def unregister (providerName : String) (organizationId : Option UUID) :
    KnowledgeProviderRegistry where
  providers := registry.providers.filter fun item => item.key ≠ (organizationId, providerName)
  distinct := registry.distinct.sublist ((List.filter_sublist ..).map _)

/-- The provider of a key. -/
def find? (organizationId : Option UUID) (providerName : String) :
    Option RegisteredKnowledgeProvider :=
  registry.providers.find? fun item => item.key = (organizationId, providerName)

/-- The provider of a name for an organization: its own, or the one for all. -/
def get (providerName : String) (organizationId : Option UUID) :
    Except KnowledgeProviderError RegisteredKnowledgeProvider :=
  match (registry.find? organizationId providerName).or (registry.find? none providerName) with
  | some item => .ok item
  | none => .error { errorClass := .notFound, safeMessage := "Knowledge provider was not found" }

/-- A provider joins those an organization sees. Its own takes the place of one for all. -/
def sees (organizationId : Option UUID) (visible : List RegisteredKnowledgeProvider)
    (item : RegisteredKnowledgeProvider) : List RegisteredKnowledgeProvider :=
  if item.organizationId = none ∨ item.organizationId = organizationId then
    if item.providerName ∉ visible.map (·.providerName) then visible ++ [item]
    else if item.organizationId = organizationId then
      visible.map fun other => if other.providerName = item.providerName then item else other
    else visible
  else visible

/-- The providers an organization sees, by priority and name. -/
def list (organizationId : Option UUID) : List RegisteredKnowledgeProvider :=
  sortedBy (fun item => toLex (item.priority, item.providerName))
    (registry.providers.foldl (sees organizationId) [])

/-- Those that are enabled. -/
def listEnabled (organizationId : Option UUID) : List RegisteredKnowledgeProvider :=
  (registry.list organizationId).filter (·.enabled)

end KnowledgeProviderRegistry

/-! ## The selector -/

/-- What a provider is selected for. -/
structure ProviderSelectionRequest where
  organizationId : UUID
  capability : KnowledgeProviderCapability
  sourceTypes : StringSet := ⟨[], by decide⟩
  temporalQuery : Bool := false
  requirePersistentIngestion : Bool := false
  preferredProvider : Option String := none
  excludedProviders : StringSet := ⟨[], by decide⟩
  providerTypePreference : List KnowledgeProviderType := []
  fallbackGroup : Option String := none

/-- Why a provider was selected. -/
inductive ProviderSelectionReason
  | preferred | priority | degradedFallback | noProvider
  deriving DecidableEq, Repr

/-- What was selected. -/
structure ProviderSelectionResult where
  selectedProvider : Option String
  fallbackCandidates : List String := []
  selectionReason : ProviderSelectionReason
  capabilityMatch : Bool := false
  healthStatus : KnowledgeProviderHealth := .unknown
  warnings : List String := []
  noProviderReason : Option String := none
  deriving DecidableEq

/-- The selector admits a provider. -/
def ProviderSelectionRequest.Admits (request : ProviderSelectionRequest)
    (item : RegisteredKnowledgeProvider) : Prop :=
  item.providerName ∉ request.excludedProviders.val ∧
  request.capability ∈ item.capabilities ∧
  (request.sourceTypes.val ≠ [] →
    ∃ type ∈ request.sourceTypes.val, type ∈ item.supportedSourceTypes.val) ∧
  (request.temporalQuery = true → .temporalQuery ∈ item.capabilities) ∧
  (request.requirePersistentIngestion = true → .persistentIngestion ∈ item.capabilities) ∧
  (request.fallbackGroup ≠ none → request.fallbackGroup ≠ some "" →
    item.fallbackGroup = request.fallbackGroup) ∧
  item.healthState ∉ [.unavailable, .disabled, .misconfigured]

instance (request : ProviderSelectionRequest) (item : RegisteredKnowledgeProvider) :
    Decidable (request.Admits item) := by
  unfold ProviderSelectionRequest.Admits
  infer_instance

/-- What admitted providers are ordered by. -/
def ProviderSelectionRequest.rank (request : ProviderSelectionRequest)
    (item : RegisteredKnowledgeProvider) : Nat ×ₗ Nat ×ₗ Nat ×ₗ Nat ×ₗ String :=
  let preferredRank := if some item.providerName = request.preferredProvider then 0 else 1
  let healthRank := if item.healthState = .degraded then 1 else 0
  let typeRank := request.providerTypePreference.idxOf item.providerType
  toLex (preferredRank, toLex (healthRank, toLex (typeRank, toLex (item.priority,
    item.providerName))))

/-- The providers a request may use, in the order in which they are tried. -/
def candidatesFor (registry : KnowledgeProviderRegistry) (request : ProviderSelectionRequest) :
    List RegisteredKnowledgeProvider :=
  sortedBy request.rank
    ((registry.listEnabled (some request.organizationId)).filter (request.Admits ·))

/-- The selection among the candidates. -/
def select (registry : KnowledgeProviderRegistry) (request : ProviderSelectionRequest) :
    ProviderSelectionResult :=
  match candidatesFor registry request with
  | [] => {
      selectedProvider := none
      selectionReason := .noProvider
      noProviderReason := some "No enabled, healthy provider satisfies the request" }
  | chosen :: others => {
      selectedProvider := some chosen.providerName
      fallbackCandidates := others.map (·.providerName)
      selectionReason :=
        if some chosen.providerName = request.preferredProvider then .preferred
        else if chosen.healthState = .degraded then .degradedFallback
        else .priority
      capabilityMatch := true
      healthStatus := chosen.healthState
      warnings := if chosen.healthState = .degraded then ["selected_provider_degraded"] else [] }

/-! ## What an organization sees -/

/-- The providers an organization sees of those that were gone through: one for each name they
have, and one for all only if it has none of its own. -/
structure Seen (organizationId : Option UUID)
    (gone visible : List RegisteredKnowledgeProvider) : Prop where
  distinct : (visible.map (·.providerName)).Nodup
  among : ∀ item ∈ visible, item ∈ gone ∧
    (item.organizationId = none ∨ item.organizationId = organizationId)
  covers : ∀ item ∈ gone, (item.organizationId = none ∨ item.organizationId = organizationId) →
    item.providerName ∈ visible.map (·.providerName)
  own : ∀ item ∈ visible, item.organizationId ≠ organizationId →
    ∀ other ∈ gone, other.organizationId = organizationId →
      other.providerName ≠ item.providerName

variable {organizationId : Option UUID} {gone visible : List RegisteredKnowledgeProvider}
  {item : RegisteredKnowledgeProvider} {registry : KnowledgeProviderRegistry}
  {request : ProviderSelectionRequest}

theorem map_name_replaced (item : RegisteredKnowledgeProvider)
    (visible : List RegisteredKnowledgeProvider) :
    (visible.map fun other => if other.providerName = item.providerName then item else other).map
      (·.providerName) = visible.map (·.providerName) := by
  rw [List.map_map]
  refine List.map_congr_left fun other _ => ?_
  simp only [Function.comp_apply]
  split_ifs with same
  · exact same.symm
  · rfl

/-- A provider that is not seen changes nothing: its organization is another, or its name is
taken and it is for all. -/
theorem Seen.skip (seen : Seen organizationId gone visible)
    (hidden : item.organizationId = none ∨ item.organizationId = organizationId →
      item.providerName ∈ visible.map (·.providerName) ∧ item.organizationId ≠ organizationId) :
    Seen organizationId (gone ++ [item]) visible where
  distinct := seen.distinct
  among shown isShown :=
    ⟨List.mem_append_left _ (seen.among shown isShown).1, (seen.among shown isShown).2⟩
  covers := by
    intro other isOther scope
    rcases List.mem_append.mp isOther with isOther | isOther
    · exact seen.covers other isOther scope
    · obtain rfl := List.mem_singleton.mp isOther
      exact (hidden scope).1
  own := by
    intro shown isShown notOwn other isOther isOwn
    rcases List.mem_append.mp isOther with isOther | isOther
    · exact seen.own shown isShown notOwn other isOther isOwn
    · obtain rfl := List.mem_singleton.mp isOther
      exact absurd isOwn (hidden (.inr isOwn)).2

/-- The first provider of a name is seen. -/
theorem Seen.add (seen : Seen organizationId gone visible)
    (inScope : item.organizationId = none ∨ item.organizationId = organizationId)
    (new : item.providerName ∉ visible.map (·.providerName)) :
    Seen organizationId (gone ++ [item]) (visible ++ [item]) where
  distinct := by
    rw [List.map_append, List.nodup_append]
    refine ⟨seen.distinct, by simp, ?_⟩
    rintro name isName other isOther rfl
    obtain rfl : name = item.providerName := by simpa using isOther
    exact new isName
  among := by
    intro shown isShown
    rcases List.mem_append.mp isShown with isShown | isShown
    · exact ⟨List.mem_append_left _ (seen.among shown isShown).1, (seen.among shown isShown).2⟩
    · obtain rfl := List.mem_singleton.mp isShown
      exact ⟨by simp, inScope⟩
  covers := by
    intro other isOther scope
    rw [List.map_append, List.mem_append]
    rcases List.mem_append.mp isOther with isOther | isOther
    · exact .inl (seen.covers other isOther scope)
    · obtain rfl := List.mem_singleton.mp isOther
      exact .inr (by simp)
  own := by
    intro shown isShown notOwn other isOther isOwn same
    rcases List.mem_append.mp isShown with before | isShown <;>
      rcases List.mem_append.mp isOther with past | isOther
    · exact seen.own shown before notOwn other past isOwn same
    · obtain rfl := List.mem_singleton.mp isOther
      exact new (same ▸ List.mem_map_of_mem before)
    · obtain rfl := List.mem_singleton.mp isShown
      exact new (same ▸ seen.covers other past (.inr isOwn))
    · obtain rfl := List.mem_singleton.mp isShown
      obtain rfl := List.mem_singleton.mp isOther
      exact notOwn isOwn

/-- The organization's own provider takes the place of the one of its name. -/
theorem Seen.replace (seen : Seen organizationId gone visible)
    (isOwn : item.organizationId = organizationId)
    (old : item.providerName ∈ visible.map (·.providerName)) :
    Seen organizationId (gone ++ [item])
      (visible.map fun other => if other.providerName = item.providerName then item else other) where
  distinct := by
    rw [map_name_replaced]
    exact seen.distinct
  among := by
    intro shown isShown
    obtain ⟨other, isOther, rfl⟩ := List.mem_map.mp isShown
    split_ifs
    · exact ⟨by simp, .inr isOwn⟩
    · exact ⟨List.mem_append_left _ (seen.among other isOther).1, (seen.among other isOther).2⟩
  covers := by
    intro other isOther scope
    rw [map_name_replaced]
    rcases List.mem_append.mp isOther with isOther | isOther
    · exact seen.covers other isOther scope
    · obtain rfl := List.mem_singleton.mp isOther
      exact old
  own := by
    intro shown isShown notOwn other isOther otherOwn
    obtain ⟨before, isBefore, rfl⟩ := List.mem_map.mp isShown
    split_ifs at notOwn ⊢ with named
    · exact absurd isOwn notOwn
    · rcases List.mem_append.mp isOther with isOther | isOther
      · exact seen.own before isBefore notOwn other isOther otherOwn
      · obtain rfl := List.mem_singleton.mp isOther
        exact fun same => named same.symm

theorem Seen.sees (seen : Seen organizationId gone visible) :
    Seen organizationId (gone ++ [item])
      (KnowledgeProviderRegistry.sees organizationId visible item) := by
  unfold KnowledgeProviderRegistry.sees
  split_ifs with inScope old isOwn
  · exact seen.replace isOwn old
  · exact seen.skip fun _ => ⟨old, isOwn⟩
  · exact seen.add inScope old
  · exact seen.skip fun scope => absurd scope inScope

theorem seen_foldl (organizationId : Option UUID) (items : List RegisteredKnowledgeProvider) :
    Seen organizationId items
      (items.foldl (KnowledgeProviderRegistry.sees organizationId) []) := by
  induction items using List.reverseRecOn with
  | nil =>
      rw [List.foldl_nil]
      constructor <;> simp
  | append_singleton gone item ih =>
      rw [List.foldl_append, List.foldl_cons, List.foldl_nil]
      exact ih.sees

/-! ## What is selected -/

theorem find?_eq_some_iff {providerName : String} :
    registry.find? organizationId providerName = some item ↔
      item ∈ registry.providers ∧ item.key = (organizationId, providerName) :=
  find?_key_eq_some_iff registry.distinct

theorem nodup_list : ((registry.list organizationId).map (·.providerName)).Nodup :=
  (perm_sortedBy.map _).nodup_iff.mpr (seen_foldl organizationId registry.providers).distinct

/-- The registry finds by its name the provider an organization sees. -/
theorem get_of_mem_list (isListed : item ∈ registry.list organizationId) :
    registry.get item.providerName organizationId = .ok item := by
  have isSeen := mem_sortedBy.mp isListed
  have seen := seen_foldl organizationId registry.providers
  obtain ⟨isProvider, scope⟩ := seen.among item isSeen
  by_cases own : item.organizationId = organizationId
  · have found : registry.find? organizationId item.providerName = some item :=
      find?_eq_some_iff.mpr ⟨isProvider, by simp [RegisteredKnowledgeProvider.key, own]⟩
    simp [KnowledgeProviderRegistry.get, found]
  · have shared : item.organizationId = none := scope.resolve_right own
    have unscoped : registry.find? organizationId item.providerName = none := by
      rw [Option.eq_none_iff_forall_not_mem]
      intro other isOther
      obtain ⟨isProvider, key⟩ := find?_eq_some_iff.mp isOther
      simp only [RegisteredKnowledgeProvider.key, Prod.mk.injEq] at key
      exact seen.own item isSeen own other isProvider key.1 key.2
    have found : registry.find? none item.providerName = some item :=
      find?_eq_some_iff.mpr ⟨isProvider, by simp [RegisteredKnowledgeProvider.key, shared]⟩
    simp [KnowledgeProviderRegistry.get, unscoped, found]

/-- **An organization is listed exactly the providers it gets by their names.** -/
theorem mem_list_iff (registry : KnowledgeProviderRegistry) (organizationId : Option UUID)
    (item : RegisteredKnowledgeProvider) :
    item ∈ registry.list organizationId ↔
      registry.get item.providerName organizationId = .ok item := by
  refine ⟨get_of_mem_list, fun got => ?_⟩
  have found : (registry.find? organizationId item.providerName).or
      (registry.find? none item.providerName) = some item := by
    unfold KnowledgeProviderRegistry.get at got
    split at got <;> cases got
    assumption
  have known : item ∈ registry.providers ∧
      (item.organizationId = none ∨ item.organizationId = organizationId) := by
    rcases Option.or_eq_some_iff.mp found with own | ⟨-, shared⟩
    · obtain ⟨isProvider, key⟩ := find?_eq_some_iff.mp own
      exact ⟨isProvider, .inr (congrArg Prod.fst key)⟩
    · obtain ⟨isProvider, key⟩ := find?_eq_some_iff.mp shared
      exact ⟨isProvider, .inl (congrArg Prod.fst key)⟩
  obtain ⟨other, isOther, named⟩ := List.mem_map.mp
    ((seen_foldl organizationId registry.providers).covers item known.1 known.2)
  have isListed : other ∈ registry.list organizationId := mem_sortedBy.mpr isOther
  have same := get_of_mem_list isListed
  rw [named, got] at same
  exact Except.ok.inj same ▸ isListed

theorem mem_candidatesFor_iff :
    item ∈ candidatesFor registry request ↔
      (item ∈ registry.list (some request.organizationId) ∧ item.enabled = true) ∧
        request.Admits item := by
  rw [candidatesFor, mem_sortedBy, List.mem_filter, KnowledgeProviderRegistry.listEnabled,
    List.mem_filter, decide_eq_true_eq]

theorem nodup_candidatesFor : ((candidatesFor registry request).map (·.providerName)).Nodup := by
  refine (perm_sortedBy.map _).nodup_iff.mpr ?_
  exact nodup_list.sublist (((List.filter_sublist ..).trans (List.filter_sublist ..)).map _)

/-- The names of a selection, in the order in which they are tried. -/
def ProviderSelectionResult.names (selection : ProviderSelectionResult) : List String :=
  selection.selectedProvider.toList ++ selection.fallbackCandidates

theorem names_select :
    (select registry request).names = (candidatesFor registry request).map (·.providerName) := by
  unfold select ProviderSelectionResult.names
  split
  next nothing => simp [nothing]
  next some_ => simp [some_]

/-! ## Organizations apart -/

/-- What changes a registry. -/
inductive RegistryCall
  | register (registration : RegisteredKnowledgeProvider)
  | unregister (providerName : String) (scope : Option UUID)

/-- The scope a call is made in: an organization, or all of them. -/
def RegistryCall.scope : RegistryCall → Option UUID
  | register registration => registration.organizationId
  | unregister _ scope => scope

/-- The registry after a call. A registration that is refused leaves it as it was. -/
def KnowledgeProviderRegistry.after (registry : KnowledgeProviderRegistry) :
    RegistryCall → KnowledgeProviderRegistry
  | .register registration => (registry.register registration).toOption.getD registry
  | .unregister providerName scope => registry.unregister providerName scope

/-- An organization is concerned by what is its own and by what is for all. -/
def Concerns (organizationId scope : Option UUID) : Bool :=
  scope = none ∨ scope = organizationId

section Shown

open KnowledgeProviderRegistry

-- The other registry has what concerns the organization, and nothing else.
variable {other : KnowledgeProviderRegistry}
  (same : registry.providers.filter (Concerns organizationId ·.organizationId) = other.providers)
include same

/-- A call changes of what concerns an organization what it changes where that is all. Calls that
do not concern it change nothing. -/
theorem providers_after (call : RegistryCall) :
    (registry.after call).providers.filter (Concerns organizationId ·.organizationId) =
      if Concerns organizationId call.scope then (other.after call).providers
      else other.providers := by
  cases call with
  | unregister providerName scope =>
      simp only [after, unregister, RegistryCall.scope, ← same, List.filter_filter]
      split_ifs with concerned
      · exact List.filter_congr fun item _ => Bool.and_comm ..
      · refine List.filter_congr fun item _ => ?_
        by_cases key : item.key = (scope, providerName)
        · have isScope : item.organizationId = scope := congrArg Prod.fst key
          simp [isScope, concerned]
        · simp [key]
  | register registration =>
      have taken : Concerns organizationId registration.organizationId = true →
          (registration.key ∈ registry.providers.map RegisteredKnowledgeProvider.key ↔
            registration.key ∈ other.providers.map RegisteredKnowledgeProvider.key) := by
        intro concerned
        simp only [← same, List.mem_map, List.mem_filter, and_assoc]
        refine exists_congr fun item => and_congr_right fun _ => ?_
        rw [iff_and_self]
        intro key
        rwa [show item.organizationId = registration.organizationId from congrArg Prod.fst key]
      simp only [after, register, RegistryCall.scope]
      split_ifs <;> simp_all [Except.toOption]

theorem list_congr : registry.list organizationId = other.list organizationId := by
  rw [KnowledgeProviderRegistry.list, KnowledgeProviderRegistry.list, ← same, List.foldl_filter]
  congr 1
  refine List.foldl_ext _ _ _ fun visible item _ => ?_
  unfold sees Concerns
  split_ifs <;> simp_all

theorem get_congr (providerName : String) :
    registry.get providerName organizationId = other.get providerName organizationId := by
  have found : ∀ scope, Concerns organizationId scope = true →
      registry.find? scope providerName = other.find? scope providerName := by
    intro scope concerned
    simp only [find?, ← same, List.find?_filter]
    refine congrArg (registry.providers.find? ·) (funext fun item => ?_)
    by_cases key : item.key = (scope, providerName)
    · simp [key, show item.organizationId = scope from congrArg Prod.fst key, concerned]
    · simp [key]
  simp only [KnowledgeProviderRegistry.get, found, Concerns, decide_true, or_true, true_or]

end Shown

/-- The registry after calls. -/
def registryAfter (calls : List RegistryCall) : KnowledgeProviderRegistry :=
  calls.foldl KnowledgeProviderRegistry.after {}

theorem providers_registryAfter (organizationId : Option UUID) (calls : List RegistryCall) :
    (registryAfter calls).providers.filter (Concerns organizationId ·.organizationId) =
      (registryAfter (calls.filter (Concerns organizationId ·.scope))).providers := by
  induction calls using List.reverseRecOn with
  | nil => rfl
  | append_singleton before call ih =>
      rw [List.filter_append, List.filter_singleton, registryAfter, registryAfter,
        List.foldl_append, List.foldl_append, List.foldl_cons, List.foldl_nil, ← registryAfter,
        providers_after ih]
      cases Concerns organizationId call.scope <;> rfl

/-- **The registry keeps organizations apart**: an organization is listed, and gets by a name, what
it would if the calls in the scopes of others were not made. -/
theorem registry_isolated (organizationId : Option UUID) (calls : List RegistryCall) :
    (registryAfter calls).list organizationId =
        (registryAfter (calls.filter (Concerns organizationId ·.scope))).list organizationId ∧
      ∀ providerName, (registryAfter calls).get providerName organizationId =
        (registryAfter (calls.filter (Concerns organizationId ·.scope))).get providerName
          organizationId :=
  have same := providers_registryAfter organizationId calls
  ⟨list_congr same, get_congr same⟩

end PolicyOS.Knowledge.Providers
