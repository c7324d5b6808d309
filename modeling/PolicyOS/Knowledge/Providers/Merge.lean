import Mathlib.Data.String.Basic
import Mathlib.Data.Rat.Defs
import Mathlib.Algebra.Order.Ring.Rat
import PolicyOS.Domain.Primitives
import PolicyOS.Foundation.FirstKept
import PolicyOS.Foundation.SortedBy

/-!
# Merging the evidence of providers

The evidence of all responses is marked where versions conflict, what duplicates earlier evidence
is left out, and the rest is ranked. A piece of evidence duplicates another if they are of one
resource or have one content.
-/

namespace PolicyOS.Knowledge.Providers.Merge

open Foundation

/-! ## Evidence -/

/-- A warning of a provider. -/
structure KnowledgeProviderWarning where
  code : String
  message : String
  deriving DecidableEq

/-- A piece of evidence, with whatever else it carries. -/
structure KnowledgeEvidence (Details : Type) where
  evidenceId : UUID
  authority : String := "unknown"
  resourceId : Option String := none
  officialSource : Bool := false
  effectiveDate : Option Int := none
  confidence : ℚ := 1 / 2
  freshness : String := "unknown"
  providerName : String
  contentHash : Option String := none
  warnings : List KnowledgeProviderWarning := []
  details : Details
  deriving DecidableEq

/-- The evidence of one provider. -/
structure KnowledgeProviderResponse (Details : Type) where
  evidence : List (KnowledgeEvidence Details) := []

variable {Details : Type}

/-- A value that is given and not empty. -/
def given (value : Option String) : Option String := value.filter (· ≠ "")

namespace EvidenceDeduplicator

/-- What was seen of the evidence that is kept. -/
structure Seen where
  resources : List String := []
  hashes : List String := []

/-- The resource or the content of a piece of evidence was seen. -/
def Seen.has (seen : Seen) (item : KnowledgeEvidence Details) : Prop :=
  (∃ resource ∈ given item.resourceId, resource ∈ seen.resources) ∨
    ∃ hash ∈ given item.contentHash, hash ∈ seen.hashes

instance (seen : Seen) (item : KnowledgeEvidence Details) : Decidable (seen.has item) :=
  inferInstanceAs (Decidable (_ ∨ _))

/-- A piece of evidence is kept. -/
def Seen.add (seen : Seen) (item : KnowledgeEvidence Details) : Seen where
  resources := (given item.resourceId).toList ++ seen.resources
  hashes := (given item.contentHash).toList ++ seen.hashes

/-- The evidence that is kept after other evidence was seen. -/
def deduplicateAfter : Seen → List (KnowledgeEvidence Details) → List (KnowledgeEvidence Details)
  | _, [] => []
  | seen, item :: rest =>
      if seen.has item then deduplicateAfter seen rest
      else item :: deduplicateAfter (seen.add item) rest

/-- Evidence without what duplicates evidence before it. -/
def deduplicate (items : List (KnowledgeEvidence Details)) : List (KnowledgeEvidence Details) :=
  deduplicateAfter {} items

end EvidenceDeduplicator

namespace EvidenceRanker

/-- What evidence is ranked by: its source, its confidence, whether it is stale, its authority,
its resource and its identifier. -/
def key (item : KnowledgeEvidence Details) : Bool ×ₗ ℚ ×ₗ Bool ×ₗ String ×ₗ String ×ₗ UUID :=
  toLex (!item.officialSource, toLex (-item.confidence,
    toLex (decide (item.freshness ∈ ["stale", "mismatch"]),
      toLex (item.authority, toLex (item.resourceId.getD "", item.evidenceId)))))

/-- Evidence by its rank. -/
def rank (items : List (KnowledgeEvidence Details)) : List (KnowledgeEvidence Details) :=
  sortedBy key items

end EvidenceRanker

namespace KnowledgeEvidenceMerger

/-- The evidence of responses, in their order. -/
def itemsOf (responses : List (KnowledgeProviderResponse Details)) :
    List (KnowledgeEvidence Details) :=
  responses.flatMap (·.evidence)

/-- The dates of a resource. -/
def datesOf (items : List (KnowledgeEvidence Details)) (resource : String) : List Int :=
  (items.filter fun item => item.resourceId = some resource).filterMap (·.effectiveDate)

/-- A resource that comes in versions of different dates. -/
def Conflicted (items : List (KnowledgeEvidence Details)) (resource : String) : Prop :=
  resource ≠ "" ∧ ∃ first ∈ datesOf items resource, ∃ second ∈ datesOf items resource,
    first ≠ second

instance (items : List (KnowledgeEvidence Details)) (resource : String) :
    Decidable (Conflicted items resource) :=
  inferInstanceAs (Decidable (_ ∧ _))

/-- Evidence of a resource in conflict is marked. -/
def normalize (items : List (KnowledgeEvidence Details)) (item : KnowledgeEvidence Details) :
    KnowledgeEvidence Details :=
  if ∃ resource ∈ item.resourceId, Conflicted items resource then
    { item with warnings := item.warnings ++
        [⟨"temporal_conflict", "Providers returned conflicting versions"⟩] }
  else item

/-- The evidence that is kept, ranked. -/
def ranked (responses : List (KnowledgeProviderResponse Details)) :
    List (KnowledgeEvidence Details) :=
  let items := itemsOf responses
  EvidenceRanker.rank (EvidenceDeduplicator.deduplicate (items.map (normalize items)))

/-- The first items of a list; for a negative number, all but so many of the last. -/
def slice {α : Type} (limit : Int) (items : List α) : List α :=
  if 0 ≤ limit then items.take limit.toNat else items.take (items.length - limit.natAbs)

/-- How often each provider occurs, by name. -/
def countsOf (items : List (KnowledgeEvidence Details)) : List (String × Nat) :=
  (sortedSet (items.map (·.providerName))).map fun name =>
    (name, (items.map (·.providerName)).count name)

/-- Merge the evidence of responses. -/
def merge (responses : List (KnowledgeProviderResponse Details)) (topK : Int) :
    List (KnowledgeEvidence Details) × List KnowledgeProviderWarning × List (String × Nat) :=
  let items := ranked responses
  let counts := countsOf items
  let warnings :=
    if counts.length < 2 ∧ 1 < responses.length then
      [(⟨"limited_provider_diversity", "Results came from one provider"⟩ :
        KnowledgeProviderWarning)]
    else []
  (slice topK items, warnings, counts)

end KnowledgeEvidenceMerger

end PolicyOS.Knowledge.Providers.Merge
