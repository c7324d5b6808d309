import Mathlib.Data.List.Perm.Subperm
import PolicyOS.ZeroTrust.Lineage

/-!
# Chains of lineage records

Continuity is checked between neighbours. What it says of two neighbours is a
transitive relation, so it holds between any two records of a chain: the protected
facts are those of the first record, a target keeps its value once it is set, and
the stages strictly increase. Identifiers are not among what is compared, and may
repeat. The lineage of a cross-validation is checked by a list of comparisons of
its own, which leaves some of the same facts uncompared.
-/

namespace PolicyOS.ZeroTrust

open Foundation

variable {sha256 : CanonicalLineage → String}

/-- One record is the successor of another, but for some protected fields. -/
structure ContinuesBesides (exempt : List ProtectedField)
    (upstream downstream : DelegationLineageRecord sha256) : Prop where
  parent : downstream.parentLineageId = some upstream.lineageId
  parentDigest : downstream.digest.parentLineageDigest = some upstream.digest.digestValue
  keepsProtected : ∀ field ∉ exempt,
    upstream.facts.protectedFact field = downstream.facts.protectedFact field
  keepsTargets : ∀ field value, upstream.facts.target field = some value →
    downstream.facts.target field = some value
  progresses : upstream.lineageStage.order < downstream.lineageStage.order

theorem protected_kept_iff {upstream downstream : DelegationLineageFacts} :
    (¬ ∃ field ∈ protectedFields,
        ¬ upstream.protectedFact field = downstream.protectedFact field) ↔
      ∀ field, upstream.protectedFact field = downstream.protectedFact field := by
  simp

/-- No target is substituted exactly when every target set keeps its value. -/
theorem targets_kept_iff {upstream downstream : DelegationLineageFacts} :
    (¬ ∃ field ∈ targetFields, ¬ upstream.target field = none ∧
        ¬ downstream.target field = upstream.target field) ↔
      ∀ field value, upstream.target field = some value →
        downstream.target field = some value := by
  constructor
  · intro kept field value isSet
    by_contra changed
    refine kept ⟨field, mem_targetFields field, ?_, ?_⟩
    · rw [isSet]
      exact Option.some_ne_none value
    · rw [isSet]
      exact changed
  · rintro kept ⟨field, _, isSet, changed⟩
    obtain ⟨value, isValue⟩ := Option.ne_none_iff_exists'.mp isSet
    exact changed ((kept field value isValue).trans isValue.symm)

/-- A record is accepted after another exactly when it is its successor. -/
theorem validateLineageContinuity_eq_ok_iff
    {upstream downstream : DelegationLineageRecord sha256} {requireAdjacentStage : Bool} :
    validateLineageContinuity sha256 upstream downstream requireAdjacentStage = .ok () ↔
      ContinuesBesides [] upstream downstream ∧ (requireAdjacentStage = true →
        downstream.lineageStage.order = upstream.lineageStage.order + 1) := by
  simp only [validateLineageContinuity, bind_eq_ok_iff, exists_unit_iff, upstream.verified,
    downstream.verified, rejectIf_eq_ok_iff, targets_kept_iff, protected_kept_iff, Ne, not_not,
    true_and, not_le]
  constructor
  · rintro ⟨parent, parentDigest, keepsProtected, keepsTargets, progresses, adjacent⟩
    exact ⟨⟨parent, parentDigest, fun field _ => keepsProtected field, keepsTargets, progresses⟩,
      fun required => not_not.mp (not_and.mp adjacent required)⟩
  · rintro ⟨continued, adjacent⟩
    exact ⟨continued.parent, continued.parentDigest,
      fun field => continued.keepsProtected field List.not_mem_nil, continued.keepsTargets,
      continued.progresses, fun skipped => skipped.2 (adjacent skipped.1)⟩

/-- The second record is accepted after the first one. -/
def Continues (upstream downstream : DelegationLineageRecord sha256) : Prop :=
  ∃ requireAdjacentStage,
    validateLineageContinuity sha256 upstream downstream requireAdjacentStage = .ok ()

theorem Continues.besides {upstream downstream : DelegationLineageRecord sha256}
    (accepted : Continues upstream downstream) : ContinuesBesides [] upstream downstream := by
  obtain ⟨_, accepted⟩ := accepted
  exact (validateLineageContinuity_eq_ok_iff.mp accepted).1

/-- What continuity carries from one record to any later one. -/
structure Precedes (earlier later : DelegationLineageRecord sha256) : Prop where
  sameProtected : ∀ field, earlier.facts.protectedFact field = later.facts.protectedFact field
  keepsTargets : ∀ field value, earlier.facts.target field = some value →
    later.facts.target field = some value
  progresses : earlier.lineageStage.order < later.lineageStage.order

theorem Continues.precedes {upstream downstream : DelegationLineageRecord sha256}
    (accepted : Continues upstream downstream) : Precedes upstream downstream where
  sameProtected field := accepted.besides.keepsProtected field List.not_mem_nil
  keepsTargets := accepted.besides.keepsTargets
  progresses := accepted.besides.progresses

/-- What is later than a later record is later. -/
instance : IsTrans (DelegationLineageRecord sha256) Precedes where
  trans _ _ _ first second :=
    { sameProtected := fun field => (first.sameProtected field).trans (second.sameProtected field)
      keepsTargets := fun field value isSet =>
        second.keepsTargets field value (first.keepsTargets field value isSet)
      progresses := first.progresses.trans second.progresses }

variable {records : List (DelegationLineageRecord sha256)} {root : DelegationLineageRecord sha256}

theorem pairwise_precedes (chain : records.IsChain Continues) : records.Pairwise Precedes :=
  (chain.imp fun _ _ accepted => accepted.precedes).pairwise

theorem forall_mem_of_pairwise
    {Related : DelegationLineageRecord sha256 → DelegationLineageRecord sha256 → Prop}
    (reflexive : ∀ record, Related record record)
    (symmetric : ∀ {first second}, Related first second → Related second first)
    (related : records.Pairwise Related) :
    ∀ first ∈ records, ∀ second ∈ records, Related first second :=
  fun _ isFirst _ isSecond => related.forall_of_forall_of_flip
    (fun record _ => reflexive record) (related.imp symmetric) isFirst isSecond

/-- A list of stages that strictly increase is no longer than the stages there are. -/
theorem length_le_stageCount
    (progresses : records.Pairwise fun earlier later =>
      earlier.lineageStage.order < later.lineageStage.order) : records.length ≤ stageCount := by
  have distinct : (records.map (·.lineageStage.order)).Nodup :=
    List.pairwise_map.mpr (progresses.imp Nat.ne_of_lt)
  have bounded : records.map (·.lineageStage.order) ⊆ List.range stageCount := by
    intro order isOrder
    obtain ⟨record, _, rfl⟩ := List.mem_map.mp isOrder
    rw [List.mem_range]
    cases record.lineageStage <;> decide
  simpa using (distinct.subperm bounded).length_le

/-- What the records of a chain have in common. -/
structure LineageComposes (records : List (DelegationLineageRecord sha256)) : Prop where
  sameProtected : ∀ first ∈ records, ∀ second ∈ records, ∀ field,
    first.facts.protectedFact field = second.facts.protectedFact field
  keepsTargets : records.Pairwise fun earlier later => ∀ field value,
    earlier.facts.target field = some value → later.facts.target field = some value
  stagesIncrease : records.Pairwise fun earlier later =>
    earlier.lineageStage.order < later.lineageStage.order
  bounded : records.length ≤ stageCount
  distinctStages : (records.map (·.lineageStage)).Nodup
  digested : ∀ record ∈ records,
    sha256 (canonicalizeDelegationLineage record.facts) = record.digest.digestValue
  linked : records.IsChain fun upstream downstream =>
    downstream.parentLineageId = some upstream.lineageId ∧
      downstream.digest.parentLineageDigest = some upstream.digest.digestValue

theorem DelegationLineageRecord.digestValue_eq (record : DelegationLineageRecord sha256) :
    sha256 (canonicalizeDelegationLineage record.facts) = record.digest.digestValue := by
  have verified := record.verified
  simp only [verifyDelegationLineageDigest, rejectIf_eq_ok_iff, not_not] at verified
  exact verified

/-- Continuity between neighbours composes over a chain of any length. -/
theorem lineage_composes (records : List (DelegationLineageRecord sha256))
    (chain : records.IsChain Continues) : LineageComposes records := by
  have precedes : records.Pairwise Precedes := pairwise_precedes chain
  have stagesIncrease : records.Pairwise fun earlier later =>
      earlier.lineageStage.order < later.lineageStage.order :=
    precedes.imp fun earlier => earlier.progresses
  exact
    { sameProtected := fun first isFirst second isSecond =>
        forall_mem_of_pairwise (fun _ _ => rfl) (fun related field => (related field).symm)
          (precedes.imp fun earlier => earlier.sameProtected) first isFirst second isSecond
      keepsTargets := precedes.imp fun earlier => earlier.keepsTargets
      stagesIncrease := stagesIncrease
      bounded := length_le_stageCount stagesIncrease
      distinctStages := List.pairwise_map.mpr <| stagesIncrease.imp fun progresses sameStage =>
        Nat.ne_of_lt progresses (congrArg LineageStage.order sameStage)
      digested := fun record _ => record.digestValue_eq
      linked := chain.imp fun _ _ accepted => ⟨accepted.besides.parent,
        accepted.besides.parentDigest⟩ }

namespace Sample

/-- A delegation to review one contract. -/
def delegatedReview : DelegationLineageFacts where
  delegationId := 2
  tenantId := 4
  organizationId := 5
  onBehalfOfUserId := 6
  serviceActorId := 7
  agentInstanceId := 8
  taskId := 9
  resourceId := "contract-1"
  resourceType := "contract"
  action := "read"
  purpose := "review"
  riskLevel := "low"
  classification := .internal
  delegationScope := "resource_read"
  authorizationDecisionId := 10
  issuedAt := 0

/-- The delegation with an expiry, with a model, for one run of a cross-validation, and for
a run of another service actor. -/
def expiringReview : DelegationLineageFacts := { delegatedReview with expiresAt := some 100 }
def modelReview : DelegationLineageFacts := { delegatedReview with modelId := some "model-1" }
def runReview : DelegationLineageFacts :=
  { delegatedReview with agentInstanceId := 12, crossValidationRunId := some 11 }
def otherActorReview : DelegationLineageFacts := { runReview with serviceActorId := 13 }

/-- SHA-256 on the facts of the sample. -/
def lineageSha256 (canonical : CanonicalLineage) : String :=
  if canonical = canonicalizeDelegationLineage delegatedReview then
    "ab4deb1d1b659b8c0717e3cd0963845137c3bd5de0316f4d6aba02cf7f6828c7"
  else if canonical = canonicalizeDelegationLineage expiringReview then
    "3e870817a25799c6d5fdcec696e0373c2ef7d40f76f58bae854dc0f7c332945c"
  else if canonical = canonicalizeDelegationLineage modelReview then
    "71647d2a2924f466a441a82b63f4dfcba5d96f6f4fb590471e16e88dec067c18"
  else if canonical = canonicalizeDelegationLineage runReview then
    "528b38fd299474f20fefb1bb62de67fc844caed1d349c0f1704bf05a00067097"
  else "830d09759594042ae69e96c37f6fd7cbd060e8431dd67785aca226349b0e1085"

/-- A record of the facts under an identifier, after another record. -/
def lineageRecord (facts : DelegationLineageFacts) (lineageId : UUID) (lineageStage : LineageStage)
    (parent : Option (DelegationLineageRecord lineageSha256)) :
    DelegationLineageRecord lineageSha256 where
  lineageId := lineageId
  facts := facts
  digest := computeDelegationLineageDigest lineageSha256 facts lineageId 0
    (parent.map (·.digest.digestValue)) none
  parentLineageId := parent.map (·.lineageId)
  lineageStage := lineageStage
  createdAt := 0
  sameIdentity := rfl
  completeParent := by cases parent <;> simp [computeDelegationLineageDigest]
  verified := by simp [verifyDelegationLineageDigest, rejectIf, computeDelegationLineageDigest]

/-- The delegation is created, bound to a model, and stored under an identifier of
its own. -/
def rootRecord : DelegationLineageRecord lineageSha256 :=
  lineageRecord delegatedReview 1 .delegationCreated none
def modelRecord : DelegationLineageRecord lineageSha256 :=
  lineageRecord modelReview 2 .modelBound (some rootRecord)
def storedRecord (lineageId : UUID) : DelegationLineageRecord lineageSha256 :=
  lineageRecord modelReview lineageId .resultStorageBound (some modelRecord)

end Sample

/-- The sample records compose. -/
theorem lineage_composes_stored :
    LineageComposes [Sample.rootRecord, Sample.modelRecord, Sample.storedRecord 3] := by
  refine lineage_composes _ ?_
  rw [List.isChain_cons_cons, List.isChain_cons_cons]
  exact ⟨⟨true, by decide +kernel⟩, ⟨false, by decide +kernel⟩, .singleton _⟩

/-- A result stored under the identifier of the first record is accepted after the
second one, and the identifier repeats. -/
theorem lineage_id_repeats :
    [Sample.rootRecord, Sample.modelRecord, Sample.storedRecord 1].IsChain Continues ∧
      ¬ ([Sample.rootRecord, Sample.modelRecord, Sample.storedRecord 1].map
        (·.lineageId)).Nodup := by
  refine ⟨?_, by decide⟩
  rw [List.isChain_cons_cons, List.isChain_cons_cons]
  exact ⟨⟨true, by decide +kernel⟩, ⟨false, by decide +kernel⟩, .singleton _⟩

/-! ## Cross-validation -/

/-- What continuity compares and the cross-validation of a run does not: the service
actor, the resource type, the targets of the root, and the stage. -/
structure KeepsUncompared (root child : DelegationLineageRecord sha256) : Prop where
  sameActor : child.facts.serviceActorId = root.facts.serviceActorId
  sameType : child.facts.resourceType = root.facts.resourceType
  keepsTargets : ∀ field value, root.facts.target field = some value →
    child.facts.target field = some value
  progresses : root.lineageStage.order < child.lineageStage.order

theorem descends_of_run {run : CrossValidationLineageRun sha256}
    (accepted : validateCrossValidationLineageRun root run = .ok ()) :
    sharesRootFacts root.facts run.childLineage.facts ∧
      run.childLineage.parentLineageId = some root.lineageId ∧
      run.childLineage.digest.parentLineageDigest = some root.digest.digestValue := by
  simp only [validateCrossValidationLineageRun, bind_eq_ok_iff, exists_unit_iff,
    rejectIf_eq_ok_iff, not_not, ne_eq] at accepted
  obtain ⟨-, -, shares, parent, parentDigest, -, -⟩ := accepted
  exact ⟨shares, parent, parentDigest⟩

/-- An accepted run continues the root, but for its agent, exactly when it also keeps
what is not compared. -/
theorem continues_iff_of_run {run : CrossValidationLineageRun sha256}
    (accepted : validateCrossValidationLineageRun root run = .ok ()) :
    ContinuesBesides [.agentInstanceId] root run.childLineage ↔
      KeepsUncompared root run.childLineage := by
  obtain ⟨⟨tenant, organization, user, task, resource, action, purpose, risk, classification,
    scope, decision⟩, parent, parentDigest⟩ := descends_of_run accepted
  constructor
  · intro continued
    have sameActor := continued.keepsProtected .serviceActorId (by decide)
    have sameType := continued.keepsProtected .resourceType (by decide)
    simp only [DelegationLineageFacts.protectedFact, MetadataValue.uuid.injEq,
      MetadataValue.text.injEq] at sameActor sameType
    exact ⟨sameActor.symm, sameType.symm, continued.keepsTargets, continued.progresses⟩
  · intro kept
    refine ⟨parent, parentDigest, fun field notAgent => ?_, kept.keepsTargets, kept.progresses⟩
    cases field with
    | agentInstanceId => exact absurd List.mem_cons_self notAgent
    | _ => simp [DelegationLineageFacts.protectedFact, *, kept.sameActor, kept.sameType]

theorem run_accepted_of_set {runs : List (CrossValidationLineageRun sha256)}
    {requireDistinctAgents requireDistinctCredentials : Bool}
    (accepted : validateCrossValidationLineageSet root runs requireDistinctAgents
      requireDistinctCredentials = .ok ()) :
    ∀ run ∈ runs, validateCrossValidationLineageRun root run = .ok () := by
  simp only [validateCrossValidationLineageSet, bind_eq_ok_iff, exists_unit_iff,
    checkEach_eq_ok_iff] at accepted
  exact accepted.2.2.2.2

/-- The runs of an accepted set are as strict as continuity with the root exactly when
each keeps what is not compared. -/
theorem crossValidation_continues_iff {root : DelegationLineageRecord sha256}
    {runs : List (CrossValidationLineageRun sha256)}
    {requireDistinctAgents requireDistinctCredentials : Bool}
    (accepted : validateCrossValidationLineageSet root runs requireDistinctAgents
      requireDistinctCredentials = .ok ()) :
    (∀ run ∈ runs, ContinuesBesides [.agentInstanceId] root run.childLineage) ↔
      ∀ run ∈ runs, KeepsUncompared root run.childLineage :=
  forall₂_congr fun run isRun => continues_iff_of_run (run_accepted_of_set accepted run isRun)

namespace Sample

/-- A run of the cross-validation, with its lineage. -/
def validationRun (facts : DelegationLineageFacts) : CrossValidationLineageRun lineageSha256 where
  runId := 11
  agentInstanceId := 12
  credentialGrantId := 14
  rootLineageId := 1
  rootLineageDigest := "ab4deb1d1b659b8c0717e3cd0963845137c3bd5de0316f4d6aba02cf7f6828c7"
  childLineage := lineageRecord facts 15 .crossValidationBound (some rootRecord)

end Sample

/-- The run of the delegated actor continues its root. -/
theorem crossValidation_continues_ownActor :
    ContinuesBesides [.agentInstanceId] Sample.rootRecord
      (Sample.validationRun Sample.runReview).childLineage := by
  have accepted : validateCrossValidationLineageSet Sample.rootRecord
      [Sample.validationRun Sample.runReview] true true = .ok () := by decide +kernel
  have untargeted : ∀ field, Sample.rootRecord.facts.target field = none := by
    intro field
    cases field <;> rfl
  refine (crossValidation_continues_iff accepted).mpr (fun run isRun => ?_) _
    (List.mem_singleton.mpr rfl)
  rw [List.mem_singleton.mp isRun]
  refine ⟨rfl, rfl, fun field value isSet => ?_, by decide⟩
  rw [untargeted field] at isSet
  cases isSet

/-- A run of another service actor is accepted. -/
theorem crossValidation_otherActor :
    validateCrossValidationLineageSet Sample.rootRecord
        [Sample.validationRun Sample.otherActorReview] true true = .ok () ∧
      ¬ ContinuesBesides [.agentInstanceId] Sample.rootRecord
        (Sample.validationRun Sample.otherActorReview).childLineage := by
  refine ⟨by decide +kernel, fun continued => ?_⟩
  have sameActor := continued.keepsProtected .serviceActorId (by decide)
  revert sameActor
  decide

end PolicyOS.ZeroTrust
