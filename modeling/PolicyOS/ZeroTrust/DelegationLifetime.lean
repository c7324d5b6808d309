import Mathlib.Data.List.Dedup
import Mathlib.Data.List.Sort
import PolicyOS.ZeroTrust.LineageChain
import PolicyOS.ZeroTrust.PermitExecution

/-!
# Delegation and repository policy

A delegation holds from its issuance until it expires. The policy evaluation of a
repository request checks the delegation at the instant of the request, and an
`ALLOW` decision is what a permit is issued from.
-/

namespace PolicyOS.ZeroTrust

open Foundation

/-- A delegation of a user to a service actor. -/
structure DelegatedExecutionContext where
  delegationId : UUID
  tenantId : UUID
  organizationId : UUID
  onBehalfOfUserId : UUID
  serviceActorId : UUID
  agentInstanceId : UUID
  taskId : UUID
  resourceId : String
  resourceType : String
  action : String
  purpose : String
  riskLevel : String
  classification : DataClassification
  issuedAt : DateTime
  expiresAt : Option DateTime := none
  distinctActor : serviceActorId ≠ onBehalfOfUserId := by decide
  expiryFollows : ¬ ∃ expiry ∈ expiresAt, expiry ≤ issuedAt := by decide

/-- A failed delegation check, with its message. -/
structure DelegationValidationError where
  message : String
  deriving DecidableEq, Repr

/-- An instant must lie in the period of a delegation. -/
def DelegatedExecutionContext.requireValidAt (delegation : DelegatedExecutionContext)
    (evaluatedAt : DateTime) : Except DelegationValidationError Unit := do
  rejectIf (evaluatedAt < delegation.issuedAt) ⟨"delegation is not yet valid"⟩
  rejectIf (∃ expiry ∈ delegation.expiresAt, evaluatedAt ≥ expiry) ⟨"delegation is expired"⟩

/-- An instant lies in the period of a delegation. -/
structure DelegatedExecutionContext.ValidAt (delegation : DelegatedExecutionContext)
    (evaluatedAt : DateTime) : Prop where
  issued : delegation.issuedAt ≤ evaluatedAt
  unexpired : ∀ expiry ∈ delegation.expiresAt, evaluatedAt < expiry

theorem DelegatedExecutionContext.requireValidAt_eq_ok_iff
    {delegation : DelegatedExecutionContext} {evaluatedAt : DateTime} :
    delegation.requireValidAt evaluatedAt = .ok () ↔ delegation.ValidAt evaluatedAt := by
  simp only [requireValidAt, bind_eq_ok_iff, exists_unit_iff, rejectIf_eq_ok_iff, not_lt,
    not_exists, not_and, ge_iff_le, not_le]
  exact ⟨fun valid => ⟨valid.1, valid.2⟩,
    fun valid => ⟨valid.issued, valid.unexpired⟩⟩

/-- The policy of a repository, as it is read for one request. -/
structure RepositoryPolicyFacts where
  activeUser : Bool
  membershipExists : Bool
  membershipActive : Bool
  membershipTenantId : Option UUID
  membershipOrganizationId : Option UUID
  membershipUserId : Option UUID
  allowedResourceIds : List String
  allowedActions : List String
  allowedPurposes : List String
  allowedRiskLevels : List String
  allowedClassifications : List DataClassification
  delegationValid : Bool
  expectedServiceActorId : UUID
  expectedAgentInstanceId : UUID
  repositoryPolicyRevision : String
  requiresHumanApproval : Bool := false

/-- The request repeats its delegation. -/
def RepositoryAccessRequest.delegatedBy (request : RepositoryAccessRequest)
    (delegation : DelegatedExecutionContext) : Prop :=
  request.delegationId = delegation.delegationId ∧
  request.tenantId = delegation.tenantId ∧
  request.organizationId = delegation.organizationId ∧
  request.onBehalfOfUserId = delegation.onBehalfOfUserId ∧
  request.serviceActorId = delegation.serviceActorId ∧
  request.agentInstanceId = delegation.agentInstanceId ∧
  request.taskId = delegation.taskId ∧
  request.resourceId = delegation.resourceId ∧
  request.resourceType = delegation.resourceType ∧
  request.action = delegation.action ∧
  request.purpose = delegation.purpose ∧
  request.riskLevel = delegation.riskLevel ∧
  request.classification = delegation.classification

instance (request : RepositoryAccessRequest) (delegation : DelegatedExecutionContext) :
    Decidable (request.delegatedBy delegation) :=
  inferInstanceAs (Decidable (_ ∧ _ ∧ _ ∧ _ ∧ _ ∧ _ ∧ _ ∧ _ ∧ _ ∧ _ ∧ _ ∧ _ ∧ _))

/-- One reason, when it applies. -/
def reasonIf (applies : Prop) [Decidable applies] (reason : RepositoryAuthorizationReason) :
    List RepositoryAuthorizationReason :=
  if applies then [reason] else []

/-- The reasons to deny a request, in the order they are checked. -/
def denialReasons (request : RepositoryAccessRequest) (delegation : DelegatedExecutionContext)
    (facts : RepositoryPolicyFacts) : List RepositoryAuthorizationReason :=
  List.flatten
    [reasonIf (facts.activeUser = false) .userInactive,
      if facts.membershipExists = false then [.membershipMissing]
      else reasonIf (facts.membershipActive = false) .membershipInactive,
      reasonIf (facts.membershipTenantId ≠ some request.tenantId) .tenantMismatch,
      reasonIf (facts.membershipOrganizationId ≠ some request.organizationId)
        .organizationMismatch,
      reasonIf (facts.membershipUserId ≠ some request.onBehalfOfUserId) .userMismatch,
      reasonIf (request.resourceId ∉ facts.allowedResourceIds) .resourceDenied,
      reasonIf (request.action ∉ facts.allowedActions) .actionDenied,
      reasonIf (request.purpose ∉ facts.allowedPurposes) .purposeDenied,
      reasonIf (request.riskLevel ∉ facts.allowedRiskLevels) .riskDenied,
      reasonIf (request.classification ∉ facts.allowedClassifications) .classificationDenied,
      reasonIf (facts.delegationValid = false) .delegationInvalid,
      reasonIf (request.serviceActorId ≠ facts.expectedServiceActorId) .serviceActorMismatch,
      reasonIf (request.agentInstanceId ≠ facts.expectedAgentInstanceId) .agentInstanceMismatch,
      reasonIf (¬ request.delegatedBy delegation) .delegationInvalid,
      reasonIf (delegation.requireValidAt request.requestedAt ≠ .ok ()) .delegationInvalid]

/-- Evaluate the policy of a repository for one request under its delegation. -/
def evaluateRepositoryAccessPolicy (request : RepositoryAccessRequest)
    (delegation : DelegatedExecutionContext) (facts : RepositoryPolicyFacts)
    (repositoryAuthorizationDecisionId : UUID) (decidedAt : DateTime) :
    RepositoryAuthorizationDecision :=
  let reasons := (denialReasons request delegation facts).dedup.insertionSort
    fun first second => first.value ≤ second.value
  let (outcome, reasonCodes) : RepositoryAuthorizationOutcome × _ :=
    if reasons ≠ [] then (.deny, reasons)
    else if facts.requiresHumanApproval then (.requiresHumanApproval, [.humanApprovalRequired])
    else (.allow, [.allowedByPolicy])
  { repositoryAuthorizationDecisionId := repositoryAuthorizationDecisionId
    repositoryRequestId := request.repositoryRequestId
    delegationId := request.delegationId
    outcome := outcome
    reasonCodes := reasonCodes
    repositoryPolicyRevision := facts.repositoryPolicyRevision
    decidedAt := decidedAt }

/-- A reason that does not apply is not given. -/
@[simp] theorem reasonIf_eq_nil_iff {applies : Prop} [Decidable applies]
    {reason : RepositoryAuthorizationReason} : reasonIf applies reason = [] ↔ ¬ applies := by
  simp [reasonIf]

/-- A request is allowed exactly when there is no reason to deny it and no human has to
approve it. -/
theorem evaluate_allow_iff {request : RepositoryAccessRequest}
    {delegation : DelegatedExecutionContext} {facts : RepositoryPolicyFacts}
    {repositoryAuthorizationDecisionId : UUID} {decidedAt : DateTime} :
    (evaluateRepositoryAccessPolicy request delegation facts repositoryAuthorizationDecisionId
        decidedAt).outcome = .allow ↔
      denialReasons request delegation facts = [] ∧ facts.requiresHumanApproval = false := by
  have sorted_nil : (denialReasons request delegation facts).dedup.insertionSort
      (fun first second => first.value ≤ second.value) = [] ↔
        denialReasons request delegation facts = [] := by
    rw [← List.length_eq_zero_iff, List.length_insertionSort, List.length_eq_zero_iff,
      List.dedup_eq_nil]
  unfold evaluateRepositoryAccessPolicy
  by_cases denied : denialReasons request delegation facts = []
  · cases facts.requiresHumanApproval <;> simp [denied]
  · simp [denied, sorted_nil]

/-- An allowed request repeats its delegation, and was made in its period. -/
theorem delegated_of_allow {request : RepositoryAccessRequest}
    {delegation : DelegatedExecutionContext} {facts : RepositoryPolicyFacts}
    {repositoryAuthorizationDecisionId : UUID} {decidedAt : DateTime}
    (allowed : (evaluateRepositoryAccessPolicy request delegation facts
      repositoryAuthorizationDecisionId decidedAt).outcome = .allow) :
    request.delegatedBy delegation ∧ delegation.ValidAt request.requestedAt := by
  obtain ⟨undenied, -⟩ := evaluate_allow_iff.mp allowed
  simp only [denialReasons, List.flatten_cons, List.append_eq_nil_iff, reasonIf_eq_nil_iff,
    not_not, ne_eq] at undenied
  obtain ⟨-, -, -, -, -, -, -, -, -, -, -, -, -, delegated, valid, -⟩ := undenied
  exact ⟨delegated, DelegatedExecutionContext.requireValidAt_eq_ok_iff.mp valid⟩

/-!
# How long a delegation is used

A delegation is checked when its request is evaluated. Execution checks the permit,
whose lifetime the caller chooses, and continuity of lineage does not compare
expiries. So operations stay in the period of the delegation exactly when the permit
does, and expiries do not grow along a chain exactly when no neighbour grows them.
-/

/-- An expiry comes no later than another one; an absent expiry is never reached. -/
def EndsBy (expiry bound : Option DateTime) : Prop :=
  ∀ limit ∈ bound, ∃ own ∈ expiry, own ≤ limit

theorem EndsBy.trans {first second third : Option DateTime} (early : EndsBy second first)
    (later : EndsBy third second) : EndsBy third first := by
  intro limit isLimit
  obtain ⟨middle, isMiddle, middle_le⟩ := early limit isLimit
  obtain ⟨own, isOwn, own_le⟩ := later middle isMiddle
  exact ⟨own, isOwn, own_le.trans middle_le⟩

/-- A period that starts no earlier and ends no later. -/
structure AuthorizedRepositoryAccessPermit.Within (permit : AuthorizedRepositoryAccessPermit)
    (delegation : DelegatedExecutionContext) : Prop where
  issued : delegation.issuedAt ≤ permit.issuedAt
  endsBy : EndsBy permit.expiresAt delegation.expiresAt

theorem covers_iff {permit : AuthorizedRepositoryAccessPermit} {evaluatedAt : DateTime} :
    ¬ permit.outsideLifetime evaluatedAt ↔
      permit.issuedAt ≤ evaluatedAt ∧ ∀ expiry ∈ permit.expiresAt, evaluatedAt < expiry := by
  simp [AuthorizedRepositoryAccessPermit.outsideLifetime]

theorem expiry_follows_of_issue {request : RepositoryAccessRequest}
    {decision : RepositoryAuthorizationDecision} {repositoryPermitId : UUID}
    {issuedAt : DateTime} {expiresAt : Option DateTime} {permit : AuthorizedRepositoryAccessPermit}
    (issued : issueRepositoryAccessPermit request decision repositoryPermitId issuedAt expiresAt =
      .ok permit) :
    decision.outcome = .allow ∧ ∀ expiry ∈ permit.expiresAt, permit.issuedAt < expiry := by
  simp only [issueRepositoryAccessPermit, bind_eq_ok_iff, exists_unit_iff, rejectIf_eq_ok_iff,
    pure_eq_ok_iff, not_or, not_not, not_exists, not_and, not_le, ne_eq] at issued
  obtain ⟨⟨allowed, -, -⟩, follows, rfl⟩ := issued
  exact ⟨allowed, follows⟩

/-- The instants a permit covers lie in the period of a delegation exactly when the permit
is within it. -/
theorem within_iff {permit : AuthorizedRepositoryAccessPermit}
    {delegation : DelegatedExecutionContext}
    (follows : ∀ expiry ∈ permit.expiresAt, permit.issuedAt < expiry) :
    (∀ evaluatedAt, ¬ permit.outsideLifetime evaluatedAt → delegation.ValidAt evaluatedAt) ↔
      permit.Within delegation := by
  simp only [covers_iff]
  constructor
  · intro valid
    refine ⟨(valid permit.issuedAt ⟨le_rfl, follows⟩).issued, fun limit isLimit => ?_⟩
    -- A permit that outlasts the limit covers the limit, or a later issuance.
    by_contra outlasts
    push Not at outlasts
    have covered := valid (max permit.issuedAt limit) ⟨le_max_left _ _, fun expiry isExpiry =>
      max_lt (follows expiry isExpiry) (outlasts expiry isExpiry)⟩
    exact absurd (covered.unexpired limit isLimit) (not_lt.mpr (le_max_right _ _))
  · rintro ⟨issued, endsBy⟩ evaluatedAt ⟨started, unexpired⟩
    refine ⟨issued.trans started, fun limit isLimit => ?_⟩
    obtain ⟨own, isOwn, own_le⟩ := endsBy limit isLimit
    exact (unexpired own isOwn).trans_le own_le

/-- An operation is executed at an instant. -/
def ExecutedAt (permit : AuthorizedRepositoryAccessPermit) (evaluatedAt : DateTime) : Prop :=
  ∃ (Result : Type) (request : RepositoryAccessRequest)
    (operation : RepositoryAccessRequest → Result) (repositoryPolicyRevision : String)
    (result : Result), executeAuthorizedRepositoryOperation request permit operation
      repositoryPolicyRevision evaluatedAt = .ok result

/-- Operations are executed at the instants the permit covers. -/
theorem executedAt_iff {permit : AuthorizedRepositoryAccessPermit} {evaluatedAt : DateTime} :
    ExecutedAt permit evaluatedAt ↔ ¬ permit.outsideLifetime evaluatedAt := by
  constructor
  · rintro ⟨_, request, operation, revision, result, executed⟩
    simp only [executeAuthorizedRepositoryOperation, validateRepositoryAccessPermit,
      bind_eq_ok_iff, exists_unit_iff, rejectIf_eq_ok_iff] at executed
    exact executed.1.2.2
  · intro covered
    refine ⟨Unit, { permit.toRepositoryAccessScope with requestedAt := evaluatedAt },
      fun _ => (), permit.repositoryPolicyRevision, (), ?_⟩
    simp only [executeAuthorizedRepositoryOperation, validateRepositoryAccessPermit,
      bind_eq_ok_iff, exists_unit_iff, rejectIf_eq_ok_iff, pure_eq_ok_iff, ne_eq, not_true,
      not_false_iff, covered, and_self]

/-- No record of a list expires later than a record before it. -/
def ExpiriesKept {sha256 : CanonicalLineage → String}
    (records : List (DelegationLineageRecord sha256)) : Prop :=
  records.Pairwise fun upstream downstream =>
    EndsBy downstream.facts.expiresAt upstream.facts.expiresAt

/-- An allowed request was made in the period of its delegation. Operations are executed
in that period exactly when the permit is within it, and no record of a chain outlives an
earlier one exactly when none outlives the one before. -/
theorem delegation_outlived_iff {sha256 : CanonicalLineage → String}
    {request permitRequest : RepositoryAccessRequest} {delegation : DelegatedExecutionContext}
    {facts : RepositoryPolicyFacts} {repositoryAuthorizationDecisionId repositoryPermitId : UUID}
    {decidedAt issuedAt : DateTime} {expiresAt : Option DateTime}
    {permit : AuthorizedRepositoryAccessPermit}
    (issued : issueRepositoryAccessPermit permitRequest
      (evaluateRepositoryAccessPolicy request delegation facts repositoryAuthorizationDecisionId
        decidedAt) repositoryPermitId issuedAt expiresAt = .ok permit) :
    delegation.ValidAt request.requestedAt ∧
      ((∀ evaluatedAt, ExecutedAt permit evaluatedAt → delegation.ValidAt evaluatedAt) ↔
        permit.Within delegation) ∧
      ∀ records : List (DelegationLineageRecord sha256), records.IsChain Continues →
        (ExpiriesKept records ↔ records.IsChain fun upstream downstream =>
          EndsBy downstream.facts.expiresAt upstream.facts.expiresAt) := by
  obtain ⟨allowed, follows⟩ := expiry_follows_of_issue issued
  refine ⟨(delegated_of_allow allowed).2, ?_, fun records _ => ?_⟩
  · simp only [executedAt_iff]
    exact within_iff follows
  · have : IsTrans (DelegationLineageRecord sha256) fun upstream downstream =>
        EndsBy downstream.facts.expiresAt upstream.facts.expiresAt :=
      ⟨fun _ _ _ => EndsBy.trans⟩
    exact List.isChain_iff_pairwise.symm

namespace Sample

/-- The delegation of the review, for a hundred microseconds. -/
def delegation : DelegatedExecutionContext where
  delegationId := 2
  tenantId := 4
  organizationId := 5
  onBehalfOfUserId := 6
  serviceActorId := 7
  agentInstanceId := 8
  taskId := 9
  resourceId := "contract-1"
  resourceType := "contract"
  action := "read"
  purpose := "review"
  riskLevel := "low"
  classification := .internal
  issuedAt := 0
  expiresAt := some 100

/-- A policy that allows the review. -/
def policyFacts : RepositoryPolicyFacts where
  activeUser := true
  membershipExists := true
  membershipActive := true
  membershipTenantId := some 4
  membershipOrganizationId := some 5
  membershipUserId := some 6
  allowedResourceIds := ["contract-1"]
  allowedActions := ["read"]
  allowedPurposes := ["review"]
  allowedRiskLevels := ["low"]
  allowedClassifications := [.internal]
  delegationValid := true
  expectedServiceActorId := 7
  expectedAgentInstanceId := 8
  repositoryPolicyRevision := "1"

/-- A permit for the review, up to an expiry. -/
def permitUntil (expiresAt : Option DateTime) : AuthorizedRepositoryAccessPermit where
  toRepositoryAccessScope := scope
  repositoryPermitId := 11
  repositoryAuthorizationDecisionId := 10
  repositoryPolicyRevision := "1"
  issuedAt := 2
  expiresAt := expiresAt

/-- The permit as it is issued from the evaluation of the request. -/
def issuedUntil (expiresAt : Option DateTime) :
    Except RepositoryError AuthorizedRepositoryAccessPermit :=
  issueRepositoryAccessPermit request
    (evaluateRepositoryAccessPolicy request delegation policyFacts 10 1) 11 2 expiresAt

/-- A record of the delegation with its expiry. -/
def expiringRecord : DelegationLineageRecord lineageSha256 :=
  lineageRecord expiringReview 1 .delegationCreated none

/-- The same delegation bound to a model, without an expiry. -/
def unendingRecord : DelegationLineageRecord lineageSha256 :=
  lineageRecord modelReview 2 .modelBound (some expiringRecord)

end Sample

/-- A permit that expires with the delegation is used in its period, and the records of
the delegation without expiries keep none. -/
theorem delegation_outlived_iff_together :
    Sample.delegation.ValidAt 0 ∧
      (∀ evaluatedAt, ExecutedAt (Sample.permitUntil (some 100)) evaluatedAt →
        Sample.delegation.ValidAt evaluatedAt) ∧
      ExpiriesKept [Sample.rootRecord, Sample.modelRecord] := by
  have issued : Sample.issuedUntil (some 100) = .ok (Sample.permitUntil (some 100)) := by
    decide +kernel
  obtain ⟨requested, within, kept⟩ := delegation_outlived_iff issued
  refine ⟨requested, within.mpr ⟨by decide, fun limit isLimit => ?_⟩, (kept _ ?_).mpr ?_⟩
  · cases isLimit
    exact ⟨100, rfl, le_rfl⟩
  · exact .cons_cons ⟨true, by decide +kernel⟩ (.singleton _)
  · exact .cons_cons (fun _ unset => nomatch unset) (.singleton _)

/-- A permit without an expiry is used after the delegation has expired, and a record
without an expiry is accepted after one that expires. -/
theorem delegation_outlived :
    (Sample.issuedUntil none = .ok (Sample.permitUntil none) ∧
        ExecutedAt (Sample.permitUntil none) 150 ∧ ¬ Sample.delegation.ValidAt 150) ∧
      [Sample.expiringRecord, Sample.unendingRecord].IsChain Continues ∧
        ¬ ExpiriesKept [Sample.expiringRecord, Sample.unendingRecord] := by
  refine ⟨⟨by decide +kernel, executedAt_iff.mpr (by decide), fun valid => ?_⟩, ?_, fun kept => ?_⟩
  · exact absurd (valid.unexpired 100 rfl) (by decide)
  · exact .cons_cons ⟨true, by decide +kernel⟩ (.singleton _)
  · obtain ⟨own, isOwn, -⟩ := List.rel_of_pairwise_cons kept List.mem_cons_self 100 rfl
    cases isOwn

end PolicyOS.ZeroTrust
