import PolicyOS.ZeroTrust.RepositoryAuthorization

/-!
# Execution under a replay-protected permit

What an accepted execution says about the request its operation receives. The
permit is compared with the request facts on ten fields and the facts with their
digest, but neither with the executed request, and the decision facts are bound
by digest only. The execution is of exactly the authorised request when the
caller presents it so.
-/

namespace PolicyOS.ZeroTrust

open Foundation

/-- Two scopes agree on the fields a replay-protected permit is not compared on. -/
def RepositoryAccessScope.agreesOnOtherFields (left right : RepositoryAccessScope) : Prop :=
  left.delegationId = right.delegationId ∧
  left.serviceActorId = right.serviceActorId ∧
  left.resourceType = right.resourceType ∧
  left.riskLevel = right.riskLevel ∧
  left.classification = right.classification

instance (left right : RepositoryAccessScope) : Decidable (left.agreesOnOtherFields right) :=
  inferInstanceAs (Decidable (_ ∧ _ ∧ _ ∧ _ ∧ _))

namespace RepositoryAccessScope

variable {first second third : RepositoryAccessScope}

/-- The two groups of fields are the whole scope. -/
theorem eq_iff_agrees :
    first = second ↔ first.agreesOnPermitFields second ∧ first.agreesOnOtherFields second := by
  constructor
  · rintro rfl
    exact ⟨⟨rfl, rfl, rfl, rfl, rfl, rfl, rfl, rfl, rfl, rfl⟩, rfl, rfl, rfl, rfl, rfl⟩
  · rintro ⟨permitFields, otherFields⟩
    unfold agreesOnPermitFields at permitFields
    unfold agreesOnOtherFields at otherFields
    cases first
    cases second
    simp_all

theorem agreesOnPermitFields.trans (earlier : first.agreesOnPermitFields second)
    (later : second.agreesOnPermitFields third) : first.agreesOnPermitFields third := by
  unfold agreesOnPermitFields at *
  simp_all

theorem agreesOnPermitFields.symm (agrees : first.agreesOnPermitFields second) :
    second.agreesOnPermitFields first := by
  unfold agreesOnPermitFields at *
  simp_all

end RepositoryAccessScope

/-- The operation's request is the one of the request facts, and the decision facts
are the `ALLOW` of the decision the permit was issued from. -/
structure AuthorisedExactly (request : RepositoryAccessRequest)
    (requestFacts : RepositoryRequestFacts) (decision : RepositoryAuthorizationDecision)
    (decisionFacts : RepositoryAuthorizationDecisionFacts) : Prop where
  scope : request.toRepositoryAccessScope = requestFacts.toRepositoryAccessScope
  outcome : decisionFacts.outcome = .allow
  decision : decisionFacts.repositoryAuthorizationDecisionId =
    decision.repositoryAuthorizationDecisionId

/-- The caller executes the request the permit was issued for, presents facts that
agree with it on the fields no permit is compared on, and had decision facts that
are the `ALLOW` of the decision. -/
structure PresentedExactly (request issuedRequest : RepositoryAccessRequest)
    (requestFacts : RepositoryRequestFacts) (decision : RepositoryAuthorizationDecision)
    (decisionFacts : RepositoryAuthorizationDecisionFacts) : Prop where
  issued : request.agreesOnPermitFields issuedRequest.toRepositoryAccessScope
  facts : request.agreesOnOtherFields requestFacts.toRepositoryAccessScope
  outcome : decisionFacts.outcome = .allow
  decision : decisionFacts.repositoryAuthorizationDecisionId =
    decision.repositoryAuthorizationDecisionId

section Execution

variable {sha256 : CanonicalMetadata → String} {issuedRequest request : RepositoryAccessRequest}
  {decision : RepositoryAuthorizationDecision} {issuedFacts requestFacts : RepositoryRequestFacts}
  {issuedDigest requestDigest : RepositoryRequestDigest}
  {decisionFacts : RepositoryAuthorizationDecisionFacts}
  {decisionDigest : RepositoryAuthorizationDecisionDigest} {repositoryPermitId : UUID}
  {permitRevision : Nat} {issuedAt : DateTime} {expiresAt : Option DateTime}
  {permit : ReplayProtectedRepositoryAccessPermit}

theorem issued_scope
    (issued : issueReplayProtectedRepositoryPermit sha256 issuedRequest decision issuedFacts
      issuedDigest decisionFacts decisionDigest repositoryPermitId permitRevision issuedAt
      expiresAt = .ok permit) :
    permit.toRepositoryAccessScope = issuedRequest.toRepositoryAccessScope := by
  simp only [issueReplayProtectedRepositoryPermit, issueRepositoryAccessPermit, bind_eq_ok_iff,
    exists_unit_iff, pure_eq_ok_iff] at issued
  obtain ⟨_, _, _, _, base, ⟨_, _, rfl⟩, rfl⟩ := issued
  rfl

theorem validated_scope {expected : RepositoryValidationFacts}
    (validated : validateRepositoryPermitForRequest sha256 permit requestFacts requestDigest
      expected = .ok ()) :
    permit.agreesOnPermitFields requestFacts.toRepositoryAccessScope := by
  simp only [validateRepositoryPermitForRequest, bind_eq_ok_iff, rejectIf_eq_ok_iff,
    exists_unit_iff, not_not] at validated
  exact validated.2.1.1

/-- An accepted execution runs the operation on the given request, which is exactly
the authorised one if and only if the caller presented it so. -/
theorem authorisedExactly_iff {Result : Type} {operation : RepositoryAccessRequest → Result}
    {expected : RepositoryValidationFacts} {result : Result}
    (issued : issueReplayProtectedRepositoryPermit sha256 issuedRequest decision issuedFacts
      issuedDigest decisionFacts decisionDigest repositoryPermitId permitRevision issuedAt
      expiresAt = .ok permit)
    (executed : executeReplayProtectedRepositoryOperation sha256 permit requestFacts
      requestDigest operation request expected = .ok result) :
    result = operation request ∧
      (AuthorisedExactly request requestFacts decision decisionFacts ↔
        PresentedExactly request issuedRequest requestFacts decision decisionFacts) := by
  simp only [executeReplayProtectedRepositoryOperation, bind_eq_ok_iff, exists_unit_iff,
    pure_eq_ok_iff] at executed
  obtain ⟨validated, same⟩ := executed
  have fromPermit := validated_scope validated
  rw [issued_scope issued] at fromPermit
  refine ⟨same.symm, ?_, ?_⟩
  · rintro ⟨scope, outcome, sameDecision⟩
    have agrees := RepositoryAccessScope.eq_iff_agrees.mp scope
    exact ⟨agrees.1.trans fromPermit.symm, agrees.2, outcome, sameDecision⟩
  · rintro ⟨fromIssued, fromFacts, outcome, sameDecision⟩
    have permitFields := fromIssued.trans fromPermit
    exact ⟨RepositoryAccessScope.eq_iff_agrees.mpr ⟨permitFields, fromFacts⟩, outcome,
      sameDecision⟩

end Execution

namespace Sample

/-- The scope of one review of one contract. -/
def scope : RepositoryAccessScope where
  repositoryRequestId := 1
  delegationId := 2
  tenantId := 4
  organizationId := 5
  onBehalfOfUserId := 6
  serviceActorId := 7
  agentInstanceId := 8
  taskId := 9
  repositoryId := "contracts"
  resourceId := "contract-1"
  resourceType := "contract"
  action := "read"
  purpose := "review"
  riskLevel := "low"
  classification := .internal

/-- The request that was evaluated. -/
def request : RepositoryAccessRequest := { scope with requestedAt := 0 }

/-- A request to delete another contract. -/
def otherRequest : RepositoryAccessRequest :=
  { scope with resourceId := "contract-2", action := "delete", requestedAt := 0 }

/-- The facts of the evaluated request. -/
def requestFacts : RepositoryRequestFacts :=
  { scope with
    lineageId := 3
    lineageDigest := "0000000000000000000000000000000000000000000000000000000000000000"
    requestedAt := 0 }

/-- SHA-256 on the two digested facts of the sample. -/
def sha256 (metadata : CanonicalMetadata) : String :=
  if metadata = canonicalizeRepositoryRequest requestFacts then
    "a0d062e86798730573f51cbe3d9cc5982a90ce9a87dbdda3b8cdfa3c107b0336"
  else "7dc1f148d7144034f0628a074ec84a7afa68f22fae267bd3e74ad523365ce36f"

/-- The decision to allow it. -/
def decision : RepositoryAuthorizationDecision where
  repositoryAuthorizationDecisionId := 10
  repositoryRequestId := 1
  delegationId := 2
  outcome := .allow
  reasonCodes := [.allowedByPolicy]
  repositoryPolicyRevision := "1"
  decidedAt := 1

/-- The facts of the decision. -/
def decisionFacts : RepositoryAuthorizationDecisionFacts where
  repositoryAuthorizationDecisionId := 10
  repositoryRequestDigest := "a0d062e86798730573f51cbe3d9cc5982a90ce9a87dbdda3b8cdfa3c107b0336"
  outcome := .allow
  reasonCodes := [.allowedByPolicy]
  policyRevision := "1"
  authorizationEngineId := "engine"
  authorizationEngineVersion := "1"
  authorizationRuleSetId := "rules"
  authorizationRuleSetVersion := "1"
  decidedAt := 1

/-- The permit issued for them. -/
def issuedPermit : Except RepositoryError ReplayProtectedRepositoryAccessPermit :=
  issueReplayProtectedRepositoryPermit sha256 request decision requestFacts
    (computeRepositoryRequestDigest sha256 requestFacts) decisionFacts
    (computeRepositoryAuthorizationDecisionDigest sha256 decisionFacts) 11 1 2 none

/-- What the caller supplies for its validation. -/
def validationFacts : RepositoryValidationFacts where
  lineageId := 3
  lineageDigest := "0000000000000000000000000000000000000000000000000000000000000000"
  authorizationEngineId := "engine"
  authorizationEngineVersion := "1"
  authorizationRuleSetId := "rules"
  authorizationRuleSetVersion := "1"
  policyRevision := "1"
  decisionFactsDigest := "7dc1f148d7144034f0628a074ec84a7afa68f22fae267bd3e74ad523365ce36f"
  evaluatedAt := 3

/-- The permit that is issued. -/
def permit : ReplayProtectedRepositoryAccessPermit :=
  { scope with
    repositoryPermitId := 11
    repositoryAuthorizationDecisionId := 10
    repositoryPolicyRevision := "1"
    issuedAt := 2
    repositoryRequestDigest := "a0d062e86798730573f51cbe3d9cc5982a90ce9a87dbdda3b8cdfa3c107b0336"
    delegationLineageId := 3
    delegationLineageDigest := "0000000000000000000000000000000000000000000000000000000000000000"
    authorizationEngineId := "engine"
    authorizationEngineVersion := "1"
    authorizationRuleSetId := "rules"
    authorizationRuleSetVersion := "1"
    policyRevision := "1"
    decisionFactsDigest := "7dc1f148d7144034f0628a074ec84a7afa68f22fae267bd3e74ad523365ce36f"
    permitRevision := 1
    permitStatus := .issued }

theorem issuedPermit_eq : issuedPermit = .ok permit := by decide

/-- Execute the permit on a request; the operation returns what it received. -/
def execute (executed : RepositoryAccessRequest) :
    Except RepositoryError RepositoryAccessRequest :=
  executeReplayProtectedRepositoryOperation sha256 permit requestFacts
    (computeRepositoryRequestDigest sha256 requestFacts) id executed validationFacts

theorem execute_request : execute request = .ok request := by decide

theorem execute_otherRequest : execute otherRequest = .ok otherRequest := by decide

end Sample

/-- The evaluated request, executed under its permit, is exactly the authorised
one. -/
theorem authorisedExactly_request :
    AuthorisedExactly Sample.request Sample.requestFacts Sample.decision Sample.decisionFacts :=
  (authorisedExactly_iff Sample.issuedPermit_eq Sample.execute_request).2.mpr
    ⟨by decide, by decide, rfl, rfl⟩

/-- Deleting another contract is executed under the permit to read the first, and
is not the authorised request. -/
theorem not_authorisedExactly_otherRequest :
    Sample.issuedPermit = .ok Sample.permit ∧
      Sample.execute Sample.otherRequest = .ok Sample.otherRequest ∧
      ¬ AuthorisedExactly Sample.otherRequest Sample.requestFacts Sample.decision
        Sample.decisionFacts := by
  refine ⟨Sample.issuedPermit_eq, Sample.execute_otherRequest, ?_⟩
  intro exact_
  have sameAction := congrArg RepositoryAccessScope.action exact_.scope
  revert sameAction
  decide

end PolicyOS.ZeroTrust
