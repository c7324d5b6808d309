import PolicyOS.Domain.Primitives

/-!
# Rate-admission contracts

Policies that limit how many requests of one operation a principal may make in a
window of time, their revocation, and the decisions taken under them. A contract
that validates itself at construction carries that check as a field.
-/

namespace PolicyOS.Runtime

/-- The operations a policy may limit. -/
inductive RuntimeRateOperation
  | submitInvocation | getInvocation | requestReconciliation
  deriving DecidableEq, Repr

/-- The exact revision of one policy. -/
structure RuntimeRatePolicyLocator where
  tenantId : UUID
  organizationId : UUID
  principalId : UUID
  operation : RuntimeRateOperation
  classification : DataClassification
  policyId : UUID
  policyRevision : PositiveInt
  policyReference : BoundedId
  deriving DecidableEq

/-- The length of a window, up to a day. -/
abbrev RuntimeRateWindowSeconds := {seconds : Nat // 1 ≤ seconds ∧ seconds ≤ 86400}

/-- The wait a denial asks for, up to a day. -/
abbrev RuntimeRateRetryAfterSeconds := {seconds : Nat // 1 ≤ seconds ∧ seconds ≤ 86400}

/-- One revision of a policy. -/
structure RuntimeRatePolicyRevision where
  locator : RuntimeRatePolicyLocator
  admissionLimit : PositiveInt
  windowSeconds : RuntimeRateWindowSeconds
  effectiveFrom : DateTime
  validUntil : DateTime
  provisioningRequestId : UUID
  provisioningReceiptId : UUID
  actorPrincipalId : UUID
  actorUserId : UUID
  actorMembershipId : UUID
  reasonReference : BoundedId
  provenanceReference : BoundedId
  requestDigest : BoundedId
  commandVersion : BoundedId
  requestedAt : DateTime
  committedAt : DateTime
  validInterval : effectiveFrom < validUntil ∧ requestedAt ≤ committedAt := by decide
  deriving DecidableEq

/-- A half-open window of time. -/
@[ext] structure RuntimeRateWindowIdentity where
  windowStart : DateTime
  windowEnd : DateTime
  ordered : windowStart < windowEnd := by decide

instance : DecidableEq RuntimeRateWindowIdentity := fun _ _ =>
  decidable_of_iff' _ RuntimeRateWindowIdentity.ext_iff

end PolicyOS.Runtime
