import PolicyOS.Runtime.Orchestration.DeliveryValidation

/-!
# Worker contracts

The facts one worker process runs on: its configuration, the requests of a poll
cycle and of one assignment in it, the package prepared for one due candidate,
and the answers it asks for between the two appends and the adapter. A result
completion is an injected object, so only its identity is kept. Of a connector
materialization the credential facts are left out.
-/

namespace PolicyOS.Runtime

/-- A reference string of the worker's alphabet. -/
abbrev BoundedWorkerReference := String

/-- A version string of the worker's alphabet. -/
abbrev BoundedWorkerVersion := String

/-- A count between two bounds. -/
abbrev CountWithin (least most : Nat) := {count : Nat // least ≤ count ∧ count ≤ most}

/-- One scope a worker polls. -/
structure RuntimeWorkerAssignment where
  tenantId : UUID
  organizationId : UUID
  classification : DataClassification
  deriving DecidableEq

/-- The configuration one worker runs on. -/
structure RuntimeWorkerConfiguration where
  workerInstanceReference : BoundedWorkerReference
  claimantReference : BoundedWorkerReference
  assignments : List RuntimeWorkerAssignment
  clockReference : BoundedWorkerReference
  maximumCandidateCount : CountWithin 1 100
  maximumConcurrency : CountWithin 1 32
  pollIntervalMilliseconds : CountWithin 100 60000
  shutdownDrainTimeoutSeconds : CountWithin 1 300
  configurationVersion : BoundedWorkerVersion
  configurationDigestReference : BoundedWorkerReference
  boundedAssignments : 1 ≤ assignments.length ∧ assignments.length ≤ 64 := by decide
  deriving DecidableEq

/-- The facts by which a request names the configuration it is made for. -/
structure RuntimeWorkerConfigurationBinding where
  workerInstanceReference : BoundedWorkerReference
  configurationVersion : BoundedWorkerVersion
  configurationDigestReference : BoundedWorkerReference
  clockReference : BoundedWorkerReference
  deriving DecidableEq

/-- The request one assignment of a cycle is polled with. -/
structure RuntimeWorkerPollIterationRequest where
  configuration : RuntimeWorkerConfiguration
  configurationBinding : RuntimeWorkerConfigurationBinding
  cycleStartedAt : DateTime
  assignmentPosition : CountWithin 1 64
  assignment : RuntimeWorkerAssignment
  dueSelectionRequest : RuntimeEffectDueSelectionRequest
  deriving DecidableEq

/-- One selected candidate of one iteration. -/
structure RuntimeWorkerPreparedDeliveryRequest where
  iterationRequest : RuntimeWorkerPollIterationRequest
  candidate : RuntimeEffectDueCandidate
  preparationReference : BoundedWorkerReference
  preparationDigestReference : BoundedWorkerReference
  deriving DecidableEq

/-- The identity of an injected result completion. -/
abbrev RuntimeWorkerResultCompletionCapability := Nat

/-- Everything prepared for one selected candidate before its adapter is called. -/
structure RuntimeWorkerPreparedDelivery where
  request : RuntimeWorkerPreparedDeliveryRequest
  claimRequest : RuntimeEffectClaimRequest
  deliveryRequest : RuntimeOrchestrationDeliveryRequest
  deliveringAppendRequest : RuntimeEffectLifecycleAppendRequest
  invocation : RuntimeEffectDeliveryInvocation
  definitelyNotInvokedAppendRequest : Option RuntimeEffectLifecycleAppendRequest
  resultCompletion : RuntimeWorkerResultCompletionCapability
  deriving DecidableEq

/-- The exceptions that end a capability call or a check of a worker. -/
inductive RuntimeWorkerError
  /-- The bounded failure every capability may signal. -/
  | operationalCapabilityFailure
  | contractConflict (message : String)
  /-- Raised by a validator of the ports layer, or passed on by the store. -/
  | port (error : RuntimePortError)
  /-- A model refused one of its values. -/
  | modelValidation
  | cancelled
  /-- Raised by an injected capability itself. -/
  | external
  deriving DecidableEq

end PolicyOS.Runtime

/-!
# Worker contract validation

The checks between the answers a worker receives and what it does with them. The
worker trusts no capability: every prepared request, prepared delivery, answer and
completion is bound to what it was asked for.
-/

namespace PolicyOS.Runtime

open Foundation

/-- Raise one contract conflict in place of any value error. -/
def orConflict {Error Value : Type} (result : Except Error Value) (message : String) :
    Except RuntimeWorkerError Value :=
  result.mapError fun _ => .contractConflict message

/-- Replacing its error changes no accepted value. -/
@[simp] theorem orConflict_eq_ok_iff {Error Value : Type} {result : Except Error Value}
    {message : String} {value : Value} :
    orConflict result message = .ok value ↔ result = .ok value := by
  cases result <;> simp [orConflict, Except.mapError]

/-! ## Configuration and polling -/

/-- The texts assignments are sorted by. -/
def assignmentKey (assignment : RuntimeWorkerAssignment) : UUID × UUID × String :=
  ⟨assignment.tenantId, assignment.organizationId, assignment.classification.value⟩

/-- One assignment key may stand before another. -/
def keyOrdered (left right : UUID × UUID × String) : Prop :=
  left.1 < right.1 ∨ left.1 = right.1 ∧
    (left.2.1 < right.2.1 ∨ left.2.1 = right.2.1 ∧ left.2.2 ≤ right.2.2)

instance (left right : UUID × UUID × String) : Decidable (keyOrdered left right) :=
  inferInstanceAs (Decidable (_ ∨ _ ∧ (_ ∨ _ ∧ _)))

/-- Assignments must be listed once each, in order. -/
def validateRuntimeWorkerConfiguration (configuration : RuntimeWorkerConfiguration) :
    Except RuntimeWorkerError Unit :=
  let keys := configuration.assignments.map assignmentKey
  rejectIf (¬ keys.Nodup ∨ ¬ keys.Pairwise keyOrdered)
    (.contractConflict "worker assignments are not canonical and unique")

/-- A binding must name the configuration. -/
def validateRuntimeWorkerConfigurationBinding (configuration : RuntimeWorkerConfiguration)
    (binding : RuntimeWorkerConfigurationBinding) : Except RuntimeWorkerError Unit := do
  validateRuntimeWorkerConfiguration configuration
  rejectIf (binding.workerInstanceReference ≠ configuration.workerInstanceReference ∨
      binding.configurationVersion ≠ configuration.configurationVersion ∨
      binding.configurationDigestReference ≠ configuration.configurationDigestReference ∨
      binding.clockReference ≠ configuration.clockReference)
    (.contractConflict "worker configuration binding differs")

/-- The due selection is not of this assignment and configuration. -/
def dueSelectionDiffers (request : RuntimeWorkerPollIterationRequest) : Prop :=
  let due := request.dueSelectionRequest
  due.tenantId ≠ request.assignment.tenantId ∨
  due.organizationId ≠ request.assignment.organizationId ∨
  due.classification ≠ request.assignment.classification ∨
  due.clockReference ≠ request.configuration.clockReference ∨
  due.maximumCandidateCount.val ≠ request.configuration.maximumCandidateCount.val

instance (request : RuntimeWorkerPollIterationRequest) : Decidable (dueSelectionDiffers request) :=
  inferInstanceAs (Decidable (_ ∨ _ ∨ _ ∨ _ ∨ _))

/-- An iteration must be of the assignment at its position, with a selection for it. -/
def validateRuntimeWorkerPollIterationRequest (request : RuntimeWorkerPollIterationRequest) :
    Except RuntimeWorkerError Unit := do
  validateRuntimeWorkerConfigurationBinding request.configuration request.configurationBinding
  match request.configuration.assignments[request.assignmentPosition.val - 1]? with
  | none => .error (.contractConflict "worker assignment position is absent")
  | some expected => do
      rejectIf (request.assignment ≠ expected)
        (.contractConflict "worker assignment differs from tuple position")
      rejectIf (dueSelectionDiffers request)
        (.contractConflict "worker due selection binding differs")
      rejectIf (request.dueSelectionRequest.observedAt < request.cycleStartedAt)
        (.contractConflict "worker due observation predates cycle")

/-! ## Prepared deliveries -/

/-- A prepared request must be of a candidate its iteration may select. -/
def validateRuntimeWorkerPreparedDeliveryRequest (request : RuntimeWorkerPreparedDeliveryRequest) :
    Except RuntimeWorkerError Unit := do
  validateRuntimeWorkerPollIterationRequest request.iterationRequest
  let _ ← orConflict
    (validateRuntimeEffectDueCandidates request.iterationRequest.dueSelectionRequest
      [request.candidate])
    "prepared delivery candidate differs"
  pure ()

/-- The facts of a prepared delivery are not of one claim and attempt of its candidate. -/
def preparedDeliveryDiffers (request : RuntimeWorkerPreparedDeliveryRequest)
    (prepared : RuntimeWorkerPreparedDelivery) : Prop :=
  let claim := prepared.claimRequest.claim
  let delivery := prepared.deliveryRequest
  let delivering := prepared.deliveringAppendRequest.append
  let invocation := prepared.invocation
  claim.claimantReference ≠ request.iterationRequest.configuration.claimantReference ∨
  delivery.envelope ≠ request.candidate.deliveryEnvelope ∨
  delivery.claim ≠ claim ∨
  delivering.effectIdentity ≠ request.candidate.effectIdentity ∨
  delivering.previousLifecycleRecord ≠ prepared.claimRequest.claimedLifecycleRecord ∨
  delivering.claim ≠ some claim ∨
  delivering.attempt ≠ some delivery.attempt ∨
  delivering.lifecycleRecord.status ≠ .delivering ∨
  invocation.envelope ≠ delivery.envelope ∨
  invocation.claim ≠ delivery.claim ∨
  invocation.attempt ≠ delivery.attempt

instance (request : RuntimeWorkerPreparedDeliveryRequest)
    (prepared : RuntimeWorkerPreparedDelivery) :
    Decidable (preparedDeliveryDiffers request prepared) :=
  inferInstanceAs (Decidable (_ ∨ _ ∨ _ ∨ _ ∨ _ ∨ _ ∨ _ ∨ _ ∨ _ ∨ _ ∨ _))

/-- The not-invoked append is not of the prepared claim and attempt. -/
def preparedNotInvokedDiffers (request : RuntimeWorkerPreparedDeliveryRequest)
    (prepared : RuntimeWorkerPreparedDelivery) (append : RuntimeEffectLifecycleAppend) : Prop :=
  let delivery := prepared.deliveryRequest
  append.definitelyNotInvoked = none ∨
  append.effectIdentity ≠ request.candidate.effectIdentity ∨
  append.previousLifecycleRecord ≠ prepared.deliveringAppendRequest.append.lifecycleRecord ∨
  append.claim ≠ some delivery.claim ∨
  append.attempt ≠ some delivery.attempt ∨
  append.definitelyNotInvoked.map (·.runtimeEffectId) ≠
    some request.candidate.effectIdentity.runtimeEffectId ∨
  append.definitelyNotInvoked.map (·.runtimeEffectClaimId) ≠
    some delivery.claim.runtimeEffectClaimId ∨
  append.definitelyNotInvoked.map (·.runtimeEffectDeliveryAttemptId) ≠
    some delivery.attempt.runtimeEffectDeliveryAttemptId

instance (request : RuntimeWorkerPreparedDeliveryRequest)
    (prepared : RuntimeWorkerPreparedDelivery) (append : RuntimeEffectLifecycleAppend) :
    Decidable (preparedNotInvokedDiffers request prepared append) :=
  inferInstanceAs (Decidable (_ ∨ _ ∨ _ ∨ _ ∨ _ ∨ _ ∨ _ ∨ _))

/-- The prepared not-invoked append, if there is one, must be of the prepared delivery. -/
def validatePreparedNotInvoked (request : RuntimeWorkerPreparedDeliveryRequest)
    (prepared : RuntimeWorkerPreparedDelivery) : Except RuntimeWorkerError Unit :=
  match prepared.definitelyNotInvokedAppendRequest with
  | none => .ok ()
  | some optional => do
      orConflict (validateRuntimeEffectLifecycleAppendRequest optional)
        "prepared not-invoked append is invalid"
      rejectIf (preparedNotInvokedDiffers request prepared optional.append)
        (.contractConflict "prepared not-invoked binding differs")

/-- A prepared delivery must be of its request: one claim, one attempt and one
invocation of the selected candidate. -/
def validateRuntimeWorkerPreparedDelivery (request : RuntimeWorkerPreparedDeliveryRequest)
    (prepared : RuntimeWorkerPreparedDelivery) : Except RuntimeWorkerError Unit := do
  validateRuntimeWorkerPreparedDeliveryRequest request
  rejectIf (prepared.request ≠ request) (.contractConflict "prepared delivery request differs")
  orConflict (validateRuntimeOrchestrationCandidateClaim request.candidate prepared.claimRequest)
    "prepared delivery fact is invalid"
  orConflict (validateRuntimeOrchestrationDeliveryRequest prepared.deliveryRequest)
    "prepared delivery fact is invalid"
  orConflict (validateRuntimeEffectLifecycleAppendRequest prepared.deliveringAppendRequest)
    "prepared delivery fact is invalid"
  rejectIf (preparedDeliveryDiffers request prepared)
    (.contractConflict "prepared delivery binding differs")
  validatePreparedNotInvoked request prepared

/-- The completing append is not of the invoked attempt and its result. -/
def resultCompletionDiffers (prepared : RuntimeWorkerPreparedDelivery)
    (result : RuntimeEffectDeliveryResult) (append : RuntimeEffectLifecycleAppend) : Prop :=
  let identity := prepared.request.candidate.effectIdentity
  let attempt := prepared.invocation.attempt
  result.runtimeEffectId ≠ identity.runtimeEffectId ∨
  result.runtimeEffectDeliveryAttemptId ≠ attempt.runtimeEffectDeliveryAttemptId ∨
  append.effectIdentity ≠ identity ∨
  append.previousLifecycleRecord ≠ prepared.deliveringAppendRequest.append.lifecycleRecord ∨
  append.claim ≠ none ∨
  append.attempt ≠ some attempt ∨
  append.result ≠ some result ∨
  append.definitelyNotInvoked ≠ none ∨
  append.retryDecision ≠ none ∨
  append.deadLetter ≠ none ∨
  append.reconciliationObservation ≠ none

instance (prepared : RuntimeWorkerPreparedDelivery) (result : RuntimeEffectDeliveryResult)
    (append : RuntimeEffectLifecycleAppend) :
    Decidable (resultCompletionDiffers prepared result append) :=
  inferInstanceAs (Decidable (_ ∨ _ ∨ _ ∨ _ ∨ _ ∨ _ ∨ _ ∨ _ ∨ _ ∨ _ ∨ _))

/-- A completing append must be of the invoked attempt and its result. -/
def validateRuntimeWorkerResultCompletion (prepared : RuntimeWorkerPreparedDelivery)
    (result : RuntimeEffectDeliveryResult) (appendRequest : RuntimeEffectLifecycleAppendRequest) :
    Except RuntimeWorkerError Unit := do
  validateRuntimeWorkerPreparedDelivery prepared.request prepared
  orConflict
    (validateRuntimeEffectDeliveryResult prepared.invocation.envelope prepared.invocation.attempt
      result)
    "delivery result completion is invalid"
  orConflict (validateRuntimeEffectLifecycleAppendRequest appendRequest)
    "delivery result completion is invalid"
  rejectIf (resultCompletionDiffers prepared result appendRequest.append)
    (.contractConflict "delivery result completion binding differs")

end PolicyOS.Runtime
