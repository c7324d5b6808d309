import PolicyOS.Foundation.Transition
import PolicyOS.Runtime.Connector.Validation

/-!
# Managed delivery

One managed delivery over its life. A call of `deliver` waits three times: for the
secret, for the clock, and for the answer of the transport. Between these anything else
may happen to the delivery, another call of `deliver` included; whatever is waited for
may answer anything or raise.
-/

namespace PolicyOS.Runtime.Connector

open Foundation

/-- What a delivery factory hands to its deliveries. -/
structure DeliveryFactory where
  catalog : RuntimeConnectorProvisioningCatalog
  expectedClockReference : BoundedId
  format : WireFormat

/-- One call of the transport. -/
structure PostCall where
  endpointUri : BoundedId
  authorization : List UInt8
  body : List UInt8
  remaining : Int
  deriving DecidableEq

/-- How far one call of `deliver` has come. -/
inductive DeliverPhase
  | materializing (entry : RuntimeConnectorProvisioningEntry)
  | readingClock (entry : RuntimeConnectorProvisioningEntry)
  | posting (wire : RuntimeConnectorDeliveryWireRequest)
  | ended (outcome : Except ConnectorError RuntimeEffectDeliveryResult)
  deriving DecidableEq

/-- One call of `deliver`, with the facts it obtained and what passed between it and the
transport. -/
structure DeliverCall where
  facts : Option RuntimeConnectorDeliveryOutcomeFacts := none
  posted : List PostCall := []
  answer : Option (External TransportResponse) := none
  phase : DeliverPhase
  deriving DecidableEq

/-- One managed delivery and every call of its `deliver` made so far. -/
structure ManagedDelivery where
  entered : Bool := false
  exited : Bool := false
  used : Bool := false
  secret : Option (List UInt8) := none
  transport : Bool := false
  calls : List DeliverCall := []
  deriving DecidableEq

/-- Every call of the transport so far. -/
def ManagedDelivery.posts (state : ManagedDelivery) : List PostCall :=
  state.calls.flatMap (·.posted)

/-- What the end of a context does to an exception raised in it, or raises itself. -/
inductive ContextExit
  | leaves | suppresses | raises
  deriving DecidableEq

/-- What is looked at of a TLS context. -/
structure TlsContext where
  isContext : Bool
  checkHostname : Bool
  certificateRequired : Bool
  atLeastTls12 : Bool
  deriving DecidableEq

/-- What can happen to a managed delivery. A call is named by its position. -/
inductive DeliveryEvent
  | enter
  | deliver (invocation : RuntimeEffectDeliveryInvocation)
      (facts : External RuntimeConnectorDeliveryOutcomeFacts)
  | materialized (call : Nat) (answer : External SecretAccessorResult)
  | clockRead (call : Nat) (reading : External RuntimeClockReading) (exit : ContextExit)
      (tls : External TlsContext)
  | answered (call : Nat) (answer : External TransportResponse)
  | exit

/-! ## The parts of a call -/

/-- The evidence of an outcome. Nothing but a delivery carries result evidence, and only
a delivery has no failure. -/
structure OutcomeEvidence where
  result : Option BoundedId
  resultDigest : Option BoundedId
  acknowledgement : Option BoundedId
  acknowledgementDigest : Option BoundedId
  failureCode : Option RuntimePortErrorCode
  failure : Option BoundedId

/-- The evidence that facts and an acknowledgement give of an outcome. -/
def outcomeEvidence (facts : RuntimeConnectorDeliveryOutcomeFacts)
    (certainty : RuntimeEffectDeliveryCertainty)
    (acknowledgement : Option RuntimeConnectorDeliveryAcknowledgement) : OutcomeEvidence where
  result := if certainty = .delivered then some facts.resultReference else none
  resultDigest := if certainty = .delivered then some facts.resultDigestReference else none
  acknowledgement := acknowledgement.map (·.operationReference)
  acknowledgementDigest := acknowledgement.map (·.acknowledgementDigestReference)
  failureCode := if certainty = .delivered then none else some facts.failureCode
  failure := if certainty = .delivered then none else some facts.failureReference

/-- What the model of a result asks of it: its times in order, its evidence that of its
certainty. -/
def resultAllowed (facts : RuntimeConnectorDeliveryOutcomeFacts)
    (certainty : RuntimeEffectDeliveryCertainty) (evidence : OutcomeEvidence) : Prop :=
  facts.startedAt ≤ facts.completedAt ∧
    boundedDeliveryOutcome certainty evidence.result evidence.resultDigest
      evidence.acknowledgement evidence.acknowledgementDigest evidence.failureCode
      evidence.failure

instance (facts : RuntimeConnectorDeliveryOutcomeFacts)
    (certainty : RuntimeEffectDeliveryCertainty) (evidence : OutcomeEvidence) :
    Decidable (resultAllowed facts certainty evidence) :=
  inferInstanceAs (Decidable (_ ∧ _))

/-- The result of an attempt, of facts that its model allows. -/
def resultMade (request : RuntimeConnectorMaterializationRequest)
    (facts : RuntimeConnectorDeliveryOutcomeFacts) (certainty : RuntimeEffectDeliveryCertainty)
    (evidence : OutcomeEvidence) (allowed : resultAllowed facts certainty evidence) :
    RuntimeEffectDeliveryResult where
  runtimeEffectDeliveryResultId := facts.runtimeEffectDeliveryResultId
  runtimeEffectId := request.invocation.envelope.effectIdentity.runtimeEffectId
  runtimeEffectDeliveryAttemptId := request.invocation.attempt.runtimeEffectDeliveryAttemptId
  certainty := certainty
  adapterReference := request.invocation.envelope.adapterReference
  adapterContractVersion := request.invocation.envelope.adapterContractVersion
  resultReference := evidence.result
  resultDigestReference := evidence.resultDigest
  acknowledgementReference := evidence.acknowledgement
  acknowledgementDigestReference := evidence.acknowledgementDigest
  failureCode := evidence.failureCode
  failureReference := evidence.failure
  startedAt := facts.startedAt
  completedAt := facts.completedAt
  resultFactDigestReference := facts.resultFactDigestReference
  completionOrder := allowed.1
  boundedOutcome := allowed.2

/-- Make the result of an attempt. It must be of the attempt. -/
def deliveryResult (request : RuntimeConnectorMaterializationRequest)
    (facts : RuntimeConnectorDeliveryOutcomeFacts) (certainty : RuntimeEffectDeliveryCertainty)
    (acknowledgement : Option RuntimeConnectorDeliveryAcknowledgement) :
    Except ConnectorError RuntimeEffectDeliveryResult :=
  let evidence := outcomeEvidence facts certainty acknowledgement
  if allowed : resultAllowed facts certainty evidence then do
    let made := resultMade request facts certainty evidence allowed
    validateRuntimeConnectorDeliveryResult request made
    pure made
  else .error .modelValidation

/-- The secret that is kept of what the accessor answered. -/
def keptSecret (entry : RuntimeConnectorProvisioningEntry) :
    External SecretAccessorResult → Except ConnectorError (List UInt8)
  | .error _ => .error .external
  | .ok result => do
      let differs : ConnectorError := .runtime "connector secret accessor evidence differs"
      rejectIf (result.credentialReference ≠ entry.credentialReference ∨
          result.credentialPurposeReference ≠ entry.deliveryCredentialPurposeReference ∨
          result.connectorProvisioningReference ≠ entry.connectorProvisioningReference) differs
      match result.secret with
      | none | some [] => .error differs
      | some secret => pure secret

/-- The time left until the deadline. Where the end of the clock's context suppresses the
exception that none is left, the time counted is used all the same. -/
def remainingUntil (factory : DeliveryFactory) (deadline : DateTime) (exit : ContextExit) :
    External RuntimeClockReading → Except ConnectorError Int
  | .error _ => .error .external
  | .ok reading => do
      rejectIf (reading.clockReference ≠ factory.expectedClockReference ∨
          reading.observedAt.offset ≠ 0)
        (.runtime "connector trusted clock differs")
      let remaining := deadline - reading.observedAt.instant
      rejectIf (remaining ≤ 0 ∧ exit ≠ .suppresses) (.runtime "connector deadline exhausted")
      rejectIf (exit = .raises) .external
      pure remaining

/-- A TLS context must check hosts and certificates. -/
def validatedTlsContext : External TlsContext → Except ConnectorError Unit
  | .error _ => .error .external
  | .ok context =>
      rejectIf (context.isContext = false ∨ context.checkHostname = false ∨
          context.certificateRequired = false ∨ context.atLeastTls12 = false)
        (.runtime "connector TLS trust context differs")

/-- The wire request, whose references have no room for the `+` of a version. -/
def deliveryWire (format : WireFormat) (request : RuntimeConnectorMaterializationRequest) :
    Except ConnectorError RuntimeConnectorDeliveryWireRequest := do
  rejectIf ('+' ∈ request.invocation.envelope.adapterContractVersion.toList) .modelValidation
  validateRuntimeConnectorDeliveryWireRequest format request (wireOf request)
  pure (wireOf request)

/-- The call of the transport that a secret and the time left make. -/
def preparedPost (factory : DeliveryFactory) (request : RuntimeConnectorMaterializationRequest)
    (entry : RuntimeConnectorProvisioningEntry) (secret : Option (List UInt8)) (remaining : Int) :
    Except ConnectorError (RuntimeConnectorDeliveryWireRequest × PostCall) := do
  let wire ← deliveryWire factory.format request
  let body ← encodeRuntimeConnectorWireRequest factory.format wire
  match secret with
  | none => .error .external
  | some secret =>
      pure (wire, ⟨entry.endpointUri, utf8 "Bearer " ++ secret, body, remaining⟩)

/-- The acknowledgement in what the transport answered. -/
def acknowledged (format : WireFormat) (wire : RuntimeConnectorDeliveryWireRequest)
    (facts : RuntimeConnectorDeliveryOutcomeFacts) :
    External TransportResponse → Except ConnectorError RuntimeConnectorDeliveryAcknowledgement
  | .error _ => .error .external
  | .ok response => do
      let parsed ← parseRuntimeConnectorDeliveryResponse format response.body
      validateRuntimeConnectorDeliveryAcknowledgement format wire parsed response.status
        facts.startedAt facts.completedAt

/-- The end of a call whose transport was not called. -/
def notDelivered (request : RuntimeConnectorMaterializationRequest)
    (facts : RuntimeConnectorDeliveryOutcomeFacts) :
    Except ConnectorError RuntimeEffectDeliveryResult :=
  deliveryResult request facts .definitelyNotDelivered none

/-- The end of a call whose transport has answered. -/
def reported (format : WireFormat) (request : RuntimeConnectorMaterializationRequest)
    (wire : RuntimeConnectorDeliveryWireRequest) (facts : RuntimeConnectorDeliveryOutcomeFacts)
    (answer : External TransportResponse) : Except ConnectorError RuntimeEffectDeliveryResult :=
  match acknowledged format wire facts answer with
  | .error _ => deliveryResult request facts .ambiguous none
  | .ok acknowledgement => deliveryResult request facts .delivered (some acknowledgement)

/-! ## Steps -/

namespace ManagedDelivery

/-- Record how far a call has come. -/
def setCall (state : ManagedDelivery) (position : Nat) (call : DeliverCall) : ManagedDelivery :=
  { state with calls := state.calls.set position call }

/-- What `deliver` does before it first waits. -/
def begun (factory : DeliveryFactory) (request : RuntimeConnectorMaterializationRequest)
    (facts : External RuntimeConnectorDeliveryOutcomeFacts) : DeliverCall :=
  match facts with
  | .error _ => { phase := .ended (.error .external) }
  | .ok facts =>
      match selectEntry factory.catalog request with
      | .error error => { facts := some facts, phase := .ended (.error error) }
      | .ok entry => { facts := some facts, phase := .materializing entry }

/-- A call of `deliver` is made. -/
def deliver (factory : DeliveryFactory) (request : RuntimeConnectorMaterializationRequest)
    (state : ManagedDelivery) (invocation : RuntimeEffectDeliveryInvocation)
    (facts : External RuntimeConnectorDeliveryOutcomeFacts) : ManagedDelivery :=
  if state.entered = false ∨ state.exited = true ∨ state.used = true ∨
      invocation ≠ request.invocation then
    let refused : ConnectorError :=
      .runtime "connector delivery invocation lifecycle differs"
    { state with calls := state.calls ++ [{ phase := .ended (.error refused) }] }
  else { state with used := true, calls := state.calls ++ [begun factory request facts] }

/-- The clock is read, and the transport is called if everything for it is there. -/
def post (factory : DeliveryFactory) (request : RuntimeConnectorMaterializationRequest)
    (state : ManagedDelivery) (position : Nat) (call : DeliverCall)
    (facts : RuntimeConnectorDeliveryOutcomeFacts) (entry : RuntimeConnectorProvisioningEntry)
    (reading : External RuntimeClockReading) (exit : ContextExit) (tls : External TlsContext) :
    ManagedDelivery :=
  let ended := { call with phase := .ended (notDelivered request facts) }
  match remainingUntil factory request.invocation.attempt.deadline exit reading,
    validatedTlsContext tls with
  | .ok remaining, .ok () =>
      match preparedPost factory request entry state.secret remaining with
      | .error _ => { state with transport := true }.setCall position ended
      | .ok (wire, made) =>
          { state with transport := true }.setCall position
            { call with posted := call.posted ++ [made], phase := .posting wire }
  | _, _ => state.setCall position ended

/-- One event. What a call does not wait for does not happen. -/
def next (factory : DeliveryFactory) (request : RuntimeConnectorMaterializationRequest)
    (state : ManagedDelivery) : DeliveryEvent → Option ManagedDelivery
  | .enter =>
      if state.entered = true ∨ state.exited = true then some state
      else some { state with entered := true }
  | .deliver invocation facts => some (state.deliver factory request invocation facts)
  | .materialized position answer =>
      match state.calls[position]? with
      | some ⟨some facts, posted, answered, .materializing entry⟩ =>
          match keptSecret entry answer with
          | .error _ => some (state.setCall position
              ⟨some facts, posted, answered, .ended (notDelivered request facts)⟩)
          | .ok secret => some ({ state with secret := some secret }.setCall position
              ⟨some facts, posted, answered, .readingClock entry⟩)
      | _ => none
  | .clockRead position reading exit tls =>
      match state.calls[position]? with
      | some ⟨some facts, posted, answered, .readingClock entry⟩ =>
          some (state.post factory request position
            ⟨some facts, posted, answered, .readingClock entry⟩ facts entry reading exit tls)
      | _ => none
  | .answered position answer =>
      match state.calls[position]? with
      | some ⟨some facts, posted, _, .posting wire⟩ =>
          some (state.setCall position ⟨some facts, posted, some answer,
            .ended (reported factory.format request wire facts answer)⟩)
      | _ => none
  | .exit =>
      if state.entered = false ∨ state.exited = true then some state
      else some { state with exited := true, secret := state.secret.map fun _ => [] }

end ManagedDelivery

/-- The life of a delivery that was entered and not used yet. Its request was accepted
when it was made. -/
def managedDelivery (factory : DeliveryFactory) (request : RuntimeConnectorMaterializationRequest) :
    TransitionSystem ManagedDelivery DeliveryEvent where
  Initial state := validateRuntimeConnectorMaterializationRequest request = .ok () ∧
    state = { entered := true }
  Step state event following := state.next factory request event = some following

end PolicyOS.Runtime.Connector
