import PolicyOS.Domain.Identifiers
import PolicyOS.Foundation.Calendar
import PolicyOS.Runtime.Ports.DeliveryValidation

/-!
# Connector contracts

What one managed connector call is made of: the provisioned destination, the lease its
credential is used under, the request that goes over the wire and the acknowledgement
that comes back. An acknowledgement and a clock reading are also looked at for the
offset they are given in.
-/

namespace PolicyOS.Runtime.Connector

/-- An aware timestamp with the offset it is written in. -/
structure OffsetTime where
  instant : DateTime
  offset : Int
  deriving DecidableEq

/-- The version of the connector protocol. -/
def protocolVersion : String := "policyos-runtime-connector-v1"

/-- The most bytes a request body may have. -/
def requestBodyMaxBytes : Nat := 32768

/-- The most bytes a response body may have. -/
def responseBodyMaxBytes : Nat := 16384

/-- The lease a connector credential is asked for. -/
@[ext] structure RuntimeCredentialLeaseRequest where
  runtimeCredentialLeaseRequestId : UUID
  scope : RuntimePortScope
  adapterFamily : RuntimeAdapterFamily
  adapterReference : BoundedId
  adapterContractVersion : BoundedVersion
  connectorProvisioningReference : BoundedId
  destinationReference : BoundedId
  credentialReference : BoundedId
  credentialPurposeReference : BoundedId
  permitReferenceIds : List UUID
  runtimeEffectDeliveryEnvelopeId : UUID
  envelopeDigestReference : BoundedId
  runtimeEffectId : UUID
  effectIdempotencyKey : BoundedId
  requestedAt : DateTime
  expiresAt : DateTime
  orderedPermits : permitReferenceIds ≠ [] ∧ canonical permitReferenceIds := by decide
  lifetime : adapterFamily = .connector ∧ requestedAt < expiresAt := by decide

instance : DecidableEq RuntimeCredentialLeaseRequest := fun _ _ =>
  decidable_of_iff' _ RuntimeCredentialLeaseRequest.ext_iff

/-- The lease a connector credential is used under. -/
@[ext] structure RuntimeCredentialLeaseReference where
  runtimeCredentialLeaseReferenceId : UUID
  runtimeCredentialLeaseRequestId : UUID
  brokerReference : BoundedId
  runtimeExecutionRequestId : UUID
  adapterFamily : RuntimeAdapterFamily
  adapterReference : BoundedId
  adapterContractVersion : BoundedVersion
  connectorProvisioningReference : BoundedId
  destinationReference : BoundedId
  credentialReference : BoundedId
  credentialPurposeReference : BoundedId
  permitReferenceIds : List UUID
  runtimeEffectDeliveryEnvelopeId : UUID
  envelopeDigestReference : BoundedId
  runtimeEffectId : UUID
  effectIdempotencyKey : BoundedId
  tenantId : UUID
  organizationId : UUID
  actorId : UUID
  agentInstanceId : Option UUID := none
  attemptId : UUID
  classification : DataClassification
  issuedAt : DateTime
  expiresAt : DateTime
  orderedPermits : permitReferenceIds ≠ [] ∧ canonical permitReferenceIds := by decide
  lifetime : adapterFamily = .connector ∧ issuedAt < expiresAt := by decide

instance : DecidableEq RuntimeCredentialLeaseReference := fun _ _ =>
  decidable_of_iff' _ RuntimeCredentialLeaseReference.ext_iff

/-- One invocation with the lease its connector is materialized under. -/
structure RuntimeConnectorMaterializationRequest where
  runtimeConnectorMaterializationRequestId : UUID
  credentialLeaseRequest : RuntimeCredentialLeaseRequest
  credentialLeaseReference : RuntimeCredentialLeaseReference
  invocation : RuntimeEffectDeliveryInvocation
  requestedAt : DateTime
  deriving DecidableEq

/-- One provisioned destination. The two credential purposes and its being enabled are
constants of its type. -/
structure RuntimeConnectorProvisioningEntry where
  connectorProvisioningReference : BoundedId
  adapterReference : BoundedId
  adapterContractVersion : BoundedId
  destinationReference : BoundedId
  endpointUri : BoundedId
  tenantId : UUID
  organizationId : UUID
  classificationCeiling : DataClassification
  credentialReference : BoundedId
  deriving DecidableEq

/-- The purpose a delivery credential is provisioned for. -/
def RuntimeConnectorProvisioningEntry.deliveryCredentialPurposeReference
    (_ : RuntimeConnectorProvisioningEntry) : BoundedId :=
  "connector.invoke"

/-- The provisioned destinations. -/
structure RuntimeConnectorProvisioningCatalog where
  entries : List RuntimeConnectorProvisioningEntry
  deriving DecidableEq

/-- The facts of a result that are given before the call. -/
structure RuntimeConnectorDeliveryOutcomeFacts where
  runtimeEffectDeliveryResultId : UUID
  startedAt : DateTime
  completedAt : DateTime
  resultReference : BoundedId
  resultDigestReference : BoundedId
  failureCode : RuntimePortErrorCode
  failureReference : BoundedId
  resultFactDigestReference : BoundedId
  deriving DecidableEq

/-- What is asked of the connector, in the order it is projected. -/
structure RuntimeConnectorDeliveryWireRequest where
  protocolVersion : String
  operation : String
  runtimeEffectId : UUID
  runtimeExecutionRequestId : UUID
  runtimeEffectDeliveryAttemptId : UUID
  runtimeEffectDeliveryInvocationId : UUID
  runtimeEffectDeliveryEnvelopeId : UUID
  payloadReference : BoundedId
  payloadDigestReference : BoundedId
  destinationReference : BoundedId
  connectorProvisioningReference : BoundedId
  adapterReference : BoundedId
  adapterContractVersion : BoundedId
  effectIdempotencyKey : BoundedId
  tenantId : UUID
  organizationId : UUID
  classification : DataClassification
  rootLineageId : UUID
  rootLineageDigestReference : BoundedId
  permitReferenceIds : List UUID
  deriving DecidableEq

/-- What the connector acknowledges, in the order it is projected. -/
structure RuntimeConnectorDeliveryAcknowledgement where
  protocolVersion : String
  operationReference : BoundedId
  runtimeEffectId : UUID
  runtimeEffectDeliveryAttemptId : UUID
  destinationReference : BoundedId
  effectIdempotencyKey : BoundedId
  acceptedAt : OffsetTime
  acknowledgementDigestReference : BoundedId
  deriving DecidableEq

/-- The body of a connector's answer. -/
structure RuntimeConnectorDeliveryWireResponse where
  deliveryAcknowledgement : RuntimeConnectorDeliveryAcknowledgement
  deriving DecidableEq

/-- The trusted clock, when it is read before a call. -/
structure RuntimeClockReading where
  clockReference : BoundedId
  observedAt : OffsetTime
  deriving DecidableEq

/-- What the secret accessor answers. A secret that is no byte array is none. -/
structure SecretAccessorResult where
  credentialReference : String
  credentialPurposeReference : String
  connectorProvisioningReference : String
  secret : Option (List UInt8)
  deriving DecidableEq

/-- What the transport answers. -/
structure TransportResponse where
  status : Int
  body : List UInt8
  deriving DecidableEq

/-- The exceptions of a managed delivery. -/
inductive ConnectorError
  /-- A check of the connector itself. -/
  | runtime (message : String)
  /-- A check of the ports layer. -/
  | port (error : RuntimePortError)
  /-- A check of the credential facts. -/
  | credential (message : String)
  /-- A model refused one of its values. -/
  | modelValidation
  /-- Raised by a capability, the standard library or the runtime itself. -/
  | external
  deriving DecidableEq

/-- The answer of something outside the connector: any value, or any exception. -/
abbrev External (Value : Type) := Except Unit Value

end PolicyOS.Runtime.Connector

/-!
# Validation of connector facts

The exact bindings of one connector call: of the lease to its request, of the wire
request to the invocation, of the acknowledgement to the wire request, and of the
result to the attempt. Hashing, and the writing and reading of JSON by the models, are
given as functions.
-/

namespace PolicyOS.Runtime.Connector

open Foundation

/-- Raise a ports error as one of the connector. -/
def orPort {Value : Type} (result : Except RuntimePortError Value) :
    Except ConnectorError Value :=
  result.mapError .port

/-- Passing an error on changes no accepted value. -/
@[simp] theorem orPort_eq_ok_iff {Value : Type} {result : Except RuntimePortError Value}
    {value : Value} : orPort result = .ok value ↔ result = .ok value := by
  cases result <;> simp [orPort, Except.mapError]

/-! ## Materialization -/

/-- A lease must repeat its request. -/
def validateRuntimeCredentialLeaseReference (request : RuntimeCredentialLeaseRequest)
    (lease : RuntimeCredentialLeaseReference) : Except ConnectorError Unit := do
  rejectIf (lease.runtimeCredentialLeaseRequestId ≠ request.runtimeCredentialLeaseRequestId ∨
      lease.runtimeExecutionRequestId ≠ request.scope.runtimeExecutionRequestId ∨
      lease.adapterFamily ≠ request.adapterFamily ∨
      lease.adapterReference ≠ request.adapterReference ∨
      lease.adapterContractVersion ≠ request.adapterContractVersion ∨
      lease.connectorProvisioningReference ≠ request.connectorProvisioningReference ∨
      lease.destinationReference ≠ request.destinationReference ∨
      lease.credentialReference ≠ request.credentialReference ∨
      lease.credentialPurposeReference ≠ request.credentialPurposeReference ∨
      lease.permitReferenceIds ≠ request.permitReferenceIds ∨
      lease.runtimeEffectDeliveryEnvelopeId ≠ request.runtimeEffectDeliveryEnvelopeId ∨
      lease.envelopeDigestReference ≠ request.envelopeDigestReference ∨
      lease.runtimeEffectId ≠ request.runtimeEffectId ∨
      lease.effectIdempotencyKey ≠ request.effectIdempotencyKey ∨
      lease.tenantId ≠ request.scope.tenantId ∨
      lease.organizationId ≠ request.scope.organizationId ∨
      lease.actorId ≠ request.scope.actorId ∨
      lease.agentInstanceId ≠ request.scope.agentInstanceId ∨
      lease.attemptId ≠ request.scope.attemptId)
    (.credential "credential lease exact binding differs")
  rejectIf (lease.classification ≠ request.scope.classification)
    (.port ⟨.classification, "credential lease classification differs"⟩)

/-- The lease asked for is not the one the invocation needs. -/
def materializationDiffers (request : RuntimeConnectorMaterializationRequest) : Prop :=
  let leaseRequest := request.credentialLeaseRequest
  let envelope := request.invocation.envelope
  let identity := envelope.effectIdentity
  let attempt := request.invocation.attempt
  let scope := leaseRequest.scope
  leaseRequest.adapterFamily ≠ envelope.adapterFamily ∨
  leaseRequest.adapterReference ≠ envelope.adapterReference ∨
  leaseRequest.adapterContractVersion ≠ envelope.adapterContractVersion ∨
  leaseRequest.destinationReference ≠ identity.destinationReference ∨
  leaseRequest.runtimeEffectDeliveryEnvelopeId ≠ envelope.runtimeEffectDeliveryEnvelopeId ∨
  leaseRequest.envelopeDigestReference ≠ envelope.envelopeDigestReference ∨
  leaseRequest.runtimeEffectId ≠ identity.runtimeEffectId ∨
  leaseRequest.effectIdempotencyKey ≠ identity.effectIdempotencyKey ∨
  leaseRequest.permitReferenceIds ≠ attempt.permitReferenceIds ∨
  scope.runtimeExecutionRequestId ≠ identity.runtimeExecutionRequestId ∨
  scope.attemptId ≠ attempt.runtimeEffectDeliveryAttemptId ∨
  scope.actorId ≠ envelope.actorId ∨
  scope.agentInstanceId ≠ envelope.agentInstanceId ∨
  scope.tenantId ≠ identity.tenantId ∨
  scope.organizationId ≠ identity.organizationId ∨
  scope.classification ≠ identity.classification

instance (request : RuntimeConnectorMaterializationRequest) :
    Decidable (materializationDiffers request) :=
  inferInstanceAs
    (Decidable (_ ∨ _ ∨ _ ∨ _ ∨ _ ∨ _ ∨ _ ∨ _ ∨ _ ∨ _ ∨ _ ∨ _ ∨ _ ∨ _ ∨ _ ∨ _))

/-- A materialization must be of a connector lease for its invocation, inside the lease
and before the deadline. -/
def validateRuntimeConnectorMaterializationRequest
    (request : RuntimeConnectorMaterializationRequest) : Except ConnectorError Unit := do
  let lease := request.credentialLeaseReference
  validateRuntimeCredentialLeaseReference request.credentialLeaseRequest lease
  rejectIf (request.credentialLeaseRequest.adapterFamily ≠ .connector)
    (.credential "connector materialization requires connector family")
  rejectIf (materializationDiffers request)
    (.credential "connector materialization binding differs")
  rejectIf (request.requestedAt < lease.issuedAt ∨ lease.expiresAt ≤ request.requestedAt)
    (.credential "connector materialization lease is not active")
  rejectIf (request.invocation.attempt.deadline ≤ request.requestedAt)
    (.credential "connector materialization attempt is expired")

/-! ## Provisioning -/

/-- The parts of an endpoint. The alphabet of a reference leaves out what would start a
user, a query or a fragment. -/
structure SplitEndpoint where
  scheme : List Char
  netloc : List Char
  path : List Char
  deriving DecidableEq

/-- Whether a character may stand in a scheme. -/
def isSchemeChar (char : Char) : Bool :=
  char.isAlphanum || char = '+' || char = '-' || char = '.'

/-- The scheme of an endpoint, in lower case, and what follows it. -/
def splitScheme (url : List Char) : List Char × List Char :=
  let scheme := url.takeWhile (· ≠ ':')
  if scheme.length < url.length ∧ (scheme.head?.any Char.isAlpha) ∧ scheme.all isSchemeChar then
    (scheme.map Char.toLower, url.drop (scheme.length + 1))
  else ([], url)

/-- Split an endpoint. -/
def urlsplit (uri : String) : SplitEndpoint :=
  let (scheme, rest) := splitScheme uri.toList
  match rest with
  | '/' :: '/' :: located =>
      ⟨scheme, located.takeWhile (· ≠ '/'), located.dropWhile (· ≠ '/')⟩
  | path => ⟨scheme, [], path⟩

/-- The host of an endpoint. -/
def SplitEndpoint.hostname (endpoint : SplitEndpoint) : List Char :=
  (endpoint.netloc.takeWhile (· ≠ ':')).map Char.toLower

/-- The port of an endpoint, if it names one. Anything but a port number raises. -/
def SplitEndpoint.port (endpoint : SplitEndpoint) : Except ConnectorError (Option Nat) :=
  match (endpoint.netloc.dropWhile (· ≠ ':')).drop 1 with
  | [] => .ok none
  | digits => do
      rejectIf (digits.all Char.isDigit = false) .external
      let port := Nat.ofDigitChars 10 digits 0
      rejectIf (65535 < port) .external
      pure (some port)

/-- The one path a connector is reached under. -/
def connectorPath : List Char := "/v1/runtime/connector".toList

/-- A catalog must hold one entry, reached over HTTPS under the connector path. -/
def validateRuntimeConnectorProvisioningCatalog (catalog : RuntimeConnectorProvisioningCatalog) :
    Except ConnectorError RuntimeConnectorProvisioningEntry :=
  match catalog.entries with
  | [entry] => do
      let parsed := urlsplit entry.endpointUri
      let invalid : ConnectorError :=
        .port ⟨.contract, "connector provisioning entry is invalid"⟩
      rejectIf (parsed.scheme ≠ "https".toList ∨ parsed.hostname = [] ∨
          parsed.netloc ≠ parsed.netloc.map Char.toLower) invalid
      let port ← parsed.port
      rejectIf (port ∉ [none, some 443] ∨ parsed.path ≠ connectorPath) invalid
      pure entry
  | _ => .error (.port ⟨.contract, "connector provisioning catalog cardinality differs"⟩)

/-- The entry is not provisioned for this invocation and lease. -/
def provisioningDiffers (entry : RuntimeConnectorProvisioningEntry)
    (request : RuntimeConnectorMaterializationRequest) : Prop :=
  let envelope := request.invocation.envelope
  let identity := envelope.effectIdentity
  let leaseRequest := request.credentialLeaseRequest
  entry.adapterReference ≠ envelope.adapterReference ∨
  entry.adapterContractVersion ≠ envelope.adapterContractVersion ∨
  entry.destinationReference ≠ identity.destinationReference ∨
  entry.tenantId ≠ identity.tenantId ∨
  entry.organizationId ≠ identity.organizationId ∨
  entry.connectorProvisioningReference ≠ leaseRequest.connectorProvisioningReference ∨
  entry.credentialReference ≠ leaseRequest.credentialReference ∨
  entry.deliveryCredentialPurposeReference ≠ leaseRequest.credentialPurposeReference ∨
  (urlsplit entry.endpointUri).path ≠ connectorPath ∨
  entry.classificationCeiling.rank < identity.classification.rank

instance (entry : RuntimeConnectorProvisioningEntry)
    (request : RuntimeConnectorMaterializationRequest) :
    Decidable (provisioningDiffers entry request) :=
  inferInstanceAs (Decidable (_ ∨ _ ∨ _ ∨ _ ∨ _ ∨ _ ∨ _ ∨ _ ∨ _ ∨ _))

/-- The entry a request is delivered through. -/
def selectEntry (catalog : RuntimeConnectorProvisioningCatalog)
    (request : RuntimeConnectorMaterializationRequest) :
    Except ConnectorError RuntimeConnectorProvisioningEntry := do
  let entry ← validateRuntimeConnectorProvisioningCatalog catalog
  rejectIf (provisioningDiffers entry request)
    (.runtime "connector provisioning binding differs")
  pure entry

/-! ## Canonical digests -/

/-- A value that a digest is made of. -/
inductive CanonicalScalar
  | text (value : String)
  | identifier (value : UUID)
  | moment (value : OffsetTime)
  | count (value : Nat)

/-- A value of a projection: a scalar, or a tuple of scalars. -/
inductive CanonicalValue
  | one (value : CanonicalScalar)
  | many (values : List CanonicalScalar)

/-- A time as a digest writes it. It must be given in UTC. -/
def canonicalDatetime (value : OffsetTime) : Except ConnectorError String := do
  rejectIf (value.offset ≠ 0)
    (.port ⟨.contract, "connector canonical datetime must already be UTC"⟩)
  let (year, month, day) := civilDate (value.instant / 86400000000)
  let seconds := value.instant % 86400000000 / 1000000
  pure (String.ofList ((toString year).toList ++ '-' :: padded 2 month ++ '-' :: padded 2 day ++
    'T' :: padded 2 (seconds / 3600) ++ ':' :: padded 2 (seconds / 60 % 60) ++
    ':' :: padded 2 (seconds % 60) ++ '.' :: padded 6 (value.instant % 1000000) ++ ['Z']))

/-- The bytes of a scalar. -/
def canonicalScalar : CanonicalScalar → Except ConnectorError (List UInt8)
  | .text value => do
      rejectIf (value = "") (.port ⟨.contract, "connector canonical string cannot be empty"⟩)
      pure (utf8 value)
  | .identifier value => pure (utf8 (uuidText value))
  | .moment value => do
      let text ← canonicalDatetime value
      pure (utf8 text)
  | .count value => pure (utf8 (toString value))

/-- A scalar behind its own length. -/
def component (value : CanonicalScalar) : Except ConnectorError (List UInt8) := do
  let raw ← canonicalScalar value
  pure (utf8 (toString raw.length) ++ utf8 ":" ++ raw)

/-- The bytes of one value of a projection. -/
def canonicalValue : CanonicalValue → Except ConnectorError (List UInt8)
  | .one value => component value
  | .many values => do
      let size ← component (.count values.length)
      let items ← values.mapM component
      pure (size ++ items.flatten)

/-- The hashing and the models a connector relies on. -/
structure WireFormat where
  /-- The hexadecimal digest of bytes. -/
  sha256 : List UInt8 → String
  /-- The JSON text of a wire request. -/
  dump : RuntimeConnectorDeliveryWireRequest → List UInt8
  /-- The wire response a JSON text is accepted as. -/
  load : List UInt8 → Except ConnectorError RuntimeConnectorDeliveryWireResponse

/-- The digest of a projection. -/
def runtimeConnectorCanonicalDigest (format : WireFormat) (values : List CanonicalValue) :
    Except ConnectorError String := do
  let encoded ← values.mapM canonicalValue
  pure ("sha256:" ++ format.sha256 encoded.flatten)

/-- The values of a wire request, in order. -/
def deliveryRequestProjection (request : RuntimeConnectorDeliveryWireRequest) :
    List CanonicalValue :=
  [.one (.text request.protocolVersion),
    .one (.text request.operation),
    .one (.identifier request.runtimeEffectId),
    .one (.identifier request.runtimeExecutionRequestId),
    .one (.identifier request.runtimeEffectDeliveryAttemptId),
    .one (.identifier request.runtimeEffectDeliveryInvocationId),
    .one (.identifier request.runtimeEffectDeliveryEnvelopeId),
    .one (.text request.payloadReference),
    .one (.text request.payloadDigestReference),
    .one (.text request.destinationReference),
    .one (.text request.connectorProvisioningReference),
    .one (.text request.adapterReference),
    .one (.text request.adapterContractVersion),
    .one (.text request.effectIdempotencyKey),
    .one (.identifier request.tenantId),
    .one (.identifier request.organizationId),
    .one (.text request.classification.value),
    .one (.identifier request.rootLineageId),
    .one (.text request.rootLineageDigestReference),
    .many (request.permitReferenceIds.map .identifier)]

/-- The values of an acknowledgement besides its digest, in order. -/
def deliveryAcknowledgementProjection (acknowledgement : RuntimeConnectorDeliveryAcknowledgement) :
    List CanonicalValue :=
  [.one (.text acknowledgement.protocolVersion),
    .one (.text acknowledgement.operationReference),
    .one (.identifier acknowledgement.runtimeEffectId),
    .one (.identifier acknowledgement.runtimeEffectDeliveryAttemptId),
    .one (.text acknowledgement.destinationReference),
    .one (.text acknowledgement.effectIdempotencyKey),
    .one (.moment acknowledgement.acceptedAt)]

/-! ## The wire -/

/-- The wire request of an invocation. -/
def wireOf (request : RuntimeConnectorMaterializationRequest) :
    RuntimeConnectorDeliveryWireRequest :=
  let invocation := request.invocation
  let envelope := invocation.envelope
  let identity := envelope.effectIdentity
  { protocolVersion := protocolVersion
    operation := "deliver"
    runtimeEffectId := identity.runtimeEffectId
    runtimeExecutionRequestId := identity.runtimeExecutionRequestId
    runtimeEffectDeliveryAttemptId := invocation.attempt.runtimeEffectDeliveryAttemptId
    runtimeEffectDeliveryInvocationId := invocation.runtimeEffectDeliveryInvocationId
    runtimeEffectDeliveryEnvelopeId := envelope.runtimeEffectDeliveryEnvelopeId
    payloadReference := identity.payloadReference
    payloadDigestReference := identity.payloadDigestReference
    destinationReference := identity.destinationReference
    connectorProvisioningReference :=
      request.credentialLeaseRequest.connectorProvisioningReference
    adapterReference := envelope.adapterReference
    adapterContractVersion := envelope.adapterContractVersion
    effectIdempotencyKey := identity.effectIdempotencyKey
    tenantId := identity.tenantId
    organizationId := identity.organizationId
    classification := identity.classification
    rootLineageId := identity.rootLineageId
    rootLineageDigestReference := identity.rootLineageDigestReference
    permitReferenceIds := invocation.attempt.permitReferenceIds }

/-- A wire request must be the one of its invocation, and must have a digest. -/
def validateRuntimeConnectorDeliveryWireRequest (format : WireFormat)
    (source : RuntimeConnectorMaterializationRequest)
    (request : RuntimeConnectorDeliveryWireRequest) : Except ConnectorError Unit := do
  validateRuntimeConnectorMaterializationRequest source
  rejectIf ({ request with protocolVersion := protocolVersion, operation := "deliver" } ≠
      wireOf source)
    (.port ⟨.contract, "connector delivery wire request binding differs"⟩)
  let _ ← runtimeConnectorCanonicalDigest format (deliveryRequestProjection request)
  pure ()

/-- Write a wire request, within the bound of its body. -/
def encodeRuntimeConnectorWireRequest (format : WireFormat)
    (request : RuntimeConnectorDeliveryWireRequest) : Except ConnectorError (List UInt8) := do
  let body := format.dump request
  rejectIf (requestBodyMaxBytes < body.length)
    (.port ⟨.contract, "connector request body exceeds the exact byte bound"⟩)
  pure body

/-- Read a response, within the bound of its body. -/
def parseRuntimeConnectorDeliveryResponse (format : WireFormat) (body : List UInt8) :
    Except ConnectorError RuntimeConnectorDeliveryWireResponse := do
  rejectIf (body = [] ∨ responseBodyMaxBytes < body.length ∨ [0xef, 0xbb, 0xbf] <+: body)
    (.port ⟨.contract, "connector JSON body is empty, BOM-prefixed, or oversized"⟩)
  format.load body

/-- An acknowledgement is not of the effect, attempt, destination and key asked for. -/
def acknowledgementDiffers (request : RuntimeConnectorDeliveryWireRequest)
    (acknowledgement : RuntimeConnectorDeliveryAcknowledgement) : Prop :=
  acknowledgement.runtimeEffectId ≠ request.runtimeEffectId ∨
  acknowledgement.runtimeEffectDeliveryAttemptId ≠ request.runtimeEffectDeliveryAttemptId ∨
  acknowledgement.destinationReference ≠ request.destinationReference ∨
  acknowledgement.effectIdempotencyKey ≠ request.effectIdempotencyKey

instance (request : RuntimeConnectorDeliveryWireRequest)
    (acknowledgement : RuntimeConnectorDeliveryAcknowledgement) :
    Decidable (acknowledgementDiffers request acknowledgement) :=
  inferInstanceAs (Decidable (_ ∨ _ ∨ _ ∨ _))

/-- An acknowledgement must come with HTTP 200, be of what was asked for, inside the
trusted window and under its own digest. -/
def validateRuntimeConnectorDeliveryAcknowledgement (format : WireFormat)
    (request : RuntimeConnectorDeliveryWireRequest)
    (response : RuntimeConnectorDeliveryWireResponse) (httpStatus : Int)
    (trustedStartedAt trustedCompletedAt : DateTime) :
    Except ConnectorError RuntimeConnectorDeliveryAcknowledgement := do
  let acknowledgement := response.deliveryAcknowledgement
  rejectIf (httpStatus ≠ 200)
    (.port ⟨.contract, "connector acknowledgement requires exact HTTP 200"⟩)
  rejectIf (acknowledgementDiffers request acknowledgement)
    (.port ⟨.contract, "connector acknowledgement identity differs"⟩)
  rejectIf (¬ (trustedStartedAt ≤ acknowledgement.acceptedAt.instant ∧
      acknowledgement.acceptedAt.instant ≤ trustedCompletedAt))
    (.port ⟨.contract, "connector acknowledgement time is outside trusted window"⟩)
  let digest ← runtimeConnectorCanonicalDigest format
    (deliveryAcknowledgementProjection acknowledgement)
  rejectIf (acknowledgement.acknowledgementDigestReference ≠ digest)
    (.port ⟨.contract, "connector acknowledgement digest differs"⟩)
  pure acknowledgement

/-- A connector's result must be of its attempt, and acknowledged exactly if it says so. -/
def validateRuntimeConnectorDeliveryResult (request : RuntimeConnectorMaterializationRequest)
    (result : RuntimeEffectDeliveryResult) : Except ConnectorError Unit := do
  validateRuntimeConnectorMaterializationRequest request
  orPort (validateRuntimeEffectDeliveryResult request.invocation.envelope
    request.invocation.attempt result)
  rejectIf (result.certainty = .delivered ∧
      (result.acknowledgementReference = none ∨ result.acknowledgementDigestReference = none))
    (.port ⟨.contract, "delivered connector result lacks acknowledgement"⟩)
  rejectIf (result.certainty = .definitelyNotDelivered ∧ result.acknowledgementReference ≠ none)
    (.port ⟨.contract, "definite non-delivery contains acknowledgement"⟩)

end PolicyOS.Runtime.Connector
