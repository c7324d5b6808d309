import Mathlib.Data.Rat.Defs
import Mathlib.Algebra.Order.Ring.Rat
import PolicyOS.Foundation.Checked
import PolicyOS.Foundation.Retries

/-!
# The HTTP client of connectors

A request is checked, sent, and sent again for as long as its answer is a timeout, a failure of
the transport or a status that may pass. The client is to end with an admitted response or with
an error of the connectors' own.
-/

namespace PolicyOS.Connectors

open Foundation

/-! ## Errors -/

/-- The class of a connector error. -/
inductive ConnectorErrorClass
  | connectorError
  | connectorUnavailableError
  deriving DecidableEq

/-- A connector error. -/
structure ConnectorError where
  errorClass : ConnectorErrorClass := .connectorError
  message : String
  code : String := "connector_error"
  retryable : Bool := false
  deriving DecidableEq

/-- The class of a configuration error. -/
inductive ConfigurationErrorClass
  | connectorConfigurationError
  | connectorAuthenticationError
  deriving DecidableEq

/-- What is raised while a request is made. -/
inductive Raised
  | connector (error : ConnectorError)
  | configuration (errorClass : ConfigurationErrorClass) (message : String)
  | timeoutError
  | timeoutException
  | httpError
  | typeError (message : String)
  | overflowError (message : String)
  deriving DecidableEq

/-- A connector error, a configuration error, or one of a subclass. -/
inductive Raised.Own : Raised → Prop
  | connector (error : ConnectorError) : Own (.connector error)
  | configuration (errorClass : ConfigurationErrorClass) (message : String) :
      Own (.configuration errorClass message)

/-- `ConnectorAuthenticationError` has the constructor of `ValueError`, which takes no keyword
arguments. -/
def authenticationError (message : String) (keywords : List (String × String)) : Raised :=
  if keywords = [] then .configuration .connectorAuthenticationError message
  else .typeError "ConnectorAuthenticationError() takes no keyword arguments"

/-! ## Waiting -/

/-- How often and after how long a request is repeated. -/
structure RetryPolicy where
  maxRetries : Int := 2
  baseDelaySeconds : ℚ := 1 / 4
  maxDelaySeconds : ℚ := 2
  jitterFactor : ℚ := 1 / 10

/-- A power of two as a floating-point number: from 2 ^ 1024 on there is none. -/
def floatPower (exponent : Nat) : Except Raised ℚ := do
  rejectIf (1024 ≤ exponent) (.overflowError "int too large to convert to float")
  pure (2 ^ exponent)

/-- The delay before an attempt, with a draw between zero and one for the jitter. -/
def RetryPolicy.delayFor (policy : RetryPolicy) (draw : ℚ) (attempt : Nat) : Except Raised ℚ :=
  if attempt = 0 then pure 0
  else do
    let power ← floatPower (attempt - 1)
    let base := min (policy.baseDelaySeconds * power) policy.maxDelaySeconds
    pure (base + draw * (policy.jitterFactor * base))

/-! ## Headers and contents -/

/-- Headers, by name. -/
abbrev Headers := List (String × String)

/-- A header that is not given gets a value. -/
def setDefault (headers : Headers) (name value : String) : Headers :=
  if name ∈ headers.map Prod.fst then headers else headers ++ [(name, value)]

/-- A header gets a value. -/
def setHeader (headers : Headers) (name value : String) : Headers :=
  if name ∈ headers.map Prod.fst then
    headers.map fun header => if header.1 = name then (name, value) else header
  else headers ++ [(name, value)]

/-- Lower case, as far as words of ASCII letters are concerned: beside their capitals only the
Kelvin sign is lowered to one of them. -/
def lower (word : String) : String :=
  word.map fun letter => if letter.toNat = 0x212A then 'k' else letter.toLower

/-- No header breaks a line. -/
def validateHeaders (headers : Headers) : Except Raised Unit :=
  rejectIf (∃ header ∈ headers, '\r' ∈ header.1.toList ∨ '\n' ∈ header.1.toList ∨
      '\r' ∈ header.2.toList ∨ '\n' ∈ header.2.toList)
    (.connector { message := "Invalid connector header", code := "connector_header_invalid" })

/-- Headers without their secrets. -/
def sanitizeHeaders (headers : Headers) : Headers :=
  headers.map fun header =>
    if lower header.1 ∈ ["authorization", "cookie", "set-cookie"] then (header.1, "[REDACTED]")
    else header

/-- A byte in lower case. -/
def lowerByte (byte : UInt8) : UInt8 :=
  if 65 ≤ byte ∧ byte ≤ 90 then byte + 32 else byte

/-- The bytes of `<script`. -/
def scriptTag : List UInt8 := [60, 115, 99, 114, 105, 112, 116]

/-- A content with a script. -/
def HasScript (payload : List UInt8) : Prop :=
  scriptTag <:+: payload.map lowerByte

instance (payload : List UInt8) : Decidable (HasScript payload) :=
  inferInstanceAs (Decidable (_ <:+: _))

/-- A content is without a script. -/
def validateResponse (payload : List UInt8) : Except Raised Unit :=
  rejectIf (HasScript payload)
    (.connector
      { message := "Connector response contains untrusted script content"
        code := "connector_prompt_injection" })

/-! ## Transport -/

/-- A response, its content read. -/
structure Response where
  statusCode : Nat
  content : List UInt8 := []
  headers : Headers := []
  deriving DecidableEq

/-- What a transport does with one request: it responds, it hands back a timeout or something
else that is no response, as a mocked handler may, it raises a timeout or another of its errors,
or the host it connects to is blocked. -/
inductive TransportAnswer
  | response (response : Response)
  | returnedTimeout
  | returnedOther
  | timeoutError
  | timeoutException
  | httpError
  | blocked (message : String)
  deriving DecidableEq

/-- Send a request once. -/
def sendRequest : TransportAnswer → Except Raised Response
  | .response response => .ok response
  | .returnedTimeout =>
      .error (.connector
        { errorClass := .connectorUnavailableError
          message := "Connector request timed out"
          code := "connector_timeout" })
  | .returnedOther =>
      .error (.connector
        { errorClass := .connectorUnavailableError
          message := "Connector transport failure"
          code := "connector_transport_error" })
  | .timeoutError => .error .timeoutError
  | .timeoutException => .error .timeoutException
  | .httpError => .error .httpError
  | .blocked message =>
      .error (.connector { message := message, code := "connector_url_blocked" })

/-! ## Requests -/

/-- What a credential provider answers: a credential, none, or a configuration error. -/
abbrev CredentialProvider := String → Except String (Option String)

/-- The identifiers of a request's context. -/
structure ConnectorRequestContext where
  requestId : String
  correlationId : String

/-- A client. What its security policy says of a URL is given. -/
structure HTTPConnectorClient where
  validateUrl : String → Except ConnectorError Bool
  credentialProvider : Option CredentialProvider := none
  retryPolicy : RetryPolicy := {}
  maxResponseBytes : Int := 250000
  userAgent : String := "policyos-connector/1.0"
  credentialName : Option String := none

/-- What is requested. -/
structure ConnectorCall where
  url : String
  headers : Option Headers := none
  context : Option ConnectorRequestContext := none

/-- What is known of a response. -/
structure ConnectorResponseMetadata where
  statusCode : Option Nat
  contentType : Option String
  bytesReceived : Nat
  retryCount : Nat
  requestId : Option String
  correlationId : Option String
  deriving DecidableEq

/-- An admitted response. -/
structure HTTPConnectorResponse where
  statusCode : Nat
  content : List UInt8
  headers : Headers
  requestHeaders : Headers
  metadata : ConnectorResponseMetadata
  deriving DecidableEq

namespace HTTPConnectorClient

/-- The credential of a client that has a provider. -/
def credential (client : HTTPConnectorClient) (provider : CredentialProvider) :
    Except Raised String := do
  let missing (message : String) : Raised := .configuration .connectorConfigurationError message
  let name := client.credentialName.getD ""
  rejectIf (name = "") (missing "Credential reference is required")
  let given ← (provider name).mapError missing
  rejectIf (given.getD "" = "") (missing "Connector credential is unavailable")
  pure (given.getD "")

/-- What is checked before anything is sent, and the headers that are sent. -/
def prepare (client : HTTPConnectorClient) (call : ConnectorCall) : Except Raised Headers := do
  let allowed ← (client.validateUrl call.url).mapError .connector
  rejectIf (allowed = false)
    (.connector { message := "Connector URL is blocked", code := "connector_url_blocked" })
  let headers := setDefault (call.headers.getD []) "User-Agent" client.userAgent
  let headers := setDefault headers "Accept" "application/json, application/xml, text/plain"
  validateHeaders headers
  match client.credentialProvider with
  | none => pure headers
  | some provider => do
      let credential ← client.credential provider
      pure (setHeader headers "Authorization" ("Bearer " ++ credential))

/-- The statuses of a redirect. -/
def redirects : List Nat := [301, 302, 303, 307, 308]

/-- A response is admitted: it is not too large, has no script, and its status is no failure. -/
def admitResponse (client : HTTPConnectorClient) (response : Response) : Except Raised Unit := do
  rejectIf (client.maxResponseBytes < response.content.length)
    (.connector
      { message := "Connector response exceeds configured size"
        code := "connector_response_too_large" })
  validateResponse response.content
  rejectIf (response.statusCode = 401)
    (authenticationError "Connector authentication failed" [("code", "connector_auth_failed")])
  rejectIf (response.statusCode = 403)
    (.connector { message := "Connector access forbidden", code := "connector_forbidden" })
  rejectIf (response.statusCode = 429)
    (.connector
      { message := "Connector rate limited", code := "connector_rate_limited", retryable := true })
  rejectIf (500 ≤ response.statusCode)
    (.connector
      { message := "Connector upstream error"
        code := "connector_upstream_error"
        retryable := true })
  rejectIf (response.statusCode ∈ redirects)
    (.connector { message := "Connector redirect blocked", code := "connector_redirect_blocked" })

/-- The value of a header of a response, whatever the case of its name. -/
def headerOf (headers : Headers) (name : String) : Option String :=
  (headers.find? fun header => lower header.1 = name).map Prod.snd

/-- One attempt: the request is sent and its response admitted. -/
def attempt (client : HTTPConnectorClient) (call : ConnectorCall) (requestHeaders : Headers)
    (answers : Nat → TransportAnswer) (made : Nat) : Except Raised HTTPConnectorResponse := do
  let response ← sendRequest (answers made)
  client.admitResponse response
  pure
    { statusCode := response.statusCode
      content := response.content
      headers := response.headers
      requestHeaders := sanitizeHeaders requestHeaders
      metadata :=
        { statusCode := some response.statusCode
          contentType := headerOf response.headers "content-type"
          bytesReceived := response.content.length
          retryCount := made
          requestId := call.context.map (·.requestId)
          correlationId := call.context.map (·.correlationId) } }

/-- What the handlers make of an attempt: it is repeated after a timeout, an error of the
transport and a connector error that may pass. -/
def handled : Except Raised HTTPConnectorResponse → Verdict (Except Raised HTTPConnectorResponse)
  | .ok response => .final (.ok response)
  | .error .timeoutError =>
      .again (.error (.connector
        { errorClass := .connectorUnavailableError
          message := "Connector request timed out"
          code := "connector_timeout" }))
  | .error (.connector error) =>
      if error.retryable then .again (.error (.connector error))
      else .final (.error (.connector error))
  | .error .timeoutException =>
      .again (.error (.connector
        { errorClass := .connectorUnavailableError
          message := "Connector request timed out"
          code := "connector_timeout" }))
  | .error .httpError =>
      .again (.error (.connector
        { errorClass := .connectorUnavailableError
          message := "Connector transport failure"
          code := "connector_transport_error" }))
  | .error raised => .final (.error raised)

/-- The loop of a request: what each attempt comes to, and what waiting before one raises. -/
def loop (client : HTTPConnectorClient) (call : ConnectorCall) (requestHeaders : Headers)
    (answers : Nat → TransportAnswer) (draws : Nat → ℚ) :
    RetryLoop (Except Raised HTTPConnectorResponse) where
  limit := client.retryPolicy.maxRetries
  attempt := fun made => handled (client.attempt call requestHeaders answers made)
  pause := fun made =>
    match client.retryPolicy.delayFor (draws made) made with
    | .ok _ => none
    | .error raised => some (.error raised)

/-- A request, with the number of requests that are sent. -/
def request (client : HTTPConnectorClient) (call : ConnectorCall)
    (answers : Nat → TransportAnswer) (draws : Nat → ℚ) :
    Ended (Except Raised HTTPConnectorResponse) :=
  match client.prepare call with
  | .error raised => ⟨0, .error raised⟩
  | .ok requestHeaders => (client.loop call requestHeaders answers draws).run

end HTTPConnectorClient

end PolicyOS.Connectors
