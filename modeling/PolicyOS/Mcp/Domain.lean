import Mathlib.Data.List.Infix
import PolicyOS.Domain.Primitives
import PolicyOS.Execution.Json
import PolicyOS.Foundation.Checked

/-!
# Tools of MCP servers

Servers and their tools, who may call them, and what arguments and results must look like. What
a schema says is read as JSON, so one that is not well formed fails where it is read.
-/

namespace PolicyOS.Mcp

open Foundation
open Execution (JsonValue)

/-! ## Contracts -/

inductive MCPTransportType
  | remote
  | localProcess
  | fake
  | disabled
  deriving DecidableEq

inductive MCPErrorCode
  | disabled
  | unknownServer
  | unknownTool
  | permission
  | policy
  | approval
  | validation
  | timeout
  | rateLimit
  | connection
  | authentication
  | result
  | resultTooLarge
  deriving DecidableEq

/-- The value of an error code. -/
def MCPErrorCode.value : MCPErrorCode → String
  | .disabled => "mcp_disabled"
  | .unknownServer => "mcp_unknown_server"
  | .unknownTool => "mcp_unknown_tool"
  | .permission => "mcp_permission_denied"
  | .policy => "mcp_policy_denied"
  | .approval => "mcp_approval_required"
  | .validation => "mcp_validation_error"
  | .timeout => "mcp_timeout"
  | .rateLimit => "mcp_rate_limit"
  | .connection => "mcp_connection_error"
  | .authentication => "mcp_authentication_error"
  | .result => "mcp_invalid_result"
  | .resultTooLarge => "mcp_result_too_large"

/-- An error of a tool call. How long to wait before the next call is in milliseconds. -/
structure MCPError where
  code : MCPErrorCode
  message : String
  retryable : Bool := false
  retryAfter : Option Nat := none
  deriving DecidableEq

/-- What is raised while a tool is called: an error of the gateway's own, another exception, or
the cancellation of the call. -/
inductive Raised
  | mcp (error : MCPError)
  | other (name : String)
  | cancelled
  deriving DecidableEq

/-- An exception that is no error of the gateway's own. -/
def Raised.Foreign : Raised → Prop
  | .mcp _ => False
  | .other _ | .cancelled => True

/-- The members of an object. -/
abbrev Fields := List (String × JsonValue)

/-- The value of a member. -/
def field (name : String) (fields : Fields) : Option JsonValue :=
  (fields.find? fun entry => entry.1 = name).map Prod.snd

structure MCPToolDefinition where
  name : String
  inputSchema : Fields
  outputSchema : Fields
  readOnly : Bool := true
  consequential : Bool := false
  requiredPermission : String := "mcp.execute"

structure MCPServerDefinition where
  stableName : String
  version : String
  transportType : MCPTransportType
  enabled : Bool := true
  readOnly : Bool := true
  allowedOrganizations : Option (List UUID) := none
  allowedClassifications : List DataClassification := [.public, .internal]
  maxResultBytes : Nat := 1000000
  requiresHumanApproval : Bool := false

structure MCPExecutionContext where
  userId : UUID
  organizationId : UUID
  dataClassification : DataClassification := .internal
  permissions : List String
  requestId : UUID
  correlationId : String
  humanApprovalReference : Option String := none
  membershipActive : Bool := true
  confidentialExternalAllowed : Bool := false

structure MCPToolCallRequest where
  serverName : String
  toolName : String
  arguments : Fields
  context : MCPExecutionContext

structure MCPToolCallResult where
  content : JsonValue
  contentType : String := "application/json"
  resultSize : Nat
  serverRequestId : Option String := none
  classification : DataClassification
  warnings : List String := []
  suspicious : Bool := false
  untrusted : Bool := true
  retryCount : Nat := 0
  fromCache : Bool := false
  stale : Bool := false
  deriving DecidableEq

/-! ## Authorization -/

/-- A server outside the process. -/
def MCPServerDefinition.external (server : MCPServerDefinition) : Bool :=
  server.transportType = .remote || server.transportType = .localProcess

/-- A tool that may change something. -/
def MCPToolDefinition.writes (tool : MCPToolDefinition) : Bool :=
  !tool.readOnly || tool.consequential

/-- Whether a context may call a tool. -/
def authorize (requireApprovalForWrites : Bool) (server : MCPServerDefinition)
    (tool : MCPToolDefinition) (context : MCPExecutionContext) : Except Raised String := do
  let denied (code : MCPErrorCode) (message : String) : Raised :=
    .mcp { code := code, message := message }
  rejectIf (context.membershipActive = false) (denied .permission "Active membership required")
  rejectIf (tool.requiredPermission ∉ context.permissions)
    (denied .permission "MCP permission denied")
  rejectIf (∃ organizations ∈ server.allowedOrganizations,
      context.organizationId ∉ organizations)
    (denied .permission "MCP organization denied")
  rejectIf (context.dataClassification ∉ server.allowedClassifications)
    (denied .policy "MCP classification denied")
  rejectIf (server.external ∧ context.dataClassification = .restricted)
    (denied .policy "Restricted external MCP transmission denied")
  rejectIf (server.external ∧ context.dataClassification = .confidential ∧
      context.confidentialExternalAllowed = false)
    (denied .policy "Confidential external MCP transmission denied")
  rejectIf (server.readOnly ∧ tool.writes ∨
      tool.writes ∧ requireApprovalForWrites ∧ context.humanApprovalReference.getD "" = "")
    (denied .approval "Human approval is required")
  pure "allow"

/-! ## Validation -/

/-- What the validation of texts and the hashing of arguments rest on: the patterns, the scheme of
a URL, `int` and `str` of a value, JSON text as bytes, and the hash of arguments for an
organization. A name is that of the exception that is raised instead. -/
structure Texts where
  dangerous : String → Bool
  injection : List UInt8 → Bool
  urlScheme : String → Except String String
  intOf : JsonValue → Except String Int
  shown : JsonValue → String
  encode : JsonValue → Except String (List UInt8)
  parametersHash : UUID → Fields → String

variable (texts : Texts)

/-- An argument or a result that is not accepted. -/
def invalid (message : String) : Raised := .mcp { code := .validation, message := message }

/-- What is iterated over as the required names of an object. -/
def namesOf : JsonValue → Except Raised (List JsonValue)
  | .array items => .ok items
  | .text text => .ok (text.toList.map fun letter => .text (String.singleton letter))
  | .object fields => .ok (fields.map fun entry => .text entry.1)
  | _ => .error (.other "TypeError")

/-- A required name is one of the object's. -/
def requireName (members : Fields) (name : JsonValue) : Except Raised Unit :=
  match name with
  | .array _ | .object _ => .error (.other "TypeError")
  | .text text =>
      rejectIf (text ∉ members.map Prod.fst) (invalid ("Missing required field: " ++ text))
  | other => .error (invalid ("Missing required field: " ++ texts.shown other))

/-- A key is in the properties of a schema. -/
def inProperties (key : String) : JsonValue → Except Raised Bool
  | .object fields => .ok (key ∈ fields.map Prod.fst)
  | .array items => .ok (.text key ∈ items)
  | .text text => .ok (key.toList <:+: text.toList)
  | _ => .error (.other "TypeError")

/-- The schema of a key that is in the properties. -/
def propertySchema (key : String) : JsonValue → Except Raised JsonValue
  | .object fields => .ok ((field key fields).getD .null)
  | _ => .error (.other "TypeError")

/-- No key of an object is outside the properties. The first that is decides. -/
def knownKeys (properties : JsonValue) : List String → Except Raised Unit
  | [] => .ok ()
  | key :: rest => do
      let known ← inProperties key properties
      rejectIf (known = false) (invalid "Unknown input field")
      knownKeys properties rest

/-- The longest text a schema allows. -/
def maxLength (schema : Fields) : Except Raised Int :=
  match field "maxLength" schema with
  | none => .ok 8000
  | some (.integer value) => .ok value
  | some (.boolean value) => .ok (if value then 1 else 0)
  | some other => (texts.intOf other).mapError .other

/-- A text is short enough, without a dangerous part, and an admitted URL where it is one. -/
def validateText (schema : Fields) (path text : String) : Except Raised Unit := do
  let limit ← maxLength texts schema
  rejectIf (limit < text.length) (invalid (path ++ " is invalid"))
  rejectIf (texts.dangerous text) (invalid "Unsafe path or command input")
  if field "format" schema = some (.text "uri") then do
    let scheme ← (texts.urlScheme text).mapError .other
    rejectIf (scheme ∉ ["https", "http"]) (invalid "Unsafe URL")

mutual

/-- A value is as a schema says. -/
def validate (schema : JsonValue) (path : String) (value : JsonValue) : Except Raised Unit :=
  match schema with
  | .object schema =>
      if field "type" schema = some (.text "object") then
        match value with
        | .object members => do
            let required ← namesOf ((field "required" schema).getD (.array []))
            checkEach (requireName texts members) required
            let properties := (field "properties" schema).getD (.object [])
            if field "additionalProperties" schema = some (.boolean false) then
              knownKeys properties (members.map Prod.fst)
            rejectIf (100 < members.length) (invalid "Object is too large")
            validateMembers properties path members
        | _ => .error (invalid (path ++ " must be an object"))
      else if field "type" schema = some (.text "array") then
        match value with
        | .array items => do
            rejectIf (1000 < items.length) (invalid (path ++ " must be a bounded array"))
            validateItems ((field "items" schema).getD (.object [])) path items
        | _ => .error (invalid (path ++ " must be a bounded array"))
      else if field "type" schema = some (.text "string") then
        match value with
        | .text text => validateText texts schema path text
        | _ => .error (invalid (path ++ " is invalid"))
      else .ok ()
  | _ => .error (.other "AttributeError")

/-- The members of an object are as the properties say. -/
def validateMembers (properties : JsonValue) (path : String) :
    Fields → Except Raised Unit
  | [] => .ok ()
  | (key, item) :: rest => do
      let known ← inProperties key properties
      if known then
        let schema ← propertySchema key properties
        validate schema (path ++ "." ++ key) item
      validateMembers properties path rest

/-- The items of an array are as a schema says. -/
def validateItems (schema : JsonValue) (path : String) :
    List JsonValue → Except Raised Unit
  | [] => .ok ()
  | item :: rest => do
      validate schema path item
      validateItems schema path rest

end

/-- The arguments of a call. -/
def validateInput (tool : MCPToolDefinition) (arguments : Fields) : Except Raised Unit :=
  validate texts (.object tool.inputSchema) "$" (.object arguments)

/-- Warnings, each once. -/
def distinctWarnings : List String → List String :=
  List.foldl (fun kept warning => if warning ∈ kept then kept else kept ++ [warning]) []

/-- A result is small enough and as the tool says; what it is marked with. -/
def validateOutput (tool : MCPToolDefinition) (result : MCPToolCallResult) (maxBytes : Nat) :
    Except Raised MCPToolCallResult := do
  let encoded ← (texts.encode result.content).mapError .other
  rejectIf (maxBytes < encoded.length)
    (.mcp { code := .resultTooLarge, message := "MCP result exceeds size limit" })
  validate texts (.object tool.outputSchema) "$" result.content
  let suspicious := texts.injection encoded
  pure
    { result with
      resultSize := encoded.length
      warnings := distinctWarnings
        (result.warnings ++ if suspicious then ["suspicious_untrusted_content"] else [])
      suspicious := suspicious
      untrusted := true }

end PolicyOS.Mcp
