import PolicyOS.Foundation.JsonReading
import PolicyOS.Runtime.Connector.Validation

/-!
# Reading connector responses

The bytes of a response are read as JSON, written again and read by the model of the response.
Reading and writing raise at what the interpreter does not take: an integer of too many digits, a
collection nested too deep, a float that is not finite. The readings of the models are given as
functions.
-/

namespace PolicyOS.Runtime.Connector.Responses

open Foundation

/-- What the interpreter takes: the digits of an integer, and how deep collections may be nested
when they are read and when they are written. -/
structure Interpreter where
  maxStrDigits : Nat := 4300
  decodingDepth : Nat
  encodingDepth : Nat

/-- How reading a response fails. -/
inductive ResponseFailure
  | contract (message : String)
  | valueError
  | recursionError
  deriving DecidableEq

/-- The members of an object that was read. -/
abbrev Members (Float : Type) := List (CodePoints × JsonTree Float)

/-- The readings of the models: of a JSON text, of an identifier and of an aware timestamp. -/
structure ModelReading (Float : Type) where
  fromJson : CodePoints → Option (JsonTree Float)
  uuid : CodePoints → Option UUID
  datetime : CodePoints → Option OffsetTime

/-! ## Models -/

/-- The key of a field. -/
def fieldKey (name : String) : CodePoints := codePoints name.toList

/-- Whether a text is an identifier of bounded length. -/
def isBoundedId : Text → Bool
  | first :: rest =>
      first.isAlphanum && rest.length < 200 &&
        rest.all fun char => char.isAlphanum || char ∈ ['_', '.', ':', '/', '-']
  | [] => false

section Models

variable {Float : Type}

/-- The members of an object that has exactly the given fields. -/
def closedFields (names : List String) : JsonTree Float → Option (Members Float)
  | .dict members =>
      if (members.map Prod.fst).Perm (names.map fieldKey) then some members else none
  | _ => none

/-- The string a field holds. -/
def stringField (fields : Members Float) (name : String) : Option CodePoints :=
  match fields.lookup (fieldKey name) with
  | some (.string text) => some text
  | _ => none

/-- A field that must hold one string. -/
def literalField (fields : Members Float) (name expected : String) : Option String :=
  if stringField fields name = some (fieldKey expected) then some expected else none

/-- A field that must hold a bounded identifier. -/
def boundedField (fields : Members Float) (name : String) : Option BoundedId := do
  let text := (← stringField fields name).map Char.ofNat
  if isBoundedId text then some (String.ofList text) else none

/-- The fields of an acknowledgement. -/
def acknowledgementFields : List String :=
  ["protocol_version", "operation_reference", "runtime_effect_id",
    "runtime_effect_delivery_attempt_id", "destination_reference", "effect_idempotency_key",
    "accepted_at", "acknowledgement_digest_reference"]

/-- The acknowledgement of the given fields. -/
def readAcknowledgement (reading : ModelReading Float) (fields : Members Float) :
    Option RuntimeConnectorDeliveryWireResponse := do
  let bounded := boundedField fields
  let uuid name := (stringField fields name).bind reading.uuid
  let acknowledgement : RuntimeConnectorDeliveryAcknowledgement :=
    { protocolVersion := ← literalField fields "protocol_version" protocolVersion
      operationReference := ← bounded "operation_reference"
      runtimeEffectId := ← uuid "runtime_effect_id"
      runtimeEffectDeliveryAttemptId := ← uuid "runtime_effect_delivery_attempt_id"
      destinationReference := ← bounded "destination_reference"
      effectIdempotencyKey := ← bounded "effect_idempotency_key"
      acceptedAt := ← (stringField fields "accepted_at").bind reading.datetime
      acknowledgementDigestReference := ← bounded "acknowledgement_digest_reference" }
  pure ⟨acknowledgement⟩

/-- What the provider says of a delivery. -/
inductive RuntimeConnectorProviderState
  | delivered | notDelivered | pending
  deriving DecidableEq

/-- The state a field names. -/
def stateField (fields : Members Float) (name : String) : Option RuntimeConnectorProviderState :=
  (literalField fields name "delivered").map (fun _ => .delivered) <|>
    (literalField fields name "not_delivered").map (fun _ => .notDelivered) <|>
    (literalField fields name "pending").map (fun _ => .pending)

/-- What the connector observed of a delivery. -/
structure RuntimeConnectorDeliveryObservation where
  protocolVersion : String
  providerState : RuntimeConnectorProviderState
  providerObservationReference : BoundedId
  operationReference : BoundedId
  runtimeEffectId : UUID
  runtimeEffectDeliveryAttemptId : UUID
  destinationReference : BoundedId
  effectIdempotencyKey : BoundedId
  observedAt : OffsetTime
  observationDigestReference : BoundedId
  deriving DecidableEq

/-- The body of a connector's answer to an observation. -/
structure RuntimeConnectorObservationWireResponse where
  deliveryObservation : RuntimeConnectorDeliveryObservation
  deriving DecidableEq

/-- The fields of an observation. -/
def observationFields : List String :=
  ["protocol_version", "provider_state", "provider_observation_reference", "operation_reference",
    "runtime_effect_id", "runtime_effect_delivery_attempt_id", "destination_reference",
    "effect_idempotency_key", "observed_at", "observation_digest_reference"]

/-- The observation of the given fields. -/
def readObservation (reading : ModelReading Float) (fields : Members Float) :
    Option RuntimeConnectorObservationWireResponse := do
  let bounded := boundedField fields
  let uuid name := (stringField fields name).bind reading.uuid
  let observation : RuntimeConnectorDeliveryObservation :=
    { protocolVersion := ← literalField fields "protocol_version" protocolVersion
      providerState := ← stateField fields "provider_state"
      providerObservationReference := ← bounded "provider_observation_reference"
      operationReference := ← bounded "operation_reference"
      runtimeEffectId := ← uuid "runtime_effect_id"
      runtimeEffectDeliveryAttemptId := ← uuid "runtime_effect_delivery_attempt_id"
      destinationReference := ← bounded "destination_reference"
      effectIdempotencyKey := ← bounded "effect_idempotency_key"
      observedAt := ← (stringField fields "observed_at").bind reading.datetime
      observationDigestReference := ← bounded "observation_digest_reference" }
  pure ⟨observation⟩

/-- A response model: the one field it has, the fields of that, and how they are read. -/
structure ResponseModel (Float Response : Type) where
  wrapper : String
  fields : List String
  read : Members Float → Option Response

/-- The model of a delivery response. -/
def deliveryModel (reading : ModelReading Float) :
    ResponseModel Float RuntimeConnectorDeliveryWireResponse where
  wrapper := "delivery_acknowledgement"
  fields := acknowledgementFields
  read := readAcknowledgement reading

/-- The model of an observation response. -/
def observationModel (reading : ModelReading Float) :
    ResponseModel Float RuntimeConnectorObservationWireResponse where
  wrapper := "delivery_observation"
  fields := observationFields
  read := readObservation reading

variable {Response : Type}

/-- The response an object is accepted as. -/
def ResponseModel.validate (model : ResponseModel Float Response) (tree : JsonTree Float) :
    Option Response := do
  let outer ← closedFields [model.wrapper] tree
  let inner ← outer.lookup (fieldKey model.wrapper)
  model.read (← closedFields model.fields inner)

/-! ## Parsing -/

variable (format : FloatFormat Float) (interpreter : Interpreter) (reading : ModelReading Float)

/-- Raise at the first piece that is refused. -/
def raiseFirst (refusal : JsonPiece Float → Option ResponseFailure)
    (pieces : List (JsonPiece Float)) : Except ResponseFailure Unit :=
  match pieces.findSome? refusal with
  | some failure => .error failure
  | none => .ok ()

/-- What raises while a text is read: the interpreter, or the hooks for constants and objects. -/
def decodingRefusal : JsonPiece Float → Option ResponseFailure
  | .integer digits => if interpreter.maxStrDigits < digits then some .valueError else none
  | .nested depth => if interpreter.decodingDepth < depth then some .recursionError else none
  | .constant _ => some (.contract "connector JSON contains a non-finite number")
  | .members keys =>
      if keys.Nodup then none else some (.contract "connector JSON contains a duplicate field")
  | .real _ => none

/-- What raises while a value is written. -/
def encodingRefusal : JsonPiece Float → Option ResponseFailure
  | .integer digits => if interpreter.maxStrDigits < digits then some .valueError else none
  | .nested depth => if interpreter.encodingDepth < depth then some .recursionError else none
  | .real value => if format.finite value then none else some .valueError
  | .constant _ | .members _ => none

/-- Read a text as JSON. -/
def loads (text : Text) : Except ResponseFailure (JsonTree Float) := do
  raiseFirst (decodingRefusal interpreter) (readJson format text).events
  (readJson format text).outcome.mapError fun _ => .contract "connector JSON is malformed"

/-- Write a value as JSON. -/
def dumps (value : JsonTree Float) : Except ResponseFailure CodePoints := do
  raiseFirst (encodingRefusal format interpreter) (value.pieces 0)
  pure (value.write format)

/-- The text of bytes, if they are UTF-8. -/
def decodeUtf8 (bytes : List UInt8) : Option Text :=
  (ByteArray.mk bytes.toArray).utf8Decode?.map Array.toList

/-- Bytes that are read at all: some, within the bound, and without a byte order mark. -/
def Admitted (body : List UInt8) : Prop :=
  body ≠ [] ∧ body.length ≤ responseBodyMaxBytes ∧ ¬ [0xef, 0xbb, 0xbf] <+: body

instance (body : List UInt8) : Decidable (Admitted body) := inferInstanceAs (Decidable (_ ∧ _ ∧ _))

/-- Read bytes as one JSON object. -/
def parseClosedJson (body : List UInt8) : Except ResponseFailure (Members Float) := do
  rejectIf (¬ Admitted body)
    (.contract "connector JSON body is empty, BOM-prefixed, or oversized")
  match decodeUtf8 body with
  | none => .error (.contract "connector JSON is malformed")
  | some text =>
      match ← loads format interpreter text with
      | .dict members => pure members
      | _ => .error (.contract "connector JSON top-level value must be an object")

/-- Write an object, and read it by a model. -/
def validateObject (model : ResponseModel Float Response) (invalid : String)
    (value : Members Float) : Except ResponseFailure Response := do
  let text ← dumps format interpreter (.dict value)
  match (reading.fromJson text).bind model.validate with
  | some response => pure response
  | none => .error (.contract invalid)

/-- Read a response. -/
def parseResponse (model : ResponseModel Float Response) (invalid : String) (body : List UInt8) :
    Except ResponseFailure Response := do
  validateObject format interpreter reading model invalid
    (← parseClosedJson format interpreter body)

/-- Read a delivery response. -/
def parseRuntimeConnectorDeliveryResponse (body : List UInt8) :
    Except ResponseFailure RuntimeConnectorDeliveryWireResponse :=
  parseResponse format interpreter reading (deliveryModel reading)
    "connector delivery response contract is invalid" body

/-- Read an observation response. -/
def parseRuntimeConnectorObservationResponse (body : List UInt8) :
    Except ResponseFailure RuntimeConnectorObservationWireResponse :=
  parseResponse format interpreter reading (observationModel reading)
    "connector observation response contract is invalid" body

/-! ## What is answered -/

/-- What the interpreter does not take while a text is read. -/
def Oversized : JsonPiece Float → Prop
  | .integer digits => interpreter.maxStrDigits < digits
  | .nested depth => interpreter.decodingDepth < depth
  | _ => False

/-- What no response may hold: a constant, or an object that repeats a field. -/
def Forbidden : JsonPiece Float → Prop
  | .constant _ => True
  | .members keys => ¬ keys.Nodup
  | _ => False

/-- What the interpreter does not write. -/
def Unwritable : JsonPiece Float → Prop
  | .integer digits => interpreter.maxStrDigits < digits
  | .nested depth => interpreter.encodingDepth < depth
  | .real value => format.finite value = false
  | _ => False

/-- The interpreter takes a body: whatever it does not take comes after something forbidden, and
if the body is one object with nothing forbidden, that object can be written. -/
def Ordinary (body : List UInt8) : Prop :=
  Admitted body → ∀ text, decodeUtf8 body = some text →
    (∀ before piece after, (readJson format text).events = before ++ piece :: after →
      Oversized interpreter piece → ∃ earlier ∈ before, Forbidden earlier) ∧
    ∀ members, (readJson format text).outcome = .ok (.dict members) →
      (∀ piece ∈ (readJson format text).events, ¬ Forbidden piece) →
      ∀ piece ∈ (JsonTree.dict members).pieces 0, ¬ Unwritable format interpreter piece

/-- The response is read from exactly the object the bytes hold: of the fields of the model, none
missing, unknown or repeated, and with finite numbers only. -/
structure Accepts (model : ResponseModel Float Response) (body : List UInt8)
    (response : Response) : Prop where
  admitted : Admitted body
  object : ∃ text fields members, decodeUtf8 body = some text ∧
    (readJson format text).outcome = .ok (.dict members) ∧
    members = [(fieldKey model.wrapper, .dict fields)] ∧
    (fields.map Prod.fst).Perm (model.fields.map fieldKey) ∧ model.read fields = some response ∧
    (∀ piece ∈ (readJson format text).events, ¬ Forbidden piece) ∧
    ∀ value, .real value ∈ (JsonTree.dict members).pieces 0 → format.finite value = true

/-- A body is accepted as the response it holds, or refused by the contract. -/
def Answers (model : ResponseModel Float Response)
    (parse : List UInt8 → Except ResponseFailure Response) (body : List UInt8) : Prop :=
  (∃ response, parse body = .ok response ∧ Accepts format model body response) ∨
    ∃ message, parse body = .error (.contract message)

variable {format interpreter reading}

theorem raiseFirst_cases (refusal : JsonPiece Float → Option ResponseFailure)
    (pieces : List (JsonPiece Float)) :
    (raiseFirst refusal pieces = .ok () ∧ ∀ piece ∈ pieces, refusal piece = none) ∨
      ∃ before piece after failure, raiseFirst refusal pieces = .error failure ∧
        pieces = before ++ piece :: after ∧ refusal piece = some failure ∧
        ∀ earlier ∈ before, refusal earlier = none := by
  unfold raiseFirst
  cases found : pieces.findSome? refusal with
  | none => exact .inl ⟨rfl, List.findSome?_eq_none_iff.mp found⟩
  | some failure =>
      obtain ⟨before, piece, after, split, refused, clear⟩ := List.findSome?_eq_some_iff.mp found
      exact .inr ⟨before, piece, after, failure, rfl, split, refused, clear⟩

/-- Nothing is raised at a piece that is neither oversized nor forbidden. -/
theorem decodingRefusal_eq_none {piece : JsonPiece Float} :
    decodingRefusal interpreter piece = none ↔
      ¬ Oversized interpreter piece ∧ ¬ Forbidden piece := by
  cases piece <;> simp [decodingRefusal, Oversized, Forbidden]

/-- The contract is raised at what is forbidden, and other exceptions at what is oversized. -/
theorem decodingRefusal_eq_some {piece : JsonPiece Float} {failure : ResponseFailure}
    (refused : decodingRefusal interpreter piece = some failure) :
    (Forbidden piece ∧ ¬ Oversized interpreter piece ∧ ∃ message, failure = .contract message) ∨
      (Oversized interpreter piece ∧ ∀ message, failure ≠ .contract message) := by
  cases piece <;>
    simp only [decodingRefusal, Oversized, Forbidden, Option.ite_none_right_eq_some,
      Option.ite_none_left_eq_some, Option.some.injEq, reduceCtorEq] at refused ⊢ <;>
    grind

theorem encodingRefusal_eq_none {piece : JsonPiece Float} :
    encodingRefusal format interpreter piece = none ↔ ¬ Unwritable format interpreter piece := by
  cases piece <;> simp [encodingRefusal, Unwritable]

theorem encodingRefusal_ne_contract {piece : JsonPiece Float} {failure : ResponseFailure}
    (refused : encodingRefusal format interpreter piece = some failure) (message : String) :
    failure ≠ .contract message := by
  cases piece <;>
    simp only [encodingRefusal, Option.ite_none_right_eq_some, Option.ite_none_left_eq_some,
      Option.some.injEq, reduceCtorEq] at refused <;>
    grind

/-- What a model accepts has its fields, and no others. -/
theorem ResponseModel.validate_eq_some {model : ResponseModel Float Response}
    {tree : JsonTree Float} {response : Response} (accepted : model.validate tree = some response) :
    ∃ fields, tree = .dict [(fieldKey model.wrapper, .dict fields)] ∧
      (fields.map Prod.fst).Perm (model.fields.map fieldKey) ∧
      model.read fields = some response := by
  have closed : ∀ {names : List String} {tree : JsonTree Float} {members : Members Float},
      closedFields names tree = some members →
        tree = .dict members ∧ (members.map Prod.fst).Perm (names.map fieldKey) := by
    intro names tree members found
    cases tree <;> simp only [closedFields, Option.ite_none_right_eq_some, Option.some.injEq,
      reduceCtorEq] at found
    obtain ⟨same, rfl⟩ := found
    exact ⟨rfl, same⟩
  simp only [ResponseModel.validate, Option.bind_eq_bind, Option.bind_eq_some_iff] at accepted
  obtain ⟨outer, isOuter, inner, held, fields, isInner, read⟩ := accepted
  obtain ⟨rfl, keys⟩ := closed isOuter
  obtain ⟨rfl, names⟩ := closed isInner
  simp only [List.map_cons, List.map_nil, List.perm_singleton] at keys
  match outer, keys with
  | [(key, value)], keys =>
      obtain rfl : key = fieldKey model.wrapper := by simpa using keys
      obtain rfl : value = .dict fields := by simpa using held
      exact ⟨fields, rfl, names, read⟩

/-- A raised failure is the contract's exactly if what was not taken comes after something
forbidden. -/
theorem raised_contract_iff {pieces before after : List (JsonPiece Float)}
    {piece : JsonPiece Float} {failure : ResponseFailure}
    (split : pieces = before ++ piece :: after)
    (refused : decodingRefusal interpreter piece = some failure)
    (clear : ∀ earlier ∈ before, decodingRefusal interpreter earlier = none) :
    (∃ message, failure = .contract message) ↔
      ∀ first found last, pieces = first ++ found :: last → Oversized interpreter found →
        ∃ earlier ∈ first, Forbidden earlier := by
  rcases decodingRefusal_eq_some refused with ⟨forbidden, fits, message, rfl⟩ | ⟨oversized, other⟩
  · refine iff_of_true ⟨message, rfl⟩ fun first found last same oversized => ?_
    rw [split] at same
    rcases List.append_eq_append_iff.mp same with ⟨between, rfl, tail⟩ | ⟨between, rfl, tail⟩
    · cases between with
      | nil =>
          cases tail
          exact absurd oversized fits
      | cons head rest =>
          cases tail
          exact ⟨piece, by simp, forbidden⟩
    · cases between with
      | nil =>
          cases tail
          exact absurd oversized fits
      | cons head rest =>
          cases tail
          exact absurd oversized (decodingRefusal_eq_none.mp (clear found (by simp))).1
  · refine iff_of_false (fun ⟨message, isContract⟩ => other message isContract) fun all => ?_
    obtain ⟨earlier, among, forbidden⟩ := all before piece after split oversized
    exact (decodingRefusal_eq_none.mp (clear earlier among)).2 forbidden

/-- Writing an object raises at what is not writable; otherwise its model accepts it or not. -/
theorem validateObject_cases (model : ResponseModel Float Response) (invalid : String)
    {members : Members Float}
    (readsBack : ∀ read, (∀ piece ∈ (JsonTree.dict members).pieces 0,
        ¬ Unwritable format interpreter piece) →
      reading.fromJson ((JsonTree.dict members).write format) = some read → read = .dict members) :
    (∃ failure, validateObject format interpreter reading model invalid members = .error failure ∧
        (∀ message, failure ≠ .contract message) ∧
        ∃ piece ∈ (JsonTree.dict members).pieces 0, Unwritable format interpreter piece) ∨
      ((∀ piece ∈ (JsonTree.dict members).pieces 0, ¬ Unwritable format interpreter piece) ∧
        (validateObject format interpreter reading model invalid members =
            .error (.contract invalid) ∨
          ∃ response fields,
            validateObject format interpreter reading model invalid members = .ok response ∧
            members = [(fieldKey model.wrapper, .dict fields)] ∧
            (fields.map Prod.fst).Perm (model.fields.map fieldKey) ∧
            model.read fields = some response)) := by
  rcases raiseFirst_cases (encodingRefusal format interpreter) ((JsonTree.dict members).pieces 0)
    with ⟨written, writable⟩ | ⟨before, piece, after, failure, raised, split, refused, -⟩
  case inr =>
    refine .inl ⟨failure, ?_, encodingRefusal_ne_contract refused, piece, by simp [split], ?_⟩
    · rw [validateObject, dumps, raised]
      rfl
    · by_contra fits
      rw [encodingRefusal_eq_none.mpr fits] at refused
      cases refused
  have fits : ∀ piece ∈ (JsonTree.dict members).pieces 0,
      ¬ Unwritable format interpreter piece :=
    fun piece among => encodingRefusal_eq_none.mp (writable piece among)
  refine .inr ⟨fits, ?_⟩
  have dumped : dumps format interpreter (.dict members) =
      .ok ((JsonTree.dict members).write format) := by
    rw [dumps, written]
    rfl
  have answer : validateObject format interpreter reading model invalid members =
      match (reading.fromJson ((JsonTree.dict members).write format)).bind model.validate with
      | some response => .ok response
      | none => .error (.contract invalid) := by
    rw [validateObject, dumped]
    rfl
  rw [answer]
  cases validated : (reading.fromJson ((JsonTree.dict members).write format)).bind
      model.validate with
  | none => exact .inl rfl
  | some response =>
      obtain ⟨read, isRead, accepted⟩ := Option.bind_eq_some_iff.mp validated
      rw [readsBack read fits isRead] at accepted
      obtain ⟨fields, isDict, names, isResponse⟩ := ResponseModel.validate_eq_some accepted
      exact .inr ⟨response, fields, rfl, by simpa using isDict, names, isResponse⟩

/-- Only the contract is raised for a body exactly if the interpreter takes it. -/
theorem answers_parseResponse_iff {model : ResponseModel Float Response} {invalid : String}
    {body : List UInt8}
    (readsBack : ∀ value read, (∀ keys, .members keys ∈ JsonTree.pieces 0 value → keys.Nodup) →
      (∀ piece ∈ value.pieces 0, ¬ Unwritable format interpreter piece) →
      reading.fromJson (value.write format) = some read → read = value) :
    Answers format model (parseResponse format interpreter reading model invalid) body ↔
      Ordinary format interpreter body := by
  by_cases admitted : Admitted body
  case neg =>
    exact iff_of_true (.inr ⟨_, by simp [parseResponse, parseClosedJson, admitted]; rfl⟩)
      fun other => absurd other admitted
  cases decoded : decodeUtf8 body with
  | none =>
      refine iff_of_true
        (.inr ⟨_, by simp [parseResponse, parseClosedJson, admitted, decoded]; rfl⟩)
        fun _ text isText => ?_
      rw [decoded] at isText
      cases isText
  | some text =>
      -- Past the checks of the bytes, both sides are about this text.
      have ordinary_iff : Ordinary format interpreter body ↔ _ :=
        ⟨fun all => all admitted text decoded, fun all _ other isText => by
          rw [decoded] at isText
          cases isText
          exact all⟩
      rw [ordinary_iff]
      have failed : ∀ {failure}, loads format interpreter text = .error failure →
          parseResponse format interpreter reading model invalid body = .error failure := by
        intro failure loaded
        simp only [parseResponse, parseClosedJson, admitted, decoded, loaded, rejectIf]
        rfl
      have isObject : ∀ {members}, loads format interpreter text = .ok (.dict members) →
          parseResponse format interpreter reading model invalid body =
            validateObject format interpreter reading model invalid members := by
        intro members loaded
        simp only [parseResponse, parseClosedJson, admitted, decoded, loaded, rejectIf]
        rfl
      have noObject : ∀ {value}, loads format interpreter text = .ok value →
          (∀ members, value ≠ .dict members) →
          parseResponse format interpreter reading model invalid body =
            .error (.contract "connector JSON top-level value must be an object") := by
        intro value loaded other
        simp only [parseResponse, parseClosedJson, admitted, decoded, loaded, rejectIf]
        cases value with
        | dict members => exact absurd rfl (other members)
        | _ => rfl
      rcases raiseFirst_cases (decodingRefusal interpreter) (readJson format text).events with
        ⟨passed, clear⟩ | ⟨before, piece, after, failure, raised, split, refused, clear⟩
      case inr =>
        have loaded : loads format interpreter text = .error failure := by rw [loads, raised]; rfl
        have contract : Answers format model
            (parseResponse format interpreter reading model invalid) body ↔
              ∃ message, failure = .contract message := by
          rw [Answers, failed loaded]
          simp
        rw [contract, raised_contract_iff split refused clear]
        refine ⟨fun first => ⟨first, fun members _ allowed => ?_⟩, And.left⟩
        obtain ⟨message, rfl⟩ := (raised_contract_iff split refused clear).mpr first
        rcases decodingRefusal_eq_some refused with ⟨forbidden, -⟩ | ⟨-, other⟩
        · exact absurd forbidden (allowed piece (by simp [split]))
        · exact absurd rfl (other message)
      have first : ∀ before piece after, (readJson format text).events = before ++ piece :: after →
          Oversized interpreter piece → ∃ earlier ∈ before, Forbidden earlier :=
        fun before piece after split oversized =>
          absurd oversized (decodingRefusal_eq_none.mp (clear piece (by simp [split]))).1
      have allowed : ∀ piece ∈ (readJson format text).events, ¬ Forbidden piece :=
        fun piece among => (decodingRefusal_eq_none.mp (clear piece among)).2
      have loaded : loads format interpreter text = (readJson format text).outcome.mapError fun _ =>
          .contract "connector JSON is malformed" := by
        rw [loads, passed]
        rfl
      cases ended : (readJson format text).outcome with
      | error problem =>
          rw [ended] at loaded
          exact iff_of_true (.inr ⟨_, failed loaded⟩) ⟨first, by rintro _ ⟨⟩⟩
      | ok value =>
          rw [ended] at loaded
          cases value with
          | dict members =>
              have distinct : ∀ keys, .members keys ∈ (JsonTree.dict members).pieces 0 →
                  keys.Nodup := by
                intro keys among
                have fits := allowed _ (noted_readJson ended 0 keys among)
                simpa [Forbidden] using fits
              rcases validateObject_cases model invalid
                fun read => readsBack (.dict members) read distinct with
                ⟨failure, raised, other, piece, among, unwritable⟩ | ⟨fits, answered⟩
              · refine iff_of_false ?_ fun ordinary =>
                  ordinary.2 members rfl allowed piece among unwritable
                rw [Answers, (isObject loaded).trans raised]
                simpa using other
              refine iff_of_true ?_ ⟨first, fun others isDict _ => by cases isDict; exact fits⟩
              rcases answered with refused | ⟨response, fields, accepted, isDict, names, isRead⟩
              · exact .inr ⟨invalid, (isObject loaded).trans refused⟩
              · refine .inl ⟨response, (isObject loaded).trans accepted, admitted, text, fields,
                  members, decoded, ended, isDict, names, isRead, allowed, fun value among => ?_⟩
                simpa [Unwritable] using fits _ among
          | _ =>
              exact iff_of_true (.inr ⟨_, noObject loaded (by rintro _ ⟨⟩)⟩)
                ⟨first, by rintro _ ⟨⟩⟩

/-- Both parsers raise only the contract for a body, and accept only what it holds, exactly if the
interpreter takes the body. What is read back of a written object is that object. -/
theorem onlyContractRaised_iff {Float : Type} (format : FloatFormat Float)
    (interpreter : Interpreter) (reading : ModelReading Float)
    (readsBack : ∀ value read, (∀ keys, .members keys ∈ JsonTree.pieces 0 value → keys.Nodup) →
      (∀ piece ∈ value.pieces 0, ¬ Unwritable format interpreter piece) →
      reading.fromJson (value.write format) = some read → read = value)
    (body : List UInt8) :
    (Answers format (deliveryModel reading)
        (parseRuntimeConnectorDeliveryResponse format interpreter reading) body ↔
      Ordinary format interpreter body) ∧
    (Answers format (observationModel reading)
        (parseRuntimeConnectorObservationResponse format interpreter reading) body ↔
      Ordinary format interpreter body) :=
  ⟨answers_parseResponse_iff readsBack, answers_parseResponse_iff readsBack⟩

end Models

namespace ResponseSample

/-- Floats of which one literal is out of range. -/
def floats : FloatFormat Bool where
  read literal := literal ≠ "1e999".toList
  finite := id
  write _ := "1.5".toList

/-- An interpreter that nests a thousand collections. -/
def interpreter : Interpreter := { decodingDepth := 1000, encodingDepth := 1000 }

/-- The text of an object without fields. -/
def emptyObject : Text := [Char.ofNat 0x7b, Char.ofNat 0x7d]

/-- A reading that knows the object without fields. -/
def reading : ModelReading Bool where
  fromJson text := if text = codePoints emptyObject then some (.dict []) else none
  uuid _ := none
  datetime _ := none

/-- An object with a float that is out of range. -/
def outOfRange : List UInt8 := utf8 "\x7b\"a\":1e999\x7d"

/-- No other value is written like the object without fields. -/
theorem eq_empty_of_write {value : JsonTree Bool}
    (written : value.write floats = codePoints emptyObject) : value = .dict [] := by
  cases value with
  | null | real | string | list =>
      simp [JsonTree.write, JsonTree.writeString, JsonTree.writeCollection, codePoints,
        emptyObject, floats] at written
  | boolean value =>
      cases value <;> simp [JsonTree.write, codePoints, emptyObject] at written
  | integer value =>
      have texts := List.map_injective_iff.mpr (fun _ _ => Char.toNat_inj.mp) written
      have last : Char.ofNat 0x7d ∈ Nat.toDigits 10 value.natAbs := by
        have inside : Char.ofNat 0x7d ∈ emptyObject := by decide
        rw [← texts] at inside
        split_ifs at inside <;> simpa using inside
      exact absurd (Nat.isDigit_of_mem_toDigits (by decide) (by decide) last) (by decide)
  | dict members =>
      cases members with
      | nil => rfl
      | cons member rest =>
          cases others : JsonTree.writtenMembers floats rest <;>
            simp [JsonTree.write, JsonTree.writtenMembers, JsonTree.writeString,
              JsonTree.writeCollection, codePoints, emptyObject, others] at written

end ResponseSample

open ResponseSample

/-- An object without fields is refused by the contract. -/
theorem onlyContractRaised_iff_emptyObject :
    Ordinary ResponseSample.floats ResponseSample.interpreter (utf8 "\x7b\x7d") := by
  refine (onlyContractRaised_iff ResponseSample.floats ResponseSample.interpreter
    ResponseSample.reading ?_ (utf8 "\x7b\x7d")).1.mp
      (.inr ⟨"connector delivery response contract is invalid", by decide +kernel⟩)
  intro value read _ _ isRead
  obtain ⟨written, isDict⟩ := Option.ite_none_right_eq_some.mp isRead
  obtain rfl : JsonTree.dict [] = read := Option.some.inj isDict
  rw [eq_empty_of_write written]

/-- A float that is out of range raises another exception. -/
theorem not_onlyContractRaised :
    parseRuntimeConnectorDeliveryResponse ResponseSample.floats ResponseSample.interpreter
        ResponseSample.reading ResponseSample.outOfRange = .error .valueError ∧
      ¬ Answers ResponseSample.floats (deliveryModel ResponseSample.reading)
        (parseRuntimeConnectorDeliveryResponse ResponseSample.floats ResponseSample.interpreter
          ResponseSample.reading) ResponseSample.outOfRange := by
  have raised : parseRuntimeConnectorDeliveryResponse ResponseSample.floats
      ResponseSample.interpreter ResponseSample.reading ResponseSample.outOfRange =
        .error .valueError := by decide +kernel
  refine ⟨raised, ?_⟩
  rw [Answers, raised]
  simp

end PolicyOS.Runtime.Connector.Responses
