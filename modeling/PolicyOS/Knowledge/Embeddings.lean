import PolicyOS.Foundation.Batches
import PolicyOS.Foundation.OwnedRows
import PolicyOS.Foundation.SortedBy
import PolicyOS.Knowledge.Models

/-!
# Embeddings of chunks

The active chunks of a version that have no succeeded embedding are sent to a gateway in
batches. A batch that is answered is stored as succeeded, one that is refused as blocked or
failed, and all records of a run are committed at once.
-/

namespace PolicyOS.Knowledge

open Foundation

/-! ## Gateways -/

/-- The state of an embedding. -/
inductive EmbeddingStatus
  | pending | running | succeeded | failed | skipped | blocked
  deriving DecidableEq, Repr

/-- Why a gateway refuses. -/
inductive EmbeddingErrorCode
  | disabled | configuration | timeout | rateLimit | authentication | invalidRequest | connection
  | provider | invalidVector | privacyBlocked
  deriving DecidableEq, Repr

/-- What a gateway is asked. -/
structure EmbeddingRequest where
  organizationId : UUID
  documentVersionId : UUID
  chunkIds : List UUID
  texts : List Text
  provider : Text
  model : Text
  dimensions : Nat
  dataClassification : DataClassification
  deriving DecidableEq

/-- A request is well formed. -/
def EmbeddingRequest.Valid (request : EmbeddingRequest) : Prop :=
  request.chunkIds ≠ [] ∧ request.texts ≠ [] ∧
    (1 ≤ request.provider.length ∧ request.provider.length ≤ 50) ∧
      (1 ≤ request.model.length ∧ request.model.length ≤ 200) ∧
        (1 ≤ request.dimensions ∧ request.dimensions ≤ 65536) ∧
          request.chunkIds.length = request.texts.length ∧ ∀ text ∈ request.texts, text.strip ≠ []

instance (request : EmbeddingRequest) : Decidable request.Valid :=
  inferInstanceAs (Decidable (_ ∧ _ ∧ _ ∧ _ ∧ _ ∧ _ ∧ _))

variable (Vector : Type)

/-- What a gateway answers: a vector for each text, under a provider, a model and a number of
dimensions of its own. -/
structure EmbeddingResponse where
  vectors : List Vector
  provider : Text
  model : Text
  dimensions : Nat
  providerRequestId : Option Text := none
  inputTokens : Nat := 0
  retryCount : Nat := 0
  latencyMs : Nat := 0
  dimensionsPositive : 1 ≤ dimensions := by decide

/-- A gateway answers a batch or refuses it. -/
inductive GatewayAnswer
  | answered (response : EmbeddingResponse Vector)
  | refused (code : EmbeddingErrorCode)

/-- How chunks are embedded. -/
structure EmbeddingSettings where
  embeddingProvider : Text := "fake".toList
  openaiEmbeddingModel : Text := "text-embedding-3-small".toList
  openaiEmbeddingDimensions : Option Nat := some 1536
  embeddingBatchSize : Nat := 64
  embeddingPolicyVersion : Text := "1.0.0".toList
  providerKnown : embeddingProvider ∈ ["fake".toList, "disabled".toList, "openai".toList] := by
    decide
  dimensionsBounds : ∀ dimensions ∈ openaiEmbeddingDimensions,
    1 ≤ dimensions ∧ dimensions ≤ 65536 := by decide
  batchBounds : 1 ≤ embeddingBatchSize ∧ embeddingBatchSize ≤ 2048 := by decide

/-- The dimensions that are asked for. -/
def EmbeddingSettings.dimensions (settings : EmbeddingSettings) : Nat :=
  settings.openaiEmbeddingDimensions.getD 1536

/-- Whose version is embedded, and what the gateway answers to each batch. -/
structure EmbedCall where
  versionId : UUID
  organizationId : UUID
  settings : EmbeddingSettings
  gateway : Nat → EmbeddingRequest → GatewayAnswer Vector

/-! ## Rows -/

/-- What embeddings are unique by. -/
structure EmbeddingRevision where
  organizationId : UUID
  chunkId : UUID
  provider : Text
  model : Text
  dimensions : Nat
  embeddingContentHash : Digest
  policyVersion : Text
  deriving DecidableEq

/-- An embedding of a chunk. -/
structure KnowledgeChunkEmbedding where
  organizationId : UUID
  chunkId : UUID
  documentVersionId : UUID
  provider : Text
  model : Text
  dimensions : Nat
  vector : Option Vector
  embeddingContentHash : Digest
  chunkContentHash : Digest
  chunkingConfigHash : Digest
  policyVersion : Text
  classification : DataClassification
  status : EmbeddingStatus
  usageTokens : Nat
  inputCount : Nat
  latencyMs : Nat
  retryCount : Nat
  batchCount : Nat := 1
  providerRequestId : Option Text
  errorCode : Option EmbeddingErrorCode

/-- The tables of the chunks and of their embeddings. -/
structure EmbeddingTables where
  knowledge : KnowledgeStore
  embeddings : List (KnowledgeChunkEmbedding Vector) := []

variable {Vector}

/-- The columns and the checks of an embedding. -/
def KnowledgeChunkEmbedding.Checked (row : KnowledgeChunkEmbedding Vector) : Prop :=
  row.provider.length ≤ 50 ∧ row.model.length ≤ 200 ∧ row.policyVersion.length ≤ 50 ∧
    Fits 500 row.providerRequestId ∧ 0 < row.dimensions ∧
      Counts [row.dimensions, row.usageTokens, row.inputCount, row.latencyMs, row.retryCount,
        row.batchCount]

instance (row : KnowledgeChunkEmbedding Vector) : Decidable row.Checked :=
  inferInstanceAs (Decidable (_ ∧ _ ∧ _ ∧ _ ∧ _ ∧ _))

/-- The revision of a chunk that an embedding is of. -/
def KnowledgeChunkEmbedding.revision (row : KnowledgeChunkEmbedding Vector) :
    EmbeddingRevision where
  organizationId := row.organizationId
  chunkId := row.chunkId
  provider := row.provider
  model := row.model
  dimensions := row.dimensions
  embeddingContentHash := row.embeddingContentHash
  policyVersion := row.policyVersion

/-- Two embeddings are of one revision. -/
def KnowledgeChunkEmbedding.Conflicts (row other : KnowledgeChunkEmbedding Vector) : Prop :=
  row.revision = other.revision

instance (row other : KnowledgeChunkEmbedding Vector) : Decidable (row.Conflicts other) :=
  inferInstanceAs (Decidable (row.revision = other.revision))

/-- An embedding keeps its checks, and its chunk and version are stored. -/
def EmbeddingTables.checkRow (tables : EmbeddingTables Vector)
    (row : KnowledgeChunkEmbedding Vector) : Except IntegrityError Unit := do
  rejectIf (¬ row.Checked) .check
  rejectIf (tables.knowledge.chunk? row.organizationId row.chunkId = none) .foreignKey
  rejectIf (tables.knowledge.version? row.organizationId row.documentVersionId = none) .foreignKey

/-! ## A run -/

/-- What a run raises. -/
inductive EmbedError
  | notReady (message : String)
  | validation (message : String)
  | missingDocument
  | misaligned (message : String)
  | integrity (error : IntegrityError)
  deriving DecidableEq, Repr

/-- What a run returns. -/
structure EmbeddingBatchResult where
  status : EmbeddingStatus
  embeddedChunkIds : List UUID
  skippedChunkIds : List UUID
  failedChunkIds : List UUID
  inputTokens : Nat
  inputCount : Nat
  retryCount : Nat
  warnings : List String
  deriving DecidableEq

variable (hashing : Hashing)

/-- What an embedding of a chunk depends on. -/
def embeddingContentHash (chunk : KnowledgeChunk) (settings : EmbeddingSettings) : Digest :=
  hashing.sha256 (Text.join [Char.ofNat 31]
    [chunk.contentHash.val, chunk.chunkingConfigHash.val, chunk.normalizationVersion,
      chunk.chunkingStrategyVersion, settings.embeddingProvider, settings.openaiEmbeddingModel,
      (toString settings.dimensions).toList, settings.embeddingPolicyVersion])

/-- The active chunks of a version, in their order. -/
def KnowledgeStore.activeChunks (store : KnowledgeStore) (organizationId versionId : UUID) :
    List KnowledgeChunk :=
  sortedBy (·.ordinal) (store.chunks.filter fun row =>
    row.documentVersionId = versionId ∧ row.organizationId = organizationId ∧
      row.status = .active)

/-- A chunk has a succeeded embedding. -/
def EmbeddingTables.Embedded (tables : EmbeddingTables Vector) (call : EmbedCall Vector)
    (chunk : KnowledgeChunk) : Prop :=
  ∃ row ∈ tables.embeddings, row.organizationId = call.organizationId ∧ row.chunkId = chunk.id ∧
    row.embeddingContentHash = embeddingContentHash hashing chunk call.settings ∧
      row.status = .succeeded

instance (tables : EmbeddingTables Vector) (call : EmbedCall Vector) (chunk : KnowledgeChunk) :
    Decidable (tables.Embedded hashing call chunk) :=
  inferInstanceAs (Decidable (∃ row ∈ tables.embeddings, _ ∧ _ ∧ _ ∧ _))

/-- The chunks that are to be embedded. -/
def EmbeddingTables.pending (tables : EmbeddingTables Vector) (call : EmbedCall Vector) :
    List KnowledgeChunk :=
  (tables.knowledge.activeChunks call.organizationId call.versionId).filter
    (¬ tables.Embedded hashing call ·)

/-- The chunks that are embedded. -/
def EmbeddingTables.skipped (tables : EmbeddingTables Vector) (call : EmbedCall Vector) :
    List KnowledgeChunk :=
  (tables.knowledge.activeChunks call.organizationId call.versionId).filter
    (tables.Embedded hashing call ·)

/-- The request for a batch. -/
def EmbedCall.request (call : EmbedCall Vector) (version : KnowledgeDocumentVersion)
    (batch : List KnowledgeChunk) : EmbeddingRequest where
  organizationId := call.organizationId
  documentVersionId := version.id
  chunkIds := batch.map (·.id)
  texts := batch.map (·.content)
  provider := call.settings.embeddingProvider
  model := call.settings.openaiEmbeddingModel
  dimensions := call.settings.dimensions
  dataClassification := version.classification

/-- What the records of a batch have in common: an answer brings its own values, a refusal is
stored under those of the settings. -/
structure AttemptValues where
  provider : Text
  model : Text
  dimensions : Nat
  usageTokens : Nat := 0
  latencyMs : Nat := 0
  retryCount : Nat := 0
  providerRequestId : Option Text := none
  status : EmbeddingStatus
  errorCode : Option EmbeddingErrorCode := none

/-- The values of an answer. -/
def GatewayAnswer.values (answer : GatewayAnswer Vector) (settings : EmbeddingSettings) :
    AttemptValues :=
  match answer with
  | .answered response =>
      { provider := response.provider
        model := response.model
        dimensions := response.dimensions
        usageTokens := response.inputTokens
        latencyMs := response.latencyMs
        retryCount := response.retryCount
        providerRequestId := response.providerRequestId
        status := .succeeded }
  | .refused code =>
      { provider := settings.embeddingProvider
        model := settings.openaiEmbeddingModel
        dimensions := settings.dimensions
        status := if code = .privacyBlocked then .blocked else .failed
        errorCode := some code }

/-- The vectors of an answer for a batch: none where it is refused. -/
def GatewayAnswer.vectors (answer : GatewayAnswer Vector) (count : Nat) : List (Option Vector) :=
  match answer with
  | .answered response => response.vectors.map some
  | .refused _ => List.replicate count none

/-- The record of a chunk in a batch. -/
def embeddingRecord (call : EmbedCall Vector) (version : KnowledgeDocumentVersion)
    (inputCount : Nat) (values : AttemptValues) (chunk : KnowledgeChunk)
    (vector : Option Vector) : KnowledgeChunkEmbedding Vector where
  organizationId := call.organizationId
  chunkId := chunk.id
  documentVersionId := version.id
  provider := values.provider
  model := values.model
  dimensions := values.dimensions
  vector := vector
  embeddingContentHash := embeddingContentHash hashing chunk call.settings
  chunkContentHash := chunk.contentHash
  chunkingConfigHash := chunk.chunkingConfigHash
  policyVersion := call.settings.embeddingPolicyVersion
  classification := chunk.classification
  status := values.status
  usageTokens := values.usageTokens
  inputCount := inputCount
  latencyMs := values.latencyMs
  retryCount := values.retryCount
  providerRequestId := values.providerRequestId
  errorCode := values.errorCode

/-- What became of a batch. -/
structure BatchReport (Vector : Type) where
  records : List (KnowledgeChunkEmbedding Vector)
  embedded : List UUID := []
  failed : List UUID := []
  tokens : Nat := 0
  retries : Nat := 0

/-- Ask the gateway for a batch. -/
def embedBatch (call : EmbedCall Vector) (version : KnowledgeDocumentVersion)
    (document : Option KnowledgeDocument) (batch : List KnowledgeChunk × Nat) :
    Except EmbedError (BatchReport Vector) := do
  let request := call.request version batch.1
  rejectIf (¬ request.Valid) (.validation "1 validation error for EmbeddingRequest")
  let answer := call.gateway batch.2 request
  let records := List.zipWith
    (embeddingRecord hashing call version batch.1.length (answer.values call.settings)) batch.1
    (answer.vectors batch.1.length)
  match answer with
  | .answered response =>
      rejectIf (document = none) .missingDocument
      rejectIf (response.vectors.length ≠ batch.1.length)
        (.misaligned "zip() argument 2 is of another length than argument 1")
      pure
        { records := records
          embedded := batch.1.map (·.id)
          tokens := response.inputTokens
          retries := response.retryCount }
  | .refused _ => pure { records := records, failed := batch.1.map (·.id) }

/-- What a run returns of its batches. -/
def batchResult (skipped pending : List KnowledgeChunk) (reports : List (BatchReport Vector)) :
    EmbeddingBatchResult :=
  let embedded := reports.flatMap (·.embedded)
  let failed := reports.flatMap (·.failed)
  { status := if embedded ≠ [] ∧ failed = [] then .succeeded
      else if failed ≠ [] then .failed else .skipped
    embeddedChunkIds := embedded
    skippedChunkIds := skipped.map (·.id)
    failedChunkIds := failed
    inputTokens := (reports.map (·.tokens)).sum
    inputCount := pending.length
    retryCount := (reports.map (·.retries)).sum
    warnings := if embedded ≠ [] ∧ failed ≠ [] then ["One or more embedding batches failed"]
      else [] }

/-- The batches of a run, each with its number. -/
def EmbeddingTables.batches (tables : EmbeddingTables Vector) (call : EmbedCall Vector) :
    List (List KnowledgeChunk × Nat) :=
  (Foundation.batches call.settings.embeddingBatchSize (tables.pending hashing call)).zipIdx

/-- Embed the active chunks of a version that are not embedded. Returns what is committed with
the result; whatever is raised, nothing is. -/
def embedVersion (call : EmbedCall Vector) (tables : EmbeddingTables Vector) :
    Except EmbedError (EmbeddingTables Vector × EmbeddingBatchResult) :=
  match tables.knowledge.version? call.organizationId call.versionId with
  | none => .error (.notReady "Knowledge version is not ready for embedding")
  | some version => do
      rejectIf (version.chunkingStatus ≠ .succeeded)
        (.notReady "Knowledge version is not ready for embedding")
      let document := tables.knowledge.document? call.organizationId version.documentId
      let reports ← collectEach (embedBatch hashing call version document)
        (tables.batches hashing call)
      let embeddings ← (insertRows tables.checkRow KnowledgeChunkEmbedding.Conflicts .unique
        tables.embeddings (reports.flatMap (·.records))).mapError .integrity
      pure ({ tables with embeddings := embeddings },
        batchResult (tables.skipped hashing call) (tables.pending hashing call) reports)

/-- What is committed after a run. -/
def committedAfter (call : EmbedCall Vector) (tables : EmbeddingTables Vector) :
    EmbeddingTables Vector :=
  match embedVersion hashing call tables with
  | .ok (after, _) => after
  | .error _ => tables

end PolicyOS.Knowledge
