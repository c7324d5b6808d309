import Mathlib.Data.Fintype.Basic
import PolicyOS.Domain.Identifiers
import PolicyOS.Foundation.Transition
import PolicyOS.Foundation.SortedBy
import PolicyOS.Knowledge.Models

/-!
# Persistence of chunks

A version is chunked under a configuration once. The version is marked as running and
committed; then the chunks and their citations are inserted one after the other, and the
version is marked as succeeded. Whatever is raised in between is rolled back, and the
version is marked as failed.
-/

namespace PolicyOS.Knowledge

open Foundation

/-- What a call raises. -/
inductive ChunkVersionError
  | notFound (message : String)
  | notReady (message : String)
  | chunking (error : ChunkingError)
  | integrity (error : IntegrityError)
  deriving DecidableEq, Repr

/-- What a call returns. -/
structure PersistedChunkingResult where
  documentVersionId : UUID
  configHash : Digest
  chunkIds : List UUID
  citationIds : List UUID
  idempotent : Bool
  deriving DecidableEq

/-- Whom a version is chunked for. The settings are a configuration; a new chunk and its
citation get identifiers by their place. -/
structure ChunkVersionCall where
  documentVersionId : UUID
  organizationId : UUID
  config : Option ChunkingConfig := none
  settings : ChunkingConfig := .standard
  newIds : Nat → UUID × UUID

/-- The configuration of the settings for a version. -/
def settingsConfig (settings : ChunkingConfig) (version : KnowledgeDocumentVersion) :
    Except ChunkVersionError ChunkingConfig :=
  buildChecked
    (rejectIf (¬ (1 ≤ version.normalizationVersion.length ∧
        version.normalizationVersion.length ≤ 50))
      (.chunking (.validation "String should have at most 50 characters")))
    fun bounded =>
      { settings with
        normalizationVersion := version.normalizationVersion
        normalizationBounds := not_not.mp (rejectIf_eq_ok_iff.mp bounded) }

/-- The given configuration, else that of the settings. -/
def ChunkVersionCall.selectedConfig (call : ChunkVersionCall)
    (version : KnowledgeDocumentVersion) : Except ChunkVersionError ChunkingConfig :=
  match call.config with
  | some config => pure config
  | none => settingsConfig call.settings version

/-- The sections of a version; its content is one if it has none. -/
def parsedSections (version : KnowledgeDocumentVersion) : List ParsedSection :=
  if version.sections = [] then [{ text := version.parsedContent.getD [] }]
  else version.sections

/-- The request to chunk a version. -/
def chunkingRequest (version : KnowledgeDocumentVersion) (config : ChunkingConfig) :
    ChunkingRequest where
  organizationId := version.organizationId
  documentVersionId := version.id
  dataClassification := version.classification
  sections := parsedSections version
  config := config

/-! ## Rows -/

/-- The row of a chunk. -/
def chunkRow (version : KnowledgeDocumentVersion) (id : UUID) (candidate : ChunkCandidate) :
    KnowledgeChunk where
  id := id
  organizationId := version.organizationId
  documentVersionId := version.id
  ordinal := candidate.chunkIndex
  chunkingConfigHash := candidate.chunkingConfigHash
  chunkingStrategyVersion := candidate.chunkingStrategyVersion
  normalizationVersion := candidate.normalizationVersion
  pageStart := candidate.locator.pageStart
  pageEnd := candidate.locator.pageEnd
  sectionPath := candidate.locator.sectionPath
  heading := candidate.locator.heading
  sourceLocator := candidate.locator.sourceLocator
  sourceBlockStart := candidate.sourceBlockStart
  sourceBlockEnd := candidate.sourceBlockEnd
  tokenEstimate := candidate.tokenEstimate
  characterCount := candidate.characterCount
  content := candidate.content
  contentHash := candidate.contentHash
  classification := version.classification

/-- What the citation of a chunk is labelled from. -/
def citationContext (source : KnowledgeSource) (document : KnowledgeDocument)
    (version : KnowledgeDocumentVersion) (locator : LocatorFields) : CitationContext where
  sourceTitle := document.title
  sourceType := source.sourceType
  version := version.version
  locator := locator
  effectiveDate := version.effectiveDate
  meetingDate := document.metadata.meetingDate.value?
  fiscalYear := document.metadata.fiscalYear.value?
  issuingAuthority := document.metadata.issuingAuthority.value?

/-- The title and the type of a citation are not empty, and the metadata it reads is typed. -/
def Citable (source : KnowledgeSource) (document : KnowledgeDocument) : Prop :=
  document.title ≠ [] ∧ source.sourceType ≠ [] ∧
    document.metadata.meetingDate ≠ .mistyped ∧ document.metadata.fiscalYear ≠ .mistyped ∧
      document.metadata.issuingAuthority ≠ .mistyped ∧ document.metadata.sourceUrl ≠ .mistyped

instance (source : KnowledgeSource) (document : KnowledgeDocument) :
    Decidable (Citable source document) :=
  inferInstanceAs (Decidable (_ ∧ _ ∧ _ ∧ _ ∧ _ ∧ _))

/-- How a citation refers to a chunk. -/
def internalReference (document : KnowledgeDocument) (version : KnowledgeDocumentVersion)
    (chunkId : UUID) : Text :=
  "knowledge:".toList ++ uuidChars document.id ++ ':' :: (toString version.version).toList ++
    ':' :: uuidChars chunkId

/-- The row of a citation. -/
def citationRow (source : KnowledgeSource) (document : KnowledgeDocument)
    (version : KnowledgeDocumentVersion) (id : UUID) (chunk : KnowledgeChunk)
    (locator : LocatorFields) : CitationReference where
  id := id
  organizationId := version.organizationId
  sourceId := source.id
  documentId := document.id
  documentVersionId := version.id
  chunkId := some chunk.id
  sourceType := source.sourceType
  title := document.title
  version := version.version
  contentHash := chunk.contentHash
  classification := version.classification
  page := locator.pageStart.map fun page => (toString page).toList
  «section» := locator.sectionPath
  pageStart := locator.pageStart
  pageEnd := locator.pageEnd
  sectionPath := locator.sectionPath
  heading := locator.heading
  externalSourceId := document.externalId
  sourceUrl := document.metadata.sourceUrl.value?
  internalReference := some (internalReference document version chunk.id)
  label := some (citationContext source document version locator).label

/-! ## Calls -/

/-- Insert a chunk and its citation. -/
def persistChunk (source : KnowledgeSource) (document : KnowledgeDocument)
    (version : KnowledgeDocumentVersion) (ids : UUID × UUID) (store : KnowledgeStore)
    (candidate : ChunkCandidate) : Except ChunkVersionError KnowledgeStore := do
  let chunk := chunkRow version ids.1 candidate
  let store ← (store.insertChunk chunk).mapError .integrity
  rejectIf (¬ Citable source document)
    (.chunking (.validation "1 validation error for CitationContext"))
  let citation := citationRow source document version ids.2 chunk
    candidate.locator.toLocatorFields
  (store.insertCitation citation).mapError .integrity

/-- Insert the chunks, each with the identifiers of its place. -/
def persistChunks (source : KnowledgeSource) (document : KnowledgeDocument)
    (version : KnowledgeDocumentVersion) (newIds : Nat → UUID × UUID) :
    KnowledgeStore → List ChunkCandidate → Except ChunkVersionError KnowledgeStore
  | store, [] => pure store
  | store, candidate :: rest => do
      let next ← persistChunk source document version (newIds candidate.chunkIndex) store candidate
      persistChunks source document version newIds next rest

variable (hashing : Hashing)

/-- A version that is chunked so far. -/
def KnowledgeDocumentVersion.withStatus (status : ChunkingStatus)
    (version : KnowledgeDocumentVersion) : KnowledgeDocumentVersion :=
  { version with chunkingStatus := status }

/-- A version that is chunked under a configuration. -/
def KnowledgeDocumentVersion.chunkedUnder (configHash : Digest)
    (version : KnowledgeDocumentVersion) : KnowledgeDocumentVersion :=
  { version with chunkingStatus := .succeeded, activeChunkingConfigHash := some configHash }

/-- Mark how far a version is chunked. -/
def KnowledgeStore.mark (store : KnowledgeStore) (version : KnowledgeDocumentVersion)
    (status : ChunkingStatus) : KnowledgeStore :=
  store.setVersion version.organizationId version.id (·.withStatus status)

/-- Chunk a version and insert the chunks, up to the commit. -/
def attemptChunking (call : ChunkVersionCall) (store : KnowledgeStore)
    (source : KnowledgeSource) (document : KnowledgeDocument)
    (version : KnowledgeDocumentVersion) (config : ChunkingConfig) :
    Except ChunkVersionError (KnowledgeStore × PersistedChunkingResult) := do
  let result ← (chunkDocument hashing (chunkingRequest version config)).mapError .chunking
  let stored ← persistChunks source document version call.newIds store result.chunks
  let marked := stored.setVersion version.organizationId version.id
    (·.chunkedUnder (hashing.configHash config))
  pure (marked,
    { documentVersionId := version.id
      configHash := hashing.configHash config
      chunkIds := result.chunks.map fun chunk => (call.newIds chunk.chunkIndex).1
      citationIds := result.chunks.map fun chunk => (call.newIds chunk.chunkIndex).2
      idempotent := false })

/-- The chunks of a version under a configuration, in their order. -/
def KnowledgeStore.existing (store : KnowledgeStore) (version : KnowledgeDocumentVersion)
    (configHash : Digest) : List KnowledgeChunk :=
  sortedBy (·.ordinal) (store.chunks.filter fun row =>
    row.organizationId = version.organizationId ∧ row.documentVersionId = version.id ∧
      row.chunkingConfigHash = configHash)

/-- What is returned of chunks that are there. -/
def idempotentResult (store : KnowledgeStore) (version : KnowledgeDocumentVersion)
    (configHash : Digest) (existing : List KnowledgeChunk) : PersistedChunkingResult where
  documentVersionId := version.id
  configHash := configHash
  chunkIds := existing.map (·.id)
  citationIds := (store.citations.filter fun row => row.organizationId = version.organizationId ∧
    ∃ chunk ∈ row.chunkId, chunk ∈ existing.map (·.id)).map (·.id)
  idempotent := true

/-- What a call reads before it does anything: the version, its document, its source and the
configuration. -/
def readCall (call : ChunkVersionCall) (store : KnowledgeStore) :
    Except ChunkVersionError
      (KnowledgeSource × KnowledgeDocument × KnowledgeDocumentVersion × ChunkingConfig) :=
  match store.version? call.organizationId call.documentVersionId with
  | none => .error (.notFound "Knowledge document version was not found")
  | some version => do
      rejectIf (version.status ≠ .active ∨ version.parsedContent.getD [] = [])
        (.notReady "Knowledge document version is not ready")
      match store.document? call.organizationId version.documentId with
      | none => .error (.notFound "Knowledge document was not found")
      | some document =>
          match store.source? call.organizationId document.sourceId with
          | none => .error (.notFound "Knowledge source was not found")
          | some source => do
              let config ← call.selectedConfig version
              pure (source, document, version, config)

/-- Commit what an attempt stored, or roll it back and mark the version as failed. -/
def settleAttempt (running : KnowledgeStore) (version : KnowledgeDocumentVersion) :
    Except ChunkVersionError (KnowledgeStore × PersistedChunkingResult) →
      KnowledgeStore × Except ChunkVersionError PersistedChunkingResult
  | .ok (stored, result) => (stored, .ok result)
  | .error error => (running.mark version .failed, .error error)

/-- Chunk a version under a configuration, unless it is chunked. Returns what is stored
afterwards with the result or the error of the call. -/
def chunkVersion (call : ChunkVersionCall) (store : KnowledgeStore) :
    KnowledgeStore × Except ChunkVersionError PersistedChunkingResult :=
  match readCall call store with
  | .error error => (store, .error error)
  | .ok (source, document, version, config) =>
      let existing := store.existing version (hashing.configHash config)
      if existing ≠ [] then
        (store, .ok (idempotentResult store version (hashing.configHash config) existing))
      else
        let running := store.mark version .running
        settleAttempt running version
          (attemptChunking hashing call running source document version config)

end PolicyOS.Knowledge

/-!
# Interleaved calls that chunk a version

The calls of one version take turns: each reads its rows, looks for chunks, marks the version
as running, attempts to chunk it and, if that fails, marks it as failed. Every turn ends with
a commit or reads what is committed, so between two turns of a call the others may commit.
-/

namespace PolicyOS.Knowledge

open Foundation

/-- A call with the rows it has read and its configuration. -/
structure OpenCall where
  call : ChunkVersionCall
  source : KnowledgeSource
  document : KnowledgeDocument
  version : KnowledgeDocumentVersion
  config : ChunkingConfig

/-- How far a call is. -/
inductive CallPhase
  | idle
  | reading (opened : OpenCall)
  | found (opened : OpenCall) (existing : List KnowledgeChunk)
  | unchunked (opened : OpenCall)
  | running (opened : OpenCall)
  | failing (opened : OpenCall)
  | finished

/-- What a call does in a turn. It may also raise while it attempts to chunk, or end without a
result at any time: cancelled, or with an error that is not handled. -/
inductive CallTurn
  | begin (call : ChunkVersionCall)
  | look
  | reply
  | mark
  | attempt
  | raise
  | handle
  | cancel

/-- What is committed; the configuration of the call that wrote the status of the version last;
and the result of the call that finished last, if it returned one. -/
structure ChunkTables where
  store : KnowledgeStore
  lastWriter : Option Digest := none
  lastResult : Option PersistedChunkingResult := none

/-- The chunks of a version under a configuration. -/
def KnowledgeStore.chunksUnder (store : KnowledgeStore) (version : KnowledgeDocumentVersion)
    (configHash : Digest) : List KnowledgeChunk :=
  store.chunks.filter fun row =>
    row.organizationId = version.organizationId ∧ row.documentVersionId = version.id ∧
      row.chunkingConfigHash = configHash

namespace CallPhase

/-- What a call has read, until it is finished. -/
def opened? : CallPhase → Option OpenCall
  | idle | finished => none
  | reading opened | found opened _ | unchunked opened | running opened | failing opened =>
      some opened

/-- What a call has read that found no chunks and may still write. -/
def writer? : CallPhase → Option OpenCall
  | idle | finished | reading _ | found _ _ => none
  | unchunked opened | running opened | failing opened => some opened

/-- What a call has read that found chunks. -/
def finder? : CallPhase → Option OpenCall
  | found opened _ => some opened
  | idle | finished | reading _ | unchunked _ | running _ | failing _ => none

end CallPhase

variable (hashing : Hashing)

/-- The hash of the configuration of a call. -/
def OpenCall.configHash (opened : OpenCall) : Digest := hashing.configHash opened.config

namespace ChunkTables

variable (tables : ChunkTables)

/-- The call that finishes returned a result, or none. -/
def finish (result : Option PersistedChunkingResult) : ChunkTables :=
  { tables with lastResult := result }

/-- A call marks the version. -/
def mark (opened : OpenCall) (status : ChunkingStatus) : ChunkTables :=
  { tables with
    store := tables.store.mark opened.version status
    lastWriter := some (opened.configHash hashing) }

/-- What a call has committed with its chunks and its result. -/
def committed (opened : OpenCall) (stored : KnowledgeStore) (result : PersistedChunkingResult) :
    ChunkTables where
  store := stored
  lastWriter := some (opened.configHash hashing)
  lastResult := some result

end ChunkTables

/-- The turns of a call. -/
def chunkTurn (target : KnowledgeDocumentVersion) (tables : ChunkTables) (phase : CallPhase) :
    CallTurn → Option (ChunkTables × CallPhase)
  | .begin call =>
      match phase with
      | .idle =>
          if call.documentVersionId = target.id ∧ call.organizationId = target.organizationId then
            match readCall call tables.store with
            | .error _ => some (tables.finish none, .finished)
            | .ok (source, document, version, config) =>
                some (tables, .reading { call, source, document, version, config })
          else none
      | _ => none
  | .look =>
      match phase with
      | .reading opened =>
          let existing := tables.store.existing opened.version (opened.configHash hashing)
          some (tables, if existing = [] then .unchunked opened else .found opened existing)
      | _ => none
  | .reply =>
      match phase with
      | .found opened existing =>
          some (tables.finish (some (idempotentResult tables.store opened.version
            (opened.configHash hashing) existing)), .finished)
      | _ => none
  | .mark =>
      match phase with
      | .unchunked opened =>
          -- The session writes a column only if its value is another than the one it read.
          if opened.version.chunkingStatus = .running then some (tables, .running opened)
          else some (tables.mark hashing opened .running, .running opened)
      | _ => none
  | .attempt =>
      match phase with
      | .running opened =>
          match attemptChunking hashing opened.call tables.store opened.source opened.document
              opened.version opened.config with
          | .ok (stored, result) => some (.committed hashing opened stored result, .finished)
          | .error _ => some (tables, .failing opened)
      | _ => none
  | .raise =>
      match phase with
      | .running opened => some (tables, .failing opened)
      | _ => none
  | .handle =>
      match phase with
      | .failing opened =>
          some ((tables.mark hashing opened .failed).finish none, .finished)
      | _ => none
  | .cancel =>
      match phase.opened? with
      | some _ => some (tables.finish none, .finished)
      | none => none

/-- The calls of a version, of which no chunks are stored at first. -/
def chunkTurns (target : KnowledgeDocumentVersion) : Turns ChunkTables CallPhase CallTurn where
  Initial tables :=
    tables.store.version? target.organizationId target.id = some target ∧
      (∀ configHash, tables.store.chunksUnder target configHash = []) ∧
        tables.lastWriter = none ∧ tables.lastResult = none
  idle := .idle
  turn := chunkTurn hashing target

/-- What a call has to be careful of: a call that finds no chunks is the only one under its
configuration that may write, and a call that found its chunks returns only if no call under
another configuration was the last to write the status. -/
def Undisturbed {Id : Type} (parties : Parties Id ChunkTables CallPhase) (label : Id × CallTurn)
    (_ : Parties Id ChunkTables CallPhase) : Prop :=
  match parties.locals label.1, label.2 with
  | .reading opened, .look =>
      parties.shared.store.existing opened.version (opened.configHash hashing) = [] →
        ∀ other, other ≠ label.1 → ∀ writer ∈ (parties.locals other).writer?,
          writer.configHash hashing ≠ opened.configHash hashing
  | .found opened _, .reply => parties.shared.lastWriter = some (opened.configHash hashing)
  | _, _ => True

instance {Id : Type} [DecidableEq Id] [Fintype Id] (parties later : Parties Id ChunkTables CallPhase)
    (label : Id × CallTurn) : Decidable (Undisturbed hashing parties label later) := by
  unfold Undisturbed
  split <;> infer_instance

end PolicyOS.Knowledge
