import PolicyOS.Foundation.Transition
import PolicyOS.Knowledge.Ingestion

/-!
# Ingestion jobs

A call that takes a file into a source commits several times: the row of its job is committed at
the beginning and whenever the call comes further, the document and the version with the last
commit. Other calls may take their turns between two statements that read the tables. What a
transaction inserts is seen by others, and compared with their rows, when it commits: until then
the keys it inserts are locked.
-/

namespace PolicyOS.Knowledge

open Foundation

/-! ## Exceptions -/

/-- The classes of ingestion errors. -/
inductive IngestionErrorClass
  | ingestionError | parserError | unsupportedDocumentType | documentTooLarge | duplicateDocument
  | invalidDocument | malwareDetected | malwareScannerUnavailable | knowledgeSourceNotFound
  deriving DecidableEq, Repr

/-- The code of a class. -/
def IngestionErrorClass.code : IngestionErrorClass → String
  | .ingestionError => "ingestion_error"
  | .parserError => "parser_error"
  | .unsupportedDocumentType => "unsupported_document_type"
  | .documentTooLarge => "document_too_large"
  | .duplicateDocument => "duplicate_document"
  | .invalidDocument => "invalid_document"
  | .malwareDetected => "malware_detected"
  | .malwareScannerUnavailable => "malware_scanner_unavailable"
  | .knowledgeSourceNotFound => "knowledge_source_not_found"

/-- What is raised: a timeout, an ingestion error, or any other exception. -/
inductive IngestionException
  | timeout
  | ingestion (error : IngestionErrorClass)
  | other
  deriving DecidableEq, Repr

/-- The state of a job. -/
inductive IngestionStatus
  | pending | scanning | parsing | succeeded | failed | duplicate | rejected
  deriving DecidableEq, Repr

/-- The state a job is left in. -/
def IngestionException.jobStatus : IngestionException → IngestionStatus
  | .timeout | .ingestion .parserError | .other => .failed
  | .ingestion _ => .rejected

/-- The error code a job is left with. -/
def IngestionException.errorCode : IngestionException → String
  | .timeout => "ingestion_timeout"
  | .ingestion error => error.code
  | .other => "ingestion_failed"

/-- What the caller gets. -/
def IngestionException.surfaced : IngestionException → IngestionException
  | .timeout | .other => .ingestion .parserError
  | .ingestion error => .ingestion error

/-! ## Tables -/

/-- The row of a job. -/
structure KnowledgeIngestionJob where
  id : UUID
  organizationId : UUID
  sourceId : UUID
  documentId : Option UUID := none
  status : IngestionStatus := .pending
  contentHash : Option Digest := none
  errorCode : Option String := none
  deriving DecidableEq

/-- The knowledge tables and the jobs. -/
structure IngestionTables where
  knowledge : KnowledgeStore
  jobs : List KnowledgeIngestionJob := []
  deriving DecidableEq

/-- Change the row of a job. -/
def IngestionTables.setJob (tables : IngestionTables) (id : UUID)
    (change : KnowledgeIngestionJob → KnowledgeIngestionJob) : IngestionTables :=
  { tables with jobs := tables.jobs.map fun job => if job.id = id then change job else job }

/-! ## Calls -/

/-- A file and what validation, the scanner and the parser make of it, with the identifiers that
are drawn for new rows. -/
structure IngestionRequest where
  organizationId : UUID
  sourceId : UUID
  externalSourceId : Option Text := none
  title : Option Text := none
  classification : DataClassification
  effectiveDate : Option Text := none
  validated : Except IngestionException ValidatedDocument
  scanned : Except IngestionException Unit := .ok ()
  parsed : Except IngestionException ParsedDocument
  jobId : UUID
  documentId : UUID
  versionId : UUID

/-- The file of a request. -/
def IngestionRequest.file (request : IngestionRequest) : IngestFile where
  organizationId := request.organizationId
  sourceId := request.sourceId
  externalSourceId := request.externalSourceId
  title := request.title
  classification := request.classification
  effectiveDate := request.effectiveDate
  validated := request.validated.mapError fun _ => .refused
  parsed := request.parsed.mapError fun _ => .refused
  documentId := request.documentId
  versionId := request.versionId

/-- The external identifier of the document a file belongs to. -/
def IngestionRequest.documentExternalId (request : IngestionRequest)
    (validated : ValidatedDocument) : Text :=
  orElse request.externalSourceId validated.filename

/-- What a call returns. -/
structure IngestionResult where
  status : IngestionStatus
  jobId : UUID
  documentId : Option UUID := none
  documentVersionId : Option UUID := none
  version : Option Nat := none
  duplicateOfVersionId : Option UUID := none
  contentHash : Option Digest := none
  deriving DecidableEq

/-- How far a call has come: the last of its statements that others can notice, or how it ended. A
call that is refused has no job. -/
inductive IngestionPhase
  | idle
  | validating (request : IngestionRequest)
  | scanning (request : IngestionRequest) (validated : ValidatedDocument)
  | parsing (request : IngestionRequest) (validated : ValidatedDocument)
  | filed (request : IngestionRequest) (validated : ValidatedDocument) (parsed : ParsedDocument)
      (found : Option KnowledgeDocument)
  | numbered (request : IngestionRequest) (validated : ValidatedDocument)
      (parsed : ParsedDocument) (found : Option KnowledgeDocument) (number : Nat)
  | failing (request : IngestionRequest) (exception : IngestionException)
  | refused (request : IngestionRequest) (exception : IngestionException)
  | raised (request : IngestionRequest) (exception : IngestionException)
  | returned (request : IngestionRequest) (result : IngestionResult)

/-- A call begins, is abandoned before it has a job, goes on, or an exception is raised where it
stands. -/
inductive IngestionAct
  | begin (request : IngestionRequest)
  | abandon (request : IngestionRequest)
  | proceed
  | fail

/-- The source is read and the job committed. -/
def beginIngestion (tables : IngestionTables) (request : IngestionRequest) :
    IngestionTables × IngestionPhase :=
  match request.file.source? tables.knowledge with
  | none => (tables, .refused request (.ingestion .knowledgeSourceNotFound))
  | some source =>
      if request.classification.rank < source.classification.rank then
        (tables, .refused request (.ingestion .invalidDocument))
      else if ∃ job ∈ tables.jobs, job.id = request.jobId then (tables, .refused request .other)
      else
        ({ tables with jobs := tables.jobs ++ [{
            id := request.jobId
            organizationId := request.organizationId
            sourceId := source.id }] },
          .validating request)

/-- The file is validated and its hash committed. -/
def validateIngestion (tables : IngestionTables) (request : IngestionRequest) :
    IngestionTables × IngestionPhase :=
  match request.validated with
  | .error exception => (tables, .failing request exception)
  | .ok validated =>
      (tables.setJob request.jobId fun job =>
          { job with status := .scanning, contentHash := some validated.sha256 },
        .scanning request validated)

/-- The file is scanned, and compared with what its source has. -/
def scanIngestion (tables : IngestionTables) (request : IngestionRequest)
    (validated : ValidatedDocument) : IngestionTables × IngestionPhase :=
  match request.scanned with
  | .error exception => (tables, .failing request exception)
  | .ok () =>
      match request.file.duplicate? tables.knowledge validated with
      | some duplicate =>
          (tables.setJob request.jobId fun job =>
              { job with status := .duplicate, documentId := some duplicate.documentId },
            .returned request {
              status := .duplicate
              jobId := request.jobId
              documentId := some duplicate.documentId
              duplicateOfVersionId := some duplicate.id
              contentHash := some validated.sha256 })
      | none =>
          (tables.setJob request.jobId fun job => { job with status := .parsing },
            .parsing request validated)

/-- The file is parsed, and its document looked up. -/
def parseIngestion (tables : IngestionTables) (request : IngestionRequest)
    (validated : ValidatedDocument) : IngestionTables × IngestionPhase :=
  match request.parsed with
  | .error exception => (tables, .failing request exception)
  | .ok parsed =>
      (tables, .filed request validated parsed (request.file.existing? tables.knowledge validated))

/-- The document a version belongs to: the one that was found, or the one that is made. -/
def IngestionRequest.targetId (request : IngestionRequest) (found : Option KnowledgeDocument) :
    UUID :=
  (found.map (·.id)).getD request.documentId

/-- A version with a number that was read. -/
def numberedVersion (document : KnowledgeDocument) (number : Nat) (content : VersionContent) :
    Except IntegrityError KnowledgeDocumentVersion :=
  if bound : 1 ≤ number ∧ number < 2 ^ 31 then
    .ok {
      id := content.id
      organizationId := document.organizationId
      documentId := document.id
      version := number
      contentHash := content.contentHash
      parsedContent := content.parsedContent
      sections := content.sections
      normalizationVersion := content.normalizationVersion
      classification := content.classification
      effectiveDate := content.effectiveDate
      versionBounds := bound }
  else .error .check

/-- The document, if it is new, and the version are inserted. -/
def IngestionRequest.insertRows (request : IngestionRequest) (validated : ValidatedDocument)
    (parsed : ParsedDocument) (found : Option KnowledgeDocument) (number : Nat)
    (store : KnowledgeStore) :
    Except IntegrityError (KnowledgeDocument × KnowledgeDocumentVersion × KnowledgeStore) := do
  let made := newDocument request.documentId request.organizationId request.sourceId
    (some (request.documentExternalId validated)) (orElse request.title validated.filename)
    request.classification parsed.metadata
  let (document, store) ← store.withDocument found made
  let version ← numberedVersion document number {
    id := request.versionId
    contentHash := validated.sha256
    parsedContent := some parsed.text
    sections := parsed.sections
    normalizationVersion := parsed.normalizationVersion
    effectiveDate := request.effectiveDate
    classification := request.classification }
  let store ← store.insertVersion version
  pure (document, version, store)

/-- The document, the version and the end of the job are committed. -/
def storeIngestion (tables : IngestionTables) (request : IngestionRequest)
    (validated : ValidatedDocument) (parsed : ParsedDocument) (found : Option KnowledgeDocument)
    (number : Nat) : IngestionTables × IngestionPhase :=
  match request.insertRows validated parsed found number tables.knowledge with
  | .error _ => (tables, .failing request .other)
  | .ok (document, version, store) =>
      ({ tables with knowledge := store }.setJob request.jobId fun job =>
          { job with status := .succeeded, documentId := some document.id },
        .returned request {
          status := .succeeded
          jobId := request.jobId
          documentId := some document.id
          documentVersionId := some version.id
          version := some number
          contentHash := some validated.sha256 })

/-- The failure is recorded with the job. -/
def recordFailure (tables : IngestionTables) (request : IngestionRequest)
    (exception : IngestionException) : IngestionTables × IngestionPhase :=
  (tables.setJob request.jobId fun job =>
      if job.organizationId = request.organizationId then
        { job with status := exception.jobStatus, errorCode := some exception.errorCode }
      else job,
    .raised request exception.surfaced)

/-- One turn of a call. -/
def ingestionTurn (tables : IngestionTables) :
    IngestionPhase → IngestionAct → Option (IngestionTables × IngestionPhase)
  | .idle, .begin request => some (beginIngestion tables request)
  | .idle, .abandon request => some (tables, .refused request .other)
  | .validating request, .proceed => some (validateIngestion tables request)
  | .scanning request validated, .proceed => some (scanIngestion tables request validated)
  | .parsing request validated, .proceed => some (parseIngestion tables request validated)
  | .filed request validated parsed found, .proceed =>
      some (tables, .numbered request validated parsed found
        (tables.knowledge.nextVersion request.organizationId (request.targetId found)))
  | .numbered request validated parsed found number, .proceed =>
      some (storeIngestion tables request validated parsed found number)
  | .validating request, .fail | .scanning request _, .fail | .parsing request _, .fail
  | .filed request _ _ _, .fail | .numbered request _ _ _ _, .fail =>
      some (tables, .failing request .other)
  | .failing request exception, .proceed => some (recordFailure tables request exception)
  -- the job is left as it was if its failure cannot be recorded
  | .failing request _, .fail => some (tables, .raised request .other)
  | _, _ => none

end PolicyOS.Knowledge
