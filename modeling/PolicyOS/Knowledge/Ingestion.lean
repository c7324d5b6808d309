import PolicyOS.Knowledge.Models

/-!
# Ingestion of documents

Documents are stored by two services: one takes files into a source that exists, the other takes
the records of a connector and creates the source when it stores the first one. Each creates a
document with its first version, and adds versions to it later. A call that raises leaves the
tables as they were.
-/

namespace PolicyOS.Knowledge

open Foundation

/-! ## Rows -/

namespace KnowledgeStore

variable (store : KnowledgeStore)

/-- Insert a source. A missing external identifier is never the same. -/
def insertSource (source : KnowledgeSource) : Except IntegrityError KnowledgeStore := do
  rejectIf (∃ other ∈ store.sources, source.id = other.id ∨
    source.organizationId = other.organizationId ∧ (source.name = other.name ∨
      source.sourceType = other.sourceType ∧
        ∃ external ∈ source.externalId, other.externalId = some external)) .unique
  pure { store with sources := store.sources ++ [source] }

/-- Insert a document. -/
def insertDocument (document : KnowledgeDocument) : Except IntegrityError KnowledgeStore := do
  rejectIf (∃ other ∈ store.documents, document.id = other.id ∨
    (document.organizationId = other.organizationId ∧ document.sourceId = other.sourceId ∧
      ∃ external ∈ document.externalId, other.externalId = some external)) .unique
  rejectIf (store.source? document.organizationId document.sourceId = none) .foreignKey
  pure { store with documents := store.documents ++ [document] }

/-- Insert a version. -/
def insertVersion (version : KnowledgeDocumentVersion) : Except IntegrityError KnowledgeStore := do
  rejectIf (∃ other ∈ store.versions, version.id = other.id ∨
    (version.organizationId = other.organizationId ∧ version.documentId = other.documentId ∧
      (version.version = other.version ∨ version.contentHash = other.contentHash))) .unique
  rejectIf (store.document? version.organizationId version.documentId = none) .foreignKey
  pure { store with versions := store.versions ++ [version] }

/-- The number after the highest version of a document. -/
def nextVersion (organizationId documentId : UUID) : Nat :=
  ((store.versions.filter fun row => row.organizationId = organizationId ∧
    row.documentId = documentId).map (·.version)).foldl max 0 + 1

end KnowledgeStore

/-- What is stored of a version besides where it belongs. -/
structure VersionContent where
  id : UUID
  contentHash : Digest
  parsedContent : Option Text
  sections : List ParsedSection := []
  normalizationVersion : Text := "1.0.0".toList
  effectiveDate : Option Text := none
  classification : DataClassification

/-- A document is made if its texts fit. -/
def newDocument (id organizationId sourceId : UUID) (externalId : Option Text) (title : Text)
    (classification : DataClassification) (metadata : CitationMetadata) :
    Except IntegrityError KnowledgeDocument :=
  if bounds : title.length ≤ 500 ∧ ∀ external ∈ externalId, external.length ≤ 500 then
    .ok {
      id, organizationId, sourceId, externalId, title, classification, metadata
      titleBound := bounds.1
      externalIdBound := bounds.2 }
  else .error .check

/-- A version follows the others of its document. -/
def newVersion (store : KnowledgeStore) (document : KnowledgeDocument)
    (content : VersionContent) : Except IntegrityError KnowledgeDocumentVersion :=
  let number := store.nextVersion document.organizationId document.id
  if bound : number < 2 ^ 31 then
    .ok {
      id := content.id
      organizationId := document.organizationId
      documentId := document.id
      version := number
      contentHash := content.contentHash
      parsedContent := content.parsedContent
      sections := content.sections
      normalizationVersion := content.normalizationVersion
      classification := content.classification
      effectiveDate := content.effectiveDate
      versionBounds := ⟨Nat.le_add_left .., bound⟩ }
  else .error .check

/-- A document is found, or made and inserted. -/
def KnowledgeStore.withDocument (store : KnowledgeStore) (found : Option KnowledgeDocument)
    (made : Except IntegrityError KnowledgeDocument) :
    Except IntegrityError (KnowledgeDocument × KnowledgeStore) :=
  match found with
  | some document => pure (document, store)
  | none => do
      let document ← made
      let store ← store.insertDocument document
      pure (document, store)

/-- A version is made and inserted. -/
def KnowledgeStore.addVersion (store : KnowledgeStore) (document : KnowledgeDocument)
    (content : VersionContent) :
    Except IntegrityError (KnowledgeDocumentVersion × KnowledgeStore) := do
  let version ← newVersion store document content
  let store ← store.insertVersion version
  pure (version, store)

/-! ## Files -/

/-- Why a file is not stored. -/
inductive IngestionError
  | sourceNotFound
  | lowerThanSource
  | refused
  | integrity (error : IntegrityError)
  deriving DecidableEq, Repr

/-- A file that passed validation. -/
structure ValidatedDocument where
  filename : Text
  sha256 : Digest

/-- A file that was parsed and normalized. -/
structure ParsedDocument where
  text : Text
  sections : List ParsedSection := []
  normalizationVersion : Text := "1.0.0".toList
  metadata : CitationMetadata := {}

/-- A file and what validation, the scanner and the parser make of it, with the identifiers that
are drawn for new rows. -/
structure IngestFile where
  organizationId : UUID
  sourceId : UUID
  externalSourceId : Option Text := none
  title : Option Text := none
  classification : DataClassification
  effectiveDate : Option Text := none
  validated : Except IngestionError ValidatedDocument
  parsed : Except IngestionError ParsedDocument
  documentId : UUID
  versionId : UUID

/-- A text that is given and not empty, or another. -/
def orElse (text : Option Text) (other : Text) : Text := (text.filter (· ≠ [])).getD other

/-- The source of a file. -/
def IngestFile.source? (call : IngestFile) (store : KnowledgeStore) : Option KnowledgeSource :=
  store.sources.find? fun row =>
    row.id = call.sourceId ∧ row.organizationId = call.organizationId ∧ row.status = .active

/-- A version of its source with its content. -/
def IngestFile.duplicate? (call : IngestFile) (store : KnowledgeStore)
    (validated : ValidatedDocument) : Option KnowledgeDocumentVersion :=
  store.versions.find? fun row => row.organizationId = call.organizationId ∧
    row.contentHash = validated.sha256 ∧ ∃ document ∈ store.documents,
      document.id = row.documentId ∧ document.sourceId = call.sourceId

/-- The document of its source it is a version of. -/
def IngestFile.existing? (call : IngestFile) (store : KnowledgeStore)
    (validated : ValidatedDocument) : Option KnowledgeDocument :=
  store.documents.find? fun row => row.organizationId = call.organizationId ∧
    row.sourceId = call.sourceId ∧
      row.externalId = some (orElse call.externalSourceId validated.filename)

/-- A file is taken into a source. -/
def IngestFile.ingest (call : IngestFile) (store : KnowledgeStore) :
    Except IngestionError KnowledgeStore := do
  let source ← match call.source? store with
    | some source => pure source
    | none => .error .sourceNotFound
  rejectIf (call.classification.rank < source.classification.rank) .lowerThanSource
  let validated ← call.validated
  if (call.duplicate? store validated).isSome then pure store
  else
    let parsed ← call.parsed
    let title := orElse call.title validated.filename
    let made := newDocument call.documentId call.organizationId source.id
      (some (orElse call.externalSourceId validated.filename)) title call.classification
      parsed.metadata
    let (document, store) ←
      (store.withDocument (call.existing? store validated) made).mapError .integrity
    let (_, store) ← (store.addVersion document {
      id := call.versionId
      contentHash := validated.sha256
      parsedContent := some parsed.text
      sections := parsed.sections
      normalizationVersion := parsed.normalizationVersion
      effectiveDate := call.effectiveDate
      classification := call.classification }).mapError .integrity
    pure store

/-! ## Records of connectors -/

/-- A record of a connector, with the identifiers that are drawn for new rows. -/
structure IngestRecord where
  organizationId : UUID
  connectorName : Option Text
  externalSourceId : Option Text
  sourceType : Text
  title : Text
  content : Text
  contentHash : Digest
  classification : DataClassification
  sourceUrl : Option Text := none
  label : Option Text := none
  sourceId : UUID
  documentId : UUID
  versionId : UUID
  citationId : UUID

/-- The source of a connector. -/
def IngestRecord.source? (call : IngestRecord) (store : KnowledgeStore) : Option KnowledgeSource :=
  store.sources.find? fun row => row.organizationId = call.organizationId ∧
    row.sourceType = call.sourceType ∧ row.externalId = call.connectorName

/-- The document of a record. -/
def IngestRecord.document? (call : IngestRecord) (store : KnowledgeStore)
    (source : KnowledgeSource) : Option KnowledgeDocument :=
  store.documents.find? fun row => row.organizationId = call.organizationId ∧
    row.sourceId = source.id ∧ row.externalId = call.externalSourceId

/-- A version of a document with the content of a record. -/
def IngestRecord.duplicate? (call : IngestRecord) (store : KnowledgeStore)
    (document : KnowledgeDocument) : Option KnowledgeDocumentVersion :=
  store.versions.find? fun row => row.organizationId = call.organizationId ∧
    row.documentId = document.id ∧ row.contentHash = call.contentHash

/-- A source is made if its texts fit. -/
def IngestRecord.newSource (call : IngestRecord) : Except IntegrityError KnowledgeSource :=
  let name := "Connector: ".toList ++ call.connectorName.getD "None".toList
  if bounds : call.sourceType.length ≤ 50 ∧ name.length ≤ 300 ∧
      ∀ external ∈ call.connectorName, external.length ≤ 500 then
    .ok {
      id := call.sourceId
      organizationId := call.organizationId
      sourceType := call.sourceType
      name
      externalId := call.connectorName
      classification := call.classification
      sourceTypeBound := bounds.1
      nameBound := bounds.2.1
      externalIdBound := bounds.2.2 }
  else .error .check

/-- The source of a connector is found, or created with the classification of the record. -/
def IngestRecord.withSource (call : IngestRecord) (store : KnowledgeStore) :
    Except IntegrityError (KnowledgeSource × KnowledgeStore) :=
  match call.source? store with
  | some source => pure (source, store)
  | none => do
      let source ← call.newSource
      let store ← store.insertSource source
      pure (source, store)

/-- A record is stored. -/
def IngestRecord.ingest (call : IngestRecord) (store : KnowledgeStore) :
    Except IntegrityError KnowledgeStore := do
  let (source, store) ← call.withSource store
  let made := newDocument call.documentId call.organizationId source.id call.externalSourceId
    call.title call.classification {}
  let (document, store) ← store.withDocument (call.document? store source) made
  if (call.duplicate? store document).isSome then pure store
  else
    let (version, store) ← store.addVersion document {
      id := call.versionId
      contentHash := call.contentHash
      parsedContent := some call.content
      classification := call.classification }
    store.insertCitation {
      id := call.citationId
      organizationId := call.organizationId
      sourceId := source.id
      documentId := document.id
      documentVersionId := version.id
      chunkId := none
      sourceType := call.sourceType
      title := call.title
      version := version.version
      contentHash := call.contentHash
      classification := call.classification
      page := none
      «section» := none
      pageStart := none
      pageEnd := none
      sectionPath := none
      heading := none
      externalSourceId := call.externalSourceId
      sourceUrl := call.sourceUrl
      internalReference := none
      label := call.label }

end PolicyOS.Knowledge
