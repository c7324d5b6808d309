import PolicyOS.Knowledge.Chunking

/-!
# Rows of the knowledge tables

Sources, documents, versions, chunks and citations, with the constraints their tables
declare. A row is inserted if it keeps them; otherwise the database raises.
-/

namespace PolicyOS.Knowledge

open Foundation

/-! ## Sources, documents and versions -/

/-- The state of a source. -/
inductive SourceStatus
  | active | disabled | archived
  deriving DecidableEq, Repr

/-- The state of a document or a version. -/
inductive DocumentStatus
  | pending | active | superseded | failed | archived
  deriving DecidableEq, Repr

/-- How far a version is chunked. -/
inductive ChunkingStatus
  | pending | running | succeeded | failed
  deriving DecidableEq, Repr

/-- Where documents come from. -/
structure KnowledgeSource where
  id : UUID
  organizationId : UUID
  sourceType : Text
  name : Text
  externalId : Option Text := none
  classification : DataClassification
  status : SourceStatus := .active
  sourceTypeBound : sourceType.length ≤ 50 := by decide
  nameBound : name.length ≤ 300 := by decide
  externalIdBound : ∀ external ∈ externalId, external.length ≤ 500 := by
    first | exact textBound_none | decide
  deriving DecidableEq

/-- A value of the metadata of a document: absent, of the type its reader needs, or of
another one. -/
inductive MetadataValue (Value : Type)
  | absent
  | given (value : Value)
  | mistyped
  deriving DecidableEq

/-- The value that is given. -/
def MetadataValue.value? {Value : Type} : MetadataValue Value → Option Value
  | .absent => none
  | .given value => some value
  | .mistyped => none

/-- What a citation takes from the metadata of a document. Dates are in ISO format. -/
structure CitationMetadata where
  meetingDate : MetadataValue Text := .absent
  fiscalYear : MetadataValue Int := .absent
  issuingAuthority : MetadataValue Text := .absent
  sourceUrl : MetadataValue Text := .absent
  deriving DecidableEq

/-- A document. -/
structure KnowledgeDocument where
  id : UUID
  organizationId : UUID
  sourceId : UUID
  externalId : Option Text := none
  title : Text
  classification : DataClassification
  status : DocumentStatus := .active
  metadata : CitationMetadata := {}
  titleBound : title.length ≤ 500 := by decide
  externalIdBound : ∀ external ∈ externalId, external.length ≤ 500 := by
    first | exact textBound_none | decide
  deriving DecidableEq

/-- A version of a document. -/
structure KnowledgeDocumentVersion where
  id : UUID
  organizationId : UUID
  documentId : UUID
  version : Nat
  contentHash : Digest
  parsedContent : Option Text
  sections : List ParsedSection := []
  normalizationVersion : Text := "1.0.0".toList
  chunkingStatus : ChunkingStatus := .pending
  activeChunkingConfigHash : Option Digest := none
  classification : DataClassification
  effectiveDate : Option Text := none
  status : DocumentStatus := .active
  versionBounds : 1 ≤ version ∧ version < 2 ^ 31 := by decide
  deriving DecidableEq

/-! ## Chunks and citations -/

/-- The state of a chunk. -/
inductive ChunkStatus
  | pending | active | failed | archived
  deriving DecidableEq, Repr

/-- The state of a citation. -/
inductive CitationStatus
  | active | invalidated | archived
  deriving DecidableEq, Repr

/-- A chunk of a version. -/
structure KnowledgeChunk where
  id : UUID
  organizationId : UUID
  documentVersionId : UUID
  ordinal : Nat
  chunkingConfigHash : Digest
  chunkingStrategyVersion : Text
  normalizationVersion : Text
  pageStart : Option Nat
  pageEnd : Option Nat
  sectionPath : Option Text
  heading : Option Text
  sourceLocator : Option Text
  sourceBlockStart : Nat
  sourceBlockEnd : Nat
  tokenEstimate : Nat
  characterCount : Nat
  content : Text
  contentHash : Digest
  classification : DataClassification
  status : ChunkStatus := .active
  deriving DecidableEq

/-- The length of a text that may be missing is bounded. -/
def Fits (maximum : Nat) (text : Option Text) : Prop := ∀ given ∈ text, given.length ≤ maximum

instance (maximum : Nat) (text : Option Text) : Decidable (Fits maximum text) :=
  inferInstanceAs (Decidable (∀ given ∈ text, given.length ≤ maximum))

/-- The integers a column holds. -/
def Counts (numbers : List Nat) : Prop := ∀ number ∈ numbers, number < 2 ^ 31

instance (numbers : List Nat) : Decidable (Counts numbers) :=
  inferInstanceAs (Decidable (∀ number ∈ numbers, number < 2 ^ 31))

/-- The integers of a chunk. -/
def KnowledgeChunk.numbers (chunk : KnowledgeChunk) : List Nat :=
  [chunk.ordinal, chunk.sourceBlockStart, chunk.sourceBlockEnd, chunk.tokenEstimate,
    chunk.characterCount] ++ chunk.pageStart.toList ++ chunk.pageEnd.toList

/-- The columns and the checks of a chunk. -/
def KnowledgeChunk.Checked (chunk : KnowledgeChunk) : Prop :=
  chunk.chunkingStrategyVersion.length ≤ 50 ∧ chunk.normalizationVersion.length ≤ 50 ∧
    Fits 1000 chunk.sectionPath ∧ Fits 500 chunk.heading ∧ Fits 1000 chunk.sourceLocator ∧
      Counts chunk.numbers ∧ chunk.sourceBlockStart ≤ chunk.sourceBlockEnd

instance (chunk : KnowledgeChunk) : Decidable chunk.Checked :=
  inferInstanceAs (Decidable (_ ∧ _ ∧ _ ∧ _ ∧ _ ∧ _ ∧ _))

/-- Two chunks share a primary key, or an ordinal or a content of one version and
configuration. -/
def KnowledgeChunk.Conflicts (chunk other : KnowledgeChunk) : Prop :=
  chunk.id = other.id ∨
    (chunk.organizationId, chunk.documentVersionId, chunk.chunkingConfigHash) =
        (other.organizationId, other.documentVersionId, other.chunkingConfigHash) ∧
      (chunk.ordinal = other.ordinal ∨ chunk.contentHash = other.contentHash)

instance (chunk other : KnowledgeChunk) : Decidable (chunk.Conflicts other) :=
  inferInstanceAs (Decidable (_ ∨ _ ∧ _))

/-- A citation of a chunk. -/
structure CitationReference where
  id : UUID
  organizationId : UUID
  sourceId : UUID
  documentId : UUID
  documentVersionId : UUID
  chunkId : Option UUID
  sourceType : Text
  title : Text
  version : Nat
  contentHash : Digest
  classification : DataClassification
  page : Option Text
  «section» : Option Text
  pageStart : Option Nat
  pageEnd : Option Nat
  sectionPath : Option Text
  heading : Option Text
  externalSourceId : Option Text
  sourceUrl : Option Text
  internalReference : Option Text
  label : Option Text
  status : CitationStatus := .active
  deriving DecidableEq

/-- The columns of a citation. -/
def CitationReference.Checked (citation : CitationReference) : Prop :=
  citation.sourceType.length ≤ 50 ∧ citation.title.length ≤ 500 ∧ Fits 100 citation.page ∧
    Fits 500 citation.section ∧ Fits 1000 citation.sectionPath ∧ Fits 500 citation.heading ∧
      Fits 500 citation.externalSourceId ∧ Fits 2000 citation.sourceUrl ∧
        Fits 500 citation.internalReference ∧ Fits 500 citation.label ∧
          Counts (citation.version :: citation.pageStart.toList ++ citation.pageEnd.toList)

instance (citation : CitationReference) : Decidable citation.Checked :=
  inferInstanceAs (Decidable (_ ∧ _ ∧ _ ∧ _ ∧ _ ∧ _ ∧ _ ∧ _ ∧ _ ∧ _ ∧ _))

/-- Two citations share a primary key or are of one chunk. A chunk that is missing is never
the same. -/
def CitationReference.Conflicts (citation other : CitationReference) : Prop :=
  citation.id = other.id ∨
    citation.organizationId = other.organizationId ∧
      ∃ chunk ∈ citation.chunkId, other.chunkId = some chunk

instance (citation other : CitationReference) : Decidable (citation.Conflicts other) :=
  inferInstanceAs (Decidable (_ ∨ _ ∧ ∃ chunk ∈ citation.chunkId, other.chunkId = some chunk))

/-! ## The store -/

/-- The rows of the tables. -/
structure KnowledgeStore where
  sources : List KnowledgeSource
  documents : List KnowledgeDocument
  versions : List KnowledgeDocumentVersion
  chunks : List KnowledgeChunk := []
  citations : List CitationReference := []
  deriving DecidableEq

/-- What the database raises of a row. -/
inductive IntegrityError
  | foreignKey
  | check
  | unique
  deriving DecidableEq, Repr

namespace KnowledgeStore

variable (store : KnowledgeStore)

/-- The version of an organization. -/
def version? (organizationId id : UUID) : Option KnowledgeDocumentVersion :=
  store.versions.find? fun row => row.id = id ∧ row.organizationId = organizationId

/-- The document of an organization. -/
def document? (organizationId id : UUID) : Option KnowledgeDocument :=
  store.documents.find? fun row => row.id = id ∧ row.organizationId = organizationId

/-- The source of an organization. -/
def source? (organizationId id : UUID) : Option KnowledgeSource :=
  store.sources.find? fun row => row.id = id ∧ row.organizationId = organizationId

/-- The chunk of an organization. -/
def chunk? (organizationId id : UUID) : Option KnowledgeChunk :=
  store.chunks.find? fun row => row.id = id ∧ row.organizationId = organizationId

/-- Insert a chunk. -/
def insertChunk (chunk : KnowledgeChunk) : Except IntegrityError KnowledgeStore := do
  rejectIf (¬ chunk.Checked) .check
  rejectIf (∃ other ∈ store.chunks, chunk.Conflicts other) .unique
  rejectIf (store.version? chunk.organizationId chunk.documentVersionId = none) .foreignKey
  pure { store with chunks := store.chunks ++ [chunk] }

/-- Insert a citation. -/
def insertCitation (citation : CitationReference) : Except IntegrityError KnowledgeStore := do
  rejectIf (¬ citation.Checked) .check
  rejectIf (∃ other ∈ store.citations, citation.Conflicts other) .unique
  rejectIf (store.source? citation.organizationId citation.sourceId = none) .foreignKey
  rejectIf (store.document? citation.organizationId citation.documentId = none) .foreignKey
  rejectIf (store.version? citation.organizationId citation.documentVersionId = none) .foreignKey
  rejectIf (∃ chunk ∈ citation.chunkId, store.chunk? citation.organizationId chunk = none)
    .foreignKey
  pure { store with citations := store.citations ++ [citation] }

/-- Change a version. -/
def setVersion (organizationId id : UUID)
    (change : KnowledgeDocumentVersion → KnowledgeDocumentVersion) : KnowledgeStore :=
  { store with versions := store.versions.map fun row =>
      if row.id = id ∧ row.organizationId = organizationId then change row else row }

end KnowledgeStore

end PolicyOS.Knowledge

/-!
# Citations

A citation is labelled by the kind of its source.
-/

namespace PolicyOS.Knowledge

open Foundation

/-- What a citation is labelled from. -/
structure CitationContext where
  sourceTitle : Text
  sourceType : Text
  version : Nat
  locator : LocatorFields
  effectiveDate : Option Text
  meetingDate : Option Text
  fiscalYear : Option Int
  issuingAuthority : Option Text

/-- The kinds of sources that are labelled apart. -/
inductive SourceKind
  | law | ordinance | minutes | budget | other
  deriving DecidableEq

theorem lawfulText : LawfulBEq Text := inferInstance

attribute [local instance] lawfulText in
/-- The kind of a source by its type, whatever the case of its letters. -/
def sourceKind (sourceType : Text) : SourceKind :=
  let lowered := sourceType.map Char.toLower
  if lowered ∈ ["law".toList, "statute".toList, "regulation".toList] then .law
  else if lowered ∈ ["ordinance".toList, "local_ordinance".toList] then .ordinance
  else if lowered ∈ ["minutes".toList, "meeting_minutes".toList] then .minutes
  else if lowered ∈ ["budget".toList, "budget_document".toList] then .budget
  else .other

/-- The parts that are not empty, after commas. -/
def joinParts (parts : List (Option Text)) : Text :=
  Text.join ", ".toList ((parts.filterMap id).filter (· ≠ []))

/-- The section a chunk is in, else its heading. -/
def LocatorFields.place (locator : LocatorFields) : Option Text :=
  (locator.sectionPath.filter (· ≠ [])).or locator.heading

/-- The pages of a chunk. -/
def LocatorFields.pages (locator : LocatorFields) : Option Text :=
  locator.pageStart.map fun first =>
    match locator.pageEnd with
    | some last => pagesText first last
    | none => pagesText first first

/-- The label of a citation. -/
def CitationContext.label (context : CitationContext) : Text :=
  let title := some context.sourceTitle
  match sourceKind context.sourceType with
  | .law => joinParts [title, context.issuingAuthority, context.locator.place,
      context.effectiveDate.map ("effective ".toList ++ ·)]
  | .ordinance => joinParts [title, context.locator.place]
  | .minutes => joinParts [title, context.meetingDate, context.locator.pages]
  | .budget => joinParts [title,
      context.fiscalYear.map fun year => "FY ".toList ++ (toString year).toList,
      context.locator.place, context.locator.pages]
  | .other => joinParts [title, some ("version ".toList ++ (toString context.version).toList),
      context.locator.place, context.locator.pages]

end PolicyOS.Knowledge
