import PolicyOS.Domain.Identifiers
import PolicyOS.Foundation.Transition
import PolicyOS.Knowledge.Ingestion

/-!
# Inherited classifications

A document is to be no less protected than its source, and a version no less than its document.
Whatever is inserted keeps the tables linked, so a row that is inserted is compared with one
parent only. A call keeps the classifications inherited exactly if what it stores is no lower
than the parent it finds.
-/

namespace PolicyOS.Knowledge

open Foundation

/-- Every document has its source and every version its document, each by its identifier. -/
structure Linked (store : KnowledgeStore) : Prop where
  sourceIds : (store.sources.map (·.id)).Nodup
  documentIds : (store.documents.map (·.id)).Nodup
  source : ∀ document ∈ store.documents, ∃ source ∈ store.sources, source.id = document.sourceId
  document : ∀ version ∈ store.versions, ∃ document ∈ store.documents,
    document.id = version.documentId

/-- No child is less protected than its parent: no document than its source, and no version than
its document or its source. -/
structure Inherits (store : KnowledgeStore) : Prop where
  document : ∀ document ∈ store.documents, ∀ source ∈ store.sources,
    source.id = document.sourceId → notLower document.classification source.classification
  version : ∀ version ∈ store.versions, ∀ document ∈ store.documents,
    document.id = version.documentId → notLower version.classification document.classification
  versionSource : ∀ version ∈ store.versions, ∀ document ∈ store.documents,
    document.id = version.documentId → ∀ source ∈ store.sources, source.id = document.sourceId →
      notLower version.classification source.classification

/-- A version is no lower than the source of its document if each is no lower than its parent. -/
theorem inherits_iff {store : KnowledgeStore} :
    Inherits store ↔
      (∀ document ∈ store.documents, ∀ source ∈ store.sources, source.id = document.sourceId →
        notLower document.classification source.classification) ∧
      ∀ version ∈ store.versions, ∀ document ∈ store.documents,
        document.id = version.documentId →
          notLower version.classification document.classification := by
  refine ⟨fun inherits => ⟨inherits.document, inherits.version⟩, fun ⟨ofSource, ofDocument⟩ =>
    ⟨ofSource, ofDocument, ?_⟩⟩
  intro version isVersion document isDocument isOf source isSource isFrom
  exact le_trans (ofSource document isDocument source isSource isFrom)
    (ofDocument version isVersion document isDocument isOf)

variable {store after : KnowledgeStore} {source : KnowledgeSource} {document : KnowledgeDocument}
  {version : KnowledgeDocumentVersion}

/-! ## What is inserted -/

theorem nodup_concat {Row : Type} {id : Row → UUID} {rows : List Row} {row : Row}
    (distinct : (rows.map id).Nodup) (fresh : ∀ other ∈ rows, id row ≠ id other) :
    ((rows ++ [row]).map id).Nodup := by
  rw [((List.perm_append_singleton row rows).map id).nodup_iff, List.map_cons, List.nodup_cons]
  refine ⟨fun isId => ?_, distinct⟩
  obtain ⟨other, isOther, same⟩ := List.mem_map.mp isId
  exact fresh other isOther same.symm

/-- A new source is the source of no document. -/
theorem Linked.insertSource (linked : Linked store)
    (inserted : store.insertSource source = .ok after) :
    Linked after ∧ (Inherits after ↔ Inherits store) ∧
      (∀ document ∈ store.documents, source.id ≠ document.sourceId) ∧
        after = { store with sources := store.sources ++ [source] } := by
  simp only [KnowledgeStore.insertSource, bind_eq_ok_iff, exists_unit_iff, rejectIf_eq_ok_iff,
    pure_eq_ok_iff, not_exists, not_and] at inserted
  obtain ⟨fresh, rfl⟩ := inserted
  have new : ∀ other ∈ store.sources, source.id ≠ other.id := fun other isOther same =>
    fresh other isOther (.inl same)
  have unused : ∀ document ∈ store.documents, source.id ≠ document.sourceId := by
    intro document isDocument same
    obtain ⟨other, isOther, isSource⟩ := linked.source document isDocument
    exact new other isOther (same.trans isSource.symm)
  refine ⟨⟨nodup_concat linked.sourceIds new, linked.documentIds, ?_, linked.document⟩, ?_,
    unused, rfl⟩
  · intro document isDocument
    obtain ⟨other, isOther, isSource⟩ := linked.source document isDocument
    exact ⟨other, List.mem_append_left _ isOther, isSource⟩
  · rw [inherits_iff, inherits_iff]
    refine and_congr_left fun _ => forall₂_congr fun document isDocument => ?_
    rw [List.forall_mem_append, List.forall_mem_singleton]
    exact and_iff_left fun isOf => absurd isOf (unused document isDocument)

/-- A new document has no version, and is compared with its source. -/
theorem Linked.insertDocument (linked : Linked store)
    (inserted : store.insertDocument document = .ok after) :
    Linked after ∧ (Inherits after ↔ Inherits store ∧ ∀ source ∈ store.sources,
        source.id = document.sourceId →
          notLower document.classification source.classification) ∧
      (∀ version ∈ store.versions, document.id ≠ version.documentId) ∧
        after = { store with documents := store.documents ++ [document] } := by
  simp only [KnowledgeStore.insertDocument, bind_eq_ok_iff, exists_unit_iff, rejectIf_eq_ok_iff,
    pure_eq_ok_iff, not_exists, not_and] at inserted
  obtain ⟨fresh, sourced, rfl⟩ := inserted
  have new : ∀ other ∈ store.documents, document.id ≠ other.id := fun other isOther same =>
    fresh other isOther (.inl same)
  have unused : ∀ version ∈ store.versions, document.id ≠ version.documentId := by
    intro version isVersion same
    obtain ⟨other, isOther, isDocument⟩ := linked.document version isVersion
    exact new other isOther (same.trans isDocument.symm)
  refine ⟨⟨linked.sourceIds, nodup_concat linked.documentIds new, ?_, ?_⟩, ?_, unused, rfl⟩
  · rw [List.forall_mem_append, List.forall_mem_singleton]
    refine ⟨linked.source, ?_⟩
    obtain ⟨found, isFound⟩ := Option.ne_none_iff_exists'.mp sourced
    have matched := List.find?_some isFound
    simp only [decide_eq_true_eq] at matched
    exact ⟨found, List.mem_of_find?_eq_some isFound, matched.1⟩
  · intro version isVersion
    obtain ⟨other, isOther, isDocument⟩ := linked.document version isVersion
    exact ⟨other, List.mem_append_left _ isOther, isDocument⟩
  · rw [inherits_iff, inherits_iff, List.forall_mem_append, List.forall_mem_singleton, and_right_comm]
    refine and_congr_left fun _ => and_congr_right fun _ =>
      forall₂_congr fun version isVersion => ?_
    rw [List.forall_mem_append, List.forall_mem_singleton]
    exact and_iff_left fun isOf => absurd isOf (unused version isVersion)

/-- A new version is compared with its document. -/
theorem Linked.insertVersion (linked : Linked store)
    (inserted : store.insertVersion version = .ok after) :
    Linked after ∧ (Inherits after ↔ Inherits store ∧ ∀ document ∈ store.documents,
        document.id = version.documentId →
          notLower version.classification document.classification) := by
  simp only [KnowledgeStore.insertVersion, bind_eq_ok_iff, exists_unit_iff, rejectIf_eq_ok_iff,
    pure_eq_ok_iff] at inserted
  obtain ⟨-, filed, rfl⟩ := inserted
  refine ⟨⟨linked.sourceIds, linked.documentIds, linked.source, ?_⟩, ?_⟩
  · rw [List.forall_mem_append, List.forall_mem_singleton]
    refine ⟨linked.document, ?_⟩
    obtain ⟨found, isFound⟩ := Option.ne_none_iff_exists'.mp filed
    have matched := List.find?_some isFound
    simp only [decide_eq_true_eq] at matched
    exact ⟨found, List.mem_of_find?_eq_some isFound, matched.1⟩
  · rw [inherits_iff, inherits_iff, List.forall_mem_append, List.forall_mem_singleton, and_assoc]

theorem Linked.insertCitation {citation : CitationReference} (linked : Linked store)
    (inserted : store.insertCitation citation = .ok after) :
    Linked after ∧ (Inherits after ↔ Inherits store) := by
  simp only [KnowledgeStore.insertCitation, bind_eq_ok_iff, exists_unit_iff, rejectIf_eq_ok_iff,
    pure_eq_ok_iff] at inserted
  obtain ⟨-, -, -, -, -, -, rfl⟩ := inserted
  exact ⟨⟨linked.sourceIds, linked.documentIds, linked.source, linked.document⟩, by
    rw [inherits_iff, inherits_iff]⟩

/-! ## Documents and their versions -/

theorem Linked.forall_document (linked : Linked store) (isDocument : document ∈ store.documents)
    {property : KnowledgeDocument → Prop} :
    (∀ other ∈ store.documents, other.id = document.id → property other) ↔ property document := by
  refine ⟨fun every => every document isDocument rfl, fun holds other isOther same => ?_⟩
  rwa [List.inj_on_of_nodup_map linked.documentIds isOther isDocument same]

theorem Linked.forall_source (linked : Linked store) (isSource : source ∈ store.sources)
    {property : KnowledgeSource → Prop} :
    (∀ other ∈ store.sources, other.id = source.id → property other) ↔ property source := by
  refine ⟨fun every => every source isSource rfl, fun holds other isOther same => ?_⟩
  rwa [List.inj_on_of_nodup_map linked.sourceIds isOther isSource same]

/-- A version is compared with its document. -/
theorem Linked.addVersion (linked : Linked store) (isDocument : document ∈ store.documents)
    {content : VersionContent}
    (added : store.addVersion document content = .ok (version, after)) :
    Linked after ∧ (Inherits after ↔
      Inherits store ∧ notLower content.classification document.classification) := by
  simp only [KnowledgeStore.addVersion, bind_eq_ok_iff, pure_eq_ok_iff, Prod.mk.injEq] at added
  obtain ⟨_, made, _, inserted, rfl, rfl⟩ := added
  unfold newVersion at made
  dsimp only at made
  split at made
  · cases made
    have spec := linked.insertVersion inserted
    rwa [linked.forall_document isDocument] at spec
  · cases made

/-- A document that is found is kept, and one that is made is compared with its source. -/
theorem Linked.withDocument (linked : Linked store) (isSource : source ∈ store.sources)
    {found : Option KnowledgeDocument} (isFound : ∀ document ∈ found, document ∈ store.documents)
    {id organizationId : UUID} {externalId : Option Text} {title : Text}
    {classification : DataClassification} {metadata : CitationMetadata}
    (filed : store.withDocument found (newDocument id organizationId source.id externalId title
      classification metadata) = .ok (document, after)) :
    Linked after ∧ document ∈ after.documents ∧ after.sources = store.sources ∧
      after.versions = store.versions ∧
      (∀ old, found = some old → document = old ∧ (Inherits after ↔ Inherits store)) ∧
      (found = none → document.classification = classification ∧
        (∀ version ∈ store.versions, document.id ≠ version.documentId) ∧
          (Inherits after ↔ Inherits store ∧ notLower classification source.classification)) := by
  unfold KnowledgeStore.withDocument at filed
  cases found with
  | some old =>
      cases filed
      exact ⟨linked, isFound _ rfl, rfl, rfl, fun _ same => ⟨Option.some.inj same, Iff.rfl⟩,
        fun same => absurd same (Option.some_ne_none _)⟩
  | none =>
      simp only [bind_eq_ok_iff, pure_eq_ok_iff, Prod.mk.injEq] at filed
      obtain ⟨_, made, _, inserted, rfl, rfl⟩ := filed
      unfold newDocument at made
      split at made
      · cases made
        obtain ⟨linkedAfter, inherits, unused, rfl⟩ := linked.insertDocument inserted
        rw [linked.forall_source isSource] at inherits
        exact ⟨linkedAfter, by simp, rfl, rfl, fun _ same => absurd same.symm (Option.some_ne_none _),
          fun _ => ⟨rfl, unused, inherits⟩⟩
      · cases made

/-! ## Calls -/

/-- What a file is stored as is no lower than the document it is found to be a version of. -/
def IngestFile.Inheriting (call : IngestFile) (store : KnowledgeStore) : Prop :=
  ∀ validated, call.validated = .ok validated → call.duplicate? store validated = none →
    ∀ document, call.existing? store validated = some document →
      notLower call.classification document.classification

/-- What a record is stored as is no lower than the source it is found to be of, if it is a new
document, and no lower than the document it is found to be a version of. -/
def IngestRecord.Inheriting (call : IngestRecord) (store : KnowledgeStore) : Prop :=
  ∀ source, call.source? store = some source →
    match call.document? store source with
    | none => notLower call.classification source.classification
    | some document => call.duplicate? store document = none →
        notLower call.classification document.classification

/-- A file keeps the classifications inherited exactly if it inherits its own. -/
theorem Linked.ingestFile (linked : Linked store) (inherits : Inherits store) {call : IngestFile}
    (ingested : call.ingest store = .ok after) :
    Linked after ∧ (Inherits after ↔ call.Inheriting store) := by
  unfold IngestFile.ingest at ingested
  split at ingested
  next source found =>
    have isSource : source ∈ store.sources ∧ source.id = call.sourceId := by
      have matched := List.find?_some found
      simp only [decide_eq_true_eq] at matched
      exact ⟨List.mem_of_find?_eq_some found, matched.1⟩
    simp only [pure_bind, bind_eq_ok_iff, exists_unit_iff, rejectIf_eq_ok_iff, not_lt] at ingested
    obtain ⟨ofSource, validated, isValidated, ingested⟩ := ingested
    have unfolded : call.Inheriting store ↔ (call.duplicate? store validated = none →
        ∀ document, call.existing? store validated = some document →
          notLower call.classification document.classification) := by
      simp [IngestFile.Inheriting, isValidated]
    rw [unfolded]
    split at ingested
    next duplicate =>
      cases ingested
      exact ⟨linked, iff_of_true inherits fun none_ => by simp [none_] at duplicate⟩
    next distinct =>
      have distinct := Option.not_isSome_iff_eq_none.mp distinct
      simp only [bind_eq_ok_iff, mapError_eq_ok_iff, Prod.exists, pure_eq_ok_iff] at ingested
      obtain ⟨parsed, -, document, filed, isFiled, version, _, added, rfl⟩ := ingested
      have isFound : ∀ document ∈ call.existing? store validated, document ∈ store.documents :=
        fun _ isFound => List.mem_of_find?_eq_some isFound
      obtain ⟨linkedFiled, isDocument, -, -, kept, made⟩ :=
        linked.withDocument isSource.1 isFound isFiled
      obtain ⟨linkedAfter, stored⟩ := linkedFiled.addVersion isDocument added
      refine ⟨linkedAfter, stored.trans ?_⟩
      cases existing : call.existing? store validated with
      | some old =>
          obtain ⟨rfl, same⟩ := kept old existing
          simp [same, inherits, distinct]
      | none =>
          obtain ⟨same, -, filedInherits⟩ := made existing
          refine iff_of_true ⟨filedInherits.mpr ⟨inherits, ofSource⟩, ?_⟩
            fun _ _ => by rintro ⟨⟩
          rw [same]
          exact le_refl _
  next => cases ingested

/-- A source that is found is kept, and one that is made is the source of no document. -/
theorem Linked.withSource (linked : Linked store) {call : IngestRecord}
    (sourced : call.withSource store = .ok (source, after)) :
    Linked after ∧ source ∈ after.sources ∧ (Inherits after ↔ Inherits store) ∧
      after.documents = store.documents ∧ after.versions = store.versions ∧
      (call.source? store = some source ∨ call.source? store = none ∧
        source.classification = call.classification ∧
          ∀ document ∈ store.documents, source.id ≠ document.sourceId) := by
  unfold IngestRecord.withSource at sourced
  split at sourced
  next found =>
    cases sourced
    exact ⟨linked, List.mem_of_find?_eq_some found, Iff.rfl, rfl, rfl, .inl found⟩
  next missing =>
    simp only [bind_eq_ok_iff, pure_eq_ok_iff, Prod.mk.injEq] at sourced
    obtain ⟨_, made, _, inserted, rfl, rfl⟩ := sourced
    unfold IngestRecord.newSource at made
    dsimp only at made
    split at made
    · cases made
      obtain ⟨linkedAfter, inherits, unused, rfl⟩ := linked.insertSource inserted
      exact ⟨linkedAfter, by simp, inherits, rfl, rfl, .inr ⟨missing, rfl, unused⟩⟩
    · cases made

/-- A record keeps the classifications inherited exactly if it inherits its own. -/
theorem Linked.ingestRecord (linked : Linked store) (inherits : Inherits store)
    {call : IngestRecord} (ingested : call.ingest store = .ok after) :
    Linked after ∧ (Inherits after ↔ call.Inheriting store) := by
  simp only [IngestRecord.ingest, bind_eq_ok_iff, Prod.exists] at ingested
  obtain ⟨source, sourced, isSourced, document, filed, isFiled, ingested⟩ := ingested
  obtain ⟨linkedSourced, isSource, sourcedInherits, sameDocuments, sameVersions, origin⟩ :=
    linked.withSource isSourced
  have isFound : ∀ document ∈ call.document? sourced source, document ∈ sourced.documents :=
    fun _ isFound => List.mem_of_find?_eq_some isFound
  obtain ⟨linkedFiled, isDocument, -, filedVersions, kept, made⟩ :=
    linkedSourced.withDocument isSource isFound isFiled
  have sameDocument : call.document? sourced source = call.document? store source := by
    simp only [IngestRecord.document?, sameDocuments]
  have sameDuplicate : call.duplicate? filed document = call.duplicate? store document := by
    simp only [IngestRecord.duplicate?, filedVersions, sameVersions]
  rw [sameDocument] at kept made
  have stored : Linked after ∧ (Inherits after ↔ Inherits filed ∧
      (call.duplicate? store document = none →
        notLower call.classification document.classification)) := by
    rw [sameDuplicate] at ingested
    split at ingested
    next duplicate =>
      cases ingested
      exact ⟨linkedFiled, (and_iff_left fun none_ => by simp [none_] at duplicate).symm⟩
    next distinct =>
      simp only [bind_eq_ok_iff, Prod.exists] at ingested
      obtain ⟨version, versioned, added, cited⟩ := ingested
      obtain ⟨linkedVersioned, versionInherits⟩ := linkedFiled.addVersion isDocument added
      obtain ⟨linkedAfter, same⟩ := linkedVersioned.insertCitation cited
      have distinct := Option.not_isSome_iff_eq_none.mp distinct
      refine ⟨linkedAfter, same.trans (versionInherits.trans (and_congr_right fun _ => ?_))⟩
      exact ⟨fun lower _ => lower, fun lower => lower distinct⟩
  refine ⟨stored.1, stored.2.trans ?_⟩
  cases existing : call.document? store source with
  | some old =>
      obtain ⟨rfl, same⟩ := kept old existing
      have filedInherits : Inherits filed := same.mpr (sourcedInherits.mpr inherits)
      rcases origin with found | ⟨-, -, unused⟩
      · simp [IngestRecord.Inheriting, found, existing, filedInherits]
      · have matched := List.find?_some existing
        simp only [decide_eq_true_eq] at matched
        exact absurd matched.2.1.symm (unused document (List.mem_of_find?_eq_some existing))
  | none =>
      obtain ⟨same, -, filedInherits⟩ := made existing
      have own : notLower call.classification document.classification := by
        rw [same]
        exact le_refl _
      rw [filedInherits, sourcedInherits, and_iff_left fun _ => own, and_iff_right inherits]
      rcases origin with found | ⟨missing, sameSource, -⟩
      · simp [IngestRecord.Inheriting, found, existing]
      · refine iff_of_true ?_ fun source isSource => ?_
        · rw [sameSource]
          exact le_refl _
        · rw [missing] at isSource
          cases isSource

/-! ## Runs -/

/-- A file or a record is stored. -/
inductive Ingestion
  | file (call : IngestFile)
  | record (call : IngestRecord)

/-- The tables after a call that raises nothing. -/
def Ingestion.ingest (store : KnowledgeStore) : Ingestion → Option KnowledgeStore
  | .file call => (call.ingest store).toOption
  | .record call => (call.ingest store).toOption

/-- What is stored is no lower than the parent that is found. -/
def Ingestion.Inheriting (store : KnowledgeStore) : Ingestion → Prop
  | .file call => call.Inheriting store
  | .record call => call.Inheriting store

/-- Calls of both services in any order, from tables that are linked and inherited. -/
def ingestions : TransitionSystem KnowledgeStore Ingestion where
  Initial store := Linked store ∧ Inherits store
  Step store call after := call.ingest store = some after

theorem Linked.ingest (linked : Linked store) (inherits : Inherits store) {call : Ingestion}
    (ingested : call.ingest store = some after) :
    Linked after ∧ (Inherits after ↔ call.Inheriting store) := by
  cases call with
  | file call => exact linked.ingestFile inherits (eq_ok_of_mem_toOption ingested)
  | record call => exact linked.ingestRecord inherits (eq_ok_of_mem_toOption ingested)

/-- Where every call inherits, the tables stay linked and inherited. -/
def inheritedTables :
    (ingestions.restrict fun store call _ => call.Inheriting store).Invariant where
  Holds store := Linked store ∧ Inherits store
  initial _ initial := initial
  preserved := by
    rintro store call after ⟨linked, inherits⟩ ⟨ingested, inheriting⟩
    obtain ⟨linkedAfter, same⟩ := linked.ingest inherits ingested
    exact ⟨linkedAfter, same.mpr inheriting⟩

/-- In every run whose calls all inherit, no child is less protected than its parent; and the
next call keeps this so exactly if it inherits too. -/
theorem inherits_of_inheriting
    (reachable :
      (ingestions.restrict fun store call _ => call.Inheriting store).Reachable store) :
    Inherits store ∧ ∀ call after, ingestions.Step store call after →
      (Inherits after ↔ call.Inheriting store) := by
  obtain ⟨linked, inherits⟩ := inheritedTables.of_reachable reachable
  exact ⟨inherits, fun call after ingested => (linked.ingest inherits ingested).2⟩

/-! ## A lower record of a connector -/

namespace Sample

/-- No rows. -/
def noTables : KnowledgeStore where
  sources := []
  documents := []
  versions := []

/-- Minutes of a connector. -/
def minutes (number : UUID) (classification : DataClassification) : IngestRecord where
  organizationId := 1
  connectorName := some "minutes".toList
  externalSourceId := some (Nat.toDigits 10 number)
  sourceType := "external".toList
  title := "Minutes".toList
  content := "Approved.".toList
  contentHash :=
    ⟨hexDigits 64 0x7e0019a3769b3e37d8a83d04a70720b100041b63e8000b03eafc85071a7a67bf,
      by simp [hexDigits]⟩
  classification
  sourceId := 10
  documentId := 20 + number
  versionId := 30 + number
  citationId := 40 + number

/-- The tables after the first minutes, which are confidential. -/
def firstMinutes : KnowledgeStore :=
  ((Ingestion.record (minutes 1 .confidential)).ingest noTables).getD noTables

/-- The tables after further minutes, which are internal. -/
def furtherMinutes : KnowledgeStore :=
  ((Ingestion.record (minutes 2 .internal)).ingest firstMinutes).getD firstMinutes

theorem initial_noTables : ingestions.Initial noTables :=
  ⟨⟨List.nodup_nil, List.nodup_nil, by simp [noTables], by simp [noTables]⟩,
    ⟨by simp [noTables], by simp [noTables], by simp [noTables]⟩⟩

theorem step_firstMinutes :
    ingestions.Step noTables (.record (minutes 1 .confidential)) firstMinutes := by
  have ingested : (Ingestion.record (minutes 1 .confidential)).ingest noTables =
      some firstMinutes := by decide +kernel
  exact ingested

theorem step_furtherMinutes :
    ingestions.Step firstMinutes (.record (minutes 2 .internal)) furtherMinutes := by
  have ingested : (Ingestion.record (minutes 2 .internal)).ingest firstMinutes =
      some furtherMinutes := by decide +kernel
  exact ingested

theorem inheriting_firstMinutes :
    (Ingestion.record (minutes 1 .confidential)).Inheriting noTables := by
  intro source found
  simp [IngestRecord.source?, noTables] at found

end Sample

/-- The first minutes inherit, and further ones do exactly if they are no lower. -/
theorem inherits_of_inheriting_minutes :
    Inherits Sample.firstMinutes ∧ ∀ call after, ingestions.Step Sample.firstMinutes call after →
      (Inherits after ↔ call.Inheriting Sample.firstMinutes) :=
  inherits_of_inheriting (.step (.initial Sample.initial_noTables)
    ⟨Sample.step_firstMinutes, Sample.inheriting_firstMinutes⟩)

/-- Internal minutes are stored under the source that confidential minutes created. -/
theorem lower_minutes_stored : ¬ ∀ store, ingestions.Reachable store → Inherits store := by
  intro always
  have inherits := always _ (.step (.step (.initial Sample.initial_noTables)
    Sample.step_firstMinutes) Sample.step_furtherMinutes)
  have lower : ∃ document ∈ Sample.furtherMinutes.documents,
      ∃ source ∈ Sample.furtherMinutes.sources, source.id = document.sourceId ∧
        ¬ notLower document.classification source.classification := by
    decide +kernel
  obtain ⟨document, isDocument, source, isSource, isOf, lower⟩ := lower
  exact lower (inherits.document document isDocument source isSource isOf)

end PolicyOS.Knowledge
