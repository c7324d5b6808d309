import PolicyOS.Knowledge.ChunkPersistence
import PolicyOS.Knowledge.Embeddings

/-!
# Embedding again what failed

A run looks for succeeded embeddings only, but stores what was refused under the same revision.
So a run commits exactly if no attempt of a chunk it sends has left a record under the revision
of its own record; what it sends was never embedded, and no chunk is embedded twice under one
hash.
-/

namespace PolicyOS.Knowledge

open Foundation

variable {Vector : Type} {hashing : Hashing} {call : EmbedCall Vector}
  {tables after : EmbeddingTables Vector} {version : KnowledgeDocumentVersion}
  {document : Option KnowledgeDocument} {batch : List KnowledgeChunk × Nat}
  {chunk : KnowledgeChunk} {report : BatchReport Vector} {record : KnowledgeChunkEmbedding Vector}

/-! ## A batch -/

/-- What the gateway answers to a batch. -/
def EmbedCall.answer (call : EmbedCall Vector) (version : KnowledgeDocumentVersion)
    (batch : List KnowledgeChunk × Nat) : GatewayAnswer Vector :=
  call.gateway batch.2 (call.request version batch.1)

/-- The values of the records of a batch. -/
def EmbedCall.values (call : EmbedCall Vector) (version : KnowledgeDocumentVersion)
    (batch : List KnowledgeChunk × Nat) : AttemptValues :=
  (call.answer version batch).values call.settings

/-- A record is that of a chunk in a batch. -/
def RecordOf (hashing : Hashing) (call : EmbedCall Vector) (version : KnowledgeDocumentVersion)
    (batch : List KnowledgeChunk × Nat) (chunk : KnowledgeChunk)
    (record : KnowledgeChunkEmbedding Vector) : Prop :=
  ∃ vector, embeddingRecord hashing call version batch.1.length (call.values version batch) chunk
    vector = record

/-- A batch is stored exactly if its request is well formed and an answer has a vector for each
chunk of a known document. -/
theorem accepted_embedBatch_iff :
    Accepted (embedBatch hashing call version document batch) ↔
      (call.request version batch.1).Valid ∧
        ∀ response, call.answer version batch = .answered response →
          document ≠ none ∧ response.vectors.length = batch.1.length := by
  simp only [embedBatch, accepted_bind_iff, exists_unit_iff, rejectIf_eq_ok_iff, not_not,
    EmbedCall.answer]
  refine and_congr_right fun _ => ?_
  cases call.gateway batch.2 (call.request version batch.1) with
  | answered response =>
      simp only [accepted_bind_iff, exists_unit_iff, rejectIf_eq_ok_iff, not_not,
        GatewayAnswer.answered.injEq, forall_eq', ne_eq]
      exact and_congr_right fun _ => ⟨And.left, fun aligned => ⟨aligned, _, rfl⟩⟩
  | refused code => exact ⟨fun _ _ => by rintro ⟨⟩, fun _ => ⟨_, rfl⟩⟩

/-- The records of a batch that is stored: one for each chunk. -/
theorem records_of_embedBatch
    (made : embedBatch hashing call version document batch = .ok report) :
    List.Forall₂ (RecordOf hashing call version batch) batch.1 report.records := by
  have zipped : report.records = List.zipWith
      (embeddingRecord hashing call version batch.1.length (call.values version batch)) batch.1
        ((call.answer version batch).vectors batch.1.length) ∧
      ((call.answer version batch).vectors batch.1.length).length = batch.1.length := by
    simp only [embedBatch, bind_eq_ok_iff, exists_unit_iff] at made
    obtain ⟨-, made⟩ := made
    simp only [EmbedCall.values, EmbedCall.answer]
    cases answer : call.gateway batch.2 (call.request version batch.1) with
    | answered response =>
        simp only [answer, bind_eq_ok_iff, exists_unit_iff, rejectIf_eq_ok_iff, not_not,
          pure_eq_ok_iff] at made
        obtain ⟨-, aligned, rfl⟩ := made
        exact ⟨rfl, (List.length_map _).trans aligned⟩
    | refused code =>
        simp only [answer, pure_eq_ok_iff] at made
        obtain rfl := made
        exact ⟨rfl, List.length_replicate⟩
  obtain ⟨records, aligned⟩ := zipped
  rw [records]
  generalize (call.answer version batch).vectors batch.1.length = vectors at aligned
  have each : ∀ (chunks : List KnowledgeChunk) (vectors : List (Option Vector)),
      vectors.length = chunks.length → List.Forall₂ (RecordOf hashing call version batch) chunks
        (List.zipWith (embeddingRecord hashing call version batch.1.length
          (call.values version batch)) chunks vectors) := by
    intro chunks
    induction chunks with
    | nil => simp
    | cons first rest ih =>
        rintro (_ | ⟨vector, others⟩) same
        · cases same
        · exact .cons ⟨vector, rfl⟩ (ih others (Nat.succ.inj same))
  exact each batch.1 vectors aligned

theorem map_chunkId_of_embedBatch
    (made : embedBatch hashing call version document batch = .ok report) :
    report.records.map (·.chunkId) = batch.1.map (·.id) := by
  refine map_key_of_rewritten (records_of_embedBatch made) ?_
  rintro chunk _ ⟨vector, rfl⟩
  rfl

/-! ## What is sent -/

theorem flatten_batches_pending :
    ((tables.batches hashing call).map (·.1)).flatten = tables.pending hashing call := by
  rw [EmbeddingTables.batches, List.zipIdx_map_fst]
  exact flatten_batches call.settings.batchBounds.1

theorem exists_batch_iff :
    (∃ batch ∈ tables.batches hashing call, chunk ∈ batch.1) ↔
      chunk ∈ tables.pending hashing call := by
  rw [← flatten_batches_pending, List.mem_flatten]
  simp only [List.mem_map, exists_exists_and_eq_and]

theorem mem_pending_iff :
    chunk ∈ tables.pending hashing call ↔
      chunk ∈ tables.knowledge.activeChunks call.organizationId call.versionId ∧
        ¬ tables.Embedded hashing call chunk := by
  simp [EmbeddingTables.pending]

theorem mem_activeChunks_iff {store : KnowledgeStore} {organizationId versionId : UUID} :
    chunk ∈ store.activeChunks organizationId versionId ↔
      chunk ∈ store.chunks ∧ chunk.documentVersionId = versionId ∧
        chunk.organizationId = organizationId ∧ chunk.status = .active := by
  simp [KnowledgeStore.activeChunks]

theorem not_embedded_of_batch (isBatch : batch ∈ tables.batches hashing call)
    (isChunk : chunk ∈ batch.1) : ¬ tables.Embedded hashing call chunk :=
  (mem_pending_iff.mp (exists_batch_iff.mp ⟨batch, isBatch, isChunk⟩)).2

/-! ## What is stored -/

section Records

variable {reports : List (BatchReport Vector)}

theorem map_chunkId_of_reports
    (collected : collectEach (embedBatch hashing call version document)
      (tables.batches hashing call) = .ok reports) :
    (reports.flatMap (·.records)).map (·.chunkId) = (tables.pending hashing call).map (·.id) := by
  have each : reports.map (fun report => report.records.map (·.chunkId)) =
      (tables.batches hashing call).map fun batch => batch.1.map (·.id) :=
    map_of_collectEach map_chunkId_of_embedBatch collected
  rw [← flatten_batches_pending, List.map_flatMap, List.flatMap_def, each, List.map_flatten,
    List.map_map]
  rfl

/-- A record of a run is that of a chunk in a batch. -/
theorem exists_chunk_of_record
    (collected : collectEach (embedBatch hashing call version document)
      (tables.batches hashing call) = .ok reports)
    (isRecord : record ∈ reports.flatMap (·.records)) :
    ∃ batch ∈ tables.batches hashing call, ∃ chunk ∈ batch.1,
      RecordOf hashing call version batch chunk record := by
  obtain ⟨report, isReport, inReport⟩ := List.mem_flatMap.mp isRecord
  obtain ⟨batch, isBatch, made⟩ := mem_of_collectEach collected isReport
  obtain ⟨chunk, isChunk, ofChunk⟩ :=
    exists_of_mem_rewritten (records_of_embedBatch made) inReport
  exact ⟨batch, isBatch, chunk, isChunk, ofChunk⟩

theorem exists_record_of_chunk
    (collected : collectEach (embedBatch hashing call version document)
      (tables.batches hashing call) = .ok reports)
    (isBatch : batch ∈ tables.batches hashing call) (isChunk : chunk ∈ batch.1) :
    ∃ record ∈ reports.flatMap (·.records), RecordOf hashing call version batch chunk record := by
  obtain ⟨report, isReport, made⟩ := exists_of_collectEach collected isBatch
  obtain ⟨record, isRecord, ofChunk⟩ :=
    exists_rewritten_of_mem (records_of_embedBatch made) isChunk
  exact ⟨record, List.mem_flatMap.mpr ⟨report, isReport, isRecord⟩, ofChunk⟩

end Records

/-- The columns of the records of a batch fit. -/
def AttemptValues.Fit (values : AttemptValues) (settings : EmbeddingSettings)
    (inputCount : Nat) : Prop :=
  values.provider.length ≤ 50 ∧ values.model.length ≤ 200 ∧
    settings.embeddingPolicyVersion.length ≤ 50 ∧ Fits 500 values.providerRequestId ∧
      0 < values.dimensions ∧
        Counts [values.dimensions, values.usageTokens, inputCount, values.latencyMs,
          values.retryCount, 1]

/-- The revision under which an attempt of a chunk is stored. -/
def EmbedCall.revision (hashing : Hashing) (call : EmbedCall Vector) (values : AttemptValues)
    (chunk : KnowledgeChunk) : EmbeddingRevision where
  organizationId := call.organizationId
  chunkId := chunk.id
  provider := values.provider
  model := values.model
  dimensions := values.dimensions
  embeddingContentHash := embeddingContentHash hashing chunk call.settings
  policyVersion := call.settings.embeddingPolicyVersion

/-- No attempt that did not succeed is stored under the revision of an attempt. -/
def RevisionFree (hashing : Hashing) (call : EmbedCall Vector) (tables : EmbeddingTables Vector)
    (values : AttemptValues) (chunk : KnowledgeChunk) : Prop :=
  ∀ row ∈ tables.embeddings, row.status ≠ .succeeded →
    row.revision ≠ call.revision hashing values chunk

/-- The record of a chunk that is not embedded conflicts with a row exactly if an attempt that
did not succeed is stored under its revision. -/
theorem not_conflicts_iff_revisionFree (isNew : ¬ tables.Embedded hashing call chunk)
    (ofChunk : RecordOf hashing call version batch chunk record) :
    (∀ row ∈ tables.embeddings, ¬ record.Conflicts row) ↔
      RevisionFree hashing call tables (call.values version batch) chunk := by
  obtain ⟨vector, rfl⟩ := ofChunk
  constructor
  · exact fun apart row stored _ same => apart row stored same.symm
  · intro free row stored same
    by_cases succeeded : row.status = .succeeded
    · refine isNew ⟨row, stored, ?_, ?_, ?_, succeeded⟩
      · exact (congrArg EmbeddingRevision.organizationId same).symm
      · exact (congrArg EmbeddingRevision.chunkId same).symm
      · exact (congrArg EmbeddingRevision.embeddingContentHash same).symm
    · exact free row stored succeeded same.symm

/-- A record of a stored chunk and version passes exactly if its columns fit. -/
theorem checkRow_eq_ok_iff
    (isVersion : tables.knowledge.version? call.organizationId version.id ≠ none)
    (stored : chunk ∈ tables.knowledge.chunks)
    (ofOrganization : chunk.organizationId = call.organizationId)
    (ofChunk : RecordOf hashing call version batch chunk record) :
    tables.checkRow record = .ok () ↔
      (call.values version batch).Fit call.settings batch.1.length := by
  obtain ⟨vector, rfl⟩ := ofChunk
  have isChunk : tables.knowledge.chunk? call.organizationId chunk.id ≠ none := by
    refine Option.isSome_iff_ne_none.mp (List.find?_isSome.mpr ⟨chunk, stored, ?_⟩)
    exact decide_eq_true ⟨rfl, ofOrganization⟩
  simp only [EmbeddingTables.checkRow, bind_eq_ok_iff, exists_unit_iff, rejectIf_eq_ok_iff,
    not_not]
  exact ⟨And.left, fun fit => ⟨fit, isChunk, isVersion⟩⟩

/-! ## Runs -/

/-- The identifiers of the chunks are distinct, and no chunk has two succeeded embeddings under
one hash. -/
structure OnceEmbedded (tables : EmbeddingTables Vector) : Prop where
  ids : (tables.knowledge.chunks.map (·.id)).Nodup
  once : tables.embeddings.Pairwise fun first second =>
    first.status = .succeeded → second.status = .succeeded →
      ¬ (first.organizationId = second.organizationId ∧ first.chunkId = second.chunkId ∧
        first.embeddingContentHash = second.embeddingContentHash)

theorem nodup_pending (ids : (tables.knowledge.chunks.map (·.id)).Nodup) :
    ((tables.pending hashing call).map (·.id)).Nodup := by
  have active : ((tables.knowledge.activeChunks call.organizationId call.versionId).map
      (·.id)).Nodup :=
    (perm_sortedBy.map _).nodup_iff.mpr (ids.sublist (List.filter_sublist.map _))
  exact active.sublist (List.filter_sublist.map _)

/-- What an accepted run has made of the tables. -/
structure Embedding (hashing : Hashing) (call : EmbedCall Vector) (tables : EmbeddingTables Vector)
    (version : KnowledgeDocumentVersion) (reports : List (BatchReport Vector)) : Prop where
  found : tables.knowledge.version? call.organizationId call.versionId = some version
  chunked : version.chunkingStatus = .succeeded
  collected : collectEach (embedBatch hashing call version
    (tables.knowledge.document? call.organizationId version.documentId))
      (tables.batches hashing call) = .ok reports
  checked : ∀ record ∈ reports.flatMap (·.records), tables.checkRow record = .ok ()
  apart : ∀ record ∈ reports.flatMap (·.records), ∀ row ∈ tables.embeddings,
    ¬ record.Conflicts row
  distinct : (reports.flatMap (·.records)).Pairwise fun earlier later => ¬ later.Conflicts earlier

variable {result : EmbeddingBatchResult}

/-- A run is accepted exactly if its batches are stored and its records inserted, and then it
has appended them. -/
theorem embedVersion_eq_ok_iff :
    embedVersion hashing call tables = .ok (after, result) ↔
      ∃ version reports, Embedding hashing call tables version reports ∧
        { tables with embeddings := tables.embeddings ++ reports.flatMap (·.records) } = after ∧
          batchResult (tables.skipped hashing call) (tables.pending hashing call) reports =
            result := by
  unfold embedVersion
  cases isVersion : tables.knowledge.version? call.organizationId call.versionId with
  | none =>
      refine ⟨nofun, ?_⟩
      rintro ⟨version, reports, embedding, -⟩
      exact absurd (isVersion.symm.trans embedding.found) nofun
  | some version =>
      simp only [bind_eq_ok_iff, exists_unit_iff, rejectIf_eq_ok_iff, not_not, mapError_eq_ok_iff,
        insertRows_eq_ok_iff, pure_eq_ok_iff, Prod.mk.injEq, ne_eq]
      constructor
      · rintro ⟨chunked, reports, collected, _, ⟨checked, apart, distinct, rfl⟩, rfl, rfl⟩
        exact ⟨version, reports, ⟨isVersion, chunked, collected, checked, apart, distinct⟩, rfl,
          rfl⟩
      · rintro ⟨_, reports, embedding, rfl, rfl⟩
        obtain rfl := Option.some.inj (isVersion.symm.trans embedding.found)
        exact ⟨embedding.chunked, reports, embedding.collected, _,
          ⟨embedding.checked, embedding.apart, embedding.distinct, rfl⟩, rfl, rfl⟩

/-- What a batch needs to be stored: a request that is well formed, an answer with a vector for
each chunk, columns that fit, and no earlier attempt of a chunk that was refused and stored under
the revision of the new one. -/
structure BatchRetriable (hashing : Hashing) (call : EmbedCall Vector)
    (tables : EmbeddingTables Vector) (version : KnowledgeDocumentVersion)
    (batch : List KnowledgeChunk × Nat) : Prop where
  valid : (call.request version batch.1).Valid
  aligned : ∀ response, call.answer version batch = .answered response →
    tables.knowledge.document? call.organizationId version.documentId ≠ none ∧
      response.vectors.length = batch.1.length
  fit : (call.values version batch).Fit call.settings batch.1.length
  free : ∀ chunk ∈ batch.1,
    RevisionFree hashing call tables (call.values version batch) chunk

/-- The version of a run is chunked, and its batches can be stored. -/
def Retriable (hashing : Hashing) (call : EmbedCall Vector) (tables : EmbeddingTables Vector) :
    Prop :=
  ∃ version, tables.knowledge.version? call.organizationId call.versionId = some version ∧
    version.chunkingStatus = .succeeded ∧
      ∀ batch ∈ tables.batches hashing call, BatchRetriable hashing call tables version batch

theorem version?_ne_none
    (found : tables.knowledge.version? call.organizationId call.versionId = some version) :
    tables.knowledge.version? call.organizationId version.id ≠ none := by
  have own : version.id = call.versionId ∧ version.organizationId = call.organizationId := by
    simpa using List.find?_some found
  rw [own.1, found]
  exact Option.some_ne_none _

theorem exists_chunk_of_valid (valid : (call.request version batch.1).Valid) :
    ∃ chunk, chunk ∈ batch.1 := by
  obtain ⟨some_, -⟩ := valid
  exact List.exists_mem_of_ne_nil _ fun none_ => some_ (by rw [EmbedCall.request, none_]; rfl)

/-- A run is accepted exactly if its version is chunked and its batches can be stored. -/
theorem accepted_embedVersion_iff (ids : (tables.knowledge.chunks.map (·.id)).Nodup) :
    Accepted (embedVersion hashing call tables) ↔ Retriable hashing call tables := by
  have stored : ∀ batch ∈ tables.batches hashing call, ∀ chunk ∈ batch.1,
      chunk ∈ tables.knowledge.chunks ∧ chunk.organizationId = call.organizationId ∧
        ¬ tables.Embedded hashing call chunk := by
    intro batch isBatch chunk isChunk
    obtain ⟨active, isNew⟩ := mem_pending_iff.mp (exists_batch_iff.mp ⟨batch, isBatch, isChunk⟩)
    obtain ⟨isStored, -, ofOrganization, -⟩ := mem_activeChunks_iff.mp active
    exact ⟨isStored, ofOrganization, isNew⟩
  constructor
  · rintro ⟨⟨after, result⟩, accepted⟩
    obtain ⟨version, reports, embedding, -, -⟩ := embedVersion_eq_ok_iff.mp accepted
    have isVersion := version?_ne_none embedding.found
    refine ⟨version, embedding.found, embedding.chunked, fun batch isBatch => ?_⟩
    obtain ⟨report, -, made⟩ := exists_of_collectEach embedding.collected isBatch
    obtain ⟨valid, aligned⟩ := accepted_embedBatch_iff.mp ⟨report, made⟩
    refine ⟨valid, aligned, ?_, fun chunk isChunk => ?_⟩
    · obtain ⟨chunk, isChunk⟩ := exists_chunk_of_valid valid
      obtain ⟨isStored, ofOrganization, -⟩ := stored batch isBatch chunk isChunk
      obtain ⟨record, isRecord, ofChunk⟩ :=
        exists_record_of_chunk embedding.collected isBatch isChunk
      exact (checkRow_eq_ok_iff isVersion isStored ofOrganization ofChunk).mp
        (embedding.checked record isRecord)
    · obtain ⟨record, isRecord, ofChunk⟩ :=
        exists_record_of_chunk embedding.collected isBatch isChunk
      exact (not_conflicts_iff_revisionFree (stored batch isBatch chunk isChunk).2.2 ofChunk).mp
        (embedding.apart record isRecord)
  · rintro ⟨version, found, chunked, retriable⟩
    have isVersion := version?_ne_none found
    obtain ⟨reports, collected⟩ : Accepted (collectEach (embedBatch hashing call version
        (tables.knowledge.document? call.organizationId version.documentId))
          (tables.batches hashing call)) :=
      accepted_collectEach_iff.mpr fun batch isBatch =>
        accepted_embedBatch_iff.mpr ⟨(retriable batch isBatch).valid, (retriable batch isBatch).aligned⟩
    have distinct : ((reports.flatMap (·.records)).map (·.chunkId)).Nodup := by
      rw [map_chunkId_of_reports collected]
      exact nodup_pending ids
    refine ⟨_, embedVersion_eq_ok_iff.mpr ⟨version, reports,
      ⟨found, chunked, collected, fun record isRecord => ?_, fun record isRecord => ?_, ?_⟩, rfl,
      rfl⟩⟩
    · obtain ⟨batch, isBatch, chunk, isChunk, ofChunk⟩ := exists_chunk_of_record collected isRecord
      obtain ⟨isStored, ofOrganization, -⟩ := stored batch isBatch chunk isChunk
      exact (checkRow_eq_ok_iff isVersion isStored ofOrganization ofChunk).mpr
        (retriable batch isBatch).fit
    · obtain ⟨batch, isBatch, chunk, isChunk, ofChunk⟩ := exists_chunk_of_record collected isRecord
      exact (not_conflicts_iff_revisionFree (stored batch isBatch chunk isChunk).2.2 ofChunk).mpr
        ((retriable batch isBatch).free chunk isChunk)
    · exact (List.pairwise_map.mp distinct).imp fun otherChunk same =>
        otherChunk (congrArg EmbeddingRevision.chunkId same).symm

theorem committedAfter_of_ok (accepted : embedVersion hashing call tables = .ok (after, result)) :
    committedAfter hashing call tables = after := by
  rw [committedAfter, accepted]

/-- A run keeps every chunk from having two succeeded embeddings under one hash. -/
theorem onceEmbedded_committedAfter (sound : OnceEmbedded tables) :
    OnceEmbedded (committedAfter hashing call tables) := by
  cases outcome : embedVersion hashing call tables with
  | error error =>
      rw [committedAfter, outcome]
      exact sound
  | ok made =>
      obtain ⟨version, reports, embedding, isAfter, -⟩ := embedVersion_eq_ok_iff.mp outcome
      rw [committedAfter_of_ok outcome, ← isAfter]
      refine ⟨sound.ids, List.pairwise_append.mpr ⟨sound.once, ?_, ?_⟩⟩
      · have distinct : ((reports.flatMap (·.records)).map (·.chunkId)).Nodup := by
          rw [map_chunkId_of_reports embedding.collected]
          exact nodup_pending sound.ids
        exact (List.pairwise_map.mp distinct).imp fun otherChunk _ _ same => otherChunk same.2.1
      · rintro row stored record isRecord succeeded - ⟨sameOrganization, sameChunk, sameHash⟩
        obtain ⟨batch, isBatch, chunk, isChunk, vector, rfl⟩ :=
          exists_chunk_of_record embedding.collected isRecord
        exact not_embedded_of_batch isBatch isChunk
          ⟨row, stored, sameOrganization, sameChunk, sameHash, succeeded⟩

/-- A run can be repeated whatever happened before: it commits, it sends nothing that is embedded,
and if the gateway answers every batch, every active chunk is embedded afterwards. -/
structure RetrySafe (hashing : Hashing) (call : EmbedCall Vector)
    (tables : EmbeddingTables Vector) : Prop where
  commits : Accepted (embedVersion hashing call tables)
  unsent : ∀ batch ∈ tables.batches hashing call, ∀ chunk ∈ batch.1,
    ¬ tables.Embedded hashing call chunk
  embeds : (∀ version,
      tables.knowledge.version? call.organizationId call.versionId = some version →
        ∀ batch ∈ tables.batches hashing call,
          ∃ response, call.answer version batch = .answered response) →
    ∀ chunk ∈ tables.knowledge.activeChunks call.organizationId call.versionId,
      (committedAfter hashing call tables).Embedded hashing call chunk

/-- After an accepted run in which every batch was answered every active chunk is embedded. -/
theorem embedded_of_answered (accepted : embedVersion hashing call tables = .ok (after, result))
    (answered : ∀ version,
      tables.knowledge.version? call.organizationId call.versionId = some version →
        ∀ batch ∈ tables.batches hashing call,
          ∃ response, call.answer version batch = .answered response)
    (active : chunk ∈ tables.knowledge.activeChunks call.organizationId call.versionId) :
    after.Embedded hashing call chunk := by
  obtain ⟨version, reports, embedding, rfl, -⟩ := embedVersion_eq_ok_iff.mp accepted
  by_cases isOld : tables.Embedded hashing call chunk
  · obtain ⟨row, stored, ofChunk⟩ := isOld
    exact ⟨row, List.mem_append_left _ stored, ofChunk⟩
  · obtain ⟨batch, isBatch, isChunk⟩ := exists_batch_iff.mpr (mem_pending_iff.mpr ⟨active, isOld⟩)
    obtain ⟨record, isRecord, vector, rfl⟩ :=
      exists_record_of_chunk embedding.collected isBatch isChunk
    obtain ⟨response, isResponse⟩ := answered version embedding.found batch isBatch
    refine ⟨_, List.mem_append_right _ isRecord, rfl, rfl, rfl, ?_⟩
    simp only [embeddingRecord, EmbedCall.values, isResponse, GatewayAnswer.values]

/-- Runs one after the other, on chunks with distinct identifiers of which none is embedded at
first. -/
def embedRuns (hashing : Hashing) (Vector : Type) :
    TransitionSystem (EmbeddingTables Vector) (EmbedCall Vector) where
  Initial tables := (tables.knowledge.chunks.map (·.id)).Nodup ∧ tables.embeddings = []
  Step tables call after := committedAfter hashing call tables = after

/-- Every run keeps every chunk from having two succeeded embeddings under one hash. -/
def onceEmbeddedRuns (hashing : Hashing) (Vector : Type) :
    (embedRuns hashing Vector).Invariant where
  Holds := OnceEmbedded
  initial := by
    rintro tables ⟨ids, nothing⟩
    refine ⟨ids, ?_⟩
    rw [nothing]
    exact .nil
  preserved := by
    rintro tables call _ sound rfl
    exact onceEmbedded_committedAfter sound

namespace Sample

/-- The record of one page after it was chunked. -/
def chunkedPage : EmbeddingTables Unit where
  knowledge := (chunkVersion sampleHashing decisionCall
    (decisionStore [approvedPage 1 firstPage])).1

/-- A run on the record, with some gateway. -/
def pageCall (gateway : EmbeddingRequest → GatewayAnswer Unit) : EmbedCall Unit where
  versionId := 4
  organizationId := 2
  settings := { embeddingProvider := "openai".toList }
  gateway _ := gateway

/-- A run in which the gateway times out. -/
def timedOutCall : EmbedCall Unit := pageCall fun _ => .refused .timeout

/-- A run in which the gateway answers. -/
def answeredCall : EmbedCall Unit := pageCall fun request => .answered
  { vectors := request.texts.map fun _ => ()
    provider := "openai".toList
    model := request.model
    dimensions := 1536 }

theorem reachable_after (call : EmbedCall Unit) :
    (embedRuns sampleHashing Unit).Reachable (committedAfter sampleHashing call chunkedPage) :=
  .step (.initial ⟨by decide +kernel, rfl⟩) rfl

end Sample

end PolicyOS.Knowledge
