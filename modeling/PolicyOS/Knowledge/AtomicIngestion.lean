import PolicyOS.Knowledge.IngestionJobs
import Mathlib.Data.List.Range

/-!
# Ingestion is atomic

Whatever the order in which calls take their turns, the versions of a document are numbered without
gaps: a call that read a number another call has stored since is refused by the constraint. What a
call stores it stores when it returns, and a call that raises leaves its job failed or rejected. The
contents of a source are distinct only while no other document of the source gets the content of a
call between its look for duplicates and its commit: the constraint is of one document.
-/

namespace PolicyOS.Knowledge

open Foundation

variable {store after : KnowledgeStore} {request : IngestionRequest}
  {validated : ValidatedDocument} {parsed : ParsedDocument} {found : Option KnowledgeDocument}
  {number : Nat} {document : KnowledgeDocument} {version : KnowledgeDocumentVersion}

/-! ## Tables -/

/-- The numbers of the versions of a document, as they were stored. -/
def KnowledgeStore.numbersOf (store : KnowledgeStore) (organizationId documentId : UUID) :
    List Nat :=
  (store.versions.filter fun row => row.organizationId = organizationId ∧
    row.documentId = documentId).map (·.version)

/-- The versions of every document are numbered from one, without gaps. -/
def KnowledgeStore.gapless (store : KnowledgeStore) : Prop :=
  ∀ organizationId documentId, store.numbersOf organizationId documentId =
    List.range' 1 (store.numbersOf organizationId documentId).length

/-- No source has a content twice. -/
def KnowledgeStore.contentOnce (store : KnowledgeStore) : Prop :=
  ∀ version ∈ store.versions, ∀ other ∈ store.versions,
    version.organizationId = other.organizationId → version.contentHash = other.contentHash →
      ∀ document ∈ store.documents, ∀ otherDocument ∈ store.documents,
        document.id = version.documentId → otherDocument.id = other.documentId →
          document.sourceId = otherDocument.sourceId → version = other

instance (store : KnowledgeStore) : Decidable store.contentOnce :=
  inferInstanceAs (Decidable (∀ _ ∈ store.versions, ∀ _ ∈ store.versions, _ → _ →
    ∀ _ ∈ store.documents, ∀ _ ∈ store.documents, _ → _ → _ → _))

/-- Documents are told apart by their identifiers and, in one source, by their external ones; every
version is of a document of its organization. -/
structure KnowledgeStore.Keyed (store : KnowledgeStore) : Prop where
  ids : ∀ document ∈ store.documents, ∀ other ∈ store.documents, document.id = other.id →
    document = other
  externals : ∀ document ∈ store.documents, ∀ other ∈ store.documents,
    document.organizationId = other.organizationId → document.sourceId = other.sourceId →
      (∃ external ∈ document.externalId, other.externalId = some external) → document = other
  owned : ∀ version ∈ store.versions, ∃ document ∈ store.documents,
    document.id = version.documentId ∧ document.organizationId = version.organizationId

/-- The number after the highest of consecutive ones is the next. -/
theorem nextVersion_of_gapless (gapless : store.gapless) (organizationId documentId : UUID) :
    store.nextVersion organizationId documentId =
      (store.numbersOf organizationId documentId).length + 1 := by
  have highest : ∀ count, (List.range' 1 count).foldl max 0 = count := by
    intro count
    induction count with
    | zero => rfl
    | succ count ih =>
        rw [List.range'_concat, List.foldl_append, ih]
        simp only [List.foldl_cons, List.foldl_nil]
        omega
  have isNext : store.nextVersion organizationId documentId =
      (store.numbersOf organizationId documentId).foldl max 0 + 1 := rfl
  rw [isNext, gapless organizationId documentId, highest, List.length_range']

/-! ## What one call stores -/

/-- The document a call writes to: one that was found, or a new one. -/
inductive Filed (request : IngestionRequest) (validated : ValidatedDocument)
    (found : Option KnowledgeDocument) (before after : KnowledgeStore)
    (document : KnowledgeDocument) : Prop where
  | found (isFound : found = some document) (same : after.documents = before.documents)
  | made (isNew : found = none) (isId : document.id = request.documentId)
      (isOrganization : document.organizationId = request.organizationId)
      (isSource : document.sourceId = request.sourceId)
      (isExternal : document.externalId = some (request.documentExternalId validated))
      (freshId : ∀ other ∈ before.documents, document.id ≠ other.id)
      (freshExternal : ∀ other ∈ before.documents, other.organizationId = request.organizationId →
        other.sourceId = request.sourceId →
          other.externalId ≠ some (request.documentExternalId validated))
      (added : after.documents = before.documents ++ [document])

/-- What a call stores: one version, of the document it found or made. -/
structure RowsInserted (request : IngestionRequest) (validated : ValidatedDocument)
    (found : Option KnowledgeDocument) (number : Nat) (before : KnowledgeStore)
    (document : KnowledgeDocument) (version : KnowledgeDocumentVersion)
    (after : KnowledgeStore) : Prop where
  filed : Filed request validated found before after document
  isOrganization : version.organizationId = document.organizationId
  isDocument : version.documentId = document.id
  isNumber : version.version = number
  isContent : version.contentHash = validated.sha256
  isId : version.id = request.versionId
  positive : 1 ≤ number
  freshNumber : ∀ other ∈ before.versions, other.organizationId = document.organizationId →
    other.documentId = document.id → other.version ≠ number
  freshContent : ∀ other ∈ before.versions, other.organizationId = document.organizationId →
    other.documentId = document.id → other.contentHash ≠ validated.sha256
  present : ∃ owner ∈ after.documents, owner.id = document.id ∧
    owner.organizationId = document.organizationId
  added : after.versions = before.versions ++ [version]
  sources : after.sources = before.sources

/-- A document that is not found is made, where none has its identifiers. -/
theorem Filed.of_withDocument {title : Text} {classification : DataClassification}
    {metadata : CitationMetadata}
    (filed : store.withDocument found (newDocument request.documentId request.organizationId
      request.sourceId (some (request.documentExternalId validated)) title classification
      metadata) = .ok (document, after)) :
    Filed request validated found store after document ∧ after.versions = store.versions ∧
      after.sources = store.sources := by
  unfold KnowledgeStore.withDocument at filed
  cases found with
  | some old =>
      cases filed
      exact ⟨.found rfl rfl, rfl, rfl⟩
  | none =>
      simp only [bind_eq_ok_iff, pure_eq_ok_iff, Prod.mk.injEq] at filed
      obtain ⟨_, made, _, inserted, rfl, rfl⟩ := filed
      unfold newDocument at made
      split at made
      · cases made
        simp only [KnowledgeStore.insertDocument, bind_eq_ok_iff, exists_unit_iff,
          rejectIf_eq_ok_iff, pure_eq_ok_iff, not_exists, not_and] at inserted
        obtain ⟨fresh, -, rfl⟩ := inserted
        refine ⟨.made rfl rfl rfl rfl rfl (fun other isOther same => ?_)
          (fun other isOther sameOrganization sameSource isExternal => ?_) rfl, rfl, rfl⟩
        · exact fresh other isOther (.inl same)
        · exact fresh other isOther
            (.inr ⟨sameOrganization.symm, sameSource.symm, _, rfl, isExternal⟩)
      · cases made

/-- The rows of a call are inserted as a whole, or not at all. -/
theorem RowsInserted.of_insertRows
    (inserted : request.insertRows validated parsed found number store =
      .ok (document, version, after)) :
    RowsInserted request validated found number store document version after := by
  simp only [IngestionRequest.insertRows, bind_eq_ok_iff, pure_eq_ok_iff, Prod.mk.injEq,
    Prod.exists] at inserted
  obtain ⟨_, middle, filing, _, numbering, _, stored, rfl, rfl, rfl⟩ := inserted
  obtain ⟨filed, sameVersions, sameSources⟩ := Filed.of_withDocument filing
  unfold numberedVersion at numbering
  split at numbering
  · next bound =>
      cases numbering
      simp only [KnowledgeStore.insertVersion, bind_eq_ok_iff, exists_unit_iff,
        rejectIf_eq_ok_iff, pure_eq_ok_iff, not_exists, not_and, sameVersions] at stored
      obtain ⟨fresh, owned, rfl⟩ := stored
      refine ⟨?_, rfl, rfl, rfl, rfl, rfl, bound.1, ?_, ?_, ?_, rfl, sameSources⟩
      · cases filed with
        | found isFound same => exact .found isFound same
        | made isNew isId isOrganization isSource isExternal freshId freshExternal added =>
            exact .made isNew isId isOrganization isSource isExternal freshId freshExternal added
      · exact fun other isOther sameOrganization sameDocument sameNumber => fresh other isOther
          (.inr ⟨sameOrganization.symm, sameDocument.symm, .inl sameNumber.symm⟩)
      · exact fun other isOther sameOrganization sameDocument sameContent => fresh other isOther
          (.inr ⟨sameOrganization.symm, sameDocument.symm, .inr sameContent.symm⟩)
      · obtain ⟨owner, isOwner⟩ := Option.ne_none_iff_exists'.mp owned
        have matched := List.find?_some isOwner
        exact ⟨owner, List.mem_of_find?_eq_some isOwner, of_decide_eq_true matched⟩
  · cases numbering

/-- A found document is the one the call looked for. -/
def IsFound (store : KnowledgeStore) (request : IngestionRequest) (validated : ValidatedDocument)
    (found : Option KnowledgeDocument) : Prop :=
  ∀ document ∈ found, document ∈ store.documents ∧
    document.organizationId = request.organizationId ∧ document.sourceId = request.sourceId ∧
      document.externalId = some (request.documentExternalId validated)

/-- Another document of the source has the content of a call. -/
def Overtaken (store : KnowledgeStore) (request : IngestionRequest)
    (validated : ValidatedDocument) : Prop :=
  ∃ version ∈ store.versions, version.organizationId = request.organizationId ∧
    version.contentHash = validated.sha256 ∧ ∃ document ∈ store.documents,
      document.id = version.documentId ∧ document.sourceId = request.sourceId ∧
        document.externalId ≠ some (request.documentExternalId validated)

instance (store : KnowledgeStore) (request : IngestionRequest) (validated : ValidatedDocument) :
    Decidable (Overtaken store request validated) :=
  inferInstanceAs (Decidable (∃ _ ∈ store.versions, _ ∧ _ ∧ ∃ _ ∈ store.documents, _ ∧ _ ∧ _))

namespace RowsInserted

variable (rows : RowsInserted request validated found number store document version after)

include rows

/-- The document of a version is of the organization and the source of the call. -/
theorem scope (isFound : IsFound store request validated found) :
    document.organizationId = request.organizationId ∧ document.sourceId = request.sourceId ∧
      document.externalId = some (request.documentExternalId validated) ∧
        document.id = request.targetId found ∧ document ∈ after.documents := by
  cases rows.filed with
  | found same sameDocuments =>
      subst same
      obtain ⟨present, scope⟩ := isFound document rfl
      exact ⟨scope.1, scope.2.1, scope.2.2, rfl, sameDocuments ▸ present⟩
  | made isNew isId isOrganization isSource isExternal _ _ added =>
      subst isNew
      exact ⟨isOrganization, isSource, isExternal, isId, added ▸ by simp⟩

theorem mem_documents {other : KnowledgeDocument} (isOther : other ∈ store.documents) :
    other ∈ after.documents := by
  cases rows.filed with
  | found _ same => rwa [same]
  | made _ _ _ _ _ _ _ added =>
      rw [added]
      exact List.mem_append_left _ isOther

/-- The numbers of the document get one more, and those of others stay. -/
theorem numbersOf (organizationId documentId : UUID) :
    after.numbersOf organizationId documentId =
      store.numbersOf organizationId documentId ++
        if document.organizationId = organizationId ∧ document.id = documentId then [number]
        else [] := by
  rw [KnowledgeStore.numbersOf, rows.added, List.filter_append, List.map_append,
    KnowledgeStore.numbersOf]
  congr 1
  split
  · next isOwn =>
      rw [← rows.isOrganization, ← rows.isDocument] at isOwn
      rw [List.filter_cons_of_pos, List.filter_nil, List.map_singleton, rows.isNumber]
      exact decide_eq_true isOwn
  · next isOther =>
      rw [← rows.isOrganization, ← rows.isDocument] at isOther
      rw [List.filter_cons_of_neg, List.filter_nil, List.map_nil]
      exact fun same => isOther (of_decide_eq_true same)

/-- The numbers of the document that a call read are no more than they are when it commits. -/
theorem gapless (gapless : store.gapless)
    (isRead : number ≤ store.nextVersion document.organizationId document.id) :
    after.gapless := by
  intro organizationId documentId
  rw [rows.numbersOf]
  split
  · next isOwn =>
      obtain ⟨rfl, rfl⟩ := isOwn
      rw [nextVersion_of_gapless gapless] at isRead
      have old := gapless document.organizationId document.id
      have isNew : number ∉ store.numbersOf document.organizationId document.id := by
        intro isOld
        obtain ⟨other, isOther, sameNumber⟩ := List.mem_map.mp isOld
        obtain ⟨present, isOf⟩ := List.mem_filter.mp isOther
        obtain ⟨sameOrganization, sameDocument⟩ := of_decide_eq_true isOf
        exact rows.freshNumber other present sameOrganization sameDocument sameNumber
      have positive := rows.positive
      rw [old, List.mem_range'_1] at isNew
      have isNext : number =
          1 + (store.numbersOf document.organizationId document.id).length := by
        omega
      rw [List.length_append, List.length_singleton, List.range'_concat, ← old, one_mul, isNext]
  · rw [List.append_nil]
    exact gapless organizationId documentId

theorem nextVersion_le (gapless : store.gapless)
    (isRead : number ≤ store.nextVersion document.organizationId document.id)
    (organizationId documentId : UUID) :
    store.nextVersion organizationId documentId ≤
      after.nextVersion organizationId documentId := by
  rw [nextVersion_of_gapless gapless, nextVersion_of_gapless (rows.gapless gapless isRead),
    rows.numbersOf, List.length_append]
  omega

/-- Rows stay told apart. -/
theorem keyed (keyed : store.Keyed) : after.Keyed := by
  have owned : ∀ version ∈ after.versions, ∃ document ∈ after.documents,
      document.id = version.documentId ∧ document.organizationId = version.organizationId := by
    rw [rows.added]
    refine List.forall_mem_append.mpr ⟨fun version isVersion => ?_, ?_⟩
    · obtain ⟨owner, isOwner, isOf⟩ := keyed.owned version isVersion
      exact ⟨owner, rows.mem_documents isOwner, isOf⟩
    · rw [List.forall_mem_singleton, rows.isDocument, rows.isOrganization]
      exact rows.present
  cases rows.filed with
  | found _ same => exact ⟨same ▸ keyed.ids, same ▸ keyed.externals, owned⟩
  | made _ _ isOrganization isSource isExternal freshId freshExternal added =>
      refine ⟨?_, ?_, owned⟩
      · intro first isFirst second isSecond same
        rw [added, List.mem_append, List.mem_singleton] at isFirst isSecond
        rcases isFirst with oldFirst | rfl <;> rcases isSecond with oldSecond | rfl
        · exact keyed.ids first oldFirst second oldSecond same
        · exact absurd same.symm (freshId first oldFirst)
        · exact absurd same (freshId second oldSecond)
        · rfl
      · rintro first isFirst second isSecond sameOrganization sameSource ⟨external, isOf, sameOf⟩
        rw [added, List.mem_append, List.mem_singleton] at isFirst isSecond
        rw [Option.mem_def] at isOf
        rcases isFirst with oldFirst | rfl <;> rcases isSecond with oldSecond | rfl
        · exact keyed.externals first oldFirst second oldSecond sameOrganization sameSource
            ⟨external, isOf, sameOf⟩
        · rw [isExternal] at sameOf
          exact absurd (isOf.trans sameOf.symm) (freshExternal first oldFirst
            (sameOrganization.trans isOrganization) (sameSource.trans isSource))
        · rw [isExternal] at isOf
          exact absurd (sameOf.trans isOf.symm) (freshExternal second oldSecond
            (sameOrganization.symm.trans isOrganization) (sameSource.symm.trans isSource))
        · rfl

/-- The content of a call that was not overtaken is new in its source. -/
theorem isNew (keyed : store.Keyed) (isFound : IsFound store request validated found)
    (first : ¬ Overtaken store request validated) {old : KnowledgeDocumentVersion}
    (isOld : old ∈ store.versions) (sameOrganization : old.organizationId = request.organizationId)
    (sameContent : old.contentHash = validated.sha256) {owner : KnowledgeDocument}
    (isOwner : owner ∈ after.documents) (isOf : owner.id = old.documentId) :
    owner.sourceId ≠ request.sourceId := by
  intro sameSource
  obtain ⟨own, isOwn, ownOf, ownOrganization⟩ := keyed.owned old isOld
  obtain rfl : owner = own := (rows.keyed keyed).ids owner isOwner own (rows.mem_documents isOwn)
    (isOf.trans ownOf.symm)
  have sameExternal : owner.externalId = some (request.documentExternalId validated) := by
    by_contra differs
    exact first ⟨old, isOld, sameOrganization, sameContent, owner, isOwn, isOf, sameSource, differs⟩
  obtain ⟨isOrganization, isSource, isExternal, -, -⟩ := rows.scope isFound
  have ownScope := ownOrganization.trans sameOrganization
  cases rows.filed with
  | found same _ =>
      subst same
      obtain rfl : owner = document := keyed.externals owner isOwn document (isFound document rfl).1
        (ownScope.trans isOrganization.symm) (sameSource.trans isSource.symm)
        ⟨_, sameExternal, isExternal⟩
      exact rows.freshContent old isOld ownOrganization.symm isOf.symm sameContent
  | made _ _ _ _ _ _ freshExternal _ =>
      exact freshExternal owner isOwn ownScope sameSource sameExternal

/-- The contents of a source stay distinct, unless the call was overtaken. -/
theorem contentOnce (once : store.contentOnce) (keyed : store.Keyed)
    (isFound : IsFound store request validated found)
    (first : ¬ Overtaken store request validated) : after.contentOnce := by
  obtain ⟨isOrganization, isSource, -, -, isAfter⟩ := rows.scope isFound
  have ofNew : ∀ owner ∈ after.documents, owner.id = version.documentId →
      owner.sourceId = request.sourceId := by
    intro owner isOwner isOf
    have isOwn : owner = document :=
      (rows.keyed keyed).ids owner isOwner document isAfter (isOf.trans rows.isDocument)
    rw [isOwn, isSource]
  have apart : ∀ old ∈ store.versions, old.organizationId = version.organizationId →
      old.contentHash = version.contentHash → ∀ owner ∈ after.documents,
        owner.id = old.documentId → owner.sourceId ≠ request.sourceId :=
    fun old isOld sameOrganization sameContent owner isOwner isOf =>
      rows.isNew keyed isFound first isOld
        (sameOrganization.trans (rows.isOrganization.trans isOrganization))
        (sameContent.trans rows.isContent) isOwner isOf
  intro left isLeft right isRight sameOrganization sameContent leftOwner isLeftOwner rightOwner
    isRightOwner leftOf rightOf sameSource
  rw [rows.added, List.mem_append, List.mem_singleton] at isLeft isRight
  rcases isLeft with oldLeft | rfl <;> rcases isRight with oldRight | rfl
  · have stored : ∀ old ∈ store.versions, ∀ owner ∈ after.documents, owner.id = old.documentId →
        owner ∈ store.documents := by
      intro old isOld owner isOwner isOf
      obtain ⟨own, isOwn, ownOf, -⟩ := keyed.owned old isOld
      rwa [(rows.keyed keyed).ids owner isOwner own (rows.mem_documents isOwn)
        (isOf.trans ownOf.symm)]
    exact once left oldLeft right oldRight sameOrganization sameContent
      leftOwner (stored left oldLeft leftOwner isLeftOwner leftOf)
      rightOwner (stored right oldRight rightOwner isRightOwner rightOf) leftOf rightOf sameSource
  · exact absurd (sameSource.trans (ofNew rightOwner isRightOwner rightOf))
      (apart left oldLeft sameOrganization sameContent leftOwner isLeftOwner leftOf)
  · exact absurd (sameSource.symm.trans (ofNew leftOwner isLeftOwner leftOf))
      (apart right oldRight sameOrganization.symm sameContent.symm rightOwner isRightOwner rightOf)
  · rfl

end RowsInserted

/-! ## Steps -/

/-- The request of a call that has a job. -/
def IngestionPhase.request? : IngestionPhase → Option IngestionRequest
  | .idle | .refused _ _ => none
  | .validating request | .scanning request _ | .parsing request _ | .filed request _ _ _
  | .numbered request _ _ _ _ | .failing request _ | .raised request _ | .returned request _ =>
      some request

/-- A change of a job leaves its identifier and its organization. -/
def KeepsJob (change : KnowledgeIngestionJob → KnowledgeIngestionJob) : Prop :=
  ∀ job, (change job).id = job.id ∧ (change job).organizationId = job.organizationId

/-- What a turn can do. -/
inductive IngestionStep (tables : IngestionTables) :
    IngestionPhase → IngestionAct → IngestionTables → IngestionPhase → Prop where
  | begun {request : IngestionRequest} {job : KnowledgeIngestionJob}
      (fresh : ∀ other ∈ tables.jobs, other.id ≠ request.jobId)
      (isJob : job.id = request.jobId ∧ job.organizationId = request.organizationId) :
      IngestionStep tables .idle (.begin request) { tables with jobs := tables.jobs ++ [job] }
        (.validating request)
  | refused {request : IngestionRequest} {exception : IngestionException} {act : IngestionAct} :
      IngestionStep tables .idle act tables (.refused request exception)
  | failed {phase : IngestionPhase} {request : IngestionRequest}
      {exception : IngestionException} {act : IngestionAct}
      (isOf : phase.request? = some request) :
      IngestionStep tables phase act tables (.failing request exception)
  | validated {request : IngestionRequest} {validated : ValidatedDocument}
      {change : KnowledgeIngestionJob → KnowledgeIngestionJob} (keeps : KeepsJob change) :
      IngestionStep tables (.validating request) .proceed (tables.setJob request.jobId change)
        (.scanning request validated)
  | duplicate {request : IngestionRequest} {validated : ValidatedDocument}
      {result : IngestionResult} {change : KnowledgeIngestionJob → KnowledgeIngestionJob}
      (keeps : KeepsJob change)
      (isDuplicate : result.status = .duplicate) :
      IngestionStep tables (.scanning request validated) .proceed
        (tables.setJob request.jobId change) (.returned request result)
  | scanned {request : IngestionRequest} {validated : ValidatedDocument}
      {change : KnowledgeIngestionJob → KnowledgeIngestionJob} (keeps : KeepsJob change) :
      IngestionStep tables (.scanning request validated) .proceed
        (tables.setJob request.jobId change) (.parsing request validated)
  | parsed {request : IngestionRequest} {validated : ValidatedDocument} {parsed : ParsedDocument} :
      IngestionStep tables (.parsing request validated) .proceed tables
        (.filed request validated parsed (request.file.existing? tables.knowledge validated))
  | counted {request : IngestionRequest} {validated : ValidatedDocument}
      {parsed : ParsedDocument} {found : Option KnowledgeDocument} :
      IngestionStep tables (.filed request validated parsed found) .proceed tables
        (.numbered request validated parsed found
          (tables.knowledge.nextVersion request.organizationId (request.targetId found)))
  | stored {request : IngestionRequest} {validated : ValidatedDocument}
      {parsed : ParsedDocument} {found : Option KnowledgeDocument} {number : Nat}
      {document : KnowledgeDocument} {version : KnowledgeDocumentVersion}
      {store : KnowledgeStore} {change : KnowledgeIngestionJob → KnowledgeIngestionJob}
      (rows : RowsInserted request validated found number tables.knowledge document version store)
      (keeps : KeepsJob change) :
      IngestionStep tables (.numbered request validated parsed found number) .proceed
        ({ tables with knowledge := store }.setJob request.jobId change)
        (.returned request {
          status := .succeeded
          jobId := request.jobId
          documentId := some document.id
          documentVersionId := some version.id
          version := some number
          contentHash := some validated.sha256 })
  | recorded {request : IngestionRequest} {exception : IngestionException} :
      IngestionStep tables (.failing request exception) .proceed
        (recordFailure tables request exception).1 (.raised request exception.surfaced)
  | unrecorded {request : IngestionRequest} {exception : IngestionException} :
      IngestionStep tables (.failing request exception) .fail tables (.raised request .other)

variable {tables later : IngestionTables} {phase next : IngestionPhase} {act : IngestionAct}

/-- A turn is one of these. -/
theorem IngestionStep.of_turn (turned : ingestionTurn tables phase act = some (later, next)) :
    IngestionStep tables phase act later next := by
  unfold ingestionTurn at turned
  split at turned
  · next request =>
      have done : beginIngestion tables request = (later, next) := Option.some.inj turned
      unfold beginIngestion at done
      split at done
      · cases done
        exact .refused
      · split at done
        · cases done
          exact .refused
        · split at done
          · cases done
            exact .refused
          · next taken =>
              cases done
              exact .begun (fun other isOther same => taken ⟨other, isOther, same⟩) ⟨rfl, rfl⟩
  · cases turned
    exact .refused
  · next request =>
      have done : validateIngestion tables request = (later, next) := Option.some.inj turned
      unfold validateIngestion at done
      split at done
      · cases done
        exact .failed rfl
      · cases done
        exact .validated fun _ => ⟨rfl, rfl⟩
  · next request validated =>
      have done : scanIngestion tables request validated = (later, next) := Option.some.inj turned
      unfold scanIngestion at done
      split at done
      · cases done
        exact .failed rfl
      · split at done
        · cases done
          exact .duplicate (fun _ => ⟨rfl, rfl⟩) rfl
        · cases done
          exact .scanned fun _ => ⟨rfl, rfl⟩
  · next request validated =>
      have done : parseIngestion tables request validated = (later, next) := Option.some.inj turned
      unfold parseIngestion at done
      split at done
      · cases done
        exact .failed rfl
      · cases done
        exact .parsed
  · cases turned
    exact .counted
  · next request validated parsed found number =>
      have done : storeIngestion tables request validated parsed found number = (later, next) :=
        Option.some.inj turned
      unfold storeIngestion at done
      split at done
      · cases done
        exact .failed rfl
      · next inserted =>
          cases done
          exact .stored (.of_insertRows inserted) fun _ => ⟨rfl, rfl⟩
  · cases turned
    exact .failed rfl
  · cases turned
    exact .failed rfl
  · cases turned
    exact .failed rfl
  · cases turned
    exact .failed rfl
  · cases turned
    exact .failed rfl
  · cases turned
    exact .recorded
  · cases turned
    exact .unrecorded
  · cases turned

/-! ## What a call relies on -/

/-- What a call has read is still so: its document is there, and its number is not beyond the next
one. -/
def StillRead (store : KnowledgeStore) : IngestionPhase → Prop
  | .filed request validated _ found => IsFound store request validated found
  | .numbered request validated _ found number => IsFound store request validated found ∧
      number ≤ store.nextVersion request.organizationId (request.targetId found)
  | _ => True

/-- The job of a call is there, and ended if the call was raised. -/
structure JobStands (jobs : List KnowledgeIngestionJob) (phase : IngestionPhase) : Prop where
  present : ∀ request ∈ phase.request?, ∃ job ∈ jobs,
    job.id = request.jobId ∧ job.organizationId = request.organizationId
  ended : ∀ request exception, phase = .raised request exception → ∃ job ∈ jobs,
    job.id = request.jobId ∧ (job.status = .failed ∨ job.status = .rejected)

/-- Two calls have different jobs. -/
def JobsApart (first second : IngestionPhase) : Prop :=
  ∀ request ∈ first.request?, ∀ other ∈ second.request?, request.jobId ≠ other.jobId

theorem JobsApart.symm {first second : IngestionPhase} (apart : JobsApart first second) :
    JobsApart second first :=
  fun request isFirst other isSecond same => apart other isSecond request isFirst same.symm

/-- Rows stay, but for the job of one call. -/
structure Grows (id : UUID) (tables later : IngestionTables) : Prop where
  jobs : ∀ job ∈ tables.jobs, job.id ≠ id → job ∈ later.jobs
  documents : ∀ document ∈ tables.knowledge.documents, document ∈ later.knowledge.documents
  next : ∀ organizationId documentId, tables.knowledge.nextVersion organizationId documentId ≤
    later.knowledge.nextVersion organizationId documentId

theorem Grows.setJob {id : UUID} {change : KnowledgeIngestionJob → KnowledgeIngestionJob}
    (tables : IngestionTables) : Grows id tables (tables.setJob id change) := by
  refine ⟨fun job present isOther => ?_, fun _ present => present, fun _ _ => le_rfl⟩
  exact List.mem_map.mpr ⟨job, present, if_neg isOther⟩

/-- What another call relies on stays so. -/
theorem Grows.stillRead {id : UUID} (grows : Grows id tables later)
    (read : StillRead tables.knowledge phase) : StillRead later.knowledge phase := by
  have found : ∀ {request validated found}, IsFound tables.knowledge request validated found →
      IsFound later.knowledge request validated found :=
    fun isFound document isDocument => ⟨grows.documents document (isFound document isDocument).1,
      (isFound document isDocument).2⟩
  cases phase with
  | filed request validated parsed _ => exact found read
  | numbered request validated parsed _ number =>
      exact ⟨found read.1, read.2.trans (grows.next ..)⟩
  | _ => trivial

theorem Grows.jobStands {id : UUID} (grows : Grows id tables later)
    (stands : JobStands tables.jobs phase)
    (isOther : ∀ request ∈ phase.request?, request.jobId ≠ id) : JobStands later.jobs phase := by
  refine ⟨fun request isRequest => ?_, fun request exception isRaised => ?_⟩
  · obtain ⟨job, present, isJob, isOrganization⟩ := stands.present request isRequest
    exact ⟨job, grows.jobs job present (isJob ▸ isOther request isRequest), isJob, isOrganization⟩
  · subst isRaised
    obtain ⟨job, present, isJob, isEnded⟩ := stands.ended request exception rfl
    exact ⟨job, grows.jobs job present (isJob ▸ isOther request rfl), isJob, isEnded⟩

/-! ## What a turn keeps -/

/-- The tables are as they are to be. -/
structure TablesExact (tables : IngestionTables) : Prop where
  gapless : tables.knowledge.gapless
  keyed : tables.knowledge.Keyed
  contentOnce : tables.knowledge.contentOnce

theorem RowsInserted.isRead
    (rows : RowsInserted request validated found number store document version after)
    (read : StillRead store (.numbered request validated parsed found number)) :
    number ≤ store.nextVersion document.organizationId document.id := by
  obtain ⟨isOrganization, -, -, isTarget, -⟩ := rows.scope read.1
  rw [isOrganization, isTarget]
  exact read.2

namespace IngestionStep

variable (step : IngestionStep tables phase act later next)

include step

/-- A call keeps its job, or gets one that nobody has. -/
theorem request_of_next : ∀ request ∈ next.request?,
    phase.request? = some request ∨ ∀ other ∈ tables.jobs, other.id ≠ request.jobId := by
  intro request isRequest
  cases step with
  | begun fresh _ =>
      cases isRequest
      exact .inr fresh
  | refused => cases isRequest
  | failed isOf =>
      cases isRequest
      exact .inl isOf
  | _ => exact .inl isRequest

/-- A turn changes no row but the job of its call. -/
theorem grows (gapless : tables.knowledge.gapless) (read : StillRead tables.knowledge phase) :
    later = tables ∨ ∃ request ∈ next.request?, Grows request.jobId tables later := by
  cases step with
  | begun fresh isJob =>
      exact .inr ⟨_, rfl, ⟨fun other present _ => List.mem_append_left _ present,
        fun _ present => present, fun _ _ => le_rfl⟩⟩
  | validated | duplicate | scanned | recorded => exact .inr ⟨_, rfl, .setJob tables⟩
  | refused | failed | parsed | counted | unrecorded => exact .inl rfl
  | stored rows _ =>
      refine .inr ⟨_, rfl, ⟨fun job present isOther => ?_, fun _ => rows.mem_documents,
        rows.nextVersion_le gapless (rows.isRead read)⟩⟩
      exact List.mem_map.mpr ⟨job, present, if_neg isOther⟩

theorem stillRead (read : StillRead tables.knowledge phase) :
    StillRead later.knowledge next := by
  cases step with
  | @parsed request validated _ =>
      intro document isDocument
      have matched := List.find?_some isDocument
      simp only [decide_eq_true_eq] at matched
      exact ⟨List.mem_of_find?_eq_some isDocument, matched⟩
  | counted => exact ⟨read, le_rfl⟩
  | _ => trivial

/-- The job of a call comes as far as the call, if its failure is recorded. -/
theorem jobStands (stands : JobStands tables.jobs phase)
    (recorded : ∀ request exception, phase = .failing request exception → act ≠ .fail) :
    JobStands later.jobs next := by
  have kept : ∀ {request : IngestionRequest} {change}, phase.request? = some request →
      KeepsJob change → ∃ job ∈ (tables.setJob request.jobId change).jobs,
        job.id = request.jobId ∧ job.organizationId = request.organizationId := by
    intro request change isOf keeps
    obtain ⟨job, present, isJob, isOrganization⟩ := stands.present request isOf
    refine ⟨change job, List.mem_map.mpr ⟨job, present, if_pos isJob⟩, ?_⟩
    exact ⟨(keeps job).1.trans isJob, (keeps job).2.trans isOrganization⟩
  cases step with
  | @begun request job fresh isJob =>
      refine ⟨fun other isOther => ?_, fun _ _ isRaised => nomatch isRaised⟩
      cases isOther
      exact ⟨job, List.mem_append_right _ (List.mem_singleton_self _), isJob⟩
  | refused => exact ⟨fun _ none => (nomatch none), fun _ _ isRaised => nomatch isRaised⟩
  | failed isOf =>
      refine ⟨fun other isOther => ?_, fun _ _ isRaised => nomatch isRaised⟩
      cases isOther
      exact stands.present _ isOf
  | validated keeps | duplicate keeps _ | scanned keeps | stored _ keeps =>
      refine ⟨fun other isOther => ?_, fun _ _ isRaised => nomatch isRaised⟩
      cases isOther
      exact kept rfl keeps
  | parsed | counted =>
      exact ⟨fun other isOther => stands.present other isOther,
        fun _ _ isRaised => nomatch isRaised⟩
  | @recorded request exception =>
      obtain ⟨job, present, isJob, isOrganization⟩ := stands.present request rfl
      have isRecorded : ({ job with
          status := exception.jobStatus
          errorCode := some exception.errorCode } : KnowledgeIngestionJob) ∈
          (recordFailure tables request exception).1.jobs := by
        refine List.mem_map.mpr ⟨job, present, ?_⟩
        rw [if_pos isJob]
        exact if_pos isOrganization
      refine ⟨fun other isOther => ?_, fun other raised isRaised => ?_⟩
      · cases isOther
        exact ⟨_, isRecorded, isJob, isOrganization⟩
      · cases isRaised
        refine ⟨_, isRecorded, isJob, ?_⟩
        unfold IngestionException.jobStatus
        split
        · exact .inl rfl
        · exact .inl rfl
        · exact .inl rfl
        · exact .inr rfl
  | unrecorded => exact absurd rfl (recorded _ _ rfl)

theorem tablesExact (sound : TablesExact tables) (read : StillRead tables.knowledge phase)
    (first : ∀ request validated parsed found number,
      phase = .numbered request validated parsed found number → act = .proceed →
        ¬ Overtaken tables.knowledge request validated) : TablesExact later := by
  cases step with
  | stored rows _ =>
      exact ⟨rows.gapless sound.gapless (rows.isRead read), rows.keyed sound.keyed,
        rows.contentOnce sound.contentOnce sound.keyed read.1 (first _ _ _ _ _ rfl rfl)⟩
  | _ => exact ⟨sound.gapless, sound.keyed, sound.contentOnce⟩

end IngestionStep

/-! ## Runs -/

/-- One new version is stored, of the document of the result, with its content and its number; its
document is an old one or stored with it. -/
structure StoresVersion (before after : KnowledgeStore) (result : IngestionResult) : Prop where
  version : ∃ version, after.versions = before.versions ++ [version] ∧
    result.documentVersionId = some version.id ∧ result.version = some version.version ∧
      result.documentId = some version.documentId ∧
        result.contentHash = some version.contentHash
  document : after.documents = before.documents ∨ ∃ document,
    after.documents = before.documents ++ [document] ∧ result.documentId = some document.id

/-- A turn stores a version exactly when its call returns with success. -/
theorem IngestionStep.stores (step : IngestionStep tables phase act later next) :
    (later.knowledge.documents = tables.knowledge.documents ∧
      later.knowledge.versions = tables.knowledge.versions ∧
        ∀ request result, next = .returned request result → result.status ≠ .succeeded) ∨
    ∃ request result, next = .returned request result ∧ result.status = .succeeded ∧
      StoresVersion tables.knowledge later.knowledge result := by
  cases step with
  | duplicate _ isDuplicate =>
      refine .inl ⟨rfl, rfl, fun _ _ isReturned isSuccess => ?_⟩
      cases isReturned
      cases isDuplicate.symm.trans isSuccess
  | stored rows _ =>
      refine .inr ⟨_, _, rfl, rfl, ⟨_, rows.added, rfl, ?_, ?_, ?_⟩, ?_⟩
      · exact congrArg some rows.isNumber.symm
      · exact congrArg some rows.isDocument.symm
      · exact congrArg some rows.isContent.symm
      · cases rows.filed with
        | found _ same => exact .inl same
        | made _ _ _ _ _ _ _ added => exact .inr ⟨_, added, rfl⟩
  | _ => exact .inl ⟨rfl, rfl, fun _ _ isReturned => nomatch isReturned⟩

/-- Any number of calls. -/
def ingestionCalls : Turns IngestionTables IngestionPhase IngestionAct where
  Initial := TablesExact
  idle := .idle
  turn := ingestionTurn

section Runs

variable {Id : Type}

/-- The state of the calls and of the tables. -/
abbrev Ingestions (Id : Type) := Parties Id IngestionTables IngestionPhase

/-- A step changed no document and no version. -/
def StoresNothing (step : TakenStep (Ingestions Id) (Id × IngestionAct)) : Prop :=
  step.after.shared.knowledge.documents = step.before.shared.knowledge.documents ∧
    step.after.shared.knowledge.versions = step.before.shared.knowledge.versions

/-- Versions are numbered without gaps, contents are once in a source, and the job of every call
that was raised has failed or was rejected. -/
structure IngestedExactly (parties : Ingestions Id) : Prop where
  numbered : parties.shared.knowledge.gapless
  once : parties.shared.knowledge.contentOnce
  ended : ∀ party request exception, parties.locals party = .raised request exception →
    ∃ job ∈ parties.shared.jobs, job.id = request.jobId ∧
      (job.status = .failed ∨ job.status = .rejected)

/-- A step stores nothing, or one version as its call returns with success; after it the tables are
exact. -/
structure IngestsExactly (step : TakenStep (Ingestions Id) (Id × IngestionAct)) : Prop where
  whole : StoresNothing step ∨ ∃ request result,
    step.after.locals step.label.1 = .returned request result ∧ result.status = .succeeded
  succeeded : ∀ request result, step.after.locals step.label.1 = .returned request result →
    result.status = .succeeded →
      StoresVersion step.before.shared.knowledge step.after.shared.knowledge result
  exactly : IngestedExactly step.after

/-- The call was raised, with a job or without. -/
def IngestionPhase.isRaised : IngestionPhase → Prop
  | .refused _ _ | .raised _ _ => True
  | _ => False

/-- A call that commits was not overtaken since it looked for duplicates, and a failure is
recorded. -/
def MeetsNoOther (before : Ingestions Id) (label : Id × IngestionAct) (_ : Ingestions Id) : Prop :=
  match before.locals label.1, label.2 with
  | .numbered request validated _ _ _, .proceed =>
      ¬ Overtaken before.shared.knowledge request validated
  | .failing _ _, .fail => False
  | _, _ => True

instance (before : Ingestions Id) (label : Id × IngestionAct) (after : Ingestions Id) :
    Decidable (MeetsNoOther before label after) := by
  unfold MeetsNoOther
  split <;> infer_instance

/-- What a call relies on, of the tables. -/
def CallStands (tables : IngestionTables) (phase : IngestionPhase) : Prop :=
  StillRead tables.knowledge phase ∧ JobStands tables.jobs phase

/-- The tables are exact, and calls stand, each with its own job. -/
abbrev IngestionsWell : Ingestions Id → Prop := Parties.Well TablesExact CallStands JobsApart

theorem IngestionsWell.exactly {parties : Ingestions Id} (well : IngestionsWell parties) :
    IngestedExactly parties :=
  ⟨well.common.gapless, well.common.contentOnce, fun party request exception isRaised =>
    (well.own party).2.ended request exception isRaised⟩

variable {before after : Ingestions Id} {label : Id × IngestionAct}

theorem MeetsNoOther.first (meets : MeetsNoOther before label after) {request : IngestionRequest}
    {validated : ValidatedDocument} {parsed : ParsedDocument} {found : Option KnowledgeDocument}
    {number : Nat} (isNumbered : before.locals label.1 =
      .numbered request validated parsed found number) (proceeds : label.2 = .proceed) :
    ¬ Overtaken before.shared.knowledge request validated := by
  simpa only [MeetsNoOther, isNumbered, proceeds] using meets

theorem MeetsNoOther.recorded (meets : MeetsNoOther before label after)
    {request : IngestionRequest} {exception : IngestionException}
    (isFailing : before.locals label.1 = .failing request exception) : label.2 ≠ .fail := by
  intro fails
  simp only [MeetsNoOther, isFailing, fails] at meets

variable [DecidableEq Id]

/-- A step that meets no other keeps the calls and the tables well. -/
theorem IngestionsWell.step (well : IngestionsWell before)
    (step : (ingestionCalls.system Id).Step before label after)
    (meets : MeetsNoOther before label after) : IngestionsWell after := by
  obtain ⟨⟨tables, phase⟩, turned, rfl⟩ := Turns.next_eq_some_iff.mp step
  have moved := IngestionStep.of_turn turned
  obtain ⟨read, stands⟩ := well.own label.1
  have apart : ∀ other ≠ label.1, JobsApart (before.locals other) phase := by
    intro other isOther request isRequest own isOwn
    obtain isOf | fresh := moved.request_of_next own isOwn
    · exact well.apart other label.1 isOther request isRequest own isOf
    · obtain ⟨job, present, isJob, -⟩ := (well.own other).2.present request isRequest
      exact fun same => fresh job present (isJob.trans same)
  have sound : TablesExact tables :=
    moved.tablesExact well.common read fun _ _ _ _ _ => meets.first
  have own : CallStands tables phase :=
    ⟨moved.stillRead read, moved.jobStands stands fun _ _ => meets.recorded⟩
  refine well.step JobsApart.symm sound own (fun other isOther => ?_) apart
  obtain ⟨otherRead, otherStands⟩ := well.own other
  obtain same | ⟨own, isOwn, grows⟩ := moved.grows well.common.gapless read
  · exact same ▸ ⟨otherRead, otherStands⟩
  · exact ⟨grows.stillRead otherRead, grows.jobStands otherStands fun request isRequest =>
      apart other isOther request isRequest own isOwn⟩

theorem IngestionsWell.initial (initial : (ingestionCalls.system Id).Initial before) :
    IngestionsWell before := by
  obtain ⟨sound, isIdle⟩ := initial
  refine ⟨sound, fun party => ?_, fun first second _ request isRequest => ?_⟩
  · rw [isIdle party]
    exact ⟨trivial, fun _ none => (nomatch none), fun _ _ isRaised => nomatch isRaised⟩
  · rw [isIdle first] at isRequest
    cases isRequest

theorem stores_of_step (step : (ingestionCalls.system Id).Step before label after) :
    (StoresNothing ⟨before, label, after⟩ ∧ ∀ request result,
      after.locals label.1 = .returned request result → result.status ≠ .succeeded) ∨
    ∃ request result, after.locals label.1 = .returned request result ∧
      result.status = .succeeded ∧
        StoresVersion before.shared.knowledge after.shared.knowledge result := by
  obtain ⟨⟨tables, phase⟩, turned, rfl⟩ := Turns.next_eq_some_iff.mp step
  rw [Parties.after_own]
  exact (IngestionStep.of_turn turned).stores.imp_left fun ⟨documents, versions, unreturned⟩ =>
    ⟨⟨documents, versions⟩, unreturned⟩

theorem not_returned_of_step (step : (ingestionCalls.system Id).Step before label after)
    {request : IngestionRequest} {result : IngestionResult} :
    before.locals label.1 ≠ .returned request result := by
  intro isReturned
  obtain ⟨_, turned, -⟩ := Turns.next_eq_some_iff.mp step
  rw [isReturned] at turned
  cases label.2 <;> cases turned

/-- **Ingestion is atomic and versions are exact.** Where no call commits after another document of
its source has got its content since it looked for duplicates, and failures are recorded: every
step stores nothing, or one version as its call returns with success; versions are numbered
without gaps, a source has no content twice, and a call that was raised has stored nothing and left
its job failed or rejected. -/
theorem ingestsExactly_of_trace {start state : Ingestions Id}
    {taken : List (TakenStep (Ingestions Id) (Id × IngestionAct))}
    (initial : (ingestionCalls.system Id).Initial start)
    (trace : ((ingestionCalls.system Id).restrict MeetsNoOther).Trace start taken state) :
    (∀ step ∈ taken, IngestsExactly step) ∧ ∀ party, (state.locals party).isRaised →
      ∀ step ∈ taken, step.label.1 = party → StoresNothing step := by
  have each : IngestionsWell state ∧ (∀ step ∈ taken, IngestsExactly step) ∧
      ∀ step ∈ taken, StoresNothing step ∨
        ∃ request result, state.locals step.label.1 = .returned request result := by
    induction trace with
    | refl => exact ⟨.initial initial, by simp, by simp⟩
    | @step taken before label after prior transition ih =>
        obtain ⟨well, exactly, returned⟩ := ih
        obtain ⟨step, meets⟩ := transition
        have wellAfter := well.step step meets
        have stores := stores_of_step step
        refine ⟨wellAfter, List.forall_mem_append.mpr ⟨exactly, ?_⟩,
          List.forall_mem_append.mpr ⟨fun earlier isEarlier => ?_, ?_⟩⟩
        · refine List.forall_mem_singleton.mpr ⟨?_, fun request result isReturned isSuccess => ?_,
            wellAfter.exactly⟩
          · exact stores.imp And.left fun ⟨request, result, isReturned, isSuccess, _⟩ =>
              ⟨request, result, isReturned, isSuccess⟩
          · obtain ⟨-, unreturned⟩ | ⟨_, _, isSame, -, stored⟩ := stores
            · exact absurd isSuccess (unreturned request result isReturned)
            · cases isSame.symm.trans isReturned
              exact stored
        · -- a call that has returned is not the one that takes its turn
          refine (returned earlier isEarlier).imp_right fun ⟨request, result, isReturned⟩ =>
            ⟨request, result, ?_⟩
          have isOther : earlier.label.1 ≠ label.1 := fun same =>
            not_returned_of_step step (same ▸ isReturned)
          obtain ⟨_, -, rfl⟩ := Turns.next_eq_some_iff.mp step
          rw [Parties.after_other isOther, isReturned]
        · refine List.forall_mem_singleton.mpr (stores.imp And.left ?_)
          exact fun ⟨request, result, isReturned, _⟩ => ⟨request, result, isReturned⟩
  obtain ⟨-, exactly, returned⟩ := each
  refine ⟨exactly, fun party isRaised step isStep isOf => ?_⟩
  obtain nothing | ⟨request, result, isReturned⟩ := returned step isStep
  · exact nothing
  · rw [← isOf, isReturned] at isRaised
    exact isRaised.elim

end Runs

/-! ## Samples -/

namespace IngestionSample

theorem minutesBound : "minutes".toList.length ≤ 50 := by decide

/-- A source without documents. -/
def emptyTables : IngestionTables where
  knowledge :=
    { sources := [{
        id := 1
        organizationId := 2
        sourceType := "minutes".toList
        name := "Minutes".toList
        classification := .internal
        sourceTypeBound := minutesBound }]
      documents := []
      versions := [] }

/-- The content of every file of the samples. -/
def digest : Digest := .repeated '0'

/-- A file of that content, with the identifiers drawn for its rows. -/
def upload (filename : Text) (number : UUID) : IngestionRequest where
  organizationId := 2
  sourceId := 1
  classification := .internal
  validated := .ok { filename := filename, sha256 := digest }
  parsed := .ok { text := "Agenda".toList }
  jobId := number
  documentId := number
  versionId := number

/-- Two callers, before either has called. -/
def start : Ingestions Bool := ⟨emptyTables, fun _ => .idle⟩

theorem start_initial : (ingestionCalls.system Bool).Initial start := by
  refine ⟨⟨fun _ _ => rfl, ⟨?_, ?_, ?_⟩, ?_⟩, fun _ => rfl⟩
  · exact fun _ none => absurd none List.not_mem_nil
  · exact fun _ none => absurd none List.not_mem_nil
  · exact fun _ none => absurd none List.not_mem_nil
  · exact fun _ none => absurd none List.not_mem_nil

/-- The turns of a caller whose file is stored. -/
def wholeCall (caller : Bool) (filename : Text) (number : UUID) : List (Bool × IngestionAct) :=
  (caller, .begin (upload filename number)) :: List.replicate 5 (caller, .proceed)

/-- One file, and then another of the same content. -/
def inTurn : List (Bool × IngestionAct) :=
  wholeCall false "first.txt".toList 3 ++
    [(true, .begin (upload "second.txt".toList 4)), (true, .proceed), (true, .proceed)]

/-- Two files of the same content, each looked for before the other is stored. -/
def atOnce : List (Bool × IngestionAct) :=
  [(false, .begin (upload "first.txt".toList 3)), (false, .proceed), (false, .proceed),
    (true, .begin (upload "second.txt".toList 4)), (true, .proceed), (true, .proceed),
    (false, .proceed), (false, .proceed), (false, .proceed),
    (true, .proceed), (true, .proceed), (true, .proceed)]

end IngestionSample

open TransitionSystem IngestionSample in
/-- A file that comes after another of the same content is a duplicate. -/
theorem ingestsExactly_of_trace_inTurn :
    ∃ taken state, ((ingestionCalls.system Bool).restrict MeetsNoOther).Trace start taken state ∧
      taken.length = inTurn.length ∧
      (∀ step ∈ taken, IngestsExactly step) ∧ ∀ party, (state.locals party).isRaised →
        ∀ step ∈ taken, step.label.1 = party → StoresNothing step := by
  have ran : (takenBy (ingestionCalls.admitted MeetsNoOther) start inTurn).map
      (·.1.length) = some inTurn.length := by decide +kernel
  obtain ⟨⟨taken, state⟩, isRun, isLength⟩ := Option.map_eq_some_iff.mp ran
  have trace : ((ingestionCalls.system Bool).restrict MeetsNoOther).Trace start taken state := by
    refine .of_takenBy (fun admitted => ?_) isRun
    obtain ⟨step, meets⟩ := Option.filter_eq_some_iff.mp admitted
    exact ⟨step, of_decide_eq_true meets⟩
  exact ⟨taken, state, trace, isLength, ingestsExactly_of_trace start_initial trace⟩

open TransitionSystem IngestionSample in
/-- **A content can be stored twice.** Two calls that look for duplicates before either commits both
store their files: the documents differ, so no constraint refuses the second. -/
theorem not_ingestsExactly :
    ∃ taken state, (ingestionCalls.system Bool).Initial start ∧
      (ingestionCalls.system Bool).Trace start taken state ∧
        ∃ step ∈ taken, ¬ IngestsExactly step := by
  have ran : ((takenBy ingestionCalls.next start atOnce).map fun run =>
      run.1.any fun step => ¬ step.after.shared.knowledge.contentOnce) = some true := by
    decide +kernel
  obtain ⟨⟨taken, state⟩, isRun, twice⟩ := Option.map_eq_some_iff.mp ran
  obtain ⟨step, isStep, isTwice⟩ := List.any_eq_true.mp twice
  exact ⟨taken, state, start_initial, .of_takenBy (fun stepped => stepped) isRun, step, isStep,
    fun ingests => of_decide_eq_true isTwice ingests.exactly.once⟩

end PolicyOS.Knowledge
