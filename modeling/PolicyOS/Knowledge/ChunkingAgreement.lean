import PolicyOS.Knowledge.ChunkPersistence

/-!
# Chunks and the status of their version

In every run the chunks of a configuration are none or all of one chunking. The status of
the version agrees with them only if no two calls under one configuration are past looking
for chunks, and a call that found its chunks returns before a call under another
configuration writes: nothing restores the status when the chunks are found, and a call that
fails overwrites whatever was committed meanwhile.
-/

namespace PolicyOS.Knowledge

open Foundation

variable {hashing : Hashing} {target version : KnowledgeDocumentVersion}
  {store stored : KnowledgeStore} {configHash other : Digest}

/-! ## What a call stores -/

section Attempt

variable {call : ChunkVersionCall} {source : KnowledgeSource} {document : KnowledgeDocument}
  {config : ChunkingConfig} {newIds : Nat → UUID × UUID} {candidates : List ChunkCandidate}
  {reply : PersistedChunkingResult}

/-- The rows of chunks, each with the identifier of its place. -/
def chunkRows (version : KnowledgeDocumentVersion) (newIds : Nat → UUID × UUID)
    (candidates : List ChunkCandidate) : List KnowledgeChunk :=
  candidates.map fun candidate => chunkRow version (newIds candidate.chunkIndex).1 candidate

/-- Inserting chunks appends their rows, none of which conflicts with a row that was there. -/
theorem chunks_persistChunks
    (persisted : persistChunks source document version newIds store candidates = .ok stored) :
    stored.chunks = store.chunks ++ chunkRows version newIds candidates ∧
      ∀ row ∈ chunkRows version newIds candidates, ∀ before ∈ store.chunks,
        ¬ row.Conflicts before := by
  induction candidates generalizing store with
  | nil =>
      cases persisted
      exact ⟨(List.append_nil _).symm, nofun⟩
  | cons first rest ih =>
      simp only [persistChunks, persistChunk, KnowledgeStore.insertChunk,
        KnowledgeStore.insertCitation, bind_eq_ok_iff, exists_unit_iff, mapError_eq_ok_iff,
        pure_eq_ok_iff, rejectIf_eq_ok_iff, not_exists, not_and] at persisted
      obtain ⟨_, ⟨_, ⟨-, free, -, rfl⟩, -, -, -, -, -, -, -, rfl⟩, others⟩ := persisted
      obtain ⟨appended, apart⟩ := ih others
      refine ⟨appended.trans (List.append_assoc ..), fun row isRow before isBefore => ?_⟩
      rcases List.mem_cons.mp isRow with rfl | later
      · exact free before isBefore
      · exact apart row later before (List.mem_append_left _ isBefore)

/-- What an attempt stores if it succeeds. -/
structure Attempted (hashing : Hashing) (call : ChunkVersionCall) (store : KnowledgeStore)
    (version : KnowledgeDocumentVersion) (config : ChunkingConfig) (stored : KnowledgeStore)
    (reply : PersistedChunkingResult) (result : ChunkingResult) : Prop where
  chunked : chunkDocument hashing (chunkingRequest version config) = .ok result
  appended : stored.chunks = store.chunks ++ chunkRows version call.newIds result.chunks
  apart : ∀ row ∈ chunkRows version call.newIds result.chunks, ∀ before ∈ store.chunks,
    ¬ row.Conflicts before
  version : stored.version? version.organizationId version.id =
    (store.version? version.organizationId version.id).map
      (·.chunkedUnder (hashing.configHash config))
  reply : reply.configHash = hashing.configHash config

/-- An attempt that succeeds has chunked the version and appended the rows of its chunks. -/
theorem attempted_of_ok
    (made : attemptChunking hashing call store source document version config =
      .ok (stored, reply)) :
    ∃ result, Attempted hashing call store version config stored reply result := by
  simp only [attemptChunking, bind_eq_ok_iff, mapError_eq_ok_iff, pure_eq_ok_iff,
    Prod.mk.injEq] at made
  obtain ⟨result, chunked, inserted, persisted, rfl, rfl⟩ := made
  obtain ⟨appended, apart⟩ := chunks_persistChunks persisted
  refine ⟨result, chunked, appended, apart, ?_, rfl⟩
  rw [version?_chunkedUnder, KnowledgeStore.version?, versions_persistChunks persisted]
  rfl

/-- The chunks of a result are made under its configuration, and the first of them is
numbered zero. -/
theorem chunkDocument_numbered {result : ChunkingResult}
    (chunked : chunkDocument hashing (chunkingRequest version config) = .ok result) :
    (∀ chunk ∈ result.chunks, chunk.chunkingConfigHash = hashing.configHash config) ∧
      (result.chunks ≠ [] → ∃ chunk ∈ result.chunks, chunk.chunkIndex = 0) := by
  simp only [chunkDocument, bind_eq_ok_iff, pure_eq_ok_iff] at chunked
  obtain ⟨grouped, isGrouped, rfl⟩ := chunked
  refine ⟨fun chunk listed => ?_, fun some_ => ?_⟩
  · obtain ⟨own, index, isOwn, rfl⟩ := mem_numbered_iff.mp listed
    exact (madeUnder_of_kept isGrouped (List.mem_of_getElem? isOwn)).configHash
  · cases kept : keptChunks hashing config grouped with
    | nil => exact absurd (by simp [chunkingRequest, kept, numbered]) some_
    | cons first rest =>
        refine ⟨first.numberedAt 0, mem_numbered_iff.mpr ⟨first, 0, ?_, rfl⟩, rfl⟩
        simp [chunkingRequest, kept]

end Attempt

/-! ## Chunks under a configuration -/

/-- The chunks that are stored under a configuration are all of one chunking. -/
def Complete (hashing : Hashing) (target : KnowledgeDocumentVersion) (store : KnowledgeStore)
    (configHash : Digest) : Prop :=
  ∃ config newIds result, hashing.configHash config = configHash ∧
    chunkDocument hashing (chunkingRequest target config) = .ok result ∧
      store.chunksUnder target configHash = chunkRows target newIds result.chunks

/-- The chunks that are stored under a configuration are none, or all of one chunking. -/
def NoneOrComplete (hashing : Hashing) (target : KnowledgeDocumentVersion)
    (store : KnowledgeStore) (configHash : Digest) : Prop :=
  store.chunksUnder target configHash = [] ∨ Complete hashing target store configHash

/-- A version is another up to how far it is chunked. -/
def SameContent (target version : KnowledgeDocumentVersion) : Prop :=
  ∃ status active, version =
    { target with chunkingStatus := status, activeChunkingConfigHash := active }

theorem existing_eq_nil_iff (same : SameContent target version) :
    store.existing version configHash = [] ↔ store.chunksUnder target configHash = [] := by
  obtain ⟨status, active, rfl⟩ := same
  exact sortedBy_eq_nil_iff

section Stored

variable {call : ChunkVersionCall} {config : ChunkingConfig} {reply : PersistedChunkingResult}
  {result : ChunkingResult}

/-- What is stored after an attempt under its configuration: what was, and the new rows. -/
theorem chunksUnder_own (same : SameContent target version)
    (attempted : Attempted hashing call store version config stored reply result) :
    stored.chunksUnder target (hashing.configHash config) =
      store.chunksUnder target (hashing.configHash config) ++
        chunkRows target call.newIds result.chunks := by
  obtain ⟨status, active, rfl⟩ := same
  rw [KnowledgeStore.chunksUnder, attempted.appended, List.filter_append]
  congr 1
  refine List.filter_eq_self.mpr fun row isRow => ?_
  obtain ⟨candidate, listed, rfl⟩ := List.mem_map.mp isRow
  exact decide_eq_true ⟨rfl, rfl, (chunkDocument_numbered attempted.chunked).1 candidate listed⟩

theorem chunksUnder_other (attempted : Attempted hashing call store version config stored reply
      result) (different : configHash ≠ hashing.configHash config) :
    stored.chunksUnder target configHash = store.chunksUnder target configHash := by
  rw [KnowledgeStore.chunksUnder, attempted.appended, List.filter_append, KnowledgeStore.chunksUnder]
  refine List.append_right_eq_self.mpr (List.filter_eq_nil_iff.mpr fun row isRow kept => ?_)
  obtain ⟨candidate, listed, rfl⟩ := List.mem_map.mp isRow
  obtain ⟨-, -, own⟩ := of_decide_eq_true kept
  exact different (own.symm.trans ((chunkDocument_numbered attempted.chunked).1 candidate listed))

/-- Where all chunks of one chunking are stored, an attempt under that configuration succeeds
only if it has none of its own: two chunks would be numbered zero. -/
theorem chunks_eq_nil_of_complete (same : SameContent target version)
    (attempted : Attempted hashing call store version config stored reply result)
    (complete : Complete hashing target store (hashing.configHash config))
    (some_ : store.chunksUnder target (hashing.configHash config) ≠ []) : result.chunks = [] := by
  obtain ⟨status, active, rfl⟩ := same
  obtain ⟨ownConfig, newIds, own, -, chunked, isAll⟩ := complete
  by_contra notNone
  obtain ⟨candidate, listed, isZero⟩ := (chunkDocument_numbered attempted.chunked).2 notNone
  have ownSome : own.chunks ≠ [] := fun none_ => some_ (by rw [isAll, none_]; rfl)
  obtain ⟨before, isBefore, beforeZero⟩ := (chunkDocument_numbered chunked).2 ownSome
  have inStore : chunkRow target (newIds before.chunkIndex).1 before ∈
      store.chunksUnder target (hashing.configHash config) := by
    rw [isAll]
    exact List.mem_map_of_mem isBefore
  obtain ⟨isStored, kept⟩ := List.mem_filter.mp inStore
  obtain ⟨-, -, beforeHash⟩ := of_decide_eq_true kept
  refine attempted.apart _ (List.mem_map_of_mem listed) _ isStored (.inr ⟨?_, .inl ?_⟩)
  · rw [beforeHash]
    exact congrArg _ (congrArg _ ((chunkDocument_numbered attempted.chunked).1 candidate listed))
  · exact isZero.trans beforeZero.symm

/-- After an attempt the chunks of every configuration are none or all of one chunking, if
they were before. -/
theorem noneOrComplete_attempted (same : SameContent target version)
    (attempted : Attempted hashing call store version config stored reply result)
    (before : ∀ configHash, NoneOrComplete hashing target store configHash) :
    NoneOrComplete hashing target stored configHash := by
  by_cases own : configHash = hashing.configHash config
  · subst own
    have rows := chunksUnder_own same attempted
    by_cases none_ : store.chunksUnder target (hashing.configHash config) = []
    · obtain ⟨status, active, rfl⟩ := same
      rw [none_, List.nil_append] at rows
      exact .inr ⟨config, call.newIds, result, rfl, attempted.chunked, rows⟩
    · have complete := (before (hashing.configHash config)).resolve_left none_
      have nothing := chunks_eq_nil_of_complete same attempted complete none_
      rw [nothing, chunkRows, List.map_nil, List.append_nil] at rows
      rw [NoneOrComplete, Complete, rows]
      exact before (hashing.configHash config)
  · have rows : stored.chunksUnder target configHash = store.chunksUnder target configHash :=
      chunksUnder_other attempted own
    rw [NoneOrComplete, Complete, rows]
    exact before configHash

end Stored

/-! ## Turns -/

section Turns

variable {tables later : ChunkTables} {phase next : CallPhase} {turn : CallTurn}

/-- What a turn does. -/
inductive Turned (hashing : Hashing) (target : KnowledgeDocumentVersion) (tables : ChunkTables) :
    CallPhase → CallTurn → ChunkTables → CallPhase → Prop where
  | refused {call} : Turned hashing target tables .idle (.begin call) (tables.finish none) .finished
  | begin {call source document version config} (isTarget : call.documentVersionId = target.id)
      (ofTarget : call.organizationId = target.organizationId)
      (read : readCall call tables.store = .ok (source, document, version, config)) :
      Turned hashing target tables .idle (.begin call) tables
        (.reading { call, source, document, version, config })
  | unchunked {opened}
      (none_ : tables.store.existing opened.version (opened.configHash hashing) = []) :
      Turned hashing target tables (.reading opened) .look tables (.unchunked opened)
  | found {opened}
      (some_ : tables.store.existing opened.version (opened.configHash hashing) ≠ []) :
      Turned hashing target tables (.reading opened) .look tables
        (.found opened (tables.store.existing opened.version (opened.configHash hashing)))
  | reply {opened existing} : Turned hashing target tables (.found opened existing) .reply
      (tables.finish (some (idempotentResult tables.store opened.version
        (opened.configHash hashing) existing))) .finished
  | marked {opened} (running : opened.version.chunkingStatus = .running) :
      Turned hashing target tables (.unchunked opened) .mark tables (.running opened)
  | mark {opened} : Turned hashing target tables (.unchunked opened) .mark
      (tables.mark hashing opened .running) (.running opened)
  | attempt {opened stored result} (made : attemptChunking hashing opened.call tables.store
        opened.source opened.document opened.version opened.config = .ok (stored, result)) :
      Turned hashing target tables (.running opened) .attempt
        (.committed hashing opened stored result) .finished
  | fail {opened} {turn : CallTurn} :
      Turned hashing target tables (.running opened) turn tables (.failing opened)
  | handle {opened} : Turned hashing target tables (.failing opened) .handle
      ((tables.mark hashing opened .failed).finish none) .finished
  | cancel {phase opened} (isOpen : phase.opened? = some opened) :
      Turned hashing target tables phase .cancel (tables.finish none) .finished

/-- A turn does one of these. -/
theorem turned_of_some (taken : chunkTurn hashing target tables phase turn = some (later, next)) :
    Turned hashing target tables phase turn later next := by
  cases turn with
  | begin call =>
      cases phase <;> simp only [chunkTurn, reduceCtorEq] at taken
      split_ifs at taken with ofTarget
      cases read : readCall call tables.store with
      | error error =>
          simp only [read, Option.some.injEq, Prod.mk.injEq] at taken
          obtain ⟨rfl, rfl⟩ := taken
          exact .refused
      | ok rows =>
          obtain ⟨source, document, version, config⟩ := rows
          simp only [read, Option.some.injEq, Prod.mk.injEq] at taken
          obtain ⟨rfl, rfl⟩ := taken
          exact .begin ofTarget.1 ofTarget.2 read
  | look =>
      cases phase <;> simp only [chunkTurn, reduceCtorEq, Option.some.injEq, Prod.mk.injEq] at taken
      obtain ⟨rfl, rfl⟩ := taken
      split_ifs with none_
      · exact .unchunked none_
      · exact .found none_
  | reply =>
      cases phase <;> simp only [chunkTurn, reduceCtorEq, Option.some.injEq, Prod.mk.injEq] at taken
      obtain ⟨rfl, rfl⟩ := taken
      exact .reply
  | mark =>
      cases phase <;> simp only [chunkTurn, reduceCtorEq] at taken
      split_ifs at taken with running <;> obtain ⟨rfl, rfl⟩ := Prod.mk.inj (Option.some.inj taken)
      · exact .marked running
      · exact .mark
  | attempt =>
      cases phase <;> simp only [chunkTurn, reduceCtorEq] at taken
      split at taken <;> obtain ⟨rfl, rfl⟩ := Prod.mk.inj (Option.some.inj taken)
      next made => exact .attempt made
      next => exact .fail
  | raise =>
      cases phase <;> simp only [chunkTurn, reduceCtorEq, Option.some.injEq, Prod.mk.injEq] at taken
      obtain ⟨rfl, rfl⟩ := taken
      exact .fail
  | handle =>
      cases phase <;> simp only [chunkTurn, reduceCtorEq, Option.some.injEq, Prod.mk.injEq] at taken
      obtain ⟨rfl, rfl⟩ := taken
      exact .handle
  | cancel =>
      simp only [chunkTurn] at taken
      split at taken <;> cases taken
      next isOpen => exact .cancel isOpen

/-! ## Every run -/

/-- The version is stored with its content, and the chunks of every configuration are none or
all of one chunking. -/
structure StoredWhole (hashing : Hashing) (target : KnowledgeDocumentVersion)
    (tables : ChunkTables) : Prop where
  version : ∃ row, tables.store.version? target.organizationId target.id = some row ∧
    SameContent target row
  whole : ∀ configHash, NoneOrComplete hashing target tables.store configHash

/-- What a call has read of the version is its content. -/
def ReadsTarget (target : KnowledgeDocumentVersion) (phase : CallPhase) : Prop :=
  ∀ opened ∈ phase.opened?, SameContent target opened.version

theorem readsTarget_finished : ReadsTarget target .finished := by
  intro opened isOpened
  cases isOpened

theorem storedWhole_mark {opened : OpenCall} {status : ChunkingStatus}
    (same : SameContent target opened.version) (before : StoredWhole hashing target tables) :
    StoredWhole hashing target (tables.mark hashing opened status) := by
  refine ⟨?_, before.whole⟩
  obtain ⟨_, isRow, rowStatus, active, rfl⟩ := before.version
  obtain ⟨ownStatus, ownActive, isOwn⟩ := same
  refine ⟨_, ?_, status, active, rfl⟩
  rw [ChunkTables.mark, isOwn]
  exact version?_mark.trans (congrArg _ isRow)

/-- What an attempt commits is whole, and the version is chunked under its configuration. -/
theorem storedWhole_committed {opened : OpenCall} {result : PersistedChunkingResult}
    (same : SameContent target opened.version)
    (made : attemptChunking hashing opened.call tables.store opened.source opened.document
      opened.version opened.config = .ok (stored, result))
    (before : StoredWhole hashing target tables) :
    StoredWhole hashing target (.committed hashing opened stored result) ∧
      ∃ row, stored.version? target.organizationId target.id = some row ∧
        row.chunkingStatus = .succeeded ∧
          row.activeChunkingConfigHash = some (opened.configHash hashing) := by
  obtain ⟨own, attempted⟩ := attempted_of_ok made
  obtain ⟨_, isRow, rowStatus, active, rfl⟩ := before.version
  have found := attempted.version
  obtain ⟨ownStatus, ownActive, isOwn⟩ := id same
  rw [isOwn, isRow, Option.map_some] at found
  exact ⟨⟨⟨_, found, _, _, rfl⟩, fun configHash =>
    noneOrComplete_attempted same attempted before.whole⟩, _, found, rfl, rfl⟩

/-- A turn keeps what is stored whole, and its call reads the version. -/
theorem storedWhole_turned (turned : Turned hashing target tables phase turn later next)
    (before : StoredWhole hashing target tables) (reads : ReadsTarget target phase) :
    StoredWhole hashing target later ∧ ReadsTarget target next := by
  cases turned with
  | refused => exact ⟨⟨before.version, before.whole⟩, readsTarget_finished⟩
  | begin isTarget ofTarget read =>
      refine ⟨before, fun opened isOpened => ?_⟩
      cases isOpened
      obtain ⟨row, isRow, same⟩ := before.version
      have isVersion := (readCall_eq_ok read).1
      rw [isTarget, ofTarget, isRow] at isVersion
      cases isVersion
      exact same
  | unchunked => exact ⟨before, reads⟩
  | found => exact ⟨before, reads⟩
  | reply => exact ⟨⟨before.version, before.whole⟩, readsTarget_finished⟩
  | marked => exact ⟨before, reads⟩
  | mark => exact ⟨storedWhole_mark (reads _ rfl) before, reads⟩
  | attempt made => exact ⟨(storedWhole_committed (reads _ rfl) made before).1, readsTarget_finished⟩
  | fail => exact ⟨before, reads⟩
  | handle =>
      obtain ⟨version, whole⟩ := storedWhole_mark (reads _ rfl) before
      exact ⟨⟨version, whole⟩, readsTarget_finished⟩
  | cancel => exact ⟨⟨before.version, before.whole⟩, readsTarget_finished⟩

/-- What the calls of a version keep in every run. -/
def wholeRuns (hashing : Hashing) (target : KnowledgeDocumentVersion) (Id : Type)
    [DecidableEq Id] : ((chunkTurns hashing target).system Id).Invariant where
  Holds := Parties.Well (StoredWhole hashing target) (fun _ => ReadsTarget target) fun _ _ => True
  initial := by
    rintro parties ⟨⟨isTarget, none_, -, -⟩, idle⟩
    refine ⟨⟨⟨target, isTarget, target.chunkingStatus, target.activeChunkingConfigHash, rfl⟩,
      fun configHash => .inl (none_ configHash)⟩, fun id opened isOpened => ?_, fun _ _ _ => trivial⟩
    rw [idle id] at isOpened
    cases isOpened
  preserved := by
    intro parties label next well step
    obtain ⟨⟨later, phase⟩, taken, rfl⟩ := Turns.next_eq_some_iff.mp step
    obtain ⟨stored, reads⟩ :=
      storedWhole_turned (turned_of_some taken) well.common (well.own label.1)
    exact well.step (fun _ => trivial) stored reads (fun other _ => well.own other)
      fun _ _ => trivial

/-! ## Undisturbed runs -/

/-- If chunks are stored for the configuration of the call that wrote the status last, the
version is chunked under it. -/
def LatestAgrees (target : KnowledgeDocumentVersion) (tables : ChunkTables) : Prop :=
  ∀ configHash ∈ tables.lastWriter, tables.store.chunksUnder target configHash ≠ [] →
    ∃ row, tables.store.version? target.organizationId target.id = some row ∧
      row.chunkingStatus = .succeeded ∧ row.activeChunkingConfigHash = some configHash

/-- No chunks are stored for a call that may write, and some for one that found them. -/
structure SeesChunks (hashing : Hashing) (target : KnowledgeDocumentVersion)
    (tables : ChunkTables) (phase : CallPhase) : Prop where
  writer : ∀ opened ∈ phase.writer?,
    tables.store.chunksUnder target (opened.configHash hashing) = []
  finder : ∀ opened ∈ phase.finder?,
    tables.store.chunksUnder target (opened.configHash hashing) ≠ []

/-- Two calls that may write are under different configurations. -/
def WritersApart (hashing : Hashing) (first second : CallPhase) : Prop :=
  ∀ own ∈ first.writer?, ∀ other ∈ second.writer?,
    own.configHash hashing ≠ other.configHash hashing

theorem seesChunks_of_writer (noFinder : phase.finder? = none)
    (writer : ∀ opened ∈ phase.writer?,
      tables.store.chunksUnder target (opened.configHash hashing) = []) :
    SeesChunks hashing target tables phase := by
  refine ⟨writer, fun opened isFinder => ?_⟩
  rw [noFinder] at isFinder
  cases isFinder

theorem seesChunks_of_finder (noWriter : phase.writer? = none)
    (finder : ∀ opened ∈ phase.finder?,
      tables.store.chunksUnder target (opened.configHash hashing) ≠ []) :
    SeesChunks hashing target tables phase := by
  refine ⟨fun opened isWriter => ?_, finder⟩
  rw [noWriter] at isWriter
  cases isWriter

theorem seesChunks_of_none (noWriter : phase.writer? = none) (noFinder : phase.finder? = none) :
    SeesChunks hashing target tables phase := by
  refine seesChunks_of_writer noFinder fun opened isWriter => ?_
  rw [noWriter] at isWriter
  cases isWriter

theorem writersApart_of_none {first second : CallPhase} (noWriter : second.writer? = none) :
    WritersApart hashing first second := by
  intro own _ other isWriter
  rw [noWriter] at isWriter
  cases isWriter

end Turns

section Undisturbed

variable {Id : Type} [DecidableEq Id] {parties : Parties Id ChunkTables CallPhase} {id : Id}
  {later : ChunkTables} {next : CallPhase} {opened : OpenCall}

/-- Every call sees what it may, no two write under one configuration, and the status agrees
with the call that wrote it last. -/
abbrev Agreeing (hashing : Hashing) (target : KnowledgeDocumentVersion)
    (parties : Parties Id ChunkTables CallPhase) : Prop :=
  parties.Well (LatestAgrees target) (SeesChunks hashing target) (WritersApart hashing)

theorem writersApart_symm {first second : CallPhase} (apart : WritersApart hashing first second) :
    WritersApart hashing second first :=
  fun own isOwn other isOther same => apart other isOther own isOwn same.symm

/-- A turn that writes neither a row nor the status keeps what others see. -/
theorem agreeing_kept (agreeing : Agreeing hashing target parties)
    (sameStore : later.store = parties.shared.store)
    (sameWriter : later.lastWriter = parties.shared.lastWriter)
    (own : SeesChunks hashing target parties.shared next)
    (apart : ∀ other ≠ id, WritersApart hashing (parties.locals other) next) :
    Agreeing hashing target (parties.after id (later, next)) := by
  have sees : ∀ phase, SeesChunks hashing target parties.shared phase →
      SeesChunks hashing target later phase := by
    intro phase ⟨writer, finder⟩
    constructor
    · rwa [sameStore]
    · rwa [sameStore]
  refine agreeing.step writersApart_symm ?_ (sees next own) (fun other _ => sees _ (agreeing.own other)) apart
  rw [LatestAgrees, sameStore, sameWriter]
  exact agreeing.common

/-- A call that may write and marks the version keeps what others see: no chunks are stored
under its configuration, so the status has nothing to agree with. -/
theorem agreeing_marked {status : ChunkingStatus}
    (agreeing : Agreeing hashing target parties)
    (isWriter : opened ∈ (parties.locals id).writer?)
    (own : SeesChunks hashing target parties.shared next)
    (apart : ∀ other ≠ id, WritersApart hashing (parties.locals other) next)
    (sameStore : later.store = (parties.shared.mark hashing opened status).store)
    (sameWriter : later.lastWriter = some (opened.configHash hashing)) :
    Agreeing hashing target (parties.after id (later, next)) := by
  have rows : ∀ configHash, later.store.chunksUnder target configHash =
      parties.shared.store.chunksUnder target configHash := by
    intro configHash
    rw [sameStore]
    rfl
  have sees : ∀ phase, SeesChunks hashing target parties.shared phase →
      SeesChunks hashing target later phase := by
    intro phase ⟨writer, finder⟩
    constructor
    · simpa only [rows] using writer
    · simpa only [rows] using finder
  refine agreeing.step writersApart_symm ?_ (sees next own) (fun other _ => sees _ (agreeing.own other)) apart
  intro configHash isLatest some_
  rw [sameWriter] at isLatest
  cases isLatest
  exact absurd ((rows _).trans ((agreeing.own id).writer opened isWriter)) some_

/-- What an attempt commits keeps what others see: they write under other configurations. -/
theorem agreeing_committed {stored : KnowledgeStore} {result : PersistedChunkingResult}
    (agreeing : Agreeing hashing target parties)
    (whole : StoredWhole hashing target parties.shared)
    (same : SameContent target opened.version)
    (isWriter : opened ∈ (parties.locals id).writer?)
    (made : attemptChunking hashing opened.call parties.shared.store opened.source
      opened.document opened.version opened.config = .ok (stored, result)) :
    Agreeing hashing target
      (parties.after id (.committed hashing opened stored result, .finished)) := by
  obtain ⟨own, attempted⟩ := attempted_of_ok made
  refine agreeing.step writersApart_symm ?_ (seesChunks_of_none rfl rfl) (fun other different => ⟨?_, ?_⟩)
    fun other _ => writersApart_of_none rfl
  · intro configHash isLatest _
    cases isLatest
    exact (storedWhole_committed same made whole).2
  · intro writer isOther
    have apart := agreeing.apart other id different writer isOther opened isWriter
    exact (chunksUnder_other attempted apart).trans ((agreeing.own other).writer writer isOther)
  · intro finder isFinder none_
    refine (agreeing.own other).finder finder isFinder ?_
    by_cases sameHash : finder.configHash hashing = hashing.configHash opened.config
    · have none' := none_
      rw [sameHash] at none' ⊢
      exact (List.append_eq_nil_iff.mp ((chunksUnder_own same attempted).symm.trans none')).1
    · exact (chunksUnder_other attempted sameHash).symm.trans none_

/-- A turn of an undisturbed run keeps the calls in agreement. -/
theorem agreeing_turned {turn : CallTurn} (agreeing : Agreeing hashing target parties)
    (whole : (wholeRuns hashing target Id).Holds parties)
    (calm : Undisturbed hashing parties (id, turn) (parties.after id (later, next)))
    (turned : Turned hashing target parties.shared (parties.locals id) turn later next) :
    Agreeing hashing target (parties.after id (later, next)) := by
  have own := agreeing.own id
  have apart : ∀ other ≠ id, WritersApart hashing (parties.locals other) (parties.locals id) :=
    fun other different => agreeing.apart other id different
  have reads := whole.own id
  simp only [Undisturbed] at calm
  generalize isPhase : parties.locals id = phase at turned own apart reads calm
  have isOpened : ∀ opened ∈ phase.writer?, opened ∈ (parties.locals id).writer? :=
    fun opened isWriter => isPhase ▸ isWriter
  cases turned with
  | refused =>
      exact agreeing_kept agreeing rfl rfl (seesChunks_of_none rfl rfl) fun _ _ =>
        writersApart_of_none rfl
  | begin =>
      exact agreeing_kept agreeing rfl rfl (seesChunks_of_none rfl rfl) fun _ _ =>
        writersApart_of_none rfl
  | @unchunked opened none_ =>
      refine agreeing_kept agreeing rfl rfl
        (seesChunks_of_writer rfl fun writer isWriter => ?_)
        fun other different writer isWriter own isOwn => ?_
      · cases isWriter
        exact (existing_eq_nil_iff (reads _ rfl)).mp none_
      · cases isOwn
        exact calm none_ other different writer isWriter
  | @found opened some_ =>
      refine agreeing_kept agreeing rfl rfl
        (seesChunks_of_finder rfl fun finder isFinder => ?_) fun _ _ => writersApart_of_none rfl
      cases isFinder
      exact fun none_ => some_ ((existing_eq_nil_iff (reads _ rfl)).mpr none_)
  | reply =>
      exact agreeing_kept agreeing rfl rfl (seesChunks_of_none rfl rfl) fun _ _ =>
        writersApart_of_none rfl
  | marked => exact agreeing_kept agreeing rfl rfl (seesChunks_of_writer rfl own.writer) apart
  | mark => exact agreeing_marked agreeing (isOpened _ rfl) (seesChunks_of_writer rfl own.writer) apart rfl rfl
  | attempt made =>
      exact agreeing_committed agreeing whole.common (reads _ rfl) (isOpened _ rfl) made
  | fail => exact agreeing_kept agreeing rfl rfl (seesChunks_of_writer rfl own.writer) apart
  | handle =>
      exact agreeing_marked agreeing (isOpened _ rfl) (seesChunks_of_none rfl rfl)
        (fun _ _ => writersApart_of_none rfl) rfl rfl
  | cancel =>
      exact agreeing_kept agreeing rfl rfl (seesChunks_of_none rfl rfl) fun _ _ =>
        writersApart_of_none rfl

/-- No call is in progress. -/
def Quiet (parties : Parties Id ChunkTables CallPhase) : Prop :=
  ∀ id, (parties.locals id).opened? = none

/-- While no call is in progress, the version is chunked under the configuration of the result
that was returned last. -/
def Settled (target : KnowledgeDocumentVersion) (parties : Parties Id ChunkTables CallPhase) :
    Prop :=
  Quiet parties → ∀ result ∈ parties.shared.lastResult,
    ∃ row, parties.shared.store.version? target.organizationId target.id = some row ∧
      row.chunkingStatus = .succeeded ∧ row.activeChunkingConfigHash = some result.configHash

theorem settled_of_opened (isOpened : next.opened? = some opened) :
    Settled target (parties.after id (later, next)) := by
  intro quiet
  have own := quiet id
  rw [Parties.after_own, isOpened] at own
  cases own

/-- A turn of an undisturbed run settles the version if it ends the last call. -/
theorem settled_turned {turn : CallTurn} (agreeing : Agreeing hashing target parties)
    (whole : (wholeRuns hashing target Id).Holds parties)
    (calm : Undisturbed hashing parties (id, turn) (parties.after id (later, next)))
    (turned : Turned hashing target parties.shared (parties.locals id) turn later next) :
    Settled target (parties.after id (later, next)) := by
  have own := agreeing.own id
  have reads := whole.own id
  simp only [Undisturbed] at calm
  generalize parties.locals id = phase at turned own reads calm
  cases turned with
  | refused => rintro - _ ⟨⟩
  | begin => exact settled_of_opened rfl
  | unchunked => exact settled_of_opened rfl
  | found => exact settled_of_opened rfl
  | reply =>
      rintro - result isResult
      cases isResult
      exact agreeing.common _ calm (own.finder _ rfl)
  | marked => exact settled_of_opened rfl
  | mark => exact settled_of_opened rfl
  | attempt made =>
      rintro - result isResult
      cases isResult
      obtain ⟨own, attempted⟩ := attempted_of_ok made
      rw [attempted.reply]
      exact (storedWhole_committed (reads _ rfl) made whole.common).2
  | fail => exact settled_of_opened rfl
  | handle => rintro - _ ⟨⟩
  | cancel => rintro - _ ⟨⟩

/-- The status agrees with the chunks: the chunks of every configuration are none or all of
one chunking, the version is settled, and no call that failed has left it as failed where
chunks are stored under the configuration of that call. -/
structure StatusAgrees (hashing : Hashing) (target : KnowledgeDocumentVersion)
    (parties : Parties Id ChunkTables CallPhase) : Prop where
  whole : ∀ configHash, NoneOrComplete hashing target parties.shared.store configHash
  settled : Settled target parties
  winner : ∀ configHash ∈ parties.shared.lastWriter,
    parties.shared.store.chunksUnder target configHash ≠ [] →
      ∀ row, parties.shared.store.version? target.organizationId target.id = some row →
        row.chunkingStatus ≠ .failed

/-- What the calls of a version keep in every undisturbed run. -/
def agreeingRuns (hashing : Hashing) (target : KnowledgeDocumentVersion) (Id : Type)
    [DecidableEq Id] :
    (((chunkTurns hashing target).system Id).restrict (Undisturbed hashing)).Invariant where
  Holds parties := (wholeRuns hashing target Id).Holds parties ∧
    Agreeing hashing target parties ∧ Settled target parties
  initial := by
    intro parties valid
    have whole := (wholeRuns hashing target Id).initial parties valid
    obtain ⟨⟨-, -, noWriter, noResult⟩, idle⟩ := valid
    have none_ : ∀ id, (parties.locals id).writer? = none ∧ (parties.locals id).finder? = none :=
      fun id => by rw [idle id]; exact ⟨rfl, rfl⟩
    refine ⟨whole, ⟨?_, fun id => seesChunks_of_none (none_ id).1 (none_ id).2,
      fun _ second _ => writersApart_of_none (none_ second).1⟩, fun _ result isResult => ?_⟩
    · intro configHash isLatest
      rw [noWriter] at isLatest
      cases isLatest
    · rw [noResult] at isResult
      cases isResult
  preserved := by
    rintro parties ⟨id, turn⟩ next ⟨whole, agreeing, -⟩ ⟨step, calm⟩
    have wholeNext := (wholeRuns hashing target Id).preserved whole step
    obtain ⟨⟨later, phase⟩, taken, rfl⟩ := Turns.next_eq_some_iff.mp step
    have turned := turned_of_some taken
    exact ⟨wholeNext, agreeing_turned agreeing whole calm turned,
      settled_turned agreeing whole calm turned⟩

/-- In every undisturbed run the status of the version agrees with its chunks. -/
theorem statusAgrees_of_undisturbed
    (reachable : (((chunkTurns hashing target).system Id).restrict
      (Undisturbed hashing)).Reachable parties) :
    StatusAgrees hashing target parties := by
  obtain ⟨whole, agreeing, settled⟩ := (agreeingRuns hashing target Id).of_reachable reachable
  refine ⟨whole.common.whole, settled, fun configHash isLatest some_ row isRow failed => ?_⟩
  obtain ⟨own, isOwn, succeeded, -⟩ := agreeing.common configHash isLatest some_
  rw [isRow] at isOwn
  cases isOwn
  rw [succeeded] at failed
  cases failed

end Undisturbed

/-! ## Calls on a record of one page -/

namespace Sample

/-- Tells configurations apart by their longest chunk. -/
def lengthHashing : Hashing where
  sha256 := sampleHashing.sha256
  configHash config :=
    if config.maxCharacters = 4000 then .repeated 'c' else .repeated 'd'
  estimate := sampleHashing.estimate

/-- The version of the record with one page. -/
def onePage : KnowledgeDocumentVersion := decisionVersion [approvedPage 1 firstPage]

/-- The record of one page, before any call. -/
def unchunkedPage : ChunkTables where
  store := decisionStore [approvedPage 1 firstPage]

/-- A call that chunks the page into longer chunks. -/
def longerCall : ChunkVersionCall where
  documentVersionId := 4
  organizationId := 2
  config := some
    { ChunkingConfig.standard with
      maxCharacters := 5000
      maxBounds := by decide
      target_le_max := by decide
      overlap_lt_max := by decide }
  newIds index := (100 + index, 100 + index)

/-- A call that attempts to chunk the page. -/
def attempting (id : Fin 3) (call : ChunkVersionCall) : List (Fin 3 × CallTurn) :=
  [(id, .begin call), (id, .look), (id, .mark), (id, .attempt)]

/-- A call that finds its chunks. -/
def finding (id : Fin 3) (call : ChunkVersionCall) : List (Fin 3 × CallTurn) :=
  [(id, .begin call), (id, .look), (id, .reply)]

/-- A call that chunks the page, and one that finds its chunks. -/
def repeatedCalls : List (Fin 3 × CallTurn) :=
  attempting 0 decisionCall ++ finding 1 decisionCall

/-- Two calls that look for chunks before either has stored any; then one that finds them. -/
def overlappingCalls : List (Fin 3 × CallTurn) :=
  [(0, .begin decisionCall), (1, .begin decisionCall), (0, .look), (1, .look), (0, .mark),
    (1, .mark), (0, .attempt), (1, .attempt), (1, .handle)] ++ finding 2 decisionCall

/-- Two calls under different configurations, and one that finds the chunks of the first. -/
def alternatingCalls : List (Fin 3 × CallTurn) :=
  attempting 0 decisionCall ++ attempting 1 longerCall ++ finding 2 decisionCall

/-- What turns come to from the record of one page. -/
def played (Admits : Parties (Fin 3) ChunkTables CallPhase → Fin 3 × CallTurn →
      Parties (Fin 3) ChunkTables CallPhase → Prop)
    [∀ parties label later, Decidable (Admits parties label later)]
    (labels : List (Fin 3 × CallTurn)) : Option (Parties (Fin 3) ChunkTables CallPhase) :=
  labels.foldlM ((chunkTurns lengthHashing onePage).admitted Admits)
    ⟨unchunkedPage, fun _ => .idle⟩

theorem initial_unchunkedPage : (chunkTurns lengthHashing onePage).Initial unchunkedPage :=
  ⟨by decide +kernel, fun _ => rfl, rfl, rfl⟩

theorem repeatedCalls_played : (played (Undisturbed lengthHashing) repeatedCalls).isSome := by
  decide +kernel

/-- No call is in progress, a result was returned last, and the version is not chunked under
its configuration. -/
def Disagreeing (parties : Parties (Fin 3) ChunkTables CallPhase) : Prop :=
  (∀ id, (parties.locals id).opened? = none) ∧ ∃ result ∈ parties.shared.lastResult,
    ∀ row ∈ parties.shared.store.version? onePage.organizationId onePage.id,
      row.chunkingStatus ≠ .succeeded ∨ row.activeChunkingConfigHash ≠ some result.configHash

instance (parties : Parties (Fin 3) ChunkTables CallPhase) : Decidable (Disagreeing parties) :=
  inferInstanceAs (Decidable ((∀ id, (parties.locals id).opened? = none) ∧
    ∃ result ∈ parties.shared.lastResult,
      ∀ row ∈ parties.shared.store.version? onePage.organizationId onePage.id,
        row.chunkingStatus ≠ .succeeded ∨ row.activeChunkingConfigHash ≠ some result.configHash))

theorem exists_disagreement {labels : List (Fin 3 × CallTurn)}
    (disagrees : ∃ parties ∈ played (fun _ _ _ => True) labels, Disagreeing parties) :
    ∃ parties, played (fun _ _ _ => True) labels = some parties ∧
      ((chunkTurns lengthHashing onePage).system (Fin 3)).Reachable parties ∧
        ¬ StatusAgrees lengthHashing onePage parties := by
  obtain ⟨parties, isPlayed, quiet, result, isResult, wrong⟩ := disagrees
  refine ⟨parties, isPlayed, (Turns.reachable_of_foldlM initial_unchunkedPage isPlayed).of_restrict,
    fun agrees => ?_⟩
  obtain ⟨row, isRow, succeeded, active⟩ := agrees.settled quiet result isResult
  exact (wrong row isRow).elim (· succeeded) (· active)

end Sample

/-- The status agrees with the chunks after the page was chunked and its chunks were found. -/
theorem statusAgrees_repeated :
    StatusAgrees Sample.lengthHashing Sample.onePage
      ((Sample.played (Undisturbed Sample.lengthHashing) Sample.repeatedCalls).get
        Sample.repeatedCalls_played) :=
  statusAgrees_of_undisturbed (Turns.reachable_of_foldlM Sample.initial_unchunkedPage
    (Option.some_get Sample.repeatedCalls_played).symm)

/-- The status disagrees with the chunks that a call has found: after another call lost against
the one that stored them, and after they were stored before those of another configuration. -/
theorem status_disagrees :
    (∃ parties, Sample.played (fun _ _ _ => True) Sample.overlappingCalls = some parties ∧
      ((chunkTurns Sample.lengthHashing Sample.onePage).system (Fin 3)).Reachable parties ∧
        ¬ StatusAgrees Sample.lengthHashing Sample.onePage parties) ∧
    ∃ parties, Sample.played (fun _ _ _ => True) Sample.alternatingCalls = some parties ∧
      ((chunkTurns Sample.lengthHashing Sample.onePage).system (Fin 3)).Reachable parties ∧
        ¬ StatusAgrees Sample.lengthHashing Sample.onePage parties :=
  ⟨Sample.exists_disagreement (by decide +kernel), Sample.exists_disagreement (by decide +kernel)⟩

end PolicyOS.Knowledge
