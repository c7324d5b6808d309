import Mathlib.Data.Nat.Digits.Defs
import PolicyOS.Knowledge.BlockRanges
import PolicyOS.Knowledge.ChunkingService

/-!
# Chunks that can be persisted

A call that finds no chunks succeeds exactly if no content is kept at two places, the last
chunk is not merged backwards, and the citations fit into their columns. The chunker tells
chunks apart by content, range and locator, while the table forbids a content twice: a text
that is repeated on two pages is chunked and never stored.
-/

namespace PolicyOS.Knowledge

open Foundation

variable {hashing : Hashing} {config : ChunkingConfig} {chunks : List ChunkCandidate}

/-! ## Chunks that are kept -/

section Unique

variable {seen : List (Digest × Nat × Nat × Option Text)} {chunk : ChunkCandidate}

theorem mem_of_uniqueFrom (kept : chunk ∈ uniqueFrom seen chunks) : chunk ∈ chunks := by
  induction chunks generalizing seen with
  | nil => exact kept
  | cons first rest ih =>
      unfold uniqueFrom at kept
      split_ifs at kept
      · exact List.mem_cons_of_mem _ (ih kept)
      · rcases List.mem_cons.mp kept with rfl | later
        · exact List.mem_cons_self
        · exact List.mem_cons_of_mem _ (ih later)

/-- Of every key a chunk is kept, unless the key was seen before. -/
theorem exists_of_uniqueFrom (listed : chunk ∈ chunks) :
    chunk.key ∈ seen ∨ ∃ kept ∈ uniqueFrom seen chunks, kept.key = chunk.key := by
  induction chunks generalizing seen with
  | nil => exact absurd listed List.not_mem_nil
  | cons first rest ih =>
      unfold uniqueFrom
      split_ifs with known
      · rcases List.mem_cons.mp listed with rfl | later
        · exact .inl known
        · exact ih later
      · rcases List.mem_cons.mp listed with rfl | later
        · exact .inr ⟨_, List.mem_cons_self, rfl⟩
        · rcases ih later with inSeen | ⟨kept, isKept, sameKey⟩
          · rcases List.mem_cons.mp inSeen with same | old
            · exact .inr ⟨first, List.mem_cons_self, same.symm⟩
            · exact .inl old
          · exact .inr ⟨kept, List.mem_cons_of_mem _ isKept, sameKey⟩

theorem key_not_seen (kept : chunk ∈ uniqueFrom seen chunks) : chunk.key ∉ seen := by
  induction chunks generalizing seen with
  | nil => exact absurd kept List.not_mem_nil
  | cons first rest ih =>
      unfold uniqueFrom at kept
      split_ifs at kept with known
      · exact ih kept
      · rcases List.mem_cons.mp kept with rfl | later
        · exact known
        · exact fun inSeen => ih later (List.mem_cons_of_mem _ inSeen)

theorem pairwise_uniqueFrom :
    (uniqueFrom seen chunks).Pairwise fun first second => first.key ≠ second.key := by
  induction chunks generalizing seen with
  | nil => exact List.Pairwise.nil
  | cons first rest ih =>
      unfold uniqueFrom
      split_ifs
      · exact ih
      · refine List.Pairwise.cons (fun later kept same => ?_) ih
        exact key_not_seen kept (List.mem_cons.mpr (.inl same.symm))

end Unique

/-- Contents tell chunks apart: no content is at two places. -/
def ContentsApart (chunks : List ChunkCandidate) : Prop :=
  ∀ first ∈ chunks, ∀ second ∈ chunks, first.contentHash = second.contentHash →
    first.key = second.key

/-- No content is kept twice exactly if no content is at two places. -/
theorem pairwise_content_iff :
    ((uniqueFrom [] chunks).Pairwise fun first second => first.contentHash ≠ second.contentHash) ↔
      ContentsApart chunks := by
  constructor
  · intro apart first isFirst second isSecond sameContent
    obtain ⟨kept, isKept, keptKey⟩ :=
      (exists_of_uniqueFrom isFirst).resolve_left List.not_mem_nil
    obtain ⟨other, isOther, otherKey⟩ :=
      (exists_of_uniqueFrom isSecond).resolve_left List.not_mem_nil
    have contents : kept.contentHash = other.contentHash :=
      (congrArg Prod.fst keptKey).trans (sameContent.trans (congrArg Prod.fst otherKey).symm)
    have same : kept = other :=
      List.inj_on_of_nodup_map (List.pairwise_map.mpr apart) isKept isOther contents
    rw [← keptKey, ← otherKey, same]
  · intro apart
    refine pairwise_uniqueFrom.imp_of_mem fun isFirst isSecond otherKey sameContent => otherKey ?_
    exact apart _ (mem_of_uniqueFrom isFirst) _ (mem_of_uniqueFrom isSecond) sameContent

/-! ## Merging the last chunk -/

/-- The last chunk, if it is merged, does not end before the chunk it is merged into starts. -/
def TailForward (hashing : Hashing) (config : ChunkingConfig) (chunks : List ChunkCandidate) :
    Prop :=
  ∀ earlier previous tail, chunks = earlier ++ [previous, tail] →
    tailMerges hashing config previous tail → previous.sourceBlockStart ≤ tail.sourceBlockEnd

/-- A property of the chunks before merging holds afterwards exactly if it holds of the
merged chunk. -/
theorem forall_mergeSmallTail_iff {Property : ChunkCandidate → Prop}
    (holds : ∀ chunk ∈ chunks, Property chunk) :
    (∀ chunk ∈ mergeSmallTail hashing config chunks, Property chunk) ↔
      ∀ earlier previous tail, chunks = earlier ++ [previous, tail] →
        tailMerges hashing config previous tail → Property (mergeInto hashing previous tail) := by
  induction chunks using mergeSmallTail.induct hashing config with
  | case1 => simp [mergeSmallTail]
  | case2 only =>
      simp only [mergeSmallTail]
      refine ⟨fun _ earlier previous tail split => ?_, fun _ => holds⟩
      have lengths := congrArg List.length split
      simp at lengths
  | case3 previous tail merges =>
      rw [mergeSmallTail, if_pos merges, List.forall_mem_singleton]
      refine ⟨fun property earlier first second split _ => ?_,
        fun merged => merged [] previous tail rfl merges⟩
      have whole : [] ++ [previous, tail] = earlier ++ [first, second] := split
      cases (List.append_inj' whole rfl).2
      exact property
  | case4 previous tail apart =>
      rw [mergeSmallTail, if_neg apart]
      refine ⟨fun _ earlier first second split merges => ?_, fun _ => holds⟩
      have whole : [] ++ [previous, tail] = earlier ++ [first, second] := split
      cases (List.append_inj' whole rfl).2
      exact absurd merges apart
  | case5 first second third rest ih =>
      have later := ih fun chunk listed => holds chunk (List.mem_cons_of_mem _ listed)
      rw [mergeSmallTail, List.forall_mem_cons, later]
      constructor
      · rintro ⟨-, merged⟩ earlier previous tail split merges
        cases earlier with
        | nil => simp at split
        | cons head others =>
            injection split with _ split
            exact merged others previous tail split merges
      · intro merged
        refine ⟨holds first List.mem_cons_self, fun earlier previous tail split merges => ?_⟩
        exact merged (first :: earlier) previous tail (by rw [split]; rfl) merges

theorem forward_mergeSmallTail_iff (forward : ∀ chunk ∈ chunks, chunk.Forward) :
    (∀ chunk ∈ mergeSmallTail hashing config chunks, chunk.Forward) ↔
      TailForward hashing config chunks :=
  forall_mergeSmallTail_iff forward

/-- A chunk is made under a configuration. -/
structure MadeUnder (hashing : Hashing) (config : ChunkingConfig) (chunk : ChunkCandidate) :
    Prop where
  configHash : chunk.chunkingConfigHash = hashing.configHash config
  strategy : chunk.chunkingStrategyVersion = config.chunkingStrategyVersion
  normalization : chunk.normalizationVersion = config.normalizationVersion

/-- The chunks of the groups are made under the configuration of their request, and end no
earlier than they start; so is a merged chunk made. -/
theorem madeUnder_of_kept {request : ChunkingRequest}
    (grouped : groupedChunks hashing request = .ok chunks) {chunk : ChunkCandidate}
    (kept : chunk ∈ keptChunks hashing request.config chunks) :
    MadeUnder hashing request.config chunk := by
  have made : ∀ chunk ∈ chunks, MadeUnder hashing request.config chunk := by
    simp only [groupedChunks, bind_eq_ok_iff, exists_unit_iff] at grouped
    obtain ⟨_, -, -, _, -, collected⟩ := grouped
    intro chunk listed
    obtain ⟨_, -, made⟩ := mem_of_collectEach collected listed
    obtain ⟨-, rfl⟩ := buildChecked_eq_ok_iff.mp made
    exact ⟨rfl, rfl, rfl⟩
  refine (forall_mergeSmallTail_iff made).mpr ?_ chunk (mem_of_uniqueFrom kept)
  rintro earlier previous tail rfl -
  have own := made previous (by simp)
  exact ⟨own.configHash, own.strategy, own.normalization⟩

/-! ## Inserting rows -/

section Insertion

variable {store next : KnowledgeStore} {source : KnowledgeSource} {document : KnowledgeDocument}
  {version : KnowledgeDocumentVersion} {newIds : Nat → UUID × UUID} {candidate : ChunkCandidate}
  {candidates : List ChunkCandidate}

/-- The rows that citations of a version refer to are stored. -/
structure Parents (store : KnowledgeStore) (source : KnowledgeSource)
    (document : KnowledgeDocument) (version : KnowledgeDocumentVersion) : Prop where
  source : store.source? version.organizationId source.id ≠ none
  document : store.document? version.organizationId document.id ≠ none
  version : store.version? version.organizationId version.id ≠ none

/-- A row of the version and the configuration of a chunk. -/
def Beside (version : KnowledgeDocumentVersion) (candidate : ChunkCandidate)
    (row : KnowledgeChunk) : Prop :=
  row.organizationId = version.organizationId ∧ row.documentVersionId = version.id ∧
    row.chunkingConfigHash = candidate.chunkingConfigHash

/-- The identifiers and the place of a chunk are not taken. -/
structure Free (store : KnowledgeStore) (version : KnowledgeDocumentVersion)
    (newIds : Nat → UUID × UUID) (candidate : ChunkCandidate) : Prop where
  chunk : ∀ row ∈ store.chunks, row.id ≠ (newIds candidate.chunkIndex).1
  place : ∀ row ∈ store.chunks, Beside version candidate row →
    row.ordinal ≠ candidate.chunkIndex
  citation : ∀ row ∈ store.citations, row.id ≠ (newIds candidate.chunkIndex).2
  cited : ∀ row ∈ store.citations, row.chunkId ≠ some (newIds candidate.chunkIndex).1

/-- The content of a chunk is not stored under its version and configuration. -/
def ContentFree (store : KnowledgeStore) (version : KnowledgeDocumentVersion)
    (candidate : ChunkCandidate) : Prop :=
  ∀ row ∈ store.chunks, Beside version candidate row → row.contentHash ≠ candidate.contentHash

/-- The rows of a chunk keep the checks of their tables. -/
def RowsChecked (source : KnowledgeSource) (document : KnowledgeDocument)
    (version : KnowledgeDocumentVersion) (newIds : Nat → UUID × UUID)
    (candidate : ChunkCandidate) : Prop :=
  let chunk := chunkRow version (newIds candidate.chunkIndex).1 candidate
  chunk.Checked ∧ Citable source document ∧
    (citationRow source document version (newIds candidate.chunkIndex).2 chunk
      candidate.locator.toLocatorFields).Checked

/-- What is stored after a chunk and its citation are inserted. -/
def withChunk (source : KnowledgeSource) (document : KnowledgeDocument)
    (version : KnowledgeDocumentVersion) (newIds : Nat → UUID × UUID) (store : KnowledgeStore)
    (candidate : ChunkCandidate) : KnowledgeStore :=
  let chunk := chunkRow version (newIds candidate.chunkIndex).1 candidate
  { store with
    chunks := store.chunks ++ [chunk]
    citations := store.citations ++ [citationRow source document version
      (newIds candidate.chunkIndex).2 chunk candidate.locator.toLocatorFields] }

/-- A chunk in a free place conflicts with a row exactly if it has its content. -/
theorem not_conflicts_iff (free : Free store version newIds candidate) :
    (∀ row ∈ store.chunks,
      ¬ (chunkRow version (newIds candidate.chunkIndex).1 candidate).Conflicts row) ↔
        ContentFree store version candidate := by
  refine forall₂_congr fun row stored => ?_
  constructor
  · rintro clear ⟨sameOrganization, sameVersion, sameConfig⟩ sameContent
    refine clear (.inr ⟨?_, .inr sameContent.symm⟩)
    rw [sameOrganization, sameVersion, sameConfig]
    rfl
  · rintro contentFree (sameId | ⟨sameScope, sameOrdinal | sameContent⟩)
    · exact free.chunk row stored sameId.symm
    · simp only [chunkRow, Prod.mk.injEq] at sameScope
      exact free.place row stored ⟨sameScope.1.symm, sameScope.2.1.symm, sameScope.2.2.symm⟩
        sameOrdinal.symm
    · simp only [chunkRow, Prod.mk.injEq] at sameScope
      exact contentFree ⟨sameScope.1.symm, sameScope.2.1.symm, sameScope.2.2.symm⟩
        sameContent.symm

/-- A chunk in a free place is inserted exactly if its rows keep their checks and its content
is not stored. -/
theorem persistChunk_eq_ok_iff (parents : Parents store source document version)
    (free : Free store version newIds candidate) :
    persistChunk source document version (newIds candidate.chunkIndex) store candidate = .ok next ↔
      RowsChecked source document version newIds candidate ∧ ContentFree store version candidate ∧
        withChunk source document version newIds store candidate = next := by
  have citationClear : ∀ row ∈ store.citations,
      ¬ (citationRow source document version (newIds candidate.chunkIndex).2
        (chunkRow version (newIds candidate.chunkIndex).1 candidate)
        candidate.locator.toLocatorFields).Conflicts row := by
    rintro row stored (sameId | ⟨-, chunk, isChunk, sameChunk⟩)
    · exact free.citation row stored sameId.symm
    · cases isChunk
      exact free.cited row stored sameChunk
  simp only [persistChunk, KnowledgeStore.insertChunk, KnowledgeStore.insertCitation,
    bind_eq_ok_iff, exists_unit_iff, mapError_eq_ok_iff, rejectIf_eq_ok_iff, pure_eq_ok_iff,
    not_not, not_exists, not_and]
  constructor
  · rintro ⟨_, ⟨checked, clear, -, rfl⟩, citable, citation, -, -, -, -, -, rfl⟩
    exact ⟨⟨checked, citable, citation⟩, (not_conflicts_iff free).mp clear, rfl⟩
  · rintro ⟨⟨checked, citable, citation⟩, contentFree, rfl⟩
    refine ⟨_, ⟨checked, (not_conflicts_iff free).mpr contentFree, parents.version, rfl⟩, citable,
      citation, citationClear, parents.source, parents.document, parents.version, ?_, rfl⟩
    rintro chunk ⟨⟩
    have present : (KnowledgeStore.chunk?
        { store with chunks := store.chunks ++
          [chunkRow version (newIds candidate.chunkIndex).1 candidate] }
        version.organizationId (newIds candidate.chunkIndex).1).isSome := by
      rw [KnowledgeStore.chunk?, List.find?_isSome]
      exact ⟨chunkRow version (newIds candidate.chunkIndex).1 candidate, by simp, by
        simp [chunkRow]⟩
    exact Option.isSome_iff_ne_none.mp present

/-- New identifiers are distinct. -/
structure DistinctIds (newIds : Nat → UUID × UUID) : Prop where
  chunks : Function.Injective fun index => (newIds index).1
  citations : Function.Injective fun index => (newIds index).2

/-- The place of another chunk stays free. -/
theorem Free.withChunk {other : ChunkCandidate} (distinct : DistinctIds newIds)
    (free : Free store version newIds other) (apart : candidate.chunkIndex ≠ other.chunkIndex) :
    Free (withChunk source document version newIds store candidate) version newIds other where
  chunk row stored := by
    rcases List.mem_append.mp stored with old | new
    · exact free.chunk row old
    · rw [List.mem_singleton.mp new]
      exact fun same => apart (distinct.chunks same)
  place row stored beside := by
    rcases List.mem_append.mp stored with old | new
    · exact free.place row old beside
    · rw [List.mem_singleton.mp new]
      exact apart
  citation row stored := by
    rcases List.mem_append.mp stored with old | new
    · exact free.citation row old
    · rw [List.mem_singleton.mp new]
      exact fun same => apart (distinct.citations same)
  cited row stored := by
    rcases List.mem_append.mp stored with old | new
    · exact free.cited row old
    · rw [List.mem_singleton.mp new]
      exact fun same => apart (distinct.chunks (Option.some.inj same))

/-- The content of another chunk stays free exactly if it differs. -/
theorem contentFree_withChunk_iff {other : ChunkCandidate}
    (sameConfig : candidate.chunkingConfigHash = other.chunkingConfigHash) :
    ContentFree (withChunk source document version newIds store candidate) version other ↔
      ContentFree store version other ∧ candidate.contentHash ≠ other.contentHash := by
  constructor
  · intro contentFree
    refine ⟨fun row stored => contentFree row (List.mem_append.mpr (.inl stored)), ?_⟩
    exact contentFree (chunkRow version (newIds candidate.chunkIndex).1 candidate)
      (List.mem_append.mpr (.inr (List.mem_singleton.mpr rfl))) ⟨rfl, rfl, sameConfig⟩
  · rintro ⟨contentFree, apart⟩ row stored beside
    rcases List.mem_append.mp stored with old | new
    · exact contentFree row old beside
    · rw [List.mem_singleton.mp new]
      exact apart

/-- Chunks in free places are inserted exactly if their rows keep their checks and no
content is stored twice. -/
theorem accepted_persistChunks_iff (distinct : DistinctIds newIds) {configHash : Digest}
    (ofConfig : ∀ candidate ∈ candidates, candidate.chunkingConfigHash = configHash)
    (places : candidates.Pairwise fun first second => first.chunkIndex ≠ second.chunkIndex) :
    ∀ {store : KnowledgeStore}, Parents store source document version →
      (∀ candidate ∈ candidates, Free store version newIds candidate) →
      (Accepted (persistChunks source document version newIds store candidates) ↔
        (∀ candidate ∈ candidates, RowsChecked source document version newIds candidate) ∧
          (∀ candidate ∈ candidates, ContentFree store version candidate) ∧
            candidates.Pairwise fun first second => first.contentHash ≠ second.contentHash) := by
  induction candidates with
  | nil =>
      intro store _ _
      exact ⟨fun _ => ⟨by simp, by simp, .nil⟩, fun _ => ⟨store, rfl⟩⟩
  | cons first rest ih =>
      intro store parents free
      obtain ⟨apart, places⟩ := List.pairwise_cons.mp places
      have sameConfig : ∀ other ∈ rest, first.chunkingConfigHash = other.chunkingConfigHash :=
        fun other listed => (ofConfig first List.mem_cons_self).trans
          (ofConfig other (List.mem_cons_of_mem _ listed)).symm
      have later := @ih (fun other listed => ofConfig other (List.mem_cons_of_mem _ listed)) places
        (withChunk source document version newIds store first)
        ⟨parents.source, parents.document, parents.version⟩
        (fun other listed => (free other (List.mem_cons_of_mem _ listed)).withChunk distinct
          (apart other listed))
      have inserted : Accepted (persistChunks source document version newIds store
          (first :: rest)) ↔
          RowsChecked source document version newIds first ∧ ContentFree store version first ∧
            Accepted (persistChunks source document version newIds
              (withChunk source document version newIds store first) rest) := by
        rw [persistChunks, accepted_bind_iff]
        constructor
        · rintro ⟨middle, isFirst, accepted⟩
          obtain ⟨checked, contentFree, rfl⟩ := (persistChunk_eq_ok_iff parents
            (free first List.mem_cons_self)).mp isFirst
          exact ⟨checked, contentFree, accepted⟩
        · rintro ⟨checked, contentFree, accepted⟩
          exact ⟨_, (persistChunk_eq_ok_iff parents (free first List.mem_cons_self)).mpr
            ⟨checked, contentFree, rfl⟩, accepted⟩
      rw [inserted, later, List.forall_mem_cons, List.forall_mem_cons, List.pairwise_cons]
      have contents : (∀ other ∈ rest, ContentFree
          (withChunk source document version newIds store first) version other) ↔
          (∀ other ∈ rest, ContentFree store version other) ∧
            ∀ other ∈ rest, first.contentHash ≠ other.contentHash := by
        rw [← forall₂_and]
        exact forall₂_congr fun other listed => contentFree_withChunk_iff (sameConfig other listed)
      rw [contents]
      tauto

/-! ## Columns -/

/-- What a citation of a chunk needs of its columns: its title, type and metadata are there,
and the texts and numbers fit. -/
structure ColumnsFit (source : KnowledgeSource) (document : KnowledgeDocument)
    (version : KnowledgeDocumentVersion) (chunk : ChunkCandidate) : Prop where
  citable : Citable source document
  sourceUrl : Fits 2000 document.metadata.sourceUrl.value?
  sectionPath : Fits 500 chunk.locator.sectionPath
  label : (citationContext source document version
    chunk.locator.toLocatorFields).label.length ≤ 500
  places : Counts [chunk.sourceBlockStart, chunk.sourceBlockEnd, chunk.tokenEstimate,
    chunk.characterCount]
  pages : Counts (chunk.locator.pageStart.toList ++ chunk.locator.pageEnd.toList)

theorem length_toString_le {number : Nat} (fits : number < 2 ^ 31) :
    (toString number).toList.length ≤ 10 := by
  rw [String.length_toList]
  exact Nat.repr_length number 10 (by decide) (by omega)

theorem length_uuidChars (id : UUID) : (uuidChars id).length = 36 := by
  simp [uuidChars, hexDigits]

theorem length_internalReference (chunkId : UUID) :
    (internalReference document version chunkId).length =
      84 + (toString version.version).toList.length := by
  have start : "knowledge:".toList.length = 10 := by decide
  unfold internalReference
  simp only [List.length_append, List.length_cons, length_uuidChars, start]
  generalize (toString version.version).toList.length = digits
  omega

theorem length_internalReference_le (chunkId : UUID) :
    (internalReference document version chunkId).length ≤ 500 := by
  have number : (toString version.version).toList.length ≤ 10 :=
    length_toString_le version.versionBounds.2
  rw [length_internalReference]
  omega

theorem counts_numbers_iff {id : UUID} :
    Counts (chunkRow version id candidate).numbers ↔
      candidate.chunkIndex < 2 ^ 31 ∧
        Counts [candidate.sourceBlockStart, candidate.sourceBlockEnd, candidate.tokenEstimate,
          candidate.characterCount] ∧
        Counts (candidate.locator.pageStart.toList ++ candidate.locator.pageEnd.toList) := by
  simp only [Counts, KnowledgeChunk.numbers, chunkRow, List.append_assoc, List.forall_mem_append,
    List.forall_mem_cons]
  tauto

/-- The rows of a chunk in its place keep their checks exactly if the chunk ends no earlier
than it starts and its columns fit. -/
theorem rowsChecked_iff (made : MadeUnder hashing config candidate) :
    RowsChecked source document version newIds candidate ↔
      candidate.Forward ∧ ColumnsFit source document version candidate ∧
        candidate.chunkIndex < 2 ^ 31 := by
  obtain ⟨-, -, path, heading, locator⟩ := candidate.locator.bounded
  have strategy : candidate.chunkingStrategyVersion.length ≤ 50 :=
    made.strategy ▸ config.strategyBounds.2
  have normalization : candidate.normalizationVersion.length ≤ 50 :=
    made.normalization ▸ config.normalizationBounds.2
  constructor
  · rintro ⟨⟨-, -, -, -, -, numbers, forward⟩, citable, -, -, -, sectionPath, -, -, -, sourceUrl,
      -, label, -⟩
    obtain ⟨index, places, pages⟩ := counts_numbers_iff.mp numbers
    exact ⟨forward,
      { citable, sourceUrl, sectionPath, places, pages
        label := label _ rfl },
      index⟩
  · rintro ⟨forward, fit, index⟩
    have page : Fits 100 (candidate.locator.pageStart.map fun page => (toString page).toList) := by
      intro text isText
      obtain ⟨first, isFirst, rfl⟩ := Option.map_eq_some_iff.mp isText
      have bound := length_toString_le (fit.pages first (by simp [isFirst]))
      omega
    refine ⟨⟨strategy, normalization, path, heading, locator,
      counts_numbers_iff.mpr ⟨index, fit.places, fit.pages⟩, forward⟩, fit.citable,
      source.sourceTypeBound, document.titleBound, page, fit.sectionPath, path, heading,
      document.externalIdBound, fit.sourceUrl, ?_, ?_, ?_⟩
    · rintro _ ⟨⟩
      exact length_internalReference_le _
    · rintro _ ⟨⟩
      exact fit.label
    · rw [Counts, List.cons_append, List.forall_mem_cons]
      exact ⟨version.versionBounds.2, fit.pages⟩

end Insertion

/-! ## Numbered chunks -/

theorem mem_numbered_iff {chunk : ChunkCandidate} :
    chunk ∈ numbered chunks ↔ ∃ (own : ChunkCandidate) (index : Nat),
      chunks[index]? = some own ∧ own.numberedAt index = chunk := by
  simp only [numbered, List.mem_map, Prod.exists, List.mem_zipIdx_iff_getElem?]

theorem map_content_numbered :
    (numbered chunks).map (·.contentHash) = chunks.map (·.contentHash) := by
  have contents : (numbered chunks).map (·.contentHash) =
      (chunks.zipIdx.map Prod.fst).map (·.contentHash) := by
    simp only [numbered, List.map_map]
    rfl
  rw [contents, List.zipIdx_map_fst]

theorem map_chunkIndex_numbered :
    (numbered chunks).map (·.chunkIndex) = List.range' 0 chunks.length := by
  rw [← List.zipIdx_map_snd]
  simp only [numbered, List.map_map]
  rfl

theorem pairwise_numbered :
    (numbered chunks).Pairwise fun first second => first.chunkIndex ≠ second.chunkIndex :=
  List.pairwise_map.mp (map_chunkIndex_numbered ▸ List.nodup_range')

/-! ## Calls -/

section Calls

variable {call : ChunkVersionCall} {store : KnowledgeStore} {source : KnowledgeSource}
  {document : KnowledgeDocument} {version : KnowledgeDocumentVersion}

/-- Identifiers that no row has. -/
structure FreshIds (newIds : Nat → UUID × UUID) (store : KnowledgeStore) : Prop where
  distinct : DistinctIds newIds
  chunks : ∀ row ∈ store.chunks, ∀ index, row.id ≠ (newIds index).1
  citations : ∀ row ∈ store.citations, ∀ index, row.id ≠ (newIds index).2
  cited : ∀ row ∈ store.citations, ∀ index, row.chunkId ≠ some (newIds index).1

/-- The chunks of a version can be persisted: no content is at two places, the last chunk is
not merged backwards, and the columns of what is kept fit. -/
structure Persistable (hashing : Hashing) (source : KnowledgeSource)
    (document : KnowledgeDocument) (version : KnowledgeDocumentVersion) (config : ChunkingConfig)
    (chunks : List ChunkCandidate) : Prop where
  contents : ContentsApart (mergeSmallTail hashing config chunks)
  tail : TailForward hashing config chunks
  columns : ∀ chunk ∈ keptChunks hashing config chunks, ColumnsFit source document version chunk
  count : (keptChunks hashing config chunks).length ≤ 2 ^ 31

theorem forward_kept_iff :
    (∀ chunk ∈ uniqueFrom [] chunks, chunk.Forward) ↔ ∀ chunk ∈ chunks, chunk.Forward := by
  constructor
  · intro forward chunk listed
    obtain ⟨kept, isKept, sameKey⟩ := (exists_of_uniqueFrom listed).resolve_left List.not_mem_nil
    simp only [ChunkCandidate.key, Prod.mk.injEq] at sameKey
    have ordered := forward kept isKept
    rwa [ChunkCandidate.Forward, sameKey.2.1, sameKey.2.2.1] at ordered
  · exact fun forward chunk kept => forward chunk (mem_of_uniqueFrom kept)

/-- The rows of all kept chunks keep their checks exactly if no range is turned around, the
columns fit and there are not too many. -/
theorem rowsChecked_numbered_iff {newIds : Nat → UUID × UUID} {kept : List ChunkCandidate}
    (made : ∀ chunk ∈ kept, MadeUnder hashing config chunk) :
    (∀ chunk ∈ numbered kept, RowsChecked source document version newIds chunk) ↔
      (∀ chunk ∈ kept, chunk.Forward) ∧
        (∀ chunk ∈ kept, ColumnsFit source document version chunk) ∧ kept.length ≤ 2 ^ 31 := by
  have row : ∀ index own, kept[index]? = some own →
      (RowsChecked source document version newIds (own.numberedAt index) ↔
        own.Forward ∧ ColumnsFit source document version own ∧ index < 2 ^ 31) := by
    intro index own isOwn
    have isMade := made own (List.mem_of_getElem? isOwn)
    have numberedMade : MadeUnder hashing config (own.numberedAt index) :=
      ⟨isMade.configHash, isMade.strategy, isMade.normalization⟩
    rw [rowsChecked_iff numberedMade]
    refine and_congr Iff.rfl (and_congr ⟨fun fit => ?_, fun fit => ?_⟩ Iff.rfl)
    · exact ⟨fit.citable, fit.sourceUrl, fit.sectionPath, fit.label, fit.places, fit.pages⟩
    · exact ⟨fit.citable, fit.sourceUrl, fit.sectionPath, fit.label, fit.places, fit.pages⟩
  constructor
  · intro checked
    have each : ∀ index own, kept[index]? = some own →
        own.Forward ∧ ColumnsFit source document version own ∧ index < 2 ^ 31 :=
      fun index own isOwn => (row index own isOwn).mp
        (checked _ (mem_numbered_iff.mpr ⟨own, index, isOwn, rfl⟩))
    refine ⟨fun chunk listed => ?_, fun chunk listed => ?_, ?_⟩
    · obtain ⟨index, isChunk⟩ := List.mem_iff_getElem?.mp listed
      exact (each index chunk isChunk).1
    · obtain ⟨index, isChunk⟩ := List.mem_iff_getElem?.mp listed
      exact (each index chunk isChunk).2.1
    · by_contra many
      rw [not_le] at many
      exact absurd (each (2 ^ 31) _ (List.getElem?_eq_getElem many)).2.2 (lt_irrefl _)
  · rintro ⟨forward, columns, count⟩ chunk listed
    obtain ⟨own, index, isOwn, rfl⟩ := mem_numbered_iff.mp listed
    obtain ⟨bound, -⟩ := List.getElem?_eq_some_iff.mp isOwn
    have isListed := List.mem_of_getElem? isOwn
    exact (row index own isOwn).mpr
      ⟨forward own isListed, columns own isListed, bound.trans_le count⟩

/-- A version that is changed is found changed. -/
theorem version?_setVersion {organizationId id : UUID}
    {change : KnowledgeDocumentVersion → KnowledgeDocumentVersion}
    (sameId : ∀ row, (change row).id = row.id)
    (sameOrganization : ∀ row, (change row).organizationId = row.organizationId) :
    (store.setVersion organizationId id change).version? organizationId id =
      (store.version? organizationId id).map change := by
  simp only [KnowledgeStore.version?, KnowledgeStore.setVersion, List.find?_map]
  have same : (fun row : KnowledgeDocumentVersion =>
      decide (row.id = id ∧ row.organizationId = organizationId)) ∘
        (fun row => if row.id = id ∧ row.organizationId = organizationId then change row else row) =
      fun row => decide (row.id = id ∧ row.organizationId = organizationId) := by
    funext row
    simp only [Function.comp]
    split_ifs <;> simp [sameId, sameOrganization]
  rw [same]
  cases found : store.versions.find? fun row => row.id = id ∧ row.organizationId = organizationId with
  | none => rfl
  | some row =>
      have isRow : row.id = id ∧ row.organizationId = organizationId := by
        simpa using List.find?_some found
      simp [isRow]

theorem version?_mark {status : ChunkingStatus} :
    (store.mark version status).version? version.organizationId version.id =
      (store.version? version.organizationId version.id).map (·.withStatus status) :=
  version?_setVersion (fun _ => rfl) (fun _ => rfl)

theorem version?_chunkedUnder {configHash : Digest} :
    (store.setVersion version.organizationId version.id
        (·.chunkedUnder configHash)).version? version.organizationId version.id =
      (store.version? version.organizationId version.id).map (·.chunkedUnder configHash) :=
  version?_setVersion (fun _ => rfl) (fun _ => rfl)

/-- What a call reads is stored. -/
theorem readCall_eq_ok
    (read : readCall call store = .ok (source, document, version, config)) :
    store.version? call.organizationId call.documentVersionId = some version ∧
      version.id = call.documentVersionId ∧ version.organizationId = call.organizationId ∧
        Parents store source document version := by
  unfold readCall at read
  split at read
  · cases read
  next own isVersion =>
    simp only [bind_eq_ok_iff, exists_unit_iff] at read
    obtain ⟨-, read⟩ := read
    split at read
    · cases read
    next found isDocument =>
      split at read
      · cases read
      next origin isSource =>
        simp only [bind_eq_ok_iff, pure_eq_ok_iff, Prod.mk.injEq] at read
        obtain ⟨_, -, rfl, rfl, rfl, -⟩ := read
        have ofVersion : own.id = call.documentVersionId ∧
            own.organizationId = call.organizationId := by
          simpa using List.find?_some isVersion
        have ofDocument : found.id = own.documentId ∧
            found.organizationId = call.organizationId := by
          simpa using List.find?_some isDocument
        have ofSource : origin.id = found.sourceId ∧
            origin.organizationId = call.organizationId := by
          simpa using List.find?_some isSource
        refine ⟨isVersion, ofVersion.1, ofVersion.2, ?_, ?_, ?_⟩
        · rw [ofVersion.2, ofSource.1, isSource]
          exact Option.some_ne_none _
        · rw [ofVersion.2, ofDocument.1, isDocument]
          exact Option.some_ne_none _
        · rw [ofVersion.1, ofVersion.2, isVersion]
          exact Option.some_ne_none _

/-- The version a call is of is chunked, and the call returned. -/
def Succeeds (hashing : Hashing) (call : ChunkVersionCall) (store : KnowledgeStore) : Prop :=
  Accepted (chunkVersion hashing call store).2 ∧
    ∃ row, (chunkVersion hashing call store).1.version? call.organizationId
      call.documentVersionId = some row ∧ row.chunkingStatus = .succeeded

/-- Inserting chunks leaves the versions as they are. -/
theorem versions_persistChunks {newIds : Nat → UUID × UUID} {candidates : List ChunkCandidate}
    {after : KnowledgeStore}
    (persisted : persistChunks source document version newIds store candidates = .ok after) :
    after.versions = store.versions := by
  induction candidates generalizing store with
  | nil =>
      cases persisted
      rfl
  | cons first rest ih =>
      simp only [persistChunks, persistChunk, KnowledgeStore.insertChunk,
        KnowledgeStore.insertCitation, bind_eq_ok_iff, exists_unit_iff, mapError_eq_ok_iff,
        pure_eq_ok_iff] at persisted
      obtain ⟨_, ⟨_, ⟨-, -, -, rfl⟩, -, -, -, -, -, -, -, rfl⟩, others⟩ := persisted
      exact (ih others).trans rfl

/-- Where nothing is stored under a configuration, inserting the chunks is all a call may
fail with. -/
theorem succeeds_iff_persisted {result : ChunkingResult}
    (read : readCall call store = .ok (source, document, version, config))
    (unchunked : store.existing version (hashing.configHash config) = [])
    (chunked : chunkDocument hashing (chunkingRequest version config) = .ok result) :
    Succeeds hashing call store ↔ Accepted (persistChunks source document version call.newIds
      (store.mark version .running) result.chunks) := by
  obtain ⟨isVersion, sameId, sameOrganization, -⟩ := readCall_eq_ok read
  rw [← sameId, ← sameOrganization] at isVersion
  have running : (store.mark version .running).version? version.organizationId version.id =
      some (version.withStatus .running) := by
    rw [version?_mark, isVersion]
    rfl
  have reduced : chunkVersion hashing call store = settleAttempt (store.mark version .running)
      version (attemptChunking hashing call (store.mark version .running) source document version
        config) := by
    unfold chunkVersion
    rw [read]
    simp only [unchunked, ne_eq, not_true_eq_false, if_false]
  constructor
  · rintro ⟨⟨returned, accepted⟩, -⟩
    rw [reduced] at accepted
    cases attempted : attemptChunking hashing call (store.mark version .running) source document
        version config with
    | error error =>
        rw [attempted] at accepted
        cases accepted
    | ok made =>
        simp only [attemptChunking, chunked, bind_eq_ok_iff, mapError_eq_ok_iff] at attempted
        obtain ⟨_, ⟨⟩, stored, persisted, -⟩ := attempted
        exact ⟨stored, persisted⟩
  · rintro ⟨stored, persisted⟩
    have found : stored.version? version.organizationId version.id =
        some (version.withStatus .running) := by
      rw [← running, KnowledgeStore.version?, KnowledgeStore.version?,
        versions_persistChunks persisted]
    obtain ⟨made, attempted⟩ : ∃ made, attemptChunking hashing call (store.mark version .running)
        source document version config = .ok (stored.setVersion version.organizationId version.id
          (·.chunkedUnder (hashing.configHash config)), made) := by
      simp only [attemptChunking, chunked, bind_eq_ok_iff, mapError_eq_ok_iff, pure_eq_ok_iff]
      exact ⟨_, _, rfl, stored, persisted, rfl⟩
    rw [Succeeds, reduced, attempted]
    refine ⟨⟨made, rfl⟩, (version.withStatus .running).chunkedUnder (hashing.configHash config),
      ?_, rfl⟩
    rw [← sameOrganization, ← sameId, settleAttempt, version?_chunkedUnder, found]
    rfl

/-- A place without chunks is free for every chunk of a configuration. -/
theorem free_of_unchunked {configHash : Digest} {newIds : Nat → UUID × UUID}
    (fresh : FreshIds newIds store) (unchunked : store.existing version configHash = [])
    {candidate : ChunkCandidate} (ofConfig : candidate.chunkingConfigHash = configHash) :
    Free store version newIds candidate ∧ ContentFree store version candidate := by
  have alone : ∀ row ∈ store.chunks, ¬ Beside version candidate row := by
    rintro row stored ⟨sameOrganization, sameVersion, sameConfig⟩
    rw [KnowledgeStore.existing, sortedBy_eq_nil_iff, List.filter_eq_nil_iff] at unchunked
    refine unchunked row stored (decide_eq_true ⟨sameOrganization, sameVersion, ?_⟩)
    rw [sameConfig, ofConfig]
  exact
    ⟨{ chunk := fun row stored => fresh.chunks row stored _
       place := fun row stored beside => absurd beside (alone row stored)
       citation := fun row stored => fresh.citations row stored _
       cited := fun row stored => fresh.cited row stored _ },
      fun row stored beside => absurd beside (alone row stored)⟩

/-- A call that finds a version ready and not chunked, and whose chunker returns, succeeds
exactly if the chunks can be persisted. -/
theorem chunkVersion_succeeds_iff
    (read : readCall call store = .ok (source, document, version, config))
    (unchunked : store.existing version (hashing.configHash config) = [])
    (fresh : FreshIds call.newIds store)
    (grouped : groupedChunks hashing (chunkingRequest version config) = .ok chunks) :
    Succeeds hashing call store ↔ Persistable hashing source document version config chunks := by
  obtain ⟨isVersion, sameId, sameOrganization, parents⟩ := readCall_eq_ok read
  have chunked : chunkDocument hashing (chunkingRequest version config) = .ok
      { documentVersionId := version.id
        configHash := hashing.configHash config
        strategyVersion := config.chunkingStrategyVersion
        chunks := numbered (keptChunks hashing config chunks) } := by
    rw [chunkDocument, grouped]
    rfl
  have made : ∀ chunk ∈ keptChunks hashing config chunks, MadeUnder hashing config chunk :=
    fun chunk kept => madeUnder_of_kept grouped kept
  have ofConfig : ∀ candidate ∈ numbered (keptChunks hashing config chunks),
      candidate.chunkingConfigHash = hashing.configHash config := by
    intro candidate listed
    obtain ⟨own, index, isOwn, rfl⟩ := mem_numbered_iff.mp listed
    exact (made own (List.mem_of_getElem? isOwn)).configHash
  have free : ∀ candidate ∈ numbered (keptChunks hashing config chunks),
      Free store version call.newIds candidate ∧ ContentFree store version candidate :=
    fun candidate listed => free_of_unchunked fresh unchunked (ofConfig candidate listed)
  have running : Parents (store.mark version .running) source document version := by
    refine ⟨parents.source, parents.document, ?_⟩
    rw [version?_mark]
    exact fun missing => parents.version (Option.map_eq_none_iff.mp missing)
  have forward := forward_groupedChunks grouped
  have contents : ((numbered (keptChunks hashing config chunks)).Pairwise fun first second =>
      first.contentHash ≠ second.contentHash) ↔
        ContentsApart (mergeSmallTail hashing config chunks) := by
    rw [← pairwise_content_iff, ← keptChunks, ← List.pairwise_map, map_content_numbered,
      List.pairwise_map]
  rw [succeeds_iff_persisted read unchunked chunked,
    accepted_persistChunks_iff fresh.distinct ofConfig pairwise_numbered running
      (fun candidate listed => ⟨(free candidate listed).1.chunk, (free candidate listed).1.place,
        (free candidate listed).1.citation, (free candidate listed).1.cited⟩),
    rowsChecked_numbered_iff made, contents, keptChunks, forward_kept_iff,
    forward_mergeSmallTail_iff forward]
  constructor
  · rintro ⟨⟨tail, columns, count⟩, -, apart⟩
    exact ⟨apart, tail, columns, count⟩
  · rintro ⟨apart, tail, columns, count⟩
    exact ⟨⟨tail, columns, count⟩, fun candidate listed => (free candidate listed).2, apart⟩

end Calls

/-! ## A text on two pages -/

namespace Sample

/-- The digest of the one text of the samples; any other text has none of its own. -/
def sampleHashing : Hashing where
  sha256 text :=
    if text = "Approved.".toList then
      ⟨"7e0019a3769b3e37d8a83d04a70720b100041b63e8000b03eafc85071a7a67bf".toList, by decide⟩
    else .repeated '0'
  configHash _ := .repeated 'c'
  estimate text := if text = [] then 0 else max 1 ((text.length + 3) / 4)

/-- Where the decisions come from. -/
def decisions : KnowledgeSource where
  id := 1
  organizationId := 2
  sourceType := "minutes".toList
  name := "Decisions".toList
  classification := .internal

/-- The record of the decisions. -/
def decisionRecord : KnowledgeDocument where
  id := 3
  organizationId := 2
  sourceId := 1
  title := "Decisions of May".toList
  classification := .internal

/-- A page on which a decision is approved. -/
def approvedPage (page : Nat) (positive : 1 ≤ page) : ParsedSection where
  kind := "page"
  text := "Approved.".toList
  pageNumber := some page
  pagePositive := by simpa using positive

theorem firstPage : 1 ≤ 1 := le_refl 1

/-- The version of the record with some pages. -/
def decisionVersion (pages : List ParsedSection) : KnowledgeDocumentVersion where
  id := 4
  organizationId := 2
  documentId := 3
  version := 1
  contentHash := .repeated 'a'
  parsedContent := some "Approved.".toList
  sections := pages
  classification := .internal

/-- The store of the record. -/
def decisionStore (pages : List ParsedSection) : KnowledgeStore where
  sources := [decisions]
  documents := [decisionRecord]
  versions := [decisionVersion pages]

/-- The call that chunks the record, with the default configuration. -/
def decisionCall : ChunkVersionCall where
  documentVersionId := 4
  organizationId := 2
  config := some .standard
  newIds index := (10 + index, 10 + index)

theorem freshIds_decisionCall (pages : List ParsedSection) :
    FreshIds decisionCall.newIds (decisionStore pages) where
  distinct := ⟨fun _ _ same => Nat.add_left_cancel same, fun _ _ same => Nat.add_left_cancel same⟩
  chunks _ stored := absurd stored List.not_mem_nil
  citations _ stored := absurd stored List.not_mem_nil
  cited _ stored := absurd stored List.not_mem_nil

theorem page_grouped : (groupedChunks sampleHashing
    (chunkingRequest (decisionVersion [approvedPage 1 (by decide)]) {})).toOption.isSome := by
  decide +kernel

end Sample

/-- The record of one page is chunked exactly if its chunks can be persisted. -/
theorem chunkVersion_succeeds_page :
    Succeeds Sample.sampleHashing Sample.decisionCall
        (Sample.decisionStore [Sample.approvedPage 1 (by decide)]) ↔
      Persistable Sample.sampleHashing Sample.decisions Sample.decisionRecord
        (Sample.decisionVersion [Sample.approvedPage 1 (by decide)]) {}
        (givenValue _ Sample.page_grouped) :=
  chunkVersion_succeeds_iff (by decide +kernel) (by decide +kernel)
    (Sample.freshIds_decisionCall _) (eq_ok_givenValue Sample.page_grouped)

/-- The record of two pages with one text is chunked, and its chunks are not stored: the
version is left as failed. -/
theorem repeated_text_fails :
    (chunkDocument Sample.sampleHashing (chunkingRequest (Sample.decisionVersion
      [Sample.approvedPage 1 (by decide), Sample.approvedPage 2 (by decide)]) {})).toOption.isSome ∧
    (chunkVersion Sample.sampleHashing Sample.decisionCall (Sample.decisionStore
      [Sample.approvedPage 1 (by decide), Sample.approvedPage 2 (by decide)])).2 =
        .error (.integrity .unique) ∧
    ∃ row ∈ (chunkVersion Sample.sampleHashing Sample.decisionCall (Sample.decisionStore
      [Sample.approvedPage 1 (by decide), Sample.approvedPage 2 (by decide)])).1.versions,
        row.chunkingStatus = .failed := by
  refine ⟨by decide +kernel, ?_, ?_⟩
  · decide +kernel
  · decide +kernel

end PolicyOS.Knowledge
