import Mathlib.Data.List.MinMax
import PolicyOS.Domain.Primitives
import PolicyOS.Foundation.Checked
import PolicyOS.Foundation.Text

/-!
# Chunking of documents

The parsed sections of a document are split into blocks, blocks are grouped into chunks of a
bounded size, a small last chunk is merged into the one before it, and what is repeated at
one place is left out.
-/

namespace PolicyOS.Knowledge

open Foundation

/-! ## Requests -/

/-- A SHA-256 digest in hexadecimal. -/
abbrev Digest := {text : Text // text.length = 64}

/-- The digest of one character. -/
def Digest.repeated (character : Char) : Digest :=
  ⟨List.replicate 64 character, List.length_replicate⟩

/-- How chunks are made. -/
structure ChunkingConfig where
  maxCharacters : Nat := 4000
  targetCharacters : Nat := 3000
  overlapCharacters : Nat := 300
  minCharacters : Nat := 200
  preservePageBoundaries : Bool := true
  preserveSectionBoundaries : Bool := true
  preserveTables : Bool := true
  preserveLists : Bool := true
  normalizationVersion : Text := "1.0.0".toList
  chunkingStrategyVersion : Text := "1.0.0".toList
  maxBounds : 100 ≤ maxCharacters ∧ maxCharacters ≤ 100000 := by decide
  targetBounds : 50 ≤ targetCharacters ∧ targetCharacters ≤ 100000 := by decide
  overlapBounds : overlapCharacters ≤ 20000 := by decide
  minBounds : 1 ≤ minCharacters ∧ minCharacters ≤ 20000 := by decide
  normalizationBounds : 1 ≤ normalizationVersion.length ∧ normalizationVersion.length ≤ 50 := by
    decide
  strategyBounds : 1 ≤ chunkingStrategyVersion.length ∧
    chunkingStrategyVersion.length ≤ 50 := by decide
  target_le_max : targetCharacters ≤ maxCharacters := by decide
  min_le_target : minCharacters ≤ targetCharacters := by decide
  overlap_lt_max : overlapCharacters < maxCharacters := by decide
  deriving DecidableEq

/-- The configuration of the defaults. -/
def ChunkingConfig.standard : ChunkingConfig := {}

/-- What a chunker is given: the digest of a content, the hash of a configuration, and the
estimate of a content's tokens. -/
structure Hashing where
  sha256 : Text → Digest
  configHash : ChunkingConfig → Digest
  estimate : Text → Nat

/-- The path of a section in its metadata: a list of parts or a text. -/
inductive SectionPath
  | parts (parts : List Text)
  | text (text : Text)
  deriving DecidableEq

theorem textBound_none : ∀ given ∈ (none : Option Text), given.length ≤ 500 := by decide

theorem pagePositive_none : ∀ page ∈ (none : Option Nat), 1 ≤ page := by decide

/-- A parsed section, with the headers and the path of its metadata as texts. -/
@[ext] structure ParsedSection where
  kind : String := "section"
  title : Option Text := none
  text : Text
  pageNumber : Option Nat := none
  header : Option (List Text) := none
  sectionPath : Option SectionPath := none
  titleBound : ∀ given ∈ title, given.length ≤ 500 := by
    first | exact textBound_none | decide
  pagePositive : ∀ page ∈ pageNumber, 1 ≤ page := by first | exact pagePositive_none | decide

instance : DecidableEq ParsedSection := fun _ _ => decidable_of_iff' _ ParsedSection.ext_iff

/-- A document version that is chunked. -/
structure ChunkingRequest where
  organizationId : UUID
  documentVersionId : UUID
  dataClassification : DataClassification
  sections : List ParsedSection
  config : ChunkingConfig

/-! ## Chunks -/

/-- Where a chunk is cited. -/
structure LocatorFields where
  pageStart : Option Nat
  pageEnd : Option Nat
  sectionPath : Option Text
  heading : Option Text
  sourceLocator : Option Text
  deriving DecidableEq

/-- The bounds of a locator. -/
def LocatorFields.Bounded (locator : LocatorFields) : Prop :=
  (∀ page ∈ locator.pageStart, 1 ≤ page) ∧ (∀ page ∈ locator.pageEnd, 1 ≤ page) ∧
    (∀ path ∈ locator.sectionPath, path.length ≤ 1000) ∧
      (∀ heading ∈ locator.heading, heading.length ≤ 500) ∧
        ∀ source ∈ locator.sourceLocator, source.length ≤ 1000

instance (locator : LocatorFields) : Decidable locator.Bounded :=
  inferInstanceAs (Decidable (_ ∧ _ ∧ _ ∧ _ ∧ _))

/-- A locator within its bounds. -/
structure CitationLocator extends LocatorFields where
  bounded : toLocatorFields.Bounded := by decide
  deriving DecidableEq

/-- A chunk that may become one of the version. -/
structure ChunkCandidate where
  content : Text
  documentVersionId : UUID
  chunkIndex : Nat
  locator : CitationLocator
  sourceBlockStart : Nat
  sourceBlockEnd : Nat
  tokenEstimate : Nat
  characterCount : Nat
  contentHash : Digest
  chunkingConfigHash : Digest
  chunkingStrategyVersion : Text
  normalizationVersion : Text
  dataClassification : DataClassification
  deriving DecidableEq

/-- The chunks of a version under a configuration. -/
structure ChunkingResult where
  documentVersionId : UUID
  configHash : Digest
  strategyVersion : Text
  chunks : List ChunkCandidate
  deriving DecidableEq

/-- What a chunker raises: an error of its own, or one of a value it builds. -/
inductive ChunkingError
  | chunking (message : String)
  | validation (message : String)
  deriving DecidableEq, Repr

/-! ## Splitting -/

/-- `rfind` of a space: at most at the limit. -/
def splitPoint (limit : Nat) (remaining : Text) : Nat :=
  match Text.lastIndexWithin ' ' (limit + 1) remaining with
  | some place => if 0 < place then place else limit
  | none => limit

/-- A sentence that is too long is cut at spaces, else at the limit. What remains is short
enough, and may be empty. -/
def hardSplit (limit : Nat) (remaining : Text) : List Text × Text :=
  if remaining.length ≤ limit ∨ splitPoint limit remaining = 0 then ([], remaining)
  else
    let split := splitPoint limit remaining
    let (pieces, rest) := hardSplit limit (Text.strip (remaining.drop split))
    (Text.strip (remaining.take split) :: pieces, rest)
termination_by remaining.length
decreasing_by
  have shorter := Text.length_strip_le (remaining.drop (splitPoint limit remaining))
  rw [List.length_drop] at shorter
  omega

/-- The pieces of the sentences that follow a piece that was begun. -/
def collectSentences (limit : Nat) : Text → List Text → List Text
  | current, [] => if current = [] then [] else [current]
  | current, sentence :: rest =>
      if limit < sentence.length then
        let (pieces, remaining) := hardSplit limit sentence
        (if current = [] then [] else [current]) ++
          pieces ++ collectSentences limit remaining rest
      else
        let candidate := Text.strip (current ++ ' ' :: sentence)
        if current ≠ [] ∧ limit < candidate.length then
          current :: collectSentences limit sentence rest
        else collectSentences limit candidate rest

/-- The ends of sentences. -/
def sentenceEnds : List Char := ".!?。！？".toList

/-- Split a text into pieces of at most a limit, at sentences where that is possible. -/
def safeSplit (text : Text) (limit : Nat) : Except ChunkingError (List Text) := do
  rejectIf (limit < 1) (.chunking "Chunk size leaves no room for structured content")
  if text.length ≤ limit then pure [text]
  else pure ((collectSentences limit [] (Text.splitAfter sentenceEnds text)).filter (· ≠ []))

/-- A line that starts with a bullet or a number. -/
def isListItem (line : Text) : Bool :=
  let marked (rest : Text) : Bool := rest.head?.any Text.isSpace
  match line with
  | [] => false
  | first :: rest =>
      if first ∈ ['-', '*', '•'] then marked rest
      else
        match line.dropWhile Text.isDecimal with
        | mark :: rest => Text.isDecimal first && (mark = '.' || mark = ')') && marked rest
        | [] => false

/-- The lines of a text that are not blank, without the white space around them. -/
def strippedLines (text : Text) : List Text :=
  (Text.splitLines text).map Text.strip |>.filter (· ≠ [])

/-- A text all of whose lines, and more than one, are items of a list. -/
def isList (text : Text) : Bool :=
  let lines := strippedLines text
  1 < lines.length && lines.all isListItem

/-! ## Blocks -/

/-- A block of a document: a text and the places in the source it is made of. -/
structure Block where
  text : Text
  sourceStart : Nat
  sourceEnd : Nat
  page : Option Nat
  sectionPath : Option Text
  heading : Option Text
  deriving DecidableEq

/-- The path of a section: that of its metadata, else its title. A list without a part that
is not blank is no path. -/
def ParsedSection.path (parsed : ParsedSection) : Option Text :=
  match parsed.sectionPath with
  | some (.parts parts) =>
      let path := Text.join " > ".toList (parts.filter fun part => part.strip ≠ [])
      if path = [] then none else some path
  | some (.text text) => if text.strip = [] then parsed.title else some text.strip
  | none => parsed.title

/-- Rows with their places, as they are collected: those that are finished, those of the
current group, and the first place of the current group. -/
structure RowGroups where
  groups : List (List Text × Nat × Nat) := []
  current : List Text := []
  rowStart : Nat := 1

/-- The texts a group starts with. -/
def headerLines (header : Option Text) : List Text := header.toList

/-- The room a header takes. -/
def headerRoom (header : Option Text) : Nat := (header.map (·.length + 1)).getD 0

/-- Close the current group before a row that does not fit. -/
def RowGroups.flush (state : RowGroups) (fits : Bool) (offset : Nat) : RowGroups :=
  if state.current ≠ [] ∧ fits = false then
    { groups := state.groups ++ [(state.current, state.rowStart, offset - 1)]
      current := []
      rowStart := offset }
  else state

/-- Add a row to the groups. A row that is too long for itself is a group of its own for
each of its pieces, and leaves the current group as it is. -/
def RowGroups.add (header : Option Text) (config : ChunkingConfig) (state : RowGroups)
    (offset : Nat) (row : Text) : Except ChunkingError RowGroups := do
  let candidate := Text.join ['\n'] (headerLines header ++ state.current ++ [row])
  let state := state.flush (candidate.length ≤ config.maxCharacters) offset
  if config.maxCharacters < row.length + headerRoom header then do
    let pieces ← safeSplit row (config.maxCharacters - ((header.getD []).length + 1))
    pure { state with groups := state.groups ++ pieces.map fun piece => ([piece], offset, offset) }
  else pure { state with current := state.current ++ [row] }

/-- Add every row to the groups. -/
def RowGroups.addAll (header : Option Text) (config : ChunkingConfig) :
    RowGroups → Nat → List Text → Except ChunkingError RowGroups
  | state, _, [] => pure state
  | state, offset, row :: rest => do
      let next ← state.add header config offset row
      addAll header config next (offset + 1) rest

/-- The groups, with the current one if there is any. -/
def RowGroups.finish (state : RowGroups) : List (List Text × Nat × Nat) :=
  if state.current = [] then state.groups
  else state.groups ++
    [(state.current, state.rowStart, state.rowStart + state.current.length - 1)]

/-- The header of a table. -/
def ParsedSection.headerText (parsed : ParsedSection) : Option Text :=
  (parsed.header.map (Text.join " | ".toList)).filter (· ≠ [])

/-- The rows of a table without its header. -/
def ParsedSection.tableRows (parsed : ParsedSection) : List Text :=
  let rows := (Text.splitLines parsed.text).filter fun row => row.strip ≠ []
  match parsed.headerText with
  | none => rows
  | some header =>
      let rows := if rows.head?.map Text.strip = some header.strip then rows.tail else rows
      if rows = [] then [header] else rows

/-- A block of a section. -/
def ParsedSection.block (parsed : ParsedSection) (text : Text) (first last : Nat) : Block where
  text := text
  sourceStart := first
  sourceEnd := last
  page := parsed.pageNumber
  sectionPath := parsed.path
  heading := parsed.title

/-- The blocks of a table: groups of rows, each under the header. -/
def tableBlocks (parsed : ParsedSection) (start : Nat) (config : ChunkingConfig) :
    Except ChunkingError (List Block) := do
  let header := parsed.headerText
  let state ← RowGroups.addAll header config {} 1 parsed.tableRows
  pure (state.finish.map fun (group, rowStart, rowEnd) =>
    parsed.block (Text.join ['\n'] (headerLines header ++ group))
      (start + rowStart - 1) (start + rowEnd - 1))

/-- Items with their places, as they are collected. -/
structure ItemGroups where
  groups : List (List Text × Nat × Nat) := []
  current : List Text := []
  itemStart : Nat := 1

/-- Add an item to the groups. The pieces of an item stay together. -/
def ItemGroups.add (config : ChunkingConfig) (state : ItemGroups) (offset : Nat) (item : Text) :
    Except ChunkingError ItemGroups := do
  let state : ItemGroups :=
    if state.current ≠ [] ∧
        config.maxCharacters < (Text.join ['\n'] (state.current ++ [item])).length then
      { groups := state.groups ++ [(state.current, state.itemStart, offset - 1)]
        current := []
        itemStart := offset }
    else state
  let pieces ← safeSplit item config.maxCharacters
  pure { state with current := state.current ++ pieces }

/-- Add every item to the groups. -/
def ItemGroups.addAll (config : ChunkingConfig) :
    ItemGroups → Nat → List Text → Except ChunkingError ItemGroups
  | state, _, [] => pure state
  | state, offset, item :: rest => do
      let next ← state.add config offset item
      addAll config next (offset + 1) rest

/-- The blocks of a list: groups of items. -/
def listBlocks (parsed : ParsedSection) (paragraph : Text) (start : Nat)
    (config : ChunkingConfig) : Except ChunkingError (List Block) := do
  let items := strippedLines paragraph
  let state ← ItemGroups.addAll config {} 1 items
  let groups := if state.current = [] then state.groups
    else state.groups ++ [(state.current, state.itemStart, items.length)]
  pure (groups.map fun (group, itemStart, itemEnd) =>
    parsed.block (Text.join ['\n'] group) (start + itemStart - 1) (start + itemEnd - 1))

/-- The place after the blocks of a table or a list. -/
def nextIndex (start : Nat) (blocks : List Block) : Nat :=
  ((blocks.map (·.sourceEnd)).max?).getD start + 1

/-- The blocks of a paragraph, with the place after them. -/
def paragraphBlocks (parsed : ParsedSection) (config : ChunkingConfig) (start : Nat)
    (paragraph : Text) : Except ChunkingError (List Block × Nat) :=
  if config.preserveLists && isList paragraph then do
    let blocks ← listBlocks parsed paragraph start config
    pure (blocks, nextIndex start blocks)
  else do
    let pieces ← safeSplit paragraph config.maxCharacters
    pure (pieces.map fun piece => parsed.block piece start start, start + 1)

/-- The blocks of items one after the other, each from the place after the one before. -/
def blocksInOrder {Item : Type}
    (blocksOf : Nat → Item → Except ChunkingError (List Block × Nat)) :
    Nat → List Item → Except ChunkingError (List Block × Nat)
  | start, [] => pure ([], start)
  | start, item :: rest => do
      let (blocks, next) ← blocksOf start item
      let (others, after) ← blocksInOrder blocksOf next rest
      pure (blocks ++ others, after)

/-- The paragraphs of a section. -/
def ParsedSection.paragraphs (parsed : ParsedSection) : List Text :=
  (Text.splitBlank parsed.text).map Text.strip |>.filter (· ≠ [])

/-- The blocks of a section, with the place after them. -/
def sectionBlocks (config : ChunkingConfig) (start : Nat) (parsed : ParsedSection) :
    Except ChunkingError (List Block × Nat) :=
  if parsed.kind ∈ ["table", "sheet"] ∧ config.preserveTables then do
    let blocks ← tableBlocks parsed start config
    pure (blocks, nextIndex start blocks)
  else blocksInOrder (paragraphBlocks parsed config) start parsed.paragraphs

/-- The blocks of a document. -/
def documentBlocks (sections : List ParsedSection) (config : ChunkingConfig) :
    Except ChunkingError (List Block) := do
  let (blocks, _) ← blocksInOrder (sectionBlocks config) 0 sections
  pure blocks

/-! ## Groups -/

/-- The text of blocks. -/
def joinBlocks (blocks : List Block) : Text :=
  Text.strip (Text.join ['\n', '\n'] (blocks.map (·.text)))

/-- The last blocks that fit into the overlap, taken from the end. -/
def overlapFrom (limit : Nat) : List Block → (tail : List Block) → (size : Nat) → List Block
  | [], tail, _ => tail
  | block :: rest, tail, size =>
      let added := block.text.length + if tail = [] then 0 else 2
      if limit < size + added then tail
      else overlapFrom limit rest (block :: tail) (size + added)

/-- The overlap of a group with the next one. -/
def overlapTail (blocks : List Block) (limit : Nat) : List Block :=
  if limit = 0 then [] else overlapFrom limit blocks.reverse [] 0

/-- A block is on another page or in another section than the last one. -/
def boundaryChanged (config : ChunkingConfig) (current : List Block) (block : Block) : Bool :=
  current.getLast?.any fun last =>
    config.preservePageBoundaries && last.page ≠ block.page ||
      config.preserveSectionBoundaries &&
        (last.sectionPath, last.heading) ≠ (block.sectionPath, block.heading)

/-- The current group is closed before a block. -/
def closesBefore (config : ChunkingConfig) (current : List Block) (block : Block) : Bool :=
  current ≠ [] && (boundaryChanged config current block ||
    config.maxCharacters < (joinBlocks (current ++ [block])).length ||
      config.targetCharacters ≤ (joinBlocks current).length)

/-- The blocks of the current group that stay before a block: all of them, or the overlap
if the group is closed within its page and section. -/
def keptBefore (config : ChunkingConfig) (current : List Block) (block : Block) : List Block :=
  if closesBefore config current block then
    if boundaryChanged config current block then []
    else overlapTail current config.overlapCharacters
  else current

/-- A block does not fit beside the blocks that stay before it. -/
def standsApart (config : ChunkingConfig) (kept : List Block) (block : Block) : Bool :=
  kept ≠ [] && config.maxCharacters < (joinBlocks (kept ++ [block])).length

/-- Group blocks after those of the current group. An overlap a block does not fit beside is
a group of its own. -/
def groupFrom (config : ChunkingConfig) :
    List Block → (current : List Block) → Except ChunkingError (List (List Block))
  | [], current => pure (if current = [] then [] else [current])
  | block :: rest, current => do
      let closed := if closesBefore config current block then [current] else []
      let kept := keptBefore config current block
      rejectIf (config.maxCharacters < block.text.length)
        (.chunking "Internal block exceeded maximum chunk size")
      let (apart, beside) := if standsApart config kept block then ([kept], []) else ([], kept)
      let groups ← groupFrom config rest (beside ++ [block])
      pure (closed ++ apart ++ groups)

/-- The groups of the blocks of a document. -/
def groupBlocks (blocks : List Block) (config : ChunkingConfig) :
    Except ChunkingError (List (List Block)) :=
  groupFrom config blocks []

/-! ## Candidates -/

/-- The one value of a list of equal values. -/
def onlyValue (values : List Text) : Option Text :=
  values.head?.filter fun first => values.all (· = first)

/-- How pages are written. -/
def pagesText (pageStart pageEnd : Nat) : Text :=
  if pageStart = pageEnd then "p. ".toList ++ (toString pageStart).toList
  else "pp. ".toList ++ (toString pageStart).toList ++ '-' :: (toString pageEnd).toList

/-- Where a group of blocks is cited. -/
def locatorOf (blocks : List Block) : LocatorFields :=
  let pages := blocks.filterMap (·.page)
  let sectionPath := onlyValue ((blocks.filterMap (·.sectionPath)).filter (· ≠ []))
  let heading := onlyValue ((blocks.filterMap (·.heading)).filter (· ≠ []))
  let parts := (pages.min?.bind fun pageStart =>
    pages.max?.map (pagesText pageStart)).toList ++ sectionPath.toList
  { pageStart := pages.min?
    pageEnd := pages.max?
    sectionPath := sectionPath
    heading := heading
    sourceLocator := if parts = [] then none else some (Text.join " / ".toList parts) }

variable (hashing : Hashing)

/-- The chunk of a group of blocks. -/
def candidateOf (request : ChunkingRequest) (chunkIndex : Nat) (blocks : List Block) :
    Except ChunkingError ChunkCandidate :=
  let content := joinBlocks blocks
  buildChecked
    (rejectIf (¬ (locatorOf blocks).Bounded)
      (.validation "String should have at most 1000 characters"))
    fun bounded =>
      { content := content
        documentVersionId := request.documentVersionId
        chunkIndex := chunkIndex
        locator :=
          { toLocatorFields := locatorOf blocks
            bounded := not_not.mp (rejectIf_eq_ok_iff.mp bounded) }
        sourceBlockStart := ((blocks.map (·.sourceStart)).min?).getD 0
        sourceBlockEnd := ((blocks.map (·.sourceEnd)).max?).getD 0
        tokenEstimate := hashing.estimate content
        characterCount := content.length
        contentHash := hashing.sha256 content
        chunkingConfigHash := hashing.configHash request.config
        chunkingStrategyVersion := request.config.chunkingStrategyVersion
        normalizationVersion := request.config.normalizationVersion
        dataClassification := request.dataClassification }

/-- The last chunk merged into the one before it. It ends where the last one ends. -/
def mergeInto (previous tail : ChunkCandidate) : ChunkCandidate :=
  let merged := previous.content ++ ['\n', '\n'] ++ tail.content
  { previous with
    content := merged
    sourceBlockEnd := tail.sourceBlockEnd
    tokenEstimate := hashing.estimate merged
    characterCount := merged.length
    contentHash := hashing.sha256 merged }

/-- The last chunk is small, cited where the one before it is, and fits beside it. -/
def tailMerges (config : ChunkingConfig) (previous tail : ChunkCandidate) : Prop :=
  tail.characterCount < config.minCharacters ∧ previous.locator = tail.locator ∧
    (mergeInto hashing previous tail).content.length ≤ config.maxCharacters

instance (config : ChunkingConfig) (previous tail : ChunkCandidate) :
    Decidable (tailMerges hashing config previous tail) :=
  inferInstanceAs (Decidable (_ ∧ _ ∧ _))

/-- Merge the last chunk into the one before it where it is small. -/
def mergeSmallTail (config : ChunkingConfig) : List ChunkCandidate → List ChunkCandidate
  | [] => []
  | [only] => [only]
  | [previous, tail] =>
      if tailMerges hashing config previous tail then [mergeInto hashing previous tail]
      else [previous, tail]
  | first :: second :: third :: rest =>
      first :: mergeSmallTail config (second :: third :: rest)

/-- What a chunk is told apart by. -/
def ChunkCandidate.key (chunk : ChunkCandidate) : Digest × Nat × Nat × Option Text :=
  (chunk.contentHash, chunk.sourceBlockStart, chunk.sourceBlockEnd, chunk.locator.sourceLocator)

/-- The chunks whose key no chunk before them had. -/
def uniqueFrom (seen : List (Digest × Nat × Nat × Option Text)) :
    List ChunkCandidate → List ChunkCandidate
  | [] => []
  | chunk :: rest =>
      if chunk.key ∈ seen then uniqueFrom seen rest
      else chunk :: uniqueFrom (chunk.key :: seen) rest

/-- The chunks of the groups of a document. -/
def groupedChunks (request : ChunkingRequest) : Except ChunkingError (List ChunkCandidate) := do
  let blocks ← documentBlocks request.sections request.config
  rejectIf (blocks = []) (.chunking "Document contains no chunkable content")
  let groups ← groupBlocks blocks request.config
  collectEach (fun (group, index) => candidateOf hashing request index group) groups.zipIdx

/-- The chunks that are kept of those of the groups: the last one merged where it is small,
and what is repeated left out. -/
def keptChunks (config : ChunkingConfig) (chunks : List ChunkCandidate) : List ChunkCandidate :=
  uniqueFrom [] (mergeSmallTail hashing config chunks)

/-- A chunk in a place. -/
def ChunkCandidate.numberedAt (chunk : ChunkCandidate) (index : Nat) : ChunkCandidate :=
  { chunk with chunkIndex := index }

/-- Chunks numbered from zero. -/
def numbered (chunks : List ChunkCandidate) : List ChunkCandidate :=
  chunks.zipIdx.map fun (chunk, index) => chunk.numberedAt index

/-- The chunks of a document, numbered from zero. -/
def chunkDocument (request : ChunkingRequest) : Except ChunkingError ChunkingResult := do
  let chunks ← groupedChunks hashing request
  pure
    { documentVersionId := request.documentVersionId
      configHash := hashing.configHash request.config
      strategyVersion := request.config.chunkingStrategyVersion
      chunks := numbered (keptChunks hashing request.config chunks) }

end PolicyOS.Knowledge
