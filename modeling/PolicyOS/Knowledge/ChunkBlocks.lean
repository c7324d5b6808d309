import PolicyOS.Knowledge.BlockRanges

/-!
# The blocks of a chunk

A chunk keeps the text of its blocks, not the blocks. Grouping, merging and leaving out what is
repeated are followed here with the blocks at hand, each in its place in the document, and without
them they are the chunks of the document.
-/

namespace PolicyOS.Knowledge

open Foundation

/-- A block and its place among the blocks of the document. -/
abbrev PlacedBlock := Block × Nat

/-- A group of blocks. It is overlap alone where the block it was kept for does not fit. -/
structure PlacedGroup where
  blocks : List PlacedBlock
  overlapAlone : Bool

/-- The blocks without their places. -/
abbrev unplaced (placed : List PlacedBlock) : List Block := placed.map Prod.fst

/-- The group without places. -/
def PlacedGroup.group (placed : PlacedGroup) : List Block := unplaced placed.blocks

variable {config : ChunkingConfig} {current : List PlacedBlock} {next : PlacedBlock}

/-- The placed blocks of the current group that stay before a block. -/
def keptPlaced (config : ChunkingConfig) (current : List PlacedBlock) (next : PlacedBlock) :
    List PlacedBlock :=
  current.drop (current.length - (keptBefore config (unplaced current) next.1).length)

/-- Group placed blocks after those of the current group. -/
def groupPlaced (config : ChunkingConfig) :
    List PlacedBlock → (current : List PlacedBlock) → Except ChunkingError (List PlacedGroup)
  | [], current => pure (if current = [] then [] else [⟨current, false⟩])
  | next :: rest, current => do
      let closed := if closesBefore config (unplaced current) next.1 then [⟨current, false⟩] else []
      let kept := keptPlaced config current next
      rejectIf (config.maxCharacters < next.1.text.length)
        (.chunking "Internal block exceeded maximum chunk size")
      let (apart, beside) := if standsApart config (unplaced kept) next.1
        then ([⟨kept, true⟩], []) else ([], kept)
      let groups ← groupPlaced config rest (beside ++ [next])
      pure (closed ++ apart ++ groups)

/-- The groups that are complete before a block. -/
def closedPlaced (config : ChunkingConfig) (current : List PlacedBlock) (next : PlacedBlock) :
    List PlacedGroup :=
  let kept := keptPlaced config current next
  (if closesBefore config (unplaced current) next.1 then [⟨current, false⟩] else []) ++
    if standsApart config (unplaced kept) next.1 then [⟨kept, true⟩] else []

/-- The blocks that are in one group with a block, before it. -/
def besidePlaced (config : ChunkingConfig) (current : List PlacedBlock) (next : PlacedBlock) :
    List PlacedBlock :=
  let kept := keptPlaced config current next
  if standsApart config (unplaced kept) next.1 then [] else kept

/-- A block completes groups, and begins or continues one. -/
theorem groupPlaced_cons_eq_ok_iff {rest : List PlacedBlock} {groups : List PlacedGroup} :
    groupPlaced config (next :: rest) current = .ok groups ↔
      next.1.text.length ≤ config.maxCharacters ∧
        ∃ later, groupPlaced config rest (besidePlaced config current next ++ [next]) = .ok later ∧
          closedPlaced config current next ++ later = groups := by
  simp only [groupPlaced, bind_eq_ok_iff, exists_unit_iff, rejectIf_eq_ok_iff, not_lt,
    pure_eq_ok_iff, closedPlaced, besidePlaced]
  split_ifs
  · rfl
  · rfl
  · rfl
  · rfl

/-- A group that is complete before a block is the current one, or its overlap alone. -/
theorem mem_closedPlaced_iff {group : PlacedGroup} :
    group ∈ closedPlaced config current next ↔
      closesBefore config (unplaced current) next.1 ∧ group = ⟨current, false⟩ ∨
        standsApart config (unplaced (keptPlaced config current next)) next.1 ∧
          group = ⟨keptPlaced config current next, true⟩ := by
  simp only [closedPlaced, List.mem_append]
  split_ifs with closes apart apart
  · simp [closes, apart]
  · simp [closes, apart]
  · simp [closes, apart]
  · simp [closes, apart]

/-- No group is without a block. -/
theorem ne_nil_of_groupPlaced : ∀ {rest current : List PlacedBlock}
    {groups : List PlacedGroup}, groupPlaced config rest current = .ok groups →
      ∀ group ∈ groups, group.blocks ≠ [] := by
  intro rest
  induction rest with
  | nil =>
      rintro current groups ⟨⟩ group listed
      split_ifs at listed with empty
      · exact absurd listed List.not_mem_nil
      · rw [List.mem_singleton.mp listed]
        exact empty
  | cons next others ih =>
      intro current groups made group listed
      obtain ⟨-, later, isLater, rfl⟩ := groupPlaced_cons_eq_ok_iff.mp made
      rcases List.mem_append.mp listed with closed | isLast
      · rcases mem_closedPlaced_iff.mp closed with ⟨closes, rfl⟩ | ⟨apart, rfl⟩
        · rintro rfl
          simp [closesBefore] at closes
        · intro none
          simp only at none
          simp [none, standsApart] at apart
      · exact ih isLater group isLast

/-! ## Groups without places -/

/-- The overlap is the end of what it is collected from. -/
theorem overlapFrom_eq_drop {limit : Nat} :
    ∀ {rest tail : List Block} {size : Nat}, ∃ dropped ≤ rest.length,
      overlapFrom limit rest tail size = (rest.reverse ++ tail).drop dropped := by
  intro rest
  induction rest with
  | nil => exact fun {tail size} => ⟨0, le_rfl, rfl⟩
  | cons first others ih =>
      intro tail size
      rw [overlapFrom]
      by_cases full : limit < size + (first.text.length + if tail = [] then 0 else 2)
      · rw [if_pos full]
        refine ⟨others.length + 1, le_rfl, ?_⟩
        rw [← List.length_cons (a := first), ← List.length_reverse, List.drop_left]
      · rw [if_neg full]
        obtain ⟨dropped, within, eq⟩ := @ih (first :: tail)
          (size + (first.text.length + if tail = [] then 0 else 2))
        refine ⟨dropped, within.trans (Nat.le_succ _), eq.trans ?_⟩
        rw [List.reverse_cons, List.append_assoc, List.singleton_append]

/-- What stays is the end of the current group. -/
theorem keptBefore_eq_drop {blocks : List Block} {block : Block} :
    ∃ dropped ≤ blocks.length, keptBefore config blocks block = blocks.drop dropped := by
  unfold keptBefore overlapTail
  split_ifs
  · exact ⟨blocks.length, le_rfl, List.drop_length.symm⟩
  · exact ⟨blocks.length, le_rfl, List.drop_length.symm⟩
  · obtain ⟨dropped, within, eq⟩ := @overlapFrom_eq_drop config.overlapCharacters blocks.reverse [] 0
    rw [List.length_reverse] at within
    refine ⟨dropped, within, eq.trans ?_⟩
    rw [List.reverse_reverse, List.append_nil]
  · exact ⟨0, Nat.zero_le _, rfl⟩

theorem unplaced_keptPlaced :
    unplaced (keptPlaced config current next) = keptBefore config (unplaced current) next.1 := by
  obtain ⟨dropped, within, eq⟩ := @keptBefore_eq_drop config (unplaced current) next.1
  rw [List.length_map] at within
  rw [keptPlaced, unplaced, List.map_drop, eq, List.length_drop, List.length_map,
    Nat.sub_sub_self within]

theorem mem_of_keptPlaced {placed : PlacedBlock} (kept : placed ∈ keptPlaced config current next) :
    placed ∈ current :=
  List.mem_of_mem_drop kept

/-- The groups of blocks are those of the placed blocks. -/
theorem groupFrom_eq :
    ∀ {rest current : List PlacedBlock},
      groupFrom config (unplaced rest) (unplaced current) =
        (groupPlaced config rest current).map (List.map PlacedGroup.group) := by
  intro rest
  induction rest with
  | nil =>
      intro current
      simp only [List.map_nil, groupFrom, groupPlaced, List.map_eq_nil_iff]
      split_ifs
      · rfl
      · rfl
  | cons first others ih =>
      intro current
      -- What follows the first block is grouped alike, whatever is put before it.
      have later (before : List PlacedGroup) (beside : List PlacedBlock) :
          (do let groups ← groupFrom config (unplaced others) (unplaced beside ++ [first.1])
              pure (before.map PlacedGroup.group ++ groups)) =
            (do let groups ← groupPlaced config others (beside ++ [first])
                pure (before ++ groups)).map (List.map PlacedGroup.group) := by
        have split : unplaced (beside ++ [first]) = unplaced beside ++ [first.1] :=
          List.map_append
        rw [← split, ih]
        cases groupPlaced config others (beside ++ [first]) with
        | error raised => rfl
        | ok groups =>
            refine congrArg Except.ok ?_
            rw [List.map_append]
      simp only [List.map_cons, groupFrom, groupPlaced, ← unplaced_keptPlaced]
      by_cases long : config.maxCharacters < first.1.text.length
      · rw [rejectIf, if_pos long]
        rfl
      · rw [rejectIf, if_neg long]
        split_ifs
        · exact later [⟨current, false⟩, ⟨keptPlaced config current first, true⟩] []
        · exact later [⟨keptPlaced config current first, true⟩] []
        · exact later [⟨current, false⟩] (keptPlaced config current first)
        · exact later [] (keptPlaced config current first)

/-! ## Chunks without blocks -/

/-- A chunk with the blocks it is made of. -/
structure HeldChunk extends PlacedGroup where
  chunk : ChunkCandidate

variable (hashing : Hashing)

/-- The last chunk merged into the one before it, with the blocks of both. -/
def HeldChunk.merged (previous tail : HeldChunk) : HeldChunk where
  blocks := previous.blocks ++ tail.blocks
  overlapAlone := false
  chunk := mergeInto hashing previous.chunk tail.chunk

/-- Merge the last chunk into the one before it where it is small. -/
def mergeHeld (config : ChunkingConfig) : List HeldChunk → List HeldChunk
  | [] => []
  | [only] => [only]
  | [previous, tail] =>
      if tailMerges hashing config previous.chunk tail.chunk
      then [HeldChunk.merged hashing previous tail]
      else [previous, tail]
  | first :: second :: third :: rest => first :: mergeHeld config (second :: third :: rest)

theorem lawfulKeys : LawfulBEq (Digest × Nat × Nat × Option Text) := inferInstance

attribute [local instance] lawfulKeys in
/-- The chunks whose key no chunk before them had. -/
def uniqueHeld (seen : List (Digest × Nat × Nat × Option Text)) :
    List HeldChunk → List HeldChunk
  | [] => []
  | held :: rest =>
      if held.chunk.key ∈ seen then uniqueHeld seen rest
      else held :: uniqueHeld (held.chunk.key :: seen) rest

/-- The chunk of a group. -/
def heldOf (request : ChunkingRequest) (group : PlacedGroup) (index : Nat) :
    Except ChunkingError HeldChunk := do
  let chunk ← candidateOf hashing request index group.group
  pure { group with chunk := chunk }

/-- The chunks of the groups of a document, and the number of its blocks. -/
def groupedHeld (request : ChunkingRequest) : Except ChunkingError (List HeldChunk) := do
  let blocks ← documentBlocks request.sections request.config
  rejectIf (blocks = []) (.chunking "Document contains no chunkable content")
  let groups ← groupPlaced request.config blocks.zipIdx []
  collectEach (fun (group, index) => heldOf hashing request group index) groups.zipIdx

/-- The chunks that are kept of those of the groups. -/
def keptHeld (config : ChunkingConfig) (grouped : List HeldChunk) : List HeldChunk :=
  uniqueHeld [] (mergeHeld hashing config grouped)

variable {hashing} {held : List HeldChunk}

theorem map_chunk_mergeHeld :
    (mergeHeld hashing config held).map (·.chunk) =
      mergeSmallTail hashing config (held.map (·.chunk)) := by
  induction held using mergeHeld.induct hashing config with
  | case1 => rfl
  | case2 only => rfl
  | case3 previous tail merges =>
      simp only [mergeHeld, mergeSmallTail, List.map_cons, List.map_nil, if_pos merges]
      rfl
  | case4 previous tail apart =>
      simp only [mergeHeld, mergeSmallTail, List.map_cons, List.map_nil, if_neg apart]
  | case5 first second third rest ih =>
      simp only [mergeHeld, mergeSmallTail, List.map_cons] at ih ⊢
      rw [ih]

theorem map_chunk_uniqueHeld :
    ∀ {seen : List (Digest × Nat × Nat × Option Text)},
      (uniqueHeld seen held).map (·.chunk) = uniqueFrom seen (held.map (·.chunk)) := by
  induction held with
  | nil => exact fun {seen} => rfl
  | cons first rest ih =>
      intro seen
      simp only [uniqueHeld, uniqueFrom, List.map_cons]
      split_ifs
      · exact ih
      · rw [List.map_cons, ih]

theorem map_chunk_keptHeld :
    (keptHeld hashing config held).map (·.chunk) =
      keptChunks hashing config (held.map (·.chunk)) := by
  rw [keptHeld, map_chunk_uniqueHeld, map_chunk_mergeHeld, keptChunks]

theorem uniqueHeld_sublist {seen : List (Digest × Nat × Nat × Option Text)} :
    (uniqueHeld seen held).Sublist held := by
  induction held generalizing seen with
  | nil => exact List.Sublist.slnil
  | cons first rest ih =>
      unfold uniqueHeld
      split_ifs
      · exact ih.cons first
      · exact ih.cons_cons first

variable {request : ChunkingRequest}

theorem heldOf_eq_ok_iff {group : PlacedGroup} {index : Nat} {made : HeldChunk} :
    heldOf hashing request group index = .ok made ↔
      made.toPlacedGroup = group ∧ candidateOf hashing request index group.group = .ok made.chunk := by
  obtain ⟨own, chunk⟩ := made
  simp only [heldOf, bind_eq_ok_iff, pure_eq_ok_iff, HeldChunk.mk.injEq]
  constructor
  · rintro ⟨chunk, isChunk, rfl, rfl⟩
    exact ⟨rfl, isChunk⟩
  · rintro ⟨rfl, isChunk⟩
    exact ⟨chunk, isChunk, rfl, rfl⟩

theorem groupedHeld_eq_ok_iff :
    groupedHeld hashing request = .ok held ↔
      ∃ blocks, documentBlocks request.sections request.config = .ok blocks ∧ blocks ≠ [] ∧
        ∃ groups, groupPlaced request.config blocks.zipIdx [] = .ok groups ∧
          List.Forall₂ (fun (entry : PlacedGroup × Nat) made =>
            heldOf hashing request entry.1 entry.2 = .ok made) groups.zipIdx held := by
  simp only [groupedHeld, bind_eq_ok_iff, exists_unit_iff, rejectIf_eq_ok_iff,
    collectEach_eq_ok_iff, ne_eq]

theorem candidateOf_eq {group : PlacedGroup} {index : Nat} :
    candidateOf hashing request index group.group =
      (heldOf hashing request group index).map (·.chunk) := by
  rw [heldOf]
  cases candidateOf hashing request index group.group with
  | error raised => rfl
  | ok chunk => rfl

/-- Results that are mapped after they are collected are collected as mapped. -/
theorem collectEach_map {Item Entry Result Value : Type} {entry : Item → Entry}
    {value : Result → Value} {compute : Entry → Except ChunkingError Value}
    {result : Item → Except ChunkingError Result}
    (same : ∀ item, compute (entry item) = (result item).map value) (items : List Item) :
    collectEach compute (items.map entry) = (collectEach result items).map (List.map value) := by
  induction items with
  | nil => rfl
  | cons item rest ih =>
      simp only [List.map_cons, collectEach, ih, same]
      cases result item with
      | error raised => rfl
      | ok first =>
          cases collectEach result rest with
          | error raised => rfl
          | ok results => rfl

theorem map_eq_ok_iff {α β : Type} {made : α → β} {result : Except ChunkingError α} {value : β} :
    result.map made = .ok value ↔ ∃ given, result = .ok given ∧ made given = value := by
  cases result <;> simp [Except.map]

theorem map_group_of_held {groups : List PlacedGroup}
    (made : List.Forall₂ (fun (entry : PlacedGroup × Nat) made =>
      heldOf hashing request entry.1 entry.2 = .ok made) groups.zipIdx held) :
    held.map (·.toPlacedGroup) = groups := by
  have same : held.map (·.toPlacedGroup) = groups.zipIdx.map Prod.fst :=
    map_of_collectEach (fun isHeld => (heldOf_eq_ok_iff.mp isHeld).1)
      (collectEach_eq_ok_iff.mpr made)
  rw [same, List.zipIdx_map_fst]

/-- **The chunks with their blocks are the chunks of the document.** -/
theorem groupedChunks_eq_ok_iff {chunks : List ChunkCandidate} :
    groupedChunks hashing request = .ok chunks ↔
      ∃ held, groupedHeld hashing request = .ok held ∧ held.map (·.chunk) = chunks := by
  have groups (blocks : List Block) : groupBlocks blocks request.config =
      (groupPlaced request.config blocks.zipIdx []).map (List.map PlacedGroup.group) := by
    rw [← groupFrom_eq, unplaced, List.zipIdx_map_fst]
    rfl
  have candidates (groups : List PlacedGroup) :
      collectEach (fun entry => candidateOf hashing request entry.2 entry.1)
          (groups.map PlacedGroup.group).zipIdx =
        (collectEach (fun entry => heldOf hashing request entry.1 entry.2) groups.zipIdx).map (List.map (·.chunk)) := by
    have same (entry : PlacedGroup × Nat) :
        candidateOf hashing request entry.2 entry.1.group =
          (heldOf hashing request entry.1 entry.2).map (·.chunk) := candidateOf_eq
    rw [List.zipIdx_map]
    exact @collectEach_map _ _ _ _ (Prod.map PlacedGroup.group id) _
      (fun entry => candidateOf hashing request entry.2 entry.1) _ same groups.zipIdx
  simp only [groupedChunks, groupedHeld, bind_eq_ok_iff, exists_unit_iff, groups, map_eq_ok_iff]
  constructor
  · rintro ⟨blocks, areBlocks, found, _, ⟨placed, arePlaced, rfl⟩, collected⟩
    obtain ⟨held, areHeld, isChunks⟩ := map_eq_ok_iff.mp ((candidates placed).symm.trans collected)
    exact ⟨held, ⟨blocks, areBlocks, found, placed, arePlaced, areHeld⟩, isChunks⟩
  · rintro ⟨held, ⟨blocks, areBlocks, found, placed, arePlaced, areHeld⟩, isChunks⟩
    exact ⟨blocks, areBlocks, found, _, ⟨placed, arePlaced, rfl⟩,
      (candidates placed).trans (map_eq_ok_iff.mpr ⟨held, areHeld, isChunks⟩)⟩

/-- A document is chunked into the chunks that are kept of those of its groups. -/
theorem chunkDocument_eq_ok_iff {result : ChunkingResult} :
    chunkDocument hashing request = .ok result ↔
      ∃ grouped, groupedHeld hashing request = .ok grouped ∧
        result =
          { documentVersionId := request.documentVersionId
            configHash := hashing.configHash request.config
            strategyVersion := request.config.chunkingStrategyVersion
            chunks := numbered ((keptHeld hashing request.config grouped).map (·.chunk)) } := by
  simp only [chunkDocument, bind_eq_ok_iff, pure_eq_ok_iff, groupedChunks_eq_ok_iff]
  constructor
  · rintro ⟨_, ⟨grouped, isGrouped, rfl⟩, rfl⟩
    exact ⟨grouped, isGrouped, by rw [map_chunk_keptHeld]⟩
  · rintro ⟨grouped, isGrouped, rfl⟩
    exact ⟨_, ⟨grouped, isGrouped, rfl⟩, by rw [map_chunk_keptHeld]⟩

/-- The last chunk is merged into the one before it, or the chunks are as they were. -/
theorem mergeHeld_cases (hashing : Hashing) (config : ChunkingConfig) (held : List HeldChunk) :
    (∃ earlier previous tail, held = earlier ++ [previous, tail] ∧
      tailMerges hashing config previous.chunk tail.chunk ∧
        mergeHeld hashing config held = earlier ++ [HeldChunk.merged hashing previous tail]) ∨
      mergeHeld hashing config held = held ∧
        ∀ earlier previous tail, held = earlier ++ [previous, tail] →
          ¬ tailMerges hashing config previous.chunk tail.chunk := by
  induction held using mergeHeld.induct hashing config with
  | case1 => exact .inr ⟨rfl, by simp⟩
  | case2 only =>
      refine .inr ⟨rfl, fun earlier previous tail split => ?_⟩
      have lengths := congrArg List.length split
      simp at lengths
  | case3 previous tail merges =>
      exact .inl ⟨[], previous, tail, rfl, merges, by rw [mergeHeld, if_pos merges]; rfl⟩
  | case4 previous tail apart =>
      refine .inr ⟨by rw [mergeHeld, if_neg apart], fun earlier first second split => ?_⟩
      have whole : [] ++ [previous, tail] = earlier ++ [first, second] := split
      cases (List.append_inj' whole rfl).2
      exact apart
  | case5 first second third rest ih =>
      rcases ih with ⟨earlier, previous, tail, split, merges, eq⟩ | ⟨eq, apart⟩
      · refine .inl ⟨first :: earlier, previous, tail, by rw [split]; rfl, merges, ?_⟩
        rw [mergeHeld, eq]
        rfl
      · refine .inr ⟨by rw [mergeHeld, eq], fun earlier previous tail split => ?_⟩
        cases earlier with
        | nil => simp at split
        | cons head others =>
            injection split with _ split
            exact apart others previous tail split

/-! ## Sample requests -/

namespace Sample

/-- Digests that tell texts apart that are shorter than a digest. -/
def textHashing : Hashing where
  sha256 text := ⟨(text ++ List.replicate 64 '0').take 64, by simp⟩
  configHash _ := .repeated 'c'
  estimate text := if text = [] then 0 else max 1 ((text.length + 3) / 4)

/-- A request for some sections. -/
def requestFor (sections : List ParsedSection) (config : ChunkingConfig) : ChunkingRequest where
  organizationId := 2
  documentVersionId := 4
  dataClassification := .internal
  sections := sections
  config := config

end Sample

end PolicyOS.Knowledge
