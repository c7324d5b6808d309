import PolicyOS.Knowledge.ChunkBlocks

/-!
# Chunks within boundaries

Where pages and sections are preserved, the blocks of a chunk are of one page, one path and one
heading, which its locator states. An empty path or heading is none to a locator: chunks that
differ in nothing else are merged.
-/

namespace PolicyOS.Knowledge

open Foundation

variable {hashing : Hashing} {config : ChunkingConfig} {current : List PlacedBlock}
  {next : PlacedBlock}

/-! ## Groups -/

/-- What a chunk is not to go beyond. -/
def Block.boundary (block : Block) : Option Nat × Option Text × Option Text :=
  (block.page, block.sectionPath, block.heading)

/-- Blocks of one page, path and heading. -/
def OneBoundary (placed : List PlacedBlock) : Prop :=
  ∀ first ∈ placed, ∀ second ∈ placed, first.1.boundary = second.1.boundary

theorem OneBoundary.of_subset {placed others : List PlacedBlock} (one : OneBoundary others)
    (subset : placed ⊆ others) : OneBoundary placed :=
  fun first isFirst second isSecond => one first (subset isFirst) second (subset isSecond)

theorem OneBoundary.append_singleton {placed : List PlacedBlock} (one : OneBoundary placed)
    (same : ∀ other ∈ placed, other.1.boundary = next.1.boundary) :
    OneBoundary (placed ++ [next]) := by
  intro first isFirst second isSecond
  rcases List.mem_append.mp isFirst with isFirst | isFirst <;>
    rcases List.mem_append.mp isSecond with isSecond | isSecond
  · exact one first isFirst second isSecond
  · rw [List.mem_singleton.mp isSecond]
    exact same first isFirst
  · rw [List.mem_singleton.mp isFirst]
    exact (same second isSecond).symm
  · rw [List.mem_singleton.mp isFirst, List.mem_singleton.mp isSecond]

section Preserved

variable (pages : config.preservePageBoundaries) (sections : config.preserveSectionBoundaries)

include pages sections

theorem boundaryChanged_eq_false_iff {blocks : List Block} {block : Block} :
    boundaryChanged config blocks block = false ↔
      ∀ last ∈ blocks.getLast?, last.boundary = block.boundary := by
  unfold boundaryChanged
  rw [pages, sections]
  cases blocks.getLast? with
  | none => simp
  | some last => simp [Block.boundary]

/-- What stays before a block is of its boundary. -/
theorem boundary_of_keptPlaced (one : OneBoundary current) {placed : PlacedBlock}
    (kept : placed ∈ keptPlaced config current next) :
    placed.1.boundary = next.1.boundary := by
  have inCurrent := mem_of_keptPlaced kept
  have unchanged : boundaryChanged config (unplaced current) next.1 = false := by
    by_contra changed
    rw [Bool.not_eq_false] at changed
    have closes : closesBefore config (unplaced current) next.1 = true := by
      have some : unplaced current ≠ [] := List.ne_nil_of_mem (List.mem_map_of_mem inCurrent)
      simp [closesBefore, changed, some]
    have none : keptBefore config (unplaced current) next.1 = [] := by
      rw [keptBefore, if_pos closes, if_pos changed]
    have listed : placed.1 ∈ unplaced (keptPlaced config current next) := List.mem_map_of_mem kept
    rw [unplaced_keptPlaced, none] at listed
    exact absurd listed List.not_mem_nil
  cases isLast : current.getLast? with
  | none =>
      rw [List.getLast?_eq_none_iff.mp isLast] at inCurrent
      exact absurd inCurrent List.not_mem_nil
  | some last =>
      rw [one placed inCurrent last (List.mem_of_getLast? isLast)]
      refine (boundaryChanged_eq_false_iff pages sections).mp unchanged last.1 ?_
      rw [List.getLast?_map, isLast]
      rfl

theorem oneBoundary_besidePlaced (one : OneBoundary current) :
    OneBoundary (besidePlaced config current next ++ [next]) := by
  have kept (placed) (beside : placed ∈ besidePlaced config current next) :
      placed ∈ keptPlaced config current next := by
    unfold besidePlaced at beside
    dsimp only at beside
    split_ifs at beside
    · exact absurd beside List.not_mem_nil
    · exact beside
  exact (one.of_subset fun placed beside => mem_of_keptPlaced (kept placed beside)).append_singleton
    fun placed beside => boundary_of_keptPlaced pages sections one (kept placed beside)

/-- The blocks of a group are of one boundary, if those of the current group are. -/
theorem oneBoundary_of_groupPlaced : ∀ {rest current : List PlacedBlock}
    {groups : List PlacedGroup}, groupPlaced config rest current = .ok groups →
      OneBoundary current → ∀ group ∈ groups, OneBoundary group.blocks := by
  intro rest
  induction rest with
  | nil =>
      rintro current groups ⟨⟩ one group listed
      split_ifs at listed
      · exact absurd listed List.not_mem_nil
      · rw [List.mem_singleton.mp listed]
        exact one
  | cons next others ih =>
      intro current groups made one group listed
      obtain ⟨-, later, isLater, rfl⟩ := groupPlaced_cons_eq_ok_iff.mp made
      rcases List.mem_append.mp listed with closed | isLast
      · rcases mem_closedPlaced_iff.mp closed with ⟨-, rfl⟩ | ⟨-, rfl⟩
        · exact one
        · exact one.of_subset fun placed => mem_of_keptPlaced
      · exact ih isLater (oneBoundary_besidePlaced pages sections one) group isLast

end Preserved

/-! ## Locators -/

/-- A text, unless it is empty. -/
def nonEmpty (given : Option Text) : Option Text := given.filter (· ≠ [])

theorem filterMap_of_same {α : Type} {value : Block → Option α} {own : Option α}
    {blocks : List Block} (same : ∀ block ∈ blocks, value block = own) :
    blocks.filterMap value = own.elim [] (List.replicate blocks.length) := by
  induction blocks with
  | nil => cases own <;> rfl
  | cons first rest ih =>
      have later := ih fun block isBlock => same block (List.mem_cons_of_mem _ isBlock)
      have isOwn := same first List.mem_cons_self
      cases own with
      | none => rw [List.filterMap_cons_none isOwn, later]; rfl
      | some own => rw [List.filterMap_cons_some isOwn, later]; rfl

theorem onlyValue_replicate {count : Nat} {value : Text} :
    onlyValue (List.replicate (count + 1) value) = some value := by
  simp [onlyValue, List.replicate_succ]

/-- A value of all blocks is stated unless it is empty. -/
theorem onlyValue_of_same {value : Block → Option Text} {own : Option Text} {blocks : List Block}
    (some : blocks ≠ []) (same : ∀ block ∈ blocks, value block = own) :
    onlyValue ((blocks.filterMap value).filter (· ≠ [])) = nonEmpty own := by
  obtain ⟨first, rest, rfl⟩ := List.exists_cons_of_ne_nil some
  rw [filterMap_of_same same]
  cases own with
  | none => rfl
  | some own =>
      by_cases empty : own = []
      · simp [nonEmpty, Option.filter, empty, onlyValue]
      · have kept : (List.replicate (rest.length + 1) own).filter (· ≠ []) =
            List.replicate (rest.length + 1) own := by simp [empty]
        rw [Option.elim_some, List.length_cons, kept, onlyValue_replicate]
        simp [nonEmpty, Option.filter, empty]

/-- A locator states a page, a path and a heading. -/
structure LocatorFields.States (locator : LocatorFields) (page : Option Nat)
    (sectionPath heading : Option Text) : Prop where
  pageStart : locator.pageStart = page
  pageEnd : locator.pageEnd = page
  sectionPath : locator.sectionPath = sectionPath
  heading : locator.heading = heading

/-- Blocks of one boundary are cited where each of them is. -/
theorem states_locatorOf {blocks : List Block} {block : Block} (isBlock : block ∈ blocks)
    (one : ∀ other ∈ blocks, other.boundary = block.boundary) :
    (locatorOf blocks).States block.page (nonEmpty block.sectionPath) (nonEmpty block.heading) := by
  have some : blocks ≠ [] := List.ne_nil_of_mem isBlock
  have samePages (other) (isOther : other ∈ blocks) : other.page = block.page :=
    congrArg Prod.fst (one other isOther)
  have samePath (other) (isOther : other ∈ blocks) : other.sectionPath = block.sectionPath :=
    congrArg (·.2.1) (one other isOther)
  have sameHeading (other) (isOther : other ∈ blocks) : other.heading = block.heading :=
    congrArg (·.2.2) (one other isOther)
  have positive : blocks.length ≠ 0 := List.length_pos_iff.mpr some |>.ne'
  have pages := filterMap_of_same samePages
  refine ⟨?_, ?_, onlyValue_of_same some samePath, onlyValue_of_same some sameHeading⟩
  · rw [locatorOf, pages]
    cases block.page with
    | none => rfl
    | some page => simp [List.min?_replicate, positive]
  · rw [locatorOf, pages]
    cases block.page with
    | none => rfl
    | some page => simp [List.max?_replicate, positive]

/-! ## Chunks -/

/-- The blocks of a chunk are of one page, path and heading, which its locator states. An empty
path or heading counts as none. -/
def HeldChunk.Within (held : HeldChunk) : Prop :=
  ∃ page sectionPath heading,
    (∀ placed ∈ held.blocks, placed.1.page = page ∧ nonEmpty placed.1.sectionPath = sectionPath ∧
      nonEmpty placed.1.heading = heading) ∧
      held.chunk.locator.States page sectionPath heading

theorem within_heldOf {request : ChunkingRequest} {group : PlacedGroup} {index : Nat}
    {held : HeldChunk} (made : heldOf hashing request group index = .ok held)
    (some : group.blocks ≠ []) (one : OneBoundary group.blocks) : held.Within := by
  obtain ⟨sameGroup, candidate⟩ := heldOf_eq_ok_iff.mp made
  obtain ⟨bounded, isChunk⟩ := buildChecked_eq_ok_iff.mp candidate
  obtain ⟨first, isFirst⟩ := List.exists_mem_of_ne_nil _ some
  refine ⟨first.1.page, nonEmpty first.1.sectionPath, nonEmpty first.1.heading,
    fun placed isPlaced => ?_, ?_⟩
  · rw [sameGroup] at isPlaced
    have same := one placed isPlaced first isFirst
    simp only [Block.boundary, Prod.mk.injEq] at same
    obtain ⟨samePage, samePath, sameHeading⟩ := same
    exact ⟨samePage, by rw [samePath], by rw [sameHeading]⟩
  · rw [← isChunk]
    refine states_locatorOf (List.mem_map_of_mem isFirst) fun other isOther => ?_
    obtain ⟨placed, isPlaced, rfl⟩ := List.mem_map.mp isOther
    exact one placed isPlaced first isFirst

/-- A merged chunk is cited where both are. -/
theorem within_merged {previous tail : HeldChunk}
    (merges : tailMerges hashing config previous.chunk tail.chunk) (first : previous.Within)
    (last : tail.Within) : (HeldChunk.merged hashing previous tail).Within := by
  obtain ⟨page, path, heading, blocks, states⟩ := first
  obtain ⟨tailPage, tailPath, tailHeading, tailBlocks, tailStates⟩ := last
  rw [← merges.2.1] at tailStates
  obtain rfl : tailPage = page := tailStates.pageStart.symm.trans states.pageStart
  obtain rfl : tailPath = path := tailStates.sectionPath.symm.trans states.sectionPath
  obtain rfl : tailHeading = heading := tailStates.heading.symm.trans states.heading
  exact ⟨tailPage, tailPath, tailHeading, fun placed isPlaced =>
    (List.mem_append.mp isPlaced).elim (blocks placed) (tailBlocks placed), states⟩

/-- **Chunks respect boundaries**, where pages and sections are preserved. -/
theorem chunks_within (hashing : Hashing) (request : ChunkingRequest) (result : ChunkingResult)
    (pages : request.config.preservePageBoundaries)
    (sections : request.config.preserveSectionBoundaries)
    (returned : chunkDocument hashing request = .ok result) :
    ∃ grouped, groupedHeld hashing request = .ok grouped ∧
      let kept := keptHeld hashing request.config grouped
      result.chunks = numbered (kept.map (·.chunk)) ∧
        ∀ held ∈ kept, held.blocks ≠ [] ∧ held.Within := by
  obtain ⟨grouped, isGrouped, rfl⟩ := chunkDocument_eq_ok_iff.mp returned
  refine ⟨grouped, isGrouped, rfl, fun held isKept => ?_⟩
  obtain ⟨blocks, -, -, groups, areGroups, heldGroups⟩ := groupedHeld_eq_ok_iff.mp isGrouped
  have each (made) (isMade : made ∈ grouped) : made.blocks ≠ [] ∧ made.Within := by
    obtain ⟨⟨group, index⟩, isGroup, isHeld⟩ :=
      mem_of_collectEach (collectEach_eq_ok_iff.mpr heldGroups) isMade
    have listed : group ∈ groups := List.fst_mem_of_mem_zipIdx isGroup
    have some := ne_nil_of_groupPlaced areGroups group listed
    have one : OneBoundary ([] : List PlacedBlock) := fun _ isNone => absurd isNone List.not_mem_nil
    refine ⟨(heldOf_eq_ok_iff.mp isHeld).1.symm ▸ some, within_heldOf isHeld some ?_⟩
    exact oneBoundary_of_groupPlaced pages sections areGroups one group listed
  have isMerged := uniqueHeld_sublist.subset isKept
  rcases mergeHeld_cases hashing request.config grouped with
    ⟨earlier, previous, tail, rfl, merges, eq⟩ | ⟨eq, -⟩
  · rw [eq, List.mem_append, List.mem_singleton] at isMerged
    rcases isMerged with isEarlier | rfl
    · exact each held (List.mem_append_left _ isEarlier)
    · obtain ⟨some, first⟩ := each previous (by simp)
      obtain ⟨-, last⟩ := each tail (by simp)
      exact ⟨fun none => some (List.append_eq_nil_iff.mp none).1, within_merged merges first last⟩
  · exact each held (eq ▸ isMerged)

namespace Sample

/-- A section with an empty title, and one without. -/
def titledRequest : ChunkingRequest :=
  requestFor [{ title := some [], text := "Approved.".toList }, { text := "Adopted.".toList }] .standard

theorem titledRequest_chunked : (chunkDocument textHashing titledRequest).toOption.isSome := by
  decide +kernel

theorem titledRequest_headings {grouped : List HeldChunk}
    (isGrouped : groupedHeld textHashing titledRequest = .ok grouped) :
    (keptHeld textHashing titledRequest.config grouped).map
      (fun held => held.blocks.map (·.1.heading)) = [[some [], none]] := by
  have computed : (groupedHeld textHashing titledRequest).toOption.map (fun grouped =>
      (keptHeld textHashing titledRequest.config grouped).map fun held =>
        held.blocks.map (·.1.heading)) = some [[some [], none]] := by decide +kernel
  rw [isGrouped] at computed
  exact Option.some.inj computed

end Sample

theorem chunks_within_titled :
    ∃ grouped, groupedHeld Sample.textHashing Sample.titledRequest = .ok grouped ∧
      let kept := keptHeld Sample.textHashing Sample.titledRequest.config grouped
      (givenValue _ Sample.titledRequest_chunked).chunks = numbered (kept.map (·.chunk)) ∧
        ∀ held ∈ kept, held.blocks ≠ [] ∧ held.Within :=
  chunks_within Sample.textHashing Sample.titledRequest _ rfl rfl
    (eq_ok_givenValue Sample.titledRequest_chunked)

/-- A section with an empty title and one without a title are merged into one chunk. -/
theorem not_chunks_within :
    ¬ ∀ (hashing : Hashing) (request : ChunkingRequest) (result : ChunkingResult),
      request.config.preservePageBoundaries → request.config.preserveSectionBoundaries →
      chunkDocument hashing request = .ok result →
      ∃ grouped, groupedHeld hashing request = .ok grouped ∧
        let kept := keptHeld hashing request.config grouped
        result.chunks = numbered (kept.map (·.chunk)) ∧
          ∀ held ∈ kept, ∃ page sectionPath heading,
            (∀ placed ∈ held.blocks, placed.1.boundary = (page, sectionPath, heading)) ∧
              held.chunk.locator.States page sectionPath heading := by
  intro within
  obtain ⟨grouped, isGrouped, -, respected⟩ := within Sample.textHashing Sample.titledRequest _ rfl
    rfl (eq_ok_givenValue Sample.titledRequest_chunked)
  have listed : [some [], none] ∈ (keptHeld Sample.textHashing Sample.titledRequest.config
      grouped).map fun held => held.blocks.map (·.1.heading) := by
    rw [Sample.titledRequest_headings isGrouped]
    exact List.mem_singleton_self _
  obtain ⟨held, isKept, isHeadings⟩ := List.mem_map.mp listed
  obtain ⟨page, path, heading, one, -⟩ := respected held isKept
  have same (given) (isGiven : given ∈ held.blocks.map (·.1.heading)) : given = heading := by
    obtain ⟨placed, isPlaced, rfl⟩ := List.mem_map.mp isGiven
    exact congrArg (·.2.2) (one placed isPlaced)
  rw [isHeadings] at same
  have empty := same (some []) (by simp)
  have none := same none (by simp)
  exact absurd (empty.trans none.symm) (by simp)

end PolicyOS.Knowledge
