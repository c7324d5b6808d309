import PolicyOS.Knowledge.Chunking

/-!
# Ranges of blocks

A block ends no earlier than it starts, whether it is a paragraph, a group of rows or a
group of items, and so does a chunk of blocks. Only merging the last chunk may turn a range
around: the merged chunk starts where the one before starts and ends where the last one ends.
-/

namespace PolicyOS.Knowledge

open Foundation

variable {config : ChunkingConfig} {blocks : List Block}

/-- Groups that end no earlier than they start. -/
def RangesForward (groups : List (List Text × Nat × Nat)) : Prop :=
  ∀ group ∈ groups, group.2.1 ≤ group.2.2

theorem RangesForward.append {groups : List (List Text × Nat × Nat)}
    (forward : RangesForward groups) {texts : List Text} {first last : Nat}
    (ordered : first ≤ last) : RangesForward (groups ++ [(texts, first, last)]) := by
  intro group listed
  rcases List.mem_append.mp listed with earlier | new
  · exact forward group earlier
  · rw [List.mem_singleton.mp new]
    exact ordered

/-! ## Rows -/

/-- What holds of rows as they are collected, before the row of an offset. -/
structure RowGroups.Forward (state : RowGroups) (offset : Nat) : Prop where
  groups : RangesForward state.groups
  started : state.rowStart ≤ offset
  current : state.current ≠ [] → state.rowStart < offset

theorem RowGroups.Forward.flush {state : RowGroups} {offset : Nat} (forward : state.Forward offset)
    (fits : Bool) : (state.flush fits offset).Forward offset := by
  unfold RowGroups.flush
  split_ifs with closes
  · exact
      { groups := forward.groups.append (Nat.le_sub_one_of_lt (forward.current closes.1))
        started := le_refl _
        current := fun nonempty => absurd rfl nonempty }
  · exact forward

/-- A row keeps it. -/
theorem RowGroups.Forward.add {header : Option Text} {state next : RowGroups} {offset : Nat}
    {row : Text} (forward : state.Forward offset)
    (added : state.add header config offset row = .ok next) : next.Forward (offset + 1) := by
  have flushed := forward.flush
    (decide ((Text.join ['\n'] (headerLines header ++ state.current ++ [row])).length ≤
      config.maxCharacters))
  unfold RowGroups.add at added
  split at added
  · simp only [bind_eq_ok_iff, pure_eq_ok_iff] at added
    obtain ⟨pieces, -, rfl⟩ := added
    refine
      { groups := fun group listed => ?_
        started := flushed.started.trans (Nat.le_succ _)
        current := fun nonempty => (flushed.current nonempty).trans (Nat.lt_succ_self _) }
    rcases List.mem_append.mp listed with earlier | new
    · exact flushed.groups group earlier
    · obtain ⟨piece, -, rfl⟩ := List.mem_map.mp new
      exact le_refl _
  · simp only [pure_eq_ok_iff] at added
    subst added
    exact
      { groups := flushed.groups
        started := flushed.started.trans (Nat.le_succ _)
        current := fun _ => Nat.lt_succ_of_le flushed.started }

/-- So does every row. -/
theorem RowGroups.Forward.addAll {header : Option Text} {rows : List Text} :
    ∀ {state next : RowGroups} {offset : Nat}, state.Forward offset →
      RowGroups.addAll header config state offset rows = .ok next →
        next.Forward (offset + rows.length) := by
  induction rows with
  | nil =>
      rintro state next offset forward ⟨⟩
      exact forward
  | cons row rest ih =>
      intro state next offset forward added
      simp only [RowGroups.addAll, bind_eq_ok_iff] at added
      obtain ⟨middle, first, others⟩ := added
      have later := ih (forward.add first) others
      rwa [List.length_cons, ← Nat.add_assoc, Nat.add_right_comm]

theorem RowGroups.Forward.finish {state : RowGroups} {offset : Nat}
    (forward : state.Forward offset) : RangesForward state.finish := by
  unfold RowGroups.finish
  split_ifs with closed
  · exact forward.groups
  · have rows := List.length_pos_iff.mpr closed
    exact forward.groups.append (by omega)

/-! ## Items -/

/-- What holds of items as they are collected, before the item of an offset. -/
structure ItemGroups.Forward (state : ItemGroups) (offset : Nat) : Prop where
  groups : RangesForward state.groups
  started : state.itemStart ≤ offset
  current : state.current ≠ [] → state.itemStart < offset

/-- An item keeps it. -/
theorem ItemGroups.Forward.add {state next : ItemGroups} {offset : Nat} {item : Text}
    (forward : state.Forward offset) (added : state.add config offset item = .ok next) :
    next.Forward (offset + 1) := by
  simp only [ItemGroups.add, bind_eq_ok_iff, pure_eq_ok_iff] at added
  obtain ⟨pieces, -, rfl⟩ := added
  split_ifs with closes
  · exact
      { groups := forward.groups.append (Nat.le_sub_one_of_lt (forward.current closes.1))
        started := Nat.le_succ _
        current := fun _ => Nat.lt_succ_self _ }
  · exact
      { groups := forward.groups
        started := forward.started.trans (Nat.le_succ _)
        current := fun _ => Nat.lt_succ_of_le forward.started }

/-- So does every item. -/
theorem ItemGroups.Forward.addAll {items : List Text} :
    ∀ {state next : ItemGroups} {offset : Nat}, state.Forward offset →
      ItemGroups.addAll config state offset items = .ok next →
        next.Forward (offset + items.length) := by
  induction items with
  | nil =>
      rintro state next offset forward ⟨⟩
      exact forward
  | cons item rest ih =>
      intro state next offset forward added
      simp only [ItemGroups.addAll, bind_eq_ok_iff] at added
      obtain ⟨middle, first, others⟩ := added
      have later := ih (forward.add first) others
      rwa [List.length_cons, ← Nat.add_assoc, Nat.add_right_comm]

/-! ## Blocks -/

/-- A block that ends no earlier than it starts. -/
def Block.Forward (block : Block) : Prop := block.sourceStart ≤ block.sourceEnd

theorem forward_of_groups {parsed : ParsedSection} {groups : List (List Text × Nat × Nat)}
    (forward : RangesForward groups) (start : Nat) (textOf : List Text → Text) :
    ∀ block ∈ groups.map (fun group =>
      parsed.block (textOf group.1) (start + group.2.1 - 1) (start + group.2.2 - 1)),
      block.Forward := by
  intro block listed
  obtain ⟨group, isGroup, rfl⟩ := List.mem_map.mp listed
  exact Nat.sub_le_sub_right (Nat.add_le_add_left (forward group isGroup) start) 1

theorem forward_tableBlocks {parsed : ParsedSection} {start : Nat}
    (made : tableBlocks parsed start config = .ok blocks) : ∀ block ∈ blocks, block.Forward := by
  simp only [tableBlocks, bind_eq_ok_iff, pure_eq_ok_iff] at made
  obtain ⟨state, added, rfl⟩ := made
  have initial : RowGroups.Forward {} 1 :=
    { groups := fun _ listed => absurd listed List.not_mem_nil
      started := le_refl _
      current := fun nonempty => absurd rfl nonempty }
  exact forward_of_groups (initial.addAll added).finish start
    (fun group => Text.join ['\n'] (headerLines parsed.headerText ++ group))

/-- The blocks of a list. -/
theorem forward_listBlocks {parsed : ParsedSection} {paragraph : Text} {start : Nat}
    (made : listBlocks parsed paragraph start config = .ok blocks) :
    ∀ block ∈ blocks, block.Forward := by
  simp only [listBlocks, bind_eq_ok_iff, pure_eq_ok_iff] at made
  obtain ⟨state, added, rfl⟩ := made
  have initial : ItemGroups.Forward {} 1 :=
    { groups := fun _ listed => absurd listed List.not_mem_nil
      started := le_refl _
      current := fun nonempty => absurd rfl nonempty }
  have forward := initial.addAll added
  refine forward_of_groups ?_ start (Text.join ['\n'])
  split_ifs with closed
  · exact forward.groups
  · have begun := forward.current closed
    exact forward.groups.append (by omega)

/-- The blocks of a paragraph. -/
theorem forward_paragraphBlocks {parsed : ParsedSection} {start next : Nat} {paragraph : Text}
    (made : paragraphBlocks parsed config start paragraph = .ok (blocks, next)) :
    ∀ block ∈ blocks, block.Forward := by
  unfold paragraphBlocks at made
  split_ifs at made
  · simp only [bind_eq_ok_iff, pure_eq_ok_iff, Prod.mk.injEq] at made
    obtain ⟨listed, isList, rfl, -⟩ := made
    exact forward_listBlocks isList
  · simp only [bind_eq_ok_iff, pure_eq_ok_iff, Prod.mk.injEq] at made
    obtain ⟨pieces, -, rfl, -⟩ := made
    intro block listed
    obtain ⟨piece, -, rfl⟩ := List.mem_map.mp listed
    exact le_refl start

/-- Blocks made one item after the other end no earlier than they start if those of every
item do. -/
theorem forward_blocksInOrder {Item : Type}
    {blocksOf : Nat → Item → Except ChunkingError (List Block × Nat)}
    (forward : ∀ {start item made next}, blocksOf start item = .ok (made, next) →
      ∀ block ∈ made, block.Forward) {items : List Item} :
    ∀ {start next : Nat} {blocks : List Block},
      blocksInOrder blocksOf start items = .ok (blocks, next) → ∀ block ∈ blocks, block.Forward := by
  induction items with
  | nil =>
      rintro start next blocks ⟨⟩ block listed
      exact absurd listed List.not_mem_nil
  | cons item rest ih =>
      intro start next blocks made block listed
      simp only [blocksInOrder, bind_eq_ok_iff, pure_eq_ok_iff, Prod.mk.injEq] at made
      obtain ⟨⟨first, middle⟩, isFirst, ⟨others, after⟩, areOthers, rfl, -⟩ := made
      rcases List.mem_append.mp listed with early | late
      · exact forward isFirst block early
      · exact ih areOthers block late

/-- Every block of a document ends no earlier than it starts. -/
theorem forward_documentBlocks {sections : List ParsedSection}
    (made : documentBlocks sections config = .ok blocks) : ∀ block ∈ blocks, block.Forward := by
  simp only [documentBlocks, bind_eq_ok_iff, pure_eq_ok_iff] at made
  obtain ⟨⟨all, next⟩, isAll, rfl⟩ := made
  refine forward_blocksInOrder (fun {start parsed made after} isMade => ?_) isAll
  unfold sectionBlocks at isMade
  split_ifs at isMade
  · simp only [bind_eq_ok_iff, pure_eq_ok_iff, Prod.mk.injEq] at isMade
    obtain ⟨rows, areRows, rfl, -⟩ := isMade
    exact forward_tableBlocks areRows
  · exact forward_blocksInOrder (fun isParagraph => forward_paragraphBlocks isParagraph) isMade

/-! ## Groups -/

/-- The overlap that is collected is made of the blocks it is collected from. -/
theorem mem_of_overlapFrom {limit : Nat} {block : Block} :
    ∀ {rest tail : List Block} {size : Nat}, block ∈ overlapFrom limit rest tail size →
      block ∈ rest ∨ block ∈ tail := by
  intro rest
  induction rest with
  | nil => exact fun kept => .inr kept
  | cons first others ih =>
      intro tail size kept
      simp only [overlapFrom] at kept
      by_cases full : limit < size + (first.text.length + if tail = [] then 0 else 2)
      · rw [if_pos full] at kept
        exact .inr kept
      · rw [if_neg full] at kept
        rcases ih kept with later | known
        · exact .inl (List.mem_cons_of_mem _ later)
        · rcases List.mem_cons.mp known with rfl | old
          · exact .inl List.mem_cons_self
          · exact .inr old

/-- The blocks that stay are of the current group. -/
theorem mem_of_keptBefore {block next : Block} {current : List Block}
    (kept : block ∈ keptBefore config current next) : block ∈ current := by
  unfold keptBefore at kept
  split_ifs at kept
  · exact absurd kept List.not_mem_nil
  · unfold overlapTail at kept
    split_ifs at kept
    · exact absurd kept List.not_mem_nil
    · rcases mem_of_overlapFrom kept with inCurrent | inNone
      · exact List.mem_reverse.mp inCurrent
      · exact absurd inNone List.not_mem_nil
  · exact kept

/-- Groups are made of the blocks that are grouped. -/
theorem mem_of_groupFrom {block : Block} {rest : List Block} :
    ∀ {current : List Block} {groups : List (List Block)},
      groupFrom config rest current = .ok groups → ∀ group ∈ groups, block ∈ group →
        block ∈ current ∨ block ∈ rest := by
  induction rest with
  | nil =>
      rintro current groups ⟨⟩ group listed inGroup
      split_ifs at listed
      · exact absurd listed List.not_mem_nil
      · rw [List.mem_singleton.mp listed] at inGroup
        exact .inl inGroup
  | cons first others ih =>
      intro current groups made group listed inGroup
      simp only [groupFrom, bind_eq_ok_iff, exists_unit_iff, pure_eq_ok_iff] at made
      obtain ⟨-, later, isLater, rfl⟩ := made
      rcases List.mem_append.mp listed with early | late
      · left
        rcases List.mem_append.mp early with closed | apart
        · split_ifs at closed
          · rwa [List.mem_singleton.mp closed] at inGroup
          · exact absurd closed List.not_mem_nil
        · split_ifs at apart
          · rw [List.mem_singleton.mp apart] at inGroup
            exact mem_of_keptBefore inGroup
          · exact absurd apart List.not_mem_nil
      · rcases ih isLater group late inGroup with inCurrent | inRest
        · rcases List.mem_append.mp inCurrent with beside | isFirst
          · split_ifs at beside
            · exact absurd beside List.not_mem_nil
            · exact .inl (mem_of_keptBefore beside)
          · exact .inr (List.mem_cons.mpr (.inl (List.mem_singleton.mp isFirst)))
        · exact .inr (List.mem_cons_of_mem _ inRest)

/-! ## Chunks -/

/-- A chunk that ends no earlier than it starts. -/
def ChunkCandidate.Forward (chunk : ChunkCandidate) : Prop :=
  chunk.sourceBlockStart ≤ chunk.sourceBlockEnd

/-- A chunk of blocks that end no earlier than they start does neither. -/
theorem forward_candidateOf {hashing : Hashing} {request : ChunkingRequest} {index : Nat}
    {group : List Block} {chunk : ChunkCandidate} (forward : ∀ block ∈ group, block.Forward)
    (made : candidateOf hashing request index group = .ok chunk) : chunk.Forward := by
  obtain ⟨-, rfl⟩ := buildChecked_eq_ok_iff.mp made
  cases group with
  | nil => exact le_refl _
  | cons first rest =>
      have starts : ((first :: rest).map (·.sourceStart)).min?.getD 0 ≤ first.sourceStart :=
        List.min?_getD_le_of_mem (List.mem_map_of_mem List.mem_cons_self)
      have ends : first.sourceEnd ≤ ((first :: rest).map (·.sourceEnd)).max?.getD 0 :=
        List.le_max?_getD_of_mem (List.mem_map_of_mem List.mem_cons_self)
      exact starts.trans ((forward first List.mem_cons_self).trans ends)

/-- Every chunk of the groups of a document ends no earlier than it starts. -/
theorem forward_groupedChunks {hashing : Hashing} {request : ChunkingRequest}
    {chunks : List ChunkCandidate} (grouped : groupedChunks hashing request = .ok chunks) :
    ∀ chunk ∈ chunks, chunk.Forward := by
  simp only [groupedChunks, bind_eq_ok_iff, exists_unit_iff] at grouped
  obtain ⟨blocks, areBlocks, -, groups, areGroups, collected⟩ := grouped
  intro chunk listed
  obtain ⟨⟨group, index⟩, isGroup, made⟩ := mem_of_collectEach collected listed
  refine forward_candidateOf (fun block inGroup => ?_) made
  have isListed : group ∈ groups := List.fst_mem_of_mem_zipIdx isGroup
  rcases mem_of_groupFrom areGroups group isListed inGroup with inNone | inBlocks
  · exact absurd inNone List.not_mem_nil
  · exact forward_documentBlocks areBlocks block inBlocks

end PolicyOS.Knowledge
