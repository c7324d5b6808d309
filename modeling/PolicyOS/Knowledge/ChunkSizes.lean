import PolicyOS.Knowledge.ChunkPersistence
import PolicyOS.Knowledge.Pieces

/-!
# Sizes of chunks

Rows, paragraphs and sentences are split until each block fits. The pieces of an item of a list
are joined again, so an item can make a block that is too long. A document is chunked exactly if
there is none, each chunk can be cited, and none of them is blank.
-/

namespace PolicyOS.Knowledge

open Foundation

variable {config : ChunkingConfig} {header : Option Text} {row item : Text} {offset start : Nat}
  {parsed : ParsedSection}

/-! ## Blocks of a table -/

/-- A group of rows fits under the header. -/
def FitsUnder (header : Option Text) (config : ChunkingConfig) (group : List Text) : Prop :=
  (Text.join ['\n'] (headerLines header ++ group)).length ≤ config.maxCharacters

/-- Every group of rows fits under the header. -/
structure RowGroups.Small (header : Option Text) (config : ChunkingConfig) (state : RowGroups) :
    Prop where
  groups : ∀ group ∈ state.groups, FitsUnder header config group.1
  current : state.current ≠ [] → FitsUnder header config state.current

/-- There is a group. -/
def RowGroups.Begun (state : RowGroups) : Prop := state.groups ≠ [] ∨ state.current ≠ []

/-- The header leaves room for a character. -/
def HeaderFits (header : Option Text) (config : ChunkingConfig) : Prop :=
  (header.getD []).length + 1 < config.maxCharacters

theorem length_join_header {header : Option Text} :
    (Text.join ['\n'] (headerLines header ++ [row])).length = row.length + headerRoom header := by
  cases header with
  | none => simp [headerLines, headerRoom, join_singleton]
  | some header =>
      rw [headerLines, Option.toList_some, join_concat (List.cons_ne_nil _ _), join_singleton]
      simp only [headerRoom, Option.map_some, Option.getD_some, List.length_append,
        List.length_singleton]
      omega

theorem RowGroups.Small.flush {state : RowGroups} (small : state.Small header config)
    {fits : Bool} : (state.flush fits offset).Small header config := by
  unfold RowGroups.flush
  split_ifs with closes
  · refine ⟨fun group listed => ?_, fun some_ => absurd rfl some_⟩
    rcases List.mem_append.mp listed with isGroup | isLast
    · exact small.groups group isGroup
    · rw [List.mem_singleton.mp isLast]
      exact small.current closes.1
  · exact small

theorem RowGroups.current_flush {state : RowGroups} {fits : Bool} :
    (state.flush fits offset).current = [] ∨
      (state.flush fits offset).current = state.current ∧ fits = true := by
  unfold RowGroups.flush
  split_ifs with closes
  · exact .inl rfl
  · by_cases none : state.current = []
    · exact .inl none
    · exact .inr ⟨rfl, by simpa [none] using closes⟩

theorem RowGroups.Begun.flush {state : RowGroups} (begun : state.Begun) {fits : Bool} :
    (state.flush fits offset).Begun := by
  unfold RowGroups.flush
  split_ifs with closes
  · exact .inl (by simp)
  · exact begun

theorem RowGroups.Small.append_row {state : RowGroups} (small : state.Small header config)
    (short : row.length + headerRoom header ≤ config.maxCharacters)
    (left : state.current = [] ∨ FitsUnder header config (state.current ++ [row])) :
    RowGroups.Small header config { state with current := state.current ++ [row] } := by
  refine ⟨small.groups, fun _ => ?_⟩
  rcases left with none | fits
  · dsimp only
    rw [none, List.nil_append, FitsUnder, length_join_header]
    exact short
  · exact fits

/-- The pieces of a row fit under the header. -/
theorem RowGroups.Small.append_pieces {state : RowGroups} (small : state.Small header config)
    {pieces : List Text} (short : ∀ piece ∈ pieces,
      piece.length ≤ config.maxCharacters - ((header.getD []).length + 1))
    (room : HeaderFits header config) :
    RowGroups.Small header config
      { state with
        groups := state.groups ++ pieces.map fun piece => ([piece], offset, offset) } := by
  refine ⟨fun group listed => ?_, small.current⟩
  rcases List.mem_append.mp listed with isGroup | isPiece
  · exact small.groups group isGroup
  · obtain ⟨piece, own, rfl⟩ := List.mem_map.mp isPiece
    have within := short piece own
    have headed : headerRoom header ≤ (header.getD []).length + 1 := by
      cases header with
      | none => exact Nat.zero_le _
      | some header => exact le_rfl
    rw [FitsUnder, length_join_header]
    rw [HeaderFits] at room
    omega

/-- A row is added, whatever its length: where it does not fit alone, its pieces do. -/
theorem RowGroups.add_spec {state : RowGroups} (room : HeaderFits header config)
    (small : state.Small header config) :
    ∃ next, state.add header config offset row = .ok next ∧ next.Small header config ∧
      (state.Begun ∨ solid row ≠ [] → next.Begun) := by
  unfold RowGroups.add
  dsimp only
  have left := @current_flush offset state (decide ((Text.join ['\n']
    (headerLines header ++ state.current ++ [row])).length ≤ config.maxCharacters))
  by_cases long : config.maxCharacters < row.length + headerRoom header
  · have limit : 1 ≤ config.maxCharacters - ((header.getD []).length + 1) := by
      rw [HeaderFits] at room
      omega
    obtain ⟨pieces, split, short, whole⟩ := @safeSplit_spec row _ limit
    rw [if_pos long, split]
    refine ⟨_, rfl, small.flush.append_pieces short room, ?_⟩
    rintro (begun | worded)
    · rcases begun.flush with some_ | some_
      · exact .inl (List.append_ne_nil_of_left_ne_nil some_ _)
      · exact .inr some_
    · have some_ : pieces ≠ [] := by
        rintro rfl
        exact worded whole.symm
      exact .inl (by simp [some_])
  · rw [if_neg long]
    refine ⟨_, rfl, small.flush.append_row (Nat.le_of_not_lt long) ?_, fun _ => .inr (by simp)⟩
    rcases left with none | ⟨same, fits⟩
    · exact .inl none
    · rw [decide_eq_true_eq, List.append_assoc] at fits
      exact .inr (by rw [same]; exact fits)

/-- Every row is added. -/
theorem RowGroups.addAll_spec (room : HeaderFits header config) :
    ∀ {rows : List Text} {state : RowGroups} {offset : Nat}, state.Small header config →
      ∃ final, RowGroups.addAll header config state offset rows = .ok final ∧
        final.Small header config ∧
          (state.Begun ∨ (∃ row ∈ rows, solid row ≠ []) → final.Begun) := by
  intro rows
  induction rows with
  | nil =>
      intro state offset small
      refine ⟨state, rfl, small, ?_⟩
      rintro (begun | ⟨row, none, -⟩)
      · exact begun
      · exact absurd none List.not_mem_nil
  | cons row rest ih =>
      intro state offset small
      obtain ⟨next, isNext, nextSmall, begins⟩ := @add_spec _ _ row offset _ room small
      obtain ⟨final, isFinal, finalSmall, ends⟩ := @ih next (offset + 1) nextSmall
      refine ⟨final, ?_, finalSmall, ?_⟩
      · rw [RowGroups.addAll, isNext]
        exact isFinal
      · rintro (begun | ⟨other, isOther, worded⟩)
        · exact ends (.inl (begins (.inl begun)))
        · rcases List.mem_cons.mp isOther with rfl | isLater
          · exact ends (.inl (begins (.inr worded)))
          · exact ends (.inr ⟨other, isLater, worded⟩)

/-- A table with a text has a row with a text: one of its own, or the header. -/
theorem ParsedSection.exists_tableRow (worded : solid parsed.text ≠ []) :
    ∃ row ∈ parsed.tableRows, solid row ≠ [] := by
  have spoken : ∀ row ∈ (Text.splitLines parsed.text).filter fun row => row.strip ≠ [],
      solid row ≠ [] := by
    intro row listed
    simpa [strip_eq_nil_iff] using (List.mem_filter.mp listed).2
  have some_ : ((Text.splitLines parsed.text).filter fun row => row.strip ≠ []) ≠ [] := by
    rw [← solid_splitLines, ne_eq, solid_flatten_eq_nil_iff] at worded
    push Not at worded
    obtain ⟨row, isRow, visible⟩ := worded
    have stripped : row.strip ≠ [] := by simpa [strip_eq_nil_iff] using visible
    exact List.ne_nil_of_mem (List.mem_filter.mpr ⟨isRow, decide_eq_true stripped⟩)
  unfold tableRows
  dsimp only
  generalize (Text.splitLines parsed.text).filter (fun row => row.strip ≠ []) = rows at *
  obtain ⟨first, rest, rfl⟩ := List.exists_cons_of_ne_nil some_
  cases parsed.headerText with
  | none => exact ⟨first, List.mem_cons_self, spoken first List.mem_cons_self⟩
  | some header =>
      dsimp only
      by_cases headed : (first :: rest).head?.map Text.strip = some header.strip
      · rw [if_pos headed, List.tail_cons]
        by_cases none : rest = []
        · -- the only row is the header, and says what the header says
          have same : first.strip = header.strip := Option.some.inj headed
          have visible := spoken first List.mem_cons_self
          rw [ne_eq, ← strip_eq_nil_iff, same, strip_eq_nil_iff] at visible
          rw [if_pos none]
          exact ⟨header, List.mem_singleton_self _, visible⟩
        · obtain ⟨second, isSecond⟩ := List.exists_mem_of_ne_nil _ none
          rw [if_neg none]
          exact ⟨second, isSecond, spoken second (List.mem_cons_of_mem _ isSecond)⟩
      · rw [if_neg headed, if_neg (List.cons_ne_nil _ _)]
        exact ⟨first, List.mem_cons_self, spoken first List.mem_cons_self⟩

/-! ## Results -/

/-- Blocks are made; all of them are short enough exactly if they fit, and of a text there is
one. -/
def BlocksMade (config : ChunkingConfig) (blocks : Except ChunkingError (List Block × Nat))
    (fits worded : Prop) : Prop :=
  ∃ made, blocks = .ok made ∧
    ((∀ block ∈ made.1, block.text.length ≤ config.maxCharacters) ↔ fits) ∧
      (worded → made.1 ≠ [])

theorem RowGroups.Small.finish {state : RowGroups} (small : state.Small header config) :
    ∀ group ∈ state.finish, FitsUnder header config group.1 := by
  unfold RowGroups.finish
  split_ifs with none
  · exact small.groups
  · exact List.forall_mem_append.mpr
      ⟨small.groups, List.forall_mem_singleton.mpr (small.current none)⟩

theorem RowGroups.Begun.finish {state : RowGroups} (begun : state.Begun) :
    state.finish ≠ [] := by
  unfold RowGroups.finish
  split_ifs with none
  · exact begun.resolve_right fun some_ => some_ none
  · exact List.append_ne_nil_of_right_ne_nil _ (List.cons_ne_nil _ _)

/-- **Every table is made into blocks that are short enough.** -/
theorem tableBlocks_spec (room : HeaderFits parsed.headerText config) :
    BlocksMade config (do
      let blocks ← tableBlocks parsed start config
      pure (blocks, nextIndex start blocks)) True (solid parsed.text ≠ []) := by
  have initial : RowGroups.Small parsed.headerText config {} :=
    ⟨fun _ none => absurd none List.not_mem_nil, fun some_ => absurd rfl some_⟩
  obtain ⟨final, isFinal, small, begins⟩ :=
    @RowGroups.addAll_spec config parsed.headerText room parsed.tableRows {} 1 initial
  unfold tableBlocks
  dsimp only
  rw [isFinal]
  refine ⟨_, rfl, iff_true_intro ?_, fun worded => ?_⟩
  · intro block listed
    obtain ⟨⟨group, rowStart, rowEnd⟩, isGroup, rfl⟩ := List.mem_map.mp listed
    exact small.finish _ isGroup
  · have begun := begins (.inr (ParsedSection.exists_tableRow worded))
    simpa using begun.finish

/-! ## Blocks of a list -/

/-- The pieces of an item fit together. -/
def ItemFits (config : ChunkingConfig) (item : Text) : Prop :=
  ∀ pieces, safeSplit item config.maxCharacters = .ok pieces →
    (Text.join ['\n'] pieces).length ≤ config.maxCharacters

/-- Every group of items is short enough. -/
def ItemGroups.Small (config : ChunkingConfig) (state : ItemGroups) : Prop :=
  (∀ group ∈ state.groups, (Text.join ['\n'] group.1).length ≤ config.maxCharacters) ∧
    (Text.join ['\n'] state.current).length ≤ config.maxCharacters

/-- There is a group of items. -/
def ItemGroups.Begun (state : ItemGroups) : Prop := state.groups ≠ [] ∨ state.current ≠ []

theorem one_le_maxCharacters : 1 ≤ config.maxCharacters := by
  have bounds := config.maxBounds
  omega

/-- An item that is short enough is its own piece. -/
theorem itemFits_of_short (short : item.length ≤ config.maxCharacters) :
    safeSplit item config.maxCharacters = .ok [item] ∧ ItemFits config item := by
  have split : safeSplit item config.maxCharacters = .ok [item] := by
    have checked : rejectIf (config.maxCharacters < 1)
        (ChunkingError.chunking "Chunk size leaves no room for structured content") = .ok () :=
      rejectIf_eq_ok_iff.mpr (by have := @one_le_maxCharacters config; omega)
    unfold safeSplit
    rw [checked]
    exact if_pos short
  refine ⟨split, fun pieces isSplit => ?_⟩
  obtain rfl := Except.ok.inj (split.symm.trans isSplit)
  rw [join_singleton]
  exact short

/-- An item is added to the groups. They stay short enough exactly if its pieces fit: a group that
is too long is closed before the next item. -/
theorem ItemGroups.add_spec {state : ItemGroups} :
    ∃ next, state.add config offset item = .ok next ∧
      (next.Small config ↔ state.Small config ∧ ItemFits config item) ∧
        (state.Begun ∨ solid item ≠ [] → next.Begun) := by
  obtain ⟨pieces, split, -, whole⟩ := @safeSplit_spec item _ (@one_le_maxCharacters config)
  have fits_iff : ItemFits config item ↔ (Text.join ['\n'] pieces).length ≤ config.maxCharacters :=
    ⟨fun fits => fits pieces split, fun short others isSplit => by
      rwa [← Except.ok.inj (split.symm.trans isSplit)]⟩
  have worded (spoken : solid item ≠ []) : pieces ≠ [] := by
    rintro rfl
    exact spoken whole.symm
  unfold ItemGroups.add
  dsimp only
  rw [split]
  split_ifs with closes
  · refine ⟨_, rfl, ?_, fun _ => .inl (by simp)⟩
    rw [fits_iff]
    simp only [ItemGroups.Small, List.forall_mem_append, List.forall_mem_singleton,
      List.nil_append]
  · by_cases none : state.current = []
    · refine ⟨_, rfl, ?_, ?_⟩
      · rw [fits_iff]
        simp [ItemGroups.Small, none, Text.join]
      · rintro (begun | spoken)
        · exact .inl (begun.resolve_right fun some_ => some_ none)
        · exact .inr (List.append_ne_nil_of_right_ne_nil _ (worded spoken))
    · -- the item fits beside the current group, so it is its own piece
      have beside : (Text.join ['\n'] (state.current ++ [item])).length ≤ config.maxCharacters :=
        Nat.le_of_not_lt fun long => closes ⟨none, long⟩
      obtain ⟨own, fits⟩ := itemFits_of_short (length_last_le_join.trans beside)
      obtain rfl := Except.ok.inj (own.symm.trans split)
      refine ⟨_, rfl, ?_, fun _ => .inr (by simp)⟩
      have before := length_join_le_concat.trans beside
      simp only [ItemGroups.Small, beside, before, fits, and_true]

/-- Every item is added. -/
theorem ItemGroups.addAll_spec : ∀ {items : List Text} {state : ItemGroups} {offset : Nat},
    ∃ final, ItemGroups.addAll config state offset items = .ok final ∧
      (final.Small config ↔ state.Small config ∧ ∀ item ∈ items, ItemFits config item) ∧
        (state.Begun ∨ (∃ item ∈ items, solid item ≠ []) → final.Begun) := by
  intro items
  induction items with
  | nil =>
      intro state offset
      refine ⟨state, rfl, by simp, ?_⟩
      rintro (begun | ⟨item, none, -⟩)
      · exact begun
      · exact absurd none List.not_mem_nil
  | cons item rest ih =>
      intro state offset
      obtain ⟨next, isNext, nextSmall, begins⟩ := @add_spec config item offset state
      obtain ⟨final, isFinal, finalSmall, ends⟩ := @ih next (offset + 1)
      refine ⟨final, ?_, ?_, ?_⟩
      · rw [ItemGroups.addAll, isNext]
        exact isFinal
      · rw [finalSmall, nextSmall, List.forall_mem_cons, and_assoc]
      · rintro (begun | ⟨other, isOther, spoken⟩)
        · exact ends (.inl (begins (.inl begun)))
        · rcases List.mem_cons.mp isOther with rfl | isLater
          · exact ends (.inl (begins (.inr spoken)))
          · exact ends (.inr ⟨other, isLater, spoken⟩)

theorem solid_of_strippedLines {paragraph line : Text} (isLine : line ∈ strippedLines paragraph) :
    solid line ≠ [] := by
  obtain ⟨own, some_⟩ := List.mem_filter.mp isLine
  obtain ⟨raw, -, rfl⟩ := List.mem_map.mp own
  rw [decide_eq_true_eq] at some_
  rw [solid_strip]
  exact fun blank => some_ (strip_eq_nil_iff.mpr blank)

/-- **The blocks of a list are short enough exactly if the pieces of each item fit together.** -/
theorem listBlocks_spec {paragraph : Text} :
    BlocksMade config (do
      let blocks ← listBlocks parsed paragraph start config
      pure (blocks, nextIndex start blocks))
      (∀ item ∈ strippedLines paragraph, ItemFits config item) (strippedLines paragraph ≠ []) := by
  obtain ⟨final, isFinal, small, begins⟩ :=
    @ItemGroups.addAll_spec config (strippedLines paragraph) {} 1
  unfold listBlocks
  dsimp only
  rw [isFinal]
  refine ⟨_, rfl, ?_, fun some_ => ?_⟩
  · have initial : ItemGroups.Small config {} := ⟨fun _ none => absurd none List.not_mem_nil,
      Nat.zero_le _⟩
    rw [and_iff_right initial] at small
    rw [← small]
    refine List.forall_mem_map.trans ?_
    split_ifs with none
    · refine (and_iff_left ?_).symm
      rw [none]
      exact Nat.zero_le _
    · exact List.forall_mem_append.trans (and_congr_right fun _ => List.forall_mem_singleton)
  · obtain ⟨item, isItem⟩ := List.exists_mem_of_ne_nil _ some_
    have begun := begins (.inr ⟨item, isItem, solid_of_strippedLines isItem⟩)
    rw [ne_eq, List.map_eq_nil_iff]
    split_ifs with none
    · exact begun.resolve_right fun some_ => some_ none
    · exact List.append_ne_nil_of_right_ne_nil _ (List.cons_ne_nil _ _)

/-! ## Blocks of a document -/

/-- The items of a paragraph that is made into a list fit. -/
def ParagraphFits (config : ChunkingConfig) (paragraph : Text) : Prop :=
  (config.preserveLists && isList paragraph) = true →
    ∀ item ∈ strippedLines paragraph, ItemFits config item

/-- **The blocks of a paragraph are short enough exactly if its items fit, if it is a list.** -/
theorem paragraphBlocks_spec {paragraph : Text} :
    BlocksMade config (paragraphBlocks parsed config start paragraph)
      (ParagraphFits config paragraph) (solid paragraph ≠ []) := by
  unfold paragraphBlocks
  split_ifs with listed
  · obtain ⟨made, isMade, fits, some_⟩ := @listBlocks_spec config start parsed paragraph
    refine ⟨made, isMade, fits.trans (imp_iff_right listed).symm, fun _ => some_ ?_⟩
    intro none
    simp [isList, none] at listed
  · obtain ⟨pieces, split, short, whole⟩ :=
      @safeSplit_spec paragraph _ (@one_le_maxCharacters config)
    rw [split]
    refine ⟨_, rfl, iff_of_true ?_ fun isListed => absurd isListed listed, fun spoken => ?_⟩
    · exact List.forall_mem_map.mpr short
    · rw [ne_eq, List.map_eq_nil_iff]
      rintro rfl
      exact spoken whole.symm

/-- The blocks of items in order are short enough exactly if every item fits. -/
theorem blocksInOrder_spec {Item : Type}
    {blocksOf : Nat → Item → Except ChunkingError (List Block × Nat)} {Fits Worded : Item → Prop} :
    ∀ {items : List Item}, (∀ item ∈ items, ∀ start,
      BlocksMade config (blocksOf start item) (Fits item) (Worded item)) → ∀ start,
        BlocksMade config (blocksInOrder blocksOf start items) (∀ item ∈ items, Fits item)
          (∃ item ∈ items, Worded item) := by
  intro items
  induction items with
  | nil =>
      intro _ start
      exact ⟨([], start), rfl, by simp, by simp⟩
  | cons item rest ih =>
      intro each start
      obtain ⟨⟨blocks, next⟩, isFirst, fits, some_⟩ := each item List.mem_cons_self start
      obtain ⟨⟨others, after⟩, isLater, laterFit, laterSome⟩ :=
        ih (fun other isOther => each other (List.mem_cons_of_mem _ isOther)) next
      refine ⟨(blocks ++ others, after), ?_, ?_, ?_⟩
      · rw [blocksInOrder, isFirst]
        dsimp only [bind, Except.bind]
        rw [isLater]
        rfl
      · rw [List.forall_mem_cons, ← fits, ← laterFit]
        exact List.forall_mem_append
      · rintro ⟨other, isOther, worded⟩
        rcases List.mem_cons.mp isOther with rfl | isRest
        · exact List.append_ne_nil_of_left_ne_nil (some_ worded) _
        · exact List.append_ne_nil_of_right_ne_nil _ (laterSome ⟨other, isRest, worded⟩)

theorem ParsedSection.exists_paragraph (worded : solid parsed.text ≠ []) :
    ∃ paragraph ∈ parsed.paragraphs, solid paragraph ≠ [] := by
  rw [← solid_splitBlank, ne_eq, solid_flatten_eq_nil_iff] at worded
  push Not at worded
  obtain ⟨paragraph, listed, spoken⟩ := worded
  refine ⟨paragraph.strip, ?_, by rwa [solid_strip]⟩
  exact List.mem_filter.mpr ⟨List.mem_map_of_mem listed, by simpa [strip_eq_nil_iff] using spoken⟩

/-- A section that is made into a table. -/
def ParsedSection.IsTable (parsed : ParsedSection) (config : ChunkingConfig) : Prop :=
  parsed.kind ∈ ["table", "sheet"] ∧ config.preserveTables

/-- Every item of a list of a section fits. -/
def ParsedSection.ItemsFit (config : ChunkingConfig) (parsed : ParsedSection) : Prop :=
  ¬ parsed.IsTable config → ∀ paragraph ∈ parsed.paragraphs, ParagraphFits config paragraph

/-- The blocks of a section are short enough exactly if its items fit. -/
theorem sectionBlocks_spec
    (room : parsed.kind ∈ ["table", "sheet"] → HeaderFits parsed.headerText config) :
    BlocksMade config (sectionBlocks config start parsed) (parsed.ItemsFit config)
      (solid parsed.text ≠ []) := by
  unfold sectionBlocks
  split_ifs with isTable
  · obtain ⟨made, isMade, short, some_⟩ := @tableBlocks_spec config start parsed (room isTable.1)
    exact ⟨made, isMade, short.trans (iff_of_true trivial (absurd isTable)), some_⟩
  · obtain ⟨made, isMade, fits, some_⟩ := @blocksInOrder_spec config _
      (paragraphBlocks parsed config) (ParagraphFits config) (fun paragraph => solid paragraph ≠ [])
      parsed.paragraphs (fun paragraph _ start => paragraphBlocks_spec) start
    exact ⟨made, isMade, fits.trans (imp_iff_right isTable).symm,
      fun worded => some_ (ParsedSection.exists_paragraph worded)⟩

/-- **The blocks of a document are short enough exactly if the items of its lists fit.** -/
theorem documentBlocks_spec {sections : List ParsedSection}
    (room : ∀ parsed ∈ sections, parsed.kind ∈ ["table", "sheet"] →
      HeaderFits parsed.headerText config) :
    ∃ blocks, documentBlocks sections config = .ok blocks ∧
      ((∀ block ∈ blocks, block.text.length ≤ config.maxCharacters) ↔
        ∀ parsed ∈ sections, parsed.ItemsFit config) ∧
      ((∃ parsed ∈ sections, solid parsed.text ≠ []) → blocks ≠ []) := by
  obtain ⟨made, isMade, fits, some_⟩ := @blocksInOrder_spec config _ (sectionBlocks config)
    (ParsedSection.ItemsFit config) (fun parsed => solid parsed.text ≠ []) sections
    (fun parsed listed start => sectionBlocks_spec (room parsed listed)) 0
  refine ⟨made.1, ?_, fits, some_⟩
  unfold documentBlocks
  rw [isMade]
  rfl

/-! ## Groups of blocks -/

/-- Blocks fit together. -/
def Together (config : ChunkingConfig) (blocks : List Block) : Prop :=
  (joinBlocks blocks).length ≤ config.maxCharacters

theorem together_singleton {block : Block} (short : block.text.length ≤ config.maxCharacters) :
    Together config [block] := by
  refine (Text.length_strip_le _).trans ?_
  rw [List.map_singleton, join_singleton]
  exact short

/-- The overlap is no longer than its limit. -/
theorem length_overlapFrom_le {limit : Nat} : ∀ {blocks tail : List Block} {size : Nat},
    (Text.join ['\n', '\n'] (tail.map (·.text))).length = size → size ≤ limit →
      (Text.join ['\n', '\n']
        ((overlapFrom limit blocks tail size).map (·.text))).length ≤ limit := by
  intro blocks
  induction blocks with
  | nil =>
      intro tail size isSize within
      rw [overlapFrom, isSize]
      exact within
  | cons block rest ih =>
      intro tail size isSize within
      have longer : (Text.join ['\n', '\n'] ((block :: tail).map (·.text))).length =
          size + (block.text.length + if tail = [] then 0 else 2) := by
        rw [List.map_cons]
        by_cases none : tail = []
        · subst none
          rw [← isSize, if_pos rfl, List.map_nil, join_singleton]
          simp [Text.join]
        · rw [if_neg none, join_cons (by simpa using none), List.length_append, List.length_append,
            isSize, List.length_cons, List.length_singleton]
          omega
      rw [overlapFrom]
      by_cases exceeds : limit < size + (block.text.length + if tail = [] then 0 else 2)
      · rw [if_pos exceeds, isSize]
        exact within
      · rw [if_neg exceeds]
        exact ih longer (Nat.le_of_not_lt exceeds)

variable {current rest : List Block} {next : Block}

theorem Together.keptBefore (together : Together config current) :
    Together config (keptBefore config current next) := by
  unfold Knowledge.keptBefore overlapTail
  split_ifs
  · exact Nat.zero_le _
  · exact Nat.zero_le _
  · have within := @length_overlapFrom_le config.overlapCharacters current.reverse [] 0 rfl
      (Nat.zero_le _)
    exact (Text.length_strip_le _).trans (within.trans config.overlap_lt_max.le)
  · exact together

/-- The blocks beside a block: those that stay before it, if it fits beside them. -/
def besideOf (config : ChunkingConfig) (current : List Block) (next : Block) : List Block :=
  if standsApart config (keptBefore config current next) next then []
  else keptBefore config current next

/-- The groups that are complete before a block. -/
def completeBefore (config : ChunkingConfig) (current : List Block) (next : Block) :
    List (List Block) :=
  (if closesBefore config current next then [current] else []) ++
    if standsApart config (keptBefore config current next) next then
      [keptBefore config current next]
    else []

theorem groupFrom_cons_eq_ok_iff {groups : List (List Block)} :
    groupFrom config (next :: rest) current = .ok groups ↔
      next.text.length ≤ config.maxCharacters ∧
        ∃ later, groupFrom config rest (besideOf config current next ++ [next]) = .ok later ∧
          completeBefore config current next ++ later = groups := by
  unfold besideOf completeBefore
  simp only [groupFrom, bind_eq_ok_iff, exists_unit_iff, rejectIf_eq_ok_iff, Nat.not_lt]
  split_ifs <;> simp only [pure_eq_ok_iff, List.append_nil]

theorem Together.completeBefore (together : Together config current) :
    ∀ group ∈ completeBefore config current next, Together config group := by
  unfold Knowledge.completeBefore
  refine List.forall_mem_append.mpr ⟨?_, ?_⟩
  · split_ifs
    · exact List.forall_mem_singleton.mpr together
    · exact fun _ none => absurd none List.not_mem_nil
  · split_ifs
    · exact List.forall_mem_singleton.mpr together.keptBefore
    · exact fun _ none => absurd none List.not_mem_nil

theorem together_besideOf (short : next.text.length ≤ config.maxCharacters) :
    Together config (besideOf config current next ++ [next]) := by
  unfold besideOf
  split_ifs with apart
  · exact together_singleton short
  · by_cases none : keptBefore config current next = []
    · rw [none]
      exact together_singleton short
    · exact Nat.le_of_not_lt (by simpa [standsApart, none] using apart)

/-- **Blocks are grouped exactly if each is short enough, and each group fits together.** -/
theorem groupFrom_spec : ∀ {rest current : List Block}, Together config current →
    ((∃ groups, groupFrom config rest current = .ok groups) ↔
        ∀ block ∈ rest, block.text.length ≤ config.maxCharacters) ∧
      ∀ groups, groupFrom config rest current = .ok groups →
        ∀ group ∈ groups, Together config group := by
  intro rest
  induction rest with
  | nil =>
      intro current together
      refine ⟨iff_of_true ⟨_, rfl⟩ (by simp), ?_⟩
      rintro groups ⟨⟩ group listed
      split_ifs at listed
      · exact absurd listed List.not_mem_nil
      · rw [List.mem_singleton.mp listed]
        exact together
  | cons next others ih =>
      intro current together
      constructor
      · rw [List.forall_mem_cons]
        constructor
        · rintro ⟨groups, made⟩
          obtain ⟨short, later, isLater, -⟩ := groupFrom_cons_eq_ok_iff.mp made
          exact ⟨short, (ih (together_besideOf short)).1.mp ⟨later, isLater⟩⟩
        · rintro ⟨short, shorts⟩
          obtain ⟨later, isLater⟩ := (ih (@together_besideOf _ current _ short)).1.mpr shorts
          exact ⟨_, groupFrom_cons_eq_ok_iff.mpr ⟨short, later, isLater, rfl⟩⟩
      · intro groups made
        obtain ⟨short, later, isLater, rfl⟩ := groupFrom_cons_eq_ok_iff.mp made
        exact List.forall_mem_append.mpr
          ⟨together.completeBefore, (ih (together_besideOf short)).2 later isLater⟩

/-! ## Chunks of groups -/

variable {hashing : Hashing} {request : ChunkingRequest} {chunks : List ChunkCandidate}

/-- A chunk is short enough, and carries its own length and hash. -/
structure ChunkCandidate.Measured (hashing : Hashing) (config : ChunkingConfig)
    (chunk : ChunkCandidate) : Prop where
  short : chunk.content.length ≤ config.maxCharacters
  counted : chunk.characterCount = chunk.content.length
  hashed : chunk.contentHash = hashing.sha256 chunk.content

theorem exists_candidateOf_iff {index : Nat} {blocks : List Block} :
    (∃ chunk, candidateOf hashing request index blocks = .ok chunk) ↔
      (locatorOf blocks).Bounded := by
  unfold candidateOf
  simp only [buildChecked_eq_ok_iff, rejectIf_eq_ok_iff, not_not]
  exact ⟨fun made => made.choose_spec.1, fun bounded => ⟨_, bounded, rfl⟩⟩

/-- A block of a group says something. -/
def Spoken (blocks : List Block) : Prop := ∃ block ∈ blocks, block.text.strip ≠ []

theorem spoken_iff {blocks : List Block} : Spoken blocks ↔ joinBlocks blocks ≠ [] := by
  have blank : joinBlocks blocks = [] ↔ solid (joinBlocks blocks) = [] := by
    rw [joinBlocks, strip_eq_nil_iff, solid_strip]
  rw [ne_eq, blank, solid_joinBlocks, List.flatMap_def, solid_flatten_eq_nil_iff]
  simp [Spoken, strip_eq_nil_iff]

/-- The last group is merged into the one before it: it is small, cited where that one is, and fits
beside it. -/
def tailJoins (config : ChunkingConfig) (previous tail : List Block) : Prop :=
  (joinBlocks tail).length < config.minCharacters ∧ locatorOf previous = locatorOf tail ∧
    (joinBlocks previous).length + 2 + (joinBlocks tail).length ≤ config.maxCharacters

/-- Every group says something, if it is not merged. -/
def AllSpoken (config : ChunkingConfig) : List (List Block) → Prop
  | [] => True
  | [only] => Spoken only
  | [previous, tail] => tailJoins config previous tail ∨ Spoken previous ∧ Spoken tail
  | first :: second :: third :: rest =>
      Spoken first ∧ AllSpoken config (second :: third :: rest)

/-- A chunk says what its group says. -/
structure ChunkOf (hashing : Hashing) (blocks : List Block) (chunk : ChunkCandidate) : Prop where
  content : chunk.content = joinBlocks blocks
  counted : chunk.characterCount = (joinBlocks blocks).length
  hashed : chunk.contentHash = hashing.sha256 (joinBlocks blocks)
  locator : chunk.locator.toLocatorFields = locatorOf blocks

theorem chunkOf_of_candidateOf {index : Nat} {blocks : List Block} {chunk : ChunkCandidate}
    (made : candidateOf hashing request index blocks = .ok chunk) :
    ChunkOf hashing blocks chunk := by
  obtain ⟨_, rfl⟩ := buildChecked_eq_ok_iff.mp made
  exact ⟨rfl, rfl, rfl, rfl⟩

theorem ChunkOf.spoken_iff {blocks : List Block} {chunk : ChunkCandidate}
    (of : ChunkOf hashing blocks chunk) : Spoken blocks ↔ chunk.content ≠ [] := by
  rw [Knowledge.spoken_iff, of.content]

theorem ChunkOf.measured {blocks : List Block} {chunk : ChunkCandidate}
    (of : ChunkOf hashing blocks chunk) (together : Together config blocks) :
    chunk.Measured hashing config :=
  ⟨of.content ▸ together, by rw [of.counted, of.content],
    by rw [of.hashed, of.content]⟩

/-- The chunks of the last groups are merged exactly if the groups are. -/
theorem tailMerges_iff {previous tail : List Block} {previousChunk tailChunk : ChunkCandidate}
    (ofPrevious : ChunkOf hashing previous previousChunk)
    (ofTail : ChunkOf hashing tail tailChunk) :
    tailMerges hashing config previousChunk tailChunk ↔ tailJoins config previous tail := by
  have locators : previousChunk.locator = tailChunk.locator ↔
      locatorOf previous = locatorOf tail := by
    rw [← ofPrevious.locator, ← ofTail.locator]
    obtain ⟨first, _⟩ := previousChunk.locator
    obtain ⟨second, _⟩ := tailChunk.locator
    simp only [CitationLocator.mk.injEq]
  rw [tailMerges, tailJoins, locators, ofTail.counted]
  simp only [mergeInto, ofPrevious.content, ofTail.content, List.length_append,
    List.length_cons, List.length_nil]

/-- Merged chunks have a content exactly if every group says something that is not merged. -/
theorem allSpoken_iff {groups : List (List Block)} {chunks : List ChunkCandidate}
    (of : List.Forall₂ (ChunkOf hashing) groups chunks) :
    (∀ chunk ∈ mergeSmallTail hashing config chunks, chunk.content ≠ []) ↔
      AllSpoken config groups := by
  induction groups using AllSpoken.induct generalizing chunks with
  | case1 =>
      cases of
      simp [mergeSmallTail, AllSpoken]
  | case2 only =>
      obtain ⟨chunk, _, first, none, rfl⟩ := List.forall₂_cons_left_iff.mp of
      cases none
      rw [mergeSmallTail, List.forall_mem_singleton, AllSpoken, first.spoken_iff]
  | case3 previous tail =>
      obtain ⟨previousChunk, _, first, others, rfl⟩ := List.forall₂_cons_left_iff.mp of
      obtain ⟨tailChunk, _, second, none, rfl⟩ := List.forall₂_cons_left_iff.mp others
      cases none
      rw [mergeSmallTail, AllSpoken, ← tailMerges_iff first second, first.spoken_iff,
        second.spoken_iff]
      by_cases merges : tailMerges hashing config previousChunk tailChunk
      · rw [if_pos merges, List.forall_mem_singleton]
        exact iff_of_true (by simp [mergeInto]) (.inl merges)
      · rw [if_neg merges, List.forall_mem_cons, List.forall_mem_singleton, or_iff_right merges]
  | case4 first second third rest ih =>
      obtain ⟨firstChunk, _, isFirst, others, rfl⟩ := List.forall₂_cons_left_iff.mp of
      obtain ⟨secondChunk, _, isSecond, later, rfl⟩ := List.forall₂_cons_left_iff.mp others
      obtain ⟨thirdChunk, _, isThird, last, rfl⟩ := List.forall₂_cons_left_iff.mp later
      rw [mergeSmallTail, AllSpoken, List.forall_mem_cons, ih others, isFirst.spoken_iff]

/-- Leaving out what is repeated leaves out no content, if the hash of nothing is its own. -/
theorem forall_uniqueFrom_iff (hashed : ∀ chunk ∈ chunks, chunk.contentHash =
      hashing.sha256 chunk.content)
    (apart : ∀ text, hashing.sha256 text = hashing.sha256 [] → text = []) :
    (∀ chunk ∈ uniqueFrom [] chunks, chunk.content ≠ []) ↔
      ∀ chunk ∈ chunks, chunk.content ≠ [] := by
  refine ⟨fun kept chunk listed blank => ?_,
    fun all chunk kept => all chunk (mem_of_uniqueFrom kept)⟩
  obtain ⟨other, isKept, sameKey⟩ := (exists_of_uniqueFrom listed).resolve_left List.not_mem_nil
  have same : other.contentHash = chunk.contentHash := congrArg Prod.fst sameKey
  rw [hashed chunk listed, hashed other (mem_of_uniqueFrom isKept), blank] at same
  exact kept other isKept (apart _ same)

/-- Every chunk has a content that is short enough, carries its own length and hash, and they are
numbered from zero. -/
structure ChunkingResult.Sound (hashing : Hashing) (config : ChunkingConfig)
    (result : ChunkingResult) : Prop where
  spoken : ∀ chunk ∈ result.chunks, chunk.content ≠ []
  measured : ∀ chunk ∈ result.chunks, chunk.Measured hashing config
  indexes : result.chunks.map (·.chunkIndex) = List.range result.chunks.length

/-- The pieces of every item of a list fit together, every group of blocks can be cited, and no
group is blank that is not merged. -/
structure Chunkable (request : ChunkingRequest) : Prop where
  items : ∀ parsed ∈ request.sections, parsed.ItemsFit request.config
  cited : ∀ blocks groups, documentBlocks request.sections request.config = .ok blocks →
    groupBlocks blocks request.config = .ok groups → ∀ group ∈ groups, (locatorOf group).Bounded
  spoken : ∀ blocks groups, documentBlocks request.sections request.config = .ok blocks →
    groupBlocks blocks request.config = .ok groups → AllSpoken request.config groups

theorem measured_mergeSmallTail (measured : ∀ chunk ∈ chunks, chunk.Measured hashing config) :
    ∀ chunk ∈ mergeSmallTail hashing config chunks, chunk.Measured hashing config := by
  refine (forall_mergeSmallTail_iff measured).mpr fun earlier previous tail _ merges => ?_
  exact ⟨merges.2.2, rfl, rfl⟩

theorem forall_numbered_iff {Property : ChunkCandidate → Prop}
    (same : ∀ chunk index, Property (chunk.numberedAt index) ↔ Property chunk) :
    (∀ chunk ∈ numbered chunks, Property chunk) ↔ ∀ chunk ∈ chunks, Property chunk := by
  constructor
  · intro all chunk listed
    obtain ⟨index, isAt⟩ := List.mem_iff_getElem?.mp listed
    exact (same chunk index).mp (all _ (mem_numbered_iff.mpr ⟨chunk, index, isAt, rfl⟩))
  · intro all chunk listed
    obtain ⟨own, index, isAt, rfl⟩ := mem_numbered_iff.mp listed
    exact (same own index).mpr (all own (List.mem_of_getElem? isAt))

/-- The chunks of groups that fit are sound exactly if every group says something that is not
merged. -/
theorem sound_iff {groups : List (List Block)} {result : ChunkingResult}
    (of : List.Forall₂ (ChunkOf hashing) groups chunks)
    (measured : ∀ chunk ∈ chunks, chunk.Measured hashing config)
    (isResult : result.chunks = numbered (keptChunks hashing config chunks))
    (apart : ∀ text, hashing.sha256 text = hashing.sha256 [] → text = []) :
    result.Sound hashing config ↔ AllSpoken config groups := by
  have merged := measured_mergeSmallTail measured
  have kept : ∀ chunk ∈ keptChunks hashing config chunks, chunk.Measured hashing config :=
    fun chunk isKept => merged chunk (mem_of_uniqueFrom isKept)
  have spoken : (∀ chunk ∈ result.chunks, chunk.content ≠ []) ↔ AllSpoken config groups := by
    rw [isResult, forall_numbered_iff fun _ _ => Iff.rfl, keptChunks,
      forall_uniqueFrom_iff (fun chunk listed => (merged chunk listed).hashed) apart,
      allSpoken_iff of]
  refine ⟨fun sound => spoken.mp sound.spoken, fun all => ⟨spoken.mpr all, ?_, ?_⟩⟩
  · rw [isResult]
    exact (forall_numbered_iff fun _ _ => ⟨fun own => ⟨own.short, own.counted, own.hashed⟩,
      fun own => ⟨own.short, own.counted, own.hashed⟩⟩).mpr kept
  · have lengths : (numbered (keptChunks hashing config chunks)).length =
        (keptChunks hashing config chunks).length := by simp [numbered]
    rw [isResult, map_chunkIndex_numbered, lengths, List.range_eq_range']

/-- The chunks of groups are made where every group can be cited, each of its own group. -/
theorem collectCandidates_spec {groups : List (List Block)}
    (together : ∀ group ∈ groups, Together config group) :
    (Accepted (collectEach (fun (group, index) => candidateOf hashing request index group)
        groups.zipIdx) ↔ ∀ group ∈ groups, (locatorOf group).Bounded) ∧
      ∀ chunks, collectEach (fun (group, index) => candidateOf hashing request index group)
        groups.zipIdx = .ok chunks →
          List.Forall₂ (ChunkOf hashing) groups chunks ∧
            ∀ chunk ∈ chunks, chunk.Measured hashing config := by
  refine ⟨?_, fun chunks collected => ⟨?_, fun chunk listed => ?_⟩⟩
  · rw [accepted_collectEach_iff]
    constructor
    · intro each group listed
      obtain ⟨index, isAt⟩ := List.mem_iff_getElem?.mp listed
      have isEntry := List.mk_mem_zipIdx_iff_getElem?.mpr isAt
      exact exists_candidateOf_iff.mp (each (group, index) isEntry)
    · intro bounded entry listed
      exact exists_candidateOf_iff.mpr (bounded entry.1 (List.fst_mem_of_mem_zipIdx listed))
  · have each := collectEach_eq_ok_iff.mp collected
    rw [← @List.zipIdx_map_fst _ 0 groups, List.forall₂_map_left_iff]
    exact each.imp fun _ _ made => chunkOf_of_candidateOf made
  · obtain ⟨entry, isEntry, made⟩ := mem_of_collectEach collected listed
    exact (chunkOf_of_candidateOf made).measured
      (together entry.1 (List.fst_mem_of_mem_zipIdx isEntry))

/-- A document is chunked in steps: into blocks, groups of blocks, and a chunk of each group. -/
theorem chunkDocument_iff {result : ChunkingResult} :
    chunkDocument hashing request = .ok result ↔
      ∃ blocks, documentBlocks request.sections request.config = .ok blocks ∧ blocks ≠ [] ∧
        ∃ groups, groupBlocks blocks request.config = .ok groups ∧
          ∃ chunks, collectEach (fun (group, index) => candidateOf hashing request index group)
              groups.zipIdx = .ok chunks ∧
            { documentVersionId := request.documentVersionId
              configHash := hashing.configHash request.config
              strategyVersion := request.config.chunkingStrategyVersion
              chunks := numbered (keptChunks hashing request.config chunks) } = result := by
  simp only [chunkDocument, groupedChunks, bind_eq_ok_iff, exists_unit_iff, rejectIf_eq_ok_iff,
    pure_eq_ok_iff]
  constructor
  · rintro ⟨chunks, ⟨blocks, areBlocks, found, groups, areGroups, collected⟩, made⟩
    exact ⟨blocks, areBlocks, found, groups, areGroups, chunks, collected, made⟩
  · rintro ⟨blocks, areBlocks, found, groups, areGroups, chunks, collected, made⟩
    exact ⟨chunks, ⟨blocks, areBlocks, found, groups, areGroups, collected⟩, made⟩

/-- **Of sections with a text, whose headers leave room, chunking returns sound chunks exactly if
they are chunkable.** -/
theorem chunkDocument_sound_iff (hashing : Hashing) (request : ChunkingRequest)
    (worded : ∃ parsed ∈ request.sections, parsed.text.strip ≠ [])
    (headers : ∀ parsed ∈ request.sections, parsed.kind ∈ ["table", "sheet"] →
      ∀ header ∈ parsed.headerText, header.length < request.config.maxCharacters - 1)
    (apart : ∀ text, hashing.sha256 text = hashing.sha256 [] → text = []) :
    (∃ result, chunkDocument hashing request = .ok result ∧
        result.Sound hashing request.config) ↔ Chunkable request := by
  have room (parsed) (listed : parsed ∈ request.sections)
      (isTable : parsed.kind ∈ ["table", "sheet"]) :
      HeaderFits parsed.headerText request.config := by
    have bounds := request.config.maxBounds
    unfold HeaderFits
    cases headed : parsed.headerText with
    | none =>
        rw [Option.getD_none, List.length_nil]
        omega
    | some header =>
        have within := headers parsed listed isTable header headed
        rw [Option.getD_some]
        omega
  obtain ⟨blocks, areBlocks, fits, some_⟩ := documentBlocks_spec room
  have found : blocks ≠ [] := some_ (by simpa [strip_eq_nil_iff] using worded)
  obtain ⟨grouped, together⟩ := @groupFrom_spec request.config blocks [] (Nat.zero_le _)
  constructor
  · rintro ⟨result, returned, sound⟩
    obtain ⟨own, areOwn, -, groups, areGroups, chunks, collected, rfl⟩ :=
      chunkDocument_iff.mp returned
    obtain rfl := Except.ok.inj (areOwn.symm.trans areBlocks)
    obtain ⟨cited, each⟩ := @collectCandidates_spec _ hashing request groups
      (together groups areGroups)
    obtain ⟨of, measured⟩ := each chunks collected
    have same {others found : List _}
        (areOthers : documentBlocks request.sections request.config = .ok others)
        (areFound : groupBlocks others request.config = .ok found) : found = groups := by
      obtain rfl := Except.ok.inj (areOthers.symm.trans areBlocks)
      exact Except.ok.inj (areFound.symm.trans areGroups)
    refine ⟨fits.mp (grouped.mp ⟨groups, areGroups⟩), fun _ _ areOthers areFound => ?_,
      fun _ _ areOthers areFound => ?_⟩
    · rw [same areOthers areFound]
      exact cited.mp ⟨chunks, collected⟩
    · rw [same areOthers areFound]
      exact (sound_iff of measured rfl apart).mp sound
  · intro chunkable
    obtain ⟨groups, areGroups⟩ := grouped.mpr (fits.mpr chunkable.items)
    obtain ⟨cited, each⟩ := @collectCandidates_spec _ hashing request groups
      (together groups areGroups)
    obtain ⟨chunks, collected⟩ := cited.mpr (chunkable.cited blocks groups areBlocks areGroups)
    obtain ⟨of, measured⟩ := each chunks collected
    refine ⟨_, chunkDocument_iff.mpr ⟨blocks, areBlocks, found, groups, areGroups, chunks,
      collected, rfl⟩, ?_⟩
    exact (sound_iff of measured rfl apart).mpr
      (chunkable.spoken blocks groups areBlocks areGroups)

namespace Sample

/-- Digests that tell the empty text from the others. -/
def markedHashing : Hashing where
  sha256 text := ⟨(if text = [] then ['0'] else '1' :: text) ++ List.replicate 64 '0' |>.take 64,
    by simp⟩
  configHash _ := .repeated 'c'
  estimate text := if text = [] then 0 else max 1 ((text.length + 3) / 4)

theorem markedHashing_apart (text : Text)
    (same : markedHashing.sha256 text = markedHashing.sha256 []) : text = [] := by
  by_contra some_
  have first := congrArg (fun digest : Digest => digest.1.head?) same
  simp [markedHashing, some_] at first

/-- A table of one row under its header. -/
def tableRequest : ChunkingRequest :=
  requestFor
    [{ kind := "table"
       header := some ["Name".toList, "Age".toList]
       text := "Name | Age\nAda | 36".toList }]
    .standard

/-- A list whose first item has more than a hundred characters. -/
def longItemRequest : ChunkingRequest :=
  requestFor [{ text := "- ".toList ++ List.replicate 120 'a' ++ "\n- b".toList }] smallConfig

theorem longItemRequest_refused :
    (chunkDocument markedHashing longItemRequest).toOption.isSome = false := by
  decide +kernel

end Sample

theorem chunkDocument_sound_table :
    (∃ result, chunkDocument Sample.markedHashing Sample.tableRequest = .ok result ∧
        result.Sound Sample.markedHashing Sample.tableRequest.config) ↔
      Chunkable Sample.tableRequest :=
  chunkDocument_sound_iff Sample.markedHashing Sample.tableRequest
    ⟨_, List.mem_cons_self, by decide⟩ (by decide) Sample.markedHashing_apart

/-- An item of a list that is cut into pieces is refused with its document. -/
theorem not_chunkDocument_sound :
    ¬ ∀ (hashing : Hashing) (request : ChunkingRequest),
      (∃ parsed ∈ request.sections, parsed.text.strip ≠ []) →
      (∀ parsed ∈ request.sections, parsed.kind ∈ ["table", "sheet"] →
        ∀ header ∈ parsed.headerText, header.length < request.config.maxCharacters - 1) →
      (∀ text, hashing.sha256 text = hashing.sha256 [] → text = []) →
      ∃ result, chunkDocument hashing request = .ok result ∧
        result.Sound hashing request.config := by
  intro sound
  obtain ⟨result, returned, -⟩ := sound Sample.markedHashing Sample.longItemRequest
    ⟨_, List.mem_cons_self, by decide⟩ (by decide) Sample.markedHashing_apart
  have refused := Sample.longItemRequest_refused
  rw [returned] at refused
  exact Bool.noConfusion refused

end PolicyOS.Knowledge
