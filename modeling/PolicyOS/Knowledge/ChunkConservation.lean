import Mathlib.Data.List.Perm.Subperm
import Mathlib.Data.List.Pairwise
import PolicyOS.Knowledge.ChunkBlocks

/-!
# What chunking loses and repeats

Every block is in a group, and a group that is not overlap alone has one that no group before it
has. Chunks lose or repeat blocks where one is left out for its key, where the last one is merged
with blocks it shares, and where overlap alone is kept.
-/

namespace PolicyOS.Knowledge

open Foundation

variable {hashing : Hashing} {config : ChunkingConfig} {current rest seen : List PlacedBlock}
  {next placed : PlacedBlock} {groups later : List PlacedGroup} {group : PlacedGroup}

/-! ## Groups -/

/-- Every group that is not overlap alone has a block that neither was seen nor is in a group
before it. -/
def BringsNew (seen : List PlacedBlock) (groups : List PlacedGroup) : Prop :=
  ∀ before group after, groups = before ++ group :: after → group.overlapAlone = false →
    ∃ placed ∈ group.blocks, placed ∉ seen ∧ ∀ earlier ∈ before, placed ∉ earlier.blocks

theorem bringsNew_nil : BringsNew seen [] := by
  intro before group after split
  simp at split

theorem bringsNew_cons (new : group.overlapAlone = false → ∃ placed ∈ group.blocks, placed ∉ seen)
    (others : BringsNew (seen ++ group.blocks) later) : BringsNew seen (group :: later) := by
  intro before other after split notAlone
  cases before with
  | nil =>
      obtain ⟨rfl, -⟩ := List.cons.inj split
      obtain ⟨placed, isPlaced, unseen⟩ := new notAlone
      exact ⟨placed, isPlaced, unseen, fun _ isNone => absurd isNone List.not_mem_nil⟩
  | cons first before =>
      injection split with isFirst isLater
      obtain rfl := isFirst
      obtain ⟨placed, isPlaced, unseen, notEarlier⟩ := others before other after isLater notAlone
      rw [List.mem_append, not_or] at unseen
      exact ⟨placed, isPlaced, unseen.1, List.forall_mem_cons.mpr ⟨unseen.2, notEarlier⟩⟩

theorem BringsNew.of_subset {others : List PlacedBlock} (new : BringsNew seen groups)
    (subset : others ⊆ seen) : BringsNew others groups := by
  intro before group after split notAlone
  obtain ⟨placed, isPlaced, unseen, notEarlier⟩ := new before group after split notAlone
  exact ⟨placed, isPlaced, fun isOther => unseen (subset isOther), notEarlier⟩

/-- What is complete before a block brings its last block. -/
theorem BringsNew.closedPlaced (new : ∀ last ∈ current.getLast?, last ∉ seen)
    (others : BringsNew (seen ++ current) later) :
    BringsNew seen (closedPlaced config current next ++ later) := by
  have kept : seen ++ keptPlaced config current next ⊆ seen ++ current :=
    List.append_subset.mpr ⟨List.subset_append_left _ _, fun placed isKept =>
      List.mem_append_right _ (mem_of_keptPlaced isKept)⟩
  have whole (closes : closesBefore config (unplaced current) next.1) :
      ∃ placed ∈ current, placed ∉ seen := by
    have some : current ≠ [] := by
      rintro rfl
      simp [closesBefore] at closes
    have isLast := List.getLast?_eq_some_getLast some
    exact ⟨current.getLast some, List.getLast_mem some, new _ isLast⟩
  unfold Knowledge.closedPlaced
  dsimp only
  split_ifs with closes apart apart
  · refine bringsNew_cons (fun _ => whole closes) (bringsNew_cons (fun notAlone => ?_) ?_)
    · exact absurd notAlone (by simp)
    · refine others.of_subset fun placed isSeen => ?_
      rcases List.mem_append.mp isSeen with isSeen | isKept
      · exact isSeen
      · exact kept (List.mem_append_right _ isKept)
  · exact bringsNew_cons (fun _ => whole closes) others
  · exact bringsNew_cons (fun notAlone => absurd notAlone (by simp)) (others.of_subset kept)
  · exact others.of_subset (List.subset_append_left _ _)

theorem besidePlaced_sublist : (besidePlaced config current next).Sublist current := by
  unfold besidePlaced
  dsimp only
  split_ifs
  · exact List.nil_sublist _
  · exact List.drop_sublist _ _

theorem beside_append_sublist :
    (besidePlaced config current next ++ [next] ++ rest).Sublist (current ++ next :: rest) := by
  rw [List.append_assoc, List.singleton_append]
  exact besidePlaced_sublist.append (List.Sublist.refl _)

/-- The last block of the current group, and the blocks that follow, were not seen. -/
structure Unseen (seen current rest : List PlacedBlock) : Prop where
  distinct : (current ++ rest).Nodup
  last : ∀ last ∈ current.getLast?, last ∉ seen
  rest : ∀ placed ∈ rest, placed ∉ seen

theorem Unseen.step (unseen : Unseen seen current (next :: rest)) :
    Unseen (seen ++ current) (besidePlaced config current next ++ [next]) rest := by
  have notSeen (placed) (isRest : placed ∈ next :: rest) : placed ∉ seen ++ current := by
    rw [List.mem_append, not_or]
    refine ⟨unseen.rest placed isRest, fun inCurrent => ?_⟩
    exact (List.nodup_append.mp unseen.distinct).2.2 placed inCurrent placed isRest rfl
  refine ⟨beside_append_sublist.nodup unseen.distinct, fun last isLast => ?_,
    fun placed isOther => notSeen placed (List.mem_cons_of_mem _ isOther)⟩
  rw [List.getLast?_concat, Option.mem_def, Option.some.injEq] at isLast
  exact isLast ▸ notSeen next List.mem_cons_self

/-- **Every group that is not overlap alone brings a new block.** -/
theorem bringsNew_of_groupPlaced : ∀ {rest current seen : List PlacedBlock}
    {groups : List PlacedGroup}, groupPlaced config rest current = .ok groups →
      Unseen seen current rest → BringsNew seen groups := by
  intro rest
  induction rest with
  | nil =>
      rintro current seen groups ⟨⟩ unseen
      split_ifs with empty
      · exact bringsNew_nil
      · have isLast := List.getLast?_eq_some_getLast empty
        exact bringsNew_cons (fun _ => ⟨_, List.getLast_mem empty, unseen.last _ isLast⟩)
          bringsNew_nil
  | cons next others ih =>
      intro current seen groups made unseen
      obtain ⟨-, later, isLater, rfl⟩ := groupPlaced_cons_eq_ok_iff.mp made
      exact BringsNew.closedPlaced unseen.last (ih isLater unseen.step)

/-- Overlap alone follows the group it is of, and has a block of it that neither was seen nor is in
a group before that one. -/
def AloneAfter (seen : List PlacedBlock) (groups : List PlacedGroup) : Prop :=
  ∀ before group after, groups = before ++ group :: after → group.overlapAlone →
    ∃ earlier source, before = earlier ++ [source] ∧ source.overlapAlone = false ∧
      group.blocks ⊆ source.blocks ∧ ∃ placed ∈ group.blocks, placed ∉ seen ∧
        ∀ other ∈ earlier, placed ∉ other.blocks

theorem AloneAfter.of_subset {others : List PlacedBlock} (alone : AloneAfter seen groups)
    (subset : others ⊆ seen) : AloneAfter others groups := by
  intro before group after split isAlone
  obtain ⟨earlier, source, eq, whole, inSource, placed, isPlaced, unseen, notEarlier⟩ :=
    alone before group after split isAlone
  exact ⟨earlier, source, eq, whole, inSource, placed, isPlaced,
    fun isOther => unseen (subset isOther), notEarlier⟩

/-- A group that is whole changes nothing for those after it. -/
theorem AloneAfter.cons (whole : group.overlapAlone = false)
    (others : AloneAfter (seen ++ group.blocks) later) : AloneAfter seen (group :: later) := by
  intro before other after split isAlone
  cases before with
  | nil =>
      obtain ⟨rfl, -⟩ := List.cons.inj split
      exact absurd isAlone (by simp [whole])
  | cons first before =>
      injection split with isFirst isLater
      obtain rfl := isFirst
      obtain ⟨earlier, source, rfl, isWhole, inSource, placed, isPlaced, unseen, notEarlier⟩ :=
        others before other after isLater isAlone
      rw [List.mem_append, not_or] at unseen
      exact ⟨group :: earlier, source, rfl, isWhole, inSource, placed, isPlaced, unseen.1,
        List.forall_mem_cons.mpr ⟨unseen.2, notEarlier⟩⟩

/-- Overlap alone after the group it is of. -/
theorem AloneAfter.cons_cons {overlap : PlacedGroup} (whole : group.overlapAlone = false)
    (inGroup : overlap.blocks ⊆ group.blocks) (new : ∃ placed ∈ overlap.blocks, placed ∉ seen)
    (others : AloneAfter (seen ++ group.blocks) later) :
    AloneAfter seen (group :: overlap :: later) := by
  intro before other after split isAlone
  match before with
  | [] =>
      obtain ⟨rfl, -⟩ := List.cons.inj split
      exact absurd isAlone (by simp [whole])
  | [first] =>
      injection split with isFirst split
      obtain rfl := isFirst
      obtain ⟨rfl, -⟩ := List.cons.inj split
      obtain ⟨placed, isPlaced, unseen⟩ := new
      exact ⟨[], group, rfl, whole, inGroup, placed, isPlaced, unseen,
        fun _ isNone => absurd isNone List.not_mem_nil⟩
  | first :: second :: before =>
      injection split with isFirst split
      injection split with isSecond isLater
      obtain rfl := isFirst
      obtain rfl := isSecond
      obtain ⟨earlier, source, rfl, isWhole, inSource, placed, isPlaced, unseen, notEarlier⟩ :=
        others before other after isLater isAlone
      rw [List.mem_append, not_or] at unseen
      exact ⟨group :: overlap :: earlier, source, rfl, isWhole, inSource, placed, isPlaced,
        unseen.1, List.forall_mem_cons.mpr ⟨unseen.2, List.forall_mem_cons.mpr
          ⟨fun inOverlap => unseen.2 (inGroup inOverlap), notEarlier⟩⟩⟩

theorem closes_of_standsApart
    (apart : standsApart config (unplaced (keptPlaced config current next)) next.1) :
    closesBefore config (unplaced current) next.1 := by
  by_contra open_
  have whole : keptPlaced config current next = current := by
    rw [keptPlaced, keptBefore, if_neg open_, List.length_map, Nat.sub_self, List.drop_zero]
  rw [whole] at apart
  simp only [standsApart, Bool.and_eq_true, decide_eq_true_eq] at apart
  simp [closesBefore, apart.1, apart.2] at open_

/-- Every overlap alone follows the group it is of. -/
theorem aloneAfter_of_groupPlaced : ∀ {rest current seen : List PlacedBlock}
    {groups : List PlacedGroup}, groupPlaced config rest current = .ok groups →
      Unseen seen current rest → AloneAfter seen groups := by
  intro rest
  induction rest with
  | nil =>
      rintro current seen groups ⟨⟩ -
      have none : AloneAfter (seen ++ current) [] := fun before group after split => by
        simp at split
      split_ifs
      · exact none.of_subset (List.subset_append_left _ _)
      · exact AloneAfter.cons rfl none
  | cons next others ih =>
      intro current seen groups made unseen
      obtain ⟨-, later, isLater, rfl⟩ := groupPlaced_cons_eq_ok_iff.mp made
      have after : AloneAfter (seen ++ current) later := ih isLater unseen.step
      unfold closedPlaced
      dsimp only
      split_ifs with closes apart apart
      · refine AloneAfter.cons_cons rfl (fun placed => mem_of_keptPlaced) ?_ after
        have some : keptPlaced config current next ≠ [] := by
          intro none
          simp [none, standsApart] at apart
        have isLast : (keptPlaced config current next).getLast some =
            current.getLast (fun none => by simp [none, keptPlaced] at some) :=
          List.getLast_drop _
        refine ⟨_, List.getLast_mem some, unseen.last _ ?_⟩
        rw [isLast]
        exact List.getLast?_eq_some_getLast _
      · exact AloneAfter.cons rfl after
      · exact absurd (closes_of_standsApart apart) closes
      · exact after.of_subset (List.subset_append_left _ _)

/-- A group has a block once. -/
theorem nodup_of_groupPlaced : ∀ {rest current : List PlacedBlock} {groups : List PlacedGroup},
    groupPlaced config rest current = .ok groups → (current ++ rest).Nodup →
      ∀ group ∈ groups, group.blocks.Nodup := by
  intro rest
  induction rest with
  | nil =>
      rintro current groups ⟨⟩ distinct group listed
      split_ifs at listed
      · exact absurd listed List.not_mem_nil
      · rw [List.mem_singleton.mp listed]
        exact (List.nodup_append.mp distinct).1
  | cons next others ih =>
      intro current groups made distinct group listed
      obtain ⟨-, later, isLater, rfl⟩ := groupPlaced_cons_eq_ok_iff.mp made
      have own := (List.nodup_append.mp distinct).1
      rcases List.mem_append.mp listed with closed | isLast
      · rcases mem_closedPlaced_iff.mp closed with ⟨-, rfl⟩ | ⟨-, rfl⟩
        · exact own
        · exact own.sublist (List.drop_sublist _ _)
      · exact ih isLater (beside_append_sublist.nodup distinct) group isLast

/-- A block of the current group is in a group that is complete, or beside the next block. -/
theorem mem_closed_or_beside (isCurrent : placed ∈ current) :
    (∃ group ∈ closedPlaced config current next, placed ∈ group.blocks) ∨
      placed ∈ besidePlaced config current next := by
  by_cases closes : closesBefore config (unplaced current) next.1
  · exact .inl ⟨_, mem_closedPlaced_iff.mpr (.inl ⟨closes, rfl⟩), isCurrent⟩
  · have whole : keptPlaced config current next = current := by
      rw [keptPlaced, keptBefore, if_neg closes, List.length_map, Nat.sub_self, List.drop_zero]
    by_cases apart : standsApart config (unplaced (keptPlaced config current next)) next.1
    · exact .inl ⟨_, mem_closedPlaced_iff.mpr (.inr ⟨apart, rfl⟩), whole.symm ▸ isCurrent⟩
    · refine .inr ?_
      unfold besidePlaced
      dsimp only
      rw [if_neg apart, whole]
      exact isCurrent

/-- **Every block is in a group.** -/
theorem exists_of_groupPlaced : ∀ {rest current : List PlacedBlock} {groups : List PlacedGroup},
    groupPlaced config rest current = .ok groups → ∀ placed ∈ current ++ rest,
      ∃ group ∈ groups, placed ∈ group.blocks := by
  intro rest
  induction rest with
  | nil =>
      rintro current groups ⟨⟩ placed isPlaced
      rw [List.append_nil] at isPlaced
      rw [if_neg (List.ne_nil_of_mem isPlaced)]
      exact ⟨_, List.mem_singleton_self _, isPlaced⟩
  | cons next others ih =>
      intro current groups made placed isPlaced
      obtain ⟨-, later, isLater, rfl⟩ := groupPlaced_cons_eq_ok_iff.mp made
      have inLater (listed : placed ∈ besidePlaced config current next ++ [next] ++ others) :
          ∃ group ∈ closedPlaced config current next ++ later, placed ∈ group.blocks := by
        obtain ⟨group, isGroup, inGroup⟩ := ih isLater placed listed
        exact ⟨group, List.mem_append_right _ isGroup, inGroup⟩
      rcases List.mem_append.mp isPlaced with isCurrent | isRest
      · rcases mem_closed_or_beside isCurrent with ⟨group, isClosed, inGroup⟩ | beside
        · exact ⟨group, List.mem_append_left _ isClosed, inGroup⟩
        · exact inLater (List.mem_append_left _ (List.mem_append_left _ beside))
      · refine inLater ?_
        rw [List.append_assoc, List.singleton_append]
        exact List.mem_append_right _ isRest

/-- Groups have no other blocks. -/
theorem mem_of_groupPlaced : ∀ {rest current : List PlacedBlock} {groups : List PlacedGroup},
    groupPlaced config rest current = .ok groups → ∀ group ∈ groups, ∀ placed ∈ group.blocks,
      placed ∈ current ++ rest := by
  intro rest
  induction rest with
  | nil =>
      rintro current groups ⟨⟩ group listed placed isPlaced
      split_ifs at listed
      · exact absurd listed List.not_mem_nil
      · rw [List.mem_singleton.mp listed] at isPlaced
        exact List.mem_append_left _ isPlaced
  | cons next others ih =>
      intro current groups made group listed placed isPlaced
      obtain ⟨-, later, isLater, rfl⟩ := groupPlaced_cons_eq_ok_iff.mp made
      rcases List.mem_append.mp listed with closed | isLast
      · rcases mem_closedPlaced_iff.mp closed with ⟨-, rfl⟩ | ⟨-, rfl⟩
        · exact List.mem_append_left _ isPlaced
        · exact List.mem_append_left _ (mem_of_keptPlaced isPlaced)
      · exact beside_append_sublist.subset (ih isLater group isLast placed isPlaced)

/-- The last group is not overlap alone. -/
theorem last_of_groupPlaced : ∀ {rest current : List PlacedBlock} {groups : List PlacedGroup},
    groupPlaced config rest current = .ok groups →
      ∀ group ∈ groups.getLast?, group.overlapAlone = false := by
  intro rest
  induction rest with
  | nil =>
      rintro current groups ⟨⟩ group isLast
      split_ifs at isLast
      · simp at isLast
      · obtain rfl : _ = group := by simpa using isLast
        rfl
  | cons next others ih =>
      intro current groups made group isLast
      obtain ⟨-, later, isLater, rfl⟩ := groupPlaced_cons_eq_ok_iff.mp made
      have some : later ≠ [] := by
        rintro rfl
        obtain ⟨_, isNone, -⟩ := exists_of_groupPlaced isLater next (by simp)
        exact absurd isNone List.not_mem_nil
      rw [List.getLast?_append_of_ne_nil _ some] at isLast
      exact ih isLater group isLast

/-- Without an overlap the groups have the blocks in order, each once. -/
theorem flatMap_of_groupPlaced (none : config.overlapCharacters = 0) :
    ∀ {rest current : List PlacedBlock} {groups : List PlacedGroup},
      groupPlaced config rest current = .ok groups →
        groups.flatMap (·.blocks) = current ++ rest := by
  intro rest
  induction rest with
  | nil =>
      rintro current groups ⟨⟩
      split_ifs with empty
      · rw [empty]
        rfl
      · simp
  | cons next others ih =>
      intro current groups made
      obtain ⟨-, later, isLater, rfl⟩ := groupPlaced_cons_eq_ok_iff.mp made
      have before : (closedPlaced config current next).flatMap (·.blocks) ++
          besidePlaced config current next = current := by
        by_cases closes : closesBefore config (unplaced current) next.1
        · have nothing : keptPlaced config current next = [] := by
            have kept : keptBefore config (unplaced current) next.1 = [] := by
              rw [keptBefore, if_pos closes, overlapTail, if_pos none, ite_self]
            rw [keptPlaced, kept, List.length_nil, Nat.sub_zero, List.drop_length]
          simp [closedPlaced, besidePlaced, closes, nothing, standsApart]
        · have whole : keptPlaced config current next = current := by
            rw [keptPlaced, keptBefore, if_neg closes, List.length_map, Nat.sub_self,
              List.drop_zero]
          unfold closedPlaced besidePlaced
          dsimp only
          rw [whole, if_neg closes]
          split_ifs
          · simp
          · simp
      rw [List.flatMap_append, ih isLater, List.append_assoc, ← List.append_assoc, before]
      rfl

/-! ## Contents -/

/-- A text without its white space. -/
def solid (text : Text) : Text := text.filter fun char => !Text.isSpace char

theorem solid_append {first second : Text} : solid (first ++ second) = solid first ++ solid second :=
  List.filter_append ..

theorem solid_dropWhile {text : Text} : solid (text.dropWhile Text.isSpace) = solid text := by
  induction text with
  | nil => rfl
  | cons char rest ih =>
      by_cases space : Text.isSpace char
      · rw [List.dropWhile_cons_of_pos space, ih, solid, solid, List.filter_cons_of_neg (by simpa)]
      · rw [List.dropWhile_cons_of_neg space]

theorem solid_reverse {text : Text} : solid text.reverse = (solid text).reverse :=
  List.filter_reverse ..

theorem solid_strip {text : Text} : solid text.strip = solid text := by
  rw [Text.strip, solid_reverse, solid_dropWhile, solid_reverse, List.reverse_reverse,
    solid_dropWhile]

theorem solid_join {separator : Text} (space : solid separator = []) :
    ∀ {texts : List Text}, solid (Text.join separator texts) = solid texts.flatten := by
  intro texts
  unfold Text.join
  induction texts with
  | nil => rfl
  | cons first rest ih =>
      cases rest with
      | nil => rfl
      | cons second others =>
          rw [List.intersperse_cons_cons, List.flatten_cons, List.flatten_cons, solid_append,
            solid_append, space, ih, List.nil_append, ← solid_append, ← List.flatten_cons]

theorem solid_joinBlocks {blocks : List Block} :
    solid (joinBlocks blocks) = solid (blocks.flatMap (·.text)) := by
  rw [joinBlocks, solid_strip, solid_join (by decide), List.flatMap_def]

/-! ## Chunks of groups -/

/-- The groups of a document, as chunks: what they have of its blocks. -/
structure GroupsOf (config : ChunkingConfig) (blocks : List Block) (grouped : List HeldChunk) :
    Prop where
  some : ∀ held ∈ grouped, held.blocks ≠ []
  distinct : ∀ held ∈ grouped, held.blocks.Nodup
  new : BringsNew [] (grouped.map (·.toPlacedGroup))
  alone : AloneAfter [] (grouped.map (·.toPlacedGroup))
  complete : ∀ placed ∈ blocks.zipIdx, ∃ held ∈ grouped, placed ∈ held.blocks
  sound : ∀ held ∈ grouped, ∀ placed ∈ held.blocks, placed ∈ blocks.zipIdx
  last : ∀ held ∈ grouped.getLast?, held.overlapAlone = false
  inOrder : config.overlapCharacters = 0 → grouped.flatMap (·.blocks) = blocks.zipIdx
  content : ∀ held ∈ grouped,
    solid held.chunk.content = solid (held.blocks.flatMap (·.1.text))

theorem nodup_zipIdx {blocks : List Block} {first : Nat} : (blocks.zipIdx first).Nodup := by
  have places : ((blocks.zipIdx first).map Prod.snd).Nodup := by
    rw [List.zipIdx_map_snd]
    exact List.nodup_range'
  exact List.Nodup.of_map _ places

theorem groupsOf_groupedHeld {request : ChunkingRequest} {grouped : List HeldChunk}
    (isGrouped : groupedHeld hashing request = .ok grouped) :
    ∃ blocks, documentBlocks request.sections request.config = .ok blocks ∧
      GroupsOf request.config blocks grouped := by
  obtain ⟨blocks, areBlocks, -, groups, areGroups, made⟩ := groupedHeld_eq_ok_iff.mp isGrouped
  obtain rfl := map_group_of_held made
  have isGroup {held : HeldChunk} (isHeld : held ∈ grouped) :
      held.toPlacedGroup ∈ grouped.map (·.toPlacedGroup) := List.mem_map_of_mem isHeld
  have unseen : Unseen [] [] blocks.zipIdx := ⟨nodup_zipIdx, by simp, by simp⟩
  refine ⟨blocks, areBlocks, fun held isHeld => ne_nil_of_groupPlaced areGroups _ (isGroup isHeld),
    fun held isHeld => nodup_of_groupPlaced areGroups nodup_zipIdx _ (isGroup isHeld),
    bringsNew_of_groupPlaced areGroups unseen, aloneAfter_of_groupPlaced areGroups unseen,
    fun placed isPlaced => ?_,
    fun held isHeld => mem_of_groupPlaced areGroups _ (isGroup isHeld), fun held isLast => ?_,
    fun none => ?_, fun held isHeld => ?_⟩
  · obtain ⟨group, listed, inGroup⟩ := exists_of_groupPlaced areGroups placed isPlaced
    obtain ⟨held, isHeld, rfl⟩ := List.mem_map.mp listed
    exact ⟨held, isHeld, inGroup⟩
  · refine last_of_groupPlaced areGroups held.toPlacedGroup ?_
    rw [List.getLast?_map, isLast]
    rfl
  · have ordered := flatMap_of_groupPlaced none areGroups
    rwa [List.flatMap_map] at ordered
  · obtain ⟨⟨group, index⟩, -, isMade⟩ :=
      mem_of_collectEach (collectEach_eq_ok_iff.mpr made) isHeld
    obtain ⟨rfl, candidate⟩ := heldOf_eq_ok_iff.mp isMade
    obtain ⟨bounded, isChunk⟩ := buildChecked_eq_ok_iff.mp candidate
    rw [← isChunk]
    refine solid_joinBlocks.trans ?_
    rw [PlacedGroup.group, List.flatMap_map]

/-! ## Chunks after merging -/

section Merged

variable {blocks : List Block} {grouped : List HeldChunk} {held : HeldChunk}

theorem eq_append_singleton {α : Type} {before after earlier : List α} {item last : α}
    (split : earlier ++ [last] = before ++ item :: after) :
    before = earlier ∧ item = last ∨ ∃ others, earlier = before ++ item :: others := by
  rcases List.eq_nil_or_concat after with rfl | ⟨others, other, rfl⟩
  · obtain ⟨same, isLast⟩ := List.append_inj' split rfl
    exact .inl ⟨same.symm, (List.cons.inj isLast).1.symm⟩
  · rw [List.concat_eq_append, ← List.cons_append, ← List.append_assoc] at split
    exact .inr ⟨others, (List.append_inj' split rfl).1⟩

/-- A merged chunk brings what the last one brought. -/
theorem BringsNew.mergeHeld (new : BringsNew [] (grouped.map (·.toPlacedGroup)))
    (last : ∀ held ∈ grouped.getLast?, held.overlapAlone = false) :
    BringsNew [] ((mergeHeld hashing config grouped).map (·.toPlacedGroup)) := by
  rcases mergeHeld_cases hashing config grouped with
    ⟨earlier, previous, tail, rfl, -, eq⟩ | ⟨eq, -⟩
  · have lastNew : tail.overlapAlone = false := last tail (by simp)
    rw [eq, List.map_append]
    rw [List.map_append] at new
    intro before group after split notAlone
    rcases eq_append_singleton split with ⟨rfl, rfl⟩ | ⟨others, split⟩
    · have ordered : earlier.map (·.toPlacedGroup) ++ [previous, tail].map (·.toPlacedGroup) =
          (earlier.map (·.toPlacedGroup) ++ [previous.toPlacedGroup]) ++ tail.toPlacedGroup :: [] := by
        simp
      obtain ⟨placed, isPlaced, -, notEarlier⟩ := new _ _ _ ordered lastNew
      exact ⟨placed, List.mem_append_right _ isPlaced, List.not_mem_nil, fun other isOther =>
        notEarlier other (List.mem_append_left _ isOther)⟩
    · rw [split, List.append_assoc, List.cons_append] at new
      exact new before group _ rfl notAlone
  · rw [eq]
    exact new

/-- A merged chunk is not overlap alone. -/
theorem AloneAfter.mergeHeld (alone : AloneAfter [] (grouped.map (·.toPlacedGroup))) :
    AloneAfter [] ((mergeHeld hashing config grouped).map (·.toPlacedGroup)) := by
  rcases mergeHeld_cases hashing config grouped with
    ⟨earlier, previous, tail, rfl, -, eq⟩ | ⟨eq, -⟩
  · rw [eq, List.map_append]
    rw [List.map_append] at alone
    intro before group after split isAlone
    rcases eq_append_singleton split with ⟨-, rfl⟩ | ⟨others, split⟩
    · exact absurd isAlone (by simp [HeldChunk.merged])
    · rw [split, List.append_assoc, List.cons_append] at alone
      exact alone before group _ rfl isAlone
  · rw [eq]
    exact alone

/-- A chunk is one of the groups', or the merged one. -/
theorem mem_mergeHeld (isHeld : held ∈ mergeHeld hashing config grouped) :
    held ∈ grouped ∨ ∃ earlier previous tail, grouped = earlier ++ [previous, tail] ∧
      tailMerges hashing config previous.chunk tail.chunk ∧
        held = HeldChunk.merged hashing previous tail := by
  rcases mergeHeld_cases hashing config grouped with
    ⟨earlier, previous, tail, rfl, merges, eq⟩ | ⟨eq, -⟩
  · rw [eq, List.mem_append, List.mem_singleton] at isHeld
    rcases isHeld with isEarlier | rfl
    · exact .inl (List.mem_append_left _ isEarlier)
    · exact .inr ⟨earlier, previous, tail, rfl, merges, rfl⟩
  · exact .inl (eq ▸ isHeld)

theorem flatMap_mergeHeld :
    (mergeHeld hashing config grouped).flatMap (·.blocks) = grouped.flatMap (·.blocks) := by
  rcases mergeHeld_cases hashing config grouped with
    ⟨earlier, previous, tail, rfl, -, eq⟩ | ⟨eq, -⟩
  · rw [eq, List.flatMap_append, List.flatMap_append]
    simp [HeldChunk.merged]
  · rw [eq]

theorem exists_mergeHeld_iff :
    (∃ held ∈ mergeHeld hashing config grouped, placed ∈ held.blocks) ↔
      ∃ held ∈ grouped, placed ∈ held.blocks := by
  rw [← List.mem_flatMap, flatMap_mergeHeld, List.mem_flatMap]

/-- A merged chunk has the content of its blocks, if the others have. -/
theorem content_mergeHeld
    (content : ∀ held ∈ grouped, solid held.chunk.content = solid (held.blocks.flatMap (·.1.text)))
    (isHeld : held ∈ mergeHeld hashing config grouped) :
    solid held.chunk.content = solid (held.blocks.flatMap (·.1.text)) := by
  rcases mem_mergeHeld isHeld with isGrouped | ⟨earlier, previous, tail, rfl, -, rfl⟩
  · exact content held isGrouped
  · have first := content previous (by simp)
    have last := content tail (by simp)
    rw [HeldChunk.merged, List.flatMap_append, solid_append, ← first, ← last]
    simp only [mergeInto, solid_append]
    rw [show solid ['\n', '\n'] = [] by decide, List.append_nil]

end Merged

/-! ## Conservation -/

/-- Chunks have every block of a document, none twice in one chunk, a new one in each chunk, and
without an overlap their contents are the blocks in order. -/
structure Conserves (config : ChunkingConfig) (blocks : List Block) (kept : List HeldChunk) :
    Prop where
  complete : ∀ placed ∈ blocks.zipIdx, ∃ held ∈ kept, placed ∈ held.blocks
  once : ∀ held ∈ kept, held.blocks.Nodup
  new : ∀ before held after, kept = before ++ held :: after →
    ∃ placed ∈ held.blocks, ∀ earlier ∈ before, placed ∉ earlier.blocks
  inOrder : config.overlapCharacters = 0 →
    solid (kept.flatMap (·.chunk.content)) = solid (blocks.flatMap (·.text))

/-- What a chunk that is left out for its key has is in another chunk, the last chunk is not merged
with blocks it shares, and overlap alone is not kept beside the chunk it is of. -/
structure Undamaged (hashing : Hashing) (config : ChunkingConfig) (grouped : List HeldChunk) :
    Prop where
  leftOut : ∀ held ∈ mergeHeld hashing config grouped, held ∉ keptHeld hashing config grouped →
    ∀ placed ∈ held.blocks, ∃ other ∈ keptHeld hashing config grouped, placed ∈ other.blocks
  tail : ∀ earlier previous tail, grouped = earlier ++ [previous, tail] →
    tailMerges hashing config previous.chunk tail.chunk → previous.blocks.Disjoint tail.blocks
  alone : ∀ before source held after,
    mergeHeld hashing config grouped = before ++ source :: held :: after → held.overlapAlone →
      held ∈ keptHeld hashing config grouped → source ∉ keptHeld hashing config grouped

section Kept

variable {blocks : List Block} {grouped chunks : List HeldChunk} {held : HeldChunk}

theorem exists_split_of_sublist {α : Type} {before after items : List α} {item : α}
    (sublist : (before ++ item :: after).Sublist items) :
    ∃ earlier later, items = earlier ++ item :: later ∧ before.Sublist earlier ∧
      after.Sublist later := by
  obtain ⟨first, second, rfl, inFirst, inSecond⟩ := List.append_sublist_iff.mp sublist
  obtain ⟨third, fourth, rfl, isItem, inFourth⟩ := List.cons_sublist_iff.mp inSecond
  obtain ⟨early, late, rfl⟩ := List.append_of_mem isItem
  refine ⟨first ++ early, late ++ fourth, by simp, ?_, ?_⟩
  · exact inFirst.trans (List.sublist_append_left _ _)
  · exact inFourth.trans (List.sublist_append_right _ _)

theorem exists_new (new : BringsNew [] (chunks.map (·.toPlacedGroup)))
    {before after : List HeldChunk} (split : chunks = before ++ held :: after)
    (whole : held.overlapAlone = false) :
    ∃ placed ∈ held.blocks, ∀ earlier ∈ before, placed ∉ earlier.blocks := by
  have groups : chunks.map (·.toPlacedGroup) =
      before.map (·.toPlacedGroup) ++ held.toPlacedGroup :: after.map (·.toPlacedGroup) := by
    rw [split, List.map_append, List.map_cons]
  obtain ⟨placed, isPlaced, -, notEarlier⟩ := new _ _ _ groups whole
  exact ⟨placed, isPlaced, fun earlier isEarlier => notEarlier _ (List.mem_map_of_mem isEarlier)⟩

/-- A chunk of overlap alone follows the one it is of. -/
theorem exists_source (alone : AloneAfter [] (chunks.map (·.toPlacedGroup)))
    {before after : List HeldChunk} (split : chunks = before ++ held :: after)
    (isAlone : held.overlapAlone) :
    ∃ earlier source, before = earlier ++ [source] ∧ source.overlapAlone = false ∧
      held.blocks ⊆ source.blocks ∧
        ∃ placed ∈ held.blocks, ∀ other ∈ earlier, placed ∉ other.blocks := by
  have groups : chunks.map (·.toPlacedGroup) =
      before.map (·.toPlacedGroup) ++ held.toPlacedGroup :: after.map (·.toPlacedGroup) := by
    rw [split, List.map_append, List.map_cons]
  obtain ⟨earlier, source, eq, whole, inSource, placed, isPlaced, -, notEarlier⟩ :=
    alone _ _ _ groups isAlone
  obtain ⟨others, last, rfl, rfl, isLast⟩ := List.map_eq_append_iff.mp eq
  obtain ⟨other, rfl, rfl⟩ := List.map_eq_singleton_iff.mp isLast
  exact ⟨others, other, rfl, whole, inSource, placed, isPlaced, fun other isOther =>
    notEarlier _ (List.mem_map_of_mem isOther)⟩

/-- No chunk is there twice. -/
theorem nodup_of_new (new : BringsNew [] (chunks.map (·.toPlacedGroup)))
    (alone : AloneAfter [] (chunks.map (·.toPlacedGroup))) : chunks.Nodup := by
  rw [List.nodup_iff_sublist]
  intro held twice
  obtain ⟨before, after, split, first, -⟩ :=
    @exists_split_of_sublist _ [held] [] chunks held twice
  have isBefore : held ∈ before := first.subset (List.mem_singleton_self held)
  cases flag : held.overlapAlone with
  | false =>
      obtain ⟨placed, isPlaced, notEarlier⟩ := exists_new new split flag
      exact notEarlier held isBefore isPlaced
  | true =>
      obtain ⟨earlier, source, rfl, whole, -, placed, isPlaced, notEarlier⟩ :=
        exists_source alone split flag
      rcases List.mem_append.mp isBefore with isEarlier | isSource
      · exact notEarlier held isEarlier isPlaced
      · rw [List.mem_singleton.mp isSource, whole] at flag
        exact Bool.false_ne_true flag

theorem solid_flatMap_content
    (content : ∀ held ∈ chunks, solid held.chunk.content = solid (held.blocks.flatMap (·.1.text))) :
    solid (chunks.flatMap (·.chunk.content)) =
      solid ((chunks.flatMap (·.blocks)).flatMap (·.1.text)) := by
  induction chunks with
  | nil => rfl
  | cons first rest ih =>
      rw [List.flatMap_cons, List.flatMap_cons, List.flatMap_append, solid_append, solid_append,
        content first List.mem_cons_self,
        ih fun held isHeld => content held (List.mem_cons_of_mem _ isHeld)]

/-- Chunks without common blocks are all kept, if the blocks of those left out are kept. -/
theorem keptHeld_eq_mergeHeld (undamaged : Undamaged hashing config grouped)
    (some : ∀ held ∈ mergeHeld hashing config grouped, held.blocks ≠ [])
    (distinct : ((mergeHeld hashing config grouped).flatMap (·.blocks)).Nodup)
    (once : (mergeHeld hashing config grouped).Nodup) :
    keptHeld hashing config grouped = mergeHeld hashing config grouped := by
  have sublist : (keptHeld hashing config grouped).Sublist (mergeHeld hashing config grouped) :=
    uniqueHeld_sublist
  have all : mergeHeld hashing config grouped ⊆ keptHeld hashing config grouped := by
    intro held isHeld
    by_contra leftOut
    obtain ⟨placed, isPlaced⟩ := List.exists_mem_of_ne_nil _ (some held isHeld)
    obtain ⟨other, isOther, inOther⟩ := undamaged.leftOut held isHeld leftOut placed isPlaced
    have apart : held ≠ other := fun same => leftOut (same ▸ isOther)
    have symmetric : Std.Symm (Function.onFun List.Disjoint fun held : HeldChunk => held.blocks) :=
      ⟨fun _ _ => List.Disjoint.symm⟩
    exact (List.nodup_flatMap.mp distinct).2.forall isHeld (sublist.subset isOther) apart
      isPlaced inOther
  exact sublist.eq_of_length_le (List.Subperm.length_le (List.Nodup.subperm once all))

/-- A chunk that is merged has no block twice only if the two it is made of share none. -/
theorem disjoint_of_merged (of : GroupsOf config blocks grouped) {earlier : List HeldChunk}
    {previous tail : HeldChunk} (split : grouped = earlier ++ [previous, tail])
    (merges : tailMerges hashing config previous.chunk tail.chunk)
    (conserves : Conserves config blocks (keptHeld hashing config grouped)) :
    previous.blocks.Disjoint tail.blocks := by
  have merged : mergeHeld hashing config grouped =
      earlier ++ [HeldChunk.merged hashing previous tail] := by
    rcases mergeHeld_cases hashing config grouped with
      ⟨first, second, third, other, -, eq⟩ | ⟨-, apart⟩
    · obtain ⟨rfl, same⟩ := List.append_inj' (other.symm.trans split) rfl
      obtain ⟨rfl, sameTail⟩ := List.cons.inj same
      obtain rfl := (List.cons.inj sameTail).1
      exact eq
    · exact absurd merges (apart earlier previous tail split)
  subst split
  -- The last block of the document is in no other chunk than the merged one.
  obtain ⟨placed, isPlaced, notEarlier⟩ := exists_new of.new
    (List.append_cons earlier previous [tail]) (of.last tail (by simp))
  obtain ⟨held, isKept, inHeld⟩ := conserves.complete placed (of.sound tail (by simp) placed isPlaced)
  have isMerged : held ∈ mergeHeld hashing config (earlier ++ [previous, tail]) :=
    uniqueHeld_sublist.subset isKept
  rw [merged, List.mem_append, List.mem_singleton] at isMerged
  rcases isMerged with isEarlier | rfl
  · exact absurd inHeld (notEarlier held (List.mem_append_left _ isEarlier))
  · exact List.disjoint_of_nodup_append (conserves.once _ isKept)

/-- **Chunks conserve the blocks exactly where nothing is damaged.** -/
theorem conserves_iff (of : GroupsOf config blocks grouped) :
    Conserves config blocks (keptHeld hashing config grouped) ↔
      Undamaged hashing config grouped := by
  have sublist : (keptHeld hashing config grouped).Sublist (mergeHeld hashing config grouped) :=
    uniqueHeld_sublist
  have new : BringsNew [] ((mergeHeld hashing config grouped).map (·.toPlacedGroup)) :=
    of.new.mergeHeld of.last
  have alone : AloneAfter [] ((mergeHeld hashing config grouped).map (·.toPlacedGroup)) :=
    of.alone.mergeHeld
  constructor
  · intro conserves
    refine ⟨fun held isHeld _ placed isPlaced => ?_, fun earlier previous tail split merges => ?_,
      fun before source held after split isAlone isKept sourceKept => ?_⟩
    · obtain ⟨other, isOther, inOther⟩ := exists_mergeHeld_iff.mp ⟨held, isHeld, isPlaced⟩
      exact conserves.complete placed (of.sound other isOther placed inOther)
    · exact disjoint_of_merged of split merges conserves
    · -- A chunk before the overlap it has leaves it nothing new; none comes after it again.
      obtain ⟨first, other, same, whole, inSource, -⟩ :=
        exists_source alone (split.trans (List.append_cons before source (held :: after))) isAlone
      obtain ⟨rfl, sameSource⟩ := List.append_inj' same rfl
      obtain rfl := (List.cons.inj sameSource).1
      obtain ⟨early, late, eq⟩ := List.append_of_mem isKept
      obtain ⟨placed, isPlaced, notEarlier⟩ := conserves.new early held late eq
      rw [eq, List.mem_append, List.mem_cons] at sourceKept
      rcases sourceKept with isEarly | rfl | isLate
      · exact notEarlier source isEarly (inSource isPlaced)
      · rw [whole] at isAlone
        exact Bool.false_ne_true isAlone
      · obtain ⟨earlier, later, chunks, -, inLater⟩ := exists_split_of_sublist (eq ▸ sublist)
        have once := nodup_of_new new alone
        rw [split, List.append_cons, List.nodup_append, List.nodup_cons] at once
        obtain ⟨-, ⟨notAfter, -⟩, apart⟩ := once
        have notBefore : held ∉ before ++ [source] := fun isBefore =>
          apart held isBefore held List.mem_cons_self rfl
        have both := split.symm.trans chunks
        rw [List.append_cons, List.append_cons_inj_of_notMem notBefore notAfter] at both
        have isAfter : source ∈ after := both.2.2 ▸ inLater.subset isLate
        exact apart source (by simp) source (List.mem_cons_of_mem held isAfter) rfl
  · intro undamaged
    refine ⟨fun placed isPlaced => ?_, fun held isKept => ?_, fun before held after split => ?_,
      fun none => ?_⟩
    · obtain ⟨held, isHeld, inHeld⟩ := exists_mergeHeld_iff.mpr (of.complete placed isPlaced)
      by_cases isKept : held ∈ keptHeld hashing config grouped
      · exact ⟨held, isKept, inHeld⟩
      · exact undamaged.leftOut held isHeld isKept placed inHeld
    · rcases mem_mergeHeld (sublist.subset isKept) with
        isGrouped | ⟨earlier, previous, tail, rfl, merges, rfl⟩
      · exact of.distinct held isGrouped
      · exact List.Nodup.append (of.distinct previous (by simp)) (of.distinct tail (by simp))
          (undamaged.tail earlier previous tail rfl merges)
    · obtain ⟨earlier, later, chunks, inEarlier, -⟩ := exists_split_of_sublist (split ▸ sublist)
      cases flag : held.overlapAlone with
      | false =>
          obtain ⟨placed, isPlaced, notEarlier⟩ := exists_new new chunks flag
          exact ⟨placed, isPlaced, fun other isOther => notEarlier other (inEarlier.subset isOther)⟩
      | true =>
          obtain ⟨first, source, rfl, whole, inSource, placed, isPlaced, notEarlier⟩ :=
            exists_source alone chunks flag
          have isKept : held ∈ keptHeld hashing config grouped := by
            rw [split]
            exact List.mem_append_right _ List.mem_cons_self
          refine ⟨placed, isPlaced, fun other isOther => ?_⟩
          rcases List.mem_append.mp (inEarlier.subset isOther) with isFirst | isSource
          · exact notEarlier other isFirst
          · rw [List.append_assoc, List.singleton_append] at chunks
            refine absurd ?_ (undamaged.alone first source held later chunks flag isKept)
            rw [← List.mem_singleton.mp isSource, split]
            exact List.mem_append_left _ isOther
    · have ordered : (mergeHeld hashing config grouped).flatMap (·.blocks) = blocks.zipIdx :=
        flatMap_mergeHeld.trans (of.inOrder none)
      have some (held) (isHeld : held ∈ mergeHeld hashing config grouped) : held.blocks ≠ [] := by
        rcases mem_mergeHeld isHeld with isGrouped | ⟨earlier, previous, tail, rfl, -, rfl⟩
        · exact of.some held isGrouped
        · exact fun empty => of.some previous (by simp) (List.append_eq_nil_iff.mp empty).1
      have all := keptHeld_eq_mergeHeld undamaged some (ordered ▸ nodup_zipIdx)
        (nodup_of_new new alone)
      rw [all, solid_flatMap_content fun held => content_mergeHeld of.content, ordered]
      rw [← List.flatMap_map, List.zipIdx_map_fst]

end Kept

/-- **Where a document is chunked, its blocks are conserved exactly if nothing is damaged.** -/
theorem chunkDocument_conserves_iff (hashing : Hashing) (request : ChunkingRequest)
    (result : ChunkingResult) (returned : chunkDocument hashing request = .ok result) :
    ∃ blocks grouped, documentBlocks request.sections request.config = .ok blocks ∧
      groupedHeld hashing request = .ok grouped ∧
        result.chunks = numbered ((keptHeld hashing request.config grouped).map (·.chunk)) ∧
          (Conserves request.config blocks (keptHeld hashing request.config grouped) ↔
            Undamaged hashing request.config grouped) := by
  obtain ⟨grouped, isGrouped, rfl⟩ := chunkDocument_eq_ok_iff.mp returned
  obtain ⟨blocks, areBlocks, of⟩ := groupsOf_groupedHeld isGrouped
  exact ⟨blocks, grouped, areBlocks, isGrouped, rfl, conserves_iff of⟩

namespace Sample

theorem noOverlap : 0 ≤ 20000 := Nat.zero_le _

theorem sentenceFits : 50 ≤ 100 := by decide

/-- Chunks of a sentence each. -/
def smallConfig : ChunkingConfig :=
  { ChunkingConfig.standard with
    maxCharacters := 100
    targetCharacters := 50
    overlapCharacters := 0
    minCharacters := 1
    maxBounds := by decide
    targetBounds := by decide
    overlapBounds := noOverlap
    minBounds := by decide
    target_le_max := sentenceFits
    min_le_target := by decide
    overlap_lt_max := by decide }

/-- A paragraph that says one thing twice. -/
def repeatedRequest : ChunkingRequest :=
  requestFor
    [{ text := "We approve the plan for the river bank as it was presented. ".toList ++
        "We approve the plan for the river bank as it was presented.".toList }]
    smallConfig

theorem repeatedRequest_chunked :
    (chunkDocument textHashing repeatedRequest).toOption.isSome := by
  decide +kernel

theorem repeatedRequest_blocks {blocks : List Block}
    (areBlocks : documentBlocks repeatedRequest.sections repeatedRequest.config = .ok blocks) :
    blocks.length = 2 := by
  have computed : (documentBlocks repeatedRequest.sections repeatedRequest.config).toOption.map
      List.length = some 2 := by decide +kernel
  rw [areBlocks] at computed
  exact Option.some.inj computed

theorem repeatedRequest_places {grouped : List HeldChunk}
    (isGrouped : groupedHeld textHashing repeatedRequest = .ok grouped) :
    (keptHeld textHashing repeatedRequest.config grouped).map
      (fun held => held.blocks.map Prod.snd) = [[0]] := by
  have computed : (groupedHeld textHashing repeatedRequest).toOption.map (fun grouped =>
      (keptHeld textHashing repeatedRequest.config grouped).map fun held =>
        held.blocks.map Prod.snd) = some [[0]] := by decide +kernel
  rw [isGrouped] at computed
  exact Option.some.inj computed

end Sample

theorem chunkDocument_conserves_repeated :
    ∃ blocks grouped,
      documentBlocks Sample.repeatedRequest.sections Sample.repeatedRequest.config = .ok blocks ∧
      groupedHeld Sample.textHashing Sample.repeatedRequest = .ok grouped ∧
        (givenValue _ Sample.repeatedRequest_chunked).chunks = numbered
          ((keptHeld Sample.textHashing Sample.repeatedRequest.config grouped).map (·.chunk)) ∧
        (Conserves Sample.repeatedRequest.config blocks
            (keptHeld Sample.textHashing Sample.repeatedRequest.config grouped) ↔
          Undamaged Sample.textHashing Sample.repeatedRequest.config grouped) :=
  chunkDocument_conserves_iff Sample.textHashing Sample.repeatedRequest _
    (eq_ok_givenValue Sample.repeatedRequest_chunked)

/-- A sentence that is said twice in a paragraph is chunked once. -/
theorem not_chunks_conserve :
    ¬ ∀ (hashing : Hashing) (request : ChunkingRequest) (result : ChunkingResult),
      chunkDocument hashing request = .ok result →
      ∃ blocks grouped, documentBlocks request.sections request.config = .ok blocks ∧
        groupedHeld hashing request = .ok grouped ∧
          result.chunks = numbered ((keptHeld hashing request.config grouped).map (·.chunk)) ∧
            Conserves request.config blocks (keptHeld hashing request.config grouped) := by
  intro conserve
  obtain ⟨blocks, grouped, areBlocks, isGrouped, -, conserves⟩ := conserve Sample.textHashing
    Sample.repeatedRequest _ (eq_ok_givenValue Sample.repeatedRequest_chunked)
  have two := Sample.repeatedRequest_blocks areBlocks
  have places := Sample.repeatedRequest_places isGrouped
  have second : (blocks[1], 1) ∈ blocks.zipIdx :=
    List.mk_mem_zipIdx_iff_getElem?.mpr (List.getElem?_eq_getElem _)
  obtain ⟨held, isKept, inHeld⟩ := conserves.complete _ second
  have listed : held.blocks.map Prod.snd ∈ ([[0]] : List (List Nat)) :=
    places ▸ List.mem_map_of_mem isKept
  have one : 1 ∈ held.blocks.map Prod.snd := List.mem_map_of_mem inHeld
  rw [List.mem_singleton.mp listed] at one
  exact absurd one (by decide)

end PolicyOS.Knowledge
