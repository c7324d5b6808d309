import PolicyOS.Knowledge.Providers.Merge

/-!
# Merged evidence and the order of responses

Duplicates are left out in the order the evidence arrives in, before it is ranked. So what is kept
depends on the order of the responses, and may be ranked after what is left out, unless each
response has, before each of its items that is left out, one that is kept and that it duplicates.
-/

namespace PolicyOS.Knowledge.Providers.Merge

open Foundation EvidenceDeduplicator EvidenceRanker
open KnowledgeEvidenceMerger hiding normalize
open KnowledgeEvidenceMerger renaming normalize → normalized

variable {Details : Type} {item other : KnowledgeEvidence Details}
  {items : List (KnowledgeEvidence Details)}
  {responses others : List (KnowledgeProviderResponse Details)}

/-! ## Duplicates -/

/-- Two values that are the same and not empty. -/
def SameGiven (first second : Option String) : Prop :=
  ∃ value ∈ given first, value ∈ given second

instance (first second : Option String) : Decidable (SameGiven first second) :=
  inferInstanceAs (Decidable (∃ value ∈ given first, value ∈ given second))

theorem SameGiven.symm {first second : Option String} (same : SameGiven first second) :
    SameGiven second first := by
  obtain ⟨value, isFirst, isSecond⟩ := same
  exact ⟨value, isSecond, isFirst⟩

/-- Evidence of one resource, or of one content. -/
def Duplicates (first second : KnowledgeEvidence Details) : Prop :=
  SameGiven first.resourceId second.resourceId ∨ SameGiven first.contentHash second.contentHash

instance : DecidableRel (@Duplicates Details) :=
  fun _ _ => inferInstanceAs (Decidable (_ ∨ _))

theorem Duplicates.symm (duplicates : Duplicates item other) : Duplicates other item :=
  duplicates.imp SameGiven.symm SameGiven.symm

/-- What was seen is what is kept. -/
def SeenOf (seen : Seen) (kept : List (KnowledgeEvidence Details)) : Prop :=
  (∀ resource, resource ∈ seen.resources ↔ ∃ item ∈ kept, resource ∈ given item.resourceId) ∧
    ∀ hash, hash ∈ seen.hashes ↔ ∃ item ∈ kept, hash ∈ given item.contentHash

theorem SeenOf.has_iff {seen : Seen} {kept : List (KnowledgeEvidence Details)}
    (isSeen : SeenOf seen kept) : seen.has item ↔ ∃ earlier ∈ kept, Duplicates earlier item := by
  simp only [Seen.has, isSeen.1, isSeen.2, Duplicates, SameGiven]
  constructor
  · rintro (⟨resource, isGiven, earlier, wasKept, same⟩ | ⟨hash, isGiven, earlier, wasKept, same⟩)
    · exact ⟨earlier, wasKept, .inl ⟨resource, same, isGiven⟩⟩
    · exact ⟨earlier, wasKept, .inr ⟨hash, same, isGiven⟩⟩
  · rintro ⟨earlier, wasKept, ⟨resource, same, isGiven⟩ | ⟨hash, same, isGiven⟩⟩
    · exact .inl ⟨resource, isGiven, earlier, wasKept, same⟩
    · exact .inr ⟨hash, isGiven, earlier, wasKept, same⟩

theorem SeenOf.add {seen : Seen} {kept : List (KnowledgeEvidence Details)}
    (isSeen : SeenOf seen kept) (item : KnowledgeEvidence Details) :
    SeenOf (seen.add item) (item :: kept) := by
  refine ⟨fun resource => ?_, fun hash => ?_⟩
  · simp [Seen.add, isSeen.1]
  · simp [Seen.add, isSeen.2]

/-- What is kept is what duplicates nothing kept before it. -/
theorem deduplicateAfter_eq :
    ∀ {items : List (KnowledgeEvidence Details)} {seen : Seen}
      {kept : List (KnowledgeEvidence Details)}, SeenOf seen kept →
        deduplicateAfter seen items = firstKept Duplicates kept items := by
  intro items
  induction items with
  | nil => exact fun _ => rfl
  | cons first rest ih =>
      intro seen kept isSeen
      simp only [deduplicateAfter, firstKept, isSeen.has_iff]
      split_ifs
      · exact ih isSeen
      · rw [ih (isSeen.add first)]

theorem deduplicate_eq (items : List (KnowledgeEvidence Details)) :
    deduplicate items = firstKept Duplicates [] items :=
  deduplicateAfter_eq ⟨fun _ => by simp, fun _ => by simp⟩

/-! ## Marks -/

theorem normalize_duplicates (first second : KnowledgeEvidence Details) :
    Duplicates (normalized items first) (normalized items second) ↔ Duplicates first second := by
  unfold normalized
  split_ifs <;> exact Iff.rfl

theorem key_normalize : key (normalized items item) = key item := by
  unfold normalized
  split_ifs <;> rfl

/-- A mark is of the resource, so what is marked tells what it was. -/
theorem normalize_injective :
    Function.Injective (normalized items : KnowledgeEvidence Details → _) := by
  intro first second same
  have resource : first.resourceId = second.resourceId := by
    have := congrArg (·.resourceId) same
    unfold normalized at this
    split_ifs at this <;> exact this
  unfold normalized at same
  rw [resource] at same
  split_ifs at same
  · cases first
    cases second
    simp only [KnowledgeEvidence.mk.injEq, List.append_cancel_right_eq] at same resource ⊢
    simpa [resource] using same
  · exact same

theorem normalize_eq_of_perm {more : List (KnowledgeEvidence Details)} (same : items.Perm more) :
    normalized items = normalized more := by
  have dates (resource : String) :
      (datesOf items resource).Perm (datesOf more resource) :=
    (same.filter _).filterMap _
  have conflicted (resource : String) : Conflicted items resource ↔ Conflicted more resource := by
    simp only [Conflicted, (dates resource).mem_iff]
  funext item
  simp only [normalized, conflicted]

/-- What is kept of the evidence of responses, before it is marked. -/
def keptOf (responses : List (KnowledgeProviderResponse Details)) :
    List (KnowledgeEvidence Details) :=
  deduplicate (itemsOf responses)

theorem ranked_eq (responses : List (KnowledgeProviderResponse Details)) :
    KnowledgeEvidenceMerger.ranked responses =
      (rank (keptOf responses)).map (normalized (itemsOf responses)) := by
  have kept : deduplicate ((itemsOf responses).map (normalized (itemsOf responses))) =
      (keptOf responses).map (normalized (itemsOf responses)) := by
    rw [keptOf, deduplicate_eq, deduplicate_eq]
    exact @firstKept_map _ _ _ _ normalize_duplicates _ []
  simp only [KnowledgeEvidenceMerger.ranked, kept, rank, sortedBy]
  exact (List.map_insertionSort _ _ _ _ fun first _ second _ => by
    simp only [key_normalize]).symm

/-! ## Orders of responses -/

/-- The marked evidence of responses. -/
def marked (responses : List (KnowledgeProviderResponse Details)) :
    List (KnowledgeEvidence Details) :=
  (itemsOf responses).map (normalized (itemsOf responses))

/-- Merged as it is to be: in every order of the responses the same evidence is kept in the same
order, and whatever is left out duplicates evidence that is kept and is not ranked after it. -/
structure MergesBest (responses : List (KnowledgeProviderResponse Details)) : Prop where
  orderFree : ∀ others : List (KnowledgeProviderResponse Details), others.Perm responses →
    ∀ topK, (merge others topK).1 = (merge responses topK).1
  best : ∀ item ∈ marked responses, item ∉ KnowledgeEvidenceMerger.ranked responses →
    ∃ kept ∈ KnowledgeEvidenceMerger.ranked responses, Duplicates kept item ∧
      ¬ key item < key kept

/-- There is a selection of the evidence without two different duplicates, such that whatever is
not selected comes after a selected item of its own response that it duplicates, and duplicates a
selected one that is not ranked after it. -/
def BestFirst (responses : List (KnowledgeProviderResponse Details)) : Prop :=
  ∃ selected : KnowledgeEvidence Details → Prop,
    (∀ first second, selected first → selected second → Duplicates first second →
      first = second) ∧
    (∀ response ∈ responses, CoveredAfter Duplicates selected [] response.evidence) ∧
    ∀ item ∈ itemsOf responses, ¬ selected item →
      ∃ other ∈ itemsOf responses, selected other ∧ Duplicates other item ∧
        ¬ key item < key other

/-- No two different pieces of evidence have one rank. -/
def Tieless (responses : List (KnowledgeProviderResponse Details)) : Prop :=
  ∀ first ∈ itemsOf responses, ∀ second ∈ itemsOf responses, key first = key second →
    first = second

theorem perm_itemsOf (same : others.Perm responses) :
    (itemsOf others).Perm (itemsOf responses) :=
  same.flatMap_right _

theorem eq_of_slices {α : Type} {first second : List α}
    (same : ∀ limit, slice limit first = slice limit second) : first = second := by
  have whole := same (max first.length second.length : Nat)
  simpa [slice, List.take_of_length_le] using whole

/-- The merged evidence is the same in every order exactly if what is kept is ranked the same. -/
theorem merge_eq_iff (same : others.Perm responses) :
    (∀ topK, (merge others topK).1 = (merge responses topK).1) ↔
      rank (keptOf others) = rank (keptOf responses) := by
  have ranked : KnowledgeEvidenceMerger.ranked others = KnowledgeEvidenceMerger.ranked responses ↔
      rank (keptOf others) = rank (keptOf responses) := by
    rw [ranked_eq, ranked_eq, normalize_eq_of_perm (perm_itemsOf same)]
    exact normalize_injective.list_map.eq_iff
  rw [← ranked]
  constructor
  · exact fun slices => eq_of_slices slices
  · intro same topK
    simp only [merge, same]

/-- What is left out duplicates kept evidence not ranked after it, marked or not. -/
theorem best_iff :
    (∀ item ∈ marked responses, item ∉ KnowledgeEvidenceMerger.ranked responses →
      ∃ kept ∈ KnowledgeEvidenceMerger.ranked responses, Duplicates kept item ∧
        ¬ key item < key kept) ↔
      ∀ item ∈ itemsOf responses, item ∉ keptOf responses →
        ∃ kept ∈ keptOf responses, Duplicates kept item ∧ ¬ key item < key kept := by
  have isRanked (item : KnowledgeEvidence Details) :
      normalized (itemsOf responses) item ∈
          (rank (keptOf responses)).map (normalized (itemsOf responses)) ↔
        item ∈ keptOf responses := by
    rw [List.mem_map_of_injective normalize_injective, rank, mem_sortedBy]
  simp only [ranked_eq, marked, List.forall_mem_map, isRanked]
  simp only [List.mem_map, exists_exists_and_eq_and, rank, mem_sortedBy, normalize_duplicates,
    key_normalize]

theorem mem_keptOf (isKept : item ∈ keptOf responses) : item ∈ itemsOf responses := by
  rw [keptOf, deduplicate_eq] at isKept
  exact mem_of_firstKept isKept

/-- If the responses are merged as they are to be, the evidence that is kept is the selection. -/
theorem MergesBest.bestFirst (merges : MergesBest responses) : BestFirst responses := by
  refine ⟨(· ∈ keptOf responses), fun first second isFirst isSecond duplicates => ?_,
    fun response isResponse => ?_, fun item isItem leftOut => ?_⟩
  · rw [keptOf, deduplicate_eq] at isFirst isSecond
    exact eq_of_related_firstKept (fun _ _ => Duplicates.symm) isFirst isSecond duplicates
  · -- The response may be the first, and then its own evidence is all that was kept before.
    obtain ⟨before, after, rfl⟩ := List.append_of_mem isResponse
    have first : (response :: (before ++ after)).Perm (before ++ response :: after) :=
      List.perm_middle.symm
    have sameRank := (merge_eq_iff first).mp (merges.orderFree _ first)
    refine @coveredAfter_of_firstKept _ _ _ _ (itemsOf (before ++ after)) _ [] []
      (fun _ isNone => absurd isNone List.not_mem_nil) fun item isKept => ?_
    have ranked : item ∈ rank (keptOf (response :: (before ++ after))) := by
      rw [rank, mem_sortedBy, keptOf, deduplicate_eq]
      exact isKept
    rw [sameRank] at ranked
    exact mem_sortedBy.mp ranked
  · obtain ⟨kept, isKept, better⟩ := best_iff.mp merges.best item isItem leftOut
    exact ⟨kept, mem_keptOf isKept, isKept, better⟩

section Selections

variable {selected : KnowledgeEvidence Details → Prop}
  (independent : ∀ first second, selected first → selected second → Duplicates first second →
    first = second)
  (covered : ∀ response ∈ responses, CoveredAfter Duplicates selected [] response.evidence)

include independent covered

/-- What is kept of a selection as it is to be: its items, each as often as it occurs, or once if
it duplicates itself. -/
theorem count_keptOf [DecidableEq (KnowledgeEvidence Details)] [DecidablePred selected]
    (within : others ⊆ responses) (item : KnowledgeEvidence Details) :
    (keptOf others).count item =
      if selected item then
        if Duplicates item item then min 1 ((itemsOf others).count item)
        else (itemsOf others).count item
      else 0 := by
  have covers : CoveredAfter Duplicates selected [] (itemsOf others) := by
    rw [itemsOf, List.flatMap_def]
    exact coveredAfter_flatten fun items isItems => by
      obtain ⟨response, isResponse, rfl⟩ := List.mem_map.mp isItems
      exact covered response (within isResponse)
  rw [keptOf, deduplicate_eq, count_firstKept independent item covers
    (fun _ isNone => absurd isNone List.not_mem_nil)
    fun _ isNone => absurd isNone List.not_mem_nil]
  simp only [List.not_mem_nil, if_false]

theorem perm_keptOf (same : others.Perm responses) : (keptOf others).Perm (keptOf responses) := by
  classical
  rw [List.perm_iff_count]
  intro item
  rw [count_keptOf independent covered same.subset,
    count_keptOf independent covered (List.Subset.refl _), (perm_itemsOf same).count_eq]

theorem mem_keptOf_of_selected (isItem : item ∈ itemsOf responses) (selects : selected item) :
    item ∈ keptOf responses := by
  classical
  have listed := List.count_pos_iff.mpr isItem
  rw [← List.count_pos_iff, count_keptOf independent covered (List.Subset.refl _), if_pos selects]
  split_ifs
  · exact lt_min one_pos listed
  · exact listed

end Selections

theorem rank_eq_of_perm {more : List (KnowledgeEvidence Details)} (same : items.Perm more)
    (tieless : ∀ first ∈ more, ∀ second ∈ more, key first = key second → first = second) :
    rank items = rank more := by
  have perm : (rank items).Perm (rank more) :=
    perm_sortedBy.trans (same.trans perm_sortedBy.symm)
  refine perm.eq_of_pairwise ?_ pairwise_sortedBy pairwise_sortedBy
  intro first second isFirst isSecond below above
  exact tieless first (same.mem_iff.mp (mem_sortedBy.mp isFirst)) second (mem_sortedBy.mp isSecond)
    (le_antisymm below above)

/-- Evidence with such a selection and without ties is merged as it is to be. -/
theorem BestFirst.mergesBest (bestFirst : BestFirst responses) (tieless : Tieless responses) :
    MergesBest responses := by
  obtain ⟨selected, independent, covered, better⟩ := bestFirst
  refine ⟨fun others same => (merge_eq_iff same).mpr ?_,
    best_iff.mpr fun item isItem leftOut => ?_⟩
  · exact rank_eq_of_perm (perm_keptOf independent covered same)
      fun first isFirst second isSecond =>
        tieless first (mem_keptOf isFirst) second (mem_keptOf isSecond)
  · obtain ⟨other, isOther, selects, better⟩ := better item isItem fun selects =>
      leftOut (mem_keptOf_of_selected independent covered isItem selects)
    exact ⟨other, mem_keptOf_of_selected independent covered isOther selects, better⟩

/-- **The evidence is merged as it is to be only if each response has its best evidence first**,
and it is so then if no two different pieces of evidence have one rank. -/
theorem mergesBest_iff_bestFirst (responses : List (KnowledgeProviderResponse Details)) :
    (MergesBest responses → BestFirst responses) ∧
      (Tieless responses → BestFirst responses → MergesBest responses) :=
  ⟨MergesBest.bestFirst, fun tieless bestFirst => bestFirst.mergesBest tieless⟩

namespace Sample

/-- Evidence of one resource. -/
def evidenceOf (evidenceId : UUID) (official : Bool) : KnowledgeEvidence Unit where
  evidenceId := evidenceId
  resourceId := some "law"
  officialSource := official
  providerName := "provider"
  details := ()

/-- An unofficial copy arrives before the official source. -/
def copyFirst : List (KnowledgeProviderResponse Unit) :=
  [⟨[evidenceOf 1 false]⟩, ⟨[evidenceOf 2 true]⟩]

/-- One provider has both, the official source first. -/
def sourceFirst : List (KnowledgeProviderResponse Unit) :=
  [⟨[evidenceOf 2 true, evidenceOf 1 false]⟩]

theorem keptOf_copyFirst : keptOf copyFirst = [evidenceOf 1 false] := rfl

theorem source_ne_copy : evidenceOf 2 true ≠ evidenceOf 1 false :=
  fun same => absurd (congrArg (·.evidenceId) same) (by decide)

theorem key_official_lt : key (evidenceOf 2 true) < key (evidenceOf 1 false) :=
  Prod.Lex.lt_iff.mpr (.inl (by decide))

end Sample

open Sample

/-- The official source first is merged as it is to be. -/
theorem sourceFirst_mergesBest : MergesBest sourceFirst := by
  have isItem (item : KnowledgeEvidence Unit) (isItem : item ∈ itemsOf sourceFirst) :
      item = evidenceOf 2 true ∨ item = evidenceOf 1 false := by
    simpa [itemsOf, sourceFirst] using isItem
  refine (mergesBest_iff_bestFirst sourceFirst).2 (fun first isFirst second isSecond same => ?_)
    ⟨(· = evidenceOf 2 true), fun first second isFirst isSecond _ => isFirst.trans isSecond.symm,
      fun response isResponse => ?_, fun item isItem' leftOut => ?_⟩
  · rcases isItem first isFirst with rfl | rfl <;> rcases isItem second isSecond with rfl | rfl
    · rfl
    · exact absurd same key_official_lt.ne
    · exact absurd same key_official_lt.ne'
    · rfl
  · rw [List.mem_singleton.mp isResponse]
    exact ⟨fun leftOut => absurd rfl leftOut,
      fun _ => ⟨_, List.mem_cons_self, rfl, .inl ⟨"law", rfl, rfl⟩⟩, trivial⟩
  · obtain rfl := (isItem item isItem').resolve_left leftOut
    exact ⟨evidenceOf 2 true, .head _, rfl, .inl ⟨"law", rfl, rfl⟩, key_official_lt.not_gt⟩

/-- The official source is left out in favour of its unofficial copy. -/
theorem copyFirst_not_mergesBest : ¬ MergesBest copyFirst := by
  intro merges
  obtain ⟨kept, isKept, -, better⟩ := best_iff.mp merges.best (evidenceOf 2 true)
    (.tail _ (.head _)) fun isKept => source_ne_copy (List.mem_singleton.mp isKept)
  rw [keptOf_copyFirst, List.mem_singleton] at isKept
  subst isKept
  exact better key_official_lt

end PolicyOS.Knowledge.Providers.Merge
