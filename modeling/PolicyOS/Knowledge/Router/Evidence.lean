import Mathlib.Data.String.Basic
import PolicyOS.Domain.Identifiers
import PolicyOS.Foundation.SortedBy

/-!
# Merging the evidence of routed sources

The evidence of all responses is taken in the order it arrives: what repeats earlier evidence is
turned away, and what exceeds the share of its source type or of its document. What is left is
ranked by its adjusted score, and the ranking is cut off.
-/

namespace PolicyOS.Knowledge.Router

open Foundation

/-! ## Evidence -/

inductive KnowledgeRoute
  | internalRag
  | lawMcp
  | minutesMcp
  | financeMcp
  | internalDocsMcp
  | publicDataMcp
  deriving DecidableEq

/-- A piece of evidence, as far as it is merged and judged. -/
structure KnowledgeEvidence where
  evidenceId : UUID
  sourceType : String
  sourceAuthority : String := "unknown"
  citation : Option String := none
  effectiveDate : Option Int := none
  externalSourceId : Option String := none
  documentId : Option UUID := none
  freshness : String := "unknown"
  score : ℚ := 0
  contentHash : Option String := none
  fiscalYear : Option Int := none
  methodology : Option String := none
  deriving DecidableEq

/-- The answer of one source. -/
structure KnowledgeSourceResponse where
  route : KnowledgeRoute
  evidence : List KnowledgeEvidence := []
  warnings : List String := []
  success : Bool
  fallbackUsed : Bool := false
  errorCode : Option String := none
  deriving DecidableEq

/-- A text that is given and not empty. -/
def given (text : Option String) : Option String := text.filter (· ≠ "")

def official : List String := ["law", "regulation", "ordinance", "minutes", "budget", "statistics"]

namespace KnowledgeEvidenceMerger

/-- What evidence is recognised by. -/
def key (item : KnowledgeEvidence) : String × String :=
  (((given item.externalSourceId).or ((given item.citation).or (given item.contentHash))).getD
    (uuidText item.evidenceId), item.sourceAuthority)

/-- The evidence with its adjusted score. -/
def adjusted (item : KnowledgeEvidence) : KnowledgeEvidence :=
  let authority : ℚ := if item.sourceType ∈ official then 15 / 100 else 0
  let citation : ℚ := if (given item.citation).isSome then 1 / 10 else -(1 / 10)
  let stale : ℚ := if item.freshness = "stale" then -(15 / 100) else 0
  { item with score := max 0 (min 1 (item.score + authority + citation + stale)) }

/-- Evidence is turned away if it was seen, or its source type or its document has its share. -/
def TurnedAway (merged : List KnowledgeEvidence) (item : KnowledgeEvidence) : Prop :=
  key item ∈ merged.map key ∨
    5 ≤ (merged.filter (·.sourceType = item.sourceType)).length ∨
    ∃ document ∈ item.documentId, 3 ≤ (merged.filter (·.documentId = some document)).length

instance (merged : List KnowledgeEvidence) (item : KnowledgeEvidence) :
    Decidable (TurnedAway merged item) :=
  inferInstanceAs (Decidable (_ ∨ _ ∨ _))

/-- Merge items one by one; what was seen and counted is what is merged. -/
def mergeInto : List KnowledgeEvidence → List KnowledgeEvidence → List KnowledgeEvidence
  | merged, [] => merged
  | merged, item :: rest =>
      if TurnedAway merged item then mergeInto merged rest
      else mergeInto (merged ++ [adjusted item]) rest

/-- What evidence is ranked by: its score, its source type, its citation and its identifier. -/
def rank (item : KnowledgeEvidence) : ℚ ×ₗ String ×ₗ String ×ₗ UUID :=
  toLex (-item.score, toLex (item.sourceType, toLex (item.citation.getD "", item.evidenceId)))

/-- The evidence of responses, in their order. -/
def itemsOf (responses : List KnowledgeSourceResponse) : List KnowledgeEvidence :=
  responses.flatMap (·.evidence)

/-- The evidence that is merged, ranked and cut off. -/
def merge (responses : List KnowledgeSourceResponse) (maxResults : Nat) :
    List KnowledgeEvidence :=
  (sortedBy rank (mergeInto [] (itemsOf responses))).take maxResults

/-! ## What is merged -/

variable {merged more items rest : List KnowledgeEvidence} {item other : KnowledgeEvidence}

/-- What is turned away stays turned away. -/
theorem TurnedAway.append (turned : TurnedAway merged item) : TurnedAway (merged ++ more) item := by
  unfold TurnedAway at turned ⊢
  simp only [List.map_append, List.mem_append, List.filter_append, List.length_append]
  rcases turned with seen | types | ⟨document, isOwn, documents⟩
  · exact .inl (.inl seen)
  · exact .inr (.inl (by omega))
  · exact .inr (.inr ⟨document, isOwn, by omega⟩)

/-- Whether evidence is turned away does not depend on its score. -/
theorem turnedAway_of_adjusted (same : adjusted item = adjusted other) :
    TurnedAway merged item ↔ TurnedAway merged other := by
  have keys : key item = key other := by simpa [key, adjusted] using congrArg key same
  have types : item.sourceType = other.sourceType := congrArg (·.sourceType) same
  have documents : item.documentId = other.documentId := congrArg (·.documentId) same
  unfold TurnedAway
  rw [keys, types, documents]

theorem mergeInto_append : mergeInto merged (items ++ rest) =
    mergeInto (mergeInto merged items) rest := by
  induction items generalizing merged with
  | nil => rfl
  | cons first others ih =>
      rw [List.cons_append, mergeInto, mergeInto]
      split_ifs <;> exact ih

/-- What is merged stays, and what is added is adjusted. -/
theorem exists_of_mergeInto : ∃ added : List KnowledgeEvidence,
    mergeInto merged items = merged ++ added ∧ ∀ found ∈ added, found ∈ items.map adjusted := by
  induction items generalizing merged with
  | nil => exact ⟨[], (List.append_nil _).symm, fun _ none => absurd none List.not_mem_nil⟩
  | cons first others ih =>
      rw [mergeInto]
      split_ifs
      · obtain ⟨added, isMerge, each⟩ := @ih merged
        exact ⟨added, isMerge, fun found isAdded => List.mem_cons_of_mem _ (each found isAdded)⟩
      · obtain ⟨added, isMerge, each⟩ := @ih (merged ++ [adjusted first])
        refine ⟨adjusted first :: added, by simp [isMerge], fun found isAdded => ?_⟩
        rcases List.mem_cons.mp isAdded with rfl | later
        · exact List.mem_cons_self
        · exact List.mem_cons_of_mem _ (each found later)

theorem mem_mergeInto_of_mem (isMerged : item ∈ merged) : item ∈ mergeInto merged items := by
  obtain ⟨added, isMerge, -⟩ := @exists_of_mergeInto merged items
  exact isMerge ▸ List.mem_append_left _ isMerged

/-- No evidence is merged twice. -/
theorem nodup_mergeInto (distinct : (merged.map key).Nodup) :
    ((mergeInto merged items).map key).Nodup := by
  induction items generalizing merged with
  | nil => exact distinct
  | cons first others ih =>
      rw [mergeInto]
      split_ifs with turned
      · exact ih distinct
      · refine ih ?_
        rw [List.map_append, List.map_singleton, List.nodup_append_comm]
        exact List.nodup_cons.mpr ⟨fun seen => turned (.inl seen), distinct⟩

/-- What is turned away and not merged is not merged later. -/
theorem not_mem_of_turnedAway (turned : TurnedAway merged item)
    (unmerged : adjusted item ∉ merged) : adjusted item ∉ mergeInto merged items := by
  induction items generalizing merged with
  | nil => exact unmerged
  | cons first others ih =>
      rw [mergeInto]
      split_ifs with firstTurned
      · exact ih turned unmerged
      · refine ih turned.append fun isMerged => ?_
        rcases List.mem_append.mp isMerged with old | own
        · exact unmerged old
        · exact firstTurned ((turnedAway_of_adjusted (List.mem_singleton.mp own)).mp turned)

/-! ## Rearranged responses -/

/-- The responses in another order, and the evidence within each. -/
def Rearranged (responses others : List KnowledgeSourceResponse) : Prop :=
  ∃ middle, responses.Perm middle ∧ List.Forall₂
    (fun one two => ∃ evidence, one.evidence.Perm evidence ∧
      two = { one with evidence := evidence }) middle others

variable {responses others : List KnowledgeSourceResponse} {maxResults : Nat}

theorem Rearranged.refl (responses : List KnowledgeSourceResponse) :
    Rearranged responses responses :=
  ⟨responses, .refl _, List.forall₂_same.mpr fun response _ => ⟨response.evidence, .refl _, rfl⟩⟩

/-- The evidence is the same but for its order. -/
theorem Rearranged.perm (rearranged : Rearranged responses others) :
    (itemsOf responses).Perm (itemsOf others) := by
  obtain ⟨middle, same, each⟩ := rearranged
  refine (same.flatMap_right _).trans ?_
  clear same
  induction each with
  | nil => exact .refl _
  | cons one rest ih =>
      obtain ⟨evidence, isEvidence, rfl⟩ := one
      exact isEvidence.append ih

/-- Every piece of evidence arrives first in some order. -/
theorem exists_first (listed : item ∈ itemsOf responses) :
    ∃ others rest, Rearranged responses others ∧ itemsOf others = item :: rest := by
  obtain ⟨response, isResponse, isItem⟩ := List.mem_flatMap.mp listed
  obtain ⟨before, after, rfl⟩ := List.append_of_mem isResponse
  obtain ⟨earlier, later, split⟩ := List.append_of_mem isItem
  refine ⟨{ response with evidence := item :: (earlier ++ later) } :: (before ++ after),
    earlier ++ later ++ itemsOf (before ++ after),
    ⟨response :: (before ++ after), List.perm_middle, .cons ⟨_, ?_, rfl⟩ ?_⟩, rfl⟩
  · rw [split]
    exact List.perm_middle
  · exact List.forall₂_same.mpr fun other _ => ⟨other.evidence, .refl _, rfl⟩

/-! ## What is best -/

/-- The different pieces of evidence, adjusted. -/
def candidates (responses : List KnowledgeSourceResponse) : List KnowledgeEvidence :=
  ((itemsOf responses).map adjusted).dedup

/-- The best of the candidates. -/
def best (responses : List KnowledgeSourceResponse) (maxResults : Nat) : List KnowledgeEvidence :=
  (sortedBy rank (candidates responses)).take maxResults

/-- Two pieces of evidence count against one cap: that of their source type, that of their
document, or that of a full result. -/
def SharesCap (result : List KnowledgeEvidence) (maxResults : Nat) (one two : KnowledgeEvidence) :
    Prop :=
  one.sourceType = two.sourceType ∨ (one.documentId ≠ none ∧ one.documentId = two.documentId) ∨
    result.length = maxResults

/-- The selection does not depend on the order, is ordered by score, and leaves nothing out for
something of a lower score. -/
structure SelectsBest (responses : List KnowledgeSourceResponse) (maxResults : Nat) : Prop where
  unordered : ∀ others, Rearranged responses others →
    merge others maxResults = merge responses maxResults
  ordered : (merge responses maxResults).Pairwise fun one two => two.score ≤ one.score
  fair : ∀ others, Rearranged responses others → ∀ item ∈ itemsOf others,
    adjusted item ∉ merge others maxResults → ∀ kept ∈ merge others maxResults,
      SharesCap (merge others maxResults) maxResults kept item →
        (adjusted item).score ≤ kept.score

/-- In no order is one of the best turned away, unless it is merged already, and none of them has
the rank of another candidate. -/
structure Undisturbed (responses : List KnowledgeSourceResponse) (maxResults : Nat) : Prop where
  admitted : ∀ others, Rearranged responses others → ∀ before item after,
    itemsOf others = before ++ item :: after → adjusted item ∈ best responses maxResults →
      ¬ TurnedAway (mergeInto [] before) item ∨ adjusted item ∈ mergeInto [] before
  apart : ∀ item ∈ best responses maxResults, ∀ other ∈ candidates responses,
    rank item = rank other → item = other

theorem mem_candidates : item ∈ candidates responses ↔ item ∈ (itemsOf responses).map adjusted :=
  List.mem_dedup

theorem mergeInto_subset (rearranged : Rearranged responses others) :
    mergeInto [] (itemsOf others) ⊆ candidates responses := by
  intro item isMerged
  obtain ⟨added, isMerge, each⟩ := @exists_of_mergeInto [] (itemsOf others)
  rw [isMerge, List.nil_append] at isMerged
  exact mem_candidates.mpr ((rearranged.perm.map adjusted).mem_iff.mpr (each item isMerged))

theorem nodup_merged : (mergeInto [] items).Nodup :=
  List.Nodup.of_map key (nodup_mergeInto List.nodup_nil)

/-- Evidence that arrives first leads those of its rank, if it is above the cut. -/
theorem head?_of_first (rearranged : Rearranged responses others)
    (isFirst : itemsOf others = item :: rest)
    (few : ((candidates responses).filter fun other => rank other < rank (adjusted item)).length <
      maxResults) :
    ((merge others maxResults).dropWhile fun other => rank other < rank (adjusted item)).head? =
      some (adjusted item) := by
  have isMerged : mergeInto [] (itemsOf others) = mergeInto [adjusted item] rest := by
    rw [isFirst, mergeInto, if_neg (by simp [TurnedAway]), List.nil_append]
  obtain ⟨added, isMerge, -⟩ := @exists_of_mergeInto [adjusted item] rest
  have once := @nodup_merged (itemsOf others)
  have within := mergeInto_subset rearranged
  rw [isMerged, isMerge, List.singleton_append] at once within
  rw [merge, isMerged, isMerge, List.singleton_append]
  refine head?_of_sortedBy_cons (lt_of_le_of_lt ?_ few)
  exact (((List.nodup_cons.mp once).2.filter _).subperm fun other isOther =>
    List.mem_filter.mpr ⟨within (List.mem_cons_of_mem _ (List.mem_of_mem_filter isOther)),
      List.of_mem_filter isOther⟩).length_le

/-- Where the order does not matter, no candidate is disturbed. -/
theorem undisturbed_of_unordered (unordered : ∀ others, Rearranged responses others →
    merge others maxResults = merge responses maxResults) : Undisturbed responses maxResults := by
  have leads (item) (isCandidate : item ∈ candidates responses)
      (few : ((candidates responses).filter fun other => rank other < rank item).length <
        maxResults) :
      ((merge responses maxResults).dropWhile fun other => rank other < rank item).head? =
        some item := by
    obtain ⟨own, isOwn, rfl⟩ := List.mem_map.mp (mem_candidates.mp isCandidate)
    obtain ⟨others, rest, rearranged, isFirst⟩ := exists_first isOwn
    rw [← unordered others rearranged]
    exact head?_of_first rearranged isFirst few
  have isCandidate {item} (isBest : item ∈ best responses maxResults) :
      item ∈ candidates responses := mem_sortedBy.mp (List.mem_of_mem_take isBest)
  constructor
  · intro others rearranged before item after split isBest
    refine or_iff_not_imp_right.mpr fun unmerged turned => ?_
    have isMerged : adjusted item ∈ mergeInto [] (itemsOf others) := by
      have isHead := leads _ (isCandidate isBest) (length_filter_lt_of_mem_take isBest)
      rw [← unordered others rearranged] at isHead
      exact mem_sortedBy.mp (List.mem_of_mem_take
        ((List.dropWhile_sublist _).subset (List.mem_of_head? isHead)))
    rw [split, mergeInto_append] at isMerged
    exact not_mem_of_turnedAway turned unmerged isMerged
  · intro item isBest other isOther same
    have few := length_filter_lt_of_mem_take isBest
    have isHead := leads item (isCandidate isBest) few
    rw [same] at few isHead
    exact Option.some.inj (isHead.symm.trans (leads other isOther few))

/-- Where no candidate is disturbed, the best are selected in every order. -/
theorem merge_of_undisturbed (undisturbed : Undisturbed responses maxResults)
    (rearranged : Rearranged responses others) :
    merge others maxResults = best responses maxResults := by
  refine take_sortedBy_eq (List.nodup_dedup _) nodup_merged (mergeInto_subset rearranged) ?_
    undisturbed.apart
  intro item isBest
  have isCandidate := mem_candidates.mp (mem_sortedBy.mp (List.mem_of_mem_take isBest))
  obtain ⟨own, isOwn, rfl⟩ :=
    List.mem_map.mp ((rearranged.perm.map adjusted).mem_iff.mp isCandidate)
  obtain ⟨before, after, split⟩ := List.append_of_mem isOwn
  rw [split, mergeInto_append]
  by_cases isMerged : adjusted own ∈ mergeInto [] before
  · exact mem_mergeInto_of_mem isMerged
  · have admitted := (undisturbed.admitted others rearranged before own after split isBest
      ).resolve_right isMerged
    rw [mergeInto, if_neg admitted]
    exact mem_mergeInto_of_mem (List.mem_append_right _ (List.mem_singleton_self _))

theorem score_of_rank {one two : KnowledgeEvidence} (ranked : rank one ≤ rank two) :
    two.score ≤ one.score := by
  rcases Prod.Lex.toLex_le_toLex.mp ranked with lower | ⟨same, -⟩
  · exact (neg_lt_neg_iff.mp lower).le
  · exact (neg_inj.mp same).ge

/-- **The best evidence is selected in every order exactly if in no order it is disturbed.** -/
theorem selectsBest_iff (responses : List KnowledgeSourceResponse) (maxResults : Nat) :
    SelectsBest responses maxResults ↔ Undisturbed responses maxResults := by
  refine ⟨fun selects => undisturbed_of_unordered selects.unordered, fun undisturbed => ?_⟩
  have isBest {others} (rearranged : Rearranged responses others) :=
    merge_of_undisturbed undisturbed rearranged
  refine ⟨fun others rearranged => (isBest rearranged).trans (isBest (.refl responses)).symm,
    ?_, fun others rearranged item isItem left kept isKept _ => ?_⟩
  · have ordered := @pairwise_sortedBy _ _ _ rank (mergeInto [] (itemsOf responses))
    exact (ordered.sublist (List.take_sublist _ _)).imp fun ranked => score_of_rank ranked
  · rw [isBest rearranged] at left isKept
    have ordered := @pairwise_sortedBy _ _ _ rank (candidates responses)
    have listed : adjusted item ∈ sortedBy rank (candidates responses) :=
      mem_sortedBy.mpr (mem_candidates.mpr ((rearranged.perm.map adjusted).mem_iff.mpr
        (List.mem_map_of_mem isItem)))
    rw [← List.take_append_drop maxResults (sortedBy rank (candidates responses))] at ordered listed
    exact score_of_rank ((List.pairwise_append.mp ordered).2.2 kept isKept _
      ((List.mem_append.mp listed).resolve_left left))

namespace Sample

/-- A piece of evidence of one document. -/
def ofDocument (source : String) (score : ℚ) : KnowledgeEvidence :=
  { evidenceId := 1, sourceType := "report", externalSourceId := some source
    documentId := some 9, score := score }

/-- Four pieces of evidence of the document, the best of which arrives last. -/
def fourOfDocument : List KnowledgeSourceResponse :=
  [{ route := .internalRag, success := true, evidence :=
      [ofDocument "a" (1 / 5), ofDocument "b" (1 / 5), ofDocument "c" (1 / 5),
        ofDocument "d" (9 / 10)] }]

end Sample

/-- The best is left out for what arrives earlier. -/
theorem not_selectsBest : ¬ SelectsBest Sample.fourOfDocument 10 := by
  intro selects
  have isMerged : mergeInto [] (itemsOf Sample.fourOfDocument) =
      [adjusted (Sample.ofDocument "a" (1 / 5)), adjusted (Sample.ofDocument "b" (1 / 5)),
        adjusted (Sample.ofDocument "c" (1 / 5))] := by
    decide +kernel
  have isMerge (item : KnowledgeEvidence) : item ∈ merge Sample.fourOfDocument 10 ↔
      item ∈ mergeInto [] (itemsOf Sample.fourOfDocument) := by
    rw [merge, List.take_of_length_le (by rw [length_sortedBy, isMerged]; decide), mem_sortedBy]
  have fair := selects.fair Sample.fourOfDocument (.refl _) (Sample.ofDocument "d" (9 / 10))
    (by decide +kernel) (by rw [isMerge, isMerged]; decide +kernel)
    (adjusted (Sample.ofDocument "a" (1 / 5)))
    (by rw [isMerge, isMerged]; exact List.mem_cons_self) (.inl rfl)
  revert fair
  decide +kernel

end KnowledgeEvidenceMerger

end PolicyOS.Knowledge.Router
