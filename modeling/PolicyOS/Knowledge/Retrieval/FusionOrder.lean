import Mathlib.Tactic.GCongr
import Mathlib.Tactic.Positivity
import PolicyOS.Knowledge.Retrieval.Fusion

/-!
# What fusion returns, and in which order

Every chunk that one of the searches has found is returned once, and its fused score is the sum of
what the two searches say of it. A chunk both have found, in each with a rank and a score no worse
than another's, is not scored lower than that one, if its lexical score is not negative: only then
is it worth more to be found than not to be.
-/

namespace PolicyOS.Knowledge.Retrieval

open Foundation

variable {Details Marks : Type} {config : FusionConfig}
  {lexical vector results : List (SearchResult Details Marks)} {wanted : UUID}

/-! ## Ranks -/

/-- The results of a search whose chunks are distinct. -/
abbrev DistinctChunks (results : List (SearchResult Details Marks)) : Prop :=
  (results.map (·.chunkId)).Nodup

theorem rankedResults_map (norm : SearchResult Details Marks → ℚ) :
    rankedResults results (results.map norm) =
      (results.zipIdx 1).map fun entry => ⟨entry.1, norm entry.1, entry.2⟩ := by
  have zipped : results.zip (results.map norm) = results.map fun item => (item, norm item) := by
    simpa using List.zip_map' (f := id) (g := norm) (l := results)
  rw [rankedResults, zipped, List.zipIdx_map, List.map_map]
  rfl

/-- A ranked result is a result in its place. -/
theorem mem_rankedResults_iff {norm : SearchResult Details Marks → ℚ}
    {found : RankedResult Details Marks} :
    found ∈ rankedResults results (results.map norm) ↔
      ∃ place, results[place]? = some found.item ∧ found.norm = norm found.item ∧
        found.rank = place + 1 := by
  simp only [rankedResults_map, List.mem_map, List.mem_zipIdx_iff_le_and_getElem?_sub]
  constructor
  · rintro ⟨⟨item, rank⟩, ⟨positive, isItem⟩, rfl⟩
    exact ⟨rank - 1, isItem, rfl, (Nat.sub_add_cancel positive).symm⟩
  · rintro ⟨place, isItem, normed, ranked⟩
    refine ⟨(found.item, found.rank), ⟨by omega, ?_⟩, by rw [← normed]⟩
    rwa [ranked, Nat.add_sub_cancel]

theorem map_chunkId_rankedResults (norm : SearchResult Details Marks → ℚ) :
    (rankedResults results (results.map norm)).map (·.chunkId) = results.map (·.chunkId) := by
  have items : ((results.zipIdx 1).map Prod.fst).map (·.chunkId) = results.map (·.chunkId) := by
    rw [List.zipIdx_map_fst]
  rw [rankedResults_map, List.map_map, ← items, List.map_map]
  rfl

/-- What a search adds to the score of a chunk: nothing if it has not found it. -/
def partOf (config : FusionConfig) (weight : ℚ) (norm : SearchResult Details Marks → ℚ)
    (results : List (SearchResult Details Marks)) (chunkId : UUID) : ℚ :=
  match rowOf (·.chunkId) (rankedResults results (results.map norm)) chunkId with
  | some found => weight * found.norm + reciprocalRank config weight found.rank
  | none => 0

/-- The normalized score of a lexical result. -/
def lexicalNormOf (lexical : List (SearchResult Details Marks))
    (result : SearchResult Details Marks) : ℚ :=
  let largest := maximum (lexical.map (·.score.lexicalScore))
  if 0 < largest then result.score.lexicalScore / largest else 0

theorem maxNormalize_eq :
    maxNormalize (lexical.map (·.score.lexicalScore)) = lexical.map (lexicalNormOf lexical) := by
  rw [maxNormalize, List.map_map]
  rfl

/-- The normalized score of a vector result. -/
def vectorNormOf (result : SearchResult Details Marks) : ℚ :=
  cosineNormalize result.score.vectorScore

/-! ## Merged rows -/

/-- The rows of lexical results. -/
def lexicalRows (lexical : List (SearchResult Details Marks)) (config : FusionConfig) :
    List (FusionRow Details Marks) :=
  (rankedResults lexical (lexical.map (lexicalNormOf lexical))).foldl (addLexical config) []

theorem mergedRows_eq :
    mergedRows lexical vector config =
      (rankedResults vector (vector.map vectorNormOf)).foldl (addVector config)
        (lexicalRows lexical config) := by
  rw [mergedRows, maxNormalize_eq, lexicalRows]
  rfl

theorem keys_lexicalRows :
    ((lexicalRows lexical config).map (·.chunkId)).Nodup ∧
      ∀ wanted, wanted ∈ (lexicalRows lexical config).map (·.chunkId) ↔
        wanted ∈ lexical.map (·.chunkId) := by
  have none : (([] : List (FusionRow Details Marks)).map (·.chunkId)).Nodup := List.nodup_nil
  have keys := keys_foldl_upsert FusionRow.chunkId RankedResult.chunkId (lexicalRow config)
    (fun found _ => lexicalRow config found) (fun _ => rfl) (fun _ _ _ => rfl)
    (rankedResults lexical (lexical.map (lexicalNormOf lexical))) none
  rw [map_chunkId_rankedResults] at keys
  refine ⟨keys.1, fun wanted => (keys.2 wanted).trans ?_⟩
  simp

/-- The merged rows are those of the chunks that were found, one for each. -/
theorem keys_mergedRows :
    ((mergedRows lexical vector config).map (·.chunkId)).Nodup ∧
      ∀ wanted, wanted ∈ (mergedRows lexical vector config).map (·.chunkId) ↔
        wanted ∈ lexical.map (·.chunkId) ∨ wanted ∈ vector.map (·.chunkId) := by
  have keys := keys_foldl_upsert FusionRow.chunkId RankedResult.chunkId emptyRow (vectorRow config) (fun _ => rfl)
    (fun _ _ own => own)
    (rankedResults vector (vector.map vectorNormOf)) (@keys_lexicalRows _ _ config lexical).1
  rw [map_chunkId_rankedResults] at keys
  rw [mergedRows_eq]
  refine ⟨keys.1, fun wanted => (keys.2 wanted).trans ?_⟩
  rw [keys_lexicalRows.2]

theorem rowOf_lexicalRows (distinct : DistinctChunks lexical) :
    rowOf (·.chunkId) (lexicalRows lexical config) wanted =
      (rowOf (·.chunkId) (rankedResults lexical (lexical.map (lexicalNormOf lexical))) wanted).map
        (lexicalRow config) := by
  rw [lexicalRows]
  refine (rowOf_foldl_upsert FusionRow.chunkId RankedResult.chunkId (lexicalRow config)
    (fun found _ => lexicalRow config found) (fun _ => rfl) (fun _ _ _ => rfl) ?_).trans ?_
  · rwa [map_chunkId_rankedResults]
  cases rowOf (·.chunkId) (rankedResults lexical (lexical.map (lexicalNormOf lexical))) wanted
  · rfl
  · rfl

theorem rowOf_mergedRows (distinct : DistinctChunks vector) :
    rowOf (·.chunkId) (mergedRows lexical vector config) wanted =
      match rowOf (·.chunkId) (rankedResults vector (vector.map vectorNormOf)) wanted with
      | some found => some (vectorRow config found
          ((rowOf (·.chunkId) (lexicalRows lexical config) wanted).getD (emptyRow found)))
      | none => rowOf (·.chunkId) (lexicalRows lexical config) wanted := by
  rw [mergedRows_eq]
  refine (rowOf_foldl_upsert FusionRow.chunkId RankedResult.chunkId emptyRow (vectorRow config)
    (fun _ => rfl) (fun _ _ own => own) ?_).trans ?_
  · rwa [map_chunkId_rankedResults]
  cases rowOf (·.chunkId) (rankedResults vector (vector.map vectorNormOf)) wanted
  · rfl
  · rfl

/-- A merged row is scored by what the two searches say of its chunk. -/
theorem fusion_of_mem_mergedRows (distinctLexical : DistinctChunks lexical)
    (distinctVector : DistinctChunks vector) {row : FusionRow Details Marks}
    (isRow : row ∈ mergedRows lexical vector config) :
    row.fusion = partOf config config.lexicalWeight (lexicalNormOf lexical) lexical row.chunkId +
      partOf config config.vectorWeight vectorNormOf vector row.chunkId := by
  have found := (rowOf_eq_some_iff keys_mergedRows.1).mpr ⟨isRow, rfl⟩
  rw [rowOf_mergedRows distinctVector, rowOf_lexicalRows distinctLexical] at found
  simp only [partOf]
  cases inVector : rowOf (·.chunkId) (rankedResults vector (vector.map vectorNormOf)) row.chunkId
  case none =>
    simp only [inVector] at found
    obtain ⟨lexicalFound, inLexical, isRow⟩ := Option.map_eq_some_iff.mp found
    have fused : row.fusion = (lexicalRow config lexicalFound).fusion := by rw [isRow]
    simp only [fused, inLexical, lexicalRow, add_zero]
  case some vectorFound =>
    simp only [inVector, Option.some.injEq] at found
    have fused := congrArg FusionRow.fusion found
    cases inLexical : rowOf (·.chunkId)
      (rankedResults lexical (lexical.map (lexicalNormOf lexical))) row.chunkId
    case none => simpa [inLexical, vectorRow, emptyRow] using fused.symm
    case some lexicalFound => simpa [inLexical, vectorRow, lexicalRow] using fused.symm

/-! ## What a search says of a chunk -/

section Parts

variable {weight : ℚ} {norm score : SearchResult Details Marks → ℚ} {place : Nat}
  {item : SearchResult Details Marks}

theorem partOf_eq (distinct : DistinctChunks results) (isItem : results[place]? = some item) :
    partOf config weight norm results item.chunkId =
      weight * norm item + reciprocalRank config weight (place + 1) := by
  have isRanked : (⟨item, norm item, place + 1⟩ : RankedResult Details Marks) ∈
      rankedResults results (results.map norm) :=
    mem_rankedResults_iff.mpr ⟨place, isItem, rfl, rfl⟩
  have distinctRanked :
      ((rankedResults results (results.map norm)).map (·.chunkId)).Nodup := by
    rwa [map_chunkId_rankedResults]
  have found := (rowOf_eq_some_iff distinctRanked).mpr ⟨isRanked, rfl⟩
  rw [partOf, show item.chunkId = RankedResult.chunkId ⟨item, norm item, place + 1⟩ from rfl, found]

theorem partOf_eq_zero (missing : wanted ∉ results.map (·.chunkId)) :
    partOf config weight norm results wanted = 0 := by
  have missingRanked :
      wanted ∉ (rankedResults results (results.map norm)).map (·.chunkId) := by
    rwa [map_chunkId_rankedResults]
  rw [partOf, rowOf_eq_none_iff.mpr missingRanked]

variable (positive : 0 ≤ weight) (rankPositive : 0 ≤ config.rankConstant)

include positive rankPositive

theorem reciprocalRank_nonneg {rank : Nat} : 0 ≤ reciprocalRank config weight rank := by
  unfold reciprocalRank
  split_ifs
  · have : (0 : ℚ) ≤ config.rankConstant := mod_cast rankPositive
    positivity
  · exact le_rfl

theorem reciprocalRank_anti {rank later : Nat} (ranked : rank ≤ later) :
    reciprocalRank config weight (later + 1) ≤ reciprocalRank config weight (rank + 1) := by
  unfold reciprocalRank
  split_ifs
  · have : (0 : ℚ) ≤ config.rankConstant := mod_cast rankPositive
    gcongr
  · exact le_rfl

/-- A search has found a chunk, with a rank and a score no worse than another's, if it has found
that one. -/
def NoWorse (results : List (SearchResult Details Marks)) (score : SearchResult Details Marks → ℚ)
    (chunkId otherId : UUID) : Prop :=
  ∃ (place : Nat) (item : SearchResult Details Marks), results[place]? = some item ∧
    item.chunkId = chunkId ∧
    ∀ (otherPlace : Nat) (other : SearchResult Details Marks), results[otherPlace]? = some other →
      other.chunkId = otherId → place ≤ otherPlace ∧ score other ≤ score item

/-- A search does not say less of the chunk that is no worse, unless it says less than nothing. -/
theorem partOf_le {chunkId otherId : UUID} (distinct : DistinctChunks results)
    (mono : ∀ item other, score other ≤ score item → norm other ≤ norm item)
    (noWorse : NoWorse results score chunkId otherId)
    (worth : otherId ∈ results.map (·.chunkId) ∨
      ∀ item ∈ results, item.chunkId = chunkId → 0 ≤ norm item) :
    partOf config weight norm results otherId ≤ partOf config weight norm results chunkId := by
  obtain ⟨place, item, isItem, rfl, better⟩ := noWorse
  rw [partOf_eq distinct isItem]
  by_cases found : otherId ∈ results.map (·.chunkId)
  · obtain ⟨other, isOther, rfl⟩ := List.mem_map.mp found
    obtain ⟨otherPlace, atPlace⟩ := List.mem_iff_getElem?.mp isOther
    obtain ⟨ranked, scored⟩ := better otherPlace other atPlace rfl
    rw [partOf_eq distinct atPlace]
    exact add_le_add (mul_le_mul_of_nonneg_left (mono item other scored) positive)
      (reciprocalRank_anti positive rankPositive ranked)
  · rw [partOf_eq_zero found]
    have normed : 0 ≤ norm item :=
      worth.resolve_left found item (List.mem_of_getElem? isItem) rfl
    exact add_nonneg (mul_nonneg positive normed) (reciprocalRank_nonneg positive rankPositive)

end Parts

theorem vectorNormOf_mono {item other : SearchResult Details Marks}
    (scored : other.score.vectorScore ≤ item.score.vectorScore) :
    vectorNormOf other ≤ vectorNormOf item := by
  unfold vectorNormOf cosineNormalize
  gcongr

theorem vectorNormOf_nonneg {item : SearchResult Details Marks} : 0 ≤ vectorNormOf item :=
  le_max_left 0 _

theorem lexicalNormOf_mono {item other : SearchResult Details Marks}
    (scored : other.score.lexicalScore ≤ item.score.lexicalScore) :
    lexicalNormOf lexical other ≤ lexicalNormOf lexical item := by
  unfold lexicalNormOf
  dsimp only
  split_ifs with positive
  · gcongr
  · exact le_rfl

theorem lexicalNormOf_nonneg {item : SearchResult Details Marks}
    (scored : 0 ≤ item.score.lexicalScore) : 0 ≤ lexicalNormOf lexical item := by
  unfold lexicalNormOf
  dsimp only
  split_ifs with positive
  · positivity
  · exact le_rfl

/-! ## Merged results -/

theorem mem_fuseResults_iff {merged : SearchResult Details Marks} :
    merged ∈ fuseResults lexical vector config ↔
      ∃ row ∈ mergedRows lexical vector config, row.result = merged := by
  rw [fuseResults, mem_sortedBy, List.mem_map]

theorem perm_ids_fuseResults :
    ((fuseResults lexical vector config).map (·.chunkId)).Perm
      ((mergedRows lexical vector config).map (·.chunkId)) := by
  have ids : ((mergedRows lexical vector config).map (·.result)).map (·.chunkId) =
      (mergedRows lexical vector config).map (·.chunkId) := by
    rw [List.map_map]
    rfl
  exact ids ▸ perm_sortedBy.map _

theorem fusionScore_eq (distinctLexical : DistinctChunks lexical)
    (distinctVector : DistinctChunks vector) {merged : SearchResult Details Marks}
    (isMerged : merged ∈ fuseResults lexical vector config) :
    merged.score.fusionScore =
      partOf config config.lexicalWeight (lexicalNormOf lexical) lexical merged.chunkId +
        partOf config config.vectorWeight vectorNormOf vector merged.chunkId := by
  obtain ⟨row, isRow, rfl⟩ := mem_fuseResults_iff.mp isMerged
  exact fusion_of_mem_mergedRows distinctLexical distinctVector isRow

theorem count_fuseResults (chunkId : UUID) :
    ((fuseResults lexical vector config).map (·.chunkId)).count chunkId =
      if chunkId ∈ lexical.map (·.chunkId) ∨ chunkId ∈ vector.map (·.chunkId) then 1 else 0 := by
  obtain ⟨distinct, keys⟩ := @keys_mergedRows _ _ config lexical vector
  rw [perm_ids_fuseResults.count_eq]
  split_ifs with found
  · exact List.count_eq_one_of_mem distinct ((keys chunkId).mpr found)
  · exact List.count_eq_zero.mpr fun isKey => found ((keys chunkId).mp isKey)

/-- Of two merged results the first has the higher score, or the same and the lower id. -/
def Precedes (first second : SearchResult Details Marks) : Prop :=
  second.score.fusionScore < first.score.fusionScore ∨
    second.score.fusionScore = first.score.fusionScore ∧ first.chunkId < second.chunkId

theorem pairwise_fuseResults : (fuseResults lexical vector config).Pairwise Precedes := by
  have distinct : (fuseResults lexical vector config).Pairwise
      fun first second => first.chunkId ≠ second.chunkId :=
    List.pairwise_map.mp (perm_ids_fuseResults.nodup_iff.mpr keys_mergedRows.1)
  have sorted : (fuseResults lexical vector config).Pairwise
      fun first second => fusionKey first ≤ fusionKey second := pairwise_sortedBy
  refine (sorted.and distinct).imp ?_
  rintro first second ⟨ordered, apart⟩
  rcases Prod.Lex.toLex_le_toLex.mp ordered with scored | ⟨scored, earlier⟩
  · exact .inl (neg_lt_neg_iff.mp scored)
  · exact .inr ⟨(neg_inj.mp scored).symm, lt_of_le_of_ne earlier apart⟩

/-- **Fusion loses nothing and follows both searches**: every chunk of either list is returned
once, by falling fused score and then by id, and a chunk that both lists have, with a rank and a
score no worse than another's, is not scored lower than that one; its lexical score must not be
negative where the lexical list has the other not at all. -/
theorem fuseResults_exact (lexical vector : List (SearchResult Details Marks))
    (config : FusionConfig) (distinctLexical : DistinctChunks lexical)
    (distinctVector : DistinctChunks vector) (lexicalPositive : 0 ≤ config.lexicalWeight)
    (vectorPositive : 0 ≤ config.vectorWeight) (rankPositive : 0 ≤ config.rankConstant) :
    let merged := fuseResults lexical vector config
    (∀ chunkId, (merged.map (·.chunkId)).count chunkId =
      if chunkId ∈ lexical.map (·.chunkId) ∨ chunkId ∈ vector.map (·.chunkId) then 1 else 0) ∧
      merged.Pairwise Precedes ∧
      ∀ better ∈ merged, ∀ other ∈ merged,
        NoWorse lexical (·.score.lexicalScore) better.chunkId other.chunkId →
        NoWorse vector (·.score.vectorScore) better.chunkId other.chunkId →
        (other.chunkId ∈ lexical.map (·.chunkId) ∨
          ∀ item ∈ lexical, item.chunkId = better.chunkId → 0 ≤ item.score.lexicalScore) →
        other.score.fusionScore ≤ better.score.fusionScore := by
  refine ⟨count_fuseResults, pairwise_fuseResults, ?_⟩
  intro better isBetter other isOther lexicalNoWorse vectorNoWorse worth
  rw [fusionScore_eq distinctLexical distinctVector isBetter,
    fusionScore_eq distinctLexical distinctVector isOther]
  refine add_le_add (partOf_le lexicalPositive rankPositive distinctLexical
    (fun _ _ => lexicalNormOf_mono) lexicalNoWorse ?_)
    (partOf_le vectorPositive rankPositive distinctVector (fun _ _ => vectorNormOf_mono)
      vectorNoWorse (.inr fun _ _ _ => vectorNormOf_nonneg))
  exact worth.imp_right fun scored item isItem same =>
    lexicalNormOf_nonneg (scored item isItem same)

section Sample

/-- A result of a search with a score, or two. -/
def sampleResult (chunkId : UUID) (lexicalScore vectorScore : ℚ) : SearchResult Unit Unit where
  candidate := { chunkId := chunkId, details := () }
  score := { lexicalScore := lexicalScore, vectorScore := vectorScore, marks := () }

def sampleLexical : List (SearchResult Unit Unit) := [sampleResult 3 1 0, sampleResult 1 (-10) 0]

def sampleVector : List (SearchResult Unit Unit) := [sampleResult 1 0 0, sampleResult 2 0 0]

def scoresOnly : FusionConfig := { lexicalWeight := 1, vectorWeight := 1, useRrf := false }

theorem noWorse_sampleVector : NoWorse sampleVector (·.score.vectorScore) 1 2 := by
  refine ⟨0, sampleResult 1 0 0, rfl, rfl, fun otherPlace other isOther _ => ⟨Nat.zero_le _, ?_⟩⟩
  have listed : other ∈ sampleVector := List.mem_of_getElem? isOther
  simp only [sampleVector, List.mem_cons, List.not_mem_nil, or_false] at listed
  rcases listed with rfl | rfl
  · exact le_rfl
  · exact le_rfl

theorem fuseResults_exact_sample :
    let merged := fuseResults sampleVector sampleVector scoresOnly
    (∀ chunkId, (merged.map (·.chunkId)).count chunkId =
      if chunkId ∈ sampleVector.map (·.chunkId) ∨ chunkId ∈ sampleVector.map (·.chunkId)
      then 1 else 0) ∧
      merged.Pairwise Precedes ∧
      ∀ better ∈ merged, ∀ other ∈ merged,
        NoWorse sampleVector (·.score.lexicalScore) better.chunkId other.chunkId →
        NoWorse sampleVector (·.score.vectorScore) better.chunkId other.chunkId →
        (other.chunkId ∈ sampleVector.map (·.chunkId) ∨
          ∀ item ∈ sampleVector, item.chunkId = better.chunkId → 0 ≤ item.score.lexicalScore) →
        other.score.fusionScore ≤ better.score.fusionScore :=
  fuseResults_exact sampleVector sampleVector scoresOnly (by decide) (by decide) zero_le_one
    zero_le_one (by decide)

/-- A chunk found with a negative lexical score ranks below one that was not found so. -/
theorem not_fuseResults_exact :
    ¬ ∀ (lexical vector : List (SearchResult Unit Unit)) (config : FusionConfig),
      DistinctChunks lexical → DistinctChunks vector →
      0 ≤ config.lexicalWeight → 0 ≤ config.vectorWeight → 0 ≤ config.rankConstant →
      ∀ better ∈ fuseResults lexical vector config, ∀ other ∈ fuseResults lexical vector config,
        NoWorse lexical (·.score.lexicalScore) better.chunkId other.chunkId →
        NoWorse vector (·.score.vectorScore) better.chunkId other.chunkId →
        other.score.fusionScore ≤ better.score.fusionScore := by
  intro monotone
  have merged : (fuseResults sampleLexical sampleVector scoresOnly).map
      (fun merged => (merged.chunkId, merged.score.fusionScore)) =
        [(3, 1), (2, 1 / 2), (1, -19 / 2)] := by decide +kernel
  obtain ⟨better, isBetter, betterIs⟩ := List.mem_map.mp
    (merged ▸ by simp : ((1, -19 / 2) : UUID × ℚ) ∈ (fuseResults sampleLexical sampleVector
      scoresOnly).map fun merged => (merged.chunkId, merged.score.fusionScore))
  obtain ⟨other, isOther, otherIs⟩ := List.mem_map.mp
    (merged ▸ by simp : ((2, 1 / 2) : UUID × ℚ) ∈ (fuseResults sampleLexical sampleVector
      scoresOnly).map fun merged => (merged.chunkId, merged.score.fusionScore))
  obtain ⟨one, betterScore⟩ := Prod.mk.inj betterIs
  obtain ⟨two, otherScore⟩ := Prod.mk.inj otherIs
  have lower : better.score.fusionScore < other.score.fusionScore := by
    rw [betterScore, otherScore]
    norm_num
  refine absurd (monotone sampleLexical sampleVector scoresOnly (by decide) (by decide) zero_le_one
    zero_le_one (by decide) better isBetter other isOther ?_ ?_) (not_le.mpr lower)
  · refine ⟨1, sampleResult 1 (-10) 0, rfl, one.symm, fun otherPlace found isFound same => ?_⟩
    have missing : ∀ found ∈ sampleLexical, found.chunkId ≠ 2 := by decide
    exact absurd (same.trans two) (missing found (List.mem_of_getElem? isFound))
  · rw [one, two]
    exact noWorse_sampleVector

end Sample

end PolicyOS.Knowledge.Retrieval
