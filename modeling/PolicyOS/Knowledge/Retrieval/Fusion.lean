import PolicyOS.Domain.Primitives
import PolicyOS.Foundation.SortedBy
import PolicyOS.Foundation.Upsert

/-!
# Fusion of lexical and vector results

The results of two searches are merged by chunk. A chunk is scored by its weighted normalized
scores and, where ranks are fused as well, by its weighted reciprocal ranks.
-/

namespace PolicyOS.Knowledge.Retrieval

open Foundation

/-- A chunk that was found, with whatever else is known of it. -/
structure RetrievalCandidate (Details : Type) where
  chunkId : UUID
  details : Details

/-- The scores of a chunk, with whatever else its searches say of it. -/
structure RetrievalScore (Marks : Type) where
  lexicalScore : ℚ := 0
  vectorScore : ℚ := 0
  normalizedLexicalScore : ℚ := 0
  normalizedVectorScore : ℚ := 0
  fusionScore : ℚ := 0
  finalScore : ℚ := 0
  marks : Marks

/-- A result of a search, or a merged one. -/
structure SearchResult (Details Marks : Type) where
  candidate : RetrievalCandidate Details
  score : RetrievalScore Marks

/-- The weights of the searches, and whether and how ranks are fused. -/
structure FusionConfig where
  lexicalWeight : ℚ := 1 / 2
  vectorWeight : ℚ := 1 / 2
  rankConstant : Int := 60
  useRrf : Bool := true

variable {Details Marks : Type}

/-- The chunk of a result. -/
abbrev SearchResult.chunkId (result : SearchResult Details Marks) : UUID :=
  result.candidate.chunkId

/-- The largest of values, or zero for none. -/
def maximum (values : List ℚ) : ℚ := (values.max?).getD 0

/-- Values divided by the largest, where that is positive. -/
def maxNormalize (values : List ℚ) : List ℚ :=
  values.map fun value => if 0 < maximum values then value / maximum values else 0

/-- A cosine between zero and one. -/
def cosineNormalize (value : ℚ) : ℚ := max 0 (min 1 ((value + 1) / 2))

/-- What a rank adds to the score of a chunk. -/
def reciprocalRank (config : FusionConfig) (weight : ℚ) (rank : Nat) : ℚ :=
  if config.useRrf then weight / (config.rankConstant + rank) else 0

/-- The merged row of a chunk: its normalized scores and its fused score. -/
structure FusionRow (Details Marks : Type) where
  candidate : RetrievalCandidate Details
  score : RetrievalScore Marks
  lexicalNorm : ℚ
  vectorNorm : ℚ
  fusion : ℚ

/-- The chunk of a row. -/
abbrev FusionRow.chunkId (row : FusionRow Details Marks) : UUID := row.candidate.chunkId

/-- A result with its normalized score and its rank. -/
structure RankedResult (Details Marks : Type) where
  item : SearchResult Details Marks
  norm : ℚ
  rank : Nat

/-- The chunk of a ranked result. -/
abbrev RankedResult.chunkId (found : RankedResult Details Marks) : UUID := found.item.chunkId

/-- Results with their normalized scores, ranked from one. -/
def rankedResults (results : List (SearchResult Details Marks)) (norms : List ℚ) :
    List (RankedResult Details Marks) :=
  ((results.zip norms).zipIdx 1).map fun entry => ⟨entry.1.1, entry.1.2, entry.2⟩

/-- The row of a lexical result. -/
def lexicalRow (config : FusionConfig) (found : RankedResult Details Marks) :
    FusionRow Details Marks where
  candidate := found.item.candidate
  score := found.item.score
  lexicalNorm := found.norm
  vectorNorm := 0
  fusion := config.lexicalWeight * found.norm +
    reciprocalRank config config.lexicalWeight found.rank

/-- A lexical result takes the row of its chunk. -/
def addLexical (config : FusionConfig) (rows : List (FusionRow Details Marks))
    (found : RankedResult Details Marks) : List (FusionRow Details Marks) :=
  upsert (·.chunkId) found.chunkId (lexicalRow config found) (fun _ => lexicalRow config found) rows

/-- The row of a chunk only the vector search has found, before its score is added. -/
def emptyRow (found : RankedResult Details Marks) : FusionRow Details Marks where
  candidate := found.item.candidate
  score := found.item.score
  lexicalNorm := 0
  vectorNorm := 0
  fusion := 0

/-- A row with what a vector result adds to it. -/
def vectorRow (config : FusionConfig) (found : RankedResult Details Marks)
    (row : FusionRow Details Marks) : FusionRow Details Marks :=
  { row with
    vectorNorm := found.norm
    fusion := row.fusion + (config.vectorWeight * found.norm +
      reciprocalRank config config.vectorWeight found.rank)
    score := { row.score with vectorScore := found.item.score.vectorScore } }

/-- A vector result adds to the row of its chunk. -/
def addVector (config : FusionConfig) (rows : List (FusionRow Details Marks))
    (found : RankedResult Details Marks) : List (FusionRow Details Marks) :=
  upsert (·.chunkId) found.chunkId (emptyRow found) (vectorRow config found) rows

/-- The rows of all chunks that were found. -/
def mergedRows (lexical vector : List (SearchResult Details Marks)) (config : FusionConfig) :
    List (FusionRow Details Marks) :=
  let lexicalNorm := maxNormalize (lexical.map (·.score.lexicalScore))
  let vectorNorm := vector.map fun result => cosineNormalize result.score.vectorScore
  let rows := (rankedResults lexical lexicalNorm).foldl (addLexical config) []
  (rankedResults vector vectorNorm).foldl (addVector config) rows

/-- The merged result of a row. -/
def FusionRow.result (row : FusionRow Details Marks) : SearchResult Details Marks where
  candidate := row.candidate
  score :=
    { row.score with
      normalizedLexicalScore := row.lexicalNorm
      normalizedVectorScore := row.vectorNorm
      fusionScore := row.fusion
      finalScore := row.fusion }

/-- What merged results are ordered by. -/
def fusionKey (result : SearchResult Details Marks) : ℚ ×ₗ UUID :=
  toLex (-result.score.fusionScore, result.chunkId)

/-- The results of both searches, merged and ordered. -/
def fuseResults (lexical vector : List (SearchResult Details Marks)) (config : FusionConfig) :
    List (SearchResult Details Marks) :=
  sortedBy fusionKey ((mergedRows lexical vector config).map (·.result))

end PolicyOS.Knowledge.Retrieval
