import PolicyOS.Knowledge.ChunkConservation

/-!
# Pieces of texts

A text that is split keeps every character that is not white space, and no piece is longer than
the limit. So a text that is not blank has a piece, whatever it is split by.
-/

namespace PolicyOS.Knowledge

open Foundation

/-! ## Blank texts -/

theorem solid_cons_ne_nil {char : Char} {rest : Text} (visible : ¬ Text.isSpace char) :
    solid (char :: rest) ≠ [] := by
  rw [solid, List.filter_cons_of_pos (by simpa using visible)]
  exact List.cons_ne_nil _ _

variable {text : Text} {texts : List Text} {limit : Nat}

/-- Only of a blank text nothing remains. -/
theorem strip_eq_nil_iff : text.strip = [] ↔ solid text = [] := by
  refine ⟨fun blank => by rw [← solid_strip, blank]; rfl, fun blank => ?_⟩
  rw [← solid_strip] at blank
  by_contra some_
  -- what is stripped ends with a character that is not white space
  have isFront : (text.dropWhile Text.isSpace).reverse.dropWhile Text.isSpace ≠ [] := by
    intro none
    exact some_ (by rw [Text.strip, none]; rfl)
  have visible := List.head_dropWhile_not Text.isSpace isFront
  have split := List.cons_head_tail isFront
  have isSolid : solid ((text.dropWhile Text.isSpace).reverse.dropWhile Text.isSpace) ≠ [] := by
    rw [← split]
    exact solid_cons_ne_nil (by simpa using visible)
  rw [Text.strip, solid_reverse] at blank
  exact isSolid (List.reverse_eq_nil_iff.mp blank)

theorem solid_flatten : solid texts.flatten = (texts.map solid).flatten := by
  induction texts with
  | nil => rfl
  | cons first rest ih =>
      rw [List.flatten_cons, solid_append, ih, List.map_cons, List.flatten_cons]

theorem solid_flatten_eq_nil_iff :
    solid texts.flatten = [] ↔ ∀ text ∈ texts, solid text = [] := by
  simp [solid_flatten]

theorem strip_cons_of_isSpace {char : Char} (space : Text.isSpace char) :
    Text.strip (char :: text) = text.strip := by
  rw [Text.strip, List.dropWhile_cons_of_pos space, Text.strip]

/-! ## Joined texts -/

theorem join_cons {separator item : Text} (some_ : texts ≠ []) :
    Text.join separator (item :: texts) = item ++ separator ++ Text.join separator texts := by
  obtain ⟨first, rest, rfl⟩ := List.exists_cons_of_ne_nil some_
  rw [Text.join, List.intersperse_cons_cons, List.flatten_cons, List.flatten_cons, Text.join,
    List.append_assoc]

/-- A text more is put after a separator. -/
theorem join_concat {separator item : Text} : ∀ {texts : List Text}, texts ≠ [] →
    Text.join separator (texts ++ [item]) = Text.join separator texts ++ separator ++ item := by
  intro texts
  induction texts with
  | nil => exact fun none => absurd rfl none
  | cons first rest ih =>
      intro _
      cases rest with
      | nil => simp [Text.join, List.intersperse]
      | cons second others =>
          have later := ih (List.cons_ne_nil _ _)
          simp only [Text.join, List.cons_append, List.intersperse_cons_cons, List.flatten_cons]
            at later ⊢
          rw [later]
          simp only [List.append_assoc]

theorem join_singleton {separator item : Text} : Text.join separator [item] = item := by
  simp [Text.join, List.intersperse]

theorem length_join_le_concat {separator item : Text} :
    (Text.join separator texts).length ≤ (Text.join separator (texts ++ [item])).length := by
  by_cases none : texts = []
  · rw [none]
    exact Nat.zero_le _
  · rw [join_concat none, List.length_append, List.length_append]
    omega

theorem length_last_le_join {separator item : Text} :
    item.length ≤ (Text.join separator (texts ++ [item])).length := by
  by_cases none : texts = []
  · rw [none, List.nil_append, join_singleton]
  · rw [join_concat none, List.length_append]
    omega

/-! ## Lines and paragraphs -/

theorem isSpace_of_isLineBreak {char : Char} (breaks : Text.isLineBreak char) :
    Text.isSpace char := by
  simp only [Text.isLineBreak, Text.isSpace, decide_eq_true_eq, List.mem_cons, List.not_mem_nil,
    or_false] at breaks ⊢
  omega

theorem solid_cons_of_isSpace {char : Char} {rest : Text} (space : Text.isSpace char) :
    solid (char :: rest) = solid rest := by
  rw [solid, List.filter_cons_of_neg (by simpa), solid]

/-- Lines lose only white space. -/
theorem solid_splitLinesFrom : ∀ {text begun : Text},
    solid (Text.splitLinesFrom text begun).flatten = solid begun ++ solid text := by
  intro text begun
  induction text, begun using Text.splitLinesFrom.induct with
  | case1 => rfl
  | case2 begun some_ => simp [Text.splitLinesFrom, some_, solid]
  | case3 begun rest ih =>
      rw [Text.splitLinesFrom, List.flatten_cons, solid_append, ih,
        solid_cons_of_isSpace (by decide), solid_cons_of_isSpace (by decide)]
      rfl
  | case4 begun char rest notBoth breaks ih =>
      rw [Text.splitLinesFrom.eq_3 _ _ _ notBoth, if_pos breaks, List.flatten_cons, solid_append,
        ih, solid_cons_of_isSpace (isSpace_of_isLineBreak breaks)]
      rfl
  | case5 begun char rest notBoth within ih =>
      rw [Text.splitLinesFrom.eq_3 _ _ _ notBoth, if_neg within, ih, solid_append,
        List.append_assoc, ← solid_append, List.singleton_append]

theorem solid_splitLines : solid (Text.splitLines text).flatten = solid text :=
  solid_splitLinesFrom

/-- What a run of white space ends and begins is what was before it. -/
theorem solid_closeRun {current run : Text} (blank : solid run = []) :
    solid (Text.closeRun current run).1.flatten ++ solid (Text.closeRun current run).2 =
      solid current := by
  unfold Text.closeRun
  split_ifs
  · have rest : solid (run.reverse.takeWhile (· ≠ '\n')).reverse = [] := by
      rw [solid, List.filter_eq_nil_iff] at blank ⊢
      intro char isRest
      exact blank char (List.mem_reverse.mp
        ((List.takeWhile_prefix _).subset (List.mem_reverse.mp isRest)))
    dsimp only
    rw [rest, List.flatten_singleton, List.append_nil]
  · dsimp only
    rw [solid_append, blank, List.append_nil]
    rfl

/-- Paragraphs lose only white space. -/
theorem solid_splitBlankFrom : ∀ {text current : Text} {run : Option Text},
    (∀ given ∈ run, solid given = []) →
      solid (Text.splitBlankFrom text current run).flatten = solid current ++ solid text := by
  intro text current run
  induction text, current, run using Text.splitBlankFrom.induct with
  | case1 current =>
      intro _
      rw [Text.splitBlankFrom, List.flatten_singleton]
      exact (List.append_nil _).symm
  | case2 current run ended begun closed =>
      intro blank
      have whole := @solid_closeRun current run (blank run rfl)
      simp only [closed] at whole
      simp only [Text.splitBlankFrom, closed, List.flatten_append, solid_append, whole,
        List.flatten_singleton]
      exact (List.append_nil _).symm
  | case3 current rest ih =>
      intro _
      rw [Text.splitBlankFrom, if_pos rfl, ih (by decide), solid_cons_of_isSpace (by decide)]
  | case4 current char rest within ih =>
      intro _
      rw [Text.splitBlankFrom, if_neg within, ih (fun _ none => nomatch none), solid_append,
        List.append_assoc, ← solid_append, List.singleton_append]
  | case5 char rest current run space ih =>
      intro blank
      have longer : solid (run ++ [char]) = [] := by
        rw [solid_append, blank run rfl, solid_cons_of_isSpace space]
        rfl
      rw [Text.splitBlankFrom, if_pos space, ih (by simpa using longer),
        solid_cons_of_isSpace space]
  | case6 char rest current run visible ended begun closed ih =>
      intro blank
      have whole := @solid_closeRun current run (blank run rfl)
      simp only [closed] at whole
      rw [Text.splitBlankFrom, if_neg visible, closed]
      dsimp only
      rw [List.flatten_append, solid_append, ih (fun _ none => nomatch none), ← whole,
        List.append_assoc, solid_append, List.append_assoc, ← solid_append, List.singleton_append]

theorem solid_splitBlank : solid (Text.splitBlank text).flatten = solid text :=
  solid_splitBlankFrom fun _ none => nomatch none

/-! ## Sentences -/

/-- Splitting at the ends of sentences loses only white space. -/
theorem solid_splitAfterFrom {enders : List Char} : ∀ {text current : Text} {skipping : Bool},
    solid (Text.splitAfterFrom enders text current skipping).flatten =
      solid current ++ solid text := by
  intro text
  induction text with
  | nil =>
      intro current skipping
      simp [Text.splitAfterFrom, solid]
  | cons char rest ih =>
      intro current skipping
      rw [Text.splitAfterFrom]
      split_ifs with skips ends
      · rw [ih, solid_cons_of_isSpace (Bool.and_eq_true_iff.mp skips).1]
      · rw [List.flatten_cons, solid_append, ih,
          solid_cons_of_isSpace (Bool.and_eq_true_iff.mp ends).1]
        rfl
      · rw [ih, solid_append, List.append_assoc, ← solid_append, List.singleton_append]

theorem solid_splitAfter {enders : List Char} :
    solid (Text.splitAfter enders text).flatten = solid text :=
  solid_splitAfterFrom

theorem lastIndexWithin_lt {char : Char} {bound place : Nat}
    (found : Text.lastIndexWithin char bound text = some place) : place < bound := by
  obtain ⟨⟨_, index⟩, isLast, rfl⟩ := Option.map_eq_some_iff.mp found
  have isPlace := (List.mem_filter.mp (List.mem_of_getLast? isLast)).1
  have within := (List.mem_zipIdx isPlace).2.1
  rw [List.length_take] at within
  omega

theorem splitPoint_bounds {remaining : Text} (room : 1 ≤ limit) :
    0 < splitPoint limit remaining ∧ splitPoint limit remaining ≤ limit := by
  unfold splitPoint
  split
  · next place found =>
      have within := lastIndexWithin_lt found
      split_ifs
      · omega
      · omega
  · omega

/-- Cutting a sentence loses only white space, and neither a piece nor what remains is too
long. -/
theorem hardSplit_spec (room : 1 ≤ limit) (remaining : Text) :
    (∀ piece ∈ (hardSplit limit remaining).1, piece.length ≤ limit) ∧
      (hardSplit limit remaining).2.length ≤ limit ∧
        solid (hardSplit limit remaining).1.flatten ++ solid (hardSplit limit remaining).2 =
          solid remaining := by
  induction remaining using hardSplit.induct limit with
  | case1 remaining done =>
      rw [hardSplit, if_pos done]
      have short : remaining.length ≤ limit :=
        done.resolve_right (splitPoint_bounds room).1.ne'
      exact ⟨fun _ none => absurd none List.not_mem_nil, short, rfl⟩
  | case2 remaining long split _ _ _ ih =>
      obtain ⟨pieces, remains, whole⟩ := ih
      have within : (Text.strip (remaining.take (splitPoint limit remaining))).length ≤ limit :=
        (Text.length_strip_le _).trans
          ((List.length_take_le ..).trans (splitPoint_bounds room).2)
      rw [hardSplit, if_neg long]
      refine ⟨List.forall_mem_cons.mpr ⟨within, pieces⟩, remains, ?_⟩
      rw [List.flatten_cons, solid_append, List.append_assoc]
      trans solid (remaining.take split) ++ solid (remaining.drop split)
      · rw [solid_strip]
        exact congrArg _ (whole.trans solid_strip)
      · rw [← solid_append, List.take_append_drop]

/-- The pieces of sentences are short enough if the one that was begun is, and lose only white
space. -/
theorem collectSentences_spec (room : 1 ≤ limit) :
    ∀ {sentences : List Text} {current : Text}, current.length ≤ limit →
      (∀ piece ∈ collectSentences limit current sentences, piece.length ≤ limit) ∧
        solid (collectSentences limit current sentences).flatten =
          solid current ++ solid sentences.flatten := by
  intro sentences
  induction sentences with
  | nil =>
      intro current short
      rw [collectSentences]
      split_ifs with none
      · subst none
        exact ⟨fun _ none => absurd none List.not_mem_nil, rfl⟩
      · exact ⟨List.forall_mem_singleton.mpr short, by simp [solid]⟩
  | cons sentence rest ih =>
      intro current short
      rw [collectSentences, List.flatten_cons, solid_append]
      by_cases long : limit < sentence.length
      · -- the sentence is cut, and what remains of it begins the next piece
        obtain ⟨pieces, remains, whole⟩ := hardSplit_spec room sentence
        obtain ⟨later, others⟩ := ih remains
        rw [if_pos long]
        have begun : (∀ piece ∈ if current = [] then [] else [current], piece.length ≤ limit) ∧
            solid (if current = [] then [] else [current]).flatten = solid current := by
          split_ifs with none
          · subst none
            exact ⟨fun _ none => absurd none List.not_mem_nil, rfl⟩
          · exact ⟨List.forall_mem_singleton.mpr short, by simp⟩
        have both := List.forall_mem_append.mpr ⟨begun.1, pieces⟩
        refine ⟨List.forall_mem_append.mpr ⟨both, later⟩, ?_⟩
        rw [List.flatten_append, List.flatten_append, solid_append, solid_append, begun.2, others,
          ← whole]
        simp only [List.append_assoc]
      · rw [if_neg long]
        dsimp only
        split_ifs with apart
        · obtain ⟨later, others⟩ := @ih sentence (Nat.le_of_not_lt long)
          refine ⟨List.forall_mem_cons.mpr ⟨short, later⟩, ?_⟩
          rw [List.flatten_cons, solid_append, others]
        · have fits : (Text.strip (current ++ ' ' :: sentence)).length ≤ limit := by
            by_cases none : current = []
            · rw [none, List.nil_append, strip_cons_of_isSpace (by decide)]
              exact (Text.length_strip_le sentence).trans (Nat.le_of_not_lt long)
            · exact Nat.le_of_not_lt fun exceeds => apart ⟨none, exceeds⟩
          obtain ⟨later, others⟩ := @ih _ fits
          refine ⟨later, ?_⟩
          rw [others, solid_strip, solid_append, List.append_assoc]
          rfl

/-! ## Pieces -/

/-- A text can be split if there is room for a character, into pieces that are short enough and
lose only white space. -/
theorem safeSplit_spec (room : 1 ≤ limit) :
    ∃ pieces, safeSplit text limit = .ok pieces ∧ (∀ piece ∈ pieces, piece.length ≤ limit) ∧
      solid pieces.flatten = solid text := by
  have checked : rejectIf (limit < 1)
      (ChunkingError.chunking "Chunk size leaves no room for structured content") = .ok () :=
    rejectIf_eq_ok_iff.mpr (by omega)
  unfold safeSplit
  rw [checked]
  by_cases short : text.length ≤ limit
  · exact ⟨[text], if_pos short, List.forall_mem_singleton.mpr short, by simp⟩
  · obtain ⟨pieces, whole⟩ := @collectSentences_spec limit room
      (Text.splitAfter sentenceEnds text) [] (Nat.zero_le _)
    refine ⟨_, if_neg short, fun piece listed => pieces piece (List.mem_of_mem_filter listed), ?_⟩
    rw [List.flatten_filter_ne_nil, whole, solid_splitAfter]
    rfl

/-- The loop that cuts a sentence ends: what remains after a cut is shorter. -/
theorem length_afterCut_lt {remaining : Text} (room : 1 ≤ limit) (long : limit < remaining.length) :
    (Text.strip (remaining.drop (splitPoint limit remaining))).length < remaining.length := by
  have cut := (@splitPoint_bounds limit remaining room).1
  have stripped := Text.length_strip_le (remaining.drop (splitPoint limit remaining))
  rw [List.length_drop] at stripped
  omega

/-- Of a text with anything visible on it, no piece is empty. -/
theorem safeSplit_ne_nil {pieces : List Text} (split : safeSplit text limit = .ok pieces)
    (visible : solid text ≠ []) :
    ∀ piece ∈ pieces, piece ≠ [] := by
  obtain ⟨-, -, split⟩ := bind_eq_ok_iff.mp split
  split_ifs at split
  · cases split
    rintro piece isPiece rfl
    rw [← List.mem_singleton.mp isPiece] at visible
    exact visible rfl
  · cases split
    intro piece isPiece
    simpa using (List.mem_filter.mp isPiece).2

/-- A text is split in finitely many steps, for any room: every cut leaves less to cut, and the
pieces are short enough, lose only white space, and are not empty if anything is visible. -/
theorem safeSplit_conserves (text : Text) (limit : Nat) (room : 1 ≤ limit) :
    (∀ remaining : Text, limit < remaining.length →
      (Text.strip (remaining.drop (splitPoint limit remaining))).length < remaining.length) ∧
    ∃ pieces, safeSplit text limit = .ok pieces ∧ (∀ piece ∈ pieces, piece.length ≤ limit) ∧
      solid pieces.flatten = solid text ∧
      (solid text ≠ [] → pieces ≠ [] ∧ ∀ piece ∈ pieces, piece ≠ []) := by
  refine ⟨fun remaining => length_afterCut_lt room, ?_⟩
  obtain ⟨pieces, split, short, whole⟩ := @safeSplit_spec text limit room
  refine ⟨pieces, split, short, whole, fun visible => ⟨?_, safeSplit_ne_nil split visible⟩⟩
  rintro rfl
  exact visible whole.symm

/-- Blanks right at the limit. -/
theorem safeSplit_conserves_blanks :
    ∃ pieces, safeSplit "a bc  d".toList 2 = .ok pieces ∧
      solid pieces.flatten = "abcd".toList ∧ ∀ piece ∈ pieces, piece ≠ [] := by
  obtain ⟨-, pieces, split, -, whole, visible⟩ :=
    safeSplit_conserves "a bc  d".toList 2 (by decide)
  exact ⟨pieces, split, whole.trans (by decide), (visible (by decide)).2⟩

end PolicyOS.Knowledge
