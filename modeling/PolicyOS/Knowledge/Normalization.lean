import Mathlib.Data.List.Chain
import Mathlib.Data.List.DropRight
import PolicyOS.Knowledge.Pieces

/-!
# Text normalization

A text is put into its composed form, its lines are stripped and their blanks collapsed, and of
several blank lines one is kept. The words of the text stay as they are, so that a text that is
normalized again stays the same.
-/

namespace PolicyOS.Knowledge

open Foundation

/-- `\r\n` is one end of a line. -/
def replaceCrLf : Text → Text
  | '\r' :: '\n' :: rest => '\n' :: replaceCrLf rest
  | char :: rest => char :: replaceCrLf rest
  | [] => []

/-- Any other `\r` is an end of a line. -/
def replaceCr (text : Text) : Text := text.map fun char => if char = '\r' then '\n' else char

/-- A tab or a space. -/
def isBlank (char : Char) : Bool := char = '\t' || char = ' '

/-- Runs of tabs and spaces are one space. -/
def collapse : Text → Text
  | [] => []
  | char :: rest =>
      if isBlank char then
        if rest.head?.any isBlank then collapse rest else ' ' :: collapse rest
      else char :: collapse rest

/-- Of the lines, those that are kept: no blank one before the first, and one of several. -/
def keepLines : List Text → (begun blank : Bool) → List Text
  | [], _, _ => []
  | line :: rest, begun, blank =>
      if line = [] then
        if begun && !blank then [] :: keepLines rest begun true else keepLines rest begun true
      else line :: keepLines rest true false

/-- A text in which only what carries evidence is kept, in the composed form given. -/
def normalize (nfc : Text → Text) (text : Text) : Text :=
  let lines := (replaceCr (replaceCrLf (nfc text))).splitOn '\n'
  Text.strip (Text.join ['\n'] (keepLines (lines.map fun line => Text.strip (collapse line))
    false false))

/-! ## Words -/

/-- The words of a text: what is between its white space. -/
def words (text : Text) : List Text := (text.splitOnP Text.isSpace).filter (· ≠ [])

@[simp] theorem words_nil : words [] = [] := by simp [words, List.splitOnP_nil]

theorem words_append_space {front rest : Text} {char : Char} (space : Text.isSpace char = true) :
    words (front ++ char :: rest) = words front ++ words rest := by
  rw [words, List.splitOnP_append_cons _ _ space, List.filter_append]
  rfl

theorem words_space {rest : Text} {char : Char} (space : Text.isSpace char = true) :
    words (char :: rest) = words rest := by
  simpa using @words_append_space [] rest char space

/-- A change of white space only: the words stay, whatever stands before. -/
def KeepsWords (change : Text → Text) : Prop :=
  ∀ text front, words (front ++ change text) = words (front ++ text)

theorem keepsWords_replaceCrLf : KeepsWords replaceCrLf := by
  intro text
  induction text using replaceCrLf.induct with
  | case1 rest ih =>
      intro front
      rw [replaceCrLf, words_append_space (by decide), words_append_space (by decide),
        words_space (by decide)]
      exact congrArg _ (ih [])
  | case2 char rest _ ih =>
      intro front
      rw [replaceCrLf.eq_2 _ _ (by assumption)]
      simpa using ih (front ++ [char])
  | case3 => exact fun front => rfl

theorem keepsWords_replaceCr : KeepsWords replaceCr := by
  intro text
  induction text with
  | nil => exact fun front => rfl
  | cons char rest ih =>
      intro front
      rw [replaceCr, List.map_cons]
      split_ifs with ends
      · subst ends
        rw [words_append_space (by decide), words_append_space (by decide)]
        exact congrArg _ (ih [])
      · simpa [replaceCr] using ih (front ++ [char])

theorem isSpace_of_isBlank {char : Char} (blank : isBlank char = true) :
    Text.isSpace char = true := by
  simp only [isBlank, Bool.or_eq_true, decide_eq_true_eq] at blank
  rcases blank with rfl | rfl <;> decide

theorem keepsWords_collapse : KeepsWords collapse := by
  intro text
  induction text with
  | nil => exact fun front => rfl
  | cons char rest ih =>
      intro front
      rw [collapse]
      split_ifs with blank more
      · -- the run goes on, and the rest of it starts with white space as well
        obtain ⟨next, others, rfl⟩ : ∃ next others, rest = next :: others := by
          cases rest with
          | nil => cases more
          | cons next others => exact ⟨next, others, rfl⟩
        have space := isSpace_of_isBlank (show isBlank next = true from more)
        rw [words_append_space (isSpace_of_isBlank blank), ih front, words_append_space space,
          words_space space]
      · rw [words_append_space (by decide), words_append_space (isSpace_of_isBlank blank)]
        exact congrArg _ (ih [])
      · simpa using ih (front ++ [char])

/-- Stripping keeps the words. -/
theorem words_strip (text : Text) : words text.strip = words text := by
  have front : ∀ text, words (text.dropWhile Text.isSpace) = words text := by
    intro text
    induction text with
    | nil => rfl
    | cons char rest ih =>
        by_cases space : Text.isSpace char
        · rw [List.dropWhile_cons_of_pos space, ih, words_space space]
        · rw [List.dropWhile_cons_of_neg space]
  have back : ∀ text : Text, words (text.rdropWhile Text.isSpace) = words text := by
    intro text
    induction text using List.reverseRecOn with
    | nil => rfl
    | append_singleton rest char ih =>
        by_cases space : Text.isSpace char
        · rw [List.rdropWhile_concat_pos _ _ _ space, ih, words_append_space space, words_nil,
            List.append_nil]
        · rw [List.rdropWhile_concat_neg _ _ _ space]
  exact (back _).trans (front text)

/-- The words of lines are those of the text they make. -/
theorem words_join (lines : List Text) : words (Text.join ['\n'] lines) = lines.flatMap words := by
  unfold Text.join
  induction lines with
  | nil => simp
  | cons line rest ih =>
      cases rest with
      | nil => simp
      | cons second others =>
          rw [List.intersperse_cons_cons, List.flatten_cons, List.flatten_cons,
            List.singleton_append, words_append_space (by decide), ih]
          exact List.flatMap_cons.symm

theorem flatMap_words_splitOn (text : Text) : (text.splitOn '\n').flatMap words = words text := by
  rw [← words_join]
  exact congrArg words (List.intercalate_splitOn '\n')

theorem flatMap_words_keepLines :
    ∀ {lines : List Text} {begun blank : Bool},
      (keepLines lines begun blank).flatMap words = lines.flatMap words
  | [], _, _ => rfl
  | line :: rest, begun, blank => by
      rw [keepLines]
      split_ifs with none kept
      · simp [none, @flatMap_words_keepLines rest]
      · simp [none, @flatMap_words_keepLines rest]
      · simp [@flatMap_words_keepLines rest]

/-- A normalized text has the words of the composed form. -/
theorem words_normalize (nfc : Text → Text) (text : Text) :
    words (normalize nfc text) = words (nfc text) := by
  have line : ∀ line, words (Text.strip (collapse line)) = words line :=
    fun line => (words_strip _).trans (keepsWords_collapse line [])
  rw [normalize, words_strip, words_join, flatMap_words_keepLines, List.flatMap_map]
  simp only [line]
  rw [flatMap_words_splitOn]
  exact (keepsWords_replaceCr _ []).trans (keepsWords_replaceCrLf _ [])

/-! ## Lines -/

/-- No tab, and no two blanks one after the other. -/
def Collapsed (text : Text) : Prop :=
  '\t' ∉ text ∧ text.IsChain fun char next => ¬ (isBlank char = true ∧ isBlank next = true)

/-- Not both lines are blank. -/
def Apart (line next : Text) : Prop := ¬ (line = [] ∧ next = [])

/-- A line that normalization leaves as it is. -/
structure TidyLine (line : Text) : Prop where
  stripped : line.strip = line
  collapsed : Collapsed line
  one : '\n' ∉ line
  unix : '\r' ∉ line

/-- Lines that normalization leaves as they are. -/
structure Tidy (lines : List Text) : Prop where
  line : ∀ line ∈ lines, TidyLine line
  apart : lines.IsChain Apart
  first : ∀ line ∈ lines.head?, line ≠ []
  last : ∀ line ∈ lines.getLast?, line ≠ []

theorem strip_isInfix (text : Text) : text.strip <:+: text :=
  (List.rdropWhile_prefix _ _).isInfix.trans (List.dropWhile_suffix _).isInfix

theorem mem_collapse {char : Char} :
    ∀ {text : Text}, char ∈ collapse text → char = ' ' ∨ char ∈ text
  | [], among => absurd among List.not_mem_nil
  | first :: rest, among => by
      rw [collapse] at among
      split_ifs at among
      · exact (mem_collapse among).imp id (List.mem_cons_of_mem _)
      · rcases List.mem_cons.mp among with rfl | later
        · exact .inl rfl
        · exact (mem_collapse later).imp id (List.mem_cons_of_mem _)
      · rcases List.mem_cons.mp among with rfl | later
        · exact .inr (.head _)
        · exact (mem_collapse later).imp id (List.mem_cons_of_mem _)

/-- A collapsed text starts with a blank exactly if the text does. -/
theorem isBlank_head_collapse : ∀ text : Text,
    (collapse text).head?.any isBlank = text.head?.any isBlank
  | [] => rfl
  | first :: rest => by
      rw [collapse]
      split_ifs with blank more
      · rw [isBlank_head_collapse rest, more]
        exact blank.symm
      · exact blank.symm
      · rfl

theorem collapsed_collapse : ∀ text : Text, Collapsed (collapse text)
  | [] => ⟨List.not_mem_nil, .nil⟩
  | first :: rest => by
      obtain ⟨untabbed, chain⟩ := collapsed_collapse rest
      have head := isBlank_head_collapse rest
      rw [collapse]
      split_ifs with blank more
      · exact ⟨untabbed, chain⟩
      · refine ⟨by simpa using untabbed, List.isChain_cons.mpr ⟨fun next isNext both => ?_, chain⟩⟩
        rw [isNext] at head
        exact more (head.symm.trans both.2)
      · refine ⟨fun among => ?_, List.isChain_cons.mpr ⟨fun next _ both => blank both.1, chain⟩⟩
        rcases List.mem_cons.mp among with rfl | later
        · exact blank (by decide)
        · exact untabbed later

/-- A collapsed text has nothing to collapse. -/
theorem collapse_of_collapsed : ∀ {text : Text}, Collapsed text → collapse text = text
  | [], _ => rfl
  | first :: rest, ⟨untabbed, chain⟩ => by
      rw [List.isChain_cons] at chain
      have same := collapse_of_collapsed ⟨fun tab => untabbed (.tail _ tab), chain.2⟩
      rw [collapse, same]
      split_ifs with blank more
      · cases rest with
        | nil => cases more
        | cons next others => exact absurd ⟨blank, more⟩ (chain.1 next rfl)
      · simp only [isBlank, Bool.or_eq_true, decide_eq_true_eq] at blank
        rcases blank with rfl | rfl
        · exact absurd (.head _) untabbed
        · rfl
      · rfl

/-- Whatever is kept of stripped lines starts with a line that is not blank, unless one was kept
before, and two blank lines are never kept in a row. -/
theorem keepLines_apart : ∀ {lines : List Text} {begun blank : Bool},
    (keepLines lines begun blank).IsChain Apart ∧
      (begun = false ∨ blank = true → ∀ line ∈ (keepLines lines begun blank).head?, line ≠ [])
  | [], _, _ => ⟨.nil, fun _ _ none => by cases none⟩
  | line :: rest, begun, blank => by
      rw [keepLines]
      split_ifs with none kept
      · simp only [Bool.and_eq_true, Bool.not_eq_true'] at kept
        obtain ⟨apart, first⟩ := @keepLines_apart rest begun true
        refine ⟨List.isChain_cons.mpr ⟨fun next isNext both => ?_, apart⟩, fun either => ?_⟩
        · exact first (.inr rfl) next isNext both.2
        · rcases either with unbegun | isBlank
          · rw [kept.1] at unbegun
            cases unbegun
          · rw [kept.2] at isBlank
            cases isBlank
      · obtain ⟨apart, first⟩ := @keepLines_apart rest begun true
        exact ⟨apart, fun _ => first (.inr rfl)⟩
      · refine ⟨List.isChain_cons.mpr ⟨fun _ _ both => none both.1, keepLines_apart.1⟩, ?_⟩
        rintro - _ isHead
        cases isHead
        exact none

/-- A line that is kept is blank, or one of the lines. -/
theorem mem_keepLines {line : Text} : ∀ {lines : List Text} {begun blank : Bool},
    line ∈ keepLines lines begun blank → line = [] ∨ line ∈ lines
  | [], _, _, among => absurd among List.not_mem_nil
  | first :: rest, begun, blank, among => by
      rw [keepLines] at among
      split_ifs at among
      · rcases List.mem_cons.mp among with rfl | later
        · exact .inl rfl
        · exact (mem_keepLines later).imp id (List.mem_cons_of_mem _)
      · exact (mem_keepLines among).imp id (List.mem_cons_of_mem _)
      · rcases List.mem_cons.mp among with rfl | later
        · exact .inr (.head _)
        · exact (mem_keepLines later).imp id (List.mem_cons_of_mem _)

/-- Lines that are apart are all kept. -/
theorem keepLines_of_apart : ∀ {lines : List Text} {begun blank : Bool}, lines.IsChain Apart →
    (begun = false ∨ blank = true → ∀ line ∈ lines.head?, line ≠ []) →
      keepLines lines begun blank = lines
  | [], _, _, _, _ => rfl
  | line :: rest, begun, blank, apart, first => by
      rw [List.isChain_cons] at apart
      rw [keepLines]
      split_ifs with none kept
      · rw [none, keepLines_of_apart apart.2 fun _ next isNext isBlank =>
          apart.1 next isNext ⟨none, isBlank⟩]
      · refine absurd none (first ?_ line rfl)
        cases begun <;> cases blank <;> simp_all
      · rw [keepLines_of_apart apart.2 (by simp)]

/-- A text keeps what it starts and ends with if neither is white space. -/
theorem strip_eq_self_iff {text : Text} : text.strip = text ↔
    text.dropWhile Text.isSpace = text ∧ text.rdropWhile Text.isSpace = text := by
  constructor
  · intro stripped
    have front := List.dropWhile_suffix Text.isSpace (l := text)
    have shorter : text.length ≤ (text.dropWhile Text.isSpace).length := by
      have within := (List.rdropWhile_prefix Text.isSpace (text.dropWhile Text.isSpace)).length_le
      exact (congrArg List.length stripped).symm.le.trans within
    have whole := front.eq_of_length (front.length_le.antisymm shorter)
    refine ⟨whole, ?_⟩
    rw [← whole]
    exact stripped.trans whole.symm
  · rintro ⟨front, back⟩
    rw [Text.strip, front]
    exact back

theorem strip_strip (text : Text) : text.strip.strip = text.strip := by
  refine strip_eq_self_iff.mpr ⟨?_, List.rdropWhile_idempotent _ _⟩
  rw [List.dropWhile_eq_self_iff]
  intro any
  have front := List.rdropWhile_prefix Text.isSpace (text.dropWhile Text.isSpace)
  have visible := List.dropWhile_eq_self_iff.mp
    (List.dropWhile_idempotent (p := Text.isSpace) (l := text)) (any.trans_le front.length_le)
  rwa [← front.getElem any] at visible

/-- A piece of a split text has characters of the text, and not the one that is split at. -/
theorem mem_splitOn {separator : Char} : ∀ {text piece : Text}, piece ∈ text.splitOn separator →
    ∀ char ∈ piece, char ≠ separator ∧ char ∈ text
  | [], piece, isPiece, char, among => by
      rw [List.splitOn_nil, List.mem_singleton] at isPiece
      rw [isPiece] at among
      exact absurd among List.not_mem_nil
  | first :: rest, piece, isPiece, char, among => by
      obtain ⟨head, others, split⟩ := List.exists_cons_of_ne_nil
        (List.splitOn_ne_nil separator rest)
      have later : ∀ other ∈ rest.splitOn separator, ∀ char ∈ other,
          char ≠ separator ∧ char ∈ first :: rest :=
        fun other isOther char inside => (mem_splitOn isOther char inside).imp id (.tail _)
      rw [List.splitOn_cons_eq_if_modifyHead] at isPiece
      split_ifs at isPiece with ends
      · rcases List.mem_cons.mp isPiece with rfl | isPiece
        · exact absurd among List.not_mem_nil
        · exact later piece isPiece char among
      · rw [split] at isPiece later
        rcases List.mem_cons.mp isPiece with rfl | isPiece
        · rcases List.mem_cons.mp among with rfl | inside
          · exact ⟨by simpa using ends, .head _⟩
          · exact later head (.head _) char inside
        · exact later piece (.tail _ isPiece) char among

variable {lines : List Text}

/-- Tidy lines, if there are any, make a text with neither white space before nor after it. -/
theorem join_visible (tidy : Tidy lines) (any : lines ≠ []) :
    (∃ char rest, Text.join ['\n'] lines = char :: rest ∧ Text.isSpace char = false) ∧
      ∃ rest char, Text.join ['\n'] lines = rest ++ [char] ∧ Text.isSpace char = false := by
  constructor
  · obtain ⟨line, others, rfl⟩ := List.exists_cons_of_ne_nil any
    obtain ⟨char, rest, rfl⟩ := List.exists_cons_of_ne_nil (tidy.first line rfl)
    have visible := (strip_eq_self_iff.mp (tidy.line _ (.head _)).stripped).1
    rw [List.dropWhile_eq_self_iff] at visible
    have isVisible : Text.isSpace char = false := Bool.eq_false_iff.mpr (visible (by simp))
    refine ⟨char, ?_⟩
    by_cases none : others = []
    · exact ⟨rest, by rw [none, join_singleton], isVisible⟩
    · exact ⟨_, by rw [join_cons none]; rfl, isVisible⟩
  · obtain ⟨others, line, rfl⟩ := (List.eq_nil_or_concat' lines).resolve_left any
    have some_ := tidy.last line (by simp)
    obtain ⟨rest, char, rfl⟩ := (List.eq_nil_or_concat' line).resolve_left some_
    have visible := (strip_eq_self_iff.mp (tidy.line (rest ++ [char]) (by simp)).stripped).2
    rw [List.rdropWhile_eq_self_iff] at visible
    have isVisible : Text.isSpace char = false := by simpa using visible (by simp)
    by_cases none : others = []
    · exact ⟨rest, char, by rw [none, List.nil_append, join_singleton], isVisible⟩
    · exact ⟨_, char, by rw [join_concat none, ← List.append_assoc], isVisible⟩

theorem strip_join (tidy : Tidy lines) :
    Text.strip (Text.join ['\n'] lines) = Text.join ['\n'] lines := by
  by_cases any : lines = []
  · rw [any]
    rfl
  obtain ⟨⟨char, rest, starts, visible⟩, others, last, ends, isVisible⟩ := join_visible tidy any
  refine strip_eq_self_iff.mpr ⟨?_, ?_⟩
  · rw [starts, List.dropWhile_cons_of_neg (by simpa using visible)]
  · rw [ends, List.rdropWhile_concat_neg _ _ _ (by simpa using isVisible)]

/-- An end of a line after tidy lines is stripped. -/
theorem strip_join_concat (tidy : Tidy lines) (any : lines ≠ []) :
    Text.strip (Text.join ['\n'] (lines ++ [[]])) = Text.join ['\n'] lines := by
  obtain ⟨⟨char, rest, starts, visible⟩, -⟩ := join_visible tidy any
  have back := (strip_eq_self_iff.mp (strip_join tidy)).2
  rw [join_concat any, List.append_nil, Text.strip, starts, List.cons_append,
    List.dropWhile_cons_of_neg (by simpa using visible), ← List.cons_append, ← starts]
  exact (List.rdropWhile_concat_pos _ _ _ (by decide)).trans back

/-- Whatever is normalized is made of tidy lines. -/
theorem exists_tidy (nfc : Text → Text) (text : Text) :
    ∃ lines, Tidy lines ∧ normalize nfc text = Text.join ['\n'] lines := by
  have each : ∀ line ∈ ((replaceCr (replaceCrLf (nfc text))).splitOn '\n').map
      (fun line => Text.strip (collapse line)), TidyLine line := by
    intro line among
    obtain ⟨piece, isPiece, rfl⟩ := List.mem_map.mp among
    have chars : ∀ char ∈ Text.strip (collapse piece), char = ' ' ∨ char ∈ piece :=
      fun char inside => mem_collapse ((strip_isInfix _).subset inside)
    refine ⟨strip_strip _, ⟨fun tab => ?_, ?_⟩, fun newline => ?_, fun cr => ?_⟩
    · exact (collapsed_collapse piece).1 ((strip_isInfix _).subset tab)
    · exact List.IsChain.infix (collapsed_collapse piece).2 (strip_isInfix _)
    · rcases chars _ newline with blank | inside
      · exact absurd blank (by decide)
      · exact (mem_splitOn isPiece _ inside).1 rfl
    · rcases chars _ cr with blank | inside
      · exact absurd blank (by decide)
      · obtain ⟨char, -, isCr⟩ := List.mem_map.mp (mem_splitOn isPiece _ inside).2
        split_ifs at isCr with ends
        · exact absurd isCr (by decide)
        · exact ends isCr
  obtain ⟨apart, first⟩ := @keepLines_apart (((replaceCr (replaceCrLf (nfc text))).splitOn
    '\n').map fun line => Text.strip (collapse line)) false false
  have kept : ∀ line ∈ keepLines (((replaceCr (replaceCrLf (nfc text))).splitOn '\n').map
      fun line => Text.strip (collapse line)) false false, TidyLine line := by
    intro line among
    rcases mem_keepLines among with rfl | isLine
    · exact ⟨rfl, ⟨List.not_mem_nil, .nil⟩, List.not_mem_nil, List.not_mem_nil⟩
    · exact each line isLine
  rw [normalize]
  generalize keepLines _ false false = lines at apart first kept
  rcases List.eq_nil_or_concat' lines with rfl | ⟨others, last, rfl⟩
  · exact ⟨[], ⟨nofun, .nil, nofun, nofun⟩, rfl⟩
  by_cases blank : last = []
  · subst blank
    have any : others ≠ [] := by
      rintro rfl
      exact first (.inl rfl) [] rfl rfl
    rw [List.isChain_append] at apart
    have tidy : Tidy others := by
      refine ⟨fun line among => kept line (by simp [among]), apart.1, fun line isHead => ?_,
        fun line isLast none => apart.2.2 line isLast [] rfl ⟨none, rfl⟩⟩
      exact first (.inl rfl) line (by rw [List.head?_append_of_ne_nil _ any]; exact isHead)
    exact ⟨others, tidy, strip_join_concat tidy any⟩
  · have tidy : Tidy (others ++ [last]) :=
      ⟨kept, apart, first (.inl rfl), fun line isLast => by simp at isLast; rwa [← isLast]⟩
    exact ⟨_, tidy, strip_join tidy⟩

theorem replaceCrLf_of_not_mem : ∀ {text : Text}, '\r' ∉ text → replaceCrLf text = text
  | [], _ => rfl
  | char :: rest, unix => by
      have same := replaceCrLf_of_not_mem fun among => unix (List.mem_cons_of_mem char among)
      rw [replaceCrLf.eq_2, same]
      rintro tail rfl -
      exact unix (.head _)

theorem mem_join {separator char : Char} :
    char ∈ Text.join [separator] lines → char = separator ∨ ∃ line ∈ lines, char ∈ line := by
  induction lines with
  | nil => exact fun among => absurd among List.not_mem_nil
  | cons line rest ih =>
      intro among
      by_cases none : rest = []
      · rw [none, join_singleton] at among
        exact .inr ⟨line, .head _, among⟩
      · rw [join_cons none, List.append_assoc, List.mem_append] at among
        rcases among with own | later
        · exact .inr ⟨line, .head _, own⟩
        · rcases List.mem_cons.mp later with isSeparator | later
          · exact .inl isSeparator
          · exact (ih later).imp id fun ⟨other, isOther, inside⟩ => ⟨other, .tail _ isOther, inside⟩

/-- The lines of a text made of tidy lines. -/
theorem splitOn_join (tidy : Tidy lines) :
    (Text.join ['\n'] lines).splitOn '\n' = if lines = [] then [[]] else lines := by
  split_ifs with none
  · rw [none]
    exact List.splitOn_nil _
  · exact List.splitOn_intercalate '\n' (fun line among => (tidy.line line among).one) none

/-- A text made of tidy lines, in its composed form, is left as it is. -/
theorem normalize_of_tidy {nfc : Text → Text} (tidy : Tidy lines)
    (composed : nfc (Text.join ['\n'] lines) = Text.join ['\n'] lines) :
    normalize nfc (Text.join ['\n'] lines) = Text.join ['\n'] lines := by
  have unix : '\r' ∉ Text.join ['\n'] lines := by
    intro among
    rcases mem_join among with isNewline | ⟨line, isLine, inside⟩
    · exact absurd isNewline (by decide)
    · exact (tidy.line line isLine).unix inside
  have same : replaceCr (Text.join ['\n'] lines) = Text.join ['\n'] lines := by
    refine (List.map_congr_left fun char among => ?_).trans (List.map_id _)
    refine if_neg ?_
    rintro rfl
    exact unix among
  rw [normalize, composed, replaceCrLf_of_not_mem unix, same, splitOn_join tidy]
  split_ifs with none
  · rw [none]
    rfl
  · have stripped : lines.map (fun line => Text.strip (collapse line)) = lines := by
      refine (List.map_congr_left fun line among => ?_).trans (List.map_id _)
      rw [collapse_of_collapsed (tidy.line line among).collapsed]
      exact (tidy.line line among).stripped
    rw [stripped, keepLines_of_apart tidy.apart fun _ => tidy.first, strip_join tidy]

/-! ## Normal forms -/

/-- White space of a normalized text is a space, an end of a line, or white space of the composed
form. -/
theorem mem_normalize {nfc : Text → Text} {text : Text} {char : Char}
    (among : char ∈ normalize nfc text) : char ∈ [' ', '\n'] ∨ char ∈ nfc text := by
  have crLf : ∀ {text : Text}, char ∈ replaceCrLf text → char ∈ text := by
    intro text
    induction text using replaceCrLf.induct with
    | case1 rest ih =>
        intro inside
        rw [replaceCrLf] at inside
        rcases List.mem_cons.mp inside with rfl | later
        · exact .tail _ (.head _)
        · exact .tail _ (.tail _ (ih later))
    | case2 first rest apart ih =>
        intro inside
        rw [replaceCrLf.eq_2 _ _ apart] at inside
        exact (List.mem_cons.mp inside).elim (fun isHead => isHead ▸ .head _) fun later =>
          .tail _ (ih later)
    | case3 => exact id
  rcases mem_join ((strip_isInfix _).subset among) with newline | ⟨line, isKept, inside⟩
  · exact .inl (by simp [newline])
  rcases mem_keepLines isKept with rfl | isLine
  · exact absurd inside List.not_mem_nil
  obtain ⟨piece, isPiece, rfl⟩ := List.mem_map.mp isLine
  rcases mem_collapse ((strip_isInfix _).subset inside) with blank | own
  · exact .inl (by simp [blank])
  obtain ⟨first, isFirst, same⟩ := List.mem_map.mp (mem_splitOn isPiece _ own).2
  split_ifs at same
  · exact .inl (by simp [← same])
  · exact .inr (crLf (same ▸ isFirst))

theorem solid_eq_flatten_words (text : Text) : solid text = (words text).flatten := by
  rw [words, List.flatten_filter_ne_nil]
  induction text with
  | nil => rfl
  | cons char rest ih =>
      rw [List.splitOnP_cons_eq_if_modifyHead]
      by_cases space : Text.isSpace char
      · rw [solid_cons_of_isSpace space, ih, if_pos space]
        rfl
      · obtain ⟨head, others, split⟩ := List.exists_cons_of_ne_nil
          (List.splitOnP_ne_nil Text.isSpace rest)
        rw [if_neg space, split, List.modifyHead_cons, List.flatten_cons, List.cons_append,
          ← List.flatten_cons, ← split, ← ih]
        exact List.filter_cons_of_pos (by simpa using space)

/-- A composed form leaves the words of what it composed as they are, whatever spaces, ends of
lines and white space of its own stand between them. -/
def LeavesWords (nfc : Text → Text) : Prop :=
  ∀ text other, words other = words (nfc text) →
    (∀ char ∈ other, Text.isSpace char → char ∈ [' ', '\n'] ∨ char ∈ nfc text) → nfc other = other

/-- Normalization changes nothing the second time, keeps what is visible in the composed form, and
leaves no two blank lines in a row and no white space around a line. -/
theorem normalize_conserves (nfc : Text → Text) (leaves : LeavesWords nfc) (text : Text) :
    normalize nfc (normalize nfc text) = normalize nfc text ∧
      solid (normalize nfc text) = solid (nfc text) ∧
      ((normalize nfc text).splitOn '\n').IsChain Apart ∧
      ∀ line ∈ (normalize nfc text).splitOn '\n', Text.strip line = line := by
  obtain ⟨lines, tidy, made⟩ := exists_tidy nfc text
  have composed : nfc (Text.join ['\n'] lines) = Text.join ['\n'] lines := by
    rw [← made]
    exact leaves text _ (words_normalize nfc text) fun _ among _ => mem_normalize among
  refine ⟨?_, ?_, ?_⟩
  · rw [made]
    exact normalize_of_tidy tidy composed
  · rw [solid_eq_flatten_words, solid_eq_flatten_words, words_normalize]
  · rw [made, splitOn_join tidy]
    split_ifs
    · exact ⟨.singleton _, List.forall_mem_singleton.mpr rfl⟩
    · exact ⟨tidy.apart, fun line isLine => (tidy.line line isLine).stripped⟩

/-- Texts that are in the composed form already. -/
theorem normalize_conserves_composed :
    normalize id (normalize id "a\t b \r\n\r\r\n c".toList) =
      normalize id "a\t b \r\n\r\r\n c".toList :=
  (normalize_conserves id (fun _ _ _ _ => rfl) _).1

end PolicyOS.Knowledge
