import PolicyOS.Foundation.Logged
import PolicyOS.Foundation.Text

/-!
# Reading JSON

How a JSON text is read. The text is cut into tokens, and the tokens drive a stack of the
collections that are open. What a reader may raise at is noted in the order in which it is met:
an integer, a constant, a collection that is opened, an object that is closed. The same pieces of
a value are met again when it is written.
-/

namespace PolicyOS.Foundation

/-- A string that was read. An escape may leave one half of a surrogate pair, which no character
stands for. -/
abbrev CodePoints := List Nat

/-- The code points of a text. -/
def codePoints (text : Text) : CodePoints := text.map Char.toNat

/-- A value that was read, with floats of the given type. -/
inductive JsonTree (Float : Type)
  | null
  | boolean (value : Bool)
  | integer (value : Int)
  | real (value : Float)
  | string (text : CodePoints)
  | list (items : List (JsonTree Float))
  | dict (members : List (CodePoints × JsonTree Float))

/-- How floats are read from a literal and written. -/
structure FloatFormat (Float : Type) where
  read : Text → Float
  finite : Float → Bool
  write : Float → Text

/-- What a reader or a writer may raise at. -/
inductive JsonPiece (Float : Type)
  | integer (digits : Nat)
  | real (value : Float)
  | constant (name : Text)
  | nested (depth : Nat)
  | members (keys : List CodePoints)

/-! ## Tokens -/

/-- The tokens of a JSON text. -/
inductive JsonToken
  | beginList | endList | beginDict | endDict | comma | colon | null
  | boolean (value : Bool)
  | constant (name : Text)
  | integer (text : Text)
  | real (text : Text)
  | string (text : CodePoints)
  | bad

/-- The tokens that are always written the same. -/
def fixedTokens : List (Text × JsonToken) :=
  [(['['], .beginList), ([']'], .endList), ([Char.ofNat 0x7b], .beginDict),
    ([Char.ofNat 0x7d], .endDict), ([','], .comma), ([':'], .colon), ("null".toList, .null),
    ("true".toList, .boolean true), ("false".toList, .boolean false),
    ("NaN".toList, .constant "NaN".toList), ("Infinity".toList, .constant "Infinity".toList),
    ("-Infinity".toList, .constant "-Infinity".toList)]

/-- The value of a hexadecimal digit. -/
def hexDigit? (char : Char) : Option Nat :=
  if char.isDigit then some (char.toNat - '0'.toNat)
  else if 'a' ≤ char ∧ char ≤ 'f' then some (char.toNat - 'a'.toNat + 10)
  else if 'A' ≤ char ∧ char ≤ 'F' then some (char.toNat - 'A'.toNat + 10)
  else none

/-- What a letter after a backslash stands for. -/
def escaped? : Char → Option Nat
  | '"' => some 0x22 | '\\' => some 0x5c | '/' => some 0x2f | 'b' => some 8 | 'f' => some 12
  | 'n' => some 10 | 'r' => some 13 | 't' => some 9 | _ => none

/-- The units of a string up to its closing quote, and the characters they take with it. -/
def takeString : Text → Option (List Nat × Nat)
  | '"' :: _ => some ([], 1)
  | '\\' :: 'u' :: a :: b :: c :: d :: rest => do
      let digits ← [a, b, c, d].mapM hexDigit?
      let (units, used) ← takeString rest
      some (digits.foldl (fun value digit => 16 * value + digit) 0 :: units, used + 6)
  | '\\' :: letter :: rest => do
      let unit ← escaped? letter
      let (units, used) ← takeString rest
      some (unit :: units, used + 2)
  | char :: rest =>
      if char.toNat < 0x20 then none
      else (takeString rest).map fun (units, used) => (char.toNat :: units, used + 1)
  | [] => none

/-- The code points of units: a high and a low surrogate are one. -/
def joinSurrogates : List Nat → CodePoints
  | high :: low :: rest =>
      if 0xd800 ≤ high ∧ high < 0xdc00 ∧ 0xdc00 ≤ low ∧ low < 0xe000 then
        (0x10000 + (high - 0xd800) * 0x400 + (low - 0xdc00)) :: joinSurrogates rest
      else high :: joinSurrogates (low :: rest)
  | units => units

/-- The digits a text starts with. -/
def takeDigits (text : Text) : Text := text.takeWhile Char.isDigit

/-- The fraction a text starts with. -/
def takeFraction : Text → Text
  | '.' :: rest => if takeDigits rest = [] then [] else '.' :: takeDigits rest
  | _ => []

/-- The exponent a text starts with. -/
def takeExponent : Text → Text
  | mark :: rest =>
      let sign := rest.take 1 |>.filter (· ∈ ['+', '-'])
      let digits := takeDigits (rest.drop sign.length)
      if mark ∈ ['e', 'E'] ∧ digits ≠ [] then mark :: sign ++ digits else []
  | [] => []

/-- The whole number a text starts with. A leading zero stands alone. -/
def takeWhole (text : Text) : Text :=
  if text.head? = some '0' then ['0'] else takeDigits text

/-- The token a number is, and the characters it takes. -/
def numberToken (text : Text) : JsonToken × Nat :=
  let sign := text.take 1 |>.filter (· = '-')
  let whole := takeWhole (text.drop sign.length)
  let fraction := takeFraction (text.drop (sign.length + whole.length))
  let exponent := takeExponent (text.drop (sign.length + whole.length + fraction.length))
  let number := sign ++ whole ++ fraction ++ exponent
  if whole = [] then (.bad, 1)
  else if fraction ++ exponent = [] then (.integer number, number.length)
  else (.real number, number.length)

/-- The token a text starts with, and the characters it takes. -/
def lexeme (text : Text) : JsonToken × Nat :=
  match fixedTokens.find? fun fixed => fixed.1.isPrefixOf text with
  | some (name, token) => (token, name.length)
  | none =>
      match text with
      | '"' :: rest =>
          match takeString rest with
          | some (units, used) => (.string (joinSurrogates units), used + 1)
          | none => (.bad, 1)
      | text => numberToken text

/-- The blanks of JSON. -/
def isJsonSpace (char : Char) : Bool := char ∈ [' ', '\t', '\n', '\r']

/-- The tokens of a text, past the characters that the last one takes. -/
def tokensFrom : Nat → Text → List JsonToken
  | _, [] => []
  | skip + 1, _ :: rest => tokensFrom skip rest
  | 0, char :: rest =>
      if isJsonSpace char then tokensFrom 0 rest
      else (lexeme (char :: rest)).1 :: tokensFrom ((lexeme (char :: rest)).2 - 1) rest

/-! ## Values -/

/-- A collection that is open, with the key the next value is under. -/
inductive JsonFrame (Float : Type)
  | list (items : List (JsonTree Float))
  | dict (members : List (CodePoints × JsonTree Float)) (key : CodePoints)

/-- What may come next. -/
inductive Awaiting
  | value | valueOrEnd | key | keyOrEnd | colon | commaOrEnd
  deriving DecidableEq

/-- A reader within a text, or past its value. -/
inductive JsonReader (Float : Type)
  | reading (frames : List (JsonFrame Float)) (awaiting : Awaiting)
  | done (value : JsonTree Float)

section Reading

variable {Float : Type}

/-- A text that is not JSON. -/
def malformed {Value : Type} : Logged (JsonPiece Float) Unit Value := .silent (.error ())

/-- A value is complete. -/
def deliver (value : JsonTree Float) : List (JsonFrame Float) → JsonReader Float
  | [] => .done value
  | .list items :: outer => .reading (.list (items ++ [value]) :: outer) .commaOrEnd
  | .dict members key :: outer =>
      .reading (.dict (members ++ [(key, value)]) key :: outer) .commaOrEnd

/-- Note a piece, and go on. -/
def noting {Value : Type} (piece : JsonPiece Float) (value : Value) :
    Logged (JsonPiece Float) Unit Value :=
  ⟨[piece], .ok value⟩

/-- The number an integer literal stands for. -/
def integerValue : Text → Int
  | '-' :: digits => -(Nat.ofDigitChars 10 digits 0 : Int)
  | digits => (Nat.ofDigitChars 10 digits 0 : Int)

/-- Start a value. -/
def startValue (format : FloatFormat Float) (frames : List (JsonFrame Float)) :
    JsonToken → Logged (JsonPiece Float) Unit (JsonReader Float)
  | .null => pure (deliver .null frames)
  | .boolean value => pure (deliver (.boolean value) frames)
  | .string text => pure (deliver (.string text) frames)
  | .constant name => noting (.constant name) (deliver (.real (format.read name)) frames)
  | .real text => noting (.real (format.read text)) (deliver (.real (format.read text)) frames)
  | .integer text =>
      noting (.integer (text.filter Char.isDigit).length)
        (deliver (.integer (integerValue text)) frames)
  | .beginList => noting (.nested (frames.length + 1)) (.reading (.list [] :: frames) .valueOrEnd)
  | .beginDict => noting (.nested (frames.length + 1)) (.reading (.dict [] [] :: frames) .keyOrEnd)
  | _ => malformed

/-- Close the innermost collection. -/
def close : JsonToken → List (JsonFrame Float) →
    Logged (JsonPiece Float) Unit (JsonReader Float)
  | .endList, .list items :: outer => pure (deliver (.list items) outer)
  | .endDict, .dict members _ :: outer =>
      noting (.members (members.map Prod.fst)) (deliver (.dict members) outer)
  | _, _ => malformed

/-- Read one token. -/
def readToken (format : FloatFormat Float) :
    JsonReader Float → JsonToken → Logged (JsonPiece Float) Unit (JsonReader Float)
  | .reading frames .value, token => startValue format frames token
  | .reading frames .valueOrEnd, .endList => close .endList frames
  | .reading frames .valueOrEnd, token => startValue format frames token
  | .reading frames .keyOrEnd, .endDict => close .endDict frames
  | .reading (.dict members _ :: outer) .keyOrEnd, .string key
  | .reading (.dict members _ :: outer) .key, .string key =>
      pure (.reading (.dict members key :: outer) .colon)
  | .reading frames .colon, .colon => pure (.reading frames .value)
  | .reading (.list items :: outer) .commaOrEnd, .comma =>
      pure (.reading (.list items :: outer) .value)
  | .reading (.dict members key :: outer) .commaOrEnd, .comma =>
      pure (.reading (.dict members key :: outer) .key)
  | .reading frames .commaOrEnd, token => close token frames
  | _, _ => malformed

/-- Read a text that holds one value. -/
def readJson (format : FloatFormat Float) (text : Text) :
    Logged (JsonPiece Float) Unit (JsonTree Float) := do
  match ← (tokensFrom 0 text).foldlM (readToken format) (.reading [] .value) with
  | .done value => pure value
  | .reading .. => malformed

end Reading

/-! ## Writing -/

namespace JsonTree

mutual

/-- What is met in a value, from the outside in. -/
def pieces {Float : Type} (depth : Nat) : JsonTree Float → List (JsonPiece Float)
  | null | boolean _ | string _ => []
  | integer value => [.integer (Nat.toDigits 10 value.natAbs).length]
  | real value => [.real value]
  | list items => .nested (depth + 1) :: itemPieces (depth + 1) items
  | dict members =>
      .nested (depth + 1) :: .members (members.map Prod.fst) :: memberPieces (depth + 1) members

/-- What is met in the items of a list. -/
def itemPieces {Float : Type} (depth : Nat) : List (JsonTree Float) → List (JsonPiece Float)
  | [] => []
  | item :: rest => pieces depth item ++ itemPieces depth rest

/-- What is met in the values of an object. -/
def memberPieces {Float : Type} (depth : Nat) :
    List (CodePoints × JsonTree Float) → List (JsonPiece Float)
  | [] => []
  | (_, value) :: rest => pieces depth value ++ memberPieces depth rest

end

/-- How a code point is written in a string that need not be ASCII. -/
def writeCodePoint (code : Nat) : CodePoints :=
  match [(0x22, '"'), (0x5c, '\\'), (10, 'n'), (13, 'r'), (9, 't'), (12, 'f'), (8, 'b')].lookup
    code with
  | some letter => codePoints ['\\', letter]
  | none =>
      if code < 0x20 then
        codePoints ("\\u00".toList ++ [Nat.digitChar (code / 16), Nat.digitChar (code % 16)])
      else [code]

/-- How a string is written. -/
def writeString (text : CodePoints) : CodePoints :=
  codePoints ['"'] ++ text.flatMap writeCodePoint ++ codePoints ['"']

/-- How a collection is written, without blanks. -/
def writeCollection (first last : Char) (items : List CodePoints) : CodePoints :=
  codePoints [first] ++ (items.intersperse (codePoints [','])).flatten ++ codePoints [last]

mutual

/-- How a value is written, without blanks. -/
def write {Float : Type} (format : FloatFormat Float) : JsonTree Float → CodePoints
  | null => codePoints "null".toList
  | boolean value => codePoints (if value then "true".toList else "false".toList)
  | integer value =>
      codePoints ((if value < 0 then ['-'] else []) ++ Nat.toDigits 10 value.natAbs)
  | real value => codePoints (format.write value)
  | string text => writeString text
  | list items => writeCollection '[' ']' (writtenItems format items)
  | dict members =>
      writeCollection (Char.ofNat 0x7b) (Char.ofNat 0x7d) (writtenMembers format members)

/-- How the items of a list are written. -/
def writtenItems {Float : Type} (format : FloatFormat Float) :
    List (JsonTree Float) → List CodePoints
  | [] => []
  | item :: rest => write format item :: writtenItems format rest

/-- How the members of an object are written. -/
def writtenMembers {Float : Type} (format : FloatFormat Float) :
    List (CodePoints × JsonTree Float) → List CodePoints
  | [] => []
  | (key, value) :: rest =>
      (writeString key ++ codePoints [':'] ++ write format value) :: writtenMembers format rest

end

end JsonTree

/-! ## What was noted -/

section Noted

variable {Float : Type} {notes : List (JsonPiece Float)}

/-- The keys of every object in a value were noted. -/
def JsonTree.Noted (notes : List (JsonPiece Float)) (value : JsonTree Float) : Prop :=
  ∀ depth keys, .members keys ∈ value.pieces depth → .members keys ∈ notes

/-- The keys of every complete object in an open collection were noted. -/
def JsonFrame.Noted (notes : List (JsonPiece Float)) : JsonFrame Float → Prop
  | .list items => ∀ item ∈ items, item.Noted notes
  | .dict members _ => ∀ member ∈ members, member.2.Noted notes

/-- The keys of every complete object a reader holds were noted. -/
def JsonReader.Noted (notes : List (JsonPiece Float)) : JsonReader Float → Prop
  | .done value => value.Noted notes
  | .reading frames _ => ∀ frame ∈ frames, frame.Noted notes

theorem JsonTree.mem_itemPieces {depth : Nat} {items : List (JsonTree Float)}
    {piece : JsonPiece Float} :
    piece ∈ itemPieces depth items ↔ ∃ item ∈ items, piece ∈ item.pieces depth := by
  induction items with
  | nil => simp [itemPieces]
  | cons item rest ih => simp [itemPieces, ih]

theorem JsonTree.mem_memberPieces {depth : Nat} {members : List (CodePoints × JsonTree Float)}
    {piece : JsonPiece Float} :
    piece ∈ memberPieces depth members ↔ ∃ member ∈ members, piece ∈ member.2.pieces depth := by
  induction members with
  | nil => simp [memberPieces]
  | cons member rest ih => simp [memberPieces, ih]

theorem JsonTree.noted_list {items : List (JsonTree Float)}
    (noted : ∀ item ∈ items, item.Noted notes) : (JsonTree.list items).Noted notes := by
  intro depth keys among
  simp only [pieces, List.mem_cons, reduceCtorEq, false_or, mem_itemPieces] at among
  obtain ⟨item, isItem, own⟩ := among
  exact noted item isItem _ keys own

theorem JsonTree.noted_dict {members : List (CodePoints × JsonTree Float)}
    (closed : .members (members.map Prod.fst) ∈ notes)
    (noted : ∀ member ∈ members, member.2.Noted notes) : (JsonTree.dict members).Noted notes := by
  intro depth keys among
  simp only [pieces, List.mem_cons, reduceCtorEq, false_or, mem_memberPieces,
    JsonPiece.members.injEq] at among
  rcases among with rfl | ⟨member, isMember, own⟩
  · exact closed
  · exact noted member isMember _ keys own

theorem JsonTree.Noted.mono {more : List (JsonPiece Float)} {value : JsonTree Float}
    (noted : value.Noted notes) : value.Noted (notes ++ more) :=
  fun depth keys among => List.mem_append_left _ (noted depth keys among)

theorem JsonFrame.Noted.mono {more : List (JsonPiece Float)} {frame : JsonFrame Float}
    (noted : frame.Noted notes) : frame.Noted (notes ++ more) := by
  cases frame with
  | list items => exact fun item isItem => (noted item isItem).mono
  | dict members key => exact fun member isMember => (noted member isMember).mono

variable {frames : List (JsonFrame Float)}

theorem noted_deliver {value : JsonTree Float} (own : value.Noted notes)
    (noted : ∀ frame ∈ frames, frame.Noted notes) :
    (deliver value frames).Noted notes := by
  match frames, noted with
  | [], _ => exact own
  | .list items :: outer, noted | .dict members key :: outer, noted =>
      rw [List.forall_mem_cons] at noted
      refine List.forall_mem_cons.mpr ⟨?_, noted.2⟩
      intro other among
      rcases List.mem_append.mp among with inside | last
      · exact noted.1 other inside
      · obtain rfl := List.mem_singleton.mp last
        exact own

/-- Whatever is started holds no object yet. -/
theorem noted_startValue {format : FloatFormat Float} {token : JsonToken} {next : JsonReader Float}
    (noted : ∀ frame ∈ frames, frame.Noted notes)
    (read : (startValue format frames token).outcome = .ok next) : next.Noted notes := by
  cases token <;> cases read <;>
    first
    | exact noted_deliver (by simp [JsonTree.Noted, JsonTree.pieces]) noted
    | exact List.forall_mem_cons.mpr ⟨by simp [JsonFrame.Noted], noted⟩

/-- An object is noted when it is closed. -/
theorem noted_close {token : JsonToken} {next : JsonReader Float}
    (noted : ∀ frame ∈ frames, frame.Noted notes) (read : (close token frames).outcome = .ok next) :
    next.Noted (notes ++ (close token frames).events) := by
  have later : ∀ frame ∈ frames, frame.Noted (notes ++ (close token frames).events) :=
    fun frame isOpen => (noted frame isOpen).mono
  unfold close at read later ⊢
  split at read <;> cases read <;> rw [List.forall_mem_cons] at later
  · exact noted_deliver (JsonTree.noted_list later.1) later.2
  · exact noted_deliver (JsonTree.noted_dict (List.mem_append_right _ (.head _)) later.1) later.2

/-- One token keeps what is held noted. -/
theorem noted_readToken {format : FloatFormat Float} {reader next : JsonReader Float}
    {token : JsonToken} (noted : reader.Noted notes)
    (read : (readToken format reader token).outcome = .ok next) :
    next.Noted (notes ++ (readToken format reader token).events) := by
  have later : ∀ more, reader.Noted (notes ++ more) := by
    intro more
    cases reader with
    | done value => exact JsonTree.Noted.mono noted
    | reading frames awaiting => exact fun frame isOpen => (noted frame isOpen).mono
  unfold readToken at read ⊢
  split at read
  all_goals first
    | exact noted_startValue (later _) read
    | exact noted_close noted read
    | (cases read; exact later _)
    | (cases read
       have held := later []
       simp only [JsonReader.Noted, List.forall_mem_cons] at held ⊢
       exact held)
    | cases read

/-- Every object of a value that was read was noted. -/
theorem noted_readJson {format : FloatFormat Float} {text : Text} {value : JsonTree Float}
    (read : (readJson format text).outcome = .ok value) :
    value.Noted (readJson format text).events := by
  have run : ∀ (tokens : List JsonToken) (reader last : JsonReader Float) notes,
      reader.Noted notes → (tokens.foldlM (readToken format) reader).outcome = .ok last →
        last.Noted (notes ++ (tokens.foldlM (readToken format) reader).events) := by
    intro tokens
    induction tokens with
    | nil =>
        intro reader last notes noted ended
        cases ended
        simpa using noted
    | cons token rest ih =>
        intro reader last notes noted ended
        rw [List.foldlM_cons] at ended ⊢
        obtain ⟨next, first, others⟩ := Logged.outcome_bind_eq_ok.mp ended
        rw [Logged.events_bind_of_ok first, ← List.append_assoc]
        exact ih next last _ (noted_readToken noted first) others
  obtain ⟨last, ended, isLast⟩ := Logged.outcome_bind_eq_ok.mp read
  have held := run _ _ last [] (by simp [JsonReader.Noted]) ended
  rw [readJson, Logged.events_bind_of_ok ended]
  cases last with
  | reading frames awaiting => cases isLast
  | done other =>
      cases isLast
      simpa [JsonReader.Noted] using held

end Noted

end PolicyOS.Foundation
