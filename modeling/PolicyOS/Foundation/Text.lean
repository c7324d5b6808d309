import Mathlib.Data.List.Basic
import Mathlib.Data.List.Intervals

/-!
# Text as characters

Texts are lists of characters. Stripping, splitting and joining follow the documented
behaviour of a language whose white space, digits and line breaks are those of Unicode.
-/

namespace PolicyOS.Foundation

/-- A text, one item for each code point. -/
abbrev Text := List Char

/-- The bytes of a string in UTF-8. -/
def utf8 (text : String) : List UInt8 := text.toUTF8.data.toList

/-- A string is told by its bytes. -/
theorem utf8_injective : Function.Injective utf8 := by
  intro first second same
  have bytes : first.toUTF8.data = second.toUTF8.data := Array.toList_inj.mp same
  exact String.toByteArray_inj.mp (ByteArray.ext bytes)

namespace Text

/-- White space. -/
def isSpace (char : Char) : Bool :=
  char.toNat ∈ [0x9, 0xa, 0xb, 0xc, 0xd, 0x1c, 0x1d, 0x1e, 0x1f, 0x20, 0x85, 0xa0, 0x1680,
    0x2000, 0x2001, 0x2002, 0x2003, 0x2004, 0x2005, 0x2006, 0x2007, 0x2008, 0x2009, 0x200a,
    0x2028, 0x2029, 0x202f, 0x205f, 0x3000]

/-- The zeros of the decimal digits; each is followed by the other nine. -/
def decimalZeros : List Nat :=
  [0x30, 0x660, 0x6f0, 0x7c0, 0x966, 0x9e6, 0xa66, 0xae6, 0xb66, 0xbe6, 0xc66, 0xce6, 0xd66,
    0xde6, 0xe50, 0xed0, 0xf20, 0x1040, 0x1090, 0x17e0, 0x1810, 0x1946, 0x19d0, 0x1a80, 0x1a90,
    0x1b50, 0x1bb0, 0x1c40, 0x1c50, 0xa620, 0xa8d0, 0xa900, 0xa9d0, 0xa9f0, 0xaa50, 0xabf0,
    0xff10, 0x104a0, 0x10d30, 0x11066, 0x110f0, 0x11136, 0x111d0, 0x112f0, 0x11450, 0x114d0,
    0x11650, 0x116c0, 0x11730, 0x118e0, 0x11950, 0x11c50, 0x11d50, 0x11da0, 0x11f50, 0x16a60,
    0x16ac0, 0x16b50, 0x1d7ce, 0x1d7d8, 0x1d7e2, 0x1d7ec, 0x1d7f6, 0x1e140, 0x1e2f0, 0x1e4f0,
    0x1e950, 0x1fbf0]

/-- A decimal digit. -/
def isDecimal (char : Char) : Bool :=
  decimalZeros.any fun first => first ≤ char.toNat && char.toNat < first + 10

/-- The end of a line. -/
def isLineBreak (char : Char) : Bool :=
  char.toNat ∈ [0xa, 0xb, 0xc, 0xd, 0x1c, 0x1d, 0x1e, 0x85, 0x2028, 0x2029]

/-- A text without the white space around it. -/
def strip (text : Text) : Text :=
  ((text.dropWhile isSpace).reverse.dropWhile isSpace).reverse

/-- Texts with a separator between them. -/
def join (separator : Text) (texts : List Text) : Text := (texts.intersperse separator).flatten

/-- The lines of a text that follow a line that was begun. A last line without an end is a
line if there is anything on it. -/
def splitLinesFrom : Text → Text → List Text
  | [], begun => if begun = [] then [] else [begun]
  | '\r' :: '\n' :: rest, begun => begun :: splitLinesFrom rest []
  | char :: rest, begun =>
      if isLineBreak char then begun :: splitLinesFrom rest []
      else splitLinesFrom rest (begun ++ [char])

/-- The lines of a text. -/
def splitLines (text : Text) : List Text := splitLinesFrom text []

/-- What a run of white space from a newline on makes of the piece before it: the pieces it
ends and the piece it begins. It separates from its first to its last newline. -/
def closeRun (current run : Text) : List Text × Text :=
  if '\n' ∈ run.tail then ([current], (run.reverse.takeWhile (· ≠ '\n')).reverse)
  else ([], current ++ run)

/-- The pieces between blank lines that follow a piece that was begun, with the run of white
space from a newline on that was read after it. -/
def splitBlankFrom : Text → Text → Option Text → List Text
  | [], current, none => [current]
  | [], current, some run =>
      let (ended, begun) := closeRun current run
      ended ++ [begun]
  | char :: rest, current, none =>
      if char = '\n' then splitBlankFrom rest current (some [char])
      else splitBlankFrom rest (current ++ [char]) none
  | char :: rest, current, some run =>
      if isSpace char then splitBlankFrom rest current (some (run ++ [char]))
      else
        let (ended, begun) := closeRun current run
        ended ++ splitBlankFrom rest (begun ++ [char]) none

/-- The pieces of a text between blank lines. -/
def splitBlank (text : Text) : List Text := splitBlankFrom text [] none

/-- The pieces that follow one that was begun; `skipping` between two pieces. A piece ends
at white space after one of the enders. -/
def splitAfterFrom (enders : List Char) : Text → Text → (skipping : Bool) → List Text
  | [], current, _ => [current]
  | char :: rest, current, skipping =>
      if isSpace char && skipping then splitAfterFrom enders rest current true
      else if isSpace char && current.getLast?.any (· ∈ enders) then
        current :: splitAfterFrom enders rest [] true
      else splitAfterFrom enders rest (current ++ [char]) false

/-- The pieces of a text that end with one of the enders before white space. -/
def splitAfter (enders : List Char) (text : Text) : List Text :=
  splitAfterFrom enders text [] false

/-- The last place of a character within a prefix of a text. -/
def lastIndexWithin (char : Char) (bound : Nat) (text : Text) : Option Nat :=
  ((text.take bound).zipIdx.filter (·.1 = char)).getLast?.map (·.2)

example : splitLines "a\r\nb\n\nc".toList = ["a".toList, "b".toList, [], "c".toList] := by decide

example : splitBlank "a\n \nb\nc".toList = ["a".toList, "b\nc".toList] := by decide

example : splitAfter ['.'] "A b. C. ".toList = ["A b.".toList, "C.".toList, []] := by decide

/-! ## Lengths -/

theorem length_dropWhile_le (drops : Char → Bool) (text : Text) :
    (text.dropWhile drops).length ≤ text.length :=
  (List.dropWhile_suffix drops).length_le

theorem length_strip_le (text : Text) : text.strip.length ≤ text.length := by
  have front := length_dropWhile_le isSpace text
  have back := length_dropWhile_le isSpace (text.dropWhile isSpace).reverse
  rw [List.length_reverse] at back
  rw [strip, List.length_reverse]
  omega

end Text

end PolicyOS.Foundation
