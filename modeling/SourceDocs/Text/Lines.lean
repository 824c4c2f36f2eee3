import SourceDocs.Text.Basic

/-!
# Lines

Two notions of line meet here.  Files are read with every `\r\n` and `\r` turned into `\n`
(`universal`); excerpts and docstrings are cut at every line boundary of Unicode
(`split`). -/

namespace SourceDocs.Lines

/-- Turns `\r\n` and `\r` into `\n`. -/
def universal : Text → Text
  | [] => []
  | c :: rest =>
    if c = CodePoint.ofChar '\r' then
      CodePoint.ofChar '\n' :: match rest with
        | d :: more => if d = CodePoint.ofChar '\n' then universal more else universal (d :: more)
        | [] => []
    else c :: universal rest

/-- Whether a line ends at a code point. -/
def isBoundary (c : CodePoint) : Bool :=
  let n := c.val
  (0x0A ≤ n && n ≤ 0x0D) || (0x1C ≤ n && n ≤ 0x1E) || n = 0x85 || n = 0x2028 || n = 0x2029

/-- Cuts a text into lines; `current` holds the open line, last code point first. -/
def splitFrom (current : Text) : Text → List Text
  | [] => if current.isEmpty then [] else [current.reverse]
  | c :: rest =>
    if c = CodePoint.ofChar '\r' then
      match rest with
      | d :: more =>
        if d = CodePoint.ofChar '\n' then current.reverse :: splitFrom [] more
        else current.reverse :: splitFrom [] (d :: more)
      | [] => [current.reverse]
    else if isBoundary c then current.reverse :: splitFrom [] rest
    else splitFrom (c :: current) rest

/-- The lines of a text without their ends. -/
def split (t : Text) : List Text := splitFrom [] t

/-- Cuts at a code point, keeping empty parts; `current` holds the open part reversed. -/
def splitAtFrom (mark : CodePoint) (current : Text) : Text → List Text
  | [] => [current.reverse]
  | c :: rest =>
    if c = mark then current.reverse :: splitAtFrom mark [] rest
    else splitAtFrom mark (c :: current) rest

/-- The parts of a text between occurrences of a character. -/
def splitAt (mark : Char) (t : Text) : List Text := splitAtFrom (CodePoint.ofChar mark) [] t

/-- Whether a code point is a blank: the separators and the control characters that set text
apart. -/
def isBlank (c : CodePoint) : Bool :=
  let n := c.val
  (0x09 ≤ n && n ≤ 0x0D) || (0x1C ≤ n && n ≤ 0x20) || n = 0x85 || n = 0xA0 || n = 0x1680
    || (0x2000 ≤ n && n ≤ 0x200A) || n = 0x2028 || n = 0x2029 || n = 0x202F || n = 0x205F
    || n = 0x3000

/-- Whether a code point may stand around a number: a blank other than the separators of
information. -/
def isNumberMargin (c : CodePoint) : Bool := isBlank c && !(0x1C ≤ c.val && c.val ≤ 0x1F)

/-- Drops what may stand around a number. -/
def trimNumber (t : Text) : Text :=
  ((t.dropWhile isNumberMargin).reverse.dropWhile isNumberMargin).reverse

/-- Drops the blanks at the start. -/
def trimLeft (t : Text) : Text := t.dropWhile isBlank

end SourceDocs.Lines
