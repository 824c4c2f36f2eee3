import SourceDocs.Text.Codec
import SourceDocs.Text.Lines

/-!
# From the bytes of a source file to its text

A source file is UTF-8 unless a byte order mark or a comment on one of its first two lines says
otherwise.  Line ends are unified and a missing last one is added.  Bytes that are not UTF-8 are
kept as surrogates (`Utf8.decodeEscaping`): they do no harm inside comments.
-/

namespace SourceDocs.Source

/-- Why the bytes of a file are no source text. -/
inductive CodingFault where
  | nulByte
  | unknownEncoding (name : String)
  | markContradicted (name : String)
  | undecodable (name : String)
  /-- A text holds surrogates. -/
  | surrogates

/-- Unifies line ends in bytes. -/
def unifyLineEnds : List UInt8 → List UInt8
  | [] => []
  | b :: rest =>
    if b = 13 then
      10 :: match rest with
        | c :: more => if c = 10 then unifyLineEnds more else unifyLineEnds (c :: more)
        | [] => []
    else b :: unifyLineEnds rest

/-- Adds the last line end if it is missing. -/
def closeLastLine (bytes : List UInt8) : List UInt8 :=
  if bytes.getLast? = some 10 then bytes else bytes ++ [10]

/-- A byte as the character of the same number. -/
def byteChar (b : UInt8) : Char := Char.ofNat b.toNat

/-- Whether a character may stand in the name of an encoding. -/
def isNameChar (c : Char) : Bool := c.isAlphanum || c = '-' || c = '_' || c = '.'

/-- Looks for `coding:` or `coding=` and a name behind it. -/
def findDeclaration : List Char → Option String
  | [] => none
  | c :: rest =>
    let here : Option String :=
      if "coding".toList.isPrefixOf (c :: rest) then
        match (c :: rest).drop 6 with
        | mark :: more =>
          if mark = ':' ∨ mark = '=' then
            let name := (more.dropWhile fun c => c = ' ' ∨ c = '\t').takeWhile isNameChar
            if name.isEmpty then none else some (String.ofList name)
          else none
        | [] => none
      else none
    here <|> findDeclaration rest

/-- Whether a character may stand before a comment that declares an encoding. -/
def isMargin (c : Char) : Bool := c = ' ' || c = '\t' || c = '\x0c'

/-- The encoding that a line declares in a comment. -/
def declaredOn (line : List Char) : Option String :=
  match line.dropWhile isMargin with
  | '#' :: comment => findDeclaration ('#' :: comment)
  | _ => none

/-- Whether nothing but a comment stands on a line, so that the next line may declare too. -/
def isBareLine (line : List Char) : Bool :=
  match line.dropWhile isMargin with
  | [] => true
  | c :: _ => c = '#'

/-- Lower case with hyphens, of the first twelve characters: enough to recognise common names. -/
def shortName (name : String) : String :=
  String.ofList ((name.toList.take 12).map fun c => if c = '_' then '-' else c.toLower)

/-- The name of an encoding after its common spellings are made one. -/
def commonName (name : String) : String :=
  let short := shortName name
  let startsWith (stem : String) : Bool :=
    short = stem || (stem ++ "-").toList.isPrefixOf short.toList
  if startsWith "utf-8" then "utf-8"
  else if startsWith "latin-1" || startsWith "iso-8859-1" || startsWith "iso-latin-1" then
    "iso-8859-1"
  else name

/-- The encoding declared on the first two lines. -/
def declared (bytes : List UInt8) : Option String :=
  let lineOf (bs : List UInt8) : List Char := (bs.takeWhile (· ≠ 10)).map byteChar
  let afterLine (bs : List UInt8) : List UInt8 := (bs.dropWhile (· ≠ 10)).drop 1
  let first := lineOf bytes
  match declaredOn first with
  | some name => some (commonName name)
  | none =>
    if isBareLine first then (declaredOn (lineOf (afterLine bytes))).map commonName else none

/-- The text of a source file. -/
def decode (bytes : List UInt8) : Except CodingFault Text :=
  if bytes.contains 0 then .error .nulByte
  else
    let unified := closeLastLine (unifyLineEnds bytes)
    let marked := [0xEF, 0xBB, 0xBF].isPrefixOf unified
    let body := if marked then unified.drop 3 else unified
    match declared body with
    | none => .ok (Utf8.decodeEscaping body)
    | some name =>
      if name = "utf-8" then .ok (Utf8.decodeEscaping body)
      else if marked then .error (.markContradicted name)
      else match Codec.ofName? (Text.ofString name) with
        | none => .error (.unknownEncoding name)
        | some codec =>
          match codec.decode? body with
          | some t =>
            -- nothing behind a NUL character is seen
            if Text.isWellFormed t then .ok (t.takeWhile (·.val ≠ 0))
            else .error (.undecodable name)
          | none => .error (.undecodable name)

/-- The source text that a text given directly stands for: no comment in it declares an encoding. -/
def givenText (t : Text) : Except CodingFault Text :=
  if !Text.isWellFormed t then .error .surrogates
  else if t.any (·.val = 0) then .error .nulByte
  else
    let unified := Lines.universal t
    let ended := unified.getLast? = some (CodePoint.ofChar '\n')
    .ok (if ended then unified else unified ++ Text.ofChar '\n')

end SourceDocs.Source
