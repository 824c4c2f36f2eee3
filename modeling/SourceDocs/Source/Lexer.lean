import SourceDocs.Source.Token
import SourceDocs.Text.Identifier
import SourceDocs.Text.Printable

/-!
# Cutting a source text into tokens

`lex` turns a source text into tokens.  Indentation becomes `indent` and `dedent` tokens, blank and
comment lines vanish, and line ends inside brackets do not count.  The first malformed token ends
the work; the tokens before it are kept.
-/

namespace SourceDocs.Source

/-- A place in the text and what stands behind it. -/
structure Cursor where
  rest : Text
  place : Place
  /-- The number of characters behind the place. -/
  left : Nat
  left_eq : left = rest.length

namespace Cursor

/-- The cursor at the beginning of a text. -/
def ofText (t : Text) (place : Place) : Cursor := ⟨t, place, t.length, rfl⟩

/-- The next character; surrogates, which stand for bytes that are not UTF-8, look like the
replacement character. -/
def peek (c : Cursor) : Option Char := c.rest.head?.map CodePoint.toChar

/-- The number of bytes that a code point took in the file. -/
def width (p : CodePoint) : Nat := if p.isSurrogate then 1 else p.utf8Length

/-- The place behind a code point.  At the end of the text the line stays the last one. -/
def placeBehind (place : Place) (p : CodePoint) (rest : Text) : Place :=
  if p = CodePoint.ofChar '\n' then
    if rest.isEmpty then { place with column := place.column + 1 } else ⟨place.line + 1, 0⟩
  else { place with column := place.column + width p }

/-- Steps over one character. -/
def next (c : Cursor) : Cursor :=
  match h : c.rest with
  | [] => c
  | p :: rest => ⟨rest, placeBehind c.place p rest, c.left - 1, by rw [c.left_eq, h]; rfl⟩

/-- Steps over the characters that satisfy a test; returns them as well. -/
def takeWhile (test : CodePoint → Bool) (c : Cursor) : Text × Cursor :=
  let taken := c.rest.takeWhile test
  (taken, taken.foldl (fun cur _ => cur.next) c)

/-- Steps over the characters that satisfy a test. -/
def skipWhile (test : CodePoint → Bool) (c : Cursor) : Cursor := (c.takeWhile test).2

/-- Steps over several characters. -/
def skip (n : Nat) (c : Cursor) : Cursor := n.repeat next c

/-- The text between this cursor and a later one. -/
def upTo (c later : Cursor) : Text := c.rest.take (c.left - later.left)

end Cursor

/-- The state of the lexer between two tokens. -/
structure LexState where
  cursor : Cursor
  /-- Indentation of the open blocks, innermost first, with tabs as eight columns and as one. -/
  indents : List (Nat × Nat)
  /-- Blocks still to be opened (at most one) or closed. -/
  opening : Bool
  closing : Nat
  atLineStart : Bool
  /-- Open brackets and their lines, innermost first. -/
  brackets : List (Char × Nat)

/-- What happens at a step: a token, nothing but a move, the end, or a fault. -/
inductive LexStep where
  | token (t : Token) (s : LexState)
  | move (s : LexState)
  | finish
  | fault (f : LexFault)

/-- The line on which the innermost open bracket stands. -/
def LexState.openLine (s : LexState) : Option Nat := s.brackets.head?.map Prod.snd

/-- A fault of a token, on a line. -/
def LexState.decisive (s : LexState) (what : String) (line : Nat) : LexStep :=
  .fault ⟨⟨what, some line, .form⟩, true, s.openLine⟩

/-- A fault of the layout, on a line. -/
def LexState.layout (s : LexState) (what : String) (line : Nat) (kind : FaultKind) : LexStep :=
  .fault ⟨⟨what, some line, kind⟩, false, s.openLine⟩

/-- The text ended too early: the fault lies where the innermost bracket was opened. -/
def LexState.cutShort (s : LexState) (line : Nat) : LexStep :=
  match s.brackets with
  | (b, l) :: _ =>
    .fault ⟨⟨"'" ++ String.ofList [b] ++ "' was never closed", some l, .form⟩, false, s.openLine⟩
  | [] => .fault ⟨⟨"unexpected end of file", some line, .form⟩, false, none⟩

/-- A token from one cursor to another. -/
def LexState.emit (s : LexState) (kind : TokenKind) (first last : Cursor)
    (brackets : List (Char × Nat)) :
    LexStep :=
  let text := first.upTo last
  let word := match kind with
    | .name | .keyword | .operator => Word.ofText text
    | _ => .plain
  .token ⟨kind, text, word, first.place, last.place, brackets.length⟩
    { s with cursor := last, brackets := brackets }

/-! ## Indentation -/

/-- The measure of an indentation: columns with tabs to multiples of eight, columns with tabs as
one, and the columns before the first line continuation. -/
structure Margin where
  columns : Nat := 0
  narrow : Nat := 0
  continued : Nat := 0

/-- Measures the indentation at the cursor.  It fails behind a backslash, if no line end follows or
if the text ends there (then with `true`). -/
def measure : Nat → Cursor → Margin → Except (Cursor × Bool) (Cursor × Margin)
  | 0, c, m => .ok (c, m)
  | fuel + 1, c, m =>
    match c.peek with
    | some ' ' =>
      measure fuel c.next { m with columns := m.columns + 1, narrow := m.narrow + 1 }
    | some '\t' =>
      measure fuel c.next
        { m with columns := (m.columns / 8 + 1) * 8, narrow := m.narrow + 1 }
    | some '\x0c' => measure fuel c.next { m with columns := 0, narrow := 0 }
    | some '\\' =>
      let m := { m with continued := if m.continued = 0 then m.columns else m.continued }
      let c := c.next
      if c.peek = some '\n' then
        let c := c.next
        if c.rest.isEmpty then .error (c, true) else measure fuel c m
      else .error (c, false)
    | _ => .ok (c, m)

/-- Closes the blocks that are indented further than `columns`; returns those that stay open and the
number of closed ones. -/
def closeBlocks (columns : Nat) : List (Nat × Nat) → List (Nat × Nat) × Nat
  | [] => ([], 0)
  | (c, a) :: rest =>
    if columns < c then
      let (left, n) := closeBlocks columns rest
      (left, n + 1)
    else ((c, a) :: rest, 0)

/-- The deepest nesting of blocks. -/
def maxBlocks : Nat := 100

/-- Compares the margin of a line with the open blocks. -/
def LexState.indent (s : LexState) (cursor : Cursor) (m : Margin) : LexStep :=
  let line := cursor.place.line
  let columns := if m.continued ≠ 0 then m.continued else m.columns
  let narrow := if m.continued ≠ 0 then m.continued else m.narrow
  let tabs := s.layout "inconsistent use of tabs and spaces in indentation" line .tabs
  let s := { s with cursor := cursor, atLineStart := false }
  let (top, topNarrow) := s.indents.headD (0, 0)
  if columns = top then
    if narrow = topNarrow then .move s else tabs
  else if top < columns then
    if maxBlocks ≤ s.indents.length + 1 then
      s.layout "too many levels of indentation" line .indentation
    else if narrow ≤ topNarrow then tabs
    else .move { s with indents := (columns, narrow) :: s.indents, opening := true }
  else
    let (left, closed) := closeBlocks columns s.indents
    let (top, topNarrow) := left.headD (0, 0)
    if columns ≠ top then
      s.layout "unindent does not match any outer indentation level" line .indentation
    else if narrow ≠ topNarrow then tabs
    else .move { s with indents := left, closing := closed }

/-- Handles the start of a line. -/
def LexState.startLine (s : LexState) : LexStep :=
  match measure (s.cursor.left + 1) s.cursor {} with
  | .error (c, true) => s.cutShort c.place.line
  | .error (c, false) =>
    s.layout "unexpected character after line continuation character" c.place.line .form
  | .ok (cursor, m) =>
    let blank := cursor.peek = some '#' || cursor.peek = some '\n'
    if blank then
      let past := cursor.skipWhile (· ≠ CodePoint.ofChar '\n')
      -- a blank line leaves no token
      .move { s with cursor := past.next }
    else if s.brackets.isEmpty then s.indent cursor m
    else .move { s with cursor := cursor, atLineStart := false }

/-! ## Names, numbers and strings -/

/-- Whether a code point may begin a word: ASCII letters, the underscore, and all that is not
ASCII. -/
def isWordStart (p : CodePoint) : Bool := p.toChar.isAlpha || p.toChar = '_' || 0x80 ≤ p.val

/-- Whether a code point may continue a word. -/
def isWordPart (p : CodePoint) : Bool := isWordStart p || p.toChar.isDigit

/-- The first code point of a word that no identifier may hold there. -/
def badPoint (word : Text) : Option CodePoint :=
  match word with
  | [] => none
  | p :: rest =>
    if Identifier.isStart p then rest.find? fun q => !Identifier.isContinue q else some p

/-- A word: a keyword or a name. -/
def LexState.word (s : LexState) (first last : Cursor) : LexStep :=
  let word := first.upTo last
  let line := first.place.line
  if word.any (·.isSurrogate) then
    .fault ⟨⟨"text is not UTF-8", some line, .undecodable⟩, true, s.openLine⟩
  else if (word.any fun p => 0x80 ≤ p.val) && (badPoint word).isSome then
    s.decisive "invalid character" line
  else
    let kind := if (Word.ofText word).isKeyword then .keyword else .name
    s.emit kind first last s.brackets

/-- Looks for the end of a string behind its opening quote. -/
def closeString (quote : Char) (long : Bool) : Nat → Cursor → Nat → Option Cursor
  | 0, _, _ => none
  | fuel + 1, c, run =>
    if run = (if long then 3 else 1) then some c
    else match c.peek with
      | none => none
      | some ch =>
        if ch = '\n' && !long then none
        else if ch = quote then closeString quote long fuel c.next (run + 1)
        else if ch = '\\' then closeString quote long fuel c.next.next 0
        else closeString quote long fuel c.next 0

/-- A string whose quote stands at `at`; its prefix began at `first`. -/
def LexState.string (s : LexState) (first opening : Cursor) (quote : Char) : LexStep :=
  let second := opening.next
  let isQuote (c : Cursor) : Bool := c.peek = some quote
  let body : Cursor × Bool × Nat :=
    if isQuote second then
      if isQuote second.next then (second.next.next, true, 0) else (second.next, false, 1)
    else (second, false, 0)
  match closeString quote body.2.1 (body.1.left + 1) body.1 body.2.2 with
  | some last => s.emit .string first last s.brackets
  | none => s.decisive "unterminated string literal" first.place.line

/-- Whether a word may be the beginning of a string, given the letters read so far in lower case. -/
def extendsPrefix (seen : List Char) (c : Char) : Bool :=
  let saw (x : Char) : Bool := seen.contains x
  match c.toLower with
  | 'b' => !(saw 'b' || saw 'u' || saw 'f')
  | 'u' => !(saw 'b' || saw 'u' || saw 'r' || saw 'f')
  | 'r' => !(saw 'r' || saw 'u')
  | 'f' => !(saw 'f' || saw 'b' || saw 'u')
  | _ => false

/-- The quote behind the letters that mark a string, if there is one. -/
def stringOpening : Nat → List Char → Cursor → Option (Cursor × Char)
  | 0, _, _ => none
  | fuel + 1, seen, c =>
    match c.peek with
    | some ch =>
      if extendsPrefix seen ch then
        let after := c.next
        match after.peek with
        | some '"' => some (after, '"')
        | some '\'' => some (after, '\'')
        | _ => stringOpening fuel (ch.toLower :: seen) after
      else none
    | none => none

/-- Digits with single underscores between them; `none` if an underscore has no digit behind it. -/
def digitRun (isDigit : Char → Bool) : Nat → Cursor → Option Cursor
  | 0, c => some c
  | fuel + 1, c =>
    let c := c.skipWhile fun p => isDigit p.toChar
    if c.peek = some '_' then
      match c.next.peek with
      | some d => if isDigit d then digitRun isDigit fuel c.next else none
      | none => none
    else some c

/-- Whether what follows a number may follow it: no letter or digit, except those of a keyword. -/
def endsNumber (c : Cursor) : Bool :=
  let follows (word : String) : Bool := (Text.ofString word).isPrefixOf c.rest
  let stands (word : String) : Bool :=
    follows word && !((c.rest.drop word.length).head?.any isWordPart)
  match c.rest.head? with
  | none => true
  | some p =>
    ["if", "in", "is"].any follows || ["and", "else", "for", "or", "not"].any stands
      || !isWordPart p

/-- The end of a number that begins with `0` and a letter for its base. -/
def basedNumber (isDigit : Char → Bool) (c : Cursor) : Option Cursor :=
  let c := if c.peek = some '_' then c.next else c
  match c.peek with
  | some d => if isDigit d then digitRun isDigit c.left c else none
  | none => none

/-- The end of the exponent and the imaginary mark of a number; `none` if it is malformed. -/
def numberTail (c : Cursor) : Option Cursor :=
  let digits (c : Cursor) : Option Cursor := digitRun Char.isDigit (c.left + 1) c
  let isDigitAt (c : Cursor) : Bool := (c.peek.map Char.isDigit).getD false
  let afterExponent : Option (Cursor × Bool) :=
    if c.peek = some 'e' ∨ c.peek = some 'E' then
      let e := c.next
      if e.peek = some '+' ∨ e.peek = some '-' then
        if isDigitAt e.next then (digits e.next).map (·, true) else none
      else if isDigitAt e then (digits e).map (·, true)
      -- the letter belongs to a keyword, as in `1else`
      else if endsNumber c then some (c, false) else none
    else some (c, true)
  match afterExponent with
  | none => none
  | some (c, false) => some c
  | some (c, true) =>
    if c.peek = some 'j' ∨ c.peek = some 'J' then
      if endsNumber c.next then some c.next else none
    else if endsNumber c then some c else none

/-- The end of a number in decimal notation, from its first digit. -/
def decimalNumber (c : Cursor) : Option Cursor := do
  let c' ← digitRun Char.isDigit (c.left + 1) c
  let isFloatMark (ch : Char) : Bool := ch = '.' || ch = 'e' || ch = 'E' || ch = 'j' || ch = 'J'
  -- an integer other than zero does not begin with zero
  let digits := (c.upTo c').filter fun p => p.toChar ≠ '_'
  let leadingZero := c.peek = some '0' && digits.any fun p => p.toChar ≠ '0'
  if leadingZero && !((c'.peek.map isFloatMark).getD false) then none
  else if c'.peek = some '.' then
    let f := c'.next
    if (f.peek.map Char.isDigit).getD false then
      let f' ← digitRun Char.isDigit (f.left + 1) f
      numberTail f'
    else numberTail f
  else numberTail c'

/-- The end of a number. -/
def numberEnd (c : Cursor) : Option Cursor :=
  let isHex (d : Char) : Bool := d.isDigit || ('a' ≤ d && d ≤ 'f') || ('A' ≤ d && d ≤ 'F')
  let based (isDigit : Char → Bool) : Option Cursor :=
    (basedNumber isDigit c.next.next).bind fun e => if endsNumber e then some e else none
  if c.peek = some '0' then
    match c.next.peek with
    | some 'x' | some 'X' => based isHex
    | some 'o' | some 'O' => based fun d => '0' ≤ d && d < '8'
    | some 'b' | some 'B' => based fun d => d = '0' || d = '1'
    | _ => decimalNumber c
  else if c.peek = some '.' then
    (digitRun Char.isDigit (c.left + 1) c.next).bind numberTail
  else decimalNumber c

/-! ## Operators -/

/-- The operators of two and three characters. -/
def longOperators : List String :=
  ["**=", "//=", ">>=", "<<=", "...", "!=", "%=", "&=", "**", "*=", "+=", "-=", "->", "//", "/=",
   ":=", "<<", "<=", "<>", "==", ">=", ">>", "@=", "^=", "|="]

/-- The closing partner of a bracket. -/
def closingBracket (c : Char) : Char :=
  if c = '(' then ')' else if c = '[' then ']' else '\x7d'

/-- The deepest nesting of brackets. -/
def maxBrackets : Nat := 200

/-- An operator or a bracket. -/
def LexState.operator (s : LexState) (first : Cursor) (ch : Char) : LexStep :=
  let line := first.place.line
  match longOperators.find? fun op => (Text.ofString op).isPrefixOf first.rest with
  | some op => s.emit .operator first (first.skip op.length) s.brackets
  | none =>
    if ch = '(' ∨ ch = '[' ∨ ch = '\x7b' then
      if maxBrackets ≤ s.brackets.length then s.decisive "too many nested parentheses" line
      else s.emit .operator first first.next ((ch, line) :: s.brackets)
    else if ch = ')' ∨ ch = ']' ∨ ch = '\x7d' then
      match s.brackets with
      | [] => s.decisive ("unmatched '" ++ String.ofList [ch] ++ "'") line
      | (opening, _) :: outer =>
        if closingBracket opening = ch then s.emit .operator first first.next outer
        else s.decisive "closing parenthesis does not match opening parenthesis" line
    else if !(CodePoint.ofChar ch).isPrintable then
      s.decisive "invalid non-printable character" line
    else s.emit .operator first first.next s.brackets

/-! ## The steps of the lexer -/

/-- Whether a code point only separates tokens. -/
def isSpace (p : CodePoint) : Bool := p.toChar = ' ' || p.toChar = '\t' || p.toChar = '\x0c'

/-- The next token on a line. -/
def LexState.nextToken (s : LexState) : LexStep :=
  let first := s.cursor.skipWhile isSpace
  let first := if first.peek = some '#' then first.skipWhile (· ≠ CodePoint.ofChar '\n') else first
  match first.rest with
  | [] => if s.brackets.isEmpty then .finish else s.cutShort first.place.line
  | p :: _ =>
    let ch := p.toChar
    if isWordStart p then
      match stringOpening (first.left + 1) [] first with
      | some (opening, quote) => s.string first opening quote
      | none => s.word first (first.skipWhile isWordPart)
    else if ch = '\n' then
      let after := { s with cursor := first.next, atLineStart := true }
      if s.brackets.isEmpty then
        .token ⟨.newline, [], .plain, first.place, first.place, 0⟩ after
      else .move after
    else if ch.isDigit || (ch = '.' && (first.next.peek.map Char.isDigit).getD false) then
      match numberEnd first with
      | some last => s.emit .number first last s.brackets
      | none => s.decisive "invalid number literal" first.place.line
    else if ch = '"' ∨ ch = '\'' then s.string first first ch
    else if ch = '\\' then
      if first.next.peek = some '\n' then
        let after := first.next.next
        if after.rest.isEmpty then s.cutShort after.place.line else .move { s with cursor := after }
      else s.layout "unexpected character after line continuation character" first.place.line .form
    else s.operator first ch

/-- One step: the margin of a line, a pending block, or a token. -/
def LexState.step (s : LexState) : LexStep :=
  let here := s.cursor.place
  let layoutToken (kind : TokenKind) : Token := ⟨kind, [], .plain, here, here, s.brackets.length⟩
  if s.atLineStart then s.startLine
  else if s.opening then .token (layoutToken .indent) { s with opening := false }
  else if 0 < s.closing then .token (layoutToken .dedent) { s with closing := s.closing - 1 }
  else s.nextToken

/-- Runs the lexer; every step reads a character or opens or closes a block. -/
def lexFrom : Nat → LexState → Array Token → Tokens
  | 0, _, done => ⟨done, none⟩
  | fuel + 1, s, done =>
    match s.step with
    | .token t s => lexFrom fuel s (done.push t)
    | .move s => lexFrom fuel s done
    | .finish =>
      let here := s.cursor.place
      ⟨done.push ⟨.endOfFile, [], .plain, here, here, 0⟩, none⟩
    | .fault f => ⟨done, some f⟩

/-- A token of a text that begins at a place: one that spans lines counts its columns from the
beginning of the text. -/
def Token.startingAt (place : Place) (t : Token) : Token :=
  if t.start.line = place.line && t.stop.line ≠ place.line then
    { t with start := { t.start with column := t.start.column - place.column } }
  else t

/-- The tokens of a text that begins at a place. -/
def lexAt (place : Place) (t : Text) : Tokens :=
  let lexed := lexFrom (4 * t.length + 8) ⟨.ofText t place, [], false, 0, true, []⟩ #[]
  { lexed with tokens := lexed.tokens.map (Token.startingAt place) }

/-- The tokens of a source text. -/
def lex (t : Text) : Tokens := lexAt ⟨1, 0⟩ t

end SourceDocs.Source
