import SourceDocs.Text.Utf8
import SourceDocs.Yaml.Token

/-!
# Reading tokens

`tokens` cuts a YAML text into tokens.  Blocks are told by indentation: a token further to the left
than the current block closes it.  Whether a scalar is a key is known only when a colon follows it
on the same line, so the place of every token that could begin a key is remembered, and such a token
is handed over only when that is settled: a fault further to the right may come first.
-/

namespace SourceDocs.Yaml

/-! ## Characters -/

/-- The mark of the end of the text. -/
def endMark : Char := '\x00'

/-- Whether a line ends at a character. -/
def isBreak (c : Char) : Bool := c = '\n' || c = '\x85' || c = '\u2028' || c = '\u2029'

/-- Whether a line or the text ends at a character. -/
def isLineEnd (c : Char) : Bool := c = endMark || isBreak c

/-- Whether a character is a space or ends a line. -/
def isSpaceOrEnd (c : Char) : Bool := c = ' ' || isLineEnd c

/-- Whether a character is a space or a tab or ends a line. -/
def isGap (c : Char) : Bool := c = '\t' || isSpaceOrEnd c

/-- Whether a character may occur in a text at all. -/
def isAllowed (c : Char) : Bool :=
  let n := c.toNat
  n = 0x09 || n = 0x0A || n = 0x0D || (0x20 ≤ n && n ≤ 0x7E) || n = 0x85
    || (0xA0 ≤ n && n ≤ 0xD7FF) || (0xE000 ≤ n && n ≤ 0xFFFD) || 0x10000 ≤ n

/-- Whether a character may occur in the name of an anchor or a handle. -/
def isWordChar (c : Char) : Bool := c.isAlphanum || c = '-' || c = '_'

/-- Whether a character may occur in a tag. -/
def isTagChar (c : Char) : Bool := c.isAlphanum || "-;/?:@&=+$,_.!~*'()[]%".toList.contains c

/-- Whether a character is a hexadecimal digit. -/
def isHexDigit (c : Char) : Bool := c.isDigit || ('a' ≤ c && c ≤ 'f') || ('A' ≤ c && c ≤ 'F')

/-! ## The state of a lexer -/

/-- A place where a key could begin. -/
structure KeyPlace where
  /-- The number of the token that begins there. -/
  token : Nat
  /-- The block has no other use for that token than as a key. -/
  required : Bool
  index : Nat
  line : Nat
  column : Nat

/-- What a lexer knows about the text read so far. -/
structure LexState where
  rest : List Char
  index : Nat := 0
  line : Nat := 0
  column : Nat := 0
  /-- The number of flow collections that are open. -/
  flowLevel : Nat := 0
  /-- The tokens that are not handed over yet. -/
  tokens : List Token := []
  /-- The number of tokens that are handed over. -/
  taken : Nat := 0
  /-- The end of the text has been reached. -/
  done : Bool := false
  /-- The column of the current block. -/
  indent : Int := -1
  /-- The columns of the blocks around it. -/
  outer : List Int := []
  /-- A key may begin here. -/
  allowsKey : Bool := true
  /-- Places where keys could begin, one a flow level. -/
  keys : List (Nat × KeyPlace) := []

/-- A lexer. -/
abbrev Lexer := StateT LexState (Except Fault)

namespace Lexer

/-- Fails because the text is malformed. -/
def malformed {α : Type} : Lexer α := throw .malformed

/-- The character so far ahead. -/
def peek (n : Nat := 0) : Lexer Char := do return (← get).rest.getD n endMark

/-- A state one character later. -/
def stepped (s : LexState) : LexState :=
  match s.rest with
  | [] => s
  | c :: rest =>
    let s := { s with rest := rest, index := s.index + 1 }
    if isBreak c then { s with line := s.line + 1, column := 0 }
    else if c = '\uFEFF' then s
    else { s with column := s.column + 1 }

/-- Reads so many characters. -/
def forward : Nat → Lexer Unit
  | 0 => return
  | n + 1 => do
    modify stepped
    forward n

/-- Reads characters as long as they satisfy a test. -/
def span (test : Char → Bool) : Lexer (List Char) := do
  let taken := (← get).rest.takeWhile test
  forward taken.length
  return taken

/-- Skips characters as long as they satisfy a test. -/
def skip (test : Char → Bool) : Lexer Unit := do
  let _ ← span test

/-- The number of characters that are left. -/
def left : Lexer Nat := do return (← get).rest.length

/-- Reads the end of a line, if there is one here: what it stands for in a scalar. -/
def lineBreak : Lexer (List Char) := do
  let c ← peek
  if c = '\n' || c = '\x85' then
    forward 1
    return ['\n']
  else if isBreak c then
    forward 1
    return [c]
  else return []

/-- Skips a comment, if there is one here. -/
def skipComment : Lexer Unit := do
  if (← peek) = '#' then skip fun c => !isLineEnd c

/-- Skips the rest of a line, in which only a comment may stand. -/
def finishLine : Lexer Unit := do
  skip (· = ' ')
  skipComment
  if isLineEnd (← peek) then
    let _ ← lineBreak
  else malformed

/-- Adds a token. -/
def emit (t : Token) : Lexer Unit := modify fun s => { s with tokens := s.tokens ++ [t] }

/-- Puts a token before the one with a number. -/
def emitBefore (n : Nat) (t : Token) : Lexer Unit :=
  modify fun s =>
    let (before, behind) := s.tokens.splitAt (n - s.taken)
    { s with tokens := before ++ t :: behind }

/-- Whether a document mark of three equal characters stands here. -/
def atMark (c : Char) : Lexer Bool := do
  let s ← get
  return s.rest.take 3 = [c, c, c] && isGap (s.rest.getD 3 endMark)

/-- Whether a mark between documents stands here. -/
def atDocumentMark : Lexer Bool := do
  if ← atMark '-' then return true else atMark '.'

/-! ## Blocks and keys -/

/-- Closes the blocks further to the right than a column. -/
def closeBlocks (column : Int) : Lexer Unit := do
  let s ← get
  if s.flowLevel = 0 then close s.outer else return
where
  /-- Closes blocks, given those around the current one. -/
  close : List Int → Lexer Unit
    | [] => return
    | i :: rest => do
      let s ← get
      if column < s.indent then
        modify fun s => { s with indent := i, outer := rest }
        emit .blockEnd
        close rest
      else return

/-- Opens a block at a column, unless one is open there; tells whether it did. -/
def openBlock (column : Int) : Lexer Bool := do
  let s ← get
  if s.indent < column then
    modify fun s => { s with indent := column, outer := s.indent :: s.outer }
    return true
  else return false

/-- Forgets the places of keys that are too far behind: on another line, or more than 1024
characters ago. -/
def forgetKeys : Lexer Unit := do
  let s ← get
  let isStale (k : Nat × KeyPlace) : Bool := k.2.line ≠ s.line || 1024 < s.index - k.2.index
  if s.keys.any fun k => isStale k && k.2.required then malformed
  else modify fun s => { s with keys := s.keys.filter fun k => !isStale k }

/-- Forgets the place of a key at the current flow level. -/
def dropKey : Lexer Unit := do
  let s ← get
  match s.keys.lookup s.flowLevel with
  | none => return
  | some k =>
    if k.required then malformed
    else modify fun s => { s with keys := s.keys.filter fun k => k.1 ≠ s.flowLevel }

/-- Remembers that a key could begin here. -/
def rememberKey : Lexer Unit := do
  let s ← get
  if s.allowsKey then
    dropKey
    let place : KeyPlace :=
      { token := s.taken + s.tokens.length,
        required := s.flowLevel = 0 && s.indent = (s.column : Int),
        index := s.index, line := s.line, column := s.column }
    modify fun s => { s with keys := (s.flowLevel, place) :: s.keys }

/-- Says whether a key may begin behind the token that is being read. -/
def allowKey (b : Bool) : Lexer Unit := modify fun s => { s with allowsKey := b }

/-- Skips spaces, comments and line ends.  Behind the end of a line of a block a key may begin. -/
def skipToToken : Nat → Lexer Unit
  | 0 => return
  | fuel + 1 => do
    skip (· = ' ')
    skipComment
    if (← lineBreak).isEmpty then return
    else
      let s ← get
      if s.flowLevel = 0 then allowKey true
      skipToToken fuel

/-! ## Directives, anchors and tags -/

/-- The most digits of a decimal number. -/
def maxDigits : Nat := 4300

/-- A decimal number. -/
def number : Lexer Nat := do
  let digits ← span Char.isDigit
  if digits.isEmpty then malformed
  else if maxDigits < digits.length then throw (.misuse .badValue)
  else return (Text.numeral? 10 digits).getD 0

/-- Demands that the next character satisfies a test. -/
def demand (test : Char → Bool) : Lexer Unit := do
  if test (← peek) then return else malformed

/-- Characters as a text. -/
def textOf (cs : List Char) : Text := cs.map CodePoint.ofChar

/-- The handle of a tag: an exclamation mark, or two with a word between them. -/
def tagHandle : Lexer Text := do
  demand (· = '!')
  forward 1
  if (← peek) = ' ' then return textOf ['!']
  else
    let word ← span isWordChar
    demand (· = '!')
    forward 1
    return textOf ('!' :: word ++ ['!'])

/-- Bytes written as percent signs with two digits each, which must form characters. -/
def percentBytes : Nat → List UInt8 → Lexer Text
  | 0, _ => malformed
  | fuel + 1, done => do
    if (← peek) = '%' then
      forward 1
      let digits := (← get).rest.take 2
      if digits.length = 2 && digits.all isHexDigit then
        forward 2
        percentBytes fuel (UInt8.ofNat ((Text.numeral? 16 digits).getD 0) :: done)
      else malformed
    else
      match Utf8.decode? done.reverse with
      | some t => return t
      | none => malformed

/-- The rest of a tag behind its handle. -/
def tagSuffix : Nat → Text → Lexer Text
  | 0, _ => malformed
  | fuel + 1, done => do
    let plain ← span fun c => isTagChar c && c ≠ '%'
    let done := done ++ textOf plain
    if (← peek) = '%' then tagSuffix fuel (done ++ (← percentBytes ((← left) + 1) []))
    else if done.isEmpty then malformed
    else return done

/-- A directive behind its percent sign. -/
def directive : Lexer Token := do
  forward 1
  let name ← span isWordChar
  if name.isEmpty then malformed
  else
    demand isSpaceOrEnd
    let d ← match String.ofList name with
      | "YAML" => do
        skip (· = ' ')
        let major ← number
        demand (· = '.')
        forward 1
        let minor ← number
        demand isSpaceOrEnd
        pure (Directive.version major minor)
      | "TAG" => do
        skip (· = ' ')
        let handle ← tagHandle
        demand (· = ' ')
        skip (· = ' ')
        let start ← tagSuffix ((← left) + 1) []
        demand isSpaceOrEnd
        pure (Directive.tagHandle handle start)
      | _ => do
        skip fun c => !isLineEnd c
        pure Directive.other
    finishLine
    return .directive d

/-- The name of an anchor or a reference. -/
def anchorName : Lexer Text := do
  forward 1
  let name ← span isWordChar
  let c ← peek
  if name.isEmpty || !(isGap c || "?:,]\x7d%@`".toList.contains c) then malformed
  else return textOf name

/-- A tag. -/
def tag : Lexer Token := do
  let c ← peek 1
  let token ← if c = '<' then do
      forward 2
      let suffix ← tagSuffix ((← left) + 1) []
      demand (· = '>')
      forward 1
      pure (Token.tag none suffix)
    else if isGap c then do
      forward 1
      pure (Token.tag none (textOf ['!']))
    else do
      let word := ((← get).rest.drop 1).takeWhile fun c => !isSpaceOrEnd c
      let handle ← if word.contains '!' then tagHandle else do
        forward 1
        pure (textOf ['!'])
      let suffix ← tagSuffix ((← left) + 1) []
      pure (Token.tag (some handle) suffix)
  demand isSpaceOrEnd
  return token

/-! ## Block scalars -/

/-- Line breaks before the next line of a block scalar, of which at most `indent` spaces are
skipped. -/
def blockBreaks (indent : Nat) : Nat → List Char → Lexer (List Char)
  | 0, done => return done
  | fuel + 1, done => do
    let s ← get
    let spaces := (s.rest.takeWhile (· = ' ')).length
    forward (min spaces (indent - s.column))
    let ending ← lineBreak
    if ending.isEmpty then return done else blockBreaks indent fuel (done ++ ending)

/-- Line breaks and spaces before the first line of a block scalar, and the greatest column
reached. -/
def blockStart : Nat → Nat → List Char → Lexer (Nat × List Char)
  | 0, widest, done => return (widest, done)
  | fuel + 1, widest, done => do
    skip (· = ' ')
    let widest := max widest (← get).column
    let ending ← lineBreak
    if ending.isEmpty then return (widest, done) else blockStart fuel widest (done ++ ending)

/-- What a block scalar keeps of the line breaks at its end. -/
inductive Chomping where
  | strip
  | clip
  | keep
deriving DecidableEq

/-- The sign of a chomping. -/
def chomping? (c : Char) : Option Chomping :=
  match c with
  | '+' => some .keep
  | '-' => some .strip
  | _ => none

/-- An indentation given by a digit. -/
def increment? : Lexer (Option Nat) := do
  let c ← peek
  if c = '0' then malformed
  else if c.isDigit then
    forward 1
    return some (c.toNat - '0'.toNat)
  else return none

/-- A sign of a chomping, if there is one here. -/
def chompingSign? : Lexer (Option Chomping) := do
  match chomping? (← peek) with
  | some c =>
    forward 1
    return some c
  | none => return none

/-- The indicators behind the sign of a block scalar, in either order. -/
def blockIndicators : Lexer (Chomping × Option Nat) := do
  let result ← match ← chompingSign? with
    | some c => do pure (c, ← increment?)
    | none => do
      match ← increment? with
      | some n => do pure ((← chompingSign?).getD .clip, some n)
      | none => pure (.clip, none)
  demand isSpaceOrEnd
  return result

/-- Whether a character is a space or a tab. -/
def isBlankChar (c : Char) : Bool := c = ' ' || c = '\t'

/-- The lines of a block scalar: its text, the end of its last line, and the breaks behind it. -/
def blockLines (folded : Bool) (indent : Nat) :
    Nat → List Char → List Char → Lexer (List Char × List Char × List Char)
  | 0, done, breaks => return (done, [], breaks)
  | fuel + 1, done, breaks => do
    let startsFull := !isBlankChar (← peek)
    let line ← span fun c => !isLineEnd c
    let ending ← lineBreak
    let following ← blockBreaks indent ((← left) + 1) []
    let done := done ++ breaks ++ line
    let s ← get
    let c ← peek
    if s.column = indent && c ≠ endMark then
      let joint :=
        if folded && ending = ['\n'] && startsFull && !isBlankChar c then
          (if following.isEmpty then [' '] else [])
        else ending
      blockLines folded indent fuel (done ++ joint) following
    else return (done, ending, following)

/-- A block scalar. -/
def blockScalar (folded : Bool) : Lexer Token := do
  forward 1
  let (chomping, increment) ← blockIndicators
  finishLine
  let least := ((← get).indent + 1).toNat.max 1
  let (indent, breaks) ← match increment with
    | none => do
      let (widest, breaks) ← blockStart ((← left) + 1) 0 []
      pure (max least widest, breaks)
    | some n => do
      let indent := least + n - 1
      pure (indent, ← blockBreaks indent ((← left) + 1) [])
  let s ← get
  let (text, ending, following) ←
    if s.column = indent && (← peek) ≠ endMark then
      blockLines folded indent (s.rest.length + 1) [] breaks
    else pure ([], [], breaks)
  let tail := match chomping with
    | .strip => []
    | .clip => ending
    | .keep => ending ++ following
  return .scalar false (textOf (text ++ tail))

/-! ## Quoted scalars -/

/-- What a letter behind a backslash stands for. -/
def escapeOf? (c : Char) : Option Char :=
  match c with
  | '0' => some '\x00'
  | 'a' => some '\x07'
  | 'b' => some '\x08'
  | 't' | '\t' => some '\t'
  | 'n' => some '\n'
  | 'v' => some '\x0b'
  | 'f' => some '\x0c'
  | 'r' => some '\r'
  | 'e' => some '\x1b'
  | ' ' => some ' '
  | '"' => some '"'
  | '\\' => some '\\'
  | '/' => some '/'
  | 'N' => some '\x85'
  | '_' => some '\xa0'
  | 'L' => some '\u2028'
  | 'P' => some '\u2029'
  | _ => none

/-- The number of hexadecimal digits behind a letter. -/
def digitCount? (c : Char) : Option Nat :=
  match c with
  | 'x' => some 2
  | 'u' => some 4
  | 'U' => some 8
  | _ => none

/-- The code point with a number; numbers that are too large fail in two ways. -/
def codePoint (n : Nat) : Lexer CodePoint :=
  match CodePoint.ofNat? n with
  | some c => return c
  | none => throw (.misuse (if n < 0x80000000 then .badValue else .overflow))

/-- Line breaks inside a quoted scalar, where no document may begin or end. -/
def quotedBreaks : Nat → List Char → Lexer (List Char)
  | 0, done => return done
  | fuel + 1, done => do
    if ← atDocumentMark then malformed
    else
      skip isBlankChar
      let ending ← lineBreak
      if ending.isEmpty then return done else quotedBreaks fuel (done ++ ending)

/-- Line breaks as they are folded: the first one becomes a space if no other follows. -/
def folded (ending breaks : List Char) : List Char :=
  if ending ≠ ['\n'] then ending ++ breaks else if breaks.isEmpty then [' '] else breaks

/-- An escape in a scalar between double quotes. -/
def escaped : Lexer Text := do
  let c ← peek
  match escapeOf? c, digitCount? c with
  | some e, _ =>
    forward 1
    return textOf [e]
  | none, some count =>
    forward 1
    let digits := (← get).rest.take count
    if digits.length = count && digits.all isHexDigit then
      let p ← codePoint ((Text.numeral? 16 digits).getD 0)
      forward count
      return [p]
    else malformed
  | none, none =>
    if isBreak c then
      let _ ← lineBreak
      return textOf (← quotedBreaks ((← left) + 1) [])
    else malformed

/-- The text of a quoted scalar up to its closing quote. -/
def quotedText (quote : Char) : Nat → Text → Lexer Text
  | 0, _ => malformed
  | fuel + 1, done => do
    let c ← peek
    if c = quote then
      if quote = '\'' && (← peek 1) = '\'' then
        forward 2
        quotedText quote fuel (done ++ textOf ['\''])
      else
        forward 1
        return done
    else if c = endMark then malformed
    else if quote = '"' && c = '\\' then
      forward 1
      let t ← escaped
      quotedText quote fuel (done ++ t)
    else if isGap c then
      let spaces ← span isBlankChar
      let ending ← lineBreak
      if ending.isEmpty then
        if (← peek) = endMark then malformed
        else quotedText quote fuel (done ++ textOf spaces)
      else
        let breaks ← quotedBreaks ((← left) + 1) []
        quotedText quote fuel (done ++ textOf (folded ending breaks))
    else
      forward 1
      quotedText quote fuel (done ++ textOf [c])

/-- A quoted scalar. -/
def quotedScalar : Lexer Token := do
  let quote ← peek
  forward 1
  return .scalar false (← quotedText quote ((← left) + 1) [])

/-! ## Plain scalars -/

/-- The number of characters of a plain scalar at the head of a text. -/
def plainLength (inFlow : Bool) : List Char → Nat
  | [] => 0
  | c :: rest =>
    let next := rest.headD endMark
    let isFlowSign (c : Char) : Bool := ",[]\x7b\x7d".toList.contains c
    if isGap c || (c = ':' && (isGap next || (inFlow && isFlowSign next)))
      || (inFlow && (isFlowSign c || c = '?')) then 0
    else plainLength inFlow rest + 1

/-- Line breaks and spaces between the lines of a plain scalar; `none` if a document begins or ends
there. -/
def plainBreaks : Nat → List Char → Lexer (Option (List Char))
  | 0, done => return some done
  | fuel + 1, done => do
    if ← atDocumentMark then return none
    else
      skip (· = ' ')
      let ending ← lineBreak
      if ending.isEmpty then return some done else plainBreaks fuel (done ++ ending)

/-- What stands between two parts of a plain scalar; empty if it ends here. -/
def plainSpaces : Lexer (List Char) := do
  let spaces ← span (· = ' ')
  let ending ← lineBreak
  if ending.isEmpty then return spaces
  else
    allowKey true
    match ← plainBreaks ((← left) + 1) [] with
    | some breaks => return folded ending breaks
    | none => return []

/-- The parts of a plain scalar that stands further to the right than `indent`. -/
def plainParts (indent : Int) : Nat → List Char → List Char → Lexer (List Char)
  | 0, _, done => return done
  | fuel + 1, spaces, done => do
    let s ← get
    let length := if s.rest.head? = some '#' then 0 else plainLength (s.flowLevel ≠ 0) s.rest
    if length = 0 then return done
    else
      allowKey false
      let part := s.rest.take length
      forward length
      let done := done ++ spaces ++ part
      let spaces ← plainSpaces
      let s ← get
      if spaces.isEmpty || s.rest.head? = some '#'
        || (s.flowLevel = 0 && (s.column : Int) < indent) then return done
      else plainParts indent fuel spaces done

/-- A plain scalar. -/
def plainScalar : Lexer Token := do
  let s ← get
  return .scalar true (textOf (← plainParts (s.indent + 1) (s.rest.length + 1) [] []))

/-! ## Tokens -/

/-- Closes all blocks before a directive, a document mark or the end. -/
def closeDocument : Lexer Unit := do
  closeBlocks (-1)
  dropKey
  allowKey false

/-- Reads a mark of one character. -/
def mark (t : Token) : Lexer Unit := do
  forward 1
  emit t

/-- The beginning of a flow collection. -/
def flowStart (t : Token) : Lexer Unit := do
  rememberKey
  modify fun s => { s with flowLevel := s.flowLevel + 1, allowsKey := true }
  mark t

/-- The end of a flow collection. -/
def flowEnd (t : Token) : Lexer Unit := do
  dropKey
  modify fun s => { s with flowLevel := s.flowLevel - 1, allowsKey := false }
  mark t

/-- Opens a block at the current column before an indicator, which must not stand elsewhere. -/
def blockIndicator (opening : Token) : Lexer Unit := do
  let s ← get
  if s.flowLevel = 0 then
    if !s.allowsKey then malformed
    else if ← openBlock s.column then emit opening

/-- A dash. -/
def entrySign : Lexer Unit := do
  blockIndicator .blockSequence
  allowKey true
  dropKey
  mark .blockEntry

/-- A question mark. -/
def keySign : Lexer Unit := do
  blockIndicator .blockMapping
  allowKey ((← get).flowLevel = 0)
  dropKey
  mark .key

/-- A colon: what stands before it is a key if one could begin there. -/
def valueSign : Lexer Unit := do
  let s ← get
  match s.keys.lookup s.flowLevel with
  | some place =>
    modify fun s => { s with keys := s.keys.filter fun k => k.1 ≠ s.flowLevel }
    emitBefore place.token .key
    if s.flowLevel = 0 then
      if ← openBlock place.column then emitBefore place.token .blockMapping
    allowKey false
  | none =>
    blockIndicator .blockMapping
    allowKey (s.flowLevel = 0)
    dropKey
  mark .value

/-- A token that may be a key and behind which none may begin. -/
def keyLike (x : Lexer Token) : Lexer Unit := do
  rememberKey
  allowKey false
  emit (← x)

/-- A block scalar as a token. -/
def blockToken (folded : Bool) : Lexer Unit := do
  allowKey true
  dropKey
  emit (← blockScalar folded)

/-- Whether a plain scalar can begin here. -/
def startsPlain (inFlow : Bool) (c next : Char) : Bool :=
  !(isGap c || "-?:,[]\x7b\x7d#&*!|>'\"%@`".toList.contains c)
    || (!isGap next && (c = '-' || (!inFlow && (c = '?' || c = ':'))))

/-- Reads the next token. -/
def next : Lexer Unit := do
  skipToToken ((← left) + 1)
  forgetKeys
  closeBlocks (← get).column
  let s ← get
  let c ← peek
  let following ← peek 1
  let inFlow := s.flowLevel ≠ 0
  let atStart := s.column = 0
  if s.rest.isEmpty then
    closeDocument
    emit .streamEnd
    modify fun s => { s with done := true }
  else if c = '%' && atStart then
    closeDocument
    emit (← directive)
  else if atStart && (← atMark '-') then
    closeDocument
    forward 3
    emit .documentStart
  else if atStart && (← atMark '.') then
    closeDocument
    forward 3
    emit .documentEnd
  else if c = '[' then flowStart .flowSequence
  else if c = '\x7b' then flowStart .flowMapping
  else if c = ']' then flowEnd .flowSequenceEnd
  else if c = '\x7d' then flowEnd .flowMappingEnd
  else if c = ',' then
    allowKey true
    dropKey
    mark .flowEntry
  else if c = '-' && isGap following then entrySign
  else if c = '?' && (inFlow || isGap following) then keySign
  else if c = ':' && (inFlow || isGap following) then valueSign
  else if c = '*' then keyLike do return .reference (← anchorName)
  else if c = '&' then keyLike do return .anchor (← anchorName)
  else if c = '!' then keyLike tag
  else if c = '|' && !inFlow then blockToken false
  else if c = '>' && !inFlow then blockToken true
  else if c = '\'' || c = '"' then keyLike quotedScalar
  else if startsPlain inFlow c following then keyLike plainScalar
  else malformed

/-- Whether the first token can be handed over: it may not turn out to be a key any more. -/
def isSettled (s : LexState) : Bool :=
  s.done || (!s.tokens.isEmpty && s.keys.all fun k => k.2.token ≠ s.taken)

/-- The tokens up to the end, or up to what cannot be read. -/
def all : Nat → LexState → List Token
  | 0, _ => []
  | fuel + 1, s =>
    let step : Lexer Unit := do
      if !s.done then forgetKeys
      if !isSettled (← get) then next
    match step.run s with
    | .error f => [.fault f]
    | .ok (_, s) =>
      if isSettled s then
        match s.tokens with
        | [] => []
        | t :: rest => t :: all fuel { s with tokens := rest, taken := s.taken + 1 }
      else all fuel s

end Lexer

/-- The tokens of a text whose line ends are unified. -/
def tokens (t : List Char) : List Token :=
  if t.all isAllowed then
    let rest := if t.head? = some '\uFEFF' then t.drop 1 else t
    Lexer.all (6 * t.length + 16) { rest := rest }
  else [.fault .malformed]

end SourceDocs.Yaml
