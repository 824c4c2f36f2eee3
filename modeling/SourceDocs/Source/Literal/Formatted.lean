import SourceDocs.Source.Lexer
import SourceDocs.Source.Literal.Escape
import SourceDocs.Source.Tree

/-!
# String literals

Adjacent string tokens form one literal: a text, a sequence of bytes, or, if one of them is
formatted, a sequence of texts and replacement fields.  A replacement field holds an expression,
which is a source text of its own, an optional conversion and an optional format, which may hold
replacement fields again.
-/

namespace SourceDocs.Source

/-- Why string tokens do not form a literal. -/
inductive LiteralFault where
  /-- The literal is malformed; that is reported where the reader has come to. -/
  | malformed (what : String)
  /-- The token on a line is malformed. -/
  | onLine (line : Nat) (what : String)
  /-- An expression in the literal has a fault. -/
  | embedded (f : Fault)

/-- A string token taken apart. -/
structure StringToken where
  raw : Bool
  isBytes : Bool
  formatted : Bool
  /-- The number of characters before the body. -/
  offset : Nat
  body : Text

/-- Takes a string token apart: letters, one or three quotes, the body, and quotes again. -/
def StringToken.ofText (t : Text) : StringToken :=
  let before := t.takeWhile fun p => p.toChar ≠ '"' && p.toChar ≠ '\''
  let letters := before.map fun p => p.toChar.toLower
  let quoted := t.drop letters.length
  let long := match quoted with
    | a :: b :: c :: _ => 6 ≤ quoted.length && a = b && b = c
    | _ => false
  let width := if long then 3 else 1
  { raw := letters.contains 'r'
    isBytes := letters.contains 'b'
    formatted := letters.contains 'f'
    offset := letters.length + width
    body := (quoted.drop width).take (quoted.length - 2 * width) }

/-- The place of a character of a token. -/
def placeIn (t : Token) (offset : Nat) : Place :=
  (t.text.take offset).foldl (fun place p => Cursor.placeBehind place p [p]) t.start

/-- Whether a character only separates tokens. -/
def isGap (p : CodePoint) : Bool := isSpace p || p.toChar = '\n'

/-- The tokens of a literal and what is needed to read expressions in them. -/
structure LiteralContext where
  embedded : Place → Text → Except Fault Value
  first : Token
  last : Token
  token : Token
  parts : StringToken

/-- A text node over a range of tokens.  A first token that begins with `u` marks it. -/
def textNode (first last : Token) (t : Text) : Value :=
  let mark := if first.text.head? = some (CodePoint.ofChar 'u') then Value.ofString "u" else .null
  placed .constant [.text t, mark] first.start last.stop

/-- A formatted literal under construction: its finished parts, last first, and the text that
follows them. -/
structure Assembly where
  parts : List Value := []
  pending : Text := []

/-- The parts with the pending text as a part of its own. -/
def Assembly.settled (a : Assembly) (first last : Token) : List Value :=
  if a.pending.isEmpty then a.parts else textNode first last a.pending :: a.parts

/-! ## Scanning -/

/-- Cuts the literal text at the start of a formatted string: the text, the rest, and whether a
doubled brace ended the text so that more of it follows.  Braces are doubled at the top level
only. -/
def scanLiteral (raw top : Bool) : Nat → Text → Text → Except LiteralFault (Text × Text × Bool)
  | 0, rest, done => .ok (done.reverse, rest, false)
  | _, [], done => .ok (done.reverse, [], false)
  | fuel + 1, p :: rest, done =>
    let brace (q : CodePoint) (behind before : Text) : Except LiteralFault (Text × Text × Bool) :=
      if q.toChar = '\x7b' || q.toChar = '\x7d' then
        if top && behind.head? = some q then .ok ((q :: before).reverse, behind.drop 1, true)
        else if top && q.toChar = '\x7d' then
          .error (.malformed "f-string: single '\x7d' is not allowed")
        else .ok (before.reverse, q :: behind, false)
      else scanLiteral raw top fuel behind (q :: before)
    if !raw && p.toChar = '\\' then
      match rest with
      | [] => scanLiteral raw top fuel [] (p :: done)
      | q :: behind =>
        if q.toChar = 'N' then
          match behind with
          | [] => scanLiteral raw top fuel [] (q :: p :: done)
          | r :: more =>
            if r.toChar = '\x7b' then
              let name := more.takeWhile fun c => c.toChar ≠ '\x7d'
              let closing := (more.drop name.length).take 1
              scanLiteral raw top fuel (more.drop (name.length + 1))
                (closing ++ name.reverse ++ [r, q, p] ++ done)
            else scanLiteral raw top fuel more (r :: q :: p :: done)
        else brace q behind (p :: done)
    else brace p rest done

/-- Cuts the expression at the start of a replacement field, behind its brace: the expression and
the rest, which begins with the character that ended it. -/
def scanExpression : Nat → Option (CodePoint × Bool) → List Char → Text → Text →
    Except LiteralFault (Text × Text)
  | fuel + 1, quote, brackets, p :: rest, done =>
    let c := p.toChar
    let tripled := match rest with
      | a :: b :: _ => a = p && b = p
      | _ => false
    let skipTwo := rest.take 2
    if c = '\\' then .error (.malformed "f-string expression part cannot include a backslash")
    else match quote with
      | some (q, long) =>
        if p ≠ q then scanExpression fuel quote brackets rest (p :: done)
        else if !long then scanExpression fuel none brackets rest (p :: done)
        else if tripled then
          scanExpression fuel none brackets (rest.drop 2) (skipTwo.reverse ++ p :: done)
        else scanExpression fuel quote brackets rest (p :: done)
      | none =>
        if c = '\'' || c = '"' then
          if tripled then
            scanExpression fuel (some (p, true)) brackets (rest.drop 2)
              (skipTwo.reverse ++ p :: done)
          else scanExpression fuel (some (p, false)) brackets rest (p :: done)
        else if c = '(' || c = '[' || c = '\x7b' then
          if maxBrackets ≤ brackets.length then
            .error (.malformed "f-string: too many nested parenthesis")
          else scanExpression fuel none (c :: brackets) rest (p :: done)
        else if c = '#' then .error (.malformed "f-string expression part cannot include '#'")
        else
          let next := rest.head?.map CodePoint.toChar
          if brackets.isEmpty && (c = '!' || c = '=' || c = '<' || c = '>') && next = some '=' then
            scanExpression fuel none brackets (rest.drop 1) ((rest.take 1) ++ p :: done)
          else if brackets.isEmpty && (c = '!' || c = ':' || c = '\x7d' || c = '=') then
            .ok (done.reverse, p :: rest)
          else if c = ')' || c = ']' || c = '\x7d' then
            match brackets with
            | [] => .error (.malformed "f-string: unmatched bracket")
            | opening :: outer =>
              if closingBracket opening = c then scanExpression fuel none outer rest (p :: done)
              else .error (.malformed "f-string: closing bracket does not match opening bracket")
          else scanExpression fuel none brackets rest (p :: done)
  | _, quote, brackets, _, _ =>
    .error (.malformed (if quote.isSome then "f-string: unterminated string"
      else if brackets.isEmpty then "f-string: expecting '\x7d'"
      else "f-string: unmatched bracket"))

/-! ## Replacement fields -/

/-- Whether nothing but blanks stands between a brace and the end of its line. -/
def opensLine (behind : Text) : Bool :=
  match behind.dropWhile isSpace with
  | p :: _ => p.toChar = '\n' || p.toChar = '\x7d'
  | [] => true

/-- The expression of a replacement field, read as a bracketed source text of its own. -/
def LiteralContext.expression (ctx : LiteralContext) (offset : Nat) (source behind : Text) :
    Except LiteralFault Value :=
  if source.all isGap then .error (.malformed "f-string: expression required")
  else
    let brace := placeIn ctx.token offset
    let start : Place :=
      if opensLine (source ++ behind) then
        ⟨brace.line, if brace.line = ctx.token.start.line then ctx.token.start.column else 0⟩
      else brace
    let text := Text.ofChar '(' ++ source ++ Text.ofString ")\n"
    match ctx.embedded start text with
    | .ok v => .ok v
    | .error f => .error (.embedded f)

/-- The parts of a replacement field behind its expression. -/
structure FieldTail where
  conversion : Option Char := none
  format : Value := .null
  rest : Text

/-- Reads the conversion at the start of a text. -/
def conversion? (rest : Text) : Except LiteralFault (Option Char × Text) :=
  match rest with
  | p :: behind =>
    if p.toChar = '!' then
      match behind with
      | q :: more =>
        if q.toChar = 's' || q.toChar = 'r' || q.toChar = 'a' then .ok (some q.toChar, more)
        else .error (.malformed "f-string: invalid conversion character")
      | [] => .error (.malformed "f-string: expecting '\x7d'")
    else .ok (none, rest)
  | [] => .ok (none, rest)

/-- Reads the conversion and the format of a replacement field up to its closing brace. -/
def fieldTail (format : Text → Except LiteralFault (Value × Text)) (rest : Text) :
    Except LiteralFault FieldTail := do
  let (conversion, rest) ← conversion? rest
  let (spec, rest) ← match rest with
    | p :: behind =>
      if p.toChar = ':' then
        if behind.isEmpty then .error (.malformed "f-string: expecting '\x7d'") else format behind
      else pure (.null, rest)
    | [] => pure (.null, rest)
  match rest with
  | p :: behind =>
    if p.toChar = '\x7d' then return ⟨conversion, spec, behind⟩
    else .error (.malformed "f-string: expecting '\x7d'")
  | [] => .error (.malformed "f-string: expecting '\x7d'")

/-- A replacement field: the text of its expression if it is to be shown, the node, and the rest of
the literal.  `rest` begins with the opening brace. -/
def LiteralContext.field (ctx : LiteralContext) (format : Text → Except LiteralFault (Value × Text))
    (rest : Text) : Except LiteralFault (Text × Value × Text) := do
  let body := ctx.parts.body
  let inner := rest.drop 1
  let (source, behind) ← scanExpression (inner.length + 1) none [] inner []
  let value ← ctx.expression (ctx.parts.offset + (body.length - rest.length)) source behind
  let shows := behind.head?.map CodePoint.toChar = some '='
  let tailText := if shows then (behind.drop 1).dropWhile isAsciiSpace else behind
  let shown := if shows then inner.take (inner.length - tailText.length) else []
  if tailText.isEmpty then .error (.malformed "f-string: expecting '\x7d'")
  let tail ← fieldTail format tailText
  let conversion : Int := match tail.conversion with
    | some c => c.toNat
    | none => if shows && (match tail.format with | .null => true | _ => false) then 114 else -1
  let node :=
    placed .formattedValue [value, .int conversion, tail.format] ctx.first.start ctx.last.stop
  return (shown, node, tail.rest)
where
  /-- The blanks that may follow the mark behind a shown expression. -/
  isAsciiSpace (p : CodePoint) : Bool := p.val = 32 || (9 ≤ p.val && p.val ≤ 13)

/-- Reads literal texts and replacement fields up to the end, or inside a format up to the brace
that closes it. -/
def LiteralContext.pieces (ctx : LiteralContext) (top : Bool)
    (field : Text → Except LiteralFault (Text × Value × Text)) :
    Nat → Text → Assembly → Except LiteralFault (Assembly × Text)
  | 0, rest, a => .ok (a, rest)
  | fuel + 1, rest, a => do
    let (source, behind, again) ← scanLiteral ctx.parts.raw top (rest.length + 1) rest []
    let literal ← match textOfLiteral ctx.parts.raw source with
      | some t => Except.ok t
      | none => .error (.malformed "(unicode error)")
    let a := { a with pending := a.pending ++ literal }
    if again then ctx.pieces top field fuel behind a
    else if behind.isEmpty || behind.head?.map CodePoint.toChar = some '\x7d' then .ok (a, behind)
    else
      let (shown, node, behind) ← field behind
      let a := { a with pending := a.pending ++ shown }
      ctx.pieces top field fuel behind ⟨node :: a.settled ctx.first ctx.last, []⟩

/-- Reads a formatted string or a format in which replacement fields may nest so deep. -/
def LiteralContext.formatted (ctx : LiteralContext) (top : Bool) :
    Nat → Text → Assembly → Except LiteralFault (Assembly × Text)
  | 0, rest, a =>
    ctx.pieces top (fun _ => .error (.malformed "f-string: expressions nested too deeply"))
      (rest.length + 1) rest a
  | depth + 1, rest, a =>
    let format (rest : Text) : Except LiteralFault (Value × Text) := do
      let (a, behind) ← ctx.formatted false depth rest {}
      if behind.head?.map CodePoint.toChar = some '\x7d' then
        let parts := (a.settled ctx.token ctx.token).reverse
        return (placed .joinedStr [.list parts] ctx.token.start ctx.token.stop, behind)
      else .error (.malformed "f-string: expecting '\x7d'")
    ctx.pieces top (ctx.field format) (rest.length + 1) rest a

/-! ## Adjacent literals -/

/-- What the tokens read so far amount to. -/
structure Joined where
  bytes : Option (List UInt8) := none
  assembly : Assembly := {}
  formatted : Bool := false

/-- Adds a token to a literal. -/
def Joined.add (embedded : Place → Text → Except Fault Value) (first last : Token) (isFirst : Bool)
    (j : Joined) (t : Token) : Except LiteralFault Joined := do
  let parts := StringToken.ofText t.text
  let mixed : Bool := !isFirst && parts.isBytes ≠ j.bytes.isSome
  let mixFault : LiteralFault := .malformed "cannot mix bytes and nonbytes literals"
  if parts.isBytes then
    if parts.body.any fun p => 0x80 ≤ p.val then
      .error (.onLine t.start.line "bytes can only contain ASCII literal characters")
    match bytesOfLiteral parts.raw parts.body with
    | none => .error (.malformed "(value error)")
    | some data =>
      if mixed then .error mixFault
      return { j with bytes := some (j.bytes.getD [] ++ data) }
  else if parts.formatted then
    if mixed then .error mixFault
    let ctx : LiteralContext := ⟨embedded, first, last, t, parts⟩
    let (a, _) ← ctx.formatted true 2 parts.body j.assembly
    return { j with assembly := a, formatted := true }
  else
    match textOfLiteral parts.raw parts.body with
    | none => .error (.malformed "(unicode error)")
    | some text =>
      if mixed then .error mixFault
      return { j with assembly := { j.assembly with pending := j.assembly.pending ++ text } }

/-- The literal that adjacent string tokens form. -/
def stringLiteral (embedded : Place → Text → Except Fault Value) (tokens : List Token) :
    Except LiteralFault Value := do
  let first := tokens.headD default
  let last := tokens.getLastD default
  let j ← tokens.zipIdx.foldlM (fun j (t, i) => j.add embedded first last (i = 0) t) ({} : Joined)
  match j.bytes with
  | some data => return placed .constant [.bytes data false, .null] first.start last.stop
  | none =>
    if j.formatted then
      return placed .joinedStr [.list (j.assembly.settled first last).reverse] first.start last.stop
    else return textNode first last j.assembly.pending

end SourceDocs.Source
