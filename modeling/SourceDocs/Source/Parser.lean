import SourceDocs.Source.Token
import SourceDocs.Value.Basic
import Std.Data.TreeMap.Basic

/-!
# Parsers over tokens

A parser reads tokens from a position and succeeds, fails, or finds a fault.  Failure makes the
next alternative run from the same position; a fault ends the parse.  Parsers remember how many
tokens have been looked at (`reach`), because a misplaced token is reported at the last of them, and
what each grammar rule found at each position (`memo`).

A text that does not parse is read a second time with `diagnosing` on: then the grammar's
descriptions of common mistakes take part, and each of them that matches is a fault.
-/

namespace SourceDocs.Source

/-- What a parser reads, and whether descriptions of mistakes take part. -/
structure Input where
  tokens : Tokens
  diagnosing : Bool

/-- What a rule found: nothing, or a value and the position behind it. -/
abbrev Found := Option (Value × Nat)

/-- How far a parse has come. -/
structure Progress where
  position : Nat
  reach : Nat
  memo : Std.TreeMap Nat Found

/-- The outcome of a parser. -/
inductive Outcome (α : Type) where
  | ok (a : α) (p : Progress)
  | fail (p : Progress)
  /-- A fault; `lexical` if it is that of the first malformed token. -/
  | fault (f : Fault) (lexical : Bool) (p : Progress)

/-- A parser of values of type `α`. -/
def Parser (α : Type) := Input → Progress → Outcome α

namespace Parser

variable {α β : Type}

/-- Succeeds without reading. -/
protected def pure (a : α) : Parser α := fun _ p => .ok a p

/-- Runs a parser and then the one that its result gives. -/
protected def bind (x : Parser α) (f : α → Parser β) : Parser β := fun i p =>
  match x i p with
  | .ok a p => f a i p
  | .fail p => .fail p
  | .fault e l p => .fault e l p

instance : Monad Parser where
  pure := Parser.pure
  bind := Parser.bind

/-- Fails without reading. -/
def fail : Parser α := fun _ p => .fail p

/-- Runs the second parser from the same position if the first one fails. -/
protected def orElse (x : Parser α) (y : Unit → Parser α) : Parser α := fun i p =>
  let position := p.position
  match x i p with
  | .fail p => y () i { p with position := position }
  | r => r

instance : OrElse (Parser α) := ⟨Parser.orElse⟩

/-- The result of the first parser of a list that succeeds. -/
def firstOf : List (Parser α) → Parser α
  | [] => fail
  | [x] => x
  | x :: rest => Parser.orElse x fun _ => firstOf rest

/-- The result of a parser, or nothing if it fails. -/
def optional (x : Parser α) : Parser (Option α) :=
  Parser.orElse (Parser.bind x fun a => Parser.pure (some a)) fun _ => Parser.pure none

/-- A value, or null if the parser fails. -/
def orNull (x : Parser Value) : Parser Value := Parser.orElse x fun _ => Parser.pure .null

/-- Results of a parser run again and again until it fails, at most so many times. -/
def repeated (x : Parser α) : Nat → List α → Parser (List α)
  | 0, done => Parser.pure done.reverse
  | fuel + 1, done => fun i p =>
    let position := p.position
    match x i p with
    | .ok a p =>
      -- a parser that reads nothing would go on for ever
      if p.position = position then .ok (a :: done).reverse p else repeated x fuel (a :: done) i p
    | .fail p => .ok done.reverse { p with position := position }
    | .fault e l p => .fault e l p

/-- Results of a parser run until it fails. -/
def many (x : Parser α) : Parser (List α) := fun i p => repeated x (i.tokens.tokens.size + 1) [] i p

/-- Results of a parser run until it fails, at least one. -/
def many1 (x : Parser α) : Parser (List α) := do
  let a ← x
  let rest ← many x
  return a :: rest

/-- Results of a parser with a separator between each two, at least one. -/
def separated (x : Parser α) (separator : Parser β) : Parser (List α) := do
  let a ← x
  let rest ← many (do let _ ← separator; x)
  return a :: rest

/-- Repeats a step on a result until it fails, at most so many times. -/
def foldFrom (step : α → Parser α) : Nat → α → Parser α
  | 0, a => Parser.pure a
  | fuel + 1, a => fun i p =>
    let position := p.position
    match step a i p with
    | .ok a p => foldFrom step fuel a i p
    | .fail p => .ok a { p with position := position }
    | .fault e l p => .fault e l p

/-- Repeats a step on a result until it fails. -/
def grow (step : α → Parser α) (a : α) : Parser α := fun i p =>
  foldFrom step (i.tokens.tokens.size + 1) a i p

/-- Succeeds if a parser does, without reading. -/
def ahead (x : Parser α) : Parser Unit := fun i p =>
  let position := p.position
  match x i p with
  | .ok _ p => .ok () { p with position := position }
  | .fail p => .fail p
  | .fault e l p => .fault e l p

/-- Succeeds if a parser fails, without reading. -/
def notAhead (x : Parser α) : Parser Unit := fun i p =>
  let position := p.position
  match x i p with
  | .ok _ p => .fail p
  | .fail p => .ok () { p with position := position }
  | .fault e l p => .fault e l p

/-- Once `start` has succeeded there is no way back to `otherwise`. -/
def committed (start : Parser α) (rest : α → Parser β) (otherwise : Parser β) : Parser β :=
    fun i p =>
  let position := p.position
  match start i p with
  | .ok a p => rest a i p
  | .fail p => otherwise i { p with position := position }
  | .fault e l p => .fault e l p

/-- Takes part only while a text is searched for mistakes. -/
def diagnosis (x : Parser α) : Parser α := fun i p => if i.diagnosing then x i p else .fail p

/-- Runs a parser without descriptions of mistakes. -/
def withoutDiagnosis (x : Parser α) : Parser α := fun i p => x { i with diagnosing := false } p

/-- The token at the position, without reading it. -/
def peek : Parser Token := fun i p =>
  match i.tokens.tokens[p.position]? with
  | some t => .ok t { p with reach := max p.reach (p.position + 1) }
  | none =>
    match i.tokens.fault with
    | some f => .fault f.fault true p
    | none => .fail p

/-- Moves behind the token at the position. -/
def advance : Parser Unit := fun _ p => .ok () { p with position := p.position + 1 }

/-- Reads a token that satisfies a test. -/
def satisfy (test : Token → Bool) : Parser Token := do
  let t ← peek
  if test t then
    advance
    return t
  else fail

/-- Reads a token of a kind. -/
def ofKind (k : TokenKind) : Parser Token := satisfy fun t => t.kind = k

/-- Reads a certain word. -/
def word (w : Word) : Parser Token := satisfy fun t => t.word = w

/-- Reads one of several words. -/
def anyWord (ws : List Word) : Parser Token := satisfy fun t => ws.contains t.word

/-- Reads a name. -/
def name : Parser Token := ofKind .name

/-- A fault on a line. -/
def faultAt (line : Nat) (what : String) : Parser α := fun _ p =>
  .fault ⟨what, some line, .form⟩ false p

/-- A fault on the line of the last token looked at. -/
def faultHere (what : String) (kind : FaultKind := .form) : Parser α := fun i p =>
  let line := (i.tokens.tokens[p.reach - 1]?.map fun t => t.start.line).getD 1
  .fault ⟨what, some line, kind⟩ false p

/-- Reads a word that must stand here. -/
def required (w : Word) : Parser Token := do
  let t ← peek
  if t.word = w then
    advance
    return t
  else faultAt t.start.line ("expected '" ++ w.spelling ++ "'")

/-- The token before the position. -/
def previous : Parser Token := fun i p =>
  match i.tokens.tokens[p.position - 1]? with
  | some t => .ok t p
  | none => .fail p

/-- Where the token at the position begins. -/
def startPlace : Parser Place := do return (← peek).start

/-- The end of the last token before a position that is not layout. -/
def lastEnd (tokens : Array Token) : Nat → Place
  | 0 => ⟨1, 0⟩
  | n + 1 =>
    match tokens[n]? with
    | some t => if t.isLayout then lastEnd tokens n else t.stop
    | none => lastEnd tokens n

/-- The end of what has been read. -/
def stopPlace : Parser Place := fun i p => .ok (lastEnd i.tokens.tokens p.position) p

/-- Runs a rule, or recalls what it found at the position before.  What a rule with descriptions of
mistakes finds is remembered apart, unless the rule is marked `shared`. -/
def remembered (key : Nat) (shared : Bool) (x : Parser Value) : Parser Value := fun i p =>
  let position := p.position
  let slot := position * 512 + if shared || !i.diagnosing then 2 * key else 2 * key + 1
  match p.memo[slot]? with
  | some (some (v, behind)) => .ok v { p with position := behind }
  | some none => .fail p
  | none =>
    match x i p with
    | .ok v p => .ok v { p with memo := p.memo.insert slot (some (v, p.position)) }
    | .fail p => .fail { p with memo := p.memo.insert slot none }
    | .fault e l p => .fault e l p

end Parser

/-! ## Running a parser -/

/-- The fault that the rest of the tokens brings to light: a malformed token outweighs the fault
found, and so does a bracket that was opened on an earlier line and never closed. -/
def weighFault (tokens : Tokens) (reach : Nat) (f : Fault) : Fault :=
  match tokens.fault with
  | none => f
  | some l =>
    if l.decisive then
      if l.fault.kind = .undecodable then { l.fault with line := none } else l.fault
    else
      let line := (tokens.tokens[reach - 1]?.map fun t => t.start.line).getD 0
      match l.openLine with
      | some opened => if opened < line then ⟨"bracket was never closed", some opened, .form⟩ else f
      | none => f

/-- Reads all tokens by a parser; if that fails, reads them again for the most telling fault. -/
def parseTokens (x : Parser Value) (tokens : Tokens) : Except Fault Value :=
  let settle (f : Fault) (lexical : Bool) (p : Progress) : Fault :=
    if !lexical then weighFault tokens p.reach f
    else if f.kind = .undecodable then { f with kind := .form } else f
  match x ⟨tokens, false⟩ ⟨0, 0, ∅⟩ with
  | .ok v _ => .ok v
  | .fault f lexical p => .error (settle f lexical p)
  | .fail first =>
    let last := tokens.tokens[first.reach - 1]?
    let generic (p : Progress) : Fault :=
      match last with
      | none => ⟨"invalid syntax", some 1, .form⟩
      | some t =>
        let furthest := (tokens.tokens[p.reach - 1]?.map fun t => t.start.line).getD t.start.line
        match t.kind with
        | .indent => ⟨"unexpected indent", some furthest, .indentation⟩
        | .dedent => ⟨"unexpected unindent", some furthest, .indentation⟩
        | _ => weighFault tokens p.reach ⟨"invalid syntax", some t.start.line, .form⟩
    match x ⟨tokens, true⟩ ⟨0, first.reach, ∅⟩ with
    | .fault f lexical p => .error (settle f lexical p)
    | .fail p => .error (generic p)
    | .ok _ p => .error (generic p)

end SourceDocs.Source
