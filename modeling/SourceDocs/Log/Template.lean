import SourceDocs.Failure.Misuse
import SourceDocs.Number.Decimal
import SourceDocs.Value.Written

/-!
# Templates

A template is a text with places for values.  A place begins with a percent sign and ends with a
letter that says how the value is written; a key in brackets, flags, a width and a precision may
stand in between.  `Template.fill` fills the places from left to right, so that the first thing that
is wrong decides.
-/

namespace SourceDocs.Template

/-- What a template takes its values from. -/
structure Arguments where
  /-- The entries that places with a key look up. -/
  entries : Option (List (Value × Value)) := none
  /-- The values that are still to be used, in order. -/
  rest : List Value

namespace Arguments

/-- The values of a sequence. -/
def ofList (values : List Value) : Arguments := { rest := values }

/-- The values of a mapping; a place without a key takes the mapping itself. -/
def ofEntries (entries : List (Value × Value)) : Arguments :=
  { entries := some entries, rest := [.mapping entries] }

/-- Takes the next value. -/
def next (args : Arguments) : Except MisuseFault (Value × Arguments) :=
  match args.rest with
  | [] => .error .wrongType
  | v :: rest => .ok (v, { args with rest := rest })

/-- Makes the value of a key the next one, and the only one. -/
def select (args : Arguments) (key : Text) : Except MisuseFault Arguments :=
  match args.entries with
  | none => .error .wrongType
  | some es =>
    match Value.lookup es (.text key) with
    | none => .error .missingKey
    | some v => .ok { args with rest := [v] }

end Arguments

/-- How the value of a place is written. -/
structure Place where
  leftAligned : Bool := false
  /-- Positive numbers have a plus sign. -/
  signed : Bool := false
  /-- Positive numbers have a blank in place of a sign. -/
  blank : Bool := false
  /-- Numbers show their base, or keep their point. -/
  alternate : Bool := false
  zeroPadded : Bool := false
  width : Nat := 0
  precision : Option Nat := none

/-! ## Reading places -/

/-- A key up to its closing bracket, with brackets inside it in pairs, and the rest. -/
def readKey : Nat → Text → Option (Text × Text)
  | _, [] => none
  | depth, c :: rest =>
    if c.toChar = ')' && depth = 0 then some ([], rest)
    else
      let depth := if c.toChar = '(' then depth + 1 else if c.toChar = ')' then depth - 1 else depth
      (readKey depth rest).map fun (key, rest) => (c :: key, rest)

/-- Whether a code point is an ASCII digit. -/
def isDigit (c : CodePoint) : Bool := c.toChar.isDigit

/-- The number in front of a text, and the rest; a number must not exceed a bound. -/
def readNumber (bound : Nat) (t : Text) : Except MisuseFault (Nat × Text) :=
  let digits := t.takeWhile isDigit
  let n := (Text.numeral? 10 (digits.map CodePoint.toChar)).getD 0
  if bound < n then .error .badValue else .ok (n, t.drop digits.length)

/-- The integer that stands for a width or a precision; its size must not exceed a bound. -/
def sizeOf (bound : Nat) (v : Value) : Except MisuseFault Int :=
  let checked (n : Int) : Except MisuseFault Int :=
    if n < -(bound : Int) - 1 ∨ (bound : Int) < n then .error .overflow else .ok n
  match v with
  | .bool b => checked (if b then 1 else 0)
  | .int n => checked n
  | _ => .error .wrongType

/-- The greatest width. -/
def maxWidth : Nat := 0x7FFFFFFFFFFFFFFF

/-- The greatest precision. -/
def maxPrecision : Nat := 0x7FFFFFFF

/-- Reads the flags of a place. -/
def readFlags (t : Text) : Place × Text :=
  let flags := t.takeWhile fun c => "-+ #0".toList.contains c.toChar
  let has (c : Char) : Bool := flags.contains (CodePoint.ofChar c)
  ({ leftAligned := has '-', signed := has '+', blank := has ' ', alternate := has '#',
     zeroPadded := has '0' }, t.drop flags.length)

/-- Reads the width of a place; a star takes it from the values, and a negative one asks for
alignment to the left. -/
def readWidth (p : Place) (t : Text) (args : Arguments) :
    Except MisuseFault (Place × Text × Arguments) := do
  match t with
  | [] => return (p, t, args)
  | c :: rest =>
    if c.toChar = '*' then
      let (v, args) ← args.next
      let n ← sizeOf maxWidth v
      return ({ p with width := n.natAbs, leftAligned := p.leftAligned || n < 0 }, rest, args)
    else
      let (n, rest) ← readNumber maxWidth t
      return ({ p with width := n }, rest, args)

/-- Reads the precision of a place behind its point; a star takes it from the values, and a negative
one counts as zero. -/
def readPrecision (p : Place) (t : Text) (args : Arguments) :
    Except MisuseFault (Place × Text × Arguments) := do
  match t with
  | [] => return (p, t, args)
  | c :: rest =>
    if c.toChar ≠ '.' then return (p, t, args)
    else
      match rest with
      | [] => return ({ p with precision := some 0 }, rest, args)
      | d :: behind =>
        if d.toChar = '*' then
          let (v, args) ← args.next
          let n ← sizeOf maxPrecision v
          return ({ p with precision := some n.toNat }, behind, args)
        else
          let (n, rest) ← readNumber maxPrecision rest
          return ({ p with precision := some n }, rest, args)

/-- Skips a letter that once told the size of a number. -/
def skipSize : Text → Text
  | c :: rest => if "hlL".toList.contains c.toChar then rest else c :: rest
  | [] => []

/-! ## Writing values -/

/-- A text between a sign or a mark of the base and the padding. -/
structure Piece where
  sign : Text := []
  base : Text := []
  body : Text
  isNumber : Bool := false

/-- A piece padded to the width of a place. -/
def Piece.padded (p : Place) (x : Piece) : Text :=
  let length := x.sign.length + x.base.length + x.body.length
  let fill (c : Char) : Text := List.replicate (p.width - length) (CodePoint.ofChar c)
  let lead := x.sign ++ x.base
  if p.leftAligned then lead ++ x.body ++ fill ' '
  else if p.zeroPadded && x.isNumber then lead ++ fill '0' ++ x.body
  else fill ' ' ++ lead ++ x.body

/-- The sign of a number at a place. -/
def signAt (p : Place) (negative : Bool) : Text :=
  if negative then Text.ofChar '-'
  else if p.signed then Text.ofChar '+'
  else if p.blank then Text.ofChar ' '
  else []

/-- A text in capital letters, where it has ASCII letters. -/
def capital (upper : Bool) (t : List Char) : Text :=
  (if upper then t.map Char.toUpper else t).map CodePoint.ofChar

/-- An integer in a base, whose mark is shown if the place asks for it; the precision is the least
number of digits. -/
def integerPiece (p : Place) (base : Nat) (mark : String) (upper : Bool) (n : Int) : Piece :=
  let digits := Nat.toDigits base n.natAbs
  let zeros := List.replicate (p.precision.getD 0 - digits.length) '0'
  { sign := signAt p (n < 0)
    base := if p.alternate then capital upper mark.toList else []
    body := capital upper (zeros ++ digits)
    isNumber := true }

/-- A float in a form, by default with six digits. -/
def floatPiece (p : Place) (form : Binary64.DecimalForm) (upper : Bool) (x : Binary64) : Piece :=
  let written := x.decimal form p.alternate (p.precision.getD 6)
  let digits := if x.isNegative then written.drop 1 else written
  { sign := signAt p x.isNegative, body := capital upper digits, isNumber := true }

/-- The integer that a number is when its fraction is cut off. -/
def wholeOf : Value → Except MisuseFault Int
  | .bool b => .ok (if b then 1 else 0)
  | .int n => .ok n
  | .float .nan => .error .badValue
  | .float x =>
    match x.truncated? with
    | some n => .ok n
    | none => .error .overflow
  | _ => .error .wrongType

/-- The integer that a value is. -/
def integerOf : Value → Except MisuseFault Int
  | .bool b => .ok (if b then 1 else 0)
  | .int n => .ok n
  | _ => .error .wrongType

/-- The float next to a number. -/
def floatOf (v : Value) : Except MisuseFault Binary64 :=
  match v with
  | .float x => .ok x
  | v => do
    match Binary64.ofInt (← integerOf v) with
    | .infinite _ => throw .overflow
    | x => return x

/-- The character that a value stands for: a text of one, or its number. -/
def characterOf (v : Value) : Except MisuseFault CodePoint :=
  match v with
  | .text [c] => .ok c
  | v => do
    let n ← integerOf v
    match if n < 0 then none else CodePoint.ofNat? n.toNat with
    | some c => return c
    | none => throw .overflow

/-- A text cut to the precision of a place. -/
def textPiece (p : Place) (t : Text) : Piece :=
  { body := match p.precision with
      | some n => t.take n
      | none => t }

/-- A value as a letter asks for it. -/
def convert (p : Place) (letter : Char) (v : Value) : Except MisuseFault Piece := do
  match letter with
  | 's' => return textPiece p v.display
  | 'r' => return textPiece p v.written
  | 'a' => return textPiece p (Quoted.inAscii v.written)
  | 'd' | 'i' | 'u' => return integerPiece p 10 "" false (← wholeOf v)
  | 'o' => return integerPiece p 8 "0o" false (← integerOf v)
  | 'x' => return integerPiece p 16 "0x" false (← integerOf v)
  | 'X' => return integerPiece p 16 "0x" true (← integerOf v)
  | 'e' => return floatPiece p .scientific false (← floatOf v)
  | 'E' => return floatPiece p .scientific true (← floatOf v)
  | 'f' => return floatPiece p .fixed false (← floatOf v)
  | 'F' => return floatPiece p .fixed true (← floatOf v)
  | 'g' => return floatPiece p .general false (← floatOf v)
  | 'G' => return floatPiece p .general true (← floatOf v)
  | 'c' => return { body := [← characterOf v] }
  | _ => throw .badValue

/-- Reads a place and writes its value. -/
def fillPlace (t : Text) (args : Arguments) : Except MisuseFault (Text × Text × Arguments) := do
  let (t, args) ← match t with
    | c :: rest =>
      if c.toChar ≠ '(' then pure (t, args)
      else if args.entries.isNone then throw .wrongType
      else
        match readKey 0 rest with
        | none => throw .badValue
        | some (key, rest) => pure (rest, ← args.select key)
    | [] => pure (t, args)
  let (p, t) := readFlags t
  let (p, t, args) ← readWidth p t args
  let (p, t, args) ← readPrecision p t args
  match skipSize t with
  | [] => throw .badValue
  | letter :: rest =>
    let (v, args) ← args.next
    return ((← convert p letter.toChar v).padded p, rest, args)

/-- Fills a template; `fuel` bounds the number of its parts. -/
def fillFrom : Nat → Text → Arguments → Except MisuseFault (Text × Arguments)
  | 0, _, args | _, [], args => return ([], args)
  | fuel + 1, c :: rest, args => do
    if c.toChar ≠ '%' then
      let (filled, args) ← fillFrom fuel rest args
      return (c :: filled, args)
    else if rest.head? = some c then
      let (filled, args) ← fillFrom fuel (rest.drop 1) args
      return (c :: filled, args)
    else
      let (written, rest, args) ← fillPlace rest args
      let (filled, args) ← fillFrom fuel rest args
      return (written ++ filled, args)

/-- Fills a template.  All values of a sequence must be used. -/
def fill (template : Text) (args : Arguments) : Except MisuseFault Text := do
  let (filled, args) ← fillFrom template.length template args
  if args.entries.isNone && !args.rest.isEmpty then throw .wrongType else return filled

end SourceDocs.Template
