import SourceDocs.Json.Scalar

/-!
# Reading JSON

`read` reads a whole JSON text whose lists and objects nest no deeper than a limit, and `read?` one
that nests at any depth.  A repeated key keeps its first place and takes the last value.  The words
`NaN`, `Infinity` and `-Infinity` are accepted as numbers, and an escape may denote a surrogate
without a partner.
-/

namespace SourceDocs.Json

/-- Why a text is not read. -/
inductive ReadFault where
  /-- It is no JSON. -/
  | malformed
  /-- Lists and objects nest deeper than the limit, where the reader comes before anything else that
  is wrong. -/
  | tooDeep
deriving DecidableEq, Repr

/-- Drops blanks, tabs and line ends. -/
def skipBlank : List Char → List Char :=
  List.dropWhile fun c => c = ' ' || c = '\t' || c = '\n' || c = '\r'

/-- The text behind a word, if it begins with it. -/
def afterWord (word : String) (cs : List Char) : Option (List Char) :=
  if word.toList.isPrefixOf cs then some (cs.drop word.length) else none

/-- Four hexadecimal digits. -/
def readHex4 (cs : List Char) : Option (Nat × List Char) :=
  let digits := cs.take 4
  if digits.length = 4 then (Text.numeral? 16 digits).map fun n => (n, cs.drop 4) else none

/-- The code point of `\u` and four digits, joined with a second such escape if the two are a pair
of surrogates. -/
def readEscaped (cs : List Char) : Option (CodePoint × List Char) := do
  let (n, rest) ← readHex4 cs
  let alone := (CodePoint.ofNat n, rest)
  if 0xD800 ≤ n ∧ n < 0xDC00 then
    match rest with
    | '\\' :: 'u' :: more =>
      match readHex4 more with
      | some (m, after) =>
        if 0xDC00 ≤ m ∧ m < 0xE000 then
          return (CodePoint.ofNat (0x10000 + (n - 0xD800) * 0x400 + (m - 0xDC00)), after)
        else return alone
      | none => return alone
    | _ => return alone
  else return alone

/-- The rest of a string, up to and with the closing quote. -/
def readString : Nat → List Char → Option (Text × List Char)
  | 0, _ => none
  | _, [] => none
  | fuel + 1, c :: rest =>
    let behind (c : Char) (cs : List Char) : Option (Text × List Char) :=
      (readString fuel cs).map fun (t, after) => (CodePoint.ofChar c :: t, after)
    if c = '"' then some ([], rest)
    else if c = '\\' then
      match rest with
      | '"' :: r => behind '"' r
      | '\\' :: r => behind '\\' r
      | '/' :: r => behind '/' r
      | 'b' :: r => behind '\x08' r
      | 'f' :: r => behind '\x0c' r
      | 'n' :: r => behind '\n' r
      | 'r' :: r => behind '\r' r
      | 't' :: r => behind '\t' r
      | 'u' :: r => do
        let (point, after) ← readEscaped r
        let (t, final) ← readString fuel after
        return (point :: t, final)
      | _ => none
    else if c.toNat < 0x20 then none
    else behind c rest

/-- Whether a minus sign comes first, and what follows it. -/
def takeSign (cs : List Char) : Bool × List Char :=
  match cs with
  | '-' :: r => (true, r)
  | r => (false, r)

/-- The digits at the start; a zero stands alone. -/
def takeWhole (cs : List Char) : List Char :=
  match cs with
  | '0' :: _ => ['0']
  | r => r.takeWhile Char.isDigit

/-- The digits of a fraction, and what follows it. -/
def takeFraction (cs : List Char) : List Char × List Char :=
  match cs with
  | '.' :: r =>
    let digits := r.takeWhile Char.isDigit
    if digits.isEmpty then ([], cs) else (digits, r.drop digits.length)
  | r => ([], r)

/-- An exponent, if one comes first, and what follows it. -/
def takeExponent? (cs : List Char) : Option (Int × List Char) :=
  match cs with
  | e :: r =>
    if e = 'e' ∨ e = 'E' then
      let (sign, r) : Int × List Char := match r with
        | '-' :: r => (-1, r)
        | '+' :: r => (1, r)
        | r => (1, r)
      let digits := r.takeWhile Char.isDigit
      if digits.isEmpty then none
      else (Text.numeral? 10 digits).map fun n => (sign * n, r.drop digits.length)
    else none
  | [] => none

/-- A number: an integer, or a float if a fraction or an exponent follows it. -/
def readNumber (cs : List Char) : Option (Value × List Char) :=
  let (negative, body) := takeSign cs
  let whole := takeWhole body
  if whole.isEmpty then none
  else
    let (fraction, rest) := takeFraction (body.drop whole.length)
    match Text.numeral? 10 (whole ++ fraction), takeExponent? rest with
    | some n, some (e, after) =>
      some (.float (.ofDecimal negative n (e - fraction.length)), after)
    | some n, none =>
      if !fraction.isEmpty then
        some (.float (.ofDecimal negative n (-(fraction.length : Int))), rest)
      else if digitLimit < whole.length then none
      else some (.int (if negative then -(n : Int) else n), rest)
    | none, _ => none

/-- What is read without going deeper. -/
def orMalformed {α : Type} : Option α → Except ReadFault α
  | some a => .ok a
  | none => .error .malformed

mutual

/-- A value and what follows it, where `room` lists and objects may still be opened one in
another. -/
def readValue : Nat → Nat → List Char → Except ReadFault (Value × List Char)
  | 0, _, _ => .error .malformed
  | fuel + 1, room, cs =>
    match cs with
    | '"' :: r => orMalformed ((readString fuel r).map fun (t, after) => (.text t, after))
    | '\x7b' :: r =>
      match room with
      | 0 => .error .tooDeep
      | room + 1 =>
        match skipBlank r with
        | '\x7d' :: after => .ok (.mapping [], after)
        | r => readMembers fuel room [] r
    | '[' :: r =>
      match room with
      | 0 => .error .tooDeep
      | room + 1 =>
        match skipBlank r with
        | ']' :: after => .ok (.list [], after)
        | r => readItems fuel room [] r
    | cs =>
      let word (w : String) (v : Value) : Option (Value × List Char) :=
        (afterWord w cs).map fun after => (v, after)
      orMalformed (word "null" .null <|> word "true" (.bool true) <|> word "false" (.bool false)
        <|> word "NaN" (.float .nan) <|> word "Infinity" (.float (.infinite false))
        <|> word "-Infinity" (.float (.infinite true)) <|> readNumber cs)

/-- The items of a list up to its closing bracket; those read before are given last first. -/
def readItems : Nat → Nat → List Value → List Char → Except ReadFault (Value × List Char)
  | 0, _, _, _ => .error .malformed
  | fuel + 1, room, done, cs => do
    let (v, rest) ← readValue fuel room cs
    match skipBlank rest with
    | ',' :: r => readItems fuel room (v :: done) (skipBlank r)
    | ']' :: after => return (.list (v :: done).reverse, after)
    | _ => throw .malformed

/-- The entries of an object up to its closing brace. -/
def readMembers :
    Nat → Nat → List (Value × Value) → List Char → Except ReadFault (Value × List Char)
  | 0, _, _, _ => .error .malformed
  | fuel + 1, room, done, cs =>
    match cs with
    | '"' :: r => do
      let (key, rest) ← orMalformed (readString fuel r)
      match skipBlank rest with
      | ':' :: r =>
        let (v, rest) ← readValue fuel room (skipBlank r)
        match skipBlank rest with
        | ',' :: r => readMembers fuel room ((.text key, v) :: done) (skipBlank r)
        | '\x7d' :: after =>
          return (.mapping (Value.ofEntries ((.text key, v) :: done).reverse), after)
        | _ => throw .malformed
      | _ => throw .malformed
    | _ => throw .malformed

end

/-- Enough steps to read a text. -/
def fuelFor (s : List Char) : Nat := 2 * s.length + 2

/-- Reads a JSON text that holds one value and nothing else, where lists and objects may nest so
deep. -/
def read (room : Nat) (s : List Char) : Except ReadFault Value := do
  let (v, rest) ← readValue (fuelFor s) room (skipBlank s)
  if (skipBlank rest).isEmpty then return v else throw .malformed

/-- Reads a JSON text that holds one value and nothing else.  No text nests deeper than it is
long. -/
def read? (s : List Char) : Option Value := (read (fuelFor s) s).toOption

end SourceDocs.Json
