import SourceDocs.Number.Arithmetic
import SourceDocs.Text.Alphanumeric
import SourceDocs.Text.Lines
import SourceDocs.Value.Basic
import SourceDocs.Yaml.Node

/-!
# Values of configuration texts

`load` reads a YAML text into a value.  The tag of a node decides what it stands for: null, a
boolean, a number in one of several notations, a moment in time, bytes, a text, or a collection.
Collections are filled level by level, so a fault on an outer level outweighs one further inside.
-/

namespace SourceDocs.Yaml

/-! ## Scalars -/

/-- A character of a number in ASCII: digits of any script count as such. -/
def plainChar (p : CodePoint) : Char :=
  if p.val < 0x80 then p.toChar
  else match p.decimalValue? with
    | some d => Char.ofNat ('0'.toNat + d)
    | none => '?'

/-- A number in ASCII without the blanks around it. -/
def trimmed (cs : List Char) : List Char :=
  (Lines.trimNumber (cs.map CodePoint.ofChar)).map plainChar

/-- The letters that may stand before the digits of a base. -/
def baseMark (base : Nat) : List (List Char) :=
  match base with
  | 2 => [['0', 'b'], ['0', 'B']]
  | 8 => [['0', 'o'], ['0', 'O']]
  | 16 => [['0', 'x'], ['0', 'X']]
  | _ => []

/-- An integer in a base, with an optional sign. -/
def integer? (base : Nat) (cs : List Char) : Option Int :=
  let cs := trimmed cs
  let (negative, digits) := match cs with
    | '-' :: r => (true, r)
    | '+' :: r => (false, r)
    | r => (false, r)
  let digits := if (baseMark base).contains (digits.take 2) then digits.drop 2 else digits
  if digits.isEmpty || (base = 10 && Lexer.maxDigits < digits.length) then none
  else (Text.numeral? base digits).map fun n => if negative then -(n : Int) else n

/-- A value that must be there. -/
def orBad {α : Type} (x : Option α) : Except Fault α :=
  match x with
  | some a => .ok a
  | none => .error (.misuse .badValue)

/-- A text without underscores, and its sign. -/
def signed (cs : List Char) : Except Fault (Bool × List Char) :=
  match cs.filter (· ≠ '_') with
  | [] => .error (.misuse .badPosition)
  | '-' :: r => .ok (true, r)
  | '+' :: r => .ok (false, r)
  | r => .ok (false, r)

/-- The parts of a text between colons. -/
def sixtieths (cs : List Char) : List (List Char) :=
  cs.foldr (fun c parts =>
    if c = ':' then [] :: parts
    else match parts with
      | [] => [[c]]
      | p :: rest => (c :: p) :: rest) [[]]

/-- An integer: binary, octal, hexadecimal, in base sixty, or decimal. -/
def intValue (cs : List Char) : Except Fault Value := do
  let (negative, body) ← signed cs
  let withSign (n : Int) : Value := .int (if negative then -n else n)
  match body with
  | [] => throw (.misuse .badPosition)
  | ['0'] => return .int 0
  | '0' :: 'b' :: digits => return withSign (← orBad (integer? 2 digits))
  | '0' :: 'x' :: digits => return withSign (← orBad (integer? 16 digits))
  | '0' :: _ => return withSign (← orBad (integer? 8 body))
  | _ =>
    if body.contains ':' then
      let parts ← orBad ((sixtieths body).mapM (integer? 10))
      return withSign (parts.foldl (fun acc d => acc * 60 + d) 0)
    else return withSign (← orBad (integer? 10 body))

/-- A float: a decimal, one in base sixty, or a word for what has no digits. -/
def floatValue (cs : List Char) : Except Fault Value := do
  let (negative, body) ← signed (cs.map Char.toLower)
  let withSign (x : Binary64) : Value := .float (if negative then x.neg else x)
  let read (cs : List Char) : Option Binary64 := Binary64.read? (trimmed cs)
  match String.ofList body with
  | ".inf" => return withSign (.infinite false)
  | ".nan" => return .float .nan
  | _ =>
    if body.contains ':' then
      let parts ← orBad ((sixtieths body).mapM read)
      let step (acc : Binary64 × Nat) (digit : Binary64) : Binary64 × Nat :=
        (acc.1.add (digit.mul (.ofInt acc.2)), acc.2 * 60)
      return withSign (parts.reverse.foldl step (.zero false, 1)).1
    else return withSign (← orBad (read body))

/-- The words for booleans. -/
def boolValue (cs : List Char) : Except Fault Value :=
  match String.ofList (cs.map Char.toLower) with
  | "yes" | "true" | "on" => .ok (.bool true)
  | "no" | "false" | "off" => .ok (.bool false)
  | _ => .error (.misuse .missingKey)

/-- The six bits that a character of base 64 stands for. -/
def sixBits? (c : Char) : Option Nat :=
  if c.isUpper then some (c.toNat - 'A'.toNat)
  else if c.isLower then some (c.toNat - 'a'.toNat + 26)
  else if c.isDigit then some (c.toNat - '0'.toNat + 52)
  else if c = '+' then some 62
  else if c = '/' then some 63
  else none

/-- Bytes written in base 64.  `held` are the characters of the current group of four, last first,
and `pads` the equal signs behind them; other characters are skipped. -/
def base64 (held : List Nat) (pads : Nat) : List Char → Option (List UInt8)
  | [] => if held.isEmpty then some [] else none
  | c :: rest =>
    if c = '=' then
      if 2 ≤ held.length && 4 ≤ held.length + (pads + 1) then some []
      else base64 held (if 2 ≤ held.length then pads + 1 else pads) rest
    else
      match sixBits? c, held with
      | none, _ => base64 held pads rest
      | some n, [] => base64 [n] 0 rest
      | some n, [a] => (base64 [n, a] 0 rest).map (UInt8.ofNat (a * 4 + n / 16) :: ·)
      | some n, [b, a] =>
        (base64 [n, b, a] 0 rest).map (UInt8.ofNat (b % 16 * 16 + n / 4) :: ·)
      | some n, b :: _ => (base64 [] 0 rest).map (UInt8.ofNat (b % 4 * 64 + n) :: ·)

/-- Bytes. -/
def binaryValue (cs : List Char) : Except Fault Value :=
  if cs.all fun c => c.toNat < 128 then
    match base64 [] 0 cs with
    | some data => .ok (.bytes data false)
    | none => .error .malformed
  else .error .malformed

/-! ## Moments in time -/

/-- The number of days of a month. -/
def daysIn (year month : Nat) : Nat :=
  if month = 2 then
    if year % 4 = 0 && (year % 100 ≠ 0 || year % 400 = 0) then 29 else 28
  else if [4, 6, 9, 11].contains month then 30
  else 31

/-- A number with leading zeros. -/
def padded (width n : Nat) : String :=
  let digits := Nat.repr n
  String.ofList (List.replicate (width - digits.length) '0') ++ digits

/-- Between `low` and `high` digits as a number, and what follows them. -/
def digitsOf? (low high : Nat) (cs : List Char) : Option (Nat × List Char) :=
  let digits := (cs.take high).takeWhile Char.isDigit
  if digits.length < low then none
  else (Text.numeral? 10 digits).map fun n => (n, cs.drop digits.length)

/-- The text behind a character. -/
def behind? (c : Char) (cs : List Char) : Option (List Char) :=
  match cs with
  | d :: rest => if c = d then some rest else none
  | [] => none

/-- The offset of a time zone in minutes; `none` inside if the text does not name one. -/
def zone? (cs : List Char) : Option (Option Int) := do
  match cs.dropWhile fun c => c = ' ' || c = '\t' with
  | [] => if cs.isEmpty then return none else failure
  | ['Z'] => return some 0
  | sign :: rest =>
    if sign = '+' || sign = '-' then
      let (hours, rest) ← digitsOf? 1 2 rest
      let minutes ← match rest with
        | [] => some 0
        | ':' :: rest => do
          let (m, rest) ← digitsOf? 2 2 rest
          if rest.isEmpty then some m else none
        | _ => none
      let offset : Int := (hours * 60 + minutes : Nat)
      return some (if sign = '-' then -offset else offset)
    else failure

/-- The offset of a time zone as it is written. -/
def zoneText (offset : Int) : String :=
  (if offset < 0 then "-" else "+") ++ padded 2 (offset.natAbs / 60) ++ ":"
    ++ padded 2 (offset.natAbs % 60)

/-- The parts of a moment in time. -/
structure Moment where
  year : Nat
  month : Nat
  day : Nat
  /-- Hour, minute, second, microsecond and offset of the time zone. -/
  time : Option (Nat × Nat × Nat × Nat × Option Int)

/-- Reads a moment in time. -/
def moment? (cs : List Char) : Option Moment := do
  let (year, cs) ← digitsOf? 4 4 cs
  let (month, cs) ← digitsOf? 1 2 (← behind? '-' cs)
  let (day, cs) ← digitsOf? 1 2 (← behind? '-' cs)
  match cs with
  | [] => return ⟨year, month, day, none⟩
  | c :: rest =>
    let cs ← if c = 'T' || c = 't' then some rest
      else if c = ' ' || c = '\t' then some (rest.dropWhile fun c => c = ' ' || c = '\t')
      else none
    let (hour, cs) ← digitsOf? 1 2 cs
    let (minute, cs) ← digitsOf? 2 2 (← behind? ':' cs)
    let (second, cs) ← digitsOf? 2 2 (← behind? ':' cs)
    let (fraction, cs) := match cs with
      | '.' :: r => (r.takeWhile Char.isDigit, r.dropWhile Char.isDigit)
      | r => ([], r)
    let micro := (Text.numeral? 10 ((fraction ++ List.replicate 6 '0').take 6)).getD 0
    return ⟨year, month, day, some (hour, minute, second, micro, ← zone? cs)⟩

/-- The number of days from the beginning of the calendar to a date. -/
def dayNumber (year month day : Nat) : Nat :=
  let past := year - 1
  let months := (List.range (month - 1)).foldl (fun n m => n + daysIn year (m + 1)) 0
  past * 365 + past / 4 - past / 100 + past / 400 + months + day

/-- A moment in time, which must exist. -/
def momentValue (cs : List Char) : Except Fault Value := do
  let cs := if cs.getLast? = some '\n' then cs.dropLast else cs
  match moment? cs with
  | none => throw (.misuse .missingAttribute)
  | some m =>
    let dateExists := 1 ≤ m.year && 1 ≤ m.month && m.month ≤ 12 && 1 ≤ m.day
      && m.day ≤ daysIn m.year m.month
    let date := padded 4 m.year ++ "-" ++ padded 2 m.month ++ "-" ++ padded 2 m.day
    match m.time with
    | none => if dateExists then return .moment date false none else throw (.misuse .badValue)
    | some (hour, minute, second, micro, zone) =>
      let timeExists := hour < 24 && minute < 60 && second < 60
        && (zone.all fun offset => offset.natAbs < 24 * 60)
      if dateExists && timeExists then
        let time := padded 2 hour ++ ":" ++ padded 2 minute ++ ":" ++ padded 2 second
        let fraction := if micro = 0 then "" else "." ++ padded 6 micro
        let minutes : Int := (dayNumber m.year m.month m.day * 24 + hour) * 60 + minute
        let instant := zone.map fun offset =>
          (minutes - offset) * 60000000 + second * 1000000 + micro
        return .moment (date ++ "T" ++ time ++ fraction ++ (zone.map zoneText).getD "") true instant
      else throw (.misuse .badValue)

/-! ## Nodes -/

/-- Whether a node has a tag of the format itself. -/
def hasCoreTag (n : Node) (name : String) : Bool :=
  match n with
  | .scalar tag _ | .sequence tag _ | .mapping tag _ => tag = coreTag name
  | .enclosing => false

/-- The text of a scalar; a mapping may hold it under the key `=`. -/
def scalarText : Nat → Node → Except Fault Text
  | 0, _ => .error .malformed
  | _, .scalar _ value => .ok value
  | fuel + 1, .mapping _ entries =>
    match entries.find? fun e => hasCoreTag e.1 "value" with
    | some (_, v) => scalarText fuel v
    | none => .error .malformed
  | _, _ => .error .malformed

/-- The entries of a mapping with those of the mappings merged into it before its own, the nearest
last. -/
def mergedEntries : Nat → List (Node × Node) → Except Fault (List (Node × Node))
  | 0, _ => .error .malformed
  | fuel + 1, entries => do
    let ofMapping (n : Node) : Except Fault (List (Node × Node)) :=
      match n with
      | .mapping _ inner => mergedEntries fuel inner
      | .enclosing => .ok []
      | _ => .error .malformed
    let merged ← (entries.filter fun e => hasCoreTag e.1 "merge").mapM fun e =>
      match e.2 with
      | .sequence _ items => do return (← items.mapM ofMapping).reverse.flatten
      | n => ofMapping n
    let own := (entries.filter fun e => !hasCoreTag e.1 "merge").map fun e =>
      match e.1 with
      | .scalar tag value =>
        if tag = coreTag "value" then (.scalar (coreTag "str") value, e.2) else e
      | _ => e
    return merged.flatten ++ own

/-- The characters of a text. -/
def charsOf (t : Text) : List Char := t.map CodePoint.toChar

/-- The value of a scalar, by its tag; `none` for the tag of a collection. -/
def scalarValue? (tag : Text) : Option (List Char → Except Fault Value) :=
  if tag = coreTag "null" then some fun _ => .ok .null
  else if tag = coreTag "bool" then some boolValue
  else if tag = coreTag "int" then some intValue
  else if tag = coreTag "float" then some floatValue
  else if tag = coreTag "binary" then some binaryValue
  else if tag = coreTag "timestamp" then some momentValue
  else none

/-- Whether a tag is that of a sequence of pairs. -/
def isPairsTag (tag : Text) : Bool := tag = coreTag "omap" || tag = coreTag "pairs"

/-- Whether a tag is that of a collection. -/
def isCollectionTag (tag : Text) : Bool :=
  isPairsTag tag || tag = coreTag "set" || tag = coreTag "seq" || tag = coreTag "map"

/-- Begins a node: a scalar is read, and a collection is left to be filled later. -/
def begin (fuel : Nat) (n : Node) : Except Fault (List Node) :=
  match n with
  | .enclosing => .ok []
  | .scalar tag _ | .sequence tag _ | .mapping tag _ =>
    match scalarValue? tag with
    | some f => do
      let _ ← f (charsOf (← scalarText fuel n))
      return []
    | none =>
      if tag = coreTag "str" then do
        let _ ← scalarText fuel n
        return []
      else if isCollectionTag tag then return [n]
      else throw .malformed

/-- Begins the nodes of a collection; those to be filled later are returned. -/
def fill (fuel : Nat) (n : Node) : Except Fault (List Node) :=
  match n with
  | .sequence tag items =>
    if isPairsTag tag then do
      let later ← items.mapM fun item =>
        match item with
        | .mapping _ [(k, v)] => do return (← begin fuel k) ++ (← begin fuel v)
        | _ => throw .malformed
      return later.flatten
    else if tag = coreTag "seq" then do return (← items.mapM (begin fuel)).flatten
    else throw .malformed
  | .mapping tag entries =>
    if tag = coreTag "map" || tag = coreTag "set" then do
      let later ← (← mergedEntries fuel entries).mapM fun e => do
        let isCollection : Bool := match e.1 with
          | .enclosing => true
          | _ => false
        -- a collection is no key
        if isCollection || !(← begin fuel e.1).isEmpty then throw .malformed
        else begin fuel e.2
      return later.flatten
    else throw .malformed
  | _ => throw .malformed

/-- Fills collections level by level. -/
def fillLevels (fuel : Nat) : Nat → List Node → Except Fault Unit
  | 0, _ => return
  | levels + 1, nodes => do
    let later ← nodes.mapM (fill fuel)
    fillLevels fuel levels later.flatten

/-- The value of a node. -/
def construct : Nat → Node → Except Fault Value
  | 0, _ => .error .malformed
  | fuel + 1, n => do
    let entriesOf : Except Fault (List (Value × Value)) :=
      match n with
      | .mapping _ entries => do
        let entries ← mergedEntries (fuel + 1) entries
        let built ← entries.mapM fun e => do
          let key ← construct fuel e.1
          if key.isUnhashable then throw .malformed
          else return (key, ← construct fuel e.2)
        return Value.ofEntries built
      | _ => .error .malformed
    let pairs : Except Fault Value :=
      match n with
      | .sequence _ items => do
        let built ← items.mapM fun item =>
          match item with
          | .mapping _ [(k, v)] => do return .tuple [← construct fuel k, ← construct fuel v]
          | _ => throw .malformed
        return .list built
      | _ => .error .malformed
    match n with
    | .enclosing => return .list []
    | .scalar tag _ | .sequence tag _ | .mapping tag _ =>
      if let some f := scalarValue? tag then do
        f (charsOf (← scalarText (fuel + 1) n))
      else if isPairsTag tag then pairs
      else if tag = coreTag "set" then do
        return .set ((← entriesOf).map Prod.fst) false
      else if tag = coreTag "str" then do return .text (← scalarText (fuel + 1) n)
      else if tag = coreTag "seq" then
        match n with
        | .sequence _ items => do return .list (← items.mapM (construct fuel))
        | _ => throw .malformed
      else if tag = coreTag "map" then do return .mapping (← entriesOf)
      else throw .malformed

mutual

/-- The depth of a node. -/
def depth : Node → Nat
  | .scalar _ _ => 1
  | .enclosing => 1
  | .sequence _ items => depthAll items + 1
  | .mapping _ entries => depthEntries entries + 1

/-- The greatest depth of several nodes. -/
def depthAll : List Node → Nat
  | [] => 0
  | n :: rest => max (depth n) (depthAll rest)

/-- The greatest depth of the keys and values of entries. -/
def depthEntries : List (Node × Node) → Nat
  | [] => 0
  | (k, v) :: rest => max (max (depth k) (depth v)) (depthEntries rest)

end

/-- The value of the only document in a text whose line ends are unified; a text without a document
is null. -/
def load (t : Text) : Except Fault Value := do
  match ← Node.ofTokens (tokens (charsOf t)) with
  | none => return .null
  | some n =>
    let fuel := 2 * depth n + 2
    fillLevels fuel fuel (← begin fuel n)
    construct fuel n

end SourceDocs.Yaml
