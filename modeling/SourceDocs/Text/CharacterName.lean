import SourceDocs.Text.CharacterName.Table
import SourceDocs.Text.Ranges

/-!
# Names of characters

The names under which a string literal or a pattern may mention a character.  Most of them stand in
a table; syllables and ideographs are named by rules.
-/

namespace SourceDocs.CharacterName

/-- A place in the table: the code point that comes next, and the words of the name before it. -/
structure Cursor where
  next : Nat := 0
  words : List (List Char) := []

/-- The place behind an entry. -/
def Cursor.step (c : Cursor) (entry : List Char) : Cursor :=
  match entry with
  | [] => c
  | '=' :: digits => { c with next := CodePointSet.hexValue digits }
  | shared :: rest =>
    let words := if rest.isEmpty then [] else Text.partsAt ' ' rest
    { next := c.next + 1, words := c.words.take (shared.toNat - '0'.toNat) ++ words }

/-- Looks for a name, given by its words, from a place in the table on. -/
def findFrom (name : List (List Char)) : Cursor → List (List Char) → Option Nat
  | _, [] => none
  | c, entry :: rest =>
    let next := c.step entry
    if next.next = c.next + 1 && next.words = name then some c.next else findFrom name next rest

/-- Looks for a name in lines of entries. -/
def findIn (lines : List String) (name : List Char) : Option Nat :=
  findFrom (Text.partsAt ' ' name) {} (lines.flatMap fun line => Text.partsAt ';' line.toList)

/-- Stems of names that end in the number of the code point, and the code points that have them. -/
def numberedNames : List (String × Nat × Nat) :=
  [("CJK COMPATIBILITY IDEOGRAPH-", 0xF900, 0xFA6D),
   ("CJK COMPATIBILITY IDEOGRAPH-", 0xFA70, 0xFAD9),
   ("CJK COMPATIBILITY IDEOGRAPH-", 0x2F800, 0x2FA1D), ("NUSHU CHARACTER-", 0x1B170, 0x1B2FB),
   ("KHITAN SMALL SCRIPT CHARACTER-", 0x18B00, 0x18CD5)]

/-- The initial, middle and final sounds of Hangul syllables. -/
def syllableParts : List String × List String × List String :=
  (["G", "GG", "N", "D", "DD", "R", "M", "B", "BB", "S", "SS", "", "J", "JJ", "C", "K", "T", "P",
    "H"],
   ["A", "AE", "YA", "YAE", "EO", "E", "YEO", "YE", "O", "WA", "WAE", "OE", "YO", "U", "WEO", "WE",
    "WI", "YU", "EU", "YI", "I"],
   ["", "G", "GG", "GS", "N", "NJ", "NH", "D", "L", "LG", "LM", "LB", "LS", "LT", "LP", "LH", "M",
    "B", "BS", "S", "SS", "NG", "J", "C", "K", "T", "P", "H"])

/-- The syllable with a name. -/
def findSyllable (name : String) : Option Nat :=
  let (initials, middles, finals) := syllableParts
  let all := (List.range 11172).map fun i =>
    (initials.getD (i / 588) "") ++ (middles.getD (i % 588 / 28) "") ++ (finals.getD (i % 28) "")
  (all.findIdx? (· = name)).map (0xAC00 + ·)

/-- Whether a code point is a unified ideograph, which is named by its number. -/
def isIdeograph (n : Nat) : Bool :=
  [(0x3400, 0x4DBF), (0x4E00, 0x9FFF), (0x20000, 0x2A6DF), (0x2A700, 0x2B738), (0x2B740, 0x2B81D),
   (0x2B820, 0x2CEA1), (0x2CEB0, 0x2EBE0), (0x30000, 0x3134A)].any fun r => r.1 ≤ n && n ≤ r.2

/-- What follows `start` in a name. -/
def after? (start : String) (name : List Char) : Option (List Char) :=
  if start.toList.isPrefixOf name then some (name.drop start.length) else none

/-- The number that capital hexadecimal digits write, four or five of them. -/
def capitalNumber? (digits : List Char) : Option Nat :=
  if 4 ≤ digits.length && digits.length ≤ 5 && !digits.any Char.isLower then
    Text.numeral? 16 digits
  else none

/-- The code point whose name is a stem and its number. -/
def findNumbered (name : List Char) : Option Nat :=
  numberedNames.findSome? fun (stem, first, last) => do
    let n ← capitalNumber? (← after? stem name)
    if first ≤ n && n ≤ last then some n else none

/-- The code point with a name.  Letters may be small, but not where a rule names syllables and
unified ideographs. -/
def find? (name : String) : Option CodePoint :=
  let given := name.toList
  let capital := given.map Char.toUpper
  let number : Option Nat :=
    match after? "HANGUL SYLLABLE " given, after? "CJK UNIFIED IDEOGRAPH-" given with
    | some rest, _ => findSyllable (String.ofList rest)
    | _, some digits => (capitalNumber? digits).filter isIdeograph
    | none, none =>
      ((findNumbered capital).or (findIn furtherNames capital)).or (findIn table capital)
  number.bind CodePoint.ofNat?

end SourceDocs.CharacterName
