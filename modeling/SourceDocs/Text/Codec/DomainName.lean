import SourceDocs.Text.Case
import SourceDocs.Text.Compatibility
import SourceDocs.Text.Printable

/-!
# Domain names

Punycode writes a text as its ASCII characters and, behind a hyphen, digits that tell where the
other characters go.  A domain name is written label by label; a label that is not ASCII is folded
and written in Punycode behind a mark.
-/

namespace SourceDocs

namespace Punycode

/-- The base of the digits. -/
def base : Nat := 36

/-- The digit with a value. -/
def digit (n : Nat) : UInt8 := UInt8.ofNat (if n < 26 then 0x61 + n else 0x30 + (n - 26))

/-- The threshold at a position of a number, by the bias. -/
def threshold (bias position : Nat) : Nat :=
  let k := base * (position + 1)
  if k ≤ bias + 1 then 1 else if bias + 26 ≤ k then 26 else k - bias

/-- The digits of a number; `fuel` bounds their count. -/
def digits (bias : Nat) : Nat → Nat → Nat → List UInt8
  | 0, _, _ => []
  | fuel + 1, position, n =>
    let t := threshold bias position
    if n < t then [digit n]
    else digit (t + (n - t) % (base - t)) :: digits bias fuel (position + 1) ((n - t) / (base - t))

/-- Divides until a number is small, and counts. -/
def shrink : Nat → Nat → Nat → Nat × Nat
  | 0, count, n => (count, n)
  | fuel + 1, count, n => if 455 < n then shrink fuel (count + base) (n / 35) else (count, n)

/-- The bias behind a number. -/
def adapt (delta : Nat) (first : Bool) (count : Nat) : Nat :=
  let delta := if first then delta / 700 else delta / 2
  let (k, delta) := shrink 64 0 (delta + delta / count)
  k + 36 * delta / (delta + 38)

/-- What a writer keeps: the difference so far, the bias, the number of characters placed, and what
is written. -/
structure Writer where
  delta : Nat := 0
  bias : Nat := 72
  placed : Nat
  basic : Nat
  done : List UInt8 := []

/-- Passes one character of the text while the characters with number `n` are placed. -/
def Writer.pass (n : Nat) (w : Writer) (c : CodePoint) : Writer :=
  if c.val < n then { w with delta := w.delta + 1 }
  else if c.val = n then
    { w with
      done := w.done ++ digits w.bias 64 0 w.delta
      bias := adapt w.delta (w.placed = w.basic) (w.placed + 1)
      delta := 0
      placed := w.placed + 1 }
  else w

/-- Places the characters with the given numbers, in increasing order. -/
def placeAll (t : Text) : Nat → List Nat → Writer → Writer
  | _, [], w => w
  | n, m :: rest, w =>
    let w := { w with delta := w.delta + (m - n) * (w.placed + 1) }
    let w := t.foldl (Writer.pass m) w
    placeAll t (m + 1) rest { w with delta := w.delta + 1 }

/-- Writes a text in Punycode. -/
def encode (t : Text) : List UInt8 :=
  let basic := t.filter fun c => c.val < 0x80
  let others := ((t.filter fun c => 0x80 ≤ c.val).map fun c => c.val).mergeSort
  let numbers := others.eraseDups
  let w := placeAll t 0x80 numbers { placed := basic.length, basic := basic.length }
  let start := basic.map fun c => UInt8.ofNat c.val
  (if start.isEmpty then [] else start ++ [0x2D]) ++ w.done

end Punycode

namespace DomainName

/-- Whether a character separates labels. -/
def isDot (c : CodePoint) : Bool := [0x2E, 0x3002, 0xFF0E, 0xFF61].contains c.val

/-- The labels of a name. -/
def labels : Text → List Text
  | [] => [[]]
  | c :: rest =>
    match labels rest with
    | [] => [[c]]
    | first :: more => if isDot c then [] :: first :: more else (c :: first) :: more

/-- The bytes of an ASCII text. -/
def ascii? (t : Text) : Option (List UInt8) :=
  if t.all (·.val < 0x80) then some (t.map fun c => UInt8.ofNat c.val) else none

/-- A character in lower case. -/
def folded (c : CodePoint) : Text :=
  if c.val = 0xDF then Text.ofString "ss"
  else if c.val = 0x3C2 then [CodePoint.ofNat 0x3C3]
  else [CodePoint.ofNat (lowerCase c.val)]

/-- Characters that are left out of labels. -/
def isIgnored (c : CodePoint) : Bool :=
  [0xAD, 0x34F, 0x1806, 0x180B, 0x180C, 0x180D, 0x2060, 0xFEFF].contains c.val
    || (0x200B ≤ c.val && c.val ≤ 0x200D) || (0xFE00 ≤ c.val && c.val ≤ 0xFE0F)

/-- The mark in front of a label in Punycode. -/
def mark : List UInt8 := [0x78, 0x6E, 0x2D, 0x2D]

/-- A label that is neither empty nor too long. -/
def sized (label : List UInt8) : Option (List UInt8) :=
  if 0 < label.length ∧ label.length < 64 then some label else none

/-- The bytes of a label. -/
def encodeLabel (label : Text) : Option (List UInt8) :=
  match ascii? label with
  | some bytes => sized bytes
  | none =>
    let kept := (label.filter fun c => !isIgnored c).flatMap folded
    let plain := (Compatibility.compose kept).flatMap folded
    let plain := Compatibility.compose plain
    match ascii? plain with
    | some bytes => sized bytes
    | none =>
      let isBad (c : CodePoint) : Bool := 0x80 ≤ c.val && !c.isPrintable
      let isMarked := (Text.ofString "xn--").isPrefixOf plain
      if isMarked || plain.any isBad then none else sized (mark ++ Punycode.encode plain)

/-- The bytes of labels with dots between them. -/
def encodeLabels : List Text → Option (List UInt8)
  | [] => some []
  | [label] => encodeLabel label
  | label :: rest => do
    let first ← encodeLabel label
    return first ++ 0x2E :: (← encodeLabels rest)

/-- Writes a domain name.  If the text may go on, the last label is held back. -/
def encode? (complete : Bool) (t : Text) : Option (List UInt8) :=
  let parts := labels t
  let ended := parts.getLast? = some []
  if t.isEmpty then some []
  else
    match complete, ascii? t with
    | true, some bytes =>
      let fits := (labels t).dropLast.all fun l => 0 < l.length ∧ l.length < 64
      if fits ∧ (parts.getLastD []).length < 64 then some bytes else none
    | _, _ => do
      let whole := if ended || !complete then parts.dropLast else parts
      let bytes ← encodeLabels whole
      let dot : List UInt8 := if ended || (!complete && !whole.isEmpty) then [0x2E] else []
      return bytes ++ dot

/-- Reads a domain name in ASCII; one with marked labels is refused. -/
def decode? (bytes : List UInt8) : Option Text :=
  let t : Text := bytes.map fun b => CodePoint.ofNat b.toNat
  let isMarked := (labels t).any fun l => (Text.ofString "xn--").isPrefixOf l
  if bytes.all (·.toNat < 0x80) && !isMarked then some t else none

end DomainName

end SourceDocs
