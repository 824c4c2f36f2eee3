import SourceDocs.Text.Quoted
import SourceDocs.Value.Basic

/-!
# Written form of values

`Value.written` writes a value the way it is written in a module's source.  Sets are encoded in the
order of their items' written forms.
-/

namespace SourceDocs

/-- The written form of a complex number: the real part is left out when it is a positive zero. -/
def Binary64.complexText (re im : Binary64) : String :=
  let imaginary := im.briefText
  if re.isZero && !re.isNegative then imaginary ++ "j"
  else
    let sign := match im with
      | .nan => "+"
      | x => if x.isNegative then "" else "+"
    "(" ++ re.briefText ++ sign ++ imaginary ++ "j)"

namespace Value

/-- The items between brackets. -/
def bracketed (opening closing : String) (items : List Text) : Text :=
  Text.ofString opening ++ Text.join (Text.ofString ", ") items ++ Text.ofString closing

mutual

/-- The written form of a value. -/
def written : Value → Text
  | .null => Text.ofString "None"
  | .bool b => Text.ofString (if b then "True" else "False")
  | .int n => Text.ofInt n
  | .float x => Text.ofString x.text
  | .complex re im => Text.ofString (Binary64.complexText re im)
  | .text t => Quoted.text t
  | .bytes data growable =>
    Text.ofString (if growable then "bytearray(" ++ Quoted.bytes data ++ ")" else Quoted.bytes data)
  | .ellipsis => Text.ofString "Ellipsis"
  | .object => Text.ofString "<object object>"
  | .moment s _ _ => Text.ofString s
  | .path p => Text.ofString "PosixPath(" ++ Quoted.text p.toText ++ Text.ofString ")"
  | .list items => bracketed "[" "]" (writtenAll items)
  | .tuple [x] => Text.ofString "(" ++ written x ++ Text.ofString ",)"
  | .tuple items => bracketed "(" ")" (writtenAll items)
  | .sequence type items _ => bracketed (type ++ "([") "])" (writtenAll items)
  | .set items frozen =>
    if frozen then
      if items.isEmpty then Text.ofString "frozenset()"
      else bracketed "frozenset(\x7b" "\x7d)" (writtenAll items)
    else if items.isEmpty then Text.ofString "set()"
    else bracketed "\x7b" "\x7d" (writtenAll items)
  | .mapping entries => bracketed "\x7b" "\x7d" (writtenEntries entries)
  | .node k _ _ => Text.ofString ("<ast." ++ k.name ++ " object>")

/-- The written forms of several values. -/
def writtenAll : List Value → List Text
  | [] => []
  | x :: xs => written x :: writtenAll xs

/-- The written forms of the entries of a mapping. -/
def writtenEntries : List (Value × Value) → List Text
  | [] => []
  | (k, v) :: rest => (written k ++ Text.ofString ": " ++ written v) :: writtenEntries rest

end

/-- The order of texts by code points. -/
def textLe (s t : Text) : Bool := !(t < s : Bool)

/-- The items of a set in the order of their written forms. -/
def sortedByWritten (items : List Value) : List Value :=
  ((items.map fun x => (written x, x)).mergeSort fun a b => textLe a.1 b.1).map Prod.snd

/-- A value as text: a text is itself, anything else its written form. -/
def display : Value → Text
  | .text t => t
  | v => written v

end Value

end SourceDocs
