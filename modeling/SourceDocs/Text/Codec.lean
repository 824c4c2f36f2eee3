import SourceDocs.Text.Codec.DomainName
import SourceDocs.Text.Codec.Escaped
import SourceDocs.Text.Codec.Name
import SourceDocs.Text.Codec.Switched
import SourceDocs.Text.Codec.Utf16
import SourceDocs.Text.Codec.Utf7
import SourceDocs.Text.Utf8

/-!
# Encodings

The encodings that a source file may declare and that a published file may be written in.
-/

namespace SourceDocs

/-- Why a text cannot be turned into bytes or bytes into a text. -/
inductive CodecFault where
  | undecodable
  | unencodable
  | unknownCodec
  /-- The text as a whole is none that the encoding is made for. -/
  | unsuitable
deriving DecidableEq, Inhabited

/-- A text encoding. -/
inductive Codec where
  | utf8
  /-- UTF-8 with a byte order mark in front. -/
  | utf8Marked
  | utf7
  | ascii
  | latin1
  | codePage (page : Grid)
  /-- UTF-16 in a byte order, or in little endian order behind a byte order mark. -/
  | utf16 (bigEndian : Bool) (marked : Bool)
  | utf32 (bigEndian : Bool) (marked : Bool)
  | multiByte (e : MultiByte)
  | iso2022 (e : Switched.Iso2022)
  | hz
  | escaped (raw : Bool)
  | punycode
  | domainName
  /-- An encoding in which nothing can be written or read. -/
  | empty

namespace Codec

/-- The East Asian encodings by their main names. -/
def eastAsian : List (String × Codec) :=
  [("shift_jis", .multiByte EastAsian.shiftJis), ("cp932", .multiByte EastAsian.codePage932),
   ("euc_jp", .multiByte EastAsian.eucJp), ("euc_jis_2004", .multiByte (EastAsian.eucJis true)),
   ("euc_jisx0213", .multiByte (EastAsian.eucJis false)),
   ("shift_jis_2004", .multiByte (EastAsian.shiftJisX0213 true)),
   ("shift_jisx0213", .multiByte (EastAsian.shiftJisX0213 false)),
   ("iso2022_jp", .iso2022 Switched.japanese), ("iso2022_jp_1", .iso2022 Switched.japanese1),
   ("iso2022_jp_2", .iso2022 Switched.japanese2),
   ("iso2022_jp_2004", .iso2022 (Switched.japanese3 true)),
   ("iso2022_jp_3", .iso2022 (Switched.japanese3 false)),
   ("iso2022_jp_ext", .iso2022 Switched.japaneseExtended),
   ("gb2312", .multiByte EastAsian.eucGb2312), ("gbk", .multiByte EastAsian.gbk),
   ("gb18030", .multiByte EastAsian.gb18030), ("hz", .hz),
   ("big5", .multiByte EastAsian.big5Plain), ("cp950", .multiByte EastAsian.codePage950),
   ("big5hkscs", .multiByte EastAsian.big5HongKong), ("euc_kr", .multiByte EastAsian.eucKr),
   ("cp949", .multiByte EastAsian.codePage949), ("johab", .multiByte EastAsian.johab),
   ("iso2022_kr", .iso2022 Switched.korean)]

/-- The encoding with a name. -/
def ofName? (name : Text) : Option Codec :=
  match CodecName.mainName name with
  | "utf_8" => some .utf8
  | "utf_8_sig" => some .utf8Marked
  | "utf_7" => some .utf7
  | "ascii" => some .ascii
  | "latin_1" | "charmap" => some .latin1
  | "utf_16" => some (.utf16 false true)
  | "utf_16_le" => some (.utf16 false false)
  | "utf_16_be" => some (.utf16 true false)
  | "utf_32" => some (.utf32 false true)
  | "utf_32_le" => some (.utf32 false false)
  | "utf_32_be" => some (.utf32 true false)
  | "unicode_escape" => some (.escaped false)
  | "raw_unicode_escape" => some (.escaped true)
  | "punycode" => some .punycode
  | "idna" => some .domainName
  | "undefined" => some .empty
  | main => (eastAsian.lookup main).or ((CodePage.ofName? main).map .codePage)

/-- The bytes of a text, if the encoding has all its code points.  A text that is not complete may
go on, so that what depends on its end is not written. -/
def encode? (codec : Codec) (t : Text) (complete : Bool := true) : Option (List UInt8) :=
  match codec with
  | .utf8 => Utf8.encode? t
  | .utf8Marked => (Utf8.encode? t).map ([0xEF, 0xBB, 0xBF] ++ ·)
  | .utf7 => some (Utf7.encode t)
  | .ascii => if t.all (·.val < 0x80) then some (t.map fun c => UInt8.ofNat c.val) else none
  | .latin1 => if t.all (·.val < 0x100) then some (t.map fun c => UInt8.ofNat c.val) else none
  | .codePage page => t.mapM (CodePage.encodePoint page)
  | .utf16 bigEndian marked => Utf16.encode? bigEndian marked t
  | .utf32 bigEndian marked => Utf32.encode? bigEndian marked t
  | .multiByte e => e.encodeFrom complete t
  | .iso2022 e => e.encodeFrom complete {} t
  | .hz => Switched.encodeHz complete false t
  | .escaped raw => some (Escaped.encode raw t)
  | .punycode => some (Punycode.encode t)
  | .domainName => DomainName.encode? complete t
  | .empty => none

/-- Why a text cannot be encoded, if it cannot. -/
def encodeFault : Codec → CodecFault
  | .domainName | .empty => .unsuitable
  | _ => .unencodable

/-- The bytes of a text. -/
def encode (codec : Codec) (t : Text) (complete : Bool := true) :
    Except CodecFault (List UInt8) :=
  match codec.encode? t complete with
  | some bytes => .ok bytes
  | none => .error codec.encodeFault

/-- Reads bytes in an encoding, if they are well formed in it.  Punycode is not read. -/
def decode? (codec : Codec) (bytes : List UInt8) : Option Text :=
  match codec with
  | .utf8 => Utf8.decode? bytes
  | .utf8Marked =>
    Utf8.decode? (if [0xEF, 0xBB, 0xBF].isPrefixOf bytes then bytes.drop 3 else bytes)
  | .utf7 => Utf7.decode? bytes
  | .ascii =>
    if bytes.all (·.toNat < 0x80) then some (bytes.map fun b => CodePoint.ofNat b.toNat) else none
  | .latin1 => some (bytes.map fun b => CodePoint.ofNat b.toNat)
  | .codePage page => bytes.mapM (CodePage.decodeByte page)
  | .utf16 bigEndian marked => Utf16.decode? bigEndian marked bytes
  | .utf32 bigEndian marked => Utf32.decode? bigEndian marked bytes
  | .multiByte e => e.decode? bytes
  | .iso2022 e => e.decode? bytes
  | .hz => Switched.decodeHz false bytes
  | .escaped raw => Escaped.decode? raw bytes
  | .domainName => DomainName.decode? bytes
  | .punycode | .empty => none

end Codec

end SourceDocs
