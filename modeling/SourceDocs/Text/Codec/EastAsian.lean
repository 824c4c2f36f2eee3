import SourceDocs.Text.CharacterSet.Big5
import SourceDocs.Text.CharacterSet.Chinese
import SourceDocs.Text.CharacterSet.Japanese
import SourceDocs.Text.CharacterSet.Korean
import SourceDocs.Text.Codec.Plane

/-!
# East Asian encodings

The encodings of Japanese, Chinese and Korean in which every character has a code of its own.
-/

namespace SourceDocs.EastAsian

open CharacterSet

/-! ## Japanese -/

/-- The half-width syllables. -/
def syllables : String := "｡｢｣､･ｦｧｨｩｪｫｬｭｮｯｰｱｲｳｴｵｶｷｸｹｺｻｼｽｾｿﾀﾁﾂﾃﾄﾅﾆﾇﾈﾉﾊﾋﾌﾍﾎﾏﾐﾑﾒﾓﾔﾕﾖﾗﾘﾙﾚﾛﾜﾝﾞﾟ"

/-- The half-width syllables behind a byte of their own. -/
def markedSyllables : Plane := .ofGrid .plain [(0x8EA1, syllables)]

/-- The yen sign and the overline, which are written as the ASCII characters in their places. -/
def romanSigns : Plane := .oneWay [(0xA5, [0x5C]), (0x203E, [0x7E])]

/-- Shift-JIS. -/
def shiftJis : MultiByte where
  singles := [(0xA1, syllables)]
  planes := [romanSigns, .ofGrid .folded jisX0208]

/-- The code page 932. -/
def codePage932 : MultiByte where
  singles := [(0x80, "\x80"), (0xA0, "\uF8F0"), (0xA1, syllables), (0xFD, "\uF8F1\uF8F2\uF8F3")]
  planes :=
    [.ofGrid .folded [(0x2141, "～∥"), (0x215D, "－"), (0x2171, "￠￡"), (0x224C, "￢")],
     .ofGrid .folded jisX0208, .ofGrid .folded windowsRows,
     .ofBlock .folded (numbersBetween 0x7F 0x92) (numbersBetween 0x21 0x7E) 0xE000]

/-- EUC-JP. -/
def eucJp : MultiByte where
  planes := [romanSigns, markedSyllables, .ofGrid .raised jisX0208,
    .ofGrid (.raisedBehind 0x8F) jisX0212]

/-- The pairs of JIS X 0213 in a placement. -/
def jisPairs (p : Placement) : List (Nat × Nat × List UInt8) :=
  jisX0213Pairs.filterMap fun (code, x, y) => (p.bytes? code).map fun bytes => (x, y, bytes)

/-- The character that the edition of 2000 has in place of a later one. -/
def formerSecond : Grid := [(0x7D3B, "\u9B1D")]

/-- The planes of JIS X 0213. -/
def jisX0213 (later : Bool) (first second : Placement) : List Plane :=
  if later then
    [.ofGrid first jisX0208, .ofGrid first jisX0213First, .ofGrid first jisX0213Later,
     .ofGrid second jisX0213Second]
  else
    [.ofGrid first jisX0208, .ofGrid first jisX0213First, .ofGrid second formerSecond,
     .ofGrid second jisX0213Second]

/-- The characters that the edition of 2000 does not write. -/
def laterCharacters (later : Bool) : List Nat := if later then [] else [0x7626, 0x7E6B, 0x9B1C]

/-- EUC with JIS X 0213, in the edition of 2004 or that of 2000. -/
def eucJis (later : Bool) : MultiByte where
  planes := markedSyllables :: .ofGrid .raised [(0x2232, "～")]
    :: jisX0213 later .raised (.raisedBehind 0x8F)
    ++ [.ofGrid (.raisedBehind 0x8F) jisX0212]
  pairs := jisPairs .raised
  refused := laterCharacters later

/-- Shift-JIS with JIS X 0213, in the edition of 2004 or that of 2000. -/
def shiftJisX0213 (later : Bool) : MultiByte where
  singles := [(0x5C, "¥"), (0x7E, "‾"), (0xA1, syllables)]
  planes := .ofGrid .folded [(0x2140, "\\")] :: jisX0213 later .folded .foldedSecond
  pairs := jisPairs .folded
  refused := 0xFF3C :: laterCharacters later

/-! ## Chinese -/

/-- EUC with GB 2312. -/
def eucGb2312 : MultiByte where
  planes := [.ofGrid .raised gb2312]

/-- Where GBK differs from GB 2312. -/
def gbkSigns : Plane := .ofGrid .plain [(0xA1A4, "·"), (0xA1AA, "—")]

/-- GBK. -/
def gbk : MultiByte where
  planes := [gbkSigns, .ofGrid .plain gbkRest, .ofGrid .raised gb2312]
  refused := [0x30FB]

/-- The number of a code of four bytes, and the bytes behind. -/
def readFour : List UInt8 → Option (Nat × List UInt8)
  | a :: b :: c :: d :: rest =>
    let within (low high : Nat) (x : UInt8) : Bool := low ≤ x.toNat && x.toNat ≤ high
    if within 0x81 0xFE a && within 0x30 0x39 b && within 0x81 0xFE c && within 0x30 0x39 d then
      let n := (a.toNat - 0x81) * 10 + (b.toNat - 0x30)
      some ((n * 126 + (c.toNat - 0x81)) * 10 + (d.toNat - 0x30), rest)
    else none
  | _ => none

/-- The four bytes of a number. -/
def fourBytes (n : Nat) : List UInt8 :=
  [UInt8.ofNat (0x81 + n / 12600), UInt8.ofNat (0x30 + n / 1260 % 10),
   UInt8.ofNat (0x81 + n / 10 % 126), UInt8.ofNat (0x30 + n % 10)]

/-- The number of the first code of four bytes beyond the basic plane of Unicode. -/
def firstBeyond : Nat := 189000

/-- The codes of four bytes. -/
def gb18030Four : Plane where
  read bytes := do
    let (n, rest) ← readFour bytes
    if firstBeyond ≤ n then
      return ([← CodePoint.ofNat? (n - firstBeyond + 0x10000)], rest)
    else
      let (first, _, start) ← gb18030Runs.find? fun (first, last, start) =>
        start ≤ n && n ≤ start + (last - first)
      return ([CodePoint.ofNat (first + (n - start))], rest)
  write c :=
    if 0x10000 ≤ c.val then some (fourBytes (c.val - 0x10000 + firstBeyond))
    else
      (gb18030Runs.find? fun (first, last, _) => first ≤ c.val && c.val ≤ last).map
        fun (first, _, start) => fourBytes (start + (c.val - first))

/-- The second bytes of the third private area of GB 18030. -/
def lowCells : List Nat := numbersBetween 0x40 0x7E ++ numbersBetween 0x80 0xA0

/-- GB 18030. -/
def gb18030 : MultiByte where
  planes :=
    [gbkSigns, .ofGrid .plain gbkRest, .ofGrid .plain gb18030Rest,
     .ofBlock .plain (numbersBetween 0xAA 0xAF) (numbersBetween 0xA1 0xFE) 0xE000,
     .ofBlock .plain (numbersBetween 0xF8 0xFE) (numbersBetween 0xA1 0xFE) 0xE234,
     .ofBlock .plain (numbersBetween 0xA1 0xA7) lowCells 0xE4C6,
     gb18030Four, .ofGrid .raised gb2312]

/-- Characters of Big5 that have two codes, with the one that is written. -/
def big5Chosen : Plane := .ofGrid .plain [(0xA241, "／＼"), (0xA451, "十"), (0xA4CA, "卅")]

/-- Big5. -/
def big5Plain : MultiByte where
  planes := [big5Chosen, .ofGrid .plain big5, .ofGrid .plain big5Kana]

/-- The signs of the code page 950 that stand at other codes in Big5. -/
def signs950 : Grid := windowsBig5.filter fun run => run.1 < 0xF000

/-- The characters that the code page 950 adds to Big5. -/
def rest950 : Grid := windowsBig5.filter fun run => 0xF000 ≤ run.1

/-- The code page 950. -/
def codePage950 : MultiByte where
  planes := [.ofGrid .plain [(0xA451, "十"), (0xA4CA, "卅")], .ofGrid .plain signs950,
    .ofGrid .plain big5, .ofGrid .plain big5Kana, .ofGrid .plain rest950]

/-- Big5 with the Hong Kong supplement. -/
def big5HongKong : MultiByte where
  planes := [big5Chosen, .ofGrid .plain hongKong, .ofGrid .plain big5]
  pairs := [(0xCA, 0x304, [0x88, 0x62]), (0xCA, 0x30C, [0x88, 0x64]),
    (0xEA, 0x304, [0x88, 0xA3]), (0xEA, 0x30C, [0x88, 0xA5])]

/-! ## Korean -/

/-- The first letters of syllables. -/
def initials : List Char := "ㄱㄲㄴㄷㄸㄹㅁㅂㅃㅅㅆㅇㅈㅉㅊㅋㅌㅍㅎ".toList

/-- The last letters of syllables. -/
def finals : List Char := "ㄱㄲㄳㄴㄵㄶㄷㄹㄺㄻㄼㄽㄾㄿㅀㅁㅂㅄㅅㅆㅇㅈㅊㅋㅌㅍㅎ".toList

/-- The number of the first syllable. -/
def firstSyllable : Nat := 0xAC00

/-- The number of syllables. -/
def syllableCount : Nat := 11172

/-- The number of the syllable with an initial, a vowel and a final, where zero is no final. -/
def syllable (x y z : Nat) : Nat := firstSyllable + (x * 21 + y) * 28 + z

/-- The initial, the vowel and the final of a syllable. -/
def lettersOf? (c : CodePoint) : Option (Nat × Nat × Nat) :=
  let n := c.val - firstSyllable
  if firstSyllable ≤ c.val && n < syllableCount then some (n / 588, n / 28 % 21, n % 28) else none

/-- Syllables spelled out in letters behind a filler, all in the row of the letters. -/
def spelledSyllables : Plane where
  read
    | 0xA4 :: 0xD4 :: 0xA4 :: a :: 0xA4 :: b :: 0xA4 :: c :: rest => do
      let letter (b : UInt8) : Char := Char.ofNat (b.toNat - 0xA1 + 0x3131)
      let x ← initials.idxOf? (letter a)
      let y ← if 0xBF ≤ b.toNat && b.toNat ≤ 0xD3 then some (b.toNat - 0xBF) else none
      let z ← if c = 0xD4 then some 0 else (finals.idxOf? (letter c)).map (· + 1)
      return ([CodePoint.ofNat (syllable x y z)], rest)
    | _ => none
  write c := do
    let (x, y, z) ← lettersOf? c
    let byte (letter : Char) : UInt8 := UInt8.ofNat (letter.toNat - 0x3131 + 0xA1)
    let first ← initials[x]?
    let last ← if z = 0 then some 0xD4 else finals[z - 1]?.map byte
    return [0xA4, 0xD4, 0xA4, byte first, 0xA4, UInt8.ofNat (0xBF + y), 0xA4, last]

/-- KS X 1001 without the filler, behind which a syllable is spelled out. -/
def raisedKorean : Plane :=
  let plane := Plane.ofGrid .raised ksX1001
  { plane with read := fun bytes =>
      if [0xA4, 0xD4].isPrefixOf bytes then none else plane.read bytes }

/-- EUC-KR. -/
def eucKr : MultiByte where
  planes := [raisedKorean, spelledSyllables]

/-- The code page 949. -/
def codePage949 : MultiByte where
  planes := [.ofGrid .raised ksX1001, .ofGrid .plain unifiedHangul]

/-- The numbers of the initials in codes of letters. -/
def initialCodes : List Nat := numbersBetween 2 20

/-- The numbers of the vowels. -/
def vowelCodes : List Nat :=
  numbersBetween 3 7 ++ numbersBetween 10 15 ++ numbersBetween 18 23 ++ numbersBetween 26 29

/-- The numbers of the finals. -/
def finalCodes : List Nat := numbersBetween 2 17 ++ numbersBetween 19 29

/-- The code of three letters in five bits each. -/
def letterCode (x y z : Nat) : List UInt8 :=
  let n := 0x8000 + x * 1024 + y * 32 + z
  [UInt8.ofNat (n / 256), UInt8.ofNat (n % 256)]

/-- What three letters stand for, where an initial `1`, a vowel `2` and a final `1` are fillers. -/
def readLetters (x y z : Nat) : Option CodePoint :=
  let point (c : Char) : CodePoint := CodePoint.ofChar c
  if x = 1 then
    if y = 2 then
      if z = 1 then some (CodePoint.ofNat 0x3000)
      else do return point (← finals[← finalCodes.idxOf? z]?)
    else if z = 1 then (vowelCodes.idxOf? y).map fun k => CodePoint.ofNat (0x314F + k)
    else none
  else do
    let first ← initialCodes.idxOf? x
    if y = 2 then
      if z = 1 then return point (← initials[first]?) else none
    else
      let vowel ← vowelCodes.idxOf? y
      let last ← if z = 1 then some 0 else (finalCodes.idxOf? z).map (· + 1)
      return CodePoint.ofNat (syllable first vowel last)

/-- Syllables and letters as codes of three letters. -/
def letterPlane : Plane where
  read
    | a :: b :: rest => do
      let n := a.toNat * 256 + b.toNat
      let c ← readLetters (n / 1024 % 32) (n / 32 % 32) (n % 32)
      return ([c], rest)
    | _ => none
  write c :=
    match lettersOf? c with
    | some (x, y, z) => do
      let last ← if z = 0 then some 1 else finalCodes[z - 1]?
      return letterCode (← initialCodes[x]?) (← vowelCodes[y]?) last
    | none =>
      match initials.idxOf? c.toChar, finals.idxOf? c.toChar with
      | some k, _ => (initialCodes[k]?).map fun x => letterCode x 2 1
      | none, some k => (finalCodes[k]?).map fun z => letterCode 1 2 z
      | none, none =>
        if 0x314F ≤ c.val then (vowelCodes[c.val - 0x314F]?).map fun y => letterCode 1 y 1 else none

/-- Johab. -/
def johab : MultiByte where
  planes := [letterPlane, .ofGrid .foldedHigh ksX1001]

end SourceDocs.EastAsian
