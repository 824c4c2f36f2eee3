import SourceDocs.Text.Basic

/-!
# Words of the grammar

The keywords, operators and special names that the grammar mentions, with their spelling.
-/

namespace SourceDocs.Source

/-- A keyword, an operator or a name with a meaning of its own; `plain` is every other token. -/
inductive Word where
  | kFalse | kNone | kTrue | kAnd | kAs | kAssert | kAsync | kAwait | kBreak | kClass | kContinue
  | kDef | kDel | kElif | kElse | kExcept | kFinally | kFor | kFrom | kGlobal | kIf | kImport
  | kIn | kIs | kLambda | kNonlocal | kNot | kOr | kPass | kRaise | kReturn | kTry | kWhile
  | kWith | kYield
  | openParen | closeParen | openBracket | closeBracket | openBrace | closeBrace | comma | colon
  | semicolon | dot | dots | arrow | atSign | equals | walrus | plus | minus | star | slash
  | doubleSlash | percent | doubleStar | bar | ampersand | caret | tilde | leftShift | rightShift
  | less | lessEqual | greater | greaterEqual | equal | notEqual | plusEquals | minusEquals
  | starEquals | slashEquals | doubleSlashEquals | percentEquals | doubleStarEquals | atEquals
  | barEquals | ampersandEquals | caretEquals | leftShiftEquals | rightShiftEquals
  | underscore | softCase | softMatch | namePrint | nameExec
  | plain
deriving DecidableEq, Inhabited

namespace Word

/-- The words that cannot be names. -/
def keywords : List (String × Word) :=
  [("False", .kFalse), ("None", .kNone), ("True", .kTrue), ("and", .kAnd),
   ("as", .kAs), ("assert", .kAssert), ("async", .kAsync), ("await", .kAwait),
   ("break", .kBreak), ("class", .kClass), ("continue", .kContinue), ("def", .kDef),
   ("del", .kDel), ("elif", .kElif), ("else", .kElse), ("except", .kExcept),
   ("finally", .kFinally), ("for", .kFor), ("from", .kFrom), ("global", .kGlobal),
   ("if", .kIf), ("import", .kImport), ("in", .kIn), ("is", .kIs),
   ("lambda", .kLambda), ("nonlocal", .kNonlocal), ("not", .kNot), ("or", .kOr),
   ("pass", .kPass), ("raise", .kRaise), ("return", .kReturn), ("try", .kTry),
   ("while", .kWhile), ("with", .kWith), ("yield", .kYield)]

/-- The operators and brackets. -/
def operators : List (String × Word) :=
  [("(", .openParen), (")", .closeParen), ("[", .openBracket), ("]", .closeBracket),
   ("\x7b", .openBrace), ("\x7d", .closeBrace), (",", .comma), (":", .colon), (";", .semicolon),
   (".", .dot), ("...", .dots), ("->", .arrow), ("@", .atSign), ("=", .equals), (":=", .walrus),
   ("+", .plus), ("-", .minus), ("*", .star), ("/", .slash), ("//", .doubleSlash),
   ("%", .percent), ("**", .doubleStar), ("|", .bar), ("&", .ampersand), ("^", .caret),
   ("~", .tilde), ("<<", .leftShift), (">>", .rightShift), ("<", .less), ("<=", .lessEqual),
   (">", .greater), (">=", .greaterEqual), ("==", .equal), ("!=", .notEqual),
   ("+=", .plusEquals), ("-=", .minusEquals), ("*=", .starEquals), ("/=", .slashEquals),
   ("//=", .doubleSlashEquals), ("%=", .percentEquals), ("**=", .doubleStarEquals),
   ("@=", .atEquals), ("|=", .barEquals), ("&=", .ampersandEquals), ("^=", .caretEquals),
   ("<<=", .leftShiftEquals), (">>=", .rightShiftEquals)]

/-- The names that are keywords in some places, and those that once were statements. -/
def names : List (String × Word) :=
  [("_", .underscore), ("case", .softCase), ("match", .softMatch), ("print", .namePrint),
   ("exec", .nameExec)]

/-- All words under their spelling. -/
def spelled : List (Text × Word) :=
  (keywords ++ operators ++ names).map fun e => (Text.ofString e.1, e.2)

/-- The word with a spelling. -/
def ofText (t : Text) : Word := (spelled.lookup t).getD .plain

/-- Whether a word is a keyword everywhere. -/
def isKeyword (w : Word) : Bool := keywords.any fun e => e.2 = w

/-- How a word is spelled. -/
def spelling (w : Word) : String :=
  ((keywords ++ operators ++ names).find? fun e => e.2 = w).elim "" Prod.fst

end Word

end SourceDocs.Source
