import SourceDocs.Pattern.Basic
import SourceDocs.Text.Alphanumeric
import SourceDocs.Text.CharacterName
import SourceDocs.Text.Identifier
import SourceDocs.Text.Lines

/-!
# Reading patterns

`Pattern.read` reads a regular expression from its text.  Options for the whole pattern may only
stand at its beginning.  Faults are found from left to right, one sign ahead of the reader.
-/

namespace SourceDocs.Pattern

/-- Why a text is no pattern. -/
inductive ReadFault where
  | malformed
  /-- A number of repetitions is too large. -/
  | tooLarge
  /-- A number of repetitions has too many digits. -/
  | tooLong
  /-- The options contradict each other. -/
  | contradiction
  /-- An assertion about preceding text goes back too far. -/
  | tooWide
deriving DecidableEq

/-- A character of a pattern, and whether a backslash stands before it. -/
structure Sign where
  char : CodePoint
  escaped : Bool
deriving DecidableEq, Inhabited

/-- Whether a sign is a certain character without backslash. -/
def Sign.is (s : Sign) (c : Char) : Bool := !s.escaped && s.char.toChar = c

/-- The signs of a pattern, and whether a backslash with nothing behind it ends it. -/
def signs : Text → List Sign × Bool
  | [] => ([], false)
  | c :: rest =>
    if c.toChar = '\\' then
      match rest with
      | [] => ([], true)
      | d :: more => (⟨d, true⟩ :: (signs more).1, (signs more).2)
    else (⟨c, false⟩ :: (signs rest).1, (signs rest).2)

/-- What a reader knows about the pattern read so far. -/
structure ReadState where
  rest : List Sign
  /-- A backslash with nothing behind it ends the pattern. -/
  dangling : Bool := false
  /-- The number of the next group. -/
  nextGroup : Nat := 1
  /-- The groups that are closed, with the lengths of their matches. -/
  closed : List (Nat × (Nat × Nat)) := []
  names : List (Text × Nat) := []
  options : PatternOptions := {}
  /-- All scripts were asked for explicitly. -/
  unicode : Bool := false
  /-- The group numbers that conditions refer to. -/
  conditions : List Nat := []
  /-- The number of groups before the assertion about preceding text that is being read. -/
  behindFrom : Option Nat := none

/-- A reader. -/
abbrev Reader := StateT ReadState (Except ReadFault)

/-- Continues from a state. -/
def store (s : ReadState) : Reader Unit := modify fun _ => s

/-- Fails because the pattern is malformed. -/
def malformed {α : Type} : Reader α := throw .malformed

/-- Continues with the signs that are left; a lone backslash is found when it comes next. -/
def continueWith (rest : List Sign) : Reader Unit := do
  let s ← get
  if rest.isEmpty && s.dangling then malformed else store { s with rest := rest }

/-- The next sign, without reading it. -/
def peekSign : Reader (Option Sign) := do return (← get).rest.head?

/-- Reads the next sign. -/
def nextSign : Reader (Option Sign) := do
  let s ← get
  match s.rest with
  | [] => return none
  | c :: rest =>
    continueWith rest
    return some c

/-- Reads the next sign if it is a certain character. -/
def acceptSign (c : Char) : Reader Bool := do
  match ← peekSign with
  | some s =>
    if s.is c then
      let _ ← nextSign
      return true
    else return false
  | none => return false

/-- Reads the next sign, which must be there. -/
def anySign : Reader Sign := do
  match ← nextSign with
  | some s => return s
  | none => malformed

/-- Reads at most so many characters that satisfy a test. -/
def takeSigns (test : Char → Bool) (most : Nat) : Reader (List Char) := do
  let s ← get
  let taken := (s.rest.take most).takeWhile fun g => !g.escaped && test g.char.toChar
  continueWith (s.rest.drop taken.length)
  return taken.map fun g => g.char.toChar

/-- Reads up to a character, which must come and not come first; it is read as well. -/
def takeUntil (c : Char) : Reader Text := do
  let s ← get
  let taken := s.rest.takeWhile fun g => !g.is c
  let behind := s.rest.drop taken.length
  if taken.isEmpty || behind.isEmpty then malformed
  else
    continueWith (behind.drop 1)
    return taken.flatMap fun g => if g.escaped then [CodePoint.ofChar '\\', g.char] else [g.char]

/-! ## Escapes -/

/-- The class that a letter behind a backslash denotes. -/
def classOf? (c : Char) : Option SetItem :=
  match c with
  | 'd' => some (.ofClass .digit false)
  | 'D' => some (.ofClass .digit true)
  | 's' => some (.ofClass .space false)
  | 'S' => some (.ofClass .space true)
  | 'w' => some (.ofClass .word false)
  | 'W' => some (.ofClass .word true)
  | _ => none

/-- The control character that a letter behind a backslash denotes. -/
def controlOf? (c : Char) : Option Nat :=
  match c with
  | 'a' => some 7
  | 't' => some 9
  | 'n' => some 10
  | 'v' => some 11
  | 'f' => some 12
  | 'r' => some 13
  | '\\' => some 92
  | _ => none

/-- The anchor that a letter behind a backslash denotes. -/
def anchorOf? (c : Char) : Option Anchor :=
  match c with
  | 'A' => some .textStart
  | 'b' => some .wordBoundary
  | 'B' => some .noWordBoundary
  | 'Z' => some .textEnd
  | _ => none

/-- Whether a character is an octal digit. -/
def isOctalDigit (c : Char) : Bool := '0' ≤ c && c ≤ '7'

/-- Whether a character is a hexadecimal digit. -/
def isHexDigit (c : Char) : Bool := c.isDigit || ('a' ≤ c && c ≤ 'f') || ('A' ≤ c && c ≤ 'F')

/-- Reads exactly so many hexadecimal digits. -/
def hexNumber (count : Nat) : Reader Nat := do
  let digits ← takeSigns isHexDigit count
  if digits.length = count then return (Text.numeral? 16 digits).getD 0 else malformed

/-- A character given by a number or a name: the escapes that sets and patterns share. -/
def numberedEscape? (c : Char) : Option (Reader Nat) :=
  match c with
  | 'x' => some (hexNumber 2)
  | 'u' => some (hexNumber 4)
  | 'U' => some do
    let n ← hexNumber 8
    if n < 0x110000 then return n else malformed
  | 'N' => some do
    if ← acceptSign '\x7b' then
      match CharacterName.find? (Text.toString (← takeUntil '\x7d')) with
      | some p => return p.val
      | none => malformed
    else malformed
  | _ => none

/-- An octal number of at most 255. -/
def octalValue (digits : List Char) : Reader Nat :=
  let n := (Text.numeral? 8 digits).getD 0
  if 255 < n then malformed else return n

/-- What an escape in a set denotes. -/
def setEscape (p : CodePoint) : Reader SetItem := do
  let c := p.toChar
  match (if c = 'b' then some 8 else controlOf? c), classOf? c, numberedEscape? c with
  | some n, _, _ => return .single n
  | none, some item, _ => return item
  | none, none, some number => return .single (← number)
  | none, none, none =>
    if isOctalDigit c then return .single (← octalValue (c :: (← takeSigns isOctalDigit 2)))
    else if c.isDigit || c.isAlpha then malformed
    else return .single p.val

/-- Refuses a reference to a group that is still open, or that stands in the assertion being
read. -/
def checkReference (n : Nat) : Reader Unit := do
  let s ← get
  match s.behindFrom with
  | none => return
  | some first => if (s.closed.lookup n).isNone || first ≤ n then malformed else return

/-- A reference to a closed group. -/
def referenceTo (n : Nat) : Reader Pattern := do
  match (← get).closed.lookup n with
  | some (least, most) =>
    checkReference n
    return .reference n least most
  | none => malformed

/-- What an escape outside of sets denotes. -/
def escape (p : CodePoint) : Reader Pattern := do
  let c := p.toChar
  match anchorOf? c, classOf? c, controlOf? c, numberedEscape? c with
  | some a, _, _, _ => return .anchor a
  | none, some item, _, _ => return .set false [item]
  | none, none, some n, _ => return .literal n
  | none, none, none, some number => return .literal (← number)
  | none, none, none, none =>
    if c = '0' then
      return .literal ((Text.numeral? 8 (c :: (← takeSigns isOctalDigit 2))).getD 0)
    else if c.isDigit then
      let second ← takeSigns Char.isDigit 1
      match second with
      | [d] =>
        if isOctalDigit c && isOctalDigit d then
          match ← takeSigns isOctalDigit 1 with
          | [e] => return .literal (← octalValue [c, d, e])
          | _ => referenceTo ((Text.numeral? 10 [c, d]).getD 0)
        else referenceTo ((Text.numeral? 10 [c, d]).getD 0)
      | _ => referenceTo ((Text.numeral? 10 [c]).getD 0)
    else if c.isAlpha then malformed
    else return .literal p.val

/-! ## Sets -/

/-- One end of a range, or a whole member of a set. -/
def setMember (s : Sign) : Reader SetItem :=
  if s.escaped then setEscape s.char else return .single s.char.val

/-- The members of a set without those that occur before. -/
def withoutRepeats (items : List SetItem) : List SetItem :=
  items.foldl (fun done item => if done.contains item then done else done ++ [item]) []

/-- The members of a set up to its closing bracket. -/
def setItems : Nat → List SetItem → Reader (List SetItem)
  | 0, _ => malformed
  | fuel + 1, done => do
    let s ← anySign
    if s.is ']' && !done.isEmpty then return done.reverse
    else
      let low ← setMember s
      if ← acceptSign '-' then
        let t ← anySign
        if t.is ']' then return (.single 45 :: low :: done).reverse
        else
          let high ← setMember t
          match low, high with
          | .single a, .single b =>
            if b < a then malformed else setItems fuel (.range a b :: done)
          | _, _ => malformed
      else setItems fuel (low :: done)

/-- A set behind its opening bracket. -/
def readSet : Reader Pattern := do
  let negated ← acceptSign '^'
  let items ← setItems ((← get).rest.length + 1) []
  match withoutRepeats items with
  | [.single n] => return if negated then .notLiteral n else .literal n
  | items => return .set negated items

/-! ## Repetitions -/

/-- Numbers with more digits are not read. -/
def longestNumber : Nat := 4300

/-- A number of repetitions; without digits it is the one given. -/
def repetitions (digits : List Char) (without : Option Nat) : Reader (Option Nat) :=
  let n := (Text.numeral? 10 digits).getD 0
  if digits.isEmpty then return without
  else if longestNumber < digits.length then throw .tooLong
  else if manyTimes ≤ n then throw .tooLarge
  else return some n

/-- The numbers of a repetition in braces; `none` if the brace is an ordinary character. -/
def counts : Reader (Option (Nat × Option Nat)) := do
  let start ← get
  match start.rest with
  | s :: _ =>
    if s.is '\x7d' then return none
    else
      let digits := takeSigns Char.isDigit start.rest.length
      let low ← digits
      let high ← if ← acceptSign ',' then digits else pure low
      if ← acceptSign '\x7d' then
        let least := (← repetitions low (some 0)).getD 0
        let most ← repetitions high none
        if most.any (· < least) then malformed else return some (least, most)
      else
        store start
        return none
  | [] => return none

/-- The numbers of a repetition sign; `none` if it is none. -/
def repetition? (s : Sign) : Reader (Option (Nat × Option Nat)) :=
  if s.is '?' then return some (0, some 1)
  else if s.is '*' then return some (0, none)
  else if s.is '+' then return some (1, none)
  else if s.is '\x7b' then counts
  else return none

/-- Whether a pattern cannot be repeated: an anchor, or a repetition. -/
def isUnrepeatable : Pattern → Bool
  | .anchor _ => true
  | .loop .. => true
  | _ => false

/-- How a repetition chooses its length, by the sign behind it. -/
def repeatMode : Reader RepeatMode := do
  if ← acceptSign '?' then return .lazy
  else if ← acceptSign '+' then return .possessive
  else return .greedy

/-! ## Options -/

/-- The letters of options. -/
def optionOf? (c : Char) : Option OptionChange :=
  match c with
  | 'i' => some { on := { ignoreCase := true } }
  | 'm' => some { on := { multiline := true } }
  | 's' => some { on := { dotAll := true } }
  | 'x' => some { on := { verbose := true } }
  | 'a' => some { ascii := some true }
  | 'u' => some { ascii := some false }
  | 't' => some { on := { plain := true } }
  | _ => none

/-- Both of two sets of options. -/
def bothOptions (a b : PatternOptions) : PatternOptions where
  ignoreCase := a.ignoreCase || b.ignoreCase
  multiline := a.multiline || b.multiline
  dotAll := a.dotAll || b.dotAll
  verbose := a.verbose || b.verbose
  ascii := a.ascii || b.ascii
  plain := a.plain || b.plain

/-- Letters of options that are read one by one; the sign behind them, and whether the letter that
holds for whole patterns only was among them. -/
def optionLetters (ends : List Char) : Nat → Char → OptionChange → Bool →
    Reader (OptionChange × Bool × Char)
  | 0, _, _, _ => malformed
  | fuel + 1, c, done, global =>
    match optionOf? c with
    | none => malformed
    | some change => do
      if change.ascii.isSome && done.ascii.isSome && change.ascii ≠ done.ascii then malformed
      else
        let done : OptionChange :=
          { on := bothOptions done.on change.on, ascii := change.ascii.or done.ascii }
        let global := global || c = 't'
        let s ← anySign
        if s.escaped then malformed
        else if ends.contains s.char.toChar then return (done, global, s.char.toChar)
        else optionLetters ends fuel s.char.toChar done global

/-- Whether two sets of options share one. -/
def overlap (a b : PatternOptions) : Bool :=
  (a.ignoreCase && b.ignoreCase) || (a.multiline && b.multiline) || (a.dotAll && b.dotAll)
    || (a.verbose && b.verbose)

/-- Options behind `(?`: for the whole pattern (`none`), or a change for a group. -/
def readOptions (first : Char) : Reader (Option OptionChange) := do
  let fuel := (← get).rest.length + 1
  let (on, global, last) ← if first = '-' then pure ({}, false, '-')
    else optionLetters [')', '-', ':'] fuel first {} false
  if last = ')' then
    modify fun s =>
      { s with
        options := { on.apply s.options with ascii := s.options.ascii || on.ascii = some true }
        unicode := s.unicode || on.ascii = some false }
    return none
  else if global then malformed
  else if last = '-' then
    let s ← anySign
    if s.escaped then malformed
    else
      let (off, globalOff, _) ← optionLetters [':'] fuel s.char.toChar {} false
      if globalOff || off.ascii.isSome || overlap on.on off.on then malformed
      else return some { on with off := off.on }
  else return some on

/-! ## Patterns -/

/-- Whether a text can name a group. -/
def isGroupName (t : Text) : Bool :=
  match t with
  | [] => false
  | c :: rest => Identifier.isStart c && rest.all Identifier.isContinue

/-- The value of a numeral in digits of any script, with single underscores between digits. -/
def numeralOf? : Bool → List CodePoint → Option Nat → Option Nat
  | _, [], n => n
  | digitBefore, c :: rest, n =>
    if c.toChar = '_' then
      if digitBefore && rest.head?.any CodePoint.isDecimal then numeralOf? false rest n else none
    else
      match c.decimalValue? with
      | some d => numeralOf? true rest (some (n.getD 0 * 10 + d))
      | none => none

/-- The number of a condition's group: blanks may stand around it and a sign before it. -/
def groupNumber? (t : Text) : Option Nat :=
  let t := Lines.trimNumber t
  let (negative, digits) := match t with
    | c :: rest => if c.toChar = '-' then (true, rest)
      else if c.toChar = '+' then (false, rest) else (false, t)
    | [] => (false, [])
  if longestNumber < (digits.filter CodePoint.isDecimal).length then none
  else
    match numeralOf? false digits none with
    | some n => if negative && n ≠ 0 then none else some n
    | none => none

/-- The number of a condition's group, by its name or its number. -/
def conditionGroup (t : Text) : Reader Nat := do
  if isGroupName t then
    match (← get).names.lookup t with
    | some n => return n
    | none => malformed
  else
    match groupNumber? t with
    | some 0 => malformed
    | some n =>
      modify fun s => { s with conditions := n :: s.conditions }
      return n
    | none => malformed

/-- Skips a comment up to its closing bracket. -/
def skipComment : Reader Unit := do
  let s ← get
  match s.rest.dropWhile fun g => !g.is ')' with
  | [] => malformed
  | _ :: rest => continueWith rest

/-- Opens a group. -/
def openGroup (name : Option Text) : Reader Nat := do
  let s ← get
  match name with
  | some t =>
    if (s.names.lookup t).isSome then malformed
    else
      store { s with nextGroup := s.nextGroup + 1, names := (t, s.nextGroup) :: s.names }
      return s.nextGroup
  | none =>
    store { s with nextGroup := s.nextGroup + 1 }
    return s.nextGroup

/-- Closes a group. -/
def closeGroup (n : Nat) (p : Pattern) : Reader Unit :=
  modify fun s => { s with closed := (n, p.width) :: s.closed }

/-- Demands a closing bracket. -/
def closing : Reader Unit := do
  if ← acceptSign ')' then return else malformed

/-- The readers of alternatives and of sequences inside a group, in verbose notation or not. -/
structure InnerReaders where
  alternatives : Bool → Reader Pattern
  sequence : Bool → Reader Pattern

/-- An assertion; what must not match and always does never holds. -/
def lookOf (behind negated : Bool) (p : Pattern) : Pattern :=
  if negated && p = .empty then .never else .look behind negated p

/-- A group of its own kind behind `(`; `none` if it leaves nothing to match. -/
def readGroup (inner : InnerReaders) (verbose atStart : Bool) : Reader (Option Pattern) := do
  let plain (name : Option Text) : Reader (Option Pattern) := do
    let n ← openGroup name
    let p ← inner.alternatives verbose
    closing
    closeGroup n p
    return some (.group n p)
  if !(← acceptSign '?') then plain none
  else
    let s ← anySign
    let c := if s.escaped then '\\' else s.char.toChar
    match c with
    | 'P' =>
      if ← acceptSign '<' then
        let name ← takeUntil '>'
        if isGroupName name then plain (some name) else malformed
      else if ← acceptSign '=' then
        let name ← takeUntil ')'
        if isGroupName name then
          match (← get).names.lookup name with
          | some n => return some (← referenceTo n)
          | none => malformed
        else malformed
      else malformed
    | ':' =>
      let p ← inner.alternatives verbose
      closing
      return some (.scoped {} p)
    | '>' =>
      let p ← inner.alternatives verbose
      closing
      return some (.atomic p)
    | '#' =>
      skipComment
      return none
    | '=' | '!' =>
      let p ← inner.alternatives verbose
      closing
      return some (lookOf false (c = '!') p)
    | '<' =>
      let t ← anySign
      if t.is '=' || t.is '!' then
        let outer := (← get).behindFrom
        modify fun s => { s with behindFrom := outer.or (some s.nextGroup) }
        let p ← inner.alternatives verbose
        modify fun s => { s with behindFrom := outer }
        closing
        return some (lookOf true (t.is '!') p)
      else malformed
    | '(' =>
      let n ← conditionGroup (← takeUntil ')')
      checkReference n
      let yes ← inner.sequence verbose
      let no ← if ← acceptSign '|' then inner.sequence verbose else pure .empty
      -- a second bar is no closing bracket
      closing
      return some (.conditional n yes no)
    | _ =>
      if c = '-' || (optionOf? c).isSome then
        match ← readOptions c with
        | none => if atStart then return none else malformed
        | some change =>
          let p ← inner.alternatives ((verbose || change.on.verbose) && !change.off.verbose)
          closing
          return some (.scoped change p)
      else malformed

/-- Whether a character is skipped in verbose notation. -/
def isLayout (c : Char) : Bool := c = ' ' || ('\t' ≤ c && c ≤ '\r')

/-- A sequence of items up to a bar, a closing bracket or the end.  `done` holds the items read so
far, last first; `first` tells whether options for the whole pattern may still come. -/
def readSequence (inner : InnerReaders) (top first : Bool) :
    Nat → Bool → List Pattern → Reader (List Pattern)
  | 0, _, done => return done
  | fuel + 1, verbose, done => do
    match ← peekSign with
    | none => return done
    | some s =>
      if s.is '|' || s.is ')' then return done
      else
        let _ ← nextSign
        let c := s.char.toChar
        if s.escaped then readSequence inner top first fuel verbose ((← escape s.char) :: done)
        else if verbose && isLayout c then readSequence inner top first fuel verbose done
        else if verbose && c = '#' then
          continueWith (((← get).rest.dropWhile fun g => !g.is '\n').drop 1)
          readSequence inner top first fuel verbose done
        else if c = '[' then readSequence inner top first fuel verbose ((← readSet) :: done)
        else if c = '.' then readSequence inner top first fuel verbose (.any :: done)
        else if c = '^' then readSequence inner top first fuel verbose (.anchor .lineStart :: done)
        else if c = '$' then readSequence inner top first fuel verbose (.anchor .lineEnd :: done)
        else if c = '(' then
          match ← readGroup inner verbose (first && done.isEmpty) with
          | some p => readSequence inner top first fuel verbose (p :: done)
          | none =>
            let options := (← get).options
            let verbose := if top then verbose || options.verbose else verbose
            readSequence inner top first fuel verbose done
        else
          match ← repetition? s with
          | none =>
            if c = '?' || c = '*' || c = '+' then malformed
            else readSequence inner top first fuel verbose (.literal s.char.val :: done)
          | some (least, most) =>
            match done with
            | [] => malformed
            | item :: before =>
              if isUnrepeatable item then malformed
              else
                let mode ← repeatMode
                let body := match item with
                  | .scoped change p => if change.isNone then p else item
                  | item => item
                readSequence inner top first fuel verbose (.loop least most mode body :: before)

/-- The items of a sequence, given last first, where a group without a purpose is dissolved. -/
def sequenceOf (done : List Pattern) : List Pattern :=
  done.reverse.flatMap fun item =>
    match item with
    | .scoped change p => if change.isNone then p.items else [item]
    | item => [item]

/-- The leaves that all of several alternatives begin with, and what is left of them. -/
def commonStart : Nat → List (List Pattern) → List Pattern × List (List Pattern)
  | 0, alternatives => ([], alternatives)
  | fuel + 1, alternatives =>
    match alternatives with
    | (item :: _) :: others =>
      if item.isLeaf && others.all fun a => a.head? = some item then
        let (start, rest) := commonStart fuel (alternatives.map fun a => a.drop 1)
        (item :: start, rest)
      else ([], alternatives)
    | _ => ([], alternatives)

/-- The members of a set that has the characters of an alternative. -/
def membersOf? : List Pattern → Option (List SetItem)
  | [.literal n] => some [.single n]
  | [.set false items] => some items
  | _ => none

/-- A choice between alternatives: what they begin with stands before it, and single characters
become a set. -/
def choiceOf : List (List Pattern) → Pattern
  | [items] => ofItems items
  | alternatives =>
    let longest := alternatives.foldl (fun n a => max n a.length) 0
    let (start, alternatives) := commonStart longest alternatives
    let choice := match alternatives.mapM membersOf? with
      | some members => .set false (withoutRepeats members.flatten)
      | none => ofAlternatives (alternatives.map ofItems)
    ofItems (start ++ [choice])

/-- Alternatives with bars between them. -/
def readAlternatives (inner : InnerReaders) (top : Bool) :
    Nat → Bool → Bool → Reader (List (List Pattern))
  | 0, _, _ => malformed
  | fuel + 1, verbose, first => do
    let length := (← get).rest.length
    let p ← readSequence inner top first (length + 1) verbose []
    if ← acceptSign '|' then
      let options := (← get).options
      let verbose := if top then verbose || options.verbose else verbose
      return sequenceOf p :: (← readAlternatives inner top fuel verbose false)
    else return [sequenceOf p]

/-- The readers inside groups that nest at most so deep. -/
def innerReaders : Nat → InnerReaders
  | 0 => ⟨fun _ => malformed, fun _ => malformed⟩
  | depth + 1 =>
    let inner := innerReaders depth
    { alternatives := fun verbose => do
        let s ← get
        return choiceOf (← readAlternatives inner false (s.rest.length + 1) verbose false)
      sequence := fun verbose => do
        let s ← get
        let items ← readSequence inner false false (s.rest.length + 1) verbose []
        return ofItems (sequenceOf items) }

/-- A pattern with its options and the number of its groups. -/
structure Reading where
  pattern : Pattern
  options : PatternOptions
  groups : Nat

/-- Reads a pattern. -/
def read (t : Text) : Except ReadFault Reading := do
  let (rest, dangling) := signs t
  if rest.isEmpty && dangling then throw .malformed
  let inner := innerReaders (rest.length + 1)
  let start : ReadState := { rest := rest, dangling := dangling }
  let (alternatives, s) ← (readAlternatives inner true (rest.length + 1) false true).run start
  if s.options.ascii && s.unicode then throw .contradiction
  else if !s.rest.isEmpty then throw .malformed
  else if s.conditions.any fun n => s.nextGroup ≤ n then throw .malformed
  else return ⟨choiceOf alternatives, s.options, s.nextGroup - 1⟩

end SourceDocs.Pattern
