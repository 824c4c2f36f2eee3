import SourceDocs.Pattern.Program

/-!
# Matching patterns

A program is matched by trying its ways in order until one of them lets the rest match as well.
The marks that a try leaves behind are given up when it fails, wholly inside of a repetition and
otherwise only those beyond the last mark that was set before.  `Program.search` tells whether a
program matches somewhere in a text.
-/

namespace SourceDocs.Program

/-- What tries share. -/
structure Trail where
  /-- The places of the marks, up to the last one that is set. -/
  marks : List (Option Nat) := []
  /-- The place that was reached last. -/
  reached : Nat := 0

/-- A try: it tells whether it succeeds. -/
abbrev Try := StateM Trail Bool

/-- Remembers the place that was reached. -/
def reach (place : Nat) : StateM Trail Unit := modify fun t => { t with reached := place }

/-- Sets a mark; those before it that were never set stay unknown. -/
def setMark (n place : Nat) : StateM Trail Unit :=
  modify fun t =>
    let padded := t.marks ++ List.replicate (n + 1 - t.marks.length) none
    { t with marks := padded.set n (some place) }

/-- Goes back to the marks of an earlier time, or gives up only those beyond its last one. -/
def restore (wholly : Bool) (marks : List (Option Nat)) : StateM Trail Unit :=
  modify fun t => { t with marks := if wholly then marks else t.marks.take marks.length }

/-- The text of a group, by its places. -/
def groupPlaces? (t : Trail) (n : Nat) : Option (Nat × Nat) :=
  match t.marks[Pattern.startMark n]?, t.marks[Pattern.endMark n]? with
  | some (some first), some (some last) => if last < first then none else some (first, last)
  | _, _ => none

/-- Tries several ways from the same marks, and tells whether one of them succeeds. -/
def firstOf {α : Type} (wholly : Bool) (ways : List α) (run : α → Try) : Try := do
  let marks := (← get).marks
  ways.foldr (fun way others => do
    if ← run way then return true
    else
      restore wholly marks
      others) (return false)

/-! ## Characters and places -/

/-- Whether the character at a place passes a test. -/
def testAt (s : Array CodePoint) (place : Nat) (t : CharTest) : Bool := s[place]?.any t.accepts

/-- How many characters in a row pass a test, but at most so many. -/
def countFrom (s : Array CodePoint) (t : CharTest) : Nat → Nat → Nat
  | 0, _ => 0
  | most + 1, place => if testAt s place t then countFrom s t most (place + 1) + 1 else 0

/-- Whether a word character stands at a place. -/
def wordAt (s : Array CodePoint) (ascii : Bool) (place : Nat) : Bool :=
  s[place]?.any (CharClass.word.contains ascii)

/-- Whether a line ends at a place. -/
def isBreakAt (s : Array CodePoint) (place : Nat) : Bool :=
  s[place]? = some (CodePoint.ofChar '\n')

/-- Whether words are on both sides of a place, or on none. -/
def isInside (s : Array CodePoint) (ascii : Bool) (place : Nat) : Bool :=
  (0 < place && wordAt s ascii (place - 1)) = wordAt s ascii place

/-- Whether a place satisfies an anchor. -/
def holdsAt (s : Array CodePoint) (place : Nat) (multiline ascii : Bool) : Anchor → Bool
  | .textStart => place = 0
  | .textEnd => place = s.size
  | .lineStart => place = 0 || (multiline && isBreakAt s (place - 1))
  | .lineEnd =>
    place = s.size || (isBreakAt s place && (multiline || place + 1 = s.size))
  | .wordBoundary => s.size ≠ 0 && !isInside s ascii place
  | .noWordBoundary => s.size ≠ 0 && isInside s ascii place

/-- Whether the characters between two places stand at a third one as well. -/
def repeatsAt (s : Array CodePoint) (f : Folding) (first last place : Nat) : Bool :=
  (List.range (last - first)).all fun i =>
    match s[first + i]?, s[place + i]? with
    | some c, some d => f.lower c.val = f.lower d.val
    | _, _ => false

/-- Whether an alternative may match: what begins with a plain character is looked at first. -/
def mayStart (s : Array CodePoint) (place : Nat) : List Step → Bool
  | .char t :: _ => t.form = .other || t.folding ≠ .none || testAt s place t
  | _ => true

/-- The plain character that steps begin with. -/
def plainStart? : List Step → Option CharTest
  | .char t :: _ => if t.form = .literal then some t else none
  | _ => none

/-- Whether counting characters moves the place that was reached. -/
def movesWhileCounting (t : CharTest) : Bool := t.form = .set && t.folding ≠ .none

/-! ## Matching -/

/-- A repetition: its bounds, its body and what follows it. -/
structure Round where
  least : Nat
  most : Option Nat
  lazy : Bool
  body : List Step
  /-- The repetition stands in another one. -/
  inner : Bool
  after : Nat → Try

/-- Whether a number of rounds may still grow. -/
def mayGrow (count : Nat) (most : Option Nat) : Bool := most.all (count < ·)

/-- Ends a try. -/
def finish (place : Nat) : Try := do
  reach place
  return true

/-- Repeats a character as often as possible, then less often. -/
def unitsGreedy (s : Array CodePoint) (inner : Bool) (place least : Nat) (most : Option Nat)
    (t : CharTest) (rest : List Step) (go : Nat → Try) : Try := do
  let count := countFrom s t (min (s.size - place) (most.getD s.size)) place
  if movesWhileCounting t then reach (place + count)
  if count < least then return false
  else
    let counts := (List.range (count - least + 1)).map (count - ·)
    let counts := match plainStart? rest with
      | some next => counts.filter fun n => testAt s (place + n) next
      | none => counts
    firstOf inner counts fun n => do
      reach (place + n)
      go (place + n)

/-- Repeats a character as rarely as possible, then more often. -/
def unitsLazy (s : Array CodePoint) (inner : Bool) (place least : Nat) (most : Option Nat)
    (t : CharTest) (go : Nat → Try) : Try := do
  let first := countFrom s t (min (s.size - place) least) place
  if movesWhileCounting t then reach (place + first)
  if first < least then return false
  else
    let count := countFrom s t (min (s.size - place) (most.getD s.size)) place
    let counts := (List.range (count + 1 - least)).map (least + ·)
    firstOf inner counts fun n => do
      reach (place + n)
      if ← go (place + n) then return true
      else
        reach (place + n + if movesWhileCounting t && testAt s (place + n) t then 1 else 0)
        return false

/-- Repeats a character as often as possible. -/
def unitsPossessive (s : Array CodePoint) (place least : Nat) (most : Option Nat) (t : CharTest)
    (go : Nat → Try) : Try := do
  let count := countFrom s t (min (s.size - place) (most.getD s.size)) place
  if movesWhileCounting t then reach (place + count)
  if count < least then return false else go (place + count)

mutual

/-- Matches steps at a place so that `k` accepts the place behind them; `inner` tells whether they
stand in a repetition, and `fuel` bounds the number of steps that are matched one inside the
other. -/
def run (s : Array CodePoint) :
    Nat → List Step → Bool → Nat → (Nat → Try) → Try
  | 0, _, _, _, _ => return false
  | _ + 1, [], _, place, k => k place
  | fuel + 1, step :: rest, inner, place, k =>
    let go (place : Nat) : Try := run s fuel rest inner place k
    match step with
    | .never => return false
    | .char t => if testAt s place t then go (place + 1) else return false
    | .mark n => do
      setMark n place
      go place
    | .place a multiline ascii =>
      if holdsAt s place multiline ascii a then go place else return false
    | .branch alternatives =>
      firstOf inner (alternatives.filter (mayStart s place)) fun alternative => do
        reach place
        run s fuel alternative inner place go
    | .units least most mode t =>
      if s.size - place < least then return false
      else do
        reach place
        match mode with
        | .greedy => unitsGreedy s inner place least most t rest go
        | .lazy => unitsLazy s inner place least most t go
        | .possessive => unitsPossessive s place least most t go
    | .loop least most .possessive body => do
      reach place
      if ← possess s fuel body inner least most true then go (← get).reached
      else
        reach place
        return false
    | .loop least most mode body => do
      reach place
      let round : Round :=
        { least := least, most := most, lazy := mode = .lazy, body := body, inner := inner
          after := go }
      again s fuel round 0 none place
    | .atomic body => do
      reach place
      if ← run s fuel body inner place finish then go (← get).reached
      else
        reach place
        return false
    | .look back negated body =>
      if place < back then (if negated then go place else return false)
      else do
        reach (place - back)
        let marks := (← get).marks
        let found ← run s fuel body inner (place - back) finish
        if found = negated then return false
        else
          if negated then restore inner marks
          go place
    | .reference n f => do
      match groupPlaces? (← get) n with
      | some (first, last) =>
        if repeatsAt s f first last place then go (place + (last - first)) else return false
      | none => return false
    | .conditional n yes no => do
      if (groupPlaces? (← get) n).isSome then
        if no.isEmpty then run s fuel (yes ++ rest) inner place k
        else run s fuel yes inner place go
      else run s fuel (no ++ rest) inner place k

/-- Goes on with a repetition after a number of rounds, the last one of them that was not forced
having begun at `last`: a round that matches nothing is the last one. -/
def again (s : Array CodePoint) :
    Nat → Round → Nat → Option Nat → Nat → Try
  | 0, _, _, _, _ => return false
  | fuel + 1, r, count, last, place => do
    let another (last : Option Nat) : Try :=
      run s fuel r.body true place fun place => again s fuel r (count + 1) last place
    reach place
    let marks := (← get).marks
    if count < r.least then
      if ← another last then return true
      else
        reach place
        return false
    else if r.lazy then
      if ← r.after place then return true
      else
        restore r.inner marks
        reach place
        if mayGrow count r.most && last ≠ some place then
          if ← another (some place) then return true
          else
            reach place
            return false
        else return false
    else
      let more ← if mayGrow count r.most && last ≠ some place then another (some place)
        else pure false
      if more then return true
      else
        if mayGrow count r.most && last ≠ some place then restore true marks
        reach place
        if ← r.after place then return true
        else
          reach place
          return false

/-- Repeats steps as often as possible with no way back, first as often as `least` says.  A round
that fails, or that matches nothing, is the last one. -/
def possess (s : Array CodePoint) :
    Nat → List Step → Bool → Nat → Option Nat → Bool → Try
  | 0, _, _, _, _, _ => return false
  | fuel + 1, body, inner, least, most, moved => do
    let t ← get
    if 0 < least then
      if ← run s fuel body inner t.reached finish then
        possess s fuel body inner (least - 1) (most.map (· - 1)) true
      else return false
    else if mayGrow 0 most && moved then
      if ← run s fuel body inner t.reached finish then
        let moved := (← get).reached ≠ t.reached
        possess s fuel body inner 0 (most.map (· - 1)) moved
      else
        restore true t.marks
        return true
    else return true

end

/-! ## Searching -/

/-- Whether the marks of a group have changed their order. -/
def isCrossed (t : Trail) (n : Nat) : Bool :=
  match t.marks[Pattern.startMark n]?, t.marks[Pattern.endMark n]? with
  | some (some first), some (some last) => last < first
  | _, _ => false

/-- What a search finds. -/
inductive Finding where
  | nothing
  | found
  /-- A match with a group that ends before it starts. -/
  | crossed
deriving DecidableEq

/-- What a try at a place finds; `fuel` bounds the steps that are matched one inside the other. -/
def findAt (p : Program) (fuel : Nat) (s : Array CodePoint) (place : Nat) : Finding :=
  let (found, t) := (run s fuel p.steps false place finish).run { reached := place }
  if !found then .nothing
  else if (List.range p.groups).any fun n => isCrossed t (n + 1) then .crossed
  else .found

/-- Whether steps begin with a character that is looked for at once. -/
def startsPlainly : List Step → Bool
  | .char t :: _ => t.form ≠ .other && t.folding = .none
  | .mark _ :: rest => startsPlainly rest
  | .branch alternatives :: _ => alternatives.all fun a => (plainStart? a).isSome
  | _ => false

/-- The last place where a match may begin. -/
def lastStart (p : Program) (s : Array CodePoint) : Nat :=
  if startsPlainly p.steps then s.size else s.size - (p.least - 1)

/-- Looks for a match of a program in a text: the first place with one decides. -/
def search (p : Program) (t : Text) : Finding :=
  let s := t.toArray
  if s.size < p.least then .nothing
  else
    let fuel := p.pattern.depth s.size + 1
    ((List.range (p.lastStart s + 1)).findSome? fun place =>
      match p.findAt fuel s place with
      | .nothing => none
      | finding => some finding).getD .nothing

/-- Whether a program matches somewhere in a text. -/
def occursIn (p : Program) (t : Text) : Bool := p.search t ≠ .nothing

end SourceDocs.Program
