import SourceDocs.Text.Alphanumeric
import SourceDocs.Text.Quoted

/-!
# Options of the command line

An option has a short name, a long one, or both; a long one may be shortened as long as it stays
unique.  A value stands behind an option, or is joined to it.  `parse` reads the arguments.
-/

namespace SourceDocs.CommandLine

/-- The options. -/
inductive Opt where
  | help
  | config
  | verbose
  | logFile
deriving DecidableEq

namespace Opt

/-- The names of the options in the order of their definition. -/
def table : List (String × Opt) :=
  [("-h", .help), ("--help", .help), ("-c", .config), ("--config", .config), ("-v", .verbose),
   ("--verbose", .verbose), ("--log-file", .logFile)]

/-- The option with a name. -/
def ofName? (t : Text) : Option Opt := (table.find? fun e => t.isString e.1).map Prod.snd

/-- The names of an option in messages. -/
def title (o : Opt) : String := "/".intercalate ((table.filter fun e => e.2 = o).map Prod.fst)

/-- Whether an option has a value. -/
def hasValue : Opt → Bool
  | .config | .logFile => true
  | .help | .verbose => false

end Opt

/-- The value of an option. -/
inductive OptionValue where
  | text (t : Text)
  /-- Two dashes are joined to the option; they stand for no value at all. -/
  | nothing
deriving DecidableEq

/-- The value that a text gives an option. -/
def OptionValue.ofText (t : Text) : OptionValue := if t.isString "--" then .nothing else .text t

/-- The text of a value, if there is one. -/
def OptionValue.text? : OptionValue → Option Text
  | .text t => some t
  | .nothing => none

/-- What the command line asks for. -/
structure Request where
  config : OptionValue := .text (Text.ofString ".docharvest.yml")
  verbose : Bool := false
  logFile : Option OptionValue := none

/-- Why a command line is refused. -/
inductive UsageFault where
  | ambiguous (argument : Text) (matching : List String)
  | noValue (o : Opt)
  | ignoredValue (o : Opt) (value : Text)
  | unrecognized (arguments : List Text)

/-- The text of a usage fault. -/
def UsageFault.message : UsageFault → Text
  | .ambiguous a names =>
    Text.ofString "ambiguous option: " ++ a
      ++ Text.ofString (" could match " ++ ", ".intercalate names)
  | .noValue o => Text.ofString ("argument " ++ o.title ++ ": expected one argument")
  | .ignoredValue o v =>
    Text.ofString ("argument " ++ o.title ++ ": ignored explicit argument ") ++ Quoted.text v
  | .unrecognized args =>
    Text.ofString "unrecognized arguments: " ++ Text.join (Text.ofChar ' ') args

/-- How an argument is understood before its turn comes. -/
inductive Argument where
  /-- An option, its name as it is written, and the value joined to it. -/
  | option (o : Opt) (name : Text) (value : Option Text)
  | unknownOption (t : Text)
  | plain (t : Text)
  /-- Two dashes, behind which all arguments are plain. -/
  | divider

/-- A text cut at its first equal sign. -/
def cutAtEquals (t : Text) : Option (Text × Text) :=
  let isEquals (c : CodePoint) : Bool := c.toChar = '='
  if t.any isEquals then
    some (t.takeWhile fun c => !isEquals c, (t.dropWhile fun c => !isEquals c).drop 1)
  else none

/-- The options that an argument could be a shortened form of, with the values joined to it. -/
def shortened (t : Text) : List (String × Opt × Option Text) :=
  if (Text.ofString "--").isPrefixOf t then
    let (start, value) := match cutAtEquals t with
      | some (a, b) => (a, some b)
      | none => (t, none)
    (Opt.table.filter fun e => start.isPrefixOf (Text.ofString e.1)).map fun e => (e.1, e.2, value)
  else
    Opt.table.filterMap fun e =>
      if Text.isString (t.take 2) e.1 then some (e.1, e.2, some (t.drop 2))
      else if t.isPrefixOf (Text.ofString e.1) then some (e.1, e.2, none)
      else none

/-- A text without one line end at its end. -/
def withoutLineEnd (t : Text) : Text :=
  if t.getLast? = some (CodePoint.ofChar '\n') then t.dropLast else t

/-- Whether a text is a negative number, whatever script its digits belong to; a line end may
follow. -/
def isNegativeNumber (t : Text) : Bool :=
  let isDigit (c : CodePoint) : Bool := c.decimalValue?.isSome
  match withoutLineEnd t with
  | [] => false
  | sign :: rest =>
    let whole := rest.takeWhile isDigit
    sign.toChar = '-' &&
      match rest.drop whole.length with
      | [] => !whole.isEmpty
      | point :: fraction => point.toChar = '.' && !fraction.isEmpty && fraction.all isDigit

/-- Understands one argument. -/
def classify (t : Text) : Except UsageFault Argument :=
  let joined : Option Argument := do
    let (name, value) ← cutAtEquals t
    let o ← Opt.ofName? name
    return .option o name (some value)
  if t.head? ≠ some (CodePoint.ofChar '-') then .ok (.plain t)
  else
    match Opt.ofName? t, joined with
    | some o, _ => .ok (.option o t none)
    | none, some a => .ok a
    | none, none =>
      if t.length = 1 then .ok (.plain t)
      else
        match shortened t with
        | [(name, o, value)] => .ok (.option o (Text.ofString name) value)
        | [] =>
          if isNegativeNumber t || t.any (· = CodePoint.ofChar ' ') then .ok (.plain t)
          else .ok (.unknownOption t)
        | several => .error (.ambiguous t (several.map Prod.fst))

/-- Understands all arguments. -/
def classifyAll : List Text → Except UsageFault (List Argument)
  | [] => .ok []
  | t :: rest =>
    if t.isString "--" then .ok (.divider :: rest.map .plain)
    else do return (← classify t) :: (← classifyAll rest)

/-- The text of an argument that is no option. -/
def Argument.text : Argument → Text
  | .plain t | .unknownOption t => t
  | .option _ name _ => name
  | .divider => Text.ofString "--"

/-- The value behind an option: the next argument, if it is plain. -/
def takeValue : List Argument → Option (Text × List Argument)
  | .plain t :: rest => some (t, rest)
  | _ => none

/-- The options in one argument: flags may be joined, the last one with a value.  `fuel` bounds
their number. -/
def joinedOptions : Nat → Opt → Text → Option Text →
    Except UsageFault (List Opt × Opt × Option Text)
  | 0, o, _, value => .ok ([], o, value)
  | fuel + 1, o, name, value =>
    match value with
    | none => .ok ([], o, none)
    | some v =>
      if o.hasValue then .ok ([], o, some v)
      else
        let isLong := (name.drop 1).head? = some (CodePoint.ofChar '-')
        match v with
        | [] => .error (.ignoredValue o v)
        | c :: more =>
          let next : Text := [CodePoint.ofChar '-', c]
          match if isLong then none else Opt.ofName? next with
          | some o' => do
            let rest : Option Text := if more.isEmpty then none else some more
            let (flags, last, value) ← joinedOptions fuel o' next rest
            return (o :: flags, last, value)
          | none => .error (.ignoredValue o v)

/-- What a command line amounts to. -/
inductive Command where
  | help
  | run (r : Request)

/-- What was read so far: the request, and the arguments that nothing can be done with. -/
structure Progress where
  request : Request := {}
  extras : List Text := []
  /-- Help was asked for; nothing behind that counts. -/
  wantsHelp : Bool := false

/-- Takes note of a flag. -/
def Progress.flag (p : Progress) (o : Opt) : Progress :=
  match o with
  | .help => { p with wantsHelp := true }
  | .verbose => { p with request := { p.request with verbose := true } }
  | _ => p

/-- Takes note of an option with a value. -/
def Progress.value (p : Progress) (o : Opt) (v : Text) : Progress :=
  match o with
  | .config => { p with request := { p.request with config := .ofText v } }
  | .logFile => { p with request := { p.request with logFile := some (.ofText v) } }
  | _ => p

/-- Reads arguments one after the other. -/
def consume : Nat → List Argument → Progress → Except UsageFault Progress
  | 0, _, p => .ok p
  | _, [], p => .ok p
  | fuel + 1, a :: rest, p => do
    if p.wantsHelp then return p
    else
      match a with
      | .option o name value =>
        let (flags, last, value) ← joinedOptions (value.elim 1 fun v => v.length + 1) o name value
        if last.hasValue then
          match value with
          | some v => consume fuel rest ((flags.foldl Progress.flag p).value last v)
          | none =>
            match takeValue rest with
            | some (v, rest) => consume fuel rest ((flags.foldl Progress.flag p).value last v)
            | none => throw (.noValue last)
        else consume fuel rest ((flags ++ [last]).foldl Progress.flag p)
      | a => consume fuel rest { p with extras := p.extras ++ [a.text] }

/-- Reads a command line. -/
def parse (args : List Text) : Except UsageFault Command := do
  let arguments ← classifyAll args
  let p ← consume (arguments.length + 1) arguments {}
  if p.wantsHelp then return .help
  else if p.extras.isEmpty then return .run p.request
  else throw (.unrecognized p.extras)

/-- How the program is called. -/
def usage : Text :=
  Text.ofString "usage: docharvest [-h] [-c CONFIG] [-v] [--log-file LOG_FILE]\n"

/-- The help text. -/
def helpText : Text :=
  usage ++ Text.ofString (String.join [
    "\nExtract documentation records and AST dumps from a source tree.\n",
    "\noptions:\n",
    "  -h, --help            show this help message and exit\n",
    "  -c CONFIG, --config CONFIG\n",
    "                        Path to the configuration file or its directory\n",
    "                        (defaults to ./.docharvest.yml).\n",
    "  -v, --verbose         Increase log verbosity for troubleshooting.\n",
    "  --log-file LOG_FILE   Also write log output to this file.\n"])

end SourceDocs.CommandLine
