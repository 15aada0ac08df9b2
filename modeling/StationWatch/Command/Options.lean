import StationWatch.Decimal.Numeral
import StationWatch.Log

/-!
# Options of the command line

Options have long names, of which a beginning that fits no other option is enough.  A value follows
as the next word or after an equals sign.  A word that starts with a dash is a value only if it
reads as a negative number or holds a space.  After two dashes every word is a value, and a value
that belongs to no option is refused.

## Main definitions

* `Options` — what the options say.
* `Flag`, `Word` — the options, and words sorted by what they are.
* `Ending` — why the program ends before it has begun.
* `Options.parse` — the options of a command line.

## References

`SPEC_FULL.md`, section 10.6.
-/

namespace StationWatch.Command

/-- What the options say. -/
structure Options where
  location : Option RawText := none
  baseUrl : Option RawText := none
  /-- Seconds between cycles. -/
  interval : Option Int := none
  /-- The time limit of a request in seconds. -/
  timeout : Option Float := none
  stationName : Option RawText := none
  nearest : Bool := false
  /-- The names of the measurements, with commas between them. -/
  measurements : Option RawText := none
  once : Bool := false
  /-- The least level of entries that are written. -/
  logLevel : Level := .info
  deriving Repr, Inhabited

/-- The options. -/
inductive Flag
  | help
  | location
  | baseUrl
  | interval
  | timeout
  | stationName
  | nearest
  | measurements
  | once
  | logLevel
  | version
  deriving DecidableEq, Repr, Inhabited

namespace Flag

/-- The long names. -/
def longNames : List (String × Flag) :=
  [("--help", .help), ("--location", .location), ("--base-url", .baseUrl),
   ("--interval", .interval), ("--timeout", .timeout), ("--station-name", .stationName),
   ("--nearest", .nearest), ("--measurements", .measurements), ("--once", .once),
   ("--log-level", .logLevel), ("--version", .version)]

/-- Whether an option has a value. -/
def takesValue : Flag → Bool
  | .help | .nearest | .once | .version => false
  | _ => true

end Flag

/-- Why the program ends before it has begun. -/
inductive Ending
  | usage
  | help
  | version
  deriving DecidableEq, Repr, Inhabited

/-- The version of the program. -/
def programVersion : String := "0.1.0"

/-- The exit code. -/
def Ending.code : Ending → Nat
  | .usage => 2
  | .help => 0
  | .version => 0

/-- What is written before the program ends. -/
def Ending.output : Ending → String
  | .version => programVersion ++ "\n"
  | .help => "options: " ++ " ".intercalate (Flag.longNames.map Prod.fst) ++ "\n"
  | .usage => ""

/-- A word of the command line. -/
inductive Word
  | value (text : RawText)
  /-- The two dashes after which all words are values. -/
  | separator
  /-- An option with the value attached to it, if any. -/
  | known (flag : Flag) (attached : Option RawText)
  /-- The short form of the option for help, with what is attached to it. -/
  | shortHelp (attached : Option RawText)
  | unknown
  deriving DecidableEq, Repr, Inhabited

/-- Characters before the first equals sign, and what follows it, if there is one. -/
def cutEquals (cs : List Char) : List Char × Option (List Char) :=
  match cs.dropWhile (· != '=') with
  | [] => (cs, none)
  | _ :: value => (cs.takeWhile (· != '='), some value)

/-- The name that a word begins with, up to its first equals sign, and what follows that sign.  A
name has no half in it. -/
def splitEquals : RawText → Option (String × Option RawText)
  | .whole s =>
    let (name, value) := cutEquals s.toList
    some (String.ofList name, value.map fun value => .whole (String.ofList value))
  | .broken front half rest =>
    let (name, value) := cutEquals front.toList
    value.map fun value => (String.ofList name, some (.broken (String.ofList value) half rest))

/-- Whether a word reads as a negative number: a dash and digits, with at most one point that has
digits after it.  A line feed at the end does not count. -/
def looksNegative (word : RawText) : Bool :=
  match word.characters?.map String.toList with
  | some ('-' :: cs) =>
    let cs := if cs.getLast? = some '\n' then cs.dropLast else cs
    let isDigit := fun c => (Text.digitValue? c).isSome
    match cs.dropWhile isDigit with
    | [] => !cs.isEmpty
    | '.' :: places => !places.isEmpty && places.all isDigit
    | _ => false
  | _ => false

/-- The options whose long name starts with a text. -/
def candidates (start : String) : List Flag :=
  (Flag.longNames.filter fun entry => start.toList.isPrefixOf entry.1.toList).map Prod.snd

/-- A word with a dash in front that names no option: a value if it looks like one. -/
def otherWord (word : RawText) : Word :=
  if looksNegative word || word.chars.contains ' ' then .value word else .unknown

/-- The option of a name or of the beginning of one, with what is attached to it. -/
def namedWord (word : RawText) (name : String) (attached : Option RawText) : Except Ending Word :=
  match Flag.longNames.lookup name with
  | some flag => .ok (.known flag attached)
  | none =>
    match candidates name with
    | [] => .ok (otherWord word)
    | [flag] => .ok (.known flag attached)
    | _ => .error .usage

/-- The option that a word with two dashes in front names. -/
def longWord (word : RawText) : Except Ending Word :=
  match splitEquals word with
  | some (name, attached) => namedWord word name attached
  | none => .ok (otherWord word)

/-- The option that a word with one dash in front names. -/
def shortWord (word : RawText) : Word :=
  match word.dropPrefix? ['-', 'h'] with
  | none => otherWord word
  | some rest =>
    if rest.isEmpty then .shortHelp none
    else .shortHelp (some ((rest.dropPrefix? ['=']).getD rest))

/-- A word sorted by what it is. -/
def sortWord (word : RawText) : Except Ending Word :=
  if word = "-" then .ok (.value word)
  else if (word.dropPrefix? ['-', '-']).isSome then longWord word
  else if (word.dropPrefix? ['-']).isSome then .ok (shortWord word)
  else .ok (.value word)

/-- All words sorted; after the separator every word is a value. -/
def sortWords : List RawText → Except Ending (List Word)
  | [] => .ok []
  | word :: rest =>
    if word = "--" then .ok (.separator :: rest.map .value)
    else
      match sortWord word with
      | .error ending => .error ending
      | .ok sorted => (sortWords rest).map (sorted :: ·)

namespace Options

/-- What the options say once one of them got a value. -/
def setValue (o : Options) (flag : Flag) (text : RawText) : Except Ending Options :=
  match flag with
  | .location => .ok { o with location := some text }
  | .baseUrl => .ok { o with baseUrl := some text }
  | .stationName => .ok { o with stationName := some text }
  | .measurements => .ok { o with measurements := some text }
  | .interval =>
    match text.integer? with
    | some n => .ok { o with interval := some n }
    | none => .error .usage
  | .timeout =>
    match text.real? with
    | some x => .ok { o with timeout := some x }
    | none => .error .usage
  | .logLevel =>
    match text.characters?.bind Level.ofText? with
    | some level => .ok { o with logLevel := level }
    | none => .error .usage
  | _ => .error .usage

/-- What the options say once one without a value is given. -/
def setFlag (o : Options) : Flag → Except Ending Options
  | .nearest => .ok { o with nearest := true }
  | .once => .ok { o with once := true }
  | .help => .error .help
  | .version => .error .version
  | _ => .error .usage

/-- The options in sorted words, after those that are given.  `refused` says that a word was met
that belongs to no option. -/
def ofWords (o : Options) (refused : Bool) : List Word → Except Ending Options
  | [] => if refused then .error .usage else .ok o
  | .value _ :: rest => ofWords o true rest
  | .separator :: rest => ofWords o true rest
  | .unknown :: rest => ofWords o true rest
  | .shortHelp attached :: _ =>
    match attached with
    | none => .error .help
    | some text =>
      if (text.characters?.filter fun s => !s.isEmpty && s.toList.all (· == 'h')).isSome then
        .error .help
      else .error .usage
  | .known flag (some text) :: rest =>
    if flag.takesValue then
      match setValue o flag text with
      | .ok o => ofWords o refused rest
      | .error ending => .error ending
    else .error .usage
  | [.known flag none] =>
    match setFlag o flag with
    | .ok o => if refused then .error .usage else .ok o
    | .error ending => .error ending
  | .known flag none :: next :: rest =>
    if flag.takesValue then
      match next with
      | .value text =>
        match setValue o flag text with
        | .ok o => ofWords o refused rest
        | .error ending => .error ending
      | _ => .error .usage
    else
      match setFlag o flag with
      | .ok o => ofWords o refused (next :: rest)
      | .error ending => .error ending

/-- The options of a command line. -/
def parse (words : List RawText) : Except Ending Options :=
  match sortWords words with
  | .ok sorted => ofWords {} false sorted
  | .error ending => .error ending

end Options

end StationWatch.Command
