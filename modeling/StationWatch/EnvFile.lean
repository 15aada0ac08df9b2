import StationWatch.Environment
import StationWatch.Text.Blank
import StationWatch.Text.Case

/-!
# Files of settings

A file of settings has one binding a line: a name, an equals sign and a value, in quotes or bare,
with blanks and comments around them.  Inside double quotes the usual escapes stand for control
characters.  A value may mention other names in braces, with a default for a name that is not set.
A line of another form is passed over.  A byte order mark in front of the text does not count.

A variable of the environment can turn such files off.  Some names and values that a file can hold
are refused by the environment, and then the file as a whole is at fault.

## Main definitions

* `EnvFile.bindings` — the bindings of a text.
* `EnvFile.resolve` — their values with all mentioned names replaced.
* `EnvFile.Refusal` — why a binding is refused.
* `EnvFile.load` — an environment with the bindings added that it does not have yet.
-/

namespace StationWatch.EnvFile

open Text

/-- A name and its value; a name without equals sign has none. -/
abbrev Binding := String × Option String

/-- A name and its value once all names that the value mentions are replaced. -/
abbrev Resolved := String × Option RawText

/-! ### The parts of a line -/

/-- Whether a character ends a line. -/
def isBreak (c : Char) : Bool := c == '\n' || c == '\r'

/-- Whether a character is a blank that does not end a line. -/
def isInline (c : Char) : Bool := isBlank c && !isBreak c

/-- What is left after the blanks of the line. -/
def skipInline (cs : List Char) : List Char := cs.dropWhile isInline

/-- What is left after the word that may announce a binding. -/
def skipExport (cs : List Char) : List Char :=
  if "export".toList.isPrefixOf cs then
    match cs.drop 6 with
    | c :: rest => if isInline c then skipInline rest else cs
    | [] => cs
  else cs

/-- The name of a binding and what follows it.  A comment has no name.  The outer `none` says that
there is neither. -/
def key? (cs : List Char) : Option (Option String × List Char) :=
  match cs with
  | [] => none
  | c :: rest =>
    if c = '#' then some (none, cs)
    else if c = '\x27' then
      let name := rest.takeWhile (· != '\x27')
      match rest.dropWhile (· != '\x27') with
      | [] => none
      | _ :: after => if name.isEmpty then none else some (some (String.ofList name), after)
    else
      let isNameChar := fun c => c != '=' && c != '#' && !isBlank c
      let name := cs.takeWhile isNameChar
      if name.isEmpty then none else some (some (String.ofList name), cs.dropWhile isNameChar)

/-- A quoted value whose first quote has been read, and what follows its last one: it ends at the
first quote that does not belong to a pair of a backslash and the character after it. -/
def quoted? (quote : Char) : List Char → Option (List Char × List Char)
  | [] => none
  | [c] => if c = quote then some ([], []) else none
  | c :: d :: cs =>
    if c = quote then some ([], d :: cs)
    else if c = '\\' then (quoted? quote cs).map fun r => (c :: d :: r.1, r.2)
    else (quoted? quote (d :: cs)).map fun r => (c :: r.1, r.2)

/-- The characters that escapes stand for inside double quotes. -/
def doubleEscapes : List (Char × Char) :=
  [('\\', '\\'), ('\x27', '\x27'), ('"', '"'), ('a', '\x07'), ('b', '\x08'), ('f', '\x0c'),
   ('n', '\n'), ('r', '\r'), ('t', '\t'), ('v', '\x0b')]

/-- The characters that escapes stand for inside single quotes. -/
def singleEscapes : List (Char × Char) := [('\\', '\\'), ('\x27', '\x27')]

/-- A text with its escapes replaced. -/
def unescape (table : List (Char × Char)) : List Char → List Char
  | [] => []
  | [c] => [c]
  | c :: d :: cs =>
    match if c = '\\' then table.find? (fun entry => entry.1 == d) else none with
    | some entry => entry.2 :: unescape table cs
    | none => c :: unescape table (d :: cs)

/-- A bare value without the comment that follows blanks. -/
def cutComment : List Char → List Char
  | [] => []
  | c :: cs =>
    if isBlank c ∧ (cs.dropWhile isBlank).head? = some '#' then [] else c :: cutComment cs

/-- The value after an equals sign and what follows it.  Blanks after the equals sign are no part of
a value, but a comment that follows them leaves an empty one. -/
def value? (cs : List Char) : Option (List Char × List Char) :=
  match skipInline cs with
  | '\x27' :: rest => (quoted? '\x27' rest).map fun r => (unescape singleEscapes r.1, r.2)
  | '"' :: rest => (quoted? '"' rest).map fun r => (unescape doubleEscapes r.1, r.2)
  | _ =>
    let bare := cs.takeWhile fun c => !isBreak c
    some (strip (cutComment bare), cs.dropWhile fun c => !isBreak c)

/-- What is left after a comment. -/
def skipComment (cs : List Char) : List Char :=
  match skipInline cs with
  | '#' :: rest => rest.dropWhile fun c => !isBreak c
  | _ => cs

/-- What is left after the end of the line, which must follow. -/
def lineEnd? (cs : List Char) : Option (List Char) :=
  match skipInline cs with
  | [] => some []
  | '\r' :: '\n' :: rest => some rest
  | c :: rest => if isBreak c then some rest else none

/-- What is left after the rest of a line of another form. -/
def skipLine (cs : List Char) : List Char :=
  match cs.dropWhile fun c => !isBreak c with
  | [] => []
  | _ :: rest => rest

/-! ### Bindings -/

/-- A line after its name: the value, if an equals sign follows, and what is left; or, if the line
has another form, what is left where that shows. -/
def afterKey (name : Option String) (cs : List Char) :
    Except (List Char) (Option Binding × List Char) :=
  let cs := skipInline cs
  let read : Except (List Char) (Option String × List Char) :=
    match cs with
    | '=' :: rest =>
      match value? rest with
      | some (text, rest) => .ok (some (String.ofList text), rest)
      | none => .error rest
    | _ => .ok (none, cs)
  match read with
  | .error rest => .error rest
  | .ok (text, rest) =>
    let rest := skipComment rest
    match lineEnd? rest with
    | some left => .ok (name.map fun name => (name, text), left)
    | none => .error rest

/-- The first binding of a text, if its line has one, and what is left. -/
def binding (cs : List Char) : Option Binding × List Char :=
  match cs.dropWhile isBlank with
  | [] => (none, [])
  | cs =>
    let cs := skipExport cs
    match key? cs with
    | none => (none, skipLine cs)
    | some (name, rest) =>
      match afterKey name rest with
      | .ok result => result
      | .error rest => (none, skipLine rest)

/-- The bindings of a text in at most the given number of lines. -/
def bindingsWithin : (lines : Nat) → List Char → List Binding
  | 0, _ => []
  | _, [] => []
  | lines + 1, cs =>
    match binding cs with
    | (some b, rest) => b :: bindingsWithin lines rest
    | (none, rest) => bindingsWithin lines rest

/-- The characters of a text without a byte order mark in front. -/
def content (text : String) : List Char :=
  match text.toList with
  | '\uFEFF' :: cs => cs
  | cs => cs

/-- The bindings of a text; there are no more lines than characters. -/
def bindings (text : String) : List Binding :=
  let cs := content text
  bindingsWithin (cs.length + 1) cs

/-! ### Names mentioned in values -/

/-- A mention in braces after a dollar sign: its name, its default, and its length without the
dollar sign. -/
def mention? : List Char → Option (String × String × Nat)
  | '\x7b' :: cs =>
    let name := cs.takeWhile fun c => c != '\x7d' && c != ':'
    match cs.dropWhile fun c => c != '\x7d' && c != ':' with
    | '\x7d' :: _ => some (String.ofList name, "", name.length + 2)
    | ':' :: '-' :: rest =>
      let default := rest.takeWhile (· != '\x7d')
      if default.length < rest.length then
        some (String.ofList name, String.ofList default, name.length + default.length + 4)
      else none
    | _ => none
  | _ => none

/-- A text with every mention replaced.  The first `skip` characters belong to a mention already
replaced. -/
def expand (value : String → Option RawText) : (skip : Nat) → List Char → RawText
  | _, [] => ""
  | skip + 1, _ :: cs => expand value skip cs
  | 0, c :: cs =>
    if c = '$' then
      match mention? cs with
      | some (name, default, length) => (value name).getD default ++ expand value length cs
      | none => c.toString ++ expand value 0 cs
    else c.toString ++ expand value 0 cs

/-- The value that a mention of a name stands for: that of the environment before that of an earlier
binding; a name without equals sign stands for nothing. -/
def mentioned (env : Environment) (earlier : List Resolved) (name : String) : Option RawText :=
  match env.get? name with
  | some text => some text
  | none => (earlier.find? fun b => b.1 == name).map fun b => b.2.getD ""

/-- The bindings with all mentions replaced, the last one first, after those that are given. -/
def resolveAfter (env : Environment) (earlier : List Resolved) : List Binding → List Resolved
  | [] => earlier
  | (name, text) :: rest =>
    let resolved := text.map fun t => expand (mentioned env earlier) 0 t.toList
    resolveAfter env ((name, resolved) :: earlier) rest

/-- The bindings with all mentions replaced, the last one first. -/
def resolve (env : Environment) (bs : List Binding) : List Resolved := resolveAfter env [] bs

/-- A binding that takes the place of an earlier one of its name or, without one, the last place. -/
def place (b : Resolved) : List Resolved → List Resolved
  | [] => [b]
  | other :: rest => if other.1 = b.1 then b :: rest else other :: place b rest

/-- The bindings of a text with all mentions replaced, one for each name: the last one, at the place
of the first. -/
def settled (env : Environment) (text : String) : List Resolved :=
  (resolve env (bindings text)).foldr place []

/-! ### Additions to an environment -/

/-- Why the environment refuses a binding. -/
inductive Refusal
  | nulCharacter
  | equalsInName
  deriving DecidableEq, Repr, Inhabited

/-- The wording of a refusal. -/
def Refusal.message : Refusal → String
  | .nulCharacter => "embedded null byte"
  | .equalsInName => "illegal environment variable name"

/-- Why the environment refuses a name with a value, if it does. -/
def refusal? (name : String) (value : RawText) : Option Refusal :=
  if name.toList.contains '\x00' || value.chars.contains '\x00' then some .nulCharacter
  else if name.toList.contains '=' then some .equalsInName
  else none

/-- An environment with a binding added; one without a value, or of a name that is set, adds
nothing. -/
def add (env : Environment) (b : Resolved) : Except Refusal Environment :=
  match b.2, env.get? b.1 with
  | some value, none =>
    match refusal? b.1 value with
    | some refusal => .error refusal
    | none => .ok (env.set b.1 value)
  | _, _ => .ok env

/-- The variable that turns files of settings off. -/
def offSwitch : String := "PYTHON_DOTENV_DISABLED"

/-- The texts in capitals that turn files of settings off. -/
def offTexts : List String := ["1", "TRUE", "T", "YES", "Y"]

/-- Whether files of settings are turned off. -/
def isOff (env : Environment) : Bool :=
  match env.get? offSwitch with
  | some text => offTexts.any fun off => text.upper == off
  | none => false

/-- An environment with those bindings of a text that it does not have yet, unless files of settings
are turned off; of bindings of one name the last counts. -/
def load (text : String) (env : Environment) : Except Refusal Environment :=
  if isOff env then .ok env else (settled env text).foldlM add env

end StationWatch.EnvFile
