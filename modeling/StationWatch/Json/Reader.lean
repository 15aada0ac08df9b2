import StationWatch.Json.Value
import StationWatch.Decimal.Numeral

/-!
# Reading JSON

The reader works on what is left of the text, so a position is a number of characters left.  It
stops at the first character that cannot continue a value and says what it expected there.  Arrays
and objects may be nested up to a limit, whole numbers may have a limited number of digits, and of
members with one name the last counts.

## Main definitions

* `Json.Flaw` — what is wrong at a place of the text.
* `Json.Fault` — why a text is no JSON value.
* `Json.parse` — the value of a text.
-/

namespace StationWatch

namespace Json

/-- What is wrong at a place of a text. -/
inductive Flaw
  | expectingValue
  | expectingComma
  | expectingColon
  | expectingName
  | unterminated
  | invalidEscape
  | invalidCode
  | controlCharacter
  | extraData
  | byteOrderMark
  deriving DecidableEq, Repr, Inhabited

/-- The wording of a flaw. -/
def Flaw.message : Flaw → String
  | .expectingValue => "Expecting value"
  | .expectingComma => "Expecting ',' delimiter"
  | .expectingColon => "Expecting ':' delimiter"
  | .expectingName => "Expecting property name enclosed in double quotes"
  | .unterminated => "Unterminated string starting at"
  | .invalidEscape => "Invalid \\escape"
  | .invalidCode => "Invalid \\uXXXX escape"
  | .controlCharacter => "Invalid control character at"
  | .extraData => "Extra data"
  | .byteOrderMark => "Unexpected UTF-8 BOM (decode using utf-8-sig)"

/-- A place in a text. -/
structure Place where
  /-- The line, counted from one. -/
  line : Nat
  /-- The column, counted from one. -/
  column : Nat
  offset : Nat
  deriving DecidableEq, Repr, Inhabited

/-- The place after a number of characters of a text; a line ends with its line feed. -/
def Place.after (cs : List Char) (offset : Nat) : Place :=
  let before := cs.take offset
  { line := before.count '\n' + 1
    column := (before.reverse.takeWhile (· != '\n')).length + 1
    offset }

/-- Why a text is no JSON value. -/
inductive Fault
  | flawed (flaw : Flaw) (place : Place)
  | tooManyDigits (digits : Nat)
  | tooDeep
  deriving DecidableEq, Repr, Inhabited

/-- Where the reader stopped: a flaw with the number of characters left, or another fault. -/
inductive Stop
  /-- A flaw, with the number of characters left. -/
  | flawed (flaw : Flaw) (left : Nat)
  | tooManyDigits (digits : Nat)
  | tooDeep
  deriving DecidableEq, Repr, Inhabited

/-- A reader takes a value off the front of a text and leaves the rest. -/
abbrev Reader (α : Type) := List Char → Except Stop (α × List Char)

/-- Whether a character may stand between the parts of a value. -/
def isGap (c : Char) : Bool := c == ' ' || c == '\t' || c == '\n' || c == '\r'

/-- What is left after the gaps. -/
def skipGaps (cs : List Char) : List Char := cs.dropWhile isGap

/-! ### Texts -/

/-- The value of a hexadecimal digit. -/
def hexValue? (c : Char) : Option Nat :=
  if '0' ≤ c ∧ c ≤ '9' then some (c.toNat - 48)
  else if 'a' ≤ c ∧ c ≤ 'f' then some (c.toNat - 87)
  else if 'A' ≤ c ∧ c ≤ 'F' then some (c.toNat - 55)
  else none

/-- The number that hexadecimal digits stand for. -/
def hexNumber? (ds : List Char) : Option Nat :=
  ds.foldl (fun n? d => n?.bind fun n => (hexValue? d).map (16 * n + ·)) (some 0)

/-- What an escape stands for: a character, or a half of a pair that stands alone. -/
inductive CodePoint
  | char (c : Char)
  | half (half : Half)
  deriving DecidableEq, Repr, Inhabited

/-- The code point of a number with four digits. -/
def CodePoint.ofUnit (n : Nat) : CodePoint := (Half.ofNat? n).elim (.char (Char.ofNat n)) .half

/-- The escape whose digits start the text, and how many characters it takes after the backslash;
two halves of a pair make one character. -/
def codeEscape (cs : List Char) : Except Stop (CodePoint × Nat) :=
  if cs.length ≤ 4 then .error (.flawed .invalidCode (cs.length + 1))
  else
    match hexNumber? (cs.take 4) with
    | none => .error (.flawed .invalidCode (cs.length + 1))
    | some n =>
      let rest := cs.drop 4
      if 0xD800 ≤ n ∧ n < 0xDC00 ∧ 6 < rest.length ∧ rest.take 2 = ['\\', 'u'] then
        match hexNumber? ((rest.drop 2).take 4) with
        | none => .error (.flawed .invalidCode (rest.length - 1))
        | some m =>
          if 0xDC00 ≤ m ∧ m < 0xE000 then
            .ok (.char (Char.ofNat (0x10000 + (n - 0xD800) * 0x400 + (m - 0xDC00))), 11)
          else .ok (.ofUnit n, 5)
      else .ok (.ofUnit n, 5)

/-- The escape after a backslash, and how many characters it takes.  `start` is what was left where
the text began. -/
def escape (start : Nat) : List Char → Except Stop (CodePoint × Nat)
  | [] => .error (.flawed .unterminated start)
  | c :: cs =>
    match c with
    | '"' => .ok (.char '"', 1)
    | '\\' => .ok (.char '\\', 1)
    | '/' => .ok (.char '/', 1)
    | 'b' => .ok (.char '\x08', 1)
    | 'f' => .ok (.char '\x0c', 1)
    | 'n' => .ok (.char '\n', 1)
    | 'r' => .ok (.char '\r', 1)
    | 't' => .ok (.char '\t', 1)
    | 'u' => codeEscape cs
    | _ => .error (.flawed .invalidEscape (cs.length + 2))

/-- The text up to the closing quote.  `done` holds the characters read since the last half, last
first, and the first `skip` characters of the text belong to an escape already read. -/
def textTail (start : Nat) (done : List Char) : (skip : Nat) → Reader RawText
  | _, [] => .error (.flawed .unterminated start)
  | skip + 1, _ :: cs => textTail start done skip cs
  | 0, c :: cs =>
    if c = '"' then .ok (.whole (String.ofList done.reverse), cs)
    else if c.toNat < 0x20 then .error (.flawed .controlCharacter (cs.length + 1))
    else if c = '\\' then
      match escape start cs with
      | .error stop => .error stop
      | .ok (.char d, taken) => textTail start (d :: done) taken cs
      | .ok (.half half, taken) =>
        (textTail start [] taken cs).map fun r =>
          (.broken (String.ofList done.reverse) half r.1, r.2)
    else textTail start (c :: done) 0 cs

/-- A text whose opening quote has been read. -/
def text : Reader RawText := fun cs => textTail (cs.length + 1) [] 0 cs

/-! ### Numbers and words -/

/-- The exponent at the start of a text, if there is a complete one. -/
def exponent? : List Char → Option (Int × List Char)
  | [] => none
  | c :: cs =>
    if c = 'e' ∨ c = 'E' then
      let (negative, cs) := Decimal.signed cs
      let ds := cs.takeWhile Decimal.isDigit
      if ds.isEmpty then none
      else
        some (if negative then -(Decimal.valueOf ds : Int) else Decimal.valueOf ds,
          cs.dropWhile Decimal.isDigit)
    else none

/-- The fraction at the start of a text, if a point and a digit are there. -/
def fraction? : List Char → Option (List Char × List Char)
  | '.' :: cs =>
    let ds := cs.takeWhile Decimal.isDigit
    if ds.isEmpty then none else some (ds, cs.dropWhile Decimal.isDigit)
  | _ => none

/-- The digits before the point: a zero alone, or digits that start with another one. -/
def wholePart? : List Char → Option (List Char × List Char)
  | [] => none
  | c :: cs =>
    if c = '0' then some ([c], cs)
    else if Decimal.isDigit c then
      some (c :: cs.takeWhile Decimal.isDigit, cs.dropWhile Decimal.isDigit)
    else none

/-- A number: whole without fraction and exponent, otherwise the nearest double. -/
def number : Reader Json := fun cs =>
  let (negative, body) :=
    match cs with
    | '-' :: r => (true, r)
    | r => (false, r)
  match wholePart? body with
  | none => .error (.flawed .expectingValue cs.length)
  | some (whole, rest) =>
    let fraction := fraction? rest
    let rest := (fraction.map Prod.snd).getD rest
    let exponent := exponent? rest
    let rest := (exponent.map Prod.snd).getD rest
    if fraction.isNone && exponent.isNone then
      if Decimal.maxDigits < whole.length then .error (.tooManyDigits whole.length)
      else
        let n : Int := Decimal.valueOf whole
        .ok (.int (if negative then -n else n), rest)
    else
      let places := (fraction.map Prod.fst).getD []
      let x := Decimal.nearest (Decimal.valueOf (whole ++ places))
        ((exponent.map Prod.fst).getD 0 - places.length)
      .ok (.float (if negative then -x else x), rest)

/-- The values that are written as words. -/
def namedValues : List (List Char × Json) :=
  [("null".toList, .null), ("true".toList, .bool true), ("false".toList, .bool false),
   ("NaN".toList, .float (0.0 / 0.0)), ("Infinity".toList, .float (1.0 / 0.0)),
   ("-Infinity".toList, .float (-1.0 / 0.0))]

/-- A word or a number. -/
def scalar : Reader Json := fun cs =>
  match namedValues.find? fun entry => entry.1.isPrefixOf cs with
  | some entry => .ok (entry.2, cs.drop entry.1.length)
  | none => number cs

/-! ### Arrays and objects -/

/-- The items of an array up to its closing bracket, each taken off by `item`.  `done` holds those
read, last first; every item takes at least one character, so as many rounds as there are characters
are enough. -/
def items (item : Reader Json) (done : List Json) : (rounds : Nat) → Reader Json
  | 0, cs => .error (.flawed .expectingValue cs.length)
  | rounds + 1, cs =>
    match item cs with
    | .error stop => .error stop
    | .ok (value, cs) =>
      match skipGaps cs with
      | ']' :: cs => .ok (.arr (value :: done).reverse, cs)
      | ',' :: cs => items item (value :: done) rounds (skipGaps cs)
      | cs => .error (.flawed .expectingComma cs.length)

/-- An array whose opening bracket has been read. -/
def array (item : Reader Json) : Reader Json := fun cs =>
  match skipGaps cs with
  | ']' :: cs => .ok (.arr [], cs)
  | cs => items item [] (cs.length + 1) cs

/-- A name and the colon after it. -/
def memberName : Reader RawText
  | '"' :: cs =>
    match text cs with
    | .error stop => .error stop
    | .ok (name, cs) =>
      match skipGaps cs with
      | ':' :: cs => .ok (name, skipGaps cs)
      | cs => .error (.flawed .expectingColon cs.length)
  | cs => .error (.flawed .expectingName cs.length)

/-- The members of an object up to its closing bracket, as `items` reads those of an array. -/
def members (item : Reader Json) (done : Members) : (rounds : Nat) → Reader Json
  | 0, cs => .error (.flawed .expectingName cs.length)
  | rounds + 1, cs =>
    match memberName cs with
    | .error stop => .error stop
    | .ok (name, cs) =>
      match item cs with
      | .error stop => .error stop
      | .ok (value, cs) =>
        let done := insert name value done
        match skipGaps cs with
        | '\x7d' :: cs => .ok (.obj done, cs)
        | ',' :: cs => members item done rounds (skipGaps cs)
        | cs => .error (.flawed .expectingComma cs.length)

/-- An object whose opening bracket has been read. -/
def object (item : Reader Json) : Reader Json := fun cs =>
  match skipGaps cs with
  | '\x7d' :: cs => .ok (.obj [], cs)
  | cs => members item [] (cs.length + 1) cs

/-- A value in which arrays and objects are nested at most `depth` times. -/
def value : (depth : Nat) → Reader Json
  | 0, cs =>
    match cs with
    | '"' :: r => (text r).map fun p => (.str p.1, p.2)
    | '[' :: _ => .error .tooDeep
    | '\x7b' :: _ => .error .tooDeep
    | r => scalar r
  | depth + 1, cs =>
    match cs with
    | '"' :: r => (text r).map fun p => (.str p.1, p.2)
    | '[' :: r => array (value depth) r
    | '\x7b' :: r => object (value depth) r
    | r => scalar r

/-- The value of a whole text, with arrays and objects nested at most `limit` times. -/
def wholeText (limit : Nat) (cs : List Char) : Except Stop Json :=
  match cs with
  | '\uFEFF' :: _ => .error (.flawed .byteOrderMark cs.length)
  | _ =>
    match value limit (skipGaps cs) with
    | .error stop => .error stop
    | .ok (j, rest) =>
      match skipGaps rest with
      | [] => .ok j
      | rest => .error (.flawed .extraData rest.length)

/-- Where a stop lies in the text. -/
def Stop.inText (cs : List Char) : Stop → Fault
  | .flawed flaw left => .flawed flaw (Place.after cs (cs.length - left))
  | .tooManyDigits n => .tooManyDigits n
  | .tooDeep => .tooDeep

/-- The value of a text.  How deeply arrays and objects may be nested depends on where the program
runs. -/
def parse (limit : Nat) (s : String) : Except Fault Json :=
  (wholeText limit s.toList).mapError (Stop.inText s.toList)

/-- The wording of a fault. -/
def Fault.message : Fault → String
  | .flawed flaw place =>
    flaw.message ++ ": line " ++ toString place.line ++ " column " ++ toString place.column ++
      " (char " ++ toString place.offset ++ ")"
  | .tooManyDigits digits => Decimal.tooLongMessage digits
  | .tooDeep => "recursion"

end Json

end StationWatch
