import StationWatch.Json.Value
import StationWatch.Decimal.Shortest
import StationWatch.Text.Quoted

/-!
# JSON values in messages

Messages show a value that came from outside in one line: texts between quotes, the other values by
fixed words and numbers, arrays in square and objects in curly brackets.  A value that stands for a
name is shown without quotes.

## Main definitions

* `Json.written` — a value in one line.
* `Json.plain` — the same, but a text as it is.
-/

namespace StationWatch

namespace Json

/-- Pieces separated by a comma and a space. -/
def separated : List (List Char) → List Char
  | [] => []
  | [piece] => piece
  | piece :: next :: pieces => piece ++ ',' :: ' ' :: separated (next :: pieces)

mutual

/-- A value in one line. -/
def chars : Json → List Char
  | .null => "None".toList
  | .bool b => (if b then "True" else "False").toList
  | .int n => (toString n).toList
  | .float x => (Decimal.text x).toList
  | .str t => Text.quoted t
  | .arr items => '[' :: separated (itemChars items) ++ [']']
  | .obj members => '\x7b' :: separated (memberChars members) ++ ['\x7d']

/-- The items of an array, each in one line. -/
def itemChars : List Json → List (List Char)
  | [] => []
  | item :: items => chars item :: itemChars items

/-- The members of an object, each in one line. -/
def memberChars : List (RawText × Json) → List (List Char)
  | [] => []
  | (name, value) :: members =>
    (Text.quoted name ++ ':' :: ' ' :: chars value) :: memberChars members

end

/-- A value in one line. -/
def written (j : Json) : String := String.ofList j.chars

/-- A value in one line, a text without quotes and escapes. -/
def plain : Json → RawText
  | .str t => t
  | j => j.written

@[simp] theorem plain_str (t : RawText) : plain (.str t) = t := rfl

end Json

end StationWatch
