import StationWatch.Text.Ranges
import StationWatch.Text.Raw

/-!
# Blanks, stripping and comma-separated fields

Blank characters are those that separate words, lines, paragraphs or segments of text, in any
script.  Settings are stripped of them before they are read, and lists of settings are cut at a
separator.

## Main definitions

* `isBlank` — the blank characters.
* `strip` — a text without its leading and trailing blanks.
* `fields` — the pieces of a text between the occurrences of a separator.
* `joinWith` — pieces put together again with a separator between them.
* `RawText.strip`, `RawText.fields` — the same of texts from outside, where a half is not blank.
* `RawText.cutAt` — what stands before and behind the first separator.
-/

namespace StationWatch.Text

/-- The blank characters: controls that separate, the space, and the spaces of other scripts. -/
def blankTable : Ranges :=
  [(0x9, 0xD), (0x1C, 0x20), (0x85, 0x85), (0xA0, 0xA0), (0x1680, 0x1680), (0x2000, 0x200A),
   (0x2028, 0x2029), (0x202F, 0x202F), (0x205F, 0x205F), (0x3000, 0x3000)]

/-- Whether a character is blank. -/
def isBlank (c : Char) : Bool := blankTable.has c

/-- A text without its leading blanks. -/
def stripStart (cs : List Char) : List Char := cs.dropWhile isBlank

/-- A text without its trailing blanks. -/
def stripEnd (cs : List Char) : List Char := (cs.reverse.dropWhile isBlank).reverse

/-- A text without its leading and trailing blanks. -/
def strip (cs : List Char) : List Char := stripEnd (stripStart cs)

/-- The pieces of a text between the occurrences of a separator; there is always at least one. -/
def fields (sep : Char) : List Char → List (List Char)
  | [] => [[]]
  | c :: cs =>
    if c = sep then [] :: fields sep cs
    else
      match fields sep cs with
      | [] => [[c]]
      | piece :: pieces => (c :: piece) :: pieces

/-- Pieces put together with a separator between neighbours. -/
def joinWith (sep : Char) : List (List Char) → List Char
  | [] => []
  | [piece] => piece
  | piece :: next :: pieces => piece ++ sep :: joinWith sep (next :: pieces)

theorem fields_ne_nil (sep : Char) (cs : List Char) : fields sep cs ≠ [] := by
  cases cs with
  | nil => simp [fields]
  | cons c cs =>
    simp only [fields]
    split
    · simp
    · split <;> simp

/-- Cutting loses nothing: joining the pieces gives the text back. -/
theorem joinWith_fields (sep : Char) (cs : List Char) : joinWith sep (fields sep cs) = cs := by
  induction cs with
  | nil => rfl
  | cons c cs ih =>
    simp only [fields]
    split
    · rename_i h
      cases hf : fields sep cs with
      | nil => exact absurd hf (fields_ne_nil sep cs)
      | cons piece pieces => rw [hf] at ih; simp [joinWith, h, ih]
    · cases hf : fields sep cs with
      | nil => exact absurd hf (fields_ne_nil sep cs)
      | cons piece pieces =>
        rw [hf] at ih
        cases pieces with
        | nil => simpa [joinWith] using ih
        | cons next pieces => simpa [joinWith] using ih

end StationWatch.Text

namespace StationWatch.RawText

/-- A text without its trailing blanks. -/
def stripEnd : RawText → RawText
  | .whole s => .whole (String.ofList (Text.stripEnd s.toList))
  | .broken front half rest => .broken front half (stripEnd rest)

/-- A text without its leading and trailing blanks. -/
def strip : RawText → RawText
  | .whole s => .whole (String.ofList (Text.strip s.toList))
  | .broken front half rest =>
    .broken (String.ofList (Text.stripStart front.toList)) half (stripEnd rest)

/-- Pieces of which the last one goes on with a half and the first one of further pieces. -/
def glue (half : Half) (more : List RawText) : List (List Char) → List RawText
  | [] => more
  | [piece] =>
    match more with
    | [] => [.broken (String.ofList piece) half ""]
    | next :: rest => .broken (String.ofList piece) half next :: rest
  | piece :: pieces => .whole (String.ofList piece) :: glue half more pieces

/-- The pieces of a text between the occurrences of a separator. -/
def fields (sep : Char) : RawText → List RawText
  | .whole s => (Text.fields sep s.toList).map fun piece => .whole (String.ofList piece)
  | .broken front half rest => glue half (fields sep rest) (Text.fields sep front.toList)

/-- What stands before and behind the first occurrence of a separator, if there is one. -/
def cutAt (sep : Char) : RawText → Option (RawText × RawText)
  | .whole s =>
    match s.toList.dropWhile (· != sep) with
    | [] => none
    | _ :: after => some (↑(String.ofList (s.toList.takeWhile (· != sep))), ↑(String.ofList after))
  | .broken front half rest =>
    match front.toList.dropWhile (· != sep) with
    | [] => (cutAt sep rest).map fun r => (.broken front half r.1, r.2)
    | _ :: after =>
      some (↑(String.ofList (front.toList.takeWhile (· != sep))),
        .broken (String.ofList after) half rest)

@[simp] theorem fields_whole (sep : Char) (s : String) :
    fields sep s = (Text.fields sep s.toList).map fun piece => ↑(String.ofList piece) := rfl

end StationWatch.RawText
