import StationWatch.Text.CaseTable
import StationWatch.Text.Raw

/-!
# Capital and small letters

Names are compared in capitals and mentioned in messages in small letters.  Both mappings cover all
scripts and may change the length of a text: a sharp s becomes two letters.  The small form of a
capital sigma depends on whether a word ends with it.

## Main definitions

* `upper`, `lower` — the two mappings on texts.
* `endsWord` — whether a sigma between two contexts is the last letter of its word.
* `RawText.upper`, `RawText.lower` — the same of texts from outside, where a half ends a word.
-/

namespace StationWatch.Text

/-- The characters a code point becomes, by the expansions first and the runs second. -/
def mapCase (expansions : List (Nat × List Nat)) (runs : List CaseRun) (c : Char) : List Char :=
  match expansions.find? fun entry => entry.1 == c.toNat with
  | some entry => entry.2.map Char.ofNat
  | none =>
    match runs.find? fun run => run.holds c.toNat with
    | some run => [Char.ofNat (run.counterpart c.toNat)]
    | none => [c]

/-- The capital form of a character. -/
def upperChar (c : Char) : List Char :=
  if c.toNat < 0x80 then [c.toUpper] else mapCase upperExpansions upperRuns c

/-- The small form of a character away from its context. -/
def lowerChar (c : Char) : List Char :=
  if c.toNat < 0x80 then [c.toLower] else mapCase lowerExpansions lowerRuns c

/-- A text in capitals. -/
def upper (cs : List Char) : List Char := cs.flatMap upperChar

@[simp] theorem upper_nil : upper [] = [] := rfl

@[simp] theorem upper_cons (c : Char) (cs : List Char) :
    upper (c :: cs) = upperChar c ++ upper cs := rfl

@[simp] theorem upper_append (cs ds : List Char) : upper (cs ++ ds) = upper cs ++ upper ds := by
  simp [upper]

/-- Whether the nearest character that counts is a letter with case. -/
def meetsCased : List Char → Bool
  | [] => false
  | c :: cs => if caseIgnorableTable.has c then meetsCased cs else casedTable.has c

/-- Whether a sigma after `before` (nearest character first) and ahead of `after` is the last
letter of a word of at least two. -/
def endsWord (before after : List Char) : Bool := meetsCased before && !meetsCased after

/-- The small form of the text `cs` that follows `before` (nearest character first). -/
def lowerAfter (before : List Char) : List Char → List Char
  | [] => []
  | c :: cs =>
    (if c = 'Σ' then [if endsWord before cs then 'ς' else 'σ'] else lowerChar c) ++
      lowerAfter (c :: before) cs

/-- A text in small letters. -/
def lower (cs : List Char) : List Char := lowerAfter [] cs

end StationWatch.Text

namespace StationWatch.RawText

/-- A text in capitals. -/
def upper (t : RawText) : RawText := t.map Text.upper

/-- A text in small letters. -/
def lower (t : RawText) : RawText := t.map Text.lower

end StationWatch.RawText
