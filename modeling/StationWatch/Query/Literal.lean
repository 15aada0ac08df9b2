import StationWatch.Json.Written

/-!
# Literals of filter expressions

A text inside a filter expression stands between single quotes, and a single quote inside it is
written twice.  Numbers are written bare; truth values identify nothing here and are refused.

## Main definitions

* `encode` — characters as a literal.
* `cut` — all literals of an expression and the text around them.
* `ofText` — a text from outside as a literal.
* `scan` — the literal at the start of an expression and what follows it.
* `ofJson` — any value as a literal.
-/

namespace StationWatch.Query.Literal

/-- The single quote. -/
def mark : Char := '\x27'

/-- A text with every single quote written twice. -/
def double : List Char → List Char
  | [] => []
  | c :: cs => if c = mark then mark :: mark :: double cs else c :: double cs

/-- Characters as a literal. -/
def encode (cs : List Char) : List Char := mark :: double cs ++ [mark]

@[simp] theorem double_nil : double [] = [] := rfl

/-- The characters up to the closing quote, and what follows that quote: a doubled quote is one
quote, and the first quote that is not doubled closes. -/
def scanTail : List Char → Option (List Char × List Char)
  | [] => none
  | [c] => if c = mark then some ([], []) else none
  | c :: d :: cs =>
    if c = mark then
      if d = mark then (scanTail cs).map fun r => (mark :: r.1, r.2) else some ([], d :: cs)
    else (scanTail (d :: cs)).map fun r => (c :: r.1, r.2)

/-- A literal takes at least its closing quote. -/
theorem length_scanTail {cs : List Char} {r : List Char × List Char} (h : scanTail cs = some r) :
    r.2.length < cs.length := by
  fun_induction scanTail cs generalizing r with
  | case1 => cases h
  | case2 =>
    cases h
    simp
  | case3 => cases h
  | case4 cs ih =>
    obtain ⟨r, hr, rfl⟩ := Option.map_eq_some_iff.1 h
    have hlength := ih hr
    simp only [List.length_cons]
    omega
  | case5 =>
    cases h
    simp
  | case6 c d cs hc ih =>
    obtain ⟨r, hr, rfl⟩ := Option.map_eq_some_iff.1 h
    have hlength := ih hr
    simp only [List.length_cons] at hlength ⊢
    omega

/-- An expression cut at its literals. -/
structure Cut where
  /-- The literals, each after the text in front of it. -/
  literals : List (List Char × List Char)
  /-- The text after the last literal. -/
  rest : List Char
  deriving DecidableEq, Repr, Inhabited

theorem length_scanTail_of_dropWhile {cs inner : List Char} {c : Char}
    {r : List Char × List Char} (h : cs.dropWhile (· != mark) = c :: inner)
    (hs : scanTail inner = some r) : r.2.length < cs.length := by
  have hinner := length_scanTail hs
  have hdropped := (List.dropWhile_suffix (p := (· != mark)) (l := cs)).length_le
  rw [h, List.length_cons] at hdropped
  omega

/-- An expression cut at its literals; `none` if one of them is not closed. -/
def cut (cs : List Char) : Option Cut :=
  match h : cs.dropWhile (· != mark) with
  | [] => some ⟨[], cs⟩
  | _ :: inner =>
    match hs : scanTail inner with
    | none => none
    | some (text, rest) =>
      have : rest.length < cs.length := length_scanTail_of_dropWhile h hs
      (cut rest).map fun c => { c with literals := (cs.takeWhile (· != mark), text) :: c.literals }
termination_by cs.length

/-- A truth value is no literal. -/
inductive Fault
  | truthValue
  deriving DecidableEq, Repr, Inhabited

/-- The wording of a fault. -/
def Fault.message : Fault → String
  | .truthValue => "Booleans are not valid OData identifiers here"

/-- Characters as a literal. -/
def ofString (s : String) : String := String.ofList (encode s.toList)

/-- A text as a literal: what stands between its halves has its quotes written twice. -/
def ofText (t : RawText) : RawText := mark.toString ++ t.map double ++ mark.toString

@[simp] theorem ofText_whole (s : String) : ofText s = ↑(ofString s) := by
  have hquoted :
      mark.toString ++ String.ofList (double s.toList) ++ mark.toString = ofString s := by
    simp [ofString, encode, ← String.toList_inj]
  exact congrArg RawText.whole hquoted

/-- The text up to the closing quote, and what follows that quote, in a text from outside.  A half
stands apart from the quotes on both sides of it. -/
def scanText : RawText → Option (RawText × RawText)
  | .whole s => (scanTail s.toList).map fun r => (↑(String.ofList r.1), ↑(String.ofList r.2))
  | .broken front half rest =>
    match scanTail front.toList with
    | some (text, after) => some (↑(String.ofList text), .broken (String.ofList after) half rest)
    | none =>
      match scanTail (front.toList ++ [mark]) with
      | some (text, []) =>
        (scanText rest).map fun r => (.broken (String.ofList text) half r.1, r.2)
      | _ => none

/-- The text of the literal at the start of an expression, and what follows the literal. -/
def scan (t : RawText) : Option (RawText × RawText) := (t.dropPrefix? [mark]).bind scanText

/-- Any value as a literal: numbers bare, everything else by its text. -/
def ofJson : Json → Except Fault RawText
  | .bool _ => .error .truthValue
  | .int n => .ok (toString n)
  | .float x => .ok (Decimal.text x)
  | j => .ok (ofText j.plain)

@[simp] theorem ofJson_str (t : RawText) : ofJson (.str t) = .ok (ofText t) := rfl

end StationWatch.Query.Literal
