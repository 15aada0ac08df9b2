import StationWatch.Decimal.Binary
import StationWatch.Text.Raw

/-!
# JSON values

Responses and measurement specifications are JSON values.  Whole and decimal numbers are different
values, and the members of an object keep the order in which their names first appeared.

## Main definitions

* `Json` — the values.
* `Json.insert`, `Json.lookup` — members of an object.
* `Json.field` — a member of a value that may be no object.
* `Json.isVacant` — the values that count as nothing.
* `Json.sameKey`, `Json.isKey` — values as keys of a table.
-/

namespace StationWatch

/-- A JSON value. -/
inductive Json
  | null
  | bool (value : Bool)
  /-- A whole number of any size. -/
  | int (value : Int)
  /-- A number with a fraction or an exponent, or one of the values that are no numbers. -/
  | float (value : Float)
  | str (value : RawText)
  | arr (items : List Json)
  /-- An object, its names distinct and in order of first appearance. -/
  | obj (members : List (RawText × Json))
  deriving Inhabited, Repr

namespace Json

/-- The members of an object. -/
abbrev Members := List (RawText × Json)

/-- A member set: a known name keeps its place, a new one comes last. -/
def insert (name : RawText) (value : Json) : Members → Members
  | [] => [(name, value)]
  | member :: members =>
    if member.1 = name then (name, value) :: members else member :: insert name value members

/-- The value of a member. -/
def lookup (name : RawText) : Members → Option Json
  | [] => none
  | member :: members => if member.1 = name then some member.2 else lookup name members

@[simp] theorem lookup_nil (name : RawText) : lookup name [] = none := rfl

@[simp] theorem lookup_cons (name : RawText) (member : RawText × Json) (members : Members) :
    lookup name (member :: members) =
      if member.1 = name then some member.2 else lookup name members := rfl

@[simp] theorem lookup_insert_self (name : RawText) (value : Json) (members : Members) :
    lookup name (insert name value members) = some value := by
  induction members with
  | nil => simp [insert]
  | cons member members ih =>
    by_cases h : member.1 = name
    · simp [insert, h]
    · simp [insert, h, ih]

theorem lookup_insert_of_ne {name other : RawText} (value : Json) (members : Members)
    (h : other ≠ name) : lookup other (insert name value members) = lookup other members := by
  induction members with
  | nil => simp [insert, Ne.symm h]
  | cons member members ih =>
    by_cases hm : member.1 = name
    · simp [insert, hm, Ne.symm h]
    · simp [insert, hm, ih]

/-- A member of an object; a missing member and a value that is no object both count as `null`. -/
def field (name : RawText) : Json → Json
  | .obj members => (lookup name members).getD .null
  | _ => .null

/-- The values that count as nothing: `null`, `false`, zero, and what is empty. -/
def isVacant : Json → Bool
  | .null => true
  | .bool b => !b
  | .int n => n == 0
  | .float x => x == 0.0
  | .str s => s.isEmpty
  | .arr items => items.isEmpty
  | .obj members => members.isEmpty

/-- Whether a value is a truth value. -/
def isTruthValue : Json → Bool
  | .bool _ => true
  | _ => false

/-- The number that a value stands for as a key, if any; truth values count as one and zero. -/
def keyNumber? : Json → Option Int
  | .bool b => some (if b then 1 else 0)
  | .int n => some n
  | _ => none

/-- Whether two values are the same key of a table: numbers by their exact value, whatever they are
written as, and not-a-number is one key. -/
def sameKey : Json → Json → Bool
  | .str a, .str b => a == b
  | .null, .null => true
  | .float x, .float y => x == y || (x.isNaN && y.isNaN)
  | .float x, b => (keyNumber? b).elim false (Decimal.equalsInt x)
  | a, .float y => (keyNumber? a).elim false (Decimal.equalsInt y)
  | a, b =>
    match keyNumber? a, keyNumber? b with
    | some m, some n => m == n
    | _, _ => false

@[simp] theorem sameKey_str (a b : RawText) : sameKey (.str a) (.str b) = (a == b) := rfl

/-- A text is the same key as itself only. -/
theorem sameKey_str_right {a : Json} {b : RawText} : sameKey a (.str b) = true ↔ a = .str b := by
  cases a with
  | str s => simp
  | _ => simp [sameKey, keyNumber?]

/-- Whether a value can be a key of a table: arrays and objects cannot. -/
def isKey : Json → Bool
  | .arr _ => false
  | .obj _ => false
  | _ => true

/-- The kind of a value, as messages call it. -/
def kindName : Json → String
  | .null => "NoneType"
  | .bool _ => "bool"
  | .int _ => "int"
  | .float _ => "float"
  | .str _ => "str"
  | .arr _ => "list"
  | .obj _ => "dict"

end Json

end StationWatch
