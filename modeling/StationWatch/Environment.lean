import StationWatch.Text.Raw

/-!
# Environments

An environment gives texts to names.  What is set later counts before what was set earlier.  A text
may have halves in it, for the bytes of a variable need not be those of a text.

## Main definitions

* `Environment` — texts by name.
* `Environment.get?`, `Environment.set`.

## References

`SPEC_FULL.md`, section 10.3.
-/

namespace StationWatch

/-- Texts by name; of entries with one name the first counts. -/
abbrev Environment := List (String × RawText)

namespace Environment

/-- The text of a name. -/
def get? (name : String) : Environment → Option RawText
  | [] => none
  | entry :: rest => if entry.1 = name then some entry.2 else get? name rest

/-- A name set to a text, whatever it was before. -/
def set (name : String) (text : RawText) (env : Environment) : Environment := (name, text) :: env

@[simp] theorem get?_set_self (name : String) (text : RawText) (env : Environment) :
    (env.set name text).get? name = some text := by
  simp [set, get?]

theorem get?_set_of_ne {name other : String} (text : RawText) (env : Environment)
    (h : name ≠ other) : (env.set name text).get? other = env.get? other := by
  simp [set, get?, h]

end Environment

end StationWatch
