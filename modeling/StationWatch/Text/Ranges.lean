/-!
# Sets of characters given by ranges of code points

A property of characters that no short rule describes is a table of closed ranges of code points.
The property modules beside this one hold such tables; this one says what a table means.

## Main definitions

* `Ranges` — a table of closed ranges.
* `Ranges.has` — membership of a character.
-/

namespace StationWatch.Text

/-- A set of characters, as a list of closed ranges of code points. -/
abbrev Ranges := List (Nat × Nat)

namespace Ranges

/-- Whether a character lies in one of the ranges. -/
def has (table : Ranges) (c : Char) : Bool :=
  table.any fun range => decide (range.1 ≤ c.toNat) && decide (c.toNat ≤ range.2)

/-- A character is in the table exactly when some range holds its code point. -/
theorem has_iff (table : Ranges) (c : Char) :
    has table c = true ↔ ∃ range ∈ table, range.1 ≤ c.toNat ∧ c.toNat ≤ range.2 := by
  simp [has, List.any_eq_true]

end Ranges

end StationWatch.Text
