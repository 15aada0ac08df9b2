/-!
# The order of doubles

Doubles that are numbers are ordered by their values, with both zeros at one place.  What is no
number is put behind all of them here, so that any two doubles can be compared.  Whether one double
is at most another then depends on their positions on a line: the side of zero, and on it exponent
and mantissa.

## Main definitions

* `Position`, `Position.upTo` — the places on the line and their order.
* `positionOf` — the position of a double.

## Main results

* `notAfter_iff` — a double is at most another, or the other is no number, exactly if its position
  is up to the other one.
* `notAfter_total`, `notAfter_trans` — so any two doubles are comparable, in a transitive way.
-/

open Float.Model UnpackedFloat

namespace StationWatch.Doubles

/-- A place on the line of the doubles. -/
structure Position where
  /-- Below zero, zero or above it, the infinities outside, and last what is no number. -/
  side : Int
  exponent : Int
  mantissa : Int

namespace Position

/-- Whether a position stands before another one or is the same. -/
def upTo (x y : Position) : Prop :=
  x.side < y.side ∨ x.side = y.side ∧
    (x.exponent < y.exponent ∨ x.exponent = y.exponent ∧ x.mantissa ≤ y.mantissa)

theorem upTo_total (x y : Position) : x.upTo y ∨ y.upTo x := by
  unfold upTo
  omega

theorem upTo_trans {x y z : Position} (hxy : x.upTo y) (hyz : y.upTo z) : x.upTo z := by
  unfold upTo at *
  omega

end Position

/-- The position of a double in parts; below zero larger exponents and mantissas come first. -/
def placeOf : UnpackedFloat → Position
  | .infinity .negative => ⟨-2, 0, 0⟩
  | .finite .negative mantissa exponent _ => ⟨-1, -exponent, -mantissa⟩
  | .zero _ => ⟨0, 0, 0⟩
  | .finite .positive mantissa exponent _ => ⟨1, exponent, mantissa⟩
  | .infinity .positive => ⟨2, 0, 0⟩
  | .notANumber => ⟨3, 0, 0⟩

/-- The position of a double. -/
def positionOf (x : Float) : Position := placeOf x.toModel.unpack

theorem isLE_compare_then (e₁ e₂ : Int) (m₁ m₂ : Nat) :
    ((compare e₁ e₂).then (compare m₁ m₂)).isLE = true ↔ e₁ < e₂ ∨ e₁ = e₂ ∧ m₁ ≤ m₂ := by
  rcases Int.lt_trichotomy e₁ e₂ with h | rfl | h
  · simp [Int.compare_eq_lt.2 h, h]
  · simp [Nat.isLE_compare]
  · have hlt : ¬ e₁ < e₂ := by omega
    have hne : e₁ ≠ e₂ := by omega
    simp [Int.compare_eq_gt.2 h, hlt, hne]

theorem isLE_swap_compare_then (e₁ e₂ : Int) (m₁ m₂ : Nat) :
    ((compare e₁ e₂).then (compare m₁ m₂)).swap.isLE = true ↔ e₂ < e₁ ∨ e₂ = e₁ ∧ m₂ ≤ m₁ := by
  rw [Ordering.swap_then, Int.compare_swap, Nat.compare_swap, isLE_compare_then]

theorem finite_le_finite_iff (s t : Sign) {m n : Nat} (e f : Int) (hm : 0 < m) (hn : 0 < n) :
    (finite s m e hm).le (finite t n f hn) = true ↔
      (placeOf (.finite s m e hm)).upTo (placeOf (.finite t n f hn)) := by
  cases s with
  | negative =>
    cases t with
    | negative =>
      refine (isLE_swap_compare_then e f m n).trans ?_
      dsimp only [placeOf, Position.upTo]
      omega
    | positive =>
      refine iff_of_true rfl ?_
      dsimp only [placeOf, Position.upTo]
      omega
  | positive =>
    cases t with
    | negative =>
      refine iff_of_false Bool.false_ne_true ?_
      dsimp only [placeOf, Position.upTo]
      omega
    | positive =>
      refine (isLE_compare_then e f m n).trans ?_
      dsimp only [placeOf, Position.upTo]
      omega

theorem le_iff_upTo (a b : UnpackedFloat) :
    (b.isNaN || a.le b) = true ↔ (placeOf a).upTo (placeOf b) := by
  rcases a with s | _ | s | ⟨s, m, e, hm⟩ <;> rcases b with t | _ | t | ⟨t, n, f, hn⟩
  case finite.finite => exact finite_le_finite_iff s t e f hm hn
  -- Everywhere else the sides decide.
  all_goals
    try cases s
  all_goals
    try cases t
  all_goals
    dsimp only [placeOf, Position.upTo]
    first
      | exact iff_of_true rfl (by omega)
      | exact iff_of_false Bool.false_ne_true (by omega)

/-- Whether a double is at most another; what is no number comes last. -/
def notAfter (x y : Float) : Bool := y.isNaN || decide (x ≤ y)

theorem notAfter_iff (x y : Float) :
    notAfter x y = true ↔ (positionOf x).upTo (positionOf y) := by
  have hle : x ≤ y ↔ x.toModel.unpack.le y.toModel.unpack = true := decide_eq_true_iff
  rw [notAfter, Bool.or_eq_true, decide_eq_true_iff, hle, ← Bool.or_eq_true]
  exact le_iff_upTo _ _

/-- Any two doubles can be compared. -/
theorem notAfter_total (x y : Float) : notAfter x y = true ∨ notAfter y x = true := by
  simp only [notAfter_iff]
  exact Position.upTo_total _ _

theorem notAfter_trans {x y z : Float} (hxy : notAfter x y = true) (hyz : notAfter y z = true) :
    notAfter x z = true := by
  rw [notAfter_iff] at *
  exact Position.upTo_trans hxy hyz

theorem notAfter_refl (x : Float) : notAfter x x = true := (notAfter_total x x).elim id id

end StationWatch.Doubles
