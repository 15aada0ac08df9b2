import Mathlib.Algebra.Order.Ring.Nat
import StationWatch.Decimal.Numeral

/-!
# Whole numbers as doubles

The double nearest to a whole number above zero is above zero: rounding drops bits only from a
mantissa that has too many of them, and it never drops the first one.  So a period of whole seconds
that is positive as a number is positive as a double.

## Main definitions

* `Exceeds` — an unpacked double above zero, its exponent not below a bound.

## Main results

* `roundWithAccuracy_eq_finite` — a mantissa of at least 53 bits is rounded to one of just as many.
* `exceeds_unpack_pack` — such a double is read back from its bits with its exponent, unless it is
  too large.
* `not_ofInt_le_zero` — a whole number above zero is not at most zero as a double.
-/

open Float.Model UnpackedFloat

namespace StationWatch.Doubles

/-- An unpacked double above zero, its exponent not below a bound. -/
def Exceeds (bound : Int) : UnpackedFloat → Prop
  | .infinity .positive => True
  | .finite .positive _ exponent _ => bound ≤ exponent
  | _ => False

theorem Exceeds.mono {bound lower : Int} {x : UnpackedFloat} (h : Exceeds bound x)
    (hlower : lower ≤ bound) : Exceeds lower x := by
  rcases x with ⟨_ | _⟩ | _ | _ | ⟨_ | _, m, e, hm⟩
  case finite.positive => exact Int.le_trans hlower h
  all_goals exact h

/-- What exceeds some bound is above zero. -/
theorem not_le_zero_of_exceeds {bound : Int} {x : Float} (h : Exceeds bound x.toModel.unpack) :
    ¬ x ≤ 0.0 := by
  have hzero : (0.0 : Float).toModel.unpack = .zero .positive := rfl
  have hle : x ≤ 0.0 ↔ x.toModel.unpack.le (0.0 : Float).toModel.unpack = true := decide_eq_true_iff
  rw [hle, hzero]
  generalize x.toModel.unpack = y at h
  rcases y with ⟨_ | _⟩ | _ | _ | ⟨_ | _, m, e, hm⟩
  case infinity.positive => decide
  case finite.positive => exact Bool.false_ne_true
  all_goals exact absurd h id

/-! ### Rounding -/

theorem mantissa_shiftRight (mantissa : ExtendedMantissa) (shift : Nat) :
    (mantissa >>> shift).mantissa = mantissa.mantissa / 2 ^ shift := by
  induction shift with
  | zero => exact (Nat.div_one _).symm
  | succ shift ih =>
    change (mantissa >>> shift).mantissa / 2 = _
    rw [ih, Nat.div_div_eq_div_mul, Nat.pow_succ]

theorem mantissa_ofMantissaAndAccuracy (mantissa : Nat) (accuracy : Accuracy) :
    (ExtendedMantissa.ofMantissaAndAccuracy mantissa accuracy).mantissa = mantissa := by
  rcases accuracy with _ | ⟨_ | _ | _⟩ <;> rfl

theorem le_roundedMantissa (mantissa : ExtendedMantissa) :
    mantissa.mantissa ≤ mantissa.roundedMantissa := by
  unfold ExtendedMantissa.roundedMantissa
  rcases mantissa.accuracy with _ | ⟨_ | _ | _⟩ <;> simp [Accuracy.roundToNearestEven]

/-- The exponent that a double of so many bits is brought to. -/
theorem targetExponent_eq (mantissa : Nat) (exponent : Int) :
    Format.binary64.targetExponent (totalExponent mantissa exponent) =
      max (totalExponent mantissa exponent - 53) (-1074) := rfl

/-- A mantissa of at least 53 bits is shifted until it has just as many. -/
theorem shiftToTargetExponent_bounds {mantissa : Nat} {exponent : Int}
    (hmantissa : 2 ^ 52 ≤ mantissa) (hexponent : -1074 ≤ exponent) (accuracy : Accuracy)
    {shifted : ExtendedMantissa} {e : Int}
    (h : shiftToTargetExponent Format.binary64 mantissa exponent accuracy = (shifted, e)) :
    2 ^ 52 ≤ shifted.mantissa ∧ shifted.mantissa < 2 ^ 53 ∧ exponent ≤ e := by
  have hne : mantissa ≠ 0 := by omega
  have hlog : 52 ≤ mantissa.log2 := (Nat.le_log2 hne).2 hmantissa
  have hlower := Nat.log2_self_le hne
  have hupper := @Nat.lt_log2_self mantissa
  have hshift : (Format.binary64.targetExponent (totalExponent mantissa exponent) -
      exponent).toNat = mantissa.log2 - 52 := by
    rw [targetExponent_eq, totalExponent]
    omega
  rw [shiftToTargetExponent, shiftToExponent, hshift, Prod.mk.injEq] at h
  rw [← h.1, ← h.2, mantissa_shiftRight, mantissa_ofMantissaAndAccuracy]
  generalize mantissa.log2 = bits at *
  have hbits : bits = 52 + (bits - 52) := by omega
  have hbits' : bits + 1 = 53 + (bits - 52) := by omega
  refine ⟨?_, ?_, by omega⟩
  · rw [Nat.le_div_iff_mul_le (Nat.two_pow_pos _), ← Nat.pow_add, ← hbits]
    exact hlower
  · rw [Nat.div_lt_iff_lt_mul (Nat.two_pow_pos _), ← Nat.pow_add, ← hbits']
    exact hupper

/-- A mantissa of at least 53 bits is rounded to one of just as many. -/
theorem roundWithAccuracy_eq_finite (sign : Sign) {mantissa : Nat} {exponent : Int}
    (hmantissa : 2 ^ 52 ≤ mantissa) (hexponent : -1074 ≤ exponent) (accuracy : Accuracy) :
    ∃ m e hm, roundWithAccuracy Format.binary64 sign mantissa exponent accuracy =
      .finite sign m e hm ∧ 2 ^ 52 ≤ m ∧ m < 2 ^ 53 ∧ exponent ≤ e := by
  unfold roundWithAccuracy
  cases hfirst : shiftToTargetExponent Format.binary64 mantissa exponent accuracy with
  | mk first e =>
    obtain ⟨hlower, -, he⟩ := shiftToTargetExponent_bounds hmantissa hexponent accuracy hfirst
    have hrounded := Nat.le_trans hlower (le_roundedMantissa first)
    -- Rounding up may have given the mantissa one bit more, which the second shift drops.
    obtain ⟨hlower', hupper', he'⟩ :=
      shiftToTargetExponent_bounds hrounded (Int.le_trans hexponent he) .exact rfl
    exact ⟨_, _, by omega, dif_neg (by omega), hlower', hupper', Int.le_trans he he'⟩

/-! ### Bits -/

theorem unpackSign_packComponents (sign : Sign) (exponent : BitVec 11) (mantissa : BitVec 52) :
    unpackSign (packComponents Format.binary64 sign exponent mantissa) = sign.toBitVec := by
  change (sign.toBitVec ++ exponent ++ mantissa).extractLsb' 63 1 = sign.toBitVec
  rw [BitVec.extractLsb'_append_eq_of_le (by decide),
    BitVec.extractLsb'_append_eq_of_le (by decide)]
  cases sign <;> rfl

/-- A double whose exponent is neither the highest nor the lowest is read back with it. -/
theorem unpack_packComponents (sign : Sign) {exponent : BitVec 11} (mantissa : BitVec 52)
    (hhighest : exponent ≠ -1#11) (hlowest : exponent ≠ 0#11) :
    ∃ m hm, UnpackedFloat.unpack Format.binary64
        (packComponents Format.binary64 sign exponent mantissa) =
      .finite sign m (exponent.toNat - (1023 + 52)) hm := by
  have hread {b : BitVec Format.binary64.numBits} (hhighest : unpackExponent b ≠ -1#11)
      (hlowest : unpackExponent b ≠ 0#11) : ∃ m hm, UnpackedFloat.unpack Format.binary64 b =
        .finite (.ofBitVec (unpackSign b)) m ((unpackExponent b).toNat - (1023 + 52)) hm :=
    ⟨_, _, (if_neg hhighest).trans (if_neg hlowest)⟩
  have hsign : Sign.ofBitVec sign.toBitVec = sign := by cases sign <;> rfl
  obtain ⟨m, hm, hunpack⟩ := hread (b := packComponents Format.binary64 sign exponent mantissa)
    (by rwa [unpackExponent_packComponents]) (by rwa [unpackExponent_packComponents])
  rw [unpackSign_packComponents, unpackExponent_packComponents, hsign] at hunpack
  exact ⟨m, hm, hunpack⟩

/-- A double above zero with a mantissa of 53 bits is read back with its exponent, or as an
infinity if it is too large. -/
theorem exceeds_unpack_pack {mantissa : Nat} {exponent : Int} (hpos : 0 < mantissa)
    (hlower : 2 ^ 52 ≤ mantissa) (hupper : mantissa < 2 ^ 53) (hexponent : -1074 ≤ exponent) :
    Exceeds exponent (pack (.finite .positive mantissa exponent hpos)).unpack := by
  have hlog : mantissa.log2 = 52 := (Nat.log2_eq_iff (by omega)).2 ⟨hlower, hupper⟩
  change Exceeds exponent (UnpackedFloat.unpack Format.binary64
    (UnpackedFloat.pack Format.binary64 (.finite .positive mantissa exponent hpos)))
  unfold UnpackedFloat.pack
  dsimp only
  split
  · -- too large
    exact trivial
  · rename_i hbiased
    have hbias : Format.binary64.exponentBias = 1023 := rfl
    rw [if_pos (by rw [hlog]; rfl)]
    rw [hbias] at hbiased ⊢
    generalize hb : (exponent + (1023 : Nat) + (52 : Nat)).toNat = biased at *
    have hbits : (BitVec.ofNat 11 biased).toNat = biased := by
      rw [BitVec.toNat_ofNat]
      omega
    have hne : BitVec.ofNat 11 biased ≠ -1#11 := by
      intro h
      have htop : biased = 2047 := by rw [← hbits, h]; rfl
      omega
    have hne' : BitVec.ofNat 11 biased ≠ 0#11 := by
      intro h
      have hbottom : biased = 0 := by rw [← hbits, h]; rfl
      omega
    obtain ⟨m, hm, hunpack⟩ := unpack_packComponents .positive (BitVec.ofNat 52 mantissa) hne hne'
    change Exceeds exponent (UnpackedFloat.unpack Format.binary64
      (packComponents Format.binary64 .positive (BitVec.ofNat 11 biased)
        (BitVec.ofNat 52 mantissa)))
    rw [hunpack]
    change exponent ≤ ((BitVec.ofNat 11 biased).toNat : Int) - (1023 + 52)
    omega

/-- A mantissa of at least 53 bits makes a double above zero. -/
theorem exceeds_of_rounded {mantissa : Nat} {exponent : Int} (hmantissa : 2 ^ 52 ≤ mantissa)
    (hexponent : -1074 ≤ exponent) (accuracy : Accuracy) :
    Exceeds exponent
      (pack (roundWithAccuracy Format.binary64 .positive mantissa exponent accuracy)).unpack := by
  obtain ⟨m, e, hm, hrounded, hlower, hupper, he⟩ :=
    roundWithAccuracy_eq_finite .positive hmantissa hexponent accuracy
  rw [hrounded]
  exact (exceeds_unpack_pack hm hlower hupper (Int.le_trans hexponent he)).mono he

/-! ### Whole numbers -/

/-- A whole number of at most 53 bits. -/
theorem exceeds_toFloat {n : Nat} (hpos : 0 < n) (hsmall : n < 2 ^ 53) :
    Exceeds (-52) n.toUInt64.toFloat.toModel.unpack := by
  have hword : n.toUInt64.toNat = n := by
    change n % 2 ^ 64 = n
    omega
  have hcompare : compare (n.toUInt64.toNat : Int) 0 = .gt := Int.compare_eq_gt.2 (by omega)
  have hne : n ≠ 0 := by omega
  have hlog : n.log2 < 53 := (Nat.log2_lt hne).2 hsmall
  change Exceeds (-52) (pack
    (UnpackedFloat.normalize Format.binary64 (n.toUInt64.toNat : Int) 0 .positive)).unpack
  rw [UnpackedFloat.normalize, hcompare, hword]
  change Exceeds (-52) (pack (UnpackedFloat.round Format.binary64 .positive n 0)).unpack
  have htarget : Format.binary64.targetExponent (totalExponent n 0) = (n.log2 : Int) - 52 := by
    rw [targetExponent_eq, totalExponent]
    omega
  have hshift : (0 - ((n.log2 : Int) - 52)).toNat = 52 - n.log2 := by omega
  rw [UnpackedFloat.round, htarget, decreaseExponent, hshift]
  refine (exceeds_of_rounded ?_ (by omega) .exact).mono (by omega)
  calc 2 ^ 52 = 2 ^ n.log2 * 2 ^ (52 - n.log2) := by rw [← Nat.pow_add]; congr 1; omega
    _ ≤ n * 2 ^ (52 - n.log2) := Nat.mul_le_mul_right _ (Nat.log2_self_le hne)
    _ = n <<< (52 - n.log2) := (Nat.shiftLeft_eq _ _).symm

/-- A double above zero is not brought down to zero when it is multiplied by one. -/
theorem exceeds_mul_one {x : Float} (h : Exceeds (-52) x.toModel.unpack) :
    Exceeds (-104) (x * 1.0).toModel.unpack := by
  have hone : (1.0 : Float).toModel.unpack = .finite .positive (2 ^ 52) (-52) (by decide) := rfl
  change Exceeds (-104)
    (pack (UnpackedFloat.mul Format.binary64 x.toModel.unpack (1.0 : Float).toModel.unpack)).unpack
  rw [hone]
  generalize x.toModel.unpack = y at h
  rcases y with ⟨_ | _⟩ | _ | _ | ⟨_ | _, m, e, hm⟩
  case infinity.positive => exact trivial
  case finite.positive =>
    have he : -52 ≤ e := h
    exact (exceeds_of_rounded (Nat.le_mul_of_pos_left _ hm) (by omega) .exact).mono (by omega)
  all_goals exact absurd h id

/-- A whole number of at least 53 bits. -/
theorem exceeds_ofScientific {n : Nat} (hlarge : 2 ^ 52 ≤ n) :
    Exceeds (-53) (Float.Model.ofScientific n 0).unpack := by
  have hrange : (2 : Int) ^ Format.binary64.exponentBits = 2048 := by decide
  have hproduct : UnpackedFloat.ofScientific Format.binary64 n 0 =
      roundWithAccuracy Format.binary64 (Sign.positive * Sign.positive) (n <<< 53 * 1) (-53 + 0)
        .exact := by
    rw [UnpackedFloat.ofScientific, dif_neg (by omega), if_neg (by omega), if_neg (by omega),
      if_pos (by decide)]
    rfl
  change Exceeds (-53) (pack (UnpackedFloat.ofScientific Format.binary64 n 0)).unpack
  rw [hproduct]
  refine exceeds_of_rounded ?_ (by decide) .exact
  rw [Nat.mul_one, Nat.shiftLeft_eq]
  omega

/-- **A whole number above zero is above zero as a double.** -/
theorem not_ofInt_le_zero {n : Int} (h : 0 < n) : ¬ Decimal.ofInt n ≤ 0.0 := by
  obtain ⟨m, rfl⟩ : ∃ m : Nat, n = m := ⟨n.toNat, by omega⟩
  have hpos : 0 < m := by omega
  have hnearest : Decimal.ofInt m = Decimal.nearest m 0 := by
    rw [Decimal.ofInt, if_neg (by omega), Int.natAbs_natCast]
  rw [hnearest, Decimal.nearest, if_neg (by omega)]
  dsimp only
  split
  · -- beyond all doubles
    decide
  · rw [if_neg (by omega)]
    change ¬ Float.ofScientific m false 0 ≤ 0.0
    by_cases hsmall : m < 2 ^ 53
    · have hproduct : Float.ofScientific m false 0 = m.toUInt64.toFloat * 1.0 :=
        dif_pos ⟨hsmall, by decide⟩
      rw [hproduct]
      exact not_le_zero_of_exceeds (exceeds_mul_one (exceeds_toFloat hpos hsmall))
    · have hrounded : Float.ofScientific m false 0 = ⟨Float.Model.ofScientific m 0⟩ :=
        dif_neg fun hboth => hsmall hboth.1
      rw [hrounded]
      exact not_le_zero_of_exceeds (exceeds_ofScientific (by omega))

end StationWatch.Doubles
