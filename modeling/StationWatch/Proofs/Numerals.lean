import Mathlib.Data.List.Basic
import Mathlib.Data.List.TakeWhile
import StationWatch.Decimal.Numeral

/-!
# Whole numbers in the digits of any script

A text of digits is a whole number whatever script the digits are of, and its value is that of the
digits.  Characters that only look like digits are in no numeral, so a text that holds one is no
whole number, and neither is a text of more digits than allowed.

## Main definitions

* `Text.numeralValue` — the number that digits stand for.
* `Text.Numeral` — the texts that are whole numbers.

## Main results

* `Text.basicForm_of_digit`, `Text.basicForm_of_sign` — what characters that show digits become.
* `Decimal.leadingDigits_of_not_mem` — without underscores the leading digits are read as they are.
* `Decimal.integer?_of_numeral`, `Decimal.integer?_of_not_numeral` — which texts of characters that
  show digits are whole numbers.
-/

namespace StationWatch.Text

/-- The number that the decimal digits of a text stand for. -/
def numeralValue (cs : List Char) : Nat :=
  cs.foldl (fun n c => 10 * n + (digitValue? c).getD 0) 0

/-- A text of digits, of any script but no more than allowed. -/
structure Numeral (cs : List Char) : Prop where
  /-- Every character is a digit. -/
  digits : ∀ c ∈ cs, (digitValue? c).isSome = true
  /-- There are no more digits than allowed. -/
  short : cs.length ≤ Decimal.maxDigits

variable {c : Char}

/-! ### The tables -/

theorem zeros_apart : ∀ base ∈ zeros, base = 0x30 ∨ 0x7F ≤ base := by decide

theorem zeros_not_blank : ∀ base ∈ zeros, ∀ range ∈ blankTable,
    range.2 < base ∨ base + 10 ≤ range.1 := by decide

theorem digitSigns_apart : ∀ range ∈ digitSigns, 0x7F ≤ range.1 := by decide

theorem digitSigns_not_blank : ∀ sign ∈ digitSigns, ∀ range ∈ blankTable,
    range.2 < sign.1 ∨ sign.2 < range.1 := by decide

/-- A digit is so many places behind the zero of its script. -/
theorem exists_zero_of_digit {d : Nat} (h : digitValue? c = some d) :
    ∃ base ∈ zeros, c.toNat = base + d ∧ d < 10 := by
  obtain ⟨base, hfound, hd⟩ := Option.map_eq_some_iff.1 h
  have hmem : base ∈ zeros := List.mem_of_find?_eq_some hfound
  have hin := List.find?_some hfound
  simp only [Bool.and_eq_true, decide_eq_true_eq] at hin
  exact ⟨base, hmem, by omega, by omega⟩

theorem isDigitLike_of_digit (h : (digitValue? c).isSome = true) : isDigitLike c = true := by
  rw [isDigitLike, h, Bool.true_or]

/-! ### Characters in their basic form -/

theorem isBlank_of_digit {d : Nat} (h : digitValue? c = some d) : isBlank c = false := by
  obtain ⟨base, hmem, hplace, hd⟩ := exists_zero_of_digit h
  rw [Bool.eq_false_iff]
  intro hblank
  obtain ⟨range, hrange, hlow, hhigh⟩ := (Ranges.has_iff _ _).1 hblank
  have hapart := zeros_not_blank base hmem range hrange
  omega

/-- A digit of any script becomes the usual one of the same value. -/
theorem basicForm_of_digit {d : Nat} (h : digitValue? c = some d) :
    Decimal.basicForm c = Char.ofNat (48 + d) := by
  obtain ⟨base, hmem, hplace, hd⟩ := exists_zero_of_digit h
  unfold Decimal.basicForm
  by_cases hlow : c.toNat < 0x7F
  · -- Below the other scripts there are only the usual digits.
    have hzero : base = 0x30 := by
      have := zeros_apart base hmem
      omega
    rw [if_pos hlow, ← Char.ofNat_toNat c, hplace, hzero]
  · rw [if_neg hlow, isBlank_of_digit h, h]
    rfl

/-- A character that only looks like a digit becomes one that no numeral holds. -/
theorem basicForm_of_sign (h : isDigitLike c = true) (hnone : digitValue? c = none) :
    Decimal.basicForm c = '?' := by
  have hsign : digitSigns.has c = true := by
    simpa [isDigitLike, hnone] using h
  obtain ⟨sign, hmem, hlow, hhigh⟩ := (Ranges.has_iff _ _).1 hsign
  have hapart := digitSigns_apart sign hmem
  have hblank : isBlank c = false := by
    rw [Bool.eq_false_iff]
    intro hblank
    obtain ⟨range, hrange, hstart, hend⟩ := (Ranges.has_iff _ _).1 hblank
    have := digitSigns_not_blank sign hmem range hrange
    omega
  unfold Decimal.basicForm
  rw [if_neg (by omega), hblank, hnone]
  rfl

end StationWatch.Text

namespace StationWatch.Decimal

open Text

variable {c : Char} {cs : List Char}

/-! ### The usual digits -/

theorem isDigit_ofNat : ∀ d ∈ List.range 10,
    isDigit (Char.ofNat (48 + d)) = true ∧ (Char.ofNat (48 + d)).toNat - 48 = d := by decide

/-- The basic form of a character that shows a digit is a digit if and only if the character is
one. -/
theorem isDigit_basicForm (h : isDigitLike c = true) :
    isDigit (basicForm c) = (digitValue? c).isSome := by
  cases hvalue : digitValue? c with
  | none =>
    rw [basicForm_of_sign h hvalue]
    rfl
  | some d =>
    rw [basicForm_of_digit hvalue]
    exact (isDigit_ofNat d (List.mem_range.2 (digitValue?_lt hvalue))).1

theorem basicForm_of_isDigitLike (h : isDigitLike c = true) :
    isDigit (basicForm c) = true ∨ basicForm c = '?' := by
  cases hvalue : digitValue? c with
  | none => exact .inr (basicForm_of_sign h hvalue)
  | some d =>
    left
    rw [isDigit_basicForm h, hvalue]
    rfl

/-- Nothing that stands around the digits of a numeral is a digit. -/
theorem ne_of_isDigit (h : isDigit c = true ∨ c = '?') :
    isMargin c = false ∧ c ≠ '-' ∧ c ≠ '+' ∧ c ≠ '_' := by
  rcases h with hdigit | rfl
  · simp only [isDigit, Bool.and_eq_true, decide_eq_true_eq] at hdigit
    have hne : ∀ other : Char, other.toNat < 48 ∨ 57 < other.toNat → c ≠ other := by
      intro other hother hsame
      subst hsame
      omega
    refine ⟨?_, hne _ (by decide), hne _ (by decide), hne _ (by decide)⟩
    have hspace : (c == ' ') = false := by simpa using hne ' ' (by decide)
    rw [isMargin, hspace]
    simp only [Bool.false_or, Bool.and_eq_false_iff, decide_eq_false_iff_not]
    omega
  · decide

/-! ### Reading -/

theorem leadingDigits_cons_of_ne (h : c ≠ '_') (afterDigit : Bool) (cs : List Char) :
    leadingDigits afterDigit (c :: cs) =
      if isDigit c then (leadingDigits true cs).map fun r => (c :: r.1, r.2)
      else some ([], c :: cs) := by
  cases cs <;> simp [leadingDigits, h]

/-- Without underscores the leading digits are read as they are. -/
theorem leadingDigits_of_not_mem (h : '_' ∉ cs) (afterDigit : Bool) :
    leadingDigits afterDigit cs = some (cs.takeWhile isDigit, cs.dropWhile isDigit) := by
  induction cs generalizing afterDigit with
  | nil => rfl
  | cons c cs ih =>
    rw [List.mem_cons, not_or] at h
    rw [leadingDigits_cons_of_ne (Ne.symm h.1), ih h.2]
    by_cases hdigit : isDigit c = true <;> simp [hdigit]

/-- A text of characters that show digits has nothing around it. -/
theorem numeralText_of_isDigitLike (h : ∀ c ∈ cs, isDigitLike c = true) :
    numeralText cs = cs.map basicForm := by
  have hplain : ∀ b ∈ cs.map basicForm, isMargin b = false := by
    intro b hb
    obtain ⟨c, hc, rfl⟩ := List.mem_map.1 hb
    exact (ne_of_isDigit (basicForm_of_isDigitLike (h c hc))).1
  have hkept : ∀ bs : List Char, (∀ b ∈ bs, isMargin b = false) → bs.dropWhile isMargin = bs := by
    intro bs hbs
    cases bs with
    | nil => rfl
    | cons b bs => rw [List.dropWhile_cons, hbs b List.mem_cons_self]; rfl
  rw [numeralText, hkept _ hplain, hkept, List.reverse_reverse]
  intro b hb
  exact hplain b (List.mem_reverse.1 hb)

/-- What is read of a text of characters that show digits: its digits up to the first character
that is none. -/
theorem integer?_of_isDigitLike (h : ∀ c ∈ cs, isDigitLike c = true) :
    integer? cs =
      let digits := (cs.map basicForm).takeWhile isDigit
      if digits.isEmpty then .error .malformed
      else if maxDigits < digits.length then .error (.tooLong digits.length)
      else if ((cs.map basicForm).dropWhile isDigit).isEmpty then .ok (valueOf digits)
      else .error .malformed := by
  have hne : ∀ b ∈ cs.map basicForm, b ≠ '-' ∧ b ≠ '+' ∧ b ≠ '_' := by
    intro b hb
    obtain ⟨c, hc, rfl⟩ := List.mem_map.1 hb
    exact (ne_of_isDigit (basicForm_of_isDigitLike (h c hc))).2
  have hunsigned : signed (cs.map basicForm) = (false, cs.map basicForm) := by
    cases hbs : cs.map basicForm with
    | nil => rfl
    | cons b bs =>
      obtain ⟨hminus, hplus, -⟩ := hne b (hbs ▸ List.mem_cons_self)
      simp [signed, hminus, hplus]
  have hunscored : '_' ∉ cs.map basicForm := fun hmem => (hne _ hmem).2.2 rfl
  simp only [integer?, numeralText_of_isDigitLike h, hunsigned,
    leadingDigits_of_not_mem hunscored]
  rfl

theorem valueOf_map_basicForm (h : ∀ c ∈ cs, (digitValue? c).isSome = true) :
    valueOf (cs.map basicForm) = numeralValue cs := by
  rw [valueOf, List.foldl_map]
  apply List.foldl_ext
  intro n c hc
  obtain ⟨d, hd⟩ := Option.isSome_iff_exists.1 (h c hc)
  rw [basicForm_of_digit hd, hd]
  simp only [Option.getD_some]
  rw [(isDigit_ofNat d (List.mem_range.2 (digitValue?_lt hd))).2]

/-- A numeral is read as the number that its digits stand for. -/
theorem integer?_of_numeral (h : Numeral cs) (hne : cs ≠ []) :
    integer? cs = .ok (numeralValue cs : Int) := by
  have hshown : ∀ c ∈ cs, isDigitLike c = true := fun c hc => isDigitLike_of_digit (h.digits c hc)
  have hdigits : ∀ b ∈ cs.map basicForm, isDigit b = true := by
    intro b hb
    obtain ⟨c, hc, rfl⟩ := List.mem_map.1 hb
    rw [isDigit_basicForm (hshown c hc)]
    exact h.digits c hc
  have htaken : (cs.map basicForm).takeWhile isDigit = cs.map basicForm :=
    List.takeWhile_eq_self_iff.2 hdigits
  have hdropped : (cs.map basicForm).dropWhile isDigit = [] :=
    List.dropWhile_eq_nil_iff.2 hdigits
  have hshort : ¬ maxDigits < (cs.map basicForm).length := by
    rw [List.length_map]
    exact Nat.not_lt.2 h.short
  rw [integer?_of_isDigitLike hshown]
  simp only [htaken, hdropped, valueOf_map_basicForm h.digits, hshort, if_false]
  simp [hne]

/-- A text of characters that show digits is no whole number if it is no numeral. -/
theorem integer?_of_not_numeral (hshown : ∀ c ∈ cs, isDigitLike c = true) (h : ¬ Numeral cs) :
    ∃ fault, integer? cs = .error fault := by
  rw [integer?_of_isDigitLike hshown]
  dsimp only
  split
  · exact ⟨_, rfl⟩
  · split
    · exact ⟨_, rfl⟩
    · rename_i hshort
      split
      · -- All characters would be digits, and not too many.
        rename_i hall
        have hdigits := List.dropWhile_eq_nil_iff.1 (List.isEmpty_iff.1 hall)
        refine absurd ⟨?_, ?_⟩ h
        · intro c hc
          rw [← isDigit_basicForm (hshown c hc)]
          exact hdigits _ (List.mem_map_of_mem hc)
        · rw [List.takeWhile_eq_self_iff.2 hdigits, List.length_map] at hshort
          exact Nat.not_lt.1 hshort
      · exact ⟨_, rfl⟩

end StationWatch.Decimal
