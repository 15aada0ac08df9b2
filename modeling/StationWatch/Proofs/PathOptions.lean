import StationWatch.Proofs.Escapes

/-!
# What a path carries and what it is written with

A path carries its options so that they can be read back: cut at its first question mark, at every
ampersand, and each piece at its first equals sign.  There is a question mark exactly if there are
options, be they empty texts.  All that stands after it is letters, digits and a few marks of the
basic alphabet, and escapes of a percent sign with two hexadecimal digits.  Options with a half in
them have no path.

## Main definitions

* `Percent.Escaped` — texts of plain characters and escapes.
* `isQueryCharacter` — the characters that stand in the options of a path beside escapes.

## Main results

* `Percent.escaped_encode` — a text is escaped to such a text.
* `escaped_joinWith` — what options are written with.
* `path_carries_options` — what a path carries and what it is written with.

## References

`SPEC_FULL.md`, sections 4.1 and 4.2, on the queries.
-/

namespace StationWatch.Query

namespace Percent

/-- Texts of plain characters, and of percent signs with two hexadecimal digits after each. -/
inductive Escaped (isPlain : Char → Bool) : List Char → Prop
  | nil : Escaped isPlain []
  /-- A plain character. -/
  | plain {c : Char} {cs : List Char} (h : isPlain c = true) (rest : Escaped isPlain cs) :
      Escaped isPlain (c :: cs)
  /-- An escaped byte. -/
  | byte {a b : Char} {m n : Nat} {cs : List Char} (ha : hexValue? a = some m)
      (hb : hexValue? b = some n) (rest : Escaped isPlain cs) :
      Escaped isPlain ('%' :: a :: b :: cs)

variable {isPlain : Char → Bool} {cs ds : List Char}

theorem Escaped.append (h : Escaped isPlain cs) (h' : Escaped isPlain ds) :
    Escaped isPlain (cs ++ ds) := by
  induction h with
  | nil => exact h'
  | plain hc _ ih => exact .plain hc ih
  | byte ha hb _ ih => exact .byte ha hb ih

theorem escaped_escapeByte (b : UInt8) : Escaped isPlain (escapeByte b) := by
  have hb : b.toNat < 256 := b.toNat_lt
  exact .byte (hexValue?_hexDigit (by omega)) (hexValue?_hexDigit (by omega)) .nil

theorem escaped_flatMap {α : Type} {f : α → List Char} (h : ∀ a, Escaped isPlain (f a))
    (list : List α) : Escaped isPlain (list.flatMap f) := by
  induction list with
  | nil => exact .nil
  | cons a rest ih => exact (h a).append ih

/-- A text is escaped to plain characters and escapes, if all that is left as it is counts as
plain. -/
theorem escaped_encode {spared : List Char} (hplain : ∀ c, isUnreserved c = true → isPlain c = true)
    (hspared : ∀ c ∈ spared, isPlain c = true) (cs : List Char) :
    Escaped isPlain (encode spared cs) := by
  refine escaped_flatMap (fun c => ?_) cs
  unfold encodeChar
  split
  · rename_i hkept
    rw [Bool.or_eq_true, List.contains_iff_mem] at hkept
    exact .plain (hkept.elim (hplain c) (hspared c)) .nil
  · exact escaped_flatMap escaped_escapeByte _

end Percent

open Percent

/-- The characters that stand in the options of a path beside escapes.  A percent sign is none of
them, so each one starts an escape. -/
def isQueryCharacter (c : Char) : Bool := isUnreserved c || ['(', ')', '&', '='].contains c

theorem isQueryCharacter_of_isUnreserved (c : Char) (h : isUnreserved c = true) :
    isQueryCharacter c = true := by
  rw [isQueryCharacter, h, Bool.true_or]

theorem escaped_pieceOf (option : String × String) : Escaped isQueryCharacter (pieceOf option) := by
  have hname : Escaped isQueryCharacter (encode [] option.1.toList) :=
    escaped_encode isQueryCharacter_of_isUnreserved (fun c hc => by cases hc) _
  have hexpression : Escaped isQueryCharacter (encode expressionMarks option.2.toList) :=
    escaped_encode isQueryCharacter_of_isUnreserved
      (List.all_eq_true.1 (by decide : expressionMarks.all isQueryCharacter = true)) _
  exact hname.append (.plain (by decide) hexpression)

/-- Options are written with these characters and escapes only. -/
theorem escaped_joinWith (options : List (String × String)) :
    Escaped isQueryCharacter (Text.joinWith '&' (options.map pieceOf)) := by
  induction options with
  | nil => exact .nil
  | cons option rest ih =>
    cases rest with
    | nil => exact escaped_pieceOf option
    | cons next rest => exact (escaped_pieceOf option).append (.plain (by decide) ih)

/-- Options always leave something, if only an equals sign. -/
theorem joinWith_ne_nil {options : List (String × String)} (h : options ≠ []) :
    Text.joinWith '&' (options.map pieceOf) ≠ [] := by
  have hpiece (option : String × String) : pieceOf option ≠ [] := by
    simp [pieceOf]
  cases options with
  | nil => exact absurd rfl h
  | cons option rest =>
    cases rest with
    | nil => exact hpiece option
    | cons next rest => exact List.append_ne_nil_of_left_ne_nil (hpiece option) _

/-! ### The parts of a path -/

/-- There is a question mark exactly if there are options. -/
theorem not_mem_pathWith_iff {resource : RawText} (h : '?' ∉ resource.chars)
    (options : List (String × String)) :
    '?' ∉ (pathWith resource (options.map pieceOf)).chars ↔ options = [] := by
  rw [pathWith_eq]
  split
  · rename_i hnone
    exact iff_of_true (not_mem_stem h) hnone
  · rename_i hsome
    exact iff_of_false (fun hnot => hnot (by simp)) hsome

/-- What stands around the first question mark. -/
theorem pathWith_eq_append {resource : RawText} (h : '?' ∉ resource.chars)
    {options : List (String × String)} {before query : RawText}
    (hpath : pathWith resource (options.map pieceOf) = before ++ "?" ++ query)
    (hbefore : '?' ∉ before.chars) :
    options ≠ [] ∧ before = stem resource ∧
      query = String.ofList (Text.joinWith '&' (options.map pieceOf)) := by
  have hsome : options ≠ [] := by
    intro hnone
    refine (not_mem_pathWith_iff h options).2 hnone ?_
    rw [hpath]
    simp
  rw [pathWith_eq, if_neg hsome] at hpath
  obtain ⟨hstem, hquery⟩ := RawText.eq_of_append_sep (not_mem_stem h) hbefore hpath
  exact ⟨hsome, hstem.symm, hquery.symm⟩

/-- **A path carries its options, in their order.**  For a resource without a question mark and any
options without halves, be they empty, repeated or full of signs, there is a path, and reading it
gives back the options; there is a question mark exactly if there are any; and what stands after the
first one is not empty and consists of letters, digits, a few marks and escapes.  Options with a
half in one of them have no path. -/
theorem path_carries_options (resource : RawText) (h : '?' ∉ resource.chars) :
    (∀ options : List (String × String),
      ∃ p, path resource (options.map wholeOption) = .ok p ∧ options? p = some options ∧
        ('?' ∉ p.chars ↔ options = []) ∧
        ∀ before query : RawText, p = before ++ "?" ++ query → '?' ∉ before.chars →
          before = stem resource ∧ ∃ written : String, query = written ∧ written ≠ "" ∧
            Escaped isQueryCharacter written.toList) ∧
    ∀ options : List (RawText × RawText),
      (∃ option ∈ options, option.1.characters? = none ∨ option.2.characters? = none) →
        ∃ fault, path resource options = .error fault := by
  refine ⟨fun options => ?_, fun options hhalf => path_of_half resource hhalf⟩
  refine ⟨_, path_of_whole resource options, options?_pathWith h options,
    not_mem_pathWith_iff h options, fun before query hpath hbefore => ?_⟩
  obtain ⟨hsome, hstem, rfl⟩ := pathWith_eq_append h hpath hbefore
  refine ⟨hstem, _, rfl, ?_, ?_⟩
  · intro hempty
    exact joinWith_ne_nil hsome (String.ofList_eq_empty_iff.1 hempty)
  · rw [String.toList_ofList]
    exact escaped_joinWith options

/-- Names and expressions that are empty, repeated, of another script or made of separators. -/
def oddOptions : List (String × String) := [("", ""), ("&=?", "%(é)"), ("", ""), ("a=b", "x&y")]

/-- They are read back from the path that carries them. -/
theorem oddOptions_carried : '?' ∉ RawText.chars "Things=&%" ∧
    ∃ p, path "Things=&%" (oddOptions.map wholeOption) = .ok p ∧
      p = ("/v1.1/Things=&%?=&%26%3D%3F=%25(%C3%A9)&=&a%3Db=x%26y" : RawText) ∧
      options? p = some oddOptions := by
  have h : '?' ∉ RawText.chars "Things=&%" := by decide
  obtain ⟨p, hpath, hread, -⟩ := (path_carries_options "Things=&%" h).1 oddOptions
  have hwhole := hpath.symm.trans (path_of_whole "Things=&%" oddOptions)
  refine ⟨h, p, hpath, ?_, hread⟩
  rw [Except.ok.inj hwhole]
  decide +kernel

/-- An expression that is the first of all halves. -/
def halfOption : RawText × RawText := ("$filter", .broken "" ⟨0⟩ "")

/-- There is no path that carries it, so none from which it could be read back. -/
theorem halfOption_not_carried : '?' ∉ RawText.chars "Datastreams" ∧
    path "Datastreams" [halfOption] = .error ⟨⟨0⟩, 0, 1⟩ :=
  ⟨by decide, rfl⟩

end StationWatch.Query
