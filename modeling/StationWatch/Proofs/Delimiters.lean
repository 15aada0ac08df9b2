import StationWatch.Proofs.Filters

/-!
# Literals end at their own closing quote

Scanning takes a quote that another quote follows for one quote of the text, and closes the literal
at the first quote that stands alone.  So what it reads can be written again: the scanned expression
starts with the literal of the text that was read, and no quote follows that literal.  Scanning and
writing are inverse to each other, and a literal says by itself where it ends.

## Main results

* `Literal.eq_of_scanTail`, `Literal.eq_of_scanText` — what was scanned, written again from what was
  read.
* `Literal.scan_eq_some_iff` — which expressions are scanned as a given literal and a given rest.
* `Literal.literals_delimit_themselves` — no text closes its literal early or extends it.

## References

`SPEC_FULL.md`, section 4.2, on the literals of a query.
-/

namespace StationWatch.Query.Literal

/-- Up to the closing quote the doubled text was scanned, and no quote follows the closing one. -/
theorem eq_of_scanTail {cs : List Char} {r : List Char × List Char} (h : scanTail cs = some r) :
    cs = double r.1 ++ mark :: r.2 ∧ r.2.head? ≠ some mark := by
  fun_induction scanTail cs generalizing r with
  | case1 => cases h
  | case2 =>
    -- The closing quote comes last.
    cases h
    exact ⟨rfl, by simp⟩
  | case3 => cases h
  | case4 cs ih =>
    -- A doubled quote.
    obtain ⟨⟨text, rest⟩, hr, rfl⟩ := Option.map_eq_some_iff.1 h
    obtain ⟨rfl, hrest⟩ := ih hr
    exact ⟨by simp [double], hrest⟩
  | case5 d cs hd =>
    -- A quote that stands alone.
    cases h
    exact ⟨rfl, by simpa using hd⟩
  | case6 c d cs hc ih =>
    obtain ⟨⟨text, rest⟩, hr, rfl⟩ := Option.map_eq_some_iff.1 h
    obtain ⟨heq, hrest⟩ := ih hr
    exact ⟨by rw [heq]; simp [double, hc], hrest⟩

/-- The same of a text with halves in it, which closes in the part in front of a half or behind
it. -/
theorem eq_of_scanText {t text rest : RawText} (h : scanText t = some (text, rest)) :
    t = text.map double ++ mark.toString ++ rest ∧ rest.dropPrefix? [mark] = none := by
  have hprefix {cs : List Char} (hcs : cs.head? ≠ some mark) : [mark].isPrefixOf cs = false := by
    cases cs with
    | nil => rfl
    | cons c cs =>
      have hne : c ≠ mark := fun heq => hcs (congrArg some heq)
      simp [List.isPrefixOf, Ne.symm hne]
  induction t generalizing text with
  | whole s =>
    obtain ⟨⟨cs, after⟩, hscan, hread⟩ := Option.map_eq_some_iff.1 h
    obtain ⟨heq, hafter⟩ := eq_of_scanTail hscan
    cases hread
    refine ⟨?_, by simp [RawText.dropPrefix?, hprefix hafter]⟩
    simp [← String.toList_inj, heq]
  | broken front half later ih =>
    rw [scanText] at h
    split at h
    · rename_i cs after hscan
      obtain ⟨heq, hafter⟩ := eq_of_scanTail hscan
      cases h
      refine ⟨?_, by simp [RawText.dropPrefix?, hprefix hafter]⟩
      simp [← String.toList_inj, heq]
    · split at h
      · rename_i cs hscan
        obtain ⟨heq, -⟩ := eq_of_scanTail hscan
        obtain ⟨⟨more, left⟩, hmore, hread⟩ := Option.map_eq_some_iff.1 h
        cases hread
        obtain ⟨hlater, hrest⟩ := ih hmore
        refine ⟨?_, hrest⟩
        have hfront : front.toList = double cs := List.append_cancel_right heq
        rw [RawText.map_broken, RawText.broken_append, RawText.broken_append, ← hlater,
          String.toList_ofList, ← hfront, String.ofList_toList]
      · cases h

/-- An expression is scanned as a text and a rest exactly if it is the literal of the text with the
rest behind it, and no quote starts the rest. -/
theorem scan_eq_some_iff {t text rest : RawText} :
    scan t = some (text, rest) ↔ t = ofText text ++ rest ∧ rest.dropPrefix? [mark] = none := by
  constructor
  · intro h
    obtain ⟨inner, hopened, hscan⟩ := Option.bind_eq_some_iff.1 h
    obtain ⟨rfl, hrest⟩ := eq_of_scanText hscan
    refine ⟨?_, hrest⟩
    rw [@RawText.eq_of_dropPrefix? mark.toString _ _ hopened]
    simp only [ofText, RawText.append_assoc]
  · rintro ⟨rfl, hrest⟩
    exact scan_ofText text hrest

/-- **Literals delimit themselves.**  Every text has a literal.  Scanning reads the text from it and
stops at its end, whatever stands behind, if and only if no quote follows at once.  And wherever
scanning reads that text, what it has scanned is the literal. -/
theorem literals_delimit_themselves (s : RawText) :
    ∃ literal, ofJson (.str s) = .ok literal ∧
      (∀ rest : RawText, scan (literal ++ rest) = some (s, rest) ↔
        rest.dropPrefix? [mark] = none) ∧
      ∀ expression rest : RawText, scan expression = some (s, rest) →
        expression = literal ++ rest := by
  refine ⟨ofText s, rfl, fun rest => ?_, fun expression rest h => (scan_eq_some_iff.1 h).1⟩
  rw [scan_eq_some_iff]
  exact and_iff_right rfl

/-- A name with quotes at its ends and two inside: its literal is the expression in front of the
rest that scanning leaves. -/
theorem quoted_name_delimits_itself :
    ∃ literal, ofJson (.str "'O''Brien'") = .ok literal ∧
      scan (literal ++ " or 'x'") = some (↑"'O''Brien'", ↑" or 'x'") ∧
      ("'''O''''Brien''' or 'x'" : RawText) = literal ++ " or 'x'" := by
  obtain ⟨literal, hliteral, hscan, hunique⟩ := literals_delimit_themselves "'O''Brien'"
  exact ⟨literal, hliteral, (hscan " or 'x'").2 (by decide), hunique _ _ (by decide)⟩

end StationWatch.Query.Literal
