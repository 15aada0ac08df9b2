import StationWatch.Query.Shapes
import StationWatch.Proofs.Escapes

/-!
# Nothing written into a filter escapes from it

The query for an observation carries two texts from outside, the name of what is measured and the
name of the station, each as a literal inside the filter expression, which is escaped as a whole.
Taking the path apart gives the three options of the query, and taking its filter apart gives the
literals that were put in between the fixed texts of the template.  So two different pairs of texts
never give one path, and neither does a station selected by its name and one selected by its
identifier.  Texts with a half in them have no path.

## Main results

* `Literal.scanTail_double`, `Literal.scan_ofText` — a literal is read back up to its own closing
  quote.
* `Literal.cut_encode` — an expression is cut at a literal that stands after plain text.
* `Literal.ofJson_cases` — a literal is a quoted text or holds no quote at all.
* `cut_filterOf_clauseOf` — the literals of the filter for a named station.
* `exists_of_latestPath` — only texts without halves have a path.
* `latestObservation_nameClause_unambiguous` — the path for a named station is unambiguous.

## References

`SPEC_FULL.md`, section 4.2, on the query for the latest observation.
-/

namespace StationWatch.Query.Literal

/-! ### Reading one literal back -/

theorem scanTail_cons_of_ne {c : Char} (h : c ≠ mark) (cs : List Char) :
    scanTail (c :: cs) = (scanTail cs).map fun r => (c :: r.1, r.2) := by
  cases cs with
  | nil => simp [scanTail, h]
  | cons d cs => simp [scanTail, h]

/-- A literal is read back up to its own closing quote, whatever quotes the text holds, unless
another quote follows at once. -/
theorem scanTail_double (cs : List Char) {rest : List Char} (h : rest.head? ≠ some mark) :
    scanTail (double cs ++ mark :: rest) = some (cs, rest) := by
  induction cs with
  | nil =>
    cases rest with
    | nil => rfl
    | cons d rest =>
      have hd : d ≠ mark := fun heq => h (congrArg some heq)
      simp [scanTail, hd]
  | cons c cs ih =>
    by_cases hc : c = mark
    · simp [double, scanTail, hc, ih]
    · simp [double, hc, scanTail_cons_of_ne, ih]

/-- Characters whose quotes are all doubled do not close a literal. -/
theorem scanTail_double_eq_none (cs : List Char) : scanTail (double cs) = none := by
  induction cs with
  | nil => rfl
  | cons c cs ih =>
    by_cases hc : c = mark
    · simp [double, scanTail, hc, ih]
    · simp [double, hc, scanTail_cons_of_ne, ih]

/-- The same of a text with halves in it. -/
theorem scanText_double (t : RawText) {rest : RawText} (h : rest.dropPrefix? [mark] = none) :
    scanText (t.map double ++ mark.toString ++ rest) = some (t, rest) := by
  have htoList (s s' : String) : (String.ofList (double s.toList) ++ mark.toString ++ s').toList =
      double s.toList ++ mark :: s'.toList := by simp
  have hhead {s : String} (hs : ¬ [mark].isPrefixOf s.toList) : s.toList.head? ≠ some mark := by
    intro heq
    obtain ⟨cs, hcs⟩ := List.head?_eq_some_iff.1 heq
    exact hs (by rw [hcs]; simp)
  induction t with
  | whole s =>
    rw [RawText.map_whole, RawText.whole_append_whole]
    cases rest with
    | whole s' =>
      have hs' : ¬ [mark].isPrefixOf s'.toList := fun hs' => by simp [RawText.dropPrefix?, hs'] at h
      simp only [RawText.whole_append_whole, scanText, htoList, scanTail_double _ (hhead hs'),
        Option.map_some, String.ofList_toList]
    | broken front half later =>
      have hfront : ¬ [mark].isPrefixOf front.toList := fun hfront => by
        simp [RawText.dropPrefix?, hfront] at h
      simp only [RawText.whole_append_broken, scanText, htoList, scanTail_double _ (hhead hfront),
        String.ofList_toList]
  | broken front half later ih =>
    have hclosed : scanTail (double front.toList ++ [mark]) = some (front.toList, []) :=
      scanTail_double front.toList (by simp)
    simp only [RawText.map_broken, RawText.broken_append, scanText, String.toList_ofList,
      scanTail_double_eq_none, hclosed, ih, Option.map_some, String.ofList_toList]

/-- The literal of a text is read back, unless another quote follows at once. -/
theorem scan_ofText (t : RawText) {rest : RawText} (h : rest.dropPrefix? [mark] = none) :
    scan (ofText t ++ rest) = some (t, rest) := by
  have hopened : (ofText t ++ rest).dropPrefix? [mark] =
      some (t.map double ++ mark.toString ++ rest) := by
    have hshape : ofText t ++ rest = mark.toString ++ (t.map double ++ mark.toString ++ rest) := by
      simp only [ofText, RawText.append_assoc]
    rw [hshape]
    exact RawText.dropPrefix?_append mark.toString _
  rw [scan, hopened, Option.bind_some, scanText_double t h]

/-! ### Cutting an expression -/

variable {before : List Char}

theorem cut_of_not_mem (h : mark ∉ before) : cut before = some ⟨[], before⟩ := by
  have hnone := Text.dropWhile_ne_of_not_mem h
  rw [cut]
  split
  · rfl
  · rename_i hfound
    rw [hnone] at hfound
    cases hfound

/-- An expression is cut at a literal that stands after plain text. -/
theorem cut_encode (h : mark ∉ before) (cs : List Char) {rest : List Char}
    (hr : rest.head? ≠ some mark) :
    cut (before ++ (encode cs ++ rest)) =
      (cut rest).map fun c => { c with literals := (before, cs) :: c.literals } := by
  have hshape : before ++ (encode cs ++ rest) = before ++ mark :: (double cs ++ mark :: rest) := by
    simp [encode]
  have hfront := Text.takeWhile_ne_append h (double cs ++ mark :: rest)
  have hback := Text.dropWhile_ne_append h (double cs ++ mark :: rest)
  rw [hshape, cut]
  split
  · rename_i hfound
    rw [hback] at hfound
    cases hfound
  · rename_i hfound
    rw [hback] at hfound
    cases hfound
    split
    · rename_i hscanned
      rw [scanTail_double cs hr] at hscanned
      cases hscanned
    · rename_i hscanned
      rw [scanTail_double cs hr] at hscanned
      cases hscanned
      rw [hfront]

/-! ### Numbers hold no quote -/

theorem mark_not_mem_digitsOf (n : Nat) : mark ∉ Decimal.digitsOf n := by
  intro hmem
  have hdigit : mark.isDigit = true := Nat.isDigit_of_mem_toDigits (by decide) (by decide) hmem
  revert hdigit
  decide

theorem mark_not_mem_toString (n : Int) : mark ∉ (toString n).toList := by
  have hdigits (m : Nat) : mark ∉ (toString m).toList := by
    have hshown : (toString m).toList = Decimal.digitsOf m := String.toList_ofList
    rw [hshown]
    exact mark_not_mem_digitsOf m
  cases n with
  | ofNat m => exact hdigits m
  | negSucc m =>
    have hshown : (toString (Int.negSucc m)).toList = '-' :: (toString (m + 1)).toList :=
      String.toList_append
    rw [hshown, List.mem_cons, not_or]
    exact ⟨by decide, hdigits _⟩

theorem mark_not_mem_exponentText (e : Int) : mark ∉ Decimal.exponentText e := by
  have hdigits := mark_not_mem_digitsOf e.natAbs
  have hsign : mark ≠ (if e < 0 then '-' else '+') := by
    split <;> decide
  simp only [Decimal.exponentText, List.mem_cons, not_or]
  refine ⟨hsign, ?_⟩
  split
  · exact List.not_mem_cons_of_ne_of_not_mem (by decide) hdigits
  · exact hdigits

theorem mark_not_mem_layout {ds : List Char} (h : mark ∉ ds) (point : Int) :
    mark ∉ Decimal.layout ds point := by
  have hzeros (n : Nat) : mark ∉ List.replicate n '0' := by
    intro hmem
    exact absurd (List.eq_of_mem_replicate hmem) (by decide)
  have hexponent := mark_not_mem_exponentText (point - 1)
  have hpoint : mark ≠ '.' := by decide
  have hzero : mark ≠ '0' := by decide
  have he : mark ≠ 'e' := by decide
  unfold Decimal.layout
  split
  · split
    · simp [h, hzeros, hpoint, hzero]
    · split
      · simp [h, hzeros, hpoint, hzero]
      · have hfront : mark ∉ ds.take point.toNat := fun hmem => h (List.mem_of_mem_take hmem)
        have hback : mark ∉ ds.drop point.toNat := fun hmem => h (List.mem_of_mem_drop hmem)
        simp [hfront, hback, hpoint]
  · split
    · exact h
    · simp only [List.mem_cons, not_or] at h ⊢
      exact ⟨h.1, he, hexponent⟩
    · simp only [List.mem_cons, List.mem_append, List.cons_append, not_or] at h ⊢
      exact ⟨h.1, hpoint, h.2, he, hexponent⟩

theorem mark_not_mem_magnitudeText (x : Decimal.Binary) : mark ∉ x.magnitudeText := by
  unfold Decimal.Binary.magnitudeText
  split
  · decide
  · refine mark_not_mem_layout ?_ _
    intro hmem
    have hreverse := List.mem_reverse.1 hmem
    have hdigits := List.mem_reverse.1 ((List.dropWhile_suffix _).subset hreverse)
    exact mark_not_mem_digitsOf _ hdigits

theorem mark_not_mem_text (x : Float) : mark ∉ (Decimal.text x).toList := by
  unfold Decimal.text
  split
  · decide
  · split <;> decide
  · rename_i value _
    have hdigits := mark_not_mem_magnitudeText value
    rw [String.toList_ofList]
    split
    · exact List.not_mem_cons_of_ne_of_not_mem (by decide) hdigits
    · exact hdigits

/-- A literal is a quoted text or holds neither a quote nor a half. -/
theorem ofJson_cases {measured : Json} {literal : RawText} (h : ofJson measured = .ok literal) :
    (∃ text, literal = ofText text) ∨ ∃ s : String, literal = s ∧ mark ∉ s.toList := by
  cases measured with
  | bool b => cases h
  | int n => exact .inr ⟨toString n, (Except.ok.inj h).symm, mark_not_mem_toString n⟩
  | float x => exact .inr ⟨Decimal.text x, (Except.ok.inj h).symm, mark_not_mem_text x⟩
  | null | str _ | arr _ | obj _ => exact .inl ⟨_, (Except.ok.inj h).symm⟩

/-- Only a text without halves has a literal without them. -/
theorem exists_of_ofText_eq {t : RawText} {s : String} (h : ofText t = s) :
    ∃ text : String, t = text ∧ s = ofString text := by
  cases t with
  | whole text =>
    rw [ofText_whole] at h
    exact ⟨text, rfl, (RawText.whole.inj h).symm⟩
  | broken front half rest => cases h

theorem toList_ofString (s : String) : (ofString s).toList = encode s.toList :=
  String.toList_ofList

end StationWatch.Query.Literal

namespace StationWatch.Query

open Literal

/-! ### The filter of the query -/

/-- The text in front of the literal of what is measured. -/
def measuredText : List Char := "substringof(".toList

/-- The text between the literal of what is measured and the one of the status. -/
def statusText : List Char := ",name) and Thing/properties/status eq ".toList

/-- The text between the literal of the status and the one of a station name. -/
def nameText : List Char := " and Thing/Locations/name eq ".toList

/-- The filter expression of texts without halves. -/
def filterOf (literal clause : String) : String :=
  "substringof(" ++ literal ++ ",name) and Thing/properties/status eq " ++
    ofString onlineStatus ++ " and " ++ clause

/-- The condition that selects a station by a name without halves. -/
def clauseOf (station : String) : String := "Thing/Locations/name eq " ++ ofString station

theorem nameClause_whole (station : String) : nameClause station = clauseOf station := by
  rw [nameClause, ofText_whole]
  rfl

/-- A filter expression is without halves if the literal and the clause are. -/
theorem characters?_streamFilter {literal clause : RawText} :
    (streamFilter literal clause).characters? = none ↔
      literal.characters? = none ∨ clause.characters? = none := by
  cases literal with
  | broken front half rest => exact iff_of_true rfl (.inl rfl)
  | whole s =>
    cases clause with
    | broken front half rest => exact iff_of_true rfl (.inr rfl)
    | whole s' => exact iff_of_false (nofun) (by simp)

theorem toList_filterOf (literal clause : String) :
    (filterOf literal clause).toList =
      measuredText ++ (literal.toList ++ (statusText ++
        (encode onlineStatus.toList ++ (" and ".toList ++ clause.toList)))) := by
  -- The texts are named, so that no string of the template is compared letter by letter.
  have hjoined (a b c d e f : String) : (a ++ b ++ c ++ d ++ e ++ f).toList =
      a.toList ++ (b.toList ++ (c.toList ++ (d.toList ++ (e.toList ++ f.toList)))) := by
    simp only [String.toList_append, List.append_assoc]
  exact (hjoined _ literal _ (ofString onlineStatus) _ clause).trans
    (by rw [toList_ofString]; rfl)

theorem toList_clauseOf (station : String) :
    (clauseOf station).toList = "Thing/Locations/name eq ".toList ++ encode station.toList := by
  have hjoined : (clauseOf station).toList =
      "Thing/Locations/name eq ".toList ++ (ofString station).toList := String.toList_append
  rw [toList_ofString] at hjoined
  exact hjoined

theorem nameText_eq_append : nameText = " and ".toList ++ "Thing/Locations/name eq ".toList := by
  decide

/-- The literals of the filter for a named station, each after the text in front of it. -/
theorem cut_filterOf_clauseOf (measured station : String) :
    cut (filterOf (ofString measured) (clauseOf station)).toList =
      some
        { literals :=
            [(measuredText, measured.toList), (statusText, onlineStatus.toList),
             (nameText, station.toList)]
          rest := [] } := by
  have hmeasured : mark ∉ measuredText := by decide
  have hstatus : mark ∉ statusText := by decide
  have hname : mark ∉ nameText := by decide
  have hthird : cut (nameText ++ (encode station.toList ++ [])) =
      some ⟨[(nameText, station.toList)], []⟩ := by
    rw [cut_encode hname _ (by simp), cut_of_not_mem List.not_mem_nil]
    rfl
  have hsecond : cut (statusText ++ (encode onlineStatus.toList ++
      (nameText ++ (encode station.toList ++ [])))) =
        some ⟨[(statusText, onlineStatus.toList), (nameText, station.toList)], []⟩ := by
    rw [cut_encode hstatus _ (by rintro ⟨⟩), hthird]
    rfl
  have hfirst : cut (measuredText ++ (encode measured.toList ++ (statusText ++
      (encode onlineStatus.toList ++ (nameText ++ (encode station.toList ++ [])))))) =
        some ⟨[(measuredText, measured.toList), (statusText, onlineStatus.toList),
          (nameText, station.toList)], []⟩ := by
    rw [cut_encode hmeasured _ (by rintro ⟨⟩), hsecond]
    rfl
  rw [toList_filterOf, toList_ofString, toList_clauseOf, ← List.append_assoc " and ".toList,
    ← nameText_eq_append]
  rw [List.append_nil] at hfirst
  exact hfirst

/-! ### The path of the query -/

/-- The expression that asks for the latest observation of each data stream. -/
def latestExpansion : String :=
  "Observations($orderby=phenomenonTime desc;$filter=" ++ observationWindow ++ ")"

/-- The options of the query, of texts without halves. -/
def optionsOf (literal clause : String) : List (String × String) :=
  [("$top", "1"), ("$expand", latestExpansion), ("$filter", filterOf literal clause)]

/-- The path of the query, of texts without halves. -/
def pathOf (literal clause : String) : RawText :=
  pathWith "Datastreams" ((optionsOf literal clause).map pieceOf)

theorem latestPath_whole (literal clause : String) :
    latestPath literal clause = .ok (pathOf literal clause) :=
  path_of_whole "Datastreams" (optionsOf literal clause)

/-- Only texts without halves have a path. -/
theorem exists_of_latestPath {literal clause p : RawText} (h : latestPath literal clause = .ok p) :
    ∃ l c : String, literal = l ∧ clause = c ∧ p = pathOf l c := by
  have hwhole : ¬ (literal.characters? = none ∨ clause.characters? = none) := by
    intro hhalf
    obtain ⟨fault, hfault⟩ := @path_of_half "Datastreams" (latestOptions literal clause)
      ⟨("$filter", streamFilter literal clause), by simp [latestOptions],
        .inr (characters?_streamFilter.2 hhalf)⟩
    rw [latestPath, hfault] at h
    cases h
  cases literal with
  | broken front half rest => exact absurd (.inl rfl) hwhole
  | whole l =>
    cases clause with
    | broken front half rest => exact absurd (.inr rfl) hwhole
    | whole c =>
      rw [latestPath_whole] at h
      exact ⟨l, c, rfl, rfl, (Except.ok.inj h).symm⟩

/-- The query carries three options, and they are read back from its path. -/
theorem options?_pathOf (literal clause : String) :
    options? (pathOf literal clause) = some (optionsOf literal clause) :=
  options?_pathWith (by decide) _

theorem filterOf_eq_of_pathOf_eq {literal literal' clause clause' : String}
    (h : pathOf literal clause = pathOf literal' clause') :
    filterOf literal clause = filterOf literal' clause' := by
  have hoptions := congrArg options? h
  rw [options?_pathOf, options?_pathOf] at hoptions
  simp only [optionsOf, Option.some.injEq, List.cons.injEq, Prod.mk.injEq, and_true, true_and]
    at hoptions
  exact hoptions

/-- The path for a named station determines what is measured and the name. -/
theorem eq_of_pathOf_clauseOf_eq {measured measured' station station' : String}
    (h : pathOf (ofString measured) (clauseOf station) =
      pathOf (ofString measured') (clauseOf station')) :
    measured = measured' ∧ station = station' := by
  have hfilters := filterOf_eq_of_pathOf_eq h
  have hcuts := congrArg (fun filter : String => cut filter.toList) hfilters
  simp only [cut_filterOf_clauseOf, Option.some.injEq, Cut.mk.injEq, List.cons.injEq,
    Prod.mk.injEq, String.toList_inj, and_true, true_and] at hcuts
  exact hcuts

/-- What stands in front of the identifier in a clause. -/
def idText : String := "Thing/Locations/@iot.id eq "

theorem idClause_eq_append {code clause : RawText} (h : idClause code = .ok clause) :
    ∃ identifier : RawText, clause = idText ++ identifier := by
  unfold idClause at h
  split at h
  · split at h
    · exact ⟨_, (Except.ok.inj h).symm⟩
    · cases h
  · exact ⟨_, (Except.ok.inj h).symm⟩

/-- The two ways to select a station differ in their first letters. -/
theorem idText_append_ne_clauseOf (identifier station : String) :
    idText ++ identifier ≠ clauseOf station := by
  intro heq
  have hstarts (a b : String) (hlong : 17 ≤ a.toList.length) :
      (a ++ b).toList.take 17 = a.toList.take 17 := by
    rw [String.toList_append, List.take_append_of_le_length hlong]
  have hletters := congrArg (fun text : String => text.toList.take 17) heq
  have hleft := hstarts idText identifier (by decide)
  have hright := hstarts "Thing/Locations/name eq " (ofString station) (by decide)
  have hequal := hleft.symm.trans (hletters.trans hright)
  revert hequal
  decide

/-- If both filters measure a quoted text, their clauses are told apart behind it. -/
theorem clause_eq_of_filterOf_eq {measured measured' clause clause' : String}
    (h : filterOf (ofString measured) clause = filterOf (ofString measured') clause') :
    clause = clause' := by
  have htexts := congrArg String.toList h
  rw [toList_filterOf, toList_filterOf, toList_ofString, toList_ofString] at htexts
  -- Behind the first quote of both filters the scanner finds the two texts, and the same rest.
  have hquoted := List.append_cancel_left htexts
  simp only [encode, List.cons_append, List.append_assoc, List.nil_append, List.cons.injEq,
    true_and] at hquoted
  have hscanned := congrArg scanTail hquoted
  rw [scanTail_double _ (by rintro ⟨⟩), scanTail_double _ (by rintro ⟨⟩)] at hscanned
  have hbehind := congrArg Prod.snd (Option.some.inj hscanned)
  have hclosing := List.cons.inj (List.append_cancel_left hbehind)
  have hstatus := List.cons.inj (List.append_cancel_left hclosing.2)
  exact String.toList_inj.1 (List.append_cancel_left hstatus.2)

/-- If what is measured is written without a quote, the first literal of the filter is the status,
behind a longer text than that of any quoted one. -/
theorem filterOf_ne_of_unquoted {literal : String} (h : mark ∉ literal.toList)
    (measured clause clause' : String) :
    filterOf literal clause ≠ filterOf (ofString measured) clause' := by
  intro heq
  have hmeasured : mark ∉ measuredText := by decide
  have hstatus : mark ∉ statusText := by decide
  have hplain : mark ∉ measuredText ++ (literal.toList ++ statusText) := by
    simp only [List.mem_append, not_or]
    exact ⟨hmeasured, h, hstatus⟩
  have htexts := congrArg String.toList heq
  rw [toList_filterOf, toList_filterOf, toList_ofString] at htexts
  -- Up to the first quote, one filter holds the whole text in front of the status.
  have hfronts := congrArg (List.takeWhile (· != mark)) htexts
  rw [← List.append_assoc literal.toList, ← List.append_assoc measuredText] at hfronts
  simp only [encode, List.cons_append] at hfronts
  rw [Text.takeWhile_ne_append hplain, Text.takeWhile_ne_append hmeasured] at hfronts
  have hlengths := congrArg List.length hfronts
  have hpositive : 0 < statusText.length := by decide
  simp only [List.length_append] at hlengths
  omega

/-- Only this pair of texts gives the query for a named station. -/
theorem latestObservation_nameClause_eq_iff {measured station : String}
    {measured' station' : RawText} :
    latestObservation (.str measured') (nameClause station') =
        .ok (pathOf (ofString measured) (clauseOf station)) ↔
      measured' = measured ∧ station' = station := by
  constructor
  · intro h
    obtain ⟨literal, hliteral, hpath⟩ := latestObservation_eq_ok_iff.1 h
    obtain ⟨l, c, rfl, hclause, hsame⟩ := exists_of_latestPath hpath
    obtain ⟨m, rfl, rfl⟩ := exists_of_ofText_eq (Except.ok.inj hliteral)
    cases station' with
    | whole s =>
      rw [nameClause_whole] at hclause
      rw [← RawText.whole.inj hclause] at hsame
      obtain ⟨rfl, rfl⟩ := eq_of_pathOf_clauseOf_eq hsame
      exact ⟨rfl, rfl⟩
    | broken front half rest => cases hclause
  · rintro ⟨rfl, rfl⟩
    rw [latestObservation_str, ofText_whole, nameClause_whole, latestPath_whole]
    rfl

/-- There is no query for a named station if one of the texts has a half in it. -/
theorem latestObservation_of_half {measured station : RawText}
    (h : measured.characters? = none ∨ station.characters? = none) :
    ∃ fault, latestObservation (.str measured) (nameClause station) = .error (.encoding fault) := by
  rw [latestObservation_str]
  cases hpath : latestPath (ofText measured) (nameClause station) with
  | error fault => exact ⟨fault, rfl⟩
  | ok p =>
    obtain ⟨l, c, hliteral, hclause, -⟩ := exists_of_latestPath hpath
    obtain ⟨m, rfl, -⟩ := exists_of_ofText_eq hliteral
    rcases h with h | h
    · cases h
    · cases station with
      | whole s => cases h
      | broken front half rest => cases hclause

/-- A query for a station selected by its identifier is none for a named one. -/
theorem latestObservation_idClause_ne {measured : Json} {code clause : RawText}
    (h : idClause code = .ok clause) (text station : String) :
    latestObservation measured clause ≠ .ok (pathOf (ofString text) (clauseOf station)) := by
  intro heq
  obtain ⟨literal, hliteral, hpath⟩ := latestObservation_eq_ok_iff.1 heq
  obtain ⟨l, c, rfl, rfl, hsame⟩ := exists_of_latestPath hpath
  obtain ⟨identifier, hclause⟩ := idClause_eq_append h
  have hfilters := filterOf_eq_of_pathOf_eq hsame
  rcases ofJson_cases hliteral with ⟨quoted, hquoted⟩ | ⟨s, hs, hunquoted⟩
  · obtain ⟨measured', -, rfl⟩ := exists_of_ofText_eq hquoted.symm
    -- The clause ends with the identifier, which has no half because the clause has none.
    cases identifier with
    | whole i =>
      rw [RawText.whole_append_whole] at hclause
      rw [RawText.whole.inj hclause] at hfilters
      exact idText_append_ne_clauseOf i station (clause_eq_of_filterOf_eq hfilters).symm
    | broken front half rest => cases hclause
  · rw [RawText.whole.inj hs] at hfilters
    exact filterOf_ne_of_unquoted hunquoted _ _ _ hfilters.symm

/-- The query for the latest observation of a named station is unambiguous.  If neither text from
outside has a half in it, there is a path, which carries exactly three options; the filter among
them holds three literals, the two texts and the status between them, each behind its text of the
template; no other pair of texts gives this path; and no query for a station selected by its
identifier does.  If one of them has, there is no path. -/
theorem latestObservation_nameClause_unambiguous :
    (∀ measured station : String,
      ∃ p filter, latestObservation (.str measured) (nameClause station) = .ok p ∧
        options? p =
          some
            [("$top", "1"),
             ("$expand",
               "Observations($orderby=phenomenonTime desc;$filter=" ++ observationWindow ++ ")"),
             ("$filter", filter)] ∧
        cut filter.toList =
          some
            { literals :=
                [("substringof(".toList, measured.toList),
                 (",name) and Thing/properties/status eq ".toList, "online".toList),
                 (" and Thing/Locations/name eq ".toList, station.toList)]
              rest := [] } ∧
        (∀ measured' station' : RawText,
          latestObservation (.str measured') (nameClause station') = .ok p ↔
            measured' = measured ∧ station' = station) ∧
        ∀ (measured' : Json) (code : RawText),
          (do latestObservation measured' (← idClause code)) ≠ Except.ok p) ∧
    ∀ measured station : RawText, measured.characters? = none ∨ station.characters? = none →
      ∃ fault,
        latestObservation (.str measured) (nameClause station) = .error (.encoding fault) := by
  refine ⟨fun measured station => ?_, fun _ _ hhalf => latestObservation_of_half hhalf⟩
  refine ⟨pathOf (ofString measured) (clauseOf station),
    filterOf (ofString measured) (clauseOf station),
    latestObservation_nameClause_eq_iff.2 ⟨rfl, rfl⟩, options?_pathOf _ _,
    cut_filterOf_clauseOf measured station,
    fun measured' station' => latestObservation_nameClause_eq_iff, ?_⟩
  intro measured' code heq
  cases hclause : idClause code with
  | error fault =>
    rw [hclause] at heq
    cases heq
  | ok clause =>
    rw [hclause] at heq
    exact latestObservation_idClause_ne hclause measured station heq

/-- A station name that holds the byte of an older alphabet in the place of a sharp s. -/
def oldSpelling : RawText := .broken "Stra" ⟨0x4DF, by decide⟩ "e"

/-- There is no query for it, so nothing of it can be read back. -/
theorem oldSpelling_has_no_query : ∃ fault,
    latestObservation (.str "lufttemperatur") (nameClause oldSpelling) = .error (.encoding fault) :=
  latestObservation_of_half (.inr rfl)

/-- Two texts with signs of the template in them have a query of their own, and there is none for a
text with a half. -/
theorem quoted_names_have_one_query :
    (∃ p, latestObservation (.str "wind & 'gust'") (nameClause "O'Brien #1?=") = .ok p ∧
      ∀ measured station : RawText,
        latestObservation (.str measured) (nameClause station) = .ok p →
          measured = "wind & 'gust'" ∧ station = "O'Brien #1?=") ∧
    ∃ fault,
      latestObservation (.str "wind") (nameClause oldSpelling) = .error (.encoding fault) := by
  obtain ⟨p, -, hquery, -, -, honly, -⟩ :=
    latestObservation_nameClause_unambiguous.1 "wind & 'gust'" "O'Brien #1?="
  exact ⟨⟨p, hquery, fun measured station h => (honly measured station).1 h⟩,
    latestObservation_nameClause_unambiguous.2 "wind" oldSpelling (.inr rfl)⟩

end StationWatch.Query
