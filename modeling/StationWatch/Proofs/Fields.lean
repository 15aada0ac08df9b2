import Mathlib.Data.List.TakeWhile
import StationWatch.Proofs.Escapes

/-!
# Texts between separators

Settings list their parts with commas, and blanks may stand around each part.  A text is cut at its
separators and put together again without a loss, also where it has halves in it: a half is neither
a separator nor blank.

## Main definitions

* `Text.Unpadded`, `RawText.Unpadded` — no blank at either end.
* `RawText.AllBlank` — nothing but blanks.
* `commaList` — texts with commas between them.

## Main results

* `RawText.strip_surrounded` — blanks around a text are stripped off with those that it has itself.
* `RawText.strip_of_unpadded`, `RawText.unpadded_strip` — what has no padding is left.
* `RawText.fields_append_sep` — a separator separates the pieces of what stands around it.
* `RawText.fields_commaList`, `RawText.commaList_fields` — cutting and putting together.
-/

namespace StationWatch

namespace Text

/-! ### Padding -/

/-- No blank stands at either end. -/
def Unpadded (cs : List Char) : Prop :=
  (∀ c ∈ cs.head?, isBlank c = false) ∧ ∀ c ∈ cs.getLast?, isBlank c = false

section

variable {cs left right : List Char}

theorem stripStart_of_head (h : ∀ c ∈ cs.head?, isBlank c = false) : stripStart cs = cs := by
  cases cs with
  | nil => rfl
  | cons c cs => exact List.dropWhile_cons_of_neg (Bool.eq_false_iff.1 (h c rfl))

theorem stripStart_blank_append (h : ∀ c ∈ left, isBlank c = true) (cs : List Char) :
    stripStart (left ++ cs) = stripStart cs :=
  List.dropWhile_append_of_pos h

theorem stripEnd_eq (cs : List Char) : stripEnd cs = (stripStart cs.reverse).reverse := rfl

theorem stripEnd_of_getLast (h : ∀ c ∈ cs.getLast?, isBlank c = false) : stripEnd cs = cs := by
  have hreverse : ∀ c ∈ cs.reverse.head?, isBlank c = false := by rwa [List.head?_reverse]
  rw [stripEnd_eq, stripStart_of_head hreverse, List.reverse_reverse]

theorem stripEnd_append_blank (h : ∀ c ∈ right, isBlank c = true) (cs : List Char) :
    stripEnd (cs ++ right) = stripEnd cs := by
  have hreverse : ∀ c ∈ right.reverse, isBlank c = true := fun c hc => h c (List.mem_reverse.1 hc)
  rw [stripEnd_eq, List.reverse_append, stripStart_blank_append hreverse, ← stripEnd_eq]

/-- Blanks put around a text are stripped off with those that it has itself. -/
theorem strip_surrounded (hleft : ∀ c ∈ left, isBlank c = true)
    (hright : ∀ c ∈ right, isBlank c = true) (cs : List Char) :
    strip (left ++ cs ++ right) = strip cs := by
  rw [strip, List.append_assoc, stripStart_blank_append hleft]
  by_cases hcs : stripStart cs = []
  · -- The text is blank, so stripping its start takes off what follows it as well.
    have hblank : ∀ c ∈ cs ++ right, isBlank c = true := by
      intro c hc
      rcases List.mem_append.1 hc with hc | hc
      · exact List.dropWhile_eq_nil_iff.1 hcs c hc
      · exact hright c hc
    have hnil : stripStart (cs ++ right) = [] := List.dropWhile_eq_nil_iff.2 hblank
    rw [hnil, strip, hcs]
  · have hkept : stripStart (cs ++ right) = stripStart cs ++ right := by
      unfold stripStart at hcs ⊢
      rw [List.dropWhile_append, if_neg (by simpa using hcs)]
    rw [hkept, stripEnd_append_blank hright, strip]

theorem strip_of_unpadded (h : Unpadded cs) : strip cs = cs := by
  rw [strip, stripStart_of_head h.1, stripEnd_of_getLast h.2]

theorem not_blank_head_stripStart (cs : List Char) :
    ∀ c ∈ (stripStart cs).head?, isBlank c = false := by
  intro c hc
  have hfirst := List.head?_dropWhile_not isBlank cs
  have hhead : (cs.dropWhile isBlank).head? = some c := hc
  rw [hhead] at hfirst
  exact hfirst

theorem not_blank_getLast_stripEnd (cs : List Char) :
    ∀ c ∈ (stripEnd cs).getLast?, isBlank c = false := by
  rw [stripEnd_eq, List.getLast?_reverse]
  exact not_blank_head_stripStart cs.reverse

theorem exists_stripEnd_append (cs : List Char) : ∃ rest, stripEnd cs ++ rest = cs := by
  obtain ⟨before, hwhole⟩ : stripStart cs.reverse <:+ cs.reverse := List.dropWhile_suffix isBlank
  refine ⟨before.reverse, ?_⟩
  rw [stripEnd_eq, ← List.reverse_append, hwhole, List.reverse_reverse]

theorem unpadded_strip (cs : List Char) : Unpadded (strip cs) := by
  refine ⟨fun c hc => ?_, not_blank_getLast_stripEnd _⟩
  obtain ⟨rest, hwhole⟩ := exists_stripEnd_append (stripStart cs)
  refine not_blank_head_stripStart cs c ?_
  rw [← hwhole, List.head?_append, show (stripEnd (stripStart cs)).head? = some c from hc]
  rfl

theorem mem_of_mem_stripStart {c : Char} (h : c ∈ stripStart cs) : c ∈ cs :=
  (List.dropWhile_sublist isBlank).subset h

theorem mem_of_mem_stripEnd {c : Char} (h : c ∈ stripEnd cs) : c ∈ cs := by
  obtain ⟨rest, hwhole⟩ := exists_stripEnd_append cs
  exact hwhole ▸ List.mem_append_left rest h

theorem mem_of_mem_strip {c : Char} (h : c ∈ strip cs) : c ∈ cs :=
  mem_of_mem_stripStart (mem_of_mem_stripEnd h)

theorem strip_eq_nil_iff : strip cs = [] ↔ ∀ c ∈ cs, isBlank c = true := by
  constructor
  · intro h
    have hends : stripStart (stripStart cs).reverse = [] := by
      rwa [strip, stripEnd_eq, List.reverse_eq_nil_iff] at h
    have hrest : ∀ c ∈ stripStart cs, isBlank c = true := by
      intro c hc
      exact List.dropWhile_eq_nil_iff.1 hends c (List.mem_reverse.2 hc)
    cases hstart : stripStart cs with
    | nil => exact List.dropWhile_eq_nil_iff.1 hstart
    | cons c ds =>
      have hfirst : isBlank c = false := not_blank_head_stripStart cs c (by rw [hstart]; rfl)
      have hblank : isBlank c = true := hrest c (by rw [hstart]; exact List.mem_cons_self)
      rw [hfirst] at hblank
      cases hblank
  · intro h
    have hnil : stripStart cs = [] := List.dropWhile_eq_nil_iff.2 h
    rw [strip, hnil]
    rfl

end

/-! ### Cutting -/

theorem fields_append_sep (sep : Char) (earlier rest : List Char) :
    fields sep (earlier ++ sep :: rest) = fields sep earlier ++ fields sep rest := by
  induction earlier with
  | nil => simp [fields]
  | cons c cs ih =>
    rw [List.cons_append, fields, fields, ih]
    split
    · rfl
    · cases hpieces : fields sep cs with
      | nil => exact absurd hpieces (fields_ne_nil sep cs)
      | cons piece more => rfl

theorem not_mem_of_mem_fields {sep : Char} {cs piece : List Char} (h : piece ∈ fields sep cs) :
    sep ∉ piece := by
  induction cs generalizing piece with
  | nil =>
    obtain rfl := List.mem_singleton.1 h
    exact List.not_mem_nil
  | cons c cs ih =>
    unfold fields at h
    split at h
    · rcases List.mem_cons.1 h with rfl | h
      · exact List.not_mem_nil
      · exact ih h
    · rename_i hne
      cases hpieces : fields sep cs with
      | nil => exact absurd hpieces (fields_ne_nil sep cs)
      | cons first more =>
        rw [hpieces] at h
        rcases List.mem_cons.1 h with rfl | h
        · have hfirst : sep ∉ first := ih (by rw [hpieces]; exact List.mem_cons_self)
          exact List.not_mem_cons_of_ne_of_not_mem (Ne.symm hne) hfirst
        · exact ih (by rw [hpieces]; exact List.mem_cons_of_mem first h)

end Text

namespace RawText

/-! ### Padding of a text with halves -/

/-- The characters ahead of the first half. -/
def front : RawText → List Char
  | .whole s => s.toList
  | .broken front _ _ => front.toList

/-- The characters behind the last half. -/
def back : RawText → List Char
  | .whole s => s.toList
  | .broken _ _ rest => back rest

/-- No blank stands at either end. -/
def Unpadded (t : RawText) : Prop :=
  (∀ c ∈ t.front.head?, Text.isBlank c = false) ∧ ∀ c ∈ t.back.getLast?, Text.isBlank c = false

/-- The text holds nothing but blanks; a half is not blank. -/
def AllBlank (t : RawText) : Prop := ∃ s : String, t = s ∧ ∀ c ∈ s.toList, Text.isBlank c = true

variable {t left right : RawText}

theorem allBlank_whole_iff {s : String} :
    AllBlank s ↔ ∀ c ∈ s.toList, Text.isBlank c = true := by
  refine ⟨?_, fun h => ⟨s, rfl, h⟩⟩
  rintro ⟨s', heq, h⟩
  obtain rfl := RawText.whole.inj heq
  exact h

theorem not_allBlank_broken {before : String} {half : Half} {rest : RawText} :
    ¬ AllBlank (.broken before half rest) := by
  rintro ⟨s, heq, -⟩
  cases heq

theorem stripEnd_of_back (h : ∀ c ∈ t.back.getLast?, Text.isBlank c = false) :
    t.stripEnd = t := by
  induction t with
  | whole s =>
    have hs : Text.stripEnd s.toList = s.toList := Text.stripEnd_of_getLast h
    rw [stripEnd, hs, String.ofList_toList]
  | broken before half rest ih => rw [stripEnd, ih h]

theorem stripEnd_append_blank {s : String} (h : ∀ c ∈ s.toList, Text.isBlank c = true)
    (t : RawText) : (t ++ (s : RawText)).stripEnd = t.stripEnd := by
  induction t with
  | whole s' =>
    rw [whole_append_whole, stripEnd, String.toList_append, Text.stripEnd_append_blank h, stripEnd]
  | broken before half rest ih => rw [broken_append, stripEnd, ih, stripEnd]

/-- Blanks put around a text are stripped off with those that it has itself. -/
theorem strip_surrounded (hleft : left.AllBlank) (hright : right.AllBlank) (t : RawText) :
    (left ++ t ++ right).strip = t.strip := by
  obtain ⟨l, rfl, hl⟩ := hleft
  obtain ⟨r, rfl, hr⟩ := hright
  cases t with
  | whole s =>
    rw [whole_append_whole, whole_append_whole, strip, String.toList_append, String.toList_append,
      Text.strip_surrounded hl hr, strip]
  | broken before half rest =>
    rw [whole_append_broken, broken_append, strip, String.toList_append,
      Text.stripStart_blank_append hl, stripEnd_append_blank hr, strip]

theorem strip_of_unpadded (h : t.Unpadded) : t.strip = t := by
  cases t with
  | whole s =>
    have hs : Text.strip s.toList = s.toList := Text.strip_of_unpadded h
    rw [strip, hs, String.ofList_toList]
  | broken before half rest =>
    have hbefore : Text.stripStart before.toList = before.toList := Text.stripStart_of_head h.1
    have hrest : rest.stripEnd = rest := stripEnd_of_back h.2
    rw [strip, hbefore, String.ofList_toList, hrest]

theorem not_blank_back_stripEnd (t : RawText) :
    ∀ c ∈ t.stripEnd.back.getLast?, Text.isBlank c = false := by
  induction t with
  | whole s =>
    rw [stripEnd, back, String.toList_ofList]
    exact Text.not_blank_getLast_stripEnd s.toList
  | broken before half rest ih => exact ih

theorem unpadded_strip (t : RawText) : t.strip.Unpadded := by
  cases t with
  | whole s =>
    unfold Unpadded
    rw [strip, front, back, String.toList_ofList]
    exact Text.unpadded_strip s.toList
  | broken before half rest =>
    refine ⟨?_, not_blank_back_stripEnd rest⟩
    rw [strip, front, String.toList_ofList]
    exact Text.not_blank_head_stripStart before.toList

theorem mem_chars_of_stripEnd {c : Char} (h : c ∈ t.stripEnd.chars) : c ∈ t.chars := by
  induction t with
  | whole s =>
    rw [stripEnd, chars_whole, String.toList_ofList] at h
    rw [chars_whole]
    exact Text.mem_of_mem_stripEnd h
  | broken before half rest ih =>
    rw [stripEnd, chars_broken] at h
    rw [chars_broken]
    rcases List.mem_append.1 h with h | h
    · exact List.mem_append_left _ h
    · exact List.mem_append_right _ (ih h)

theorem mem_chars_of_strip {c : Char} (h : c ∈ t.strip.chars) : c ∈ t.chars := by
  cases t with
  | whole s =>
    rw [strip, chars_whole, String.toList_ofList] at h
    rw [chars_whole]
    exact Text.mem_of_mem_strip h
  | broken before half rest =>
    rw [strip, chars_broken, String.toList_ofList] at h
    rw [chars_broken]
    rcases List.mem_append.1 h with h | h
    · exact List.mem_append_left _ (Text.mem_of_mem_stripStart h)
    · exact List.mem_append_right _ (mem_chars_of_stripEnd h)

/-- Nothing is left of a text exactly if it is blank. -/
theorem strip_eq_empty_iff : t.strip = "" ↔ t.AllBlank := by
  cases t with
  | whole s =>
    rw [strip, RawText.whole.injEq, String.ofList_eq_empty_iff, Text.strip_eq_nil_iff,
      allBlank_whole_iff]
  | broken before half rest =>
    exact iff_of_false (fun heq => by cases heq) not_allBlank_broken

theorem comma_not_mem_of_allBlank (h : t.AllBlank) : ',' ∉ t.chars := by
  obtain ⟨s, rfl, hs⟩ := h
  rw [chars_whole]
  intro hcomma
  have hblank : Text.isBlank ',' = true := hs ',' hcomma
  revert hblank
  decide

/-! ### Cutting a text with halves -/

section

variable {sep : Char} {half : Half} {more rest : List RawText} {pieces : List (List Char)}

theorem glue_ne_nil (hmore : more ≠ []) : glue half more pieces ≠ [] := by
  unfold glue
  split
  · exact hmore
  · split <;> exact List.cons_ne_nil _ _
  · exact List.cons_ne_nil _ _

theorem glue_cons {piece : List Char} (hpieces : pieces ≠ []) :
    glue half more (piece :: pieces) = ↑(String.ofList piece) :: glue half more pieces := by
  cases pieces with
  | nil => exact absurd rfl hpieces
  | cons next pieces => rfl

/-- Pieces ahead of those that go on with a half stay as they are. -/
theorem glue_append (earlier : List (List Char)) (hpieces : pieces ≠ []) :
    glue half more (earlier ++ pieces) =
      (earlier.map fun piece => (String.ofList piece : RawText)) ++ glue half more pieces := by
  induction earlier with
  | nil => rfl
  | cons piece earlier ih =>
    rw [List.cons_append, glue_cons (List.append_ne_nil_of_right_ne_nil _ hpieces), ih]
    rfl

/-- Pieces behind the one that goes on from the half stay as they are. -/
theorem glue_append_more (hpieces : pieces ≠ []) (hmore : more ≠ []) :
    glue half (more ++ rest) pieces = glue half more pieces ++ rest := by
  induction pieces with
  | nil => exact absurd rfl hpieces
  | cons piece pieces ih =>
    cases pieces with
    | nil =>
      cases more with
      | nil => exact absurd rfl hmore
      | cons next more => rfl
    | cons next pieces =>
      have hnext : next :: pieces ≠ [] := List.cons_ne_nil _ _
      rw [glue_cons hnext, glue_cons hnext, ih hnext, List.cons_append]

theorem sep_not_mem_glue (hpieces : ∀ piece ∈ pieces, sep ∉ piece)
    (hmore : ∀ piece ∈ more, sep ∉ piece.chars) :
    ∀ piece ∈ glue half more pieces, sep ∉ piece.chars := by
  induction pieces with
  | nil => exact hmore
  | cons piece pieces ih =>
    obtain ⟨hfirst, hothers⟩ := List.forall_mem_cons.1 hpieces
    cases pieces with
    | nil =>
      cases more with
      | nil =>
        refine List.forall_mem_singleton.2 ?_
        rw [chars_broken, chars_whole, String.toList_ofList, String.toList_empty, List.append_nil]
        exact hfirst
      | cons next more =>
        obtain ⟨hnext, hbehind⟩ := List.forall_mem_cons.1 hmore
        refine List.forall_mem_cons.2 ⟨?_, hbehind⟩
        rw [chars_broken, String.toList_ofList, List.mem_append, not_or]
        exact ⟨hfirst, hnext⟩
    | cons next pieces =>
      rw [glue_cons (List.cons_ne_nil _ _)]
      refine List.forall_mem_cons.2 ⟨?_, ih hothers⟩
      rw [chars_whole, String.toList_ofList]
      exact hfirst

theorem fields_broken (sep : Char) (before : String) (half : Half) (rest : RawText) :
    fields sep (.broken before half rest) =
      glue half (fields sep rest) (Text.fields sep before.toList) := rfl

theorem fields_ne_nil (sep : Char) (t : RawText) : fields sep t ≠ [] := by
  induction t with
  | whole s => simpa using Text.fields_ne_nil sep s.toList
  | broken before half rest ih => exact glue_ne_nil ih

/-- A text without the separator is its only piece. -/
theorem fields_of_not_mem (h : sep ∉ t.chars) : fields sep t = [t] := by
  induction t with
  | whole s =>
    rw [chars_whole] at h
    rw [fields_whole, Text.fields_of_not_mem h, List.map_singleton, String.ofList_toList]
  | broken before half rest ih =>
    rw [chars_broken, List.mem_append, not_or] at h
    rw [fields_broken, Text.fields_of_not_mem h.1, ih h.2, glue, String.ofList_toList]

/-- A separator separates the pieces of what stands around it. -/
theorem fields_append_sep (sep : Char) (t u : RawText) :
    fields sep (t ++ sep.toString ++ u) = fields sep t ++ fields sep u := by
  induction t with
  | whole s =>
    cases u with
    | whole s' =>
      rw [whole_append_whole, whole_append_whole, fields_whole, Text.toList_append_sep,
        Text.fields_append_sep, List.map_append, fields_whole, fields_whole]
    | broken before half rest =>
      have hpieces := Text.fields_ne_nil sep before.toList
      rw [whole_append_whole, whole_append_broken, fields_broken, Text.toList_append_sep,
        Text.fields_append_sep, glue_append _ hpieces, fields_whole, fields_broken]
  | broken before half rest ih =>
    rw [broken_append, broken_append, fields_broken, ih,
      glue_append_more (Text.fields_ne_nil _ _) (fields_ne_nil _ _), fields_broken]

/-- No separator is left in a piece. -/
theorem sep_not_mem_fields (sep : Char) (t : RawText) :
    ∀ piece ∈ fields sep t, sep ∉ piece.chars := by
  induction t with
  | whole s =>
    intro piece hpiece
    obtain ⟨cs, hcs, rfl⟩ := List.mem_map.1 hpiece
    rw [chars_whole, String.toList_ofList]
    exact Text.not_mem_of_mem_fields hcs
  | broken before half rest ih =>
    exact sep_not_mem_glue (fun piece hpiece => Text.not_mem_of_mem_fields hpiece) ih

/-- What stands between separators or ends is one of the pieces. -/
theorem mem_fields {before piece after : RawText} (hpiece : sep ∉ piece.chars)
    (hbefore : before = "" ∨ ∃ earlier, before = earlier ++ (sep.toString : RawText))
    (hafter : after = "" ∨ ∃ later, after = (sep.toString : RawText) ++ later) :
    piece ∈ fields sep (before ++ piece ++ after) := by
  have hlast : piece ∈ fields sep (piece ++ after) := by
    rcases hafter with rfl | ⟨later, rfl⟩
    · rw [append_empty, fields_of_not_mem hpiece]
      exact List.mem_singleton_self piece
    · rw [← append_assoc, fields_append_sep, fields_of_not_mem hpiece]
      exact List.mem_cons_self
  rw [append_assoc]
  rcases hbefore with rfl | ⟨earlier, rfl⟩
  · rwa [empty_append]
  · rw [fields_append_sep]
    exact List.mem_append_right _ hlast

end

end RawText

/-! ### Lists with commas -/

/-- Texts with commas between them. -/
def commaList : List RawText → RawText
  | [] => ""
  | [text] => text
  | text :: next :: texts => text ++ ("," : RawText) ++ commaList (next :: texts)

theorem commaList_cons {texts : List RawText} (hne : texts ≠ []) (text : RawText) :
    commaList (text :: texts) = text ++ ("," : RawText) ++ commaList texts := by
  cases texts with
  | nil => exact absurd rfl hne
  | cons next texts => rfl

namespace RawText

/-- Texts without a comma are cut apart again. -/
theorem fields_commaList {texts : List RawText} (hne : texts ≠ [])
    (h : ∀ text ∈ texts, ',' ∉ text.chars) : fields ',' (commaList texts) = texts := by
  induction texts with
  | nil => exact absurd rfl hne
  | cons text texts ih =>
    obtain ⟨hfirst, hothers⟩ := List.forall_mem_cons.1 h
    cases texts with
    | nil => exact fields_of_not_mem hfirst
    | cons next texts =>
      have hnext : next :: texts ≠ [] := List.cons_ne_nil _ _
      have hcut := fields_append_sep ',' text (commaList (next :: texts))
      rw [fields_of_not_mem hfirst, ih hnext hothers] at hcut
      rw [commaList_cons hnext]
      exact hcut

theorem commaList_whole {pieces : List (List Char)} (hne : pieces ≠ []) :
    commaList (pieces.map fun piece => (String.ofList piece : RawText)) =
      ↑(String.ofList (Text.joinWith ',' pieces)) := by
  induction pieces with
  | nil => exact absurd rfl hne
  | cons piece pieces ih =>
    cases pieces with
    | nil => rfl
    | cons next pieces =>
      have hnext : next :: pieces ≠ [] := List.cons_ne_nil _ _
      rw [List.map_cons, commaList_cons (mt List.map_eq_nil_iff.1 hnext), ih hnext,
        whole_append_whole, whole_append_whole, RawText.whole.injEq, ← String.toList_inj]
      simp [Text.joinWith]

theorem commaList_glue {half : Half} {more : List RawText} {pieces : List (List Char)}
    (hpieces : pieces ≠ []) (hmore : more ≠ []) :
    commaList (glue half more pieces) =
      .broken (String.ofList (Text.joinWith ',' pieces)) half (commaList more) := by
  induction pieces with
  | nil => exact absurd rfl hpieces
  | cons piece pieces ih =>
    cases pieces with
    | nil =>
      cases more with
      | nil => exact absurd rfl hmore
      | cons next more =>
        cases more with
        | nil => rfl
        | cons after more => rfl
    | cons next pieces =>
      have hnext : next :: pieces ≠ [] := List.cons_ne_nil _ _
      have hfront :
          String.ofList piece ++ "," ++ String.ofList (Text.joinWith ',' (next :: pieces)) =
            String.ofList (Text.joinWith ',' (piece :: next :: pieces)) := by
        rw [← String.toList_inj]
        simp [Text.joinWith]
      rw [glue_cons hnext, commaList_cons (glue_ne_nil hmore), ih hnext, whole_append_whole,
        whole_append_broken, hfront]

/-- Cutting a text at its commas loses nothing. -/
theorem commaList_fields (t : RawText) : commaList (fields ',' t) = t := by
  induction t with
  | whole s =>
    rw [fields_whole, commaList_whole (Text.fields_ne_nil _ _), Text.joinWith_fields,
      String.ofList_toList]
  | broken before half rest ih =>
    rw [fields_broken, commaList_glue (Text.fields_ne_nil _ _) (fields_ne_nil _ _),
      Text.joinWith_fields, String.ofList_toList, ih]

end RawText

end StationWatch
