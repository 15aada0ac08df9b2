import StationWatch.Proofs.Capitals
import StationWatch.Proofs.Fields
import StationWatch.Proofs.Registrations
import StationWatch.Settings

/-!
# Names in the settings and in the registry

The settings list measurements with commas, and the registry knows them by their keys.  Both put a
name in capitals on their own, sometimes twice, and the settings take the blanks off beforehand.  As
capitals stay as they are and hold no comma or blank that was not there, both mean the same kind by
a name, in whatever letters it was written.  A half in a name stays where it is.

## Main definitions

* `Nameable` — the names that can stand in a list.
* `Lists` — a text has a spelling between its commas, with blanks around it.

## Main results

* `RawText.upper_upper`, `RawText.unpadded_upper_iff` — what capitals leave as it is.
* `measurementNames_commaList` — the names that were read are read again.
* `measurementNames_of_lists` — a listed spelling is read as the key of its name.
* `measurementNames_error_iff` — only a text without a name is refused.
* `Registry.names_agree` — settings and registry mean the same by a name.

## References

`SPEC_FULL.md`, sections 10.3 and 10.4, on the settings and on the registry.
-/

namespace StationWatch

/-! ### Capitals -/

namespace Text

/-- Where all characters are blank or none is, each end tells which. -/
theorem ends_of_uniform {blank : Bool} {ds : List Char} (hne : ds ≠ [])
    (h : ∀ d ∈ ds, isBlank d = blank) :
    ((∀ d ∈ ds.head?, isBlank d = false) ↔ blank = false) ∧
      ((∀ d ∈ ds.getLast?, isBlank d = false) ↔ blank = false) := by
  constructor
  · rw [List.head?_eq_some_head hne, ← h _ (List.head_mem hne)]
    simp
  · rw [List.getLast?_eq_some_getLast hne, ← h _ (List.getLast_mem hne)]
    simp

theorem head_upper_iff {cs : List Char} :
    (∀ c ∈ (upper cs).head?, isBlank c = false) ↔ ∀ c ∈ cs.head?, isBlank c = false := by
  cases cs with
  | nil => exact Iff.rfl
  | cons c cs =>
    have hends := ends_of_uniform (upperChar_ne_nil c) fun d hd => isBlank_of_mem hd
    rw [upper_cons, List.head?_append_of_ne_nil _ (upperChar_ne_nil c), hends.1]
    simp

theorem getLast_upper_iff {cs : List Char} :
    (∀ c ∈ (upper cs).getLast?, isBlank c = false) ↔ ∀ c ∈ cs.getLast?, isBlank c = false := by
  rcases List.eq_nil_or_concat cs with rfl | ⟨before, c, rfl⟩
  · exact Iff.rfl
  · have hends := ends_of_uniform (upperChar_ne_nil c) fun d hd => isBlank_of_mem hd
    have hsingle : upper [c] = upperChar c := List.append_nil _
    rw [List.concat_eq_append, upper_append, hsingle,
      List.getLast?_append_of_ne_nil _ (upperChar_ne_nil c), hends.2]
    simp

end Text

namespace RawText

@[simp] theorem upper_whole (s : String) : upper s = ↑(String.ofList (Text.upper s.toList)) := rfl

@[simp] theorem upper_broken (before : String) (half : Half) (rest : RawText) :
    upper (.broken before half rest) =
      .broken (String.ofList (Text.upper before.toList)) half (upper rest) := rfl

variable {t : RawText}

/-- Capitals stay as they are. -/
@[simp] theorem upper_upper (t : RawText) : t.upper.upper = t.upper := by
  induction t with
  | whole s => simp
  | broken before half rest ih => simp [ih]

theorem upper_eq_empty_iff : t.upper = "" ↔ t = "" := by
  cases t <;> simp [Text.upper_eq_nil_iff]

theorem mem_chars_upper_iff_of_separates {c : Char} (hc : Text.Separates c) :
    c ∈ t.upper.chars ↔ c ∈ t.chars := by
  induction t with
  | whole s => simp [Text.mem_upper_iff_of_separates hc]
  | broken before half rest ih => simp [Text.mem_upper_iff_of_separates hc, ih]

theorem front_upper (t : RawText) : t.upper.front = Text.upper t.front := by
  cases t <;> simp [front]

theorem back_upper (t : RawText) : t.upper.back = Text.upper t.back := by
  induction t with
  | whole s => simp [back]
  | broken before half rest ih => exact ih

/-- Capitals are padded exactly if the text is. -/
theorem unpadded_upper_iff : t.upper.Unpadded ↔ t.Unpadded := by
  rw [Unpadded, Unpadded, front_upper, back_upper, Text.head_upper_iff, Text.getLast_upper_iff]

/-- Of what has no padding only the empty text is blank. -/
theorem Unpadded.allBlank_iff (h : t.Unpadded) : t.AllBlank ↔ t = "" := by
  rw [← strip_eq_empty_iff, strip_of_unpadded h]

end RawText

/-! ### Names in the settings -/

/-- The pieces of a list of names that count, without their padding. -/
def nameParts (raw : RawText) : List RawText :=
  ((raw.fields ',').map RawText.strip).filter fun part => !part.isEmpty

theorem measurementNames_eq (raw : RawText) :
    measurementNames raw =
      if (nameParts raw).isEmpty then .error .noMeasurements
      else .ok ((nameParts raw).map RawText.upper) := rfl

theorem measurementNames_eq_ok_iff {raw : RawText} {names : List RawText} :
    measurementNames raw = .ok names ↔
      nameParts raw ≠ [] ∧ (nameParts raw).map RawText.upper = names := by
  rw [measurementNames_eq]
  cases nameParts raw <;> simp

theorem mem_nameParts_iff {raw part : RawText} :
    part ∈ nameParts raw ↔ part ≠ "" ∧ ∃ piece ∈ raw.fields ',', piece.strip = part := by
  simp only [nameParts, List.mem_filter, List.mem_map, Bool.not_eq_true',
    RawText.isEmpty_eq_false_iff, and_comm]

/-- The name can stand in a list: it is not blank and has neither a comma nor padding. -/
structure Nameable (name : RawText) : Prop where
  not_blank : ¬ name.AllBlank
  no_comma : ',' ∉ name.chars
  unpadded : name.Unpadded

theorem nameable_iff {name : RawText} :
    Nameable name ↔ name ≠ "" ∧ ',' ∉ name.chars ∧ name.Unpadded := by
  constructor
  · rintro ⟨hblank, hcomma, hunpadded⟩
    exact ⟨fun heq => hblank (hunpadded.allBlank_iff.2 heq), hcomma, hunpadded⟩
  · rintro ⟨hne, hcomma, hunpadded⟩
    exact ⟨fun hblank => hne (hunpadded.allBlank_iff.1 hblank), hcomma, hunpadded⟩

/-- Whether a text can stand in a list does not depend on the kind of its letters. -/
theorem nameable_upper_iff {name : RawText} : Nameable name.upper ↔ Nameable name := by
  have hcomma : ',' ∈ name.upper.chars ↔ ',' ∈ name.chars :=
    RawText.mem_chars_upper_iff_of_separates (.inr rfl)
  rw [nameable_iff, nameable_iff, Ne, RawText.upper_eq_empty_iff, hcomma,
    RawText.unpadded_upper_iff]

/-- What is left of a piece is a name, if anything is left. -/
theorem nameable_of_mem_nameParts {raw part : RawText} (h : part ∈ nameParts raw) :
    Nameable part := by
  obtain ⟨hne, piece, hpiece, rfl⟩ := mem_nameParts_iff.1 h
  refine nameable_iff.2 ⟨hne, ?_, RawText.unpadded_strip piece⟩
  intro hcomma
  exact RawText.sep_not_mem_fields ',' raw piece hpiece (RawText.mem_chars_of_strip hcomma)

/-- Names with commas between them are the parts of the list. -/
theorem nameParts_commaList {names : List RawText} (hne : names ≠ [])
    (h : ∀ name ∈ names, Nameable name) : nameParts (commaList names) = names := by
  have hstrip : ∀ name ∈ names, name.strip = id name := fun name hname =>
    RawText.strip_of_unpadded (h name hname).unpadded
  have hkept : ∀ name ∈ names, (!name.isEmpty) = true := by
    intro name hname
    simpa using (nameable_iff.1 (h name hname)).1
  rw [nameParts, RawText.fields_commaList hne fun name hname => (h name hname).no_comma,
    List.map_congr_left hstrip, List.map_id, List.filter_eq_self.2 hkept]

/-- The names that were read, with commas between them, are read again. -/
theorem measurementNames_commaList {raw : RawText} {names : List RawText}
    (h : measurementNames raw = .ok names) :
    (∀ name ∈ names, Nameable name) ∧ measurementNames (commaList names) = .ok names := by
  obtain ⟨hsome, rfl⟩ := measurementNames_eq_ok_iff.1 h
  have hable : ∀ name ∈ (nameParts raw).map RawText.upper, Nameable name := by
    intro name hname
    obtain ⟨part, hpart, rfl⟩ := List.mem_map.1 hname
    exact nameable_upper_iff.2 (nameable_of_mem_nameParts hpart)
  have hne : (nameParts raw).map RawText.upper ≠ [] := mt List.map_eq_nil_iff.1 hsome
  refine ⟨hable, measurementNames_eq_ok_iff.2 ?_⟩
  rw [nameParts_commaList hne hable]
  refine ⟨hne, ?_⟩
  -- The parts are in capitals already.
  simp

/-- The text has the spelling between commas or its own ends, with blanks around it at will. -/
def Lists (raw spelling : RawText) : Prop :=
  ∃ before left right after : RawText,
    raw = before ++ (left ++ spelling ++ right) ++ after ∧ left.AllBlank ∧ right.AllBlank ∧
      (before = "" ∨ ∃ earlier, before = earlier ++ ("," : RawText)) ∧
      (after = "" ∨ ∃ later, after = ("," : RawText) ++ later)

/-- A listed spelling is read as the key of the name. -/
theorem measurementNames_of_lists {raw spelling : RawText} (h : Lists raw spelling)
    (hable : Nameable spelling) :
    ∃ names, measurementNames raw = .ok names ∧ Registry.key spelling ∈ names := by
  obtain ⟨before, left, right, after, rfl, hleft, hright, hbefore, hafter⟩ := h
  have hcomma : ',' ∉ (left ++ spelling ++ right).chars := by
    simp only [RawText.chars_append, List.mem_append, not_or]
    exact ⟨⟨RawText.comma_not_mem_of_allBlank hleft, hable.no_comma⟩,
      RawText.comma_not_mem_of_allBlank hright⟩
  have hpart : spelling ∈ nameParts (before ++ (left ++ spelling ++ right) ++ after) := by
    refine mem_nameParts_iff.2 ⟨(nameable_iff.1 hable).1, left ++ spelling ++ right, ?_, ?_⟩
    · exact RawText.mem_fields hcomma hbefore hafter
    · rw [RawText.strip_surrounded hleft hright, RawText.strip_of_unpadded hable.unpadded]
  refine ⟨_, measurementNames_eq_ok_iff.2 ⟨List.ne_nil_of_mem hpart, rfl⟩, ?_⟩
  exact List.mem_map.2 ⟨spelling, hpart, rfl⟩

/-- Only a text without a name is refused. -/
theorem measurementNames_error_iff (raw : RawText) :
    (∃ fault, measurementNames raw = .error fault) ↔ ∀ piece ∈ raw.fields ',', piece.AllBlank := by
  have hnone : (∃ fault, measurementNames raw = .error fault) ↔ nameParts raw = [] := by
    rw [measurementNames_eq]
    cases nameParts raw <;> simp
  rw [hnone, nameParts, List.filter_eq_nil_iff]
  simp [RawText.strip_eq_empty_iff]

/-! ### Names in the registry -/

namespace Registry

/-- A key is its own key. -/
@[simp] theorem key_key (name : RawText) : key (key name) = key name := RawText.upper_upper name

/-- The names of a registry are keys. -/
theorem key_of_mem_names {list : List Change} {name : RawText} (h : name ∈ (after list).names) :
    key name = name := by
  obtain ⟨m, hfind⟩ := mem_names_iff.1 h
  obtain ⟨_, _, _, -, ⟨other, -, rfl, -⟩, -⟩ := (find?_after_iff list).1 hfind
  exact key_key other

theorem Ascending.find?_of_mem {r : Registry} (h : r.Ascending) {entry : RawText × Measurement}
    (hentry : entry ∈ r) : r.find? entry.1 = some entry.2 := by
  induction r with
  | nil => cases hentry
  | cons first rest ih =>
    obtain ⟨hbelow, hascending⟩ := List.pairwise_cons.1 h
    rcases List.mem_cons.1 hentry with rfl | hlater
    · exact if_pos rfl
    · have hlt : first.1 < entry.1 := hbelow entry.1 (List.mem_map_of_mem hlater)
      have hne : first.1 ≠ entry.1 := by
        intro heq
        rw [heq] at hlt
        exact RawText.lt_irrefl _ hlt
      rw [find?, if_neg hne]
      exact ih hascending hlater

theorem names_remove (r : Registry) (k : RawText) :
    (r.remove k).names = r.names.filter fun name => name ≠ k := by
  unfold remove names
  rw [List.filter_map]
  rfl

/-- A listed name finds the kind it is listed with, and taking it out takes out that name alone. -/
theorem found_and_removed {list : List Change} {name : RawText} (h : name ∈ (after list).names) :
    (∃ m, (name, m) ∈ after list ∧ (after list).get? name = some m) ∧
      ((after list).unregister name).2 = true ∧
      ((after list).unregister name).1.names =
        (after list).names.filter fun other => other ≠ name := by
  have hkey : key name = name := key_of_mem_names h
  have hascending : (after list).Ascending := (refines_after.2 list).ascending
  have hlisted : ∃ m, (name, m) ∈ after list := by
    obtain ⟨entry, hentry, rfl⟩ := List.mem_map.1 h
    exact ⟨entry.2, hentry⟩
  obtain ⟨m, hm⟩ := hlisted
  have hfound : (after list).get? name = some m := by
    rw [get?, hkey]
    exact hascending.find?_of_mem hm
  refine ⟨⟨m, hm, hfound⟩, ((refines_after.2 list).removed name).2 ⟨m, hfound⟩, ?_⟩
  show ((after list).remove (key name)).names = _
  rw [hkey]
  exact names_remove (after list) name

/-- A kind is found by what is read from any list that has its name, in any letters. -/
theorem found_of_lists {r : Registry} {name spelling raw : RawText} {m : Measurement}
    (hfound : r.get? name = some m) (hable : Nameable name) (hupper : spelling.upper = name.upper)
    (hlisted : Lists raw spelling) :
    ∃ names, measurementNames raw = .ok names ∧ ∃ read ∈ names, r.get? read = some m := by
  have hspelling : Nameable spelling := by
    rw [← nameable_upper_iff, hupper, nameable_upper_iff]
    exact hable
  obtain ⟨names, hnames, hmem⟩ := measurementNames_of_lists hlisted hspelling
  refine ⟨names, hnames, key spelling, hmem, ?_⟩
  rw [get?, key_key, show key spelling = key name from hupper]
  exact hfound

/-- **Settings and registry mean the same by a name.**  The names that are read from a text are not
empty and have no comma, and with commas between them they are read again, one by one.  Every name
that a registry lists finds its kind there and can be taken out.  A name that can stand in a list
finds its kind by what is read from any text that lists it, in letters with the same capitals and
with any padding.  A text is refused exactly if there are only blanks between its commas. -/
theorem names_agree :
    (∀ raw names, measurementNames raw = .ok names →
      (∀ name ∈ names, name ≠ "" ∧ ',' ∉ name.chars) ∧
        measurementNames (commaList names) = .ok names) ∧
    (∀ list, ∀ name ∈ (after list).names,
      (∃ m, (name, m) ∈ after list ∧ (after list).get? name = some m) ∧
        ((after list).unregister name).2 = true ∧
        ((after list).unregister name).1.names =
          (after list).names.filter fun other => other ≠ name) ∧
    (∀ list name m, (after list).get? name = some m → Nameable name →
      ∀ spelling raw : RawText, spelling.upper = name.upper → Lists raw spelling →
        ∃ names, measurementNames raw = .ok names ∧
          ∃ read ∈ names, (after list).get? read = some m) ∧
    (∀ raw, (∃ fault, measurementNames raw = .error fault) ↔
      ∀ piece ∈ raw.fields ',', piece.AllBlank) := by
  refine ⟨?_, ?_, ?_, measurementNames_error_iff⟩
  · intro raw names h
    obtain ⟨hable, hagain⟩ := measurementNames_commaList h
    refine ⟨fun name hname => ?_, hagain⟩
    exact ⟨(nameable_iff.1 (hable name hname)).1, (hable name hname).no_comma⟩
  · intro list name h
    exact found_and_removed h
  · intro list name m hfound hable spelling raw hupper hlisted
    exact found_of_lists hfound hable hupper hlisted

/-- Two letters for the sharp s, small letters, blanks around them and another name behind. -/
theorem names_agree_on_street :
    ∃ names, measurementNames " strasse\t,Humidity" = .ok names ∧
      ∃ read ∈ names, (after [.register "Straße" temperature]).get? read =
        some ⟨[("name", .str "Air temperature"), ("channel", .str "temperature"),
          ("datastream_filter", .str "lufttemperatur"), ("unit", .str "°C"),
          ("placeholder", .null)]⟩ := by
  refine names_agree.2.2.1 [.register "Straße" temperature] "Straße" _ ?_ ?_ "strasse" _
    (by decide +kernel) ?_
  · refine (find?_after_iff _).2 ⟨[], _, [], rfl, ⟨"Straße", rfl, rfl, ?_⟩, by simp⟩
    exact Measurement.missing_eq_nil_iff.1 (by decide)
  · refine nameable_iff.2 ⟨by decide, by decide, ?_, ?_⟩
    · rintro c ⟨⟩
      decide
    · rintro c ⟨⟩
      decide
  · refine ⟨"", " ", "\t", ",Humidity", rfl, ⟨" ", rfl, ?_⟩, ⟨"\t", rfl, ?_⟩, .inl rfl, ?_⟩
    · exact List.forall_mem_singleton.2 (by decide)
    · exact List.forall_mem_singleton.2 (by decide)
    · exact .inr ⟨"Humidity", rfl⟩

end Registry

end StationWatch
