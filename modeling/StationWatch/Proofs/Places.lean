import Mathlib.Data.List.Basic
import StationWatch.Proofs.Doubles
import StationWatch.Proofs.Fields
import StationWatch.Proofs.Lifetimes

/-!
# Places in the settings

A setting names a place by two or three parts with commas between them.  Each part is a number, once
the blanks around it are off; the first two are coordinates on the globe, and the third one does not
count.  Anything else is refused, for the first reason that applies: the setting is missing, has
another number of parts, has a part that is no number, or lies off the globe.  What is no number
lies off the globe, as it is neither above one bound nor below the other.

A cycle measures from the place that the settings named when its lifetime began, so the cycles of a
handler all measure from places on the globe.

## Main definitions

* `ReferencePoint.OnGlobe` — the coordinates are in range.
* `ReferencePoint.Spells`, `ReferencePoint.Names` — the settings that name a place.
* `ReferencePoint.Refuses` — why a setting names none.
* `ReferencePoint.Padded` — a part with blanks around it.
* `Handler.places` — the places that the cycles of a handler measure from.

## Main results

* `Doubles.isFinite_of_between` — what lies between two finite doubles is finite.
* `ReferencePoint.names_or_refuses` — every setting names a place or is refused.
* `ReferencePoint.parse?_eq_ok_iff`, `ReferencePoint.parse?_eq_error_iff` — what a setting comes to.
* `ReferencePoint.parse_padded`, `ReferencePoint.parse_altitude` — what does not count in a setting.
* `Life.places_named` — the places of a handler were named by settings.
* `ReferencePoint.places_well_formed` — all of this together.

## References

`SPEC_FULL.md`, section 6, on the form of a reference location.
-/

namespace StationWatch

/-! ### Between two doubles -/

namespace Doubles

open Float.Model UnpackedFloat

/-- A double is finite exactly if it stands between the infinities. -/
theorem isFinite_iff (x : Float) :
    x.isFinite = true ↔ -1 ≤ (positionOf x).side ∧ (positionOf x).side ≤ 1 := by
  change x.toModel.unpack.isFinite = true ↔
    -1 ≤ (placeOf x.toModel.unpack).side ∧ (placeOf x.toModel.unpack).side ≤ 1
  rcases x.toModel.unpack with ⟨_ | _⟩ | _ | _ | ⟨_ | _, m, e, hm⟩
  case infinity.negative => exact iff_of_false Bool.false_ne_true (by decide)
  case infinity.positive => exact iff_of_false Bool.false_ne_true (by decide)
  case notANumber => exact iff_of_false Bool.false_ne_true (by decide)
  -- Zero and the other finite doubles.
  all_goals
    dsimp only [placeOf]
    exact iff_of_true rfl (by omega)

theorem side_le_side {x y : Float} (h : x ≤ y) : (positionOf x).side ≤ (positionOf y).side := by
  have hplaces : (positionOf x).upTo (positionOf y) := by
    rw [← notAfter_iff, notAfter, decide_eq_true h, Bool.or_true]
  unfold Position.upTo at hplaces
  omega

/-- What lies between two finite doubles is finite; in particular it is a number. -/
theorem isFinite_of_between {lower x upper : Float} (hlower : lower.isFinite = true)
    (hupper : upper.isFinite = true) (h : lower ≤ x ∧ x ≤ upper) : x.isFinite = true := by
  rw [isFinite_iff] at *
  have hleft := side_le_side h.1
  have hright := side_le_side h.2
  omega

end Doubles

/-! ### The parts of a setting -/

/-- The same fault, told of another text. -/
def LocationFault.about (text : RawText) : LocationFault → LocationFault
  | .missing => .missing
  | .malformed _ => .malformed text
  | .notNumeric _ => .notNumeric text
  | .outOfRange _ => .outOfRange text

namespace ReferencePoint

/-- The number that a part of a setting is, whatever blanks stand around it. -/
def number? (part : RawText) : Option Float := part.strip.real?

/-- The parts of a setting without the blanks around them. -/
def bareParts (text : RawText) : List RawText := (text.fields ',').map RawText.strip

/-- Parts without a comma are those of the text in which commas stand between them. -/
theorem bareParts_commaList {parts : List RawText} (hne : parts ≠ [])
    (hapart : ∀ part ∈ parts, ',' ∉ part.chars) :
    bareParts (commaList parts) = parts.map RawText.strip := by
  rw [bareParts, RawText.fields_commaList hne hapart]

/-- Every text has such parts. -/
theorem exists_commaList (text : RawText) :
    ∃ parts, (∀ part ∈ parts, ',' ∉ part.chars) ∧ text = commaList parts :=
  ⟨text.fields ',', RawText.sep_not_mem_fields ',' text, (RawText.commaList_fields text).symm⟩

/-- A text is blank exactly if it has one part and that part is blank. -/
theorem bareParts_eq_blank_iff (text : RawText) :
    bareParts text = ([""] : List RawText) ↔ text.AllBlank := by
  rw [← RawText.strip_eq_empty_iff]
  constructor
  · intro hsingle
    obtain ⟨piece, hfields, hpiece⟩ := List.map_eq_singleton_iff.1 hsingle
    have hwhole := RawText.commaList_fields text
    rw [hfields] at hwhole
    rw [← hwhole]
    exact hpiece
  · intro hblank
    have hapart : ',' ∉ text.chars :=
      RawText.comma_not_mem_of_allBlank (RawText.strip_eq_empty_iff.1 hblank)
    rw [bareParts, RawText.fields_of_not_mem hapart, List.map_singleton, hblank]

/-- What a setting comes to is decided by its parts without the blanks around them. -/
theorem parse_eq (text : RawText) : parse text =
    if bareParts text = ([""] : List RawText) then .error .missing
    else if (bareParts text).length ≠ 2 ∧ (bareParts text).length ≠ 3 then .error (.malformed text)
    else
      match numbers? (bareParts text) with
      | some (latitude :: longitude :: _) =>
        if inRange latitude longitude then .ok ⟨latitude, longitude⟩ else .error (.outOfRange text)
      | _ => .error (.notNumeric text) := by
  have hblank : text.strip.isEmpty = true ↔ bareParts text = ([""] : List RawText) := by
    rw [bareParts_eq_blank_iff, RawText.isEmpty_iff, RawText.strip_eq_empty_iff]
  unfold parse
  simp only [hblank]
  rfl

/-- Texts that have the same parts come to the same. -/
theorem parse_of_bareParts_eq {text other : RawText} (h : bareParts other = bareParts text) :
    parse other = (parse text).mapError (·.about other) := by
  rw [parse_eq, parse_eq, h]
  split
  · rfl
  · split
    · rfl
    · split
      · split <;> rfl
      · rfl

/-! ### Which settings name a place -/

/-- The place lies on the globe. -/
structure OnGlobe (p : ReferencePoint) : Prop where
  latitude : -90.0 ≤ p.latitude ∧ p.latitude ≤ 90.0
  longitude : -180.0 ≤ p.longitude ∧ p.longitude ≤ 180.0

theorem inRange_iff (p : ReferencePoint) :
    inRange p.latitude p.longitude = true ↔ p.OnGlobe := by
  simp only [inRange, Bool.and_eq_true, decide_eq_true_eq]
  exact ⟨fun h => ⟨h.1, h.2⟩, fun h => ⟨h.1, h.2⟩⟩

/-- Neither coordinate of a place on the globe is infinite or no number. -/
theorem OnGlobe.isFinite {p : ReferencePoint} (h : p.OnGlobe) :
    p.latitude.isFinite = true ∧ p.longitude.isFinite = true :=
  ⟨Doubles.isFinite_of_between rfl rfl h.latitude, Doubles.isFinite_of_between rfl rfl h.longitude⟩

/-- The parts of a setting spell the coordinates of a place: none holds a comma, and each is a
number, also the altitude if there is one. -/
structure Spells (latitude longitude : RawText) (altitude : Option RawText) (p : ReferencePoint) :
    Prop where
  /-- Commas stand between the parts only. -/
  apart : ∀ part ∈ latitude :: longitude :: altitude.toList, ',' ∉ part.chars
  /-- The first part is the latitude. -/
  latitude : number? latitude = some p.latitude
  /-- The second part is the longitude. -/
  longitude : number? longitude = some p.longitude
  /-- A third part is any number. -/
  altitude : ∀ part ∈ altitude, ∃ height, number? part = some height

/-- The setting names the place. -/
structure Names (setting : Option RawText) (p : ReferencePoint) : Prop where
  onGlobe : p.OnGlobe
  spelled : ∃ latitude longitude altitude,
    setting = some (commaList (latitude :: longitude :: altitude.toList)) ∧
      Spells latitude longitude altitude p

/-- Why a setting names no place. -/
inductive Refuses : Option RawText → LocationFault → Prop
  /-- There is no setting. -/
  | absent : Refuses none .missing
  /-- The setting is blank. -/
  | blank {text : RawText} (h : text.AllBlank) : Refuses (some text) .missing
  /-- There are not two or three parts. -/
  | malformed {parts : List RawText} (hseen : ¬ (commaList parts).AllBlank)
      (hapart : ∀ part ∈ parts, ',' ∉ part.chars) (h : parts.length ≠ 2 ∧ parts.length ≠ 3) :
      Refuses (some (commaList parts)) (.malformed (commaList parts))
  /-- One of two or three parts is no number. -/
  | notNumeric {parts : List RawText} {part : RawText}
      (hcount : parts.length = 2 ∨ parts.length = 3) (hapart : ∀ part ∈ parts, ',' ∉ part.chars)
      (hmem : part ∈ parts) (h : number? part = none) :
      Refuses (some (commaList parts)) (.notNumeric (commaList parts))
  /-- The parts spell coordinates off the globe. -/
  | outOfRange {latitude longitude : RawText} {altitude : Option RawText} {p : ReferencePoint}
      (hspells : Spells latitude longitude altitude p) (h : ¬ p.OnGlobe) :
      Refuses (some (commaList (latitude :: longitude :: altitude.toList)))
        (.outOfRange (commaList (latitude :: longitude :: altitude.toList)))

theorem length_eq_two_or_three_iff {parts : List RawText} :
    parts.length = 2 ∨ parts.length = 3 ↔
      ∃ latitude longitude, ∃ altitude : Option RawText,
        parts = latitude :: longitude :: altitude.toList := by
  constructor
  · rintro (htwo | hthree)
    · obtain ⟨latitude, longitude, rfl⟩ := List.length_eq_two.1 htwo
      exact ⟨latitude, longitude, none, rfl⟩
    · obtain ⟨latitude, longitude, altitude, rfl⟩ := List.length_eq_three.1 hthree
      exact ⟨latitude, longitude, some altitude, rfl⟩
  · rintro ⟨latitude, longitude, altitude, rfl⟩
    cases altitude with
    | none => exact .inl rfl
    | some altitude => exact .inr rfl

/-- Two or three parts that are all numbers spell coordinates. -/
theorem exists_spells {parts : List RawText} (hcount : parts.length = 2 ∨ parts.length = 3)
    (hapart : ∀ part ∈ parts, ',' ∉ part.chars) (hread : ∀ part ∈ parts, number? part ≠ none) :
    ∃ latitude longitude altitude p,
      parts = latitude :: longitude :: altitude.toList ∧ Spells latitude longitude altitude p := by
  obtain ⟨latitude, longitude, altitude, rfl⟩ := length_eq_two_or_three_iff.1 hcount
  have hvalue : ∀ part ∈ latitude :: longitude :: altitude.toList, ∃ x, number? part = some x :=
    fun part hmem => Option.ne_none_iff_exists'.1 (hread part hmem)
  obtain ⟨x, hx⟩ := hvalue latitude (by simp)
  obtain ⟨y, hy⟩ := hvalue longitude (by simp)
  refine ⟨latitude, longitude, altitude, ⟨x, y⟩, rfl, hapart, hx, hy, fun part hpart => ?_⟩
  exact hvalue part (by simp [Option.mem_def.1 hpart])

/-- Every setting names a place or is refused for a reason. -/
theorem names_or_refuses (setting : Option RawText) :
    (∃ p, Names setting p) ∨ ∃ fault, Refuses setting fault := by
  rcases setting with _ | text
  · exact .inr ⟨_, .absent⟩
  obtain ⟨parts, hapart, rfl⟩ := exists_commaList text
  by_cases hblank : (commaList parts).AllBlank
  · exact .inr ⟨_, .blank hblank⟩
  by_cases hcount : parts.length = 2 ∨ parts.length = 3
  · by_cases hread : ∀ part ∈ parts, number? part ≠ none
    · obtain ⟨latitude, longitude, altitude, p, rfl, hspells⟩ := exists_spells hcount hapart hread
      by_cases hglobe : p.OnGlobe
      · exact .inl ⟨p, hglobe, latitude, longitude, altitude, rfl, hspells⟩
      · exact .inr ⟨_, .outOfRange hspells hglobe⟩
    · obtain ⟨part, hmem, h⟩ : ∃ part ∈ parts, number? part = none := by simpa using hread
      exact .inr ⟨_, .notNumeric hcount hapart hmem h⟩
  · exact .inr ⟨_, .malformed hblank hapart (not_or.1 hcount)⟩

/-! ### What a setting comes to -/

theorem numbers?_cons (piece : RawText) (pieces : List RawText) :
    numbers? (piece :: pieces) =
      piece.real?.bind fun x => (numbers? pieces).map (x :: ·) := by
  simp only [numbers?, List.mapM_cons, Option.map_eq_bind]
  rfl

/-- One part that is no number is enough. -/
theorem numbers?_eq_none {piece : RawText} {pieces : List RawText} (hmem : piece ∈ pieces)
    (h : piece.real? = none) : numbers? pieces = none := by
  induction pieces with
  | nil => cases hmem
  | cons first rest ih =>
    rw [numbers?_cons]
    rcases List.mem_cons.1 hmem with rfl | hlater
    · rw [h, Option.bind_none]
    · rw [ih hlater]
      cases first.real? <;> rfl

/-- Of two or three parts the numbers decide. -/
theorem parse_of_count {parts : List RawText} (hcount : parts.length = 2 ∨ parts.length = 3)
    (hapart : ∀ part ∈ parts, ',' ∉ part.chars) :
    parse (commaList parts) =
      match numbers? (parts.map RawText.strip) with
      | some (latitude :: longitude :: _) =>
        if inRange latitude longitude then .ok ⟨latitude, longitude⟩
        else .error (.outOfRange (commaList parts))
      | _ => .error (.notNumeric (commaList parts)) := by
  have hne : parts ≠ [] := by
    rintro rfl
    simp at hcount
  have hbare := bareParts_commaList hne hapart
  have hseveral : bareParts (commaList parts) ≠ ([""] : List RawText) := by
    intro hsingle
    have hone := congrArg List.length hsingle
    rw [hbare, List.length_map, List.length_singleton] at hone
    omega
  rw [parse_eq, if_neg hseveral, hbare, List.length_map, if_neg (by omega)]

section

variable {latitude longitude : RawText} {altitude : Option RawText} {p : ReferencePoint}

/-- The numbers of parts that spell coordinates start with the coordinates. -/
theorem Spells.numbers (h : Spells latitude longitude altitude p) :
    ∃ rest, numbers? ((latitude :: longitude :: altitude.toList).map RawText.strip) =
      some (p.latitude :: p.longitude :: rest) := by
  have hfirst : latitude.strip.real? = some p.latitude := h.latitude
  have hsecond : longitude.strip.real? = some p.longitude := h.longitude
  rw [List.map_cons, List.map_cons, numbers?_cons, numbers?_cons, hfirst, hsecond]
  cases altitude with
  | none => exact ⟨[], rfl⟩
  | some part =>
    obtain ⟨height, hheight⟩ := h.altitude part rfl
    have hthird : part.strip.real? = some height := hheight
    refine ⟨[height], ?_⟩
    rw [Option.toList_some, List.map_singleton, numbers?_cons, hthird]
    rfl

/-- Coordinates are accepted if they lie on the globe. -/
theorem parse_of_spells (h : Spells latitude longitude altitude p) :
    parse (commaList (latitude :: longitude :: altitude.toList)) =
      if inRange p.latitude p.longitude then .ok p
      else .error (.outOfRange (commaList (latitude :: longitude :: altitude.toList))) := by
  obtain ⟨rest, hnumbers⟩ := h.numbers
  have hcount := length_eq_two_or_three_iff.2 ⟨latitude, longitude, altitude, rfl⟩
  rw [parse_of_count hcount h.apart, hnumbers]

end

section

variable {setting : Option RawText} {p : ReferencePoint} {fault : LocationFault}

theorem parse?_some (text : RawText) : parse? (some text) = parse text := rfl

/-- A setting that names a place comes to it. -/
theorem Names.parse? (h : Names setting p) : parse? setting = .ok p := by
  obtain ⟨hglobe, latitude, longitude, altitude, rfl, hspells⟩ := h
  rw [parse?_some, parse_of_spells hspells, if_pos ((inRange_iff p).2 hglobe)]

/-- A setting that is refused comes to the fault that it is refused for. -/
theorem Refuses.parse? (h : Refuses setting fault) : parse? setting = .error fault := by
  cases h with
  | absent => rfl
  | @blank text hblank =>
    rw [parse?_some, parse_eq, if_pos ((bareParts_eq_blank_iff text).2 hblank)]
  | @malformed parts hseen hapart hcount =>
    have hseveral : bareParts (commaList parts) ≠ ([""] : List RawText) :=
      mt (bareParts_eq_blank_iff _).1 hseen
    have hne : parts ≠ [] := by
      rintro rfl
      exact hseen (RawText.strip_eq_empty_iff.1 rfl)
    rw [parse?_some, parse_eq, if_neg hseveral, bareParts_commaList hne hapart, List.length_map,
      if_pos hcount]
  | @notNumeric parts part hcount hapart hmem hunread =>
    have hnone : numbers? (parts.map RawText.strip) = none :=
      numbers?_eq_none (List.mem_map_of_mem hmem) hunread
    rw [parse?_some, parse_of_count hcount hapart, hnone]
  | @outOfRange latitude longitude altitude p hspells hoff =>
    rw [parse?_some, parse_of_spells hspells, if_neg (mt (inRange_iff p).1 hoff)]

/-- A setting comes to the place that it names; it cannot come to a place and be refused. -/
theorem parse?_eq_ok_iff : parse? setting = .ok p ↔ Names setting p := by
  refine ⟨fun h => ?_, Names.parse?⟩
  rcases names_or_refuses setting with ⟨q, hnames⟩ | ⟨fault, hrefuses⟩
  · cases h.symm.trans hnames.parse?
    exact hnames
  · cases h.symm.trans hrefuses.parse?

/-- A setting comes to the fault that it is refused for; it cannot come to a fault and name a
place. -/
theorem parse?_eq_error_iff : parse? setting = .error fault ↔ Refuses setting fault := by
  refine ⟨fun h => ?_, Refuses.parse?⟩
  rcases names_or_refuses setting with ⟨q, hnames⟩ | ⟨other, hrefuses⟩
  · cases h.symm.trans hnames.parse?
  · cases h.symm.trans hrefuses.parse?
    exact hrefuses

end

/-! ### What does not count -/

/-- Blanks stand around a part. -/
def Padded (part padded : RawText) : Prop :=
  ∃ left right : RawText, padded = left ++ part ++ right ∧ left.AllBlank ∧ right.AllBlank

theorem Padded.strip {part padded : RawText} (h : Padded part padded) :
    padded.strip = part.strip := by
  obtain ⟨left, right, rfl, hleft, hright⟩ := h
  exact RawText.strip_surrounded hleft hright part

theorem Padded.apart {part padded : RawText} (h : Padded part padded)
    (hapart : ',' ∉ part.chars) : ',' ∉ padded.chars := by
  obtain ⟨left, right, rfl, hleft, hright⟩ := h
  simp only [RawText.chars_append, List.mem_append, not_or]
  exact ⟨⟨RawText.comma_not_mem_of_allBlank hleft, hapart⟩,
    RawText.comma_not_mem_of_allBlank hright⟩

theorem forall_apart_of_padded {parts padded : List RawText} (h : List.Forall₂ Padded parts padded)
    (hapart : ∀ part ∈ parts, ',' ∉ part.chars) : ∀ part ∈ padded, ',' ∉ part.chars := by
  induction h with
  | nil => exact hapart
  | cons hfirst hothers ih =>
    obtain ⟨hcomma, hrest⟩ := List.forall_mem_cons.1 hapart
    exact List.forall_mem_cons.2 ⟨hfirst.apart hcomma, ih hrest⟩

theorem map_strip_of_padded {parts padded : List RawText} (h : List.Forall₂ Padded parts padded) :
    padded.map RawText.strip = parts.map RawText.strip := by
  induction h with
  | nil => rfl
  | cons hfirst hothers ih => rw [List.map_cons, List.map_cons, hfirst.strip, ih]

/-- Blanks around the parts of a setting do not count. -/
theorem parse_padded {parts padded : List RawText} (hne : parts ≠ [])
    (hapart : ∀ part ∈ parts, ',' ∉ part.chars) (h : List.Forall₂ Padded parts padded) :
    parse (commaList padded) = (parse (commaList parts)).mapError (·.about (commaList padded)) := by
  have hpadded : padded ≠ [] := by
    rintro rfl
    cases h
    exact hne rfl
  refine parse_of_bareParts_eq ?_
  rw [bareParts_commaList hpadded (forall_apart_of_padded h hapart),
    bareParts_commaList hne hapart, map_strip_of_padded h]

/-- Beside an altitude that is a number, or without one, the first two parts decide. -/
theorem parse_commaList {latitude longitude : RawText} {altitude : Option RawText}
    (hapart : ∀ part ∈ latitude :: longitude :: altitude.toList, ',' ∉ part.chars)
    (hread : ∀ part ∈ altitude.toList, ∃ height, number? part = some height) :
    parse (commaList (latitude :: longitude :: altitude.toList)) =
      match number? latitude, number? longitude with
      | some x, some y =>
        if inRange x y then .ok ⟨x, y⟩
        else .error (.outOfRange (commaList (latitude :: longitude :: altitude.toList)))
      | _, _ => .error (.notNumeric (commaList (latitude :: longitude :: altitude.toList))) := by
  have hcount := length_eq_two_or_three_iff.2 ⟨latitude, longitude, altitude, rfl⟩
  cases hfirst : number? latitude with
  | none => exact (Refuses.notNumeric hcount hapart (by simp) hfirst).parse?
  | some x =>
    cases hsecond : number? longitude with
    | none => exact (Refuses.notNumeric hcount hapart (by simp) hsecond).parse?
    | some y =>
      have hspells : Spells latitude longitude altitude ⟨x, y⟩ :=
        ⟨hapart, hfirst, hsecond, fun part hpart => hread part (Option.mem_toList.2 hpart)⟩
      rw [parse_of_spells hspells]

/-- An altitude can be added, left out and replaced by another one, as long as it is a number. -/
theorem parse_altitude {latitude longitude : RawText} {altitude other : Option RawText}
    (hapart : ∀ part ∈ latitude :: longitude :: (altitude.toList ++ other.toList),
      ',' ∉ part.chars)
    (hread : ∀ part ∈ altitude.toList ++ other.toList, ∃ height, number? part = some height) :
    parse (commaList (latitude :: longitude :: other.toList)) =
      (parse (commaList (latitude :: longitude :: altitude.toList))).mapError
        (·.about (commaList (latitude :: longitude :: other.toList))) := by
  simp only [List.forall_mem_cons, List.forall_mem_append] at hapart hread
  obtain ⟨hfirst, hsecond, hthird, hthird'⟩ := hapart
  have hbefore : ∀ part ∈ latitude :: longitude :: altitude.toList, ',' ∉ part.chars :=
    List.forall_mem_cons.2 ⟨hfirst, List.forall_mem_cons.2 ⟨hsecond, hthird⟩⟩
  have hafter : ∀ part ∈ latitude :: longitude :: other.toList, ',' ∉ part.chars :=
    List.forall_mem_cons.2 ⟨hfirst, List.forall_mem_cons.2 ⟨hsecond, hthird'⟩⟩
  rw [parse_commaList hbefore hread.1, parse_commaList hafter hread.2]
  split
  · split <;> rfl
  · rfl

end ReferencePoint

/-! ### The places of a handler -/

namespace Handler

variable (h : Handler)

/-- The places that the cycles of a handler measure from, those of all lifetimes. -/
def places : List ReferencePoint := h.lifetimes.map Lifetime.reference

theorem map_reference_modify (lifetimes : List Lifetime) (number : Nat) {f : Lifetime → Lifetime}
    (hf : ∀ lifetime, (f lifetime).reference = lifetime.reference) :
    (lifetimes.modify number f).map Lifetime.reference = lifetimes.map Lifetime.reference := by
  refine List.ext_getElem? fun i => ?_
  rw [List.getElem?_map, List.getElem?_map, List.getElem?_modify]
  by_cases heq : number = i
  · cases lifetimes[i]? <;> simp [heq, hf]
  · simp [heq]

@[simp] theorem places_endLifetime : h.endLifetime.places = h.places :=
  map_reference_modify _ _ fun _ => rfl

@[simp] theorem places_enter (number : Nat) (phase : Phase) :
    (h.enter number phase).places = h.places :=
  map_reference_modify _ _ fun _ => rfl

@[simp] theorem places_beginLifetime (p : ReferencePoint) :
    (h.beginLifetime p).places = h.places ++ [p] := by
  have hended := h.places_endLifetime
  unfold places at hended ⊢
  rw [beginLifetime, List.map_append, hended]
  rfl

end Handler

namespace Watch

/-- An activation adds the place that the settings name, if they name one. -/
theorem places_activate (w : Watch) (schedule : Bool) :
    (w.activate schedule).2.inner.places =
      w.inner.places ++ (ReferencePoint.parse w.inner.settings.location).toOption.toList := by
  cases hparse : ReferencePoint.parse w.inner.settings.location with
  | error fault =>
    rw [activate_of_error hparse]
    exact (List.append_nil _).symm
  | ok p =>
    rw [activate_of_ok hparse]
    have hbegun : (w.begun p).inner.places = w.inner.places ++ [p] := w.inner.places_beginLifetime p
    cases schedule with
    | false => exact hbegun
    | true =>
      obtain ⟨refreshJob, hinner⟩ := inner_startJob (w.begun p)
      rw [if_pos rfl, hinner]
      exact hbegun

theorem places_act (number : Nat) (effect : Effect) (w : Watch) :
    (w.act number effect).inner.places = w.inner.places := by
  cases effect with
  | pause seconds => rfl
  | log entry => rfl
  | enter phase => exact w.inner.places_enter number phase

end Watch

/-- At every moment of a life each place of the handler was named by some setting. -/
theorem Life.places_named {w : Watch} {flights : List Flight} (h : Life w flights) :
    ∀ p ∈ w.inner.places, ∃ location, ReferencePoint.Names (some location) p := by
  induction h with
  | start bridge settings registry sink => exact fun p hp => by cases hp
  | aside h haside ih =>
    unfold Handler.places at ih ⊢
    rwa [haside.lifetimes]
  | @activate w flights h schedule ih =>
    rw [Watch.places_activate]
    refine List.forall_mem_append.2 ⟨ih, fun p hp => ⟨w.inner.settings.location, ?_⟩⟩
    cases hparse : ReferencePoint.parse w.inner.settings.location with
    | error fault =>
      rw [hparse] at hp
      cases hp
    | ok q =>
      rw [hparse] at hp
      obtain rfl := List.mem_singleton.1 hp
      exact ReferencePoint.parse?_eq_ok_iff.1 hparse
  | @dispose w flights h ih =>
    rw [Watch.inner_dispose]
    have hended := w.inner.places_endLifetime
    exact hended.symm ▸ ih
  | refresh h hcycle hactive hfree hlifetime ih => exact ih
  | rerun h hlifetime ih => exact ih
  | act h ih => rwa [Watch.places_act]
  | ask h reply ih => exact ih
  | @conclude w flights number guarded outcome h ih =>
    rw [Watch.release_eq]
    show ∀ p ∈ (w.conclude number outcome).2.inner.places, _
    rw [Watch.inner_conclude, Handler.places_enter]
    exact ih

namespace ReferencePoint

/-- **Places are accepted exactly if they are well formed.**  A setting comes to the place that it
names, and to a fault, the one that tells why, if it names none.  The coordinates of an accepted
place lie on the globe and are finite.  Blanks around the parts do not change what a setting comes
to, and neither does an altitude that is added, left out or replaced by another number; a fault is
then told of the other text.  Every list of steps is a life, and at every moment of a life the
cycles of the handler measure from places on the globe, each named by some setting. -/
theorem places_well_formed :
    (∀ setting p, parse? setting = .ok p ↔ Names setting p) ∧
    (∀ setting fault, parse? setting = .error fault ↔ Refuses setting fault) ∧
    (∀ setting p, parse? setting = .ok p →
      p.OnGlobe ∧ p.latitude.isFinite = true ∧ p.longitude.isFinite = true) ∧
    (∀ parts padded, parts ≠ [] → (∀ part ∈ parts, ',' ∉ part.chars) →
      List.Forall₂ Padded parts padded →
        parse (commaList padded) =
          (parse (commaList parts)).mapError (·.about (commaList padded))) ∧
    (∀ (latitude longitude : RawText) (altitude other : Option RawText),
      (∀ part ∈ latitude :: longitude :: (altitude.toList ++ other.toList), ',' ∉ part.chars) →
      (∀ part ∈ altitude.toList ++ other.toList, ∃ height, number? part = some height) →
        parse (commaList (latitude :: longitude :: other.toList)) =
          (parse (commaList (latitude :: longitude :: altitude.toList))).mapError
            (·.about (commaList (latitude :: longitude :: other.toList)))) ∧
    (∀ bridge settings registry sink list,
      Life (Watch.steps list (Timed.start (.create bridge settings registry sink))).2 []) ∧
    ∀ w flights, Life w flights → ∀ lifetime ∈ w.inner.lifetimes,
      lifetime.reference.OnGlobe ∧
        ∃ location, parse? (some location) = .ok lifetime.reference := by
  refine ⟨fun setting p => parse?_eq_ok_iff, fun setting fault => parse?_eq_error_iff, ?_, ?_, ?_,
    ?_, ?_⟩
  · intro setting p h
    have hglobe : p.OnGlobe := (parse?_eq_ok_iff.1 h).onGlobe
    exact ⟨hglobe, hglobe.isFinite⟩
  · intro parts padded hne hapart h
    exact parse_padded hne hapart h
  · intro latitude longitude altitude other hapart hread
    exact parse_altitude hapart hread
  · intro bridge settings registry sink list
    exact (Life.start bridge settings registry sink).steps list
  · intro w flights h lifetime hlifetime
    obtain ⟨location, hnames⟩ := h.places_named _ (List.mem_map_of_mem hlifetime)
    exact ⟨hnames.onGlobe, location, hnames.parse?⟩

/-- A place in the digits of two scripts, also with blanks around its parts and with an altitude;
and the two cycles of a handler that was activated again within a request. -/
theorem padded_place_accepted : ∃ p,
    parse? (some ↑"51.2,٧.1") = .ok p ∧ parse? (some ↑" 51.2\t,\u2003٧.1") = .ok p ∧
      parse? (some ↑"51.2,٧.1,1_0") = .ok p ∧
      p.OnGlobe ∧ p.latitude.isFinite = true ∧ p.longitude.isFinite = true ∧
      interrupted.inner.places.length = 2 ∧
      ∀ lifetime ∈ interrupted.inner.lifetimes, lifetime.reference.OnGlobe := by
  obtain ⟨-, -, haccepted, hpadded, haltitude, hrun, hlife⟩ := places_well_formed
  obtain ⟨p, hplain⟩ : ∃ p, parse? (some ↑"51.2,٧.1") = .ok p := ⟨_, rfl⟩
  have hlisted : parse (commaList ["51.2", "٧.1"]) = .ok p := hplain
  obtain ⟨hglobe, hlatitude, hlongitude⟩ := haccepted _ p hplain
  have haround : List.Forall₂ Padded ["51.2", "٧.1"] [" 51.2\t", "\u2003٧.1"] := by
    refine .cons ⟨" ", "\t", rfl, ⟨" ", rfl, ?_⟩, ⟨"\t", rfl, ?_⟩⟩
      (.cons ⟨"\u2003", "", rfl, ⟨"\u2003", rfl, ?_⟩, ⟨"", rfl, ?_⟩⟩ .nil)
    · exact List.forall_mem_singleton.2 (by decide)
    · exact List.forall_mem_singleton.2 (by decide)
    · exact List.forall_mem_singleton.2 (by decide)
    · exact fun c hc => by cases hc
  have hwide := hpadded _ _ (List.cons_ne_nil _ _) (by decide) haround
  have hhigh := haltitude "51.2" "٧.1" none (some ↑"1_0") (by decide)
    (List.forall_mem_singleton.2 ⟨_, rfl⟩)
  refine ⟨p, hplain, hwide.trans (congrArg _ hlisted), hhigh.trans (congrArg _ hlisted), hglobe,
    hlatitude, hlongitude, by decide +kernel, fun lifetime hlifetime => ?_⟩
  exact (hlife interrupted [] (hrun _ _ _ _ _) lifetime hlifetime).1

end ReferencePoint

end StationWatch
