import StationWatch.Station

/-!
# What an entry contributes to the list of stations

The list of locations is read entry by entry.  This file says in terms of the JSON value alone when
an entry is a station, and when it holds a whole number beyond all doubles where a coordinate is
looked for.  An entry of the second kind spoils the whole list; without one, every entry contributes
its own row or none, whatever stands beside it.

## Main definitions

* `Station.Locates` — an entry with an identifier and two coordinates to be read.
* `Station.Describes` — an entry that is a station.
* `Station.Overflows` — an entry that spoils its list.
* `Station.rowsOf` — the rows of one entry.

## Main results

* `ofEntry_eq_station_iff`, `ofEntry_eq_tooLarge_iff` — the two kinds of entries.
* `ofEntries_append_eq_ok_iff` — reading a list in two parts.
* `ofPayload_entrywise` — the rows of a payload are those of its entries, unless one overflows.

## References

`SPEC_FULL.md`, section 4.1, on entries that are skipped.
-/

namespace StationWatch

namespace Json

/-- The values that can name something: neither `null` nor an array nor an object. -/
def isScalar : Json → Bool
  | .null => false
  | .arr _ => false
  | .obj _ => false
  | _ => true

/-- Whether a value is a whole number that no double can stand for. -/
def isOverlarge : Json → Bool
  | .int n => (Decimal.ofInt? n).isNone
  | _ => false

theorem toReal_eq_tooLarge_iff (j : Json) :
    j.toReal = .error .tooLarge ↔ j.isOverlarge = true := by
  cases j with
  | int n => cases h : Decimal.ofInt? n <;> simp [toReal, isOverlarge, h]
  | str s => cases h : s.real? <;> simp [toReal, isOverlarge, h]
  | _ => simp [toReal, isOverlarge]

end Json

namespace Station

/-! ### Entries -/

/-- The entry is an object with a scalar identifier and with an array of coordinates, of which the
first two are no truth values. -/
def Locates (entry code longitude latitude : Json) : Prop :=
  ∃ members location rest, entry = .obj members ∧
    Json.lookup "@iot.id" members = some code ∧ code.isScalar = true ∧
    Json.lookup "location" members = some (.obj location) ∧
    Json.lookup "coordinates" location = some (.arr (longitude :: latitude :: rest)) ∧
    longitude.isTruthValue = false ∧ latitude.isTruthValue = false

/-- The entry is a station: both coordinates stand for numbers, and these are degrees. -/
def Describes (entry : Json) (station : Station) : Prop :=
  ∃ code longitude latitude, Locates entry code longitude latitude ∧
    longitude.toReal = .ok station.longitude ∧ latitude.toReal = .ok station.latitude ∧
    inRange station.latitude station.longitude = true ∧
    code.plain = station.siteCode ∧ station.siteName = nameOf entry

/-- The entry has an overlarge coordinate.  The latitude is read first, so a longitude counts only
beside a latitude that is a number. -/
def Overflows (entry : Json) : Prop :=
  ∃ code longitude latitude, Locates entry code longitude latitude ∧
    (latitude.isOverlarge = true ∨
      (∃ degrees, latitude.toReal = .ok degrees) ∧ longitude.isOverlarge = true)

/-- The rows that an entry contributes: one or none. -/
def rowsOf (entry : Json) : List Station :=
  match ofEntry entry with
  | .station station => [station]
  | _ => []

/-- The payload is an object with an array of values. -/
def Lists (payload : Json) (items : List Json) : Prop :=
  ∃ members, payload = .obj members ∧ Json.lookup "value" members = some (.arr items)

/-- A payload with nothing but an array of values. -/
def listing (items : List Json) : Json := .obj [("value", .arr items)]

theorem lists_listing (items : List Json) : Lists (listing items) items := ⟨_, rfl, rfl⟩

theorem codeOf?_eq_some_iff {entry : Json} {text : RawText} :
    codeOf? entry = some text ↔ ∃ members code, entry = .obj members ∧
      Json.lookup "@iot.id" members = some code ∧ code.isScalar = true ∧ code.plain = text := by
  cases entry with
  | obj members =>
    cases h : Json.lookup "@iot.id" members with
    | none => simp [codeOf?, Json.field, h]
    | some code => cases code <;> simp [codeOf?, Json.field, h, Json.isScalar]
  | _ => simp [codeOf?, Json.field]

theorem pair_eq_some_iff {first second longitude latitude : Json} :
    (if first.isTruthValue || second.isTruthValue then none else some (first, second)) =
        some (longitude, latitude) ↔
      first = longitude ∧ second = latitude ∧ longitude.isTruthValue = false ∧
        latitude.isTruthValue = false := by
  constructor
  · intro h
    split at h
    · cases h
    · rename_i hnone
      rw [Bool.or_eq_true, not_or, Bool.not_eq_true, Bool.not_eq_true] at hnone
      cases h
      exact ⟨rfl, rfl, hnone⟩
  · rintro ⟨rfl, rfl, hfirst, hsecond⟩
    simp [hfirst, hsecond]

theorem coordinatesOf?_eq_some_iff {entry longitude latitude : Json} :
    coordinatesOf? entry = some (longitude, latitude) ↔ ∃ members location rest,
      entry = .obj members ∧ Json.lookup "location" members = some (.obj location) ∧
      Json.lookup "coordinates" location = some (.arr (longitude :: latitude :: rest)) ∧
      longitude.isTruthValue = false ∧ latitude.isTruthValue = false := by
  cases entry with
  | obj members =>
    simp only [coordinatesOf?, Json.field]
    cases hl : Json.lookup "location" members with
    | none => simp [hl]
    | some place =>
      cases place with
      | obj location =>
        simp only [Option.getD_some]
        cases hc : Json.lookup "coordinates" location with
        | none => simp [hl, hc]
        | some coordinates =>
          cases coordinates with
          | arr items =>
            cases items with
            | nil => simp [hl, hc]
            | cons first items =>
              cases items with
              | nil => simp [hl, hc]
              | cons second rest =>
                simp only [Option.getD_some, pair_eq_some_iff]
                constructor
                · rintro ⟨rfl, rfl, htruth⟩
                  exact ⟨members, location, rest, rfl, hl, hc, htruth⟩
                · rintro ⟨_, _, _, ⟨⟩, hl', hc', htruth⟩
                  cases hl.symm.trans hl'
                  cases hc.symm.trans hc'
                  exact ⟨rfl, rfl, htruth⟩
          | _ => simp [hl, hc]
      | _ => simp [hl]
  | _ => simp [coordinatesOf?, Json.field]

/-- What `Locates` says, split over the readers of identifier and coordinates. -/
theorem locates_iff {entry longitude latitude : Json} {text : RawText} :
    (codeOf? entry = some text ∧ coordinatesOf? entry = some (longitude, latitude)) ↔
      ∃ code, Locates entry code longitude latitude ∧ code.plain = text := by
  rw [codeOf?_eq_some_iff, coordinatesOf?_eq_some_iff]
  constructor
  · rintro ⟨⟨members, code, rfl, hcode, hscalar, hplain⟩, _, location, rest, ⟨⟩, hrest⟩
    exact ⟨code, ⟨members, location, rest, rfl, hcode, hscalar, hrest⟩, hplain⟩
  · rintro ⟨code, ⟨members, location, rest, rfl, hcode, hscalar, hrest⟩, hplain⟩
    exact ⟨⟨members, code, rfl, hcode, hscalar, hplain⟩, members, location, rest, rfl, hrest⟩

theorem place_eq_station_iff {text name : RawText} {longitude latitude : Json} {station : Station} :
    place text name longitude latitude = .station station ↔
      longitude.toReal = .ok station.longitude ∧ latitude.toReal = .ok station.latitude ∧
        inRange station.latitude station.longitude = true ∧
        text = station.siteCode ∧ station.siteName = name := by
  unfold place
  cases hlat : latitude.toReal with
  | error fault => cases fault <;> simp
  | ok lat =>
    cases hlon : longitude.toReal with
    | error fault => cases fault <;> simp
    | ok lon =>
      obtain ⟨code', name', lat', lon'⟩ := station
      by_cases h : inRange lat lon = true
      · simp only [h, if_true, Entry.station.injEq, mk.injEq, Except.ok.injEq]
        grind
      · simp only [h, Except.ok.injEq]
        grind

theorem place_eq_tooLarge_iff {text name : RawText} {longitude latitude : Json} :
    place text name longitude latitude = .tooLarge ↔
      latitude.isOverlarge = true ∨
        (∃ degrees, latitude.toReal = .ok degrees) ∧ longitude.isOverlarge = true := by
  rw [← Json.toReal_eq_tooLarge_iff, ← Json.toReal_eq_tooLarge_iff]
  unfold place
  cases hlat : latitude.toReal with
  | error fault => cases fault <;> simp
  | ok lat =>
    cases hlon : longitude.toReal with
    | error fault => cases fault <;> simp
    | ok lon => by_cases h : inRange lat lon = true <;> simp [h]

/-- An entry without identifier or coordinates is passed over, every other one placed. -/
theorem ofEntry_eq_iff {entry : Json} {kind : Entry} (h : kind ≠ .skipped) :
    ofEntry entry = kind ↔ ∃ code longitude latitude, Locates entry code longitude latitude ∧
      place code.plain (nameOf entry) longitude latitude = kind := by
  constructor
  · intro hkind
    unfold ofEntry at hkind
    split at hkind
    · rename_i text longitude latitude hcode hpair
      obtain ⟨code, hlocates, rfl⟩ := locates_iff.1 ⟨hcode, hpair⟩
      exact ⟨code, longitude, latitude, hlocates, hkind⟩
    · exact absurd hkind.symm h
  · rintro ⟨code, longitude, latitude, hlocates, hplace⟩
    obtain ⟨hcode, hpair⟩ := locates_iff.2 ⟨code, hlocates, rfl⟩
    simp only [ofEntry, hcode, hpair, hplace]

theorem ofEntry_eq_station_iff {entry : Json} {station : Station} :
    ofEntry entry = .station station ↔ Describes entry station := by
  rw [ofEntry_eq_iff (by simp)]
  simp only [place_eq_station_iff, Describes]

theorem ofEntry_eq_tooLarge_iff {entry : Json} : ofEntry entry = .tooLarge ↔ Overflows entry := by
  rw [ofEntry_eq_iff (by simp)]
  simp only [place_eq_tooLarge_iff, Overflows]

theorem rowsOf_eq_singleton_iff {entry : Json} {station : Station} :
    rowsOf entry = [station] ↔ Describes entry station := by
  rw [← ofEntry_eq_station_iff, rowsOf]
  cases ofEntry entry <;> simp

theorem rowsOf_eq_nil_iff {entry : Json} :
    rowsOf entry = [] ↔ ∀ station, ¬ Describes entry station := by
  simp only [← ofEntry_eq_station_iff, rowsOf]
  cases ofEntry entry <;> simp

/-! ### Lists of entries -/

/-- Without an overflowing entry a list yields the rows of its entries. -/
theorem ofEntries_eq_ok {items : List Json} (h : ∀ entry ∈ items, ¬ Overflows entry) :
    ofEntries items = .ok (items.flatMap rowsOf) := by
  induction items with
  | nil => rfl
  | cons entry rest ih =>
    have hrest := ih fun other hother => h other (List.mem_cons_of_mem _ hother)
    have hentry : ofEntry entry ≠ .tooLarge :=
      fun hlarge => h entry List.mem_cons_self (ofEntry_eq_tooLarge_iff.1 hlarge)
    rw [ofEntries, hrest, List.flatMap_cons, rowsOf]
    cases hkind : ofEntry entry with
    | station station => rfl
    | skipped => rfl
    | tooLarge => exact absurd hkind hentry

/-- One overflowing entry spoils its list. -/
theorem ofEntries_eq_tooLarge {items : List Json} (h : ∃ entry ∈ items, Overflows entry) :
    ofEntries items = .error .tooLarge := by
  induction items with
  | nil => simp at h
  | cons entry rest ih =>
    rw [ofEntries]
    by_cases hentry : Overflows entry
    · rw [ofEntry_eq_tooLarge_iff.2 hentry]
    · have hrest : ofEntries rest = .error .tooLarge := by
        obtain ⟨other, hmem, hother⟩ := h
        rcases List.mem_cons.1 hmem with rfl | hmem
        · exact absurd hother hentry
        · exact ih ⟨other, hmem, hother⟩
      have hkind : ofEntry entry ≠ .tooLarge := fun hk => hentry (ofEntry_eq_tooLarge_iff.1 hk)
      cases hk : ofEntry entry with
      | station station => rw [hrest]; rfl
      | skipped => exact hrest
      | tooLarge => exact absurd hk hkind

theorem ofEntries_eq_ok_iff {items : List Json} {rows : List Station} :
    ofEntries items = .ok rows ↔
      (∀ entry ∈ items, ¬ Overflows entry) ∧ items.flatMap rowsOf = rows := by
  by_cases h : ∃ entry ∈ items, Overflows entry
  · rw [ofEntries_eq_tooLarge h]
    grind
  · have hnone : ∀ entry ∈ items, ¬ Overflows entry := by simpa using h
    rw [ofEntries_eq_ok hnone, Except.ok.injEq]
    exact ⟨fun hrows => ⟨hnone, hrows⟩, And.right⟩

theorem ofEntries_eq_error_iff {items : List Json} {fault : PayloadFault} :
    ofEntries items = .error fault ↔
      (∃ entry ∈ items, Overflows entry) ∧ fault = .tooLarge := by
  by_cases h : ∃ entry ∈ items, Overflows entry
  · rw [ofEntries_eq_tooLarge h, Except.error.injEq]
    exact ⟨fun hfault => ⟨h, hfault.symm⟩, fun hfault => hfault.2.symm⟩
  · have hnone : ∀ entry ∈ items, ¬ Overflows entry := by simpa using h
    rw [ofEntries_eq_ok hnone]
    simp [h]

/-- A list is read like its two parts. -/
theorem ofEntries_append_eq_ok_iff {a b : List Json} {rows : List Station} :
    ofEntries (a ++ b) = .ok rows ↔ ∃ rowsA rowsB,
      ofEntries a = .ok rowsA ∧ ofEntries b = .ok rowsB ∧ rows = rowsA ++ rowsB := by
  simp only [ofEntries_eq_ok_iff, List.forall_mem_append, List.flatMap_append]
  constructor
  · rintro ⟨⟨ha, hb⟩, rfl⟩
    exact ⟨_, _, ⟨ha, rfl⟩, ⟨hb, rfl⟩, rfl⟩
  · rintro ⟨_, _, ⟨ha, rfl⟩, ⟨hb, rfl⟩, rfl⟩
    exact ⟨⟨ha, hb⟩, rfl⟩

/-! ### Payloads -/

theorem entries_eq_ok_iff {payload : Json} {items : List Json} :
    entries payload = .ok items ↔ Lists payload items := by
  unfold entries Lists
  cases payload with
  | obj members =>
    simp only [Json.field, Json.obj.injEq, exists_eq_left']
    cases h : Json.lookup "value" members with
    | none => simp
    | some value => cases value <;> simp
  | _ => simp [Json.field]

theorem entries_eq_error {payload : Json} (h : ∀ items, ¬ Lists payload items) :
    entries payload = .error .noValues := by
  cases hentries : entries payload with
  | ok items => exact absurd (entries_eq_ok_iff.1 hentries) (h items)
  | error fault =>
    unfold entries at hentries
    split at hentries
    · simp at hentries
    · exact hentries.symm

theorem ofPayload_of_lists {payload : Json} {items : List Json} (h : Lists payload items) :
    ofPayload payload = ofEntries items := by
  rw [ofPayload, entries_eq_ok_iff.2 h]

theorem ofPayload_of_not_lists {payload : Json} (h : ∀ items, ¬ Lists payload items) :
    ofPayload payload = .error (.shape .noValues) := by
  rw [ofPayload, entries_eq_error h]

theorem ofPayload_listing (items : List Json) : ofPayload (listing items) = ofEntries items :=
  ofPayload_of_lists (lists_listing items)

/-- The shape is at fault exactly if the payload is no object with an array of values. -/
theorem ofPayload_eq_shape_iff {payload : Json} {fault : ShapeFault} :
    ofPayload payload = .error (.shape fault) ↔
      (∀ items, ¬ Lists payload items) ∧ fault = .noValues := by
  by_cases h : ∃ items, Lists payload items
  · obtain ⟨items, hlists⟩ := h
    rw [ofPayload_of_lists hlists, ofEntries_eq_error_iff]
    simp only [reduceCtorEq, and_false, false_iff, not_and]
    exact fun hnot => absurd hlists (hnot items)
  · have hnot : ∀ items, ¬ Lists payload items := by simpa using h
    rw [ofPayload_of_not_lists hnot, Except.error.injEq, PayloadFault.shape.injEq]
    exact ⟨fun hfault => ⟨hnot, hfault.symm⟩, fun hfault => hfault.2.symm⟩

/-- **The rows of a payload are those of its entries, unless one of them overflows.**  A payload has
the wrong shape exactly if it is no object with an array of values.  Otherwise the only fault is an
overflowing entry; without one every entry contributes its own row or none, and two lists in a row
yield the rows of the first and then those of the second. -/
theorem ofPayload_entrywise (payload entry : Json) (a b : List Json) :
    (∀ fault, ofPayload payload = .error (.shape fault) ↔
      (∀ items, ¬ Lists payload items) ∧ fault = .noValues) ∧
    (∀ items, Lists payload items →
      (∀ rows, ofPayload payload = .ok rows ↔
        (∀ entry ∈ items, ¬ Overflows entry) ∧ items.flatMap rowsOf = rows) ∧
      ∀ fault, ofPayload payload = .error fault ↔
        (∃ entry ∈ items, Overflows entry) ∧ fault = .tooLarge) ∧
    ((∀ station, rowsOf entry = [station] ↔ Describes entry station) ∧
      (rowsOf entry = [] ↔ ∀ station, ¬ Describes entry station)) ∧
    ∀ rows, ofPayload (listing (a ++ b)) = .ok rows ↔ ∃ rowsA rowsB,
      ofPayload (listing a) = .ok rowsA ∧ ofPayload (listing b) = .ok rowsB ∧
        rows = rowsA ++ rowsB := by
  refine ⟨fun fault => ofPayload_eq_shape_iff, fun items hlists => ?_,
    ⟨fun station => rowsOf_eq_singleton_iff, rowsOf_eq_nil_iff⟩, fun rows => ?_⟩
  · rw [ofPayload_of_lists hlists]
    exact ⟨fun rows => ofEntries_eq_ok_iff, fun fault => ofEntries_eq_error_iff⟩
  · rw [ofPayload_listing, ofPayload_listing, ofPayload_listing]
    exact ofEntries_append_eq_ok_iff

/-- An entry with a number as identifier and two coordinates, longitude first. -/
def entryAt (code : Int) (longitude latitude : Json) : Json :=
  .obj [("@iot.id", .int code), ("location", .obj [("coordinates", .arr [longitude, latitude])])]

/-- The whole number of four hundred nines. -/
def fourHundredNines : Json := .int (Decimal.valueOf (List.replicate 400 '9'))

/-- A longitude of four hundred digits takes the row of another entry away. -/
theorem overlarge_longitude_suppresses_row :
    (∃ station, ofPayload (listing [entryAt 1 (.int 7) (.int 51)]) = .ok [station]) ∧
      ofPayload (listing [entryAt 1 (.int 7) (.int 51), entryAt 2 fourHundredNines (.int 51)]) =
        .error .tooLarge := by
  constructor
  · have hrows : (rowsOf (entryAt 1 (.int 7) (.int 51))).length = 1 := by decide +kernel
    obtain ⟨station, hstation⟩ := List.length_eq_one_iff.1 hrows
    have hnone : ∀ entry ∈ [entryAt 1 (.int 7) (.int 51)], ¬ Overflows entry := by
      intro entry hmem hover
      rw [List.mem_singleton] at hmem
      subst hmem
      rw [← ofEntry_eq_tooLarge_iff] at hover
      rw [rowsOf, hover] at hstation
      simp at hstation
    exact ⟨station, by rw [ofPayload_listing, ofEntries_eq_ok hnone]; simp [hstation]⟩
  · have hlocates : Locates (entryAt 2 fourHundredNines (.int 51)) (.int 2) fourHundredNines
        (.int 51) := ⟨_, _, [], rfl, rfl, rfl, rfl, rfl, rfl, rfl⟩
    have hlarge : fourHundredNines.isOverlarge = true := by decide +kernel
    have hover : Overflows (entryAt 2 fourHundredNines (.int 51)) :=
      ⟨_, _, _, hlocates, .inr ⟨⟨_, rfl⟩, hlarge⟩⟩
    rw [ofPayload_listing]
    exact ofEntries_eq_tooLarge ⟨_, by simp, hover⟩

end Station

end StationWatch
