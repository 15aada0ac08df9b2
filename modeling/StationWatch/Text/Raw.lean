/-!
# Texts from outside

A text that comes from outside may hold code points that are no characters: halves of a pair of code
units that stand alone.  An escape can name one, and a byte that is no text is read as one.  Such a
text can be compared, cut, quoted and put together with others like any text, but it has no bytes of
its own.

A text is kept as it falls apart at its halves, so there is only one way to write it down.

## Main definitions

* `Half` — a half of a pair.
* `RawText` — a text that may have halves in it.
* `RawText.append`, `RawText.map`, `RawText.spell` — texts put together, changed and written out.
* `RawText.characters?` — the text itself, if it has no half.
* `RawText.points` — the code points of a text, by which texts are ordered.
-/

namespace StationWatch

/-- A half of a pair of code units that stands alone: a code point without a character. -/
structure Half where
  /-- Its place among all halves. -/
  index : Fin 0x800
  deriving DecidableEq, Repr, Inhabited

namespace Half

/-- The code point. -/
def toNat (h : Half) : Nat := 0xD800 + h.index

/-- The half with a code point, if it is one. -/
def ofNat? (n : Nat) : Option Half :=
  if h : 0xD800 ≤ n ∧ n < 0xE000 then some ⟨n - 0xD800, by omega⟩ else none

theorem toNat_inj {h k : Half} : h.toNat = k.toNat ↔ h = k := by
  obtain ⟨i⟩ := h
  obtain ⟨j⟩ := k
  simp [toNat, Fin.ext_iff]

/-- No character has the code point of a half. -/
theorem toNat_ne (h : Half) (c : Char) : h.toNat ≠ c.toNat := by
  obtain ⟨i, hi⟩ := h
  have hvalid : c.toNat < 0xD800 ∨ 0xDFFF < c.toNat ∧ c.toNat < 0x110000 := c.valid
  change 0xD800 + i ≠ c.toNat
  omega

end Half

/-- A text that may have halves in it. -/
inductive RawText
  /-- A text without halves. -/
  | whole (s : String)
  /-- A text whose first half comes after the characters of `front`. -/
  | broken (front : String) (half : Half) (rest : RawText)
  deriving DecidableEq, Repr, Inhabited

instance : Coe String RawText := ⟨.whole⟩

namespace RawText

/-- Whether nothing is in a text. -/
def isEmpty : RawText → Bool
  | .whole s => s.isEmpty
  | .broken _ _ _ => false

@[simp] theorem isEmpty_iff {t : RawText} : t.isEmpty = true ↔ t = "" := by
  cases t <;> simp [isEmpty]

@[simp] theorem isEmpty_eq_false_iff {t : RawText} : t.isEmpty = false ↔ t ≠ "" := by
  rw [Bool.eq_false_iff, ne_eq, isEmpty_iff]

/-- The characters of a text without halves. -/
def characters? : RawText → Option String
  | .whole s => some s
  | .broken _ _ _ => none

@[simp] theorem characters?_whole (s : String) : characters? s = some s := rfl

@[simp] theorem characters?_broken (front : String) (half : Half) (rest : RawText) :
    characters? (.broken front half rest) = none := rfl

/-- One text after another. -/
def append : RawText → RawText → RawText
  | .whole s, .whole t => .whole (s ++ t)
  | .whole s, .broken front half rest => .broken (s ++ front) half rest
  | .broken front half rest, t => .broken front half (append rest t)

instance : Append RawText := ⟨append⟩

@[simp] theorem whole_append_whole (s t : String) : (s : RawText) ++ (t : RawText) = ↑(s ++ t) :=
  rfl

@[simp] theorem whole_append_broken (s front : String) (half : Half) (rest : RawText) :
    (s : RawText) ++ RawText.broken front half rest = .broken (s ++ front) half rest := rfl

@[simp] theorem broken_append (front : String) (half : Half) (rest t : RawText) :
    RawText.broken front half rest ++ t = .broken front half (rest ++ t) := rfl

@[simp] theorem empty_append (t : RawText) : ("" : RawText) ++ t = t := by
  cases t <;> simp

@[simp] theorem append_empty (t : RawText) : t ++ ("" : RawText) = t := by
  induction t with
  | whole s => simp
  | broken front half rest ih => rw [broken_append, ih]

theorem append_assoc (t u v : RawText) : t ++ u ++ v = t ++ (u ++ v) := by
  induction t with
  | whole s =>
    cases u with
    | whole s' => cases v <;> simp [String.append_assoc]
    | broken front half rest => simp
  | broken front half rest ih => rw [broken_append, broken_append, broken_append, ih]

/-- Two texts in a row are without halves if both are. -/
theorem characters?_append (t u : RawText) : (t ++ u).characters? =
    t.characters?.bind fun s => u.characters?.map (s ++ ·) := by
  cases t <;> cases u <;> rfl

/-- A change to the characters between the halves. -/
def map (f : List Char → List Char) : RawText → RawText
  | .whole s => .whole (String.ofList (f s.toList))
  | .broken front half rest => .broken (String.ofList (f front.toList)) half (map f rest)

@[simp] theorem map_whole (f : List Char → List Char) (s : String) :
    map f s = ↑(String.ofList (f s.toList)) := rfl

@[simp] theorem map_broken (f : List Char → List Char) (front : String) (half : Half)
    (rest : RawText) : map f (.broken front half rest) =
      .broken (String.ofList (f front.toList)) half (map f rest) := rfl

/-- A text written out: every character and every half in a form of its own. -/
def spell (char : Char → List Char) (half : Half → List Char) : RawText → List Char
  | .whole s => s.toList.flatMap char
  | .broken front h rest => front.toList.flatMap char ++ half h ++ spell char half rest

/-- The characters of a text, its halves left out. -/
def chars (t : RawText) : List Char := t.spell (fun c => [c]) fun _ => []

@[simp] theorem chars_whole (s : String) : chars s = s.toList := by
  simp [chars, spell]

@[simp] theorem chars_broken (front : String) (half : Half) (rest : RawText) :
    chars (.broken front half rest) = front.toList ++ chars rest := by
  simp [chars, spell]

@[simp] theorem chars_append (t u : RawText) : (t ++ u).chars = t.chars ++ u.chars := by
  induction t with
  | whole s => cases u <;> simp
  | broken front half rest ih => simp [ih]

/-- What follows a beginning without halves, if a text begins so. -/
def dropPrefix? (start : List Char) : RawText → Option RawText
  | .whole s =>
    if start.isPrefixOf s.toList then
      some (.whole (String.ofList (s.toList.drop start.length)))
    else none
  | .broken front half rest =>
    if start.isPrefixOf front.toList then
      some (.broken (String.ofList (front.toList.drop start.length)) half rest)
    else none

theorem dropPrefix?_append (start : String) (t : RawText) :
    dropPrefix? start.toList (start ++ t) = some t := by
  cases t <;> simp [dropPrefix?]

theorem eq_of_dropPrefix? {start : String} {t rest : RawText}
    (h : t.dropPrefix? start.toList = some rest) : t = start ++ rest := by
  have hsplit {s : String} (hs : start.toList.isPrefixOf s.toList) :
      s = start ++ String.ofList (s.toList.drop start.toList.length) := by
    obtain ⟨more, hmore⟩ := List.isPrefixOf_iff_prefix.1 hs
    rw [← String.toList_inj, String.toList_append, String.toList_ofList, ← hmore, List.drop_left]
  cases t with
  | whole s =>
    obtain ⟨hs, hrest⟩ := Option.ite_none_right_eq_some.1 h
    cases hrest
    exact congrArg whole (hsplit hs)
  | broken front half later =>
    obtain ⟨hs, hrest⟩ := Option.ite_none_right_eq_some.1 h
    cases hrest
    exact congrArg (broken · half later) (hsplit hs)

/-! ### The order of texts -/

/-- The code points of a text, in order. -/
def points : RawText → List Nat
  | .whole s => s.toList.map Char.toNat
  | .broken front half rest => front.toList.map Char.toNat ++ half.toNat :: points rest

/-- Characters up to a half are the same if their code points up to there are. -/
theorem eq_of_map_append {cs ds : List Char} {h k : Half} {more rest : List Nat}
    (heq : cs.map Char.toNat ++ h.toNat :: more = ds.map Char.toNat ++ k.toNat :: rest) :
    cs = ds ∧ h = k ∧ more = rest := by
  induction cs generalizing ds with
  | nil =>
    cases ds with
    | nil =>
      obtain ⟨hhalf, hrest⟩ := List.cons.inj heq
      exact ⟨rfl, Half.toNat_inj.1 hhalf, hrest⟩
    | cons d ds => exact absurd (List.cons.inj heq).1 (h.toNat_ne d)
  | cons c cs ih =>
    cases ds with
    | nil => exact absurd (List.cons.inj heq).1.symm (k.toNat_ne c)
    | cons d ds =>
      obtain ⟨hfirst, hothers⟩ := List.cons.inj heq
      obtain ⟨rfl, hhalf, hrest⟩ := ih hothers
      exact ⟨congrArg (· :: cs) (Char.toNat_inj.1 hfirst), hhalf, hrest⟩

/-- A text is known by its code points. -/
theorem points_inj {t u : RawText} : t.points = u.points ↔ t = u := by
  refine ⟨fun h => ?_, fun h => congrArg points h⟩
  have hmissing (s : String) (half : Half) (before after : List Nat) :
      s.toList.map Char.toNat ≠ before ++ half.toNat :: after := by
    intro heq
    have hmem : half.toNat ∈ s.toList.map Char.toNat := by
      rw [heq]
      exact List.mem_append_right _ List.mem_cons_self
    obtain ⟨c, -, hc⟩ := List.mem_map.1 hmem
    exact half.toNat_ne c hc.symm
  induction t generalizing u with
  | whole s =>
    cases u with
    | whole s' =>
      have hchars := List.map_inj_right (fun _ _ => Char.toNat_inj.1) |>.1 h
      rw [String.toList_inj.1 hchars]
    | broken front half rest => exact absurd h (hmissing s half _ _)
  | broken front half rest ih =>
    cases u with
    | whole s => exact absurd h.symm (hmissing s half _ _)
    | broken front' half' rest' =>
      obtain ⟨hfront, rfl, hrest⟩ := eq_of_map_append h
      rw [String.toList_inj.1 hfront, ih hrest]

/-- Texts are ordered by their code points. -/
instance : LT RawText := ⟨fun t u => t.points < u.points⟩

instance (t u : RawText) : Decidable (t < u) := inferInstanceAs (Decidable (t.points < u.points))

theorem lt_irrefl (t : RawText) : ¬ t < t := List.lt_irrefl t.points

theorem lt_trans {t u v : RawText} (h : t < u) (h' : u < v) : t < v := List.lt_trans h h'

theorem lt_of_not_lt {t u : RawText} (hne : t ≠ u) (h : ¬ u < t) : t < u := by
  refine Decidable.by_contra fun hge => hne (points_inj.1 ?_)
  exact List.le_antisymm (List.not_lt.1 h) (List.not_lt.1 hge)

/-! ### Halves at the beginning -/

/-- How many halves a text begins with. -/
def leadingHalves : RawText → Nat
  | .whole _ => 0
  | .broken front _ rest => if front.isEmpty then leadingHalves rest + 1 else 0

end RawText

end StationWatch
