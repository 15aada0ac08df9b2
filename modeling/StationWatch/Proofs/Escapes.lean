import StationWatch.Query.Path

/-!
# Escaped texts and the options of a path are read back

A text is escaped character by character, and a path puts escaped names and expressions together
with an equals sign between the two and an ampersand between options.  Neither sign, and no question
mark, survives escaping, so that a path can be cut at them again; and every byte that was escaped is
read back from its two digits.  A text with a half in it cannot be escaped, and neither can options
that hold one.

## Main definitions

* `Percent.Reserved` — a character that escaping removes, wherever it stood.
* `wholeOption`, `pieceOf` — an option without halves, and as it stands in a path.

## Main results

* `Percent.decode_encode` — an escaped text is read back.
* `Percent.reserved_not_mem` — no reserved character is left in an escaped text.
* `Text.fields_joinWith` — pieces without the separator are cut apart again.
* `path_of_whole`, `path_of_half` — options without halves give a path, and others give none.
* `options?_pathWith` — the options of a path are read back, in their order.
-/

namespace StationWatch.Query.Percent

/-! ### Bytes -/

theorem decodeBytes_cons_of_ne {c : Char} (h : c ≠ '%') (cs : List Char) :
    decodeBytes (c :: cs) = (decodeBytes cs).map (String.utf8EncodeChar c ++ ·) := by
  rw [decodeBytes, if_neg h]
  rintro a b ds rfl
  exact absurd rfl h

theorem decodeBytes_escapeByte (b : UInt8) (cs : List Char) :
    decodeBytes (escapeByte b ++ cs) = (decodeBytes cs).map (b :: ·) := by
  have hb : b.toNat < 256 := b.toNat_lt
  have hhigh : hexValue? (hexDigit (b.toNat / 16)) = some (b.toNat / 16) :=
    hexValue?_hexDigit (by omega)
  have hlow : hexValue? (hexDigit (b.toNat % 16)) = some (b.toNat % 16) :=
    hexValue?_hexDigit (by omega)
  have hbyte : UInt8.ofNat (16 * (b.toNat / 16) + b.toNat % 16) = b := by
    rw [Nat.div_add_mod, UInt8.ofNat_toNat]
  simp only [escapeByte, List.cons_append, List.nil_append, decodeBytes, hhigh, hlow, hbyte]

theorem decodeBytes_escapeBytes (bs : List UInt8) (cs : List Char) :
    decodeBytes (bs.flatMap escapeByte ++ cs) = (decodeBytes cs).map (bs ++ ·) := by
  induction bs with
  | nil => simp
  | cons b bs ih =>
    rw [List.flatMap_cons, List.append_assoc, decodeBytes_escapeByte, ih, Option.map_map]
    rfl

/-! ### Characters and texts -/

theorem isUnreserved_percent : isUnreserved '%' = false := by decide

/-- A character is read back whatever follows it, as long as the percent sign is not spared. -/
theorem decodeBytes_encodeChar {spared : List Char} (h : '%' ∉ spared) (c : Char)
    (cs : List Char) :
    decodeBytes (encodeChar spared c ++ cs) =
      (decodeBytes cs).map (String.utf8EncodeChar c ++ ·) := by
  unfold encodeChar
  split
  · rename_i hkept
    have hc : c ≠ '%' := by
      rintro rfl
      simp [isUnreserved_percent, h] at hkept
    exact decodeBytes_cons_of_ne hc cs
  · exact decodeBytes_escapeBytes _ cs

theorem decodeBytes_encode {spared : List Char} (h : '%' ∉ spared) (cs : List Char) :
    decodeBytes (encode spared cs) = some (Text.toBytes cs) := by
  induction cs with
  | nil => rfl
  | cons c cs ih =>
    rw [encode_cons, decodeBytes_encodeChar h, ih, Option.map_some, Text.toBytes_cons]

/-- An escaped text is read back. -/
theorem decode_encode {spared : List Char} (h : '%' ∉ spared) (cs : List Char) :
    decode (encode spared cs) = some cs := by
  rw [decode, decodeBytes_encode h, Option.bind_some, Text.ofBytes?_toBytes]

/-! ### What is left after escaping -/

/-- A character that escaping removes: it always needs an escape, and none contains it. -/
structure Reserved (spared : List Char) (c : Char) : Prop where
  /-- It is no letter, no digit and none of the marks that never need an escape. -/
  escaped : isUnreserved c = false
  /-- It is not spared. -/
  not_spared : c ∉ spared
  /-- It does not start an escape. -/
  ne_percent : c ≠ '%'

theorem isUnreserved_hexDigit {n : Nat} (h : n < 16) : isUnreserved (hexDigit n) = true := by
  have hall : ∀ m ∈ List.range 16, isUnreserved (hexDigit m) = true := by decide
  exact hall n (List.mem_range.2 h)

theorem Reserved.not_mem_escapeByte {spared : List Char} {c : Char} (hc : Reserved spared c)
    (b : UInt8) : c ∉ escapeByte b := by
  have hb : b.toNat < 256 := b.toNat_lt
  have hdigit (n : Nat) (hn : n < 16) : c ≠ hexDigit n := by
    intro heq
    have hescaped := hc.escaped
    rw [heq, isUnreserved_hexDigit hn] at hescaped
    cases hescaped
  simp only [escapeByte, List.mem_cons, List.not_mem_nil, or_false, not_or]
  exact ⟨hc.ne_percent, hdigit _ (by omega), hdigit _ (by omega)⟩

/-- No reserved character is left in an escaped text. -/
theorem reserved_not_mem {spared : List Char} {c : Char} (hc : Reserved spared c)
    (cs : List Char) : c ∉ encode spared cs := by
  intro hmem
  obtain ⟨d, -, hd⟩ := List.mem_flatMap.1 hmem
  unfold encodeChar at hd
  split at hd
  · rename_i hkept
    obtain rfl := List.mem_singleton.1 hd
    simp [hc.escaped, hc.not_spared] at hkept
  · obtain ⟨b, -, hb⟩ := List.mem_flatMap.1 hd
    exact hc.not_mem_escapeByte b hb

end StationWatch.Query.Percent

namespace StationWatch.Text

variable {sep : Char} {piece : List Char}

theorem fields_of_not_mem (h : sep ∉ piece) : fields sep piece = [piece] := by
  induction piece with
  | nil => rfl
  | cons c cs ih =>
    obtain ⟨hc, hcs⟩ := not_or.1 (mt List.mem_cons.2 h)
    rw [fields, if_neg (Ne.symm hc), ih hcs]

theorem fields_append (h : sep ∉ piece) (rest : List Char) :
    fields sep (piece ++ sep :: rest) = piece :: fields sep rest := by
  induction piece with
  | nil => simp [fields]
  | cons c cs ih =>
    obtain ⟨hc, hcs⟩ := not_or.1 (mt List.mem_cons.2 h)
    rw [List.cons_append, fields, if_neg (Ne.symm hc), ih hcs]

/-- Pieces without the separator are cut apart again. -/
theorem fields_joinWith {pieces : List (List Char)} (hne : pieces ≠ [])
    (h : ∀ piece ∈ pieces, sep ∉ piece) : fields sep (joinWith sep pieces) = pieces := by
  induction pieces with
  | nil => exact absurd rfl hne
  | cons piece pieces ih =>
    have hfirst : sep ∉ piece := h piece List.mem_cons_self
    cases pieces with
    | nil => exact fields_of_not_mem hfirst
    | cons next pieces =>
      have hothers : ∀ p ∈ next :: pieces, sep ∉ p := fun p hp => h p (List.mem_cons_of_mem _ hp)
      rw [joinWith, fields_append hfirst, ih (List.cons_ne_nil _ _) hothers]

theorem toList_append_sep (s s' : String) (sep : Char) :
    (s ++ sep.toString ++ s').toList = s.toList ++ sep :: s'.toList := by
  simp

theorem bne_of_not_mem (h : sep ∉ piece) : ∀ c ∈ piece, (c != sep) = true := by
  intro c hc
  exact bne_iff_ne.2 fun heq => h (heq ▸ hc)

theorem takeWhile_ne_append (h : sep ∉ piece) (rest : List Char) :
    (piece ++ sep :: rest).takeWhile (· != sep) = piece := by
  rw [List.takeWhile_append_of_pos (bne_of_not_mem h)]
  simp

theorem dropWhile_ne_append (h : sep ∉ piece) (rest : List Char) :
    (piece ++ sep :: rest).dropWhile (· != sep) = sep :: rest := by
  rw [List.dropWhile_append_of_pos (bne_of_not_mem h)]
  simp

theorem dropWhile_ne_of_not_mem (h : sep ∉ piece) : piece.dropWhile (· != sep) = [] := by
  have hdropped : (piece ++ []).dropWhile (· != sep) = [] :=
    List.dropWhile_append_of_pos (bne_of_not_mem h)
  rwa [List.append_nil] at hdropped

end StationWatch.Text

namespace StationWatch.RawText

variable {sep : Char} {t : RawText}

/-- A text without the separator is not cut. -/
theorem cutAt_of_not_mem (h : sep ∉ t.chars) : cutAt sep t = none := by
  induction t with
  | whole s =>
    rw [chars_whole] at h
    simp only [cutAt, Text.dropWhile_ne_of_not_mem h]
  | broken front half rest ih =>
    rw [chars_broken, List.mem_append, not_or] at h
    simp only [cutAt, Text.dropWhile_ne_of_not_mem h.1, ih h.2, Option.map_none]

/-- A text is cut at the first separator, whatever follows it. -/
theorem cutAt_append (h : sep ∉ t.chars) (after : RawText) :
    cutAt sep (t ++ sep.toString ++ after) = some (t, after) := by
  induction t with
  | whole s =>
    rw [chars_whole] at h
    rw [whole_append_whole]
    cases after with
    | whole s' =>
      simp only [whole_append_whole, cutAt, Text.toList_append_sep, Text.dropWhile_ne_append h,
        Text.takeWhile_ne_append h, String.ofList_toList]
    | broken front half rest =>
      simp only [whole_append_broken, cutAt, Text.toList_append_sep, Text.dropWhile_ne_append h,
        Text.takeWhile_ne_append h, String.ofList_toList]
  | broken front half rest ih =>
    rw [chars_broken, List.mem_append, not_or] at h
    simp only [broken_append, cutAt, Text.dropWhile_ne_of_not_mem h.1, ih h.2, Option.map_some]

/-- What stands around a first separator is determined by the text. -/
theorem eq_of_append_sep {t' after after' : RawText} (h : sep ∉ t.chars) (h' : sep ∉ t'.chars)
    (heq : t ++ sep.toString ++ after = t' ++ sep.toString ++ after') :
    t = t' ∧ after = after' := by
  have hcut := congrArg (cutAt sep) heq
  rw [cutAt_append h, cutAt_append h', Option.some.injEq, Prod.mk.injEq] at hcut
  exact hcut

end StationWatch.RawText

namespace StationWatch.Query

/-- The signs that stand between the parts of a path are reserved in names and in expressions. -/
theorem reserved_of_delimiter {c : Char} (h : c ∈ ['?', '&', '=']) :
    Percent.Reserved [] c ∧ Percent.Reserved expressionMarks c := by
  have hsigns : Percent.isUnreserved c = false ∧ c ∉ expressionMarks ∧ c ≠ '%' := by
    simp only [List.mem_cons, List.not_mem_nil, or_false] at h
    rcases h with rfl | rfl | rfl <;> decide
  obtain ⟨hescaped, hspared, hpercent⟩ := hsigns
  exact ⟨⟨hescaped, List.not_mem_nil, hpercent⟩, ⟨hescaped, hspared, hpercent⟩⟩

/-! ### Pieces of a path -/

/-- An option of two texts without halves. -/
def wholeOption (option : String × String) : RawText × RawText := (option.1, option.2)

/-- Such an option as it stands in a path. -/
def pieceOf (option : String × String) : List Char :=
  Percent.encode [] option.1.toList ++ '=' :: Percent.encode expressionMarks option.2.toList

@[simp] theorem encodeOption_wholeOption (option : String × String) :
    encodeOption (wholeOption option) = .ok (pieceOf option) := rfl

/-- Options without halves give a path. -/
theorem path_of_whole (resource : RawText) (options : List (String × String)) :
    path resource (options.map wholeOption) = .ok (pathWith resource (options.map pieceOf)) := by
  have hpieces : (options.map wholeOption).mapM encodeOption = .ok (options.map pieceOf) := by
    induction options with
    | nil => rfl
    | cons option rest ih =>
      rw [List.map_cons, List.mapM_cons, encodeOption_wholeOption, ih]
      rfl
  rw [path, hpieces]
  rfl

/-- An option with a half in it cannot be written. -/
theorem exists_encodeOption_error {option : RawText × RawText}
    (h : option.1.characters? = none ∨ option.2.characters? = none) :
    ∃ fault, encodeOption option = .error fault := by
  obtain ⟨name, expression⟩ := option
  cases name with
  | broken front half rest => exact ⟨_, rfl⟩
  | whole s =>
    cases expression with
    | broken front half rest => exact ⟨_, rfl⟩
    | whole s' => rcases h with h | h <;> cases h

/-- So there is no path that carries one. -/
theorem path_of_half (resource : RawText) {options : List (RawText × RawText)}
    (h : ∃ option ∈ options, option.1.characters? = none ∨ option.2.characters? = none) :
    ∃ fault, path resource options = .error fault := by
  suffices hpieces : ∃ fault, options.mapM encodeOption = .error fault by
    obtain ⟨fault, hfault⟩ := hpieces
    exact ⟨fault, by rw [path, hfault]; rfl⟩
  obtain ⟨option, hmem, hhalf⟩ := h
  induction options with
  | nil => cases hmem
  | cons first rest ih =>
    rw [List.mapM_cons]
    cases hfirst : encodeOption first with
    | error fault => exact ⟨fault, rfl⟩
    | ok piece =>
      rcases List.mem_cons.1 hmem with rfl | hlater
      · obtain ⟨fault, hfault⟩ := exists_encodeOption_error hhalf
        rw [hfirst] at hfault
        cases hfault
      · obtain ⟨fault, hfault⟩ := ih hlater
        exact ⟨fault, by rw [hfault]; rfl⟩

theorem not_mem_pieceOf {c : Char} (h : c ∈ ['?', '&']) (option : String × String) :
    c ∉ pieceOf option := by
  have hdelimiter : c ∈ ['?', '&', '='] := by
    simp only [List.mem_cons, List.not_mem_nil, or_false] at h ⊢
    exact h.imp_right Or.inl
  obtain ⟨hname, hexpression⟩ := reserved_of_delimiter hdelimiter
  have hc : c ≠ '=' := by
    rintro rfl
    revert h
    decide
  simp only [pieceOf, List.mem_append, List.mem_cons, not_or]
  exact ⟨Percent.reserved_not_mem hname _, hc, Percent.reserved_not_mem hexpression _⟩

/-- An option is read back from its piece of a path. -/
theorem decodeOption_pieceOf (option : String × String) :
    decodeOption (pieceOf option) = some option := by
  have hname : '=' ∉ Percent.encode [] option.1.toList :=
    Percent.reserved_not_mem (reserved_of_delimiter (by simp)).1 _
  have hleft : Percent.decode (Percent.encode [] option.1.toList) = some option.1.toList :=
    Percent.decode_encode List.not_mem_nil _
  have hright : Percent.decode (Percent.encode expressionMarks option.2.toList) =
      some option.2.toList :=
    Percent.decode_encode (by decide) _
  simp only [decodeOption, pieceOf, Text.dropWhile_ne_append hname,
    Text.takeWhile_ne_append hname, hleft, hright, String.ofList_toList]

theorem mapM_decodeOption (options : List (String × String)) :
    (options.map pieceOf).mapM decodeOption = some options := by
  induction options with
  | nil => rfl
  | cons option options ih =>
    rw [List.map_cons, List.mapM_cons, decodeOption_pieceOf, ih]
    rfl

/-! ### Reading a path -/

/-- The path of some options, in its parts. -/
theorem pathWith_eq (resource : RawText) (options : List (String × String)) :
    pathWith resource (options.map pieceOf) =
      if options = [] then stem resource
      else stem resource ++ "?" ++ String.ofList (Text.joinWith '&' (options.map pieceOf)) := by
  cases options <;> simp [pathWith]

theorem not_mem_stem {resource : RawText} (h : '?' ∉ resource.chars) :
    '?' ∉ (stem resource).chars := by
  have hfront : ('?' : Char) ∉ ("/" ++ interfaceVersion ++ "/").toList := by decide
  unfold stem
  simp only [RawText.whole_append_whole, RawText.chars_append, RawText.chars_whole,
    List.mem_append, not_or]
  exact ⟨hfront, h⟩

/-- The options of a path are read back, in their order. -/
theorem options?_pathWith {resource : RawText} (h : '?' ∉ resource.chars)
    (options : List (String × String)) :
    options? (pathWith resource (options.map pieceOf)) = some options := by
  rw [pathWith_eq, options?]
  cases options with
  | nil => rw [if_pos rfl, RawText.cutAt_of_not_mem (not_mem_stem h)]
  | cons option options =>
    have hparts : ∀ piece ∈ (option :: options).map pieceOf, '&' ∉ piece := by
      intro piece hp
      obtain ⟨o, -, rfl⟩ := List.mem_map.1 hp
      exact not_mem_pieceOf (by simp) o
    have hcut : RawText.cutAt '?' (stem resource ++ "?" ++
        String.ofList (Text.joinWith '&' ((option :: options).map pieceOf))) = some _ :=
      RawText.cutAt_append (not_mem_stem h) _
    rw [if_neg (List.cons_ne_nil _ _)]
    simp only [hcut, String.toList_ofList]
    rw [Text.fields_joinWith (by simp) hparts, mapM_decodeOption]

end StationWatch.Query
