import StationWatch.Text.Utf8

/-!
# Percent-encoding

Inside a query every byte that is not a letter, a digit or one of a few marks is written as a
percent sign and two hexadecimal digits.  A text with a half in it has no bytes and cannot be
written so.  The decoder takes any escaped text apart again.

## Main definitions

* `encode` — characters, escaped where they are neither unreserved nor spared.
* `encodeText` — a text from outside, escaped in this way if it has bytes.
* `decode` — the characters behind an escaped text.
-/

namespace StationWatch.Query.Percent

/-- The digit of a value below sixteen, in capitals. -/
def hexDigit (n : Nat) : Char := if n < 10 then Char.ofNat (48 + n) else Char.ofNat (55 + n)

/-- The value of a hexadecimal digit. -/
def hexValue? (c : Char) : Option Nat :=
  if '0' ≤ c ∧ c ≤ '9' then some (c.toNat - 48)
  else if 'A' ≤ c ∧ c ≤ 'F' then some (c.toNat - 55)
  else if 'a' ≤ c ∧ c ≤ 'f' then some (c.toNat - 87)
  else none

theorem hexValue?_hexDigit {n : Nat} (h : n < 16) : hexValue? (hexDigit n) = some n := by
  have hall : ∀ m ∈ List.range 16, hexValue? (hexDigit m) = some m := by decide
  exact hall n (List.mem_range.2 h)

/-- Letters, digits and the marks that never need an escape. -/
def isUnreserved (c : Char) : Bool :=
  c.isAlphanum || c == '_' || c == '.' || c == '-' || c == '~'

/-- A byte as a percent sign and two digits. -/
def escapeByte (b : UInt8) : List Char :=
  ['%', hexDigit (b.toNat / 16), hexDigit (b.toNat % 16)]

/-- One character: as it is when unreserved or spared, otherwise its bytes escaped. -/
def encodeChar (spared : List Char) (c : Char) : List Char :=
  if isUnreserved c || spared.contains c then [c]
  else (String.utf8EncodeChar c).flatMap escapeByte

/-- Characters, escaped where they are neither unreserved nor among the spared ones. -/
def encode (spared : List Char) (cs : List Char) : List Char := cs.flatMap (encodeChar spared)

@[simp] theorem encode_cons (spared : List Char) (c : Char) (cs : List Char) :
    encode spared (c :: cs) = encodeChar spared c ++ encode spared cs := rfl

/-- A text from outside, escaped if it has bytes. -/
def encodeText (spared : List Char) (t : RawText) : Except EncodingFault (List Char) :=
  t.characters.map fun s => encode spared s.toList

/-- The bytes behind an escaped text; `none` if a percent sign has no two digits after it. -/
def decodeBytes : List Char → Option (List UInt8)
  | [] => some []
  | '%' :: a :: b :: cs =>
    match hexValue? a, hexValue? b with
    | some m, some n => (decodeBytes cs).map (UInt8.ofNat (16 * m + n) :: ·)
    | _, _ => none
  | c :: cs => if c = '%' then none else (decodeBytes cs).map (String.utf8EncodeChar c ++ ·)

/-- The characters behind an escaped text. -/
def decode (cs : List Char) : Option (List Char) := (decodeBytes cs).bind Text.ofBytes?

end StationWatch.Query.Percent
