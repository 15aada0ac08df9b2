import StationWatch.Text.Utf8

/-!
# Credentials

A user name and a password are sent with every request as one token: both with a colon between them,
as bytes, in an alphabet of 64 characters.  Without bytes there is no token.

## Main definitions

* `Base64.encode` — bytes as characters of the alphabet, three bytes to four characters.
* `Base64.decode` — the bytes behind such characters.
* `basicAuth` — the header for a user name and a password.

## References

`SPEC_FULL.md`, section 6.
-/

namespace StationWatch

namespace Base64

/-- The character of a value below 64. -/
def charOf (n : Nat) : Char :=
  if n < 26 then Char.ofNat (65 + n)
  else if n < 52 then Char.ofNat (71 + n)
  else if n < 62 then Char.ofNat (n - 4)
  else if n = 62 then '+'
  else '/'

/-- The value of a character of the alphabet. -/
def valueOf? (c : Char) : Option Nat :=
  let n := c.toNat
  if 65 ≤ n ∧ n ≤ 90 then some (n - 65)
  else if 97 ≤ n ∧ n ≤ 122 then some (n - 71)
  else if 48 ≤ n ∧ n ≤ 57 then some (n + 4)
  else if c = '+' then some 62
  else if c = '/' then some 63
  else none

theorem valueOf?_charOf {n : Nat} (h : n < 64) : valueOf? (charOf n) = some n := by
  have hall : ∀ m ∈ List.range 64, valueOf? (charOf m) = some m := by decide
  exact hall n (List.mem_range.2 h)

/-- The character that fills up the last group. -/
def filler : Char := '='

/-- Bytes as characters of the alphabet, the last group filled up to four characters. -/
def encode : List UInt8 → List Char
  | [] => []
  | [a] => [charOf (a.toNat / 4), charOf (a.toNat % 4 * 16), filler, filler]
  | [a, b] =>
    [charOf (a.toNat / 4), charOf (a.toNat % 4 * 16 + b.toNat / 16),
     charOf (b.toNat % 16 * 4), filler]
  | a :: b :: c :: rest =>
    charOf (a.toNat / 4) :: charOf (a.toNat % 4 * 16 + b.toNat / 16) ::
      charOf (b.toNat % 16 * 4 + c.toNat / 64) :: charOf (c.toNat % 64) :: encode rest

/-- The bytes behind one group of characters, of which the last two may be fillers. -/
def decodeGroup (p q r s : Char) : Option (List UInt8) :=
  match valueOf? p, valueOf? q with
  | some a, some b =>
    let first := UInt8.ofNat (a * 4 + b / 16)
    if r = filler ∧ s = filler then some [first]
    else
      match valueOf? r with
      | none => none
      | some c =>
        let second := UInt8.ofNat (b % 16 * 16 + c / 4)
        if s = filler then some [first, second]
        else (valueOf? s).map fun d => [first, second, UInt8.ofNat (c % 4 * 64 + d)]
  | _, _ => none

/-- The bytes behind characters in groups of four; only the last group may have fillers. -/
def decode : List Char → Option (List UInt8)
  | [] => some []
  | p :: q :: r :: s :: rest =>
    if s = filler ∧ rest ≠ [] then none
    else
      match decodeGroup p q r s, decode rest with
      | some bytes, some more => some (bytes ++ more)
      | _, _ => none
  | _ => none

end Base64

/-- What stands before the token. -/
def authScheme : String := "Basic "

/-- The token of a text. -/
def authToken (text : String) : String := String.ofList (Base64.encode (Text.toBytes text.toList))

/-- The header for a user name and a password, if both have bytes. -/
def basicAuth (username password : RawText) : Except EncodingFault String :=
  (username ++ ":" ++ password).characters.map fun text => authScheme ++ authToken text

end StationWatch
