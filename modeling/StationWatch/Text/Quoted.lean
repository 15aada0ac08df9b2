import StationWatch.Text.Printable
import StationWatch.Text.Raw

/-!
# Quoted text in messages

A message that mentions a text given from outside shows it between quotes, with everything that
would not be seen on a page written as an escape.  Single quotes are used unless the text holds a
single quote and no double quote.

## Main definitions

* `quoted` — a text between quotes, escaped.
* `escapeChar`, `escapeHalf` — one character or half inside given quotes.
* `mention` — a text between quotes, as part of a message.
-/

namespace StationWatch.Text

/-- The digit of a value below sixteen, in small letters. -/
def hexDigit (n : Nat) : Char := if n < 10 then Char.ofNat (48 + n) else Char.ofNat (87 + n)

/-- The lowest `width` hexadecimal digits of a number. -/
def hexDigits : (width : Nat) → Nat → List Char
  | 0, _ => []
  | width + 1, n => hexDigits width (n / 16) ++ [hexDigit (n % 16)]

/-- One character of a quoted text: the backslash and the quote itself are marked, line breaks and
tabs have names, and what cannot be seen is written by its code point. -/
def escapeChar (quote c : Char) : List Char :=
  if c = quote || c = '\\' then ['\\', c]
  else if c = '\n' then ['\\', 'n']
  else if c = '\r' then ['\\', 'r']
  else if c = '\t' then ['\\', 't']
  else if isPrintable c then [c]
  else if c.toNat < 0x100 then '\\' :: 'x' :: hexDigits 2 c.toNat
  else if c.toNat < 0x10000 then '\\' :: 'u' :: hexDigits 4 c.toNat
  else '\\' :: 'U' :: hexDigits 8 c.toNat

/-- A half inside quotes, by its code point. -/
def escapeHalf (half : Half) : List Char := '\\' :: 'u' :: hexDigits 4 half.toNat

/-- The quote around a text: double exactly when the text holds a single one and no double one. -/
def quoteFor (cs : List Char) : Char :=
  if cs.contains '\x27' && !cs.contains '"' then '"' else '\x27'

/-- A text between quotes, with escapes for all that would not be seen. -/
def quoted (t : RawText) : List Char :=
  let quote := quoteFor t.chars
  quote :: t.spell (escapeChar quote) escapeHalf ++ [quote]

/-- A text between quotes, as messages mention it. -/
def mention (t : RawText) : String := String.ofList (quoted t)

end StationWatch.Text
