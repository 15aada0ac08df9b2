import StationWatch.Instant
import StationWatch.Decimal.Numeral

/-!
# Reading instants

An observation says when it was made: a calendar date, and perhaps a time of day with a fraction and
a distance from universal time.  A time without such a distance is universal.

The usual marks of such a text are a capital `T` or a space before the time, a point before the
fraction of a second, a capital `Z`, and less than sixty minutes beside the hours of an offset.
With other marks, such as small letters, a comma for the point or a fraction of a minute, a text
names an instant too, but then there is no year zero, and few fractions are told beyond the
microsecond.

## Main definitions

* `Zone`, `Clock`, `Stamp` — the parts of a text that names an instant.
* `Stamp.parse?` — the parts of a text.
* `Stamp.instant?` — the instant with given parts, if it can be told to their precision.
* `Instant.parse?` — the instant that a text names.
-/

namespace StationWatch

/-! ### Parts of a text -/

/-- What a text says of the distance from universal time. -/
inductive Zone
  /-- Universal time, perhaps with a letter for it. -/
  | universal (letter : Option Char)
  /-- Local time ahead of universal time, or behind it, by hours and perhaps minutes. -/
  | offset (behind : Bool) (hours : Nat) (minutes : Option Nat)
  deriving DecidableEq, Repr, Inhabited

/-- How many seconds the local time is ahead of universal time. -/
def Zone.seconds : Zone → Int
  | .universal _ => 0
  | .offset behind hours minutes =>
    let distance : Int := 3600 * hours + 60 * minutes.getD 0
    if behind then -distance else distance

/-- Whether the marks are the usual ones. -/
def Zone.isUsual : Zone → Bool
  | .universal letter => letter != some 'z'
  | .offset _ _ minutes => decide (minutes.getD 0 < 60)

/-- Whether an offset tells its minutes, less than sixty. -/
def Zone.isFull : Zone → Bool
  | .universal _ => true
  | .offset _ _ minutes => minutes.any fun m => m < 60

/-- A time of day. -/
structure Clock where
  /-- Whole seconds into the day. -/
  seconds : Nat := 0
  /-- The digits of the fraction of a second. -/
  fraction : List Char := []
  /-- Whether colons divide the time. -/
  hasColons : Bool := false
  /-- Whether there is neither a comma nor a fraction of a minute. -/
  isUsual : Bool := true
  deriving DecidableEq, Repr, Inhabited

/-- A local date and time, and its distance from universal time. -/
structure Stamp where
  /-- The local date, in days since the start of 1970. -/
  days : Int
  /-- Whether the time starts after the usual mark, if there is a time. -/
  hasUsualStart : Bool := true
  /-- The local time of day. -/
  clock : Clock := {}
  /-- The distance from universal time. -/
  zone : Zone := .universal none
  deriving DecidableEq, Repr, Inhabited

/-! ### Instants -/

namespace Stamp

/-- The local time in whole seconds since the start of 1970. -/
def localSeconds (s : Stamp) : Int := 86400 * s.days + s.clock.seconds

/-- The universal time in whole seconds since the start of 1970. -/
def seconds (s : Stamp) : Int := s.localSeconds - s.zone.seconds

/-- A fraction of a second in nanoseconds; digits beyond the ninth do not count. -/
def nanosOf (fraction : List Char) : Nat :=
  let ds := fraction.take 9
  Decimal.valueOf (ds ++ List.replicate (9 - ds.length) '0')

/-- A number of seconds and nanoseconds, in nanoseconds. -/
def inNanos (seconds : Int) (nanos : Nat) : Int := seconds * 1000000000 + nanos

/-- Fractions with more digits than this are told in nanoseconds. -/
def coarseDigits : Nat := 6

/-- Numbers of 64 bits are less than this, and not less than its negative. -/
def nanoBound : Nat := Nat.pow 2 63

/-- Whether the nanoseconds of the local and of the universal time are numbers of 64 bits; for the
universal time the least of these stands for no time at all. -/
def fitsNanos (s : Stamp) : Bool :=
  let nanos := nanosOf s.clock.fraction
  let here := inNanos s.localSeconds nanos
  let there := inNanos s.seconds nanos
  decide (-nanoBound ≤ here ∧ here < nanoBound) && decide (-nanoBound < there ∧ there < nanoBound)

/-- Whether the time can be told to the precision of its fraction. -/
def isTold (s : Stamp) : Bool :=
  decide (s.clock.fraction.length ≤ coarseDigits) || s.fitsNanos

/-- The instant, with as many digits of the fraction as given. -/
def instantWith (digits : Nat) (s : Stamp) : Instant :=
  ⟨s.seconds, nanosOf (s.clock.fraction.take digits)⟩

/-- Whether all marks are usual. -/
def isUsual (s : Stamp) : Bool := s.hasUsualStart && s.clock.isUsual && s.zone.isUsual

/-- Whether a time with marks that are not all usual can be told in nanoseconds: with colons, a
point, and an offset in hours and minutes if there is one. -/
def isFine (s : Stamp) : Bool := s.clock.hasColons && s.clock.isUsual && s.zone.isFull

/-- The first day of the year one. -/
def firstDay : Int := Calendar.dayNumber 1 1 1 - Calendar.epochDay

/-- The instant with these parts, if it can be told. -/
def instant? (s : Stamp) : Option Instant :=
  if s.isUsual then
    if s.isTold then some (s.instantWith 9) else none
  else if firstDay ≤ s.days then
    some (s.instantWith (if s.isFine && s.isTold then 9 else coarseDigits))
  else none

/-! ### Reading -/

/-- A number of exactly `width` digits at the start of a text. -/
def number? (width : Nat) (cs : List Char) : Option (Nat × List Char) :=
  let ds := cs.take width
  if ds.length = width ∧ ds.all Decimal.isDigit = true then
    some (Decimal.valueOf ds, cs.drop width)
  else none

/-- A number of two digits below a limit. -/
def below? (limit : Nat) (cs : List Char) : Option (Nat × List Char) :=
  (number? 2 cs).filter fun r => r.1 < limit

/-- A given character at the start of a text. -/
def after? (c : Char) : List Char → Option (List Char)
  | d :: cs => if d = c then some cs else none
  | [] => none

/-- A calendar date, with dashes between its parts or without any, in days since 1970. -/
def date? (cs : List Char) : Option (Int × List Char) := do
  let (year, cs) ← number? 4 cs
  let extended := cs.head? == some '-'
  let cs ← if extended then after? '-' cs else some cs
  let (month, cs) ← number? 2 cs
  let cs ← if extended then after? '-' cs else some cs
  let (day, cs) ← number? 2 cs
  if 1 ≤ month ∧ month ≤ 12 ∧ 1 ≤ day ∧ day ≤ Calendar.daysInMonth year month then
    some (Calendar.dayNumber year month day - Calendar.epochDay, cs)
  else none

/-- Where the next part of a time of day starts, if there is one: after a colon, or at once if there
are no colons. -/
def nextPart? (colons : Bool) (cs : List Char) : Option (List Char) :=
  if colons then after? ':' cs
  else if cs.head?.any Decimal.isDigit then some cs
  else none

/-- The digits of a fraction, if a point or a comma is there for it, and the rest. -/
def decimals? : List Char → Option (List Char × List Char)
  | c :: cs =>
    if c = '.' ∨ c = ',' then some (cs.takeWhile Decimal.isDigit, cs.dropWhile Decimal.isDigit)
    else none
  | [] => none

/-- A time of day, with colons between its parts or without any.  With colons the minute may have a
fraction, which counts in whole seconds. -/
def clock? (cs : List Char) : Option (Clock × List Char) := do
  let (hour, cs) ← below? 24 cs
  let hasColons := cs.head? == some ':'
  match nextPart? hasColons cs with
  | none => some ({ seconds := 3600 * hour }, cs)
  | some cs =>
    let (minute, cs) ← below? 60 cs
    let seconds := 3600 * hour + 60 * minute
    match nextPart? hasColons cs, if hasColons then decimals? cs else none with
    | none, none => some ({ seconds, hasColons }, cs)
    | none, some (digits, cs) =>
      let part := 60 * Decimal.valueOf digits / Nat.pow 10 digits.length
      some ({ seconds := seconds + part, hasColons, isUsual := false }, cs)
    | some cs, _ =>
      let (second, cs) ← below? 60 cs
      let seconds := seconds + second
      match decimals? cs with
      | none => some ({ seconds, hasColons }, cs)
      | some (fraction, rest) =>
        some ({ seconds, fraction, hasColons, isUsual := cs.head? == some '.' }, rest)

/-- The distance from universal time, which must be all that is left and less than a day. -/
def zone? : List Char → Option Zone
  | [] => some (.universal none)
  | [letter] => if letter = 'Z' ∨ letter = 'z' then some (.universal letter) else none
  | sign :: cs => do
    guard (sign = '+' ∨ sign = '-')
    let (hours, cs) ← number? 2 cs
    let (minutes, cs) ←
      match cs with
      | [] => some (none, [])
      | ':' :: cs => (number? 2 cs).map fun r => (some r.1, r.2)
      | cs => (number? 2 cs).map fun r => (some r.1, r.2)
    guard (3600 * hours + 60 * minutes.getD 0 < 86400 ∧ cs.isEmpty)
    some (.offset (sign == '-') hours minutes)

/-- The parts of a text: a date alone, or with a time after a `T` or a space. -/
def parse? (cs : List Char) : Option Stamp := do
  let (days, cs) ← date? cs
  match cs with
  | [] => some { days }
  | c :: cs =>
    guard (c = 'T' ∨ c = 't' ∨ c = ' ')
    let (clock, cs) ← clock? cs
    let zone ← zone? cs
    some { days, hasUsualStart := c != 't', clock, zone }

end Stamp

/-- The instant that a text names. -/
def Instant.parse? (cs : List Char) : Option Instant := (Stamp.parse? cs).bind Stamp.instant?

end StationWatch
