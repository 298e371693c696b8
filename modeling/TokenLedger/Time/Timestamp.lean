import TokenLedger.Text.Blank
import TokenLedger.Time.Calendar
import TokenLedger.Time.Instant
/-!
Instants as text: date, `T`, time of day and zone.

Writing gives four-digit years, or a sign and at least four digits outside 0 to 9999; an instant
inside a leap second is written with the number of the next second, which is 60 at the end of a
minute; the fraction of a second has 0, 3, 6 or 9 digits, as few as hold it. The zone is a parameter:
`Z` on the wire, `+00:00` in messages.

Reading is generous. Numbers may have fewer digits than they are written with, blanks may stand
before each number, each separator and the zone, and at the end; the date and the time may be
separated by `T`, `t` or a space; the zone may be `Z`, `z`, `UTC` in any case, or an offset with
hours and minutes; of the fraction nine digits count. A second 60 is a leap second whatever the
minute.
-/

namespace TokenLedger.Timestamp

/-! ### Writing -/

/-- A number in decimal, filled with zeros on the left up to a width. -/
def padded (width number : Nat) : String :=
  let digits := toString number
  "".pushn '0' (width - digits.length) ++ digits

/-- A year: four digits, or a sign and at least four digits outside 0 to 9999. -/
def yearText (year : Int) : String :=
  if 0 ≤ year ∧ year ≤ 9999 then padded 4 year.toNat
  else (if year < 0 then "-" else "+") ++ padded 4 year.natAbs

/-- The fraction of a second with its point, in 0, 3, 6 or 9 digits. -/
def fractionText (nanos : Nat) : String :=
  if nanos = 0 then ""
  else if nanos % 1000000 = 0 then "." ++ padded 3 (nanos / 1000000)
  else if nanos % 1000 = 0 then "." ++ padded 6 (nanos / 1000)
  else "." ++ padded 9 nanos

/-- An instant as text, with the given text for its zone. -/
def render (zone : String) (instant : Instant) : String :=
  let date := Date.ofDayNumber (instant.second / 86400)
  let secondOfDay := (instant.second % 86400).toNat
  let leap := if instant.nano < nanosPerSecond then 0 else 1
  yearText date.year ++ "-" ++ padded 2 date.month ++ "-" ++ padded 2 date.day ++ "T"
    ++ padded 2 (secondOfDay / 3600) ++ ":" ++ padded 2 (secondOfDay / 60 % 60) ++ ":"
    ++ padded 2 (secondOfDay % 60 + leap) ++ fractionText (instant.nano - leap * nanosPerSecond)
    ++ zone

/-! ### Reading -/

/-- The value of a list of decimal digits. -/
def numberOf (digits : List Char) : Nat :=
  digits.foldl (fun number digit => number * 10 + (digit.toNat - '0'.toNat)) 0

/-- A number of one to `most` decimal digits, and what follows it. -/
def number? (most : Nat) (chars : List Char) : Option (Nat × List Char) :=
  let digits := (chars.take most).takeWhile Char.isDigit
  if digits.isEmpty then none else some (numberOf digits, chars.drop digits.length)

/-- A number of any count of decimal digits, and what follows it. -/
def longNumber? (chars : List Char) : Option (Nat × List Char) :=
  number? chars.length chars

/-- The year: after a sign any count of digits, without one at most four. -/
def year? (chars : List Char) : Option (Int × List Char) :=
  match Text.skipBlanks chars with
  | '-' :: rest => (longNumber? rest).map fun (year, left) => (-(year : Int), left)
  | '+' :: rest => (longNumber? rest).map fun (year, left) => ((year : Int), left)
  | plain => (number? 4 plain).map fun (year, left) => ((year : Int), left)

/-- A number of one or two digits after blanks. -/
def two? (chars : List Char) : Option (Nat × List Char) :=
  number? 2 (Text.skipBlanks chars)

/-- What follows a separator that may stand after blanks. -/
def separator? (separator : Char) (chars : List Char) : Option (List Char) :=
  match Text.skipBlanks chars with
  | head :: rest => if head = separator then some rest else none
  | [] => none

/-- The nanoseconds of a fraction, if one follows; digits beyond the ninth do not count. -/
def fraction? (chars : List Char) : Option (Nat × List Char) :=
  match chars with
  | '.' :: rest =>
    let digits := rest.takeWhile Char.isDigit
    if digits.isEmpty then none
    else
      let counted := digits.take 9
      some (numberOf counted * Nat.pow 10 (9 - counted.length), rest.drop digits.length)
  | other => some (0, other)

/-- The seconds by which a zone is ahead of UTC, and what follows the zone. -/
def zone? (chars : List Char) : Option (Int × List Char) :=
  match chars with
  | 'Z' :: rest | 'z' :: rest => some (0, rest)
  | first :: second :: third :: rest =>
    if [first.toUpper, second.toUpper, third.toUpper] = ['U', 'T', 'C'] then some (0, rest)
    else if first = '+' ∨ first = '-' ∨ first = '\u2212' then
      if second.isDigit && third.isDigit then
        let rest := rest.dropWhile fun char => char = ':' || Text.isBlank char
        match rest with
        | tens :: ones :: left =>
          if tens.isDigit && ones.isDigit && tens.toNat < '6'.toNat then
            let seconds : Int := numberOf [second, third] * 3600 + numberOf [tens, ones] * 60
            some (if first = '+' then seconds else -seconds, left)
          else none
        | _ => none
      else none
    else none
  | _ => none

/-- The date, and what follows it. -/
def date? (chars : List Char) : Option (Date × List Char) := do
  let (year, rest) ← year? chars
  let rest ← separator? '-' rest
  let (month, rest) ← two? rest
  let rest ← separator? '-' rest
  let (day, rest) ← two? rest
  let date ← Date.ofParts? year month day
  return (date, rest)

/-- What follows the mark between the date and the time of day. -/
def timeMark? : List Char → Option (List Char)
  | 'T' :: rest | 't' :: rest | ' ' :: rest => some rest
  | _ => none

/-- The seconds since midnight and the nanoseconds, and what follows them; second 60 is the leap
second after second 59. -/
def timeOfDay? (chars : List Char) : Option (Nat × Nat × List Char) := do
  let (hour, rest) ← two? chars
  let rest ← separator? ':' rest
  let (minute, rest) ← two? rest
  let rest ← separator? ':' rest
  let (second, rest) ← two? rest
  let (nanos, rest) ← fraction? rest
  guard (hour < 24 ∧ minute < 60 ∧ second ≤ 60)
  if second = 60 then
    return (hour * 3600 + minute * 60 + 59, nanos + nanosPerSecond, rest)
  else
    return (hour * 3600 + minute * 60 + second, nanos, rest)

/-- The first year that a date on the wire can have. -/
def firstYear : Int := -262143

/-- The last year that a date on the wire can have. -/
def lastYear : Int := 262142

/-- The instant that a text stands for. -/
def parse (text : String) : Option Instant := do
  let (date, rest) ← date? text.toList
  let rest ← timeMark? rest
  let (secondOfDay, nanos, rest) ← timeOfDay? rest
  let (ahead, rest) ← zone? (Text.skipBlanks rest)
  guard (Text.skipBlanks rest = [])
  guard (firstYear ≤ date.year ∧ date.year ≤ lastYear)
  guard (-86400 < ahead ∧ ahead < 86400)
  Instant.within? (date.dayNumber * 86400 + secondOfDay - ahead) nanos

end TokenLedger.Timestamp
