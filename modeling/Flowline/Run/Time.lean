import Flowline.Data.Decode
import Flowline.Data.Text
set_option autoImplicit false

/-!
# Instants

Executions stamp instances, step records, events and pause tickets with
instants. An instant is a count of nanoseconds since 1970-01-01T00:00:00Z,
negative before it, and may lie in a leap second: the sixty-first second of
a minute, written `:60`, which follows the whole second ending in `:59` that
the count falls in. Instants are written in two ways:

* `Timestamp.rfc3339` is the stored form, `2024-05-01T12:00:00.5Z`, with
  the fraction of a second in groups of three digits and only when it is not
  zero, and a sign on years outside `0000`–`9999`;
* `Timestamp.clockText` is the form shown to people, `2024-05-01 12:00:00`.

`Timestamp.parse` reads a date and time back, with the leniency of the
stored form's reader:

* blanks may stand before every number and after the seconds;
* the year has up to four digits, or any number after an explicit sign;
  month, day, hour, minute and second have one or two digits;
* date and time are separated by `T`, `t` or a blank;
* a fraction of a second has one or more digits (past nine are ignored);
* the offset is `Z`, `z`, `UTC` in any case, or `±HH:MM` where the colon
  may be left out or be blanks;
* a second of `60` is a leap second, kept as such.

A refusal names the first problem: a character out of place, a text that
ends too early or goes on too long, or a field out of range (including dates
such as February 30).

Dates are converted with the days-from-civil algorithm on the proleptic
Gregorian calendar, working in eras of 400 years (146097 days).
-/

namespace Flowline

/-- An instant, in nanoseconds since 1970-01-01T00:00:00Z. In a leap second
(`leap`), the count is that of the second before it (one ending in `:59`)
plus the part of the leap second passed. -/
structure Timestamp where
  nanos : Int
  leap : Bool
  deriving Inhabited, BEq, Repr

namespace Timestamp

/-- Nanoseconds in a second. -/
def perSecond : Nat := 1000000000

/-- Seconds in a day. -/
def secondsPerDay : Nat := 86400

/-- The year, month and day of a day count since 1970-01-01. -/
def civil (days : Int) : Int × Nat × Nat :=
  let z := days + 719468
  let era := Int.ediv z 146097
  let doe := (z - era * 146097).toNat
  let yoe := (doe - doe / 1460 + doe / 36524 - doe / 146096) / 365
  let doy := doe - (365 * yoe + yoe / 4 - yoe / 100)
  let mp := (5 * doy + 2) / 153
  let day := doy - (153 * mp + 2) / 5 + 1
  let month := if mp < 10 then mp + 3 else mp - 9
  let year : Int := (yoe : Int) + era * 400 + (if month ≤ 2 then 1 else 0)
  (year, month, day)

/-- The day count since 1970-01-01 of a date, negative before it. -/
def daysFrom (year : Int) (month day : Nat) : Int :=
  let y : Int := if month ≤ 2 then year - 1 else year
  let era := Int.ediv y 400
  let yoe := y - era * 400
  let mp : Int := if month > 2 then (month : Int) - 3 else (month : Int) + 9
  let doy := Int.ediv (153 * mp + 2) 5 + (day : Int) - 1
  let doe := yoe * 365 + Int.ediv yoe 4 - Int.ediv yoe 100 + doy
  era * 146097 + doe - 719468

/-- Whether a year is a leap year. -/
def isLeap (year : Int) : Bool :=
  (Int.emod year 4 == 0 && Int.emod year 100 != 0) || Int.emod year 400 == 0

/-- The number of days in a month of a year. -/
def monthLength (year : Int) (month : Nat) : Nat :=
  if month = 2 then (if isLeap year then 29 else 28)
  else if month = 4 || month = 6 || month = 9 || month = 11 then 30
  else 31

/-- A number written with at least `width` digits. -/
def pad (width n : Nat) : String :=
  let digits := toString n
  String.ofList (List.replicate (width - digits.length) '0') ++ digits

/-- A year: four digits from `0000` to `9999`, otherwise signed. -/
def yearText (year : Int) : String :=
  if 0 ≤ year ∧ year ≤ 9999 then pad 4 year.toNat
  else if year < 0 then "-" ++ pad 4 year.natAbs
  else "+" ++ pad 4 year.toNat

/-- An instant outside any leap second. -/
def ofNanos (nanos : Int) : Timestamp := ⟨nanos, false⟩

/-- The whole seconds of an instant and the nanoseconds past them. -/
def split (t : Timestamp) : Int × Nat :=
  (Int.ediv t.nanos perSecond, (Int.emod t.nanos perSecond).toNat)

/-- A number that orders instants as time runs: a leap second comes after
the second it follows and before the next one. -/
def sortKey (t : Timestamp) : Int :=
  let (seconds, nanos) := t.split
  seconds * (2 * perSecond) + (if t.leap then perSecond else 0) + nanos

/-- The date and time of day, to the second. -/
def dateTime (t : Timestamp) (separator : String) : String :=
  let (seconds, _) := t.split
  let (year, month, day) := civil (Int.ediv seconds secondsPerDay)
  let inDay := (Int.emod seconds secondsPerDay).toNat
  let second := inDay % 60 + (if t.leap then 1 else 0)
  s!"{yearText year}-{pad 2 month}-{pad 2 day}{separator}" ++
    s!"{pad 2 (inDay / 3600)}:{pad 2 (inDay / 60 % 60)}:{pad 2 second}"

/-- The fraction of a second, in groups of three digits, empty when zero. -/
def fraction (t : Timestamp) : String :=
  let n := t.split.2
  if n == 0 then ""
  else if n % 1000000 == 0 then "." ++ pad 3 (n / 1000000)
  else if n % 1000 == 0 then "." ++ pad 6 (n / 1000)
  else "." ++ pad 9 n

/-- The stored form, in UTC. -/
def rfc3339 (t : Timestamp) : String := t.dateTime "T" ++ t.fraction ++ "Z"

/-- The form shown to people: date and time to the second. -/
def clockText (t : Timestamp) : String := t.dateTime " "

/-- Why a date and time text was refused. -/
inductive ParseFault where
  | outOfRange
  | invalid
  | tooShort
  | tooLong
  deriving DecidableEq, Repr

/-- The wording of a refusal. -/
def ParseFault.text : ParseFault → String
  | .outOfRange => "input is out of range"
  | .invalid => "input contains invalid characters"
  | .tooShort => "premature end of input"
  | .tooLong => "trailing input"

/-- Drops leading white space. -/
def skipSpace (cs : List Char) : List Char := cs.dropWhile Text.isSpace

/-- Reads between `least` and `most` decimal digits as a number; a number
that does not fit 63 bits is out of range. -/
def number (least most : Nat) (cs : List Char) : Except ParseFault (Int × List Char) :=
  if cs.isEmpty then .error .tooShort
  else
    let ds := (cs.takeWhile Char.isDigit).take most
    if ds.length < least then .error .invalid
    else
      let n := ds.foldl (fun acc c => 10 * acc + (c.toNat - 48)) 0
      if n ≥ Nat.pow 2 63 then .error .outOfRange else .ok (n, cs.drop ds.length)

/-- Reads one expected character. -/
def literal (c : Char) (cs : List Char) : Except ParseFault (List Char) :=
  match cs with
  | [] => .error .tooShort
  | d :: rest => if d = c then .ok rest else .error .invalid

/-- Reads a number between blanks and checks it lies between `lo` and `hi`. -/
def field (most : Nat) (lo hi : Int) (cs : List Char) : Except ParseFault (Int × List Char) := do
  let (n, rest) ← number 1 most (skipSpace cs)
  if n < lo || n > hi then throw .outOfRange
  pure (n, rest)

/-- Reads a year: up to four digits, or any number of them after a sign. -/
def year (cs : List Char) : Except ParseFault (Int × List Char) := do
  let (y, rest) ← match skipSpace cs with
    | '-' :: more => do
      let (n, r) ← number 1 (cs.length + 1) more
      pure (-n, r)
    | '+' :: more => number 1 (cs.length + 1) more
    | more => number 1 4 more
  if y < -(Nat.pow 2 31 : Int) || y ≥ (Nat.pow 2 31 : Int) then throw .outOfRange
  pure (y, rest)

/-- Reads a fraction of a second after its point, as nanoseconds: one to
nine digits, any further digits skipped. -/
def fractionOf (cs : List Char) : Except ParseFault (Nat × List Char) := do
  let (n, rest) ← number 1 9 cs
  let used := cs.length - rest.length
  let scaled := n.toNat * Nat.pow 10 (9 - used)
  pure (scaled, rest.dropWhile Char.isDigit)

/-- Whether a text has at least two bytes of UTF-8: two characters, or one
beyond ASCII. -/
def twoBytes : List Char → Bool
  | _ :: _ :: _ => true
  | [c] => c.toNat ≥ 128
  | [] => false

/-- The value of two ASCII digits. -/
def twoDigits (a b : Char) : Nat := (a.toNat - 48) * 10 + (b.toNat - 48)

/-- Reads an offset: `Z`, or a sign, two digits of hours, an optional colon
or blanks, and two digits of minutes; gives seconds east of UTC. -/
def offset (cs : List Char) : Except ParseFault (Int × List Char) :=
  match cs with
  | 'Z' :: rest => .ok (0, rest)
  | 'z' :: rest => .ok (0, rest)
  | [] => .error .tooShort
  | sign :: rest =>
    let negative := sign = '-' || sign.toNat = 0x2212
    if !(sign = '+' || negative) then .error .invalid
    else if !twoBytes rest then .error .tooShort
    else match rest with
      | h1 :: h2 :: afterHours =>
        if !(h1.isDigit && h2.isDigit) then .error .invalid
        else
          let afterColon := afterHours.dropWhile fun c => c = ':' || Text.isSpace c
          if !twoBytes afterColon then .error .tooShort
          else match afterColon with
            | m1 :: m2 :: afterMinutes =>
              if m1.isDigit && m2.isDigit then
                if m1.toNat ≥ 54 then .error .outOfRange
                else
                  let seconds : Int := (twoDigits h1 h2 * 3600 + twoDigits m1 m2 * 60 : Nat)
                  .ok (if negative then -seconds else seconds, afterMinutes)
              else .error .invalid
            | _ => .error .invalid
      | _ => .error .invalid

/-- The first and last day a date may fall on, as day counts. -/
def dayBounds : Int × Int := (daysFrom (-262144) 1 1, daysFrom 262143 12 31)

/-- Reads a date and time. -/
def parse (text : String) : Except ParseFault Timestamp := do
  let cs := text.toList
  let (y, cs) ← year cs
  let cs ← literal '-' (skipSpace cs)
  let (month, cs) ← field 2 1 12 cs
  let cs ← literal '-' (skipSpace cs)
  let (day, cs) ← field 2 1 31 cs
  let cs ← match cs with
    | c :: rest => if c = 'T' || c = 't' || c = ' ' then pure rest else throw .invalid
    | [] => throw .tooShort
  let (hour, cs) ← field 2 0 23 cs
  let cs ← literal ':' (skipSpace cs)
  let (minute, cs) ← field 2 0 59 cs
  let cs ← literal ':' (skipSpace cs)
  let (second, cs) ← field 2 0 60 cs
  let (fractionNanos, cs) ← match cs with
    | '.' :: rest => fractionOf rest
    | rest => pure (0, rest)
  let cs := skipSpace cs
  let (east, cs) ← match cs with
    | u :: t :: c :: rest =>
      if u.toLower = 'u' && t.toLower = 't' && c.toLower = 'c' then pure (0, rest) else offset cs
    | _ => offset cs
  if !(skipSpace cs).isEmpty then throw .tooLong
  let month := month.toNat
  let day := day.toNat
  if day > monthLength y month || y < -262144 || y > 262143 then throw .outOfRange
  if east.natAbs ≥ secondsPerDay then throw .outOfRange
  let days := daysFrom y month day
  let leap := second == 60
  let second := if leap then 59 else second
  let seconds := days * secondsPerDay + hour * 3600 + minute * 60 + second - east
  let (first, last) := dayBounds
  let resultDay := Int.ediv seconds secondsPerDay
  if resultDay < first || resultDay > last then throw .outOfRange
  pure ⟨seconds * perSecond + fractionNanos, leap⟩

/-- Reads an instant from its stored form. -/
def decode : Decode Timestamp := fun _ t =>
  match t with
  | .str s => (parse s).mapError ParseFault.text
  | t => .error (Decode.invalidType t "an RFC 3339 formatted date and time string")

end Timestamp

end Flowline
