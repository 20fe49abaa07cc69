import Relay.Text.Blank

/-!
# Timestamps

An instant is kept as a date of the proleptic Gregorian calendar and a time of
day, both in universal time. Its written form is that of RFC 3339. The reader
is a little more generous than the writer: it takes blanks between the parts,
parts with fewer digits, a blank in place of the letter `T`, and any offset
from universal time below a day.

## Main definitions

* `Date`, `Timestamp` — a day, and an instant in it.
* `Timestamp.text` — the written form in universal time, with as many digits of
  the second as the instant needs in groups of three.
* `Timestamp.ofText?` — the instant that a text writes down.
-/

namespace Relay

/-- Every fourth year is a leap year, save the centuries not divisible by 400. -/
def isLeapYear (year : Int) : Bool :=
  year % 4 == 0 && (year % 100 != 0 || year % 400 == 0)

/-- The number of days of a month. -/
def daysInMonth (year : Int) (month : Nat) : Nat :=
  if month = 2 then (if isLeapYear year then 29 else 28)
  else if month = 4 || month = 6 || month = 9 || month = 11 then 30
  else 31

/-- A day of the calendar. -/
structure Date where
  year : Int
  month : Nat
  day : Nat
  year_range : -262143 ≤ year ∧ year ≤ 262142
  month_range : 1 ≤ month ∧ month ≤ 12
  day_range : 1 ≤ day ∧ day ≤ daysInMonth year month
  deriving DecidableEq

namespace Date

/-- The day with these numbers, if there is one. -/
def of? (year : Int) (month day : Nat) : Option Date :=
  if hy : -262143 ≤ year ∧ year ≤ 262142 then
    if hm : 1 ≤ month ∧ month ≤ 12 then
      if hd : 1 ≤ day ∧ day ≤ daysInMonth year month then some ⟨year, month, day, hy, hm, hd⟩
      else none
    else none
  else none

/-- The following day. -/
def next? (d : Date) : Option Date :=
  if d.day < daysInMonth d.year d.month then of? d.year d.month (d.day + 1)
  else if d.month < 12 then of? d.year (d.month + 1) 1
  else of? (d.year + 1) 1 1

/-- The preceding day. -/
def previous? (d : Date) : Option Date :=
  if 1 < d.day then of? d.year d.month (d.day - 1)
  else if 1 < d.month then of? d.year (d.month - 1) (daysInMonth d.year (d.month - 1))
  else of? (d.year - 1) 12 31

@[simp] theorem of?_self (d : Date) : of? d.year d.month d.day = some d := by
  simp only [of?, dif_pos d.year_range, dif_pos d.month_range, dif_pos d.day_range]

end Date

/-- An instant in universal time. A leap second is the second 60 of its minute. -/
structure Timestamp where
  date : Date
  hour : Nat
  minute : Nat
  second : Nat
  nanosecond : Nat
  hour_lt : hour < 24
  minute_lt : minute < 60
  second_le : second ≤ 60
  nanosecond_lt : nanosecond < 1000000000
  deriving DecidableEq

namespace Timestamp

/-- The instant with these numbers, if there is one. -/
def of? (date : Date) (hour minute second nanosecond : Nat) : Option Timestamp :=
  if hh : hour < 24 then
    if hm : minute < 60 then
      if hs : second ≤ 60 then
        if hn : nanosecond < 1000000000 then
          some ⟨date, hour, minute, second, nanosecond, hh, hm, hs, hn⟩
        else none
      else none
    else none
  else none

@[simp] theorem of?_self (t : Timestamp) :
    of? t.date t.hour t.minute t.second t.nanosecond = some t := by
  simp only [of?, dif_pos t.hour_lt, dif_pos t.minute_lt, dif_pos t.second_le,
    dif_pos t.nanosecond_lt]

/-- The first instant of the year 1970. -/
def epoch : Timestamp where
  date := ⟨1970, 1, 1, by decide, by decide, by decide⟩
  hour := 0
  minute := 0
  second := 0
  nanosecond := 0
  hour_lt := by decide
  minute_lt := by decide
  second_le := by decide
  nanosecond_lt := by decide

instance : Inhabited Timestamp := ⟨epoch⟩

/-! ### Writing -/

/-- A number with leading zeros up to a width. -/
def padded (width n : Nat) : List Char :=
  let digits := Nat.toDigits 10 n
  List.replicate (width - digits.length) '0' ++ digits

/-- A year has four digits, with a sign in front unless it lies in 0 to 9999. -/
def yearText (year : Int) : List Char :=
  if 0 ≤ year && year ≤ 9999 then padded 4 year.natAbs
  else (if year < 0 then '-' else '+') :: padded 4 year.natAbs

/-- The part of a second: nothing, or three, six or nine digits after a point. -/
def fractionText (nanosecond : Nat) : List Char :=
  if nanosecond = 0 then []
  else if nanosecond % 1000000 = 0 then '.' :: padded 3 (nanosecond / 1000000)
  else if nanosecond % 1000 = 0 then '.' :: padded 6 (nanosecond / 1000)
  else '.' :: padded 9 nanosecond

/-- The written form, as characters. -/
def chars (t : Timestamp) : List Char :=
  yearText t.date.year ++ '-' :: padded 2 t.date.month ++ '-' :: padded 2 t.date.day ++
    'T' :: padded 2 t.hour ++ ':' :: padded 2 t.minute ++ ':' :: padded 2 t.second ++
    fractionText t.nanosecond ++ ['Z']

/-- The written form in universal time. -/
def text (t : Timestamp) : String := String.ofList t.chars

/-! ### Reading -/

/-- The text without the blanks it starts with. -/
def skipBlanks (cs : List Char) : List Char := cs.dropWhile Text.isBlank

/-- A number of at most `limit` digits, and the text after it. -/
def takeNumber (limit : Nat) (cs : List Char) : Option (Nat × List Char) :=
  let digits := (cs.take limit).takeWhile Char.isDigit
  if digits.isEmpty then none
  else some (Nat.ofDigitChars 10 digits 0, cs.drop digits.length)

/-- A part of a date or time: blanks, then one or two digits. -/
def takePart (cs : List Char) : Option (Nat × List Char) := takeNumber 2 (skipBlanks cs)

/-- The text after a separator that may have blanks before it. -/
def takeSeparator (c : Char) (cs : List Char) : Option (List Char) :=
  match skipBlanks cs with
  | [] => none
  | d :: rest => if d = c then some rest else none

/-- A year: without a sign at most four digits, with a sign any number of them. -/
def takeYear (cs : List Char) : Option (Int × List Char) :=
  match skipBlanks cs with
  | '-' :: rest => (takeNumber rest.length rest).map fun (n, rest) => (-(n : Int), rest)
  | '+' :: rest => (takeNumber rest.length rest).map fun (n, rest) => ((n : Int), rest)
  | cs => (takeNumber 4 cs).map fun (n, rest) => ((n : Int), rest)

/-- The part of a second in nanoseconds: nine digits count, the others are
passed over. -/
def takeFraction : List Char → Option (Nat × List Char)
  | '.' :: rest =>
    let digits := rest.takeWhile Char.isDigit
    let counted := digits.take 9
    if digits.isEmpty then none
    else
      some (Nat.ofDigitChars 10 counted 0 * Nat.pow 10 (9 - counted.length),
        rest.drop digits.length)
  | cs => some (0, cs)

/-- Two digits, and the text after them. -/
def takePair : List Char → Option (Nat × List Char)
  | c :: d :: rest =>
    if c.isDigit && d.isDigit then some (Nat.ofDigitChars 10 [c, d] 0, rest) else none
  | _ => none

/-- Hours and minutes after the sign of an offset, in minutes, with any colons
and blanks between them. -/
def takeHoursMinutes (cs : List Char) : Option (Nat × List Char) := do
  let (hours, cs) ← takePair cs
  let (minutes, cs) ← takePair (cs.dropWhile fun c => c == ':' || Text.isBlank c)
  if hours < 24 && minutes < 60 then some (hours * 60 + minutes, cs) else none

/-- The offset of the local time from universal time, in minutes. -/
def takeOffset : List Char → Option (Int × List Char)
  | 'Z' :: rest => some (0, rest)
  | 'z' :: rest => some (0, rest)
  | '+' :: rest => (takeHoursMinutes rest).map fun (n, rest) => ((n : Int), rest)
  | '-' :: rest => (takeHoursMinutes rest).map fun (n, rest) => (-(n : Int), rest)
  | '\u2212' :: rest => (takeHoursMinutes rest).map fun (n, rest) => (-(n : Int), rest)
  | u :: t :: c :: rest =>
    if u.toUpper = 'U' && t.toUpper = 'T' && c.toUpper = 'C' then some (0, rest) else none
  | _ => none

/-- The instant whose local time, `offset` minutes ahead of universal time, is
the given one. An offset is shorter than a day, so at most one midnight lies
between the two. -/
def ofLocal? (date : Date) (hour minute second nanosecond : Nat) (offset : Int) :
    Option Timestamp :=
  let total : Int := (hour * 60 + minute : Nat) - offset
  if total < 0 then do
    let date ← date.previous?
    let minutes := (total + 1440).toNat
    of? date (minutes / 60) (minutes % 60) second nanosecond
  else if 1440 ≤ total then do
    let date ← date.next?
    let minutes := (total - 1440).toNat
    of? date (minutes / 60) (minutes % 60) second nanosecond
  else of? date (total.toNat / 60) (total.toNat % 60) second nanosecond

/-- The date at the start of a text, and the text after it. -/
def takeDate (cs : List Char) : Option (Date × List Char) := do
  let (year, cs) ← takeYear cs
  let cs ← takeSeparator '-' cs
  let (month, cs) ← takePart cs
  let cs ← takeSeparator '-' cs
  let (day, cs) ← takePart cs
  let date ← Date.of? year month day
  return (date, cs)

/-- The text after the sign that parts date and time. -/
def takeDivider : List Char → Option (List Char)
  | [] => none
  | c :: rest => if c = 'T' || c = 't' || c = ' ' then some rest else none

/-- The instant that the characters write down. -/
def ofChars? (cs : List Char) : Option Timestamp := do
  let (date, cs) ← takeDate cs
  let cs ← takeDivider cs
  let (hour, cs) ← takePart cs
  let cs ← takeSeparator ':' cs
  let (minute, cs) ← takePart cs
  let cs ← takeSeparator ':' cs
  let (second, cs) ← takePart cs
  let (nanosecond, cs) ← takeFraction cs
  let (offset, cs) ← takeOffset (skipBlanks cs)
  if (skipBlanks cs).isEmpty && hour < 24 && minute < 60 then
    ofLocal? date hour minute second nanosecond offset
  else none

/-- The instant that a text writes down. -/
def ofText? (text : String) : Option Timestamp := ofChars? text.toList

end Timestamp

end Relay
