import AisFeed.Text.Blank
import AisFeed.Text.Numeral
import AisFeed.Time.Basic
import AisFeed.Time.Calendar

/-!
# Times as text

`rfc3339` writes a time with the fewest of zero, three, six or nine digits of a second that are
exact, and a signed year outside 0 to 9999. `ofText?` reads any offset from universal time and
more spellings than are written: blanks between the parts, a space or a small `t` before the
clock, a named or missing colon in the offset, any number of digits of a second.
-/

set_option autoImplicit false

namespace AisFeed

open Text

/-- The year of a date: four digits, with a sign if they do not suffice. -/
def Date.yearText (year : Int) : List Char :=
  if 0 ≤ year ∧ year ≤ 9999 then decimalPadded 4 year.toNat
  else (if year < 0 then '-' else '+') :: decimalPadded 4 year.natAbs

/-- A date as `year-month-day`. -/
def Date.text (d : Date) : List Char :=
  yearText d.year ++ ['-'] ++ decimalPadded 2 d.month ++ ['-'] ++ decimalPadded 2 d.day

namespace Time

/-- The calendar date of a time. -/
def date (t : Time) : Date :=
  Date.ofDays (t.seconds / 86400)

/-- Seconds since midnight. -/
def secondOfDay (t : Time) : Nat :=
  (t.seconds % 86400).toNat

/-- Hour, minute and second with colons; a leap second is second 60. -/
def clockText (t : Time) : List Char :=
  let s := t.secondOfDay
  let second := if t.nanos < 1000000000 then s % 60 else s % 60 + 1
  decimalPadded 2 (s / 3600) ++ [':'] ++ decimalPadded 2 (s / 60 % 60) ++ [':'] ++
    decimalPadded 2 second

/-- The digits after the second: none, or the fewest of three, six and nine that are exact. -/
def fractionText (t : Time) : List Char :=
  let n := t.nanos % 1000000000
  if n = 0 then []
  else if n % 1000000 = 0 then '.' :: decimalPadded 3 (n / 1000000)
  else if n % 1000 = 0 then '.' :: decimalPadded 6 (n / 1000)
  else '.' :: decimalPadded 9 n

/-- A time as in `2023-11-14T22:13:20.250Z`. -/
def rfc3339 (t : Time) : String :=
  String.ofList (t.date.text ++ ['T'] ++ t.clockText ++ t.fractionText ++ ['Z'])

/-- A time as in `2023-11-14 22:13:20.250 UTC`. -/
def display (t : Time) : String :=
  String.ofList (t.date.text ++ [' '] ++ t.clockText ++ t.fractionText ++ " UTC".toList)

/-! ## Writing in parts

An output gets the text of a time in parts: characters one by one, but the digits of a fraction
or of a signed year that follow their zeros all at once. -/

/-- The characters of a text one by one. -/
def singly (text : List Char) : List (List Char) :=
  text.map fun c => [c]

/-- The parts of the year of a date. -/
def yearParts (year : Int) : List (List Char) :=
  if 0 ≤ year ∧ year ≤ 9999 then singly (decimalPadded 4 year.toNat)
  else [if year < 0 then '-' else '+'] :: paddedParts 4 year.natAbs

/-- The parts of the digits after the second. -/
def fractionParts (t : Time) : List (List Char) :=
  let n := t.nanos % 1000000000
  if n = 0 then []
  else if n % 1000000 = 0 then ['.'] :: paddedParts 3 (n / 1000000)
  else if n % 1000 = 0 then ['.'] :: paddedParts 6 (n / 1000)
  else ['.'] :: paddedParts 9 n

/-- The parts of a time as in `2023-11-14T22:13:20.250Z`. -/
def rfc3339Parts (t : Time) : List (List Char) :=
  let d := t.date
  yearParts d.year ++
    singly (['-'] ++ decimalPadded 2 d.month ++ ['-'] ++ decimalPadded 2 d.day ++ ['T'] ++
      t.clockText) ++
    t.fractionParts ++ [['Z']]

@[simp] theorem flatten_singly (text : List Char) : (singly text).flatten = text := by
  induction text with
  | nil => rfl
  | cons c text ih => simpa [singly] using ih

theorem flatten_yearParts (year : Int) : (yearParts year).flatten = Date.yearText year := by
  unfold yearParts Date.yearText
  split <;> simp [flatten_paddedParts]

theorem flatten_fractionParts (t : Time) : t.fractionParts.flatten = t.fractionText := by
  simp only [fractionParts, fractionText]
  repeat' split
  all_goals simp [flatten_paddedParts]

theorem flatten_rfc3339Parts (t : Time) : t.rfc3339Parts.flatten = t.rfc3339.toList := by
  simp [rfc3339Parts, rfc3339, Date.text, flatten_yearParts, flatten_fractionParts]

/-! ## Reading -/

/-- One to `most` digits, as a number, and what follows them. -/
def digits? (most : Nat) (text : List Char) : Option (Nat × List Char) :=
  let ds := (text.take most).takeWhile Char.isDigit
  if ds.isEmpty then none else some (ofDecimal ds, text.drop ds.length)

/-- A number of one or two digits after any blanks. -/
def pair? (text : List Char) : Option (Nat × List Char) :=
  digits? 2 (trimStart text)

/-- The sign `c` after any blanks. -/
def mark? (c : Char) (text : List Char) : Option (List Char) :=
  match trimStart text with
  | d :: rest => if d = c then some rest else none
  | [] => none

/-- A year after any blanks: a sign and any number of digits, or up to four digits. -/
def year? (text : List Char) : Option (Int × List Char) :=
  match trimStart text with
  | '-' :: rest => (digits? rest.length rest).map fun p => (-p.1, p.2)
  | '+' :: rest => (digits? rest.length rest).map fun p => (p.1, p.2)
  | rest => (digits? 4 rest).map fun p => (p.1, p.2)

/-- Nanoseconds after a point, if there is one: digits after the ninth say nothing. -/
def fraction? (text : List Char) : Option (Nat × List Char) :=
  match text with
  | '.' :: rest =>
    let ds := rest.takeWhile Char.isDigit
    let nine := ds.take 9
    if ds.isEmpty then none
    else some (ofDecimal nine * Nat.pow 10 (9 - nine.length), rest.dropWhile Char.isDigit)
  | _ => some (0, text)

/-- Two digits at once, and what follows them. -/
def twoDigits? (text : List Char) : Option (Nat × List Char) :=
  match text with
  | a :: b :: rest => if a.isDigit && b.isDigit then some (ofDecimal [a, b], rest) else none
  | _ => none

/-- Hours and minutes of an offset, with colons or blanks or nothing between them, in seconds. -/
def offsetLength? (text : List Char) : Option (Nat × List Char) := do
  let (hours, rest) ← twoDigits? text
  let (minutes, rest) ← twoDigits? (rest.dropWhile fun c => c == ':' || isBlank c)
  if minutes < 60 then some (hours * 3600 + minutes * 60, rest) else none

/-- The offset from universal time in seconds: `Z`, `UTC`, or a sign, hours and minutes. It is
shorter than a day. -/
def offset? (text : List Char) : Option (Int × List Char) :=
  if (text.take 3).map Char.toUpper = ['U', 'T', 'C'] then some (0, text.drop 3)
  else match text with
    | c :: rest =>
      if c = 'Z' ∨ c = 'z' then some (0, rest)
      else if c = '+' ∨ c = '-' ∨ c = '\u2212' then
        match offsetLength? rest with
        | some (n, rest) =>
          if n < 86400 then some (if c = '+' then (n : Int) else -(n : Int), rest) else none
        | none => none
      else none
    | [] => none

/-- A date and what follows it. -/
def date? (text : List Char) : Option (Date × List Char) := do
  let (year, rest) ← year? text
  let (month, rest) ← pair? (← mark? '-' rest)
  let (day, rest) ← pair? (← mark? '-' rest)
  some (⟨year, month, day⟩, rest)

/-- Seconds since midnight, nanoseconds, and what follows the clock. Second 60 is the last
second of its minute prolonged. -/
def clock? (text : List Char) : Option (Nat × Nat × List Char) := do
  let (hour, rest) ← pair? text
  let (minute, rest) ← pair? (← mark? ':' rest)
  let (second, rest) ← pair? (← mark? ':' rest)
  let (nanos, rest) ← fraction? rest
  if hour < 24 ∧ minute < 60 ∧ second ≤ 60 then
    let start := hour * 3600 + minute * 60
    if second = 60 then some (start + 59, nanos + 1000000000, rest)
    else some (start + second, nanos, rest)
  else none

/-- The first and the last year of the calendar, in which also the local date has to lie. -/
def inCalendar (year : Int) : Bool :=
  -262143 ≤ year ∧ year ≤ 262142

/-- The time that a text names. -/
def ofText? (text : String) : Option Time := do
  let (date, rest) ← date? text.toList
  let rest ← match rest with
    | c :: rest => if c = 'T' ∨ c = 't' ∨ c = ' ' then some rest else none
    | [] => none
  let (seconds, nanos, rest) ← clock? rest
  let (offset, rest) ← offset? (trimStart rest)
  if date.isValid ∧ inCalendar date.year ∧ (trimStart rest).isEmpty then
    of? (date.toDays * 86400 + seconds - offset) nanos
  else none

end Time

end AisFeed
