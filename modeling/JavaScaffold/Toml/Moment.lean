/-!
# Dates and times

## Main Definitions

* `date?`, `time?`, `offset?` — the text behind a date, a time of day, or an offset
* `isMoment` — a date, a time of day, or a date with a time of day and perhaps an offset
* `Moment.key` — the mark of a date or time in the shape of a table

## Design Notes

Only the form counts, together with the ranges of the numbers; the values are not kept.
-/

namespace JavaScaffold.Toml.Moment

/-- The key under which a date or time holds its text, when it is looked at as a table. -/
def key : String := "$__toml_private_datetime"

/-- The number that the first `n` characters write in decimal digits, and the rest. -/
def number? (n : Nat) (cs : List Char) : Option (Nat × List Char) :=
  let front := cs.take n
  if front.length = n && front.all Char.isDigit then
    some (front.foldl (fun acc c => 10 * acc + (c.toNat - '0'.toNat)) 0, cs.drop n)
  else none

/-- The rest behind a leading `c`. -/
def after? (c : Char) : List Char → Option (List Char)
  | d :: rest => if d = c then some rest else none
  | [] => none

/-- The number of days in a month. -/
def daysIn (year month : Nat) : Nat :=
  if month = 2 then
    if year % 4 = 0 && (year % 100 != 0 || year % 400 = 0) then 29 else 28
  else if month = 4 || month = 6 || month = 9 || month = 11 then 30 else 31

/-- The text behind a date. -/
def date? (cs : List Char) : Option (List Char) := do
  let (year, cs) ← number? 4 cs
  let (month, cs) ← number? 2 (← after? '-' cs)
  let (day, cs) ← number? 2 (← after? '-' cs)
  if 1 ≤ month && month ≤ 12 && 1 ≤ day && day ≤ daysIn year month then some cs else none

/-- The text behind a part of a second, if there is one. -/
def subsecond? : List Char → Option (List Char)
  | '.' :: rest =>
    if rest.head?.any Char.isDigit then some (rest.dropWhile Char.isDigit) else none
  | cs => some cs

/-- The text behind the seconds of a time of day, if it has any. -/
def seconds? : List Char → Option (List Char)
  | ':' :: rest => do
    let (second, rest) ← number? 2 rest
    if second ≤ 60 then subsecond? rest else none
  | cs => some cs

/-- The text behind hours and minutes. -/
def clock? (cs : List Char) : Option (List Char) := do
  let (hour, cs) ← number? 2 cs
  let (minute, cs) ← number? 2 (← after? ':' cs)
  if hour ≤ 23 && minute ≤ 59 then some cs else none

/-- The text behind a time of day. -/
def time? (cs : List Char) : Option (List Char) := do
  seconds? (← clock? cs)

/-- The text behind an offset, if there is one. -/
def offset? : List Char → Option (List Char)
  | 'Z' :: rest | 'z' :: rest => some rest
  | '+' :: rest | '-' :: rest => clock? rest
  | cs => some cs

/-- Whether `c` may stand between a date and a time of day. -/
def isSeparator (c : Char) : Bool :=
  c == 'T' || c == 't' || c == ' '

/-- The text behind what may follow a date. -/
def afterDate? : List Char → Option (List Char)
  | [] => some []
  | c :: rest => if isSeparator c then do offset? (← time? rest) else none

end Moment

/-- Whether `cs` writes a date, a time of day, or both. -/
def isMoment (cs : List Char) : Bool :=
  match Moment.date? cs with
  | some rest => Moment.afterDate? rest == some []
  | none => Moment.time? cs == some []

end JavaScaffold.Toml
