import Dispatch.Decimal.Integer
import Dispatch.Text.Blank

/-!
# Points in time

Points in time in universal time, to the nanosecond, and their text in the format of RFC 3339.

## Main definitions

* `Timestamp`: a calendar date and a time of day, both valid.
* `Timestamp.text`: the text, with as few groups of three fraction digits as lose nothing.
* `Timestamp.parse?`: reading a text with any offset from universal time.
-/

namespace Dispatch

namespace Timestamp

/-- Every fourth year is a leap year, but of the full centuries only every fourth. -/
def isLeap (year : Int) : Bool := year % 4 = 0 && (year % 100 ≠ 0 || year % 400 = 0)

/-- How many days a month has. -/
def daysIn (year : Int) (month : Nat) : Nat :=
  match month with
  | 2 => if isLeap year then 29 else 28
  | 4 | 6 | 9 | 11 => 30
  | _ => 31

end Timestamp

/-- A **point in time** in universal time. A minute may have a sixty-first second, a leap
second. -/
structure Timestamp where
  year : Int
  month : Nat
  day : Nat
  hour : Nat
  minute : Nat
  second : Nat
  nano : Nat
  month_valid : 1 ≤ month ∧ month ≤ 12
  day_valid : 1 ≤ day ∧ day ≤ Timestamp.daysIn year month
  hour_valid : hour < 24
  minute_valid : minute < 60
  second_valid : second ≤ 60
  nano_valid : nano < 1000000000
deriving DecidableEq

namespace Timestamp

/-- Midnight of the first of January of a year. -/
def startOfYear (year : Int) : Timestamp where
  year := year
  month := 1
  day := 1
  hour := 0
  minute := 0
  second := 0
  nano := 0
  month_valid := by decide
  day_valid := ⟨by decide, by simp [daysIn]⟩
  hour_valid := by decide
  minute_valid := by decide
  second_valid := by decide
  nano_valid := by decide

instance : Inhabited Timestamp := ⟨startOfYear 1970⟩

/-- The point in time with the given fields, if they are valid. -/
def ofFields? (year : Int) (month day hour minute second nano : Nat) : Option Timestamp :=
  if h : (1 ≤ month ∧ month ≤ 12) ∧ (1 ≤ day ∧ day ≤ daysIn year month) ∧ hour < 24 ∧
      minute < 60 ∧ second ≤ 60 ∧ nano < 1000000000 then
    some ⟨year, month, day, hour, minute, second, nano, h.1, h.2.1, h.2.2.1, h.2.2.2.1,
      h.2.2.2.2.1, h.2.2.2.2.2⟩
  else none

/-! ### Writing -/

/-- Four digits for the years 0 to 9999, and a sign before at least four digits for others. -/
def yearText (year : Int) : List Char :=
  if 0 ≤ year && year ≤ 9999 then Decimal.padded 4 year.toNat
  else (if year < 0 then '-' else '+') :: Decimal.padded 4 year.natAbs

/-- The fraction of a second: nothing, or a point and three, six or nine digits. -/
def fraction (nano : Nat) : List Char :=
  if nano = 0 then []
  else if nano % 1000000 = 0 then '.' :: Decimal.padded 3 (nano / 1000000)
  else if nano % 1000 = 0 then '.' :: Decimal.padded 6 (nano / 1000)
  else '.' :: Decimal.padded 9 nano

/-- The **text** of a point in time. -/
def text (t : Timestamp) : String :=
  String.ofList (yearText t.year ++ '-' :: Decimal.padded 2 t.month ++
    '-' :: Decimal.padded 2 t.day ++ 'T' :: Decimal.padded 2 t.hour ++
    ':' :: Decimal.padded 2 t.minute ++ ':' :: Decimal.padded 2 t.second ++
    fraction t.nano ++ ['Z'])

/-! ### Reading -/

/-- Between one and `most` digits, as many as there are, and the text after them. -/
def number? (most : Nat) (cs : List Char) : Option (Nat × List Char) :=
  let ds := (cs.take most).takeWhile Decimal.isDigit
  if ds.isEmpty then none else some (Decimal.value ds, cs.drop ds.length)

/-- A number of at most two digits after white space. -/
def field? (cs : List Char) : Option (Nat × List Char) := number? 2 (Text.trimStart cs)

/-- A year: four digits at most, or any number of them after a sign. -/
def year? (cs : List Char) : Option (Int × List Char) :=
  match Text.trimStart cs with
  | '-' :: cs => (number? cs.length cs).map fun (n, cs) => (-(n : Int), cs)
  | '+' :: cs => (number? cs.length cs).map fun (n, cs) => ((n : Int), cs)
  | cs => (number? 4 cs).map fun (n, cs) => ((n : Int), cs)

/-- The text after a separator, which may have white space before it. -/
def mark? (c : Char) (cs : List Char) : Option (List Char) :=
  match Text.trimStart cs with
  | d :: cs => if c = d then some cs else none
  | [] => none

/-- The fraction of a second in nanoseconds; digits past the ninth are dropped. -/
def nano? (cs : List Char) : Option (Nat × List Char) :=
  match cs with
  | '.' :: cs =>
    let ds := cs.takeWhile Decimal.isDigit
    if ds.isEmpty then none
    else
      let kept := ds.take 9
      some (Decimal.value kept * Nat.pow 10 (9 - kept.length), cs.drop ds.length)
  | _ => some (0, cs)

/-- The offset from universal time in minutes. -/
def offset? (cs : List Char) : Option (Int × List Char) :=
  match cs with
  | 'Z' :: cs | 'z' :: cs => some (0, cs)
  | u :: t :: c :: rest =>
    if [u, t, c].map Char.toLower = ['u', 't', 'c'] then some (0, rest)
    else if u = '+' || u = '-' || u = '\u2212' then
      if Decimal.isDigit t && Decimal.isDigit c then
        match rest.dropWhile fun c => c = ':' || Text.isBlank c with
        | m :: n :: rest =>
          if '0' ≤ m && m ≤ '5' && Decimal.isDigit n then
            let minutes : Int := 60 * Decimal.value [t, c] + Decimal.value [m, n]
            if minutes < 1440 then some (if u = '+' then minutes else -minutes, rest) else none
          else none
        | _ => none
      else none
    else none
  | _ => none

/-- The day before. -/
def dayBefore (year : Int) (month day : Nat) : Int × Nat × Nat :=
  if 1 < day then (year, month, day - 1)
  else if 1 < month then (year, month - 1, daysIn year (month - 1))
  else (year - 1, 12, 31)

/-- The day after. -/
def dayAfter (year : Int) (month day : Nat) : Int × Nat × Nat :=
  if day < daysIn year month then (year, month, day + 1)
  else if month < 12 then (year, month + 1, 1)
  else (year + 1, 1, 1)

/-- The same point in time when the fields of `t` are those of a place `offset` minutes ahead of
universal time. -/
def atOffset? (t : Timestamp) (offset : Int) : Option Timestamp :=
  let minutes : Int := 60 * t.hour + t.minute - offset
  let ((year, month, day), minutes) :=
    if minutes < 0 then (dayBefore t.year t.month t.day, minutes + 1440)
    else if minutes < 1440 then ((t.year, t.month, t.day), minutes)
    else (dayAfter t.year t.month t.day, minutes - 1440)
  ofFields? year month day (minutes.toNat / 60) (minutes.toNat % 60) t.second t.nano

/-- The years that can be read. -/
def yearInRange (year : Int) : Bool := -262143 ≤ year && year ≤ 262142

/-- **Reads a point in time**. The date and the time are divided by a `T` of either case or a
space. -/
def parse? (s : String) : Option Timestamp := do
  let (year, cs) ← year? s.toList
  let (month, cs) ← field? (← mark? '-' cs)
  let (day, cs) ← field? (← mark? '-' cs)
  let cs ← match cs with
    | 'T' :: cs | 't' :: cs | ' ' :: cs => some cs
    | _ => none
  let (hour, cs) ← field? cs
  let (minute, cs) ← field? (← mark? ':' cs)
  let (second, cs) ← field? (← mark? ':' cs)
  let (nano, cs) ← nano? cs
  let (offset, cs) ← offset? (Text.trimStart cs)
  let t ← ofFields? year month day hour minute second nano
  let t ← if offset = 0 then some t else t.atOffset? offset
  if cs.all Text.isBlank && yearInRange year && yearInRange t.year then some t else none

end Timestamp

end Dispatch
