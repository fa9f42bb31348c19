import SwitchTestbed.Document.Basic
import SwitchTestbed.Text.Basic
import SwitchTestbed.Toml.Blank

/-!
# Dates and times

* `afterDate?`, `afterTime?`, `afterOffset` : what follows a date, a time of day, the distance to
  the prime meridian's time;
* `readMoment` : a date, a time of day, or both. It is kept as it is written.
-/

namespace SwitchTestbed.Toml

/-- A number of two digits within bounds. -/
def readTwo (low high : Nat) : Reader Nat
  | a :: b :: rest => do
    let n := 10 * (← digit? 10 a) + (← digit? 10 b)
    if low ≤ n ∧ n ≤ high then some (n, rest) else none
  | _ => none

/-- The given character. -/
def readChar (c : Char) : Reader Unit
  | d :: rest => if d = c then some ((), rest) else none
  | [] => none

/-- How many days a month has. -/
def daysIn (year month : Nat) : Nat :=
  if month = 2 then
    if year % 4 = 0 ∧ (year % 100 ≠ 0 ∨ year % 400 = 0) then 29 else 28
  else if month = 4 ∨ month = 6 ∨ month = 9 ∨ month = 11 then 30
  else 31

/-- Four digits and a hyphen, which only a date begins with. -/
def readYear : Reader Nat
  | a :: b :: c :: d :: '-' :: rest => do
    let ds ← [a, b, c, d].mapM (digit? 10)
    some (natOfDigits 10 ds, rest)
  | _ => none

/-- What follows the month and the day of a year. -/
def afterDay? (year : Nat) (s : List Char) : Option (List Char) := do
  let (month, s) ← readTwo 1 12 s
  let (_, s) ← readChar '-' s
  let (_, s) ← readTwo 1 (daysIn year month) s
  some s

/-- What follows an hour and a colon, which only a time begins with. -/
def afterHour? (s : List Char) : Option (List Char) := do
  let (_, s) ← readTwo 0 23 s
  let (_, s) ← readChar ':' s
  some s

/-- What follows the fraction of a second, if there is one. -/
def skipFraction : List Char → List Char
  | '.' :: c :: rest =>
    if (digit? 10 c).isSome then rest.dropWhile fun c => (digit? 10 c).isSome else '.' :: c :: rest
  | s => s

/-- What follows the minutes and the seconds of a time; the last minute of a day may have one more
of these. -/
def afterMinutes? (s : List Char) : Option (List Char) := do
  let (_, s) ← readTwo 0 59 s
  let (_, s) ← readChar ':' s
  let (_, s) ← readTwo 0 60 s
  some (skipFraction s)

/-- What follows the distance to the prime meridian's time, if there is one. -/
def afterOffset? : List Char → Option (List Char)
  | [] => some []
  | c :: rest =>
    if c = 'Z' ∨ c = 'z' then some rest
    else if c = '+' ∨ c = '-' then do
      let s ← afterHour? rest
      let (_, s) ← readTwo 0 59 s
      some s
    else some (c :: rest)

/-- What follows a time of day behind a date, if there is one. -/
def afterTimeOfDate? : List Char → Option (List Char)
  | [] => some []
  | c :: rest =>
    if c = 'T' ∨ c = 't' ∨ c = ' ' then
      match afterHour? rest with
      | some s => do afterOffset? (← afterMinutes? s)
      | none => some (c :: rest)
    else some (c :: rest)

/-- Whether a date or a time stands at the front. -/
def beginsMoment (s : List Char) : Bool := (readYear s).isSome || (afterHour? s).isSome

/-- What follows a date or a time. -/
def afterMoment? (s : List Char) : Option (List Char) :=
  match readYear s with
  | some (year, s) => do afterTimeOfDate? (← afterDay? year s)
  | none => do afterMinutes? (← afterHour? s)

/-- A date, a time of day, or both. -/
def readMoment : Reader Doc := fun s => do
  let rest ← afterMoment? s
  some (.dateTime (String.ofList (s.take (s.length - rest.length))), rest)

end SwitchTestbed.Toml
