import TextQuery.Toml.Number

/-!
# TOML dates and times

A date, a time of day, or both; with both, an offset from universal time may follow.  Seconds may be left out.  Days
are those of the calendar, and a minute may have a leap second.
-/

namespace TextQuery.Toml

/-- Reads a number of two digits that is at most `bound`. -/
def twoDigits? (bound : Nat) : Text → Option (Nat × Text)
  | c :: d :: rest =>
    if isDigitOf 10 c && isDigitOf 10 d && Nat.ble (digitValue 10 [c, d]) bound then
      some (digitValue 10 [c, d], rest)
    else none
  | _ => none

/-- Reads one given character. -/
def expect? (c : Char) : Text → Option Text
  | d :: rest => if d = c then some rest else none
  | [] => none

/-- Whether a year has a leap day. -/
def isLeapYear (year : Nat) : Bool := year % 4 == 0 && (year % 100 != 0 || year % 400 == 0)

/-- The number of days in a month. -/
def daysIn (year month : Nat) : Nat :=
  if month = 2 then (if isLeapYear year then 29 else 28)
  else if month ∈ [4, 6, 9, 11] then 30
  else 31

/-- Reads a date; the result is what follows it. -/
def date? (t : Text) : Option Text := do
  let (century, t) ← twoDigits? 99 t
  let (year, t) ← twoDigits? 99 t
  let (month, t) ← twoDigits? 12 (← expect? '-' t)
  let (day, t) ← twoDigits? 31 (← expect? '-' t)
  if 1 ≤ month ∧ 1 ≤ day ∧ day ≤ daysIn (100 * century + year) month then some t else none

/-- Reads the seconds of a time, with or without a fraction. -/
def seconds? (t : Text) : Option Text := do
  let (_, t) ← twoDigits? 60 t
  match t with
  | '.' :: rest =>
    let digits := rest.takeWhile (isDigitOf 10)
    if digits.isEmpty then none else some (rest.drop digits.length)
  | _ => some t

/-- Reads a time of day; the result is what follows it. -/
def time? (t : Text) : Option Text := do
  let (_, t) ← twoDigits? 23 t
  let (_, t) ← twoDigits? 59 (← expect? ':' t)
  match t with
  | ':' :: rest => seconds? rest
  | _ => some t

/-- Reads an offset from universal time; the result is what follows it. -/
def offset? : Text → Option Text
  | c :: rest =>
    if c = 'Z' ∨ c = 'z' then some rest
    else if c = '+' ∨ c = '-' then do
      let (_, t) ← twoDigits? 23 rest
      let (_, t) ← twoDigits? 59 (← expect? ':' t)
      some t
    else none
  | [] => none

/-- Whether a text ends here, or ends behind an offset. -/
def isOffsetOrEnd : Text → Bool
  | [] => true
  | t => offset? t == some []

/-- Whether a text is a date, a time, or a date with a time. -/
def isDateTime (t : Text) : Bool :=
  match date? t with
  | none => time? t == some []
  | some [] => true
  | some (c :: rest) => (c == 'T' || c == 't' || c == ' ') && (time? rest).any isOffsetOrEnd

end TextQuery.Toml
