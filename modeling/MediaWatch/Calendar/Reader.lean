import MediaWatch.Calendar.Date

/-!
# Reading dates and times

`Date.parse?` reads `YYYY-MM-DD`. `Moment.parse?` reads a date alone, or a date, a separator and a time with an
optional fraction and offset, or a count of seconds; `Moment.ofInt?` and `Moment.ofFloat?` take such counts as
numbers. Counts beyond `2 · 10 ^ 10` are milliseconds. Fractions are cut to microseconds.
-/

namespace MediaWatch

namespace Calendar

/-- The number written by exactly `n` digits at the head, and what follows. -/
def take? (n : Nat) (cs : List Char) : Option (Nat × List Char) :=
  let ds := cs.take n
  if ds.length = n then (Numeral.digits? ds).map (·, cs.drop n) else none

/-- What follows an expected character. -/
def after? (c : Char) : List Char → Option (List Char)
  | x :: rest => if x = c then some rest else none
  | [] => none

/-- A date at the head of the characters. -/
def date? (cs : List Char) : Option (Date × List Char) := do
  let (year, cs) ← take? 4 cs
  let cs ← after? '-' cs
  let (month, cs) ← take? 2 cs
  let cs ← after? '-' cs
  let (day, cs) ← take? 2 cs
  let date ← Date.ofParts? year month day
  return (date, cs)

/-- The microseconds written by the digits after the point. -/
def microseconds (ds : List Char) : Nat :=
  let kept := ds.take 6
  (Numeral.digitsFrom 0 kept).getD 0 * Nat.pow 10 (6 - kept.length)

/-- A fraction of a second at the head, if a point stands there. -/
def fraction? : List Char → Option (Nat × List Char)
  | c :: rest =>
    if c = '.' ∨ c = ',' then
      let ds := rest.takeWhile Char.isDigit
      if ds.isEmpty then none else some (microseconds ds, rest.drop ds.length)
    else some (0, c :: rest)
  | [] => some (0, [])

/-- A time of day at the head: hours and minutes, then seconds and a fraction if they are given. -/
def time? (cs : List Char) : Option (TimeOfDay × List Char) := do
  let (hour, cs) ← take? 2 cs
  let cs ← after? ':' cs
  let (minute, cs) ← take? 2 cs
  if hour > 23 ∨ minute > 59 then none
  else match cs with
    | ':' :: rest =>
      let (second, cs) ← take? 2 rest
      let (micro, cs) ← fraction? cs
      if second > 59 then none else some (⟨hour, minute, second, micro⟩, cs)
    | _ => some (⟨hour, minute, 0, 0⟩, cs)

/-- The offset that ends a time, in minutes: none, `Z`, or a sign, hours and minutes. -/
def offset? : List Char → Option (Option Int)
  | [] => some none
  | ['Z'] => some (some 0)
  | ['z'] => some (some 0)
  | c :: rest => do
    let sign : Int ← if c = '+' then some 1 else if c = '-' ∨ c = '−' then some (-1) else none
    let (hours, rest) ← take? 2 rest
    let (minutes, rest) ← take? 2 ((after? ':' rest).getD rest)
    if rest.isEmpty ∧ hours < 24 ∧ minutes < 60 then some (some (sign * (60 * hours + minutes : Nat))) else none

/-- Counts of more than this are milliseconds. -/
def secondsLimit : Nat := 20000000000

/-- The last second of the year 9999. -/
def lastSecond : Int := 253402300799

/-- The first second of the year before year 1. -/
def firstSecond : Int := -62167219200

end Calendar

open Calendar

/-- Reads `YYYY-MM-DD`. -/
def Date.parse? (s : String) : Option Date :=
  match date? s.toList with
  | some (date, []) => some date
  | _ => none

namespace Moment

/-- The moment of a count of seconds or milliseconds, with some microseconds more. -/
def ofCount? (count : Int) (micro : Nat) : Option Moment :=
  let (seconds, extra) :=
    if count.natAbs ≤ secondsLimit then (count, 0) else (Int.fdiv count 1000, (Int.fmod count 1000).toNat * 1000)
  let micro := micro + extra
  let seconds := seconds + (micro / 1000000 : Nat)
  if firstSecond ≤ seconds ∧ seconds ≤ lastSecond then ofSeconds? seconds (micro % 1000000) else none

/-- The moment of a whole count. -/
def ofInt? (count : Int) : Option Moment := ofCount? count 0

/-- The largest whole number not above a finite value. -/
def floor (v : Binary.Value) : Int := Int.fdiv v.signedNumerator v.denominator

/-- The moment of a floating count: its floor, and its fractional part rounded to microseconds. -/
def ofFloat? (x : Float) : Option Moment :=
  match Binary.ofFloat x with
  | .finite v =>
    let micro := Float.abs (x - Float.ofInt v.whole) * 1000000.0
    ofCount? (floor v) (Float.round micro).toUInt64.toNat
  | _ => none

/-- The moment of a count written as text: a sign, digits, and a point with digits if there is one. -/
def ofCountText? (cs : List Char) : Option Moment := do
  let (negative, rest) := Numeral.splitSign cs
  let whole := rest.takeWhile Char.isDigit
  match rest.drop whole.length with
  | [] =>
    let n ← Numeral.digits? whole
    ofInt? (if negative then -(n : Int) else n)
  | '.' :: ds =>
    let n ← Numeral.digitsFrom 0 (whole ++ ds)
    let x := Numeral.signed negative (Numeral.scaled n (whole ++ ds).length (-(ds.length : Int)))
    let x := if Float.abs x > secondsLimit.toFloat then x / 1000.0 else x
    match Binary.ofFloat x with
    | .finite v =>
      let seconds := floor v
      ofCount? seconds (Float.round ((x - Float.ofInt seconds) * 1000000.0)).toUInt64.toNat
    | _ => none
  | _ => none

/-- A date alone, or a date, a separator and a time. -/
def ofDateText? (cs : List Char) : Option Moment := do
  let (date, rest) ← date? cs
  match rest with
  | [] => some ⟨date, .midnight, none⟩
  | c :: rest =>
    if c = 'T' ∨ c = 't' ∨ c = ' ' ∨ c = '_' then
      let (time, rest) ← time? rest
      let offset ← offset? rest
      some ⟨date, time, offset⟩
    else none

/-- Reads a moment in any of its forms. -/
def parse? (s : String) : Option Moment := ofDateText? s.toList <|> ofCountText? s.toList

end Moment

end MediaWatch
