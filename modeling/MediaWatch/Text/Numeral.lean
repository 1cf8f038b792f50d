import MediaWatch.Number
import MediaWatch.Text
import MediaWatch.Text.Blank
import MediaWatch.Text.Digit

/-!
# Numerals

Readers for numbers written as text. `digits?` reads ASCII digits; `grouped?` allows single underscores between them;
`float?` and `anyFloat?` read a floating literal, whose value is the double nearest to it (`scaled`), and the words for
infinity and not-a-number. They differ in where an underscore may stand and in what counts as a digit.
-/

namespace MediaWatch.Numeral

/-- The number written by ASCII digits, given the value of those before. -/
def digitsFrom (value : Nat) : List Char → Option Nat
  | [] => some value
  | c :: rest => if c.isDigit then digitsFrom (10 * value + (c.toNat - 48)) rest else none

/-- The number written by one or more ASCII digits. -/
def digits? : List Char → Option Nat
  | [] => none
  | cs => digitsFrom 0 cs

/-- Drops single underscores that stand between two digits; `none` for any other underscore. -/
def ungroup (afterDigit : Bool) : List Char → Option (List Char)
  | [] => some []
  | '_' :: c :: rest =>
    if afterDigit && c.isDigit then (ungroup true rest).map (c :: ·) else none
  | ['_'] => none
  | c :: rest => (ungroup c.isDigit rest).map (c :: ·)

/-- The number written by digits with single underscores between them. -/
def grouped? (cs : List Char) : Option Nat := (ungroup false cs).bind digits?

/-- Drops single underscores within a text; `none` if one stands at an end or beside another. -/
def unjoin (inside : Bool) : List Char → Option (List Char)
  | [] => some []
  | ['_'] => none
  | '_' :: rest => if inside then unjoin false rest else none
  | c :: rest => (unjoin true rest).map (c :: ·)

/-- The digits after leading zeros, between which and behind which underscores may stand. -/
def dropZeros (cs : List Char) : List Char :=
  match cs with
  | '0' :: _ =>
    match cs.dropWhile fun c => c == '0' || c == '_' with
    | [] => cs.drop (cs.length - 1)
    | rest => rest
  | cs => cs

/-- A sign in front of a numeral, and what follows it. -/
def splitSign : List Char → Bool × List Char
  | '-' :: rest => (true, rest)
  | '+' :: rest => (false, rest)
  | cs => (false, cs)

/-- The double nearest to `mantissa · 10 ^ power`, whose mantissa has the given number of digits. Values beyond all
doubles are settled without the power. -/
def scaled (mantissa width : Nat) (power : Int) : Float :=
  if mantissa = 0 then 0.0
  else if power + (width : Int) > 400 then Float.ofBits 0x7FF0000000000000
  else if power + (width : Int) < -400 then 0.0
  else if 0 ≤ power then Float.ofScientific mantissa false power.toNat
  else Float.ofScientific mantissa true (-power).toNat

/-- A double with a sign. -/
def signed (negative : Bool) (x : Float) : Float := if negative then -x else x

/-- The exponent after the letter `e`: an optional sign and digits. -/
def exponent? (cs : List Char) : Option Int :=
  let (negative, rest) := splitSign cs
  (digits? rest).map fun n => if negative then -(n : Int) else n

/-- The value of an unsigned decimal literal: digits, a point and digits, one of the parts possibly empty, and an
exponent if there is one. -/
def decimal? (cs : List Char) : Option Float := do
  let mantissa := cs.takeWhile fun c => c ≠ 'e' ∧ c ≠ 'E'
  let power ← match cs.drop mantissa.length with
    | [] => some 0
    | _ :: rest => exponent? rest
  let whole := mantissa.takeWhile (· ≠ '.')
  let fraction := mantissa.drop (whole.length + 1)
  let value ← digits? (whole ++ fraction)
  let significant := (whole ++ fraction).dropWhile (· == '0')
  return scaled value significant.length (power - (fraction.length : Int))

/-- The value of a floating literal without blanks around it: an optional sign and a decimal literal, or `inf`,
`infinity` or `nan` in any case. -/
def literal? (cs : List Char) : Option Float :=
  let (negative, rest) := splitSign cs
  let word := String.ofList (rest.map Char.toLower)
  if word = "inf" ∨ word = "infinity" then some (signed negative (Float.ofBits 0x7FF0000000000000))
  else if word = "nan" then some (Float.ofBits 0x7FF8000000000000)
  else (decimal? rest).map (signed negative)

/-- The value of a floating literal with white space around it and single underscores within it. -/
def float? (s : String) : Option Float := (unjoin false (Text.trimList Text.isSpace s.toList)).bind literal?

/-- The value of a floating literal with white space around it and single underscores between its digits, which may be
of any script. -/
def anyFloat? : Text → Option Float
  | .plain s => (ungroup false (Text.plainDigits (Text.trimList Text.isSpace s.toList))).bind literal?
  | .garbled .. => none

end MediaWatch.Numeral
