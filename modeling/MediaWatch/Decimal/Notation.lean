import MediaWatch.Decimal.Shortest

/-!
# How floating numbers are written

`Notation.float` writes a double with the fewest digits that identify it: positionally from `0.0001` up to below
`10 ^ 16`, always with a point, otherwise with a signed exponent of at least two digits. `Notation.fixed` writes a
set number of places, rounding the exact value and taking a tie to the even neighbour.
-/

namespace MediaWatch.Notation

/-- `n` zeros. -/
def zeros (n : Nat) : String := String.ofList (List.replicate n '0')

/-- The sign before a number. -/
def sign (negative : Bool) : String := if negative then "-" else ""

/-- Positional notation of `digits · 10 ^ power`, with at least one digit on either side of the point. -/
def positional (digits : Nat) (power : Int) : String :=
  let text := toString digits
  if 0 ≤ power then text ++ zeros power.toNat ++ ".0"
  else
    let places := (-power).toNat
    let padded := zeros (places + 1 - text.length) ++ text
    let cs := padded.toList
    String.ofList (cs.take (cs.length - places)) ++ "." ++ String.ofList (cs.drop (cs.length - places))

/-- Exponent notation of `digits · 10 ^ power`. -/
def scientific (digits : Nat) (power : Int) : String :=
  let text := (toString digits).toList
  let exponent := power + (text.length : Int) - 1
  let point := if text.length ≤ 1 then "" else "."
  let size := toString exponent.natAbs
  String.ofList (text.take 1) ++ point ++ String.ofList (text.drop 1) ++ "e" ++
    (if exponent < 0 then "-" else "+") ++ zeros (2 - size.length) ++ size

/-- The text of a finite value. -/
def finite (v : Binary.Value) : String :=
  if v.mantissa = 0 then sign v.negative ++ "0.0"
  else
    let (digits, power) := Shortest.decimal v
    let leading := power + (Shortest.width digits : Int) - 1
    sign v.negative ++ if -4 ≤ leading ∧ leading < 16 then positional digits power else scientific digits power

/-- The text of a double. -/
def float (x : Float) : String :=
  match Binary.ofFloat x with
  | .nan => "nan"
  | .infinite negative => sign negative ++ "inf"
  | .finite v => finite v

/-- `num / den` rounded to a natural number, a tie going to the even neighbour. -/
def roundDiv (num den : Nat) : Nat :=
  let q := num / den
  let r := num % den
  if 2 * r < den then q else if den < 2 * r then q + 1 else if q % 2 = 0 then q else q + 1

/-- The text of a double with `places` digits after the point; `places` is positive. -/
def fixed (places : Nat) (x : Float) : String :=
  match Binary.ofFloat x with
  | .nan => "nan"
  | .infinite negative => sign negative ++ "inf"
  | .finite v =>
    let scale := Nat.pow 10 places
    let n := roundDiv (v.numerator * scale) v.denominator
    let low := toString (n % scale)
    sign v.negative ++ toString (n / scale) ++ "." ++ zeros (places - low.length) ++ low

end MediaWatch.Notation
