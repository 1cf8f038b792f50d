/-!
# Binary numbers

A double as it is stored: a sign, a mantissa and a power of two (`Binary.Value`), read off its bits
(`Binary.ofFloat`). Everything here is exact: whether the value is whole (`Value.isWhole`), its whole part
(`Value.whole`) and its comparison with an integer (`Value.compareInt`) are computed on integers.
-/

namespace MediaWatch.Binary

/-- The number `± mantissa · 2 ^ exponent`. -/
structure Value where
  negative : Bool
  mantissa : Nat
  exponent : Int
  deriving Repr, DecidableEq

/-- What the bits of a double stand for. -/
inductive Reading where
  | nan
  | infinite (negative : Bool)
  | finite (value : Value)
  deriving Repr, DecidableEq

/-- Decodes the 64 bits of a double: sign, eleven bits of exponent, 52 bits of fraction. -/
def ofBits (bits : Nat) : Reading :=
  let negative := bits / Nat.pow 2 63 % 2 == 1
  let scale : Nat := bits / Nat.pow 2 52 % 2048
  let fraction : Nat := bits % Nat.pow 2 52
  if scale = 2047 then
    if fraction = 0 then .infinite negative else .nan
  else if scale = 0 then .finite ⟨negative, fraction, -1074⟩
  else .finite ⟨negative, Nat.pow 2 52 + fraction, (scale : Int) - 1075⟩

/-- The reading of a double. -/
def ofFloat (x : Float) : Reading := ofBits x.toBits.toNat

namespace Value

/-- The denominator of the value as a fraction: a power of two, `1` when the exponent is not negative. -/
def denominator (v : Value) : Nat := Nat.pow 2 (-v.exponent).toNat

/-- The numerator of the absolute value over `denominator`. -/
def numerator (v : Value) : Nat := v.mantissa * Nat.pow 2 v.exponent.toNat

/-- Whether the value has no fractional part. -/
def isWhole (v : Value) : Bool := v.numerator % v.denominator == 0

/-- The absolute value rounded toward zero. -/
def magnitude (v : Value) : Nat := v.numerator / v.denominator

/-- The value rounded toward zero. -/
def whole (v : Value) : Int := if v.negative then -(v.magnitude : Int) else v.magnitude

/-- The signed numerator over `denominator`. -/
def signedNumerator (v : Value) : Int := if v.negative then -(v.numerator : Int) else v.numerator

/-- The exact order of the value and an integer. -/
def compareInt (v : Value) (n : Int) : Ordering := compare v.signedNumerator (n * v.denominator)

end Value

end MediaWatch.Binary
