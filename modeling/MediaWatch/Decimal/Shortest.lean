import MediaWatch.Decimal.Binary

/-!
# Shortest decimals

The decimal with the fewest digits that reads back to a given double, and of those the nearest
(`Shortest.decimal`). A real number reads back to the double when it lies in the interval `Bounds`: half a unit to
either side, the ends included exactly for an even mantissa. For each number of digits the two neighbours of the
value on that decimal grid are tested (`Grid.pick`), the coarsest grid first.
-/

namespace MediaWatch.Shortest

/-- The reals that read back to a double, over a common denominator: `low ≤ value ≤ high`. -/
structure Bounds where
  low : Nat
  value : Nat
  high : Nat
  denominator : Nat
  closed : Bool
  deriving Repr

/-- The interval around `mantissa · 2 ^ exponent`. Below a power of two the next double is half as far away. -/
def Bounds.around (v : Binary.Value) : Bounds :=
  let narrow := v.mantissa = Nat.pow 2 52 ∧ v.exponent > -1074
  let up := Nat.pow 2 (v.exponent - 2).toNat
  { low := (4 * v.mantissa - if narrow then 1 else 2) * up
    value := 4 * v.mantissa * up
    high := (4 * v.mantissa + 2) * up
    denominator := Nat.pow 2 (2 - v.exponent).toNat
    closed := v.mantissa % 2 = 0 }

/-- The powers of ten `digits · 10 ^ power`. -/
structure Grid where
  power : Int

namespace Grid

/-- The scale of the grid point `n`, brought over the denominator of `b`: multiply a point by `point b`, the bounds by
`bound`. -/
def point (g : Grid) (b : Bounds) : Nat := Nat.pow 10 g.power.toNat * b.denominator

/-- The factor of the bounds; see `point`. -/
def bound (g : Grid) : Nat := Nat.pow 10 (-g.power).toNat

/-- Whether the grid point `n` reads back to the double. -/
def holds (g : Grid) (b : Bounds) (n : Nat) : Bool :=
  let x := n * g.point b
  if b.closed then b.low * g.bound ≤ x && x ≤ b.high * g.bound
  else b.low * g.bound < x && x < b.high * g.bound

/-- The grid point just below the value. -/
def below (g : Grid) (b : Bounds) : Nat := b.value * g.bound / g.point b

/-- The neighbour of the value that reads back; the nearer one when both do, the even one in a tie. -/
def pick (g : Grid) (b : Bounds) : Option Nat :=
  let n := g.below b
  match g.holds b n, g.holds b (n + 1) with
  | false, false => none
  | true, false => some n
  | false, true => some (n + 1)
  | true, true =>
    let left := b.value * g.bound - n * g.point b
    let right := (n + 1) * g.point b - b.value * g.bound
    if left < right then some n
    else if right < left then some (n + 1)
    else if n % 2 = 0 then some n else some (n + 1)

end Grid

/-- The first grid with a point that reads back, starting at `10 ^ power` and refining `fuel` times. -/
def search (b : Bounds) : Nat → Int → Nat × Int
  | 0, power => (Grid.below ⟨power⟩ b, power)
  | fuel + 1, power =>
    match Grid.pick ⟨power⟩ b with
    | some n => (n, power)
    | none => search b fuel (power - 1)

/-- The number of decimal digits of `n`. -/
def width (n : Nat) : Nat := (Nat.toDigits 10 n).length

/-- A power of ten above the value. -/
def ceiling (b : Bounds) : Int :=
  if b.denominator ≤ b.value then width (b.value / b.denominator)
  else 2 - (width (b.denominator / b.value) : Int)

/-- Moves trailing zeros of the digits into the power; at most `fuel` of them. -/
def trim : Nat → Nat × Int → Nat × Int
  | 0, d => d
  | fuel + 1, (n, power) => if n ≠ 0 ∧ n % 10 = 0 then trim fuel (n / 10, power + 1) else (n, power)

/-- The shortest decimal `digits · 10 ^ power` that reads back to the absolute value of a nonzero number. -/
def decimal (v : Binary.Value) : Nat × Int :=
  let b := Bounds.around v
  trim 20 (search b 20 (ceiling b))

end MediaWatch.Shortest
