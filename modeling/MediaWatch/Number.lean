import MediaWatch.Decimal.Notation

/-!
# Numbers and scalars

`Number` is a number as texts and settings write it: a whole number of any size, or a double. Arithmetic stays whole
as long as its operands are (`Number.add` and its companions); a quotient is always a double.

`Scalar` lists what the timing rules need of a number: the four operations and a decidable order. Rules are stated
over any scalar, run on `Number` and can be studied on the rationals.
-/

namespace MediaWatch

/-- A whole number or a double. -/
inductive Number where
  | int (n : Int)
  | float (x : Float)
  deriving Inhabited

namespace Number

/-- The double nearest to the number. -/
def toFloat : Number → Float
  | .int n => Float.ofInt n
  | .float x => x

/-- The number's text: a whole number has no point. -/
def text : Number → String
  | .int n => toString n
  | .float x => Notation.float x

/-- Combines two numbers: as integers when both are whole, else as doubles. -/
def combine (whole : Int → Int → Int) (floating : Float → Float → Float) : Number → Number → Number
  | .int a, .int b => .int (whole a b)
  | a, b => .float (floating a.toFloat b.toFloat)

def add : Number → Number → Number := combine (· + ·) (· + ·)

def sub : Number → Number → Number := combine (· - ·) (· - ·)

def mul : Number → Number → Number := combine (· * ·) (· * ·)

/-- A quotient is a double, also of whole numbers. -/
def div (a b : Number) : Number := .float (a.toFloat / b.toFloat)

/-- The exact order of a double and an integer; `none` for a number that is none. -/
def compareFloatInt (x : Float) (n : Int) : Option Ordering :=
  match Binary.ofFloat x with
  | .nan => none
  | .infinite negative => some (if negative then .lt else .gt)
  | .finite v => some (v.compareInt n)

/-- The exact order of two numbers; `none` when one of them is not a number. -/
def order : Number → Number → Option Ordering
  | .int a, .int b => some (compare a b)
  | .float x, .int n => compareFloatInt x n
  | .int n, .float x => (compareFloatInt x n).map Ordering.swap
  | .float x, .float y => if x < y then some .lt else if x == y then some .eq else if y < x then some .gt else none

/-- Whether the number is zero, of either sign. -/
def isZero : Number → Bool
  | .int n => n == 0
  | .float x => x == 0.0

instance : LT Number := ⟨fun a b => a.order b = some .lt⟩

instance : LE Number := ⟨fun a b => a.order b = some .lt ∨ a.order b = some .eq⟩

instance (a b : Number) : Decidable (a < b) := inferInstanceAs (Decidable (_ = _))

instance (a b : Number) : Decidable (a ≤ b) := inferInstanceAs (Decidable (_ ∨ _))

end Number

/-! ## Scalars -/

/-- Numbers that the timing rules can count in. -/
class Scalar (τ : Type) extends Add τ, Sub τ, Mul τ, Div τ, LT τ, LE τ where
  /-- The scalar of an integer. -/
  ofInt : Int → τ
  /-- The scalar's text in messages. -/
  text : τ → String
  /-- The scalar's text with one digit after the point. -/
  tenths : τ → String
  decLt : DecidableLT τ
  decLe : DecidableLE τ

instance Scalar.decidableLT {τ : Type} [Scalar τ] : DecidableLT τ := Scalar.decLt

instance Scalar.decidableLE {τ : Type} [Scalar τ] : DecidableLE τ := Scalar.decLe

instance : Scalar Number where
  add := Number.add
  sub := Number.sub
  mul := Number.mul
  div := Number.div
  ofInt := Number.int
  text := Number.text
  tenths := fun x => Notation.fixed 1 x.toFloat
  decLt := fun _ _ => inferInstance
  decLe := fun _ _ => inferInstance

instance : Scalar Rat where
  ofInt := fun n => n
  text := toString
  tenths := fun x =>
    let n := Notation.roundDiv (x.num.natAbs * 10) x.den
    Notation.sign (x.num < 0) ++ toString (n / 10) ++ "." ++ toString (n % 10)
  decLt := inferInstance
  decLe := inferInstance

namespace Scalar

variable {τ : Type} [Scalar τ]

/-- The smaller of two scalars, the first one unless the second is smaller. -/
def least (a b : τ) : τ := if b < a then b else a

/-- The larger of two scalars, the first one unless the second is larger. -/
def greatest (a b : τ) : τ := if a < b then b else a

/-- A scalar, or zero when it is negative. -/
def clamp (a : τ) : τ := greatest (ofInt 0) a

end Scalar

end MediaWatch
