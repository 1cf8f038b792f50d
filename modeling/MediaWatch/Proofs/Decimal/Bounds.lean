import Mathlib
import MediaWatch.Decimal.Notation

/-!
# Where the shortest decimal lies

Whatever reads back to a double with a fractional part lies strictly between the two whole numbers around the double
(`Shortest.Bounds.around_between`): both are doubles themselves, at least half a unit away from the ends of the interval.
Every grid point that the search may end with is in that interval, or the last one below the value, so the shortest
decimal keeps the whole part: the main result, `Shortest.floor_decimal`.
-/

namespace MediaWatch

/-! ## Binary values -/

namespace Binary

theorem mantissa_lt_of_ofFloat {x : Float} {v : Value} (h : ofFloat x = .finite v) : v.mantissa < 2 ^ 53 := by
  rw [ofFloat, ofBits] at h
  have hfraction : x.toBits.toNat % Nat.pow 2 52 < Nat.pow 2 52 := Nat.mod_lt _ (by decide)
  split at h
  · split at h <;> cases h
  · have htwice : Nat.pow 2 52 + Nat.pow 2 52 = 2 ^ 53 := by decide
    split at h
    · obtain rfl := Reading.finite.inj h
      show x.toBits.toNat % Nat.pow 2 52 < 2 ^ 53
      omega
    · obtain rfl := Reading.finite.inj h
      show Nat.pow 2 52 + x.toBits.toNat % Nat.pow 2 52 < 2 ^ 53
      omega

namespace Value

variable {v : Value}

/-- A value with a fractional part has a negative exponent. -/
theorem exponent_neg (h : v.isWhole = false) : v.exponent < 0 := by
  by_contra hexp
  have hzero : (-v.exponent).toNat = 0 := by omega
  simp [isWhole, denominator, hzero, Nat.mod_one] at h

theorem numerator_eq (h : v.exponent < 0) : v.numerator = v.mantissa := by
  have hzero : v.exponent.toNat = 0 := by omega
  rw [numerator, hzero]
  exact Nat.mul_one _

end Value

end Binary

namespace Shortest

open Binary

/-! ## Bounds -/

/-- The number that digits and a power of ten stand for. -/
def toRat (d : Nat × Int) : ℚ := d.1 * 10 ^ d.2

theorem toRat_nonneg (d : Nat × Int) : 0 ≤ toRat d := by
  rw [toRat]
  positivity

/-- Whatever reads back lies strictly between two neighbouring whole numbers. -/
structure Bounds.Between (b : Bounds) (n : Nat) : Prop where
  lt_low : n * b.denominator < b.low
  low_le : b.low ≤ b.value
  le_high : b.value ≤ b.high
  high_lt : b.high < (n + 1) * b.denominator

theorem Bounds.Between.denominator_pos {b : Bounds} {n : Nat} (h : b.Between n) : 0 < b.denominator := by
  by_contra hzero
  have hhigh := h.high_lt
  rw [Nat.eq_zero_of_not_pos hzero, Nat.mul_zero] at hhigh
  exact Nat.not_lt_zero _ hhigh

theorem Bounds.around_between {v : Value} (h : v.isWhole = false) : (Bounds.around v).Between v.magnitude := by
  have hexp := Value.exponent_neg h
  obtain ⟨k, hk⟩ : ∃ k : Nat, v.exponent = -(k : Int) := ⟨(-v.exponent).toNat, by omega⟩
  have hone : Nat.pow 2 (v.exponent - 2).toNat = 1 := by
    rw [show (v.exponent - 2).toNat = 0 by omega]
  have hfour : Nat.pow 2 (2 - v.exponent).toNat = 4 * 2 ^ k := by
    rw [show (2 - v.exponent).toNat = k + 2 by omega]
    show 2 ^ (k + 2) = 4 * 2 ^ k
    rw [Nat.pow_add, Nat.mul_comm]
  have hden : v.denominator = 2 ^ k := by
    rw [Value.denominator, show (-v.exponent).toNat = k by omega]
    rfl
  have hrest : v.mantissa % 2 ^ k ≠ 0 := by
    simpa [Value.isWhole, Value.numerator_eq hexp, hden] using h
  have hlt : v.mantissa % 2 ^ k < 2 ^ k := Nat.mod_lt _ (Nat.pow_pos (by decide))
  have hsplit : 2 ^ k * (v.mantissa / 2 ^ k) + v.mantissa % 2 ^ k = v.mantissa := Nat.div_add_mod _ _
  have hwhole : v.magnitude = v.mantissa / 2 ^ k := by rw [Value.magnitude, Value.numerator_eq hexp, hden]
  have hlow : 4 * v.mantissa - 2 ≤ (Bounds.around v).low ∧ (Bounds.around v).low ≤ 4 * v.mantissa := by
    simp only [Bounds.around, hone, Nat.mul_one]
    split <;> omega
  have hvalue : (Bounds.around v).value = 4 * v.mantissa := by simp only [Bounds.around, hone, Nat.mul_one]
  have hhigh : (Bounds.around v).high = 4 * v.mantissa + 2 := by simp only [Bounds.around, hone, Nat.mul_one]
  have hdenominator : (Bounds.around v).denominator = 4 * 2 ^ k := hfour
  have hbelow : v.magnitude * (Bounds.around v).denominator = 4 * (2 ^ k * (v.mantissa / 2 ^ k)) := by
    rw [hwhole, hdenominator]
    ring
  have habove : (v.magnitude + 1) * (Bounds.around v).denominator = 4 * (2 ^ k * (v.mantissa / 2 ^ k)) + 4 * 2 ^ k := by
    rw [Nat.add_mul, hbelow, hdenominator, Nat.one_mul]
  constructor
  · omega
  · omega
  · omega
  · omega

/-! ## Grids -/

theorem pow_toNat (p : Int) : (10 : ℚ) ^ p.toNat = 10 ^ p * 10 ^ (-p).toNat := by
  rw [← zpow_natCast, ← zpow_natCast, ← zpow_add₀ (by norm_num)]
  congr 1
  omega

namespace Grid

variable {g : Grid} {b : Bounds} {n whole : Nat}

/-- A grid point over the denominator of bounds. -/
theorem cast_point (g : Grid) (b : Bounds) (n : Nat) :
    ((n * g.point b : Nat) : ℚ) = toRat (n, g.power) * b.denominator * (g.bound : Nat) := by
  have hpow : ((Nat.pow 10 g.power.toNat : Nat) : ℚ) = 10 ^ g.power * (Nat.pow 10 (-g.power).toNat : Nat) := by
    push_cast [Nat.pow_eq]
    exact pow_toNat g.power
  rw [point, bound, Nat.cast_mul, Nat.cast_mul, hpow, toRat]
  ring

theorem bound_pos (g : Grid) : 0 < g.bound := Nat.pow_pos (by decide)

theorem le_of_holds (h : g.holds b n = true) : b.low * g.bound ≤ n * g.point b ∧ n * g.point b ≤ b.high * g.bound := by
  rw [holds] at h
  split at h <;> simp only [Bool.and_eq_true, decide_eq_true_eq] at h <;> omega

/-- A grid point that is neither below the whole number nor above the bounds lies before the next whole number. -/
theorem toRat_mem_Ico (hb : b.Between whole) (hlow : whole * b.denominator * g.bound ≤ n * g.point b)
    (hhigh : n * g.point b ≤ b.high * g.bound) : toRat (n, g.power) ∈ Set.Ico (whole : ℚ) (whole + 1) := by
  have hden := hb.denominator_pos
  have hscale : (0 : ℚ) < b.denominator * (g.bound : Nat) := by
    have := g.bound_pos
    positivity
  have hlt : n * g.point b < (whole + 1) * b.denominator * g.bound :=
    hhigh.trans_lt (Nat.mul_lt_mul_of_pos_right hb.high_lt g.bound_pos)
  have hlow' : ((whole * b.denominator * g.bound : Nat) : ℚ) ≤ ((n * g.point b : Nat) : ℚ) := Nat.cast_le.mpr hlow
  have hlt' : ((n * g.point b : Nat) : ℚ) < (((whole + 1) * b.denominator * g.bound : Nat) : ℚ) := Nat.cast_lt.mpr hlt
  rw [cast_point] at hlow' hlt'
  push_cast at hlow' hlt'
  rw [mul_assoc, mul_assoc] at hlow' hlt'
  exact ⟨le_of_mul_le_mul_right hlow' hscale, lt_of_mul_lt_mul_right hlt' hscale.le⟩

theorem toRat_mem_Ico_of_holds (hb : b.Between whole) (h : g.holds b n = true) :
    toRat (n, g.power) ∈ Set.Ico (whole : ℚ) (whole + 1) := by
  obtain ⟨hlow, hhigh⟩ := le_of_holds h
  exact toRat_mem_Ico hb ((Nat.mul_le_mul_right _ hb.lt_low.le).trans hlow) hhigh

/-- The grid point below the value is not below a whole number on the grid. -/
theorem toRat_mem_Ico_below (hb : b.Between whole) (hpower : g.power ≤ 0) :
    toRat (g.below b, g.power) ∈ Set.Ico (whole : ℚ) (whole + 1) := by
  have hden := hb.denominator_pos
  have hpoint : g.point b = b.denominator := by
    rw [point, show g.power.toNat = 0 by omega]
    exact Nat.one_mul _
  have hbelow : g.below b * g.point b ≤ b.value * g.bound := Nat.div_mul_le_self _ _
  refine toRat_mem_Ico hb ?_ (hbelow.trans (Nat.mul_le_mul_right _ hb.le_high))
  have hle : whole * g.bound ≤ g.below b := by
    rw [below, Nat.le_div_iff_mul_le (hpoint ▸ hden), hpoint]
    calc whole * g.bound * b.denominator = whole * b.denominator * g.bound := by ring
      _ ≤ b.value * g.bound := Nat.mul_le_mul_right _ (hb.lt_low.le.trans hb.low_le)
  calc whole * b.denominator * g.bound = whole * g.bound * g.point b := by rw [hpoint]; ring
    _ ≤ g.below b * g.point b := Nat.mul_le_mul_right _ hle

theorem holds_of_pick (h : g.pick b = some n) : g.holds b n = true := by
  simp only [pick] at h
  split at h <;> rename_i hbelow habove
  · cases h
  · obtain rfl := Option.some.inj h
    exact hbelow
  · obtain rfl := Option.some.inj h
    exact habove
  · split at h
    · obtain rfl := Option.some.inj h
      exact hbelow
    · split at h
      · obtain rfl := Option.some.inj h
        exact habove
      · split at h
        · obtain rfl := Option.some.inj h
          exact hbelow
        · obtain rfl := Option.some.inj h
          exact habove

end Grid

/-! ## The search -/

/-- Whatever the search ends with lies between the same whole numbers as the value, if its last grid has whole numbers. -/
theorem toRat_search_mem_Ico {b : Bounds} {whole : Nat} (hb : b.Between whole) {fuel : Nat} {power : Int}
    (hpower : power ≤ fuel) : toRat (search b fuel power) ∈ Set.Ico (whole : ℚ) (whole + 1) := by
  induction fuel generalizing power with
  | zero => exact Grid.toRat_mem_Ico_below hb hpower
  | succ fuel ih =>
    rw [search]
    split
    · rename_i n hn
      exact Grid.toRat_mem_Ico_of_holds hb (Grid.holds_of_pick hn)
    · exact ih (by omega)

/-- Trimming changes the digits and not the number. -/
theorem toRat_trim (fuel : Nat) (d : Nat × Int) : toRat (trim fuel d) = toRat d := by
  induction fuel generalizing d with
  | zero => rfl
  | succ fuel ih =>
    obtain ⟨n, power⟩ := d
    rw [trim]
    split
    · rename_i h
      have hten : n = n / 10 * 10 := (Nat.div_mul_cancel (Nat.dvd_of_mod_eq_zero h.2)).symm
      rw [ih, toRat, toRat, zpow_add₀ (by norm_num), zpow_one]
      conv_rhs => rw [hten]
      push_cast
      ring
    · rfl

/-- Where a value has a fractional part, the search has grids enough to come to the whole numbers. -/
theorem ceiling_le {v : Value} (hv : v.mantissa < 2 ^ 53) (h : v.isWhole = false) : ceiling (Bounds.around v) ≤ 20 := by
  rw [ceiling]
  have hvalue : (Bounds.around v).value / (Bounds.around v).denominator < 10 ^ 20 := by
    have hexp := Value.exponent_neg h
    refine (Nat.div_le_self _ _).trans_lt ?_
    simp only [Bounds.around, show (v.exponent - 2).toNat = 0 by omega]
    show 4 * v.mantissa * 1 < 10 ^ 20
    omega
  have hwidth : width ((Bounds.around v).value / (Bounds.around v).denominator) ≤ 20 :=
    (Nat.length_toDigits_le_iff (by decide) (by decide)).mpr hvalue
  split
  · omega
  · omega

/-- **The shortest decimal keeps the whole part** of a double that is not whole. -/
theorem floor_decimal {v : Value} (hv : v.mantissa < 2 ^ 53) (h : v.isWhole = false) :
    ⌊toRat (decimal v)⌋ = v.magnitude := by
  rw [Int.floor_eq_iff, decimal, toRat_trim]
  exact toRat_search_mem_Ico (Bounds.around_between h) (ceiling_le hv h)

end Shortest

end MediaWatch
