import MediaWatch.Proofs.Decimal.Bounds
import MediaWatch.Text.Numeral

/-!
# What decimal texts stand for

`Numeral.value?` reads a decimal literal as the rational number that it stands for, with nothing rounded. It reads back what
is written: whole numbers (`Numeral.value?_int`) and, for a double, its shortest decimal (`Numeral.value?_finite`), whether
in positional or in exponent notation.
-/

namespace MediaWatch

namespace Numeral

/-- The number that digits stand for, with a point among them or before or after them. -/
def mantissa? (cs : List Char) : Option ℚ :=
  let whole := cs.takeWhile (· ≠ '.')
  let fraction := cs.drop (whole.length + 1)
  (digits? (whole ++ fraction)).map fun n => Shortest.toRat (n, -fraction.length)

/-- The power of ten at the end of a literal: none, or an exponent after its letter. -/
def power? : List Char → Option Int
  | [] => some 0
  | _ :: rest => exponent? rest

/-- The number that an unsigned decimal literal stands for. -/
def unsignedValue? (cs : List Char) : Option ℚ :=
  let mantissa := cs.takeWhile (· ≠ 'e')
  (mantissa? mantissa).bind fun q => (power? (cs.drop mantissa.length)).map fun power => q * 10 ^ power

/-- The number that a decimal literal stands for, exactly. -/
def value? (s : String) : Option ℚ :=
  let (negative, rest) := splitSign s.toList
  (unsignedValue? rest).map fun q => if negative then -q else q

/-! ## Digits -/

/-- Whether all characters are decimal digits. -/
def IsDigits (cs : List Char) : Prop := ∀ c ∈ cs, c.isDigit = true

theorem isDigits_toDigits (n : Nat) : IsDigits (Nat.toDigits 10 n) :=
  fun _ hc => Nat.isDigit_of_mem_toDigits (by decide) (by decide) hc

theorem isDigits_zeros (n : Nat) : IsDigits (List.replicate n '0') := by
  intro c hc
  obtain rfl := List.eq_of_mem_replicate hc
  decide

theorem IsDigits.append {cs ds : List Char} (hc : IsDigits cs) (hd : IsDigits ds) : IsDigits (cs ++ ds) :=
  List.forall_mem_append.mpr ⟨hc, hd⟩

theorem IsDigits.ne {cs : List Char} (h : IsDigits cs) {mark : Char} (hmark : mark.isDigit = false) :
    ∀ c ∈ cs, c ≠ mark := by
  rintro c hc rfl
  rw [h c hc] at hmark
  cases hmark

theorem digitsFrom_eq {cs : List Char} (h : IsDigits cs) (value : Nat) :
    digitsFrom value cs = some (Nat.ofDigitChars 10 cs value) := by
  induction cs generalizing value with
  | nil => rfl
  | cons c cs ih =>
    obtain ⟨hc, hcs⟩ := List.forall_mem_cons.mp h
    rw [digitsFrom, if_pos hc, ih hcs, Nat.ofDigitChars_cons]
    rfl

theorem digits?_eq {cs : List Char} (h : IsDigits cs) (hne : cs ≠ []) :
    digits? cs = some (Nat.ofDigitChars 10 cs 0) := by
  cases cs with
  | nil => exact absurd rfl hne
  | cons c cs => exact digitsFrom_eq h 0

theorem ofDigitChars_zeros (n value : Nat) : Nat.ofDigitChars 10 (List.replicate n '0') value = value * 10 ^ n := by
  induction n generalizing value with
  | zero => exact (Nat.mul_one value).symm
  | succ n ih =>
    rw [List.replicate_succ, Nat.ofDigitChars_cons, ih, pow_succ]
    simp only [Nat.sub_self, Nat.add_zero]
    ring

/-! ## Literals -/

/-- Digits without a point. -/
theorem mantissa?_whole {ws : List Char} (hw : IsDigits ws) (hne : ws ≠ []) :
    mantissa? ws = some (Shortest.toRat (Nat.ofDigitChars 10 ws 0, 0)) := by
  have htake : ws.takeWhile (· ≠ '.') = ws := List.takeWhile_eq_self_iff.mpr (by simpa using hw.ne rfl)
  have hdrop : ws.drop (ws.length + 1) = [] := List.drop_eq_nil_of_le (Nat.le_succ _)
  simp only [mantissa?, htake, hdrop, List.append_nil, digits?_eq hw hne]
  rfl

/-- Digits with a point. -/
theorem mantissa?_point {ws fs : List Char} (hw : IsDigits ws) (hf : IsDigits fs) (hne : ws ≠ []) :
    mantissa? (ws ++ '.' :: fs) = some (Shortest.toRat (Nat.ofDigitChars 10 (ws ++ fs) 0, -fs.length)) := by
  have htake : (ws ++ '.' :: fs).takeWhile (· ≠ '.') = ws := by
    rw [List.takeWhile_append_of_pos (by simpa using hw.ne rfl)]
    simp
  have hdrop : (ws ++ '.' :: fs).drop (ws.length + 1) = fs := by simp
  simp only [mantissa?, htake, hdrop, digits?_eq (hw.append hf) (List.append_ne_nil_of_left_ne_nil hne fs)]
  rfl

theorem unsignedValue?_of_mantissa {cs : List Char} {q : ℚ} (hcs : ∀ c ∈ cs, c ≠ 'e') (h : mantissa? cs = some q) :
    unsignedValue? cs = some q := by
  have htake : cs.takeWhile (· ≠ 'e') = cs := List.takeWhile_eq_self_iff.mpr (by simpa using hcs)
  simp only [unsignedValue?, htake, h, List.drop_length, Option.bind_some, power?, Option.map_some, zpow_zero, mul_one]

theorem unsignedValue?_of_exponent {cs rest : List Char} {q : ℚ} {power : Int} (hcs : ∀ c ∈ cs, c ≠ 'e')
    (h : mantissa? cs = some q) (hpower : exponent? rest = some power) :
    unsignedValue? (cs ++ 'e' :: rest) = some (q * 10 ^ power) := by
  have htake : (cs ++ 'e' :: rest).takeWhile (· ≠ 'e') = cs := by
    rw [List.takeWhile_append_of_pos (by simpa using hcs)]
    simp
  simp only [unsignedValue?, htake, h, List.drop_left, Option.bind_some, power?, hpower, Option.map_some]

/-! ## What is written -/

theorem toList_zeros (n : Nat) : (Notation.zeros n).toList = List.replicate n '0' := by
  rw [Notation.zeros, String.toList_ofList]

theorem toList_toString (n : Nat) : (toString n).toList = Nat.toDigits 10 n := by
  rw [Nat.toString_eq_repr, Nat.toList_repr]

theorem IsDigits.of_append {ws fs : List Char} (h : IsDigits (ws ++ fs)) : IsDigits ws ∧ IsDigits fs :=
  List.forall_mem_append.mp h

/-- Digits with a point stand for all of them, divided by a power of ten. -/
theorem unsignedValue?_point {ws fs : List Char} (h : IsDigits (ws ++ fs)) (hne : ws ≠ []) :
    unsignedValue? (ws ++ '.' :: fs) = some (Shortest.toRat (Nat.ofDigitChars 10 (ws ++ fs) 0, -fs.length)) := by
  obtain ⟨hw, hf⟩ := h.of_append
  refine unsignedValue?_of_mantissa ?_ (mantissa?_point hw hf hne)
  simp only [List.forall_mem_append, List.forall_mem_cons]
  exact ⟨hw.ne rfl, by decide, hf.ne rfl⟩

/-- Digits with a point before the last few of them. -/
theorem unsignedValue?_split {cs : List Char} {places : Nat} (h : IsDigits cs) (hplaces : places < cs.length) :
    unsignedValue? (cs.take (cs.length - places) ++ '.' :: cs.drop (cs.length - places)) =
      some (Shortest.toRat (Nat.ofDigitChars 10 cs 0, -places)) := by
  have hlength : (cs.drop (cs.length - places)).length = places := by
    rw [List.length_drop]
    omega
  have hne : cs.take (cs.length - places) ≠ [] := by
    rw [← List.length_pos_iff, List.length_take]
    omega
  rw [unsignedValue?_point (by rwa [List.take_append_drop]) hne, List.take_append_drop, hlength]

/-- Leading zeros do not count. -/
theorem ofDigitChars_padded (k n : Nat) : Nat.ofDigitChars 10 (List.replicate k '0' ++ Nat.toDigits 10 n) 0 = n := by
  rw [Nat.ofDigitChars_append, ofDigitChars_zeros, Nat.zero_mul, Nat.ofDigitChars_ten_toDigits]

theorem isDigits_padded (k n : Nat) : IsDigits (List.replicate k '0' ++ Nat.toDigits 10 n) :=
  (isDigits_zeros k).append (isDigits_toDigits n)

/-- Digits that are filled up with zeros. -/
theorem unsignedValue?_filled (digits zeros : Nat) :
    unsignedValue? (toString digits ++ Notation.zeros zeros ++ ".0").toList = some (Shortest.toRat (digits, zeros)) := by
  let ws := Nat.toDigits 10 digits ++ List.replicate zeros '0'
  have hall : IsDigits (ws ++ ['0']) :=
    ((isDigits_toDigits digits).append (isDigits_zeros _)).append (isDigits_zeros 1)
  have hne : ws ≠ [] := List.append_ne_nil_of_left_ne_nil Nat.toDigits_ne_nil _
  have htext : (toString digits ++ Notation.zeros zeros ++ ".0").toList = ws ++ '.' :: ['0'] := by
    simp only [String.toList_append, toList_toString, toList_zeros]
    rfl
  have hvalue : Nat.ofDigitChars 10 (ws ++ ['0']) 0 = digits * 10 ^ (zeros + 1) := by
    rw [List.append_assoc, Nat.ofDigitChars_append, Nat.ofDigitChars_ten_toDigits, ← List.replicate_succ',
      ofDigitChars_zeros]
  rw [htext, unsignedValue?_point hall hne, hvalue, Shortest.toRat, Shortest.toRat, List.length_singleton]
  push_cast [← zpow_natCast (10 : ℚ)]
  rw [mul_assoc, ← zpow_add₀ (by norm_num), add_neg_cancel_right]

/-- Digits with zeros in front of them, enough to put a point before the last few. -/
theorem unsignedValue?_padded (digits places zeros : Nat)
    (hzeros : places < zeros + (Nat.toDigits 10 digits).length) :
    let cs := List.replicate zeros '0' ++ Nat.toDigits 10 digits
    unsignedValue? (cs.take (cs.length - places) ++ '.' :: cs.drop (cs.length - places)) =
      some (Shortest.toRat (digits, -places)) := by
  intro cs
  have hlength : places < cs.length := by
    rwa [List.length_append, List.length_replicate]
  have hread := unsignedValue?_split (isDigits_padded zeros digits) hlength
  rwa [ofDigitChars_padded] at hread

/-- Positional notation can be read. -/
theorem unsignedValue?_positional (digits : Nat) (power : Int) :
    unsignedValue? (Notation.positional digits power).toList = some (Shortest.toRat (digits, power)) := by
  rw [Notation.positional]
  split <;> rename_i hpower
  · obtain ⟨zeros, rfl⟩ : ∃ zeros : Nat, power = zeros := ⟨power.toNat, by omega⟩
    exact unsignedValue?_filled digits zeros
  · obtain ⟨places, rfl⟩ : ∃ places : Nat, power = -places := ⟨(-power).toNat, by omega⟩
    have hplaces : (- -(places : Int)).toNat = places := by omega
    have htext : (Notation.zeros (places + 1 - (toString digits).length) ++ toString digits).toList =
        List.replicate (places + 1 - (toString digits).length) '0' ++ Nat.toDigits 10 digits := by
      rw [String.toList_append, toList_zeros, toList_toString]
    have hdigits : (toString digits).length = (Nat.toDigits 10 digits).length := by
      rw [← String.length_toList, toList_toString]
    have hread := unsignedValue?_padded digits places (places + 1 - (toString digits).length) (by omega)
    rw [← hread]
    simp only [hplaces, htext, String.toList_append, String.toList_ofList, List.append_assoc]
    rfl

theorem exponent?_minus {cs : List Char} {n : Nat} (h : digits? cs = some n) :
    exponent? ('-' :: cs) = some (-(n : Int)) := by
  simp [exponent?, splitSign, h]

theorem exponent?_plus {cs : List Char} {n : Nat} (h : digits? cs = some n) :
    exponent? ('+' :: cs) = some (n : Int) := by
  simp [exponent?, splitSign, h]

/-- A written exponent can be read. -/
theorem exponent?_written (exponent : Int) :
    exponent? ((if exponent < 0 then "-" else "+") ++ Notation.zeros (2 - (toString exponent.natAbs).length) ++
      toString exponent.natAbs).toList = some exponent := by
  have hcs : digits? (List.replicate (2 - (toString exponent.natAbs).length) '0' ++ Nat.toDigits 10 exponent.natAbs) =
      some exponent.natAbs := by
    rw [digits?_eq (isDigits_padded _ _) (List.append_ne_nil_of_right_ne_nil _ Nat.toDigits_ne_nil), ofDigitChars_padded]
  have hminus : "-".toList = ['-'] := rfl
  have hplus : "+".toList = ['+'] := rfl
  simp only [String.toList_append, toList_zeros, toList_toString, List.append_assoc]
  split <;> rename_i hsign
  · rw [hminus, List.singleton_append, exponent?_minus hcs, Option.some.injEq]
    omega
  · rw [hplus, List.singleton_append, exponent?_plus hcs, Option.some.injEq]
    omega

/-- The mantissa of exponent notation. -/
theorem mantissa?_scientific {d : Char} {ds : List Char} (h : IsDigits (d :: ds)) :
    mantissa? (d :: if ds.length = 0 then [] else '.' :: ds) =
      some (Shortest.toRat (Nat.ofDigitChars 10 (d :: ds) 0, -ds.length)) := by
  cases ds with
  | nil => exact mantissa?_whole h (List.cons_ne_nil _ _)
  | cons d' ds =>
    obtain ⟨hd, hds⟩ : IsDigits [d] ∧ IsDigits (d' :: ds) := IsDigits.of_append h
    have hpoint := mantissa?_point hd hds (List.cons_ne_nil _ _)
    exact hpoint

theorem ne_e_of_mem_scientific {d : Char} {ds : List Char} (h : IsDigits (d :: ds)) :
    ∀ c ∈ d :: (if ds.length = 0 then [] else '.' :: ds), c ≠ 'e' := by
  obtain ⟨hd, hds⟩ : IsDigits [d] ∧ IsDigits _ := IsDigits.of_append h
  refine List.forall_mem_cons.mpr ⟨hd.ne rfl d (List.mem_singleton_self d), ?_⟩
  split
  · exact List.forall_mem_nil _
  · exact List.forall_mem_cons.mpr ⟨by decide, hds.ne rfl⟩

/-- Exponent notation can be read. -/
theorem unsignedValue?_scientific (digits : Nat) (power : Int) :
    unsignedValue? (Notation.scientific digits power).toList = some (Shortest.toRat (digits, power)) := by
  obtain ⟨d, ds, hcs⟩ := List.exists_cons_of_ne_nil (Nat.toDigits_ne_nil (n := digits) (b := 10))
  have hdigits : IsDigits (d :: ds) := hcs ▸ isDigits_toDigits digits
  have hvalue : Nat.ofDigitChars 10 (d :: ds) 0 = digits := hcs ▸ Nat.ofDigitChars_ten_toDigits
  have hexponent := exponent?_written (power + ((d :: ds).length : Int) - 1)
  have hread := unsignedValue?_of_exponent (ne_e_of_mem_scientific hdigits) (mantissa?_scientific hdigits) hexponent
  have hpower : -(ds.length : Int) + (power + ((d :: ds).length : Int) - 1) = power := by
    rw [List.length_cons]
    omega
  rw [hvalue, Shortest.toRat, mul_assoc, ← zpow_add₀ (by norm_num), hpower] at hread
  rw [Shortest.toRat, ← hread, Notation.scientific]
  have he : "e".toList = ['e'] := rfl
  have hpoint : (if ds.length + 1 ≤ 1 then "" else ".").toList ++ ds = if ds.length = 0 then [] else '.' :: ds := by
    cases ds with
    | nil => rfl
    | cons d' ds => rw [if_neg (by simp), if_neg (by simp)]; rfl
  simp only [toList_toString, hcs, String.toList_append, String.toList_ofList, List.length_cons, List.take_succ_cons,
    List.take_zero, List.drop_succ_cons, List.drop_zero, he, List.append_assoc, List.cons_append, List.nil_append, ← hpoint]

/-! ## Signs -/

theorem unsignedValue?_of_not_isDigit {c : Char} {cs : List Char} (hc : c.isDigit = false) (he : c ≠ 'e') (hpoint : c ≠ '.') :
    unsignedValue? (c :: cs) = none := by
  have htake : (c :: cs).takeWhile (· ≠ 'e') = c :: cs.takeWhile (· ≠ 'e') := by
    rw [List.takeWhile_cons, if_pos (by simpa using he)]
  have hwhole (rest : List Char) : (c :: rest).takeWhile (· ≠ '.') = c :: rest.takeWhile (· ≠ '.') := by
    rw [List.takeWhile_cons, if_pos (by simpa using hpoint)]
  simp only [unsignedValue?, htake, mantissa?, hwhole, List.cons_append, digits?, digitsFrom, hc, Bool.false_eq_true,
    if_false, Option.map_none, Option.bind_none]

/-- An unsigned literal has no sign. -/
theorem splitSign_of_unsignedValue? {cs : List Char} {q : ℚ} (h : unsignedValue? cs = some q) :
    splitSign cs = (false, cs) := by
  unfold splitSign
  split
  · rw [unsignedValue?_of_not_isDigit (by decide) (by decide) (by decide)] at h
    cases h
  · rw [unsignedValue?_of_not_isDigit (by decide) (by decide) (by decide)] at h
    cases h
  · rfl

/-- A sign in front of an unsigned literal. -/
theorem value?_sign {s : String} {q : ℚ} (h : unsignedValue? s.toList = some q) (negative : Bool) :
    value? (Notation.sign negative ++ s) = some (if negative then -q else q) := by
  cases negative with
  | false =>
    have htext : (Notation.sign false ++ s).toList = s.toList := by
      rw [String.toList_append]
      rfl
    simp only [value?, htext, splitSign_of_unsignedValue? h, h, Option.map_some]
  | true =>
    have htext : (Notation.sign true ++ s).toList = '-' :: s.toList := by
      rw [String.toList_append]
      rfl
    simp only [value?, htext, splitSign, h, Option.map_some]

/-! ## Whole numbers and doubles -/

theorem unsignedValue?_nat (n : Nat) : unsignedValue? (toString n).toList = some (n : ℚ) := by
  have hdigits := isDigits_toDigits n
  rw [toList_toString, unsignedValue?_of_mantissa (hdigits.ne rfl) (mantissa?_whole hdigits Nat.toDigits_ne_nil),
    Nat.ofDigitChars_ten_toDigits, Shortest.toRat, zpow_zero, mul_one]

/-- The text of a whole number stands for it. -/
theorem value?_int (n : Int) : value? (toString n) = some (n : ℚ) := by
  cases n with
  | ofNat n =>
    have hread := value?_sign (unsignedValue?_nat n) false
    rw [Notation.sign, if_neg Bool.false_ne_true, if_neg Bool.false_ne_true, String.empty_append] at hread
    rw [Int.ofNat_eq_natCast, Int.cast_natCast, ← hread]
    rfl
  | negSucc n =>
    have hread := value?_sign (unsignedValue?_nat (n + 1)) true
    rw [Notation.sign, if_pos rfl, if_pos rfl] at hread
    rw [Int.cast_negSucc, ← hread]
    rfl

/-- The text of a double other than zero stands for its shortest decimal. -/
theorem value?_finite {v : Binary.Value} (h : v.mantissa ≠ 0) :
    value? (Notation.finite v) =
      some (if v.negative then -Shortest.toRat (Shortest.decimal v) else Shortest.toRat (Shortest.decimal v)) := by
  rw [Notation.finite, if_neg h]
  generalize Shortest.decimal v = d
  obtain ⟨digits, power⟩ := d
  refine value?_sign ?_ v.negative
  split
  · exact unsignedValue?_positional _ _
  · exact unsignedValue?_scientific _ _

end Numeral

end MediaWatch
