import MediaWatch.Proofs.Decimal.Denotation
import MediaWatch.Proofs.Shelf.Mapping

/-!
# The two numbers of a book

A book has a number and a text that shows it. Where the metadata of a medium give a number, the text stands for a number
with the same whole part (`shows_formatNumber`); where there are no metadata, both are the position. But where
metadata give no number, the number is the position and the text is that of zero. The main result,
`Book.number_shown_iff`, says that these are the only books whose numbers do not agree.
-/

namespace MediaWatch.Shelf

open Json

/-! ## Whole parts -/

/-- A number rounded toward zero. -/
def wholePart (q : ℚ) : Int := if q < 0 then ⌈q⌉ else ⌊q⌋

theorem wholePart_int (n : Int) : wholePart n = n := by
  rw [wholePart, Int.ceil_intCast, Int.floor_intCast, ite_self]

theorem wholePart_sign {q : ℚ} (h : 0 ≤ q) (negative : Bool) :
    wholePart (if negative then -q else q) = if negative then -⌊q⌋ else ⌊q⌋ := by
  cases negative with
  | false => exact if_neg h.not_gt
  | true =>
    rw [if_pos rfl, if_pos rfl, wholePart, Int.ceil_neg]
    split <;> rename_i hneg
    · rfl
    · obtain rfl : q = 0 := le_antisymm (by linarith) h
      simp

/-- Whether a text stands for a number with the given whole part. -/
def Shows (text : Text) (n : Int) : Prop := ∃ q, text.string?.bind Numeral.value? = some q ∧ wholePart q = n

theorem shows_toString (n : Int) : Shows (toString n) n := ⟨n, Numeral.value?_int n, wholePart_int n⟩

theorem Shows.unique {text : Text} {n k : Int} (hn : Shows text n) (hk : Shows text k) : n = k := by
  obtain ⟨q, hq, rfl⟩ := hn
  obtain ⟨r, hr, rfl⟩ := hk
  rw [Option.some.inj (hq.symm.trans hr)]

/-- A number is shown by a text that stands for a number with the same whole part. -/
theorem shows_formatNumber {x : Float} {v : Binary.Value} (h : Binary.ofFloat x = .finite v) :
    Shows (formatNumber x) v.whole := by
  have hformat : formatNumber x = if v.isWhole then .plain (toString v.whole) else .plain (Notation.finite v) := by
    rw [formatNumber, h]
  rw [hformat]
  cases hwhole : v.isWhole with
  | true => exact shows_toString v.whole
  | false =>
    have hmantissa : v.mantissa ≠ 0 := by
      intro hzero
      rw [Binary.Value.isWhole, Binary.Value.numerator, hzero, Nat.zero_mul, Nat.zero_mod] at hwhole
      cases hwhole
    have hfloor := Shortest.floor_decimal (Binary.mantissa_lt_of_ofFloat h) hwhole
    have hsign := wholePart_sign (Shortest.toRat_nonneg (Shortest.decimal v)) v.negative
    rw [hfloor] at hsign
    exact ⟨_, Numeral.value?_finite hmantissa, hsign⟩

/-! ## The numbers of books -/

theorem Book.number_of_ofServer {m : Server.Medium} {b : Book} (h : ofServer m = .ok b) :
    bookNumber m = .ok b.number := by
  rw [ofServer, bind_eq_ok_iff] at h
  obtain ⟨number, hnumber, h⟩ := h
  rw [hnumber]
  cases hm : m.metadata <;>
  · simp only [hm, bind_eq_ok_iff] at h
    obtain ⟨metadata, -, h⟩ := h
    obtain rfl := Except.ok.inj h
    rfl

/-- With metadata, the number shown is that of the metadata, or zero. -/
theorem BookMetadata.number_of_ofServer {metadata : Server.MediumMetadata} {shown : BookMetadata}
    (h : ofServer metadata = .ok shown) : shown.number = (metadata.number.map formatNumber).getD (.plain "0") := by
  obtain ⟨date, -, rfl⟩ := map_eq_ok_iff.mp h
  rfl

/-- Without metadata, the number shown is the position, or zero. -/
theorem BookMetadata.number_of_default {m : Server.Medium} {shown : BookMetadata} (h : default m = .ok shown) :
    shown.number = (m.seriesPosition.map fun n => Text.plain (toString n)).getD (.plain "0") := by
  obtain ⟨position, hposition, rfl⟩ := map_eq_ok_iff.mp h
  cases hp : m.seriesPosition with
  | none =>
    rw [hp] at hposition
    exact (Except.ok.inj hposition).symm
  | some p =>
    rw [hp, Option.map_some, Option.getD_some, positionText] at hposition
    split at hposition
    · cases hposition
    · exact (Except.ok.inj hposition).symm

section Cases

variable {m : Server.Medium} {b : Book}

/-- Without metadata, the text is that of the number. -/
theorem Book.number_of_no_metadata (h : ofServer m = .ok b) (hm : m.metadata = none) :
    b.metadata.number = (b.number.map fun n => Text.plain (toString n)).getD (.plain "0") := by
  have hnumber := number_of_ofServer h
  have hshown := metadata_of_ofServer h
  simp only [bookNumber, bookMetadata, hm, Option.bind_none, Except.ok.injEq] at hnumber hshown
  rw [← hnumber, BookMetadata.number_of_default hshown]

/-- A number that metadata give is shown. -/
theorem Book.number_of_numbered {metadata : Server.MediumMetadata} {x : Float} (h : ofServer m = .ok b)
    (hm : m.metadata = some metadata) (hx : metadata.number = some x) :
    ∃ n, b.number = some n ∧ Shows b.metadata.number n := by
  have hnumber := number_of_ofServer h
  have hshown := metadata_of_ofServer h
  simp only [bookNumber, bookMetadata, hm, Option.bind_some, hx] at hnumber hshown
  obtain ⟨n, hwhole, hn⟩ := map_eq_ok_iff.mp hnumber
  refine ⟨n, hn.symm, ?_⟩
  rw [BookMetadata.number_of_ofServer hshown, hx]
  rw [wholeNumber] at hwhole
  cases hv : Binary.ofFloat x with
  | nan => rw [hv] at hwhole; cases hwhole
  | infinite negative => rw [hv] at hwhole; cases hwhole
  | finite v =>
    rw [hv] at hwhole
    obtain rfl := Except.ok.inj hwhole
    exact shows_formatNumber hv

/-- Where metadata give no number, the number is the position, and zero is shown. -/
theorem Book.number_of_not_numbered {metadata : Server.MediumMetadata} (h : ofServer m = .ok b)
    (hm : m.metadata = some metadata) (hx : metadata.number = none) :
    b.number = m.seriesPosition ∧ b.metadata.number = "0" := by
  have hnumber := number_of_ofServer h
  have hshown := metadata_of_ofServer h
  simp only [bookNumber, bookMetadata, hm, Option.bind_some, hx, Except.ok.injEq] at hnumber hshown
  refine ⟨hnumber.symm, ?_⟩
  rw [BookMetadata.number_of_ofServer hshown, hx]
  rfl

/-- Whether the metadata of a medium give no number where its position is other than zero. -/
def Unnumbered (m : Server.Medium) : Prop :=
  ∃ metadata position, m.metadata = some metadata ∧ metadata.number = none ∧ m.seriesPosition = some position ∧
    position ≠ 0

theorem unnumbered_iff {metadata : Server.MediumMetadata} (hm : m.metadata = some metadata) :
    Unnumbered m ↔ metadata.number = none ∧ ∃ position, m.seriesPosition = some position ∧ position ≠ 0 := by
  simp only [Unnumbered, hm, Option.some.injEq, exists_and_left, exists_eq_left']

/-- **The two numbers of a book.** A book without a number shows zero. A number is shown by a text that stands for a number
with that whole part, unless the metadata give none and the number is a position other than zero: then zero is shown. -/
theorem Book.number_shown_iff (h : ofServer m = .ok b) :
    (b.number = none → b.metadata.number = "0") ∧
    ((∀ n, b.number = some n → Shows b.metadata.number n) ↔ ¬Unnumbered m) ∧
    (Unnumbered m → b.metadata.number = "0") := by
  cases hm : m.metadata with
  | none =>
    have htext := number_of_no_metadata h hm
    have hfine : ¬Unnumbered m := by
      rintro ⟨metadata, -, hsome, -⟩
      rw [hm] at hsome
      cases hsome
    refine ⟨fun hnone => ?_, iff_of_true (fun n hn => ?_) hfine, fun hun => absurd hun hfine⟩
    · rw [htext, hnone]
      rfl
    · rw [htext, hn]
      exact shows_toString n
  | some metadata =>
    rw [unnumbered_iff hm]
    cases hx : metadata.number with
    | some x =>
      obtain ⟨n, hn, hshows⟩ := number_of_numbered h hm hx
      simp only [hn, reduceCtorEq, false_implies, Option.some.injEq, false_and, not_false_eq_true, iff_true, and_true,
        true_and, forall_eq']
      exact hshows
    | none =>
      obtain ⟨hnumber, htext⟩ := number_of_not_numbered h hm hx
      have hzero (n : Int) : Shows "0" n ↔ n = 0 :=
        ⟨fun hn => hn.unique (shows_toString 0), fun hn => hn ▸ shows_toString 0⟩
      simp only [hnumber, htext, hzero, implies_true, true_and, and_true, not_exists, not_and, not_not]

end Cases

/-- A record whose metadata give a number that is negative and not whole. -/
def fractional : Value :=
  .obj [("id", .str "m1"), ("name", .str "Saga 001"), ("path", .str "/comics/Saga/Saga 001.cbz"), ("seriesId", .str "s1"),
    ("seriesPosition", .int 7), ("metadata", .obj [("number", .num (.float (-1.5)))])]

theorem Book.number_shown_iff_of_fractional :
    ∃ m b, Server.Medium.codec.read .lenient fractional = .ok m ∧ ofServer m = .ok b ∧ b.number = some (-1) ∧
      b.metadata.number = "-1.5" ∧ Shows b.metadata.number (-1) := by
  obtain ⟨m, b, x, hm, hx, hb, hnumber, htext⟩ :
      ∃ m b x, Server.Medium.codec.read .lenient fractional = .ok m ∧ m.metadata.bind (·.number) = some x ∧
        ofServer m = .ok b ∧ b.number = some (-1) ∧ b.metadata.number = "-1.5" := by
    with_unfolding_all exact ⟨_, _, _, rfl, rfl, rfl, rfl, rfl⟩
  have hfine : ¬Unnumbered m := by
    rintro ⟨metadata, -, hsome, hnone, -⟩
    rw [hsome, Option.bind_some, hnone] at hx
    cases hx
  exact ⟨m, b, hm, hb, hnumber, htext, (number_shown_iff hb).2.1.mpr hfine (-1) hnumber⟩

/-- A record with a position whose metadata give no number. -/
def untold : Value :=
  .obj [("id", .str "m1"), ("name", .str "Saga 004"), ("path", .str "/comics/Saga/Saga 004.cbz"), ("seriesId", .str "s1"),
    ("seriesPosition", .int 4), ("metadata", .obj [("title", .str "Chapter Four")])]

/-- Its book has the number 4 and shows another one. -/
theorem Book.number_hidden_of_untold :
    ∃ m b, Server.Medium.codec.read .lenient untold = .ok m ∧ ofServer m = .ok b ∧ b.number = some 4 ∧
      ¬Shows b.metadata.number 4 := by
  refine ⟨_, _, rfl, rfl, rfl, fun h => ?_⟩
  have hzero : (4 : Int) = 0 := h.unique (shows_toString 0)
  cases hzero

end MediaWatch.Shelf
