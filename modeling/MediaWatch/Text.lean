/-!
# Texts

A `Text` is a sequence of code points. Most are strings. A code point may also be half of a surrogate pair, which no
string can hold but which escapes and careless encoders bring into texts all the same; such a text keeps its code points
one by one. Each sequence of code points is one text and no other (`points_ofPoints`, `ofPoints_points`), and texts are
ordered by the numbers of their code points.
-/

namespace MediaWatch

/-- A code point: a character, or half of a surrogate pair. -/
inductive Point where
  | char (c : Char)
  | half (n : Fin 2048)
  deriving Repr, DecidableEq

namespace Point

/-- The number of a code point. -/
def code : Point → Nat
  | char c => c.toNat
  | half n => 0xD800 + n

/-- The code point with a number. -/
def ofCode (n : Nat) : Point :=
  if h : 0xD800 ≤ n ∧ n < 0xE000 then .half ⟨n - 0xD800, by omega⟩ else .char (Char.ofNat n)

def isHalf : Point → Bool
  | char _ => false
  | half _ => true

def char? : Point → Option Char
  | char c => some c
  | half _ => none

theorem code_injective {p q : Point} (h : p.code = q.code) : p = q := by
  have hvalid (c : Char) (n : Fin 2048) : c.toNat ≠ 0xD800 + n := by
    have hc : c.toNat < 0xD800 ∨ 0xDFFF < c.toNat ∧ c.toNat < 0x110000 := c.valid
    omega
  cases p with
  | char c =>
    cases q with
    | char d => exact congrArg char (Char.toNat_inj.mp h)
    | half n => exact absurd h (hvalid c n)
  | half n =>
    cases q with
    | char d => exact absurd h.symm (hvalid d n)
    | half k =>
      have hcode : 0xD800 + n.val = 0xD800 + k.val := h
      exact congrArg half (Fin.ext (by omega))

end Point

/-- A sequence of code points: a string, or one that holds half of a surrogate pair. -/
inductive Text where
  | plain (s : String)
  | garbled (points : List Point) (half : points.any Point.isHalf = true)
  deriving Repr, DecidableEq

namespace Text

instance : Coe String Text := ⟨plain⟩

instance : Inhabited Text := ⟨plain ""⟩

/-- The code points of a text. -/
def points : Text → List Point
  | plain s => s.toList.map .char
  | garbled ps _ => ps

/-- The text with the given code points. -/
def ofPoints (ps : List Point) : Text :=
  if h : ps.any Point.isHalf = true then .garbled ps h else .plain (String.ofList (ps.filterMap Point.char?))

theorem any_isHalf_map_char (cs : List Char) : (cs.map Point.char).any Point.isHalf = false := by
  induction cs with
  | nil => rfl
  | cons c cs ih => exact ih

theorem map_char_filterMap {ps : List Point} (h : ps.any Point.isHalf ≠ true) :
    (ps.filterMap Point.char?).map .char = ps := by
  induction ps with
  | nil => rfl
  | cons p ps ih =>
    cases p with
    | char c => exact congrArg (Point.char c :: ·) (ih h)
    | half n => exact absurd rfl h

@[simp] theorem points_ofPoints (ps : List Point) : (ofPoints ps).points = ps := by
  unfold ofPoints
  split
  · rfl
  · rename_i h
    rw [points, String.toList_ofList, map_char_filterMap h]

@[simp] theorem ofPoints_points (t : Text) : ofPoints t.points = t := by
  cases t with
  | plain s =>
    have hchars : (s.toList.map Point.char).filterMap Point.char? = s.toList := by
      induction s.toList with
      | nil => rfl
      | cons c cs ih => exact congrArg (c :: ·) ih
    rw [points, ofPoints, dif_neg (by rw [any_isHalf_map_char]; exact Bool.false_ne_true), hchars, String.ofList_toList]
  | garbled ps h => exact dif_pos h

theorem points_injective {s t : Text} (h : s.points = t.points) : s = t := by
  rw [← ofPoints_points s, h, ofPoints_points]

/-- The text with the given numbers of code points. -/
def ofCodes (ns : List Nat) : Text := ofPoints (ns.map Point.ofCode)

/-- The string that a text is, if it is one. -/
def string? : Text → Option String
  | plain s => some s
  | garbled .. => none

def isEmpty : Text → Bool
  | plain s => s.isEmpty
  | garbled .. => false

@[simp] theorem isEmpty_iff {t : Text} : t.isEmpty = true ↔ t = "" := by
  cases t with
  | plain s => simp [isEmpty]
  | garbled ps h => simp [isEmpty]

/-- The text with every character replaced. -/
def mapChars (f : Char → List Char) : Text → Text
  | plain s => .plain (String.ofList (s.toList.flatMap f))
  | garbled ps _ => ofPoints (ps.flatMap fun
    | .char c => (f c).map .char
    | p => [p])

/-! ## Joining -/

instance : Append Text where
  append
    | plain s, plain t => .plain (s ++ t)
    | s, t => ofPoints (s.points ++ t.points)

@[simp] theorem plain_append (s t : String) : plain s ++ plain t = plain (s ++ t) := rfl

@[simp] theorem points_append (s t : Text) : (s ++ t).points = s.points ++ t.points := by
  cases s with
  | plain s =>
    cases t with
    | plain t => rw [plain_append, points, String.toList_append, List.map_append, points, points]
    | garbled ps h => exact points_ofPoints _
  | garbled ps h => cases t <;> exact points_ofPoints _

/-- The texts in a row, with another one between them. -/
def intercalate (between : Text) : List Text → Text
  | [] => .plain ""
  | [t] => t
  | t :: rest => t ++ between ++ intercalate between rest

/-! ## Order -/

/-- The numbers of the code points. -/
def codes (t : Text) : List Nat := t.points.map Point.code

theorem codes_injective {s t : Text} (h : s.codes = t.codes) : s = t :=
  points_injective ((List.map_inj_right fun _ _ => Point.code_injective).mp h)

instance : LT Text := ⟨fun s t => s.codes < t.codes⟩

instance : LE Text := ⟨fun s t => ¬ t < s⟩

instance (s t : Text) : Decidable (s < t) := inferInstanceAs (Decidable (s.codes < t.codes))

instance (s t : Text) : Decidable (s ≤ t) := inferInstanceAs (Decidable (¬ t < s))

theorem le_trans {s t u : Text} (h : s ≤ t) (h' : t ≤ u) : s ≤ u := List.le_trans h h'

theorem le_total (s t : Text) : s ≤ t ∨ t ≤ s := List.le_total s.codes t.codes

theorem le_antisymm {s t : Text} (h : s ≤ t) (h' : t ≤ s) : s = t := codes_injective (List.le_antisymm h h')

end Text

end MediaWatch
