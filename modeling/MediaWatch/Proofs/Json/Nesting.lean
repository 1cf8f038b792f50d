import MediaWatch.Json.Reader

/-!
# Room for nesting

What a text is read as does not depend on how much room there is for it, as long as it is enough (`parse_of_le`). So a
text means a value (`Reads`) or none, whoever reads it, and readers differ in the texts that fit (`Fits`): reading gives
the values that fitting texts mean, and nothing else (`parse_eq_ok_iff`). A text that is shorter than there is room fits
(`fits_of_length_lt`).
-/

namespace MediaWatch.Json.Reader

variable {α β : Type} {room room' : Nat} {text : Text} {v w : Value}

/-- Reading has not failed for lack of room. -/
def Settled (x : Except Fault α) : Prop := ∀ object, x ≠ .error (.tooDeep object)

namespace Settled

theorem ok (a : α) : Settled (.ok a) := fun _ h => nomatch h

theorem malformed : Settled (.error .malformed : Except Fault α) := fun _ h => nomatch h

theorem bind {x : Except Fault α} {f : α → Except Fault β} (h : Settled x) (hf : ∀ a, Settled (f a)) :
    Settled (x >>= f) := by
  cases x with
  | error e => exact fun object he => h object (congrArg Except.error (Except.error.inj he))
  | ok a => exact hf a

theorem map {x : Except Fault α} {f : α → β} (h : Settled x) : Settled (x.map f) := by
  cases x with
  | error e => exact fun object he => h object (congrArg Except.error (Except.error.inj he))
  | ok a => exact ok (f a)

end Settled

/-- The second reading comes to what the first one does, unless that has failed for lack of room. -/
def Agrees (x y : Except Fault α) : Prop := Settled x → y = x

namespace Agrees

theorem refl (x : Except Fault α) : Agrees x x := fun _ => rfl

theorem of_tooDeep {object : Bool} {y : Except Fault α} : Agrees (.error (.tooDeep object)) y :=
  fun h => absurd rfl (h object)

theorem bind {x y : Except Fault α} {f g : α → Except Fault β} (h : Agrees x y) (hf : ∀ a, Agrees (f a) (g a)) :
    Agrees (x >>= f) (y >>= g) := by
  intro hx
  cases x with
  | error e =>
    rw [h fun object he => hx object (congrArg Except.error (Except.error.inj he))]
    rfl
  | ok a =>
    rw [h (.ok a)]
    exact hf a hx

end Agrees

/-! ## More room -/

/-- More room changes nothing that the readers of values did without failing for lack of it. -/
structure Steady (fuel : Nat) : Prop where
  value {room room' : Nat} (h : room ≤ room') (ps : List Point) : Agrees (value fuel room ps) (value fuel room' ps)
  elements {room room' : Nat} (h : room ≤ room') (read : List Value) (ps : List Point) :
    Agrees (elements fuel room read ps) (elements fuel room' read ps)
  members {room room' : Nat} (h : room ≤ room') (read : Members) (ps : List Point) :
    Agrees (members fuel room read ps) (members fuel room' read ps)

/-- The induction is on the fuel, which the three readers share. Only the brackets of a value take room. -/
theorem steady (fuel : Nat) : Steady fuel := by
  induction fuel with
  | zero => exact ⟨fun _ _ => .refl _, fun _ _ _ => .refl _, fun _ _ _ => .refl _⟩
  | succ fuel ih =>
    refine ⟨fun {room room'} h ps => ?_, fun h read ps => ?_, fun h read ps => ?_⟩
    · unfold Reader.value
      split
      case h_2 =>
        obtain _ | room := room
        · exact .of_tooDeep
        · obtain ⟨room', rfl⟩ := Nat.exists_eq_add_of_lt (Nat.lt_of_succ_le h)
          dsimp only
          split
          · exact .refl _
          · exact ih.members (by omega) _ _
      case h_3 =>
        obtain _ | room := room
        · exact .of_tooDeep
        · obtain ⟨room', rfl⟩ := Nat.exists_eq_add_of_lt (Nat.lt_of_succ_le h)
          dsimp only
          split
          · exact .refl _
          · exact ih.elements (by omega) _ _
      all_goals exact .refl _
    · unfold Reader.elements
      refine (ih.value h ps).bind fun (v, rest) => ?_
      dsimp only
      split
      · exact ih.elements h _ _
      · exact .refl _
      · exact .refl _
    · unfold Reader.members
      split
      · refine (Agrees.refl _).bind fun (name, rest) => ?_
        dsimp only
        split
        · refine (ih.value h _).bind fun (v, rest) => ?_
          dsimp only
          split
          · exact ih.members h _ _
          · exact .refl _
          · exact .refl _
        · exact .refl _
      · exact .refl _

/-! ## Room enough -/

theorem settled_expect (word : String) (v : Value) (ps : List Point) : Settled (expect word v ps) := by
  unfold expect
  split
  · exact .ok _
  · exact .malformed

theorem settled_numeral (cs : List Char) : Settled (numeral cs) := by
  unfold numeral
  extract_lets negative cs whole rest fraction rest power
  clear_value whole fraction power
  split
  · exact .malformed
  · split
    · split
      · exact fun _ h => nomatch h
      · exact .ok _
    · exact .ok _

theorem settled_stringPoints (fuel : Nat) (read ps : List Point) : Settled (stringPoints fuel read ps) := by
  fun_induction stringPoints fuel read ps <;> first | assumption | exact .ok _ | exact .malformed

theorem settled_string (ps : List Point) : Settled (string ps) := (settled_stringPoints _ _ _).map

/-- The readers of values have room enough when it is as much as their fuel. -/
structure Ample (fuel : Nat) : Prop where
  value {room : Nat} (h : fuel ≤ room) (ps : List Point) : Settled (value fuel room ps)
  elements {room : Nat} (h : fuel ≤ room) (read : List Value) (ps : List Point) : Settled (elements fuel room read ps)
  members {room : Nat} (h : fuel ≤ room) (read : Members) (ps : List Point) : Settled (members fuel room read ps)

/-- Each bracket takes one step of fuel at least, so the room outlasts the fuel. -/
theorem ample (fuel : Nat) : Ample fuel := by
  induction fuel with
  | zero => exact ⟨fun _ _ => .malformed, fun _ _ _ => .malformed, fun _ _ _ => .malformed⟩
  | succ fuel ih =>
    refine ⟨fun {room} h ps => ?_, fun {room} h read ps => ?_, fun {room} h read ps => ?_⟩ <;>
      obtain ⟨room, rfl⟩ := Nat.exists_eq_add_of_lt (Nat.lt_of_succ_le h)
    · unfold Reader.value
      split
      case h_1 => exact (settled_string _).map
      case h_2 =>
        dsimp only
        split
        · exact .ok _
        · exact ih.members (by omega) _ _
      case h_3 =>
        dsimp only
        split
        · exact .ok _
        · exact ih.elements (by omega) _ _
      case h_10 => exact (settled_numeral _).map
      all_goals exact settled_expect _ _ _
    · unfold Reader.elements
      refine (ih.value (by omega) ps).bind fun (v, rest) => ?_
      dsimp only
      split
      · exact ih.elements (by omega) _ _
      · exact .ok _
      · exact .malformed
    · unfold Reader.members
      split
      · refine (settled_string _).bind fun (name, rest) => ?_
        dsimp only
        split
        · refine (ih.value (by omega) _).bind fun (v, rest) => ?_
          dsimp only
          split
          · exact ih.members (by omega) _ _
          · exact .ok _
          · exact .malformed
        · exact .malformed
      · exact .malformed

/-! ## Texts -/

/-- There is room for a text: reading it, whatever comes of it, does not fail for lack of room. -/
def Fits (room : Nat) (text : Text) : Prop := Settled (parse room text)

/-- A text is JSON for a value, however much room reading it may take. -/
def Reads (text : Text) (v : Value) : Prop := ∃ room, parse room text = .ok v

theorem fits_of_parse (h : parse room text = .ok v) : Fits room text := fun _ he => nomatch h.symm.trans he

/-- A text that fits is read as it is with more room. -/
theorem parse_of_le (hle : room ≤ room') (hfits : Fits room text) : parse room' text = parse room text := by
  have hagree : Agrees (parse room text) (parse room' text) := by
    unfold parse
    dsimp only
    split
    · exact .refl _
    · exact ((steady _).value hle _).bind fun _ => .refl _
  exact hagree hfits

/-- A text means one value at most. -/
theorem Reads.unique (hv : Reads text v) (hw : Reads text w) : v = w := by
  obtain ⟨room, hv⟩ := hv
  obtain ⟨room', hw⟩ := hw
  rcases Nat.le_total room room' with hle | hle
  · exact Except.ok.inj (hv.symm.trans ((parse_of_le hle (fits_of_parse hv)).symm.trans hw))
  · exact Except.ok.inj (hv.symm.trans ((parse_of_le hle (fits_of_parse hw)).trans hw))

/-- Reading gives the values of the texts that fit. -/
theorem parse_eq_ok_iff : parse room text = .ok v ↔ Fits room text ∧ Reads text v := by
  constructor
  · exact fun h => ⟨fits_of_parse h, room, h⟩
  · rintro ⟨hfits, room', h⟩
    rcases Nat.le_total room room' with hle | hle
    · rw [← parse_of_le hle hfits, h]
    · rw [parse_of_le hle (fits_of_parse h), h]

/-- A text cannot nest deeper than it is long. -/
theorem fits_of_length_lt (h : text.points.length < room) : Fits room text := by
  unfold Fits parse
  dsimp only
  split
  · exact .malformed
  · refine ((ample _).value h _).bind fun (v, rest) => ?_
    dsimp only
    split
    · exact .ok _
    · exact .malformed

example : Fits 2 "[[]]" ∧ ¬Fits 1 "[[]]" ∧ ¬Fits 1 "[[" :=
  ⟨fits_of_parse rfl, fun h => h false rfl, fun h => h false rfl⟩

end MediaWatch.Json.Reader
