import MediaWatch.Proofs.Client.Pace
import MediaWatch.Client.Host

/-!
# Which media make books

A medium makes a book unless its number has no whole part, a part of its date does not fit 32 bits, or its position,
which is shown when there are no metadata, is too long to be written. `Unmappable` tells these cases apart, and
`Book.ofServer_eq_error_iff` says that there are no others. The date of a book is the day that its metadata name, if
they name one (`Book.releaseDate_eq_some_iff`). The books of a series are made one after another, so one medium that
makes none leaves the whole series without books: the main result, `Client.Host.books_readable_iff`.
-/

namespace MediaWatch

open Json Schema

namespace Shelf

/-! ## Outcomes -/

section Outcomes

variable {ε α β : Type}

theorem map_eq_error_iff {x : Except ε α} {f : α → β} {e : ε} : x.map f = .error e ↔ x = .error e := by
  cases x <;> simp [Except.map]

theorem map_eq_ok_iff {x : Except ε α} {f : α → β} {b : β} : x.map f = .ok b ↔ ∃ a, x = .ok a ∧ f a = b := by
  cases x <;> simp [Except.map]

theorem bind_eq_error_iff {x : Except ε α} {f : α → Except ε β} {e : ε} :
    (x >>= f) = .error e ↔ x = .error e ∨ ∃ a, x = .ok a ∧ f a = .error e := by
  cases x <;> simp [bind, Except.bind]

theorem bind_eq_ok_iff {x : Except ε α} {f : α → Except ε β} {b : β} :
    (x >>= f) = .ok b ↔ ∃ a, x = .ok a ∧ f a = .ok b := by
  cases x <;> simp [bind, Except.bind]

/-- Without an error there is a result. -/
theorem exists_ok_iff {x : Except ε α} : (∃ a, x = .ok a) ↔ ∀ e, x ≠ .error e := by
  cases x <;> simp

end Outcomes

/-! ## Numbers and dates -/

theorem wholeNumber_eq_error_iff {x : Float} {fault : MappingFault} :
    wholeNumber x = .error fault ↔ fault = .notANumber ∧ Binary.ofFloat x = .nan ∨
      fault = .infinite ∧ ∃ negative, Binary.ofFloat x = .infinite negative := by
  cases h : Binary.ofFloat x <;> cases fault <;> simp [wholeNumber, h]

theorem fits32_iff {n : Int} : fits32 n = true ↔ -2 ^ 31 ≤ n ∧ n < 2 ^ 31 := by
  rw [fits32, Bool.and_eq_true, decide_eq_true_eq, decide_eq_true_eq]
  omega

/-- Year, month and day. The month and the day are the first ones when they are missing or zero. -/
def dateParts (year : Int) (month day : Option Int) : List Int := [year, datePart month, datePart day]

theorem releaseDate_some (year : Int) (month day : Option Int) :
    releaseDate (some year) month day =
      if ∃ n ∈ dateParts year month day, ¬(-2 ^ 31 ≤ n ∧ n < 2 ^ 31) then .error .dateOverflow
      else .ok (Date.ofParts? year (datePart month) (datePart day)) := by
  have hfits : (fits32 year && fits32 (datePart month) && fits32 (datePart day)) = true ↔
      ¬∃ n ∈ dateParts year month day, ¬(-2 ^ 31 ≤ n ∧ n < 2 ^ 31) := by
    simp only [← fits32_iff, dateParts, not_exists, not_and, not_not, List.forall_mem_cons, List.not_mem_nil,
      false_implies, implies_true, and_true, Bool.and_eq_true, and_assoc]
  rw [releaseDate, ← ite_not (∃ n ∈ dateParts year month day, _)]
  exact if_congr hfits rfl rfl

theorem releaseDate_eq_error_iff {year month day : Option Int} {fault : MappingFault} :
    releaseDate year month day = .error fault ↔
      fault = .dateOverflow ∧ ∃ y, year = some y ∧ ∃ n ∈ dateParts y month day, ¬(-2 ^ 31 ≤ n ∧ n < 2 ^ 31) := by
  cases year with
  | none => simp [releaseDate]
  | some y =>
    rw [releaseDate_some]
    split <;> rename_i h
    · simp only [Except.error.injEq, Option.some.injEq, exists_eq_left', h, and_true, eq_comm]
    · simp only [reduceCtorEq, Option.some.injEq, exists_eq_left', h, and_false]

theorem ofParts?_eq_some_iff {year month day : Int} {d : Date} :
    Date.ofParts? year month day = some d ↔ year = d.year ∧ month = d.month ∧ day = d.day := by
  refine ⟨fun h => ?_, ?_⟩
  · rw [Date.ofParts?] at h
    split at h
    · rename_i hparts
      obtain rfl := Option.some.inj h
      exact ⟨(Int.toNat_of_nonneg hparts.1).symm, (Int.toNat_of_nonneg hparts.2.1).symm,
        (Int.toNat_of_nonneg hparts.2.2.1).symm⟩
    · cases h
  · rintro ⟨rfl, rfl, rfl⟩
    exact Date.ofParts?_self d

/-- A date that is read is the day with the given parts; if there is none, there is no date. -/
theorem releaseDate_eq_some_iff {year month day : Option Int} {date : Option Date}
    (h : releaseDate year month day = .ok date) (d : Date) :
    date = some d ↔ ∃ y, year = some y ∧ dateParts y month day = [(d.year : Int), (d.month : Int), (d.day : Int)] := by
  cases year with
  | none =>
    obtain rfl := Except.ok.inj h
    simp
  | some y =>
    rw [releaseDate_some] at h
    split at h
    · cases h
    · obtain rfl := Except.ok.inj h
      simp only [ofParts?_eq_some_iff, Option.some.injEq, exists_eq_left', dateParts, List.cons.injEq, and_true]

theorem positionText_eq_error_iff {n : Int} {fault : MappingFault} :
    positionText n = .error fault ↔ fault = .tooManyDigits ∧ 10 ^ Conversions.maxDigits ≤ n.natAbs := by
  have hwidth : Conversions.maxDigits < Shortest.width n.natAbs ↔ 10 ^ Conversions.maxDigits ≤ n.natAbs := by
    have hle : Shortest.width n.natAbs ≤ Conversions.maxDigits ↔ n.natAbs < 10 ^ Conversions.maxDigits :=
      Nat.length_toDigits_le_iff (by decide) (by decide)
    rw [← Nat.not_le, hle, Nat.not_lt]
  rw [positionText, ← hwidth]
  split <;> rename_i h
  · simp only [Except.error.injEq, h, and_true, eq_comm]
  · simp only [reduceCtorEq, h, and_false]

/-! ## Media -/

/-- What keeps a medium from being a book, with the fault that is found first. -/
inductive Unmappable (m : Server.Medium) : MappingFault → Prop
  | notANumber {x : Float} (hx : m.metadata.bind (·.number) = some x) (h : Binary.ofFloat x = .nan) :
      Unmappable m .notANumber
  | infinite {x : Float} {negative : Bool} (hx : m.metadata.bind (·.number) = some x)
      (h : Binary.ofFloat x = .infinite negative) : Unmappable m .infinite
  | dateOverflow {metadata : Server.MediumMetadata} {year n : Int} (hm : m.metadata = some metadata)
      (hnumber : ∀ x, metadata.number = some x → ∃ v, Binary.ofFloat x = .finite v) (hyear : metadata.year = some year)
      (hn : n ∈ dateParts year metadata.month metadata.day) (h : ¬(-2 ^ 31 ≤ n ∧ n < 2 ^ 31)) :
      Unmappable m .dateOverflow
  | tooManyDigits {n : Int} (hm : m.metadata = none) (hn : m.seriesPosition = some n)
      (h : 10 ^ Conversions.maxDigits ≤ n.natAbs) : Unmappable m .tooManyDigits

theorem bookNumber_eq_error_iff {m : Server.Medium} {fault : MappingFault} :
    bookNumber m = .error fault ↔ ∃ x, m.metadata.bind (·.number) = some x ∧ wholeNumber x = .error fault := by
  rw [bookNumber]
  cases m.metadata.bind (·.number) <;> simp [map_eq_error_iff]

/-- A number is found unless there is one that has no whole part. -/
theorem exists_bookNumber_iff {m : Server.Medium} :
    (∃ n, bookNumber m = .ok n) ↔
      ∀ x, m.metadata.bind (·.number) = some x → ∃ v, Binary.ofFloat x = .finite v := by
  rw [bookNumber]
  cases m.metadata.bind (·.number) with
  | none => simp
  | some x => cases h : Binary.ofFloat x <;> simp [wholeNumber, h, Except.map]

theorem BookMetadata.ofServer_eq_error_iff {metadata : Server.MediumMetadata} {fault : MappingFault} :
    ofServer metadata = .error fault ↔
      Shelf.releaseDate metadata.year metadata.month metadata.day = .error fault := by
  rw [ofServer, map_eq_error_iff]

theorem BookMetadata.releaseDate_of_ofServer {metadata : Server.MediumMetadata} {shown : BookMetadata}
    (h : ofServer metadata = .ok shown) :
    Shelf.releaseDate metadata.year metadata.month metadata.day = .ok shown.releaseDate := by
  obtain ⟨date, hdate, rfl⟩ := map_eq_ok_iff.mp h
  exact hdate

theorem BookMetadata.default_eq_error_iff {m : Server.Medium} {fault : MappingFault} :
    default m = .error fault ↔ ∃ n, m.seriesPosition = some n ∧ positionText n = .error fault := by
  rw [default, map_eq_error_iff]
  cases m.seriesPosition <;> simp

theorem BookMetadata.releaseDate_of_default {m : Server.Medium} {shown : BookMetadata} (h : default m = .ok shown) :
    shown.releaseDate = none := by
  obtain ⟨position, -, rfl⟩ := map_eq_ok_iff.mp h
  rfl

/-- The metadata of the book of a medium. -/
def bookMetadata (m : Server.Medium) : Except MappingFault BookMetadata :=
  match m.metadata with
  | some metadata => BookMetadata.ofServer metadata
  | none => BookMetadata.default m

/-- The number is looked at first. -/
theorem Book.ofServer_eq_error_iff_or {m : Server.Medium} {fault : MappingFault} :
    ofServer m = .error fault ↔
      bookNumber m = .error fault ∨ (∃ n, bookNumber m = .ok n) ∧ bookMetadata m = .error fault := by
  rw [ofServer, bind_eq_error_iff, bookMetadata]
  cases m.metadata <;>
    simp only [bind_eq_error_iff, pure, Except.pure, reduceCtorEq, and_false, exists_false, or_false, exists_and_right]

/-- The metadata of the book are those of the medium. -/
theorem Book.metadata_of_ofServer {m : Server.Medium} {b : Book} (h : ofServer m = .ok b) :
    bookMetadata m = .ok b.metadata := by
  rw [ofServer, bind_eq_ok_iff] at h
  obtain ⟨number, -, h⟩ := h
  rw [bookMetadata]
  cases hm : m.metadata <;>
  · simp only [hm, bind_eq_ok_iff] at h
    obtain ⟨metadata, hmetadata, h⟩ := h
    obtain rfl := Except.ok.inj h
    exact hmetadata

theorem bookMetadata_eq_error_iff {m : Server.Medium} {fault : MappingFault} :
    bookMetadata m = .error fault ↔
      (∃ metadata, m.metadata = some metadata ∧ releaseDate metadata.year metadata.month metadata.day = .error fault) ∨
      m.metadata = none ∧ ∃ n, m.seriesPosition = some n ∧ positionText n = .error fault := by
  rw [bookMetadata]
  cases m.metadata <;>
    simp [BookMetadata.ofServer_eq_error_iff, BookMetadata.default_eq_error_iff]

/-- A medium makes no book exactly if something keeps it from being one, and the fault is that of the first such thing. -/
theorem Book.ofServer_eq_error_iff {m : Server.Medium} {fault : MappingFault} :
    ofServer m = .error fault ↔ Unmappable m fault := by
  rw [ofServer_eq_error_iff_or, bookNumber_eq_error_iff, exists_bookNumber_iff, bookMetadata_eq_error_iff]
  constructor
  · rintro (⟨x, hx, hwhole⟩ | ⟨hnumber, ⟨metadata, hm, hdate⟩ | ⟨hm, n, hn, htext⟩⟩)
    · obtain ⟨rfl, h⟩ | ⟨rfl, negative, h⟩ := wholeNumber_eq_error_iff.mp hwhole
      · exact .notANumber hx h
      · exact .infinite hx h
    · obtain ⟨rfl, year, hyear, n, hn, h⟩ := releaseDate_eq_error_iff.mp hdate
      rw [hm] at hnumber
      exact .dateOverflow hm hnumber hyear hn h
    · obtain ⟨rfl, h⟩ := positionText_eq_error_iff.mp htext
      exact .tooManyDigits hm hn h
  · rintro (⟨hx, h⟩ | ⟨hx, h⟩ | ⟨hm, hnumber, hyear, hn, h⟩ | ⟨hm, hn, h⟩)
    · exact .inl ⟨_, hx, wholeNumber_eq_error_iff.mpr (.inl ⟨rfl, h⟩)⟩
    · exact .inl ⟨_, hx, wholeNumber_eq_error_iff.mpr (.inr ⟨rfl, _, h⟩)⟩
    · refine .inr ⟨by rwa [hm], .inl ⟨_, hm, releaseDate_eq_error_iff.mpr ⟨rfl, _, hyear, _, hn, h⟩⟩⟩
    · refine .inr ⟨by simp [hm], .inr ⟨hm, _, hn, positionText_eq_error_iff.mpr ⟨rfl, h⟩⟩⟩

/-- The date of a book is the day that the metadata of the medium name, if they name one. -/
theorem Book.releaseDate_eq_some_iff {m : Server.Medium} {b : Book} (h : ofServer m = .ok b) (d : Date) :
    b.metadata.releaseDate = some d ↔
      ∃ metadata year, m.metadata = some metadata ∧ metadata.year = some year ∧
        dateParts year metadata.month metadata.day = [(d.year : Int), (d.month : Int), (d.day : Int)] := by
  have hb := metadata_of_ofServer h
  rw [bookMetadata] at hb
  cases hm : m.metadata with
  | none =>
    rw [hm] at hb
    simp [BookMetadata.releaseDate_of_default hb]
  | some metadata =>
    rw [hm] at hb
    rw [Shelf.releaseDate_eq_some_iff (BookMetadata.releaseDate_of_ofServer hb)]
    simp only [Option.some.injEq, exists_and_left, exists_eq_left']

/-! ## Lists of media -/

section Lists

variable {ε α β : Type}

/-- One result for each element, in their order. -/
theorem mapM_eq_ok_iff {f : α → Except ε β} {as : List α} {bs : List β} :
    as.mapM f = .ok bs ↔ List.Forall₂ (fun a b => f a = .ok b) as bs := by
  induction as generalizing bs with
  | nil => cases bs <;> simp [pure, Except.pure]
  | cons a as ih =>
    rw [List.mapM_cons, bind_eq_ok_iff]
    simp only [bind_eq_ok_iff, ih, pure, Except.pure, Except.ok.injEq]
    constructor
    · rintro ⟨b, hb, bs', hbs, rfl⟩
      exact .cons hb hbs
    · intro h
      cases h with
      | cons hb hbs => exact ⟨_, hb, _, hbs, rfl⟩

/-- The first error is that of the whole. -/
theorem mapM_eq_error_iff {f : α → Except ε β} {as : List α} {e : ε} :
    as.mapM f = .error e ↔
      ∃ before a after, as = before ++ a :: after ∧ (∀ a' ∈ before, ∃ b, f a' = .ok b) ∧ f a = .error e := by
  induction as with
  | nil => simp [pure, Except.pure]
  | cons a as ih =>
    have hcons : (a :: as).mapM f = .error e ↔ f a = .error e ∨ (∃ b, f a = .ok b) ∧ as.mapM f = .error e := by
      rw [List.mapM_cons, bind_eq_error_iff]
      simp only [bind_eq_error_iff, pure, Except.pure, reduceCtorEq, and_false, exists_false, or_false, exists_and_right]
    rw [hcons, ih]
    constructor
    · rintro (h | ⟨ha, before, a', after, rfl, hbefore, h⟩)
      · exact ⟨[], a, as, rfl, List.forall_mem_nil _, h⟩
      · exact ⟨a :: before, a', after, rfl, List.forall_mem_cons.mpr ⟨ha, hbefore⟩, h⟩
    · rintro ⟨before, a', after, happend, hbefore, h⟩
      cases before with
      | nil =>
        obtain ⟨rfl, -⟩ := List.cons.inj happend
        exact .inl h
      | cons b before =>
        obtain ⟨rfl, rfl⟩ := List.cons.inj happend
        obtain ⟨ha, hbefore⟩ := List.forall_mem_cons.mp hbefore
        exact .inr ⟨ha, before, a', after, rfl, hbefore, h⟩

theorem exists_mapM_eq_ok_iff {f : α → Except ε β} {as : List α} :
    (∃ bs, as.mapM f = .ok bs) ↔ ∀ a ∈ as, ∃ b, f a = .ok b := by
  induction as with
  | nil => simp [pure, Except.pure]
  | cons a as ih =>
    rw [List.forall_mem_cons, ← ih]
    simp only [mapM_eq_ok_iff]
    constructor
    · rintro ⟨_, h⟩
      cases h with
      | cons hb hbs => exact ⟨⟨_, hb⟩, _, hbs⟩
    · rintro ⟨⟨b, hb⟩, bs, hbs⟩
      exact ⟨b :: bs, .cons hb hbs⟩

end Lists

end Shelf

/-! ## The books of a series -/

namespace Client.Host

open MediaWatch.Shelf

variable {σ τ : Type}

theorem toBook_eq (m : Server.Medium) (s : Conversation σ τ) :
    toBook m s = ((Book.ofServer m).mapError .unmappable, s) := by
  rw [toBook]
  cases Book.ofServer m <;> rfl

/-- The conversation goes no further while books are made. -/
theorem mapM_toBook (media : List Server.Medium) (s : Conversation σ τ) :
    media.mapM toBook s = ((media.mapM Book.ofServer).mapError .unmappable, s) := by
  induction media with
  | nil => rfl
  | cons m media ih =>
    rw [List.mapM_cons, bind_eq, toBook_eq, List.mapM_cons]
    cases Book.ofServer m with
    | error fault => rfl
    | ok b =>
      show (media.mapM toBook >>= fun bs => pure (b :: bs)) s = _
      rw [bind_eq, ih]
      cases media.mapM Book.ofServer <;> rfl

theorem books_of_call {wire : Wire σ τ} {series : Text} {s s' : Conversation σ τ} {media : List Server.Medium}
    (h : call wire (.allMedia series) s = (.ok media, s')) :
    books wire series s = ((media.mapM Book.ofServer).mapError .unmappable, s') := by
  rw [books, bind_eq, h]
  exact mapM_toBook media s'

theorem books_eq_iff {wire : Wire σ τ} {series : Text} {s s' : Conversation σ τ} {media : List Server.Medium}
    (h : call wire (.allMedia series) s = (.ok media, s')) (made : Except MappingFault (List Book)) :
    books wire series s = (made.mapError .unmappable, s') ↔ media.mapM Book.ofServer = made := by
  rw [books_of_call h]
  show ((media.mapM Book.ofServer).mapError Failure.unmappable, s') = (made.mapError Failure.unmappable, s') ↔ _
  cases media.mapM Book.ofServer <;> cases made <;> simp [Except.mapError]

/-- **The books of a series.** A medium makes a book unless something keeps it from being one (`Unmappable`); the date of
the book is the day that the year, month and day of the medium name, if they name one. Of a series whose media are all
read there is one book for each medium, in their order, if all of them make books. Otherwise the first one that makes
none is what is heard of the series. -/
theorem books_readable_iff (wire : Wire σ τ) (series : Text) (s : Conversation σ τ) :
    (∀ m : Server.Medium,
      ((∃ b, Book.ofServer m = .ok b) ↔ ∀ fault, ¬Unmappable m fault) ∧
      ∀ b, Book.ofServer m = .ok b → ∀ d : Date, b.metadata.releaseDate = some d ↔
        ∃ metadata year, m.metadata = some metadata ∧ metadata.year = some year ∧
          dateParts year metadata.month metadata.day = [(d.year : Int), (d.month : Int), (d.day : Int)]) ∧
    ∀ media s', call wire (.allMedia series) s = (.ok media, s') →
      ((∃ bs, books wire series s = (.ok bs, s') ∧ List.Forall₂ (fun m b => Book.ofServer m = .ok b) media bs) ↔
        ∀ m ∈ media, ∀ fault, ¬Unmappable m fault) ∧
      ∀ fault, books wire series s = (.error (.unmappable fault), s') ↔
        ∃ before m after, media = before ++ m :: after ∧ (∀ m' ∈ before, ∀ f, ¬Unmappable m' f) ∧ Unmappable m fault := by
  have hok (m : Server.Medium) : (∃ b, Book.ofServer m = .ok b) ↔ ∀ fault, ¬Unmappable m fault := by
    simp only [exists_ok_iff, ne_eq, Book.ofServer_eq_error_iff]
  refine ⟨fun m => ⟨hok m, fun b hb d => Book.releaseDate_eq_some_iff hb d⟩, fun media s' h => ?_⟩
  have hmade (bs : List Book) : books wire series s = (.ok bs, s') ↔ media.mapM Book.ofServer = .ok bs :=
    books_eq_iff h (.ok bs)
  have hfailed (fault : MappingFault) :
      books wire series s = (.error (.unmappable fault), s') ↔ media.mapM Book.ofServer = .error fault :=
    books_eq_iff h (.error fault)
  refine ⟨?_, fun fault => ?_⟩
  · simp only [hmade, ← mapM_eq_ok_iff, and_self, exists_mapM_eq_ok_iff, hok]
  · simp only [hfailed, mapM_eq_error_iff, hok, Book.ofServer_eq_error_iff]

/-- A server that answers with two media of a series. The year of the second one does not fit 32 bits. -/
def sagaWire : Wire Unit Number where
  send _ s := (.answered ⟨200, none, ("\x7b\"data\":\x7b\"media\":\x7b\"nodes\":[" ++
    "\x7b\"id\":\"m0\",\"name\":\"0\",\"path\":\"/0.cbz\",\"seriesId\":\"s1\"\x7d," ++
    "\x7b\"id\":\"m1\",\"name\":\"1\",\"path\":\"/1.cbz\",\"seriesId\":\"s1\"," ++
    "\"metadata\":\x7b\"year\":2147483648\x7d\x7d]\x7d\x7d\x7d").toUTF8.data.toList⟩, s)
  decoding := ⟨1000, .lenient⟩
  sleeper := ⟨fun _ => .int 0, fun s _ => some s⟩
  patience := 0

/-- A client that talks to it. -/
def sagaTalk : Conversation Unit Number :=
  ⟨⟨"http://s/", ⟨"http", "", "s", none, "/"⟩, "key", ⟨.int 2, .int 1, .int 2, .int 2, .int 0⟩, false⟩, (), []⟩

/-- What keeps a medium from being a book. -/
def fault? (m : Server.Medium) : Option MappingFault :=
  match Book.ofServer m with
  | .ok _ => none
  | .error fault => some fault

theorem fault?_eq_none_iff {m : Server.Medium} : fault? m = none ↔ ∀ fault, ¬Unmappable m fault := by
  simp only [← Book.ofServer_eq_error_iff, fault?]
  cases Book.ofServer m <;> simp

theorem fault?_eq_some_iff {m : Server.Medium} {fault : MappingFault} : fault? m = some fault ↔ Unmappable m fault := by
  rw [← Book.ofServer_eq_error_iff, fault?]
  cases Book.ofServer m <;> simp

/-- The second medium makes no book, and so none is heard of the first one. -/
theorem books_readable_iff_of_saga :
    ∃ media s', call sagaWire (.allMedia "s1") sagaTalk = (.ok media, s') ∧ media.length = 2 ∧
      books sagaWire "s1" sagaTalk = (.error (.unmappable .dateOverflow), s') ∧
      ¬∃ bs, books sagaWire "s1" sagaTalk = (.ok bs, s') ∧
        List.Forall₂ (fun m b => Book.ofServer m = .ok b) media bs := by
  have hfaults : (call sagaWire (.allMedia "s1") sagaTalk).1.toOption.map (·.map fault?) =
      some [none, some .dateOverflow] := by
    decide +kernel
  rcases hcall : call sagaWire (.allMedia "s1") sagaTalk with ⟨_ | media, s'⟩
  · rw [hcall] at hfaults
    cases hfaults
  rw [hcall] at hfaults
  obtain ⟨m₀, rest, rfl, hm₀, hrest⟩ := List.map_eq_cons_iff.mp (Option.some.inj hfaults)
  obtain ⟨m₁, rest, rfl, hm₁, hnil⟩ := List.map_eq_cons_iff.mp hrest
  obtain rfl := List.map_eq_nil_iff.mp hnil
  obtain ⟨hall, hfirst⟩ := (books_readable_iff sagaWire "s1" sagaTalk).2 _ _ hcall
  have hunmappable := fault?_eq_some_iff.mp hm₁
  refine ⟨_, _, rfl, rfl, (hfirst .dateOverflow).mpr ⟨[m₀], m₁, [], rfl, ?_, hunmappable⟩, fun hbooks => ?_⟩
  · rintro m hm
    rw [List.mem_singleton.mp hm]
    exact fault?_eq_none_iff.mp hm₀
  · exact hall.mp hbooks m₁ (.tail _ (.head _)) _ hunmappable

/-- A record that is read, with a year that does not fit 32 bits. -/
def distant : Value :=
  .obj [("id", .str "m1"), ("name", .str "Saga 001"), ("path", .str "/comics/Saga/Saga 001.cbz"), ("seriesId", .str "s1"),
    ("metadata", .obj [("year", .int 2147483648), ("month", .int 1), ("day", .int 1)])]

/-- It makes no book, although no day is named. -/
theorem distant_makes_no_book :
    ∃ m, Server.Medium.codec.read .lenient distant = .ok m ∧ ¬∃ b, Book.ofServer m = .ok b := by
  refine ⟨_, rfl, ?_⟩
  rintro ⟨b, h⟩
  cases h

end Client.Host

end MediaWatch
