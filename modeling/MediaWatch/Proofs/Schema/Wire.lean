import Mathlib.Data.List.Nodup
import MediaWatch.Schema.Record

/-!
# Records on the wire

What a record with aliases looks like on the wire, and how it is read there. It is an object with one member for each
field that is set (`Members.present`, `Fields.write_maybe`). The name of such a member has no underscore, so a field is
found under its alias or not at all (`Fields.lookup_eq`), and a lawful codec (`Codec.Lawful`) reads from it what it has
written. Members that are set on top of others are found before them (`Members.value?_overwrite`).
-/

namespace MediaWatch

/-! ## Members -/

/-- Texts as a value. -/
def Json.Value.texts (items : List Text) : Value := .arr (items.map .str)

namespace Json.Members

/-- Those members that have a value. -/
def present (entries : List (Text × Option Value)) : Members := entries.filterMap fun (name, v) => v.map (name, ·)

/-- Members with others set on top of them. -/
def overwrite (old new : Members) : Members := new.foldl (fun members (name, v) => put name v members) old

theorem present_cons (name : Text) (v : Option Value) (entries : List (Text × Option Value)) :
    present ((name, v) :: entries) = (v.map (name, ·)).toList ++ present entries := by
  cases v <;> rfl

theorem present_append (entries others : List (Text × Option Value)) :
    present (entries ++ others) = present entries ++ present others := List.filterMap_append

theorem names_present (entries : List (Text × Option Value)) :
    List.Sublist ((present entries).map Prod.fst) (entries.map Prod.fst) := by
  induction entries with
  | nil => exact List.Sublist.slnil
  | cons e entries ih =>
    obtain ⟨name, _ | v⟩ := e
    · exact ih.cons name
    · exact ih.cons_cons name

theorem value?_of_not_mem {name : Text} {members : Members} (h : name ∉ members.map Prod.fst) :
    value? name members = none := by
  induction members with
  | nil => rfl
  | cons m members ih =>
    rw [List.map_cons, List.mem_cons, not_or] at h
    rw [value?, if_neg (Ne.symm h.1), ih h.2]

theorem value?_present_nil (name : Text) : value? name (present []) = none := rfl

theorem value?_present_cons (name name' : Text) (v : Option Value) (entries : List (Text × Option Value)) :
    value? name (present ((name', v) :: entries)) =
      if name' = name then v.or (value? name (present entries)) else value? name (present entries) := by
  cases v with
  | none => exact (ite_self _).symm
  | some v => rfl

theorem value?_put (name name' : Text) (v : Value) (members : Members) :
    value? name (put name' v members) = if name' = name then some v else value? name members := by
  induction members with
  | nil => rfl
  | cons m members ih =>
    obtain ⟨k, w⟩ := m
    by_cases hk : k = name'
    · subst hk
      rw [put, if_pos rfl, value?, value?]
      split <;> rfl
    · rw [put, if_neg hk, value?, value?, ih]
      by_cases hname : k = name
      · rw [if_pos hname, if_pos hname, if_neg fun h => hk (hname.trans h.symm)]
      · rw [if_neg hname, if_neg hname]

/-- What was set on top is found first. -/
theorem value?_overwrite {new : Members} (hnew : (new.map Prod.fst).Nodup) (old : Members) (name : Text) :
    value? name (overwrite old new) = (value? name new).or (value? name old) := by
  induction new generalizing old with
  | nil => rfl
  | cons m new ih =>
    obtain ⟨k, v⟩ := m
    rw [List.map_cons, List.nodup_cons] at hnew
    rw [overwrite, List.foldl_cons, ← overwrite, ih hnew.2, value?_put, value?]
    split
    · rename_i hk
      rw [value?_of_not_mem (hk ▸ hnew.1)]
      rfl
    · rfl

/-- Members whose names have no underscore. -/
def Aliased (members : Members) : Prop := ∀ name ∈ members.map Prod.fst, .char '_' ∉ name.points

theorem aliased_present {entries : List (Text × Option Value)}
    (h : ∀ name ∈ entries.map Prod.fst, .char '_' ∉ name.points) : Aliased (present entries) :=
  fun name hname => h name ((names_present entries).subset hname)

theorem Aliased.put {members : Members} (h : Aliased members) {name : Text} (hname : .char '_' ∉ name.points)
    (v : Value) : Aliased (put name v members) := by
  induction members with
  | nil => exact List.forall_mem_singleton.mpr hname
  | cons m members ih =>
    obtain ⟨k, w⟩ := m
    obtain ⟨hk, hrest⟩ := List.forall_mem_cons.mp h
    rw [Members.put]
    split
    · exact h
    · exact List.forall_mem_cons.mpr ⟨hk, ih hrest⟩

theorem Aliased.overwrite {old new : Members} (hold : Aliased old) (hnew : Aliased new) :
    Aliased (overwrite old new) := by
  induction new generalizing old with
  | nil => exact hold
  | cons m new ih =>
    obtain ⟨hm, hrest⟩ := List.forall_mem_cons.mp hnew
    exact ih (hold.put hm m.2) hrest

end Json.Members

namespace Schema

open Json

/-! ## Codecs that read what they write -/

namespace Codec

variable {α : Type}

/-- Codecs that read on the wire what they write there, which is never null. -/
class Lawful (c : Codec α) : Prop where
  read_write (conversions : Conversions) (a : α) : c.read conversions (c.write .wire a) = .ok a
  write_ne_null (a : α) : c.write .wire a ≠ .null

instance lawful_text : text.Lawful := ⟨fun _ _ => rfl, fun _ => Value.noConfusion⟩

instance lawful_int : int.Lawful := ⟨fun _ _ => rfl, fun _ => Value.noConfusion⟩

instance lawful_float : float.Lawful := ⟨fun _ _ => rfl, fun _ => Value.noConfusion⟩

instance lawful_label (textFirst : Bool) : (label textFirst).Lawful :=
  ⟨fun _ l => by cases l <;> rfl, fun l => by cases l <;> exact Value.noConfusion⟩

theorem Lawful.all (c : Codec α) [c.Lawful] (conversions : Conversions) (i : Nat) (as : List α) :
    Checked.all (c.read conversions) i (as.map (c.write .wire)) = .ok as := by
  induction as generalizing i with
  | nil => rfl
  | cons a as ih => rw [List.map_cons, Checked.all, read_write, ih]; rfl

instance lawful_list (c : Codec α) [c.Lawful] : c.list.Lawful :=
  ⟨fun conversions => Lawful.all c conversions 0, fun _ => Value.noConfusion⟩

theorem Lawful.read_optional (c : Codec α) [c.Lawful] (conversions : Conversions) (a : α) :
    c.optional.read conversions (c.write .wire a) = .ok (some a) := by
  have hread := read_write (c := c) conversions a
  have hnull := write_ne_null (c := c) a
  revert hread hnull
  cases c.write .wire a with
  | null => exact fun _ hnull => absurd rfl hnull
  | _ => exact fun hread _ => congrArg (Except.map some) hread

end Codec

namespace Fields

variable {ρ α β : Type}

/-! ## Writing -/

theorem write_map (g : α → β) (x : Fields ρ α) (aliased : Bool) (form : Form) (r : ρ) :
    (g <$> x).write aliased form r = x.write aliased form r := rfl

theorem write_seq (f : Fields ρ (α → β)) (x : Fields ρ α) (aliased : Bool) (form : Form) (r : ρ) :
    (f <*> x).write aliased form r = f.write aliased form r ++ x.write aliased form r := rfl

/-- A field that is set is a member under its alias. -/
theorem write_maybe (c : Codec α) [c.Lawful] (name : String) (get : ρ → Option α) (r : ρ) :
    (maybe name c get).write true .wire r = Members.present [(.plain (camel name), (get r).map (c.write .wire))] := by
  show member true .wire name (c.optional.write .wire (get r)) = _
  cases get r with
  | none => rfl
  | some a =>
    have hnull := Codec.Lawful.write_ne_null (c := c) a
    show member true .wire name (c.write .wire a) = [(.plain (camel name), c.write .wire a)]
    revert hnull
    cases c.write .wire a with
    | null => exact fun hnull => absurd rfl hnull
    | _ => exact fun _ => rfl

theorem write_texts (name : String) (get : ρ → List Text) (r : ρ) :
    (texts name get).write true .wire r =
      Members.present [(.plain (camel name), some (.texts (get r)))] := rfl

/-! ## Reading -/

theorem camelFrom_of_not_mem {cs : List Char} (h : '_' ∉ cs) : camelFrom false cs = cs := by
  induction cs with
  | nil => rfl
  | cons c cs ih =>
    rw [List.mem_cons, not_or] at h
    rw [camelFrom, if_neg (Ne.symm h.1), ih h.2]
    rfl

theorem camel_of_not_mem {name : String} (h : '_' ∉ name.toList) : camel name = name := by
  rw [camel, camelFrom_of_not_mem h, String.ofList_toList]

/-- Among members with aliases a field is found under its alias or not at all. -/
theorem lookup_eq {members : Members} (h : members.Aliased) (name : String) :
    lookup true name members = (camel name, members.value? (camel name)) := by
  rw [lookup, wireName, if_pos rfl]
  cases hv : members.value? (camel name) with
  | some v => rfl
  | none =>
    have hplain : members.value? name = none := by
      by_cases hname : '_' ∈ name.toList
      · exact Members.value?_of_not_mem fun hmem => h name hmem (List.mem_map_of_mem hname)
      · rw [← camel_of_not_mem hname, hv]
    rw [hplain]

variable {conversions : Conversions} {members : Members}

theorem read_map {x : Fields ρ α} {a : α} (hx : x.read true conversions members = .ok a) (g : α → β) :
    (g <$> x).read true conversions members = .ok (g a) := congrArg (Except.map g) hx

theorem read_seq {f : Fields ρ (α → β)} {x : Fields ρ α} {g : α → β} {a : α}
    (hf : f.read true conversions members = .ok g) (hx : x.read true conversions members = .ok a) :
    (f <*> x).read true conversions members = .ok (g a) := by
  show Checked.both (· ·) (f.read true conversions members) (x.read true conversions members) = _
  rw [hf, hx]
  rfl

theorem read_field (h : members.Aliased) (name : String) (c : Codec α) (missing : Checked α) (get : ρ → α) :
    (field name c missing get).read true conversions members =
      Checked.under (.field (camel name)) ((members.value? (camel name)).elim missing (c.read conversions)) := by
  simp only [field, lookup_eq h]
  cases members.value? (camel name) <;> rfl

/-- A field that may be missing, read from what a lawful codec has written. -/
theorem read_maybe (c : Codec α) [c.Lawful] (h : members.Aliased) {name : String} {a : Option α}
    (ha : members.value? (camel name) = a.map (c.write .wire)) (get : ρ → Option α) :
    (maybe name c get).read true conversions members = .ok a := by
  rw [maybe, given, read_field h, ha]
  cases a with
  | none => rfl
  | some a => exact congrArg (Checked.under _) (Codec.Lawful.read_optional c conversions a)

/-- A list of texts, likewise. -/
theorem read_texts (h : members.Aliased) {name : String} {items : List Text}
    (hitems : members.value? (camel name) = some (.texts items)) (get : ρ → List Text) :
    (texts name get).read true conversions members = .ok items := by
  have hread := Codec.Lawful.read_write (c := Codec.text.list) conversions items
  rw [texts, given, read_field h, hitems]
  cases items with
  | nil => rfl
  | cons t items => exact congrArg (Checked.under _) hread

theorem read_aliased (fields : Fields ρ ρ) (conversions : Conversions) (members : Members) :
    (Codec.aliased fields).read conversions (.obj members) = fields.read true conversions members := rfl

end Fields

end Schema

end MediaWatch
