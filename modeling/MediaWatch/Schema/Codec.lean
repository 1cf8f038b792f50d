import MediaWatch.Calendar.Date
import MediaWatch.Json.Value

/-!
# Codecs

A `Codec` reads a type from JSON values and writes it back. A value that does not fit is refused with all its
`Issue`s, each a path into the value and a `Complaint`; `both` collects the issues of independent parts in order. What
passes for a number, a truth value or a date without being one, such as a number written as a text, is not for a codec
to say: `Conversions` are given to it for reading.
-/

namespace MediaWatch.Schema

open Json

/-! ## Issues -/

/-- What is wrong with a value. -/
inductive Complaint where
  | missing
  | notText
  | brokenText
  | notInteger
  | unreadableInteger
  | fractional
  | integerTooLarge
  | notFinite
  | notNumber
  | unreadableNumber
  | notTruth
  | unreadableTruth
  | notList
  | notSet
  | notObject
  | notRecord
  | notBytes
  | noChoice
  | noDate
  | noMoment
  | frozen
  deriving Repr, DecidableEq

/-- The code of a complaint. -/
def Complaint.code : Complaint → String
  | .missing => "missing"
  | .notText => "string_type"
  | .brokenText => "string_unicode"
  | .notInteger => "int_type"
  | .unreadableInteger => "int_parsing"
  | .fractional => "int_from_float"
  | .integerTooLarge => "int_parsing_size"
  | .notFinite => "finite_number"
  | .notNumber => "float_type"
  | .unreadableNumber => "float_parsing"
  | .notTruth => "bool_type"
  | .unreadableTruth => "bool_parsing"
  | .notList => "list_type"
  | .notSet => "set_type"
  | .notObject => "dict_type"
  | .notRecord => "model_type"
  | .notBytes => "bytes_type"
  | .noChoice => "enum"
  | .noDate => "date_invalid"
  | .noMoment => "datetime_invalid"
  | .frozen => "frozen_instance"

/-- One step into a value. -/
inductive Step where
  | field (name : String)
  | index (i : Nat)
  deriving Repr, DecidableEq

/-- A complaint and where in the value it arises. -/
structure Issue where
  path : List Step
  complaint : Complaint
  deriving Repr, DecidableEq

/-- A value, or all the issues that stand against it. -/
abbrev Checked (α : Type) := Except (List Issue) α

namespace Checked

variable {α β γ : Type}

/-- A complaint about the value itself. -/
def refuse (c : Complaint) : Checked α := .error [⟨[], c⟩]

/-- The issues of a part, seen from the whole. -/
def under (step : Step) : Checked α → Checked α
  | .ok a => .ok a
  | .error issues => .error (issues.map fun i => { i with path := step :: i.path })

/-- Combines two independent parts; the issues of both count, those of the first part first. -/
def both (f : α → β → γ) : Checked α → Checked β → Checked γ
  | .ok a, .ok b => .ok (f a b)
  | .ok _, .error e => .error e
  | .error e, .ok _ => .error e
  | .error e, .error e' => .error (e ++ e')

/-- Reads every item of a list, whose first item has index `i`. -/
def all (read : Value → Checked α) (i : Nat) : List Value → Checked (List α)
  | [] => .ok []
  | v :: rest => both List.cons (under (.index i) (read v)) (all read (i + 1) rest)

end Checked

/-! ## Codecs -/

/-- How values are taken for numbers, truth values, dates and moments that are none by themselves. -/
structure Conversions where
  int : Value → Checked Int
  float : Value → Checked Float
  truth : Value → Checked Bool
  date : Value → Checked Date
  moment : Value → Checked Moment

/-- How a record is written: with the names of its fields and all of them, or with the names used on the wire and
without the fields that are null. -/
inductive Form where
  | full
  | wire
  deriving Repr, DecidableEq

/-- Reading a type from JSON values and writing it. -/
structure Codec (α : Type) where
  read : Conversions → Value → Checked α
  write : Form → α → Value

namespace Codec

variable {α : Type}

/-- Any value. -/
def any : Codec Value where
  read _ v := .ok v
  write := fun _ v => v

/-- A value or null. -/
def optional (c : Codec α) : Codec (Option α) where
  read conversions
    | .null => .ok none
    | v => (c.read conversions v).map some
  write form a := match a with
    | none => .null
    | some a => c.write form a

/-- A value that null does not stand for. -/
def present (c : Codec α) : Codec (Option α) where
  read conversions v := (c.read conversions v).map some
  write := c.optional.write

/-- An array. -/
def list (c : Codec α) : Codec (List α) where
  read conversions
    | .arr items => Checked.all (c.read conversions) 0 items
    | _ => .refuse .notList
  write form as := .arr (as.map (c.write form))

/-- An object with arbitrary members. -/
def object : Codec Members where
  read _
    | .obj members => .ok members
    | _ => .refuse .notObject
  write _ members := .obj members

/-- Takes a blank value for the given one. -/
def blankAs (value : Value) (c : Codec α) : Codec α where
  read conversions v := c.read conversions (if v.isBlank then value else v)
  write := c.write

end Codec

end MediaWatch.Schema
