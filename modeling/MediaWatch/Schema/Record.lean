import MediaWatch.Schema.Scalar

/-!
# Record codecs

The fields of a record are listed once, in order, and serve for reading and for writing:

    Author.mk <$> required "name" text (·.name) <*> required "role" text (·.role)

A record with aliases takes each field also under its name in camel case (`camel`), which wins when both are there and
names the field in issues unless the plain name was used. Unknown members are ignored.
-/

namespace MediaWatch.Schema

open Json

/-- A name with its words joined: every letter after an underscore is a capital. -/
def camelFrom (capital : Bool) : List Char → List Char
  | [] => []
  | c :: rest => if c = '_' then camelFrom true rest else (if capital then c.toUpper else c) :: camelFrom false rest

/-- The alias of a field: `library_id` becomes `libraryId`. -/
def camel (name : String) : String := String.ofList (camelFrom false name.toList)

/-- Part of the fields of a record `ρ`: reading them yields an `α`. The truth value says whether fields have aliases. -/
structure Fields (ρ α : Type) where
  read : Bool → Conversions → Members → Checked α
  write : Bool → Form → ρ → Members

namespace Fields

variable {ρ α β : Type}

instance : Applicative (Fields ρ) where
  pure a := ⟨fun _ _ _ => .ok a, fun _ _ _ => []⟩
  map f x := ⟨fun aliased conversions members => (x.read aliased conversions members).map f, x.write⟩
  seq f x :=
    let x := x ()
    ⟨fun aliased conversions members =>
        Checked.both (· ·) (f.read aliased conversions members) (x.read aliased conversions members),
      fun aliased form r => f.write aliased form r ++ x.write aliased form r⟩

/-- The name that a field has on the wire. -/
def wireName (aliased : Bool) (name : String) : String := if aliased then camel name else name

/-- The value given for a field and the name it goes by. -/
def lookup (aliased : Bool) (name : String) (members : Members) : String × Option Value :=
  match Members.value? (wireName aliased name) members with
  | some v => (wireName aliased name, some v)
  | none =>
    match Members.value? name members with
    | some v => (name, some v)
    | none => (wireName aliased name, none)

/-- A written field; on the wire a null is left out. -/
def member (aliased : Bool) (form : Form) (name : String) (v : Value) : Members :=
  match form, v with
  | .full, v => [(name, v)]
  | .wire, .null => []
  | .wire, v => [(wireName aliased name, v)]

/-- A field with what it is when it is missing. -/
def field (name : String) (c : Codec α) (missing : Checked α) (get : ρ → α) : Fields ρ α where
  read aliased conversions members :=
    match lookup aliased name members with
    | (used, some v) => Checked.under (.field used) (c.read conversions v)
    | (used, none) => Checked.under (.field used) missing
  write aliased form r := member aliased form name (c.write form (get r))

/-- A field that has to be given. -/
def required (name : String) (c : Codec α) (get : ρ → α) : Fields ρ α := field name c (.refuse .missing) get

/-- A field with a value of its own when it is not given. -/
def given (name : String) (c : Codec α) (value : α) (get : ρ → α) : Fields ρ α := field name c (.ok value) get

/-- A field that may be missing or null. -/
def maybe (name : String) (c : Codec α) (get : ρ → Option α) : Fields ρ (Option α) := given name c.optional none get

/-- A list that is empty when it is missing. -/
def many (name : String) (c : Codec α) (get : ρ → List α) : Fields ρ (List α) := given name c.list [] get

/-- A list of texts that is empty when it is missing, null or otherwise blank. -/
def texts (name : String) (get : ρ → List Text) : Fields ρ (List Text) :=
  given name (Codec.text.list.blankAs (.arr [])) [] get

/-- A truth value that is false when it is missing. -/
def flag (name : String) (get : ρ → Bool) : Fields ρ Bool := given name Codec.bool false get

end Fields

/-- A record with the given fields. -/
def Codec.record {ρ : Type} (aliased : Bool) (fields : Fields ρ ρ) : Codec ρ where
  read conversions
    | .obj members => fields.read aliased conversions members
    | _ => .refuse .notRecord
  write form r := .obj (fields.write aliased form r)

/-- A record whose fields have aliases. -/
def Codec.aliased {ρ : Type} (fields : Fields ρ ρ) : Codec ρ := .record true fields

/-- A record whose fields have one name each. -/
def Codec.plain {ρ : Type} (fields : Fields ρ ρ) : Codec ρ := .record false fields

end MediaWatch.Schema
