import MediaWatch.Number
import MediaWatch.Text

/-!
# JSON values

Objects keep their members in order of first appearance, one for each name (`Members.put`).
-/

namespace MediaWatch.Json

/-- A JSON value. Numbers are whole or floating as their text says. -/
inductive Value where
  | null
  | bool (b : Bool)
  | num (n : Number)
  | str (s : Text)
  | arr (items : List Value)
  | obj (members : List (Text × Value))
  deriving Inhabited

/-- The members of an object. -/
abbrev Members := List (Text × Value)

namespace Members

/-- The value of a member. -/
def value? (name : Text) : Members → Option Value
  | [] => none
  | (k, v) :: rest => if k = name then some v else value? name rest

/-- Sets a member: a new name goes to the end, a known one keeps its place. -/
def put (name : Text) (value : Value) : Members → Members
  | [] => [(name, value)]
  | (k, v) :: rest => if k = name then (k, value) :: rest else (k, v) :: put name value rest

/-- The members given by a list in which the last value of a name counts. -/
def ofList (pairs : List (Text × Value)) : Members :=
  pairs.foldl (fun members (k, v) => Members.put k v members) []

end Members

namespace Value

/-- The integer as a value. -/
def int (n : Int) : Value := .num (.int n)

/-- The double as a value. -/
def float (x : Float) : Value := .num (.float x)

/-- The member of an object; `none` for a missing member and for other values. -/
def get? (v : Value) (name : Text) : Option Value :=
  match v with
  | .obj members => Members.value? name members
  | _ => none

/-- The members of an object; other values have none. -/
def members : Value → Members
  | .obj members => members
  | _ => []

/-- The items of an array; other values have none. -/
def items : Value → List Value
  | .arr items => items
  | _ => []

/-- Whether the value counts as absent: null, false, zero, and the empty string, array and object. -/
def isBlank : Value → Bool
  | .null => true
  | .bool b => !b
  | .num n => n.isZero
  | .str s => s.isEmpty
  | .arr items => items.isEmpty
  | .obj members => members.isEmpty

end Value

end MediaWatch.Json
