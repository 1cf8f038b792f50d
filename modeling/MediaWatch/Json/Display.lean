import MediaWatch.Json.Value
import MediaWatch.Text.Quoted

/-!
# Showing values in messages

`Value.display` is the text of a value within a message: a string as it is, everything else as `Value.inspect` shows
it, with quoted strings, `None` for null and capitalised truth values.
-/

namespace MediaWatch.Json.Value

/-- The text of a truth value. -/
def inspectBool (b : Bool) : String := if b then "True" else "False"

mutual

/-- The text of a value with its strings quoted. -/
def inspect : Value → String
  | .null => "None"
  | .bool b => inspectBool b
  | .num n => n.text
  | .str s => Text.quoted s
  | .arr items => "[" ++ ", ".intercalate (inspectItems items) ++ "]"
  | .obj members => "\x7b" ++ ", ".intercalate (inspectMembers members) ++ "\x7d"

/-- The texts of the items of an array. -/
def inspectItems : List Value → List String
  | [] => []
  | v :: rest => inspect v :: inspectItems rest

/-- The texts of the members of an object. -/
def inspectMembers : List (Text × Value) → List String
  | [] => []
  | (k, v) :: rest => (Text.quoted k ++ ": " ++ inspect v) :: inspectMembers rest

end

/-- The text of a value in a message. -/
def display : Value → Text
  | .str s => s
  | v => v.inspect

end MediaWatch.Json.Value
