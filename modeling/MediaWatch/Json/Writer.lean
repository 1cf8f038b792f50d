import MediaWatch.Json.Value
import MediaWatch.Text.Quoted

/-!
# Writing JSON

`Writer.write` puts a value on one line. A `Style` fixes the two separators and whether characters beyond ASCII are
escaped; `Style.compact` and `Style.spaced` are the two in use. Half of a surrogate pair is always escaped. Numbers that
JSON has no text for are written as `NaN`, `Infinity` and `-Infinity`.
-/

namespace MediaWatch.Json.Writer

/-- How members and items are set apart, and whether only ASCII is written. -/
structure Style where
  comma : String
  colon : String
  ascii : Bool
  deriving Repr

/-- No blanks, all characters as they are. -/
def Style.compact : Style := ⟨",", ":", false⟩

/-- A blank after each separator, ASCII only. -/
def Style.spaced : Style := ⟨", ", ": ", true⟩

/-- The escape of a code unit. -/
def unit (n : Nat) : String := "\\u" ++ Text.hex 4 n

/-- A character of a string. -/
def char (style : Style) (c : Char) : String :=
  if c = '"' then "\\\""
  else if c = '\\' then "\\\\"
  else if c = '\n' then "\\n"
  else if c = '\r' then "\\r"
  else if c = '\t' then "\\t"
  else if c.toNat = 8 then "\\b"
  else if c.toNat = 12 then "\\f"
  else if c.toNat < 32 then unit c.toNat
  else if style.ascii && c.toNat ≥ 127 then
    if c.toNat < 65536 then unit c.toNat
    else unit (0xD800 + (c.toNat - 65536) / 1024) ++ unit (0xDC00 + (c.toNat - 65536) % 1024)
  else String.singleton c

/-- A code point of a string. -/
def point (style : Style) : Point → String
  | .char c => char style c
  | .half n => unit (Point.half n).code

/-- A string with its quotes. -/
def string (style : Style) (t : Text) : String :=
  "\"" ++ String.join (t.points.map (point style)) ++ "\""

/-- A number's text. -/
def number : Number → String
  | .int n => toString n
  | .float x =>
    match Binary.ofFloat x with
    | .nan => "NaN"
    | .infinite negative => Notation.sign negative ++ "Infinity"
    | .finite v => Notation.finite v

mutual

/-- A value on one line. -/
def write (style : Style) : Value → String
  | .null => "null"
  | .bool b => if b then "true" else "false"
  | .num n => number n
  | .str s => string style s
  | .arr items => "[" ++ style.comma.intercalate (writeItems style items) ++ "]"
  | .obj members => "\x7b" ++ style.comma.intercalate (writeMembers style members) ++ "\x7d"

/-- The texts of the items of an array. -/
def writeItems (style : Style) : List Value → List String
  | [] => []
  | v :: rest => write style v :: writeItems style rest

/-- The texts of the members of an object. -/
def writeMembers (style : Style) : List (Text × Value) → List String
  | [] => []
  | (k, v) :: rest => (string style k ++ style.colon ++ write style v) :: writeMembers style rest

end

end MediaWatch.Json.Writer
