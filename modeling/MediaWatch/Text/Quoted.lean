import MediaWatch.Text
import MediaWatch.Text.Printable

/-!
# Quoted text

`quoted` shows a text between quotes with its unprintable code points escaped, halves of surrogate pairs among them.
Single quotes are used unless the text holds a single quote and no double quote.
-/

namespace MediaWatch.Text

/-- `n` in hexadecimal with at least `width` digits. -/
def hex (width n : Nat) : String :=
  let digits := Nat.toDigits 16 n
  String.ofList (List.replicate (width - digits.length) '0' ++ digits)

/-- How a character appears between the given quotes. -/
def escapeChar (quote c : Char) : String :=
  if c = quote ∨ c = '\\' then String.ofList ['\\', c]
  else if c = '\n' then "\\n"
  else if c = '\r' then "\\r"
  else if c = '\t' then "\\t"
  else if isPrintable c then String.singleton c
  else if c.toNat < 256 then "\\x" ++ hex 2 c.toNat
  else if c.toNat < 65536 then "\\u" ++ hex 4 c.toNat
  else "\\U" ++ hex 8 c.toNat

/-- How a code point appears between the given quotes. -/
def escapePoint (quote : Char) : Point → String
  | .char c => escapeChar quote c
  | .half n => "\\u" ++ hex 4 (Point.half n).code

/-- The quote that surrounds a text. -/
def quoteFor (t : Text) : Char :=
  if t.points.contains (.char '\'') && !t.points.contains (.char '"') then '"' else '\''

/-- The text between quotes. -/
def quoted (t : Text) : String :=
  let quote := quoteFor t
  String.singleton quote ++ String.join (t.points.map (escapePoint quote)) ++ String.singleton quote

end MediaWatch.Text
