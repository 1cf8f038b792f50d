/-!
# White space

`isSpace` is the white space of all scripts, the blank characters that the readers of numerals skip. `trimList` cuts a
set of characters off both ends of a text, `trimEnd` off its end alone.
-/

namespace MediaWatch.Text

/-- The code points with the white space property. -/
def spaceRanges : List (Nat × Nat) :=
  [(9, 13), (32, 32), (133, 133), (160, 160), (5760, 5760), (8192, 8202), (8232, 8233), (8239, 8239), (8287, 8287),
   (12288, 12288)]

/-- White space of any script. -/
def isSpace (c : Char) : Bool := spaceRanges.any fun r => r.1 ≤ c.toNat && c.toNat ≤ r.2

/-- The text without the leading and trailing characters of a set. -/
def trimList (set : Char → Bool) (cs : List Char) : List Char :=
  ((cs.dropWhile set).reverse.dropWhile set).reverse

/-- The text without the trailing characters of a set. -/
def trimEnd (set : Char → Bool) (s : String) : String :=
  String.ofList (s.toList.reverse.dropWhile set).reverse

end MediaWatch.Text
