import MediaWatch.Text.Blank

/-!
# Assignment files

`Assignments.read` reads a file of lines `NAME=value`. Values may be quoted, plain ones end before a comment; names may
be quoted and preceded by `export`. A line that is no assignment is skipped. In a value, a name in braces after a dollar
sign stands for an earlier value or one of the surroundings, with a default after `:-`.
-/

namespace MediaWatch.Assignments

/-- The value of each name; `none` for a name without an equals sign. -/
abbrev Bindings := List (String × Option String)

def isLineEnd (c : Char) : Bool := c == '\n' || c == '\r'

/-- White space within a line. -/
def isGap (c : Char) : Bool := Text.isSpace c && !isLineEnd c

/-- The characters after the current line. -/
def nextLine (cs : List Char) : List Char :=
  match cs.dropWhile fun c => !isLineEnd c with
  | '\r' :: '\n' :: rest => rest
  | _ :: rest => rest
  | [] => []

/-- The characters after the end of a line, if only a comment stands before it. -/
def lineEnd? (cs : List Char) : Option (List Char) :=
  match cs.dropWhile isGap with
  | [] => some []
  | c :: rest => if c = '#' ∨ isLineEnd c then some (nextLine (c :: rest)) else none

/-- A quoted text up to its closing quote, as it is written, and what follows. -/
def quoted? (quote : Char) : List Char → Option (List Char × List Char)
  | [] => none
  | '\\' :: c :: rest =>
    if c = quote then (quoted? quote rest).map fun (s, rest) => ('\\' :: c :: s, rest)
    else (quoted? quote (c :: rest)).map fun (s, rest) => ('\\' :: s, rest)
  | c :: rest => if c = quote then some ([], rest) else (quoted? quote rest).map fun (s, rest) => (c :: s, rest)

/-- The character that an escape stands for; between single quotes only the backslash and the quote are escaped. -/
def escape? (single : Bool) (c : Char) : Option Char :=
  if c = '\\' ∨ c = '\'' then some c
  else if single then none
  else match c with
    | '"' => some '"'
    | 'a' => some '\x07'
    | 'b' => some '\x08'
    | 'f' => some '\x0c'
    | 'n' => some '\n'
    | 'r' => some '\r'
    | 't' => some '\t'
    | 'v' => some '\x0b'
    | _ => none

/-- The text that a quoted one stands for. -/
def unescape (single : Bool) : List Char → List Char
  | [] => []
  | '\\' :: c :: rest =>
    match escape? single c with
    | some e => e :: unescape single rest
    | none => '\\' :: unescape single (c :: rest)
  | c :: rest => c :: unescape single rest

/-- A plain value up to a comment, which has white space in front of it. -/
def beforeComment : List Char → List Char
  | [] => []
  | c :: rest =>
    if Text.isSpace c && (rest.dropWhile Text.isSpace).head? == some '#' then [] else c :: beforeComment rest

/-- A value and what follows it. -/
def value? (cs : List Char) : Option (List Char × List Char) :=
  match cs with
  | '\'' :: rest => (quoted? '\'' rest).map fun (s, rest) => (unescape true s, rest)
  | '"' :: rest => (quoted? '"' rest).map fun (s, rest) => (unescape false s, rest)
  | cs =>
    let line := cs.takeWhile fun c => !isLineEnd c
    some ((beforeComment line).reverse.dropWhile Text.isSpace |>.reverse, cs.drop line.length)

/-- A name and what follows it; a comment has none. -/
def name? (cs : List Char) : Option (Option (List Char) × List Char) :=
  match cs with
  | '#' :: _ => some (none, cs)
  | '\'' :: rest =>
    let name := rest.takeWhile (· != '\'')
    match rest.drop name.length with
    | _ :: rest => if name.isEmpty then none else some (some name, rest)
    | [] => none
  | cs =>
    let name := cs.takeWhile fun c => !(c == '=' || c == '#' || Text.isSpace c)
    if name.isEmpty then none else some (some name, cs.drop name.length)

/-- The characters after the word `export` and white space. -/
def dropExport (cs : List Char) : List Char :=
  let rest := cs.drop 6
  if cs.take 6 = "export".toList ∧ (rest.takeWhile isGap).length > 0 then rest.dropWhile isGap else cs

/-- One assignment and what follows it; `none` if the line is none. -/
def binding? (cs : List Char) : Option (Option (String × Option String) × List Char) := do
  let (name, cs) ← name? (dropExport cs)
  let cs := cs.dropWhile isGap
  let (value, cs) ← match cs with
    | '=' :: rest => (value? (rest.dropWhile isGap)).map fun (v, rest) => (some (String.ofList v), rest)
    | cs => some (none, cs)
  let cs ← lineEnd? cs
  return (name.map fun n => (String.ofList n, value), cs)

/-- The assignments of a file, of which `fuel` bounds the number. -/
def bindings : Nat → List Char → Bindings
  | 0, _ => []
  | fuel + 1, cs =>
    match cs.dropWhile Text.isSpace with
    | [] => []
    | cs =>
      match binding? cs with
      | some (b, rest) => b.toList ++ bindings fuel rest
      | none => bindings fuel (nextLine cs)

/-! ## References -/

/-- The value of a name among bindings, of which the latest comes first. -/
def lookup (name : String) (known : Bindings) : Option String := (known.find? fun b => b.1 == name).bind (·.2)

/-- The value that a reference stands for. A default follows the characters `:-`. -/
def resolve (known : Bindings) (reference : List Char) : List Char :=
  let name := reference.takeWhile (· != ':')
  let other := (reference.drop (name.length + 2))
  ((known.find? fun b => b.1 == String.ofList name).map fun b => (b.2.getD "").toList).getD other

/-- Whether the text between the braces is a reference: a name, and a default if it has one. -/
def isReference (reference : List Char) : Bool :=
  let rest := reference.dropWhile (· != ':')
  rest.isEmpty || (rest.drop 1).head? == some '-'

/-- Replaces the references in a value; `fuel` bounds its length. -/
def expand (known : Bindings) : Nat → List Char → List Char
  | 0, cs => cs
  | _ + 1, [] => []
  | fuel + 1, '$' :: '{' :: rest =>
    let reference := rest.takeWhile (· != '}')
    match rest.drop reference.length with
    | _ :: after =>
      if isReference reference then resolve known reference ++ expand known fuel after
      else '$' :: expand known fuel ('{' :: rest)
    | [] => '$' :: '{' :: rest
  | fuel + 1, c :: rest => c :: expand known fuel rest

/-- The assignments of a file, the latest first, with references to earlier ones and to the surroundings replaced. -/
def read (surroundings : List (String × String)) (text : String) : Bindings :=
  let outside : Bindings := surroundings.map fun (k, v) => (k, some v)
  (bindings (text.length + 1) text.toList).foldl (fun known (name, value) =>
    (name, value.map fun v => String.ofList (expand (known ++ outside) (v.length + 1) v.toList)) :: known) []

end MediaWatch.Assignments
