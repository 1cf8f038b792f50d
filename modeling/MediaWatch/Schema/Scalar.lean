import MediaWatch.Schema.Codec
import MediaWatch.Calendar.Reader
import MediaWatch.Text.Base64
import MediaWatch.Text.Lower

/-!
# Scalar codecs

Codecs for texts, numbers, truth values, bytes, dates and choices, and the conversions that are in use
(`Conversions.lenient`): a number may be written as a text, a whole number as a floating one, a truth value as a word.
-/

namespace MediaWatch.Schema

open Json

/-! ## Conversions -/

namespace Conversions

/-- The most digits of an integer written as text. -/
def maxDigits : Nat := 4300

/-- Reads an integer written as text: a sign, digits with single underscores between them, and a fraction of zeros.
Without a minus underscores may also stand between leading zeros and behind them. -/
def integerText (s : String) : Checked Int :=
  let (negative, cs) := Numeral.splitSign (Text.trimList Text.isSpace s.toList)
  let digits := cs.takeWhile (· ≠ '.')
  let fraction := cs.drop digits.length
  let whole := if negative then digits else Numeral.dropZeros digits
  if fraction.length = 1 ∨ (fraction.drop 1).any (· ≠ '0') then .refuse .unreadableInteger
  else match Numeral.grouped? whole with
    | none => .refuse .unreadableInteger
    | some n =>
      if (whole.filter Char.isDigit).length > maxDigits then .refuse .integerTooLarge
      else .ok (if negative then -(n : Int) else n)

/-- Reads a floating number as an integer: it must be whole and fit 64 bits. -/
def integerFloat (x : Float) : Checked Int :=
  match Binary.ofFloat x with
  | .finite v =>
    if !v.isWhole then .refuse .fractional
    else if v.magnitude < Nat.pow 2 63 then .ok v.whole
    else .refuse .integerTooLarge
  | _ => .refuse .notFinite

/-- Takes a value for an integer. -/
def wholeNumber : Value → Checked Int
  | .num (.int n) => .ok n
  | .num (.float x) => integerFloat x
  | .bool b => .ok (if b then 1 else 0)
  | .str (.plain s) => integerText s
  | .str _ => .refuse .unreadableInteger
  | _ => .refuse .notInteger

/-- Reads an integer as a floating number, if one is near. -/
def floatInt (n : Int) : Checked Float :=
  let x := Float.ofInt n
  if x.isInf then .refuse .notNumber else .ok x

/-- Takes a value for a floating number. -/
def floatingNumber : Value → Checked Float
  | .num (.int n) => floatInt n
  | .num (.float x) => .ok x
  | .bool b => .ok (if b then 1.0 else 0.0)
  | .str (.plain s) =>
    match Numeral.float? s with
    | some x => .ok x
    | none => .refuse .unreadableNumber
  | .str _ => .refuse .unreadableNumber
  | _ => .refuse .notNumber

/-- The truth value of a word. -/
def truthWord? (s : String) : Option Bool :=
  let word := Text.lowerAscii s
  if ["0", "off", "f", "false", "n", "no"].contains word then some false
  else if ["1", "on", "t", "true", "y", "yes"].contains word then some true
  else none

/-- Takes a value for a truth value. -/
def truthValue : Value → Checked Bool
  | .bool b => .ok b
  | .num (.int n) => if n = 0 then .ok false else if n = 1 then .ok true else .refuse .unreadableTruth
  | .num (.float x) => if x == 0.0 then .ok false else if x == 1.0 then .ok true else .refuse .notTruth
  | .str (.plain s) =>
    match truthWord? s with
    | some b => .ok b
    | none => .refuse .unreadableTruth
  | .str _ => .refuse .unreadableTruth
  | _ => .refuse .notTruth

/-- Takes a value for a moment: a text that names it, or a count of seconds. -/
def pointInTime (v : Value) : Checked Moment :=
  let found := match v with
    | .str (.plain s) => Moment.parse? s
    | .num (.int n) => Moment.ofInt? n
    | .num (.float x) => Moment.ofFloat? x
    | _ => none
  match found with
  | some m => .ok m
  | none => .refuse .noMoment

/-- Takes a value for a date, also a moment at midnight. -/
def day (v : Value) : Checked Date :=
  let day := match v with
    | .str (.plain s) => Date.parse? s
    | _ => none
  match day with
  | some d => .ok d
  | none =>
    match pointInTime v with
    | .ok m => if m.time = .midnight then .ok m.date else .refuse .noDate
    | .error _ => .refuse .noDate

/-- The conversions that are in use. -/
def lenient : Conversions := ⟨wholeNumber, floatingNumber, truthValue, day, pointInTime⟩

end Conversions

namespace Codec

/-- A text. -/
def text : Codec Text where
  read
    | _, .str s => .ok s
    | _, _ => .refuse .notText
  write _ s := .str s

/-! ## Numbers and truth values -/

/-- An integer of any size. -/
def int : Codec Int where
  read
    | _, .num (.int n) => .ok n
    | conversions, v => conversions.int v
  write _ n := Value.int n

/-- A floating number. -/
def float : Codec Float where
  read
    | _, .num (.float x) => .ok x
    | conversions, v => conversions.float v
  write _ x := Value.float x

/-- A number that is read as a floating one. -/
def real : Codec Number where
  read conversions v := (float.read conversions v).map .float
  write _ n := .num n

/-- A truth value. -/
def bool : Codec Bool where
  read
    | _, .bool b => .ok b
    | conversions, v => conversions.truth v
  write _ b := .bool b

/-! ## Other scalars -/

/-- Bytes, read from the UTF-8 form of a text and written in base64. -/
def bytes : Codec ByteArray where
  read
    | _, .str (.plain s) => .ok s.toUTF8
    | _, .str _ => .refuse .brokenText
    | _, _ => .refuse .notBytes
  write _ b := .obj [("b64", .str (Base64.ofBytes b))]

/-- A moment. -/
def moment : Codec Moment where
  read conversions := conversions.moment
  write _ m := .str m.text

/-- A date. -/
def date : Codec Date where
  read conversions := conversions.date
  write _ d := .str d.text

/-- One of a list of choices, each with its word. -/
def choice {α : Type} (word : α → String) (choices : List α) : Codec α where
  read _ v :=
    let found := match v with
      | .str s => choices.find? fun a => .plain (word a) == s
      | _ => none
    match found with
    | some a => .ok a
    | none => .refuse .noChoice
  write _ a := .str (word a)

/-! ## Sets of texts -/

/-- The texts of a list, each once and in ascending order. -/
def distinct (texts : List Text) : List Text :=
  texts.eraseDups.mergeSort fun a b => !(b < a)

/-- A set of texts, written in ascending order. -/
def textSet : Codec (List Text) where
  read
    | conversions, .arr items => (Checked.all (text.read conversions) 0 items).map distinct
    | _, _ => .refuse .notSet
  write _ texts := .arr (texts.map .str)

/-! ## Texts and integers -/

/-- A text or an integer. -/
inductive Label where
  | text (s : Text)
  | int (n : Int)
  deriving Repr, DecidableEq

/-- Reads a label: a text and an integer as they are, other values as integers if they can be. When nothing fits the
issues of both readings count, in the order of the two names. -/
def labelRead (textFirst : Bool) (conversions : Conversions) (v : Value) : Checked Label :=
  match v with
  | .str s => .ok (.text s)
  | .num (.int n) => .ok (.int n)
  | v =>
    match int.read conversions v with
    | .ok n => .ok (.int n)
    | .error issues =>
      let asInt : Checked Label := Checked.under (.field "int") (.error issues)
      let asText : Checked Label := Checked.under (.field "str") ((text.read conversions v).map .text)
      if textFirst then Checked.both (fun a _ => a) asText asInt else Checked.both (fun a _ => a) asInt asText

/-- A text or an integer; `textFirst` orders the issues. -/
def label (textFirst : Bool) : Codec Label where
  read := labelRead textFirst
  write _ l := match l with
    | .text s => .str s
    | .int n => Value.int n

end Codec

end MediaWatch.Schema
