import MediaWatch.Text

/-!
# Encodings

`Encoding.detect` tells the encoding of a JSON text from its first bytes, `Encoding.decode` reads the text. Half of a
surrogate pair that is encoded by itself is kept as it is; any other fault of the encoding makes the text unreadable.
-/

namespace MediaWatch.Encoding

/-- The encodings of a text. The order of the bytes matters for units of more than one byte. -/
inductive Form where
  | utf8
  | utf16 (bigEndian : Bool)
  | utf32 (bigEndian : Bool)
  deriving Repr, DecidableEq

/-- The encoding of a text and the number of bytes of its mark. -/
def detect : List UInt8 → Form × Nat
  | 0x00 :: 0x00 :: 0xFE :: 0xFF :: _ => (.utf32 true, 4)
  | 0xFF :: 0xFE :: 0x00 :: 0x00 :: _ => (.utf32 false, 4)
  | 0xFE :: 0xFF :: _ => (.utf16 true, 2)
  | 0xFF :: 0xFE :: _ => (.utf16 false, 2)
  | 0xEF :: 0xBB :: 0xBF :: _ => (.utf8, 3)
  | a :: b :: c :: d :: _ =>
    if a = 0 then (if b = 0 then .utf32 true else .utf16 true, 0)
    else if b = 0 then (if c = 0 ∧ d = 0 then .utf32 false else .utf16 false, 0)
    else (.utf8, 0)
  | [a, b] => (if a = 0 then .utf16 true else if b = 0 then .utf16 false else .utf8, 0)
  | _ => (.utf8, 0)

/-- The six bits of a continuation byte. -/
def tail? (b : UInt8) : Option Nat := if b.toNat / 64 = 2 then some (b.toNat % 64) else none

/-- The code points of UTF-8, none written with more bytes than it needs. -/
def utf8? : List UInt8 → Option (List Nat)
  | [] => some []
  | a :: rest =>
    if a < 0x80 then (utf8? rest).map (a.toNat :: ·)
    else if a.toNat / 32 = 6 then
      match rest with
      | b :: rest => do
        let n := a.toNat % 32 * 64 + (← tail? b)
        if n < 0x80 then none else (utf8? rest).map (n :: ·)
      | _ => none
    else if a.toNat / 16 = 14 then
      match rest with
      | b :: c :: rest => do
        let n := a.toNat % 16 * 4096 + (← tail? b) * 64 + (← tail? c)
        if n < 0x800 then none else (utf8? rest).map (n :: ·)
      | _ => none
    else if a.toNat / 8 = 30 then
      match rest with
      | b :: c :: d :: rest => do
        let n := a.toNat % 8 * 262144 + (← tail? b) * 4096 + (← tail? c) * 64 + (← tail? d)
        if n < 0x10000 ∨ n > 0x10FFFF then none else (utf8? rest).map (n :: ·)
      | _ => none
    else none

/-- The units of two bytes. -/
def units16? (bigEndian : Bool) : List UInt8 → Option (List Nat)
  | [] => some []
  | a :: b :: rest =>
    (units16? bigEndian rest).map ((if bigEndian then a.toNat * 256 + b.toNat else b.toNat * 256 + a.toNat) :: ·)
  | [_] => none

/-- The code points of UTF-16 units. -/
def joinPairs : List Nat → List Nat
  | [] => []
  | [u] => [u]
  | u :: v :: rest =>
    if 0xD800 ≤ u ∧ u < 0xDC00 ∧ 0xDC00 ≤ v ∧ v < 0xE000 then
      (0x10000 + (u - 0xD800) * 1024 + (v - 0xDC00)) :: joinPairs rest
    else u :: joinPairs (v :: rest)

/-- The code points of units of four bytes. -/
def points32? (bigEndian : Bool) : List UInt8 → Option (List Nat)
  | [] => some []
  | a :: b :: c :: d :: rest =>
    let n := if bigEndian then ((a.toNat * 256 + b.toNat) * 256 + c.toNat) * 256 + d.toNat
      else ((d.toNat * 256 + c.toNat) * 256 + b.toNat) * 256 + a.toNat
    if n > 0x10FFFF then none else (points32? bigEndian rest).map (n :: ·)
  | _ => none

/-- The text of some bytes, if they are well encoded. -/
def decode (bytes : List UInt8) : Option Text :=
  let (form, mark) := detect bytes
  let body := bytes.drop mark
  let points := match form with
    | .utf8 => utf8? body
    | .utf16 bigEndian => (units16? bigEndian body).map joinPairs
    | .utf32 bigEndian => points32? bigEndian body
  points.map Text.ofCodes

end MediaWatch.Encoding
