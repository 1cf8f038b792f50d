/-!
# Base64

`encode` writes bytes in the standard alphabet with padding; `decode` reads such a text back.
-/

namespace MediaWatch.Base64

/-- The 64 digits. -/
def alphabet : List Char :=
  "ABCDEFGHIJKLMNOPQRSTUVWXYZabcdefghijklmnopqrstuvwxyz0123456789+/".toList

/-- The digit with the low six bits of `n`. -/
def digit (n : Nat) : Char := alphabet.getD (n % 64) 'A'

/-- The text of a list of bytes, three at a time. -/
def encode : List UInt8 → List Char
  | [] => []
  | [a] =>
    let n := a.toNat * 65536
    [digit (n / 262144), digit (n / 4096), '=', '=']
  | [a, b] =>
    let n := a.toNat * 65536 + b.toNat * 256
    [digit (n / 262144), digit (n / 4096), digit (n / 64), '=']
  | a :: b :: c :: rest =>
    let n := a.toNat * 65536 + b.toNat * 256 + c.toNat
    digit (n / 262144) :: digit (n / 4096) :: digit (n / 64) :: digit n :: encode rest

/-- The value of a digit. -/
def value (c : Char) : Nat := alphabet.idxOf c

/-- The bytes of a padded text, four digits at a time; a text that is not base64 ends the reading. -/
def decode : List Char → List UInt8
  | a :: b :: c :: d :: rest =>
    let n := value a * 262144 + value b * 4096 + value c % 64 * 64 + value d % 64
    if c = '=' then [UInt8.ofNat (n / 65536)]
    else if d = '=' then [UInt8.ofNat (n / 65536), UInt8.ofNat (n / 256)]
    else UInt8.ofNat (n / 65536) :: UInt8.ofNat (n / 256) :: UInt8.ofNat n :: decode rest
  | _ => []

/-- The base64 text of some bytes. -/
def ofBytes (bytes : ByteArray) : String := String.ofList (encode bytes.toList)

/-- The bytes of a base64 text. -/
def toBytes (s : String) : ByteArray := ⟨(decode s.toList).toArray⟩

end MediaWatch.Base64
