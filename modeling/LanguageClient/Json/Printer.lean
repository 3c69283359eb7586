import LanguageClient.Json.Basic
import LanguageClient.Decimal.Shortest

/-!
# Compact JSON text

A value is written without blanks, its text in UTF-8. Of the characters in a string only quotes,
backslashes and control characters are escaped. Doubles have the fewest digits that read back,
with at least one place, and an exponent from `10 ^ 16` upwards and below `10 ^ -5`.
-/

namespace LanguageClient

/-- How the decimal of a double is laid out. -/
structure DoubleFormat where
  /-- Decimal exponents written positionally are at least this. -/
  lowest : Int
  /-- Decimal exponents written positionally are below this. -/
  beyond : Int

namespace Json

/-- Positional from `0.00001` up to below `10 ^ 16`. -/
def doubleFormat : DoubleFormat := ⟨-5, 16⟩

/-- A decimal in the given format: positional with a point, or with a signed exponent. -/
def layOut (format : DoubleFormat) (d : Decimal.Scaled) : List Char :=
  let digits := Nat.toDigits 10 d.digits
  let count := digits.length
  let lead : Int := d.exponent + count - 1
  if format.lowest ≤ lead && lead < format.beyond then
    if 0 ≤ d.exponent then digits ++ List.replicate d.exponent.toNat '0' ++ ['.', '0']
    else if 0 ≤ lead then
      digits.take (lead.toNat + 1) ++ '.' :: digits.drop (lead.toNat + 1)
    else '0' :: '.' :: List.replicate ((-lead).toNat - 1) '0' ++ digits
  else
    let sign := if lead < 0 then '-' else '+'
    let point := if count = 1 then [] else '.' :: digits.drop 1
    digits.take 1 ++ point ++ 'e' :: sign :: Nat.toDigits 10 lead.natAbs

/-- The text of the finite double with the given bits. -/
def doubleText (bits : UInt64) : List Char :=
  let sign := if bits >>> 63 = 1 then ['-'] else []
  match Decimal.Binary.ofBits bits with
  | none => sign ++ ['0', '.', '0']
  | some b => sign ++ layOut doubleFormat b.shortest

/-- The text of an integer. -/
def intText (n : Int) : List Char :=
  if n < 0 then '-' :: Nat.toDigits 10 n.natAbs else Nat.toDigits 10 n.natAbs

/-- ASCII text as bytes. -/
def ascii (cs : List Char) : List UInt8 := cs.map fun c => c.toNat.toUInt8

/-- The lower-case hexadecimal digit of a value below sixteen. -/
def hexDigit (n : Nat) : UInt8 := (if n < 10 then 48 + n else 87 + n).toUInt8

/-- A byte of a string as it is written between the quotes. -/
def escape (b : UInt8) : List UInt8 :=
  if b = 0x22 then [0x5C, 0x22]
  else if b = 0x5C then [0x5C, 0x5C]
  else if b = 0x08 then [0x5C, 0x62]
  else if b = 0x0C then [0x5C, 0x66]
  else if b = 0x0A then [0x5C, 0x6E]
  else if b = 0x0D then [0x5C, 0x72]
  else if b = 0x09 then [0x5C, 0x74]
  else if b < 0x20 then
    [0x5C, 0x75, 0x30, 0x30, hexDigit (b.toNat / 16), hexDigit (b.toNat % 16)]
  else [b]

/-- The UTF-8 bytes of a string. -/
def utf8 (s : String) : List UInt8 := s.toUTF8.data.toList

/-- A string in quotes. -/
def quoted (s : String) : List UInt8 := 0x22 :: (utf8 s).flatMap escape ++ [0x22]

mutual

/-- The compact text of a value. -/
def encode : Json → List UInt8
  | .null => ascii ['n', 'u', 'l', 'l']
  | .bool true => ascii ['t', 'r', 'u', 'e']
  | .bool false => ascii ['f', 'a', 'l', 's', 'e']
  | .int n => ascii (intText n)
  | .double bits => ascii (doubleText bits)
  | .str s => quoted s
  | .arr [] => [0x5B, 0x5D]
  | .arr (v :: rest) => 0x5B :: encode v ++ encodeItems rest
  | .obj [] => [0x7B, 0x7D]
  | .obj ((k, v) :: rest) => 0x7B :: quoted k ++ 0x3A :: encode v ++ encodeFields rest

/-- The items after the first, and the closing bracket. -/
def encodeItems : List Json → List UInt8
  | [] => [0x5D]
  | v :: rest => 0x2C :: encode v ++ encodeItems rest

/-- The fields after the first, and the closing brace. -/
def encodeFields : List (String × Json) → List UInt8
  | [] => [0x7D]
  | (k, v) :: rest => 0x2C :: quoted k ++ 0x3A :: encode v ++ encodeFields rest

end

/-- The compact text of a value as a string. -/
def render (v : Json) : String := (String.fromUTF8? ⟨(encode v).toArray⟩).getD ""

end Json

end LanguageClient
