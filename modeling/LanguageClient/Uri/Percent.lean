import LanguageClient.Json.Printer
import LanguageClient.Text.Digits

/-!
# Percent encoding

Bytes that may not stand in a part of a URI are written as a percent sign and two hexadecimal
digits. Bytes past ASCII never may.
-/

namespace LanguageClient.Uri

/-- Control characters. -/
def isControl (b : UInt8) : Bool := b < 0x20 || 0x7F ≤ b

/-- What may not stand in a fragment. -/
def fragmentSet (b : UInt8) : Bool :=
  isControl b || b = 0x20 || b = 0x22 || b = 0x3C || b = 0x3E || b = 0x60

/-- What may not stand in a path. -/
def pathSet (b : UInt8) : Bool :=
  fragmentSet b || b = 0x23 || b = 0x3F || b = 0x7B || b = 0x7D

/-- What may not stand in a segment of a path that is taken literally. -/
def segmentSet (b : UInt8) : Bool := pathSet b || b = 0x2F || b = 0x25 || b = 0x5C

/-- The upper-case hexadecimal digit of a value below sixteen. -/
def upperHex (n : Nat) : Char := Char.ofNat (if n < 10 then 48 + n else 55 + n)

/-- A byte as it is written. -/
def encodeByte (banned : UInt8 → Bool) (b : UInt8) : List Char :=
  if banned b then ['%', upperHex (b.toNat / 16), upperHex (b.toNat % 16)]
  else [Char.ofNat b.toNat]

def encode (banned : UInt8 → Bool) (bytes : List UInt8) : List Char :=
  bytes.flatMap (encodeByte banned)

/-- The UTF-8 bytes of a text. -/
def bytesOf (cs : List Char) : List UInt8 := Json.utf8 (String.ofList cs)

/-- The bytes that a text stands for; a percent sign without two digits stands for itself. -/
def decode : List Char → List UInt8
  | '%' :: a :: b :: rest =>
    match Text.hexValue a, Text.hexValue b with
    | some x, some y => (x * 16 + y).toUInt8 :: decode rest
    | _, _ => 0x25 :: decode (a :: b :: rest)
  | c :: rest => bytesOf [c] ++ decode rest
  | [] => []
termination_by cs => cs.length

end LanguageClient.Uri
