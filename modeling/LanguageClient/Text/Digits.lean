/-!
# Digits

Digits of bases up to sixteen, and the numbers that they write.
-/

namespace LanguageClient.Text

/-- The value of a hexadecimal digit. -/
def hexValue (c : Char) : Option Nat :=
  if c.isDigit then some (c.toNat - 48)
  else if 'A' ≤ c && c ≤ 'F' then some (c.toNat - 55)
  else if 'a' ≤ c && c ≤ 'f' then some (c.toNat - 87)
  else none

/-- The value of a digit of a base. -/
def digitIn (base : Nat) (c : Char) : Option Nat :=
  match hexValue c with
  | some v => if v < base then some v else none
  | none => none

/-- Digits of a base, the most significant first, read onto `n`. -/
def readBase (base : Nat) : Nat → List Char → Option Nat
  | n, [] => some n
  | n, c :: rest => do readBase base (n * base + (← digitIn base c)) rest

end LanguageClient.Text
