import LanguageClient.Decimal.Shortest
import LanguageClient.Text.Blank

/-!
# Decimals of some places

Binary64 numbers with a number of places, or of digits that count. The numbers are taken exactly, and
a half goes to the even neighbour.
-/

namespace LanguageClient.Decimal

/-! ### Exact values -/

/-- A quotient to the nearest whole number, a half to the even neighbour. -/
def roundedQuotient (num den : Nat) : Nat :=
  let low := num / den
  let rest := 2 * (num % den)
  if rest < den then low
  else if den < rest then low + 1
  else if low % 2 = 0 then low else low + 1

def isNegative (f : Float) : Bool := f.toBits >>> 63 = 1

/-- The size of a finite number as a quotient. -/
def sizeRatio (f : Float) : Nat × Nat :=
  match Binary.ofBits f.toBits with
  | some b => ratio b.mantissa b.exponent
  | none => (0, 1)

/-- The whole part of a number; nothing when it is not finite. -/
def truncated? (f : Float) : Option Int :=
  if f.isNaN || f.isInf then none
  else
    let (num, den) := sizeRatio f
    some (if isNegative f then -(Int.ofNat (num / den)) else Int.ofNat (num / den))

/-- The whole number nearest to a number, a half to the even one. -/
def rounded? (f : Float) : Option Int :=
  if f.isNaN || f.isInf then none
  else
    let (num, den) := sizeRatio f
    let n := Int.ofNat (roundedQuotient num den)
    some (if isNegative f then -n else n)

/-- The greatest whole number that is not above a number. -/
def floor? (f : Float) : Option Int :=
  (truncated? f).map fun n => if Float.ofInt n > f then n - 1 else n

/-! ### Texts of numbers -/

/-- Digits with a point before the last `places` of them. -/
def pointed (digits : Nat) (places : Nat) : List Char :=
  let cs := Nat.toDigits 10 digits
  let cs := List.replicate (places + 1 - cs.length) '0' ++ cs
  if places = 0 then cs
  else cs.take (cs.length - places) ++ '.' :: cs.drop (cs.length - places)

/-- An exponent of at least two digits. -/
def exponentText (e : Int) : List Char :=
  let digits := Nat.toDigits 10 e.natAbs
  (if e < 0 then '-' else '+') :: (if digits.length < 2 then '0' :: digits else digits)

/-- The text of a number that is not finite. -/
def strangeText? (f : Float) : Option (List Char) :=
  if f.isNaN then some "nan".toList
  else if f.isInf then some "inf".toList
  else none

/-- A size with so many places. -/
def fixedText (places : Nat) (f : Float) : List Char :=
  let (num, den) := sizeRatio f
  pointed (roundedQuotient (num * Nat.pow 10 places) den) places

/-- The digits of a size, one before the point and `places` after it, and its exponent. -/
def scientificDigits (places : Nat) (f : Float) : Nat × Int :=
  let (num, den) := sizeRatio f
  if num = 0 then (0, 0)
  else
    let lead := magnitude num den
    let scale : Int := places - lead
    let digits := if 0 ≤ scale then roundedQuotient (num * Nat.pow 10 scale.toNat) den
      else roundedQuotient num (den * Nat.pow 10 (-scale).toNat)
    if Nat.pow 10 (places + 1) ≤ digits then (digits / 10, lead + 1) else (digits, lead)

def scientificText (places : Nat) (f : Float) : List Char :=
  let (digits, e) := scientificDigits places f
  pointed digits places ++ 'e' :: exponentText e

/-- A text without zeros at the end of its places, and without a point at its end. -/
def withoutZeros (cs : List Char) : List Char :=
  if '.' ∈ cs then Text.dropEnd (· = '.') (Text.dropEnd (· = '0') cs) else cs

/-- So many digits that count, with an exponent only where that is shorter. -/
def generalText (count : Nat) (keep : Bool) (f : Float) : List Char :=
  let count := max 1 count
  let (digits, e) := scientificDigits (count - 1) f
  let trim (cs : List Char) : List Char := if keep then cs else withoutZeros cs
  if -4 ≤ e && e < count then trim (fixedText (count - 1 - e).toNat f)
  else trim (pointed digits (count - 1)) ++ 'e' :: exponentText e

end LanguageClient.Decimal
