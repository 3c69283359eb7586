import LanguageClient.Text.Digits

/-!
# Encoded labels

A label that is not all ASCII can be written in ASCII: first its ASCII characters, and after a
hyphen the others as a row of numbers, each of which says how far to go on to the next place and
code point. The digits of a number weigh the more the later they come, and how much more follows
the lengths of the numbers before.
-/

namespace LanguageClient.Uri.Name

/-- The value of a digit: letters come before the digits of decimal numbers. -/
def digitValue (c : Char) : Option Nat :=
  if 'a' ≤ c && c ≤ 'z' then some (c.toNat - 97)
  else if c.isDigit then some (c.toNat - 48 + 26)
  else none

/-- Numbers are words of 32 bits. -/
def wordEnd : Nat := 0x100000000

/-- A value that is small enough for a word. -/
def inWord (n : Nat) : Option Nat := if n < wordEnd then some n else none

/-- The bias that follows from a distance, with one step of the weight for each large factor. -/
def biasOf (distance step : Nat) : Nat :=
  if 455 < distance then biasOf (distance / 35) (step + 36)
  else step + 36 * distance / (distance + 38)
termination_by distance
decreasing_by omega

/-- The bias after a number of `points` characters; the first number counts for less. -/
def nextBias (distance points : Nat) (first : Bool) : Nat :=
  let d := if first then distance / 700 else distance / 2
  biasOf (d + d / points) 0

/-- The digit from which a number goes on, at the digit that weighs `step`. -/
def threshold (bias step : Nat) : Nat := if step ≤ bias then 1 else min 26 (step - bias)

/-- A number added to `sum`, and the digits after it. -/
def readNumber (bias : Nat) : Nat → Nat → Nat → List Char → Option (Nat × List Char)
  | _, _, _, [] => none
  | sum, weight, step, c :: rest => do
    let digit ← digitValue c
    let sum ← inWord (sum + (← inWord (digit * weight)))
    let t := threshold bias step
    if digit < t then return (sum, rest)
    else readNumber bias sum (← inWord (weight * (36 - t))) (step + 36) rest

/-- A label part way through: what it holds, the last code point and the place after it. -/
structure Insertion where
  label : List Char
  point : Nat
  place : Nat
  bias : Nat

/-- Insert the character that the next number stands for. -/
def Insertion.step (s : Insertion) (digits : List Char) : Option (Insertion × List Char) := do
  let (sum, rest) ← readNumber s.bias s.place 1 36 digits
  let count := s.label.length + 1
  let point ← inWord (s.point + sum / count)
  if !point.isValidChar then none
  else
    let place := sum % count
    let label := s.label.take place ++ Char.ofNat point :: s.label.drop place
    return (⟨label, point, place + 1, nextBias (sum - s.place) count (s.place = 0)⟩, rest)

/-- Insert the characters of a row of numbers, of which there are at most `fuel`. -/
def Insertion.run : Nat → Insertion → List Char → Option (List Char)
  | 0, _, _ => none
  | fuel + 1, s, digits =>
    if digits.isEmpty then some s.label
    else do
      let (s, rest) ← s.step digits
      run fuel s rest

/-- The label that an encoded one in lower case stands for, without the mark of encoded labels. -/
def decodeLabel (cs : List Char) : Option (List Char) :=
  let reversed := cs.reverse
  let digits := (reversed.takeWhile (· ≠ '-')).reverse
  match reversed.dropWhile (· ≠ '-') with
  | _ :: plain =>
    if plain.isEmpty then none
    else Insertion.run (cs.length + 1) ⟨plain.reverse, 0x80, 0, 72⟩ digits
  | [] => Insertion.run (cs.length + 1) ⟨[], 0x80, 0, 72⟩ digits

end LanguageClient.Uri.Name
