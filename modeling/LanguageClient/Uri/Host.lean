import LanguageClient.Uri.Name.Label
import LanguageClient.Uri.Percent

/-!
# Hosts

Which texts are hosts: names, numbers of four bytes, and addresses of sixteen bytes in brackets.
A name is compared in lower case; one that ends in a number has to be an address.
-/

namespace LanguageClient.Uri

/-- A host, as far as file paths need to know it. -/
inductive Host
  | none
  | localhost
  | other
  deriving DecidableEq, Repr

/-- Characters that no host of another scheme may have. -/
def isBannedInOpaque (c : Char) : Bool :=
  c.toNat = 0 || c ∈ "\t\n\r #/:<>?@[\\]^|".toList

/-- An upper-case ASCII letter in lower case. -/
def lower (c : Char) : Char := if 'A' ≤ c && c ≤ 'Z' then Char.ofNat (c.toNat + 32) else c

/-! ### Numbers -/

/-- A part of an address: hexadecimal, octal or decimal by its first characters. -/
def readPart : List Char → Option Nat
  | [] => .none
  | '0' :: 'x' :: rest | '0' :: 'X' :: rest => Text.readBase 16 0 rest
  | '0' :: c :: rest => Text.readBase 8 0 (c :: rest)
  | cs => Text.readBase 10 0 cs

/-- Labels without the empty one after a final dot. -/
def dropFinal (labels : List (List Char)) : List (List Char) :=
  if labels.getLast? = some [] then labels.dropLast else labels

/-- Whether a name has to be an address of four bytes. -/
def endsInNumber (labels : List (List Char)) : Bool :=
  match (dropFinal labels).getLast? with
  | some last => !last.isEmpty && (last.all (·.isDigit) || (readPart last).isSome)
  | .none => false

/-- Whether labels are an address of four bytes; the last one fills the bytes that are left. -/
def isAddress (labels : List (List Char)) : Bool :=
  match (dropFinal labels).mapM readPart with
  | .none => false
  | some numbers =>
    numbers.length ≤ 4 && numbers.dropLast.all (· ≤ 255) &&
      numbers.getLastD 0 < Nat.pow 256 (5 - numbers.length)

/-! ### Addresses in brackets -/

/-- One to three digits up to 255, with no zero before another. -/
def isByteText (cs : List Char) : Bool :=
  match cs with
  | [] => false
  | ['0'] => true
  | '0' :: _ => false
  | cs => cs.length ≤ 3 && (Text.readBase 10 0 cs).any (· ≤ 255)

/-- Four bytes with dots between them. -/
def isDotted (cs : List Char) : Bool :=
  let parts := Text.splitOn '.' cs
  parts.length = 4 && parts.all isByteText

/-- One to four hexadecimal digits. -/
def isPiece (cs : List Char) : Bool :=
  !cs.isEmpty && cs.length ≤ 4 && cs.all fun c => (Text.hexValue c).isSome

/-- How many pieces of two bytes a part between colons makes up; none for no such part. -/
def pieceCount (allowDotted : Bool) (cs : List Char) : Option Nat :=
  if isPiece cs then some 1 else if allowDotted && isDotted cs then some 2 else .none

/-- The pieces of a run of parts with single colons between them. -/
def runCount (mayEndDotted : Bool) : List (List Char) → Option Nat
  | [] => some 0
  | [last] => pieceCount mayEndDotted last
  | part :: rest => do return (← pieceCount false part) + (← runCount mayEndDotted rest)

/-- The parts before and after the first double colon. -/
def splitDouble : List Char → Option (List Char × List Char)
  | ':' :: ':' :: rest => some ([], rest)
  | c :: rest => (splitDouble rest).map fun (a, b) => (c :: a, b)
  | [] => .none

/-- Parts between single colons; no text has no parts. -/
def colonParts (cs : List Char) : List (List Char) := if cs.isEmpty then [] else Text.splitOn ':' cs

/-- Eight pieces, or fewer with one double colon that stands for the rest. -/
def isBracketAddress (cs : List Char) : Bool :=
  match splitDouble cs with
  | .none => runCount true (colonParts cs) = some 8
  | some (before, after) =>
    match runCount false (colonParts before), runCount true (colonParts after) with
    | some a, some b => a + b ≤ 7
    | _, _ => false

/-! ### Hosts -/

/-- A name or an address of a scheme that is known. -/
def Host.ofText (cs : List Char) : Option Host :=
  match cs with
  | '[' :: rest =>
    if rest.getLast? = some ']' && isBracketAddress rest.dropLast then some .other else .none
  | _ => do
    let name ← String.fromUTF8? ⟨(decode cs).toArray⟩
    let labels ← Name.read name.toList
    if labels = [[]] then .none
    else if endsInNumber labels then if isAddress labels then some .other else .none
    else if labels = ["localhost".toList] then some .localhost
    else some .other

/-- A host of any other scheme, which is not looked into. -/
def Host.ofOpaque (cs : List Char) : Option Host :=
  match cs with
  | [] => some .none
  | '[' :: rest =>
    if rest.getLast? = some ']' && isBracketAddress rest.dropLast then some .other else .none
  | _ =>
    if cs.any isBannedInOpaque then .none
    else if cs = "localhost".toList then some .localhost
    else some .other

end LanguageClient.Uri
