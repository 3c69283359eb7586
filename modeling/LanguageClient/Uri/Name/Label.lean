import LanguageClient.Text.Direction
import LanguageClient.Text.Joining
import LanguageClient.Uri.Name.Mapping
import LanguageClient.Uri.Name.Punycode

/-!
# Labels

The parts of a name between its dots. A label begins with no mark, joins letters only where they can
be joined, and does not mix directions of writing where it would be unclear what comes first.
-/

namespace LanguageClient.Uri.Name

/-- Characters of ASCII that no name may have. -/
def isBanned (c : Char) : Bool :=
  c.toNat ≤ 0x20 || c.toNat = 0x7F || c ∈ "%#/:<>?@[\\]^|".toList

/-! ### Joining -/

def nonJoiner : Char := Char.ofNat 0x200C

def joiner : Char := Char.ofNat 0x200D

/-- Whether the first letter that is not joined across joins in one of some ways. -/
def meets (ways : List Text.Joining) : List Char → Bool
  | [] => false
  | c :: rest =>
    if Text.joining c ∈ ways then true
    else if Text.joining c = .transparent then meets ways rest
    else false

/-- Whether a joiner or non-joiner may stand between what is before it, in reverse, and after it. -/
def mayJoin (before : List Char) (c : Char) (after : List Char) : Bool :=
  match before with
  | [] => false
  | last :: _ =>
    Text.isVirama last ||
      (c = nonJoiner && meets [.left, .dual] before && meets [.right, .dual] after)

/-- Whether all joiners may stand where they do. -/
def joinsWell : List Char → List Char → Bool
  | _, [] => true
  | before, c :: rest =>
    (if c = joiner || c = nonJoiner then mayJoin before c rest else true) &&
      joinsWell (c :: before) rest

/-! ### Direction -/

/-- Whether a character makes directions matter in a name. -/
def turns (c : Char) : Bool := Text.direction c ∈ [.right, .arabicNumber]

/-- The directions that may stand in a label besides the one it begins with. -/
def companions : Text.Direction → List Text.Direction
  | .right => [.right, .arabicNumber, .number, .neutral, .mark]
  | _ => [.left, .number, .neutral, .mark]

/-- The directions in which a label may end, by the one it begins with. -/
def endings : Text.Direction → List Text.Direction
  | .right => [.right, .arabicNumber, .number]
  | _ => [.left, .number]

/-- Whether a label is clear in a name where directions matter. -/
def isClear (label : List Char) : Bool :=
  match label.map Text.direction with
  | [] => true
  | first :: rest =>
    let rest := (rest.reverse.dropWhile (· = .mark)).reverse
    (first = .left || first = .right) &&
      rest.all (· ∈ companions first) &&
      rest.getLast?.all (· ∈ endings first) &&
      !(.number ∈ rest && .arabicNumber ∈ rest)

/-! ### Labels -/

/-- Labels with other than ASCII characters are no longer than this. -/
def maxLength : Nat := 1000

/-- Nor are encoded ones longer than this after their mark. -/
def maxEncoded : Nat := 2000

/-- Whether the characters of a label may stand where they do. -/
def isWellMade (label : List Char) : Bool :=
  !label.head?.any Text.isMark && joinsWell [] label &&
    (label.all (·.toNat < 0x80) || label.length ≤ maxLength)

/-- The label that a text between dots stands for. -/
def readLabel (cs : List Char) : Option (List Char) :=
  match cs with
  | 'x' :: 'n' :: '-' :: '-' :: rest =>
    if rest.getLast? = none || rest.getLast? = some '-' || maxEncoded < rest.length then none
    else do
      let label ← decodeLabel rest
      if isNormal label && !label.any isBanned && '.' ∉ label && isWellMade label then
        return label
      else none
  | label => if isWellMade label then some label else none

/-- The labels of a name. -/
def read (name : List Char) : Option (List (List Char)) := do
  let text ← normalized name
  if text.any isBanned then none
  else
    let labels ← (Text.splitOn '.' text).mapM readLabel
    if labels.any (·.any turns) && !labels.all isClear then none
    else return labels

end LanguageClient.Uri.Name
