import LanguageClient.Text.Class

/-!
# Patterns of shell scripts

A pattern is a row of items: characters, any one character, any text, and sets of characters.
`matches?` says whether a text fits as a whole; the cuts take away what fits at one end.
-/

namespace LanguageClient.Shell

inductive PatternItem
  | char (c : Char)
  | one
  | some
  /-- A character in one of the ranges, or in none of them. -/
  | set (negated : Bool) (ranges : List (Char × Char))
  deriving DecidableEq, Repr

abbrev Pattern := List PatternItem

namespace Pattern

/-- The ranges of a set up to the bracket that closes it, and what follows; `first` if a bracket
that came now would be one of the characters. -/
def ranges : Nat → Bool → List (Char × Bool) → Option (List (Char × Char) × List (Char × Bool))
  | 0, _, _ | _, _, [] => none
  | _ + 1, false, (']', false) :: rest => some ([], rest)
  | fuel + 1, _, ('[', false) :: (':', false) :: rest => do
    let name := (rest.takeWhile (·.1 ≠ ':')).map (·.1)
    let found ← Text.classes.lookup (String.ofList name)
    match rest.drop name.length with
    | (':', _) :: (']', _) :: rest =>
      let (more, rest) ← ranges fuel false rest
      return (found ++ more, rest)
    | _ => none
  | fuel + 1, _, (low, _) :: ('-', false) :: (high, quoted) :: rest =>
    if high = ']' && !quoted then do
      let (more, rest) ← ranges fuel false (('-', true) :: (high, quoted) :: rest)
      return ((low, low) :: more, rest)
    else do
      let (more, rest) ← ranges fuel false rest
      return ((low, high) :: more, rest)
  | fuel + 1, _, (c, _) :: rest => do
    let (more, rest) ← ranges fuel false rest
    return ((c, c) :: more, rest)

/-- The pattern of characters, of which those that are quoted stand for themselves. -/
def ofChars : Nat → List (Char × Bool) → Pattern
  | 0, _ | _, [] => []
  | fuel + 1, (c, quoted) :: rest =>
    if quoted then .char c :: ofChars fuel rest
    else match c, rest with
      | '*', rest => .some :: ofChars fuel rest
      | '?', rest => .one :: ofChars fuel rest
      | '\\', (d, _) :: rest => .char d :: ofChars fuel rest
      | '[', rest =>
        let (negated, inner) := match rest with
          | ('!', false) :: rest => (true, rest)
          | rest => (false, rest)
        match ranges (inner.length + 1) true inner with
        | some (found, rest) => .set negated found :: ofChars fuel rest
        | none => .char '[' :: ofChars fuel rest
      | c, rest => .char c :: ofChars fuel rest

def ofText (cs : List (Char × Bool)) : Pattern := ofChars (cs.length + 1) cs

/-- Whether a pattern is more than a text. -/
def isOpen (p : Pattern) : Bool := p.any fun
  | .char _ => false
  | _ => true

def PatternItem.admits (c : Char) : PatternItem → Bool
  | .char d => c = d
  | .one => true
  | .some => false
  | .set negated found => found.any (fun r => r.1 ≤ c && c ≤ r.2) != negated

/-- Whether a text fits a pattern. -/
def matches? : Pattern → List Char → Bool
  | [], cs => cs.isEmpty
  | .some :: p, [] => matches? p []
  | .some :: p, c :: cs => matches? p (c :: cs) || matches? (.some :: p) cs
  | _ :: _, [] => false
  | item :: p, c :: cs => PatternItem.admits c item && matches? p cs
termination_by p cs => (p.length, cs.length)

/-- The text without what fits at its beginning. -/
def cutFront (p : Pattern) (longest : Bool) (cs : List Char) : List Char :=
  let sizes := List.range (cs.length + 1)
  let sizes := if longest then sizes.reverse else sizes
  match sizes.find? fun n => matches? p (cs.take n) with
  | some n => cs.drop n
  | none => cs

/-- The text without what fits at its end. -/
def cutBack (p : Pattern) (longest : Bool) (cs : List Char) : List Char :=
  let sizes := List.range (cs.length + 1)
  let sizes := if longest then sizes else sizes.reverse
  match sizes.find? fun n => matches? p (cs.drop n) with
  | some n => cs.take n
  | none => cs

end Pattern

end LanguageClient.Shell
