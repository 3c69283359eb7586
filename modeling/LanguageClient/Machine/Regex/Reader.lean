import LanguageClient.Machine.Regex.Basic
import LanguageClient.Text.Digits

/-!
# Reading regular expressions

Two ways to write them: the basic one, in which most operators have a backslash before them, and the
extended one, in which they have none.
-/

namespace LanguageClient.Regex

inductive Dialect
  | basic
  | extended
  deriving DecidableEq, Repr

namespace Reading

/-- What is left to read, and the number of the groups so far. -/
structure State where
  rest : List Char
  groups : Nat

end Reading

abbrev Reading := StateT Reading.State Option

namespace Reading

def rest : Reading (List Char) := return (← get).rest

def advance (rest : List Char) : Reading Unit := modify fun s => { s with rest }

/-- Take an operator, which has a backslash before it in the basic dialect, if it comes next. -/
def passes (d : Dialect) (c : Char) : Reading Bool := do
  match d, ← rest with
  | .basic, '\\' :: x :: cs =>
    if x = c then
      advance cs
      return true
    else return false
  | .basic, _ | _, [] => return false
  | _, x :: cs =>
    if x = c then
      advance cs
      return true
    else return false

/-- Whether an operator comes next. -/
def sees (d : Dialect) (c : Char) : Reading Bool := do
  let before ← get
  let found ← passes d c
  set before
  return found

/-- The character that a letter after a backslash stands for. -/
def letterChar? : Char → Option Char
  | 'n' => some '\n'
  | 't' => some '\t'
  | 'r' => some '\r'
  | 'f' => some '\x0c'
  | 'v' => some '\x0b'
  | 'a' => some '\x07'
  | _ => none

/-- The ranges of a letter that stands for a class, and whether they are those outside it. -/
def classLetter? (c : Char) : Option (Bool × List (Char × Char)) :=
  let word := [('0', '9'), ('A', 'Z'), ('_', '_'), ('a', 'z')]
  let space := [('\t', '\r'), (' ', ' ')]
  match c with
  | 'w' => some (false, word)
  | 'W' => some (true, word)
  | 's' => some (false, space)
  | 'S' => some (true, space)
  | _ => none

/-- A bound of a range between brackets: a character, or the ranges of a class. -/
def member : List Char → Option ((Char ⊕ List (Char × Char)) × List Char)
  | '[' :: ':' :: rest => (Text.class? rest).map fun (found, rest) => (.inr found, rest)
  | c :: rest => some (.inl c, rest)
  | [] => none

/-- The ranges of a set up to the bracket that closes it; `first` if a bracket that came now would
be one of the characters. -/
def ranges : Nat → Bool → List Char → Option (List (Char × Char) × List Char)
  | 0, _, _ => none
  | _ + 1, false, ']' :: rest => some ([], rest)
  | fuel + 1, _, cs => do
    let (low, rest) ← member cs
    match low, rest with
    | .inr found, rest =>
      let (more, rest) ← ranges fuel false rest
      return (found ++ more, rest)
    | .inl low, '-' :: rest =>
      if rest.head? = some ']' then
        let (more, rest) ← ranges fuel false rest
        return ((low, low) :: ('-', '-') :: more, rest)
      else
        match ← member rest with
        | (.inl high, rest) =>
          if high < low then none
          let (more, rest) ← ranges fuel false rest
          return ((low, high) :: more, rest)
        | (.inr _, _) => none
    | .inl low, rest =>
      let (more, rest) ← ranges fuel false rest
      return ((low, low) :: more, rest)

/-- How often something is to come: the least number and the most, between braces. -/
def interval? (d : Dialect) (cs : List Char) : Option ((Nat × Option Nat) × List Char) := do
  let low := cs.takeWhile Char.isDigit
  let cs := cs.drop low.length
  let least := (Text.readBase 10 0 low).getD 0
  let closed (cs : List Char) : Option (List Char) :=
    match d, cs with
    | .basic, '\\' :: '\x7d' :: rest => some rest
    | .basic, _ => none
    | _, '\x7d' :: rest => some rest
    | _, _ => none
  match cs with
  | ',' :: cs =>
    let high := cs.takeWhile Char.isDigit
    let rest ← closed (cs.drop high.length)
    return ((least, if high.isEmpty then none else Text.readBase 10 0 high), rest)
  | cs =>
    if low.isEmpty then none
    return ((least, some least), ← closed cs)

def single (c : Char) : Regex := .one false [(c, c)]

/-- What comes several times, if it does. -/
def repeated (d : Dialect) : Nat → Regex → Reading Regex
  | 0, _ => failure
  | fuel + 1, a => do
    let found ← do
      match ← rest with
      | '*' :: cs => do
        advance cs
        pure (some (0, none))
      | _ =>
        if ← passes d '+' then pure (some (1, none))
        else if ← passes d '?' then pure (some (0, some 1))
        else do
          let before ← get
          if ← passes d '\x7b' then
            match interval? d (← rest) with
            | some (found, cs) => do
              advance cs
              pure (some found)
            | none =>
              if d = .basic then failure
              set before
              pure none
          else pure none
    match found with
    | some (least, most) => repeated d fuel (.times a least most)
    | none => return a

/-- What a character after a backslash stands for. -/
def escaped (c : Char) : Regex :=
  match classLetter? c with
  | some (negated, found) => .one negated found
  | none =>
    if c.isDigit && c ≠ '0' then .same (c.toNat - '0'.toNat)
    else match c with
      | 'b' => .edge .word
      | 'B' => .edge .noWord
      | '<' => .edge .wordStart
      | '>' => .edge .wordStop
      | '\x60' => .edge .start
      | '\'' => .edge .stop
      | c => single ((letterChar? c).getD c)

mutual

/-- Patterns of which one is to fit; `inner` within parentheses. -/
def branches (d : Dialect) : Nat → Bool → Reading Regex
  | 0, _ => failure
  | fuel + 1, inner => do
    let first ← pieces d fuel inner true
    if ← passes d '|' then return .either first (← branches d fuel inner) else return first

/-- Patterns that are to fit one after another; `first` at the beginning of a branch. -/
def pieces (d : Dialect) : Nat → Bool → Bool → Reading Regex
  | 0, _, _ => failure
  | fuel + 1, inner, first => do
    if (← rest).isEmpty then return .nothing
    if ← sees d '|' then return .nothing
    if ← sees d ')' then
      if inner then return .nothing else failure
    let a ← atom d fuel inner first
    let a ← match a with
      | .edge _ => pure a
      | a => repeated d fuel a
    let begins := match a with
      | .edge .start => first
      | _ => false
    return .row a (← pieces d fuel inner begins)

/-- One part of a pattern. -/
def atom (d : Dialect) : Nat → Bool → Bool → Reading Regex
  | 0, _, _ => failure
  | fuel + 1, inner, first => do
    if ← passes d '(' then group d fuel
    else match ← rest with
      | [] => failure
      | '[' :: cs =>
        let (negated, cs) := match cs with
          | '^' :: cs => (true, cs)
          | cs => (false, cs)
        let some (found, cs) := ranges (cs.length + 1) true cs | failure
        advance cs
        return .one negated found
      | '.' :: cs =>
        advance cs
        return .one true []
      | '^' :: cs =>
        advance cs
        if d = .basic && !first then return single '^' else return .edge .start
      | '$' :: cs =>
        advance cs
        let atEnd := cs.isEmpty || (← sees d '|') || (inner && (← sees d ')'))
        if d = .basic && !atEnd then return single '$'
        else return .edge .stop
      | '*' :: cs =>
        advance cs
        return if first then single '*' else .nothing
      | '\\' :: c :: cs =>
        advance cs
        return escaped c
      | ['\\'] => failure
      | c :: cs =>
        advance cs
        return single c

/-- What stands between parentheses. -/
def group (d : Dialect) : Nat → Reading Regex
  | 0 => failure
  | fuel + 1 => do
    let n := (← get).groups + 1
    modify fun s => { s with groups := n }
    let a ← branches d fuel true
    if ← passes d ')' then return .group n a else failure

end

end Reading

/-- The pattern that a text writes. -/
def ofText? (d : Dialect) (cs : List Char) : Option Regex := do
  let (found, s) ← (Reading.branches d (4 * cs.length + 8) false).run ⟨cs, 0⟩
  if s.rest.isEmpty then return found else none

end LanguageClient.Regex
