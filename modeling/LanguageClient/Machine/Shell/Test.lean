import LanguageClient.Machine.Shell.Format

/-!
# Tests of shell scripts

A test is about texts, numbers and files. With up to four words it is read by their number, and
otherwise by how closely the operators bind.
-/

namespace LanguageClient.Shell

/-- What a test can be about. -/
structure Testing where
  /-- What is true of a file, by the operator that asks. -/
  file : Char → List Char → Bool
  /-- Whether the first of two files is newer than the second. -/
  newer : List Char → List Char → Bool
  same : List Char → List Char → Bool

namespace Testing

abbrev Words := List (List Char)

inductive Sign
  | single (letter : Char)
  | double (name : String)
  | negation
  | and
  | or
  | opening
  | closing
  | operand
  | nothing
  deriving DecidableEq

def singles : List Char := "rwxefdcbpugkshStznGOL".toList

def doubles : List String := [
  "=", "!=", "<", ">", "-eq", "-ne", "-ge", "-gt", "-le", "-lt", "-nt", "-ot", "-ef"]

/-- The operator that a word is. -/
def operator? (w : List Char) : Option Sign :=
  match w with
  | ['!'] => some .negation
  | ['('] => some .opening
  | [')'] => some .closing
  | ['-', 'a'] => some .and
  | ['-', 'o'] => some .or
  | ['-', c] => if c ∈ singles then some (.single c) else none
  | w => if String.ofList w ∈ doubles then some (.double (String.ofList w)) else none

def isDouble (w : List Char) : Bool :=
  match operator? w with
  | some (.double _) => true
  | _ => false

/-- What the first of some words is. -/
def sign : Words → Sign
  | [] => .nothing
  | w :: rest =>
    let isOperand := match rest with
      | [] => true
      | [_] => false
      | next :: _ :: _ => isDouble next
    match operator? w with
    | some (.single c) => if isOperand then .operand else .single c
    | some .opening => if rest.isEmpty then .operand else .opening
    | some s => s
    | none => .operand

/-- The number that a word is. -/
def integer? (w : List Char) : Option Int := do
  let cs := w.dropWhile (·.isWhitespace)
  let cs := (cs.reverse.dropWhile (·.isWhitespace)).reverse
  let (negative, digits) := match cs with
    | '-' :: rest => (true, rest)
    | '+' :: rest => (false, rest)
    | cs => (false, cs)
  if digits.isEmpty || !digits.all (·.isDigit) then none
  let n ← Text.readBase 10 0 digits
  return if negative then -(Int.ofNat n) else Int.ofNat n

/-- Whether two words stand in a relation; nothing when they are no numbers where they ought to
be. -/
def compare (t : Testing) (name : String) (a b : List Char) : Option Bool :=
  let numbers (holds : Int → Int → Bool) : Option Bool := do
    return holds (← integer? a) (← integer? b)
  match name with
  | "=" => some (a = b)
  | "!=" => some (a ≠ b)
  | "<" => some (String.ofList a < String.ofList b)
  | ">" => some (String.ofList b < String.ofList a)
  | "-eq" => numbers (· = ·)
  | "-ne" => numbers (· ≠ ·)
  | "-ge" => numbers (· ≥ ·)
  | "-gt" => numbers (· > ·)
  | "-le" => numbers (· ≤ ·)
  | "-lt" => numbers (· < ·)
  | "-nt" => some (t.newer a b)
  | "-ot" => some (t.newer b a)
  | _ => some (t.same a b)

def ask (t : Testing) (letter : Char) (w : List Char) : Option Bool :=
  match letter with
  | 'z' => some w.isEmpty
  | 'n' => some !w.isEmpty
  | 't' => (integer? w).map fun _ => false
  | c => some (t.file c w)

mutual

/-- Whether one of several holds; the words are those from the last that was looked at. -/
def any (t : Testing) : Nat → Sign → Words → Option (Bool × Words)
  | 0, _, _ => none
  | fuel + 1, s, ws => do
    let (a, ws) ← t.all fuel s ws
    match sign (ws.drop 1) with
    | .or =>
      let rest := ws.drop 2
      let (b, ws) ← t.any fuel (sign rest) rest
      return (a || b, ws)
    | _ => return (a, ws)

/-- Whether all of several hold. -/
def all (t : Testing) : Nat → Sign → Words → Option (Bool × Words)
  | 0, _, _ => none
  | fuel + 1, s, ws => do
    let (a, ws) ← t.negated fuel s ws
    match sign (ws.drop 1) with
    | .and =>
      let rest := ws.drop 2
      let (b, ws) ← t.all fuel (sign rest) rest
      return (a && b, ws)
    | _ => return (a, ws)

def negated (t : Testing) : Nat → Sign → Words → Option (Bool × Words)
  | 0, _, _ => none
  | fuel + 1, .negation, ws => do
    let rest := ws.drop 1
    let (a, ws) ← t.negated fuel (sign rest) (if rest.isEmpty then ws else rest)
    return (!a, ws)
  | fuel + 1, s, ws => t.primary fuel s ws

def primary (t : Testing) : Nat → Sign → Words → Option (Bool × Words)
  | 0, _, _ => none
  | _ + 1, .nothing, ws => some (false, ws)
  | fuel + 1, .opening, ws => do
    let rest := ws.drop 1
    if sign rest = .closing then return (false, rest)
    let (a, ws) ← t.any fuel (sign rest) rest
    if sign (ws.drop 1) = .closing then return (a, ws.drop 1) else none
  | _ + 1, .single letter, ws => do
    let w :: _ := ws.drop 1 | none
    return (← t.ask letter w, ws.drop 1)
  | _ + 1, _, ws =>
    match ws with
    | a :: o :: rest =>
      match sign (o :: rest), rest with
      | .double name, b :: _ => do return (← t.compare name a b, rest)
      | .double _, [] => none
      | _, _ => some (!a.isEmpty, ws)
    | a :: [] => some (!a.isEmpty, ws)
    | [] => some (false, ws)

end

/-- The value of an expression of several words. -/
def expression (t : Testing) (s : Sign) (ws : Words) : Option Bool := do
  let (a, ws) ← t.any (8 * ws.length + 8) s ws
  if ws.length ≤ 1 then return a else none

/-- Whether a test holds; nothing when it is none. -/
def holds? (t : Testing) : Nat → Words → Option Bool
  | 0, _ | _, [] => some false
  | fuel + 1, ws =>
    let several : Option Bool :=
      if ws.length = 3 || ws.length = 4 then
        if ws.head? = some ['('] && ws.getLast? = some [')'] then
          let inner := ws.tail.dropLast
          t.expression (sign inner) inner
        else if ws.head? = some ['!'] then (t.holds? fuel ws.tail).map (!·)
        else t.expression (sign ws) ws
      else t.expression (sign ws) ws
    match ws with
    | [_, o, _] => if isDouble o then t.expression .operand ws else several
    | _ => several

end Testing

end LanguageClient.Shell
