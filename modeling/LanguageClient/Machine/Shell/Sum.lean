import LanguageClient.Text.Digits

/-!
# Sums of shell scripts

Sums are over whole numbers of 64 bits, with sign. They may give values to variables; parts that do
not count because of a condition give none.
-/

namespace LanguageClient.Shell

inductive Sum
  | number (n : Int)
  | named (name : String)
  | apply (operator : String) (a : Sum)
  | combine (operator : String) (a b : Sum)
  | choose (test yes no : Sum)
  /-- Give a variable a value, which an operator may make of its own value and another. -/
  | assign (operator : String) (name : String) (a : Sum)

namespace Sum

/-! ### Reading -/

/-- The greatest number. -/
def most : Int := 0x7fffffffffffffff

/-- A whole number in the base that its first digits tell, and what follows. -/
def number? (cs : List Char) : Option (Int × List Char) :=
  let (base, digits) := match cs with
    | '0' :: x :: d :: rest =>
      if (x = 'x' || x = 'X') && (Text.digitIn 16 d).isSome then (16, d :: rest) else (8, cs)
    | '0' :: _ => (8, cs)
    | _ => (10, cs)
  let own := digits.takeWhile fun c => (Text.digitIn base c).isSome
  if own.isEmpty then none
  else return (min most (Int.ofNat ((Text.readBase base 0 own).getD 0)), digits.drop own.length)

/-- Operators of two sides by how closely they bind, the loosest first. -/
def levels : List (List String) := [
  ["||"], ["&&"], ["|"], ["^"], ["&"], ["==", "!="], ["<=", ">=", "<", ">"], ["<<", ">>"],
  ["+", "-"], ["*", "/", "%"]]

/-- Operators that are written before an equals sign to combine and assign. -/
def assigning : List String := ["", "+", "-", "*", "/", "%", "<<", ">>", "&", "^", "|"]

def dropBlanks (cs : List Char) : List Char := cs.dropWhile (·.isWhitespace)

/-- What follows an operator, if it is next; it is not if it is part of another one. -/
def after? (operator : String) (cs : List Char) : Option (List Char) :=
  let cs := dropBlanks cs
  if !operator.toList.isPrefixOf cs then none
  else
    let rest := cs.drop operator.length
    let longer := match rest with
      | '=' :: next :: _ =>
        operator ∉ ["==", "!=", "<=", ">="] && (operator ∈ ["<", ">"] || next ≠ '=')
      | '=' :: [] => operator ∉ ["==", "!=", "<=", ">="]
      | c :: _ => (operator ∈ ["|", "&", "<", ">"]) && operator = String.singleton c
      | [] => false
    if longer then none else some rest

def isNameChar (c : Char) : Bool := c.isAlphanum || c = '_'

/-- The operator of an assignment and what follows it. -/
def assignment? (cs : List Char) : Option (String × List Char) :=
  let cs := dropBlanks cs
  assigning.findSome? fun o =>
    let rest := cs.drop (o.length + 1)
    if (o ++ "=").toList.isPrefixOf cs && rest.head? ≠ some '=' then some (o, rest) else none

mutual

/-- A whole sum. -/
def whole : Nat → List Char → Option (Sum × List Char)
  | 0, _ => none
  | fuel + 1, cs => do
    let start := dropBlanks cs
    let name := start.takeWhile isNameChar
    let target := if name.head?.any (·.isDigit) || name.isEmpty then none
      else assignment? (start.drop name.length)
    match target with
    | some (o, rest) =>
      let (a, rest) ← whole fuel rest
      return (.assign o (String.ofList name) a, rest)
    | none =>
      let (test, rest) ← level fuel levels cs
      match dropBlanks rest with
      | '?' :: rest =>
        let (yes, rest) ← whole fuel rest
        let ':' :: rest := dropBlanks rest | none
        let (no, rest) ← whole fuel rest
        return (.choose test yes no, rest)
      | rest => return (test, rest)

/-- A sum of operators that bind at least so closely. -/
def level : Nat → List (List String) → List Char → Option (Sum × List Char)
  | 0, _, _ => none
  | fuel + 1, [], cs => single fuel cs
  | fuel + 1, operators :: closer, cs => do
    let (a, rest) ← level fuel closer cs
    further fuel operators closer a rest

/-- Further operators of one level. -/
def further : Nat → List String → List (List String) → Sum → List Char → Option (Sum × List Char)
  | 0, _, _, _, _ => none
  | fuel + 1, operators, closer, a, cs =>
    match operators.findSome? fun o => (after? o cs).map (o, ·) with
    | some (o, rest) => do
      let (b, rest) ← level fuel closer rest
      further fuel operators closer (.combine o a b) rest
    | none => some (a, cs)

/-- A number, a variable, a sum in parentheses, or one of these with a sign. -/
def single : Nat → List Char → Option (Sum × List Char)
  | 0, _ => none
  | fuel + 1, cs =>
    match dropBlanks cs with
    | '(' :: rest => do
      let (a, rest) ← whole fuel rest
      let ')' :: rest := dropBlanks rest | none
      return (a, rest)
    | c :: rest =>
      if c ∈ ['+', '-', '!', '~'] then do
        let (a, rest) ← single fuel rest
        return (.apply (String.singleton c) a, rest)
      else if c.isDigit then (number? (c :: rest)).map fun (n, rest) => (.number n, rest)
      else if isNameChar c then
        some (.named (String.ofList ((c :: rest).takeWhile isNameChar)),
          (c :: rest).dropWhile isNameChar)
      else none
    | [] => none

end

/-- The sum that a text is. -/
def parse (cs : List Char) : Option Sum := do
  if (dropBlanks cs).isEmpty then return .number 0
  let (a, rest) ← whole (16 * cs.length + 32) cs
  if (dropBlanks rest).isEmpty then return a else none

/-! ### Values -/

/-- How many numbers there are. -/
def modulus : Nat := 0x10000000000000000

/-- The number that a number comes to. -/
def wrap (n : Int) : Int := Int.bmod n modulus

def truth (b : Bool) : Int := if b then 1 else 0

/-- The bits of a number. -/
def bits (n : Int) : Nat := (n % (modulus : Int)).toNat

/-- The number with some bits. -/
def ofBits (n : Nat) : Int := wrap (Int.ofNat n)

/-- The value of an operator of two sides; nothing for a division by zero. -/
def combined (operator : String) (a b : Int) : Option Int :=
  match operator with
  | "+" => some (wrap (a + b))
  | "-" => some (wrap (a - b))
  | "*" => some (wrap (a * b))
  | "/" => if b = 0 then none else some (wrap (a.tdiv b))
  | "%" => if b = 0 then none else some (a.tmod b)
  | "<<" => some (wrap (Int.ofNat (bits a <<< (bits b % 64))))
  | ">>" => some (a >>> (bits b % 64))
  | "&" => some (ofBits (bits a &&& bits b))
  | "^" => some (ofBits (bits a ^^^ bits b))
  | "|" => some (ofBits (bits a ||| bits b))
  | "==" => some (truth (a = b))
  | "!=" => some (truth (a ≠ b))
  | "<" => some (truth (a < b))
  | ">" => some (truth (b < a))
  | "<=" => some (truth (a ≤ b))
  | ">=" => some (truth (b ≤ a))
  | _ => none

/-- The value of an operator of one side. -/
def applied (operator : String) (a : Int) : Int :=
  match operator with
  | "-" => wrap (-a)
  | "!" => truth (a = 0)
  | "~" => -a - 1
  | _ => a

/-- The value of a sum, given a way to look variables up and to set them. -/
def value {m : Type → Type} [Monad m] (look : String → m Int) (set : String → Int → m Unit)
    (fault : m Int) : Sum → m Int
  | .number n => return wrap n
  | .named name => look name
  | .apply o a => return applied o (← a.value look set fault)
  | .combine o a b => do
    let x ← a.value look set fault
    if o = "&&" && x = 0 then return 0
    if o = "||" && x ≠ 0 then return 1
    let y ← b.value look set fault
    if o = "&&" || o = "||" then return truth (y ≠ 0)
    match combined o x y with
    | some n => return n
    | none => fault
  | .choose test yes no => do
    if (← test.value look set fault) ≠ 0 then yes.value look set fault
    else no.value look set fault
  | .assign o name a => do
    let y ← a.value look set fault
    let found ← if o = "" then pure (some y) else do
      let x ← look name
      pure (combined o x y)
    match found with
    | some n =>
      set name n
      return n
    | none => fault

end Sum

end LanguageClient.Shell
