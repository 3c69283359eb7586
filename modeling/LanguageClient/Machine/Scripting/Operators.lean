import LanguageClient.Machine.Scripting.Show

/-!
# Operators of scripts

What operators make of values: of numbers, of rows, and of objects whose classes say so.
-/

namespace LanguageClient.Scripting

/-- Bits that are enough for two numbers, with a sign. -/
def bitsFor (a b : Int) : Nat := Nat.log2 (max a.natAbs b.natAbs + 1) + 2

/-- Combine the bits of two numbers. -/
def byBits (f : Nat → Nat → Nat) (a b : Int) : Int :=
  let modulus := Nat.pow 2 (bitsFor a b)
  let found := f (a.emod modulus).toNat (b.emod modulus).toNat
  if modulus ≤ 2 * found then Int.ofNat found - modulus else found

/-- A bound on how long numbers get. -/
def powerLimit : Nat := 100000

def zeroDivision {α : Type} (message : String) : Doing α := fault "ZeroDivisionError" message

/-- What an operator makes of two numbers; nothing when it is not for numbers. -/
def arithmetic (o : Operator) (x y : Number) : Option (Doing Value) :=
  let double (f : Float → Float → Float) : Option (Doing Value) :=
    some (return .double (f x.toDouble y.toDouble))
  let quotient (a b : Float) : Float := (a / b).floor
  match o, x, y with
  | .add, .int a, .int b => some (return .int (a + b))
  | .sub, .int a, .int b => some (return .int (a - b))
  | .mul, .int a, .int b => some (return .int (a * b))
  | .floorDiv, .int a, .int b => some do
    if b = 0 then zeroDivision "integer division or modulo by zero"
    return .int (Int.fdiv a b)
  | .mod, .int a, .int b => some do
    if b = 0 then zeroDivision "integer modulo by zero"
    return .int (Int.fmod a b)
  | .pow, .int a, .int b => some do
    if b < 0 then
      if a = 0 then zeroDivision "0.0 cannot be raised to a negative power"
      return .double (Float.pow (Float.ofInt a) (Float.ofInt b))
    if powerLimit < (Nat.log2 a.natAbs + 1) * b.toNat then throw .spent
    return .int (Int.pow a b.toNat)
  | .shiftLeft, .int a, .int b => some do
    if b < 0 then fault "ValueError" "negative shift count"
    if powerLimit < b.toNat then throw .spent
    return .int (a * Nat.pow 2 b.toNat)
  | .shiftRight, .int a, .int b => some do
    if b < 0 then fault "ValueError" "negative shift count"
    return .int (a >>> b.toNat)
  | .and, .int a, .int b => some (return .int (byBits Nat.land a b))
  | .or, .int a, .int b => some (return .int (byBits Nat.lor a b))
  | .xor, .int a, .int b => some (return .int (byBits Nat.xor a b))
  | .add, _, _ => double (· + ·)
  | .sub, _, _ => double (· - ·)
  | .mul, _, _ => double (· * ·)
  | .div, x, y => some do
    if y.toDouble == 0 then zeroDivision "division by zero"
    return .double (x.toDouble / y.toDouble)
  | .floorDiv, x, y => some do
    if y.toDouble == 0 then zeroDivision "float floor division by zero"
    return .double (quotient x.toDouble y.toDouble)
  | .mod, x, y => some do
    if y.toDouble == 0 then zeroDivision "float modulo"
    return .double (x.toDouble - quotient x.toDouble y.toDouble * y.toDouble)
  | .pow, _, _ => double Float.pow
  | _, _, _ => none

/-- A row several times over. -/
def repeated {α : Type} (n : Int) (row : List α) : List α := (List.replicate n.toNat row).flatten

/-- An operator of one value, asked of its class. -/
def unary (fuel : Nat) (r : Runner) (v : Value) (sign name : String) : Doing Value := do
  match ← special? fuel r v name with
  | some f => r.call f [] []
  | none =>
    fault "TypeError" ("bad operand type for unary " ++ sign ++ ": '" ++ (← kindName v) ++ "'")

def compareBy (fuel : Nat) (r : Runner) (o : Comparison) (a b : Value) : Doing Value := do
  match o with
  | .eq => return .bool (← equal fuel r a b)
  | .ne => return .bool !(← equal fuel r a b)
  | .isIn => return .bool (← contains fuel r b a)
  | .notIn => return .bool !(← contains fuel r b a)
  | .same => return .bool (isSame a b)
  | .notSame => return .bool !(isSame a b)
  | o => return .bool (← ordered fuel r o a b)

/-- An operator asked of the classes of its values. -/
def askBinary (fuel : Nat) (r : Runner) (o : Operator) (a b : Value) : Doing Value := do
  let ask (a b : Value) (name : String) : Doing Value := do
    match ← special? fuel r a name with
    | some f => r.call f [b] []
    | none => return .notImplemented
  match ← ask a b o.methods.1 with
  | .notImplemented =>
    match ← ask b a o.methods.2 with
    | .notImplemented =>
      match a, b, o with
      | .text _, b, .add =>
        fault "TypeError" ("can only concatenate str (not \"" ++ (← kindName b) ++ "\") to str")
      | .bytes _, b, .add => fault "TypeError" ("can't concat " ++ (← kindName b) ++ " to bytes")
      | a, b, o =>
        fault "TypeError" ("unsupported operand type(s) for " ++ o.text ++ ": '" ++
          (← kindName a) ++ "' and '" ++ (← kindName b) ++ "'")
    | v => return v
  | v => return v

def binary (fuel : Nat) (r : Runner) (o : Operator) (a b : Value) : Doing Value := do
  let simple : Option (Doing Value) := match number? a, number? b with
    | some x, some y => arithmetic o x y
    | _, _ => none
  match simple with
  | some result =>
    match o, a, b with
    | .and, .bool x, .bool y => return .bool (x && y)
    | .or, .bool x, .bool y => return .bool (x || y)
    | .xor, .bool x, .bool y => return .bool (x ^^ y)
    | _, _, _ => result
  | none =>
    match o, a, b with
    | .add, .text x, .text y => return .text (x ++ y)
    | .add, .bytes x, .bytes y => return .bytes (x ++ y)
    | .add, .tuple x, .tuple y => return .tuple (x ++ y)
    | .mul, .text x, .int n | .mul, .int n, .text x => return .text (repeated n x)
    | .mul, .bytes x, .int n | .mul, .int n, .bytes x => return .bytes (repeated n x)
    | .mul, .tuple x, .int n | .mul, .int n, .tuple x => return .tuple (repeated n x)
    | .mod, .text cs, b => return .text (← filledText fuel r cs b)
    | .mod, .bytes bs, b =>
      let cs := bs.map fun x => Char.ofNat x.toNat
      return .bytes ((← filledBytes fuel r cs b).map fun x => x.toNat.toUInt8)
    | o, a, b =>
      match o, ← object? a, ← object? b with
      | .add, some (.list x), some (.list y) => newObject (.list (x ++ y))
      | .mul, some (.list x), _ => newList (repeated ((int? b).getD 0) x.toList)
      | .mul, _, some (.list y) => newList (repeated ((int? a).getD 0) y.toList)
      | .or, some (.dict x u), some (.dict y _) =>
        newObject (.dict (y.foldl (fun es (k, v) => putEntry es k v) x) u)
      | .or, some (.set x f), some (.set y _) =>
        newObject (.set (distinct (x ++ y).toList) f)
      | .and, some (.set x f), some (.set y _) =>
        newObject (.set (x.filter fun v => y.any (·.same v)) f)
      | .sub, some (.set x f), some (.set y _) =>
        newObject (.set (x.filter fun v => !y.any (·.same v)) f)
      | .xor, some (.set x f), some (.set y _) =>
        newObject (.set ((x.filter fun v => !y.any (·.same v)) ++
          y.filter fun v => !x.any (·.same v)) f)
      | .add, some (.buffer x), _ => newObject (.buffer (x ++ (← bytesOf fuel r b)))
      | .add, _, some (.buffer y) => return .bytes ((← bytesOf fuel r a) ++ y)
      | o, _, _ => askBinary fuel r o a b

end LanguageClient.Scripting
