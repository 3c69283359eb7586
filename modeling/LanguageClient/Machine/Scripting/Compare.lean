import LanguageClient.Machine.Scripting.Objects

/-!
# Comparing values

Values of like kinds compare as what they are, and objects as their classes say.
-/

namespace LanguageClient.Scripting

/-- The order of numbers and texts; nothing for values that have none. -/
def plainOrder (a b : Value) : Option (Option Ordering) :=
  match a, b with
  | .text x, .text y => some (some (orderOf compare x y))
  | .bytes x, .bytes y => some (some (orderOf compare x y))
  | a, b =>
    match number? a, number? b with
    | some x, some y => some (x.order y)
    | _, _ => none

/-- Whether an order is what a comparison asks for. -/
def Comparison.holds (c : Comparison) (o : Option Ordering) : Bool :=
  match c, o with
  | .lt, some .lt | .le, some .lt | .le, some .eq => true
  | .gt, some .gt | .ge, some .gt | .ge, some .eq => true
  | _, _ => false

def Comparison.text : Comparison → String
  | .lt => "<" | .le => "<=" | .gt => ">" | .ge => ">=" | .eq => "==" | .ne => "!="
  | .isIn => "in" | .notIn => "not in" | .same => "is" | .notSame => "is not"

/-- The method of an object that a comparison asks, and the one of the value on the right. -/
def Comparison.methods : Comparison → String × String
  | .lt => ("__lt__", "__gt__") | .le => ("__le__", "__ge__") | .gt => ("__gt__", "__lt__")
  | .ge => ("__ge__", "__le__") | .eq => ("__eq__", "__eq__") | .ne => ("__ne__", "__ne__")
  | _ => ("", "")

/-- Whether two values are one. -/
def isSame (a b : Value) : Bool :=
  match a, b with
  | .bool x, .bool y => x = y
  | .bool _, _ | _, .bool _ => false
  | .int x, .int y => x = y
  | .double _, .int _ | .int _, .double _ => false
  | a, b => a.same b

/-- Whether two values are equal as their classes say. -/
def askEqual (fuel : Nat) (r : Runner) (a b : Value) : Doing Bool := do
  let ask (a b : Value) : Doing (Option Bool) := do
    match ← special? fuel r a "__eq__" with
    | some f =>
      match ← r.call f [b] [] with
      | .notImplemented => return none
      | v => some <$> truth fuel r v
    | none => return none
  match ← ask a b with
  | some found => return found
  | none => return (← ask b a).getD (a.same b)

mutual

def equal : Nat → Runner → Value → Value → Doing Bool
  | 0, _, _, _ => throw .spent
  | fuel + 1, r, a, b => do
    match a, b with
    | .tuple x, .tuple y => equalItems fuel r x y
    | .object x, .object y =>
      if x = y then return true
      match ← objectAt x, ← objectAt y with
      | .list x, .list y => equalItems fuel r x.toList y.toList
      | .dict x _, .dict y _ =>
        if x.size ≠ y.size then return false
        equalEntries fuel r y x.toList
      | .set x _, .set y _ => return x.size = y.size && x.all fun v => y.any (·.same v)
      | .buffer x, .buffer y => return x = y
      | _, _ => askEqual fuel r a b
    | .object x, .bytes y | .bytes y, .object x =>
      match ← objectAt x with
      | .buffer x => return x = y
      | _ => askEqual fuel r a b
    | .object _, _ | _, .object _ => askEqual fuel r a b
    | a, b => return a.same b

def equalItems : Nat → Runner → List Value → List Value → Doing Bool
  | 0, _, _, _ => throw .spent
  | _, _, [], [] => return true
  | fuel + 1, r, a :: as, b :: bs => do
    if ← equal fuel r a b then equalItems fuel r as bs else return false
  | _, _, _, _ => return false

def equalEntries : Nat → Runner → Array (Value × Value) → List (Value × Value) → Doing Bool
  | 0, _, _, _ => throw .spent
  | _, _, _, [] => return true
  | fuel + 1, r, entries, (k, v) :: rest => do
    match entries.find? fun e => e.1.same k with
    | some (_, w) => if ← equal fuel r v w then equalEntries fuel r entries rest else return false
    | none => return false

end

mutual

/-- Whether values compare as is asked. -/
def ordered : Nat → Runner → Comparison → Value → Value → Doing Bool
  | 0, _, _, _, _ => throw .spent
  | fuel + 1, r, o, a, b => do
    match plainOrder a b with
    | some found => return o.holds found
    | none =>
      let wrong : Doing Bool := do
        fault "TypeError" ("'" ++ o.text ++ "' not supported between instances of '" ++
          (← kindName a) ++ "' and '" ++ (← kindName b) ++ "'")
      match a, b with
      | .tuple x, .tuple y => orderedItems fuel r o x y
      | a, b =>
        match ← object? a, ← object? b with
        | some (.list x), some (.list y) => orderedItems fuel r o x.toList y.toList
        | some (.set x _), some (.set y _) =>
          let below (x y : Array Value) : Bool := x.all fun v => y.any (·.same v)
          match o with
          | .le => return below x y
          | .lt => return below x y && x.size < y.size
          | .ge => return below y x
          | _ => return below y x && y.size < x.size
        | _, _ =>
          match ← special? fuel r a o.methods.1 with
          | some f => truth fuel r (← r.call f [b] [])
          | none =>
            match ← special? fuel r b o.methods.2 with
            | some f => truth fuel r (← r.call f [a] [])
            | none => wrong

/-- Rows compare as the first items that differ do. -/
def orderedItems : Nat → Runner → Comparison → List Value → List Value → Doing Bool
  | 0, _, _, _, _ => throw .spent
  | _, _, o, [], [] => return o.holds (some .eq)
  | _, _, o, [], _ => return o.holds (some .lt)
  | _, _, o, _, [] => return o.holds (some .gt)
  | fuel + 1, r, o, a :: as, b :: bs => do
    if ← equal fuel r a b then orderedItems fuel r o as bs else ordered fuel r o a b

end

end LanguageClient.Scripting
