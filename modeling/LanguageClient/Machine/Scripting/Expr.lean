/-!
# Expressions and statements of scripts
-/

namespace LanguageClient.Scripting

/-- Operators between two values. -/
inductive Operator
  | add | sub | mul | div | floorDiv | mod | pow | matMul
  | shiftLeft | shiftRight | and | or | xor
  deriving DecidableEq, Repr

namespace Operator

def text : Operator → String
  | .add => "+" | .sub => "-" | .mul => "*" | .div => "/" | .floorDiv => "//" | .mod => "%"
  | .pow => "**" | .matMul => "@" | .shiftLeft => "<<" | .shiftRight => ">>" | .and => "&"
  | .or => "|" | .xor => "^"

def all : List Operator := [
  .add, .sub, .mul, .div, .floorDiv, .mod, .pow, .matMul, .shiftLeft, .shiftRight, .and, .or, .xor]

def ofText? (s : String) : Option Operator := all.find? fun o => o.text = s

/-- The method of an object that an operator stands for, and the one that is asked of the value on
the right if the other does not answer. -/
def methods : Operator → String × String
  | .add => ("__add__", "__radd__") | .sub => ("__sub__", "__rsub__")
  | .mul => ("__mul__", "__rmul__") | .div => ("__truediv__", "__rtruediv__")
  | .floorDiv => ("__floordiv__", "__rfloordiv__") | .mod => ("__mod__", "__rmod__")
  | .pow => ("__pow__", "__rpow__") | .matMul => ("__matmul__", "__rmatmul__")
  | .shiftLeft => ("__lshift__", "__rlshift__") | .shiftRight => ("__rshift__", "__rrshift__")
  | .and => ("__and__", "__rand__") | .or => ("__or__", "__ror__") | .xor => ("__xor__", "__rxor__")

end Operator

/-- Ways to compare two values. -/
inductive Comparison
  | eq | ne | lt | le | gt | ge | isIn | notIn | same | notSame
  deriving DecidableEq, Repr

/-- How an argument is given. -/
inductive Giving
  | plain
  | named (name : String)
  /-- Each item of a row. -/
  | row
  /-- Each entry of a table. -/
  | entries
  deriving DecidableEq, Repr

/-- How a parameter takes arguments. -/
inductive Taking
  /-- By its place only. -/
  | placed
  /-- By its place or its name. -/
  | either
  /-- By its name only. -/
  | named
  /-- What is left by place. -/
  | row
  /-- What is left by name. -/
  | entries
  deriving DecidableEq, Repr

/-- What a comprehension makes. -/
inductive Collection
  | list | set | dict | lazy
  deriving DecidableEq, Repr

mutual

inductive Expr where
  | none
  | bool (b : Bool)
  | whole (n : Nat)
  | double (f : Float)
  | text (cs : List Char)
  | bytes (bs : List UInt8)
  /-- Pieces of text and values between them, each with its conversion and format. -/
  | filled (pieces : List (Expr × Option Char × Option Expr))
  | ellipsis
  | name (s : String)
  | tuple (items : List Expr)
  | list (items : List Expr)
  | set (items : List Expr)
  /-- Entries; one without a key is a table whose entries are taken. -/
  | dict (entries : List (Option Expr × Expr))
  | attribute (e : Expr) (name : String)
  | item (e index : Expr)
  | slice (first last step : Option Expr)
  | call (f : Expr) (args : List (Giving × Expr))
  | negate (e : Expr)
  | plus (e : Expr)
  | invert (e : Expr)
  | not (e : Expr)
  | binary (o : Operator) (a b : Expr)
  | compare (first : Expr) (rest : List (Comparison × Expr))
  | both (a b : Expr)
  | either (a b : Expr)
  | choose (test yes no : Expr)
  | function (parameters : List (String × Taking × Option Expr)) (body : Expr)
  | collect (c : Collection) (key : Option Expr) (value : Expr) (clauses : List Clause)
  /-- Give a variable a value on the way. -/
  | assign (name : String) (e : Expr)
  /-- All items of a row, among other items. -/
  | spread (e : Expr)
  | yield (e : Option Expr)
  | yieldAll (e : Expr)

/-- A part of a comprehension. -/
inductive Clause where
  | each (target values : Expr)
  | only (test : Expr)

end

instance : Inhabited Expr := ⟨.none⟩

/-- A parameter, how it takes arguments and what it is without one. -/
abbrev Parameter := String × Taking × Option Expr

mutual

inductive Statement where
  | expr (e : Expr)
  | assign (targets : List Expr) (e : Expr)
  | update (target : Expr) (o : Operator) (e : Expr)
  | delete (targets : List Expr)
  | pass
  | leave
  | again
  | giveBack (e : Option Expr)
  | raise (e : Option Expr)
  | assert (test : Expr) (e : Option Expr)
  | outer (names : List String) (global : Bool)
  | bring (modules : List (String × Option String))
  /-- Names out of a module. -/
  | bringFrom (module : String) (names : List (String × Option String))
  | condition (test : Expr) (yes no : List Statement)
  | loop (test : Expr) (body after : List Statement)
  | each (target values : Expr) (body after : List Statement)
  | attempt (body : List Statement) (handlers : List Handler) (after last : List Statement)
  | within (contexts : List (Expr × Option Expr)) (body : List Statement)
  | define (name : String) (parameters : List Parameter) (body : List Statement)
      (decorators : List Expr)
  | object (name : String) (bases : List (Giving × Expr)) (body : List Statement)
      (decorators : List Expr)
  | select (subject : Expr) (arms : List Arm)

/-- What is done about exceptions of some kinds. -/
inductive Handler where
  | mk (kinds : Option Expr) (name : Option String) (body : List Statement)

/-- What is done with a subject that fits a pattern. -/
inductive Arm where
  | mk (pattern : Expr) (guard : Option Expr) (body : List Statement)

end

end LanguageClient.Scripting
