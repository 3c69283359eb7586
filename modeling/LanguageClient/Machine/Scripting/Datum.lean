import LanguageClient.Machine.Scripting.Numeral
import LanguageClient.Machine.Scripting.Value

/-!
# Data as text

What a script knows of JSON: numbers of any size, fields in their order, and texts whose characters
beyond ASCII may be written by their codes.
-/

namespace LanguageClient.Scripting

inductive Datum where
  | null
  | bool (b : Bool)
  | int (n : Int)
  | double (f : Float)
  | text (cs : List Char)
  | list (items : List Datum)
  | dict (entries : List (List Char × Datum))

instance : Inhabited Datum := ⟨.null⟩

namespace Datum

/-! ### Reading -/

/-- What is wrong with a text, and with how much of it left. -/
structure Fault where
  message : String
  left : Nat

abbrev Reading := StateT (List Char) (Except Fault)

def failWith {α : Type} (message : String) (left : Nat) : Reading α := throw ⟨message, left⟩

def isBlank (c : Char) : Bool := c = ' ' || c = '\t' || c = '\n' || c = '\r'

def blanks : Reading Unit := modify (·.dropWhile isBlank)

/-- The code of four digits. -/
def unit? (cs : List Char) : Option Nat :=
  let digits := cs.take 4
  if digits.length < 4 then none else Text.readBase 16 0 digits

/-- The characters of a text up to its closing quote; `start` is what was left at its quote. -/
def characters (start : List Char) : Nat → Reading (List Char)
  | 0 => failWith "Unterminated string starting at" start.length
  | fuel + 1 => do
    match ← get with
    | [] => failWith "Unterminated string starting at" start.length
    | '"' :: rest =>
      set rest
      return []
    | '\\' :: c :: rest =>
      let plain : List (Char × Char) := [
        ('"', '"'), ('\\', '\\'), ('/', '/'), ('b', '\x08'), ('f', '\x0c'), ('n', '\n'),
        ('r', '\r'),
        ('t', '\t')]
      match plain.lookup c with
      | some d =>
        set rest
        return d :: (← characters start fuel)
      | none =>
        if c ≠ 'u' then failWith "Invalid \\escape" (rest.length + 2)
        let some n := unit? rest | failWith "Invalid \\uXXXX escape" (rest.length + 1)
        let rest := rest.drop 4
        let low := match rest with
          | '\\' :: 'u' :: more => (unit? more).filter fun m => 0xDC00 ≤ m && m < 0xE000
          | _ => none
        match (if 0xD800 ≤ n && n < 0xDC00 then low else none) with
        | some m =>
          set (rest.drop 6)
          let code := 0x10000 + (n - 0xD800) * 0x400 + (m - 0xDC00)
          return Char.ofNat code :: (← characters start fuel)
        | none =>
          set rest
          let d := if 0xD800 ≤ n && n < 0xE000 then Text.Utf8.replacement else Char.ofNat n
          return d :: (← characters start fuel)
    | '\\' :: [] => failWith "Unterminated string starting at" start.length
    | c :: rest =>
      if c.toNat < 0x20 then failWith "Invalid control character at" (rest.length + 1)
      set rest
      return c :: (← characters start fuel)

/-- A number, if one is next. -/
def number : Reading (Option Datum) := do
  let cs ← get
  let (negative, digits) := match cs with
    | '-' :: rest => (true, rest)
    | rest => (false, rest)
  let own := match digits with
    | '0' :: _ => ['0']
    | digits => digits.takeWhile Char.isDigit
  if own.isEmpty then return none
  let rest := digits.drop own.length
  let (places, rest) := match rest with
    | '.' :: more =>
      let places := more.takeWhile Char.isDigit
      if places.isEmpty then ([], rest) else (places, more.drop places.length)
    | rest => ([], rest)
  let (power, rest) := match rest with
    | e :: more =>
      let (sign, more) := match more with
        | '-' :: more => (['-'], more)
        | '+' :: more => (['+'], more)
        | more => ([], more)
      let ds := more.takeWhile Char.isDigit
      if (e = 'e' || e = 'E') && !ds.isEmpty then (sign ++ ds, more.drop ds.length) else ([], rest)
    | [] => ([], [])
  set rest
  if places.isEmpty && power.isEmpty then
    let n := Int.ofNat (valueOf 10 own)
    return some (.int (if negative then -n else n))
  else
    let text := own ++ (if places.isEmpty then [] else '.' :: places) ++
      (if power.isEmpty then [] else 'e' :: power)
    let f := (doubleOf? text).getD 0
    return some (.double (if negative then -f else f))

/-- Words that stand for values. -/
def words : List (String × Datum) := [
  ("null", .null), ("true", .bool true), ("false", .bool false), ("NaN", .double (0.0 / 0.0)),
  ("Infinity", .double (1.0 / 0.0)), ("-Infinity", .double (-1.0 / 0.0))]

mutual

def value : Nat → Reading Datum
  | 0 => failWith "Expecting value" 0
  | fuel + 1 => do
    let cs ← get
    match cs with
    | '"' :: rest =>
      set rest
      return .text (← characters cs (fuel + 1))
    | '[' :: rest =>
      set rest
      blanks
      match ← get with
      | ']' :: rest =>
        set rest
        return .list []
      | _ => return .list (← items fuel)
    | '\x7b' :: rest =>
      set rest
      blanks
      match ← get with
      | '\x7d' :: rest =>
        set rest
        return .dict []
      | _ => return .dict (← entries fuel)
    | cs =>
      match words.find? fun w => w.1.toList.isPrefixOf cs with
      | some (w, d) =>
        set (cs.drop w.length)
        return d
      | none =>
        match ← number with
        | some d => return d
        | none => failWith "Expecting value" cs.length

def items : Nat → Reading (List Datum)
  | 0 => failWith "Expecting value" 0
  | fuel + 1 => do
    let first ← value fuel
    blanks
    match ← get with
    | ']' :: rest =>
      set rest
      return [first]
    | ',' :: rest =>
      set rest
      blanks
      return first :: (← items fuel)
    | cs => failWith "Expecting ',' delimiter" cs.length

def entries : Nat → Reading (List (List Char × Datum))
  | 0 => failWith "Expecting value" 0
  | fuel + 1 => do
    match ← get with
    | '"' :: rest =>
      set rest
      let key ← characters ('"' :: rest) (fuel + 1)
      blanks
      match ← get with
      | ':' :: rest =>
        set rest
        blanks
        let v ← value fuel
        blanks
        match ← get with
        | '\x7d' :: rest =>
          set rest
          return [(key, v)]
        | ',' :: rest =>
          set rest
          blanks
          return (key, v) :: (← entries fuel)
        | cs => failWith "Expecting ',' delimiter" cs.length
      | cs => failWith "Expecting ':' delimiter" cs.length
    | cs => failWith "Expecting property name enclosed in double quotes" cs.length

end

/-- The value of a whole text. -/
def parse (cs : List Char) : Except Fault Datum := do
  let whole : Reading Datum := do
    blanks
    let found ← value (cs.length + 1)
    blanks
    let rest ← get
    if rest.isEmpty then return found else failWith "Extra data" rest.length
  return (← whole.run cs).1

/-- What is said about a fault in a text. -/
def Fault.report (f : Fault) (cs : List Char) : String :=
  let place := cs.length - f.left
  let before := cs.take place
  let line := before.countP (· = '\n') + 1
  let column := (before.reverse.takeWhile (· ≠ '\n')).length + 1
  f.message ++ ": line " ++ Nat.repr line ++ " column " ++ Nat.repr column ++ " (char " ++
    Nat.repr place ++ ")"

/-! ### Writing -/

/-- How data are written. -/
structure Style where
  /-- What stands before an item for each level that it is in. -/
  indent : Option (List Char)
  betweenItems : List Char
  afterKey : List Char
  sorted : Bool
  ascii : Bool

/-- The code of a character in a text, of four digits. -/
def codeText (n : Nat) : List Char :=
  let digits := Nat.toDigits 16 n
  '\\' :: 'u' :: List.replicate (4 - digits.length) '0' ++ digits

/-- A character as it stands between quotes. -/
def escaped (ascii : Bool) (c : Char) : List Char :=
  let n := c.toNat
  if c = '"' then ['\\', '"']
  else if c = '\\' then ['\\', '\\']
  else if c = '\n' then ['\\', 'n']
  else if c = '\r' then ['\\', 'r']
  else if c = '\t' then ['\\', 't']
  else if c = '\x08' then ['\\', 'b']
  else if c = '\x0c' then ['\\', 'f']
  else if n < 0x20 || (ascii && 0x7f ≤ n && n < 0x10000) then codeText n
  else if ascii && 0x10000 ≤ n then
    let m := n - 0x10000
    codeText (0xD800 + m / 0x400) ++ codeText (0xDC00 + m % 0x400)
  else [c]

def quotedText (ascii : Bool) (cs : List Char) : List Char :=
  '"' :: cs.flatMap (escaped ascii) ++ ['"']

/-- The text of a number in data. -/
def numberText (f : Float) : List Char :=
  if f.isNaN then "NaN".toList
  else if f.isInf then (if f < 0 then "-Infinity" else "Infinity").toList
  else doubleText f

/-- The break before an item at some level. -/
def Style.break (s : Style) (level : Nat) : List Char :=
  match s.indent with
  | some cs => '\n' :: (List.replicate level cs).flatten
  | none => []

/-- Items between brackets. -/
def Style.enclose (s : Style) (level : Nat) (first last : Char) (items : List (List Char)) :
    List Char :=
  if items.isEmpty then [first, last]
  else
    first :: s.break (level + 1) ++
      List.intercalate (s.betweenItems ++ s.break (level + 1)) items ++ s.break level ++ [last]

mutual

def render (s : Style) (level : Nat) : Datum → List Char
  | .null => "null".toList
  | .bool true => "true".toList
  | .bool false => "false".toList
  | .int n => intText n
  | .double f => numberText f
  | .text cs => quotedText s.ascii cs
  | .list items => s.enclose level '[' ']' (renderItems s (level + 1) items)
  | .dict entries =>
    let shown := renderEntries s (level + 1) entries
    let shown := if s.sorted then
        shown.mergeSort fun a b => String.ofList a.1 ≤ String.ofList b.1
      else shown
    s.enclose level '\x7b' '\x7d' (shown.map fun (key, cs) =>
      quotedText s.ascii key ++ s.afterKey ++ cs)

def renderItems (s : Style) (level : Nat) : List Datum → List (List Char)
  | [] => []
  | d :: rest => render s level d :: renderItems s level rest

def renderEntries (s : Style) (level : Nat) :
    List (List Char × Datum) → List (List Char × List Char)
  | [] => []
  | (key, d) :: rest => (key, render s level d) :: renderEntries s level rest

end

mutual

/-- The value of a datum. -/
def toValue : Datum → Doing Value
  | .null => return .none
  | .bool b => return .bool b
  | .int n => return .int n
  | .double f => return .double f
  | .text cs => return .text cs
  | .list items => do newList (← toValues items)
  | .dict entries => do
    let found ← toEntries entries
    newObject (.dict (found.foldl (fun es (k, v) => putEntry es k v) #[]) none)

def toValues : List Datum → Doing (List Value)
  | [] => return []
  | d :: rest => do
    let v ← toValue d
    return v :: (← toValues rest)

def toEntries : List (List Char × Datum) → Doing (List (Value × Value))
  | [] => return []
  | (key, d) :: rest => do
    let v ← toValue d
    return (.text key, v) :: (← toEntries rest)

end

end Datum

end LanguageClient.Scripting
