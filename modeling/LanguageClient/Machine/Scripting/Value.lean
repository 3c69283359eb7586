import LanguageClient.Machine.Process.Basic
import LanguageClient.Machine.Scripting.Expr
import LanguageClient.Text.Utf8

/-!
# Values of scripts

Values that change are objects on a heap, and are known by their places there; all others are what
they are. A script runs in a world: its heap, what it reads and writes, files and time.
-/

namespace LanguageClient.Scripting

inductive Value where
  | none
  | bool (b : Bool)
  | int (n : Int)
  | double (f : Float)
  | text (cs : List Char)
  | bytes (bs : List UInt8)
  | tuple (items : List Value)
  | range (first last step : Int)
  /-- An object, by its place on the heap. -/
  | object (place : Nat)
  /-- A function or a class that is there from the beginning, by its name. -/
  | native (name : String)
  /-- A method of a value that is there from the beginning. -/
  | method (self : Value) (name : String)
  | module (name : String)
  /-- The attributes that an object has from the classes above one. -/
  | parent (self above : Value)
  /-- One of the streams that a script has from the beginning. -/
  | stream (number : Nat) (text : Bool)
  | ellipsis
  | notImplemented

instance : Inhabited Value := ⟨.none⟩

/-- What a function needs to run. -/
structure Function where
  name : String
  parameters : List (String × Taking × Option Value)
  /-- The body, or the expression that it gives back. -/
  body : List Statement ⊕ Expr
  /-- The place of the scope that it was made in. -/
  scope : Nat
  /-- Names that belong to it. -/
  own : List String
  /-- Whether it gives its values one at a time. -/
  yields : Bool
  /-- The class that it is a method of. -/
  owner : Option Nat

/-- A file that is open, or a text that is used as one. -/
structure Opened where
  path : Option String
  content : List UInt8
  position : Nat
  text : Bool
  readable : Bool
  writable : Bool
  /-- Whether all that is written goes to the end. -/
  append : Bool
  closed : Bool

/-- Attributes in the order in which they were given. -/
abbrev Attributes := List (String × Value)

/-- Give an attribute a value. -/
def Attributes.put (name : String) (value : Value) : Attributes → Attributes
  | [] => [(name, value)]
  | (k, v) :: rest =>
    if k = name then (k, value) :: rest else (k, v) :: Attributes.put name value rest

inductive Object where
  | list (items : Array Value)
  /-- A table; `usual` makes the value of a key that it has not. -/
  | dict (entries : Array (Value × Value)) (usual : Option Value)
  | set (items : Array Value) (frozen : Bool)
  /-- Bytes that can be changed. -/
  | buffer (bytes : List UInt8)
  | function (f : Function)
  | class (name : String) (bases : List Value) (attributes : Attributes)
  | instance (kind : Value) (attributes : Attributes)
  /-- A function with its first argument. -/
  | bound (self function : Value)
  /-- An attribute that is found by calling a function, or one that belongs to the class. -/
  | special (kind : String) (function : Value)
  /-- Variables, where they are looked for next, and names that belong here. -/
  | scope (vars : Attributes) (outer : Option Nat) (own : List String) (ofClass : Bool)
      (elsewhere : List (String × Bool))
  /-- Values that are left to be taken. -/
  | iterator (rest : List Value)
  /-- A function that gives its values one at a time, and the scope of its call. -/
  | generator (f : Function) (scope : Nat) (ended : Bool)
  /-- Values that a function makes of others, or those of which it holds. -/
  | mapped (kind : String) (function : Value) (values : List Value)
  | file (f : Opened)
  | counter (next step : Int)

instance : Inhabited Object := ⟨.iterator []⟩

/-- Bytes that are kept back: how many they are, and the pieces of them, the latest first. -/
structure Kept where
  size : Nat
  pieces : List (List UInt8)

namespace Kept

def none : Kept := ⟨0, []⟩

def add (k : Kept) (bytes : List UInt8) : Kept := ⟨k.size + bytes.length, bytes :: k.pieces⟩

def all (k : Kept) : List UInt8 := k.pieces.reverse.flatten

end Kept

/-- What a script has to do with. -/
structure World where
  files : Files
  here : List Char
  /-- Variables from outside. -/
  vars : Table String
  /-- The words of the command: the script and its arguments. -/
  args : List String
  heap : Array Object
  /-- What is left of the piece that is being read. -/
  current : List UInt8
  coming : List (List UInt8)
  ended : Bool
  clock : Nat
  /-- What has been done, the latest first. -/
  acts : List Act
  /-- Text and bytes that have been written and wait to go out. -/
  pendingText : Kept
  pendingBytes : Kept
  /-- Whether what is written goes out at once. -/
  eager : Bool
  /-- Whether the output can still be written to. -/
  speaking : Bool
  /-- Whether the input can still be read. -/
  listening : Bool
  /-- What is provided for signals. -/
  handlers : List (Nat × Value)
  /-- The table of the variables from outside. -/
  environment : Option Nat
  /-- Functions that are called at the end, with their arguments, the latest first. -/
  farewells : List (Value × List Value)

/-- Why a script goes no further at some place. -/
inductive Halt where
  | raised (e : Value)
  | gaveBack (v : Value)
  | left
  | again
  /-- Nobody wants more values of a generator, and what is to happen then. -/
  | enough (generator : Nat) (why : Option Halt)
  | exited (status : ExitStatus)
  /-- Input is waited for that has not come. -/
  | blocked
  | spent

abbrev Doing := ExceptT Halt (StateM World)

/-! ### Kinds of exceptions -/

/-- The exceptions that there are from the beginning, each with the one that it is a kind of. -/
def exceptions : List (String × String) := [
  ("BaseException", "object"), ("Exception", "BaseException"), ("SystemExit", "BaseException"),
  ("KeyboardInterrupt", "BaseException"), ("GeneratorExit", "BaseException"),
  ("ArithmeticError", "Exception"), ("ZeroDivisionError", "ArithmeticError"),
  ("OverflowError", "ArithmeticError"), ("FloatingPointError", "ArithmeticError"),
  ("AssertionError", "Exception"), ("AttributeError", "Exception"), ("BufferError", "Exception"),
  ("EOFError", "Exception"), ("ImportError", "Exception"), ("ModuleNotFoundError", "ImportError"),
  ("LookupError", "Exception"), ("IndexError", "LookupError"), ("KeyError", "LookupError"),
  ("MemoryError", "Exception"), ("NameError", "Exception"), ("UnboundLocalError", "NameError"),
  ("OSError", "Exception"), ("BlockingIOError", "OSError"), ("ChildProcessError", "OSError"),
  ("ConnectionError", "OSError"), ("BrokenPipeError", "ConnectionError"),
  ("ConnectionAbortedError", "ConnectionError"), ("ConnectionRefusedError", "ConnectionError"),
  ("ConnectionResetError", "ConnectionError"), ("FileExistsError", "OSError"),
  ("FileNotFoundError", "OSError"), ("InterruptedError", "OSError"),
  ("IsADirectoryError", "OSError"), ("NotADirectoryError", "OSError"),
  ("PermissionError", "OSError"), ("ProcessLookupError", "OSError"), ("TimeoutError", "OSError"),
  ("ReferenceError", "Exception"), ("RuntimeError", "Exception"),
  ("NotImplementedError", "RuntimeError"), ("RecursionError", "RuntimeError"),
  ("StopIteration", "Exception"), ("StopAsyncIteration", "Exception"),
  ("SyntaxError", "Exception"), ("IndentationError", "SyntaxError"), ("SystemError", "Exception"),
  ("TypeError", "Exception"), ("ValueError", "Exception"), ("UnicodeError", "ValueError"),
  ("UnicodeDecodeError", "UnicodeError"), ("UnicodeEncodeError", "UnicodeError"),
  ("Warning", "Exception"), ("UserWarning", "Warning"), ("DeprecationWarning", "Warning"),
  ("json.JSONDecodeError", "ValueError"), ("struct.error", "Exception")]

/-- Other names of exceptions. -/
def otherNames : List (String × String) := [
  ("IOError", "OSError"), ("EnvironmentError", "OSError"), ("socket.error", "OSError"),
  ("socket.timeout", "TimeoutError"), ("json.decoder.JSONDecodeError", "json.JSONDecodeError")]

/-- An exception and all that it is a kind of. -/
def kindsFrom : Nat → String → List String
  | 0, _ => []
  | fuel + 1, name =>
    name :: match exceptions.lookup name with
      | some above => kindsFrom fuel above
      | none => []

/-- More kinds than an exception has. -/
def kindDepth : Nat := 10

/-! ### The heap -/

def newObject (o : Object) : Doing Value := do
  let place := (← get).heap.size
  modify fun w => { w with heap := w.heap.push o }
  return .object place

def objectAt (place : Nat) : Doing Object := return (← get).heap.getD place default

def setObject (place : Nat) (o : Object) : Doing Unit :=
  modify fun w => { w with heap := w.heap.set! place o }

def newList (items : List Value) : Doing Value := newObject (.list items.toArray)

def newDict (entries : List (Value × Value)) : Doing Value :=
  newObject (.dict entries.toArray none)

def ofString (s : String) : Value := .text s.toList

/-- Raise an exception of some kind. -/
def raise {α : Type} (kind : String) (args : List Value) : Doing α := do
  throw (.raised (← newObject (.instance (.native kind) [("args", .tuple args)])))

def fault {α : Type} (kind message : String) : Doing α := raise kind [ofString message]

/-- The object that a value is. -/
def object? (v : Value) : Doing (Option Object) := do
  match v with
  | .object place => some <$> objectAt place
  | _ => return none

/-! ### What values are -/

/-- Kinds of values that are there from the beginning. -/
def kinds : List String := [
  "int", "str", "float", "bool", "list", "dict", "tuple", "set", "bytes", "object", "type",
  "frozenset", "bytearray", "range"]

/-- The name of the class of a value. -/
def kindName (v : Value) : Doing String := do
  match v with
  | .none => return "NoneType"
  | .bool _ => return "bool"
  | .int _ => return "int"
  | .double _ => return "float"
  | .text _ => return "str"
  | .bytes _ => return "bytes"
  | .tuple _ => return "tuple"
  | .range _ _ _ => return "range"
  | .native name => return if (exceptions.lookup name).isSome then "type"
      else if name ∈ kinds then "type"
      else "builtin_function_or_method"
  | .method _ _ => return "builtin_function_or_method"
  | .module _ => return "module"
  | .parent _ _ => return "super"
  | .stream _ text => return if text then "TextIOWrapper" else "BufferedReader"
  | .ellipsis => return "ellipsis"
  | .notImplemented => return "NotImplementedType"
  | .object place =>
    match ← objectAt place with
    | .list _ => return "list"
    | .dict _ usual => return if usual.isSome then "defaultdict" else "dict"
    | .set _ frozen => return if frozen then "frozenset" else "set"
    | .buffer _ => return "bytearray"
    | .function _ => return "function"
    | .class _ _ _ => return "type"
    | .instance kind _ =>
      match kind with
      | .native name => return (name.splitOn ".").getLastD name
      | .object k =>
        match ← objectAt k with
        | .class name _ _ => return name
        | _ => return "object"
      | _ => return "object"
    | .bound _ _ => return "method"
    | .special kind _ => return kind
    | .scope _ _ _ _ _ => return "frame"
    | .iterator _ => return "list_iterator"
    | .generator _ _ _ => return "generator"
    | .mapped kind _ _ => return kind
    | .file f => return if f.text then "TextIOWrapper" else "BufferedRandom"
    | .counter _ _ => return "count"

/-- A number, whole or not. -/
inductive Number
  | int (n : Int)
  | double (f : Float)

def Number.value : Number → Value
  | .int n => .int n
  | .double f => .double f

def Number.toDouble : Number → Float
  | .int n => Float.ofInt n
  | .double f => f

def number? : Value → Option Number
  | .int n => some (.int n)
  | .bool b => some (.int (if b then 1 else 0))
  | .double f => some (.double f)
  | _ => none

/-- The whole number that a value is. -/
def int? : Value → Option Int
  | .int n => some n
  | .bool b => some (if b then 1 else 0)
  | _ => none

/-- How two numbers compare; nothing when they do not. -/
def Number.order (a b : Number) : Option Ordering :=
  match a, b with
  | .int x, .int y => some (compare x y)
  | a, b =>
    let x := a.toDouble
    let y := b.toDouble
    if x < y then some .lt else if y < x then some .gt else if x == y then some .eq else none

/-- How two rows compare, by how their items do. -/
def orderOf {α : Type} (order : α → α → Ordering) : List α → List α → Ordering
  | [], [] => .eq
  | [], _ => .lt
  | _, [] => .gt
  | a :: as, b :: bs =>
    match order a b with
    | .eq => orderOf order as bs
    | o => o

mutual

/-- Whether two values are the same key. -/
def Value.same : Value → Value → Bool
  | .text a, .text b => a = b
  | .bytes a, .bytes b => a = b
  | .tuple a, .tuple b => Value.sameItems a b
  | .none, .none => true
  | .object a, .object b => a = b
  | .native a, .native b => a = b
  | .module a, .module b => a = b
  | .method a n, .method b m => n = m && Value.same a b
  | .range a b c, .range d e f => a = d && b = e && c = f
  | .stream a x, .stream b y => a = b && x = y
  | .ellipsis, .ellipsis => true
  | .notImplemented, .notImplemented => true
  | a, b =>
    match number? a, number? b with
    | some x, some y => x.order y = some .eq
    | _, _ => false

def Value.sameItems : List Value → List Value → Bool
  | [], [] => true
  | a :: as, b :: bs => Value.same a b && Value.sameItems as bs
  | _, _ => false

end

/-- How many items a range has. -/
def rangeSize (first last step : Int) : Nat :=
  let count :=
    if 0 < step then (last - first + step - 1) / step
    else if step < 0 then (first - last - step - 1) / (-step)
    else 0
  count.toNat

/-- The items of a range are all taken together only if they are no more than these. -/
def rangeLimit : Nat := 5000000

/-- The items of a range. -/
def rangeItems (first last step : Int) : Doing (List Value) := do
  let count := rangeSize first last step
  if rangeLimit < count then throw .spent
  return (List.range count).map fun (i : Nat) => .int (first + step * i)

/-- Whether a value counts as true, unless its class has something to say about that. -/
def isTrue (v : Value) : Doing Bool := do
  match v with
  | .none => return false
  | .bool b => return b
  | .int n => return n ≠ 0
  | .double f => return !(f == 0)
  | .text cs => return !cs.isEmpty
  | .bytes bs => return !bs.isEmpty
  | .tuple items => return !items.isEmpty
  | .range a b c => return rangeSize a b c ≠ 0
  | .object place =>
    match ← objectAt place with
    | .list items => return !items.isEmpty
    | .dict entries _ => return !entries.isEmpty
    | .set items _ => return !items.isEmpty
    | .buffer bytes => return !bytes.isEmpty
    | _ => return true
  | _ => return true

/-! ### Tables -/

/-- Where a key stands in entries. -/
def entryIndex? (entries : Array (Value × Value)) (key : Value) : Option Nat :=
  entries.findIdx? fun e => e.1.same key

def putEntry (entries : Array (Value × Value)) (key value : Value) : Array (Value × Value) :=
  match entryIndex? entries key with
  | some i => entries.modify i fun e => (e.1, value)
  | none => entries.push (key, value)

/-- Items without those that are there before them. -/
def distinct (items : List Value) : Array Value :=
  items.foldl (fun found v => if found.any (·.same v) then found else found.push v) #[]

/-- A value can only be a key if it does not change. -/
def asKey (v : Value) : Doing Value := do
  match ← object? v with
  | some (.list _) | some (.dict _ _) | some (.set _ false) | some (.buffer _) =>
    fault "TypeError" ("unhashable type: '" ++ (← kindName v) ++ "'")
  | _ => return v

/-! ### Streams and time -/

def act (a : Act) : Doing Unit := modify fun w => { w with acts := a :: w.acts }

/-- Time goes by. -/
def elapse (millis : Nat) : Doing Unit := do
  act (.pause millis)
  modify fun w => { w with clock := w.clock + millis }
  if horizon < (← get).clock then throw .spent

/-- How many bytes are kept back before they go out. -/
def bufferSize : Nat := 8192

def emit (bytes : List UInt8) : Doing Unit := do
  if (← get).speaking && !bytes.isEmpty then act (.write bytes)

/-- What waits goes out. -/
def flushBytes : Doing Unit := do
  let w ← get
  set { w with pendingBytes := .none }
  emit w.pendingBytes.all

/-- Write bytes; they wait until there are many. -/
def writeBytes (bytes : List UInt8) : Doing Unit := do
  let w ← get
  if w.eager then emit bytes
  else if w.pendingBytes.size + bytes.length ≤ bufferSize then
    set { w with pendingBytes := w.pendingBytes.add bytes }
  else
    flushBytes
    if bufferSize < bytes.length then emit bytes
    else modify fun w => { w with pendingBytes := Kept.none.add bytes }

def flushText : Doing Unit := do
  let w ← get
  set { w with pendingText := .none }
  writeBytes w.pendingText.all

/-- Everything that waits goes out. -/
def flushAll : Doing Unit := do
  flushText
  flushBytes

/-- Write text; it waits as well, before the bytes do. -/
def writeText (cs : List Char) : Doing Unit := do
  let bytes := Json.utf8 (String.ofList cs)
  modify fun w => { w with pendingText := w.pendingText.add bytes }
  let w ← get
  if w.eager || bufferSize ≤ w.pendingText.size then flushText

/-- The next piece of what comes in; nothing at its end. -/
def nextPiece : Doing (Option (List UInt8)) := do
  let w ← get
  if !w.current.isEmpty then return some w.current
  match w.coming with
  | piece :: coming =>
    set { w with current := piece, coming }
    return some piece
  | [] => if w.ended then return none else throw .blocked

def dropInput (count : Nat) : Doing Unit :=
  modify fun w => { w with current := w.current.drop count }

/-- More rounds than any reading needs. -/
def patience : Nat := 100000

/-- A line with its end, or what is left at the end of all. -/
def readLine : Nat → Doing (List UInt8)
  | 0 => throw .spent
  | fuel + 1 => do
    match ← nextPiece with
    | none => return []
    | some piece =>
      let head := piece.takeWhile (· ≠ 0x0A)
      if head.length < piece.length then
        dropInput (head.length + 1)
        return head ++ [0x0A]
      else
        dropInput head.length
        return head ++ (← readLine fuel)

/-- So many bytes, or fewer at the end. -/
def readCount : Nat → Nat → Doing (List UInt8)
  | 0, _ => throw .spent
  | _ + 1, 0 => return []
  | fuel + 1, count => do
    match ← nextPiece with
    | none => return []
    | some piece =>
      let head := piece.take count
      dropInput head.length
      return head ++ (← readCount fuel (count - head.length))

/-- Everything up to the end. -/
def readAll : Nat → Doing (List UInt8)
  | 0 => throw .spent
  | fuel + 1 => do
    match ← nextPiece with
    | none => return []
    | some piece =>
      dropInput piece.length
      return piece ++ (← readAll fuel)

/-- As many bytes as there are, up to a number of them. -/
def readSome (count : Nat) : Doing (List UInt8) := do
  if count = 0 then return []
  match ← nextPiece with
  | none => return []
  | some piece =>
    let head := piece.take count
    dropInput head.length
    return head

/-- The text of bytes; they have to be UTF-8. -/
def decoded (bytes : List UInt8) : Doing (List Char) := do
  match Text.Utf8.fault? bytes with
  | none => return Text.Utf8.chars bytes
  | some f =>
    fault "UnicodeDecodeError" ("'utf-8' codec can't decode byte in position " ++ Nat.repr f.index)

end LanguageClient.Scripting
