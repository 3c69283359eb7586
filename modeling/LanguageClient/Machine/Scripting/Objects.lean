import LanguageClient.Machine.Scripting.Scope

/-!
# Objects of scripts

The attributes of values: those that objects have themselves, those that come from their classes,
and the methods of values that are there from the beginning.
-/

namespace LanguageClient.Scripting

/-- Where something is run. -/
structure Context where
  scope : Nat
  /-- The exception that is being seen to. -/
  handled : Option Value
  /-- What is done with a value that is given on the way. -/
  yields : Option (Value → Doing Unit)
  /-- The class that the code belongs to, and the object that it is about. -/
  owner : Option Nat
  self : Option Value
  /-- How many calls there are around. -/
  depth : Nat

/-- What parts of a script are run with, by those who do not run them themselves. -/
structure Runner where
  context : Context
  call : Value → List Value → Attributes → Doing Value
  /-- Let a function give its values one at a time, as long as more are wanted. -/
  drive : Nat → (Value → Doing Bool) → Doing Bool
  eval : Expr → Doing Value
  exec : List Statement → Doing Unit

/-- Methods of values that are there from the beginning, by the names of their classes. -/
def methodNames (kind : String) : List String :=
  let rows := [
    "startswith", "endswith", "find", "rfind", "index", "rindex", "count", "strip", "lstrip",
    "rstrip", "split", "rsplit", "splitlines", "partition", "rpartition", "replace",
    "removeprefix", "removesuffix", "ljust", "rjust", "center", "isspace", "upper", "lower",
    "isdigit", "isalpha", "isalnum", "join"]
  let streams := [
    "read", "readline", "readlines", "write", "writelines", "flush", "close", "fileno", "isatty",
    "seek", "tell", "readable", "writable", "getvalue", "truncate", "detach", "reconfigure",
    "read1", "readinto", "__enter__", "__exit__", "__iter__", "__next__"]
  match kind with
  | "str" => rows ++ ["casefold", "title", "capitalize", "swapcase", "isnumeric", "isdecimal",
    "isascii", "isprintable", "isupper", "islower", "isidentifier", "zfill", "expandtabs",
    "encode", "format", "format_map"]
  | "bytes" | "bytearray" => rows ++ ["hex", "decode", "extend", "append", "clear"]
  | "list" => ["append", "extend", "insert", "pop", "remove", "index", "count", "sort", "reverse",
    "copy", "clear", "popleft", "appendleft"]
  | "dict" | "defaultdict" => ["get", "keys", "values", "items", "pop", "popitem", "setdefault",
    "update", "clear", "copy", "move_to_end"]
  | "set" | "frozenset" => ["add", "remove", "discard", "pop", "clear", "union", "intersection",
    "difference", "symmetric_difference", "update", "issubset", "issuperset", "isdisjoint", "copy"]
  | "tuple" | "range" => ["count", "index"]
  | "int" | "bool" => ["to_bytes", "bit_length"]
  | "float" => ["is_integer"]
  | "TextIOWrapper" | "BufferedReader" | "BufferedRandom" => streams
  | "generator" => ["close", "send", "__next__", "__iter__"]
  | _ => []

/-- Methods of objects that modules make. -/
def helperMethods (kind : String) : List String :=
  match kind with
  | "threading.Thread" | "threading.Timer" => ["start", "join", "is_alive", "cancel", "setDaemon"]
  | "threading.Lock" | "threading.RLock" =>
    ["acquire", "release", "locked", "__enter__", "__exit__"]
  | "threading.Event" => ["set", "wait", "is_set", "clear"]
  | "socket.socket" => ["connect", "connect_ex", "settimeout", "setsockopt", "close", "bind",
    "listen", "accept", "setblocking", "shutdown", "makefile", "sendall", "send", "recv", "fileno",
    "__enter__", "__exit__"]
  | "contextlib.suppress" => ["__enter__", "__exit__"]
  | _ => []

/-- A member of a class as it is found by way of an object. -/
def boundTo (_ : Nat) (r : Runner) (self kind f : Value) : Doing Value := do
  match ← object? f with
  | some (.function _) => newObject (.bound self f)
  | some (.special "property" g) => r.call g [self] []
  | some (.special "classmethod" g) => newObject (.bound kind g)
  | some (.special _ g) => return g
  | _ => return f

/-- A method that the class of an object has. -/
def special? (fuel : Nat) (r : Runner) (v : Value) (name : String) : Doing (Option Value) := do
  match ← object? v with
  | some (.instance kind _) =>
    match ← classMember? name (← ancestors classDepth kind) with
    | some f => some <$> boundTo fuel r v kind f
    | none => return none
  | _ => return none

/-- Whether a value counts as true. -/
def truth (fuel : Nat) (r : Runner) (v : Value) : Doing Bool := do
  match v with
  | .object _ =>
    match ← special? fuel r v "__bool__" with
    | some f => isTrue (← r.call f [] [])
    | none =>
      match ← special? fuel r v "__len__" with
      | some f => isTrue (← r.call f [] [])
      | none => isTrue v
  | v => isTrue v

def attributeOf? (fuel : Nat) (r : Runner) (v : Value) (name : String) : Doing (Option Value) := do
  if name = "__class__" then return some (← kindOf v)
  match v with
  | .module m => member? m name
  | .stream n text =>
    match name with
    | "buffer" | "raw" => return some (.stream n false)
    | "closed" =>
      let w ← getThe World
      return some (.bool ((n = 1 && !w.speaking) || (n = 0 && !w.listening)))
    | "encoding" => return some (ofString "utf-8")
    | "name" => return some (ofString (["<stdin>", "<stdout>", "<stderr>"].getD n ""))
    | "mode" => return some (ofString (if n = 0 then "r" else "w"))
    | name =>
      let kind := if text then "TextIOWrapper" else "BufferedReader"
      return if name ∈ methodNames kind then some (.method v name) else none
  | .native k =>
    if name = "__name__" || name = "__qualname__" then
      return some (ofString ((k.splitOn ".").getLastD k))
    else if k ++ "." ++ name ∈ natives then return some (.native (k ++ "." ++ name))
    else if name ∈ methodNames k || name ∈ ["__init__", "__str__", "__repr__"] then
      return some (.method v name)
    else return none
  | .parent self above =>
    let kinds ← ancestors classDepth (← kindOf self)
    let after := (kinds.dropWhile fun k => !k.same above).drop 1
    match ← classMember? name after with
    | some f => some <$> boundTo fuel r self (← kindOf self) f
    | none =>
      if name ∈ ["__init__", "__str__", "__repr__", "__init_subclass__", "__setattr__"] then
        return some (.method v name)
      else return none
  | .object place =>
    match ← objectAt place with
    | .instance kind attributes =>
      let kinds ← ancestors classDepth kind
      let ofClass ← classMember? name kinds
      let computed ← match ofClass with
        | some f =>
          match ← object? f with
          | some (.special "property" _) => pure true
          | _ => pure false
        | none => pure false
      match (if computed then none else attributes.lookup name), ofClass with
      | some found, _ => return some found
      | none, some f => some <$> boundTo fuel r v kind f
      | none, none =>
        if name = "__dict__" then
          some <$> newDict (attributes.map fun (k, x) => (ofString k, x))
        else if name = "code" && kinds.any (·.same (.native "SystemExit")) then
          match attributes.lookup "args" with
          | some (.tuple []) => return some .none
          | some (.tuple [a]) => return some a
          | other => return other
        else if name ∈ ["errno", "strerror", "filename"] &&
            kinds.any (·.same (.native "OSError")) then
          match attributes.lookup "args" with
          | some (.tuple args) =>
            return some (args.getD (if name = "errno" then 0 else 1) .none)
          | _ => return some .none
        else if name ∈ ["__cause__", "__context__", "__traceback__", "__doc__"] then
          return some .none
        else
          let helpers := kinds.flatMap fun
            | .native k => helperMethods k
            | _ => []
          return if name ∈ helpers then some (.method v name) else none
    | .class className bases attributes =>
      match name with
      | "__name__" | "__qualname__" => return some (ofString className)
      | "__dict__" => some <$> newDict (attributes.map fun (k, x) => (ofString k, x))
      | "__bases__" => return some (.tuple bases)
      | _ =>
        let kinds ← ancestors classDepth v
        match ← classMember? name kinds with
        | some f =>
          match ← object? f with
          | some (.special "classmethod" g) => some <$> newObject (.bound v g)
          | some (.special "staticmethod" g) => return some g
          | _ => return some f
        | none =>
          let builtIn := kinds.find? fun
            | .native _ => true
            | _ => false
          return builtIn.map fun k => .method k name
    | .function f =>
      match name with
      | "__name__" | "__qualname__" => return some (ofString f.name)
      | "__doc__" => return some .none
      | _ => return none
    | .special "property" g =>
      if name = "setter" || name = "getter" then return some (.method v name)
      else if name = "fget" then return some g
      else return none
    | .file f =>
      match name with
      | "closed" => return some (.bool f.closed)
      | "name" => return some (f.path.elim .none ofString)
      | name => return if name ∈ methodNames "TextIOWrapper" then some (.method v name) else none
    | .mapped _ _ _ | .iterator _ | .counter _ _ =>
      return if name ∈ ["__next__", "__iter__"] then some (.method v name) else none
    | _ =>
      return if name ∈ methodNames (← kindName v) then some (.method v name) else none
  | v => return if name ∈ methodNames (← kindName v) then some (.method v name) else none

/-- An attribute of a value. -/
def attributeOf (fuel : Nat) (r : Runner) (v : Value) (name : String) : Doing Value := do
  match ← attributeOf? fuel r v name with
  | some found => return found
  | none =>
    match ← special? fuel r v "__getattr__" with
    | some f => r.call f [ofString name] []
    | none => noAttribute v name

/-- Give an attribute a value. -/
def setAttribute (_ : Nat) (r : Runner) (v : Value) (name : String) (x : Value) : Doing Unit := do
  match v with
  | .object place =>
    match ← objectAt place with
    | .instance kind attributes =>
      let setter ← classMember? (name ++ ".setter") (← ancestors classDepth kind)
      match setter with
      | some f =>
        let _ ← r.call f [v, x] []
      | none => setObject place (.instance kind (attributes.put name x))
    | .class className bases attributes =>
      setObject place (.class className bases (attributes.put name x))
    | _ => return
  | _ => return

end LanguageClient.Scripting
