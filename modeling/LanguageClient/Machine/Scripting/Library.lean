import LanguageClient.Machine.Scripting.Datum
import LanguageClient.Machine.Scripting.Texts

/-!
# What scripts find around them

The modules that a script can bring in, what they hold, and the functions of theirs that need
nothing but their arguments.
-/

namespace LanguageClient.Scripting

/-! ### Files -/

/-- A path that an argument is. -/
def pathOf (v : Value) : Doing (List Char) := do
  match v with
  | .text cs => return cs
  | .bytes bs => return (Text.Utf8.mend bs).toList
  | v =>
    fault "TypeError"
      ("expected str, bytes or os.PathLike object, not " ++ (← kindName v))

/-- Put an entry at a path, or take it away. -/
def placeEntry (path : String) (entry : Option Entry) : Doing Unit := do
  modify fun w =>
    let files := match entry with
      | some entry => w.files.insert path entry
      | none => w.files.erase path
    { w with files }
  act (.place path entry)

/-- Where a new entry would be. -/
def placeOf? (w : World) (cs : List Char) : Option String := do
  let name ← Path.name? cs
  let parent := (Path.parent? cs).getD []
  let parent := if parent.isEmpty then ['.'] else parent
  let .ok directory := w.files.resolve w.here parent | none
  if !w.files.isDirectory directory || Files.nameLimit < Files.size name then none
  else return String.ofList (directory ++ '/' :: name)

/-- Raise what a path is to blame for. -/
def fileFault {α : Type} (kind : String) (code : Int) (message : String) (path : List Char) :
    Doing α := do
  throw (.raised (← newObject (.instance (.native kind) [
    ("args", .tuple [.int code, ofString message]), ("errno", .int code),
    ("strerror", ofString message), ("filename", .text path)])))

def missing {α : Type} (path : List Char) : Doing α :=
  fileFault "FileNotFoundError" 2 "No such file or directory" path

def placed (cs : List Char) : Doing String := do
  match placeOf? (← get) cs with
  | some path => return path
  | none => missing cs

/-- Open a file. -/
def openFile (args : List Value) (named : Attributes) : Doing Value := do
  let get := argument? ["file", "mode"] args named
  let name := (get "file").getD .none
  let mode ← match get "mode" with
    | some v => textKind.asRow v
    | none => pure ['r']
  let text := 'b' ∉ mode
  match name with
  | .int n => return .stream n.toNat text
  | _ => pure ()
  let cs ← pathOf name
  let w ← getThe World
  let found := w.files.resolve w.here cs
  let isDirectory := match found with
    | .ok path => w.files.isDirectory path
    | .error _ => false
  if isDirectory then fileFault "IsADirectoryError" 21 "Is a directory" cs
  let content := (w.files.read w.here cs).toOption
  let both := '+' ∈ mode
  if 'w' ∈ mode || 'x' ∈ mode then
    if 'x' ∈ mode && found.isOk then fileFault "FileExistsError" 17 "File exists" cs
    let path ← match found with
      | .ok path => pure (String.ofList path)
      | .error _ => placed cs
    placeEntry path (some (.file []))
    newObject (.file ⟨some path, [], 0, text, both, true, false, false⟩)
  else if 'a' ∈ mode then
    let path ← match found with
      | .ok path => pure (String.ofList path)
      | .error _ => placed cs
    if content.isNone then placeEntry path (some (.file []))
    let bytes := content.getD []
    newObject (.file ⟨some path, bytes, bytes.length, text, both, true, true, false⟩)
  else match content, found with
    | some bytes, .ok path =>
      newObject (.file ⟨some (String.ofList path), bytes, 0, text, true, both, false, false⟩)
    | _, .error .notDirectory => fileFault "NotADirectoryError" 20 "Not a directory" cs
    | _, _ => missing cs

/-- What a file holds goes to its path. -/
def saveFile (f : Opened) : Doing Unit := do
  if f.writable && !f.closed then
    if let some path := f.path then
      match (← getThe World).files.find? path with
      | some (.file bytes) =>
        unless bytes = f.content do placeEntry path (some (.file f.content))
      | _ => placeEntry path (some (.file f.content))

/-- All files that are open are saved. -/
def saveFiles : Doing Unit := do
  for o in (← getThe World).heap do
    if let .file f := o then saveFile f

/-- The value of something read from a stream. -/
def readValue (text : Bool) (bytes : List UInt8) : Doing Value := do
  if text then return .text (← decoded bytes) else return .bytes bytes

/-- The value of something read from a file, where the lines of a text have one kind of end. -/
def fileValue (text : Bool) (bytes : List UInt8) : Doing Value := do
  if text then
    return .text (Row.replace ['\r', '\n'] ['\n'] bytes.length (← decoded bytes))
  else return .bytes bytes

/-- So many characters of the input. -/
def readChars : Nat → Nat → Doing (List UInt8)
  | 0, _ => throw .spent
  | _ + 1, 0 => return []
  | fuel + 1, count + 1 => do
    match ← readCount patience 1 with
    | [b] =>
      let size := if b < 0xC0 then 0 else if b < 0xE0 then 1 else if b < 0xF0 then 2 else 3
      let more ← readCount patience size
      return b :: more ++ (← readChars fuel count)
    | bytes => return bytes

/-! ### Modules -/

/-- Modules that can be brought in. -/
def modules : List String := [
  "os", "os.path", "sys", "time", "json", "json.decoder", "signal", "socket", "threading", "math",
  "io", "collections", "functools", "itertools", "errno", "string", "typing", "traceback",
  "logging", "random", "re", "struct", "select", "subprocess", "argparse", "pathlib", "datetime",
  "enum", "dataclasses", "contextlib", "copy", "base64", "textwrap", "uuid", "hashlib", "tempfile",
  "shutil", "glob", "platform", "asyncio", "abc", "operator", "queue", "urllib", "urllib.parse",
  "urllib.request", "http", "types", "warnings", "gc", "atexit", "codecs", "locale", "getpass",
  "inspect", "heapq", "bisect", "statistics", "decimal", "fractions", "socketserver", "ssl",
  "selectors", "pprint", "unittest", "importlib", "ctypes", "resource", "fcntl", "stat", "secrets",
  "collections.abc", "concurrent", "concurrent.futures", "multiprocessing", "__future__",
  "builtins"]

/-- Functions of modules, and functions that are there without any. -/
def natives : List String := [
  "os.getcwd", "os.getpid", "os.getppid", "os.kill", "os._exit", "os.getenv", "os.write", "os.read",
  "os.close", "os.abort", "os.listdir", "os.remove", "os.unlink", "os.mkdir", "os.makedirs",
  "os.chdir", "os.fsync", "os.getuid", "os.isatty", "os.path.exists", "os.path.isfile",
  "os.path.isdir", "os.path.join", "os.path.basename", "os.path.dirname", "os.path.abspath",
  "os.path.realpath", "os.path.splitext", "os.path.split", "os.path.expanduser", "os.path.isabs",
  "os.path.getsize", "os.path.normpath", "sys.exit", "sys.getdefaultencoding", "sys.exc_info",
  "sys.setrecursionlimit", "sys.getrecursionlimit", "sys.intern", "time.sleep", "time.time",
  "time.monotonic", "time.perf_counter", "time.time_ns", "time.monotonic_ns", "json.dumps",
  "json.dump", "json.loads", "json.load", "signal.signal", "signal.getsignal",
  "signal.raise_signal", "signal.pause", "signal.alarm", "socket.create_connection",
  "socket.socket", "socket.create_server", "threading.Thread", "threading.Timer", "threading.Lock",
  "threading.RLock", "threading.Event", "math.floor", "math.ceil", "math.sqrt", "math.trunc",
  "math.isnan", "math.isinf", "math.fabs", "math.log", "math.exp", "math.pow", "math.gcd",
  "io.BytesIO", "io.StringIO", "collections.OrderedDict", "collections.defaultdict",
  "collections.deque", "functools.partial", "functools.reduce", "functools.wraps",
  "functools.lru_cache", "functools.cache", "itertools.count", "itertools.chain",
  "itertools.repeat", "itertools.islice", "traceback.print_exc", "traceback.format_exc",
  "contextlib.suppress", "copy.copy", "copy.deepcopy", "asyncio.run", "asyncio.sleep",
  "atexit.register", "ctypes.string_at",
  "print", "len", "range", "int", "str", "float", "bool", "bytes", "bytearray", "list", "dict",
  "tuple", "set", "frozenset", "type", "object", "isinstance", "issubclass", "hasattr", "getattr",
  "setattr", "delattr", "callable", "repr", "ascii", "format", "ord", "chr", "hex", "oct", "bin",
  "abs", "min", "max", "sum", "any", "all", "sorted", "reversed", "enumerate", "zip", "map",
  "filter", "iter", "next", "open", "input", "exit", "quit", "id", "hash", "round", "divmod", "pow",
  "vars", "globals", "locals", "exec", "eval", "super", "property", "staticmethod", "classmethod",
  "memoryview", "slice", "__import__", "int.from_bytes", "bytes.fromhex", "dict.fromkeys",
  "itertools.chain.from_iterable"]

/-- The table of the variables from outside. -/
def environment : Doing Value := do
  let w ← getThe World
  match w.environment with
  | some place => return .object place
  | none =>
    let v ← newDict (w.vars.map fun (name, value) => (ofString name, ofString value))
    if let .object place := v then modify fun w => { w with environment := some place }
    return v

/-- Whole numbers that modules hold. -/
def constants : List (String × Int) := [
  ("signal.SIG_DFL", 0), ("signal.SIG_IGN", 1), ("socket.AF_INET", 2), ("socket.AF_INET6", 10),
  ("socket.AF_UNIX", 1), ("socket.SOCK_STREAM", 1), ("socket.SOCK_DGRAM", 2),
  ("socket.SOL_SOCKET", 1), ("socket.SO_REUSEADDR", 2), ("socket.IPPROTO_TCP", 6),
  ("socket.TCP_NODELAY", 1), ("socket.SHUT_RD", 0), ("socket.SHUT_WR", 1), ("socket.SHUT_RDWR", 2),
  ("sys.maxsize", 0x7fffffffffffffff), ("os.O_RDONLY", 0), ("os.O_WRONLY", 1), ("os.O_RDWR", 2),
  ("errno.EPIPE", 32), ("errno.ENOENT", 2), ("errno.ECONNREFUSED", 111), ("os.EX_OK", 0)]

/-- Texts that modules hold. -/
def texts : List (String × String) := [
  ("os.sep", "/"), ("os.linesep", "\n"), ("os.name", "posix"), ("os.devnull", "/dev/null"),
  ("os.pathsep", ":"), ("os.curdir", "."), ("sys.platform", "linux"), ("sys.byteorder", "little"),
  ("sys.executable", "/usr/bin/python3"), ("sys.prefix", "/usr"),
  ("string.ascii_lowercase", "abcdefghijklmnopqrstuvwxyz"),
  ("string.ascii_uppercase", "ABCDEFGHIJKLMNOPQRSTUVWXYZ"), ("string.digits", "0123456789"),
  ("string.hexdigits", "0123456789abcdefABCDEF")]

/-- Numbers that modules hold. -/
def doubles : List (String × Float) := [
  ("math.pi", 3.141592653589793), ("math.e", 2.718281828459045), ("math.inf", 1.0 / 0.0),
  ("math.nan", 0.0 / 0.0)]

/-- What a module holds under a name. -/
def member? (module name : String) : Doing (Option Value) := do
  let full := module ++ "." ++ name
  let known := (otherNames.lookup full).getD full
  match full with
  | "sys.argv" => some <$> newList ((← getThe World).args.map ofString)
  | "sys.stdin" => return some (.stream 0 true)
  | "sys.stdout" | "sys.__stdout__" => return some (.stream 1 true)
  | "sys.stderr" | "sys.__stderr__" => return some (.stream 2 true)
  | "sys.version_info" =>
    return some (.tuple [.int 3, .int 11, .int 2, ofString "final", .int 0])
  | "sys.path" => some <$> newList []
  | "sys.modules" => some <$> newDict []
  | "os.environ" => some <$> environment
  | "os.error" => return some (.native "OSError")
  | _ =>
    if full ∈ modules then return some (.module full)
    else if let some n := constants.lookup full then return some (.int n)
    else if let some s := texts.lookup full then return some (ofString s)
    else if let some f := doubles.lookup full then return some (.double f)
    else if (exceptions.lookup known).isSome then return some (.native known)
    else if full ∈ natives then return some (.native full)
    else if module = "builtins" && name ∈ natives then return some (.native name)
    else if module = "signal" && name.startsWith "SIG" then
      return (Signal.ofName? (String.ofList (name.toList.drop 3))).map fun n => .int n
    else return none

/-- What a name stands for from the beginning. -/
def builtin? (name : String) : Option Value :=
  match name with
  | "NotImplemented" => some .notImplemented
  | "Ellipsis" => some .ellipsis
  | "__debug__" => some (.bool true)
  | _ =>
    let known := (otherNames.lookup name).getD name
    if (exceptions.lookup known).isSome && '.' ∉ known.toList then some (.native known)
    else if name ∈ natives && '.' ∉ name.toList then some (.native name)
    else none

/-! ### Functions -/

/-- A number that an argument is. -/
def asNumber (v : Value) : Doing Number := do
  match number? v with
  | some n => return n
  | none => fault "TypeError" ("must be real number, not " ++ (← kindName v))

def asInt (v : Value) : Doing Int := do
  match ← asInt? (some v) with
  | some n => return n
  | none => fault "TypeError" "'NoneType' object cannot be interpreted as an integer"

/-- Whole milliseconds of a time in seconds. -/
def millisOf (n : Number) : Nat :=
  match n with
  | .int n => n.toNat * 1000
  | .double f => (f * 1000 + 0.5).toUInt64.toNat

/-- A path without dots and double slashes. -/
def normalised (cs : List Char) : List Char :=
  let absolute := Path.isAbsolute cs
  let step (stack : List (List Char)) (c : List Char) : List (List Char) :=
    if c = ['.', '.'] then
      match stack with
      | [] => if absolute then [] else [c]
      | top :: rest => if top = ['.', '.'] then c :: stack else rest
    else if c = ['.'] then stack
    else c :: stack
  let parts := ((Text.splitOn '/' cs).filter (!·.isEmpty)).foldl step []
  let joined := List.intercalate ['/'] parts.reverse
  if absolute then '/' :: joined else if joined.isEmpty then ['.'] else joined

/-- A path cut before its last component. -/
def splitPath (cs : List Char) : List Char × List Char :=
  let last := (cs.reverse.takeWhile (· ≠ '/')).reverse
  let head := cs.take (cs.length - last.length)
  let trimmed := Row.dropEnd (· = '/') head
  (if trimmed.isEmpty then head else trimmed, last)

/-- The ending of a name from its last point on. -/
def splitEnding (cs : List Char) : List Char × List Char :=
  let (_, last) := splitPath cs
  let ending := (last.reverse.takeWhile (· ≠ '.')).reverse
  let stem := last.take (last.length - ending.length - 1)
  if '.' ∈ last && stem.any (· ≠ '.') then
    (cs.take (cs.length - ending.length - 1), '.' :: ending)
  else (cs, [])

/-- The time since the beginning, in milliseconds, and what it began at, in seconds. -/
def epoch : Nat := 1700000000

def secondsOf (millis : Nat) : Float := Float.ofScientific millis true 3

/-- A function of a module that needs nothing but its arguments. -/
def library? (name : String) (args : List Value) (named : Attributes) : Option (Doing Value) :=
  let arg (i : Nat) : Value := args.getD i .none
  let path (i : Nat) : Doing (List Char) := pathOf (arg i)
  let double (f : Float → Float) : Option (Doing Value) := some do
    return .double (f (← asNumber (arg 0)).toDouble)
  let toInt (f : Float → Option Int) : Option (Doing Value) := some do
    match ← asNumber (arg 0) with
    | .int n => return .int n
    | .double x =>
      match f x with
      | some n => return .int n
      | none => fault "ValueError" "cannot convert float NaN to integer"
  let removal : Doing Value := do
    let cs ← path 0
    let w ← getThe World
    match w.files.resolve w.here cs with
    | .ok found =>
      placeEntry (String.ofList found) none
      return .none
    | .error _ => missing cs
  match name with
  | "os.getcwd" => some do return .text (← getThe World).here
  | "os.getpid" => some (return .int processNumber)
  | "os.getppid" => some (return .int hostNumber)
  | "os.getuid" => some (return .int 0)
  | "os.isatty" => some (return .bool false)
  | "os.fsync" => some (return .none)
  | "os._exit" => some do
    let n ← asInt (arg 0)
    throw (.exited (.exited (n % 256).toNat))
  | "os.abort" => some (throw (.exited (.killed 6)))
  | "ctypes.string_at" => some (throw (.exited (.killed 11)))
  | "os.write" => some do
    let n ← asInt (arg 0)
    let bytes ← bytesKind.asRow (arg 1)
    if n = 1 then emit bytes
    return .int bytes.length
  | "os.read" => some do
    let n ← asInt (arg 0)
    let count ← asInt (arg 1)
    if n = 0 then return .bytes (← readSome count.toNat)
    else fileFault "OSError" 9 "Bad file descriptor" []
  | "os.close" => some do
    let n ← asInt (arg 0)
    if n = 1 then
      act .silence
      modify fun w => { w with speaking := false }
    else if n = 0 then
      act .deafen
      modify fun w => { w with listening := false }
    return .none
  | "os.listdir" => some do
    let cs ← if args.isEmpty then pure ['.'] else path 0
    let w ← getThe World
    match w.files.resolve w.here cs with
    | .ok found => newList ((w.files.list found).map .text)
    | .error _ => missing cs
  | "os.remove" | "os.unlink" => some removal
  | "os.mkdir" | "os.makedirs" => some do
    let cs ← path 0
    let w ← getThe World
    if w.files.exists? w.here cs then
      let fine ← match named.lookup "exist_ok" with
        | some v => isTrue v
        | none => pure false
      unless fine do fileFault "FileExistsError" 17 "File exists" cs
      return .none
    let place? := if name = "os.mkdir" then placeOf? w cs
      else
        let start := if Path.isAbsolute cs then [] else Path.components w.here
        (w.files.reach [] (start ++ Path.components cs)).map String.ofList
    match place? with
    | some found =>
      placeEntry found (some .directory)
      return .none
    | none => missing cs
  | "os.chdir" => some do
    let cs ← path 0
    let w ← getThe World
    match w.files.resolve w.here cs with
    | .ok found =>
      modify fun w => { w with here := if found.isEmpty then ['/'] else found }
      return .none
    | .error _ => missing cs
  | "os.path.exists" => some do
    let cs ← path 0
    let w ← getThe World
    return .bool (w.files.exists? w.here cs)
  | "os.path.isdir" => some do
    let cs ← path 0
    let w ← getThe World
    return .bool (w.files.leadsToDirectory w.here cs)
  | "os.path.isfile" => some do
    let cs ← path 0
    let w ← getThe World
    return .bool (w.files.exists? w.here cs && !w.files.leadsToDirectory w.here cs)
  | "os.path.getsize" => some do
    let cs ← path 0
    let w ← getThe World
    match w.files.read w.here cs with
    | .ok bytes => return .int bytes.length
    | .error _ => missing cs
  | "os.path.join" => some do
    let parts ← args.mapM pathOf
    return .text (parts.foldl (fun whole part =>
      if whole.isEmpty || Path.isAbsolute part then part
      else if Path.endsInSlash whole then whole ++ part
      else whole ++ '/' :: part) [])
  | "os.path.basename" => some do return .text (splitPath (← path 0)).2
  | "os.path.dirname" => some do return .text (splitPath (← path 0)).1
  | "os.path.split" => some do
    let (head, last) := splitPath (← path 0)
    return .tuple [.text head, .text last]
  | "os.path.splitext" => some do
    let (stem, ending) := splitEnding (← path 0)
    return .tuple [.text stem, .text ending]
  | "os.path.isabs" => some do return .bool (Path.isAbsolute (← path 0))
  | "os.path.normpath" => some do return .text (normalised (← path 0))
  | "os.path.abspath" | "os.path.realpath" => some do
    let cs ← path 0
    let w ← getThe World
    return .text (normalised (if Path.isAbsolute cs then cs else w.here ++ '/' :: cs))
  | "os.path.expanduser" => some do
    let cs ← path 0
    let home := ((← getThe World).vars.find? "HOME").getD "/root"
    return .text (if cs.head? = some '~' then home.toList ++ cs.drop 1 else cs)
  | "sys.getdefaultencoding" => some (return ofString "utf-8")
  | "sys.setrecursionlimit" => some (return .none)
  | "sys.getrecursionlimit" => some (return .int 1000)
  | "sys.exc_info" => some (return .tuple [.none, .none, .none])
  | "sys.intern" => some (return arg 0)
  | "sys.exit" | "exit" | "quit" => some (raise "SystemExit" args)
  | "asyncio.run" => some (return arg 0)
  | "time.sleep" | "asyncio.sleep" => some do
    let n ← asNumber (arg 0)
    if n.toDouble < 0 then fault "ValueError" "sleep length must be non-negative"
    elapse (millisOf n)
    return .none
  | "time.time" => some do
    return .double (secondsOf (epoch * 1000 + (← getThe World).clock))
  | "time.monotonic" | "time.perf_counter" => some do
    return .double (secondsOf (← getThe World).clock)
  | "time.time_ns" => some do
    return .int ((epoch * 1000 + (← getThe World).clock) * 1000000)
  | "time.monotonic_ns" => some do return .int ((← getThe World).clock * 1000000)
  | "signal.pause" => some (throw .spent)
  | "signal.alarm" => some (return .int 0)
  | "socket.create_connection" | "socket.create_server" => some do
    fileFault "ConnectionRefusedError" 111 "Connection refused" []
  | "socket.socket" | "threading.Lock" | "threading.RLock" | "threading.Event" => some do
    newObject (.instance (.native name) [])
  | "threading.Thread" | "threading.Timer" => some do
    let names := if name = "threading.Thread" then ["group", "target", "name", "args", "kwargs"]
      else ["interval", "target", "args", "kwargs"]
    let get (n : String) : Value := (argument? names args named n).getD .none
    let target := match named.lookup "function" with
      | some f => f
      | none => get "target"
    newObject (.instance (.native name) [
      ("target", target), ("args", get "args"), ("interval", get "interval")])
  | "contextlib.suppress" => some do
    newObject (.instance (.native name) [("kinds", .tuple args)])
  | "math.floor" => toInt Decimal.floor?
  | "math.ceil" => toInt fun f => (Decimal.floor? (-f)).map (-·)
  | "math.trunc" => toInt Decimal.truncated?
  | "math.sqrt" => double Float.sqrt
  | "math.fabs" => double Float.abs
  | "math.exp" => double Float.exp
  | "math.log" => double Float.log
  | "math.pow" => some do
    return .double (Float.pow (← asNumber (arg 0)).toDouble (← asNumber (arg 1)).toDouble)
  | "math.isnan" => some do return .bool (← asNumber (arg 0)).toDouble.isNaN
  | "math.isinf" => some do return .bool (← asNumber (arg 0)).toDouble.isInf
  | "math.gcd" => some do
    return .int (Int.gcd (← asInt (arg 0)) (← asInt (arg 1)))
  | "io.BytesIO" | "io.StringIO" => some do
    let content ← match args with
      | [] => pure []
      | .text cs :: _ => pure (Json.utf8 (String.ofList cs))
      | v :: _ => bytesKind.asRow v
    newObject (.file ⟨none, content, 0, name = "io.StringIO", true, true, false, false⟩)
  | "traceback.print_exc" => some (return .none)
  | "traceback.format_exc" => some (return ofString "Traceback (most recent call last):\n")
  | "open" => some (openFile args named)
  | "object" => some (newObject (.instance (.native "object") []))
  | "itertools.count" => some do
    let first := ((← asInt? args.head?).getD 0)
    let step := ((← asInt? args[1]?).getD 1)
    newObject (.counter first step)
  | "ord" => some do
    match arg 0 with
    | .text [c] => return .int c.toNat
    | .bytes [b] => return .int b.toNat
    | _ => fault "TypeError" "ord() expected a character"
  | "chr" => some do
    let n ← asInt (arg 0)
    if n < 0 || 0x110000 ≤ n then fault "ValueError" "chr() arg not in range(0x110000)"
    return .text [Char.ofNat n.toNat]
  | "hex" | "oct" | "bin" => some do
    let n ← asInt (arg 0)
    let (base, letter) := if name = "hex" then (16, 'x') else if name = "oct" then (8, 'o')
      else (2, 'b')
    return .text ((if n < 0 then ['-'] else []) ++ '0' :: letter :: Nat.toDigits base n.natAbs)
  | "abs" => some do
    match ← asNumber (arg 0) with
    | .int n => return .int n.natAbs
    | .double f => return .double f.abs
  | "callable" => some do
    match arg 0 with
    | .native _ | .method _ _ => return .bool true
    | .object place =>
      match ← objectAt place with
      | .function _ | .class _ _ _ | .bound _ _ => return .bool true
      | _ => return .bool false
    | _ => return .bool false
  | "id" | "hash" => some do
    match arg 0 with
    | .object place => return .int (140000000000000 + 64 * place)
    | .int n => return .int n
    | _ => return .int 140000000000000
  | "round" => some do
    match ← asNumber (arg 0), ← asInt? args[1]? with
    | .int n, _ => return .int n
    | .double f, none =>
      match Decimal.rounded? f with
      | some n => return .int n
      | none => fault "ValueError" "cannot convert float NaN to integer"
    | .double f, some places =>
      if f.isNaN || f.isInf || places < 0 then return .double f
      let size := (doubleOf? (Decimal.fixedText places.toNat f)).getD f
      return .double (if Decimal.isNegative f then -size else size)
  | "int.from_bytes" => some do
    let bytes ← bytesKind.asRow (arg 0)
    let order ← match argument? ["bytes", "byteorder"] args named "byteorder" with
      | some v => textKind.asRow v
      | none => pure "big".toList
    let bytes := if order = "little".toList then bytes.reverse else bytes
    return .int (bytes.foldl (fun n b => n * 256 + b.toNat) 0)
  | "bytes.fromhex" => some do
    let cs := (← textKind.asRow (arg 0)).filter fun c => !isSpace c
    let rec pairs : List Char → Option (List UInt8)
      | [] => some []
      | a :: b :: rest => do
        return (← Text.readBase 16 0 [a, b]).toUInt8 :: (← pairs rest)
      | _ => none
    match pairs cs with
    | some bs => return .bytes bs
    | none => fault "ValueError" "non-hexadecimal number found in fromhex() arg"
  | "range" => some do
    let ns ← args.mapM asInt
    match ns with
    | [last] => return .range 0 last 1
    | [first, last] => return .range first last 1
    | [first, last, step] =>
      if step = 0 then fault "ValueError" "range() arg 3 must not be zero"
      return .range first last step
    | _ => fault "TypeError" "range expected at least 1 argument, got 0"
  | _ => none

end LanguageClient.Scripting
