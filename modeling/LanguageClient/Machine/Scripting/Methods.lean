import LanguageClient.Machine.Scripting.Operators

/-!
# Methods of values

The methods of values that are there from the beginning.
-/

namespace LanguageClient.Scripting

/-- How often a value is in a row, and where. -/
def rowQuery (fuel : Nat) (r : Runner) (vs : List Value) (name : String) (args : List Value)
    (self : Value) : Doing Value := do
  let sought := args.getD 0 .none
  match name with
  | "count" =>
    let found ← vs.filterM fun v => equal fuel r v sought
    return .int found.length
  | "index" =>
    match ← vs.zipIdx.findM? fun (v, _) => equal fuel r v sought with
    | some (_, i) => return .int i
    | none => fault "ValueError" (String.ofList (← shown fuel r true sought) ++ " is not in list")
  | name => noAttribute self name

def listMethod (fuel : Nat) (r : Runner) (place : Nat) (vs : Array Value) (name : String)
    (args : List Value) (named : Attributes) : Doing Value := do
  let arg (i : Nat) : Value := args.getD i .none
  let put (vs : Array Value) : Doing Value := do
    setObject place (.list vs)
    return .none
  match name with
  | "append" =>
    setObject place (.list #[])
    put (vs.push (arg 0))
  | "extend" =>
    let more ← listOf fuel r (arg 0)
    put (vs ++ more.toArray)
  | "insert" =>
    let n ← asInt (arg 0)
    let p := (Row.bound vs.size 0 (some n)).toNat
    put (vs.insertIdx! p (arg 1))
  | "appendleft" => put (#[arg 0] ++ vs)
  | "pop" | "popleft" =>
    if vs.isEmpty then fault "IndexError" "pop from empty list"
    let n ← if name = "popleft" then pure (some 0) else asInt? args.head?
    match Row.place? vs.size (n.getD (-1)) with
    | some p =>
      let v := vs.getD p .none
      let _ ← put (vs.eraseIdx! p)
      return v
    | none => fault "IndexError" "pop index out of range"
  | "remove" =>
    match ← vs.toList.zipIdx.findM? fun (v, _) => equal fuel r v (arg 0) with
    | some (_, p) => put (vs.eraseIdx! p)
    | none => fault "ValueError" "list.remove(x): x not in list"
  | "sort" => put (← sortedValues fuel r vs.toList named).toArray
  | "reverse" => put vs.reverse
  | "copy" => newObject (.list vs)
  | "clear" => put #[]
  | name => rowQuery fuel r vs.toList name args (.object place)

def dictMethod (fuel : Nat) (r : Runner) (place : Nat) (entries : Array (Value × Value))
    (usual : Option Value) (name : String) (args : List Value) (named : Attributes)
    : Doing Value := do
  let arg (i : Nat) : Value := args.getD i .none
  let put (es : Array (Value × Value)) : Doing Unit := setObject place (.dict es usual)
  let found := entries.find? fun e => e.1.same (arg 0)
  match name with
  | "get" =>
    let _ ← asKey (arg 0)
    return (found.map (·.2)).getD (arg 1)
  | "keys" => newList (entries.toList.map (·.1))
  | "values" => newList (entries.toList.map (·.2))
  | "items" => newList (entries.toList.map fun (k, v) => .tuple [k, v])
  | "pop" =>
    match found with
    | some (_, v) =>
      put (entries.filter fun e => !e.1.same (arg 0))
      return v
    | none => if 1 < args.length then return arg 1 else raise "KeyError" [arg 0]
  | "popitem" =>
    match entries.back? with
    | some (k, v) =>
      put entries.pop
      return .tuple [k, v]
    | none => fault "KeyError" "popitem(): dictionary is empty"
  | "setdefault" =>
    match found with
    | some (_, v) => return v
    | none =>
      put (putEntry entries (arg 0) (arg 1))
      return arg 1
  | "update" =>
    let more ← match args with
      | v :: _ => entriesOf fuel r v
      | [] => pure []
    let all := more ++ named.map fun (k, v) => (ofString k, v)
    put (all.foldl (fun es (k, v) => putEntry es k v) entries)
    return .none
  | "clear" =>
    put #[]
    return .none
  | "copy" => newObject (.dict entries usual)
  | "move_to_end" =>
    if let some e := found then put ((entries.filter fun e => !e.1.same (arg 0)).push e)
    return .none
  | name => noAttribute (.object place) name

def setMethod (fuel : Nat) (r : Runner) (place : Nat) (vs : Array Value) (frozen : Bool)
    (name : String) (args : List Value) : Doing Value := do
  let arg (i : Nat) : Value := args.getD i .none
  let put (vs : Array Value) : Doing Value := do
    setObject place (.set vs frozen)
    return .none
  let has (vs : List Value) (v : Value) : Bool := vs.any (·.same v)
  let others : Doing (List Value) := do
    return (← args.mapM (listOf fuel r)).flatten
  let new (vs : Array Value) : Doing Value := newObject (.set vs frozen)
  match name with
  | "add" =>
    let v ← asKey (arg 0)
    put (if vs.any (·.same v) then vs else vs.push v)
  | "discard" => put (vs.filter fun v => !v.same (arg 0))
  | "remove" =>
    unless vs.any (·.same (arg 0)) do raise "KeyError" [arg 0]
    put (vs.filter fun v => !v.same (arg 0))
  | "pop" =>
    match vs.toList with
    | v :: rest =>
      let _ ← put rest.toArray
      return v
    | [] => fault "KeyError" "pop from an empty set"
  | "clear" => put #[]
  | "copy" => new vs
  | "update" => put (distinct (vs.toList ++ (← others)))
  | "union" => new (distinct (vs.toList ++ (← others)))
  | "intersection" =>
    let os ← others
    new (vs.filter (has os))
  | "difference" =>
    let os ← others
    new (vs.filter fun v => !has os v)
  | "symmetric_difference" =>
    let os := (distinct (← others)).toList
    new (vs.filter (fun v => !has os v) ++ (os.filter fun v => !has vs.toList v).toArray)
  | "issubset" =>
    let os ← others
    return .bool (vs.all (has os))
  | "issuperset" => return .bool ((← others).all (has vs.toList))
  | "isdisjoint" => return .bool !((← others).any (has vs.toList))
  | name => noAttribute (.object place) name

/-- A method of a stream that a script has from the beginning. -/
def streamMethod (fuel : Nat) (r : Runner) (n : Nat) (text : Bool) (name : String)
    (args : List Value) : Doing Value := do
  let arg (i : Nat) : Value := args.getD i .none
  let w ← getThe World
  let reading : Doing Unit := do
    if n ≠ 0 then fault "io.UnsupportedOperation" "not readable"
    unless w.listening do fault "ValueError" "I/O operation on closed file."
  let put (v : Value) : Doing Nat := do
    if n = 0 then fault "ValueError" "not writable"
    if text then
      match v with
      | .text cs =>
        if n = 1 then
          unless w.speaking do fault "ValueError" "I/O operation on closed file."
          writeText cs
          if '\n' ∈ cs && w.eager then flushAll
        return cs.length
      | v => fault "TypeError" ("write() argument must be str, not " ++ (← kindName v))
    else
      match v with
      | .text _ => fault "TypeError" "a bytes-like object is required, not 'str'"
      | v =>
        let bs ← bytesOf fuel r v
        if n = 1 then
          unless w.speaking do fault "ValueError" "write to closed file"
          writeBytes bs
        return bs.length
  match name with
  | "read" | "read1" =>
    reading
    match ← asInt? args.head? with
    | some count =>
      if count < 0 then readValue text (← readAll patience)
      else if name = "read1" then readValue text (← readSome count.toNat)
      else if text then readValue true (← readChars patience count.toNat)
      else readValue false (← readCount patience count.toNat)
    | none =>
      if name = "read1" then readValue text (← readSome bufferSize)
      else readValue text (← readAll patience)
  | "readline" =>
    reading
    readValue text (← readLine patience)
  | "readlines" =>
    reading
    newList (← listOf fuel r (.stream 0 text))
  | "readinto" =>
    reading
    match arg 0 with
    | .object place =>
      match ← objectAt place with
      | .buffer bs =>
        let found ← readCount patience bs.length
        setObject place (.buffer (found ++ bs.drop found.length))
        return .int found.length
      | _ => fault "TypeError" "readinto() argument must be read-write bytes-like object"
    | _ => fault "TypeError" "readinto() argument must be read-write bytes-like object"
  | "write" => return .int (← put (arg 0))
  | "writelines" =>
    let vs ← listOf fuel r (arg 0)
    vs.forM fun v => do
      let _ ← put v
    return .none
  | "flush" =>
    if n = 1 then
      unless w.speaking do fault "ValueError" "I/O operation on closed file."
      if text then flushAll else flushBytes
    return .none
  | "close" =>
    if n = 1 && w.speaking then
      flushAll
      act .silence
      modify fun w => { w with speaking := false }
    else if n = 0 && w.listening then
      act .deafen
      modify fun w => { w with listening := false }
    return .none
  | "fileno" => return .int n
  | "isatty" => return .bool false
  | "readable" => return .bool (n = 0)
  | "writable" => return .bool (n ≠ 0)
  | "detach" => return .stream n false
  | "reconfigure" => return .none
  | "__enter__" | "__iter__" => return .stream n text
  | "__exit__" => return .none
  | "__next__" =>
    match ← next fuel r (.stream n text) with
    | some v => return v
    | none => raise "StopIteration" []
  | name => noAttribute (.stream n text) name

/-- A method of a file. -/
def fileMethod (fuel : Nat) (r : Runner) (place : Nat) (f : Opened) (name : String)
    (args : List Value) : Doing Value := do
  let arg (i : Nat) : Value := args.getD i .none
  let set (f : Opened) : Doing Unit := setObject place (.file f)
  let left := f.content.drop f.position
  if f.closed && name ∉ ["close", "__exit__"] then
    fault "ValueError" "I/O operation on closed file."
  let put (v : Value) : Doing Value := do
    unless f.writable do fault "io.UnsupportedOperation" "not writable"
    let (bytes, count) ← match v with
      | .text cs =>
        if f.text then pure (Json.utf8 (String.ofList cs), cs.length)
        else fault "TypeError" "a bytes-like object is required, not 'str'"
      | v =>
        if f.text then fault "TypeError" ("write() argument must be str, not " ++ (← kindName v))
        else do
          let bs ← bytesOf fuel r v
          pure (bs, bs.length)
    let start := if f.append then f.content.length else f.position
    let before := f.content.take start
    let content := before ++ bytes ++ f.content.drop (start + bytes.length)
    set { f with content, position := start + bytes.length }
    return .int count
  match name with
  | "read" =>
    unless f.readable do fault "io.UnsupportedOperation" "not readable"
    let count := (← asInt? args.head?).getD (-1)
    let bytes ← if count < 0 then pure left
      else if f.text then do
        let cs ← decoded left
        pure (Json.utf8 (String.ofList (cs.take count.toNat)))
      else pure (left.take count.toNat)
    set { f with position := f.position + bytes.length }
    fileValue f.text bytes
  | "readline" =>
    match ← next fuel r (.object place) with
    | some v => return v
    | none => fileValue f.text []
  | "readlines" => newList (← listOf fuel r (.object place))
  | "write" => put (arg 0)
  | "writelines" =>
    let vs ← listOf fuel r (arg 0)
    if f.text then
      let texts ← vs.mapM textKind.asRow
      let _ ← put (.text texts.flatten)
    else
      let rows ← vs.mapM (bytesOf fuel r)
      let _ ← put (.bytes rows.flatten)
    return .none
  | "getvalue" => fileValue f.text f.content
  | "seek" =>
    let n ← asInt (arg 0)
    let base := match args[1]?.bind int? with
      | some 1 => f.position
      | some 2 => f.content.length
      | _ => 0
    let position := (n + base).toNat
    set { f with position }
    return .int position
  | "tell" => return .int f.position
  | "truncate" =>
    set { f with content := f.content.take ((← asInt? args.head?).getD f.position).toNat }
    return .none
  | "flush" =>
    saveFile f
    return .none
  | "close" | "__exit__" =>
    saveFile f
    set { f with closed := true }
    return .none
  | "fileno" => return .int 3
  | "isatty" => return .bool false
  | "readable" => return .bool f.readable
  | "writable" => return .bool f.writable
  | "__enter__" | "__iter__" => return .object place
  | name => noAttribute (.object place) name

/-- A method of an object that a module makes. -/
def helperMethod (fuel : Nat) (r : Runner) (self : Value) (kind : String)
    (attributes : Attributes) (name : String) (args : List Value) : Doing Value := do
  match kind, name with
  | "threading.Thread", "start" | "threading.Timer", "start" =>
    if kind = "threading.Timer" then
      elapse (millisOf (← asNumber ((attributes.lookup "interval").getD (.int 0))))
    match ← special? fuel r self "run" with
    | some f =>
      let _ ← r.call f [] []
    | none =>
      let given ← match attributes.lookup "args" with
        | some .none | none => pure []
        | some v => listOf fuel r v
      match attributes.lookup "target" with
      | some .none | none => pure ()
      | some f =>
        -- what goes wrong there does not concern the others
        try
          let _ ← r.call f given []
        catch
          | .raised _ => pure ()
          | h => throw h
    return .none
  | "threading.Thread", _ | "threading.Timer", _ => return .bool false
  | "threading.Event", "set" =>
    setAttribute fuel r self "happened" (.bool true)
    return .none
  | "threading.Event", "clear" =>
    setAttribute fuel r self "happened" (.bool false)
    return .none
  | "threading.Event", "wait" =>
    if let some v := attributes.lookup "happened" then
      if ← truth fuel r v then return .bool true
    match args with
    | [] | .none :: _ => throw .spent
    | v :: _ =>
      elapse (millisOf (← asNumber v))
      return .bool false
  | "threading.Event", _ => return (attributes.lookup "happened").getD (.bool false)
  | "socket.socket", "connect" | "socket.socket", "accept" | "socket.socket", "send"
  | "socket.socket", "sendall" | "socket.socket", "recv" | "socket.socket", "makefile" =>
    fileFault "ConnectionRefusedError" 111 "Connection refused" []
  | "socket.socket", "connect_ex" => return .int 111
  | _, "acquire" => return .bool true
  | _, "locked" => return .bool false
  | _, "__enter__" => return self
  | "contextlib.suppress", "__exit__" =>
    match args with
    | _ :: .none :: _ | [] => return .bool false
    | _ :: e :: _ => return .bool (← isOfKind e ((attributes.lookup "kinds").getD .none))
    | _ => return .bool false
  | _, _ => return .none

def method : Nat → Runner → Value → String → List Value → Attributes → Doing Value
  | 0, _, _, _, _, _ => throw .spent
  | fuel + 1, r, self, name, args, named => do
    let arg (i : Nat) : Value := args.getD i .none
    match self with
    | .text cs =>
      match name with
      | "join" =>
        let parts ← listOf fuel r (arg 0)
        let texts ← (parts.zip (List.range parts.length)).mapM fun (v, i) => do
          match v with
          | .text t => return t
          | v =>
            fault "TypeError" ("sequence item " ++ Nat.repr i ++
              ": expected str instance, " ++ (← kindName v) ++ " found")
        return .text (List.intercalate cs texts)
      | "format" => return .text (← bracesFilled fuel r cs args named 0).1
      | "format_map" =>
        let entries ← entriesOf fuel r (arg 0)
        let given := entries.filterMap fun
          | (.text k, v) => some (String.ofList k, v)
          | _ => none
        return .text (← bracesFilled fuel r cs [] given 0).1
      | name =>
        match textMethod cs name args named with
        | some result => result
        | none => noAttribute self name
    | .bytes bs =>
      match name with
      | "join" =>
        let parts ← listOf fuel r (arg 0)
        return .bytes (List.intercalate bs (← parts.mapM (bytesOf fuel r)))
      | name =>
        match bytesMethod bs name args named with
        | some result => result
        | none => noAttribute self name
    | .int n =>
      match name with
      | "bit_length" => return .int (if n = 0 then 0 else Nat.log2 n.natAbs + 1)
      | "to_bytes" =>
        let size? ← asInt? (argument? ["length", "byteorder"] args named "length")
        let size := (size?.getD 1).toNat
        let order ← match argument? ["length", "byteorder"] args named "byteorder" with
          | some v => textKind.asRow v
          | none => pure "big".toList
        let little := (List.range size).map fun i => (n.toNat / Nat.pow 256 i % 256).toUInt8
        return .bytes (if order = "little".toList then little else little.reverse)
      | name => noAttribute self name
    | .double f =>
      match name with
      | "is_integer" => return .bool (f == f.floor && !f.isInf)
      | name => noAttribute self name
    | .tuple vs => rowQuery fuel r vs name args self
    | .range a b s => rowQuery fuel r (← rangeItems a b s) name args self
    | .stream n text => streamMethod fuel r n text name args
    | .native kind =>
      if name = "__init__" then
        match args with
        | v :: rest => do
          if let .object place := v then
            if let .instance k attributes ← objectAt place then
              if ← isOfKind v (.native "BaseException") then
                setObject place (.instance k (attributes.put "args" (.tuple rest)))
          return .none
        | [] => return .none
      else match args with
        | v :: rest => method fuel r v name rest named
        | [] =>
          fault "TypeError" ("unbound method " ++ kind ++ "." ++ name ++ "() needs an argument")
    | .parent v _ =>
      match name with
      | "__init__" => method fuel r (.native "object") "__init__" (v :: args) named
      | "__setattr__" =>
        setAttribute fuel r v (String.ofList (← textKind.asRow (arg 0))) (arg 1)
        return .none
      | "__str__" =>
        match ← object? v with
        | some (.instance _ attributes) =>
          match attributes.lookup "args" with
          | some (.tuple given) => return .text (← messageOf fuel r v given attributes)
          | _ => return ofString "object"
        | _ => return ofString "object"
      | _ => return .none
    | .object place =>
      match ← objectAt place with
      | .list vs => listMethod fuel r place vs name args named
      | .dict entries usual => dictMethod fuel r place entries usual name args named
      | .set vs frozen => setMethod fuel r place vs frozen name args
      | .buffer bs =>
        match name with
        | "extend" =>
          let more ← bytesOf fuel r (arg 0)
          setObject place (.buffer (bs ++ more))
          return .none
        | "append" =>
          let n ← asInt (arg 0)
          setObject place (.buffer (bs ++ [n.toNat.toUInt8]))
          return .none
        | "clear" =>
          setObject place (.buffer [])
          return .none
        | name =>
          match bytesMethod bs name args named with
          | some result => result
          | none => noAttribute self name
      | .file f => fileMethod fuel r place f name args
      | .special kind _ =>
        -- a property that can be set is kept under a name of its own
        match name with
        | "setter" => return ← newObject (.special (kind ++ ".setter") (arg 0))
        | _ => return self
      | .instance (.native kind) attributes =>
        helperMethod fuel r self kind attributes name args
      | .instance kind attributes =>
        let kinds ← ancestors classDepth kind
        let builtIn := kinds.findSome? fun
          | .native k => if name ∈ helperMethods k then some k else none
          | _ => none
        helperMethod fuel r self (builtIn.getD "") attributes name args
      | _ =>
        match name with
        | "__next__" | "send" =>
          match ← next fuel r self with
          | some v => return v
          | none => raise "StopIteration" []
        | "__iter__" => return self
        | "close" =>
          if let .generator g scope _ ← objectAt place then
            setObject place (.generator g scope true)
          return .none
        | name => noAttribute self name
    | self => noAttribute self name

end LanguageClient.Scripting
