import LanguageClient.Machine.Scripting.Methods

/-!
# Functions of scripts

The functions and the classes that are there from the beginning.
-/

namespace LanguageClient.Scripting

/-- A new object of a class. -/
def construct (_ : Nat) (r : Runner) (kind : Value) (args : List Value) (named : Attributes)
    : Doing Value := do
  let kinds ← ancestors classDepth kind
  let isException := kinds.any (·.same (.native "BaseException"))
  let attributes : Attributes := if isException then [("args", .tuple args)] else []
  let v ← newObject (.instance kind attributes)
  match ← classMember? "__init__" kinds with
  | some f =>
    let _ ← r.call f (v :: args) named
  | none =>
    unless isException || (args.isEmpty && named.isEmpty) do
      fault "TypeError" ((← kindName v) ++ "() takes no arguments")
  return v

/-- A value like another. -/
def copyOf : Nat → Runner → Bool → Value → Doing Value
  | 0, _, _, _ => throw .spent
  | fuel + 1, r, deep, v => do
    let again (v : Value) : Doing Value := if deep then copyOf fuel r true v else return v
    match v with
    | .tuple vs => return .tuple (← vs.mapM again)
    | .object place =>
      match ← objectAt place with
      | .list vs => newObject (.list (← vs.mapM again))
      | .dict es u => newObject (.dict (← es.mapM fun (k, x) => do return (k, ← again x)) u)
      | .set vs f => newObject (.set vs f)
      | .instance kind attributes =>
        newObject (.instance kind (← attributes.mapM fun (k, x) => do return (k, ← again x)))
      | _ => return v
    | v => return v

/-- Send a signal to a process. -/
def sendSignal (_ : Nat) (r : Runner) (target signal : Int) : Doing Value := do
  let n := signal.toNat
  if target = hostNumber then
    if n = 2 then act .interrupt
    return .none
  else if target = processNumber || target = 0 then
    match (← getThe World).handlers.lookup n with
    | some (.int 1) => return .none
    | some (.int _) | none =>
      if n = 2 then raise "KeyboardInterrupt" []
      else if n = 13 || n = 25 then return .none
      else match Signal.effect n with
        | .nothing => return .none
        | .ends => throw (.exited (.killed n))
        | .halts =>
          act (.pause forever)
          throw .spent
    | some f =>
      if Signal.isCertain n then throw (.exited (.killed n))
      let _ ← r.call f [.int n, .none] []
      return .none
  else fileFault "ProcessLookupError" 3 "No such process" []

/-- The datum that a value is. -/
def toDatum : Nat → Runner → Option Value → Value → Doing Datum
  | 0, _, _, _ => throw .spent
  | fuel + 1, r, other, v => do
    match v with
    | .none => return .null
    | .bool b => return .bool b
    | .int n => return .int n
    | .double f => return .double f
    | .text cs => return .text cs
    | .tuple vs => return .list (← vs.mapM (toDatum fuel r other))
    | v =>
      match ← object? v with
      | some (.list vs) => return .list (← vs.toList.mapM (toDatum fuel r other))
      | some (.dict entries _) =>
        let found ← entries.toList.mapM fun (k, x) => do
          let key ← match k with
            | .text cs => pure cs
            | .bool true => pure "true".toList
            | .bool false => pure "false".toList
            | .none => pure "null".toList
            | .int n => pure (intText n)
            | .double f => pure (Datum.numberText f)
            | k =>
              fault "TypeError" ("keys must be str, int, float, bool or None, not " ++
                (← kindName k))
          return (key, ← toDatum fuel r other x)
        return .dict found
      | _ =>
        match other with
        | some f => toDatum fuel r other (← r.call f [v] [])
        | none =>
          fault "TypeError" ("Object of type " ++ (← kindName v) ++
            " is not JSON serializable")

/-- A function or a class that is there from the beginning. -/
def native (fuel : Nat) (r : Runner) (name : String) (args : List Value) (named : Attributes)
    : Doing Value := do
  let arg (i : Nat) : Value := args.getD i .none
  let is (name : String) : Doing Bool := do
    match named.lookup name with
    | some v => truth fuel r v
    | none => return false
  if (exceptions.lookup name).isSome || name = "BaseException" then
    if name = "json.JSONDecodeError" || named.isEmpty then
      return ← newException (.native name) args
    else fault "TypeError" (name ++ "() takes no keyword arguments")
  match name with
  | "print" =>
    let parts ← args.mapM (shown fuel r false)
    let between ← match named.lookup "sep" with
      | some .none | none => pure [' ']
      | some v => textKind.asRow v
    let last ← match named.lookup "end" with
      | some .none | none => pure ['\n']
      | some v => textKind.asRow v
    let target := match named.lookup "file" with
      | some .none | none => Value.stream 1 true
      | some v => v
    let _ ← method fuel r target "write" [.text (List.intercalate between parts ++ last)] []
    if ← is "flush" then
      let _ ← method fuel r target "flush" [] []
    return .none
  | "len" =>
    match arg 0 with
    | .text cs => return .int cs.length
    | .bytes bs => return .int bs.length
    | .tuple vs => return .int vs.length
    | .range a b s => return .int (rangeSize a b s)
    | v =>
      match ← object? v with
      | some (.list vs) => return .int vs.size
      | some (.dict es _) => return .int es.size
      | some (.set vs _) => return .int vs.size
      | some (.buffer bs) => return .int bs.length
      | _ =>
        match ← special? fuel r v "__len__" with
        | some f => r.call f [] []
        | none => fault "TypeError" ("object of type '" ++ (← kindName v) ++ "' has no len()")
  | "int" =>
    if args.isEmpty then return .int 0
    let base ← asInt? (argument? ["x", "base"] args named "base")
    let read (cs : List Char) : Doing Value := do
      match intOf? (base.getD 10).toNat cs with
      | some n => return .int n
      | none =>
        fault "ValueError" ("invalid literal for int() with base " ++
          Int.repr (base.getD 10) ++ ": " ++ String.ofList (← shown fuel r true (arg 0)))
    match arg 0 with
    | .text cs => read cs
    | .bytes bs => read (bs.map fun b => Char.ofNat b.toNat)
    | .double f =>
      match Decimal.truncated? f with
      | some n => return .int n
      | none =>
        if f.isNaN then fault "ValueError" "cannot convert float NaN to integer"
        else fault "OverflowError" "cannot convert float infinity to integer"
    | v =>
      match int? v with
      | some n => return .int n
      | none =>
        match ← special? fuel r v "__int__" with
        | some f => r.call f [] []
        | none =>
          fault "TypeError" ("int() argument must be a string, " ++
            "a bytes-like object or a real number, not '" ++
            (← kindName v) ++ "'")
  | "float" =>
    match args with
    | [] => return .double 0
    | .text cs :: _ =>
      match doubleOf? cs with
      | some f => return .double f
      | none =>
        fault "ValueError" ("could not convert string to float: " ++
          String.ofList (writtenText cs))
    | v :: _ => return .double (← asNumber v).toDouble
  | "str" =>
    match args with
    | [] => return .text []
    | [v] =>
      match v, named with
      | .bytes bs, _ :: _ => return .text (← decoded bs)
      | v, _ => return .text (← shown fuel r false v)
    | v :: encoding :: more =>
      let errors ← match more with
        | e :: _ => textKind.asRow e
        | [] => pure []
      return .text (← decodedAs (← textKind.asRow encoding) errors (← bytesOf fuel r v))
  | "repr" => return .text (← shown fuel r true (arg 0))
  | "ascii" => return .text (← plainly fuel r (arg 0))
  | "format" =>
    let layout ← match args with
      | _ :: v :: _ => textKind.asRow v
      | _ => pure []
    return .text (← formatted fuel r (arg 0) layout)
  | "bool" => return .bool (← (if args.isEmpty then pure false else truth fuel r (arg 0)))
  | "bytes" | "bytearray" =>
    let bs ← match args with
      | [] => pure []
      | .int n :: _ => pure (List.replicate n.toNat 0)
      | .text cs :: more =>
        if more.isEmpty && named.isEmpty then
          fault "TypeError" "string argument without an encoding"
        let encoding ← match more with
          | e :: _ => textKind.asRow e
          | [] => pure "utf-8".toList
        encodedAs encoding cs
      | v :: _ => bytesOf fuel r v
    if name = "bytes" then return .bytes bs else newObject (.buffer bs)
  | "memoryview" => return .bytes (← bytesOf fuel r (arg 0))
  | "list" | "collections.deque" =>
    newList (← (if args.isEmpty then pure [] else listOf fuel r (arg 0)))
  | "tuple" => return .tuple (← (if args.isEmpty then pure [] else listOf fuel r (arg 0)))
  | "set" | "frozenset" =>
    let vs ← if args.isEmpty then pure [] else listOf fuel r (arg 0)
    newObject (.set (distinct (← vs.mapM asKey)) (name = "frozenset"))
  | "dict" | "collections.OrderedDict" | "collections.defaultdict" =>
    let usual := if name = "collections.defaultdict" then args.head? else none
    let args := if name = "collections.defaultdict" then args.drop 1 else args
    let first ← match args with
      | v :: _ => entriesOf fuel r v
      | [] => pure []
    let all := first ++ named.map fun (k, v) => (ofString k, v)
    newObject (.dict (all.foldl (fun es (k, v) => putEntry es k v) #[])
      (match usual with | some .none => none | u => u))
  | "dict.fromkeys" =>
    let keys ← listOf fuel r (arg 0)
    newDict ((distinct keys).toList.map fun k => (k, arg 1))
  | "type" =>
    match args with
    | [v] => kindOf v
    | _ => fault "TypeError" "type() takes 1 or 3 arguments"
  | "isinstance" => return .bool (← isOfKind (arg 0) (arg 1))
  | "issubclass" =>
    let above ← ancestors classDepth (arg 0)
    let kinds := match arg 1 with
      | .tuple ks => ks
      | k => [k]
    return .bool (kinds.any fun k => above.any (·.same k))
  | "hasattr" =>
    let name := String.ofList (← textKind.asRow (arg 1))
    return .bool (← attributeOf? fuel r (arg 0) name).isSome
  | "getattr" =>
    let attr := String.ofList (← textKind.asRow (arg 1))
    match ← attributeOf? fuel r (arg 0) attr with
    | some v => return v
    | none => if 2 < args.length then return arg 2 else attributeOf fuel r (arg 0) attr
  | "setattr" =>
    setAttribute fuel r (arg 0) (String.ofList (← textKind.asRow (arg 1))) (arg 2)
    return .none
  | "min" | "max" =>
    let vs ← if args.length = 1 then listOf fuel r (arg 0) else pure args
    let key ← match named.lookup "key" with
      | some .none | none => pure (fun (v : Value) => (pure v : Doing Value))
      | some f => pure fun v => r.call f [v] []
    match vs with
    | [] =>
      match named.lookup "default" with
      | some v => return v
      | none => fault "ValueError" (name ++ "() arg is an empty sequence")
    | first :: rest =>
      let start := (first, ← key first)
      let found ← rest.foldlM (fun (best : Value × Value) v => do
        let k ← key v
        let better ← ordered fuel r (if name = "min" then .lt else .gt) k best.2
        return if better then (v, k) else best) start
      return found.1
  | "sum" =>
    let vs ← listOf fuel r (arg 0)
    let start := match args with
      | _ :: v :: _ => v
      | _ => (named.lookup "start").getD (.int 0)
    vs.foldlM (fun total v => binary fuel r .add total v) start
  | "any" => return .bool !(← iterate fuel r (arg 0) fun v => return !(← truth fuel r v))
  | "all" => return .bool (← iterate fuel r (arg 0) fun v => truth fuel r v)
  | "sorted" => newList (← sortedValues fuel r (← listOf fuel r (arg 0)) named)
  | "reversed" =>
    match ← special? fuel r (arg 0) "__reversed__" with
    | some f => r.call f [] []
    | none => newObject (.iterator (← listOf fuel r (arg 0)).reverse)
  | "enumerate" =>
    let start := (argument? ["iterable", "start"] args named "start").getD (.int 0)
    newObject (.mapped "enumerate" .none [← iterator fuel r (arg 0), start])
  | "zip" => newObject (.mapped "zip" .none (← args.mapM (iterator fuel r)))
  | "map" => newObject (.mapped "map" (arg 0) (← (args.drop 1).mapM (iterator fuel r)))
  | "filter" => newObject (.mapped "filter" (arg 0) [← iterator fuel r (arg 1)])
  | "itertools.chain" => newObject (.mapped "chain" .none (← args.mapM (iterator fuel r)))
  | "itertools.chain.from_iterable" =>
    let vs ← listOf fuel r (arg 0)
    newObject (.mapped "chain" .none (← vs.mapM (iterator fuel r)))
  | "itertools.repeat" =>
    newObject (.iterator (List.replicate ((← asInt? args[1]?).getD 1000).toNat (arg 0)))
  | "itertools.islice" =>
    let it ← iterator fuel r (arg 0)
    let (first, last) ← match args with
      | [_, n] => pure (0, (← asInt n))
      | _ => pure ((← asInt (arg 1)), (← asInt (arg 2)))
    let vs ← takeSome fuel r it last.toNat
    newObject (.iterator (vs.drop first.toNat))
  | "iter" =>
    match args with
    | [f, last] => newObject (.mapped "callable_iterator" f [last])
    | _ => iterator fuel r (arg 0)
  | "next" =>
    match ← next fuel r (arg 0) with
    | some v => return v
    | none => if 1 < args.length then return arg 1 else raise "StopIteration" []
  | "input" =>
    unless args.isEmpty do writeText (← shown fuel r false (arg 0))
    flushAll
    let line ← readLine patience
    if line.isEmpty then fault "EOFError" "EOF when reading a line"
    match ← readValue true line with
    | .text cs => return .text (if cs.getLast? = some '\n' then cs.dropLast else cs)
    | v => return v
  | "divmod" =>
    return .tuple [← binary fuel r .floorDiv (arg 0) (arg 1), ← binary fuel r .mod (arg 0) (arg 1)]
  | "pow" =>
    let found ← binary fuel r .pow (arg 0) (arg 1)
    if 2 < args.length then binary fuel r .mod found (arg 2) else return found
  | "super" =>
    match args, r.context.owner, r.context.self with
    | [kind, self], _, _ => return .parent self kind
    | _, some owner, some self => return .parent self (.object owner)
    | _, _, _ => fault "RuntimeError" "super(): no arguments"
  | "property" | "staticmethod" | "classmethod" => newObject (.special name (arg 0))
  | "vars" => attributeOf fuel r (arg 0) "__dict__"
  | "globals" | "locals" =>
    match ← objectAt (if name = "globals" then outermost else r.context.scope) with
    | .scope vars _ _ _ _ => newDict (vars.map fun (k, v) => (ofString k, v))
    | _ => newDict []
  | "exec" | "eval" =>
    let cs ← textKind.asRow (arg 0)
    match script? cs with
    | none => fault "SyntaxError" "invalid syntax"
    | some ss =>
      match name, ss with
      | "eval", [.expr e] => r.eval e
      | "eval", _ => fault "SyntaxError" "invalid syntax"
      | _, ss =>
        r.exec ss
        return .none
  | "__import__" => return .module (String.ofList (← textKind.asRow (arg 0)))
  | "functools.partial" =>
    let own ← newDict (named.map fun (name, v) => (ofString name, v))
    newObject (.mapped "partial" (arg 0) (own :: args.drop 1))
  | "functools.reduce" =>
    let vs ← listOf fuel r (arg 1)
    match args, vs with
    | [_, _, start], vs => vs.foldlM (fun total v => r.call (arg 0) [total, v] []) start
    | _, v :: vs => vs.foldlM (fun total v => r.call (arg 0) [total, v] []) v
    | _, [] => fault "TypeError" "reduce() of empty iterable with no initial value"
  | "functools.wraps" | "functools.lru_cache" =>
    match arg 0, name with
    | .object _, "functools.lru_cache" => return arg 0
    | _, _ =>
      let itself : Function :=
        ⟨"decorator", [("f", .either, none)], .inr (.name "f"), outermost, [], false, none⟩
      newObject (.function itself)
  | "functools.cache" | "copy.copy" => copyOf fuel r false (arg 0)
  | "copy.deepcopy" => copyOf fuel r true (arg 0)
  | "atexit.register" =>
    modify fun w => { w with farewells := (arg 0, args.drop 1) :: w.farewells }
    return arg 0
  | "os.getenv" =>
    match ← object? (← environment) with
    | some (.dict entries _) =>
      return ((entries.find? fun e => e.1.same (arg 0)).map (·.2)).getD
        ((argument? ["key", "default"] args named "default").getD .none)
    | _ => return .none
  | "os.kill" => sendSignal fuel r (← asInt (arg 0)) (← asInt (arg 1))
  | "signal.raise_signal" => sendSignal fuel r processNumber (← asInt (arg 0))
  | "signal.signal" =>
    let n := (← asInt (arg 0)).toNat
    let before := (← getThe World).handlers.lookup n
    modify fun w => { w with handlers := (n, arg 1) :: w.handlers }
    return before.getD (.int 0)
  | "signal.getsignal" =>
    return ((← getThe World).handlers.lookup (← asInt (arg 0)).toNat).getD (.int 0)
  | "json.dumps" | "json.dump" =>
    let sorted ← is "sort_keys"
    let ascii ← match named.lookup "ensure_ascii" with
      | some v => truth fuel r v
      | none => pure true
    let indent ← match named.lookup "indent" with
      | some (.int n) => pure (some (List.replicate n.toNat ' '))
      | some (.text cs) => pure (some cs)
      | _ => pure none
    let (comma, colon) ← match named.lookup "separators" with
      | some (.tuple [.text a, .text b]) => pure (a, b)
      | _ => pure (if indent.isSome then [','] else [',', ' '], [':', ' '])
    let d ← toDatum fuel r (named.lookup "default") (arg 0)
    let cs := d.render ⟨indent, comma, colon, sorted, ascii⟩ 0
    if name = "json.dumps" then return .text cs
    else method fuel r (arg 1) "write" [.text cs] []
  | "json.loads" | "json.load" =>
    let source ← if name = "json.load" then method fuel r (arg 0) "read" [] [] else pure (arg 0)
    let cs ← match source with
      | .text cs => pure cs
      | .none | .int _ | .double _ | .bool _ | .tuple _ =>
        fault "TypeError" ("the JSON object must be str, bytes or bytearray, not " ++
          (← kindName source))
      | v => decoded (← bytesOf fuel r v)
    match Datum.parse cs with
    | .ok d => d.toValue
    | .error f =>
      throw (.raised (← newObject (.instance (.native "json.JSONDecodeError") [
        ("args", .tuple [ofString (f.report cs)]), ("msg", ofString f.message),
        ("doc", .text cs), ("pos", .int (cs.length - f.left : Nat))])))
  | name =>
    match library? name args named with
    | some result => result
    | none => fault "NotImplementedError" name

end LanguageClient.Scripting
