import LanguageClient.Machine.Scripting.Natives

/-!
# Running statements of scripts

Expressions come to values and statements change the world. Values that a function gives one at a
time go straight to what is done with them: taking the next one goes on from there. Fuel bounds how
deep calls go and how often loops run.
-/

namespace LanguageClient.Scripting

/-- As many calls may be in one another. -/
def callDepth : Nat := 990

/-- A comprehension as statements that give its values. -/
def clauseStatements (value : Expr) : List Clause → List Statement
  | [] => [.expr (.yield (some value))]
  | .each target values :: rest => [.each target values (clauseStatements value rest) []]
  | .only test :: rest => [.condition test (clauseStatements value rest) []]

mutual

/-- What other parts of the script are run with from here. -/
def runner : Nat → Context → Runner
  | 0, c => ⟨c, fun _ _ _ => throw .spent, fun _ _ => throw .spent, fun _ => throw .spent,
    fun _ => throw .spent⟩
  | fuel + 1, c => ⟨c, call fuel c, drive fuel c, eval fuel c, exec fuel c⟩

def eval : Nat → Context → Expr → Doing Value
  | 0, _, _ => throw .spent
  | fuel + 1, c, e => do
    match e with
    | .none => return .none
    | .bool b => return .bool b
    | .whole n => return .int n
    | .double f => return .double f
    | .text cs => return .text cs
    | .bytes bs => return .bytes bs
    | .ellipsis => return .ellipsis
    | .filled pieces => return .text (← evalPieces fuel c pieces)
    | .name s => valueOfName c.scope s
    | .tuple items => return .tuple (← evalItems fuel c items)
    | .list items => newList (← evalItems fuel c items)
    | .set items =>
      let vs ← (← evalItems fuel c items).mapM asKey
      newObject (.set (distinct vs) false)
    | .dict entries => newObject (.dict (← evalEntries fuel c entries #[]) none)
    | .attribute e name => attributeOf fuel (runner fuel c) (← eval fuel c e) name
    | .item e (.slice first last step) =>
      let v ← eval fuel c e
      let bound (e : Option Expr) : Doing (Option Int) := do
        match e with
        | some e => asInt? (some (← eval fuel c e))
        | none => return none
      let first ← bound first
      let last ← bound last
      let step := (← bound step).getD 1
      if step = 0 then fault "ValueError" "slice step cannot be zero"
      sliceOf fuel (runner fuel c) v first last step
    | .item e i =>
      let v ← eval fuel c e
      item fuel (runner fuel c) v (← eval fuel c i)
    | .slice _ _ _ => return .none
    | .call f args =>
      let f ← eval fuel c f
      let (placed, named) ← evalArguments fuel c args
      call fuel c f placed named
    | .negate e =>
      let v ← eval fuel c e
      match number? v with
      | some (.int n) => return .int (-n)
      | some (.double f) => return .double (-f)
      | none => unary fuel (runner fuel c) v "-" "__neg__"
    | .plus e =>
      let v ← eval fuel c e
      match number? v with
      | some n => return n.value
      | none => unary fuel (runner fuel c) v "+" "__pos__"
    | .invert e =>
      let v ← eval fuel c e
      match int? v with
      | some n => return .int (-n - 1)
      | none => unary fuel (runner fuel c) v "~" "__invert__"
    | .not e => return .bool !(← truth fuel (runner fuel c) (← eval fuel c e))
    | .binary o a b =>
      let a ← eval fuel c a
      let b ← eval fuel c b
      binary fuel (runner fuel c) o a b
    | .compare first rest => chain fuel c (← eval fuel c first) rest
    | .both a b =>
      let v ← eval fuel c a
      if ← truth fuel (runner fuel c) v then eval fuel c b else return v
    | .either a b =>
      let v ← eval fuel c a
      if ← truth fuel (runner fuel c) v then return v else eval fuel c b
    | .choose test yes no =>
      if ← truth fuel (runner fuel c) (← eval fuel c test) then eval fuel c yes else eval fuel c no
    | .function parameters body =>
      let ps ← usualValues fuel c parameters
      newObject (.function (.of "<lambda>" ps (.inr body) c.scope c.owner))
    | .collect kind key value clauses =>
      let value := match key with
        | some k => .tuple [k, value]
        | none => value
      let f := Function.of "<genexpr>" [] (.inl (clauseStatements value clauses)) c.scope c.owner
      let scope ← newScope [] c.scope f.own false
      let g ← newObject (.generator f scope false)
      match kind with
      | .lazy => return g
      | .list => newList (← listOf fuel (runner fuel c) g)
      | .set => newObject (.set (distinct (← (← listOf fuel (runner fuel c) g).mapM asKey)) false)
      | .dict =>
        let pairs ← listOf fuel (runner fuel c) g
        newObject (.dict (pairs.foldl (fun es p =>
          match p with
          | .tuple [k, v] => putEntry es k v
          | _ => es) #[]) none)
    | .assign name e =>
      let v ← eval fuel c e
      setName c.scope name (some v)
      return v
    | .spread _ => fault "SyntaxError" "can't use starred expression here"
    | .yield e =>
      let v ← match e with
        | some e => eval fuel c e
        | none => pure .none
      match c.yields with
      | some f => f v
      | none => fault "SyntaxError" "'yield' outside function"
      return .none
    | .yieldAll e =>
      let v ← eval fuel c e
      match c.yields with
      | some f =>
        let _ ← iterate fuel (runner fuel c) v fun v => do
          f v
          return true
      | none => fault "SyntaxError" "'yield' outside function"
      return .none

/-- Values of expressions, of which some stand for all items of a row. -/
def evalItems : Nat → Context → List Expr → Doing (List Value)
  | 0, _, _ => throw .spent
  | _, _, [] => return []
  | fuel + 1, c, .spread e :: rest => do
    let vs ← listOf fuel (runner fuel c) (← eval fuel c e)
    return vs ++ (← evalItems fuel c rest)
  | fuel + 1, c, e :: rest => do
    let v ← eval fuel c e
    return v :: (← evalItems fuel c rest)

def evalEntries : Nat → Context → List (Option Expr × Expr) → Array (Value × Value) →
    Doing (Array (Value × Value))
  | 0, _, _, _ => throw .spent
  | _, _, [], entries => return entries
  | fuel + 1, c, (none, e) :: rest, entries => do
    let more ← entriesOf fuel (runner fuel c) (← eval fuel c e)
    evalEntries fuel c rest (more.foldl (fun es (k, v) => putEntry es k v) entries)
  | fuel + 1, c, (some k, e) :: rest, entries => do
    let k ← asKey (← eval fuel c k)
    let v ← eval fuel c e
    evalEntries fuel c rest (putEntry entries k v)

def evalArguments : Nat → Context → List (Giving × Expr) → Doing (List Value × Attributes)
  | 0, _, _ => throw .spent
  | _, _, [] => return ([], [])
  | fuel + 1, c, (giving, e) :: rest => do
    let v ← eval fuel c e
    match giving with
    | .plain =>
      let (placed, named) ← evalArguments fuel c rest
      return (v :: placed, named)
    | .named name =>
      let (placed, named) ← evalArguments fuel c rest
      return (placed, (name, v) :: named)
    | .row =>
      let vs ← listOf fuel (runner fuel c) v
      let (placed, named) ← evalArguments fuel c rest
      return (vs ++ placed, named)
    | .entries =>
      let es ← entriesOf fuel (runner fuel c) v
      let (placed, named) ← evalArguments fuel c rest
      let own := es.filterMap fun
        | (.text k, v) => some (String.ofList k, v)
        | _ => none
      return (placed, own ++ named)

/-- The text of pieces with values between them. -/
def evalPieces : Nat → Context → List (Expr × Option Char × Option Expr) → Doing (List Char)
  | 0, _, _ => throw .spent
  | _, _, [] => return []
  | fuel + 1, c, (e, conversion, format) :: rest => do
    let v ← eval fuel c e
    let v ← converted fuel (runner fuel c) conversion v
    let layout ← match format with
      | some e => eval fuel c e
      | none => pure (.text [])
    let cs ← match layout with
      | .text cs => formatted fuel (runner fuel c) v cs
      | _ => shown fuel (runner fuel c) false v
    return cs ++ (← evalPieces fuel c rest)

/-- Parameters with what they are without an argument. -/
def usualValues : Nat → Context → List Parameter →
    Doing (List (String × Taking × Option Value))
  | 0, _, _ => throw .spent
  | _, _, [] => return []
  | fuel + 1, c, (name, taking, usual) :: rest => do
    let v ← match usual with
      | some e => some <$> eval fuel c e
      | none => pure none
    return (name, taking, v) :: (← usualValues fuel c rest)

/-- Comparisons one after another, each with the value before it. -/
def chain : Nat → Context → Value → List (Comparison × Expr) → Doing Value
  | 0, _, _, _ => throw .spent
  | _, _, v, [] => return v
  | fuel + 1, c, a, [(o, e)] => do
    let b ← eval fuel c e
    compareBy fuel (runner fuel c) o a b
  | fuel + 1, c, a, (o, e) :: rest => do
    let b ← eval fuel c e
    let v ← compareBy fuel (runner fuel c) o a b
    if ← truth fuel (runner fuel c) v then chain fuel c b rest else return v

def call : Nat → Context → Value → List Value → Attributes → Doing Value
  | 0, _, _, _, _ => throw .spent
  | fuel + 1, c, f, args, named => do
    match f with
    | .native name => native fuel (runner fuel c) name args named
    | .method self name => method fuel (runner fuel c) self name args named
    | .object place =>
      match ← objectAt place with
      | .function g => callFunction fuel c g args named
      | .bound self g => call fuel c g (self :: args) named
      | .class _ _ _ => construct fuel (runner fuel c) f args named
      | .special "property" _ => fault "TypeError" "'property' object is not callable"
      | .special _ g => call fuel c g args named
      | .mapped "partial" g (own :: values) =>
        let es ← entriesOf fuel (runner fuel c) own
        let own := es.filterMap fun
          | (.text k, v) =>
            if (named.lookup (String.ofList k)).isNone then some (String.ofList k, v) else none
          | _ => none
        call fuel c g (values ++ args) (own ++ named)
      | .instance _ _ =>
        match ← special? fuel (runner fuel c) f "__call__" with
        | some g => call fuel c g args named
        | none => fault "TypeError" ("'" ++ (← kindName f) ++ "' object is not callable")
      | _ => fault "TypeError" ("'" ++ (← kindName f) ++ "' object is not callable")
    | f => fault "TypeError" ("'" ++ (← kindName f) ++ "' object is not callable")

def callFunction : Nat → Context → Function → List Value → Attributes → Doing Value
  | 0, _, _, _, _ => throw .spent
  | fuel + 1, c, f, args, named => do
    if callDepth < c.depth then fault "RecursionError" "maximum recursion depth exceeded"
    let vars ← f.bind args named
    let scope ← newScope vars f.scope f.own false
    if f.yields then newObject (.generator f scope false)
    else
      let inner : Context := ⟨scope, c.handled, none, f.owner, args.head?, c.depth + 1⟩
      match f.body with
      | .inr e => eval fuel inner e
      | .inl body =>
        try
          exec fuel inner body
          return .none
        catch
          | .gaveBack v => return v
          | .left | .again => fault "SyntaxError" "'break' outside loop"
          | h => throw h

/-- Give a target a value. -/
def assign : Nat → Context → Expr → Value → Doing Unit
  | 0, _, _, _ => throw .spent
  | fuel + 1, c, target, v => do
    match target with
    | .name s => setName c.scope s (some v)
    | .attribute e name => setAttribute fuel (runner fuel c) (← eval fuel c e) name v
    | .item e (.slice first last _) =>
      let whole ← eval fuel c e
      let bound (e : Option Expr) : Doing (Option Int) := do
        match e with
        | some e => asInt? (some (← eval fuel c e))
        | none => return none
      let first ← bound first
      let last ← bound last
      match whole, ← object? whole with
      | .object place, some (.list vs) =>
        let a := (Row.bound vs.size 0 first).toNat
        let b := max a (Row.bound vs.size vs.size last).toNat
        let more ← listOf fuel (runner fuel c) v
        setObject place (.list (vs.extract 0 a ++ more.toArray ++ vs.extract b vs.size))
      | .object place, some (.buffer bs) =>
        let a := (Row.bound bs.length 0 first).toNat
        let b := max a (Row.bound bs.length bs.length last).toNat
        let more ← bytesOf fuel (runner fuel c) v
        setObject place (.buffer (bs.take a ++ more ++ bs.drop b))
      | whole, _ =>
        fault "TypeError" ("'" ++ (← kindName whole) ++ "' object does not support item assignment")
    | .item e i =>
      let whole ← eval fuel c e
      setItem fuel (runner fuel c) whole (← eval fuel c i) v
    | .tuple ts | .list ts => unpack fuel c ts (← listOf fuel (runner fuel c) v)
    | _ => fault "SyntaxError" "cannot assign"

/-- Give targets the values of a row. -/
def unpack : Nat → Context → List Expr → List Value → Doing Unit
  | 0, _, _, _ => throw .spent
  | fuel + 1, c, ts, vs => do
    let few {α : Type} : Doing α := fault "ValueError" ("not enough values to unpack (expected " ++
      Nat.repr ts.length ++ ", got " ++ Nat.repr vs.length ++ ")")
    let before := ts.takeWhile fun
      | .spread _ => false
      | _ => true
    match ts.drop before.length with
    | .spread t :: after =>
      if vs.length < before.length + after.length then few
      assignAll fuel c before vs
      let middle := vs.length - before.length - after.length
      assign fuel c t (← newList ((vs.drop before.length).take middle))
      assignAll fuel c after (vs.drop (before.length + middle))
    | _ =>
      if vs.length < ts.length then few
      if ts.length < vs.length then
        fault "ValueError" ("too many values to unpack (expected " ++ Nat.repr ts.length ++ ")")
      assignAll fuel c ts vs

def assignAll : Nat → Context → List Expr → List Value → Doing Unit
  | 0, _, _, _ => throw .spent
  | fuel + 1, c, t :: ts, v :: vs => do
    assign fuel c t v
    assignAll fuel c ts vs
  | _, _, _, _ => return

def exec : Nat → Context → List Statement → Doing Unit
  | 0, _, _ => throw .spent
  | _, _, [] => return
  | fuel + 1, c, s :: rest => do
    step fuel c s
    exec fuel c rest

/-- One statement. -/
def step : Nat → Context → Statement → Doing Unit
  | 0, _, _ => throw .spent
  | fuel + 1, c, s => do
    match s with
    | .expr e =>
      let _ ← eval fuel c e
    | .assign targets e =>
      let v ← eval fuel c e
      targets.forM fun t => assign fuel c t v
    | .update target o e => update fuel c target o e
    | .delete targets => targets.forM fun t => do
      match t with
      | .name s => setName c.scope s none
      | .item e i =>
        let v ← eval fuel c e
        removeItem fuel (runner fuel c) v (← eval fuel c i)
      | .attribute e name =>
        match ← eval fuel c e with
        | .object place =>
          if let .instance kind attributes ← objectAt place then
            if (attributes.lookup name).isNone then noAttribute (.object place) name
            setObject place (.instance kind (attributes.filter (·.1 ≠ name)))
        | _ => pure ()
      | _ => pure ()
    | .pass => return
    | .leave => throw .left
    | .again => throw .again
    | .giveBack e =>
      match e with
      | some e => throw (.gaveBack (← eval fuel c e))
      | none => throw (.gaveBack .none)
    | .raise e =>
      match e with
      | none =>
        match c.handled with
        | some v => throw (.raised v)
        | none => fault "RuntimeError" "No active exception to reraise"
      | some e =>
        let v ← eval fuel c e
        let above ← ancestors classDepth v
        let v ← if above.isEmpty then pure v else call fuel c v [] []
        if ← isOfKind v (.native "BaseException") then throw (.raised v)
        else fault "TypeError" "exceptions must derive from BaseException"
    | .assert test e =>
      unless ← truth fuel (runner fuel c) (← eval fuel c test) do
        match e with
        | some e => raise "AssertionError" [← eval fuel c e]
        | none => raise "AssertionError" []
    | .outer names global => declareOuter c.scope names global
    | .bring ms => ms.forM fun (name, other) => do
      unless name ∈ modules do
        fault "ModuleNotFoundError" ("No module named '" ++ name ++ "'")
      let bound := if other.isSome then name else (name.splitOn ".").headD name
      setName c.scope (moduleName name other) (some (.module bound))
    | .bringFrom module names =>
      unless module ∈ modules do
        fault "ModuleNotFoundError" ("No module named '" ++ module ++ "'")
      names.forM fun (name, other) => do
        if name = "*" then
          let start := module ++ "."
          for full in natives do
            if full.startsWith start then
              let short := String.ofList (full.toList.drop start.length)
              setName c.scope short (some (.native full))
        else
          let v ← match ← member? module name with
            | some v => pure v
            | none =>
              if module ∈ ["typing", "__future__", "collections.abc", "types", "abc"] then
                pure (Value.native "object")
              else
                fault "ImportError"
                  ("cannot import name '" ++ name ++ "' from '" ++ module ++ "'")
          setName c.scope (other.getD name) (some v)
    | .condition test yes no =>
      if ← truth fuel (runner fuel c) (← eval fuel c test) then exec fuel c yes else exec fuel c no
    | .loop test body after => loop fuel c test body after
    | .each target values body after =>
      let row ← eval fuel c values
      let all ← iterate fuel (runner fuel c) row fun v => do
        assign fuel c target v
        try
          exec fuel c body
          return true
        catch
          | .left => return false
          | .again => return true
          | h => throw h
      if all then exec fuel c after
    | .attempt body handlers after last => attempt fuel c body handlers after last
    | .within contexts body => within fuel c contexts body
    | .define name parameters body decorators =>
      let ps ← usualValues fuel c parameters
      let f ← newObject (.function (.of name ps (.inl body) c.scope c.owner))
      define fuel c name f decorators
    | .object name bases body decorators =>
      let (above, _) ← evalArguments fuel c bases
      let above := if above.isEmpty then [Value.native "object"] else above
      let kind ← newObject (.class name above [])
      if let .object place := kind then
        let scope ← newScope [] c.scope [] true
        exec fuel { c with scope, owner := some place, self := none } body
        if let .scope vars _ _ _ _ ← objectAt scope then
          setObject place (.class name above vars)
      define fuel c name kind decorators
    | .select subject arms =>
      let v ← eval fuel c subject
      choose fuel c v arms

/-- Give a name what decorators make of a value, the last of them first. -/
def define : Nat → Context → String → Value → List Expr → Doing Unit
  | 0, _, _, _, _ => throw .spent
  | fuel + 1, c, name, v, decorators => do
    let fs ← decorators.mapM (eval fuel c)
    let v ← fs.foldrM (fun f v => call fuel c f [v] []) v
    match ← object? v with
    | some (.special "property.setter" f) => setName c.scope (name ++ ".setter") (some f)
    | _ => setName c.scope name (some v)

/-- Change the value of a target. -/
def update : Nat → Context → Expr → Operator → Expr → Doing Unit
  | 0, _, _, _, _ => throw .spent
  | fuel + 1, c, target, o, e => do
    let change (old : Value) : Doing Value := do
      let x ← eval fuel c e
      match old, o, ← object? old with
      | .object place, .add, some (.list vs) =>
        let more ← listOf fuel (runner fuel c) x
        setObject place (.list (vs ++ more.toArray))
        return old
      | .object place, .add, some (.buffer bs) =>
        let more ← bytesOf fuel (runner fuel c) x
        setObject place (.buffer (bs ++ more))
        return old
      | .object place, .or, some (.dict entries usual) =>
        let more ← entriesOf fuel (runner fuel c) x
        setObject place (.dict (more.foldl (fun es (k, v) => putEntry es k v) entries) usual)
        return old
      | _, _, _ =>
        let own := "__i" ++ String.ofList (o.methods.1.toList.drop 2)
        match ← special? fuel (runner fuel c) old own with
        | some f => call fuel c f [x] []
        | none => binary fuel (runner fuel c) o old x
    match target with
    | .name s => setName c.scope s (some (← change (← valueOfName c.scope s)))
    | .attribute e name =>
      let v ← eval fuel c e
      let r := runner fuel c
      setAttribute fuel r v name (← change (← attributeOf fuel r v name))
    | .item e i =>
      let v ← eval fuel c e
      let i ← eval fuel c i
      setItem fuel (runner fuel c) v i (← change (← item fuel (runner fuel c) v i))
    | _ => fault "SyntaxError" "illegal target for augmented assignment"

def loop : Nat → Context → Expr → List Statement → List Statement → Doing Unit
  | 0, _, _, _, _ => throw .spent
  | fuel + 1, c, test, body, after => do
    if ← truth fuel (runner fuel c) (← eval fuel c test) then
      let goesOn ← try
          exec fuel c body
          pure true
        catch
          | .left => pure false
          | .again => pure true
          | h => throw h
      if goesOn then loop fuel c test body after
    else exec fuel c after

def attempt : Nat → Context → List Statement → List Handler → List Statement →
    List Statement → Doing Unit
  | 0, _, _, _, _, _ => throw .spent
  | fuel + 1, c, body, handlers, after, last => do
    let tried : Doing Unit := do
      let outcome ← try
          exec fuel c body
          pure none
        catch h => pure (some h)
      match outcome with
      | none => exec fuel c after
      | some (.raised e) => handle fuel c e handlers
      | some h => throw h
    let outcome ← try
        tried
        pure none
      catch h => pure (some h)
    match outcome with
    | none => exec fuel c last
    | some .blocked => throw .blocked
    | some .spent => throw .spent
    | some (.exited s) => throw (.exited s)
    | some h =>
      exec fuel c last
      throw h

/-- See to an exception. -/
def handle : Nat → Context → Value → List Handler → Doing Unit
  | 0, _, _, _ => throw .spent
  | _, _, e, [] => throw (.raised e)
  | fuel + 1, c, e, .mk kinds name body :: rest => do
    let fits ← match kinds with
      | none => pure true
      | some k => do isOfKind e (← eval fuel c k)
    if !fits then handle fuel c e rest
    else
      if let some name := name then setName c.scope name (some e)
      let outcome ← try
          exec fuel { c with handled := some e } body
          pure none
        catch h => pure (some h)
      if let some name := name then
        if let some _ ← find? name scopeDepth true c.scope then setName c.scope name none
      if let some h := outcome then throw h

/-- Statements within what other values open and close. -/
def within : Nat → Context → List (Expr × Option Expr) → List Statement → Doing Unit
  | 0, _, _, _ => throw .spent
  | fuel + 1, c, [], body => exec fuel c body
  | fuel + 1, c, (e, target) :: rest, body => do
    let v ← eval fuel c e
    let find (name : String) : Doing Value := do
      match ← special? fuel (runner fuel c) v name with
      | some f => return f
      | none =>
        match ← attributeOf? fuel (runner fuel c) v name with
        | some f => return f
        | none =>
          fault "TypeError" ("'" ++ (← kindName v) ++
            "' object does not support the context manager protocol")
    let exit ← find "__exit__"
    let entered ← call fuel c (← find "__enter__") [] []
    if let some t := target then assign fuel c t entered
    let outcome ← try
        within fuel c rest body
        pure none
      catch h => pure (some h)
    match outcome with
    | some .blocked => throw .blocked
    | some .spent => throw .spent
    | some (.exited s) => throw (.exited s)
    | some (.raised e) =>
      let done ← call fuel c exit [← kindOf e, e, .none] []
      unless ← truth fuel (runner fuel c) done do throw (.raised e)
    | outcome =>
      let _ ← call fuel c exit [.none, .none, .none] []
      if let some h := outcome then throw h

/-- Do what belongs to the first pattern that a value fits. -/
def choose : Nat → Context → Value → List Arm → Doing Unit
  | 0, _, _, _ => throw .spent
  | _, _, _, [] => return
  | fuel + 1, c, v, .mk pattern guard body :: rest => do
    let good ← if ← fits fuel c v pattern then
        match guard with
        | some e => truth fuel (runner fuel c) (← eval fuel c e)
        | none => pure true
      else pure false
    if good then exec fuel c body else choose fuel c v rest

/-- Whether a value fits a pattern, whose names it gives values to. -/
def fits : Nat → Context → Value → Expr → Doing Bool
  | 0, _, _, _ => throw .spent
  | fuel + 1, c, v, p => do
    match p with
    | .name s =>
      unless s = "_" do setName c.scope s (some v)
      return true
    | .binary .or a b => do if ← fits fuel c v a then return true else fits fuel c v b
    | .tuple ps | .list ps =>
      let row ← match v with
        | .tuple vs => pure (some vs)
        | v =>
          match ← object? v with
          | some (.list vs) => pure (some vs.toList)
          | _ => pure none
      let isSpread (p : Expr) : Bool := match p with
        | .spread _ => true
        | _ => false
      let before := ps.takeWhile (!isSpread ·)
      match row, ps.drop before.length with
      | some vs, [] => if vs.length = ps.length then fitsAll fuel c (vs.zip ps) else return false
      | some vs, .spread rest :: after =>
        if vs.length < before.length + after.length then return false
        let middle := (vs.drop before.length).take (vs.length - before.length - after.length)
        let last := vs.drop (vs.length - after.length)
        let middle ← newList middle
        fitsAll fuel c (vs.zip before ++ (middle, rest) :: last.zip after)
      | _, _ => return false
    | .dict entries =>
      match ← object? v with
      | some (.dict held _) => fitsEntries fuel c held entries
      | _ => return false
    | .both p (.name s) =>
      if ← fits fuel c v p then
        setName c.scope s (some v)
        return true
      else return false
    | .call f args =>
      let kind ← eval fuel c f
      unless ← isOfKind v kind do return false
      fitsParts fuel c v args
    | .none => return isSame v .none
    | .bool b => return isSame v (.bool b)
    | p => equal fuel (runner fuel c) v (← eval fuel c p)

def fitsAll : Nat → Context → List (Value × Expr) → Doing Bool
  | 0, _, _ => throw .spent
  | _, _, [] => return true
  | fuel + 1, c, (v, p) :: rest => do
    if ← fits fuel c v p then fitsAll fuel c rest else return false

def fitsEntries : Nat → Context → Array (Value × Value) → List (Option Expr × Expr) →
    Doing Bool
  | 0, _, _, _ => throw .spent
  | _, _, _, [] => return true
  | fuel + 1, c, entries, (some k, p) :: rest => do
    let key ← eval fuel c k
    match entries.find? fun e => e.1.same key with
    | some (_, v) =>
      let others := entries.filter fun e => !e.1.same key
      if ← fits fuel c v p then fitsEntries fuel c others rest else return false
    | none => return false
  | fuel + 1, c, entries, [(none, p)] => do
    fits fuel c (← newDict entries.toList) p
  | fuel + 1, c, entries, (none, _) :: rest => fitsEntries fuel c entries rest

/-- Whether a value, which is of the kind of a pattern, has parts that fit those of the pattern. -/
def fitsParts : Nat → Context → Value → List (Giving × Expr) → Doing Bool
  | 0, _, _, _ => throw .spent
  | _, _, _, [] => return true
  | fuel + 1, c, v, (.named name, p) :: rest => do
    match ← attributeOf? fuel (runner fuel c) v name with
    | some part => if ← fits fuel c part p then fitsParts fuel c v rest else return false
    | none => return false
  | fuel + 1, c, v, (_, p) :: rest => do
    if ← fits fuel c v p then fitsParts fuel c v rest else return false

/-- Let a function give its values one at a time, as long as more are wanted; whether all were. -/
def drive : Nat → Context → Nat → (Value → Doing Bool) → Doing Bool
  | 0, _, _, _ => throw .spent
  | fuel + 1, c, place, f => do
    let .generator g scope ended ← objectAt place | return true
    if ended then return true
    setObject place (.generator g scope true)
    let give (v : Value) : Doing Unit := do
      let goesOn ← try f v catch
        | .blocked => throw .blocked
        | .spent => throw .spent
        | .exited s => throw (.exited s)
        | h => throw (.enough place (some h))
      unless goesOn do throw (.enough place none)
    let inner : Context := ⟨scope, none, some give, g.owner, none, c.depth + 1⟩
    try
      match g.body with
      | .inl body => exec fuel inner body
      | .inr e =>
        let _ ← eval fuel inner e
      return true
    catch
      | .gaveBack _ => return true
      | .enough p why =>
        if p ≠ place then throw (.enough p why)
        else match why with
          | some h => throw h
          | none => return false
      | h => throw h

end

end LanguageClient.Scripting
