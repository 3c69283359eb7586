import LanguageClient.Machine.Scripting.Library
import LanguageClient.Machine.Scripting.Reader

/-!
# Variables of scripts

Variables are kept in scopes, each with the scope around it; the outermost one has the first place
on the heap. A function's own names are those that it gives values to.
-/

namespace LanguageClient.Scripting

/-- The place of the outermost scope. -/
def outermost : Nat := 0

/-- More scopes than stand in one another. -/
def scopeDepth : Nat := 1000

/-- The value of a variable, seen from a scope; `inner` for the scope where it is asked for. -/
def find? (name : String) : Nat → Bool → Nat → Doing (Option Value)
  | 0, _, _ => return none
  | fuel + 1, inner, place => do
    match ← objectAt place with
    | .scope vars outer own ofClass elsewhere =>
      let further : Doing (Option Value) := match outer with
        | some place => find? name fuel false place
        | none => return none
      if ofClass && !inner then further
      else match elsewhere.lookup name with
        | some true => find? name fuel true outermost
        | some false => further
        | none =>
          match vars.lookup name with
          | some v => return some v
          | none =>
            if name ∈ own && !ofClass && outer.isSome then
              fault "UnboundLocalError" ("cannot access local variable '" ++ name ++
                "' where it is not associated with a value")
            else further
    | _ => return none

/-- The value of a name, which may be one that is there from the beginning. -/
def valueOfName (scope : Nat) (name : String) : Doing Value := do
  match ← find? name scopeDepth true scope with
  | some v => return v
  | none =>
    match builtin? name with
    | some v => return v
    | none => fault "NameError" ("name '" ++ name ++ "' is not defined")

/-- The scope in which a name is given a value. -/
def homeOf (name : String) : Nat → Bool → Nat → Doing Nat
  | 0, _, place => return place
  | fuel + 1, searching, place => do
    match ← objectAt place with
    | .scope vars outer own ofClass elsewhere =>
      match elsewhere.lookup name, outer with
      | some true, _ => return outermost
      | some false, some outer => homeOf name fuel true outer
      | _, outer =>
        let mine := !searching || (!ofClass && (name ∈ own || (vars.lookup name).isSome))
        match mine, outer with
        | false, some outer => homeOf name fuel true outer
        | _, _ => return place
    | _ => return place

/-- Give a variable a value, or take it away. -/
def setName (scope : Nat) (name : String) (value : Option Value) : Doing Unit := do
  let home ← homeOf name scopeDepth false scope
  match ← objectAt home with
  | .scope vars outer own ofClass elsewhere =>
    match value with
    | some v => setObject home (.scope (vars.put name v) outer own ofClass elsewhere)
    | none =>
      if (vars.lookup name).isNone then
        fault "NameError" ("name '" ++ name ++ "' is not defined")
      setObject home (.scope (vars.filter (·.1 ≠ name)) outer own ofClass elsewhere)
  | _ => return

/-- Say that names belong to the outermost scope, or to one around. -/
def declareOuter (scope : Nat) (names : List String) (global : Bool) : Doing Unit := do
  if let .scope vars outer own ofClass elsewhere ← objectAt scope then
    let more := names.map fun name => (name, global)
    setObject scope (.scope vars outer own ofClass (more ++ elsewhere))

def newScope (vars : Attributes) (outer : Nat) (own : List String) (ofClass : Bool) :
    Doing Nat := do
  match ← newObject (.scope vars (some outer) own ofClass []) with
  | .object place => return place
  | _ => return outermost

/-! ### Names that a function gives values to -/

/-- The names in a target. -/
def targetNames : Nat → Expr → List String
  | 0, _ => []
  | fuel + 1, e =>
    match e with
    | .name s => [s]
    | .tuple es | .list es => es.flatMap (targetNames fuel)
    | .spread e => targetNames fuel e
    | _ => []

/-- The name that a module is known by. -/
def moduleName (name : String) (other : Option String) : String :=
  other.getD ((name.splitOn ".").headD name)

mutual

/-- The names that statements give values to. -/
def ownNames : Nat → List Statement → List String
  | 0, _ => []
  | fuel + 1, ss => ss.flatMap (ownNamesOf fuel)

def ownNamesOf : Nat → Statement → List String
  | 0, _ => []
  | fuel + 1, s =>
    let target (e : Expr) : List String := targetNames targetDepth e
    let within (ss : List Statement) : List String := ownNames fuel ss
    match s with
    | .assign ts _ => ts.flatMap target
    | .update t _ _ => target t
    | .delete ts => ts.flatMap target
    | .bring ms => ms.map fun (name, other) => moduleName name other
    | .bringFrom _ ms => ms.map fun (name, other) => other.getD name
    | .condition _ yes no => within yes ++ within no
    | .loop _ body after => within body ++ within after
    | .each t _ body after => target t ++ within body ++ within after
    | .attempt body hs after last =>
      within body ++ within after ++ within last ++ hs.flatMap fun
        | .mk _ name body => name.toList ++ within body
    | .within cs body => (cs.flatMap fun c => (c.2.map target).getD []) ++ within body
    | .define name _ _ _ | .object name _ _ _ => [name]
    | .select _ as => as.flatMap fun
      | .mk _ _ body => within body
    | _ => []

end

/-- Names that are said to belong to other scopes. -/
def outerNames : Nat → List Statement → List String
  | 0, _ => []
  | fuel + 1, ss => ss.flatMap fun
    | .outer names _ => names
    | .condition _ yes no => outerNames fuel yes ++ outerNames fuel no
    | .loop _ body after | .each _ _ body after => outerNames fuel body ++ outerNames fuel after
    | .attempt body _ after last =>
      outerNames fuel body ++ outerNames fuel after ++ outerNames fuel last
    | .within _ body => outerNames fuel body
    | _ => []

/-- Whether an expression gives values one at a time. -/
def exprYields : Nat → Expr → Bool
  | 0, _ => false
  | fuel + 1, e =>
    match e with
    | .yield _ | .yieldAll _ => true
    | .tuple es | .list es => es.any (exprYields fuel)
    | .call f args => exprYields fuel f || args.any fun a => exprYields fuel a.2
    | .binary _ a b | .both a b | .either a b => exprYields fuel a || exprYields fuel b
    | .compare a rest => exprYields fuel a || rest.any fun r => exprYields fuel r.2
    | .not e | .negate e | .attribute e _ | .assign _ e => exprYields fuel e
    | .item a b => exprYields fuel a || exprYields fuel b
    | .choose a b c => exprYields fuel a || exprYields fuel b || exprYields fuel c
    | _ => false

/-- Whether statements give values one at a time, those of functions in them aside. -/
def yieldsIn : Nat → List Statement → Bool
  | 0, _ => false
  | fuel + 1, ss =>
    let within (ss : List Statement) : Bool := yieldsIn fuel ss
    let has (e : Expr) : Bool := exprYields targetDepth e
    ss.any fun
      | .expr e | .assign _ e | .update _ _ e => has e
      | .giveBack e => (e.map has).getD false
      | .condition e yes no => has e || within yes || within no
      | .loop e body after | .each _ e body after => has e || within body || within after
      | .attempt body hs after last =>
        within body || within after || within last || hs.any fun
          | .mk _ _ body => within body
      | .within _ body => within body
      | .select _ as => as.any fun
        | .mk _ _ body => within body
      | _ => false

/-- Statements do not stand deeper in one another. -/
def statementDepth : Nat := 200

/-- What a function needs to run, made in a scope. -/
def Function.of (name : String) (parameters : List (String × Taking × Option Value))
    (body : List Statement ⊕ Expr) (scope : Nat) (owner : Option Nat) : Function :=
  let (own, yields) := match body with
    | .inl ss =>
      let outer := outerNames statementDepth ss
      ((ownNames statementDepth ss).filter (· ∉ outer), yieldsIn statementDepth ss)
    | .inr _ => ([], false)
  ⟨name, parameters, body, scope, own, yields, owner⟩

/-- The variables of a call: arguments by place, then by name, then what parameters are without. -/
def Function.bind (f : Function) (args : List Value) (named : Attributes) : Doing Attributes := do
  let wrong {α : Type} (message : String) : Doing α :=
    fault "TypeError" (f.name ++ "() " ++ message)
  let placed := f.parameters.filter fun p => p.2.1 = .placed || p.2.1 = .either
  let hasRow := f.parameters.any fun p => p.2.1 = .row
  let hasEntries := f.parameters.any fun p => p.2.1 = .entries
  if placed.length < args.length && !hasRow then
    let count := Nat.repr placed.length
    wrong ("takes " ++ count ++ " positional argument" ++ (if placed.length = 1 then "" else "s") ++
      " but " ++ Nat.repr args.length ++ (if args.length = 1 then " was given" else " were given"))
  let byPlace := (placed.map (·.1)).zip args
  let isNamed (name : String) : Bool :=
    f.parameters.any fun p => p.1 = name && (p.2.1 = .either || p.2.1 = .named)
  for (name, _) in named do
    if (byPlace.lookup name).isSome && isNamed name then
      wrong ("got multiple values for argument '" ++ name ++ "'")
    if !isNamed name && !hasEntries then
      wrong ("got an unexpected keyword argument '" ++ name ++ "'")
  f.parameters.mapM fun (name, taking, usual) => do
    match taking with
    | .row => return (name, .tuple (args.drop placed.length))
    | .entries =>
      let rest := named.filter fun (n, _) => !isNamed n
      return (name, ← newDict (rest.map fun (n, v) => (ofString n, v)))
    | _ =>
      let given := match byPlace.lookup name with
        | some v => some v
        | none => named.lookup name
      match given with
      | some v => return (name, v)
      | none =>
        match usual with
        | some v => return (name, v)
        | none => wrong ("missing 1 required positional argument: '" ++ name ++ "'")

/-! ### Classes -/

/-- A class and those above it, the nearest first. -/
def ancestors : Nat → Value → Doing (List Value)
  | 0, _ => return []
  | fuel + 1, v => do
    match v with
    | .native "bool" => return [.native "bool", .native "int", .native "object"]
    | .native name =>
      if (exceptions.lookup name).isSome then return (kindsFrom kindDepth name).map .native
      else return [.native name, .native "object"]
    | .object place =>
      match ← objectAt place with
      | .class _ bases _ =>
        let above ← bases.mapM (ancestors fuel)
        let all := above.flatten
        let objects := all.filter (·.same (.native "object"))
        let others := all.filter fun v => !v.same (.native "object")
        -- a class that is reached twice stands where it is reached last
        let kept := others.foldr
          (fun v found => if found.any (·.same v) then found else v :: found) []
        return v :: kept ++ (if objects.isEmpty then [] else [.native "object"])
      | _ => return []
    | _ => return []

/-- More classes than stand above one another. -/
def classDepth : Nat := 50

/-- The class of a value. -/
def kindOf (v : Value) : Doing Value := do
  match v with
  | .object place =>
    match ← objectAt place with
    | .instance kind _ => return kind
    | .class _ _ _ => return .native "type"
    | _ => return .native (← kindName v)
  | v => return .native (← kindName v)

/-- Whether a value is of a class, or of one of a tuple of classes. -/
def isOfKind (v kind : Value) : Doing Bool := do
  let above ← ancestors classDepth (← kindOf v)
  let kinds := match kind with
    | .tuple kinds => kinds
    | kind => [kind]
  let flat := kinds.flatMap fun
    | .tuple more => more
    | k => [k]
  return flat.any fun k => above.any (·.same k) || k.same (.native "object")

/-- What classes hold under a name, the nearest first. -/
def classMember? (name : String) : List Value → Doing (Option Value)
  | [] => return none
  | k :: rest => do
    match k with
    | .object place =>
      match ← objectAt place with
      | .class _ _ attributes =>
        match attributes.lookup name with
        | some v => return some v
        | none => classMember? name rest
      | _ => classMember? name rest
    | _ => classMember? name rest

/-- An exception from a value that is raised: an exception, or a class of them. -/
def newException (kind : Value) (args : List Value) : Doing Value :=
  newObject (.instance kind [("args", .tuple args)])

/-- What is said of a missing attribute. -/
def noAttribute {α : Type} (v : Value) (name : String) : Doing α := do
  let kind ← kindName v
  match v with
  | .module m => fault "AttributeError" ("module '" ++ m ++ "' has no attribute '" ++ name ++ "'")
  | _ => fault "AttributeError" ("'" ++ kind ++ "' object has no attribute '" ++ name ++ "'")

end LanguageClient.Scripting
