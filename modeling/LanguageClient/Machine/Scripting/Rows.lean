import LanguageClient.Machine.Scripting.Compare

/-!
# Rows of values

Going through what values are made of, one after another, and taking all of it.
-/

namespace LanguageClient.Scripting

/-- Do something with each of some values as long as more are wanted; whether all were. -/
def forItems (f : Value → Doing Bool) : List Value → Doing Bool
  | [] => return true
  | v :: rest => do if ← f v then forItems f rest else return false

/-- Do something with each of a number of items of a range, as long as more are wanted. -/
def forRange (f : Value → Doing Bool) (first step : Int) : Nat → Doing Bool
  | 0 => return true
  | count + 1 => do
    if ← f (.int first) then forRange f (first + step) step count else return false

/-- Put a value into its place in an order. -/
def insertBy (before : Value → Value → Doing Bool) (v : Value × Value) :
    List (Value × Value) → Doing (List (Value × Value))
  | [] => return [v]
  | w :: rest => do
    if ← before v.1 w.1 then return v :: w :: rest else return w :: (← insertBy before v rest)

/-- Values in the order of their keys; those with equal keys stay as they are. -/
def sortBy (before : Value → Value → Doing Bool) (vs : List (Value × Value)) :
    Doing (List (Value × Value)) :=
  vs.foldrM (fun v sorted => insertBy (fun a b => return !(← before b a)) v sorted) []

/-- The lines of the input. -/
def streamLines : Nat → Bool → (Value → Doing Bool) → Doing Bool
  | 0, _, _ => throw .spent
  | fuel + 1, text, f => do
    let line ← readLine patience
    if line.isEmpty then return true
    if ← f (← readValue text line) then streamLines fuel text f else return false

/-- Take one item after another, up to the first that is not there. -/
def takeItems : Nat → Runner → Value → Int → (Value → Doing Bool) → Doing Bool
  | 0, _, _, _, _ => throw .spent
  | fuel + 1, r, g, i, f => do
    let found ← try some <$> r.call g [.int i] [] catch
      | .raised e => do
        if ← isOfKind e (.native "IndexError") then pure none else throw (.raised e)
      | h => throw h
    match found with
    | some v => if ← f v then takeItems fuel r g (i + 1) f else return false
    | none => return true

/-- How many values of a generator are found when one is asked for. -/
def foreseen : Nat := 1000

mutual

/-- Do something with each value of a row as long as more are wanted; whether all were. -/
def iterate : Nat → Runner → Value → (Value → Doing Bool) → Doing Bool
  | 0, _, _, _ => throw .spent
  | fuel + 1, r, v, f => do
    match v with
    | .text cs => forItems f (cs.map fun x => .text [x])
    | .bytes bs => forItems f (bs.map fun b => .int b.toNat)
    | .tuple vs => forItems f vs
    | .range a b s =>
      let count := rangeSize a b s
      let goesOn ← forRange f a s (min count rangeLimit)
      if goesOn && rangeLimit < count then throw .spent
      return goesOn
    | .stream 0 text => streamLines fuel text f
    | .object place =>
      match ← objectAt place with
      | .list vs => forItems f vs.toList
      | .dict entries _ => forItems f (entries.toList.map (·.1))
      | .set vs _ => forItems f vs.toList
      | .buffer bs => forItems f (bs.map fun b => .int b.toNat)
      | .iterator _ | .file _ | .counter _ _ => takeAll fuel r v f
      | .mapped kind g values =>
        let source := values.headD .none
        match kind with
        | "map" =>
          match values with
          | [source] => iterate fuel r source fun x => do f (← r.call g [x] [])
          | _ => takeAll fuel r v f
        | "filter" => iterate fuel r source fun x => do
          let good ← match g with
            | .none => truth fuel r x
            | g => truth fuel r (← r.call g [x] [])
          if good then f x else return true
        | "enumerate" =>
          let counter ← newObject (.counter ((values[1]?.bind int?).getD 0) 1)
          iterate fuel r source fun x => do
            match ← next fuel r counter with
            | some n => f (.tuple [n, x])
            | none => return false
        | _ => takeAll fuel r v f
      | .generator _ _ _ => r.drive place f
      | .instance _ _ =>
        match ← special? fuel r v "__iter__" with
        | some g =>
          let it ← r.call g [] []
          match it with
          | .object p =>
            if p = place then takeAll fuel r it f else iterate fuel r it f
          | it => iterate fuel r it f
        | none =>
          match ← special? fuel r v "__getitem__" with
          | some g => takeItems fuel r g 0 f
          | none => fault "TypeError" ("'" ++ (← kindName v) ++ "' object is not iterable")
      | _ => fault "TypeError" ("'" ++ (← kindName v) ++ "' object is not iterable")
    | v => fault "TypeError" ("'" ++ (← kindName v) ++ "' object is not iterable")

/-- Take one value after another. -/
def takeAll : Nat → Runner → Value → (Value → Doing Bool) → Doing Bool
  | 0, _, _, _ => throw .spent
  | fuel + 1, r, v, f => do
    match ← next fuel r v with
    | some x => if ← f x then takeAll fuel r v f else return false
    | none => return true

/-- The next value of an iterator; nothing at its end. -/
def next : Nat → Runner → Value → Doing (Option Value)
  | 0, _, _ => throw .spent
  | fuel + 1, r, v => do
    match v with
    | .stream 0 text =>
      let line ← readLine patience
      if line.isEmpty then return none else return some (← readValue text line)
    | .object place =>
      match ← objectAt place with
      | .iterator [] => return none
      | .iterator (x :: rest) =>
        setObject place (.iterator rest)
        return some x
      | .counter n step =>
        setObject place (.counter (n + step) step)
        return some (.int n)
      | .file f =>
        let bytes := f.content.drop f.position
        let head := bytes.takeWhile (· ≠ 0x0A)
        let line := bytes.take (head.length + 1)
        if line.isEmpty then return none
        setObject place (.file { f with position := f.position + line.length })
        return some (← fileValue f.text line)
      | .generator _ _ _ =>
        -- further values are found at once as well
        let vs ← firstOf fuel r v (some foreseen)
        setObject place (.iterator vs)
        next fuel r v
      | .mapped kind g values =>
        match kind, values with
        | "map", sources =>
          match ← nextAll fuel r sources with
          | some xs => some <$> r.call g xs []
          | none => return none
        | "zip", sources => return (← nextAll fuel r sources).map .tuple
        | "filter", source :: _ =>
          match ← next fuel r source with
          | none => return none
          | some x =>
            let good ← match g with
              | .none => truth fuel r x
              | g => truth fuel r (← r.call g [x] [])
            if good then return some x else next fuel r v
        | "enumerate", [source, n] =>
          match ← next fuel r source with
          | some x =>
            setObject place (.mapped kind g [source, .int ((int? n).getD 0 + 1)])
            return some (.tuple [n, x])
          | none => return none
        | "callable_iterator", [last] =>
          let x ← r.call g [] []
          if ← equal fuel r x last then return none else return some x
        | "chain", source :: rest =>
          match ← next fuel r source with
          | some x => return some x
          | none =>
            setObject place (.mapped kind g rest)
            next fuel r v
        | _, _ => return none
      | .instance _ _ =>
        match ← special? fuel r v "__next__" with
        | some f =>
          try some <$> r.call f [] [] catch
            | .raised e => do
              if ← isOfKind e (.native "StopIteration") then return none else throw (.raised e)
            | h => throw h
        | none => fault "TypeError" ("'" ++ (← kindName v) ++ "' object is not an iterator")
      | _ => fault "TypeError" ("'" ++ (← kindName v) ++ "' object is not an iterator")
    | v => fault "TypeError" ("'" ++ (← kindName v) ++ "' object is not an iterator")

/-- The next value of each of some iterators; nothing when one is at its end. -/
def nextAll : Nat → Runner → List Value → Doing (Option (List Value))
  | 0, _, _ => throw .spent
  | _, _, [] => return some []
  | fuel + 1, r, v :: rest => do
    match ← next fuel r v with
    | none => return none
    | some x => return (← nextAll fuel r rest).map (x :: ·)

/-- All values of a row. -/
def listOf : Nat → Runner → Value → Doing (List Value)
  | 0, _, _ => throw .spent
  | fuel + 1, r, v => do
    match v with
    | .tuple vs => return vs
    | .range a b s => rangeItems a b s
    | .text cs => return cs.map fun x => .text [x]
    | v =>
      match ← object? v with
      | some (.list vs) => return vs.toList
      | some (.iterator vs) =>
        if let .object place := v then setObject place (.iterator [])
        return vs
      | _ => firstOf fuel r v none

/-- The first values of a row, up to some number of them if there is a limit. -/
def firstOf : Nat → Runner → Value → Option Nat → Doing (List Value)
  | 0, _, _, _ => throw .spent
  | fuel + 1, r, v, limit? => do
    let .object place ← newObject (.list #[]) | return []
    let _ ← iterate fuel r v fun x => do
      let .list vs ← objectAt place | return false
      -- the list is taken off the heap so that it grows in place
      setObject place (.list #[])
      let vs := vs.push x
      let goesOn := limit?.all (vs.size < ·)
      setObject place (.list vs)
      return goesOn
    match ← objectAt place with
    | .list vs => return vs.toList
    | _ => return []

end

/-- Whether a value is among those of another. -/
def contains (fuel : Nat) (r : Runner) (whole v : Value) : Doing Bool := do
  match whole with
  | .text cs =>
    match v with
    | .text part => return (Row.find? part cs).isSome
    | v =>
      fault "TypeError" ("'in <string>' requires string as left operand, not " ++ (← kindName v))
  | .bytes bs => return (Row.find? (← bytesKind.asRow v) bs).isSome
  | whole =>
    match ← object? whole with
    | some (.dict entries _) => return (entryIndex? entries (← asKey v)).isSome
    | some (.set items _) => return items.any (·.same v)
    | some (.instance _ _) =>
      match ← special? fuel r whole "__contains__" with
      | some f => truth fuel r (← r.call f [v] [])
      | none =>
        return !(← iterate fuel r whole fun w => return !(← equal fuel r w v))
    | some (.function _) | some (.class _ _ _) | some (.bound _ _) => missing
    | _ =>
      match whole with
      | .tuple _ | .range _ _ _ | .object _ | .stream _ _ =>
        return !(← iterate fuel r whole fun w => return !(← equal fuel r w v))
      | _ => missing
where
  missing : Doing Bool := do
    fault "TypeError" ("argument of type '" ++ (← kindName whole) ++ "' is not iterable")

/-- The bytes of a value that is a row of them. -/
def bytesOf (fuel : Nat) (r : Runner) (v : Value) : Doing (List UInt8) := do
  match v with
  | .bytes bs => return bs
  | v =>
    match ← object? v with
    | some (.buffer bs) => return bs
    | some (.list _) | some (.iterator _) | some (.generator _ _ _) =>
      let ns ← (← listOf fuel r v).mapM asInt
      if ns.any fun n => n < 0 || 255 < n then
        fault "ValueError" "bytes must be in range(0, 256)"
      return ns.map fun n => n.toNat.toUInt8
    | _ =>
      fault "TypeError" ("a bytes-like object is required, not '" ++ (← kindName v) ++ "'")

/-- An iterator over a row. -/
def iterator (fuel : Nat) (r : Runner) (v : Value) : Doing Value := do
  match v with
  | .stream 0 _ => return v
  | v =>
    match ← object? v with
    | some (.iterator _) | some (.file _) | some (.generator _ _ _) | some (.mapped _ _ _)
    | some (.counter _ _) => return v
    | some (.instance _ _) =>
      match ← special? fuel r v "__iter__" with
      | some f => r.call f [] []
      | none => newObject (.iterator (← listOf fuel r v))
    | _ => newObject (.iterator (← listOf fuel r v))

/-- The entries of a table, or of a row of pairs. -/
def entriesOf (fuel : Nat) (r : Runner) (v : Value) : Doing (List (Value × Value)) := do
  match ← object? v with
  | some (.dict entries _) => return entries.toList
  | _ =>
    let rows ← listOf fuel r v
    rows.mapM fun row => do
      match ← listOf fuel r row with
      | [k, x] => return (k, x)
      | _ => fault "ValueError" "dictionary update sequence element has wrong length; 2 is required"

/-- Values in order, as the arguments of a sorting say. -/
def sortedValues (fuel : Nat) (r : Runner) (vs : List Value) (named : Attributes)
    : Doing (List Value) := do
  let key ← match named.lookup "key" with
    | some .none | none => pure (fun (v : Value) => (pure v : Doing Value))
    | some f => pure fun v => r.call f [v] []
  let down ← match named.lookup "reverse" with
    | some v => truth fuel r v
    | none => pure false
  let keyed ← vs.mapM fun v => do return (← key v, v)
  let before (a b : Value) : Doing Bool :=
    if down then ordered fuel r .lt b a else ordered fuel r .lt a b
  return (← sortBy before keyed).map (·.2)

/-- So many values of an iterator, or fewer at its end. -/
def takeSome : Nat → Runner → Value → Nat → Doing (List Value)
  | 0, _, _, _ => throw .spent
  | _, _, _, 0 => return []
  | fuel + 1, r, it, count + 1 => do
    match ← next fuel r it with
    | some v => return v :: (← takeSome fuel r it count)
    | none => return []

end LanguageClient.Scripting
