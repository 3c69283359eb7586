import LanguageClient.Machine.Scripting.Rows

/-!
# Items of values

Items by their places or keys.
-/

namespace LanguageClient.Scripting

/-- An item of a value. -/
def item (fuel : Nat) (r : Runner) (v i : Value) : Doing Value := do
  let place (length : Nat) (kind : String) : Doing Nat := do
    match int? i with
    | some n =>
      match Row.place? length n with
      | some p => return p
      | none => fault "IndexError" (kind ++ " index out of range")
    | none =>
      fault "TypeError" (kind ++ " indices must be integers or slices, not " ++ (← kindName i))
  match v with
  | .text cs => return .text [cs.getD (← place cs.length "string") ' ']
  | .bytes bs => return .int (bs.getD (← place bs.length "index") 0).toNat
  | .tuple vs => return vs.getD (← place vs.length "tuple") .none
  | .range a b s =>
    return .int (a + s * (← place (rangeSize a b s) "range object"))
  | .native _ => return v
  | v =>
    match ← object? v with
    | some (.list vs) => return vs.getD (← place vs.size "list") .none
    | some (.dict entries usual) =>
      match entries.find? fun e => e.1.same i with
      | some (_, found) => return found
      | none =>
        match usual, v with
        | some f, .object home =>
          let made ← r.call f [] []
          if let .dict entries usual ← objectAt home then
            setObject home (.dict (putEntry entries i made) usual)
          return made
        | _, _ =>
          let _ ← asKey i
          raise "KeyError" [i]
    | some (.buffer bs) => return .int (bs.getD (← place bs.length "bytearray") 0).toNat
    | _ =>
      match ← special? fuel r v "__getitem__" with
      | some f => r.call f [i] []
      | none => fault "TypeError" ("'" ++ (← kindName v) ++ "' object is not subscriptable")

/-- A part of a row. -/
def sliceOf (_ : Nat) (_ : Runner) (v : Value) (first last : Option Int) (step : Int)
    : Doing Value := do
  match v with
  | .text cs => return .text (Row.slice cs first last step)
  | .bytes bs => return .bytes (Row.slice bs first last step)
  | .tuple vs =>
    let array := vs.toArray
    return .tuple ((Row.places vs.length first last step).filterMap fun i => array[i]?)
  | .range a b s =>
    let array := (← rangeItems a b s).toArray
    newList ((Row.places array.size first last step).filterMap fun i => array[i]?)
  | v =>
    match ← object? v with
    | some (.list vs) =>
      newList ((Row.places vs.size first last step).filterMap fun i => vs[i]?)
    | some (.buffer bs) => newObject (.buffer (Row.slice bs first last step))
    | _ => fault "TypeError" ("'" ++ (← kindName v) ++ "' object is not subscriptable")

/-- Give an item a value. -/
def setItem (fuel : Nat) (r : Runner) (v i x : Value) : Doing Unit := do
  match v, ← object? v with
  | .object home, some (.list vs) =>
    match (int? i).bind (Row.place? vs.size) with
    | some p => setObject home (.list (vs.set! p x))
    | none => fault "IndexError" "list assignment index out of range"
  | .object home, some (.dict entries usual) =>
    let i ← asKey i
    setObject home (.dict (putEntry entries i x) usual)
  | .object home, some (.buffer bs) =>
    match (int? i).bind (Row.place? bs.length) with
    | some p => setObject home (.buffer (bs.set p ((← asInt x).toNat.toUInt8)))
    | none => fault "IndexError" "bytearray index out of range"
  | v, _ =>
    match ← special? fuel r v "__setitem__" with
    | some f =>
      let _ ← r.call f [i, x] []
    | none =>
      fault "TypeError" ("'" ++ (← kindName v) ++ "' object does not support item assignment")

/-- Take an item away. -/
def removeItem (fuel : Nat) (r : Runner) (v i : Value) : Doing Unit := do
  match v, ← object? v with
  | .object home, some (.list vs) =>
    match (int? i).bind (Row.place? vs.size) with
    | some p => setObject home (.list (vs.eraseIdx! p))
    | none => fault "IndexError" "list assignment index out of range"
  | .object home, some (.dict entries usual) =>
    match entryIndex? entries i with
    | some p => setObject home (.dict (entries.eraseIdx! p) usual)
    | none => raise "KeyError" [i]
  | v, _ =>
    match ← special? fuel r v "__delitem__" with
    | some f =>
      let _ ← r.call f [i] []
    | none =>
      fault "TypeError" ("'" ++ (← kindName v) ++ "' object doesn't support item deletion")

end LanguageClient.Scripting
