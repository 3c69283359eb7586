import LanguageClient.Machine.Scripting.Items

/-!
# Texts of values

The text of a value, and texts that values are put into.
-/

namespace LanguageClient.Scripting

/-- A directive of a text that values are put into. -/
structure Directive where
  key : Option (List Char)
  flags : List Char
  width : Option (Option Nat)
  precision : Option (Option Nat)
  letter : Char

/-- A directive after its percent sign; a number is left out where a star stands for it. -/
def directive? (cs : List Char) : Option (Directive × List Char) := do
  let (key, cs) := match cs with
    | '(' :: rest =>
      let key := rest.takeWhile (· ≠ ')')
      (some key, rest.drop (key.length + 1))
    | cs => (none, cs)
  let flags := cs.takeWhile (· ∈ ['#', '-', '+', ' ', '0'])
  let count (cs : List Char) : Option (Option Nat) × List Char :=
    match cs with
    | '*' :: rest => (some none, rest)
    | cs =>
      let digits := cs.takeWhile Char.isDigit
      (if digits.isEmpty then none else some (some (valueOf 10 digits)), cs.drop digits.length)
  let (width, cs) := count (cs.drop flags.length)
  let (precision, cs) := match cs with
    | '.' :: rest =>
      let (p, rest) := count rest
      (some (p.getD (some 0)), rest)
    | cs => (none, cs)
  match cs.dropWhile (· ∈ ['h', 'l', 'L']) with
  | letter :: rest => return (⟨key, flags, width, precision, letter⟩, rest)
  | [] => none

/-- The layout that a directive asks for. -/
def Directive.layout (d : Directive) (width precision : Option Nat) (number : Bool) : Layout :=
  let left := '-' ∈ d.flags
  let zero := '0' ∈ d.flags && !left && number
  { fill := if zero then '0' else ' '
    align := some (if left then '<' else if zero then '=' else '>')
    sign := if '+' ∈ d.flags then '+' else if ' ' ∈ d.flags then ' ' else '-'
    alternate := '#' ∈ d.flags
    width := width.getD 0
    group := none
    precision := precision
    kind := some d.letter }

mutual

/-- The text of a value; `written` for the one that it is written with in a script. -/
def shown : Nat → Runner → Bool → Value → Doing (List Char)
  | 0, _, _, _ => throw .spent
  | fuel + 1, r, written, v => do
    let named (name : String) : List Char := name.toList
    match v with
    | .none => return named "None"
    | .bool true => return named "True"
    | .bool false => return named "False"
    | .int n => return intText n
    | .double f => return doubleText f
    | .text cs => return if written then writtenText cs else cs
    | .bytes bs => return writtenBytes bs
    | .tuple [v] => return ['('] ++ (← shown fuel r true v) ++ [',', ')']
    | .tuple items => return ['('] ++ (← shownItems fuel r items) ++ [')']
    | .range a b s =>
      let step := if s = 1 then [] else ", ".toList ++ intText s
      return "range(".toList ++ intText a ++ ", ".toList ++ intText b ++ step ++ [')']
    | .native name =>
      if (← kindName v) = "type" || name ∉ natives then return named ("<class '" ++ name ++ "'>")
      else return named ("<built-in function " ++ name ++ ">")
    | .method _ name => return named ("<built-in method " ++ name ++ ">")
    | .module name => return named ("<module '" ++ name ++ "'>")
    | .parent _ _ => return named "<super>"
    | .stream n _ => return named ("<_io.TextIOWrapper name='" ++
      (["<stdin>", "<stdout>", "<stderr>"].getD n "") ++ "'>")
    | .ellipsis => return named "Ellipsis"
    | .notImplemented => return named "NotImplemented"
    | .object place =>
      match ← objectAt place with
      | .list items => return ['['] ++ (← shownItems fuel r items.toList) ++ [']']
      | .dict entries _ =>
        return ['\x7b'] ++ (← shownEntries fuel r entries.toList) ++ ['\x7d']
      | .set items frozen =>
        let body ← shownItems fuel r items.toList
        if frozen then
          let shown := if items.isEmpty then [] else '\x7b' :: body ++ ['\x7d']
          return named "frozenset(" ++ shown ++ [')']
        else if items.isEmpty then return named "set()"
        else return ['\x7b'] ++ body ++ ['\x7d']
      | .buffer bs => return named "bytearray(" ++ writtenBytes bs ++ [')']
      | .function f => return named ("<function " ++ f.name ++ " at 0x7f0000000000>")
      | .class name _ _ => return named ("<class '__main__." ++ name ++ "'>")
      | .instance kind attributes =>
        let asked ← do
          match ← (if written then pure none else special? fuel r v "__str__") with
          | some f => pure (some f)
          | none => special? fuel r v "__repr__"
        match asked with
        | some f =>
          match ← r.call f [] [] with
          | .text cs => return cs
          | _ => fault "TypeError" "__str__ returned non-string"
        | none =>
          match attributes.lookup "args" with
          | some (.tuple args) =>
            if ← isOfKind v (.native "BaseException") then
              if written then
                return named (← kindName v) ++ ['('] ++ (← shownItems fuel r args) ++ [')']
              else messageOf fuel r v args attributes
            else return named ("<" ++ (← kindName v) ++ " object at 0x7f0000000000>")
          | _ =>
            let home := match kind with
              | .object _ => "__main__."
              | _ => ""
            return named ("<" ++ home ++ (← kindName v) ++ " object at 0x7f0000000000>")
      | .bound _ _ => return named "<bound method>"
      | .special kind _ => return named ("<" ++ kind ++ " object at 0x7f0000000000>")
      | _ => return named ("<" ++ (← kindName v) ++ " object at 0x7f0000000000>")

/-- What an exception says. -/
def messageOf : Nat → Runner → Value → List Value → Attributes → Doing (List Char)
  | 0, _, _, _, _ => throw .spent
  | fuel + 1, r, v, args, attributes => do
    match args with
    | [] => return []
    | [a] => shown fuel r (← isOfKind v (.native "KeyError")) a
    | args =>
      match ← isOfKind v (.native "OSError"), args with
      | true, code :: message :: _ =>
        let path ← match attributes.lookup "filename" with
          | some (.text []) | none => pure []
          | some p => do
            let cs ← shown fuel r true p
            pure (": ".toList ++ cs)
        return "[Errno ".toList ++ (← shown fuel r false code) ++ "] ".toList ++
          (← shown fuel r false message) ++ path
      | _, args => shown fuel r false (.tuple args)

def shownItems : Nat → Runner → List Value → Doing (List Char)
  | 0, _, _ => throw .spent
  | _, _, [] => return []
  | fuel + 1, r, [v] => shown fuel r true v
  | fuel + 1, r, v :: rest => do
    let first ← shown fuel r true v
    return first ++ [',', ' '] ++ (← shownItems fuel r rest)

def shownEntries : Nat → Runner → List (Value × Value) → Doing (List Char)
  | 0, _, _ => throw .spent
  | _, _, [] => return []
  | fuel + 1, r, (k, v) :: rest => do
    let first := (← shown fuel r true k) ++ [':', ' '] ++ (← shown fuel r true v)
    if rest.isEmpty then return first
    return first ++ [',', ' '] ++ (← shownEntries fuel r rest)

end

/-- A value as a script writes it, in characters that every terminal has. -/
def plainly (fuel : Nat) (r : Runner) (v : Value) : Doing (List Char) := do
  return (← shown fuel r true v).flatMap plainCode

/-- A value as a conversion wants it. -/
def converted (fuel : Nat) (r : Runner) (conversion : Option Char) (v : Value) : Doing Value := do
  match conversion with
  | some 'r' => return .text (← shown fuel r true v)
  | some 'a' => return .text (← plainly fuel r v)
  | some _ => return .text (← shown fuel r false v)
  | none => return v

/-- A text with values for its directives, and the values that are left. -/
def filling : Nat → Runner → Bool → List Char → Value → List Value →
    Doing (List Char × List Value)
  | 0, _, _, _, _, _ => throw .spent
  | _, _, _, [], _, vs => return ([], vs)
  | fuel + 1, r, bytes, '%' :: rest, whole, vs => do
    let some (d, rest) := directive? rest | fault "ValueError" "incomplete format"
    if d.letter = '%' then
      let (more, vs) ← filling fuel r bytes rest whole vs
      return ('%' :: more, vs)
    let take (vs : List Value) : Doing (Value × List Value) := do
      match vs with
      | v :: vs => return (v, vs)
      | [] => fault "TypeError" "not enough arguments for format string"
    let count (n : Option (Option Nat)) (vs : List Value) : Doing (Option Int × List Value) := do
      match n with
      | some none =>
        let (v, vs) ← take vs
        return (some (← asInt v), vs)
      | some (some n) => return (some n, vs)
      | none => return (none, vs)
    let (width, vs) ← count d.width vs
    let (precision, vs) ← count d.precision vs
    let (v, vs) ← match d.key with
      | some key => do
        let key : Value :=
          if bytes then .bytes (key.map fun x => x.toNat.toUInt8) else .text key
        let v ← item fuel r whole key
        pure (v, vs)
      | none => take vs
    let left := width.any (· < 0)
    let d := if left then { d with flags := '-' :: d.flags } else d
    let layout (number : Bool) : Layout :=
      d.layout (width.map (·.natAbs)) (precision.map (·.toNat)) number
    let text (cs : List Char) : Doing (List Char) := do
      return ({ layout false with kind := none }.text? cs).getD cs
    let own ← match d.letter with
      | 's' | 'b' =>
        if bytes then do
          let bs ← bytesOf fuel r v
          text (bs.map fun x => Char.ofNat x.toNat)
        else do text (← shown fuel r false v)
      | 'r' => do text (← shown fuel r true v)
      | 'a' => do text (← plainly fuel r v)
      | 'c' =>
        match v with
        | .int n => text [Char.ofNat n.toNat]
        | .text cs => text cs
        | .bytes bs => text (bs.map fun x => Char.ofNat x.toNat)
        | _ => fault "TypeError" "%c requires int or char"
      | letter =>
        if letter ∈ ['d', 'i', 'u'] then
          match number? v with
          | some n =>
            let n := match n with
              | .int n => n
              | .double f => (Decimal.truncated? f).getD 0
            pure (({ layout true with kind := some 'd', precision := none }.int? n).getD [])
          | none =>
            fault "TypeError" ("%" ++ String.singleton letter ++
              " format: a real number is required, not " ++ (← kindName v))
        else if letter ∈ ['x', 'X', 'o'] then
          match int? v with
          | some n => pure (({ layout true with precision := none }.int? n).getD [])
          | none =>
            fault "TypeError" ("%" ++ String.singleton letter ++
              " format: an integer is required, not " ++ (← kindName v))
        else if letter ∈ ['e', 'E', 'f', 'F', 'g', 'G'] then
          match number? v with
          | some n => pure (((layout true).double? n.toDouble).getD [])
          | none => fault "TypeError" ("must be real number, not " ++ (← kindName v))
        else fault "ValueError" ("unsupported format character '" ++ String.singleton letter ++ "'")
    let (more, vs) ← filling fuel r bytes rest whole vs
    return (own ++ more, vs)
  | fuel + 1, r, bytes, x :: rest, whole, vs => do
    let (more, vs) ← filling fuel r bytes rest whole vs
    return (x :: more, vs)

/-- A text with values for its directives. -/
def filledText (fuel : Nat) (r : Runner) (cs : List Char) (v : Value) : Doing (List Char) := do
  let (text, rest) ← filling fuel r false cs v (match v with
    | .tuple vs => vs
    | v => [v])
  let isTable ← match ← object? v with
    | some (.dict _ _) => pure true
    | _ => pure false
  if rest.isEmpty || isTable then return text
  else fault "TypeError" "not all arguments converted during string formatting"

def filledBytes (fuel : Nat) (r : Runner) (cs : List Char) (v : Value) : Doing (List Char) := do
  let (text, rest) ← filling fuel r true cs v (match v with
    | .tuple vs => vs
    | v => [v])
  if rest.isEmpty then return text
  else fault "TypeError" "not all arguments converted during bytes formatting"

/-- A value in the layout that a text asks for. -/
def formatted (fuel : Nat) (r : Runner) (v : Value) (cs : List Char) : Doing (List Char) := do
  match ← special? fuel r v "__format__" with
  | some f =>
    match ← r.call f [.text cs] [] with
    | .text cs => return cs
    | _ => fault "TypeError" "__format__ must return a str"
  | none =>
    if cs.isEmpty then shown fuel r false v
    else
      let laid? : Option (List Char) ← match Layout.ofText? cs with
        | none => pure none
        | some l =>
          match v with
          | .text t => pure (l.text? t)
          | .int n => pure (l.int? n)
          | .bool b => pure (l.int? (if b then 1 else 0))
          | .double f => pure (l.double? f)
          | _ => pure none
      match laid? with
      | some found => return found
      | none =>
        match v with
        | .text _ | .int _ | .double _ | .bool _ =>
          fault "ValueError" ("Invalid format specifier '" ++ String.ofList cs ++
            "' for object of type '" ++ (← kindName v) ++ "'")
        | v =>
          fault "TypeError"
            ("unsupported format string passed to " ++ (← kindName v) ++ ".__format__")

/-- What attributes and items lead to from a value. -/
def fieldOf : Nat → Runner → Value → List Char → Doing Value
  | 0, _, _, _ => throw .spent
  | fuel + 1, r, v, cs => do
    match cs with
    | '.' :: rest =>
      let name := rest.takeWhile fun x => x ≠ '.' && x ≠ '['
      fieldOf fuel r (← attributeOf fuel r v (String.ofList name)) (rest.drop name.length)
    | '[' :: rest =>
      let key := rest.takeWhile (· ≠ ']')
      let index : Value := if key.all Char.isDigit then .int (valueOf 10 key) else .text key
      fieldOf fuel r (← item fuel r v index) (rest.drop (key.length + 1))
    | _ => return v

/-- A text with values for its braces; `turn` is the place of the next argument. -/
def bracesFilled : Nat → Runner → List Char → List Value → Attributes → Nat →
    Doing (List Char × Nat)
  | 0, _, _, _, _, _ => throw .spent
  | fuel + 1, r, cs, args, named, turn => do
    let some (literal, rest) := literalPiece cs
      | fault "ValueError" "Single '\x7d' encountered in format string"
    match rest with
    | [] => return (literal, turn)
    | _ :: rest =>
      let field := rest.takeWhile fun x => x ≠ '\x7d' && x ≠ ':' && x ≠ '!'
      let rest := rest.drop field.length
      let (conversion, rest) := match rest with
        | '!' :: x :: rest => (some x, rest)
        | rest => (none, rest)
      let (layout, rest) ← match rest with
        | ':' :: rest =>
          match formatPiece 0 rest with
          | some found => pure found
          | none => fault "ValueError" "expected '\x7d' before end of string"
        | '\x7d' :: rest => pure ([], rest)
        | _ => fault "ValueError" "expected '\x7d' before end of string"
      let head := field.takeWhile fun x => x ≠ '.' && x ≠ '['
      let digits := head.all Char.isDigit
      let after := if head.isEmpty then turn + 1 else turn
      let v ← if head.isEmpty || digits then
          match args[if head.isEmpty then turn else valueOf 10 head]? with
          | some v => pure v
          | none => fault "IndexError" "Replacement index out of range for positional args tuple"
        else match named.lookup (String.ofList head) with
          | some v => pure v
          | none => raise "KeyError" [.text head]
      let v ← fieldOf fuel r v (field.drop head.length)
      let v ← converted fuel r conversion v
      let (layout, after) ← bracesFilled fuel r layout args named after
      let own ← formatted fuel r v layout
      let (more, last) ← bracesFilled fuel r rest args named after
      return (literal ++ own ++ more, last)

end LanguageClient.Scripting
