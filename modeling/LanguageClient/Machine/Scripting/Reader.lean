import LanguageClient.Json.Printer
import LanguageClient.Machine.Scripting.Expr
import LanguageClient.Machine.Scripting.Token

/-!
# Reading scripts

Tokens are read into statements. A reading takes tokens off the front, or fails; fuel bounds how
deep it goes and how far.
-/

namespace LanguageClient.Scripting

/-! ### Quoted texts -/

/-- Characters by the letters that stand for them after a backslash. -/
def escapes : List (Char × Char) := [
  ('\\', '\\'), ('\'', '\''), ('"', '"'), ('a', '\x07'), ('b', '\x08'), ('f', '\x0c'), ('n', '\n'),
  ('r', '\r'), ('t', '\t'), ('v', '\x0b')]

/-- A text with what its backslashes stand for; in `bytes` they stand for bytes only. -/
def unescaped (bytes : Bool) : Nat → List Char → Option (List Char)
  | 0, _ => none
  | _, [] => some []
  | fuel + 1, '\\' :: c :: rest =>
    let coded (count : Nat) (rest : List Char) : Option (List Char) := do
      let digits := rest.take count
      if digits.length < count then none
      let n ← Text.readBase 16 0 digits
      return Char.ofNat n :: (← unescaped bytes fuel (rest.drop count))
    if c = '\n' then unescaped bytes fuel rest
    else match escapes.lookup c with
      | some d => do return d :: (← unescaped bytes fuel rest)
      | none =>
        if c = 'x' then coded 2 rest
        else if c = 'u' && !bytes then coded 4 rest
        else if c = 'U' && !bytes then coded 8 rest
        else
          let digits := ((c :: rest).take 3).takeWhile fun c => (Text.digitIn 8 c).isSome
          if digits.isEmpty then do return '\\' :: c :: (← unescaped bytes fuel rest)
          else do
            let n ← Text.readBase 8 0 digits
            let n := if bytes then n % 256 else n
            return Char.ofNat n :: (← unescaped bytes fuel ((c :: rest).drop digits.length))
  | fuel + 1, c :: rest => do return c :: (← unescaped bytes fuel rest)

/-- The characters that a quoted text stands for. -/
def plainText (m : Manner) (cs : List Char) : Option (List Char) :=
  if m.raw then some cs else unescaped m.bytes (cs.length + 1) cs

/-- The bytes that a quoted text stands for; all of its own characters are of one byte each. -/
def plainBytes (m : Manner) (cs : List Char) : Option (List UInt8) := do
  if cs.any fun c => 0x80 ≤ c.toNat then none
  return (← plainText m cs).map fun c => c.toNat.toUInt8

/-- A piece of a text that is filled with values, up to the next value or its end. A brace that is
meant is written twice. -/
def literalPiece : List Char → Option (List Char × List Char)
  | '\x7b' :: '\x7b' :: rest => do
    let (text, after) ← literalPiece rest
    return ('\x7b' :: text, after)
  | '\x7d' :: '\x7d' :: rest => do
    let (text, after) ← literalPiece rest
    return ('\x7d' :: text, after)
  | '\x7b' :: rest => some ([], '\x7b' :: rest)
  | '\x7d' :: _ => none
  | c :: rest => do
    let (text, after) ← literalPiece rest
    return (c :: text, after)
  | [] => some ([], [])

/-- The text of a value up to what ends it: its conversion, its format or the closing brace. -/
def valuePiece (depth : Nat) (quote : Option Char) : List Char → Option (List Char × List Char)
  | [] => none
  | c :: rest =>
    let go (depth : Nat) (quote : Option Char) : Option (List Char × List Char) := do
      let (text, after) ← valuePiece depth quote rest
      return (c :: text, after)
    match quote with
    | some q => go depth (if c = q then none else quote)
    | none =>
      if c = '"' || c = '\'' then go depth (some c)
      else if c ∈ ['(', '[', '\x7b'] then go (depth + 1) none
      else if depth = 0 && (c = '\x7d' || c = ':') then some ([], c :: rest)
      else if depth = 0 && c = '!' && rest.head? ≠ some '=' then some ([], c :: rest)
      else if c ∈ [')', ']', '\x7d'] then go (depth - 1) none
      else go depth none

/-- The format of a value up to the closing brace, where values may stand in it. -/
def formatPiece (depth : Nat) : List Char → Option (List Char × List Char)
  | [] => none
  | c :: rest =>
    if c = '\x7d' && depth = 0 then some ([], rest)
    else do
      let depth := if c = '\x7b' then depth + 1 else if c = '\x7d' then depth - 1 else depth
      let (text, after) ← formatPiece depth rest
      return (c :: text, after)

/-! ### Targets -/

/-- Whether a value can be given to an expression. -/
def isTarget : Nat → Expr → Bool
  | 0, _ => false
  | fuel + 1, e =>
    match e with
    | .name _ | .attribute _ _ | .item _ _ => true
    | .tuple items | .list items => items.all (isTarget fuel)
    | .spread e => isTarget fuel e
    | _ => false

/-- A bound on how deep targets go. -/
def targetDepth : Nat := 100

/-! ### Readings -/

abbrev Reading := StateT (List Token) Option

namespace Reading

/-- Go past a sign, if it is next. -/
def pass (s : String) : Reading Bool := do
  match ← get with
  | .sign t :: rest =>
    if s = t then
      set rest
      return true
    else return false
  | _ => return false

/-- Go past a word of the language, if it is next. -/
def passWord (s : String) : Reading Bool := do
  match ← get with
  | .name t :: rest =>
    if s = t then
      set rest
      return true
    else return false
  | _ => return false

def expect (s : String) : Reading Unit := do unless ← pass s do failure

def expectWord (s : String) : Reading Unit := do unless ← passWord s do failure

/-- Go past a token that is no text. -/
def expectToken (t : Token) : Reading Unit := do
  match ← get with
  | u :: rest => if u = t then set rest else failure
  | [] => failure

/-- Whether a sign is next. -/
def sees (s : String) : Reading Bool := return (← get).head? = some (.sign s)

def seesWord (s : String) : Reading Bool := return (← get).head? = some (.name s)

/-- Words that are no names. -/
def keywords : List String := [
  "False", "None", "True", "and", "as", "assert", "async", "await", "break", "class", "continue",
  "def", "del", "elif", "else", "except", "finally", "for", "from", "global", "if", "import", "in",
  "is", "lambda", "nonlocal", "not", "or", "pass", "raise", "return", "try", "while", "with",
  "yield"]

/-- A name. -/
def nameToken : Reading String := do
  match ← get with
  | .name s :: rest =>
    if s ∈ keywords then failure
    set rest
    return s
  | _ => failure

/-- Names with dots between them. -/
def dotted : Nat → Reading String
  | 0 => failure
  | fuel + 1 => do
    let first ← nameToken
    if ← pass "." then return first ++ "." ++ (← dotted fuel) else return first

/-- Operators of two sides by how closely they bind, the loosest first. -/
def levels : List (List Operator) := [
  [.or], [.xor], [.and], [.shiftLeft, .shiftRight], [.add, .sub],
  [.mul, .div, .floorDiv, .mod, .matMul]]

/-- Go past one of some operators, if one is next. -/
def operator? (os : List Operator) : Reading (Option Operator) := do
  match ← get with
  | .sign s :: rest =>
    match os.find? fun o => o.text = s with
    | some o =>
      set rest
      return some o
    | none => return none
  | _ => return none

def comparisons : List (String × Comparison) := [
  ("==", .eq), ("!=", .ne), ("<", .lt), ("<=", .le), (">", .gt), (">=", .ge)]

/-- Go past a comparison, if one is next. -/
def comparison? : Reading (Option Comparison) := do
  match ← get with
  | .sign s :: rest =>
    match comparisons.lookup s with
    | some c =>
      set rest
      return some c
    | none => return none
  | .name "in" :: rest =>
    set rest
    return some .isIn
  | .name "not" :: .name "in" :: rest =>
    set rest
    return some .notIn
  | .name "is" :: .name "not" :: rest =>
    set rest
    return some .notSame
  | .name "is" :: rest =>
    set rest
    return some .same
  | _ => return none

/-- The bytes of a text of one quoted piece after another; nothing if any is no row of bytes. -/
def joinBytes (pieces : List (Manner × List Char)) : Option (List UInt8) :=
  List.flatten <$> pieces.mapM fun (m, cs) => if m.bytes then plainBytes m cs else none

/-- The further quoted texts that follow at once. -/
def quotedPieces : Nat → Reading (List (Manner × List Char))
  | 0 => failure
  | fuel + 1 => do
    match ← get with
    | .quoted m cs :: rest =>
      set rest
      return (m, cs) :: (← quotedPieces fuel)
    | _ => return []

/-- The number of a decimal. -/
def decimal (digits places : Nat) (exponent : Int) : Float :=
  let scale := exponent - places
  Float.ofScientific digits (scale < 0) scale.natAbs

mutual

/-- An expression, which may give a variable a value on the way. -/
def named : Nat → Reading Expr
  | 0 => failure
  | fuel + 1 => do
    match ← get with
    | .name s :: .sign ":=" :: rest =>
      if s ∈ keywords then failure
      set rest
      return .assign s (← expr fuel)
    | _ => expr fuel

def expr : Nat → Reading Expr
  | 0 => failure
  | fuel + 1 => do
    if ← passWord "lambda" then
      let ps ← parameters fuel ":" false
      return .function ps (← expr fuel)
    let e ← anyOf fuel
    if ← passWord "if" then
      let test ← anyOf fuel
      expectWord "else"
      return .choose test e (← expr fuel)
    else return e

def anyOf : Nat → Reading Expr
  | 0 => failure
  | fuel + 1 => do
    let a ← allOf fuel
    if ← passWord "or" then return .either a (← anyOf fuel) else return a

def allOf : Nat → Reading Expr
  | 0 => failure
  | fuel + 1 => do
    let a ← negation fuel
    if ← passWord "and" then return .both a (← allOf fuel) else return a

def negation : Nat → Reading Expr
  | 0 => failure
  | fuel + 1 => do
    if ← passWord "not" then return .not (← negation fuel)
    let first ← level fuel levels
    let rest ← compared fuel
    return if rest.isEmpty then first else .compare first rest

def compared : Nat → Reading (List (Comparison × Expr))
  | 0 => failure
  | fuel + 1 => do
    match ← comparison? with
    | some c =>
      let e ← level fuel levels
      return (c, e) :: (← compared fuel)
    | none => return []

/-- Operators of some levels, the loosest first. -/
def level : Nat → List (List Operator) → Reading Expr
  | 0, _ => failure
  | fuel + 1, [] => factor fuel
  | fuel + 1, os :: tighter => do
    let first ← level fuel tighter
    joined fuel os tighter first

/-- Further operands of a level, from the left to the right. -/
def joined : Nat → List Operator → List (List Operator) → Expr → Reading Expr
  | 0, _, _, _ => failure
  | fuel + 1, os, tighter, a => do
    match ← operator? os with
    | some o =>
      let b ← level fuel tighter
      joined fuel os tighter (.binary o a b)
    | none => return a

def factor : Nat → Reading Expr
  | 0 => failure
  | fuel + 1 => do
    if ← pass "-" then return .negate (← factor fuel)
    else if ← pass "+" then return .plus (← factor fuel)
    else if ← pass "~" then return .invert (← factor fuel)
    else if ← passWord "await" then factor fuel
    else
      let a ← atom fuel
      let a ← trailed fuel a
      if ← pass "**" then return .binary .pow a (← factor fuel) else return a

/-- What follows a value: attributes, items and arguments. -/
def trailed : Nat → Expr → Reading Expr
  | 0, _ => failure
  | fuel + 1, a => do
    if ← pass "." then
      let name ← nameToken
      trailed fuel (.attribute a name)
    else if ← pass "[" then
      let i ← index fuel
      expect "]"
      trailed fuel (.item a i)
    else if ← pass "(" then
      let args ← arguments fuel
      trailed fuel (.call a args)
    else return a

/-- What stands between the brackets of an item. -/
def index : Nat → Reading Expr
  | 0 => failure
  | fuel + 1 => do
    let first ← indexPart fuel
    if ← pass "," then
      let rest ← indexParts fuel
      return .tuple (first :: rest)
    else return first

def indexParts : Nat → Reading (List Expr)
  | 0 => failure
  | fuel + 1 => do
    if ← sees "]" then return []
    let first ← indexPart fuel
    if ← pass "," then return first :: (← indexParts fuel) else return [first]

def indexPart : Nat → Reading Expr
  | 0 => failure
  | fuel + 1 => do
    let bound : Reading (Option Expr) := do
      if (← sees ":") || (← sees "]") || (← sees ",") then return none else some <$> named fuel
    let first ← bound
    if ← pass ":" then
      let last ← bound
      let step ← if ← pass ":" then bound else pure none
      return .slice first last step
    else match first with
      | some e => return e
      | none => failure

/-- Arguments up to the parenthesis after them. -/
def arguments : Nat → Reading (List (Giving × Expr))
  | 0 => failure
  | fuel + 1 => do
    if ← pass ")" then return []
    let arg ← argument fuel
    if ← pass "," then return arg :: (← arguments fuel)
    else
      expect ")"
      return [arg]

def argument : Nat → Reading (Giving × Expr)
  | 0 => failure
  | fuel + 1 => do
    if ← pass "*" then return (.row, ← expr fuel)
    else if ← pass "**" then return (.entries, ← expr fuel)
    else match ← get with
      | .name s :: .sign "=" :: rest =>
        if s ∈ keywords then failure
        set rest
        return (.named s, ← expr fuel)
      | _ =>
        let e ← named fuel
        let cs ← clauses fuel
        return (.plain, if cs.isEmpty then e else .collect .lazy none e cs)

/-- The clauses of a comprehension. -/
def clauses : Nat → Reading (List Clause)
  | 0 => failure
  | fuel + 1 => do
    if ← passWord "for" then
      let target ← targets fuel
      expectWord "in"
      let values ← anyOf fuel
      return .each target values :: (← clauses fuel)
    else if ← seesWord "if" then filters fuel
    else return []

def filters : Nat → Reading (List Clause)
  | 0 => failure
  | fuel + 1 => do
    if ← passWord "if" then
      let test ← anyOf fuel
      return .only test :: (← filters fuel)
    else clauses fuel

/-- One target, or several with commas between them. -/
def targets : Nat → Reading Expr
  | 0 => failure
  | fuel + 1 => do
    let first ← target fuel
    if ← sees "," then
      let rest ← moreTargets fuel
      return .tuple (first :: rest)
    else return first

def moreTargets : Nat → Reading (List Expr)
  | 0 => failure
  | fuel + 1 => do
    if ← pass "," then
      if ← seesWord "in" then return []
      let t ← target fuel
      return t :: (← moreTargets fuel)
    else return []

def target : Nat → Reading Expr
  | 0 => failure
  | fuel + 1 => do
    let e ← if ← pass "*" then Expr.spread <$> level fuel levels else level fuel levels
    if isTarget targetDepth e then return e else failure

/-- Items with commas between them, up to what ends them; whether there was a comma. -/
def items : Nat → Reading (List Expr × Bool)
  | 0 => failure
  | fuel + 1 => do
    let e ← if ← pass "*" then Expr.spread <$> level fuel levels else named fuel
    if ← pass "," then
      let ended ← match ← get with
        | .sign s :: _ =>
          pure (s ∈ [")", "]", "\x7d", "=", ":", ";"] || (s.length ≥ 2 && s.endsWith "="))
        | .line :: _ | [] => pure true
        | .name "in" :: _ => pure true
        | _ => pure false
      if ended then return ([e], true)
      let (more, _) ← items fuel
      return (e :: more, true)
    else return ([e], false)

/-- One expression, or several as a tuple. -/
def tuple : Nat → Reading Expr
  | 0 => failure
  | fuel + 1 => do
    match ← items fuel with
    | ([e], false) => return e
    | (es, _) => return .tuple es

/-- What a statement can give: a tuple, or what comes in for it. -/
def given : Nat → Reading Expr
  | 0 => failure
  | fuel + 1 => do if ← seesWord "yield" then yielding fuel else tuple fuel

def yielding : Nat → Reading Expr
  | 0 => failure
  | fuel + 1 => do
    expectWord "yield"
    if ← passWord "from" then return .yieldAll (← expr fuel)
    match ← get with
    | .sign s :: _ =>
      if s ∈ [")", "]", ";", "="] then return .yield none else return .yield (some (← tuple fuel))
    | .line :: _ => return .yield none
    | _ => return .yield (some (← tuple fuel))

/-- The parameters of a function up to a sign, which is taken as well. -/
def parameters : Nat → String → Bool → Reading (List Parameter)
  | 0, _, _ => failure
  | fuel + 1, stop, onlyNamed => do
    if ← pass stop then return []
    let close (onlyNamed : Bool) (ps : List Parameter) : Reading (List Parameter) := do
      if ← pass "," then return ps ++ (← parameters fuel stop onlyNamed)
      else
        expect stop
        return ps
    let note : Reading Unit := do
      if stop = ")" then
        if ← pass ":" then
          let _ ← expr fuel
    if ← pass "**" then
      let name ← nameToken
      note
      close onlyNamed [(name, .entries, none)]
    else if ← pass "*" then
      if ← sees "," then close true []
      else
        let name ← nameToken
        note
        close true [(name, .row, none)]
    else if ← pass "/" then close onlyNamed []
    else
      let name ← nameToken
      note
      let usual ← if ← pass "=" then some <$> expr fuel else pure none
      close onlyNamed [(name, if onlyNamed then .named else .either, usual)]

def atom : Nat → Reading Expr
  | 0 => failure
  | fuel + 1 => do
    match ← get with
    | .whole n :: rest =>
      set rest
      return .whole n
    | .fraction digits places exponent :: rest =>
      set rest
      return .double (decimal digits places exponent)
    | .quoted _ _ :: _ => quoted fuel (← quotedPieces fuel)
    | .sign "..." :: rest =>
      set rest
      return .ellipsis
    | .sign "(" :: rest =>
      set rest
      if ← pass ")" then return .tuple []
      else if ← seesWord "yield" then
        let e ← yielding fuel
        expect ")"
        return e
      else
        let (es, comma) ← items fuel
        match es, comma with
        | [e], false =>
          let cs ← clauses fuel
          expect ")"
          return if cs.isEmpty then e else .collect .lazy none e cs
        | es, _ =>
          expect ")"
          return .tuple es
    | .sign "[" :: rest =>
      set rest
      if ← pass "]" then return .list []
      let (es, comma) ← items fuel
      match es, comma with
      | [e], false =>
        let cs ← clauses fuel
        expect "]"
        return if cs.isEmpty then .list [e] else .collect .list none e cs
      | es, _ =>
        expect "]"
        return .list es
    | .sign "\x7b" :: rest =>
      set rest
      braces fuel
    | .name "None" :: rest =>
      set rest
      return .none
    | .name "True" :: rest =>
      set rest
      return .bool true
    | .name "False" :: rest =>
      set rest
      return .bool false
    | .name _ :: _ => return .name (← nameToken)
    | _ => failure

/-- A table or a set after its brace. -/
def braces : Nat → Reading Expr
  | 0 => failure
  | fuel + 1 => do
    if ← pass "\x7d" then return .dict []
    if ← sees "**" then return .dict (← entries fuel)
    let (e, isRow) ← if ← pass "*" then do pure (Expr.spread (← level fuel levels), true)
      else do pure (← named fuel, false)
    let isEntry ← if isRow then pure false else pass ":"
    if isEntry then
      let v ← expr fuel
      let cs ← clauses fuel
      if !cs.isEmpty then
        expect "\x7d"
        return .collect .dict (some e) v cs
      else if ← pass "," then return .dict ((some e, v) :: (← entries fuel))
      else
        expect "\x7d"
        return .dict [(some e, v)]
    else
      let cs ← clauses fuel
      if !cs.isEmpty then
        expect "\x7d"
        return .collect .set none e cs
      else if ← pass "," then
        if ← pass "\x7d" then return .set [e]
        let (es, _) ← items fuel
        expect "\x7d"
        return .set (e :: es)
      else
        expect "\x7d"
        return .set [e]

/-- The entries of a table up to its brace. -/
def entries : Nat → Reading (List (Option Expr × Expr))
  | 0 => failure
  | fuel + 1 => do
    if ← pass "\x7d" then return []
    let entry ← if ← pass "**" then do pure (none, ← level fuel levels)
      else do
        let k ← expr fuel
        expect ":"
        pure (some k, ← expr fuel)
    if ← pass "," then return entry :: (← entries fuel)
    else
      expect "\x7d"
      return [entry]

/-- Quoted texts that follow one another, as one. -/
def quoted : Nat → List (Manner × List Char) → Reading Expr
  | 0, _ => failure
  | fuel + 1, pieces => do
    if pieces.any (·.1.bytes) then
      match joinBytes pieces with
      | some bs => return .bytes bs
      | none => failure
    else if pieces.any (·.1.filled) then return .filled (← filledTexts fuel pieces)
    else match List.flatten <$> pieces.mapM fun (m, cs) => plainText m cs with
      | some cs => return .text cs
      | none => failure

def filledTexts : Nat → List (Manner × List Char) →
    Reading (List (Expr × Option Char × Option Expr))
  | 0, _ => failure
  | _, [] => return []
  | fuel + 1, (m, cs) :: rest => do
    let own ← if m.filled then filled fuel m cs
      else match plainText m cs with
        | some text => pure [(.text text, none, none)]
        | none => failure
    return own ++ (← filledTexts fuel rest)

/-- The pieces of a text that is filled with values. -/
def filled : Nat → Manner → List Char → Reading (List (Expr × Option Char × Option Expr))
  | 0, _, _ => failure
  | fuel + 1, m, cs => do
    let some (literal, rest) := literalPiece cs | failure
    let some literal := plainText m literal | failure
    match rest with
    | [] => return [(.text literal, none, none)]
    | _ :: rest =>
      let some (value, rest) := valuePiece 0 none rest | failure
      let shown := value.reverse.dropWhile (· = ' ')
      let (value, label) := match shown with
        | '=' :: more =>
          if more.head?.any fun c => c ∈ ['=', '!', '<', '>'] then (value, [])
          else (more.reverse, value)
        | _ => (value, [])
      let (conversion, rest) := match rest with
        | '!' :: c :: rest => (some c, rest)
        | rest => (none, rest)
      let conversion := if label.isEmpty || conversion.isSome then conversion else some 'r'
      let (format, rest) ← match rest with
        | ':' :: rest =>
          match formatPiece 0 rest with
          | some (format, rest) =>
            pure (some (Expr.filled (← filled fuel m format)), rest)
          | none => failure
        | '\x7d' :: rest => pure (none, rest)
        | _ => failure
      let some tokens := Token.ofText? (['('] ++ value ++ [')']) | failure
      let before ← get
      set tokens
      let e ← tuple fuel
      expectToken .line
      unless (← get).isEmpty do failure
      set before
      let own := [(Expr.text (literal ++ label), none, none), (e, conversion, format)]
      return own ++ (← filled fuel m rest)

end

/-! ### Statements -/

/-- Operators that are written before an equals sign to change a value. -/
def updating? (s : String) : Option Operator :=
  Operator.all.find? fun o => o.text ++ "=" = s

/-- Names with commas between them. -/
def nameList : Nat → Reading (List String)
  | 0 => failure
  | fuel + 1 => do
    let name ← nameToken
    if ← pass "," then return name :: (← nameList fuel) else return [name]

/-- The name that something gets instead of its own. -/
def renamed : Reading (Option String) := do
  if ← passWord "as" then some <$> nameToken else return none

def modules : Nat → Reading (List (String × Option String))
  | 0 => failure
  | fuel + 1 => do
    let name ← dotted fuel
    let other ← renamed
    if ← pass "," then return (name, other) :: (← modules fuel) else return [(name, other)]

def members : Nat → Reading (List (String × Option String))
  | 0 => failure
  | fuel + 1 => do
    let name ← nameToken
    let other ← renamed
    if ← pass "," then
      if ← sees ")" then return [(name, other)]
      return (name, other) :: (← members fuel)
    else return [(name, other)]

/-- Expressions that a value is given to in turn, and the value. -/
def assigned : Nat → Expr → Reading (List Expr × Expr)
  | 0, _ => failure
  | fuel + 1, first => do
    if ← pass "=" then
      unless isTarget targetDepth first do failure
      let next ← given fuel
      let (more, value) ← assigned fuel next
      return (first :: more, value)
    else return ([], first)

/-- A statement that has no others in it. -/
def small (fuel : Nat) : Reading Statement := do
  let optional : Reading (Option Expr) := do
    match ← get with
    | .line :: _ | .sign ";" :: _ => return none
    | _ => some <$> given fuel
  match ← get with
  | .name "pass" :: rest =>
    set rest
    return .pass
  | .name "break" :: rest =>
    set rest
    return .leave
  | .name "continue" :: rest =>
    set rest
    return .again
  | .name "return" :: rest =>
    set rest
    return .giveBack (← optional)
  | .name "raise" :: rest =>
    set rest
    let e ← optional
    if ← passWord "from" then
      let _ ← expr fuel
    return .raise e
  | .name "global" :: rest =>
    set rest
    return .outer (← nameList fuel) true
  | .name "nonlocal" :: rest =>
    set rest
    return .outer (← nameList fuel) false
  | .name "del" :: rest =>
    set rest
    match ← tuple fuel with
    | .tuple es => return .delete es
    | e => return .delete [e]
  | .name "assert" :: rest =>
    set rest
    let test ← expr fuel
    if ← pass "," then return .assert test (some (← expr fuel)) else return .assert test none
  | .name "import" :: rest =>
    set rest
    return .bring (← modules fuel)
  | .name "from" :: rest =>
    set rest
    let name ← dotted fuel
    expectWord "import"
    if ← pass "*" then return .bringFrom name [("*", none)]
    else if ← pass "(" then
      let ms ← members fuel
      expect ")"
      return .bringFrom name ms
    else return .bringFrom name (← members fuel)
  | _ =>
    let first ← given fuel
    match ← get with
    | .sign "=" :: _ =>
      let (targets, value) ← assigned fuel first
      return .assign targets value
    | .sign ":" :: rest =>
      set rest
      unless isTarget targetDepth first do failure
      let _ ← expr fuel
      if ← pass "=" then return .assign [first] (← given fuel) else return .pass
    | .sign s :: rest =>
      match updating? s with
      | some o =>
        unless isTarget targetDepth first do failure
        set rest
        return .update first o (← given fuel)
      | none => return .expr first
    | _ => return .expr first

/-- Statements on one line. -/
def smalls : Nat → Reading (List Statement)
  | 0 => failure
  | fuel + 1 => do
    let s ← small fuel
    if ← pass ";" then
      match ← get with
      | .line :: rest =>
        set rest
        return [s]
      | _ => return s :: (← smalls fuel)
    else
      expectToken .line
      return [s]

mutual

/-- What a statement has in it: a line, or lines that stand further in. -/
def block : Nat → Reading (List Statement)
  | 0 => failure
  | fuel + 1 => do
    expect ":"
    match ← get with
    | .line :: .further :: rest =>
      set rest
      let first ← statement fuel
      let more ← statements fuel
      expectToken .back
      return first ++ more
    | .line :: _ => failure
    | _ => smalls fuel

/-- Statements up to where lines stand further out. -/
def statements : Nat → Reading (List Statement)
  | 0 => failure
  | fuel + 1 => do
    match ← get with
    | [] | .back :: _ => return []
    | _ =>
      let first ← statement fuel
      return first ++ (← statements fuel)

def optionalBlock : Nat → String → Reading (List Statement)
  | 0, _ => failure
  | fuel + 1, word => do if ← passWord word then block fuel else return []

def branches : Nat → Reading Statement
  | 0 => failure
  | fuel + 1 => do
    let test ← named fuel
    let yes ← block fuel
    if ← passWord "elif" then return .condition test yes [← branches fuel]
    else return .condition test yes (← optionalBlock fuel "else")

def handlers : Nat → Reading (List Handler)
  | 0 => failure
  | fuel + 1 => do
    if ← passWord "except" then
      let kinds ← if ← sees ":" then pure none else some <$> expr fuel
      let name ← renamed
      let body ← block fuel
      return .mk kinds name body :: (← handlers fuel)
    else return []

def contexts : Nat → Reading (List (Expr × Option Expr))
  | 0 => failure
  | fuel + 1 => do
    let e ← expr fuel
    let t ← if ← passWord "as" then some <$> target fuel else pure none
    if ← pass "," then return (e, t) :: (← contexts fuel) else return [(e, t)]

def decorators : Nat → Reading (List Expr)
  | 0 => failure
  | fuel + 1 => do
    if ← pass "@" then
      let e ← named fuel
      expectToken .line
      return e :: (← decorators fuel)
    else return []

/-- Patterns with commas between them; whether there was a comma. -/
def patterns : Nat → Reading (List Expr × Bool)
  | 0 => failure
  | fuel + 1 => do
    let e ← if ← pass "*" then Expr.spread <$> level fuel levels else level fuel levels
    let e ← if ← passWord "as" then do pure (Expr.both e (.name (← nameToken))) else pure e
    if ← pass "," then
      if (← sees ":") || (← seesWord "if") then return ([e], true)
      let (more, _) ← patterns fuel
      return (e :: more, true)
    else return ([e], false)

def arms : Nat → Reading (List Arm)
  | 0 => failure
  | fuel + 1 => do
    if ← passWord "case" then
      let pattern ← do
        match ← patterns fuel with
        | ([e@(.spread _)], _) => pure (Expr.tuple [e])
        | ([e], false) => pure e
        | (es, _) => pure (Expr.tuple es)
      let guard ← if ← passWord "if" then some <$> named fuel else pure none
      let body ← block fuel
      return .mk pattern guard body :: (← arms fuel)
    else return []

/-- A choice by patterns; its first word can be a name as well. -/
def selection : Nat → Reading Statement
  | 0 => failure
  | fuel + 1 => do
    expectWord "match"
    let subject ← tuple fuel
    expect ":"
    expectToken .line
    expectToken .further
    let as ← arms fuel
    expectToken .back
    if as.isEmpty then failure
    return .select subject as

/-- A statement; a line may have several. -/
def statement : Nat → Reading (List Statement)
  | 0 => failure
  | fuel + 1 => do
    match ← get with
    | .name "async" :: .name word :: rest =>
      if word ∉ ["def", "for", "with"] then smalls fuel
      else
        set (Token.name word :: rest)
        statement fuel
    | .name "if" :: rest =>
      set rest
      return [← branches fuel]
    | .name "while" :: rest =>
      set rest
      let test ← named fuel
      let body ← block fuel
      return [.loop test body (← optionalBlock fuel "else")]
    | .name "for" :: rest =>
      set rest
      let target ← targets fuel
      expectWord "in"
      let values ← tuple fuel
      let body ← block fuel
      return [.each target values body (← optionalBlock fuel "else")]
    | .name "try" :: rest =>
      set rest
      let body ← block fuel
      let hs ← handlers fuel
      let after ← optionalBlock fuel "else"
      let last ← optionalBlock fuel "finally"
      if hs.isEmpty && last.isEmpty then failure
      return [.attempt body hs after last]
    | .name "with" :: rest =>
      set rest
      let cs ← contexts fuel
      return [.within cs (← block fuel)]
    | .name "def" :: _ | .name "class" :: _ | .sign "@" :: _ =>
      let ds ← decorators fuel
      if ← passWord "def" then
        let name ← nameToken
        expect "("
        let ps ← parameters fuel ")" false
        if ← pass "->" then
          let _ ← expr fuel
        return [.define name ps (← block fuel) ds]
      else
        expectWord "class"
        let name ← nameToken
        let bases ← if ← pass "(" then arguments fuel else pure []
        return [.object name bases (← block fuel) ds]
    | .name "match" :: _ => (do return [← selection fuel]) <|> smalls fuel
    | _ => smalls fuel

end

end Reading

/-- The statements of a script; nothing when it makes no sense. -/
def script? (cs : List Char) : Option (List Statement) := do
  let tokens ← Token.ofText? cs
  let (found, rest) ← (Reading.statements (20 * tokens.length + 100)).run tokens
  if rest.isEmpty then return found else none

end LanguageClient.Scripting
