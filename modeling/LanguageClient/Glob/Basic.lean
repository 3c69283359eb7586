/-!
# Glob patterns

A pattern is a sequence of tokens. `?` stands for any one byte and `*` for any bytes, slashes
included; `**` between slashes stands for any directories; a class for one byte of its ranges; a
group in braces for one of its alternatives. A backslash makes the next character literal.
-/

namespace LanguageClient.Glob

inductive Token
  | literal (c : Char)
  | any
  | anyRun
  /-- `**` at the start, with the slash after it. -/
  | leadingDirs
  /-- `**` at the end, with the slash before it. -/
  | trailingDirs
  /-- `**` with a slash on either side. -/
  | innerDirs
  | set (negated : Bool) (ranges : List (Char × Char))
  | alternatives (branches : List (List Token))

/-- Why a text is not a pattern. -/
inductive Fault
  | unclosedClass
  | invalidRange (first last : Char)
  | unopenedGroup
  | unclosedGroup
  | danglingEscape
  deriving DecidableEq, Repr

def Fault.text : Fault → String
  | .unclosedClass => "unclosed character class; missing ']'"
  | .invalidRange first last =>
    "invalid range; '" ++ String.singleton first ++ "' > '" ++ String.singleton last ++ "'"
  | .unopenedGroup =>
    "unopened alternate group; missing '\x7b' (maybe escape '\x7d' with '[\x7d]'?)"
  | .unclosedGroup =>
    "unclosed alternate group; missing '\x7d' (maybe escape '\x7b' with '[\x7b]'?)"
  | .danglingEscape => "dangling '\\'"

/-- The fault of a pattern, with the pattern. -/
def Fault.message (pattern : String) (f : Fault) : String :=
  "error parsing glob '" ++ pattern ++ "': " ++ f.text

/-! ### Reading patterns -/

/-- A group part way through; branches and tokens stand in reverse. -/
structure Group where
  done : List (List Token)
  current : List Token

def Group.empty : Group := ⟨[], []⟩

def Group.push (g : Group) (t : Token) : Group := ⟨g.done, t :: g.current⟩

/-- The branches in order. -/
def Group.branches (g : Group) : List (List Token) := (g.current.reverse :: g.done).reverse

/-- A class part way through; ranges stand in reverse. -/
structure ClassState where
  negated : Bool
  ranges : List (Char × Char)
  /-- No character of the class was read yet. -/
  first : Bool
  /-- A dash was read that may join two characters. -/
  inRange : Bool

/-- What the next character belongs to. -/
inductive Mode
  | plain
  /-- After one star; `before` stands before it. -/
  | star (before : Option Char)
  /-- After two stars; `before` stands before them. -/
  | stars (before : Option Char)
  | escaped
  /-- After the opening bracket. -/
  | opened
  | inside (c : ClassState)

/-- A pattern part way through: the groups around, the innermost one, and the character before. -/
structure Partial where
  outer : List Group
  here : Group
  before : Option Char
  mode : Mode

namespace Partial

def start : Partial := ⟨[], .empty, none, .plain⟩

def push (p : Partial) (t : Token) : Partial := { p with here := p.here.push t }

def pushAll (p : Partial) (ts : List Token) : Partial := ts.foldl push p

/-- End the last range of a class at `c`. -/
def extend (c : Char) : List (Char × Char) → Except Fault (List (Char × Char))
  | [] => .ok [(c, c)]
  | (first, _) :: rest =>
    if c < first then .error (.invalidRange first c) else .ok ((first, c) :: rest)

/-- A character inside a class; `none` when it ends the class. -/
def classStep (s : ClassState) (c : Char) : Except Fault (Option ClassState) :=
  if c = ']' && !s.first then .ok none
  else if s.first || (c ≠ '-' && !s.inRange) then
    .ok (some { s with ranges := (c, c) :: s.ranges, first := false, inRange := false })
  else if s.inRange then do
    return some { s with ranges := ← extend c s.ranges, inRange := false }
  else .ok (some { s with inRange := true })

/-- The token of a class that has ended. -/
def classToken (s : ClassState) : Token :=
  .set s.negated (if s.inRange then ('-', '-') :: s.ranges else s.ranges).reverse

/--
Two stars between `before` and `next`: the tokens in their place, and whether they take up `next`.
-/
def doubleStar (p : Partial) (before next : Option Char) : Partial × Bool :=
  match p.here.current with
  | [] =>
    match next with
    | none => (p.push .leadingDirs, false)
    | some '/' => (p.push .leadingDirs, true)
    | some _ => (p.pushAll [.anyRun, .anyRun], false)
  | last :: earlier =>
    if before ≠ some '/' && (p.outer.isEmpty || (before ≠ some ',' && before ≠ some '{')) then
      (p.pushAll [.anyRun, .anyRun], false)
    else
      let replaced (t : Token) : Partial :=
        let t := match last with
          | .leadingDirs => .leadingDirs
          | .trailingDirs => .trailingDirs
          | _ => t
        { p with here := ⟨p.here.done, t :: earlier⟩ }
      match next with
      | none => (replaced .trailingDirs, false)
      | some '/' => (replaced .innerDirs, true)
      | some c =>
        if (c = ',' || c = '}') && !p.outer.isEmpty then (replaced .trailingDirs, false)
        else (p.pushAll [.anyRun, .anyRun], false)

/-- A character outside classes. -/
def plainStep (p : Partial) (c : Char) : Except Fault Partial :=
  match c with
  | '?' => .ok (p.push .any)
  | '*' => .ok { p with mode := .star p.before }
  | '[' => .ok { p with mode := .opened }
  | '{' => .ok { p with outer := p.here :: p.outer, here := .empty }
  | '}' =>
    match p.outer with
    | [] => .error .unopenedGroup
    | g :: outer => .ok { p with outer, here := g.push (.alternatives p.here.branches) }
  | ',' =>
    if p.outer.isEmpty then .ok (p.push (.literal ','))
    else .ok { p with here := ⟨p.here.current.reverse :: p.here.done, []⟩ }
  | '\\' => .ok { p with mode := .escaped }
  | c => .ok (p.push (.literal c))

/-- A character of a class. -/
def insideStep (p : Partial) (s : ClassState) (c : Char) : Except Fault Partial := do
  match ← classStep s c with
  | some s => return { p with mode := .inside s }
  | none => return { p.push (classToken s) with mode := .plain }

/-- What a character does, its place in the pattern aside. -/
def act (p : Partial) (c : Char) : Except Fault Partial :=
  match p.mode with
  | .plain => p.plainStep c
  | .star before =>
    if c = '*' then .ok { p with mode := .stars before }
    else ({ p with mode := .plain }.push .anyRun).plainStep c
  | .stars before =>
    match { p with mode := .plain }.doubleStar before (some c) with
    | (p, true) => .ok p
    | (p, false) => p.plainStep c
  | .escaped => .ok { p.push (.literal c) with mode := .plain }
  | .opened =>
    if c = '!' || c = '^' then .ok { p with mode := .inside ⟨true, [], true, false⟩ }
    else p.insideStep ⟨false, [], true, false⟩ c
  | .inside s => p.insideStep s c

def step (p : Partial) (c : Char) : Except Fault Partial := do
  return { ← p.act c with before := some c }

/-- The tokens, no group being open. -/
def close (p : Partial) : Except Fault (List Token) :=
  if p.outer.isEmpty then .ok p.here.current.reverse else .error .unclosedGroup

/-- The pattern ends here. -/
def finish (p : Partial) : Except Fault (List Token) :=
  match p.mode with
  | .opened | .inside _ => .error .unclosedClass
  | .escaped => .error .danglingEscape
  | .plain => p.close
  | .star _ => (p.push .anyRun).close
  | .stars before => (p.doubleStar before none).1.close

end Partial

/-- The tokens of a pattern. -/
def parse (pattern : List Char) : Except Fault (List Token) := do
  (← pattern.foldlM Partial.step Partial.start).finish

end LanguageClient.Glob
