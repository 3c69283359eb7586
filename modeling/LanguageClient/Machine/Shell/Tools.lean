import LanguageClient.Machine.Shell.Editor
import LanguageClient.Machine.Shell.Places
import LanguageClient.Machine.Shell.Test

/-!
# Tools

Commands that work on texts, numbers, files, processes and time, and run no others.
-/

namespace LanguageClient.Shell

/-! ### Texts -/

def echo (args : Args) : Doing Unit := write (echoed args)

def printf : Args → Doing Unit
  | ['-', '-'] :: f :: args | f :: args => do
    match format? f args with
    | some (text, wrong) =>
      write text
      if wrong then setStatus 1
    | none => setStatus 2
  | [] => setStatus 2

/-- How lines are changed on the way. -/
structure Marking where
  /-- Number all lines, or those that are not empty. -/
  numbers : Bool
  numbersFull : Bool
  /-- Mark the ends of lines. -/
  ends : Bool
  tabs : Bool
  /-- Write out characters that cannot be seen. -/
  codes : Bool
  /-- Leave out empty lines after an empty one. -/
  squeeze : Bool

/-- A character that cannot be seen, as it is written out. -/
def codeOf (m : Marking) (c : Char) : List Char :=
  let n := c.toNat
  let low (n : Nat) : List Char :=
    if n < 32 then ['^', Char.ofNat (n + 64)] else if n = 127 then ['^', '?'] else [Char.ofNat n]
  if c = '\t' then (if m.tabs then ['^', 'I'] else [c])
  else if !m.codes then [c]
  else if n < 128 then low n
  else ['M', '-'] ++ low (n - 128)

/-- Lines with their marks, from a number on; `fresh` at the beginning of a line, and `gap` after an
empty one. -/
def marked (m : Marking) (n : Nat) (fresh gap : Bool) : List Char → List Char × Nat × Bool × Bool
  | [] => ([], n, fresh, gap)
  | c :: rest =>
    let empty := fresh && c = '\n'
    if m.squeeze && empty && gap then marked m n fresh gap rest
    else
      let digits := numeralOf n
      let counted := fresh && (m.numbers && !m.numbersFull || m.numbersFull && c ≠ '\n')
      let head :=
        if counted then List.replicate (6 - digits.length) ' ' ++ digits ++ ['\t'] else []
      let own := if c = '\n' then (if m.ends then ['$', '\n'] else ['\n']) else codeOf m c
      let (more, last) := marked m (if counted then n + 1 else n) (c = '\n') empty rest
      (head ++ own ++ more, last)

/-- Write what is read with marks. -/
def catMarked (m : Marking) (n : Nat) (fresh gap : Bool) : Nat → Doing (Nat × Bool × Bool)
  | 0 => throw .spent
  | fuel + 1 => do
    match ← peekFrom 0 with
    | none => return (n, fresh, gap)
    | some piece =>
      dropFrom 0 piece.length
      let (text, n, fresh, gap) := marked m n fresh gap piece
      let _ ← writeTo 1 text
      catMarked m n fresh gap fuel

/-- Write what is read from files, or from the input where a dash stands for it. -/
def cat (args : Args) : Doing Unit := do
  let o := Offer.read ⟨['n', 'b', 'E', 'e', 'T', 't', 'v', 'A', 's', 'u'], [],
    [("number", 'n'), ("show-ends", 'E'), ("show-tabs", 'T'), ("show-all", 'A'),
      ("number-nonblank", 'b'), ("squeeze-blank", 's'), ("show-nonprinting", 'v')]⟩ args
  let any (letters : List Char) : Bool := letters.any o.has
  let m : Marking := ⟨any ['n'], any ['b'], any ['E', 'e', 'A'], any ['T', 't', 'A'],
    any ['v', 'e', 't', 'A'], any ['s']⟩
  let isPlain := o.flags.all (· = 'u')
  if o.wrong then setStatus 1
  else
    let mut good := true
    let mut state := (1, true, false)
    for name in (if o.words.isEmpty then [['-']] else o.words) do
      if name = ['-'] then
        if isPlain then forPieces 0 (fun cs => do let _ ← writeTo 1 cs) patience
        else
          let (n, fresh, gap) := state
          state ← catMarked m n fresh gap patience
      else match ← readFile name with
        | some text =>
          let (n, fresh, gap) := state
          let (shown, after) := if isPlain then (text, state) else marked m n fresh gap text
          state := after
          let _ ← writeTo 1 shown
        | none => good := false
    succeedIf good

/-- Options with numbers: `-n 3`, `-n3`, `-c 3` and `-3`; the letter, the number and the rest. -/
def counted : Args → Option (Char × List Char × Args)
  | ['-', 'n'] :: n :: rest => some ('n', n, rest)
  | ['-', 'c'] :: n :: rest => some ('c', n, rest)
  | ('-' :: 'n' :: n) :: rest => some ('n', n, rest)
  | ('-' :: 'c' :: n) :: rest => some ('c', n, rest)
  | ('-' :: n) :: rest => (natural? n).map fun _ => ('n', n, rest)
  | _ => none

/-- Write a part of each of some files, under their names if there are several. -/
def showEach (names : Args) (part : List Char → List Char) : Doing Unit := do
  let mut good := true
  let mut begun := false
  for name in names do
    match ← textNamed name with
    | some text =>
      let shownName := if name = ['-'] then "standard input".toList else name
      let title := if 1 < names.length then "==> ".toList ++ lineOf (shownName ++ " <==".toList) else []
      let _ ← writeTo 1 ((if begun then ['\n'] else []) ++ title ++ part text)
      if 1 < names.length then begun := true
    | none => good := false
  succeedIf good

/-- Write lines of the input up to a number of them; a piece that is begun is used up. -/
def headLines : Nat → Nat → Doing Unit
  | 0, _ => throw .spent
  | _ + 1, 0 => return
  | fuel + 1, count => do
    match ← peekFrom 0 with
    | none => return
    | some piece =>
      dropFrom 0 piece.length
      let found := (allLines piece).take count
      let _ ← writeTo 1 found.flatten
      let whole := found.filter (·.getLast? = some '\n')
      headLines fuel (count - whole.length)

def head (args : Args) : Doing Unit := do
  let args := args.filter (· ≠ ['-', 'q'])
  let (letter, n, names) := (counted args).getD ('n', ['1', '0'], args)
  let (back, n) := match n with
    | '-' :: n => (true, n)
    | n => (false, n)
  let some count := blockSize? n | setStatus 1
  if names.any fun a => a.head? = some '-' && 1 < a.length then setStatus 1
  else if names.isEmpty && !back then
    setStatus 0
    if letter = 'c' then
      let _ ← writeTo 1 (← readCount 0 patience count)
    else headLines patience count
  else
    let names := if names.isEmpty then [['-']] else names
    let pick {α : Type} (xs : List α) : List α := xs.take (if back then xs.length - count else count)
    let shown (text : List Char) : List Char :=
      if letter = 'c' then pick text else (pick (allLines text)).flatten
    showEach names shown

def tail (args : Args) : Doing Unit := do
  let args := args.filter (· ≠ ['-', 'q'])
  let (letter, n, names) := (counted args).getD ('n', ['1', '0'], args)
  let (onward, n) := match n with
    | '+' :: n => (true, n)
    | '-' :: n => (false, n)
    | n => (false, n)
  let some count := blockSize? n | setStatus 1
  if names.any fun a => a.head? = some '-' && 1 < a.length then setStatus 1
  else
    let pick {α : Type} (xs : List α) : List α :=
      if onward then xs.drop (count - 1) else xs.drop (xs.length - count)
    let shown (text : List Char) : List Char :=
      if letter = 'c' then pick text else (pick (allLines text)).flatten
    showEach (if names.isEmpty then [['-']] else names) shown

/-- How many words a text has; `begun` if one is going on. -/
def countWords (begun : Bool) : List Char → Nat
  | [] => if begun then 1 else 0
  | c :: rest =>
    if c.isWhitespace then (if begun then 1 else 0) + countWords false rest
    else countWords true rest

def wc (args : Args) : Doing Unit := do
  let o := Offer.read ⟨['l', 'w', 'c', 'm', 'L'], [],
    [("lines", 'l'), ("words", 'w'), ("bytes", 'c'), ("chars", 'm'), ("max-line-length", 'L')]⟩ args
  let letters := if o.flags.isEmpty then ['l', 'w', 'c'] else o.flags
  let names := if o.words.isEmpty then [['-']] else o.words
  let counts (text : List Char) : List (Char × Nat) := [
    ('l', text.countP (· = '\n')), ('w', countWords false text), ('m', text.length),
    ('c', text.length), ('L', ((bareLines text).map List.length).foldl max 0)]
  let texts ← names.mapM textNamed
  let rows := (texts.zip names).filterMap fun (t, name) => t.map fun t => (counts t, name)
  let sums := rows.foldl (fun sums (row, _) => (sums.zip row).map fun (a, b) =>
    (a.1, if a.1 = 'L' then max a.2 b.2 else a.2 + b.2)) (counts [])
  let rows := if 1 < names.length then rows ++ [(sums, "total".toList)] else rows
  let shownColumns := (counts []).filter fun c => c.1 ∈ letters
  let fromFiles := names.all (· ≠ ['-'])
  let size := (numeralOf (((sums.lookup 'c').getD 0))).length
  let width :=
    if shownColumns.length = 1 && names.length = 1 then 1 else if fromFiles then size else max 7 size
  let line (row : List (Char × Nat) × List Char) : List Char :=
    let shown := (row.1.filter fun c => c.1 ∈ letters).map fun c => numeralOf c.2
    let padded := shown.map fun cs => List.replicate (width - cs.length) ' ' ++ cs
    let name := if o.words.isEmpty then [] else [row.2]
    lineOf (List.intercalate [' '] (padded ++ name))
  if o.wrong then setStatus 1
  else
    let _ ← writeTo 1 (rows.flatMap line)
    succeedIf (texts.all (·.isSome))

/-- The characters of a set, where a dash stands for those between two, and a name for those of a
class. -/
def charactersOf : Nat → List Char → List Char
  | 0, _ | _, [] => []
  | fuel + 1, '[' :: ':' :: rest =>
    match Text.class? rest with
    | some (found, rest) =>
      (found.flatMap fun r => (List.range (r.2.toNat + 1 - r.1.toNat)).map fun i =>
        Char.ofNat (r.1.toNat + i)) ++ charactersOf fuel rest
    | none => '[' :: charactersOf fuel (':' :: rest)
  | fuel + 1, '\\' :: rest =>
    let (c, rest) := escape rest
    match c, rest with
    | '\\', d :: more =>
      if rest.length < 1 || d = '\\' then '\\' :: charactersOf fuel more else charactersOf fuel rest
    | c, rest => c :: charactersOf fuel rest
  | fuel + 1, a :: '-' :: b :: rest =>
    (List.range (b.toNat + 1 - a.toNat)).map (fun i => Char.ofNat (a.toNat + i)) ++
      charactersOf fuel rest
  | fuel + 1, c :: rest => c :: charactersOf fuel rest

/-- Characters without those that repeat the one before them and are in a set. -/
def squeezed (set : Char → Bool) (last : Option Char) : List Char → List Char
  | [] => []
  | c :: rest =>
    if set c && last = some c then squeezed set last rest else c :: squeezed set (some c) rest

/-- Write what a change makes of each piece of the input, after the last character of the one
before. -/
def changePieces (change : Option Char → List Char → List Char) (last : Option Char) :
    Nat → Doing Unit
  | 0 => throw .spent
  | fuel + 1 => do
    match ← peekFrom 0 with
    | none => return
    | some piece =>
      dropFrom 0 piece.length
      let text := change last piece
      let _ ← writeTo 1 text
      changePieces change (text.getLast? <|> last) fuel

def tr (args : Args) : Doing Unit := do
  let o := Offer.read ⟨['c', 'C', 'd', 's', 't'], [],
    [("complement", 'c'), ("delete", 'd'), ("squeeze-repeats", 's'), ("truncate-set1", 't')]⟩ args
  let set (cs : List Char) : List Char := charactersOf (cs.length + 1) cs
  let outside := o.has 'c' || o.has 'C'
  let first := set (o.words.headD [])
  let inFirst (c : Char) : Bool := first.contains c != outside
  let second := set ((o.words.drop 1).headD [])
  let squeeze (inSet : Char → Bool) (last : Option Char) (cs : List Char) : List Char :=
    if o.has 's' then squeezed inSet last cs else cs
  let image (c : Char) : Char :=
    if outside then (if inFirst c then second.getLast?.getD c else c)
    else match first.findIdx? (· = c) with
      | some i => (second[i]? <|> (if o.has 't' then none else second.getLast?)).getD c
      | none => c
  let change (last : Option Char) (cs : List Char) : List Char :=
    match o.has 'd', o.words.length with
    | true, 1 => cs.filter (!inFirst ·)
    | true, _ => squeeze second.contains last (cs.filter (!inFirst ·))
    | false, 1 => squeeze inFirst last cs
    | false, _ => squeeze second.contains last (cs.map image)
  let count := o.words.length
  let good :=
    if o.has 'd' then count = (if o.has 's' then 2 else 1)
    else if o.has 's' then count = 1 || count = 2
    else count = 2 && !second.isEmpty
  if o.wrong || !good then setStatus 1
  else
    setStatus 0
    changePieces change none patience

def tee (args : Args) : Doing Unit := do
  let e ← get
  let names := args.filter (· ≠ ['-', 'a'])
  let places := names.filter (!isVoid ·) |>.filterMap (placeOf? e)
  unless args.head? = some ['-', 'a'] do
    places.forM fun path => placeEntry path (some (.file []))
  setStatus 0
  forPieces 0 (fun cs => do
    let _ ← writeTo 1 cs
    places.forM fun path => do
      let before := match (← get).world.files.find? path with
        | some (.file bytes) => bytes
        | _ => []
      placeEntry path (some (.file (before ++ toBytes cs)))) patience

/-! ### Numbers -/

/-- The numbers from one to another in steps. -/
def steps (first step last : Int) : Nat → List Int
  | 0 => []
  | fuel + 1 =>
    if (0 < step && last < first) || (step < 0 && first < last) then []
    else first :: steps (first + step) step last fuel

def seq (args : Args) : Doing Unit := do
  let (glue, equal, words) := read args ['\n'] false
  let run (first step last : Int) : Doing Unit :=
    if step = 0 then setStatus 1
    else
      let texts := (steps first step last patience).map numeralOf
      let width := if equal then (texts.map List.length).foldl max 0 else 0
      let wide (cs : List Char) : List Char :=
        match cs with
        | '-' :: digits => '-' :: List.replicate (width - cs.length) '0' ++ digits
        | digits => List.replicate (width - cs.length) '0' ++ digits
      write (if texts.isEmpty then [] else lineOf (List.intercalate glue (texts.map wide)))
  match words.map Testing.integer? with
  | [some last] => run 1 1 last
  | [some first, some last] => run first 1 last
  | [some first, some step, some last] => run first step last
  | _ => setStatus 1
where
  read : Args → List Char → Bool → List Char × Bool × Args
    | ['-', 's'] :: glue :: rest, _, equal => read rest glue equal
    | ('-' :: 's' :: glue) :: rest, _, equal => read rest glue equal
    | ['-', 'w'] :: rest, glue, _ => read rest glue true
    | words, glue, equal => (glue, equal, words)

/-- Operators of expressions by how closely they bind, the loosest first. -/
def expressionLevels : List (List String) := [
  ["|"], ["&"], ["=", "!=", "<", "<=", ">", ">="], ["+", "-"], ["*", "/", "%"], [":"]]

def isNull (cs : List Char) : Bool :=
  match Testing.integer? cs with
  | some n => n = 0
  | none => cs.isEmpty

/-- Where a pattern fits at the beginning: what its group has found, or how much it fits. -/
def fitted? (cs pattern : List Char) : Option (List Char) := do
  let r ← Regex.ofText? .basic pattern
  let s : Regex.Search := ⟨.row (.edge .start) r, false⟩
  match s.here? (.start cs) with
  | some h =>
    if r.groupCount = 0 then return numeralOf h.whole.text.length
    else return (h.groups.lookup 1).elim [] Regex.Found.text
  | none => return if r.groupCount = 0 then ['0'] else []

/-- Two values combined by an operator. -/
def combined? (o : String) (a b : List Char) : Option (List Char) := do
  let compared (numbers : Int → Int → Bool) (texts : String → String → Bool) : List Char :=
    let good := match Testing.integer? a, Testing.integer? b with
      | some x, some y => numbers x y
      | _, _ => texts (nameOf a) (nameOf b)
    if good then ['1'] else ['0']
  match o with
  | "=" => return compared (· = ·) (· = ·)
  | "!=" => return compared (· ≠ ·) (· ≠ ·)
  | "<" => return compared (· < ·) (· < ·)
  | "<=" => return compared (· ≤ ·) (· ≤ ·)
  | ">" => return compared (· > ·) (· > ·)
  | ">=" => return compared (· ≥ ·) (· ≥ ·)
  | "|" => return if !isNull a then a else if isNull b then ['0'] else b
  | "&" => return if isNull a || isNull b then ['0'] else a
  | ":" => fitted? a b
  | "+" => return numeralOf ((← Testing.integer? a) + (← Testing.integer? b))
  | "-" => return numeralOf ((← Testing.integer? a) - (← Testing.integer? b))
  | "*" => return numeralOf ((← Testing.integer? a) * (← Testing.integer? b))
  | o =>
    let y ← Testing.integer? b
    let x ← Testing.integer? a
    if y = 0 then none
    return numeralOf (if o = "/" then x.tdiv y else x.tmod y)

mutual

/-- The value of words by operators of some levels, and the words after them. -/
def leveled : Nat → List (List String) → Args → Option (List Char × Args)
  | 0, _, _ => none
  | fuel + 1, [], words => operand fuel words
  | fuel + 1, os :: tighter, words => do
    let (a, rest) ← leveled fuel tighter words
    onward fuel os tighter a rest

/-- Further operands of a level, from the left to the right. -/
def onward : Nat → List String → List (List String) → List Char → Args →
    Option (List Char × Args)
  | 0, _, _, _, _ => none
  | _, _, _, a, [] => some (a, [])
  | fuel + 1, os, tighter, a, o :: rest =>
    if nameOf o ∈ os then do
      let (b, rest) ← leveled fuel tighter rest
      onward fuel os tighter (← combined? (nameOf o) a b) rest
    else some (a, o :: rest)

def operand : Nat → Args → Option (List Char × Args)
  | 0, _ => none
  | _, [] => none
  | fuel + 1, w :: rest =>
    match nameOf w, rest with
    | "(", rest => do
      let (a, rest) ← leveled fuel expressionLevels rest
      if rest.head? = some [')'] then return (a, rest.tail) else none
    | "+", a :: rest => some (a, rest)
    | "length", rest@(_ :: _) => do
      let (a, rest) ← operand fuel rest
      return (numeralOf a.length, rest)
    | "match", rest@(_ :: _) => do
      let (a, rest) ← operand fuel rest
      let (b, rest) ← operand fuel rest
      return (← fitted? a b, rest)
    | "index", rest@(_ :: _) => do
      let (a, rest) ← operand fuel rest
      let (b, rest) ← operand fuel rest
      return (numeralOf ((a.findIdx? (· ∈ b)).elim 0 (· + 1) : Nat), rest)
    | "substr", rest@(_ :: _) => do
      let (a, rest) ← operand fuel rest
      let (i, rest) ← operand fuel rest
      let (n, rest) ← operand fuel rest
      match Testing.integer? i, Testing.integer? n with
      | some i, some n =>
        return (if i < 1 || n < 1 then [] else (a.drop (i.toNat - 1)).take n.toNat, rest)
      | _, _ => return ([], rest)
    | ")", _ => none
    | _, rest => some (w, rest)

end

/-- The value of an expression of words; nothing where it is none. -/
def expression? (args : Args) : Option (List Char) := do
  let args := if args.head? = some ['-', '-'] then args.tail else args
  match ← leveled (16 * args.length + 16) expressionLevels args with
  | (a, []) => return a
  | _ => none

def expr (args : Args) : Doing Unit := do
  match expression? args with
  | some cs =>
    write (lineOf cs)
    succeedIf (!isNull cs)
  | none => setStatus 2

/-! ### Tests -/

/-- What a test can be about here. -/
def Env.testing (e : Env) : Testing where
  file letter name :=
    let files := e.world.files
    let there := files.exists? e.here (toPath name)
    let isDirectory := files.leadsToDirectory e.here (toPath name)
    let isProgram := (Programs.at? files e.here (toPath name)).isSome
    match letter with
    | 'd' => isDirectory
    | 'f' => there && !isDirectory && !isVoid name
    | 'e' | 'r' | 'w' | 'O' | 'G' => there
    | 'x' => isDirectory || isProgram
    | 's' =>
      let isFull := match files.read e.here (toPath name) with
        | .ok bytes => !bytes.isEmpty
        | .error _ => false
      there && (isDirectory || isProgram || isFull)
    | 'c' => isVoid name
    | _ => false
  newer a b := e.world.files.exists? e.here (toPath a) && !e.world.files.exists? e.here (toPath b)
  same a b :=
    match e.world.files.resolve e.here (toPath a), e.world.files.resolve e.here (toPath b) with
    | .ok x, .ok y => x = y
    | _, _ => false

def test (args : Args) : Doing Unit := do
  match (← get).testing.holds? (args.length + 1) args with
  | some good => succeedIf good
  | none => setStatus 2

/-- A test between brackets. -/
def bracket (args : Args) : Doing Unit :=
  if args.getLast? = some [']'] then test args.dropLast else setStatus 2

/-! ### Processes and time -/

/-- The number of a signal from its number or name. -/
def signal? (cs : List Char) : Option Nat :=
  match natural? cs with
  | some n => if n < Signal.limit then some n else none
  | none => Signal.ofName? (nameOf (cs.map Char.toUpper))

/-- Send a signal to a process; whether there is one. -/
def signalTo (signal : Nat) (target : Nat) : Doing Bool := do
  let e ← get
  if e.detached && (target = e.number || (e.around.lookup target).isSome) then
    set { e with world := { e.world with sent := (e.world.clock, target, signal) :: e.world.sent } }
    return true
  else if (e.provisions? target).isSome then
    signalled target signal
    return true
  else if target = hostNumber then
    if signal = 2 then act .interrupt
    return true
  else if e.world.asides.any fun a => a.number = target && e.world.clock < a.finish then
    let stopped (a : Aside) : Aside :=
      if a.number = target && Signal.effect signal = .ends then
        { a with errands := [], finish := e.world.clock, status := 128 + signal }
      else a
    set { e with world := { e.world with asides := e.world.asides.map stopped } }
    return true
  else return false

def kill (args : Args) : Doing Unit := do
  let (signal, targets) : Option Nat × Args := match args with
    | ['-', 's'] :: name :: rest => (signal? name, rest)
    | ['-', '-'] :: rest => (some 15, rest)
    | ('-' :: 's' :: name) :: rest => (signal? ('s' :: name) <|> signal? name, rest)
    | ('-' :: name) :: rest => (signal? name, rest)
    | _ => (some 15, args)
  match args with
  | ['-', 'l'] :: n :: _ =>
    let n := (natural? n).getD 0
    match Signal.names.lookup (if 128 < n then n - 128 else n) with
    | some name => write (lineOf name.toList)
    | none => setStatus 2
  | [['-', 'l']] => write (lineOf ['0'] ++ Signal.names.flatMap fun s => lineOf s.2.toList)
  | _ =>
    let some n := signal | setStatus 2
    if targets.isEmpty then setStatus 2
    else
      let e ← get
      let numberOf (cs : List Char) : Option Nat :=
        match cs with
        | '%' :: rest => (e.world.asides[(natural? rest).getD 1 - 1]?).map (·.number)
        | cs => natural? cs
      let mut good := true
      let mut illegal := false
      for t in targets do
        match numberOf t with
        | some target => unless ← signalTo n target do good := false
        | none => if t.head? = some '-' then good := false else illegal := true
      setStatus (if illegal then 2 else if good then 0 else 1)

/-- How many milliseconds a unit has. -/
def unitOf : List Char → Option Nat
  | [] | ['s'] => some 1000
  | ['m'] => some 60000
  | ['h'] => some 3600000
  | ['d'] => some 86400000
  | _ => none

/-- A time in milliseconds; fractions finer than that do not count. -/
def millis? (cs : List Char) : Option Nat := do
  if cs = "infinity".toList || cs = "inf".toList then return forever
  let whole := cs.takeWhile (·.isDigit)
  let rest := cs.drop whole.length
  let (places, rest) := match rest with
    | '.' :: rest => (rest.takeWhile Char.isDigit, rest.dropWhile Char.isDigit)
    | rest => ([], rest)
  if whole.isEmpty && places.isEmpty then none
  let unit ← unitOf rest
  let digits := (Text.readBase 10 0 (whole ++ places)).getD 0
  return digits * unit / Nat.pow 10 places.length

def sleep (args : Args) : Doing Unit := do
  match args with
  | [] => setStatus 1
  | ('-' :: '-' :: _) :: _ =>
    write (lineOf "sleep".toList)
    succeedIf (args.head? = some "--version".toList || args.head? = some "--help".toList)
  | args =>
    match args.mapM millis? with
    | some times =>
      elapse (times.foldl (· + ·) 0)
      setStatus 0
    | none => setStatus 1

/-- Write without end. -/
def yes (args : Args) : Doing Unit := do
  let text := lineOf (if args.isEmpty then ['y'] else List.intercalate [' '] args)
  let times := 65536 / text.length + 1
  let _ ← writeTo 1 (List.replicate times text).flatten
  throw .spent

/-- The variables that other programs get to know, or some of them. -/
def printenv (args : Args) : Doing Unit := do
  let e ← get
  if args.isEmpty then
    write (e.exported.flatMap fun (name, value) => lineOf (ofText (name ++ "=" ++ value)))
  else
    let found := args.filterMap fun name => (e.exported).find? (toText name)
    write (found.flatMap fun value => lineOf (ofText value))
    succeedIf (found.length = args.length)

def pwd : Doing Unit := do write (lineOf (ofText (String.ofList (← get).here)))

/-- Write what the machine is called, or who runs it. -/
def identity (name : String) (args : Args) : Doing Unit := do
  let (letters, words) := options args
  let say (text : String) : Doing Unit := write (lineOf text.toList)
  match name with
  | "id" =>
    if 'n' ∈ letters then say "root"
    else if letters.any (· ∈ ['u', 'g', 'G']) then say "0"
    else say "uid=0(root) gid=0(root) groups=0(root)"
  | "whoami" => say "root"
  | "uname" =>
    if letters = ['m'] then say "x86_64"
    else if letters.isEmpty || letters = ['s'] then say "Linux"
    else say "Linux host 6.1.0 #1 SMP x86_64 GNU/Linux"
  | "arch" => say "x86_64"
  | "nproc" => say "1"
  | _ =>
    if words.isEmpty then say "host" else setStatus 1

/-- Tools by their names. -/
def tool? (name : String) : Option (Args → Doing Unit) :=
  match name with
  | "echo" => some echo
  | "printf" => some printf
  | "cat" => some cat
  | "head" => some head
  | "tail" => some tail
  | "wc" => some wc
  | "tr" => some tr
  | "tee" => some tee
  | "seq" => some seq
  | "expr" => some expr
  | "test" => some test
  | "[" => some bracket
  | "kill" => some kill
  | "sleep" => some sleep
  | "true" => some fun _ => setStatus 0
  | "false" => some fun _ => setStatus 1
  | "yes" => some yes
  | "printenv" => some printenv
  | "pwd" => some fun _ => pwd
  | "sync" => some fun _ => setStatus 0
  | "sed" => some sed
  | name =>
    if name ∈ ["id", "whoami", "uname", "arch", "nproc", "hostname"] then some (identity name)
    else fileTool? name <|> filter? name

end LanguageClient.Shell
