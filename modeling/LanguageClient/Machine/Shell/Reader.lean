import LanguageClient.Machine.Shell.Command

/-!
# Reading shell scripts

A script is read a line at a time: what a line does may come before a fault in a later one. Loops
are bounded by fuel, for which the length of the script is enough.
-/

namespace LanguageClient.Shell

/-- A text inside the script that is yet to be read: it comes after the line that asks for it. -/
structure Awaited where
  index : Nat
  /-- The line that ends it. -/
  mark : List Char
  /-- Whether it is taken as it stands. -/
  bare : Bool
  /-- Whether tabs at the beginning of its lines are dropped. -/
  dedented : Bool

/-- A place in a script. -/
structure Cursor where
  rest : List Char
  awaited : List Awaited
  /-- The texts inside the script that have been read. -/
  documents : Array Word

/-- Reading from a place, which fails where the script is none. -/
abbrev Reading := StateT Cursor Option

/-! ### Characters -/

def isBlank (c : Char) : Bool := c = ' ' || c = '\t'

/-- Characters that end a word. -/
def isMeta (c : Char) : Bool := isBlank c || c ∈ ['\n', ';', '&', '|', '(', ')', '<', '>']

def isNameStart (c : Char) : Bool := c.isAlpha || c = '_'

def isNameChar (c : Char) : Bool := c.isAlphanum || c = '_'

def isName (cs : List Char) : Bool := cs.head?.any isNameStart && cs.all isNameChar

/-- Parameters that are no variables and have one character for a name. -/
def specials : List Char := ['$', '#', '?', '@', '*', '!', '-']

def Reading.ahead : Reading (List Char) := return (← get).rest

def Reading.skip (n : Nat) : Reading Unit := modify fun c => { c with rest := c.rest.drop n }

/-- The characters up to the first that is not of a kind. -/
def Reading.many (p : Char → Bool) : Reading (List Char) := do
  let found := (← ahead).takeWhile p
  skip found.length
  return found

def Reading.startsWith (s : String) : Reading Bool := return s.toList.isPrefixOf (← ahead)

/-- Go past a text, if it is next. -/
def Reading.pass (s : String) : Reading Bool := do
  if ← startsWith s then
    skip s.length
    return true
  else return false

def Reading.expect (s : String) : Reading Unit := do
  unless ← pass s do failure

/-- Read another text in between. -/
def Reading.within {α : Type} (text : List Char) (r : Reading α) : Reading α := do
  let rest ← ahead
  modify fun c => { c with rest := text }
  let found ← r
  modify fun c => { c with rest := rest }
  return found

/-- What follows blanks and a break that does not count. -/
def dropBlanks : List Char → List Char
  | '\\' :: '\n' :: rest => dropBlanks rest
  | c :: rest => if isBlank c then dropBlanks rest else c :: rest
  | [] => []

/-- What follows blanks and a comment. -/
def dropComment (cs : List Char) : List Char :=
  match dropBlanks cs with
  | '#' :: rest => rest.dropWhile (· ≠ '\n')
  | cs => cs

def Reading.blanks : Reading Unit := modify fun c => { c with rest := dropComment c.rest }

/-! ### Pieces -/

/-- What ends a row of pieces. -/
inductive Close
  /-- A character that is part of no word. -/
  | blank
  | quote
  | brace (quoted : Bool)
  /-- Two parentheses, when so many others are open. -/
  | sum (depth : Nat)
  | finish

/-- Whether pieces count as quoted. -/
def Close.isQuoted : Close → Bool
  | .blank | .brace false => false
  | .quote | .brace true | .sum _ | .finish => true

/-- Characters that a backslash takes their meaning from where all is quoted. -/
def Close.escapes : Close → List Char
  | .quote => ['$', '\x60', '\\', '"']
  | .brace _ => ['$', '\x60', '\\', '"', '\x7d']
  | .sum _ | .finish | .blank => ['$', '\x60', '\\']

/-- The text between backquotes, and what follows it. -/
def backquoted (quoted : Bool) : List Char → Option (List Char × List Char)
  | [] => none
  | '\x60' :: rest => some ([], rest)
  | '\\' :: c :: rest => do
    let (text, after) ← backquoted quoted rest
    let freed := c ∈ ['$', '\x60', '\\'] || (quoted && c = '"')
    return (if freed then c :: text else '\\' :: c :: text, after)
  | c :: rest => do
    let (text, after) ← backquoted quoted rest
    return (c :: text, after)

/-- The lines of a text inside the script up to the mark, and what follows the mark. -/
def documentLines (a : Awaited) : Nat → List Char → List Char × List Char
  | 0, cs => ([], cs)
  | _, [] => ([], [])
  | fuel + 1, cs =>
    let cs := if a.dedented then cs.dropWhile (· = '\t') else cs
    let line := cs.takeWhile (· ≠ '\n')
    let after := cs.drop (line.length + 1)
    if line = a.mark then ([], after)
    else
      let (text, after') := documentLines a fuel after
      (cs.take (line.length + 1) ++ text, after')

/-- A redirection that begins here: the stream, if it has a number, the operator, and the rest. -/
def redirection? (cs : List Char) : Option (Option Nat × String × List Char) := do
  let digits := cs.takeWhile (·.isDigit)
  let after := cs.drop digits.length
  let operator ← ["<<-", "<<", "<&", "<>", "<", ">>", ">&", ">|", ">"].find? fun o =>
    o.toList.isPrefixOf after
  return ((String.ofList digits).toNat?, operator, after.drop operator.length)

/-- The way of an operator, and the stream that it is about by itself. -/
def wayOf (operator : String) : Way × Nat :=
  match operator with
  | "<" | "<>" => (.input, 0)
  | "<&" => (.duplicate, 0)
  | ">&" => (.duplicate, 1)
  | ">>" => (.append, 1)
  | _ => (.output, 1)

/-- Words that are commands by themselves where a command begins. -/
def reserved : List String := [
  "!", "\x7b", "\x7d", "case", "do", "done", "elif", "else", "esac", "fi", "for", "if", "in",
  "then", "until", "while"]

/-- Words that end a list of commands. -/
def closers : List String := ["\x7d", "do", "done", "elif", "else", "esac", "fi", "then"]

/-- Commands whose names functions cannot have. -/
def reservedNames : List String := [
  ".", ":", "break", "continue", "eval", "exec", "exit", "export", "readonly", "return", "set",
  "shift", "times", "trap", "unset"]

/-- The text of the word that comes next, as it is written. -/
def Reading.nextWord : Reading String := return String.ofList ((← ahead).takeWhile (!isMeta ·))

/-- Go past a word that is reserved, if it is next. -/
def Reading.passWord (s : String) : Reading Bool := do
  blanks
  if (← nextWord) = s then
    skip s.length
    return true
  else return false

def Reading.expectWord (s : String) : Reading Unit := do
  unless ← passWord s do failure

/-- Whether a list of commands ends here. -/
def Reading.atClose : Reading Bool := do
  blanks
  match ← ahead with
  | [] | ')' :: _ | ';' :: ';' :: _ => return true
  | _ => return (← nextWord) ∈ closers

/-- The characters of an assignment before its value. -/
def assignmentName? (w : Word) : Option (String × Word) := do
  let isPiece : Piece → Bool
    | .text false cs => cs.all isNameChar
    | _ => false
  let name ← plain? (w.takeWhile isPiece)
  match w.dropWhile isPiece with
  | .text false ['='] :: value => if isName name then some (String.ofList name, value) else none
  | _ => none

/-- The one user of the machine, whose home is a directory of the root. -/
def superuser : List Char := "root".toList

/-- A word with the user's home in place of its first character, where that stands for it. -/
def homeward : Word → Word
  | .text false ['~'] :: [] => [.home]
  | .text false ['~'] :: .text false ['/'] :: rest => .home :: .text false ['/'] :: rest
  | .text false ['~'] :: rest =>
    let isPlain : Piece → Bool
      | .text false [c] => c ≠ '/'
      | _ => false
    match plain? (rest.takeWhile isPlain), rest.dropWhile isPlain with
    | some name, after =>
      let closed := match after with
        | [] | .text false ['/'] :: _ => true
        | _ => false
      if closed && name = superuser then .text true ('/' :: name) :: after
      else .text false ['~'] :: rest
    | none, _ => .text false ['~'] :: rest
  | w => w

/-- The text of a word, whatever is quoted in it. -/
def literal (w : Word) : List Char := w.flatMap fun
  | .text _ cs => cs
  | _ => []

def isQuotedText : Piece → Bool
  | .text quoted _ => quoted
  | _ => false

open Reading

mutual

/-- Pieces up to what ends them. -/
def pieces : Nat → Close → Reading Word
  | 0, _ => failure
  | fuel + 1, close => do
    match close, ← ahead with
    | .blank, [] | .finish, [] => return []
    | _, [] => failure
    | .quote, '"' :: _ | .brace _, '\x7d' :: _ =>
      skip 1
      return []
    | .sum 0, ')' :: ')' :: _ =>
      skip 2
      return []
    | close, '\\' :: '\n' :: _ =>
      skip 2
      pieces fuel close
    | close, '\\' :: c :: _ =>
      if close.isQuoted && c ∉ close.escapes then
        skip 1
        return .text true ['\\'] :: (← pieces fuel close)
      else
        skip 2
        return .text true [c] :: (← pieces fuel close)
    | close, '$' :: _ =>
      skip 1
      let p ← dollar fuel close.isQuoted
      return p :: (← pieces fuel close)
    | close, '\x60' :: rest =>
      let (text, after) ← (backquoted close.isQuoted rest : Option _)
      modify fun c => { c with rest := after }
      let body ← within text (group fuel)
      return .output close.isQuoted body :: (← pieces fuel close)
    | close, c :: _ =>
      if (match close with | .blank => isMeta c | _ => false) then return []
      skip 1
      match close, c with
      | .blank, '\'' | .brace false, '\'' =>
        let text ← many (· ≠ '\'')
        expect "'"
        return .text true text :: (← pieces fuel close)
      | .blank, '"' | .brace _, '"' =>
        let inner ← pieces fuel .quote
        return .text true [] :: inner ++ (← pieces fuel close)
      | .sum depth, '(' => return .text true [c] :: (← pieces fuel (.sum (depth + 1)))
      | .sum (depth + 1), ')' => return .text true [c] :: (← pieces fuel (.sum depth))
      | close, c => return .text close.isQuoted [c] :: (← pieces fuel close)

/-- The piece that begins with a dollar sign, read after it. -/
def dollar : Nat → Bool → Reading Piece
  | 0, _ => failure
  | fuel + 1, quoted => do
    match ← ahead with
    | '(' :: '(' :: _ =>
      skip 2
      return .sum quoted (← pieces fuel (.sum 0))
    | '(' :: _ =>
      skip 1
      let body ← group fuel
      expect ")"
      return .output quoted body
    | '\x7b' :: _ =>
      skip 1
      braced fuel quoted
    | c :: _ =>
      if c.isDigit || c ∈ specials then
        skip 1
        return .value quoted (String.singleton c) .plain
      else if isNameStart c then return .value quoted (String.ofList (← many isNameChar)) .plain
      else return .text quoted ['$']
    | [] => return .text quoted ['$']

/-- A parameter between braces, read after the first. -/
def braced : Nat → Bool → Reading Piece
  | 0, _ => failure
  | fuel + 1, quoted => do
    let cs ← ahead
    let sized := match cs with
      | '#' :: c :: _ => c ≠ '\x7d' && (isNameChar c || c ∈ specials)
      | _ => false
    if sized then skip 1
    let name ← match ← ahead with
      | c :: _ =>
        if c.isDigit then many (·.isDigit)
        else if isNameStart c then many isNameChar
        else if c ∈ specials then do
          skip 1
          pure [c]
        else failure
      | [] => failure
    let name := String.ofList name
    if sized then
      expect "\x7d"
      return .value quoted name .size
    let operand : Reading Word := homeward <$> pieces fuel (.brace quoted)
    let strict ← pass ":"
    match ← ahead with
    | '-' :: _ =>
      skip 1
      return .value quoted name (.orElse strict (← operand))
    | '=' :: _ =>
      skip 1
      return .value quoted name (.orSet strict (← operand))
    | '?' :: _ =>
      skip 1
      let _ ← operand
      return .value quoted name (.orFail strict)
    | '+' :: _ =>
      skip 1
      return .value quoted name (.andThen strict (← operand))
    | c :: d :: _ =>
      if strict then failure
      if c = '#' || c = '%' then
        let longest := c = d
        skip (if longest then 2 else 1)
        let w ← pieces fuel (.brace false)
        return .value quoted name (if c = '#' then .cutFront longest w else .cutBack longest w)
      expect "\x7d"
      return .value quoted name .plain
    | _ =>
      if strict then failure
      expect "\x7d"
      return .value quoted name .plain

/-- A word. -/
def word : Nat → Reading Word
  | 0 => failure
  | fuel + 1 => do
    let w ← pieces fuel .blank
    if w.isEmpty then failure
    return homeward w

/-- The end of a line, with the texts inside the script that it has asked for. -/
def newline : Nat → Reading Unit
  | 0 => failure
  | fuel + 1 => do
    expect "\n"
    let awaited := (← get).awaited
    modify fun c => { c with awaited := [] }
    for a in awaited do
      let rest ← ahead
      let (text, after) := documentLines a rest.length rest
      modify fun c => { c with rest := after }
      let body ← if a.bare then pure [.text true text] else within text (pieces fuel .finish)
      modify fun c => { c with documents := c.documents.set! a.index body }

/-- Ends of lines. -/
def newlines : Nat → Reading Unit
  | 0 => failure
  | fuel + 1 => do
    blanks
    if ← startsWith "\n" then
      newline fuel
      newlines fuel

/-- A redirection, if one is next. -/
def redirection : Nat → Reading (Option Redirection)
  | 0 => failure
  | fuel + 1 => do
    blanks
    match redirection? (← ahead) with
    | none => return none
    | some (number, operator, rest) =>
      modify fun c => { c with rest := rest }
      blanks
      let target ← word fuel
      if operator = "<<" || operator = "<<-" then
        let c ← get
        let index := c.documents.size
        let a : Awaited :=
          ⟨index, literal target, target.any isQuotedText, operator = "<<-"⟩
        set { c with documents := c.documents.push [], awaited := c.awaited ++ [a] }
        return some (.document (number.getD 0) index)
      else
        let (way, own) := wayOf operator
        return some (.stream (number.getD own) way target)

/-- Redirections. -/
def redirections : Nat → Reading (List Redirection)
  | 0 => failure
  | fuel + 1 => do
    match ← redirection fuel with
    | some r => return r :: (← redirections fuel)
    | none => return []

/-- A simple command of which some has been read, or the definition of a function. -/
def simple : Nat → List (String × Word) → List Word → List Redirection → Reading Command
  | 0, _, _, _ => failure
  | fuel + 1, assignments, words, rs => do
    match ← redirection fuel with
    | some r => simple fuel assignments words (rs ++ [r])
    | none =>
      match ← ahead, words with
      | '(' :: _, [name] =>
        let name ← (plain? name : Option _)
        unless assignments.isEmpty && rs.isEmpty && isName name do failure
        if String.ofList name ∈ reservedNames then failure
        skip 1
        blanks
        expect ")"
        newlines fuel
        return .define (String.ofList name) (← command fuel)
      | c :: _, _ =>
        if isMeta c then
          if words.isEmpty && assignments.isEmpty && rs.isEmpty then failure
          return .simple assignments words rs
        let w ← word fuel
        match words.isEmpty, assignmentName? w with
        | true, some (name, value) =>
          simple fuel (assignments ++ [(name, homeward value)]) words rs
        | _, _ => simple fuel assignments (words ++ [w]) rs
      | [], _ =>
        if words.isEmpty && assignments.isEmpty && rs.isEmpty then failure
        return .simple assignments words rs

/-- A command that has no more parts than belong to it. -/
def command : Nat → Reading Command
  | 0 => failure
  | fuel + 1 => do
    blanks
    let name ← nextWord
    if (← startsWith "(") then
      skip 1
      let a ← list fuel
      expect ")"
      wrapped fuel (.apart a)
    else if name ∉ reserved then simple fuel [] [] []
    else
      skip name.length
      match name with
      | "\x7b" =>
        let a ← list fuel
        expectWord "\x7d"
        wrapped fuel a
      | "if" => wrapped fuel (← branches fuel)
      | "while" | "until" =>
        let test ← list fuel
        let body ← enclosed fuel
        wrapped fuel (.loop (name = "until") test body)
      | "for" =>
        blanks
        let counter ← many isNameChar
        unless isName counter do failure
        newlines fuel
        let words ← if ← passWord "in" then some <$> wordsUpTo fuel else do
          blanks
          if ← startsWith ";;" then failure
          let _ ← pass ";"
          pure none
        newlines fuel
        let body ← enclosed fuel
        wrapped fuel (.each (String.ofList counter) words body)
      | "case" =>
        blanks
        let subject ← word fuel
        newlines fuel
        expectWord "in"
        wrapped fuel (.select subject (← arms fuel))
      | _ => failure

/-- The words of a loop up to the end of the line or command. -/
def wordsUpTo : Nat → Reading (List Word)
  | 0 => failure
  | fuel + 1 => do
    blanks
    match ← ahead with
    | '\n' :: _ => return []
    | ';' :: ';' :: _ => failure
    | ';' :: _ =>
      skip 1
      return []
    | _ =>
      let w ← word fuel
      return w :: (← wordsUpTo fuel)

/-- The body of a loop. -/
def enclosed : Nat → Reading Command
  | 0 => failure
  | fuel + 1 => do
    expectWord "do"
    let body ← list fuel
    expectWord "done"
    return body

/-- A command with the redirections that follow it. -/
def wrapped : Nat → Command → Reading Command
  | 0, _ => failure
  | fuel + 1, a => do
    let rs ← redirections fuel
    return if rs.isEmpty then a else .redirected a rs

/-- A condition and what hangs on it, up to the word that closes all. -/
def branches : Nat → Reading Command
  | 0 => failure
  | fuel + 1 => do
    let test ← list fuel
    expectWord "then"
    let yes ← list fuel
    if ← passWord "elif" then return .condition test yes (← branches fuel)
    else if ← passWord "else" then
      let no ← list fuel
      expectWord "fi"
      return .condition test yes no
    else
      expectWord "fi"
      return .condition test yes .nothing

/-- The arms of a choice, up to the word that closes it. -/
def arms : Nat → Reading (List (List Word × Command))
  | 0 => failure
  | fuel + 1 => do
    newlines fuel
    if ← passWord "esac" then return []
    blanks
    let _ ← pass "("
    let ps ← patterns fuel
    let a ← group fuel
    if ← pass ";;" then return (ps, a) :: (← arms fuel)
    else
      expectWord "esac"
      return [(ps, a)]

/-- The patterns of an arm up to the parenthesis after them. -/
def patterns : Nat → Reading (List Word)
  | 0 => failure
  | fuel + 1 => do
    blanks
    let w ← word fuel
    blanks
    if ← pass "|" then return w :: (← patterns fuel)
    else
      expect ")"
      return [w]

/-- Commands joined by pipes. -/
def pipeline : Nat → Reading Command
  | 0 => failure
  | fuel + 1 => do
    if ← passWord "!" then return .invert (← pipeline fuel)
    let first ← command fuel
    let rest ← piped fuel
    return if rest.isEmpty then first else .pipeline (first :: rest)

/-- The further commands of a pipeline. -/
def piped : Nat → Reading (List Command)
  | 0 => failure
  | fuel + 1 => do
    blanks
    if ← startsWith "||" then return []
    else if ← pass "|" then
      newlines fuel
      let a ← command fuel
      return a :: (← piped fuel)
    else return []

/-- Further pipelines that hang on how the one before ends. -/
def chain : Nat → Command → Reading Command
  | 0, _ => failure
  | fuel + 1, a => do
    blanks
    if ← pass "&&" then
      newlines fuel
      chain fuel (.both a (← pipeline fuel))
    else if ← pass "||" then
      newlines fuel
      chain fuel (.either a (← pipeline fuel))
    else return a

/-- Commands up to where their list ends, at least one; `whole` if it may go on over lines. -/
def listOf : Nat → Bool → Reading Command
  | 0, _ => failure
  | fuel + 1, whole => do
    if whole then newlines fuel
    let a ← chain fuel (← pipeline fuel)
    blanks
    let apart ← if ← startsWith "&&" then pure false else pass "&"
    let a := if apart then .aside a else a
    let parted ← if apart then pure true
      else if ← startsWith ";;" then pure false
      else pass ";"
    blanks
    let broken ← startsWith "\n"
    if whole && (parted || broken) then
      newlines fuel
      if ← atClose then return a
      return .sequence a (← listOf fuel whole)
    else if !whole && parted && !broken && !(← ahead).isEmpty then
      return .sequence a (← listOf fuel whole)
    else return a

/-- Commands, at least one. -/
def list : Nat → Reading Command
  | 0 => failure
  | fuel + 1 => listOf fuel true

/-- Commands, perhaps none. -/
def group : Nat → Reading Command
  | 0 => failure
  | fuel + 1 => do
    newlines fuel
    if ← atClose then return .nothing
    listOf fuel true

end

/-- More fuel than reading a text takes. -/
def fuelFor (cs : List Char) : Nat := 8 * cs.length + 64

/-- The next line of a script with all that belongs to it; nothing at the end. -/
def line : Reading (Option Command) := do
  let fuel := fuelFor (← ahead)
  newlines fuel
  if (← ahead).isEmpty then return none
  let a ← listOf fuel false
  blanks
  match ← ahead with
  | [] => return some a
  | '\n' :: _ =>
    newline fuel
    return some a
  | _ => failure

end LanguageClient.Shell
