import LanguageClient.Text.Digits
import LanguageClient.Text.Parts

/-!
# Tokens of scripts

A script is read as lines of tokens. What a line stands in is told by the blanks before it: tokens
of their own say where lines begin to stand further in, and where they stand further out again.
Inside brackets lines and blanks do not count.
-/

namespace LanguageClient.Scripting

/-- What letters before a quoted text say about it. -/
structure Manner where
  /-- Backslashes stand for themselves. -/
  raw : Bool
  /-- It is a row of bytes. -/
  bytes : Bool
  /-- Values stand in it between braces. -/
  filled : Bool
  deriving DecidableEq, Repr

inductive Token
  | name (s : String)
  | whole (n : Nat)
  /-- A number `digits / 10 ^ places * 10 ^ exponent`. -/
  | fraction (digits places : Nat) (exponent : Int)
  | quoted (m : Manner) (cs : List Char)
  | sign (s : String)
  /-- The end of a line. -/
  | line
  | further
  | back
  deriving DecidableEq, Repr

namespace Token

/-- Signs, the longer before those that they begin with. -/
def signs : List String := [
  "**=", "//=", ">>=", "<<=", "...", "==", "!=", "<=", ">=", "->", ":=", "+=", "-=", "*=", "/=",
  "%=", "&=", "|=", "^=", "@=", "**", "//", "<<", ">>", "+", "-", "*", "/", "%", "@", "&", "|", "^",
  "~", "<", ">", "(", ")", "[", "]", "\x7b", "\x7d", ",", ":", ".", ";", "="]

def isNameStart (c : Char) : Bool := c.isAlpha || c = '_' || 0x80 ≤ c.toNat

def isNameChar (c : Char) : Bool := isNameStart c || c.isDigit

/-- What the letters before a quote say; nothing when they do not go together. -/
def manner? (letters : List Char) : Option Manner :=
  let low := letters.map Char.toLower
  let has (c : Char) : Bool := c ∈ low
  let good := low.all (· ∈ ['r', 'b', 'f', 'u']) && low.eraseDups.length = low.length &&
    !(has 'b' && has 'f') && !(has 'u' && low.length ≠ 1)
  if good then some ⟨has 'r', has 'b', has 'f'⟩ else none

/-- The text up to its closing quote, and what follows it. Backslashes are kept. -/
def quotedText (quote : Char) (long : Bool) : List Char → Option (List Char × List Char)
  | [] => none
  | '\\' :: c :: rest => do
    let (text, after) ← quotedText quote long rest
    return ('\\' :: c :: text, after)
  | c :: rest =>
    if c = quote then
      if !long then some ([], rest)
      else if [quote, quote].isPrefixOf rest then some ([], rest.drop 2)
      else do
        let (text, after) ← quotedText quote long rest
        return (c :: text, after)
    else if c = '\n' && !long then none
    else do
      let (text, after) ← quotedText quote long rest
      return (c :: text, after)

/-- A quoted text from its first quote on. -/
def quotedFrom (m : Manner) : List Char → Option (Token × List Char)
  | q :: rest =>
    let long := [q, q].isPrefixOf rest
    (quotedText q long (if long then rest.drop 2 else rest)).map fun (text, after) =>
      (.quoted m text, after)
  | [] => none

/-- Digits, which may have single underscores between them. -/
def digitsOf (base : Nat) : List Char → List Char × List Char
  | '_' :: c :: rest =>
    if (Text.digitIn base c).isSome then
      let (more, after) := digitsOf base rest
      (c :: more, after)
    else ([], '_' :: c :: rest)
  | c :: rest =>
    if (Text.digitIn base c).isSome then
      let (more, after) := digitsOf base rest
      (c :: more, after)
    else ([], c :: rest)
  | [] => ([], [])

/-- A number and what follows it. -/
def number? (cs : List Char) : Option (Token × List Char) :=
  let based (base : Nat) (cs : List Char) : Option (Token × List Char) :=
    let (digits, rest) := digitsOf base cs
    if digits.isEmpty then none
    else (Text.readBase base 0 digits).map fun n => (.whole n, rest)
  match cs with
  | '0' :: 'x' :: rest | '0' :: 'X' :: rest => based 16 rest
  | '0' :: 'o' :: rest | '0' :: 'O' :: rest => based 8 rest
  | '0' :: 'b' :: rest | '0' :: 'B' :: rest => based 2 rest
  | cs =>
    let (own, rest) := digitsOf 10 cs
    let (places, rest, isWhole) := match rest with
      | '.' :: rest =>
        let (places, rest) := digitsOf 10 rest
        (places, rest, false)
      | rest => ([], rest, true)
    let power? (cs : List Char) : Option (Int × List Char) :=
      let (negative, digits) := match cs with
        | '-' :: rest => (true, rest)
        | '+' :: rest => (false, rest)
        | rest => (false, rest)
      let (digits, rest) := digitsOf 10 digits
      if digits.isEmpty then none
      else (Text.readBase 10 0 digits).map fun n =>
        (if negative then -(Int.ofNat n) else Int.ofNat n, rest)
    let power := match rest with
      | 'e' :: rest | 'E' :: rest => power? rest
      | _ => none
    let value := (Text.readBase 10 0 (own ++ places)).getD 0
    match power with
    | some (exponent, rest) => some (.fraction value places.length exponent, rest)
    | none =>
      if isWhole then
        if own.head? = some '0' && own.any (· ≠ '0') then none else some (.whole value, rest)
      else some (.fraction value places.length 0, rest)

/-- The token at the front of a text, and what follows it. -/
def next? (cs : List Char) : Option (Token × List Char) :=
  match cs with
  | [] => none
  | c :: rest =>
    if c = '"' || c = '\'' then quotedFrom ⟨false, false, false⟩ cs
    else if isNameStart c then
      let name := cs.takeWhile isNameChar
      let after := cs.drop name.length
      let quoted := if after.head? = some '"' || after.head? = some '\'' then manner? name else none
      match quoted with
      | some m => quotedFrom m after
      | none => some (.name (String.ofList name), after)
    else if c.isDigit || (c = '.' && rest.head?.any (·.isDigit)) then number? cs
    else
      (signs.find? fun s => s.toList.isPrefixOf cs).map fun s => (.sign s, cs.drop s.length)

/-! ### Lines -/

/-- How far in a line stands: tabs lead to the next of every eighth place. -/
def depthOf : Nat → List Char → Nat × List Char
  | n, ' ' :: rest => depthOf (n + 1) rest
  | n, '\t' :: rest => depthOf ((n / 8 + 1) * 8) rest
  | _, '\x0c' :: rest => depthOf 0 rest
  | n, cs => (n, cs)

/-- The tokens that say how a line stands after those before it, and the depths that are open then;
nothing when it stands between two of them. -/
def stepsTo (depth : Nat) : List Nat → Option (List Token × List Nat)
  | [] => if depth = 0 then some ([], []) else some ([.further], [depth])
  | d :: open_ =>
    if depth = d then some ([], d :: open_)
    else if d < depth then some ([.further], depth :: d :: open_)
    else if depth = 0 then some (List.replicate (open_.length + 1) .back, [])
    else do
      let (tokens, depths) ← stepsTo depth open_
      if tokens = [.further] then none else return (.back :: tokens, depths)

/-- Whether a line has nothing on it but perhaps a comment. -/
def isBare (cs : List Char) : Bool :=
  match cs with
  | [] => true
  | c :: _ => c = '\n' || c = '\r' || c = '#'

/--
The tokens of a text. `fresh` at the beginning of a line; `brackets` are open; `depths` are those of
the lines around, the innermost first.
-/
def scan : Nat → Bool → Nat → List Nat → List Char → Option (List Token)
  | 0, _, _, _, _ => none
  | fuel + 1, true, brackets, depths, cs =>
    let (depth, cs) := depthOf 0 cs
    if isBare cs then
      match (cs.dropWhile (· ≠ '\n')) with
      | _ :: rest => scan fuel true brackets depths rest
      | [] => some (depths.map fun _ => .back)
    else do
      let (tokens, depths) ← stepsTo depth depths
      return tokens ++ (← scan fuel false brackets depths cs)
  | fuel + 1, false, brackets, depths, cs =>
    match cs with
    | [] => if brackets = 0 then some (.line :: depths.map fun _ => .back) else none
    | '\\' :: '\r' :: '\n' :: rest | '\\' :: '\n' :: rest => scan fuel false brackets depths rest
    | '\n' :: rest =>
      if brackets = 0 then do return .line :: (← scan fuel true 0 depths rest)
      else scan fuel false brackets depths rest
    | '#' :: rest => scan fuel false brackets depths (rest.dropWhile (· ≠ '\n'))
    | c :: rest =>
      if c ∈ [' ', '\t', '\r', '\x0c'] then scan fuel false brackets depths rest
      else do
        let (token, rest) ← next? cs
        let brackets := match token with
          | .sign s =>
            if s ∈ ["(", "[", "\x7b"] then brackets + 1
            else if s ∈ [")", "]", "\x7d"] then brackets - 1
            else brackets
          | _ => brackets
        return token :: (← scan fuel false brackets depths rest)

/-- The tokens of a script; nothing when it has none. -/
def ofText? (cs : List Char) : Option (List Token) := scan (2 * cs.length + 2) true 0 [] cs

end Token

end LanguageClient.Scripting
