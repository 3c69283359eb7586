import LanguageClient.Text.Digits

/-!
# Strings of TOML

Basic strings have escapes and literal ones do not; either may go over several lines between triple
quotes. A text is read from its front, and what follows the string is given back. Loops are bounded
by fuel, for which the length of the text is enough.
-/

namespace LanguageClient.Toml

/-- Characters that stand for themselves: no control characters but the tab. -/
def isPlain (c : Char) : Bool := c = '\t' || (0x20 ≤ c.toNat && c.toNat ≠ 0x7F)

def isBlank (c : Char) : Bool := c = ' ' || c = '\t'

def dropBlanks (cs : List Char) : List Char := cs.dropWhile isBlank

/-- What follows the end of a line, at which the text has to be. -/
def newline? : List Char → Option (List Char)
  | '\n' :: rest => some rest
  | '\r' :: '\n' :: rest => some rest
  | _ => none

/-- Without the ends of lines and the blanks at the front. -/
def dropSpace : Nat → List Char → List Char
  | 0, cs => cs
  | fuel + 1, cs =>
    match newline? (dropBlanks cs) with
    | some rest => dropSpace fuel rest
    | none => dropBlanks cs

/-! ### Escapes -/

/-- The character of a code in so many hexadecimal digits. -/
def coded (width : Nat) (cs : List Char) : Option (Char × List Char) := do
  if cs.length < width then none
  let code ← Text.readBase 16 0 (cs.take width)
  if code.isValidChar then return (Char.ofNat code, cs.drop width) else none

/-- The character of an escape, read after its backslash. -/
def escape : List Char → Option (Char × List Char)
  | 'b' :: rest => some ('\x08', rest)
  | 't' :: rest => some ('\t', rest)
  | 'n' :: rest => some ('\n', rest)
  | 'f' :: rest => some ('\x0c', rest)
  | 'r' :: rest => some ('\r', rest)
  | 'e' :: rest => some ('\x1b', rest)
  | '"' :: rest => some ('"', rest)
  | '\\' :: rest => some ('\\', rest)
  | 'x' :: rest => coded 2 rest
  | 'u' :: rest => coded 4 rest
  | 'U' :: rest => coded 8 rest
  | _ => none

/-! ### One line -/

/-- A basic string after its first quote. -/
def basic : Nat → List Char → Option (List Char × List Char)
  | 0, _ | _, [] => none
  | _, '"' :: rest => some ([], rest)
  | fuel + 1, '\\' :: rest => do
    let (c, rest) ← escape rest
    let (cs, rest) ← basic fuel rest
    return (c :: cs, rest)
  | fuel + 1, c :: rest => do
    if !isPlain c then none
    let (cs, rest) ← basic fuel rest
    return (c :: cs, rest)

/-- A literal string after its first quote. -/
def literal : List Char → Option (List Char × List Char)
  | [] => none
  | '\'' :: rest => some ([], rest)
  | c :: rest => do
    if !isPlain c then none
    let (cs, rest) ← literal rest
    return (c :: cs, rest)

/-! ### Several lines -/

/-- Up to two quotes that stand right before the closing three, read after those. -/
def extraQuotes (quote : Char) : List Char → List Char × List Char
  | a :: b :: rest =>
    if a = quote && b = quote then ([quote, quote], rest)
    else if a = quote then ([quote], b :: rest)
    else ([], a :: b :: rest)
  | [a] => if a = quote then ([quote], []) else ([], [a])
  | [] => ([], [])

/-- A basic string of several lines after its first quotes and the end of line that may follow them.
A backslash at the end of a line joins it with the next text. -/
def basicLines : Nat → List Char → Option (List Char × List Char)
  | 0, _ | _, [] => none
  | _, '"' :: '"' :: '"' :: rest => some (extraQuotes '"' rest)
  | fuel + 1, '\\' :: rest =>
    match newline? (dropBlanks rest) with
    | some rest => basicLines fuel (dropSpace fuel rest)
    | none => do
      let (c, rest) ← escape rest
      let (cs, rest) ← basicLines fuel rest
      return (c :: cs, rest)
  | fuel + 1, c :: rest =>
    match newline? (c :: rest) with
    | some rest => do
      let (cs, rest) ← basicLines fuel rest
      return ('\n' :: cs, rest)
    | none => do
      if !isPlain c then none
      let (cs, rest) ← basicLines fuel rest
      return (c :: cs, rest)

/-- A literal string of several lines after its first quotes and the end of line that may follow
them. -/
def literalLines : Nat → List Char → Option (List Char × List Char)
  | 0, _ | _, [] => none
  | _, '\'' :: '\'' :: '\'' :: rest => some (extraQuotes '\'' rest)
  | fuel + 1, c :: rest =>
    match newline? (c :: rest) with
    | some rest => do
      let (cs, rest) ← literalLines fuel rest
      return ('\n' :: cs, rest)
    | none => do
      if !isPlain c then none
      let (cs, rest) ← literalLines fuel rest
      return (c :: cs, rest)

/-- Without the end of line at the front, if there is one. -/
def dropNewline (cs : List Char) : List Char := (newline? cs).getD cs

/-- A string of any kind; nothing where no string begins. -/
def quoted (fuel : Nat) : List Char → Option (List Char × List Char)
  | '"' :: '"' :: '"' :: rest => basicLines fuel (dropNewline rest)
  | '\'' :: '\'' :: '\'' :: rest => literalLines fuel (dropNewline rest)
  | '"' :: rest => basic fuel rest
  | '\'' :: rest => literal rest
  | _ => none

end LanguageClient.Toml
