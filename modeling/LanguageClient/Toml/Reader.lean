import LanguageClient.Toml.Basic
import LanguageClient.Toml.Quoted
import LanguageClient.Toml.Scalar

/-!
# Reading TOML

A document is a sequence of lines: headers, assignments and blank ones. It is read into a JSON
value; only whether it can be read is told, not why it cannot. Loops are bounded by fuel, for which
the length of the document is enough.
-/

namespace LanguageClient.Toml

/-! ### Between the words -/

/-- The rest of a line may hold blanks and a comment; what follows it. -/
def endLine (cs : List Char) : Option (List Char) :=
  let rest := match dropBlanks cs with
    | '#' :: comment => comment.dropWhile isPlain
    | rest => rest
  if rest.isEmpty then some [] else newline? rest

/-- Without blanks, comments and ends of lines at the front. -/
def dropGap : Nat → List Char → List Char
  | 0, cs => cs
  | fuel + 1, cs =>
    let rest := dropBlanks cs
    match endLine rest with
    | some (c :: rest) => dropGap fuel (c :: rest)
    | some [] => []
    | none => rest

/-! ### Keys -/

/-- Characters of keys without quotes. -/
def isKeyChar (c : Char) : Bool := c.isAlphanum || c = '_' || c = '-'

/-- A key without dots. -/
def simpleKey (fuel : Nat) (cs : List Char) : Option (String × List Char) := do
  let (key, rest) ← match cs with
    | '"' :: rest => basic fuel rest
    | '\'' :: rest => literal rest
    | cs =>
      let key := cs.takeWhile isKeyChar
      if key.isEmpty then none else some (key, cs.dropWhile isKeyChar)
  return (String.ofList key, rest)

/-- Values are nested no deeper than this, and the path to a key is shorter. -/
def maxDepth : Nat := 80

/-- The simple keys that a key is made of. -/
def keyParts : Nat → List Char → Option (List String × List Char)
  | 0, _ => none
  | fuel + 1, cs => do
    let (key, rest) ← simpleKey fuel cs
    match dropBlanks rest with
    | '.' :: rest =>
      let (parts, rest) ← keyParts fuel (dropBlanks rest)
      return (key :: parts, rest)
    | rest => return ([key], rest)

/-- A key: the path to it and its last part. -/
def dottedKey (fuel : Nat) (cs : List Char) : Option ((List String × String) × List Char) := do
  let (parts, rest) ← keyParts fuel cs
  if maxDepth < parts.length then none
  else return ((parts.dropLast, parts.getLastD ""), rest)

/-! ### Values -/

mutual

/-- A value, which may hold others down to a depth. -/
def value : Nat → Nat → List Char → Option (Json × List Char)
  | 0, _, _ => none
  | fuel + 1, depth, cs =>
    match cs, depth with
    | '[' :: _, 0 | '\x7b' :: _, 0 => none
    | '[' :: rest, depth + 1 => do
      let (items, rest) ← items fuel depth (dropGap fuel rest)
      return (.arr items, rest)
    | '\x7b' :: rest, depth + 1 => do
      let (entries, rest) ← inlineEntries fuel depth [] (dropGap fuel rest)
      return (.obj (fields entries), rest)
    | '"' :: _, _ | '\'' :: _, _ => do
      let (text, rest) ← quoted fuel cs
      return (.str (String.ofList text), rest)
    | cs, _ => word cs

/-- The items of an array and its closing bracket. -/
def items : Nat → Nat → List Char → Option (List Json × List Char)
  | 0, _, _ => none
  | _, _, ']' :: rest => some ([], rest)
  | fuel + 1, depth, cs => do
    let (item, rest) ← value fuel depth cs
    match dropGap fuel rest with
    | ',' :: rest =>
      let (more, rest) ← items fuel depth (dropGap fuel rest)
      return (item :: more, rest)
    | ']' :: rest => return ([item], rest)
    | _ => none

/-- The assignments of a table in braces, added to `entries`, and the closing brace. -/
def inlineEntries : Nat → Nat → Entries → List Char → Option (Entries × List Char)
  | 0, _, _, _ => none
  | _, _, entries, '\x7d' :: rest => some (entries, rest)
  | fuel + 1, depth, entries, cs => do
    let ((path, key), rest) ← dottedKey fuel cs
    let rest ← expect '=' (dropGap fuel rest)
    let (v, rest) ← value fuel depth (dropGap fuel rest)
    let entries ← assign [] path key v entries
    match dropGap fuel rest with
    | ',' :: rest => inlineEntries fuel depth entries (dropGap fuel rest)
    | '\x7d' :: rest => return (entries, rest)
    | _ => none

end

/-! ### Lines -/

/-- A document part way through: the header that the next assignment is under, and all so far. -/
structure Document where
  header : List String
  root : Entries

/-- A line of a document, and what follows it. -/
def line (fuel : Nat) (d : Document) (cs : List Char) : Option (Document × List Char) :=
  match dropBlanks cs with
  | '[' :: '[' :: rest => do
    let ((path, key), rest) ← dottedKey fuel (dropBlanks rest)
    let rest ← expect ']' (← expect ']' (dropBlanks rest))
    return (⟨path ++ [key], ← openNext path key d.root⟩, ← endLine rest)
  | '[' :: rest => do
    let ((path, key), rest) ← dottedKey fuel (dropBlanks rest)
    let rest ← expect ']' (dropBlanks rest)
    return (⟨path ++ [key], ← openTable path key d.root⟩, ← endLine rest)
  | rest =>
    match endLine rest with
    | some rest => some (d, rest)
    | none => do
      let ((path, key), rest) ← dottedKey fuel rest
      let rest ← expect '=' (dropBlanks rest)
      let (v, rest) ← value fuel maxDepth (dropBlanks rest)
      return ({ d with root := ← assign d.header path key v d.root }, ← endLine rest)

/-- The lines of a document. -/
def lines : Nat → Document → List Char → Option Document
  | _, d, [] => some d
  | 0, _, _ => none
  | fuel + 1, d, cs => do
    let (d, rest) ← line (cs.length + 1) d cs
    lines fuel d rest

/-- Without the mark that a text may begin with. -/
def dropMark : List Char → List Char
  | '\uFEFF' :: rest => rest
  | cs => cs

/-- The value that a document stands for. -/
def parse (text : List Char) : Option Json := do
  let cs := dropMark text
  let d ← lines (cs.length + 1) ⟨[], []⟩ cs
  return .obj (fields d.root)

end LanguageClient.Toml
