/-!
# Classes of characters

Ranges of the oldest characters under the names that patterns give them.
-/

namespace LanguageClient.Text

/-- Ranges of characters by their names. -/
def classes : List (String × List (Char × Char)) := [
  ("alnum", [('0', '9'), ('A', 'Z'), ('a', 'z')]), ("alpha", [('A', 'Z'), ('a', 'z')]),
  ("digit", [('0', '9')]), ("lower", [('a', 'z')]), ("upper", [('A', 'Z')]),
  ("space", [('\t', '\r'), (' ', ' ')]), ("blank", [('\t', '\t'), (' ', ' ')]),
  ("punct", [('!', '/'), (':', '@'), ('[', '\x60'), ('\x7b', '~')]),
  ("xdigit", [('0', '9'), ('A', 'F'), ('a', 'f')]), ("print", [(' ', '~')]),
  ("graph", [('!', '~')]), ("cntrl", [('\x00', '\x1f'), ('\x7f', '\x7f')])]

/-- The ranges of a class whose name stands before a colon and a bracket, and what follows. -/
def class? (cs : List Char) : Option (List (Char × Char) × List Char) := do
  let name := cs.takeWhile (· ≠ ':')
  let found ← classes.lookup (String.ofList name)
  match cs.drop name.length with
  | ':' :: ']' :: rest => return (found, rest)
  | _ => none

/-- Whether a character is in one of some ranges. -/
def inRanges (ranges : List (Char × Char)) (c : Char) : Bool :=
  ranges.any fun r => r.1 ≤ c && c ≤ r.2

end LanguageClient.Text
