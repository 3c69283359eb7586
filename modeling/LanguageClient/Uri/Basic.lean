import LanguageClient.Uri.Host

/-!
# URIs

An absolute URI as far as documents need it: its scheme, its host and its path. Blanks and control
characters around it are dropped, and so are tabs and line ends within it. The paths of known
schemes have their dot segments resolved; a drive letter at the start of a path stays.
-/

namespace LanguageClient

structure Uri where
  scheme : List Char
  host : Uri.Host
  path : List Char
  deriving DecidableEq, Repr

namespace Uri

/-- What the rules know of a scheme. -/
inductive Kind
  | file
  | special
  | plain
  deriving DecidableEq, Repr

/-- The schemes besides files that have an authority and a path always. -/
def specialSchemes : List (List Char) :=
  ["http", "https", "ws", "wss", "ftp"].map String.toList

def Kind.of (scheme : List Char) : Kind :=
  if scheme = "file".toList then .file
  else if specialSchemes.contains scheme then .special
  else .plain

def isLetter (c : Char) : Bool := ('a' ≤ c && c ≤ 'z') || ('A' ≤ c && c ≤ 'Z')

def isSchemeChar (c : Char) : Bool :=
  isLetter c || c.isDigit || c = '+' || c = '-' || c = '.'

/-- A scheme in lower case, and what stands after its colon. -/
def splitScheme (cs : List Char) : Option (List Char × List Char) :=
  match cs with
  | [] => none
  | c :: _ =>
    if isLetter c then
      match cs.dropWhile isSchemeChar with
      | ':' :: rest => some ((cs.takeWhile isSchemeChar).map lower, rest)
      | _ => none
    else none

/-- Whether a character ends a segment; a backslash does where the scheme is known. -/
def isSlash (kind : Kind) (c : Char) : Bool := c = '/' || (c = '\\' && kind ≠ .plain)

/-- Whether a character ends the path. -/
def endsPath (c : Char) : Bool := c = '?' || c = '#'

/-- Whether a character ends the authority. -/
def endsAuthority (kind : Kind) (c : Char) : Bool := isSlash kind c || endsPath c

/-! ### Paths -/

/-- A letter and a colon or a bar. -/
def isDriveLetter : List Char → Bool
  | [a, b] => isLetter a && (b = ':' || b = '|')
  | _ => false

/-- A segment that stands for the directory itself. -/
def isSingleDot (s : List Char) : Bool :=
  ([".", "%2e"].map String.toList).contains (s.map lower)

/-- A segment that stands for the directory above. -/
def isDoubleDot (s : List Char) : Bool :=
  (["..", ".%2e", "%2e.", "%2e%2e"].map String.toList).contains (s.map lower)

/-- A path part way through: its directories in reverse, and whether a drive letter began it. -/
structure Walk where
  dirs : List (List Char)
  drive : Bool

/-- Whether a directory is a drive letter, perhaps with a backslash and more after it. -/
def isDrive : List Char → Bool
  | a :: b :: rest => isDriveLetter [a, b] && (rest.isEmpty || rest.head? = some '\\')
  | _ => false

/-- The directory above; a drive letter is not left. -/
def Walk.up (w : Walk) : Walk :=
  match w.dirs with
  | [] => w
  | d :: rest => if isDrive d then w else { w with dirs := rest }

/-- Add a directory, or the last segment of a path. -/
def Walk.push (w : Walk) (s : List Char) : Walk := { w with dirs := s :: w.dirs }

/-- A segment that begins a file path; a drive letter there ends in a colon. -/
def Walk.pushFirst (w : Walk) (s : List Char) : Walk :=
  match s with
  | [a, b] => if isDriveLetter [a, b] then ⟨[[a, ':']], true⟩ else w.push s
  | _ => w.push s

/-- A segment, `last` when no slash follows it. -/
def Walk.step (kind : Kind) (last : Bool) (w : Walk) (s : List Char) : Walk :=
  if isDoubleDot s then if last then w.up.push [] else w.up
  else if isSingleDot s then if last then w.push [] else w
  else if kind = .file && w.dirs.isEmpty then w.pushFirst s
  else w.push s

/-- Segments of which the last has no slash after it. -/
def Walk.run (kind : Kind) : Walk → List (List Char) → Walk
  | w, [] => w
  | w, [s] => w.step kind true s
  | w, s :: rest => run kind (w.step kind false s) rest

/-- A text cut at each slash. -/
def segments (kind : Kind) : List Char → List (List Char)
  | [] => [[]]
  | c :: rest =>
    if isSlash kind c then [] :: segments kind rest
    else match segments kind rest with
      | [] => [[c]]
      | s :: more => (c :: s) :: more

/-- Segments with a slash before each. -/
def joined (dirs : List (List Char)) : List Char := dirs.flatMap fun s => '/' :: s

/-- The segments of a path as they are written. -/
def encodedSegments (kind : Kind) (text : List Char) : List (List Char) :=
  (segments kind text).map fun s => encode pathSet (bytesOf s)

/-- A path from the text after the authority, up to the query. -/
def readPath (kind : Kind) (text : List Char) : List Char :=
  let text := text.takeWhile fun c => !endsPath c
  if kind = .plain && text.isEmpty then []
  else
    let text := match text with
      | c :: rest => if isSlash kind c then rest else text
      | [] => []
    joined (Walk.run kind ⟨[], false⟩ (encodedSegments kind text)).dirs.reverse

/-- Tabs and line ends, which are dropped within a URI. -/
def isBreak (c : Char) : Bool := c = '\t' || c = '\n' || c = '\r'

/-- A text without tabs and line ends. -/
def unbroken (cs : List Char) : List Char := cs.filter fun c => !isBreak c

/-- A text without its first `n` characters, tabs and line ends not counted. -/
def dropUnbroken : Nat → List Char → List Char
  | 0, cs => cs
  | _, [] => []
  | n + 1, c :: rest => if isBreak c then dropUnbroken (n + 1) rest else dropUnbroken n rest

/-- Whether a path begins with a drive letter that only a tab or line end parts from more. -/
def isSevered (text : List Char) : Bool :=
  match text.dropWhile isBreak with
  | letter :: rest =>
    match rest.dropWhile isBreak with
    | ':' :: gap :: rest =>
      isLetter letter && isBreak gap &&
        match rest.dropWhile isBreak with
        | c :: _ => !endsAuthority .file c
        | [] => false
    | _ => false
  | [] => false

/-- The walk of a file path. After a severed drive letter comes a slash. -/
def walkFile (text : List Char) : Walk :=
  let parts := encodedSegments .file (unbroken text)
  match isSevered text, parts with
  | true, (letter :: mark :: first) :: rest =>
    Walk.run .file ⟨[first, [letter, mark]], false⟩ rest
  | _, _ => Walk.run .file ⟨[], false⟩ parts

/-- The path of a file from the text after its first slash, up to the query, and whether a drive
letter began it. No empty segments stand at its start. -/
def readFilePath (text : List Char) : List Char × Bool :=
  let w := walkFile (text.takeWhile fun c => !endsPath c)
  ('/' :: (joined w.dirs.reverse).dropWhile (· = '/'), w.drive)

/-- The path of a URI that has no authority and no slash after its scheme. -/
def opaquePath (text : List Char) : List Char :=
  encode isControl (bytesOf (text.takeWhile fun c => !endsPath c))

/-! ### Authorities -/

/-- Whether a port is a number of sixteen bits, or left out. -/
def isPort (cs : List Char) : Bool :=
  cs.all (·.isDigit) && (cs.isEmpty || (Text.readBase 10 0 cs).any (· < 0x10000))

/-- A host up to its port; colons within brackets belong to it. -/
def spanHost : Bool → List Char → List Char × List Char
  | _, [] => ([], [])
  | inside, c :: rest =>
    if c = ':' && !inside then ([], c :: rest)
    else
      let inside := if c = '[' then true else if c = ']' then false else inside
      let (host, after) := spanHost inside rest
      (c :: host, after)

/-- User and password, and what follows the last `@`. -/
def splitUser (authority : List Char) : Option (List Char) × List Char :=
  let reversed := authority.reverse
  match reversed.dropWhile (· ≠ '@') with
  | [] => (none, authority)
  | _ :: user => (some user.reverse, (reversed.takeWhile (· ≠ '@')).reverse)

/-- Whether a user part names a user or a password. -/
def namesUser (user : List Char) : Bool := !(user.isEmpty || user = [':'])

/-- The host of an authority of a scheme other than `file`, and what stands after the port. -/
def readAuthority (kind : Kind) (authority : List Char) (pathFollows : Bool) :
    Option (Host × List Char) := do
  let (user, rest) := splitUser authority
  if user = some [] && rest.isEmpty && pathFollows then none
  let (name, port) := spanHost false rest
  let host ← if kind = .special then Host.ofText name else Host.ofOpaque name
  if host = .none && (!port.isEmpty || user.any namesUser) then none
  let digits := port.drop 1
  if !isPort (digits.takeWhile (· ≠ '\\')) then none
  return (host, digits.dropWhile (· ≠ '\\'))

/-- What stands after two slashes. -/
def readHierarchy (scheme : List Char) (kind : Kind) (text : List Char) : Option Uri := do
  let authority := text.takeWhile fun c => !endsAuthority kind c
  let rest := text.dropWhile fun c => !endsAuthority kind c
  let (host, left) ← readAuthority kind authority (!rest.isEmpty)
  return ⟨scheme, host, readPath kind (left ++ rest)⟩

/--
What stands after the scheme of a file, tabs and line ends included. Behind two slashes without a
host the slash before the path counts as an empty segment: a drive letter is then no first segment
and keeps its bar. So `file:///C|/` stays as it is while `file:/C|/` is read as `file:///C:/`; the URL
standard has a colon in both.
-/
def readFile (scheme text : List Char) : Option Uri := do
  match unbroken text with
  | a :: b :: rest =>
    if isSlash .file a && isSlash .file b then
      let name := rest.takeWhile fun c => !endsAuthority .file c
      if isDriveLetter name then
        return ⟨scheme, .none, (readFilePath (dropUnbroken 2 text)).1⟩
      let host ← if name.isEmpty then some Host.none else Host.ofText name
      let after := dropUnbroken (2 + name.length) text
      if host = .other then
        let slash := match unbroken after with
          | c :: _ => if isSlash .file c then 1 else 0
          | [] => 0
        let (path, drive) := readFilePath (dropUnbroken slash after)
        return ⟨scheme, if drive then .none else host, path⟩
      else return ⟨scheme, .none, (readFilePath after).1⟩
    else if isSlash .file a then
      return ⟨scheme, .none, (readFilePath (dropUnbroken 1 text)).1⟩
    else return ⟨scheme, .none, (readFilePath text).1⟩
  | [a] => return ⟨scheme, .none, (readFilePath (if isSlash .file a then [] else text)).1⟩
  | [] => return ⟨scheme, .none, (readFilePath []).1⟩

/-- What stands after a scheme that is not known. -/
def readPlain (scheme text : List Char) : Option Uri :=
  match text with
  | '/' :: '/' :: rest => readHierarchy scheme .plain rest
  | '/' :: _ => some ⟨scheme, .none, readPath .plain text⟩
  | _ => some ⟨scheme, .none, opaquePath text⟩

/-- Blanks and control characters, which are dropped around a URI. -/
def isPadding (c : Char) : Bool := c.toNat ≤ 0x20

/-- A text without what is dropped around it. -/
def strip (cs : List Char) : List Char :=
  ((cs.dropWhile isPadding).reverse.dropWhile isPadding).reverse

/-- The absolute URI that a text stands for. -/
def parse (text : List Char) : Option Uri := do
  let text := strip text
  let (scheme, rest) ← splitScheme (unbroken text)
  match Kind.of scheme with
  | .file => readFile scheme ((text.dropWhile (· ≠ ':')).drop 1)
  | .special => readHierarchy scheme .special (rest.dropWhile (isSlash .special))
  | .plain => readPlain scheme rest

end Uri

end LanguageClient
