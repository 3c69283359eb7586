import LanguageClient.Machine.Scripting.Numeral
import LanguageClient.Machine.Scripting.Value
import LanguageClient.Text.Upper

/-!
# Rows of characters and of bytes

Searching, cutting and joining work alike for texts and for bytes.
-/

namespace LanguageClient.Scripting

namespace Row

variable {α : Type} [BEq α]

/-- Where a part first occurs in a row. -/
def find? (part : List α) : List α → Option Nat
  | [] => if part.isEmpty then some 0 else none
  | a :: rest =>
    if part.isPrefixOf (a :: rest) then some 0 else (find? part rest).map (· + 1)

/-- Where a part last occurs in a row. -/
def findLast? (part row : List α) : Option Nat :=
  (find? part.reverse row.reverse).map fun n => row.length - n - part.length

/-- A row cut at each occurrence of a part, up to some number of times. -/
def cut (part : List α) : Nat → Nat → List α → List (List α)
  | 0, _, row | _, 0, row => [row]
  | fuel + 1, count + 1, row =>
    match find? part row with
    | some n => row.take n :: cut part fuel count (row.drop (n + part.length))
    | none => [row]

/-- The same from the end. -/
def cutLast (part : List α) (count : Nat) (row : List α) : List (List α) :=
  ((cut part.reverse (row.length + 1) count row.reverse).map List.reverse).reverse

/-- How often a part occurs. -/
def count (part row : List α) : Nat :=
  if part.isEmpty then row.length + 1 else (cut part (row.length + 1) row.length row).length - 1

/-- A row with another part in place of each occurrence of one, up to some number of times. -/
def replace (part other : List α) (limit : Nat) (row : List α) : List α :=
  if part.isEmpty then
    let rec between : Nat → List α → List α
      | 0, row => row
      | _, [] => other
      | n + 1, a :: rest => other ++ a :: between n rest
    between limit row
  else List.intercalate other (cut part (row.length + 1) limit row)

/-- The words of a row, with blanks between them. -/
def words (blank : α → Bool) : Nat → Nat → List α → List (List α)
  | 0, _, _ => []
  | fuel + 1, count, row =>
    match row.dropWhile blank with
    | [] => []
    | row =>
      match count with
      | 0 => [row]
      | count + 1 =>
        let word := row.takeWhile (!blank ·)
        word :: words blank fuel count (row.drop word.length)

/-- The words of a row where those at the beginning may stay together. -/
def wordsLast (blank : α → Bool) (count : Nat) (row : List α) : List (List α) :=
  ((words blank (row.length + 1) count row.reverse).map List.reverse).reverse

def dropEnd (p : α → Bool) (row : List α) : List α := (row.reverse.dropWhile p).reverse

/-- The lines of a row; `size` says how many items end a line at the front of a row, if any do. -/
def lines (size : List α → Nat) (keep : Bool) : Nat → List α → List α → List (List α)
  | 0, _, _ => []
  | _, line, [] => if line.isEmpty then [] else [line.reverse]
  | fuel + 1, line, a :: rest =>
    match size (a :: rest) with
    | 0 => lines size keep fuel (a :: line) rest
    | n =>
      let own := line.reverse ++ (if keep then (a :: rest).take n else [])
      own :: lines size keep fuel [] ((a :: rest).drop n)

/-- The place of an index in a row of some length, which counts from the end if it is negative. -/
def place? (length : Nat) (i : Int) : Option Nat :=
  let i := if i < 0 then i + length else i
  if 0 ≤ i && i < length then some i.toNat else none

/-- A bound of a part of a row. -/
def bound (length : Nat) (usual : Int) : Option Int → Int
  | none => usual
  | some i =>
    let i := if i < 0 then i + length else i
    if i < 0 then 0 else if (length : Int) < i then length else i

/-- The places of a part of a row, from a first one up to a last one, in steps. -/
def places (length : Nat) (first last : Option Int) (step : Int) : List Nat :=
  if 0 < step then
    let a := bound length 0 first
    let b := bound length length last
    let count := if a < b then (b - a + step - 1) / step else 0
    (List.range count.toNat).map fun (i : Nat) => (a + step * i).toNat
  else
    let clamp (i : Int) : Int :=
      let i := if i < 0 then i + length else i
      if i < 0 then -1 else if (length : Int) ≤ i then (length : Int) - 1 else i
    let a := (first.map clamp).getD ((length : Int) - 1)
    let b := (last.map clamp).getD (-1)
    let count := if b < a then (a - b - step - 1) / (-step) else 0
    (List.range count.toNat).map fun (i : Nat) => (a + step * i).toNat

def slice (row : List α) (first last : Option Int) (step : Int) : List α :=
  if step = 1 then
    let a := bound row.length 0 first
    let b := bound row.length row.length last
    (row.take b.toNat).drop a.toNat
  else
    let items := row.toArray
    (places row.length first last step).filterMap fun i => items[i]?

end Row

/-! ### Characters -/

/-- Whether a character is a blank of a text: those of Unicode, and some that part records. -/
def isSpace (c : Char) : Bool := Text.isBlank c || (0x1c ≤ c.toNat && c.toNat ≤ 0x1f)

/-- How many characters end a line at the front of a text. -/
def lineEnd : List Char → Nat
  | '\r' :: '\n' :: _ => 2
  | c :: _ =>
    let n := c.toNat
    if (0x0a ≤ n && n ≤ 0x0d) || (0x1c ≤ n && n ≤ 0x1e) || n = 0x85 || n = 0x2028 ||
        n = 0x2029 then 1
    else 0
  | [] => 0

def isByteSpace (b : UInt8) : Bool := b = 0x20 || (0x09 ≤ b && b ≤ 0x0d)

def byteLineEnd : List UInt8 → Nat
  | 0x0d :: 0x0a :: _ => 2
  | b :: _ => if b = 0x0a || b = 0x0d then 1 else 0
  | [] => 0

/-- The lower-case form of a character. -/
def lowered (c : Char) : Char :=
  if c.toNat < 0x80 then c.toLower
  else
    let n := c.toNat
    if (0xc0 ≤ n && n ≤ 0xde && n ≠ 0xd7) || (0x391 ≤ n && n ≤ 0x3a9) ||
        (0x410 ≤ n && n ≤ 0x42f) then
      Char.ofNat (n + 32)
    else if 0x400 ≤ n && n ≤ 0x40f then Char.ofNat (n + 80)
    else c

/-- Whether a character is a letter; beyond ASCII all that are no blanks count. -/
def isLetter (c : Char) : Bool := c.isAlpha || (0xaa ≤ c.toNat && !isSpace c)

/-- A text with each word beginning with a capital letter. -/
def titled (begun : Bool) : List Char → List Char
  | [] => []
  | c :: rest =>
    (if begun then [lowered c] else Text.upperChar c) ++ titled (isLetter c) rest

/-- Whether all letters of a text are of one case, and there are some. -/
def isCased (upper : Bool) (cs : List Char) : Bool :=
  let isUpper (c : Char) : Bool := lowered c ≠ c
  let isLower (c : Char) : Bool := Text.upperChar c ≠ [c]
  let good (c : Char) : Bool := if upper then isUpper c else isLower c
  let bad (c : Char) : Bool := if upper then isLower c else isUpper c
  cs.any good && !cs.any bad

def isNameText (cs : List Char) : Bool :=
  match cs with
  | c :: rest => (isLetter c || c = '_') && rest.all fun c => isLetter c || c = '_' || c.isDigit
  | [] => false

/-! ### Written forms -/

/-- A character of a text as it is written between quotes. -/
def writtenChar (quote c : Char) : List Char :=
  let n := c.toNat
  let hex (width : Nat) : List Char :=
    let digits := Nat.toDigits 16 n
    List.replicate (width - digits.length) '0' ++ digits
  if c = quote || c = '\\' then ['\\', c]
  else if c = '\n' then ['\\', 'n']
  else if c = '\r' then ['\\', 'r']
  else if c = '\t' then ['\\', 't']
  else if n < 0x20 || (0x7f ≤ n && n ≤ 0xa0) || n = 0xad then '\\' :: 'x' :: hex 2
  else if n = 0x1680 || (0x2000 ≤ n && n ≤ 0x200f) || (0x2028 ≤ n && n ≤ 0x202f) ||
      n = 0x205f || n = 0x3000 || n = 0xfeff then
    '\\' :: 'u' :: hex 4
  else [c]

/-- The quote that a text is written with: a double one if it has single ones only. -/
def quoteOf (cs : List Char) : Char := if '\'' ∈ cs && '"' ∉ cs then '"' else '\''

/-- A text as it is written in a script. -/
def writtenText (cs : List Char) : List Char :=
  let q := quoteOf cs
  q :: cs.flatMap (writtenChar q) ++ [q]

/-- A character as it is written where only those of the oldest set can be. -/
def plainCode (c : Char) : List Char :=
  let n := c.toNat
  let digits := Nat.toDigits 16 n
  let code (mark : Char) (width : Nat) : List Char :=
    '\\' :: mark :: List.replicate (width - digits.length) '0' ++ digits
  if n < 0x80 then [c]
  else if n < 0x100 then code 'x' 2
  else if n < 0x10000 then code 'u' 4
  else code 'U' 8

def writtenByte (quote : Char) (b : UInt8) : List Char :=
  let n := b.toNat
  if n < 0x20 || 0x7f ≤ n then
    if n = 0x0a || n = 0x0d || n = 0x09 then writtenChar quote (Char.ofNat n)
    else
      let digits := Nat.toDigits 16 n
      '\\' :: 'x' :: List.replicate (2 - digits.length) '0' ++ digits
  else writtenChar quote (Char.ofNat n)

def writtenBytes (bs : List UInt8) : List Char :=
  let q := quoteOf (bs.map fun b => Char.ofNat b.toNat)
  'b' :: q :: bs.flatMap (writtenByte q) ++ [q]

/-! ### Methods of texts and bytes -/

/-- What methods need to know of the two kinds of rows. -/
structure Kind (α : Type) where
  /-- The row that a value is. -/
  row? : Value → Option (List α)
  value : List α → Value
  blank : α → Bool
  lineEnd : List α → Nat
  space : α
  /-- What an argument that is none should have been. -/
  expected : String

def textKind : Kind Char where
  row? := fun
    | .text cs => some cs
    | _ => none
  value := .text
  blank := isSpace
  lineEnd := lineEnd
  space := ' '
  expected := "must be str"

def bytesKind : Kind UInt8 where
  row? := fun
    | .bytes bs => some bs
    | .int n => if 0 ≤ n && n < 256 then some [n.toNat.toUInt8] else none
    | _ => none
  value := .bytes
  blank := isByteSpace
  lineEnd := byteLineEnd
  space := 0x20
  expected := "a bytes-like object is required"

/-- Arguments by the names of parameters: by place first, then by name. -/
def argument? (names : List String) (args : List Value) (named : Attributes) (name : String) :
    Option Value :=
  match (names.findIdx? (· = name)).bind fun i => args[i]? with
  | some v => some v
  | none => named.lookup name

section

variable {α : Type} [BEq α] (k : Kind α)

/-- The row that an argument is. -/
def Kind.asRow (v : Value) : Doing (List α) := do
  match k.row? v with
  | some row => return row
  | none =>
    fault "TypeError" (k.expected ++ ", not " ++ (← kindName v))

/-- Rows that an argument offers: itself, or those of a tuple. -/
def Kind.asRows (v : Value) : Doing (List (List α)) := do
  match v with
  | .tuple items => items.mapM k.asRow
  | v => return [← k.asRow v]

/-- A whole number that an argument is; nothing if it is none at all. -/
def asInt? (v : Option Value) : Doing (Option Int) := do
  match v with
  | none | some .none => return none
  | some v =>
    match int? v with
    | some n => return some n
    | none =>
      fault "TypeError" ("'" ++ (← kindName v) ++ "' object cannot be interpreted as an integer")

/-- How often at most, where a negative number sets no bound. -/
def limitOf (size : Nat) (n : Option Int) : Nat :=
  match n with
  | some n => if n < 0 then size + 1 else n.toNat
  | none => size + 1

/-- A method that texts and bytes share; nothing if there is none of the name. -/
def rowMethod (row : List α) (name : String) (args : List Value) (named : Attributes) :
    Option (Doing Value) :=
  let arg (i : Nat) : Option Value := args[i]?
  let rowsOf (i : Nat) : Doing (List α) := k.asRow (args.getD i .none)
  let part : Doing (List α × Nat) := do
    let first ← asInt? (arg 1)
    let last ← asInt? (arg 2)
    let start := (Row.bound row.length 0 first).toNat
    return (Row.slice row first last 1, start)
  let ends (good : List α → List α → Bool) : Doing Value := do
    let options ← k.asRows (args.getD 0 .none)
    let (row, _) ← part
    return .bool (options.any fun o => good o row)
  let search (find : List α → List α → Option Nat) : Doing (Option Nat) := do
    let sought ← rowsOf 0
    let (row, start) ← part
    return (find sought row).map (· + start)
  let index (found : Option Nat) : Value := .int ((found.map Int.ofNat).getD (-1))
  let needed (found : Option Nat) : Doing Value := do
    match found with
    | some n => return .int n
    | none => fault "ValueError" "substring not found"
  let strip (front back : Bool) : Doing Value := do
    let p : α → Bool ← match arg 0 with
      | none | some .none => pure k.blank
      | some v => do
        let set ← k.asRow v
        pure fun a => set.contains a
    let row := if front then row.dropWhile p else row
    return k.value (if back then Row.dropEnd p row else row)
  let split (last : Bool) : Doing Value := do
    let get := argument? ["sep", "maxsplit"] args named
    let limit := limitOf row.length (← asInt? (get "maxsplit"))
    let parts ← match get "sep" with
      | none | some .none =>
        pure (if last then Row.wordsLast k.blank limit row
          else Row.words k.blank (row.length + 1) limit row)
      | some v => do
        let sep ← k.asRow v
        if sep.isEmpty then fault "ValueError" "empty separator"
        pure (if last then Row.cutLast sep limit row else Row.cut sep (row.length + 1) limit row)
    newList (parts.map k.value)
  let widen (front back : Nat → Nat) : Doing Value := do
    let width ← asInt? (arg 0)
    let fill ← match arg 1 with
      | some v => k.asRow v
      | none => pure [k.space]
    let count := (width.getD 0).toNat - row.length
    let fill := fill.headD k.space
    return k.value (List.replicate (front count) fill ++ row ++ List.replicate (back count) fill)
  match name with
  | "startswith" => some (ends fun o row => o.isPrefixOf row)
  | "endswith" => some (ends fun o row => o.reverse.isPrefixOf row.reverse)
  | "find" => some do return index (← search Row.find?)
  | "rfind" => some do return index (← search Row.findLast?)
  | "index" => some do needed (← search Row.find?)
  | "rindex" => some do needed (← search Row.findLast?)
  | "count" => some do
    let sought ← rowsOf 0
    return .int (Row.count sought (← part).1)
  | "strip" => some (strip true true)
  | "lstrip" => some (strip true false)
  | "rstrip" => some (strip false true)
  | "split" => some (split false)
  | "rsplit" => some (split true)
  | "splitlines" => some do
    let keep ← match argument? ["keepends"] args named "keepends" with
      | some v => isTrue v
      | none => pure false
    newList ((Row.lines k.lineEnd keep (row.length + 1) [] row).map k.value)
  | "partition" => some do
    let sep ← rowsOf 0
    match Row.find? sep row with
    | some n =>
      return .tuple [k.value (row.take n), k.value sep, k.value (row.drop (n + sep.length))]
    | none => return .tuple [k.value row, k.value [], k.value []]
  | "rpartition" => some do
    let sep ← rowsOf 0
    match Row.findLast? sep row with
    | some n =>
      return .tuple [k.value (row.take n), k.value sep, k.value (row.drop (n + sep.length))]
    | none => return .tuple [k.value [], k.value [], k.value row]
  | "replace" => some do
    let sought ← rowsOf 0
    let other ← rowsOf 1
    return k.value (Row.replace sought other (limitOf row.length (← asInt? (arg 2))) row)
  | "removeprefix" => some do
    let cut ← rowsOf 0
    return k.value (if cut.isPrefixOf row then row.drop cut.length else row)
  | "removesuffix" => some do
    let cut ← rowsOf 0
    let good := !cut.isEmpty && cut.reverse.isPrefixOf row.reverse
    return k.value (if good then row.take (row.length - cut.length) else row)
  | "ljust" => some (widen (fun _ => 0) id)
  | "rjust" => some (widen id fun _ => 0)
  | "center" => some do
    let width := ((← asInt? (arg 0)).getD 0).toNat
    let extra (n : Nat) : Nat := n % 2 * (width % 2)
    widen (fun n => n / 2 + extra n) fun n => n - (n / 2 + extra n)
  | "isspace" => some (return .bool (!row.isEmpty && row.all k.blank))
  | _ => none

end

/-- How a text becomes bytes. -/
def encodedAs (encoding : List Char) (cs : List Char) : Doing (List UInt8) := do
  let name := String.ofList ((encoding.map Char.toLower).filter fun c => c ≠ '-' && c ≠ '_')
  let limit? : Option Nat := if name = "ascii" || name = "usascii" then some 0x80
    else if name = "latin1" || name = "iso88591" then some 0x100
    else none
  match limit? with
  | some limit =>
    if cs.any fun c => limit ≤ c.toNat then
      fault "UnicodeEncodeError" ("'" ++ String.ofList encoding ++ "' codec can't encode character")
    return cs.map fun c => c.toNat.toUInt8
  | none =>
    if name ∈ ["utf8", "u8"] then return Json.utf8 (String.ofList cs)
    else if name = "utf16le" || name = "utf16" then
      let unit (n : Nat) : List UInt8 := [(n % 256).toUInt8, (n / 256).toUInt8]
      let units := cs.flatMap fun c =>
        let n := c.toNat
        if n < 0x10000 then unit n
        else unit (0xD800 + (n - 0x10000) / 0x400) ++ unit (0xDC00 + (n - 0x10000) % 0x400)
      return (if name = "utf16" then [0xff, 0xfe] else []) ++ units
    else fault "LookupError" ("unknown encoding: " ++ String.ofList encoding)

/-- How bytes become a text. -/
def decodedAs (encoding errors : List Char) (bs : List UInt8) : Doing (List Char) := do
  let name := String.ofList ((encoding.map Char.toLower).filter fun c => c ≠ '-' && c ≠ '_')
  let ascii := name = "ascii" || name = "usascii"
  if name = "latin1" || name = "iso88591" then return bs.map fun b => Char.ofNat b.toNat
  else if ascii || name ∈ ["utf8", "u8"] then
    match String.ofList errors with
    | "replace" => return (Text.Utf8.mend bs).toList
    | "ignore" => return (Text.Utf8.mend bs).toList.filter (· ≠ Text.Utf8.replacement)
    | _ =>
      if ascii && bs.any (0x80 ≤ ·) then
        fault "UnicodeDecodeError" "'ascii' codec can't decode byte"
      decoded bs
  else fault "LookupError" ("unknown encoding: " ++ String.ofList encoding)

/-- A method of texts that needs nothing but its arguments. -/
def textMethod (cs : List Char) (name : String) (args : List Value) (named : Attributes) :
    Option (Doing Value) :=
  let is (good : Char → Bool) : Option (Doing Value) :=
    some (return .bool (!cs.isEmpty && cs.all good))
  match name with
  | "upper" => some (return .text (Text.upper cs))
  | "lower" | "casefold" => some (return .text (cs.map lowered))
  | "title" => some (return .text (titled false cs))
  | "capitalize" =>
    some (return .text (Text.upper (cs.take 1) ++ (cs.drop 1).map lowered))
  | "swapcase" => some (return .text (cs.flatMap fun c =>
    if lowered c ≠ c then [lowered c] else Text.upperChar c))
  | "isdigit" | "isnumeric" | "isdecimal" => is Char.isDigit
  | "isalpha" => is isLetter
  | "isalnum" => is fun c => isLetter c || c.isDigit
  | "isascii" => some (return .bool (cs.all fun c => c.toNat < 0x80))
  | "isprintable" =>
    let good (c : Char) : Bool := writtenChar ' ' c = [c] || c = '\\' || c = ' '
    some (return .bool (cs.all good))
  | "isupper" => some (return .bool (isCased true cs))
  | "islower" => some (return .bool (isCased false cs))
  | "isidentifier" => some (return .bool (isNameText cs))
  | "zfill" => some do
    let width := ((← asInt? args.head?).getD 0).toNat
    let (sign, digits) := match cs with
      | '-' :: rest => (['-'], rest)
      | '+' :: rest => (['+'], rest)
      | cs => ([], cs)
    return .text (sign ++ List.replicate (width - cs.length) '0' ++ digits)
  | "expandtabs" => some do
    let size := ((← asInt? args.head?).getD 8).toNat
    let rec go (column : Nat) : List Char → List Char
      | [] => []
      | '\t' :: rest =>
        let n := if size = 0 then 0 else size - column % size
        List.replicate n ' ' ++ go (column + n) rest
      | c :: rest => c :: go (if c = '\n' || c = '\r' then 0 else column + 1) rest
    return .text (go 0 cs)
  | "encode" => some do
    let encoding ← match argument? ["encoding", "errors"] args named "encoding" with
      | some v => textKind.asRow v
      | none => pure "utf-8".toList
    return .bytes (← encodedAs encoding cs)
  | name => rowMethod textKind cs name args named

/-- A method of bytes that needs nothing but its arguments. -/
def bytesMethod (bs : List UInt8) (name : String) (args : List Value) (named : Attributes) :
    Option (Doing Value) :=
  let ascii := bs.map fun b => Char.ofNat b.toNat
  let back (cs : List Char) : Value := .bytes (cs.map fun c => c.toNat.toUInt8)
  let is (good : Char → Bool) : Option (Doing Value) :=
    some (return .bool (!bs.isEmpty && ascii.all good))
  match name with
  | "upper" => some (return back (ascii.map Char.toUpper))
  | "lower" => some (return back (ascii.map Char.toLower))
  | "isdigit" => is Char.isDigit
  | "isalpha" => is Char.isAlpha
  | "isalnum" => is Char.isAlphanum
  | "hex" => some (return .text (bs.flatMap fun b =>
    let digits := Nat.toDigits 16 b.toNat
    List.replicate (2 - digits.length) '0' ++ digits))
  | "decode" => some do
    let get := argument? ["encoding", "errors"] args named
    let encoding ← match get "encoding" with
      | some v => textKind.asRow v
      | none => pure "utf-8".toList
    let errors ← match get "errors" with
      | some v => textKind.asRow v
      | none => pure "strict".toList
    return .text (← decodedAs encoding errors bs)
  | name => rowMethod bytesKind bs name args named

end LanguageClient.Scripting
