import LanguageClient.Decimal.Places
import LanguageClient.Machine.Shell.Sum
import LanguageClient.Text.Digits

/-!
# Formats of shell scripts

What the commands that write texts make of their arguments: characters that a backslash stands for,
and directives that take an argument each.
-/

namespace LanguageClient.Shell

/-! ### Characters that a backslash stands for -/

/-- Characters by the letters that stand for them. -/
def escapes : List (Char × Char) := [
  ('\\', '\\'), ('a', '\x07'), ('b', '\x08'), ('e', '\x1b'), ('f', '\x0c'), ('n', '\n'),
  ('r', '\r'), ('t', '\t'), ('v', '\x0b')]

/-- The byte of some octal digits. -/
def octal (cs : List Char) : Char := Char.ofNat ((Text.readBase 8 0 cs).getD 0 % 256)

def octalDigits (cs : List Char) : List Char := cs.takeWhile fun c => (Text.digitIn 8 c).isSome

/-- What a backslash stands for together with what follows it. -/
def escape (cs : List Char) : Char × List Char :=
  match cs with
  | [] => ('\\', [])
  | c :: rest =>
    match escapes.lookup c with
    | some d => (d, rest)
    | none =>
      let digits := octalDigits ((c :: rest).take 3)
      if digits.isEmpty then ('\\', c :: rest) else (octal digits, (c :: rest).drop digits.length)

/-- A text with what its backslashes stand for, and whether it says that nothing is to follow. -/
def unescape : Nat → List Char → List Char × Bool
  | 0, _ | _, [] => ([], false)
  | _ + 1, '\\' :: 'c' :: _ => ([], true)
  | fuel + 1, '\\' :: '0' :: rest =>
    let digits := octalDigits (rest.take 3)
    let (more, last) := unescape fuel (rest.drop digits.length)
    (octal digits :: more, last)
  | fuel + 1, '\\' :: rest =>
    let (c, rest) := escape rest
    let (more, last) := unescape fuel rest
    (c :: more, last)
  | fuel + 1, c :: rest =>
    let (more, last) := unescape fuel rest
    (c :: more, last)

/-- What is written of words with a blank between them. -/
def echoed (args : List (List Char)) : List Char :=
  let bare := args.head? = some ['-', 'n']
  let text := List.intercalate [' '] (if bare then args.tail else args)
  let (text, last) := unescape (text.length + 1) text
  if bare || last then text else text ++ ['\n']

/-! ### Directives -/

/-- A directive: its flags, the least width, the most digits or characters, and its letter. -/
structure Directive where
  flags : List Char
  width : Nat
  precision : Option Nat
  letter : Char

/-- What a format has written, the arguments that it leaves, whether one was wrong, and whether
nothing is to follow. -/
structure Formatting where
  out : List Char
  args : List (List Char)
  wrong : Bool
  last : Bool

/-- Digits of a number in a base. -/
def digitsOf (base : Nat) (upper : Bool) (n : Nat) : List Char :=
  let digits := Nat.toDigits base n
  if upper then digits.map Char.toUpper else digits

/-- A text with blanks or zeros up to a width. -/
def padded (d : Directive) (zero : Bool) (sign digits : List Char) : List Char :=
  let size := sign.length + digits.length
  if '-' ∈ d.flags then sign ++ digits ++ List.replicate (d.width - size) ' '
  else if zero then sign ++ List.replicate (d.width - size) '0' ++ digits
  else List.replicate (d.width - size) ' ' ++ sign ++ digits

/-- A number as a directive writes it. -/
def numeral (d : Directive) (n : Int) : List Char :=
  let signed := d.letter = 'd' || d.letter = 'i'
  let size := if signed then n.natAbs else Sum.bits n
  let base := if d.letter = 'o' then 8 else if d.letter = 'x' || d.letter = 'X' then 16 else 10
  let digits := if size = 0 && d.precision = some 0 then [] else digitsOf base (d.letter = 'X') size
  let digits := List.replicate (d.precision.getD 0 - digits.length) '0' ++ digits
  let sign := if signed && n < 0 then ['-']
    else if signed && '+' ∈ d.flags then ['+']
    else if signed && ' ' ∈ d.flags then [' ']
    else if '#' ∈ d.flags && base = 16 && size ≠ 0 then ['0', d.letter]
    else if '#' ∈ d.flags && base = 8 && digits.head? ≠ some '0' then ['0']
    else []
  padded d ('0' ∈ d.flags && d.precision.isNone) sign digits

/-- The number that an argument is, and whether it is one as a whole. -/
def argument (cs : List Char) : Int × Bool :=
  match cs with
  | '\'' :: rest | '"' :: rest => ((rest.head?.map fun c => Int.ofNat c.toNat).getD 0, true)
  | cs =>
    let cs := cs.dropWhile (·.isWhitespace)
    let (negative, digits) := match cs with
      | '-' :: rest => (true, rest)
      | '+' :: rest => (false, rest)
      | cs => (false, cs)
    match Sum.number? digits with
    | some (n, rest) => (if negative then -n else n, rest.isEmpty)
    | none => (0, cs.isEmpty)

/-- The number with places that an argument is, and whether it is one as a whole. -/
def realArgument (cs : List Char) : Float × Bool :=
  let cs := cs.dropWhile (·.isWhitespace)
  let (negative, cs) := match cs with
    | '-' :: rest => (true, rest)
    | '+' :: rest => (false, rest)
    | cs => (false, cs)
  let whole := cs.takeWhile Char.isDigit
  let rest := cs.drop whole.length
  let (places, rest) := match rest with
    | '.' :: rest => (rest.takeWhile Char.isDigit, rest.dropWhile Char.isDigit)
    | rest => ([], rest)
  if whole.isEmpty && places.isEmpty then (0, cs.isEmpty)
  else
    let (down, digits) := match rest with
      | e :: '-' :: digits => (true, if e = 'e' || e = 'E' then digits else [])
      | e :: '+' :: digits => (false, if e = 'e' || e = 'E' then digits else [])
      | e :: digits => (false, if e = 'e' || e = 'E' then digits else [])
      | [] => (false, [])
    let own := digits.takeWhile Char.isDigit
    let power : Int := ((Text.readBase 10 0 own).getD 0 : Nat)
    let power := (if down then -power else power) - places.length
    -- more than that many zeros make no difference
    let power := max (-5000) (min 5000 power)
    let n := (Text.readBase 10 0 (whole ++ places)).getD 0
    let size := Float.ofScientific n (power < 0) power.natAbs
    let left := if own.isEmpty then rest else digits.drop own.length
    (if negative then -size else size, left.isEmpty)

/-- A number with places as a directive writes it. -/
def realText (d : Directive) (f : Float) : List Char :=
  let places := d.precision.getD 6
  let keep := '#' ∈ d.flags
  let body := match Decimal.strangeText? f with
    | some cs => cs
    | none =>
      match d.letter.toLower with
      | 'f' => Decimal.fixedText places f
      | 'e' => Decimal.scientificText places f
      | _ => Decimal.generalText places keep f
  let sign :=
    if Decimal.isNegative f then ['-']
    else if '+' ∈ d.flags then ['+']
    else if ' ' ∈ d.flags then [' ']
    else []
  padded d ('0' ∈ d.flags) sign (if d.letter.isUpper then body.map Char.toUpper else body)

/-- A directive read after its percent sign; a star takes its number from the arguments. -/
def directive? (cs : List Char) (args : List (List Char)) :
    Option (Directive × List Char × List (List Char)) := do
  let flags := cs.takeWhile (· ∈ ['#', '-', '+', ' ', '0'])
  let count (cs : List Char) (args : List (List Char)) : Int × List Char × List (List Char) :=
    match cs with
    | '*' :: rest => ((argument (args.head?.getD [])).1, rest, args.tail)
    | cs =>
      let digits := cs.takeWhile (·.isDigit)
      (Int.ofNat ((Text.readBase 10 0 digits).getD 0), cs.drop digits.length, args)
  let (width, cs, args) := count (cs.drop flags.length) args
  let flags := if width < 0 then '-' :: flags else flags
  let (precision, cs, args) := match cs with
    | '.' :: rest =>
      let (n, cs, args) := count rest args
      (if n < 0 then none else some n.toNat, cs, args)
    | cs => (none, cs, args)
  let letter :: rest := cs | none
  return (⟨flags, width.natAbs, precision, letter⟩, rest, args)

/-- What a directive writes of an argument; nothing when there is no such directive. -/
def Directive.write (d : Directive) (arg : Option (List Char)) : Option (List Char × Bool × Bool) :=
  let text (cs : List Char) : List Char :=
    padded d false [] (match d.precision with | some n => cs.take n | none => cs)
  match d.letter with
  | 's' => some (text (arg.getD []), false, false)
  | 'c' => some (padded d false [] [(arg.bind (·.head?)).getD '\x00'], false, false)
  | 'b' =>
    let cs := arg.getD []
    let (cs, last) := unescape (cs.length + 1) cs
    some (text cs, false, last)
  | c =>
    if c ∈ ['d', 'i', 'o', 'u', 'x', 'X'] then
      let (n, whole) := match arg with
        | some cs => argument cs
        | none => (0, true)
      let wrong := !whole || arg.any (·.isEmpty)
      some (numeral d (Sum.wrap n), wrong && arg.isSome && !(arg.any (·.isEmpty)), false)
    else if c ∈ ['f', 'F', 'e', 'E', 'g', 'G'] then
      let (f, whole) := realArgument (arg.getD [])
      some (realText d f, !whole, false)
    else none

/-- One pass over a format; nothing when it has a directive that there is not. -/
def formatOnce : Nat → List Char → Formatting → Option Formatting
  | 0, _, f | _, [], f => some f
  | fuel + 1, '\\' :: rest, f =>
    let (c, rest) := escape rest
    formatOnce fuel rest { f with out := f.out ++ [c] }
  | fuel + 1, '%' :: '%' :: rest, f => formatOnce fuel rest { f with out := f.out ++ ['%'] }
  | fuel + 1, '%' :: rest, f => do
    let (d, rest, args) ← directive? rest f.args
    let (text, wrong, last) ← d.write args.head?
    let f := ⟨f.out ++ text, args.tail, f.wrong || wrong, last⟩
    if last then return f else formatOnce fuel rest f
  | fuel + 1, c :: rest, f => formatOnce fuel rest { f with out := f.out ++ [c] }

/-- A format is used again as long as it takes arguments and there are some. -/
def formatted (cs : List Char) : Nat → Formatting → Option Formatting
  | 0, f => some f
  | fuel + 1, f => do
    let found ← formatOnce (cs.length + 1) cs f
    if found.last || found.args.isEmpty || found.args.length = f.args.length then return found
    else formatted cs fuel found

/-- What a format and arguments come to, and whether an argument was wrong. -/
def format? (cs : List Char) (args : List (List Char)) : Option (List Char × Bool) := do
  let f ← formatted cs (args.length + 1) ⟨[], args, false, false⟩
  return (f.out, f.wrong)

end LanguageClient.Shell
