import LanguageClient.Decimal.Places
import LanguageClient.Text.Blank
import LanguageClient.Text.Digits

/-!
# Numbers as scripts write them

The texts of whole numbers and of binary64 numbers, and formats that say how wide a text is to be
and how many places a number has.
-/

namespace LanguageClient.Scripting

/-! ### Texts of numbers -/

def intText (n : Int) : List Char := (Int.repr n).toList

/-- The fewest digits of a size that read back: positional from `0.0001` up to below `10 ^ 16`. -/
def shortestText (f : Float) : List Char :=
  match Decimal.Binary.ofBits f.toBits with
  | none => "0.0".toList
  | some b =>
    let d := b.shortest
    let digits := Nat.toDigits 10 d.digits
    let lead : Int := d.exponent + digits.length - 1
    if -4 ≤ lead && lead < 16 then
      if 0 ≤ d.exponent then digits ++ List.replicate d.exponent.toNat '0' ++ ['.', '0']
      else Decimal.pointed d.digits (-d.exponent).toNat
    else
      let more := digits.drop 1
      digits.take 1 ++ (if more.isEmpty then [] else '.' :: more) ++ 'e' :: Decimal.exponentText lead

/-- The text of a number. -/
def doubleText (f : Float) : List Char :=
  let sign := if Decimal.isNegative f && !f.isNaN then ['-'] else []
  sign ++ (Decimal.strangeText? f).getD (shortestText f)

/-! ### Numbers of texts -/

/-- Digits with single underscores between them. -/
def plainDigits? (base : Nat) (cs : List Char) : Option (List Char) :=
  let rec go (after : Bool) : List Char → Option (List Char)
    | [] => if after then some [] else none
    | '_' :: rest => if after then go false rest else none
    | c :: rest => do return c :: (← go true rest)
  (go false cs).filter fun cs => cs.all fun c =>
    let value := if c.isDigit then c.toNat - 48 else c.toLower.toNat - 87
    c.isAlphanum && value < base

/-- The value of digits in a base of up to thirty-six. -/
def valueOf (base : Nat) (cs : List Char) : Nat :=
  cs.foldl (fun n c => n * base + (if c.isDigit then c.toNat - 48 else c.toLower.toNat - 87)) 0

/-- The sign of a number and what follows it. -/
def signOf : List Char → Bool × List Char
  | '-' :: rest => (true, rest)
  | '+' :: rest => (false, rest)
  | cs => (false, cs)

/-- The whole number that a text is, in a base; base zero is told by the first digits. -/
def intOf? (base : Nat) (cs : List Char) : Option Int := do
  let (negative, cs) := signOf (Text.trim cs)
  let (base, cs) := match cs with
    | '0' :: x :: rest =>
      let told := if x = 'x' || x = 'X' then 16 else if x = 'o' || x = 'O' then 8
        else if x = 'b' || x = 'B' then 2 else 0
      if told ≠ 0 && (base = told || base = 0) then
        (told, if rest.head? = some '_' then rest.tail else rest)
      else (if base = 0 then 10 else base, cs)
    | cs => (if base = 0 then 10 else base, cs)
  let digits ← plainDigits? base cs
  let n := Int.ofNat (valueOf base digits)
  return if negative then -n else n

/-- The number that a text is. -/
def doubleOf? (cs : List Char) : Option Float := do
  let (negative, cs) := signOf (Text.trim cs)
  let signed (f : Float) : Float := if negative then -f else f
  let low := String.ofList (cs.map Char.toLower)
  if low = "nan" then return 0.0 / 0.0
  else if low = "inf" || low = "infinity" then return signed (1.0 / 0.0)
  else
    let mantissa := cs.takeWhile fun c => c ≠ 'e' && c ≠ 'E'
    let power := cs.drop mantissa.length
    let whole := mantissa.takeWhile (· ≠ '.')
    let places := (mantissa.drop whole.length).drop 1
    if whole.isEmpty && places.isEmpty then none
    let whole ← if whole.isEmpty then some [] else plainDigits? 10 whole
    let places ← if places.isEmpty then some [] else plainDigits? 10 places
    let exponent : Int ← match power with
      | [] => some 0
      | _ :: rest =>
        let (down, digits) := signOf rest
        (plainDigits? 10 digits).map fun ds =>
          if down then -(Int.ofNat (valueOf 10 ds)) else Int.ofNat (valueOf 10 ds)
    let scale := exponent - places.length
    -- more than that many zeros make no difference
    let scale := if scale < -5000 then -5000 else if 5000 < scale then 5000 else scale
    return signed (Float.ofScientific (valueOf 10 (whole ++ places)) (scale < 0) scale.natAbs)

/-! ### Formats -/

/-- How a value is laid out. -/
structure Layout where
  fill : Char
  align : Option Char
  sign : Char
  alternate : Bool
  width : Nat
  group : Option Char
  precision : Option Nat
  kind : Option Char

namespace Layout

def usual : Layout := ⟨' ', none, '-', false, 0, none, none, none⟩

def isAlign (c : Char) : Bool := c ∈ ['<', '>', '^', '=']

/-- A layout from its text. -/
def ofText? (cs : List Char) : Option Layout := do
  let (fill, align, cs) := match cs with
    | f :: a :: rest =>
      if isAlign a then (f, some a, rest)
      else if isAlign f then (' ', some f, a :: rest)
      else (' ', none, cs)
    | [a] => if isAlign a then (' ', some a, []) else (' ', none, cs)
    | [] => (' ', none, [])
  let (sign, cs) := match cs with
    | '+' :: rest => ('+', rest)
    | '-' :: rest => ('-', rest)
    | ' ' :: rest => (' ', rest)
    | cs => ('-', cs)
  let (alternate, cs) := match cs with
    | '#' :: rest => (true, rest)
    | cs => (false, cs)
  let (fill, align, cs) := match cs with
    | '0' :: rest => (if align.isNone then '0' else fill, align <|> some '=', rest)
    | cs => (fill, align, cs)
  let digits := cs.takeWhile (·.isDigit)
  let cs := cs.drop digits.length
  let (group, cs) := match cs with
    | ',' :: rest => (some ',', rest)
    | '_' :: rest => (some '_', rest)
    | cs => (none, cs)
  let (precision, cs) ← match cs with
    | '.' :: rest =>
      let places := rest.takeWhile (·.isDigit)
      if places.isEmpty then none else some (some (valueOf 10 places), rest.drop places.length)
    | cs => some (none, cs)
  match cs with
  | [] => return ⟨fill, align, sign, alternate, valueOf 10 digits, group, precision, none⟩
  | [k] => return ⟨fill, align, sign, alternate, valueOf 10 digits, group, precision, some k⟩
  | _ => none

/-- A text of a width, with its sign where it belongs. -/
def pad (l : Layout) (usual : Char) (sign body : List Char) : List Char :=
  let count := l.width - (sign.length + body.length)
  let fill (n : Nat) : List Char := List.replicate n l.fill
  match l.align.getD usual with
  | '<' => sign ++ body ++ fill count
  | '^' => fill (count / 2) ++ sign ++ body ++ fill (count - count / 2)
  | '=' => sign ++ fill count ++ body
  | _ => fill count ++ sign ++ body

/-- Digits with a mark after every so many of them, from the right. -/
def grouped (mark : Option Char) (size : Nat) (cs : List Char) : List Char :=
  match mark with
  | none => cs
  | some m =>
    let rec go : Nat → List Char → List Char
      | _, [] => []
      | n, c :: rest => if n = size then m :: c :: go 1 rest else c :: go (n + 1) rest
    (go 0 cs.reverse).reverse

def signText (l : Layout) (negative : Bool) : List Char :=
  if negative then ['-'] else if l.sign = '-' then [] else [l.sign]

/-- A text in a layout; nothing when the layout is none for texts. -/
def text? (l : Layout) (cs : List Char) : Option (List Char) :=
  if l.kind.any (· ≠ 's') || l.align = some '=' && l.fill ≠ '0' then none
  else
    let align := if l.align = some '=' then some '<' else l.align
    some ({ l with align }.pad '<' [] (match l.precision with | some n => cs.take n | none => cs))

/-- A number that is not whole in a layout. -/
def double? (l : Layout) (f : Float) : Option (List Char) :=
  let negative := Decimal.isNegative f && !f.isNaN
  let kind := l.kind.getD 'r'
  let percent := kind = '%'
  let size := if percent then f * 100 else f
  let places := l.precision.getD 6
  let body? : Option (List Char) :=
    match Decimal.strangeText? f with
    | some cs => some cs
    | none =>
      match kind.toLower with
      | 'f' | '%' => some (Decimal.fixedText places size)
      | 'e' => some (Decimal.scientificText places size)
      | 'g' | 'n' => some (Decimal.generalText places l.alternate size)
      | 'r' =>
        match l.precision with
        | none => some (shortestText size)
        | some n =>
          let cs := Decimal.generalText n false size
          some (if '.' ∈ cs || 'e' ∈ cs then cs else cs ++ ['.', '0'])
      | _ => none
  body?.map fun body =>
    let body := if kind.isUpper then body.map Char.toUpper else body
    let whole := body.takeWhile (·.isDigit)
    let body := grouped l.group 3 whole ++ body.drop whole.length
    l.pad '>' (l.signText negative) (if percent then body ++ ['%'] else body)

/-- A whole number in a layout. -/
def int? (l : Layout) (n : Int) : Option (List Char) :=
  let sign := l.signText (n < 0)
  let based (base size : Nat) (mark : List Char) (upper : Bool) : List Char :=
    let digits := Nat.toDigits base n.natAbs
    let digits := grouped l.group size (if upper then digits.map Char.toUpper else digits)
    l.pad '>' (sign ++ (if l.alternate then mark else [])) digits
  match l.kind with
  | none | some 'd' | some 'n' => if l.precision.isSome then none else some (based 10 3 [] false)
  | some 'x' => some (based 16 4 ['0', 'x'] false)
  | some 'X' => some (based 16 4 ['0', 'X'] true)
  | some 'o' => some (based 8 4 ['0', 'o'] false)
  | some 'b' => some (based 2 4 ['0', 'b'] false)
  | some 'c' => some (l.pad '<' [] [Char.ofNat n.toNat])
  | some _ => l.double? (Float.ofInt n)

end Layout

end LanguageClient.Scripting
