import LanguageClient.Json.Basic
import LanguageClient.Text.Digits
import LanguageClient.Text.Parts

/-!
# Numbers and times of TOML

A scalar that is not quoted is a word of letters, digits and a few signs, read here as a whole.
-/

namespace LanguageClient.Toml

/-- Digits of a base with single underscores between them. -/
def digits (base : Nat) (cs : List Char) : Option (List Char) :=
  let parts := Text.splitOn '_' cs
  if parts.all (fun p => !p.isEmpty && p.all fun c => (Text.digitIn base c).isSome) then
    some parts.flatten
  else none

/-- A sign, and what follows it. -/
def signed : List Char → Bool × List Char
  | '+' :: rest => (false, rest)
  | '-' :: rest => (true, rest)
  | cs => (false, cs)

/-- Decimal digits without a zero in front. -/
def decimal (cs : List Char) : Option (List Char) :=
  if cs.head? = some '0' && cs ≠ ['0'] then none else digits 10 cs

/-! ### Integers -/

/-- The integers that can be represented at all. -/
def isRepresentable (n : Int) : Bool :=
  -0x80000000000000000000000000000000 ≤ n && n < 0x100000000000000000000000000000000

/-- An integer of any base. -/
def integer? : List Char → Option Int
  | '0' :: 'x' :: rest => (digits 16 rest).bind fun ds => Int.ofNat <$> Text.readBase 16 0 ds
  | '0' :: 'o' :: rest => (digits 8 rest).bind fun ds => Int.ofNat <$> Text.readBase 8 0 ds
  | '0' :: 'b' :: rest => (digits 2 rest).bind fun ds => Int.ofNat <$> Text.readBase 2 0 ds
  | cs => do
    let (negative, rest) := signed cs
    let n ← Text.readBase 10 0 (← decimal rest)
    return if negative then -Int.ofNat n else n

/-! ### Floats -/

/-- `n * 10 ^ scale` as a binary64 number; nothing when it is too large. -/
def float? (negative : Bool) (n : Nat) (scale : Int) : Option Json :=
  let width : Int := (Nat.toDigits 10 n).length
  let f := if n = 0 || width + scale < -400 then 0
    else if 400 < width + scale then 1 / 0
    else Float.ofScientific n (scale < 0) scale.natAbs
  if f.isInf then none else some (.double (if negative then -f else f).toBits)

/-- The exponent of a float: a sign and digits. -/
def exponent? (cs : List Char) : Option Int := do
  let (negative, rest) := signed cs
  let n ← Text.readBase 10 0 (← digits 10 rest)
  return if negative then -Int.ofNat n else n

/-- A float in decimal, with a fraction, an exponent or both. -/
def decimalFloat? (cs : List Char) : Option Json := do
  let (negative, cs) := signed cs
  let isMark (c : Char) : Bool := c = 'e' || c = 'E'
  let significand := cs.takeWhile fun c => !isMark c
  let power := cs.dropWhile fun c => !isMark c
  let whole ← decimal (significand.takeWhile (· ≠ '.'))
  let places ← match significand.dropWhile (· ≠ '.') with
    | [] => some []
    | _ :: rest => digits 10 rest
  let exponent ← if power.isEmpty then some 0 else exponent? (power.drop 1)
  if power.isEmpty && places.isEmpty then none
  let n ← Text.readBase 10 0 (whole ++ places)
  float? negative n (exponent - places.length)

/-- The floats that have names. -/
def namedFloat? (cs : List Char) : Option Json :=
  let (negative, cs) := signed cs
  let sign : UInt64 := if negative then 0x8000000000000000 else 0
  if cs = "inf".toList then some (.double (sign ||| 0x7FF0000000000000))
  else if cs = "nan".toList then some (.double (sign ||| 0x7FF8000000000000))
  else none

/-! ### Times -/

/-- A number of so many digits. -/
def field (width : Nat) (cs : List Char) : Option (Nat × List Char) := do
  if cs.length < width then none
  return (← Text.readBase 10 0 (cs.take width), cs.drop width)

/-- The character has to be next. -/
def expect (c : Char) : List Char → Option (List Char)
  | d :: rest => if c = d then some rest else none
  | [] => none

def isLeap (year : Nat) : Bool := year % 4 = 0 && (year % 100 ≠ 0 || year % 400 = 0)

def daysIn (year month : Nat) : Nat :=
  if month = 2 then if isLeap year then 29 else 28
  else if month ∈ [4, 6, 9, 11] then 30
  else 31

/-- What follows a date. -/
def date (cs : List Char) : Option (List Char) := do
  let (year, cs) ← field 4 cs
  let (month, cs) ← field 2 (← expect '-' cs)
  let (day, cs) ← field 2 (← expect '-' cs)
  if 1 ≤ month && month ≤ 12 && 1 ≤ day && day ≤ daysIn year month then some cs else none

/-- What follows a time of day in hours and minutes. -/
def clock (cs : List Char) : Option (List Char) := do
  let (hour, cs) ← field 2 cs
  let (minute, cs) ← field 2 (← expect ':' cs)
  if hour ≤ 23 && minute ≤ 59 then some cs else none

/-- What follows a time of day; a minute may have a leap second. -/
def time (cs : List Char) : Option (List Char) := do
  match ← clock cs with
  | ':' :: rest =>
    let (second, rest) ← field 2 rest
    if 60 < second then none
    match rest with
    | '.' :: places =>
      if places.head?.any (·.isDigit) then some (places.dropWhile (·.isDigit)) else none
    | rest => some rest
  | rest => some rest

/-- Whether a text is the distance from universal time, or nothing. -/
def isOffset : List Char → Bool
  | [] | ['Z'] | ['z'] => true
  | '+' :: rest | '-' :: rest => clock rest = some []
  | _ => false

/-- Whether a text is a date, a time or both. -/
def isMoment (cs : List Char) : Bool :=
  match date cs with
  | some [] => true
  | some (mark :: rest) => mark ∈ ['T', 't', ' '] && (time rest).any isOffset
  | none => time cs = some []

/-- A date or time as a value: a table with one entry. -/
def moment (cs : List Char) : Json := .obj [("$datetime", .str (String.ofList cs))]

/-! ### Words -/

/-- Characters that words are made of. -/
def isWordChar (c : Char) : Bool := c.isAlphanum || c ∈ ['+', '-', '_', '.', ':']

/-- The value of a word. -/
def wordValue? (cs : List Char) : Option Json :=
  if cs = "true".toList then some (.bool true)
  else if cs = "false".toList then some (.bool false)
  else match integer? cs with
    | some n => if isRepresentable n then some (.int n) else none
    | none => decimalFloat? cs <|> namedFloat? cs <|>
        (if isMoment cs then some (moment cs) else none)

/-- A scalar that is not quoted. A blank may stand between a date and a time. -/
def word (cs : List Char) : Option (Json × List Char) := do
  let first := cs.takeWhile isWordChar
  let rest := cs.dropWhile isWordChar
  match rest with
  | ' ' :: d :: _ =>
    if date first = some [] && d.isDigit then
      let time := (rest.drop 1).takeWhile isWordChar
      return (← wordValue? (first ++ ' ' :: time), (rest.drop 1).dropWhile isWordChar)
  | _ => pure ()
  return (← wordValue? first, rest)

end LanguageClient.Toml
