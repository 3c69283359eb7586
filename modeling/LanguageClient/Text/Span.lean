import LanguageClient.Text.Blank
import LanguageClient.Text.Digits
import LanguageClient.Text.Parts

/-!
# Tables of characters

A table says something about characters in spans of code points. It is written as words with blanks
between them, in increasing order: `41-5A` is a span, `100/12E` every second code point of one and
`5BE` a single code point; the rest of a word is a note on the span.
-/

namespace LanguageClient.Text

/-- Every `step`-th code point from `first` to `last`, with what a table notes of them. -/
structure Span where
  first : Nat
  last : Nat
  step : Nat
  note : List Char
  deriving DecidableEq, Repr

namespace Span

/-- A number at the front of a text, in hexadecimal, and what follows it. -/
def readNumber (cs : List Char) : Option (Nat × List Char) :=
  let digits := cs.takeWhile fun c => (hexValue c).isSome
  if digits.isEmpty then none
  else (readBase 16 0 digits).map fun n => (n, cs.drop digits.length)

/-- The span that a word of a table stands for. -/
def ofWord (word : List Char) : Option Span := do
  let (first, rest) ← readNumber word
  match rest with
  | '-' :: rest => do
    let (last, note) ← readNumber rest
    return ⟨first, last, 1, note⟩
  | '/' :: rest => do
    let (last, note) ← readNumber rest
    return ⟨first, last, 2, note⟩
  | note => return ⟨first, first, 1, note⟩

/-- Whether a code point belongs to a span. -/
def has (s : Span) (n : Nat) : Bool := s.first ≤ n && n ≤ s.last && (n - s.first) % s.step = 0

/-- The numbers of a note: after a colon, with dots between them. -/
def numbers (base : Nat) (s : Span) : List Nat :=
  match s.note with
  | ':' :: rest => (splitOn '.' rest).filterMap (readBase base 0)
  | _ => []

/--
What a note maps a code point of the span to. A note of one number is for the first code point, and
moves the others as far; several numbers are for a single code point.
-/
def image (s : Span) (n : Nat) : List Char :=
  match s.numbers 16 with
  | [target] => [Char.ofNat (target + (n - s.first))]
  | targets => targets.map Char.ofNat

end Span

/-- Spans in increasing order. -/
abbrev Spans := Array Span

namespace Spans

/-- The spans of a table. -/
def ofText (text : String) : Spans :=
  let line := text.toList.map fun c => if isBlank c then ' ' else c
  ((splitOn ' ' line).filterMap Span.ofWord).toArray

/-- The span from the one numbered `low` to before the one numbered `high` that has `n`. -/
def search (t : Spans) (n low high : Nat) : Option Span :=
  if low < high then
    match t[(low + high) / 2]? with
    | none => none
    | some s =>
      if n < s.first then search t n low ((low + high) / 2)
      else if s.last < n then search t n ((low + high) / 2 + 1) high
      else if s.has n then some s
      else none
  else none
termination_by high - low

/-- The span of a character. -/
def find? (t : Spans) (c : Char) : Option Span := t.search c.toNat 0 t.size

def contains (t : Spans) (c : Char) : Bool := (t.find? c).isSome

end Spans

end LanguageClient.Text
