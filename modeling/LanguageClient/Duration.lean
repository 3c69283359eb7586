/-!
# Durations

Spans of time in whole milliseconds, shown in the largest unit that leaves at least one.
-/

namespace LanguageClient

/-- A span of time. -/
structure Duration where
  millis : Nat
  deriving DecidableEq, Repr, Inhabited

namespace Duration

/-- The places of a fraction of a second, without zeros at the end. -/
def places (millis : Nat) : List Char :=
  let digits := Nat.toDigits 10 millis
  let padded := List.replicate (3 - digits.length) '0' ++ digits
  (padded.reverse.dropWhile (· = '0')).reverse

/-- Seconds with their fraction from one second on, milliseconds below; nothing is nanoseconds. -/
def text (d : Duration) : String :=
  if d.millis = 0 then "0ns"
  else if d.millis < 1000 then Nat.repr d.millis ++ "ms"
  else
    let whole := Nat.repr (d.millis / 1000)
    let rest := d.millis % 1000
    if rest = 0 then whole ++ "s" else whole ++ "." ++ String.ofList (places rest) ++ "s"

end Duration

end LanguageClient
