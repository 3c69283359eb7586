/-!
# Shortest decimals

The fewest decimal digits that read back as a given binary64 number. The number is taken as
`mantissa * 2 ^ exponent`; the reals that round to it form an interval around it, and the first
decimal grid with a point in that interval gives the digits.
-/

namespace LanguageClient.Decimal

/-- A positive finite binary64 number, `mantissa * 2 ^ exponent`. -/
structure Binary where
  mantissa : Nat
  exponent : Int
  /-- The next number below is half as far away as the next one above. -/
  narrowBelow : Bool

/-- A decimal `digits * 10 ^ exponent`. -/
structure Scaled where
  digits : Nat
  exponent : Int

/-- The number with the given bits, its sign dropped; `none` for zero, infinities and NaN. -/
def Binary.ofBits (bits : UInt64) : Option Binary :=
  let fraction := (bits &&& 0xFFFFFFFFFFFFF).toNat
  let biased := ((bits >>> 52) &&& 0x7FF).toNat
  if biased = 0x7FF then none
  else if biased = 0 then
    if fraction = 0 then none else some ⟨fraction, -1074, false⟩
  else some ⟨fraction + 0x10000000000000, (biased : Int) - 1075, fraction = 0 && biased ≠ 1⟩

/-- `a * 2 ^ e` over a common denominator, as numerator and denominator. -/
def ratio (a : Nat) (e : Int) : Nat × Nat :=
  if 0 ≤ e then (a * Nat.pow 2 e.toNat, 1) else (a, Nat.pow 2 (-e).toNat)

/-- How many decimal digits `n` has. -/
def width (n : Nat) : Nat := (Nat.toDigits 10 n).length

/-- The largest `p` with `10 ^ p ≤ num / den`. -/
def magnitude (num den : Nat) : Int :=
  let guess : Int := (width num : Int) - (width den : Int)
  let fits (p : Int) : Bool :=
    if 0 ≤ p then den * Nat.pow 10 p.toNat ≤ num else den ≤ num * Nat.pow 10 (-p).toNat
  if fits guess then guess else guess - 1

/-- The points of the grid `10 ^ place` that round to `b`, nearest to `b` first. -/
def Binary.onGrid (b : Binary) (place : Int) : List Nat :=
  -- everything is counted in quarters of `2 ^ exponent`
  let (unit, den) := ratio 1 (b.exponent - 2)
  let value := 4 * b.mantissa * unit
  let low := (4 * b.mantissa - (if b.narrowBelow then 1 else 2)) * unit
  let high := (4 * b.mantissa + 2) * unit
  let up := if 0 ≤ place then Nat.pow 10 place.toNat else 1
  let down := if 0 ≤ place then 1 else Nat.pow 10 (-place).toNat
  -- a grid point `k` stands for `k * up / down`
  let below := value * down / (den * up)
  let inside (k : Nat) : Bool :=
    let x := k * up * den
    if b.mantissa % 2 = 0 then low * down ≤ x && x ≤ high * down
    else low * down < x && x < high * down
  let distance (k : Nat) : Nat :=
    let x := k * up * den
    if x ≤ value * down then value * down - x else x - value * down
  let candidates := [below, below + 1].filter fun k => k ≠ 0 && inside k
  match candidates with
  | [x, y] =>
    if distance x < distance y then [x, y]
    else if distance y < distance x then [y, x]
    else if x % 2 = 0 then [x, y] else [y, x]
  | found => found

/-- The first grid, counted from the coarsest, with a point that rounds to `b`. -/
def Binary.search (b : Binary) (top : Int) : Nat → Scaled
  | 0 => ⟨b.mantissa, b.exponent⟩
  | fuel + 1 =>
    let place := top - (17 - fuel : Nat)
    match b.onGrid place with
    | k :: _ => ⟨k, place⟩
    | [] => search b top fuel

/-- The shortest decimal that reads back as `b`; seventeen digits always suffice. -/
def Binary.shortest (b : Binary) : Scaled :=
  let (num, den) := ratio b.mantissa b.exponent
  b.search (magnitude num den + 1) 18

end LanguageClient.Decimal
