import Calculator.Number.Binary

/-! The shortest decimal that stands for a floating-point number: of the decimals that read back as the number, the
    one with the fewest digits, and of those the nearest. -/

namespace Calculator

/-- The magnitude `coefficient * 10 ^ exponent`. -/
structure Decimal where
  coefficient : Nat
  exponent : Int
  deriving DecidableEq, Repr

namespace Shortest

/-- The reals that read back as a positive magnitude, in quarters of its unit: from `low` to `high`, with the ends
    included or not. The gap below a power of two is half as wide as the gap above it. -/
structure Interval where
  low : Nat
  high : Nat
  closed : Bool

/-- The reals that round to a magnitude. A real half-way between two numbers goes to the even one. -/
def Interval.around (b : Binary) : Interval where
  low := 4 * b.significand -
    (if b.significand = Nat.pow 2 Binary.storedBits ∧ Binary.leastExponent < b.exponent then 1 else 2)
  high := 4 * b.significand + 2
  closed := b.significand % 2 = 0

/-- Whether `n / d` quarters lie in an interval. -/
def Interval.holds (i : Interval) (n d : Nat) : Bool :=
  if i.closed then i.low * d ≤ n ∧ n ≤ i.high * d else i.low * d < n ∧ n < i.high * d

/-- The multiple of `10 ^ k` that reads back as a magnitude: the nearer of its two neighbours among these multiples,
    or the even one when both are as near; none when neither reads back. -/
def multiple? (b : Binary) (k : Int) : Option Decimal :=
  let e := b.exponent - 2
  -- A quarter of the unit is `scale / grid` of `10 ^ k`.
  let scale := Nat.pow 2 e.toNat * Nat.pow 10 (-k).toNat
  let grid := Nat.pow 2 (-e).toNat * Nat.pow 10 k.toNat
  let i := Interval.around b
  let value := 4 * b.significand * scale
  let below := value / grid
  let above := below + 1
  let fits := fun c => i.holds (c * grid) scale
  let choice :=
    match fits below, fits above with
    | false, false => none
    | true, false => some below
    | false, true => some above
    | true, true =>
      match compare (value - below * grid) (above * grid - value) with
      | .lt => some below
      | .gt => some above
      | .eq => some (if below % 2 = 0 then below else above)
  choice.map fun c => ⟨c, k⟩

/-- A power of ten above a magnitude: 30103 / 100000 exceeds the logarithm of two by less than one part in a
    hundred million. -/
def above (b : Binary) : Int := (b.exponent + (b.significand.log2 + 1)) * 30103 / 100000 + 1

/-- The shortest decimal of a positive magnitude. Seventeen digits always suffice, so one of the grids has a hit. -/
def decimal (b : Binary) : Decimal :=
  ((List.range 20).findSome? fun (i : Nat) => multiple? b (above b - i)).getD ⟨0, 0⟩

end Shortest

end Calculator
