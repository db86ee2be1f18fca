/-! Finite floating-point numbers of 64 bits taken apart into exact integers, and put together again. -/

namespace Calculator

/-- The magnitude `significand * 2 ^ exponent`. -/
structure Binary where
  significand : Nat
  exponent : Int
  deriving DecidableEq, Repr

namespace Binary

/-- Number of bits of a significand that are stored. -/
def storedBits : Nat := 52

/-- The exponent of the smallest numbers. -/
def leastExponent : Int := -1074

/-- The magnitude of a finite number. The stored exponent 0 marks the numbers whose leading bit is not implied. -/
def ofFloat (x : Float) : Binary :=
  let bits := x.toBits.toNat
  let stored : Nat := bits % Nat.pow 2 storedBits
  let biased : Nat := bits / Nat.pow 2 storedBits % Nat.pow 2 11
  if biased = 0 then ⟨stored, leastExponent⟩ else ⟨stored + Nat.pow 2 storedBits, leastExponent + (biased - 1 : Nat)⟩

/-- Whether a number carries the minus sign. -/
def isNegative (x : Float) : Bool := x.toBits.toNat / Nat.pow 2 63 = 1

/-- The significand of a magnitude at a given exponent, no greater than its own. -/
def atExponent (b : Binary) (e : Int) : Nat := b.significand * Nat.pow 2 (b.exponent - e).toNat

/-- The number of a sign and a magnitude. The magnitude is one that a finite number can have, so no bit is lost. -/
def toFloat (negative : Bool) (b : Binary) : Float :=
  let signBit := if negative then Nat.pow 2 63 else 0
  let units := b.atExponent leastExponent
  let magnitude :=
    if units < Nat.pow 2 storedBits then units
    else
      let shift := units.log2 - storedBits
      (shift + 1) * Nat.pow 2 storedBits + (units / Nat.pow 2 shift - Nat.pow 2 storedBits)
  Float.ofBits (UInt64.ofNat (signBit + magnitude))

end Binary

end Calculator
