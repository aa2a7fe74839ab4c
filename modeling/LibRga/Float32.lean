import Mathlib.Data.Rat.Floor

/-!
Single-precision arithmetic on exact rationals, with the double-precision
literals it is compared to.

A value is the rational it denotes. Only normal numbers occur in the programs
that use this module: integers of at most 32 bits and quotients of two such
integers with a nonzero divisor, so neither overflow nor underflow is modelled.
-/

namespace LibRga.Float32

/-- Rounds to the nearest integer, ties to the even one. -/
def roundEven (q : ℚ) : Int :=
  let below := q.floor
  let rest := q - below
  if rest < 1 / 2 then below
  else if 1 / 2 < rest then below + 1
  else if below % 2 = 0 then below
  else below + 1

/-- The exponent `e` with `2 ^ e ≤ |q| < 2 ^ (e + 1)`, for `q ≠ 0`. -/
def exponent (q : ℚ) : Int :=
  let guess := (Nat.log2 q.num.natAbs : Int) - Nat.log2 q.den
  if |q| < (2 : ℚ) ^ guess then guess - 1 else guess

def roundTo (precision : Nat) (q : ℚ) : ℚ :=
  if q = 0 then 0
  else
    let ulp := (2 : ℚ) ^ (exponent q - precision + 1)
    roundEven (q / ulp) * ulp

def round (q : ℚ) : ℚ :=
  roundTo 24 q

/-- The double-precision number nearest to `q`, as a literal without suffix denotes it. -/
def double (q : ℚ) : ℚ :=
  roundTo 53 q

def ofInt (x : Int) : ℚ :=
  round x

def div (x y : ℚ) : ℚ :=
  round (x / y)

example : div (ofInt 1) (ofInt 3) = 11184811 / 33554432 := by
  decide +kernel

example : ofInt 16777217 = 16777216 := by
  decide +kernel

example : double (1003 / 1000) < round (1003 / 1000) := by
  decide +kernel

end LibRga.Float32
