import GridSql.Power

/-!
# Binary floating-point numbers taken apart

A finite double is a sign, a whole number below `2 ^ 53` and a power of two.
-/

namespace GridSql.Binary64

def signBit (x : Float) : Bool :=
  x.toBits.toNat / twoTo 63 = 1

def exponentField (x : Float) : Nat :=
  x.toBits.toNat / twoTo 52 % twoTo 11

def fractionField (x : Float) : Nat :=
  x.toBits.toNat % twoTo 52

/-- A magnitude `mantissa * 2 ^ exponent`. -/
structure Magnitude where
  mantissa : Nat
  exponent : Int

def magnitude (x : Float) : Magnitude :=
  if exponentField x = 0 then
    ⟨fractionField x, -1074⟩
  else
    ⟨twoTo 52 + fractionField x, (exponentField x : Int) - 1075⟩

/-- Whether a double is neither infinite nor a NaN. -/
def isFinite (x : Float) : Bool :=
  exponentField x ≠ 2047

def isNaN (x : Float) : Bool :=
  exponentField x = 2047 && fractionField x ≠ 0

end GridSql.Binary64
