import GridSql.Binary64.Basic
import GridSql.Decimal.Basic

/-!
# Decimals and floating-point numbers

The decimal of a double with a fraction comes from its mantissa by halving and
multiplying with five until the power of two is gone; it keeps 52 bits of precision
at most, so a literal such as `0.1` becomes the decimal that it looks like. The double of a
decimal is the sum of its integer part and its fraction, rounded back to the
decimal's own places.
-/

namespace GridSql.Decimal

/-- Coefficient and power of ten of a number that is being converted. -/
private structure Scaling where
  coeff : Nat
  power : Int

/-- Multiplies with five, or drops the last bit where there is no room. -/
private def halve (s : Scaling) : Scaling :=
  if s.coeff % 2 = 0 then ⟨s.coeff / 2, s.power + 1⟩
  else if 5 * s.coeff ≤ maxCoeff then ⟨5 * s.coeff, s.power⟩
  else ⟨s.coeff / 2, s.power + 1⟩

/-- Divides by ten, a half going up. -/
private def dropPlace (s : Scaling) : Scaling :=
  ⟨s.coeff / 10 + (if 5 ≤ s.coeff % 10 then 1 else 0), s.power + 1⟩

/-- Raises the power of ten to the least one that a decimal can have. -/
private def raise : Nat → Scaling → Scaling
  | 0, s => s
  | fuel + 1, s =>
      if s.power < -(maxScale : Int) then
        if s.coeff < 10 then ⟨0, 0⟩ else raise fuel (dropPlace s)
      else
        s

/-- Drops places until the coefficient fits 52 bits. -/
private def limit : Nat → Scaling → Scaling
  | 0, s => s
  | fuel + 1, s =>
      if s.power < 0 ∧ twoTo 52 ≤ s.coeff then limit fuel (dropPlace s) else s

private def iterate (f : Scaling → Scaling) : Nat → Scaling → Scaling
  | 0, s => s
  | n + 1, s => iterate f n (f s)

private def ofMagnitude (m : Binary64.Magnitude) : Nat × Nat :=
  if 0 ≤ m.exponent then (m.mantissa * twoTo m.exponent.toNat, 0)
  else
    let s := iterate halve m.exponent.natAbs ⟨m.mantissa, m.exponent⟩
    let raised := raise s.power.natAbs s
    let t := limit raised.power.natAbs raised
    (t.coeff, (-t.power).toNat)

/--
The decimal of a double, nothing for a NaN, an infinity and what is too large. A
zero keeps its sign, and so does what is too small for a decimal.
-/
def ofFloat? (x : Float) : Option Decimal :=
  if !Binary64.isFinite x then none
  else
    let (coeff, places) := ofMagnitude (Binary64.magnitude x)
    let negative := Binary64.signBit x
    (ofParts? (if negative then -(coeff : Int) else coeff) places).map (signZero negative)

/-- Multiplies `acc` with a power by repeated squaring, low bits first. -/
private def floatPower (acc base : Float) (n : Nat) : Float :=
  if n = 0 then acc
  else floatPower (if n % 2 = 1 then acc * base else acc) (base * base) (n / 2)
decreasing_by omega

def toFloat (d : Decimal) : Float :=
  let magnitude := d.coeff.natAbs
  let value :=
    if d.scale = 0 then Float.ofNat magnitude
    else
      let unit := tenTo d.scale
      let fraction := Float.ofNat (magnitude % unit) / Float.ofNat unit
      let whole := Float.ofNat (magnitude / unit)
      let factor := floatPower 1.0 10.0 d.scale
      Float.round ((whole + fraction) * factor) / factor
  if d.coeff < 0 then -value else value

end GridSql.Decimal
