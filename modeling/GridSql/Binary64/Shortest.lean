import GridSql.Binary64.Basic

/-!
# The fewest digits that read back

For a positive finite double, the decimal with the fewest digits among those
that lie in its rounding interval, and of these the nearest. The interval has
its ends where the neighbours' halves meet; the ends belong to it exactly if the
mantissa is even.
-/

namespace GridSql.Binary64

/-- A positive number `0.d₁d₂… * 10 ^ point`. -/
structure Digits where
  digits : List Char
  point : Int

/-- A positive fraction of natural numbers. -/
structure Ratio where
  num : Nat
  den : Nat

namespace Ratio

def shift (r : Ratio) (k : Int) : Ratio :=
  if 0 ≤ k then ⟨r.num, r.den * tenTo k.toNat⟩ else ⟨r.num * tenTo (-k).toNat, r.den⟩

def ofBinary (mantissa : Nat) (exponent : Int) : Ratio :=
  if 0 ≤ exponent then ⟨mantissa * twoTo exponent.toNat, 1⟩
  else ⟨mantissa, twoTo (-exponent).toNat⟩

/-- The least `e` with `r < 10 ^ e`. -/
def decimalExponent (r : Ratio) : Int :=
  let guess : Int :=
    ((Nat.toDigits 10 r.num).length : Int) - (Nat.toDigits 10 r.den).length
  let at_guess := r.shift guess
  if at_guess.den ≤ at_guess.num then guess + 1 else guess

def lt (r s : Ratio) : Bool := r.num * s.den < s.num * r.den

def le (r s : Ratio) : Bool := r.num * s.den ≤ s.num * r.den

end Ratio

/-- The numbers that round to a double, with the double itself between them. -/
structure Interval where
  low : Ratio
  value : Ratio
  high : Ratio
  closed : Bool

def Interval.contains (i : Interval) (r : Ratio) : Bool :=
  if i.closed then i.low.le r && r.le i.high else i.low.lt r && r.lt i.high

def roundingInterval (m : Magnitude) : Interval :=
  let narrow := m.mantissa = twoTo 52 && m.exponent > -1074
  { low :=
      if narrow then Ratio.ofBinary (4 * m.mantissa - 1) (m.exponent - 2)
      else Ratio.ofBinary (2 * m.mantissa - 1) (m.exponent - 1)
    value := Ratio.ofBinary m.mantissa m.exponent
    high := Ratio.ofBinary (2 * m.mantissa + 1) (m.exponent - 1)
    closed := m.mantissa % 2 = 0 }

/--
The multiple of `10 ^ k` in the interval that is nearest to its value, as its
factor; of two equally near ones the even factor.
-/
def onGrid (i : Interval) (k : Int) : Option Nat :=
  let v := i.value.shift k
  let below := v.num / v.den
  let inside (n : Nat) : Bool := i.contains ((⟨n, 1⟩ : Ratio).shift (-k))
  let twice := 2 * (v.num - below * v.den)
  let lowerFirst := twice < v.den || (twice = v.den && below % 2 = 0)
  match inside below, inside (below + 1) with
  | true, true => some (if lowerFirst then below else below + 1)
  | true, false => some below
  | false, true => some (below + 1)
  | false, false => none

/-- Looks for a grid point with `17 - left` digits and more. -/
def shortestAux (i : Interval) (point : Int) : Nat → Nat × Int
  | 0 =>
      let v := i.value.shift (point - 17)
      (v.num / v.den, point - 17)
  | left + 1 =>
      let k := point - (17 - (left : Int))
      match onGrid i k with
      | some n => (n, k)
      | none => shortestAux i point left

/-- Digits without the zeros at the end. -/
def significant (n : Nat) : List Char :=
  ((Nat.toDigits 10 n).reverse.dropWhile (· = '0')).reverse

/-- The fewest digits that read back as the positive magnitude. -/
def shortest (m : Magnitude) : Digits :=
  let i := roundingInterval m
  let (n, k) := shortestAux i i.value.decimalExponent 17
  { digits := significant n, point := k + (Nat.toDigits 10 n).length }

end GridSql.Binary64
