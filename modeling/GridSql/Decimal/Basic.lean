import GridSql.Power

/-!
# Bounded decimal numbers

A decimal is a whole number divided by a power of ten, in lowest terms. The
whole number has at most 96 bits and the power of ten is at most 28, so
arithmetic rounds: a result is the nearest decimal with the most places that
fit, and a tie goes to the even neighbour. Zero has a sign, which order, equality
and text leave out: only a count, which takes no minus sign, shows it.
-/

namespace GridSql

namespace Decimal

/-- The largest magnitude of the whole number behind a decimal. -/
def maxCoeff : Nat := twoTo 96 - 1

/-- The largest number of decimal places. -/
def maxScale : Nat := 28

end Decimal

/-- The number `coeff / 10 ^ scale`, written with the fewest places. -/
structure Decimal where
  coeff : Int
  scale : Nat
  /-- Whether the number is a zero with a minus sign. -/
  minusZero : Bool
  coeff_le : coeff.natAbs ≤ Decimal.maxCoeff
  scale_le : scale ≤ Decimal.maxScale
  lowest : scale = 0 ∨ coeff % 10 ≠ 0
  coeff_of_minusZero : minusZero = true → coeff = 0
deriving DecidableEq

namespace Decimal

/-- Whether two decimals are the same number, whatever sign a zero has. -/
instance : BEq Decimal := ⟨fun x y => x.coeff == y.coeff && x.scale == y.scale⟩

/-- Drops places that are zero; a zero has no minus sign. -/
def reduce (coeff : Int) (scale : Nat) (hc : coeff.natAbs ≤ maxCoeff)
    (hs : scale ≤ maxScale) : Decimal :=
  match scale with
  | 0 => ⟨coeff, 0, false, hc, hs, Or.inl rfl, nofun⟩
  | places + 1 =>
      if h : coeff % 10 = 0 then
        reduce (coeff / 10) places (by omega) (by omega)
      else
        ⟨coeff, places + 1, false, hc, hs, Or.inr h, nofun⟩

def ofParts? (coeff : Int) (scale : Nat) : Option Decimal :=
  if h : coeff.natAbs ≤ maxCoeff ∧ scale ≤ maxScale then
    some (reduce coeff scale h.1 h.2)
  else
    none

def ofInt64 (n : Int64) : Decimal :=
  reduce n.toInt 0
    (by
      have hlow := n.le_toInt
      have hhigh := n.toInt_lt
      have hmax : maxCoeff = 79228162514264337593543950335 := rfl
      omega)
    (Nat.zero_le _)

def zero : Decimal := ofInt64 0

instance : Inhabited Decimal := ⟨zero⟩

/-- The whole number nearest to `num / den`; a tie goes to the even one. -/
def divRound (num : Int) (den : Nat) : Int :=
  let below := num.fdiv den
  let twice := 2 * (num - below * den)
  if twice < den ∨ (twice = den ∧ below % 2 = 0) then below else below + 1

/-- Rounds `num / den` to the most places that fit, at most `places`. -/
def ofRatioAux (num : Int) (den : Nat) : Nat → Option Decimal
  | 0 => ofParts? (divRound num den) 0
  | places + 1 =>
      match ofParts? (divRound (num * tenTo (places + 1)) den) (places + 1) with
      | some d => some d
      | none => ofRatioAux num den places

/--
The decimal nearest to `num / den` among those with the most places that fit,
or nothing when its integer part is out of bounds or `den` is zero.
-/
def ofRatio? (num : Int) (den : Nat) : Option Decimal :=
  if den = 0 then none else ofRatioAux num den maxScale

def isZero (x : Decimal) : Bool :=
  x.coeff == 0

/-- A zero with the wanted sign; any other number as it is. -/
def signZero (negative : Bool) (x : Decimal) : Decimal :=
  { x with
    minusZero := negative && x.isZero
    coeff_of_minusZero := by simp [isZero] }

/-- The number with the other sign, also of a zero. -/
def neg (x : Decimal) : Decimal :=
  signZero (!x.minusZero)
    ⟨-x.coeff, x.scale, false, by have := x.coeff_le; omega, x.scale_le,
      by have := x.lowest; omega, nofun⟩

instance : Neg Decimal := ⟨neg⟩

/-- Whether the whole number behind a decimal has at most 32 bits. -/
def isShort (x : Decimal) : Bool :=
  x.coeff.natAbs < twoTo 32

/-- The sum of two numbers that are not zero; short ones that cancel out leave the first sign. -/
def addNonzero? (x y : Decimal) : Option Decimal :=
  (ofRatio? (x.coeff * tenTo y.scale + y.coeff * tenTo x.scale) (tenTo (x.scale + y.scale))).map
    (signZero (x.coeff < 0 && x.isShort))

/-- The sum; the sum of zeros is the second one. -/
def add? (x y : Decimal) : Option Decimal :=
  if x.isZero then some y
  else if y.isZero then some x
  else x.addNonzero? y

/-- The difference; the difference of zeros is the second one. -/
def sub? (x y : Decimal) : Option Decimal :=
  if y.isZero then some (if x.isZero then y else x)
  else if x.isZero then some (-y)
  else x.addNonzero? (-y)

/-- The product; a zero has no minus sign. -/
def mul? (x y : Decimal) : Option Decimal :=
  ofRatio? (x.coeff * y.coeff) (tenTo (x.scale + y.scale))

/-- The quotient, nothing for a zero divisor; a zero has no minus sign. -/
def div? (x y : Decimal) : Option Decimal :=
  ofRatio? (x.coeff * y.coeff.sign * tenTo y.scale) (y.coeff.natAbs * tenTo x.scale)

protected def compare (x y : Decimal) : Ordering :=
  compare (x.coeff * tenTo y.scale) (y.coeff * tenTo x.scale)

instance : Ord Decimal := ⟨Decimal.compare⟩

/-- The integer that the decimal is, if it has no places and fits 64 bits. -/
def toInt64? (x : Decimal) : Option Int64 :=
  if x.scale = 0 ∧ Int64.minValue.toInt ≤ x.coeff ∧ x.coeff ≤ Int64.maxValue.toInt then
    some (Int64.ofInt x.coeff)
  else
    none

/-- The integer part, below `2 ^ 64`, of a decimal without a minus sign. -/
def toCount? (x : Decimal) : Option Nat :=
  if x.coeff < 0 || x.minusZero then none
  else
    let whole := x.coeff.toNat / tenTo x.scale
    if whole < twoTo 64 then some whole else none

/-- Decimal digits of `n`, filled up with zeros in front to `width`. -/
def paddedDigits (width n : Nat) : List Char :=
  let digits := Nat.toDigits 10 n
  List.replicate (width - digits.length) '0' ++ digits

/-- The digits with a point where the scale says, and a minus sign. -/
def toChars (x : Decimal) : List Char :=
  let whole := x.coeff.natAbs / tenTo x.scale
  let fraction := x.coeff.natAbs % tenTo x.scale
  let magnitude :=
    if x.scale = 0 then Nat.toDigits 10 whole
    else Nat.toDigits 10 whole ++ '.' :: paddedDigits x.scale fraction
  if x.coeff < 0 then '-' :: magnitude else magnitude

def toText (x : Decimal) : String :=
  String.ofList x.toChars

end Decimal

end GridSql
