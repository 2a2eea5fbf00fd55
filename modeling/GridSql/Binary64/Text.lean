import GridSql.Binary64.Shortest

/-!
# Texts of floating-point numbers

A double is written with the fewest digits that read back. Numbers from `1e-5`
up to `1e16` are written positionally and always have a point; the others have
an exponent.
-/

namespace GridSql.Binary64

structure Layout where
  /-- The least point position that is written positionally. -/
  leastPoint : Int
  /-- The greatest point position that is written positionally. -/
  greatestPoint : Int
  /-- What stands between the mark and the digits of a positive exponent. -/
  positiveMark : List Char

def Layout.plain : Layout := ⟨-4, 16, []⟩

/-- The layout of JSON numbers: positive exponents have a plus sign. -/
def Layout.json : Layout := ⟨-4, 16, ['+']⟩

def Layout.exponent (layout : Layout) (e : Int) : List Char :=
  let mark := if e < 0 then ['-'] else layout.positiveMark
  'e' :: mark ++ Nat.toDigits 10 e.natAbs

def Layout.positive (layout : Layout) (d : Digits) : List Char :=
  let count : Int := d.digits.length
  if d.point < layout.leastPoint ∨ layout.greatestPoint < d.point then
    let fraction :=
      match d.digits with
      | first :: second :: rest => first :: '.' :: second :: rest
      | short => short
    fraction ++ layout.exponent (d.point - 1)
  else if d.point ≤ 0 then
    '0' :: '.' :: List.replicate (-d.point).toNat '0' ++ d.digits
  else if count ≤ d.point then
    d.digits ++ List.replicate (d.point - count).toNat '0' ++ ['.', '0']
  else
    d.digits.take d.point.toNat ++ '.' :: d.digits.drop d.point.toNat

def Layout.chars (layout : Layout) (x : Float) : List Char :=
  if isNaN x then ['N', 'a', 'N']
  else
    let sign := if signBit x then ['-'] else []
    if !isFinite x then sign ++ ['i', 'n', 'f']
    else
      let m := magnitude x
      if m.mantissa = 0 then sign ++ ['0', '.', '0']
      else sign ++ layout.positive (shortest m)

def Layout.text (layout : Layout) (x : Float) : String :=
  String.ofList (layout.chars x)

end GridSql.Binary64
