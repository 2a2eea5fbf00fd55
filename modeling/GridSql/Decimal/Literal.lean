import GridSql.Decimal.Basic

/-!
# Decimal literals

A plain literal is an optional sign, digits with at most one point, and at least
one digit; underscores may stand anywhere behind the first digit. Where the
digits no longer fit, the fraction is rounded half up at the next digit, and only
digits and underscores may follow. A scientific literal is a plain one, an `e`
and a decimal exponent of at most 28; places behind the last possible one are
rounded half up.
-/

namespace GridSql.Decimal

/-- A literal as it is written: a coefficient and the places behind the point. -/
structure Written where
  negative : Bool
  coeff : Nat
  places : Nat

def digitValue (c : Char) : Nat :=
  c.toNat - '0'.toNat

/-- Rounds a full coefficient half up by the first digit that no longer fits. -/
def roundBy (coeff places digit : Nat) : Option (Nat × Nat) :=
  if digit < 5 then some (coeff, places)
  else if coeff + 1 ≤ maxCoeff then some (coeff + 1, places)
  else if places = 0 then none
  else some ((coeff + 5) / 10, places - 1)

def areDigits (cs : List Char) : Bool :=
  cs.all fun c => c.isDigit || c = '_'

/-- Whether the coefficient without its last digit is too small to look behind an underscore. -/
def isNarrow (coeff : Nat) : Bool :=
  coeff / 10 < (twoTo 64 - 1) / 10 - 255

/--
Rounds a full coefficient at the character behind it. A point is dropped; an
underscore is skipped, but behind a narrow coefficient it ends the digits.
-/
def roundAt (coeff places : Nat) (next : Char) (rest : List Char) : Option (Nat × Nat) :=
  if !areDigits rest then none
  else if next.isDigit then roundBy coeff places (digitValue next)
  else if next = '.' then some (coeff, places)
  else if next = '_' then
    match rest.dropWhile (· = '_') with
    | [] => some (coeff, places)
    | digit :: _ =>
        if isNarrow coeff then some (coeff, places)
        else roundBy coeff places (digitValue digit)
  else none

def readUnsigned (pointSeen digitSeen : Bool) (coeff places : Nat) :
    List Char → Option (Nat × Nat)
  | [] => if digitSeen then some (coeff, places) else none
  | c :: rest =>
      if pointSeen && maxScale ≤ places then
        roundAt coeff places c rest
      else if c.isDigit then
        let next := coeff * 10 + digitValue c
        if next ≤ maxCoeff then
          readUnsigned pointSeen true next (if pointSeen then places + 1 else places) rest
        else if pointSeen then
          roundAt coeff places c rest
        else
          none
      else if c = '.' && !pointSeen then
        readUnsigned true digitSeen coeff places rest
      else if c = '_' && digitSeen then
        readUnsigned pointSeen true coeff places rest
      else
        none

def readPlain (cs : List Char) : Option Written :=
  let (negative, digits) :=
    match cs with
    | '-' :: rest => (true, rest)
    | '+' :: rest => (false, rest)
    | _ => (false, cs)
  (readUnsigned false false 0 0 digits).map fun (coeff, places) =>
    { negative, coeff, places }

def Written.signed (w : Written) : Int :=
  if w.negative then -(w.coeff : Int) else w.coeff

/-- An unsigned 32-bit number with an optional plus sign. -/
def readExponent (cs : List Char) : Option Nat :=
  let digits := if cs.head? = some '+' then cs.drop 1 else cs
  if digits.isEmpty || !digits.all Char.isDigit then none
  else
    let n := digits.foldl (fun n c => n * 10 + digitValue c) 0
    if n < twoTo 32 then some n else none

/-- The literal moved `n` places to the right of the point; what vanishes keeps its sign. -/
def Written.shrink (w : Written) (n : Nat) : Option Decimal :=
  let unit := tenTo (w.places + n - maxScale)
  let coeff := (2 * w.coeff + unit) / (2 * unit)
  let places := min (w.places + n) maxScale
  (ofParts? (if w.negative then -(coeff : Int) else coeff) places).map
    (signZero (w.negative && w.coeff != 0))

/-- The number that a literal and an exponent behind its `e` stand for. -/
def scaled (w : Written) : List Char → Option Decimal
  | '-' :: digits => do
      let n ← readExponent digits
      if n ≤ maxScale then w.shrink n else none
  | digits => do
      let n ← readExponent digits
      if n ≤ w.places then ofParts? w.signed (w.places - n)
      else if n ≤ maxScale then ofParts? (w.signed * tenTo (n - w.places)) 0
      else none

def readScientific (cs : List Char) : Option Decimal := do
  let isMark := fun c => c = 'e' || c = 'E'
  match cs.dropWhile (!isMark ·) with
  | [] => none
  | _ :: exponent =>
      let w ← readPlain (cs.takeWhile (!isMark ·))
      scaled w exponent

/-- Reads a plain or, failing that, a scientific literal. -/
def parse? (s : String) : Option Decimal :=
  match readPlain s.toList with
  | some w => ofParts? w.signed w.places
  | none => readScientific s.toList

end GridSql.Decimal
