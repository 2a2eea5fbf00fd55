import GridSql.Calendar.Timestamp
import GridSql.Json.Parser

/-!
# Unquoted values of TOML

Booleans, numbers and times. Digits of a number may have single underscores
between them; an integer has at most 128 bits. A time has no JSON value of its
own: it is an object with its text under a reserved name.
-/

namespace GridSql.Toml

/-- A run of digits with single underscores between them, without these. -/
def readDigits (isDigit : Char → Bool) : List Char → Option (List Char × List Char)
  | c :: '_' :: d :: rest =>
      if isDigit c ∧ isDigit d then
        (readDigits isDigit (d :: rest)).map fun (digits, rest) => (c :: digits, rest)
      else none
  | c :: rest =>
      if isDigit c then
        match readDigits isDigit rest with
        | some (digits, rest) => some (c :: digits, rest)
        | none => some ([c], rest)
      else none
  | [] => none

def allDigits? (isDigit : Char → Bool) (cs : List Char) : Option (List Char) :=
  match readDigits isDigit cs with
  | some (digits, []) => some digits
  | _ => none

def valueIn (base : Nat) (digits : List Char) : Nat :=
  digits.foldl (fun n c => n * base + (Json.hexDigit? c).getD 0) 0

/-- An integer of at most 128 bits; JSON has doubles for those beyond 64. -/
def integer? (n : Int) : Option Json :=
  if -(twoTo 63) ≤ n ∧ n < twoTo 64 then some (.ofInt n)
  else if -(twoTo 127) ≤ n ∧ n < twoTo 128 then some (.number (.real (JsonNumber.toFloat (.int n))))
  else none

def basedInteger? (base : Nat) (isDigit : Char → Bool) (cs : List Char) : Option Json :=
  (allDigits? isDigit cs).bind fun digits => integer? (valueIn base digits)

/-- The digits before the point: no zero in front of another digit. -/
def readWhole (cs : List Char) : Option (List Char × List Char) :=
  match readDigits Char.isDigit cs with
  | some ('0' :: _ :: _, _) => none
  | r => r

def exponent? : List Char → Option Int
  | '-' :: cs => (allDigits? Char.isDigit cs).map fun ds => -(valueIn 10 ds : Int)
  | '+' :: cs => (allDigits? Char.isDigit cs).map fun ds => (valueIn 10 ds : Int)
  | cs => (allDigits? Char.isDigit cs).map fun ds => (valueIn 10 ds : Int)

/-- A decimal number without its sign. -/
def unsigned? (negative : Bool) (cs : List Char) : Option Json := do
  let float (digits : List Char) (exponent : Int) : Option Json :=
    (Json.nearestDouble? (valueIn 10 digits) exponent).map fun x =>
      .number (.real (if negative then -x else x))
  let isMark (c : Char) : Bool := c = 'e' || c = 'E'
  let (whole, rest) ← readWhole cs
  match rest with
  | [] => integer? (if negative then -(valueIn 10 whole : Int) else valueIn 10 whole)
  | '.' :: rest =>
      let (places, rest) ← readDigits Char.isDigit rest
      match rest with
      | [] => float (whole ++ places) (-(places.length : Int))
      | c :: rest =>
          let exponent ← if isMark c then exponent? rest else none
          float (whole ++ places) (exponent - places.length)
  | c :: rest =>
      let exponent ← if isMark c then exponent? rest else none
      float whole exponent

def number? (cs : List Char) : Option Json :=
  let special (negative : Bool) (cs : List Char) : Option Json :=
    if cs = ['i', 'n', 'f'] then
      some (.number (.real (if negative then -1.0 / 0.0 else 1.0 / 0.0)))
    else if cs = ['n', 'a', 'n'] then some (.number (.real (0.0 / 0.0)))
    else unsigned? negative cs
  match cs with
  | '-' :: cs => special true cs
  | '+' :: cs => special false cs
  | '0' :: 'x' :: cs => basedInteger? 16 (fun c => (Json.hexDigit? c).isSome) cs
  | '0' :: 'o' :: cs => basedInteger? 8 (fun c => '0' ≤ c && c ≤ '7') cs
  | '0' :: 'b' :: cs => basedInteger? 2 (fun c => c = '0' || c = '1') cs
  | cs => special false cs

/-- Exactly `width` digits in front of a text. -/
def readFixed (width : Nat) (cs : List Char) : Option (Nat × List Char) :=
  let digits := cs.take width
  if digits.length = width ∧ digits.all Char.isDigit then
    some (valueIn 10 digits, cs.drop width)
  else none

def readMark (c : Char) : List Char → Option (List Char)
  | d :: rest => if d = c then some rest else none
  | [] => none

def afterDate? (cs : List Char) : Option (List Char) := do
  let (year, cs) ← readFixed 4 cs
  let (month, cs) ← readFixed 2 (← readMark '-' cs)
  let (day, cs) ← readFixed 2 (← readMark '-' cs)
  (Date.ofYmd? year month day).map fun _ => cs

/-- What follows the seconds of a time of day and their fraction. -/
def afterSeconds? (cs : List Char) : Option (List Char) := do
  let (second, cs) ← readFixed 2 cs
  let rest ← match cs with
    | '.' :: cs =>
        let digits := cs.takeWhile Char.isDigit
        if digits.isEmpty then none else some (cs.drop digits.length)
    | cs => some cs
  if second ≤ 60 then some rest else none

/-- What follows a time of day; its seconds may be left out. -/
def afterTime? (cs : List Char) : Option (List Char) := do
  let (hour, cs) ← readFixed 2 cs
  let (minute, cs) ← readFixed 2 (← readMark ':' cs)
  let rest ← match cs with
    | ':' :: cs => afterSeconds? cs
    | cs => some cs
  if hour ≤ 23 ∧ minute ≤ 59 then some rest else none

/-- Whether a text is a distance from the world's time. -/
def isOffset : List Char → Bool
  | ['Z'] | ['z'] => true
  | sign :: cs =>
      if sign = '+' ∨ sign = '-' then
        (do
          let (hour, cs) ← readFixed 2 cs
          let (minute, cs) ← readFixed 2 (← readMark ':' cs)
          some (decide (hour ≤ 23) && decide (minute ≤ 59) && cs.isEmpty)).getD false
      else false
  | [] => false

/-- Whether a text is a date, a time of day or both, with or without an offset. -/
def isTime (cs : List Char) : Bool :=
  match afterDate? cs with
  | some [] => true
  | some (c :: clock) =>
      (c = 'T' || c = 't' || c = ' ') &&
        (match afterTime? clock with
        | some [] => true
        | some offset => isOffset offset
        | none => false)
  | none => afterTime? cs == some []

/-- The name under which the JSON form of a time has its text. -/
def timeMember : String := "$__toml_private_datetime"

/-- The value of a word without quotes. -/
def scalar? (cs : List Char) : Option Json :=
  if cs = ['t', 'r', 'u', 'e'] then some (.bool true)
  else if cs = ['f', 'a', 'l', 's', 'e'] then some (.bool false)
  else if isTime cs then some (.object [(timeMember, .string (String.ofList cs))])
  else number? cs

def isWordChar (c : Char) : Bool :=
  c.isAlphanum || c = '_' || c = '+' || c = '-' || c = '.' || c = ':'

/-- A value without quotes; a blank may stand between a date and a time. -/
def readScalar (cs : List Char) : Option (Json × List Char) :=
  let word := cs.takeWhile isWordChar
  let rest := cs.drop word.length
  let whole := match afterDate? word, rest with
    | some [], ' ' :: c :: _ =>
        if c.isDigit then word ++ ' ' :: (rest.drop 1).takeWhile isWordChar else word
    | _, _ => word
  (scalar? whole).map (·, cs.drop whole.length)

end GridSql.Toml
