import GridSql.Power

/-!
# JSON values

A JSON value as it is written: integers are told apart from other numbers, and
an object lists its members in the order of the text. In a normal value every
object has its names once and in order; of repeated names the last one counts.
-/

namespace GridSql

/-- A number: an integer of at most 64 bits or a double. -/
inductive JsonNumber where
  | int (n : Int)
  | real (x : Float)
deriving BEq, Inhabited

namespace JsonNumber

def toInt64? : JsonNumber → Option Int64
  | int n =>
      if Int64.minValue.toInt ≤ n ∧ n ≤ Int64.maxValue.toInt then some (Int64.ofInt n) else none
  | real _ => none

def toNat? : JsonNumber → Option Nat
  | int n => if 0 ≤ n ∧ n < twoTo 64 then some n.toNat else none
  | real _ => none

def toFloat : JsonNumber → Float
  | int n => if n < 0 then -(Float.ofNat n.natAbs) else Float.ofNat n.natAbs
  | real x => x

end JsonNumber

inductive Json where
  | null
  | bool (b : Bool)
  | number (n : JsonNumber)
  | string (s : String)
  | array (items : List Json)
  | object (members : List (String × Json))
deriving Inhabited

namespace Json

def ofInt (n : Int) : Json := number (.int n)

def ofNat (n : Nat) : Json := number (.int n)

def ofStrings (ss : List String) : Json := array (ss.map string)

def ofOption {α : Type} (encode : α → Json) : Option α → Json
  | some a => encode a
  | none => null

/-- The member with a name in a list of members; the last one counts. -/
def lookup (name : String) : List (String × Json) → Option Json
  | [] => none
  | (key, value) :: rest => (lookup name rest).orElse fun _ => if key = name then some value else none

/-- The member of an object with a name. -/
def get? (name : String) : Json → Option Json
  | object members => lookup name members
  | _ => none

def asString? : Json → Option String
  | string s => some s
  | _ => none

def asBool? : Json → Option Bool
  | bool b => some b
  | _ => none

def asArray? : Json → Option (List Json)
  | array items => some items
  | _ => none

def asObject? : Json → Option (List (String × Json))
  | object members => some members
  | _ => none

def asInt64? : Json → Option Int64
  | number n => n.toInt64?
  | _ => none

def asNat? : Json → Option Nat
  | number n => n.toNat?
  | _ => none

def isNull : Json → Bool
  | null => true
  | _ => false

/-- Puts a member into a list that is sorted by name, in place of one of its name. -/
def insert (name : String) (value : Json) : List (String × Json) → List (String × Json)
  | [] => [(name, value)]
  | (key, old) :: rest =>
      if name = key then (name, value) :: rest
      else if name < key then (name, value) :: (key, old) :: rest
      else (key, old) :: insert name value rest

mutual

/-- The value with every object sorted by name and free of repetitions. -/
def normalize : Json → Json
  | array items => array (normalizeItems items)
  | object members => object (normalizeMembers [] members)
  | atom => atom

def normalizeItems : List Json → List Json
  | [] => []
  | item :: rest => item.normalize :: normalizeItems rest

def normalizeMembers (sorted : List (String × Json)) :
    List (String × Json) → List (String × Json)
  | [] => sorted
  | (key, value) :: rest => normalizeMembers (insert key value.normalize sorted) rest

end

mutual

/-- Equality of values; object members are compared in their order. -/
def beq : Json → Json → Bool
  | null, null => true
  | bool a, bool b => a == b
  | number m, number n => m == n
  | string s, string t => s == t
  | array xs, array ys => beqItems xs ys
  | object xs, object ys => beqMembers xs ys
  | _, _ => false

def beqItems : List Json → List Json → Bool
  | [], [] => true
  | x :: xs, y :: ys => x.beq y && beqItems xs ys
  | _, _ => false

def beqMembers : List (String × Json) → List (String × Json) → Bool
  | [], [] => true
  | (k, x) :: xs, (l, y) :: ys => k == l && x.beq y && beqMembers xs ys
  | _, _ => false

end

instance : BEq Json := ⟨beq⟩

end Json

end GridSql
