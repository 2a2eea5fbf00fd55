import GridSql.Text.CaseTable

/-!
# Lower and upper case

Full Unicode case mapping of texts. A letter may become several characters, and
a capital sigma that ends a word becomes the final form of the small letter.
-/

namespace GridSql.Text

def isCased (c : Char) : Bool :=
  casedRanges.any (·.contains c.toNat)

def isCaseIgnorable (c : Char) : Bool :=
  caseIgnorableRanges.any (·.contains c.toNat)

private def mapChar (runs : List CaseRun) (sequences : List (Nat × List Nat))
    (c : Char) : List Char :=
  match runs.findSome? (·.target? c.toNat) with
  | some code => [Char.ofNat code]
  | none =>
      match sequences.lookup c.toNat with
      | some codes => codes.map Char.ofNat
      | none => [c]

/-- The lower case of one character out of context. -/
def lowerChar (c : Char) : List Char :=
  if c.toNat < 0x80 then [c.toLower] else mapChar lowerRuns lowerSequences c

def upperChar (c : Char) : List Char :=
  if c.toNat < 0x80 then [c.toUpper] else mapChar upperRuns upperSequences c

/-- Whether the first character that counts for case is a cased one. -/
def startsCased (cs : List Char) : Bool :=
  match cs.dropWhile isCaseIgnorable with
  | [] => false
  | c :: _ => isCased c

/--
The small letter of a sigma between two texts, the one before it reversed: the
final form where a word has begun and does not go on.
-/
def lowerSigma (before after : List Char) : Char :=
  if startsCased before && !startsCased after then 'ς' else 'σ'

/-- Lower case of a text that stands behind the reversed text `before`. -/
def lowerAux (before : List Char) : List Char → List Char
  | [] => []
  | c :: rest =>
      let small := if c = 'Σ' then [lowerSigma before rest] else lowerChar c
      small ++ lowerAux (c :: before) rest

def lowerChars (cs : List Char) : List Char :=
  lowerAux [] cs

def upperChars (cs : List Char) : List Char :=
  cs.flatMap upperChar

def lower (s : String) : String :=
  String.ofList (lowerChars s.toList)

def upper (s : String) : String :=
  String.ofList (upperChars s.toList)

/-- Small Latin letters for the capital ones; every other character stays. -/
def asciiLower (s : String) : String :=
  s.map Char.toLower

/-- Capital Latin letters for the small ones; every other character stays. -/
def asciiUpper (s : String) : String :=
  s.map Char.toUpper

/-- Whether two texts are equal when the case of Latin letters is ignored. -/
def eqIgnoringCase (s t : String) : Bool :=
  asciiLower s == asciiLower t

end GridSql.Text
