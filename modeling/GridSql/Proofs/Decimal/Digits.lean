import GridSql.Literal
import GridSql.Proofs.Decimal.Order

/-!
# Digits that are read back

Printed numbers are digits, and digits are no blanks, so a printed integer is the
literal of the same number.
-/

namespace GridSql

/-! ## Blanks and digits -/

namespace Text

theorem isBlank_of_isDigit {c : Char} (h : c.isDigit = true) :
    isBlank c = false := by
  have bounds : 48 ≤ c.toNat ∧ c.toNat ≤ 57 := by
    simp only [Char.isDigit, Bool.and_eq_true, decide_eq_true_eq, UInt32.le_iff_toNat_le] at h
    exact h
  refine Bool.eq_false_iff.2 fun blank => ?_
  simp only [isBlank, Bool.or_eq_true, Bool.and_eq_true, decide_eq_true_eq, beq_iff_eq] at blank
  omega

theorem skipBlanks_cons {c : Char} (h : isBlank c = false) (cs : List Char) :
    skipBlanks (c :: cs) = c :: cs := by
  simp [skipBlanks, h]

/-- A text that neither begins nor ends with a blank has none to trim. -/
theorem trimChars_of_ends {cs : List Char} (first : ∀ c ∈ cs.head?, isBlank c = false)
    (last : ∀ c ∈ cs.getLast?, isBlank c = false) :
    trimChars cs = cs := by
  have keep (l : List Char) (hl : ∀ c ∈ l.head?, isBlank c = false) : l.dropWhile isBlank = l := by
    cases l with
    | nil => rfl
    | cons c l => exact skipBlanks_cons (hl c rfl) l
  unfold trimChars dropTrailingBlanks skipBlanks
  rw [keep cs first, keep cs.reverse (by rwa [List.head?_reverse]), List.reverse_reverse]

theorem trimChars_eq_self {cs : List Char} (h : ∀ c ∈ cs, isBlank c = false) :
    trimChars cs = cs :=
  trimChars_of_ends (fun c hc => h c (List.mem_of_head? hc))
    fun c hc => h c (List.mem_of_getLast? hc)

end Text

namespace Decimal

/-! ## Printed natural numbers -/

theorem isDigit_of_mem_toDigits {n : Nat} {c : Char} (h : c ∈ Nat.toDigits 10 n) :
    c.isDigit = true :=
  Nat.isDigit_of_mem_toDigits (by decide) (by decide) h

theorem isDigit_of_mem_paddedDigits {width n : Nat} {c : Char} (h : c ∈ paddedDigits width n) :
    c.isDigit = true := by
  rcases List.mem_append.1 h with h | h
  · rw [(List.mem_replicate.1 h).2]
    rfl
  · exact isDigit_of_mem_toDigits h

theorem length_paddedDigits {width n : Nat} (pos : 0 < width) (h : n < 10 ^ width) :
    (paddedDigits width n).length = width := by
  have fits : (Nat.toDigits 10 n).length ≤ width :=
    (Nat.length_toDigits_le_iff (by decide) pos).2 h
  simp [paddedDigits]
  omega

theorem paddedDigits_ne_nil (width n : Nat) :
    paddedDigits width n ≠ [] := by
  simp [paddedDigits]

theorem ofDigitChars_paddedDigits (width n : Nat) :
    Nat.ofDigitChars 10 (paddedDigits width n) 0 = n := by
  simp [paddedDigits, Nat.ofDigitChars_append]

/-! ## Integer literals -/

theorem le_ofDigitChars (digits : List Char) (coeff : Nat) :
    coeff ≤ Nat.ofDigitChars 10 digits coeff := by
  rw [Nat.ofDigitChars_eq_ofDigitChars_zero]
  have : coeff ≤ 10 ^ digits.length * coeff :=
    Nat.le_mul_of_pos_left coeff (Nat.pow_pos (by decide))
  omega

theorem readUnsigned_digits {digits : List Char} (all : ∀ c ∈ digits, c.isDigit = true)
    {coeff : Nat} (fits : Nat.ofDigitChars 10 digits coeff ≤ maxCoeff) {seen : Bool}
    (some_digit : seen = true ∨ digits ≠ []) :
    readUnsigned false seen coeff 0 digits = some (Nat.ofDigitChars 10 digits coeff, 0) := by
  induction digits generalizing coeff seen with
  | nil =>
      have hseen : seen = true := by simpa using some_digit
      simp [readUnsigned, hseen]
  | cons c digits ih =>
      obtain ⟨hc, hdigits⟩ := List.forall_mem_cons.1 all
      have next : coeff * 10 + digitValue c = 10 * coeff + (c.toNat - '0'.toNat) := by
        rw [Nat.mul_comm]
        rfl
      rw [Nat.ofDigitChars_cons, ← next] at fits ⊢
      have small : coeff * 10 + digitValue c ≤ maxCoeff :=
        (le_ofDigitChars digits _).trans fits
      rw [readUnsigned]
      simp only [Bool.false_and, Bool.false_eq_true, if_false, hc, if_true, small]
      exact ih hdigits fits (.inl rfl)

theorem readPlain_digits {digits : List Char} (all : ∀ c ∈ digits, c.isDigit = true)
    (nonempty : digits ≠ []) (fits : Nat.ofDigitChars 10 digits 0 ≤ maxCoeff) :
    readPlain digits = some ⟨false, Nat.ofDigitChars 10 digits 0, 0⟩ := by
  have unsigned : readUnsigned false false 0 0 digits =
      some (Nat.ofDigitChars 10 digits 0, 0) :=
    readUnsigned_digits all fits (.inr nonempty)
  cases digits with
  | nil => exact absurd rfl nonempty
  | cons c digits =>
      have hc := all c List.mem_cons_self
      unfold readPlain
      split
      · next heq =>
          split at heq
          · next hminus =>
              cases hminus
              exact absurd hc (by decide)
          · next hplus =>
              cases hplus
              exact absurd hc (by decide)
          · cases heq
            rw [unsigned]
            rfl

theorem readPlain_minus {digits : List Char} (all : ∀ c ∈ digits, c.isDigit = true)
    (nonempty : digits ≠ []) (fits : Nat.ofDigitChars 10 digits 0 ≤ maxCoeff) :
    readPlain ('-' :: digits) = some ⟨true, Nat.ofDigitChars 10 digits 0, 0⟩ := by
  have unsigned : readUnsigned false false 0 0 digits =
      some (Nat.ofDigitChars 10 digits 0, 0) :=
    readUnsigned_digits all fits (.inr nonempty)
  simp [readPlain, unsigned]

theorem toList_toString_int (n : Int) :
    (toString n).toList =
      if 0 ≤ n then Nat.toDigits 10 n.natAbs else '-' :: Nat.toDigits 10 n.natAbs := by
  rw [Int.toString_eq_repr, Int.repr_eq_if]
  split
  · next h =>
      rw [Nat.toList_repr]
      congr 1
      omega
  · next h =>
      rw [String.toList_append, Nat.toList_repr]
      have : (-n).toNat = n.natAbs := by omega
      rw [this]
      rfl

theorem parse?_int {n : Int} (fits : n.natAbs ≤ maxCoeff) :
    parse? (toString n) = ofParts? n 0 := by
  have all : ∀ c ∈ Nat.toDigits 10 n.natAbs, c.isDigit = true :=
    fun c hc => isDigit_of_mem_toDigits hc
  have value : Nat.ofDigitChars 10 (Nat.toDigits 10 n.natAbs) 0 = n.natAbs := by simp
  rw [← value] at fits
  have read : ∃ w, readPlain (toString n).toList = some w ∧ w.signed = n ∧ w.places = 0 := by
    rw [toList_toString_int]
    by_cases h : 0 ≤ n
    · rw [if_pos h]
      refine ⟨_, readPlain_digits all (by simp) fits, ?_, rfl⟩
      rw [value]
      change (n.natAbs : Int) = n
      omega
    · rw [if_neg h]
      refine ⟨_, readPlain_minus all (by simp) fits, ?_, rfl⟩
      rw [value]
      change -(n.natAbs : Int) = n
      omega
  obtain ⟨w, hw, signed, places⟩ := read
  rw [parse?, hw]
  simp only [signed, places]

end Decimal

theorem Literal.decimal_int {n : Int} (fits : n.natAbs ≤ Decimal.maxCoeff) :
    ∃ d, Literal.decimal (toString n) = .ok d ∧ d.toRat = n := by
  have noBlanks : ∀ c ∈ (toString n).toList, Text.isBlank c = false := by
    intro c hc
    rw [Decimal.toList_toString_int] at hc
    split at hc
    · exact Text.isBlank_of_isDigit (Decimal.isDigit_of_mem_toDigits hc)
    · rcases List.mem_cons.1 hc with rfl | hc
      · rfl
      · exact Text.isBlank_of_isDigit (Decimal.isDigit_of_mem_toDigits hc)
  have trimmed : Text.trim (toString n) = toString n := by
    rw [Text.trim, Text.trimChars_eq_self noBlanks, String.ofList_toList]
  have parsed : Decimal.parse? (toString n) =
      some (Decimal.reduce n 0 fits (Nat.zero_le _)) := by
    rw [Decimal.parse?_int fits, Decimal.ofParts?, dif_pos ⟨fits, Nat.zero_le _⟩]
  refine ⟨Decimal.reduce n 0 fits (Nat.zero_le _), ?_, ?_⟩
  · rw [Literal.decimal, trimmed, parsed]
  · simp [Decimal.toRat, Decimal.reduce, tenTo]

end GridSql
