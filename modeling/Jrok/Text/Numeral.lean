/-!
# Unsigned decimal numerals

`from_str` of the unsigned integer types: an optional plus sign and at least one digit, read with
checked arithmetic. `bound` is the first number that the type cannot hold.
-/

namespace Numeral

/-- `IntErrorKind`, as far as an unsigned type has it. -/
inductive IntErrorKind where
  | empty
  | invalidDigit
  | posOverflow
  deriving DecidableEq, Repr

/-- `char::to_digit(10)`. -/
def digit? (c : Char) : Option Nat := if c.isDigit then some (c.toNat - '0'.toNat) else none

def checkedMul (bound a b : Nat) : Option Nat := if a * b < bound then some (a * b) else none

def checkedAdd (bound a b : Nat) : Option Nat := if a + b < bound then some (a + b) else none

/-- The loop over the digits. -/
def readDigits (bound : Nat) : Nat → List Char → Except IntErrorKind Nat
  | result, [] => .ok result
  | result, c :: digits =>
    let mul := checkedMul bound result 10
    match digit? c with
    | none => .error .invalidDigit
    | some x =>
      match mul with
      | none => .error .posOverflow
      | some result =>
        match checkedAdd bound result x with
        | none => .error .posOverflow
        | some result => readDigits bound result digits

/-- `from_str`. A minus sign is no digit of an unsigned type. -/
def fromStr (bound : Nat) : List Char → Except IntErrorKind Nat
  | [] => .error .empty
  | ['+'] | ['-'] => .error .invalidDigit
  | '+' :: digits => readDigits bound 0 digits
  | digits => readDigits bound 0 digits

/-- The text is a numeral of the number: an optional plus sign and a word of digits. -/
def Denotes (text : List Char) (n : Nat) : Prop :=
  ∃ digits, (text = digits ∨ text = '+' :: digits) ∧ digits ≠ [] ∧ (∀ c ∈ digits, c.isDigit) ∧
    Nat.ofDigitChars 10 digits 0 = n

/-! ## The value of a word of digits -/

/-- Further digits do not bring the value down. -/
theorem le_ofDigitChars (digits : List Char) (n : Nat) : n ≤ Nat.ofDigitChars 10 digits n := by
  induction digits generalizing n with
  | nil => exact Nat.le_of_eq Nat.ofDigitChars_nil.symm
  | cons c digits ih =>
    rw [Nat.ofDigitChars_cons]
    have hstep := ih (10 * n + (c.toNat - '0'.toNat))
    omega

section

variable {bound result n : Nat} {c : Char} {digits : List Char}

theorem readDigits_other (h : c.isDigit = false) :
    readDigits bound result (c :: digits) = .error .invalidDigit := by
  simp [readDigits, digit?, h]

theorem readDigits_digit (hdigit : c.isDigit = true)
    (hnext : result * 10 + (c.toNat - '0'.toNat) < bound) :
    readDigits bound result (c :: digits) =
      readDigits bound (result * 10 + (c.toNat - '0'.toNat)) digits := by
  have hmul : result * 10 < bound := Nat.lt_of_le_of_lt (Nat.le_add_right _ _) hnext
  simp only [readDigits, digit?, checkedMul, checkedAdd, hdigit, hmul, hnext, if_true]

/-- The product overflows, or the sum does. -/
theorem readDigits_overflow (hdigit : c.isDigit = true)
    (hnext : bound ≤ result * 10 + (c.toNat - '0'.toNat)) :
    readDigits bound result (c :: digits) = .error .posOverflow := by
  have hadd := Nat.not_lt.mpr hnext
  by_cases hmul : result * 10 < bound
  · simp only [readDigits, digit?, checkedMul, checkedAdd, hdigit, hmul, hadd, if_true, if_false]
  · simp only [readDigits, digit?, checkedMul, hdigit, hmul, if_true, if_false]

/-- The loop succeeds on digits whose value the type can hold, and gives the value. -/
theorem readDigits_eq_ok_iff (h : result < bound) :
    readDigits bound result digits = .ok n ↔
      (∀ c ∈ digits, c.isDigit) ∧ Nat.ofDigitChars 10 digits result = n ∧ n < bound := by
  induction digits generalizing result with
  | nil =>
    rw [Nat.ofDigitChars_nil]
    constructor
    · intro hn
      cases hn
      exact ⟨by simp, rfl, h⟩
    · rintro ⟨-, rfl, -⟩
      rfl
  | cons c digits ih =>
    rw [List.forall_mem_cons, Nat.ofDigitChars_cons, Nat.mul_comm 10 result]
    cases hdigit : c.isDigit with
    | false =>
      rw [readDigits_other hdigit]
      simp
    | true =>
      by_cases hnext : result * 10 + (c.toNat - '0'.toNat) < bound
      · rw [readDigits_digit hdigit hnext, ih hnext]
        simp
      · -- the digits that follow cannot make up for it
        have hgrow := le_ofDigitChars digits (result * 10 + (c.toNat - '0'.toNat))
        rw [readDigits_overflow hdigit (Nat.not_lt.mp hnext)]
        constructor
        · intro hn
          cases hn
        · rintro ⟨-, rfl, hlt⟩
          omega

/-! ## Numerals -/

/-- What the sign leaves to the loop. -/
theorem fromStr_plus (h : digits ≠ []) :
    fromStr bound ('+' :: digits) = readDigits bound 0 digits := by
  cases digits with
  | nil => exact absurd rfl h
  | cons c digits => rfl

theorem fromStr_unsigned (h : digits ≠ []) (hplus : digits.head? ≠ some '+') :
    fromStr bound digits = readDigits bound 0 digits := by
  unfold fromStr
  split
  · exact absurd rfl h
  · exact absurd rfl hplus
  · exact (readDigits_other (by decide)).symm
  · exact absurd rfl hplus
  · rfl

theorem denotes_plus :
    Denotes ('+' :: digits) n ↔
      digits ≠ [] ∧ (∀ c ∈ digits, c.isDigit) ∧ Nat.ofDigitChars 10 digits 0 = n := by
  constructor
  · rintro ⟨digits', rfl | h, hne, hdigits, hvalue⟩
    · exact absurd (hdigits '+' List.mem_cons_self) (by decide)
    · cases h
      exact ⟨hne, hdigits, hvalue⟩
  · intro h
    exact ⟨digits, Or.inr rfl, h⟩

theorem denotes_unsigned (hplus : digits.head? ≠ some '+') :
    Denotes digits n ↔
      digits ≠ [] ∧ (∀ c ∈ digits, c.isDigit) ∧ Nat.ofDigitChars 10 digits 0 = n := by
  constructor
  · rintro ⟨digits', rfl | rfl, h⟩
    · exact h
    · exact absurd rfl hplus
  · intro h
    exact ⟨digits, Or.inl rfl, h⟩

/-- `from_str` reads the numerals of the numbers that the type can hold. -/
theorem fromStr_eq_ok_iff {text : List Char} (hbound : 0 < bound) :
    fromStr bound text = .ok n ↔ Denotes text n ∧ n < bound := by
  by_cases hplus : text.head? = some '+'
  · obtain ⟨digits, rfl⟩ := List.head?_eq_some_iff.mp hplus
    rw [denotes_plus]
    by_cases hne : digits = []
    · subst hne
      simp [fromStr]
    · rw [fromStr_plus hne, readDigits_eq_ok_iff hbound]
      simp only [ne_eq, hne, not_false_eq_true, true_and, and_assoc]
  · rw [denotes_unsigned hplus]
    by_cases hne : text = []
    · subst hne
      simp [fromStr]
    · rw [fromStr_unsigned hne hplus, readDigits_eq_ok_iff hbound]
      simp only [ne_eq, hne, not_false_eq_true, true_and, and_assoc]

/-- The decimal form of a number is a numeral of it. -/
theorem denotes_toString (n : Nat) : Denotes (toString n).toList n := by
  rw [Nat.toString_eq_repr, Nat.toList_repr]
  refine ⟨Nat.toDigits 10 n, Or.inl rfl, Nat.toDigits_ne_nil, ?_, Nat.ofDigitChars_ten_toDigits⟩
  intro c hc
  exact Nat.isDigit_of_mem_toDigits (by decide) (by decide) hc

theorem fromStr_toString (h : n < bound) : fromStr bound (toString n).toList = .ok n :=
  (fromStr_eq_ok_iff (Nat.zero_lt_of_lt h)).mpr ⟨denotes_toString n, h⟩

end

example : ["0", "+007", "65535", "65536", "", "+", "-1", " 80", "8080x"].map
      (fun text => (fromStr 65536 text.toList).toOption) =
    [some 0, some 7, some 65535, none, none, none, none, none, none] := by
  decide

end Numeral
