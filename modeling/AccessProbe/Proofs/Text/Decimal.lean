import AccessProbe.Yaml.Value

/-! Numbers are read back from their decimal digits. -/

namespace AccessProbe

variable {digits : List Char} {number bound : Nat}

namespace Decimal

/-- The code points of the digits. -/
theorem toNat_of_isDigit {c : Char} (digit : c.isDigit = true) : 0x30 ≤ c.toNat ∧ c.toNat ≤ 0x39 := by
  simpa [Char.isDigit, UInt32.le_iff_toNat_le] using digit

/-- A string of digits does not begin with another character. -/
theorem ne_cons_of_isDigit (decimal : ∀ c ∈ digits, c.isDigit = true) {c : Char} (other : c.isDigit = false)
    (rest : List Char) : digits ≠ c :: rest := by
  rintro rfl
  cases (decimal c (.head _)).symm.trans other

/-- Further digits make a number no smaller. -/
theorem le_ofDigitChars (digits : List Char) (number : Nat) : number ≤ Nat.ofDigitChars 10 digits number := by
  -- The number is multiplied by a power of ten, and something is added.
  rw [Nat.ofDigitChars_eq_ofDigitChars_zero]
  exact Nat.le_add_right_of_le (Nat.le_mul_of_pos_left number (Nat.pow_pos (by decide)))

/-- Digits are read if their number is below the bound. -/
theorem readDigits_eq_ok (decimal : ∀ c ∈ digits, c.isDigit = true)
    (below : Nat.ofDigitChars 10 digits number < bound) :
    readDigits bound number digits = .ok (Nat.ofDigitChars 10 digits number) := by
  -- The bound is checked at every digit, and no prefix has a greater number than the whole.
  induction digits generalizing number with
  | nil => rfl
  | cons c rest ih =>
    rw [Nat.ofDigitChars_cons] at below ⊢
    have smaller : ¬ bound ≤ 10 * number + (c.toNat - 0x30) :=
      Nat.not_le_of_lt (Nat.lt_of_le_of_lt (le_ofDigitChars rest _) below)
    rw [readDigits, decimal c (.head _)]
    simp only [Bool.not_true, Bool.false_eq_true, if_false, if_neg smaller]
    exact ih (fun other member => decimal other (.tail _ member)) below

/-- Digits without a sign are read if their number is below the bound. -/
theorem readNumber_eq_ok (nonempty : digits ≠ []) (decimal : ∀ c ∈ digits, c.isDigit = true)
    (below : Nat.ofDigitChars 10 digits 0 < bound) :
    readNumber bound digits = .ok (Nat.ofDigitChars 10 digits 0) := by
  -- Neither the empty string nor a sign is a string of digits.
  have unsigned := ne_cons_of_isDigit decimal (by decide : '+'.isDigit = false)
  unfold readNumber
  split
  · exact absurd rfl nonempty
  · exact absurd rfl (unsigned _)
  · exact absurd rfl (unsigned _)
  · exact readDigits_eq_ok decimal below

/-- Decimal digits spell their number. -/
theorem digitsIn?_ten (nonempty : digits ≠ []) (decimal : ∀ c ∈ digits, c.isDigit = true) :
    digitsIn? 10 digits = some (Nat.ofDigitChars 10 digits 0) := by
  -- The fold goes through `hexDigit?`, which gives the value of every decimal digit.
  have digit (c : Char) (decimal : c.isDigit = true) : hexDigit? c = some (c.toNat - 0x30) := by
    rw [hexDigit?, if_pos (toNat_of_isDigit decimal)]
  have folded (number : Nat) : digits.foldlM (fun number c => do
      let digit ← hexDigit? c
      if digit < 10 then some (10 * number + digit) else none) number =
        some (Nat.ofDigitChars 10 digits number) := by
    clear nonempty
    induction digits generalizing number with
    | nil => rfl
    | cons c rest ih =>
      have range := toNat_of_isDigit (decimal c (.head _))
      have small : c.toNat - 0x30 < 10 := by omega
      have others := ih (fun other member => decimal other (.tail _ member)) (10 * number + (c.toNat - 0x30))
      simpa [digit c (decimal c (.head _)), small, Nat.ofDigitChars_cons] using others
  rw [digitsIn?, if_neg (by simpa using nonempty), folded]

/-- A number whose first digit is zero is zero. -/
theorem eq_zero_of_head? (zero : (Nat.toDigits 10 number).head? = some '0') : number = 0 := by
  -- The first digit of a number is that of a tenth of it, unless it has one digit only.
  induction number using Nat.strongRecOn with
  | ind number ih =>
    by_cases small : number < 10
    · rw [Nat.toDigits_of_lt_base small] at zero
      exact Nat.digitChar_eq_zero.mp (Option.some.inj zero)
    · rw [Nat.toDigits_of_base_le (by decide) (by omega), List.head?_append, Option.or_eq_some_iff] at zero
      rcases zero with first | ⟨empty, _⟩
      · have none := ih (number / 10) (by omega) first
        omega
      · exact absurd (List.head?_eq_none_iff.mp empty) Nat.toDigits_ne_nil

/-- A number is written in digits, which spell it. -/
theorem toString_digits (number : Nat) : (toString number).toList ≠ [] ∧
    (∀ c ∈ (toString number).toList, c.isDigit = true) ∧ Nat.ofDigitChars 10 (toString number).toList 0 = number := by
  rw [Nat.toString_eq_ofList_toDigits, String.toList_ofList]
  exact ⟨Nat.toDigits_ne_nil, fun c member => Nat.isDigit_of_mem_toDigits (by decide) (by decide) member,
    Nat.ofDigitChars_ten_toDigits⟩

/-- A number below a bound is read back from its digits. -/
theorem readNumber_toString (below : number < bound) : readNumber bound (toString number).toList = .ok number := by
  obtain ⟨nonempty, decimal, same⟩ := toString_digits number
  rw [readNumber_eq_ok nonempty decimal (by rw [same]; exact below), same]

end Decimal

namespace Yaml

open Decimal

/-- Digits are read as a YAML integer below a bound, unless a zero leads other digits. -/
theorem unsigned?_eq_some (nonempty : digits ≠ []) (decimal : ∀ c ∈ digits, c.isDigit = true)
    (leading : digits.head? = some '0' → digits.length = 1) (below : Nat.ofDigitChars 10 digits 0 < bound) :
    unsigned? bound digits = some (Nat.ofDigitChars 10 digits 0) := by
  -- There is no sign, no other base and no string of digits with a leading zero.
  have plus := ne_cons_of_isDigit decimal (by decide : '+'.isDigit = false)
  have minus := ne_cons_of_isDigit decimal (by decide : '-'.isDigit = false)
  have sign : dropSign '+' digits = digits := by
    unfold dropSign
    split
    · rename_i c rest
      exact if_neg fun same => plus rest (by rw [same])
    · rfl
  -- Another base would have a letter as its second character.
  have base : based digits = none := by
    unfold based
    split
    · cases decimal 'x' (.tail _ (.head _))
    · cases decimal 'o' (.tail _ (.head _))
    · cases decimal 'b' (.tail _ (.head _))
    · rfl
  have noString : isDigitString digits = false := by
    unfold isDigitString
    split
    · exact absurd rfl (minus _)
    · exact absurd rfl (plus _)
    · by_cases zero : digits.head? = some '0'
      · simp [leading zero]
      · simp [zero]
  simp [unsigned?, sign, base, noString, below?, digitsIn?_ten nonempty decimal, below]

/-- A number below a bound is read back from its digits as a YAML integer. -/
theorem unsigned?_toString (below : number < bound) : unsigned? bound (toString number).toList = some number := by
  -- Only zero is written with a leading zero, and it has no other digits.
  obtain ⟨nonempty, decimal, same⟩ := toString_digits number
  have leading : (toString number).toList.head? = some '0' → (toString number).toList.length = 1 := by
    rw [Nat.toString_eq_ofList_toDigits, String.toList_ofList]
    intro zero
    rw [eq_zero_of_head? zero]
    rfl
  rw [unsigned?_eq_some nonempty decimal leading (by rw [same]; exact below), same]

end Yaml

end AccessProbe
