/-! ASCII letters and digits, their code points and their case. -/

namespace AccessProbe

/-- The code points of letters and digits. -/
theorem toNat_of_isAlphanum {c : Char} (shown : c.isAlphanum = true) :
    (0x30 ≤ c.toNat ∧ c.toNat ≤ 0x39) ∨ (0x41 ≤ c.toNat ∧ c.toNat ≤ 0x5A) ∨
      (0x61 ≤ c.toNat ∧ c.toNat ≤ 0x7A) := by
  -- The definition compares machine words, which are turned into natural numbers.
  change (decide (c.val ≥ 65 ∧ c.val ≤ 90) || (c.val ≥ 97 && c.val ≤ 122) ||
    (c.val ≥ 48 && c.val ≤ 57)) = true at shown
  simp only [Bool.or_eq_true, Bool.and_eq_true, decide_eq_true_eq, ge_iff_le,
    UInt32.le_iff_toNat_le] at shown
  change (0x30 ≤ c.val.toNat ∧ c.val.toNat ≤ 0x39) ∨ (0x41 ≤ c.val.toNat ∧ c.val.toNat ≤ 0x5A) ∨
    (0x61 ≤ c.val.toNat ∧ c.val.toNat ≤ 0x7A)
  -- The two sides differ in the order of the three ranges only.
  rcases shown with (upper | lower) | digit
  · exact .inr (.inl upper)
  · exact .inr (.inr lower)
  · exact .inl digit

/-- What holds of the letters and digits of ASCII holds of all letters and digits. -/
theorem forall_isAlphanum {P : Char → Prop}
    (basic : ∀ code < 0x80, (Char.ofNat code).isAlphanum → P (Char.ofNat code)) {c : Char}
    (shown : c.isAlphanum) : P c := by
  -- A letter or digit has a code point below 128, so that the finite check covers it.
  have range := toNat_of_isAlphanum shown
  have holds := basic c.toNat (by omega)
  rw [Char.ofNat_toNat] at holds
  exact holds shown

theorem isAlpha_of_isLower {c : Char} (small : c.isLower = true) : c.isAlpha = true :=
  Bool.or_eq_true_iff.mpr (.inr small)

theorem isAlphanum_of_isAlpha {c : Char} (letter : c.isAlpha = true) : c.isAlphanum = true :=
  Bool.or_eq_true_iff.mpr (.inl letter)

/-- Only letters change in lower case. -/
theorem toLower_eq_self {c : Char} (other : c.isAlpha = false) : c.toLower = c := by
  have notUpper : c.isUpper = false := (Bool.or_eq_false_iff.mp other).1
  exact dif_neg (of_decide_eq_false notUpper)

/-- The lower case of a string is that of its characters. -/
theorem toLower_eq (text : String) : text.toLower = String.ofList (text.toList.map Char.toLower) :=
  String.map_eq_internal

theorem ne_of_toNat_ne {c d : Char} (differ : c.toNat ≠ d.toNat) : c ≠ d :=
  fun same => differ (congrArg Char.toNat same)

end AccessProbe
