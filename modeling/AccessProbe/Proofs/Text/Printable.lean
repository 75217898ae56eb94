import AccessProbe.Proofs.Text.Letters
import AccessProbe.Text.Percent

/-! Strings of printable ASCII characters, such as percent-encodings and numbers. -/

namespace AccessProbe

/-- A string without control characters and characters beyond ASCII. -/
def Printable (text : List Char) : Prop := ∀ c ∈ text, Percent.isControl c = false

instance (text : List Char) : Decidable (Printable text) := List.decidableBAll _ _

/-- The printable characters are those from the space to the tilde. -/
theorem isControl_eq_false_iff {c : Char} :
    Percent.isControl c = false ↔ 0x20 ≤ c.toNat ∧ c.toNat ≤ 0x7E := by
  simp [Percent.isControl]

/-- Letters and digits are printable. -/
theorem isControl_of_isAlphanum {c : Char} (shown : c.isAlphanum) : Percent.isControl c = false := by
  have range := toNat_of_isAlphanum shown
  rw [isControl_eq_false_iff]
  omega

namespace Printable

variable {text rest : List Char} {c : Char}

@[simp] theorem nil : Printable [] := by simp [Printable]

@[simp] theorem cons_iff : Printable (c :: rest) ↔ Percent.isControl c = false ∧ Printable rest := by
  simp [Printable]

@[simp] theorem append_iff : Printable (text ++ rest) ↔ Printable text ∧ Printable rest := by
  simp only [Printable, List.mem_append, or_imp, forall_and]

/-- The characters of a printable string are printable in any order. -/
theorem subset (whole : Printable text) (part : rest ⊆ text) : Printable rest :=
  fun c member => whole c (part member)

/-- A concatenation of printable strings is printable. -/
theorem flatMap {α : Type} {things : List α} {written : α → List Char}
    (each : ∀ thing ∈ things, Printable (written thing)) : Printable (things.flatMap written) := by
  intro c member
  obtain ⟨thing, place, inside⟩ := List.mem_flatMap.mp member
  exact each thing place c inside

/-- Printable strings with a printable separator are printable. -/
theorem intercalate {pieces : List (List Char)} (between : Printable text)
    (each : ∀ piece ∈ pieces, Printable piece) : Printable (text.intercalate pieces) := by
  -- Every piece but the last one has the separator behind it.
  induction pieces with
  | nil => simp
  | cons piece others ih =>
    have after := ih fun other member => each other (.tail _ member)
    cases others with
    | nil => simpa using each
    | cons next others =>
      rw [List.intercalate_cons_cons, append_iff, append_iff]
      exact ⟨⟨each piece (.head _), between⟩, after⟩

/-- A printable string is a single line. -/
theorem newline_not_mem (printable : Printable text) : '\n' ∉ text :=
  fun member => absurd (printable _ member) (by decide)

end Printable

namespace Percent

/-- Hexadecimal digits are printable. -/
theorem isControl_upperHexDigit {digit : Nat} (small : digit < 16) : isControl (upperHexDigit digit) = false := by
  revert digit
  decide

/-- A percent escape is printable. -/
theorem printable_escape (byte : UInt8) : Printable (escape byte) := by
  -- It is a percent sign and two digits.
  have bound := byte.toNat_lt
  rw [escape, Printable.cons_iff, Printable.cons_iff, Printable.cons_iff]
  exact ⟨by decide, isControl_upperHexDigit (by omega), isControl_upperHexDigit (by omega), .nil⟩

/-- Percent-encoding with a set that includes the control characters yields a printable string. -/
theorem printable_encode {escaped : Char → Bool} (wide : ∀ c, isControl c = true → escaped c = true)
    (text : List Char) : Printable (encode escaped text) := by
  -- Each character is either printable or replaced by escapes.
  apply Printable.flatMap
  intro c _
  split
  · -- A character of the set is replaced by the escapes of its bytes.
    intro shown member
    obtain ⟨byte, _, inside⟩ := List.mem_flatMap.mp member
    exact printable_escape byte shown inside
  · rename_i plain
    have kept : isControl c = false := Bool.eq_false_iff.mpr fun control => plain (wide c control)
    simp [kept]

end Percent

/-- The digits of every base are printable. -/
theorem isControl_digitChar (digit : Nat) : Percent.isControl digit.digitChar = false := by
  by_cases small : digit < 16
  · revert digit
    decide
  · -- From 16 on every digit is an asterisk.
    rw [Nat.digitChar_eq_star.mpr (Nat.le_of_not_lt small)]
    decide

/-- The digits of a number are printable. -/
theorem printable_toDigits (base number : Nat) : Printable (Nat.toDigits base number) := by
  -- The loop puts digits in front of an accumulator, which has to be printable too.
  have core (fuel : Nat) : ∀ (number : Nat) (behind : List Char), Printable behind →
      Printable (Nat.toDigitsCore base fuel number behind) := by
    induction fuel with
    | zero => exact fun _ _ printable => printable
    | succ fuel ih =>
      intro number behind printable
      have next := Printable.cons_iff.mpr ⟨isControl_digitChar (number % base), printable⟩
      rw [Nat.toDigitsCore]
      split
      · exact next
      · exact ih _ _ next
  exact core _ number [] .nil

theorem printable_toString (number : Nat) : Printable (toString number).toList := by
  rw [show toString number = String.ofList (Nat.toDigits 10 number) from rfl, String.toList_ofList]
  exact printable_toDigits 10 number

end AccessProbe
