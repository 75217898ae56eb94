import AccessProbe.Domain.Ascii
import AccessProbe.Proofs.Text.Printable

/-! The ASCII form of a domain name is printable. -/

namespace AccessProbe

namespace Punycode

/-- The digits of Punycode are printable. -/
theorem isControl_digitChar {digit : Nat} (small : digit < 36) : Percent.isControl (digitChar digit) = false := by
  revert digit
  decide

/-- Thresholds lie between 1 and 26. -/
theorem threshold_bounds (position bias : Nat) : 1 ≤ threshold position bias ∧ threshold position bias ≤ 26 := by
  unfold threshold
  omega

/-- The digits of a number are printable. -/
theorem printable_digitsOf (number position bias : Nat) : Printable (digitsOf number position bias) := by
  -- Recursion on the number, as in `digitsOf`.
  have bounds := threshold_bounds position bias
  rw [digitsOf]
  split
  · rename_i last
    simpa using isControl_digitChar (by omega)
  · -- The digit lies between the threshold and the base, and the rest is a smaller number.
    rename_i more
    have small :
        threshold position bias + (number - threshold position bias) % (36 - threshold position bias) < 36 := by
      have := Nat.mod_lt (number - threshold position bias) (y := 36 - threshold position bias) (by omega)
      omega
    have smaller : (number - threshold position bias) / (36 - threshold position bias) < number := by
      have := Nat.div_le_self (number - threshold position bias) (36 - threshold position bias)
      omega
    exact Printable.cons_iff.mpr ⟨isControl_digitChar small, printable_digitsOf _ _ _⟩
termination_by number

variable {writing : Writing}

/-- Passing a character keeps the output printable. -/
theorem Writing.printable_pass (printable : Printable writing.reversed) (basic code : Nat) (c : Char) :
    Printable (writing.pass basic code c).reversed := by
  -- Only a character with the code point adds digits.
  unfold pass
  split
  · exact printable
  · split
    · -- The output is kept in reverse, and so are the digits that are added.
      refine Printable.append_iff.mpr ⟨?_, printable⟩
      exact (printable_digitsOf _ _ _).subset (List.reverse_subset.mpr fun _ => id)
    · exact printable

/-- Encoding insertions keeps the output printable. -/
theorem printable_insertions (label : List Char) (basic : Nat) (codes : List Nat) (reached : Nat)
    (printable : Printable writing.reversed) : Printable (insertions label basic codes reached writing).reversed := by
  -- Induction on the code points, where one pass over the label belongs to each of them.
  induction codes generalizing reached writing with
  | nil => exact printable
  | cons code codes ih =>
    rw [insertions]
    apply ih
    -- The pass is a fold whose invariant is that the output is printable.
    show Printable (label.foldl (Writing.pass basic code) _).reversed
    apply List.foldlRecOn (motive := fun writing : Writing => Printable writing.reversed)
    · exact printable
    · exact fun writing printable c _ => writing.printable_pass printable basic code c

/-- The Punycode of a label is printable if its ASCII characters are. -/
theorem printable_encode {label : List Char} (basic : ∀ c ∈ label, c.toNat < 0x80 → Percent.isControl c = false) :
    Printable (encode label) := by
  -- The ASCII characters are kept as they are.
  have kept : Printable (label.filter (·.toNat < 0x80)) := by
    intro c member
    obtain ⟨inside, small⟩ := List.mem_filter.mp member
    exact basic c inside (by simpa using small)
  unfold encode
  apply Printable.append_iff.mpr
  -- They come first, and the insertions of the other characters behind them.
  constructor
  · split
    · exact .nil
    · exact Printable.append_iff.mpr ⟨kept, by decide⟩
  · exact (printable_insertions _ _ _ _ .nil).subset (List.reverse_subset.mpr fun _ => id)

end Punycode

namespace Domain

variable {label shown : List Char}

/-- An ASCII character that is allowed in a domain is printable. -/
theorem isControl_of_allowed {c : Char} (allowed : isForbidden c = false) (basic : c.toNat < 0x80) :
    Percent.isControl c = false := by
  -- Forbidden are all control characters, DEL among them.
  have other : c ≠ '\x7f' := by
    rintro rfl
    cases allowed
  -- DEL is the only control character above the space.
  have below : c.toNat ≠ 0x7F := fun same => other (Char.toNat_inj.mp same)
  simp only [isForbidden, Bool.or_eq_false_iff, decide_eq_false_iff_not] at allowed
  rw [isControl_eq_false_iff]
  omega

/-- A plain name is printable. -/
theorem printable_of_isPlain (plain : isPlain label = true) : Printable label := by
  -- Each of its characters is ASCII and allowed.
  intro c member
  have allowed := List.all_eq_true.mp plain c member
  simp only [Bool.and_eq_true, decide_eq_true_eq, Bool.not_eq_true'] at allowed
  exact isControl_of_allowed allowed.1.2 allowed.1.1

/-- The Unicode form of a label is valid. -/
theorem isLabel_of_shownLabel? (found : shownLabel? label = some shown) : isLabel shown = true := by
  -- Both branches check the label they return.
  unfold shownLabel? at found
  split at found
  · -- Punycode is decoded and the result is checked.
    simp only [Bind.bind, Option.bind_eq_some_iff] at found
    obtain ⟨read, _, found⟩ := found
    split at found
    · cases found
    · rename_i accepted
      rw [← Option.some.inj found]
      rw [Bool.or_eq_true, not_or] at accepted
      simpa using accepted.2
  · -- Any other label is checked as it is.
    split at found
    · rename_i accepted
      rwa [← Option.some.inj found]
    · cases found

/-- The ASCII form of a valid label is printable. -/
theorem printable_wireLabel (accepted : isLabel shown = true) : Printable (wireLabel shown) := by
  -- A valid label contains no forbidden character.
  have allowed : ∀ c ∈ shown, isForbidden c = false := by
    simp only [isLabel, Bool.and_eq_true] at accepted
    simpa using accepted.1.1.1
  unfold wireLabel
  split
  · rename_i basic
    exact fun c member => isControl_of_allowed (allowed c member) (by simpa using List.all_eq_true.mp basic c member)
  · -- Other characters are written in Punycode behind `xn--`.
    apply Printable.append_iff.mpr
    exact ⟨by decide, Punycode.printable_encode fun c member => isControl_of_allowed (allowed c member)⟩

/-- Every result of a `mapM` comes from an element of the list. -/
theorem exists_of_mem_mapM {labels : List (List Char)} {found : List (List Char)}
    {change : List Char → Option (List Char)} (all : labels.mapM change = some found) (member : shown ∈ found) :
    ∃ label ∈ labels, change label = some shown := by
  -- Induction on the list: the result is the first one or one of the others.
  induction labels generalizing found with
  | nil =>
    cases all
    cases member
  | cons label rest ih =>
    simp only [List.mapM_cons, Bind.bind, Option.bind_eq_some_iff] at all
    obtain ⟨first, changed, others, after, joined⟩ := all
    rw [← Option.some.inj joined] at member
    rcases List.mem_cons.mp member with rfl | later
    · exact ⟨label, .head _, changed⟩
    · obtain ⟨original, place, changed⟩ := ih after later
      exact ⟨original, .tail _ place, changed⟩

/-- The ASCII form of a domain name is printable. -/
theorem printable_toAscii? {name wire : List Char} (found : toAscii? name = some wire) : Printable wire := by
  -- A plain name is its own form, any other one is put together from labels.
  simp only [toAscii?] at found
  split at found
  · rename_i plain
    rw [← Option.some.inj found]
    exact printable_of_isPlain (Bool.and_eq_true_iff.mp plain).1
  · -- Neither the bidirectional rule nor the limit on the length changes a label.
    simp only [Bind.bind, Option.bind_eq_some_iff] at found
    obtain ⟨read, _, labels, each, found⟩ := found
    have joined : ['.'].intercalate (labels.map wireLabel) = wire := by
      split at found
      · cases found
      · split at found
        · cases found
        · exact Option.some.inj found
    rw [← joined]
    apply Printable.intercalate (by decide)
    intro piece member
    obtain ⟨shown, place, rfl⟩ := List.mem_map.mp member
    obtain ⟨label, _, shows⟩ := exists_of_mem_mapM each place
    exact printable_wireLabel (isLabel_of_shownLabel? shows)

end Domain

end AccessProbe
