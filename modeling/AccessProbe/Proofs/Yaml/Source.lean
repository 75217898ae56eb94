import AccessProbe.Yaml.Source

/-! The UTF-8 bytes of an allowed text are decoded to that text. -/

namespace AccessProbe.Yaml

/-- The width and the bits of a first byte, from its number. -/
theorem width?_ofNat {number : Nat} (byte : number < 256) : width? (UInt8.ofNat number) =
    if number < 0x80 then some (1, number)
    else if 0xC0 ≤ number ∧ number < 0xE0 then some (2, number % 0x20)
    else if 0xE0 ≤ number ∧ number < 0xF0 then some (3, number % 0x10)
    else if 0xF0 ≤ number ∧ number < 0xF8 then some (4, number % 0x08)
    else none := by
  -- The same comparisons, as numbers.
  have same : (UInt8.ofNat number).toNat = number := UInt8.toNat_ofNat_of_lt byte
  simp only [width?, UInt8.lt_iff_toNat_lt, UInt8.le_iff_toNat_le, same]
  rfl

/-- A trailing byte adds its six bits. -/
theorem readTrailing_cons (offset bits code : Nat) (rest : List UInt8) :
    readTrailing offset (UInt8.ofNat (bits % 64 + 128) :: rest) code =
      readTrailing (offset + 1) rest (code * 64 + bits % 64) := by
  -- The byte is a trailing one, and its payload are the bits.
  have byte : bits % 64 + 128 < UInt8.size := Nat.lt_trans (m := 192) (by omega) (by decide)
  have same : (UInt8.ofNat (bits % 64 + 128)).toNat = bits % 64 + 128 := UInt8.toNat_ofNat_of_lt byte
  have goesOn : Utf8.continues (UInt8.ofNat (bits % 64 + 128)) = true := by
    simp only [Utf8.continues, Bool.and_eq_true, decide_eq_true_eq, UInt8.le_iff_toNat_le, same]
    exact ⟨by simp, by simp only [UInt8.reduceToNat]; omega⟩
  have adds : Utf8.payload (UInt8.ofNat (bits % 64 + 128)) = bits % 64 := by
    rw [Utf8.payload, same]
    omega
  rw [readTrailing, goesOn, adds]
  rfl

/-- A character is decoded from its code if that is the shortest form and allowed. -/
theorem readCharacter_eq_ok {offset lead width : Nat} {trailing : List UInt8} {c : Char}
    (code : readTrailing (offset + 1) trailing lead = .ok c.toNat) (shortest : isShortest c.toNat width = true)
    (allowed : isAllowed c.toNat = true) : readCharacter offset lead width trailing = .ok c := by
  -- The three checks pass one after the other.
  have valid : c.toNat.isValidChar := c.valid
  simp only [readCharacter, code, Bind.bind, Except.bind, shortest, allowed, valid, decide_true, Bool.not_true,
    Bool.false_eq_true, if_false, Char.ofNat_toNat]
  rfl

/-- A character is decoded from its first byte and its trailing bytes. -/
theorem readCharacters_cons {number width : Nat} {rest : List UInt8} {offset : Nat} {c : Char} (lead : Nat)
    (trailing : List UInt8) (first : width? (UInt8.ofNat number) = some (width, lead))
    (wide : trailing.length = width - 1)
    (read : readCharacter offset lead width trailing = .ok c) :
    readCharacters offset (UInt8.ofNat number :: (trailing ++ rest)) =
      (readCharacters (offset + width) rest).map (c :: ·) := by
  -- The trailing bytes are exactly those that the width asks for.
  rw [readCharacters]
  simp only [first, ← wide, List.length_append, List.take_left', List.drop_left', read]
  rw [if_neg (by omega)]

/-- The bytes of an allowed character are decoded to it. -/
theorem readCharacters_char {c : Char} (allowed : isAllowed c.toNat = true) (offset : Nat) (rest : List UInt8) :
    ∃ width, readCharacters offset (String.utf8EncodeChar c ++ rest) =
      (readCharacters (offset + width) rest).map (c :: ·) := by
  have bound : c.toNat < 0x110000 := by
    have valid : c.toNat < 0xD800 ∨ 0xDFFF < c.toNat ∧ c.toNat < 0x110000 := c.valid
    omega
  have number : c.val.toNat = c.toNat := rfl
  simp only [String.utf8EncodeChar, number]
  -- The encoding has one to four bytes.
  split
  -- One byte: the code itself.
  · rename_i small
    refine ⟨1, readCharacters_cons c.toNat [] ?_ rfl (readCharacter_eq_ok rfl rfl allowed)⟩
    rw [width?_ofNat (by omega), if_pos (by omega)]
  · rename_i one
    split
    -- Two bytes: five bits in the first one, six in the second one.
    · rename_i small
      refine ⟨2, readCharacters_cons (c.toNat / 64 % 32) [UInt8.ofNat (c.toNat % 64 + 128)] ?_ rfl
        (readCharacter_eq_ok ?_ ?_ allowed)⟩
      · rw [width?_ofNat (by omega), if_neg (by omega), if_pos (by omega)]
        have bits : (c.toNat / 64 % 32 + 192) % 32 = c.toNat / 64 % 32 := by omega
        rw [bits]
      · rw [readTrailing_cons, readTrailing, show c.toNat / 64 % 32 * 64 + c.toNat % 64 = c.toNat by omega]
      · have least : 0x80 ≤ c.toNat := by omega
        simp [isShortest, least]
    · rename_i two
      split
      -- Three bytes: four bits in the first one, six in each of the others.
      · rename_i small
        refine ⟨3, readCharacters_cons (c.toNat / 4096 % 16)
          [UInt8.ofNat (c.toNat / 64 % 64 + 128), UInt8.ofNat (c.toNat % 64 + 128)] ?_ rfl
          (readCharacter_eq_ok ?_ ?_ allowed)⟩
        · rw [width?_ofNat (by omega), if_neg (by omega), if_neg (by omega), if_pos (by omega)]
          have bits : (c.toNat / 4096 % 16 + 224) % 16 = c.toNat / 4096 % 16 := by omega
          rw [bits]
        · rw [readTrailing_cons, readTrailing_cons, readTrailing,
            show (c.toNat / 4096 % 16 * 64 + c.toNat / 64 % 64) * 64 + c.toNat % 64 = c.toNat by omega]
        · have least : 0x800 ≤ c.toNat := by omega
          simp [isShortest, least]
      -- Four bytes: three bits in the first one, six in each of the others.
      · rename_i three
        refine ⟨4, readCharacters_cons (c.toNat / 262144 % 8) [UInt8.ofNat (c.toNat / 4096 % 64 + 128),
          UInt8.ofNat (c.toNat / 64 % 64 + 128), UInt8.ofNat (c.toNat % 64 + 128)] ?_ rfl
          (readCharacter_eq_ok ?_ ?_ allowed)⟩
        · rw [width?_ofNat (by omega), if_neg (by omega), if_neg (by omega), if_neg (by omega), if_pos (by omega)]
          have bits : (c.toNat / 262144 % 8 + 240) % 8 = c.toNat / 262144 % 8 := by omega
          rw [bits]
        · rw [readTrailing_cons, readTrailing_cons, readTrailing_cons, readTrailing,
            show ((c.toNat / 262144 % 8 * 64 + c.toNat / 4096 % 64) * 64 + c.toNat / 64 % 64) * 64 +
              c.toNat % 64 = c.toNat by omega]
        · have least : 0x10000 ≤ c.toNat := by omega
          simp [isShortest, least]

/-- The bytes of a text of allowed characters are decoded to it. -/
theorem readCharacters_encode {text : List Char} (allowed : ∀ c ∈ text, isAllowed c.toNat = true) (offset : Nat) :
    readCharacters offset (Utf8.encode text) = .ok text := by
  -- Character by character, at every offset.
  induction text generalizing offset with
  | nil => simp [Utf8.encode, readCharacters]
  | cons c rest ih =>
    obtain ⟨width, first⟩ := readCharacters_char (allowed c (.head _)) offset (Utf8.encode rest)
    have parts : Utf8.encode (c :: rest) = String.utf8EncodeChar c ++ Utf8.encode rest := List.flatMap_cons
    rw [parts, first, ih fun other member => allowed other (.tail _ member)]
    rfl

/-- The bytes of an allowed text without a byte order mark are decoded to it. -/
theorem readSource_encode {text : List Char} (allowed : ∀ c ∈ text, isAllowed c.toNat = true)
    (unmarked : text.head? ≠ some '\uFEFF') : readSource (Utf8.encode text) = .ok ⟨Mark.start, text⟩ := by
  -- Only a byte order mark would be taken off.
  rw [readSource, readCharacters_encode allowed]
  simp only [Bind.bind, Except.bind]
  split
  · simp at unmarked
  · rfl

end AccessProbe.Yaml
