import AccessProbe.Text.Utf8

/-! Decoding inverts encoding, so that different strings have different bytes. -/

namespace AccessProbe.Utf8

section Units

variable {lead second third fourth low high : UInt8}

/-- An ASCII byte is a character. -/
theorem units_one (basic : lead.toNat < 0x80) (rest : List UInt8) :
    units (lead :: rest) = some (Char.ofNat lead.toNat) :: units rest := by
  have small : lead < 0x80 := UInt8.lt_iff_toNat_lt.mpr basic
  rw [units.eq_def]
  simp only [small, if_true]

/-- A leading byte of several is not ASCII. -/
theorem not_basic {count : Nat} (follows : follow? lead = some (count, low, high)) : ¬ lead < 0x80 := by
  -- For an ASCII byte all seven conditions of `follow?` fail.
  intro small
  have basic : lead.toNat < 0x80 := UInt8.lt_iff_toNat_lt.mp small
  have alone : follow? lead = none := by
    simp only [follow?, UInt8.le_iff_toNat_le, ← UInt8.toNat_inj, UInt8.reduceToNat]
    iterate 7 rw [if_neg (by omega)]
  cases alone.symm.trans follows

/-- Two bytes are a character if the second one is within the bounds. -/
theorem units_two (follows : follow? lead = some (1, low, high)) (within : low ≤ second ∧ second ≤ high)
    (rest : List UInt8) : units (lead :: second :: rest) =
      some (Char.ofNat (lead.toNat % 0x20 * 0x40 + payload second)) :: units rest := by
  have inside : ¬ (second < low ∨ high < second) := by simpa only [not_or, UInt8.not_lt] using within
  rw [units.eq_def]
  simp only [not_basic follows, follows, inside, if_true, if_false]

/-- Three bytes are a character if the second one is within the bounds and the third one is a continuation
byte. -/
theorem units_three (follows : follow? lead = some (2, low, high)) (within : low ≤ second ∧ second ≤ high)
    (goesOn : continues third) (rest : List UInt8) : units (lead :: second :: third :: rest) =
      some (Char.ofNat ((lead.toNat % 0x10 * 0x40 + payload second) * 0x40 + payload third)) :: units rest := by
  have inside : ¬ (second < low ∨ high < second) := by simpa only [not_or, UInt8.not_lt] using within
  rw [units.eq_def]
  simp [not_basic follows, follows, inside, goesOn]

/-- Four bytes are a character under the same conditions. -/
theorem units_four (follows : follow? lead = some (3, low, high)) (within : low ≤ second ∧ second ≤ high)
    (goesOn : continues third ∧ continues fourth) (rest : List UInt8) :
    units (lead :: second :: third :: fourth :: rest) =
      some (Char.ofNat (((lead.toNat % 0x08 * 0x40 + payload second) * 0x40 + payload third) * 0x40
        + payload fourth)) :: units rest := by
  have inside : ¬ (second < low ∨ high < second) := by simpa only [not_or, UInt8.not_lt] using within
  rw [units.eq_def]
  simp [not_basic follows, follows, inside, goesOn]

end Units

section Bytes

variable {code : Nat}

/-- A number below 256 is that of its byte. -/
theorem toNat_ofNat (fits : code < 0x100) : (UInt8.ofNat code).toNat = code := by
  rw [UInt8.toNat_ofNat', Nat.mod_eq_of_lt fits]

/-- The bytes behind the first one are continuation bytes. -/
theorem continues_ofNat (code : Nat) : continues (UInt8.ofNat (code % 64 + 128)) = true := by
  have byte := toNat_ofNat (show code % 64 + 128 < 0x100 by omega)
  simp only [continues, UInt8.le_iff_toNat_le, byte, UInt8.reduceToNat, Bool.and_eq_true, decide_eq_true_eq]
  omega

/-- A continuation byte holds the last six bits of its number. -/
theorem payload_ofNat (code : Nat) : payload (UInt8.ofNat (code % 64 + 128)) = code % 64 := by
  rw [payload, toNat_ofNat (by omega)]
  omega

/-- The bytes of a two-byte character are a leading byte and one within its bounds. -/
theorem follow?_two (least : 0x7F < code) (most : code ≤ 0x7FF) :
    ∃ low high, follow? (UInt8.ofNat (code / 64 % 32 + 192)) = some (1, low, high) ∧
      low ≤ UInt8.ofNat (code % 64 + 128) ∧ UInt8.ofNat (code % 64 + 128) ≤ high := by
  -- The code point needs more than seven bits, so that the leading byte is none of the overlong ones.
  have lead := toNat_ofNat (show code / 64 % 32 + 192 < 0x100 by omega)
  have second := toNat_ofNat (show code % 64 + 128 < 0x100 by omega)
  simp only [follow?, UInt8.le_iff_toNat_le, ← UInt8.toNat_inj, UInt8.reduceToNat, lead, second]
  rw [if_pos (by omega)]
  exact ⟨0x80, 0xBF, rfl, by simp only [UInt8.reduceToNat]; omega⟩

/-- The first bytes of a three-byte character are a leading byte and one within its bounds, because the
character is no surrogate and needs three bytes. -/
theorem follow?_three (least : 0x7FF < code) (most : code ≤ 0xFFFF) (whole : code < 0xD800 ∨ 0xDFFF < code) :
    ∃ low high, follow? (UInt8.ofNat (code / 4096 % 16 + 224)) = some (2, low, high) ∧
      low ≤ UInt8.ofNat (code / 64 % 64 + 128) ∧ UInt8.ofNat (code / 64 % 64 + 128) ≤ high := by
  -- The tests for the leading byte become inequalities on the code point, which the hypotheses decide.
  have lead := toNat_ofNat (show code / 4096 % 16 + 224 < 0x100 by omega)
  have second := toNat_ofNat (show code / 64 % 64 + 128 < 0x100 by omega)
  simp only [follow?, UInt8.le_iff_toNat_le, ← UInt8.toNat_inj, UInt8.reduceToNat, lead, second]
  rw [if_neg (by omega)]
  -- `0xE0` narrows the bounds to avoid overlong forms, `0xED` to avoid surrogates.
  split
  · exact ⟨0xA0, 0xBF, rfl, by simp only [UInt8.reduceToNat]; omega⟩
  · split
    · exact ⟨0x80, 0x9F, rfl, by simp only [UInt8.reduceToNat]; omega⟩
    · rw [if_pos (by omega)]
      exact ⟨0x80, 0xBF, rfl, by simp only [UInt8.reduceToNat]; omega⟩

/-- The first bytes of a four-byte character are a leading byte and one within its bounds. -/
theorem follow?_four (least : 0xFFFF < code) (most : code < 0x110000) :
    ∃ low high, follow? (UInt8.ofNat (code / 262144 % 8 + 240)) = some (3, low, high) ∧
      low ≤ UInt8.ofNat (code / 4096 % 64 + 128) ∧ UInt8.ofNat (code / 4096 % 64 + 128) ≤ high := by
  -- As for three bytes, where `0xF0` and `0xF4` are the leading bytes with narrow bounds.
  have lead := toNat_ofNat (show code / 262144 % 8 + 240 < 0x100 by omega)
  have second := toNat_ofNat (show code / 4096 % 64 + 128 < 0x100 by omega)
  simp only [follow?, UInt8.le_iff_toNat_le, ← UInt8.toNat_inj, UInt8.reduceToNat, lead, second]
  iterate 4 rw [if_neg (by omega)]
  split
  · exact ⟨0x90, 0xBF, rfl, by simp only [UInt8.reduceToNat]; omega⟩
  · split
    · exact ⟨0x80, 0x8F, rfl, by simp only [UInt8.reduceToNat]; omega⟩
    · rw [if_pos (by omega)]
      exact ⟨0x80, 0xBF, rfl, by simp only [UInt8.reduceToNat]; omega⟩

end Bytes

/-- The bytes of a character decode to it, whatever follows them. -/
theorem units_utf8EncodeChar (c : Char) (rest : List UInt8) :
    units (String.utf8EncodeChar c ++ rest) = some c :: units rest := by
  have valid : c.toNat < 0xD800 ∨ 0xDFFF < c.toNat ∧ c.toNat < 0x110000 := c.valid
  have same {code : Nat} (equal : code = c.toNat) : Char.ofNat code = c := by rw [equal, Char.ofNat_toNat]
  unfold String.utf8EncodeChar
  simp only [Char.toNat_val]
  -- The cases are those of the encoder, one for each number of bytes. The payloads add up to the code point.
  split
  · rename_i one
    have lead := toNat_ofNat (show c.toNat < 0x100 by omega)
    rw [List.singleton_append, units_one (by omega), same lead]
  · split
    · rename_i two
      obtain ⟨low, high, follows, within⟩ := follow?_two (by omega) two
      simp only [List.cons_append, List.nil_append]
      rw [units_two follows within, payload_ofNat, toNat_ofNat (by omega), same (by omega)]
    · split
      · rename_i three
        obtain ⟨low, high, follows, within⟩ := follow?_three (by omega) three (by omega)
        simp only [List.cons_append, List.nil_append]
        rw [units_three follows within (continues_ofNat _), payload_ofNat, payload_ofNat, toNat_ofNat (by omega),
          same (by omega)]
      · obtain ⟨low, high, follows, within⟩ := follow?_four (show 0xFFFF < c.toNat by omega) (by omega)
        simp only [List.cons_append, List.nil_append]
        rw [units_four follows within ⟨continues_ofNat _, continues_ofNat _⟩, payload_ofNat, payload_ofNat,
          payload_ofNat, toNat_ofNat (by omega), same (by omega)]

/-- A character whose first byte is ASCII is that byte. -/
theorem eq_of_utf8EncodeChar {c : Char} {lead : UInt8} {rest : List UInt8}
    (encoded : String.utf8EncodeChar c = lead :: rest) (basic : lead.toNat < 0x80) : c = Char.ofNat lead.toNat := by
  -- Decode the bytes in two ways.
  have read := units_utf8EncodeChar c []
  rw [encoded, List.cons_append, units_one basic] at read
  exact (Option.some.inj (List.cons.inj read).1).symm

/-- The bytes of a string decode to its characters. -/
theorem units_encode (text : List Char) : units (encode text) = text.map some := by
  -- Induction on the string, character by character.
  induction text with
  | nil => simp [encode, units]
  | cons c rest ih =>
    rw [encode, List.flatMap_cons, units_utf8EncodeChar, List.map_cons]
    exact congrArg _ ih

/-- Decoding inverts encoding. -/
theorem decode?_encode (text : List Char) : decode? (encode text) = some text := by
  rw [decode?, units_encode]
  induction text with
  | nil => rfl
  | cons c rest ih => simp only [List.map_cons, List.mapM_cons, ih]; rfl

/-- Different strings have different bytes. -/
theorem encode_inj {first second : List Char} : encode first = encode second ↔ first = second := by
  refine ⟨fun same => Option.some.inj ?_, congrArg encode⟩
  rw [← decode?_encode first, same, decode?_encode]

/-- The encoding agrees with the representation of strings. -/
theorem encode_toList (text : String) : encode text.toList = text.toUTF8.data.toList := by
  rw [String.toUTF8, ← String.utf8Encode_toList, List.utf8Encode, List.toList_data_toByteArray]
  rfl

/-- The length of the encoding is the size of the string. -/
theorem length_encode (text : String) : (encode text.toList).length = text.utf8ByteSize := by
  rw [encode_toList]
  rfl

/-- An ASCII string takes one byte for each character. -/
theorem length_encode_of_basic {text : List Char} (basic : ∀ c ∈ text, c.toNat < 0x80) :
    (encode text).length = text.length := by
  -- The length is a sum of ones.
  have single : ∀ c ∈ text, (String.utf8EncodeChar c).length = 1 := by
    intro c member
    rw [String.length_utf8EncodeChar, Char.utf8Size_eq_one_iff, UInt32.le_iff_toNat_le]
    exact Nat.le_of_lt_succ (basic c member)
  rw [encode, List.length_flatMap, List.map_congr_left single, List.map_const', List.sum_replicate_nat,
    Nat.mul_one]

end AccessProbe.Utf8
