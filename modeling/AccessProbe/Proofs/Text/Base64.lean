import AccessProbe.Text.Base64

/-! Base64 decoding inverts encoding, whatever group the bytes end with. -/

namespace AccessProbe.Base64

variable {code : Nat}

/-- The character for six bits decodes to them. -/
theorem digit?_digitChar (small : code < 64) : digit? (digitChar code) = some code := by
  revert code
  decide

/-- The character for six bits is no padding. -/
theorem digitChar_ne_filler (small : code < 64) : digitChar code ≠ '=' := by
  revert code
  decide

theorem ofNat_eq {byte : UInt8} (same : code = byte.toNat) : UInt8.ofNat code = byte := by
  rw [same, UInt8.ofNat_toNat]

/-- A single byte at the end decodes from two characters and padding. -/
theorem decode?_one (a : UInt8) : decode? (encode [a]) = some [a] := by
  -- The first character holds the upper six bits, the second one the lower two with zeros behind them.
  have bound := a.toNat_lt
  have first := digit?_digitChar (show a.toNat / 4 < 64 by omega)
  have second := digit?_digitChar (show a.toNat % 4 * 16 < 64 by omega)
  have spare : a.toNat % 4 * 16 % 16 = 0 := by omega
  have byte : UInt8.ofNat (a.toNat / 4 * 4 + a.toNat % 4 * 16 / 16) = a := ofNat_eq (by omega)
  rw [encode, decode?]
  simp only [first, second, spare, byte, Option.bind_eq_bind, Option.bind_some, if_true]

/-- Two bytes at the end decode from three characters and padding. -/
theorem decode?_two (a b : UInt8) : decode? (encode [a, b]) = some [a, b] := by
  -- The middle character holds bits of both bytes, and the last one ends in two zeros.
  have bounds := And.intro a.toNat_lt b.toNat_lt
  have first := digit?_digitChar (show a.toNat / 4 < 64 by omega)
  have second := digit?_digitChar (show a.toNat % 4 * 16 + b.toNat / 16 < 64 by omega)
  have third := digit?_digitChar (show b.toNat % 16 * 4 < 64 by omega)
  have notFiller := digitChar_ne_filler (show b.toNat % 16 * 4 < 64 by omega)
  have spare : b.toNat % 16 * 4 % 4 = 0 := by omega
  have firstByte : UInt8.ofNat (a.toNat / 4 * 4 + (a.toNat % 4 * 16 + b.toNat / 16) / 16) = a :=
    ofNat_eq (by omega)
  have secondByte :
      UInt8.ofNat ((a.toNat % 4 * 16 + b.toNat / 16) % 16 * 16 + b.toNat % 16 * 4 / 4) = b := ofNat_eq (by omega)
  rw [encode, decode?]
  · simp only [first, second, third, spare, firstByte, secondByte, Option.bind_eq_bind, Option.bind_some, if_true]
  · exact notFiller

/-- A whole group decodes to three bytes, whatever follows it. -/
theorem decode?_group (a b c : UInt8) (rest : List UInt8) :
    decode? (encode (a :: b :: c :: rest)) = (decode? (encode rest)).map fun bytes => a :: b :: c :: bytes := by
  -- Each byte is put together from two of the four characters.
  have bounds := And.intro a.toNat_lt (And.intro b.toNat_lt c.toNat_lt)
  have first := digit?_digitChar (show a.toNat / 4 < 64 by omega)
  have second := digit?_digitChar (show a.toNat % 4 * 16 + b.toNat / 16 < 64 by omega)
  have third := digit?_digitChar (show b.toNat % 16 * 4 + c.toNat / 64 < 64 by omega)
  have fourth := digit?_digitChar (show c.toNat % 64 < 64 by omega)
  have notFiller := digitChar_ne_filler (show c.toNat % 64 < 64 by omega)
  have firstByte : UInt8.ofNat (a.toNat / 4 * 4 + (a.toNat % 4 * 16 + b.toNat / 16) / 16) = a :=
    ofNat_eq (by omega)
  have secondByte : UInt8.ofNat ((a.toNat % 4 * 16 + b.toNat / 16) % 16 * 16
      + (b.toNat % 16 * 4 + c.toNat / 64) / 4) = b := ofNat_eq (by omega)
  have thirdByte : UInt8.ofNat ((b.toNat % 16 * 4 + c.toNat / 64) % 4 * 64 + c.toNat % 64) = c :=
    ofNat_eq (by omega)
  rw [encode, decode?]
  · simp only [first, second, third, fourth, firstByte, secondByte, thirdByte, Option.bind_eq_bind, Option.bind_some]
    exact Option.map_eq_bind.symm
  -- The last character is no padding, which tells the group from the shorter ones.
  · exact fun _ filler _ => notFiller filler
  · exact fun filler _ => notFiller filler

/-- Base64 decoding inverts encoding. -/
theorem decode?_encode (bytes : List UInt8) : decode? (encode bytes) = some bytes := by
  -- Induction along the encoder: three ways to end, and a whole group with more behind it.
  induction bytes using encode.induct with
  | case1 => rfl
  | case2 a => exact decode?_one a
  | case3 a b => exact decode?_two a b
  | case4 a b c rest ih => rw [decode?_group, ih, Option.map_some]

/-- The length is four for every group of three bytes, the last one of which may be padded. -/
theorem length_encode (bytes : List UInt8) : (encode bytes).length = 4 * ((bytes.length + 2) / 3) := by
  -- Each step of the encoder consumes three bytes and writes four characters.
  induction bytes using encode.induct with
  | case1 => rfl
  | case2 a => simp [encode]
  | case3 a b => simp [encode]
  | case4 a b c rest ih =>
    simp only [encode, List.length_cons, ih]
    omega

end AccessProbe.Base64
