/-! Double-precision numbers: rounding decimals to them, and printing them with the fewest digits that round back. -/

namespace AccessProbe.Decimal

/-- A positive double, `mantissa * 2 ^ exponent`. -/
structure Binary where
  /-- Less than `2 ^ 53`. -/
  mantissa : Nat
  /-- At least `-1074`. -/
  exponent : Int
  deriving DecidableEq, Repr

/-- A quotient rounded to the nearest natural number, ties to even. -/
def roundHalfEven (num den : Nat) : Nat :=
  let whole := num / den
  let rest := 2 * (num % den)
  if rest < den ∨ (rest = den ∧ whole % 2 = 0) then whole else whole + 1

/-- A numerator and a denominator times a power of two. -/
def scaled (num den : Nat) (exponent : Int) : Nat × Nat :=
  if 0 ≤ exponent then (num * Nat.pow 2 exponent.toNat, den) else (num, den * Nat.pow 2 (-exponent).toNat)

/-- The double nearest to a quotient, unless that is zero or overflows. -/
def Binary.ofQuotient? (num den : Nat) : Option Binary :=
  -- The first guess of the exponent is at most one too small.
  let guess : Int := Int.ofNat num.log2 - Int.ofNat den.log2 - 53
  let exponent := max guess (-1074)
  let mantissaAt := fun exponent : Int =>
    let (num, den) := scaled num den (-exponent)
    roundHalfEven num den
  -- A mantissa that rounds up to 2^53 takes one more digit of the exponent.
  let settle := fun exponent : Int =>
    let mantissa := mantissaAt exponent
    if mantissa < Nat.pow 2 53 then (mantissa, exponent) else (mantissaAt (exponent + 1), exponent + 1)
  let (mantissa, exponent) := settle exponent
  let (mantissa, exponent) :=
    if mantissa < Nat.pow 2 53 then (mantissa, exponent) else settle (exponent + 1)
  if mantissa = 0 ∨ 971 < exponent then none else some ⟨mantissa, exponent⟩

/-- Whether a decimal number rounds to a double. -/
def Binary.isRoundedFrom (value : Binary) (coefficient : Nat) (exponent : Int) : Bool :=
  -- Everything is compared in quarters of the last binary digit. Below a power of two the gap is half as wide.
  let below := if value.mantissa = Nat.pow 2 52 ∧ -1074 < value.exponent then 1 else 2
  let low := 4 * value.mantissa - below
  let high := 4 * value.mantissa + 2
  let (num, den) := if 0 ≤ exponent then (coefficient * Nat.pow 10 exponent.toNat, 1)
    else (coefficient, Nat.pow 10 (-exponent).toNat)
  let (num, den) := scaled num den (2 - value.exponent)
  -- Ties round to even mantissas, so that only these have their bounds included.
  if value.mantissa % 2 = 0 then low * den ≤ num && num ≤ high * den
  else low * den < num && num < high * den

/-- The multiples of a power of ten next to a double, nearer one first. -/
def Binary.neighbours (value : Binary) (exponent : Int) : List Nat :=
  let (num, den) := scaled value.mantissa 1 value.exponent
  let (num, den) := if 0 ≤ exponent then (num, den * Nat.pow 10 exponent.toNat)
    else (num * Nat.pow 10 (-exponent).toNat, den)
  let floor := num / den
  if 2 * (num % den) ≤ den then [floor, floor + 1] else [floor + 1, floor]

/-- The shortest decimal that rounds to a double, with an exponent that is at most the given one. -/
def Binary.shortestFrom (value : Binary) : Nat → Int → Nat × Int
  | 0, exponent => ((value.neighbours exponent).headD 0, exponent)
  | steps + 1, exponent =>
    match (value.neighbours exponent).find? (fun digits => 0 < digits && value.isRoundedFrom digits exponent) with
    | some digits => (digits, exponent)
    | none => value.shortestFrom steps (exponent - 1)

/-- The shortest decimal that rounds to a double, as coefficient and exponent. -/
def Binary.shortest (value : Binary) : Nat × Int :=
  -- Every double is below 10^309, and doubles differ by more than 10^-325.
  value.shortestFrom 635 309

/-- A decimal in positional notation with at least one digit on either side of the point. -/
def positional (coefficient : Nat) (exponent : Int) : String :=
  let digits := (toString coefficient).toList
  if 0 ≤ exponent then String.ofList (digits ++ List.replicate exponent.toNat '0' ++ ".0".toList)
  else
    let places := (-exponent).toNat
    let padded := List.replicate (places + 1 - digits.length) '0' ++ digits
    String.ofList (padded.take (padded.length - places) ++ '.' :: padded.drop (padded.length - places))

/-- A decimal number as a double. -/
inductive Reading where
  | zero
  /-- A double other than zero. -/
  | finite (value : Binary)
  /-- An overflow. -/
  | infinite
  deriving DecidableEq, Repr

/-- The double nearest to `coefficient * 10 ^ exponent`. -/
def round (coefficient : Nat) (exponent : Int) : Reading :=
  let digits := Int.ofNat (toString coefficient).length
  -- Huge exponents are settled first, so that no power of ten gets large.
  if coefficient = 0 ∨ exponent + digits < -330 then .zero
  else if 310 < exponent + digits then .infinite
  else
    let (num, den) := if 0 ≤ exponent then (coefficient * Nat.pow 10 exponent.toNat, 1)
      else (coefficient, Nat.pow 10 (-exponent).toNat)
    match Binary.ofQuotient? num den with
    | some value => .finite value
    | none => if num < den then .zero else .infinite

end AccessProbe.Decimal
