/-!
# Binary64 numbers

The finite floating-point numbers of 64 bits, by their sign and the bits of their magnitude, with
the arithmetic that decimal notations need: rounding a quotient of whole numbers to the nearest
number, products and quotients.  Everything is computed exactly and rounded once.
-/

namespace ScriptSanitizer

/-- The whole number nearest to a quotient; a half goes to the even neighbour. -/
def roundHalfEven (numerator denominator : Nat) : Nat :=
  let floor := numerator / denominator
  let excess := 2 * (numerator % denominator)
  if excess < denominator then floor
  else if denominator < excess then floor + 1
  else floor + floor % 2

/-- A finite number of binary64. -/
structure Binary64 where
  /-- The number has a minus sign; zero may have one. -/
  negative : Bool
  /-- The eleven bits of the exponent and the 52 bits of the fraction. -/
  magnitude : Nat
  /-- The exponent is not the one of infinities. -/
  finite : magnitude < 2047 * Nat.pow 2 52
  deriving DecidableEq

namespace Binary64

/-- Zero without a sign. -/
def zero : Binary64 := ⟨false, 0, by decide⟩

/-- How many of the smallest positive numbers make up a magnitude. -/
def unitsOf (magnitude : Nat) : Nat :=
  let leadingBit := Nat.pow 2 52
  if magnitude < leadingBit then magnitude
  else (leadingBit + magnitude % leadingBit) * Nat.pow 2 (magnitude / leadingBit - 1)

/-- How many of the smallest positive numbers make up one. -/
def unitsPerOne : Nat := Nat.pow 2 1074

/-- How many of the smallest positive numbers make up a number without its sign. -/
def units (number : Binary64) : Nat := unitsOf number.magnitude

/-- The magnitude nearest to a quotient.  The significand has 53 bits, or fewer next to zero; one
that rounds up to 54 bits carries into the exponent. -/
def magnitudeOfRatio (numerator denominator : Nat) : Nat :=
  let scaled := numerator * unitsPerOne
  let scale := (scaled / denominator).log2 - 52
  roundHalfEven scaled (denominator * Nat.pow 2 scale) + scale * Nat.pow 2 52

/-- The number nearest to a quotient, unless that is infinite. -/
def ofRatio? (negative : Bool) (numerator denominator : Nat) : Option Binary64 :=
  let magnitude := magnitudeOfRatio numerator denominator
  if finite : magnitude < 2047 * Nat.pow 2 52 then some ⟨negative, magnitude, finite⟩ else none

/-- The number nearest to a whole number, unless that is infinite. -/
def ofNat? (number : Nat) : Option Binary64 := ofRatio? false number 1

/-- The nearest number to a product, unless that is infinite. -/
def mul? (left right : Binary64) : Option Binary64 :=
  ofRatio? (left.negative != right.negative) (left.units * right.units)
    (unitsPerOne * unitsPerOne)

/-- The nearest number to a quotient, unless that is infinite. -/
def div? (left right : Binary64) : Option Binary64 :=
  ofRatio? (left.negative != right.negative) left.units right.units

/-- The number with the other sign. -/
def neg (number : Binary64) : Binary64 := { number with negative := !number.negative }

/-- The number is zero, of either sign. -/
def isZero (number : Binary64) : Bool := number.magnitude == 0

/-- The largest power of ten that is a finite number. -/
def maximalPower : Nat := 308

/-- A whole number over a power of ten, rounded as often as the power is split into factors that
are numbers themselves. -/
def divPower? (number : Binary64) (power : Nat) : Option Binary64 :=
  if _ : power ≤ maximalPower then do
    number.div? (← ofNat? (Nat.pow 10 power))
  else if number.isZero then some number
  else do
    let next ← number.div? (← ofNat? (Nat.pow 10 maximalPower))
    next.divPower? (power - maximalPower)
termination_by power
decreasing_by
  rename_i large _
  simp only [maximalPower] at large ⊢
  omega

/-- A whole number times a power of ten: both factors are rounded, and then their product. -/
def mulPower? (number : Binary64) (power : Nat) : Option Binary64 :=
  if power ≤ maximalPower then do
    number.mul? (← ofNat? (Nat.pow 10 power))
  else if number.isZero then some number
  else none

/-- The number that a significand and a power of ten make up, unless that is infinite. -/
def ofDecimal? (significand : Nat) (exponent : Int) : Option Binary64 := do
  let number ← ofNat? significand
  if 0 ≤ exponent then number.mulPower? exponent.toNat
  else number.divPower? exponent.natAbs

end Binary64

end ScriptSanitizer
