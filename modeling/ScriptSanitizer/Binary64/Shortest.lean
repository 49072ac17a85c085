import ScriptSanitizer.Binary64.Basic

/-!
# Shortest decimals

The shortest decimal that reads back as a given binary64 number.  Among the powers of ten, the
largest is taken of which a multiple lies in the interval of reals that round to the number, and
of its multiples there the one nearest to the number.
-/

namespace ScriptSanitizer

namespace Binary64

/-- The reals that round to a number, and the number itself, as multiples of one unit. -/
structure RoundingInterval where
  /-- The lower end. -/
  lower : Nat
  /-- The number. -/
  center : Nat
  /-- The upper end. -/
  upper : Nat
  /-- The ends round to the number too. -/
  closed : Bool

namespace RoundingInterval

/-- A multiple of the unit lies in the interval. -/
def Contains (interval : RoundingInterval) (point : Nat) : Prop :=
  if interval.closed then interval.lower ≤ point ∧ point ≤ interval.upper
  else interval.lower < point ∧ point < interval.upper

instance (interval : RoundingInterval) (point : Nat) : Decidable (interval.Contains point) := by
  unfold Contains
  infer_instance

/-- The multiple of a step that lies in the interval and is nearest to the number, as the number
of steps; of two equally near ones the even one. -/
def nearest? (interval : RoundingInterval) (step : Nat) : Option Nat :=
  let below := interval.center / step
  let above := below + 1
  if interval.Contains (below * step) then
    if interval.Contains (above * step) then some (roundHalfEven interval.center step)
    else some below
  else if interval.Contains (above * step) then some above
  else none

/-- The coarsest decimal point of the interval: steps of a power of ten, and the power. -/
def coarsest (interval : RoundingInterval) (unit : Nat) : Nat → Nat × Nat
  | 0 => ((interval.nearest? unit).getD 0, 0)
  | power + 1 =>
    match interval.nearest? (Nat.pow 10 (power + 1) * unit) with
    | some steps => (steps, power + 1)
    | none => interval.coarsest unit power

end RoundingInterval

/-- The finest power of ten that the shortest decimal of a number ends in. -/
def finestPower : Nat := 324

/-- The interval that rounds to a positive number, in units of half the smallest positive number
over ten to the `finestPower`. -/
def roundingInterval (number : Binary64) : RoundingInterval where
  lower := (unitsOf (number.magnitude - 1) + number.units) * Nat.pow 10 finestPower
  center := 2 * number.units * Nat.pow 10 finestPower
  upper := (number.units + unitsOf (number.magnitude + 1)) * Nat.pow 10 finestPower
  closed := number.magnitude % 2 = 0

/-- The shortest decimal that reads back as a positive number: a significand, and the power of ten
by which it is multiplied. -/
def shortest (number : Binary64) : Nat × Int :=
  let interval := number.roundingInterval
  let unit := 2 * unitsPerOne
  let bound := ((interval.upper / unit).log2 + 1) * 30103 / 100000 + 1
  let (significand, power) := interval.coarsest unit bound
  (significand, (power : Int) - finestPower)

end Binary64

end ScriptSanitizer
