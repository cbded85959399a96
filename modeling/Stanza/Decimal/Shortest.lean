import Stanza.Decimal.Binary64

set_option autoImplicit false

/-!
The fewest decimal digits that read back as the same double-precision number. All
reals that round to a number form an interval around it, whose ends belong to it
exactly when the mantissa is even. Of the grids of multiples of a power of ten, the
coarsest that meets the interval is found by trying the two grid points next to the
number; of two hits the nearer one is taken, and a `Tie` decides between equals.
-/

namespace Stanza.Decimal

inductive Tie where
  | greater
  | even
deriving DecidableEq, Repr

structure Scientific where
  digits : Nat
  exponent : Int
deriving DecidableEq, Repr

/-- The interval of a number in quarters of its unit: lower end, number, upper end. -/
def Binary64.quarters (value : Binary64) : Nat × Nat × Nat :=
  let four := 4 * value.mantissa
  let narrow := value.mantissa == twoTo 52 && leastExponent < value.exponent
  (if narrow then four - 1 else four - 2, four, four + 2)

/-- Whether the interval of a number contains its ends. -/
def Binary64.closed (value : Binary64) : Bool := value.mantissa % 2 == 0

/-- The grid point next to `value` on the multiples of `10 ^ power` that reads back. -/
def gridPoint? (tie : Tie) (value : Binary64) (power : Int) : Option Nat :=
  let (low, middle, high) := value.quarters
  let quarter := value.exponent - 2
  -- Multiples of the grid and of the quarter unit, on one common scale.
  let gridStep := tenTo power.toNat * twoTo (-quarter).toNat
  let unitStep := twoTo quarter.toNat * tenTo (-power).toNat
  let below := middle * unitStep / gridStep
  let above := below + 1
  let belowHits := low * unitStep < below * gridStep ||
    (value.closed && low * unitStep == below * gridStep)
  let aboveHits := above * gridStep < high * unitStep ||
    (value.closed && above * gridStep == high * unitStep)
  let fromBelow := middle * unitStep - below * gridStep
  let fromAbove := above * gridStep - middle * unitStep
  match belowHits, aboveHits with
  | true, true =>
      if fromBelow < fromAbove then some below
      else if fromAbove < fromBelow then some above
      else match tie with
        | .greater => some above
        | .even => some (if below % 2 = 0 then below else above)
  | true, false => some below
  | false, true => some above
  | false, false => none

/-- A power of ten above the number. -/
def Binary64.decimalBound (value : Binary64) : Int :=
  ((value.mantissa.log2 : Int) + 1 + value.exponent) * 30103 / 100000 + 1

/-- Tries finer and finer grids, `steps` of them from `10 ^ power` on. -/
def coarsest (tie : Tie) (value : Binary64) : Nat → Int → Scientific
  | 0, power => ⟨0, power⟩
  | steps + 1, power =>
      match gridPoint? tie value power with
      | some digits => ⟨digits, power⟩
      | none => coarsest tie value steps (power - 1)

/--
The fewest digits that read back as the magnitude of the number. Seventeen digits
always do, so twenty grids below a power of ten above the number are enough.
-/
def Binary64.shortest (tie : Tie) (value : Binary64) : Scientific :=
  if value.isZero then ⟨0, 0⟩ else coarsest tie value 20 value.decimalBound

end Stanza.Decimal
