import DocQuery.Binary64

/-!
# Decimal texts of binary64 numbers

`shortest` finds the fewest decimal digits that read back as the same number, and of those the
digits nearest to it.  A `Layout` says which of two nearest digits count and how they are laid out;
the three layouts of this library are `plain` (never an exponent), `marked` (always recognisable as
a fraction) and `json`.
-/

namespace DocQuery

namespace Binary64

/-- The decimal exponent of the first digit of `num / den`: the largest `k` with
    `10 ^ k ≤ num / den`. -/
def leadingExponent (num den : Nat) : Int :=
  if den ≤ num then (digitCount (num / den) : Int) - 1
  else -(digitCount ((den + num - 1) / num - 1) : Int)

/-- The positive rational interval of the reals that round to a number, as numerators over one
    denominator: the lower end, the number and the upper end. -/
structure RoundingInterval where
  low : Nat
  value : Nat
  high : Nat
  den : Nat
  /-- Whether the ends themselves round to the number. -/
  closed : Bool

/-- The rounding interval of a finite number other than zero.  Below a power of two the lower
    neighbour is half as far away. -/
def roundingInterval (x : Binary64) : RoundingInterval :=
  let m := x.significand
  let shift := x.exponent - 2
  let up := Nat.pow 2 shift.toNat
  let below := if x.significand = Nat.pow 2 52 ∧ Nat.pow 2 53 ≤ x.magnitude then 1 else 2
  { low := (4 * m - below) * up
    value := 4 * m * up
    high := (4 * m + 2) * up
    den := Nat.pow 2 (-shift).toNat
    closed := m % 2 = 0 }

/-- Whether `num / den` lies in the interval. -/
def RoundingInterval.contains (interval : RoundingInterval) (num den : Nat) : Bool :=
  if interval.closed then
    interval.low * den ≤ num * interval.den && num * interval.den ≤ interval.high * den
  else
    interval.low * den < num * interval.den && num * interval.den < interval.high * den

/-- Where a value goes that lies halfway between two points of a grid. -/
inductive Tie where
  | up
  | toEven
deriving DecidableEq, Repr

/-- Whether `rest` parts of `whole` above a point of a grid leave that point the one to take. -/
def Tie.staysBelow (tie : Tie) (point rest whole : Nat) : Bool :=
  decide (2 * rest < whole) || (2 * rest == whole && tie == .toEven && point % 2 == 0)

/-- The digits of the grid `10 ^ exponent` nearest to the interval's value, if one of the value's
    two neighbours on that grid lies in the interval. -/
def RoundingInterval.onGrid (tie : Tie) (interval : RoundingInterval) (exponent : Int) :
    Option Nat :=
  let up := Nat.pow 10 exponent.toNat
  let down := Nat.pow 10 (-exponent).toNat
  let floor := interval.value * down / (interval.den * up)
  let rest := interval.value * down % (interval.den * up)
  let fitsBelow := interval.contains (floor * up) down
  let fitsAbove := interval.contains ((floor + 1) * up) down
  if fitsBelow && (!fitsAbove || tie.staysBelow floor rest (interval.den * up)) then some floor
  else if fitsAbove then some (floor + 1)
  else none

/-- The first of the grids with `count`, `count + 1`, … digits that has a hit. -/
def RoundingInterval.search (tie : Tie) (interval : RoundingInterval) (lead : Int) :
    Nat → Nat → Nat × Int
  | 0, count => (0, lead - count)
  | fuel + 1, count =>
      let exponent := lead - count + 1
      match interval.onGrid tie exponent with
      | some digits => (digits, exponent)
      | none => interval.search tie lead fuel (count + 1)

/-- Digits without trailing zeros, and the exponent that makes up for them. -/
def trimZeros : Nat → Nat × Int → Nat × Int
  | 0, pair => pair
  | fuel + 1, (digits, exponent) =>
      if digits ≠ 0 ∧ digits % 10 = 0 then trimZeros fuel (digits / 10, exponent + 1)
      else (digits, exponent)

/-- The fewest digits `d` and their exponent `k` such that `d * 10 ^ k` rounds to the magnitude of a
    finite number other than zero.  Seventeen digits always suffice. -/
def shortest (tie : Tie) (x : Binary64) : Nat × Int :=
  let interval := x.roundingInterval
  let lead := leadingExponent interval.value interval.den
  trimZeros 20 (interval.search tie lead 17 1)

/-- How the shortest digits of a number are found and laid out. -/
structure Layout where
  tie : Tie
  /-- Positions of the decimal point, counted from before the first digit, that are written without
      an exponent. -/
  positional : Int → Bool
  /-- Whether a number without fraction ends in `.0` where no exponent is written. -/
  keepsPoint : Bool
  /-- Whether an exponent that is not negative has a plus sign. -/
  signsExponent : Bool

/-- Every number in full, integers without a point. -/
def plain : Layout := ⟨.up, fun _ => true, false, false⟩

/-- Positional from `0.0001` to below `10 ^ 16`, always with a point or an exponent. -/
def marked : Layout := ⟨.up, fun point => decide (-3 ≤ point ∧ point ≤ 16), true, false⟩

/-- Positional from `0.00001` to below `10 ^ 16`, always with a point or a signed exponent. -/
def json : Layout := ⟨.toEven, fun point => decide (-4 ≤ point ∧ point ≤ 16), true, true⟩

/-- `count` zeros. -/
def zeros (count : Nat) : String := String.ofList (List.replicate count '0')

/-- Digits with the decimal point after the first `point` of them. -/
def layPositional (layout : Layout) (digits : String) (point : Int) : String :=
  let count : Int := digits.length
  if point ≤ 0 then "0." ++ zeros (-point).toNat ++ digits
  else if point < count then
    String.ofList (digits.toList.take point.toNat) ++ "." ++
      String.ofList (digits.toList.drop point.toNat)
  else digits ++ zeros (point - count).toNat ++ (if layout.keepsPoint then ".0" else "")

/-- Digits with the point after the first and the exponent that this needs. -/
def layScientific (layout : Layout) (digits : String) (point : Int) : String :=
  let mantissa := match digits.toList with
    | [] => ""
    | [only] => String.ofList [only]
    | first :: rest => String.ofList (first :: '.' :: rest)
  mantissa ++ "e" ++ (if layout.signsExponent ∧ 1 ≤ point then "+" else "") ++ toString (point - 1)

/-- The text of a number. -/
def Layout.render (layout : Layout) (x : Binary64) : String :=
  let sign := if x.isNegative then "-" else ""
  if x.isNaN then "NaN"
  else if x.isInfinite then sign ++ "inf"
  else if x.isZero then sign ++ (if layout.keepsPoint then "0.0" else "0")
  else
    let (digits, exponent) := x.shortest layout.tie
    let text := toString digits
    let point := exponent + text.length
    sign ++ (if layout.positional point then layPositional layout text point
      else layScientific layout text point)

end Binary64

end DocQuery
