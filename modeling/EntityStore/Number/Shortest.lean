import EntityStore.Number.Double

/-!
# Shortest digits of a double

The text of a finite double is the decimal number with the fewest digits that lies nearer to it than to any other
double; among several of that length the nearest to the double, and of two equally near the greater.

The reals that round to a double form an interval around it, with its ends exactly when the significand is even.
The digits are found on the decimal grids from coarse to fine: if some multiple of a power of ten lies in the
interval, then so does one of the two multiples around the double itself.
-/

namespace EntityStore

/-- A decimal number: digits and the power of ten that scales them. -/
structure DecimalDigits where
  digits : Nat
  power : Int
  deriving DecidableEq, Repr

namespace Double

/-- A positive double as a quotient, with the ends of the interval of reals that round to it, all three over one
denominator. -/
structure Surroundings where
  value : Nat
  lower : Nat
  upper : Nat
  denominator : Nat
  closed : Bool

/-- The surroundings of a positive finite double. -/
def surroundings (d : Double) : Surroundings :=
  let m := d.significand
  -- below a power of two the neighbour is only half as far away
  let below := if d.fractionBits = 0 ∧ 1 < d.exponentBits then 1 else 2
  let shift := d.exponent - 2
  let scale := Nat.pow 2 shift.toNat
  ⟨4 * m * scale, (4 * m - below) * scale, (4 * m + 2) * scale, Nat.pow 2 (-shift).toNat, m % 2 == 0⟩

/-- Whether a quotient with the common denominator lies in the interval. -/
def Surroundings.holds (s : Surroundings) (n : Nat) : Bool :=
  if s.closed then decide (s.lower ≤ n) && decide (n ≤ s.upper) else decide (s.lower < n) && decide (n < s.upper)

/-- The better of the two multiples of a power of ten around the value, if it lies in the interval. -/
def onGrid (s : Surroundings) (power : Int) : Option Nat :=
  -- over the denominator times ten to the negative power, all quantities are whole numbers
  let up := Nat.pow 10 (-power).toNat
  let step := s.denominator * Nat.pow 10 power.toNat
  let scaled : Surroundings := ⟨s.value * up, s.lower * up, s.upper * up, s.denominator, s.closed⟩
  let q := scaled.value / step
  let rest := scaled.value % step
  let low := if q ≠ 0 && scaled.holds (q * step) then some q else none
  let high := if scaled.holds ((q + 1) * step) then some (q + 1) else none
  match low, high with
  | some a, some b => if 2 * rest < step then some a else some b
  | some a, none => some a
  | none, other => other

/-- Tries the grids from the given power of ten downwards. -/
def searchGrids (s : Surroundings) : Nat → Int → DecimalDigits
  | 0, power => ⟨s.value, power⟩
  | fuel + 1, power =>
    match onGrid s power with
    | some digits => ⟨digits, power⟩
    | none => searchGrids s fuel (power - 1)

/-- The shortest digits of the magnitude of a finite double other than zero. -/
def shortestDigits (d : Double) : DecimalDigits :=
  let binary : Int := d.exponent + d.significand.log2
  -- an upper estimate of the decimal exponent; seventeen digits always suffice
  searchGrids (surroundings d) 24 (binary * 30103 / 100000 + 2)

/-- A decimal number in positional notation. -/
def positional (n : DecimalDigits) : Text :=
  match n.power with
  | .ofNat p => Text.ofNat n.digits ++ List.replicate p '0'
  | .negSucc p =>
    let digits := Text.ofNatPadded (p + 2) n.digits
    digits.take (digits.length - (p + 1)) ++ '.' :: digits.drop (digits.length - (p + 1))

/-- A decimal number in scientific notation: one digit before the point, none after it if there is only one. -/
def scientific (n : DecimalDigits) : Text :=
  match Text.ofNat n.digits with
  | [] => []
  | c :: rest =>
    (if rest = [] then [c] else c :: '.' :: rest) ++ 'e' :: Text.ofInt (n.power + rest.length)

/-- A text after the minus sign of a double that has one. -/
def withSign (d : Double) (t : Text) : Text :=
  if d.isNegative then '-' :: t else t

/-- The text of a double: positional, without a point for whole numbers. -/
def toText (d : Double) : Text :=
  if d.isNaN then "NaN".toList
  else withSign d <|
    if !d.isFinite then "inf".toList
    else if d.significand = 0 then ['0']
    else positional d.shortestDigits

/-- The form in which messages show a double: always marked as one by a point or an exponent, positional from
`1e-4` up to `1e16`. -/
def inspect (d : Double) : Text :=
  if d.isNaN then "NaN".toList
  else withSign d <|
    if !d.isFinite then "inf".toList
    else if d.significand = 0 then "0.0".toList
    else
      let n := d.shortestDigits
      let magnitude := n.power + (Text.ofNat n.digits).length
      if -3 ≤ magnitude ∧ magnitude ≤ 16 then
        if 0 ≤ n.power then positional n ++ ".0".toList else positional n
      else scientific n

end Double

end EntityStore
