import EntityStore.Number.Double

/-!
# Numerals for doubles

The texts that denote a double: after an optional sign either digits with at most one point among or beside them
and an optional exponent, or a word for infinity or for not-a-number in any case.  The double is the one nearest
to the number written, so a numeral that is too large denotes infinity and one that is too small zero.
-/

namespace EntityStore

/-- Why a text denotes no double. -/
inductive NumeralFault where
  | empty
  | malformed
  deriving DecidableEq, Repr

namespace Double

/-- Reads the exponent after a mantissa: nothing, or the letter e and a whole number. -/
def readExponent? : Text → Option Int
  | [] => some 0
  | 'e' :: rest => Text.readInt? rest
  | 'E' :: rest => Text.readInt? rest
  | _ => none

/-- The double nearest to `mantissa * 10 ^ power`.  Powers beyond the reach of doubles, as the number of digits in
the mantissa shows, are cut short: the result is infinity or zero all the same. -/
def ofScaled (negative : Bool) (mantissa digits : Nat) (power : Int) : Double :=
  if mantissa = 0 ∨ power + digits < -400 then ofQuotient negative 0 1
  else if 400 < power then infinite negative
  else ofQuotient negative (mantissa * Nat.pow 10 power.toNat) (Nat.pow 10 (-power).toNat)

/-- Reads an unsigned numeral. -/
def readMagnitude? (negative : Bool) (t : Text) : Option Double :=
  let whole := t.takeWhile Char.isDigit
  let afterWhole := t.dropWhile Char.isDigit
  let fraction := match afterWhole with
    | '.' :: rest => rest.takeWhile Char.isDigit
    | _ => []
  let afterFraction := match afterWhole with
    | '.' :: rest => rest.dropWhile Char.isDigit
    | rest => rest
  if whole = [] ∧ fraction = [] then
    match t.toAsciiLower with
    | ['i', 'n', 'f'] => some (infinite negative)
    | ['i', 'n', 'f', 'i', 'n', 'i', 't', 'y'] => some (infinite negative)
    | ['n', 'a', 'n'] => some nan
    | _ => none
  else
    (readExponent? afterFraction).map fun exponent =>
      let digits := whole ++ fraction
      ofScaled negative (Nat.ofDigitChars 10 digits 0) digits.length (exponent - fraction.length)

/-- Reads a numeral. -/
def read (t : Text) : Except NumeralFault Double :=
  let magnitude? := match t with
    | '-' :: rest => readMagnitude? true rest
    | '+' :: rest => readMagnitude? false rest
    | rest => readMagnitude? false rest
  match t, magnitude? with
  | [], _ => .error .empty
  | _, some d => .ok d
  | _, none => .error .malformed

end Double

end EntityStore
