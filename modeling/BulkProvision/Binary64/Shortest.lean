import BulkProvision.Binary64

/-!
# Shortest decimal text of a double

The decimal with the fewest digits that rounds to a double, and of those the nearest to it, written
without an exponent.
-/

namespace BulkProvision

namespace Binary64

/-- Decimal places below which no digit of a double is looked at. -/
def places : Nat := 400

/-- Whether `digits * 10^(exponent - places)` rounds to the magnitude of the code: it lies between
the middles towards the neighbouring magnitudes, which belong to it when the code is even. -/
def roundsTo (code digits exponent : Nat) : Bool :=
  let value := digits * Nat.pow 10 exponent * 2 * unitsPerOne
  let low := (units (code - 1) + units code) * Nat.pow 10 places
  let high := (units code + units (code + 1)) * Nat.pow 10 places
  if code % 2 = 0 then low ≤ value && value ≤ high else low < value && value < high

/-- The decimal of `count` digits that rounds to the code and is nearest to its magnitude, as digits
and an exponent above `-places`. -/
def ofLength? (code count : Nat) : Option (Nat × Nat) :=
  let scaled := units code * Nat.pow 10 places
  let exponent := (Nat.toDigits 10 (scaled / unitsPerOne)).length - count
  let step := Nat.pow 10 exponent * unitsPerOne
  let below := scaled / step
  let rest := scaled % step
  match roundsTo code below exponent, roundsTo code (below + 1) exponent with
  | true, true => some (if 2 * rest ≤ step then below else below + 1, exponent)
  | true, false => some (below, exponent)
  | false, true => some (below + 1, exponent)
  | false, false => none

/-- The shortest decimal of a code; seventeen digits always suffice. -/
def shortest (code : Nat) : Nat × Nat :=
  ((List.range 17).findSome? fun n => ofLength? code (n + 1)).getD (0, places)

/-- A decimal `digits * 10^(exponent - places)` written without an exponent. -/
def positional (digits exponent : Nat) : List Char :=
  if places ≤ exponent then Nat.toDigits 10 (digits * Nat.pow 10 (exponent - places))
  else
    let below := places - exponent
    let unit := Nat.pow 10 below
    let fraction := (Nat.toDigits 10 (unit + digits % unit)).drop 1
    let significant := (fraction.reverse.dropWhile (· == '0')).reverse
    let whole := Nat.toDigits 10 (digits / unit)
    if significant.isEmpty then whole else whole ++ '.' :: significant

/-- The text of a double. -/
def text : Binary64 → String
  | nan => "NaN"
  | signed negative code =>
    let magnitude :=
      if code.val = infiniteCode then "inf"
      else
        let decimal := shortest code
        String.ofList (positional decimal.1 decimal.2)
    (if negative then "-" else "") ++ magnitude

end Binary64

end BulkProvision
