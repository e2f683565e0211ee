import BulkProvision.Json.Basic
import BulkProvision.Text.Digits
import BulkProvision.Width

/-!
# JSON numbers

How the text of a number becomes a value.  The leading digits whose value fits 64 bits form the
significand.  A number that is all significand is an integer.  Otherwise the significand, as a
double, is scaled by one multiplication with a power of ten, or one division by it (several where
the power is above `10^308`): the result is not always the double nearest to the text.  A number
too large for a double is refused.
-/

namespace BulkProvision

open Text

namespace Json

/-- The parts of the text of a number. -/
structure NumberText where
  negative : Bool
  whole : List Char
  /-- The digits after the point; empty without a point. -/
  fraction : List Char
  /-- Whether the exponent is negative, and its digits. -/
  exponent : Option (Bool × List Char)

/-- The greatest significand. -/
def significandLimit : Nat := 0xFFFFFFFFFFFFFFFF

/-- The greatest exponent that is evaluated. -/
def exponentLimit : Nat := 0x7FFFFFFF

/-- Appends digits to a significand while it stays within the limit; the digits left over. -/
def accumulate (significand : Nat) : List Char → Nat × List Char
  | [] => (significand, [])
  | c :: rest =>
    let longer := significand * 10 + digitValue c
    if longer ≤ significandLimit then accumulate longer rest else (significand, c :: rest)

/-- The double nearest to a power of ten. -/
def powerOfTen (exponent : Nat) : Binary64 := Binary64.ofDecimal false 1 exponent

/-- Divides by a power of ten, at most `10^308` at a time. -/
def scaleDown (x : Binary64) (exponent : Nat) : Binary64 :=
  if exponent ≤ 308 then x.div (powerOfTen exponent)
  else if x.isZero then x
  else scaleDown (x.div (powerOfTen 308)) (exponent - 308)
  termination_by exponent
  decreasing_by omega

/-- A significand times a power of ten; nothing when it is too large for a double. -/
def scale (significand : Nat) (exponent : Int) : Option Binary64 :=
  let x := Binary64.ofNat significand
  if exponent < 0 then some (scaleDown x (-exponent).toNat)
  else if exponent ≤ 308 then
    let scaled := x.mul (powerOfTen exponent.toNat)
    if scaled.isInfinite then none else some scaled
  else if x.isZero then some x
  else none

/-- The value of a number without fraction and exponent whose digits all are significand. -/
def wholeValue (negative : Bool) (significand : Nat) : Json :=
  if negative then
    if significand = 0 ∨ ¬Width.Signed 64 (-(significand : Int)) then
      real (Binary64.ofNat significand).neg
    else integer (-(significand : Int))
  else integer significand

/-- The value of a number, unless it is too large. -/
def NumberText.value (t : NumberText) : Option Json :=
  let head := accumulate 0 t.whole
  if t.fraction.isEmpty && t.exponent.isNone && head.2.isEmpty then
    some (wholeValue t.negative head.1)
  else
    let tail := accumulate head.1 t.fraction
    let taken := t.fraction.length - tail.2.length
    let shift : Int := (head.2.length : Int) - taken
    let magnitude :=
      match t.exponent with
      | none => scale tail.1 shift
      | some (down, digits) =>
        let e := ofDigits 10 digits
        if exponentLimit < e then
          if tail.1 ≠ 0 ∧ !down then none else some (Binary64.zero false)
        else scale tail.1 (if down then shift - e else shift + e)
    magnitude.map fun x => real (if t.negative then x.neg else x)

end Json

end BulkProvision
