import BulkProvision.Text.Digits
import BulkProvision.Text.Split

/-!
# Widths of integers

Which integers fit into a number of bits, with a sign and without one, and how they are read.
-/

namespace BulkProvision

namespace Width

/-- The integers of that many bits with a sign. -/
def Signed (bits : Nat) (n : Int) : Prop :=
  -(Nat.pow 2 (bits - 1) : Int) ≤ n ∧ n < (Nat.pow 2 (bits - 1) : Int)

/-- The integers of that many bits without a sign. -/
def Unsigned (bits : Nat) (n : Int) : Prop := 0 ≤ n ∧ n < (Nat.pow 2 bits : Int)

instance (bits : Nat) (n : Int) : Decidable (Signed bits n) :=
  inferInstanceAs (Decidable (_ ∧ _))

instance (bits : Nat) (n : Int) : Decidable (Unsigned bits n) :=
  inferInstanceAs (Decidable (_ ∧ _))

theorem signed_64_iff {n : Int} :
    Signed 64 n ↔ -9223372036854775808 ≤ n ∧ n < 9223372036854775808 := Iff.rfl

/-! ### Reading -/

open Text

/-- A natural number of that many bits; a plus sign is allowed. -/
def natural? (bits : Nat) (s : List Char) : Option Nat :=
  let digits := (dropStart? ['+'] s).getD s
  if !digits.isEmpty && digits.all isDecimal && Unsigned bits (ofDigits 10 digits) then
    some (ofDigits 10 digits)
  else none

/-- An integer of that many bits with sign. -/
def integer? (bits : Nat) (s : List Char) : Option Int :=
  (readInt? s).filter fun n => decide (Signed bits n)

end Width

end BulkProvision
