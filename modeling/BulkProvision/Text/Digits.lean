/-!
# Digits

Values of ASCII digits and of runs of digits, up to radix sixteen, and numbers written with a fixed
number of decimal digits.
-/

namespace BulkProvision

namespace Text

/-- The value of a decimal digit or of a letter from `a` to `f` in either case. -/
def digit? (c : Char) : Option Nat :=
  if '0' ≤ c ∧ c ≤ '9' then some (c.toNat - '0'.toNat)
  else if 'a' ≤ c ∧ c ≤ 'f' then some (c.toNat - 'a'.toNat + 10)
  else if 'A' ≤ c ∧ c ≤ 'F' then some (c.toNat - 'A'.toNat + 10)
  else none

/-- Whether a character is a digit of that radix. -/
def isDigit (radix : Nat) (c : Char) : Bool := (digit? c).any (· < radix)

/-- Whether a character is a decimal digit. -/
def isDecimal (c : Char) : Bool := isDigit 10 c

/-- The value of a digit. -/
def digitValue (c : Char) : Nat := (digit? c).getD 0

/-- The value of a run of digits. -/
def ofDigits (radix : Nat) (digits : List Char) : Nat :=
  digits.foldl (fun n c => n * radix + digitValue c) 0

theorem ofDigits_nil (radix : Nat) : ofDigits radix [] = 0 := rfl

theorem ofDigits_append_singleton (radix : Nat) (digits : List Char) (c : Char) :
    ofDigits radix (digits ++ [c]) = ofDigits radix digits * radix + digitValue c := by
  simp [ofDigits]

theorem digitValue_lt {radix : Nat} {c : Char} (h : isDigit radix c = true) :
    digitValue c < radix := by
  rw [isDigit] at h
  rw [digitValue]
  cases hd : digit? c with
  | none => simp [hd] at h
  | some d => simpa [hd] using h

/-- A number with at least that many decimal digits, zeros in front. -/
def fixedWidth (width n : Nat) : List Char := (Nat.toDigits 10 n).leftpad width '0'

/-- Digits without the zeros at the end. -/
def trimZeros (digits : List Char) : List Char := (digits.reverse.dropWhile (· == '0')).reverse

/-- A code point from its number, where the number is one. -/
def charOfCode? (code : Nat) : Option Char :=
  if h : code.isValidChar then some (Char.ofNatAux code h) else none

/-- A signed run of decimal digits, as an integer; a plus sign is allowed. -/
def readInt? : List Char → Option Int
  | '-' :: digits =>
    if !digits.isEmpty && digits.all isDecimal then some (-(ofDigits 10 digits : Int)) else none
  | '+' :: digits =>
    if !digits.isEmpty && digits.all isDecimal then some (ofDigits 10 digits) else none
  | digits =>
    if !digits.isEmpty && digits.all isDecimal then some (ofDigits 10 digits) else none

end Text

end BulkProvision
