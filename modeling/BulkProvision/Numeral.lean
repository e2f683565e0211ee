import BulkProvision.Binary64
import BulkProvision.Text.Digits

/-!
# Decimal numerals

A numeral is an optional sign, digits with at most one point among or around them (at least one
digit), and an optional exponent.  `Numeral.scan` takes the longest numeral at the front of a text:
a point without any digit is no numeral, and an exponent letter is taken only when digits follow.

The characters of a numeral are kept, so `Numeral.text` gives back exactly what was scanned
(`Numeral.scan_text`).
-/

namespace BulkProvision

open Text

/-- The power of ten after the digits: the letter, the sign and the digits. -/
structure Exponent where
  letter : Char
  sign : Option Char
  digits : List Char
  deriving DecidableEq

/-- A decimal numeral, as written. -/
structure Numeral where
  sign : Option Char
  whole : List Char
  /-- The digits after the point, when there is a point. -/
  fraction : Option (List Char)
  exponent : Option Exponent
  deriving DecidableEq

namespace Numeral

/-- Takes a plus or minus sign, if there is one. -/
def takeSign : List Char → Option Char × List Char
  | c :: rest => if c = '+' ∨ c = '-' then (some c, rest) else (none, c :: rest)
  | [] => (none, [])

/-- Takes a point and the digits after it, if there is a point and a digit on either side. -/
def takeFraction (whole : List Char) : List Char → Option (List Char) × List Char
  | c :: rest =>
    if c = '.' ∧ (whole ≠ [] ∨ rest.takeWhile isDecimal ≠ []) then
      (some (rest.takeWhile isDecimal), rest.dropWhile isDecimal)
    else (none, c :: rest)
  | [] => (none, [])

/-- Takes an exponent, if a letter, perhaps a sign, and a digit come next. -/
def takeExponent : List Char → Option Exponent × List Char
  | c :: rest =>
    let signed := takeSign rest
    if (c = 'e' ∨ c = 'E') ∧ signed.2.takeWhile isDecimal ≠ [] then
      (some ⟨c, signed.1, signed.2.takeWhile isDecimal⟩, signed.2.dropWhile isDecimal)
    else (none, c :: rest)
  | [] => (none, [])

/-- The longest numeral at the front of a text, and the text after it. -/
def scan (s : List Char) : Option (Numeral × List Char) :=
  let signed := takeSign s
  let whole := signed.2.takeWhile isDecimal
  let fraction := takeFraction whole (signed.2.dropWhile isDecimal)
  if whole = [] ∧ fraction.1 = none then none
  else
    let exponent := takeExponent fraction.2
    some (⟨signed.1, whole, fraction.1, exponent.1⟩, exponent.2)

/-- A whole text read as a numeral. -/
def ofText? (s : List Char) : Option Numeral :=
  match scan s with
  | some (n, []) => some n
  | _ => none

/-! ### The text of a numeral -/

/-- The characters of a fraction. -/
def fractionText : Option (List Char) → List Char
  | none => []
  | some digits => '.' :: digits

/-- The characters of an exponent. -/
def exponentText : Option Exponent → List Char
  | none => []
  | some e => e.letter :: (e.sign.toList ++ e.digits)

/-- The characters of a numeral. -/
def text (n : Numeral) : List Char :=
  n.sign.toList ++ n.whole ++ fractionText n.fraction ++ exponentText n.exponent

theorem takeSign_text (s : List Char) : (takeSign s).1.toList ++ (takeSign s).2 = s := by
  cases s with
  | nil => rfl
  | cons c rest => by_cases h : c = '+' ∨ c = '-' <;> simp [takeSign, h]

theorem takeFraction_text (whole s : List Char) :
    fractionText (takeFraction whole s).1 ++ (takeFraction whole s).2 = s := by
  cases s with
  | nil => rfl
  | cons c rest =>
    by_cases h : c = '.' ∧ (whole ≠ [] ∨ rest.takeWhile isDecimal ≠ [])
    · rw [takeFraction, if_pos h, h.1]; simp [fractionText]
    · rw [takeFraction, if_neg h]; simp [fractionText]

theorem takeExponent_text (s : List Char) :
    exponentText (takeExponent s).1 ++ (takeExponent s).2 = s := by
  cases s with
  | nil => rfl
  | cons c rest =>
    by_cases h : (c = 'e' ∨ c = 'E') ∧ (takeSign rest).2.takeWhile isDecimal ≠ []
    · simp only [takeExponent, if_pos h]; simp [exponentText, takeSign_text]
    · simp only [takeExponent, if_neg h]; simp [exponentText]

/-- A numeral and the text after it are the scanned text. -/
theorem scan_text {s rest : List Char} {n : Numeral} (h : scan s = some (n, rest)) :
    n.text ++ rest = s := by
  simp only [scan] at h
  split at h
  · simp at h
  · simp only [Option.some.injEq, Prod.mk.injEq] at h
    obtain ⟨rfl, rfl⟩ := h
    simp only [text, List.append_assoc, takeExponent_text, takeFraction_text,
      List.takeWhile_append_dropWhile, takeSign_text]

/-! ### The value of a numeral -/

/-- The exponent as a number. -/
def exponentValue : Option Exponent → Int
  | none => 0
  | some e => if e.sign = some '-' then -(ofDigits 10 e.digits : Int) else ofDigits 10 e.digits

/-- The double nearest to what the numeral says. -/
def value (n : Numeral) : Binary64 :=
  let fraction := n.fraction.getD []
  Binary64.ofDecimal (n.sign = some '-') (ofDigits 10 (n.whole ++ fraction))
    (exponentValue n.exponent - fraction.length)

end Numeral

end BulkProvision
