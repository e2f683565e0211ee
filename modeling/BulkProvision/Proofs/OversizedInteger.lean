import BulkProvision.Proofs.LeadingFloat
import BulkProvision.Proofs.LeadingInteger

/-!
# Whole numbers of more than 64 bits

A sign and digits can be read as a floating-point number, which rounds the exact value once, and as
an integer, which folds digits that do not fit 64 bits and rounds twice for each of them.
`OversizedReadings` says how far the two can be apart, and when they cannot.
-/

namespace BulkProvision

open Text

namespace Text

/-- A text without blanks at its ends is trimmed to itself. -/
theorem trim_of_not_blank {s : List Char} (h : ∀ c ∈ s, isBlank c = false) : trim s = s := by
  have hdrop {t : List Char} (ht : ∀ c ∈ t, isBlank c = false) : t.dropWhile isBlank = t := by
    cases t with
    | nil => rfl
    | cons c t => rw [List.dropWhile_cons_of_neg]; simp [ht c List.mem_cons_self]
  rw [trim, hdrop h, dropEnd, hdrop fun c hc => h c (List.mem_reverse.1 hc), List.reverse_reverse]

theorem not_isBlank_of_isDecimal {c : Char} (h : isDecimal c = true) : isBlank c = false := by
  have hascii : ∀ n < 128, isDecimal (Char.ofNat n) = true → isBlank (Char.ofNat n) = false := by
    decide +kernel
  exact forall_ascii (P := fun c => isDecimal c = true → isBlank c = false) hascii
    (isAscii_isDecimal c h) h

end Text

namespace Coercion

open Binary64 (Rounded RoundsTo IsDouble magnitude infiniteCode unitRoundoff)

/-- A sign, or none, and decimal digits. -/
structure SignedDigits (sign : Option Char) (digits : List Char) : Prop where
  sign : ∀ c ∈ sign, c = '+' ∨ c = '-'
  digits : ∀ c ∈ digits, isDecimal c = true

/-- The exact value of a sign and digits. -/
def signedValue (sign : Option Char) (digits : List Char) : ℤ :=
  if sign = some '-' then -(ofDigits 10 digits : ℤ) else ofDigits 10 digits

/-- The two readings of a text that is a sign and digits of more than 64 bits. -/
structure OversizedReadings (s : String) (sign : Option Char) (digits : List Char) : Prop where
  /-- The floating-point reading is the double nearest to the exact value. -/
  float : ∃ x, readText s .float = .float x ∧ RoundsTo (sign = some '-') (ofDigits 10 digits) x
  /-- The integer reading is a double of the same sign from `2^63` on, at most one rounding factor
  off for each rounding of the fold: two for every digit, zeros in front not counted.  Only an
  infinite one can be farther off, above. -/
  integer : ∃ code, readText s .integer = .float (.signed (sign = some '-') code) ∧
    2 ^ 63 ≤ magnitude code ∧
    ∀ k, ofDigits 10 digits < 10 ^ k →
      magnitude code ≤ ofDigits 10 digits * (1 + unitRoundoff) ^ (2 * k) ∧
        (code.val ≠ infiniteCode →
          ofDigits 10 digits * (1 - unitRoundoff) ^ (2 * k) ≤ magnitude code)
  /-- The two readings are the same where the fold has nothing to round before the last digit. -/
  agree : (∀ start, start <+: digits → start ≠ digits →
      IsDouble (ofDigits 10 start) ∧ IsDouble (ofDigits 10 start * (10 : ℕ))) →
    readText s .integer = readText s .float

variable {sign : Option Char} {digits : List Char} {s : String}

namespace SignedDigits

theorem trim_eq (h : SignedDigits sign digits) :
    trim (sign.toList ++ digits) = sign.toList ++ digits := by
  refine trim_of_not_blank (List.forall_mem_append.2 ⟨fun c hc => ?_, fun c hc => ?_⟩)
  · rcases h.sign c (Option.mem_toList.1 hc) with rfl | rfl <;> decide
  · exact not_isBlank_of_isDecimal (h.digits c hc)

/-- A sign and digits are a numeral with neither a fraction nor an exponent. -/
theorem isWellFormed (h : SignedDigits sign digits) (hne : digits ≠ []) :
    Numeral.IsWellFormed ⟨sign, digits, none, none⟩ :=
  ⟨h.sign, h.digits, by simp, .inl hne, by simp⟩

/-- A sign and digits are an integer with neither a mark nor anything after the digits. -/
theorem describes (h : SignedDigits sign digits) :
    IntegerLayout.Describes ⟨sign, [], digits, digits.map digitValue, []⟩
      (sign.toList ++ digits) where
  text := by simp
  sign := h.sign
  unsigned := by
    rintro (rfl : sign = none) c hc
    have hdigit := h.digits c (List.mem_of_mem_head? hc)
    exact Numeral.not_sign_of_isDecimal hdigit
  mark := by
    refine .inr ⟨rfl, fun mark hmark hprefix => ?_⟩
    obtain ⟨c, hc, hplain⟩ := exists_letter_of_mem_hexMarks mark hmark
    have hmem := hprefix.subset hc
    rw [List.append_nil] at hmem
    rw [h.digits c hmem] at hplain
    cases hplain
  values := forall₂_digitValue h.digits
  values_lt := by
    rw [List.forall_mem_map]
    exact fun c hc => digitValue_lt (h.digits c hc)
  longest := by simp

theorem scan_eq (h : SignedDigits sign digits) (hne : digits ≠ []) :
    Numeral.scan (sign.toList ++ digits) = some (⟨sign, digits, none, none⟩, []) := by
  obtain ⟨n, rest, hscan, -, hwhole⟩ := Numeral.scan_append (h.isWellFormed hne) []
  obtain ⟨rfl, rfl⟩ := hwhole rfl
  simpa [Numeral.text, Numeral.fractionText, Numeral.exponentText] using hscan

end SignedDigits

theorem magnitude_eq_ofDigits :
    Numeral.magnitude ⟨sign, digits, none, none⟩ = ofDigits 10 digits := by
  simp [Numeral.magnitude, Numeral.exponentValue, ofDigits_nil]

theorem exact_eq_signedValue (h : SignedDigits sign digits) :
    IntegerLayout.exact ⟨sign, [], digits, digits.map digitValue, []⟩ =
      signedValue sign digits := by
  rw [signedValue, ofDigits_eq (forall₂_digitValue h.digits)]
  rfl

theorem two_pow_le_ofDigits (h : signedValue sign digits ∉ Set.Icc (-2 ^ 63) (2 ^ 63 - 1)) :
    2 ^ 63 ≤ ofDigits 10 digits := by
  rw [signedValue, Set.mem_Icc] at h
  split at h <;> omega

/-- **The two readings of an oversized whole number** are its nearest double and its digits
folded. -/
theorem oversizedReadings (h : SignedDigits sign digits) (hs : s.toList = sign.toList ++ digits)
    (hout : signedValue sign digits ∉ Set.Icc (-2 ^ 63) (2 ^ 63 - 1)) :
    OversizedReadings s sign digits := by
  have hlarge := two_pow_le_ofDigits hout
  have hne : digits ≠ [] := by
    rintro rfl
    exact absurd hlarge (by decide)
  have htrim : trim s.toList = sign.toList ++ digits := by rw [hs, h.trim_eq]
  have hfloat : readText s .float = .float (Numeral.value ⟨sign, digits, none, none⟩) :=
    readText_of_scan (htrim ▸ h.scan_eq hne)
  have hnearest := Numeral.roundsTo_value ⟨sign, digits, none, none⟩
  rw [magnitude_eq_ofDigits] at hnearest
  rw [← exact_eq_signedValue h] at hout
  obtain ⟨code, hvalue, hfolds⟩ := h.describes.value_oversized hne hout
  replace hfolds : FoldsTo 10 digits code := hfolds
  have hinteger : readText s .integer = .float (.signed (sign = some '-') code) := by
    rw [readText, htrim, hvalue]
  refine ⟨⟨_, hfloat, hnearest⟩, ⟨code, hinteger, atLeast_ten _ _ hfolds hlarge, fun k hk =>
    ⟨hfolds.le_mul (by decide) hk, hfolds.mul_le (by decide) hk⟩⟩, fun hdoubles => ?_⟩
  rw [hinteger, hfloat]
  have hrounded : RoundsTo (sign = some '-') (ofDigits 10 digits)
      (.signed (sign = some '-') code) := ⟨code, rfl, hfolds.rounded_of_doubles hdoubles⟩
  rw [hrounded.unique hnearest]

/-- The least natural number that does not fit is a double, and is read as another one: the fold
rounds it away. -/
theorem oversizedReadings_two_pow :
    OversizedReadings "9223372036854775808" none "9223372036854775808".toList ∧
      readText "9223372036854775808" .float = .float (.ofNat (2 ^ 63)) ∧
      readText "9223372036854775808" .integer = .float (.ofNat (2 ^ 63 + 2048)) ∧
      Binary64.ofNat (2 ^ 63) ≠ Binary64.ofNat (2 ^ 63 + 2048) := by
  refine ⟨oversizedReadings ⟨by simp, ?_⟩ rfl ?_, ?_, ?_, ?_⟩
  · have hall : "9223372036854775808".toList.all isDecimal = true := by decide +kernel
    exact List.all_eq_true.1 hall
  · decide +kernel
  · decide +kernel
  · decide +kernel
  · decide +kernel

end Coercion

end BulkProvision
