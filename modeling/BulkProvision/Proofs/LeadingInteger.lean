import BulkProvision.Proofs.DigitFold
import BulkProvision.Proofs.Grammar
import Mathlib.Data.Int.ConditionallyCompleteOrder
import Mathlib.Data.Nat.Digits.Defs

/-!
# The integer in front of a text

How the front of a text is laid out as an integer: a sign or none, a mark of hexadecimal digits or
none, the longest run of digits, and what follows.  `IntegerLayout.Describes` says so of the parts
alone; every text is described by some parts (`exists_describes`), and `IntegerReading` says what a
text is read as, of all parts that describe it.
-/

namespace BulkProvision

namespace Text

/-- The digits in the order of their values.  Those of a radix are the first of them. -/
def digitsInOrder : List Char := decimalDigits ++ ['a', 'b', 'c', 'd', 'e', 'f']

/-- A character is the digit of a value, letters in either case. -/
def IsDigitOf (value : ℕ) (c : Char) : Prop := digitsInOrder[value]? = some c.toLower

instance (value : ℕ) (c : Char) : Decidable (IsDigitOf value c) :=
  inferInstanceAs (Decidable (_ = _))

theorem IsDigitOf.lt {value : ℕ} {c : Char} (h : IsDigitOf value c) : value < 16 :=
  (List.getElem?_eq_some_iff.1 h).1

theorem IsDigitOf.ascii {value : ℕ} {c : Char} (h : IsDigitOf value c) : c.toNat < 128 := by
  have hlist : digitsInOrder.all (·.toNat < 128) = true := by decide
  have hlower := List.all_eq_true.1 hlist _ (List.mem_of_getElem? h)
  by_cases hupper : c.val ≥ 'A'.val ∧ c.val ≤ 'Z'.val
  · exact lt_of_le_of_lt (UInt32.le_iff_toNat_le.1 hupper.2) (by decide)
  · have hsame : c.toLower = c := dif_neg hupper
    rwa [hsame, decide_eq_true_eq] at hlower

theorem digit?_eq_some_iff {value : ℕ} {c : Char} : digit? c = some value ↔ IsDigitOf value c := by
  constructor
  · intro h
    have hascii : ∀ n < 128, ∀ v ∈ digit? (Char.ofNat n), IsDigitOf v (Char.ofNat n) := by
      decide +kernel
    have hdigit : isDigit (value + 1) c = true := by simp [isDigit, h]
    exact forall_ascii (P := fun c => ∀ v ∈ digit? c, IsDigitOf v c) hascii
      (isAscii_isDigit _ c hdigit) value h
  · intro h
    have hascii : ∀ n < 128, ∀ v < 16,
        IsDigitOf v (Char.ofNat n) → digit? (Char.ofNat n) = some v := by
      decide +kernel
    exact forall_ascii (P := fun c => ∀ v < 16, IsDigitOf v c → digit? c = some v) hascii h.ascii
      value h.lt h

theorem isDigit_iff {radix : ℕ} {c : Char} :
    isDigit radix c = true ↔ ∃ value < radix, IsDigitOf value c := by
  simp only [isDigit, Option.any_eq_true, decide_eq_true_eq, digit?_eq_some_iff, and_comm]

theorem IsDigitOf.digitValue_eq {value : ℕ} {c : Char} (h : IsDigitOf value c) :
    digitValue c = value := by
  rw [digitValue, digit?_eq_some_iff.2 h, Option.getD_some]

theorem forall₂_digitValue {radix : ℕ} {digits : List Char}
    (h : ∀ c ∈ digits, isDigit radix c = true) :
    List.Forall₂ IsDigitOf (digits.map digitValue) digits := by
  rw [List.forall₂_map_left_iff, List.forall₂_same]
  intro c hc
  obtain ⟨value, -, hvalue⟩ := isDigit_iff.1 (h c hc)
  rwa [hvalue.digitValue_eq]

theorem ofDigits_eq {radix : ℕ} {values : List ℕ} {digits : List Char}
    (h : List.Forall₂ IsDigitOf values digits) :
    ofDigits radix digits = Nat.ofDigits radix values.reverse := by
  have hvalues : values = digits.map digitValue := by
    induction h with
    | nil => rfl
    | cons hdigit _ ih => rw [List.map_cons, hdigit.digitValue_eq, ← ih]
  subst hvalues
  clear h
  induction digits using List.reverseRecOn with
  | nil => rfl
  | append_singleton digits c ih =>
    rw [ofDigits_append_singleton, ih, List.map_append, List.reverse_append, List.map_singleton,
      List.reverse_singleton, List.singleton_append, Nat.ofDigits_cons, Nat.mul_comm, Nat.add_comm]

end Text

open Text

namespace Coercion

/-- The parts of a text that starts with an integer. -/
structure IntegerLayout where
  sign : Option Char
  /-- What marks the digits as hexadecimal, if anything does. -/
  mark : List Char
  digits : List Char
  values : List ℕ
  rest : List Char

namespace IntegerLayout

/-- The radix that the mark says. -/
def radix (l : IntegerLayout) : ℕ := if l.mark = [] then 10 else 16

/-- The value of the digits, the first one counting most. -/
def magnitude (l : IntegerLayout) : ℕ := Nat.ofDigits l.radix l.values.reverse

/-- The value with its sign. -/
def exact (l : IntegerLayout) : ℤ := if l.sign = some '-' then -l.magnitude else l.magnitude

/-- The parts are those of the text: each is as long as it can be. -/
structure Describes (l : IntegerLayout) (t : List Char) : Prop where
  text : l.sign.toList ++ (l.mark ++ (l.digits ++ l.rest)) = t
  sign : ∀ c ∈ l.sign, c = '+' ∨ c = '-'
  unsigned : l.sign = none → ∀ c ∈ t.head?, ¬ (c = '+' ∨ c = '-')
  mark : l.mark ∈ hexMarks ∨ l.mark = [] ∧ ∀ mark ∈ hexMarks, ¬ mark <+: l.digits ++ l.rest
  values : List.Forall₂ IsDigitOf l.values l.digits
  values_lt : ∀ value ∈ l.values, value < l.radix
  longest : ∀ c ∈ l.rest.head?, ∀ value < l.radix, ¬ IsDigitOf value c

variable {l : IntegerLayout} {t : List Char}

theorem Describes.isDigit_of_mem (h : l.Describes t) :
    ∀ c ∈ l.digits, isDigit l.radix c = true := by
  intro c hc
  obtain ⟨i, hi, rfl⟩ := List.getElem_of_mem hc
  have hlength := h.values.length_eq
  have hi' : i < l.values.length := by omega
  exact isDigit_iff.2 ⟨l.values[i], h.values_lt _ (List.getElem_mem _),
    List.forall₂_iff_get.1 h.values |>.2 i hi' hi⟩

theorem Describes.span (h : l.Describes t) :
    (l.digits ++ l.rest).takeWhile (isDigit l.radix) = l.digits ∧
      (l.digits ++ l.rest).dropWhile (isDigit l.radix) = l.rest := by
  have hrest : ∀ c ∈ l.rest.head?, isDigit l.radix c = false := by
    intro c hc
    refine Bool.eq_false_iff.2 fun hdigit => ?_
    obtain ⟨value, hlt, hvalue⟩ := isDigit_iff.1 hdigit
    exact h.longest c hc value hlt hvalue
  rw [List.takeWhile_append_of_pos h.isDigit_of_mem, List.dropWhile_append_of_pos h.isDigit_of_mem]
  cases hcases : l.rest with
  | nil => simp
  | cons c rest =>
    have hc := hrest c (by rw [hcases]; rfl)
    simp [hc]

theorem Describes.takeRadix_eq (h : l.Describes t) :
    takeRadix (l.mark ++ (l.digits ++ l.rest)) = (l.radix, l.digits ++ l.rest) := by
  rcases h.mark with hmark | ⟨hnone, hplain⟩
  · have hne : l.mark ≠ [] := by
      intro hnil
      rw [hnil] at hmark
      exact absurd hmark (by decide)
    rw [takeRadix_append hmark, radix, if_neg hne]
  · rw [hnone, List.nil_append, takeRadix_of_not_isPrefix hplain, radix, if_pos hnone]

theorem Describes.takeSign_eq (h : l.Describes t) :
    Numeral.takeSign t = (l.sign, l.mark ++ (l.digits ++ l.rest)) := by
  have htake := Numeral.takeSign_append h.sign (s := l.mark ++ (l.digits ++ l.rest))
  rw [h.text] at htake
  refine htake fun hnone => ?_
  have htext := h.text
  rw [hnone, Option.toList_none, List.nil_append] at htext
  rw [htext]
  exact h.unsigned hnone

/-- The integer at the front of a text is read off the parts that describe it. -/
theorem Describes.leadingInteger_eq (h : l.Describes t) :
    leadingInteger t = ⟨l.sign = some '-', l.radix, l.digits⟩ := by
  rw [leadingInteger]
  simp only [h.takeSign_eq, h.takeRadix_eq, h.span.1]

theorem Describes.exact_eq (h : l.Describes t) : (leadingInteger t).exact = l.exact := by
  rw [h.leadingInteger_eq, IntegerText.exact, exact, magnitude]
  simp only [ofDigits_eq h.values, decide_eq_true_eq]

end IntegerLayout

open IntegerLayout

theorem head_of_takeSign {s : List Char} (h : (Numeral.takeSign s).1 = none) :
    ∀ c ∈ s.head?, ¬ (c = '+' ∨ c = '-') := by
  rintro c hc hsign
  obtain ⟨rest, rfl⟩ := List.head?_eq_some_iff.1 hc
  rw [Numeral.takeSign, if_pos hsign] at h
  cases h

theorem exists_mark (s : List Char) : ∃ mark body, mark ++ body = s ∧
    (mark ∈ hexMarks ∨ mark = [] ∧ ∀ other ∈ hexMarks, ¬ other <+: body) := by
  by_cases hmark : ∃ mark ∈ hexMarks, mark <+: s
  · obtain ⟨mark, hmem, body, hbody⟩ := hmark
    exact ⟨mark, body, hbody, .inl hmem⟩
  · exact ⟨[], s, rfl, .inr ⟨rfl, fun mark hmem hprefix => hmark ⟨mark, hmem, hprefix⟩⟩⟩

/-- **Every text has such parts.** -/
theorem exists_describes (t : List Char) : ∃ l : IntegerLayout, l.Describes t := by
  obtain ⟨mark, body, hbody, hmark⟩ := exists_mark (Numeral.takeSign t).2
  generalize hradix : (if mark = [] then 10 else 16) = radix
  have hdigits : ∀ c ∈ body.takeWhile (isDigit radix), isDigit radix c = true :=
    fun c hc => List.mem_takeWhile_imp hc
  refine ⟨⟨(Numeral.takeSign t).1, mark, body.takeWhile (isDigit radix),
    (body.takeWhile (isDigit radix)).map digitValue, body.dropWhile (isDigit radix)⟩, ?_,
    Numeral.sign_of_takeSign, head_of_takeSign, ?_, forall₂_digitValue hdigits, ?_, ?_⟩
  · rw [List.takeWhile_append_dropWhile, hbody, Numeral.takeSign_text]
  · rwa [List.takeWhile_append_dropWhile]
  · rw [List.forall_mem_map, IntegerLayout.radix, hradix]
    exact fun c hc => digitValue_lt (hdigits c hc)
  · intro c hc value hlt hvalue
    rw [IntegerLayout.radix, hradix] at hlt
    have hhead := List.head?_dropWhile_not (isDigit radix) body
    rw [Option.mem_def.1 hc] at hhead
    have hno : isDigit radix c = false := by simpa using hhead
    rw [isDigit_iff.2 ⟨value, hlt, hvalue⟩] at hno
    cases hno

/-! ### What is read -/

/-- What a text is read as whose trimmed form has these parts. -/
structure ReadsInteger (s : String) (l : IntegerLayout) : Prop where
  /-- The text is read as NaN where it has no digit, and only there. -/
  nan_iff : readText s .integer = .float .nan ↔ l.digits = []
  /-- The text is read as its integer where that has 64 bits with its sign, and only there. -/
  int_iff : ∀ n, readText s .integer = .int n ↔
    l.digits ≠ [] ∧ l.exact ∈ Set.Icc (-2 ^ 63) (2 ^ 63 - 1) ∧ n = l.exact
  /-- An integer of more bits is read as a double of its sign, from `2^63` on or infinite. -/
  oversized : l.digits ≠ [] → l.exact ∉ Set.Icc (-2 ^ 63) (2 ^ 63 - 1) →
    ∃ code, readText s .integer = .float (.signed (l.sign = some '-') code) ∧
      2 ^ 63 ≤ Binary64.magnitude code
  /-- A scanner of the bytes reads the same. -/
  bytes : leadingInteger (bytes (trim s.toList)) = leadingInteger (trim s.toList)
  /-- A scanner of the bytes cuts the text after the sign, after the mark and after the digits, each
  time between two characters, since all of these are characters of one byte. -/
  boundaries : ∀ front ∈ [l.sign.toList, l.sign.toList ++ l.mark,
    l.sign.toList ++ l.mark ++ l.digits], IsBoundary (trim s.toList) front.length

/-- What a text is read as an integer. -/
structure IntegerReading (s : String) : Prop where
  exists_layout : ∃ l : IntegerLayout, l.Describes (trim s.toList)
  reads : ∀ l : IntegerLayout, l.Describes (trim s.toList) → ReadsInteger s l

variable {s : String} {l : IntegerLayout}

theorem leadingInteger_bytes (t : List Char) : leadingInteger (bytes t) = leadingInteger t := by
  simp only [leadingInteger, Numeral.takeSign_bytes, takeRadix_bytes,
    (span_bytes (isAscii_isDigit _) _).1]

theorem isBoundary_of_ascii {front rest t : List Char} (htext : front ++ rest = t)
    (h : ∀ c ∈ front, c.toNat < 128) : IsBoundary t front.length := by
  have hboundary := isBoundary_append front rest
  rwa [htext, bytes_of_ascii h] at hboundary

theorem IntegerLayout.Describes.boundaries {t : List Char} (h : l.Describes t) :
    ∀ front ∈ [l.sign.toList, l.sign.toList ++ l.mark, l.sign.toList ++ l.mark ++ l.digits],
      IsBoundary t front.length := by
  have hsign : ∀ c ∈ l.sign.toList, c.toNat < 128 := by
    intro c hc
    rcases h.sign c (Option.mem_toList.1 hc) with rfl | rfl <;> decide
  have hmark : ∀ c ∈ l.mark, c.toNat < 128 := by
    rcases h.mark with hmark | ⟨hnone, -⟩
    · exact ascii_of_mem_hexMarks _ hmark
    · rw [hnone]
      exact fun c hc => absurd hc List.not_mem_nil
  have hdigits : ∀ c ∈ l.digits, c.toNat < 128 := fun c hc =>
    isAscii_isDigit _ c (h.isDigit_of_mem c hc)
  have hfront := List.forall_mem_append.2 ⟨hsign, hmark⟩
  have htext := h.text
  rw [List.forall_mem_cons, List.forall_mem_cons, List.forall_mem_singleton]
  refine ⟨isBoundary_of_ascii htext hsign, ?_, ?_⟩
  · rw [← List.append_assoc] at htext
    exact isBoundary_of_ascii htext hfront
  · rw [← List.append_assoc, ← List.append_assoc] at htext
    exact isBoundary_of_ascii htext (List.forall_mem_append.2 ⟨hfront, hdigits⟩)

theorem signed_64_iff_mem {n : ℤ} : Width.Signed 64 n ↔ n ∈ Set.Icc (-2 ^ 63) (2 ^ 63 - 1) := by
  rw [Width.signed_64_iff, Set.mem_Icc]
  omega

theorem two_pow_le_magnitude (h : l.exact ∉ Set.Icc (-2 ^ 63) (2 ^ 63 - 1)) :
    2 ^ 63 ≤ l.magnitude := by
  rw [IntegerLayout.exact, Set.mem_Icc] at h
  split at h <;> omega

theorem IntegerLayout.Describes.exists_foldsTo {t : List Char} (h : l.Describes t) :
    ∃ code, foldDigits l.radix l.digits = .signed false code ∧ FoldsTo l.radix l.digits code := by
  refine Coercion.exists_foldsTo ?_ ?_ l.digits h.isDigit_of_mem <;>
    · rw [IntegerLayout.radix]
      split <;> decide

theorem atLeast_radix (l : IntegerLayout) : AtLeast l.radix (2 ^ 63) (2 ^ 63) := by
  rw [IntegerLayout.radix]
  split
  · exact atLeast_ten
  · exact atLeast_sixteen

/-- A value of more than 64 bits is read as its digits folded, with its sign. -/
theorem IntegerLayout.Describes.value_oversized {t : List Char} (h : l.Describes t)
    (hdigits : l.digits ≠ []) (hout : l.exact ∉ Set.Icc (-2 ^ 63) (2 ^ 63 - 1)) :
    ∃ code, (leadingInteger t).value = .float (.signed (l.sign = some '-') code) ∧
      FoldsTo l.radix l.digits code := by
  obtain ⟨code, hcode, hfolds⟩ := h.exists_foldsTo
  refine ⟨code, ?_, hfolds⟩
  rw [IntegerText.value, h.exact_eq, h.leadingInteger_eq, if_neg hdigits,
    if_neg (mt signed_64_iff_mem.1 hout)]
  by_cases hsign : l.sign = some '-' <;> simp [hsign, hcode, Binary64.neg]

/-- What is read is one of three things. -/
theorem readText_cases (h : l.Describes (trim s.toList)) :
    l.digits = [] ∧ readText s .integer = .float .nan ∨
      l.digits ≠ [] ∧ l.exact ∈ Set.Icc (-2 ^ 63) (2 ^ 63 - 1) ∧
        readText s .integer = .int l.exact ∨
      l.digits ≠ [] ∧ l.exact ∉ Set.Icc (-2 ^ 63) (2 ^ 63 - 1) ∧
        ∃ code, readText s .integer = .float (.signed (l.sign = some '-') code) ∧
          2 ^ 63 ≤ Binary64.magnitude code := by
  rw [readText]
  by_cases hdigits : l.digits = []
  · refine .inl ⟨hdigits, ?_⟩
    rw [IntegerText.value, h.leadingInteger_eq, if_pos hdigits]
  · by_cases hin : l.exact ∈ Set.Icc (-2 ^ 63) (2 ^ 63 - 1)
    · refine .inr (.inl ⟨hdigits, hin, ?_⟩)
      rw [IntegerText.value, h.exact_eq, if_pos (signed_64_iff_mem.2 hin), h.leadingInteger_eq,
        if_neg hdigits]
    · obtain ⟨code, hvalue, hfolds⟩ := h.value_oversized hdigits hin
      refine .inr (.inr ⟨hdigits, hin, code, hvalue, atLeast_radix l _ _ hfolds ?_⟩)
      rw [ofDigits_eq h.values]
      exact two_pow_le_magnitude hin

/-- **The integer in front of a text is read exactly**, and never clamped or wrapped. -/
theorem integerReading (s : String) : IntegerReading s := by
  refine ⟨exists_describes _, fun l h => ?_⟩
  have hbytes := leadingInteger_bytes (trim s.toList)
  rcases readText_cases h with ⟨hdigits, hread⟩ | ⟨hdigits, hin, hread⟩ |
    ⟨hdigits, hout, code, hread, hlarge⟩ <;>
    refine ⟨?_, fun n => ?_, fun hne hno => ?_, hbytes, h.boundaries⟩ <;> rw [hread]
  · exact iff_of_true rfl hdigits
  · exact iff_of_false Scalar.noConfusion fun hn => hn.1 hdigits
  · exact absurd hdigits hne
  · exact iff_of_false Scalar.noConfusion hdigits
  · rw [Scalar.int.injEq, eq_comm]
    exact ⟨fun hn => ⟨hdigits, hin, hn⟩, fun hn => hn.2.2⟩
  · exact absurd hin hno
  · exact iff_of_false (fun hnan => Binary64.noConfusion (Scalar.float.inj hnan)) hdigits
  · exact iff_of_false Scalar.noConfusion fun hn => hout hn.2.1
  · exact ⟨code, rfl, hlarge⟩

end Coercion

end BulkProvision
