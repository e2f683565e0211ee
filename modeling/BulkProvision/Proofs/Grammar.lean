import BulkProvision.Proofs.Bytes
import BulkProvision.Proofs.Rounding
import Mathlib.Computability.Language

/-!
# The grammar of numerals

`Numeral.grammar` is the language of decimal numerals, put together from its parts as it is usually
written.  Its texts are just those of well-formed numerals (`Numeral.mem_grammar`), each of one
(`Numeral.IsWellFormed.unique`).  A scan takes the longest text of the language that a text starts
with (`Numeral.isLongestPrefix_of_scan`), and nothing only where it starts with none
(`Numeral.scan_eq_none_iff`); what it takes is worth the double nearest to the number that is
written (`Numeral.roundsTo_value`).
-/

namespace BulkProvision

namespace Text

/-! ### Languages of texts -/

/-- One of these characters. -/
def oneOf (cs : List Char) : Language Char := {s | ∃ c ∈ cs, s = [c]}

/-- A run of these characters, perhaps empty. -/
def anyRun (cs : List Char) : Language Char := KStar.kstar (oneOf cs)

/-- A run of these characters, not empty. -/
def someRun (cs : List Char) : Language Char := oneOf cs * anyRun cs

/-- A text of the language, or none. -/
def optional (l : Language Char) : Language Char := 1 + l

theorem mem_optional {l : Language Char} {s : List Char} : s ∈ optional l ↔ s = [] ∨ s ∈ l := by
  rw [optional, Language.mem_add, Language.mem_one]

theorem mem_oneOf {cs s : List Char} : s ∈ oneOf cs ↔ ∃ c ∈ cs, s = [c] := Iff.rfl

theorem mem_anyRun {cs s : List Char} : s ∈ anyRun cs ↔ ∀ c ∈ s, c ∈ cs := by
  rw [anyRun, Language.mem_kstar]
  constructor
  · rintro ⟨parts, rfl, hparts⟩ c hc
    obtain ⟨part, hpart, hcpart⟩ := List.mem_flatten.1 hc
    obtain ⟨d, hd, rfl⟩ := hparts part hpart
    exact List.mem_singleton.1 hcpart ▸ hd
  · intro h
    have hflat : s = (s.map fun c => [c]).flatten := by
      rw [← List.flatMap_def, List.flatMap_singleton']
    refine ⟨_, hflat, fun part hpart => ?_⟩
    obtain ⟨c, hc, rfl⟩ := List.mem_map.1 hpart
    exact ⟨c, h c hc, rfl⟩

theorem mem_someRun {cs s : List Char} : s ∈ someRun cs ↔ s ≠ [] ∧ ∀ c ∈ s, c ∈ cs := by
  rw [someRun, Language.mem_mul]
  constructor
  · rintro ⟨_, ⟨c, hc, rfl⟩, rest, hrest, rfl⟩
    exact ⟨List.cons_ne_nil _ _, List.forall_mem_cons.2 ⟨hc, mem_anyRun.1 hrest⟩⟩
  · rintro ⟨hne, h⟩
    obtain ⟨c, rest, rfl⟩ := List.exists_cons_of_ne_nil hne
    obtain ⟨hc, hrest⟩ := List.forall_mem_cons.1 h
    exact ⟨[c], ⟨c, hc, rfl⟩, rest, mem_anyRun.2 hrest, rfl⟩

/-- The decimal digits. -/
def decimalDigits : List Char := ['0', '1', '2', '3', '4', '5', '6', '7', '8', '9']

theorem mem_decimalDigits {c : Char} : c ∈ decimalDigits ↔ isDecimal c = true := by
  have hascii : ∀ n < 128, Char.ofNat n ∈ decimalDigits ↔ isDecimal (Char.ofNat n) = true := by
    decide +kernel
  constructor
  · intro h
    have hall : decimalDigits.all isDecimal = true := by decide
    exact List.all_eq_true.1 hall c h
  · intro h
    exact (forall_ascii (P := fun c => c ∈ decimalDigits ↔ isDecimal c = true) hascii
      (isAscii_isDecimal c h)).2 h

/-- The longest of the texts of a language that a text starts with. -/
structure IsLongestPrefix (l : Language Char) (start s : List Char) : Prop where
  isPrefix : start <+: s
  mem : start ∈ l
  longest : ∀ other, other <+: s → other ∈ l → other.length ≤ start.length

end Text

open Text

/-- An exponent as numerals have it. -/
structure Exponent.IsWellFormed (e : Exponent) : Prop where
  letter : e.letter = 'e' ∨ e.letter = 'E'
  sign : ∀ c ∈ e.sign, c = '+' ∨ c = '-'
  digits_ne : e.digits ≠ []
  digits : ∀ c ∈ e.digits, isDecimal c = true

namespace Numeral

/-- `[+-]?` -/
def signs : Language Char := optional (oneOf ['+', '-'])

/-- `D+ ('.' D*)? | '.' D+` -/
def mantissas : Language Char :=
  someRun decimalDigits * optional (oneOf ['.'] * anyRun decimalDigits) +
    oneOf ['.'] * someRun decimalDigits

/-- `([eE] [+-]? D+)?` -/
def exponents : Language Char :=
  optional (oneOf ['e', 'E'] * (signs * someRun decimalDigits))

/-- `[+-]? (D+ ('.' D*)? | '.' D+) ([eE] [+-]? D+)?` -/
def grammar : Language Char := signs * (mantissas * exponents)

/-- A numeral as a text can have it. -/
structure IsWellFormed (n : Numeral) : Prop where
  sign : ∀ c ∈ n.sign, c = '+' ∨ c = '-'
  whole : ∀ c ∈ n.whole, isDecimal c = true
  fraction : ∀ f ∈ n.fraction, ∀ c ∈ f, isDecimal c = true
  nonempty : n.whole ≠ [] ∨ ∃ f ∈ n.fraction, f ≠ []
  exponent : ∀ e ∈ n.exponent, e.IsWellFormed

/-! ### Numerals and their texts -/

theorem mem_signs {s : List Char} :
    s ∈ signs ↔ ∃ sign : Option Char, (∀ c ∈ sign, c = '+' ∨ c = '-') ∧ sign.toList = s := by
  rw [signs, mem_optional, mem_oneOf]
  constructor
  · rintro (rfl | ⟨c, hc, rfl⟩)
    · exact ⟨none, by simp, rfl⟩
    · exact ⟨some c, by simpa using hc, rfl⟩
  · rintro ⟨sign | c, hsign, rfl⟩
    · exact .inl rfl
    · exact .inr ⟨_, by simpa using hsign, rfl⟩

theorem mem_mantissas {s : List Char} :
    s ∈ mantissas ↔ ∃ whole fraction, (∀ c ∈ whole, isDecimal c = true) ∧
      (∀ f ∈ fraction, ∀ c ∈ f, isDecimal c = true) ∧ (whole ≠ [] ∨ ∃ f ∈ fraction, f ≠ []) ∧
        whole ++ fractionText fraction = s := by
  simp only [mantissas, Language.mem_add, Language.mem_mul, mem_optional, mem_oneOf, mem_someRun,
    mem_anyRun, mem_decimalDigits, List.mem_singleton]
  constructor
  · rintro (⟨whole, ⟨hne, hwhole⟩, _, rfl | ⟨_, ⟨_, rfl, rfl⟩, f, hf, rfl⟩, rfl⟩ |
      ⟨_, ⟨_, rfl, rfl⟩, f, ⟨hne, hf⟩, rfl⟩)
    · exact ⟨whole, none, hwhole, by simp, .inl hne, rfl⟩
    · exact ⟨whole, some f, hwhole, by simpa using hf, .inl hne, rfl⟩
    · exact ⟨[], some f, by simp, by simpa using hf, .inr ⟨f, rfl, hne⟩, rfl⟩
  · rintro ⟨whole, fraction, hwhole, hfraction, hne, rfl⟩
    by_cases hempty : whole = []
    · obtain ⟨f, rfl, hf⟩ := hne.resolve_left (not_not.2 hempty)
      exact .inr ⟨_, ⟨_, rfl, rfl⟩, f, ⟨hf, hfraction f rfl⟩, by rw [hempty]; rfl⟩
    · cases fraction with
      | none => exact .inl ⟨whole, ⟨hempty, hwhole⟩, _, .inl rfl, rfl⟩
      | some f =>
        exact .inl ⟨whole, ⟨hempty, hwhole⟩, _,
          .inr ⟨_, ⟨_, rfl, rfl⟩, f, hfraction f rfl, rfl⟩, rfl⟩

theorem mem_exponents {s : List Char} :
    s ∈ exponents ↔ ∃ exponent : Option Exponent,
      (∀ e ∈ exponent, e.IsWellFormed) ∧ exponentText exponent = s := by
  simp only [exponents, Language.mem_mul, mem_optional, mem_oneOf, mem_someRun, mem_decimalDigits,
    mem_signs]
  constructor
  · rintro (rfl | ⟨_, ⟨letter, hletter, rfl⟩, _,
      ⟨_, ⟨sign, hsign, rfl⟩, digits, ⟨hne, hdigits⟩, rfl⟩, rfl⟩)
    · exact ⟨none, by simp, rfl⟩
    · refine ⟨some ⟨letter, sign, digits⟩, ?_, rfl⟩
      rintro _ ⟨⟩
      exact ⟨by simpa using hletter, hsign, hne, hdigits⟩
  · rintro ⟨exponent | e, hexponent, rfl⟩
    · exact .inl rfl
    · have he := hexponent e rfl
      exact .inr ⟨_, ⟨e.letter, by simpa using he.letter, rfl⟩, _,
        ⟨_, ⟨e.sign, he.sign, rfl⟩, e.digits, ⟨he.digits_ne, he.digits⟩, rfl⟩, rfl⟩

/-- **The grammar is that of numerals.** -/
theorem mem_grammar {s : List Char} : s ∈ grammar ↔ ∃ n : Numeral, n.IsWellFormed ∧ n.text = s := by
  simp only [grammar, Language.mem_mul, mem_signs, mem_mantissas, mem_exponents]
  constructor
  · rintro ⟨_, ⟨sign, hsign, rfl⟩, _, ⟨_, ⟨whole, fraction, hwhole, hfraction, hne, rfl⟩, _,
      ⟨exponent, hexponent, rfl⟩, rfl⟩, rfl⟩
    refine ⟨⟨sign, whole, fraction, exponent⟩, ⟨hsign, hwhole, hfraction, hne, hexponent⟩, ?_⟩
    simp [text]
  · rintro ⟨n, hn, rfl⟩
    exact ⟨_, ⟨n.sign, hn.sign, rfl⟩, _, ⟨_, ⟨n.whole, n.fraction, hn.whole, hn.fraction,
      hn.nonempty, rfl⟩, _, ⟨n.exponent, hn.exponent, rfl⟩, rfl⟩, by simp [text]⟩

/-! ### What is scanned -/

theorem isDecimal_ne {c d : Char} (hc : isDecimal c = true) (hd : isDecimal d = false) : c ≠ d := by
  rintro rfl
  rw [hc] at hd
  cases hd

theorem not_sign_of_isDecimal {c : Char} (h : isDecimal c = true) : ¬ (c = '+' ∨ c = '-') :=
  not_or.2 ⟨isDecimal_ne h (by decide), isDecimal_ne h (by decide)⟩

/-- A sign in front is taken, and where there is none nothing is taken that is no sign. -/
theorem takeSign_append {sign : Option Char} (h : ∀ c ∈ sign, c = '+' ∨ c = '-') {s : List Char}
    (hs : sign = none → ∀ c ∈ s.head?, ¬ (c = '+' ∨ c = '-')) :
    takeSign (sign.toList ++ s) = (sign, s) := by
  cases sign with
  | some c => simp [takeSign, h c rfl]
  | none =>
    cases s with
    | nil => rfl
    | cons c rest => simp [takeSign, hs rfl c rfl]

theorem span_append {digits : List Char} (h : ∀ c ∈ digits, isDecimal c = true) (s : List Char) :
    (digits ++ s).takeWhile isDecimal = digits ++ s.takeWhile isDecimal ∧
      (digits ++ s).dropWhile isDecimal = s.dropWhile isDecimal :=
  ⟨List.takeWhile_append_of_pos h, List.dropWhile_append_of_pos h⟩

theorem takeFraction_append {whole f : List Char} (h : ∀ c ∈ f, isDecimal c = true)
    (hne : whole ≠ [] ∨ f ≠ []) (s : List Char) :
    takeFraction whole (fractionText (some f) ++ s) =
      (some (f ++ s.takeWhile isDecimal), s.dropWhile isDecimal) := by
  obtain ⟨htake, hdrop⟩ := span_append h s
  rw [fractionText, List.cons_append, takeFraction, htake, hdrop, if_pos]
  exact ⟨rfl, hne.imp id fun hf => by simp [hf]⟩

theorem takeExponent_append {e : Exponent} (h : e.IsWellFormed) (s : List Char) :
    takeExponent (exponentText (some e) ++ s) =
      (some { e with digits := e.digits ++ s.takeWhile isDecimal }, s.dropWhile isDecimal) := by
  obtain ⟨htake, hdrop⟩ := span_append h.digits s
  have hsign : takeSign (e.sign.toList ++ (e.digits ++ s)) = (e.sign, e.digits ++ s) := by
    refine takeSign_append h.sign fun _ c hc => ?_
    obtain ⟨d, rest, hdigits⟩ := List.exists_cons_of_ne_nil h.digits_ne
    rw [hdigits] at hc
    obtain rfl : d = c := Option.some.inj hc
    have hd := h.digits d (hdigits ▸ List.mem_cons_self)
    exact not_sign_of_isDecimal hd
  simp only [exponentText, List.cons_append, List.append_assoc, takeExponent, hsign, htake, hdrop]
  rw [if_pos ⟨h.letter, by simp [h.digits_ne]⟩]

theorem span_of_head {c : Char} (h : isDecimal c = false) (s : List Char) :
    (c :: s).takeWhile isDecimal = [] ∧ (c :: s).dropWhile isDecimal = c :: s := by
  simp [h]

theorem takeFraction_of_head {c : Char} (h : c ≠ '.') (whole s : List Char) :
    takeFraction whole (c :: s) = (none, c :: s) := by
  rw [takeFraction, if_neg fun hc => h hc.1]

theorem letter_ne {e : Exponent} (h : e.IsWellFormed) :
    isDecimal e.letter = false ∧ e.letter ≠ '.' := by
  rcases h.letter with hletter | hletter <;> rw [hletter] <;> decide

/-- What stands after the sign starts with a digit or a point. -/
theorem IsWellFormed.takeSign {n : Numeral} (h : n.IsWellFormed) (s : List Char) :
    takeSign (n.text ++ s) =
      (n.sign, n.whole ++ (fractionText n.fraction ++ (exponentText n.exponent ++ s))) := by
  rw [text, List.append_assoc, List.append_assoc, List.append_assoc]
  refine takeSign_append h.sign fun _ c hc => ?_
  cases hwhole : n.whole with
  | cons d rest =>
    rw [hwhole] at hc
    obtain rfl : d = c := Option.some.inj hc
    have hd := h.whole d (hwhole ▸ List.mem_cons_self)
    exact not_sign_of_isDecimal hd
  | nil =>
    obtain ⟨f, hf, -⟩ := h.nonempty.resolve_left (not_not.2 hwhole)
    rw [hwhole, hf] at hc
    obtain rfl : '.' = c := Option.some.inj hc
    decide

/-- What starts no digits and no fraction ends a mantissa. -/
theorem takeFraction_mantissa {whole : List Char} {fraction : Option (List Char)}
    (hfraction : ∀ f ∈ fraction, ∀ c ∈ f, isDecimal c = true)
    (hne : whole ≠ [] ∨ ∃ f ∈ fraction, f ≠ []) {c : Char} (hdigit : isDecimal c = false)
    (hpoint : c ≠ '.') (s : List Char) :
    (fractionText fraction ++ c :: s).takeWhile isDecimal = [] ∧
      takeFraction whole ((fractionText fraction ++ c :: s).dropWhile isDecimal) =
        (fraction, c :: s) := by
  obtain ⟨htake, hdrop⟩ := span_of_head hdigit s
  cases fraction with
  | none =>
    rw [fractionText, List.nil_append, htake, hdrop, takeFraction_of_head hpoint]
    exact ⟨rfl, rfl⟩
  | some f =>
    have hmarked := span_of_head (c := '.') (by decide) (f ++ c :: s)
    rw [fractionText, List.cons_append, hmarked.1, hmarked.2]
    refine ⟨rfl, (takeFraction_append (hfraction f rfl) ?_ _).trans ?_⟩
    · simpa using hne
    · rw [htake, hdrop, List.append_nil]

/-- Digits that follow a numeral with an exponent are scanned as further digits of the exponent. -/
theorem scan_append_exponent {n : Numeral} (h : n.IsWellFormed) {e : Exponent}
    (he : n.exponent = some e) (s : List Char) :
    scan (n.text ++ s) =
      some ({ n with exponent := some { e with digits := e.digits ++ s.takeWhile isDecimal } },
        s.dropWhile isDecimal) := by
  have hsign := h.takeSign s
  have hexponent := h.exponent e he
  -- the letter ends the digits before it
  obtain ⟨hdigit, hpoint⟩ := letter_ne hexponent
  obtain ⟨hwhole, hfraction⟩ := takeFraction_mantissa h.fraction h.nonempty hdigit hpoint
    (e.sign.toList ++ e.digits ++ s)
  have hletter : exponentText (some e) ++ s = e.letter :: (e.sign.toList ++ e.digits ++ s) := rfl
  have htaken := takeExponent_append hexponent s
  rw [he, hletter] at hsign
  rw [hletter] at htaken
  obtain ⟨htake, hdrop⟩ := span_append h.whole
    (fractionText n.fraction ++ e.letter :: (e.sign.toList ++ e.digits ++ s))
  simp only [scan, hsign, htake, hdrop, hwhole, List.append_nil, hfraction, htaken]
  rw [if_neg]
  rintro ⟨hempty, hnone⟩
  obtain ⟨f, hf, -⟩ := h.nonempty.resolve_left (not_not.2 hempty)
  cases hnone.symm.trans hf

/-- Digits that follow a numeral with a fraction and no exponent are scanned as further digits of
the fraction, and an exponent is looked for after them. -/
theorem scan_append_fraction {n : Numeral} (h : n.IsWellFormed) (he : n.exponent = none)
    {f : List Char} (hf : n.fraction = some f) (s : List Char) :
    let exponent := takeExponent (s.dropWhile isDecimal)
    scan (n.text ++ s) =
      some (⟨n.sign, n.whole, some (f ++ s.takeWhile isDecimal), exponent.1⟩, exponent.2) := by
  intro exponent
  have hsign := h.takeSign s
  have hdigits : n.whole ≠ [] ∨ f ≠ [] := by simpa [hf] using h.nonempty
  have hfraction := takeFraction_append (h.fraction f hf) hdigits s
  obtain ⟨hmarked, hmarked'⟩ := span_of_head (c := '.') (by decide) (f ++ s)
  obtain ⟨htake, hdrop⟩ := span_append h.whole (fractionText (some f) ++ s)
  rw [fractionText, List.cons_append] at hfraction htake hdrop
  rw [he, hf, exponentText, List.nil_append, fractionText, List.cons_append] at hsign
  simp only [scan, hsign, htake, hdrop, hmarked, hmarked', List.append_nil, hfraction]
  rw [if_neg (by simp)]

/-- Digits that follow a numeral of digits alone are scanned as further digits before the point, and
a fraction and an exponent are looked for after them. -/
theorem scan_append_whole {n : Numeral} (h : n.IsWellFormed) (he : n.exponent = none)
    (hf : n.fraction = none) (s : List Char) :
    let whole := n.whole ++ s.takeWhile isDecimal
    let fraction := takeFraction whole (s.dropWhile isDecimal)
    let exponent := takeExponent fraction.2
    scan (n.text ++ s) = some (⟨n.sign, whole, fraction.1, exponent.1⟩, exponent.2) := by
  intro whole fraction exponent
  have hsign := h.takeSign s
  have hwhole : n.whole ≠ [] := h.nonempty.resolve_right (by simp [hf])
  obtain ⟨htake, hdrop⟩ := span_append h.whole s
  rw [he, hf, exponentText, fractionText, List.nil_append, List.nil_append] at hsign
  simp only [scan, hsign, htake, hdrop]
  rw [if_neg fun hnone => hwhole (List.append_eq_nil_iff.1 hnone.1).1]

/-- A text that starts with a numeral is scanned at least as far as that, and no farther where it
ends there. -/
theorem scan_append {n : Numeral} (h : n.IsWellFormed) (s : List Char) :
    ∃ m rest, scan (n.text ++ s) = some (m, rest) ∧ n.text.length ≤ m.text.length ∧
      (s = [] → m = n ∧ rest = []) := by
  cases he : n.exponent with
  | some e =>
    refine ⟨_, _, scan_append_exponent h he s, ?_, ?_⟩
    · simp [text, exponentText, he]
    · rintro rfl
      simp [← he]
  | none =>
    cases hf : n.fraction with
    | some f =>
      refine ⟨_, _, scan_append_fraction h he hf s, ?_, ?_⟩
      · simp [text, fractionText, exponentText, he, hf]
      · rintro rfl
        simp [takeExponent, ← he, ← hf]
    | none =>
      refine ⟨_, _, scan_append_whole h he hf s, ?_, ?_⟩
      · simp [text, fractionText, exponentText, he, hf]
      · rintro rfl
        simp [takeFraction, takeExponent, ← he, ← hf]

theorem sign_of_takeSign {s : List Char} : ∀ c ∈ (takeSign s).1, c = '+' ∨ c = '-' := by
  cases s with
  | nil => simp [takeSign]
  | cons d rest =>
    rw [takeSign]
    split
    · next h =>
      rintro c ⟨⟩
      exact h
    · simp

theorem digits_of_takeWhile {s : List Char} : ∀ c ∈ s.takeWhile isDecimal, isDecimal c = true :=
  fun _ hc => List.mem_takeWhile_imp hc

theorem fraction_of_takeFraction {whole s : List Char} :
    ∀ f ∈ (takeFraction whole s).1, (∀ c ∈ f, isDecimal c = true) ∧ (whole ≠ [] ∨ f ≠ []) := by
  cases s with
  | nil => simp [takeFraction]
  | cons d rest =>
    rw [takeFraction]
    split
    · next h =>
      rintro f ⟨⟩
      exact ⟨digits_of_takeWhile, h.2⟩
    · simp

theorem exponent_of_takeExponent {s : List Char} :
    ∀ e ∈ (takeExponent s).1, e.IsWellFormed := by
  cases s with
  | nil => simp [takeExponent]
  | cons d rest =>
    rw [takeExponent]
    split
    · next h =>
      rintro e ⟨⟩
      exact ⟨h.1, sign_of_takeSign, h.2, digits_of_takeWhile⟩
    · simp

theorem isWellFormed_of_scan {s rest : List Char} {n : Numeral} (h : scan s = some (n, rest)) :
    n.IsWellFormed := by
  simp only [scan] at h
  split at h
  · cases h
  · next hne =>
    simp only [Option.some.injEq, Prod.mk.injEq] at h
    obtain ⟨rfl, rfl⟩ := h
    refine ⟨sign_of_takeSign, digits_of_takeWhile,
      fun f hf => (fraction_of_takeFraction f hf).1, ?_, exponent_of_takeExponent⟩
    by_contra hempty
    obtain ⟨hwhole, hfraction⟩ := not_or.1 hempty
    rw [not_not] at hwhole
    refine hne ⟨hwhole, Option.eq_none_iff_forall_not_mem.2 fun f hf => hfraction ⟨f, hf, ?_⟩⟩
    exact (fraction_of_takeFraction f hf).2.resolve_left (not_not.2 hwhole)

/-- **A scan takes the longest numeral** in front of a text. -/
theorem isLongestPrefix_of_scan {s rest : List Char} {n : Numeral} (h : scan s = some (n, rest)) :
    IsLongestPrefix grammar n.text s where
  isPrefix := ⟨rest, scan_text h⟩
  mem := mem_grammar.2 ⟨n, isWellFormed_of_scan h, rfl⟩
  longest := by
    rintro _ ⟨t, rfl⟩ hmem
    obtain ⟨m, hm, rfl⟩ := mem_grammar.1 hmem
    obtain ⟨m', rest', hscan, hlength, -⟩ := scan_append hm t
    cases h.symm.trans hscan
    exact hlength

/-- A scan takes nothing just where no beginning of the text is a numeral. -/
theorem scan_eq_none_iff {s : List Char} :
    scan s = none ↔ ∀ start, start <+: s → start ∉ grammar := by
  constructor
  · rintro h _ ⟨t, rfl⟩ hmem
    obtain ⟨m, hm, rfl⟩ := mem_grammar.1 hmem
    obtain ⟨m', rest', hscan, -⟩ := scan_append hm t
    cases h.symm.trans hscan
  · intro h
    cases hscan : scan s with
    | none => rfl
    | some read =>
      have hread : scan s = some (read.1, read.2) := hscan
      have hlongest := isLongestPrefix_of_scan hread
      exact absurd hlongest.mem (h _ hlongest.isPrefix)

/-- Only one numeral is written this way. -/
theorem IsWellFormed.unique {n m : Numeral} (hn : n.IsWellFormed) (hm : m.IsWellFormed)
    (h : n.text = m.text) : n = m := by
  obtain ⟨n', _, hscan, -, hn'⟩ := scan_append hn []
  obtain ⟨m', _, hscan', -, hm'⟩ := scan_append hm []
  rw [h, hscan'] at hscan
  cases hscan
  exact (hn' rfl).1.symm.trans (hm' rfl).1

/-! ### What a numeral says -/

theorem ofDigits_append (radix : ℕ) (digits others : List Char) :
    ofDigits radix (digits ++ others) =
      ofDigits radix digits * radix ^ others.length + ofDigits radix others := by
  induction others using List.reverseRecOn with
  | nil => simp [ofDigits]
  | append_singleton others c ih =>
    rw [← List.append_assoc, ofDigits_append_singleton, ih, ofDigits_append_singleton,
      List.length_append, List.length_singleton, pow_succ]
    ring

/-- The number that a numeral says, without its sign: the digits before the point, those after it
in their decimal places, and all of it times a power of ten. -/
def magnitude (n : Numeral) : ℚ :=
  (ofDigits 10 n.whole + ofDigits 10 (n.fraction.getD []) / 10 ^ (n.fraction.getD []).length) *
    10 ^ exponentValue n.exponent

/-- The double of a numeral is the one nearest to what it says. -/
theorem roundsTo_value (n : Numeral) :
    Binary64.RoundsTo (n.sign = some '-') n.magnitude n.value := by
  have h := Binary64.roundsTo_ofDecimal (n.sign = some '-')
    (ofDigits 10 (n.whole ++ n.fraction.getD []))
    (exponentValue n.exponent - (n.fraction.getD []).length)
  have hvalue : (ofDigits 10 (n.whole ++ n.fraction.getD []) : ℚ) *
      10 ^ (exponentValue n.exponent - (n.fraction.getD []).length) = n.magnitude := by
    rw [magnitude, ofDigits_append, zpow_sub₀ (by norm_num), zpow_natCast]
    push_cast
    field_simp
  exact hvalue ▸ h

end Numeral

end BulkProvision
