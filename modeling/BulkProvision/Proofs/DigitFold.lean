import BulkProvision.Coercion
import BulkProvision.Proofs.Rounding

/-!
# Digits folded into a double

A run of digits that fits no integer is folded into a double, one digit after the other: what is
there so far is multiplied by the radix and rounded, and the digit is added and rounded.  `FoldsTo`
says so in terms of exact magnitudes and of `Binary64.Rounded` alone, and holds of every fold
(`exists_foldsTo`), also past infinity.

The fold is exact up to `2^53` (`FoldsTo.magnitude_eq`), never falls below a bound that its digits
reach (`AtLeast`), and is off by one rounding factor for each of its roundings (`FoldsTo.le_mul`,
`FoldsTo.mul_le`).
-/

namespace BulkProvision

open Text

namespace Binary64

/-- The product of a double, be it infinite, and a whole number that is not zero is the exact
product, rounded. -/
theorem roundsTo_mul_ofNat (a : Fin (infiniteCode + 1)) {n : ℕ} (hpos : 0 < n) (h : n ≤ 2 ^ 53) :
    RoundsTo false (magnitude a * n) ((signed false a).mul (ofNat n)) := by
  obtain ⟨code, hcode, hmagnitude, hfinite⟩ := exists_ofNat h
  rw [hcode, ← hmagnitude]
  by_cases ha : a.val = infiniteCode
  · have hzero : code.val ≠ 0 := by
      intro hzero
      rw [hzero, magnitude_zero] at hmagnitude
      have : 0 = n := by exact_mod_cast hmagnitude
      omega
    have hmul : (signed false a).mul (signed false code) = infinity false := by
      rw [mul, if_pos (.inl ha), if_neg]
      · rfl
      · rw [ha]
        exact not_or.2 ⟨by decide, hzero⟩
    rw [hmul, hmagnitude, ha]
    refine ⟨_, rfl, rounded_infinite (le_mul_of_one_le_right (magnitude_nonneg _) ?_)⟩
    exact_mod_cast hpos
  · exact roundsTo_mul ha hfinite

/-- The sum of a double, be it infinite, and a whole number is the exact sum, rounded. -/
theorem roundsTo_add_ofNat (a : Fin (infiniteCode + 1)) {n : ℕ} (h : n ≤ 2 ^ 53) :
    RoundsTo false (magnitude a + n) ((signed false a).add (ofNat n)) := by
  obtain ⟨code, hcode, hmagnitude, hfinite⟩ := exists_ofNat h
  rw [hcode, ← hmagnitude]
  by_cases ha : a.val = infiniteCode
  · have hadd : (signed false a).add (signed false code) = infinity false := by
      rw [add, if_pos ha, if_neg fun hboth => hfinite hboth.1]
      exact congrArg (signed false) (Fin.ext ha)
    rw [hadd, ha]
    exact ⟨_, rfl, rounded_infinite (le_add_of_nonneg_right (magnitude_nonneg _))⟩
  · exact roundsTo_add ha hfinite

/-- One part in `2^53`. -/
def unitRoundoff : ℚ := 1 / 2 ^ 53

theorem unitRoundoff_pos : 0 < unitRoundoff := by
  rw [unitRoundoff]
  positivity

theorem unitRoundoff_lt_one : unitRoundoff < 1 := by
  rw [unitRoundoff]
  norm_num

/-- A number that is zero or at least one: far above the doubles whose steps are wide. -/
def ZeroOrWhole (q : ℚ) : Prop := q = 0 ∨ 1 ≤ q

theorem ZeroOrWhole.mul_natCast {q : ℚ} (h : ZeroOrWhole q) {n : ℕ} (hn : 0 < n) :
    ZeroOrWhole (q * n) := by
  have hone : (1 : ℚ) ≤ n := by exact_mod_cast hn
  exact h.imp (fun hzero => by rw [hzero, zero_mul])
    fun hle => one_le_mul_of_one_le_of_one_le hle hone

theorem ZeroOrWhole.add_natCast {q : ℚ} (h : ZeroOrWhole q) (n : ℕ) : ZeroOrWhole (q + n) := by
  have hn : (0 : ℚ) ≤ n := Nat.cast_nonneg n
  rcases h with rfl | hone
  · rcases Nat.eq_zero_or_pos n with rfl | hpos
    · exact .inl (by rw [Nat.cast_zero, add_zero])
    · have : (1 : ℚ) ≤ n := by exact_mod_cast hpos
      exact .inr (by linarith)
  · exact .inr (by linarith)

theorem magnitude_binade_le_one : magnitude binade ≤ 1 := by
  have h := magnitude_of_shift (s := 0) (q := binade) (by omega) (.inr le_rfl)
  rw [Nat.zero_mul, Nat.zero_add, pow_zero, mul_one] at h
  rw [h, div_le_one unitsPerOne_pos]
  exact_mod_cast show binade ≤ unitsPerOne by decide +kernel

/-- Rounding makes a number that is zero or at least one greater by one part in `2^53` at most. -/
theorem Rounded.le_mul {q : ℚ} {code : ℕ} (h : Rounded q code) (hq : ZeroOrWhole q) :
    magnitude code ≤ q * (1 + unitRoundoff) := by
  rcases hq with rfl | hone
  · rw [h.unique rounded_zero_zero, magnitude_zero, zero_mul]
  · obtain ⟨unbounded, hnearest, rfl⟩ := h
    have herror := (abs_le.1 (hnearest.abs_sub_le (magnitude_binade_le_one.trans hone))).2
    have hmin := magnitude_strictMono.monotone (min_le_right infiniteCode unbounded)
    rw [unitRoundoff, mul_add, mul_one, mul_one_div]
    linarith

/-- Rounding makes a number that is zero or at least one less by one part in `2^53` at most, unless
it overflows. -/
theorem Rounded.mul_le {q : ℚ} {code : ℕ} (h : Rounded q code) (hq : ZeroOrWhole q)
    (hfinite : code ≠ infiniteCode) : q * (1 - unitRoundoff) ≤ magnitude code := by
  rcases hq with rfl | hone
  · rw [zero_mul]
    exact magnitude_nonneg _
  · obtain ⟨unbounded, hnearest, rfl⟩ := h
    have herror := (abs_le.1 (hnearest.abs_sub_le (magnitude_binade_le_one.trans hone))).1
    rw [min_eq_right (not_lt.1 fun hlt => hfinite (min_eq_left hlt.le)), unitRoundoff, mul_sub,
      mul_one, mul_one_div]
    linarith

/-- A rounded number of that kind is one again. -/
theorem Rounded.zeroOrWhole {q : ℚ} {code : ℕ} (h : Rounded q code) (hq : ZeroOrWhole q) :
    ZeroOrWhole (magnitude code) := by
  rcases hq with rfl | hone
  · refine .inl (h.magnitude_eq ⟨0, by decide, magnitude_zero⟩)
  · refine .inr (h.le_magnitude ?_ hone)
    have hdouble := isDouble_natCast (show 1 ≤ 2 ^ 53 by decide)
    rwa [Nat.cast_one] at hdouble

end Binary64

namespace Coercion

open Binary64

/-- Digits, and the code that they are folded to. -/
inductive FoldsTo (radix : ℕ) : List Char → ℕ → Prop
  | nil : FoldsTo radix [] 0
  | snoc {digits : List Char} {c : Char} {code scaled next : ℕ} :
    FoldsTo radix digits code → isDigit radix c = true →
    Rounded (magnitude code * radix) scaled → Rounded (magnitude scaled + digitValue c) next →
    FoldsTo radix (digits ++ [c]) next

theorem foldDigits_append (radix : ℕ) (digits : List Char) (c : Char) :
    foldDigits radix (digits ++ [c]) =
      ((foldDigits radix digits).mul (.ofNat radix)).add (.ofNat (digitValue c)) := by
  rw [foldDigits, foldDigits, List.foldl_append]
  rfl

/-- **The fold of digits** is a double of positive sign, however many digits there are. -/
theorem exists_foldsTo {radix : ℕ} (hpos : 0 < radix) (hradix : radix ≤ 2 ^ 53)
    (digits : List Char) (h : ∀ c ∈ digits, isDigit radix c = true) :
    ∃ code, foldDigits radix digits = .signed false code ∧ FoldsTo radix digits code := by
  induction digits using List.reverseRecOn with
  | nil => exact ⟨_, rfl, .nil⟩
  | append_singleton digits c ih =>
    obtain ⟨hdigits, hc⟩ := List.forall_mem_append.1 h
    obtain ⟨code, hcode, hfolds⟩ := ih hdigits
    have hdigit := hc c List.mem_cons_self
    have hvalue := digitValue_lt hdigit
    obtain ⟨scaled, hmul, hscaled⟩ := roundsTo_mul_ofNat code hpos hradix
    obtain ⟨next, hadd, hnext⟩ := roundsTo_add_ofNat scaled (n := digitValue c) (by omega)
    refine ⟨next, ?_, .snoc hfolds hdigit hscaled hnext⟩
    rw [foldDigits_append, hcode, hmul, hadd]

namespace FoldsTo

variable {radix : ℕ} {digits : List Char} {code : ℕ}

theorem isDigit_of_mem (h : FoldsTo radix digits code) : ∀ c ∈ digits, isDigit radix c = true := by
  induction h with
  | nil => simp
  | snoc _ hdigit _ _ ih =>
    exact List.forall_mem_append.2 ⟨ih, fun c hc => List.mem_singleton.1 hc ▸ hdigit⟩

/-- Where the product with the radix is a double, only the sum is rounded. -/
theorem rounded_of_isDouble {c : Char} {scaled next : ℕ}
    (hscaled : Rounded (magnitude code * radix) scaled)
    (hnext : Rounded (magnitude scaled + digitValue c) next)
    (hexact : magnitude code = ofDigits radix digits)
    (hdouble : IsDouble (ofDigits radix digits * radix)) :
    Rounded (ofDigits radix (digits ++ [c])) next := by
  rw [hexact] at hscaled
  rw [hscaled.magnitude_eq hdouble] at hnext
  rw [ofDigits_append_singleton]
  exact_mod_cast hnext

/-- Where every digit but the last finds an exact fold and an exact product, the whole run is
rounded once. -/
theorem rounded_of_doubles (h : FoldsTo radix digits code)
    (hdoubles : ∀ start, start <+: digits → start ≠ digits →
      IsDouble (ofDigits radix start) ∧ IsDouble (ofDigits radix start * radix)) :
    Rounded (ofDigits radix digits) code := by
  induction h with
  | nil =>
    rw [ofDigits_nil, Nat.cast_zero]
    exact rounded_zero_zero
  | @snoc digits c code scaled next _ _ hscaled hnext ih =>
    have hlonger {start : List Char} (hstart : start <+: digits) : start ≠ digits ++ [c] := by
      rintro rfl
      have hlength := hstart.length_le
      rw [List.length_append, List.length_singleton] at hlength
      omega
    obtain ⟨hdouble, hproduct⟩ :=
      hdoubles digits (List.prefix_append _ _) (hlonger List.prefix_rfl)
    have hrounded := ih fun start hstart _ =>
      hdoubles start (hstart.trans (List.prefix_append _ _)) (hlonger hstart)
    exact rounded_of_isDouble hscaled hnext (hrounded.magnitude_eq hdouble) hproduct

/-- The fold is exact as far as all whole numbers are doubles. -/
theorem magnitude_eq (h : FoldsTo radix digits code) (hradix : 0 < radix)
    (hsmall : ofDigits radix digits ≤ 2 ^ 53) : magnitude code = ofDigits radix digits := by
  induction h with
  | nil => rw [magnitude_zero, ofDigits_nil, Nat.cast_zero]
  | @snoc digits c code scaled next _ _ hscaled hnext ih =>
    have hvalue := ofDigits_append_singleton radix digits c
    have hle : ofDigits radix digits ≤ ofDigits radix digits * radix :=
      Nat.le_mul_of_pos_right _ hradix
    have hdouble : IsDouble (ofDigits radix digits * radix) := by
      exact_mod_cast isDouble_natCast (n := ofDigits radix digits * radix) (by omega)
    exact (rounded_of_isDouble hscaled hnext (ih (by omega)) hdouble).magnitude_eq
      (isDouble_natCast hsmall)

/-- The product with the radix, rounded, is not more than the fold with one digit more. -/
theorem magnitude_le {c : Char} {scaled next : ℕ}
    (hscaled : Rounded (magnitude code * radix) scaled)
    (hnext : Rounded (magnitude scaled + digitValue c) next) : magnitude scaled ≤ magnitude next :=
  magnitude_strictMono.monotone
    (hscaled.rounded_magnitude.mono (le_add_of_nonneg_right (Nat.cast_nonneg _)) hnext)

theorem zeroOrWhole (h : FoldsTo radix digits code) (hradix : 0 < radix) :
    ZeroOrWhole (magnitude code) := by
  induction h with
  | nil => exact .inl magnitude_zero
  | snoc _ _ hscaled hnext ih =>
    exact hnext.zeroOrWhole ((hscaled.zeroOrWhole (ih.mul_natCast hradix)).add_natCast _)

/-- A fold that is not infinite was not infinite before. -/
theorem finite_of_next {c : Char} {scaled next : ℕ} (hradix : 0 < radix)
    (hscaled : Rounded (magnitude code * radix) scaled)
    (hnext : Rounded (magnitude scaled + digitValue c) next) (hfinite : next ≠ infiniteCode) :
    scaled ≠ infiniteCode ∧ code ≠ infiniteCode := by
  have hscaledFinite : scaled ≠ infiniteCode := by
    rintro rfl
    refine hfinite (hnext.unique (rounded_infinite ?_))
    exact le_add_of_nonneg_right (Nat.cast_nonneg _)
  refine ⟨hscaledFinite, ?_⟩
  rintro rfl
  refine hscaledFinite (hscaled.unique (rounded_infinite ?_))
  exact le_mul_of_one_le_right (magnitude_nonneg _) (by exact_mod_cast hradix)

theorem ofDigits_lt_of_snoc {c : Char} {k : ℕ}
    (h : ofDigits radix digits * radix + digitValue c < radix ^ (k + 1)) :
    ofDigits radix digits < radix ^ k :=
  Nat.lt_of_mul_lt_mul_right ((Nat.le_add_right _ _).trans_lt h)

/-- The fold is too great by at most one rounding factor for each of its roundings, two for every
digit, zeros in front not counted. -/
theorem le_mul (h : FoldsTo radix digits code) (hradix : 0 < radix) {k : ℕ}
    (hk : ofDigits radix digits < radix ^ k) :
    magnitude code ≤ ofDigits radix digits * (1 + unitRoundoff) ^ (2 * k) := by
  induction h generalizing k with
  | nil => rw [magnitude_zero, ofDigits_nil, Nat.cast_zero, zero_mul]
  | @snoc digits c code scaled next hfolds hdigit hscaled hnext ih =>
    cases k with
    | zero =>
      have hzero := Nat.lt_one_iff.1 hk
      rw [(hfolds.snoc hdigit hscaled hnext).magnitude_eq hradix (hzero ▸ Nat.zero_le _), hzero,
        Nat.cast_zero, zero_mul]
    | succ k =>
      rw [ofDigits_append_singleton] at hk ⊢
      have hwhole := hfolds.zeroOrWhole hradix
      have hbefore := ih (ofDigits_lt_of_snoc hk)
      have hproduct := hscaled.le_mul (hwhole.mul_natCast hradix)
      have hsum := hnext.le_mul ((hscaled.zeroOrWhole (hwhole.mul_natCast hradix)).add_natCast _)
      have hu := unitRoundoff_pos
      have hpow : (1 : ℚ) ≤ (1 + unitRoundoff) ^ (2 * k + 1) := one_le_pow₀ (by linarith)
      have hdigits : (0 : ℚ) ≤ digitValue c := Nat.cast_nonneg _
      calc magnitude next
          ≤ (magnitude scaled + digitValue c) * (1 + unitRoundoff) := hsum
        _ ≤ (ofDigits radix digits * (1 + unitRoundoff) ^ (2 * k) * radix * (1 + unitRoundoff) +
              digitValue c * (1 + unitRoundoff) ^ (2 * k + 1)) * (1 + unitRoundoff) := by
            gcongr
            · exact hproduct.trans (by gcongr)
            · exact le_mul_of_one_le_right hdigits hpow
        _ = ((ofDigits radix digits * radix + digitValue c : ℕ) : ℚ) *
              (1 + unitRoundoff) ^ (2 * (k + 1)) := by
            push_cast
            ring

/-- The fold, unless it is infinite, is too small by at most one rounding factor for each of its
roundings, two for every digit, zeros in front not counted. -/
theorem mul_le (h : FoldsTo radix digits code) (hradix : 0 < radix) {k : ℕ}
    (hk : ofDigits radix digits < radix ^ k) (hfinite : code ≠ infiniteCode) :
    ofDigits radix digits * (1 - unitRoundoff) ^ (2 * k) ≤ magnitude code := by
  induction h generalizing k with
  | nil => rw [magnitude_zero, ofDigits_nil, Nat.cast_zero, zero_mul]
  | @snoc digits c code scaled next hfolds hdigit hscaled hnext ih =>
    cases k with
    | zero =>
      have hzero := Nat.lt_one_iff.1 hk
      rw [hzero, Nat.cast_zero, zero_mul]
      exact magnitude_nonneg _
    | succ k =>
      rw [ofDigits_append_singleton] at hk ⊢
      obtain ⟨hscaledFinite, hcodeFinite⟩ := finite_of_next hradix hscaled hnext hfinite
      have hwhole := hfolds.zeroOrWhole hradix
      have hbefore := ih (ofDigits_lt_of_snoc hk) hcodeFinite
      have hproduct := hscaled.mul_le (hwhole.mul_natCast hradix) hscaledFinite
      have hsum := hnext.mul_le ((hscaled.zeroOrWhole (hwhole.mul_natCast hradix)).add_natCast _)
        hfinite
      have hu : 0 ≤ 1 - unitRoundoff := by linarith [unitRoundoff_lt_one]
      have hpow : (1 - unitRoundoff) ^ (2 * k + 1) ≤ 1 :=
        pow_le_one₀ hu (by linarith [unitRoundoff_pos])
      have hdigits : (0 : ℚ) ≤ digitValue c := Nat.cast_nonneg _
      calc ((ofDigits radix digits * radix + digitValue c : ℕ) : ℚ) *
              (1 - unitRoundoff) ^ (2 * (k + 1))
          = (ofDigits radix digits * (1 - unitRoundoff) ^ (2 * k) * radix * (1 - unitRoundoff) +
              digitValue c * (1 - unitRoundoff) ^ (2 * k + 1)) * (1 - unitRoundoff) := by
            push_cast
            ring
        _ ≤ (magnitude scaled + digitValue c) * (1 - unitRoundoff) := by
            gcongr
            · exact le_trans (by gcongr) hproduct
            · exact mul_le_of_le_one_right hdigits hpow
        _ ≤ magnitude next := hsum

end FoldsTo

/-- Digits that reach the bound are folded to at least that magnitude. -/
def AtLeast (radix bound : ℕ) (least : ℚ) : Prop :=
  ∀ digits code, FoldsTo radix digits code → bound ≤ ofDigits radix digits → least ≤ magnitude code

namespace AtLeast

variable {radix bound : ℕ} {least : ℚ}

/-- A bound below which the fold is exact for one digit more is kept. -/
theorem of_exact (hradix : 0 < radix) (hsmall : bound * radix + radix ≤ 2 ^ 53) :
    AtLeast radix bound bound := by
  intro digits code h hbound
  induction h with
  | nil =>
    rw [ofDigits_nil] at hbound
    rw [Nat.le_zero.1 hbound, Nat.cast_zero]
    exact magnitude_nonneg _
  | @snoc digits c code scaled next hfolds hdigit hscaled hnext ih =>
    rcases Nat.lt_or_ge (ofDigits radix digits) bound with hlt | hge
    · -- the fold is exact up to here
      have hvalue : ofDigits radix (digits ++ [c]) ≤ 2 ^ 53 := by
        rw [ofDigits_append_singleton]
        have hdigit := digitValue_lt hdigit
        have := Nat.mul_le_mul_right radix hlt.le
        omega
      rw [(hfolds.snoc hdigit hscaled hnext).magnitude_eq hradix hvalue]
      exact_mod_cast hbound
    · have hone : (1 : ℚ) ≤ radix := by exact_mod_cast hradix
      have hdouble : IsDouble bound := isDouble_natCast (by nlinarith)
      refine (hscaled.le_magnitude hdouble ?_).trans (FoldsTo.magnitude_le hscaled hnext)
      nlinarith [ih hge, magnitude_nonneg code]

/-- One digit more takes the bound times the radix to the product, rounded. -/
theorem mul_radix (h : AtLeast radix bound least) (hradix : 0 < radix) {scaled : ℕ}
    (hscaled : Rounded (least * radix) scaled) :
    AtLeast radix (bound * radix) (magnitude scaled) := by
  intro digits code hfolds hbound
  cases hfolds with
  | nil =>
    rw [ofDigits_nil, Nat.le_zero, Nat.mul_eq_zero] at hbound
    have hleast := h [] 0 .nil (by rw [ofDigits_nil, hbound.resolve_right hradix.ne'])
    rw [magnitude_zero] at hleast
    have hzero : least * radix ≤ 0 := mul_nonpos_of_nonpos_of_nonneg hleast (Nat.cast_nonneg _)
    exact magnitude_strictMono.monotone (hscaled.mono hzero rounded_zero_zero)
  | @snoc digits c code' scaled' _ hfolds hdigit hscaled' hnext =>
    have hle : bound ≤ ofDigits radix digits := by
      rw [ofDigits_append_singleton] at hbound
      have hdigit := digitValue_lt hdigit
      by_contra hlt
      have := Nat.mul_le_mul_right radix (show ofDigits radix digits + 1 ≤ bound by omega)
      rw [Nat.add_mul, Nat.one_mul] at this
      omega
    have hmono := hscaled.mono (mul_le_mul_of_nonneg_right (h _ _ hfolds hle) (Nat.cast_nonneg _))
      hscaled'
    exact (magnitude_strictMono.monotone hmono).trans (FoldsTo.magnitude_le hscaled' hnext)

/-- One digit more takes the bound times the radix to the whole number that the product is rounded
to. -/
theorem mul_radix_of_units {least next : ℕ} (h : AtLeast radix bound least) (hradix : 0 < radix)
    (hnext : units (nearest (least * radix * unitsPerOne) 1) = next * unitsPerOne) :
    AtLeast radix (bound * radix) next := by
  have hrounded := rounded_natCast (least * radix)
  rw [Nat.cast_mul] at hrounded
  have hscaled := h.mul_radix hradix hrounded
  rwa [magnitude_of_units hnext] at hscaled

/-- One digit more takes the bound times the radix to the product, where that is a double. -/
theorem mul_radix_of_isDouble (h : AtLeast radix bound least) (hradix : 0 < radix)
    (hdouble : IsDouble (least * radix)) : AtLeast radix (bound * radix) (least * radix) := by
  obtain ⟨code, hcode, heq⟩ := hdouble
  exact heq ▸ h.mul_radix hradix (heq ▸ rounded_magnitude hcode.le)

theorem mono (h : AtLeast radix bound least) {higher : ℕ} (hle : bound ≤ higher) :
    AtLeast radix higher least :=
  fun digits code hfolds hhigher => h digits code hfolds (hle.trans hhigher)

end AtLeast

/-- Hexadecimal digits that reach `2^63` are folded to that or more: the bound is a power of the
radix times a digit, and every such product is a double. -/
theorem atLeast_sixteen : AtLeast 16 (2 ^ 63) (2 ^ 63) := by
  have hpowers (k : ℕ) (hk : k ≤ 15) : AtLeast 16 (8 * 16 ^ k) (8 * 16 ^ k) := by
    induction k with
    | zero =>
      have h : AtLeast 16 8 (8 : ℕ) := .of_exact (by decide) (by decide)
      rwa [pow_zero, pow_zero, mul_one, mul_one]
    | succ k ih =>
      have hdouble : IsDouble (8 * 16 ^ k * (16 : ℕ)) := by
        have h := isDouble_mul_two_pow (n := 1) (k := 4 * k + 7) (by decide) (by omega)
        have heq : ((1 : ℕ) : ℚ) * 2 ^ (4 * k + 7) = 8 * 16 ^ k * (16 : ℕ) := by
          rw [pow_add, pow_mul]
          norm_num
          ring
        rwa [heq] at h
      have h := (ih (by omega)).mul_radix_of_isDouble (by decide) hdouble
      rwa [Nat.mul_assoc, ← Nat.pow_succ, Nat.cast_ofNat, mul_assoc, ← pow_succ] at h
  have h := hpowers 15 le_rfl
  norm_num at h ⊢
  exact h

/-- Sixteen decimal digits are the first that may be rounded.  From here on they are rounded up,
once: the fifteen before them and their product with ten are doubles. -/
theorem atLeast_sixteenDigits : AtLeast 10 9223372036854775 (9223372036854776 : ℕ) := by
  have hfourteen : AtLeast 10 (10 ^ 14) (10 ^ 14 : ℕ) := .of_exact (by decide) (by decide)
  have hlonger : AtLeast 10 (10 ^ 14 * 10) (10 ^ 15 : ℕ) :=
    hfourteen.mul_radix_of_units (by decide) (by decide +kernel)
  intro digits code hfolds hbound
  cases hfolds with
  | nil => exact absurd hbound (by decide)
  | @snoc digits c code scaled next hfolds hdigit hscaled hnext =>
    rcases Nat.lt_or_ge (ofDigits 10 digits) (10 ^ 15) with hlt | hge
    · have hexact := hfolds.magnitude_eq (by decide) (by omega)
      have hdouble : IsDouble (ofDigits 10 digits * (10 : ℕ)) := by
        have h := isDouble_mul_two_pow (n := ofDigits 10 digits * 5) (k := 1) (by omega) (by decide)
        have heq : ((ofDigits 10 digits * 5 : ℕ) : ℚ) * 2 ^ 1 =
            ofDigits 10 digits * (10 : ℕ) := by
          push_cast
          ring
        rwa [heq] at h
      have hrounded := FoldsTo.rounded_of_isDouble hscaled hnext hexact hdouble
      have hmono := (rounded_natCast 9223372036854775).mono (Nat.cast_le.2 hbound) hrounded
      have hmagnitude := magnitude_strictMono.monotone hmono
      rwa [magnitude_of_units (m := 9223372036854776) (by decide +kernel)] at hmagnitude
    · have hlarge := hlonger _ _ hfolds (by omega)
      have hdouble : IsDouble (9223372036854776 : ℕ) := by
        have h := isDouble_mul_two_pow (n := 4611686018427388) (k := 1) (by decide) (by decide)
        norm_num at h ⊢
        exact h
      push_cast at hlarge
      refine (hscaled.le_magnitude hdouble ?_).trans (FoldsTo.magnitude_le hscaled hnext)
      push_cast
      linarith

/-- Decimal digits that reach `2^63` are folded to that or more.  Digit by digit from sixteen on,
the bound is multiplied by ten and rounded; the last step takes it to `2^63`, which is less than ten
times the bound before it. -/
theorem atLeast_ten : AtLeast 10 (2 ^ 63) (2 ^ 63) := by
  have hseventeen : AtLeast 10 (9223372036854775 * 10) (92233720368547760 : ℕ) :=
    atLeast_sixteenDigits.mul_radix_of_units (by decide) (by decide +kernel)
  have heighteen : AtLeast 10 (9223372036854775 * 10 * 10) (922337203685477632 : ℕ) :=
    hseventeen.mul_radix_of_units (by decide) (by decide +kernel)
  have hnineteen : AtLeast 10 (9223372036854775 * 10 * 10 * 10) (2 ^ 63 : ℕ) :=
    heighteen.mul_radix_of_units (by decide) (by decide +kernel)
  rw [Nat.cast_pow] at hnineteen
  exact hnineteen.mono (by decide)

end Coercion

end BulkProvision
