import BulkProvision.Binary64
import Mathlib.Algebra.Order.Archimedean.Basic
import Mathlib.Algebra.Order.Field.Rat
import Mathlib.Tactic.FieldSimp
import Mathlib.Tactic.GCongr
import Mathlib.Tactic.Linarith
import Mathlib.Tactic.LinearCombination
import Mathlib.Tactic.NormNum
import Mathlib.Tactic.Positivity
import Mathlib.Tactic.Ring

/-!
# Rounding

Doubles as rational numbers.  `Binary64.magnitude` is the exact magnitude of a code, and
`Binary64.Rounded q code` says that `q` is rounded to the double of that code: to the nearest
magnitude, half to the even code, and to infinity where a magnitude above the greatest double is
nearer.  Both are about rationals alone; what computes a double is held against them:

* `Binary64.isNearest_roundCode`: the computed code is the nearest, half to even;
* `Binary64.roundsTo_ofDecimal`: a decimal number is rounded once, however large or small it is;
* `Binary64.roundsTo_mul`, `Binary64.roundsTo_add`: products and sums are rounded once;
* `Binary64.IsNearest.abs_sub_le`: rounding changes a normal number by at most one part in `2^53`.

A number is rounded to one double only (`Rounded.unique`), rounding is monotone (`Rounded.mono`),
and a double is rounded to itself (`Rounded.magnitude_eq`).
-/

namespace BulkProvision

namespace Binary64

/-! ### Magnitudes -/

theorem binade_pos : 0 < binade := by decide

theorem units_of_shift {s q : ℕ} (hq : q ≤ 2 * binade) (hs : s = 0 ∨ binade ≤ q) :
    units (s * binade + q) = q * 2 ^ s := by
  have hb := binade_pos
  rcases Nat.lt_or_ge q binade with hlt | hge
  · obtain rfl : s = 0 := hs.resolve_right (by omega)
    rw [units, if_pos (by omega)]
    simp
  · rcases Nat.lt_or_ge q (2 * binade) with hlt2 | hge2
    · obtain ⟨r, rfl⟩ : ∃ r, q = binade + r := ⟨q - binade, by omega⟩
      have hcode : s * binade + (binade + r) = r + binade * (s + 1) := by ring
      have hr : r < binade := by omega
      rw [units, if_neg (by nlinarith), hcode, Nat.add_mul_mod_self_left, Nat.mod_eq_of_lt hr,
        Nat.add_mul_div_left _ _ hb, Nat.div_eq_of_lt hr, Nat.zero_add, Nat.add_sub_cancel,
        Nat.shiftLeft_eq]
    · obtain rfl : q = 2 * binade := by omega
      have hcode : s * binade + 2 * binade = binade * (s + 2) := by ring
      rw [units, if_neg (by nlinarith), hcode, Nat.mul_mod_right, Nat.mul_div_cancel_left _ hb,
        Nat.shiftLeft_eq]
      have hs : s + 2 - 1 = s + 1 := by omega
      rw [hs, Nat.add_zero, pow_succ]
      ring

theorem units_succ (c : ℕ) : units (c + 1) = units c + 2 ^ (c / binade - 1) := by
  have hb := binade_pos
  have hdiv := Nat.div_add_mod c binade
  have hmod := Nat.mod_lt c hb
  rcases Nat.lt_or_ge c binade with hlt | hge
  · have h0 := @units_of_shift 0 c (by omega) (.inl rfl)
    have h1 := @units_of_shift 0 (c + 1) (by omega) (.inl rfl)
    rw [Nat.zero_mul, Nat.zero_add] at h0 h1
    rw [h0, h1, Nat.div_eq_of_lt hlt]
    simp
  · obtain ⟨k, hk⟩ : ∃ k, c / binade = k + 1 :=
      ⟨c / binade - 1, by have := Nat.div_pos hge hb; omega⟩
    have hc : c = k * binade + (binade + c % binade) := by rw [hk] at hdiv; linarith
    have h0 := @units_of_shift k (binade + c % binade) (by omega) (.inr (by omega))
    have h1 := @units_of_shift k (binade + c % binade + 1) (by omega) (.inr (by omega))
    rw [← Nat.add_assoc, ← hc] at h1
    rw [← hc] at h0
    rw [h0, h1, hk, Nat.add_sub_cancel]
    ring

theorem units_strictMono : StrictMono units :=
  strictMono_nat_of_lt_succ fun c => by
    rw [units_succ]
    exact Nat.lt_add_of_pos_right (Nat.two_pow_pos _)

/-- The magnitude of a code.  The codes from that of infinity on continue the last binade, as if
exponents had no bound. -/
def magnitude (code : ℕ) : ℚ := units code / unitsPerOne

theorem unitsPerOne_eq : unitsPerOne = 2 ^ 1074 := by decide +kernel

theorem unitsPerOne_pos : (0 : ℚ) < unitsPerOne := Nat.cast_pos.2 (by decide +kernel)

theorem magnitude_strictMono : StrictMono magnitude := fun _ _ h =>
  div_lt_div_of_pos_right (Nat.cast_lt.2 (units_strictMono h)) unitsPerOne_pos

/-- No magnitude is nearer, and of two that are equally near it is the one with the even code. -/
structure IsNearest (q : ℚ) (code : ℕ) : Prop where
  closest : ∀ other, |magnitude code - q| ≤ |magnitude other - q|
  even : ∀ other, other ≠ code → |magnitude other - q| = |magnitude code - q| → Even code

/-- The multiple of the divisor that a quotient is rounded to is at most half of it away, and half
of it only where the quotient is rounded to an even one. -/
theorem roundDiv_mul (num : ℕ) {den : ℕ} (h : 0 < den) :
    2 * (roundDiv num den * den) ≤ 2 * num + den ∧ 2 * num ≤ 2 * (roundDiv num den * den) + den ∧
      (2 * (roundDiv num den * den) = 2 * num + den ∨
        2 * num = 2 * (roundDiv num den * den) + den → Even (roundDiv num den)) := by
  have hdiv := Nat.div_add_mod' num den
  have hmod := Nat.mod_lt num h
  rw [roundDiv, Nat.even_iff]
  generalize num / den = q at hdiv ⊢
  generalize num % den = r at hdiv hmod ⊢
  split_ifs with hup htie
  · rw [Nat.add_mul]
    omega
  · rcases Nat.mod_two_eq_zero_or_one q with hq | hq
    · rw [hq, Nat.add_zero]
      omega
    · rw [hq, Nat.add_mul]
      omega
  · omega

theorem abs_roundDiv_sub (num : ℕ) {den : ℕ} (h : 0 < den) :
    |(roundDiv num den : ℚ) - num / den| ≤ 1 / 2 ∧
      (|(roundDiv num den : ℚ) - num / den| = 1 / 2 → Even (roundDiv num den)) := by
  obtain ⟨hlow, hhigh, heven⟩ := roundDiv_mul num h
  generalize roundDiv num den = q at hlow hhigh heven ⊢
  have hden : (0 : ℚ) < den := Nat.cast_pos.2 h
  have hnum : (num : ℚ) / den * den = num := div_mul_cancel₀ _ hden.ne'
  generalize (num : ℚ) / den = t at hnum
  have hlow' : 2 * (q * den : ℚ) ≤ 2 * num + den := by exact_mod_cast hlow
  have hhigh' : 2 * num ≤ 2 * (q * den : ℚ) + den := by exact_mod_cast hhigh
  refine ⟨abs_le.2 ⟨by nlinarith, by nlinarith⟩, fun htie => heven ?_⟩
  rcases (abs_eq (by norm_num)).1 htie with heq | heq
  · left
    have : 2 * (q * den : ℚ) = 2 * num + den := by rw [← hnum]; linear_combination 2 * den * heq
    exact_mod_cast this
  · right
    have : 2 * (num : ℚ) = 2 * (q * den) + den := by rw [← hnum]; linear_combination -2 * den * heq
    exact_mod_cast this

/-- The code that a quotient of units is rounded to, as if exponents had no bound. -/
def roundCode (num den : ℕ) : ℕ :=
  let shift := Nat.log2 (num / den) - 52
  shift * binade + roundDiv num (den <<< shift)

theorem nearest_eq (num den : ℕ) : nearest num den = min infiniteCode (roundCode num den) := rfl

/-- The binade of a quotient, by its distance from the lowest: the significand is a whole one there,
and the quotient is no less than the least of them unless it is in the lowest. -/
theorem exists_shift (num den : ℕ) :
    ∃ shift, roundCode num den = shift * binade + roundDiv num (den * 2 ^ shift) ∧
      num / (den * 2 ^ shift) < 2 * binade ∧
        (shift = 0 ∨ binade ≤ num / (den * 2 ^ shift)) := by
  refine ⟨Nat.log2 (num / den) - 52, by rw [roundCode, Nat.shiftLeft_eq], ?_, ?_⟩
  · rw [← Nat.div_div_eq_div_mul, Nat.div_lt_iff_lt_mul (Nat.two_pow_pos _)]
    have hbinade : 2 * binade = 2 ^ 53 := by decide
    rw [hbinade, ← Nat.pow_add]
    exact Nat.lt_log2_self.trans_le (Nat.pow_le_pow_right (by decide) (by omega))
  · rcases Nat.lt_or_ge (Nat.log2 (num / den)) 53 with hlow | hhigh
    · exact .inl (by omega)
    · right
      have hne : num / den ≠ 0 := by
        rintro hzero
        rw [hzero] at hhigh
        simp at hhigh
      have hbinade : binade = 2 ^ 52 := by decide
      rw [← Nat.div_div_eq_div_mul, Nat.le_div_iff_mul_le (Nat.two_pow_pos _), hbinade,
        ← Nat.pow_add]
      exact (Nat.pow_le_pow_right (by decide) (by omega)).trans (Nat.log2_self_le hne)

/-- The magnitude of a code, seen from a binade: a whole number of its steps, or less than its least
significand. -/
theorem units_grid (shift code : ℕ) :
    (∃ k, units code = k * 2 ^ shift) ∨ shift ≠ 0 ∧ units code < binade * 2 ^ shift := by
  rcases Nat.lt_or_ge code ((shift + 1) * binade) with hlt | hge
  · rcases Nat.eq_zero_or_pos shift with rfl | hpos
    · exact .inl ⟨units code, by simp⟩
    · right
      have hleast := @units_of_shift shift binade (by omega) (.inr le_rfl)
      refine ⟨hpos.ne', hleast ▸ units_strictMono ?_⟩
      rw [Nat.add_mul] at hlt
      omega
  · left
    have hcode : code = (code / binade - 1) * binade + (binade + code % binade) := by
      have hdiv := Nat.div_add_mod' code binade
      have hpos : 1 ≤ code / binade :=
        (Nat.le_div_iff_mul_le binade_pos).2 (le_trans (by nlinarith [binade_pos]) hge)
      have := Nat.sub_add_cancel hpos
      nlinarith
    have hshift : shift ≤ code / binade - 1 := by
      have := (Nat.le_div_iff_mul_le binade_pos).2 hge
      omega
    have hmod := Nat.mod_lt code binade_pos
    have hunits := units_of_shift (s := code / binade - 1) (q := binade + code % binade)
      (by omega) (.inr (by omega))
    rw [← hcode] at hunits
    refine ⟨(binade + code % binade) * 2 ^ (code / binade - 1 - shift), ?_⟩
    rw [hunits, Nat.mul_assoc, ← Nat.pow_add, Nat.sub_add_cancel hshift]

/-- A whole number that a number is rounded to is nearer than any other, or half to even. -/
theorem closest_of_abs_sub_le {t : ℚ} {q : ℕ} (hhalf : |(q : ℚ) - t| ≤ 1 / 2)
    (heven : |(q : ℚ) - t| = 1 / 2 → Even q) {k : ℕ} (hk : k ≠ q) :
    |(q : ℚ) - t| ≤ |(k : ℚ) - t| ∧ (|(k : ℚ) - t| = |(q : ℚ) - t| → Even q) := by
  have hapart : (1 : ℚ) ≤ |(k : ℚ) - t| + |(q : ℚ) - t| := by
    have hone : (1 : ℚ) ≤ |(k : ℚ) - q| := by
      have : (1 : ℤ) ≤ |(k : ℤ) - q| := Int.one_le_abs (by omega)
      exact_mod_cast this
    have htriangle := abs_sub_le (k : ℚ) t q
    rw [abs_sub_comm t] at htriangle
    exact hone.trans htriangle
  exact ⟨by linarith, fun htie => heven (by linarith)⟩

/-- The significand that a number is rounded to in its binade is as near as what any other code is
there: a whole one, or less than the least. -/
theorem closest_of_grid {t : ℚ} {shift q code : ℕ} (hhalf : |(q : ℚ) - t| ≤ 1 / 2)
    (heven : |(q : ℚ) - t| = 1 / 2 → Even q) (hleast : shift = 0 ∨ (binade : ℚ) ≤ t)
    (hne : units code ≠ q * 2 ^ shift) :
    |(q : ℚ) - t| ≤ |(units code : ℚ) / 2 ^ shift - t| ∧
      (|(units code : ℚ) / 2 ^ shift - t| = |(q : ℚ) - t| → Even q) := by
  rcases units_grid shift code with ⟨k, hk⟩ | ⟨hshift, hbelow⟩
  · have hkq : k ≠ q := by
      rintro rfl
      exact hne hk
    rw [hk]
    push_cast
    rw [mul_div_cancel_right₀ _ (by positivity)]
    exact closest_of_abs_sub_le hhalf heven hkq
  · -- less than the least significand, and so farther from the number than that
    have hbinade := hleast.resolve_left hshift
    have hsmall : (units code : ℚ) / 2 ^ shift < binade := by
      rw [div_lt_iff₀ (by positivity)]
      exact_mod_cast hbelow
    have hfar : |(q : ℚ) - t| ≤ |(binade : ℚ) - t| := by
      rcases eq_or_ne binade q with rfl | hq
      · rfl
      · exact (closest_of_abs_sub_le hhalf heven hq).1
    rw [abs_of_nonpos (show (binade : ℚ) - t ≤ 0 by linarith)] at hfar
    rw [abs_of_nonpos (show (units code : ℚ) / 2 ^ shift - t ≤ 0 by linarith)]
    exact ⟨by linarith, fun htie => by linarith⟩

/-- A distance, in steps of a binade. -/
theorem abs_magnitude_sub (num den shift code : ℕ) :
    |magnitude code - num / den / unitsPerOne| =
      |(units code : ℚ) / 2 ^ shift - (num : ℚ) / (den * 2 ^ shift : ℕ)| *
        (2 ^ shift / unitsPerOne) := by
  have hpos : (0 : ℚ) < 2 ^ shift / unitsPerOne := div_pos (by positivity) unitsPerOne_pos
  have hsteps : magnitude code - num / den / unitsPerOne =
      ((units code : ℚ) / 2 ^ shift - (num : ℚ) / (den * 2 ^ shift : ℕ)) *
        (2 ^ shift / unitsPerOne) := by
    rw [magnitude]
    push_cast
    field_simp
  rw [hsteps, abs_mul, abs_of_pos hpos]

/-- **Rounding is correct**: the code is the nearest one, half to even. -/
theorem isNearest_roundCode (num : ℕ) {den : ℕ} (h : 0 < den) :
    IsNearest (num / den / unitsPerOne) (roundCode num den) := by
  obtain ⟨shift, hcode, hlt, hge⟩ := exists_shift num den
  have hstep : 0 < den * 2 ^ shift := Nat.mul_pos h (Nat.two_pow_pos _)
  obtain ⟨hhalf, heven⟩ := abs_roundDiv_sub num hstep
  have hscale := abs_magnitude_sub num den shift
  have hleast : shift = 0 ∨ (binade : ℚ) ≤ (num : ℚ) / (den * 2 ^ shift : ℕ) := by
    refine hge.imp id fun hbinade => ?_
    rw [le_div_iff₀ (by exact_mod_cast hstep)]
    exact_mod_cast (Nat.le_div_iff_mul_le hstep).1 hbinade
  have hbounds : roundDiv num (den * 2 ^ shift) ≤ 2 * binade ∧
      (shift = 0 ∨ binade ≤ roundDiv num (den * 2 ^ shift)) := by
    rw [roundDiv]
    split_ifs <;> omega
  have hunits := units_of_shift hbounds.1 hbounds.2
  rw [← hcode] at hunits
  have hparity : Even (roundDiv num (den * 2 ^ shift)) → Even (roundCode num den) := fun hq =>
    hcode ▸ ((show Even binade by decide).mul_left shift).add hq
  generalize roundDiv num (den * 2 ^ shift) = q at hhalf heven hunits hparity
  generalize (num : ℚ) / (den * 2 ^ shift : ℕ) = t at hhalf heven hscale hleast
  have hpos : (0 : ℚ) < 2 ^ shift / unitsPerOne := div_pos (by positivity) unitsPerOne_pos
  have hself : (units (roundCode num den) : ℚ) / 2 ^ shift = q := by
    rw [hunits]
    push_cast
    field_simp
  have hunits_ne (other : ℕ) (hne : other ≠ roundCode num den) : units other ≠ q * 2 ^ shift :=
    fun heq => hne (units_strictMono.injective (heq.trans hunits.symm))
  refine ⟨fun other => ?_, fun other hne htie => hparity ?_⟩
  · rw [hscale, hscale, hself]
    refine mul_le_mul_of_nonneg_right ?_ hpos.le
    rcases eq_or_ne other (roundCode num den) with rfl | hne
    · rw [hself]
    · exact (closest_of_grid hhalf heven hleast (hunits_ne other hne)).1
  · rw [hscale, hscale, hself] at htie
    exact (closest_of_grid hhalf heven hleast (hunits_ne other hne)).2
      (mul_right_cancel₀ hpos.ne' htie)

/-! ### What a number is rounded to -/

theorem exists_isNearest {q : ℚ} (hq : 0 ≤ q) : ∃ code, IsNearest q code := by
  have h := isNearest_roundCode (q.num.toNat * unitsPerOne) q.den_pos
  have hnum : ((q.num.toNat : ℕ) : ℚ) = q.num := by
    exact_mod_cast Int.toNat_of_nonneg (Rat.num_nonneg.2 hq)
  have hvalue : ((q.num.toNat * unitsPerOne : ℕ) : ℚ) / q.den / unitsPerOne = q := by
    push_cast
    rw [hnum, mul_div_right_comm, mul_div_cancel_right₀ _ unitsPerOne_pos.ne', Rat.num_div_den]
  exact ⟨_, hvalue ▸ h⟩

theorem isNearest_magnitude (code : ℕ) : IsNearest (magnitude code) code where
  closest other := by
    rw [sub_self, abs_zero]
    exact abs_nonneg _
  even other hne htie := by
    rw [sub_self, abs_zero, abs_eq_zero, sub_eq_zero] at htie
    exact absurd (magnitude_strictMono.injective htie) hne

/-- The greater of two numbers is no farther from a third than the less just where the third is
their middle or above it. -/
theorem abs_sub_le_abs_sub_iff {a b q : ℚ} (h : a < b) : |b - q| ≤ |a - q| ↔ a + b ≤ 2 * q := by
  rcases abs_cases (b - q) with ⟨hb, -⟩ | ⟨hb, hb'⟩ <;>
    rcases abs_cases (a - q) with ⟨ha, ha'⟩ | ⟨ha, ha'⟩ <;>
    rw [ha, hb] <;> constructor <;> intro <;> linarith

/-- The less of two numbers is no farther from a third than the greater just where the third is
their middle or below it. -/
theorem abs_sub_le_abs_sub_iff' {a b q : ℚ} (h : a < b) : |a - q| ≤ |b - q| ↔ 2 * q ≤ a + b := by
  have hneg := abs_sub_le_abs_sub_iff (neg_lt_neg h) (q := -q)
  rw [neg_sub_neg, neg_sub_neg, abs_sub_comm q, abs_sub_comm q] at hneg
  rw [hneg]
  constructor <;> intro <;> linarith

/-- Rounding is monotone. -/
theorem IsNearest.mono {p q : ℚ} {c d : ℕ} (h : p ≤ q) (hc : IsNearest p c)
    (hd : IsNearest q d) : c ≤ d := by
  by_contra hlt
  have hdc : d < c := Nat.lt_of_not_le hlt
  have hmag := magnitude_strictMono hdc
  -- both numbers are the middle of the two magnitudes, so both codes are even
  have hp := (abs_sub_le_abs_sub_iff hmag).1 (hc.closest d)
  have hq := (abs_sub_le_abs_sub_iff' hmag).1 (hd.closest c)
  obtain rfl : p = q := by linarith
  have htie : |magnitude d - p| = |magnitude c - p| := le_antisymm (hd.closest c) (hc.closest d)
  have hcEven := Nat.even_iff.1 (hc.even d hdc.ne htie)
  have hdEven := Nat.even_iff.1 (hd.even c hdc.ne' htie.symm)
  -- but then there is a nearer one between them
  have hbetween : d + 1 < c := by omega
  have hd' := magnitude_strictMono (Nat.lt_succ_self d)
  have hc' := (abs_sub_le_abs_sub_iff (magnitude_strictMono hbetween)).1 (hc.closest (d + 1))
  linarith

/-- The code of the double that a number is rounded to: the nearest one, and infinity for all that
is nearer to a greater magnitude. -/
def Rounded (q : ℚ) (code : ℕ) : Prop := ∃ unbounded, IsNearest q unbounded ∧
  code = min infiniteCode unbounded

theorem rounded_nearest (num : ℕ) {den : ℕ} (h : 0 < den) :
    Rounded (num / den / unitsPerOne) (nearest num den) :=
  ⟨_, isNearest_roundCode num h, nearest_eq num den⟩

theorem exists_rounded {q : ℚ} (hq : 0 ≤ q) : ∃ code, Rounded q code := by
  obtain ⟨code, hcode⟩ := exists_isNearest hq
  exact ⟨_, code, hcode, rfl⟩

theorem Rounded.mono {p q : ℚ} {c d : ℕ} (h : p ≤ q) (hc : Rounded p c) (hd : Rounded q d) :
    c ≤ d := by
  obtain ⟨c', hc', rfl⟩ := hc
  obtain ⟨d', hd', rfl⟩ := hd
  exact min_le_min_left _ (hc'.mono h hd')

theorem Rounded.unique {q : ℚ} {c d : ℕ} (hc : Rounded q c) (hd : Rounded q d) : c = d :=
  le_antisymm (hc.mono le_rfl hd) (hd.mono le_rfl hc)

theorem Rounded.le_infiniteCode {q : ℚ} {c : ℕ} (h : Rounded q c) : c ≤ infiniteCode := by
  obtain ⟨c', -, rfl⟩ := h
  exact min_le_left _ _

/-- A double is rounded to itself. -/
theorem rounded_magnitude {code : ℕ} (h : code ≤ infiniteCode) : Rounded (magnitude code) code :=
  ⟨code, isNearest_magnitude code, (min_eq_right h).symm⟩

/-- A number that is a double. -/
def IsDouble (q : ℚ) : Prop := ∃ code < infiniteCode, magnitude code = q

theorem Rounded.magnitude_eq {q : ℚ} {c : ℕ} (h : Rounded q c) (hq : IsDouble q) :
    magnitude c = q := by
  obtain ⟨code, hcode, rfl⟩ := hq
  rw [h.unique (rounded_magnitude hcode.le)]

theorem Rounded.le_magnitude {p q : ℚ} {c : ℕ} (h : Rounded q c) (hp : IsDouble p) (hle : p ≤ q) :
    p ≤ magnitude c := by
  obtain ⟨code, hcode, rfl⟩ := hp
  exact magnitude_strictMono.monotone ((rounded_magnitude hcode.le).mono hle h)

/-! ### How far a number is rounded -/

theorem magnitude_zero : magnitude 0 = 0 := by
  rw [magnitude, show units 0 = 0 from rfl, Nat.cast_zero, zero_div]

theorem rounded_zero_zero : Rounded 0 0 :=
  magnitude_zero ▸ rounded_magnitude (Nat.zero_le _)

theorem magnitude_nonneg (code : ℕ) : 0 ≤ magnitude code :=
  magnitude_zero ▸ magnitude_strictMono.monotone (Nat.zero_le code)

theorem exists_between {q : ℚ} (hq : 0 ≤ q) : ∃ c, magnitude c ≤ q ∧ q < magnitude (c + 1) := by
  have hex : ∃ c, q < magnitude c := by
    obtain ⟨n, hn⟩ := exists_nat_gt (q * unitsPerOne)
    refine ⟨n, (lt_div_iff₀ unitsPerOne_pos).2 (hn.trans_le ?_)⟩
    exact_mod_cast units_strictMono.le_apply
  have hfind := Nat.find_spec hex
  obtain ⟨c, hc⟩ : ∃ c, Nat.find hex = c + 1 := by
    refine Nat.exists_eq_succ_of_ne_zero fun hzero => ?_
    rw [hzero, magnitude_zero] at hfind
    exact absurd hfind (not_lt.2 hq)
  refine ⟨c, ?_, hc ▸ hfind⟩
  exact not_lt.1 (Nat.find_min hex (by omega))

/-- The step from one magnitude to the next is at most one part in `2^52`. -/
theorem magnitude_succ_le {c : ℕ} (h : binade ≤ c) :
    magnitude (c + 1) ≤ magnitude c + magnitude c / 2 ^ 52 := by
  have hb : (binade : ℚ) = 2 ^ 52 := by norm_num [binade]
  have hstep : binade * 2 ^ (c / binade - 1) ≤ units c := by
    rw [units, if_neg (by omega), Nat.shiftLeft_eq]
    exact Nat.mul_le_mul_right _ (by omega)
  have hstep' : (2 : ℚ) ^ (c / binade - 1) ≤ units c / 2 ^ 52 := by
    rw [le_div_iff₀ (by positivity), ← hb, mul_comm]
    exact_mod_cast hstep
  rw [magnitude, magnitude, units_succ, div_right_comm, ← add_div]
  refine div_le_div_of_nonneg_right ?_ unitsPerOne_pos.le
  push_cast
  linarith

/-- **The error of rounding** is at most one part in `2^53`, for a number from the least normal one
on. -/
theorem IsNearest.abs_sub_le {q : ℚ} {c : ℕ} (h : IsNearest q c) (hq : magnitude binade ≤ q) :
    |magnitude c - q| ≤ q / 2 ^ 53 := by
  have hzero : 0 ≤ q := le_trans (magnitude_nonneg binade) hq
  obtain ⟨d, hle, hlt⟩ := exists_between hzero
  have hd : binade ≤ d := by
    by_contra hsmall
    have := magnitude_strictMono.monotone (show d + 1 ≤ binade by omega)
    linarith
  have hstep := magnitude_succ_le hd
  have hbelow := h.closest d
  have habove := h.closest (d + 1)
  rw [abs_of_nonpos (show magnitude d - q ≤ 0 by linarith)] at hbelow
  rw [abs_of_nonneg (show 0 ≤ magnitude (d + 1) - q by linarith)] at habove
  have hpart : magnitude d / 2 ^ 52 ≤ q / 2 ^ 52 := div_le_div_of_nonneg_right hle (by positivity)
  have hhalf : q / 2 ^ 53 = q / 2 ^ 52 / 2 := by rw [pow_succ, div_div]
  rw [hhalf]
  linarith

/-! ### Doubles -/

theorem magnitude_of_shift {s q : ℕ} (hq : q ≤ 2 * binade) (hs : s = 0 ∨ binade ≤ q) :
    magnitude (s * binade + q) = q * 2 ^ s / unitsPerOne := by
  rw [magnitude, units_of_shift hq hs]
  push_cast
  rfl

/-- Whole numbers of at most 53 bits are doubles, and so are their multiples by powers of two. -/
theorem isDouble_mul_two_pow {n k : ℕ} (hn : n ≤ 2 ^ 53) (hk : k ≤ 970) :
    IsDouble (n * 2 ^ k) := by
  rcases Nat.eq_zero_or_pos n with rfl | hpos
  · exact ⟨0, by decide, by rw [magnitude_zero, Nat.cast_zero, zero_mul]⟩
  · -- as a significand of 53 bits
    generalize hj : 52 - Nat.log2 n = j
    have hlow : binade ≤ n * 2 ^ j := by
      have hbinade : binade = 2 ^ 52 := by decide
      rw [hbinade]
      calc 2 ^ 52 ≤ 2 ^ (Nat.log2 n + j) := Nat.pow_le_pow_right (by decide) (by omega)
        _ = 2 ^ Nat.log2 n * 2 ^ j := Nat.pow_add ..
        _ ≤ n * 2 ^ j := Nat.mul_le_mul_right _ (Nat.log2_self_le hpos.ne')
    have hhigh : n * 2 ^ j ≤ 2 * binade := by
      have hbinade : 2 * binade = 2 ^ 53 := by decide
      rw [hbinade]
      rcases hn.eq_or_lt with rfl | hlt
      · have hzero : j = 0 := by rw [← hj, Nat.log2_two_pow]
        rw [hzero, Nat.pow_zero, Nat.mul_one]
      · have hlog : Nat.log2 n < 53 := (Nat.log2_lt hpos.ne').2 hlt
        calc n * 2 ^ j ≤ 2 ^ (Nat.log2 n + 1) * 2 ^ j :=
              Nat.mul_le_mul_right _ Nat.lt_log2_self.le
          _ = 2 ^ 53 := by rw [← Nat.pow_add]; congr 1; omega
    have hpow : 2 ^ j * 2 ^ (k + 1074 - j) = 2 ^ k * unitsPerOne := by
      rw [unitsPerOne_eq, ← Nat.pow_add, ← Nat.pow_add]
      exact congrArg (2 ^ ·) (by omega)
    refine ⟨(k + 1074 - j) * binade + n * 2 ^ j, ?_, ?_⟩
    · have hbinade := binade_pos
      have : (k + 1074 - j) * binade ≤ 2044 * binade := Nat.mul_le_mul_right _ (by omega)
      rw [infiniteCode]
      omega
    · rw [magnitude_of_shift hhigh (.inr hlow), div_eq_iff unitsPerOne_pos.ne']
      have hpow' : (2 : ℚ) ^ j * 2 ^ (k + 1074 - j) = 2 ^ k * unitsPerOne := by exact_mod_cast hpow
      rw [Nat.cast_mul, Nat.cast_pow, Nat.cast_ofNat, mul_assoc, hpow', mul_assoc]

/-! ### Operations -/

/-- The double of that sign which a number is rounded to. -/
def RoundsTo (negative : Bool) (q : ℚ) (x : Binary64) : Prop :=
  ∃ code, x = signed negative code ∧ Rounded q code

theorem RoundsTo.unique {negative : Bool} {q : ℚ} {x y : Binary64} (hx : RoundsTo negative q x)
    (hy : RoundsTo negative q y) : x = y := by
  obtain ⟨c, rfl, hc⟩ := hx
  obtain ⟨d, rfl, hd⟩ := hy
  rw [Fin.ext (hc.unique hd)]

theorem RoundsTo.isNaN {negative : Bool} {q : ℚ} {x : Binary64} (h : RoundsTo negative q x) :
    x.isNaN = false := by
  obtain ⟨code, rfl, -⟩ := h
  rfl

theorem roundsTo_ofUnits (negative : Bool) (num : ℕ) {den : ℕ} (h : 0 < den) :
    RoundsTo negative (num / den / unitsPerOne) (ofUnits negative num den) :=
  ⟨_, rfl, rounded_nearest num h⟩

theorem roundsTo_ofQuotient (negative : Bool) (num : ℕ) {den : ℕ} (h : 0 < den) :
    RoundsTo negative (num / den) (ofQuotient negative num den) := by
  have hvalue : ((num * unitsPerOne : ℕ) : ℚ) / den / unitsPerOne = num / den := by
    push_cast
    rw [mul_div_right_comm, mul_div_cancel_right₀ _ unitsPerOne_pos.ne']
  exact hvalue ▸ roundsTo_ofUnits negative (num * unitsPerOne) h

theorem roundsTo_ofNat (n : ℕ) : RoundsTo false n (ofNat n) := by
  have h := roundsTo_ofQuotient false n Nat.one_pos
  rwa [Nat.cast_one, div_one] at h

theorem roundsTo_mul {s t : Bool} {a b : Fin (infiniteCode + 1)} (ha : a.val ≠ infiniteCode)
    (hb : b.val ≠ infiniteCode) :
    RoundsTo (s != t) (magnitude a * magnitude b) ((signed s a).mul (signed t b)) := by
  have hpos : 0 < unitsPerOne := Nat.cast_pos.1 unitsPerOne_pos
  have h := roundsTo_ofUnits (s != t) (units a * units b) hpos
  have hvalue : ((units a * units b : ℕ) : ℚ) / unitsPerOne / unitsPerOne =
      magnitude a * magnitude b := by
    rw [magnitude, magnitude]
    push_cast
    ring
  rw [hvalue] at h
  simpa [mul, ha, hb] using h

theorem roundsTo_add {a b : Fin (infiniteCode + 1)} (ha : a.val ≠ infiniteCode)
    (hb : b.val ≠ infiniteCode) :
    RoundsTo false (magnitude a + magnitude b) ((signed false a).add (signed false b)) := by
  have hsum : magnitude a + magnitude b =
      ((units a + units b : ℕ) : ℚ) / (1 : ℕ) / unitsPerOne := by
    rw [magnitude, magnitude, Nat.cast_one, div_one, ← add_div]
    push_cast
    rfl
  rw [hsum]
  have hadd : (signed false a).add (signed false b) =
      if units a + units b = 0 then zero false else ofUnits false (units a + units b) 1 := by
    have hcast : signedUnits false a.val + signedUnits false b.val = (units a + units b : ℕ) := rfl
    rw [add, if_neg ha, if_neg hb]
    simp only [hcast, Int.natAbs_natCast, Nat.cast_eq_zero, Bool.and_self]
    rfl
  rw [hadd]
  split
  · next hzero =>
    refine ⟨_, rfl, ?_⟩
    rw [hzero, Nat.cast_zero, zero_div, zero_div, ← magnitude_zero]
    exact rounded_magnitude (Nat.zero_le _)
  · exact roundsTo_ofUnits false _ Nat.one_pos

/-- A number from `2^1024` on is rounded to infinity. -/
theorem rounded_infinite {q : ℚ} (h : magnitude infiniteCode ≤ q) : Rounded q infiniteCode := by
  obtain ⟨code, hcode⟩ := exists_rounded ((magnitude_nonneg _).trans h)
  have hle := (rounded_magnitude le_rfl).mono h hcode
  rwa [hcode.le_infiniteCode.antisymm hle] at hcode

theorem magnitude_infinite : magnitude infiniteCode = 2 ^ 1024 := by
  have hunits : units infiniteCode = 2 ^ 1024 * unitsPerOne := by decide +kernel
  rw [magnitude, div_eq_iff unitsPerOne_pos.ne', hunits, Nat.cast_mul, Nat.cast_pow, Nat.cast_ofNat]

/-- What is nearer to zero than to the least double is rounded to zero. -/
theorem rounded_zero {q : ℚ} (h : 0 ≤ q) (hsmall : 2 * q < magnitude 1) : Rounded q 0 := by
  obtain ⟨code, hcode⟩ := exists_isNearest h
  refine ⟨code, hcode, ?_⟩
  have hzero : code = 0 := by
    by_contra hne
    have hone := magnitude_strictMono.monotone (Nat.one_le_iff_ne_zero.2 hne)
    have hlt := magnitude_strictMono (Nat.pos_of_ne_zero hne)
    have hcloser := (abs_sub_le_abs_sub_iff hlt).1 (hcode.closest 0)
    rw [magnitude_zero] at hcloser
    linarith
  rw [hzero]
  rfl

theorem two_pow_le_ten_pow {k e : ℕ} (h : k ≤ 3 * e) : 2 ^ k ≤ 10 ^ e :=
  calc 2 ^ k ≤ 2 ^ (3 * e) := Nat.pow_le_pow_right (by decide) h
    _ = (2 ^ 3) ^ e := Nat.pow_mul ..
    _ ≤ 10 ^ e := Nat.pow_le_pow_left (by decide) e

/-- A whole number that is not zero, moved up by more than four hundred places, is past the greatest
double. -/
theorem rounded_ten_pow {digits e : ℕ} (hdigits : 0 < digits) (h : 400 < e) :
    Rounded (digits * 10 ^ e) infiniteCode := by
  have hpow : 2 ^ 1024 ≤ digits * 10 ^ e :=
    (two_pow_le_ten_pow (by omega)).trans (Nat.le_mul_of_pos_left _ hdigits)
  have hpow' : ((2 ^ 1024 : ℕ) : ℚ) ≤ ((digits * 10 ^ e : ℕ) : ℚ) := Nat.cast_le.2 hpow
  refine rounded_infinite ?_
  rw [magnitude_infinite]
  rwa [Nat.cast_pow, Nat.cast_ofNat, Nat.cast_mul, Nat.cast_pow, Nat.cast_ofNat] at hpow'

/-- A whole number over a power of ten is rounded to zero where the exponent is greater than its
binary logarithm by more than four hundred. -/
theorem rounded_div_ten_pow {digits e : ℕ} (h : 400 + Nat.log2 digits < e) :
    Rounded (digits / 10 ^ e) 0 := by
  have hlog := Nat.lt_log2_self (n := digits)
  have hpow : 2 * digits * unitsPerOne < 10 ^ e := by
    calc 2 * digits * unitsPerOne < 2 * 2 ^ (Nat.log2 digits + 1) * unitsPerOne :=
          Nat.mul_lt_mul_of_pos_right (by omega) (Nat.cast_pos.1 unitsPerOne_pos)
      _ = 2 ^ (Nat.log2 digits + 2 + 1074) := by
          rw [unitsPerOne_eq, ← Nat.pow_succ', ← Nat.pow_add]
      _ ≤ 10 ^ e := two_pow_le_ten_pow (by omega)
  have hpow' : 2 * (digits : ℚ) * unitsPerOne < 10 ^ e := by exact_mod_cast hpow
  have hone : units 1 = 1 := by decide
  refine rounded_zero (by positivity) ?_
  rw [magnitude, hone, Nat.cast_one, lt_div_iff₀ unitsPerOne_pos, ← mul_div_assoc,
    div_mul_eq_mul_div, div_lt_one (by positivity)]
  exact hpow'

/-- **A decimal number is rounded once**, however large or small it is. -/
theorem roundsTo_ofDecimal (negative : Bool) (digits : ℕ) (exponent : ℤ) :
    RoundsTo negative (digits * 10 ^ exponent) (ofDecimal negative digits exponent) := by
  rw [ofDecimal]
  split_ifs with hzero hpos hlarge hsmall
  · rw [hzero, Nat.cast_zero, zero_mul]
    exact ⟨_, rfl, rounded_zero_zero⟩
  · obtain ⟨e, rfl⟩ := Int.eq_ofNat_of_zero_le hpos
    rw [zpow_natCast]
    exact ⟨_, rfl, rounded_ten_pow (Nat.pos_of_ne_zero hzero) (by omega)⟩
  · obtain ⟨e, rfl⟩ := Int.eq_ofNat_of_zero_le hpos
    have h := roundsTo_ofQuotient negative (digits * 10 ^ e) Nat.one_pos
    rw [Nat.cast_one, div_one] at h
    exact_mod_cast h
  · obtain ⟨e, he⟩ := Int.eq_ofNat_of_zero_le (show 0 ≤ -exponent by omega)
    obtain rfl : exponent = -e := by omega
    rw [zpow_neg, zpow_natCast, ← div_eq_mul_inv]
    exact ⟨_, rfl, rounded_div_ten_pow (by omega)⟩
  · obtain ⟨e, he⟩ := Int.eq_ofNat_of_zero_le (show 0 ≤ -exponent by omega)
    obtain rfl : exponent = -e := by omega
    have h := roundsTo_ofQuotient negative digits (Nat.pow_pos (n := e) (show 0 < 10 by decide))
    rw [zpow_neg, ← div_eq_mul_inv, neg_neg]
    exact_mod_cast h

/-! ### Whole numbers -/

theorem ne_infiniteCode {code : ℕ} (h : IsDouble (magnitude code)) : code ≠ infiniteCode := by
  obtain ⟨finite, hfinite, heq⟩ := h
  exact magnitude_strictMono.injective heq ▸ hfinite.ne

theorem isDouble_natCast {n : ℕ} (h : n ≤ 2 ^ 53) : IsDouble n := by
  have hdouble := isDouble_mul_two_pow h (Nat.zero_le 970)
  rwa [pow_zero, mul_one] at hdouble

/-- A whole number of at most 53 bits is a double. -/
theorem exists_ofNat {n : ℕ} (h : n ≤ 2 ^ 53) :
    ∃ code, ofNat n = signed false code ∧ magnitude code = n ∧ code.val ≠ infiniteCode := by
  obtain ⟨code, hcode, hrounded⟩ := roundsTo_ofNat n
  have hmagnitude := hrounded.magnitude_eq (isDouble_natCast h)
  exact ⟨code, hcode, hmagnitude, ne_infiniteCode (hmagnitude ▸ isDouble_natCast h)⟩

theorem rounded_natCast (n : ℕ) : Rounded n (nearest (n * unitsPerOne) 1) := by
  obtain ⟨code, hcode, hrounded⟩ := roundsTo_ofNat n
  cases hcode
  exact hrounded

theorem magnitude_of_units {code m : ℕ} (h : units code = m * unitsPerOne) :
    magnitude code = m := by
  rw [magnitude, h, Nat.cast_mul, mul_div_cancel_right₀ _ unitsPerOne_pos.ne']

/-- A rounded number is rounded to itself again. -/
theorem Rounded.rounded_magnitude {q : ℚ} {code : ℕ} (h : Rounded q code) :
    Rounded (magnitude code) code :=
  Binary64.rounded_magnitude h.le_infiniteCode

end Binary64

end BulkProvision
