/-!
# Double-precision numbers

A `Binary64` is a NaN or a sign with a *magnitude code*.  The codes are the natural numbers up to
that of infinity, in the order of the magnitudes they stand for: `Binary64.units` gives the exact
magnitude of a finite code in units of `2^-1074`, the least positive double.  The code is also what
the interchange format holds below the sign bit, so `toBits` and `ofBits` are arithmetic.

Every operation computes its exact result and rounds it once, to the nearest double and half to
even (`Binary64.nearest`).
-/

namespace BulkProvision

namespace Binary64

/-- Number of codes in one binade: `2^52`. -/
def binade : Nat := 0x10000000000000

/-- The code of infinity: one more than that of the greatest finite magnitude. -/
def infiniteCode : Nat := 2047 * binade

end Binary64

/-- A double: a NaN, or a sign and a magnitude. -/
inductive Binary64 where
  | nan
  | signed (negative : Bool) (code : Fin (Binary64.infiniteCode + 1))
  deriving DecidableEq

namespace Binary64

/-! ### Rounding -/

/-- A quotient rounded to the nearest integer, half to even. -/
def roundDiv (num den : Nat) : Nat :=
  let q := num / den
  let r := num % den
  if den < 2 * r then q + 1 else if 2 * r = den then q + q % 2 else q

/-- The exact magnitude of a finite code, in units of `2^-1074`. -/
def units (code : Nat) : Nat :=
  if code < binade then code else (binade + code % binade) <<< (code / binade - 1)

/-- The code nearest to `num / den` units.  Codes of one binade are `2^shift` units apart; a
significand that rounds up to the next power of two carries into the next binade by itself. -/
def nearest (num den : Nat) : Nat :=
  let shift := Nat.log2 (num / den) - 52
  min infiniteCode (shift * binade + roundDiv num (den <<< shift))

theorem nearest_lt (num den : Nat) : nearest num den < infiniteCode + 1 :=
  Nat.lt_succ_of_le (Nat.min_le_left _ _)

/-- The double of that sign nearest to `num / den` units. -/
def ofUnits (negative : Bool) (num den : Nat) : Binary64 :=
  signed negative ⟨nearest num den, nearest_lt num den⟩

/-- Units in one. -/
def unitsPerOne : Nat := 1 <<< 1074

/-- The double of that sign nearest to `num / den`. -/
def ofQuotient (negative : Bool) (num den : Nat) : Binary64 :=
  ofUnits negative (num * unitsPerOne) den

/-- Infinity of that sign. -/
def infinity (negative : Bool) : Binary64 := signed negative (Fin.last _)

/-- Zero of that sign. -/
def zero (negative : Bool) : Binary64 := signed negative ⟨0, Nat.succ_pos _⟩

/-- The double nearest to a natural number. -/
def ofNat (n : Nat) : Binary64 := ofQuotient false n 1

/-- The double nearest to an integer. -/
def ofInt (n : Int) : Binary64 := ofQuotient (n < 0) n.natAbs 1

/-- The double of that sign nearest to `digits · 10^exponent`.  A value far above the greatest
double or far below the least is infinity or zero without forming the power. -/
def ofDecimal (negative : Bool) (digits : Nat) (exponent : Int) : Binary64 :=
  if digits = 0 then zero negative
  else if 0 ≤ exponent then
    if 400 < exponent then infinity negative
    else ofQuotient negative (digits * Nat.pow 10 exponent.toNat) 1
  else if exponent < -400 - (Nat.log2 digits : Int) then zero negative
  else ofQuotient negative digits (Nat.pow 10 (-exponent).toNat)

/-! ### Classes and comparison -/

/-- Whether it is a NaN. -/
def isNaN : Binary64 → Bool
  | nan => true
  | signed .. => false

/-- Whether it is an infinity. -/
def isInfinite : Binary64 → Bool
  | nan => false
  | signed _ c => c.val == infiniteCode

/-- Whether it is a zero, of either sign. -/
def isZero : Binary64 → Bool
  | nan => false
  | signed _ c => c.val == 0

/-- Equality as numbers: a NaN equals nothing, and the two zeros are equal. -/
def numericEq : Binary64 → Binary64 → Bool
  | signed s a, signed t b => a == b && (s == t || a.val == 0)
  | _, _ => false

/-- The place of a number in the order of the numbers, infinities included. -/
def rank (negative : Bool) (code : Nat) : Int := if negative then -code else code

/-- Less as numbers; a NaN is neither less nor greater than anything. -/
def numericLt : Binary64 → Binary64 → Bool
  | signed s a, signed t b => rank s a.val < rank t b.val
  | _, _ => false

/-! ### Arithmetic -/

/-- The number of the other sign. -/
def neg : Binary64 → Binary64
  | nan => nan
  | signed s c => signed (!s) c

/-- The exact value of a finite number, in units. -/
def signedUnits (negative : Bool) (code : Nat) : Int :=
  if negative then -(units code : Int) else units code

/-- The sum, rounded once.  An exact zero is positive unless both terms are negative. -/
def add : Binary64 → Binary64 → Binary64
  | signed s a, signed t b =>
    if a.val = infiniteCode then
      if b.val = infiniteCode ∧ s ≠ t then nan else signed s a
    else if b.val = infiniteCode then signed t b
    else
      let sum := signedUnits s a.val + signedUnits t b.val
      if sum = 0 then zero (s && t) else ofUnits (sum < 0) sum.natAbs 1
  | _, _ => nan

/-- The product, rounded once. -/
def mul : Binary64 → Binary64 → Binary64
  | signed s a, signed t b =>
    if a.val = infiniteCode ∨ b.val = infiniteCode then
      if a.val = 0 ∨ b.val = 0 then nan else infinity (s != t)
    else ofUnits (s != t) (units a.val * units b.val) unitsPerOne
  | _, _ => nan

/-- The quotient, rounded once. -/
def div : Binary64 → Binary64 → Binary64
  | signed s a, signed t b =>
    if a.val = infiniteCode then
      if b.val = infiniteCode then nan else infinity (s != t)
    else if b.val = infiniteCode then zero (s != t)
    else if b.val = 0 then
      if a.val = 0 then nan else infinity (s != t)
    else ofUnits (s != t) (units a.val * unitsPerOne) (units b.val)
  | _, _ => nan

/-! ### The interchange format -/

/-- The bit of the sign: `2^63`. -/
def signBit : Nat := 0x8000000000000000

/-- The 64 bits of the interchange format; the NaN is the quiet one without payload. -/
def toBits : Binary64 → Nat
  | nan => 0x7ff8000000000000
  | signed s c => (if s then signBit else 0) + c.val

/-- The double with these 64 bits; every code above that of infinity is a NaN. -/
def ofBits (bits : Nat) : Binary64 :=
  if h : bits % signBit < infiniteCode + 1 then
    signed (bits / signBit % 2 == 1) ⟨bits % signBit, h⟩
  else nan

/-- The bits of a double stand for it. -/
@[simp] theorem ofBits_toBits (x : Binary64) : ofBits x.toBits = x := by
  cases x with
  | nan => decide
  | signed s c =>
    have hc := c.isLt
    have hi : infiniteCode + 1 < signBit := by decide
    have hp : 0 < signBit := by decide
    have hm : ∀ k, (k * signBit + c.val) % signBit = c.val := fun k => by
      rw [Nat.mul_comm, Nat.mul_add_mod, Nat.mod_eq_of_lt (Nat.lt_trans hc hi)]
    have hd : ∀ k, (k * signBit + c.val) / signBit = k := fun k => by
      rw [Nat.mul_comm, Nat.mul_add_div hp, Nat.div_eq_of_lt (Nat.lt_trans hc hi), Nat.add_zero]
    cases s with
    | false =>
      have hm := hm 0
      have hd := hd 0
      rw [Nat.zero_mul] at hm hd
      simp only [toBits, ofBits, Bool.false_eq_true, if_false, hm, hd, hc, dif_pos]
      rfl
    | true =>
      have hm := hm 1
      have hd := hd 1
      rw [Nat.one_mul] at hm hd
      simp only [toBits, ofBits, if_true, hm, hd, hc, dif_pos]
      rfl

example : (ofDecimal false 1 (-1)).toBits = 0x3fb999999999999a := by decide +kernel
example : (ofDecimal true 5 (-324)).toBits = 0x8000000000000001 := by decide +kernel
example : (ofDecimal false 17976931348623159 292).toBits = 0x7ff0000000000000 := by decide +kernel

end Binary64

end BulkProvision
