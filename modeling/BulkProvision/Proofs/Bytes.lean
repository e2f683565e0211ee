import BulkProvision.Coercion
import Mathlib.Data.List.TakeWhile

/-!
# Scanning bytes

A number may be scanned in the bytes of a text as well as in its characters.  `Text.bytes` are the
bytes of a text in UTF-8, each held as the character of its number, so that a scanner of characters
can be run on them.  All that a number is written with is ASCII, and no byte of another character
is: a scan of the bytes takes the same number, and leaves the bytes of what a scan of the characters
leaves (`Numeral.scan_bytes`, `Coercion.takeRadix_bytes`).  So it stops between two characters
(`Text.isBoundary_append`).
-/

namespace BulkProvision

namespace Text

/-- The bytes of a character in UTF-8, each held as the character of its number. -/
def charBytes (c : Char) : List Char :=
  (String.utf8EncodeChar c).map fun byte => Char.ofNat byte.toNat

/-- The bytes of a text in UTF-8, each held as the character of its number. -/
def bytes (s : List Char) : List Char := s.flatMap charBytes

/-- An offset in bytes that lies between two characters of the text, or at one of its ends. -/
def IsBoundary (s : List Char) (offset : Nat) : Prop :=
  (⟨offset⟩ : String.Pos.Raw).IsValid (String.ofList s)

/-- A class of ASCII characters. -/
def IsAscii (p : Char → Bool) : Prop := ∀ c, p c = true → c.toNat < 128

/-- What holds of the first 128 characters holds of all that are ASCII. -/
theorem forall_ascii {P : Char → Prop} (h : ∀ n < 128, P (Char.ofNat n)) {c : Char}
    (hc : c.toNat < 128) : P c :=
  Char.ofNat_toNat c ▸ h c.toNat hc

@[simp] theorem bytes_nil : bytes [] = [] := rfl

theorem bytes_cons (c : Char) (s : List Char) : bytes (c :: s) = charBytes c ++ bytes s := rfl

theorem bytes_append (s t : List Char) : bytes (s ++ t) = bytes s ++ bytes t :=
  List.flatMap_append

theorem toNat_ofNat_byte (byte : UInt8) : (Char.ofNat byte.toNat).toNat = byte.toNat := by
  have hlt := byte.toNat_lt
  have hvalid : byte.toNat.isValidChar := .inl (by omega)
  rw [Char.ofNat, dif_pos hvalid]
  rfl

theorem charBytes_of_ascii {c : Char} (h : c.toNat < 128) : charBytes c = [c] := by
  have hle : c.val.toNat ≤ 0x7f := by
    have : c.val.toNat = c.toNat := rfl
    omega
  have hbyte : (UInt8.ofNat c.val.toNat).toNat = c.toNat := by
    rw [UInt8.toNat_ofNat']
    exact Nat.mod_eq_of_lt (by omega)
  rw [charBytes, String.utf8EncodeChar, if_pos hle, List.map_singleton, hbyte, Char.ofNat_toNat]

/-- A character that is not ASCII has no ASCII byte. -/
theorem le_of_mem_charBytes {c b : Char} (h : 128 ≤ c.toNat) (hb : b ∈ charBytes c) :
    128 ≤ b.toNat := by
  obtain ⟨byte, hbyte, rfl⟩ := List.mem_map.1 hb
  have hc : c.val.toNat = c.toNat := rfl
  rw [toNat_ofNat_byte]
  rw [String.utf8EncodeChar, if_neg (by omega)] at hbyte
  split_ifs at hbyte <;>
    simp only [List.mem_cons, List.not_mem_nil, or_false] at hbyte <;>
    rcases hbyte with rfl | rfl | rfl | rfl <;>
    rw [UInt8.toNat_ofNat'] <;> omega

theorem charBytes_ne_nil (c : Char) : charBytes c ≠ [] := by
  rw [charBytes, Ne, List.map_eq_nil_iff]
  exact String.utf8EncodeChar_ne_nil

/-- The first byte of a text is its first character, where that is ASCII, and no ASCII byte
otherwise. -/
theorem exists_bytes_cons (c : Char) (s : List Char) :
    ∃ b rest, bytes (c :: s) = b :: rest ∧
      (c.toNat < 128 ∧ b = c ∧ rest = bytes s ∨ 128 ≤ c.toNat ∧ 128 ≤ b.toNat) := by
  rcases Nat.lt_or_ge c.toNat 128 with hascii | hother
  · exact ⟨c, bytes s, by rw [bytes_cons, charBytes_of_ascii hascii]; rfl, .inl ⟨hascii, rfl, rfl⟩⟩
  · obtain ⟨b, others, hbytes⟩ := List.exists_cons_of_ne_nil (charBytes_ne_nil c)
    refine ⟨b, others ++ bytes s, by rw [bytes_cons, hbytes]; rfl, .inr ⟨hother, ?_⟩⟩
    exact le_of_mem_charBytes hother (hbytes ▸ List.mem_cons_self)

theorem IsAscii.eq_false {p : Char → Bool} (hp : IsAscii p) {c : Char} (h : 128 ≤ c.toNat) :
    p c = false :=
  Bool.eq_false_iff.2 fun hc => absurd (hp c hc) (by omega)

/-- The longest run of an ASCII class is the same in the bytes of a text, and what follows are the
bytes of what follows. -/
theorem span_bytes {p : Char → Bool} (hp : IsAscii p) (s : List Char) :
    (bytes s).takeWhile p = s.takeWhile p ∧ (bytes s).dropWhile p = bytes (s.dropWhile p) := by
  induction s with
  | nil => exact ⟨rfl, rfl⟩
  | cons c s ih =>
    obtain ⟨b, rest, hbytes, ⟨-, rfl, rfl⟩ | ⟨hc, hb⟩⟩ := exists_bytes_cons c s
    · cases hp : p b <;> simp [hbytes, hp, ih]
    · simp [hbytes, hp.eq_false hb, hp.eq_false hc]

/-- ASCII characters are their own bytes. -/
theorem bytes_of_ascii {s : List Char} (h : ∀ c ∈ s, c.toNat < 128) : bytes s = s := by
  induction s with
  | nil => rfl
  | cons c s ih =>
    obtain ⟨hc, hs⟩ := List.forall_mem_cons.1 h
    rw [bytes_cons, charBytes_of_ascii hc, ih hs]
    rfl

/-- The bytes of a text start with ASCII characters as the text does. -/
theorem isPrefix_bytes_iff {start : List Char} (h : ∀ c ∈ start, c.toNat < 128) (s : List Char) :
    start <+: bytes s ↔ start <+: s := by
  constructor
  · intro hstart
    induction start generalizing s with
    | nil => exact List.nil_prefix
    | cons a start ih =>
      obtain ⟨ha, hothers⟩ := List.forall_mem_cons.1 h
      cases s with
      | nil => exact absurd (List.prefix_nil.1 hstart) (List.cons_ne_nil _ _)
      | cons c s =>
        obtain ⟨b, rest, hbytes, ⟨-, rfl, rfl⟩ | ⟨-, hb⟩⟩ := exists_bytes_cons c s
        · rw [hbytes, List.cons_prefix_cons] at hstart
          exact List.cons_prefix_cons.2 ⟨hstart.1, ih hothers s hstart.2⟩
        · rw [hbytes, List.cons_prefix_cons] at hstart
          obtain ⟨rfl, -⟩ := hstart
          omega
  · rintro ⟨rest, rfl⟩
    rw [bytes_append, bytes_of_ascii h]
    exact List.prefix_append _ _

theorem length_bytes (s : List Char) : (bytes s).length = (String.ofList s).utf8ByteSize := by
  induction s with
  | nil => rfl
  | cons c s ih =>
    rw [bytes_cons, List.length_append, ih, charBytes, List.length_map,
      String.length_utf8EncodeChar]
    simp [String.ofList_cons]

/-- What is in front of a part of the text ends at a boundary. -/
theorem isBoundary_append (before after : List Char) :
    IsBoundary (before ++ after) (bytes before).length := by
  refine String.Pos.Raw.isValid_iff_exists_append.2
    ⟨String.ofList before, String.ofList after, String.ofList_append, ?_⟩
  rw [length_bytes]
  rfl

theorem ne_of_not_ascii {c d : Char} (hc : 128 ≤ c.toNat) (hd : d.toNat < 128) : c ≠ d := by
  rintro rfl
  omega

theorem isAscii_isDigit (radix : Nat) : IsAscii (isDigit radix) := by
  intro c hc
  rw [isDigit, digit?] at hc
  split_ifs at hc with h1 h2 h3
  · exact lt_of_le_of_lt (Char.le_def.1 h1.2) (by decide)
  · exact lt_of_le_of_lt (Char.le_def.1 h2.2) (by decide)
  · exact lt_of_le_of_lt (Char.le_def.1 h3.2) (by decide)
  · cases hc

theorem isAscii_isDecimal : IsAscii isDecimal := isAscii_isDigit 10

end Text

/-! ### Scanning bytes -/

open Text

namespace Numeral

theorem takeSign_bytes (s : List Char) :
    takeSign (bytes s) = ((takeSign s).1, bytes (takeSign s).2) := by
  cases s with
  | nil => rfl
  | cons c s =>
    obtain ⟨b, rest, hbytes, ⟨-, rfl, rfl⟩ | ⟨hc, hb⟩⟩ := exists_bytes_cons c s
    · rw [hbytes, takeSign, takeSign]
      split
      · rfl
      · rw [hbytes]
    · have hplain {d : Char} (hd : 128 ≤ d.toNat) : ¬ (d = '+' ∨ d = '-') := not_or.2
        ⟨ne_of_not_ascii hd (by decide), ne_of_not_ascii hd (by decide)⟩
      rw [hbytes, takeSign, takeSign, if_neg (hplain hb), if_neg (hplain hc), hbytes]

theorem takeFraction_bytes (whole s : List Char) :
    takeFraction whole (bytes s) = ((takeFraction whole s).1, bytes (takeFraction whole s).2) := by
  cases s with
  | nil => rfl
  | cons c s =>
    obtain ⟨b, rest, hbytes, ⟨-, rfl, rfl⟩ | ⟨hc, hb⟩⟩ := exists_bytes_cons c s
    · obtain ⟨htake, hdrop⟩ := span_bytes isAscii_isDecimal s
      rw [hbytes, takeFraction, takeFraction, htake, hdrop]
      split
      · rfl
      · rw [hbytes]
    · have hplain {d : Char} (hd : 128 ≤ d.toNat) : d ≠ '.' := ne_of_not_ascii hd (by decide)
      rw [hbytes, takeFraction, takeFraction, if_neg fun h => hplain hb h.1,
        if_neg fun h => hplain hc h.1, hbytes]

theorem takeExponent_bytes (s : List Char) :
    takeExponent (bytes s) = ((takeExponent s).1, bytes (takeExponent s).2) := by
  cases s with
  | nil => rfl
  | cons c s =>
    obtain ⟨b, rest, hbytes, ⟨-, rfl, rfl⟩ | ⟨hc, hb⟩⟩ := exists_bytes_cons c s
    · obtain ⟨htake, hdrop⟩ := span_bytes isAscii_isDecimal (takeSign s).2
      simp only [hbytes, takeExponent, takeSign_bytes, htake, hdrop]
      split
      · rfl
      · rw [hbytes]
    · have hplain {d : Char} (hd : 128 ≤ d.toNat) : ¬ (d = 'e' ∨ d = 'E') := not_or.2
        ⟨ne_of_not_ascii hd (by decide), ne_of_not_ascii hd (by decide)⟩
      simp only [hbytes, takeExponent]
      rw [if_neg fun h => hplain hb h.1, if_neg fun h => hplain hc h.1, hbytes]

/-- **A scan of the bytes** of a text takes the numeral that a scan of its characters takes, and
leaves the bytes of what that leaves. -/
theorem scan_bytes (s : List Char) :
    scan (bytes s) = (scan s).map fun read => (read.1, bytes read.2) := by
  obtain ⟨htake, hdrop⟩ := span_bytes isAscii_isDecimal (takeSign s).2
  simp only [scan, takeSign_bytes, htake, hdrop, takeFraction_bytes, takeExponent_bytes]
  split <;> rfl

end Numeral

namespace Coercion

/-- What marks digits as hexadecimal. -/
def hexMarks : List (List Char) := [['0', 'x'], ['0', 'X']]

theorem ascii_of_mem_hexMarks : ∀ mark ∈ hexMarks, ∀ c ∈ mark, c.toNat < 128 := by
  simp [hexMarks]

theorem exists_letter_of_mem_hexMarks : ∀ mark ∈ hexMarks, ∃ c ∈ mark, isDecimal c = false := by
  have hletters : isDecimal 'x' = false ∧ isDecimal 'X' = false := ⟨rfl, rfl⟩
  simp [hexMarks, hletters]

theorem takeRadix_append {mark : List Char} (h : mark ∈ hexMarks) (s : List Char) :
    takeRadix (mark ++ s) = (16, s) := by
  simp only [hexMarks, List.mem_cons, List.not_mem_nil, or_false] at h
  rcases h with rfl | rfl
  · simp [takeRadix]
  · simp [takeRadix]

theorem takeRadix_of_not_isPrefix {s : List Char} (h : ∀ mark ∈ hexMarks, ¬ mark <+: s) :
    takeRadix s = (10, s) := by
  rw [takeRadix.eq_def]
  split
  · next x rest =>
    rw [if_neg]
    rintro (rfl | rfl)
    · exact h ['0', 'x'] (by decide) ⟨rest, rfl⟩
    · exact h ['0', 'X'] (by decide) ⟨rest, rfl⟩
  · rfl

theorem takeRadix_bytes (s : List Char) :
    takeRadix (bytes s) = ((takeRadix s).1, bytes (takeRadix s).2) := by
  by_cases hmark : ∃ mark ∈ hexMarks, mark <+: s
  · obtain ⟨mark, hmem, rest, rfl⟩ := hmark
    rw [bytes_append, bytes_of_ascii (ascii_of_mem_hexMarks mark hmem), takeRadix_append hmem,
      takeRadix_append hmem]
  · have hplain : ∀ mark ∈ hexMarks, ¬ mark <+: s := fun mark hmem h => hmark ⟨mark, hmem, h⟩
    rw [takeRadix_of_not_isPrefix hplain, takeRadix_of_not_isPrefix fun mark hmem h =>
      hplain mark hmem ((isPrefix_bytes_iff (ascii_of_mem_hexMarks mark hmem) s).1 h)]

end Coercion

end BulkProvision
