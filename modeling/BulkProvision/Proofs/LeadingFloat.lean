import BulkProvision.Proofs.Grammar

/-!
# The number in front of a text

A text is read as a double by its longest numeral, blanks around it left out.  `FloatReading` says
which texts are read as a NaN, which double every other text is read as, and that a scanner of its
bytes stops between two characters.
-/

namespace BulkProvision

namespace Text

theorem dropEnd_append {p : Char → Bool} {after : List Char} (h : ∀ c ∈ after, p c = true)
    (s : List Char) : dropEnd p (s ++ after) = dropEnd p s := by
  rw [dropEnd, dropEnd, List.reverse_append, List.dropWhile_append_of_pos]
  exact fun c hc => h c (List.mem_reverse.1 hc)

/-- Blanks around a text are dropped with those it has itself. -/
theorem trim_append {before after : List Char} (hbefore : ∀ c ∈ before, isBlank c = true)
    (hafter : ∀ c ∈ after, isBlank c = true) (s : List Char) :
    trim (before ++ s ++ after) = trim s := by
  rw [trim, trim, List.append_assoc, List.dropWhile_append_of_pos hbefore, List.dropWhile_append]
  split
  · next h =>
    -- the text is blank itself
    have hall : after.dropWhile isBlank = [] := List.dropWhile_eq_nil_iff.2 hafter
    rw [hall, List.isEmpty_iff.1 h]
  · exact dropEnd_append hafter _

end Text

open Text

namespace Numeral

theorem IsWellFormed.text_ne_nil {n : Numeral} (h : n.IsWellFormed) : n.text ≠ [] := by
  intro hnil
  simp only [text, List.append_eq_nil_iff] at hnil
  obtain ⟨⟨⟨-, hwhole⟩, hfraction⟩, -⟩ := hnil
  obtain ⟨f, hf, -⟩ := h.nonempty.resolve_left (not_not.2 hwhole)
  rw [hf] at hfraction
  cases hfraction

/-- The text of a numeral is read as that numeral, as a whole. -/
theorem IsWellFormed.ofText? {n : Numeral} (h : n.IsWellFormed) : ofText? n.text = some n := by
  obtain ⟨m, rest, hscan, -, hwhole⟩ := scan_append h []
  obtain ⟨rfl, rfl⟩ := hwhole rfl
  rw [List.append_nil] at hscan
  rw [Numeral.ofText?, hscan]

/-- A scan of the bytes stops after as many as the numeral has characters, between two characters
of the text. -/
theorem scan_bytes_of_scan {s rest : List Char} {n : Numeral} (h : scan s = some (n, rest)) :
    scan (bytes s) = some (n, (bytes s).drop n.text.length) ∧ IsBoundary s n.text.length := by
  have hscan : scan (bytes s) = some (n, bytes rest) := by rw [scan_bytes, h, Option.map_some]
  have htext := scan_text h
  have hbytes := scan_text hscan
  constructor
  · rw [hscan, ← hbytes, List.drop_left]
  · rw [← htext, bytes_append] at hbytes
    have hascii : bytes n.text = n.text := (List.append_cancel_right hbytes).symm
    have hboundary := isBoundary_append n.text rest
    rwa [htext, hascii] at hboundary

end Numeral

namespace Text

theorem IsLongestPrefix.unique {l : Language Char} {start other s : List Char}
    (h : IsLongestPrefix l start s) (hother : IsLongestPrefix l other s) : start = other :=
  (List.prefix_of_prefix_length_le h.isPrefix hother.isPrefix
    (hother.longest _ h.isPrefix h.mem)).eq_of_length
      (le_antisymm (hother.longest _ h.isPrefix h.mem) (h.longest _ hother.isPrefix hother.mem))

end Text

namespace Coercion

/-- What is read of a text whose longest numeral is that beginning. -/
structure ReadsNumeral (s : List Char) (start : List Char) (n : Numeral) (x : Binary64) : Prop where
  text : n.text = start
  /-- The beginning is a numeral as a whole, so reading it for itself succeeds. -/
  accepted : Numeral.ofText? start = some n
  value : n.value = x
  /-- The double is the nearest one to what the numeral says, half to even, and no NaN. -/
  nearest : Binary64.RoundsTo (n.sign = some '-') n.magnitude x
  /-- A scanner of the bytes takes the same numeral and as many bytes as it has characters. -/
  bytes : Numeral.scan (bytes s) = some (n, (bytes s).drop start.length)
  /-- The place where a scanner of the bytes stops lies between two characters. -/
  boundary : IsBoundary s start.length

/-- What a text is read as in floating point. -/
structure FloatReading (s : String) : Prop where
  /-- The text is read as NaN where no beginning is a numeral, and only there. -/
  nan_iff : readText s .float = .float .nan ↔
    ∀ start, start <+: trim s.toList → start ≠ [] → start ∉ Numeral.grammar
  /-- Where the text is read as a number, one beginning is the longest numeral. -/
  exists_longest : readText s .float ≠ .float .nan →
    ∃ start, IsLongestPrefix Numeral.grammar start (trim s.toList)
  /-- The text is read as the double that its longest numeral says. -/
  value : ∀ start, IsLongestPrefix Numeral.grammar start (trim s.toList) →
    ∃ n x, readText s .float = .float x ∧ ReadsNumeral (trim s.toList) start n x
  /-- Blanks around the text change nothing. -/
  blanks : ∀ before after, isAllBlank before = true → isAllBlank after = true →
    readText (before ++ s ++ after) .float = readText s .float

theorem readsNumeral_of_scan {s rest : List Char} {n : Numeral}
    (h : Numeral.scan s = some (n, rest)) : ReadsNumeral s n.text n n.value where
  text := rfl
  accepted := (Numeral.isWellFormed_of_scan h).ofText?
  value := rfl
  nearest := n.roundsTo_value
  bytes := (Numeral.scan_bytes_of_scan h).1
  boundary := (Numeral.scan_bytes_of_scan h).2

theorem readText_of_scan {s : String} {n : Numeral} {rest : List Char}
    (h : Numeral.scan (trim s.toList) = some (n, rest)) : readText s .float = .float n.value := by
  rw [readText, leadingFloat, h]

theorem readText_of_scan_eq_none {s : String} (h : Numeral.scan (trim s.toList) = none) :
    readText s .float = .float .nan := by
  rw [readText, leadingFloat, h]

/-- Only a text without a numeral in front is read as a NaN: no numeral says one. -/
theorem readText_eq_nan_iff {s : String} :
    readText s .float = .float .nan ↔ Numeral.scan (trim s.toList) = none := by
  refine ⟨fun h => ?_, readText_of_scan_eq_none⟩
  cases hscan : Numeral.scan (trim s.toList) with
  | none => rfl
  | some read =>
    have hread : Numeral.scan (trim s.toList) = some (read.1, read.2) := hscan
    rw [readText_of_scan hread] at h
    have hnan := read.1.roundsTo_value.isNaN
    rw [Scalar.float.inj h] at hnan
    cases hnan

/-- **The longest numeral is read**, of every text. -/
theorem floatReading (s : String) : FloatReading s where
  nan_iff := by
    rw [readText_eq_nan_iff, Numeral.scan_eq_none_iff]
    refine ⟨fun h start hstart _ => h start hstart, fun h start hstart hmem => ?_⟩
    obtain ⟨n, hn, rfl⟩ := Numeral.mem_grammar.1 hmem
    exact h _ hstart hn.text_ne_nil hmem
  exists_longest h := by
    obtain ⟨read, hscan⟩ := Option.ne_none_iff_exists'.1 fun hnone =>
      h (readText_of_scan_eq_none hnone)
    have hread : Numeral.scan (trim s.toList) = some (read.1, read.2) := hscan
    exact ⟨_, Numeral.isLongestPrefix_of_scan hread⟩
  value start hstart := by
    obtain ⟨read, hscan⟩ := Option.ne_none_iff_exists'.1 fun hnone =>
      Numeral.scan_eq_none_iff.1 hnone start hstart.isPrefix hstart.mem
    have hread : Numeral.scan (trim s.toList) = some (read.1, read.2) := hscan
    obtain rfl := (Numeral.isLongestPrefix_of_scan hread).unique hstart
    exact ⟨_, _, readText_of_scan hread, readsNumeral_of_scan hread⟩
  blanks before after hbefore hafter := by
    rw [isAllBlank, List.all_eq_true] at hbefore hafter
    rw [readText, readText, String.toList_append, String.toList_append, trim_append hbefore hafter]

end Coercion

end BulkProvision
